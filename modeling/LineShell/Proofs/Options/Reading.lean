import LineShell.Options.Usage
import Mathlib.Data.List.TakeDrop
import Mathlib.Data.List.TakeWhile

/-!
# How a command line is read

Arguments are sorted and then carried out one after another, so a command line that is carried out
to its end goes on with whatever stands behind it. The lemmas here say so, and what becomes of one
option in either spelling.
-/

namespace LineShell

namespace Argument

variable {text : String} {texts : List String} {argument : Argument} {arguments : List Argument}

theorem ofTexts_cons (htext : text ≠ "--") (hargument : ofText text = .ok argument)
    (texts : List String) : ofTexts (text :: texts) = (ofTexts texts).map (argument :: ·) := by
  rw [ofTexts, if_neg htext, hargument]

theorem exists_of_ofTexts_cons (htext : text ≠ "--")
    (hsorted : ofTexts (text :: texts) = .ok arguments) :
    ∃ argument rest, ofText text = .ok argument ∧ ofTexts texts = .ok rest ∧
      arguments = argument :: rest := by
  rw [ofTexts, if_neg htext] at hsorted
  cases hargument : ofText text with
  | error error => simp [hargument] at hsorted
  | ok argument =>
      cases hrest : ofTexts texts with
      | error error => simp [hargument, hrest, Except.map] at hsorted
      | ok rest =>
          rw [hargument, hrest] at hsorted
          cases hsorted
          exact ⟨argument, rest, rfl, rfl, rfl⟩

/-- Texts without `--` are sorted without regard to what follows. -/
theorem ofTexts_append (hsorted : ofTexts texts = .ok arguments) (hopen : .endOfOptions ∉ arguments)
    (more : List String) : ofTexts (texts ++ more) = (ofTexts more).map (arguments ++ ·) := by
  induction texts generalizing arguments with
  | nil =>
      cases hsorted
      cases hmore : ofTexts more <;> simp [hmore, Except.map]
  | cons text texts ih =>
      by_cases hend : text = "--"
      · rw [ofTexts, if_pos hend] at hsorted
        cases hsorted
        simp at hopen
      · obtain ⟨argument, rest, hargument, hrest, rfl⟩ := exists_of_ofTexts_cons hend hsorted
        rw [List.cons_append, ofTexts_cons hend hargument, ih hrest (by simp_all)]
        cases ofTexts more <;> rfl

theorem ofText_plain (hhead : text.toList.head? ≠ some '-') : ofText text = .ok (.plain text) := by
  unfold ofText
  split
  · rename_i htext
    simp [htext] at hhead
  · rename_i htext
    simp [htext] at hhead
  · rfl

/-! ### The two spellings of an option -/

theorem lookup_longNames_of_mem (hequals : '=' ∈ text.toList) :
    Flag.longNames.lookup text = none := by
  rw [List.lookup_eq_none_iff]
  intro entry hentry
  rw [bne_iff_ne]
  rintro rfl
  revert entry
  decide

theorem cutAtEquals_append {name : String} (hname : '=' ∉ name.toList) (value : String) :
    cutAtEquals (name ++ "=" ++ value) = (name, some value) := by
  have hname : ∀ c ∈ name.toList, decide (c ≠ '=') = true := by
    intro c hc
    exact decide_eq_true (ne_of_mem_of_not_mem hc hname)
  have htext : (name ++ "=" ++ value).toList = name.toList ++ '=' :: value.toList := by simp
  unfold cutAtEquals
  rw [htext, List.span_eq_takeWhile_dropWhile, List.takeWhile_append_of_pos hname,
    List.dropWhile_append_of_pos hname]
  simp

theorem ofText_title (field : Field) :
    ofText (Flag.set field).title = .ok (.option (.set field) false none) := by
  cases field <;> rfl

theorem ofText_title_equals (field : Field) (value : String) :
    ofText ((Flag.set field).title ++ "=" ++ value) =
      .ok (.option (.set field) false (some value)) := by
  have htitle : '=' ∉ (Flag.set field).title.toList := by cases field <;> decide
  have hlong : ofText ((Flag.set field).title ++ "=" ++ value) =
      ofLong ((Flag.set field).title ++ "=" ++ value) := by
    cases field <;> simp [ofText, Flag.title]
  have hlookup : Flag.longNames.lookup (Flag.set field).title = some (.set field) := by
    cases field <;> rfl
  rw [hlong, ofLong, cutAtEquals_append htitle, lookup_longNames_of_mem (by simp)]
  simp only [hlookup]

end Argument

namespace Settings

variable {settings between : Settings} {arguments : List Argument} {leftovers : List String}

theorem map_leaveOver_eq_ok {text : String} {result : Except Stop (Settings × List String)}
    (hresult : result.map (leaveOver text) = .ok (between, leftovers)) :
    ∃ rest, result = .ok (between, rest) ∧ leftovers = text :: rest := by
  cases result with
  | error stop => cases hresult
  | ok pair =>
      cases hresult
      exact ⟨pair.2, rfl, rfl⟩

/-- An argument list that is carried out to its end goes on with whatever stands behind it. -/
theorem read_append (hread : settings.read arguments = .ok (between, leftovers))
    (more : List Argument) :
    settings.read (arguments ++ more) =
      (between.read more).map fun result => (result.1, leftovers ++ result.2) := by
  fun_induction read settings arguments generalizing leftovers with
  | case1 settings =>
      cases hread
      cases hmore : between.read more <;> simp [hmore, Except.map]
  | case2 | case3 | case4 | case6 | case8 => simp_all
  | case5 | case7 => simp_all [read]
  | case9 settings text arguments ih
  | case10 settings text arguments ih
  | case11 settings arguments ih =>
      obtain ⟨rest, hrest, rfl⟩ := map_leaveOver_eq_ok hread
      rw [List.cons_append, read, ih hrest]
      cases between.read more <;> rfl

/-- Where nothing is left over, no argument ends the options. -/
theorem endOfOptions_notMem_of_read (hread : settings.read arguments = .ok (between, [])) :
    .endOfOptions ∉ arguments := by
  fun_induction read settings arguments with
  | case1 => simp
  | case2 | case3 | case4 | case6 | case8 => simp_all
  | case5 | case7 => simp_all
  | case9 | case10 | case11 =>
      obtain ⟨rest, _, hnil⟩ := map_leaveOver_eq_ok hread
      cases hnil

theorem exists_of_ofArguments {texts : List String} (htexts : ofArguments texts = .ok settings) :
    ∃ arguments, Argument.ofTexts texts = .ok arguments ∧
      empty.read arguments = .ok (settings, []) := by
  unfold ofArguments at htexts
  cases hsorted : Argument.ofTexts texts with
  | error error => simp [hsorted] at htexts
  | ok arguments =>
      cases hread : empty.read arguments with
      | error stop => simp [hsorted, hread] at htexts
      | ok result =>
          obtain ⟨set, leftovers⟩ := result
          cases leftovers with
          | cons leftover leftovers => simp [hsorted, hread] at htexts
          | nil =>
              obtain rfl : set = settings := by simpa [hsorted, hread] using htexts
              exact ⟨arguments, rfl, hread⟩

theorem ofArguments_append {texts more : List String} (htexts : ofArguments texts = .ok settings)
    {added : List Argument} (hmore : Argument.ofTexts more = .ok added)
    (hread : settings.read added = .ok (between, [])) :
    ofArguments (texts ++ more) = .ok between := by
  obtain ⟨arguments, hsorted, hfirst⟩ := exists_of_ofArguments htexts
  have happend := Argument.ofTexts_append hsorted (endOfOptions_notMem_of_read hfirst) more
  rw [hmore] at happend
  have hall := read_append hfirst added
  rw [hread] at hall
  rw [ofArguments, happend]
  simp only [Except.map, hall, List.append_nil]

end Settings

end LineShell
