import LineShell.Command.Render
import LineShell.Proofs.Token.Joining

/-!
# Spellings of a word

The characters of a word may be escaped one by one, stand between quotes of either kind, or stand
bare where nothing in them is special. Outside quotes all these spellings leave the scan in the same
place: the word in progress has grown by the word, and nothing else has happened. So a word may be
respelled, as a whole or in parts, wherever it stands.
-/

namespace LineShell

namespace Text

/-- A word between double quotes, with a backslash before each character of a kind. -/
def enquoteBy (guards : Char → Bool) (word : List Char) : List Char :=
  '"' :: word.flatMap (fun c => if guards c then ['\\', c] else [c]) ++ ['"']

theorem toList_enquote (word : String) :
    (enquote word).toList = enquoteBy (fun c => c = '"' ∨ c = '\\') word.toList := by
  have hguarded : guarded = fun c => if decide (c = '"' ∨ c = '\\') then ['\\', c] else [c] := by
    funext c
    simp [guarded]
  rw [enquote, enquoteBy, String.toList_ofList, hguarded]

/-- Outside quotes the character stands for itself. -/
def IsPlain (c : Char) : Prop := c ∉ ['\'', '"', '\\', '>', ' ']

instance : DecidablePred IsPlain := fun c =>
  inferInstanceAs (Decidable (c ∉ ['\'', '"', '\\', '>', ' ']))

end Text

namespace Scan

variable {guards : Char → Bool}

/-! ### One word -/

theorem run_flatMap_escaped (tokens : List Token) (word cs ds : List Char) :
    run ⟨tokens, word, .normal⟩ (cs.flatMap (fun c => ['\\', c]) ++ ds) =
      run ⟨tokens, cs.reverse ++ word, .normal⟩ ds := by
  induction cs generalizing word with
  | nil => rfl
  | cons c cs ih =>
      rw [List.flatMap_cons, List.append_assoc, List.cons_append, List.cons_append,
        run_cons_of_ne (by decide), run_cons_of_mode_ne (by simp [step, stepNormal, enter])]
      simpa [step, stepNormal, enter, push, Mode.resume] using ih (c :: word)

theorem run_flatMap_guarded (hquote : guards '"') (hbackslash : guards '\\')
    (hguards : ∀ c, guards c → escapedInDouble c) (tokens : List Token) (word cs ds : List Char) :
    run ⟨tokens, word, .inDouble⟩
        (cs.flatMap (fun c => if guards c then ['\\', c] else [c]) ++ ds) =
      run ⟨tokens, cs.reverse ++ word, .inDouble⟩ ds := by
  induction cs generalizing word with
  | nil => rfl
  | cons c cs ih =>
      rw [List.flatMap_cons, List.append_assoc]
      cases hc : guards c with
      | true =>
          rw [if_pos rfl, List.cons_append, List.cons_append, run_cons_of_mode_ne (by simp),
            run_cons_of_mode_ne (by simp [step, enter])]
          simpa [step, enter, push, Mode.resume, hguards c hc] using ih (c :: word)
      | false =>
          have hne : c ≠ '"' ∧ c ≠ '\\' := by
            constructor <;> rintro rfl <;> simp_all
          rw [if_neg (by simp), List.cons_append, run_cons_of_mode_ne (by simp)]
          simpa [step, push, hne] using ih (c :: word)

theorem run_enquoteBy (hquote : guards '"') (hbackslash : guards '\\')
    (hguards : ∀ c, guards c → escapedInDouble c) (tokens : List Token) (word cs ds : List Char) :
    run ⟨tokens, word, .normal⟩ (Text.enquoteBy guards cs ++ ds) =
      run ⟨tokens, cs.reverse ++ word, .normal⟩ ds := by
  rw [Text.enquoteBy, List.append_assoc, List.cons_append, run_cons_of_ne (by decide)]
  change run ⟨tokens, word, .inDouble⟩ _ = _
  rw [run_flatMap_guarded hquote hbackslash hguards]
  simp [run_cons_of_mode_ne, step, enter]

theorem run_enquote (tokens : List Token) (word : List Char) (text : String) (ds : List Char) :
    run ⟨tokens, word, .normal⟩ ((Text.enquote text).toList ++ ds) =
      run ⟨tokens, text.toList.reverse ++ word, .normal⟩ ds := by
  rw [Text.toList_enquote]
  refine run_enquoteBy rfl rfl ?_ tokens word text.toList ds
  rintro c hc
  rcases of_decide_eq_true hc with rfl | rfl <;> rfl

theorem run_inSingle (tokens : List Token) (word : List Char) {cs : List Char} (hcs : '\'' ∉ cs)
    (ds : List Char) :
    run ⟨tokens, word, .inSingle⟩ (cs ++ '\'' :: ds) =
      run ⟨tokens, cs.reverse ++ word, .normal⟩ ds := by
  induction cs generalizing word with
  | nil =>
      rw [List.nil_append, run_cons_of_mode_ne (by simp)]
      rfl
  | cons c cs ih =>
      rw [List.mem_cons, not_or] at hcs
      rw [List.cons_append, run_cons_of_mode_ne (by simp)]
      simpa [step, push, Ne.symm hcs.1] using ih (c :: word) hcs.2

theorem run_plain (tokens : List Token) (word : List Char) {cs : List Char}
    (hplain : ∀ c ∈ cs, Text.IsPlain c) (ds : List Char) :
    run ⟨tokens, word, .normal⟩ (cs ++ ds) = run ⟨tokens, cs.reverse ++ word, .normal⟩ ds := by
  induction cs generalizing word with
  | nil => rfl
  | cons c cs ih =>
      obtain ⟨hc, hcs⟩ := List.forall_mem_cons.mp hplain
      simp only [Text.IsPlain, List.mem_cons, List.not_mem_nil, or_false, not_or] at hc
      have hstep : step ⟨tokens, word, .normal⟩ c = ⟨tokens, c :: word, .normal⟩ := by
        simp only [step]
        rw [stepNormal]
        · rfl
        all_goals simp [hc]
      rw [List.cons_append, run_cons_of_ne hc.2.2.2.1, hstep, ih (c :: word) hcs]
      simp

end Scan

/-! ### Any spelling -/

/-- The ways of writing a word so that its characters are read as they are. -/
inductive Spelling where
  /-- a backslash before every character -/
  | escaped
  /-- between double quotes, with a backslash before every character that one can escape there -/
  | guarded
  /-- between double quotes, with a backslash before double quotes and backslashes only -/
  | enquoted
  /-- between single quotes -/
  | verbatim
  | bare
  deriving DecidableEq, Repr

namespace Spelling

variable {spelling : Spelling} {text : String}

def spell (spelling : Spelling) (text : String) : String :=
  match spelling with
  | escaped => String.ofList (text.toList.flatMap fun c => ['\\', c])
  | guarded => String.ofList (Text.enquoteBy escapedInDouble text.toList)
  | enquoted => Text.enquote text
  | verbatim => "'" ++ text ++ "'"
  | bare => text

/-- The text can be spelled in this way. -/
def Suits (text : String) : Spelling → Prop
  | escaped | guarded | enquoted => True
  | verbatim => '\'' ∉ text.toList
  | bare => ∀ c ∈ text.toList, Text.IsPlain c

instance (text : String) : DecidablePred (Suits text)
  | escaped | guarded | enquoted => inferInstanceAs (Decidable True)
  | verbatim => inferInstanceAs (Decidable ('\'' ∉ text.toList))
  | bare => List.decidableBAll Text.IsPlain text.toList

/-- Outside quotes any spelling adds the word to the word in progress, and does nothing else. -/
theorem run_spell (hsuits : spelling.Suits text) (tokens : List Token) (word ds : List Char) :
    Scan.run ⟨tokens, word, .normal⟩ ((spelling.spell text).toList ++ ds) =
      Scan.run ⟨tokens, text.toList.reverse ++ word, .normal⟩ ds := by
  cases spelling with
  | escaped =>
      rw [spell, String.toList_ofList]
      exact Scan.run_flatMap_escaped tokens word text.toList ds
  | guarded =>
      rw [spell, String.toList_ofList]
      exact Scan.run_enquoteBy rfl rfl (fun _ => id) tokens word text.toList ds
  | enquoted => exact Scan.run_enquote tokens word text ds
  | verbatim =>
      have hline : (spell verbatim text).toList ++ ds =
          '\'' :: (text.toList ++ '\'' :: ds) := by simp [spell]
      rw [hline, Scan.run_cons_of_ne (by decide)]
      exact Scan.run_inSingle tokens word hsuits ds
  | bare => exact Scan.run_plain tokens word hsuits ds

theorem head?_spell_ne (hsuits : spelling.Suits text) :
    (spelling.spell text).toList.head? ≠ some '>' := by
  cases spelling with
  | escaped =>
      rw [spell, String.toList_ofList]
      cases text.toList <;> simp
  | guarded => simp [spell, Text.enquoteBy]
  | enquoted => simp [spell, Text.toList_enquote, Text.enquoteBy]
  | verbatim => simp [spell]
  | bare =>
      intro hhead
      exact absurd (hsuits '>' (List.mem_of_mem_head? hhead)) (by decide)

theorem eq_empty_of_spell_eq_nil (hspell : (spelling.spell text).toList = []) : text = "" := by
  rw [← String.toList_eq_nil_iff]
  cases spelling with
  | escaped =>
      rw [spell, String.toList_ofList] at hspell
      cases htext : text.toList with
      | nil => rfl
      | cons c cs => simp [htext] at hspell
  | guarded => simp [spell, Text.enquoteBy] at hspell
  | enquoted => simp [spell, Text.toList_enquote, Text.enquoteBy] at hspell
  | verbatim => simp [spell] at hspell
  | bare => exact hspell

/-! ### Words in pieces -/

/-- The word that pieces make up, each of which has a spelling of its own. -/
def wordOf (pieces : List (Spelling × String)) : String :=
  String.join (pieces.map fun piece => piece.2)

def spellAll (pieces : List (Spelling × String)) : String :=
  String.join (pieces.map fun piece => piece.1.spell piece.2)

theorem wordOf_cons (piece : Spelling × String) (pieces : List (Spelling × String)) :
    wordOf (piece :: pieces) = piece.2 ++ wordOf pieces := by
  simp [wordOf]

theorem spellAll_cons (piece : Spelling × String) (pieces : List (Spelling × String)) :
    spellAll (piece :: pieces) = piece.1.spell piece.2 ++ spellAll pieces := by
  simp [spellAll]

variable {pieces : List (Spelling × String)}

theorem run_spellAll (hpieces : ∀ piece ∈ pieces, piece.1.Suits piece.2) (tokens : List Token)
    (word ds : List Char) :
    Scan.run ⟨tokens, word, .normal⟩ ((spellAll pieces).toList ++ ds) =
      Scan.run ⟨tokens, (wordOf pieces).toList.reverse ++ word, .normal⟩ ds := by
  induction pieces generalizing word with
  | nil => rfl
  | cons piece pieces ih =>
      obtain ⟨hpiece, hpieces⟩ := List.forall_mem_cons.mp hpieces
      rw [spellAll_cons, String.toList_append, List.append_assoc, run_spell hpiece, ih hpieces,
        wordOf_cons, String.toList_append, List.reverse_append, List.append_assoc]

/-- Only pieces without characters can leave the text behind them to be read on its own. -/
theorem head?_spellAll_append (hpieces : ∀ piece ∈ pieces, piece.1.Suits piece.2)
    (hword : wordOf pieces ≠ "") (ds : List Char) :
    ((spellAll pieces).toList ++ ds).head? ≠ some '>' := by
  induction pieces with
  | nil => exact absurd rfl hword
  | cons piece pieces ih =>
      obtain ⟨hpiece, hpieces⟩ := List.forall_mem_cons.mp hpieces
      rw [spellAll_cons, String.toList_append, List.append_assoc]
      cases hspell : (piece.1.spell piece.2).toList with
      | nil =>
          rw [wordOf_cons, eq_empty_of_spell_eq_nil hspell, String.empty_append] at hword
          exact ih hpieces hword
      | cons c cs =>
          have hhead := head?_spell_ne hpiece
          rwa [hspell] at hhead

/-- Behind a line that ends outside quotes, a spelled word is that word added to the word in
progress. -/
theorem run_line_spellAll {line : String} (hmode : finalMode line = .normal)
    (hpieces : ∀ piece ∈ pieces, piece.1.Suits piece.2) (hword : wordOf pieces ≠ "")
    (rest : String) :
    Scan.start.run (line ++ spellAll pieces ++ rest).toList =
      Scan.run ⟨(Scan.start.run line.toList).tokens,
        ((openWord line) ++ wordOf pieces).toList.reverse, .normal⟩
        rest.toList := by
  have hline : Scan.start.run line.toList =
      ⟨(Scan.start.run line.toList).tokens, (Scan.start.run line.toList).word, .normal⟩ := by
    rw [← hmode]
    rfl
  rw [String.toList_append, String.toList_append, List.append_assoc,
    Scan.run_append (head?_spellAll_append hpieces hword _), hline, run_spellAll hpieces]
  simp [openWord]

end Spelling

/-- **A word may be respelled anywhere.** Where a line ends outside quotes, a word that follows
belongs to the word in progress, whichever of its spellings is used, and so the tokens of the whole
line do not depend on the spelling. The same holds where the word is cut into pieces and each piece
has a spelling of its own. -/
theorem tokenize_spell (line word rest : String) (hmode : finalMode line = .normal)
    (hword : word ≠ "") (spelling : Spelling) (hspelling : spelling.Suits word) :
    (finalMode (line ++ spelling.spell word) = .normal ∧
      openWord (line ++ spelling.spell word) = openWord line ++ word) ∧
    (∀ other : Spelling, other.Suits word →
      tokenize (line ++ other.spell word ++ rest) =
        tokenize (line ++ spelling.spell word ++ rest)) ∧
    ∀ pieces : List (Spelling × String), (∀ piece ∈ pieces, piece.1.Suits piece.2) →
      Spelling.wordOf pieces = word →
      tokenize (line ++ Spelling.spellAll pieces ++ rest) =
        tokenize (line ++ spelling.spell word ++ rest) := by
  have hone : ∀ {other : Spelling} (rest : String), other.Suits word →
      Scan.start.run (line ++ other.spell word ++ rest).toList =
        Scan.run ⟨(Scan.start.run line.toList).tokens, (openWord line ++ word).toList.reverse,
          .normal⟩
          rest.toList := by
    intro other rest hother
    have hpieces : ∀ piece ∈ [(other, word)], piece.1.Suits piece.2 := by simpa using hother
    have hrun := Spelling.run_line_spellAll hmode hpieces
      (by simpa [Spelling.wordOf] using hword) rest
    simpa [Spelling.wordOf, Spelling.spellAll] using hrun
  refine ⟨?_, ?_, ?_⟩
  · have hrun := hone "" hspelling
    rw [String.append_empty] at hrun
    rw [finalMode, openWord, hrun]
    exact ⟨rfl, by simp⟩
  · intro other hother
    rw [tokenize, tokenize, hone rest hother, hone rest hspelling]
  · rintro pieces hpieces rfl
    rw [tokenize, tokenize, Spelling.run_line_spellAll hmode hpieces hword, hone rest hspelling]

/-- The word stands between two operators, and a quote behind it is left open. -/
theorem tokenize_spell_between_operators :
    finalMode "a>" = .normal ∧ "1\\$" ≠ "" ∧ Spelling.verbatim.Suits "1\\$" ∧
      openWord ("a>" ++ Spelling.verbatim.spell "1\\$") = "1\\$" ∧
      tokenize ("a>" ++ Spelling.escaped.spell "1\\$" ++ ">'b c") =
        [.word "a", .redirectOut, .word "1\\$", .redirectOut, .word "b c"] ∧
      tokenize ("a>" ++ Spelling.spellAll [(.bare, "1"), (.guarded, ""), (.enquoted, "\\$")] ++
        ">'b c") = [.word "a", .redirectOut, .word "1\\$", .redirectOut, .word "b c"] := by
  have hmode : finalMode "a>" = .normal := by decide
  have hword : "1\\$" ≠ "" := by decide
  have hsuits : Spelling.verbatim.Suits "1\\$" := by decide
  obtain ⟨⟨_, hopen⟩, hother, hpieces⟩ :=
    tokenize_spell "a>" "1\\$" ">'b c" hmode hword .verbatim hsuits
  have hquoted : tokenize ("a>" ++ Spelling.verbatim.spell "1\\$" ++ ">'b c") =
      [.word "a", .redirectOut, .word "1\\$", .redirectOut, .word "b c"] := by decide +kernel
  refine ⟨hmode, hword, hsuits, hopen, ?_, ?_⟩
  · rw [hother .escaped trivial, hquoted]
  · rw [hpieces _ (by decide) (by decide), hquoted]

end LineShell
