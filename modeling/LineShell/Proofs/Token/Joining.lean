import LineShell.Proofs.Token.Segment
import Mathlib.Data.Nat.Init

/-!
# Lines put together

Where one text stands behind another, the scan of the first decides what the second is read as. An
unfinished line means the same as the line with its quote closed, and behind that a space starts
afresh. A run of `>` is cut into pairs from its left end, whatever stands on either side of it.
-/

namespace LineShell

namespace Mode

/-- A text that ends in a mode, with its quote closed. A backslash that escapes nothing is taken
away. -/
def close (cs : List Char) : Mode → List Char
  | .normal => cs
  | .inSingle => cs ++ ['\'']
  | .inDouble => cs ++ ['"']
  | .escape => cs.dropLast
  | .escapeInDouble => cs.dropLast ++ ['"']

theorem eq_of_next_escaping {mode : Mode} {c : Char} (hescaping : (mode.next c).escaping = true) :
    c = '\\' := by
  fun_cases next mode c <;> simp_all [next, escaping, resume]

end Mode

namespace Scan

variable {scan : Scan} {cs ds : List Char}

theorem finish_run_afresh (tokens : List Token) (line : String) :
    (run ⟨tokens, [], .normal⟩ line.toList).finish = tokens.reverse ++ tokenize line := by
  have hline : tokenize line = Segment.read [] line.toList := finish_run [] [] line.toList
  rw [hline]
  exact finish_run tokens [] line.toList

/-- An open escape was begun by the last character, and without it the scan stands where the escape
leads back. -/
theorem run_dropLast_of_escaping (hescaping : (start.run cs).mode.escaping = true) :
    start.run cs.dropLast = (start.run cs).enter (start.run cs).mode.resume := by
  rcases List.eq_nil_or_concat cs with rfl | ⟨init, c, rfl⟩
  · simp [start, Mode.escaping] at hescaping
  · rw [List.concat_eq_append] at hescaping ⊢
    have hmode : (start.run (init ++ [c])).mode = (start.run init).mode.next c := by
      rw [mode_run, List.foldl_append, ← mode_run]
      rfl
    rw [hmode] at hescaping ⊢
    obtain rfl := Mode.eq_of_next_escaping hescaping
    have hstep : start.run (init ++ ['\\']) = (start.run init).step '\\' := run_append (by simp)
    rw [List.dropLast_concat, hstep]
    generalize start.run init = scan at hescaping
    rcases scan with ⟨tokens, word, mode⟩
    cases mode with
    | normal | inDouble => rfl
    | inSingle | escape | escapeInDouble =>
      simp [Mode.next, Mode.escaping, Mode.resume] at hescaping

theorem run_close (cs : List Char) :
    start.run ((start.run cs).mode.close cs) = (start.run cs).enter .normal := by
  cases hmode : (start.run cs).mode with
  | normal => rw [Mode.close, enter, ← hmode]
  | inSingle =>
      rw [Mode.close, run_append (by simp)]
      change (start.run cs).step '\'' = _
      rw [step, hmode]
      rfl
  | inDouble =>
      rw [Mode.close, run_append (by simp)]
      change (start.run cs).step '"' = _
      rw [step, hmode]
      rfl
  | escape =>
      rw [Mode.close, run_dropLast_of_escaping (by rw [hmode]; rfl), hmode]
      rfl
  | escapeInDouble =>
      rw [Mode.close, run_append (by simp), run_dropLast_of_escaping (by rw [hmode]; rfl), hmode]
      rfl

/-! ### Runs of `>` -/

/-- The last character is `>`, neither quoted nor escaped, so it belongs to an operator. -/
def EndsInOperator (cs : List Char) : Prop :=
  cs.getLast? = some '>' ∧ (start.run cs.dropLast).mode = .normal

instance : DecidablePred EndsInOperator := fun cs =>
  inferInstanceAs (Decidable (cs.getLast? = some '>' ∧ (start.run cs.dropLast).mode = .normal))

theorem run_append_of_not_endsInOperator (hlast : ¬ EndsInOperator cs) (ds : List Char) :
    start.run (cs ++ ds) = (start.run cs).run ds := by
  rcases List.eq_nil_or_concat cs with rfl | ⟨init, c, rfl⟩
  · rfl
  · rw [List.concat_eq_append] at hlast ⊢
    have hsingle : (start.run init).mode = .normal → c ≠ '>' := by
      rintro hmode rfl
      exact hlast ⟨List.getLast?_concat, by rwa [List.dropLast_concat]⟩
    have hread : ∀ ds, start.run (init ++ c :: ds) = ((start.run init).step c).run ds := by
      intro ds
      rw [run_append_of_mode (by simpa using hsingle), 
        run_cons fun happend => hsingle happend.1 happend.2.1]
    rw [List.append_assoc, List.singleton_append, hread, hread, run_nil]

theorem run_replicate_afresh (tokens : List Token) (count : Nat) (hhead : ds.head? ≠ some '>') :
    run ⟨tokens, [], .normal⟩ (List.replicate count '>' ++ ds) =
      run ⟨List.replicate (count % 2) .redirectOut ++
        (List.replicate (count / 2) .redirectAppend ++ tokens), [], .normal⟩ ds := by
  -- The scan takes two characters at a time, and so does the induction.
  induction count using Nat.twoStepInduction generalizing tokens with
  | zero => rfl
  | one => exact run_redirectOut rfl hhead
  | more count ih _ =>
      rw [List.replicate_succ, List.replicate_succ, List.cons_append, List.cons_append,
        run_redirectAppend rfl]
      change run ⟨.redirectAppend :: tokens, [], .normal⟩ _ = _
      rw [ih, Nat.add_mod_right, Nat.add_div_right count (by decide), List.replicate_succ']
      simp

/-- A run of `>` ends the word in progress, and a single `>` takes a word `1` away. -/
theorem run_replicate (hmode : scan.mode = .normal) {count : Nat} (hcount : 1 ≤ count)
    (hhead : ds.head? ≠ some '>') :
    scan.run (List.replicate count '>' ++ ds) =
      run ⟨List.replicate (count % 2) .redirectOut ++ (List.replicate (count / 2) .redirectAppend ++
        (if count = 1 then scan.dropMarker else scan).flush.tokens), [], .normal⟩ ds := by
  match count, hcount with
  | 1, _ =>
      rw [List.replicate_one, List.singleton_append, run_redirectOut hmode hhead, if_pos rfl]
      simp [flush_eq, emit, hmode]
  | count + 2, _ =>
      rw [List.replicate_succ, List.replicate_succ, List.cons_append, List.cons_append,
        run_redirectAppend hmode,
        flush_eq, emit, hmode, run_replicate_afresh _ _ hhead, if_neg (by omega), Nat.add_mod_right,
        Nat.add_div_right count (by decide), List.replicate_succ']
      simp [flush_eq]

theorem tokens_flush_dropMarker (scan : Scan) :
    scan.dropMarker.flush.tokens.reverse =
      if scan.word = ['1'] then scan.finish.dropLast else scan.finish := by
  by_cases hword : scan.word = ['1']
  · rw [dropMarker, if_pos hword, if_pos hword, finish_eq, hword]
    simp [flush_eq, Token.ofWord]
  · rw [dropMarker, if_neg hword, if_neg hword]
    rfl

end Scan

/-! ### What the lines are read as -/

def closeLine (line : String) : String := String.ofList ((finalMode line).close line.toList)

/-- **A line that ends anywhere means the same as with its quote closed.** With a space behind that,
whatever follows is read as a line of its own. -/
theorem tokenize_closeLine (line more : String) :
    finalMode (closeLine line) = .normal ∧
    tokenize (closeLine line) = tokenize line ∧
    tokenize (closeLine line ++ " " ++ more) = tokenize line ++ tokenize more := by
  have hclosed : Scan.start.run (closeLine line).toList =
      (Scan.start.run line.toList).enter .normal := by
    rw [closeLine, String.toList_ofList, finalMode, Scan.run_close]
  have hfinish : ((Scan.start.run line.toList).enter .normal).finish = tokenize line := by
    rw [tokenize, Scan.finish_eq, Scan.finish_eq]
    rfl
  refine ⟨?_, ?_, ?_⟩
  · rw [finalMode, hclosed]
    rfl
  · rw [tokenize, hclosed, hfinish]
  · have hline : (closeLine line ++ " " ++ more).toList = (closeLine line).toList ++
        ' ' :: more.toList := by simp
    rw [tokenize, hline, Scan.run_append (by simp), hclosed, Scan.run_space rfl, Scan.flush_eq]
    change (Scan.run ⟨_, [], .normal⟩ _).finish = _
    rw [Scan.finish_run_afresh, ← hfinish, Scan.finish_eq]
    simp

/-- The word that the end of a line leaves in progress, or the empty text. -/
def openWord (line : String) : String := String.ofList (Scan.start.run line.toList).word.reverse

/-- **A run of `>` is as many `>>` as it has pairs, and then the `>` that is left.** What stands
before and after it is read as if it stood alone, except that a single `>` takes a word `1` away
that it is glued to. -/
theorem tokenize_replicate (line rest : String) (count : Nat) (hmode : finalMode line = .normal)
    (hlast : ¬ Scan.EndsInOperator line.toList) (hcount : 1 ≤ count)
    (hrest : rest.toList.head? ≠ some '>') :
    tokenize (line ++ String.ofList (List.replicate count '>') ++ rest) =
      (if count = 1 ∧ openWord line = "1" then (tokenize line).dropLast else tokenize line) ++
        List.replicate (count / 2) .redirectAppend ++ List.replicate (count % 2) .redirectOut ++
          tokenize rest := by
  have htext : (line ++ String.ofList (List.replicate count '>') ++ rest).toList =
      line.toList ++ (List.replicate count '>' ++ rest.toList) := by simp
  have hmarker : openWord line = "1" ↔ (Scan.start.run line.toList).word = ['1'] := by
    rw [openWord, String.ext_iff, String.toList_ofList, List.reverse_eq_iff]
    rfl
  rw [tokenize, htext, Scan.run_append_of_not_endsInOperator hlast,
    Scan.run_replicate hmode hcount hrest, Scan.finish_run_afresh]
  have hbefore : (if count = 1 then (Scan.start.run line.toList).dropMarker else
      Scan.start.run line.toList).flush.tokens.reverse =
        if count = 1 ∧ openWord line = "1" then (tokenize line).dropLast else tokenize line := by
    by_cases hone : count = 1
    · simp only [hone, if_true, true_and, hmarker, Scan.tokens_flush_dropMarker]
      rfl
    · simp only [hone, if_false, false_and]
      rfl
  simp only [List.reverse_append, List.reverse_replicate, List.append_assoc, hbefore]

/-- A word `1` is lost in front of one `>`. In front of three, a last `>` that is escaped stays a
word. -/
theorem tokenize_replicate_marks :
    tokenize "a 1>b" = [.word "a", .redirectOut, .word "b"] ∧
      tokenize "1 \\>>>>'b" = [.word "1", .word ">", .redirectAppend, .redirectOut, .word "b"] :=
  ⟨tokenize_replicate "a 1" "b" 1 rfl (by decide) (by decide) (by decide),
    tokenize_replicate "1 \\>" "'b" 3 rfl (by decide) (by decide) (by decide)⟩

end LineShell
