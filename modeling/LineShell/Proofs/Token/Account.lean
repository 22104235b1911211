import LineShell.Proofs.Token.Segment

/-!
# What becomes of the characters of a line

Tokens hold characters of the line in its order, and nothing else. Spaces, quotes and backslashes
may be missing from them, and so may a `1` in front of a single `>`; every other character is kept.
A backslash between double quotes is held back until the next character decides about it, so a scan
is accounted for together with what it holds.
-/

namespace LineShell

/-- The texts of tokens, one behind another. -/
def Token.texts (tokens : List Token) : List Char := tokens.flatMap fun token => token.text.toList

@[simp]
theorem Token.texts_append (first second : List Token) :
    Token.texts (first ++ second) = Token.texts first ++ Token.texts second :=
  List.flatMap_append

@[simp]
theorem Token.texts_ofWord (word : List Char) : Token.texts (Token.ofWord word) = word := by
  unfold ofWord
  split
  · rename_i hword
    rw [hword]
    rfl
  · simp [texts]

namespace Scan

variable {scan before between after : Scan} {cs ds : List Char}

/-- The characters that have come into tokens and into the word in progress. -/
def text (scan : Scan) : List Char := Token.texts scan.tokens.reverse ++ scan.word.reverse

/-- A backslash that the next character decides about. -/
def held (scan : Scan) : List Char := if scan.mode.escaping then ['\\'] else []

def redirects (scan : Scan) : Nat := scan.tokens.countP (·.kind = .redirectOut)

theorem texts_finish (scan : Scan) : Token.texts scan.finish = scan.text := by
  rw [finish_eq, Token.texts_append, Token.texts_ofWord, text]

theorem countP_finish (scan : Scan) :
    scan.finish.countP (·.kind = .redirectOut) = scan.redirects := by
  rw [finish_eq, List.countP_append, List.countP_reverse, redirects]
  unfold Token.ofWord
  split <;> simp [Token.word]

/-! ### What the parts of a step add -/

@[simp]
theorem text_push (scan : Scan) (c : Char) : (scan.push c).text = scan.text ++ [c] := by
  simp [text, push]

@[simp]
theorem text_flush (scan : Scan) : scan.flush.text = scan.text := by
  simp [text, flush_eq]

theorem text_emit (hword : scan.word = []) (token : Token) :
    (scan.emit token).text = scan.text ++ token.text.toList := by
  simp [text, emit, hword, Token.texts]

theorem text_flush_emit (scan : Scan) (token : Token) :
    (scan.flush.emit token).text = scan.text ++ token.text.toList := by
  rw [text_emit (by rw [flush_eq]), text_flush]

@[simp]
theorem redirects_push (scan : Scan) (c : Char) : (scan.push c).redirects = scan.redirects := rfl

@[simp]
theorem redirects_flush (scan : Scan) : scan.flush.redirects = scan.redirects := by
  rw [flush_eq, redirects, redirects]
  unfold Token.ofWord
  split <;> simp [Token.word]

/-- Only a `1` that is the whole word in progress is dropped. -/
theorem text_dropMarker (scan : Scan) :
    (scan.dropMarker.text = scan.text ∨ scan.dropMarker.text ++ ['1'] = scan.text) ∧
      scan.dropMarker.redirects = scan.redirects := by
  by_cases hword : scan.word = ['1']
  · rw [dropMarker, if_pos hword]
    exact ⟨.inr (by simp [text, hword]), rfl⟩
  · rw [dropMarker, if_neg hword]
    exact ⟨.inl rfl, rfl⟩

/-! ### The account of a scan -/

/-- The characters read between two scans are accounted for. -/
structure Accounts (before : Scan) (cs : List Char) (after : Scan) : Prop where
  sublist : (after.text ++ after.held).Sublist (before.text ++ before.held ++ cs)
  count : ∀ c ∉ [' ', '\'', '"', '\\', '1'], after.text.count c = before.text.count c + cs.count c
  ones : before.text.count '1' + cs.count '1' + before.redirects ≤
    after.text.count '1' + after.redirects

theorem Accounts.refl (scan : Scan) : Accounts scan [] scan where
  sublist := by simp
  count c _ := by simp
  ones := by simp

theorem Accounts.trans (hfirst : Accounts before cs between) (hsecond : Accounts between ds after) :
    Accounts before (cs ++ ds) after where
  sublist := by
    rw [← List.append_assoc]
    exact hsecond.sublist.trans (hfirst.sublist.append_right ds)
  count c hc := by
    rw [hsecond.count c hc, hfirst.count c hc, List.count_append]
    omega
  ones := by
    have hones := hfirst.ones
    have hmore := hsecond.ones
    rw [List.count_append]
    omega

/-- A step that takes no mark away accounts for what it reads if only quoting characters are missing
from what it adds. -/
theorem accounts_of_text_eq {added : List Char} (htext : after.text = before.text ++ added)
    (hredirects : after.redirects = before.redirects)
    (hadded : (added ++ after.held).Sublist (before.held ++ cs))
    (hcount : ∀ c ∉ [' ', '\'', '"', '\\'], added.count c = cs.count c) :
    Accounts before cs after where
  sublist := by
    rw [htext, List.append_assoc, List.append_assoc]
    exact hadded.append_left before.text
  count c hc := by
    have hquoting : c ∉ [' ', '\'', '"', '\\'] := by
      simp only [List.mem_cons, not_or] at hc ⊢
      exact ⟨hc.1, hc.2.1, hc.2.2.1, hc.2.2.2.1, List.not_mem_nil⟩
    rw [htext, List.count_append, hcount c hquoting]
  ones := by
    have hones : after.text.count '1' = before.text.count '1' + cs.count '1' := by
      rw [htext, List.count_append, hcount '1' (by decide)]
    omega

theorem held_eq_nil (hmode : scan.mode.escaping = false) : scan.held = [] := by
  simp [held, hmode]

/-- A character that only separates or quotes is taken for what it does. -/
theorem accounts_quoting {c : Char} (hc : c ∈ [' ', '\'', '"', '\\'])
    (htext : after.text = before.text) (hredirects : after.redirects = before.redirects)
    (hheld : after.held.Sublist (before.held ++ [c])) : Accounts before [c] after := by
  have hnone : after.text = before.text ++ [] := by rw [htext, List.append_nil]
  refine accounts_of_text_eq hnone hredirects hheld ?_
  intro d hd
  have hne : c ≠ d := by
    rintro rfl
    exact hd hc
  simp [hne]

theorem accounts_push (c : Char) (hmode : scan.mode.escaping = false) :
    Accounts scan [c] (scan.push c) := by
  refine accounts_of_text_eq (text_push scan c) (redirects_push scan c) ?_ fun _ _ => rfl
  have hheld : (scan.push c).held = [] := held_eq_nil hmode
  rw [held_eq_nil hmode, hheld]
  exact List.Sublist.refl [c]

theorem accounts_redirectOut (hmode : scan.mode = .normal) :
    Accounts scan ['>'] (scan.dropMarker.flush.emit .redirectOut) := by
  have hheld : held (scan.dropMarker.flush.emit .redirectOut) = [] := by
    refine held_eq_nil ?_
    rw [emit, mode_flush, mode_dropMarker, hmode]
    rfl
  have htext : text (scan.dropMarker.flush.emit .redirectOut) = scan.dropMarker.text ++ ['>'] :=
    text_flush_emit scan.dropMarker .redirectOut
  have hredirects : redirects (scan.dropMarker.flush.emit .redirectOut) = scan.redirects + 1 := by
    rw [← (text_dropMarker scan).2, ← redirects_flush scan.dropMarker]
    exact List.countP_cons_of_pos rfl
  have hmarker := (text_dropMarker scan).1
  refine ⟨?_, ?_, ?_⟩
  · rw [htext, hheld, List.append_nil, held_eq_nil (by rw [hmode]; rfl), List.append_nil]
    refine List.Sublist.append_right ?_ ['>']
    rcases hmarker with hsame | hdropped
    · exact hsame ▸ List.Sublist.refl scan.dropMarker.text
    · rw [← hdropped]
      exact List.sublist_append_left _ _
  · intro c hc
    have hone : ['1'].count c = 0 := by
      refine List.count_eq_zero.mpr fun hmem => hc ?_
      simp [List.mem_singleton.mp hmem]
    rw [htext, List.count_append]
    rcases hmarker with hsame | hdropped
    · rw [hsame]
    · rw [← hdropped, List.count_append, hone, Nat.add_zero]
  · rw [htext, hredirects, List.count_append]
    rcases hmarker with hsame | hdropped
    · rw [hsame]
      omega
    · rw [← hdropped, List.count_append]
      simp only [List.count_singleton_self]
      omega

theorem accounts_stepNormal (hmode : scan.mode = .normal) (c : Char) :
    Accounts scan [c] (scan.stepNormal c) := by
  have hheld : scan.held = [] := held_eq_nil (by rw [hmode]; rfl)
  unfold stepNormal
  split
  · exact accounts_quoting (by decide) rfl rfl (by simp [held, enter, Mode.escaping])
  · exact accounts_quoting (by decide) rfl rfl (by simp [held, enter, Mode.escaping])
  · exact accounts_quoting (by decide) rfl rfl (by simp [held, enter, Mode.escaping])
  · exact accounts_redirectOut hmode
  · refine accounts_quoting (by decide) (text_flush scan) (redirects_flush scan) ?_
    rw [held_eq_nil (by rw [mode_flush, hmode]; rfl)]
    exact List.nil_sublist _
  · exact accounts_push c (by rw [hmode]; rfl)

/-- **One character is accounted for**, whatever the mode it is read in. -/
theorem accounts_step (scan : Scan) (c : Char) : Accounts scan [c] (scan.step c) := by
  cases hmode : scan.mode with
  | normal =>
      rw [step, hmode]
      exact accounts_stepNormal hmode c
  | inSingle =>
      rw [step, hmode]
      dsimp only
      split
      · rename_i hc
        exact accounts_quoting (by simp [hc]) rfl rfl (by simp [held, enter, Mode.escaping])
      · exact accounts_push c (by rw [hmode]; rfl)
  | inDouble =>
      rw [step, hmode]
      dsimp only
      split
      · rename_i hc
        exact accounts_quoting (by simp [hc]) rfl rfl (by simp [held, enter, Mode.escaping])
      · split
        · rename_i hc
          exact accounts_quoting (by simp [hc]) rfl rfl (by simp [held, enter, Mode.escaping, hc])
        · exact accounts_push c (by rw [hmode]; rfl)
  | escape =>
      have hheld : scan.held = ['\\'] := by simp [held, hmode, Mode.escaping]
      rw [step, hmode]
      refine accounts_of_text_eq (text_push scan c) rfl ?_ fun _ _ => rfl
      rw [hheld]
      simp [held, enter, Mode.resume, Mode.escaping]
  | escapeInDouble =>
      have hheld : scan.held = ['\\'] := by simp [held, hmode, Mode.escaping]
      rw [step, hmode]
      dsimp only
      split
      · refine accounts_of_text_eq (text_push scan c) rfl ?_ fun _ _ => rfl
        rw [hheld]
        simp [held, enter, Mode.resume, Mode.escaping]
      · have htext : ((scan.push '\\').push c).text = scan.text ++ ['\\', c] := by simp
        refine accounts_of_text_eq htext rfl ?_ ?_
        · rw [hheld]
          simp [held, enter, Mode.resume, Mode.escaping]
        · intro d hd
          have hne : '\\' ≠ d := by
            rintro rfl
            exact hd (by decide)
          simp [List.count_cons, hne]

theorem accounts_redirectAppend (hmode : scan.mode = .normal) :
    Accounts scan ['>', '>'] (scan.flush.emit .redirectAppend) := by
  have hredirects : redirects (scan.flush.emit .redirectAppend) = scan.redirects := by
    rw [← redirects_flush scan]
    exact List.countP_cons_of_neg (by decide)
  have hheld : held (scan.flush.emit .redirectAppend) = [] := by
    refine held_eq_nil ?_
    rw [emit, mode_flush, hmode]
    rfl
  refine accounts_of_text_eq (text_flush_emit scan .redirectAppend) hredirects ?_ fun _ _ => rfl
  rw [hheld, held_eq_nil (by rw [hmode]; rfl)]
  exact List.Sublist.refl _

/-- **A whole run is accounted for**, wherever it begins and ends. -/
theorem accounts_run (scan : Scan) (cs : List Char) : Accounts scan cs (scan.run cs) := by
  fun_induction run scan cs with
  | case1 scan => exact Accounts.refl scan
  | case2 scan c => exact accounts_step scan c
  | case3 scan c d cs happend ih =>
      obtain ⟨hmode, rfl, rfl⟩ := happend
      exact (accounts_redirectAppend hmode).trans ih
  | case4 scan c d cs hsingle ih => exact (accounts_step scan c).trans ih

end Scan

/-- **Nothing is invented, reordered or lost.** Words are not empty and operators are spelled as
they are. The texts of the tokens are what is left of the line when some spaces, quotes, backslashes
and marks `1` are taken away, no more marks than there are operators `>`. -/
theorem tokenize_accounts (line : String) :
    (∀ token ∈ tokenize line, (token.kind = .word → token.text ≠ "") ∧
      (token.kind = .redirectOut → token.text = ">") ∧
        (token.kind = .redirectAppend → token.text = ">>")) ∧
    (Token.texts (tokenize line)).Sublist line.toList ∧
    (∀ c ∉ [' ', '\'', '"', '\\', '1'],
      (Token.texts (tokenize line)).count c = line.toList.count c) ∧
    line.toList.count '1' ≤
      (Token.texts (tokenize line)).count '1' + (tokenize line).countP (·.kind = .redirectOut) := by
  have haccounts := Scan.accounts_run Scan.start line.toList
  have htexts : Token.texts (tokenize line) = (Scan.start.run line.toList).text :=
    Scan.texts_finish _
  refine ⟨?_, ?_, ?_, ?_⟩
  · intro token htoken
    rcases token with ⟨kind, text⟩
    have hformed := wellFormed_of_mem_tokenize htoken
    cases kind with
    | word => exact ⟨fun _ => hformed, nofun, nofun⟩
    | redirectOut => exact ⟨nofun, fun _ => hformed, nofun⟩
    | redirectAppend => exact ⟨nofun, nofun, fun _ => hformed⟩
  · rw [htexts]
    exact (List.sublist_append_left _ _).trans haccounts.sublist
  · intro c hc
    rw [htexts, haccounts.count c hc]
    exact Nat.zero_add _
  · have hones := haccounts.ones
    have hcount : (tokenize line).countP (·.kind = .redirectOut) =
        (Scan.start.run line.toList).redirects :=
      Scan.countP_finish _
    rw [htexts, hcount]
    simpa [Scan.start, Scan.text, Scan.redirects, Token.texts] using hones

/-- Both marks are taken away, and so is the backslash before `$` but not the one before `a`. -/
theorem tokenize_accounts_two_marks :
    '$' ∉ [' ', '\'', '"', '\\', '1'] ∧
      Token.texts (tokenize "1>\"1\\a\\$\" 1>1 \\") = ">1\\a$>1".toList ∧
      (Token.texts (tokenize "1>\"1\\a\\$\" 1>1 \\")).count '$' =
        "1>\"1\\a\\$\" 1>1 \\".toList.count '$' ∧
      "1>\"1\\a\\$\" 1>1 \\".toList.count '1' =
        (Token.texts (tokenize "1>\"1\\a\\$\" 1>1 \\")).count '1' + 2 := by
  have hkept : '$' ∉ [' ', '\'', '"', '\\', '1'] := by decide
  obtain ⟨_, _, hcount, _⟩ := tokenize_accounts "1>\"1\\a\\$\" 1>1 \\"
  exact ⟨hkept, by decide +kernel, hcount '$' hkept, by decide +kernel⟩

end LineShell
