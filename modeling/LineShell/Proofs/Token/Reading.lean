import LineShell.Token.Scan

/-!
# How a scan moves on

A scan reads one character at a time except at `>>`. The lemmas here say when that is so and what
ends a word, so that no later proof opens `Scan.run`, `Scan.flush` or `Scan.finish`.
-/

namespace LineShell

/-- The token of a word. An empty word is none. -/
def Token.ofWord (word : List Char) : List Token :=
  if word = [] then [] else [.word (String.ofList word)]

@[simp]
theorem Token.ofWord_nil : Token.ofWord [] = [] := rfl

@[simp]
theorem Token.reverse_ofWord (word : List Char) :
    (Token.ofWord word).reverse = Token.ofWord word := by
  unfold ofWord
  split <;> rfl

theorem Token.ofWord_toList {text : String} (htext : text ≠ "") :
    Token.ofWord text.toList = [.word text] := by
  rw [ofWord, if_neg (by simpa using htext), String.ofList_toList]

/-- The mode in which the next character is read. -/
def Mode.next (mode : Mode) (c : Char) : Mode :=
  match mode with
  | .normal =>
    if c = '\'' then .inSingle else if c = '"' then .inDouble else if c = '\\' then .escape
      else .normal
  | .inSingle => if c = '\'' then .normal else .inSingle
  | .inDouble => if c = '"' then .normal else if c = '\\' then .escapeInDouble else .inDouble
  | .escape | .escapeInDouble => mode.resume

namespace Scan

variable {scan : Scan} {c : Char} {cs : List Char}

theorem flush_eq (scan : Scan) :
    scan.flush = ⟨Token.ofWord scan.word.reverse ++ scan.tokens, [], scan.mode⟩ := by
  rcases scan with ⟨tokens, word, mode⟩
  cases word with
  | nil => rfl
  | cons c cs => simp [flush, Token.ofWord]

theorem finish_eq (scan : Scan) :
    scan.finish = scan.tokens.reverse ++ Token.ofWord scan.word.reverse := by
  rcases scan with ⟨tokens, word, mode⟩
  cases word with
  | nil => simp [finish, flush]
  | cons c cs => simp [finish, flush, Token.ofWord]

@[simp]
theorem mode_flush (scan : Scan) : scan.flush.mode = scan.mode := by rw [flush_eq]

@[simp]
theorem mode_dropMarker (scan : Scan) : scan.dropMarker.mode = scan.mode := by
  unfold dropMarker
  split <;> rfl

theorem mode_step (scan : Scan) (c : Char) : (scan.step c).mode = scan.mode.next c := by
  rcases scan with ⟨tokens, word, mode⟩
  cases mode with
  | normal =>
      simp only [step, stepNormal, Mode.next]
      split <;> simp_all [enter, push, emit]
  | inSingle =>
      simp only [step, Mode.next]
      split <;> rfl
  | inDouble =>
      simp only [step, Mode.next, apply_ite mode]
      rfl
  | escape | escapeInDouble => simp [step, Mode.next, enter]

@[simp]
theorem run_nil (scan : Scan) : scan.run [] = scan := rfl

/-- Where no `>>` begins, one character is read. -/
theorem run_cons (hsingle : ¬(scan.mode = .normal ∧ c = '>' ∧ cs.head? = some '>')) :
    scan.run (c :: cs) = (scan.step c).run cs := by
  cases cs with
  | nil => rfl
  | cons d cs => rw [run, if_neg (by simpa using hsingle)]

theorem run_cons_of_ne (hc : c ≠ '>') : scan.run (c :: cs) = (scan.step c).run cs :=
  run_cons fun happend => hc happend.2.1

theorem run_cons_of_mode_ne (hmode : scan.mode ≠ .normal) :
    scan.run (c :: cs) = (scan.step c).run cs :=
  run_cons fun happend => hmode happend.1

theorem run_redirectAppend (hmode : scan.mode = .normal) :
    scan.run ('>' :: '>' :: cs) = (scan.flush.emit .redirectAppend).run cs := by
  rw [run, if_pos ⟨hmode, rfl, rfl⟩]

theorem run_redirectOut (hmode : scan.mode = .normal) (hhead : cs.head? ≠ some '>') :
    scan.run ('>' :: cs) = (scan.dropMarker.flush.emit .redirectOut).run cs := by
  rw [run_cons fun happend => hhead happend.2.2, step, hmode]
  rfl

theorem run_space (hmode : scan.mode = .normal) : scan.run (' ' :: cs) = scan.flush.run cs := by
  rw [run_cons_of_ne (by decide), step, hmode]
  rfl

/-- The mode takes one step for each character, also at `>>`, which the scan reads at once. -/
theorem mode_run (scan : Scan) (cs : List Char) :
    (scan.run cs).mode = cs.foldl Mode.next scan.mode := by
  fun_induction run scan cs with
  | case1 scan => rfl
  | case2 scan c => exact mode_step scan c
  | case3 scan c d cs happend ih =>
      obtain ⟨hmode, rfl, rfl⟩ := happend
      rw [ih, emit, mode_flush, hmode]
      rfl
  | case4 scan c d cs hsingle ih => rw [ih, mode_step, ← List.foldl_cons]

/-- A text is read in two parts where no `>>` stands across the cut. None does where the first part
ends inside quotes. -/
theorem run_append_of_mode {ds : List Char}
    (hcut : (scan.run cs).mode = .normal → ds.head? ≠ some '>') :
    scan.run (cs ++ ds) = (scan.run cs).run ds := by
  fun_induction run scan cs with
  | case1 scan => rfl
  | case2 scan c =>
      apply run_cons
      rintro ⟨hmode, rfl, hhead⟩
      exact hcut (by rw [mode_step, hmode]; rfl) hhead
  | case3 scan c d cs happend ih =>
      obtain ⟨hmode, rfl, rfl⟩ := happend
      rw [List.cons_append, List.cons_append, run_redirectAppend hmode]
      exact ih hcut
  | case4 scan c d cs hsingle ih =>
      rw [List.cons_append, run_cons (by simpa using hsingle)]
      exact ih hcut

theorem run_append {ds : List Char} (hhead : ds.head? ≠ some '>') :
    scan.run (cs ++ ds) = (scan.run cs).run ds :=
  run_append_of_mode fun _ => hhead

end Scan

end LineShell
