import LineShell.Proofs.Token.Reading

/-!
# Reading a line segment by segment

A second reader of lines, without a mode: it jumps over a whole quoted body at once and carries only
the word in progress. Main statement: `tokenize` gives the tokens that this reader gives.
-/

namespace LineShell

namespace Segment

/-- The body of a single quote and what follows it. The body ends at the next single quote or with
the line. -/
def untilQuote (cs : List Char) : List Char × List Char :=
  (cs.takeWhile (· ≠ '\''), (cs.dropWhile (· ≠ '\'')).drop 1)

/-- The body of a double quote, as it is written, and what follows it. A backslash makes a pair with
the character after it, and a double quote in a pair does not end the body. -/
def untilDoubleQuote : List Char → List Char × List Char
  | [] => ([], [])
  | ['\\'] => (['\\'], [])
  | '\\' :: c :: cs => ('\\' :: c :: (untilDoubleQuote cs).1, (untilDoubleQuote cs).2)
  | '"' :: cs => ([], cs)
  | c :: cs => (c :: (untilDoubleQuote cs).1, (untilDoubleQuote cs).2)

/-- What the body of a double quote adds to a word. -/
def unescape : List Char → List Char
  | [] => []
  | ['\\'] => []
  | '\\' :: c :: cs =>
    if c ∈ ['"', '\\', '$', '\x60', '\n'] then c :: unescape cs else '\\' :: c :: unescape cs
  | c :: cs => c :: unescape cs

theorem unescape_cons_of_ne {c : Char} (hc : c ≠ '\\') (cs : List Char) :
    unescape (c :: cs) = c :: unescape cs := by
  rw [unescape]
  · exact fun heq _ => hc heq
  · exact fun _ _ heq _ => hc heq

/-- A character that is neither a backslash on its own nor one with a next character is none. -/
theorem ne_backslash {c : Char} {cs : List Char} (hlone : c = '\\' → cs = [] → False)
    (hpair : ∀ d ds, c = '\\' → cs = d :: ds → False) : c ≠ '\\' := by
  intro hc
  cases cs with
  | nil => exact hlone hc rfl
  | cons d ds => exact hpair d ds hc rfl

theorem length_untilQuote_le (cs : List Char) : (untilQuote cs).2.length ≤ cs.length := by
  have hdrop := (List.dropWhile_suffix (l := cs) (· ≠ '\'')).length_le
  rw [untilQuote, List.length_drop]
  omega

theorem length_untilDoubleQuote_le (cs : List Char) :
    (untilDoubleQuote cs).2.length ≤ cs.length := by
  fun_induction untilDoubleQuote cs <;> simp <;> omega

/-- The tokens of a line from here on, after the word in progress. -/
def read (word : List Char) : List Char → List Token
  | [] => Token.ofWord word
  | ' ' :: cs => Token.ofWord word ++ read [] cs
  | '>' :: '>' :: cs => Token.ofWord word ++ .redirectAppend :: read [] cs
  | '>' :: cs => (if word = ['1'] then [] else Token.ofWord word) ++ .redirectOut :: read [] cs
  | '\'' :: cs => read (word ++ (untilQuote cs).1) (untilQuote cs).2
  | '"' :: cs => read (word ++ unescape (untilDoubleQuote cs).1) (untilDoubleQuote cs).2
  | ['\\'] => Token.ofWord word
  | '\\' :: c :: cs => read (word ++ [c]) cs
  | c :: cs => read (word ++ [c]) cs
termination_by cs => cs.length
decreasing_by
  all_goals simp only [List.length_cons]
  all_goals first | omega | skip
  · exact Nat.lt_succ_of_le (length_untilQuote_le cs)
  · exact Nat.lt_succ_of_le (length_untilDoubleQuote_le cs)

end Segment

namespace Scan

open Segment

theorem finish_run_inSingle (tokens : List Token) (word cs : List Char) :
    (run ⟨tokens, word, .inSingle⟩ cs).finish =
      (run ⟨tokens, (untilQuote cs).1.reverse ++ word, .normal⟩ (untilQuote cs).2).finish := by
  induction cs generalizing word with
  | nil => simp [finish_eq, untilQuote]
  | cons c cs ih =>
      rw [run_cons_of_mode_ne (by simp)]
      by_cases hquote : c = '\''
      · subst hquote
        simp [step, enter, untilQuote]
      · simpa [step, push, untilQuote, hquote] using ih (c :: word)

theorem escapedInDouble_iff {c : Char} :
    escapedInDouble c = true ↔ c ∈ ['"', '\\', '$', '\x60', '\n'] := by
  simp [escapedInDouble, or_assoc]

theorem finish_run_inDouble (tokens : List Token) (word cs : List Char) :
    (run ⟨tokens, word, .inDouble⟩ cs).finish =
      (run ⟨tokens, (unescape (untilDoubleQuote cs).1).reverse ++ word, .normal⟩
        (untilDoubleQuote cs).2).finish := by
  fun_induction untilDoubleQuote cs generalizing word with
  | case1 => simp [finish_eq, unescape]
  | case2 => simp [run, step, enter, finish_eq, unescape]
  | case3 c cs ih =>
      rw [run_cons_of_mode_ne (by simp), run_cons_of_mode_ne (by simp [step, enter])]
      by_cases hescaped : c ∈ ['"', '\\', '$', '\x60', '\n']
      · have hstep := escapedInDouble_iff.mpr hescaped
        simpa [step, enter, push, Mode.resume, unescape, hstep, hescaped] using ih (c :: word)
      · have hstep : escapedInDouble c = false := by
          rw [← Bool.not_eq_true, escapedInDouble_iff]
          exact hescaped
        simpa [step, enter, push, Mode.resume, unescape, hstep, hescaped]
          using ih (c :: '\\' :: word)
  | case4 cs =>
      rw [run_cons_of_mode_ne (by simp)]
      simp [step, enter, unescape]
  | case5 c cs hlone hpair hquote ih =>
      have hbackslash := ne_backslash hlone hpair
      rw [run_cons_of_mode_ne (by simp)]
      simpa [step, push, hbackslash, show c ≠ '"' from hquote, unescape_cons_of_ne]
        using ih (c :: word)

theorem finish_run (tokens : List Token) (word cs : List Char) :
    (run ⟨tokens, word.reverse, .normal⟩ cs).finish = tokens.reverse ++ read word cs := by
  -- Wherever the reader stops, the scan is outside quotes and holds the reader's word, reversed.
  fun_induction read word cs generalizing tokens with
  | case1 word => simp [finish_eq]
  | case2 word cs ih =>
      rw [run_cons_of_ne (by decide)]
      simpa [step, stepNormal, flush_eq] using ih (Token.ofWord word ++ tokens)
  | case3 word cs ih =>
      rw [run_redirectAppend rfl]
      simpa [flush_eq, emit] using ih (.redirectAppend :: (Token.ofWord word ++ tokens))
  | case4 word cs hnext ih =>
      have hhead : cs.head? ≠ some '>' := by
        cases cs with
        | nil => simp
        | cons d cs => simpa using fun heq => hnext cs (by rw [heq])
      rw [run_redirectOut rfl hhead]
      by_cases hmarker : word = ['1']
      · subst hmarker
        simpa [dropMarker, flush_eq, emit] using ih (.redirectOut :: tokens)
      · simpa [dropMarker, hmarker, flush_eq, emit] using
          ih (.redirectOut :: (Token.ofWord word ++ tokens))
  | case5 word cs ih =>
      rw [run_cons_of_ne (by decide)]
      simpa [step, stepNormal, enter, finish_run_inSingle] using ih tokens
  | case6 word cs ih =>
      rw [run_cons_of_ne (by decide)]
      simpa [step, stepNormal, enter, finish_run_inDouble] using ih tokens
  | case7 word => simp [run, step, stepNormal, enter, finish_eq]
  | case8 word c cs ih =>
      rw [run_cons_of_ne (by decide), run_cons_of_mode_ne (by simp [step, stepNormal, enter])]
      simpa [step, stepNormal, enter, push, Mode.resume] using ih tokens
  | case9 word c cs hspace _ hout hsingle hdouble hlone hpair ih =>
      have hbackslash := ne_backslash hlone hpair
      rw [run_cons_of_ne hout]
      simpa [step, stepNormal, push] using ih tokens

end Scan

/-! ### The tokens of lines -/

/-- The text suits the kind: a word is not empty, and an operator is spelled as it is. -/
def Token.WellFormed (token : Token) : Prop :=
  match token.kind with
  | .word => token.text ≠ ""
  | .redirectOut => token.text = ">"
  | .redirectAppend => token.text = ">>"

theorem Token.WellFormed.text_ne {token : Token} (htoken : token.WellFormed) : token.text ≠ "" := by
  rcases token with ⟨kind, text⟩
  cases kind with
  | word => exact htoken
  | redirectOut => rw [show text = ">" from htoken]; decide
  | redirectAppend => rw [show text = ">>" from htoken]; decide

theorem Token.wellFormed_of_mem_ofWord {word : List Char} {token : Token}
    (htoken : token ∈ Token.ofWord word) : token.WellFormed := by
  unfold ofWord at htoken
  split at htoken
  · simp at htoken
  · rename_i hword
    rw [List.mem_singleton.mp htoken]
    simpa [WellFormed, Token.word] using hword

theorem Segment.wellFormed_of_mem_read {word cs : List Char} {token : Token}
    (htoken : token ∈ read word cs) : token.WellFormed := by
  fun_induction read word cs with
  | case1 word => exact Token.wellFormed_of_mem_ofWord htoken
  | case2 word cs ih =>
      rcases List.mem_append.mp htoken with hword | hrest
      · exact Token.wellFormed_of_mem_ofWord hword
      · exact ih hrest
  | case3 word cs ih =>
      rcases List.mem_append.mp htoken with hword | hrest
      · exact Token.wellFormed_of_mem_ofWord hword
      · rcases List.mem_cons.mp hrest with rfl | hrest
        · rfl
        · exact ih hrest
  | case4 word cs hnext ih =>
      rcases List.mem_append.mp htoken with hword | hrest
      · split at hword
        · simp at hword
        · exact Token.wellFormed_of_mem_ofWord hword
      · rcases List.mem_cons.mp hrest with rfl | hrest
        · rfl
        · exact ih hrest
  | case5 word cs ih => exact ih htoken
  | case6 word cs ih => exact ih htoken
  | case7 word => exact Token.wellFormed_of_mem_ofWord htoken
  | case8 word c cs ih => exact ih htoken
  | case9 word c cs _ _ _ _ _ _ _ ih => exact ih htoken

theorem wellFormed_of_mem_tokenize {line : String} {token : Token}
    (htoken : token ∈ tokenize line) : token.WellFormed := by
  have hread : tokenize line = Segment.read [] line.toList := Scan.finish_run [] [] line.toList
  rw [hread] at htoken
  exact Segment.wellFormed_of_mem_read htoken

/-- **The tokenizer gives the tokens that the reader gives, on every line.** -/
theorem tokenize_eq_read (line : String) : tokenize line = Segment.read [] line.toList :=
  Scan.finish_run [] [] line.toList

end LineShell
