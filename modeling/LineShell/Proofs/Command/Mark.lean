import LineShell.Proofs.Command.Rendering

/-!
# Marks in front of an operator

A bare `1` glued to `>` only says that standard output is meant, and a word `2` in front of an
operator selects standard error. Both marks are told from arguments by their text alone. So quoted
words in front of ` 1>` stay what they are unless the last of them is `2`, and quoted words with `>`
glued to them unless the last is `1`.
-/

namespace LineShell

/-- Words between double quotes, with a space between them. -/
def Text.enquoteAll (words : List String) : String := " ".intercalate (words.map Text.enquote)

namespace Scan

variable {tokens : List Token} {words : List String} {last path : String}

theorem run_enquoteAll (tokens : List Token) (hwords : ∀ word ∈ words, word ≠ "") (last : String)
    (ds : List Char) :
    run ⟨tokens, [], .normal⟩ ((Text.enquoteAll (words ++ [last])).toList ++ ds) =
      run ⟨(words.map Token.word).reverse ++ tokens, last.toList.reverse, .normal⟩ ds := by
  induction words generalizing tokens with
  | nil =>
      rw [List.nil_append, Text.enquoteAll, List.map_singleton, String.intercalate_singleton,
        run_enquote, List.append_nil]
      rfl
  | cons word words ih =>
      obtain ⟨hword, hwords⟩ := List.forall_mem_cons.mp hwords
      have hline : (Text.enquoteAll (word :: (words ++ [last]))).toList =
          (Text.enquote word).toList ++ ' ' :: (Text.enquoteAll (words ++ [last])).toList := by
        cases words <;>
          simp [Text.enquoteAll, String.intercalate_cons_cons]
      rw [List.cons_append, hline, List.append_assoc, run_enquote, List.append_nil,
        List.cons_append, run_space rfl, flush_toList tokens .normal hword, ih _ hwords]
      simp

theorem finish_run_enquote (tokens : List Token) (hpath : path ≠ "") :
    (run ⟨tokens, [], .normal⟩ (Text.enquote path).toList).finish =
      tokens.reverse ++ [.word path] := by
  have hrun := run_enquote tokens [] path []
  rw [List.append_nil, List.append_nil, run_nil] at hrun
  rw [hrun, finish_eq, List.reverse_reverse, Token.ofWord_toList hpath]

theorem flush_dropMarker (tokens : List Token) (hlast : last ≠ "") :
    (dropMarker ⟨tokens, last.toList.reverse, .normal⟩).flush =
      ⟨if last = "1" then tokens else .word last :: tokens, [], .normal⟩ := by
  have hmarker : last.toList.reverse = ['1'] ↔ last = "1" := by
    rw [List.reverse_eq_iff, String.ext_iff]
    rfl
  unfold dropMarker
  by_cases hone : last = "1"
  · rw [if_pos (hmarker.mpr hone), if_pos hone]
    rfl
  · rw [if_neg (mt hmarker.mp hone), if_neg hone, flush_toList tokens .normal hlast]

/-- A `>` glued to quoted words ends the last of them, and takes a last word `1` away. -/
theorem run_glued (hwords : ∀ word ∈ words, word ≠ "") (hlast : last ≠ "") {ds : List Char}
    (hhead : ds.head? ≠ some '>') :
    run start ((Text.enquoteAll (words ++ [last])).toList ++ '>' :: ds) =
      run ⟨.redirectOut :: ((if last = "1" then words else words ++ [last]).map Token.word).reverse,
        [], .normal⟩ ds := by
  rw [start, run_enquoteAll [] hwords, run_redirectOut rfl hhead, flush_dropMarker _ hlast]
  split <;> simp [emit]

end Scan

namespace Command

variable {command : Command} {tokens : List Token} {name path last : String}
  {args words : List String}

/-! ### Lines with a mark and lines with a glued operator -/

/-- The words, ` 1> ` and the target. -/
def markedLine (words : List String) (path : String) : String :=
  Text.enquoteAll words ++ " 1> " ++ Text.enquote path

/-- The words, `>` glued to the last of them, and the target glued to that. -/
def gluedLine (words : List String) (path : String) : String :=
  Text.enquoteAll words ++ ">" ++ Text.enquote path

/-- The words and `>` glued to the last of them, and nothing else. -/
def danglingLine (words : List String) : String := Text.enquoteAll words ++ ">"

theorem tokenize_markedLine (hwords : ∀ word ∈ words, word ≠ "") (hpath : path ≠ "") :
    tokenize (markedLine words path) = words.map Token.word ++ [.redirectOut, .word path] := by
  have hflush : (Scan.start.run (Text.enquoteAll words).toList).flush =
      ⟨(words.map Token.word).reverse, [], .normal⟩ := by
    cases words with
    | nil => rfl
    | cons word words =>
        have hquoted := Scan.flush_run_enquote [] (List.cons_ne_nil word words) hwords
        rwa [List.append_nil] at hquoted
  have hmode : (Scan.start.run (Text.enquoteAll words).toList).mode = .normal := by
    simpa [Scan.flush_eq] using congrArg Scan.mode hflush
  rw [tokenize, markedLine, String.toList_append, String.toList_append, List.append_assoc,
    Scan.run_append (by simp)]
  change ((Scan.start.run (Text.enquoteAll words).toList).run
    (' ' :: '1' :: '>' :: ' ' :: (Text.enquote path).toList)).finish = _
  rw [Scan.run_space hmode, hflush, Scan.run_cons_of_ne (by decide),
    Scan.run_redirectOut rfl (by simp), Scan.run_space rfl]
  change (Scan.run ⟨.redirectOut :: (words.map Token.word).reverse, [], .normal⟩ _).finish = _
  rw [Scan.finish_run_enquote _ hpath]
  simp

theorem tokenize_gluedLine (hwords : ∀ word ∈ words, word ≠ "") (hlast : last ≠ "")
    (hpath : path ≠ "") :
    tokenize (gluedLine (words ++ [last]) path) =
      (if last = "1" then words else words ++ [last]).map Token.word ++
        [.redirectOut, .word path] := by
  have hhead : (Text.enquote path).toList.head? ≠ some '>' := by simp [Text.enquote]
  rw [tokenize, gluedLine, String.toList_append, String.toList_append, List.append_assoc]
  change (Scan.start.run (_ ++ '>' :: (Text.enquote path).toList)).finish = _
  rw [Scan.run_glued hwords hlast hhead, Scan.finish_run_enquote _ hpath]
  simp

theorem tokenize_danglingLine (hwords : ∀ word ∈ words, word ≠ "") (hlast : last ≠ "") :
    tokenize (danglingLine (words ++ [last])) =
      (if last = "1" then words else words ++ [last]).map Token.word ++ [.redirectOut] := by
  rw [tokenize, danglingLine, String.toList_append]
  change (Scan.start.run (_ ++ ['>'])).finish = _
  rw [Scan.run_glued hwords hlast (by simp), Scan.run_nil, Scan.finish_eq]
  simp

/-- Each word of a command takes a token of its line, and a redirect takes two more. -/
theorem length_words_le (hcommand : ofTokens tokens = .ok (some command)) :
    command.words.length + 2 * command.redirect.toList.length ≤ tokens.length := by
  cases origin_of_ofTokens hcommand with
  | words | trailing | stdout => simp [words]
  | stderr =>
      simp [words]
      omega

theorem ofLine_of_tokenize {line : String} (htokens : tokenize line = tokens) :
    ofLine line = ofTokens tokens := by
  rw [ofLine, htokens]

/-! ### What the lines denote -/

/-- **A mark of standard output does not hide a mark of standard error.** Quoted words with ` 1>`
behind them are the command of these words with its standard output redirected, unless the last word
is `2`: that word is taken for a mark in its turn. -/
theorem ofLine_markedLine (name : String) (args : List String) (path : String)
    (hwords : ∀ word ∈ name :: args, word ≠ "") (hpath : path ≠ "") :
    (ofLine (markedLine (name :: args) path) =
      .ok (some ⟨name, args, some ⟨.stdout, path, false⟩⟩) ↔ (name :: args).getLast? ≠ some "2") ∧
    ((name :: args).getLast? = some "2" →
      ofLine (markedLine (name :: args) path) =
        .ok (some ⟨name, args.dropLast, some ⟨.stderr, path, false⟩⟩)) := by
  have hline := ofLine_of_tokenize (tokenize_markedLine hwords hpath)
  rw [List.map_cons, List.cons_append] at hline
  have hstdout :=
    ofTokens_stdout name (.word path) [] (noOperator_map_word args) Token.isRedirect_redirectOut
  have hstderr :=
    ofTokens_stderr name (.word path) [] (noOperator_map_word args) Token.isRedirect_redirectOut
  rw [Token.map_text_map_word, ← hline] at hstdout hstderr
  refine ⟨⟨?_, hstdout⟩, hstderr⟩
  intro hcommand hlast
  simp [hstderr hlast] at hcommand

theorem ofLine_markedLine_odd_words :
    (∀ word ∈ ["2", "1", "a \"b"], word ≠ "") ∧ (">" : String) ≠ "" ∧
      ofLine (markedLine ["2", "1", "a \"b"] ">") =
        .ok (some ⟨"2", ["1", "a \"b"], some ⟨.stdout, ">", false⟩⟩) := by
  have hwords : ∀ word ∈ ["2", "1", "a \"b"], word ≠ "" := by decide
  have hpath : (">" : String) ≠ "" := by decide
  exact ⟨hwords, hpath, (ofLine_markedLine "2" ["1", "a \"b"] ">" hwords hpath).1.mpr (by decide)⟩

/-- `"echo" "2" 1> "f"` loses its argument, and standard error goes to the file. -/
theorem markedLine_two_ne_stdout :
    ofLine (markedLine ["echo", "2"] "f") = .ok (some ⟨"echo", [], some ⟨.stderr, "f", false⟩⟩) ∧
      ofLine (markedLine ["echo", "2"] "f") ≠
        .ok (some ⟨"echo", ["2"], some ⟨.stdout, "f", false⟩⟩) := by
  have hline : ofLine (markedLine ["echo", "2"] "f") =
      .ok (some ⟨"echo", [], some ⟨.stderr, "f", false⟩⟩) := by decide +kernel
  exact ⟨hline, by simp [hline]⟩

/-- **A glued operator keeps every quoted word but a last `1`.** Quoted words with `>` glued to them
are the command of these words, with its standard output redirected if a target follows and with an
argument `>` if nothing does, exactly when the last word is not `1`. A quoted `1` there is read like
the bare mark. -/
theorem ofLine_gluedLine (name : String) (args : List String) (path : String)
    (hwords : ∀ word ∈ name :: args, word ≠ "") (hpath : path ≠ "") :
    ((name :: args).getLast? ≠ some "2" →
      (ofLine (gluedLine (name :: args) path) =
        .ok (some ⟨name, args, some ⟨.stdout, path, false⟩⟩) ↔
        (name :: args).getLast? ≠ some "1")) ∧
    (ofLine (danglingLine (name :: args)) = .ok (some ⟨name, args ++ [">"], none⟩) ↔
      (name :: args).getLast? ≠ some "1") ∧
    tokenize (gluedLine (name :: args ++ ["1"]) path) =
      tokenize (markedLine (name :: args) path) := by
  obtain ⟨before, last, hsplit⟩ : ∃ before last, name :: args = before ++ [last] :=
    ⟨_, _, (List.dropLast_concat_getLast (List.cons_ne_nil name args)).symm⟩
  have hlast : last ≠ "" := hwords last (by simp [hsplit])
  have hbefore : ∀ word ∈ before, word ≠ "" := fun word hword =>
    hwords word (by simp [hsplit, hword])
  have hone : (name :: args).getLast? ≠ some "1" ↔ last ≠ "1" := by simp [hsplit]
  have hlength : args.length = before.length := by simpa using congrArg List.length hsplit
  have hglued := tokenize_gluedLine hbefore hlast hpath
  have hdangling := tokenize_danglingLine hbefore hlast
  rw [← hsplit] at hglued hdangling
  refine ⟨?_, ?_, ?_⟩
  · intro htwo
    rw [hone]
    constructor
    · rintro hcommand rfl
      have hfit := length_words_le hcommand
      rw [hglued] at hfit
      simp [Command.words] at hfit
      omega
    · intro hkept
      rw [if_neg hkept] at hglued
      rw [ofLine_of_tokenize hglued]
      have hstdout := ofTokens_stdout name (.word path) [] (noOperator_map_word args)
        Token.isRedirect_redirectOut (by rwa [Token.map_text_map_word])
      rwa [Token.map_text_map_word] at hstdout
  · rw [hone]
    constructor
    · rintro hcommand rfl
      have hfit := length_words_le hcommand
      rw [hdangling] at hfit
      simp [Command.words] at hfit
      omega
    · intro hkept
      rw [if_neg hkept] at hdangling
      rw [ofLine_of_tokenize hdangling]
      have htrailing :=
        ofTokens_trailing name (noOperator_map_word args) Token.isRedirect_redirectOut
      rwa [List.map_append, Token.map_text_map_word] at htrailing
  · rw [tokenize_gluedLine hwords (by decide) hpath, tokenize_markedLine hwords hpath, if_pos rfl]

theorem ofLine_gluedLine_odd_words :
    (∀ word ∈ ["1", "2", "1>", "\\"], word ≠ "") ∧ (">>" : String) ≠ "" ∧
      ofLine (gluedLine ["1", "2", "1>", "\\"] ">>") =
        .ok (some ⟨"1", ["2", "1>", "\\"], some ⟨.stdout, ">>", false⟩⟩) ∧
      ofLine (danglingLine ["1", "2", "1>", "\\"]) =
        .ok (some ⟨"1", ["2", "1>", "\\", ">"], none⟩) := by
  have hwords : ∀ word ∈ ["1", "2", "1>", "\\"], word ≠ "" := by decide
  have hpath : (">>" : String) ≠ "" := by decide
  obtain ⟨hglued, hdangling, _⟩ := ofLine_gluedLine "1" ["2", "1>", "\\"] ">>" hwords hpath
  exact ⟨hwords, hpath, (hglued (by decide)).mpr (by decide), hdangling.mpr (by decide)⟩

/-- `"echo" "1">` and `"echo" "1">"f"` lose their argument, although it is quoted and although the
operator of the first redirects nothing. -/
theorem gluedLine_one_ne_kept :
    ofLine (danglingLine ["echo", "1"]) = .ok (some ⟨"echo", [">"], none⟩) ∧
      ofLine (danglingLine ["echo", "1"]) ≠ .ok (some ⟨"echo", ["1", ">"], none⟩) ∧
      ofLine (gluedLine ["echo", "1"] "f") = .ok (some ⟨"echo", [], some ⟨.stdout, "f", false⟩⟩) ∧
      ofLine (gluedLine ["echo", "1"] "f") ≠
        .ok (some ⟨"echo", ["1"], some ⟨.stdout, "f", false⟩⟩) := by
  have hdangling : ofLine (danglingLine ["echo", "1"]) = .ok (some ⟨"echo", [">"], none⟩) := by
    decide +kernel
  have hglued : ofLine (gluedLine ["echo", "1"] "f") =
      .ok (some ⟨"echo", [], some ⟨.stdout, "f", false⟩⟩) := by decide +kernel
  exact ⟨hdangling, by simp [hdangling], hglued, by simp [hglued]⟩

end Command

end LineShell
