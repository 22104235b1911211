import LineShell.Proofs.Command.Resolution
import LineShell.Proofs.Token.Spelling

/-!
# Commands that lines can express

A rendered command is read back as it was, as long as it is expressible, and no line at all denotes
a command that is not. So the expressible commands are exactly those that lines denote.
-/

namespace LineShell

namespace Scan

/-! ### Words between double quotes -/

theorem flush_toList (tokens : List Token) (mode : Mode) {text : String} (htext : text ≠ "") :
    flush ⟨tokens, text.toList.reverse, mode⟩ = ⟨.word text :: tokens, [], mode⟩ := by
  rw [flush_eq, List.reverse_reverse, Token.ofWord_toList htext]
  rfl

theorem flush_run_enquote (tokens : List Token) {texts : List String} (hne : texts ≠ [])
    (htexts : ∀ text ∈ texts, text ≠ "") :
    (run ⟨tokens, [], .normal⟩ (" ".intercalate (texts.map Text.enquote)).toList).flush =
      ⟨(texts.map Token.word).reverse ++ tokens, [], .normal⟩ := by
  induction texts generalizing tokens with
  | nil => exact absurd rfl hne
  | cons text texts ih =>
      have htext : text ≠ "" := htexts text (by simp)
      cases texts with
      | nil =>
          have hrun := run_enquote tokens [] text []
          rw [List.append_nil, List.append_nil, run_nil] at hrun
          simp only [List.map_cons, List.map_nil, String.intercalate_singleton]
          rw [hrun, flush_toList tokens .normal htext]
          rfl
      | cons next texts =>
          have hrest := ih (.word text :: tokens) (by simp) fun other hother =>
            htexts other (List.mem_cons_of_mem _ hother)
          rw [List.map_cons, List.map_cons, String.intercalate_cons_cons, String.toList_append,
            String.toList_append, List.append_assoc, run_enquote, List.append_nil]
          change (run _ (' ' :: _)).flush = _
          rw [run_space rfl, flush_toList tokens .normal htext]
          simpa using hrest

end Scan

/-! ### The tokens of a rendered command -/

namespace Redirect

/-- The word that selects standard error. -/
def mark (redirect : Redirect) : List String :=
  match redirect.descriptor with
  | .stdout => []
  | .stderr => ["2"]

def operatorToken (redirect : Redirect) : Token :=
  if redirect.append then .redirectAppend else .redirectOut

theorem isRedirect_operatorToken (redirect : Redirect) :
    redirect.operatorToken.isRedirect = true := by
  unfold operatorToken
  split <;> rfl

theorem kind_operatorToken (redirect : Redirect) :
    decide (redirect.operatorToken.kind = .redirectAppend) = redirect.append := by
  rcases redirect with ⟨descriptor, path, append⟩
  cases append <;> rfl

end Redirect

namespace Scan

/-- An operator between spaces is read as its tokens. -/
theorem run_operator (tokens : List Token) (redirect : Redirect) (ds : List Char) :
    run ⟨tokens, [], .normal⟩ (redirect.operator.toList ++ ' ' :: ds) =
      run ⟨redirect.operatorToken :: (redirect.mark.map Token.word).reverse ++ tokens, [], .normal⟩
        ds := by
  rcases redirect with ⟨descriptor, path, append⟩
  cases descriptor <;> cases append <;> simp only [Redirect.operator]
  · change run _ ('>' :: ' ' :: ds) = _
    rw [run_redirectOut rfl (by simp), run_space rfl]
    rfl
  · change run _ ('>' :: '>' :: ' ' :: ds) = _
    rw [run_redirectAppend rfl, run_space rfl]
    rfl
  · change run _ ('2' :: '>' :: ' ' :: ds) = _
    rw [run_cons_of_ne (by decide), run_redirectOut rfl (by simp), run_space rfl]
    rfl
  · change run _ ('2' :: '>' :: '>' :: ' ' :: ds) = _
    rw [run_cons_of_ne (by decide), run_redirectAppend rfl, run_space rfl]
    rfl

end Scan

namespace Command

variable {command : Command}

theorem Expressible.words_ne (hexpressible : command.Expressible) :
    ∀ word ∈ command.words, word ≠ "" := by
  intro word hword
  rcases List.mem_cons.mp hword with rfl | harg
  · exact hexpressible.name_ne
  · exact hexpressible.args_ne word harg

/-- The words of a rendered command, and its redirect. -/
theorem tokenize_render (hexpressible : command.Expressible) :
    tokenize command.render = match command.redirect with
      | none => command.words.map Token.word
      | some redirect => (command.words ++ redirect.mark).map Token.word ++
          [redirect.operatorToken, .word redirect.path] := by
  set line := (" ".intercalate (command.words.map Text.enquote)).toList with hline
  have hwords : (Scan.start.run line).flush =
      ⟨(command.words.map Token.word).reverse ++ [], [], .normal⟩ :=
    Scan.flush_run_enquote [] (by simp [words]) hexpressible.words_ne
  have hmode : (Scan.start.run line).mode = .normal := by
    simpa [Scan.flush_eq] using congrArg Scan.mode hwords
  rw [tokenize, render, String.toList_append, ← hline]
  cases hredirect : command.redirect with
  | none =>
      have hfinish := congrArg (List.reverse ∘ Scan.tokens) hwords
      simpa [Scan.finish] using hfinish
  | some redirect =>
      have hpath := hexpressible.path_ne redirect hredirect
      have htarget := Scan.run_enquote (redirect.operatorToken ::
        (redirect.mark.map Token.word).reverse ++ (command.words.map Token.word).reverse)
        [] redirect.path []
      rw [List.append_nil, List.append_nil, Scan.run_nil] at htarget
      rw [Scan.run_append (by simp)]
      simp only [String.toList_append, List.append_assoc]
      change ((Scan.start.run line).run (' ' :: (redirect.operator.toList ++
        ' ' :: (Text.enquote redirect.path).toList))).finish = _
      rw [Scan.run_space hmode, hwords, Scan.run_operator, List.append_nil, htarget, Scan.finish_eq,
        List.reverse_reverse, Token.ofWord_toList hpath]
      simp

/-! ### Reading a rendered command -/

theorem ofLine_render_of_expressible (hexpressible : command.Expressible) :
    ofLine command.render = .ok (some command) := by
  rw [ofLine, tokenize_render hexpressible]
  obtain ⟨name, args, redirect⟩ := command
  cases redirect with
  | none =>
      have hwords := ofTokens_of_noOperator name (noOperator_map_word args)
      rwa [Token.map_text_map_word] at hwords
  | some redirect =>
      have hoperator := redirect.isRedirect_operatorToken
      have happend := redirect.kind_operatorToken
      obtain ⟨descriptor, path, append⟩ := redirect
      cases descriptor with
      | stdout =>
          have hlast : (name :: (args.map Token.word).map Token.text).getLast? ≠ some "2" := by
            rw [Token.map_text_map_word]
            exact hexpressible.last_ne _ rfl rfl
          have hredirect := ofTokens_stdout name (.word path) []
            (noOperator_map_word args) hoperator hlast
          rw [Token.map_text_map_word, happend] at hredirect
          simpa [words, Redirect.mark] using hredirect
      | stderr =>
          have hlast : (name :: ((args ++ ["2"]).map Token.word).map Token.text).getLast? =
              some "2" := by
            rw [Token.map_text_map_word, ← List.cons_append, List.getLast?_concat]
          have hredirect := ofTokens_stderr name (.word path) []
            (noOperator_map_word (args ++ ["2"])) hoperator hlast
          rw [Token.map_text_map_word, List.dropLast_concat, happend] at hredirect
          simpa [words, Redirect.mark] using hredirect

theorem expressible_of_ofTokens {tokens : List Token} (htexts : ∀ token ∈ tokens, token.text ≠ "")
    (hcommand : ofTokens tokens = .ok (some command)) : command.Expressible := by
  have hnames : ∀ {before : List Token}, (∀ token ∈ before, token ∈ tokens) →
      ∀ text ∈ before.map Token.text, text ≠ "" := by
    intro before hbefore text htext
    obtain ⟨token, htoken, rfl⟩ := List.mem_map.mp htext
    exact htexts token (hbefore token htoken)
  cases origin_of_ofTokens hcommand with
  | @words name | @trailing name =>
      have hargs := hnames fun token htoken => List.mem_cons_of_mem (.word name) htoken
      exact ⟨htexts (.word name) (by simp), hargs, by simp, by simp⟩
  | @stderr name before after operator target =>
      refine ⟨htexts (.word name) (by simp), fun arg harg => ?_, ?_, by simp⟩
      · exact hnames (fun token htoken => by simp [htoken]) arg (List.dropLast_subset _ harg)
      · simpa using htexts target (by simp)
  | @stdout name before after operator target _ _ hlast =>
      refine ⟨htexts (.word name) (by simp), hnames fun token htoken => by simp [htoken], ?_, ?_⟩
      · simpa using htexts target (by simp)
      · simpa [words] using hlast

theorem expressible_of_ofLine {line : String} (hcommand : ofLine line = .ok (some command)) :
    command.Expressible :=
  expressible_of_ofTokens (fun _ htoken => (wellFormed_of_mem_tokenize htoken).text_ne) hcommand

/-- **The commands of lines.** Rendering an expressible command gives a line that denotes it, and
lines denote no other commands; so every line that denotes a command may be replaced by the
rendering of that command. -/
theorem ofLine_image_eq_expressible :
    (∀ command : Command, command.Expressible → ofLine command.render = .ok (some command)) ∧
    (∀ (line : String) (command : Command),
      ofLine line = .ok (some command) → command.Expressible) ∧
    {command : Command | ∃ line, ofLine line = .ok (some command)} =
      {command : Command | command.Expressible} ∧
    (∀ (line : String) (command : Command),
      ofLine line = .ok (some command) → ofLine command.render = ofLine line) := by
  refine ⟨fun _ => ofLine_render_of_expressible, fun _ _ => expressible_of_ofLine, ?_, ?_⟩
  · ext command
    constructor
    · rintro ⟨line, hline⟩
      exact expressible_of_ofLine hline
    · intro hexpressible
      exact ⟨command.render, ofLine_render_of_expressible hexpressible⟩
  · intro line command hline
    rw [hline]
    exact ofLine_render_of_expressible (expressible_of_ofLine hline)

theorem render_operator_words :
    Expressible ⟨"2>", ["\"", "a \\b", "1"], some ⟨.stdout, ">>", true⟩⟩ ∧
      ofLine (render ⟨"2>", ["\"", "a \\b", "1"], some ⟨.stdout, ">>", true⟩⟩) =
        .ok (some ⟨"2>", ["\"", "a \\b", "1"], some ⟨.stdout, ">>", true⟩⟩) := by
  have hexpressible : Expressible ⟨"2>", ["\"", "a \\b", "1"], some ⟨.stdout, ">>", true⟩⟩ :=
    ⟨by decide, by decide, by simp, by simp [words]⟩
  exact ⟨hexpressible, ofLine_image_eq_expressible.1 _ hexpressible⟩

end Command

end LineShell
