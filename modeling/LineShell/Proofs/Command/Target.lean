import LineShell.Proofs.Command.Resolution
import LineShell.Proofs.Token.Segment

/-!
# Where the texts of a command come from

The name of a command and its arguments are words of the line, and so is the target of its redirect,
unless a second operator stands directly behind the first: that one is taken for the target by its
spelling. The spelling of an operator is used in one other place, as the last argument where nothing
follows the operator.
-/

namespace LineShell

variable {tokens before after : List Token} {operator target : Token}

/-! ### The first operator -/

theorem findRedirect_append (first : Token) (hbefore : NoOperator before)
    (hoperator : operator.isRedirect = true) :
    findRedirect (first :: (before ++ operator :: after)) = some (before.length + 1) := by
  have hnone : before.findIdx? Token.isRedirect = none := by simpa [NoOperator] using hbefore
  simp [findRedirect, List.findIdx?_append, hnone, List.findIdx?_cons, hoperator]

theorem exists_findRedirect (first : Token) (after : List Token) (hbefore : NoOperator before)
    (hoperator : operator.isRedirect = true) :
    ∃ i, findRedirect (first :: (before ++ operator :: after)) = some i ∧
      (first :: (before ++ operator :: after))[i]? = some operator ∧
      (first :: (before ++ operator :: after))[i + 1]? = after.head? := by
  refine ⟨before.length + 1, findRedirect_append first hbefore hoperator, by simp, ?_⟩
  simp [List.getElem?_append_right, List.head?_eq_getElem?]

theorem Token.WellFormed.cases {token : Token} (htoken : token.WellFormed) :
    token = .word token.text ∨ token = .redirectOut ∨ token = .redirectAppend := by
  rcases token with ⟨kind, text⟩
  cases kind with
  | word => exact .inl rfl
  | redirectOut => exact .inr (.inl (congrArg _ htoken))
  | redirectAppend => exact .inr (.inr (congrArg _ htoken))

theorem NoOperator.word_mem_of_mem_map_text (htokens : NoOperator tokens) {text : String}
    (htext : text ∈ tokens.map Token.text) : .word text ∈ tokens := by
  obtain ⟨token, hmem, rfl⟩ := List.mem_map.mp htext
  have hkind := Token.isRedirect_eq_false_iff.mp (htokens token hmem)
  rcases token with ⟨kind, text⟩
  subst hkind
  exact hmem

namespace Command

variable {command : Command} {redirect : Redirect}

theorem head?_of_ofTokens (hcommand : ofTokens tokens = .ok (some command)) :
    tokens.head? = some (.word command.name) := by
  cases origin_of_ofTokens hcommand <;> rfl

/-- An argument is a word, or an operator that nothing follows. -/
theorem args_of_ofTokens (hcommand : ofTokens tokens = .ok (some command)) {arg : String}
    (harg : arg ∈ command.args) :
    .word arg ∈ tokens ∨ (command.redirect = none ∧ ∃ i operator, findRedirect tokens = some i ∧
      tokens[i]? = some operator ∧ tokens[i + 1]? = none ∧ arg = operator.text) := by
  have hword : ∀ {before : List Token} (first : Token) (after : List Token), NoOperator before →
      arg ∈ before.map Token.text → .word arg ∈ first :: (before ++ after) := by
    intro before first after hbefore hmem
    have hword := hbefore.word_mem_of_mem_map_text hmem
    exact List.mem_cons_of_mem first (List.mem_append_left after hword)
  cases origin_of_ofTokens hcommand with
  | @words name tokens htokens =>
      rw [← List.append_nil tokens]
      exact .inl (hword _ [] htokens harg)
  | @trailing name before operator hbefore hoperator =>
      rw [List.map_append, List.mem_append] at harg
      rcases harg with harg | harg
      · exact .inl (hword _ _ hbefore harg)
      · obtain ⟨i, hfirst, hi, hnext⟩ := exists_findRedirect (.word name) [] hbefore hoperator
        exact .inr ⟨rfl, i, operator, hfirst, hi, hnext, List.mem_singleton.mp harg⟩
  | stderr hbefore => exact .inl (hword _ _ hbefore (List.dropLast_subset _ harg))
  | stdout hbefore => exact .inl (hword _ _ hbefore harg)

/-- A redirect comes from the first operator, and the text of the token behind that is its path. -/
theorem redirect_of_ofTokens (hcommand : ofTokens tokens = .ok (some command))
    (hredirect : command.redirect = some redirect) :
    ∃ i operator target, findRedirect tokens = some i ∧ tokens[i]? = some operator ∧
      operator.isRedirect = true ∧ redirect.append = decide (operator.kind = .redirectAppend) ∧
      tokens[i + 1]? = some target ∧ redirect.path = target.text := by
  cases origin_of_ofTokens hcommand with
  | words | trailing => cases hredirect
  | @stderr name before after operator target hbefore hoperator
  | @stdout name before after operator target hbefore hoperator =>
      cases hredirect
      obtain ⟨i, hfirst, hi, hnext⟩ := 
        exists_findRedirect (.word name) (target :: after) hbefore hoperator
      exact ⟨i, operator, target, hfirst, hi, hoperator, rfl, hnext, rfl⟩

/-! ### The commands of lines -/

/-- **A redirect's target is the word behind the first operator, unless an operator stands there.**
That one gives its spelling as the path. All other texts of a command are words, except that an
operator which nothing follows is an argument. -/
theorem ofLine_texts {line : String} (hcommand : ofLine line = .ok (some command)) :
    (tokenize line).head? = some (.word command.name) ∧
    (∀ arg ∈ command.args, .word arg ∈ tokenize line ∨ (command.redirect = none ∧
      ∃ i operator, findRedirect (tokenize line) = some i ∧ (tokenize line)[i]? = some operator ∧
        (tokenize line)[i + 1]? = none ∧ arg = operator.text)) ∧
    ∀ redirect, command.redirect = some redirect →
      ∃ i operator target, findRedirect (tokenize line) = some i ∧
        (tokenize line)[i]? = some operator ∧
        operator.isRedirect = true ∧ redirect.append = decide (operator.kind = .redirectAppend) ∧
        (tokenize line)[i + 1]? = some target ∧
        (target = .word redirect.path ↔ target.isRedirect = false) ∧
        (target.isRedirect = true →
          (target = .redirectOut ∧ redirect.path = ">") ∨
          (target = .redirectAppend ∧ redirect.path = ">>")) := by
  refine ⟨head?_of_ofTokens hcommand, fun arg => args_of_ofTokens hcommand, ?_⟩
  intro redirect hredirect
  obtain ⟨i, operator, target, hfirst, hi, hoperator, happend, htarget, hpath⟩ :=
    redirect_of_ofTokens hcommand hredirect
  refine ⟨i, operator, target, hfirst, hi, hoperator, happend, htarget, ?_⟩
  rw [hpath]
  rcases (wellFormed_of_mem_tokenize (List.mem_of_getElem? htarget)).cases with hword | rfl | rfl
  · rw [hword]
    simp
  · exact ⟨by simp [Token.word, Token.redirectOut, Token.isRedirect], fun _ => .inl ⟨rfl, rfl⟩⟩
  · exact ⟨by simp [Token.word, Token.redirectAppend, Token.isRedirect], fun _ => .inr ⟨rfl, rfl⟩⟩

/-- The target and an argument look like operators, but are escaped and quoted. -/
theorem ofLine_texts_quoted_target :
    ofLine "echo '>' 2>>\\>1 > f" = .ok (some ⟨"echo", [">"], some ⟨.stderr, ">1", true⟩⟩) ∧
      ∃ i, findRedirect (tokenize "echo '>' 2>>\\>1 > f") = some i ∧
        (tokenize "echo '>' 2>>\\>1 > f")[i + 1]? = some (.word ">1") := by
  have hcommand : ofLine "echo '>' 2>>\\>1 > f" =
      .ok (some ⟨"echo", [">"], some ⟨.stderr, ">1", true⟩⟩) := by
    decide +kernel
  obtain ⟨i, _, target, hfirst, _, _, _, htarget, hword, hspelled⟩ :=
    (ofLine_texts hcommand).2.2 _ rfl
  have hplain : target.isRedirect = false := by
    rw [← Bool.not_eq_true]
    intro hoperator
    simpa using hspelled hoperator
  rw [hword.mpr hplain] at htarget
  exact ⟨hcommand, i, hfirst, htarget⟩

/-- `echo a > > f` writes to a file `>`, although no word of the line says so. -/
theorem ofLine_operator_as_target :
    ofLine "echo a > > f" = .ok (some ⟨"echo", ["a"], some ⟨.stdout, ">", false⟩⟩) ∧
      .word ">" ∉ tokenize "echo a > > f" :=
  ⟨by decide +kernel, by decide +kernel⟩

end Command

end LineShell
