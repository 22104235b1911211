import LineShell.Proofs.Command.Target

/-!
# The arrangements of tokens

A list of tokens, from a line or not, is arranged in exactly one of four ways: it is empty, it
begins with something that is no word, it is a name with arguments, or it is a name with arguments,
an operator, a target and a rest that nobody reads. Each arrangement has its command or error. The
positions of the first operator and of its neighbours give the same command.
-/

namespace LineShell

inductive Arrangement where
  | blank
  /-- something else stands where a name is due -/
  | misplaced (first : Token) (rest : List Token)
  /-- a name, and tokens that redirect nothing -/
  | plain (name : String) (rest : List Token)
  | redirected (name : String) (before : List Token) (operator target : Token) (rest : List Token)

namespace Arrangement

variable {arrangement : Arrangement}

def tokens : Arrangement → List Token
  | blank => []
  | misplaced first rest => first :: rest
  | plain name rest => .word name :: rest
  | redirected name before operator target rest =>
    .word name :: (before ++ operator :: target :: rest)

/-- The parts are what their places call for. Tokens redirect nothing without an operator, and when
the first operator is the last token. -/
def Proper : Arrangement → Prop
  | blank => True
  | misplaced first _ => first.kind ≠ .word
  | plain _ rest =>
    NoOperator rest ∨
      ∃ before operator, NoOperator before ∧ operator.isRedirect = true ∧
        rest = before ++ [operator]
  | redirected _ before operator _ _ => NoOperator before ∧ operator.isRedirect = true

/-- A word `2` is the last one before the operator, the name included. -/
def marked (name : String) (before : List Token) : Bool :=
  (name :: before.map Token.text).getLast? = some "2"

def result : Arrangement → Except ShellError (Option Command)
  | blank => .ok none
  | misplaced first _ =>
    .error (.syntaxError ("syntax error near unexpected token `" ++ first.text ++ "'"))
  | plain name rest => .ok (some ⟨name, rest.map Token.text, none⟩)
  | redirected name before operator target _ =>
    let append := decide (operator.kind = .redirectAppend)
    if marked name before then
      .ok (some ⟨name, (before.map Token.text).dropLast, some ⟨.stderr, target.text, append⟩⟩)
    else .ok (some ⟨name, before.map Token.text, some ⟨.stdout, target.text, append⟩⟩)

def of : List Token → Arrangement
  | [] => blank
  | first :: rest =>
    if first.kind ≠ .word then misplaced first rest
    else match splitAtRedirect rest with
      | (before, operator :: target :: after) => redirected first.text before operator target after
      | _ => plain first.text rest

theorem of_plain (name : String) {rest : List Token} (hproper : (plain name rest).Proper) :
    of (.word name :: rest) = plain name rest := by
  rcases hproper with hrest | ⟨before, operator, hbefore, hoperator, rfl⟩
  · simp [of, Token.word, splitAtRedirect_of_noOperator hrest]
  · simp [of, Token.word, splitAtRedirect_append hbefore hoperator]

theorem of_redirected (name : String) {before : List Token} {operator : Token} (target : Token)
    (rest : List Token) (hbefore : NoOperator before) (hoperator : operator.isRedirect = true) :
    of (.word name :: (before ++ operator :: target :: rest)) =
      redirected name before operator target rest := by
  simp [of, Token.word, splitAtRedirect_append hbefore hoperator]

theorem of_tokens (hproper : arrangement.Proper) : of arrangement.tokens = arrangement := by
  cases arrangement with
  | blank => rfl
  | misplaced first rest => exact if_pos hproper
  | plain name rest => exact of_plain name hproper
  | redirected name before operator target rest =>
    exact of_redirected name target rest hproper.1 hproper.2

theorem proper_of (tokens : List Token) : (of tokens).Proper ∧ (of tokens).tokens = tokens := by
  cases tokens with
  | nil => exact ⟨trivial, rfl⟩
  | cons first rest =>
      by_cases hfirst : first.kind = .word
      · obtain ⟨name, rfl⟩ : ∃ name, first = .word name := by
          rcases first with ⟨kind, text⟩
          exact ⟨text, congrArg (Token.mk · text) hfirst⟩
        cases Layout.of rest with
        | words htokens =>
            have hproper : (plain name rest).Proper := .inl htokens
            rw [of_plain name hproper]
            exact ⟨hproper, rfl⟩
        | @trailing before operator hbefore hoperator =>
            have hproper : (plain name (before ++ [operator])).Proper :=
              .inr ⟨before, operator, hbefore, hoperator, rfl⟩
            rw [of_plain name hproper]
            exact ⟨hproper, rfl⟩
        | redirect hbefore hoperator =>
            rw [of_redirected name _ _ hbefore hoperator]
            exact ⟨⟨hbefore, hoperator⟩, rfl⟩
      · rw [of, if_pos hfirst]
        exact ⟨hfirst, rfl⟩

theorem existsUnique (tokens : List Token) :
    ∃! arrangement : Arrangement, arrangement.Proper ∧ arrangement.tokens = tokens := by
  refine ⟨of tokens, proper_of tokens, ?_⟩
  rintro other ⟨hproper, rfl⟩
  exact (of_tokens hproper).symm

theorem ofTokens_tokens (hproper : arrangement.Proper) :
    Command.ofTokens arrangement.tokens = arrangement.result := by
  cases arrangement with
  | blank => rfl
  | misplaced first rest => exact if_pos hproper
  | plain name rest =>
      rcases hproper with hrest | ⟨before, operator, hbefore, hoperator, rfl⟩
      · exact Command.ofTokens_of_noOperator name hrest
      · exact Command.ofTokens_trailing name hbefore hoperator
  | redirected name before operator target rest =>
      obtain ⟨hbefore, hoperator⟩ := hproper
      by_cases hlast : (name :: before.map Token.text).getLast? = some "2"
      · rw [tokens, Command.ofTokens_stderr name target rest hbefore hoperator hlast]
        simp [result, marked, hlast]
      · rw [tokens, Command.ofTokens_stdout name target rest hbefore hoperator hlast]
        simp [result, marked, hlast]

end Arrangement

/-! ### Commands by position -/

theorem findRedirect_of_noOperator (first : Token) {rest : List Token} (hrest : NoOperator rest) :
    findRedirect (first :: rest) = none := by
  simpa [findRedirect, NoOperator] using hrest

namespace Command

/-- The command cut out of the tokens around the first operator. The arguments end before the
operator, or before the mark in front of it. -/
def byPosition (tokens : List Token) : Command :=
  let name := (tokens.head?.map Token.text).getD ""
  match findRedirect tokens with
  | none => ⟨name, (tokens.drop 1).map Token.text, none⟩
  | some i =>
    match tokens[i]?, tokens[i + 1]? with
    | some operator, some target =>
      let marked := tokens[i - 1]?.map Token.text = some "2"
      let args := (tokens.take (if marked then i - 1 else i)).drop 1
      ⟨name, args.map Token.text,
        some ⟨if marked then .stderr else .stdout, target.text, operator.kind = .redirectAppend⟩⟩
    | _, _ => ⟨name, (tokens.drop 1).map Token.text, none⟩

theorem byPosition_plain (name : String) {rest : List Token}
    (hproper : (Arrangement.plain name rest).Proper) :
    byPosition (.word name :: rest) = ⟨name, rest.map Token.text, none⟩ := by
  rcases hproper with hrest | ⟨before, operator, hbefore, hoperator, rfl⟩
  · simp [byPosition, findRedirect_of_noOperator _ hrest]
  · simp [byPosition, findRedirect_append _ hbefore hoperator]

theorem byPosition_redirected (name : String) {before : List Token} {operator : Token}
    (target : Token) (rest : List Token) (hbefore : NoOperator before)
    (hoperator : operator.isRedirect = true) :
    Arrangement.result (.redirected name before operator target rest) =
      .ok (some (byPosition (.word name :: (before ++ operator :: target :: rest)))) := by
  set tokens := Token.word name :: (before ++ operator :: target :: rest) with htokens
  have hfirst : findRedirect tokens = some (before.length + 1) :=
    findRedirect_append _ hbefore hoperator
  have hat : tokens[before.length + 1]? = some operator := by simp [htokens]
  have hnext : tokens[before.length + 1 + 1]? = some target := by simp [htokens]
  have hmark : tokens[before.length]?.map Token.text =
      (name :: before.map Token.text).getLast? := by
    rw [htokens, ← List.cons_append, List.getElem?_append_left (by simp), ← List.getElem?_map,
      List.getLast?_eq_getElem?]
    simp
  have hargs : (tokens.take (before.length + 1)).drop 1 = before := by simp [htokens]
  have hmarkedArgs : (tokens.take before.length).drop 1 = before.dropLast := by
    rw [List.drop_take, htokens, List.drop_succ_cons, List.drop_zero,
      List.take_append_of_le_length (Nat.sub_le _ 1), ← List.dropLast_eq_take]
  have hname : (tokens.head?.map Token.text).getD "" = name := rfl
  unfold byPosition Arrangement.result Arrangement.marked
  simp only [hfirst, hat, hnext, Nat.add_sub_cancel, hmark, hname]
  by_cases hlast : (name :: before.map Token.text).getLast? = some "2"
  · simp only [hlast, decide_true, if_true, hmarkedArgs, List.map_dropLast]
  · simp only [hlast, decide_false, if_false, hargs, Bool.false_eq_true]

/-- **Every list of tokens has one arrangement, and its command is read off that.** It is also the
command cut out around the first operator. Tokens that follow a target change nothing. -/
theorem ofTokens_eq_result (tokens : List Token) :
    (∃! arrangement : Arrangement, arrangement.Proper ∧ arrangement.tokens = tokens) ∧
    (∀ arrangement : Arrangement, arrangement.Proper → arrangement.tokens = tokens →
      ofTokens tokens = arrangement.result) ∧
    (∀ name rest, tokens = .word name :: rest → ofTokens tokens = .ok (some (byPosition tokens))) ∧
    ∀ name before operator target rest,
      (Arrangement.redirected name before operator target rest).Proper →
      tokens = .word name :: (before ++ operator :: target :: rest) →
      ∀ more, ofTokens (tokens ++ more) = ofTokens tokens := by
  refine ⟨Arrangement.existsUnique tokens, ?_, ?_, ?_⟩
  · rintro arrangement hproper rfl
    exact Arrangement.ofTokens_tokens hproper
  · rintro name rest rfl
    obtain ⟨arrangement, ⟨hproper, htokens⟩, _⟩ := Arrangement.existsUnique (.word name :: rest)
    rw [← htokens, Arrangement.ofTokens_tokens hproper]
    cases arrangement with
    | blank => cases htokens
    | misplaced first rest =>
        cases htokens
        exact absurd rfl hproper
    | plain => exact congrArg (Except.ok ∘ some) (byPosition_plain _ hproper).symm
    | redirected => exact byPosition_redirected _ _ _ hproper.1 hproper.2
  · rintro name before operator target rest hproper rfl more
    have hmore : Arrangement.Proper (.redirected name before operator target (rest ++ more)) :=
      hproper
    have hresult :=
      (Arrangement.ofTokens_tokens hmore).trans (Arrangement.ofTokens_tokens hproper).symm
    simpa [Arrangement.tokens] using hresult

/-- The name is the mark, and the target is an operator that no line can have. -/
theorem ofTokens_eq_result_name_as_mark :
    (Arrangement.redirected "2" [] .redirectAppend ⟨.redirectOut, "f"⟩ [.word "a"]).Proper ∧
      ofTokens [.word "2", .redirectAppend, ⟨.redirectOut, "f"⟩, .word "a"] =
        .ok (some ⟨"2", [], some ⟨.stderr, "f", true⟩⟩) ∧
      ofTokens
          [.word "2", .redirectAppend, ⟨.redirectOut, "f"⟩, .word "a", .redirectOut, .word "b"] =
        .ok (some ⟨"2", [], some ⟨.stderr, "f", true⟩⟩) := by
  have hproper :
      (Arrangement.redirected "2" [] .redirectAppend ⟨.redirectOut, "f"⟩ [.word "a"]).Proper :=
    ⟨by simp [NoOperator], rfl⟩
  obtain ⟨_, hresult, _, hmore⟩ :=
    ofTokens_eq_result [.word "2", .redirectAppend, ⟨.redirectOut, "f"⟩, .word "a"]
  have hcommand := hresult _ hproper rfl
  exact ⟨hproper, hcommand, (hmore _ _ _ _ _ hproper rfl [.redirectOut, .word "b"]).trans hcommand⟩

end Command

end LineShell
