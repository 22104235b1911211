import LineShell.Command.Resolve
import Mathlib.Data.List.TakeDrop
import Mathlib.Data.List.TakeWhile

/-!
# What follows a command name

The tokens after the name have one of three layouts, and each layout has its command: words alone,
an operator that nothing follows, or an operator with a target.
-/

namespace LineShell

variable {tokens before after : List Token} {operator : Token}

def NoOperator (tokens : List Token) : Prop := ∀ token ∈ tokens, token.isRedirect = false

theorem noOperator_cons {token : Token} :
    NoOperator (token :: tokens) ↔ token.isRedirect = false ∧ NoOperator tokens := by
  simp [NoOperator]

theorem noOperator_map_word (texts : List String) : NoOperator (texts.map Token.word) := by
  simp [NoOperator]

theorem splitAtRedirect_of_noOperator (htokens : NoOperator tokens) :
    splitAtRedirect tokens = (tokens, []) := by
  have hplain : ∀ token ∈ tokens, (!token.isRedirect) = true := by
    simpa [NoOperator] using htokens
  rw [splitAtRedirect, List.span_eq_takeWhile_dropWhile, List.takeWhile_eq_self_iff.mpr hplain,
    List.dropWhile_eq_nil_iff.mpr hplain]

theorem splitAtRedirect_append (hbefore : NoOperator before)
    (hoperator : operator.isRedirect = true) :
    splitAtRedirect (before ++ operator :: after) = (before, operator :: after) := by
  have hplain : ∀ token ∈ before, (!token.isRedirect) = true := by
    simpa [NoOperator] using hbefore
  rw [splitAtRedirect, List.span_eq_takeWhile_dropWhile, List.takeWhile_append_of_pos hplain,
    List.dropWhile_append_of_pos hplain]
  simp [hoperator]

inductive Layout : List Token → Prop
  | words {tokens : List Token} (htokens : NoOperator tokens) : Layout tokens
  | trailing {before : List Token} {operator : Token} (hbefore : NoOperator before)
      (hoperator : operator.isRedirect = true) : Layout (before ++ [operator])
  | redirect {before after : List Token} {operator target : Token} (hbefore : NoOperator before)
      (hoperator : operator.isRedirect = true) : Layout (before ++ operator :: target :: after)

theorem Layout.of (tokens : List Token) : Layout tokens := by
  induction tokens with
  | nil => exact .words (by simp [NoOperator])
  | cons token tokens ih =>
      cases htoken : token.isRedirect with
      | true =>
          have hnone : NoOperator [] := by simp [NoOperator]
          cases tokens with
          | nil => exact .trailing hnone htoken
          | cons target after => exact .redirect hnone htoken
      | false =>
          cases ih with
          | words htokens => exact .words (noOperator_cons.mpr ⟨htoken, htokens⟩)
          | trailing hbefore hoperator =>
              exact .trailing (noOperator_cons.mpr ⟨htoken, hbefore⟩) hoperator
          | redirect hbefore hoperator =>
              exact .redirect (noOperator_cons.mpr ⟨htoken, hbefore⟩) hoperator

namespace Command

theorem ofTokens_of_noOperator (name : String) (htokens : NoOperator tokens) :
    ofTokens (.word name :: tokens) = .ok (some ⟨name, tokens.map Token.text, none⟩) := by
  simp [ofTokens, Token.word, splitAtRedirect_of_noOperator htokens]

theorem ofTokens_trailing (name : String) (hbefore : NoOperator before)
    (hoperator : operator.isRedirect = true) :
    ofTokens (.word name :: (before ++ [operator])) =
      .ok (some ⟨name, (before ++ [operator]).map Token.text, none⟩) := by
  simp [ofTokens, Token.word, splitAtRedirect_append hbefore hoperator]

/-- After a last word `2` an operator redirects standard error, and the `2` is no argument. -/
theorem ofTokens_stderr (name : String) (target : Token) (after : List Token)
    (hbefore : NoOperator before) (hoperator : operator.isRedirect = true)
    (hlast : (name :: before.map Token.text).getLast? = some "2") :
    ofTokens (.word name :: (before ++ operator :: target :: after)) =
      .ok (some ⟨name, (before.map Token.text).dropLast,
        some ⟨.stderr, target.text, operator.kind = .redirectAppend⟩⟩) := by
  have hmarker : ((Token.word name :: before).getLast?.map Token.text) = some "2" := by
    rw [← List.getLast?_map]
    exact hlast
  simp only [ofTokens, Token.word, splitAtRedirect_append hbefore hoperator,
    redirectOf] at hmarker ⊢
  simp [hmarker]

/-- After any other last word an operator redirects standard output. -/
theorem ofTokens_stdout (name : String) (target : Token) (after : List Token)
    (hbefore : NoOperator before) (hoperator : operator.isRedirect = true)
    (hlast : (name :: before.map Token.text).getLast? ≠ some "2") :
    ofTokens (.word name :: (before ++ operator :: target :: after)) =
      .ok (some ⟨name, before.map Token.text,
        some ⟨.stdout, target.text, operator.kind = .redirectAppend⟩⟩) := by
  have hmarker : ((Token.word name :: before).getLast?.map Token.text) ≠ some "2" := by
    rw [← List.getLast?_map]
    exact hlast
  simp only [ofTokens, Token.word, splitAtRedirect_append hbefore hoperator,
    redirectOf] at hmarker ⊢
  simp [hmarker]

theorem exists_word_of_ofTokens {command : Command}
    (hcommand : ofTokens tokens = .ok (some command)) :
    ∃ name rest, tokens = .word name :: rest := by
  cases tokens with
  | nil => simp [ofTokens] at hcommand
  | cons first rest =>
      obtain ⟨kind, text⟩ := first
      cases kind with
      | word => exact ⟨text, rest, rfl⟩
      | redirectOut => simp [ofTokens] at hcommand
      | redirectAppend => simp [ofTokens] at hcommand

/-- A command and the tokens that it is read from. -/
inductive Origin : List Token → Command → Prop
  | words {name : String} {tokens : List Token} (htokens : NoOperator tokens) :
      Origin (.word name :: tokens) ⟨name, tokens.map Token.text, none⟩
  | trailing {name : String} {before : List Token} {operator : Token}
      (hbefore : NoOperator before) (hoperator : operator.isRedirect = true) :
      Origin (.word name :: (before ++ [operator]))
        ⟨name, (before ++ [operator]).map Token.text, none⟩
  | stderr {name : String} {before after : List Token} {operator target : Token}
      (hbefore : NoOperator before) (hoperator : operator.isRedirect = true)
      (hlast : (name :: before.map Token.text).getLast? = some "2") :
      Origin (.word name :: (before ++ operator :: target :: after))
        ⟨name, (before.map Token.text).dropLast,
          some ⟨.stderr, target.text, operator.kind = .redirectAppend⟩⟩
  | stdout {name : String} {before after : List Token} {operator target : Token}
      (hbefore : NoOperator before) (hoperator : operator.isRedirect = true)
      (hlast : (name :: before.map Token.text).getLast? ≠ some "2") :
      Origin (.word name :: (before ++ operator :: target :: after))
        ⟨name, before.map Token.text,
          some ⟨.stdout, target.text, operator.kind = .redirectAppend⟩⟩

theorem origin_of_ofTokens {command : Command} (hcommand : ofTokens tokens = .ok (some command)) :
    Origin tokens command := by
  obtain ⟨name, rest, rfl⟩ := exists_word_of_ofTokens hcommand
  cases Layout.of rest with
  | words htokens =>
      rw [ofTokens_of_noOperator name htokens] at hcommand
      cases hcommand
      exact .words htokens
  | trailing hbefore hoperator =>
      rw [ofTokens_trailing name hbefore hoperator] at hcommand
      cases hcommand
      exact .trailing hbefore hoperator
  | @redirect before after operator target hbefore hoperator =>
      by_cases hlast : (name :: before.map Token.text).getLast? = some "2"
      · rw [ofTokens_stderr name target after hbefore hoperator hlast] at hcommand
        cases hcommand
        exact .stderr hbefore hoperator hlast
      · rw [ofTokens_stdout name target after hbefore hoperator hlast] at hcommand
        cases hcommand
        exact .stdout hbefore hoperator hlast

end Command

end LineShell
