/-!
The units a command line is cut into: words, and the two operators that redirect output.
-/

namespace LineShell

inductive TokenKind where
  | word
  | redirectOut
  | redirectAppend
  deriving DecidableEq, Repr

structure Token where
  kind : TokenKind
  text : String
  deriving DecidableEq, Repr

namespace Token

def word (text : String) : Token := ⟨.word, text⟩

def redirectOut : Token := ⟨.redirectOut, ">"⟩

def redirectAppend : Token := ⟨.redirectAppend, ">>"⟩

def isRedirect (token : Token) : Bool :=
  match token.kind with
  | .word => false
  | .redirectOut | .redirectAppend => true

@[simp]
theorem text_word (text : String) : (word text).text = text := rfl

@[simp]
theorem map_text_map_word (texts : List String) : (texts.map word).map Token.text = texts := by
  simp [Function.comp_def]

@[simp]
theorem isRedirect_word (text : String) : (word text).isRedirect = false := rfl

@[simp]
theorem isRedirect_redirectOut : redirectOut.isRedirect = true := rfl

@[simp]
theorem isRedirect_redirectAppend : redirectAppend.isRedirect = true := rfl

theorem isRedirect_eq_false_iff {token : Token} :
    token.isRedirect = false ↔ token.kind = .word := by
  rcases token with ⟨kind, text⟩
  cases kind <;> simp [isRedirect]

end Token

end LineShell
