/-!
Sets of characters given as closed ranges of code points.
-/

namespace LineShell.Text

structure CodeRange where
  first : Nat
  last : Nat
  deriving DecidableEq, Repr

namespace CodeRange

def covers (n : Nat) (ranges : List CodeRange) : Bool :=
  ranges.any fun range => range.first ≤ n && n ≤ range.last

end CodeRange

end LineShell.Text
