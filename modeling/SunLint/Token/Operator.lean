/-!
# Operators

The operators that expressions may contain, and how tightly the binary ones
bind. A run of operator characters that is no operator is still read as one
token, and then found to be wrong.
-/

namespace SunLint.Operator

/-- The binary operators, from the loosest to the tightest. -/
def levels : List (List String) :=
  [["->", "=>"], ["||"], ["&&"], ["==", "!="], ["<", ">", "<=", ">="], ["+", "-"],
   ["*", "/", "%"]]

/-- How tightly the binary operator binds, counted from one. -/
def precedence? (op : String) : Option Nat :=
  (levels.findIdx? (·.contains op)).map (· + 1)

/-- The operators that stand before their operand. -/
def isUnary (op : String) : Bool := op = "!" || op = "-"

/-- Whether there is an operator of that spelling. -/
def isKnown (op : String) : Bool := (precedence? op).isSome || isUnary op

end SunLint.Operator
