import SunLint.Construct
import SunLint.Text.Line
import SunLint.Token.Cursor

/-!
# Contexts

What surrounds an error: the construct being parsed and those around it, the
tokens nearby and the source line. A context is always complete; where nothing
is known its fields are empty.

The number of tokens that are nearby is a natural number. Windows that are so
large that their ends are no machine words are left out.
-/

namespace SunLint

/-- The surroundings of a place in a program. -/
structure Context where
  construct : Construct := .topLevel
  /-- The constructs around it, outermost first. -/
  enclosing : List Construct := []
  nearby : List Token := []
  line : String := ""
deriving DecidableEq, Repr, Inhabited

namespace Context

/-- The text of the line that the token stands on, as far as the source is
    known. -/
def lineOf (source : Option String) (token : Token) : String :=
  ((source.bind fun s => Text.sourceLine s token.position.line)).getD ""

/-- The context of the token under the cursor, with `window` tokens to each
    side. -/
def around (source : Option String) (window : Nat) (construct : Construct)
    (enclosing : List Construct) (c : Cursor) : Context where
  construct := construct
  enclosing := enclosing
  nearby := c.nearby window
  line := lineOf source c.focus

end Context

end SunLint
