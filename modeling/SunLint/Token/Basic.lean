import SunLint.Token.Position
import SunLint.Token.Kind

/-!
# Tokens

A token is a kind, the text it was read from and the position of its first
character. The end of the input has no text.

The width of a token is a natural number. A text that is too long for its width
to be one of 32 bits is left out.
-/

namespace SunLint

/-- A lexical unit of a source text. -/
structure Token where
  kind : Kind
  text : String
  position : Position
deriving DecidableEq, Repr, Inhabited

namespace Token

/-- The mark that ends a token list. -/
def eof (p : Position) : Token := ⟨.eof, "", p⟩

/-- The number of columns the token takes, and at least one, so that a range
    over it can be seen. -/
def width (t : Token) : Nat :=
  match t.kind with
  | .newline | .eof => 1
  | _ => max t.text.length 1

/-- The token as messages show it. -/
def display (t : Token) : String :=
  match t.kind with
  | .newline | .eof => t.kind.describe
  | _ => t.text

end Token

end SunLint
