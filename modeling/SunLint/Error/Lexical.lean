import SunLint.Error.Code
import SunLint.Token.Position

/-!
# Lexical errors

What the reading of tokens found wrong: characters that belong to no token, and
strings and comments without an end.
-/

namespace SunLint

/-- A defect of the text below the level of tokens. -/
structure LexicalError where
  message : String
  position : Position
  /-- The width of the offending text in characters. -/
  length : Nat
  code : ErrorCode
  suggestions : List String
deriving DecidableEq, Repr, Inhabited

end SunLint
