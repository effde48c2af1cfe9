import SunLint.Context
import SunLint.Error.Code

/-!
# Syntax errors

What the parser found wrong with a token list: where, at which token, which
kinds of tokens would have done, and what the reader may try.
-/

namespace SunLint

/-- A defect of the token list. -/
structure SyntaxError where
  message : String
  position : Position
  token : Token
  expected : List Kind
  suggestions : List String
  severity : Severity
  code : ErrorCode
  context : Context
deriving DecidableEq, Repr, Inhabited

end SunLint
