import SunLint.Error.Lexical
import SunLint.Error.Syntactic

/-!
# Findings

What an analysis found wrong with a text, lexical and syntax errors alike. The
lexical errors come first, and each kind keeps its order; everything that is
reported on a text follows this one list.
-/

namespace SunLint

/-- The errors of an analysis. -/
structure Errors where
  lexical : List LexicalError
  syntactic : List SyntaxError
deriving DecidableEq, Repr, Inhabited

/-- Whether an error was found in the characters or in the tokens. -/
inductive Origin
  | lexical | syntactic
deriving DecidableEq, Repr, Inhabited

/-- The name of the origin. -/
def Origin.name : Origin → String
  | .lexical => "lexical"
  | .syntactic => "syntax"

/-- What is reported of an error, wherever it was found. -/
structure Finding where
  origin : Origin
  code : ErrorCode
  severity : Severity
  message : String
  position : Position
  /-- The number of characters that the error takes. -/
  width : Nat
  suggestions : List String
deriving DecidableEq, Repr, Inhabited

namespace Finding

/-- A lexical error is always grave. -/
def ofLexical (e : LexicalError) : Finding where
  origin := .lexical
  code := e.code
  severity := .error
  message := e.message
  position := e.position
  width := e.length
  suggestions := e.suggestions

/-- A syntax error takes the width of its token. -/
def ofSyntactic (e : SyntaxError) : Finding where
  origin := .syntactic
  code := e.code
  severity := e.severity
  message := e.message
  position := e.position
  width := e.token.width
  suggestions := e.suggestions

end Finding

namespace Errors

/-- The lexical findings and then the syntactic ones. -/
def findings (errors : Errors) : List Finding :=
  errors.lexical.map Finding.ofLexical ++ errors.syntactic.map Finding.ofSyntactic

/-- The number of errors. -/
def total (errors : Errors) : Nat := errors.lexical.length + errors.syntactic.length

/-- Every error is found once. -/
@[simp]
theorem length_findings (errors : Errors) : errors.findings.length = errors.total := by
  simp [findings, total]

/-- Whether nothing is wrong. -/
def isEmpty (errors : Errors) : Bool := errors.lexical.isEmpty && errors.syntactic.isEmpty

/-- Whether the text has to be rejected: a lexical error does so, and a syntax
    error unless it is only a warning. -/
def areGrave (errors : Errors) : Bool :=
  !errors.lexical.isEmpty || errors.syntactic.any (·.severity = .error)

end Errors

end SunLint
