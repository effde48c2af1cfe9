/-!
# Codes and severities

What is wrong with a text is told by a code from a closed list. Codes fall into
categories, by which advice and quick fixes are chosen. How bad it is, is told
by a severity.
-/

namespace SunLint

/-- How bad a finding is. -/
inductive Severity
  | error | warning | info
deriving DecidableEq, Repr, Inhabited

/-- The word for the severity. -/
def Severity.name : Severity → String
  | .error => "error"
  | .warning => "warning"
  | .info => "info"

/-- The severity of that name. -/
def Severity.ofName? (s : String) : Option Severity :=
  [Severity.error, .warning, .info].find? (·.name = s)

/-- What is wrong: the first four are found while reading tokens, the others
    while parsing. -/
inductive ErrorCode
  | unexpectedCharacter | invalidEncoding | unterminatedString | unterminatedComment
  | expectedToken | unexpectedToken | missingToken | missingOpenBrace
  | missingCloseBrace | possibleMisspelling | invalidFunction | invalidComponent
  | invalidWhen | unknownDirective | lineSkipped
deriving DecidableEq, Repr, Inhabited

/-- A coarse grouping of codes. -/
inductive Category
  | lexical | expected | missing | unexpected | misspelling | construct | skipped
deriving DecidableEq, Repr

/-- The name of the category. -/
def Category.name : Category → String
  | .lexical => "Lexical"
  | .expected => "Expected"
  | .missing => "Missing"
  | .unexpected => "Unexpected"
  | .misspelling => "Misspelling"
  | .construct => "Construct"
  | .skipped => "Skipped"

namespace ErrorCode

/-- Every code. -/
def all : List ErrorCode :=
  [.unexpectedCharacter, .invalidEncoding, .unterminatedString, .unterminatedComment,
   .expectedToken, .unexpectedToken, .missingToken, .missingOpenBrace, .missingCloseBrace,
   .possibleMisspelling, .invalidFunction, .invalidComponent, .invalidWhen, .unknownDirective,
   .lineSkipped]

/-- Every code is listed. -/
theorem mem_all (c : ErrorCode) : c ∈ all := by cases c <;> decide

/-- The stable name of the code. -/
def name : ErrorCode → String
  | .unexpectedCharacter => "UNEXPECTED_CHARACTER"
  | .invalidEncoding => "INVALID_ENCODING"
  | .unterminatedString => "UNTERMINATED_STRING"
  | .unterminatedComment => "UNTERMINATED_COMMENT"
  | .expectedToken => "EXPECTED_TOKEN"
  | .unexpectedToken => "UNEXPECTED_TOKEN"
  | .missingToken => "MISSING_TOKEN"
  | .missingOpenBrace => "MISSING_OPEN_BRACE"
  | .missingCloseBrace => "MISSING_CLOSE_BRACE"
  | .possibleMisspelling => "POSSIBLE_MISSPELLING"
  | .invalidFunction => "INVALID_FUNCTION"
  | .invalidComponent => "INVALID_COMPONENT"
  | .invalidWhen => "INVALID_WHEN"
  | .unknownDirective => "UNKNOWN_DIRECTIVE"
  | .lineSkipped => "LINE_SKIPPED"

/-- The code of that name. -/
def ofName? (s : String) : Option ErrorCode := all.find? (·.name = s)

/-- Every code is found by its name. -/
theorem ofName?_name (c : ErrorCode) : ofName? c.name = some c := by cases c <;> rfl

/-- No two codes have the same name. -/
theorem name_inj {c d : ErrorCode} : c.name = d.name ↔ c = d := by
  refine ⟨fun h => ?_, congrArg name⟩
  have hc := ofName?_name c
  rw [h, ofName?_name d] at hc
  exact (Option.some.inj hc).symm

/-- The refusal of a name that no code has. -/
def unknownMessage (s : String) : String := s!"unknown error code '{s}'"

/-- The category of the code. -/
def category : ErrorCode → Category
  | .unexpectedCharacter => .lexical
  | .invalidEncoding => .lexical
  | .unterminatedString => .lexical
  | .unterminatedComment => .lexical
  | .expectedToken => .expected
  | .unexpectedToken => .unexpected
  | .missingToken => .missing
  | .missingOpenBrace => .missing
  | .missingCloseBrace => .missing
  | .possibleMisspelling => .misspelling
  | .invalidFunction => .construct
  | .invalidComponent => .construct
  | .invalidWhen => .construct
  | .unknownDirective => .construct
  | .lineSkipped => .skipped

end ErrorCode

end SunLint
