/-!
# Kinds of tokens

The lexical categories of Sun: thirteen keywords, words and literals, directive
markers, punctuation, operators, the line end and the end of the input. Each
kind has a stable name for data exchange and a description for messages, and
the recovering parser groups kinds by what they say about the place they stand
at.

`ofWord?_spelling?`: a word is read as a keyword exactly if it is spelled as one.
-/

namespace SunLint

/-- The category of a token. -/
inductive Kind
  | functionKw | componentKw | whenKw | thenKw | elseKw | letKw
  | stateKw | returnKw | renderKw | importKw | exportKw | trueKw
  | falseKw | text | string | number | directive | leftBrace
  | rightBrace | leftParen | rightParen | leftBracket | rightBracket | comma
  | colon | dot | equals | semicolon | symbol | newline
  | eof
deriving DecidableEq, Repr, Inhabited

namespace Kind

/-- Every kind, keywords first and the end of the input last. -/
def all : List Kind :=
  [.functionKw, .componentKw, .whenKw, .thenKw, .elseKw, .letKw, .stateKw, .returnKw,
   .renderKw, .importKw, .exportKw, .trueKw, .falseKw, .text, .string, .number, .directive,
   .leftBrace, .rightBrace, .leftParen, .rightParen, .leftBracket, .rightBracket, .comma,
   .colon, .dot, .equals, .semicolon, .symbol, .newline, .eof]

/-- Every kind is listed. -/
theorem mem_all (k : Kind) : k ∈ all := by cases k <;> decide

/-- The stable name of the kind. -/
def name : Kind → String
  | .functionKw => "FUNCTION"
  | .componentKw => "COMPONENT"
  | .whenKw => "WHEN"
  | .thenKw => "THEN"
  | .elseKw => "ELSE"
  | .letKw => "LET"
  | .stateKw => "STATE"
  | .returnKw => "RETURN"
  | .renderKw => "RENDER"
  | .importKw => "IMPORT"
  | .exportKw => "EXPORT"
  | .trueKw => "TRUE"
  | .falseKw => "FALSE"
  | .text => "TEXT"
  | .string => "STRING_LIT"
  | .number => "NUMBER"
  | .directive => "DIRECTIVE"
  | .leftBrace => "L_BRACE"
  | .rightBrace => "R_BRACE"
  | .leftParen => "L_PAREN"
  | .rightParen => "R_PAREN"
  | .leftBracket => "L_BRACKET"
  | .rightBracket => "R_BRACKET"
  | .comma => "COMMA"
  | .colon => "COLON"
  | .dot => "DOT"
  | .equals => "EQUALS"
  | .semicolon => "SEMICOLON"
  | .symbol => "SYMBOL"
  | .newline => "NEWLINE"
  | .eof => "EOF"

/-- The kind of that name. -/
def ofName? (s : String) : Option Kind := all.find? (·.name = s)

/-- How messages speak of a token of this kind. -/
def describe : Kind → String
  | .functionKw => "'function'"
  | .componentKw => "'component'"
  | .whenKw => "'when'"
  | .thenKw => "'then'"
  | .elseKw => "'else'"
  | .letKw => "'let'"
  | .stateKw => "'state'"
  | .returnKw => "'return'"
  | .renderKw => "'render'"
  | .importKw => "'import'"
  | .exportKw => "'export'"
  | .trueKw => "'true'"
  | .falseKw => "'false'"
  | .text => "a name"
  | .string => "a string"
  | .number => "a number"
  | .directive => "a directive"
  | .leftBrace => "'\x7b'"
  | .rightBrace => "'\x7d'"
  | .leftParen => "'('"
  | .rightParen => "')'"
  | .leftBracket => "'['"
  | .rightBracket => "']'"
  | .comma => "','"
  | .colon => "':'"
  | .dot => "'.'"
  | .equals => "'='"
  | .semicolon => "';'"
  | .symbol => "an operator"
  | .newline => "end of line"
  | .eof => "end of input"

/-- The word that a keyword is written as. -/
def spelling? : Kind → Option String
  | .functionKw => some "function"
  | .componentKw => some "component"
  | .whenKw => some "when"
  | .thenKw => some "then"
  | .elseKw => some "else"
  | .letKw => some "let"
  | .stateKw => some "state"
  | .returnKw => some "return"
  | .renderKw => some "render"
  | .importKw => some "import"
  | .exportKw => some "export"
  | .trueKw => some "true"
  | .falseKw => some "false"
  | _ => none

/-- The keyword that a word is, if it is one. -/
def ofWord? (word : String) : Option Kind := all.find? (·.spelling? = some word)

/-- A reserved word. -/
def isKeyword (k : Kind) : Bool := k.spelling?.isSome

/-- A word is read as a keyword exactly if it is spelled as one. -/
theorem ofWord?_spelling? {k : Kind} {word : String} (h : k.spelling? = some word) :
    ofWord? word = some k := by
  cases k <;> simp only [spelling?, Option.some.injEq, reduceCtorEq] at h <;> subst h <;> rfl

/-- A keyword that opens a named block or a condition. -/
def isBlockOpener : Kind → Bool
  | .functionKw | .componentKw | .whenKw => true
  | _ => false

/-- A token at which parsing can be taken up again after a failure. -/
def isSyncPoint : Kind → Bool
  | .leftBrace | .rightBrace | .newline => true
  | k => k.isBlockOpener

/-- Brackets, separators and operators. The equals sign is not among them. -/
def isPunctuation : Kind → Bool
  | .leftBrace | .rightBrace | .leftParen | .rightParen | .leftBracket | .rightBracket => true
  | .comma | .colon | .dot | .semicolon | .symbol => true
  | _ => false

/-- Strings, numbers and truth values. -/
def isLiteral : Kind → Bool
  | .string | .number | .trueKw | .falseKw => true
  | _ => false

/-- A keyword that may begin a statement or a declaration. -/
def startsDeclaration : Kind → Bool
  | .functionKw | .componentKw | .whenKw | .letKw | .stateKw => true
  | .returnKw | .renderKw | .importKw | .exportKw => true
  | _ => false

/-- A token before which a statement may stop: a line end, a semicolon, a
    closing brace or the end of the input. -/
def endsStatement : Kind → Bool
  | .newline | .semicolon | .rightBrace | .eof => true
  | _ => false

end Kind

end SunLint
