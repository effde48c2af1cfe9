import SunLint.Parser.Statement

/-!
# Parsing programs

A program is a list of items with line ends and semicolons between them. An item
that cannot be read is left out, and the program goes on where the recovery
finds it can; so one bad line does not hide the rest of the text.
-/

namespace SunLint

namespace Parser

/-- The arguments of a directive, with or without commas between them. -/
def directiveArgs : Nat → Parser (List Expr)
  | 0 => exhausted
  | n + 1 => do
    if (← currentKind).endsStatement then return []
    else do
      let start := (← cursor).index
      let e ← expression n
      -- Before a token that may follow an expression nothing has been read.
      if (← cursor).index = start then unexpected []
      let _ ← eat .comma
      let rest ← directiveArgs n
      return e :: rest

/-- What is recorded about a directive that the dictionary does not have. -/
def unknownDirective (scene : Scene) (token : Token) (context : Context) : SyntaxError :=
  match scene.dictionary.closestDirective? token.text scene.limits.maxEditDistance with
  | some known => scene.recordMisspelling token known context
  | none => scene.recordCoded .unknownDirective .warning
      ("Unknown directive '" ++ token.text ++ "'") token [] context

/-- A directive with its arguments, up to the end of the line. -/
def directive (n : Nat) : Parser Item := do
  let token ← current
  unless (← scene).dictionary.isDirective token.text do
    report (unknownDirective (← scene) token (← context))
  advance
  let args ← within .directive (directiveArgs n)
  endStatement
  return .directive token.text args token.position.line

/-- An import, up to the end of the line. -/
def importItem : Parser Item := do
  let line ← currentLine
  advance
  let token ← current
  match token.kind with
  | .string => do
    advance
    endStatement
    return .imported (unquote token.text) line
  | .text => do
    advance
    endStatement
    return .imported token.text line
  | _ => unexpected [.string]

/-- The export of a declaration. -/
def exportItem (n : Nat) : Parser Item := do
  let line ← currentLine
  advance
  match ← effectiveKind with
  | .functionKw => do
    let c ← callable n .function
    return .exported c line
  | .componentKw => do
    let c ← callable n .component
    return .exported c line
  | _ => unexpected [.functionKw, .componentKw]

/-- An item. -/
def item (n : Nat) : Parser Item := do
  match ← effectiveKind with
  | .directive => directive n
  | .functionKw => do
    let c ← callable n .function
    return .declaration c
  | .componentKw => do
    let c ← callable n .component
    return .declaration c
  | .importKw => importItem
  | .exportKw => exportItem n
  | .rightBrace => do
    fail (← coded .unexpectedToken .error "Unexpected '\x7d' with no open block")
  | kind => do
    let s ← statementAs n kind
    return .statement s

/-- The items up to the end of the input. -/
def items : Nat → Parser (List Item)
  | 0 => exhausted
  | n + 1 => do
    skipSeparators
    if (← halted) || (← currentKind) = .eof then return []
    else do
      let start := (← cursor).index
      let found ← orRecover (some <$> item n) none
      ensureProgress start
      let rest ← items n
      return found.toList ++ rest

/-- The depth to which parsers call each other over so many tokens: every token
    that is read leads down by less than two dozen calls. -/
def depthFor (tokens : Nat) : Nat := 24 * (tokens + 1)

end Parser

/-- What was made of a token list: the items that could be read, and what was
    wrong, in the order in which it was found. -/
structure ParseOutput where
  items : List Item
  errors : List SyntaxError
deriving Inhabited

/-- Why a list of tokens cannot be parsed at all. -/
inductive StreamFault
  | empty | unterminated
deriving DecidableEq, Repr

/-- The wording of the fault. -/
def StreamFault.message : StreamFault → String
  | .empty => "tokenizer produced an empty token stream"
  | .unterminated => "token stream is not terminated by an end-of-input token"

namespace Parser

/-- The output of the parser of items. The items themselves take care of every
    failure, and the depth is sufficient. -/
def Outcome.output : Outcome (List Item) → ParseOutput
  | .done items s => ⟨items, s.errors.reverse⟩
  | .failed _ s => ⟨[], s.errors.reverse⟩
  | .exhausted => ⟨[], []⟩

end Parser

/-- Parses a list of tokens that ends with the end of the input. The source text,
    where it is known, is quoted in the contexts of the errors. -/
def parse (tokens : List Token) (source : Option String) (dictionary : Dictionary)
    (settings : Settings) : Except StreamFault ParseOutput :=
  match Cursor.ofList? tokens with
  | none => .error .empty
  | some cursor =>
    if tokens.getLast?.map (·.kind) = some .eof then
      .ok (Parser.items (Parser.depthFor tokens.length)
        { scene := { dictionary, source, limits := settings.limits } }
        { cursor, room := settings.maxErrors }).output
    else .error .unterminated

end SunLint
