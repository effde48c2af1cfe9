import SunLint.Parser.Expression

/-!
# Parsing statements

Statements are read by the kind of their first token, where a misspelled keyword
counts as what it is meant to be. A statement inside a block that cannot be read
is given up, and the block goes on where the recovery finds it can.
-/

namespace SunLint

/-- The construct that a declaration is. -/
def Callable.Form.construct : Callable.Form → Construct
  | .function => .function
  | .component => .component

/-- The code for a declaration without a name. -/
def Callable.Form.invalidCode : Callable.Form → ErrorCode
  | .function => .invalidFunction
  | .component => .invalidComponent

namespace Parser

/-- Parameters with commas between them, up to and past the closing
    parenthesis. -/
def paramList : Nat → Parser (List String)
  | 0 => exhausted
  | n + 1 => do
    skipNewlines
    if ← eat .rightParen then return []
    else do
      let name ← expectName
      skipNewlines
      if ← eat .comma then do
        let rest ← paramList n
        return name :: rest
      else do
        let _ ← expect .rightParen
        return [name]

/-- The parameters of a declaration, if it has a list of them. -/
def params (n : Nat) : Parser (List String) := do
  if ← eat .leftParen then paramList n else return []

/-- Moves past the delimiter, or reports that it is missing and goes on as if it
    were there. -/
def delimiter (kind : Kind) : Parser Unit := do
  unless ← eat kind do
    match (← scene).missingDelimiter? (← cursor) (← context) with
    | some e => report e
    | none => unexpected [kind]

mutual

/-- A statement that starts with a token of the given kind, up to its end. -/
def statementAs : Nat → Kind → Parser Statement
  | 0, _ => exhausted
  | n + 1, kind =>
    match kind with
    | .functionKw => do
      let c ← callable n .function
      return .declaration c
    | .componentKw => do
      let c ← callable n .component
      return .declaration c
    | kind => do
      let s ← clause n kind
      endStatement
      return s

/-- A statement that starts with a token of the given kind, without what ends
    it. -/
def clause : Nat → Kind → Parser Statement
  | 0, _ => exhausted
  | n + 1, kind => do
    let line ← currentLine
    match kind with
    | .letKw => do
      advance
      let name ← expectName
      let _ ← expect .equals
      let value ← expression n
      return .letBinding name value line
    | .stateKw => do
      advance
      let name ← expectName
      let _ ← expect .equals
      let value ← expression n
      return .stateBinding name value line
    | .whenKw => conditional n
    | .returnKw => do
      advance
      let next ← currentKind
      if next.endsStatement || next = .elseKw then return .ret none line
      else do
        let value ← expression n
        return .ret (some value) line
    | .renderKw => do
      advance
      let value ← expression n
      return .render value line
    | .leftBrace => do
      advance
      let body ← within .block (blockBody n line)
      return .block body line
    | .importKw | .exportKw | .directive => do
      fail (← coded .unexpectedToken .error
        ("'" ++ (← current).display ++ "' is only allowed at the top level"))
    | _ => do
      let value ← expression n
      return .expr value line

/-- A condition with its results, from the keyword on. -/
def conditional : Nat → Parser Statement
  | 0 => exhausted
  | n + 1 => do
    let line ← currentLine
    advance
    let condition ← within .when do
      let next ← currentKind
      let condition ←
        if next = .thenKw || next.endsStatement then do
          report (← coded .invalidWhen .error "Missing condition after 'when'")
          pure Expr.missing
        else expression n
      delimiter .thenKw
      return condition
    let result ← branch n
    if ← eat .elseKw then do
      let otherwise ← branch n
      return .when condition result (some otherwise) line
    else return .when condition result none line

/-- The result of a condition. If it is lacking, this is reported unless the
    last error was at the same place. -/
def branch : Nat → Parser Statement
  | 0 => exhausted
  | n + 1 => do
    let token ← current
    if token.kind.endsStatement then do
      unless (← lastErrorPosition) = some token.position do
        report (← coded .invalidWhen .error "Missing result after when condition")
      return .error token.position.line
    else do
      let kind ← effectiveKind
      clause n kind

/-- A declaration, from its keyword to its closing brace. -/
def callable : Nat → Callable.Form → Parser Declaration
  | 0, _ => exhausted
  | n + 1, form => do
    let line ← currentLine
    advance
    within form.construct do
      if (← currentKind) ≠ .text then
        fail (← coded form.invalidCode .error
          ("Expected a name after '" ++ form.construct.name ++ "'") [.text])
      let name ← expectName
      let params ← params n
      delimiter .leftBrace
      let body ← within .block (blockBody n line)
      return { form, name, params, body, line }

/-- The statements up to and past the brace that closes the block opened on the
    given line. -/
def blockBody : Nat → (opened : Nat) → Parser (List Statement)
  | 0, _ => exhausted
  | n + 1, opened => do
    skipSeparators
    if ← halted then return []
    else do
      let token ← current
      match token.kind with
      | .rightBrace => do
        advance
        return []
      | .eof => do
        report (← coded .missingCloseBrace .error
          s!"Missing '\x7d' to close the block opened on line {opened}" [.rightBrace])
        return []
      | _ => do
        let start := (← cursor).index
        let s ← orRecover (statement n) (.error token.position.line)
        ensureProgress start
        let rest ← blockBody n opened
        return s :: rest

/-- A statement inside a block. -/
def statement : Nat → Parser Statement
  | 0 => exhausted
  | n + 1 => do
    let kind ← effectiveKind
    statementAs n kind

end

end Parser

end SunLint
