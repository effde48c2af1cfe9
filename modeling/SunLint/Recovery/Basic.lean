import SunLint.Recovery.Scene
import SunLint.Token.Operator

/-!
# Recovery

Where parsing can be taken up again after a failure. Six strategies are tried in
a fixed order, from a synchronization point nearby to skipping the rest of the
line, and the first that applies is taken. Each of them says how many tokens to
move on, and may report one error and the amendment it made.

Unless the cursor is at the end already, every strategy moves on, so that
repeated recovery comes to the end of any token list.
-/

namespace SunLint

/-- The ways to get on after a failure. -/
inductive Strategy
  | atEnd | syncPoint | insertMissing | deleteToken | substitute | statementBoundary | skipLine
deriving DecidableEq, Repr

/-- The name of the strategy. -/
def Strategy.name : Strategy → String
  | .atEnd => "at_end"
  | .syncPoint => "sync_point"
  | .insertMissing => "insert_missing"
  | .deleteToken => "delete_token"
  | .substitute => "substitute"
  | .statementBoundary => "statement_boundary"
  | .skipLine => "skip_line"

/-- How the tokens are to be read to make sense of them. -/
inductive Amendment
  | inserted (token : Token)
  | replaced (found meant : Token)
  | skipped (tokens : List Token)
deriving DecidableEq, Repr

/-- The outcome of a strategy: parsing goes on `advance` tokens further. -/
structure Recovery where
  strategy : Strategy
  advance : Nat
  error : Option SyntaxError := none
  amendment : Option Amendment := none
deriving DecidableEq, Repr

namespace Recovery

/-- Nothing is left to recover. -/
def atEnd : Recovery := { strategy := .atEnd, advance := 0 }

/-- The tokens up to the end of the input. -/
def beforeEof (tokens : List Token) : List Token := tokens.takeWhile (·.kind ≠ .eof)

/-- What has to follow the header of a construct, the keyword that opens it, and
    how the lack of it is reported. -/
structure Delimiter where
  opener : Kind
  kind : Kind
  code : ErrorCode
  message : String

/-- The delimiter of the construct, if its header has one. -/
def Delimiter.ofConstruct? : Construct → Option Delimiter
  | .function => some ⟨.functionKw, .leftBrace, .missingOpenBrace,
      "Missing '\x7b' after function name"⟩
  | .component => some ⟨.componentKw, .leftBrace, .missingOpenBrace,
      "Missing '\x7b' after component name"⟩
  | .when => some ⟨.whenKw, .thenKw, .missingToken, "Missing 'then' after when condition"⟩
  | _ => none

/-- The delimiter as a token at the given position. -/
def Delimiter.token (delimiter : Delimiter) (p : Position) : Token :=
  match delimiter.kind with
  | .leftBrace => ⟨.leftBrace, "\x7b", p⟩
  | _ => ⟨.thenKw, "then", p⟩

/-- Whether the token is plainly wrong where it stands: an operator that does
    not exist, a punctuation mark that stands twice, or a literal where none can
    be. -/
def isWrong (c : Cursor) (construct : Construct) : Bool :=
  let kind := c.focus.kind
  if kind = .symbol then !Operator.isKnown c.focus.text
  else if kind.isPunctuation then c.ahead.head?.any (·.kind = kind)
  else kind.isLiteral && !construct.acceptsLiterals

/-- Goes to the next line end, semicolon or synchronization point, wherever it
    is. -/
def statementBoundary? (c : Cursor) : Option Recovery :=
  ((beforeEof c.ahead).findIdx? fun t => t.kind = .semicolon || t.kind.isSyncPoint).map
    fun i => { strategy := .statementBoundary, advance := i + 1 }

/-- The tokens ahead on the line of the one under the cursor. -/
def restOfLine (c : Cursor) : List Token :=
  c.ahead.takeWhile fun t => t.kind ≠ .eof && t.position.line = c.focus.position.line

end Recovery

namespace Scene

open Recovery

variable (scene : Scene)

/-- Goes to the nearest synchronization point within the lookahead. -/
def syncPoint? (c : Cursor) : Option Recovery :=
  ((beforeEof (c.ahead.take scene.limits.syncLookahead)).findIdx? (·.kind.isSyncPoint)).map
    fun i => { strategy := .syncPoint, advance := i + 1 }

/-- The delimiter that is missing before the token under the cursor: looking
    back over a few tokens, the keyword of the construct comes before the
    delimiter that it asks for. -/
def lacking? (c : Cursor) (construct : Construct) : Option Delimiter := do
  let delimiter ← Delimiter.ofConstruct? construct
  let nearest ← (c.focus :: c.behind.take scene.limits.insertionLookbehind).find? fun t =>
    t.kind = delimiter.opener || t.kind = delimiter.kind
  if nearest.kind = delimiter.opener then some delimiter else none

/-- The error that a delimiter is missing before the token under the cursor. -/
def missingDelimiter? (c : Cursor) (context : Context) : Option SyntaxError :=
  (scene.lacking? c context.construct).map fun delimiter =>
    scene.recordCoded delimiter.code .error delimiter.message c.focus [delimiter.kind] context

/-- Takes a missing delimiter for present. -/
def insertMissing? (c : Cursor) (context : Context) : Option Recovery :=
  (scene.lacking? c context.construct).map fun delimiter =>
    { strategy := .insertMissing, advance := 1
      error := scene.missingDelimiter? c context
      amendment := some (.inserted (delimiter.token c.focus.position)) }

/-- Passes over a token that is plainly wrong. -/
def deleteToken? (c : Cursor) (context : Context) : Option Recovery :=
  if isWrong c context.construct then
    some { strategy := .deleteToken, advance := 1
           error := some (scene.recordCoded .unexpectedToken .error
             ("Unexpected token '" ++ c.focus.display ++ "'") c.focus [] context)
           amendment := some (.skipped [c.focus]) }
  else none

/-- The token that a misspelled word stands for. -/
def replacement? (token : Token) : Option Token :=
  if token.kind = .text then
    (scene.dictionary.correction? token.text scene.limits.maxEditDistance).map fun c =>
      ⟨(Kind.ofWord? c.word).getD .text, c.word, token.position⟩
  else none

/-- Reads a misspelled word as what it stands for. -/
def substitute? (c : Cursor) (context : Context) : Option Recovery :=
  (scene.replacement? c.focus).map fun token =>
    { strategy := .substitute, advance := 1
      error := some (scene.recordMisspelling c.focus token.text context)
      amendment := some (.replaced c.focus token) }

/-- Passes over the rest of the line. -/
def skipLine (c : Cursor) (context : Context) : Recovery where
  strategy := .skipLine
  advance := (restOfLine c).length + 1
  error := some (scene.recordCoded .lineSkipped .warning
    s!"Skipped the rest of line {c.focus.position.line} to continue parsing" c.focus [] context)
  amendment := some (.skipped (c.focus :: restOfLine c))

/-- The first strategy that applies. -/
def recover (c : Cursor) (context : Context) : Recovery :=
  if c.focus.kind = .eof then .atEnd
  else
    (scene.syncPoint? c
      <|> scene.insertMissing? c context
      <|> scene.deleteToken? c context
      <|> scene.substitute? c context
      <|> statementBoundary? c).getD (scene.skipLine c context)

end Scene

/-- Whether nothing is left at the index: it is beyond the list, or the input
    ends there. -/
def Recovery.isAtEnd (tokens : List Token) (i : Nat) : Bool :=
  match tokens[i]? with
  | some t => t.kind = .eof
  | none => true

namespace Scene

variable (scene : Scene)

/-- The recovery at an index of any token list. Without a context, that of the
    token there is taken. -/
def recoverAt (tokens : List Token) (i : Nat) (context : Option Context) : Recovery :=
  match Cursor.at? tokens i with
  | some c => scene.recover c (context.getD (scene.context c .topLevel []))
  | none => .atEnd

/-- Recovers again and again, starting at the index `i`, until nothing is left:
    the indices passed through with what was done there, and the last index.
    Every recovery moves on, so the length of the list bounds their number. -/
def recoverAll (tokens : List Token) (context : Option Context) :
    (bound i : Nat) → List (Nat × Recovery) × Nat
  | 0, i => ([], i)
  | bound + 1, i =>
    if Recovery.isAtEnd tokens i then ([], i)
    else
      let r := scene.recoverAt tokens i context
      let (trail, last) := recoverAll tokens context bound (i + r.advance)
      ((i, r) :: trail, last)

/-- The trail of recoveries from the index on. -/
def trail (tokens : List Token) (context : Option Context) (i : Nat) :
    List (Nat × Recovery) × Nat :=
  scene.recoverAll tokens context tokens.length i

end Scene

end SunLint
