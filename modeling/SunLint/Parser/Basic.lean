import SunLint.Recovery.Basic
import SunLint.Tree

/-!
# Parsers

A parser reads tokens from a cursor. It comes to a result, or it fails with an
error that nobody has recorded yet; in both cases it leaves the cursor where it
got to and the errors recorded so far. Only so many errors are recorded: once
there is no room for another one, parsing is *halted* and winds up.

Parsers call each other to a depth that is bounded by the number of tokens. They
carry the depth that is left to them, and `Outcome.exhausted` is the outcome of
one that has none left.
-/

namespace SunLint

namespace Parser

/-- Where a parser is called: with what errors are recorded, and in which
    constructs, the innermost first. -/
structure Env where
  scene : Scene
  constructs : List Construct := []

/-- What a parser changes: the place it is at, the errors recorded so far, the
    latest first, and how many more can be recorded. -/
structure State where
  cursor : Cursor
  errors : List SyntaxError := []
  room : Nat

/-- How a parser ends. -/
inductive Outcome (α : Type)
  | done (value : α) (state : State)
  | failed (error : SyntaxError) (state : State)
  | exhausted

end Parser

/-- A parser for values of type `α`. -/
def Parser (α : Type) := Parser.Env → Parser.State → Parser.Outcome α

namespace Parser

variable {α β : Type}

/-- The parser that reads nothing. -/
protected def pure (a : α) : Parser α := fun _ s => .done a s

/-- The parser that goes on from the result of another one. -/
protected def bind (p : Parser α) (f : α → Parser β) : Parser β := fun env s =>
  match p env s with
  | .done a s => f a env s
  | .failed e s => .failed e s
  | .exhausted => .exhausted

instance : Monad Parser where
  pure := Parser.pure
  bind := Parser.bind

theorem pure_apply (a : α) (env : Env) (s : State) : (pure a : Parser α) env s = .done a s := rfl

theorem bind_apply (p : Parser α) (f : α → Parser β) (env : Env) (s : State) :
    (p >>= f) env s =
      match p env s with
      | .done a s => f a env s
      | .failed e s => .failed e s
      | .exhausted => .exhausted := rfl

/-- No depth is left. -/
def exhausted : Parser α := fun _ _ => .exhausted

/-- Gives up with an error. -/
def fail (e : SyntaxError) : Parser α := fun _ s => .failed e s

/-- Runs the parser inside a construct. -/
def within (construct : Construct) (p : Parser α) : Parser α := fun env s =>
  p { env with constructs := construct :: env.constructs } s

/-! ## Looking and moving -/

/-- The cursor. -/
def cursor : Parser Cursor := fun _ s => .done s.cursor s

/-- What errors are recorded with. -/
def scene : Parser Scene := fun env s => .done env.scene s

/-- The token under the cursor. -/
def current : Parser Token := fun _ s => .done s.cursor.focus s

/-- The kind of the token under the cursor. -/
def currentKind : Parser Kind := fun _ s => .done s.cursor.focus.kind s

/-- The line of the token under the cursor. -/
def currentLine : Parser Nat := fun _ s => .done s.cursor.focus.position.line s

/-- Moves to the next token; the last token stays under the cursor. -/
def advance : Parser Unit := fun _ s => .done () { s with cursor := s.cursor.next }

/-- Moves on over tokens of certain kinds. -/
def skip (p : Kind → Bool) : Parser Unit := fun _ s =>
  .done () { s with cursor := s.cursor.skip p }

/-- Moves on over line ends. -/
def skipNewlines : Parser Unit := skip (· = .newline)

/-- Moves on over line ends and semicolons. -/
def skipSeparators : Parser Unit := skip fun k => k = .newline || k = .semicolon

/-- Moves past a token of the kind, if one is there. -/
def eat (kind : Kind) : Parser Bool := do
  if (← currentKind) = kind then
    advance
    return true
  else return false

/-! ## Errors -/

/-- The context of the token under the cursor. -/
def context : Parser Context := fun env s =>
  .done (env.scene.context s.cursor (env.constructs.headD .topLevel)
    env.constructs.tail.reverse) s

/-- Whether no more errors are recorded. -/
def halted : Parser Bool := fun _ s => .done (s.room = 0) s

/-- Records an error, if there is room. -/
def report (e : SyntaxError) : Parser Unit := fun _ s =>
  .done () (match s.room with
    | 0 => s
    | room + 1 => { s with errors := e :: s.errors, room := room })

/-- The position of the latest error recorded. -/
def lastErrorPosition : Parser (Option Position) := fun _ s =>
  .done (s.errors.head?.map (·.position)) s

/-- An error at the token under the cursor. -/
def coded (code : ErrorCode) (severity : Severity) (message : String)
    (expected : List Kind := []) : Parser SyntaxError := do
  return (← scene).recordCoded code severity message (← current) expected (← context)

/-- The words for a list of kinds, one of which is expected. -/
def alternatives (kinds : List Kind) : String := " or ".intercalate (kinds.map Kind.describe)

/-- The error that the token under the cursor is not one of those expected, or
    has no place there at all. -/
def unexpectedError (expected : List Kind) : Parser SyntaxError := do
  let token ← current
  let message :=
    if expected.isEmpty then "Unexpected token '" ++ token.display ++ "'"
    else "Expected " ++ alternatives expected ++ ", found '" ++ token.display ++ "'"
  return (← scene).recordError message token expected (← context)

/-- Gives up because of the token under the cursor. -/
def unexpected (expected : List Kind) : Parser α := do
  fail (← unexpectedError expected)

/-- Moves past a token of the kind, which has to be there. -/
def expect (kind : Kind) : Parser Token := do
  let token ← current
  if token.kind = kind then
    advance
    return token
  else unexpected [kind]

/-- Moves past a name, which has to be there. -/
def expectName : Parser String := do
  return (← expect .text).text

/-- Fails unless a statement may end here. -/
def endStatement : Parser Unit := do
  unless (← currentKind).endsStatement do unexpected [.newline]

/-! ## Recovery -/

/-- Whether the recovery itself reports what went wrong at the place of the
    error, and does so better than by having skipped a line. -/
def isMoreSpecific (r : Recovery) (e : SyntaxError) : Bool :=
  r.error.any fun e' => e'.position = e.position && e'.code ≠ .lineSkipped

/-- Records the error and moves to where parsing can be taken up again. A report
    of the recovery on the same place goes in the stead of the error. -/
def recoverFrom (e : SyntaxError) : Parser Unit := do
  if ← halted then return
  let r := (← scene).recover (← cursor) e.context
  unless isMoreSpecific r e do report e
  if let some e' := r.error then report e'
  fun _ s => .done () { s with cursor := s.cursor.seek r.advance }

/-- Runs the parser, and recovers if it fails, with `fallback` for its
    result. -/
def orRecover (p : Parser α) (fallback : α) : Parser α := fun env s =>
  match p env s with
  | .failed e s => (do recoverFrom e; return fallback : Parser α) env s
  | outcome => outcome

/-- Moves on by one token if the cursor is still at the index `start`. -/
def ensureProgress (start : Nat) : Parser Unit := do
  if (← cursor).index = start ∧ (← currentKind) ≠ .eof then advance

/-! ## Misspelled keywords -/

/-- Whether the token under the cursor is followed on its line by another word
    or a literal, as a keyword is and a name is not. -/
def isJuxtaposed (c : Cursor) : Bool :=
  c.ahead.head?.any fun next =>
    next.position.line = c.focus.position.line &&
      (next.kind = .text || next.kind = .string || next.kind = .number)

/-- The kind of the token under the cursor, where a misspelled keyword that
    starts a declaration counts as that keyword. This is recorded as a
    warning. -/
def effectiveKind : Parser Kind := do
  let token ← current
  if token.kind = .text && isJuxtaposed (← cursor) then
    if let some meant := (← scene).replacement? token then
      if meant.kind.startsDeclaration then
        report ((← scene).recordMisspelling token meant.text (← context))
        return meant.kind
  return token.kind

end Parser

end SunLint
