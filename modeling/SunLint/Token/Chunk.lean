import SunLint.Text.Blank
import SunLint.Text.Letter
import SunLint.Token.Kind

/-!
# Chunks of a text

A text falls apart into chunks: tokens, white space, comments and stray
characters. `Chunk.measure` decides from the characters ahead what the next
chunk is and how far it reaches; cutting is then the same for all of them.

* `flatten_chunks`: the chunks, put together, are the text, so that nothing is
  lost or read twice.
-/

namespace SunLint

/-- What a stretch of text is. Only `mark`, the punctuation, carries the kind of
    its token; comments and strings may lack their end. -/
inductive Shape
  | blank | lineComment | blockComment (closed : Bool)
  | newline | string (closed : Bool) | number | word
  | mark (kind : Kind) | directive | operator | stray
deriving DecidableEq, Repr

/-- A stretch of text and what it is. -/
structure Chunk where
  shape : Shape
  text : List Char
deriving DecidableEq, Repr

namespace Chunk

/-- The characters that operators are made of. -/
def isOperatorChar (c : Char) : Bool := "+-*/%=!<>&|^~?".toList.contains c

/-- The kind of a character that is a token on its own. -/
def markKind? : Char → Option Kind
  | '\x7b' => some .leftBrace
  | '\x7d' => some .rightBrace
  | '(' => some .leftParen
  | ')' => some .rightParen
  | '[' => some .leftBracket
  | ']' => some .rightBracket
  | ',' => some .comma
  | ':' => some .colon
  | '.' => some .dot
  | ';' => some .semicolon
  | _ => none

/-- How many characters the run of those that satisfy `p` has. -/
def spanLength (p : Char → Bool) (cs : List Char) : Nat := (cs.takeWhile p).length

/-- The length of the rest of a block comment, and whether it ends. -/
def commentLength : List Char → Nat × Bool
  | '*' :: '/' :: _ => (2, true)
  | _ :: cs => let (n, closed) := commentLength cs; (n + 1, closed)
  | [] => (0, false)

/-- The length of the rest of a string that `quote` opened, and whether it ends.
    A string does not go beyond its line; a backslash takes the next character
    of the line with it. -/
def stringLength (quote : Char) : List Char → Nat × Bool
  | [] => (0, false)
  | c :: cs =>
    if c = '\n' then (0, false)
    else if c = quote then (1, true)
    else if c = '\\' then
      match cs with
      | [] => (1, false)
      | d :: ds =>
        if d = '\n' then (1, false)
        else let (n, closed) := stringLength quote ds; (n + 2, closed)
    else let (n, closed) := stringLength quote cs; (n + 1, closed)

/-- The length of the rest of a number: digits, and a fraction if a digit
    follows the point. -/
def numberLength (cs : List Char) : Nat :=
  let whole := spanLength Char.isDigit cs
  match cs.drop whole with
  | '.' :: d :: ds => if d.isDigit then whole + 2 + spanLength Char.isDigit ds else whole
  | _ => whole

/-- The length of the rest of an operator, which stops before a comment. -/
def operatorLength : List Char → Nat
  | [] => 0
  | c :: cs =>
    if !isOperatorChar c then 0
    else if c = '/' && (cs.head? = some '/' || cs.head? = some '*') then 0
    else operatorLength cs + 1

/-- What the chunk is that starts with `c`, and how many of the characters after
    `c` belong to it. -/
def measure (c : Char) (rest : List Char) : Shape × Nat :=
  if c = '/' && rest.head? = some '/' then (.lineComment, spanLength (· ≠ '\n') rest)
  else if c = '/' && rest.head? = some '*' then
    let (n, closed) := commentLength rest.tail
    (.blockComment closed, n + 1)
  else if c = '\n' then (.newline, 0)
  else if Text.isBlank c then (.blank, 0)
  else if c = '"' || c = '\'' then
    let (n, closed) := stringLength c rest
    (.string closed, n)
  else if c.isDigit then (.number, numberLength rest)
  else if Text.startsWord c then (.word, spanLength Text.isWordChar rest)
  else match markKind? c with
    | some kind => (.mark kind, 0)
    | none =>
      if c = '@' && rest.head?.any Text.startsWord then
        (.directive, spanLength Text.isWordChar rest)
      else if isOperatorChar c then (.operator, operatorLength rest)
      else (.stray, 0)

end Chunk

/-- The chunks of the text behind its first `skip` characters, which belong to
    a chunk cut before. -/
def chunksFrom : (skip : Nat) → List Char → List Chunk
  | _, [] => []
  | skip + 1, _ :: rest => chunksFrom skip rest
  | 0, c :: rest =>
    let (shape, more) := Chunk.measure c rest
    ⟨shape, c :: rest.take more⟩ :: chunksFrom more rest

/-- The chunks of the text. -/
def chunks (cs : List Char) : List Chunk := chunksFrom 0 cs

/-- Skipping is dropping. -/
theorem chunksFrom_eq (skip : Nat) (cs : List Char) :
    chunksFrom skip cs = chunks (cs.drop skip) := by
  induction cs generalizing skip with
  | nil => simp [chunks, chunksFrom]
  | cons c rest ih =>
    cases skip with
    | zero => rfl
    | succ skip => rw [chunksFrom, ih, List.drop_succ_cons]

/-- The first chunk is cut as it measures, and the others are those of the
    rest. -/
theorem chunks_cons (c : Char) (rest : List Char) :
    chunks (c :: rest) =
      ⟨(Chunk.measure c rest).1, c :: rest.take (Chunk.measure c rest).2⟩ ::
        chunks (rest.drop (Chunk.measure c rest).2) := by
  rw [← chunksFrom_eq]
  rfl

/-- No character is lost and none is read twice. -/
theorem flatten_chunks (cs : List Char) : ((chunks cs).map Chunk.text).flatten = cs := by
  induction h : cs.length using Nat.strongRecOn generalizing cs with
  | _ n ih =>
    cases cs with
    | nil => rfl
    | cons c rest =>
      rw [chunks_cons, List.map_cons, List.flatten_cons,
        ih _ (by simp only [List.length_cons] at h; simp only [List.length_drop]; omega) _ rfl,
        List.cons_append, List.take_append_drop]

end SunLint
