import SunLint.Error.Lexical
import SunLint.Token.Basic
import SunLint.Token.Chunk

/-!
# Token streams

Reading the tokens of a text never fails: what belongs to no token becomes a
lexical error beside the tokens, and the list ends with one mark for the end of
the input. Line ends are tokens, because they end statements; white space and
comments are not. A byte-order mark at the very start is passed over.

Every chunk of the text is placed at the position that the text before it leads
to; tokens and errors are then read off the placed chunks one by one.
-/

namespace SunLint

/-- A chunk and where it starts. -/
structure Placed extends Chunk where
  position : Position
deriving DecidableEq, Repr

/-- The chunks, the first of which starts at `p`, with their positions. -/
def placeFrom (p : Position) : List Chunk → List Placed
  | [] => []
  | ch :: rest => ⟨ch, p⟩ :: placeFrom (p.after ch.text) rest

/-- Places chunk by chunk: the second part starts where the first one ends. -/
theorem placeFrom_append (p : Position) (l r : List Chunk) :
    placeFrom p (l ++ r) =
      placeFrom p l ++ placeFrom (p.after (l.map Chunk.text).flatten) r := by
  induction l generalizing p with
  | nil => rfl
  | cons ch l ih =>
    rw [List.cons_append, placeFrom, ih, placeFrom, List.map_cons, List.flatten_cons,
      Position.after_append, List.cons_append]

namespace Placed

/-- The kind of the token that the chunk is, if it is one. -/
def kind? (ch : Placed) : Option Kind :=
  match ch.shape with
  | .newline => some .newline
  | .string _ => some .string
  | .number => some .number
  | .word => some ((Kind.ofWord? (String.ofList ch.text)).getD .text)
  | .mark kind => some kind
  | .directive => some .directive
  | .operator => some (if ch.text = ['='] then .equals else .symbol)
  | .blank | .lineComment | .blockComment _ | .stray => none

/-- The token that the chunk is, if it is one. -/
def token? (ch : Placed) : Option Token :=
  ch.kind?.map fun kind => ⟨kind, String.ofList ch.text, ch.position⟩

/-- The code point in hexadecimal, with four digits at least. -/
def hexCode (c : Char) : String :=
  let digits := (Nat.toDigits 16 c.toNat).map Char.toUpper
  String.ofList (List.replicate (4 - digits.length) '0' ++ digits)

/-- What is wrong with a character that belongs to no token. -/
def strayError (c : Char) (p : Position) : LexicalError :=
  if c = '\ufffd' then
    { code := .invalidEncoding, position := p, length := 1
      message := "Invalid character encoding (U+FFFD replacement character)"
      suggestions := ["Re-save the file as UTF-8 and retype this character"] }
  else if Text.isInvisible c then
    { code := .invalidEncoding, position := p, length := 1
      message := s!"Invisible or control character U+{hexCode c}"
      suggestions := ["Delete this invisible character"] }
  else
    { code := .unexpectedCharacter, position := p, length := 1
      message := s!"Unexpected character '{c}'"
      suggestions := ["Remove or replace this character"] }

/-- The defect of the chunk, if it has one. An unterminated string is a token
    all the same. -/
def error? (ch : Placed) : Option LexicalError :=
  match ch.shape, ch.text with
  | .blockComment false, _ => some
    { code := .unterminatedComment, position := ch.position, length := 2
      message := "Unterminated block comment"
      suggestions := ["Close the comment with '*/'"] }
  | .string false, quote :: inner => some
    { code := .unterminatedString, position := ch.position, length := inner.length + 1
      message := "Unterminated string literal"
      suggestions := [s!"Add a closing quote ({quote}) to end the string"] }
  | .stray, c :: _ => some (strayError c ch.position)
  | _, _ => none

end Placed

/-- The tokens of a text and what was found wrong while reading them. -/
structure TokenStream where
  tokens : List Token
  errors : List LexicalError
deriving DecidableEq, Repr, Inhabited

/-- Whether the token list ends with the end of the input. -/
def TokenStream.isTerminated (s : TokenStream) : Bool :=
  s.tokens.getLast?.map (·.kind) = some .eof

/-- The characters of the text behind a byte-order mark at its start. -/
def Text.body (source : String) : List Char :=
  match source.toList with
  | '\ufeff' :: rest => rest
  | cs => cs

/-- The chunks of the source text at their positions. -/
def placedChunks (source : String) : List Placed :=
  placeFrom .start (chunks (Text.body source))

/-- Reads the tokens of the source text. -/
def tokenize (source : String) : TokenStream where
  tokens := (placedChunks source).filterMap Placed.token? ++
    [Token.eof (Position.start.after (Text.body source))]
  errors := (placedChunks source).filterMap Placed.error?

/-- Every text is read to its end. -/
theorem isTerminated_tokenize (source : String) : (tokenize source).isTerminated = true := by
  simp [TokenStream.isTerminated, tokenize, Token.eof]

end SunLint
