import SunLint.Json.Basic

/-!
# Reading JSON

One value, white space around it and nothing else. White space is the space, the
tab and the two line ends, and strings hold no control characters. `scan?` asks
for no more than this grammar, for readers that pass over parts of the value;
`read?` asks besides that every string is a text, where an escaped surrogate has
its partner next to it, and that the value is not too deep.

Every step consumes a character, so the number of characters bounds the depth of
the recursion.
-/

namespace SunLint.Json

/-- The white space between tokens. -/
def isSpace (c : Char) : Bool := c = ' ' || c = '\t' || c = '\n' || c = '\r'

/-- The characters behind the white space. -/
def skipSpace (cs : List Char) : List Char := cs.dropWhile isSpace

/-- The value of a hexadecimal digit. -/
def hexDigit? (c : Char) : Option Nat :=
  if c.isDigit then some (c.toNat - '0'.toNat)
  else if 'a' ≤ c ∧ c ≤ 'f' then some (c.toNat - 'a'.toNat + 10)
  else if 'A' ≤ c ∧ c ≤ 'F' then some (c.toNat - 'A'.toNat + 10)
  else none

/-- The number that four hexadecimal digits stand for. -/
def hexUnit? (a b c d : Char) : Option Nat := do
  let a ← hexDigit? a
  let b ← hexDigit? b
  let c ← hexDigit? c
  let d ← hexDigit? d
  return ((a * 16 + b) * 16 + c) * 16 + d

/-- The character that a backslash and `c` stand for. -/
def escape? : Char → Option Char
  | '"' => some '"'
  | '\\' => some '\\'
  | '/' => some '/'
  | 'b' => some '\x08'
  | 'f' => some '\x0c'
  | 'n' => some '\n'
  | 'r' => some '\r'
  | 't' => some '\t'
  | _ => none

/-- The character of two surrogates. -/
def pairChar? (high low : Nat) : Option Char :=
  if 0xD800 ≤ high ∧ high ≤ 0xDBFF ∧ 0xDC00 ≤ low ∧ low ≤ 0xDFFF then
    some (Char.ofNat (0x10000 + (high - 0xD800) * 0x400 + (low - 0xDC00)))
  else none

/-- The text of code units and code points, behind characters found already, the
    latest first. Surrogates make characters only in pairs. -/
def textOf? (found : List Char) : List Nat → Option (List Char)
  | [] => some found.reverse
  | n :: rest =>
    if n.isValidChar then textOf? (Char.ofNat n :: found) rest
    else match rest with
      | low :: rest =>
        match pairChar? n low with
        | some c => textOf? (c :: found) rest
        | none => none
      | [] => none

/-- The code points of a string up to its closing quote, where an escape with
    four digits gives a code unit, behind those that were read already, the
    latest first; and what follows the quote. -/
def readCodes (seen : List Nat) : List Char → Option (List Nat × List Char)
  | '"' :: rest => some (seen.reverse, rest)
  | '\\' :: 'u' :: a :: b :: c :: d :: rest =>
    match hexUnit? a b c d with
    | some unit => readCodes (unit :: seen) rest
    | none => none
  | '\\' :: c :: rest =>
    match escape? c with
    | some ch => readCodes (ch.toNat :: seen) rest
    | none => none
  | c :: rest =>
    if c.toNat < 0x20 ∨ c = '\\' then none else readCodes (c.toNat :: seen) rest
  | [] => none

/-- The text of a string behind its opening quote, if it is one, and what follows
    its closing quote. -/
def readString (cs : List Char) : Option (Option String × List Char) :=
  (readCodes [] cs).map fun (codes, rest) => ((textOf? [] codes).map String.ofList, rest)

/-- The digits at the front, at least one, and what follows them. -/
def readDigits (cs : List Char) : Option (List Char × List Char) :=
  match cs.takeWhile Char.isDigit with
  | [] => none
  | digits => some (digits, cs.dropWhile Char.isDigit)

/-- An optional fraction. -/
def readFraction (cs : List Char) : Option (List Char × List Char) :=
  match cs with
  | '.' :: rest => (readDigits rest).map fun (ds, rest) => ('.' :: ds, rest)
  | _ => some ([], cs)

/-- An optional exponent. -/
def readExponent (cs : List Char) : Option (List Char × List Char) :=
  match cs with
  | e :: sign :: rest =>
    if e = 'e' ∨ e = 'E' then
      if sign = '+' ∨ sign = '-' then
        (readDigits rest).map fun (ds, rest) => (e :: sign :: ds, rest)
      else (readDigits (sign :: rest)).map fun (ds, rest) => (e :: ds, rest)
    else some ([], cs)
  | [e] => if e = 'e' ∨ e = 'E' then none else some ([], cs)
  | [] => some ([], cs)

/-- The number that decimal digits stand for. -/
def digitsValue (ds : List Char) : Nat :=
  ds.foldl (fun n c => n * 10 + (c.toNat - '0'.toNat)) 0

/-- A number without its sign. No number but zero starts with the digit zero,
    and a negative zero is not an integer. -/
def readNumber (negative : Bool) (cs : List Char) : Option (Json × List Char) := do
  let (whole, rest) ← readDigits cs
  if whole.length > 1 ∧ whole.head? = some '0' then none
  let (fraction, rest) ← readFraction rest
  let (exponent, rest) ← readExponent rest
  let value := digitsValue whole
  if fraction.isEmpty ∧ exponent.isEmpty ∧ ¬ (negative ∧ value = 0) then
    return (.int (if negative then -value else value), rest)
  else
    let sign := if negative then ['-'] else []
    return (.real (String.ofList (sign ++ whole ++ fraction ++ exponent)), rest)

/-- What was read of a text of which `rest` is left. -/
def taken (cs rest : List Char) : String := String.ofList (cs.take (cs.length - rest.length))

/-- The string or object, or what was written if a part of it is no text. -/
def orGarbled (value : Option Json) (cs rest : List Char) : Json :=
  match value with
  | some v => v
  | none => .garbled (taken cs rest)

/-- The object of these members, if their names are texts. -/
def ofMembers? (members : List (Option String × Json)) : Option Json := do
  return .obj (← members.mapM fun (name, v) => do return (← name, v))

mutual

/-- A value at the front of the text, and what follows it. -/
def readValue : Nat → List Char → Option (Json × List Char)
  | 0, _ => none
  | fuel + 1, cs =>
    match skipSpace cs with
    | '\x7b' :: rest =>
      match skipSpace rest with
      | '\x7d' :: rest => some (.obj [], rest)
      | inner => (readMembers fuel inner).map fun (ms, rest) =>
        (orGarbled (ofMembers? ms) ('\x7b' :: inner) rest, rest)
    | '[' :: rest =>
      match skipSpace rest with
      | ']' :: rest => some (.arr [], rest)
      | rest => (readElements fuel rest).map fun (es, rest) => (.arr es, rest)
    | '"' :: inner => (readString inner).map fun (s, rest) =>
      (orGarbled (s.map .str) ('"' :: inner) rest, rest)
    | '-' :: rest => readNumber true rest
    | 't' :: 'r' :: 'u' :: 'e' :: rest => some (.bool true, rest)
    | 'f' :: 'a' :: 'l' :: 's' :: 'e' :: rest => some (.bool false, rest)
    | 'n' :: 'u' :: 'l' :: 'l' :: rest => some (.null, rest)
    | cs => readNumber false cs

/-- The elements of an array that is not empty, up to its closing bracket. -/
def readElements : Nat → List Char → Option (List Json × List Char)
  | 0, _ => none
  | fuel + 1, cs => do
    let (v, rest) ← readValue fuel cs
    match skipSpace rest with
    | ',' :: rest =>
      let (vs, rest) ← readElements fuel rest
      return (v :: vs, rest)
    | ']' :: rest => return ([v], rest)
    | _ => none

/-- The members of an object that is not empty, up to its closing brace. A name
    that is no text is left open. -/
def readMembers : Nat → List Char → Option (List (Option String × Json) × List Char)
  | 0, _ => none
  | fuel + 1, cs => do
    match skipSpace cs with
    | '"' :: rest =>
      let (name, rest) ← readString rest
      match skipSpace rest with
      | ':' :: rest =>
        let (v, rest) ← readValue fuel rest
        match skipSpace rest with
        | ',' :: rest =>
          let (ms, rest) ← readMembers fuel rest
          return ((name, v) :: ms, rest)
        | '\x7d' :: rest => return ([(name, v)], rest)
        | _ => none
      | _ => none
    | _ => none

end

/-- The value that the text holds, if it holds exactly one. Parts of it may be
    garbled, or nested to any depth. -/
def scan? (text : String) : Option Json :=
  let cs := text.toList
  match readValue (cs.length + 1) cs with
  | some (v, rest) => if (skipSpace rest).isEmpty then some v else none
  | none => none

/-- How deep arrays and objects may stand in one another. -/
def maxDepth : Nat := 127

/-- The value that the text holds, if it holds exactly one that can be taken in
    as a whole. -/
def read? (text : String) : Option Json := (scan? text).filter (isSound maxDepth)

end SunLint.Json
