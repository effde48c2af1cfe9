import SunLint.Toml.Basic

/-!
# Reading TOML

A reader for the whole of TOML 1.0: every kind of key and value, headers of
tables and of arrays of tables, and the rules against double definitions. It
either yields the document or rejects the text; floating-point numbers and dates
are checked for their form, but their values are not kept.

A reader takes characters from the front of the text or fails. Those that repeat
themselves are given the length of the text as a bound.
-/

namespace SunLint.Toml

/-- Takes characters from the front of a text, or fails. -/
abbrev Reader := StateT (List Char) Option

namespace Reader

variable {α : Type}

/-- The characters ahead. -/
def ahead : Reader (List Char) := get

/-- The first alternative that does not fail. -/
def either (p q : Reader α) : Reader α := fun cs => p cs <|> q cs

/-- The result of `p`, or none and nothing taken. -/
def attempt (p : Reader α) : Reader (Option α) := fun cs =>
  match p cs with
  | some (a, rest) => some (some a, rest)
  | none => some (none, cs)

/-- Takes the given characters. -/
def exactly (text : List Char) : Reader Unit := fun cs =>
  if text.isPrefixOf cs then some ((), cs.drop text.length) else none

/-- Takes the characters that satisfy `p`. -/
def span (p : Char → Bool) : Reader (List Char) := fun cs =>
  some (cs.takeWhile p, cs.dropWhile p)

/-- Takes one character that satisfies `p`. -/
def one (p : Char → Bool) : Reader Char
  | c :: rest => if p c then some (c, rest) else none
  | [] => none

/-- Takes `n` characters that satisfy `p`. -/
def times (p : Char → Bool) : Nat → Reader (List Char)
  | 0 => return []
  | n + 1 => do
    let c ← one p
    let cs ← times p n
    return c :: cs

end Reader

open Reader

/-! ## White space, comments and line ends -/

/-- A space or a tab. -/
def isSpace (c : Char) : Bool := c = ' ' || c = '\t'

/-- What may stand in a comment: no control characters but the tab. -/
def isCommentChar (c : Char) : Bool :=
  c = '\t' || 0x20 ≤ c.toNat && c.toNat ≤ 0x7E || 0x80 ≤ c.toNat

/-- Takes spaces and tabs. -/
def spaces : Reader Unit := do
  let _ ← span isSpace

/-- Takes a line end. -/
def newline : Reader Unit := either (exactly ['\n']) (exactly ['\r', '\n'])

/-- Takes a comment, if there is one. -/
def comment : Reader Unit := do
  if (← attempt (exactly ['#'])).isSome then
    let _ ← span isCommentChar

/-- Takes what may follow on a line, and the line end unless the text ends. -/
def lineEnd : Reader Unit := do
  spaces
  comment
  unless (← ahead).isEmpty do newline

/-- Takes white space, comments and line ends. -/
def blanks : (bound : Nat) → Reader Unit
  | 0 => return ()
  | bound + 1 => do
    spaces
    comment
    if (← attempt newline).isSome then blanks bound

/-! ## Strings -/

/-- The value of hexadecimal digits. -/
def hexValue (cs : List Char) : Nat :=
  cs.foldl (fun n c => n * 16 +
    (if c.isDigit then c.toNat - '0'.toNat else c.toLower.toNat - 'a'.toNat + 10)) 0

/-- A hexadecimal digit. -/
def isHexDigit (c : Char) : Bool :=
  c.isDigit || 'a' ≤ c && c ≤ 'f' || 'A' ≤ c && c ≤ 'F'

/-- The character that so many hexadecimal digits stand for. -/
def codePoint (digits : Nat) : Reader Char := do
  let n := hexValue (← times isHexDigit digits)
  if n.isValidChar then return Char.ofNat n else failure

/-- The character that stands escaped behind a backslash. -/
def escaped : Reader Char := do
  match ← one (fun _ => true) with
  | 'b' => return '\x08'
  | 't' => return '\t'
  | 'n' => return '\n'
  | 'f' => return '\x0c'
  | 'r' => return '\r'
  | '"' => return '"'
  | '\\' => return '\\'
  | 'u' => codePoint 4
  | 'U' => codePoint 8
  | _ => failure

/-- The rest of a string in double quotes. -/
def basicRest : (bound : Nat) → Reader (List Char)
  | 0 => failure
  | bound + 1 => do
    match ← one (fun c => isCommentChar c) with
    | '"' => return []
    | '\\' => do
      let c ← escaped
      let cs ← basicRest bound
      return c :: cs
    | c => do
      let cs ← basicRest bound
      return c :: cs

/-- The rest of a string in single quotes. -/
def literalRest : Reader (List Char) := do
  let cs ← span fun c => isCommentChar c && c ≠ '\''
  exactly ['\'']
  return cs

/-- The quotes at this place inside a string in triple quotes, two at most if
    the string goes on; and whether they end it. -/
def quotes (quote : Char) : Reader (List Char × Bool) := fun cs =>
  let n := min 5 (cs.takeWhile (· = quote)).length
  if 3 ≤ n then some ((List.replicate (n - 3) quote, true), cs.drop n)
  else some ((List.replicate n quote, false), cs.drop n)

/-- Takes spaces, tabs and line ends. -/
def blankLines : (bound : Nat) → Reader Unit
  | 0 => return ()
  | bound + 1 => do
    spaces
    if (← attempt newline).isSome then blankLines bound

/-- A backslash at the end of a line takes the line end and all white space
    behind it out of the string. -/
def continuation (bound : Nat) : Reader Unit := do
  exactly ['\\']
  spaces
  newline
  blankLines bound

/-- The rest of a string in triple quotes, with escapes if it is a basic one. -/
def multilineRest (quote : Char) : (bound : Nat) → Reader (List Char)
  | 0 => failure
  | bound + 1 => do
    let (qs, closed) ← quotes quote
    if closed then return qs
    else if (← attempt newline).isSome then do
      let cs ← multilineRest quote bound
      return qs ++ '\n' :: cs
    else if quote = '"' && (← attempt (continuation bound)).isSome then do
      let cs ← multilineRest quote bound
      return qs ++ cs
    else do
      let c ← one isCommentChar
      let c ← if quote = '"' && c = '\\' then escaped else pure c
      let cs ← multilineRest quote bound
      return qs ++ c :: cs

/-- A string on one line. -/
def lineString : Reader String := do
  let bound := (← ahead).length
  let cs ← either (do exactly ['"']; basicRest bound) (do exactly ['\'']; literalRest)
  return String.ofList cs

/-- A string of any form. -/
def anyString : Reader String := do
  let bound := (← ahead).length
  let multiline (quote : Char) : Reader String := do
    exactly [quote, quote, quote]
    let _ ← attempt newline
    return String.ofList (← multilineRest quote bound)
  either (multiline '"') (either (multiline '\'') lineString)

/-! ## Numbers and dates -/

/-- The digits that follow, with an underscore between two of them at most. -/
def moreDigits (p : Char → Bool) : List Char → List Char × List Char
  | '_' :: d :: rest =>
    if p d then
      let (ds, rest) := moreDigits p rest
      (d :: ds, rest)
    else ([], '_' :: d :: rest)
  | d :: rest =>
    if p d then
      let (ds, rest) := moreDigits p rest
      (d :: ds, rest)
    else ([], d :: rest)
  | [] => ([], [])

/-- Digits, at least one. -/
def digits (p : Char → Bool) : Reader (List Char) := do
  let d ← one p
  let ds ← fun cs => some (moreDigits p cs)
  return d :: ds

/-- The number that digits stand for. -/
def digitsIn (base : Nat) (ds : List Char) : Nat :=
  ds.foldl (fun n c => n * base + hexValue [c]) 0

/-- A sign, if there is one: whether it is a minus. -/
def sign : Reader Bool := fun cs =>
  match cs with
  | '-' :: rest => some (true, rest)
  | '+' :: rest => some (false, rest)
  | _ => some (false, cs)

/-- Decimal digits of which the first is no zero, unless it is the only one. -/
def wholeDigits : Reader (List Char) :=
  either (do exactly ['0']; return ['0'])
    (do
      let ds ← digits Char.isDigit
      if ds.head? = some '0' then failure else return ds)

/-- Integers have 64 bits, one of them for the sign. -/
def inRange (n : Int) : Bool := -9223372036854775808 ≤ n && n < 9223372036854775808

/-- An integer with a base, which has no sign. -/
def basedInteger (mark : Char) (base : Nat) (p : Char → Bool) : Reader Toml := do
  exactly ['0', mark]
  let n := digitsIn base (← digits p)
  if inRange n then return .integer n else failure

/-- A decimal integer. -/
def decimalInteger : Reader Toml := do
  let negative ← sign
  let n : Int := digitsIn 10 (← wholeDigits)
  let n := if negative then -n else n
  if inRange n then return .integer n else failure

/-- An integer of any form. -/
def anyInteger : Reader Toml :=
  either (basedInteger 'x' 16 isHexDigit) <|
    either (basedInteger 'o' 8 fun c => '0' ≤ c && c ≤ '7') <|
      either (basedInteger 'b' 2 fun c => c = '0' || c = '1') decimalInteger

/-- The middle between the greatest double and the first power of two that no
    double reaches. What is not below it is read as infinite. -/
def infinity : Nat := Nat.pow 2 1024 - Nat.pow 2 970

/-- Whether the decimal `mantissa` · 10 ^ `exponent` is read as infinite. -/
def isInfinite (mantissa : Nat) (exponent : Int) : Bool :=
  if mantissa = 0 then false
  else
    let magnitude : Int := (Nat.toDigits 10 mantissa).length + exponent
    if magnitude < 300 then false
    else if 320 < magnitude then true
    else if exponent < 0 then
      infinity ≤ mantissa / Nat.pow 10 exponent.natAbs
    else infinity ≤ mantissa * Nat.pow 10 exponent.toNat

/-- A decimal fraction, an exponent or both behind whole digits. A number that is
    too great is rejected. -/
def decimalFloat : Reader Toml := do
  let negative ← sign
  let whole ← wholeDigits
  let fraction ← attempt (do exactly ['.']; digits Char.isDigit)
  let exponent ← attempt (do
    let _ ← one fun c => c = 'e' || c = 'E'
    let negative ← sign
    let n : Int := digitsIn 10 (← digits Char.isDigit)
    return if negative then -n else n)
  if fraction.isNone && exponent.isNone then failure
  let places := fraction.getD []
  if !negative && isInfinite (digitsIn 10 (whole ++ places)) (exponent.getD 0 - places.length) then
    failure
  return .float

/-- A floating-point number, or the name of a special one. -/
def anyFloat : Reader Toml :=
  either decimalFloat do
    let _ ← sign
    either (exactly "inf".toList) (exactly "nan".toList)
    return .float

/-- A number of so many digits that lies within the bounds. -/
def field (width lo hi : Nat) : Reader Nat := do
  let n := digitsIn 10 (← times Char.isDigit width)
  if lo ≤ n && n ≤ hi then return n else failure

/-- The number of days of a month. -/
def daysIn (year month : Nat) : Nat :=
  if month = 2 then
    if year % 4 = 0 && year % 100 ≠ 0 || year % 400 = 0 then 29 else 28
  else if month = 4 || month = 6 || month = 9 || month = 11 then 30
  else 31

/-- A calendar date. -/
def date : Reader Unit := do
  let year ← field 4 0 9999
  exactly ['-']
  let month ← field 2 1 12
  exactly ['-']
  let _ ← field 2 1 (daysIn year month)

/-- A time of day, possibly with a leap second and with fractions of it. -/
def time : Reader Unit := do
  let _ ← field 2 0 23
  exactly [':']
  let _ ← field 2 0 59
  exactly [':']
  let _ ← field 2 0 60
  let _ ← attempt do
    exactly ['.']
    let _ ← one Char.isDigit
    let _ ← span Char.isDigit

/-- The distance from universal time. -/
def offset : Reader Unit :=
  either (do let _ ← one fun c => c = 'Z' || c = 'z') do
    let _ ← one fun c => c = '+' || c = '-'
    let _ ← field 2 0 23
    exactly [':']
    let _ ← field 2 0 59

/-- A date, a time or both. -/
def anyDatetime : Reader Toml :=
  either
    (do
      date
      let _ ← attempt do
        let _ ← one fun c => c = 'T' || c = 't' || c = ' '
        time
        let _ ← attempt offset
      return .datetime)
    (do
      time
      return .datetime)

/-! ## Keys and values -/

/-- What may stand in a key without quotes. -/
def isKeyChar (c : Char) : Bool := c.isAlphanum || c = '_' || c = '-'

/-- A key without dots. -/
def simpleKey : Reader String :=
  either lineString do
    let cs ← span isKeyChar
    if cs.isEmpty then failure else return String.ofList cs

/-- Tables and arrays stand less deep than this in one another, and no key has as
    many parts. -/
def depthLimit : Nat := 80

/-- A key of `parts` parts at most: the path that leads to it and its last
    part. -/
def keyOf : (parts : Nat) → Reader (List String × String)
  | 0 => failure
  | parts + 1 => do
    spaces
    let k ← simpleKey
    spaces
    if (← attempt (exactly ['.'])).isSome then
      let (path, last) ← keyOf parts
      return (k :: path, last)
    else return ([], k)

/-- A key: the path that leads to it and its last part. -/
def key : Reader (List String × String) := keyOf (depthLimit - 1)

mutual

/-- A value, inside of `depth` arrays and inline tables. -/
def value : (bound depth : Nat) → Reader Toml
  | 0, _ => failure
  | bound + 1, depth => do
    match (← ahead).head? with
    | some '"' | some '\'' => return .string (← anyString)
    | some '[' => do
      if depthLimit ≤ depth + 1 then failure
      exactly ['[']
      let vs ← elements bound (depth + 1)
      return .array vs
    | some '\x7b' => do
      if depthLimit ≤ depth + 1 then failure
      exactly ['\x7b']
      spaces
      if (← attempt (exactly ['\x7d'])).isSome then return .inline .empty
      else do
        let t ← pairs bound (depth + 1) .empty
        return .inline t
    | some 't' => do
      exactly "true".toList
      return .boolean true
    | some 'f' => do
      exactly "false".toList
      return .boolean false
    | _ => either anyDatetime (either anyFloat anyInteger)

/-- The elements of an array up to its closing bracket. A comma may stand before
    the end. -/
def elements : (bound depth : Nat) → Reader (List Toml)
  | 0, _ => failure
  | bound + 1, depth => do
    blanks bound
    if (← attempt (exactly [']'])).isSome then return []
    else do
      let v ← value bound depth
      blanks bound
      if (← attempt (exactly [','])).isSome then do
        let vs ← elements bound depth
        return v :: vs
      else do
        exactly [']']
        return [v]

/-- The keys and values of an inline table up to its closing brace. -/
def pairs : (bound depth : Nat) → Table → Reader Table
  | 0, _, _ => failure
  | bound + 1, depth, t => do
    let (path, k) ← key
    exactly ['=']
    spaces
    let v ← value bound depth
    spaces
    match t.define path k v with
    | none => failure
    | some t =>
      if (← attempt (exactly [','])).isSome then pairs bound depth t
      else do
        exactly ['\x7d']
        return t

end

/-! ## Documents -/

/-- The header of a table or of a further table in an array, and the document
    with that table. -/
def header (document : Table) : Reader (List String × Table) := do
  exactly ['[']
  let isArray := (← attempt (exactly ['['])).isSome
  let (path, k) ← key
  exactly [']']
  if isArray then exactly [']']
  match if isArray then document.append? path k else document.open? path k with
  | some document => return (path ++ [k], document)
  | none => failure

/-- The lines of a document, below the header that was last given. -/
def document : (bound : Nat) → (current : List String) → Table → Reader Table
  | 0, _, _ => failure
  | bound + 1, current, t => do
    spaces
    match (← ahead).head? with
    | none => return t
    | some '[' => do
      let (current, t) ← header t
      lineEnd
      document bound current t
    | some c =>
      if c = '#' || c = '\n' || c = '\r' then do
        lineEnd
        document bound current t
      else do
        let length := (← ahead).length
        let (path, k) ← key
        exactly ['=']
        spaces
        let v ← value length 0
        match t.defineBelow current path k v with
        | none => failure
        | some t => do
          lineEnd
          document bound current t

/-- The document that the text holds, if it is one. A byte-order mark at the
    start is passed over. -/
def read? (text : String) : Option Table :=
  let cs := match text.toList with
    | '\ufeff' :: rest => rest
    | cs => cs
  ((document (cs.length + 1) [] .empty).run cs).map (·.1)

end SunLint.Toml
