import SunLint.Json.Basic

/-!
# Printing JSON

Two layouts of the same value: `compress` writes it on one line without spaces,
`pretty` gives every element and every member a line of its own, indented by two
spaces for each level; empty arrays and objects stay on one line in both. Only
quotes, backslashes and control characters are escaped.
-/

namespace SunLint.Json

/-- The two hexadecimal digits of a number below 256. -/
def hexPair (n : Nat) : String :=
  String.ofList [Nat.digitChar (n / 16 % 16), Nat.digitChar (n % 16)]

/-- The character as it stands in a string. -/
def escapeChar (c : Char) : String :=
  match c with
  | '"' => "\\\""
  | '\\' => "\\\\"
  | '\x08' => "\\b"
  | '\x0c' => "\\f"
  | '\n' => "\\n"
  | '\r' => "\\r"
  | '\t' => "\\t"
  | c => if c.toNat < 0x20 then "\\u00" ++ hexPair c.toNat else c.toString

/-- The text between quotes. -/
def quote (s : String) : String :=
  "\"" ++ String.join (s.toList.map escapeChar) ++ "\""

mutual

/-- The value on one line. -/
def compress : Json → String
  | .null => "null"
  | .bool b => if b then "true" else "false"
  | .int n => toString n
  | .real literal | .garbled literal => literal
  | .str s => quote s
  | .arr es => "[" ++ ",".intercalate (compressAll es) ++ "]"
  | .obj ms => "\x7b" ++ ",".intercalate (compressMembers ms) ++ "\x7d"

/-- The values, each on one line. -/
def compressAll : List Json → List String
  | [] => []
  | v :: vs => compress v :: compressAll vs

/-- The members, each on one line. -/
def compressMembers : List (String × Json) → List String
  | [] => []
  | (name, v) :: ms => (quote name ++ ":" ++ compress v) :: compressMembers ms

end

/-- The parts on lines of their own, between brackets that stand at the margin. -/
def layOut (margin opening closing : String) (parts : List String) : String :=
  match parts with
  | [] => opening ++ closing
  | parts =>
    let inner := margin ++ "  "
    opening ++ inner ++ ("," ++ inner).intercalate parts ++ margin ++ closing

mutual

/-- The value on lines that start with `margin`, a line feed and spaces. -/
def prettyAt (margin : String) : Json → String
  | .arr es => layOut margin "[" "]" (prettyAll (margin ++ "  ") es)
  | .obj ms => layOut margin "\x7b" "\x7d" (prettyMembers (margin ++ "  ") ms)
  | .null => "null"
  | .bool b => if b then "true" else "false"
  | .int n => toString n
  | .real literal | .garbled literal => literal
  | .str s => quote s

/-- The values, each laid out at the margin. -/
def prettyAll (margin : String) : List Json → List String
  | [] => []
  | v :: vs => prettyAt margin v :: prettyAll margin vs

/-- The members, each laid out at the margin. -/
def prettyMembers (margin : String) : List (String × Json) → List String
  | [] => []
  | (name, v) :: ms => (quote name ++ ": " ++ prettyAt margin v) :: prettyMembers margin ms

end

/-- The value over several lines, without a line feed at the end. -/
def pretty (j : Json) : String := prettyAt "\n" j

end SunLint.Json
