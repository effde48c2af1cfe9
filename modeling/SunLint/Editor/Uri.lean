/-!
# Resource identifiers

Editors name documents by URIs, which have to be well formed: a scheme that may be
missing, an authority after two slashes, a path, and a query and a fragment that
may be missing. All characters are ASCII; any other octet is written as a percent
sign and two hexadecimal digits.
-/

namespace SunLint.Uri

/-- The characters that stand for themselves everywhere. -/
def isUnreserved (c : Char) : Bool := c.isAlphanum || ['-', '.', '_', '~'].contains c

/-- The delimiters that are allowed within a part. -/
def isSubDelimiter (c : Char) : Bool :=
  ['!', '$', '&', '\'', '(', ')', '*', '+', ',', ';', '='].contains c

/-- A hexadecimal digit. -/
def isHexDigit (c : Char) : Bool :=
  c.isDigit || ('a' ≤ c && c ≤ 'f') || ('A' ≤ c && c ≤ 'F')

/-- Whether a part consists of unreserved characters, subdelimiters, characters
    from `others`, and octets after percent signs. -/
def isPart (others : List Char) : List Char → Bool
  | [] => true
  | '%' :: h :: l :: rest => isHexDigit h && isHexDigit l && isPart others rest
  | c :: rest =>
    (isUnreserved c || isSubDelimiter c || others.contains c) && isPart others rest

/-- The text before the first of the given characters, and the text from there
    on. -/
def cutAt (stops : List Char) (cs : List Char) : List Char × List Char :=
  cs.span fun c => !stops.contains c

/-- The parts of the text between the given character. -/
def splitAt (c : Char) : List Char → List (List Char)
  | [] => [[]]
  | d :: ds =>
    if d = c then [] :: splitAt c ds
    else match splitAt c ds with
      | part :: rest => (d :: part) :: rest
      | [] => [[d]]

/-- A number from 0 to 255 without leading zeros. -/
def isOctet (cs : List Char) : Bool :=
  !cs.isEmpty && cs.all Char.isDigit && (cs.length = 1 || cs.head? ≠ some '0') &&
    cs.length ≤ 3 && (cs.foldl (fun n c => 10 * n + (c.toNat - '0'.toNat)) 0) < 256

/-- Four octets with dots between them. -/
def isFourOctets (cs : List Char) : Bool :=
  let parts := splitAt '.' cs
  parts.length = 4 && parts.all isOctet

/-- The number of 16-bit groups that the text spells, with colons between them;
    the last two of an address may be spelled as four octets. -/
def groups? (isLast : Bool) (cs : List Char) : Option Nat :=
  if cs.isEmpty then some 0
  else
    let parts := splitAt ':' cs
    let isGroup (p : List Char) : Bool := !p.isEmpty && p.length ≤ 4 && p.all isHexDigit
    if parts.all isGroup then some parts.length
    else match parts.reverse with
      | last :: others =>
        if isLast && isFourOctets last && others.all isGroup then some (others.length + 2)
        else none
      | [] => none

/-- The text before and after the first two colons in a row. -/
def atDoubleColon : List Char → Option (List Char × List Char)
  | ':' :: ':' :: rest => some ([], rest)
  | c :: rest => (atDoubleColon rest).map fun (before, after) => (c :: before, after)
  | [] => none

/-- An address of eight groups, some of which two colons may stand for. -/
def isLongAddress (cs : List Char) : Bool :=
  match atDoubleColon cs with
  | none => groups? true cs = some 8
  | some (before, after) =>
    match groups? false before, groups? true after with
    | some m, some n => m + n < 8
    | _, _ => false

/-- An address of a version to come: `v`, the version, a dot and the address. -/
def isFutureAddress (cs : List Char) : Bool :=
  match cs with
  | v :: rest =>
    let (version, address) := cutAt ['.'] rest
    (v = 'v' || v = 'V') && !version.isEmpty && version.all isHexDigit &&
      1 < address.length && (address.drop 1).all fun c =>
        isUnreserved c || isSubDelimiter c || c = ':'
  | [] => false

/-- A colon and digits, or nothing. -/
def isNumberPart : List Char → Bool
  | [] => true
  | ':' :: digits => digits.all Char.isDigit
  | _ => false

/-- A host, which is a name or an address in brackets, and a colon with a number
    where there is one. -/
def isHost (cs : List Char) : Bool :=
  match cs with
  | '[' :: rest =>
    let (address, closing) := cutAt [']'] rest
    (isLongAddress address || isFutureAddress address) && !closing.isEmpty &&
      isNumberPart (closing.drop 1)
  | cs =>
    let (name, number) := cutAt [':'] cs
    isPart [] name && isNumberPart number

/-- A user, an at sign and a host, or a host alone. -/
def isAuthority (cs : List Char) : Bool :=
  match cutAt ['@'] cs with
  | (user, _ :: host) => isPart [':'] user && isHost host
  | (host, []) => isHost host

/-- What follows the scheme: an authority after two slashes, and a path. -/
def isHierarchy (cs : List Char) : Bool :=
  match cs with
  | '/' :: '/' :: rest =>
    let (authority, path) := cutAt ['/'] rest
    isAuthority authority && isPart [':', '@', '/'] path
  | cs => isPart [':', '@', '/'] cs

/-- A letter and then letters, digits, and the characters `+`, `-` and `.`. -/
def isScheme : List Char → Bool
  | [] => false
  | c :: cs => c.isAlpha && cs.all fun c => c.isAlphanum || ['+', '-', '.'].contains c

/-- Whether the text is a URI or a reference relative to one, whose first segment
    has no colon. -/
def isWellFormed (uri : String) : Bool :=
  let (rest, fragment) := cutAt ['#'] uri.toList
  let (main, query) := cutAt ['?'] rest
  isPart [':', '@', '/', '?'] (fragment.drop 1) && isPart [':', '@', '/', '?'] (query.drop 1) &&
    match cutAt [':', '/'] main with
    | (scheme, ':' :: hierarchy) => isScheme scheme && isHierarchy hierarchy
    | _ => isHierarchy main

end SunLint.Uri
