/-!
# JSON values

A value of the data format in which dictionaries are read, reports are exported
and the editor is talked to. Objects are lists of members: their order is kept,
and a name may occur twice until a reader decides what that means. All numbers
of this library are integers; a literal with a fraction or an exponent is kept
as it was written. So is a string or an object with an escape that stands for no
character: such a value follows the grammar, but there is no text in it.
-/

namespace SunLint

/-- A JSON value. -/
inductive Json
  | null
  | bool (b : Bool)
  | int (n : Int)
  | real (literal : String)
  /-- A string that is no text, or an object with a member whose name is none. -/
  | garbled (literal : String)
  | str (s : String)
  | arr (elements : List Json)
  | obj (members : List (String × Json))
deriving Repr, Inhabited

namespace Json

mutual

/-- Whether the value can be taken in as a whole: it is all text, and arrays and
    objects stand at most `depth` deep in one another. -/
def isSound (depth : Nat) : Json → Bool
  | .null | .bool _ | .int _ | .real _ | .str _ => true
  | .garbled _ => false
  | .arr elements => depth ≠ 0 && areSound (depth - 1) elements
  | .obj members => depth ≠ 0 && haveSound (depth - 1) members

/-- Whether all of the values can be taken in. -/
def areSound (depth : Nat) : List Json → Bool
  | [] => true
  | v :: vs => v.isSound depth && areSound depth vs

/-- Whether the values of all members can be taken in. -/
def haveSound (depth : Nat) : List (String × Json) → Bool
  | [] => true
  | (_, v) :: ms => v.isSound depth && haveSound depth ms

end

/-- A natural number as a value. -/
def nat (n : Nat) : Json := .int n

/-- A list of texts as a value. -/
def strings (ss : List String) : Json := .arr (ss.map .str)

/-- The value, or `null` for none. -/
def ofOption (j : Option Json) : Json := j.getD .null

/-- The members whose value is there, in order. -/
def record (members : List (String × Option Json)) : Json :=
  .obj (members.filterMap fun (name, value) => value.map (name, ·))

/-- The value of the last member of that name. -/
def field? (j : Json) (name : String) : Option Json :=
  match j with
  | .obj members => (members.reverse.find? (·.1 = name)).map (·.2)
  | _ => none

/-- The value of the member, where `null` means that there is none. -/
def given? (j : Json) (name : String) : Option Json :=
  match j.field? name with
  | some .null => none
  | value => value

/-- The text, if the value is one. -/
def str? : Json → Option String
  | .str s => some s
  | _ => none

/-- The truth value, if the value is one. -/
def bool? : Json → Option Bool
  | .bool b => some b
  | _ => none

/-- The integer, if the value is one. -/
def int? : Json → Option Int
  | .int n => some n
  | _ => none

/-- The natural number below `bound`, if the value is one. -/
def natBelow? (bound : Nat) (j : Json) : Option Nat :=
  match j with
  | .int (.ofNat n) => if n < bound then some n else none
  | _ => none

/-- The elements, if the value is an array. -/
def arr? : Json → Option (List Json)
  | .arr elements => some elements
  | _ => none

end Json

end SunLint
