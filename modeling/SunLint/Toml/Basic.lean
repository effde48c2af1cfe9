/-!
# TOML values and tables

A document is a table, and tables hold values or further tables. A table comes
into being by a header of its own, or is implied by the header or the key of
something inside it. That decides how it may be continued: nothing is defined
twice, a header may complete a table that other headers have implied, and a
dotted key may only add to tables that dotted keys have made.
-/

namespace SunLint

mutual

/-- A value that stands on the right of a key. -/
inductive Toml
  | string (s : String)
  | integer (n : Int)
  | float
  | boolean (b : Bool)
  | datetime
  | array (values : List Toml)
  | inline (table : Toml.Table)

/-- What a key of a table stands for. -/
inductive Toml.Entry
  | value (v : Toml)
  | table (t : Toml.Table)
  | tables (ts : List Toml.Table)

/-- A table. It is implied if nothing has defined it by itself yet, and dotted
    if it was a dotted key that implied it. -/
inductive Toml.Table
  | mk (implied dotted : Bool) (entries : List (String × Toml.Entry))

end

namespace Toml.Table

/-- The table of a header, without entries as yet. -/
def empty : Table := .mk false false []

instance : Inhabited Table := ⟨empty⟩

/-- Whether the table was only implied. -/
def isImplied : Table → Bool
  | .mk implied _ _ => implied

/-- Whether the table was made by dotted keys. -/
def isDotted : Table → Bool
  | .mk _ dotted _ => dotted

/-- The entries in the order of their definition. -/
def entries : Table → List (String × Entry)
  | .mk _ _ entries => entries

/-- The entry of the key. -/
def find? (t : Table) (key : String) : Option Entry := t.entries.lookup key

/-- The table with the entry of the key replaced, or put at its end. -/
def set (t : Table) (key : String) (entry : Entry) : Table :=
  match t with
  | .mk implied dotted entries =>
    .mk implied dotted <|
      if (entries.lookup key).isSome then
        entries.map fun e => if e.1 = key then (key, entry) else e
      else entries ++ [(key, entry)]

/-- The table changed by `f` at the end of a path. Tables missing on the way are
    implied, and of an array of tables the last one is meant. A path of dotted
    keys does not lead through tables that are defined otherwise. -/
def modify (dotted : Bool) (f : Table → Option Table) : List String → Table → Option Table
  | [], t => f t
  | key :: path, t =>
    match t.find? key with
    | none => do
      let child ← modify dotted f path (.mk true dotted [])
      return t.set key (.table child)
    | some (.table child) =>
      if dotted && !child.isImplied then none
      else do
        let child ← modify dotted f path child
        return t.set key (.table child)
    | some (.tables children) =>
      match children.getLast? with
      | none => none
      | some last => do
        let last ← modify dotted f path last
        return t.set key (.tables (children.dropLast ++ [last]))
    | some (.value _) => none

/-- The table with a value for the key at the end of a dotted path. Neither is a
    key defined twice nor are dotted and other definitions of a table mixed. -/
def define (path : List String) (key : String) (v : Toml) (t : Table) : Option Table :=
  t.modify true (fun t =>
    if t.isDotted = path.isEmpty then none
    else match t.find? key with
      | some _ => none
      | none => some (t.set key (.value v))) path

/-- The document with a table defined by a header. -/
def open? (path : List String) (key : String) (document : Table) : Option Table :=
  document.modify false (fun t =>
    match t.find? key with
    | none => some (t.set key (.table empty))
    | some (.table (.mk true false entries)) =>
      some (t.set key (.table (.mk false false entries)))
    | some _ => none) path

/-- The document with a further table in an array of tables. -/
def append? (path : List String) (key : String) (document : Table) : Option Table :=
  document.modify false (fun t =>
    match t.find? key with
    | none => some (t.set key (.tables [empty]))
    | some (.tables ts) => some (t.set key (.tables (ts ++ [empty])))
    | some _ => none) path

/-- The document with a value for a key, possibly a dotted one, below the header
    that was last given. -/
def defineBelow (header path : List String) (key : String) (v : Toml) (document : Table) :
    Option Table :=
  document.modify false (define path key v) header

end Toml.Table

end SunLint
