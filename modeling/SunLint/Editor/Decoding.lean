import SunLint.Editor.ClientDiagnostic

/-!
# Reading what editors send

The values in which an editor speaks of places, ranges and diagnostics. A record
is an object with a member for each field, or an array of the fields in their
order. Members that mean nothing are passed over, but a member of the wrong type
rejects the whole.
-/

namespace SunLint

namespace Json

/-- The fields of a record with the given names. -/
def record? (names : List String) : Json → Option (List (Option Json))
  | .obj members => some (names.map (Json.obj members).field?)
  | .arr elements => if elements.length = names.length then some (elements.map some) else none
  | _ => none

/-- The only field of a record. -/
def single? (name : String) (j : Json) : Option Json :=
  match j.record? [name] with
  | some [some value] => some value
  | _ => none

/-- The value of a field that may be missing or `null`. -/
def optional? {α : Type} (read : Json → Option α) : Option Json → Option (Option α)
  | none | some .null => some none
  | some value => (read value).map some

/-- The elements of an array, each of them read. -/
def list? {α : Type} (read : Json → Option α) (j : Json) : Option (List α) :=
  j.arr?.bind fun elements => elements.mapM read

/-- An unsigned number of 32 bits. -/
def word? (j : Json) : Option Nat := j.natBelow? 4294967296

/-- A signed number of 32 bits. -/
def signed? (j : Json) : Option Int :=
  match j with
  | .int n => if -2147483648 ≤ n ∧ n < 2147483648 then some n else none
  | _ => none

end Json

/-- The label that the value is. -/
def Label.ofJson? (j : Json) : Option Label :=
  match j with
  | .str s => some (.text s)
  | j => j.signed?.map .number

/-- The well-formed URI that the value is. -/
def Uri.ofJson? (j : Json) : Option String := j.str?.filter Uri.isWellFormed

/-- The place that the value is. -/
def Place.ofJson? (j : Json) : Option Place :=
  match j.record? ["line", "character"] with
  | some [some line, some character] => do return ⟨← line.word?, ← character.word?⟩
  | _ => none

/-- The range that the value is. -/
def Range.ofJson? (j : Json) : Option Range :=
  match j.record? ["start", "end"] with
  | some [some start, some stop] => do
    return ⟨← Place.ofJson? start, ← Place.ofJson? stop⟩
  | _ => none

/-- The remark that the value is. -/
def DocumentRemark.ofJson? (j : Json) : Option DocumentRemark :=
  match j.record? ["location", "message"] with
  | some [some location, some message] =>
    match location.record? ["uri", "range"] with
    | some [some uri, some range] => do
      return ⟨← Uri.ofJson? uri, ← Range.ofJson? range, ← message.str?⟩
    | _ => none
  | _ => none

/-- The diagnostic that the value is. -/
def ClientDiagnostic.ofJson? (j : Json) : Option ClientDiagnostic :=
  match j.record? ["range", "severity", "code", "codeDescription", "source", "message",
    "relatedInformation", "tags", "data"] with
  | some [some range, severity, code, description, source, some message, remarks, tags, data] => do
    return {
      range := ← Range.ofJson? range
      severity := ← Json.optional? Json.signed? severity
      code := ← Json.optional? Label.ofJson? code
      codeDescription :=
        ← Json.optional? (fun d => (d.single? "href").bind Uri.ofJson?) description
      source := ← Json.optional? Json.str? source
      message := ← message.str?
      remarks := ← Json.optional? (Json.list? DocumentRemark.ofJson?) remarks
      tags := ← Json.optional? (Json.list? Json.signed?) tags
      data := ← Json.optional? some data }
  | _ => none

end SunLint
