import SunLint.Editor.Uri
import SunLint.Report.Diagnostic
import SunLint.Text.Utf16

/-!
# Diagnostics for clients

Diagnostics as they are exchanged with an editor. They differ from those of a
report in that characters are units of UTF-16 and that every remark names its
document. What an editor sends back may lack almost everything, or have members
of which this library makes no use but which belong to the diagnostic.
-/

namespace SunLint

/-- A label that is a number or a text. -/
inductive Label
  | number (n : Int)
  | text (s : String)
deriving DecidableEq, Repr

/-- A remark on a range of a document. -/
structure DocumentRemark where
  uri : String
  range : Range
  message : String
deriving DecidableEq, Repr

/-- A diagnostic as editors exchange it. -/
structure ClientDiagnostic where
  range : Range
  severity : Option Int := none
  code : Option Label := none
  /-- The URI of a description of the code. -/
  codeDescription : Option String := none
  source : Option String := none
  message : String
  remarks : Option (List DocumentRemark) := none
  tags : Option (List Int) := none
  /-- What the editor wants to have back. -/
  data : Option Json := none
deriving Repr

/-! ## Ranges in units -/

/-- The place with its character counted in units of UTF-16. -/
def Place.inUnits (text : String) (p : Place) : Place :=
  ⟨p.line, Text.unitColumn ((Text.lines text.toList)[p.line]?.getD []) p.character⟩

/-- The range with its characters counted in units of UTF-16. -/
def Range.inUnits (text : String) (r : Range) : Range :=
  ⟨r.start.inUnits text, r.stop.inUnits text⟩

/-- The place with its character counted in units, if there are not too many. -/
def Place.inUnits? (text : String) (p : Place) : Option Place :=
  (Text.unitColumn? ((Text.lines text.toList)[p.line]?.getD []) p.character).map (⟨p.line, ·⟩)

/-- The range with its characters counted in units, if there are not too many. -/
def Range.inUnits? (text : String) (r : Range) : Option Range :=
  return ⟨← r.start.inUnits? text, ← r.stop.inUnits? text⟩

/-- Whether the first place comes before the second one or is the same. -/
def Place.isUpTo (p q : Place) : Bool :=
  p.line < q.line || (p.line = q.line && p.character ≤ q.character)

/-- Whether the ranges have at least a place in common, ends included. -/
def Range.meets (r s : Range) : Bool := r.start.isUpTo s.stop && s.start.isUpTo r.stop

namespace ClientDiagnostic

/-- The list, unless it is empty. -/
def nonempty? {α : Type} (as : List α) : Option (List α) :=
  if as.isEmpty then none else some as

/-- The diagnostic on the text of the document, for its editor. -/
def ofDiagnostic (uri text : String) (d : Diagnostic) : ClientDiagnostic where
  range := d.range.inUnits text
  severity := some d.level.number
  code := d.code.map fun c => .text c.name
  source := some d.source
  message := d.message
  remarks := nonempty? (d.remarks.map fun r => ⟨uri, r.range.inUnits text, r.message⟩)
  tags := nonempty? (d.tags.map fun t => t.number)

/-- The remark on the text of the document, if its range can be counted in units. -/
def remark? (uri text : String) (r : Remark) : Option DocumentRemark :=
  (r.range.inUnits? text).map (⟨uri, ·, r.message⟩)

/-- The diagnostic for its editor, wherever its ranges are, if they can be counted in
    units. -/
def ofDiagnostic? (uri text : String) (d : Diagnostic) : Option ClientDiagnostic := do
  let remarks ← d.remarks.mapM (remark? uri text)
  return { ofDiagnostic uri text d with
    range := ← d.range.inUnits? text
    remarks := nonempty? remarks }

/-- The code of this library that the diagnostic has, if it is one. -/
def errorCode? (d : ClientDiagnostic) : Option ErrorCode :=
  match d.code with
  | some (.text name) => ErrorCode.ofName? name
  | _ => none

end ClientDiagnostic

/-! ## As values -/

/-- The label as a value. -/
def Label.toJson : Label → Json
  | .number n => .int n
  | .text s => .str s

/-- The remark as a value. -/
def DocumentRemark.toJson (r : DocumentRemark) : Json :=
  .obj [("location", .obj [("uri", .str r.uri), ("range", r.range.toJson)]),
    ("message", .str r.message)]

/-- The diagnostic as a value. -/
def ClientDiagnostic.toJson (d : ClientDiagnostic) : Json :=
  .record [("range", some d.range.toJson), ("severity", d.severity.map .int),
    ("code", d.code.map Label.toJson),
    ("codeDescription", d.codeDescription.map fun href => .obj [("href", .str href)]),
    ("source", d.source.map .str), ("message", some (.str d.message)),
    ("relatedInformation", d.remarks.map fun rs => .arr (rs.map DocumentRemark.toJson)),
    ("tags", d.tags.map fun ts => .arr (ts.map .int)), ("data", d.data)]

end SunLint
