import SunLint.Json.Basic
import SunLint.Range
import SunLint.Report.Finding
import SunLint.Text.Line

/-!
# Diagnostics

A finding in the shape that editors show: a range of the text, a level, a
message, and the suggestions as remarks on the whole line. Characters are code
points here.

An error that is handed in may be at any position, so there is only a diagnostic
for it if its range ends at a number of 32 bits (`Diagnostic.ofFinding?`).
-/

namespace SunLint

/-- How an editor marks a diagnostic. -/
inductive Level
  | error | warning | information | hint
deriving DecidableEq, Repr, Inhabited

/-- The number of the level. -/
def Level.number : Level → Nat
  | .error => 1
  | .warning => 2
  | .information => 3
  | .hint => 4

/-- The level of that number. -/
def Level.ofNumber? (n : Nat) : Option Level :=
  [Level.error, .warning, .information, .hint].find? (·.number = n)

/-- The level at which a severity is shown. -/
def Level.ofSeverity : Severity → Level
  | .error => .error
  | .warning => .warning
  | .info => .information

/-- What else an editor may know of the text in the range. -/
inductive Tag
  | unnecessary | deprecated
deriving DecidableEq, Repr, Inhabited

/-- The number of the tag. -/
def Tag.number : Tag → Nat
  | .unnecessary => 1
  | .deprecated => 2

/-- The tag of that number. -/
def Tag.ofNumber? (n : Nat) : Option Tag := [Tag.unnecessary, .deprecated].find? (·.number = n)

/-- A remark on another range of the same text. -/
structure Remark where
  range : Range
  message : String
deriving DecidableEq, Repr, Inhabited

/-- A finding as editors show it. -/
structure Diagnostic where
  range : Range
  level : Level
  message : String
  source : String
  code : Option ErrorCode := none
  remarks : List Remark := []
  tags : List Tag := []
deriving DecidableEq, Repr, Inhabited

namespace Diagnostic

/-- The whole of the line at the position. -/
def lineRange (source : String) (p : Position) : Range :=
  .onLine (p.line - 1) 0 (((Text.sourceLine source p.line).map String.length).getD 0)

/-- Tokens that the parser had no use for are shown as unnecessary. -/
def tagsOf (f : Finding) : List Tag :=
  match f.origin, f.code with
  | .syntactic, .unexpectedToken | .syntactic, .lineSkipped => [.unnecessary]
  | _, _ => []

/-- The diagnostic for a finding in the text, shown under the name `sourceName`. -/
def ofFinding (source sourceName : String) (f : Finding) : Diagnostic where
  range := .ofPosition f.position.line f.position.column f.width
  level := .ofSeverity f.severity
  message := f.message
  source := sourceName
  code := some f.code
  remarks := f.suggestions.map fun s => ⟨lineRange source f.position, s⟩
  tags := tagsOf f

/-- The diagnostics for all findings, in their order. -/
def ofErrors (source sourceName : String) (errors : Errors) : List Diagnostic :=
  errors.findings.map (ofFinding source sourceName)

/-- The diagnostic for a finding at any position, if there is a range for it. -/
def ofFinding? (source sourceName : String) (f : Finding) : Option Diagnostic :=
  (Range.ofPosition? f.position.line f.position.column f.width).map fun range =>
    { ofFinding source sourceName f with range }

/-- The diagnostics for all findings, if there is one for each of them. -/
def ofErrors? (source sourceName : String) (errors : Errors) : Option (List Diagnostic) :=
  errors.findings.mapM (ofFinding? source sourceName)

end Diagnostic

/-! ## As values -/

/-- The place as a value. -/
def Place.toJson (p : Place) : Json :=
  .obj [("line", .nat p.line), ("character", .nat p.character)]

/-- The range as a value. -/
def Range.toJson (r : Range) : Json :=
  .obj [("start", r.start.toJson), ("end", r.stop.toJson)]

/-- The list as a member of an object, left out if it is empty. -/
def Json.unlessEmpty {α : Type} (encode : α → Json) (as : List α) : Option Json :=
  if as.isEmpty then none else some (.arr (as.map encode))

/-- The remark as a value. -/
def Remark.toJson (r : Remark) : Json :=
  .obj [("range", r.range.toJson), ("message", .str r.message)]

/-- The diagnostic as a value. -/
def Diagnostic.toJson (d : Diagnostic) : Json :=
  .record [("range", some d.range.toJson), ("severity", some (.nat d.level.number)),
    ("message", some (.str d.message)), ("source", some (.str d.source)),
    ("code", d.code.map fun c => .str c.name),
    ("relatedInformation", Json.unlessEmpty Remark.toJson d.remarks),
    ("tags", Json.unlessEmpty (fun t : Tag => .nat t.number) d.tags)]

end SunLint
