import SunLint.Editor.ClientDiagnostic
import SunLint.Editor.Tidy
import SunLint.Suggestion

/-!
# Code actions

Changes of a document that an editor offers to make: a quick fix for each
diagnostic whose code has one, and two changes of the whole document. A fix is
made from the message of the diagnostic alone, since it may be the editor that
sent it.
-/

namespace SunLint

/-- The replacement of a range of a document. -/
structure TextEdit where
  range : Range
  newText : String
deriving DecidableEq, Repr

/-- The sorts of code actions; a quick fix belongs to a diagnostic. -/
inductive ActionKind
  | quickFix (diagnostic : ClientDiagnostic)
  | source
  | organize
deriving Repr

/-- The name of the sort. -/
def ActionKind.name : ActionKind → String
  | .quickFix _ => "quickfix"
  | .source => "source"
  | .organize => "source.organizeImports"

/-- A change of a document that an editor offers. -/
structure CodeAction where
  title : String
  kind : ActionKind
  uri : String
  edit : TextEdit
deriving Repr

namespace CodeAction

/-- The text between the first two apostrophes. -/
def quoted? (message : String) : Option String :=
  match message.toList.dropWhile (· ≠ '\'') with
  | _ :: rest =>
    if '\'' ∈ rest then some (String.ofList (rest.takeWhile (· ≠ '\''))) else none
  | [] => none

/-- What mends the diagnostic: a title and the edit. What is missing is inserted
    before the range, a misspelled word is replaced, and a token without a use is
    removed. -/
def mend? (d : ClientDiagnostic) : Option (String × TextEdit) :=
  match d.errorCode?.map ErrorCode.category with
  | some .missing => (quoted? d.message).map fun missing =>
    ("Insert '" ++ missing ++ "'", ⟨⟨d.range.start, d.range.start⟩, missing ++ " "⟩)
  | some .misspelling => (Suggestion.proposed? d.message).map fun word =>
    ("Replace with '" ++ word ++ "'", ⟨d.range, word⟩)
  | some .unexpected => some ("Remove unexpected token", ⟨d.range, ""⟩)
  | _ => none

/-- The quick fix for the diagnostic. -/
def quickFix? (uri : String) (d : ClientDiagnostic) : Option CodeAction :=
  (mend? d).map fun (title, edit) => ⟨title, .quickFix d, uri, edit⟩

/-- The range of the whole text. -/
def wholeRange (text : String) : Range :=
  let pieces := Text.pieces text.toList
  ⟨⟨0, 0⟩, ⟨pieces.length - 1, Text.unitCount (pieces.getLast?.getD [])⟩⟩

/-- What is offered for the text in view of the diagnostics. -/
def all (uri text : String) (diagnostics : List ClientDiagnostic) : List CodeAction :=
  diagnostics.filterMap (quickFix? uri) ++
  [⟨"Format document", .source, uri, ⟨wholeRange text, formatDocument text⟩⟩,
   ⟨"Organize directives", .organize, uri, ⟨wholeRange text, organizeDirectives text⟩⟩]

end CodeAction

/-- The edit as a value. -/
def TextEdit.toJson (e : TextEdit) : Json :=
  .obj [("range", e.range.toJson), ("newText", .str e.newText)]

/-- The action as a value; a quick fix is the preferred action for its
    diagnostic. -/
def CodeAction.toJson (a : CodeAction) : Json :=
  let diagnostic? : Option ClientDiagnostic := match a.kind with
    | .quickFix d => some d
    | _ => none
  .record [("title", some (.str a.title)), ("kind", some (.str a.kind.name)),
    ("diagnostics", diagnostic?.map fun d => .arr [d.toJson]),
    ("edit", some (.obj [("changes", .obj [(a.uri, .arr [a.edit.toJson])])])),
    ("isPreferred", diagnostic?.map fun _ => .bool true)]

end SunLint
