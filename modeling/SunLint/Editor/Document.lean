import SunLint.Report.Diagnostic
import SunLint.SortedMap

/-!
# Open documents

The documents that are open in an editor, by their URIs. A document that is not
in the store is closed. Editors number the versions of a document; a change that
is older than what is stored comes too late and is turned down.
-/

namespace SunLint

/-- A document that is open in an editor. -/
structure Document where
  uri : String
  language : String
  version : Int
  text : String
  /-- What was last found in the text. -/
  diagnostics : List Diagnostic := []
deriving DecidableEq, Repr

/-- The open documents by their URIs. -/
structure DocumentStore where
  documents : SortedMap Document := {}
deriving DecidableEq, Repr, Inhabited

namespace DocumentStore

variable (s : DocumentStore)

/-- The document of that URI, if it is open. -/
def get? (uri : String) : Option Document := s.documents.find? uri

/-- The number of open documents. -/
def size : Nat := s.documents.size

/-- The store with a newly opened document, which takes the place of any other of
    the same URI. -/
def openDocument (uri language : String) (version : Int) (text : String) : DocumentStore :=
  ⟨s.documents.insert uri { uri, language, version, text }⟩

/-- The store with a new text for a document that is open at no later version. -/
def change? (uri : String) (version : Int) (text : String) : Option DocumentStore :=
  match s.get? uri with
  | some d =>
    if d.version ≤ version then some ⟨s.documents.insert uri { d with version, text }⟩ else none
  | none => none

/-- The store with the diagnostics of a document, if it is open. -/
def setDiagnostics (uri : String) (diagnostics : List Diagnostic) : DocumentStore :=
  match s.get? uri with
  | some d => ⟨s.documents.insert uri { d with diagnostics }⟩
  | none => s

/-- The store without the document. -/
def close (uri : String) : DocumentStore := ⟨s.documents.erase uri⟩

end DocumentStore

end SunLint
