import SunLint.Analysis
import SunLint.Editor.CodeAction
import SunLint.Editor.Completion
import SunLint.Editor.Document
import SunLint.Editor.Hover
import SunLint.Ledger.Basic

/-!
# The document service

Keeps the diagnostics of the open documents up to date: each time a document is
opened or changed it is analyzed at once, so that what is stored always belongs to
the stored text. The reports go into a ledger under the URI of the document. If
the analyzer breaks down, the document has no report, and its only diagnostic says
so.
-/

namespace SunLint

/-- What happens to the service, in the order in which it happens. -/
inductive ServiceEvent
  | opened (uri : String) (version : Int)
  | changed (uri : String) (version : Int)
  | closed (uri : String)
  | diagnosed (uri : String) (version : Int) (count : Nat)
  | ledger (event : LedgerEvent)
deriving DecidableEq, Repr

/-- The open documents and the reports on them. -/
structure Service where
  analyzer : Analyzer
  ledger : Ledger
  store : DocumentStore := {}

namespace Service

/-- The service without documents. -/
def ofSettings (settings : Settings) (analyzer : Analyzer) : Service where
  analyzer := analyzer
  ledger := .ofSettings settings

/-- The name under which diagnostics of the service itself are shown. -/
def sourceName : String := "sun-lsp"

/-- The diagnostic for a fault of the analyzer. -/
def faultDiagnostic (fault : Fault) : Diagnostic where
  range := .atStart
  level := .error
  message := "Internal error while validating document: " ++ fault.message
  source := sourceName

variable (s : Service)

/-- The diagnostics of the text of a document, and what becomes of the report on
    it: a new one is made at the given time, or there is none after a fault. -/
def judge (time uri text : String) : List Diagnostic × LedgerChange :=
  match s.analyzer.analyze text with
  | .ok errors =>
    (Diagnostic.ofErrors text s.ledger.sourceName errors, .add time uri text errors)
  | .error fault => ([faultDiagnostic fault], .erase uri)

/-- The service with a change made to its ledger. -/
def record (change : LedgerChange) : Service × List ServiceEvent :=
  ({ s with ledger := s.ledger.apply change }, (s.ledger.events change).map .ledger)

/-- The service with the stored text of a document analyzed. -/
def validate (time uri : String) : Service × List ServiceEvent :=
  match s.store.get? uri with
  | none => (s, [])
  | some d =>
    let (diagnostics, change) := s.judge time uri d.text
    let (s, events) := s.record change
    ({ s with store := s.store.setDiagnostics uri diagnostics },
     events ++ [.diagnosed uri d.version diagnostics.length])

/-- The service with a newly opened document. -/
def openDocument (time uri language : String) (version : Int) (text : String) :
    Service × List ServiceEvent :=
  let (s, events) :=
    { s with store := s.store.openDocument uri language version text }.validate time uri
  (s, .opened uri version :: events)

/-- The service with a new text for a document, unless the change is turned
    down. -/
def change? (time uri : String) (version : Int) (text : String) :
    Option (Service × List ServiceEvent) :=
  (s.store.change? uri version text).map fun store =>
    let (s, events) := { s with store := store }.validate time uri
    (s, .changed uri version :: events)

/-- The service without the document and the report on it. -/
def close (uri : String) : Service × List ServiceEvent :=
  match s.store.get? uri with
  | none => (s, [])
  | some _ =>
    let (s, events) := { s with store := s.store.close uri }.record (.erase uri)
    (s, events ++ [.closed uri])

/-! ## Questions -/

/-- The diagnostics of the document; none if it is closed. -/
def diagnostics (uri : String) : List Diagnostic :=
  ((s.store.get? uri).map (·.diagnostics)).getD []

/-- The diagnostics of the document for its editor. -/
def clientDiagnostics (uri : String) : List ClientDiagnostic :=
  match s.store.get? uri with
  | some d => d.diagnostics.map (ClientDiagnostic.ofDiagnostic uri d.text)
  | none => []

/-- Everything that is offered to complete a word to. -/
def completions : List Completion := Completion.all s.analyzer.dictionary

/-- What is shown for a place in the document. -/
def hover? (uri : String) (place : Place) : Option Hover :=
  (s.store.get? uri).bind fun d => Hover.at? s.analyzer.dictionary d.text place

/-- The actions that are offered for the document in view of the diagnostics that
    the editor sends, or if it sends none, of the stored ones that meet the
    range. -/
def codeActions (uri : String) (range : Range) (sent : List ClientDiagnostic) :
    List CodeAction :=
  match s.store.get? uri with
  | none => []
  | some d =>
    let diagnostics :=
      if sent.isEmpty then (s.clientDiagnostics uri).filter (·.range.meets range) else sent
    CodeAction.all uri d.text diagnostics

end Service

end SunLint
