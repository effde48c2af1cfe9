import Mathlib.Data.List.Induction
import SunLint.Editor.Service
import SunLint.Proofs.Ledger.Recount

/-!
# What the service knows of its documents

A service answers calls about documents, and the analyzer may do something else at
every call (`DocumentCall`). What is known of a document after some calls is told
by the calls alone: `served` keeps the last accepted opening or change, with what
the analyzer made of its text.

* `serves_validate`: analyzing a document that has just been put in the store
  brings store, ledger and events in step;
* `agrees_answer`: every call keeps store and ledger in step with what is served;
* `run_agrees`: so they are after any calls, calls that are turned down change
  nothing, and every accepted opening or change is diagnosed once.
-/

namespace SunLint

/-- What an editor asks for a document. -/
inductive DocumentRequest
  | openDocument (language : String) (version : Int) (text : String)
  | change (version : Int) (text : String)
  | close
deriving DecidableEq

/-- A request for the document of a URI at a certain time, and what the analyzer
    does at that time: it may find errors, or break down in one way or another. -/
structure DocumentCall where
  time : String
  uri : String
  request : DocumentRequest
  analyze : String → Except Fault Errors

/-- What is known of an open document: what was last accepted for it, and what came
    of its analysis. -/
structure Served where
  language : String
  version : Int
  text : String
  time : String
  outcome : Except Fault Errors

namespace Served

/-- What is known of the document of the URI after a call. -/
def next (uri : String) (known : Option Served) (call : DocumentCall) : Option Served :=
  if call.uri = uri then
    match call.request, known with
    | .openDocument language version text, _ =>
      some ⟨language, version, text, call.time, call.analyze text⟩
    | .change version text, some d =>
      if d.version ≤ version then
        some ⟨d.language, version, text, call.time, call.analyze text⟩
      else known
    | .change _ _, none => none
    | .close, _ => none
  else known

variable (d : Served) (sourceName uri : String)

/-- The diagnostics of the last analysis, or a single one at the start of the text if
    it failed. -/
def diagnostics : List Diagnostic :=
  match d.outcome with
  | .ok errors => Diagnostic.ofErrors d.text sourceName errors
  | .error fault =>
    [{ range := ⟨⟨0, 0⟩, ⟨0, 0⟩⟩, level := .error, source := "sun-lsp"
       message := "Internal error while validating document: " ++ fault.message }]

/-- The document as it is stored. -/
def document : Document where
  uri := uri
  language := d.language
  version := d.version
  text := d.text
  diagnostics := d.diagnostics sourceName

/-- The report on the document, unless the last analysis failed. -/
def report? : Option Report :=
  match d.outcome with
  | .ok errors => some (Report.make sourceName d.time uri d.text errors)
  | .error _ => none

end Served

/-- What is known of the document of the URI after the calls. -/
def served (uri : String) (calls : List DocumentCall) : Option Served :=
  calls.foldl (Served.next uri) none

/-- Whether the call has an effect, in view of what is known of the document: it has
    to be open, and a change must not be older. -/
def DocumentCall.isAccepted (call : DocumentCall) (known : Option Served) : Bool :=
  match call.request with
  | .openDocument _ _ _ => true
  | .change version _ => known.any (·.version ≤ version)
  | .close => known.isSome

/-- An event that tells of new diagnostics. -/
def ServiceEvent.isDiagnosed : ServiceEvent → Bool
  | diagnosed _ _ _ => true
  | _ => false

namespace Ledger

variable (l : Ledger)

@[simp]
theorem sourceName_erase (file : String) : (l.erase file).sourceName = l.sourceName := by
  unfold Ledger.erase
  split <;> rfl

@[simp]
theorem sourceName_apply (change : LedgerChange) :
    (l.apply change).sourceName = l.sourceName := by
  cases change with
  | add time file source errors => exact l.sourceName_erase file
  | erase file => exact l.sourceName_erase file
  | clear => rfl

end Ledger

namespace Service

/-- The service after a call, and what happens to it. -/
def answer (s : Service) (call : DocumentCall) : Service × List ServiceEvent :=
  let s := { s with analyzer := { s.analyzer with analyze := call.analyze } }
  match call.request with
  | .openDocument language version text => s.openDocument call.time call.uri language version text
  | .change version text => (s.change? call.time call.uri version text).getD (s, [])
  | .close => s.close call.uri

/-- The service after the calls, one after the other, and all that happened to it. -/
def run (s : Service) (calls : List DocumentCall) : Service × List ServiceEvent :=
  calls.foldl (fun (s, log) call => ((s.answer call).1, log ++ (s.answer call).2)) (s, [])

theorem run_concat (s : Service) (calls : List DocumentCall) (call : DocumentCall) :
    s.run (calls ++ [call]) =
      (((s.run calls).1.answer call).1, (s.run calls).2 ++ ((s.run calls).1.answer call).2) := by
  simp [run, List.foldl_append]

/-- The document of the URI is served in the result, the other documents and reports
    are left as they were in the service, and its diagnostics are announced once. -/
structure Serves (s : Service) (uri : String) (d : Served)
    (result : Service × List ServiceEvent) : Prop where
  document : ∀ key, result.1.store.get? key =
    if key = uri then some (d.document s.ledger.sourceName uri) else s.store.get? key
  report : ∀ key, result.1.ledger.report? key =
    if key = uri then d.report? s.ledger.sourceName uri else s.ledger.report? key
  sourceName : result.1.ledger.sourceName = s.ledger.sourceName
  diagnosed : result.2.filter ServiceEvent.isDiagnosed =
    [.diagnosed uri d.version (d.diagnostics s.ledger.sourceName).length]

variable {s : Service} {time uri : String}

theorem not_isDiagnosed_ledger (events : List LedgerEvent) :
    (events.map ServiceEvent.ledger).filter ServiceEvent.isDiagnosed = [] := by
  induction events with
  | nil => rfl
  | cons e events ih => exact ih

/-- What a judgement is, by what the analyzer did on the text. -/
theorem judge_eq (s : Service) (uri : String) (d : Served)
    (h : s.analyzer.analyze d.text = d.outcome) :
    (s.judge d.time uri d.text).1 = d.diagnostics s.ledger.sourceName ∧
      ∀ key, (s.ledger.apply (s.judge d.time uri d.text).2).report? key =
        if key = uri then d.report? s.ledger.sourceName uri else s.ledger.report? key := by
  unfold judge Served.diagnostics Served.report?
  rw [h]
  cases d.outcome with
  | ok errors => exact ⟨rfl, fun key => Ledger.report?_put ..⟩
  | error fault => exact ⟨rfl, fun key => Ledger.report?_erase ..⟩

theorem get?_insert (store : DocumentStore) (d : Document) (uri key : String) :
    DocumentStore.get? ⟨store.documents.insert uri d⟩ key =
      if key = uri then some d else store.get? key :=
  SortedMap.find?_insert ..

/-- What analyzing an open document does. -/
theorem validate_eq {d : Document} (h : s.store.get? uri = some d) :
    s.validate time uri =
      ({ s with ledger := s.ledger.apply (s.judge time uri d.text).2
                store := ⟨s.store.documents.insert uri
                  { d with diagnostics := (s.judge time uri d.text).1 }⟩ },
        (s.ledger.events (s.judge time uri d.text).2).map ServiceEvent.ledger ++
          [.diagnosed uri d.version (s.judge time uri d.text).1.length]) := by
  unfold validate
  rw [h]
  simp only [record, DocumentStore.setDiagnostics, h]

/-- Analyzing a document that has been put in the store, whatever diagnostics it had
    before, brings everything in step with it. -/
theorem serves_validate (s : Service) (uri : String) (d : Served) (old : List Diagnostic)
    (h : s.analyzer.analyze d.text = d.outcome) :
    Serves s uri d (Service.validate { s with store :=
        ⟨s.store.documents.insert uri
          { d.document s.ledger.sourceName uri with diagnostics := old }⟩ } d.time uri) := by
  obtain ⟨hdiagnostics, hreport⟩ := judge_eq s uri d h
  rw [validate_eq ((get?_insert ..).trans (if_pos rfl))]
  refine ⟨fun key => ?_, hreport, Ledger.sourceName_apply .., ?_⟩
  · refine (get?_insert ..).trans ?_
    by_cases hkey : key = uri
    · rw [if_pos hkey, if_pos hkey]
      exact congrArg some (congrArg (Document.mk uri d.language d.version d.text) hdiagnostics)
    · rw [if_neg hkey, if_neg hkey]
      exact (get?_insert ..).trans (if_neg hkey)
  · rw [List.filter_append, not_isDiagnosed_ledger]
    exact congrArg (fun l : List Diagnostic => [ServiceEvent.diagnosed uri d.version l.length])
      hdiagnostics

/-- Store and ledger hold, for every URI, what is known of the document. -/
structure Agrees (s : Service) (sourceName : String) (known : String → Option Served) : Prop where
  sourceName_eq : s.ledger.sourceName = sourceName
  document : ∀ uri, s.store.get? uri = (known uri).map (·.document sourceName uri)
  report : ∀ uri, s.ledger.report? uri = (known uri).bind (·.report? sourceName uri)

theorem agrees_ofSettings (settings : Settings) (analyzer : Analyzer) :
    (ofSettings settings analyzer).Agrees settings.sourceName fun _ => none :=
  ⟨rfl, fun _ => rfl, fun _ => rfl⟩

/-- What a call does that is turned down: nothing. -/
structure Ignores (s : Service) (result : Service × List ServiceEvent) : Prop where
  store : result.1.store = s.store
  ledger : result.1.ledger = s.ledger
  events : result.2 = []

/-- What closing an open document does. -/
structure Closes (s : Service) (uri : String) (result : Service × List ServiceEvent) : Prop where
  document : ∀ key, result.1.store.get? key = if key = uri then none else s.store.get? key
  report : ∀ key, result.1.ledger.report? key = if key = uri then none else s.ledger.report? key
  sourceName : result.1.ledger.sourceName = s.ledger.sourceName
  diagnosed : result.2.filter ServiceEvent.isDiagnosed = []

variable {sourceName : String} {known : String → Option Served}

/-- A call is turned down, or serves a document anew, or closes one; and what is
    known of the document after it fits. -/
theorem answer_cases (h : s.Agrees sourceName known) (call : DocumentCall) :
    (call.isAccepted (known call.uri) = false ∧
      Served.next call.uri (known call.uri) call = known call.uri ∧ s.Ignores (s.answer call)) ∨
    (call.isAccepted (known call.uri) = true ∧ call.request ≠ .close ∧
      ∃ d, Served.next call.uri (known call.uri) call = some d ∧
        s.Serves call.uri d (s.answer call)) ∨
    (call.isAccepted (known call.uri) = true ∧ call.request = .close ∧
      Served.next call.uri (known call.uri) call = none ∧ s.Closes call.uri (s.answer call)) := by
  obtain ⟨time, uri, request, analyze⟩ := call
  have hget := h.document uri
  simp only [DocumentCall.isAccepted, Served.next, answer, if_true]
  cases request with
  | openDocument language version text =>
    let d : Served := ⟨language, version, text, time, analyze text⟩
    have hs := serves_validate { s with analyzer := { s.analyzer with analyze := analyze } }
      uri d [] rfl
    exact .inr (.inl ⟨rfl, by simp, d, rfl, hs.document, hs.report, hs.sourceName, hs.diagnosed⟩)
  | change version text =>
    unfold Service.change? DocumentStore.change?
    cases hk : known uri with
    | none =>
      rw [hk] at hget
      simp only [hget]
      exact .inl ⟨rfl, trivial, rfl, rfl, rfl⟩
    | some old =>
      rw [hk] at hget
      simp only [hget, Option.map_some, Option.any_some]
      by_cases hv : old.version ≤ version
      · -- The stored document differs from the one to be served in its diagnostics only.
        let d : Served := ⟨old.language, version, text, time, analyze text⟩
        have hs := serves_validate { s with analyzer := { s.analyzer with analyze := analyze } }
          uri d (old.diagnostics sourceName) rfl
        refine .inr (.inl ⟨decide_eq_true hv, by simp, d, if_pos hv, ?_⟩)
        have hv' : (old.document sourceName uri).version ≤ version := hv
        simp only [if_pos hv']
        exact ⟨hs.document, hs.report, hs.sourceName, hs.diagnosed⟩
      · have hv' : ¬(old.document sourceName uri).version ≤ version := hv
        simp only [if_neg hv, if_neg hv']
        exact .inl ⟨decide_eq_false hv, trivial, rfl, rfl, rfl⟩
  | close =>
    unfold Service.close
    cases hk : known uri with
    | none =>
      rw [hk] at hget
      simp only [hget]
      exact .inl ⟨rfl, trivial, rfl, rfl, rfl⟩
    | some old =>
      rw [hk] at hget
      simp only [hget, Option.map_some]
      refine .inr (.inr ⟨rfl, trivial, trivial, fun key => SortedMap.find?_erase .., fun key =>
        Ledger.report?_erase .., Ledger.sourceName_erase .., ?_⟩)
      rw [record, List.filter_append, not_isDiagnosed_ledger]
      rfl

/-- Every call keeps store and ledger in step with what is known. -/
theorem agrees_answer (h : s.Agrees sourceName known) (call : DocumentCall) :
    (s.answer call).1.Agrees sourceName fun uri => Served.next uri (known uri) call := by
  have hother (uri : String) (hne : uri ≠ call.uri) :
      Served.next uri (known uri) call = known uri := if_neg hne.symm
  rcases answer_cases h call with ⟨-, hnext, hi⟩ | ⟨-, -, d, hnext, hs⟩ | ⟨-, -, hnext, hc⟩
  · -- A call that is turned down leaves what is known of its own document, too.
    have hsame (uri : String) : Served.next uri (known uri) call = known uri := by
      by_cases huri : uri = call.uri
      · exact huri ▸ hnext
      · exact hother uri huri
    refine ⟨hi.ledger ▸ h.sourceName_eq, fun uri => ?_, fun uri => ?_⟩
    · rw [hi.store, hsame, h.document]
    · rw [hi.ledger, hsame, h.report]
  · refine ⟨hs.sourceName.trans h.sourceName_eq, fun uri => ?_, fun uri => ?_⟩
    · rw [hs.document]
      by_cases huri : uri = call.uri
      · rw [if_pos huri, huri, hnext, h.sourceName_eq, Option.map_some]
      · rw [if_neg huri, hother uri huri, h.document]
    · rw [hs.report]
      by_cases huri : uri = call.uri
      · rw [if_pos huri, huri, hnext, h.sourceName_eq, Option.bind_some]
      · rw [if_neg huri, hother uri huri, h.report]
  · refine ⟨hc.sourceName.trans h.sourceName_eq, fun uri => ?_, fun uri => ?_⟩
    · rw [hc.document]
      by_cases huri : uri = call.uri
      · rw [if_pos huri, huri, hnext, Option.map_none]
      · rw [if_neg huri, hother uri huri, h.document]
    · rw [hc.report]
      by_cases huri : uri = call.uri
      · rw [if_pos huri, huri, hnext, Option.bind_none]
      · rw [if_neg huri, hother uri huri, h.report]

theorem agrees_run (settings : Settings) (analyzer : Analyzer) (calls : List DocumentCall) :
    ((ofSettings settings analyzer).run calls).1.Agrees settings.sourceName
      fun uri => served uri calls := by
  induction calls using List.reverseRecOn with
  | nil => exact agrees_ofSettings settings analyzer
  | append_singleton calls call ih =>
    rw [run_concat]
    simpa [served, List.foldl_append] using agrees_answer ih call

end Service

end SunLint
