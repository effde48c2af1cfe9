import SunLint.Editor.Session
import SunLint.Proofs.Editor.Documents

/-!
# What an editor has been shown

An editor shows the diagnostics of a document that were published last. What it is told of its
documents by notifications goes through three layers: the session takes the last of several
texts, the store turns down a change that is too old, and the service analyzes what has been
stored. In the end the editor shows what is stored.

* `effect_notify`: all that a notification can do to the store, and what is sent in each case;
* `IsShown.step`: what has been sent stays in step with the store;
* `published_run`: after any well-formed notifications every open document is shown as it is
  stored, every other one that has been open is shown without diagnostics, and nothing is sent
  about changes that are not made.
-/

namespace SunLint

/-! ## Conversations -/

/-- A well-formed notification as it comes at a certain time, and what it tells. -/
structure Notice where
  time : String
  method : String
  params : Json
  content : Notification
  isContent : Notification.ofParams? method params = some content

/-- The message that is received. -/
def Notice.message (n : Notice) : Message := .notification n.method n.params

/-- What the notification calls for, if it calls for anything. A change without a text does
    not. -/
def Notification.call? (time : String) (analyze : String → Except Fault Errors) :
    Notification → Option DocumentCall
  | .opened uri language version text =>
    some ⟨time, uri, .openDocument language version text, analyze⟩
  | .changed uri version texts =>
    texts.getLast?.map fun text => ⟨time, uri, .change version text, analyze⟩
  | .closed uri => some ⟨time, uri, .close, analyze⟩
  | .unknown => none

theorem Notification.analyze_eq {time : String} {analyze : String → Except Fault Errors}
    {n : Notification} {call : DocumentCall} (h : n.call? time analyze = some call) :
    call.analyze = analyze := by
  cases n with
  | changed uri version texts =>
    obtain ⟨text, -, rfl⟩ := Option.map_eq_some_iff.1 h
    rfl
  | unknown => cases h
  | _ =>
    cases h
    rfl

/-- The calls that a service has to answer for the notifications. -/
def Notice.calls (analyzer : Analyzer) (notices : List Notice) : List DocumentCall :=
  notices.flatMap fun n => (n.content.call? n.time analyzer.analyze).toList

/-- The notification opens the document of the URI. -/
def Notification.Opens (uri : String) (n : Notification) : Prop :=
  ∃ language version text, n = .opened uri language version text

/-- The diagnostics and the version that the message publishes for the document of the URI. -/
def Outgoing.published? (uri : String) : Outgoing → Option (List ClientDiagnostic × Option Int)
  | .publish key diagnostics version => if key = uri then some (diagnostics, version) else none
  | _ => none

/-- What an editor shows for the document of the URI after all these messages: what was
    published last. -/
def shown? (uri : String) (sent : List Outgoing) : Option (List ClientDiagnostic × Option Int) :=
  (sent.filterMap (Outgoing.published? uri)).getLast?

theorem shown?_append (uri : String) (sent more : List Outgoing) :
    shown? uri (sent ++ more) = (shown? uri more).or (shown? uri sent) := by
  rw [shown?, List.filterMap_append, List.getLast?_append]
  rfl

theorem shown?_publish (uri key : String) (diagnostics : List ClientDiagnostic)
    (version : Option Int) :
    shown? uri [.publish key diagnostics version] =
      if key = uri then some (diagnostics, version) else none := by
  rw [shown?, List.filterMap_cons, Outgoing.published?]
  split <;> simp_all

namespace Service

variable {s : Service} {time uri : String}

theorem analyzer_validate : (s.validate time uri).1.analyzer = s.analyzer := by
  cases h : s.store.get? uri with
  | none => rw [validate, h]
  | some d => rw [validate_eq h]

/-- Nothing that is asked for a document changes the analyzer, if it is used as it is. -/
theorem analyzer_answer (call : DocumentCall) (h : call.analyze = s.analyzer.analyze) :
    (s.answer call).1.analyzer = s.analyzer := by
  obtain ⟨time, uri, request, analyze⟩ := call
  obtain rfl : analyze = s.analyzer.analyze := h
  cases request with
  | openDocument language version text => exact analyzer_validate
  | change version text =>
    simp only [answer, Service.change?]
    cases s.store.change? uri version text with
    | none => rfl
    | some store => exact analyzer_validate
  | close =>
    simp only [answer, Service.close]
    cases s.store.get? uri with
    | none => rfl
    | some d => rfl

variable (time) in
/-- Analyzing an open document changes its diagnostics only. -/
theorem get?_validate {d : Document} (h : s.store.get? uri = some d) :
    ∃ diagnostics, ∀ key, (s.validate time uri).1.store.get? key =
      if key = uri then some { d with diagnostics } else s.store.get? key := by
  refine ⟨(s.judge time uri d.text).1, fun key => ?_⟩
  rw [validate_eq h]
  exact get?_insert ..

end Service

namespace Session

variable {s s' : Session} {sent : List Outgoing}

/-- The session after the messages, each of which comes at a certain time, and all that is sent
    in return, unless one of them breaks the session off. -/
def converse? (s : Session) (messages : List (String × Message)) :
    Option (Session × List Outgoing) :=
  messages.foldlM (fun (s, sent) (time, message) =>
    (s.receive? time message).map fun (s, more) => (s, sent ++ more)) (s, [])

/-- The session after the notifications, and all that is sent. -/
def hear (s : Session) (notices : List Notice) : Session × List Outgoing :=
  notices.foldl (fun (s, sent) n =>
    ((s.notify n.time n.content).1, sent ++ (s.notify n.time n.content).2)) (s, [])

theorem hear_concat (s : Session) (notices : List Notice) (n : Notice) :
    s.hear (notices ++ [n]) =
      (((s.hear notices).1.notify n.time n.content).1,
        (s.hear notices).2 ++ ((s.hear notices).1.notify n.time n.content).2) := by
  simp [hear, List.foldl_append]

/-! ## One notification -/

/-- A document as its editor is to show it: its stored diagnostics, measured against its stored
    text, and its stored version. Of a closed document nothing is to be seen. -/
def view (uri : String) : Option Document → List ClientDiagnostic × Option Int
  | some d => (d.diagnostics.map (ClientDiagnostic.ofDiagnostic uri d.text), some d.version)
  | none => ([], none)

/-- The document of the URI, if it is open. -/
def document? (s : Session) (uri : String) : Option Document := s.service.store.get? uri

/-- All that can become of a session by a notification, and what is sent in each case. -/
inductive Effect (s s' : Session) : (sent : List Outgoing) → Prop
  | nothing (h : s' = s) : Effect s s' []
  | publishes (uri : String) (h : ∀ key, key ≠ uri → s'.document? key = s.document? key) :
    Effect s s' [.publish uri (view uri (s'.document? uri)).1 (view uri (s'.document? uri)).2]

/-- What is published of a document that has just been put in the store and analyzed. -/
theorem effect_validate (s : Session) (time : String) (d : Document) (uri : String) :
    let service := (Service.validate { s.service with store :=
      ⟨s.service.store.documents.insert uri d⟩ } time uri).1
    s.Effect { s with service } [published { s with service } uri d.version] ∧
      (service.store.get? uri).isSome = true := by
  intro service
  obtain ⟨diagnostics, hget⟩ := Service.get?_validate time
    (s := { s.service with store := ⟨s.service.store.documents.insert uri d⟩ })
    ((Service.get?_insert ..).trans (if_pos rfl))
  have hstored : document? { s with service } uri = some { d with diagnostics } :=
    (hget uri).trans (if_pos rfl)
  have hsent : published { s with service } uri d.version =
      .publish uri (view uri (document? { s with service } uri)).1
        (view uri (document? { s with service } uri)).2 := by
    rw [hstored, published, Service.clientDiagnostics]
    change Outgoing.publish uri (match document? { s with service } uri with
      | some d => d.diagnostics.map (ClientDiagnostic.ofDiagnostic uri d.text)
      | none => []) (some d.version) = _
    rw [hstored]
    rfl
  rw [hsent]
  refine ⟨.publishes uri fun key hkey => (hget key).trans ?_, Option.isSome_of_eq_some hstored⟩
  rw [if_neg hkey]
  exact (Service.get?_insert ..).trans (if_neg hkey)

/-- A change is made exactly if the document is open at no later version. -/
theorem change?_cases (s : Service) (time uri : String) (version : Int) (text : String) :
    (s.change? time uri version text = none ∧
      ∀ d, s.store.get? uri = some d → version < d.version) ∨
    ∃ d events, s.store.get? uri = some d ∧ d.version ≤ version ∧
      s.change? time uri version text = some ((Service.validate { s with store :=
        ⟨s.store.documents.insert uri { d with version, text }⟩ } time uri).1, events) := by
  rw [Service.change?, DocumentStore.change?]
  cases h : s.store.get? uri with
  | none => exact .inl ⟨rfl, nofun⟩
  | some d =>
    by_cases hv : d.version ≤ version
    · simp only [if_pos hv]
      exact .inr ⟨d, _, rfl, hv, rfl⟩
    · simp only [if_neg hv]
      refine .inl ⟨rfl, fun d' hd' => ?_⟩
      obtain rfl := Option.some.inj hd'
      exact Int.not_le.1 hv

/-- The three layers of a notification in one. -/
theorem effect_notify (s : Session) (time : String) (n : Notification) :
    s.Effect (s.notify time n).1 (s.notify time n).2 := by
  cases n with
  | opened uri language version text =>
    exact (effect_validate s time { uri, language, version, text } uri).1
  | changed uri version texts =>
    cases htext : texts.getLast? with
    | none =>
      rw [notify, htext]
      exact .nothing rfl
    | some text =>
      obtain ⟨hnone, -⟩ | ⟨d, events, -, -, hsome⟩ :=
        change?_cases s.service time uri version text
      · rw [notify, htext, Option.bind_some, hnone]
        exact .nothing rfl
      · rw [notify, htext, Option.bind_some, hsome]
        exact (effect_validate s time { d with version, text } uri).1
  | closed uri =>
    have hget (key : String) : (s.notify time (.closed uri)).1.document? key =
        if key = uri then none else s.document? key := by
      rw [notify, document?, Service.close]
      cases h : s.service.store.get? uri with
      | some d => exact SortedMap.find?_erase ..
      | none =>
        by_cases hkey : key = uri
        · rw [if_pos hkey, hkey, h]
        · rw [if_neg hkey]
          rfl
    have hview : view uri ((s.notify time (.closed uri)).1.document? uri) = ([], none) := by
      rw [hget, if_pos rfl]
      rfl
    have heffect : s.Effect (s.notify time (.closed uri)).1 _ :=
      .publishes uri fun key hkey => (hget key).trans (if_neg hkey)
    rwa [hview] at heffect
  | unknown => exact .nothing rfl

/-- Nothing is sent of a change exactly if it is not made. -/
theorem notify_changed (s : Session) (time uri : String) (version : Int) (texts : List String) :
    ((s.notify time (.changed uri version texts)).2 = [] ↔
      texts = [] ∨ ∀ d, s.service.store.get? uri = some d → version < d.version) ∧
    ((s.notify time (.changed uri version texts)).2 = [] →
      (s.notify time (.changed uri version texts)).1 = s) := by
  rw [notify]
  cases htext : texts.getLast? with
  | none => exact ⟨iff_of_true rfl (.inl (List.getLast?_eq_none_iff.1 htext)), fun _ => rfl⟩
  | some text =>
    have hne : texts ≠ [] := by
      rintro rfl
      cases htext
    rw [Option.bind_some]
    obtain ⟨hnone, hlt⟩ | ⟨d, events, hd, hle, hsome⟩ :=
      change?_cases s.service time uri version text
    · rw [hnone]
      exact ⟨iff_of_true rfl (.inr hlt), fun _ => rfl⟩
    · rw [hsome]
      refine ⟨iff_of_false (List.cons_ne_nil _ _) ?_, fun h => absurd h (List.cons_ne_nil _ _)⟩
      rintro (h | h)
      · exact hne h
      · exact Int.not_lt.2 hle (h d hd)

/-- A document that is opened is in the store. -/
theorem isSome_document?_of_opens {uri : String} {n : Notification} (h : n.Opens uri)
    (s : Session) (time : String) : ((s.notify time n).1.document? uri).isSome = true := by
  obtain ⟨language, version, text, rfl⟩ := h
  exact (effect_validate s time { uri, language, version, text } uri).2

/-- What a notification calls for is what the service does. -/
theorem service_notify (s : Session) (time : String) (n : Notification) :
    (s.notify time n).1.service =
      ((n.call? time s.service.analyzer.analyze).map fun call => (s.service.answer call).1).getD
        s.service := by
  cases n with
  | opened uri language version text => rfl
  | changed uri version texts =>
    rw [notify, Notification.call?]
    cases texts.getLast? with
    | none => rfl
    | some text =>
      have hanswer : s.service.answer
          ⟨time, uri, .change version text, s.service.analyzer.analyze⟩ =
            (s.service.change? time uri version text).getD (s.service, []) := rfl
      rw [Option.bind_some, Option.map_some, Option.map_some, Option.getD_some, hanswer]
      cases s.service.change? time uri version text <;> rfl
  | closed uri => rfl
  | unknown => rfl

/-! ## All notifications -/

/-- Every document that is open, or that has been open at any time, is shown as it is in the
    store. -/
def IsShown (s : Session) (opened : String → Prop) (sent : List Outgoing) : Prop :=
  ∀ uri, opened uri ∨ (s.document? uri).isSome = true →
    shown? uri sent = some (view uri (s.document? uri))

/-- Whatever a notification does keeps what is shown in step with what is stored. -/
theorem IsShown.step {opened opened' : String → Prop} {more : List Outgoing}
    (h : s.IsShown opened sent) (he : s.Effect s' more)
    (hopened : ∀ uri, opened' uri → opened uri ∨ (s'.document? uri).isSome = true) :
    s'.IsShown opened' (sent ++ more) := by
  intro uri huri
  replace huri : opened uri ∨ (s'.document? uri).isSome = true := huri.elim (hopened uri) .inr
  cases he with
  | nothing hs =>
    obtain rfl := hs
    rw [List.append_nil]
    exact h uri huri
  | publishes key hget =>
    rw [shown?_append, shown?_publish]
    by_cases hkey : uri = key
    · rw [if_pos hkey.symm, hkey]
      rfl
    · rw [if_neg (Ne.symm hkey), Option.none_or, hget uri hkey]
      exact h uri (hget uri hkey ▸ huri)

/-- The session that runs with a service of which nothing has been asked. -/
def running (settings : Settings) (analyzer : Analyzer) : Session where
  service := .ofSettings settings analyzer
  stage := .running

variable {settings : Settings} {analyzer : Analyzer}

/-- Notifications do not end a session. -/
theorem stage_notify (s : Session) (time : String) (n : Notification) :
    (s.notify time n).1.stage = s.stage := by
  cases n with
  | changed uri version texts =>
    rw [notify]
    split <;> rfl
  | _ => rfl

theorem stage_hear (s : Session) (notices : List Notice) :
    (s.hear notices).1.stage = s.stage := by
  induction notices using List.reverseRecOn with
  | nil => rfl
  | append_singleton notices n ih => rw [hear_concat, stage_notify, ih]

/-- A well-formed notification is heard while the session runs. -/
theorem receive?_message (h : s.stage = .running) (n : Notice) :
    s.receive? n.time n.message = some (s.notify n.time n.content) := by
  rw [receive?.eq_def, h]
  change (Notification.ofParams? n.method n.params).map (s.notify n.time) = _
  rw [n.isContent]
  rfl

theorem converse?_eq (h : s.stage = .running) (notices : List Notice) :
    s.converse? (notices.map fun n => (n.time, n.message)) = some (s.hear notices) := by
  induction notices using List.reverseRecOn with
  | nil => rfl
  | append_singleton notices n ih =>
    have hstage : (s.hear notices).1.stage = .running := (stage_hear s notices).trans h
    rw [converse?] at ih
    rw [converse?, List.map_append, List.foldlM_append, ih, hear_concat]
    simp [receive?_message hstage]

variable (settings analyzer)

theorem isShown_hear (notices : List Notice) :
    ((running settings analyzer).hear notices).1.IsShown
      (fun uri => ∃ n ∈ notices, n.content.Opens uri)
      ((running settings analyzer).hear notices).2 := by
  induction notices using List.reverseRecOn with
  | nil =>
    rintro uri (⟨n, hn, -⟩ | hsome)
    · cases hn
    · cases hsome
  | append_singleton notices n ih =>
    rw [hear_concat]
    refine ih.step (effect_notify _ _ _) ?_
    rintro uri ⟨n', hn', hopens⟩
    obtain hn' | hn' := List.mem_append.1 hn'
    · exact .inl ⟨n', hn', hopens⟩
    · obtain rfl := List.mem_singleton.1 hn'
      exact .inr (isSome_document?_of_opens hopens _ _)

/-- Behind the notifications there is a service that has answered their calls. -/
theorem service_hear (notices : List Notice) :
    ((running settings analyzer).hear notices).1.service.analyzer = analyzer ∧
      ((running settings analyzer).hear notices).1.service =
        ((Service.ofSettings settings analyzer).run (Notice.calls analyzer notices)).1 := by
  induction notices using List.reverseRecOn with
  | nil => exact ⟨rfl, rfl⟩
  | append_singleton notices n ih =>
    obtain ⟨hanalyzer, hservice⟩ := ih
    rw [hear_concat, service_notify, hanalyzer, Notice.calls, List.flatMap_append,
      List.flatMap_singleton]
    cases hcall : n.content.call? n.time analyzer.analyze with
    | none =>
      rw [Option.toList_none, List.append_nil]
      exact ⟨hanalyzer, hservice⟩
    | some call =>
      rw [Option.toList_some, Service.run_concat, ← Notice.calls, ← hservice]
      refine ⟨?_, rfl⟩
      exact (Service.analyzer_answer call ((Notification.analyze_eq hcall).trans
        (congrArg Analyzer.analyze hanalyzer.symm))).trans hanalyzer

/-- After any well-formed notifications, whatever the analyzer does: every open document is shown
    with its stored diagnostics, measured against its stored text, and with its stored version,
    and every other one that has been open is shown without diagnostics. What is stored is what
    was last accepted for the document. Nothing is published of a change exactly if it brings no
    text, or if the document is not open, or is open at a later version. -/
theorem published_run (settings : Settings) (analyzer : Analyzer) (notices : List Notice) :
    ∃ s sent, (running settings analyzer).converse? (notices.map fun n => (n.time, n.message)) =
        some (s, sent) ∧
      (∀ uri d, s.service.store.get? uri = some d → shown? uri sent =
        some (d.diagnostics.map (ClientDiagnostic.ofDiagnostic uri d.text), some d.version)) ∧
      (∀ uri, (∃ n ∈ notices, n.content.Opens uri) → s.service.store.get? uri = none →
        shown? uri sent = some ([], none)) ∧
      (∀ uri, s.service.store.get? uri =
        (served uri (Notice.calls analyzer notices)).map (·.document settings.sourceName uri)) ∧
      ∀ (n : Notice) uri version texts, n.content = .changed uri version texts →
        ∃ s' more, s.receive? n.time n.message = some (s', more) ∧
          (more = [] ↔ texts = [] ∨
            ∀ d, s.service.store.get? uri = some d → version < d.version) ∧
          (more = [] → s' = s) := by
  have hshown := isShown_hear settings analyzer notices
  have hservice := (service_hear settings analyzer notices).2
  have hstage : ((running settings analyzer).hear notices).1.stage = .running :=
    stage_hear (running settings analyzer) notices
  have hconverse := converse?_eq (s := running settings analyzer) rfl notices
  generalize (running settings analyzer).hear notices = result at *
  obtain ⟨s, sent⟩ := result
  refine ⟨s, sent, hconverse, fun uri d hd => ?_, fun uri hopens hnone => ?_, fun uri => ?_,
    fun n uri version texts hn => ?_⟩
  · rw [hshown uri (.inr (Option.isSome_of_eq_some hd)), document?, hd]
    rfl
  · rw [hshown uri (.inl hopens), document?, hnone]
    rfl
  · have hagrees := Service.agrees_run settings analyzer (Notice.calls analyzer notices)
    rw [← hservice] at hagrees
    exact hagrees.document uri
  · refine ⟨_, _, receive?_message hstage n, ?_⟩
    rw [hn]
    exact notify_changed s n.time uri version texts

/-- A change that comes too late between two others, and a document that is closed again. -/
theorem published_run_of_stale : ∃ (notices : List Notice) (s : Session) (sent : List Outgoing),
    notices.map (·.content) =
      [.opened "file:///a" "sun" 2 "§", .opened "file:///b" "sun" 1 "x",
       .changed "file:///a" 1 ["late"], .changed "file:///a" 3 ["let", "state"],
       .closed "file:///b"] ∧
    (running {} (.standard {})).converse? (notices.map fun n => (n.time, n.message)) =
      some (s, sent) ∧
    (∃ d, s.service.store.get? "file:///a" = some d ∧ d.version = 3 ∧ d.text = "state" ∧
      shown? "file:///a" sent = some
        (d.diagnostics.map (ClientDiagnostic.ofDiagnostic "file:///a" d.text), some d.version)) ∧
    s.service.store.get? "file:///b" = none ∧ shown? "file:///b" sent = some ([], none) := by
  let notices : List Notice :=
    [⟨"t", "textDocument/didOpen",
        .arr [.arr [.str "file:///a", .str "sun", .int 2, .str "§"]],
        .opened "file:///a" "sun" 2 "§", by decide +kernel⟩,
      ⟨"t", "textDocument/didOpen",
        .arr [.arr [.str "file:///b", .str "sun", .int 1, .str "x"]],
        .opened "file:///b" "sun" 1 "x", by decide +kernel⟩,
      ⟨"t", "textDocument/didChange",
        .arr [.arr [.str "file:///a", .int 1], .arr [.obj [("text", .str "late")]]],
        .changed "file:///a" 1 ["late"], by decide +kernel⟩,
      ⟨"t", "textDocument/didChange",
        .arr [.arr [.str "file:///a", .int 3],
          .arr [.obj [("text", .str "let")], .obj [("text", .str "state")]]],
        .changed "file:///a" 3 ["let", "state"], by decide +kernel⟩,
      ⟨"t", "textDocument/didClose", .arr [.arr [.str "file:///b"]],
        .closed "file:///b", by decide +kernel⟩]
  obtain ⟨s, sent, hrun, hopen, hclosed, hstored, -⟩ :=
    published_run {} (.standard {}) notices
  have ha : s.service.store.get? "file:///a" = some ((Served.mk "sun" 3 "state" "t"
      ((Analyzer.standard {}).analyze "state")).document (Settings.sourceName {}) "file:///a") :=
    (hstored _).trans rfl
  have hb : s.service.store.get? "file:///b" = none := (hstored _).trans rfl
  refine ⟨notices, s, sent, rfl, hrun, ⟨_, ha, rfl, rfl, hopen _ _ ha⟩, hb, ?_⟩
  exact hclosed _ ⟨_, List.mem_cons_of_mem _ (List.mem_cons_self ..), _, _, _, rfl⟩ hb

end Session

end SunLint
