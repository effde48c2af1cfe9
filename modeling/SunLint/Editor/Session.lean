import SunLint.Editor.Message
import SunLint.Editor.Service

/-!
# Sessions

The conversation with one editor. It begins with a greeting in two steps, then
requests are answered and the diagnostics of every document that is opened or
changed are published, and after a request to shut down nothing but the farewell
is expected. A message that is not understood where it stands breaks the session
off.
-/

namespace SunLint

/-- How far a session has come. -/
inductive Stage
  | starting | greeted | running | stopping | ended
deriving DecidableEq, Repr

/-- The conversation with an editor about its documents. -/
structure Session where
  service : Service
  stage : Stage := .starting

namespace Session

/-- The session at its start. -/
def ofSettings (settings : Settings) : Session where
  service := .ofSettings settings (.standard settings)

/-- The reason for the end of a session whose editor has gone. -/
def disconnected : String := "disconnected channel"

/-- What the server can do. -/
def capabilities : Json :=
  .obj [("textDocumentSync", .obj [("openClose", .bool true), ("change", .nat 1)]),
    ("hoverProvider", .bool true),
    ("completionProvider", .obj [("resolveProvider", .bool false),
      ("triggerCharacters", .strings ["@"])]),
    ("codeActionProvider", .bool true)]

variable (s : Session)

/-- The answer to a request. -/
def answer (id : Label) : Request → Outgoing
  | .hover uri place =>
    .result id (Json.ofOption ((s.service.hover? uri place).map Hover.toJson))
  | .completion => .result id (.arr (s.service.completions.map Completion.toJson))
  | .codeAction uri range sent =>
    .result id (.arr ((s.service.codeActions uri range sent).map CodeAction.toJson))
  | .unknown method => .refusal id (-32601) ("method not found: " ++ method)

/-- The diagnostics of an open document of that version, to be published. -/
def published (uri : String) (version : Int) : Outgoing :=
  .publish uri (s.service.clientDiagnostics uri) (some version)

/-- The session after a notification at a certain time, and what is published. Of
    several texts the last one counts; a change that is turned down and a change
    without a text publish nothing. -/
def notify (time : String) : Notification → Session × List Outgoing
  | .opened uri language version text =>
    let s := { s with service := (s.service.openDocument time uri language version text).1 }
    (s, [s.published uri version])
  | .changed uri version texts =>
    match texts.getLast?.bind (s.service.change? time uri version) with
    | some (service, _) =>
      let s := { s with service }
      (s, [s.published uri version])
    | none => (s, [])
  | .closed uri => ({ s with service := (s.service.close uri).1 }, [.publish uri [] none])
  | .unknown => (s, [])

/-- The session after a message while it runs. -/
def run? (time : String) : Message → Option (Session × List Outgoing)
  | .request id "shutdown" _ => some ({ s with stage := .stopping }, [.result id .null])
  | .request id method params =>
    (Request.ofParams? method params).map fun request => (s, [s.answer id request])
  | .notification method params => (Notification.ofParams? method params).map (s.notify time)
  | .response => some (s, [])

/-- The session after a message at a certain time, and what the server sends in
    return, unless the message breaks the session off. -/
def receive? (time : String) (message : Message) : Option (Session × List Outgoing) :=
  match s.stage, message with
  | .starting, .request id "initialize" _ =>
    some ({ s with stage := .greeted }, [.result id (.obj [("capabilities", capabilities)])])
  | .starting, .request id method _ =>
    some (s, [.refusal id (-32002) ("expected initialize request, got " ++ method)])
  | .starting, .notification method _ => if method = "exit" then none else some (s, [])
  | .greeted, .notification "initialized" _ => some ({ s with stage := .running }, [])
  | .running, message => s.run? time message
  | .stopping, .notification "exit" _ => some ({ s with stage := .ended }, [])
  | _, _ => none

end Session

end SunLint
