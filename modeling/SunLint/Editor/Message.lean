import SunLint.Editor.CodeAction
import SunLint.Editor.Completion
import SunLint.Editor.Decoding
import SunLint.Editor.Hover

/-!
# Messages

What an editor and the server say to each other. An editor sends requests, which
are answered, and notifications, which are not; the parameters of those that the
server knows are read at once, so that what follows deals with documents and
places only.
-/

namespace SunLint

/-- A message with its parameters as they came. -/
inductive Message
  | request (id : Label) (method : String) (params : Json)
  | notification (method : String) (params : Json)
  /-- An answer to a question that the server never asked. -/
  | response
deriving Repr

/-- What an editor asks for. -/
inductive Request
  | hover (uri : String) (place : Place)
  | completion
  | codeAction (uri : String) (range : Range) (diagnostics : List ClientDiagnostic)
  | unknown (method : String)
deriving Repr

/-- What an editor tells of a document. -/
inductive Notification
  | opened (uri language : String) (version : Int) (text : String)
  /-- The texts that the document had, one after the other. -/
  | changed (uri : String) (version : Int) (texts : List String)
  | closed (uri : String)
  | unknown
deriving DecidableEq, Repr

/-- What the server sends. -/
inductive Outgoing
  | result (id : Label) (value : Json)
  | refusal (id : Label) (code : Int) (message : String)
  /-- All diagnostics of a document, of the given version if it is open. -/
  | publish (uri : String) (diagnostics : List ClientDiagnostic) (version : Option Int)
deriving Repr

/-! ## Reading -/

namespace Message

/-- Whether the value may say what went wrong with a request. -/
def isFailure (j : Json) : Bool :=
  match j.record? ["code", "message", "data"] with
  | some [some code, some message, _] => code.signed?.isSome && message.str?.isSome
  | _ => false

/-- The message that the value is: a request has an identifier and a method, a
    response an identifier, and a notification a method. -/
def ofJson? (j : Json) : Option Message :=
  let id := (j.field? "id").bind Label.ofJson?
  let method := (j.field? "method").bind Json.str?
  let params := (j.field? "params").getD .null
  let isResponse := id.isSome && ((j.given? "error").map isFailure).getD true
  match id, method with
  | some id, some method => some (.request id method params)
  | _, method =>
    if isResponse then some .response else method.map (.notification · params)

end Message

/-- The URI of the document that the parameters name. -/
def documentUri? (params : Json) : Option String :=
  ((params.field? "textDocument").bind (·.single? "uri")).bind Uri.ofJson?

/-- Whether the members of these names are labels, where there are any. -/
def labelsOnly (names : List String) (params : Json) : Bool :=
  names.all fun name => (Json.optional? Label.ofJson? (params.field? name)).isSome

/-- The diagnostics in the context of a code action. -/
def contextDiagnostics? (j : Json) : Option (List ClientDiagnostic) :=
  match j.record? ["diagnostics", "only", "triggerKind"] with
  | some [some diagnostics, only, trigger] => do
    let _ ← Json.optional? (Json.list? Json.str?) only
    let _ ← Json.optional? Json.signed? trigger
    diagnostics.list? ClientDiagnostic.ofJson?
  | _ => none

/-- The request with that method and those parameters. -/
def Request.ofParams? (method : String) (params : Json) : Option Request :=
  match method with
  | "textDocument/hover" =>
    if labelsOnly ["workDoneToken"] params then do
      return .hover (← documentUri? params) (← (params.field? "position").bind Place.ofJson?)
    else none
  | "textDocument/completion" => some .completion
  | "textDocument/codeAction" =>
    if labelsOnly ["workDoneToken", "partialResultToken"] params then do
      return .codeAction (← documentUri? params) (← (params.field? "range").bind Range.ofJson?)
        (← (params.field? "context").bind contextDiagnostics?)
    else none
  | method => some (.unknown method)

/-- The text of a change. The range that it may name is not used, since every
    change brings the whole text. -/
def changedText? (j : Json) : Option String :=
  match j.record? ["range", "rangeLength", "text"] with
  | some [range, length, some text] => do
    let _ ← Json.optional? Range.ofJson? range
    let _ ← Json.optional? Json.word? length
    text.str?
  | _ => none

/-- The notification with that method and those parameters. -/
def Notification.ofParams? (method : String) (params : Json) : Option Notification :=
  match method with
  | "textDocument/didOpen" =>
    match (params.single? "textDocument").bind
      (·.record? ["uri", "languageId", "version", "text"]) with
    | some [some uri, some language, some version, some text] => do
      return .opened (← Uri.ofJson? uri) (← language.str?) (← version.signed?) (← text.str?)
    | _ => none
  | "textDocument/didChange" =>
    match params.record? ["textDocument", "contentChanges"] with
    | some [some document, some changes] =>
      match document.record? ["uri", "version"] with
      | some [some uri, some version] => do
        return .changed (← Uri.ofJson? uri) (← version.signed?)
          (← changes.list? changedText?)
      | _ => none
    | _ => none
  | "textDocument/didClose" => do
    return .closed
      (← ((params.single? "textDocument").bind (·.single? "uri")).bind Uri.ofJson?)
  | _ => some .unknown

/-! ## Writing -/

/-- A text in Markdown as a value. -/
def Json.markdown (text : String) : Json := .obj [("kind", .str "markdown"), ("value", .str text)]

/-- What is shown for a word, as a value. -/
def Hover.toJson (h : Hover) : Json :=
  .obj [("contents", .markdown h.markdown), ("range", h.range.toJson)]

/-- The number of the sort of completions. -/
def CompletionKind.number : CompletionKind → Nat
  | .keyword => 14
  | .directive => 9
  | .snippet => 15

/-- The completion as a value. -/
def Completion.toJson (c : Completion) : Json :=
  .record [("label", some (.str c.label)), ("kind", some (.nat c.kind.number)),
    ("detail", some (.str c.detail)), ("documentation", c.documentation.map .markdown),
    ("insertText", c.template.map .str), ("insertTextFormat", c.template.map fun _ => .nat 2)]

/-- The message as a value. -/
def Outgoing.toJson : Outgoing → Json
  | .result id value => .obj [("id", id.toJson), ("result", value)]
  | .refusal id code message =>
    .obj [("id", id.toJson), ("error", .obj [("code", .int code), ("message", .str message)])]
  | .publish uri diagnostics version =>
    .obj [("method", .str "textDocument/publishDiagnostics"),
      ("params", .record [("uri", some (.str uri)),
        ("diagnostics", some (.arr (diagnostics.map ClientDiagnostic.toJson))),
        ("version", version.map .int)])]

end SunLint
