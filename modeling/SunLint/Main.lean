import Std.Time.DateTime.Timestamp
import SunLint.Command.Clock
import SunLint.Command.Run
import SunLint.Editor.Session
import SunLint.Json.Reader

/-!
# The program on a real system

Connects the program to the disk, the clock, and the standard streams, over which
it also talks to editors.
-/

namespace SunLint.Main

/-- The fault that an error of the system stands for. -/
def faultOf : IO.Error → FileFault
  | .noFileOrDirectory .. => .missing
  | .inappropriateType _ code _ => if code = 21 then .isFolder else .notFolder
  | e => .other (toString e)

/-- The files on the disk. -/
def disk : Files IO where
  read path := do
    try
      match String.fromUTF8? (← IO.FS.readBinFile path) with
      | some text => return .ok text
      | none => return .error .notText
    catch e => return .error (faultOf e)
  write path text := do
    try
      IO.FS.writeFile path text
      return .ok ()
    catch e => return .error (faultOf e)
  isFile path := do
    try return (← (← IO.FS.realPath path).metadata).type == IO.FS.FileType.file
    catch _ => return false

/-- The time by the clock of the system. -/
def now : IO String := do
  return Clock.format (← Std.Time.Timestamp.now).toNanosecondsSinceUnixEpoch.val.toNat

/-! ## Talking to editors -/

/-- The length that a header announces. -/
def lengthOf? (header : String) : Option Nat :=
  match header.splitOn ":" with
  | [name, value] =>
    if name.toLower = "content-length" then value.trimAscii.toString.toNat? else none
  | _ => none

/-- Reads headers up to an empty line, and gives the length that they announce. -/
partial def readLength (input : IO.FS.Stream) (found : Option Nat) : IO (Option Nat) := do
  let line ← input.getLine
  if line.isEmpty then return none
  let header := line.trimAscii.toString
  if header.isEmpty then return found
  readLength input ((lengthOf? header).or found)

/-- Reads so many bytes. -/
partial def readBytes (input : IO.FS.Stream) (n : Nat) (read : ByteArray) : IO ByteArray := do
  if n ≤ read.size then return read
  let more ← input.read (n - read.size).toUSize
  if more.isEmpty then return read
  readBytes input n (read ++ more)

/-- Sends a message. -/
def send (output : IO.FS.Stream) (message : Outgoing) : IO Unit := do
  let members := match message.toJson with
    | .obj members => members
    | _ => []
  let body := (Json.obj (("jsonrpc", .str "2.0") :: members)).compress
  output.putStr ("Content-Length: " ++ toString body.utf8ByteSize ++ "\r\n\r\n" ++ body)
  output.flush

/-- Goes on with a session until the editor leaves. -/
partial def converse (input output : IO.FS.Stream) (s : Session) : IO (Option String) := do
  match ← readLength input none with
  | none => return if s.stage = .running then none else some Session.disconnected
  | some n =>
    let text := String.fromUTF8? (← readBytes input n .empty)
    match (text.bind Json.read?).bind Message.ofJson? with
    | none => return some "malformed message"
    | some message =>
      match s.receive? (← now) message with
      | none => return some "unexpected message"
      | some (s, replies) =>
        replies.forM (send output)
        if s.stage = .ended then return none
        converse input output s

/-- The system on which the program runs. -/
def system : IO (System IO) := do
  let input ← IO.getStdin
  let output ← IO.getStdout
  return {
    files := disk
    now := now
    onTerminal := ← output.isTty
    serve := fun settings => converse input output (.ofSettings settings) }

end SunLint.Main

/-- Runs the program. -/
def main (arguments : List String) : IO UInt32 := do
  let outcome ← SunLint.Command.runArguments (← SunLint.Main.system) arguments
  IO.print outcome.out
  IO.eprint outcome.err
  return outcome.exit.toUInt32
