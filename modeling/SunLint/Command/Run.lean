import SunLint.Analysis
import SunLint.Command.Arguments
import SunLint.Ledger.Export
import SunLint.Ledger.Summary
import SunLint.Report.Human
import SunLint.Settings.Reader

/-!
# The program

What the program does for each command, given access to files and a clock, and
what it prints. All files are read and analyzed before anything is printed, and
the first one that cannot be read ends the run.
-/

namespace SunLint

/-- What the program asks of the system on which it runs. -/
structure System (m : Type → Type) where
  files : Files m
  /-- The time. -/
  now : m String
  /-- Whether what is printed goes to a terminal. -/
  onTerminal : Bool
  /-- Talks to an editor until it leaves, or until a failure that is returned. -/
  serve : Settings → m (Option String)

/-- How a run ends, and what it has printed. -/
structure Outcome where
  exit : Nat := 0
  out : String := ""
  err : String := ""
deriving DecidableEq, Repr

namespace Command

/-- The name and the version of the program. -/
def version : String := "sun 0.1.0"

/-- How the program is used. -/
def usage : String :=
  "Usage: sun [--output text|json] [--quiet] [--config FILE] [--max-errors N] COMMAND\n\n" ++
  "Commands:\n" ++
  "  check [--no-color] FILE...                 report the errors of each file\n" ++
  "  summary FILE...                            print statistics and recommendations\n" ++
  "  export [--json FILE] [--csv FILE] FILE...  write all reports into files\n" ++
  "  lsp                                        talk to an editor\n"

/-- The file from which settings are taken if no other one is named. -/
def defaultConfig : String := "sun.toml"

/-- A file that has been read and analyzed. -/
structure Source where
  file : String
  text : String
  errors : Errors

variable {m : Type → Type} [Monad m] (system : System m)

/-- The settings in the file. -/
def readSettings (path : String) : m (Except String Settings) := do
  match ← system.files.read path with
  | .error fault => return .error ("cannot read config file " ++ path ++ ": " ++ fault.message)
  | .ok text =>
    match Settings.read? text with
    | some settings => return .ok settings
    | none => return .error (Settings.rejection path ++ ": TOML parse error")

/-- The settings for the invocation. -/
def settingsFor (i : Invocation) : m (Except String Settings) := do
  let settings ← match i.config with
    | some path => readSettings system path
    | none =>
      if ← system.files.isFile defaultConfig then readSettings system defaultConfig
      else pure (.ok {})
  return settings.map fun s => { s with maxErrors := i.maxErrors.getD s.maxErrors }

/-- The files, read and analyzed. -/
def readSources (settings : Settings) : List String → m (Except String (List Source))
  | [] => return .ok []
  | file :: files => do
    match ← system.files.read file with
    | .error fault => return .error ("cannot read " ++ file ++ ": " ++ fault.message)
    | .ok text =>
      match analyze .builtin settings text with
      | .error fault => return .error (file ++ ": " ++ fault.message)
      | .ok errors =>
        return (← readSources settings files).map (⟨file, text, errors⟩ :: ·)

/-- The ledger of reports on the files. -/
def ledgerOf (settings : Settings) (sources : List Source) : m Ledger :=
  sources.foldlM (fun l s => return l.add (← system.now) s.file s.text s.errors)
    (.ofSettings settings)

/-- The run fails with the message. -/
def failure (i : Invocation) (message : String) : Outcome where
  exit := 1
  err :=
    if i.quiet then ""
    else match i.output with
      | .text => message ++ "\n"
      | .json => (Json.obj [("error", .str message)]).compress ++ "\n"

/-- What is printed of a file that has been checked. -/
def checkText (styled : Bool) (s : Source) : String :=
  let spans := Human.report s.text s.errors
  s.file ++ "\n" ++ (if styled then Span.ansiText spans else Span.plainText spans) ++ "\n"

/-- Reports the errors of each file. The run fails if any file has to be
    rejected. -/
def check (i : Invocation) (settings : Settings) (plain : Bool) (sources : List Source) :
    m Outcome := do
  let rejected := sources.countP (·.errors.areGrave)
  let out ← if i.quiet then pure "" else match i.output with
    | .json => do
      let ledger ← ledgerOf system settings sources
      pure ((Json.arr (ledger.allReports.map Report.toJson)).pretty ++ "\n")
    | .text =>
      pure (String.join (sources.map (checkText (!plain && system.onTerminal))) ++
        if 1 < sources.length then
          toString rejected ++ " of " ++ toString sources.length ++ " files have errors\n"
        else "")
  return { exit := if rejected = 0 then 0 else 1, out }

/-- Prints the statistics over all files and what is recommended. -/
def summarize (i : Invocation) (settings : Settings) (sources : List Source) : m Outcome := do
  let ledger ← ledgerOf system settings sources
  let out := match i.output with
    | .json => (Json.obj [("statistics", ledger.statistics.toJson),
        ("recommendations", .strings ledger.recommendations)]).pretty ++ "\n"
    | .text => ledger.summary
  return { out := if i.quiet then "" else out }

/-- What is printed of an export. -/
def exportText (i : Invocation) (path : String) (total : Nat) : String :=
  if i.quiet then "" else match i.output with
    | .text => "Exported " ++ toString total ++ " errors to " ++ path ++ "\n"
    | .json => (Json.obj [("exported", .str path), ("totalErrors", .nat total)]).pretty ++ "\n"

/-- Writes the ledger into one file after the other, until one cannot be
    written. -/
def exportAll (i : Invocation) (ledger : Ledger) :
    List (ExportFormat × String) → m Outcome
  | [] => return {}
  | (format, path) :: targets => do
    match ← ledger.exportTo system.files (← system.now) path format with
    | .error message => return failure i message
    | .ok _ =>
      let rest ← exportAll i ledger targets
      return { rest with out := exportText i path ledger.statistics.errors ++ rest.out }

/-- Does what the invocation says. -/
def run (i : Invocation) : m Outcome := do
  match ← settingsFor system i with
  | .error message => return failure i message
  | .ok settings =>
    let withSources (files : List String) (f : List Source → m Outcome) : m Outcome := do
      match ← readSources system settings files with
      | .error message => return failure i message
      | .ok sources => f sources
    match i.action with
    | .check files plain => withSources files (check system i settings plain)
    | .summary files => withSources files (summarize system i settings)
    | .exportTo files json csv => withSources files fun sources => do
      exportAll system i (← ledgerOf system settings sources)
        ((json.toList.map (.json, ·)) ++ csv.toList.map (.csv, ·))
    | .serve =>
      match ← system.serve settings with
      | some message => return { exit := 1, err := "LSP server error: " ++ message ++ "\n" }
      | none => return {}

/-- Does what the arguments of the program say. -/
def runArguments (arguments : List String) : m Outcome :=
  match CommandLine.ofArguments arguments with
  | .run i => run system i
  | .help => return { out := usage }
  | .version => return { out := version ++ "\n" }
  | .misuse => return { exit := 2, err := usage }

end Command

end SunLint
