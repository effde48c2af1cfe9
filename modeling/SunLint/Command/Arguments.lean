/-!
# Command lines

How the arguments of the program are read. A command has a name and operands;
options start with two dashes, and those that mean something for every command may
stand before or after its name, where the one that stands after it counts.
Arguments are read from left to right, and the first that cannot be understood, or
that asks for help, ends the reading.
-/

namespace SunLint

/-- In what form results and errors are printed. -/
inductive OutputForm
  | text | json
deriving DecidableEq, Repr

/-- What the program is to do. -/
inductive Action
  | check (files : List String) (plain : Bool)
  | summary (files : List String)
  | exportTo (files : List String) (json csv : Option String)
  | serve
deriving DecidableEq, Repr

/-- What the program is to do, and how. -/
structure Invocation where
  output : OutputForm := .text
  quiet : Bool := false
  /-- The file with the settings. -/
  config : Option String := none
  /-- A limit that overrides the one in the settings. -/
  maxErrors : Option Nat := none
  action : Action
deriving DecidableEq, Repr

/-- What the arguments of the program mean. -/
inductive CommandLine
  | run (invocation : Invocation)
  | help
  | version
  | misuse
deriving DecidableEq, Repr

namespace CommandLine

/-- The options. -/
inductive Switch
  | output | quiet | config | maxErrors | noColor | json | csv
deriving DecidableEq, Repr

/-- The name of the option, after two dashes. -/
def Switch.name : Switch → String
  | .output => "output"
  | .quiet => "quiet"
  | .config => "config"
  | .maxErrors => "max-errors"
  | .noColor => "no-color"
  | .json => "json"
  | .csv => "csv"

/-- Whether a value belongs to the option. -/
def Switch.takesValue : Switch → Bool
  | .quiet | .noColor => false
  | _ => true

/-- Where an argument stands: before the name of the command, or after it. -/
inductive Level
  | top | check | summary | exports | serve
deriving DecidableEq, Repr

/-- The commands and their names. -/
def commands : List (String × Level) :=
  [("check", .check), ("summary", .summary), ("export", .exports), ("lsp", .serve)]

/-- The options that may be given at a level. -/
def Level.switches (level : Level) : List Switch :=
  [.output, .quiet, .config, .maxErrors] ++
  match level with
  | .check => [.noColor]
  | .exports => [.json, .csv]
  | _ => []

/-- Whether files may be named at the level. -/
def Level.takesFiles : Level → Bool
  | .check | .summary | .exports => true
  | _ => false

/-- What has been given at a level: the options with their values, and the files. -/
structure Given where
  options : List (Switch × String) := []
  files : List String := []

/-- The form of that name. -/
def outputForm? : String → Option OutputForm
  | "text" => some .text
  | "json" => some .json
  | _ => none

/-- The number of 64 bits that the text spells in decimal digits, which may follow
    a plus sign. -/
def limit? (s : String) : Option Nat :=
  let digits := match s.toList with
    | '+' :: cs => cs
    | cs => cs
  if !digits.isEmpty && digits.all Char.isDigit then
    let n := digits.foldl (fun n c => 10 * n + (c.toNat - '0'.toNat)) 0
    if n < 18446744073709551616 then some n else none
  else none

/-- Whether the value is one for the option. -/
def Switch.accepts (switch : Switch) (value : String) : Bool :=
  match switch with
  | .output => (outputForm? value).isSome
  | .maxErrors => (limit? value).isSome
  | .config | .json | .csv => value ≠ ""
  | .quiet | .noColor => true

/-- An argument by its form. -/
inductive Argument
  | long (name : String) (value : Option String)
  | short (letter : Char)
  | separator
  | operand (text : String)

/-- The form of the argument. Only one dash is an operand. -/
def Argument.of (text : String) : Argument :=
  match text.toList with
  | ['-', '-'] => .separator
  | '-' :: '-' :: cs =>
    match cs.span (· ≠ '=') with
    | (name, _ :: value) => .long (String.ofList name) (some (String.ofList value))
    | (name, []) => .long (String.ofList name) none
  | '-' :: letter :: _ => .short letter
  | _ => .operand text

/-- Whether the argument can be the value of the option before it. -/
def isValue (text : String) : Bool :=
  match Argument.of text with
  | .operand _ => true
  | _ => false

/-- How the reading of a level ends: with all arguments read, with a word that may
    name a command and the arguments after it, or too soon. -/
inductive Reading
  | whole (given : Given)
  | word (given : Given) (name : String) (rest : List String)
  | stopped (result : CommandLine)

/-- The files named after a separator. -/
def readFiles (level : Level) (given : Given) (files : List String) : Reading :=
  if files.isEmpty then .whole given
  else if level.takesFiles && !files.contains "" then
    .whole { given with files := given.files ++ files }
  else .stopped .misuse

/-- What has been given with the option added, unless it was there before or the
    value is none for it. -/
def Given.add? (given : Given) (switch : Switch) (value : String) : Option Given :=
  if (given.options.lookup switch).isSome || !switch.accepts value then none
  else some { given with options := (switch, value) :: given.options }

/-- Reads the arguments of a level. -/
def read (level : Level) (given : Given) : List String → Reading
  | [] => .whole given
  | argument :: rest =>
    match Argument.of argument with
    | .separator => readFiles level given rest
    | .operand text =>
      if level = .top then .word given text rest
      else if level.takesFiles && text ≠ "" then
        read level { given with files := given.files ++ [text] } rest
      else .stopped .misuse
    | .short letter =>
      if letter = 'h' then .stopped .help
      else if letter = 'V' && level = .top then .stopped .version
      else .stopped .misuse
    | .long name value =>
      if name = "help" && value.isNone then .stopped .help
      else if name = "version" && value.isNone && level = .top then .stopped .version
      else match level.switches.find? (·.name = name), value, rest with
        | none, _, _ => .stopped .misuse
        | some switch, value, rest =>
          if switch.takesValue then
            match value, rest with
            | some value, rest =>
              match given.add? switch value with
              | some given => read level given rest
              | none => .stopped .misuse
            | none, next :: rest =>
              match if isValue next then given.add? switch next else none with
              | some given => read level given rest
              | none => .stopped .misuse
            | none, [] => .stopped .misuse
          else if value.isSome then .stopped .misuse
          else match given.add? switch "" with
            | some given => read level given rest
            | none => .stopped .misuse

/-- What is to be done at the level with the files and the options given there. -/
def action? (level : Level) (given : Given) : Option Action :=
  let needed (action : Action) : Option Action :=
    if given.files.isEmpty then none else some action
  match level with
  | .check => needed (.check given.files (given.options.lookup .noColor).isSome)
  | .summary => needed (.summary given.files)
  | .exports =>
    match given.options.lookup .json, given.options.lookup .csv with
    | none, none => none
    | json, csv => needed (.exportTo given.files json csv)
  | .serve => some .serve
  | .top => none

/-- The invocation with what has been given before and after the command. -/
def invocation (before after : Given) (action : Action) : Invocation :=
  let value? (switch : Switch) : Option String :=
    (after.options.lookup switch).or (before.options.lookup switch)
  { output := ((value? .output).bind outputForm?).getD .text
    quiet := (value? .quiet).isSome
    config := value? .config
    maxErrors := (value? .maxErrors).bind limit?
    action }

/-- What the arguments of the program mean. -/
def ofArguments (arguments : List String) : CommandLine :=
  match read .top {} arguments with
  | .whole _ => .misuse
  | .stopped result => result
  | .word before name rest =>
    match commands.lookup name with
    | some level =>
      match read level {} rest with
      | .whole after =>
        match action? level after with
        | some action => .run (invocation before after action)
        | none => .misuse
      | .stopped result => result
      | .word .. => .misuse
    | none =>
      if name = "help" && (rest.isEmpty || (rest.length = 1 && rest.all fun command =>
        command = "help" || (commands.lookup command).isSome)) then .help else .misuse

end CommandLine

end SunLint
