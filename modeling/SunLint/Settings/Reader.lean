import SunLint.Settings.Basic
import SunLint.Toml.Reader

/-!
# Reading settings

Settings stand in the table `engine` of a TOML document, each under its name; or
they are an array of values in their order. What is not given keeps its default,
and names that mean nothing are passed over, but a value of the wrong type
rejects the whole document. A date or a time counts as a table without settings.
-/

namespace SunLint.Settings

/-- The number, if the value is one that is not negative. -/
def number? : Toml.Entry → Option Nat
  | .value (.integer (.ofNat n)) => some n
  | _ => none

/-- The text, if the value is one. -/
def text? : Toml.Entry → Option String
  | .value (.string s) => some s
  | _ => none

/-- The names of the settings, in order. -/
def names : List String :=
  ["max_errors", "max_edit_distance", "sync_lookahead", "insertion_lookbehind",
   "context_window", "error_threshold", "source_name"]

/-- The setting as `read` understands the entry, or its default. -/
def setting? {α : Type} (entries : List (String × Toml.Entry)) (name : String)
    (read : Toml.Entry → Option α) (default : α) : Option α :=
  match entries.lookup name with
  | some e => read e
  | none => some default

/-- The settings that the entries give. -/
def ofEntries? (entries : List (String × Toml.Entry)) : Option Settings := do
  let d : Settings := {}
  return {
    maxErrors := ← setting? entries "max_errors" number? d.maxErrors
    maxEditDistance := ← setting? entries "max_edit_distance" number? d.maxEditDistance
    syncLookahead := ← setting? entries "sync_lookahead" number? d.syncLookahead
    insertionLookbehind :=
      ← setting? entries "insertion_lookbehind" number? d.insertionLookbehind
    contextWindow := ← setting? entries "context_window" number? d.contextWindow
    errorThreshold := ← setting? entries "error_threshold" number? d.errorThreshold
    sourceName := ← setting? entries "source_name" text? d.sourceName }

/-- The settings that the document gives. -/
def ofDocument? (document : Toml.Table) : Option Settings :=
  match document.find? "engine" with
  | none => some {}
  | some (.table t) | some (.value (.inline t)) => ofEntries? t.entries
  | some (.value (.array vs)) => ofEntries? (names.zip (vs.map .value))
  | some (.tables ts) => ofEntries? (names.zip (ts.map .table))
  | some (.value .datetime) => some {}
  | some (.value _) => none

/-- The settings that the text gives, unless it is rejected. -/
def read? (text : String) : Option Settings := Toml.read? text >>= ofDocument?

/-- The refusal of a file of settings. -/
def rejection (path : String) : String := "invalid config file " ++ path

end SunLint.Settings
