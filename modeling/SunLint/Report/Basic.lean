import SunLint.Distinct
import SunLint.Report.Diagnostic
import SunLint.Report.Human

/-!
# Reports

All that is known of one file: its findings, the diagnostics and the report for
people that were made of them, and the suggestions of all findings together.
-/

namespace SunLint

/-- The report on a file, made at a certain time. -/
structure Report where
  file : String
  time : String
  errors : Errors
  diagnostics : List Diagnostic
  human : String
  suggestions : List String
deriving DecidableEq, Repr, Inhabited

namespace Report

/-- The suggestions of all findings in their order, and after them up to three of
    the recommendations that are called for, each of them once. -/
def allSuggestions (errors : Errors) : List String :=
  Distinct.addAll (Distinct.ofList (errors.findings.flatMap (·.suggestions)))
    ((Advice.triggered errors).take 3)

/-- The report on the text of a file with these errors. -/
def make (sourceName time file source : String) (errors : Errors) : Report where
  file := file
  time := time
  errors := errors
  diagnostics := Diagnostic.ofErrors source sourceName errors
  human := Span.plainText (Human.report source errors)
  suggestions := allSuggestions errors

/-- The report, if there is a diagnostic for each of the errors. -/
def make? (sourceName time file source : String) (errors : Errors) : Option Report :=
  (Diagnostic.ofErrors? source sourceName errors).map fun diagnostics =>
    { make sourceName time file source errors with diagnostics }

/-- The findings of the report. -/
def findings (r : Report) : List Finding := r.errors.findings

/-- The number of errors. -/
def total (r : Report) : Nat := r.errors.total

/-- The number of lexical errors. -/
def lexicalCount (r : Report) : Nat := r.errors.lexical.length

/-- The number of syntax errors. -/
def syntacticCount (r : Report) : Nat := r.errors.syntactic.length

end Report

/-- The finding as a value. -/
def Finding.toJson (f : Finding) : Json :=
  .obj [("kind", .str f.origin.name), ("severity", .str f.severity.name),
    ("line", .nat f.position.line), ("column", .nat f.position.column),
    ("message", .str f.message), ("code", .str f.code.name),
    ("suggestions", .strings f.suggestions)]

/-- The report as a value. -/
def Report.toJson (r : Report) : Json :=
  .obj [("file", .str r.file), ("timestamp", .str r.time), ("totalErrors", .nat r.total),
    ("lexicalErrors", .nat r.lexicalCount), ("syntaxErrors", .nat r.syntacticCount),
    ("diagnostics", .arr (r.diagnostics.map Diagnostic.toJson)),
    ("humanReport", .str r.human), ("suggestions", .strings r.suggestions),
    ("errors", .arr (r.findings.map Finding.toJson))]

end SunLint
