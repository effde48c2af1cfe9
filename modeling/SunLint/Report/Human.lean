import SunLint.Report.Advice
import SunLint.Report.Snippet
import SunLint.Report.Styled

/-!
# Reports for people

The errors of one text as a person reads them: how many there are, the lexical
and the syntax errors in sections of their own, each with its place in the
source and the suggestions for it, and at the end what is recommended.
-/

namespace SunLint.Human

/-- The whole report on a text without errors. -/
def success : String := "No syntax errors found."

/-- The last line of a report. -/
def closingTip : String :=
  "Tip: later errors are often caused by earlier ones. " ++
    "Fix the first error and run the check again."

/-- A title and a line under it. -/
def heading (title : String) : List Span :=
  [⟨title, .bold⟩, ⟨"\n" ++ String.ofList (List.replicate title.length '─') ++ "\n", .plain⟩]

/-- The colour of a severity. -/
def severityStyle : Severity → Style
  | .error => .red
  | .warning => .yellow
  | .info => .cyan

/-- The number in three columns at least. -/
def number (n : Nat) : String :=
  let digits := toString n
  String.ofList (List.replicate (3 - digits.length) ' ') ++ digits

/-- The entry of a finding, the `n`-th of its section. -/
def entry (source : String) (n : Nat) (f : Finding) : List Span :=
  [⟨number n ++ ". ", .plain⟩,
   ⟨f.severity.name ++ "[" ++ f.code.name ++ "]", severityStyle f.severity⟩,
   ⟨" " ++ f.message ++ "\n     ", .plain⟩,
   ⟨"at " ++ f.position.describe, .cyan⟩,
   ⟨"\n", .plain⟩] ++
  (Text.lines (Snippet.render source f.position).toList).map
    (fun line => ⟨"     | " ++ String.ofList line ++ "\n", .plain⟩) ++
  (if f.suggestions.isEmpty then [] else
    ⟨"     Suggestions:\n", .plain⟩ :: f.suggestions.flatMap fun s =>
      [⟨"       ", .plain⟩, ⟨"-", .green⟩, ⟨" " ++ s ++ "\n", .plain⟩])

/-- The entries of the findings, numbered from `n` on. -/
def entries (source : String) (n : Nat) : List Finding → List Span
  | [] => []
  | f :: fs => entry source n f ++ entries source (n + 1) fs

/-- A section with its entries, unless there are none. -/
def part (source title : String) (findings : List Finding) : List Span :=
  if findings.isEmpty then []
  else ⟨"\n", .plain⟩ :: heading title ++ entries source 1 findings

/-- The first line, with the numbers of errors. -/
def opening (errors : Errors) : String :=
  "Found " ++ toString errors.total ++ (if errors.total = 1 then " problem" else " problems") ++
    " (" ++ toString errors.lexical.length ++ " lexical, " ++
    toString errors.syntactic.length ++ " syntax)"

/-- The report on a text with these errors. -/
def report (source : String) (errors : Errors) : List Span :=
  if errors.isEmpty then [⟨success, .plain⟩]
  else
    [⟨opening errors, .bold⟩, ⟨"\n", .plain⟩] ++
    part source "Lexical errors" (errors.lexical.map Finding.ofLexical) ++
    part source "Syntax errors" (errors.syntactic.map Finding.ofSyntactic) ++
    ⟨"\n", .plain⟩ :: heading "Recommendations" ++
    (Advice.recommendations errors).map (fun r => ⟨"  - " ++ r ++ "\n", .plain⟩) ++
    [⟨"\n", .plain⟩, ⟨closingTip, .dim⟩, ⟨"\n", .plain⟩]

end SunLint.Human
