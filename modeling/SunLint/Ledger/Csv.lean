import SunLint.Ledger.Basic

/-!
# Comma-separated values

The findings of a ledger as a table for spreadsheets: a header and a record for
each finding, in the order of the files. Every field of a record stands in
quotes, so that commas and line ends may occur in it, and a quote is written
twice. A ledger without errors is written as a line that says so.
-/

namespace SunLint.Csv

/-- The characters with every quote written twice. -/
def doubleQuotes (cs : List Char) : List Char :=
  cs.flatMap fun c => if c = '"' then ['"', '"'] else [c]

/-- The text as a field. -/
def field (s : String) : String :=
  "\"" ++ String.ofList (doubleQuotes s.toList) ++ "\""

/-- The names of the columns. -/
def columns : List String :=
  ["File", "Type", "Severity", "Line", "Column", "Message", "ErrorCode", "Suggestions"]

/-- The line without errors. -/
def noErrors : String := "No errors found\n"

/-- The contents of the record for a finding in a file. -/
def record (file : String) (f : Finding) : List String :=
  [file, f.origin.name, f.severity.name, toString f.position.line, toString f.position.column,
   f.message, f.code.name, "; ".intercalate f.suggestions]

/-- The records for a list of reports. -/
def records (reports : List Report) : List (List String) :=
  reports.flatMap fun r => r.findings.map (record r.file)

/-- The record on a line. -/
def line (fields : List String) : String := ",".intercalate (fields.map field) ++ "\n"

/-- The ledger as a table. -/
def ofLedger (l : Ledger) : String :=
  match records l.allReports with
  | [] => noErrors
  | rows => ",".intercalate columns ++ "\n" ++ String.join (rows.map line)

end SunLint.Csv
