import SunLint.Files.Basic
import SunLint.Json.Printer
import SunLint.Ledger.Csv

/-!
# Exports

A ledger written down in full, for other programs to read.
-/

namespace SunLint

/-- The forms in which a ledger is exported. -/
inductive ExportFormat
  | json | csv
deriving DecidableEq, Repr

/-- The name of the format. -/
def ExportFormat.name : ExportFormat → String
  | .json => "json"
  | .csv => "csv"

namespace Ledger

/-- The ledger as a value, exported at a certain time. -/
def toJson (l : Ledger) (time : String) : Json :=
  .obj [("timestamp", .str time), ("statistics", l.statistics.toJson),
    ("reports", .arr (l.allReports.map Report.toJson))]

/-- The text of an export. -/
def exportText (l : Ledger) (time : String) : ExportFormat → String
  | .json => (l.toJson time).pretty
  | .csv => Csv.ofLedger l

/-- What is said when an export cannot be written. -/
def exportFailure (path : String) (fault : FileFault) : String :=
  "cannot write export file " ++ path ++ ": " ++ fault.message

/-- Writes an export that is made at a certain time into a file. -/
def exportTo {m : Type → Type} [Monad m] (l : Ledger) (files : Files m) (time path : String)
    (format : ExportFormat) : m (Except String LedgerEvent) := do
  match ← files.write path (l.exportText time format) with
  | .ok () => return .ok (.exported path format.name)
  | .error fault => return .error (exportFailure path fault)

end Ledger

end SunLint
