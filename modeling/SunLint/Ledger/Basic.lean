import SunLint.Ledger.Statistics
import SunLint.Settings.Basic

/-!
# Ledgers

A ledger holds the latest report on each of a set of files, together with the
statistics over them. A new report on a file replaces the former one, so that no
error is counted twice.
-/

namespace SunLint

/-- The reports on a set of files and the statistics over them. -/
structure Ledger where
  reports : SortedMap Report := {}
  statistics : Statistics := {}
  /-- The number of errors above which it is advised to go file by file. -/
  threshold : Nat
  /-- The name under which diagnostics are shown. -/
  sourceName : String
deriving DecidableEq, Repr, Inhabited

/-- The changes that can be made to a ledger: a report on the text of a file that
    is made at a certain time and takes the place of any other on the file, the end
    of a report, and the end of all reports. -/
inductive LedgerChange
  | add (time file source : String) (errors : Errors)
  | erase (file : String)
  | clear
deriving DecidableEq, Repr

/-- What is seen of a ledger by those who watch it. -/
inductive LedgerEvent
  | added (file : String) (total : Nat)
  | removed (file : String)
  | cleared
  | exported (path format : String)
deriving DecidableEq, Repr

namespace Ledger

/-- The ledger without reports. -/
def ofSettings (s : Settings) : Ledger where
  threshold := s.errorThreshold
  sourceName := s.sourceName

variable (l : Ledger)

/-- The report on the file. -/
def report? (file : String) : Option Report := l.reports.find? file

/-- The reports in the order of their files. -/
def allReports : List Report := l.reports.values

/-- The ledger without the report on the file. -/
def erase (file : String) : Ledger :=
  match l.report? file with
  | none => l
  | some old =>
    { l with reports := l.reports.erase file, statistics := l.statistics.subtract old }

/-- The ledger with the report in the place of any other on the same file. -/
def put (r : Report) : Ledger :=
  let l := l.erase r.file
  { l with reports := l.reports.insert r.file r, statistics := l.statistics.add r }

/-- The ledger with a report on the text of a file, made at a certain time. -/
def add (time file source : String) (errors : Errors) : Ledger :=
  l.put (Report.make l.sourceName time file source errors)

/-- The ledger with a report on errors that may be at any position, if there can be
    such a report. -/
def add? (time file source : String) (errors : Errors) : Option Ledger :=
  (Report.make? l.sourceName time file source errors).map l.put

/-- The ledger without any report. -/
def clear : Ledger := { l with reports := {}, statistics := {} }

/-- The ledger after the change. -/
def apply : LedgerChange → Ledger
  | .add time file source errors => l.add time file source errors
  | .erase file => l.erase file
  | .clear => l.clear

/-- What is seen of the change: nothing if there is no report to erase. -/
def events : LedgerChange → List LedgerEvent
  | .add _ file _ errors => [.added file errors.total]
  | .erase file => if (l.report? file).isSome then [.removed file] else []
  | .clear => [.cleared]

end Ledger

end SunLint
