import SunLint.Report.Basic
import SunLint.SortedMap

/-!
# Statistics

Counts over a set of reports, kept up to date as reports come and go: taking a
report away undoes what adding it did. No code and no file is listed with a
count of zero.
-/

namespace SunLint

/-- How many files and errors there are, and how many errors of each code and in
    each file. -/
structure Statistics where
  files : Nat := 0
  errors : Nat := 0
  lexical : Nat := 0
  syntactic : Nat := 0
  byCode : SortedMap Nat := {}
  byFile : SortedMap Nat := {}
deriving DecidableEq, Repr, Inhabited

namespace Statistics

/-- The counts with `n` more for the key. -/
def increase (counts : SortedMap Nat) (key : String) (n : Nat) : SortedMap Nat :=
  counts.insert key ((counts.find? key).getD 0 + n)

/-- The counts with `n` less for the key, which is dropped at zero. -/
def decrease (counts : SortedMap Nat) (key : String) (n : Nat) : SortedMap Nat :=
  match counts.find? key with
  | none => counts
  | some count => if count - n = 0 then counts.erase key else counts.insert key (count - n)

/-- The statistics with a report added. -/
def add (s : Statistics) (r : Report) : Statistics where
  files := s.files + 1
  errors := s.errors + r.total
  lexical := s.lexical + r.lexicalCount
  syntactic := s.syntactic + r.syntacticCount
  byCode := r.findings.foldl (fun counts f => increase counts f.code.name 1) s.byCode
  byFile := if r.total = 0 then s.byFile else increase s.byFile r.file r.total

/-- The statistics with a report taken away. -/
def subtract (s : Statistics) (r : Report) : Statistics where
  files := s.files - 1
  errors := s.errors - r.total
  lexical := s.lexical - r.lexicalCount
  syntactic := s.syntactic - r.syntacticCount
  byCode := r.findings.foldl (fun counts f => decrease counts f.code.name 1) s.byCode
  byFile := decrease s.byFile r.file r.total

/-- Counts as a value. -/
def ofCounts (counts : SortedMap Nat) : Json := .obj (counts.entries.map fun (k, n) => (k, .nat n))

/-- The statistics as a value. -/
def toJson (s : Statistics) : Json :=
  .obj [("totalFiles", .nat s.files), ("totalErrors", .nat s.errors),
    ("lexicalErrorCount", .nat s.lexical), ("syntaxErrorCount", .nat s.syntactic),
    ("errorsByCode", ofCounts s.byCode), ("errorsByFile", ofCounts s.byFile)]

end Statistics

end SunLint
