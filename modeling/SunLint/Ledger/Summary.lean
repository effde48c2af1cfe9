import SunLint.Ledger.Basic

/-!
# Summaries

What a ledger says about all of its files together: the counts, the codes and
the files with the most errors, and what is recommended.
-/

namespace SunLint

namespace Statistics

/-- Whether the first count comes before the second one in a ranking: it is the
    greater, or they are equal and its key comes first. -/
def ranksBefore (a b : String × Nat) : Bool :=
  b.2 < a.2 || (a.2 = b.2 && a.1 ≤ b.1)

/-- The keys with the highest counts, at most five. -/
def topFive (counts : SortedMap Nat) : List (String × Nat) :=
  (counts.entries.mergeSort ranksBefore).take 5

end Statistics

namespace Ledger

/-- The lines of a ranking, numbered from `n` on. -/
def rankLines (n : Nat) : List (String × Nat) → List String
  | [] => []
  | (key, count) :: rest =>
    ("  " ++ toString n ++ ". " ++ key ++ ": " ++ toString count) :: rankLines (n + 1) rest

/-- What is recommended in view of the number of errors and their mix. -/
def recommendations (l : Ledger) : List String :=
  let s := l.statistics
  [if s.errors = 0 then "All files parse cleanly; keep running the check as files change."
   else if s.syntactic < s.lexical then
     "Most errors are lexical: fix file encodings and stray characters first."
   else "Most errors are syntactic: start with missing delimiters and misspelled keywords."] ++
  (if l.threshold < s.errors then
    ["More than " ++ toString l.threshold ++ " errors: work through one file at a time, " ++
      "starting with the file with the most errors."] else []) ++
  (if s.byCode.contains ErrorCode.possibleMisspelling.name then
    ["Several keywords look misspelled; apply the suggested corrections."] else []) ++
  ["Re-run the check after each fix; later errors often disappear with earlier ones."]

/-- The lines of the summary. -/
def summaryLines (l : Ledger) : List String :=
  let s := l.statistics
  ["Error Summary", "=============",
   "Files analyzed: " ++ toString s.files,
   "Total errors: " ++ toString s.errors ++ " (" ++ toString s.lexical ++ " lexical, " ++
     toString s.syntactic ++ " syntax)",
   ""] ++
  (if s.errors = 0 then ["No errors found."]
   else
    "Top error codes:" :: rankLines 1 (Statistics.topFive s.byCode) ++
    "" :: "Files with the most errors:" :: rankLines 1 (Statistics.topFive s.byFile)) ++
  "" :: "Recommendations:" :: l.recommendations.map ("  - " ++ ·)

/-- The summary of the ledger. -/
def summary (l : Ledger) : String := String.join (l.summaryLines.map (· ++ "\n"))

end Ledger

end SunLint
