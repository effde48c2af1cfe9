import SunLint.Ledger.Summary
import SunLint.Proofs.Editor.ClosedLines
import SunLint.Proofs.Ledger.Recount

/-!
# Rankings

The summary of a ledger shows the codes and the files with the most errors. Which these are is said
by a ranking (`Statistics.IsRanking`): all keys with their counts, the highest count first and keys
of the same count in their order. There is no other ranking of the same counts
(`IsRanking.unique`), and the summary shows its first five.

* `Statistics.Lists.isRanking`: a table of counts that is sorted for the summary is a ranking;
* `Ledger.linesUnder_eq`: what stands under a heading of the summary;
* `Ledger.summary_run`: after any changes the summary ranks the reports that are left.
-/

namespace SunLint

namespace Statistics

/-! ## Rankings -/

/-- The first key ranks before the second one: it has the higher count, or the same one and
    stands first in the order of the keys. -/
def Precedes (a b : String × Nat) : Prop := b.2 < a.2 ∨ a.2 = b.2 ∧ a.1 < b.1

/-- The keys of which there are any, each with their number, in the order of their ranks. -/
structure IsRanking (count : String → Nat) (ranking : List (String × Nat)) : Prop where
  mem_iff : ∀ key n, (key, n) ∈ ranking ↔ count key = n ∧ 0 < n
  ordered : ranking.Pairwise Precedes

variable {count : String → Nat} {ranking ranking' : List (String × Nat)} {a b c : String × Nat}

theorem Precedes.asymm (h : Precedes a b) (h' : Precedes b a) : a = b := by
  obtain h | ⟨h, hkey⟩ := h
  · obtain h' | ⟨h', -⟩ := h' <;> omega
  · obtain h' | ⟨-, hkey'⟩ := h'
    · omega
    · exact absurd hkey' (String.lt_asymm hkey)

theorem Precedes.ne (h : Precedes a b) : a ≠ b := by
  rintro rfl
  obtain h | ⟨-, h⟩ := h
  · exact Nat.lt_irrefl _ h
  · exact String.lt_irrefl _ h

/-- The counts determine the ranking. -/
theorem IsRanking.unique (h : IsRanking count ranking) (h' : IsRanking count ranking') :
    ranking = ranking' := by
  have hperm : ranking.Perm ranking' :=
    (List.perm_ext_iff_of_nodup (h.ordered.imp Precedes.ne) (h'.ordered.imp Precedes.ne)).2
      fun (key, n) => (h.mem_iff key n).trans (h'.mem_iff key n).symm
  exact hperm.eq_of_pairwise (fun _ _ _ _ => Precedes.asymm) h.ordered h'.ordered

/-- Where nothing is counted nothing is ranked. -/
theorem IsRanking.take_eq_nil (h : IsRanking count ranking) (hzero : ∀ key, count key = 0)
    {n : Nat} : ranking.take n = [] := by
  have hnil : ranking = [] := by
    refine List.eq_nil_iff_forall_not_mem.2 fun (key, n) hmem => ?_
    obtain ⟨hcount, hpos⟩ := (h.mem_iff key n).1 hmem
    rw [hzero key] at hcount
    omega
  rw [hnil, List.take_nil]

theorem ranksBefore_iff : ranksBefore a b = true ↔ b.2 < a.2 ∨ a.2 = b.2 ∧ a.1 ≤ b.1 := by
  simp [ranksBefore]

theorem ranksBefore_trans (a b c : String × Nat) (h : ranksBefore a b = true)
    (h' : ranksBefore b c = true) : ranksBefore a c = true := by
  rw [ranksBefore_iff] at h h' ⊢
  obtain h | ⟨h, hkey⟩ := h
  · exact .inl (by omega)
  · obtain h' | ⟨h', hkey'⟩ := h'
    · exact .inl (by omega)
    · exact .inr ⟨h.trans h', String.le_trans hkey hkey'⟩

theorem ranksBefore_total (a b : String × Nat) : (ranksBefore a b || ranksBefore b a) = true := by
  rw [Bool.or_eq_true, ranksBefore_iff, ranksBefore_iff]
  obtain h | h | h := Nat.lt_trichotomy a.2 b.2
  · exact .inr (.inl h)
  · exact (String.le_total a.1 b.1).imp (fun hkey => .inr ⟨h, hkey⟩) fun hkey => .inr ⟨h.symm, hkey⟩
  · exact .inl (.inl h)

/-- A table of counts in the order of the summary is a ranking. -/
theorem Lists.isRanking {counts : SortedMap Nat} (h : Lists counts count) :
    IsRanking count (counts.entries.mergeSort ranksBefore) where
  mem_iff key n := by
    rw [List.mem_mergeSort, ← SortedMap.find?_eq_some_iff, h.find?_eq_some_iff]
  ordered := by
    have hsorted : (counts.entries.mergeSort ranksBefore).Pairwise
        fun a b => ranksBefore a b = true :=
      List.pairwise_mergeSort ranksBefore_trans ranksBefore_total counts.entries
    have hentries : counts.entries.Pairwise fun a b => a.1 ≠ b.1 :=
      counts.sorted.imp String.ne_of_lt
    have hkeys : (counts.entries.mergeSort ranksBefore).Pairwise fun a b => a.1 ≠ b.1 :=
      (List.mergeSort_perm _ _).symm.pairwise hentries Ne.symm
    -- No key comes twice, so of two keys with the same count one is strictly the first.
    refine hsorted.imp₂ (fun a b hab hne => ?_) hkeys
    refine (ranksBefore_iff.1 hab).imp_right fun ⟨hcount, hle⟩ => ⟨hcount, ?_⟩
    exact String.not_le.1 fun hge => hne (String.le_antisymm hle hge)

end Statistics

namespace Ledger

open Statistics

/-! ## Lines under a heading -/

/-- The lines from the heading on, up to an empty one. -/
def linesUnder (heading : String) (lines : List String) : List String :=
  (lines.dropWhile (· ≠ heading)).tail.takeWhile (· ≠ "")

theorem linesUnder_eq {heading : String} {front block back : List String} (hfront : heading ∉ front)
    (hblock : "" ∉ block) (hback : ∀ line ∈ back.head?, line = "") :
    linesUnder heading (front ++ heading :: (block ++ back)) = block := by
  have hdropped : (front ++ heading :: (block ++ back)).dropWhile (· ≠ heading) =
      heading :: (block ++ back) := by
    rw [List.dropWhile_append_of_pos fun line hline => by
      simpa using ne_of_mem_of_not_mem hline hfront]
    exact List.dropWhile_cons_of_neg (by simp)
  have hstop : back.takeWhile (· ≠ "") = [] := by
    cases back with
    | nil => rfl
    | cons line back => exact List.takeWhile_cons_of_neg (by simp [hback line rfl])
  rw [linesUnder, hdropped, List.tail_cons, List.takeWhile_append_of_pos fun line hline => by
    simpa using ne_of_mem_of_not_mem hline hblock, hstop, List.append_nil]

theorem linesUnder_of_not_mem {heading : String} {lines : List String} (h : heading ∉ lines) :
    linesUnder heading lines = [] := by
  have hdropped : lines.dropWhile (· ≠ heading) = [] :=
    List.dropWhile_eq_nil_iff.2 fun line hline => by simpa using ne_of_mem_of_not_mem hline h
  rw [linesUnder, hdropped]
  rfl

/-- The line of a ranking for the key with this rank. -/
def rankLine (rank : Nat) (key : String) (count : Nat) : String :=
  "  " ++ toString rank ++ ". " ++ key ++ ": " ++ toString count

theorem rankLines_eq (n : Nat) (ranking : List (String × Nat)) : rankLines n ranking =
    (ranking.zipIdx n).map fun ((key, count), rank) => rankLine rank key count := by
  induction ranking generalizing n with
  | nil => rfl
  | cons entry ranking ih =>
    rw [rankLines, ih, List.zipIdx_cons, List.map_cons]
    rfl

/-- No line of a ranking is empty or a heading. -/
theorem not_mem_rankLines {line : String} (h : line.toList.head? ≠ some ' ') (n : Nat)
    (ranking : List (String × Nat)) : line ∉ rankLines n ranking := by
  rw [rankLines_eq]
  intro hmem
  obtain ⟨⟨⟨key, count⟩, rank⟩, -, rfl⟩ := List.mem_map.1 hmem
  exact h (by simp [rankLine])

/-! ## The summary -/

variable {l : Ledger}

theorem errorsOf_eq_codeCount (reports : List Report) :
    errorsOf reports = codeCount (reports.flatMap Report.findings) := by
  funext code
  simp only [errorsOf, codeCount, List.countP_flatMap, Function.comp_def]

/-- The errors of the report on the file, of which there are none if there is no report. -/
def totalOf (l : Ledger) (file : String) : Nat := ((l.report? file).map Report.total).getD 0

/-- The codes by the errors in all reports. -/
theorem IsSound.isRanking_byCode (h : l.IsSound) :
    IsRanking (codeCount (l.allReports.flatMap Report.findings))
      (l.statistics.byCode.entries.mergeSort ranksBefore) := by
  rw [← errorsOf_eq_codeCount]
  exact h.recounts.byCode.isRanking

/-- The files by the errors in their reports. -/
theorem IsSound.isRanking_byFile (h : l.IsSound) :
    IsRanking l.totalOf (l.statistics.byFile.entries.mergeSort ranksBefore) :=
  (h.recounts.byFile.congr h.errorsIn_allReports).isRanking

/-- There is an error somewhere. -/
def HasErrors (l : Ledger) : Prop := ∃ file r, l.report? file = some r ∧ 0 < r.total

theorem not_hasErrors_iff : ¬l.HasErrors ↔ ∀ r ∈ l.allReports, r.total = 0 := by
  simp only [HasErrors, allReports, SortedMap.mem_values_iff, not_exists, not_and, Nat.not_lt,
    Nat.le_zero, forall_exists_index]
  exact forall_comm

theorem IsSound.hasErrors_iff (h : l.IsSound) : l.HasErrors ↔ l.statistics.errors ≠ 0 := by
  rw [← not_iff_not, not_hasErrors_iff, ne_eq, not_not, h.recounts.errors,
    List.sum_eq_zero_iff_forall_eq_nat, List.forall_mem_map]

theorem codeCount_of_not_hasErrors (h : ¬l.HasErrors) (code : String) :
    codeCount (l.allReports.flatMap Report.findings) code = 0 := by
  have hnone : l.allReports.flatMap Report.findings = [] := by
    refine List.flatMap_eq_nil_iff.2 fun r hr => List.length_eq_zero_iff.1 ?_
    rw [Report.findings, Errors.length_findings]
    exact not_hasErrors_iff.1 h r hr
  rw [hnone]
  rfl

theorem totalOf_of_not_hasErrors (h : ¬l.HasErrors) (file : String) : l.totalOf file = 0 := by
  rw [totalOf]
  cases hr : l.report? file with
  | none => rfl
  | some r => exact Nat.eq_zero_of_not_pos fun hpos => h ⟨file, r, hr, hpos⟩

theorem length_recommendations (l : Ledger) :
    2 ≤ l.recommendations.length ∧ l.recommendations.length ≤ 4 := by
  simp only [recommendations, List.length_append, List.length_singleton]
  split <;> split <;> simp

theorem summary_eq_closeLines (l : Ledger) :
    l.summary = closeLines (l.summaryLines.map String.toList) := by
  refine String.toList_injective ?_
  simp [summary, closeLines, String.toList_join, List.flatMap_map]

/-- The lines of the summary above everything else. -/
def openingLines (l : Ledger) : List String :=
  let s := l.statistics
  ["Error Summary", "=============", "Files analyzed: " ++ toString s.files,
   "Total errors: " ++ toString s.errors ++ " (" ++ toString s.lexical ++ " lexical, " ++
     toString s.syntactic ++ " syntax)", ""]

/-- The recommendations under their heading. -/
def adviceLines (l : Ledger) : List String :=
  "Recommendations:" :: l.recommendations.map ("  - " ++ ·)

theorem summaryLines_of_no_errors (h : l.statistics.errors = 0) :
    l.summaryLines = l.openingLines ++ "No errors found." :: "" :: l.adviceLines := by
  simp [summaryLines, openingLines, adviceLines, h]

theorem summaryLines_of_errors (h : l.statistics.errors ≠ 0) :
    l.summaryLines = l.openingLines ++ "Top error codes:" ::
      (rankLines 1 (topFive l.statistics.byCode) ++ "" :: "Files with the most errors:" ::
        (rankLines 1 (topFive l.statistics.byFile) ++ "" :: l.adviceLines)) := by
  simp [summaryLines, openingLines, adviceLines, h]

theorem not_mem_openingLines (l : Ledger) : "Top error codes:" ∉ l.openingLines ∧
    "Files with the most errors:" ∉ l.openingLines ∧ "Recommendations:" ∉ l.openingLines := by
  simp [openingLines, ← String.toList_inj]

theorem not_mem_adviceLines (l : Ledger) : "Top error codes:" ∉ l.adviceLines ∧
    "Files with the most errors:" ∉ l.adviceLines := by
  simp [adviceLines, ← String.toList_inj]

theorem mem_summaryLines_iff : ("Top error codes:" ∈ l.summaryLines ↔ l.statistics.errors ≠ 0) ∧
    ("Files with the most errors:" ∈ l.summaryLines ↔ l.statistics.errors ≠ 0) := by
  by_cases h : l.statistics.errors = 0
  · rw [summaryLines_of_no_errors h]
    simp only [List.mem_append, List.mem_cons, h, ne_eq, not_true_eq_false, iff_false, not_or]
    exact ⟨⟨(not_mem_openingLines l).1, by decide, by decide, (not_mem_adviceLines l).1⟩,
      (not_mem_openingLines l).2.1, by decide, by decide, (not_mem_adviceLines l).2⟩
  · rw [summaryLines_of_errors h]
    simp [h]

theorem linesUnder_codes (hzero : l.statistics.errors = 0 → topFive l.statistics.byCode = []) :
    linesUnder "Top error codes:" l.summaryLines =
      rankLines 1 (topFive l.statistics.byCode) := by
  by_cases h : l.statistics.errors = 0
  · rw [linesUnder_of_not_mem (mt mem_summaryLines_iff.1.1 (not_not.2 h)), hzero h]
    rfl
  · rw [summaryLines_of_errors h]
    exact linesUnder_eq (not_mem_openingLines l).1 (not_mem_rankLines (by decide) 1 _) (by simp)

theorem linesUnder_files (hzero : l.statistics.errors = 0 → topFive l.statistics.byFile = []) :
    linesUnder "Files with the most errors:" l.summaryLines =
      rankLines 1 (topFive l.statistics.byFile) := by
  by_cases h : l.statistics.errors = 0
  · rw [linesUnder_of_not_mem (mt mem_summaryLines_iff.2.1 (not_not.2 h)), hzero h]
    rfl
  · have hlines : l.summaryLines = (l.openingLines ++ "Top error codes:" ::
        (rankLines 1 (topFive l.statistics.byCode) ++ [""])) ++ "Files with the most errors:" ::
          (rankLines 1 (topFive l.statistics.byFile) ++ "" :: l.adviceLines) := by
      rw [summaryLines_of_errors h]
      simp
    rw [hlines]
    refine linesUnder_eq ?_ (not_mem_rankLines (by decide) 1 _) (by simp)
    simp only [List.mem_append, List.mem_cons, not_or]
    exact ⟨(not_mem_openingLines l).2.1, by decide, not_mem_rankLines (by decide) 1 _, by decide,
      List.not_mem_nil⟩

theorem linesUnder_recommendations (l : Ledger) :
    linesUnder "Recommendations:" l.summaryLines = l.recommendations.map ("  - " ++ ·) := by
  have hfront : ∃ front, l.summaryLines = front ++ l.adviceLines ∧ "Recommendations:" ∉ front := by
    by_cases h : l.statistics.errors = 0
    · refine ⟨l.openingLines ++ ["No errors found.", ""], by simp [summaryLines_of_no_errors h], ?_⟩
      simp only [List.mem_append, not_or]
      exact ⟨(not_mem_openingLines l).2.2, by decide⟩
    · refine ⟨l.openingLines ++ "Top error codes:" ::
        (rankLines 1 (topFive l.statistics.byCode) ++ "" :: "Files with the most errors:" ::
          (rankLines 1 (topFive l.statistics.byFile) ++ [""])),
        by simp [summaryLines_of_errors h], ?_⟩
      simp only [List.mem_append, List.mem_cons, not_or]
      exact ⟨(not_mem_openingLines l).2.2, by decide, not_mem_rankLines (by decide) 1 _, by decide,
        by decide, not_mem_rankLines (by decide) 1 _, by decide, List.not_mem_nil⟩
  obtain ⟨front, hlines, hfront⟩ := hfront
  have hnonempty : "" ∉ l.recommendations.map ("  - " ++ ·) := by simp
  have hunder : linesUnder "Recommendations:" (front ++ "Recommendations:" ::
      (l.recommendations.map ("  - " ++ ·) ++ [])) = l.recommendations.map ("  - " ++ ·) :=
    linesUnder_eq hfront hnonempty (by simp)
  rw [List.append_nil] at hunder
  rw [hlines]
  exact hunder

/-- After any changes the summary shows the first five codes and the first five files of the
    rankings by the errors in the reports that are left, under headings that stand there exactly if
    there is any error, and two to four recommendations. -/
theorem summary_run (settings : Settings) (changes : List LedgerChange) :
    let l := (ofSettings settings).run changes
    l.summary = closeLines (l.summaryLines.map String.toList) ∧
    (∃! codes, IsRanking (codeCount (l.allReports.flatMap Report.findings)) codes ∧
      linesUnder "Top error codes:" l.summaryLines = rankLines 1 (codes.take 5)) ∧
    (∃! files, IsRanking l.totalOf files ∧
      linesUnder "Files with the most errors:" l.summaryLines = rankLines 1 (files.take 5)) ∧
    ("Top error codes:" ∈ l.summaryLines ↔ l.HasErrors) ∧
    ("Files with the most errors:" ∈ l.summaryLines ↔ l.HasErrors) ∧
    linesUnder "Recommendations:" l.summaryLines = l.recommendations.map ("  - " ++ ·) ∧
    2 ≤ l.recommendations.length ∧ l.recommendations.length ≤ 4 := by
  intro l
  have h : l.IsSound := (isSound_ofSettings settings).run changes
  -- Without errors there are no headings, but then nothing is ranked either.
  have hcodes : linesUnder "Top error codes:" l.summaryLines =
      rankLines 1 (topFive l.statistics.byCode) :=
    linesUnder_codes fun hzero => h.isRanking_byCode.take_eq_nil
      (codeCount_of_not_hasErrors (mt h.hasErrors_iff.1 (not_not.2 hzero)))
  have hfiles : linesUnder "Files with the most errors:" l.summaryLines =
      rankLines 1 (topFive l.statistics.byFile) :=
    linesUnder_files fun hzero => h.isRanking_byFile.take_eq_nil
      (totalOf_of_not_hasErrors (mt h.hasErrors_iff.1 (not_not.2 hzero)))
  exact ⟨summary_eq_closeLines l,
    ⟨_, ⟨h.isRanking_byCode, hcodes⟩, fun _ hranking => hranking.1.unique h.isRanking_byCode⟩,
    ⟨_, ⟨h.isRanking_byFile, hfiles⟩, fun _ hranking => hranking.1.unique h.isRanking_byFile⟩,
    mem_summaryLines_iff.1.trans h.hasErrors_iff.symm,
    mem_summaryLines_iff.2.trans h.hasErrors_iff.symm, linesUnder_recommendations l,
    length_recommendations l⟩

end Ledger

end SunLint
