import Mathlib.Algebra.GroupWithZero.Nat
import SunLint.Ledger.Basic

/-!
# Statistics are a recount

The statistics of a ledger are kept up to date by adding and subtracting reports.
They always agree with counting the live reports anew (`Statistics.Recounts`):

* adding a report to statistics that recount a list makes them recount the list
  with the report (`Recounts.add`), and subtracting undoes it (`Recounts.subtract`);
* a ledger has one report for each file, so replacing and erasing reports is
  adding and subtracting them (`IsSound.put`, `IsSound.erase`);
* `statistics_run`: after any changes the statistics are a recount, no subtraction
  goes below zero, and only the reports that are left matter.
-/

namespace SunLint

/-! ## Tables as lists of entries -/

namespace SortedMap

variable {α : Type} {m : SortedMap α} {key : String} {value : α}

theorem nodup_entries (m : SortedMap α) : m.entries.Nodup := by
  refine m.sorted.imp fun hlt heq => ?_
  rw [heq] at hlt
  exact String.lt_irrefl _ hlt

theorem erase_eq_self (h : m.find? key = none) : m.erase key = m := by
  refine SortedMap.ext fun k => ?_
  by_cases hk : k = key
  · rw [find?_erase, if_pos hk, hk, h]
  · rw [find?_erase, if_neg hk]

/-- An entry is put in among the others. -/
theorem perm_insert (m : SortedMap α) (key : String) (value : α) :
    (m.insert key value).values.Perm (value :: (m.erase key).values) := by
  -- Neither side has an entry twice, so it is enough that they have the same ones.
  have hnew : (key, value) ∉ (m.erase key).entries := fun hmem => by
    have := find?_eq_some_iff.2 hmem
    simp at this
  refine List.Perm.map Prod.snd ((List.perm_ext_iff_of_nodup (nodup_entries _)
    (List.nodup_cons.2 ⟨hnew, nodup_entries _⟩)).2 fun (k, v) => ?_)
  rw [List.mem_cons, ← find?_eq_some_iff, ← find?_eq_some_iff, find?_insert, find?_erase,
    Prod.mk.injEq]
  by_cases hk : k = key
  · simp [hk, eq_comm]
  · simp [hk]

/-- An entry that is in the table stands among the others. -/
theorem perm_erase (h : m.find? key = some value) :
    m.values.Perm (value :: (m.erase key).values) := by
  have hself : m.insert key value = m := SortedMap.ext fun k => by
    by_cases hk : k = key
    · rw [find?_insert, if_pos hk, hk, h]
    · rw [find?_insert, if_neg hk]
  simpa only [hself] using perm_insert m key value

theorem mem_values_iff : value ∈ m.values ↔ ∃ key, m.find? key = some value := by
  simp only [values, List.mem_map, find?_eq_some_iff, Prod.exists, exists_eq_right]

end SortedMap

/-! ## Counts -/

namespace Statistics

/-- The table gives `n key` for each key and has no entry for those of which there
    are none. -/
def Lists (counts : SortedMap Nat) (n : String → Nat) : Prop :=
  ∀ key, counts.find? key = if n key = 0 then none else some (n key)

variable {counts : SortedMap Nat} {n : String → Nat}

theorem Lists.congr {n' : String → Nat} (h : Lists counts n) (hn : ∀ key, n key = n' key) :
    Lists counts n' := fun key => hn key ▸ h key

theorem Lists.getD_find? (h : Lists counts n) (key : String) :
    (counts.find? key).getD 0 = n key := by
  rw [h key]
  split <;> simp_all

theorem Lists.find?_eq_some_iff (h : Lists counts n) {key : String} {k : Nat} :
    counts.find? key = some k ↔ n key = k ∧ 0 < k := by
  rw [h key]
  split <;> simp <;> omega

/-- Two tables of the same counts are the same. -/
theorem Lists.unique {counts' : SortedMap Nat} (h : Lists counts n) (h' : Lists counts' n) :
    counts = counts' :=
  SortedMap.ext fun key => (h key).trans (h' key).symm

theorem Lists.increase (h : Lists counts n) (key : String) {k : Nat} (hk : 0 < k) :
    Lists (increase counts key k) fun x => n x + if x = key then k else 0 := by
  intro x
  rw [Statistics.increase, SortedMap.find?_insert, h.getD_find?]
  by_cases hx : x = key
  · simp [hx, Nat.pos_iff_ne_zero.1 hk]
  · simp [hx, h x]

theorem Lists.decrease (h : Lists counts n) (key : String) (k : Nat) :
    Lists (decrease counts key k) fun x => n x - if x = key then k else 0 := by
  intro x
  rw [Statistics.decrease, h key]
  by_cases hx : x = key
  · subst hx
    by_cases hn : n x = 0
    · simp [hn, h x]
    · by_cases hk : n x - k = 0 <;> simp [hn, hk]
  · by_cases hn : n key = 0
    · simp [hn, hx, h x]
    · by_cases hk : n key - k = 0 <;> simp [hn, hk, hx, h x]

/-- How many of the findings have a code of that name. -/
def codeCount (findings : List Finding) (key : String) : Nat :=
  findings.countP (·.code.name = key)

theorem codeCount_cons (f : Finding) (findings : List Finding) (key : String) :
    codeCount (f :: findings) key =
      codeCount findings key + if key = f.code.name then 1 else 0 := by
  simp [codeCount, List.countP_cons, eq_comm]

theorem Lists.foldl_increase (h : Lists counts n) (findings : List Finding) :
    Lists (findings.foldl (fun counts f => Statistics.increase counts f.code.name 1) counts)
      fun key => n key + codeCount findings key := by
  induction findings generalizing counts n with
  | nil => exact h
  | cons f findings ih =>
    refine (ih (h.increase f.code.name Nat.one_pos)).congr fun key => ?_
    rw [codeCount_cons]
    omega

theorem Lists.foldl_decrease (h : Lists counts n) (findings : List Finding) :
    Lists (findings.foldl (fun counts f => Statistics.decrease counts f.code.name 1) counts)
      fun key => n key - codeCount findings key := by
  induction findings generalizing counts n with
  | nil => exact h
  | cons f findings ih =>
    refine (ih (h.decrease f.code.name 1)).congr fun key => ?_
    rw [codeCount_cons]
    omega

/-! ## Recounting reports -/

/-- How many errors of that code there are. -/
def errorsOf (reports : List Report) (code : String) : Nat :=
  (reports.map fun r => codeCount r.findings code).sum

/-- How many errors there are in the file. -/
def errorsIn (reports : List Report) (file : String) : Nat :=
  (reports.map fun r => if file = r.file then r.total else 0).sum

/-- The statistics are what one gets by counting the reports anew. -/
structure Recounts (s : Statistics) (reports : List Report) : Prop where
  files : s.files = reports.length
  errors : s.errors = (reports.map Report.total).sum
  lexical : s.lexical = (reports.map Report.lexicalCount).sum
  syntactic : s.syntactic = (reports.map Report.syntacticCount).sum
  byCode : Lists s.byCode (errorsOf reports)
  byFile : Lists s.byFile (errorsIn reports)

variable {s s' : Statistics} {r : Report} {reports reports' : List Report}

theorem errorsOf_cons (r : Report) (reports : List Report) (code : String) :
    errorsOf (r :: reports) code = errorsOf reports code + codeCount r.findings code := by
  rw [errorsOf, List.map_cons, List.sum_cons, Nat.add_comm, errorsOf]

theorem errorsIn_cons (r : Report) (reports : List Report) (file : String) :
    errorsIn (r :: reports) file =
      errorsIn reports file + if file = r.file then r.total else 0 := by
  rw [errorsIn, List.map_cons, List.sum_cons, Nat.add_comm, errorsIn]

theorem errorsIn_eq_zero {file : String} (h : ∀ r ∈ reports, r.file ≠ file) :
    errorsIn reports file = 0 := by
  induction reports with
  | nil => rfl
  | cons r reports ih =>
    rw [errorsIn_cons, ih fun r' hr' => h r' (List.mem_cons_of_mem _ hr'),
      if_neg (h r List.mem_cons_self).symm]

/-- Nothing is counted where there is nothing. -/
theorem recounts_empty : Recounts {} [] where
  files := rfl
  errors := rfl
  lexical := rfl
  syntactic := rfl
  byCode := fun _ => rfl
  byFile := fun _ => rfl

/-- All that is counted of a report: its file and its errors. -/
def digest (r : Report) : String × Errors := (r.file, r.errors)

/-- Neither the order of the reports matters, nor anything but their files and
    errors. -/
theorem Recounts.perm (h : Recounts s reports)
    (hp : (reports.map digest).Perm (reports'.map digest)) : Recounts s reports' := by
  -- Every number is the sum of a function of the digests.
  have hsum (g : String × Errors → Nat) :
      (reports.map fun r => g (digest r)).sum = (reports'.map fun r => g (digest r)).sum := by
    have := (hp.map g).sum_nat
    rwa [List.map_map, List.map_map] at this
  refine ⟨by simpa [h.files] using hp.length_eq, h.errors.trans (hsum (·.2.total)),
    h.lexical.trans (hsum (·.2.lexical.length)), h.syntactic.trans (hsum (·.2.syntactic.length)),
    h.byCode.congr fun code => hsum fun d => codeCount d.2.findings code,
    h.byFile.congr fun file => hsum fun d => if file = d.1 then d.2.total else 0⟩

/-- The statistics are determined by the reports. -/
theorem Recounts.unique (h : Recounts s reports) (h' : Recounts s' reports) : s = s' := by
  have hcode := h.byCode.unique h'.byCode
  have hfile := h.byFile.unique h'.byFile
  cases s
  cases s'
  simp only [mk.injEq]
  exact ⟨h.files.trans h'.files.symm, h.errors.trans h'.errors.symm,
    h.lexical.trans h'.lexical.symm, h.syntactic.trans h'.syntactic.symm, hcode, hfile⟩

theorem Recounts.add (h : Recounts s reports) (r : Report) : Recounts (s.add r) (r :: reports) where
  files := by simp [Statistics.add, h.files]
  errors := by simp [Statistics.add, h.errors, Nat.add_comm]
  lexical := by simp [Statistics.add, h.lexical, Nat.add_comm]
  syntactic := by simp [Statistics.add, h.syntactic, Nat.add_comm]
  byCode := (h.byCode.foldl_increase r.findings).congr fun key =>
    (errorsOf_cons r reports key).symm
  byFile := by
    rw [Statistics.add]
    by_cases ht : r.total = 0
    · simp only [ht, if_true]
      refine h.byFile.congr fun key => ?_
      simp [errorsIn_cons, ht]
    · simp only [ht, if_false]
      exact (h.byFile.increase r.file (Nat.pos_of_ne_zero ht)).congr fun key =>
        (errorsIn_cons r reports key).symm

/-- Subtracting a report undoes adding it. -/
theorem Recounts.subtract (h : Recounts s (r :: reports)) : Recounts (s.subtract r) reports where
  files := by simp [Statistics.subtract, h.files]
  errors := by simp [Statistics.subtract, h.errors]
  lexical := by simp [Statistics.subtract, h.lexical]
  syntactic := by simp [Statistics.subtract, h.syntactic]
  byCode := (h.byCode.foldl_decrease r.findings).congr fun key => by
    rw [errorsOf_cons, Nat.add_sub_cancel]
  byFile := (h.byFile.decrease r.file r.total).congr fun key => by
    rw [errorsIn_cons, Nat.add_sub_cancel]

/-- The statistics counted anew, report by report. -/
def recount (reports : List Report) : Statistics := reports.foldl add {}

theorem recounts_recount (reports : List Report) : Recounts (recount reports) reports := by
  -- The fold has counted the reports that are done, the last one first.
  suffices h : ∀ {s done}, Recounts s done →
      Recounts (reports.foldl Statistics.add s) (reports.reverse ++ done) by
    exact (h recounts_empty).perm (by simp)
  induction reports with
  | nil => exact fun h => h
  | cons r reports ih =>
    intro s done h
    simpa using ih (h.add r)

/-- What is subtracted with the report has been counted: no number falls below zero,
    and every entry that is to be lowered is there. -/
structure Covers (s : Statistics) (r : Report) : Prop where
  files : 1 ≤ s.files
  errors : r.total ≤ s.errors
  lexical : r.lexicalCount ≤ s.lexical
  syntactic : r.syntacticCount ≤ s.syntactic
  /-- One finding after the other is taken away. -/
  byCode : ∀ before f after, r.findings = before ++ f :: after → ∃ n,
    (before.foldl (fun counts f => decrease counts f.code.name 1) s.byCode).find? f.code.name =
      some n ∧ 1 ≤ n
  byFile : r.total ≤ (s.byFile.find? r.file).getD 0

theorem Recounts.covers (h : Recounts s (r :: reports)) : Covers s r where
  files := by simp [h.files]
  errors := by simp [h.errors]
  lexical := by simp [h.lexical]
  syntactic := by simp [h.syntactic]
  byCode before f after hf := by
    -- The findings before `f` do not use up the count of its code, as `f` has it too.
    have hlt : codeCount before f.code.name < errorsOf (r :: reports) f.code.name := by
      rw [errorsOf_cons, hf]
      simp only [codeCount, List.countP_append, List.countP_cons, decide_true, if_true]
      omega
    exact ⟨_, (h.byCode.foldl_decrease before).find?_eq_some_iff.2 ⟨rfl, Nat.sub_pos_of_lt hlt⟩,
      Nat.sub_pos_of_lt hlt⟩
  byFile := by
    rw [h.byFile.getD_find?, errorsIn_cons, if_pos rfl]
    exact Nat.le_add_left _ _

end Statistics

/-! ## Ledgers -/

namespace Ledger

open Statistics

/-- The ledger after the changes, one after the other. -/
def run (l : Ledger) (changes : List LedgerChange) : Ledger := changes.foldl Ledger.apply l

/-- What becomes of the errors that are known of the file. -/
def survive (file : String) (known : Option Errors) : LedgerChange → Option Errors
  | .add _ added _ errors => if file = added then some errors else known
  | .erase erased => if file = erased then none else known
  | .clear => none

/-- The errors that are known of the file after the changes: those that were added
    last, unless they have been erased or cleared since. -/
def surviving (changes : List LedgerChange) (file : String) : Option Errors :=
  changes.foldl (survive file) none

/-- The invariant of a ledger: every report stands under its file, and the
    statistics recount the reports. -/
structure IsSound (l : Ledger) : Prop where
  file_eq : ∀ file r, l.report? file = some r → r.file = file
  recounts : l.statistics.Recounts l.allReports

variable {l : Ledger}

theorem isSound_ofSettings (settings : Settings) : (ofSettings settings).IsSound where
  file_eq _ _ h := by cases h
  recounts := recounts_empty

@[simp]
theorem report?_erase (l : Ledger) (file key : String) :
    (l.erase file).report? key = if key = file then none else l.report? key := by
  rw [Ledger.erase]
  cases h : l.report? file with
  | none =>
    by_cases hk : key = file
    · simp [hk, h]
    · simp [hk]
  | some old => exact SortedMap.find?_erase ..

@[simp]
theorem report?_put (l : Ledger) (r : Report) (key : String) :
    (l.put r).report? key = if key = r.file then some r else l.report? key := by
  have h : (l.put r).report? key = if key = r.file then some r else (l.erase r.file).report? key :=
    SortedMap.find?_insert ..
  rw [h, report?_erase]
  split <;> rfl

theorem errors_report?_apply (l : Ledger) (change : LedgerChange) (file : String) :
    ((l.apply change).report? file).map (·.errors) =
      survive file ((l.report? file).map (·.errors)) change := by
  cases change with
  | add time added source errors =>
    have hfile : (Report.make l.sourceName time added source errors).file = added := rfl
    rw [Ledger.apply, Ledger.add, report?_put, survive, hfile]
    split <;> rfl
  | erase erased =>
    rw [Ledger.apply, report?_erase, survive]
    split <;> rfl
  | clear => rfl

/-- What is left in a ledger is what survives the changes. -/
theorem errors_report?_run (settings : Settings) (changes : List LedgerChange) (file : String) :
    (((ofSettings settings).run changes).report? file).map (·.errors) = surviving changes file := by
  suffices h : ∀ l : Ledger, ((l.run changes).report? file).map (·.errors) =
      changes.foldl (survive file) ((l.report? file).map (·.errors)) from h _
  induction changes with
  | nil => exact fun _ => rfl
  | cons change changes ih =>
    intro l
    rw [List.foldl_cons, ← errors_report?_apply]
    exact ih (l.apply change)

/-! ### The invariant -/

/-- A report that is in a sound ledger has been counted. -/
theorem IsSound.recounts_cons (h : l.IsSound) {file : String} {old : Report}
    (hold : l.report? file = some old) :
    l.statistics.Recounts (old :: (l.reports.erase file).values) :=
  h.recounts.perm ((SortedMap.perm_erase hold).map _)

theorem IsSound.erase (h : l.IsSound) (file : String) : (l.erase file).IsSound where
  file_eq key r hr := by
    rw [report?_erase] at hr
    split at hr
    · cases hr
    · exact h.file_eq key r hr
  recounts := by
    rw [Ledger.erase]
    cases hold : l.report? file with
    | none => exact h.recounts
    | some old => exact (h.recounts_cons hold).subtract

theorem IsSound.put (h : l.IsSound) (r : Report) : (l.put r).IsSound where
  file_eq key r' hr := by
    rw [report?_put] at hr
    split at hr
    · cases hr
      exact Eq.symm ‹_›
    · exact h.file_eq key r' hr
  recounts := by
    -- The former report has been erased, so the new one is put among all others.
    have hnone : (l.erase r.file).reports.find? r.file = none :=
      (report?_erase l r.file r.file).trans (if_pos rfl)
    have hperm := SortedMap.perm_insert (l.erase r.file).reports r.file r
    rw [SortedMap.erase_eq_self hnone] at hperm
    exact ((h.erase r.file).recounts.add r).perm (hperm.symm.map _)

theorem IsSound.apply (h : l.IsSound) (change : LedgerChange) : (l.apply change).IsSound := by
  cases change with
  | add time file source errors => exact h.put _
  | erase file => exact h.erase file
  | clear => exact ⟨fun _ _ hr => (by cases hr), recounts_empty⟩

theorem IsSound.run (h : l.IsSound) (changes : List LedgerChange) : (l.run changes).IsSound := by
  induction changes generalizing l with
  | nil => exact h
  | cons change changes ih => exact ih (h.apply change)

/-- No other report counts for a file than the one that stands under it. -/
theorem IsSound.errorsIn_allReports (h : l.IsSound) (file : String) :
    errorsIn l.allReports file = ((l.report? file).map Report.total).getD 0 := by
  -- The other reports stand under other files, and are about these.
  have hothers : errorsIn (l.reports.erase file).values file = 0 := by
    refine errorsIn_eq_zero fun r hr => ?_
    obtain ⟨key, hkey⟩ := SortedMap.mem_values_iff.1 hr
    rw [SortedMap.find?_erase] at hkey
    split at hkey
    · cases hkey
    · rw [h.file_eq key r hkey]
      assumption
  cases hr : l.report? file with
  | none => rwa [SortedMap.erase_eq_self hr] at hothers
  | some r =>
    have hsum := ((SortedMap.perm_erase hr).map fun r =>
      if file = r.file then r.total else 0).sum_nat
    rw [errorsIn, allReports, hsum, List.map_cons, List.sum_cons,
      if_pos (h.file_eq file r hr).symm]
    exact congrArg (r.total + ·) hothers

theorem IsSound.mem_digests (h : l.IsSound) {file : String} {errors : Errors} :
    (file, errors) ∈ l.allReports.map digest ↔
      (l.report? file).map (·.errors) = some errors := by
  simp only [List.mem_map, allReports, SortedMap.mem_values_iff, digest, Prod.mk.injEq,
    Option.map_eq_some_iff]
  constructor
  · rintro ⟨r, ⟨key, hkey⟩, rfl, rfl⟩
    exact ⟨r, h.file_eq key r hkey ▸ hkey, rfl⟩
  · rintro ⟨r, hr, rfl⟩
    exact ⟨r, ⟨file, hr⟩, h.file_eq file r hr, rfl⟩

theorem IsSound.nodup_digests (h : l.IsSound) : (l.allReports.map digest).Nodup := by
  rw [allReports, SortedMap.values, List.map_map]
  refine List.pairwise_map.2 (l.reports.sorted.imp_of_mem fun {a b} ha hb hlt heq => ?_)
  have hfile : a.1 = b.1 := by
    rw [← h.file_eq a.1 a.2 (SortedMap.find?_eq_some_iff.2 ha),
      ← h.file_eq b.1 b.2 (SortedMap.find?_eq_some_iff.2 hb)]
    exact congrArg Prod.fst heq
  exact String.lt_irrefl _ (hfile ▸ hlt)

/-- Ledgers with the same errors in each file have the same statistics. -/
theorem IsSound.statistics_eq {l' : Ledger} (h : l.IsSound) (h' : l'.IsSound)
    (he : ∀ file, (l.report? file).map (·.errors) = (l'.report? file).map (·.errors)) :
    l.statistics = l'.statistics := by
  have hperm : (l.allReports.map digest).Perm (l'.allReports.map digest) :=
    (List.perm_ext_iff_of_nodup h.nodup_digests h'.nodup_digests).2 fun (file, errors) => by
      rw [h.mem_digests, h'.mem_digests, he]
  exact (h.recounts.perm hperm).unique h'.recounts

/-- Whatever is added, erased and cleared, the statistics are a recount of the
    reports that are left: every code is listed with the number of its errors and
    every file with its total, unless there are none. What an erasure takes away has
    been counted before, and the history does not show. -/
theorem statistics_run (settings : Settings) (changes : List LedgerChange) :
    let l := (ofSettings settings).run changes
    l.statistics = recount l.allReports ∧
    l.statistics.Recounts l.allReports ∧
    (∀ (code : ErrorCode) n, l.statistics.byCode.find? code.name = some n ↔
      (l.allReports.flatMap Report.findings).countP (·.code = code) = n ∧ 0 < n) ∧
    (∀ file n, l.statistics.byFile.find? file = some n ↔
      ∃ r, l.report? file = some r ∧ r.total = n ∧ 0 < n) ∧
    (∀ file old, l.report? file = some old → l.statistics.Covers old) ∧
    (∀ file, (l.report? file).map (·.errors) = surviving changes file) ∧
    ∀ settings' changes', (∀ file, surviving changes' file = surviving changes file) →
      ((ofSettings settings').run changes').statistics = l.statistics := by
  intro l
  have h : l.IsSound := (isSound_ofSettings settings).run changes
  refine ⟨h.recounts.unique (recounts_recount _), h.recounts, fun code n => ?_, fun file n => ?_,
    fun file old hold => (h.recounts_cons hold).covers, errors_report?_run settings changes,
    fun settings' changes' hsame => ?_⟩
  · rw [h.recounts.byCode.find?_eq_some_iff]
    simp only [errorsOf, codeCount, List.countP_flatMap, ErrorCode.name_inj, Function.comp_def]
  · rw [h.recounts.byFile.find?_eq_some_iff, h.errorsIn_allReports]
    cases hr : l.report? file with
    | none =>
      simp only [Option.map_none, Option.getD_none]
      exact iff_of_false (by omega) (by simp)
    | some r => simp
  · have h' := (isSound_ofSettings settings').run changes'
    refine h'.statistics_eq h fun file => ?_
    rw [errors_report?_run, hsame, ← errors_report?_run settings changes]

/-- A file that is added twice and one that is erased again leave no more behind than
    the last addition. -/
theorem statistics_run_of_detour :
    let e : LexicalError := ⟨"m", ⟨1, 1⟩, 1, .unexpectedCharacter, []⟩
    let detour : List LedgerChange :=
      [.add "t" "a" "x" ⟨[e], []⟩, .add "t" "b" "y" ⟨[e, e], []⟩, .add "u" "a" "z" ⟨[e, e], []⟩,
        .erase "b"]
    let direct : List LedgerChange := [.add "v" "a" "z" ⟨[e, e], []⟩]
    ((ofSettings {}).run detour).statistics = ((ofSettings {}).run direct).statistics ∧
      ((ofSettings {}).run direct).statistics.byCode.find? "UNEXPECTED_CHARACTER" = some 2 := by
  intro e detour direct
  have h := statistics_run {} direct
  refine ⟨h.2.2.2.2.2.2 {} detour fun file => ?_, (h.2.2.1 .unexpectedCharacter 2).2 (by decide)⟩
  simp only [surviving, survive, detour, direct, List.foldl_cons, List.foldl_nil]
  split <;> simp_all

end Ledger

end SunLint
