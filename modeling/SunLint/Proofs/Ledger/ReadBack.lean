import Mathlib.Data.List.Forall2
import SunLint.Ledger.Csv
import SunLint.Proofs.Ledger.Recount

/-!
# Exported tables can be read back

A reader of comma-separated values as RFC 4180 describes them: a field stands in quotes, where
commas and line ends may occur and a quote is written twice, or without quotes and then without
any of these characters. A line ends in a line feed, with or without a carriage return before it,
and the last line need not end.

The reader gets back what has been written, whatever the texts are:

* `stands_field`, `stands_self`: a text in quotes stands for itself, and so does one that needs no
  quotes;
* `foldlM_line`: a line of texts is read as the record of what they stand for;
* `read?_table`: a table is read as its header and its records;
* `readBack_run`: whatever has happened to a ledger, there is a record for each of its errors.
-/

namespace SunLint.Csv

/-! ## The reader -/

/-- Where a reader is in a field. -/
inductive Phase
  /-- Nothing of the field has been read. -/
  | start
  /-- The field stands without quotes. -/
  | plain
  /-- The quotes are open. -/
  | quoted
  /-- There was a quote within the quotes: they are closed, unless another one follows. -/
  | quote
  /-- The field is followed by a carriage return. -/
  | carriage
deriving DecidableEq, Repr

/-- What a reader knows: the characters of the field it is in, the fields before it in the same
    record, and the records before that one. -/
structure Reader where
  phase : Phase := .start
  field : List Char := []
  fields : List String := []
  rows : List (List String) := []
deriving DecidableEq, Repr

namespace Reader

variable (s : Reader)

/-- The record up to the field. -/
def record : List String := s.fields ++ [String.ofList s.field]

/-- The field is complete, and another one follows. -/
def nextField : Reader := { fields := s.record, rows := s.rows }

/-- The record is complete. -/
def nextRow : Reader := { rows := s.rows ++ [s.record] }

/-- The character belongs to the field. -/
def push (c : Char) : Reader := { s with field := s.field ++ [c] }

/-- The character ends the field. -/
def delimit? (c : Char) : Option Reader :=
  if c = ',' then some s.nextField
  else if c = '\n' then some s.nextRow
  else if c = '\r' then some { s with phase := .carriage }
  else none

/-- The next character is read. Within a field without quotes there is no quote, and nothing but
    the end of the field comes after its quotes. -/
def step (c : Char) : Option Reader :=
  match s.phase with
  | .start =>
    if c = '"' then some { s with phase := .quoted }
    else s.delimit? c <|> some { s.push c with phase := .plain }
  | .plain => if c = '"' then none else s.delimit? c <|> some (s.push c)
  | .quoted => if c = '"' then some { s with phase := .quote } else some (s.push c)
  | .quote => if c = '"' then some { s.push c with phase := .quoted } else s.delimit? c
  | .carriage => if c = '\n' then some s.nextRow else none

/-- The records when there are no more characters. -/
def finish? : Option (List (List String)) :=
  match s.phase with
  | .start => some (if s.fields = [] then s.rows else s.nextRow.rows)
  | .plain | .quote => some s.nextRow.rows
  | .quoted | .carriage => none

end Reader

/-- The records of a table. -/
def read? (text : String) : Option (List (List String)) := do
  (← text.toList.foldlM Reader.step {}).finish?

example : read? "a,\"b\"\"\r\n\"\r\n,c" = some [["a", "b\"\r\n"], ["", "c"]] := by decide +kernel

example : read? "a,b\"c\"\n" = none := by decide +kernel

/-! ## Fields -/

/-- The text stands for the contents: where a field begins, reading the text comes to a point where
    the field may end, and it has these contents then. -/
def Stands (text contents : String) : Prop :=
  ∀ fields rows, ∃ s, text.toList.foldlM Reader.step { fields, rows } = some s ∧
    s.step ',' = some { fields := fields ++ [contents], rows } ∧
    s.step '\n' = some { rows := rows ++ [fields ++ [contents]] }

/-- Between quotes, all is read that has been written with its quotes doubled. -/
theorem foldlM_doubleQuotes (cs before : List Char) (fields : List String)
    (rows : List (List String)) :
    (doubleQuotes cs).foldlM Reader.step ⟨.quoted, before, fields, rows⟩ =
      some ⟨.quoted, before ++ cs, fields, rows⟩ := by
  induction cs generalizing before with
  | nil => rw [List.append_nil]; rfl
  | cons c cs ih =>
    rw [doubleQuotes, List.flatMap_cons, List.foldlM_append, ← doubleQuotes]
    have hc : (if c = '"' then ['"', '"'] else [c]).foldlM Reader.step
        ⟨.quoted, before, fields, rows⟩ = some ⟨.quoted, before ++ [c], fields, rows⟩ := by
      by_cases hq : c = '"'
      · rw [if_pos hq, hq]
        rfl
      · rw [if_neg hq]
        simp [Reader.step, hq, Reader.push]
    rw [hc]
    simpa using ih (before ++ [c])

/-- A text in quotes stands for itself. -/
theorem stands_field (s : String) : Stands (field s) s := by
  intro fields rows
  refine ⟨⟨.quote, s.toList, fields, rows⟩, ?_, ?_, ?_⟩
  · have h := foldlM_doubleQuotes s.toList [] fields rows
    simp [field, Reader.step, h]
  all_goals simp [Reader.step, Reader.delimit?, Reader.nextField, Reader.nextRow, Reader.record]

/-- A character that may occur in a field without quotes. -/
def isPlain (c : Char) : Bool := c ∉ ['"', ',', '\n', '\r']

/-- Without quotes, all is read that needs none, from the first character on. -/
theorem foldlM_plain {cs : List Char} (h : ∀ c ∈ cs, isPlain c = true) (before : List Char)
    (fields : List String) (rows : List (List String)) :
    cs.foldlM Reader.step ⟨.plain, before, fields, rows⟩ =
      some ⟨.plain, before ++ cs, fields, rows⟩ := by
  induction cs generalizing before with
  | nil => rw [List.append_nil]; rfl
  | cons c cs ih =>
    obtain ⟨hc, hcs⟩ := List.forall_mem_cons.1 h
    have hstep : Reader.step ⟨.plain, before, fields, rows⟩ c =
        some ⟨.plain, before ++ [c], fields, rows⟩ := by
      simp_all [isPlain, Reader.step, Reader.delimit?, Reader.push]
    rw [List.foldlM_cons, hstep]
    simpa using ih hcs (before ++ [c])

/-- A text that needs no quotes stands for itself. -/
theorem stands_self {s : String} (h : ∀ c ∈ s.toList, isPlain c = true) : Stands s s := by
  intro fields rows
  obtain ⟨phase, hphase, hread⟩ : ∃ phase, (phase = .start ∨ phase = .plain) ∧
      s.toList.foldlM Reader.step { fields, rows } = some ⟨phase, s.toList, fields, rows⟩ := by
    cases hs : s.toList with
    | nil => exact ⟨.start, .inl rfl, rfl⟩
    | cons c cs =>
      obtain ⟨hc, hcs⟩ := List.forall_mem_cons.1 (hs ▸ h)
      have hstep : Reader.step { fields, rows } c = some ⟨.plain, [c], fields, rows⟩ := by
        simp_all [isPlain, Reader.step, Reader.delimit?, Reader.push]
      exact ⟨.plain, .inr rfl, by rw [List.foldlM_cons, hstep]; exact foldlM_plain hcs ..⟩
  refine ⟨_, hread, ?_, ?_⟩ <;> obtain rfl | rfl := hphase
  all_goals simp [Reader.step, Reader.delimit?, Reader.nextField, Reader.nextRow, Reader.record]

/-! ## Tables -/

/-- A line of texts is read as the record of what they stand for. -/
theorem foldlM_line {texts contents : List String} (h : List.Forall₂ Stands texts contents)
    (hne : texts ≠ []) (fields : List String) (rows : List (List String)) :
    (",".intercalate texts ++ "\n").toList.foldlM Reader.step { fields, rows } =
      some { rows := rows ++ [fields ++ contents] } := by
  induction h generalizing fields with
  | nil => exact absurd rfl hne
  | @cons text content texts contents htext htexts ih =>
    obtain ⟨s, hread, hcomma, hline⟩ := htext fields rows
    cases htexts with
    | nil =>
      rw [String.intercalate_singleton, String.toList_append, List.foldlM_append, hread]
      simpa using hline
    | cons hnext htexts =>
      rw [String.intercalate_cons_cons, String.append_assoc, String.append_assoc,
        String.toList_append, List.foldlM_append, hread]
      have hrest := ih (List.cons_ne_nil _ _) (fields ++ [content])
      rw [List.append_assoc] at hrest
      simpa [hcomma] using hrest

theorem stands_columns : List.Forall₂ Stands columns columns := by
  have hplain : columns.all (·.toList.all isPlain) = true := by decide +kernel
  refine List.forall₂_same.2 fun s hs => stands_self ?_
  exact List.all_eq_true.1 (List.all_eq_true.1 hplain s hs)

theorem foldlM_rows {rows : List (List String)} (h : ∀ row ∈ rows, row ≠ [])
    (before : List (List String)) :
    (String.join (rows.map line)).toList.foldlM Reader.step { rows := before } =
      some { rows := before ++ rows } := by
  induction rows generalizing before with
  | nil => rw [List.append_nil]; rfl
  | cons row rows ih =>
    obtain ⟨hrow, hrows⟩ := List.forall_mem_cons.1 h
    have hline := foldlM_line
      (List.forall₂_map_left_iff.2 (List.forall₂_same.2 fun s _ => stands_field s))
      (mt List.map_eq_nil_iff.1 hrow) [] before
    rw [List.map_cons, String.join_cons, String.toList_append, List.foldlM_append, line, hline]
    simpa using ih hrows (before ++ [row])

/-- A table is read as its header and its records. -/
theorem read?_table {rows : List (List String)} (h : ∀ row ∈ rows, row ≠ []) :
    read? (",".intercalate columns ++ "\n" ++ String.join (rows.map line)) =
      some (columns :: rows) := by
  have hheader := foldlM_line stands_columns (List.cons_ne_nil _ _) [] []
  rw [read?, String.toList_append, List.foldlM_append, hheader]
  simp only [List.nil_append, Option.bind_eq_bind, Option.bind_some, foldlM_rows h]
  rfl

/-! ## Ledgers -/

/-- The records of the errors in a file: what is known of each of them in writing. -/
def recordsOf (file : String) (errors : Errors) : List (List String) :=
  errors.lexical.map (fun e => [file, "lexical", "error", toString e.position.line,
    toString e.position.column, e.message, e.code.name, "; ".intercalate e.suggestions]) ++
  errors.syntactic.map (fun e => [file, "syntax", e.severity.name, toString e.position.line,
    toString e.position.column, e.message, e.code.name, "; ".intercalate e.suggestions])

theorem recordsOf_eq (file : String) (errors : Errors) :
    recordsOf file errors = errors.findings.map (record file) := by
  rw [recordsOf, Errors.findings, List.map_append, List.map_map, List.map_map]
  rfl

theorem records_eq (reports : List Report) :
    records reports = reports.flatMap fun r => recordsOf r.file r.errors := by
  simp only [recordsOf_eq]
  rfl

theorem length_recordsOf (file : String) (errors : Errors) :
    (recordsOf file errors).length = errors.total := by
  rw [recordsOf_eq, List.length_map, Errors.length_findings]

theorem length_of_mem_recordsOf {file : String} {errors : Errors} {row : List String}
    (h : row ∈ recordsOf file errors) : row.length = 8 := by
  rw [recordsOf_eq] at h
  obtain ⟨f, -, rfl⟩ := List.mem_map.1 h
  rfl

theorem length_of_mem_records {reports : List Report} {row : List String}
    (h : row ∈ records reports) : row.length = 8 := by
  rw [records_eq] at h
  obtain ⟨r, -, hrow⟩ := List.mem_flatMap.1 h
  exact length_of_mem_recordsOf hrow

theorem length_records (reports : List Report) :
    (records reports).length = (reports.map Report.total).sum := by
  rw [records_eq, List.length_flatMap]
  simp only [length_recordsOf]
  rfl

theorem records_eq_nil_iff {reports : List Report} :
    records reports = [] ↔ ∀ r ∈ reports, r.total = 0 := by
  rw [records_eq, List.flatMap_eq_nil_iff]
  refine forall₂_congr fun r _ => ?_
  rw [← List.length_eq_zero_iff, length_recordsOf, Report.total]

/-- A ledger with errors is written as a table. -/
theorem ofLedger_of_records {l : Ledger} (h : records l.allReports ≠ []) :
    ofLedger l =
      ",".intercalate columns ++ "\n" ++ String.join ((records l.allReports).map line) := by
  rw [ofLedger]
  split
  · contradiction
  · rfl

/-- In a sound ledger the reports stand in the order of their files. -/
theorem pairwise_allReports {l : Ledger} (h : l.IsSound) :
    l.allReports.Pairwise fun r r' => r.file < r'.file := by
  refine List.pairwise_map.2 (l.reports.sorted.imp_of_mem fun {a b} ha hb hlt => ?_)
  rwa [h.file_eq a.1 a.2 (SortedMap.find?_eq_some_iff.2 ha),
    h.file_eq b.1 b.2 (SortedMap.find?_eq_some_iff.2 hb)]

/-- Whatever has been added to a ledger, erased and cleared, and whatever the files, messages and
    suggestions are: if there is an error in a report that is left, reading the table gives the
    header and a record of eight fields for each such error, by file and in the order of the
    report, with all that is known of the error as it is. Otherwise the table is a line that says
    so. There are as many records as errors have been counted. -/
theorem readBack_run (settings : Settings) (changes : List LedgerChange) :
    let l := (Ledger.ofSettings settings).run changes
    let rows := l.allReports.flatMap fun r => recordsOf r.file r.errors
    (if ∃ r ∈ l.allReports, 0 < r.total then read? (ofLedger l) = some (columns :: rows)
      else ofLedger l = "No errors found\n") ∧
    (∀ row ∈ rows, row.length = 8) ∧ rows.length = l.statistics.errors ∧
    (l.allReports.Pairwise fun r r' => r.file < r'.file) ∧
    ∀ file errors, (∃ r ∈ l.allReports, r.file = file ∧ r.errors = errors) ↔
      Ledger.surviving changes file = some errors := by
  intro l rows
  have h : l.IsSound := (Ledger.isSound_ofSettings settings).run changes
  have hrows : records l.allReports = rows := records_eq _
  refine ⟨?_, fun row hrow => ?_, ?_, pairwise_allReports h, fun file errors => ?_⟩
  · split
    case isTrue hsome =>
      obtain ⟨r, hr, hpos⟩ := hsome
      have hne : records l.allReports ≠ [] := fun hnil =>
        Nat.ne_of_gt hpos (records_eq_nil_iff.1 hnil r hr)
      rw [ofLedger_of_records hne, read?_table fun row hrow => ?_, hrows]
      exact List.ne_nil_of_length_eq_add_one (length_of_mem_records hrow)
    case isFalse hnone =>
      have hnil : records l.allReports = [] := records_eq_nil_iff.2 fun r hr =>
        Nat.eq_zero_of_not_pos fun hpos => hnone ⟨r, hr, hpos⟩
      rw [ofLedger, hnil]
      rfl
  · exact length_of_mem_records (hrows ▸ hrow)
  · rw [← hrows, length_records, h.recounts.errors]
  · rw [← Ledger.errors_report?_run settings changes, ← h.mem_digests]
    simp [Statistics.digest]

example :
    let e : LexicalError := ⟨"a \"b\",\r\nc", ⟨1, 12⟩, 1, .unexpectedCharacter, ["d", "e;"]⟩
    read? (ofLedger ((Ledger.ofSettings {}).run [.add "t" "\"f\",g" "" ⟨[e], []⟩])) =
      some [columns, ["\"f\",g", "lexical", "error", "1", "12", "a \"b\",\r\nc",
        "UNEXPECTED_CHARACTER", "d; e;"]] := by
  decide +kernel

end SunLint.Csv
