import SunLint.Proofs.Editor.ClosedLines
import SunLint.Proofs.Report.Escapes
import SunLint.Report.Human

/-!
# The entries of a report for people

A report for people is a list of spans whose ends have nothing to do with those of lines. It is read
in lines: an entry is a headline with a number, and below it come the place, the quoted source and
the suggestions, each behind a margin (`Human.entryLines`).

* `Human.plainText_report`: the report without styles is made of these lines;
* `Human.not_mem_of_mem_reportLines`: a control character in them comes from the source or from the
  findings;
* `Human.filterMap_entryHead?_reportLines`: only the headlines look like headlines;
* `Human.report_withoutEscapes`: a report for a terminal without its escape sequences is the one
  without styles, and in this the findings of both kinds are read back.
-/

namespace SunLint

open Text

/-- The character occurs in no text of the finding. -/
def Finding.Lacks (f : Finding) (c : Char) : Prop :=
  c ∉ f.message.toList ∧ ∀ s ∈ f.suggestions, c ∉ s.toList

instance (f : Finding) (c : Char) : Decidable (f.Lacks c) :=
  inferInstanceAs (Decidable (_ ∧ _))

theorem Errors.isEmpty_eq_true_iff {errors : Errors} :
    errors.isEmpty = true ↔ errors.lexical = [] ∧ errors.syntactic = [] := by
  simp [isEmpty]

/-! ## Characters of lines -/

namespace Text

theorem mem_of_mem_pieces {cs piece : List Char} {c : Char} (h : piece ∈ pieces cs)
    (hc : c ∈ piece) : c ∈ cs ∧ c ≠ '\n' := by
  induction cs using lines_induction with
  | nil => simp_all [pieces]
  | last cs hcs _ =>
    rw [pieces_of_not_mem hcs, List.mem_singleton] at h
    rw [h] at hc
    exact ⟨hc, ne_of_mem_of_not_mem hc hcs⟩
  | line line cs hline ih =>
    rw [pieces_append, pieces_of_not_mem hline] at h
    obtain rfl | h := List.mem_cons.1 h
    · exact ⟨List.mem_append_left _ hc, ne_of_mem_of_not_mem hc hline⟩
    · exact ⟨List.mem_append_right line (List.mem_cons_of_mem _ (ih h).1), (ih h).2⟩

/-- A line of the source has no characters but those of the source. -/
theorem mem_sourceLine {source line : String} {n : Nat} {c : Char}
    (h : sourceLine source n = some line) (hc : c ∈ line.toList) :
    c ∈ source.toList ∧ c ≠ '\n' := by
  rw [sourceLine] at h
  split at h
  · cases h
  · obtain ⟨piece, hpiece, rfl⟩ := Option.map_eq_some_iff.1 h
    rw [String.toList_ofList] at hc
    exact mem_of_mem_pieces (List.mem_of_getElem? hpiece) ((dropReturn_isPrefix piece).mem hc)

end Text

namespace Human

variable {source : String} {errors : Errors}

/-! ## Lines -/

/-- What the first line of an entry says of the finding. -/
def headline (f : Finding) : List Char :=
  (f.severity.name ++ "[" ++ f.code.name ++ "] " ++ f.message).toList

/-- The line of the source that the position is on, and below it the caret. -/
def quotedLines (source : String) (p : Position) : List (List Char) :=
  match sourceLine source p.line with
  | some line => [dropReturn line.toList, List.replicate (p.column - 1) ' ' ++ ['^']]
  | none => []

/-- The lines of an entry with this number. -/
def entryLines (source : String) (n : Nat) (f : Finding) : List (List Char) :=
  ((number n).toList ++ '.' :: ' ' :: headline f) ::
  ("     at " ++ f.position.describe).toList ::
  (quotedLines source f.position).map ("     | ".toList ++ ·) ++
  if f.suggestions.isEmpty then []
  else "     Suggestions:".toList :: f.suggestions.map fun s => ("       - " ++ s).toList

/-- A title, and a line of the same length under it. -/
def headingLines (title : String) : List (List Char) :=
  [title.toList, List.replicate title.length '─']

/-- The entries of the findings under their title, numbered from one on. -/
def partLines (source title : String) (findings : List Finding) : List (List Char) :=
  if findings.isEmpty then []
  else [] :: headingLines title ++
    (findings.zipIdx 1).flatMap fun (f, n) => entryLines source n f

/-- The lines of the report on a text with some errors. -/
def reportLines (source : String) (errors : Errors) : List (List Char) :=
  (opening errors).toList ::
  partLines source "Lexical errors" (errors.lexical.map Finding.ofLexical) ++
  partLines source "Syntax errors" (errors.syntactic.map Finding.ofSyntactic) ++
  [] :: headingLines "Recommendations" ++
  (Advice.recommendations errors).map (fun r => ("  - " ++ r).toList) ++
  [[], closingTip.toList]

/-! ## The report is made of its lines -/

theorem lines_snippet (source : String) (p : Position) :
    lines (Snippet.render source p).toList = quotedLines source p := by
  rw [Snippet.render, quotedLines]
  cases hline : sourceLine source p.line with
  | none => rfl
  | some line =>
    have htext : (line ++ "\n" ++ String.ofList (List.replicate (p.column - 1) ' ') ++
        "^").toList = line.toList ++ '\n' :: (List.replicate (p.column - 1) ' ' ++ ['^']) := by simp
    have hcaret : '\n' ∉ List.replicate (p.column - 1) ' ' ++ ['^'] := by simp
    rw [htext, lines_line fun h => (mem_sourceLine hline h).2 rfl,
      lines_of_not_mem hcaret (by simp)]

theorem toList_plainText_append (spans spans' : List Span) :
    (Span.plainText (spans ++ spans')).toList =
      (Span.plainText spans).toList ++ (Span.plainText spans').toList := by
  simp [Span.plainText, String.toList_join]

theorem toList_plainText_entry (source : String) (n : Nat) (f : Finding) :
    (Span.plainText (entry source n f)).toList = (closeLines (entryLines source n f)).toList := by
  rw [entry, entryLines, lines_snippet]
  split <;>
    simp [Span.plainText, String.toList_join, closeLines, headline, List.flatMap_map,
      List.flatMap_assoc]

theorem toList_plainText_entries (source : String) (n : Nat) (findings : List Finding) :
    (Span.plainText (entries source n findings)).toList =
      (closeLines ((findings.zipIdx n).flatMap fun (f, i) => entryLines source i f)).toList := by
  induction findings generalizing n with
  | nil => rfl
  | cons f findings ih =>
    rw [entries, toList_plainText_append, toList_plainText_entry, ih, List.zipIdx_cons,
      List.flatMap_cons, toList_closeLines_append]

theorem toList_plainText_heading (title : String) :
    (Span.plainText (heading title)).toList = (closeLines (headingLines title)).toList := by
  simp [Span.plainText, heading, headingLines, closeLines]

theorem toList_plainText_part (source title : String) (findings : List Finding) :
    (Span.plainText (part source title findings)).toList =
      (closeLines (partLines source title findings)).toList := by
  rw [part, partLines]
  split
  · rfl
  · rw [List.cons_append, Span.toList_plainText_cons, toList_plainText_append,
      toList_plainText_heading, toList_plainText_entries, List.cons_append, toList_closeLines_cons,
      toList_closeLines_append]
    simp

theorem toList_plainText_advice (texts : List String) :
    (Span.plainText (texts.map fun r => ⟨"  - " ++ r ++ "\n", .plain⟩)).toList =
      (closeLines (texts.map fun r => ("  - " ++ r).toList)).toList := by
  simp [Span.plainText, String.toList_join, closeLines, List.flatMap_map]

/-- The report without styles is made of its lines. -/
theorem plainText_report (h : errors.isEmpty = false) :
    Span.plainText (report source errors) = closeLines (reportLines source errors) := by
  refine String.toList_injective ?_
  rw [report, if_neg (by simp [h]), reportLines]
  simp only [List.cons_append, List.append_assoc, toList_plainText_append, toList_plainText_part,
    toList_plainText_heading, Span.toList_plainText_cons, toList_closeLines_append,
    toList_closeLines_cons, toList_plainText_advice]
  simp [Span.plainText, closeLines]

/-! ## Control characters -/

section Lacks

variable {c : Char} (hc : isControl c = true)
include hc

theorem not_mem_of_all {text : List Char} (h : text.all (!isControl ·) = true) : c ∉ text := by
  intro hmem
  have hnot := List.all_eq_true.1 h c hmem
  rw [hc] at hnot
  cases hnot

/-- Such a text in front of another one adds no control character. -/
theorem not_mem_append_of_all {text cs : List Char} (h : text.all (!isControl ·) = true)
    (hcs : c ∉ cs) : c ∉ text ++ cs := by
  rw [List.mem_append, not_or]
  exact ⟨not_mem_of_all hc h, hcs⟩

theorem not_mem_repr (n : Nat) : c ∉ n.repr.toList := by
  intro h
  have hdigit := isDigit_of_mem_toString h
  obtain ⟨range, hrange, hle⟩ := Ranges.exists_of_contains hc
  simp only [Char.isDigit, Bool.and_eq_true, decide_eq_true_eq] at hdigit
  have h0 : 48 ≤ c.toNat := hdigit.1
  have h9 : c.toNat ≤ 57 := hdigit.2
  obtain rfl | rfl : range = (0x0, 0x1F) ∨ range = (0x7F, 0x9F) := by simpa using hrange
  · exact absurd hle.2 (by omega)
  · exact absurd hle.1 (by omega)

theorem not_mem_replicate {d : Char} (hd : isControl d = false) (n : Nat) :
    c ∉ List.replicate n d := by
  intro h
  rw [List.eq_of_mem_replicate h, hd] at hc
  cases hc

theorem not_mem_number (n : Nat) : c ∉ (number n).toList := by
  rw [number, String.toList_append, String.toList_ofList, List.mem_append, not_or]
  exact ⟨not_mem_replicate hc (by decide) _, not_mem_repr hc n⟩

theorem not_mem_describe (p : Position) : c ∉ p.describe.toList := by
  have htext : p.describe.toList =
      "line ".toList ++ p.line.repr.toList ++ ", column ".toList ++ p.column.repr.toList := by
    simp only [Position.describe, String.toList_append]
    rfl
  simp only [htext, List.mem_append, not_or]
  exact ⟨⟨⟨not_mem_of_all hc (by decide), not_mem_repr hc _⟩, not_mem_of_all hc (by decide)⟩,
    not_mem_repr hc _⟩

theorem not_mem_headline {f : Finding} (h : f.Lacks c) : c ∉ headline f := by
  have hseverity : ∀ s : Severity, s.name.toList.all (!isControl ·) = true := by
    intro s
    cases s <;> decide
  have hcode : ∀ code : ErrorCode, code.name.toList.all (!isControl ·) = true := by
    intro code
    cases code <;> decide
  simp only [headline, String.toList_append, List.mem_append, not_or]
  exact ⟨⟨⟨⟨not_mem_of_all hc (hseverity _), not_mem_of_all hc (by decide)⟩,
    not_mem_of_all hc (hcode _)⟩, not_mem_of_all hc (by decide)⟩, h.1⟩

/-- A control character in a line that is quoted comes from the source, and is no line feed. -/
theorem not_mem_of_mem_quotedLines {p : Position} (hsource : c = '\n' ∨ c ∉ source.toList) :
    ∀ line ∈ quotedLines source p, c ∉ line := by
  rw [quotedLines]
  cases hline : sourceLine source p.line with
  | none => simp
  | some line =>
    -- The line feeds of the source end its lines, and any other character of a line is its own.
    have hquoted : c ∉ dropReturn line.toList := by
      intro h
      have hmem := mem_sourceLine hline ((dropReturn_isPrefix _).mem h)
      exact hsource.elim hmem.2 fun hnot => hnot hmem.1
    have hcaret : c ∉ List.replicate (p.column - 1) ' ' ++ ['^'] := by
      rw [List.mem_append, not_or]
      exact ⟨not_mem_replicate hc (by decide) _, not_mem_of_all hc (by decide)⟩
    simp only [List.forall_mem_cons]
    exact ⟨hquoted, hcaret, by simp⟩

/-- A control character in an entry comes from the source or from the finding. -/
theorem not_mem_of_mem_entryLines {f : Finding} (hsource : c = '\n' ∨ c ∉ source.toList)
    (hf : f.Lacks c) (n : Nat) : ∀ line ∈ entryLines source n f, c ∉ line := by
  have hhead : c ∉ (number n).toList ++ '.' :: ' ' :: headline f := by
    have hbehind : c ∉ ['.', ' '] ++ headline f :=
      not_mem_append_of_all hc (by decide) (not_mem_headline hc hf)
    rw [List.mem_append, not_or]
    exact ⟨not_mem_number hc n, hbehind⟩
  have hplace : c ∉ ("     at " ++ f.position.describe).toList := by
    rw [String.toList_append]
    exact not_mem_append_of_all hc (by decide) (not_mem_describe hc _)
  have hquoted : ∀ line ∈ (quotedLines source f.position).map ("     | ".toList ++ ·),
      c ∉ line :=
    List.forall_mem_map.2 fun line hline => not_mem_append_of_all hc (by decide)
      (not_mem_of_mem_quotedLines hc hsource line hline)
  have hsuggestions : ∀ line ∈ f.suggestions.map fun s => ("       - " ++ s).toList, c ∉ line := by
    refine List.forall_mem_map.2 fun s hs => ?_
    rw [String.toList_append]
    exact not_mem_append_of_all hc (by decide) (hf.2 s hs)
  rw [entryLines]
  split
  · simp only [List.forall_mem_cons, List.forall_mem_append]
    exact ⟨⟨hhead, hplace, hquoted⟩, by simp⟩
  · simp only [List.forall_mem_cons, List.forall_mem_append]
    exact ⟨⟨hhead, hplace, hquoted⟩, not_mem_of_all hc (by decide), hsuggestions⟩

theorem not_mem_of_mem_headingLines {title : String}
    (h : title.toList.all (!isControl ·) = true) : ∀ line ∈ headingLines title, c ∉ line := by
  simp only [headingLines, List.forall_mem_cons]
  exact ⟨not_mem_of_all hc h, not_mem_replicate hc (by decide) _, by simp⟩

theorem not_mem_of_mem_partLines {title : String} {findings : List Finding}
    (htitle : title.toList.all (!isControl ·) = true) (hsource : c = '\n' ∨ c ∉ source.toList)
    (hfindings : ∀ f ∈ findings, f.Lacks c) :
    ∀ line ∈ partLines source title findings, c ∉ line := by
  rw [partLines]
  split
  · simp
  · simp only [List.forall_mem_cons, List.forall_mem_append, List.cons_append]
    refine ⟨List.not_mem_nil, not_mem_of_mem_headingLines hc htitle, fun line hline => ?_⟩
    obtain ⟨⟨f, n⟩, hf, hline⟩ := List.mem_flatMap.1 hline
    exact not_mem_of_mem_entryLines hc hsource (hfindings f (List.fst_mem_of_mem_zipIdx hf)) n line
      hline

theorem not_mem_opening (errors : Errors) : c ∉ (opening errors).toList := by
  have hword : (if errors.total = 1 then " problem" else " problems").toList.all
      (!isControl ·) = true := by
    split <;> decide
  simp only [opening, String.toList_append, List.mem_append, not_or]
  exact ⟨⟨⟨⟨⟨⟨⟨not_mem_of_all hc (by decide), not_mem_repr hc _⟩, not_mem_of_all hc hword⟩,
    not_mem_of_all hc (by decide)⟩, not_mem_repr hc _⟩, not_mem_of_all hc (by decide)⟩,
    not_mem_repr hc _⟩, not_mem_of_all hc (by decide)⟩

theorem not_mem_of_mem_recommendations (errors : Errors) :
    ∀ r ∈ Advice.recommendations errors, c ∉ r.toList := by
  have hgeneral : ∀ r ∈ Advice.general, r.toList.all (!isControl ·) = true := by decide +kernel
  have htriggered : ∀ r ∈ Advice.triggered errors, r.toList.all (!isControl ·) = true := by
    simp only [Advice.triggered, List.forall_mem_append]
    refine ⟨⟨⟨?_, ?_⟩, ?_⟩, ?_⟩ <;> split <;> decide +kernel
  intro r hr
  rw [Advice.recommendations] at hr
  split at hr
  · exact not_mem_of_all hc (hgeneral r hr)
  · exact not_mem_of_all hc (htriggered r hr)

/-- A control character in the report comes from the source or from the findings. -/
theorem not_mem_of_mem_reportLines (hsource : c = '\n' ∨ c ∉ source.toList)
    (hfindings : ∀ f ∈ errors.findings, f.Lacks c) :
    ∀ line ∈ reportLines source errors, c ∉ line := by
  rw [Errors.findings, List.forall_mem_append] at hfindings
  have hadvice : ∀ line ∈ (Advice.recommendations errors).map fun r => ("  - " ++ r).toList,
      c ∉ line := by
    refine List.forall_mem_map.2 fun r hr => ?_
    rw [String.toList_append]
    exact not_mem_append_of_all hc (by decide) (not_mem_of_mem_recommendations hc errors r hr)
  simp only [reportLines, List.forall_mem_cons, List.forall_mem_append, List.cons_append,
    List.append_assoc]
  exact ⟨not_mem_opening hc errors, not_mem_of_mem_partLines hc (by decide) hsource hfindings.1,
    not_mem_of_mem_partLines hc (by decide) hsource hfindings.2, List.not_mem_nil,
    not_mem_of_mem_headingLines hc (by decide), hadvice, List.not_mem_nil,
    not_mem_of_all hc (by decide), by simp⟩

end Lacks

/-! ## Headlines are read back -/

/-- The number and the headline, if the line is the first one of an entry. -/
def entryHead? (line : List Char) : Option (Nat × List Char) :=
  let behind := line.dropWhile (· = ' ')
  let digits := behind.takeWhile Char.isDigit
  match behind.dropWhile Char.isDigit with
  | '.' :: ' ' :: rest => if digits = [] then none else some (Nat.ofDigitChars 10 digits 0, rest)
  | _ => none

/-- The headlines of the findings, numbered from one on. -/
def numbered (findings : List Finding) : List (Nat × List Char) :=
  (findings.zipIdx 1).map fun (f, n) => (n, headline f)

theorem entryHead?_eq_none {line : List Char}
    (h : ∀ c ∈ (line.dropWhile (· = ' ')).head?, c.isDigit = false) : entryHead? line = none := by
  have hdigits : (line.dropWhile (· = ' ')).takeWhile Char.isDigit = [] := by
    cases hbehind : line.dropWhile (· = ' ') with
    | nil => rfl
    | cons c cs =>
      rw [hbehind] at h
      exact List.takeWhile_cons_of_neg (by simp [h c rfl])
  simp only [entryHead?, hdigits]
  split <;> rfl

/-- The spaces in front of a number are dropped, and nothing of the number is. -/
theorem dropWhile_number_append (n : Nat) (cs : List Char) :
    ((number n).toList ++ cs).dropWhile (· = ' ') = (toString n).toList ++ cs := by
  rw [number, String.toList_append, String.toList_ofList, List.append_assoc,
    List.dropWhile_append_of_pos fun _ h => decide_eq_true (List.eq_of_mem_replicate h)]
  cases hn : (toString n).toList with
  | nil => exact absurd hn (by simp)
  | cons d ds =>
    have hdigit : d.isDigit = true := isDigit_of_mem_toString (hn ▸ List.mem_cons_self)
    refine List.dropWhile_cons_of_neg ?_
    rw [decide_eq_true_eq]
    rintro rfl
    cases hdigit

theorem entryHead?_head (n : Nat) (text : List Char) :
    entryHead? ((number n).toList ++ '.' :: ' ' :: text) = some (n, text) := by
  have hdot : Char.isDigit '.' = false := by decide
  have hread : Nat.ofDigitChars 10 (toString n).toList 0 = n := by
    rw [Nat.toString_eq_repr, Nat.toList_repr]
    exact Nat.ofDigitChars_toDigits (by decide) (by decide)
  simp only [entryHead?, dropWhile_number_append, takeWhile_toString_append hdot,
    dropWhile_toString_append hdot, hread]
  exact if_neg (by simp)

theorem filterMap_entryHead?_entryLines (source : String) (n : Nat) (f : Finding) :
    (entryLines source n f).filterMap entryHead? = [(n, headline f)] := by
  -- Below the headline every line has a margin, and the first character in it is no digit.
  have hplace : entryHead? ("     at " ++ f.position.describe).toList = none :=
    entryHead?_eq_none (by simp)
  have hquoted : ((quotedLines source f.position).map ("     | ".toList ++ ·)).filterMap
      entryHead? = [] :=
    List.filterMap_eq_nil_iff.2 (List.forall_mem_map.2 fun _ _ => entryHead?_eq_none (by simp))
  have hsuggestions : (f.suggestions.map fun s => ("       - " ++ s).toList).filterMap
      entryHead? = [] :=
    List.filterMap_eq_nil_iff.2 (List.forall_mem_map.2 fun _ _ => entryHead?_eq_none (by simp))
  rw [entryLines, List.filterMap_append, List.filterMap_cons_some (entryHead?_head n _),
    List.filterMap_cons_none hplace, hquoted]
  split
  · rfl
  · rw [List.filterMap_cons_none rfl, hsuggestions]
    rfl

theorem filterMap_entryHead?_headingLines {title : String} (h : entryHead? title.toList = none) :
    (headingLines title).filterMap entryHead? = [] := by
  have hrule : entryHead? (List.replicate title.length '─') = none := by
    cases title.length <;> simp [entryHead?, List.replicate_succ]
  rw [headingLines, List.filterMap_cons_none h, List.filterMap_cons_none hrule, List.filterMap_nil]

theorem filterMap_entryHead?_partLines {title : String} (h : entryHead? title.toList = none)
    (findings : List Finding) :
    (partLines source title findings).filterMap entryHead? = numbered findings := by
  rw [partLines]
  split
  · simp_all [numbered]
  · rw [List.cons_append, List.filterMap_cons_none rfl, List.filterMap_append,
      filterMap_entryHead?_headingLines h, List.nil_append, numbered, List.filterMap_flatMap]
    simp only [filterMap_entryHead?_entryLines]
    exact List.flatMap_pure_eq_map ..

theorem filterMap_entryHead?_reportLines (source : String) (errors : Errors) :
    (reportLines source errors).filterMap entryHead? =
      numbered (errors.lexical.map Finding.ofLexical) ++
        numbered (errors.syntactic.map Finding.ofSyntactic) := by
  have hopening : entryHead? (opening errors).toList = none :=
    entryHead?_eq_none (by simp [opening])
  have hadvice : ((Advice.recommendations errors).map fun r => ("  - " ++ r).toList).filterMap
      entryHead? = [] :=
    List.filterMap_eq_nil_iff.2 (List.forall_mem_map.2 fun _ _ => entryHead?_eq_none (by simp))
  have hend : [[], closingTip.toList].filterMap entryHead? = [] := rfl
  rw [reportLines]
  simp only [List.cons_append, List.append_assoc]
  rw [List.filterMap_cons_none hopening]
  simp only [List.filterMap_append]
  rw [filterMap_entryHead?_partLines rfl, filterMap_entryHead?_partLines rfl,
    List.filterMap_cons_none rfl]
  simp only [List.filterMap_append]
  rw [filterMap_entryHead?_headingLines rfl, hadvice, hend]
  simp

/-! ## The report for a terminal -/

theorem mem_plainText {c : Char} {spans : List Span} :
    c ∈ (Span.plainText spans).toList ↔ ∃ span ∈ spans, c ∈ span.text.toList := by
  simp [Span.plainText, String.toList_join]

theorem plainText_report_of_isEmpty (h : errors.isEmpty = true) (source : String) :
    Span.plainText (report source errors) = success := by
  rw [report, if_pos h]
  rfl

theorem plainText_report_eq_success_iff : Span.plainText (report source errors) = success ↔
    errors.lexical = [] ∧ errors.syntactic = [] := by
  rw [← Errors.isEmpty_eq_true_iff]
  refine ⟨fun heq => ?_, fun h => plainText_report_of_isEmpty h source⟩
  by_contra hempty
  -- The message of success is no whole line.
  have hmem : '\n' ∈ (Span.plainText (report source errors)).toList := by
    rw [plainText_report (Bool.eq_false_iff.2 hempty), reportLines]
    simp only [List.cons_append, toList_closeLines_cons]
    exact List.mem_append_right _ List.mem_cons_self
  rw [heq] at hmem
  exact absurd hmem (by decide)

theorem mem_ansiText_report (h : errors.isEmpty = false) (source : String) :
    '\x1b' ∈ (Span.ansiText (report source errors)).toList := by
  rw [report, if_neg (by simp [h])]
  simp only [List.cons_append, Span.toList_ansiText_cons]
  exact List.mem_append_left _ (by simp [Span.ansi, Style.number?, escapeSequence])

theorem not_mem_plainText_report (hsource : '\x1b' ∉ source.toList)
    (hfindings : ∀ f ∈ errors.findings, f.Lacks '\x1b') :
    '\x1b' ∉ (Span.plainText (report source errors)).toList := by
  by_cases hempty : errors.isEmpty = true
  · rw [plainText_report_of_isEmpty hempty]
    decide
  · rw [plainText_report (Bool.eq_false_iff.2 hempty), closeLines, String.toList_ofList]
    intro h
    obtain ⟨line, hline, h⟩ := List.mem_flatMap.1 h
    obtain h | h := List.mem_append.1 h
    · exact not_mem_of_mem_reportLines (by decide) (.inr hsource) hfindings line hline h
    · exact absurd h (by decide)

theorem filterMap_entryHead?_pieces (h : ∀ f ∈ errors.findings, f.Lacks '\n') (source : String) :
    (pieces (Span.plainText (report source errors)).toList).filterMap entryHead? =
      numbered (errors.lexical.map Finding.ofLexical) ++
        numbered (errors.syntactic.map Finding.ofSyntactic) := by
  by_cases hempty : errors.isEmpty = true
  · obtain ⟨hlexical, hsyntactic⟩ := Errors.isEmpty_eq_true_iff.1 hempty
    rw [plainText_report_of_isEmpty hempty, hlexical, hsyntactic]
    rfl
  · rw [plainText_report (Bool.eq_false_iff.2 hempty),
      pieces_closeLines (not_mem_of_mem_reportLines (by decide) (.inl rfl) h),
      List.filterMap_append, filterMap_entryHead?_reportLines]
    exact List.append_nil _

/-- The escape sequences of a report for a terminal are its styles and nothing else, if there is no
    escape character in the source and in the findings: without them it is the plain report. This
    has no escape character. It is the message of success if nothing was found; otherwise it is
    made of the lines of the report, in which the headlines of the lexical findings and then those
    of the syntactic ones are read back if each of them is a line, with their numbers. -/
theorem report_withoutEscapes (source : String) (errors : Errors)
    (hsource : '\x1b' ∉ source.toList) (hfindings : ∀ f ∈ errors.findings, f.Lacks '\x1b') :
    withoutEscapes (Span.ansiText (report source errors)).toList =
        (Span.plainText (report source errors)).toList ∧
      '\x1b' ∉ (Span.plainText (report source errors)).toList ∧
      (Span.plainText (report source errors) = success ↔
        errors.lexical = [] ∧ errors.syntactic = []) ∧
      (errors.isEmpty = false → '\x1b' ∈ (Span.ansiText (report source errors)).toList ∧
        Span.plainText (report source errors) = closeLines (reportLines source errors)) ∧
      ((∀ f ∈ errors.findings, f.Lacks '\n') →
        (pieces (Span.plainText (report source errors)).toList).filterMap entryHead? =
          numbered (errors.lexical.map Finding.ofLexical) ++
            numbered (errors.syntactic.map Finding.ofSyntactic)) := by
  have hplain := not_mem_plainText_report hsource hfindings
  -- What is in no line is in no span.
  have hspans : ∀ span ∈ report source errors, '\x1b' ∉ span.text.toList :=
    fun span hspan h => hplain (mem_plainText.2 ⟨span, hspan, h⟩)
  exact ⟨Span.withoutEscapes_ansiText hspans, hplain, plainText_report_eq_success_iff,
    fun hempty => ⟨mem_ansiText_report hempty source, plainText_report hempty⟩,
    fun hlines => filterMap_entryHead?_pieces hlines source⟩

/-- A report with two lexical errors and a syntax error, one of them with a suggestion. -/
theorem report_withoutEscapes_of_three : ∃ (source : String) (errors : Errors),
    '\x1b' ∉ source.toList ∧ (∀ f ∈ errors.findings, f.Lacks '\x1b' ∧ f.Lacks '\n') ∧
      '\x1b' ∈ (Span.ansiText (report source errors)).toList ∧
      withoutEscapes (Span.ansiText (report source errors)).toList =
        (Span.plainText (report source errors)).toList ∧
      (pieces (Span.plainText (report source errors)).toList).filterMap entryHead? =
        [(1, "error[INVALID_ENCODING] invisible".toList),
          (2, "error[UNEXPECTED_CHARACTER] stray 1. #".toList),
          (1, "warning[UNEXPECTED_TOKEN] 2. no use".toList)] := by
  let token : Token := ⟨.comma, ",", ⟨2, 3⟩⟩
  let errors : Errors := ⟨[⟨"invisible", ⟨1, 1⟩, 1, .invalidEncoding, []⟩,
    ⟨"stray 1. #", ⟨1, 2⟩, 1, .unexpectedCharacter, ["drop it", "1. keep it"]⟩],
    [⟨"2. no use", ⟨2, 3⟩, token, [], [], .warning, .unexpectedToken, default⟩]⟩
  have hescape : ∀ f ∈ errors.findings, f.Lacks '\x1b' := by decide
  have hlines : ∀ f ∈ errors.findings, f.Lacks '\n' := by decide
  obtain ⟨hansi, -, -, hreport, hheads⟩ :=
    report_withoutEscapes "\u200b#\n1. ,\n" errors (by decide) hescape
  exact ⟨_, errors, by decide, fun f hf => ⟨hescape f hf, hlines f hf⟩, (hreport rfl).1, hansi,
    hheads hlines⟩

end Human

end SunLint
