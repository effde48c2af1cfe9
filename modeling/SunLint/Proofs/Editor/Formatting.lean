import Mathlib.Data.List.Chain
import SunLint.Proofs.Editor.ClosedLines

/-!
# Formatting

The formatter looks at lines, and knows neither strings nor comments. Its result is in a normal
form, which it does not change; and as it drops only blanks at the ends of lines and line feeds in
a row, the tokens stay what they are, unless a string lacks its closing quote.

* `areTidy_formatted`, `formatDocument_closeLines`: the lines of the result are in normal form, and
  those in normal form are kept;
* `restates_formatDocument`: the result says what the document says;
* `formatDocument_isTidy`: all of this for the document and its text (`Text.IsTidy`).
-/

namespace SunLint

variable {ls : List (List Char)}

/-! ## Runs of empty lines -/

theorem head?_mergeEmpty (ls : List (List Char)) : (mergeEmpty ls).head? = ls.head? := by
  fun_induction mergeEmpty ls <;> rfl

theorem mergeEmpty_sublist (ls : List (List Char)) : (mergeEmpty ls).Sublist ls := by
  fun_induction mergeEmpty ls with
  | case1 => exact .slnil
  | case2 rest merged h ih => exact .cons _ (h ▸ ih)
  | case3 rest line hapart ih => exact .cons_cons _ ih

/-- Not both of the lines are empty. -/
def IsApart (line next : List Char) : Prop := ¬ (line = [] ∧ next = [])

theorem isChain_mergeEmpty (ls : List (List Char)) : (mergeEmpty ls).IsChain IsApart := by
  fun_induction mergeEmpty ls with
  | case1 => exact .nil
  | case2 rest merged h ih => exact h ▸ ih
  | case3 rest line hapart ih =>
    refine ih.cons fun next hnext ⟨hline, hempty⟩ => ?_
    obtain ⟨merged, hmerged⟩ := List.head?_eq_some_iff.1 hnext
    exact hapart merged hline (hempty ▸ hmerged)

theorem mergeEmpty_eq_self (h : ls.IsChain IsApart) : mergeEmpty ls = ls := by
  fun_induction mergeEmpty ls with
  | case1 => rfl
  | case2 rest merged hmerged ih =>
    have hhead := head?_mergeEmpty rest
    rw [hmerged] at hhead
    exact absurd ⟨rfl, rfl⟩ ((List.isChain_cons.1 h).1 [] hhead.symm)
  | case3 rest line hapart ih => rw [ih (List.isChain_cons.1 h).2]

/-! ## Empty lines at the end -/

theorem dropEmptyEnd_isPrefix (ls : List (List Char)) : dropEmptyEnd ls <+: ls :=
  List.rdropWhile_prefix List.isEmpty ls

/-- What is dropped are empty lines. -/
theorem dropEmptyEnd_append (ls : List (List Char)) :
    ∃ k, dropEmptyEnd ls ++ List.replicate k [] = ls := by
  refine ⟨(ls.rtakeWhile List.isEmpty).length, ?_⟩
  have hempty : ls.rtakeWhile List.isEmpty =
      List.replicate (ls.rtakeWhile List.isEmpty).length [] :=
    List.eq_replicate_iff.2 ⟨rfl, fun line hline =>
      List.isEmpty_iff.1 (List.mem_rtakeWhile_imp hline)⟩
  rw [← hempty]
  exact List.rdropWhile_append_rtakeWhile ..

theorem ne_nil_of_getLast?_dropEmptyEnd {line : List Char}
    (h : line ∈ (dropEmptyEnd ls).getLast?) : line ≠ [] := by
  rintro rfl
  obtain ⟨hne, hlast⟩ := List.mem_getLast?_eq_getLast h
  exact List.rdropWhile_last_not List.isEmpty ls hne (hlast ▸ rfl)

theorem dropEmptyEnd_eq_self (h : ∀ line ∈ ls.getLast?, line ≠ []) : dropEmptyEnd ls = ls :=
  List.rdropWhile_eq_self_iff.2 fun hne hempty =>
    h _ (List.getLast?_eq_getLast_of_ne_nil hne) (List.isEmpty_iff.1 hempty)

/-! ## Normal forms -/

/-- Formatted lines: no blanks at their ends, no two empty ones in a row, and no empty one at the
    end. -/
structure AreTidy (ls : List (List Char)) : Prop where
  inLine : ∀ line ∈ ls, '\n' ∉ line
  trimmed : ∀ line ∈ ls, Text.trimRight line = line
  apart : ls.IsChain IsApart
  filled : ∀ line ∈ ls.getLast?, line ≠ []

/-- The lines that the formatter leaves. -/
theorem areTidy_formatted (h : ∀ line ∈ ls, '\n' ∉ line) :
    AreTidy (dropEmptyEnd (mergeEmpty (ls.map Text.trimRight))) := by
  have hmem {line : List Char}
      (hline : line ∈ dropEmptyEnd (mergeEmpty (ls.map Text.trimRight))) :
      ∃ raw ∈ ls, Text.trimRight raw = line :=
    List.mem_map.1 ((mergeEmpty_sublist _).mem ((dropEmptyEnd_isPrefix _).mem hline))
  refine ⟨fun line hline hfeed => ?_, fun line hline => ?_, ?_, fun line hline => ?_⟩
  · obtain ⟨raw, hraw, rfl⟩ := hmem hline
    exact h raw hraw ((List.rdropWhile_prefix Text.isBlank raw).mem hfeed)
  · obtain ⟨raw, hraw, rfl⟩ := hmem hline
    exact List.rdropWhile_idempotent ..
  · obtain ⟨k, hmerged⟩ := dropEmptyEnd_append (mergeEmpty (ls.map Text.trimRight))
    exact List.IsChain.left_of_append (hmerged ▸ isChain_mergeEmpty _)
  · exact ne_nil_of_getLast?_dropEmptyEnd hline

theorem Text.dropReturn_of_trimRight {line : List Char} (h : trimRight line = line) :
    dropReturn line = line := by
  obtain hline | hline := dropReturn_cases line
  · exact hline.symm
  · rw [hline] at h
    have hblank : trimRight (dropReturn line ++ ['\r']) = trimRight (dropReturn line) :=
      List.rdropWhile_concat_pos _ _ _ (by decide)
    rw [hblank] at h
    have hlength := (List.rdropWhile_prefix isBlank (dropReturn line)).length_le
    rw [show List.rdropWhile isBlank (dropReturn line) = _ from h, List.length_append] at hlength
    exact absurd hlength (Nat.not_succ_le_self _)

/-- Lines in normal form are kept. -/
theorem formatDocument_closeLines (h : AreTidy ls) :
    formatDocument (closeLines ls) = closeLines ls := by
  have hlines : Text.lines (closeLines ls).toList = ls := by
    rw [Text.lines_closeLines h.inLine]
    exact (List.map_congr_left fun line hline =>
      Text.dropReturn_of_trimRight (h.trimmed line hline)).trans (List.map_id ls)
  rw [formatDocument, hlines, List.map_congr_left h.trimmed, List.map_id',
    mergeEmpty_eq_self h.apart, dropEmptyEnd_eq_self h.filled]

/-- A formatted text: no line ends with a blank, no two lines in a row are blank, and it ends with
    exactly one line feed if there is anything in it. -/
structure Text.IsTidy (cs : List Char) : Prop where
  trimmed : ∀ line ∈ pieces cs, ∀ c ∈ line.getLast?, isBlank c = false
  apart : (pieces cs).IsChain fun line next => ¬ (line.all isBlank ∧ next.all isBlank)
  ended : cs = [] ∨ ∃ front c, cs = front ++ [c, '\n'] ∧ c ≠ '\n'

namespace AreTidy

variable (h : AreTidy ls)
include h

/-- A blank line in normal form is empty. -/
theorem eq_nil_of_isBlank {line : List Char} (hline : line ∈ ls)
    (hblank : line.all Text.isBlank = true) : line = [] := by
  rw [← h.trimmed line hline]
  exact List.rdropWhile_eq_nil_iff.2 (List.all_eq_true.1 hblank)

theorem isTidy_closeLines : Text.IsTidy (closeLines ls).toList := by
  have hpieces := Text.pieces_closeLines h.inLine
  refine ⟨fun line hline c hc => ?_, ?_, ?_⟩
  · rw [hpieces, List.mem_append, List.mem_singleton] at hline
    obtain hline | rfl := hline
    · obtain ⟨hne, rfl⟩ := List.mem_getLast?_eq_getLast hc
      exact Bool.eq_false_iff.2 (List.rdropWhile_eq_self_iff.1 (h.trimmed line hline) hne)
    · cases hc
  · rw [hpieces, List.isChain_append]
    refine ⟨h.apart.imp_of_mem_imp fun line next hline hnext hapart hblank => ?_, .singleton _, ?_⟩
    · exact hapart ⟨h.eq_nil_of_isBlank hline hblank.1, h.eq_nil_of_isBlank hnext hblank.2⟩
    · intro line hline next hnext hblank
      exact h.filled line hline (h.eq_nil_of_isBlank (List.mem_of_getLast? hline) hblank.1)
  · rcases List.eq_nil_or_concat ls with rfl | ⟨init, last, rfl⟩
    · exact .inl rfl
    · have hlast : last ≠ [] := h.filled last (by simp)
      obtain ⟨front, c, rfl⟩ := (List.eq_nil_or_concat last).resolve_left hlast
      refine .inr ⟨(closeLines init).toList ++ front, c, ?_, ?_⟩
      · rw [List.concat_eq_append, Text.toList_closeLines_append, Text.toList_closeLines_cons]
        simp [Text.toList_closeLines_nil]
      · rintro rfl
        exact h.inLine (front.concat '\n') (by simp) (by simp)

end AreTidy

/-! ## What a formatted document says -/

theorem tidied_mergeEmpty (ls : List (List Char)) :
    Text.Tidied True (closeLines ls).toList (closeLines (mergeEmpty ls)).toList := by
  fun_induction mergeEmpty ls with
  | case1 => exact .nil
  | case2 rest merged hmerged ih =>
    have hhead := head?_mergeEmpty rest
    rw [hmerged] at hhead ih
    obtain ⟨rest, rfl⟩ := List.head?_eq_some_iff.1 hhead.symm
    rw [Text.toList_closeLines_cons, Text.toList_closeLines_cons] at ih ⊢
    rw [Text.toList_closeLines_cons]
    exact .merge trivial ih
  | case3 rest line hapart ih =>
    rw [Text.toList_closeLines_cons, Text.toList_closeLines_cons]
    exact (Text.Tidied.keep '\n' ih).append_left line

/-- Empty lines at the end are line feeds behind the last one. -/
theorem tidied_dropEmptyEnd (h : ls ≠ []) (k : Nat) : Text.Tidied True
    (closeLines (ls ++ List.replicate k [])).toList (closeLines ls).toList := by
  obtain ⟨init, last, rfl⟩ := (List.eq_nil_or_concat ls).resolve_left h
  have hfeeds : Text.Tidied True ('\n' :: (closeLines (List.replicate k [])).toList) ['\n'] := by
    induction k with
    | zero => exact .refl True _
    | succ k ih =>
      rw [List.replicate_succ, Text.toList_closeLines_cons]
      exact .merge trivial ih
  rw [List.concat_eq_append, List.append_assoc, List.singleton_append,
    Text.toList_closeLines_append, Text.toList_closeLines_append, Text.toList_closeLines_cons,
    Text.toList_closeLines_cons]
  exact (hfeeds.append_left last).append_left _

/-- A document of empty lines says nothing. -/
theorem restates_empty (k : Nat) : Restates (closeLines (List.replicate k [])) "" := by
  have hlines : Restates "" (closeLines (List.replicate k [])) := by
    induction k with
    | zero => exact fun hempty => ⟨hempty, rfl⟩
    | succ k ih =>
      have hlast : closeLines (List.replicate (k + 1) []) =
          closeLines (List.replicate k []) ++ "\n" := by
        rw [List.replicate_succ']
        simp [closeLines]
      rw [hlast]
      exact ih.trans (restates_append_newline _)
  exact fun _ => ⟨rfl, (hlines rfl).2.symm⟩

theorem restates_dropEmptyEnd (ls : List (List Char)) :
    Restates (closeLines ls) (closeLines (dropEmptyEnd ls)) := by
  obtain ⟨k, hls⟩ := dropEmptyEnd_append ls
  by_cases hempty : dropEmptyEnd ls = []
  · rw [hempty, List.nil_append] at hls
    rw [hempty, ← hls]
    exact restates_empty k
  · nth_rewrite 1 [← hls]
    exact (tidied_dropEmptyEnd hempty k).restates

/-- A formatted document says what the document says. -/
theorem restates_formatDocument (text : String) : Restates text (formatDocument text) := by
  have htrimmed := Text.tidied_trimRight False fun line (h : line ∈ Text.lines text.toList) =>
    Text.not_mem_of_mem_lines h
  exact (restates_closeLines_lines text).trans <| htrimmed.restates.trans <|
    (tidied_mergeEmpty _).restates.trans (restates_dropEmptyEnd _)

/-- For every document: formatting it twice is formatting it once; what comes out is tidy; and if
    there are no lexical errors in the document then there are none in what comes out, whose tokens
    are of the same kinds and texts, but for line ends in a row and at the end. -/
theorem formatDocument_isTidy (text : String) :
    formatDocument (formatDocument text) = formatDocument text ∧
    Text.IsTidy (formatDocument text).toList ∧
    ((tokenize text).errors = [] → (tokenize (formatDocument text)).errors = [] ∧
      Token.outline (tokenize (formatDocument text)).tokens =
        Token.outline (tokenize text).tokens) := by
  have htidy := areTidy_formatted fun line (h : line ∈ Text.lines text.toList) =>
    Text.not_mem_of_mem_lines h
  exact ⟨formatDocument_closeLines htidy, htidy.isTidy_closeLines, restates_formatDocument text⟩

/-- Blanks are kept in a string, and dropped in a comment together with one of its line feeds. -/
theorem formatDocument_isTidy_of_comment : ∃ text, text = "s = 'a  '  \n\n\t\n/* b \n\n\n*/ // c" ∧
    formatDocument text = "s = 'a  '\n\n/* b\n\n*/ // c\n" ∧ (tokenize text).errors = [] ∧
    (tokenize (formatDocument text)).errors = [] ∧
    Token.outline (tokenize (formatDocument text)).tokens =
      Token.outline (tokenize text).tokens := by
  have herrors : (tokenize "s = 'a  '  \n\n\t\n/* b \n\n\n*/ // c").errors = [] := by
    decide +kernel
  obtain ⟨-, -, hsays⟩ := formatDocument_isTidy "s = 'a  '  \n\n\t\n/* b \n\n\n*/ // c"
  exact ⟨_, rfl, by decide +kernel, herrors, hsays herrors⟩

end SunLint
