import Mathlib.Data.List.DropRight
import SunLint.Editor.Tidy
import SunLint.Proofs.Token.Tidied

/-!
# Texts made of lines

Changes to a whole document cut it into lines, change these, and close each of them with a line
feed. What is lost on the way are carriage returns at the ends of lines, and what may come in is
the last line feed.

* `Text.lines_closeLines`: the lines are read back if none of them ends with a carriage return;
* `restates_closeLines_lines`: the text of the lines says what the document says (`Restates`);
* `Text.tidied_trimRight`: blanks at the ends of lines are no loss.
-/

namespace SunLint

namespace Text

variable {merges : Prop} {line cs ds : List Char} {ls ls' : List (List Char)}

/-! ## Cutting -/

theorem pieces_of_not_mem (h : '\n' ∉ cs) : pieces cs = [cs] := by
  induction cs with
  | nil => rfl
  | cons c cs ih =>
    rw [List.mem_cons, not_or] at h
    rw [pieces, if_neg (Ne.symm h.1), ih h.2]

/-- A last line without a line feed is a line unless it is empty. -/
theorem lines_of_not_mem (h : '\n' ∉ cs) (hcs : cs ≠ []) : lines cs = [cs] := by
  rw [lines, pieces_of_not_mem h, closedLines, if_neg (by simpa using hcs)]

theorem lines_line (h : '\n' ∉ line) (cs : List Char) :
    lines (line ++ '\n' :: cs) = dropReturn line :: lines cs := by
  rw [lines, pieces_append, pieces_of_not_mem h]
  cases hcs : pieces cs with
  | nil => exact absurd hcs (pieces_ne_nil cs)
  | cons piece rest => rw [lines, hcs]; rfl

/-- A text as its lines read one after the other. -/
theorem lines_induction {motive : List Char → Prop} (nil : motive [])
    (last : ∀ cs, '\n' ∉ cs → cs ≠ [] → motive cs)
    (line : ∀ line cs, '\n' ∉ line → motive cs → motive (line ++ '\n' :: cs)) (cs : List Char) :
    motive cs := by
  induction hn : cs.length using Nat.strongRecOn generalizing cs with
  | _ n ih =>
    obtain hcs | ⟨l, tail, rfl, hl⟩ := line_cases cs
    · by_cases hempty : cs = []
      · rwa [hempty]
      · exact last cs hcs hempty
    · exact line l tail hl (ih _ (by simp [← hn]; omega) tail rfl)

/-- What is left of a carriage return at its end. -/
theorem dropReturn_cases (line : List Char) :
    line = dropReturn line ∨ line = dropReturn line ++ ['\r'] := by
  unfold dropReturn
  split
  · rename_i rest hreverse
    exact .inr (by rw [← List.reverse_cons, ← hreverse, List.reverse_reverse])
  · exact .inl rfl

theorem dropReturn_isPrefix (line : List Char) : dropReturn line <+: line := by
  obtain h | h := dropReturn_cases line
  · rw [← h]
  · exact ⟨_, h.symm⟩

theorem not_mem_of_mem_lines (h : line ∈ lines cs) : '\n' ∉ line := by
  induction cs using lines_induction with
  | nil => cases h
  | last cs hcs hempty =>
    rw [lines_of_not_mem hcs hempty, List.mem_singleton] at h
    rwa [h]
  | line l cs hl ih =>
    rw [lines_line hl] at h
    obtain rfl | h := List.mem_cons.1 h
    · exact fun hmem => hl ((dropReturn_isPrefix l).mem hmem)
    · exact ih h

/-! ## Closing -/

theorem toList_closeLines_nil : (closeLines []).toList = [] := rfl

theorem toList_closeLines_cons (line : List Char) (ls : List (List Char)) :
    (closeLines (line :: ls)).toList = line ++ '\n' :: (closeLines ls).toList := by
  simp [closeLines]

theorem toList_closeLines_append (ls ls' : List (List Char)) :
    (closeLines (ls ++ ls')).toList = (closeLines ls).toList ++ (closeLines ls').toList := by
  simp [closeLines]

theorem pieces_closeLines (h : ∀ line ∈ ls, '\n' ∉ line) :
    pieces (closeLines ls).toList = ls ++ [[]] := by
  induction ls with
  | nil => rfl
  | cons line ls ih =>
    rw [List.forall_mem_cons] at h
    rw [toList_closeLines_cons, pieces_append, pieces_of_not_mem h.1, ih h.2]
    rfl

/-- The lines of a text are those that it is made of, without their carriage returns. -/
theorem lines_closeLines (h : ∀ line ∈ ls, '\n' ∉ line) :
    lines (closeLines ls).toList = ls.map dropReturn := by
  induction ls with
  | nil => rfl
  | cons line ls ih =>
    rw [List.forall_mem_cons] at h
    rw [toList_closeLines_cons, lines_line h.1, ih h.2, List.map_cons]

/-! ## Blanks at the ends of lines -/

theorem isBlankLine_append {blanks : List Char} (h : ∀ x ∈ blanks, isBlank x = true)
    (hline : '\n' ∉ blanks) (cs : List Char) : IsBlankLine (blanks ++ '\n' :: cs) := by
  rw [IsBlankLine, List.takeWhile_append_of_pos
      fun y hy => by simpa using ne_of_mem_of_not_mem hy hline,
    List.takeWhile_cons_of_neg (by simp), List.append_nil]
  exact h

theorem Tidied.line_end {blanks : List Char} (h : Tidied merges cs ds)
    (hblanks : ∀ x ∈ blanks, isBlank x = true) (hline : '\n' ∉ blanks) (line : List Char) :
    Tidied merges (line ++ blanks ++ '\n' :: cs) (line ++ '\n' :: ds) := by
  rw [List.append_assoc]
  refine append_left ?_ line
  induction blanks with
  | nil => exact .keep '\n' h
  | cons b blanks ih =>
    rw [List.forall_mem_cons] at hblanks
    rw [List.mem_cons, not_or] at hline
    exact .trim hblanks.1 (Ne.symm hline.1) (isBlankLine_append hblanks.2 hline.2 cs)
      (ih hblanks.2 hline.2)

/-- Carriage returns at the ends of lines are blanks. -/
theorem Tidied.dropReturn (h : Tidied merges cs ds) (line : List Char) :
    Tidied merges (line ++ '\n' :: cs) (dropReturn line ++ '\n' :: ds) := by
  obtain hline | hline := dropReturn_cases line
  · rw [← hline]
    exact append_left (.keep '\n' h) line
  · nth_rewrite 1 [hline]
    exact h.line_end (List.forall_mem_singleton.2 (by decide)) (by simp) _

theorem trimRight_append (line : List Char) : ∃ blanks, line = trimRight line ++ blanks ∧
    ∀ x ∈ blanks, isBlank x = true :=
  ⟨line.rtakeWhile isBlank, (List.rdropWhile_append_rtakeWhile ..).symm,
    fun _ hx => List.mem_rtakeWhile_imp hx⟩

theorem tidied_append_blanks {blanks : List Char}
    (hblanks : ∀ x ∈ blanks, isBlank x = true ∧ x ≠ '\n') (merges : Prop) (cs : List Char) :
    Tidied merges (cs ++ blanks) cs := by
  have hnone : Tidied merges blanks [] := by
    induction blanks with
    | nil => exact .nil
    | cons b blanks ih =>
      rw [List.forall_mem_cons] at hblanks
      exact .trim hblanks.1.1 hblanks.1.2
        (fun x hx => (hblanks.2 x (List.takeWhile_subset _ hx)).1) (ih hblanks.2)
  simpa using hnone.append_left cs

/-- Blanks at the end of a line without a line feed are no loss. -/
theorem tidied_trimRight_line (merges : Prop) (hline : '\n' ∉ line) :
    Tidied merges line (trimRight line) := by
  obtain ⟨blanks, heq, hblanks⟩ := trimRight_append line
  have hnone : ∀ x ∈ blanks, isBlank x = true ∧ x ≠ '\n' := by
    refine fun x hx => ⟨hblanks x hx, ?_⟩
    rintro rfl
    exact hline (heq ▸ List.mem_append_right _ hx)
  nth_rewrite 1 [heq]
  exact tidied_append_blanks hnone merges _

/-- Nor are those at the ends of the lines of a document. -/
theorem tidied_trimRight (merges : Prop) (h : ∀ line ∈ ls, '\n' ∉ line) :
    Tidied merges (closeLines ls).toList (closeLines (ls.map trimRight)).toList := by
  induction ls with
  | nil => exact .nil
  | cons line ls ih =>
    rw [List.forall_mem_cons] at h
    obtain ⟨blanks, hline, hblanks⟩ := trimRight_append line
    rw [List.map_cons, toList_closeLines_cons, toList_closeLines_cons]
    nth_rewrite 1 [hline]
    refine (ih h.2).line_end hblanks (fun hmem => h.1 ?_) _
    rw [hline]
    exact List.mem_append_right _ hmem

/-- Nor are the carriage returns, if the document ends with a line feed, which it may lack. -/
theorem tidied_closeLines_lines (merges : Prop) (cs : List Char) :
    Tidied merges cs (closeLines (lines cs)).toList ∨
      Tidied merges (cs ++ ['\n']) (closeLines (lines cs)).toList := by
  induction cs using lines_induction with
  | nil => exact .inl .nil
  | last cs hcs hempty =>
    rw [lines_of_not_mem hcs hempty, toList_closeLines_cons]
    exact .inr (.refl _ _)
  | line l cs hl ih =>
    rw [lines_line hl, toList_closeLines_cons, List.append_assoc]
    exact ih.imp (·.dropReturn l) (·.dropReturn l)

end Text

/-! ## Tokens -/

/-- The second document says what the first one says: there are no lexical errors in it either, and
    the tokens are the same but for line ends in a row or in front of the end. -/
def Restates (s t : String) : Prop := (tokenize s).errors = [] →
  (tokenize t).errors = [] ∧
    Token.outline (tokenize t).tokens = Token.outline (tokenize s).tokens

theorem Restates.trans {s t u : String} (h : Restates s t) (h' : Restates t u) :
    Restates s u := by
  intro hs
  obtain ⟨ht, houtline⟩ := h hs
  obtain ⟨hu, houtline'⟩ := h' ht
  exact ⟨hu, houtline'.trans houtline⟩

theorem Text.Tidied.restates {merges : Prop} {s t : String}
    (h : Tidied merges s.toList t.toList) : Restates s t :=
  fun hs => ⟨h.errors_eq_nil hs, h.outline_eq hs⟩

/-- A line feed at the end of a document says nothing. -/
theorem restates_append_newline (s : String) : Restates s (s ++ "\n") := by
  intro hs
  obtain ⟨pieces, p, -, htokens, htokens', herrors⟩ := tokenize_append (t := "") hs (by decide)
  have hempty : s ++ "\n" ++ "" = s ++ "\n" := by simp
  rw [hempty] at htokens' herrors
  refine ⟨herrors, ?_⟩
  rw [htokens, htokens']
  exact Token.outline_append_congr pieces (Token.outline_newline_eof rfl _)

theorem restates_closeLines_lines (text : String) :
    Restates text (closeLines (Text.lines text.toList)) := by
  obtain h | h := Text.tidied_closeLines_lines False text.toList
  · exact h.restates
  · have hline : Text.Tidied False (text ++ "\n").toList
        (closeLines (Text.lines text.toList)).toList := by
      rw [String.toList_append]
      exact h
    exact (restates_append_newline text).trans hline.restates

end SunLint
