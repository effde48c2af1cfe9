import SunLint.Proofs.Editor.ClosedLines
import SunLint.Proofs.Parser.Sound
import SunLint.Proofs.Tree.Rearranged

/-!
# Sound lines

Lines are sound if the text that they are put together to is (`AreSound`).

* `AreSound.append`, `AreSound.of_append`, `AreSound.cut`: the lines may be put together and taken
  apart like texts, with no lines at all as a case;
* `areSound_blank`: a blank line is sound;
* `AreSound.trim`: so is a sound line without the blanks around it.
-/

namespace SunLint

variable {line : List Char} {ls ls' : List (List Char)}

/-! ## Joining -/

/-- The text of the lines, with a line feed between two of them. -/
def joinLines (ls : List (List Char)) : String := String.ofList (Text.unlines ls)

theorem joinLines_singleton (line : List Char) : joinLines [line] = String.ofList line := by
  simp [joinLines, Text.unlines]

theorem joinLines_cons (line : List Char) (hls : ls ≠ []) :
    joinLines (line :: ls) = String.ofList line ++ "\n" ++ joinLines ls := by
  obtain ⟨next, ls, rfl⟩ := List.exists_cons_of_ne_nil hls
  simp [joinLines, Text.unlines, List.intercalate_cons_cons, String.ext_iff]

theorem joinLines_append (hls : ls ≠ []) (hls' : ls' ≠ []) :
    joinLines (ls ++ ls') = joinLines ls ++ "\n" ++ joinLines ls' := by
  induction ls with
  | nil => exact absurd rfl hls
  | cons line ls ih =>
    by_cases hlast : ls = []
    · rw [hlast, List.singleton_append, joinLines_cons line hls', joinLines_singleton]
    · rw [List.cons_append, joinLines_cons line (by simp [hls']), ih hlast,
        joinLines_cons line hlast]
      simp only [String.append_assoc]

theorem joinLines_concat (ls : List (List Char)) : joinLines (ls ++ [[]]) = closeLines ls := by
  induction ls with
  | nil => rfl
  | cons line ls ih =>
    rw [List.cons_append, joinLines_cons line (by simp), ih, String.ext_iff]
    simp [Text.toList_closeLines_cons]

theorem head?_joinLines {x : Char} (hx : x ≠ '\n') :
    (joinLines (line :: ls)).toList.head? = some x ↔ line.head? = some x := by
  by_cases hls : ls = []
  · rw [hls, joinLines_singleton, String.toList_ofList]
  · rw [joinLines_cons line hls]
    cases line <;> simp [hx.symm]

/-! ## Sound lines -/

/-- No error is found in the text of the lines, the items are what is read from it, and it does not
    start with a byte-order mark. -/
structure AreSound (dictionary : Dictionary) (settings : Settings) (ls : List (List Char))
    (found : List Item) : Prop where
  isSound : IsSound dictionary settings (joinLines ls) found
  unmarked : ∀ line ∈ ls.head?, line.head? ≠ some '\ufeff'

variable {dictionary : Dictionary} {settings : Settings} {x y z : List Item}

theorem unmarked_iff : (∀ line ∈ ls.head?, line.head? ≠ some '\ufeff') ↔
    (joinLines ls).toList.head? ≠ some '\ufeff' := by
  cases ls with
  | nil => simp [joinLines, Text.unlines]
  | cons line ls => simp [head?_joinLines (x := '\ufeff') (by decide)]

theorem areSound_nil : AreSound dictionary settings [] [] :=
  ⟨isSound_of_blanks (List.forall_mem_nil _) dictionary settings, by simp⟩

/-- Nothing is read from a blank line. -/
theorem areSound_blank {blanks : List Char}
    (hblanks : ∀ x ∈ blanks, Text.isBlank x = true ∧ x ≠ '\n') :
    AreSound dictionary settings [blanks] [] := by
  refine ⟨?_, ?_⟩
  · rw [joinLines_singleton]
    exact isSound_of_blanks hblanks dictionary settings
  · have hmark : (blanks ++ []).head? ≠ some '\ufeff' := head?_append_ne hblanks (by simp)
    simpa using hmark

namespace AreSound

theorem eq_nil (h : AreSound dictionary settings [] x) : x = [] :=
  h.isSound.unique areSound_nil.isSound

/-- What is read from lines put together is what is read from the parts. -/
theorem append (h : AreSound dictionary settings ls x) (h' : AreSound dictionary settings ls' y) :
    ∃ z, AreSound dictionary settings (ls ++ ls') z ∧ Rearranged z (x ++ y) := by
  rcases eq_or_ne ls [] with rfl | hls
  · exact ⟨y, h', by rw [h.eq_nil]; exact .refl y⟩
  rcases eq_or_ne ls' [] with rfl | hls'
  · exact ⟨x, by rwa [List.append_nil], by rw [h'.eq_nil, List.append_nil]; exact .refl x⟩
  have hwhole := (h.isSound.append_iff (unmarked_iff.1 h'.unmarked)).2 ⟨y, h'.isSound, rfl⟩
  rw [← joinLines_append hls hls'] at hwhole
  refine ⟨_, ⟨hwhole, ?_⟩, (Rearranged.refl x).append (Rearranged.down _ y).symm⟩
  rw [List.head?_append_of_ne_nil _ hls]
  exact h.unmarked

/-- What follows on sound lines is sound if the whole is. -/
theorem of_append (h : AreSound dictionary settings ls x)
    (h' : AreSound dictionary settings (ls ++ ls') z) :
    ∃ y, AreSound dictionary settings ls' y ∧ Rearranged z (x ++ y) := by
  rcases eq_or_ne ls [] with rfl | hls
  · exact ⟨z, h', by rw [h.eq_nil]; exact .refl z⟩
  rcases eq_or_ne ls' [] with rfl | hls'
  · rw [List.append_nil] at h'
    refine ⟨[], areSound_nil, ?_⟩
    rw [h'.isSound.unique h.isSound, List.append_nil]
    exact .refl x
  have hwhole := h'.isSound
  rw [joinLines_append hls hls'] at hwhole
  have hmark := head?_ne_of_errors h.isSound.lexical hwhole.lexical
  obtain ⟨y, hy, rfl⟩ := (h.isSound.append_iff hmark).1 hwhole
  exact ⟨y, ⟨hy, unmarked_iff.2 hmark⟩, (Rearranged.refl x).append (Rearranged.down _ y).symm⟩

end AreSound

/-- The lines of a document, each closed by a line feed, say what the document says. -/
theorem IsSound.closeLines_lines {text : String} (h : IsSound dictionary settings text x) :
    IsSound dictionary settings (closeLines (Text.lines text.toList)) x := by
  obtain hlines | hlines := Text.tidied_closeLines_lines False text.toList
  · exact h.of_tidied hlines
  · -- The last line gets its line feed first, behind which there is an empty text.
    have hfeed : IsSound dictionary settings (text ++ "\n" ++ "") x :=
      (h.append_iff (by decide)).2 ⟨[], areSound_nil.isSound, by simp⟩
    refine hfeed.of_tidied ?_
    simpa using hlines

/-- They start with the character that the document starts with, unless it is a blank. -/
theorem Text.head?_closeLines_lines {x : Char} (hx : isBlank x = false) (cs : List Char) :
    (closeLines (lines cs)).toList.head? = some x ↔ cs.head? = some x := by
  obtain h | h := tidied_closeLines_lines False cs
  · exact h.head?_eq_iff hx
  · rw [h.head?_eq_iff hx]
    cases cs with
    | nil =>
      have hfeed : isBlank '\n' = true := by decide
      simpa using (ne_of_isBlank hfeed hx).symm
    | cons c cs => rfl

/-! ## Lines with directives -/

section Directive

variable (hdirective : isDirectiveLine line = true) (hline : '\n' ∉ line)
include hdirective hline

theorem exists_of_isDirectiveLine : ∃ blanks cs, line = blanks ++ '@' :: cs ∧
    ∀ x ∈ blanks, Text.isBlank x = true ∧ x ≠ '\n' := by
  obtain ⟨cs, hcs⟩ := List.head?_eq_some_iff.1 (of_decide_eq_true hdirective)
  obtain ⟨tail, htail⟩ := List.rdropWhile_prefix Text.isBlank (line.dropWhile Text.isBlank)
  change Text.trim line ++ tail = _ at htail
  refine ⟨line.takeWhile Text.isBlank, cs ++ tail, ?_, fun x hx =>
    ⟨List.mem_takeWhile_imp hx, ?_⟩⟩
  · rw [← List.cons_append, ← hcs, htail, List.takeWhile_append_dropWhile]
  · rintro rfl
    exact hline (List.takeWhile_subset _ hx)

/-- What stands in front of a line with a directive is sound if the whole is and no comment is open
    there. -/
theorem AreSound.cut
    (hclosed : ∀ e ∈ (tokenize (joinLines ls)).errors, e.code ≠ .unterminatedComment)
    (h : AreSound dictionary settings (ls ++ line :: ls') z) :
    ∃ x, AreSound dictionary settings ls x := by
  rcases eq_or_ne ls [] with rfl | hls
  · exact ⟨[], areSound_nil⟩
  obtain ⟨blanks, cs, rfl, hblanks⟩ := exists_of_isDirectiveLine hdirective hline
  have hwhole := h.isSound
  rw [joinLines_append hls (by simp)] at hwhole
  obtain ⟨cs', hnext⟩ : ∃ cs',
      (joinLines ((blanks ++ '@' :: cs) :: ls')).toList = blanks ++ '@' :: cs' := by
    rcases eq_or_ne ls' [] with rfl | hls'
    · exact ⟨cs, by rw [joinLines_singleton, String.toList_ofList]⟩
    · exact ⟨cs ++ '\n' :: (joinLines ls').toList, by simp [joinLines_cons _ hls']⟩
  obtain ⟨x, hx⟩ := hwhole.cut hblanks hnext hclosed
  refine ⟨x, hx, ?_⟩
  rw [← List.head?_append_of_ne_nil _ hls]
  exact h.unmarked

/-- The blanks around a line with a directive may be left out. -/
theorem AreSound.trim (h : AreSound dictionary settings [line] x) :
    AreSound dictionary settings [Text.trim line] x := by
  have hmark : (Text.trim line).head? ≠ some '\ufeff' := by
    rw [of_decide_eq_true hdirective]
    decide
  refine ⟨?_, by simpa using hmark⟩
  obtain ⟨blanks, cs, rfl, hblanks⟩ := exists_of_isDirectiveLine hdirective hline
  have htrim : Text.trim (blanks ++ '@' :: cs) = Text.trimRight ('@' :: cs) := by
    rw [Text.trim, List.dropWhile_append_of_pos fun x hx => (hblanks x hx).1,
      List.dropWhile_cons_of_neg (by decide)]
  have hsound := h.isSound
  rw [joinLines_singleton] at hsound ⊢
  have hbody : Text.body (String.ofList (blanks ++ '@' :: cs)) = blanks ++ '@' :: cs :=
    body_of_blanks hblanks String.toList_ofList (by simp)
  have hbody' : Text.body (String.ofList ('@' :: cs)) = '@' :: cs :=
    body_of_blanks (List.forall_mem_nil _) String.toList_ofList (by simp)
  -- First the blanks in front, which are chunks of their own, and then those at the end of the line.
  have hfront : IsSound dictionary settings (String.ofList ('@' :: cs)) x := by
    refine hsound.of_chunks ?_ ?_
    · rw [hbody, hbody']
      exact tidied_chunks_append hblanks _
    · rw [hbody, hbody', List.count_append,
        List.count_eq_zero.2 fun hmem => (hblanks _ hmem).2 rfl, Nat.zero_add]
  refine hfront.of_tidied ?_
  rw [String.toList_ofList, String.toList_ofList, htrim]
  exact Text.tidied_trimRight_line _ fun hmem => hline (List.mem_append_right _ hmem)

end Directive

end SunLint
