import SunLint.Editor.ClientDiagnostic
import SunLint.Proofs.Report.Pointing
import SunLint.Proofs.Text.Columns
import SunLint.Proofs.Token.Neighbours

/-!
# Where words are

A token that is a word or a directive is a chunk of the text, and it stands on one line. So the line
of the text that the token is on is what stands in front of it behind the last line feed, the token,
and more of what is behind it, and editors are given the range of the token on this line.

* `Token.exists_isWordIn`: a token of a kind of words is a word of the text (`Token.IsWordIn`);
* `Token.IsWordIn.exists_line`, `Token.IsWordIn.range_eq`: the line that the word is on, and its
  range.
-/

namespace SunLint

variable {shape : Shape} {source : String} {t : Token} {before after : List Chunk}

/-! ## Kinds of words -/

/-- What the tokens of that kind are read from, if it is a kind of words. -/
def Kind.wordShape? : Kind → Option Shape
  | .directive => some .directive
  | .text => some .word
  | kind => if kind.isKeyword then some .word else none

theorem Placed.shape_eq {ch : Placed} {rest : List Char} {kind : Kind} (hfits : ch.Fits rest)
    (h : ch.kind? = some kind) (hkind : kind.wordShape? = some shape) : ch.shape = shape := by
  unfold kind? at h
  unfold Chunk.Fits at hfits
  cases hshape : ch.shape with
  | word =>
    rw [hshape] at h
    obtain rfl := Option.some.inj h
    cases hword : Kind.ofWord? (String.ofList ch.text) with
    | none =>
      rw [hword] at hkind
      exact Option.some.inj hkind
    | some keyword =>
      rw [hword] at hkind
      have hspelling := Kind.spelling?_of_ofWord? hword
      cases keyword <;> first | exact Option.some.inj hkind | cases hspelling
  | directive =>
    rw [hshape] at h
    obtain rfl := Option.some.inj h
    exact Option.some.inj hkind
  | mark mark =>
    rw [hshape] at h hfits
    obtain rfl : mark = kind := Option.some.inj h
    have hnone : mark.wordShape? = none := by cases mark <;> first | rfl | cases hfits
    rw [hnone] at hkind
    cases hkind
  | operator =>
    rw [hshape] at h
    dsimp only at h
    split at h <;> obtain rfl := Option.some.inj h <;> cases hkind
  | _ =>
    rw [hshape] at h
    cases h <;> cases hkind

theorem Kind.shape_of_wordShape? {kind : Kind} (h : kind.wordShape? = some shape) :
    shape = .word ∨ shape = .directive := by
  cases kind <;> cases h <;> simp

/-- The place between two parts of a line. -/
theorem Place.inUnits_append {n : Nat} {front back : List Char}
    (h : (Text.lines source.toList)[n]? = some (front ++ back)) :
    inUnits source ⟨n, front.length⟩ = ⟨n, (Text.utf16 front).length⟩ := by
  rw [inUnits, h, Option.getD_some, Text.unitColumn_append]

/-! ## Words of a text -/

/-- The token is a word of the text, which stands between the other chunks. -/
structure Token.IsWordIn (source : String) (t : Token) (shape : Shape) (before after : List Chunk) :
    Prop where
  kind : t.kind.wordShape? = some shape
  isWord : IsWord shape t.text.toList
  chunks : chunks (Text.body source) = before ++ ⟨shape, t.text.toList⟩ :: after
  token : Placed.token? ⟨⟨shape, t.text.toList⟩, t.position⟩ = some t
  position : t.position = Position.start.after (joined before)

/-- A token of a kind of words is a word of the text. -/
theorem Token.exists_isWordIn (h : t ∈ (tokenize source).tokens)
    (hkind : t.kind.wordShape? = some shape) :
    ∃ before after, t.IsWordIn source shape before after := by
  obtain h | h := List.mem_append.1 h
  · obtain ⟨ch, hch, ht⟩ := List.mem_filterMap.1 h
    obtain ⟨hchunk, htext, hposition⟩ := Placed.token?_eq_some ht
    obtain ⟨-, rest, hfits⟩ := fits_of_mem_placedChunks hch
    obtain rfl := Placed.shape_eq hfits hchunk hkind
    obtain ⟨before, after, hchunks, hbefore⟩ := exists_of_mem_placeFrom hch
    obtain ⟨hword, -⟩ := isWord_of_chunks hchunks (Kind.shape_of_wordShape? hkind)
    rw [← htext] at hword
    refine ⟨before, after, hkind, hword, ?_, ?_, hposition.trans hbefore⟩
    · rw [htext]
      exact hchunks
    · rw [htext, hposition]
      exact ht
  · rw [List.mem_singleton.1 h] at hkind
    cases hkind

namespace Token.IsWordIn

variable (h : t.IsWordIn source shape before after)
include h

/-- Words are as wide as they are long. -/
theorem width_eq : t.width = t.text.toList.length := by
  have hlength : max t.text.length 1 = t.text.toList.length := by
    rw [← String.length_toList, Nat.max_eq_left (List.length_pos_of_ne_nil h.isWord.ne_nil)]
  have hkind := h.kind
  rw [width]
  split
  · rename_i hnewline
    rw [hnewline] at hkind
    cases hkind
  · rename_i heof
    rw [heof] at hkind
    cases hkind
  · exact hlength

theorem position_eq : t.position = ⟨(joined before).count '\n' + 1,
    (Text.lastLine (joined before)).length + 1⟩ := by
  rw [h.position, Position.start_after, ← Position.ofIndex_append (joined before) [],
    List.append_nil]

theorem line_eq : t.position.line - 1 = (joined before).count '\n' := by
  rw [h.position_eq, Nat.add_sub_cancel]

theorem column_eq : t.position.column - 1 = (Text.lastLine (joined before)).length := by
  rw [h.position_eq, Nat.add_sub_cancel]

/-- No word character follows. -/
theorem head?_joined : ∀ c ∈ (joined after).head?, Text.isWordChar c = false :=
  (isWord_of_chunks h.chunks h.isWord.shape_eq).2

variable (hmark : source.toList.head? ≠ some '\ufeff')
include hmark

theorem toList_eq : source.toList = joined before ++ t.text.toList ++ joined after := by
  rw [← Text.body_of_head? hmark, ← joined_chunks (Text.body source), h.chunks, joined_append,
    joined_cons, List.append_assoc]

/-- The line of the word, for editors. -/
theorem exists_line : ∃ tail, tail <+: joined after ∧
    (Text.lines source.toList)[t.position.line - 1]? =
      some (Text.lastLine (joined before) ++ t.text.toList ++ tail) := by
  rw [h.line_eq]
  exact Text.lines_around_text (h.toList_eq hmark) h.isWord.ne_nil h.isWord.ne_lineEnd

/-- The range of the word, for editors. -/
theorem range_eq : (Range.ofPosition t.position.line t.position.column t.width).inUnits source =
    .onLine (t.position.line - 1) (Text.utf16 (Text.lastLine (joined before))).length
      (Text.utf16 (Text.lastLine (joined before) ++ t.text.toList)).length := by
  obtain ⟨tail, -, hline⟩ := h.exists_line hmark
  have hwidth : max t.width 1 = t.text.toList.length := by
    rw [h.width_eq, Nat.max_eq_left (List.length_pos_of_ne_nil h.isWord.ne_nil)]
  rw [Range.ofPosition, h.column_eq, hwidth, Range.inUnits, Range.onLine, Range.onLine,
    ← List.length_append, Place.inUnits_append hline]
  rw [List.append_assoc] at hline
  rw [Place.inUnits_append hline]

end Token.IsWordIn

end SunLint
