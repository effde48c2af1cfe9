import Mathlib.Order.Basic
import SunLint.Token.Cursor

/-!
# The order of the places in a list

One cursor is before another one if both are in the same list and its index is not
greater. All moves go forward in this order, and what is ahead of a cursor gets
shorter by them.

In a list that ends with the end of the input (`IsTerminated`), a token of any
other kind is not the last one. To move on from it makes a difference.
-/

namespace SunLint

namespace Cursor

instance : LE Cursor where
  le c d := c.tokens = d.tokens ∧ c.index ≤ d.index

/-- A cursor is given by its list and its index. -/
theorem eq_of_index_eq {c d : Cursor} (ht : c.tokens = d.tokens) (hi : c.index = d.index) :
    c = d := by
  obtain ⟨b, f, a⟩ := c
  obtain ⟨b', f', a'⟩ := d
  simp only [tokens, index] at ht hi
  obtain ⟨hb, hfa⟩ := List.append_inj ht (by simpa using hi)
  rw [List.reverse_inj.1 hb, (List.cons.inj hfa).1, (List.cons.inj hfa).2]

instance : PartialOrder Cursor where
  le_refl c := ⟨rfl, Nat.le_refl _⟩
  le_trans _ _ _ h h' := ⟨h.1.trans h'.1, Nat.le_trans h.2 h'.2⟩
  le_antisymm _ _ h h' := eq_of_index_eq h.1 (Nat.le_antisymm h.2 h'.2)

variable {c d : Cursor}

theorem lt_def : c < d ↔ c.tokens = d.tokens ∧ c.index < d.index := by
  constructor
  · rintro ⟨⟨ht, _⟩, hn⟩
    exact ⟨ht, Nat.lt_of_not_le fun hle => hn ⟨ht.symm, hle⟩⟩
  · rintro ⟨ht, hi⟩
    exact ⟨⟨ht, Nat.le_of_lt hi⟩, fun h => Nat.not_le_of_lt hi h.2⟩

/-! ## What is ahead -/

theorem index_add_length_ahead (c : Cursor) : c.index + c.ahead.length + 1 = c.tokens.length := by
  simp only [tokens, index, List.length_append, List.length_reverse, List.length_cons]
  omega

/-- The index is within the list, and the token there is the one under the cursor. -/
theorem getElem?_index (c : Cursor) : c.tokens[c.index]? = some c.focus := by
  simp [tokens, index]

theorem length_ahead_le (h : c ≤ d) : d.ahead.length ≤ c.ahead.length := by
  have hc := index_add_length_ahead c
  have hd := index_add_length_ahead d
  rw [h.1] at hc
  have := h.2
  omega

theorem length_ahead_lt (h : c < d) : d.ahead.length < c.ahead.length := by
  have hc := index_add_length_ahead c
  have hd := index_add_length_ahead d
  rw [(lt_def.1 h).1] at hc
  have := (lt_def.1 h).2
  omega

/-! ## Moves -/

theorem lt_next (h : c.ahead ≠ []) : c < c.next :=
  lt_def.2 ⟨(tokens_next c).symm, by rw [index_next h]; omega⟩

theorem le_next (c : Cursor) : c ≤ c.next := by
  cases h : c.ahead with
  | nil => rw [next, h]
  | cons t ts => exact (lt_next (by rw [h]; exact List.cons_ne_nil _ _)).le

theorem le_seek (c : Cursor) (n : Nat) : c ≤ c.seek n := by
  induction n generalizing c with
  | zero => exact le_refl c
  | succ n ih => exact (le_next c).trans (ih c.next)

theorem le_skip (c : Cursor) (p : Kind → Bool) : c ≤ c.skip p := by
  refine ⟨(tokens_skip c p).symm, ?_⟩
  obtain ⟨b, f, a⟩ := c
  unfold skip
  induction a generalizing b f with
  | nil => exact Nat.le_refl _
  | cons t ts ih =>
    simp only [skipWhile]
    split
    · exact Nat.le_trans (Nat.le_succ b.length) (ih (f :: b) t)
    · exact Nat.le_refl _

/-! ## What is still to be read -/

/-- The token under the cursor and those ahead. -/
def rest (c : Cursor) : List Token := c.focus :: c.ahead

theorem rest_eq_cons {t : Token} {l : List Token} : c.rest = t :: l ↔ c.focus = t ∧ c.ahead = l :=
  List.cons_eq_cons

/-- From the first token on the whole list is to be read. -/
theorem rest_of_ofList? {l : List Token} (h : ofList? l = some c) : c.rest = l ∧ c.behind = [] := by
  cases l with
  | nil => cases h
  | cons t l =>
    cases h
    exact ⟨rfl, rfl⟩

theorem next_of_rest {t t' : Token} {l : List Token} (h : c.rest = t :: t' :: l) :
    c.next = ⟨t :: c.behind, t', l⟩ := by
  obtain ⟨hfocus, hahead⟩ := rest_eq_cons.1 h
  rw [next, hahead, hfocus]

theorem skip_append {p : Kind → Bool} {l r : List Token} {t : Token} (h : c.rest = l ++ t :: r)
    (hl : ∀ a ∈ l, p a.kind = true) : c.skip p = skip ⟨l.reverse ++ c.behind, t, r⟩ p := by
  obtain ⟨b, f, a⟩ := c
  unfold skip
  dsimp only [rest] at h ⊢
  induction l generalizing b f a with
  | nil =>
    cases h
    rfl
  | cons x l ih =>
    have hx := hl x List.mem_cons_self
    have hrest := fun b f a h => ih (fun a ha => hl a (List.mem_cons_of_mem _ ha)) b f a h
    cases hmore : l ++ t :: r with
    | nil => simp at hmore
    | cons y more =>
      rw [List.cons_append, hmore] at h
      obtain ⟨rfl, rfl⟩ := List.cons_eq_cons.1 h
      rw [skipWhile, if_pos hx, hrest _ _ _ hmore.symm, List.reverse_cons, List.append_assoc]
      rfl

theorem skip_eq_self {p : Kind → Bool} (h : p c.focus.kind = false) : c.skip p = c := by
  obtain ⟨b, f, a⟩ := c
  cases a <;> simp [skip, skipWhile, show p f.kind = false from h]

/-- The move stops at the first token that is not to be skipped. -/
theorem skip_of_rest {p : Kind → Bool} {l r : List Token} {t : Token} (h : c.rest = l ++ t :: r)
    (hl : ∀ a ∈ l, p a.kind = true) (ht : p t.kind = false) :
    c.skip p = ⟨l.reverse ++ c.behind, t, r⟩ := by
  rw [skip_append h hl, skip_eq_self ht]

/-- What is skipped does not depend on what is behind. -/
theorem rest_skip_congr (h : c.rest = d.rest) (p : Kind → Bool) :
    (c.skip p).rest = (d.skip p).rest := by
  obtain ⟨b, f, a⟩ := c
  obtain ⟨b', f', a'⟩ := d
  obtain ⟨rfl, rfl⟩ := List.cons_eq_cons.1 h
  rw [skip, skip]
  clear h
  induction a generalizing b b' f with
  | nil => rfl
  | cons t ts ih =>
    dsimp only [skipWhile] at ih ⊢
    split
    · exact ih (f :: b) t (f :: b')
    · rfl

/-! ## Lists that end with the end of the input -/

/-- The list ends with the end of the input. -/
def IsTerminated (c : Cursor) : Prop := c.tokens.getLast?.map (·.kind) = some .eof

theorem IsTerminated.of_le (h : c.IsTerminated) (hle : c ≤ d) : d.IsTerminated := by
  rw [IsTerminated, ← hle.1]
  exact h

/-- Behind any token but the end of the input there is another one. -/
theorem IsTerminated.ahead_ne_nil (h : c.IsTerminated) (hk : c.focus.kind ≠ .eof) :
    c.ahead ≠ [] := by
  intro ha
  rw [IsTerminated, tokens, ha, List.getLast?_concat] at h
  exact hk (Option.some.inj h)

theorem IsTerminated.lt_next (h : c.IsTerminated) (hk : c.focus.kind ≠ .eof) : c < c.next :=
  Cursor.lt_next (h.ahead_ne_nil hk)

/-- The next token is the first one ahead. -/
theorem focus_next (h : c.ahead ≠ []) : c.next.focus :: c.next.ahead = c.ahead := by
  obtain ⟨b, f, a⟩ := c
  cases a with
  | nil => exact absurd rfl h
  | cons t ts => rfl

/-- If the list has a single end of the input then there is nothing behind it. -/
theorem ahead_eq_nil (hlast : ∀ t ∈ c.tokens.dropLast, t.kind ≠ .eof)
    (hk : c.focus.kind = .eof) : c.ahead = [] := by
  cases ha : c.ahead with
  | nil => rfl
  | cons t ts =>
    refine absurd hk (hlast c.focus ?_)
    rw [tokens, ha, List.dropLast_append_cons]
    exact List.mem_append_right _ (by simp)

end Cursor

end SunLint
