import Mathlib.Data.List.Induction
import SunLint.Token.Position

/-!
# The place of a character in a text

A position is found by moving over the text character by character. Here it is counted
from the text in front of it (`ofIndex`): the line is one more than the number of line
feeds there, the column one more than the number of characters behind the last of them.

`ofIndex_lt`: positions are in the order of the text.
-/

namespace SunLint.Position

/-- The position of the character of index `i`, or of the end of the text. -/
def ofIndex (u : List Char) (i : Nat) : Position where
  line := (u.take i).count '\n' + 1
  column := ((u.take i).reverse.takeWhile (· ≠ '\n')).length + 1

/-- The position behind a text is counted from all of it. -/
theorem start_after (cs : List Char) : start.after cs = ofIndex cs cs.length := by
  induction cs using List.reverseRecOn with
  | nil => rfl
  | append_singleton cs c ih =>
    rw [after_append, ih, after_cons, after_nil]
    simp only [ofIndex, List.take_length]
    by_cases h : c = '\n'
    · simp [next, h]
    · simp [next, h]

theorem start_after_take (u : List Char) (i : Nat) : start.after (u.take i) = ofIndex u i := by
  rw [start_after]
  simp only [ofIndex, List.take_length]

/-- The stretch between two indices leads from the position of the one to that of the
    other. -/
theorem ofIndex_add (u : List Char) (i n : Nat) :
    ofIndex u (i + n) = (ofIndex u i).after ((u.drop i).take n) := by
  rw [← start_after_take, ← start_after_take, List.take_add, after_append]

/-! ## Order -/

instance : LT Position where
  lt p q := p.line < q.line ∨ p.line = q.line ∧ p.column < q.column

theorem lt_trans {p q r : Position} (h : p < q) (h' : q < r) : p < r := by
  change _ ∨ _ at h h' ⊢
  omega

theorem ne_of_lt {p q : Position} (h : p < q) : p ≠ q := by
  rintro rfl
  change _ ∨ _ at h
  omega

theorem lt_next (p : Position) (c : Char) : p < p.next c := by
  rw [next]
  split
  · exact .inl (Nat.lt_succ_self _)
  · exact .inr ⟨rfl, Nat.lt_succ_self _⟩

theorem lt_after (p : Position) {cs : List Char} (h : cs ≠ []) : p < p.after cs := by
  induction cs generalizing p with
  | nil => exact absurd rfl h
  | cons c cs ih =>
    rw [after_cons]
    cases cs with
    | nil => exact lt_next p c
    | cons d ds => exact lt_trans (lt_next p c) (ih _ (List.cons_ne_nil _ _))

/-- What is further on in the text has a greater position. -/
theorem ofIndex_lt {u : List Char} {i j : Nat} (h : i < j) (hj : j ≤ u.length) :
    ofIndex u i < ofIndex u j := by
  obtain ⟨n, rfl⟩ := Nat.exists_eq_add_of_lt h
  rw [Nat.add_assoc, ofIndex_add]
  refine lt_after _ fun hnil => ?_
  have hlength := congrArg List.length hnil
  simp only [List.length_take, List.length_drop, List.length_nil] at hlength
  omega

end SunLint.Position
