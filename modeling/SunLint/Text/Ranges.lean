/-!
# Sets of characters as ranges

The classes of the Unicode character database are unions of a few hundred
intervals of code points. A `Ranges` lists them in ascending order, so that a
code point below the next interval is known to be in none of those that follow;
characters of the ASCII range are decided by the first few entries.
-/

namespace SunLint.Text

/-- Closed intervals of code points, in ascending order. -/
abbrev Ranges := List (Nat × Nat)

namespace Ranges

/-- Whether the code point `n` lies in one of the intervals. -/
def contains : Ranges → Nat → Bool
  | [], _ => false
  | (lo, hi) :: rest, n => if n < lo then false else if n ≤ hi then true else contains rest n

/-- A member lies in one of the listed intervals. -/
theorem exists_of_contains {r : Ranges} {n : Nat} (h : r.contains n = true) :
    ∃ p ∈ r, p.1 ≤ n ∧ n ≤ p.2 := by
  induction r with
  | nil => simp [contains] at h
  | cons p rest ih =>
    rw [contains] at h
    split at h
    · simp at h
    · split at h
      · exact ⟨p, List.mem_cons_self, by omega, by omega⟩
      · obtain ⟨q, hq, hle⟩ := ih h
        exact ⟨q, List.mem_cons_of_mem _ hq, hle⟩

end Ranges

end SunLint.Text
