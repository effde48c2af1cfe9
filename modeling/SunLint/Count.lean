/-!
# Counts of 32 bits

Lines, columns and widths are exchanged with editors as numbers of 32 bits, and what is computed of
them has to be such a number again. A sum that is too large is none, and neither is a difference
below zero.

Everything else counts without a bound: the positions and widths of tokens, the number of tokens
around an error, and the columns of what is found in a text. There the counts are those of
characters and tokens that a text has, and all of them fit as long as the text has fewer than
`2 ^ 31 - 1` characters. Longer texts are left out, and so are numbers of tokens that take more than
a machine word.

* `add?_eq_some_iff`, `add?_eq_none_iff`: when there is a sum, and which.
-/

namespace SunLint.Count

/-- The first number that does not fit into 32 bits. -/
def bound : Nat := 4294967296

/-- The sum, if it fits. -/
def add? (m n : Nat) : Option Nat := if m + n < bound then some (m + n) else none

/-- The difference, if it is not below zero. -/
def sub? (m n : Nat) : Option Nat := if n ≤ m then some (m - n) else none

theorem add?_eq_some_iff {m n k : Nat} : add? m n = some k ↔ m + n < bound ∧ m + n = k := by
  rw [add?, Option.ite_none_right_eq_some, Option.some.injEq]

theorem add?_eq_none_iff {m n : Nat} : add? m n = none ↔ bound ≤ m + n := by
  rw [add?, ite_eq_right_iff]
  simp

theorem sub?_of_le {m n : Nat} (h : n ≤ m) : sub? m n = some (m - n) := if_pos h

end SunLint.Count
