import SunLint.Count

/-!
# Ranges

Places and ranges as editors count them: lines and characters from zero, the end
of a range not being part of it. Whether a character is a code point or a unit
of UTF-16 depends on who is talked to.

A position and a width may be any numbers of 32 bits, so that the range may end
behind the last column there is (`Range.ofPosition?`). `Range.ofPosition` has no
bound. It is for positions within a text.
-/

namespace SunLint

/-- A place between two characters of a text. -/
structure Place where
  line : Nat
  character : Nat
deriving DecidableEq, Repr, Inhabited

/-- The text from one place to another. -/
structure Range where
  start : Place
  stop : Place
deriving DecidableEq, Repr, Inhabited

namespace Range

/-- The range of a line between two characters. -/
def onLine (line first last : Nat) : Range := ⟨⟨line, first⟩, ⟨line, last⟩⟩

/-- The range of so many characters, and of at least one, from a line and a
    column that are counted from one. -/
def ofPosition (line column width : Nat) : Range :=
  onLine (line - 1) (column - 1) (column - 1 + max width 1)

/-- The same range, if its end is a number of 32 bits. -/
def ofPosition? (line column width : Nat) : Option Range :=
  (Count.add? (column - 1) (max width 1)).map (onLine (line - 1) (column - 1))

theorem ofPosition?_eq_some_iff {line column width : Nat} {r : Range} :
    ofPosition? line column width = some r ↔
      column - 1 + max width 1 < Count.bound ∧ ofPosition line column width = r := by
  constructor
  · intro h
    obtain ⟨last, hlast, rfl⟩ := Option.map_eq_some_iff.1 h
    obtain ⟨hbound, rfl⟩ := Count.add?_eq_some_iff.1 hlast
    exact ⟨hbound, rfl⟩
  · rintro ⟨hbound, rfl⟩
    rw [ofPosition?, Count.add?_eq_some_iff.2 ⟨hbound, rfl⟩, Option.map_some]
    rfl

theorem ofPosition?_eq_none_iff {line column width : Nat} :
    ofPosition? line column width = none ↔ Count.bound ≤ column - 1 + max width 1 := by
  rw [ofPosition?, Option.map_eq_none_iff, Count.add?_eq_none_iff]

/-- The range at the start of a text, without a character in it. -/
def atStart : Range := onLine 0 0 0

end Range

end SunLint
