/-!
# Edit distance

The distance of two words is the least number of insertions, deletions and
substitutions of single characters that turn one into the other. It is computed
row by row: a row holds, for one word cut short, its distances to all the
words that the other one starts with.

On top of it stands the choice of a correction: the nearest of some candidates,
within a budget that grows with the length of the word.
-/

namespace SunLint

/-- The rest of the row that a character `x` leads to. The former row holds the
    entries above and to the left of those still to come, and `left` is the
    entry just made. -/
def fillRow (x : Char) (left : Nat) : List Char → List Nat → List Nat
  | y :: ys, diagonal :: above :: former =>
    let entry := min (min (above + 1) (left + 1)) (diagonal + if x = y then 0 else 1)
    entry :: fillRow x entry ys (above :: former)
  | _, _ => []

/-- The row that the character `x` leads to from the former one. -/
def nextRow (ys : List Char) (former : List Nat) (x : Char) : List Nat :=
  match former with
  | first :: _ => (first + 1) :: fillRow x (first + 1) ys former
  | [] => []

/-- The number of insertions, deletions and substitutions between the words. -/
def editDistance (a b : String) : Nat :=
  let ys := b.toList
  (a.toList.foldl (nextRow ys) (List.range (ys.length + 1))).getLast?.getD 0

/-- The greatest distance at which a correction of `word` is believable: at most
    `limit`, and less for short words. -/
def editBudget (word : String) (limit : Nat) : Nat := min limit ((word.length - 1) / 2)

/-- A word to put in the place of another, and the distance of the two. A word
    from a table of known misspellings is at distance zero. -/
structure Correction where
  word : String
  distance : Nat
deriving DecidableEq, Repr

namespace Correction

/-- The better of the best correction so far and the candidate, if the latter
    differs from `word` and is within the budget. -/
def improve (word : String) (budget : Nat) (best : Option Correction) (candidate : String) :
    Option Correction :=
  let d := editDistance word candidate
  if d = 0 ∨ budget < d then best
  else match best with
    | some c => if c.distance ≤ d then best else some ⟨candidate, d⟩
    | none => some ⟨candidate, d⟩

/-- The nearest candidate within the budget that is not `word` itself; of
    several, the earliest. -/
def closest? (word : String) (candidates : List String) (budget : Nat) : Option Correction :=
  candidates.foldl (improve word budget) none

end Correction

end SunLint
