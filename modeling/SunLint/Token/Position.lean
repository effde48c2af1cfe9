/-!
# Positions in a text

Lines and columns are counted from one, and columns in characters. A position
moves over a text character by character: a line feed leads to the first column
of the next line, anything else one column to the right.

Both counts are natural numbers. A text with so many lines, or so long a line,
that they leave 32 bits is left out.
-/

namespace SunLint

/-- A place in a source text. -/
structure Position where
  line : Nat
  column : Nat
deriving DecidableEq, Repr, Inhabited

namespace Position

/-- Where every text starts. -/
def start : Position := ⟨1, 1⟩

/-- The position behind the character `c` that stands at `p`. -/
def next (p : Position) (c : Char) : Position :=
  if c = '\n' then ⟨p.line + 1, 1⟩ else ⟨p.line, p.column + 1⟩

/-- The position behind the text `cs` that starts at `p`. -/
def after (p : Position) (cs : List Char) : Position := cs.foldl next p

@[simp]
theorem after_nil (p : Position) : p.after [] = p := rfl

@[simp]
theorem after_cons (p : Position) (c : Char) (cs : List Char) :
    p.after (c :: cs) = (p.next c).after cs := rfl

theorem after_append (p : Position) (cs ds : List Char) :
    p.after (cs ++ ds) = (p.after cs).after ds := List.foldl_append

/-- How messages name a position. -/
def describe (p : Position) : String := s!"line {p.line}, column {p.column}"

end Position

end SunLint
