/-!
# Lines

A text is cut into lines at its line feeds. Two readings are in use: `pieces`
keeps what stands after the last line feed as a line even if it is empty, so a
text has one line more than line feeds; `lines` drops that last piece if it is
empty. A carriage return before a line feed belongs to the line end.
-/

namespace SunLint.Text

/-- The stretches between the line feeds. -/
def pieces : List Char → List (List Char)
  | [] => [[]]
  | c :: cs =>
    if c = '\n' then [] :: pieces cs
    else match pieces cs with
      | piece :: rest => (c :: piece) :: rest
      | [] => [[c]]

/-- There is always a piece. -/
theorem pieces_ne_nil (cs : List Char) : pieces cs ≠ [] := by
  cases cs with
  | nil => simp [pieces]
  | cons c cs =>
    rw [pieces]
    split
    · simp
    · split <;> simp

/-- The line without a carriage return at its end. -/
def dropReturn (cs : List Char) : List Char :=
  match cs.reverse with
  | '\r' :: rest => rest.reverse
  | _ => cs

/-- The pieces but for an empty last one; those that a line feed ends lose
    their carriage return. -/
def closedLines : List (List Char) → List (List Char)
  | [] => []
  | [last] => if last.isEmpty then [] else [last]
  | piece :: rest => dropReturn piece :: closedLines rest

/-- The lines of the text. -/
def lines (cs : List Char) : List (List Char) := closedLines (pieces cs)

/-- The `n`-th line of `source`, counted from one, without its line end. -/
def sourceLine (source : String) (n : Nat) : Option String :=
  if n = 0 then none
  else (pieces source.toList)[n - 1]?.map fun cs => String.ofList (dropReturn cs)

/-- The lines with a line feed between two of them. -/
def unlines (ls : List (List Char)) : List Char := ['\n'].intercalate ls

end SunLint.Text
