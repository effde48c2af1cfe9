import SunLint.Text.Line
import SunLint.Token.Position

/-!
# Snippets

The source line of an error with a caret under its column.
-/

namespace SunLint.Snippet

/-- The line at the position and below it the caret; nothing if there is no such
    line. -/
def render (source : String) (p : Position) : String :=
  match Text.sourceLine source p.line with
  | some line => line ++ "\n" ++ String.ofList (List.replicate (p.column - 1) ' ') ++ "^"
  | none => ""

end SunLint.Snippet
