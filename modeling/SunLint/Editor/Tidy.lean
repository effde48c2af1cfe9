import SunLint.Distinct
import SunLint.Text.Blank
import SunLint.Text.Line

/-!
# Tidying documents

Two changes of a whole text that an editor offers: `formatDocument` removes white
space that carries no meaning, `organizeDirectives` moves the directives to the
top.
-/

namespace SunLint

/-- The lines with every run of empty lines made into one. -/
def mergeEmpty : List (List Char) → List (List Char)
  | [] => []
  | line :: rest =>
    match line, mergeEmpty rest with
    | [], [] :: merged => [] :: merged
    | line, merged => line :: merged

/-- The lines without empty ones at the end. -/
def dropEmptyEnd (lines : List (List Char)) : List (List Char) :=
  (lines.reverse.dropWhile List.isEmpty).reverse

/-- The lines, with a line feed after each. -/
def closeLines (lines : List (List Char)) : String :=
  String.ofList (lines.flatMap (· ++ ['\n']))

/-- The text without blanks at the ends of lines, without more than one empty
    line at a time, and without empty lines at the end. -/
def formatDocument (text : String) : String :=
  closeLines (dropEmptyEnd (mergeEmpty ((Text.lines text.toList).map Text.trimRight)))

/-- Whether the line holds a directive. -/
def isDirectiveLine (line : List Char) : Bool := (Text.trim line).head? = some '@'

/-- The directives of the text, without blanks around them, in alphabetical order
    and each of them once. -/
def directiveLines (lines : List (List Char)) : List (List Char) :=
  ((Distinct.ofList ((lines.filter isDirectiveLine).map fun line =>
    String.ofList (Text.trim line))).mergeSort (· ≤ ·)).map String.toList

/-- The lines that hold no directive, from the first one on that is not blank. -/
def otherLines (lines : List (List Char)) : List (List Char) :=
  (lines.filter (!isDirectiveLine ·)).dropWhile fun line => (Text.trim line).isEmpty

/-- The text with its directives at the top, apart from the rest by an empty
    line. -/
def organizeDirectives (text : String) : String :=
  let lines := Text.lines text.toList
  match directiveLines lines, otherLines lines with
  | [], others => closeLines others
  | directives, [] => closeLines directives
  | directives, others => closeLines (directives ++ [] :: others)

end SunLint
