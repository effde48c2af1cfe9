import SunLint.Dictionary.Basic
import SunLint.Range
import SunLint.Text.Letter
import SunLint.Text.Line
import SunLint.Text.Utf16

/-!
# Hovering

What an editor shows for the word under the pointer: the text that explains a
keyword or a directive, for exactly the range of the word. A place right after a
word still touches it.
-/

namespace SunLint

/-- The word that touches the `n`-th character of the line: where it starts and
    where it ends. -/
def wordAt (line : List Char) (n : Nat) : Option (Nat × Nat) :=
  if line.length < n then none
  else
    let before := (line.take n).reverse.takeWhile Text.isWordChar
    let after := (line.drop n).takeWhile Text.isWordChar
    if before.isEmpty && after.isEmpty then none
    else some (n - before.length, n + after.length)

/-- The explanation of a word and the word's range. -/
structure Hover where
  markdown : String
  range : Range
deriving DecidableEq, Repr

namespace Hover

/-- The explanation of the word of the line from `first` to `last`, and where
    what it explains starts: a word after an `@` names a directive, and the `@`
    belongs to it. -/
def explanation? (d : Dictionary) (line : List Char) (first last : Nat) :
    Option (String × Nat) :=
  let word := String.ofList ((line.take last).drop first)
  if (line.take first).getLast? = some '@' then
    let directive := "@" ++ word
    (d.directives.find? directive).map fun text =>
      ("**" ++ directive ++ "** -- " ++ text, first - 1)
  else (d.describe? word).map fun text => (text, first)

/-- What is shown for a place in the text, whose characters are units of
    UTF-16. -/
def at? (d : Dictionary) (text : String) (place : Place) : Option Hover := do
  let line ← (Text.lines text.toList)[place.line]?
  let (first, last) ← wordAt line (Text.charColumn line place.character)
  let (markdown, start) ← explanation? d line first last
  return ⟨markdown, .onLine place.line (Text.unitColumn line start) (Text.unitColumn line last)⟩

end Hover

end SunLint
