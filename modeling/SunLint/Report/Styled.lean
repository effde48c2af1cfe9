/-!
# Styled text

A report for people is a list of spans, each in one style. It is printed without
the styles, or for a terminal with an escape sequence before and after every
span that has one.
-/

namespace SunLint

/-- How a terminal shows a span. -/
inductive Style
  | plain | bold | red | yellow | cyan | green | dim
deriving DecidableEq, Repr

/-- A stretch of text in one style. -/
structure Span where
  text : String
  style : Style := .plain
deriving DecidableEq, Repr

/-- The number by which a terminal knows the style. -/
def Style.number? : Style → Option Nat
  | .plain => none
  | .bold => some 1
  | .red => some 31
  | .yellow => some 33
  | .cyan => some 36
  | .green => some 32
  | .dim => some 2

/-- The sequence that makes a terminal change its style. -/
def escapeSequence (number : Nat) : String := "\x1b[" ++ toString number ++ "m"

namespace Span

/-- The span for a terminal. -/
def ansi (s : Span) : String :=
  match s.style.number? with
  | none => s.text
  | some number => escapeSequence number ++ s.text ++ escapeSequence 0

/-- The spans without their styles. -/
def plainText (spans : List Span) : String := String.join (spans.map text)

/-- The spans for a terminal. -/
def ansiText (spans : List Span) : String := String.join (spans.map ansi)

end Span

end SunLint
