/-!
# Settings

The numbers that bound the search for repairs, the number of errors after which
parsing stops, and two settings of the reports.
-/

namespace SunLint

/-- How far the recovery from errors looks around. -/
structure Limits where
  /-- The greatest distance of a word from the keyword it is taken for. -/
  maxEditDistance : Nat
  /-- How many tokens ahead a synchronization point is looked for. -/
  syncLookahead : Nat
  /-- How many tokens back the keyword of a construct is looked for. -/
  insertionLookbehind : Nat
  /-- How many tokens to each side belong to the context of an error. -/
  contextWindow : Nat
deriving DecidableEq, Repr, Inhabited

/-- What a user may set. -/
structure Settings where
  /-- The number of syntax errors after which parsing stops. -/
  maxErrors : Nat := 50
  maxEditDistance : Nat := 2
  syncLookahead : Nat := 64
  insertionLookbehind : Nat := 8
  contextWindow : Nat := 2
  /-- The number of errors above which a summary advises to go file by file. -/
  errorThreshold : Nat := 10
  /-- The name under which diagnostics are shown. -/
  sourceName : String := "sun"
deriving DecidableEq, Repr, Inhabited

/-- The limits among the settings. At least the next token is looked at when
    searching for a synchronization point. -/
def Settings.limits (s : Settings) : Limits where
  maxEditDistance := s.maxEditDistance
  syncLookahead := max s.syncLookahead 1
  insertionLookbehind := s.insertionLookbehind
  contextWindow := s.contextWindow

end SunLint
