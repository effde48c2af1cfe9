import SunLint.Dictionary.Basic
import SunLint.Token.Basic

/-!
# Suggestions

What a reader of an error message may try. Suggestions come from the dictionary:
a phrase for each kind of token that was expected, the form of the construct
around the error, and keywords that the offending word hints at. Where nothing
fits there is a generic suggestion, so that no list is empty.
-/

namespace SunLint.Suggestion

/-- The suggestion for want of a better one. -/
def generic : String := "Check the syntax near this location"

/-- What stands before the word in a proposal to replace one. -/
def proposalOpening : String := "Did you mean '"

/-- The proposal to write `word` instead. -/
def didYouMean (word : String) : String := proposalOpening ++ word ++ "'?"

/-- The word that the first proposal within the message names: what follows its
    opening, up to the next apostrophe. -/
def proposed? (message : String) : Option String :=
  match Text.afterFirst? proposalOpening.toList message.toList with
  | some rest =>
    if '\'' ∈ rest then some (String.ofList (rest.takeWhile (· ≠ '\''))) else none
  | none => none

/-- The hint that a keyword may have been meant. -/
def keywordHint (keyword : String) : String := s!"Did you mean to use the '{keyword}' keyword?"

/-- The suggestions that the dictionary has for the token, where tokens of the
    given kinds are expected within the construct. -/
def specific (d : Dictionary) (token : Token) (expected : List Kind) (construct : Construct) :
    List String :=
  Distinct.ofList <|
    expected.filterMap d.expectedPhrase? ++ (d.constructTemplate? construct).toList ++
      (if token.kind = .text then (d.fragmentHints token.text).map keywordHint else [])

/-- The specific suggestions, or the generic one. -/
def suggestions (d : Dictionary) (token : Token) (expected : List Kind) (construct : Construct) :
    List String :=
  match specific d token expected construct with
  | [] => [generic]
  | found => found

/-- There is always a suggestion. -/
theorem suggestions_ne_nil (d : Dictionary) (token : Token) (expected : List Kind)
    (construct : Construct) : suggestions d token expected construct ≠ [] := by
  unfold suggestions
  split <;> simp_all

end SunLint.Suggestion
