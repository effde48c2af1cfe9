import SunLint.Construct
import SunLint.Distinct
import SunLint.EditDistance
import SunLint.SortedMap
import SunLint.Text.LowerCase
import SunLint.Text.Search
import SunLint.Token.Kind

/-!
# Dictionaries

A dictionary holds what the tools know about words: the keywords, their common
misspellings, the text shown for a keyword or a directive, the phrases that
suggestions are made of, and fragments that hint at a keyword. It can be
swapped; the grammar itself does not depend on it.
-/

namespace SunLint

/-- A part of a word that hints at a keyword. -/
structure Fragment where
  fragment : String
  keyword : String
deriving DecidableEq, Repr, Inhabited

/-- What is known about words. -/
structure Dictionary where
  keywords : List String
  /-- Misspelled words, in small letters, and what they stand for. -/
  misspellings : SortedMap String := {}
  /-- Texts that explain keywords. -/
  descriptions : SortedMap String := {}
  /-- Texts that explain directives, by their marker. -/
  directives : SortedMap String := {}
  /-- Suggestions by the name of the kind that is expected. -/
  expectedPhrases : SortedMap String := {}
  /-- Suggestions by the name of the construct around an error. -/
  constructTemplates : SortedMap String := {}
  fragments : List Fragment := []
deriving DecidableEq, Repr, Inhabited

namespace Dictionary

variable (d : Dictionary)

/-- Whether the word is one of the keywords, in the very same letters. -/
def isKeyword (word : String) : Bool := d.keywords.contains word

/-- Whether there is a directive of that name. -/
def isDirective (name : String) : Bool := d.directives.contains name

/-- The text that explains a keyword. -/
def describe? (word : String) : Option String := d.descriptions.find? word

/-- What a misspelled word stands for: a known misspelling, in whatever letters,
    for its entry in the table; any other word that is no keyword for the
    nearest keyword within its budget. -/
def correction? (word : String) (limit : Nat) : Option Correction :=
  let lowered := Text.lower word
  match d.misspellings.find? lowered with
  | some keyword => some ⟨keyword, 0⟩
  | none =>
    if d.isKeyword word then none
    else Correction.closest? lowered d.keywords (editBudget word limit)

/-- The nearest directive within the budget of the name. -/
def closestDirective? (name : String) (limit : Nat) : Option String :=
  (Correction.closest? name d.directives.keys (editBudget name limit)).map (·.word)

/-- The suggestion for a place where a token of that kind is expected. -/
def expectedPhrase? (kind : Kind) : Option String := d.expectedPhrases.find? kind.name

/-- The suggestion for an error within the construct. -/
def constructTemplate? (construct : Construct) : Option String :=
  d.constructTemplates.find? construct.name

/-- The keywords that fragments of the text hint at, in the order of the table.
    A keyword is no hint at itself. -/
def fragmentHints (text : String) : List String :=
  let lowered := Text.lower text
  Distinct.ofList <| (d.fragments.filter fun f =>
    Text.occursIn f.fragment lowered && lowered ≠ f.keyword).map (·.keyword)

end Dictionary

end SunLint
