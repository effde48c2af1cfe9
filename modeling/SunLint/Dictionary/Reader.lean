import SunLint.Dictionary.Basic
import SunLint.Json.Reader

/-!
# Reading dictionaries

A dictionary is written as an object with a member for each of its parts, or as
an array of the parts in their order. Only the keywords have to be there; what
is left out is empty, and members of other names are passed over, whatever they
hold. A part must not be given twice, and `null` is no part.
-/

namespace SunLint.Dictionary

/-- The names of the parts, in order. -/
def partNames : List String :=
  ["keywords", "misspellings", "descriptions", "directives", "expected_phrases",
   "construct_templates", "fragments"]

/-- The parts of a record by their names, from an object in which none of them
    occurs twice or from an array in which they stand in order. -/
def parts? (names : List String) : Json → Option (List (String × Json))
  | .obj members =>
    let known := members.filter fun m => names.contains m.1
    if (known.map (·.1)).Nodup then some known else none
  | .arr elements => if elements.length ≤ names.length then some (names.zip elements) else none
  | _ => none

/-- The texts, if the value is a list of texts. -/
def texts? (j : Json) : Option (List String) := do (← j.arr?).mapM Json.str?

/-- The map, if the value is an object of texts. -/
def textMap? : Json → Option (SortedMap String)
  | .obj members => do
    return .ofList (← members.mapM fun (k, v) => do return (k, ← v.str?))
  | _ => none

/-- The fragment, if the value is a record of its two texts. -/
def fragment? (j : Json) : Option Fragment := do
  let given ← parts? ["fragment", "keyword"] j
  return ⟨← (← given.lookup "fragment").str?, ← (← given.lookup "keyword").str?⟩

/-- The part of that name as `read` understands it, or an empty one. -/
def part? {α : Type} (given : List (String × Json)) (name : String) (read : Json → Option α)
    (none : α) : Option α :=
  match given.lookup name with
  | some j => read j
  | Option.none => some none

/-- The dictionary that the value describes. -/
def ofJson? (j : Json) : Option Dictionary := do
  let given ← parts? partNames j
  return {
    keywords := ← texts? (← given.lookup "keywords")
    misspellings := ← part? given "misspellings" textMap? {}
    descriptions := ← part? given "descriptions" textMap? {}
    directives := ← part? given "directives" textMap? {}
    expectedPhrases := ← part? given "expected_phrases" textMap? {}
    constructTemplates := ← part? given "construct_templates" textMap? {}
    fragments := ← part? given "fragments" (fun j => do (← j.arr?).mapM fragment?) [] }

/-- The dictionary that the text describes. -/
def read? (text : String) : Option Dictionary := Json.scan? text >>= ofJson?

/-- A map of texts as a value. -/
def ofTextMap (m : SortedMap String) : Json := .obj (m.entries.map fun (k, v) => (k, .str v))

/-- The dictionary as a value, with all of its parts. -/
def toJson (d : Dictionary) : Json :=
  .obj [("keywords", .strings d.keywords),
    ("misspellings", ofTextMap d.misspellings),
    ("descriptions", ofTextMap d.descriptions),
    ("directives", ofTextMap d.directives),
    ("expected_phrases", ofTextMap d.expectedPhrases),
    ("construct_templates", ofTextMap d.constructTemplates),
    ("fragments", .arr (d.fragments.map fun f =>
      .obj [("fragment", .str f.fragment), ("keyword", .str f.keyword)]))]

end SunLint.Dictionary
