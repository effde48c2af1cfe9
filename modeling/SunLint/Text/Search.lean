/-!
# Searching a text

Where one text first occurs within another.
-/

namespace SunLint.Text

/-- What follows the first occurrence of `needle`. -/
def afterFirst? (needle : List Char) : List Char → Option (List Char)
  | [] => if needle.isEmpty then some [] else none
  | c :: cs =>
    if needle.isPrefixOf (c :: cs) then some ((c :: cs).drop needle.length)
    else afterFirst? needle cs

/-- Whether `needle` occurs in the text. -/
def occursIn (needle text : String) : Bool := (afterFirst? needle.toList text.toList).isSome

end SunLint.Text
