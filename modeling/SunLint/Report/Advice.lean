import SunLint.Report.Finding
import SunLint.Text.LowerCase
import SunLint.Text.Search

/-!
# Advice

Standing recommendations for the sorts of errors that were found. Where none of
them is called for there are two general ones.
-/

namespace SunLint.Advice

/-- Whether the message of a lexical error is about characters or their
    encoding. -/
def concernsCharacters (e : LexicalError) : Bool :=
  let message := Text.lower e.message
  Text.occursIn "character" message || Text.occursIn "encoding" message

/-- Whether a syntax error belongs to one of the categories. -/
def hasCategory (errors : Errors) (categories : List Category) : Bool :=
  errors.syntactic.any fun e => categories.contains e.code.category

/-- The recommendations that the errors call for. -/
def triggered (errors : Errors) : List String :=
  (if errors.lexical.any concernsCharacters then
    ["Save the file as UTF-8 and remove stray or invisible characters."] else []) ++
  (if hasCategory errors [.expected, .missing] then
    ["Check for missing braces, parentheses and keywords around the reported positions."]
    else []) ++
  (if hasCategory errors [.unexpected] then
    ["Remove stray tokens and punctuation the parser did not expect."] else []) ++
  (if hasCategory errors [.misspelling] then
    ["Check keyword spelling; suggested corrections are listed with each error."] else [])

/-- The recommendations that are always good. -/
def general : List String :=
  ["Review the reported lines against the Sun syntax reference.",
   "Fix errors from the top of the file down and re-run the check after each fix."]

/-- The recommendations that are called for, or else the general ones. -/
def recommendations (errors : Errors) : List String :=
  match triggered errors with
  | [] => general
  | found => found

end SunLint.Advice
