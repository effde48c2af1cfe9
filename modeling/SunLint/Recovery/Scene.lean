import SunLint.Dictionary.Basic
import SunLint.Error.Syntactic
import SunLint.Settings.Basic
import SunLint.Suggestion

/-!
# Recording errors

A `Scene` is what is known while errors are recorded: the dictionary, the source
text if there is one, and the limits. Every error carries its context and a list
of suggestions that is neither empty nor repetitive, in which the generic
suggestion stands alone or not at all.
-/

namespace SunLint

/-- What errors are recorded with. -/
structure Scene where
  dictionary : Dictionary
  source : Option String
  limits : Limits

namespace Scene

variable (scene : Scene)

/-- The context of the token under the cursor. -/
def context (c : Cursor) (construct : Construct) (enclosing : List Construct) : Context :=
  Context.around scene.source scene.limits.contextWindow construct enclosing c

/-- The context at an index of the list, or at its last token if the index is
    beyond the end; `window` tokens to each side belong to it. -/
def contextAt (tokens : List Token) (i : Nat) (window : Nat) (construct : Construct)
    (enclosing : List Construct) : Context :=
  match Cursor.at? tokens (min i (tokens.length - 1)) with
  | some c => Context.around scene.source window construct enclosing c
  | none => { construct, enclosing }

/-- The context of a token by its first occurrence in the list, outside of all
    constructs. -/
def contextOf (tokens : List Token) (token : Token) : Context :=
  scene.contextAt tokens (tokens.findIdx (· = token)) scene.limits.contextWindow .topLevel []

/-- The suggestions behind a leading one. The generic suggestion gives way to
    any other. -/
def withLead (lead : Option String) (suggestions : List String) : List String :=
  let all := Distinct.addAll lead.toList suggestions
  if 1 < all.length then all.filter (· ≠ Suggestion.generic) else all

/-- An error at the token, with a suggestion that goes before all others. -/
def recordLed (lead : Option String) (code : ErrorCode) (severity : Severity) (message : String)
    (token : Token) (expected : List Kind) (context : Context) : SyntaxError where
  message := message
  position := token.position
  token := token
  expected := expected
  suggestions := withLead lead
    (Suggestion.suggestions scene.dictionary token expected context.construct)
  severity := severity
  code := code
  context := context

/-- An error at the token. -/
def recordCoded : ErrorCode → Severity → String → Token → List Kind → Context → SyntaxError :=
  scene.recordLed none

/-- An error at a token where others were expected, or that was not expected
    itself. -/
def recordError (message : String) (token : Token) (expected : List Kind) (context : Context) :
    SyntaxError :=
  scene.recordCoded (if expected.isEmpty then .unexpectedToken else .expectedToken) .error
    message token expected context

/-- The warning that `replacement` may have been meant. -/
def recordMisspelling (token : Token) (replacement : String) (context : Context) : SyntaxError :=
  let proposal := Suggestion.didYouMean replacement
  scene.recordLed (some proposal) .possibleMisspelling .warning
    ("Unknown word '" ++ token.text ++ "'. " ++ proposal) token [] context

end Scene

end SunLint
