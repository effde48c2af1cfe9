import SunLint.Dictionary.Basic

/-!
# Completion

What an editor may complete a word to. All keywords, directives and snippets are
offered at every place; the editor chooses among them by what has been typed.
-/

namespace SunLint

/-- The sorts of completions. -/
inductive CompletionKind
  | keyword | directive | snippet
deriving DecidableEq, Repr

/-- Something to complete a word to. -/
structure Completion where
  label : String
  kind : CompletionKind
  detail : String
  /-- A longer text about it. -/
  documentation : Option String := none
  /-- What is inserted, if it is not the label: a text with places to fill in. -/
  template : Option String := none
deriving DecidableEq, Repr

namespace Completion

/-- The completion to a snippet. -/
def snippet (label detail template : String) : Completion :=
  { label, kind := .snippet, detail, template := some template }

/-- The snippets. -/
def snippets : List Completion :=
  [snippet "function" "function declaration"
     "function $\x7b1:name\x7d($\x7b2:params\x7d) \x7b\n\t$0\n\x7d",
   snippet "component" "component declaration"
     "component $\x7b1:Name\x7d \x7b\n\trender $0\n\x7d",
   snippet "when" "conditional" "when $\x7b1:condition\x7d then $\x7b2:result\x7d",
   snippet "let" "binding" "let $\x7b1:name\x7d = $\x7b2:value\x7d",
   snippet "state" "component state" "state $\x7b1:name\x7d = $\x7b2:initial\x7d",
   snippet "import" "module import" "import \"$\x7b1:module\x7d\""]

/-- Everything that is offered: the keywords in their order, the directives in
    alphabetical order, and the snippets. -/
def all (d : Dictionary) : List Completion :=
  d.keywords.map (fun word =>
    { label := word, kind := .keyword, detail := "keyword",
      documentation := d.describe? word }) ++
  d.directives.entries.map (fun (name, text) =>
    { label := name, kind := .directive, detail := text }) ++
  snippets

end Completion

end SunLint
