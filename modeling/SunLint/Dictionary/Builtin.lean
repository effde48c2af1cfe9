import SunLint.Dictionary.Basic

/-!
# The dictionary of Sun

The words of the language itself: its thirteen keywords, the slips of the
keyboard that are common with them, the directives, and the texts that explain
them or say how things are written.
-/

namespace SunLint.Dictionary

/-- The dictionary used unless another one is given. -/
def builtin : Dictionary where
  keywords :=
    ["function", "component", "when", "then", "else", "let", "state", "return",
     "render", "import", "export", "true", "false"]
  misspellings := .ofList
    [("fucntion", "function"), ("funtion", "function"), ("fnction", "function"),
     ("functoin", "function"), ("funciton", "function"), ("compnent", "component"),
     ("componet", "component"), ("comopnent", "component"), ("compoennt", "component"),
     ("wehn", "when"), ("whn", "when"), ("hwen", "when"), ("thn", "then"), ("hten", "then"),
     ("tehn", "then"), ("esle", "else"), ("retrun", "return"), ("reutrn", "return"),
     ("rendr", "render"), ("redner", "render"), ("improt", "import"), ("exprot", "export"),
     ("stae", "state"), ("sate", "state")]
  descriptions := .ofList
    [("function",
      "**function** -- declares a named function: `function name(params) \x7b ... \x7d`"),
     ("component",
      "**component** -- declares a UI component: `component Name \x7b ... \x7d`"),
     ("when", "**when** -- starts a conditional: `when condition then result`"),
     ("then", "**then** -- introduces the result of a `when` condition"),
     ("else", "**else** -- alternative result of a `when` condition"),
     ("let", "**let** -- binds a value to a name: `let name = value`"),
     ("state", "**state** -- declares component state: `state name = initial`"),
     ("return", "**return** -- returns a value from a function"),
     ("render", "**render** -- produces the output of a component"),
     ("import", "**import** -- brings names from another module into scope"),
     ("export", "**export** -- makes a declaration visible to other modules"),
     ("true", "**true** -- boolean literal"),
     ("false", "**false** -- boolean literal")]
  directives := .ofList
    [("@use", "Enable a language feature for this file"),
     ("@client", "Mark the following declarations as client-only"),
     ("@server", "Mark the following declarations as server-only"),
     ("@config", "Set a compile-time configuration value")]
  expectedPhrases := .ofList
    [("L_BRACE", "Add an opening brace '\x7b' to start the block"),
     ("R_BRACE", "Add a closing brace '\x7d' to end the block"),
     ("L_PAREN", "Add an opening parenthesis '('"),
     ("R_PAREN", "Add a closing parenthesis ')'"),
     ("R_BRACKET", "Add a closing bracket ']'"),
     ("TEXT", "Provide a name (identifier) here"),
     ("THEN", "Add 'then' after the condition"),
     ("EQUALS", "Add '=' followed by a value"),
     ("STRING_LIT", "Provide a quoted string"),
     ("NEWLINE", "Put the next statement on its own line")]
  constructTemplates := .ofList
    [("function", "Functions are declared as: function name(params) \x7b ... \x7d"),
     ("component", "Components are declared as: component Name \x7b ... \x7d"),
     ("when", "Conditions are written as: when condition then result"),
     ("directive", "Directives take the form: @name value")]
  fragments :=
    [⟨"func", "function"⟩, ⟨"fn", "function"⟩, ⟨"comp", "component"⟩, ⟨"whe", "when"⟩,
     ⟨"rend", "render"⟩, ⟨"ret", "return"⟩]

end SunLint.Dictionary
