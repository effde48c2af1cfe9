/-!
# Constructs

The syntactic units by which the parser describes where it is. What is missing
at a place and which suggestions fit there depends on them.
-/

namespace SunLint

/-- A named syntactic unit. -/
inductive Construct
  | topLevel | function | component | when | block | directive | expression
deriving DecidableEq, Repr, Inhabited

namespace Construct

/-- Every construct, the outermost first. -/
def all : List Construct :=
  [.topLevel, .function, .component, .when, .block, .directive, .expression]

/-- Every construct is listed. -/
theorem mem_all (c : Construct) : c ∈ all := by cases c <;> decide

/-- The name of the construct. -/
def name : Construct → String
  | .topLevel => "toplevel"
  | .function => "function"
  | .component => "component"
  | .when => "when"
  | .block => "block"
  | .directive => "directive"
  | .expression => "expression"

/-- The construct of that name. -/
def ofName? (s : String) : Option Construct := all.find? (·.name = s)

/-- Whether a literal on its own is plausible here. -/
def acceptsLiterals : Construct → Bool
  | .when | .block | .directive | .expression => true
  | .topLevel | .function | .component => false

end Construct

end SunLint
