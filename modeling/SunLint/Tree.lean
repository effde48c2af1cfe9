/-!
# Syntax trees

What a Sun program says, as far as it could be made out: items at the top level,
statements and expressions. Where an expression is lacking the tree has
`Expr.missing`, and a statement that had to be given up leaves
`Statement.error`, so that what stands around them keeps its shape. Items and
statements know the line they start on.
-/

namespace SunLint

/-- An expression. The value of a string is the text between its quotes. -/
inductive Expr
  | ident (name : String)
  | string (value : String)
  | number (literal : String)
  | bool (value : Bool)
  | call (callee : Expr) (args : List Expr)
  | member (object : Expr) (field : String)
  | list (items : List Expr)
  | group (inner : Expr)
  | binary (op : String) (lhs rhs : Expr)
  | unary (op : String) (operand : Expr)
  | missing
deriving Repr, Inhabited

/-- The two forms of named blocks. -/
inductive Callable.Form
  | function | component
deriving DecidableEq, Repr, Inhabited

/-- A function or a component, the body of which is made of `Stmt`. -/
structure Callable (Stmt : Type) where
  form : Callable.Form
  name : String
  params : List String
  body : List Stmt
  line : Nat
deriving Repr, Inhabited

/-- A statement. -/
inductive Statement
  | letBinding (name : String) (value : Expr) (line : Nat)
  | stateBinding (name : String) (value : Expr) (line : Nat)
  | when (condition : Expr) (result : Statement) (otherwise : Option Statement) (line : Nat)
  | ret (value : Option Expr) (line : Nat)
  | render (value : Expr) (line : Nat)
  | expr (value : Expr) (line : Nat)
  | block (body : List Statement) (line : Nat)
  | declaration (callable : Callable Statement)
  | error (line : Nat)
deriving Repr, Inhabited

/-- A function or a component. -/
abbrev Declaration := Callable Statement

/-- What may stand at the top level. -/
inductive Item
  | directive (name : String) (args : List Expr) (line : Nat)
  | declaration (callable : Declaration)
  | imported (path : String) (line : Nat)
  | exported (callable : Declaration) (line : Nat)
  | statement (statement : Statement)
deriving Repr, Inhabited

namespace Item

/-- The name that the item introduces or uses, if it has one. -/
def name? : Item → Option String
  | directive name _ _ => some name
  | declaration c => some c.name
  | exported c _ => some c.name
  | imported _ _ => none
  | statement _ => none

/-- Whether the item declares a function or a component, without exporting
    it. -/
def declares (form : Callable.Form) : Item → Bool
  | declaration c => c.form = form
  | _ => false

end Item

end SunLint
