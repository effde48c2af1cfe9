import SunLint.Token.Operator
import SunLint.Tree

/-!
# Canonical expressions

A tree of an expression says without parentheses which operator takes which operands. It
is canonical if parentheses are not needed to say so: the left operand of a binary
operator binds at least as tightly as the operator and the right one tighter, prefix
operators have no binary operation for their operand, and calls and members belong to
neither kind of operation. A group is an operand like any other, whatever is in it.

* `Expr.BindsAt`: what may be an operand of an operator of the level;
* `Expr.IsCanonical`: this, all through the tree;
* `Item.exprs`: the expressions in an item, at any depth of statements.
-/

namespace SunLint

namespace Expr

/-- Whether the expression is an operator between two operands. -/
def isBinary : Expr → Bool
  | .binary .. => true
  | _ => false

/-- Whether the expression is an operator with its operands. -/
def isOperation : Expr → Bool
  | .binary .. | .unary .. => true
  | _ => false

/-- The expression binds at least as tightly as the level: it is not a binary operation
    of a lower one. -/
def BindsAt (level : Nat) : Expr → Prop
  | .binary op _ _ => ∀ l, Operator.precedence? op = some l → level ≤ l
  | _ => True

/-- Operators and their operands are together as they would be without parentheses. Gaps
    may be anywhere. -/
inductive IsCanonical : Expr → Prop
  | ident (name : String) : IsCanonical (.ident name)
  | string (value : String) : IsCanonical (.string value)
  | number (literal : String) : IsCanonical (.number literal)
  | bool (value : Bool) : IsCanonical (.bool value)
  | call {callee : Expr} {args : List Expr} : callee.isOperation = false →
      IsCanonical callee → (∀ a ∈ args, IsCanonical a) → IsCanonical (.call callee args)
  | member {object : Expr} (field : String) : object.isOperation = false →
      IsCanonical object → IsCanonical (.member object field)
  | list {items : List Expr} : (∀ a ∈ items, IsCanonical a) → IsCanonical (.list items)
  | group {inner : Expr} : IsCanonical inner → IsCanonical (.group inner)
  | binary {op : String} {lhs rhs : Expr} {level : Nat} :
      Operator.precedence? op = some level → lhs.BindsAt level → rhs.BindsAt (level + 1) →
      IsCanonical lhs → IsCanonical rhs → IsCanonical (.binary op lhs rhs)
  | unary {op : String} {operand : Expr} : Operator.isUnary op = true →
      operand.isBinary = false → IsCanonical operand → IsCanonical (.unary op operand)
  | missing : IsCanonical .missing

variable {e : Expr} {level : Nat}

theorem isBinary_of_isOperation (h : e.isOperation = false) : e.isBinary = false := by
  cases e <;> first | rfl | cases h

/-- What is no binary operation binds as tightly as one likes. -/
theorem bindsAt_of_isBinary (h : e.isBinary = false) (level : Nat) : e.BindsAt level := by
  cases e <;> trivial

theorem BindsAt.mono {least : Nat} (h : e.BindsAt level) (hle : least ≤ level) :
    e.BindsAt least := by
  cases e <;> first | trivial | exact fun l hl => Nat.le_trans hle (h l hl)

theorem bindsAt_zero (e : Expr) : e.BindsAt 0 := by
  cases e <;> first | trivial | exact fun l _ => Nat.zero_le l

theorem bindsAt_binary_iff {op : String} {lhs rhs : Expr}
    (h : Operator.precedence? op = some level) {least : Nat} :
    (binary op lhs rhs).BindsAt least ↔ least ≤ level := by
  refine ⟨fun hb => hb level h, fun hle l hl => ?_⟩
  rwa [← Option.some.inj (h.symm.trans hl)]

end Expr

/-! ## Expressions in statements and items -/

mutual

/-- The expressions in the statement, at any depth. -/
def Statement.exprs : Statement → List Expr
  | .letBinding _ value _ => [value]
  | .stateBinding _ value _ => [value]
  | .when condition result otherwise _ =>
    condition :: (result.exprs ++ Statement.exprsOfElse otherwise)
  | .ret value _ => value.toList
  | .render value _ => [value]
  | .expr value _ => [value]
  | .block body _ => Statement.exprsOfList body
  | .declaration callable => Statement.exprsOfCallable callable
  | .error _ => []

/-- The expressions in the second result of a condition, if there is one. -/
def Statement.exprsOfElse : Option Statement → List Expr
  | none => []
  | some s => s.exprs

/-- The expressions in the statements. -/
def Statement.exprsOfList : List Statement → List Expr
  | [] => []
  | s :: l => s.exprs ++ Statement.exprsOfList l

/-- The expressions in the body of the function or component. -/
def Statement.exprsOfCallable : Callable Statement → List Expr
  | ⟨_, _, _, body, _⟩ => Statement.exprsOfList body

end

@[simp]
theorem Statement.exprsOfList_eq (l : List Statement) : exprsOfList l = l.flatMap exprs := by
  induction l with
  | nil => rfl
  | cons s l ih => rw [exprsOfList, ih, List.flatMap_cons]

/-- The expressions in the body of the function or component. -/
def Callable.exprs (c : Declaration) : List Expr := Statement.exprsOfCallable c

/-- The expressions in the item, at any depth of statements. -/
def Item.exprs : Item → List Expr
  | .directive _ args _ => args
  | .declaration callable => callable.exprs
  | .imported _ _ => []
  | .exported callable _ => callable.exprs
  | .statement s => s.exprs

end SunLint
