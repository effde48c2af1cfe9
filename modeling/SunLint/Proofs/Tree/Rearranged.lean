import Mathlib.Data.List.Forall2
import SunLint.Proofs.Tree.Down

/-!
# Programs with their directives elsewhere

It makes no difference to a program where among its items a directive stands, and how often. Two
lists of items that differ in nothing else, apart from the lines that the items are on, are
`Rearranged`.

* `Rearranged.append`, `Rearranged.down`: lists may be put together from rearranged parts, and
  stand on other lines;
* `Rearranged.comm`, `Rearranged.hoist`: directives may go in front of what they follow on.
-/

namespace SunLint

/-! ## Programs further down and down again -/

section

variable (k l : Nat)

mutual

@[simp]
theorem Statement.down_down : ∀ s : Statement, (s.down k).down l = s.down (k + l)
  | .letBinding _ _ _ => by simp only [down, Nat.add_assoc]
  | .stateBinding _ _ _ => by simp only [down, Nat.add_assoc]
  | .when _ result otherwise _ => by
    simp only [down, result.down_down, Statement.downOfElse_downOfElse otherwise, Nat.add_assoc]
  | .ret _ _ => by simp only [down, Nat.add_assoc]
  | .render _ _ => by simp only [down, Nat.add_assoc]
  | .expr _ _ => by simp only [down, Nat.add_assoc]
  | .block body _ => by simp only [down, Statement.downOfList_downOfList body, Nat.add_assoc]
  | .declaration callable => by simp only [down, Statement.downOfCallable_downOfCallable callable]
  | .error _ => by simp only [down, Nat.add_assoc]

theorem Statement.downOfElse_downOfElse :
    ∀ o : Option Statement, downOfElse l (downOfElse k o) = downOfElse (k + l) o
  | none => rfl
  | some s => by simp only [downOfElse, s.down_down]

theorem Statement.downOfList_downOfList :
    ∀ b : List Statement, downOfList l (downOfList k b) = downOfList (k + l) b
  | [] => rfl
  | s :: b => by simp only [downOfList, s.down_down, Statement.downOfList_downOfList b]

theorem Statement.downOfCallable_downOfCallable :
    ∀ c : Callable Statement, downOfCallable l (downOfCallable k c) = downOfCallable (k + l) c
  | ⟨_, _, _, body, _⟩ => by
    simp only [downOfCallable, Statement.downOfList_downOfList body, Nat.add_assoc]

end

@[simp]
theorem Item.down_down (i : Item) : (i.down k).down l = i.down (k + l) := by
  cases i <;>
    simp only [down, Callable.down, Statement.downOfCallable_downOfCallable, Statement.down_down,
      Nat.add_assoc]

end

/-! ## Items -/

namespace Item

variable {i j m : Item} {k : Nat}

/-- The name and the arguments of a directive. -/
def directive? : Item → Option (String × List Expr)
  | directive name args _ => some (name, args)
  | _ => none

/-- Whether the item is a directive. -/
def isDirective (i : Item) : Bool := i.directive?.isSome

@[simp]
theorem directive?_down (k : Nat) (i : Item) : (i.down k).directive? = i.directive? := by
  cases i <;> rfl

@[simp]
theorem isDirective_down (k : Nat) (i : Item) : (i.down k).isDirective = i.isDirective := by
  rw [isDirective, directive?_down, isDirective]

/-- The items are the same, but perhaps on other lines. -/
def IsMoved (i j : Item) : Prop := ∃ k l, i.down k = j.down l

theorem IsMoved.refl (i : Item) : i.IsMoved i := ⟨0, 0, rfl⟩

theorem IsMoved.symm (h : i.IsMoved j) : j.IsMoved i := by
  obtain ⟨k, l, h⟩ := h
  exact ⟨l, k, h.symm⟩

theorem IsMoved.trans (h : i.IsMoved j) (h' : j.IsMoved m) : i.IsMoved m := by
  obtain ⟨k, l, h⟩ := h
  obtain ⟨k', l', h'⟩ := h'
  refine ⟨k + k', l' + l, ?_⟩
  rw [← down_down, h, down_down, Nat.add_comm l k', ← down_down, h', down_down]

theorem isMoved_down (k : Nat) (i : Item) : i.IsMoved (i.down k) := ⟨k, 0, (down_zero _).symm⟩

theorem forall₂_isMoved_trans {x y z : List Item} (h : List.Forall₂ IsMoved x y)
    (h' : List.Forall₂ IsMoved y z) : List.Forall₂ IsMoved x z := by
  induction h generalizing z with
  | nil => exact h'
  | cons hi h ih =>
    obtain ⟨j, z, hj, hz, rfl⟩ := List.forall₂_cons_left_iff.1 h'
    exact .cons (hi.trans hj) (ih hz)

end Item

/-! ## Lists of items -/

/-- The lists have the same items in the same order, apart from directives, and of these each one
    of the one list is somewhere in the other one. -/
structure Rearranged (found found' : List Item) : Prop where
  others : List.Forall₂ Item.IsMoved (found.filter (!·.isDirective))
    (found'.filter (!·.isDirective))
  directives : ∀ d, d ∈ found.filterMap Item.directive? ↔ d ∈ found'.filterMap Item.directive?

namespace Rearranged

variable {x x' y y' z : List Item}

theorem refl (x : List Item) : Rearranged x x :=
  ⟨List.forall₂_same.2 fun i _ => .refl i, fun _ => Iff.rfl⟩

theorem symm (h : Rearranged x y) : Rearranged y x :=
  ⟨h.others.flip.imp fun _ _ => .symm, fun d => (h.directives d).symm⟩

theorem trans (h : Rearranged x y) (h' : Rearranged y z) : Rearranged x z :=
  ⟨Item.forall₂_isMoved_trans h.others h'.others,
    fun d => (h.directives d).trans (h'.directives d)⟩

instance : Trans Rearranged Rearranged Rearranged := ⟨trans⟩

/-- Where one of the lists has nothing but directives so has the other one. -/
theorem isDirective (h : Rearranged x y) (hx : ∀ i ∈ x, i.isDirective = true) :
    ∀ i ∈ y, i.isDirective = true := by
  have hothers := h.others
  rw [List.filter_eq_nil_iff.2 (by simpa using hx), List.forall₂_nil_left_iff,
    List.filter_eq_nil_iff] at hothers
  simpa using hothers

theorem append (h : Rearranged x x') (h' : Rearranged y y') : Rearranged (x ++ y) (x' ++ y') := by
  refine ⟨?_, fun d => ?_⟩
  · rw [List.filter_append, List.filter_append]
    exact List.rel_append h.others h'.others
  · rw [List.filterMap_append, List.filterMap_append, List.mem_append, List.mem_append,
      h.directives, h'.directives]

/-- The items on other lines. -/
theorem down (k : Nat) (x : List Item) : Rearranged x (x.map (·.down k)) := by
  induction x with
  | nil => exact .refl []
  | cons i x ih =>
    have hi : Rearranged [i] [i.down k] := by
      refine ⟨?_, fun d => by simp [List.filterMap_cons]⟩
      rw [List.filter_singleton, List.filter_singleton, Item.isDirective_down]
      cases i.isDirective with
      | true => exact .nil
      | false => exact .cons (Item.isMoved_down k i) .nil
    exact hi.append ih

/-- Directives only. -/
theorem of_directives (hx : ∀ i ∈ x, i.isDirective = true) (hy : ∀ i ∈ y, i.isDirective = true)
    (h : ∀ d, d ∈ x.filterMap Item.directive? ↔ d ∈ y.filterMap Item.directive?) :
    Rearranged x y := by
  refine ⟨?_, h⟩
  rw [List.filter_eq_nil_iff.2 (by simpa using hx), List.filter_eq_nil_iff.2 (by simpa using hy)]
  exact .nil

/-- Directives may go in front. -/
theorem comm (hy : ∀ i ∈ y, i.isDirective = true) (x : List Item) :
    Rearranged (x ++ y) (y ++ x) := by
  have hnone : y.filter (!·.isDirective) = [] := List.filter_eq_nil_iff.2 (by simpa using hy)
  refine ⟨?_, fun d => ?_⟩
  · rw [List.filter_append, List.filter_append, hnone, List.append_nil, List.nil_append]
    exact List.forall₂_same.2 fun i _ => .refl i
  · rw [List.filterMap_append, List.filterMap_append, List.mem_append, List.mem_append, or_comm]

/-- So what has been moved to the front of one part may be moved to the front of the whole. -/
theorem hoist (hz : ∀ i ∈ z, i.isDirective = true) (x y y' : List Item) :
    Rearranged ((x ++ y) ++ (z ++ y')) ((x ++ z) ++ (y ++ y')) := by
  have hmiddle : Rearranged (x ++ (y ++ z) ++ y') (x ++ (z ++ y) ++ y') :=
    ((Rearranged.refl x).append (comm hz y)).append (.refl y')
  simpa only [List.append_assoc] using hmiddle

end Rearranged

end SunLint
