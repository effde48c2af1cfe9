import SunLint.Proofs.Parser.Compositional
import SunLint.Proofs.Parser.Total

/-!
# Errors are only added

Whatever a parser reads, it adds errors to those recorded before and takes none
away, and every error that is added takes up the room for one (`State.Grows`). So once
there is no room left, the errors stay as they are.

`Records` is a class, since all parsers are in it: what a parser does after a call is
put together from parsers that only add errors, and the instances see that.
-/

namespace SunLint.Parser

variable {α β : Type} {env : Env} {s s' s'' : State}

/-- The state `s'` has the errors of `s` and perhaps others, each of which has taken
    up the room for one. -/
structure State.Grows (s s' : State) : Prop where
  isSuffix : s.errors <:+ s'.errors
  room_eq : s'.room + s'.errors.length = s.room + s.errors.length

namespace State.Grows

theorem of_eq (he : s'.errors = s.errors) (hr : s'.room = s.room) : s.Grows s' :=
  ⟨he ▸ List.suffix_refl _, by rw [he, hr]⟩

theorem refl (s : State) : s.Grows s := .of_eq rfl rfl

theorem trans (h : s.Grows s') (h' : s'.Grows s'') : s.Grows s'' :=
  ⟨h.isSuffix.trans h'.isSuffix, h'.room_eq.trans h.room_eq⟩

theorem room_le (h : s.Grows s') : s'.room ≤ s.room := by
  have := h.isSuffix.length_le
  have := h.room_eq
  omega

/-- Without room nothing is added. -/
theorem errors_eq (h : s.Grows s') (hroom : s.room = 0) : s'.errors = s.errors := by
  have hlength := h.isSuffix.length_le
  have := h.room_eq
  exact (h.isSuffix.eq_of_length (by omega)).symm

end State.Grows

theorem State.grows_record (s : State) (e : SyntaxError) : s.Grows (s.record e) := by
  unfold State.record
  split
  · exact .refl s
  · rename_i room hroom
    exact ⟨List.suffix_cons e s.errors, by simp only [List.length_cons, hroom]; omega⟩

/-- Wherever it is called, the parser adds errors at most. -/
class Records (p : Parser α) : Prop where
  grows : ∀ {env s s'}, (p env s).state? = some s' → s.Grows s'

theorem Records.of_eq {p : Parser α}
    (h : ∀ env s s', (p env s).state? = some s' → s'.errors = s.errors ∧ s'.room = s.room) :
    Records p where
  grows hs' := .of_eq (h _ _ _ hs').1 (h _ _ _ hs').2

/-- A parser with others behind it ends where one of those ends, which is called where
    it ends itself. -/
theorem state?_following {p : Parser α} {f : α → Parser β} {g : SyntaxError → Parser β}
    (hf : ∀ a, Records (f a)) (hg : ∀ e, Records (g e))
    (h : (following p f g env s).state? = some s') :
    ∃ s₁, (p env s).state? = some s₁ ∧ s₁.Grows s' := by
  rw [following] at h
  cases hp : p env s with
  | done a s₁ =>
    rw [hp] at h
    exact ⟨s₁, rfl, (hf a).grows h⟩
  | failed e s₁ =>
    rw [hp] at h
    exact ⟨s₁, rfl, (hg e).grows h⟩
  | exhausted =>
    rw [hp] at h
    cases h

/-- Whatever they look at, primitive parsers only add errors. -/
theorem records_ofPrimitives : OfPrimitives @Records where
  look f := .of_eq fun env s s' h => by cases h; exact ⟨rfl, rfl⟩
  move f _ := .of_eq fun env s s' h => by cases h; exact ⟨rfl, rfl⟩
  report e := ⟨fun {_ s _} h => by cases h; exact s.grows_record e⟩
  halted := .of_eq fun env s s' h => by cases h; exact ⟨rfl, rfl⟩
  lastErrorPosition := .of_eq fun env s s' h => by cases h; exact ⟨rfl, rfl⟩
  fail e := .of_eq fun env s s' h => by cases h; exact ⟨rfl, rfl⟩
  exhausted := .of_eq fun env s s' h => by cases h
  following hp hf hg := ⟨fun h => by
    obtain ⟨s₁, hs₁, h₁⟩ := state?_following hf hg h
    exact (hp.grows hs₁).trans h₁⟩
  within _ hp := ⟨fun h => hp.grows h⟩

/-- All parsers only add errors. -/
theorem records_isCompositional : IsCompositional @Records := records_ofPrimitives.isCompositional

/-- Without room for an error no item is read. -/
theorem items_eq_nil {n : Nat} {found : List Item} (hroom : s.room = 0)
    (h : items n env s = .done found s') : found = [] := by
  cases n with
  | zero => cases h
  | succ n =>
    rw [items] at h
    simp only [skipSeparators, skip_bind, halted_bind, State.moveTo, hroom, currentKind_bind,
      decide_true, Bool.true_or, if_true] at h
    cases h
    rfl

end SunLint.Parser
