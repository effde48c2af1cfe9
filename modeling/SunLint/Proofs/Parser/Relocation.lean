import Mathlib.Data.List.Forall2
import SunLint.Proofs.Parser.Coupled

/-!
# Tokens that stand further down

A list of tokens is read in the same way wherever it stands: `k` lines further down, behind
other tokens and after errors that have been recorded before (`Relocated`). Only two things
could make a difference. A recovery looks for the keyword of a construct among the tokens
behind it, so those in front of the list may not open anything without the delimiter that
goes with it (`Recovery.IsNeutral`). And the last error is asked for its position, which may
not be that of a token of the list.

* `recover_down`: a recovery takes the same strategy, and its report is the same;
* `items_relocated`: the items, and the errors that are added.
-/

namespace SunLint

open Recovery

variable {k : Nat} {before : List Token}

/-! ## Cursors -/

namespace Cursor

/-- The cursor in the list that is `k` lines further down, with the tokens `before` in front
    of it, nearest first. -/
def down (k : Nat) (before : List Token) (c : Cursor) : Cursor where
  behind := c.behind.map (·.down k) ++ before
  focus := c.focus.down k
  ahead := c.ahead.map (·.down k)

theorem down_eq_map (c : Cursor) : c.down k before = c.map (·.down k) before := rfl

@[simp]
theorem focus_down (c : Cursor) : (c.down k before).focus = c.focus.down k := rfl

theorem next_down (c : Cursor) : (c.down k before).next = c.next.down k before := next_map c

theorem seek_down (c : Cursor) (n : Nat) : (c.down k before).seek n = (c.seek n).down k before :=
  seek_map c n

theorem skip_down (c : Cursor) (p : Kind → Bool) :
    (c.down k before).skip p = (c.skip p).down k before :=
  skip_map (Token.keeps_down k) c p

theorem index_down (c : Cursor) : (c.down k before).index = c.index + before.length := index_map c

end Cursor

/-- A recovery at the same token further down does the same, and reports the same. -/
theorem Scene.recover_down {scene scene' : Scene} {context context' : Context}
    (hdictionary : scene'.dictionary = scene.dictionary)
    (hconstruct : context'.construct = context.construct)
    (henclosing : context'.enclosing = context.enclosing)
    (hlimits : scene'.limits = scene.limits) (hbefore : IsNeutral before) (c : Cursor) :
    Recovery.Rel (SyntaxError.IsDown k) (scene.recover c context)
      (scene'.recover (c.down k before) context') :=
  recover_map (Token.keeps_down k)
    (fun _ _ _ _ _ _ _ => isDown_recordLed hdictionary hconstruct henclosing ..)
    hconstruct hdictionary hlimits hbefore

namespace Parser

variable {base : List SyntaxError} {env env' : Env} {s t : State} {e e' : SyntaxError}

/-! ## States -/

/-- The second run is in the list that is `k` lines further down, behind the tokens `before`
    and after the errors `base`, and has recorded the same errors since. -/
structure Relocated (k : Nat) (before : List Token) (base : List SyntaxError) (s t : State) :
    Prop where
  cursor : t.cursor = s.cursor.down k before
  room : t.room = s.room
  errors : ∃ own, t.errors = own ++ base ∧ List.Forall₂ (SyntaxError.IsDown k) s.errors own
  apart : ∀ token ∈ s.cursor.tokens,
    base.head?.map (·.position) ≠ some (token.position.down k)

/-- Two runs of which the second one is further down. -/
def Coupling.relocation (k : Nat) (before : List Token) (base : List SyntaxError) : Coupling where
  lines := k
  strict := False
  Sim := Relocated k before base

namespace Relocated

variable (h : Relocated k before base s t)
include h

theorem moveTo {c : Cursor} (hc : c.tokens = s.cursor.tokens) :
    Relocated k before base (s.moveTo c) (t.moveTo (c.down k before)) where
  cursor := rfl
  room := h.room
  errors := h.errors
  apart := by
    rw [State.cursor_moveTo, hc]
    exact h.apart

theorem next : Relocated k before base (s.moveTo s.cursor.next) (t.moveTo t.cursor.next) := by
  rw [h.cursor, Cursor.next_down]
  exact h.moveTo (Cursor.tokens_next _)

theorem skip (p : Kind → Bool) :
    Relocated k before base (s.moveTo (s.cursor.skip p)) (t.moveTo (t.cursor.skip p)) := by
  rw [h.cursor, Cursor.skip_down]
  exact h.moveTo (Cursor.tokens_skip _ _)

theorem record (he : e.IsDown k e') : Relocated k before base (s.record e) (t.record e') := by
  obtain ⟨own, hown, hdown⟩ := h.errors
  rw [State.record, State.record, h.room]
  split
  · exact h
  · exact ⟨h.cursor, rfl, ⟨e' :: own, by rw [hown]; rfl, .cons he hdown⟩, h.apart⟩

/-- An error has been recorded at the place of the cursor in both runs, or in neither. -/
theorem lastErrorPosition :
    t.errors.head?.map (·.position) = some t.cursor.focus.position ↔
      s.errors.head?.map (·.position) = some s.cursor.focus.position := by
  obtain ⟨own, hown, hdown⟩ := h.errors
  rw [hown, h.cursor, Cursor.focus_down, Token.position_down]
  generalize s.errors = errors at hdown
  cases hdown with
  | nil =>
    have hfocus : s.cursor.focus ∈ s.cursor.tokens := by simp [Cursor.tokens]
    exact iff_of_false (h.apart _ hfocus) (by simp)
  | cons he _ => 
    simp only [List.cons_append, List.head?_cons, Option.map_some, Option.some.injEq, he.position,
      Position.down_inj]

/-- Both runs recover alike. -/
theorem recovered (hbefore : IsNeutral before) (hagrees : env.Agrees env')
    (he : e.IsDown k e') :
    Relocated k before base (s.recovered env e) (t.recovered env' e') := by
  have hr := Scene.recover_down (k := k) hagrees.dictionary he.construct he.enclosing
    hagrees.limits hbefore s.cursor
  rw [← h.cursor] at hr
  refine State.recovered_of_rel h id he hr h.room (fun hreport => ⟨hreport.code, ?_⟩)
    (fun h he => h.record he) fun {s t} n h => ?_
  · rw [hreport.position, he.position, Position.down_inj]
  · rw [h.cursor, Cursor.seek_down]
    exact h.moveTo (Cursor.tokens_seek _ _)

end Relocated

namespace Coupling

theorem steady_relocation : (relocation k before base).Steady where
  ready := nofun
  focus h := .inl (by rw [h.cursor]; rfl)
  next h _ _ _ := h.next
  skipNewlines h := .inl (h.skip _)
  record h he := .inr (h.record he)

/-- Tokens that stand further down are read alike, if nothing is open in front of them. -/
theorem complete_relocation (hbefore : IsNeutral before) :
    (relocation k before base).Complete := by
  have haligned {s t : State} (h : Relocated k before base s t) :
      (relocation k before base).Aligned s t := by
    rw [Aligned, h.cursor]
    rfl
  have hheader (construct : Construct) (kind : Kind) :
      (relocation k before base).Header (relocation k before base) construct kind :=
    steady_relocation.header construct (fun h _ _ => h.next) (fun h => .inl (haligned h))
      fun hagrees h => .inr fun construct => by
        rw [h.cursor, Cursor.down_eq_map,
          Scene.lacking?_map (Token.keeps_down k) hagrees.limits hbefore]
  exact
    { steady_relocation with
      pass := fun h _ _ _ => h.next
      edge := fun h => .inl (haligned h)
      skipSeparators := fun h => .inl (h.skip _)
      room := fun h => by rw [h.room]
      isJuxtaposed := fun {s t} h _ _ => by
        rw [h.cursor, Cursor.down_eq_map, isJuxtaposed_map (Token.keeps_down k)]
      lastErrorPosition := fun h => .inr h.lastErrorPosition
      index := fun h h' _ _ => by
        rw [h.cursor, h'.cursor, Cursor.index_down, Cursor.index_down]
        omega
      recovered := fun hagrees h _ he => .inr (h.recovered hbefore hagrees.toAgrees he)
      callable := fun form h _ _ => ⟨relocation k before base,
        hheader form.construct .leftBrace, h.next, fun _ hstuck => hstuck.strict.elim⟩
      conditional := fun h _ _ => ⟨relocation k before base,
        (hheader .when .thenKw).orThen, fun _ hstuck => hstuck.strict.elim, h.next⟩ }

end Coupling

/-- The items that are read further down are the same, but for their lines, and so are the
    errors that are added. -/
theorem items_relocated (hbefore : IsNeutral before) (hagrees : env.Agrees env')
    (h : Relocated k before base s t) {n : Nat} {found : List Item} {s' : State}
    (hdone : items n env s = .done found s') :
    ∃ t', items n env' t = .done (found.map (·.down k)) t' ∧ Relocated k before base s' t' := by
  have hcoupled := Coupling.keeps_items (Coupling.complete_relocation hbefore)
    (fun h => by rw [Coupling.Aligned, h.cursor]; rfl) (fun h => h.skip _) n ⟨hagrees, trivial⟩ h
  rw [hdone] at hcoupled
  generalize items n env' t = o at hcoupled
  cases hcoupled with
  | done hV h' => exact ⟨_, by rw [← hV]; rfl, h'⟩
  | spoiled hstrict => exact hstrict.elim

end Parser

end SunLint
