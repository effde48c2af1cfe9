import SunLint.Proofs.Parser.Run

/-!
# Parsers that go forward

What parsers are shown to do as long as it does not matter what they read: they do
not go back, and they come to an end if they may call each other to a depth that is
enough.

* `Outcome.From`: what is asked of an outcome, that it is not before a given
  cursor, and that the depth did not run out if it was enough;
* `Proceeds`: the same of a parser, wherever it is called. Parsers that are put
  together from such parsers are such parsers again;
* `Enough`: the depth that is enough, by the rank of the parser and the number of
  tokens ahead. To read a token is to gain two dozen ranks (`Outcome.From.advance`).

Whether a token is read may depend on the kind that a parser was called with. It is
not the end of the input unless the token is (`EnoughFor`).
-/

namespace SunLint.Parser

variable {α β : Type} {env : Env} {s : State}

/-! ## What is asked of an outcome -/

/-- The outcome is not before the cursor `c`, and its result satisfies `Q`. The
    depth does not run out if there was `enough` of it. -/
def Outcome.From (c : Cursor) (enough : Prop) (Q : α → State → Prop) : Outcome α → Prop
  | .done a s => c ≤ s.cursor ∧ Q a s
  | .failed _ s => c ≤ s.cursor
  | .exhausted => ¬ enough

namespace Outcome

variable {c : Cursor} {enough : Prop} {Q : α → State → Prop} {R : β → State → Prop}

theorem From.bind {p : Parser α} {f : α → Parser β} (hp : (p env s).From c enough Q)
    (hf : ∀ a s', c ≤ s'.cursor → Q a s' → (f a env s').From c enough R) :
    ((p >>= f) env s).From c enough R := by
  rw [bind_apply]
  cases h : p env s with
  | done a s' =>
    rw [h] at hp
    exact hf a s' hp.1 hp.2
  | failed e s' =>
    rw [h] at hp
    exact hp
  | exhausted =>
    rw [h] at hp
    exact hp

theorem From.mono {o : Outcome α} {d : Cursor} {needed : Prop} {Q' : α → State → Prop}
    (h : o.From d needed Q) (hc : c ≤ d) (he : enough → needed)
    (hQ : ∀ a s', d ≤ s'.cursor → Q a s' → Q' a s') : o.From c enough Q' := by
  cases o with
  | done a s' => exact ⟨hc.trans h.1, hQ a s' h.1 h.2⟩
  | failed e s' => exact hc.trans h
  | exhausted => exact fun hen => h (he hen)

/-- What is skipped is left behind. -/
theorem From.skip {p : Kind → Bool} {f : Unit → Parser α}
    (h : ∀ d, s.cursor ≤ d → (f () env (s.moveTo d)).From c enough Q) :
    ((skip p >>= f) env s).From c enough Q :=
  h _ (s.cursor.le_skip p)

end Outcome

/-- Wherever it is called, the parser does not go back, and the depth does not run
    out if there is `enough` of it there. -/
def Proceeds (p : Parser α) (enough : Cursor → Prop) : Prop :=
  ∀ env s, (p env s).From s.cursor (enough s.cursor) fun _ _ => True

namespace Proceeds

variable {p : Parser α} {f : α → Parser β} {c : Cursor} {enough : Prop} {needed : Cursor → Prop}
  {R : β → State → Prop}

theorem bind (hp : Proceeds p needed) (hc : c ≤ s.cursor) (he : enough → needed s.cursor)
    (hf : ∀ a s', s.cursor ≤ s'.cursor → (f a env s').From c enough R) :
    ((p >>= f) env s).From c enough R := by
  have h := (hp env s).mono hc he fun _ _ h _ => h
  exact h.bind fun a s' _ => hf a s'

theorem call (hp : Proceeds p needed) (hc : c ≤ s.cursor) (he : enough → needed s.cursor) :
    (p env s).From c enough fun _ _ => True :=
  (hp env s).mono hc he fun _ _ _ h => h

theorem within (hp : Proceeds p needed) (construct : Construct) :
    Proceeds (within construct p) needed :=
  fun _ s => hp _ s

theorem map (hp : Proceeds p needed) (g : α → β) : Proceeds (g <$> p) needed := by
  intro env s
  rw [map_eq_pure_bind]
  exact hp.bind (le_refl _) id fun _ _ h => ⟨h, trivial⟩

theorem of_imp {needed' : Cursor → Prop} (hp : Proceeds p needed)
    (h : ∀ c, needed' c → needed c) : Proceeds p needed' :=
  fun env s => (hp env s).mono (le_refl _) (h s.cursor) fun _ _ _ h => h

theorem orRecover (hp : Proceeds p needed) (fallback : α) :
    Proceeds (orRecover p fallback) needed := by
  intro env s
  have h := hp env s
  rw [← bind_pure (Parser.orRecover p fallback), orRecover_bind]
  cases hr : p env s with
  | done a s' =>
    rw [hr] at h
    exact h
  | failed e s' =>
    rw [hr] at h
    exact ⟨h.trans (s'.le_cursor_recovered env e), trivial⟩
  | exhausted =>
    rw [hr] at h
    exact h

end Proceeds

/-- The parser does not go back, and it needs no depth. -/
def Plain (p : Parser α) : Prop := Proceeds p fun _ => True

namespace Plain

variable {p : Parser α} {f : α → Parser β} {c : Cursor} {enough : Prop} {R : β → State → Prop}

theorem proceeds (hp : Plain p) (needed : Cursor → Prop) : Proceeds p needed :=
  Proceeds.of_imp hp fun _ _ => trivial

theorem step (hp : Plain p) (hc : c ≤ s.cursor)
    (hf : ∀ a s', s.cursor ≤ s'.cursor → (f a env s').From c enough R) :
    ((p >>= f) env s).From c enough R :=
  Proceeds.bind hp hc (fun _ => trivial) hf

end Plain

theorem expectName_plain : Plain expectName := by
  intro env s
  rw [← bind_pure expectName, expectName_bind]
  split
  · exact ⟨s.cursor.le_next, trivial⟩
  · exact le_refl s.cursor

theorem expect_plain (kind : Kind) : Plain (expect kind) := by
  intro env s
  rw [← bind_pure (expect kind), expect_bind]
  split
  · exact ⟨s.cursor.le_next, trivial⟩
  · exact le_refl s.cursor

theorem endStatement_plain : Plain endStatement := by
  intro env s
  rw [← bind_pure endStatement, endStatement_bind]
  split
  · exact ⟨le_refl _, trivial⟩
  · exact le_refl s.cursor

theorem delimiter_plain (kind : Kind) : Plain (delimiter kind) := by
  intro env s
  rw [← bind_pure (delimiter kind), delimiter_bind]
  split
  · exact ⟨s.cursor.le_next, trivial⟩
  · split
    · exact ⟨by simp, trivial⟩
    · exact le_refl s.cursor

/-! ## Depth -/

/-- The depth `n` is enough at the cursor for a parser of the given rank: one that
    calls, before it reads a token, parsers of lower ranks only. Every token that
    is read makes up for all ranks. -/
structure Enough (rank n : Nat) (c : Cursor) : Prop where
  terminated : c.IsTerminated
  le : rank + 24 * c.ahead.length ≤ n

namespace Enough

variable {rank rank' n : Nat} {c d : Cursor}

theorem of_le (h : Enough rank n c) (hle : c ≤ d) (hr : rank' ≤ rank) :
    Enough rank' n d := by
  have := Cursor.length_ahead_le hle
  have := h.le
  exact ⟨h.terminated.of_le hle, by omega⟩

theorem of_lt (h : Enough rank n c) (hlt : c < d) : Enough (rank + 24) n d := by
  have := Cursor.length_ahead_lt hlt
  have := h.le
  exact ⟨h.terminated.of_le hlt.le, by omega⟩

/-- A parser of a lower rank can be called. -/
theorem call (h : Enough rank (n + 1) c) (hle : c ≤ d) (hr : rank' < rank) :
    Enough rank' n d := by
  have := Cursor.length_ahead_le hle
  have := h.le
  exact ⟨h.terminated.of_le hle, by omega⟩

/-- Behind a token any parser can be called. -/
theorem call_of_lt (h : Enough rank (n + 1) c) (hlt : c < d)
    (hr : rank' < rank + 24) : Enough rank' n d :=
  (h.of_lt hlt).call (le_refl d) hr

theorem rank_le (h : Enough rank n c) : rank ≤ n :=
  Nat.le_trans (Nat.le_add_right _ _) h.le

end Enough

namespace Proceeds

variable {p : Parser α} {f : α → Parser β} {c : Cursor} {rank r n : Nat} {R : β → State → Prop}

/-- A parser of a lower rank is called first. -/
theorem step (hp : Proceeds p (Enough r n)) (hc : c ≤ s.cursor) (hr : r < rank)
    (hf : ∀ a s', s.cursor ≤ s'.cursor → (f a env s').From c (Enough rank (n + 1) c) R) :
    ((p >>= f) env s).From c (Enough rank (n + 1) c) R :=
  hp.bind hc (fun h => h.call hc hr) hf

/-- A parser of a lower rank is called last. -/
theorem last (hp : Proceeds p (Enough r n)) (hc : c ≤ s.cursor) (hr : r < rank) :
    (p env s).From c (Enough rank (n + 1) c) fun _ _ => True :=
  hp.call hc fun h => h.call hc hr

end Proceeds

variable {enough : Prop} {c : Cursor} {rank n : Nat}

theorem exhausted_proceeds (hr : 0 < rank) :
    Proceeds (exhausted : Parser α) (Enough rank 0) :=
  fun _ _ h => absurd h.rank_le (by omega)

/-- The depth is enough at a token that is not the end of the input. -/
structure EnoughAt (rank n : Nat) (c : Cursor) : Prop extends Enough rank n c where
  ne_eof : c.focus.kind ≠ .eof

/-- The depth is enough at a token that may count as one of the given kind. -/
structure EnoughFor (kind : Kind) (rank n : Nat) (c : Cursor) : Prop extends
    Enough rank n c where
  suits : Suits kind c

theorem EnoughAt.of_rank_le (h : EnoughAt rank n c) {rank' : Nat} (hr : rank' ≤ rank) :
    EnoughAt rank' n c :=
  ⟨h.of_le (le_refl c) hr, h.ne_eof⟩

theorem EnoughAt.call (h : EnoughAt rank (n + 1) c) {rank' : Nat} (hr : rank' < rank) :
    EnoughAt rank' n c :=
  ⟨h.toEnough.call (le_refl c) hr, h.ne_eof⟩

theorem EnoughFor.call {kind : Kind} (h : EnoughFor kind rank (n + 1) c) {rank' : Nat}
    (hr : rank' < rank) : EnoughFor kind rank' n c :=
  ⟨h.toEnough.call (le_refl c) hr, h.suits⟩

/-- A token that counts as one of another kind is not the end of the input. -/
theorem EnoughFor.atToken {kind : Kind} (h : EnoughFor kind rank n c) (hk : kind ≠ .eof) :
    EnoughAt rank n c :=
  ⟨h.toEnough, fun heof => hk (h.suits heof)⟩

/-! ## Steps -/

namespace Outcome.From

variable {Q : α → State → Prop}

/-- Behind a token there is depth for two dozen ranks more. -/
theorem advance {f : Unit → Parser α} (hc : c ≤ s.cursor) (he : enough → EnoughAt rank n s.cursor)
    (h : (f () env (s.moveTo s.cursor.next)).From s.cursor.next
      (Enough (rank + 24) n s.cursor.next) Q) :
    ((Parser.advance >>= f) env s).From c enough Q := by
  refine h.mono (hc.trans s.cursor.le_next) (fun hen => ?_) fun _ _ _ h => h
  exact (he hen).of_lt ((he hen).terminated.lt_next (he hen).ne_eof)

theorem effectiveKind {f : Kind → Parser α}
    (h : ∀ kind s', s.cursor ≤ s'.cursor →
      (∀ {rank n}, Enough rank n s.cursor → EnoughFor kind rank n s'.cursor) →
      (f kind env s').From c enough Q) :
    ((Parser.effectiveKind >>= f) env s).From c enough Q := by
  rw [effectiveKind_bind]
  cases hm : env.meant? s.cursor with
  | none => exact h _ s (le_refl _) fun hen => ⟨hen, id⟩
  | some meant =>
    refine h _ _ (by simp) fun hen => ?_
    rw [State.cursor_record]
    refine ⟨hen, fun heof => ?_⟩
    rw [(Env.meant?_eq_some hm).1] at heof
    cases heof

end Outcome.From

end SunLint.Parser
