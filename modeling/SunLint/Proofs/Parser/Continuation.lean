import SunLint.Proofs.Parser.Relocation
import SunLint.Proofs.Token.Lines

/-!
# Programs that go on

Where one list of tokens ends, another one goes on behind a line end. A run on the first list
that is clean is also a run on the second one, up to that line end (`Coupling.continuation`).
By then every keyword has got its delimiter, so nothing is open, and what follows is read as
it is on its own.

* `items_append`: the items that are read from the list that goes on are those that are read
  from the first one, and then those that are read behind the line end;
* `parse_append`: the items of two texts, one behind the other, and the errors of the second
  one.
-/

namespace SunLint

open Recovery

variable {stop newline : Token} {more : List Token}

/-! ## Delimiters -/

namespace Recovery.Delimiter

variable {d : Delimiter} {construct : Construct}

/-- The keywords that ask for a delimiter are those that open a block or a condition. -/
theorem isBlockOpener_opener (h : ofConstruct? construct = some d) :
    d.opener.isBlockOpener = true ∧ d.kind.isBlockOpener = false := by
  cases construct <;> cases h <;> exact ⟨rfl, rfl⟩

theorem kind_ne_opener (h : ofConstruct? construct = some d) {kind : Kind}
    (hk : kind.isBlockOpener = false) : kind ≠ d.opener := by
  rintro rfl
  rw [(isBlockOpener_opener h).1] at hk
  cases hk

theorem IsClosed.append {l l' : List Token} (h : d.IsClosed l')
    (hl : ∀ t ∈ l, t.kind ≠ d.opener) : d.IsClosed (l ++ l') := by
  induction l with
  | nil => exact h
  | cons t l ih =>
    exact (ih fun t ht => hl t (List.mem_cons_of_mem _ ht)).cons (hl t List.mem_cons_self)

end Recovery.Delimiter

namespace Parser

variable {env env' : Env} {s t s' t' : State} {n : Nat} {Q : Delimiter → Prop}

/-- Both runs are clean and at the same place, the tokens `l` before the one list goes on with `X`
    and the other one with `Y`. -/
structure Parallel (X Y l : List Token) (s t : State) : Prop where
  ready : Ready s
  errors : t.errors = []
  room : t.room = s.room
  behind : t.cursor.behind = s.cursor.behind
  abreast : Cursor.Abreast l X Y s.cursor t.cursor

namespace Parallel

variable {X Y l : List Token} {a x y : Token}

theorem next (h : Parallel (x :: X) (y :: Y) (a :: l) s t) :
    Parallel (x :: X) (y :: Y) l (s.moveTo s.cursor.next) (t.moveTo t.cursor.next) where
  ready := h.ready.of_le (h.ready.clean.moveTo _) s.cursor.le_next
  errors := h.errors
  room := h.room
  behind := by
    rw [State.cursor_moveTo, State.cursor_moveTo, h.abreast.next.2.1, h.abreast.next.2.2, h.behind]
  abreast := h.abreast.next.1

theorem skip (h : Parallel X Y l s t) (p : Kind → Bool) : (∀ a ∈ l, p a.kind = true) ∨
    ∃ (l₁ : List Token) (a : Token) (l₂ : List Token), (∀ a ∈ l₁, p a.kind = true) ∧
      (s.cursor.skip p).behind = l₁.reverse ++ s.cursor.behind ∧
      Parallel X Y (a :: l₂) (s.moveTo (s.cursor.skip p)) (t.moveTo (t.cursor.skip p)) := by
  obtain hl | ⟨l₁, a, l₂, rfl, hl₁, habreast, hleft, hright⟩ := h.abreast.skip p
  · exact .inl hl
  · refine .inr ⟨l₁, a, l₂, hl₁, hleft, h.ready.of_le (h.ready.clean.moveTo _) (s.cursor.le_skip p),
      h.errors, h.room, ?_, habreast⟩
    rw [State.cursor_moveTo, State.cursor_moveTo, hleft, hright, h.behind]

theorem focus_of_nil (h : Parallel (x :: X) (y :: Y) [] s t) :
    s.cursor.focus = x ∧ t.cursor.focus = y :=
  ⟨(Cursor.rest_eq_cons.1 h.abreast.left).1, (Cursor.rest_eq_cons.1 h.abreast.right).1⟩

theorem focus_eq (h : Parallel X Y (a :: l) s t) : t.cursor.focus = s.cursor.focus :=
  h.abreast.focus_eq.2.trans h.abreast.focus_eq.1.symm

/-- Neither list goes on with a word that could follow another one. -/
theorem isJuxtaposed_eq (h : Parallel (x :: X) (y :: Y) l s t) (hx : x.kind.endsLine = true)
    (hy : y.kind.endsLine = true) (htext : s.cursor.focus.kind = .text) :
    isJuxtaposed t.cursor = isJuxtaposed s.cursor := by
  cases l with
  | nil =>
    rw [h.focus_of_nil.1] at htext
    rw [htext] at hx
    cases hx
  | cons a l =>
    obtain ⟨hfocus, hahead⟩ := Cursor.rest_eq_cons.1 h.abreast.left
    obtain ⟨hfocus', hahead'⟩ := Cursor.rest_eq_cons.1 h.abreast.right
    rw [isJuxtaposed, isJuxtaposed, hfocus, hahead, hfocus', hahead']
    cases l with
    | nil =>
      obtain hx | hx := Kind.endsLine_iff.1 hx
      all_goals obtain hy | hy := Kind.endsLine_iff.1 hy <;> simp [hx, hy]
    | cons b l => rfl

/-- If the one run has moved on then so has the other one. -/
theorem index_eq_iff {X' Y' l' : List Token} (h : Parallel X Y l s t)
    (h' : Parallel X' Y' l' s' t') :
    t'.cursor.index = t.cursor.index ↔ s'.cursor.index = s.cursor.index := by
  rw [Cursor.index, Cursor.index, Cursor.index, Cursor.index, h.behind, h'.behind]

end Parallel

/-- Both runs are at the same place, the tokens `l` before the end of the first list. Those of
    the delimiters that satisfy `Q` have been passed. -/
structure Continued (stop newline : Token) (more : List Token) (Q : Delimiter → Prop)
    (l : List Token) (s t : State) : Prop extends Parallel [stop] (newline :: more) l s t where
  closed : ∀ construct, ∀ d ∈ Delimiter.ofConstruct? construct, Q d → d.IsClosed s.cursor.behind

namespace Coupling

/-- A run on a list and one on a list that goes on where the first one ends. -/
def continuation (stop newline : Token) (more : List Token) (Q : Delimiter → Prop) :
    Coupling where
  lines := 0
  strict := True
  Sim s t := ∃ l, Continued stop newline more Q l s t

end Coupling

namespace Continued

variable {l : List Token} {a : Token}

/-- A token is passed that opens nothing. -/
theorem next (h : Continued stop newline more Q (a :: l) s t)
    (ha : ∀ construct, ∀ d ∈ Delimiter.ofConstruct? construct, Q d → a.kind ≠ d.opener) :
    Continued stop newline more Q l (s.moveTo s.cursor.next) (t.moveTo t.cursor.next) where
  toParallel := h.toParallel.next
  closed construct d hd hQ := by
    rw [State.cursor_moveTo, h.abreast.next.2.1]
    exact (h.closed construct d hd hQ).cons (ha construct d hd hQ)

theorem skip (h : Continued stop newline more Q l s t) {p : Kind → Bool}
    (hp : ∀ kind, p kind = true → kind.isBlockOpener = false) :
    (∀ a ∈ l, p a.kind = true) ∨
      ∃ a l', Continued stop newline more Q (a :: l') (s.moveTo (s.cursor.skip p))
        (t.moveTo (t.cursor.skip p)) := by
  obtain hl | ⟨l₁, a, l₂, hl₁, hbehind, h'⟩ := h.toParallel.skip p
  · exact .inl hl
  · refine .inr ⟨a, l₂, h', fun construct d hd hQ => ?_⟩
    rw [State.cursor_moveTo, hbehind]
    exact (h.closed construct d hd hQ).append fun x hx =>
      Delimiter.kind_ne_opener hd (hp _ (hl₁ x (List.mem_reverse.1 hx)))

end Continued

namespace Coupling

variable (hstop : stop.kind = .eof) (hnewline : newline.kind = .newline)
include hstop

theorem pass_continuation (h : (continuation stop newline more Q).Sim s t)
    (heof : s.cursor.focus.kind ≠ .eof)
    (ha : ∀ construct, ∀ d ∈ Delimiter.ofConstruct? construct, Q d →
      s.cursor.focus.kind ≠ d.opener) :
    (continuation stop newline more Q).Sim (s.moveTo s.cursor.next)
      (t.moveTo t.cursor.next) := by
  obtain ⟨l, h⟩ := h
  cases l with
  | nil => exact absurd (h.focus_of_nil.1 ▸ hstop) heof
  | cons a l =>
    exact ⟨l, h.next fun construct d hd hQ => h.abreast.focus_eq.1 ▸ ha construct d hd hQ⟩

theorem steady_continuation : (continuation stop newline more Q).Steady where
  ready := fun _ ⟨_, h⟩ => h.ready
  focus := by
    rintro s t ⟨l, h⟩
    cases l with
    | nil => exact .inr ⟨trivial, h.ready.clean, by rw [h.focus_of_nil.1, hstop]; rfl⟩
    | cons a l => exact .inl (by rw [h.focus_eq]; rfl)
  next h _ hk hopener := pass_continuation hstop h (fun heof => by rw [heof] at hk; cases hk)
    fun _ _ hd _ => Delimiter.kind_ne_opener hd (hopener trivial)
  skipNewlines := by
    rintro s t ⟨l, h⟩
    obtain hl | ⟨a, l', h'⟩ := h.skip (p := (· = .newline)) fun _ hk => by
      rw [of_decide_eq_true hk]
      rfl
    · refine .inr ⟨trivial, h.ready.clean.moveTo _, ?_⟩
      rw [State.cursor_moveTo, Cursor.skip_of_rest h.abreast.left hl (by rw [hstop]; rfl), hstop]
      rfl
    · exact .inl ⟨_, h'⟩
  record := fun _ _ => .inl trivial

/-- From the keyword on, the delimiters of the given kind are not asked for, until one of them
    has been passed. -/
theorem header_continuation (construct : Construct) (ending : Kind)
    (hending : ending ≠ .eof ∧ ending.isBlockOpener = false) :
    (continuation stop newline more fun _ => True).Header
      (continuation stop newline more (·.kind ≠ ending)) construct ending where
  steady := steady_continuation hstop
  part := ⟨rfl, id, id, fun _ => .inl trivial⟩
  delimiter := by
    rintro env env' s t - - ⟨l, h⟩
    by_cases hfocus : s.cursor.focus.kind = ending
    · cases l with
      | nil =>
        rw [h.focus_of_nil.1, hstop] at hfocus
        exact absurd hfocus.symm hending.1
      | cons a l =>
        rw [← bind_pure (delimiter ending), delimiter_bind, delimiter_bind, h.focus_eq,
          if_pos hfocus, if_pos hfocus]
        rw [h.abreast.focus_eq.1] at hfocus
        have h' := h.next fun _ _ hd _ => Delimiter.kind_ne_opener hd (hfocus ▸ hending.2)
        refine .done rfl ⟨l, { h' with closed := fun construct d hd _ => ?_ }⟩
        by_cases hkind : d.kind = ending
        · -- The delimiter has been passed just now, so it is the nearest one behind.
          rw [State.cursor_moveTo, h.abreast.next.2.1]
          exact .of_kind (hfocus.trans hkind.symm)
            (Delimiter.kind_ne_opener hd (Delimiter.isBlockOpener_opener hd).2)
        · exact h'.closed construct d hd hkind
    · exact .spoiled trivial (delimiter_of_kind_ne h.ready.clean hfocus)

/-- At the keyword of a construct both runs come into its header. -/
theorem continuation_header {kind ending : Kind} (hkind : kind.isBlockOpener = true)
    (hending : ∀ construct, ∀ d ∈ Delimiter.ofConstruct? construct, d.opener = kind →
      d.kind = ending)
    (h : (continuation stop newline more fun _ => True).Sim s t) (hcounts : Counts kind s.cursor) :
    (continuation stop newline more (·.kind ≠ ending)).Sim (s.moveTo s.cursor.next)
      (t.moveTo t.cursor.next) := by
  obtain ⟨l, h⟩ := h
  have h' : (continuation stop newline more (·.kind ≠ ending)).Sim s t :=
    ⟨l, { h with closed := fun construct d hd _ => h.closed construct d hd trivial }⟩
  refine pass_continuation hstop h'
    (hcounts.ne_eof fun heof => by rw [heof] at hkind; cases hkind) ?_
  intro construct d hd hne hopener
  obtain hfocus | ⟨hfocus, _⟩ := hcounts
  · exact hne (hending construct d hd (hopener.symm.trans hfocus))
  · exact Delimiter.kind_ne_opener hd (hfocus ▸ rfl) hopener

include hnewline

omit hstop in
theorem stops_continuation : (continuation stop newline more Q).Stops := by
  rintro s t ⟨l, h⟩ hstuck
  cases l with
  | nil =>
    rw [h.focus_of_nil.2]
    exact Token.not_continues (by rw [hnewline]; rfl)
  | cons a l =>
    rw [h.focus_eq]
    exact Token.not_continues hstuck.isBarrier

theorem complete_continuation : (continuation stop newline more fun _ => True).Complete where
  toSteady := steady_continuation hstop
  pass h _ heof hopener := pass_continuation hstop h heof fun _ _ hd _ =>
    Delimiter.kind_ne_opener hd (hopener trivial)
  edge := by
    rintro s t ⟨l, h⟩
    cases l with
    | nil =>
      refine .inr ⟨trivial, ?_, ?_⟩
      · rw [h.focus_of_nil.1, hstop]
        rfl
      · rw [h.focus_of_nil.2, hnewline]
        rfl
    | cons a l => exact .inl (by rw [Aligned, h.focus_eq]; rfl)
  skipSeparators := by
    rintro s t ⟨l, h⟩
    obtain hl | ⟨a, l', h'⟩ := h.skip fun _ => Kind.isBlockOpener_of_isSeparator
    · refine .inr ⟨trivial, ?_⟩
      rw [Cursor.skip_of_rest h.abreast.left hl (by rw [hstop]; rfl), hstop]
      rfl
    · exact .inl ⟨_, h'⟩
  room := by
    rintro s t ⟨l, h⟩
    rw [h.room]
  isJuxtaposed := by
    rintro s t ⟨l, h⟩ - htext
    exact h.isJuxtaposed_eq (by rw [hstop]; rfl) (by rw [hnewline]; rfl) htext
  lastErrorPosition := fun _ => .inl trivial
  index := fun ⟨_, h⟩ ⟨_, h'⟩ _ _ => h.index_eq_iff h'.toParallel
  recovered := fun _ _ _ _ => .inl trivial
  callable := by
    intro s t form h _ hcounts
    have hs : (continuation stop newline more (·.kind ≠ .leftBrace)).Sim (s.moveTo s.cursor.next)
        (t.moveTo t.cursor.next) := continuation_header hstop (by cases form <;> rfl)
      (fun construct d hd hopener => by
        cases construct <;> cases hd <;> first | rfl | cases form <;> cases hopener) h hcounts
    refine ⟨_, header_continuation hstop form.construct .leftBrace ⟨by decide, rfl⟩, hs,
      fun htext hstuck => ?_⟩
    have hs' := pass_continuation hstop hs (by rw [State.cursor_moveTo, htext]; decide)
      fun _ _ hd _ => Delimiter.kind_ne_opener hd (by rw [State.cursor_moveTo, htext]; rfl)
    exact fun hparen => stops_continuation hnewline hs' hstuck (.inl hparen)
  conditional := by
    intro s t h _ hcounts
    have hs : (continuation stop newline more (·.kind ≠ .thenKw)).Sim (s.moveTo s.cursor.next)
        (t.moveTo t.cursor.next) := continuation_header hstop rfl
      (fun construct d hd hopener => by
        cases construct <;> cases hd <;> first | rfl | cases hopener) h hcounts
    exact ⟨_, (header_continuation hstop .when .thenKw ⟨by decide, rfl⟩).orThen,
      stops_continuation hnewline, hs⟩

end Coupling

/-! ## Items -/

theorem map_congr {α β : Type} {p q : Parser α} (f : α → β) (h : p env s = q env' t) :
    (f <$> p) env s = (f <$> q) env' t := by
  rw [map_eq_pure_bind, map_eq_pure_bind, bind_apply, bind_apply, h]
  cases q env' t <;> rfl

theorem again_of_done {α : Type} {round : Parser (List α × Bool)} {rest : Parser (List α)}
    {found : List α} (h : round env s = .done (found, true) s') :
    again round rest env s = ((found ++ ·) <$> rest) env s' := by
  rw [again, bind_apply, h, map_eq_pure_bind]
  rfl

theorem done_of_map {α β : Type} {p : Parser α} {f : α → β} {b : β}
    (h : (f <$> p) env s = .done b s') : ∃ a, p env s = .done a s' ∧ f a = b := by
  rw [map_eq_pure_bind, bind_apply] at h
  cases hp : p env s with
  | done a s₁ =>
    rw [hp] at h
    cases h
    exact ⟨a, rfl, rfl⟩
  | failed e s₁ =>
    rw [hp] at h
    cases h
  | exhausted =>
    rw [hp] at h
    cases h

/-- At the end of the input a round is the last one. -/
theorem itemRound_of_eof (p : Parser Item) (env : Env)
    (h : (s.cursor.skip fun k => k = .newline || k = .semicolon).focus.kind = .eof) :
    itemRound p env s = .done ([], false)
      (s.moveTo (s.cursor.skip fun k => k = .newline || k = .semicolon)) := by
  simp only [itemRound, skipSeparators, skip_bind, halted_bind, currentKind_bind,
    State.cursor_moveTo, h, decide_true, Bool.or_true, if_true]
  rfl

/-- Elsewhere it is not, as long as there is room for errors. -/
theorem more_of_itemRound {p : Parser Item} {x : List Item × Bool}
    (h : itemRound p env s = .done x s') (hroom : 0 < s.room)
    (hne : (s.cursor.skip fun k => k = .newline || k = .semicolon).focus.kind ≠ .eof) :
    x.2 = true := by
  have hroom : (s.moveTo (s.cursor.skip fun k => k = .newline || k = .semicolon)).room ≠ 0 :=
    Nat.ne_of_gt hroom
  simp only [itemRound, skipSeparators, skip_bind, halted_bind, currentKind_bind,
    State.cursor_moveTo, hne, hroom, decide_false, Bool.or_self, Bool.false_eq_true, if_false] at h
  rw [bind_apply] at h
  split at h
  · cases h
    rfl
  · cases h
  · cases h

/-- Where separators stand, the items are read behind them. -/
theorem items_skip (n : Nat) (h : s.errors = t.errors ∧ s.room = t.room)
    (hskip : (s.cursor.skip fun k => k = .newline || k = .semicolon) =
      t.cursor.skip fun k => k = .newline || k = .semicolon) :
    items (n + 1) env s = items (n + 1) env t := by
  rw [items]
  simp only [skipSeparators, skip_bind, hskip]
  obtain ⟨c, errors, room⟩ := s
  obtain ⟨c', errors', room'⟩ := t
  obtain ⟨rfl, rfl⟩ := h
  rfl

/-- Only separators are left of the first list. -/
theorem items_ended (env' : Env) {l : List Token} {x : Token} {xs : List Token}
    {found : List Item}
    (hstop : stop.kind = .eof) (hnewline : newline.kind = .newline)
    (h : Continued stop newline (x :: xs) (fun _ => True) l s t)
    (hl : ∀ a ∈ l, (a.kind = .newline || a.kind = .semicolon) = true)
    (hdone : items (n + 1) env s = .done found s') :
    found = [] ∧ ∃ b, IsNeutral b ∧ items (n + 1) env' t =
      items (n + 1) env' { cursor := ⟨newline :: b, x, xs⟩, room := s'.room } := by
  have hskip := Cursor.skip_of_rest (p := fun k => k = .newline || k = .semicolon)
    h.abreast.left hl (by rw [hstop]; rfl)
  rw [items_succ, again, bind_apply, itemRound_of_eof (item n) env (by rw [hskip, hstop])] at hdone
  cases hdone
  refine ⟨rfl, l.reverse ++ s.cursor.behind, fun construct d hd => ?_, ?_⟩
  · exact (h.closed construct d hd trivial).append fun a ha => Delimiter.kind_ne_opener hd
      (Kind.isBlockOpener_of_isSeparator (hl a (List.mem_reverse.1 ha)))
  · refine items_skip n ⟨h.errors, h.room⟩ ?_
    have hright : t.cursor.rest = (l ++ [newline]) ++ x :: xs := by
      rw [h.abreast.right, List.append_assoc]
      rfl
    rw [Cursor.skip_append hright fun a ha => ?_, List.reverse_append, h.behind]
    · rfl
    · obtain ha | ha := List.mem_append.1 ha
      · exact hl a ha
      · rw [List.mem_singleton.1 ha, hnewline]
        rfl

/-- A clean round over the first list is one over the second list, where that is not further
    down. -/
theorem itemRound_coupled {C : Coupling} (hC : C.Complete) (hlines : C.lines = 0)
    {found : List Item} {again : Bool} {s₁ : State} (hagrees : C.Agrees env env')
    (h : C.Sim (s.moveTo (s.cursor.skip fun k => k = .newline || k = .semicolon))
      (t.moveTo (t.cursor.skip fun k => k = .newline || k = .semicolon)))
    (haligned : C.Aligned (s.moveTo (s.cursor.skip fun k => k = .newline || k = .semicolon))
      (t.moveTo (t.cursor.skip fun k => k = .newline || k = .semicolon)))
    (hround : itemRound (item n) env s = .done (found, again) s₁) (hclean : s₁.IsClean) :
    ∃ t₁, itemRound (item n) env' t = .done (found, again) t₁ ∧ C.Sim s₁ t₁ := by
  have hcoupled := Coupling.keeps_itemRound hC n hagrees h haligned
  rw [hround] at hcoupled
  generalize itemRound (item n) env' t = o at hcoupled
  cases hcoupled with
  | spoiled _ hspoiled => exact (hspoiled _ _ rfl hclean).elim
  | @done _ y _ t₁ hy h₁ =>
    obtain ⟨found', again'⟩ := y
    obtain ⟨hfound, rfl⟩ := hy
    obtain rfl : found = found' := by simpa [hlines] using hfound
    exact ⟨t₁, rfl, h₁⟩

/-- The items of the first list are read, and then those behind the line end, with nothing open
    in front of them. -/
theorem items_continued (hstop : stop.kind = .eof) (hnewline : newline.kind = .newline)
    {x : Token} {xs : List Token} {found : List Item} (hagrees : env.Agrees env')
    (h : (Coupling.continuation stop newline (x :: xs) fun _ => True).Sim s t)
    (hsingle : ∀ y ∈ s.cursor.tokens.dropLast, y.kind ≠ .eof)
    (hdone : items n env s = .done found s') (hclean : s'.IsClean) :
    ∃ m b, IsNeutral b ∧ items n env' t = ((found ++ ·) <$> items m) env'
      { cursor := ⟨newline :: b, x, xs⟩, room := s'.room } := by
  -- By induction on the depth: behind a round both runs are at the same place again.
  induction n generalizing s t found with
  | zero => cases hdone
  | succ n ih =>
    obtain ⟨l, h⟩ := h
    obtain hl | ⟨a, l', h'⟩ := h.skip fun _ => Kind.isBlockOpener_of_isSeparator
    · obtain ⟨rfl, b, hb, heq⟩ := items_ended env' hstop hnewline h hl hdone
      have hid : (([] : List Item) ++ ·) <$> items (n + 1) = items (n + 1) := id_map _
      exact ⟨n + 1, b, hb, by rw [hid, heq]⟩
    · have hne : (s.cursor.skip fun k => k = .newline || k = .semicolon).focus.kind ≠ .eof := by
        -- There is nothing behind the end of the input, but the first list goes on.
        intro heof
        have hahead := (Cursor.rest_eq_cons.1 h'.abreast.left).2
        rw [State.cursor_moveTo,
          Cursor.ahead_eq_nil (by rw [Cursor.tokens_skip]; exact hsingle) heof] at hahead
        simp at hahead
      rw [items_succ] at hdone
      obtain hlast | ⟨found₁, s₁, found₂, hfound₁, hfound₂, rfl⟩ := done_of_again hdone
      · exact absurd (more_of_itemRound hlast h.ready.clean.room hne) Bool.false_ne_true
      · have hs₁ : s₁.IsClean := by
          have hgrows : s₁.Grows s' := Records.grows (congrArg Outcome.state? hfound₂)
          exact hgrows.isClean hclean
        obtain ⟨t₁, ht₁, h₁⟩ := itemRound_coupled (Coupling.complete_continuation hstop hnewline)
          rfl ⟨hagrees, trivial⟩ ⟨_, h'⟩ (by rw [Coupling.Aligned, h'.focus_eq]; rfl) hfound₁ hs₁
        obtain ⟨-, hle, -⟩ := itemRound_reads n h.ready _ _ hfound₁ hs₁
        obtain ⟨m, b, hb, heq⟩ := ih h₁ (by rw [← hle.1]; exact hsingle) hfound₂
        refine ⟨m, b, hb, ?_⟩
        rw [items_succ, again_of_done ht₁, map_congr _ heq, Functor.map_map]
        simp only [List.append_assoc]

/-- A run that is a relocated one comes to the relocated result, to whatever depth it comes to
    a result at all. -/
theorem eq_of_relocated {before : List Token} {base : List SyntaxError} {k m m₀ : Nat} {env₁ : Env}
    {s₁ t₁ : State} {found found₁ : List Item} (hbefore : IsNeutral before)
    (hagrees : env₁.Agrees env') (hstart : Relocated k before base s₁ t)
    (hdone₁ : ∀ m ≥ m₀, items m env₁ s₁ = .done found₁ t₁)
    (hdone : items m env' t = .done found t') :
    found = found₁.map (·.down k) ∧ Relocated k before base t₁ t' := by
  obtain ⟨t₂, ht₂, hrelocated⟩ :=
    items_relocated hbefore hagrees hstart (hdone₁ (max m m₀) (Nat.le_max_right _ _))
  rw [Below.of_le items_stable (Nat.le_max_left _ _) _ _ (by rw [hdone]; nofun), hdone] at ht₂
  cases ht₂
  exact ⟨rfl, hrelocated⟩

/-- The items that are read from the list that goes on are those that are read from the first
    one, and then those that are read from the other one on its own. -/
theorem items_append {x : Token} {xs : List Token} {k m₀ : Nat} {env₁ : Env} {s₁ t₁ t₂ : State}
    {found found₁ found₂ : List Item} (hstop : stop.kind = .eof)
    (hnewline : newline.kind = .newline) (hagrees : env.Agrees env')
    (h : (Coupling.continuation stop newline (x :: xs) fun _ => True).Sim s t)
    (hsingle : ∀ y ∈ s.cursor.tokens.dropLast, y.kind ≠ .eof)
    (hdone : items n env s = .done found s') (hclean : s'.IsClean) (hagrees₁ : env₁.Agrees env')
    (hstart : ∀ b, Relocated k b [] s₁ { cursor := ⟨b, x, xs⟩, room := s'.room })
    (hdone₁ : ∀ m ≥ m₀, items m env₁ s₁ = .done found₁ t₁)
    (hdone₂ : items n env' t = .done found₂ t₂) :
    found₂ = found ++ found₁.map (·.down k) ∧
      List.Forall₂ (SyntaxError.IsDown k) t₁.errors t₂.errors := by
  obtain ⟨m, b, hb, hitems⟩ := items_continued hstop hnewline hagrees h hsingle hdone hclean
  rw [hdone₂] at hitems
  obtain ⟨l, hl, rfl⟩ := done_of_map hitems.symm
  have hneutral : IsNeutral (newline :: b) := fun construct d hd =>
    (hb construct d hd).cons (Delimiter.kind_ne_opener hd (by rw [hnewline]; rfl))
  obtain ⟨rfl, hrelocated⟩ := eq_of_relocated hneutral hagrees₁ (hstart (newline :: b)) hdone₁ hl
  obtain ⟨added, hadded, hdown⟩ := hrelocated.errors
  rw [List.append_nil] at hadded
  exact ⟨rfl, hadded ▸ hdown⟩

/-- At the beginning of both lists nothing has been read. -/
theorem continuation_start {c c' : Cursor} {pieces : List Token} {settings : Settings}
    (hready : Ready (.start c settings)) (hc : Cursor.ofList? (pieces ++ [stop]) = some c)
    (hc' : Cursor.ofList? (pieces ++ newline :: more) = some c') :
    (Coupling.continuation stop newline more fun _ => True).Sim (.start c settings)
      (.start c' settings) := by
  obtain ⟨hrest, hbehind⟩ := Cursor.rest_of_ofList? hc
  obtain ⟨hrest', hbehind'⟩ := Cursor.rest_of_ofList? hc'
  refine ⟨pieces, ⟨hready, rfl, rfl, hbehind'.trans hbehind.symm, ⟨hrest, hrest'⟩⟩, ?_⟩
  intro construct d hd _
  rw [show (State.start c settings).cursor.behind = [] from hbehind]
  exact d.isClosed_nil

/-- Behind other tokens, and after errors about those, the tokens are read as they are where they
    stand on their own. -/
theorem relocated_start {c : Cursor} {k : Nat} {b : List Token} {x : Token} {xs : List Token}
    {base : List SyntaxError} (settings : Settings) (hc : c.rest.map (·.down k) = x :: xs)
    (hbehind : c.behind = [])
    (hapart : ∀ token ∈ c.tokens, base.head?.map (·.position) ≠ some (token.position.down k)) :
    Relocated k b base (.start c settings)
      { cursor := ⟨b, x, xs⟩, errors := base, room := settings.maxErrors } where
  cursor := by
    obtain ⟨rfl, rfl⟩ := List.cons_eq_cons.1 hc
    rw [Cursor.down, show (State.start c settings).cursor = c from rfl, hbehind]
    rfl
  room := rfl
  errors := ⟨[], rfl, .nil⟩
  apart := hapart

/-- A list that goes on with another one ends as that one does. -/
theorem getLast?_append_down {pieces tokens : List Token} {k : Nat}
    (h : tokens.getLast?.map (·.kind) = some .eof) :
    (pieces ++ newline :: tokens.map (·.down k)).getLast?.map (·.kind) = some .eof := by
  cases hl : tokens.getLast? with
  | none => simp [hl] at h
  | some token =>
    rw [hl] at h
    simpa [List.getLast?_append, List.getLast?_cons, List.getLast?_map, hl] using h

/-- A list that is parsed without an error may go on behind a line end with any other list. -/
theorem parse_append_tokens {pieces tokens : List Token} {k : Nat} {dictionary : Dictionary}
    {settings : Settings} {found : List Item} (source source' source'' : Option String)
    (hpieces : ∀ token ∈ pieces, token.kind ≠ .eof) (hstop : stop.kind = .eof)
    (hnewline : newline.kind = .newline)
    (hclean : parse (pieces ++ [stop]) source dictionary settings = .ok ⟨found, []⟩)
    (hlast : tokens.getLast?.map (·.kind) = some .eof) (hcap : 1 ≤ settings.maxErrors) :
    ∃ output output', parse tokens source' dictionary settings = .ok output ∧
      parse (pieces ++ newline :: tokens.map (·.down k)) source'' dictionary settings =
        .ok output' ∧
      output'.items = found ++ output.items.map (·.down k) ∧
      List.Forall₂ (SyntaxError.IsDown k) output.errors output'.errors := by
  have hend : (pieces ++ [stop]).getLast?.map (·.kind) = some .eof := by simp [hstop]
  obtain ⟨c, found', s, hc, hready, hdone, hparse, hclean'⟩ :=
    exists_run source dictionary hend hcap
  rw [hclean] at hparse
  obtain ⟨rfl, herrors⟩ : found = found' ∧ [] = s.errors.reverse := by simpa using hparse
  have hs := hclean' herrors.symm
  obtain ⟨c₁, found₁, t₁, hc₁, -, hdone₁, hparse₁⟩ :=
    isParsed_of_getLast? source' dictionary settings hlast
  cases htokens : tokens.map (·.down k) with
  | nil => simp [List.map_eq_nil_iff.1 htokens] at hlast
  | cons x xs =>
    obtain ⟨c₂, found₂, t₂, hc₂, -, hdone₂, hparse₂⟩ :=
      isParsed_of_getLast? source'' dictionary settings (htokens ▸ getLast?_append_down hlast)
    refine ⟨_, _, hparse₁, hparse₂, ?_⟩
    obtain ⟨hrest₁, hbehind₁⟩ := Cursor.rest_of_ofList? hc₁
    have hsim := continuation_start hready hc hc₂
    have hagrees : (Env.start source dictionary settings).Agrees
        (.start source'' dictionary settings) := ⟨rfl, rfl, rfl⟩
    have hagrees₁ : (Env.start source' dictionary settings).Agrees
        (.start source'' dictionary settings) := ⟨rfl, rfl, rfl⟩
    let n := max (depthFor (pieces ++ [stop]).length)
      (depthFor (pieces ++ newline :: x :: xs).length)
    have hdone' : items n (.start source dictionary settings) (.start c settings) =
        .done found s := by
      rw [Below.of_le items_stable (Nat.le_max_left _ _) _ _ (by rw [hdone]; nofun), hdone]
    have hroom : s.room = settings.maxErrors := by
      have hgrows : (State.start c settings).Grows s :=
        Records.grows (congrArg Outcome.state? hdone)
      simpa [State.start, hs.errors] using hgrows.room_eq
    have hsingle : ∀ y ∈ (State.start c settings).cursor.tokens.dropLast, y.kind ≠ .eof := by
      rw [show (State.start c settings).cursor.tokens = _ from Cursor.tokens_ofList? hc,
        List.dropLast_concat]
      exact hpieces
    have hstart (b : List Token) : Relocated k b [] (.start c₁ settings)
        { cursor := ⟨b, x, xs⟩, room := s.room } := by
      rw [hroom]
      exact relocated_start settings (hrest₁.symm ▸ htokens) hbehind₁ fun _ _ => nofun
    obtain ⟨rfl, herrors⟩ := items_append hstop hnewline hagrees hsim hsingle hdone' hs hagrees₁
      hstart hdone₁ (hdone₂ n (Nat.le_max_right _ _))
    exact ⟨rfl, (List.forall₂_reverse_iff ..).2 herrors⟩

/-- If there is nothing wrong with the first text then it does not make a difference to the
    second one: the items are those of both texts, and the errors those of the second one, as
    many lines further down as the first text has. -/
theorem parse_append {s t : String} {dictionary : Dictionary} {settings : Settings}
    {found : List Item} (hlexical : (tokenize s).errors = [])
    (hclean : parse (tokenize s).tokens (some s) dictionary settings = .ok ⟨found, []⟩)
    (ht : t.toList.head? ≠ some '\ufeff') (hcap : 1 ≤ settings.maxErrors) :
    ∃ output output',
      parse (tokenize t).tokens (some t) dictionary settings = .ok output ∧
      parse (tokenize (s ++ "\n" ++ t)).tokens (some (s ++ "\n" ++ t)) dictionary settings =
        .ok output' ∧
      output'.items = found ++ output.items.map (·.down (Text.pieces s.toList).length) ∧
      List.Forall₂ (SyntaxError.IsDown (Text.pieces s.toList).length) output.errors
        output'.errors ∧
      (tokenize (s ++ "\n" ++ t)).errors =
        (tokenize t).errors.map (·.down (Text.pieces s.toList).length) := by
  obtain ⟨pieces, p, hpieces, htokens, htokens', herrors⟩ := tokenize_append hlexical ht
  have hlast := isTerminated_tokenize t
  rw [TokenStream.isTerminated, decide_eq_true_eq] at hlast
  rw [htokens] at hclean
  have hnewline : (⟨.newline, "\n", p⟩ : Token).kind = .newline := rfl
  obtain ⟨output, output', houtput, houtput', hitems, hdown⟩ := parse_append_tokens (some s)
    (some t) (some (s ++ "\n" ++ t)) hpieces rfl hnewline hclean hlast hcap
  exact ⟨output, output', houtput, htokens' ▸ houtput', hitems, hdown, herrors⟩

/-- Behind a function of three lines there is a text with two errors and an item. -/
theorem parse_append_of_function : ∃ (s t : String) (found : List Item)
    (output output' : ParseOutput),
    s = "function f(a) \x7b\n  return a\n\x7d" ∧ t = "let = \"open\nlet y = 3" ∧
    (tokenize s).errors = [] ∧
    parse (tokenize s).tokens (some s) { keywords := [] } {} = .ok ⟨found, []⟩ ∧
    found.length = 1 ∧
    parse (tokenize t).tokens (some t) { keywords := [] } {} = .ok output ∧
    parse (tokenize (s ++ "\n" ++ t)).tokens (some (s ++ "\n" ++ t)) { keywords := [] } {} =
      .ok output' ∧
    output'.items = found ++ output.items.map (·.down 3) ∧
    List.Forall₂ (SyntaxError.IsDown 3) output.errors output'.errors ∧
    (tokenize (s ++ "\n" ++ t)).errors = (tokenize t).errors.map (·.down 3) ∧
    output.items.length = 1 ∧ output.errors.map (·.position) = [⟨1, 5⟩] := by
  let s := "function f(a) \x7b\n  return a\n\x7d"
  let t := "let = \"open\nlet y = 3"
  have hlexical : (tokenize s).errors = [] := by decide +kernel
  have hlines : (Text.pieces s.toList).length = 3 := by decide
  have hparses : (parse (tokenize s).tokens (some s) { keywords := [] } {}).toOption.map
      (fun p => (p.items.length, p.errors)) = some (1, []) := by decide +kernel
  have hparses' : (parse (tokenize t).tokens (some t) { keywords := [] } {}).toOption.map
      (fun p => (p.items.length, p.errors.map (·.position))) = some (1, [⟨1, 5⟩]) := by
    decide +kernel
  cases hclean : parse (tokenize s).tokens (some s) { keywords := [] } {} with
  | error fault =>
    rw [hclean] at hparses
    cases hparses
  | ok clean =>
    obtain ⟨found, errors⟩ := clean
    rw [hclean] at hparses
    obtain ⟨hlength, rfl⟩ : found.length = 1 ∧ errors = [] := by
      simpa [Except.toOption] using hparses
    obtain ⟨output, output', houtput, houtput', hitems, hdown, herrors⟩ :=
      parse_append (t := t) hlexical hclean (by decide) (by decide)
    rw [hlines] at hitems hdown herrors
    rw [houtput] at hparses'
    obtain ⟨hitems', herrors'⟩ : output.items.length = 1 ∧
        output.errors.map (·.position) = [⟨1, 5⟩] := by
      simpa [Except.toOption] using hparses'
    exact ⟨s, t, found, output, output', rfl, rfl, hlexical, hclean, hlength, houtput, houtput',
      hitems, hdown, herrors, hitems', herrors'⟩

end Parser

end SunLint
