import SunLint.Proofs.Parser.Records

/-!
# The error cap only truncates

Two parses of the same list differ in the number of errors that they may record. As
long as the smaller one has room left, they move in lockstep: they are at the same
token, with the same errors, and only the room differs (`Outcome.raise`). Once its room
is used up, the smaller one records nothing more, while the errors of the larger one
are those and perhaps others.

* `Truncates`: this, of a parser, wherever it is called. It is compositional, so all
  parsers truncate;
* `items_dropLast`: of the items of the smaller parse only the last one can be another
  than in the larger parse, since the loop ends at the item in which the room is
  used up;
* `parse_prefix`: the errors under a cap are the first ones of those under a larger one;
* `parse_cap`: the errors and the items of two parses with different caps.
-/

namespace SunLint

namespace Parser

variable {α β : Type} {env : Env} {s s' t : State} {k : Nat}

/-! ## More room -/

/-- The state with room for `k` errors more. -/
def State.raise (s : State) (k : Nat) : State := { s with room := s.room + k }

/-- The outcome with room for `k` errors more. -/
def Outcome.raise (k : Nat) : Outcome α → Outcome α
  | .done a s => .done a (s.raise k)
  | .failed e s => .failed e (s.raise k)
  | .exhausted => .exhausted

/-- The errors do not depend on the room for more of them. -/
theorem Outcome.isSuffix_of_raise {o : Outcome α} (hs : o.state? = some s')
    (ht : (o.raise k).state? = some t) : s'.errors <:+ t.errors := by
  cases o with
  | done a s =>
    cases hs
    cases ht
    exact List.suffix_refl _
  | failed e s =>
    cases hs
    cases ht
    exact List.suffix_refl _
  | exhausted => cases hs

/-- With more room the parser does the same up to the point where its room is used up
    without it. From there on the errors without it stay, and others may be added with
    it. -/
structure Truncates (p : Parser α) : Prop extends Records p where
  lockstep : ∀ {env s s'} k, (p env s).state? = some s' → 0 < s'.room →
    p env (s.raise k) = (p env s).raise k
  isSuffix : ∀ {env s s' t} k, (p env s).state? = some s' → s'.room = 0 →
    (p env (s.raise k)).state? = some t → s'.errors <:+ t.errors

namespace Truncates

/-- A parser that does the same whatever the room is, and records nothing. -/
theorem of_raise {p : Parser α} (hp : Records p)
    (h : ∀ env s k, p env (s.raise k) = (p env s).raise k) : Truncates p where
  toRecords := hp
  lockstep k _ _ := h _ _ k
  isSuffix {env s s' t} k hs' _ ht := by
    rw [h] at ht
    exact Outcome.isSuffix_of_raise hs' ht

theorem report (e : SyntaxError) : Truncates (report e) where
  toRecords := records_ofPrimitives.report e
  lockstep {env s s'} k hs' hroom := by
    cases hs'
    obtain ⟨c, errors, room⟩ := s
    cases room with
    | zero => exact absurd hroom (Nat.lt_irrefl 0)
    | succ room =>
      simp only [Parser.report, Outcome.raise, State.raise, Nat.add_right_comm room 1 k]
  isSuffix {env s s' t} k hs' _ ht := by
    cases hs'
    cases ht
    obtain ⟨c, errors, room⟩ := s
    cases room with
    | zero => exact (State.grows_record ⟨c, errors, 0 + k⟩ e).isSuffix
    | succ room =>
      simp only [State.raise, Nat.add_right_comm room 1 k]
      exact List.suffix_refl _

theorem halted : Truncates halted where
  toRecords := records_ofPrimitives.halted
  lockstep {env s s'} k hs' hroom := by
    cases hs'
    have h0 : s.room ≠ 0 := Nat.ne_of_gt hroom
    simp [Parser.halted, Outcome.raise, State.raise, h0]
  isSuffix {env s s' t} k hs' _ ht := by
    cases hs'
    cases ht
    exact List.suffix_refl _

theorem following {p : Parser α} {f : α → Parser β} {g : SyntaxError → Parser β}
    (hp : Truncates p) (hf : ∀ a, Truncates (f a)) (hg : ∀ e, Truncates (g e)) :
    Truncates (following p f g) where
  toRecords := records_ofPrimitives.following hp.toRecords (fun a => (hf a).toRecords)
    fun e => (hg e).toRecords
  lockstep {env s s'} k hs' hroom := by
    obtain ⟨s₁, hs₁, hgrows⟩ := state?_following (fun a => (hf a).toRecords)
      (fun e => (hg e).toRecords) hs'
    -- There is room left at the end, so there was room in between.
    have hlock := hp.lockstep k hs₁ (Nat.lt_of_lt_of_le hroom hgrows.room_le)
    rw [Parser.following] at hs' ⊢
    rw [Parser.following, hlock]
    cases ho : p env s with
    | done a s₂ =>
      rw [ho] at hs'
      exact (hf a).lockstep k hs' hroom
    | failed e s₂ =>
      rw [ho] at hs'
      exact (hg e).lockstep k hs' hroom
    | exhausted => rfl
  isSuffix {env s s' t} k hs' hroom ht := by
    obtain ⟨s₁, hs₁, hgrows⟩ := state?_following (fun a => (hf a).toRecords)
      (fun e => (hg e).toRecords) hs'
    obtain ⟨t₁, ht₁, hgrows'⟩ := state?_following (fun a => (hf a).toRecords)
      (fun e => (hg e).toRecords) ht
    rcases Nat.eq_zero_or_pos s₁.room with hroom₁ | hroom₁
    · -- The room is used up by the first parser.
      rw [hgrows.errors_eq hroom₁]
      exact (hp.isSuffix k hs₁ hroom₁ ht₁).trans hgrows'.isSuffix
    · -- It is used up by one behind it, up to which both are in lockstep.
      rw [Parser.following] at hs'
      rw [Parser.following, hp.lockstep k hs₁ hroom₁] at ht
      cases ho : p env s with
      | done a s₂ =>
        rw [ho] at hs' ht
        exact (hf a).isSuffix k hs' hroom ht
      | failed e s₂ =>
        rw [ho] at hs' ht
        exact (hg e).isSuffix k hs' hroom ht
      | exhausted =>
        rw [ho] at hs₁
        cases hs₁

end Truncates

/-- Primitive parsers truncate. -/
theorem truncates_ofPrimitives : OfPrimitives @Truncates where
  look f := .of_raise (records_ofPrimitives.look f) fun _ _ _ => rfl
  move f hf := .of_raise (records_ofPrimitives.move f hf) fun _ _ _ => rfl
  report := .report
  halted := .halted
  lastErrorPosition := .of_raise records_ofPrimitives.lastErrorPosition fun _ _ _ => rfl
  fail e := .of_raise (records_ofPrimitives.fail e) fun _ _ _ => rfl
  exhausted := .of_raise records_ofPrimitives.exhausted fun _ _ _ => rfl
  following := .following
  within _ hp := ⟨⟨hp.grows⟩, hp.lockstep, hp.isSuffix⟩

/-- All parsers truncate. -/
theorem truncates_isCompositional : IsCompositional @Truncates :=
  truncates_ofPrimitives.isCompositional

/-- The errors that a parser records are among the last ones it records with more room,
    whether its own room is used up or not. -/
theorem Truncates.errors_isSuffix {p : Parser α} (hp : Truncates p)
    (hs : (p env s).state? = some s') (ht : (p env (s.raise k)).state? = some t) :
    s'.errors <:+ t.errors := by
  rcases Nat.eq_zero_or_pos s'.room with hroom | hroom
  · exact hp.isSuffix k hs hroom ht
  · rw [hp.lockstep k hs hroom] at ht
    exact Outcome.isSuffix_of_raise hs ht

/-! ## Items -/

theorem itemRound_truncates (n : Nat) : Truncates (itemRound (item n)) := by
  have h := truncates_isCompositional
  have hguarded : Truncates (guarded (some <$> item n) none) :=
    h.index (fun hi => by simp only [hi]) fun _ =>
      h.bind (h.orRecover (h.map (h.item n) some) none) fun _ =>
        h.bind (h.ensureProgress _) fun _ => h.pure _
  refine h.bind (h.skip _) fun _ => h.bind h.halted fun _ => h.bind h.currentKind fun _ => ?_
  exact IsReading.ite (h.pure _) (h.bind hguarded fun _ => h.pure _)

/-- A round reads one item at most. -/
theorem length_le_of_itemRound {p : Parser Item} {found : List Item} {more : Bool}
    (h : itemRound p env s = .done (found, more) s') : found.length ≤ 1 := by
  simp only [itemRound, skipSeparators, skip_bind, halted_bind, currentKind_bind] at h
  split at h
  · cases h
    exact Nat.zero_le 1
  · rw [bind_apply] at h
    split at h
    · rename_i o _ _
      cases h
      cases o <;> simp
    · cases h
    · cases h

/-- All items but the last one are those that are read with more room. -/
theorem items_dropLast {n : Nat} {found found' : List Item}
    (h : items n env s = .done found s') (h' : items n env (s.raise k) = .done found' t) :
    found.dropLast <+: found' := by
  induction n generalizing s found found' with
  | zero => cases h
  | succ n ih =>
    rw [items_succ] at h h'
    have hround := itemRound_truncates n
    obtain hlast | ⟨l, s₁, rest, hl, hrest, rfl⟩ := done_of_again h
    · -- There is no item in the last round, or it is dropped.
      have hlength := length_le_of_itemRound hlast
      rw [List.dropLast_eq_take, Nat.sub_eq_zero_of_le hlength, List.take_zero]
      exact List.nil_prefix
    · rcases Nat.eq_zero_or_pos s₁.room with hroom | hroom
      · -- The round has used up the room, so it is the last one that reads an item.
        have hlength := length_le_of_itemRound hl
        rw [items_eq_nil hroom hrest, List.append_nil, List.dropLast_eq_take,
          Nat.sub_eq_zero_of_le hlength, List.take_zero]
        exact List.nil_prefix
      · -- The round is the same with more room.
        have hlock := hround.lockstep k (by rw [hl]; rfl) hroom
        rw [again, bind_apply, hlock, hl] at h'
        change (items n >>= fun l' => pure (l ++ l')) env (s₁.raise k) = _ at h'
        rw [bind_apply] at h'
        cases hrest' : items n env (s₁.raise k) with
        | done rest' t₁ =>
          rw [hrest'] at h'
          cases h'
          have hprefix := ih hrest hrest'
          cases rest with
          | nil =>
            rw [List.append_nil]
            exact (List.dropLast_prefix l).trans (List.prefix_append l rest')
          | cons x xs =>
            rw [List.dropLast_append_cons]
            exact (List.prefix_append_right_inj l).2 hprefix
        | failed e t₁ => exact absurd hrest' (items_neverFails _ _ _ _ _)
        | exhausted =>
          rw [hrest'] at h'
          cases h'

/-! ## Two caps -/

section

variable {tokens : List Token} {source : Option String} {dictionary : Dictionary}
  {settings : Settings} {n m : Nat}

/-- Two parses of a list start at the same token, and the larger cap leaves more room. -/
theorem exists_runs (source : Option String) (dictionary : Dictionary) (settings : Settings)
    (h : tokens.getLast?.map (·.kind) = some .eof) (hle : n ≤ m) :
    ∃ c found found' s t,
      items (depthFor tokens.length) (.start source dictionary settings)
        (.start c { settings with maxErrors := n }) = .done found s ∧
      items (depthFor tokens.length) (.start source dictionary settings)
        ((State.start c { settings with maxErrors := n }).raise (m - n)) = .done found' t ∧
      parse tokens source dictionary { settings with maxErrors := n } =
        .ok ⟨found, s.errors.reverse⟩ ∧
      parse tokens source dictionary { settings with maxErrors := m } =
        .ok ⟨found', t.errors.reverse⟩ := by
  obtain ⟨c, found, s, hc, -, hdone, hparse⟩ :=
    isParsed_of_getLast? source dictionary { settings with maxErrors := n } h
  obtain ⟨c', found', t, hc', -, hdone', hparse'⟩ :=
    isParsed_of_getLast? source dictionary { settings with maxErrors := m } h
  obtain rfl : c = c' := Option.some.inj (hc.symm.trans hc')
  have hstart : (State.start c { settings with maxErrors := n }).raise (m - n) =
      .start c { settings with maxErrors := m } := by
    simp only [State.raise, State.start, Nat.add_sub_cancel' hle]
  refine ⟨c, found, found', s, t, hdone _ (Nat.le_refl _), ?_, hparse, hparse'⟩
  rw [hstart]
  exact hdone' _ (Nat.le_refl _)

/-- The room that is left and the errors add up to the cap. -/
theorem room_add_length_errors {fuel : Nat} {c : Cursor} {found : List Item}
    (h : items fuel env (.start c { settings with maxErrors := n }) = .done found s) :
    s.room + s.errors.length = n :=
  ((truncates_isCompositional.items fuel).grows (congrArg Outcome.state? h)).room_eq

/-- As long as there is room left, a larger cap makes no difference. -/
theorem parse_eq_of_room {output : ParseOutput}
    (hlast : tokens.getLast?.map (·.kind) = some .eof) (hle : n ≤ m)
    (h : parse tokens source dictionary { settings with maxErrors := n } = .ok output)
    (hroom : output.errors.length < n) :
    parse tokens source dictionary { settings with maxErrors := m } = .ok output := by
  obtain ⟨c, found, found', s, t, hsmall, hlarge, hparse, hparse'⟩ :=
    exists_runs source dictionary settings hlast hle
  obtain rfl : output = ⟨found, s.errors.reverse⟩ := Except.ok.inj (h.symm.trans hparse)
  have hpos : 0 < s.room := by
    have hsum := room_add_length_errors hsmall
    rw [List.length_reverse] at hroom
    omega
  have hlock := (truncates_isCompositional.items (depthFor tokens.length)).lockstep (m - n)
    (congrArg Outcome.state? hsmall) hpos
  have hsame := hlarge.symm.trans (hlock.trans (congrArg (Outcome.raise _) hsmall))
  simp only [Outcome.raise, Outcome.done.injEq] at hsame
  obtain ⟨rfl, rfl⟩ := hsame
  exact hparse'

/-- The errors under a cap are the first ones of those under a larger one. -/
theorem parse_prefix (source : Option String) (dictionary : Dictionary) (settings : Settings)
    (h : tokens.getLast?.map (·.kind) = some .eof) (hle : n ≤ m) :
    ∃ small large,
      parse tokens source dictionary { settings with maxErrors := n } = .ok small ∧
      parse tokens source dictionary { settings with maxErrors := m } = .ok large ∧
      small.errors = large.errors.take n := by
  obtain ⟨c, found, found', s, t, hsmall, hlarge, hparse, hparse'⟩ :=
    exists_runs source dictionary settings h hle
  refine ⟨_, _, hparse, hparse', ?_⟩
  by_cases hlength : s.errors.reverse.length < n
  · -- There is room left, so both parses are the same.
    have hsame := parse_eq_of_room h hle hparse hlength
    obtain ⟨-, herrors⟩ := ParseOutput.mk.inj (Except.ok.inj (hsame.symm.trans hparse'))
    change s.errors.reverse = t.errors.reverse.take n
    rw [← herrors, List.take_of_length_le (Nat.le_of_lt hlength)]
  · -- The room is used up by as many errors as the cap admits.
    have hfull : s.errors.reverse.length = n := by
      have hsum := room_add_length_errors hsmall
      rw [List.length_reverse] at hlength ⊢
      omega
    have hsuffix : s.errors <:+ t.errors :=
      (truncates_isCompositional.items (depthFor tokens.length)).errors_isSuffix
        (congrArg Outcome.state? hsmall) (congrArg Outcome.state? hlarge)
    have hprefix := List.prefix_iff_eq_take.1 (List.reverse_prefix.2 hsuffix)
    rwa [hfull] at hprefix

/-- Up to the last item, what is read under a cap is read under a larger one. -/
theorem parse_items_dropLast {small large : ParseOutput}
    (h : tokens.getLast?.map (·.kind) = some .eof) (hle : n ≤ m)
    (hsmall : parse tokens source dictionary { settings with maxErrors := n } = .ok small)
    (hlarge : parse tokens source dictionary { settings with maxErrors := m } = .ok large) :
    small.items.dropLast <+: large.items := by
  obtain ⟨c, found, found', s, t, hfound, hfound', hparse, hparse'⟩ :=
    exists_runs source dictionary settings h hle
  obtain rfl : small = _ := Except.ok.inj (hsmall.symm.trans hparse)
  obtain rfl : large = _ := Except.ok.inj (hlarge.symm.trans hparse')
  exact items_dropLast hfound hfound'

end

/-- The parse of a list under a cap records the first errors of the parse under any
    larger cap, as many as the cap admits, and up to its last item it reads the same
    items. -/
theorem parse_cap (tokens : List Token) (source : Option String) (dictionary : Dictionary)
    (settings : Settings) {n m : Nat} (h : tokens.getLast?.map (·.kind) = some .eof)
    (hle : n ≤ m) :
    ∃ small large,
      parse tokens source dictionary { settings with maxErrors := n } = .ok small ∧
      parse tokens source dictionary { settings with maxErrors := m } = .ok large ∧
      small.errors = large.errors.take n ∧ small.items.dropLast <+: large.items := by
  obtain ⟨small, large, hsmall, hlarge, herrors⟩ := parse_prefix source dictionary settings h hle
  exact ⟨small, large, hsmall, hlarge, herrors, parse_items_dropLast h hle hsmall hlarge⟩

/-! ## What is left of a function -/

/-- The line of the statement, if it was given up. -/
def givenUp? : Statement → Option Nat
  | .error line => some line
  | _ => none

theorem eq_of_map_givenUp? {body : List Statement} {lines : List Nat}
    (h : body.map givenUp? = lines.map some) : body = lines.map .error := by
  induction lines generalizing body with
  | nil => exact List.map_eq_nil_iff.1 h
  | cons line lines ih =>
    obtain ⟨statement, rest, rfl, hline, hrest⟩ := List.map_eq_cons_iff.1 h
    rw [ih hrest]
    cases statement <;> cases hline
    rfl

/-- Whether the item is a function without parameters of which only these lines are left. -/
def isRemnant (name : String) (lines : List Nat) (line : Nat) : Item → Bool
  | .declaration ⟨.function, name', [], body, line'⟩ =>
    name' = name && body.map givenUp? = lines.map some && line' = line
  | _ => false

theorem eq_of_map_isRemnant {items : List Item} {name : String} {lines : List Nat} {line : Nat}
    (h : items.map (isRemnant name lines line) = [true]) :
    items = [.declaration ⟨.function, name, [], lines.map .error, line⟩] := by
  obtain ⟨item, rfl, hitem⟩ := List.map_eq_singleton_iff.1 h
  unfold isRemnant at hitem
  split at hitem
  · simp only [Bool.and_eq_true, decide_eq_true_eq] at hitem
    obtain ⟨⟨rfl, hbody⟩, rfl⟩ := hitem
    rw [eq_of_map_givenUp? hbody]
  · cases hitem

/-- A function with two lines that are no statements. Under a cap of one the second error
    is left out, and the function, which is the last item, ends behind the first line. -/
theorem parse_cap_of_function : ∃ tokens : List Token, ∃ small large,
    tokens.getLast?.map (·.kind) = some .eof ∧ 1 ≤ 3 ∧
    parse tokens none { keywords := [] } { maxErrors := 1 } = .ok small ∧
    parse tokens none { keywords := [] } { maxErrors := 3 } = .ok large ∧
    small.errors = large.errors.take 1 ∧ small.items.dropLast <+: large.items ∧
    large.errors.length = 2 ∧
    small.items = [.declaration ⟨.function, "f", [], [.error 2], 1⟩] ∧
    large.items = [.declaration ⟨.function, "f", [], [.error 2, .error 3], 1⟩] := by
  let tokens : List Token :=
    [⟨.functionKw, "function", ⟨1, 1⟩⟩, ⟨.text, "f", ⟨1, 10⟩⟩, ⟨.leftBrace, "\x7b", ⟨1, 12⟩⟩,
     ⟨.newline, "\n", ⟨1, 13⟩⟩, ⟨.letKw, "let", ⟨2, 3⟩⟩, ⟨.equals, "=", ⟨2, 7⟩⟩,
     ⟨.newline, "\n", ⟨2, 8⟩⟩, ⟨.stateKw, "state", ⟨3, 3⟩⟩, ⟨.equals, "=", ⟨3, 9⟩⟩,
     ⟨.newline, "\n", ⟨3, 10⟩⟩, ⟨.rightBrace, "\x7d", ⟨4, 1⟩⟩, .eof ⟨4, 2⟩]
  have hone : (parse tokens none { keywords := [] } { maxErrors := 1 }).toOption.map
      (·.items.map (isRemnant "f" [2] 1)) = some [true] := by decide +kernel
  have hthree : (parse tokens none { keywords := [] } { maxErrors := 3 }).toOption.map
      (fun output => (output.items.map (isRemnant "f" [2, 3] 1), output.errors.length)) =
        some ([true], 2) := by decide +kernel
  obtain ⟨small, large, hsmall, hlarge, herrors, hitems⟩ :=
    parse_cap tokens none { keywords := [] } {} rfl (show 1 ≤ 3 by decide)
  rw [hsmall] at hone
  rw [hlarge] at hthree
  obtain ⟨hleft, hlength⟩ := Prod.mk.inj (Option.some.inj hthree)
  exact ⟨tokens, small, large, rfl, by decide, hsmall, hlarge, herrors, hitems, hlength,
    eq_of_map_isRemnant (Option.some.inj hone), eq_of_map_isRemnant hleft⟩

end Parser

end SunLint
