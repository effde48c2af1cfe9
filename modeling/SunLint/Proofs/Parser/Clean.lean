import SunLint.Proofs.Parser.Records
import SunLint.Proofs.Parser.Rounds

/-!
# Clean runs

A run of a parser is clean if no error has been recorded at its end. Since errors are
never taken back, none has been recorded on the way either, so that much of what a
parser can do does not happen: it does not fail, for every failure is recorded sooner or
later, it does not go on without a delimiter, and no word is taken for a keyword.

`Outcome.Cleanly` asks something of an outcome in case the run was clean. The lemmas
below follow a clean run step by step; where a parser would record an error they have
nothing to ask for.
-/

namespace SunLint.Parser

variable {α β : Type} {env : Env} {s s' : State}

/-! ## All parsers only add errors -/

namespace Records

instance (a : α) : Records (pure a) := records_isCompositional.pure a

instance (p : Parser α) (f : α → Parser β) [hp : Records p] [hf : ∀ a, Records (f a)] :
    Records (p >>= f) := records_isCompositional.bind hp hf

instance (p q : Parser α) (c : Prop) [Decidable c] [hp : Records p] [hq : Records q] :
    Records (if c then p else q) := IsReading.ite hp hq

instance (p : Parser α) (construct : Construct) [hp : Records p] :
    Records (within construct p) := records_isCompositional.within construct hp

instance : Records cursor := records_ofPrimitives.cursor
instance : Records advance := records_isCompositional.advance
instance (q : Kind → Bool) : Records (skip q) := records_isCompositional.skip q
instance : Records endStatement := records_isCompositional.endStatement
instance (code : ErrorCode) (severity : Severity) (message : String) (expected : List Kind) :
    Records (coded code severity message expected) :=
  records_ofPrimitives.coded code severity message expected

instance (e : SyntaxError) : Records (fail e : Parser α) := records_ofPrimitives.fail e
instance (kind : Kind) : Records (eat kind) := records_isCompositional.eat kind
instance (kind : Kind) : Records (expect kind) := records_ofPrimitives.expect kind
instance (kind : Kind) : Records (delimiter kind) := records_isCompositional.delimiter kind
instance (kinds : List Kind) : Records (unexpected kinds : Parser α) :=
  records_isCompositional.unexpected kinds
instance (start : Nat) : Records (ensureProgress start) :=
  records_isCompositional.ensureProgress start

variable (n : Nat)

instance (least : Nat) (lhs : Expr) : Records (operations n least lhs) :=
  (records_isCompositional.expressions n).operations least lhs

instance (close : Kind) : Records (sequence n close) :=
  (records_isCompositional.expressions n).sequence close

instance (e : Expr) : Records (suffixes n e) := (records_isCompositional.expressions n).suffixes e

instance : Records (expression n) := records_isCompositional.expression n
instance : Records (params n) := records_isCompositional.params n
instance : Records (paramList n) := records_isCompositional.paramList n

instance (kind : Kind) : Records (clause n kind) :=
  (records_isCompositional.statements n).clause kind

instance : Records (branch n) := (records_isCompositional.statements n).branch

instance (form : Callable.Form) : Records (callable n form) :=
  (records_isCompositional.statements n).callable form

instance (opened : Nat) : Records (blockBody n opened) :=
  (records_isCompositional.statements n).blockBody opened

instance (kind : Kind) : Records (statementAs n kind) :=
  (records_isCompositional.statements n).statementAs kind

instance : Records (directive n) := records_isCompositional.directive n
instance : Records importItem := records_isCompositional.importItem
instance : Records (exportItem n) := records_isCompositional.exportItem n
instance : Records (directiveArgs n) := records_isCompositional.directiveArgs n
instance : Records (items n) := records_isCompositional.items n

end Records

/-! ## Clean states -/

/-- No error has been recorded, and there is room for one. -/
structure State.IsClean (s : State) : Prop where
  errors : s.errors = []
  room : 0 < s.room

/-- What was clean at the end was clean before. -/
theorem State.Grows.isClean (h : s.Grows s') (hs' : s'.IsClean) : s.IsClean where
  errors := List.suffix_nil.1 (hs'.errors ▸ h.isSuffix)
  room := Nat.lt_of_lt_of_le hs'.room h.room_le

theorem State.IsClean.moveTo (h : s.IsClean) (c : Cursor) : (s.moveTo c).IsClean :=
  ⟨h.errors, h.room⟩

theorem State.not_isClean_record (hs : 0 < s.room) (e : SyntaxError) :
    ¬ (s.record e).IsClean := by
  intro h
  have herrors := h.errors
  unfold State.record at herrors
  split at herrors
  · rename_i hroom
    exact absurd hroom (Nat.ne_of_gt hs)
  · cases herrors

/-- A recovery records an error, unless there was no room for it before. -/
theorem State.not_isClean_recovered (env : Env) (s : State) (e : SyntaxError) :
    ¬ (s.recovered env e).IsClean := by
  intro h
  unfold State.recovered at h
  split at h
  · rename_i hroom
    exact absurd hroom (Nat.ne_of_gt h.room)
  · rename_i hroom
    have hroom : 0 < s.room := Nat.pos_of_ne_zero hroom
    generalize env.scene.recover s.cursor e.context = r at h
    -- Either the recovery has an error of its own, or the one it was called with stays.
    cases herror : r.error with
    | none =>
      have hspecific : isMoreSpecific r e = false := by rw [isMoreSpecific, herror]; rfl
      simp only [hspecific, herror, Bool.false_eq_true, if_false, Option.elim_none] at h
      exact not_isClean_record hroom e ⟨h.errors, h.room⟩
    | some e' =>
      simp only [herror, Option.elim_some] at h
      split at h
      · exact not_isClean_record hroom e' ⟨h.errors, h.room⟩
      · have hclean : ((s.record e).record e').IsClean := ⟨h.errors, h.room⟩
        exact not_isClean_record hroom e (((s.record e).grows_record e').isClean hclean)

/-! ## Outcomes of clean runs -/

/-- If the run is clean then its result and its last state satisfy `Q`. -/
def Outcome.Cleanly (o : Outcome α) (Q : α → State → Prop) : Prop :=
  ∀ a s, o = .done a s → s.IsClean → Q a s

namespace Outcome.Cleanly

variable {Q : α → State → Prop} {R : β → State → Prop}

theorem done {a : α} (h : s.IsClean → Q a s) : (Outcome.done a s).Cleanly Q := by
  rintro _ _ ⟨⟩ hclean
  exact h hclean

theorem failed (e : SyntaxError) : (Outcome.failed e s).Cleanly Q := nofun

theorem exhausted : (Outcome.exhausted : Outcome α).Cleanly Q := nofun

theorem mono {o : Outcome α} {Q' : α → State → Prop} (h : o.Cleanly Q)
    (hQ : ∀ a s, s.IsClean → Q a s → Q' a s) : o.Cleanly Q' :=
  fun a s ho hclean => hQ a s hclean (h a s ho hclean)

theorem and {o : Outcome α} {Q' : α → State → Prop} (h : o.Cleanly Q) (h' : o.Cleanly Q') :
    o.Cleanly fun a s => Q a s ∧ Q' a s :=
  fun a s ho hclean => ⟨h a s ho hclean, h' a s ho hclean⟩

/-- A clean run of two parsers is a clean run of the first one, and one of the second
    one from there. -/
theorem bind {p : Parser α} {f : α → Parser β} [∀ a, Records (f a)] (hp : (p env s).Cleanly Q)
    (hf : ∀ a s', s'.IsClean → Q a s' → (f a env s').Cleanly R) :
    ((p >>= f) env s).Cleanly R := by
  intro b s'' h hclean
  rw [bind_apply] at h
  cases hr : p env s with
  | done a s' =>
    rw [hr] at h
    have hgrows : s'.Grows s'' := Records.grows (congrArg Outcome.state? h)
    have hclean' := hgrows.isClean hclean
    exact hf a s' hclean' (hp a s' hr hclean') b s'' h hclean
  | failed e s' =>
    rw [hr] at h
    cases h
  | exhausted =>
    rw [hr] at h
    cases h

/-! ### Steps -/

/-- No run is clean that goes on behind an error. -/
theorem recorded {p : Parser α} [hp : Records p] (hs : s.IsClean) (e : SyntaxError) :
    (p env (s.record e)).Cleanly Q := by
  intro a s' h hclean
  have hgrows : (s.record e).Grows s' := hp.grows (congrArg Outcome.state? h)
  exact absurd (hgrows.isClean hclean) (State.not_isClean_record hs.room e)

theorem report {e : SyntaxError} {f : Unit → Parser α} [Records (f ())] (hs : s.IsClean) :
    ((Parser.report e >>= f) env s).Cleanly Q := by
  rw [report_bind]
  exact recorded hs e

theorem expect {kind : Kind} {f : Token → Parser α}
    (h : s.cursor.focus.kind = kind →
      (f s.cursor.focus env (s.moveTo s.cursor.next)).Cleanly Q) :
    ((Parser.expect kind >>= f) env s).Cleanly Q := by
  rw [expect_bind]
  split
  · rename_i hk
    exact h hk
  · exact failed _

theorem expectName {f : String → Parser α}
    (h : s.cursor.focus.kind = .text →
      (f s.cursor.focus.text env (s.moveTo s.cursor.next)).Cleanly Q) :
    ((Parser.expectName >>= f) env s).Cleanly Q := by
  rw [expectName_bind]
  split
  · rename_i hk
    exact h hk
  · exact failed _

theorem endStatement {f : Unit → Parser α}
    (h : s.cursor.focus.kind.endsStatement = true → (f () env s).Cleanly Q) :
    ((Parser.endStatement >>= f) env s).Cleanly Q := by
  rw [endStatement_bind]
  split
  · rename_i hk
    exact h hk
  · exact failed _

/-- In a clean run the delimiter is there. -/
theorem delimiter {kind : Kind} {f : Unit → Parser α} [Records (f ())] (hs : s.IsClean)
    (h : s.cursor.focus.kind = kind → (f () env (s.moveTo s.cursor.next)).Cleanly Q) :
    ((Parser.delimiter kind >>= f) env s).Cleanly Q := by
  rw [delimiter_bind]
  split
  · rename_i hk
    exact h hk
  · split
    · exact recorded hs _
    · exact failed _

/-- In a clean run no word is taken for a keyword. -/
theorem effectiveKind {f : Kind → Parser α} (hf : ∀ kind, Records (f kind)) (hs : s.IsClean)
    (h : env.meant? s.cursor = none → (f s.cursor.focus.kind env s).Cleanly Q) :
    ((Parser.effectiveKind >>= f) env s).Cleanly Q := by
  rw [effectiveKind_bind]
  cases hm : env.meant? s.cursor with
  | none => exact h hm
  | some meant =>
    have := hf meant.kind
    exact recorded hs _

/-- In a clean run nothing is recovered from. -/
theorem orRecover {p : Parser α} {fallback : α} (hp : (p env s).Cleanly Q) :
    (orRecover p fallback env s).Cleanly Q := by
  rw [← bind_pure (Parser.orRecover p fallback), orRecover_bind]
  cases hr : p env s with
  | done a s' =>
    rw [hr] at hp
    exact hp
  | failed e s' => exact done fun hclean => absurd hclean (s'.not_isClean_recovered env e)
  | exhausted => exact exhausted

/-- A parser that moves on by itself needs no other guard. -/
theorem guarded {p : Parser α} {fallback : α}
    (hp : (p env s).Cleanly fun a s' => s.cursor < s'.cursor ∧ Q a s') :
    (guarded p fallback env s).Cleanly fun a s' => s.cursor < s'.cursor ∧ Q a s' := by
  simp only [Parser.guarded, cursor_bind]
  refine (orRecover hp).bind fun a s' _ h => ?_
  rw [ensureProgress_bind, if_neg]
  · exact done fun _ => h
  · exact fun hi => Nat.ne_of_gt (Cursor.lt_def.1 h.1).2 hi.1

/-- A loop is followed round by round. -/
theorem again {round : Parser (List α × Bool)} {rest : Parser (List α)} [hr : Records rest]
    {Q : List α × Bool → State → Prop} {R : List α → State → Prop}
    (hround : (round env s).Cleanly Q) (hlast : ∀ l s', Q (l, false) s' → R l s')
    (hmore : ∀ found s', Q (found, true) s' →
      (rest env s').Cleanly fun l s'' => R (found ++ l) s'') :
    (again round rest env s).Cleanly R := by
  intro l s' h hclean
  obtain hl | ⟨found, s₁, l', hfound, hrest, rfl⟩ := done_of_again h
  · exact hlast l s' (hround _ _ hl hclean)
  · have hgrows : s₁.Grows s' := hr.grows (congrArg Outcome.state? hrest)
    exact hmore found s₁ (hround _ _ hfound (hgrows.isClean hclean)) l' s' hrest hclean

end Outcome.Cleanly

end SunLint.Parser
