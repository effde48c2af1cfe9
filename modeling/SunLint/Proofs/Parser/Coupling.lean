import SunLint.Proofs.Parser.Moved
import SunLint.Proofs.Parser.Reads
import SunLint.Proofs.Tree.Down

/-!
# Two runs side by side

Two runs of the same parser are compared that start in different states. A coupling says
which pairs of states go together (`Sim`), by how many lines the second list of tokens is
further down, and whether only clean runs are of interest. Two outcomes are coupled
(`Outcome.Coupled`) if both runs come to the same, at states that go together; where only
clean runs are of interest, it is enough that the first run is not clean.

* `Steady`: the states keep going together when tokens are passed and errors recorded. The
  tokens under both cursors are the same, unless the first cursor is at a barrier, at which
  a clean run reads no expression;
* `keepsExpressions`: then all parsers of expressions are coupled, by induction on the depth.

Both cursors need not be at the same index, and there may be other tokens behind them.
-/

namespace SunLint

/-- The kinds of tokens that no statement starts with, and at which no clean run goes on with
    one. -/
def Kind.isInert : Kind → Bool
  | .thenKw | .directive | .newline | .eof => true
  | _ => false

/-- The kinds of what ends a header, and of what no statement starts with. -/
def Kind.isBarrier : Kind → Bool
  | .leftBrace => true
  | k => k.isInert

theorem Kind.isBarrier_of_isInert {k : Kind} (h : k.isInert = true) : k.isBarrier = true := by
  cases k <;> first | rfl | cases h

/-- Line ends and semicolons open nothing. -/
theorem Kind.isBlockOpener_of_isSeparator {k : Kind} (h : (k = .newline || k = .semicolon) = true) :
    k.isBlockOpener = false := by
  cases k <;> first | rfl | cases h

/-- An expression in front of the token goes on with it. -/
def Token.Continues (t : Token) : Prop :=
  t.kind = .leftParen ∨ t.kind = .dot ∨ (Parser.operatorLevel? t).isSome = true

/-- No expression goes on with such a token. -/
theorem Token.not_continues {t : Token} (h : t.kind.isBarrier = true) : ¬ t.Continues := by
  have hne (kind : Kind) (hkind : kind.isBarrier = false) : t.kind ≠ kind := by
    rintro rfl
    rw [hkind] at h
    cases h
  rintro (h | h | h)
  · exact hne .leftParen rfl h
  · exact hne .dot rfl h
  · rw [Parser.operatorLevel?, if_neg (hne .symbol rfl)] at h
    cases h

theorem Token.keeps_down (k : Nat) : Token.Keeps (·.down k) where
  kind _ := rfl
  text _ _ := rfl
  line_iff t t' := by simp

/-- The error is about the token under the cursor. -/
structure SyntaxError.IsAt (e : SyntaxError) (c : Cursor) : Prop where
  token : e.token = c.focus
  position : e.position = c.focus.position
  severity : e.severity = .error

/-! ## Cursors -/

namespace Cursor

/-- The tokens `l` are ahead of both cursors, and then `X` of the one and `Y` of the
    other. -/
structure Abreast (l X Y : List Token) (c c' : Cursor) : Prop where
  left : c.rest = l ++ X
  right : c'.rest = l ++ Y

namespace Abreast

variable {l l' X Y : List Token} {a x y : Token} {c c' : Cursor}

theorem append_iff : Abreast (l ++ l') X Y c c' ↔ Abreast l (l' ++ X) (l' ++ Y) c c' := by
  constructor <;> rintro ⟨hleft, hright⟩ <;>
    exact ⟨by rw [hleft, List.append_assoc], by rw [hright, List.append_assoc]⟩

theorem focus_eq (h : Abreast (a :: l) X Y c c') : c.focus = a ∧ c'.focus = a :=
  ⟨(rest_eq_cons.1 h.left).1, (rest_eq_cons.1 h.right).1⟩

theorem next (h : Abreast (a :: l) (x :: X) (y :: Y) c c') :
    Abreast l (x :: X) (y :: Y) c.next c'.next ∧ c.next.behind = a :: c.behind ∧
      c'.next.behind = a :: c'.behind := by
  cases l <;> rw [next_of_rest h.left, next_of_rest h.right] <;> exact ⟨⟨rfl, rfl⟩, rfl, rfl⟩

/-- Either both cursors stop at the same token, or they leave all the tokens behind that are
    ahead of both of them. -/
theorem skip (h : Abreast l X Y c c') (p : Kind → Bool) : (∀ t ∈ l, p t.kind = true) ∨
    ∃ l₁ t l₂, l = l₁ ++ t :: l₂ ∧ (∀ t ∈ l₁, p t.kind = true) ∧
      Abreast (t :: l₂) X Y (c.skip p) (c'.skip p) ∧ (c.skip p).behind = l₁.reverse ++ c.behind ∧
      (c'.skip p).behind = l₁.reverse ++ c'.behind := by
  cases hfind : l.find? (!p ·.kind) with
  | none => exact .inl (by simpa using hfind)
  | some t =>
    obtain ⟨ht, l₁, l₂, rfl, hl₁⟩ := List.find?_eq_some_iff_append.1 hfind
    have ht : p t.kind = false := by simpa using ht
    have hl₁ : ∀ t ∈ l₁, p t.kind = true := by simpa using hl₁
    refine .inr ⟨l₁, t, l₂, rfl, hl₁, ?_⟩
    rw [skip_of_rest (h.left.trans (List.append_assoc ..)) hl₁ ht,
      skip_of_rest (h.right.trans (List.append_assoc ..)) hl₁ ht]
    exact ⟨⟨rfl, rfl⟩, rfl, rfl⟩

end Abreast

end Cursor

namespace Parser

variable {α β : Type} {env env' : Env} {s t s' t' : State}

/-! ## Barriers -/

section

variable {Q : Expr → State → Prop}

/-- No expression starts at a barrier. -/
theorem primary_of_isBarrier (n : Nat) (hs : s.IsClean)
    (hk : s.cursor.focus.kind.isBarrier = true) : (primary n env s).Cleanly Q := by
  cases n with
  | zero => exact .exhausted
  | succ n =>
    rw [primary]
    simp only [current_bind]
    generalize s.cursor.focus.kind = kind at hk
    split
    iterate 7 cases hk
    split
    · simp only [coded_bind]
      exact .report hs
    · exact .failed _

theorem unary_of_isBarrier (n : Nat) (hs : s.IsClean)
    (hk : s.cursor.focus.kind.isBarrier = true) : (unary n env s).Cleanly Q := by
  cases n with
  | zero => exact .exhausted
  | succ n =>
    have hne : s.cursor.focus.kind ≠ .symbol := by
      intro h
      rw [h] at hk
      cases hk
    rw [unary]
    simp only [current_bind, hne, decide_false, Bool.false_and, Bool.false_eq_true, if_false]
    exact (primary_of_isBarrier (Q := fun _ _ => False) n hs hk).bind fun _ _ _ h => h.elim

theorem binary_of_isBarrier (n least : Nat) (hs : s.IsClean)
    (hk : s.cursor.focus.kind.isBarrier = true) : (binary n least env s).Cleanly Q := by
  cases n with
  | zero => exact .exhausted
  | succ n =>
    rw [binary]
    exact (unary_of_isBarrier (Q := fun _ _ => False) n hs hk).bind fun _ _ _ h => h.elim

end

/-! ## Coupled outcomes -/

/-- Which states of two runs go together. -/
structure Coupling where
  /-- How many lines the second list is further down. -/
  lines : Nat
  /-- Nothing is asked if the first run is not clean. -/
  strict : Prop
  /-- Nothing is asked within other limits. -/
  Admits : Limits → Prop := fun _ => True
  Sim : State → State → Prop

/-- The runs are made with the same words, within limits that the coupling admits. -/
structure Coupling.Agrees (C : Coupling) (env env' : Env) : Prop extends env.Agrees env' where
  admits : C.Admits env.scene.limits

theorem Coupling.Agrees.within {C : Coupling} (h : C.Agrees env env') (construct : Construct) :
    C.Agrees { env with constructs := construct :: env.constructs }
      { env' with constructs := construct :: env'.constructs } :=
  ⟨h.toAgrees.within construct, h.admits⟩

/-- Both runs come to results that satisfy `V` or to the same failure, at states that go
    together, or both of them are out of depth. -/
inductive Outcome.Coupled (C : Coupling) (V : α → α → Prop) : Outcome α → Outcome α → Prop
  | done {a b : α} {s t : State} (hV : V a b) (h : C.Sim s t) :
    Coupled C V (.done a s) (.done b t)
  | failed {e e' : SyntaxError} {s t : State} (hat : e.IsAt s.cursor)
    (hdown : e.IsDown C.lines e') (h : C.Sim s t) : Coupled C V (.failed e s) (.failed e' t)
  | exhausted : Coupled C V .exhausted .exhausted
  /-- The first run is not clean, and that is all that there is to it. -/
  | spoiled {o o' : Outcome α} (hstrict : C.strict) (h : o.Cleanly fun _ _ => False) :
    Coupled C V o o'

/-- Wherever it is called at states that go together, the parser has outcomes that are
    coupled. -/
def Coupling.Keeps (C : Coupling) (V : α → α → Prop) (p : Parser α) : Prop :=
  ∀ {env env' s t}, C.Agrees env env' → C.Sim s t → Outcome.Coupled C V (p env s) (p env' t)

/-- The runs under the coupling `D` are a part of those under the coupling `C`. -/
structure Coupling.PartOf (D C : Coupling) : Prop where
  lines : D.lines = C.lines
  strict : D.strict → C.strict
  admits : ∀ {limits}, C.Admits limits → D.Admits limits
  sim : ∀ {s t}, D.Sim s t → C.strict ∨ C.Sim s t

theorem Coupling.PartOf.refl (C : Coupling) : C.PartOf C := ⟨rfl, id, id, .inr⟩

theorem Coupling.PartOf.agrees {C D : Coupling} (h : D.PartOf C) (hagrees : C.Agrees env env') :
    D.Agrees env env' := ⟨hagrees.toAgrees, h.admits hagrees.admits⟩

/-- The first run is at a barrier, while the second one may be anywhere. -/
structure Coupling.Stuck (C : Coupling) (s : State) : Prop where
  strict : C.strict
  clean : s.IsClean
  isBarrier : s.cursor.focus.kind.isBarrier = true

theorem Coupling.Stuck.kind_ne {C : Coupling} (h : C.Stuck s) (kind : Kind)
    (hk : kind.isBarrier = false) : s.cursor.focus.kind ≠ kind := by
  rintro rfl
  rw [h.isBarrier] at hk
  cases hk

/-- Tokens are passed and errors are recorded in both runs alike. -/
structure Coupling.Steady (C : Coupling) : Prop where
  ready : ∀ {s t}, C.strict → C.Sim s t → Ready s
  focus : ∀ {s t}, C.Sim s t → t.cursor.focus = s.cursor.focus.down C.lines ∨ C.Stuck s
  next : ∀ {s t}, C.Sim s t → t.cursor.focus = s.cursor.focus.down C.lines →
    s.cursor.focus.kind.isBarrier = false → (C.strict → s.cursor.focus.kind.isBlockOpener = false) →
    C.Sim (s.moveTo s.cursor.next) (t.moveTo t.cursor.next)
  skipNewlines : ∀ {s t}, C.Sim s t →
    C.Sim (s.moveTo (s.cursor.skip (· = .newline))) (t.moveTo (t.cursor.skip (· = .newline))) ∨
      C.Stuck (s.moveTo (s.cursor.skip (· = .newline)))
  record : ∀ {s t e e'}, C.Sim s t → e.IsDown C.lines e' →
    C.strict ∨ C.Sim (s.record e) (t.record e')

/-- At a barrier of the first run the second one does not go on with an expression,
    either. -/
def Coupling.Stops (C : Coupling) : Prop :=
  ∀ {s t}, C.Sim s t → C.Stuck s → ¬ t.cursor.focus.Continues

/-- An error that is recorded about the token under both cursors. -/
theorem Env.Agrees.isDown_recordLed {k : Nat} (h : env.Agrees env') {c c' : Cursor}
    (hfocus : c'.focus = c.focus.down k) (lead : Option String) (code : ErrorCode)
    (severity : Severity) (message message' : String) (expected : List Kind) :
    SyntaxError.IsDown k
      (env.scene.recordLed lead code severity message c.focus expected (env.contextAt c))
      (env'.scene.recordLed lead code severity message' c'.focus expected (env'.contextAt c')) := by
  rw [hfocus]
  exact Scene.isDown_recordLed h.dictionary (h.construct_contextAt c c')
    (h.enclosing_contextAt c c') ..

theorem Env.Agrees.isDown_unexpectedError {k : Nat} (h : env.Agrees env') {c c' : Cursor}
    (hfocus : c'.focus = c.focus.down k) (expected : List Kind) :
    SyntaxError.IsDown k (env.unexpectedError c expected) (env'.unexpectedError c' expected) :=
  h.isDown_recordLed hfocus ..

theorem Env.isAt_unexpectedError (env : Env) (c : Cursor) (expected : List Kind) :
    (env.unexpectedError c expected).IsAt c := ⟨rfl, rfl, rfl⟩

namespace Outcome.Coupled

variable {C D : Coupling} {V : α → α → Prop} {W : β → β → Prop} {f f' : α → Parser β}

theorem mono {V' : α → α → Prop} {o o' : Outcome α} (h : Coupled C V o o')
    (hV : ∀ a b, V a b → V' a b) : Coupled C V' o o' := by
  cases h with
  | done h hs => exact .done (hV _ _ h) hs
  | failed hat hdown hs => exact .failed hat hdown hs
  | exhausted => exact .exhausted
  | spoiled hstrict h => exact .spoiled hstrict h

theorem weaken {o o' : Outcome α} (h : Coupled D V o o') (hlines : D.lines = C.lines)
    (hstrict : D.strict → C.strict) (hsim : ∀ {s t}, D.Sim s t → C.Sim s t) :
    Coupled C V o o' := by
  cases h with
  | done hV h => exact .done hV (hsim h)
  | failed hat hdown h => exact .failed hat (hlines ▸ hdown) (hsim h)
  | exhausted => exact .exhausted
  | spoiled hstrict' h => exact .spoiled (hstrict hstrict') h

/-- The parsers behind another one are called where its runs under a part of the coupling
    end. -/
theorem bind_part {p q : Parser α} [∀ a, Records (f a)] (hpart : D.PartOf C)
    (hp : Coupled D V (p env s) (q env' t))
    (hf : ∀ a b s' t', p env s = .done a s' → q env' t = .done b t' → V a b → D.Sim s' t' →
      Coupled C W (f a env s') (f' b env' t')) :
    Coupled C W ((p >>= f) env s) ((q >>= f') env' t) := by
  rw [bind_apply, bind_apply]
  generalize ho : p env s = o at hp hf
  generalize ho' : q env' t = o' at hp hf
  cases hp with
  | done hV h => exact hf _ _ _ _ rfl rfl hV h
  | failed hat hdown h =>
    obtain hstrict | h := hpart.sim h
    · exact .spoiled hstrict (.failed _)
    · exact .failed hat (hpart.lines ▸ hdown) h
  | exhausted => exact .exhausted
  | spoiled hstrict h =>
    subst ho
    exact .spoiled (hpart.strict hstrict)
      (Cleanly.bind (Q := fun _ _ => False) h fun _ _ _ h => h.elim)

theorem bind_run {p q : Parser α} [∀ a, Records (f a)]
    (hp : Coupled C V (p env s) (q env' t))
    (hf : ∀ a b s' t', p env s = .done a s' → q env' t = .done b t' → V a b → C.Sim s' t' →
      Coupled C W (f a env s') (f' b env' t')) :
    Coupled C W ((p >>= f) env s) ((q >>= f') env' t) :=
  bind_part (.refl C) hp hf

theorem bind {p q : Parser α} [∀ a, Records (f a)] (hp : Coupled C V (p env s) (q env' t))
    (hf : ∀ a b s' t', V a b → C.Sim s' t' → Coupled C W (f a env s') (f' b env' t')) :
    Coupled C W ((p >>= f) env s) ((q >>= f') env' t) :=
  hp.bind_run fun a b s' t' _ _ => hf a b s' t'

/-- Loops are coupled if their rounds are. -/
theorem again {R : List α → List α → Prop}
    (happend : ∀ {a b l l'}, R a b → R l l' → R (a ++ l) (b ++ l'))
    {round round' : Parser (List α × Bool)} {rest rest' : Parser (List α)} [Records rest]
    (hround : Coupled C (fun x y => R x.1 y.1 ∧ x.2 = y.2) (round env s) (round' env' t))
    (hrest : ∀ {s' t'}, C.Sim s' t' → Coupled C R (rest env s') (rest' env' t')) :
    Coupled C R (Parser.again round rest env s) (Parser.again round' rest' env' t) := by
  have hagain (round : Parser (List α × Bool)) (rest : Parser (List α)) :
      Parser.again round rest =
        round >>= fun x => if x.2 then rest >>= fun l => pure (x.1 ++ l) else pure x.1 := rfl
  rw [hagain, hagain]
  refine hround.bind ?_
  rintro ⟨found, more⟩ ⟨found', more'⟩ s' t' ⟨hfound, rfl⟩ h
  cases more with
  | false => exact .done hfound h
  | true => exact (hrest h).bind fun l l' s'' t'' hl h' => .done (happend hfound hl) h'

/-- Behind an error no run is clean. -/
theorem spoiled_report {e : SyntaxError} {f : Unit → Parser α} [Records (f ())]
    {o : Outcome α} (hstrict : C.strict) (hs : s.IsClean) :
    Coupled C V ((Parser.report e >>= f) env s) o :=
  .spoiled hstrict (.report hs)

/-! ### Steps -/

variable (hC : C.Steady)
include hC

theorem report {e e' : SyntaxError} {f f' : Unit → Parser α} [Records (f ())] (h : C.Sim s t)
    (hdown : e.IsDown C.lines e')
    (hf : C.Sim (s.record e) (t.record e') →
      Coupled C V (f () env (s.record e)) (f' () env' (t.record e'))) :
    Coupled C V ((Parser.report e >>= f) env s) ((Parser.report e' >>= f') env' t) := by
  obtain hstrict | h' := hC.record h hdown
  · exact spoiled_report hstrict (hC.ready hstrict h).clean
  · rw [report_bind, report_bind]
    exact hf h'

theorem expect {kind : Kind} {f f' : Token → Parser α}
    (hk : kind.isBarrier = false ∧ kind.isBlockOpener = false) (h : C.Sim s t)
    (hagrees : C.Agrees env env')
    (hf : ∀ token, C.Sim (s.moveTo s.cursor.next) (t.moveTo t.cursor.next) →
      Coupled C V (f token env (s.moveTo s.cursor.next))
        (f' (token.down C.lines) env' (t.moveTo t.cursor.next))) :
    Coupled C V ((Parser.expect kind >>= f) env s) ((Parser.expect kind >>= f') env' t) := by
  rw [expect_bind]
  obtain hfocus | hstuck := hC.focus h
  · rw [expect_bind, hfocus, Token.kind_down]
    split
    · rename_i hkind
      exact hf _ (hC.next h hfocus (hkind ▸ hk.1) fun _ => hkind ▸ hk.2)
    · exact .failed (env.isAt_unexpectedError _ _) (hagrees.isDown_unexpectedError hfocus _) h
  · rw [if_neg (hstuck.kind_ne _ hk.1)]
    exact .spoiled hstuck.strict (.failed _)

theorem expectName {f f' : String → Parser α} (h : C.Sim s t) (hagrees : C.Agrees env env')
    (hf : ∀ name, C.Sim (s.moveTo s.cursor.next) (t.moveTo t.cursor.next) →
      Coupled C V (f name env (s.moveTo s.cursor.next))
        (f' name env' (t.moveTo t.cursor.next))) :
    Coupled C V ((Parser.expectName >>= f) env s) ((Parser.expectName >>= f') env' t) := by
  simp only [Parser.expectName, bind_assoc, pure_bind]
  exact expect hC ⟨rfl, rfl⟩ h hagrees fun token => hf token.text

/-- At a barrier there is none of the tokens that are looked for. -/
theorem eat {kind : Kind} {f f' : Bool → Parser α}
    (hk : kind.isBarrier = false ∧ kind.isBlockOpener = false) (h : C.Sim s t)
    (htrue : C.Sim (s.moveTo s.cursor.next) (t.moveTo t.cursor.next) →
      Coupled C V (f true env (s.moveTo s.cursor.next)) (f' true env' (t.moveTo t.cursor.next)))
    (hfalse : Coupled C V (f false env s) (f' false env' t))
    (hstuck : C.Stuck s → Coupled C V (f false env s) ((Parser.eat kind >>= f') env' t)) :
    Coupled C V ((Parser.eat kind >>= f) env s) ((Parser.eat kind >>= f') env' t) := by
  rw [eat_bind]
  obtain hfocus | hs := hC.focus h
  · rw [eat_bind, hfocus, Token.kind_down]
    split
    · rename_i hkind
      exact htrue (hC.next h hfocus (hkind ▸ hk.1) fun _ => hkind ▸ hk.2)
    · exact hfalse
  · rw [if_neg (hs.kind_ne _ hk.1)]
    exact hstuck hs

end Outcome.Coupled

/-! ## Expressions -/

namespace Coupling

variable {C : Coupling} {n : Nat}

theorem keeps_exhausted {V : α → α → Prop} : C.Keeps V (exhausted : Parser α) :=
  fun _ _ => .exhausted

theorem Keeps.within {V : α → α → Prop} {p : Parser α} (hp : C.Keeps V p)
    (construct : Construct) : C.Keeps V (within construct p) :=
  fun hagrees h => hp (hagrees.within construct) h

/-- The parsers of expressions, called to the depth `n`, are coupled. -/
structure KeepsExpressions (C : Coupling) (n : Nat) : Prop where
  binary : ∀ least, C.Keeps Eq (binary n least)
  operations : ∀ least lhs, C.Keeps Eq (operations n least lhs)
  unary : C.Keeps Eq (unary n)
  suffixes : ∀ e, C.Keeps Eq (suffixes n e)
  sequence : ∀ close, close.isBarrier = false ∧ close.isBlockOpener = false →
    C.Keeps Eq (sequence n close)
  primary : C.Keeps Eq (primary n)

theorem keeps_operations (hC : C.Steady) (hstops : C.Stops) (ih : C.KeepsExpressions n)
    (least : Nat) (lhs : Expr) : C.Keeps Eq (operations (n + 1) least lhs) := by
  intro env env' s t hagrees h
  rw [operations]
  simp only [current_bind]
  obtain hfocus | hstuck := hC.focus h
  · have hlevel : operatorLevel? t.cursor.focus = operatorLevel? s.cursor.focus := by
      rw [hfocus]
      rfl
    rw [hlevel, hfocus, Token.text_down]
    cases hoperator : operatorLevel? s.cursor.focus with
    | none => exact .done rfl h
    | some level =>
      have hk := kind_eq_of_operatorLevel? hoperator
      dsimp only
      split
      · exact .done rfl h
      · simp only [advance_bind, Parser.skipNewlines, skip_bind]
        have hnext := hC.next h hfocus (by rw [hk]; rfl) fun _ => by rw [hk]; rfl
        obtain h' | hstuck := hC.skipNewlines hnext
        · refine (ih.binary _ hagrees h').bind ?_
          rintro rhs _ s' t' rfl h''
          exact ih.operations _ _ hagrees h''
        · exact .spoiled hstuck.strict
            ((binary_of_isBarrier (Q := fun _ _ => False) n _ hstuck.clean hstuck.isBarrier).bind
              fun _ _ _ h => h.elim)
  · -- Neither of the tokens is an operator.
    have hnone : operatorLevel? s.cursor.focus = none := by
      rw [operatorLevel?, if_neg (hstuck.kind_ne _ rfl)]
    have hnone' : operatorLevel? t.cursor.focus = none := by
      by_contra hsome
      exact hstops h hstuck (.inr (.inr (Option.isSome_iff_ne_none.2 hsome)))
    rw [hnone, hnone']
    exact .done rfl h

theorem keeps_unary (hC : C.Steady) (ih : C.KeepsExpressions n) :
    C.Keeps Eq (unary (n + 1)) := by
  intro env env' s t hagrees h
  obtain hfocus | hstuck := hC.focus h
  · rw [unary]
    simp only [current_bind, hfocus, Token.kind_down, Token.text_down]
    split
    · rename_i hoperator
      rw [Bool.and_eq_true, decide_eq_true_eq] at hoperator
      simp only [advance_bind]
      have hnext := hC.next h hfocus (by rw [hoperator.1]; rfl) fun _ => by
        rw [hoperator.1]
        rfl
      refine (ih.unary hagrees hnext).bind ?_
      rintro operand _ s' t' rfl h'
      exact .done rfl h'
    · refine (ih.primary hagrees h).bind ?_
      rintro e _ s' t' rfl h'
      exact ih.suffixes e hagrees h'
  · exact .spoiled hstuck.strict (unary_of_isBarrier _ hstuck.clean hstuck.isBarrier)

theorem keeps_suffixes (hC : C.Steady) (hstops : C.Stops) (ih : C.KeepsExpressions n)
    (e : Expr) : C.Keeps Eq (suffixes (n + 1) e) := by
  intro env env' s t hagrees h
  rw [suffixes]
  simp only [currentKind_bind]
  obtain hfocus | hstuck := hC.focus h
  · rw [hfocus, Token.kind_down]
    generalize hk : s.cursor.focus.kind = kind
    have hnext (hbarrier : kind.isBarrier = false) (hopener : kind.isBlockOpener = false) :=
      hC.next h hfocus (hk ▸ hbarrier) fun _ => hk ▸ hopener
    split
    · simp only [advance_bind]
      refine (ih.sequence .rightParen ⟨rfl, rfl⟩ hagrees (hnext rfl rfl)).bind ?_
      rintro args _ s' t' rfl h'
      exact ih.suffixes _ hagrees h'
    · simp only [advance_bind]
      exact .expectName hC (hnext rfl rfl) hagrees fun field h' => ih.suffixes _ hagrees h'
    · exact .done rfl h
  · have hstop := hstops h hstuck
    have hparen := hstuck.kind_ne .leftParen rfl
    have hdot := hstuck.kind_ne .dot rfl
    generalize s.cursor.focus.kind = kind at hparen hdot
    generalize hk' : t.cursor.focus.kind = kind'
    split
    · exact absurd rfl hparen
    · exact absurd rfl hdot
    split
    · exact absurd (.inl hk') hstop
    · exact absurd (.inr (.inl hk')) hstop
    · exact .done rfl h

/-- At a barrier a round over a list fails, unless it is the closing token. -/
theorem keeps_listRound (hC : C.Steady) {p : Parser α} (hp : C.Keeps Eq p)
    (hbarrier : ∀ {env s}, s.IsClean → s.cursor.focus.kind.isBarrier = true →
      (p env s).Cleanly fun _ _ => False) {close : Kind}
    (hclose : close.isBarrier = false ∧ close.isBlockOpener = false) :
    C.Keeps Eq (listRound p close) := by
  intro env env' s t hagrees h
  simp only [listRound, Parser.skipNewlines, skip_bind]
  obtain h' | hstuck := hC.skipNewlines h
  · refine .eat hC hclose h' (fun h'' => .done rfl h'') ?_ fun hstuck => ?_
    · refine (hp hagrees h').bind ?_
      rintro a _ s₁ t₁ rfl h₁
      simp only [skip_bind]
      -- Behind the part of the list there is a comma, or the list ends.
      have hspoiled {s : State} (hstuck : C.Stuck s) {o : Outcome (List α × Bool)} :
          Outcome.Coupled C Eq
            ((Parser.expect close >>= fun _ => pure ([a], false)) env s) o := by
        rw [expect_bind, if_neg (hstuck.kind_ne _ hclose.1)]
        exact .spoiled hstuck.strict (.failed _)
      obtain h₂ | hstuck := hC.skipNewlines h₁
      · refine .eat hC ⟨rfl, rfl⟩ h₂ (fun h₃ => .done rfl h₃) ?_ fun hstuck => hspoiled hstuck
        exact .expect hC hclose h₂ hagrees fun _ h₃ => .done rfl h₃
      · rw [eat_bind, if_neg (hstuck.kind_ne _ rfl)]
        exact hspoiled hstuck
    · exact .spoiled hstuck.strict ((hbarrier hstuck.clean hstuck.isBarrier).bind
        fun _ _ _ h => h.elim)
  · rw [eat_bind, if_neg (hstuck.kind_ne _ hclose.1)]
    exact .spoiled hstuck.strict ((hbarrier hstuck.clean hstuck.isBarrier).bind
      fun _ _ _ h => h.elim)

theorem keeps_sequence (hC : C.Steady) (ih : C.KeepsExpressions n) (close : Kind)
    (hclose : close.isBarrier = false ∧ close.isBlockOpener = false) :
    C.Keeps Eq (sequence (n + 1) close) := by
  intro env env' s t hagrees h
  rw [sequence_succ]
  have hround := keeps_listRound hC (ih.binary 0) (binary_of_isBarrier n 0) hclose hagrees h
  exact .again (fun ha hl => by rw [ha, hl]) (hround.mono fun _ _ h => by rw [h]; simp)
    fun h' => ih.sequence close hclose hagrees h'

theorem keeps_primary (hC : C.Steady) (ih : C.KeepsExpressions n) :
    C.Keeps Eq (primary (n + 1)) := by
  intro env env' s t hagrees h
  obtain hfocus | hstuck := hC.focus h
  · rw [primary]
    simp only [current_bind, hfocus, Token.kind_down, Token.text_down]
    generalize hk : s.cursor.focus.kind = kind
    have hnext (hbarrier : kind.isBarrier = false) (hopener : kind.isBlockOpener = false) :=
      hC.next h hfocus (hk ▸ hbarrier) fun _ => hk ▸ hopener
    split
    iterate 5 exact .done rfl (hnext rfl rfl)
    · simp only [advance_bind, Parser.skipNewlines, skip_bind]
      obtain h' | hstuck := hC.skipNewlines (hnext rfl rfl)
      · refine (ih.binary 0 hagrees h').bind ?_
        rintro inner _ s₁ t₁ rfl h₁
        simp only [skip_bind]
        obtain h₂ | hstuck := hC.skipNewlines h₁
        · exact .expect hC ⟨rfl, rfl⟩ h₂ hagrees fun _ h₃ => .done rfl h₃
        · rw [expect_bind, if_neg (hstuck.kind_ne _ rfl)]
          exact .spoiled hstuck.strict (.failed _)
      · exact .spoiled hstuck.strict
          ((binary_of_isBarrier (Q := fun _ _ => False) n 0 hstuck.clean hstuck.isBarrier).bind
            fun _ _ _ h => h.elim)
    · simp only [advance_bind]
      refine (ih.sequence .rightBracket ⟨rfl, rfl⟩ hagrees (hnext rfl rfl)).bind ?_
      rintro items _ s' t' rfl h'
      exact .done rfl h'
    · split
      · simp only [coded_bind]
        exact .report hC h (hagrees.isDown_recordLed hfocus ..) fun h' => .done rfl h'
      · exact .failed (env.isAt_unexpectedError _ _) (hagrees.isDown_unexpectedError hfocus _) h
  · exact .spoiled hstuck.strict (primary_of_isBarrier _ hstuck.clean hstuck.isBarrier)

theorem keepsExpressions (hC : C.Steady) (hstops : C.Stops) (n : Nat) : C.KeepsExpressions n := by
  induction n with
  | zero =>
    exact ⟨fun _ => keeps_exhausted, fun _ _ => keeps_exhausted, keeps_exhausted,
      fun _ => keeps_exhausted, fun _ _ => keeps_exhausted, keeps_exhausted⟩
  | succ n ih =>
    refine ⟨fun least env env' s t hagrees h => ?_, keeps_operations hC hstops ih,
      keeps_unary hC ih, keeps_suffixes hC hstops ih, keeps_sequence hC ih, keeps_primary hC ih⟩
    refine (ih.unary hagrees h).bind ?_
    rintro lhs _ s' t' rfl h'
    exact ih.operations least lhs hagrees h'

theorem keeps_expression (hC : C.Steady) (hstops : C.Stops) (n : Nat) :
    C.Keeps Eq (expression n) :=
  Keeps.within ((keepsExpressions hC hstops n).binary 0) _

theorem keeps_expectName (hC : C.Steady) : C.Keeps Eq expectName := by
  intro env env' s t hagrees h
  rw [← bind_pure expectName]
  exact .expectName hC h hagrees fun _ h' => .done rfl h'

theorem keeps_paramList (hC : C.Steady) (n : Nat) : C.Keeps Eq (paramList n) := by
  induction n with
  | zero => exact keeps_exhausted
  | succ n ih =>
    intro env env' s t hagrees h
    rw [paramList_succ]
    have hround := keeps_listRound hC (keeps_expectName hC)
      (fun {env s} _ hk => ?_) (show Kind.rightParen.isBarrier = false ∧ _ from ⟨rfl, rfl⟩)
      hagrees h
    · exact .again (fun ha hl => by rw [ha, hl]) (hround.mono fun _ _ h => by rw [h]; simp)
        fun h' => ih hagrees h'
    · rw [← bind_pure Parser.expectName, expectName_bind, if_neg]
      · exact .failed _
      · intro htext
        rw [htext] at hk
        cases hk

end Coupling

end Parser

end SunLint
