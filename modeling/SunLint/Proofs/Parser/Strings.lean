import Mathlib.Data.List.Forall2
import SunLint.Proofs.Parser.Compositional
import SunLint.Proofs.Parser.Moved

/-!
# What does not depend on the texts of strings

The strings of a list of tokens get other texts (`Token.Respells`). They are read into what is
parsed, but no parser looks into it again. So two runs go together on both lists: they take the
same way and record errors about the same tokens, whatever their results are (`Together`). Only
a message that quotes a string says something else (`SyntaxError.Respelled`).

Results are compared by a relation. Where a parser goes on by a result, it has to be the same in
both runs; the trees that are put together from the tokens may be different ones (`Unread`).

* `expressions_together`, `statements_together`: by induction on the depth;
* `parse_respelled`: the errors in both lists.
-/

namespace SunLint

open Recovery

variable {f : Token → Token} {l : List Token}

/-! ## Tokens and errors -/

/-- Nothing is changed but the texts of strings. -/
structure Token.Respells (f : Token → Token) : Prop where
  kind : ∀ t, (f t).kind = t.kind
  position : ∀ t, (f t).position = t.position
  text : ∀ t, t.kind ≠ .string → (f t).text = t.text

namespace Token.Respells

variable (hf : Token.Respells f)
include hf

theorem keeps : Token.Keeps f where
  kind := hf.kind
  text := hf.text
  line_iff t t' := by rw [hf.position, hf.position]

theorem operatorLevel? (t : Token) :
    Parser.operatorLevel? (f t) = Parser.operatorLevel? t := by
  rw [Parser.operatorLevel?, Parser.operatorLevel?, hf.kind]
  by_cases hsymbol : t.kind = .symbol
  · rw [hf.keeps.text_eq hsymbol (by decide)]
  · rw [if_neg hsymbol, if_neg hsymbol]

theorem isUnary (t : Token) : ((f t).kind = .symbol && Operator.isUnary (f t).text) =
    (t.kind = .symbol && Operator.isUnary t.text) := by
  rw [hf.kind]
  by_cases hsymbol : t.kind = .symbol
  · rw [hf.keeps.text_eq hsymbol (by decide)]
  · rw [decide_eq_false hsymbol, Bool.false_and, Bool.false_and]

end Token.Respells

/-- The second error is about the token that the one of the first error has become, and says the
    same, but that it may quote the token. -/
structure SyntaxError.Respelled (f : Token → Token) (e e' : SyntaxError) : Prop where
  token : e'.token = f e.token
  position : e'.position = e.position
  code : e'.code = e.code
  severity : e'.severity = e.severity
  expected : e'.expected = e.expected
  suggestions : e'.suggestions = e.suggestions
  construct : e'.context.construct = e.context.construct
  message : e.token.Restates (f e.token) e.message e'.message

theorem Scene.respelled_recordLed {scene scene' : Scene} {context context' : Context} {t : Token}
    (hf : Token.Respells f) (hdictionary : scene'.dictionary = scene.dictionary)
    (hconstruct : context'.construct = context.construct) (lead : Option String)
    (code : ErrorCode) (severity : Severity) {message message' : String}
    (hmessage : t.Restates (f t) message message') (expected : List Kind) :
    SyntaxError.Respelled f (scene.recordLed lead code severity message t expected context)
      (scene'.recordLed lead code severity message' (f t) expected context') where
  token := rfl
  position := hf.position t
  code := rfl
  severity := rfl
  expected := rfl
  suggestions := by
    rw [recordLed, recordLed, hdictionary, hconstruct, hf.keeps.suggestions]
  construct := hconstruct
  message := hmessage

namespace Parser

variable {α β : Type} {env env' : Env} {s t : State} {e e' : SyntaxError}

/-! ## States -/

/-- Both runs are at the same place and have recorded the same errors. -/
structure State.Together (f : Token → Token) (s t : State) : Prop where
  cursor : t.cursor = s.cursor.map f []
  room : t.room = s.room
  errors : List.Forall₂ (SyntaxError.Respelled f) s.errors t.errors

namespace State.Together

variable (h : s.Together f t)
include h

theorem focus : t.cursor.focus = f s.cursor.focus := by rw [h.cursor, Cursor.focus_map]

theorem index : t.cursor.index = s.cursor.index := by
  rw [h.cursor, Cursor.index_map]
  rfl

theorem moveTo (c : Cursor) : (s.moveTo c).Together f (t.moveTo (c.map f [])) :=
  ⟨rfl, h.room, h.errors⟩

theorem next : (s.moveTo s.cursor.next).Together f (t.moveTo t.cursor.next) := by
  rw [h.cursor, Cursor.next_map]
  exact h.moveTo _

theorem record (he : e.Respelled f e') : (s.record e).Together f (t.record e') := by
  unfold State.record
  rw [h.room]
  split
  · exact h
  · exact ⟨h.cursor, rfl, .cons he h.errors⟩

/-- What is recorded about the tokens under both cursors. -/
theorem respelled (hf : Token.Respells f) (henv : env.Agrees env') (lead : Option String)
    (code : ErrorCode) (severity : Severity) {message message' : String}
    (hmessage : s.cursor.focus.Restates (f s.cursor.focus) message message')
    (expected : List Kind) :
    SyntaxError.Respelled f
      (env.scene.recordLed lead code severity message s.cursor.focus expected
        (env.contextAt s.cursor))
      (env'.scene.recordLed lead code severity message' t.cursor.focus expected
        (env'.contextAt t.cursor)) := by
  rw [h.focus]
  exact Scene.respelled_recordLed hf henv.dictionary (henv.construct_contextAt _ _) lead code
    severity hmessage expected

/-- The last error is at the place of the cursor in both runs, or in neither. -/
theorem lastErrorPosition (hf : Token.Respells f) :
    t.errors.head?.map (·.position) = some t.cursor.focus.position ↔
      s.errors.head?.map (·.position) = some s.cursor.focus.position := by
  have herrors := h.errors
  rw [h.focus, hf.position]
  generalize s.errors = errors, t.errors = errors' at herrors
  cases herrors with
  | nil => exact Iff.rfl
  | cons he _ =>
    rw [List.head?_cons, List.head?_cons, Option.map_some, Option.map_some, he.position]

/-- Both runs recover alike. -/
theorem recovered (hf : Token.Respells f) (henv : env.Agrees env') (he : e.Respelled f e') :
    (s.recovered env e).Together f (t.recovered env' e') := by
  have hr := Scene.recover_map (f := f) (c := s.cursor) (E := SyntaxError.Respelled f) hf.keeps
    (fun _ _ _ _ _ _ hmessage =>
      Scene.respelled_recordLed hf henv.dictionary he.construct _ _ _ hmessage _)
    he.construct henv.dictionary henv.limits isNeutral_nil
  rw [← h.cursor] at hr
  -- What the recovery reports is at the same place, so it takes the stead of the same errors.
  refine recovered_of_rel h id he hr h.room (fun hreport => ⟨hreport.code, ?_⟩)
    (fun h he => h.record he) fun n h => ?_
  · rw [hreport.position, he.position]
  · rw [h.cursor, Cursor.seek_map]
    exact h.moveTo _

end State.Together

/-! ## Parsers -/

/-- Both runs come to related results, or they fail with the same error, or both are out of
    depth. -/
inductive Outcome.Together (f : Token → Token) (V : α → α → Prop) : Outcome α → Outcome α → Prop
  | done {a b : α} {s t : State} (hab : V a b) (h : s.Together f t) :
    Together f V (.done a s) (.done b t)
  | failed {e e' : SyntaxError} {s t : State} (he : e.Respelled f e') (h : s.Together f t) :
    Together f V (.failed e s) (.failed e' t)
  | exhausted : Together f V .exhausted .exhausted

/-- The parsers take the same way through both lists, wherever they are called, and come to
    related results. -/
structure Together (f : Token → Token) (V : α → α → Prop) (p q : Parser α) : Prop where
  run {env env' : Env} {s t : State} :
    env.Agrees env' → s.Together f t → (p env s).Together f V (q env' t)

/-- Nothing is known of the results, since no parser looks at them. -/
def Unread (_ _ : α) : Prop := True

namespace Together

variable {V : α → α → Prop} {W : β → β → Prop} {p q : Parser α} {k k' : α → Parser β}

theorem pure {a b : α} (h : V a b) : Together f V (Pure.pure a) (Pure.pure b) :=
  ⟨fun _ hst => .done h hst⟩

theorem unread {a b : α} : Together f Unread (Pure.pure a) (Pure.pure b) := pure trivial

theorem bind (hp : Together f V p q) (hk : ∀ {a b}, V a b → Together f W (k a) (k' b)) :
    Together f W (p >>= k) (q >>= k') := by
  refine ⟨fun {env env' s t} henv h => ?_⟩
  rw [bind_apply, bind_apply]
  have hp := hp.run henv h
  generalize p env s = o, q env' t = o' at hp
  cases hp with
  | done hab h => exact (hk hab).run henv h
  | failed he h => exact .failed he h
  | exhausted => exact .exhausted

/-- Both runs go on by the same result. -/
theorem bind_eq (hp : Together f Eq p q) (hk : ∀ a, Together f W (k a) (k' a)) :
    Together f W (p >>= k) (q >>= k') :=
  hp.bind fun hab => hab ▸ hk _

/-- Whatever the results are, they are not looked at. -/
theorem bind_unread (hp : Together f Unread p q) (hk : ∀ a b, Together f W (k a) (k' b)) :
    Together f W (p >>= k) (q >>= k') :=
  hp.bind fun _ => hk _ _

theorem ite {c : Prop} [Decidable c] {p' q' : Parser α} (hp : Together f V p p')
    (hq : Together f V q q') : Together f V (if c then p else q) (if c then p' else q') := by
  split
  · exact hp
  · exact hq

theorem within (construct : Construct) (hp : Together f V p q) :
    Together f V (within construct p) (within construct q) :=
  ⟨fun henv h => hp.run (henv.within construct) h⟩

theorem exhausted : Together f V Parser.exhausted Parser.exhausted := ⟨fun _ _ => .exhausted⟩

theorem halted : Together f Eq halted halted := by
  refine ⟨fun {env env' s t} _ h => ?_⟩
  rw [Parser.halted, Parser.halted, h.room]
  exact .done rfl h

theorem cursor : Together f (fun c c' => c'.index = c.index) cursor cursor :=
  ⟨fun _ h => .done h.index h⟩

theorem current : Together f (fun t t' => t' = f t) current current :=
  ⟨fun _ h => .done h.focus h⟩

theorem advance : Together f Eq advance advance := ⟨fun _ h => .done rfl h.next⟩

variable (hf : Token.Respells f)
include hf

theorem currentKind : Together f Eq currentKind currentKind :=
  ⟨fun _ h => .done (by rw [h.focus, hf.kind]) h⟩

theorem currentLine : Together f Eq currentLine currentLine :=
  ⟨fun _ h => .done (by rw [h.focus, hf.position]) h⟩

theorem skip (p : Kind → Bool) : Together f Eq (skip p) (skip p) := by
  refine ⟨fun {env env' s t} _ h => ?_⟩
  have hskip := h.moveTo (s.cursor.skip p)
  rw [← Cursor.skip_map hf.keeps, ← h.cursor] at hskip
  exact .done rfl hskip

theorem eat (kind : Kind) : Together f Eq (eat kind) (eat kind) :=
  (currentKind hf).bind_eq fun _ => ite (advance.bind_eq fun _ => pure rfl) (pure rfl)

theorem unexpected (expected : List Kind) :
    Together f V (unexpected expected) (unexpected expected) := by
  refine ⟨fun henv h => .failed (h.respelled hf henv _ _ _ ?_ _) h⟩
  rw [← h.focus]
  split
  · exact .inr ⟨_, _, rfl, rfl⟩
  · exact .inr ⟨_, _, rfl, rfl⟩

theorem expect (kind : Kind) :
    Together f (fun t t' => t.kind = kind ∧ t' = f t) (expect kind) (expect kind) := by
  refine current.bind fun {t t'} ht => ?_
  rw [ht, hf.kind]
  split
  · rename_i hkind
    exact advance.bind_eq fun _ => pure ⟨hkind, rfl⟩
  · exact unexpected hf _

theorem expectName : Together f Eq expectName expectName := by
  refine (expect hf .text).bind fun {t t'} ht => pure ?_
  rw [ht.2, hf.keeps.text_eq ht.1 (by decide)]

theorem endStatement : Together f Eq endStatement endStatement :=
  (currentKind hf).bind_eq fun _ => ite (pure rfl) (unexpected hf _)

theorem ensureProgress (start : Nat) :
    Together f Eq (ensureProgress start) (ensureProgress start) := by
  refine cursor.bind fun hindex => (currentKind hf).bind_eq fun _ => ?_
  rw [hindex]
  exact ite advance (pure rfl)

/-- An error is recorded that does not quote the token. -/
theorem note (code : ErrorCode) (severity : Severity) (message : String)
    (expected : List Kind) :
    Together f Eq (coded code severity message expected >>= report)
      (coded code severity message expected >>= report) :=
  ⟨fun henv h => .done rfl (h.record (h.respelled hf henv _ _ _ (Token.restates_refl ..) _))⟩

/-- An error is recorded before something else is done. -/
theorem noting {code : ErrorCode} {severity : Severity} {message : String}
    {expected : List Kind} {k k' : Unit → Parser β} (hk : Together f W (k ()) (k' ())) :
    Together f W (coded code severity message expected >>= fun e => report e >>= k)
      (coded code severity message expected >>= fun e => report e >>= k') := by
  rw [← bind_assoc, ← bind_assoc]
  exact (note hf code severity message expected).bind_eq fun _ => hk

/-- An error is given up with that does not quote the token. -/
theorem giveUp (code : ErrorCode) (severity : Severity) (message : String)
    (expected : List Kind) :
    Together f V (coded code severity message expected >>= fail)
      (coded code severity message expected >>= fail) :=
  ⟨fun henv h => .failed (h.respelled hf henv _ _ _ (Token.restates_refl ..) _) h⟩

theorem noteMissingResult : Together f Eq noteMissingResult noteMissingResult := by
  refine ⟨fun {env env' s t} henv h => ?_⟩
  simp only [Parser.noteMissingResult, current_bind, lastErrorPosition_bind,
    h.lastErrorPosition hf]
  split
  · exact .done rfl h
  · exact (note hf ..).run henv h

theorem delimiter (kind : Kind) : Together f Eq (delimiter kind) (delimiter kind) := by
  refine ⟨fun {env env' s t} henv h => ?_⟩
  rw [← bind_pure (Parser.delimiter kind), delimiter_bind, delimiter_bind, h.focus, hf.kind]
  split
  · exact .done rfl h.next
  · have hlacking := henv.lacking?_map hf.keeps isNeutral_nil s.cursor
    rw [← h.cursor] at hlacking
    rw [Scene.missingDelimiter?, Scene.missingDelimiter?, hlacking]
    cases env.scene.lacking? s.cursor (env.contextAt s.cursor).construct with
    | none => exact (unexpected (V := (Eq : Unit → Unit → Prop)) hf [kind]).run henv h
    | some delimiter =>
      exact .done rfl (h.record (h.respelled hf henv _ _ _ (Token.restates_refl ..) _))

/-- Words are taken for the same keywords. Only a directive counts as one. -/
theorem bind_effectiveKind {k : Kind → Parser β}
    (hdirective : ∀ {env env' s t}, env.Agrees env' → s.Together f t →
      s.cursor.focus.kind = .directive → (k .directive env s).Together f W (k .directive env' t))
    (hk : ∀ kind, kind ≠ .directive → Together f W (k kind) (k kind)) :
    Together f W (effectiveKind >>= k) (effectiveKind >>= k) := by
  refine ⟨fun {env env' s t} henv h => ?_⟩
  have hmeant := henv.meant?_map hf.keeps h.focus fun _ => by
    rw [h.cursor, isJuxtaposed_map hf.keeps]
  rw [effectiveKind_bind, effectiveKind_bind, hmeant]
  cases hm : env.meant? s.cursor with
  | none =>
    rw [Option.map_none, h.focus, hf.kind]
    by_cases hkind : s.cursor.focus.kind = .directive
    · rw [hkind]
      exact hdirective henv h hkind
    · exact (hk _ hkind).run henv h
  | some meant =>
    obtain ⟨htext, hstarts⟩ := Env.meant?_eq_some hm
    -- The name of a directive is a token of its own kind, so no word is taken for one.
    have hne : meant.kind ≠ .directive := by
      intro hkind
      rw [hkind] at hstarts
      cases hstarts
    refine (hk _ hne).run henv (h.record (h.respelled hf henv _ _ _ (.inl fun _ => ?_) _))
    rw [h.focus, hf.keeps.text_eq htext (by decide)]

theorem effectiveKind : Together f Eq effectiveKind effectiveKind := by
  rw [← bind_pure Parser.effectiveKind]
  exact bind_effectiveKind hf (fun _ h _ => .done rfl h) fun _ _ => pure rfl

theorem orRecover (hp : Together f V p q) {a b : α} (hab : V a b) :
    Together f V (orRecover p a) (orRecover q b) := by
  refine ⟨fun {env env' s t} henv h => ?_⟩
  rw [← bind_pure (Parser.orRecover p a), ← bind_pure (Parser.orRecover q b), orRecover_bind,
    orRecover_bind]
  have hp := hp.run henv h
  generalize p env s = o, q env' t = o' at hp
  cases hp with
  | done hab h => exact .done hab h
  | failed he h => exact .done hab (h.recovered hf henv he)
  | exhausted => exact .exhausted

end Together

/-! ## Expressions -/

/-- The parsers of expressions, called to the depth `n`, go together whatever has been read. -/
structure ExpressionsTogether (f : Token → Token) (n : Nat) : Prop where
  binary : ∀ least, Together f Unread (binary n least) (binary n least)
  operations : ∀ least lhs lhs',
    Together f Unread (operations n least lhs) (operations n least lhs')
  unary : Together f Unread (unary n) (unary n)
  suffixes : ∀ e e', Together f Unread (suffixes n e) (suffixes n e')
  sequence : ∀ close, Together f Unread (sequence n close) (sequence n close)
  primary : Together f Unread (primary n) (primary n)

section

variable {n : Nat} (hf : Token.Respells f)
include hf

theorem operations_together (ih : ExpressionsTogether f n) (least : Nat) (lhs lhs' : Expr) :
    Together f Unread (operations (n + 1) least lhs) (operations (n + 1) least lhs') := by
  refine .bind .current fun {t t'} ht => ?_
  rw [ht, hf.operatorLevel?]
  cases operatorLevel? t with
  | none => exact .unread
  | some level =>
    refine .ite .unread (.bind_eq .advance fun _ => .bind_eq (.skip hf _) fun _ => ?_)
    exact .bind_unread (ih.binary (level + 1)) fun _ _ => ih.operations least _ _

theorem unary_together (ih : ExpressionsTogether f n) :
    Together f Unread (unary (n + 1)) (unary (n + 1)) := by
  refine .bind .current fun {t t'} ht => ?_
  rw [ht, hf.isUnary]
  refine .ite (.bind_eq .advance fun _ => .bind_unread ih.unary fun _ _ => .unread) ?_
  exact .bind_unread ih.primary ih.suffixes

theorem suffixes_together (ih : ExpressionsTogether f n) (e e' : Expr) :
    Together f Unread (suffixes (n + 1) e) (suffixes (n + 1) e') := by
  refine .bind_eq (.currentKind hf) fun kind => ?_
  split
  · exact .bind_eq .advance fun _ => .bind_unread (ih.sequence _) fun _ _ => ih.suffixes _ _
  · exact .bind_eq .advance fun _ => .bind_eq (.expectName hf) fun _ => ih.suffixes _ _
  · exact .unread

theorem sequence_together (ih : ExpressionsTogether f n) (close : Kind) :
    Together f Unread (sequence (n + 1) close) (sequence (n + 1) close) := by
  refine .bind_eq (.skip hf _) fun _ => .bind_eq (.eat hf close) fun _ => .ite .unread ?_
  refine .bind_unread (ih.binary 0) fun _ _ => .bind_eq (.skip hf _) fun _ =>
    .bind_eq (.eat hf .comma) fun _ => .ite ?_ ?_
  · exact .bind_unread (ih.sequence close) fun _ _ => .unread
  · exact .bind (.expect hf close) fun _ => .unread

theorem primary_together (ih : ExpressionsTogether f n) :
    Together f Unread (primary (n + 1)) (primary (n + 1)) := by
  refine .bind .current fun {t t'} ht => ?_
  rw [ht, hf.kind]
  generalize t.kind = kind
  split
  -- A name, a string, a number and the two truth values are passed over.
  iterate 5 exact .bind_eq .advance fun _ => .unread
  · exact .bind_eq .advance fun _ => .bind_eq (.skip hf _) fun _ =>
      .bind_unread (ih.binary 0) fun _ _ => .bind_eq (.skip hf _) fun _ =>
        .bind (.expect hf _) fun _ => .unread
  · exact .bind_eq .advance fun _ => .bind_unread (ih.sequence _) fun _ _ => .unread
  · exact .ite (.noting hf .unread) (.unexpected hf [])

theorem expressions_together (n : Nat) : ExpressionsTogether f n := by
  induction n with
  | zero => constructor <;> intros <;> exact .exhausted
  | succ n ih =>
    refine ⟨fun least => ?_, operations_together hf ih, unary_together hf ih,
      suffixes_together hf ih, sequence_together hf ih, primary_together hf ih⟩
    exact .bind_unread ih.unary (ih.operations least)

theorem expression_together (n : Nat) : Together f Unread (expression n) (expression n) :=
  .within _ ((expressions_together hf n).binary 0)

/-- A value is read last in most clauses. -/
theorem value_together (n : Nat) (st : Expr → Statement) :
    Together f Unread (do return st (← expression n)) (do return st (← expression n)) :=
  .bind_unread (expression_together hf n) fun _ _ => .unread

/-! ## Lists -/

theorem paramList_together (n : Nat) : Together f Eq (paramList n) (paramList n) := by
  induction n with
  | zero => exact .exhausted
  | succ n ih =>
    refine .bind_eq (.skip hf _) fun _ => .bind_eq (.eat hf _) fun _ => .ite (.pure rfl) ?_
    refine .bind_eq (.expectName hf) fun name => .bind_eq (.skip hf _) fun _ =>
      .bind_eq (.eat hf .comma) fun _ => .ite ?_ ?_
    · exact .bind_eq ih fun _ => .pure rfl
    · exact .bind (.expect hf _) fun _ => .pure rfl

theorem params_together (n : Nat) : Together f Eq (params n) (params n) :=
  .bind_eq (.eat hf _) fun _ => .ite (paramList_together hf n) (.pure rfl)

theorem directiveArgs_together (n : Nat) :
    Together f Unread (directiveArgs n) (directiveArgs n) := by
  induction n with
  | zero => exact .exhausted
  | succ n ih =>
    refine .bind_eq (.currentKind hf) fun _ => .ite .unread ?_
    refine .bind .cursor fun hstart => .bind_unread (expression_together hf n) fun _ _ =>
      .bind .cursor fun hindex => ?_
    -- Both runs have read something, or neither has.
    rw [hstart, hindex]
    refine .ite (.unexpected hf []) ?_
    exact .bind_eq (.eat hf _) fun _ => .bind_unread ih fun _ _ => .unread

end

/-! ## Statements -/

/-- The parsers of statements, called to the depth `n`, go together. -/
structure StatementsTogether (f : Token → Token) (n : Nat) : Prop where
  statementAs : ∀ kind, Together f Unread (statementAs n kind) (statementAs n kind)
  clause : ∀ kind, Together f Unread (clause n kind) (clause n kind)
  conditional : Together f Unread (conditional n) (conditional n)
  branch : Together f Unread (branch n) (branch n)
  callable : ∀ form, Together f Unread (callable n form) (callable n form)
  blockBody : ∀ opened, Together f Unread (blockBody n opened) (blockBody n opened)
  statement : Together f Unread (statement n) (statement n)

section

variable {n : Nat} (hf : Token.Respells f)
include hf

theorem statementAs_together (ih : StatementsTogether f n) (kind : Kind) :
    Together f Unread (statementAs (n + 1) kind) (statementAs (n + 1) kind) := by
  unfold Parser.statementAs
  split
  iterate 2 exact .bind_unread (ih.callable _) fun _ _ => .unread
  · exact .bind_unread (ih.clause _) fun _ _ => .bind_eq (.endStatement hf) fun _ => .unread

/-- What is not allowed here is quoted. -/
theorem misplaced_together {V : Statement → Statement → Prop} :
    Together f V
      (do
        fail (← coded .unexpectedToken .error
          ("'" ++ (← current).display ++ "' is only allowed at the top level")))
      (do
        fail (← coded .unexpectedToken .error
          ("'" ++ (← current).display ++ "' is only allowed at the top level"))) := by
  refine ⟨fun henv h => .failed (h.respelled hf henv _ _ _ (.inr ⟨"'", _, rfl, ?_⟩) _) h⟩
  rw [← h.focus]

theorem clause_together (ih : StatementsTogether f n) (kind : Kind) :
    Together f Unread (clause (n + 1) kind) (clause (n + 1) kind) := by
  refine .bind_eq (.currentLine hf) fun line => ?_
  split
  iterate 2
    exact .bind_eq .advance fun _ => .bind_eq (.expectName hf) fun _ =>
      .bind (.expect hf _) fun _ => value_together hf n _
  · exact ih.conditional
  · exact .bind_eq .advance fun _ => .bind_eq (.currentKind hf) fun _ =>
      .ite .unread (value_together hf n _)
  · exact .bind_eq .advance fun _ => value_together hf n _
  · exact .bind_eq .advance fun _ => .bind_unread (.within _ (ih.blockBody line)) fun _ _ => .unread
  iterate 3 exact misplaced_together hf
  · exact value_together hf n _

theorem conditional_together (ih : StatementsTogether f n) :
    Together f Unread (conditional (n + 1)) (conditional (n + 1)) := by
  refine .bind_eq (.currentLine hf) fun line => .bind_eq .advance fun _ =>
    .bind_unread (.within _ (.bind_eq (.currentKind hf) fun _ => ?_)) fun condition condition' => ?_
  · have hdelimiter (condition condition' : Expr) :
        Together f Unread (do delimiter .thenKw; return condition)
          (do delimiter .thenKw; return condition') :=
      .bind_eq (.delimiter hf _) fun _ => .unread
    exact .ite (.noting hf (.bind_unread .unread hdelimiter))
      (.bind_unread (expression_together hf n) hdelimiter)
  · refine .bind_unread ih.branch fun _ _ => .bind_eq (.eat hf _) fun _ => .ite ?_ .unread
    exact .bind_unread ih.branch fun _ _ => .unread

theorem branch_together (ih : StatementsTogether f n) :
    Together f Unread (branch (n + 1)) (branch (n + 1)) := by
  rw [branch_succ]
  refine .bind_eq (.currentKind hf) fun _ => .ite ?_ (.bind_eq (.effectiveKind hf) ih.clause)
  exact .bind_eq (.noteMissingResult hf) fun _ => .bind_eq (.currentLine hf) fun _ => .unread

theorem callable_together (ih : StatementsTogether f n) (form : Callable.Form) :
    Together f Unread (callable (n + 1) form) (callable (n + 1) form) := by
  refine .bind_eq (.currentLine hf) fun line => .bind_eq .advance fun _ =>
    .within _ (.bind_eq (.currentKind hf) fun _ => .ite (.giveUp hf ..) ?_)
  refine .bind_eq (.expectName hf) fun _ => .bind_eq (params_together hf n) fun _ =>
    .bind_eq (.delimiter hf _) fun _ => ?_
  exact .bind_unread (.within _ (ih.blockBody line)) fun _ _ => .unread

theorem blockBody_together (ih : StatementsTogether f n) (opened : Nat) :
    Together f Unread (blockBody (n + 1) opened) (blockBody (n + 1) opened) := by
  refine .bind_eq (.skip hf _) fun _ => .bind_eq .halted fun _ => .ite .unread ?_
  refine .bind .current fun {t t'} ht => ?_
  rw [ht, hf.kind, hf.position]
  generalize t.kind = kind
  split
  · exact .bind_eq .advance fun _ => .unread
  · exact .noting hf .unread
  · refine .bind .cursor fun hstart =>
      .bind_unread (.orRecover hf ih.statement trivial) fun _ _ => ?_
    rw [hstart]
    exact .bind_eq (.ensureProgress hf _) fun _ =>
      .bind_unread (ih.blockBody opened) fun _ _ => .unread

theorem statements_together (n : Nat) : StatementsTogether f n := by
  induction n with
  | zero => constructor <;> intros <;> exact .exhausted
  | succ n ih =>
    exact ⟨statementAs_together hf ih, clause_together hf ih, conditional_together hf ih,
      branch_together hf ih, callable_together hf ih, blockBody_together hf ih,
      .bind_eq (.effectiveKind hf) ih.statementAs⟩

/-! ## Programs -/

/-- The name of a directive is looked up, and that of no other token. -/
theorem directive_together (n : Nat) (henv : env.Agrees env') (h : s.Together f t)
    (hkind : s.cursor.focus.kind = .directive) :
    (directive n env s).Together f Unread (directive n env' t) := by
  have hrest : Together f Unread (current >>= directiveRest n) (current >>= directiveRest n) := by
    refine .bind .current fun {t t'} ht => ?_
    rw [ht]
    simp only [directiveRest, hf.position]
    exact .bind_eq .advance fun _ => .bind_unread (.within _ (directiveArgs_together hf n))
      fun _ _ => .bind_eq (.endStatement hf) fun _ => .unread
  have htext := hf.keeps.text_eq hkind (by decide)
  have hknown : env'.scene.dictionary.isDirective t.cursor.focus.text =
      env.scene.dictionary.isDirective s.cursor.focus.text := by
    rw [henv.dictionary, h.focus, htext]
  rw [directive_eq]
  simp only [noteUnknownDirective, bind_assoc, current_bind, scene_bind, hknown]
  split
  · exact hrest.run henv h
  · have hreport := henv.unknownDirective_map h.focus htext
      fun lead code severity _ _ expected hmessage =>
        h.focus ▸ h.respelled hf henv lead code severity hmessage expected
    exact hrest.run henv (h.record hreport)

theorem importItem_together : Together f Unread importItem importItem := by
  refine .bind_eq (.currentLine hf) fun line => .bind_eq .advance fun _ =>
    .bind .current fun {t t'} ht => ?_
  rw [ht, hf.kind]
  generalize t.kind = kind
  split
  iterate 2 exact .bind_eq .advance fun _ => .bind_eq (.endStatement hf) fun _ => .unread
  · exact .unexpected hf _

theorem exportItem_together (n : Nat) : Together f Unread (exportItem n) (exportItem n) := by
  refine .bind_eq (.currentLine hf) fun line => .bind_eq .advance fun _ =>
    .bind_eq (.effectiveKind hf) fun kind => ?_
  split
  iterate 2 exact .bind_unread ((statements_together hf n).callable _) fun _ _ => .unread
  · exact .unexpected hf _

theorem item_together (n : Nat) : Together f Unread (item n) (item n) := by
  refine .bind_effectiveKind hf (directive_together hf n) fun kind hne => ?_
  split
  · exact absurd rfl hne
  iterate 2 exact .bind_unread ((statements_together hf n).callable _) fun _ _ => .unread
  · exact importItem_together hf
  · exact exportItem_together hf n
  · exact .giveUp hf ..
  · exact .bind_unread ((statements_together hf n).statementAs _) fun _ _ => .unread

theorem items_together (n : Nat) : Together f Unread (items n) (items n) := by
  induction n with
  | zero => exact .exhausted
  | succ n ih =>
    refine .bind_eq (.skip hf _) fun _ => .bind_eq .halted fun _ =>
      .bind_eq (.currentKind hf) fun _ => .ite .unread ?_
    refine .bind .cursor fun hstart => ?_
    have hitem : Together f Unread (some <$> item n) (some <$> item n) := by
      rw [map_eq_pure_bind]
      exact .bind_unread (item_together hf n) fun _ _ => .unread
    rw [hstart]
    exact .bind_unread (.orRecover hf hitem trivial) fun _ _ =>
      .bind_eq (.ensureProgress hf _) fun _ => .bind_unread ih fun _ _ => .unread

end

/-! ## The whole -/

/-- From the list with the other strings the same errors are recorded, but that they may quote
    strings. -/
theorem parse_respelled (hf : Token.Respells f) (hlast : l.getLast?.map (·.kind) = some .eof)
    (source source' : Option String) (dictionary : Dictionary) (settings : Settings) :
    ∃ output output', parse l source dictionary settings = .ok output ∧
      parse (l.map f) source' dictionary settings = .ok output' ∧
      List.Forall₂ (SyntaxError.Respelled f) output.errors output'.errors := by
  obtain ⟨c, found, found', s, t, -, hdone, hdone', hparse, hparse'⟩ :=
    exists_runs_map hf.kind hlast source source' dictionary settings
  have hagrees : (Env.start source dictionary settings).Agrees
      (.start source' dictionary settings) := ⟨rfl, rfl, rfl⟩
  have hstart : (State.start c settings).Together f (.start (c.map f []) settings) :=
    ⟨rfl, rfl, .nil⟩
  -- The items of the two runs may differ, but not the errors.
  have hitems := (items_together hf (depthFor l.length)).run hagrees hstart
  rw [hdone, hdone'] at hitems
  cases hitems with
  | done _ h => exact ⟨_, _, hparse, hparse', List.forall₂_reverse_iff.2 h.errors⟩

end Parser

end SunLint
