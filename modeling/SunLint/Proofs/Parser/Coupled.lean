import SunLint.Proofs.Parser.Coupling

/-!
# Programs side by side

What is asked of a coupling in addition, so that statements and items are coupled as well
(`Complete`): both runs have room for another error or neither has, they recover alike, and
if the tokens under the cursors differ then the one run is at the end of the input and the
other one at the end of a line.

Between the keyword that opens a block or a condition and the delimiter that it asks for,
both runs may go side by side in another way (`Header`): then the delimiter may be missing
in the second list, or there may be something to keep in mind until it has been passed.

* `keepsStatements`: the parsers of statements, by induction on the depth;
* `keeps_item`, `keeps_items`: items and programs.
-/

namespace SunLint

/-- The end of a line or of the input. -/
def Kind.endsLine : Kind → Bool
  | .newline | .eof => true
  | _ => false

theorem Kind.endsLine_iff {k : Kind} : k.endsLine = true ↔ k = .newline ∨ k = .eof := by
  cases k <;> decide

theorem Kind.isInert_of_endsLine {k : Kind} (h : k.endsLine = true) : k.isInert = true := by
  cases k <;> first | rfl | cases h

theorem Kind.endsStatement_of_endsLine {k : Kind} (h : k.endsLine = true) :
    k.endsStatement = true := by
  cases k <;> first | rfl | cases h

/-- The keyword of the form, as a kind. -/
def Callable.Form.kind : Callable.Form → Kind
  | .function => .functionKw
  | .component => .componentKw

namespace Parser

variable {α β : Type} {env env' : Env} {s t s' t' : State} {C : Coupling} {n : Nat}

/-- The token under the cursor is of the kind, or is a word that may be taken for it. -/
def Counts (kind : Kind) (c : Cursor) : Prop :=
  c.focus.kind = kind ∨ c.focus.kind = .text ∧ kind.startsDeclaration = true

theorem Counts.ne_eof {kind : Kind} {c : Cursor} (h : Counts kind c) (hk : kind ≠ .eof) :
    c.focus.kind ≠ .eof := by
  obtain h | ⟨h, _⟩ := h
  · rwa [h]
  · rw [h]
    exact nofun

theorem Counts.isBlockOpener_eq {kind : Kind} {c : Cursor} (h : Counts kind c)
    (hk : kind.isBlockOpener = false) : c.focus.kind.isBlockOpener = false := by
  obtain h | ⟨h, _⟩ := h
  · rwa [h]
  · rw [h]
    rfl

namespace Coupling

/-- The same token is under both cursors. -/
def Aligned (C : Coupling) (s t : State) : Prop :=
  t.cursor.focus = s.cursor.focus.down C.lines

theorem Aligned.line (h : C.Aligned s t) :
    t.cursor.focus.position.line = s.cursor.focus.position.line + C.lines := by
  rw [show t.cursor.focus = s.cursor.focus.down C.lines from h]
  rfl

/-- The coupling, except that the first run may be at a second `then`, at which no clean run
    goes on. -/
def orThen (C : Coupling) : Coupling where
  lines := C.lines
  strict := C.strict
  Admits := C.Admits
  Sim s t := C.Sim s t ∨ C.strict ∧ s.IsClean ∧ s.cursor.focus.kind = .thenKw

/-- From the keyword of the construct up to the delimiter of the given kind both runs are
    coupled by `H`, and behind it by `C`. -/
structure Header (C H : Coupling) (construct : Construct) (kind : Kind) : Prop where
  steady : H.Steady
  part : H.PartOf C
  delimiter : ∀ {env env' s t}, C.Agrees env env' → env.constructs.head? = some construct →
    H.Sim s t → Outcome.Coupled C Eq (delimiter kind env s) (delimiter kind env' t)

/-- Statements are read in both runs alike. -/
structure Complete (C : Coupling) : Prop extends C.Steady where
  /-- A token is passed that opens nothing, or any token if the runs need not be clean. -/
  pass : ∀ {s t}, C.Sim s t → C.Aligned s t → s.cursor.focus.kind ≠ .eof →
    (C.strict → s.cursor.focus.kind.isBlockOpener = false) →
    C.Sim (s.moveTo s.cursor.next) (t.moveTo t.cursor.next)
  /-- The tokens under the cursors are the same, except where one of the lists ends. -/
  edge : ∀ {s t}, C.Sim s t → C.Aligned s t ∨
    C.strict ∧ s.cursor.focus.kind.endsLine = true ∧ t.cursor.focus.kind.endsLine = true
  skipSeparators : ∀ {s t}, C.Sim s t →
    C.Sim (s.moveTo (s.cursor.skip fun k => k = .newline || k = .semicolon))
      (t.moveTo (t.cursor.skip fun k => k = .newline || k = .semicolon)) ∨
    C.strict ∧ (s.cursor.skip fun k => k = .newline || k = .semicolon).focus.kind.isInert = true
  room : ∀ {s t}, C.Sim s t → (t.room = 0 ↔ s.room = 0)
  isJuxtaposed : ∀ {s t}, C.Sim s t → C.Aligned s t → s.cursor.focus.kind = .text →
    isJuxtaposed t.cursor = isJuxtaposed s.cursor
  lastErrorPosition : ∀ {s t}, C.Sim s t → C.strict ∨
    (t.errors.head?.map (·.position) = some t.cursor.focus.position ↔
      s.errors.head?.map (·.position) = some s.cursor.focus.position)
  /-- If the one run has moved on then so has the other one. -/
  index : ∀ {s t s' t'}, C.Sim s t → C.Sim s' t' → s.cursor ≤ s'.cursor → t.cursor ≤ t'.cursor →
    (t'.cursor.index = t.cursor.index ↔ s'.cursor.index = s.cursor.index)
  /-- A run that recovers is not clean, so it matters only where runs need not be. -/
  recovered : ∀ {env env' s t e e'}, C.Agrees env env' → C.Sim s t → e.IsAt s.cursor →
    e.IsDown C.lines e' → C.strict ∨ C.Sim (s.recovered env e) (t.recovered env' e')
  /-- At a declaration both runs come into its header, which has parameters in both of them or
      in neither. -/
  callable : ∀ {s t} (form : Callable.Form), C.Sim s t → C.Aligned s t →
    Counts form.kind s.cursor → ∃ H : Coupling, C.Header H form.construct .leftBrace ∧
      H.Sim (s.moveTo s.cursor.next) (t.moveTo t.cursor.next) ∧
      (s.cursor.next.focus.kind = .text → H.Stuck (s.moveTo s.cursor.next.next) →
        t.cursor.next.next.focus.kind ≠ .leftParen)
  /-- At a condition both runs come to what is asked. Behind the `then` the first run may be
      at another one, at which it is not clean for long. -/
  conditional : ∀ {s t}, C.Sim s t → C.Aligned s t → Counts .whenKw s.cursor →
    ∃ H : Coupling, C.orThen.Header H .when .thenKw ∧ H.Stops ∧
      H.Sim (s.moveTo s.cursor.next) (t.moveTo t.cursor.next)

theorem Complete.stops (hC : C.Complete) : C.Stops := by
  intro s t h hstuck
  obtain haligned | ⟨_, _, hends⟩ := hC.edge h
  · rw [haligned]
    exact Token.not_continues hstuck.isBarrier
  · exact Token.not_continues (Kind.isBarrier_of_isInert (Kind.isInert_of_endsLine hends))

/-- A statement may end in both runs, or in neither. -/
theorem Complete.endsStatement_eq (hC : C.Complete) (h : C.Sim s t) :
    t.cursor.focus.kind.endsStatement = s.cursor.focus.kind.endsStatement := by
  obtain haligned | ⟨_, hends, hends'⟩ := hC.edge h
  · rw [haligned, Token.kind_down]
  · rw [Kind.endsStatement_of_endsLine hends, Kind.endsStatement_of_endsLine hends']

theorem Complete.kind_eq_iff (hC : C.Complete) (h : C.Sim s t) (kind : Kind) (hne : kind ≠ .eof)
    (hnewline : kind ≠ .newline) : t.cursor.focus.kind = kind ↔ s.cursor.focus.kind = kind := by
  obtain haligned | ⟨_, hends, hends'⟩ := hC.edge h
  · rw [haligned, Token.kind_down]
  · have hne' {k : Kind} (hk : k.endsLine = true) : k ≠ kind := by
      rintro rfl
      exact (Kind.endsLine_iff.1 hk).elim hnewline hne
    exact iff_of_false (hne' hends') (hne' hends)

theorem Complete.decide_kind_eq (hC : C.Complete) (h : C.Sim s t) (kind : Kind)
    (hne : kind ≠ .eof) (hnewline : kind ≠ .newline) :
    decide (t.cursor.focus.kind = kind) = decide (s.cursor.focus.kind = kind) :=
  decide_eq_decide.2 (hC.kind_eq_iff h kind hne hnewline)

theorem Complete.expression (hC : C.Complete) (n : Nat) : C.Keeps Eq (expression n) :=
  keeps_expression hC.toSteady hC.stops n

end Coupling

/-! ## Steps -/

namespace Outcome.Coupled

variable {V : α → α → Prop} (hC : C.Complete)
include hC

/-- A word is taken for the same keyword in both runs. At the end of a line none is. -/
theorem effectiveKind {f f' : Kind → Parser α} (hf : ∀ kind, Records (f kind))
    (hagrees : C.Agrees env env') (h : C.Sim s t)
    (hkind : ∀ {kind s' t'}, C.Sim s' t' → C.Aligned s' t' → Counts kind s'.cursor →
      Coupled C V (f kind env s') (f' kind env' t'))
    (hend : s.IsClean → s.cursor.focus.kind.endsLine = true →
      (f s.cursor.focus.kind env s).Cleanly fun _ _ => False) :
    Coupled C V ((Parser.effectiveKind >>= f) env s) ((Parser.effectiveKind >>= f') env' t) := by
  rw [effectiveKind_bind]
  obtain haligned | ⟨hstrict, hends, _⟩ := hC.edge h
  · have hmeant := hagrees.meant?_map (Token.keeps_down C.lines) haligned
      (hC.isJuxtaposed h haligned)
    rw [effectiveKind_bind, hmeant]
    cases hm : env.meant? s.cursor with
    | none =>
      rw [Option.map_none, haligned, Token.kind_down]
      exact hkind h haligned (.inl rfl)
    | some meant =>
      obtain ⟨htext, hstarts⟩ := Env.meant?_eq_some hm
      rw [Option.map_some]
      dsimp only
      have hdown := hagrees.isDown_recordLed haligned (some (Suggestion.didYouMean meant.text))
        .possibleMisspelling .warning
        ("Unknown word '" ++ s.cursor.focus.text ++ "'. " ++ Suggestion.didYouMean meant.text)
        ("Unknown word '" ++ t.cursor.focus.text ++ "'. " ++ Suggestion.didYouMean meant.text) []
      obtain hstrict | h' := hC.record h hdown
      · have := hf meant.kind
        exact .spoiled hstrict (Cleanly.recorded (hC.ready hstrict h).clean _)
      · refine hkind h' ?_ (.inr ⟨?_, hstarts⟩)
        · rw [Coupling.Aligned, State.cursor_record, State.cursor_record]
          exact haligned
        · rw [State.cursor_record]
          exact htext
  · have hnone : env.meant? s.cursor = none := by
      obtain hk | hk := Kind.endsLine_iff.1 hends <;> simp [Env.meant?, hk]
    rw [hnone]
    exact .spoiled hstrict (hend (hC.ready hstrict h).clean hends)

theorem endStatement {f f' : Unit → Parser α} (hagrees : C.Agrees env env') (h : C.Sim s t)
    (hf : Coupled C V (f () env s) (f' () env' t)) :
    Coupled C V ((Parser.endStatement >>= f) env s) ((Parser.endStatement >>= f') env' t) := by
  rw [endStatement_bind, endStatement_bind]
  obtain haligned | ⟨hstrict, hends, hends'⟩ := hC.edge h
  · rw [haligned, Token.kind_down]
    split
    · exact hf
    · exact .failed (env.isAt_unexpectedError _ _) (hagrees.isDown_unexpectedError haligned _) h
  · rw [if_pos (Kind.endsStatement_of_endsLine hends),
      if_pos (Kind.endsStatement_of_endsLine hends')]
    exact hf

theorem eatNext {kind : Kind} {f f' : Bool → Parser α}
    (hk : kind.isBarrier = false ∧ kind.isBlockOpener = false) (hne : kind ≠ .newline)
    (h : C.Sim s t)
    (htrue : C.Sim (s.moveTo s.cursor.next) (t.moveTo t.cursor.next) →
      Coupled C V (f true env (s.moveTo s.cursor.next)) (f' true env' (t.moveTo t.cursor.next)))
    (hfalse : Coupled C V (f false env s) (f' false env' t)) :
    Coupled C V ((Parser.eat kind >>= f) env s) ((Parser.eat kind >>= f') env' t) := by
  refine eat hC.toSteady hk h htrue hfalse fun hstuck => ?_
  rw [eat_bind, if_neg]
  · exact hfalse
  · rw [hC.kind_eq_iff h kind (fun heof => ?_) hne]
    · exact hstuck.kind_ne _ hk.1
    · rw [heof] at hk
      exact nomatch hk.1

/-- Both runs recover to results that go together. -/
theorem orRecover {p : Parser α} {fallback fallback' : α} (hV : V fallback fallback')
    (hagrees : C.Agrees env env') (hp : Coupled C V (p env s) (p env' t)) :
    Coupled C V (orRecover p fallback env s) (Parser.orRecover p fallback' env' t) := by
  rw [← bind_pure (Parser.orRecover p fallback), ← bind_pure (Parser.orRecover p fallback'),
    orRecover_bind, orRecover_bind]
  generalize ho : p env s = o at hp
  generalize p env' t = o' at hp
  cases hp with
  | done hab h => exact .done hab h
  | failed hat hdown h =>
    obtain hstrict | h' := hC.recovered hagrees h hat hdown
    · exact .spoiled hstrict (.done fun hclean => State.not_isClean_recovered _ _ _ hclean)
    · exact .done hV h'
  | exhausted => exact .exhausted
  | spoiled hstrict h =>
    refine .spoiled hstrict ?_
    cases o with
    | done a s' => exact h
    | failed e s' => exact .done fun hclean => State.not_isClean_recovered _ _ _ hclean
    | exhausted => exact .exhausted

/-- Both runs have moved on, or neither of them has. -/
theorem guarded {p : Parser α} {reading : α → Reading} {needed : Cursor → Prop}
    {fallback fallback' : α} (hreads : Reads p reading) (hp : Proceeds p needed)
    (hV : V fallback fallback') (hagrees : C.Agrees env env') (h : C.Sim s t)
    (hcoupled : Coupled C V (p env s) (p env' t)) :
    Coupled C V (guarded p fallback env s) (Parser.guarded p fallback' env' t) := by
  simp only [Parser.guarded, cursor_bind]
  refine (orRecover hC hV hagrees hcoupled).bind_run fun a b s' t' hrun hrun' hab h' => ?_
  have hle := (hp.orRecover fallback) env s
  have hle' := (hp.orRecover fallback') env' t
  rw [hrun] at hle
  rw [hrun'] at hle'
  have hindex := hC.index h h' hle.1 hle'.1
  simp only [ensureProgress_bind, hindex]
  by_cases hstrict : C.strict
  · -- The first run is clean, so it has moved on.
    have hread := Cleanly.orRecover (hreads env s (hC.ready hstrict h)) a s' hrun
      (hC.ready hstrict h').clean
    have hlt := (Cursor.lt_def.1 hread.lt).2
    rw [if_neg (by omega), if_neg (by omega)]
    exact .done hab h'
  · have haligned := (hC.edge h').resolve_right fun hedge => hstrict hedge.1
    rw [haligned, Token.kind_down]
    split
    · rename_i hstill
      exact .done hab (hC.pass h' haligned hstill.2 fun hstrict' => absurd hstrict' hstrict)
    · exact .done hab h'

end Outcome.Coupled

/-! ## Headers -/

namespace Coupling

/-- In a clean run the delimiter is there. -/
theorem delimiter_of_kind_ne {Q : Unit → State → Prop} {kind : Kind} (hs : s.IsClean)
    (hk : s.cursor.focus.kind ≠ kind) : (delimiter kind env s).Cleanly Q := by
  rw [← bind_pure (delimiter kind)]
  exact .delimiter hs fun h => absurd h hk

/-- Both runs pass the delimiter, or both of them lack it. -/
theorem Steady.keeps_delimiter (hC : C.Steady) {kind : Kind} (hagrees : C.Agrees env env')
    (h : C.Sim s t)
    (hpass : C.Aligned s t → s.cursor.focus.kind = kind →
      C.Sim (s.moveTo s.cursor.next) (t.moveTo t.cursor.next))
    (haligned : C.Aligned s t ∨ C.strict ∧ s.cursor.focus.kind ≠ kind)
    (hlacking : C.strict ∨ ∀ construct,
      env'.scene.lacking? t.cursor construct = env.scene.lacking? s.cursor construct) :
    Outcome.Coupled C Eq (delimiter kind env s) (delimiter kind env' t) := by
  obtain haligned | ⟨hstrict, hne⟩ := haligned
  · rw [← bind_pure (delimiter kind), delimiter_bind, delimiter_bind, haligned, Token.kind_down]
    split
    · rename_i hkind
      exact .done rfl (hpass haligned hkind)
    · rename_i hne
      obtain hstrict | hlacking := hlacking
      · -- A clean run does not lack it.
        refine .spoiled hstrict ?_
        have hspoiled : (Parser.delimiter kind env s).Cleanly fun _ _ => False :=
          delimiter_of_kind_ne (hC.ready hstrict h).clean hne
        rwa [← bind_pure (delimiter kind), delimiter_bind, if_neg hne] at hspoiled
      · rw [Scene.missingDelimiter?, Scene.missingDelimiter?,
          hagrees.construct_contextAt s.cursor t.cursor, hlacking]
        cases env.scene.lacking? s.cursor (env.contextAt s.cursor).construct with
        | none =>
          exact .failed (env.isAt_unexpectedError _ _) (hagrees.isDown_unexpectedError haligned _) h
        | some d =>
          have hdown := hagrees.isDown_recordLed haligned none d.code .error d.message d.message
            [d.kind]
          obtain hstrict | h' := hC.record h hdown
          · exact .spoiled hstrict (.done fun hclean => absurd hclean
              (State.not_isClean_record (hC.ready hstrict h).clean.room _))
          · exact .done rfl h'
  · exact .spoiled hstrict (delimiter_of_kind_ne (hC.ready hstrict h).clean hne)

/-- Where nothing is special about a header, both runs go on as they do elsewhere. -/
theorem Steady.header (hC : C.Steady) (construct : Construct) {kind : Kind}
    (hpass : ∀ {s t}, C.Sim s t → C.Aligned s t → s.cursor.focus.kind = kind →
      C.Sim (s.moveTo s.cursor.next) (t.moveTo t.cursor.next))
    (haligned : ∀ {s t}, C.Sim s t → C.Aligned s t ∨ C.strict ∧ s.cursor.focus.kind ≠ kind)
    (hlacking : ∀ {env env' : Env} {s t : State}, C.Agrees env env' → C.Sim s t →
      C.strict ∨ ∀ construct,
        env'.scene.lacking? t.cursor construct = env.scene.lacking? s.cursor construct) :
    C.Header C construct kind where
  steady := hC
  part := .refl C
  delimiter hagrees _ h :=
    hC.keeps_delimiter hagrees h (hpass h) (haligned h) (hlacking hagrees h)

theorem Header.orThen {H : Coupling} {construct : Construct} {kind : Kind}
    (h : C.Header H construct kind) : C.orThen.Header H construct kind where
  steady := h.steady
  part := ⟨h.part.lines, h.part.strict, h.part.admits, fun h' => (h.part.sim h').imp_right .inl⟩
  delimiter hagrees hconstruct h' :=
    (h.delimiter ⟨hagrees.toAgrees, hagrees.admits⟩ hconstruct h').weaken rfl id .inl

end Coupling

/-! ## Statements -/

namespace Coupling

/-- The second result is the first one so many lines further down. -/
def Lower (C : Coupling) (a b : Statement) : Prop := a.down C.lines = b

/-- The second list is the first one so many lines further down. -/
def LowerList (C : Coupling) (l l' : List Statement) : Prop := l.map (·.down C.lines) = l'

/-- The parsers of statements, called to the depth `n`, are coupled. -/
structure KeepsStatements (C : Coupling) (n : Nat) : Prop where
  statementAs : ∀ {kind env env' s t}, C.Agrees env env' → C.Sim s t → C.Aligned s t →
    Counts kind s.cursor →
    Outcome.Coupled C C.Lower (statementAs n kind env s) (statementAs n kind env' t)
  clause : ∀ {kind env env' s t}, C.Agrees env env' → C.Sim s t → C.Aligned s t →
    Counts kind s.cursor →
    Outcome.Coupled C C.Lower (clause n kind env s) (clause n kind env' t)
  conditional : ∀ {env env' s t}, C.Agrees env env' → C.Sim s t → C.Aligned s t →
    Counts .whenKw s.cursor →
    Outcome.Coupled C C.Lower (conditional n env s) (conditional n env' t)
  branch : C.Keeps C.Lower (branch n)
  callable : ∀ {env env' s t} (form : Callable.Form), C.Agrees env env' → C.Sim s t →
    C.Aligned s t → Counts form.kind s.cursor →
    Outcome.Coupled C (fun c c' => c.down C.lines = c') (callable n form env s)
      (callable n form env' t)
  blockBody : ∀ {env env' s t} (opened opened' : Nat), C.Agrees env env' → C.Sim s t →
    Outcome.Coupled C C.LowerList (blockBody n opened env s) (blockBody n opened' env' t)
  statement : C.Keeps C.Lower (statement n)

variable (hC : C.Complete)
include hC

theorem keeps_statementAs (ih : C.KeepsStatements n) {kind : Kind} (hagrees : C.Agrees env env')
    (h : C.Sim s t) (haligned : C.Aligned s t) (hkind : Counts kind s.cursor) :
    Outcome.Coupled C C.Lower (statementAs (n + 1) kind env s)
      (statementAs (n + 1) kind env' t) := by
  unfold statementAs
  split
  · refine (ih.callable .function hagrees h haligned hkind).bind ?_
    rintro c _ s' t' rfl h'
    exact .done rfl h'
  · refine (ih.callable .component hagrees h haligned hkind).bind ?_
    rintro c _ s' t' rfl h'
    exact .done rfl h'
  · refine (ih.clause hagrees h haligned hkind).bind fun a b s' t' hab h' => ?_
    exact .endStatement hC hagrees h' (.done hab h')

/-- A name with a value, behind the keyword. -/
theorem keeps_binding (n : Nat) {f f' : String → Expr → Statement}
    (hf : ∀ name value, C.Lower (f name value) (f' name value)) (hagrees : C.Agrees env env')
    (h : C.Sim s t) :
    Outcome.Coupled C C.Lower
      ((do
        let name ← expectName
        let _ ← expect .equals
        let value ← expression n
        return f name value : Parser Statement) env s)
      ((do
        let name ← expectName
        let _ ← expect .equals
        let value ← expression n
        return f' name value : Parser Statement) env' t) := by
  refine .expectName hC.toSteady h hagrees fun name h₁ => ?_
  refine .expect hC.toSteady ⟨rfl, rfl⟩ h₁ hagrees fun _ h₂ => ?_
  refine (hC.expression n hagrees h₂).bind ?_
  rintro value _ s₃ t₃ rfl h₃
  exact .done (hf name value) h₃

theorem keeps_clause (ih : C.KeepsStatements n) {kind : Kind} (hagrees : C.Agrees env env')
    (h : C.Sim s t) (haligned : C.Aligned s t) (hkind : Counts kind s.cursor) :
    Outcome.Coupled C C.Lower (clause (n + 1) kind env s) (clause (n + 1) kind env' t) := by
  have hnext (hne : kind ≠ .eof) (hopener : kind.isBlockOpener = false) :=
    hC.pass h haligned (hkind.ne_eof hne) fun _ => hkind.isBlockOpener_eq hopener
  have hline := haligned.line
  have hvalue {f f' : Expr → Statement} {s t : State} (h : C.Sim s t)
      (hf : ∀ value, C.Lower (f value) (f' value)) :
      Outcome.Coupled C C.Lower ((expression n >>= fun value => pure (f value)) env s)
        ((expression n >>= fun value => pure (f' value)) env' t) := by
    refine (hC.expression n hagrees h).bind ?_
    rintro value _ s₁ t₁ rfl h₁
    exact .done (hf value) h₁
  have hmisplaced {message message' : String} :
      Outcome.Coupled C C.Lower
        ((coded .unexpectedToken .error message >>= fail : Parser Statement) env s)
        ((coded .unexpectedToken .error message' >>= fail : Parser Statement) env' t) := by
    simp only [coded_bind]
    exact .failed ⟨rfl, rfl, rfl⟩ (hagrees.isDown_recordLed haligned ..) h
  unfold clause
  simp only [currentLine_bind, hline]
  split
  · exact keeps_binding hC n (fun _ _ => rfl) hagrees (hnext nofun rfl)
  · exact keeps_binding hC n (fun _ _ => rfl) hagrees (hnext nofun rfl)
  · exact ih.conditional hagrees h haligned hkind
  · have h₁ := hnext nofun rfl
    simp only [advance_bind, currentKind_bind, hC.endsStatement_eq h₁,
      hC.decide_kind_eq h₁ .elseKw nofun nofun]
    split
    · exact .done rfl h₁
    · exact hvalue h₁ fun _ => rfl
  · exact hvalue (hnext nofun rfl) fun _ => rfl
  · refine (Outcome.Coupled.bind (p := within .block _) (q := within .block _)
      (ih.blockBody _ _ (hagrees.within .block) (hnext nofun rfl)) ?_)
    intro body body' s₁ t₁ hbody h₁
    refine .done ?_ h₁
    rw [Lower, Statement.down, Statement.downOfList_eq]
    rw [LowerList] at hbody
    rw [hbody]
  iterate 3 exact hmisplaced
  · exact hvalue h fun _ => rfl

omit hC in
/-- A clause starts neither with a second `then` nor at the end of a line. -/
theorem clause_of_isInert {Q : Statement → State → Prop} (hs : s.IsClean)
    (hk : s.cursor.focus.kind.isInert = true) :
    (clause n s.cursor.focus.kind env s).Cleanly Q := by
  cases n with
  | zero => exact .exhausted
  | succ n =>
    have hexpression : (expression n env s).Cleanly fun _ _ => False :=
      binary_of_isBarrier n 0 hs (Kind.isBarrier_of_isInert hk)
    generalize s.cursor.focus.kind = kind at hk
    cases kind with
    | thenKw | newline | eof =>
      rw [clause]
      exact hexpression.bind fun _ _ _ h => h.elim
    | directive =>
      rw [clause]
      exact .failed _
    | _ => cases hk

omit hC in
theorem statementAs_of_isInert {Q : Statement → State → Prop} (hs : s.IsClean)
    (hk : s.cursor.focus.kind.isInert = true) :
    (statementAs n s.cursor.focus.kind env s).Cleanly Q := by
  cases n with
  | zero => exact .exhausted
  | succ n =>
    have hclause : (clause n s.cursor.focus.kind env s).Cleanly fun _ _ => False :=
      clause_of_isInert hs hk
    generalize s.cursor.focus.kind = kind at hk hclause
    unfold statementAs
    split
    · cases hk
    · cases hk
    · exact hclause.bind fun _ _ _ h => h.elim

omit hC in
theorem statement_of_isInert {Q : Statement → State → Prop} (hs : s.IsClean)
    (hk : s.cursor.focus.kind.isInert = true) : (statement n env s).Cleanly Q := by
  cases n with
  | zero => exact .exhausted
  | succ n =>
    rw [statement]
    exact .effectiveKind (fun _ => inferInstance) hs fun _ => statementAs_of_isInert hs hk

omit hC in
theorem branch_of_then {Q : Statement → State → Prop} (hs : s.IsClean)
    (hk : s.cursor.focus.kind = .thenKw) : (branch n env s).Cleanly Q := by
  cases n with
  | zero => exact .exhausted
  | succ n =>
    rw [branch]
    simp only [current_bind, hk]
    exact .effectiveKind (fun _ => inferInstance) hs fun _ =>
      clause_of_isInert hs (by rw [hk]; rfl)

omit hC in
/-- The condition and the keyword behind it. -/
theorem keeps_condition {H : Coupling} (hH : C.orThen.Header H .when .thenKw) (hstops : H.Stops)
    (n : Nat) (hagrees : C.orThen.Agrees env env')
    (hconstruct : env.constructs.head? = some .when)
    (h : H.Sim s t) :
    let condition : Parser Expr := do
      let next ← currentKind
      let condition ←
        if next = .thenKw || next.endsStatement then do
          report (← coded .invalidWhen .error "Missing condition after 'when'")
          pure Expr.missing
        else expression n
      delimiter .thenKw
      return condition
    Outcome.Coupled C.orThen Eq (condition env s) (condition env' t) := by
  have hdelimiter {s t : State} (condition : Expr) (h : H.Sim s t) :
      Outcome.Coupled C.orThen Eq
        ((delimiter .thenKw >>= fun _ => pure condition) env s)
        ((delimiter .thenKw >>= fun _ => pure condition) env' t) :=
    (hH.delimiter hagrees hconstruct h).bind fun _ _ _ _ _ h' =>
      .done rfl h'
  simp only [currentKind_bind]
  obtain hfocus | hstuck := hH.steady.focus h
  · rw [hfocus, Token.kind_down]
    split
    · simp only [coded_bind]
      have hdown := hagrees.isDown_recordLed hfocus none .invalidWhen .error
        "Missing condition after 'when'" "Missing condition after 'when'" []
      obtain hstrict | h' := hH.steady.record h hdown
      · exact .spoiled (hH.part.strict hstrict) (.report (hH.steady.ready hstrict h).clean)
      · exact hdelimiter .missing h'
    · refine .bind_part hH.part (keeps_expression hH.steady hstops n (hH.part.agrees hagrees) h) ?_
      rintro condition _ s' t' _ _ rfl h'
      exact hdelimiter condition h'
  · refine .spoiled (hH.part.strict hstuck.strict) ?_
    split
    · simp only [coded_bind]
      exact .report hstuck.clean
    · exact Outcome.Cleanly.bind (p := expression n) (Q := fun _ _ => False)
        (binary_of_isBarrier n 0 hstuck.clean hstuck.isBarrier) fun _ _ _ h => h.elim

theorem keeps_conditional (ih : C.KeepsStatements n) (hagrees : C.Agrees env env')
    (h : C.Sim s t) (haligned : C.Aligned s t) (hkind : Counts .whenKw s.cursor) :
    Outcome.Coupled C C.Lower (conditional (n + 1) env s) (conditional (n + 1) env' t) := by
  have hline := haligned.line
  obtain ⟨H, hH, hstops, h₁⟩ := hC.conditional h haligned hkind
  have hpart : C.orThen.PartOf C := ⟨rfl, id, id, fun h => h.symm.imp_left And.left⟩
  rw [conditional]
  simp only [currentLine_bind, advance_bind, hline]
  refine .bind_part (p := within .when _) (q := within .when _) hpart
    (keeps_condition hH hstops n ((hpart.agrees hagrees).within .when) rfl h₁) ?_
  rintro condition _ s₂ t₂ - - rfl (h₂ | ⟨hstrict, hclean, hthen⟩)
  · refine (ih.branch hagrees h₂).bind ?_
    rintro result _ s₃ t₃ rfl h₃
    refine .eatNext hC ⟨rfl, rfl⟩ (by decide) h₃ (fun h₄ => ?_) ?_
    · refine (ih.branch hagrees h₄).bind ?_
      rintro otherwise _ s₅ t₅ rfl h₅
      exact .done rfl h₅
    · exact .done rfl h₃
  · -- No result starts with a `then`, so the first run is not clean.
    exact .spoiled hstrict ((branch_of_then (Q := fun _ _ => False) hclean hthen).bind
      fun _ _ _ h => h.elim)

theorem keeps_branch (ih : C.KeepsStatements n) : C.Keeps C.Lower (branch (n + 1)) := by
  intro env env' s t hagrees h
  rw [branch]
  simp only [current_bind, hC.endsStatement_eq h]
  split
  · simp only [lastErrorPosition_bind]
    by_cases hstrict : C.strict
    · -- The lack of a result is reported, since no other error has been.
      have hclean := (hC.ready hstrict h).clean
      simp only [hclean.errors, List.head?_nil, Option.map_none, reduceCtorEq, if_false,
        coded_bind]
      exact .spoiled hstrict (.report hclean)
    · have haligned := (hC.edge h).resolve_right fun hedge => hstrict hedge.1
      have hline := haligned.line
      simp only [(hC.lastErrorPosition h).resolve_left hstrict, hline]
      split
      · exact .done rfl h
      · simp only [coded_bind]
        exact .report hC.toSteady h (hagrees.isDown_recordLed haligned ..) fun h' => .done rfl h'
  · rename_i hends
    refine .effectiveKind hC (fun _ => inferInstance) hagrees h
      (fun h' haligned hkind => ih.clause hagrees h' haligned hkind) fun _ hend => ?_
    exact absurd (Kind.endsStatement_of_endsLine hend) hends

omit hC in
/-- Without a list of parameters, no parenthesis may open in the second run, either. -/
theorem keeps_params (hC : C.Steady) (n : Nat) (hagrees : C.Agrees env env') (h : C.Sim s t)
    (hparen : C.Stuck s → t.cursor.focus.kind ≠ .leftParen) :
    Outcome.Coupled C Eq (params n env s) (params n env' t) := by
  refine .eat hC ⟨rfl, rfl⟩ h (fun h' => keeps_paramList hC n hagrees h') (.done rfl h)
    fun hstuck => ?_
  rw [eat_bind, if_neg (hparen hstuck)]
  exact .done rfl h

theorem keeps_callable (ih : C.KeepsStatements n) (form : Callable.Form)
    (hagrees : C.Agrees env env') (h : C.Sim s t) (haligned : C.Aligned s t)
    (hkind : Counts form.kind s.cursor) :
    Outcome.Coupled C (fun c c' => c.down C.lines = c') (callable (n + 1) form env s)
      (callable (n + 1) form env' t) := by
  have hline := haligned.line
  obtain ⟨H, hH, h₁, hparen⟩ := hC.callable form h haligned hkind
  rw [callable]
  simp only [currentLine_bind, advance_bind, hline]
  change Outcome.Coupled C _ (within _ _ env _) (within _ _ env' _)
  rw [within_apply, within_apply]
  have hagrees := hagrees.within form.construct
  simp only [currentKind_bind]
  by_cases htext : (s.moveTo s.cursor.next).cursor.focus.kind = .text
  · have htext' : (t.moveTo t.cursor.next).cursor.focus.kind = .text := by
      obtain hfocus | hstuck := hH.steady.focus h₁
      · rw [hfocus, Token.kind_down, htext]
      · exact absurd htext (hstuck.kind_ne _ rfl)
    simp only [htext, htext', ne_eq, not_true, if_false]
    refine .bind_part hH.part (keeps_expectName hH.steady (hH.part.agrees hagrees) h₁) ?_
    intro name name' s₂ t₂ hrun hrun' hname h₂
    rw [← bind_pure Parser.expectName, expectName_bind, if_pos htext] at hrun
    rw [← bind_pure Parser.expectName, expectName_bind, if_pos htext'] at hrun'
    cases hrun
    cases hrun'
    rw [← hname]
    refine .bind_part hH.part
      (keeps_params hH.steady n (hH.part.agrees hagrees) h₂ (hparen htext)) ?_
    rintro params _ s₃ t₃ - - rfl h₃
    refine (hH.delimiter hagrees rfl h₃).bind ?_
    rintro _ _ s₄ t₄ - h₄
    refine .bind (p := within .block _) (q := within .block _)
      (ih.blockBody _ _ (hagrees.within .block) h₄) ?_
    intro body body' s₅ t₅ hbody h₅
    refine .done ?_ h₅
    rw [Callable.down, Statement.downOfCallable, Statement.downOfList_eq]
    rw [LowerList] at hbody
    rw [hbody]
  · -- There is no name in the first run, and if it need not be clean neither in the second.
    rw [if_pos htext]
    obtain hfocus | hstuck := hH.steady.focus h₁
    · obtain hstrict | h' := hH.part.sim h₁
      · exact .spoiled hstrict (.failed _)
      · rw [hfocus, Token.kind_down, if_pos htext]
        exact .failed ⟨rfl, rfl, rfl⟩ (hagrees.isDown_recordLed (hH.part.lines ▸ hfocus) ..) h'
    · exact .spoiled (hH.part.strict hstuck.strict) (.failed _)

omit hC in
theorem guarded_of_isInert (fallback : Statement) (hs : s.IsClean)
    (hk : s.cursor.focus.kind.isInert = true) :
    (guarded (statement n) fallback env s).Cleanly fun _ _ => False := by
  have hstatement : (statement n env s).Cleanly fun _ s' => s.cursor < s'.cursor ∧ False :=
    statement_of_isInert hs hk
  exact (Outcome.Cleanly.guarded hstatement).mono fun _ _ _ h => h.2

omit hC in
/-- At the end of the input a block that is still open is reported, and at a directive there is no
    statement. -/
theorem blockRound_of_isInert {opened : Nat} (hs : s.IsClean)
    (hk : (s.cursor.skip fun k => k = .newline || k = .semicolon).focus.kind.isInert = true) :
    (blockRound (statement n) opened env s).Cleanly fun _ _ => False := by
  have hs' := hs.moveTo (s.cursor.skip fun k => k = .newline || k = .semicolon)
  have hguarded (fallback : Statement) : (guarded (statement n) fallback env
      (s.moveTo (s.cursor.skip fun k => k = .newline || k = .semicolon))).Cleanly
        fun _ _ => False := guarded_of_isInert fallback hs' hk
  have hroom : (s.moveTo (s.cursor.skip fun k => k = .newline || k = .semicolon)).room ≠ 0 :=
    Nat.ne_of_gt hs.room
  simp only [blockRound, Parser.skipSeparators, skip_bind, halted_bind, hroom, decide_false,
    Bool.false_eq_true, if_false, current_bind, State.cursor_moveTo]
  generalize (s.cursor.skip fun k => k = .newline || k = .semicolon).focus.kind = kind at hk
  split
  · cases hk
  · simp only [coded_bind]
    exact .report hs'
  · exact (hguarded _).bind fun _ _ _ h => h.elim

theorem keeps_blockRound (ih : C.KeepsStatements n) (opened opened' : Nat)
    (hagrees : C.Agrees env env') (h : C.Sim s t) :
    Outcome.Coupled C (fun x y => C.LowerList x.1 y.1 ∧ x.2 = y.2)
      (blockRound (statement n) opened env s) (blockRound (statement n) opened' env' t) := by
  obtain h' | ⟨hstrict, hk⟩ := hC.skipSeparators h
  · obtain haligned | ⟨hstrict, hends, _⟩ := hC.edge h'
    · have hroom := hC.room h'
      simp only [blockRound, Parser.skipSeparators, skip_bind, halted_bind, hroom]
      split
      · exact .done ⟨rfl, rfl⟩ h'
      · simp only [current_bind]
        rw [haligned, Token.kind_down, Token.position_down, Position.line_down]
        generalize hkind : (s.moveTo _).cursor.focus.kind = kind
        split
        · exact .done ⟨rfl, rfl⟩ (hC.pass h' haligned (by rw [hkind]; decide) fun _ => by
            rw [hkind]
            rfl)
        · simp only [coded_bind]
          exact .report hC.toSteady h' (hagrees.isDown_recordLed haligned ..) fun h'' =>
            .done ⟨rfl, rfl⟩ h''
        · refine (Outcome.Coupled.guarded hC (statements_read n).statement
            (statements_proceed n).statement (V := C.Lower) ?_ hagrees h'
            (ih.statement hagrees h')).bind ?_
          · rfl
          · rintro found _ s₁ t₁ rfl h₁
            exact .done ⟨rfl, rfl⟩ h₁
    · exact .spoiled hstrict (blockRound_of_isInert (hC.ready hstrict h).clean
        (Kind.isInert_of_endsLine hends))
  · exact .spoiled hstrict (blockRound_of_isInert (hC.ready hstrict h).clean hk)

theorem keepsStatements (n : Nat) : C.KeepsStatements n := by
  induction n with
  | zero =>
    exact ⟨fun _ _ _ _ => .exhausted, fun _ _ _ _ => .exhausted, fun _ _ _ _ => .exhausted,
      keeps_exhausted, fun _ _ _ _ _ => .exhausted, fun _ _ _ _ => .exhausted, keeps_exhausted⟩
  | succ n ih =>
    refine ⟨keeps_statementAs hC ih, keeps_clause hC ih, keeps_conditional hC ih,
      keeps_branch hC ih, keeps_callable hC ih, fun opened opened' hagrees h => ?_,
      fun hagrees h => ?_⟩
    · rw [blockBody_succ, blockBody_succ]
      refine .again (R := C.LowerList) (fun ha hl => ?_)
        (keeps_blockRound hC ih opened opened' hagrees h)
        fun h' => ih.blockBody opened opened' hagrees h'
      rw [LowerList] at ha hl ⊢
      rw [List.map_append, ha, hl]
    · refine .effectiveKind hC (fun _ => inferInstance) hagrees h
        (fun h' haligned hkind => ih.statementAs hagrees h' haligned hkind) fun hs hends => ?_
      exact statementAs_of_isInert hs (Kind.isInert_of_endsLine hends)

/-! ## Programs -/

theorem keeps_argRound (n : Nat) : C.Keeps Eq (argRound (expression n)) := by
  intro env env' s t hagrees h
  simp only [argRound, currentKind_bind, hC.endsStatement_eq h]
  split
  · exact .done rfl h
  · simp only [cursor_bind]
    refine (hC.expression n hagrees h).bind_run ?_
    rintro e _ s₁ t₁ hrun hrun' rfl h₁
    have hle := expression_proceeds n env s
    have hle' := expression_proceeds n env' t
    rw [hrun] at hle
    rw [hrun'] at hle'
    simp only [cursor_bind, hC.index h h₁ hle.1 hle'.1]
    split
    · obtain haligned | ⟨hstrict, _⟩ := hC.edge h₁
      · exact .failed (env.isAt_unexpectedError _ _) (hagrees.isDown_unexpectedError haligned _) h₁
      · exact .spoiled hstrict (.failed _)
    · exact .eatNext hC ⟨rfl, rfl⟩ (by decide) h₁ (fun h₂ => .done rfl h₂) (.done rfl h₁)

theorem keeps_directiveArgs (n : Nat) : C.Keeps Eq (directiveArgs n) := by
  induction n with
  | zero => exact keeps_exhausted
  | succ n ih =>
    intro env env' s t hagrees h
    rw [directiveArgs_succ]
    refine .again (fun ha hl => by rw [ha, hl]) ?_ fun h' => ih hagrees h'
    exact (keeps_argRound hC n hagrees h).mono fun _ _ h => by rw [h]; simp

/-- The second item is the first one so many lines further down. -/
def LowerItem (C : Coupling) (i i' : Item) : Prop := i.down C.lines = i'

theorem keeps_directive (n : Nat) (hagrees : C.Agrees env env') (h : C.Sim s t)
    (haligned : C.Aligned s t) (hkind : Counts .directive s.cursor) :
    Outcome.Coupled C C.LowerItem (directive n env s) (directive n env' t) := by
  have hrest {s t : State} (h : C.Sim s t) (haligned : C.Aligned s t)
      (hkind : Counts .directive s.cursor) :
      Outcome.Coupled C C.LowerItem (directiveRest n s.cursor.focus env s)
        (directiveRest n t.cursor.focus env' t) := by
    simp only [directiveRest, advance_bind]
    refine .bind (p := within .directive _) (q := within .directive _)
      (keeps_directiveArgs hC n (hagrees.within .directive)
        (hC.pass h haligned (hkind.ne_eof (by decide)) fun _ => hkind.isBlockOpener_eq rfl)) ?_
    rintro args _ s₁ t₁ rfl h₁
    refine .endStatement hC hagrees h₁ (.done ?_ h₁)
    rw [haligned]
    rfl
  have hdown := hagrees.unknownDirective_map (f := (·.down C.lines)) haligned rfl
    fun _ _ _ _ _ _ _ => haligned ▸ hagrees.isDown_recordLed haligned ..
  have hknown : env'.scene.dictionary.isDirective t.cursor.focus.text =
      env.scene.dictionary.isDirective s.cursor.focus.text := by
    rw [hagrees.dictionary, haligned, Token.text_down]
  rw [directive]
  simp only [current_bind, scene_bind, hknown]
  split
  · exact hrest h haligned hkind
  · simp only [scene_bind, context_bind]
    refine .report hC.toSteady h hdown fun h' => ?_
    have hrecorded := hrest h' (by simpa only [Aligned, State.cursor_record] using haligned)
      (by simpa only [Counts, State.cursor_record] using hkind)
    simp only [State.cursor_record] at hrecorded
    exact hrecorded

theorem keeps_importItem (hagrees : C.Agrees env env') (h : C.Sim s t) (haligned : C.Aligned s t)
    (hkind : Counts .importKw s.cursor) :
    Outcome.Coupled C C.LowerItem (importItem env s) (importItem env' t) := by
  have hline := haligned.line
  have h₁ := hC.pass h haligned (hkind.ne_eof (by decide)) fun _ => hkind.isBlockOpener_eq rfl
  simp only [importItem, currentLine_bind, advance_bind, current_bind, hline]
  obtain haligned₁ | ⟨hstrict, hends, _⟩ := hC.edge h₁
  · rw [haligned₁, Token.kind_down, Token.text_down]
    generalize hk : (s.moveTo s.cursor.next).cursor.focus.kind = kind
    split
    iterate 2
      have h₂ := hC.pass h₁ haligned₁ (by rw [hk]; decide) fun _ => by rw [hk]; rfl
      exact .endStatement hC hagrees h₂ (.done rfl h₂)
    · exact .failed (env.isAt_unexpectedError _ _) (hagrees.isDown_unexpectedError haligned₁ _) h₁
  · obtain hk | hk := Kind.endsLine_iff.1 hends
    iterate 2
      rw [hk]
      exact .spoiled hstrict (.failed _)

theorem keeps_exportItem (n : Nat) (hagrees : C.Agrees env env') (h : C.Sim s t)
    (haligned : C.Aligned s t) (hkind : Counts .exportKw s.cursor) :
    Outcome.Coupled C C.LowerItem (exportItem n env s) (exportItem n env' t) := by
  have hline := haligned.line
  have h₁ := hC.pass h haligned (hkind.ne_eof nofun) fun _ => hkind.isBlockOpener_eq rfl
  simp only [exportItem, currentLine_bind, advance_bind, hline]
  refine .effectiveKind hC (fun kind => by split <;> infer_instance) hagrees h₁
    (fun {kind s₂ t₂} h₂ haligned₂ hkind₂ => ?_) fun _ hends => ?_
  split
  · refine ((keepsStatements hC n).callable .function hagrees h₂ haligned₂ hkind₂).bind ?_
    rintro c _ s₃ t₃ rfl h₃
    exact .done rfl h₃
  · refine ((keepsStatements hC n).callable .component hagrees h₂ haligned₂ hkind₂).bind ?_
    rintro c _ s₃ t₃ rfl h₃
    exact .done rfl h₃
  · exact .failed (env.isAt_unexpectedError _ _) (hagrees.isDown_unexpectedError haligned₂ _) h₂
  · obtain hk | hk := Kind.endsLine_iff.1 hends
    iterate 2
      rw [hk]
      exact .failed _

theorem keeps_item (n : Nat) : C.Keeps C.LowerItem (item n) := by
  intro env env' s t hagrees h
  rw [item]
  refine .effectiveKind hC (fun kind => by split <;> infer_instance) hagrees h
    (fun {kind s₁ t₁} h₁ haligned hkind => ?_) fun hs hends => ?_
  · split
    · exact keeps_directive hC n hagrees h₁ haligned hkind
    · refine ((keepsStatements hC n).callable .function hagrees h₁ haligned hkind).bind ?_
      rintro c _ s₂ t₂ rfl h₂
      exact .done rfl h₂
    · refine ((keepsStatements hC n).callable .component hagrees h₁ haligned hkind).bind ?_
      rintro c _ s₂ t₂ rfl h₂
      exact .done rfl h₂
    · exact keeps_importItem hC hagrees h₁ haligned hkind
    · exact keeps_exportItem hC n hagrees h₁ haligned hkind
    · simp only [coded_bind]
      exact .failed ⟨rfl, rfl, rfl⟩ (hagrees.isDown_recordLed haligned ..) h₁
    · refine ((keepsStatements hC n).statementAs hagrees h₁ haligned hkind).bind ?_
      rintro st _ s₂ t₂ rfl h₂
      exact .done rfl h₂
  · have hstatement : (statementAs n s.cursor.focus.kind env s).Cleanly fun _ _ => False :=
      statementAs_of_isInert hs (Kind.isInert_of_endsLine hends)
    obtain hk | hk := Kind.endsLine_iff.1 hends
    iterate 2
      rw [hk] at hstatement ⊢
      exact hstatement.bind fun _ _ _ h => h.elim

/-- A round reads the same item in both runs, as long as neither of them is at an edge. -/
theorem keeps_itemRound (n : Nat) (hagrees : C.Agrees env env')
    (h : C.Sim (s.moveTo (s.cursor.skip fun k => k = .newline || k = .semicolon))
      (t.moveTo (t.cursor.skip fun k => k = .newline || k = .semicolon)))
    (haligned : C.Aligned (s.moveTo (s.cursor.skip fun k => k = .newline || k = .semicolon))
      (t.moveTo (t.cursor.skip fun k => k = .newline || k = .semicolon))) :
    Outcome.Coupled C (fun x y => x.1.map (·.down C.lines) = y.1 ∧ x.2 = y.2)
      (itemRound (item n) env s) (itemRound (item n) env' t) := by
  simp only [itemRound, Parser.skipSeparators, skip_bind, halted_bind, currentKind_bind,
    hC.room h]
  rw [haligned, Token.kind_down]
  split
  · exact .done ⟨rfl, rfl⟩ h
  · have hitem : C.Keeps (fun o o' => o.map (·.down C.lines) = o') (some <$> item n) := by
      intro env env' s t hagrees h
      rw [map_eq_pure_bind]
      refine (keeps_item hC n hagrees h).bind ?_
      rintro i _ s₁ t₁ rfl h₁
      exact .done rfl h₁
    have hguarded := Outcome.Coupled.guarded hC (item_reads n).some ((item_proceeds n).map some)
      (V := fun o o' => o.map (·.down C.lines) = o') (Option.map_none ..) hagrees h
      (hitem hagrees h)
    refine hguarded.bind ?_
    rintro found _ s₁ t₁ rfl h₁
    refine .done ⟨?_, rfl⟩ h₁
    cases found <;> rfl

/-- Programs are coupled if no line ends before the other run's input does. -/
theorem keeps_items (haligned : ∀ {s t}, C.Sim s t → C.Aligned s t)
    (hskip : ∀ {s t}, C.Sim s t →
      C.Sim (s.moveTo (s.cursor.skip fun k => k = .newline || k = .semicolon))
        (t.moveTo (t.cursor.skip fun k => k = .newline || k = .semicolon))) (n : Nat) :
    C.Keeps (fun l l' => l.map (·.down C.lines) = l') (items n) := by
  induction n with
  | zero => exact keeps_exhausted
  | succ n ih =>
    intro env env' s t hagrees h
    rw [items_succ]
    refine .again (fun ha hl => ?_)
      (keeps_itemRound hC n hagrees (hskip h) (haligned (hskip h))) fun h' => ih hagrees h'
    rw [List.map_append, ha, hl]

end Coupling

end Parser

end SunLint
