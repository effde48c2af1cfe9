import SunLint.Proofs.Parser.Relocation
import SunLint.Proofs.Recovery.Advance

/-!
# How severe the report of a failure is

A parser that fails gives up with an error about the token it has stopped at, and it always
is an error and not a warning (`AllFail`). The recovery then decides what is recorded.

* `failure_reported_iff`: an error at that token is recorded, except where a word is
  substituted;
* `failure_downgraded`: there the failure leaves a warning behind and nothing else, so that a
  program with a statement that could not be read has no errors.
-/

namespace SunLint.Parser

open Recovery

variable {α : Type} {env : Env} {s : State} {e : SyntaxError}

/-! ## Failures -/

/-- Every state is the same as itself no lines further down. -/
theorem Relocated.refl (s : State) : Relocated 0 [] [] s s where
  cursor := by
    obtain ⟨b, f, a⟩ := s.cursor
    simp [Cursor.down]
  room := rfl
  errors := ⟨s.errors, (List.append_nil _).symm,
    List.forall₂_same.2 fun e _ => SyntaxError.IsDown.refl e⟩
  apart _ _ := nofun

/-- Called where the token satisfies `q`, the parser fails with an error about the token it
    has stopped at, if it fails. -/
def FailsAt (p : Parser α) (q : Cursor → Prop) : Prop :=
  ∀ env s, q s.cursor → ∀ e s', p env s = .failed e s' → e.IsAt s'.cursor

/-- A run beside itself shows what its failures are. -/
theorem FailsAt.of_coupled {p : Parser α} {q : Cursor → Prop} {V : α → α → Prop}
    (h : ∀ env s, q s.cursor →
      Outcome.Coupled (.relocation 0 [] []) V (p env s) (p env s)) : FailsAt p q := by
  intro env s hq e s' hfailed
  have hcoupled := h env s hq
  rw [hfailed] at hcoupled
  cases hcoupled with
  | failed hat => exact hat
  | spoiled hstrict => exact hstrict.elim

/-- All parsers of statements and items, called to the depth `n`, fail with errors about the
    tokens they have stopped at. Some are called at a token that counts as a certain
    kind. -/
structure AllFail (n : Nat) : Prop where
  item : FailsAt (item n) fun _ => True
  directive : FailsAt (directive n) (Counts .directive)
  directiveArgs : FailsAt (directiveArgs n) fun _ => True
  importItem : FailsAt importItem (Counts .importKw)
  exportItem : FailsAt (exportItem n) (Counts .exportKw)
  callable : ∀ form, FailsAt (callable n form) (Counts form.kind)
  params : FailsAt (params n) fun _ => True
  paramList : FailsAt (paramList n) fun _ => True
  blockBody : ∀ opened, FailsAt (blockBody n opened) fun _ => True
  statement : FailsAt (statement n) fun _ => True
  statementAs : ∀ kind, FailsAt (statementAs n kind) (Counts kind)
  clause : ∀ kind, FailsAt (clause n kind) (Counts kind)
  conditional : FailsAt (conditional n) (Counts .whenKw)
  branch : FailsAt (branch n) fun _ => True
  expression : FailsAt (expression n) fun _ => True

theorem allFail (n : Nat) : AllFail n := by
  have hC : (Coupling.relocation 0 [] []).Complete := Coupling.complete_relocation isNeutral_nil
  have hstatements := Coupling.keepsStatements hC n
  have hagrees (env : Env) : (Coupling.relocation 0 [] []).Agrees env env :=
    ⟨⟨rfl, rfl, rfl⟩, trivial⟩
  have hsim := Relocated.refl
  have haligned (s : State) : (Coupling.relocation 0 [] []).Aligned s s := rfl
  exact
    { item := .of_coupled fun env s _ => Coupling.keeps_item hC n (hagrees env) (hsim s)
      directive := .of_coupled fun env s =>
        Coupling.keeps_directive hC n (hagrees env) (hsim s) (haligned s)
      directiveArgs := .of_coupled fun env s _ =>
        Coupling.keeps_directiveArgs hC n (hagrees env) (hsim s)
      importItem := .of_coupled fun env s =>
        Coupling.keeps_importItem hC (hagrees env) (hsim s) (haligned s)
      exportItem := .of_coupled fun env s =>
        Coupling.keeps_exportItem hC n (hagrees env) (hsim s) (haligned s)
      callable := fun form => .of_coupled fun env s =>
        hstatements.callable form (hagrees env) (hsim s) (haligned s)
      params := .of_coupled fun env s _ =>
        Coupling.keeps_params hC.toSteady n (hagrees env) (hsim s) fun hstuck =>
          hstuck.strict.elim
      paramList := .of_coupled fun env s _ =>
        Coupling.keeps_paramList hC.toSteady n (hagrees env) (hsim s)
      blockBody := fun opened => .of_coupled fun env s _ =>
        hstatements.blockBody opened opened (hagrees env) (hsim s)
      statement := .of_coupled fun env s _ => hstatements.statement (hagrees env) (hsim s)
      statementAs := fun _ => .of_coupled fun env s =>
        hstatements.statementAs (hagrees env) (hsim s) (haligned s)
      clause := fun _ => .of_coupled fun env s =>
        hstatements.clause (hagrees env) (hsim s) (haligned s)
      conditional := .of_coupled fun env s =>
        hstatements.conditional (hagrees env) (hsim s) (haligned s)
      branch := .of_coupled fun env s _ => hstatements.branch (hagrees env) (hsim s)
      expression := .of_coupled fun env s _ => hC.expression n (hagrees env) (hsim s) }

/-! ## Reports -/

/-- Among the errors added between the states there is one, and no mere warning, at the
    position. -/
def ReportsError (s s' : State) (p : Position) : Prop :=
  ∃ added, s'.errors = added ++ s.errors ∧ ∃ e ∈ added, e.severity = .error ∧ e.position = p

theorem ofConstruct?_of_lacking? {scene : Scene} {c : Cursor} {construct : Construct}
    {delimiter : Delimiter} (h : scene.lacking? c construct = some delimiter) :
    Delimiter.ofConstruct? construct = some delimiter := by
  obtain ⟨delimiter', hdelimiter, h⟩ := Option.bind_eq_some_iff.1 h
  obtain ⟨nearest, _, h⟩ := Option.bind_eq_some_iff.1 h
  split at h
  · cases h
    exact hdelimiter
  · cases h

/-- A recovery reports at most one error, which is about the token it starts at. Where a
    word is substituted it is a warning, and it is one where the rest of a line is skipped,
    but that one has a code of its own. -/
theorem report_of_recover (scene : Scene) (c : Cursor) (context : Context) :
    (scene.recover c context).strategy ≠ .substitute ∧
        (scene.recover c context).error = none ∨
      ∃ e, (scene.recover c context).error = some e ∧ e.position = c.focus.position ∧
        ((scene.recover c context).strategy = .substitute ∧ e.severity = .warning ∧
            e.code ≠ .lineSkipped ∨
          (scene.recover c context).strategy = .skipLine ∧ e.code = .lineSkipped ∨
          (scene.recover c context).strategy ≠ .substitute ∧ e.severity = .error ∧
            e.code ≠ .lineSkipped) := by
  by_cases heof : c.focus.kind = .eof
  · rw [Scene.recover, if_pos heof]
    exact .inl ⟨by rintro ⟨⟩, rfl⟩
  have hcases := Scene.recover_cases scene context heof
  generalize scene.recover c context = r at hcases
  obtain hr | hr | hr | hr | hr | ⟨-, rfl⟩ := hcases
  · obtain ⟨i, _, rfl⟩ := Option.map_eq_some_iff.1 hr
    exact .inl ⟨by rintro ⟨⟩, rfl⟩
  · obtain ⟨d, hd, rfl⟩ := Option.map_eq_some_iff.1 hr
    refine .inr ⟨_, by rw [Scene.missingDelimiter?, hd]; rfl, rfl,
      .inr (.inr ⟨by rintro ⟨⟩, rfl, ?_⟩)⟩
    have hd := ofConstruct?_of_lacking? hd
    -- Three constructs have a delimiter.
    cases hconstruct : context.construct <;> rw [hconstruct] at hd <;> cases hd <;> rintro ⟨⟩
  · rw [Scene.deleteToken?] at hr
    split at hr
    · cases hr
      exact .inr ⟨_, rfl, rfl, .inr (.inr ⟨by rintro ⟨⟩, rfl, by rintro ⟨⟩⟩)⟩
    · cases hr
  · obtain ⟨token, _, rfl⟩ := Option.map_eq_some_iff.1 hr
    exact .inr ⟨_, rfl, rfl, .inl ⟨rfl, rfl, by rintro ⟨⟩⟩⟩
  · obtain ⟨i, _, rfl⟩ := Option.map_eq_some_iff.1 hr
    exact .inl ⟨by rintro ⟨⟩, rfl⟩
  · exact .inr ⟨_, rfl, rfl, .inr (.inl ⟨rfl, rfl⟩)⟩

/-- With room for two errors, what a parser has given up with is recorded as an error, or
    another error about the same token is, except where a word is substituted. -/
theorem reportsError_recovered_iff (hat : e.IsAt s.cursor) (hroom : 2 ≤ s.room) :
    ReportsError s (s.recovered env e) e.position ↔
      (env.scene.recover s.cursor e.context).strategy ≠ .substitute := by
  obtain ⟨hrecord, hrecord'⟩ := State.record_eq (s := s) (by omega) e
  have hreport := report_of_recover env.scene s.cursor e.context
  rw [State.recovered, if_neg (by omega)]
  generalize env.scene.recover s.cursor e.context = r at hreport
  obtain ⟨hstrategy, hnone⟩ | ⟨e', herror, hposition, hkind⟩ := hreport
  · have hspecific : isMoreSpecific r e = false := by rw [isMoreSpecific, hnone]; rfl
    simp only [hspecific, hnone, Bool.false_eq_true, if_false, Option.elim_none]
    exact iff_of_true ⟨[e], hrecord, e, List.mem_singleton_self e, hat.severity, rfl⟩ hstrategy
  · rw [← hat.position] at hposition
    have hspecific : isMoreSpecific r e = decide (e'.code ≠ .lineSkipped) := by
      rw [isMoreSpecific, herror]
      simp [hposition]
    obtain ⟨hstrategy, hwarning, hcode⟩ | ⟨hstrategy, hcode⟩ | ⟨hstrategy, hsevere, hcode⟩ := hkind
    · -- The warning is all that is recorded.
      simp only [hspecific, herror, hcode, ne_eq, not_false_eq_true, decide_true, if_true,
        Option.elim_some]
      obtain ⟨hadded, _⟩ := State.record_eq (s := s) (by omega) e'
      refine iff_of_false ?_ (by simp [hstrategy])
      rintro ⟨added, heq, x, hx, hsevere, _⟩
      have hadded : [e'] = added := List.append_cancel_right (hadded.symm.trans heq)
      rw [← hadded, List.mem_singleton] at hx
      rw [hx, hwarning] at hsevere
      cases hsevere
    · simp only [hspecific, herror, hcode, ne_eq, not_true, decide_false, Bool.false_eq_true,
        if_false, Option.elim_some]
      obtain ⟨hadded, _⟩ := State.record_eq (s := s.record e) (by omega) e'
      refine iff_of_true ⟨[e', e], ?_, e, by simp, hat.severity, rfl⟩ (by simp [hstrategy])
      change ((s.record e).record e').errors = _
      rw [hadded, hrecord]
      rfl
    · simp only [hspecific, herror, hcode, ne_eq, not_false_eq_true, decide_true, if_true,
        Option.elim_some]
      obtain ⟨hadded, _⟩ := State.record_eq (s := s) (by omega) e'
      exact iff_of_true ⟨[e'], hadded, e', by simp, hsevere, hposition⟩ hstrategy

/-- Whatever parser fails, it has stopped at the token that its error is about. If there is
    room for two errors more, the recovery records an error at the position of the failure
    if and only if it does not substitute a word there. -/
theorem failure_reported_iff (n : Nat) : AllFail n ∧
    ∀ env s e, SyntaxError.IsAt e s.cursor → 2 ≤ s.room →
      (ReportsError s (s.recovered env e) e.position ↔
        (env.scene.recover s.cursor e.context).strategy ≠ .substitute) :=
  ⟨allFail n, fun _ _ _ => reportsError_recovered_iff⟩

/-- The tokens of a binding that a misspelled word follows at the end of the text: the binding
    fails at the word, which is an error and is recorded as one if the word is not
    corrected. -/
theorem failure_reported_iff_of_binding : ∃ (dictionary : Dictionary) (n : Nat) (s₀ s : State)
    (e : SyntaxError),
    (tokenize "let x = 1 rest").tokens = s₀.cursor.tokens ∧
    item n (.start none dictionary {}) s₀ = .failed e s ∧ e.IsAt s.cursor ∧ 2 ≤ s.room ∧
    (ReportsError s (s.recovered (.start none dictionary {}) e) e.position ↔
      ((Env.start none dictionary {}).scene.recover s.cursor e.context).strategy ≠
        .substitute) ∧
    ReportsError s (s.recovered (.start none dictionary {}) e) e.position := by
  let dictionary : Dictionary := { keywords := ["return"] }
  let word : Token := ⟨.text, "rest", ⟨1, 11⟩⟩
  let c : Cursor := ⟨[], ⟨.letKw, "let", ⟨1, 1⟩⟩, [⟨.text, "x", ⟨1, 5⟩⟩, ⟨.equals, "=", ⟨1, 7⟩⟩,
    ⟨.number, "1", ⟨1, 9⟩⟩, word, .eof ⟨1, 15⟩]⟩
  let s : State := { State.start c {} with cursor := c.seek 4 }
  let e := (Env.start none dictionary {}).unexpectedError s.cursor [.newline]
  have hfailed : item 144 (.start none dictionary {}) (.start c {}) = .failed e s := rfl
  have hat := (failure_reported_iff 144).1.item _ _ trivial _ _ hfailed
  have hiff := (failure_reported_iff 144).2 (.start none dictionary {}) s e hat (by decide)
  have hstrategy : ((Env.start none dictionary {}).scene.recover s.cursor e.context).strategy ≠
      .substitute := by decide +kernel
  exact ⟨dictionary, 144, .start c {}, s, e, by decide +kernel, hfailed, hat, by decide, hiff,
    hiff.2 hstrategy⟩

/-- If the word is a misspelled keyword then the failure leaves no error behind. The binding
    is not among the items, and the only diagnostic of the whole text is a warning. -/
theorem failure_downgraded : ∃ (dictionary : Dictionary) (n : Nat) (s₀ s : State)
    (e : SyntaxError),
    (tokenize "let x = 1 retrun").tokens = s₀.cursor.tokens ∧
    item n (.start none dictionary {}) s₀ = .failed e s ∧ e.severity = .error ∧ 2 ≤ s.room ∧
    ¬ ReportsError s (s.recovered (.start none dictionary {}) e) e.position ∧
    (parse s₀.cursor.tokens none dictionary {}).toOption.map
      (fun o => (o.items.length, o.errors.map fun e => (e.code, e.severity))) =
        some (0, [(.possibleMisspelling, .warning)]) := by
  let dictionary : Dictionary :=
    { keywords := ["return"], misspellings := SortedMap.empty.insert "retrun" "return" }
  let word : Token := ⟨.text, "retrun", ⟨1, 11⟩⟩
  let c : Cursor := ⟨[], ⟨.letKw, "let", ⟨1, 1⟩⟩, [⟨.text, "x", ⟨1, 5⟩⟩, ⟨.equals, "=", ⟨1, 7⟩⟩,
    ⟨.number, "1", ⟨1, 9⟩⟩, word, .eof ⟨1, 17⟩]⟩
  let s : State := { State.start c {} with cursor := c.seek 4 }
  let e := (Env.start none dictionary {}).unexpectedError s.cursor [.newline]
  have hfailed : item 144 (.start none dictionary {}) (.start c {}) = .failed e s := rfl
  have hstrategy : ((Env.start none dictionary {}).scene.recover s.cursor e.context).strategy =
      .substitute := by decide +kernel
  have hreports : ReportsError s (s.recovered (.start none dictionary {}) e) e.position ↔
      ((Env.start none dictionary {}).scene.recover s.cursor e.context).strategy ≠ .substitute :=
    reportsError_recovered_iff (Env.isAt_unexpectedError _ _ _) (by decide)
  exact ⟨dictionary, 144, .start c {}, s, e, by decide +kernel, hfailed, rfl, by decide,
    fun h => hreports.1 h hstrategy, by decide +kernel⟩

end SunLint.Parser
