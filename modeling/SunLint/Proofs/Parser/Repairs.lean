import SunLint.Proofs.Parser.Severity

/-!
# What errors say about their repair

Every error is recorded in one of few forms, and the form tells what would mend the text
(`SyntaxError.Tells`): another word for the token, something before it that is missing, or
nothing in particular. This is so wherever an error comes from, a parser that goes on in spite
of it, one that gives up, or the recovery.

Only words are taken for keywords, and only directives are compared with directives. The latter
does not hold of `noteUnknownDirective` at just any token. So the property is shown of parsers
of statements by composition, and for items it is used that a directive is read where the
current token is one.

* `Honest`: all errors tell what would mend the text, and are about tokens of the list;
* `tells_of_mem_errors`: so are the errors of a whole parse.
-/

namespace SunLint

/-- The word is proposed in place of the token. -/
inductive Scene.Proposes (scene : Scene) (token : Token) : String → Prop
  | keyword {meant : Token} (h : scene.replacement? token = some meant) :
    Proposes scene token meant.text
  | directive {known : String} (hkind : token.kind = .directive)
    (h : scene.dictionary.closestDirective? token.text scene.limits.maxEditDistance =
      some known) : Proposes scene token known

/-- The error tells what would mend the text, in the words of the one that recorded it. -/
inductive SyntaxError.Tells (scene : Scene) : SyntaxError → Prop
  | misspelling {token : Token} {word : String} (h : scene.Proposes token word)
    (context : Context) : Tells scene (scene.recordMisspelling token word context)
  | delimiter {construct : Construct} {delimiter : Recovery.Delimiter}
    (h : Recovery.Delimiter.ofConstruct? construct = some delimiter) (token : Token)
    (context : Context) : Tells scene
      (scene.recordCoded delimiter.code .error delimiter.message token [delimiter.kind] context)
  | remark {code : ErrorCode} {message : String} {expected : List Kind}
    (h : Parser.IsRemark code message expected) (token : Token) (context : Context) :
    Tells scene (scene.recordCoded code .error message token expected context)
  /-- There is nothing to be mended but the token itself. -/
  | other {e : SyntaxError} (hmissing : e.code.category ≠ .missing)
    (hmisspelling : e.code ≠ .possibleMisspelling) : Tells scene e

theorem Cursor.focus_mem_tokens (c : Cursor) : c.focus ∈ c.tokens := by simp [tokens]

namespace Scene

variable {scene : Scene} {c : Cursor} {context : Context} {e : SyntaxError}

theorem tells_of_missingDelimiter? (h : scene.missingDelimiter? c context = some e) :
    e.Tells scene ∧ e.token = c.focus := by
  obtain ⟨delimiter, hlacking, rfl⟩ := Option.map_eq_some_iff.1 h
  exact ⟨.delimiter (Parser.ofConstruct?_of_lacking? hlacking) _ _, rfl⟩

/-- What a recovery reports tells how to mend the text at the token it starts from. -/
theorem tells_of_recover (h : (scene.recover c context).error = some e) :
    e.Tells scene ∧ e.token = c.focus := by
  by_cases heof : c.focus.kind = .eof
  · rw [recover, if_pos heof] at h
    cases h
  have hcases := recover_cases scene context heof
  generalize scene.recover c context = r at h hcases
  obtain hr | hr | hr | hr | hr | ⟨-, rfl⟩ := hcases
  · obtain ⟨i, -, rfl⟩ := Option.map_eq_some_iff.1 hr
    cases h
  · obtain ⟨delimiter, -, rfl⟩ := Option.map_eq_some_iff.1 hr
    exact tells_of_missingDelimiter? h
  · rw [deleteToken?] at hr
    split at hr
    · cases hr
      cases h
      exact ⟨.other (by rintro ⟨⟩) (by rintro ⟨⟩), rfl⟩
    · cases hr
  · obtain ⟨meant, hmeant, rfl⟩ := Option.map_eq_some_iff.1 hr
    cases h
    exact ⟨.misspelling (.keyword hmeant) _, rfl⟩
  · obtain ⟨i, -, rfl⟩ := Option.map_eq_some_iff.1 hr
    cases h
  · cases h
    exact ⟨.other (by rintro ⟨⟩) (by rintro ⟨⟩), rfl⟩

end Scene

namespace Parser

variable {α β : Type} {scene : Scene} {env : Env} {s : State} {e : SyntaxError}

/-! ## Honest outcomes -/

/-- The errors recorded so far tell how to mend the text at a token of the list. -/
def State.IsHonest (scene : Scene) (s : State) : Prop :=
  ∀ e ∈ s.errors, e.Tells scene ∧ e.token ∈ s.cursor.tokens

/-- The errors recorded tell how to mend the text, and so does the one given up with, which is
    about the token under the cursor. -/
def Outcome.IsHonest (scene : Scene) : Outcome α → Prop
  | .done _ s => s.IsHonest scene
  | .failed e s => (e.Tells scene ∧ e.token = s.cursor.focus) ∧ s.IsHonest scene
  | .exhausted => True

/-- Whatever the parser records or gives up with tells how to mend the text. -/
def Honest (p : Parser α) : Prop := ∀ env s, s.IsHonest env.scene → (p env s).IsHonest env.scene

namespace State.IsHonest

variable (h : s.IsHonest scene)
include h

theorem moveTo {c : Cursor} (hle : s.cursor ≤ c) : (s.moveTo c).IsHonest scene := by
  intro e he
  have htokens : s.cursor.tokens = c.tokens := hle.1
  rw [cursor_moveTo, ← htokens]
  exact h e he

theorem record (he : e.Tells scene ∧ e.token = s.cursor.focus) :
    (s.record e).IsHonest scene := by
  unfold State.record
  split
  · exact h
  · intro e' he'
    obtain rfl | he' := List.mem_cons.1 he'
    · exact ⟨he.1, he.2 ▸ s.cursor.focus_mem_tokens⟩
    · exact h e' he'

end State.IsHonest

/-- The recovery records what the parser gave up with, and what it did itself. -/
theorem State.IsHonest.recovered (h : s.IsHonest env.scene)
    (he : e.Tells env.scene ∧ e.token = s.cursor.focus) :
    (s.recovered env e).IsHonest env.scene := by
  rw [State.recovered]
  split
  · exact h
  have hreport : ∀ e', (env.scene.recover s.cursor e.context).error = some e' →
      e'.Tells env.scene ∧ e'.token = s.cursor.focus := fun _ => Scene.tells_of_recover
  generalize env.scene.recover s.cursor e.context = r at hreport
  dsimp only
  generalize hs₁ : (if isMoreSpecific r e then s else s.record e) = s₁
  obtain ⟨hcursor, h₁⟩ : s₁.cursor = s.cursor ∧ s₁.IsHonest env.scene := by
    subst hs₁
    split
    · exact ⟨rfl, h⟩
    · exact ⟨s.cursor_record e, h.record he⟩
  refine moveTo ?_ (Cursor.le_seek _ _)
  cases herror : r.error with
  | none => exact h₁
  | some e' =>
    rw [← hcursor] at hreport
    exact h₁.record (hreport e' herror)

theorem Outcome.IsHonest.bind {p : Parser α} {f : α → Parser β}
    (hp : (p env s).IsHonest env.scene) (hf : ∀ a, Honest (f a)) :
    ((p >>= f) env s).IsHonest env.scene := by
  rw [bind_apply]
  cases ho : p env s with
  | done a s' =>
    rw [ho] at hp
    exact hf a env s' hp
  | failed e s' =>
    rw [ho] at hp
    exact hp
  | exhausted => trivial

/-! ## Small parsers -/

theorem tells_unexpectedError (c : Cursor) (expected : List Kind) :
    (env.unexpectedError c expected).Tells env.scene := by
  have hcode : (env.unexpectedError c expected).code =
      if expected.isEmpty then .unexpectedToken else .expectedToken := rfl
  refine .other ?_ ?_ <;> rw [hcode] <;> split <;> exact nofun

theorem tells_of_isRefusal {code : ErrorCode} (h : IsRefusal code) (message : String)
    (token : Token) (expected : List Kind) (context : Context) :
    (scene.recordCoded code .error message token expected context).Tells scene := by
  cases h with
  | misplaced => exact .other nofun nofun
  | nameless form => cases form <;> exact .other nofun nofun

/-- A word may be called misspelled, and is then taken for a keyword and no directive. -/
theorem effectiveKind_honest (h : s.IsHonest env.scene) :
    ∃ kind s', s'.IsHonest env.scene ∧ (kind = .directive → s'.cursor.focus.kind = .directive) ∧
      ∀ {α : Type} (f : Kind → Parser α), (effectiveKind >>= f) env s = f kind env s' := by
  cases hmeant : env.meant? s.cursor with
  | none =>
    refine ⟨_, s, h, id, fun f => ?_⟩
    rw [effectiveKind_bind, hmeant]
  | some meant =>
    have hword := Env.replacement?_of_meant? hmeant
    have hstarts := (Env.meant?_eq_some hmeant).2
    refine ⟨meant.kind, _,
      h.record ⟨.misspelling (.keyword hword) (env.contextAt s.cursor), rfl⟩,
      fun hkind => ?_, fun f => ?_⟩
    · rw [hkind] at hstarts
      cases hstarts
    · rw [effectiveKind_bind, hmeant]

theorem honest_isRecovering : IsRecovering @Honest where
  pure _ := fun _ _ h => h
  bind hp hf := fun env s h => (hp env s h).bind hf
  within _ hp := fun _ s h => hp _ s h
  exhausted := fun _ _ _ => trivial
  current _ hf := fun env s h => hf _ env s h
  index _ hf := fun env s h => hf _ env s h
  advance := fun _ s h => h.moveTo s.cursor.le_next
  skip p := fun _ s h => h.moveTo (s.cursor.le_skip p)
  note hremark := fun _ _ h => h.record ⟨.remark hremark _ _, rfl⟩
  delimiter kind := fun env s h => by
    rw [← bind_pure (delimiter kind), delimiter_bind]
    split
    · exact h.moveTo s.cursor.le_next
    · split
      · rename_i e he
        exact h.record (Scene.tells_of_missingDelimiter? he)
      · exact ⟨⟨tells_unexpectedError _ _, rfl⟩, h⟩
  unexpected expected := fun _ _ h => ⟨⟨tells_unexpectedError _ _, rfl⟩, h⟩
  orRecover {_ p} hp fallback := fun env s h => by
    rw [← bind_pure (orRecover p fallback), orRecover_bind]
    have hhonest := hp env s h
    cases ho : p env s with
    | done a s' =>
      rw [ho] at hhonest
      exact hhonest
    | failed e s' =>
      rw [ho] at hhonest
      exact hhonest.2.recovered hhonest.1
    | exhausted => trivial
  halted := fun _ _ h => h
  effectiveKind := fun env s h => by
    obtain ⟨kind, s', h', -, hrun⟩ := effectiveKind_honest h
    rw [← bind_pure effectiveKind, hrun]
    exact h'
  noteMissingResult := fun env s h => by
    simp only [noteMissingResult, current_bind, lastErrorPosition_bind]
    split
    · exact h
    · exact h.record ⟨.remark .result _ _, rfl⟩
  giveUp hcode _ _ := fun _ _ h => ⟨⟨tells_of_isRefusal hcode _ _ _ _, rfl⟩, h⟩

/-! ## Programs -/

/-- At a directive another one may be proposed. -/
theorem directive_honest (n : Nat) (h : s.IsHonest env.scene)
    (hkind : s.cursor.focus.kind = .directive) : (directive n env s).IsHonest env.scene := by
  have hrest := honest_isRecovering.directiveRest n
  rw [directive_eq]
  simp only [noteUnknownDirective, bind_assoc, current_bind, scene_bind]
  split
  · exact hrest _ env s h
  · refine hrest _ env _ (h.record ?_)
    unfold unknownDirective
    split
    · rename_i known hknown
      exact ⟨.misspelling (.directive hkind hknown) _, rfl⟩
    · exact ⟨.other (by rintro ⟨⟩) (by rintro ⟨⟩), rfl⟩

theorem item_honest (n : Nat) : Honest (item n) := by
  have hrecovering := honest_isRecovering
  intro env s h
  obtain ⟨kind, s', h', hkind, hrun⟩ := effectiveKind_honest h
  rw [item, hrun]
  split
  · exact directive_honest n h' (hkind rfl)
  iterate 2
    exact (hrecovering.bind ((hrecovering.statements n).callable _) fun _ =>
      hrecovering.pure _) env s' h'
  · exact hrecovering.importItem env s' h'
  · exact hrecovering.exportItem n env s' h'
  · exact hrecovering.giveUp .misplaced _ _ env s' h'
  · exact (hrecovering.bind ((hrecovering.statements n).statementAs _) fun _ =>
      hrecovering.pure _) env s' h'

/-- Every error of a parse tells how to mend the text at a token of the list. -/
theorem tells_of_mem_errors {tokens : List Token}
    (hlast : tokens.getLast?.map (·.kind) = some .eof) (source : Option String)
    (dictionary : Dictionary) (settings : Settings) :
    ∃ output, parse tokens source dictionary settings = .ok output ∧
      ∀ e ∈ output.errors,
        e.Tells { dictionary, source, limits := settings.limits } ∧ e.token ∈ tokens := by
  obtain ⟨c, found, s, hc, -, hdone, hparse⟩ :=
    isParsed_of_getLast? source dictionary settings hlast
  have hstart : (State.start c settings).IsHonest
      { dictionary, source, limits := settings.limits } := fun _ he => absurd he List.not_mem_nil
  have hitems := honest_isRecovering.items_of_item item_honest (depthFor tokens.length)
    (.start source dictionary settings) _ hstart
  have hforward := (allForward (depthFor tokens.length)).items _ _ _
    (congrArg Outcome.state? (hdone _ (Nat.le_refl _)))
  have hsame : s.cursor.tokens = tokens := hforward.1.trans (Cursor.tokens_ofList? hc)
  rw [hdone _ (Nat.le_refl _)] at hitems
  refine ⟨_, hparse, fun e he => ?_⟩
  rw [← hsame]
  exact hitems e (List.mem_reverse.1 he)

end Parser

end SunLint
