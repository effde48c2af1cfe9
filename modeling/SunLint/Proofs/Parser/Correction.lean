import Mathlib.Data.List.Basic
import SunLint.Proofs.Parser.Misspelling

/-!
# Misspelled keywords change nothing but warnings

Where a declaration may start, the parser looks for a misspelled keyword, and nowhere else
does it matter whether there is a keyword or a word: a clean run does not read either of
them there. So every parser does the same on a list with misspelled keywords as on the
list that is spelled right, if its run on the latter is clean.

* `Simulates`: this, of a parser, wherever it is called;
* `parse_misspelled`: a list that is parsed without an error has the same items if
  keywords in it are misspelled, with one warning about each of them.
-/

namespace SunLint.Parser

variable {α : Type} {d : Dictionary} {limit : Nat} {words : List Token}
  {env env' : Env} {s t : State} {n : Nat}

/-- Called at the same place of both lists, the parser does the same on both of them. -/
def Simulates (d : Dictionary) (limit : Nat) (words : List Token) (p : Parser α) : Prop :=
  ∀ {env env' s t}, Alike d limit env env' → Beside d limit words s t →
    Outcome.Follows d limit words Never (p env s) (p env' t)

theorem exhausted_simulates : Simulates d limit words (exhausted : Parser α) :=
  fun _ _ => .exhausted

theorem Simulates.within {p : Parser α} (hp : Simulates d limit words p) (construct : Construct) :
    Simulates d limit words (within construct p) :=
  fun halike h => hp (halike.within construct) h

theorem Simulates.some {p : Parser α} (hp : Simulates d limit words p) :
    Simulates d limit words (some <$> p) := by
  intro env env' s t halike h
  rw [map_eq_pure_bind]
  exact .bind (hp halike h) fun a s' t' h' => .done h'

/-! ## Expressions -/

/-- The parsers of expressions, called to the depth `n`, do the same on both lists. -/
structure ExpressionsSimulate (d : Dictionary) (limit : Nat) (words : List Token) (n : Nat) :
    Prop where
  binary : ∀ least, Simulates d limit words (binary n least)
  operations : ∀ least lhs, Simulates d limit words (operations n least lhs)
  unary : Simulates d limit words (unary n)
  suffixes : ∀ e, Simulates d limit words (suffixes n e)
  sequence : ∀ close, close.isSilent = true → close ≠ .eof →
    Simulates d limit words (sequence n close)
  primary : Simulates d limit words (primary n)

/-- No expression starts with a keyword that starts a declaration. -/
theorem primary_of_stops {Q : Expr → State → Prop} (n : Nat) (h : Stops s) :
    (primary n env s).Cleanly Q := by
  cases n with
  | zero => exact .exhausted
  | succ n =>
    rw [primary]
    simp only [current_bind]
    rw [Stops] at h
    generalize s.cursor.focus.kind = kind at h
    cases kind <;> first | exact .failed _ | cases h

theorem unary_of_stops {Q : Expr → State → Prop} (n : Nat) (h : Stops s) :
    (unary n env s).Cleanly Q := by
  cases n with
  | zero => exact .exhausted
  | succ n =>
    have hk := h.kind_ne .symbol rfl
    rw [unary]
    simp only [current_bind, hk, decide_false, Bool.false_and, Bool.false_eq_true, if_false]
    exact (primary_of_stops (Q := fun _ _ => False) n h).bind fun _ _ _ h => h.elim

theorem expression_of_stops {Q : Expr → State → Prop} (n : Nat) (h : Stops s) :
    (expression n env s).Cleanly Q := by
  cases n with
  | zero => exact .exhausted
  | succ n =>
    change (binary (n + 1) 0 _ s).Cleanly Q
    rw [binary]
    exact (unary_of_stops (Q := fun _ _ => False) n h).bind fun _ _ _ h => h.elim

/-! A word before such a keyword is an expression of its own. -/

theorem suffixes_of_stops (n : Nat) (e : Expr) (h : Stops s) :
    (suffixes n e env s).Cleanly fun _ s' => s' = s := by
  cases n with
  | zero => exact .exhausted
  | succ n =>
    rw [suffixes]
    simp only [currentKind_bind]
    rw [Stops] at h
    generalize s.cursor.focus.kind = kind at h
    split
    · cases h
    · cases h
    · exact .done fun _ => rfl

theorem operations_of_stops (n least : Nat) (lhs : Expr) (h : Stops s) :
    (operations n least lhs env s).Cleanly fun _ s' => s' = s := by
  cases n with
  | zero => exact .exhausted
  | succ n =>
    have hk := h.kind_ne .symbol rfl
    rw [operations]
    simp only [current_bind, operatorLevel?, hk, if_false]
    exact .done fun _ => rfl

theorem expression_of_text (n : Nat) (hk : s.cursor.focus.kind = .text)
    (h : Stops (s.moveTo s.cursor.next)) :
    (expression n env s).Cleanly fun _ s' => s' = s.moveTo s.cursor.next := by
  have hprimary (n : Nat) (env : Env) :
      (primary n env s).Cleanly fun _ s' => s' = s.moveTo s.cursor.next := by
    cases n with
    | zero => exact .exhausted
    | succ n =>
      rw [primary]
      simp only [current_bind, hk]
      exact .done fun _ => rfl
  have hunary (n : Nat) (env : Env) :
      (unary n env s).Cleanly fun _ s' => s' = s.moveTo s.cursor.next := by
    cases n with
    | zero => exact .exhausted
    | succ n =>
      rw [unary]
      simp only [current_bind, hk, reduceCtorEq, decide_false, Bool.false_and, Bool.false_eq_true,
        if_false]
      refine (hprimary n env).bind ?_
      rintro e _ _ rfl
      exact suffixes_of_stops n e h
  cases n with
  | zero => exact .exhausted
  | succ n =>
    change (binary (n + 1) 0 _ s).Cleanly _
    rw [binary]
    refine (hunary n _).bind ?_
    rintro e _ _ rfl
    exact operations_of_stops n 0 e h

theorem operations_simulates (ih : ExpressionsSimulate d limit words n) (least : Nat)
    (lhs : Expr) : Simulates d limit words (operations (n + 1) least lhs) := by
  intro env env' s t halike h
  rw [operations]
  simp only [current_bind]
  by_cases hk : s.cursor.focus.kind = .symbol
  · have hnext := h.next (by rw [hk]; rfl) (by rw [hk]; decide)
    rw [(h.understood (by rw [hk]; rfl)).1]
    cases operatorLevel? s.cursor.focus with
    | none => exact .done h
    | some level =>
      dsimp only
      split
      · exact .done h
      · simp only [advance_bind, skipNewlines, skip_bind]
        exact .bind (ih.binary _ halike hnext.skipNewlines) fun rhs s' t' h' =>
          ih.operations _ _ halike h'
  · -- Neither a keyword nor a word is an operator.
    have hk' : t.cursor.focus.kind ≠ .symbol := mt (h.kind_eq_iff .symbol rfl (by decide)).1 hk
    simp only [operatorLevel?, hk, hk', if_false]
    exact .done h

theorem unary_simulates (ih : ExpressionsSimulate d limit words n) :
    Simulates d limit words (unary (n + 1)) := by
  intro env env' s t halike h
  have hoperand : Outcome.Follows d limit words Never ((primary n >>= suffixes n) env s)
      ((primary n >>= suffixes n) env' t) :=
    .bind (ih.primary halike h) fun e s' t' h' => ih.suffixes e halike h'
  rw [unary]
  simp only [current_bind]
  by_cases hk : s.cursor.focus.kind = .symbol
  · have hnext := h.next (by rw [hk]; rfl) (by rw [hk]; decide)
    rw [(h.understood (by rw [hk]; rfl)).1]
    split
    · simp only [advance_bind]
      exact .bind (ih.unary halike hnext) fun operand s' t' h' => .done h'
    · exact hoperand
  · have hk' : t.cursor.focus.kind ≠ .symbol := mt (h.kind_eq_iff .symbol rfl (by decide)).1 hk
    simp only [hk, hk', decide_false, Bool.false_and, Bool.false_eq_true, if_false]
    exact hoperand

theorem suffixes_simulates (ih : ExpressionsSimulate d limit words n) (e : Expr) :
    Simulates d limit words (suffixes (n + 1) e) := by
  intro env env' s t halike h
  rw [suffixes]
  simp only [currentKind_bind]
  obtain ⟨hsame, hnoticed⟩ | ⟨hword, _⟩ := h.cases
  · rw [hsame]
    generalize hk : s.cursor.focus.kind = kind
    split
    · have hnext := hnoticed.next (by rw [hk]; decide)
      simp only [advance_bind]
      exact .bind (ih.sequence .rightParen rfl (by decide) halike hnext) fun args s' t' h' =>
        ih.suffixes _ halike h'
    · have hnext := hnoticed.next (by rw [hk]; decide)
      simp only [advance_bind]
      exact .expectName hnext fun field h' => ih.suffixes _ halike h'
    · exact .done h
  · -- Behind an expression neither of them is read.
    have hkeyword := hword.startsDeclaration
    rw [hword.kind]
    generalize s.cursor.focus.kind = kind at hkeyword
    split
    · cases hkeyword
    · cases hkeyword
    · exact .done h

theorem startsDeclaration_of_isSilent {kind : Kind} (h : kind.isSilent = true) :
    kind.startsDeclaration = false ∧ kind ≠ .text := by
  revert h
  cases kind <;> decide

theorem listRound_simulates {p : Parser α} (hp : Simulates d limit words p) {close : Kind}
    (hclose : close.isSilent = true) (hne : close ≠ .eof) :
    Simulates d limit words (listRound p close) := by
  intro env env' s t halike h
  obtain ⟨hstarts, htext⟩ := startsDeclaration_of_isSilent hclose
  simp only [listRound, skipNewlines, skip_bind]
  refine .eat hstarts ⟨htext, hne⟩ h.skipNewlines (fun h' => .done h') ?_
  refine .bind (hp halike h.skipNewlines) fun a s' t' h' => ?_
  simp only [skip_bind]
  refine .eat (by decide) (by decide) h'.skipNewlines (fun h'' => .done h'') ?_
  exact .expect hstarts hne h'.skipNewlines fun _ h'' => .done h''

theorem primary_simulates (ih : ExpressionsSimulate d limit words n) :
    Simulates d limit words (primary (n + 1)) := by
  intro env env' s t halike h
  obtain ⟨hsame, hnoticed⟩ | ⟨hword, _⟩ := h.cases
  · rw [primary]
    simp only [current_bind]
    rw [hsame]
    generalize hk : s.cursor.focus.kind = kind
    have hnext (hne : kind ≠ .eof) := hnoticed.next (hk ▸ hne)
    split
    iterate 5 exact .done (hnext (by decide))
    · simp only [advance_bind, skipNewlines, skip_bind]
      refine .bind (ih.binary 0 halike (hnext (by decide)).skipNewlines) fun inner s' t' h' => ?_
      simp only [skip_bind]
      exact .expect (by decide) (by decide) h'.skipNewlines fun _ h'' => .done h''
    · simp only [advance_bind]
      exact .bind (ih.sequence .rightBracket rfl (by decide) halike (hnext (by decide)))
        fun items s' t' h' => .done h'
    · split
      · simp only [coded_bind]
        exact .report h
      · exact .failed
  · -- A keyword is no expression, so the first run fails.
    exact primary_of_stops _ hword.startsDeclaration

theorem expressions_simulate (n : Nat) : ExpressionsSimulate d limit words n := by
  induction n with
  | zero =>
    exact ⟨fun _ => exhausted_simulates, fun _ _ => exhausted_simulates, exhausted_simulates,
      fun _ => exhausted_simulates, fun _ _ _ => exhausted_simulates, exhausted_simulates⟩
  | succ n ih =>
    refine ⟨fun least env env' s t halike h => ?_, operations_simulates ih, unary_simulates ih,
      suffixes_simulates ih, fun close hclose hne env env' s t halike h => ?_,
      primary_simulates ih⟩
    · exact .bind (ih.unary halike h) fun lhs s' t' h' => ih.operations least lhs halike h'
    · rw [sequence_succ]
      exact .again (listRound_simulates (ih.binary 0) hclose hne halike h) fun h' =>
        ih.sequence close hclose hne halike h'

theorem expression_simulates (n : Nat) : Simulates d limit words (expression n) :=
  Simulates.within ((expressions_simulate n).binary 0) _

/-! ## Statements -/

theorem expectName_simulates : Simulates d limit words expectName := by
  intro env env' s t _ h
  rw [← bind_pure expectName]
  exact .expectName h fun _ h' => .done h'

theorem paramList_simulates (n : Nat) : Simulates d limit words (paramList n) := by
  induction n with
  | zero => exact exhausted_simulates
  | succ n ih =>
    intro env env' s t halike h
    rw [paramList_succ]
    exact .again (listRound_simulates expectName_simulates rfl (by decide) halike h) fun h' =>
      ih halike h'

theorem params_simulates (n : Nat) : Simulates d limit words (params n) := by
  intro env env' s t halike h
  exact .eat (by decide) (by decide) h (fun h' => paramList_simulates n halike h') (.done h)

/-- The parsers of statements, called to the depth `n`, do the same on both lists. A result
    of a condition may end at a keyword: then what it belongs to does not end there. -/
structure StatementsSimulate (d : Dictionary) (limit : Nat) (words : List Token) (n : Nat) :
    Prop where
  statementAs : ∀ {env env' s t}, Alike d limit env env' → Understood d limit words s t →
    Outcome.Follows d limit words Never (statementAs n s.cursor.focus.kind env s)
      (statementAs n s.cursor.focus.kind env' t)
  clause : ∀ {env env' s t}, Alike d limit env env' → Understood d limit words s t →
    Outcome.Follows d limit words Stops (clause n s.cursor.focus.kind env s)
      (clause n s.cursor.focus.kind env' t)
  conditional : ∀ {env env' s t}, Alike d limit env env' → Understood d limit words s t →
    s.cursor.focus.kind ≠ .eof →
    Outcome.Follows d limit words Stops (conditional n env s) (conditional n env' t)
  branch : ∀ {env env' s t}, Alike d limit env env' → Beside d limit words s t →
    Outcome.Follows d limit words Stops (branch n env s) (branch n env' t)
  callable : ∀ form {env env' s t}, Alike d limit env env' → Understood d limit words s t →
    s.cursor.focus.kind ≠ .eof →
    Outcome.Follows d limit words Never (callable n form env s) (callable n form env' t)
  blockBody : ∀ opened, Simulates d limit words (blockBody n opened)
  statement : Simulates d limit words (statement n)

theorem endStatement_of_stops {f : Unit → Parser α} {Q : α → State → Prop} (h : Stops s) :
    ((endStatement >>= f) env s).Cleanly Q := by
  have hends : ¬ s.cursor.focus.kind.endsStatement = true := by
    intro hends
    have := startsDeclaration_of_endsStatement hends
    rw [Stops, this] at h
    cases h
  rw [endStatement_bind, if_neg hends]
  exact .failed _

theorem statementAs_simulates (ih : StatementsSimulate d limit words n)
    (halike : Alike d limit env env') (h : Understood d limit words s t) :
    Outcome.Follows d limit words Never (statementAs (n + 1) s.cursor.focus.kind env s)
      (statementAs (n + 1) s.cursor.focus.kind env' t) := by
  have hclause := ih.clause halike h
  generalize hk : s.cursor.focus.kind = kind at hclause
  have hcallable (form : Callable.Form) (hne : kind ≠ .eof) := ih.callable form halike h (hk ▸ hne)
  unfold statementAs
  split
  · exact .bind (hcallable .function nofun) fun c s' t' h' => .done h'
  · exact .bind (hcallable .component nofun) fun c s' t' h' => .done h'
  · refine .bind_or hclause (fun a s' t' h' => ?_) fun a s' _ hstops o => ?_
    · exact .endStatement h' (.done h')
    · exact endStatement_of_stops hstops

/-- A name, an equals sign and a value, as they follow a keyword. -/
theorem binding_simulates (n : Nat) (f : String → Expr → Statement) :
    Simulates d limit words (do
      let name ← expectName
      let _ ← expect .equals
      let value ← expression n
      return f name value) := by
  intro env env' s t halike h
  refine .expectName h fun name h₁ => .expect (by decide) (by decide) h₁ fun _ h₂ => ?_
  exact .bind (expression_simulates n halike h₂) fun value s' t' h' => .done h'

theorem Outcome.Follows.or_stops {o o' : Outcome α} (h : Follows d limit words Never o o') :
    Follows d limit words Stops o o' :=
  Cleanly.mono h fun _ _ _ h => .inr (h.resolve_left id)

theorem expression_bind_of_stops {P : State → Prop} (n : Nat) {f : Expr → Parser α}
    [∀ e, Records (f e)] {o : Outcome α} (h : Stops s) :
    Outcome.Follows d limit words P ((expression n >>= f) env s) o :=
  .of_cleanly ((expression_of_stops (Q := fun _ _ => False) n h).bind fun _ _ _ h => h.elim)

theorem clause_simulates (ih : StatementsSimulate d limit words n)
    (halike : Alike d limit env env') (h : Understood d limit words s t) :
    Outcome.Follows d limit words Stops (clause (n + 1) s.cursor.focus.kind env s)
      (clause (n + 1) s.cursor.focus.kind env' t) := by
  have hbeside := h.beside
  have hstops : s.cursor.focus.kind.startsDeclaration = true → Stops s := id
  generalize hk : s.cursor.focus.kind = kind at hbeside hstops
  have hnext (hne : kind ≠ .eof) := h.next (hk ▸ hne)
  rw [clause]
  simp only [currentLine_bind, h.position_eq]
  split
  · simp only [advance_bind]
    exact .or_stops (binding_simulates n _ halike (hnext (by decide)))
  · simp only [advance_bind]
    exact .or_stops (binding_simulates n _ halike (hnext (by decide)))
  · exact ih.conditional halike h (hk ▸ by decide)
  · simp only [advance_bind, currentKind_bind]
    have h' := hnext (by decide)
    rw [h'.endsStatement_eq, h'.decide_kind_eq .elseKw rfl (by decide)]
    split
    · exact .done h'
    · exact .bind (expression_simulates n halike h') fun value s' t' h'' => .done h''
  · simp only [advance_bind]
    exact .bind (expression_simulates n halike (hnext (by decide))) fun value s' t' h' => .done h'
  · simp only [advance_bind]
    exact .bind (Simulates.within (ih.blockBody _) _ halike (hnext (by decide)))
      fun body s' t' h' => .done h'
  iterate 3 exact .failed
  · cases hstarts : kind.startsDeclaration with
    | false =>
      exact .bind (expression_simulates n halike (hbeside hstarts)) fun value s' t' h' => .done h'
    | true => exact expression_bind_of_stops n (hstops hstarts)

/-- The condition and the keyword behind it. -/
theorem condition_simulates (n : Nat) :
    Simulates d limit words (do
      let next ← currentKind
      let condition ←
        if next = .thenKw || next.endsStatement then do
          report (← coded .invalidWhen .error "Missing condition after 'when'")
          pure Expr.missing
        else expression n
      delimiter .thenKw
      return condition) := by
  intro env env' s t halike h
  simp only [currentKind_bind]
  rw [h.endsStatement_eq, h.decide_kind_eq .thenKw rfl nofun]
  split
  · simp only [coded_bind]
    exact .report h
  · refine .bind (expression_simulates n halike h) fun condition s' t' h' => ?_
    exact .delimiter (by decide) (by decide) h' fun h'' => .done h''

theorem conditional_simulates (ih : StatementsSimulate d limit words n)
    (halike : Alike d limit env env') (h : Understood d limit words s t)
    (hne : s.cursor.focus.kind ≠ .eof) :
    Outcome.Follows d limit words Stops (conditional (n + 1) env s)
      (conditional (n + 1) env' t) := by
  rw [conditional]
  simp only [currentLine_bind, advance_bind, h.position_eq]
  refine .bind (Simulates.within (condition_simulates n) _ halike (h.next hne))
    fun condition s₁ t₁ h₁ => ?_
  refine .bind_or (ih.branch halike h₁) (fun result s₂ t₂ h₂ => ?_) fun result s₂ _ hstops o => ?_
  · refine .eat (by decide) (by decide) h₂ (fun h₃ => ?_) (.done h₂)
    refine .bind_or (ih.branch halike h₃) (fun otherwise s₄ t₄ h₄ => .done h₄)
      fun otherwise s₄ _ hstops o => ?_
    exact .of_cleanly (.done fun _ => hstops)
  · -- Before a keyword there is no other result, and the statement does not end.
    rw [eat_bind, if_neg (hstops.kind_ne .elseKw rfl)]
    exact .of_cleanly (.done fun _ => hstops)

/-- A word before a keyword is a clause of its own, and ends at the keyword. -/
theorem clause_of_text (n : Nat) (hk : s.cursor.focus.kind = .text)
    (h : Stops (s.moveTo s.cursor.next)) : (clause n .text env s).Cleanly fun _ s' => Stops s' := by
  cases n with
  | zero => exact .exhausted
  | succ n =>
    rw [clause]
    simp only [currentLine_bind]
    refine (expression_of_text n hk h).bind ?_
    rintro value _ _ rfl
    exact .done fun _ => h

/-- So it is no statement. -/
theorem statementAs_of_text {Q : Statement → State → Prop} (n : Nat)
    (hk : s.cursor.focus.kind = .text) (h : Stops (s.moveTo s.cursor.next)) :
    (statementAs n .text env s).Cleanly Q := by
  cases n with
  | zero => exact .exhausted
  | succ n =>
    unfold statementAs
    exact (clause_of_text n hk h).bind fun a s' _ hstops => endStatement_of_stops hstops

theorem branch_simulates (ih : StatementsSimulate d limit words n)
    (halike : Alike d limit env env') (h : Beside d limit words s t) :
    Outcome.Follows d limit words Stops (branch (n + 1) env s) (branch (n + 1) env' t) := by
  rw [branch]
  simp only [current_bind, h.endsStatement_eq]
  split
  · simp only [lastErrorPosition_bind, h.ready.clean.errors, List.head?_nil, Option.map_none,
      reduceCtorEq, if_false, coded_bind]
    exact .report h
  · exact .effectiveKind (fun _ => inferInstance) halike h (fun t' h' => ih.clause halike h')
      fun hk hstops o => .of_cleanly (clause_of_text n hk hstops)

theorem callable_simulates (ih : StatementsSimulate d limit words n) (form : Callable.Form)
    (halike : Alike d limit env env') (h : Understood d limit words s t)
    (hne : s.cursor.focus.kind ≠ .eof) :
    Outcome.Follows d limit words Never (callable (n + 1) form env s)
      (callable (n + 1) form env' t) := by
  have h₁ := h.next hne
  have halike := halike.within form.construct
  rw [callable]
  simp only [currentLine_bind, advance_bind, h.position_eq]
  change Outcome.Follows d limit words Never (within _ _ env _) (within _ _ env' _)
  rw [within_apply, within_apply]
  simp only [currentKind_bind]
  by_cases hk : (s.moveTo s.cursor.next).cursor.focus.kind = .text
  · rw [(h₁.understood (by rw [hk]; rfl)).1]
    simp only [hk, ne_eq, not_true, if_false]
    refine .expectName h₁ fun name h₂ => ?_
    refine .bind (params_simulates n halike h₂) fun params s₃ t₃ h₃ => ?_
    refine .delimiter (by decide) (by decide) h₃ fun h₄ => ?_
    exact .bind (Simulates.within (ih.blockBody _) _ halike h₄) fun body s₅ t₅ h₅ => .done h₅
  · rw [if_pos hk]
    exact .failed

theorem blockRound_simulates {p : Parser Statement} (hreads : Reads p Statement.reading)
    (hp : Simulates d limit words p) (opened : Nat) :
    Simulates d limit words (blockRound p opened) := by
  intro env env' s t halike h
  have h' := h.skipSeparators
  simp only [blockRound, skipSeparators, skip_bind, halted_bind]
  simp only [h'.room_ne_zero.1, h'.room_ne_zero.2, decide_false, Bool.false_eq_true, if_false,
    current_bind]
  have hstatement {fallback : Statement} :
      Outcome.Follows d limit words Never
        ((guarded p fallback >>= fun found => pure ([found], true)) env _)
        ((guarded p fallback >>= fun found => pure ([found], true)) env' _) :=
    .bind (.guarded hreads h' (hp halike h')) fun found s₁ t₁ h₁ => .done h₁
  obtain ⟨hsame, hnoticed⟩ | ⟨hword, _⟩ := h'.cases
  · rw [hsame]
    generalize hk : (s.moveTo _).cursor.focus.kind = kind
    split
    · exact .done (hnoticed.next (by rw [hk]; decide))
    · simp only [coded_bind]
      exact .report h'
    · exact hstatement
  · -- Both a keyword and a word start a statement.
    have hkeyword := hword.startsDeclaration
    rw [hword.kind, hword.position]
    generalize (s.moveTo _).cursor.focus.kind = kind at hkeyword
    split
    · cases hkeyword
    · cases hkeyword
    · exact hstatement

theorem statements_simulate (n : Nat) : StatementsSimulate d limit words n := by
  induction n with
  | zero =>
    exact ⟨fun _ _ => .exhausted, fun _ _ => .exhausted, fun _ _ _ => .exhausted,
      fun _ _ => .exhausted, fun _ _ _ _ _ _ _ _ => .exhausted, fun _ => exhausted_simulates,
      exhausted_simulates⟩
  | succ n ih =>
    refine ⟨statementAs_simulates ih, clause_simulates ih, conditional_simulates ih,
      branch_simulates ih, fun form _ _ _ _ => callable_simulates ih form,
      fun opened env env' s t halike h => ?_, fun {env env' s t} halike h => ?_⟩
    · rw [blockBody_succ]
      exact .again (blockRound_simulates (statements_read n).statement ih.statement opened halike h)
        fun h' => ih.blockBody opened halike h'
    · exact .effectiveKind (fun _ => inferInstance) halike h
        (fun t' h' => ih.statementAs halike h') fun hk hstops o => statementAs_of_text n hk hstops

/-! ## Programs -/

theorem argRound_simulates (n : Nat) : Simulates d limit words (argRound (expression n)) := by
  intro env env' s t halike h
  simp only [argRound, currentKind_bind, h.endsStatement_eq]
  split
  · exact .done h
  · simp only [cursor_bind, h.index_eq]
    refine .bind (expression_simulates n halike h) fun e s' t' h' => ?_
    simp only [cursor_bind, h'.index_eq]
    split
    · exact .failed
    · exact .eat (by decide) (by decide) h' (fun h'' => .done h'') (.done h')

theorem directiveArgs_simulates (n : Nat) : Simulates d limit words (directiveArgs n) := by
  induction n with
  | zero => exact exhausted_simulates
  | succ n ih =>
    intro env env' s t halike h
    rw [directiveArgs_succ]
    exact .again (argRound_simulates n halike h) fun h' => ih halike h'

theorem directive_simulates (n : Nat) (halike : Alike d limit env env')
    (h : Understood d limit words s t) (hk : s.cursor.focus.kind = .directive) :
    Outcome.Follows d limit words Never (directive n env s) (directive n env' t) := by
  have hbeside := h.beside (by rw [hk]; rfl)
  have hrest : Outcome.Follows d limit words Never (directiveRest n s.cursor.focus env s)
      (directiveRest n s.cursor.focus env' t) := by
    simp only [directiveRest, advance_bind]
    refine .bind (Simulates.within (directiveArgs_simulates n) _ halike
      (h.next (by rw [hk]; decide))) fun args s' t' h' => ?_
    exact .endStatement h' (.done h')
  rw [directive]
  simp only [current_bind, scene_bind, h.focus (by rw [hk]; rfl), halike.dictionary]
  split
  · exact hrest
  · simp only [scene_bind, context_bind]
    exact .report hbeside

theorem importItem_simulates (h : Understood d limit words s t)
    (hne : s.cursor.focus.kind ≠ .eof) :
    Outcome.Follows d limit words Never (importItem env s) (importItem env' t) := by
  have h' := h.next hne
  simp only [importItem, currentLine_bind, advance_bind, current_bind, h.position_eq]
  obtain ⟨hsame, hnoticed⟩ | ⟨hword, _⟩ := h'.cases
  · rw [hsame]
    generalize hk : (s.moveTo s.cursor.next).cursor.focus.kind = kind
    split
    iterate 2
      have h'' := hnoticed.next (by rw [hk]; decide)
      exact .endStatement h'' (.done h'')
    · exact .failed
  · -- A keyword is no path.
    have hkeyword := hword.startsDeclaration
    generalize (s.moveTo s.cursor.next).cursor.focus.kind = kind at hkeyword
    cases kind <;> first | exact .failed | cases hkeyword

theorem exportItem_simulates (n : Nat) (halike : Alike d limit env env')
    (h : Understood d limit words s t) (hne : s.cursor.focus.kind ≠ .eof) :
    Outcome.Follows d limit words Never (exportItem n env s) (exportItem n env' t) := by
  simp only [exportItem, currentLine_bind, advance_bind, h.position_eq]
  refine .effectiveKind (fun kind => by split <;> infer_instance) halike (h.next hne)
    (fun t' h' => ?_) fun _ _ _ => .failed
  have hcallable (form : Callable.Form) (hne : (s.moveTo s.cursor.next).cursor.focus.kind ≠ .eof) :=
    (statements_simulate n).callable form halike h' hne
  generalize (s.moveTo s.cursor.next).cursor.focus.kind = kind at hcallable
  split
  · exact .bind (hcallable .function (by decide)) fun c s' t' h' => .done h'
  · exact .bind (hcallable .component (by decide)) fun c s' t' h' => .done h'
  · exact .failed

theorem item_simulates (n : Nat) : Simulates d limit words (item n) := by
  intro env env' s t halike h
  rw [item]
  refine .effectiveKind (fun kind => by split <;> infer_instance) halike h (fun t' h' => ?_)
    fun hk hstops o => ?_
  · have hcallable (form : Callable.Form) (hne : s.cursor.focus.kind ≠ .eof) :=
      (statements_simulate n).callable form halike h' hne
    have hstatement := (statements_simulate n).statementAs halike h'
    generalize hk : s.cursor.focus.kind = kind at hcallable hstatement
    split
    · exact directive_simulates n halike h' hk
    · exact .bind (hcallable .function (by decide)) fun c s' t' h' => .done h'
    · exact .bind (hcallable .component (by decide)) fun c s' t' h' => .done h'
    · exact importItem_simulates h' (by rw [hk]; decide)
    · exact exportItem_simulates n halike h' (by rw [hk]; decide)
    · exact .failed
    · exact .bind hstatement fun a s' t' h' => .done h'
  · exact .of_cleanly ((statementAs_of_text (Q := fun _ _ => False) n hk hstops).bind
      fun _ _ _ h => h.elim)

theorem itemRound_simulates (n : Nat) : Simulates d limit words (itemRound (item n)) := by
  intro env env' s t halike h
  have h' := h.skipSeparators
  simp only [itemRound, skipSeparators, skip_bind, halted_bind, currentKind_bind]
  rw [h'.decide_kind_eq .eof rfl (by decide), decide_eq_false h'.room_ne_zero.1,
    decide_eq_false h'.room_ne_zero.2]
  split
  · exact .done h'
  · have hitem := Simulates.some (item_simulates n) halike h'
    exact .bind (.guarded (item_reads n).some h' hitem) fun found s' t' h'' => .done h''

theorem items_simulate (n : Nat) : Simulates d limit words (items n) := by
  induction n with
  | zero => exact exhausted_simulates
  | succ n ih =>
    intro env env' s t halike h
    rw [items_succ]
    exact .again (itemRound_simulates n halike h) fun h' => ih halike h'

/-- A list that is parsed without an error is parsed to the same items if keywords in it
    are misspelled, as long as the words in their stead can be taken for them. The errors
    are one warning about each of these words, in their order. -/
theorem parse_misspelled {dictionary : Dictionary} {settings : Settings}
    {tokens tokens' words : List Token} {found : List Item} (source source' : Option String)
    (hlast : tokens.getLast?.map (·.kind) = some .eof)
    (hsingle : ∀ t ∈ tokens.dropLast, t.kind ≠ .eof)
    (hparse : parse tokens source dictionary settings = .ok ⟨found, []⟩)
    (hmisspelled : Misspells dictionary settings.maxEditDistance tokens tokens' words)
    (hcap : words.length < settings.maxErrors) :
    ∃ errors, parse tokens' source' dictionary settings = .ok ⟨found, errors⟩ ∧
      Warns errors words := by
  have hroom : 0 < settings.maxErrors := Nat.lt_of_le_of_lt (Nat.zero_le _) hcap
  obtain ⟨c, found₁, s, hc, hready, hdone, hparse₁, hclean⟩ :=
    exists_run source dictionary hlast hroom
  obtain ⟨c', found₂, t, hc', _, hdone', hparse₂, _⟩ :=
    exists_run source' dictionary (hmisspelled.getLast?_eq.symm ▸ hlast) hroom
  obtain ⟨rfl, herrors⟩ : found₁ = found ∧ s.errors.reverse = [] := by
    rw [hparse₁] at hparse
    simpa using hparse
  have hclean := hclean herrors
  -- Both runs start at the same place, with all warnings still to come.
  have halike : Alike dictionary settings.maxEditDistance (.start source dictionary settings)
      (.start source' dictionary settings) := ⟨⟨rfl, rfl⟩, ⟨rfl, rfl⟩⟩
  have hstart : Beside dictionary settings.maxEditDistance words (.start c settings)
      (.start c' settings) := by
    have hawaits : Awaits words words (.start c' settings) :=
      ⟨⟨[], ⟨rfl, fun e he => absurd he List.not_mem_nil⟩, rfl⟩, hcap⟩
    cases hmisspelled with
    | nil => cases hc
    | keep _ h =>
      cases hc
      cases hc'
      exact ⟨hready, rfl, words, hawaits, .keep _ h⟩
    | replace hword hnext hline hkind h =>
      cases hc
      cases hc'
      exact ⟨hready, rfl, _, hawaits, .replace hword hnext hline hkind h⟩
  rw [hmisspelled.length_eq] at hdone'
  obtain hnever | ⟨t', ht', hend⟩ := items_simulate _ halike hstart _ _ hdone hclean
  · exact hnever.elim
  rw [hdone'] at ht'
  cases ht'
  refine ⟨_, hparse₂, ?_⟩
  -- No warning is still to come at the end of the input.
  obtain ⟨hle, heof, _⟩ := items_read _ hready _ _ hdone hclean
  have hahead : s.cursor.ahead = [] := by
    refine Cursor.ahead_eq_nil ?_ heof
    rw [← hle.1]
    exact (Cursor.tokens_ofList? hc).symm ▸ hsingle
  obtain ⟨coming, hawaits, hcoming⟩ := hend.ahead
  rw [hahead] at hcoming
  obtain ⟨passed, hwarns, hpassed⟩ := hawaits.warns
  obtain rfl : coming = [] := by
    generalize s.cursor.focus = last, t.cursor.focus = last', t.cursor.ahead = rest at hcoming
    cases hcoming with
    | keep _ h =>
      cases h
      rfl
    | replace _ hnext _ _ h =>
      cases h
      cases hnext
  rw [List.append_nil] at hpassed
  exact hpassed ▸ hwarns

/-- A function in which the keyword of the function itself, of a binding and of the return
    are misspelled. -/
theorem parse_misspelled_of_function : ∃ dictionary, ∃ tokens tokens' words : List Token,
    ∃ found errors,
    tokens.getLast?.map (·.kind) = some .eof ∧ (∀ t ∈ tokens.dropLast, t.kind ≠ .eof) ∧
    parse tokens none dictionary {} = .ok ⟨found, []⟩ ∧
    Misspells dictionary ({} : Settings).maxEditDistance tokens tokens' words ∧
    words.length < ({} : Settings).maxErrors ∧
    words.map (·.text) = ["functon", "lett", "retrun"] ∧
    found = [.declaration ⟨.function, "f", [],
      [.letBinding "x" (.number "1") 2, .ret (some (.ident "x")) 3], 1⟩] ∧
    parse tokens' none dictionary {} = .ok ⟨found, errors⟩ ∧ Warns errors words := by
  let dictionary : Dictionary :=
    { keywords := ["function", "let", "return"]
      misspellings := SortedMap.empty.insert "retrun" "return" }
  let tokens (function binding back : Token) : List Token :=
    [function, ⟨.text, "f", ⟨1, 10⟩⟩, ⟨.leftBrace, "\x7b", ⟨1, 12⟩⟩, ⟨.newline, "\n", ⟨1, 13⟩⟩,
     binding, ⟨.text, "x", ⟨2, 7⟩⟩, ⟨.equals, "=", ⟨2, 9⟩⟩, ⟨.number, "1", ⟨2, 11⟩⟩,
     ⟨.newline, "\n", ⟨2, 12⟩⟩, back, ⟨.text, "x", ⟨3, 8⟩⟩, ⟨.newline, "\n", ⟨3, 9⟩⟩,
     ⟨.rightBrace, "\x7d", ⟨4, 1⟩⟩, .eof ⟨4, 2⟩]
  let right := tokens ⟨.functionKw, "function", ⟨1, 1⟩⟩ ⟨.letKw, "let", ⟨2, 1⟩⟩
    ⟨.returnKw, "return", ⟨3, 1⟩⟩
  let words : List Token := [⟨.text, "functon", ⟨1, 1⟩⟩, ⟨.text, "lett", ⟨2, 1⟩⟩,
    ⟨.text, "retrun", ⟨3, 1⟩⟩]
  have hcorrection : words.map (dictionary.correction? ·.text 2) =
      [some ⟨"function", 1⟩, some ⟨"let", 1⟩, some ⟨"return", 0⟩] := by decide +kernel
  obtain ⟨hfunction, hlet, hreturn⟩ := by simpa [words] using hcorrection
  have hmisspelled : Misspells dictionary 2 right (tokens words[0] words[1] words[2]) words := by
    refine .replace ⟨rfl, rfl, rfl, _, hfunction, rfl⟩ rfl rfl (.inl rfl) ?_
    refine .keep _ <| .keep _ <| .keep _ ?_
    refine .replace ⟨rfl, rfl, rfl, _, hlet, rfl⟩ rfl rfl (.inl rfl) ?_
    refine .keep _ <| .keep _ <| .keep _ <| .keep _ ?_
    refine .replace ⟨rfl, rfl, rfl, _, hreturn, rfl⟩ rfl rfl (.inl rfl) ?_
    exact .keep _ <| .keep _ <| .keep _ <| .keep _ .nil
  have hparse : parse right none dictionary {} = .ok ⟨[.declaration ⟨.function, "f", [],
      [.letBinding "x" (.number "1") 2, .ret (some (.ident "x")) 3], 1⟩], []⟩ := by cbv
  have hsingle : ∀ t ∈ right.dropLast, t.kind ≠ .eof := by decide
  obtain ⟨errors, hparse', hwarns⟩ :=
    parse_misspelled none none rfl hsingle hparse hmisspelled (show 3 < 50 by decide)
  exact ⟨dictionary, right, _, words, _, errors, rfl, hsingle, hparse, hmisspelled, by decide, rfl,
    rfl, hparse', hwarns⟩

end SunLint.Parser
