import SunLint.Proofs.Parser.Clean
import SunLint.Proofs.Tree.Reading

/-!
# Clean runs lose nothing

In a clean run, what a parser comes to is read like the tokens that it has passed: every
word, literal, operator and keyword among them is in the result, once and in its place,
and the result has no gaps.

* `HasRead`: what has been read since a cursor was at a place;
* `Reads`: a parser moves on in clean runs, and its result is read like the tokens it
  passes.
-/

namespace SunLint.Parser

variable {α β : Type} {env : Env} {s s' : State} {c : Cursor} {r r' : Reading}

/-- The run has been clean so far, in a list that ends with the end of the input. -/
structure Ready (s : State) : Prop where
  clean : s.IsClean
  terminated : s.cursor.IsTerminated

/-- In a run that has been clean, the parser has moved on from the cursor `c` to the state
    `s`, and the tokens in between read `r`. -/
structure HasRead (c : Cursor) (r : Reading) (s : State) : Prop where
  clean : s.IsClean
  terminated : c.IsTerminated
  lt : c < s.cursor
  reading : c.reading = r ++ s.cursor.reading

theorem Ready.of_le (h : Ready s) (hs' : s'.IsClean) (hle : s.cursor ≤ s'.cursor) : Ready s' :=
  ⟨hs', h.terminated.of_le hle⟩

/-- A token has been read. -/
theorem Ready.next (h : Ready s) (hk : s.cursor.focus.kind ≠ .eof) :
    HasRead s.cursor s.cursor.focus.reading (s.moveTo s.cursor.next) where
  clean := h.clean.moveTo _
  terminated := h.terminated
  lt := h.terminated.lt_next hk
  reading := Cursor.reading_next (h.terminated.ahead_ne_nil hk)

/-- A keyword has been read. -/
theorem Ready.keyword (h : Ready s) {word : String}
    (hk : s.cursor.focus.kind.spelling? = some word) :
    HasRead s.cursor [some word] (s.moveTo s.cursor.next) := by
  have hne : s.cursor.focus.kind ≠ .eof := by
    intro heof
    rw [heof] at hk
    cases hk
  exact Token.reading_of_keyword hk ▸ h.next hne

/-- A token has been read as it is written. -/
theorem Ready.verbatim (h : Ready s)
    (hk : s.cursor.focus.kind ∈ [Kind.text, .number, .symbol, .directive]) :
    HasRead s.cursor [some s.cursor.focus.text] (s.moveTo s.cursor.next) := by
  have hne : s.cursor.focus.kind ≠ .eof := by
    intro heof
    rw [heof] at hk
    simp at hk
  exact Token.reading_of_verbatim hk ▸ h.next hne

theorem isSilent_of_isSeparator (kind : Kind)
    (h : (decide (kind = .newline) || decide (kind = .semicolon)) = true) :
    kind.isSilent = true := by
  rw [Bool.or_eq_true, decide_eq_true_eq, decide_eq_true_eq] at h
  obtain rfl | rfl := h <;> rfl

namespace HasRead

theorem ready (h : HasRead c r s) : Ready s := ⟨h.clean, h.terminated.of_le h.lt.le⟩

theorem cast (h : HasRead c r s) (hr : r = r') : HasRead c r' s := hr ▸ h

theorem trans (h : HasRead c r s) (h' : HasRead s.cursor r' s') : HasRead c (r ++ r') s' where
  clean := h'.clean
  terminated := h.terminated
  lt := h.lt.trans h'.lt
  reading := by rw [h.reading, h'.reading, List.append_assoc]

theorem keyword (h : HasRead c r s) {word : String}
    (hk : s.cursor.focus.kind.spelling? = some word) :
    HasRead c (r ++ [some word]) (s.moveTo s.cursor.next) :=
  h.trans (h.ready.keyword hk)

theorem verbatim (h : HasRead c r s)
    (hk : s.cursor.focus.kind ∈ [Kind.text, .number, .symbol, .directive]) :
    HasRead c (r ++ [some s.cursor.focus.text]) (s.moveTo s.cursor.next) :=
  h.trans (h.ready.verbatim hk)

/-- A silent token has been passed. -/
theorem pass (h : HasRead c r s) (hk : s.cursor.focus.kind.isSilent = true) :
    HasRead c r (s.moveTo s.cursor.next) where
  clean := h.clean.moveTo _
  terminated := h.terminated
  lt := h.lt.trans_le s.cursor.le_next
  reading := by rw [State.cursor_moveTo, Cursor.reading_next_of_isSilent hk, h.reading]

theorem skip (h : HasRead c r s) {p : Kind → Bool}
    (hp : ∀ kind, p kind = true → kind.isSilent = true) :
    HasRead c r (s.moveTo (s.cursor.skip p)) where
  clean := h.clean.moveTo _
  terminated := h.terminated
  lt := h.lt.trans_le (s.cursor.le_skip p)
  reading := by rw [State.cursor_moveTo, Cursor.reading_skip hp, h.reading]

theorem skipNewlines (h : HasRead c r s) :
    HasRead c r (s.moveTo (s.cursor.skip (· = .newline))) :=
  h.skip fun kind hk => by
    rw [of_decide_eq_true hk]
    rfl

theorem skipSeparators (h : HasRead c r s) :
    HasRead c r (s.moveTo (s.cursor.skip fun k => k = .newline || k = .semicolon)) :=
  h.skip isSilent_of_isSeparator

end HasRead

/-- Wherever it is called, in a clean run the parser moves on, and its result is read like
    the tokens it passes. -/
def Reads (p : Parser α) (reading : α → Reading) : Prop :=
  ∀ env s, Ready s → (p env s).Cleanly fun a s' => HasRead s.cursor (reading a) s'

namespace Reads

variable {p : Parser α} {f : α → Parser β} {reading : α → Reading} {Q : β → State → Prop}

/-- The parser is called first. -/
theorem first (hp : Reads p reading) [∀ a, Records (f a)] (h : Ready s)
    (hf : ∀ a s', HasRead s.cursor (reading a) s' → (f a env s').Cleanly Q) :
    ((p >>= f) env s).Cleanly Q :=
  (hp env s h).bind fun a s' _ => hf a s'

/-- The parser is called behind something else. -/
theorem step (hp : Reads p reading) [∀ a, Records (f a)] (h : HasRead c r s)
    (hf : ∀ a s', HasRead c (r ++ reading a) s' → (f a env s').Cleanly Q) :
    ((p >>= f) env s).Cleanly Q :=
  hp.first h.ready fun a s' hs' => hf a s' (h.trans hs')

theorem within (hp : Reads p reading) (construct : Construct) :
    Reads (within construct p) reading :=
  fun _ s h => hp _ s h

theorem some (hp : Reads p reading) : Reads (some <$> p) (Option.elim · [] reading) := by
  intro env s h
  rw [map_eq_pure_bind]
  exact hp.first h fun a s' hs' => .done fun _ => hs'

theorem guarded (hp : Reads p reading) {fallback : α} (h : Ready s) :
    (guarded p fallback env s).Cleanly fun a s' => HasRead s.cursor (reading a) s' := by
  have hmoves := (hp env s h).mono fun _ _ _ hs' => And.intro hs'.lt hs'
  exact (Outcome.Cleanly.guarded hmoves).mono fun _ _ _ hs' => hs'.2

end Reads

theorem exhausted_reads (reading : α → Reading) : Reads exhausted reading :=
  fun _ _ _ => .exhausted

/-! ## Expressions -/

/-- The parsers of expressions, called to the depth `n`, lose nothing. Those that go on
    from an expression have read it and what follows it. -/
structure ExpressionsRead (n : Nat) : Prop where
  binary : ∀ least, Reads (binary n least) Expr.reading
  operations : ∀ least {env s c lhs}, HasRead c (Expr.reading lhs) s →
    (operations n least lhs env s).Cleanly fun e s' => HasRead c e.reading s'
  unary : Reads (unary n) Expr.reading
  suffixes : ∀ {env s c e}, HasRead c (Expr.reading e) s →
    (suffixes n e env s).Cleanly fun e' s' => HasRead c e'.reading s'
  sequence : ∀ close, close.isSilent = true → ∀ {env s c r}, HasRead c r s →
    (sequence n close env s).Cleanly fun l s' => HasRead c (r ++ l.flatMap Expr.reading) s'
  primary : Reads (primary n) Expr.reading

variable {n : Nat}

theorem operations_reads (ih : ExpressionsRead n) (least : Nat) {lhs : Expr}
    (h : HasRead c lhs.reading s) :
    (operations (n + 1) least lhs env s).Cleanly fun e s' => HasRead c e.reading s' := by
  rw [operations]
  simp only [current_bind]
  cases hlevel : operatorLevel? s.cursor.focus with
  | none => exact .done fun _ => h
  | some level =>
    have hk : s.cursor.focus.kind = .symbol := by
      unfold operatorLevel? at hlevel
      split at hlevel
      · assumption
      · cases hlevel
    dsimp only
    split
    · exact .done fun _ => h
    · simp only [advance_bind, Parser.skipNewlines, skip_bind]
      refine (ih.binary _).step (h.verbatim (by rw [hk]; decide)).skipNewlines fun rhs s' hs' => ?_
      exact ih.operations least (hs'.cast (by rw [List.append_assoc]; rfl))

theorem unary_reads (ih : ExpressionsRead n) : Reads (unary (n + 1)) Expr.reading := by
  intro env s h
  rw [unary]
  simp only [current_bind]
  split
  · rename_i hunary
    rw [Bool.and_eq_true, decide_eq_true_eq] at hunary
    have hk := hunary.1
    simp only [advance_bind]
    exact ih.unary.step (h.verbatim (by rw [hk]; decide)) fun operand s' hs' => .done fun _ => hs'
  · exact ih.primary.first h fun e s' hs' => ih.suffixes hs'

theorem suffixes_reads (ih : ExpressionsRead n) {e : Expr} (h : HasRead c e.reading s) :
    (suffixes (n + 1) e env s).Cleanly fun e' s' => HasRead c e'.reading s' := by
  rw [suffixes]
  simp only [currentKind_bind]
  generalize hk : s.cursor.focus.kind = kind
  split
  · simp only [advance_bind]
    refine (ih.sequence .rightParen rfl (h.pass (by rw [hk]; rfl))).bind fun args s' _ hs' => ?_
    exact ih.suffixes (hs'.cast (by rw [Expr.reading, Expr.readingOfList_eq]))
  · simp only [advance_bind]
    have hdot := h.pass (by rw [hk]; rfl)
    refine .expectName fun hname => ih.suffixes ?_
    exact (hdot.verbatim (by rw [hname]; decide)).cast (by rw [Expr.reading])
  · exact .done fun _ => h

/-- What a loop comes to is read round by round. -/
theorem again_reads {reading : α → Reading} {round : Parser (List α × Bool)}
    {rest : Parser (List α)} [Records rest]
    (hround : (round env s).Cleanly fun x s' => HasRead c (r ++ x.1.flatMap reading) s')
    (hrest : ∀ {s r}, HasRead c r s →
      (rest env s).Cleanly fun l s' => HasRead c (r ++ l.flatMap reading) s') :
    (again round rest env s).Cleanly fun l s' => HasRead c (r ++ l.flatMap reading) s' := by
  refine .again hround (fun l s' hs' => hs') fun found s' hs' => ?_
  refine (hrest hs').mono fun l s'' _ hs'' => hs''.cast ?_
  rw [List.flatMap_append, List.append_assoc]

/-- A round over a list with a silent closing token reads one element, or none. -/
theorem listRound_reads {p : Parser α} {reading : α → Reading} (hp : Reads p reading)
    {close : Kind} (hclose : close.isSilent = true) (h : HasRead c r s) :
    (listRound p close env s).Cleanly fun x s' => HasRead c (r ++ x.1.flatMap reading) s' := by
  simp only [listRound, Parser.skipNewlines, skip_bind, eat_bind]
  have h := h.skipNewlines
  split
  · rename_i hk
    exact .done fun _ => (h.pass (by rw [hk, hclose])).cast (by simp)
  · refine hp.step h fun a s' hs' => ?_
    have hs' := hs'.skipNewlines
    simp only [skip_bind, eat_bind]
    split
    · rename_i hk
      exact .done fun _ => (hs'.pass (by rw [hk]; rfl)).cast (by simp)
    · refine .expect fun hk => .done fun _ => ?_
      exact (hs'.pass (by rw [hk, hclose])).cast (by simp)

theorem primary_reads (ih : ExpressionsRead n) : Reads (primary (n + 1)) Expr.reading := by
  intro env s h
  rw [primary]
  simp only [current_bind]
  generalize hk : s.cursor.focus.kind = kind
  have hnext (hne : kind ≠ .eof) := h.next (hk ▸ hne)
  have hopen (hsilent : kind.isSilent = true) (hne : kind ≠ .eof) :=
    (hnext hne).cast (Token.reading_of_isSilent (hk ▸ hsilent))
  split
  · exact .done fun _ => (h.verbatim (by rw [hk]; decide)).cast (by rw [Expr.reading])
  · refine .done fun _ => (hnext (by decide)).cast ?_
    rw [Token.reading_of_string hk, Expr.reading]
  · exact .done fun _ => (h.verbatim (by rw [hk]; decide)).cast (by rw [Expr.reading])
  · exact .done fun _ => h.keyword (by rw [hk]; rfl)
  · exact .done fun _ => h.keyword (by rw [hk]; rfl)
  · simp only [advance_bind, Parser.skipNewlines, skip_bind]
    refine (ih.binary 0).step (hopen rfl (by decide)).skipNewlines fun inner s' hs' => ?_
    simp only [skip_bind]
    refine .expect fun hk' => .done fun _ => ?_
    exact (hs'.skipNewlines.pass (by rw [hk']; rfl)).cast rfl
  · simp only [advance_bind]
    refine (ih.sequence .rightBracket rfl (hopen rfl (by decide))).bind fun items s' _ hs' => ?_
    refine .done fun _ => ?_
    exact hs'.cast (by rw [Expr.reading, Expr.readingOfList_eq]; rfl)
  · split
    · simp only [coded_bind]
      exact .report h.clean
    · exact .failed _

theorem expressions_read (n : Nat) : ExpressionsRead n := by
  induction n with
  | zero =>
    exact ⟨fun _ => exhausted_reads _, fun _ _ _ _ _ _ => .exhausted, exhausted_reads _,
      fun _ => .exhausted, fun _ _ _ _ _ _ _ => .exhausted, exhausted_reads _⟩
  | succ n ih =>
    refine ⟨fun least env s h => ?_, fun least _ _ _ _ => operations_reads ih least, unary_reads ih,
      suffixes_reads ih, fun close hclose env s c r h => ?_, primary_reads ih⟩
    · exact ih.unary.first h fun lhs s' hs' => ih.operations least hs'
    · rw [sequence_succ]
      exact again_reads (listRound_reads (ih.binary 0) hclose h) (ih.sequence close hclose)

theorem expression_reads (n : Nat) : Reads (expression n) Expr.reading :=
  ((expressions_read n).binary 0).within _

/-! ## Statements -/

theorem expectName_reads : Reads expectName fun name => [some name] := by
  intro env s h
  rw [← bind_pure expectName]
  exact .expectName fun hname => .done fun _ => h.verbatim (by rw [hname]; decide)

theorem paramList_reads (n : Nat) (h : HasRead c r s) :
    (paramList n env s).Cleanly fun l s' => HasRead c (r ++ l.map some) s' := by
  induction n generalizing s r with
  | zero => exact .exhausted
  | succ n ih =>
    rw [paramList_succ]
    simp only [List.map_eq_flatMap] at ih ⊢
    exact again_reads (listRound_reads expectName_reads rfl h) ih

theorem params_reads (n : Nat) (h : HasRead c r s) :
    (params n env s).Cleanly fun l s' => HasRead c (r ++ l.map some) s' := by
  rw [params, eat_bind]
  split
  · rename_i hk
    exact paramList_reads n (h.pass (by rw [hk]; rfl))
  · exact .done fun _ => h.cast (by simp)

/-- The parsers of statements, called to the depth `n`, lose nothing. Some of them are
    called with the kind of the token under the cursor. -/
structure StatementsRead (n : Nat) : Prop where
  statementAs : ∀ env {s}, Ready s → (statementAs n s.cursor.focus.kind env s).Cleanly
    fun a s' => HasRead s.cursor a.reading s'
  clause : ∀ env {s}, Ready s → (clause n s.cursor.focus.kind env s).Cleanly
    fun a s' => HasRead s.cursor a.reading s'
  conditional : ∀ env {s}, Ready s → s.cursor.focus.kind = .whenKw →
    (conditional n env s).Cleanly fun a s' => HasRead s.cursor a.reading s'
  branch : Reads (branch n) Statement.reading
  callable : ∀ form env {s}, Ready s → s.cursor.focus.kind.spelling? = some form.keyword →
    (callable n form env s).Cleanly fun a s' => HasRead s.cursor a.reading s'
  blockBody : ∀ opened env {s c r}, HasRead c r s → (blockBody n opened env s).Cleanly
    fun l s' => HasRead c (r ++ l.flatMap Statement.reading) s'
  statement : Reads (statement n) Statement.reading

theorem statementAs_reads (ih : StatementsRead n) (h : Ready s) :
    (statementAs (n + 1) s.cursor.focus.kind env s).Cleanly
      fun a s' => HasRead s.cursor a.reading s' := by
  have hclause := ih.clause env h
  generalize hk : s.cursor.focus.kind = kind at hclause
  unfold statementAs
  split
  · exact (ih.callable .function env h (by rw [hk]; rfl)).bind fun c s' _ hs' => .done fun _ => hs'
  · exact (ih.callable .component env h (by rw [hk]; rfl)).bind fun c s' _ hs' => .done fun _ => hs'
  · exact hclause.bind fun a s' _ hs' => .endStatement fun _ => .done fun _ => hs'

/-- A name, an equals sign and a value, as they follow a keyword. -/
theorem binding_reads (n : Nat) {f : String → Expr → Statement} (h : HasRead c r s) :
    ((do
      let name ← expectName
      let _ ← expect .equals
      let value ← expression n
      return f name value : Parser Statement) env s).Cleanly fun a s' =>
        ∃ name value, a = f name value ∧ HasRead c (r ++ some name :: value.reading) s' := by
  refine expectName_reads.step h fun name s₁ h₁ => .expect fun hk => ?_
  refine (expression_reads n).step (h₁.pass (by rw [hk]; rfl)) fun value s₂ h₂ => .done fun _ => ?_
  exact ⟨name, value, rfl, h₂.cast (by simp)⟩

theorem clause_reads (ih : StatementsRead n) (h : Ready s) :
    (clause (n + 1) s.cursor.focus.kind env s).Cleanly
      fun a s' => HasRead s.cursor a.reading s' := by
  generalize hk : s.cursor.focus.kind = kind
  have hkeyword {word : String} (hword : kind.spelling? = some word) := h.keyword (hk ▸ hword)
  rw [clause]
  simp only [currentLine_bind]
  split
  · simp only [advance_bind]
    refine (binding_reads n (hkeyword rfl)).mono ?_
    rintro _ s' _ ⟨name, value, rfl, hs'⟩
    exact hs'
  · simp only [advance_bind]
    refine (binding_reads n (hkeyword rfl)).mono ?_
    rintro _ s' _ ⟨name, value, rfl, hs'⟩
    exact hs'
  · exact ih.conditional env h hk
  · simp only [advance_bind, currentKind_bind]
    have hreturn := hkeyword rfl
    split
    · exact .done fun _ => hreturn
    · exact (expression_reads n).step hreturn fun value s' hs' => .done fun _ => hs'
  · simp only [advance_bind]
    refine (expression_reads n).step (hkeyword rfl) fun value s' hs' => .done fun _ => hs'
  · simp only [advance_bind]
    have hopen := (h.next (by rw [hk]; decide)).cast
      (Token.reading_of_isSilent (by rw [hk]; rfl))
    have hblock := fun env => ih.blockBody s.cursor.focus.position.line env hopen
    refine .bind (p := within .block _) (hblock _) fun body s' _ hs' => .done fun _ => ?_
    exact hs'.cast (by rw [Statement.reading, Statement.readingOfList_eq]; rfl)
  iterate 3 exact .failed _
  · exact (expression_reads n).first h fun value s' hs' => .done fun _ => hs'

/-- The condition and the keyword behind it. -/
theorem condition_reads (n : Nat) (h : HasRead c r s) :
    ((do
      let next ← currentKind
      let condition ←
        if next = .thenKw || next.endsStatement then do
          report (← coded .invalidWhen .error "Missing condition after 'when'")
          pure Expr.missing
        else expression n
      delimiter .thenKw
      return condition : Parser Expr) env s).Cleanly fun condition s' =>
        HasRead c (r ++ condition.reading ++ [some "then"]) s' := by
  simp only [currentKind_bind]
  split
  · simp only [coded_bind]
    exact .report h.clean
  · refine (expression_reads n).step h fun condition s' hs' => ?_
    exact .delimiter hs'.clean fun hk => .done fun _ => hs'.keyword (by rw [hk]; rfl)

theorem conditional_reads (ih : StatementsRead n) (h : Ready s)
    (hk : s.cursor.focus.kind = .whenKw) : (conditional (n + 1) env s).Cleanly
      fun a s' => HasRead s.cursor a.reading s' := by
  rw [conditional]
  simp only [currentLine_bind, advance_bind]
  have hwhen := h.keyword (show _ = some "when" by rw [hk]; rfl)
  refine .bind (p := within .when _) (condition_reads n hwhen) fun condition s₁ _ h₁ => ?_
  refine ih.branch.step h₁ fun result s₂ h₂ => ?_
  rw [eat_bind]
  split
  · rename_i helse
    have hword := h₂.keyword (show _ = some "else" by rw [helse]; rfl)
    refine ih.branch.step hword fun otherwise s₃ h₃ => .done fun _ => h₃.cast ?_
    simp [Statement.reading, Statement.readingOfElse]
  · refine .done fun _ => h₂.cast ?_
    simp [Statement.reading, Statement.readingOfElse]

theorem branch_reads (ih : StatementsRead n) : Reads (branch (n + 1)) Statement.reading := by
  intro env s h
  rw [branch]
  simp only [current_bind]
  split
  · -- The lack of a result is reported, since no other error has been.
    simp only [lastErrorPosition_bind, h.clean.errors, List.head?_nil, Option.map_none,
      reduceCtorEq, if_false, coded_bind]
    exact .report h.clean
  · exact .effectiveKind (fun _ => inferInstance) h.clean fun _ => ih.clause env h

theorem callable_reads (ih : StatementsRead n) (form : Callable.Form) (h : Ready s)
    (hk : s.cursor.focus.kind.spelling? = some form.keyword) :
    (callable (n + 1) form env s).Cleanly fun a s' => HasRead s.cursor a.reading s' := by
  rw [callable]
  simp only [currentLine_bind, advance_bind]
  have hkeyword := h.keyword hk
  change (within _ _ env _).Cleanly _
  rw [within_apply]
  simp only [currentKind_bind]
  split
  · exact .failed _
  · refine expectName_reads.step hkeyword fun name s₁ h₁ => ?_
    refine .bind (params_reads n h₁) fun params s₂ _ h₂ => ?_
    refine .delimiter h₂.clean fun hbrace => ?_
    have hblock := fun env => ih.blockBody s.cursor.focus.position.line env
      (h₂.pass (by rw [hbrace]; rfl))
    refine .bind (p := within .block _) (hblock _) fun body s₃ _ h₃ => .done fun _ => h₃.cast ?_
    simp [Callable.reading, Statement.readingOfCallable]

theorem blockRound_reads {p : Parser Statement} (hp : Reads p Statement.reading) (opened : Nat)
    (h : HasRead c r s) : (blockRound p opened env s).Cleanly
      fun x s' => HasRead c (r ++ x.1.flatMap Statement.reading) s' := by
  simp only [blockRound, skipSeparators, skip_bind, halted_bind]
  have h := h.skipSeparators
  split
  · rename_i hroom
    exact absurd (of_decide_eq_true hroom) (Nat.ne_of_gt h.clean.room)
  · simp only [current_bind]
    generalize hk : (s.moveTo _).cursor.focus.kind = kind
    split
    · exact .done fun _ => (h.pass (by rw [hk]; rfl)).cast (by simp)
    · simp only [coded_bind]
      exact .report h.clean
    · refine .bind (hp.guarded h.ready) fun a s' _ hs' => .done fun _ => ?_
      exact (h.trans hs').cast (by simp)

theorem statements_read (n : Nat) : StatementsRead n := by
  induction n with
  | zero =>
    exact ⟨fun _ _ _ => .exhausted, fun _ _ _ => .exhausted, fun _ _ _ _ => .exhausted,
      exhausted_reads _, fun _ _ _ _ _ => .exhausted, fun _ _ _ _ _ _ => .exhausted,
      exhausted_reads _⟩
  | succ n ih =>
    refine ⟨fun _ _ => statementAs_reads ih, fun _ _ => clause_reads ih,
      fun _ _ => conditional_reads ih, branch_reads ih, fun form _ _ => callable_reads ih form,
      fun opened env s c r h => ?_, fun env s h => ?_⟩
    · rw [blockBody_succ]
      exact again_reads (blockRound_reads ih.statement opened h) (ih.blockBody opened env)
    · exact .effectiveKind (fun _ => inferInstance) h.clean fun _ => ih.statementAs env h

/-! ## Programs -/

theorem argRound_reads (n : Nat) (h : HasRead c r s) :
    (argRound (expression n) env s).Cleanly
      fun x s' => HasRead c (r ++ x.1.flatMap Expr.reading) s' := by
  simp only [argRound, currentKind_bind]
  split
  · exact .done fun _ => h.cast (by simp)
  · simp only [cursor_bind]
    refine (expression_reads n).step h fun e s' hs' => ?_
    simp only [cursor_bind]
    split
    · exact .failed _
    · simp only [eat_bind]
      split
      · rename_i hk
        exact .done fun _ => (hs'.pass (by rw [hk]; rfl)).cast (by simp)
      · exact .done fun _ => hs'.cast (by simp)

theorem directiveArgs_reads (n : Nat) (h : HasRead c r s) :
    (directiveArgs n env s).Cleanly fun l s' => HasRead c (r ++ l.flatMap Expr.reading) s' := by
  induction n generalizing s r with
  | zero => exact .exhausted
  | succ n ih =>
    rw [directiveArgs_succ]
    exact again_reads (argRound_reads n h) ih

theorem directive_reads (n : Nat) (h : Ready s) (hk : s.cursor.focus.kind = .directive) :
    (directive n env s).Cleanly fun a s' => HasRead s.cursor a.reading s' := by
  have hname := h.verbatim (by rw [hk]; decide)
  have hrest : (directiveRest n s.cursor.focus env s).Cleanly
      fun a s' => HasRead s.cursor a.reading s' := by
    simp only [directiveRest, advance_bind]
    refine .bind (p := within .directive _) (directiveArgs_reads n hname) fun args s' _ hs' => ?_
    exact .endStatement fun _ => .done fun _ => hs'
  rw [directive]
  simp only [current_bind, scene_bind]
  split
  · exact hrest
  · simp only [scene_bind, context_bind]
    exact .report h.clean

theorem importItem_reads (h : Ready s) (hk : s.cursor.focus.kind = .importKw) :
    (importItem env s).Cleanly fun a s' => HasRead s.cursor a.reading s' := by
  have hkeyword := h.keyword (show _ = some "import" by rw [hk]; rfl)
  simp only [importItem, currentLine_bind, advance_bind, current_bind]
  generalize hpath : (s.moveTo s.cursor.next).cursor.focus.kind = kind
  split
  · simp only [advance_bind]
    refine .endStatement fun _ => .done fun _ => ?_
    exact hkeyword.trans ((hkeyword.ready.next (by rw [hpath]; decide)).cast
      (Token.reading_of_string hpath))
  · simp only [advance_bind]
    exact .endStatement fun _ => .done fun _ => hkeyword.verbatim (by rw [hpath]; decide)
  · exact .failed _

theorem exportItem_reads (n : Nat) (h : Ready s) (hk : s.cursor.focus.kind = .exportKw) :
    (exportItem n env s).Cleanly fun a s' => HasRead s.cursor a.reading s' := by
  have hkeyword := h.keyword (show _ = some "export" by rw [hk]; rfl)
  simp only [exportItem, currentLine_bind, advance_bind]
  refine .effectiveKind (fun kind => by split <;> infer_instance) hkeyword.clean fun _ => ?_
  have hcallable := fun form hform =>
    (statements_read n).callable form env hkeyword.ready hform
  generalize (s.moveTo s.cursor.next).cursor.focus.kind = kind at hcallable
  split
  · refine (hcallable .function rfl).bind fun a s' _ hs' => .done fun _ => hkeyword.trans hs'
  · refine (hcallable .component rfl).bind fun a s' _ hs' => .done fun _ => hkeyword.trans hs'
  · exact .failed _

theorem item_reads (n : Nat) : Reads (item n) Item.reading := by
  intro env s h
  have hcallable := fun form hform => (statements_read n).callable form env h hform
  have hstatement := (statements_read n).statementAs env h
  rw [item]
  refine .effectiveKind (fun kind => by split <;> infer_instance) h.clean fun _ => ?_
  generalize hk : s.cursor.focus.kind = kind at hcallable hstatement
  split
  · exact directive_reads n h hk
  · exact (hcallable .function rfl).bind fun a s' _ hs' => .done fun _ => hs'
  · exact (hcallable .component rfl).bind fun a s' _ hs' => .done fun _ => hs'
  · exact importItem_reads h hk
  · exact exportItem_reads n h hk
  · exact .failed _
  · exact hstatement.bind fun a s' _ hs' => .done fun _ => hs'

/-- A round reads one item, or none at the end of the input. -/
theorem itemRound_reads (n : Nat) (h : Ready s) :
    (itemRound (item n) env s).Cleanly fun x s' => Ready s' ∧ s.cursor ≤ s'.cursor ∧
      s.cursor.reading = x.1.flatMap Item.reading ++ s'.cursor.reading ∧
      (x.2 = false → s'.cursor.focus.kind = .eof) := by
  have hle := s.cursor.le_skip fun k => k = .newline || k = .semicolon
  have hskip := s.cursor.reading_skip isSilent_of_isSeparator
  have hready := h.of_le (h.clean.moveTo _) hle
  simp only [itemRound, skipSeparators, skip_bind, halted_bind, currentKind_bind]
  split
  · rename_i hend
    rw [Bool.or_eq_true, decide_eq_true_eq, decide_eq_true_eq] at hend
    refine .done fun hclean => ⟨hready, hle, hskip.symm, fun _ => ?_⟩
    exact hend.resolve_left (Nat.ne_of_gt hclean.room)
  · refine .bind ((item_reads n).some.guarded hready) fun found s' _ hs' => .done fun _ => ?_
    refine ⟨hs'.ready, hle.trans hs'.lt.le, ?_, fun hmore => by cases hmore⟩
    rw [← hskip]
    refine hs'.reading.trans ?_
    cases found <;> simp

/-- The items of a program are read like all the tokens up to the end of the input. -/
theorem items_read (n : Nat) (h : Ready s) :
    (items n env s).Cleanly fun l s' => s.cursor ≤ s'.cursor ∧ s'.cursor.focus.kind = .eof ∧
      s.cursor.reading = l.flatMap Item.reading ++ s'.cursor.reading := by
  induction n generalizing s with
  | zero => exact .exhausted
  | succ n ih =>
    rw [items_succ]
    refine .again (itemRound_reads n h) ?_ ?_
    · exact fun l s' ⟨_, hle, hreading, hend⟩ => ⟨hle, hend rfl, hreading⟩
    · intro found s' ⟨hready, hle, hreading, _⟩
      refine (ih hready).mono fun l s'' _ ⟨hle', hend, hreading'⟩ => ⟨hle.trans hle', hend, ?_⟩
      rw [hreading, hreading', List.flatMap_append, List.append_assoc]

/-- A list that ends with the end of the input is parsed in a run from its first token. The
    run is clean if there are no errors, and room for one. -/
theorem exists_run {tokens : List Token} (source : Option String) (dictionary : Dictionary)
    {settings : Settings} (hlast : tokens.getLast?.map (·.kind) = some .eof)
    (hcap : 0 < settings.maxErrors) :
    ∃ c found s, Cursor.ofList? tokens = some c ∧ Ready (.start c settings) ∧
      items (depthFor tokens.length) (.start source dictionary settings) (.start c settings) =
        .done found s ∧
      parse tokens source dictionary settings = .ok ⟨found, s.errors.reverse⟩ ∧
      (s.errors.reverse = [] → s.IsClean) := by
  obtain ⟨c, found, s, hc, _, hdone, hparse⟩ :=
    isParsed_of_getLast? source dictionary settings hlast
  have hdone := hdone _ (Nat.le_refl _)
  have hterminated : c.IsTerminated := by
    rw [Cursor.IsTerminated, Cursor.tokens_ofList? hc, hlast]
  have hrecords : Records (items (depthFor tokens.length)) := inferInstance
  have hroom : s.room + s.errors.length = settings.maxErrors :=
    (hrecords.grows (congrArg Outcome.state? hdone)).room_eq
  refine ⟨c, found, s, hc, ⟨⟨rfl, hcap⟩, hterminated⟩, hdone, hparse, fun hnil => ?_⟩
  have herrors := List.reverse_eq_nil_iff.1 hnil
  rw [herrors, List.length_nil, Nat.add_zero] at hroom
  exact ⟨herrors, hroom ▸ hcap⟩

end SunLint.Parser
