import SunLint.Proofs.Parser.Run

/-!
# More depth changes nothing

A parser that is called to a greater depth does the same, unless it ran out of
depth before (`Below`). So what comes of a parser does not depend on the depth it is
called to, once that is enough: the depth is a bound on the calls, and nothing
that is read or recorded follows from it.

`expressions_stable`, `statements_stable`, `item_stable` and `items_stable` say so
of one level more, by induction on the depth, and `Below.of_le` of any greater
depth.
-/

namespace SunLint.Parser

variable {α β : Type}

/-- The parser `q` does what `p` does, unless `p` runs out of depth. -/
def Below (p q : Parser α) : Prop := ∀ env s, p env s ≠ .exhausted → q env s = p env s

theorem exhausted_below (q : Parser α) : Below exhausted q := fun _ _ h => absurd rfl h

namespace Below

variable {p p' : Parser α} {f f' : α → Parser β}

theorem refl (p : Parser α) : Below p p := fun _ _ _ => rfl

theorem trans {p'' : Parser α} (h : Below p p') (h' : Below p' p'') : Below p p'' := by
  intro env s hp
  have hp' := h env s hp
  rw [h' env s (hp' ▸ hp), hp']

theorem bind (hp : Below p p') (hf : ∀ a, Below (f a) (f' a)) : Below (p >>= f) (p' >>= f') := by
  intro env s h
  have hne : p env s ≠ .exhausted := by
    intro hr
    rw [bind_apply, hr] at h
    exact h rfl
  rw [bind_apply] at h
  rw [bind_apply, bind_apply, hp env s hne]
  cases hr : p env s with
  | done a s' =>
    -- Both go on from the same result, at the same state.
    rw [hr] at h
    exact hf a env s' h
  | failed e s' => rfl
  | exhausted => rfl

theorem within (hp : Below p p') (construct : Construct) :
    Below (within construct p) (Parser.within construct p') := fun _ s => hp _ s

theorem map (hp : Below p p') (g : α → β) : Below (g <$> p) (g <$> p') := by
  rw [map_eq_pure_bind, map_eq_pure_bind]
  exact hp.bind fun a => .refl (pure (g a))

theorem orRecover (hp : Below p p') (fallback : α) :
    Below (orRecover p fallback) (Parser.orRecover p' fallback) := by
  intro env s h
  have hne : p env s ≠ .exhausted := by
    intro hr
    rw [Parser.orRecover, hr] at h
    exact h rfl
  rw [Parser.orRecover, Parser.orRecover, hp env s hne]

theorem ite {q q' : Parser α} {c : Prop} [Decidable c] (hp : c → Below p p')
    (hq : ¬ c → Below q q') : Below (if c then p else q) (if c then p' else q') := by
  split
  · exact hp ‹c›
  · exact hq ‹¬ c›

/-- If one level more changes nothing, neither does any number of levels. -/
theorem of_le {p : Nat → Parser α} (h : ∀ n, Below (p n) (p (n + 1))) {n m : Nat} (hle : n ≤ m) :
    Below (p n) (p m) := by
  induction hle with
  | refl => exact .refl _
  | step _ ih => exact ih.trans (h _)

end Below

/-! ## Expressions -/

/-- One level more than `n` changes nothing for the parsers of expressions. -/
structure ExpressionsStable (n : Nat) : Prop where
  binary : ∀ least, Below (binary n least) (binary (n + 1) least)
  operations : ∀ least lhs, Below (operations n least lhs) (operations (n + 1) least lhs)
  unary : Below (unary n) (unary (n + 1))
  suffixes : ∀ e, Below (suffixes n e) (suffixes (n + 1) e)
  sequence : ∀ close, Below (sequence n close) (sequence (n + 1) close)
  primary : Below (primary n) (primary (n + 1))

namespace ExpressionsStable

variable {n : Nat} (ih : ExpressionsStable n)
include ih

theorem binary_succ (least : Nat) :
    Below (Parser.binary (n + 1) least) (Parser.binary (n + 2) least) :=
  ih.unary.bind fun lhs => ih.operations least lhs

theorem operations_succ (least : Nat) (lhs : Expr) :
    Below (Parser.operations (n + 1) least lhs) (Parser.operations (n + 2) least lhs) := by
  refine .bind (.refl current) fun token => ?_
  cases operatorLevel? token with
  | none => exact .refl _
  | some level =>
    refine .ite (fun _ => .refl _) fun _ => .bind (.refl advance) fun _ =>
      .bind (.refl skipNewlines) fun _ => ?_
    exact (ih.binary (level + 1)).bind fun rhs => ih.operations least _

theorem unary_succ : Below (Parser.unary (n + 1)) (Parser.unary (n + 2)) := by
  refine .bind (.refl current) fun token => .ite (fun _ => ?_) fun _ => ?_
  · exact .bind (.refl advance) fun _ => ih.unary.bind fun _ => .refl _
  · exact ih.primary.bind fun e => ih.suffixes e

theorem suffixes_succ (e : Expr) :
    Below (Parser.suffixes (n + 1) e) (Parser.suffixes (n + 2) e) := by
  refine .bind (.refl currentKind) fun kind => ?_
  split
  · exact .bind (.refl advance) fun _ => (ih.sequence _).bind fun _ => ih.suffixes _
  · exact .bind (.refl advance) fun _ => .bind (.refl expectName) fun _ => ih.suffixes _
  · exact .refl _

theorem sequence_succ (close : Kind) :
    Below (Parser.sequence (n + 1) close) (Parser.sequence (n + 2) close) := by
  refine .bind (.refl skipNewlines) fun _ => .bind (.refl (eat close)) fun _ =>
    .ite (fun _ => .refl _) fun _ => (ih.binary 0).bind fun _ => ?_
  refine .bind (.refl skipNewlines) fun _ => .bind (.refl (eat .comma)) fun _ =>
    .ite (fun _ => ?_) fun _ => .refl _
  exact (ih.sequence close).bind fun _ => .refl _

theorem primary_succ : Below (Parser.primary (n + 1)) (Parser.primary (n + 2)) := by
  refine .bind (.refl current) fun token => ?_
  generalize token.kind = kind
  split
  case h_6 =>
    exact .bind (.refl advance) fun _ => .bind (.refl skipNewlines) fun _ =>
      (ih.binary 0).bind fun _ => .refl _
  case h_7 => exact .bind (.refl advance) fun _ => (ih.sequence _).bind fun _ => .refl _
  all_goals exact .refl _

end ExpressionsStable

theorem expressions_stable (n : Nat) : ExpressionsStable n := by
  induction n with
  | zero => constructor <;> intros <;> exact exhausted_below _
  | succ n ih =>
    exact ⟨ih.binary_succ, ih.operations_succ, ih.unary_succ, ih.suffixes_succ, ih.sequence_succ,
      ih.primary_succ⟩

theorem expression_stable (n : Nat) : Below (expression n) (expression (n + 1)) :=
  ((expressions_stable n).binary 0).within _

/-! ## Statements -/

theorem paramList_stable (n : Nat) : Below (paramList n) (paramList (n + 1)) := by
  induction n with
  | zero => exact exhausted_below _
  | succ n ih =>
    refine .bind (.refl skipNewlines) fun _ => .bind (.refl (eat .rightParen)) fun _ =>
      .ite (fun _ => .refl _) fun _ => .bind (.refl expectName) fun _ => ?_
    refine .bind (.refl skipNewlines) fun _ => .bind (.refl (eat .comma)) fun _ =>
      .ite (fun _ => ?_) fun _ => .refl _
    exact ih.bind fun _ => .refl _

theorem params_stable (n : Nat) : Below (params n) (params (n + 1)) :=
  .bind (.refl (eat .leftParen)) fun _ => .ite (fun _ => paramList_stable n) fun _ => .refl _

/-- One level more than `n` changes nothing for the parsers of statements. -/
structure StatementsStable (n : Nat) : Prop where
  statementAs : ∀ kind, Below (statementAs n kind) (statementAs (n + 1) kind)
  clause : ∀ kind, Below (clause n kind) (clause (n + 1) kind)
  conditional : Below (conditional n) (conditional (n + 1))
  branch : Below (branch n) (branch (n + 1))
  callable : ∀ form, Below (callable n form) (callable (n + 1) form)
  blockBody : ∀ opened, Below (blockBody n opened) (blockBody (n + 1) opened)
  statement : Below (statement n) (statement (n + 1))

namespace StatementsStable

variable {n : Nat} (ih : StatementsStable n)
include ih

theorem statementAs_succ (kind : Kind) :
    Below (Parser.statementAs (n + 1) kind) (Parser.statementAs (n + 2) kind) := by
  unfold Parser.statementAs
  split
  · exact (ih.callable _).bind fun _ => .refl _
  · exact (ih.callable _).bind fun _ => .refl _
  · exact (ih.clause _).bind fun _ => .refl _

omit ih in
/-- A value is read last in most clauses. -/
theorem value_stable (n : Nat) (st : Expr → Statement) :
    Below (do return st (← expression n)) (do return st (← expression (n + 1))) :=
  (expression_stable n).bind fun _ => .refl _

theorem clause_succ (kind : Kind) :
    Below (Parser.clause (n + 1) kind) (Parser.clause (n + 2) kind) := by
  refine .bind (.refl currentLine) fun line => ?_
  split
  · exact .bind (.refl advance) fun _ => .bind (.refl expectName) fun _ =>
      .bind (.refl (expect .equals)) fun _ => value_stable n _
  · exact .bind (.refl advance) fun _ => .bind (.refl expectName) fun _ =>
      .bind (.refl (expect .equals)) fun _ => value_stable n _
  · exact ih.conditional
  · exact .bind (.refl advance) fun _ => .bind (.refl currentKind) fun _ =>
      .ite (fun _ => .refl _) fun _ => value_stable n _
  · exact .bind (.refl advance) fun _ => value_stable n _
  · exact .bind (.refl advance) fun _ => ((ih.blockBody line).within .block).bind fun _ => .refl _
  iterate 3 exact .refl _
  · exact value_stable n _

theorem conditional_succ : Below (Parser.conditional (n + 1)) (Parser.conditional (n + 2)) := by
  refine .bind (.refl currentLine) fun line => .bind (.refl advance) fun _ => ?_
  refine .bind (.within (.bind (.refl currentKind) fun _ => ?_) .when) fun condition => ?_
  · exact .ite (fun _ => .refl _) fun _ => (expression_stable n).bind fun _ => .refl _
  · refine ih.branch.bind fun result => .bind (.refl (eat .elseKw)) fun _ =>
      .ite (fun _ => ?_) fun _ => .refl _
    exact ih.branch.bind fun _ => .refl _

theorem branch_succ : Below (Parser.branch (n + 1)) (Parser.branch (n + 2)) := by
  refine .bind (.refl current) fun token => .ite (fun _ => .refl _) fun _ => ?_
  exact .bind (.refl effectiveKind) fun kind => ih.clause kind

theorem callable_succ (form : Callable.Form) :
    Below (Parser.callable (n + 1) form) (Parser.callable (n + 2) form) := by
  refine .bind (.refl currentLine) fun line => .bind (.refl advance) fun _ =>
    .within (.bind (.refl currentKind) fun _ => ?_) form.construct
  refine .ite (fun _ => .refl _) fun _ => .bind (.refl expectName) fun _ =>
    (params_stable n).bind fun _ => .bind (.refl (delimiter .leftBrace)) fun _ => ?_
  exact ((ih.blockBody line).within .block).bind fun _ => .refl _

theorem blockBody_succ (opened : Nat) :
    Below (Parser.blockBody (n + 1) opened) (Parser.blockBody (n + 2) opened) := by
  refine .bind (.refl skipSeparators) fun _ => .bind (.refl halted) fun _ =>
    .ite (fun _ => .refl _) fun _ => .bind (.refl current) fun token => ?_
  generalize token.kind = kind
  split
  iterate 2 exact .refl _
  · exact .bind (.refl cursor) fun _ => (ih.statement.orRecover _).bind fun _ =>
      .bind (.refl (ensureProgress _)) fun _ => (ih.blockBody opened).bind fun _ => .refl _

theorem statement_succ : Below (Parser.statement (n + 1)) (Parser.statement (n + 2)) :=
  .bind (.refl effectiveKind) fun kind => ih.statementAs kind

end StatementsStable

theorem statements_stable (n : Nat) : StatementsStable n := by
  induction n with
  | zero => constructor <;> intros <;> exact exhausted_below _
  | succ n ih =>
    exact ⟨ih.statementAs_succ, ih.clause_succ, ih.conditional_succ, ih.branch_succ,
      ih.callable_succ, ih.blockBody_succ, ih.statement_succ⟩

/-! ## Programs -/

theorem directiveArgs_stable (n : Nat) : Below (directiveArgs n) (directiveArgs (n + 1)) := by
  induction n with
  | zero => exact exhausted_below _
  | succ n ih =>
    rw [directiveArgs, directiveArgs]
    refine .bind (.refl currentKind) fun _ => .ite (fun _ => .refl _) fun _ =>
      .bind (.refl cursor) fun _ => (expression_stable n).bind fun _ =>
      .bind (.refl cursor) fun _ => .ite (fun _ => .refl _) fun _ => ?_
    exact .bind (.refl (eat .comma)) fun _ => ih.bind fun _ => .refl _

theorem directiveRest_stable (n : Nat) (token : Token) :
    Below (directiveRest n token) (directiveRest (n + 1) token) :=
  .bind (.refl advance) fun _ => ((directiveArgs_stable n).within .directive).bind fun _ => .refl _

theorem directive_stable (n : Nat) : Below (directive n) (directive (n + 1)) := by
  refine .bind (.refl current) fun token => .bind (.refl scene) fun _ =>
    .ite (fun _ => directiveRest_stable n token) fun _ => ?_
  exact .bind (.refl scene) fun _ => .bind (.refl context) fun _ =>
    .bind (.refl (report _)) fun _ => directiveRest_stable n token

theorem exportItem_stable (n : Nat) : Below (exportItem n) (exportItem (n + 1)) := by
  refine .bind (.refl currentLine) fun _ => .bind (.refl advance) fun _ =>
    .bind (.refl effectiveKind) fun kind => ?_
  split
  iterate 2 exact ((statements_stable n).callable _).bind fun _ => .refl _
  · exact .refl _

theorem item_stable (n : Nat) : Below (item n) (item (n + 1)) := by
  refine .bind (.refl effectiveKind) fun kind => ?_
  split
  · exact directive_stable n
  iterate 2 exact ((statements_stable n).callable _).bind fun _ => .refl _
  · exact .refl _
  · exact exportItem_stable n
  · exact .refl _
  · exact ((statements_stable n).statementAs _).bind fun _ => .refl _

theorem items_stable (n : Nat) : Below (items n) (items (n + 1)) := by
  induction n with
  | zero => exact exhausted_below _
  | succ n ih =>
    refine .bind (.refl skipSeparators) fun _ => .bind (.refl halted) fun _ =>
      .bind (.refl currentKind) fun _ => .ite (fun _ => .refl _) fun _ => ?_
    exact .bind (.refl cursor) fun _ => (((item_stable n).map some).orRecover none).bind fun _ =>
      .bind (.refl (ensureProgress _)) fun _ => ih.bind fun _ => .refl _

end SunLint.Parser
