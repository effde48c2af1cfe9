import SunLint.Proofs.Parser.Rounds

/-!
# The depth that parsers need

A parser that has read nothing yet calls only parsers of lower ranks: an expression
starts with a binary one, that with a unary one, that with a primary one. Once a
token is read it may call any parser, but then fewer tokens are left. So a depth of
a rank and two dozen for every token ahead is enough (`Enough`).

* `expressions_proceed`, `statements_proceed`: this, and that no parser goes back,
  by induction on the depth, for all parsers that call each other at once;
* `item_proceeds`, `items_proceed`: the same of items and programs.
-/

namespace SunLint.Parser

variable {n : Nat}

/-! ## Expressions -/

theorem kind_eq_of_operatorLevel? {token : Token} {level : Nat}
    (h : operatorLevel? token = some level) : token.kind = .symbol := by
  unfold operatorLevel? at h
  split at h
  · assumption
  · cases h

/-- The parsers of expressions, called to the depth `n`, with their ranks. -/
structure ExpressionsProceed (n : Nat) : Prop where
  binary : ∀ least, Proceeds (binary n least) (Enough 3 n)
  operations : ∀ least lhs, Proceeds (operations n least lhs) (Enough 1 n)
  unary : Proceeds (unary n) (Enough 2 n)
  suffixes : ∀ e, Proceeds (suffixes n e) (Enough 1 n)
  sequence : ∀ close, Proceeds (sequence n close) (Enough 4 n)
  primary : Proceeds (primary n) (Enough 1 n)

namespace ExpressionsProceed

variable (ih : ExpressionsProceed n)
include ih

theorem binary_succ (least : Nat) : Proceeds (Parser.binary (n + 1) least) (Enough 3 (n + 1)) := by
  intro env s
  refine ih.unary.step (le_refl _) (by decide) fun lhs s' hle => ?_
  exact (ih.operations least lhs).last hle (by decide)

theorem operations_succ (least : Nat) (lhs : Expr) :
    Proceeds (Parser.operations (n + 1) least lhs) (Enough 1 (n + 1)) := by
  intro env s
  simp only [Parser.operations, current_bind]
  cases hlevel : operatorLevel? s.cursor.focus with
  | none => exact ⟨le_refl _, trivial⟩
  | some level =>
    dsimp only
    split
    · exact ⟨le_refl _, trivial⟩
    · -- An operator is read, so the operand may be of any rank.
      refine .advance (le_refl _) (fun h => ⟨h, ?_⟩) (.skip fun d hd => ?_)
      · rw [kind_eq_of_operatorLevel? hlevel]
        decide
      · refine (ih.binary _).step hd (by decide) fun rhs s' hle => ?_
        exact (ih.operations _ _).last (hd.trans hle) (by decide)

theorem unary_succ : Proceeds (Parser.unary (n + 1)) (Enough 2 (n + 1)) := by
  intro env s
  simp only [Parser.unary, current_bind]
  split
  · rename_i hsymbol
    refine .advance (le_refl _) (fun h => ⟨h, ?_⟩) ?_
    · rw [of_decide_eq_true (Bool.and_eq_true_iff.1 hsymbol).1]
      decide
    · exact ih.unary.step (le_refl _) (by decide) fun e s' hle => ⟨hle, trivial⟩
  · refine ih.primary.step (le_refl _) (by decide) fun e s' hle => ?_
    exact (ih.suffixes e).last hle (by decide)

theorem suffixes_succ (e : Expr) :
    Proceeds (Parser.suffixes (n + 1) e) (Enough 1 (n + 1)) := by
  intro env s
  simp only [Parser.suffixes, currentKind_bind]
  generalize hkind : s.cursor.focus.kind = kind
  split
  · refine .advance (le_refl _) (fun h => ⟨h, by rw [hkind]; decide⟩) ?_
    refine (ih.sequence _).step (le_refl _) (by decide) fun args s' hle => ?_
    exact (ih.suffixes _).last hle (by decide)
  · refine .advance (le_refl _) (fun h => ⟨h, by rw [hkind]; decide⟩) ?_
    refine expectName_plain.step (le_refl _) fun field s' hle => ?_
    exact (ih.suffixes _).last hle (by decide)
  · exact ⟨le_refl _, trivial⟩

theorem sequence_succ (close : Kind) :
    Proceeds (Parser.sequence (n + 1) close) (Enough 4 (n + 1)) := by
  rw [Parser.sequence_succ]
  exact (listRound_advances (ih.binary 0) close).proceeds_again (ih.sequence close) (by decide)

theorem primary_succ : Proceeds (Parser.primary (n + 1)) (Enough 1 (n + 1)) := by
  intro env s
  simp only [Parser.primary, current_bind]
  generalize hkind : s.cursor.focus.kind = kind
  split
  -- A name, a string, a number and the two truth values are passed over.
  iterate 5 exact ⟨s.cursor.le_next, trivial⟩
  · refine .advance (le_refl _) (fun h => ⟨h, by rw [hkind]; decide⟩) (.skip fun d hd => ?_)
    refine (ih.binary 0).step hd (by decide) fun inner s' hle => .skip fun d' hd' => ?_
    have hd'' := hd.trans (hle.trans hd')
    exact (expect_plain .rightParen).step hd'' fun _ s'' hle' => ⟨hd''.trans hle', trivial⟩
  · refine .advance (le_refl _) (fun h => ⟨h, by rw [hkind]; decide⟩) ?_
    exact (ih.sequence _).step (le_refl _) (by decide) fun l s' hle => ⟨hle, trivial⟩
  · split
    · rw [coded_bind, report_bind]
      exact ⟨by simp, trivial⟩
    · exact le_refl s.cursor

end ExpressionsProceed

theorem expressions_proceed (n : Nat) : ExpressionsProceed n := by
  induction n with
  | zero => constructor <;> intros <;> exact exhausted_proceeds (by decide)
  | succ n ih =>
    exact ⟨ih.binary_succ, ih.operations_succ, ih.unary_succ, ih.suffixes_succ, ih.sequence_succ,
      ih.primary_succ⟩

theorem expression_proceeds (n : Nat) : Proceeds (expression n) (Enough 3 n) :=
  ((expressions_proceed n).binary 0).within _

/-! ## Statements -/

theorem paramList_proceeds (n : Nat) : Proceeds (paramList n) (Enough 1 n) := by
  induction n with
  | zero => exact exhausted_proceeds (by decide)
  | succ n ih =>
    rw [paramList_succ]
    have hround := listRound_advances (expectName_plain.proceeds (Enough 0 n)) .rightParen
    exact hround.proceeds_again ih (by decide)

theorem params_proceeds (n : Nat) : Proceeds (params n) (Enough 1 n) := by
  intro env s
  rw [params, eat_bind]
  split
  · exact (paramList_proceeds n).call s.cursor.le_next fun h => h.of_le s.cursor.le_next (by decide)
  · exact ⟨le_refl _, trivial⟩

/-- The parsers of statements, called to the depth `n`, with their ranks. Some of
    them expect to be called at a token. -/
structure StatementsProceed (n : Nat) : Prop where
  statementAs : ∀ kind, Proceeds (statementAs n kind) (EnoughFor kind 5 n)
  clause : ∀ kind, Proceeds (clause n kind) (EnoughFor kind 4 n)
  conditional : Proceeds (conditional n) (EnoughAt 1 n)
  branch : Proceeds (branch n) (Enough 5 n)
  callable : ∀ form, Proceeds (callable n form) (EnoughAt 1 n)
  blockBody : ∀ opened, Proceeds (blockBody n opened) (Enough 7 n)
  statement : Proceeds (statement n) (Enough 6 n)

namespace StatementsProceed

variable (ih : StatementsProceed n)
include ih

theorem statementAs_succ (kind : Kind) :
    Proceeds (Parser.statementAs (n + 1) kind) (EnoughFor kind 5 (n + 1)) := by
  intro env s
  unfold Parser.statementAs
  split
  · exact (ih.callable _).bind (le_refl _) (fun h => (h.atToken (by decide)).call (by decide))
      fun d s' hle => ⟨hle, trivial⟩
  · exact (ih.callable _).bind (le_refl _) (fun h => (h.atToken (by decide)).call (by decide))
      fun d s' hle => ⟨hle, trivial⟩
  · refine (ih.clause kind).bind (le_refl _) (fun h => h.call (by decide)) fun st s' hle => ?_
    exact endStatement_plain.step hle fun _ s'' hle' => ⟨hle.trans hle', trivial⟩

omit ih in
/-- A clause that binds a name to a value, from the keyword on. -/
theorem binding_proceeds (n : Nat) (st : String → Expr → Statement) :
    Proceeds (do
      advance
      let name ← expectName
      let _ ← expect .equals
      let value ← expression n
      return st name value) (EnoughAt 4 (n + 1)) := by
  intro env s
  refine .advance (le_refl _) id ?_
  refine expectName_plain.step (le_refl _) fun name s₁ h₁ => ?_
  refine (expect_plain _).step h₁ fun _ s₂ h₂ => ?_
  exact (expression_proceeds n).step (h₁.trans h₂) (by decide)
    fun value s₃ h₃ => ⟨h₁.trans (h₂.trans h₃), trivial⟩

theorem clause_succ (kind : Kind) :
    Proceeds (Parser.clause (n + 1) kind) (EnoughFor kind 4 (n + 1)) := by
  intro env s
  rw [Parser.clause, currentLine_bind]
  split
  -- A binding of either sort, and a conditional.
  · exact (binding_proceeds n _).call (le_refl _) fun h => h.atToken (by decide)
  · exact (binding_proceeds n _).call (le_refl _) fun h => h.atToken (by decide)
  · exact ih.conditional.call (le_refl _) fun h => (h.atToken (by decide)).call (by decide)
  -- A result, something to render, and a block: the keyword or the brace is read first.
  · refine .advance (le_refl _) (fun h => h.atToken (by decide)) ?_
    simp only [currentKind_bind]
    split
    · exact ⟨le_refl _, trivial⟩
    · exact (expression_proceeds n).step (le_refl _) (by decide)
        fun value s' hle => ⟨hle, trivial⟩
  · refine .advance (le_refl _) (fun h => h.atToken (by decide)) ?_
    exact (expression_proceeds n).step (le_refl _) (by decide)
      fun value s' hle => ⟨hle, trivial⟩
  · refine .advance (le_refl _) (fun h => h.atToken (by decide)) ?_
    exact ((ih.blockBody _).within _).step (le_refl _) (by decide)
      fun body s' hle => ⟨hle, trivial⟩
  -- Nothing that belongs to the top level is read here.
  iterate 3 exact le_refl s.cursor
  · exact (expression_proceeds n).bind (le_refl _)
      (fun h => h.toEnough.call (le_refl _) (by decide)) fun value s' hle => ⟨hle, trivial⟩

omit ih in
/-- The condition of a conditional, up to and past what follows it. -/
theorem condition_proceeds (n : Nat) :
    Proceeds (do
      let next ← currentKind
      let condition ←
        if next = .thenKw || next.endsStatement then do
          report (← coded .invalidWhen .error "Missing condition after 'when'")
          pure Expr.missing
        else expression n
      delimiter .thenKw
      return condition) (Enough 3 n) := by
  intro env s
  simp only [currentKind_bind]
  split
  · simp only [coded_bind, report_bind, pure_bind]
    exact (delimiter_plain _).step (by simp) fun _ s' hle => ⟨by simpa using hle, trivial⟩
  · refine (expression_proceeds n).bind (le_refl _) id fun condition s' hle => ?_
    exact (delimiter_plain _).step hle fun _ s'' hle' => ⟨hle.trans hle', trivial⟩

theorem conditional_succ :
    Proceeds (Parser.conditional (n + 1)) (EnoughAt 1 (n + 1)) := by
  intro env s
  rw [Parser.conditional, currentLine_bind]
  refine .advance (le_refl _) id ?_
  refine ((condition_proceeds n).within .when).step (le_refl _) (by decide)
    fun condition s₁ h₁ => ?_
  refine ih.branch.step h₁ (by decide) fun result s₂ h₂ => ?_
  rw [eat_bind]
  split
  · have h₃ := h₁.trans (h₂.trans s₂.cursor.le_next)
    exact ih.branch.step h₃ (by decide) fun otherwise s₄ h₄ => ⟨h₃.trans h₄, trivial⟩
  · exact ⟨h₁.trans h₂, trivial⟩

theorem branch_succ : Proceeds (Parser.branch (n + 1)) (Enough 5 (n + 1)) := by
  intro env s
  simp only [Parser.branch, current_bind]
  split
  · simp only [lastErrorPosition_bind]
    split
    · exact ⟨le_refl _, trivial⟩
    · simp only [coded_bind, report_bind]
      exact ⟨by simp, trivial⟩
  · refine .effectiveKind fun kind s' hle hfor => ?_
    exact (ih.clause kind).call hle fun h => (hfor h).call (by decide)

theorem callable_succ (form : Callable.Form) :
    Proceeds (Parser.callable (n + 1) form) (EnoughAt 1 (n + 1)) := by
  intro env s
  rw [Parser.callable, currentLine_bind]
  refine .advance (le_refl _) id ?_
  rw [within_apply]
  simp only [currentKind_bind]
  split
  · -- There is no name, and the declaration is given up behind its keyword.
    exact le_refl s.cursor.next
  · refine expectName_plain.step (le_refl _) fun name s₁ h₁ => ?_
    refine (params_proceeds n).step h₁ (by decide) fun params s₂ h₂ => ?_
    have h₁₂ := h₁.trans h₂
    refine (delimiter_plain _).step h₁₂ fun _ s₃ h₃ => ?_
    exact ((ih.blockBody _).within _).step (h₁₂.trans h₃) (by decide)
      fun body s₄ h₄ => ⟨h₁₂.trans (h₃.trans h₄), trivial⟩

theorem blockBody_succ (opened : Nat) :
    Proceeds (Parser.blockBody (n + 1) opened) (Enough 7 (n + 1)) := by
  rw [Parser.blockBody_succ]
  exact (blockRound_advances ih.statement opened).proceeds_again (ih.blockBody opened) (by decide)

theorem statement_succ : Proceeds (Parser.statement (n + 1)) (Enough 6 (n + 1)) := by
  intro env s
  rw [Parser.statement]
  refine .effectiveKind fun kind s' hle hfor => ?_
  exact (ih.statementAs kind).call hle fun h => (hfor h).call (by decide)

end StatementsProceed

theorem statements_proceed (n : Nat) : StatementsProceed n := by
  induction n with
  | zero =>
    -- Without any depth there is not enough for any rank.
    constructor
    case branch | blockBody | statement => intros; exact exhausted_proceeds (by decide)
    all_goals intros; exact Proceeds.of_imp (exhausted_proceeds (by decide)) fun _ h => h.toEnough
  | succ n ih =>
    exact ⟨ih.statementAs_succ, ih.clause_succ, ih.conditional_succ, ih.branch_succ,
      ih.callable_succ, ih.blockBody_succ, ih.statement_succ⟩

/-! ## Programs -/

theorem directiveArgs_proceeds (n : Nat) : Proceeds (directiveArgs n) (Enough 4 n) := by
  induction n with
  | zero => exact exhausted_proceeds (by decide)
  | succ n ih =>
    rw [directiveArgs_succ]
    exact (argRound_advances (expression_proceeds n)).proceeds_again ih (by decide)

theorem directiveRest_proceeds (n : Nat) (token : Token) :
    Proceeds (directiveRest n token) (EnoughAt 5 n) := by
  intro env s
  refine .advance (le_refl _) id ?_
  refine ((directiveArgs_proceeds n).within _).bind (le_refl _)
    (fun h => h.of_le (le_refl _) (by decide)) fun args s₁ h₁ => ?_
  exact endStatement_plain.step h₁ fun _ s₂ h₂ => ⟨h₁.trans h₂, trivial⟩

theorem directive_proceeds (n : Nat) : Proceeds (directive n) (EnoughAt 5 n) := by
  intro env s
  simp only [directive, current_bind, scene_bind]
  split
  · exact (directiveRest_proceeds n _).call (le_refl _) id
  · simp only [scene_bind, context_bind, report_bind]
    refine (directiveRest_proceeds n _).call (by simp) fun h => ?_
    rwa [State.cursor_record]

theorem importItem_plain : Plain importItem := by
  intro env s
  simp only [importItem, currentLine_bind, advance_bind, current_bind]
  generalize (s.moveTo s.cursor.next).cursor.focus.kind = kind
  split
  iterate 2
    have h₂ := s.cursor.le_next.trans (Cursor.le_next _)
    exact endStatement_plain.step h₂ fun _ s' h => ⟨h₂.trans h, trivial⟩
  · exact s.cursor.le_next

theorem exportItem_proceeds (n : Nat) :
    Proceeds (exportItem n) (EnoughAt 5 n) := by
  intro env s
  rw [exportItem, currentLine_bind]
  refine .advance (le_refl _) id (.effectiveKind fun kind s' hle hfor => ?_)
  split
  iterate 2
    exact ((statements_proceed n).callable _).bind hle
      (fun h => ((hfor h).atToken (by decide)).of_rank_le (by decide))
      fun d s'' hle' => ⟨hle.trans hle', trivial⟩
  · exact hle

theorem item_proceeds (n : Nat) : Proceeds (item n) (Enough 5 n) := by
  intro env s
  refine .effectiveKind fun kind s' hle hfor => ?_
  split
  · exact (directive_proceeds n).call hle fun h => (hfor h).atToken (by decide)
  iterate 2
    exact ((statements_proceed n).callable _).bind hle
      (fun h => ((hfor h).atToken (by decide)).of_rank_le (by decide))
      fun d s'' hle' => ⟨hle.trans hle', trivial⟩
  · exact importItem_plain.call hle fun _ => trivial
  · exact (exportItem_proceeds n).call hle fun h => (hfor h).atToken (by decide)
  · exact hle
  · exact ((statements_proceed n).statementAs _).bind hle hfor
      fun st s'' hle' => ⟨hle.trans hle', trivial⟩

theorem items_proceed (n : Nat) : Proceeds (items n) (Enough 6 n) := by
  induction n with
  | zero => exact exhausted_proceeds (by decide)
  | succ n ih =>
    rw [items_succ]
    exact (itemRound_advances (item_proceeds n)).proceeds_again ih (by decide)

end SunLint.Parser
