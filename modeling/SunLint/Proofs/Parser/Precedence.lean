import SunLint.Proofs.Parser.Run
import SunLint.Proofs.Tree.Canonical

/-!
# Operators take the operands that are theirs

Whatever the tokens, the expressions that are read are canonical. What makes them so is
where the operators of a level stop: behind them there is no operator that binds as
tightly (`StopsBelow`). So the next operator, if there is one, takes all that has been
read for its left operand, and what it takes for its right one binds tighter than itself.

* `Outcome.Ends` asks something of the result of an outcome, if it has one, and of the
  state there; `Results` asks something of all results of a parser;
* `expressions_canonical`, `statements_canonical`, `items_canonical`: all expressions in
  what is read are canonical, by induction on the depth.
-/

namespace SunLint.Parser

variable {α β : Type} {env : Env} {s : State}

/-! ## Results -/

/-- If the outcome has a result then `Q` holds of it and of the state. -/
def Outcome.Ends (Q : α → State → Prop) : Outcome α → Prop
  | .done a s => Q a s
  | _ => True

namespace Outcome.Ends

variable {Q Q' : α → State → Prop} {R : β → State → Prop}

theorem of_forall {o : Outcome α} (h : ∀ a s, o = .done a s → Q a s) : o.Ends Q := by
  cases o with
  | done a s => exact h a s rfl
  | _ => trivial

theorem mono {o : Outcome α} (h : o.Ends Q) (hQ : ∀ a s, Q a s → Q' a s) : o.Ends Q' := by
  cases o with
  | done a s => exact hQ a s h
  | _ => trivial

theorem bind {p : Parser α} {f : α → Parser β} (hp : (p env s).Ends Q)
    (hf : ∀ a s', Q a s' → (f a env s').Ends R) : ((p >>= f) env s).Ends R := by
  rw [bind_apply]
  cases ho : p env s with
  | done a s' =>
    rw [ho] at hp
    exact hf a s' hp
  | _ => trivial

end Outcome.Ends

/-- All results of the parser satisfy `Q`, wherever it is called. -/
def Results (p : Parser α) (Q : α → Prop) : Prop := ∀ env s, (p env s).Ends fun a _ => Q a

namespace Results

variable {p q : Parser α} {f : α → Parser β} {Q Q' : α → Prop} {R : β → Prop}

theorem any (p : Parser α) : Results p fun _ => True :=
  fun _ _ => .of_forall fun _ _ _ => trivial

theorem pure {a : α} (h : Q a) : Results (pure a) Q := fun _ _ => h

theorem fail (e : SyntaxError) : Results (fail e) Q := fun _ _ => trivial

theorem exhausted : Results exhausted Q := fun _ _ => trivial

theorem mono (h : Results p Q) (hQ : ∀ a, Q a → Q' a) : Results p Q' :=
  fun env s => (h env s).mono fun a _ => hQ a

theorem bind (hp : Results p Q) (hf : ∀ a, Q a → Results (f a) R) : Results (p >>= f) R :=
  fun env s => (hp env s).bind fun a s' ha => hf a ha env s'

/-- It does not matter what comes of the first parser. -/
theorem after (p : Parser α) (hf : ∀ a, Results (f a) R) : Results (p >>= f) R :=
  (any p).bind fun a _ => hf a

/-- Nothing comes behind a parser that has no result. -/
theorem never (hp : Results p fun _ => False) : Results (p >>= f) R :=
  hp.bind fun _ h => h.elim

theorem map {g : α → β} (hp : Results p fun a => R (g a)) : Results (g <$> p) R := by
  rw [map_eq_pure_bind]
  exact hp.bind fun _ ha => .pure ha

theorem ite {c : Prop} [Decidable c] (hp : c → Results p Q) (hq : ¬c → Results q Q) :
    Results (if c then p else q) Q := by
  split
  · exact hp ‹c›
  · exact hq ‹¬c›

theorem within (hp : Results p Q) (construct : Construct) : Results (within construct p) Q :=
  fun _ s => hp _ s

theorem orRecover (hp : Results p Q) {fallback : α} (hfallback : Q fallback) :
    Results (orRecover p fallback) Q := by
  intro env s
  rw [Parser.orRecover]
  have h := hp env s
  cases ho : p env s with
  | done a s' =>
    rw [ho] at h
    exact h
  | failed e s' =>
    change ((recoverFrom e >>= fun _ => Pure.pure fallback) env s').Ends _
    rw [recoverFrom_bind]
    exact hfallback
  | exhausted => trivial

theorem unexpected (expected : List Kind) : Results (unexpected expected : Parser α) Q :=
  after _ fun e => fail e

end Results

/-! ## Expressions -/

/-- All expressions of the list are canonical. -/
def AreCanonical (l : List Expr) : Prop := ∀ e ∈ l, e.IsCanonical

namespace AreCanonical

theorem nil : AreCanonical [] := fun _ h => absurd h List.not_mem_nil

theorem singleton {e : Expr} (h : e.IsCanonical) : AreCanonical [e] :=
  List.forall_mem_singleton.2 h

theorem cons {e : Expr} {l : List Expr} (h : e.IsCanonical) (hl : AreCanonical l) :
    AreCanonical (e :: l) := List.forall_mem_cons.2 ⟨h, hl⟩

theorem append {l l' : List Expr} (h : AreCanonical l) (h' : AreCanonical l') :
    AreCanonical (l ++ l') := List.forall_mem_append.2 ⟨h, h'⟩

end AreCanonical

/-- The token under the cursor is no operator of the level `least` or above. -/
def StopsBelow (least : Nat) (s : State) : Prop :=
  ∀ level, operatorLevel? s.cursor.focus = some level → level < least

/-- To the depth `n`, canonical expressions are read. -/
structure ExpressionsCanonical (n : Nat) : Prop where
  binary : ∀ least env s, (binary n least env s).Ends fun e s' =>
    e.IsCanonical ∧ e.BindsAt least ∧ StopsBelow least s'
  operations : ∀ least lhs env s, lhs.IsCanonical → lhs.BindsAt least →
    (∀ level, operatorLevel? s.cursor.focus = some level → lhs.BindsAt level) →
    (operations n least lhs env s).Ends fun e s' =>
      e.IsCanonical ∧ e.BindsAt least ∧ StopsBelow least s'
  unary : Results (unary n) fun e => e.IsCanonical ∧ e.isBinary = false
  suffixes : ∀ e, e.IsCanonical → e.isOperation = false →
    Results (suffixes n e) fun e' => e'.IsCanonical ∧ e'.isOperation = false
  sequence : ∀ close, Results (sequence n close) AreCanonical
  primary : Results (primary n) fun e => e.IsCanonical ∧ e.isOperation = false

theorem precedence_of_operatorLevel? {token : Token} {level : Nat}
    (h : operatorLevel? token = some level) : Operator.precedence? token.text = some level := by
  rw [operatorLevel?] at h
  split at h
  · exact h
  · cases h

namespace ExpressionsCanonical

variable {n : Nat} (ih : ExpressionsCanonical n)
include ih

/-- Any expression. -/
theorem any (least : Nat) : Results (Parser.binary n least) Expr.IsCanonical :=
  fun env s => (ih.binary least env s).mono fun _ _ h => h.1

theorem binary_succ (least : Nat) (env : Env) (s : State) :
    (Parser.binary (n + 1) least env s).Ends fun e s' =>
      e.IsCanonical ∧ e.BindsAt least ∧ StopsBelow least s' := by
  refine (ih.unary env s).bind fun lhs s' hlhs => ?_
  exact ih.operations least lhs env s' hlhs.1 (Expr.bindsAt_of_isBinary hlhs.2 _)
    fun level _ => Expr.bindsAt_of_isBinary hlhs.2 level

theorem operations_succ (least : Nat) (lhs : Expr) (env : Env) (s : State)
    (hlhs : lhs.IsCanonical) (hbinds : lhs.BindsAt least)
    (hnext : ∀ level, operatorLevel? s.cursor.focus = some level → lhs.BindsAt level) :
    (Parser.operations (n + 1) least lhs env s).Ends fun e s' =>
      e.IsCanonical ∧ e.BindsAt least ∧ StopsBelow least s' := by
  rw [Parser.operations, current_bind]
  cases hop : operatorLevel? s.cursor.focus with
  | none => exact ⟨hlhs, hbinds, fun level h => by rw [hop] at h; cases h⟩
  | some level =>
    have hlevel := precedence_of_operatorLevel? hop
    dsimp only
    split
    · rename_i hlt
      refine ⟨hlhs, hbinds, fun l h => ?_⟩
      rwa [Option.some.inj (h.symm.trans hop)]
    · rename_i hle
      simp only [advance_bind, skipNewlines, skip_bind]
      refine (ih.binary (level + 1) env _).bind fun rhs s' ⟨hrhs, hbinds', hstops⟩ => ?_
      -- Operators behind the right operand are of this level at most, so they take the
      -- whole operation for their left operand.
      refine ih.operations least _ env s' (.binary hlevel (hnext level hop) hbinds' hlhs hrhs)
        ((Expr.bindsAt_binary_iff hlevel).2 (Nat.le_of_not_lt hle)) fun l hl => ?_
      exact (Expr.bindsAt_binary_iff hlevel).2 (Nat.le_of_lt_succ (hstops l hl))

theorem unary_succ : Results (Parser.unary (n + 1)) fun e =>
    e.IsCanonical ∧ e.isBinary = false := by
  refine .after current fun token => .ite (fun hop => ?_) fun _ => ?_
  · rw [Bool.and_eq_true] at hop
    refine .after advance fun _ => ih.unary.bind fun operand hoperand => .pure ⟨?_, rfl⟩
    exact .unary hop.2 hoperand.2 hoperand.1
  · refine ih.primary.bind fun e he => (ih.suffixes e he.1 he.2).mono fun e' he' => ?_
    exact ⟨he'.1, Expr.isBinary_of_isOperation he'.2⟩

theorem suffixes_succ (e : Expr) (he : e.IsCanonical) (hop : e.isOperation = false) :
    Results (Parser.suffixes (n + 1) e) fun e' => e'.IsCanonical ∧ e'.isOperation = false := by
  refine .after currentKind fun kind => ?_
  split
  · exact .after advance fun _ => (ih.sequence _).bind fun args hargs =>
      ih.suffixes _ (.call hop he hargs) rfl
  · exact .after advance fun _ => .after expectName fun field =>
      ih.suffixes _ (.member field hop he) rfl
  · exact .pure ⟨he, hop⟩

theorem sequence_succ (close : Kind) :
    Results (Parser.sequence (n + 1) close) AreCanonical := by
  refine .after skipNewlines fun _ => .after (eat close) fun _ => .ite (fun _ => ?_) fun _ => ?_
  · exact .pure .nil
  · refine (ih.any 0).bind fun e he => .after skipNewlines fun _ => .after (eat .comma) fun _ =>
      .ite (fun _ => ?_) fun _ => ?_
    · exact (ih.sequence close).bind fun rest hrest => .pure (.cons he hrest)
    · exact .after (expect close) fun _ => .pure (.singleton he)

theorem primary_succ : Results (Parser.primary (n + 1)) fun e =>
    e.IsCanonical ∧ e.isOperation = false := by
  refine .after current fun token => ?_
  generalize token.kind = kind
  split
  · exact .after advance fun _ => .pure ⟨.ident _, rfl⟩
  · exact .after advance fun _ => .pure ⟨.string _, rfl⟩
  · exact .after advance fun _ => .pure ⟨.number _, rfl⟩
  · exact .after advance fun _ => .pure ⟨.bool _, rfl⟩
  · exact .after advance fun _ => .pure ⟨.bool _, rfl⟩
  · exact .after advance fun _ => .after skipNewlines fun _ => (ih.any 0).bind fun inner hinner =>
      .after skipNewlines fun _ => .after (expect _) fun _ => .pure ⟨.group hinner, rfl⟩
  · exact .after advance fun _ => (ih.sequence _).bind fun items hitems => .pure ⟨.list hitems, rfl⟩
  · refine .ite (fun _ => ?_) fun _ => .unexpected []
    exact .after (coded _ _ _) fun _ => .after (report _) fun _ => .pure ⟨.missing, rfl⟩

end ExpressionsCanonical

theorem expressions_canonical (n : Nat) : ExpressionsCanonical n := by
  induction n with
  | zero => constructor <;> intros <;> first | trivial | exact .exhausted
  | succ n ih =>
    exact ⟨ih.binary_succ, ih.operations_succ, ih.unary_succ, ih.suffixes_succ, ih.sequence_succ,
      ih.primary_succ⟩

theorem expression_canonical (n : Nat) : Results (expression n) Expr.IsCanonical :=
  ((expressions_canonical n).any 0).within _

/-! ## Statements -/

/-- To the depth `n`, statements with canonical expressions are read. -/
structure StatementsCanonical (n : Nat) : Prop where
  statementAs : ∀ kind, Results (statementAs n kind) fun s => AreCanonical s.exprs
  clause : ∀ kind, Results (clause n kind) fun s => AreCanonical s.exprs
  conditional : Results (conditional n) fun s => AreCanonical s.exprs
  branch : Results (branch n) fun s => AreCanonical s.exprs
  callable : ∀ form, Results (callable n form) fun c => AreCanonical c.exprs
  blockBody : ∀ opened, Results (blockBody n opened) fun l =>
    AreCanonical (l.flatMap Statement.exprs)
  statement : Results (statement n) fun s => AreCanonical s.exprs

namespace StatementsCanonical

variable {n : Nat} (ih : StatementsCanonical n)
include ih

theorem declaration (form : Callable.Form) :
    Results (do return Statement.declaration (← Parser.callable n form)) fun s =>
      AreCanonical s.exprs :=
  (ih.callable form).bind fun _ hc => .pure hc

theorem statementAs_succ (kind : Kind) :
    Results (Parser.statementAs (n + 1) kind) fun s => AreCanonical s.exprs := by
  unfold Parser.statementAs
  split
  · exact ih.declaration .function
  · exact ih.declaration .component
  · exact (ih.clause _).bind fun _ hs => .after endStatement fun _ => .pure hs

omit ih in
/-- A value is read last in most clauses. -/
theorem value {st : Expr → Statement} (hst : ∀ e, (st e).exprs = [e]) :
    Results (do return st (← expression n)) fun s => AreCanonical s.exprs :=
  (expression_canonical n).bind fun e he => .pure (by rw [hst]; exact .singleton he)

theorem clause_succ (kind : Kind) :
    Results (Parser.clause (n + 1) kind) fun s => AreCanonical s.exprs := by
  refine .after currentLine fun line => ?_
  split
  · exact .after advance fun _ => .after expectName fun _ => .after (expect .equals) fun _ =>
      value fun _ => rfl
  · exact .after advance fun _ => .after expectName fun _ => .after (expect .equals) fun _ =>
      value fun _ => rfl
  · exact ih.conditional
  · exact .after advance fun _ => .after currentKind fun _ => .ite (fun _ => .pure .nil) fun _ =>
      value fun _ => rfl
  · exact .after advance fun _ => value fun _ => rfl
  · refine .after advance fun _ => ((ih.blockBody line).within .block).bind fun body hbody =>
      .pure ?_
    rw [Statement.exprs, Statement.exprsOfList_eq]
    exact hbody
  iterate 3 exact .after current fun _ => .after (coded _ _ _) fun e => .fail e
  · exact value fun _ => rfl

theorem conditional_succ :
    Results (Parser.conditional (n + 1)) fun s => AreCanonical s.exprs := by
  refine .after currentLine fun line => .after advance fun _ => ?_
  -- Where the condition is lacking it is a gap.
  have hcondition {e : Expr} (he : e.IsCanonical) : Results
      (do delimiter .thenKw; return e) Expr.IsCanonical :=
    .after (delimiter .thenKw) fun _ => .pure he
  refine Results.bind (Q := Expr.IsCanonical)
    (.within (.after currentKind fun next => .ite (fun _ => ?_) fun _ => ?_) .when) fun e he => ?_
  · exact .after (coded _ _ _) fun _ => .after (report _) fun _ => hcondition .missing
  · exact (expression_canonical n).bind fun _ he => hcondition he
  · refine ih.branch.bind fun result hresult => .after (eat .elseKw) fun _ => .ite (fun _ => ?_)
      fun _ => .pure (.cons he (hresult.append .nil))
    exact ih.branch.bind fun otherwise hotherwise => .pure (.cons he (hresult.append hotherwise))

theorem branch_succ : Results (Parser.branch (n + 1)) fun s => AreCanonical s.exprs := by
  refine .after current fun token => .ite (fun _ => ?_) fun _ => ?_
  · exact .after lastErrorPosition fun _ => .ite (fun _ => .pure .nil) fun _ =>
      .after (coded _ _ _) fun _ => .after (report _) fun _ => .pure .nil
  · exact .after effectiveKind fun kind => ih.clause kind

theorem callable_succ (form : Callable.Form) :
    Results (Parser.callable (n + 1) form) fun c => AreCanonical c.exprs := by
  refine .after currentLine fun line => .after advance fun _ =>
    .within (.after currentKind fun _ => .ite (fun _ => ?_) fun _ => ?_) form.construct
  · exact .after (coded _ _ _ _) fun e => .never (.fail e)
  · refine .after expectName fun name => .after (params n) fun params =>
      .after (delimiter .leftBrace) fun _ =>
      ((ih.blockBody line).within .block).bind fun body hbody => .pure ?_
    rw [Callable.exprs, Statement.exprsOfCallable, Statement.exprsOfList_eq]
    exact hbody

theorem blockBody_succ (opened : Nat) : Results (Parser.blockBody (n + 1) opened) fun l =>
    AreCanonical (l.flatMap Statement.exprs) := by
  refine .after skipSeparators fun _ => .after halted fun _ => .ite (fun _ => .pure .nil) fun _ =>
    .after current fun token => ?_
  generalize token.kind = kind
  split
  · exact .after advance fun _ => .pure .nil
  · exact .after (coded _ _ _ _) fun _ => .after (report _) fun _ => .pure .nil
  · have herror : AreCanonical (Statement.error token.position.line).exprs := .nil
    refine .after cursor fun c => (ih.statement.orRecover herror).bind fun s hs =>
      .after (ensureProgress c.index) fun _ => (ih.blockBody opened).bind fun rest hrest =>
      .pure ?_
    rw [List.flatMap_cons]
    exact hs.append hrest

theorem statement_succ : Results (Parser.statement (n + 1)) fun s => AreCanonical s.exprs :=
  .after effectiveKind fun kind => ih.statementAs kind

end StatementsCanonical

theorem statements_canonical (n : Nat) : StatementsCanonical n := by
  induction n with
  | zero => constructor <;> intros <;> exact .exhausted
  | succ n ih =>
    exact ⟨ih.statementAs_succ, ih.clause_succ, ih.conditional_succ, ih.branch_succ,
      ih.callable_succ, ih.blockBody_succ, ih.statement_succ⟩

/-! ## Programs -/

theorem directiveArgs_canonical (n : Nat) : Results (directiveArgs n) AreCanonical := by
  induction n with
  | zero => exact .exhausted
  | succ n ih =>
    rw [directiveArgs]
    refine .after currentKind fun _ => .ite (fun _ => .pure .nil) fun _ => .after cursor fun _ =>
      (expression_canonical n).bind fun e he => .after cursor fun _ => .ite
      (fun _ => .never (.unexpected [])) fun _ => ?_
    exact .after (eat .comma) fun _ => ih.bind fun rest hrest => .pure (.cons he hrest)

theorem directiveRest_canonical (n : Nat) (token : Token) :
    Results (directiveRest n token) fun i => AreCanonical i.exprs :=
  .after advance fun _ => ((directiveArgs_canonical n).within .directive).bind fun _ hargs =>
    .after endStatement fun _ => .pure hargs

theorem directive_canonical (n : Nat) : Results (directive n) fun i => AreCanonical i.exprs :=
  .after current fun token => .after scene fun _ =>
    .ite (fun _ => directiveRest_canonical n token) fun _ => .after scene fun _ =>
    .after context fun _ => .after (report _) fun _ => directiveRest_canonical n token

theorem importItem_canonical : Results importItem fun i => AreCanonical i.exprs := by
  refine .after currentLine fun _ => .after advance fun _ => .after current fun token => ?_
  split
  iterate 2 exact .after advance fun _ => .after endStatement fun _ => .pure .nil
  · exact .unexpected _

theorem exportItem_canonical (n : Nat) : Results (exportItem n) fun i => AreCanonical i.exprs := by
  refine .after currentLine fun line => .after advance fun _ => .after effectiveKind fun kind => ?_
  split
  iterate 2 exact ((statements_canonical n).callable _).bind fun _ hc => .pure hc
  · exact .unexpected _

theorem item_canonical (n : Nat) : Results (item n) fun i => AreCanonical i.exprs := by
  refine .after effectiveKind fun kind => ?_
  split
  · exact directive_canonical n
  iterate 2 exact ((statements_canonical n).callable _).bind fun _ hc => .pure hc
  · exact importItem_canonical
  · exact exportItem_canonical n
  · exact .after (coded _ _ _) fun e => .fail e
  · exact ((statements_canonical n).statementAs _).bind fun _ hs => .pure hs

theorem items_canonical (n : Nat) :
    Results (items n) fun l => ∀ i ∈ l, AreCanonical i.exprs := by
  induction n with
  | zero => exact .exhausted
  | succ n ih =>
    rw [items]
    refine .after skipSeparators fun _ => .after halted fun _ => .after currentKind fun _ =>
      .ite (fun _ => .pure fun _ h => absurd h List.not_mem_nil) fun _ => .after cursor fun c => ?_
    have hitem : Results (some <$> item n) fun o => ∀ i ∈ o, AreCanonical i.exprs :=
      .map ((item_canonical n).mono fun i hi => by simpa using hi)
    refine (hitem.orRecover (by simp)).bind fun found hfound => .after (ensureProgress c.index)
      fun _ => ih.bind fun rest hrest => .pure fun i hi => ?_
    obtain hi | hi := List.mem_append.1 hi
    · exact hfound i (Option.mem_toList.1 hi)
    · exact hrest i hi

/-- All expressions in the items that are read of a list are canonical. -/
theorem parse_canonical {tokens : List Token} {source : Option String} {dictionary : Dictionary}
    {settings : Settings} {output : ParseOutput}
    (h : parse tokens source dictionary settings = .ok output) :
    ∀ i ∈ output.items, AreCanonical i.exprs := by
  rw [parse] at h
  split at h
  · cases h
  · rename_i c hc
    split at h
    · have hitems := items_canonical (depthFor tokens.length)
        { scene := { dictionary, source, limits := settings.limits } }
        { cursor := c, room := settings.maxErrors }
      cases ho : items (depthFor tokens.length)
        { scene := { dictionary, source, limits := settings.limits } }
        { cursor := c, room := settings.maxErrors } with
      | done found s =>
        rw [ho] at h hitems
        cases h
        exact hitems
      | failed e s =>
        rw [ho] at h
        cases h
        exact fun _ h => absurd h List.not_mem_nil
      | exhausted =>
        rw [ho] at h
        cases h
        exact fun _ h => absurd h List.not_mem_nil
    · cases h

end SunLint.Parser
