import SunLint.Proofs.Parser.Run

/-!
# Properties of all parsers

All parsers are put together from a few small ones. A property that the small parsers have,
and that passes to what is put together from parsers that have it, is `IsCompositional`. All
parsers have such a property, to whatever depth they are called.

* `IsReading.expressions`, `IsRecovering.statements`: by induction on the depth, for all
  parsers that call each other at once. Less is asked for expressions (`IsReading`), since
  they neither recover nor take a word for another one, and for statements
  (`IsRecovering`), since they hold no directives;
* `IsCompositional.item`, `IsCompositional.items`: items and programs.

The column of a token is of no concern to most parsers (`Token.Matches`), and neither are the
tokens around the one that is read. Small parsers that do look at these things are properties
of their own: those that record something, and the recovery.

What does not depend on what a small parser looks at can be shown of even smaller ones:
to look at the place, to move forward, to record an error, to ask whether there is room for
another one, to give up, and to be out of depth. `OfPrimitives` asks for a property of these,
which is compositional then (`OfPrimitives.isCompositional`).

Only what holds of a parser wherever it is called can be shown in this way, and
nothing about what it reads.
-/

namespace SunLint

/-- The tokens are the same, but perhaps in different columns of a line. -/
structure Token.Matches (t t' : Token) : Prop where
  kind : t'.kind = t.kind
  text : t'.text = t.text
  line : t'.position.line = t.position.line

namespace Parser

/-! ## Two small parsers -/

/-- Records that a condition has no result before the token under the cursor, unless the
    last error was at the same place. -/
def noteMissingResult : Parser Unit := do
  let token ← current
  unless (← lastErrorPosition) = some token.position do
    report (← coded .invalidWhen .error "Missing result after when condition")

/-- Records that the dictionary does not have the directive under the cursor, if it does
    not. -/
def noteUnknownDirective : Parser Unit := do
  let token ← current
  unless (← scene).dictionary.isDirective token.text do
    report (unknownDirective (← scene) token (← context))

theorem branch_succ (n : Nat) :
    branch (n + 1) = (do
      if (← currentKind).endsStatement then do
        noteMissingResult
        return .error (← currentLine)
      else effectiveKind >>= clause n) := by
  funext env s
  rw [branch, current_bind, currentKind_bind]
  split
  · simp only [noteMissingResult, bind_assoc, current_bind, lastErrorPosition_bind]
    split
    · rfl
    · simp only [coded_bind, bind_assoc, report_bind, currentLine_bind, State.cursor_record]
  · rfl

theorem directive_eq (n : Nat) :
    directive n = noteUnknownDirective >>= fun _ => current >>= directiveRest n := by
  funext env s
  simp only [directive, noteUnknownDirective, bind_assoc, current_bind, scene_bind]
  split
  · rfl
  · simp only [context_bind, bind_assoc, report_bind, scene_bind, current_bind,
      State.cursor_record]
    rfl

/-! ## Compositional properties -/

/-- What is recorded of something that is missing, where parsing goes on as if it were there. -/
inductive IsRemark : ErrorCode → String → List Kind → Prop
  | expression : IsRemark .missingToken "Expected an expression here" []
  | condition : IsRemark .invalidWhen "Missing condition after 'when'" []
  | result : IsRemark .invalidWhen "Missing result after when condition" []
  | closingBrace (opened : Nat) : IsRemark .missingCloseBrace
      s!"Missing '\x7d' to close the block opened on line {opened}" [.rightBrace]

/-- The codes of what parsers give up with, apart from errors about what was expected. -/
inductive IsRefusal : ErrorCode → Prop
  | misplaced : IsRefusal .unexpectedToken
  | nameless (form : Callable.Form) : IsRefusal form.invalidCode

theorem IsRemark.code_ne {code : ErrorCode} {message : String} {expected : List Kind}
    (h : IsRemark code message expected) : code ≠ .possibleMisspelling := by
  cases h <;> exact nofun

/-- Small parsers that read tokens have the property, and it passes from parsers to what is put
    together from them. -/
structure IsReading (P : ∀ {α : Type}, Parser α → Prop) : Prop where
  pure {α : Type} (a : α) : P (Pure.pure a : Parser α)
  bind {α β : Type} {p : Parser α} {f : α → Parser β} : P p → (∀ a, P (f a)) → P (p >>= f)
  within {α : Type} {p : Parser α} (construct : Construct) : P p → P (within construct p)
  exhausted {α : Type} : P (exhausted : Parser α)
  /-- What is done with the token under the cursor does not depend on its column. -/
  current {β : Type} {f : Token → Parser β} :
    (∀ {t t'}, t.Matches t' → f t' = f t) → (∀ t, P (f t)) → P (current >>= f)
  /-- What is done with the cursor depends on its index alone. -/
  index {β : Type} {f : Cursor → Parser β} :
    (∀ {c c'}, c'.index = c.index → f c' = f c) → (∀ c, P (f c)) → P (cursor >>= f)
  advance : P advance
  skip (p : Kind → Bool) : P (skip p)
  /-- A remark that is recorded. -/
  note {code : ErrorCode} {message : String} {expected : List Kind} :
    IsRemark code message expected → P (coded code .error message expected >>= report)
  delimiter (kind : Kind) : P (delimiter kind)
  unexpected {α : Type} (expected : List Kind) : P (unexpected expected : Parser α)

/-- Small parsers that also give up, recover and take words for other ones have the property. -/
structure IsRecovering (P : ∀ {α : Type}, Parser α → Prop) : Prop extends IsReading @P where
  orRecover {α : Type} {p : Parser α} : P p → ∀ fallback, P (orRecover p fallback)
  halted : P halted
  effectiveKind : P effectiveKind
  noteMissingResult : P noteMissingResult
  /-- An error that is given up with. -/
  giveUp {α : Type} {code : ErrorCode} (hcode : IsRefusal code) (message : String)
    (expected : List Kind) : P (coded code .error message expected >>= fail : Parser α)

/-- All small parsers have the property, and it passes from parsers to what is put together
    from them. -/
structure IsCompositional (P : ∀ {α : Type}, Parser α → Prop) : Prop extends IsRecovering @P where
  noteUnknownDirective : P noteUnknownDirective

namespace IsReading

variable {P : ∀ {α : Type}, Parser α → Prop} (h : IsReading @P) {α β : Type}
include h

/-! ## Small parsers -/

omit h in
theorem ite {p q : Parser α} {c : Prop} [Decidable c] (hp : P p) (hq : P q) :
    P (if c then p else q) := by
  split
  · exact hp
  · exact hq

theorem map {p : Parser α} (hp : P p) (g : α → β) : P (g <$> p) := by
  rw [map_eq_pure_bind]
  exact h.bind hp fun a => h.pure (g a)

theorem currentKind : P currentKind :=
  h.current (f := fun t => Pure.pure t.kind) (fun ht => by rw [ht.kind]) fun t => h.pure t.kind

theorem currentLine : P currentLine :=
  h.current (f := fun t => Pure.pure t.position.line) (fun ht => by rw [ht.line]) fun t =>
    h.pure t.position.line

theorem eat (kind : Kind) : P (eat kind) :=
  h.bind h.currentKind fun _ => ite (h.bind h.advance fun _ => h.pure true) (h.pure false)

/-- What is done with the token that was expected does not depend on its column. -/
theorem expect {kind : Kind} {f : Token → Parser β} (hcongr : ∀ {t t'}, t.Matches t' → f t' = f t)
    (hf : ∀ t, P (f t)) : P (expect kind >>= f) := by
  have heq : Parser.expect kind >>= f = Parser.current >>= fun t =>
      if t.kind = kind then Parser.advance >>= fun _ => f t
      else Parser.unexpected [kind] >>= f := by
    funext env s
    simp only [Parser.expect, bind_assoc, current_bind]
    split <;> rfl
  rw [heq]
  exact h.current (fun ht => by simp only [ht.kind, hcongr ht]) fun t =>
    ite (h.bind h.advance fun _ => hf t) (h.bind (h.unexpected [kind]) hf)

theorem expectName : P expectName :=
  h.expect (fun ht => by rw [ht.text]) fun t => h.pure t.text

theorem endStatement : P endStatement :=
  h.bind h.currentKind fun _ => ite (h.pure ()) (h.unexpected [.newline])

theorem ensureProgress (start : Nat) : P (ensureProgress start) :=
  h.index (fun hi => by simp only [hi]) fun _ => h.bind h.currentKind fun _ =>
    ite h.advance (h.pure ())

/-- An error is recorded before something else is done. -/
theorem noting {code : ErrorCode} {message : String} {expected : List Kind}
    (hremark : IsRemark code message expected) {f : Unit → Parser β} (hf : ∀ a, P (f a)) :
    P (coded code .error message expected >>= fun e => report e >>= f) := by
  rw [← bind_assoc]
  exact h.bind (h.note hremark) hf

/-! ## Expressions -/

omit h in
/-- The parsers of expressions, called to the depth `n`, have the property. -/
structure OfExpressions (P : ∀ {α : Type}, Parser α → Prop) (n : Nat) : Prop where
  binary : ∀ least, P (binary n least)
  operations : ∀ least lhs, P (operations n least lhs)
  unary : P (unary n)
  suffixes : ∀ e, P (suffixes n e)
  sequence : ∀ close, P (sequence n close)
  primary : P (primary n)

theorem operations_succ {n : Nat} (ih : OfExpressions @P n) (least : Nat) (lhs : Expr) :
    P (operations (n + 1) least lhs) := by
  refine h.current (fun ht => by simp only [operatorLevel?, ht.kind, ht.text]) fun token => ?_
  cases operatorLevel? token with
  | none => exact h.pure lhs
  | some level =>
    refine ite (h.pure lhs) (h.bind h.advance fun _ => h.bind (h.skip _) fun _ => ?_)
    exact h.bind (ih.binary (level + 1)) fun rhs => ih.operations least _

theorem suffixes_succ {n : Nat} (ih : OfExpressions @P n) (e : Expr) :
    P (suffixes (n + 1) e) := by
  refine h.bind h.currentKind fun kind => ?_
  split
  · exact h.bind h.advance fun _ => h.bind (ih.sequence _) fun _ => ih.suffixes _
  · exact h.bind h.advance fun _ => h.bind h.expectName fun _ => ih.suffixes _
  · exact h.pure e

theorem sequence_succ {n : Nat} (ih : OfExpressions @P n) (close : Kind) :
    P (sequence (n + 1) close) := by
  refine h.bind (h.skip _) fun _ => h.bind (h.eat close) fun _ => ite (h.pure []) ?_
  refine h.bind (ih.binary 0) fun e => h.bind (h.skip _) fun _ =>
    h.bind (h.eat .comma) fun _ => ite ?_ ?_
  · exact h.bind (ih.sequence close) fun _ => h.pure _
  · exact h.expect (fun _ => rfl) fun _ => h.pure _

theorem primary_succ {n : Nat} (ih : OfExpressions @P n) : P (primary (n + 1)) := by
  refine h.current (fun ht => by simp only [ht.kind, ht.text]) fun token => ?_
  split
  -- A name, a string, a number and the two truth values are passed over.
  iterate 5 exact h.bind h.advance fun _ => h.pure _
  · exact h.bind h.advance fun _ => h.bind (h.skip _) fun _ => h.bind (ih.binary 0) fun _ =>
      h.bind (h.skip _) fun _ => h.expect (fun _ => rfl) fun _ => h.pure _
  · exact h.bind h.advance fun _ => h.bind (ih.sequence _) fun _ => h.pure _
  · exact ite (h.noting .expression fun _ => h.pure _) (h.unexpected [])

theorem expressions (n : Nat) : OfExpressions @P n := by
  induction n with
  | zero => constructor <;> intros <;> exact h.exhausted
  | succ n ih =>
    refine ⟨fun least => ?_, h.operations_succ ih, ?_, h.suffixes_succ ih, h.sequence_succ ih,
      h.primary_succ ih⟩
    · exact h.bind ih.unary fun lhs => ih.operations least lhs
    · refine h.current (fun ht => by simp only [ht.kind, ht.text]) fun token => ite ?_ ?_
      · exact h.bind h.advance fun _ => h.bind ih.unary fun _ => h.pure _
      · exact h.bind ih.primary ih.suffixes

theorem expression (n : Nat) : P (expression n) := h.within _ ((h.expressions n).binary 0)

/-- A value is read last in most clauses. -/
theorem value (n : Nat) (st : Expr → Statement) :
    P (do return st (← Parser.expression n)) :=
  h.bind (h.expression n) fun _ => h.pure _

/-! ## Lists -/

theorem paramList (n : Nat) : P (paramList n) := by
  induction n with
  | zero => exact h.exhausted
  | succ n ih =>
    refine h.bind (h.skip _) fun _ => h.bind (h.eat _) fun _ => ite (h.pure []) ?_
    refine h.bind h.expectName fun name => h.bind (h.skip _) fun _ =>
      h.bind (h.eat .comma) fun _ => ite ?_ ?_
    · exact h.bind ih fun _ => h.pure _
    · exact h.expect (fun _ => rfl) fun _ => h.pure _

theorem params (n : Nat) : P (params n) :=
  h.bind (h.eat _) fun _ => ite (h.paramList n) (h.pure [])

theorem directiveArgs (n : Nat) : P (directiveArgs n) := by
  induction n with
  | zero => exact h.exhausted
  | succ n ih =>
    refine h.bind h.currentKind fun _ => ite (h.pure []) ?_
    refine h.index (fun hi => by simp only [hi]) fun _ => h.bind (h.expression n) fun _ =>
      h.index (fun hi => by simp only [hi]) fun _ => ite (h.unexpected []) ?_
    exact h.bind (h.eat _) fun _ => h.bind ih fun _ => h.pure _

end IsReading

namespace IsRecovering

variable {P : ∀ {α : Type}, Parser α → Prop} (h : IsRecovering @P) {α β : Type}
include h

/-! ## Statements -/

omit h in
/-- The parsers of statements, called to the depth `n`, have the property. -/
structure OfStatements (P : ∀ {α : Type}, Parser α → Prop) (n : Nat) : Prop where
  statementAs : ∀ kind, P (statementAs n kind)
  clause : ∀ kind, P (clause n kind)
  conditional : P (conditional n)
  branch : P (branch n)
  callable : ∀ form, P (callable n form)
  blockBody : ∀ opened, P (blockBody n opened)
  statement : P (statement n)

theorem statementAs_succ {n : Nat} (ih : OfStatements @P n) (kind : Kind) :
    P (statementAs (n + 1) kind) := by
  unfold Parser.statementAs
  split
  iterate 2 exact h.bind (ih.callable _) fun _ => h.pure _
  · exact h.bind (ih.clause _) fun _ => h.bind h.endStatement fun _ => h.pure _

theorem clause_succ {n : Nat} (ih : OfStatements @P n) (kind : Kind) :
    P (clause (n + 1) kind) := by
  refine h.bind h.currentLine fun line => ?_
  split
  iterate 2
    exact h.bind h.advance fun _ => h.bind h.expectName fun _ => h.expect (fun _ => rfl) fun _ =>
      h.value n _
  · exact ih.conditional
  · exact h.bind h.advance fun _ => h.bind h.currentKind fun _ =>
      IsReading.ite (h.pure _) (h.value n _)
  · exact h.bind h.advance fun _ => h.value n _
  · exact h.bind h.advance fun _ => h.bind (h.within _ (ih.blockBody line)) fun _ => h.pure _
  iterate 3
    exact h.current (fun ht => by simp only [Token.display, ht.kind, ht.text]) fun _ =>
      h.giveUp .misplaced _ _
  · exact h.value n _

theorem conditional_succ {n : Nat} (ih : OfStatements @P n) : P (conditional (n + 1)) := by
  refine h.bind h.currentLine fun line => h.bind h.advance fun _ =>
    h.bind (h.within _ (h.bind h.currentKind fun _ => ?_)) fun condition => ?_
  · have hdelimiter (condition : Expr) :
        P (do Parser.delimiter .thenKw; return condition : Parser Expr) :=
      h.bind (h.delimiter _) fun _ => h.pure _
    exact IsReading.ite (h.noting .condition fun _ => h.bind (h.pure _) hdelimiter)
      (h.bind (h.expression n) hdelimiter)
  · refine h.bind ih.branch fun result => h.bind (h.eat _) fun _ => IsReading.ite ?_ (h.pure _)
    exact h.bind ih.branch fun _ => h.pure _

theorem branch_succ {n : Nat} (ih : OfStatements @P n) : P (branch (n + 1)) := by
  rw [Parser.branch_succ]
  refine h.bind h.currentKind fun kind => IsReading.ite ?_ (h.bind h.effectiveKind ih.clause)
  exact h.bind h.noteMissingResult fun _ => h.bind h.currentLine fun _ => h.pure _

theorem callable_succ {n : Nat} (ih : OfStatements @P n) (form : Callable.Form) :
    P (callable (n + 1) form) := by
  refine h.bind h.currentLine fun line => h.bind h.advance fun _ =>
    h.within _ (h.bind h.currentKind fun _ => IsReading.ite (h.giveUp (.nameless form) _ _) ?_)
  refine h.bind h.expectName fun _ => h.bind (h.params n) fun _ => h.bind (h.delimiter _) fun _ =>
    ?_
  exact h.bind (h.within _ (ih.blockBody line)) fun _ => h.pure _

theorem blockBody_succ {n : Nat} (ih : OfStatements @P n) (opened : Nat) :
    P (blockBody (n + 1) opened) := by
  refine h.bind (h.skip _) fun _ => h.bind h.halted fun _ => IsReading.ite (h.pure []) ?_
  refine h.current (fun ht => by simp only [ht.kind, ht.line]) fun token => ?_
  split
  · exact h.bind h.advance fun _ => h.pure []
  · exact h.noting (.closingBrace opened) fun _ => h.pure []
  · refine h.index (fun hi => by simp only [hi]) fun _ =>
      h.bind (h.orRecover ih.statement _) fun _ => ?_
    exact h.bind (h.ensureProgress _) fun _ => h.bind (ih.blockBody opened) fun _ => h.pure _

theorem statements (n : Nat) : OfStatements @P n := by
  induction n with
  | zero => constructor <;> intros <;> exact h.exhausted
  | succ n ih =>
    exact ⟨h.statementAs_succ ih, h.clause_succ ih, h.conditional_succ ih, h.branch_succ ih,
      h.callable_succ ih, h.blockBody_succ ih, h.bind h.effectiveKind ih.statementAs⟩

/-! ## Programs -/

/-- What follows the name of a directive. -/
theorem directiveRest (n : Nat) (token : Token) : P (directiveRest n token) :=
  h.bind h.advance fun _ => h.bind (h.within _ (h.directiveArgs n)) fun _ =>
    h.bind h.endStatement fun _ => h.pure _

theorem importItem : P importItem := by
  refine h.bind h.currentLine fun line => h.bind h.advance fun _ =>
    h.current (fun ht => by simp only [ht.kind, ht.text]) fun token => ?_
  split
  iterate 2 exact h.bind h.advance fun _ => h.bind h.endStatement fun _ => h.pure _
  · exact h.unexpected _

theorem exportItem (n : Nat) : P (exportItem n) := by
  refine h.bind h.currentLine fun line => h.bind h.advance fun _ =>
    h.bind h.effectiveKind fun kind => ?_
  split
  iterate 2 exact h.bind ((h.statements n).callable _) fun _ => h.pure _
  · exact h.unexpected _

/-- What is read of a program if the items have the property. -/
theorem items_of_item (hitem : ∀ n, P (item n)) (n : Nat) : P (items n) := by
  induction n with
  | zero => exact h.exhausted
  | succ n ih =>
    refine h.bind (h.skip _) fun _ => h.bind h.halted fun _ => h.bind h.currentKind fun _ =>
      IsReading.ite (h.pure []) ?_
    refine h.index (fun hi => by simp only [hi]) fun _ =>
      h.bind (h.orRecover (h.map (hitem n) some) none) fun _ => ?_
    exact h.bind (h.ensureProgress _) fun _ => h.bind ih fun _ => h.pure _

end IsRecovering

namespace IsCompositional

variable {P : ∀ {α : Type}, Parser α → Prop} (h : IsCompositional @P)
include h

theorem directive (n : Nat) : P (directive n) := by
  rw [directive_eq]
  exact h.bind h.noteUnknownDirective fun _ =>
    h.current (fun ht => by simp only [Parser.directiveRest, ht.text, ht.line])
      fun token => h.directiveRest n token

theorem item (n : Nat) : P (item n) := by
  refine h.bind h.effectiveKind fun kind => ?_
  split
  · exact h.directive n
  iterate 2 exact h.bind ((h.statements n).callable _) fun _ => h.pure _
  · exact h.importItem
  · exact h.exportItem n
  · exact h.giveUp .misplaced _ _
  · exact h.bind ((h.statements n).statementAs _) fun _ => h.pure _

theorem items (n : Nat) : P (items n) := h.items_of_item h.item n

end IsCompositional

/-! ## Primitive parsers -/

/-- The parser `p`, and behind it `f` if there is a result or `g` if there is none. To
    call one parser after the other and to recover from a failure are cases of this. -/
def following {α β : Type} (p : Parser α) (f : α → Parser β) (g : SyntaxError → Parser β) :
    Parser β := fun env s =>
  match p env s with
  | .done a s => f a env s
  | .failed e s => g e env s
  | .exhausted => .exhausted

theorem bind_eq_following {α β : Type} (p : Parser α) (f : α → Parser β) :
    p >>= f = following p f fail := by
  funext env s
  rw [bind_apply, following]
  cases p env s <;> rfl

theorem orRecover_eq_following {α : Type} (p : Parser α) (fallback : α) :
    orRecover p fallback =
      following p pure fun e => do recoverFrom e; return fallback := by
  funext env s
  rw [orRecover, following]
  cases p env s <;> rfl

/-- Primitive parsers have the property, and it passes from parsers to what is put together
    from them. -/
structure OfPrimitives (P : ∀ {α : Type}, Parser α → Prop) : Prop where
  /-- Looking at the place. -/
  look {α : Type} (f : Env → Cursor → α) : P fun env s => .done (f env s.cursor) s
  /-- Moving forward. -/
  move (f : Cursor → Cursor) : (∀ c, c ≤ f c) → P fun _ s => .done () (s.moveTo (f s.cursor))
  report (e : SyntaxError) : P (report e)
  halted : P halted
  lastErrorPosition : P lastErrorPosition
  fail {α : Type} (e : SyntaxError) : P (fail e : Parser α)
  exhausted {α : Type} : P (exhausted : Parser α)
  following {α β : Type} {p : Parser α} {f : α → Parser β} {g : SyntaxError → Parser β} :
    P p → (∀ a, P (f a)) → (∀ e, P (g e)) → P (following p f g)
  within {α : Type} {p : Parser α} (construct : Construct) : P p → P (within construct p)

namespace OfPrimitives

variable {P : ∀ {α : Type}, Parser α → Prop} (h : OfPrimitives @P) {α : Type}
include h

theorem pure (a : α) : P (Pure.pure a : Parser α) := h.look fun _ _ => a

theorem bind {β : Type} {p : Parser α} {f : α → Parser β} (hp : P p) (hf : ∀ a, P (f a)) :
    P (p >>= f) := by
  rw [bind_eq_following]
  exact h.following hp hf h.fail

theorem cursor : P cursor := h.look fun _ c => c

theorem scene : P scene := h.look fun env _ => env.scene

theorem current : P current := h.look fun _ c => c.focus

theorem context : P context := h.look Env.contextAt

theorem advance : P advance := h.move Cursor.next Cursor.le_next

theorem coded (code : ErrorCode) (severity : Severity) (message : String)
    (expected : List Kind) : P (coded code severity message expected) :=
  h.look fun env c =>
    env.scene.recordCoded code severity message c.focus expected (env.contextAt c)

theorem unexpected (expected : List Kind) : P (unexpected expected : Parser α) :=
  h.bind (h.look fun env c => env.unexpectedError c expected) h.fail

theorem expect (kind : Kind) : P (expect kind) :=
  h.bind h.current fun t =>
    IsReading.ite (h.bind h.advance fun _ => h.pure t) (h.unexpected [kind])

theorem recoverFrom (e : SyntaxError) : P (recoverFrom e) := by
  refine h.bind h.halted fun _ => IsReading.ite (h.pure ()) (h.bind h.scene fun scene =>
    h.bind h.cursor fun c => ?_)
  have hseek (n : Nat) : P fun _ s => .done () (s.moveTo (s.cursor.seek n)) :=
    h.move (·.seek n) fun c => c.le_seek n
  refine IsReading.ite ?_ (h.bind (h.report e) fun _ => ?_)
  all_goals
    split
    · exact h.bind (h.report _) fun _ => hseek _
    · exact hseek _

theorem orRecover {p : Parser α} (hp : P p) (fallback : α) : P (orRecover p fallback) := by
  rw [orRecover_eq_following]
  exact h.following hp h.pure fun e => h.bind (h.recoverFrom e) fun _ => h.pure fallback

theorem effectiveKind : P effectiveKind := by
  refine h.bind h.current fun token => h.bind h.cursor fun c => IsReading.ite ?_ (h.pure _)
  refine h.bind h.scene fun scene => ?_
  split
  · exact IsReading.ite (h.bind h.scene fun _ => h.bind h.context fun _ =>
      h.bind (h.report _) fun _ => h.pure _) (h.pure _)
  · exact h.pure _

theorem delimiter (kind : Kind) : P (delimiter kind) := by
  refine h.bind ?_ fun _ => IsReading.ite (h.pure ()) ?_
  · exact h.bind (h.look fun _ c => c.focus.kind) fun _ =>
      IsReading.ite (h.bind h.advance fun _ => h.pure true) (h.pure false)
  · refine h.bind h.scene fun _ => h.bind h.cursor fun _ => h.bind h.context fun _ => ?_
    split
    · exact h.report _
    · exact h.unexpected _

/-- A property that does not depend on what is looked at is compositional. -/
theorem isCompositional : IsCompositional @P where
  pure := h.pure
  bind := h.bind
  within := h.within
  orRecover := h.orRecover
  exhausted := h.exhausted
  halted := h.halted
  current _ hf := h.bind h.current hf
  index _ hf := h.bind h.cursor hf
  advance := h.advance
  skip p := h.move (·.skip p) fun c => c.le_skip p
  effectiveKind := h.effectiveKind
  note _ := h.bind (h.coded ..) h.report
  noteMissingResult := h.bind h.current fun _ => h.bind h.lastErrorPosition fun _ =>
    IsReading.ite (h.pure ()) (h.bind (h.coded ..) h.report)
  noteUnknownDirective := h.bind h.current fun _ => h.bind h.scene fun _ =>
    IsReading.ite (h.pure ()) (h.bind h.scene fun _ => h.bind h.context fun _ => h.report _)
  delimiter := h.delimiter
  giveUp _ _ _ := h.bind (h.coded ..) h.fail
  unexpected := h.unexpected

end OfPrimitives

end Parser

end SunLint
