import Mathlib.Order.Filter.AtTopBot.Basic
import SunLint.Proofs.Parser.Precedence
import SunLint.Proofs.Parser.Total
import SunLint.Proofs.Tree.Reading

/-!
# Canonical expressions are read back

A canonical expression is written as tokens with only those parentheses that its groups
and calls stand for. If it has no gaps then it is read back from them, whatever stands in
front of it and behind. What is shown of an expression is what it does to the loop that
reads it: the loop that starts where the expression is written comes to where it ends
with the expression for its operand, and goes on from there. So the operand on the left
of an operator is read by the loop that then finds the operator, however long the chain.

* `Expr.lexemes`: how an expression is written, `Cursor.Spells`: where it is;
* `Yields`: what a parser comes to if it is called to a depth that is great enough;
* `RoundTrips`: wherever the expression is written it is read, which is shown of each form
  of expression in turn (`roundTrips`);
* `parse_round_trip`: bindings of canonical expressions are read back, and all expressions
  that are read are canonical.
-/

namespace SunLint

/-! ## Expressions as tokens -/

/-- What a token is and how it is written, wherever it stands. -/
abbrev Lexeme := Kind × String

/-- The token but for its position. -/
def Token.lexeme (t : Token) : Lexeme := (t.kind, t.text)

mutual

/-- The tokens that the expression is written as. A gap is nothing. -/
def Expr.lexemes : Expr → List Lexeme
  | .ident name => [(.text, name)]
  | .string value => [(.string, "\"" ++ value ++ "\"")]
  | .number literal => [(.number, literal)]
  | .bool true => [(.trueKw, "true")]
  | .bool false => [(.falseKw, "false")]
  | .call callee args =>
    callee.lexemes ++ (.leftParen, "(") :: (Expr.lexemesOfList args ++ [(.rightParen, ")")])
  | .member object field => object.lexemes ++ [(.dot, "."), (.text, field)]
  | .list items => (.leftBracket, "[") :: (Expr.lexemesOfList items ++ [(.rightBracket, "]")])
  | .group inner => (.leftParen, "(") :: (inner.lexemes ++ [(.rightParen, ")")])
  | .binary op lhs rhs => lhs.lexemes ++ (.symbol, op) :: rhs.lexemes
  | .unary op operand => (.symbol, op) :: operand.lexemes
  | .missing => []

/-- The expressions with commas between them. -/
def Expr.lexemesOfList : List Expr → List Lexeme
  | [] => []
  | [e] => e.lexemes
  | e :: e' :: es => e.lexemes ++ (.comma, ",") :: Expr.lexemesOfList (e' :: es)

end

/-- The tokens that a binding of the expression to a name is written as, to the end of
    its line and of the input. -/
def Expr.lexemesOfLet (name : String) (e : Expr) : List Lexeme :=
  (.letKw, "let") :: (.text, name) :: (.equals, "=") ::
    (e.lexemes ++ [(.newline, "\n"), (.eof, "")])

/-- A token with which an operand begins that is no operation itself. -/
def Kind.startsOperand : Kind → Bool
  | .text | .string | .number | .trueKw | .falseKw | .leftParen | .leftBracket => true
  | _ => false

/-- Between its quotes stands the value of a string. -/
theorem unquote_lexeme (value : String) : unquote ("\"" ++ value ++ "\"") = value := by
  have h := unquote_quoted '"' value.toList
  rw [String.ofList_toList] at h
  rw [show "\"" ++ value ++ "\"" = String.ofList ('"' :: (value.toList ++ ['"'])) from
    String.toList_inj.1 (by simp), h]

/-- The tokens under the cursor and ahead are those that are written so, and then others. -/
def Cursor.Spells (c : Cursor) (w : List Lexeme) (next : List Token) : Prop :=
  ∃ l, l.map Token.lexeme = w ∧ c.rest = l ++ next

namespace Cursor.Spells

variable {c : Cursor} {w w' : List Lexeme} {x : Lexeme} {t : Token} {l r : List Token}

theorem rest_eq (h : c.Spells [] l) : c.rest = l := by
  obtain ⟨l', hl', hrest⟩ := h
  rwa [List.map_eq_nil_iff.1 hl'] at hrest

theorem lexeme_focus (h : c.Spells (x :: w) l) : c.focus.lexeme = x := by
  obtain ⟨l', hl', hrest⟩ := h
  obtain ⟨a, l', rfl, ha, -⟩ := List.map_eq_cons_iff.1 hl'
  rw [(rest_eq_cons.1 hrest).1, ha]

theorem kind_focus (h : c.Spells (x :: w) l) : c.focus.kind = x.1 :=
  congrArg Prod.fst h.lexeme_focus

theorem text_focus (h : c.Spells (x :: w) l) : c.focus.text = x.2 :=
  congrArg Prod.snd h.lexeme_focus

theorem next (h : c.Spells (x :: w) (t :: r)) : c.next.Spells w (t :: r) := by
  obtain ⟨l, hl, hrest⟩ := h
  obtain ⟨a, l, rfl, -, hl⟩ := List.map_eq_cons_iff.1 hl
  refine ⟨l, hl, ?_⟩
  cases hmore : l ++ t :: r with
  | nil => simp at hmore
  | cons b more =>
    rw [next_of_rest (hrest.trans (by rw [List.cons_append, hmore]))]
    rfl

theorem rest_of_singleton (h : c.Spells [x] l) : c.rest = c.focus :: l := by
  obtain ⟨l', hl', hrest⟩ := h
  obtain ⟨a, l', rfl, -, hnil⟩ := List.map_eq_cons_iff.1 hl'
  rw [List.map_eq_nil_iff.1 hnil] at hrest
  rw [(rest_eq_cons.1 hrest).1]
  exact hrest

/-- What is written in front ends at the token with which the rest begins. -/
theorem split (h : c.Spells (w ++ x :: w') l) : ∃ t r, t.lexeme = x ∧ c.Spells w (t :: r) ∧
    ∀ d : Cursor, d.rest = t :: r → d.Spells (x :: w') l := by
  obtain ⟨l', hl', hrest⟩ := h
  obtain ⟨l₁, l₂, rfl, hl₁, hl₂⟩ := List.map_eq_append_iff.1 hl'
  obtain ⟨t, l₃, rfl, ht, hl₃⟩ := List.map_eq_cons_iff.1 hl₂
  refine ⟨t, l₃ ++ l, ht, ⟨l₁, hl₁, by rw [hrest, List.append_assoc]; rfl⟩, fun d hd => ?_⟩
  exact ⟨t :: l₃, hl₂, hd⟩

end Cursor.Spells

namespace Parser

open Filter

variable {α β : Type} {env : Env} {s s' s₁ : State} {a : α} {b : β}

/-! ## Runs that are deep enough -/

/-- The parser comes to the result and the state if it is called to a depth that is
    great enough. -/
def Yields (p : Nat → Parser α) (env : Env) (s : State) (a : α) (s' : State) : Prop :=
  ∀ᶠ n in atTop, p n env s = .done a s'

theorem skipNewlines_bind (h : s.cursor.focus.kind ≠ .newline) (f : Unit → Parser β) :
    (skipNewlines >>= f) env s = f () env s := by
  have hskip : s.cursor.skip (· = .newline) = s.cursor := Cursor.skip_eq_self (decide_eq_false h)
  rw [skipNewlines, skip_bind, hskip]
  rfl

namespace Yields

theorem of_succ {p : Nat → Parser α} (h : ∀ᶠ n in atTop, p (n + 1) env s = .done a s') :
    Yields p env s a s' := by
  obtain ⟨m, hm⟩ := eventually_atTop.1 h
  refine eventually_atTop.2 ⟨m + 1, fun n hn => ?_⟩
  obtain ⟨k, rfl⟩ := Nat.exists_eq_add_of_le hn
  rw [Nat.add_right_comm]
  exact hm _ (Nat.le_add_right m k)

theorem bind {p : Nat → Parser α} {f : Nat → α → Parser β} (hp : Yields p env s a s')
    (hf : Yields (f · a) env s' b s₁) : Yields (fun n => p n >>= f n) env s b s₁ := by
  filter_upwards [hp, hf] with n hn hn'
  rw [bind_apply, hn]
  exact hn'

/-- Where no operator follows that binds tightly enough, the expression is complete. -/
theorem operations_done {least : Nat} {e : Expr} (h : StopsBelow least s) :
    Yields (operations · least e) env s e s := by
  refine of_succ (.of_forall fun n => ?_)
  rw [operations, current_bind]
  cases hop : operatorLevel? s.cursor.focus with
  | none => rfl
  | some level => exact congrFun (congrFun (if_pos (h level hop)) env) s

/-- An operator takes what comes next for its right operand. -/
theorem operations_step {least level : Nat} {lhs rhs e : Expr}
    (hop : operatorLevel? s.cursor.focus = some level) (hle : least ≤ level)
    (hline : s.cursor.next.focus.kind ≠ .newline)
    (hrhs : Yields (binary · (level + 1)) env (s.moveTo s.cursor.next) rhs s₁)
    (hmore : Yields (operations · least (.binary s.cursor.focus.text lhs rhs)) env s₁ e s') :
    Yields (operations · least lhs) env s e s' := by
  have hboth := hrhs.bind (f := fun n rhs => operations n least (.binary _ lhs rhs)) hmore
  refine of_succ (hboth.mono fun n hn => ?_)
  rw [operations, current_bind, hop]
  simp only [Nat.not_lt.2 hle, if_false, advance_bind]
  rw [skipNewlines_bind hline]
  exact hn

theorem binary_of_unary {least : Nat} {lhs e : Expr} (hlhs : Yields unary env s lhs s₁)
    (hmore : Yields (operations · least lhs) env s₁ e s') : Yields (binary · least) env s e s' :=
  of_succ (hlhs.bind (f := fun n lhs => operations n least lhs) hmore)

theorem unary_of_operator {operand : Expr} (hkind : s.cursor.focus.kind = .symbol)
    (hop : Operator.isUnary s.cursor.focus.text = true)
    (hoperand : Yields unary env (s.moveTo s.cursor.next) operand s') :
    Yields unary env s (.unary s.cursor.focus.text operand) s' := by
  refine of_succ ?_
  filter_upwards [hoperand] with n hn
  rw [unary, current_bind, if_pos (by rw [hkind, hop]; rfl), advance_bind, bind_apply, hn]
  rfl

theorem unary_of_operand {e : Expr} (hkind : s.cursor.focus.kind ≠ .symbol)
    (h : Yields (fun n => primary n >>= suffixes n) env s e s') : Yields unary env s e s' := by
  refine of_succ (h.mono fun n hn => ?_)
  rw [unary, current_bind, if_neg (by simp [hkind])]
  exact hn

theorem suffixes_done {e : Expr} (hcall : s.cursor.focus.kind ≠ .leftParen)
    (hmember : s.cursor.focus.kind ≠ .dot) : Yields (suffixes · e) env s e s := by
  refine of_succ (.of_forall fun n => ?_)
  rw [suffixes, currentKind_bind]
  generalize s.cursor.focus.kind = kind at hcall hmember
  cases kind <;> first | rfl | contradiction

theorem suffixes_call {e e' : Expr} {args : List Expr}
    (hkind : s.cursor.focus.kind = .leftParen)
    (hargs : Yields (sequence · .rightParen) env (s.moveTo s.cursor.next) args s₁)
    (hmore : Yields (suffixes · (.call e args)) env s₁ e' s') :
    Yields (suffixes · e) env s e' s' := by
  refine of_succ ((hargs.bind (f := fun n args => suffixes n (.call e args)) hmore).mono
    fun n hn => ?_)
  rw [suffixes, currentKind_bind, hkind]
  exact hn

theorem suffixes_member {e e' : Expr} (hkind : s.cursor.focus.kind = .dot)
    (hfield : s.cursor.next.focus.kind = .text)
    (hmore : Yields (suffixes · (.member e s.cursor.next.focus.text)) env
      (s.moveTo s.cursor.next.next) e' s') :
    Yields (suffixes · e) env s e' s' := by
  refine of_succ (hmore.mono fun n hn => ?_)
  rw [suffixes, currentKind_bind, hkind]
  simp only [advance_bind, expectName_bind, State.cursor_moveTo, hfield, if_true]
  exact hn

theorem sequence_done {close : Kind} (hclose : close ≠ .newline)
    (hkind : s.cursor.focus.kind = close) :
    Yields (sequence · close) env s [] (s.moveTo s.cursor.next) := by
  refine of_succ (.of_forall fun n => ?_)
  rw [sequence, skipNewlines_bind (hkind ▸ hclose), eat_bind, if_pos hkind]
  rfl

theorem sequence_last {close : Kind} {e : Expr} (hclose : close ≠ .newline ∧ close ≠ .comma)
    (hline : s.cursor.focus.kind ≠ .newline) (hstart : s.cursor.focus.kind ≠ close)
    (he : Yields (binary · 0) env s e s₁) (hkind : s₁.cursor.focus.kind = close) :
    Yields (sequence · close) env s [e] (s₁.moveTo s₁.cursor.next) := by
  refine of_succ ?_
  filter_upwards [he] with n hn
  rw [sequence, skipNewlines_bind hline, eat_bind, if_neg hstart, if_neg Bool.false_ne_true,
    bind_apply, hn]
  dsimp only
  rw [skipNewlines_bind (hkind ▸ hclose.1), eat_bind, if_neg (hkind ▸ hclose.2),
    if_neg Bool.false_ne_true, expect_bind, if_pos hkind]
  rfl

theorem sequence_cons {close : Kind} {e : Expr} {es : List Expr}
    (hline : s.cursor.focus.kind ≠ .newline) (hstart : s.cursor.focus.kind ≠ close)
    (he : Yields (binary · 0) env s e s₁) (hkind : s₁.cursor.focus.kind = .comma)
    (hes : Yields (sequence · close) env (s₁.moveTo s₁.cursor.next) es s') :
    Yields (sequence · close) env s (e :: es) s' := by
  refine of_succ ?_
  filter_upwards [he, hes] with n hn hn'
  rw [sequence, skipNewlines_bind hline, eat_bind, if_neg hstart, if_neg Bool.false_ne_true,
    bind_apply, hn]
  dsimp only
  rw [skipNewlines_bind (by rw [hkind]; decide), eat_bind, if_pos hkind, if_pos rfl, bind_apply,
    hn']
  rfl

theorem primary_group {inner : Expr} (hkind : s.cursor.focus.kind = .leftParen)
    (hline : s.cursor.next.focus.kind ≠ .newline)
    (hinner : Yields (binary · 0) env (s.moveTo s.cursor.next) inner s₁)
    (hclose : s₁.cursor.focus.kind = .rightParen) :
    Yields primary env s (.group inner) (s₁.moveTo s₁.cursor.next) := by
  refine of_succ ?_
  filter_upwards [hinner] with n hn
  rw [primary, current_bind, hkind]
  simp only [advance_bind]
  rw [skipNewlines_bind hline, bind_apply, hn]
  dsimp only
  rw [skipNewlines_bind (by rw [hclose]; decide), expect_bind, if_pos hclose]
  rfl

theorem primary_list {items : List Expr} (hkind : s.cursor.focus.kind = .leftBracket)
    (hitems : Yields (sequence · .rightBracket) env (s.moveTo s.cursor.next) items s₁) :
    Yields primary env s (.list items) s₁ := by
  refine of_succ ?_
  filter_upwards [hitems] with n hn
  rw [primary, current_bind, hkind]
  simp only [advance_bind]
  rw [bind_apply, hn]
  rfl

theorem primary_of_leaf {e : Expr}
    (h : ∀ n, primary (n + 1) env s = .done e (s.moveTo s.cursor.next)) :
    Yields primary env s e (s.moveTo s.cursor.next) := of_succ (.of_forall h)

end Yields

/-! ## Reading back what is written -/

/-- Neither a call nor a member begins with the token. -/
def EndsOperand (t : Token) : Prop := t.kind ≠ .leftParen ∧ t.kind ≠ .dot

/-- Where the expression is written, it is read: as an operand, to which more may belong;
    with the operators in front of it; and as the first operand of operators behind it. -/
structure RoundTrips (e : Expr) : Prop where
  starts : ∃ k text w, e.lexemes = (k, text) :: w ∧
    (k.startsOperand = true ∨ k = .symbol ∧ e.isOperation = true)
  operand : e.isOperation = false → ∀ env s {t r}, s.cursor.Spells e.lexemes (t :: r) →
    ∃ c : Cursor, c.rest = t :: r ∧ ∀ {e' s'}, Yields (suffixes · e) env (s.moveTo c) e' s' →
      Yields (fun n => primary n >>= suffixes n) env s e' s'
  unary : e.isBinary = false → ∀ env s {t r}, s.cursor.Spells e.lexemes (t :: r) →
    EndsOperand t → ∃ c : Cursor, c.rest = t :: r ∧ Yields unary env s e (s.moveTo c)
  binary : ∀ {least} env s {t r}, e.BindsAt least → s.cursor.Spells e.lexemes (t :: r) →
    EndsOperand t → (∀ level, operatorLevel? t = some level → e.BindsAt level) →
    ∃ c : Cursor, c.rest = t :: r ∧ ∀ {e' s'},
      Yields (operations · least e) env (s.moveTo c) e' s' → Yields (binary · least) env s e' s'

namespace RoundTrips

variable {e : Expr}

/-- With which kinds of tokens an expression begins. -/
theorem kind_focus (h : RoundTrips e) {c : Cursor} {l : List Token} (hc : c.Spells e.lexemes l) :
    c.focus.kind.startsOperand = true ∨ c.focus.kind = .symbol := by
  obtain ⟨k, text, w, hw, hk⟩ := h.starts
  rw [hw] at hc
  rw [hc.kind_focus]
  exact hk.imp_right And.left

theorem kind_focus_ne (h : RoundTrips e) {c : Cursor} {l : List Token}
    (hc : c.Spells e.lexemes l) {k : Kind} (hk : k.startsOperand = false ∧ k ≠ .symbol) :
    c.focus.kind ≠ k := by
  rintro rfl
  obtain h | h := h.kind_focus hc
  · exact Bool.false_ne_true (hk.1.symm.trans h)
  · exact hk.2 h

/-- What is read with the operators in front of it is read as a first operand, unless it is
    a binary operation itself. -/
theorem binary_of_unary {least : Nat} {env : Env} {s : State} {t : Token} {r : List Token}
    (h : ∃ c : Cursor, c.rest = t :: r ∧ Yields Parser.unary env s e (s.moveTo c)) :
    ∃ c : Cursor, c.rest = t :: r ∧ ∀ {e' s'},
      Yields (operations · least e) env (s.moveTo c) e' s' →
        Yields (Parser.binary · least) env s e' s' := by
  obtain ⟨c, hc, hunary⟩ := h
  exact ⟨c, hc, fun hmore => .binary_of_unary hunary hmore⟩

/-- An expression that is no operation. -/
theorem of_operand
    (hstarts : ∃ k text w, e.lexemes = (k, text) :: w ∧ k.startsOperand = true)
    (h : ∀ env s {t r}, s.cursor.Spells e.lexemes (t :: r) →
      ∃ c : Cursor, c.rest = t :: r ∧ ∀ {e' s'}, Yields (suffixes · e) env (s.moveTo c) e' s' →
        Yields (fun n => primary n >>= suffixes n) env s e' s') : RoundTrips e := by
  have hunary (env : Env) (s : State) {t : Token} {r : List Token}
      (hs : s.cursor.Spells e.lexemes (t :: r)) (ht : EndsOperand t) :
      ∃ c : Cursor, c.rest = t :: r ∧ Yields Parser.unary env s e (s.moveTo c) := by
    obtain ⟨c, hc, hgo⟩ := h env s hs
    obtain ⟨k, text, w, hw, hk⟩ := hstarts
    have hfocus : s.cursor.focus.kind = k := by
      rw [hw] at hs
      exact hs.kind_focus
    have ht' : EndsOperand c.focus := (Cursor.rest_eq_cons.1 hc).1 ▸ ht
    refine ⟨c, hc, .unary_of_operand ?_ (hgo (.suffixes_done ht'.1 ht'.2))⟩
    rintro hsymbol
    rw [← hfocus, hsymbol] at hk
    cases hk
  obtain ⟨k, text, w, hw, hk⟩ := id hstarts
  exact ⟨⟨k, text, w, hw, .inl hk⟩, fun _ => h, fun _ => hunary,
    fun env s _ _ _ hs ht _ => binary_of_unary (hunary env s hs ht)⟩

/-- An expression that is read at once. -/
theorem of_primary
    (hstarts : ∃ k text w, e.lexemes = (k, text) :: w ∧ k.startsOperand = true)
    (h : ∀ env s {t r}, s.cursor.Spells e.lexemes (t :: r) →
      ∃ c : Cursor, c.rest = t :: r ∧ Yields primary env s e (s.moveTo c)) : RoundTrips e :=
  of_operand hstarts fun env s _ _ hs =>
    let ⟨c, hc, hprimary⟩ := h env s hs
    ⟨c, hc, fun hmore => hprimary.bind (f := suffixes) hmore⟩

/-- An expression that is one token. -/
theorem of_token {k : Kind} {text : String} (hlexemes : e.lexemes = [(k, text)])
    (hk : k.startsOperand = true)
    (h : ∀ env s n, s.cursor.focus.kind = k → s.cursor.focus.text = text →
      primary (n + 1) env s = .done e (s.moveTo s.cursor.next)) : RoundTrips e := by
  refine of_primary ⟨k, text, [], hlexemes, hk⟩ fun env s t r hs => ?_
  rw [hlexemes] at hs
  exact ⟨s.cursor.next, hs.next.rest_eq,
    .primary_of_leaf fun n => h env s n hs.kind_focus hs.text_focus⟩

/-- The whole expression is read, if neither it nor its last operand goes on. -/
theorem whole (h : RoundTrips e) (env : Env) (s : State) {t : Token} {r : List Token}
    (hs : s.cursor.Spells e.lexemes (t :: r)) (ht : EndsOperand t) (hsymbol : t.kind ≠ .symbol) :
    ∃ c : Cursor, c.rest = t :: r ∧ Yields (Parser.binary · 0) env s e (s.moveTo c) := by
  have hlevel : operatorLevel? t = none := if_neg hsymbol
  obtain ⟨c, hc, hgo⟩ := h.binary env s e.bindsAt_zero hs ht fun level hl => by
    rw [hlevel] at hl
    cases hl
  refine ⟨c, hc, hgo (.operations_done fun level hl => ?_)⟩
  rw [State.cursor_moveTo, (Cursor.rest_eq_cons.1 hc).1, hlevel] at hl
  cases hl

/-- Expressions with commas between them are read up to what closes the list. -/
theorem sequence {close : Kind} {text : String}
    (hclose : close = .rightParen ∨ close = .rightBracket) {items : List Expr}
    (h : ∀ e ∈ items, RoundTrips e) (env : Env) (s : State) {t : Token} {r : List Token}
    (hs : s.cursor.Spells (Expr.lexemesOfList items ++ [(close, text)]) (t :: r)) :
    ∃ c : Cursor, c.rest = t :: r ∧ Yields (Parser.sequence · close) env s items (s.moveTo c) := by
  have hline : close ≠ .newline ∧ close ≠ .comma := by
    obtain rfl | rfl := hclose <;> decide
  have hstart : close.startsOperand = false ∧ close ≠ .symbol := by
    obtain rfl | rfl := hclose <;> decide
  have hends {t : Token} (ht : t.kind = close) : EndsOperand t := by
    rw [EndsOperand, ht]
    obtain rfl | rfl := hclose <;> decide
  induction items generalizing s with
  | nil => exact ⟨s.cursor.next, hs.next.rest_eq, .sequence_done hline.1 hs.kind_focus⟩
  | cons e items ih =>
    have he := h e List.mem_cons_self
    cases items with
    | nil =>
      obtain ⟨t', r', ht', hspells, hnext⟩ := hs.split
      have hkind : t'.kind = close := congrArg Prod.fst ht'
      obtain ⟨c, hc, hyields⟩ := he.whole env s hspells (hends hkind) (hkind ▸ hstart.2)
      have hclosed := hnext c hc
      refine ⟨c.next, hclosed.next.rest_eq, .sequence_last hline ?_ ?_ hyields hclosed.kind_focus⟩
      · exact he.kind_focus_ne hspells (by decide)
      · exact he.kind_focus_ne hspells hstart
    | cons e' es =>
      rw [Expr.lexemesOfList, List.append_assoc, List.cons_append] at hs
      obtain ⟨t', r', ht', hspells, hnext⟩ := hs.split
      have hkind : t'.kind = .comma := congrArg Prod.fst ht'
      have hcomma : EndsOperand t' := by
        rw [EndsOperand, hkind]
        decide
      obtain ⟨c, hc, hyields⟩ := he.whole env s hspells hcomma (by rw [hkind]; decide)
      have hmore := hnext c hc
      obtain ⟨d, hd, hrest⟩ := ih (fun a ha => h a (List.mem_cons_of_mem _ ha))
        (s.moveTo c.next) hmore.next
      refine ⟨d, hd, .sequence_cons ?_ ?_ hyields hmore.kind_focus hrest⟩
      · exact he.kind_focus_ne hspells (by decide)
      · exact he.kind_focus_ne hspells hstart

end RoundTrips

theorem roundTrips_call {callee : Expr} {args : List Expr} (hop : callee.isOperation = false)
    (hcallee : RoundTrips callee) (hargs : ∀ a ∈ args, RoundTrips a) :
    RoundTrips (.call callee args) := by
  refine .of_operand ?_ fun env s t r hs => ?_
  · obtain ⟨k, text, w, hw, hk⟩ := hcallee.starts
    refine ⟨k, text, _, by rw [Expr.lexemes, hw]; rfl, hk.resolve_right fun h => ?_⟩
    exact Bool.false_ne_true (hop.symm.trans h.2)
  · rw [Expr.lexemes] at hs
    obtain ⟨t', r', -, hspells, hnext⟩ := hs.split
    obtain ⟨c, hc, hgo⟩ := hcallee.operand hop env s hspells
    have hparen := hnext c hc
    obtain ⟨d, hd, hyields⟩ :=
      RoundTrips.sequence (.inl rfl) hargs env (s.moveTo c.next) hparen.next
    exact ⟨d, hd, fun hmore => hgo (.suffixes_call hparen.kind_focus hyields hmore)⟩

theorem roundTrips_member {object : Expr} (field : String) (hop : object.isOperation = false)
    (hobject : RoundTrips object) : RoundTrips (.member object field) := by
  refine .of_operand ?_ fun env s t r hs => ?_
  · obtain ⟨k, text, w, hw, hk⟩ := hobject.starts
    refine ⟨k, text, _, by rw [Expr.lexemes, hw]; rfl, hk.resolve_right fun h => ?_⟩
    exact Bool.false_ne_true (hop.symm.trans h.2)
  · rw [Expr.lexemes] at hs
    obtain ⟨t', r', -, hspells, hnext⟩ := hs.split
    obtain ⟨c, hc, hgo⟩ := hobject.operand hop env s hspells
    have hdot := hnext c hc
    refine ⟨c.next.next, hdot.next.next.rest_eq, fun hmore => hgo ?_⟩
    refine .suffixes_member hdot.kind_focus hdot.next.kind_focus ?_
    rw [State.cursor_moveTo, hdot.next.text_focus]
    exact hmore

theorem roundTrips_list {items : List Expr} (hitems : ∀ a ∈ items, RoundTrips a) :
    RoundTrips (.list items) := by
  refine .of_primary ⟨_, _, _, rfl, rfl⟩ fun env s t r hs => ?_
  rw [Expr.lexemes] at hs
  obtain ⟨c, hc, hyields⟩ :=
    RoundTrips.sequence (.inr rfl) hitems env (s.moveTo s.cursor.next) hs.next
  exact ⟨c, hc, .primary_list hs.kind_focus hyields⟩

theorem roundTrips_group {inner : Expr} (hinner : RoundTrips inner) :
    RoundTrips (.group inner) := by
  refine .of_primary ⟨_, _, _, rfl, rfl⟩ fun env s t r hs => ?_
  rw [Expr.lexemes] at hs
  obtain ⟨t', r', ht', hspells, hnext⟩ := hs.next.split
  have hkind : t'.kind = .rightParen := congrArg Prod.fst ht'
  have hends : EndsOperand t' := by
    rw [EndsOperand, hkind]
    decide
  obtain ⟨c, hc, hyields⟩ := hinner.whole env (s.moveTo s.cursor.next) hspells hends
    (by rw [hkind]; decide)
  have hclose := hnext c hc
  exact ⟨c.next, hclose.next.rest_eq, .primary_group hs.kind_focus
    (hinner.kind_focus_ne hspells (by decide)) hyields hclose.kind_focus⟩

theorem roundTrips_unary {op : String} {operand : Expr} (hop : Operator.isUnary op = true)
    (hbinary : operand.isBinary = false) (hoperand : RoundTrips operand) :
    RoundTrips (.unary op operand) := by
  have hunary (env : Env) (s : State) {t : Token} {r : List Token}
      (hs : s.cursor.Spells (Expr.unary op operand).lexemes (t :: r)) (ht : EndsOperand t) :
      ∃ c : Cursor, c.rest = t :: r ∧
        Yields Parser.unary env s (.unary op operand) (s.moveTo c) := by
    rw [Expr.lexemes] at hs
    obtain ⟨c, hc, hyields⟩ :=
      hoperand.unary hbinary env (s.moveTo s.cursor.next) hs.next ht
    refine ⟨c, hc, ?_⟩
    have h := Yields.unary_of_operator hs.kind_focus (by rw [hs.text_focus]; exact hop) hyields
    rwa [hs.text_focus] at h
  exact ⟨⟨_, _, _, rfl, .inr ⟨rfl, rfl⟩⟩, fun h => absurd h.symm Bool.false_ne_true,
    fun _ => hunary, fun env s _ _ _ hs ht _ => RoundTrips.binary_of_unary (hunary env s hs ht)⟩

/-- An operator between operands of which the left one binds at least as tightly and the
    right one tighter. The left operand is read and leaves the operator to the loop. The
    right operand ends where the whole does: what follows binds no tighter than the
    operator. -/
theorem roundTrips_binary {op : String} {lhs rhs : Expr} {level : Nat}
    (hlevel : Operator.precedence? op = some level) (hlhs : lhs.BindsAt level)
    (hrhs : rhs.BindsAt (level + 1)) (hl : RoundTrips lhs) (hr : RoundTrips rhs) :
    RoundTrips (.binary op lhs rhs) := by
  refine ⟨?_, fun h => absurd h.symm Bool.false_ne_true, fun h => absurd h.symm Bool.false_ne_true,
    fun {least} env s t r hleast hs ht hnext => ?_⟩
  · obtain ⟨k, text, w, hw, hk⟩ := hl.starts
    exact ⟨k, text, _, by rw [Expr.lexemes, hw]; rfl, hk.imp_right fun h => ⟨h.1, rfl⟩⟩
  · rw [Expr.bindsAt_binary_iff hlevel] at hleast
    rw [Expr.lexemes] at hs
    obtain ⟨o, r', ho, hspells, hop⟩ := hs.split
    obtain ⟨hkind, htext⟩ := Prod.mk.inj ho
    have holevel : operatorLevel? o = some level := by
      rw [operatorLevel?, if_pos hkind, htext, hlevel]
    have hoends : EndsOperand o := by
      rw [EndsOperand, hkind]
      decide
    obtain ⟨c, hc, hgo⟩ := hl.binary env s (hlhs.mono hleast) hspells hoends
      fun l h => by rwa [Option.some.inj (h.symm.trans holevel)]
    have hsymbol := hop c hc
    have hfollow (l : Nat) (h : operatorLevel? t = some l) : l ≤ level :=
      (Expr.bindsAt_binary_iff hlevel).1 (hnext l h)
    obtain ⟨d, hd, hgo'⟩ := hr.binary env (s.moveTo c.next) hrhs hsymbol.next ht
      fun l h => hrhs.mono ((hfollow l h).trans (Nat.le_succ level))
    have hoperand : Yields (binary · (level + 1)) env (s.moveTo c.next) rhs (s.moveTo d) := by
      refine hgo' (.operations_done fun l h => Nat.lt_succ_of_le (hfollow l ?_))
      rwa [State.cursor_moveTo, (Cursor.rest_eq_cons.1 hd).1] at h
    refine ⟨d, hd, fun hmore => hgo ?_⟩
    refine .operations_step ?_ hleast (hr.kind_focus_ne hsymbol.next (by decide)) hoperand ?_
    · rw [State.cursor_moveTo, (Cursor.rest_eq_cons.1 hc).1, holevel]
    · rw [State.cursor_moveTo, hsymbol.text_focus]
      exact hmore

/-- Canonical expressions without gaps are read back, wherever they are written. -/
theorem roundTrips {e : Expr} (h : e.IsCanonical) (hgap : none ∉ e.reading) : RoundTrips e := by
  induction h with
  | ident name =>
    refine .of_token rfl rfl fun env s n hk ht => ?_
    rw [primary, current_bind, hk, ht]
    rfl
  | string value =>
    refine .of_token rfl rfl fun env s n hk ht => ?_
    rw [primary, current_bind, hk, ht, unquote_lexeme]
    rfl
  | number literal =>
    refine .of_token rfl rfl fun env s n hk ht => ?_
    rw [primary, current_bind, hk, ht]
    rfl
  | bool value =>
    cases value <;>
      refine .of_token rfl rfl fun env s n hk ht => ?_ <;>
      rw [primary, current_bind, hk] <;>
      rfl
  | call hop _ _ ihcallee ihargs =>
    rw [Expr.reading, Expr.readingOfList_eq, List.mem_append, not_or] at hgap
    refine roundTrips_call hop (ihcallee hgap.1) fun a ha => ihargs a ha fun h => ?_
    exact hgap.2 (List.mem_flatMap_of_mem ha h)
  | member field hop _ ih =>
    exact roundTrips_member field hop (ih fun h => hgap (List.mem_append_left _ h))
  | list _ ih =>
    rw [Expr.reading, Expr.readingOfList_eq] at hgap
    exact roundTrips_list fun a ha => ih a ha fun h => hgap (List.mem_flatMap_of_mem ha h)
  | group _ ih => exact roundTrips_group (ih hgap)
  | binary hlevel hlhs hrhs _ _ ihl ihr =>
    refine roundTrips_binary hlevel hlhs hrhs (ihl fun h => hgap (List.mem_append_left _ h)) ?_
    exact ihr fun h => hgap (List.mem_append_right _ (List.mem_cons_of_mem _ h))
  | unary hop hbinary _ ih =>
    exact roundTrips_unary hop hbinary (ih fun h => hgap (List.mem_cons_of_mem _ h))
  | missing => exact absurd (List.mem_singleton_self _) hgap

/-! ## Bindings -/

namespace Yields

/-- A binding is read up to the end of its line. -/
theorem clause_let {name : String} {e : Expr} (he : RoundTrips e) {w : List Lexeme} {t : Token}
    {r : List Token} (env : Env) (s : State)
    (hs : s.cursor.Spells ((.letKw, "let") :: (.text, name) :: (.equals, "=") ::
      (e.lexemes ++ (.newline, "\n") :: w)) (t :: r)) :
    ∃ c : Cursor, c.Spells ((.newline, "\n") :: w) (t :: r) ∧ Yields (clause · .letKw) env s
      (.letBinding name e s.cursor.focus.position.line) (s.moveTo c) := by
  obtain ⟨t', r', ht', hspells, hnext⟩ := hs.next.next.next.split
  have hkind : t'.kind = .newline := congrArg Prod.fst ht'
  have hends : EndsOperand t' := by
    rw [EndsOperand, hkind]
    decide
  obtain ⟨c, hc, hyields⟩ := he.whole { env with constructs := .expression :: env.constructs }
    (s.moveTo s.cursor.next.next.next) hspells hends (by rw [hkind]; decide)
  refine ⟨c, hnext c hc, of_succ ?_⟩
  filter_upwards [hyields] with n hn
  have hvalue : expression n env (s.moveTo s.cursor.next.next.next) = .done e (s.moveTo c) := hn
  rw [clause, currentLine_bind]
  simp only [advance_bind, expectName_bind, State.cursor_moveTo, hs.next.kind_focus, if_true,
    expect_bind, hs.next.next.kind_focus, hs.next.text_focus]
  change (expression n >>= fun value => pure (Statement.letBinding name value _)) env
    (s.moveTo s.cursor.next.next.next) = _
  rw [bind_apply, hvalue]
  rfl

/-- A statement that begins with the keyword of a binding is an item. -/
theorem item_let {st : Statement} {s₁ : State} (hkind : s.cursor.focus.kind = .letKw)
    (hclause : Yields (clause · .letKw) env s st s₁)
    (hend : s₁.cursor.focus.kind.endsStatement = true) :
    Yields item env s (.statement st) s₁ := by
  have hmeant : env.meant? s.cursor = none := by simp [Env.meant?, hkind]
  have hstatement : Yields (statementAs · .letKw) env s st s₁ := by
    refine of_succ ?_
    filter_upwards [hclause] with n hn
    rw [statementAs, bind_apply, hn]
    · dsimp only
      rw [endStatement_bind, if_pos hend]
      rfl
    all_goals exact nofun
  filter_upwards [hstatement] with n hn
  rw [item, effectiveKind_bind, hmeant, hkind]
  dsimp only
  rw [bind_apply, hn]
  rfl

/-- Nothing is left to read behind the last line. -/
theorem items_nil (env : Env) (s : State) {t a : Token} {r : List Token}
    (hrest : s.cursor.rest = a :: t :: r)
    (ha : a.kind = .newline) (ht : t.kind = .eof) :
    Yields items env s [] (s.moveTo ⟨a :: s.cursor.behind, t, r⟩) := by
  have hskip : s.cursor.skip (fun k => k = .newline || k = .semicolon) =
      ⟨a :: s.cursor.behind, t, r⟩ :=
    Cursor.skip_of_rest (l := [a]) hrest (by simp [ha]) (by simp [ht])
  refine of_succ (.of_forall fun n => ?_)
  rw [items, skipSeparators, skip_bind, hskip, halted_bind, currentKind_bind, if_pos]
  · rfl
  · simp [ht]

/-- An item is read that ends at a token of another kind, and then the others are. -/
theorem items_cons {i : Item} {l : List Item} {s₁ : State} (hroom : s.room ≠ 0)
    (hkind : s.cursor.focus.kind ≠ .newline ∧ s.cursor.focus.kind ≠ .semicolon ∧
      s.cursor.focus.kind ≠ .eof)
    (hitem : Yields item env s i s₁) (hne : s₁.cursor.focus.kind ≠ s.cursor.focus.kind)
    (hmore : Yields items env s₁ l s') : Yields items env s (i :: l) s' := by
  have hskip : s.cursor.skip (fun k => k = .newline || k = .semicolon) = s.cursor :=
    Cursor.skip_eq_self (by simp [hkind])
  refine of_succ ?_
  filter_upwards [hitem, hmore] with n hn hn'
  -- The item has moved on, since the token under the cursor is another one.
  have hmove : ¬(s₁.cursor.index = s.cursor.index ∧ s₁.cursor.focus.kind ≠ .eof) := by
    rintro ⟨hindex, -⟩
    obtain ⟨-, -, hfocus⟩ := (allForward n).item env s s₁ (by rw [hn]; rfl)
    rw [hindex, s.cursor.getElem?_index] at hfocus
    exact hne (congrArg Token.kind (Option.some.inj hfocus).symm)
  have hsome : (some <$> item n) env s = .done (some i) s₁ := by
    rw [map_eq_pure_bind, bind_apply, hn]
    rfl
  have hguard : ¬(decide (s.room = 0) || decide (s.cursor.focus.kind = .eof)) = true := by
    simp [hroom, hkind]
  rw [items, skipSeparators, skip_bind, hskip, show s.moveTo s.cursor = s from rfl, halted_bind,
    currentKind_bind, if_neg hguard, cursor_bind, orRecover_bind, hsome]
  dsimp only
  rw [ensureProgress_bind, if_neg hmove, bind_apply, hn']
  rfl

end Yields

/-- A binding of a canonical expression without gaps, in a line of its own, is the only item,
    and there is nothing wrong with it. -/
theorem parse_let {e : Expr} (he : e.IsCanonical) (hgap : none ∉ e.reading) {name : String}
    {first : Token} {more : List Token} (source : Option String) (dictionary : Dictionary)
    {settings : Settings} (hcap : 1 ≤ settings.maxErrors)
    (htokens : (first :: more).map Token.lexeme = Expr.lexemesOfLet name e) :
    parse (first :: more) source dictionary settings =
      .ok ⟨[.statement (.letBinding name e first.position.line)], []⟩ := by
  have hlexemes : Expr.lexemesOfLet name e = ((.letKw, "let") :: (.text, name) ::
      (.equals, "=") :: (e.lexemes ++ [(.newline, "\n")])) ++ [(.eof, "")] := by
    simp [Expr.lexemesOfLet]
  have hlast : (first :: more).getLast?.map (·.kind) = some .eof := by
    have h := congrArg List.getLast? (htokens.trans hlexemes)
    rw [List.getLast?_map, List.getLast?_concat] at h
    have h' := congrArg (Option.map Prod.fst) h
    rwa [Option.map_map] at h'
  obtain ⟨c, found, s, hc, -, hdone, hparse⟩ :=
    isParsed_of_getLast? source dictionary settings hlast
  obtain ⟨hrest, -⟩ := Cursor.rest_of_ofList? hc
  have hfirst : c.focus = first := (Cursor.rest_eq_cons.1 hrest).1
  obtain ⟨t, r, ht, hspells, -⟩ := Cursor.Spells.split (c := c) (l := [])
    ⟨first :: more, htokens.trans hlexemes, by rw [hrest, List.append_nil]⟩
  -- The binding is read, up to the line end, and then nothing more.
  obtain ⟨d, hd, hclause⟩ := Yields.clause_let (roundTrips he hgap)
    (.start source dictionary settings) (.start c settings) hspells
  have hkind : d.focus.kind = .newline := hd.kind_focus
  have hlet : (State.start c settings).cursor.focus.kind = .letKw := hspells.kind_focus
  have hitem := Yields.item_let hlet hclause (by rw [State.cursor_moveTo, hkind]; rfl)
  have hnil := Yields.items_nil (.start source dictionary settings)
    ((State.start c settings).moveTo d) hd.rest_of_singleton hkind (congrArg Prod.fst ht)
  have hroom : (State.start c settings).room ≠ 0 := Nat.ne_of_gt hcap
  have hitems := hitem.items_cons hroom (by rw [hlet]; decide)
    (by rw [State.cursor_moveTo, hkind, hlet]; decide) hnil
  obtain ⟨n, hn, hn'⟩ := (hitems.and (eventually_ge_atTop (depthFor (first :: more).length))).exists
  obtain ⟨rfl, rfl⟩ := Outcome.done.inj ((hdone n hn').symm.trans hn)
  rw [hparse, show (State.start c settings).cursor.focus = first from hfirst]
  rfl

/-- Expressions make the round trip, and operators take the operands that are theirs. A
    canonical expression without gaps that is bound to a name is read back from the tokens
    that the binding is written as, wherever they stand, and nothing else is read or
    reported. And whatever is read of any list, all expressions in it are canonical. -/
theorem parse_round_trip :
    (∀ (e : Expr) (name : String) (tokens : List Token) (source : Option String)
      (dictionary : Dictionary) (settings : Settings), e.IsCanonical → none ∉ e.reading →
      1 ≤ settings.maxErrors → tokens.map Token.lexeme = Expr.lexemesOfLet name e →
      ∃ first, tokens.head? = some first ∧ parse tokens source dictionary settings =
        .ok ⟨[.statement (.letBinding name e first.position.line)], []⟩) ∧
    ∀ (tokens : List Token) (source : Option String) (dictionary : Dictionary)
      (settings : Settings) (output : ParseOutput),
      parse tokens source dictionary settings = .ok output →
      ∀ i ∈ output.items, ∀ e ∈ i.exprs, e.IsCanonical := by
  refine ⟨fun e name tokens source dictionary settings he hgap hcap htokens => ?_,
    fun tokens source dictionary settings output h => parse_canonical h⟩
  cases tokens with
  | nil => cases htokens
  | cons first more => exact ⟨first, rfl, parse_let he hgap source dictionary hcap htokens⟩

/-- An expression with operators of several levels, two of them of the same one, an operator
    in front, a call of a member, a list and a group. -/
theorem parse_round_trip_of_operators : ∃ e : Expr, e.IsCanonical ∧ none ∉ e.reading ∧
    1 ≤ ({} : Settings).maxErrors ∧
    (tokenize "let v = -a.f(1, [\"s\"]) - b * (true || c) - d\n").tokens.map Token.lexeme =
      Expr.lexemesOfLet "v" e ∧
    parse (tokenize "let v = -a.f(1, [\"s\"]) - b * (true || c) - d\n").tokens none
      { keywords := [] } {} = .ok ⟨[.statement (.letBinding "v" e 1)], []⟩ := by
  let call : Expr := .call (.member (.ident "a") "f") [.number "1", .list [.string "s"]]
  let group : Expr := .group (.binary "||" (.bool true) (.ident "c"))
  let e : Expr := .binary "-" (.binary "-" (.unary "-" call) (.binary "*" (.ident "b") group))
    (.ident "d")
  have hargs : ∀ a ∈ [Expr.number "1", .list [.string "s"]], a.IsCanonical :=
    List.forall_mem_cons.2 ⟨.number _, List.forall_mem_singleton.2
      (.list (List.forall_mem_singleton.2 (.string _)))⟩
  have hminus : Operator.precedence? "-" = some 6 := rfl
  have htimes : Operator.precedence? "*" = some 7 := rfl
  have hor : Operator.precedence? "||" = some 2 := rfl
  have hcall : call.IsCanonical := .call rfl (.member _ rfl (.ident _)) hargs
  have hgroup : group.IsCanonical := .group (.binary hor trivial trivial (.bool _) (.ident _))
  have hproduct : (Expr.binary "*" (.ident "b") group).IsCanonical :=
    .binary htimes trivial trivial (.ident _) hgroup
  -- The product binds tighter than the difference on its left.
  have hfirst : (Expr.binary "-" (.unary "-" call) (.binary "*" (.ident "b") group)).IsCanonical :=
    .binary hminus trivial ((Expr.bindsAt_binary_iff htimes).2 (by decide))
      (.unary rfl rfl hcall) hproduct
  have he : e.IsCanonical :=
    .binary hminus ((Expr.bindsAt_binary_iff hminus).2 (by decide)) trivial hfirst (.ident _)
  have hgap : none ∉ e.reading := by decide
  have htokens : (tokenize "let v = -a.f(1, [\"s\"]) - b * (true || c) - d\n").tokens.map
      Token.lexeme = Expr.lexemesOfLet "v" e := by decide +kernel
  obtain ⟨first, hhead, hparse⟩ := parse_round_trip.1 e "v" _ none { keywords := [] } {} he hgap
    (by decide) htokens
  have hline : (tokenize "let v = -a.f(1, [\"s\"]) - b * (true || c) - d\n").tokens.head?.map
      (·.position.line) = some 1 := by decide +kernel
  rw [hhead] at hline
  have hone : first.position.line = 1 := Option.some.inj hline
  rw [hone] at hparse
  exact ⟨e, he, hgap, by decide, htokens, hparse⟩

end Parser

end SunLint
