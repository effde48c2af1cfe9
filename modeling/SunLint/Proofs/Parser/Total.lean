import SunLint.Analysis
import SunLint.Proofs.Parser.Depth
import SunLint.Proofs.Parser.Stable

/-!
# Every list of tokens is parsed

A list that ends with the end of the input can be parsed, whatever the tokens, the
dictionary and the settings are: the items are read to a result, which no greater
depth would change (`items_eq_done`).

* `IsForward`: a parser ends within the list, and not before the place it was
  called at;
* `IsLoop`: a parser is a loop, and each of its rounds but the last one moves on;
* `parse_total`: all parsers are forward, the five loops are loops, and so every
  list and every text is parsed.
-/

namespace SunLint

namespace Parser

variable {α : Type}

/-- The state a parser ended in, unless its depth ran out. -/
def Outcome.state? : Outcome α → Option State
  | .done _ s => some s
  | .failed _ s => some s
  | .exhausted => none

/-- Wherever the parser is called, it ends at a token of the same list, and not
    before the one it was called at. -/
def IsForward (p : Parser α) : Prop :=
  ∀ env s s', (p env s).state? = some s' → s'.cursor.tokens = s.cursor.tokens ∧
    s.cursor.index ≤ s'.cursor.index ∧
    s.cursor.tokens[s'.cursor.index]? = some s'.cursor.focus

theorem Proceeds.isForward {p : Parser α} {needed : Cursor → Prop} (h : Proceeds p needed) :
    IsForward p := by
  have hle (c d : Cursor) (hcd : c ≤ d) : d.tokens = c.tokens ∧ c.index ≤ d.index ∧
      c.tokens[d.index]? = some d.focus :=
    ⟨hcd.1.symm, hcd.2, hcd.1 ▸ d.getElem?_index⟩
  intro env s s' hs'
  have hp := h env s
  cases hr : p env s with
  | done a t =>
    rw [hr] at hp hs'
    cases hs'
    exact hle _ _ hp.1
  | failed e t =>
    rw [hr] at hp hs'
    cases hs'
    exact hle _ _ hp
  | exhausted =>
    rw [hr] at hs'
    cases hs'

/-- All parsers go forward when they are called to the depth `n`. -/
structure AllForward (n : Nat) : Prop where
  items : IsForward (items n)
  item : IsForward (item n)
  directive : IsForward (directive n)
  directiveArgs : IsForward (directiveArgs n)
  importItem : IsForward importItem
  exportItem : IsForward (exportItem n)
  callable : ∀ form, IsForward (callable n form)
  params : IsForward (params n)
  paramList : IsForward (paramList n)
  blockBody : ∀ opened, IsForward (blockBody n opened)
  statement : IsForward (statement n)
  statementAs : ∀ kind, IsForward (statementAs n kind)
  clause : ∀ kind, IsForward (clause n kind)
  conditional : IsForward (conditional n)
  branch : IsForward (branch n)
  expression : IsForward (expression n)
  binary : ∀ least, IsForward (binary n least)
  operations : ∀ least lhs, IsForward (operations n least lhs)
  unary : IsForward (unary n)
  suffixes : ∀ e, IsForward (suffixes n e)
  sequence : ∀ close, IsForward (sequence n close)
  primary : IsForward (primary n)

theorem allForward (n : Nat) : AllForward n where
  items := (items_proceed n).isForward
  item := (item_proceeds n).isForward
  directive := (directive_proceeds n).isForward
  directiveArgs := (directiveArgs_proceeds n).isForward
  importItem := importItem_plain.isForward
  exportItem := (exportItem_proceeds n).isForward
  callable form := ((statements_proceed n).callable form).isForward
  params := (params_proceeds n).isForward
  paramList := (paramList_proceeds n).isForward
  blockBody opened := ((statements_proceed n).blockBody opened).isForward
  statement := (statements_proceed n).statement.isForward
  statementAs kind := ((statements_proceed n).statementAs kind).isForward
  clause kind := ((statements_proceed n).clause kind).isForward
  conditional := (statements_proceed n).conditional.isForward
  branch := (statements_proceed n).branch.isForward
  expression := (expression_proceeds n).isForward
  binary least := ((expressions_proceed n).binary least).isForward
  operations least lhs := ((expressions_proceed n).operations least lhs).isForward
  unary := (expressions_proceed n).unary.isForward
  suffixes e := ((expressions_proceed n).suffixes e).isForward
  sequence close := ((expressions_proceed n).sequence close).isForward
  primary := (expressions_proceed n).primary.isForward

/-! ## Loops -/

/-- The parser does one round after the other. In a list that ends with the end of
    the input, every round that is not the last one moves the cursor on. -/
structure IsLoop (loop : Nat → Parser (List α)) (round : Nat → Parser (List α × Bool)) :
    Prop where
  unfolds : ∀ n, loop (n + 1) = again (round n) (loop n)
  moves_on : ∀ n env s found s', s.cursor.IsTerminated →
    round n env s = .done (found, true) s' →
    s'.cursor.tokens = s.cursor.tokens ∧ s.cursor.index < s'.cursor.index

theorem Advances.isLoop {loop : Nat → Parser (List α)} {round : Nat → Parser (List α × Bool)}
    {needed : Nat → Cursor → Prop} (hround : ∀ n, Advances (round n) (needed n))
    (hloop : ∀ n, loop (n + 1) = again (round n) (loop n)) : IsLoop loop round where
  unfolds := hloop
  moves_on n env s found s' ht hr := by
    have h := hround n env s
    rw [hr] at h
    have hlt := Cursor.lt_def.1 (h.2 rfl ht)
    exact ⟨hlt.1.symm, hlt.2⟩

theorem isLoop_items : IsLoop items fun n => itemRound (item n) :=
  Advances.isLoop (fun n => itemRound_advances (item_proceeds n)) items_succ

theorem isLoop_blockBody (opened : Nat) :
    IsLoop (blockBody · opened) fun n => blockRound (statement n) opened :=
  Advances.isLoop (fun n => blockRound_advances (statements_proceed n).statement opened)
    fun n => blockBody_succ n opened

theorem isLoop_directiveArgs : IsLoop directiveArgs fun n => argRound (expression n) :=
  Advances.isLoop (fun n => argRound_advances (expression_proceeds n)) directiveArgs_succ

theorem isLoop_paramList : IsLoop paramList fun _ => listRound expectName .rightParen :=
  Advances.isLoop (fun n => listRound_advances (expectName_plain.proceeds (Enough 0 n)) _)
    paramList_succ

theorem isLoop_sequence (close : Kind) :
    IsLoop (sequence · close) fun n => listRound (binary n 0) close :=
  Advances.isLoop (fun n => listRound_advances ((expressions_proceed n).binary 0) close)
    fun n => sequence_succ n close

/-! ## Results -/

theorem enough_depthFor {c : Cursor} (h : c.IsTerminated) : Enough 6 (depthFor c.tokens.length) c :=
  ⟨h, by have := c.index_add_length_ahead; unfold depthFor; omega⟩

/-- The parser does not fail. -/
def NeverFails (p : Parser α) : Prop := ∀ env s e s', p env s ≠ .failed e s'

theorem NeverFails.bind {β : Type} {p : Parser α} {f : α → Parser β} (hp : NeverFails p)
    (hf : ∀ a, NeverFails (f a)) : NeverFails (p >>= f) := by
  intro env s e s'
  rw [bind_apply]
  cases hr : p env s with
  | done a t => exact hf a env t e s'
  | failed e' t => exact absurd hr (hp env s e' t)
  | exhausted => exact nofun

theorem pure_neverFails (a : α) : NeverFails (pure a) := fun _ _ _ _ => nofun

theorem orRecover_neverFails (p : Parser α) (fallback : α) : NeverFails (orRecover p fallback) := by
  intro env s e s'
  rw [← bind_pure (orRecover p fallback), orRecover_bind]
  cases p env s <;> exact nofun

theorem guarded_neverFails (p : Parser α) (fallback : α) : NeverFails (guarded p fallback) := by
  intro env s
  refine (orRecover_neverFails p fallback).bind (fun a env s e s' => ?_) env s
  rw [ensureProgress_bind]
  split <;> exact nofun

theorem itemRound_neverFails (p : Parser Item) : NeverFails (itemRound p) := by
  intro env s e s'
  simp only [itemRound, skipSeparators, skip_bind, halted_bind, currentKind_bind]
  split
  · exact pure_neverFails _ _ _ _ _
  · exact (guarded_neverFails _ _).bind (fun _ => pure_neverFails _) _ _ _ _

/-- The items do not fail, since every failure of one of them is recovered from. -/
theorem items_neverFails (n : Nat) : NeverFails (items n) := by
  induction n with
  | zero => exact fun _ _ _ _ => nofun
  | succ n ih =>
    rw [items_succ]
    refine (itemRound_neverFails _).bind fun (found, more) => ?_
    cases more with
    | false => exact pure_neverFails found
    | true => exact ih.bind fun _ => pure_neverFails _

/-- From any place in a list that ends with the end of the input, the items are read
    to a result, and the result does not depend on the depth. -/
theorem items_eq_done (env : Env) {s : State} (h : s.cursor.IsTerminated) :
    ∃ found s', s.cursor ≤ s'.cursor ∧
      ∀ n ≥ depthFor s.cursor.tokens.length, items n env s = .done found s' := by
  have hp := items_proceed (depthFor s.cursor.tokens.length) env s
  cases hr : items (depthFor s.cursor.tokens.length) env s with
  | done found s' =>
    rw [hr] at hp
    refine ⟨found, s', hp.1, fun n hn => ?_⟩
    rw [Below.of_le items_stable hn env s (by simp [hr]), hr]
  | failed e s' => exact absurd hr (items_neverFails _ _ _ _ _)
  | exhausted =>
    -- Then the depth was not enough, but it was.
    rw [hr] at hp
    exact absurd (enough_depthFor h) hp

/-- What the parsers of a list are called with. -/
def Env.start (source : Option String) (dictionary : Dictionary) (settings : Settings) : Env where
  scene := { dictionary, source, limits := settings.limits }

/-- The state that the parse of a list starts in. -/
def State.start (c : Cursor) (settings : Settings) : State where
  cursor := c
  room := settings.maxErrors

/-- The list of tokens has been parsed: its items were read to a result, at any depth
    from a certain one on, and they and the errors are the output. -/
def IsParsed (tokens : List Token) (source : Option String) (dictionary : Dictionary)
    (settings : Settings) : Prop :=
  ∃ c found s, Cursor.ofList? tokens = some c ∧
    tokens[s.cursor.index]? = some s.cursor.focus ∧
    (∀ n ≥ depthFor tokens.length, items n (.start source dictionary settings)
      (.start c settings) = .done found s) ∧
    parse tokens source dictionary settings = .ok ⟨found, s.errors.reverse⟩

theorem isParsed_of_getLast? {tokens : List Token} (source : Option String)
    (dictionary : Dictionary) (settings : Settings)
    (h : tokens.getLast?.map (·.kind) = some .eof) :
    IsParsed tokens source dictionary settings := by
  obtain ⟨c, hc⟩ : ∃ c, Cursor.ofList? tokens = some c := by
    cases tokens with
    | nil => cases h
    | cons t ts => exact ⟨_, rfl⟩
  have hlist : c.tokens = tokens := Cursor.tokens_ofList? hc
  have ht : c.IsTerminated := by rw [Cursor.IsTerminated, hlist, h]
  obtain ⟨found, s, hle, hdone⟩ := items_eq_done (.start source dictionary settings)
    (s := .start c settings) ht
  change ∀ n ≥ depthFor c.tokens.length, _ at hdone
  rw [hlist] at hdone
  have hs : s.cursor.tokens = tokens := hle.1.symm.trans hlist
  refine ⟨c, found, s, hc, hs ▸ s.cursor.getElem?_index, hdone, ?_⟩
  have houtput := congrArg Outcome.output (hdone _ (Nat.le_refl _))
  rw [parse, hc]
  simp only [h, if_true]
  exact congrArg Except.ok houtput

/-! ## The whole -/

/-- Parsing is total. Any list that ends with the end of the input is parsed, within
    the list. No parser ever goes back, and each of the five loops either ends or
    moves on with every round it does. So the standard analyzer finds the errors of
    every text. -/
theorem parse_total (dictionary : Dictionary) (settings : Settings) :
    (∀ tokens source, tokens.getLast?.map (·.kind) = some .eof →
      IsParsed tokens source dictionary settings) ∧
    (∀ n, AllForward n) ∧
    IsLoop items (fun n => itemRound (item n)) ∧
    (∀ opened, IsLoop (blockBody · opened) fun n => blockRound (statement n) opened) ∧
    IsLoop directiveArgs (fun n => argRound (expression n)) ∧
    IsLoop paramList (fun _ => listRound expectName .rightParen) ∧
    (∀ close, IsLoop (sequence · close) fun n => listRound (binary n 0) close) ∧
    ∀ source, IsParsed (tokenize source).tokens (some source) dictionary settings ∧
      ∃ errors, (Analyzer.standard settings dictionary).analyze source = .ok errors := by
  refine ⟨fun _ source h => isParsed_of_getLast? source dictionary settings h, allForward,
    isLoop_items, isLoop_blockBody, isLoop_directiveArgs, isLoop_paramList, isLoop_sequence,
    fun source => ?_⟩
  have h := isTerminated_tokenize source
  rw [TokenStream.isTerminated, decide_eq_true_eq] at h
  have hparsed := isParsed_of_getLast? (some source) dictionary settings h
  refine ⟨hparsed, ?_⟩
  obtain ⟨c, found, s, _, _, _, hparse⟩ := hparsed
  refine ⟨⟨(tokenize source).errors, s.errors.reverse⟩, ?_⟩
  change analyze dictionary settings source = _
  simp only [analyze, hparse]

/-- A list with another end of the input in its midst is parsed as well, here one
    where a block is still open. -/
theorem parse_total_of_inner_eof : ∃ (tokens : List Token) (dictionary : Dictionary),
    (tokens.map (·.kind)).count .eof = 2 ∧
    tokens.getLast?.map (·.kind) = some .eof ∧ IsParsed tokens none dictionary {} := by
  let tokens : List Token :=
    [⟨.leftBrace, "\x7b", ⟨1, 1⟩⟩, .eof ⟨1, 2⟩, ⟨.text, "x", ⟨1, 3⟩⟩, .eof ⟨1, 4⟩]
  exact ⟨tokens, { keywords := [] }, rfl, rfl, (parse_total _ _).1 tokens none rfl⟩

end Parser

end SunLint
