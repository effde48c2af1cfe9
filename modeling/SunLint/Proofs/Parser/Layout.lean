import Mathlib.Data.List.Nodup
import Mathlib.Logic.Function.Basic
import SunLint.Proofs.Parser.Compositional
import SunLint.Proofs.Parser.Moved

/-!
# What does not depend on columns

The tokens of a list are moved to other columns of their lines (`Token.Shifts`). No parser
notices (`IsBlind`): it takes the same way through both lists, and comes to the same result.
The errors that it records on the way are about the same tokens and say the same, and they
come in the order of these tokens (`Anchored`).

Positions are looked at in two places. A condition without a result is not reported if the
last error is at the same place, and the recovery does not report a second error at the place
of the first one. In both cases the positions are those of tokens of the list, and they are
equal after the move if they were before.

* `blind_isCompositional`: no small parser notices, so that no parser does;
* `parse_shifted`: the same items are read, and the same errors recorded;
* `parse_layout`: so it is with any two lists whose tokens agree in kind, text and line, if
  neither has two tokens at one place (`Token.exists_shifts`).
-/

namespace SunLint

open Recovery

variable {f : Token → Token} {l l' : List Token}

/-! ## Tokens -/

theorem Token.Matches.refl (t : Token) : t.Matches t := ⟨rfl, rfl, rfl⟩

/-- The tokens are moved within their lines, two tokens of the list to one place if and only if
    they were at one place. -/
structure Token.Shifts (f : Token → Token) (l : List Token) : Prop where
  same : ∀ t : Token, t.Matches (f t)
  position_iff : ∀ t ∈ l, ∀ t' ∈ l, (f t).position = (f t').position ↔ t.position = t'.position

namespace Token.Shifts

theorem keeps (h : Token.Shifts f l) : Token.Keeps f where
  kind t := (h.same t).kind
  text t _ := (h.same t).text
  line_iff t t' := by rw [(h.same t).line, (h.same t').line]

theorem display (h : Token.Shifts f l) (t : Token) : (f t).display = t.display := by
  rw [Token.display, Token.display, (h.same t).kind, (h.same t).text]

theorem refl (l : List Token) : Token.Shifts id l := ⟨.refl, fun _ _ _ _ => Iff.rfl⟩

end Token.Shifts

/-- A list of different tokens is turned into any other one with matching tokens. -/
theorem Token.exists_map_eq (h : List.Forall₂ Token.Matches l l') (hl : l.Nodup) :
    ∃ f, (∀ t : Token, t.Matches (f t)) ∧ l.map f = l' := by
  induction h with
  | nil => exact ⟨id, .refl, rfl⟩
  | @cons a b l l' hab _ ih =>
    obtain ⟨ha, hl⟩ := List.nodup_cons.1 hl
    obtain ⟨f, hf, rfl⟩ := ih hl
    refine ⟨Function.update f a b, fun t => ?_, ?_⟩
    · rcases eq_or_ne t a with rfl | hne
      · rwa [Function.update_self]
      · rw [Function.update_of_ne hne]
        exact hf t
    · rw [List.map_cons, Function.update_self]
      congr 1
      refine List.map_congr_left fun t ht => Function.update_of_ne ?_ b f
      rintro rfl
      exact ha ht

/-- If no two tokens of a list are at one place, neither before nor after they are turned into
    matching tokens, then they are moved. -/
theorem Token.shifts_of_nodup (hf : ∀ t : Token, t.Matches (f t))
    (hl : (l.map (·.position)).Nodup) (hl' : ((l.map f).map (·.position)).Nodup) :
    Token.Shifts f l := by
  refine ⟨hf, fun t ht t' ht' => ?_⟩
  rw [List.map_map] at hl'
  constructor
  · intro hposition
    rw [List.inj_on_of_nodup_map hl' ht ht' hposition]
  · intro hposition
    rw [List.inj_on_of_nodup_map hl ht ht' hposition]

/-- If no two tokens of a list are at one place, in neither of two lists with matching tokens,
    then the one list is moved to the other. -/
theorem Token.exists_shifts (h : List.Forall₂ Token.Matches l l')
    (hl : (l.map (·.position)).Nodup) (hl' : (l'.map (·.position)).Nodup) :
    ∃ f, Token.Shifts f l ∧ l.map f = l' := by
  obtain ⟨f, hf, rfl⟩ := exists_map_eq h (hl.of_map _)
  exact ⟨f, shifts_of_nodup hf hl hl', rfl⟩

/-! ## Errors -/

/-- The errors say the same, perhaps about different tokens. -/
structure SyntaxError.Agrees (e e' : SyntaxError) : Prop where
  code : e'.code = e.code
  severity : e'.severity = e.severity
  message : e'.message = e.message
  expected : e'.expected = e.expected
  suggestions : e'.suggestions = e.suggestions
  construct : e'.context.construct = e.context.construct
  enclosing : e'.context.enclosing = e.context.enclosing

/-- The first error is about the token of the list with the index, and the second one says the
    same about the token that this one is moved to. -/
structure SyntaxError.Shifted (f : Token → Token) (l : List Token) (i : Nat)
    (e e' : SyntaxError) : Prop extends e.Agrees e' where
  token : l[i]? = some e.token
  position : e.position = e.token.position
  token_eq : e'.token = f e.token
  position_eq : e'.position = e'.token.position

theorem SyntaxError.Shifted.position_shifted {i : Nat} {e e' : SyntaxError}
    (h : e.Shifted f l i e') : e'.position = (f e.token).position := by
  rw [h.position_eq, h.token_eq]

/-- The errors of both lists, the latest first, are about tokens up to the index, in the order
    of the tokens. -/
inductive Anchored (f : Token → Token) (l : List Token) :
    Nat → List SyntaxError → List SyntaxError → Prop
  | nil {n : Nat} : Anchored f l n [] []
  | cons {n i : Nat} {e e' : SyntaxError} {es es' : List SyntaxError} (hle : i ≤ n)
    (he : e.Shifted f l i e') (h : Anchored f l i es es') : Anchored f l n (e :: es) (e' :: es')

theorem Anchored.mono {n m : Nat} {es es' : List SyntaxError} (h : Anchored f l n es es')
    (hle : n ≤ m) : Anchored f l m es es' := by
  cases h with
  | nil => exact .nil
  | cons hi he h => exact .cons (Nat.le_trans hi hle) he h

/-- The errors say the same about the tokens of one index in both lists. -/
structure SyntaxError.Corresponds (tokens tokens' : List Token) (e e' : SyntaxError) : Prop
    extends e.Agrees e' where
  index : ∃ i : Nat, tokens[i]? = some e.token ∧ tokens'[i]? = some e'.token
  position : e.position = e.token.position
  position' : e'.position = e'.token.position
  /-- Only the columns may differ. -/
  line : e'.position.line = e.position.line

theorem Anchored.corresponds {n : Nat} {es es' : List SyntaxError} (h : Anchored f l n es es')
    (hf : ∀ t : Token, t.Matches (f t)) :
    List.Forall₂ (SyntaxError.Corresponds l (l.map f)) es es' := by
  induction h with
  | nil => exact .nil
  | @cons n i e e' es es' _ he _ ih =>
    have htoken : (l.map f)[i]? = some e'.token := by
      rw [List.getElem?_map, he.token, he.token_eq, Option.map_some]
    have hline : e'.position.line = e.position.line := by
      rw [he.position_shifted, he.position, (hf e.token).line]
    exact .cons ⟨he.toAgrees, ⟨i, he.token, htoken⟩, he.position, he.position_eq, hline⟩ ih

/-- What is recorded with the same words about the token under the cursor. -/
theorem Scene.shifted_recordLed {scene scene' : Scene} {context context' : Context} {c : Cursor}
    (hf : Token.Keeps f) (hdictionary : scene'.dictionary = scene.dictionary)
    (hconstruct : context'.construct = context.construct)
    (henclosing : context'.enclosing = context.enclosing) (lead : Option String)
    (code : ErrorCode) (severity : Severity) {message message' : String}
    (hmessage : message' = message) (expected : List Kind) :
    SyntaxError.Shifted f c.tokens c.index
      (scene.recordLed lead code severity message c.focus expected context)
      (scene'.recordLed lead code severity message' (f c.focus) expected context') where
  token := c.getElem?_index
  position := rfl
  token_eq := rfl
  position_eq := rfl
  code := rfl
  severity := rfl
  message := hmessage
  expected := rfl
  suggestions := by
    rw [recordLed, recordLed, hdictionary, hconstruct, hf.suggestions]
  construct := hconstruct
  enclosing := henclosing

namespace Parser

variable {α β : Type} {env env' : Env} {s t : State} {e e' : SyntaxError}

/-! ## States -/

/-- The second run is at the token that the one under the cursor is moved to, and has recorded
    the same errors. -/
structure State.Abreast (f : Token → Token) (l : List Token) (s t : State) : Prop where
  tokens : s.cursor.tokens = l
  cursor : t.cursor = s.cursor.map f []
  room : t.room = s.room
  errors : Anchored f l s.cursor.index s.errors t.errors

namespace State.Abreast

theorem moveTo (h : s.Abreast f l t) {c : Cursor} (hle : s.cursor ≤ c) :
    (s.moveTo c).Abreast f l (t.moveTo (c.map f [])) where
  tokens := hle.1.symm.trans h.tokens
  cursor := rfl
  room := h.room
  errors := h.errors.mono hle.2

theorem next (h : s.Abreast f l t) :
    (s.moveTo s.cursor.next).Abreast f l (t.moveTo t.cursor.next) := by
  rw [h.cursor, Cursor.next_map]
  exact h.moveTo s.cursor.le_next

theorem focus (h : s.Abreast f l t) : t.cursor.focus = f s.cursor.focus := by
  rw [h.cursor, Cursor.focus_map]

/-- An error about the token under the cursor is recorded. -/
theorem record (h : s.Abreast f l t) (he : e.Shifted f l s.cursor.index e') :
    (s.record e).Abreast f l (t.record e') := by
  unfold State.record
  rw [h.room]
  split
  · exact h
  · exact ⟨h.tokens, h.cursor, rfl, .cons (Nat.le_refl _) he h.errors⟩

/-- What is recorded with the same words about the tokens under both cursors. -/
theorem shifted (h : s.Abreast f l t) (hf : Token.Keeps f) (henv : env.Agrees env')
    (lead : Option String) (code : ErrorCode) (severity : Severity) {message message' : String}
    (hmessage : message' = message) (expected : List Kind) :
    SyntaxError.Shifted f l s.cursor.index
      (env.scene.recordLed lead code severity message s.cursor.focus expected
        (env.contextAt s.cursor))
      (env'.scene.recordLed lead code severity message' t.cursor.focus expected
        (env'.contextAt t.cursor)) := by
  rw [h.focus, ← h.tokens]
  exact Scene.shifted_recordLed hf henv.dictionary (henv.construct_contextAt _ _)
    (henv.enclosing_contextAt _ _) lead code severity hmessage expected

/-- The last error is at the place of the cursor in both runs, or in neither. -/
theorem lastErrorPosition (h : s.Abreast f l t) (hf : Token.Shifts f l) :
    t.errors.head?.map (·.position) = some t.cursor.focus.position ↔
      s.errors.head?.map (·.position) = some s.cursor.focus.position := by
  have hfocus : s.cursor.focus ∈ l := by
    rw [← h.tokens]
    exact List.mem_of_getElem? s.cursor.getElem?_index
  have herrors := h.errors
  rw [h.focus]
  generalize s.errors = errors, t.errors = errors' at herrors
  cases herrors with
  | nil => simp
  | cons _ he _ =>
    -- The last error is about a token of the list, too.
    simp only [List.head?_cons, Option.map_some, Option.some.injEq, he.position_shifted,
      he.position]
    exact hf.position_iff _ (List.mem_of_getElem? he.token) _ hfocus

/-- Both runs recover alike. -/
theorem recovered (h : s.Abreast f l t) (hf : Token.Shifts f l) (henv : env.Agrees env')
    (he : e.Shifted f l s.cursor.index e') :
    (s.recovered env e).Abreast f l (t.recovered env' e') := by
  have hr := Scene.recover_map (f := f) (E := SyntaxError.Shifted f l s.cursor.index) hf.keeps
    (fun _ _ _ _ _ _ hmessage => h.tokens ▸ Scene.shifted_recordLed hf.keeps henv.dictionary
      he.construct he.enclosing _ _ _ (hmessage.eq (hf.same _).line (hf.display _)) _)
    he.construct henv.dictionary henv.limits isNeutral_nil
  rw [← h.cursor] at hr
  -- On the way the runs stay at the token that both errors are about.
  refine recovered_of_rel (R := fun s₁ t₁ => s₁.Abreast f l t₁ ∧ s₁.cursor = s.cursor)
    ⟨h, rfl⟩ (·.1) he hr h.room ?_ ?_ ?_
  · intro r r' hreport
    have htoken : r.token = e.token := Option.some.inj (hreport.token.symm.trans he.token)
    refine ⟨hreport.code, iff_of_true ?_ ?_⟩
    · rw [hreport.position_shifted, he.position_shifted, htoken]
    · rw [hreport.position, he.position, htoken]
  · intro s₁ t₁ r r' ⟨h₁, hc⟩ hreport
    exact ⟨h₁.record (hc ▸ hreport), by rw [cursor_record, hc]⟩
  · intro s₁ t₁ n ⟨h₁, _⟩
    rw [h₁.cursor, Cursor.seek_map]
    exact h₁.moveTo (s₁.cursor.le_seek n)

end State.Abreast

/-! ## Parsers -/

/-- Both runs come to the same result, or they fail with the same error about the token they
    have come to, or both are out of depth. -/
inductive Outcome.Abreast (f : Token → Token) (l : List Token) : Outcome α → Outcome α → Prop
  | done (a : α) {s t : State} (h : s.Abreast f l t) : Abreast f l (.done a s) (.done a t)
  | failed {e e' : SyntaxError} {s t : State} (he : e.Shifted f l s.cursor.index e')
    (h : s.Abreast f l t) : Abreast f l (.failed e s) (.failed e' t)
  | exhausted : Abreast f l .exhausted .exhausted

/-- The parser takes the same way through the list and through the list of the moved tokens,
    wherever it is called. -/
def IsBlind (f : Token → Token) (l : List Token) (p : Parser α) : Prop :=
  ∀ {env env' s t}, env.Agrees env' → s.Abreast f l t → (p env s).Abreast f l (p env' t)

namespace IsBlind

theorem bind {p : Parser α} {k : α → Parser β} (hp : IsBlind f l p)
    (hk : ∀ a, IsBlind f l (k a)) : IsBlind f l (p >>= k) := by
  intro env env' s t henv h
  rw [bind_apply, bind_apply]
  have hp := hp henv h
  generalize p env s = o, p env' t = o' at hp
  cases hp with
  | done a h => exact hk a henv h
  | failed he h => exact .failed he h
  | exhausted => exact .exhausted

variable (hf : Token.Shifts f l)
include hf

theorem orRecover {p : Parser α} (hp : IsBlind f l p) (fallback : α) :
    IsBlind f l (orRecover p fallback) := by
  intro env env' s t henv h
  rw [← bind_pure (Parser.orRecover p fallback), orRecover_bind, orRecover_bind]
  have hp := hp henv h
  generalize p env s = o, p env' t = o' at hp
  cases hp with
  | done a h => exact .done a h
  | failed he h => exact .done fallback (h.recovered hf henv he)
  | exhausted => exact .exhausted

theorem effectiveKind : IsBlind f l effectiveKind := by
  intro env env' s t henv h
  have hmeant := henv.meant?_map hf.keeps h.focus fun _ => by
    rw [h.cursor, isJuxtaposed_map hf.keeps]
  rw [← bind_pure Parser.effectiveKind, effectiveKind_bind, effectiveKind_bind, hmeant]
  cases env.meant? s.cursor with
  | none =>
    rw [h.focus, hf.keeps.kind]
    exact .done _ h
  | some meant =>
    refine .done meant.kind (h.record (h.shifted hf.keeps henv _ _ _ ?_ _))
    rw [h.focus, (hf.same _).text]

theorem note (code : ErrorCode) (severity : Severity) (message : String)
    (expected : List Kind) : IsBlind f l (coded code severity message expected >>= report) := by
  intro env env' s t henv h
  exact .done () (h.record (h.shifted hf.keeps henv _ _ _ rfl _))

theorem noteMissingResult : IsBlind f l noteMissingResult := by
  intro env env' s t henv h
  simp only [Parser.noteMissingResult, current_bind, lastErrorPosition_bind,
    h.lastErrorPosition hf]
  split
  · exact .done () h
  · exact note hf _ _ _ _ henv h

theorem noteUnknownDirective : IsBlind f l noteUnknownDirective := by
  intro env env' s t henv h
  have hknown : env'.scene.dictionary.isDirective t.cursor.focus.text =
      env.scene.dictionary.isDirective s.cursor.focus.text := by
    rw [henv.dictionary, h.focus, (hf.same _).text]
  simp only [Parser.noteUnknownDirective, current_bind, scene_bind, hknown]
  split
  · exact .done () h
  · have hreport := henv.unknownDirective_map h.focus (hf.same _).text
      fun lead code severity _ _ expected hmessage => h.focus ▸ h.shifted hf.keeps henv lead code
        severity (hmessage.eq (hf.same _).line (hf.display _)) expected
    exact .done () (h.record hreport)

theorem unexpected (expected : List Kind) :
    IsBlind f l (unexpected expected : Parser α) := by
  intro env env' s t henv h
  refine .failed (h.shifted hf.keeps henv _ _ _ ?_ _) h
  rw [h.focus, hf.display]

theorem delimiter (kind : Kind) : IsBlind f l (delimiter kind) := by
  intro env env' s t henv h
  rw [← bind_pure (Parser.delimiter kind), delimiter_bind, delimiter_bind, h.focus, hf.keeps.kind]
  split
  · exact .done () h.next
  · have hlacking := henv.lacking?_map hf.keeps isNeutral_nil s.cursor
    rw [← h.cursor] at hlacking
    rw [Scene.missingDelimiter?, Scene.missingDelimiter?, hlacking]
    cases env.scene.lacking? s.cursor (env.contextAt s.cursor).construct with
    | none => exact unexpected hf [kind] henv h
    | some delimiter => exact .done () (h.record (h.shifted hf.keeps henv _ _ _ rfl _))

end IsBlind

/-- No parser notices that tokens are moved within their lines. -/
theorem blind_isCompositional (hf : Token.Shifts f l) :
    IsCompositional fun {_} p => IsBlind f l p where
  pure a := fun _ h => .done a h
  bind := IsBlind.bind
  within construct hp := fun henv h => hp (henv.within construct) h
  orRecover hp fallback := IsBlind.orRecover hf hp fallback
  exhausted := fun _ _ => .exhausted
  halted := fun {_ _ s t} _ h => by
    have hroom : t.room = s.room := h.room
    simp only [Parser.halted, hroom]
    exact .done _ h
  current hcongr hk := fun {_ _ s t} henv h => by
    rw [current_bind, current_bind, h.focus, hcongr (hf.same _)]
    exact hk _ henv h
  index hcongr hk := fun {_ _ s t} henv h => by
    have hindex : t.cursor.index = s.cursor.index := by rw [h.cursor, Cursor.index_map]; rfl
    rw [cursor_bind, cursor_bind, hcongr hindex]
    exact hk _ henv h
  advance := fun _ h => .done () h.next
  skip p := fun {_ _ s t} _ h => by
    have hskip := h.moveTo (s.cursor.le_skip p)
    rw [← Cursor.skip_map hf.keeps, ← h.cursor] at hskip
    exact .done () hskip
  effectiveKind := IsBlind.effectiveKind hf
  note _ := IsBlind.note hf _ _ _ _
  noteMissingResult := IsBlind.noteMissingResult hf
  noteUnknownDirective := IsBlind.noteUnknownDirective hf
  delimiter := IsBlind.delimiter hf
  giveUp {_ code} _ _ expected := fun henv h =>
    .failed (h.shifted hf.keeps henv none code .error rfl expected) h
  unexpected := IsBlind.unexpected hf

/-! ## The whole -/

theorem State.abreast_start {c : Cursor} (hc : Cursor.ofList? l = some c) (settings : Settings) :
    (State.start c settings).Abreast f l (.start (c.map f []) settings) :=
  ⟨Cursor.tokens_ofList? hc, rfl, rfl, .nil⟩

/-- The same items are read from the moved tokens, and the same errors recorded. -/
theorem parse_shifted (hf : Token.Shifts f l) (hlast : l.getLast?.map (·.kind) = some .eof)
    (source source' : Option String) (dictionary : Dictionary) (settings : Settings) :
    ∃ found, ∃ s t : State, parse l source dictionary settings = .ok ⟨found, s.errors.reverse⟩ ∧
      parse (l.map f) source' dictionary settings = .ok ⟨found, t.errors.reverse⟩ ∧
      s.Abreast f l t := by
  obtain ⟨c, found, found', s, t, hc, hdone, hdone', hparse, hparse'⟩ :=
    exists_runs_map hf.keeps.kind hlast source source' dictionary settings
  -- Sources are only quoted in contexts, which the parsers do not look at.
  have hagrees : (Env.start source dictionary settings).Agrees
      (.start source' dictionary settings) := ⟨rfl, rfl, rfl⟩
  have hitems := (blind_isCompositional hf).items (depthFor l.length) hagrees
    (State.abreast_start hc settings)
  rw [hdone, hdone'] at hitems
  cases hitems with
  | done _ h => exact ⟨found, s, t, hparse, hparse', h⟩

/-- Of two lists whose tokens agree in kind, text and line, and of which neither has two tokens
    at one place, the same is read. The errors are about the same tokens and say the same. -/
theorem parse_layout (tokens tokens' : List Token)
    (hmatch : List.Forall₂ Token.Matches tokens tokens')
    (hplaces : (tokens.map (·.position)).Nodup) (hplaces' : (tokens'.map (·.position)).Nodup)
    (hlast : tokens.getLast?.map (·.kind) = some .eof) (source source' : Option String)
    (dictionary : Dictionary) (settings : Settings) :
    ∃ output output', parse tokens source dictionary settings = .ok output ∧
      parse tokens' source' dictionary settings = .ok output' ∧
      output'.items = output.items ∧
      List.Forall₂ (SyntaxError.Corresponds tokens tokens') output.errors output'.errors := by
  -- The second list is the first one after a move.
  obtain ⟨f, hf, rfl⟩ := Token.exists_shifts hmatch hplaces hplaces'
  obtain ⟨found, s, t, hparse, hparse', h⟩ :=
    parse_shifted hf hlast source source' dictionary settings
  exact ⟨_, _, hparse, hparse', rfl, List.forall₂_reverse_iff.2 (h.errors.corresponds hf.same)⟩

/-- A condition without a result and a binding without a name, written with single blanks and
    with more of them. -/
theorem parse_layout_of_gaps : ∃ tokens tokens' output output',
    List.Forall₂ Token.Matches tokens tokens' ∧ (tokens.map (·.position)).Nodup ∧
    (tokens'.map (·.position)).Nodup ∧ tokens.getLast?.map (·.kind) = some .eof ∧
    tokens ≠ tokens' ∧
    parse tokens none { keywords := [] } {} = .ok output ∧
    parse tokens' none { keywords := [] } {} = .ok output' ∧
    output'.items = output.items ∧
    List.Forall₂ (SyntaxError.Corresponds tokens tokens') output.errors output'.errors ∧
    output.errors.map (·.position) = [⟨1, 12⟩, ⟨2, 5⟩, ⟨2, 5⟩] ∧
    output'.errors.map (·.position) = [⟨1, 17⟩, ⟨2, 9⟩, ⟨2, 9⟩] := by
  let tokens : List Token :=
    [⟨.whenKw, "when", ⟨1, 1⟩⟩, ⟨.text, "x", ⟨1, 6⟩⟩, ⟨.thenKw, "then", ⟨1, 8⟩⟩,
     ⟨.newline, "\n", ⟨1, 12⟩⟩, ⟨.letKw, "let", ⟨2, 1⟩⟩, ⟨.equals, "=", ⟨2, 5⟩⟩, .eof ⟨2, 6⟩]
  let tokens' : List Token :=
    [⟨.whenKw, "when", ⟨1, 3⟩⟩, ⟨.text, "x", ⟨1, 9⟩⟩, ⟨.thenKw, "then", ⟨1, 12⟩⟩,
     ⟨.newline, "\n", ⟨1, 17⟩⟩, ⟨.letKw, "let", ⟨2, 4⟩⟩, ⟨.equals, "=", ⟨2, 9⟩⟩, .eof ⟨2, 10⟩]
  have hmatch : List.Forall₂ Token.Matches tokens tokens' := by
    repeat' constructor
  have herrors : (parse tokens none { keywords := [] } {}).toOption.map
      (·.errors.map (·.position)) = some [⟨1, 12⟩, ⟨2, 5⟩, ⟨2, 5⟩] := by decide +kernel
  have herrors' : (parse tokens' none { keywords := [] } {}).toOption.map
      (·.errors.map (·.position)) = some [⟨1, 17⟩, ⟨2, 9⟩, ⟨2, 9⟩] := by decide +kernel
  obtain ⟨output, output', hparse, hparse', hitems, hsame⟩ :=
    parse_layout tokens tokens' hmatch (by decide) (by decide) rfl none none { keywords := [] } {}
  rw [hparse] at herrors
  rw [hparse'] at herrors'
  exact ⟨tokens, tokens', output, output', hmatch, by decide, by decide, rfl, by decide, hparse,
    hparse', hitems, hsame, Option.some.inj herrors, Option.some.inj herrors'⟩

end Parser

end SunLint
