import SunLint.Proofs.Parser.Run
import SunLint.Proofs.Parser.Total

/-!
# The same tokens in other places

Where a parser looks around, and above all in the recovery, it sees the kinds and the texts of
the tokens around the cursor and which of them are on one line. So it does the same if the
tokens stand elsewhere (`Token.Keeps`), and even if there are others in front of them that open
nothing (`Recovery.IsNeutral`). What is recorded may differ in more than that, which is left to
a relation between errors (`Scene.Reports`).

* `Scene.recover_map`: the same strategy is taken, and its report goes with the other one;
* `State.recovered_of_rel`: so runs that go together still do so behind the recovery;
* `Env.Agrees.meant?_map`: words are taken for the same keywords;
* `exists_runs_map`: the two runs that the parse of both lists consists of.
-/

namespace SunLint

open Recovery

variable {f : Token → Token} {before : List Token}

/-- Every token keeps its kind and, unless it is a string, its text, and two tokens are on one
    line if they were before. -/
structure Token.Keeps (f : Token → Token) : Prop where
  kind : ∀ t, (f t).kind = t.kind
  text : ∀ t, t.kind ≠ .string → (f t).text = t.text
  line_iff : ∀ t t', (f t).position.line = (f t').position.line ↔
    t.position.line = t'.position.line

/-- What the messages say of the two tokens: the same, unless it is about their lines or the
    tokens themselves are quoted. -/
def Token.Restates (t t' : Token) (message message' : String) : Prop :=
  (t'.position.line = t.position.line → message' = message) ∨
    ∃ front back, message = front ++ t.display ++ back ∧ message' = front ++ t'.display ++ back

theorem Token.restates_refl (t t' : Token) (message : String) : t.Restates t' message message :=
  .inl fun _ => rfl

/-- About equal tokens on one line the messages say the same. -/
theorem Token.Restates.eq {t t' : Token} {message message' : String}
    (h : t.Restates t' message message') (hline : t'.position.line = t.position.line)
    (hdisplay : t'.display = t.display) : message' = message := by
  obtain h | ⟨front, back, rfl, rfl⟩ := h
  · exact h hline
  · rw [hdisplay]

theorem Token.Keeps.text_eq (hf : Token.Keeps f) {t : Token} {kind : Kind} (h : t.kind = kind)
    (hne : kind ≠ .string) : (f t).text = t.text :=
  hf.text t (h ▸ hne)

/-- The dictionary suggests the same for both. -/
theorem Token.Keeps.suggestions (hf : Token.Keeps f) (d : Dictionary) (t : Token)
    (expected : List Kind) (construct : Construct) :
    Suggestion.suggestions d (f t) expected construct =
      Suggestion.suggestions d t expected construct := by
  rw [Suggestion.suggestions, Suggestion.suggestions, Suggestion.specific, Suggestion.specific,
    hf.kind]
  by_cases htext : t.kind = .text
  · rw [hf.text_eq htext (by decide)]
  · rw [if_neg htext, if_neg htext]

theorem Token.getLast?_map_kind (hkind : ∀ t, (f t).kind = t.kind) (l : List Token) :
    (l.map f).getLast?.map (·.kind) = l.getLast?.map (·.kind) := by
  rw [List.getLast?_map, Option.map_map]
  exact congrArg (Option.map · _) (funext hkind)

/-! ## Cursors -/

namespace Cursor

/-- The cursor in the list of the moved tokens, with the tokens `before` in front of it,
    nearest first. -/
def map (f : Token → Token) (before : List Token) (c : Cursor) : Cursor where
  behind := c.behind.map f ++ before
  focus := f c.focus
  ahead := c.ahead.map f

theorem ofList?_map (f : Token → Token) {l : List Token} {c : Cursor} (hc : ofList? l = some c) :
    ofList? (l.map f) = some (c.map f []) := by
  cases l with
  | nil => cases hc
  | cons t l =>
    cases hc
    rfl

@[simp]
theorem focus_map (c : Cursor) : (c.map f before).focus = f c.focus := rfl

@[simp]
theorem index_map (c : Cursor) : (c.map f before).index = c.index + before.length := by
  simp [map, index]

@[simp]
theorem next_map (c : Cursor) : (c.map f before).next = c.next.map f before := by
  obtain ⟨b, t, a⟩ := c
  cases a <;> rfl

@[simp]
theorem seek_map (c : Cursor) (n : Nat) : (c.map f before).seek n = (c.seek n).map f before := by
  induction n generalizing c with
  | zero => rfl
  | succ n ih => rw [seek, next_map, ih, seek]

theorem skip_map (hf : Token.Keeps f) (c : Cursor) (p : Kind → Bool) :
    (c.map f before).skip p = (c.skip p).map f before := by
  obtain ⟨b, t, a⟩ := c
  rw [skip, skip]
  induction a generalizing b t with
  | nil => rfl
  | cons t' ts ih =>
    simp only [map, List.map_cons, skipWhile, hf.kind] at ih ⊢
    split
    · exact ih (t :: b) t'
    · rfl

end Cursor

theorem Parser.isJuxtaposed_map (hf : Token.Keeps f) (c : Cursor) :
    isJuxtaposed (c.map f before) = isJuxtaposed c := by
  obtain ⟨b, t, a⟩ := c
  cases a <;> simp [isJuxtaposed, Cursor.map, hf.kind, hf.line_iff]

/-! ## Recovery -/

namespace Recovery

/-- Going back over the tokens, the delimiter is met before the keyword that asks for it. -/
def Delimiter.IsClosed (delimiter : Delimiter) (l : List Token) : Prop :=
  ∀ t ∈ l.find? fun t => t.kind = delimiter.opener || t.kind = delimiter.kind,
    t.kind ≠ delimiter.opener

/-- Among the tokens, nearest first, nothing is open that asks for a delimiter. -/
def IsNeutral (l : List Token) : Prop :=
  ∀ construct, ∀ delimiter ∈ Delimiter.ofConstruct? construct, delimiter.IsClosed l

theorem Delimiter.isClosed_nil (delimiter : Delimiter) : delimiter.IsClosed [] := nofun

/-- The delimiter itself closes what is open. -/
theorem Delimiter.IsClosed.of_kind {delimiter : Delimiter} {t : Token} {l : List Token}
    (h : t.kind = delimiter.kind) (hne : delimiter.kind ≠ delimiter.opener) :
    delimiter.IsClosed (t :: l) := by
  intro t' ht'
  rw [List.find?_cons_of_pos (by simp [h])] at ht'
  cases ht'
  rwa [h]

/-- Only the keyword opens anything. -/
theorem Delimiter.IsClosed.cons {delimiter : Delimiter} {t : Token} {l : List Token}
    (h : delimiter.IsClosed l) (hne : t.kind ≠ delimiter.opener) :
    delimiter.IsClosed (t :: l) := by
  intro t' ht'
  rw [List.find?_cons] at ht'
  split at ht'
  · cases ht'
    exact hne
  · exact h t' ht'

theorem isNeutral_nil : IsNeutral [] := fun _ delimiter _ => delimiter.isClosed_nil

/-- The recoveries do the same, and the relation holds of what they report. -/
structure Rel (E : SyntaxError → SyntaxError → Prop) (r r' : Recovery) : Prop where
  strategy : r'.strategy = r.strategy
  advance : r'.advance = r.advance
  error : Option.Rel E r.error r'.error

variable {E : SyntaxError → SyntaxError → Prop}

theorem Rel.of_error_eq_none {r : Recovery} (h : r.error = none) : Rel E r r :=
  ⟨rfl, rfl, by rw [h]; exact .none⟩

theorem isWrong_map (hf : Token.Keeps f) (c : Cursor) (construct : Construct) :
    isWrong (c.map f before) construct = isWrong c construct := by
  simp only [isWrong, Cursor.map, hf.kind, List.head?_map, Option.any_map]
  by_cases hsymbol : c.focus.kind = .symbol
  · rw [hf.text_eq hsymbol (by decide)]
  · rw [if_neg hsymbol, if_neg hsymbol]

theorem statementBoundary?_map (hf : Token.Keeps f) (c : Cursor) :
    Option.Rel (Rel E) (statementBoundary? c) (statementBoundary? (c.map f before)) := by
  have heq : statementBoundary? (c.map f before) = statementBoundary? c := by
    simp only [statementBoundary?, beforeEof, Cursor.map, List.takeWhile_map, List.findIdx?_map,
      Function.comp_def, hf.kind]
  rw [heq, statementBoundary?]
  cases (beforeEof c.ahead).findIdx? fun t => t.kind = .semicolon || t.kind.isSyncPoint with
  | none => exact .none
  | some i => exact .some (.of_error_eq_none rfl)

theorem length_restOfLine_map (hf : Token.Keeps f) (c : Cursor) :
    (restOfLine (c.map f before)).length = (restOfLine c).length := by
  simp only [restOfLine, Cursor.map, List.takeWhile_map, List.length_map, Function.comp_def,
    hf.kind, hf.line_iff]

end Recovery

theorem rel_getD {α : Type} {R : α → α → Prop} {a a' : Option α} {b b' : α}
    (ha : Option.Rel R a a') (hb : R b b') : R (a.getD b) (a'.getD b') := by
  cases ha with
  | some h => exact h
  | none => exact hb

theorem rel_orElse {α : Type} {R : α → α → Prop} {a a' b b' : Option α}
    (ha : Option.Rel R a a') (hb : Option.Rel R b b') :
    Option.Rel R (a <|> b) (a' <|> b') := by
  cases ha with
  | some h => exact .some h
  | none => exact hb

namespace Scene

variable {scene scene' : Scene} {context context' : Context} {c : Cursor}
  {E : SyntaxError → SyntaxError → Prop}

/-- A delimiter is lacking at the same places, if nothing in front of the list is open. -/
theorem lacking?_map (hf : Token.Keeps f) (hlimits : scene'.limits = scene.limits)
    (hbefore : IsNeutral before) (c : Cursor) (construct : Construct) :
    scene'.lacking? (c.map f before) construct = scene.lacking? c construct := by
  rw [lacking?, lacking?]
  cases hdelimiter : Delimiter.ofConstruct? construct with
  | none => rfl
  | some delimiter =>
    let isNear (t : Token) : Bool := t.kind = delimiter.opener || t.kind = delimiter.kind
    have hnear : isNear ∘ f = isNear := by
      funext t
      simp only [Function.comp, isNear, hf.kind]
    -- What is found first is in the list, or it is not the keyword.
    have hfind : ((c.map f before).focus ::
        (c.map f before).behind.take scene.limits.insertionLookbehind).find? isNear =
        (((c.focus :: c.behind.take scene.limits.insertionLookbehind).find? isNear).map f).or
          ((before.take (scene.limits.insertionLookbehind - c.behind.length)).find? isNear) := by
      simp only [Cursor.map, List.take_append, List.length_map, ← List.map_take]
      rw [← List.cons_append, ← List.map_cons, List.find?_append, List.find?_map, hnear]
    simp only [hlimits, Option.bind_eq_bind, Option.bind_some]
    change (List.find? isNear _).bind _ = (List.find? isNear _).bind _
    rw [hfind]
    cases (c.focus :: c.behind.take scene.limits.insertionLookbehind).find? isNear with
    | some t => simp [hf.kind]
    | none =>
      cases htake : (before.take
          (scene.limits.insertionLookbehind - c.behind.length)).find? isNear with
      | none => rfl
      | some t =>
        have hopen : t.kind ≠ delimiter.opener := by
          refine hbefore construct delimiter hdelimiter t ?_
          rw [← List.take_append_drop (scene.limits.insertionLookbehind - c.behind.length) before]
          exact List.find?_append.trans (by rw [htake]; rfl)
        simp [hopen]

theorem syncPoint?_map (hf : Token.Keeps f) (hlimits : scene'.limits = scene.limits) :
    Option.Rel (Recovery.Rel E) (scene.syncPoint? c) (scene'.syncPoint? (c.map f before)) := by
  have heq : scene'.syncPoint? (c.map f before) = scene.syncPoint? c := by
    simp only [syncPoint?, beforeEof, Cursor.map, hlimits, ← List.map_take, List.takeWhile_map,
      List.findIdx?_map, Function.comp_def, hf.kind]
  rw [heq, syncPoint?]
  cases (beforeEof (c.ahead.take scene.limits.syncLookahead)).findIdx? (·.kind.isSyncPoint) with
  | none => exact .none
  | some i => exact .some (.of_error_eq_none rfl)

/-- The relation holds of what is recorded about the token under the cursor, with messages that
    say the same of it. -/
def Reports (E : SyntaxError → SyntaxError → Prop) (f : Token → Token) (c : Cursor)
    (scene scene' : Scene) (context context' : Context) : Prop :=
  ∀ lead code severity message message' expected,
    c.focus.Restates (f c.focus) message message' →
    E (scene.recordLed lead code severity message c.focus expected context)
      (scene'.recordLed lead code severity message' (f c.focus) expected context')

variable (hf : Token.Keeps f) (hE : Reports E f c scene scene' context context')
include hf hE

theorem insertMissing?_map (hconstruct : context'.construct = context.construct)
    (hlimits : scene'.limits = scene.limits) (hbefore : IsNeutral before) :
    Option.Rel (Recovery.Rel E) (scene.insertMissing? c context)
      (scene'.insertMissing? (c.map f before) context') := by
  rw [insertMissing?, insertMissing?, missingDelimiter?, missingDelimiter?, hconstruct,
    lacking?_map hf hlimits hbefore]
  cases scene.lacking? c context.construct with
  | none => exact .none
  | some delimiter => exact .some ⟨rfl, rfl, .some (hE _ _ _ _ _ _ (Token.restates_refl ..))⟩

theorem deleteToken?_map (hconstruct : context'.construct = context.construct) :
    Option.Rel (Recovery.Rel E) (scene.deleteToken? c context)
      (scene'.deleteToken? (c.map f before) context') := by
  rw [deleteToken?, deleteToken?, hconstruct, isWrong_map hf]
  split
  · exact .some ⟨rfl, rfl, .some (hE _ _ _ _ _ _ (.inr ⟨_, _, rfl, rfl⟩))⟩
  · exact .none

theorem substitute?_map (hdictionary : scene'.dictionary = scene.dictionary)
    (hlimits : scene'.limits = scene.limits) :
    Option.Rel (Recovery.Rel E) (scene.substitute? c context)
      (scene'.substitute? (c.map f before) context') := by
  simp only [substitute?, replacement?, Cursor.focus_map, hf.kind, hdictionary, hlimits]
  split
  · rename_i htext
    rw [hf.text_eq htext (by decide)]
    cases scene.dictionary.correction? c.focus.text scene.limits.maxEditDistance with
    | none => exact .none
    | some correction =>
      refine .some ⟨rfl, rfl, .some (hE _ _ _ _ _ _ (.inl fun _ => ?_))⟩
      rw [hf.text_eq htext (by decide)]
  · exact .none

theorem skipLine_map : Recovery.Rel E (scene.skipLine c context)
    (scene'.skipLine (c.map f before) context') where
  strategy := rfl
  advance := congrArg (· + 1) (length_restOfLine_map hf c)
  error := .some (hE _ _ _ _ _ _ (.inl fun h => by rw [Cursor.focus_map, h]))

/-- A recovery at the same token in another place does the same, and reports the same. -/
theorem recover_map (hconstruct : context'.construct = context.construct)
    (hdictionary : scene'.dictionary = scene.dictionary) (hlimits : scene'.limits = scene.limits)
    (hbefore : IsNeutral before) :
    Recovery.Rel E (scene.recover c context) (scene'.recover (c.map f before) context') := by
  rw [recover, recover, Cursor.focus_map, hf.kind]
  split
  · exact .of_error_eq_none rfl
  -- Each strategy applies at both places, or at neither.
  exact rel_getD
    (rel_orElse (syncPoint?_map hf hlimits)
      (rel_orElse (insertMissing?_map hf hE hconstruct hlimits hbefore)
        (rel_orElse (deleteToken?_map hf hE hconstruct)
          (rel_orElse (substitute?_map hf hE hdictionary hlimits)
            (statementBoundary?_map hf c)))))
    (skipLine_map hf hE)

end Scene

/-! ## Parsers -/

namespace Parser

variable {env env' : Env} {s t : State} {e e' : SyntaxError}

/-- Both runs are made with the same words, within the same limits and constructs. -/
structure Env.Agrees (env env' : Env) : Prop where
  dictionary : env'.scene.dictionary = env.scene.dictionary
  limits : env'.scene.limits = env.scene.limits
  constructs : env'.constructs = env.constructs

theorem Env.Agrees.within (h : env.Agrees env') (construct : Construct) :
    Env.Agrees { env with constructs := construct :: env.constructs }
      { env' with constructs := construct :: env'.constructs } :=
  ⟨h.dictionary, h.limits, by rw [h.constructs]⟩

theorem Env.Agrees.construct_contextAt (h : env.Agrees env') (c c' : Cursor) :
    (env'.contextAt c').construct = (env.contextAt c).construct := by
  simp [contextAt, Scene.context, Context.around, h.constructs]

theorem Env.Agrees.enclosing_contextAt (h : env.Agrees env') (c c' : Cursor) :
    (env'.contextAt c').enclosing = (env.contextAt c).enclosing := by
  simp [contextAt, Scene.context, Context.around, h.constructs]

/-- The construct lacks its delimiter in both lists, or in neither. -/
theorem Env.Agrees.lacking?_map (h : env.Agrees env') (hf : Token.Keeps f)
    (hbefore : IsNeutral before) (c : Cursor) :
    env'.scene.lacking? (c.map f before) (env'.contextAt (c.map f before)).construct =
      env.scene.lacking? c (env.contextAt c).construct := by
  rw [h.construct_contextAt c, Scene.lacking?_map hf h.limits hbefore]

/-- A word is taken for the same keyword in another place, if there is a word or a literal
    behind it on its line in both. -/
theorem Env.Agrees.meant?_map (h : env.Agrees env') (hf : Token.Keeps f) {c c' : Cursor}
    (hfocus : c'.focus = f c.focus)
    (hnext : c.focus.kind = .text → isJuxtaposed c' = isJuxtaposed c) :
    env'.meant? c' =
      (env.meant? c).map fun meant => { meant with position := c'.focus.position } := by
  have hand : (decide (c.focus.kind = .text) && isJuxtaposed c') =
      (decide (c.focus.kind = .text) && isJuxtaposed c) := by
    by_cases htext : c.focus.kind = .text
    · rw [hnext htext]
    · simp [htext]
  simp only [meant?, Scene.replacement?, hfocus, hf.kind, hand, h.dictionary, h.limits]
  split
  · split
    · rename_i htext
      rw [hf.text_eq htext (by decide)]
      cases env.scene.dictionary.correction? c.focus.text env.scene.limits.maxEditDistance with
      | none => rfl
      | some correction =>
        cases hstarts : ((Kind.ofWord? correction.word).getD .text).startsDeclaration <;>
          simp [Option.filter, hstarts]
    · rfl
  · rfl

/-- What is recorded about a directive that the dictionary does not have. -/
theorem Env.Agrees.unknownDirective_map (h : env.Agrees env') {c c' : Cursor}
    (hfocus : c'.focus = f c.focus) (htext : (f c.focus).text = c.focus.text)
    {E : SyntaxError → SyntaxError → Prop}
    (hE : Scene.Reports E f c env.scene env'.scene (env.contextAt c) (env'.contextAt c')) :
    E (unknownDirective env.scene c.focus (env.contextAt c))
      (unknownDirective env'.scene c'.focus (env'.contextAt c')) := by
  rw [unknownDirective, unknownDirective, hfocus, htext, h.dictionary, h.limits]
  split
  · refine hE _ _ _ _ _ _ (.inl fun _ => ?_)
    rw [htext]
  · exact hE _ _ _ _ _ _ (Token.restates_refl ..)

/-- Both recoveries report something better than the error, or neither does. -/
theorem isMoreSpecific_of_rel {E : SyntaxError → SyntaxError → Prop} {r r' : Recovery}
    (hr : Recovery.Rel E r r')
    (hspecific : ∀ {x x'}, E x x' →
      x'.code = x.code ∧ (x'.position = e'.position ↔ x.position = e.position)) :
    isMoreSpecific r' e' = isMoreSpecific r e := by
  have herror := hr.error
  rw [isMoreSpecific, isMoreSpecific]
  generalize r.error = error, r'.error = error' at herror
  cases herror with
  | none => rfl
  | some herror =>
    obtain ⟨hcode, hposition⟩ := hspecific herror
    simp only [Option.any_some, hcode, decide_eq_decide.2 hposition]

/-- Runs that go together recover alike, if they do the same at the places they have come to
    and if what has been reported there is recorded in both. -/
theorem State.recovered_of_rel {E : SyntaxError → SyntaxError → Prop}
    {R R' : State → State → Prop} (h : R s t) (hR : R s t → R' s t) (he : E e e')
    (hr : Recovery.Rel E (env.scene.recover s.cursor e.context)
      (env'.scene.recover t.cursor e'.context))
    (hroom : t.room = s.room)
    (hspecific : ∀ {x x'}, E x x' →
      x'.code = x.code ∧ (x'.position = e'.position ↔ x.position = e.position))
    (hrecord : ∀ {s t e e'}, R s t → E e e' → R (s.record e) (t.record e'))
    (hseek : ∀ {s t} n, R s t → R' (s.moveTo (s.cursor.seek n)) (t.moveTo (t.cursor.seek n))) :
    R' (s.recovered env e) (t.recovered env' e') := by
  rw [recovered, recovered, hroom]
  split
  · exact hR h
  · dsimp only
    generalize env.scene.recover s.cursor e.context = r at hr
    generalize env'.scene.recover t.cursor e'.context = r' at hr
    have hreported : R (if isMoreSpecific r e then s else s.record e)
        (if isMoreSpecific r' e' then t else t.record e') := by
      rw [isMoreSpecific_of_rel hr hspecific]
      split
      · exact h
      · exact hrecord h he
    rw [hr.advance]
    refine hseek r.advance ?_
    have herror := hr.error
    generalize r.error = error, r'.error = error' at herror
    cases herror with
    | none => exact hreported
    | some herror => exact hrecord hreported herror

/-- Both lists are parsed by one run each, over as many tokens. -/
theorem exists_runs_map {l : List Token} (hkind : ∀ t, (f t).kind = t.kind)
    (hlast : l.getLast?.map (·.kind) = some .eof) (source source' : Option String)
    (dictionary : Dictionary) (settings : Settings) :
    ∃ c found found' s t, Cursor.ofList? l = some c ∧
      items (depthFor l.length) (.start source dictionary settings) (.start c settings) =
        .done found s ∧
      items (depthFor l.length) (.start source' dictionary settings)
        (.start (c.map f []) settings) = .done found' t ∧
      parse l source dictionary settings = .ok ⟨found, s.errors.reverse⟩ ∧
      parse (l.map f) source' dictionary settings = .ok ⟨found', t.errors.reverse⟩ := by
  obtain ⟨c, found, s, hc, -, hdone, hparse⟩ :=
    isParsed_of_getLast? source dictionary settings hlast
  obtain ⟨c', found', t, hc', -, hdone', hparse'⟩ :=
    isParsed_of_getLast? source' dictionary settings
      ((Token.getLast?_map_kind hkind l).trans hlast)
  obtain rfl : c.map f [] = c' := Option.some.inj ((Cursor.ofList?_map f hc).symm.trans hc')
  rw [List.length_map] at hdone'
  exact ⟨c, found, found', s, t, hc, hdone _ (Nat.le_refl _), hdone' _ (Nat.le_refl _), hparse,
    hparse'⟩

end Parser

end SunLint
