import SunLint.Proofs.Parser.Reads

/-!
# Lists with misspelled keywords

A list of tokens is compared with one in which some of the keywords are misspelled: in
their stead there are words that the dictionary takes for them. Parsing both, a cursor
goes along each of the lists, and the warnings so far are about the misspelled words that
have been passed (`Beside`). A misspelled word under the cursor is first taken for the
keyword that it stands for, with a warning, and then passed (`Understood`).

`Outcome.Follows` says that a parser does the same on both lists if its run on the one
that is spelled right is clean. It may do otherwise where that run stops at a keyword that
would start a declaration, since then the run as a whole is not going to be clean.
-/

namespace SunLint

/-- The word is taken for the keyword that stands at the same place. -/
structure IsMisspelling (d : Dictionary) (limit : Nat) (keyword word : Token) : Prop where
  kind : word.kind = .text
  startsDeclaration : keyword.kind.startsDeclaration = true
  position : word.position = keyword.position
  correction : ∃ c, d.correction? word.text limit = some c ∧ keyword.kind.spelling? = some c.word

/-- The second list is the first one with the words of the third one in the stead of
    keywords. Each of these words is followed by another word or a literal on its line. -/
inductive Misspells (d : Dictionary) (limit : Nat) : (l l' words : List Token) → Prop
  | nil : Misspells d limit [] [] []
  | keep {l l' words : List Token} (t : Token) (h : Misspells d limit l l' words) :
    Misspells d limit (t :: l) (t :: l') words
  | replace {l l' words : List Token} {keyword word next : Token}
    (hword : IsMisspelling d limit keyword word) (hnext : l'.head? = some next)
    (hline : next.position.line = word.position.line)
    (hkind : next.kind = .text ∨ next.kind = .string ∨ next.kind = .number)
    (h : Misspells d limit l l' words) :
    Misspells d limit (keyword :: l) (word :: l') (word :: words)

theorem Misspells.length_eq {d : Dictionary} {limit : Nat} {l l' words : List Token}
    (h : Misspells d limit l l' words) : l'.length = l.length := by
  induction h with
  | nil => rfl
  | keep t _ ih => rw [List.length_cons, List.length_cons, ih]
  | replace _ _ _ _ _ ih => rw [List.length_cons, List.length_cons, ih]

/-- The last token is not misspelled, since there is none behind it. -/
theorem Misspells.getLast?_eq {d : Dictionary} {limit : Nat} {l l' words : List Token}
    (h : Misspells d limit l l' words) : l'.getLast? = l.getLast? := by
  induction h with
  | nil => rfl
  | keep t _ ih => rw [List.getLast?_cons, List.getLast?_cons, ih]
  | @replace l l' _ _ _ next _ hnext _ _ h ih =>
    obtain ⟨rest, rfl⟩ : ∃ rest, l' = next :: rest := by
      simpa using List.head?_eq_some_iff.1 hnext
    cases l with
    | nil => cases h
    | cons x l => rw [List.getLast?_cons_cons, List.getLast?_cons_cons, ih]

/-- Neither keywords that start declarations nor words are skipped. -/
theorem Misspells.skipWhile {d : Dictionary} {limit : Nat} {p : Kind → Bool}
    (hp : ∀ kind, p kind = true →
    kind.startsDeclaration = false ∧ kind ≠ .text) {b b' l l' coming : List Token}
    {x x' : Token} (hb : b'.length = b.length) (h : Misspells d limit (x :: l) (x' :: l') coming) :
    (Cursor.skipWhile p b' x' l').index = (Cursor.skipWhile p b x l).index ∧
      Misspells d limit
        ((Cursor.skipWhile p b x l).focus :: (Cursor.skipWhile p b x l).ahead)
        ((Cursor.skipWhile p b' x' l').focus :: (Cursor.skipWhile p b' x' l').ahead) coming := by
  induction l generalizing b b' x x' l' coming with
  | nil =>
    cases h with
    | keep _ hrest =>
      cases hrest
      exact ⟨hb, .keep _ .nil⟩
    | replace _ hnext _ _ hrest =>
      cases hrest
      cases hnext
  | cons y l ih =>
    cases h with
    | keep _ hrest =>
      cases l' with
      | nil => cases hrest
      | cons y' l' =>
        simp only [Cursor.skipWhile]
        split
        · exact ih (by simp [hb]) hrest
        · exact ⟨hb, .keep _ hrest⟩
    | replace hword hnext hline hkind hrest =>
      cases l' with
      | nil => cases hrest
      | cons y' l' =>
        have hkeyword : p x.kind = false := by
          cases hpx : p x.kind with
          | false => rfl
          | true => exact absurd (hp _ hpx).1 (by rw [hword.startsDeclaration]; decide)
        have hword' : p x'.kind = false := by
          cases hpx : p x'.kind with
          | false => rfl
          | true => exact absurd hword.kind (hp _ hpx).2
        simp only [Cursor.skipWhile, hkeyword, hword', Bool.false_eq_true, if_false]
        exact ⟨hb, .replace hword hnext hline hkind hrest⟩

/-- There is one warning about each of the words, in their order. -/
structure Warns (errors : List SyntaxError) (words : List Token) : Prop where
  tokens : errors.map (·.token) = words
  isWarning : ∀ e ∈ errors,
    e.code = .possibleMisspelling ∧ e.severity = .warning ∧ e.position = e.token.position

namespace Parser

variable {α β : Type} {d : Dictionary} {limit : Nat} {words : List Token}
  {env env' : Env} {s t : State}

/-! ## States side by side -/

/-- The warnings so far are about the words, except for those that are still to come. -/
structure Awaits (words coming : List Token) (t : State) : Prop where
  warns : ∃ passed, Warns t.errors.reverse passed ∧ passed ++ coming = words
  room : coming.length < t.room

/-- Both runs are at the same place. In the clean run on the list that is spelled right it
    is the state `s`, in the other run the state `t`. -/
structure Beside (d : Dictionary) (limit : Nat) (words : List Token) (s t : State) : Prop where
  ready : Ready s
  index_eq : t.cursor.index = s.cursor.index
  ahead : ∃ coming, Awaits words coming t ∧
    Misspells d limit (s.cursor.focus :: s.cursor.ahead) (t.cursor.focus :: t.cursor.ahead) coming

/-- Both runs are at the same place, and if the word there is misspelled then this has been
    noticed. -/
structure Understood (d : Dictionary) (limit : Nat) (words : List Token) (s t : State) :
    Prop where
  ready : Ready s
  index_eq : t.cursor.index = s.cursor.index
  position_eq : t.cursor.focus.position = s.cursor.focus.position
  focus : s.cursor.focus.kind.startsDeclaration = false → t.cursor.focus = s.cursor.focus
  ahead : ∃ coming, Awaits words coming t ∧ Misspells d limit s.cursor.ahead t.cursor.ahead coming

/-- Both runs know the same words. -/
structure Alike (d : Dictionary) (limit : Nat) (env env' : Env) : Prop where
  dictionary : env.scene.dictionary = d ∧ env'.scene.dictionary = d
  limit : env.scene.limits.maxEditDistance = limit ∧ env'.scene.limits.maxEditDistance = limit

theorem Alike.within (h : Alike d limit env env') (construct : Construct) :
    Alike d limit { env with constructs := construct :: env.constructs }
      { env' with constructs := construct :: env'.constructs } :=
  ⟨h.dictionary, h.limit⟩

theorem Awaits.moveTo {coming : List Token} (h : Awaits words coming t) (c : Cursor) :
    Awaits words coming (t.moveTo c) :=
  ⟨h.warns, h.room⟩

/-! ## Moving along both lists -/

/-- Behind a token that has been noticed, both runs are at the same place again. -/
theorem Understood.next (h : Understood d limit words s t) (hk : s.cursor.focus.kind ≠ .eof) :
    Beside d limit words (s.moveTo s.cursor.next) (t.moveTo t.cursor.next) := by
  obtain ⟨coming, hawaits, hahead⟩ := h.ahead
  have hne := h.ready.terminated.ahead_ne_nil hk
  have hready := h.ready.of_le (h.ready.clean.moveTo _) s.cursor.le_next
  have hne' : t.cursor.ahead ≠ [] := by
    intro hnil
    rw [hnil] at hahead
    cases hs : s.cursor.ahead with
    | nil => exact hne hs
    | cons x xs => rw [hs] at hahead; cases hahead
  refine ⟨hready, ?_, coming, hawaits.moveTo _, ?_⟩
  · change t.cursor.next.index = s.cursor.next.index
    rw [Cursor.index_next hne, Cursor.index_next hne', h.index_eq]
  · change Misspells d limit (s.cursor.next.focus :: s.cursor.next.ahead)
      (t.cursor.next.focus :: t.cursor.next.ahead) coming
    rw [Cursor.focus_next hne, Cursor.focus_next hne']
    exact hahead

/-- A token that starts no declaration is the same in both lists. -/
theorem Understood.beside (h : Understood d limit words s t)
    (hk : s.cursor.focus.kind.startsDeclaration = false) : Beside d limit words s t := by
  obtain ⟨coming, hawaits, hahead⟩ := h.ahead
  exact ⟨h.ready, h.index_eq, coming, hawaits, h.focus hk ▸ .keep _ hahead⟩

/-- Either the token under both cursors is the same, or it is misspelled. -/
theorem Beside.cases (h : Beside d limit words s t) :
    t.cursor.focus = s.cursor.focus ∧ Understood d limit words s t ∨
      IsMisspelling d limit s.cursor.focus t.cursor.focus ∧ isJuxtaposed t.cursor = true ∧
        ∃ coming, Awaits words (t.cursor.focus :: coming) t ∧
          Misspells d limit s.cursor.ahead t.cursor.ahead coming := by
  obtain ⟨coming, hawaits, hahead⟩ := h.ahead
  generalize hs : s.cursor.focus = x at hahead
  generalize ht : t.cursor.focus = y at hahead
  cases hahead with
  | keep _ hrest =>
    refine .inl ⟨rfl, h.ready, h.index_eq, by rw [hs, ht], fun _ => by rw [hs, ht], ?_⟩
    exact ⟨coming, hawaits, hrest⟩
  | @replace _ _ coming _ _ next hword hnext hline hkind hrest =>
    refine .inr ⟨hword, ?_, coming, hawaits, hrest⟩
    rw [isJuxtaposed, hnext, ht]
    simpa [hline, or_assoc] using hkind

/-- Neither of the runs is halted. -/
theorem Beside.room_ne_zero (h : Beside d limit words s t) : s.room ≠ 0 ∧ t.room ≠ 0 := by
  obtain ⟨coming, hawaits, _⟩ := h.ahead
  exact ⟨Nat.ne_of_gt h.ready.clean.room, Nat.ne_of_gt (Nat.lt_of_le_of_lt (Nat.zero_le _)
    hawaits.room)⟩

/-- What is in the first list a token that starts no declaration is the same in the
    other one. -/
theorem Beside.understood (h : Beside d limit words s t)
    (hk : s.cursor.focus.kind.startsDeclaration = false) :
    t.cursor.focus = s.cursor.focus ∧ Understood d limit words s t := by
  obtain hsame | ⟨hword, _⟩ := h.cases
  · exact hsame
  · rw [hword.startsDeclaration] at hk
    cases hk

/-- A token of the kind is there in both lists, or in none. -/
theorem Beside.kind_eq_iff (h : Beside d limit words s t) (kind : Kind)
    (hk : kind.startsDeclaration = false) (hne : kind ≠ .text) :
    t.cursor.focus.kind = kind ↔ s.cursor.focus.kind = kind := by
  obtain ⟨hsame, _⟩ | ⟨hword, _⟩ := h.cases
  · rw [hsame]
  · rw [hword.kind]
    refine ⟨fun heq => absurd heq.symm hne, fun heq => ?_⟩
    have := hword.startsDeclaration
    rw [heq, hk] at this
    cases this

theorem Beside.decide_kind_eq (h : Beside d limit words s t) (kind : Kind)
    (hk : kind.startsDeclaration = false) (hne : kind ≠ .text) :
    decide (t.cursor.focus.kind = kind) = decide (s.cursor.focus.kind = kind) :=
  decide_eq_decide.2 (h.kind_eq_iff kind hk hne)

theorem startsDeclaration_of_endsStatement {kind : Kind} (h : kind.endsStatement = true) :
    kind.startsDeclaration = false := by
  cases kind <;> first | rfl | cases h

theorem Beside.endsStatement_eq (h : Beside d limit words s t) :
    t.cursor.focus.kind.endsStatement = s.cursor.focus.kind.endsStatement := by
  obtain ⟨hsame, _⟩ | ⟨hword, _⟩ := h.cases
  · rw [hsame]
  · rw [hword.kind]
    cases hends : s.cursor.focus.kind.endsStatement with
    | false => rfl
    | true =>
      have := startsDeclaration_of_endsStatement hends
      rw [hword.startsDeclaration] at this
      cases this

theorem Beside.next (h : Beside d limit words s t)
    (hk : s.cursor.focus.kind.startsDeclaration = false) (hne : s.cursor.focus.kind ≠ .eof) :
    Beside d limit words (s.moveTo s.cursor.next) (t.moveTo t.cursor.next) :=
  (h.understood hk).2.next hne

theorem Beside.skip (h : Beside d limit words s t) {p : Kind → Bool}
    (hp : ∀ kind, p kind = true → kind.startsDeclaration = false ∧ kind ≠ .text) :
    Beside d limit words (s.moveTo (s.cursor.skip p)) (t.moveTo (t.cursor.skip p)) := by
  obtain ⟨coming, hawaits, hahead⟩ := h.ahead
  obtain ⟨hindex, hskip⟩ := hahead.skipWhile hp h.index_eq
  exact ⟨h.ready.of_le (h.ready.clean.moveTo _) (s.cursor.le_skip p), hindex, coming,
    hawaits.moveTo _, hskip⟩

theorem Beside.skipNewlines (h : Beside d limit words s t) :
    Beside d limit words (s.moveTo (s.cursor.skip (· = .newline)))
      (t.moveTo (t.cursor.skip (· = .newline))) :=
  h.skip fun kind hk => by
    rw [of_decide_eq_true hk]
    exact ⟨rfl, nofun⟩

theorem Beside.skipSeparators (h : Beside d limit words s t) :
    Beside d limit words (s.moveTo (s.cursor.skip fun k => k = .newline || k = .semicolon))
      (t.moveTo (t.cursor.skip fun k => k = .newline || k = .semicolon)) :=
  h.skip fun kind hk => by
    rw [Bool.or_eq_true, decide_eq_true_eq, decide_eq_true_eq] at hk
    obtain rfl | rfl := hk <;> exact ⟨rfl, nofun⟩

/-! ## Noticing misspelled words -/

/-- The next token would start a declaration. -/
def Stops (s : State) : Prop := s.cursor.focus.kind.startsDeclaration = true

theorem Stops.kind_ne (h : Stops s) (kind : Kind) (hk : kind.startsDeclaration = false) :
    s.cursor.focus.kind ≠ kind := by
  rintro rfl
  rw [Stops, hk] at h
  cases h

/-- A misspelled word is taken for the keyword in its stead. -/
theorem Env.meant?_of_isMisspelling {c : Cursor} {keyword : Token}
    (hd : env.scene.dictionary = d) (hlimit : env.scene.limits.maxEditDistance = limit)
    (hword : IsMisspelling d limit keyword c.focus) (hnext : isJuxtaposed c = true) :
    ∃ meant, env.meant? c = some meant ∧ meant.kind = keyword.kind := by
  obtain ⟨correction, hcorrection, hspelling⟩ := hword.correction
  refine ⟨⟨keyword.kind, correction.word, c.focus.position⟩, ?_, rfl⟩
  simp only [Env.meant?, hword.kind, hnext, Scene.replacement?, hd, hlimit, hcorrection,
    decide_true, Bool.and_self, if_true, Option.map_some, Kind.ofWord?_spelling? hspelling,
    Option.getD_some]
  exact Option.filter_some_pos hword.startsDeclaration

/-- What a word is taken for depends on the next token only. -/
theorem Env.meant?_congr (halike : Alike d limit env env') {c c' : Cursor}
    (hfocus : c'.focus = c.focus) (hahead : c'.ahead.head? = c.ahead.head?) :
    env'.meant? c' = env.meant? c := by
  simp only [Env.meant?, isJuxtaposed, Scene.replacement?, hfocus, hahead, halike.dictionary,
    halike.limit]

/-- A word that is the same in both lists is taken for itself in the second run if it is in
    the first one, unless a keyword comes next. -/
theorem Understood.meant?_eq_none (h : Understood d limit words s t)
    (halike : Alike d limit env env') (hsame : t.cursor.focus = s.cursor.focus)
    (hnone : env.meant? s.cursor = none) :
    env'.meant? t.cursor = none ∨
      s.cursor.focus.kind = .text ∧ Stops (s.moveTo s.cursor.next) := by
  by_cases hk : s.cursor.focus.kind = .text
  · obtain ⟨coming, _, hahead⟩ := h.ahead
    generalize hs : s.cursor.ahead = l at hahead
    generalize ht : t.cursor.ahead = l' at hahead
    cases hahead with
    | nil => exact .inl (hnone ▸ Env.meant?_congr halike hsame (by rw [hs, ht]))
    | keep x _ => exact .inl (hnone ▸ Env.meant?_congr halike hsame (by rw [hs, ht]; rfl))
    | @replace _ _ _ keyword _ _ hword =>
      refine .inr ⟨hk, ?_⟩
      have hnext := Cursor.focus_next (c := s.cursor) (by rw [hs]; exact List.cons_ne_nil _ _)
      rw [hs] at hnext
      change s.cursor.next.focus.kind.startsDeclaration = true
      rw [(List.cons.inj hnext).1]
      exact hword.startsDeclaration
  · refine .inl ?_
    rw [Env.meant?, hsame]
    simp [hk]

/-- The warning about a misspelled word is the next one that is to come. -/
theorem Awaits.record {coming : List Token} {word : Token} {e : SyntaxError}
    (h : Awaits words (word :: coming) t) (htoken : e.token = word)
    (hwarning : e.code = .possibleMisspelling ∧ e.severity = .warning ∧
      e.position = e.token.position) : Awaits words coming (t.record e) := by
  obtain ⟨passed, hwarns, rfl⟩ := h.warns
  have hroom := h.room
  unfold State.record
  split
  · rename_i hzero
    omega
  · rename_i room hsucc
    rw [hsucc, List.length_cons] at hroom
    refine ⟨⟨passed ++ [word], ⟨?_, fun e' he' => ?_⟩, by simp⟩, Nat.lt_of_succ_lt_succ hroom⟩
    · rw [List.reverse_cons, List.map_append, hwarns.tokens, ← htoken]
      rfl
    · rw [List.reverse_cons, List.mem_append, List.mem_singleton] at he'
      obtain he' | rfl := he'
      · exact hwarns.isWarning e' he'
      · exact hwarning

/-! ## Runs side by side -/

/-- If the first run is clean, the second one comes to the same result, and to the same
    place. The first run may also end in a state that satisfies `P`. -/
def Outcome.Follows (d : Dictionary) (limit : Nat) (words : List Token) (P : State → Prop)
    (o o' : Outcome α) : Prop :=
  o.Cleanly fun a s => P s ∨ ∃ t, o' = .done a t ∧ Beside d limit words s t

/-- No state. -/
def Never (_ : State) : Prop := False

namespace Outcome.Follows

variable {P Q : State → Prop} {a : α} {o : Outcome α} {f : α → Parser β}

theorem done (h : Beside d limit words s t) : Follows d limit words P (.done a s) (.done a t) :=
  Cleanly.done fun _ => .inr ⟨t, rfl, h⟩

theorem failed {e : SyntaxError} : Follows d limit words P (.failed e s) o := Cleanly.failed e

theorem exhausted : Follows d limit words P .exhausted o := Cleanly.exhausted

/-- The first run ends where the second one may do otherwise. -/
theorem of_cleanly {o o' : Outcome α} (h : o.Cleanly fun _ s => P s) :
    Follows d limit words P o o' :=
  Cleanly.mono h fun _ _ _ => .inl

/-- The first run records an error, so it is not clean. -/
theorem report {e : SyntaxError} {f : Unit → Parser α} [Records (f ())]
    (h : Beside d limit words s t) : Follows d limit words P ((Parser.report e >>= f) env s) o :=
  Cleanly.report h.ready.clean

/-- The second parser is called where the first one ends. If that is a state that
    satisfies `P` then the second run may do otherwise. -/
theorem bind_or {p : Parser α} [∀ a, Records (f a)]
    (hp : Follows d limit words P (p env s) (p env' t))
    (hf : ∀ a s' t', Beside d limit words s' t' →
      Follows d limit words Q (f a env s') (f a env' t'))
    (hP : ∀ a s', s'.IsClean → P s' → ∀ o : Outcome β, Follows d limit words Q (f a env s') o) :
    Follows d limit words Q ((p >>= f) env s) ((p >>= f) env' t) := by
  refine Cleanly.bind hp fun a s' hclean h => ?_
  obtain h | ⟨t', ht', h⟩ := h
  · exact hP a s' hclean h _
  · rw [bind_apply, ht']
    exact hf a s' t' h

theorem bind {p : Parser α} [∀ a, Records (f a)]
    (hp : Follows d limit words Never (p env s) (p env' t))
    (hf : ∀ a s' t', Beside d limit words s' t' →
      Follows d limit words Q (f a env s') (f a env' t')) :
    Follows d limit words Q ((p >>= f) env s) ((p >>= f) env' t) :=
  hp.bind_or hf fun _ _ _ h => h.elim

/-! ### Steps -/

theorem eat {kind : Kind} {f : Bool → Parser α} (hk : kind.startsDeclaration = false)
    (hne : kind ≠ .text ∧ kind ≠ .eof) (h : Beside d limit words s t)
    (htrue : Beside d limit words (s.moveTo s.cursor.next) (t.moveTo t.cursor.next) →
      Follows d limit words P (f true env (s.moveTo s.cursor.next))
        (f true env' (t.moveTo t.cursor.next)))
    (hfalse : Follows d limit words P (f false env s) (f false env' t)) :
    Follows d limit words P ((Parser.eat kind >>= f) env s) ((Parser.eat kind >>= f) env' t) := by
  have hiff := h.kind_eq_iff kind hk hne.1
  rw [eat_bind, eat_bind]
  by_cases hfocus : s.cursor.focus.kind = kind
  · rw [if_pos hfocus, if_pos (hiff.2 hfocus)]
    exact htrue (h.next (hfocus ▸ hk) (hfocus ▸ hne.2))
  · rw [if_neg hfocus, if_neg (mt hiff.1 hfocus)]
    exact hfalse

theorem expect {kind : Kind} {f : Token → Parser α} (hk : kind.startsDeclaration = false)
    (hne : kind ≠ .eof) (h : Beside d limit words s t)
    (hf : ∀ token, Beside d limit words (s.moveTo s.cursor.next) (t.moveTo t.cursor.next) →
      Follows d limit words P (f token env (s.moveTo s.cursor.next))
        (f token env' (t.moveTo t.cursor.next))) :
    Follows d limit words P ((Parser.expect kind >>= f) env s)
      ((Parser.expect kind >>= f) env' t) := by
  rw [expect_bind, expect_bind]
  split
  · rename_i hfocus
    obtain ⟨hsame, hunderstood⟩ := h.understood (hfocus ▸ hk)
    rw [hsame, if_pos hfocus]
    exact hf _ (hunderstood.next (hfocus ▸ hne))
  · exact failed

theorem expectName {f : String → Parser α} (h : Beside d limit words s t)
    (hf : ∀ name, Beside d limit words (s.moveTo s.cursor.next) (t.moveTo t.cursor.next) →
      Follows d limit words P (f name env (s.moveTo s.cursor.next))
        (f name env' (t.moveTo t.cursor.next))) :
    Follows d limit words P ((Parser.expectName >>= f) env s)
      ((Parser.expectName >>= f) env' t) := by
  simp only [Parser.expectName, bind_assoc, pure_bind]
  exact expect rfl (by decide) h fun token => hf token.text

theorem endStatement {f : Unit → Parser α} (h : Beside d limit words s t)
    (hf : Follows d limit words P (f () env s) (f () env' t)) :
    Follows d limit words P ((Parser.endStatement >>= f) env s)
      ((Parser.endStatement >>= f) env' t) := by
  rw [endStatement_bind, endStatement_bind]
  split
  · rename_i hends
    rw [(h.understood (startsDeclaration_of_endsStatement hends)).1, if_pos hends]
    exact hf
  · exact failed

/-- In the first run the delimiter is there, or the run is not clean. -/
theorem delimiter {kind : Kind} {f : Unit → Parser α} [Records (f ())]
    (hk : kind.startsDeclaration = false) (hne : kind ≠ .eof) (h : Beside d limit words s t)
    (hf : Beside d limit words (s.moveTo s.cursor.next) (t.moveTo t.cursor.next) →
      Follows d limit words P (f () env (s.moveTo s.cursor.next))
        (f () env' (t.moveTo t.cursor.next))) :
    Follows d limit words P ((Parser.delimiter kind >>= f) env s)
      ((Parser.delimiter kind >>= f) env' t) := by
  refine Cleanly.delimiter h.ready.clean fun hfocus => ?_
  obtain ⟨hsame, hunderstood⟩ := h.understood (hfocus ▸ hk)
  rw [delimiter_bind, hsame, if_pos hfocus]
  exact hf (hunderstood.next (hfocus ▸ hne))

/-- A parser that moves on by itself in clean runs needs no other guard. -/
theorem guarded {p : Parser α} {reading : α → Reading} {fallback : α}
    (hreads : Reads p reading) (h : Beside d limit words s t)
    (hp : Follows d limit words Never (p env s) (p env' t)) :
    Follows d limit words P (Parser.guarded p fallback env s)
      (Parser.guarded p fallback env' t) := by
  have hboth := Cleanly.and (hreads env s h.ready) hp
  simp only [Parser.guarded, cursor_bind]
  refine Cleanly.bind (Cleanly.orRecover hboth) fun a s' _ hs' => ?_
  obtain ⟨hread, hnever | ⟨t', ht', h'⟩⟩ := hs'
  · exact hnever.elim
  · have hlt := (Cursor.lt_def.1 hread.lt).2
    have hindex := h.index_eq
    have hindex' := h'.index_eq
    rw [orRecover_bind, ht', ensureProgress_bind, if_neg (by omega)]
    dsimp only
    rw [ensureProgress_bind, if_neg (by omega)]
    exact done h'

/-- A loop does the same rounds on both lists. -/
theorem again {round : Parser (List α × Bool)} {rest : Parser (List α)} [Records rest]
    (hround : Follows d limit words Never (round env s) (round env' t))
    (hrest : ∀ {s' t'}, Beside d limit words s' t' →
      Follows d limit words Never (rest env s') (rest env' t')) :
    Follows d limit words P (Parser.again round rest env s) (Parser.again round rest env' t) := by
  have hagain : Parser.again round rest =
      round >>= fun x => if x.2 then rest >>= fun l => pure (x.1 ++ l) else pure x.1 := rfl
  rw [hagain]
  refine bind hround fun x s' t' h => ?_
  split
  · exact bind (hrest h) fun l s'' t'' h' => done h'
  · exact done h

/-- In the second run a misspelled word is taken for the keyword that stands in the first
    list, and the warning is recorded. Nothing is said about a word before a keyword: in
    the second list there may be another word in the stead of that, and then the first one
    may be taken for a keyword, too. -/
theorem effectiveKind {f : Kind → Parser α} (hf : ∀ kind, Records (f kind))
    (halike : Alike d limit env env') (h : Beside d limit words s t)
    (hunderstood : ∀ t', Understood d limit words s t' →
      Follows d limit words P (f s.cursor.focus.kind env s) (f s.cursor.focus.kind env' t'))
    (hstops : s.cursor.focus.kind = .text → Stops (s.moveTo s.cursor.next) →
      ∀ o, Follows d limit words P (f .text env s) o) :
    Follows d limit words P ((Parser.effectiveKind >>= f) env s)
      ((Parser.effectiveKind >>= f) env' t) := by
  refine Cleanly.effectiveKind hf h.ready.clean fun hnone => ?_
  obtain ⟨hsame, hnoticed⟩ | ⟨hword, hnext, coming, hawaits, hahead⟩ := h.cases
  · obtain hnone' | ⟨hk, hstop⟩ := hnoticed.meant?_eq_none halike hsame hnone
    · rw [effectiveKind_bind, hnone', hsame]
      exact hunderstood t hnoticed
    · rw [hk]
      exact hstops hk hstop _
  · obtain ⟨meant, hmeant, hkind⟩ :=
      Env.meant?_of_isMisspelling halike.dictionary.2 halike.limit.2 hword hnext
    rw [effectiveKind_bind, hmeant]
    dsimp only
    rw [hkind]
    refine hunderstood _ ⟨h.ready, ?_, ?_, ?_, coming, hawaits.record rfl ⟨rfl, rfl, rfl⟩, ?_⟩
    · rw [State.cursor_record, h.index_eq]
    · rw [State.cursor_record, hword.position]
    · rw [hword.startsDeclaration]
      exact nofun
    · rw [State.cursor_record]
      exact hahead

end Outcome.Follows

end Parser

end SunLint
