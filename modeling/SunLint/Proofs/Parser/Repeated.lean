import SunLint.Proofs.Parser.Severity
import SunLint.Proofs.Token.Lines

/-!
# How often a word is called misspelled

A word is called misspelled where a statement starts with it and it is taken for a keyword, and
where the recovery substitutes it. Most keywords are passed as soon as a word is taken for them,
and what has been passed is not looked at again. But an import or an export inside of a statement,
and behind an `export` anything that is no function or component, fails at the very word
(`Scene.IsMisplaced`). The recovery then starts there as well, and if no synchronization point is
near it calls the word misspelled for a second time (`Scene.Repeats`).

* `Told`: no token ahead has been called misspelled, and the one under the cursor so many times;
* `Outcome.Settled`: what is asked of an outcome, which a recovery turns into `Told` again
  (`Told.recovered`);
* `parse_misspellings`: no token is called misspelled more than twice, and only where it
  `Repeats` more than once;
* `misspelled_twice`: there it is.
-/

namespace SunLint

/-- How many of the errors call the token misspelled. -/
def misspellings (errors : List SyntaxError) (token : Token) : Nat :=
  errors.countP fun e => e.code = .possibleMisspelling && e.token = token

theorem misspellings_cons_of_ne {e : SyntaxError} (h : e.code ≠ .possibleMisspelling)
    (errors : List SyntaxError) (token : Token) :
    misspellings (e :: errors) token = misspellings errors token := by
  simp [misspellings, h]

theorem misspellings_cons {e : SyntaxError} (h : e.code = .possibleMisspelling)
    (errors : List SyntaxError) (token : Token) :
    misspellings (e :: errors) token =
      misspellings errors token + if e.token = token then 1 else 0 := by
  simp [misspellings, h, List.countP_cons]

namespace Scene

/-- The word under the cursor is taken for a keyword that starts a declaration. -/
structure IsTaken (scene : Scene) (c : Cursor) (meant : Token) : Prop where
  isJuxtaposed : Parser.isJuxtaposed c = true
  replacement : scene.replacement? c.focus = some meant
  startsDeclaration : meant.kind.startsDeclaration = true

/-- The token is of the kind, or is a word that stands for such a token. -/
def Denotes (scene : Scene) (token : Token) (kind : Kind) : Prop :=
  token.kind = kind ∨ ∃ meant, scene.replacement? token = some meant ∧ meant.kind = kind

/-- What may not be in a statement, or not behind an `export`. -/
def IsMisplaced (scene : Scene) (c : Cursor) (meant : Token) : Prop :=
  meant.kind = .importKw ∨ meant.kind = .exportKw ∨
    (∃ before ∈ c.behind.head?, scene.Denotes before .exportKw) ∧
      meant.kind ≠ .functionKw ∧ meant.kind ≠ .componentKw

/-- The word under the cursor is taken for a keyword that has no place there, and the recovery
    finds no synchronization point. -/
def Repeats (scene : Scene) (c : Cursor) : Prop :=
  (∃ meant, scene.IsTaken c meant ∧ scene.IsMisplaced c meant) ∧ scene.syncPoint? c = none

variable {scene : Scene} {c : Cursor} {meant : Token}

theorem IsTaken.kind (h : scene.IsTaken c meant) : c.focus.kind = .text := by
  have hreplacement := h.replacement
  rw [replacement?] at hreplacement
  split at hreplacement
  · assumption
  · cases hreplacement

theorem IsTaken.ahead_ne_nil (h : scene.IsTaken c meant) : c.ahead ≠ [] := by
  intro hnil
  have hnext := h.isJuxtaposed
  rw [Parser.isJuxtaposed, hnil] at hnext
  cases hnext

/-- Where it goes to a synchronization point the recovery reports nothing. -/
theorem syncPoint?_of_report {context : Context} {e : SyntaxError}
    (he : e ∈ (scene.recover c context).error) : scene.syncPoint? c = none := by
  rw [recover] at he
  split at he
  · cases he
  · cases hsync : scene.syncPoint? c with
    | none => rfl
    | some r =>
      obtain ⟨i, _, rfl⟩ := Option.map_eq_some_iff.1 hsync
      rw [hsync] at he
      cases he

end Scene

/-- Behind the cursor there are only tokens that are ahead of it. -/
theorem Cursor.rest_isSuffix {c d : Cursor} (h : c < d) : d.rest <:+ c.ahead := by
  obtain ⟨htokens, hindex⟩ := lt_def.1 h
  have hrest (c : Cursor) : c.tokens.drop c.index = c.rest := by
    rw [tokens, index, ← List.length_reverse, List.drop_left]
    rfl
  have hahead : c.tokens.drop (c.index + 1) = c.ahead := by
    rw [← List.drop_drop, hrest]
    rfl
  obtain ⟨n, hn⟩ := Nat.exists_eq_add_of_le hindex
  rw [← hrest d, ← htokens, hn, ← List.drop_drop, hahead]
  exact List.drop_suffix n c.ahead

theorem Cursor.behind_next {c : Cursor} (h : c.ahead ≠ []) :
    c.next.behind = c.focus :: c.behind := by
  obtain ⟨b, f, a⟩ := c
  cases a with
  | nil => exact absurd rfl h
  | cons t ts => rfl

theorem Cursor.IsTerminated.lt_seek {c : Cursor} (h : c.IsTerminated) (hk : c.focus.kind ≠ .eof)
    (n : Nat) : c < c.seek (n + 1) :=
  (h.lt_next hk).trans_le (c.next.le_seek n)

namespace Parser

variable {α β : Type} {scene : Scene} {env : Env} {s : State} {e : SyntaxError} {k : Nat}
  {kind : Kind}

theorem Env.isTaken_of_meant? {c : Cursor} {meant : Token} (h : env.meant? c = some meant) :
    env.scene.IsTaken c meant := by
  have hword := Env.replacement?_of_meant? h
  have hstarts := (Env.meant?_eq_some h).2
  rw [meant?] at h
  split at h
  · rename_i hnext
    rw [Bool.and_eq_true] at hnext
    exact ⟨hnext.2, hword, hstarts⟩
  · cases h

/-! ## What has been said of misspelled words -/

/-- No token is called misspelled more than twice, and only where it repeats more than once. -/
def Moderate (scene : Scene) (tokens : List Token) (errors : List SyntaxError) : Prop :=
  ∀ token, misspellings errors token ≤ 1 ∨ misspellings errors token = 2 ∧
    ∃ c : Cursor, c.tokens = tokens ∧ c.focus = token ∧ scene.Repeats c

/-- As long as errors are recorded, the token under the cursor has been called misspelled no more
    than `k` times, and no token ahead has been. -/
structure Told (scene : Scene) (k : Nat) (s : State) : Prop where
  terminated : s.cursor.IsTerminated
  nodup : s.cursor.tokens.Nodup
  moderate : Moderate scene s.cursor.tokens s.errors
  focus : s.room ≠ 0 → misspellings s.errors s.cursor.focus ≤ k
  ahead : s.room ≠ 0 → ∀ t ∈ s.cursor.ahead, misspellings s.errors t = 0

/-- The word under the cursor has been called misspelled, and the keyword that it is taken for
    has no place there. -/
def Stuck (scene : Scene) (s : State) : Prop :=
  Told scene 1 s ∧ ∃ meant, scene.IsTaken s.cursor meant ∧ scene.IsMisplaced s.cursor meant

namespace Told

theorem mono (h : Told scene k s) {k' : Nat} (hk : k ≤ k') : Told scene k' s :=
  ⟨h.terminated, h.nodup, h.moderate, fun hroom => (h.focus hroom).trans hk, h.ahead⟩

theorem of_room (h : Told scene k s) (hroom : s.room = 0) : Told scene 0 s :=
  ⟨h.terminated, h.nodup, h.moderate, fun hne => absurd hroom hne, h.ahead⟩

/-- What is left behind is of no concern any more. -/
theorem pass (h : Told scene k s) {c : Cursor} (hlt : s.cursor < c) :
    Told scene 0 (s.moveTo c) := by
  have htokens : s.cursor.tokens = c.tokens := hlt.le.1
  have hrest : ∀ t ∈ c.rest, t ∈ s.cursor.ahead := fun t ht =>
    (Cursor.rest_isSuffix hlt).subset ht
  refine ⟨h.terminated.of_le hlt.le, htokens ▸ h.nodup, htokens ▸ h.moderate, fun hroom => ?_,
    fun hroom t ht => h.ahead hroom t (hrest t (List.mem_cons_of_mem _ ht))⟩
  exact (h.ahead hroom c.focus (hrest _ List.mem_cons_self)).le

theorem moveTo (h : Told scene k s) {c : Cursor} (hle : s.cursor ≤ c) :
    Told scene k (s.moveTo c) := by
  obtain rfl | hlt := hle.eq_or_lt
  · exact h
  · exact (h.pass hlt).mono (Nat.zero_le k)

/-- Errors of another kind do not count. -/
theorem record (h : Told scene k s) (he : e.code ≠ .possibleMisspelling) :
    Told scene k (s.record e) := by
  unfold State.record
  split
  · exact h
  · rename_i room hroom
    have hne : s.room ≠ 0 := by rw [hroom]; exact Nat.succ_ne_zero room
    refine ⟨h.terminated, h.nodup, ?_, fun _ => ?_, fun _ t ht => ?_⟩
    · intro token
      rw [misspellings_cons_of_ne he]
      exact h.moderate token
    · rw [misspellings_cons_of_ne he]
      exact h.focus hne
    · rw [misspellings_cons_of_ne he]
      exact h.ahead hne t ht

/-- The token under the cursor may be called misspelled, for the first time or where it
    repeats. -/
theorem call (h : Told scene k s) (hk : k = 0 ∨ k = 1 ∧ scene.Repeats s.cursor)
    (htoken : e.token = s.cursor.focus) : Told scene (k + 1) (s.record e) := by
  by_cases he : e.code = .possibleMisspelling
  swap
  · exact (h.record he).mono (Nat.le_succ k)
  unfold State.record
  split
  · rename_i hroom
    exact (h.of_room hroom).mono (Nat.zero_le _)
  · rename_i room hroom
    have hne : s.room ≠ 0 := by rw [hroom]; exact Nat.succ_ne_zero room
    have hfocus := h.focus hne
    refine ⟨h.terminated, h.nodup, fun token => ?_, fun _ => ?_, fun _ t ht => ?_⟩
    · rw [misspellings_cons he, htoken]
      split
      · rename_i heq
        subst heq
        obtain rfl | ⟨rfl, hrepeats⟩ := hk
        · exact .inl (by omega)
        · obtain hzero | hone := Nat.le_one_iff_eq_zero_or_eq_one.1 hfocus
          · exact .inl (by omega)
          · exact .inr ⟨by omega, s.cursor, rfl, rfl, hrepeats⟩
      · exact h.moderate token
    · rw [misspellings_cons he, if_pos htoken]
      exact Nat.succ_le_succ hfocus
    · have hother : e.token ≠ t := by
        rintro rfl
        rw [htoken] at ht
        exact (List.nodup_cons.1 (List.nodup_append.1 h.nodup).2.1).1 ht
      rw [misspellings_cons he, if_neg hother]
      exact h.ahead hne t ht

end Told

/-! ## Outcomes -/

/-- Nothing has been said of the token that is left under the cursor and of those ahead. A parser
    that fails may also be stuck at a word. -/
def Outcome.Settled (scene : Scene) : Outcome α → Prop
  | .done _ s => Told scene 0 s
  | .failed e s => e.code ≠ .possibleMisspelling ∧ (Told scene 0 s ∨ Stuck scene s)
  | .exhausted => True

/-- Called where nothing has been said of the tokens to be read, the parser leaves it at that. -/
def Once (p : Parser α) : Prop := ∀ env s, Told env.scene 0 s → (p env s).Settled env.scene

/-- The token under the cursor is of the kind, or it has been taken for a keyword of the kind and
    called misspelled. -/
def Noticed (scene : Scene) (kind : Kind) (s : State) : Prop :=
  Told scene 0 s ∧ s.cursor.focus.kind = kind ∨
    Told scene 1 s ∧ ∃ meant, scene.IsTaken s.cursor meant ∧ meant.kind = kind

/-- The parser leaves it at that where it is called at a token of the kind. -/
def OnceAt (kind : Kind) (p : Parser α) : Prop :=
  ∀ env s, Noticed env.scene kind s → (p env s).Settled env.scene

theorem Outcome.Settled.bind {p : Parser α} {f : α → Parser β}
    (hp : (p env s).Settled env.scene) (hf : ∀ a, Once (f a)) :
    ((p >>= f) env s).Settled env.scene := by
  rw [bind_apply]
  cases ho : p env s with
  | done a s' =>
    rw [ho] at hp
    exact hf a env s' hp
  | failed e s' =>
    rw [ho] at hp
    exact hp
  | exhausted => trivial

/-- The recovery may call the word misspelled once more. -/
theorem told_of_report (h : Told scene 0 s ∨ Stuck scene s) (htoken : e.token = s.cursor.focus)
    (hsync : scene.syncPoint? s.cursor = none) : Told scene 2 (s.record e) := by
  obtain h | ⟨h, hmisplaced⟩ := h
  · exact (h.call (.inl rfl) htoken).mono (Nat.le_succ 1)
  · exact h.call (.inr ⟨rfl, hmisplaced, hsync⟩) htoken

/-- The recovery passes the token that the parser failed at, or the input ends there. -/
theorem Told.recovered (h : (Outcome.failed e s : Outcome α).Settled env.scene) :
    Told env.scene 0 (s.recovered env e) := by
  obtain ⟨hcode, h⟩ := h
  rw [State.recovered]
  by_cases hroom : s.room = 0
  · rw [if_pos hroom]
    exact h.elim id fun hstuck => hstuck.1.of_room hroom
  rw [if_neg hroom]
  by_cases heof : s.cursor.focus.kind = .eof
  · obtain h | ⟨_, meant, htaken, _⟩ := h
    · rw [Scene.recover, if_pos heof]
      exact h.record hcode
    · rw [htaken.kind] at heof
      cases heof
  obtain ⟨passed, hpasses⟩ := Scene.recover_passes env.scene e.context heof
  have hsync (e' : SyntaxError) (he' : (env.scene.recover s.cursor e.context).error = some e') :
      env.scene.syncPoint? s.cursor = none := Scene.syncPoint?_of_report he'
  generalize env.scene.recover s.cursor e.context = r at hpasses hsync
  dsimp only
  -- The failure itself is recorded or not, and it calls no word misspelled.
  generalize hs₁ : (if isMoreSpecific r e then s else s.record e) = s₁
  obtain ⟨hcursor, h₁⟩ : s₁.cursor = s.cursor ∧ (Told env.scene 0 s₁ ∨ Stuck env.scene s₁) := by
    subst hs₁
    split
    · exact ⟨rfl, h⟩
    · refine ⟨s.cursor_record e, h.imp (·.record hcode) fun hstuck => ?_⟩
      rw [Stuck, State.cursor_record]
      exact ⟨hstuck.1.record hcode, hstuck.2⟩
  obtain ⟨hcursor₂, h₂⟩ : (r.error.elim s₁ s₁.record).cursor = s.cursor ∧
      Told env.scene 2 (r.error.elim s₁ s₁.record) := by
    cases herror : r.error with
    | none =>
      exact ⟨hcursor, h₁.elim (·.mono (Nat.zero_le 2)) fun hstuck => hstuck.1.mono (Nat.le_succ 1)⟩
    | some e' =>
      rw [Option.elim_some, State.cursor_record]
      refine ⟨hcursor, told_of_report h₁ ?_ ?_⟩
      · rw [hcursor, hpasses.error_token e' herror]
      · rw [hcursor, hsync e' herror]
  rw [hpasses.advance_eq]
  refine h₂.pass (h₂.terminated.lt_seek ?_ _)
  rwa [hcursor₂]

/-! ## Small parsers -/

theorem code_unexpectedError_ne (c : Cursor) (expected : List Kind) :
    (env.unexpectedError c expected).code ≠ .possibleMisspelling := by
  change (if expected.isEmpty then ErrorCode.unexpectedToken else .expectedToken) ≠ _
  split <;> exact nofun

theorem code_missingDelimiter?_ne {c : Cursor} {context : Context}
    (h : scene.missingDelimiter? c context = some e) : e.code ≠ .possibleMisspelling := by
  obtain ⟨delimiter, hlacking, rfl⟩ := Option.map_eq_some_iff.1 h
  have hdelimiter := ofConstruct?_of_lacking? hlacking
  -- Three constructs have a delimiter.
  cases hconstruct : context.construct <;> rw [hconstruct] at hdelimiter <;> cases hdelimiter <;>
    exact nofun

/-- No word is called misspelled where tokens are merely read. -/
theorem once_isReading : IsReading @Once where
  pure _ := fun _ _ h => h
  bind hp hf := fun env s h => (hp env s h).bind hf
  within _ hp := fun _ s h => hp _ s h
  exhausted := fun _ _ _ => trivial
  current _ hf := fun env s h => hf _ env s h
  index _ hf := fun env s h => hf _ env s h
  advance := fun _ s h => h.moveTo s.cursor.le_next
  skip p := fun _ s h => h.moveTo (s.cursor.le_skip p)
  note hremark := fun _ _ h => h.record hremark.code_ne
  delimiter kind := fun env s h => by
    rw [← bind_pure (delimiter kind), delimiter_bind]
    split
    · exact h.moveTo s.cursor.le_next
    · split
      · rename_i e he
        exact h.record (code_missingDelimiter?_ne he)
      · exact ⟨code_unexpectedError_ne _ _, .inl h⟩
  unexpected expected := fun _ _ h => ⟨code_unexpectedError_ne _ _, .inl h⟩

theorem Once.orRecover {p : Parser α} (hp : Once p) (fallback : α) :
    Once (orRecover p fallback) := by
  intro env s h
  rw [← bind_pure (Parser.orRecover p fallback), orRecover_bind]
  have hsettled := hp env s h
  cases ho : p env s with
  | done a s' =>
    rw [ho] at hsettled
    exact hsettled
  | failed e s' =>
    rw [ho] at hsettled
    exact Told.recovered hsettled
  | exhausted => trivial

theorem noteMissingResult_once : Once noteMissingResult := by
  intro env s h
  simp only [noteMissingResult, current_bind, lastErrorPosition_bind]
  split
  · exact h
  · exact once_isReading.note .result env s h

/-- A word is taken for a keyword, or for itself. -/
theorem effectiveKind_noticed (h : Told env.scene 0 s) :
    ∃ kind s', Noticed env.scene kind s' ∧ s'.cursor = s.cursor ∧
      ∀ {α : Type} (f : Kind → Parser α), (effectiveKind >>= f) env s = f kind env s' := by
  cases hmeant : env.meant? s.cursor with
  | none =>
    refine ⟨_, s, .inl ⟨h, rfl⟩, rfl, fun f => ?_⟩
    rw [effectiveKind_bind, hmeant]
  | some meant =>
    let e := env.scene.recordMisspelling s.cursor.focus meant.text (env.contextAt s.cursor)
    have htaken : env.scene.IsTaken (s.record e).cursor meant := by
      rw [State.cursor_record]
      exact Env.isTaken_of_meant? hmeant
    refine ⟨meant.kind, s.record e, .inr ⟨h.call (.inl rfl) rfl, meant, htaken, rfl⟩,
      s.cursor_record e, fun f => ?_⟩
    rw [effectiveKind_bind, hmeant]

theorem Once.effectiveKind {f : Kind → Parser α} (hf : ∀ kind, OnceAt kind (f kind)) :
    Once (effectiveKind >>= f) := by
  intro env s h
  obtain ⟨kind, s', hnoticed, -, hrun⟩ := effectiveKind_noticed h
  rw [hrun]
  exact hf kind env s' hnoticed

/-! ## Parsers that are called at a token of a kind -/

/-- A token that has been noticed is passed. -/
theorem Noticed.next (h : Noticed scene kind s) : Told scene 0 (s.moveTo s.cursor.next) := by
  obtain ⟨h, -⟩ | ⟨h, meant, htaken, -⟩ := h
  · exact h.moveTo s.cursor.le_next
  · exact h.pass (Cursor.lt_next htaken.ahead_ne_nil)

theorem Noticed.denotes (h : Noticed scene kind s) : scene.Denotes s.cursor.focus kind := by
  obtain ⟨-, hkind⟩ | ⟨-, meant, htaken, hkind⟩ := h
  · exact .inl hkind
  · exact .inr ⟨meant, htaken.replacement, hkind⟩

theorem Noticed.ahead_ne_nil (h : Noticed scene kind s) (hk : kind ≠ .eof) :
    s.cursor.ahead ≠ [] := by
  obtain ⟨h, rfl⟩ | ⟨-, meant, htaken, -⟩ := h
  · exact h.terminated.ahead_ne_nil hk
  · exact htaken.ahead_ne_nil

/-- Where a word has been taken for a keyword it is one that starts a declaration. -/
theorem Noticed.told (h : Noticed scene kind s) (hkind : kind.startsDeclaration = false) :
    Told scene 0 s := by
  obtain ⟨h, -⟩ | ⟨-, meant, htaken, rfl⟩ := h
  · exact h
  · rw [htaken.startsDeclaration] at hkind
    cases hkind

theorem Noticed.of_misplaced (h : Noticed scene kind s)
    (hmisplaced : ∀ meant : Token, meant.kind = kind → scene.IsMisplaced s.cursor meant) :
    Told scene 0 s ∨ Stuck scene s := by
  obtain ⟨h, -⟩ | ⟨h, meant, htaken, hkind⟩ := h
  · exact .inl h
  · exact .inr ⟨h, meant, htaken, hmisplaced meant hkind⟩

theorem OnceAt.advance {f : Unit → Parser α} (hf : Once (f ())) : OnceAt kind (advance >>= f) :=
  fun env _ h => hf env _ h.next

theorem OnceAt.bind {p : Parser α} {f : α → Parser β} (hp : OnceAt kind p) (hf : ∀ a, Once (f a)) :
    OnceAt kind (p >>= f) :=
  fun env s h => (hp env s h).bind hf

theorem OnceAt.currentLine {f : Nat → Parser α} (hf : ∀ line, OnceAt kind (f line)) :
    OnceAt kind (currentLine >>= f) :=
  fun env s h => hf _ env s h

section

variable (hk : s.cursor.focus.kind = .text) (h : Told env.scene 0 (s.moveTo s.cursor.next))
include hk h

theorem primary_of_word (n : Nat) : (primary n env s).Settled env.scene := by
  cases n with
  | zero => trivial
  | succ n =>
    rw [primary, current_bind, hk]
    exact h

theorem unary_of_word (n : Nat) : (unary n env s).Settled env.scene := by
  cases n with
  | zero => trivial
  | succ n =>
    rw [unary, current_bind, hk]
    exact (primary_of_word hk h n).bind (once_isReading.expressions n).suffixes

/-- A word is passed as a name where an expression is read. -/
theorem binary_of_word (n least : Nat) : (binary n least env s).Settled env.scene := by
  cases n with
  | zero => trivial
  | succ n =>
    rw [binary]
    exact (unary_of_word hk h n).bind ((once_isReading.expressions n).operations least)

end

theorem expression_onceAt (n : Nat) : OnceAt kind (expression n) := by
  intro env s h
  have hnext := h.next
  obtain ⟨h, -⟩ | ⟨-, meant, htaken, -⟩ := h
  · exact once_isReading.expression n env s h
  · exact @binary_of_word { env with constructs := .expression :: env.constructs } s htaken.kind
      hnext n 0

/-! ## Statements -/

/-- The parsers of statements, called to the depth `n`, call no word misspelled twice. Some are
    called at a token that has been noticed. -/
structure StatementsOnce (n : Nat) : Prop where
  statementAs : ∀ kind, OnceAt kind (statementAs n kind)
  clause : ∀ kind, OnceAt kind (clause n kind)
  conditional : ∀ kind, OnceAt kind (conditional n)
  branch : Once (branch n)
  callable : ∀ form kind, OnceAt kind (callable n form)
  blockBody : ∀ opened, Once (blockBody n opened)
  statement : Once (statement n)

variable {n : Nat}

theorem statementAs_onceAt (ih : StatementsOnce n) (kind : Kind) :
    OnceAt kind (statementAs (n + 1) kind) := by
  have hreading := once_isReading
  unfold statementAs
  split
  iterate 2 exact (ih.callable _ _).bind fun _ => hreading.pure _
  · exact (ih.clause _).bind fun _ => hreading.bind hreading.endStatement fun _ => hreading.pure _

/-- What is only allowed at the top level is given up at the very token. -/
theorem misplaced_onceAt (hkind : kind.startsDeclaration = false ∨
      ∀ scene : Scene, ∀ c, ∀ meant : Token, meant.kind = kind → scene.IsMisplaced c meant)
    (message : Token → String) :
    OnceAt kind (current >>= fun t => coded .unexpectedToken .error (message t) >>= fail :
      Parser α) := by
  intro env s h
  refine ⟨nofun, ?_⟩
  obtain hkind | hmisplaced := hkind
  · exact .inl (h.told hkind)
  · exact h.of_misplaced (hmisplaced _ _)

theorem clause_onceAt (ih : StatementsOnce n) (kind : Kind) :
    OnceAt kind (clause (n + 1) kind) := by
  have hreading := once_isReading
  refine .currentLine fun line => ?_
  split
  iterate 2
    exact .advance (hreading.bind hreading.expectName fun _ => hreading.expect (fun _ => rfl)
      fun _ => hreading.value n _)
  · exact ih.conditional _
  · exact .advance (hreading.bind hreading.currentKind fun _ =>
      IsReading.ite (hreading.pure _) (hreading.value n _))
  · exact .advance (hreading.value n _)
  · exact .advance (hreading.bind (hreading.within _ (ih.blockBody line)) fun _ => hreading.pure _)
  · exact misplaced_onceAt (.inr fun _ _ _ h => .inl h) _
  · exact misplaced_onceAt (.inr fun _ _ _ h => .inr (.inl h)) _
  · exact misplaced_onceAt (.inl rfl) _
  · exact (expression_onceAt n).bind fun _ => hreading.pure _

theorem conditional_onceAt (ih : StatementsOnce n) (kind : Kind) :
    OnceAt kind (conditional (n + 1)) := by
  have hreading := once_isReading
  have hdelimiter (condition : Expr) :
      Once (do delimiter .thenKw; return condition : Parser Expr) :=
    hreading.bind (hreading.delimiter _) fun _ => hreading.pure _
  refine .currentLine fun line => .advance ?_
  refine hreading.bind (hreading.within _ (hreading.bind hreading.currentKind fun _ => ?_))
    fun condition => ?_
  · exact IsReading.ite
      (hreading.noting .condition fun _ => hreading.bind (hreading.pure _) hdelimiter)
      (hreading.bind (hreading.expression n) hdelimiter)
  · refine hreading.bind ih.branch fun result => hreading.bind (hreading.eat _) fun _ =>
      IsReading.ite ?_ (hreading.pure _)
    exact hreading.bind ih.branch fun _ => hreading.pure _

theorem branch_once (ih : StatementsOnce n) : Once (branch (n + 1)) := by
  have hreading := once_isReading
  rw [branch_succ]
  refine hreading.bind hreading.currentKind fun kind => IsReading.ite ?_ (.effectiveKind ih.clause)
  exact hreading.bind noteMissingResult_once fun _ => hreading.bind hreading.currentLine fun _ =>
    hreading.pure _

theorem callable_onceAt (ih : StatementsOnce n) (form : Callable.Form) (kind : Kind) :
    OnceAt kind (callable (n + 1) form) := by
  have hreading := once_isReading
  have hgiveUp (message : String) (expected : List Kind) :
      Once (coded form.invalidCode .error message expected >>= fail : Parser Declaration) := by
    intro env s h
    exact ⟨by cases form <;> exact nofun, .inl h⟩
  refine .currentLine fun line => .advance ?_
  refine hreading.within _ (hreading.bind hreading.currentKind fun _ =>
    IsReading.ite (hgiveUp _ _) ?_)
  refine hreading.bind hreading.expectName fun _ => hreading.bind (hreading.params n) fun _ =>
    hreading.bind (hreading.delimiter _) fun _ => ?_
  exact hreading.bind (hreading.within _ (ih.blockBody line)) fun _ => hreading.pure _

theorem blockBody_once (ih : StatementsOnce n) (opened : Nat) :
    Once (blockBody (n + 1) opened) := by
  have hreading := once_isReading
  refine hreading.bind (hreading.skip _) fun _ => hreading.bind (fun _ _ h => h) fun _ =>
    IsReading.ite (hreading.pure []) ?_
  refine hreading.current (fun ht => by simp only [ht.kind, ht.line]) fun token => ?_
  split
  · exact hreading.bind hreading.advance fun _ => hreading.pure []
  · exact hreading.noting (.closingBrace opened) fun _ => hreading.pure []
  · refine hreading.index (fun hi => by simp only [hi]) fun _ =>
      hreading.bind (ih.statement.orRecover _) fun _ => ?_
    exact hreading.bind (hreading.ensureProgress _) fun _ =>
      hreading.bind (ih.blockBody opened) fun _ => hreading.pure _

theorem statementsOnce (n : Nat) : StatementsOnce n := by
  induction n with
  | zero => constructor <;> intros <;> exact fun _ _ _ => trivial
  | succ n ih =>
    exact ⟨statementAs_onceAt ih, clause_onceAt ih, conditional_onceAt ih, branch_once ih,
      callable_onceAt ih, blockBody_once ih, .effectiveKind ih.statementAs⟩

/-! ## Programs -/

/-- A directive may be called misspelled, and is passed. -/
theorem directive_onceAt (n : Nat) : OnceAt .directive (directive n) := by
  have hreading := once_isReading
  intro env s h
  have hrest (token : Token) (s' : State) (hs' : Told env.scene 1 s')
      (hcursor : s'.cursor = s.cursor) : (directiveRest n token env s').Settled env.scene := by
    have hargs : Once (within .directive (directiveArgs n) >>= fun args =>
        endStatement >>= fun _ =>
          pure (Item.directive token.text args token.position.line)) :=
      hreading.bind (hreading.within _ (hreading.directiveArgs n)) fun _ =>
        hreading.bind hreading.endStatement fun _ => hreading.pure _
    exact hargs env _ (hs'.pass (Cursor.lt_next (hcursor ▸ h.ahead_ne_nil nofun)))
  have htold := h.told rfl
  rw [directive_eq]
  simp only [noteUnknownDirective, bind_assoc, current_bind, scene_bind]
  split
  · exact hrest _ s (htold.mono (Nat.zero_le 1)) rfl
  · refine hrest _ _ (htold.call (.inl rfl) ?_) (s.cursor_record _)
    rw [unknownDirective]
    split <;> rfl

theorem importItem_onceAt (kind : Kind) : OnceAt kind importItem := by
  have hreading := once_isReading
  refine .currentLine fun line => .advance ?_
  refine hreading.current (fun ht => by simp only [ht.kind, ht.text]) fun token => ?_
  split
  iterate 2
    exact hreading.bind hreading.advance fun _ => hreading.bind hreading.endStatement fun _ =>
      hreading.pure _
  · exact hreading.unexpected _

/-- Behind an `export` a word may have been taken for a keyword that has no place there. -/
theorem exportItem_onceAt (n : Nat) : OnceAt .exportKw (exportItem n) := by
  have hcallable (form : Callable.Form) (kind : Kind) (line : Nat) :
      OnceAt kind (callable n form >>= fun c => pure (Item.exported c line)) :=
    ((statementsOnce n).callable form kind).bind fun _ => once_isReading.pure _
  intro env s h
  obtain ⟨kind, s', hnoticed, hcursor, hrun⟩ := effectiveKind_noticed h.next
  have hbehind : s'.cursor.behind.head? = some s.cursor.focus := by
    rw [hcursor, State.cursor_moveTo, Cursor.behind_next (h.ahead_ne_nil nofun), List.head?_cons]
  rw [exportItem, currentLine_bind, advance_bind, hrun]
  split
  · exact hcallable _ _ _ env s' hnoticed
  · exact hcallable _ _ _ env s' hnoticed
  · rename_i hfunction hcomponent
    refine ⟨code_unexpectedError_ne _ _, hnoticed.of_misplaced fun meant hkind => ?_⟩
    exact .inr (.inr ⟨⟨_, hbehind, h.denotes⟩, hkind ▸ hfunction, hkind ▸ hcomponent⟩)

theorem item_once (n : Nat) : Once (item n) := by
  have hreading := once_isReading
  refine .effectiveKind fun kind => ?_
  split
  · exact directive_onceAt n
  iterate 2 exact ((statementsOnce n).callable _ _).bind fun _ => hreading.pure _
  · exact importItem_onceAt _
  · exact exportItem_onceAt n
  · exact fun env s h => ⟨nofun, .inl (h.told rfl)⟩
  · exact ((statementsOnce n).statementAs _).bind fun _ => hreading.pure _

theorem items_once (n : Nat) : Once (items n) := by
  have hreading := once_isReading
  induction n with
  | zero => exact fun _ _ _ => trivial
  | succ n ih =>
    refine hreading.bind (hreading.skip _) fun _ => hreading.bind (fun _ _ h => h) fun _ =>
      hreading.bind hreading.currentKind fun _ => IsReading.ite (hreading.pure []) ?_
    refine hreading.index (fun hi => by simp only [hi]) fun _ =>
      hreading.bind ((hreading.map (item_once n) some).orRecover none) fun _ => ?_
    exact hreading.bind (hreading.ensureProgress _) fun _ => hreading.bind ih fun _ =>
      hreading.pure _

/-! ## The whole -/

/-- In a list of different tokens that ends with the end of the input, no token is called
    misspelled more than twice, and only where it repeats more than once. -/
theorem moderate_of_nodup {tokens : List Token} (hnodup : tokens.Nodup)
    (hlast : tokens.getLast?.map (·.kind) = some .eof) (source : Option String)
    (dictionary : Dictionary) (settings : Settings) :
    ∃ output, parse tokens source dictionary settings = .ok output ∧
      Moderate { dictionary, source, limits := settings.limits } tokens output.errors := by
  obtain ⟨c, found, s, hc, -, hdone, hparse⟩ :=
    isParsed_of_getLast? source dictionary settings hlast
  have htokens : c.tokens = tokens := Cursor.tokens_ofList? hc
  have hstart : Told { dictionary, source, limits := settings.limits } 0 (.start c settings) :=
    ⟨by rw [← htokens] at hlast; exact hlast, htokens ▸ hnodup, fun _ => .inl (Nat.zero_le 1),
      fun _ => le_rfl, fun _ _ _ => rfl⟩
  have hitems := items_once (depthFor tokens.length) (.start source dictionary settings) _ hstart
  rw [hdone _ le_rfl] at hitems
  have hsame : s.cursor.tokens = tokens := by
    have hforward := (allForward (depthFor tokens.length)).items _ _ _
      (congrArg Outcome.state? (hdone _ le_rfl))
    exact hforward.1.trans htokens
  refine ⟨_, hparse, fun token => ?_⟩
  have hmoderate := hitems.moderate token
  rw [hsame] at hmoderate
  rw [misspellings, List.countP_reverse]
  exact hmoderate

/-- Whatever the text, no token of it is called misspelled more than twice. It is called so twice
    only where it is taken for a keyword that has no place there, and no synchronization point is
    near. -/
theorem parse_misspellings (text : String) (dictionary : Dictionary) (settings : Settings) :
    ∃ output, parse (tokenize text).tokens (some text) dictionary settings = .ok output ∧
      ∀ token, misspellings output.errors token ≤ 1 ∨ misspellings output.errors token = 2 ∧
        ∃ c : Cursor, c.tokens = (tokenize text).tokens ∧ c.focus = token ∧
          Scene.Repeats { dictionary, source := some text, limits := settings.limits } c :=
  moderate_of_nodup ((nodup_positions text).of_map _) (getLast?_tokenize text) _ dictionary
    settings

/-- A word behind an `export` that is taken for another keyword is called misspelled twice. -/
theorem misspelled_twice : ∃ (dictionary : Dictionary) (token : Token) (output : ParseOutput),
    token ∈ (tokenize "export retrun x").tokens ∧
    parse (tokenize "export retrun x").tokens (some "export retrun x") dictionary {} =
      .ok output ∧
    misspellings output.errors token = 2 := by
  let dictionary : Dictionary :=
    { keywords := ["return"], misspellings := SortedMap.empty.insert "retrun" "return" }
  let token : Token := ⟨.text, "retrun", ⟨1, 8⟩⟩
  let tokens := (tokenize "export retrun x").tokens
  have hcount : (parse tokens (some "export retrun x") dictionary {}).toOption.map
      (fun output => misspellings output.errors token) = some 2 := by decide +kernel
  have hlast : tokens.getLast?.map (·.kind) = some .eof := rfl
  obtain ⟨-, found, s, -, -, -, hparse⟩ :=
    isParsed_of_getLast? (some "export retrun x") dictionary {} hlast
  rw [hparse] at hcount
  exact ⟨dictionary, token, _, by decide +kernel, hparse, Option.some.inj hcount⟩

end Parser

end SunLint
