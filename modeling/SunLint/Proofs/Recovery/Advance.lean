import SunLint.Recovery.Basic

/-!
# How far a recovery goes

A recovery passes over the token it starts at and over a run of tokens right
behind it (`Recovery.Passes`). Whatever the strategy, nothing in that run is a
synchronization point, and the run does not reach the end of the input. For the
last strategies this depends on the earlier ones: the rest of a line is passed
over only if no statement boundary has been found, so it has no synchronization
point in it.

* `recover_passes`: one recovery, with the cursor at a token;
* `recoverAt_contract`: the same by indices, for any token list and any index,
  and what follows for repeated recovery: the end is reached within as many
  recoveries as tokens are left.
-/

namespace SunLint

open Recovery

/-- The synchronization points are line ends, braces and the keywords that open a
    block. -/
theorem Kind.isSyncPoint_iff {k : Kind} : k.isSyncPoint = true ↔
    k ∈ [Kind.newline, .leftBrace, .rightBrace, .functionKw, .componentKw, .whenKw] := by
  cases k <;> decide

namespace Recovery

/-- The recovery passes over the token under the cursor and the tokens `passed`
    right behind it, which belong to the input and are no synchronization
    points. What it reports and what it skips is said of these tokens. -/
structure Passes (c : Cursor) (passed : List Token) (r : Recovery) : Prop where
  advance_eq : r.advance = passed.length + 1
  isPrefix : passed <+: beforeEof c.ahead
  not_isSyncPoint : ∀ t ∈ passed, t.kind.isSyncPoint = false
  error_token : ∀ e ∈ r.error, e.token = c.focus
  skipped_eq : ∀ ts, r.amendment = some (.skipped ts) → ts = c.focus :: passed

/-- Before the first token that satisfies `p` there is none that does. -/
theorem not_of_mem_take {p : Token → Bool} {l : List Token} {i : Nat}
    (h : l.findIdx? p = some i) : i < l.length ∧ ∀ t ∈ l.take i, p t = false := by
  obtain ⟨hi, _, hbefore⟩ := List.findIdx?_eq_some_iff_getElem.1 h
  refine ⟨hi, fun t ht => ?_⟩
  obtain ⟨j, hj, rfl⟩ := List.mem_take_iff_getElem.1 ht
  exact Bool.not_eq_true _ ▸ hbefore j (by omega)

/-- Fewer tokens to look at are a part of what comes before the end. -/
theorem isPrefix_beforeEof_take (l : List Token) (n : Nat) :
    beforeEof (l.take n) <+: beforeEof l := by
  rw [beforeEof, ← List.take_takeWhile]
  exact List.take_prefix _ _

theorem kind_ne_eof {l : List Token} {t : Token} (h : t ∈ beforeEof l) : t.kind ≠ .eof := by
  unfold beforeEof at h
  simpa using List.all_eq_true.1 List.all_takeWhile t h

theorem length_beforeEof (l : List Token) :
    (beforeEof l).length = l.findIdx (·.kind = .eof) := by
  rw [beforeEof, List.takeWhile_eq_take_findIdx_not, List.length_take_of_le List.findIdx_le_length]
  simp

/-- To go to a token that is found ahead is to pass over those before it. -/
theorem Passes.of_findIdx? {c : Cursor} {p : Token → Bool} {l : List Token} {i : Nat}
    {strategy : Strategy} (hl : l <+: beforeEof c.ahead) (h : l.findIdx? p = some i)
    (hp : ∀ t, p t = false → t.kind.isSyncPoint = false) :
    Passes c (l.take i) { strategy, advance := i + 1 } where
  advance_eq := by
    rw [List.length_take_of_le (Nat.le_of_lt (not_of_mem_take h).1)]
  isPrefix := (List.take_prefix i l).trans hl
  not_isSyncPoint t ht := hp t ((not_of_mem_take h).2 t ht)
  error_token := by simp
  skipped_eq := by simp

/-- Some strategies pass over the token under the cursor only. -/
theorem Passes.of_advance_eq_one {c : Cursor} {r : Recovery} (h : r.advance = 1)
    (he : ∀ e ∈ r.error, e.token = c.focus)
    (hs : ∀ ts, r.amendment = some (.skipped ts) → ts = [c.focus]) : Passes c [] r where
  advance_eq := h
  isPrefix := List.nil_prefix
  not_isSyncPoint := by simp
  error_token := he
  skipped_eq := hs

variable {c : Cursor} {r : Recovery} {context : Context}

theorem statementBoundary?_passes (h : statementBoundary? c = some r) :
    ∃ passed, Passes c passed r := by
  obtain ⟨i, hi, rfl⟩ := Option.map_eq_some_iff.1 h
  refine ⟨_, .of_findIdx? (List.prefix_refl _) hi fun t ht => ?_⟩
  exact (Bool.or_eq_false_iff.1 ht).2

/-- Without a statement boundary ahead, nothing before the end of the input is a
    synchronization point. -/
theorem not_isSyncPoint_of_statementBoundary?_eq_none (h : statementBoundary? c = none) :
    ∀ t ∈ beforeEof c.ahead, t.kind.isSyncPoint = false := by
  intro t ht
  have := List.findIdx?_eq_none_iff.1 (Option.map_eq_none_iff.1 h) t ht
  exact (Bool.or_eq_false_iff.1 this).2

theorem isPrefix_restOfLine (c : Cursor) : restOfLine c <+: beforeEof c.ahead := by
  unfold restOfLine beforeEof
  induction c.ahead with
  | nil => simp
  | cons t ts ih =>
    by_cases ht : t.kind = .eof
    · simp [ht]
    · let inInput (t : Token) : Bool := t.kind ≠ .eof
      rw [List.takeWhile_cons_of_pos (p := inInput) (decide_eq_true ht), List.takeWhile_cons]
      split
      · exact List.cons_prefix_cons.2 ⟨rfl, ih⟩
      · exact List.nil_prefix

end Recovery

namespace Scene

variable {scene : Scene} {c : Cursor} {r : Recovery} {context : Context}

theorem syncPoint?_passes (h : scene.syncPoint? c = some r) : ∃ passed, Passes c passed r := by
  obtain ⟨i, hi, rfl⟩ := Option.map_eq_some_iff.1 h
  exact ⟨_, .of_findIdx? (isPrefix_beforeEof_take _ _) hi fun _ ht => ht⟩

theorem insertMissing?_passes (h : scene.insertMissing? c context = some r) : Passes c [] r := by
  obtain ⟨delimiter, hd, rfl⟩ := Option.map_eq_some_iff.1 h
  refine .of_advance_eq_one rfl (fun e he => ?_) (by simp)
  obtain ⟨_, _, rfl⟩ := Option.map_eq_some_iff.1 (Option.mem_def.1 he)
  rfl

theorem deleteToken?_passes (h : scene.deleteToken? c context = some r) : Passes c [] r := by
  unfold deleteToken? at h
  split at h
  · cases h
    refine .of_advance_eq_one rfl (fun e he => ?_) (fun ts hts => ?_)
    · cases he
      rfl
    · cases hts
      rfl
  · cases h

theorem substitute?_passes (h : scene.substitute? c context = some r) : Passes c [] r := by
  obtain ⟨token, _, rfl⟩ := Option.map_eq_some_iff.1 h
  refine .of_advance_eq_one rfl (fun e he => ?_) (by simp)
  cases he
  rfl

theorem skipLine_passes (h : statementBoundary? c = none) :
    Passes c (restOfLine c) (scene.skipLine c context) where
  advance_eq := rfl
  isPrefix := isPrefix_restOfLine c
  not_isSyncPoint t ht :=
    not_isSyncPoint_of_statementBoundary?_eq_none h t ((isPrefix_restOfLine c).subset ht)
  error_token e he := by
    cases he
    rfl
  skipped_eq ts hts := by
    cases hts
    rfl

/-- Which strategy a recovery takes, away from the end of the input. The last
    one is left only if there is no statement boundary ahead. -/
theorem recover_cases (scene : Scene) (context : Context) (h : c.focus.kind ≠ .eof) :
    scene.syncPoint? c = some (scene.recover c context) ∨
    scene.insertMissing? c context = some (scene.recover c context) ∨
    scene.deleteToken? c context = some (scene.recover c context) ∨
    scene.substitute? c context = some (scene.recover c context) ∨
    statementBoundary? c = some (scene.recover c context) ∨
    (statementBoundary? c = none ∧ scene.recover c context = scene.skipLine c context) := by
  rw [recover, if_neg h]
  cases scene.syncPoint? c with
  | some r => exact .inl rfl
  | none =>
    cases scene.insertMissing? c context with
    | some r => exact .inr (.inl rfl)
    | none =>
      cases scene.deleteToken? c context with
      | some r => exact .inr (.inr (.inl rfl))
      | none =>
        cases scene.substitute? c context with
        | some r => exact .inr (.inr (.inr (.inl rfl)))
        | none =>
          cases statementBoundary? c with
          | some r => exact .inr (.inr (.inr (.inr (.inl rfl))))
          | none => exact .inr (.inr (.inr (.inr (.inr ⟨rfl, rfl⟩))))

/-- Every recovery moves on, and over nothing at which parsing could be taken
    up. -/
theorem recover_passes (scene : Scene) (context : Context) (h : c.focus.kind ≠ .eof) :
    ∃ passed, Passes c passed (scene.recover c context) := by
  rcases recover_cases scene context h with hr | hr | hr | hr | hr | ⟨hb, hr⟩
  · exact syncPoint?_passes hr
  · exact ⟨_, insertMissing?_passes hr⟩
  · exact ⟨_, deleteToken?_passes hr⟩
  · exact ⟨_, substitute?_passes hr⟩
  · exact statementBoundary?_passes hr
  · exact ⟨_, hr ▸ skipLine_passes hb⟩

end Scene

/-! ## By indices -/

namespace Recovery

/-- The index of the first end of the input behind the index `i`, or the length of
    the list if there is none. -/
def eofAfter (tokens : List Token) (i : Nat) : Nat :=
  i + 1 + (tokens.drop (i + 1)).findIdx (·.kind = .eof)

/-- What a recovery at the index `i`, which is not at the end, has to be like. -/
structure IsSound (tokens : List Token) (i : Nat) (r : Recovery) : Prop where
  moves_on : i < i + r.advance
  within_input : i + r.advance ≤ eofAfter tokens i
  passes_over : ∀ j, i < j → j < i + r.advance → ∃ t, tokens[j]? = some t ∧ t.kind ≠ .eof ∧
    t.kind.isSyncPoint = false ∧
    t.kind ∉ [Kind.newline, .leftBrace, .rightBrace, .functionKw, .componentKw, .whenKw]
  error_token : ∀ e ∈ r.error, tokens[i]? = some e.token
  skipped_eq : ∀ ts, r.amendment = some (.skipped ts) → ts = tokens.extract i (i + r.advance)

variable {tokens : List Token} {i : Nat}

theorem Passes.isSound {c : Cursor} {passed : List Token} {r : Recovery} (h : Passes c passed r)
    (hc : tokens.drop i = c.focus :: c.ahead) : IsSound tokens i r := by
  have hahead : tokens.drop (i + 1) = c.ahead := by
    rw [← List.tail_drop, hc, List.tail_cons]
  have hpassed : passed <+: c.ahead := h.isPrefix.trans (List.takeWhile_prefix _)
  refine ⟨by rw [h.advance_eq]; omega, ?_, fun j hij hj => ?_, fun e he => ?_, fun ts hts => ?_⟩
  · have hle := h.isPrefix.length_le
    rw [length_beforeEof] at hle
    rw [eofAfter, hahead, h.advance_eq]
    omega
  · have hlt : j - (i + 1) < passed.length := by
      rw [h.advance_eq] at hj
      omega
    -- What has been passed starts at the index `i + 1` of the list.
    have hget : tokens[j]? = some passed[j - (i + 1)] := by
      obtain ⟨rest, hrest⟩ := hpassed
      have happend : (passed ++ rest)[j - (i + 1)]? = some passed[j - (i + 1)] := by
        rw [List.getElem?_append_left hlt, List.getElem?_eq_getElem hlt]
      rw [← happend, hrest, ← hahead, List.getElem?_drop]
      congr 1
      omega
    have hmem := List.getElem_mem hlt
    have hsync := h.not_isSyncPoint _ hmem
    refine ⟨_, hget, kind_ne_eof (h.isPrefix.subset hmem), hsync, fun hlisted => ?_⟩
    rw [Kind.isSyncPoint_iff.2 hlisted] at hsync
    cases hsync
  · rw [h.error_token e he, ← List.head?_drop, hc, List.head?_cons]
  · rw [h.skipped_eq ts hts, List.extract_eq_take_drop, hc, h.advance_eq,
      Nat.add_sub_cancel_left, List.take_succ_cons, ← List.prefix_iff_eq_take.1 hpassed]

theorem isAtEnd_of_length_le (h : tokens.length ≤ i) : isAtEnd tokens i = true := by
  rw [isAtEnd, List.getElem?_eq_none h]

end Recovery

namespace Scene

variable {scene : Scene} {tokens : List Token} {i : Nat} {context : Option Context}

/-- At the end there is nothing to recover from. -/
theorem recoverAt_of_isAtEnd (h : isAtEnd tokens i = true) :
    scene.recoverAt tokens i context = .atEnd := by
  unfold recoverAt
  cases hc : Cursor.at? tokens i with
  | none => rfl
  | some c =>
    have hfocus : tokens[i]? = some c.focus := by
      rw [← List.head?_drop, Cursor.drop_of_at? hc, List.head?_cons]
    rw [isAtEnd, hfocus] at h
    exact if_pos (of_decide_eq_true h)

theorem recoverAt_isSound (scene : Scene) (context : Option Context)
    (h : isAtEnd tokens i = false) : (scene.recoverAt tokens i context).IsSound tokens i := by
  unfold recoverAt
  cases hc : Cursor.at? tokens i with
  | none =>
    rw [isAtEnd_of_length_le (Cursor.at?_eq_none_iff.1 hc)] at h
    cases h
  | some c =>
    have hd := Cursor.drop_of_at? hc
    have hfocus : tokens[i]? = some c.focus := by rw [← List.head?_drop, hd, List.head?_cons]
    rw [isAtEnd, hfocus] at h
    obtain ⟨passed, hp⟩ := recover_passes scene (context.getD (scene.context c .topLevel []))
      (of_decide_eq_false h)
    exact hp.isSound hd

/-! ### One recovery after the other -/

/-- Where one recovery after the other leads from the index `i`, each of them in a
    context of its own. -/
def resume (scene : Scene) (tokens : List Token) (contexts : Nat → Option Context) (i : Nat) :
    Nat → Nat
  | 0 => i
  | k + 1 =>
    let j := resume scene tokens contexts i k
    j + (scene.recoverAt tokens j (contexts k)).advance

/-- As long as the end is not reached, every recovery moves on by one token at
    least. -/
theorem isAtEnd_or_le_resume (scene : Scene) (tokens : List Token)
    (contexts : Nat → Option Context) (i k : Nat) :
    isAtEnd tokens (scene.resume tokens contexts i k) = true ∨
      i + k ≤ scene.resume tokens contexts i k := by
  induction k with
  | zero => exact .inr (Nat.le_refl _)
  | succ k ih =>
    rw [resume]
    cases hend : isAtEnd tokens (scene.resume tokens contexts i k) with
    | true => exact .inl (by rw [recoverAt_of_isAtEnd hend]; exact hend)
    | false =>
      have hk := ih.resolve_left (by rw [hend]; decide)
      have hmoves := (recoverAt_isSound scene (contexts k) hend).moves_on
      exact .inr (by omega)

/-- A trail with enough recoveries to come has its last index at the end. -/
theorem isAtEnd_recoverAll (scene : Scene) (context : Option Context) (bound : Nat)
    (h : tokens.length ≤ i + bound) :
    isAtEnd tokens (scene.recoverAll tokens context bound i).2 = true ∧
      (scene.recoverAll tokens context bound i).1.length ≤ tokens.length - i := by
  induction bound generalizing i with
  | zero => exact ⟨isAtEnd_of_length_le h, Nat.zero_le _⟩
  | succ bound ih =>
    rw [recoverAll]
    cases hend : isAtEnd tokens i with
    | true => exact ⟨hend, Nat.zero_le _⟩
    | false =>
      have hmoves := (recoverAt_isSound scene context hend).moves_on
      have hi : i < tokens.length := Nat.lt_of_not_le fun hle => by
        rw [isAtEnd_of_length_le hle] at hend
        cases hend
      obtain ⟨hlast, hlength⟩ := ih (i := i + (scene.recoverAt tokens i context).advance)
        (by omega)
      refine ⟨hlast, ?_⟩
      simp only [Bool.false_eq_true, if_false, List.length_cons]
      omega

/-- Recovery at the end does nothing. Anywhere else it moves on, at most to the end
    of the input, and passes over no synchronization point; it reports at most one
    error, which is about the token it starts at, and what it says it skipped is
    what it passed over. So recovering again and again comes to the end, in at most
    as many recoveries as tokens are left. -/
theorem recoverAt_contract (scene : Scene) (tokens : List Token) (i : Nat)
    (context : Option Context) (contexts : Nat → Option Context) :
    (isAtEnd tokens i = true →
      i + (scene.recoverAt tokens i context).advance = i ∧
        (scene.recoverAt tokens i context).error = none) ∧
    (isAtEnd tokens i = false → (scene.recoverAt tokens i context).IsSound tokens i) ∧
    (∃ k ≤ tokens.length - i, isAtEnd tokens (scene.resume tokens contexts i k) = true) ∧
    isAtEnd tokens (scene.trail tokens context i).2 = true ∧
    (scene.trail tokens context i).1.length ≤ tokens.length - i := by
  refine ⟨fun h => ?_, recoverAt_isSound scene context, ⟨_, Nat.le_refl _, ?_⟩, ?_⟩
  · rw [recoverAt_of_isAtEnd h]
    exact ⟨rfl, rfl⟩
  · rcases isAtEnd_or_le_resume scene tokens contexts i (tokens.length - i) with h | h
    · exact h
    · exact isAtEnd_of_length_le (by omega)
  · exact isAtEnd_recoverAll scene context tokens.length (by omega)

/-- Two words that mean nothing on a line, and a third one on the next line: with no
    synchronization point to go to, the recovery passes over the line. -/
theorem recoverAt_contract_of_line : ∃ (scene : Scene) (tokens : List Token),
    (scene.recoverAt tokens 0 none).strategy = .skipLine ∧
    isAtEnd tokens 0 = false ∧ (scene.recoverAt tokens 0 none).IsSound tokens 0 ∧
    isAtEnd tokens (scene.trail tokens none 0).2 = true := by
  let scene : Scene := ⟨{ keywords := [] }, none, Settings.limits {}⟩
  let tokens : List Token :=
    [⟨.text, "zzz", ⟨1, 1⟩⟩, ⟨.text, "qqq", ⟨1, 5⟩⟩, ⟨.text, "next", ⟨2, 1⟩⟩]
  have h := recoverAt_contract scene tokens 0 none fun _ => none
  exact ⟨scene, tokens, rfl, rfl, h.2.1 rfl, h.2.2.2.1⟩

end Scene

end SunLint
