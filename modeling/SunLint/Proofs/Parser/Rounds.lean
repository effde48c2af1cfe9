import SunLint.Proofs.Parser.Proceeds

/-!
# The rounds of the loops

The parsers of lists are loops: each of them does a round and then, unless the
round was the last one, starts again one level deeper (`again`). There are five of
them: the items of a program, the statements of a block, the arguments of a
directive, the parameters of a declaration and the expressions of a list. The last
two do the same rounds.

A round is given with any parser for what the loop collects. Whatever that parser
is, as long as it does not go back itself, a round that is not the last one moves
the cursor on (`Advances`): it passes a comma, or it makes up for a statement of
which nothing was read, or it gives up.
-/

namespace SunLint.Parser

variable {α : Type}

/-- The loop that does a round and goes on with `rest`, if the round says so. -/
def again (round : Parser (List α × Bool)) (rest : Parser (List α)) : Parser (List α) := do
  let (found, more) ← round
  if more then return found ++ (← rest) else return found

/-- The parser with a recovery if it fails. At least one token is passed. -/
def guarded (p : Parser α) (fallback : α) : Parser α := do
  let start := (← cursor).index
  let a ← orRecover p fallback
  ensureProgress start
  return a

/-- A round over the items of a program. -/
def itemRound (p : Parser Item) : Parser (List Item × Bool) := do
  skipSeparators
  if (← halted) || (← currentKind) = .eof then return ([], false)
  else
    let found ← guarded (some <$> p) none
    return (found.toList, true)

/-- A round over the statements of the block opened on the given line. -/
def blockRound (p : Parser Statement) (opened : Nat) : Parser (List Statement × Bool) := do
  skipSeparators
  if ← halted then return ([], false)
  else
    let token ← current
    match token.kind with
    | .rightBrace => do
      advance
      return ([], false)
    | .eof => do
      report (← coded .missingCloseBrace .error
        s!"Missing '\x7d' to close the block opened on line {opened}" [.rightBrace])
      return ([], false)
    | _ => do
      let found ← guarded p (.error token.position.line)
      return ([found], true)

/-- A round over the arguments of a directive. -/
def argRound (p : Parser Expr) : Parser (List Expr × Bool) := do
  if (← currentKind).endsStatement then return ([], false)
  else
    let start := (← cursor).index
    let e ← p
    if (← cursor).index = start then unexpected []
    let _ ← eat .comma
    return ([e], true)

/-- A round over what stands between commas before a closing token. -/
def listRound (p : Parser α) (close : Kind) : Parser (List α × Bool) := do
  skipNewlines
  if ← eat close then return ([], false)
  else
    let a ← p
    skipNewlines
    if ← eat .comma then return ([a], true)
    else
      let _ ← expect close
      return ([a], false)

/-! ## The loops are made of these rounds -/

theorem items_succ (n : Nat) : items (n + 1) = again (itemRound (item n)) (items n) := by
  rw [items]
  simp only [again, itemRound, guarded, bind_assoc, pure_bind]
  refine bind_congr fun _ => bind_congr fun _ => bind_congr fun _ => ?_
  split
  · rfl
  · simp only [bind_assoc, pure_bind, if_true]

theorem blockBody_succ (n opened : Nat) :
    blockBody (n + 1) opened = again (blockRound (statement n) opened) (blockBody n opened) := by
  rw [blockBody]
  simp only [again, blockRound, guarded, bind_assoc, pure_bind]
  refine bind_congr fun _ => bind_congr fun _ => ?_
  split
  · rfl
  · simp only [bind_assoc]
    refine bind_congr fun token => ?_
    generalize token.kind = kind
    split
    · rfl
    · rfl
    · simp only [bind_assoc, pure_bind, if_true, List.singleton_append]

theorem directiveArgs_succ (n : Nat) :
    directiveArgs (n + 1) = again (argRound (expression n)) (directiveArgs n) := by
  rw [directiveArgs]
  simp only [again, argRound, bind_assoc]
  refine bind_congr fun _ => ?_
  split
  · rfl
  · simp only [bind_assoc]
    refine bind_congr fun _ => bind_congr fun _ => bind_congr fun _ => ?_
    split <;>
      simp only [bind_assoc, pure_bind, if_true, List.singleton_append]

theorem again_listRound (p : Parser α) (close : Kind) (rest : Parser (List α)) :
    again (listRound p close) rest = do
      skipNewlines
      if ← eat close then return []
      else do
        let a ← p
        skipNewlines
        if ← eat .comma then do
          let l ← rest
          return a :: l
        else do
          let _ ← expect close
          return [a] := by
  simp only [again, listRound, bind_assoc]
  refine bind_congr fun _ => bind_congr fun _ => ?_
  split
  · rfl
  · simp only [bind_assoc]
    refine bind_congr fun _ => bind_congr fun _ => bind_congr fun _ => ?_
    split
    · simp only [pure_bind, if_true, List.singleton_append]
    · simp only [bind_assoc, pure_bind, Bool.false_eq_true, if_false]

theorem paramList_succ (n : Nat) :
    paramList (n + 1) = again (listRound expectName .rightParen) (paramList n) := by
  rw [paramList, again_listRound]

theorem sequence_succ (n : Nat) (close : Kind) :
    sequence (n + 1) close = again (listRound (binary n 0) close) (sequence n close) := by
  rw [sequence, again_listRound]

/-- A loop ends with a round that is the last one, or with the rounds behind it. -/
theorem done_of_again {round : Parser (List α × Bool)} {rest : Parser (List α)} {l : List α}
    {env : Env} {s s' : State}
    (h : again round rest env s = .done l s') :
    round env s = .done (l, false) s' ∨
      ∃ found s₁ l', round env s = .done (found, true) s₁ ∧ rest env s₁ = .done l' s' ∧
        l = found ++ l' := by
  rw [again, bind_apply] at h
  cases hround : round env s with
  | done x s₁ =>
    obtain ⟨found, more⟩ := x
    rw [hround] at h
    cases more with
    | false =>
      cases h
      exact .inl rfl
    | true =>
      simp only [if_true, bind_apply] at h
      cases hrest : rest env s₁ with
      | done l' s₂ =>
        rw [hrest] at h
        cases h
        exact .inr ⟨found, s₁, l', rfl, hrest, rfl⟩
      | failed e s₂ =>
        rw [hrest] at h
        cases h
      | exhausted =>
        rw [hrest] at h
        cases h
  | failed e s₁ =>
    rw [hround] at h
    cases h
  | exhausted =>
    rw [hround] at h
    cases h

/-! ## Progress -/

/-- The round does not go back, and it moves on if it is not the last one. The
    depth does not run out if there is `enough` of it. -/
def Advances (round : Parser (List α × Bool)) (enough : Cursor → Prop) : Prop :=
  ∀ env s, (round env s).From s.cursor (enough s.cursor) fun x s' =>
    x.2 = true → s.cursor.IsTerminated → s.cursor < s'.cursor

section

variable {rank n : Nat} {env : Env}

/-- A parser moves on by one token at least if it is guarded. -/
theorem Proceeds.guarded {p : Parser α} {needed : Cursor → Prop} (hp : Proceeds p needed)
    (fallback : α) (env : Env) (s : State) :
    (guarded p fallback env s).From s.cursor (needed s.cursor) fun _ s' =>
      s.cursor.focus.kind ≠ .eof → s.cursor.IsTerminated → s.cursor < s'.cursor := by
  simp only [Parser.guarded, cursor_bind]
  refine (hp.orRecover fallback).bind (le_refl _) id fun a s' hle => ?_
  rw [ensureProgress_bind]
  split
  · -- The parser has read nothing, so it is still at the token that it was called at.
    rename_i h
    have heq : s.cursor = s'.cursor := Cursor.eq_of_index_eq hle.1 h.1.symm
    refine ⟨hle.trans s'.cursor.le_next, fun hk ht => ?_⟩
    rw [heq] at hk ht ⊢
    exact ht.lt_next hk
  · rename_i h
    refine ⟨hle, fun hk _ => Cursor.lt_def.2 ⟨hle.1, Nat.lt_of_le_of_ne hle.2 fun hi => ?_⟩⟩
    rw [Cursor.eq_of_index_eq hle.1 hi] at hk
    exact h ⟨hi.symm, hk⟩

theorem itemRound_advances {p : Parser Item} (hp : Proceeds p (Enough rank n)) :
    Advances (itemRound p) (Enough rank n) := by
  intro env s
  refine .skip fun d hd => ?_
  simp only [halted_bind, currentKind_bind]
  split
  · exact ⟨hd, by simp⟩
  · rename_i h
    have hk : d.focus.kind ≠ .eof := fun heof => h (by simp [heof])
    refine .bind (((hp.map some).guarded none env (s.moveTo d)).mono hd ?_ fun _ _ _ h => h) ?_
    · exact fun h => h.of_le hd (Nat.le_refl _)
    · exact fun found s' hle hlt => ⟨hle, fun _ ht => hd.trans_lt (hlt hk (ht.of_le hd))⟩

theorem blockRound_advances {p : Parser Statement} (hp : Proceeds p (Enough rank n))
    (opened : Nat) : Advances (blockRound p opened) (Enough rank n) := by
  intro env s
  refine .skip fun d hd => ?_
  simp only [halted_bind]
  split
  · exact ⟨hd, by simp⟩
  · simp only [current_bind, State.cursor_moveTo]
    generalize hkind : d.focus.kind = kind
    split
    · exact ⟨hd.trans d.le_next, by simp⟩
    · simp only [coded_bind, report_bind]
      exact ⟨by simpa using hd, by simp⟩
    · rename_i heof
      have hk : d.focus.kind ≠ .eof := fun h => heof (hkind.symm.trans h)
      refine .bind ((hp.guarded _ env (s.moveTo d)).mono hd ?_ fun _ _ _ h => h) ?_
      · exact fun h => h.of_le hd (Nat.le_refl _)
      · exact fun found s' hle hlt => ⟨hle, fun _ ht => hd.trans_lt (hlt hk (ht.of_le hd))⟩

theorem argRound_advances {p : Parser Expr} (hp : Proceeds p (Enough rank n)) :
    Advances (argRound p) (Enough rank n) := by
  intro env s
  simp only [argRound, currentKind_bind]
  split
  · exact ⟨le_refl _, by simp⟩
  · simp only [cursor_bind]
    refine hp.bind (le_refl _) id fun e s' hle => ?_
    simp only [cursor_bind]
    split
    · exact hle
    · rename_i hi
      have hlt : s.cursor < s'.cursor :=
        Cursor.lt_def.2 ⟨hle.1, Nat.lt_of_le_of_ne hle.2 (Ne.symm hi)⟩
      simp only [eat_bind]
      split
      · exact ⟨hle.trans s'.cursor.le_next, fun _ _ => hlt.trans_le s'.cursor.le_next⟩
      · exact ⟨hle, fun _ _ => hlt⟩

theorem listRound_advances {p : Parser α} (hp : Proceeds p (Enough rank n)) (close : Kind) :
    Advances (listRound p close) (Enough rank n) := by
  intro env s
  refine .skip fun d hd => ?_
  rw [eat_bind]
  split
  · exact ⟨hd.trans d.le_next, by simp⟩
  · refine hp.bind hd (fun h => h.of_le hd (Nat.le_refl _)) fun a s' hle => ?_
    refine .skip fun d' hd' => ?_
    have hle' : s.cursor ≤ d' := hd.trans (hle.trans hd')
    rw [eat_bind]
    split
    · rename_i hk
      refine ⟨hle'.trans d'.le_next, fun _ ht => hle'.trans_lt ?_⟩
      exact (ht.of_le hle').lt_next (by rw [show d'.focus.kind = .comma from hk]; decide)
    · simp only [Bool.false_eq_true, if_false, expect_bind]
      split
      · exact ⟨hle'.trans d'.le_next, by simp⟩
      · exact hle'

/-- A loop whose rounds advance needs as much depth as its rounds do. -/
theorem Advances.proceeds_again {round : Parser (List α × Bool)} {rest : Parser (List α)} {r : Nat}
    (hround : Advances round (Enough r n)) (hrest : Proceeds rest (Enough rank n))
    (hr : r < rank) : Proceeds (again round rest) (Enough rank (n + 1)) := by
  intro env s
  refine .bind ((hround env s).mono (le_refl _) (fun h => h.call (le_refl _) hr)
    fun _ _ _ h => h) ?_
  rintro ⟨found, more⟩ s' hle hlt
  cases more with
  | false => exact ⟨hle, trivial⟩
  | true =>
    -- The round has moved on, which makes up for the level that the rest is deeper.
    refine hrest.bind hle (fun h => ?_) fun l s'' hle' => ⟨hle.trans hle', trivial⟩
    exact h.call_of_lt (hlt rfl h.terminated) (by omega)

end

end SunLint.Parser
