import SunLint.Token.Basic

/-!
# Cursors

A place in a list of tokens, seen from the token that stands there: the tokens
behind it, nearest first, and those ahead. A cursor always has a token under it,
so reading can neither start before the list nor run past its end; moving on
from the last token leaves the cursor where it is.

* `tokens_next`: moving does not change the list;
* `index_next`: every move but the one from the last token advances by one.
-/

namespace SunLint

/-- A token list split at one of its tokens. -/
structure Cursor where
  /-- The tokens before the one in focus, nearest first. -/
  behind : List Token
  focus : Token
  ahead : List Token
deriving DecidableEq, Repr

namespace Cursor

/-- The list that the cursor is in. -/
def tokens (c : Cursor) : List Token := c.behind.reverse ++ c.focus :: c.ahead

/-- How many tokens stand before the cursor. -/
def index (c : Cursor) : Nat := c.behind.length

/-- The cursor at the first token, unless there is none. -/
def ofList? : List Token → Option Cursor
  | [] => none
  | t :: ts => some ⟨[], t, ts⟩

/-- The cursor at the token of the given index. -/
def at? (tokens : List Token) (i : Nat) : Option Cursor :=
  match tokens.drop i with
  | [] => none
  | t :: ts => some ⟨(tokens.take i).reverse, t, ts⟩

/-- The cursor at the next token, or at the same one if it is the last. -/
def next (c : Cursor) : Cursor :=
  match c.ahead with
  | [] => c
  | t :: ts => ⟨c.focus :: c.behind, t, ts⟩

/-- The cursor `n` tokens further, or at the last token. -/
def seek (c : Cursor) : Nat → Cursor
  | 0 => c
  | n + 1 => c.next.seek n

/-- The first cursor at or after the given one at which `p` does not hold, or
    the last one. -/
def skipWhile (p : Kind → Bool) (behind : List Token) (focus : Token) : List Token → Cursor
  | [] => ⟨behind, focus, []⟩
  | t :: ts =>
    if p focus.kind then skipWhile p (focus :: behind) t ts else ⟨behind, focus, t :: ts⟩

/-- The cursor behind all tokens of the given kinds that stand here. -/
def skip (c : Cursor) (p : Kind → Bool) : Cursor := skipWhile p c.behind c.focus c.ahead

/-- The tokens at most `n` places away, in their order. -/
def nearby (c : Cursor) (n : Nat) : List Token :=
  (c.behind.take n).reverse ++ c.focus :: c.ahead.take n

@[simp]
theorem tokens_ofList? {l : List Token} {c : Cursor} (h : ofList? l = some c) : c.tokens = l := by
  cases l with
  | nil => simp [ofList?] at h
  | cons t ts =>
    simp only [ofList?, Option.some.injEq] at h
    subst h
    rfl

/-- A cursor made for an index has the rest of the list from there on under it and
    ahead. -/
theorem drop_of_at? {l : List Token} {i : Nat} {c : Cursor} (h : at? l i = some c) :
    l.drop i = c.focus :: c.ahead := by
  unfold at? at h
  split at h
  · cases h
  · rename_i t ts hd
    cases h
    exact hd

/-- There is a cursor for every index within the list. -/
theorem at?_eq_none_iff {l : List Token} {i : Nat} : at? l i = none ↔ l.length ≤ i := by
  unfold at?
  split
  · rename_i hd
    simpa using List.drop_eq_nil_iff.1 hd
  · rename_i t ts hd
    refine iff_of_false (by simp) fun hle => ?_
    rw [List.drop_eq_nil_of_le hle] at hd
    cases hd

@[simp]
theorem tokens_next (c : Cursor) : c.next.tokens = c.tokens := by
  obtain ⟨b, f, a⟩ := c
  cases a <;> simp [next, tokens]

/-- Moving on from a token that is not the last advances by one. -/
theorem index_next {c : Cursor} (h : c.ahead ≠ []) : c.next.index = c.index + 1 := by
  obtain ⟨b, f, a⟩ := c
  cases a with
  | nil => exact absurd rfl h
  | cons t ts => rfl

@[simp]
theorem tokens_seek (c : Cursor) (n : Nat) : (c.seek n).tokens = c.tokens := by
  induction n generalizing c with
  | zero => rfl
  | succ n ih => rw [seek, ih, tokens_next]

@[simp]
theorem tokens_skip (c : Cursor) (p : Kind → Bool) : (c.skip p).tokens = c.tokens := by
  obtain ⟨b, f, a⟩ := c
  unfold skip
  induction a generalizing b f with
  | nil => rfl
  | cons t ts ih =>
    simp only [skipWhile]
    split
    · rw [ih]
      simp [tokens]
    · rfl

end Cursor

end SunLint
