import Mathlib.Order.Bounds.Basic
import Mathlib.Order.MinMax
import SunLint.EditDistance

/-!
# Edit scripts

An edit inserts, deletes or replaces one character of a text (`Edits`), and a script is a
sequence of edits (`Script`). The edits of a script may be anywhere, and may undo each other.
Still the least length of a script follows a recursion on both texts (`levenshtein`): there is
a script as short as this (`script_levenshtein`), and no edit brings a text nearer to another
one by more than one (`levenshtein_le_of_edits`).

A row of the table holds the distances of one text to all beginnings of another one
(`distances`). The recursion looks at the first characters and the table at the last ones, so
the beginnings of both texts are written from their ends.

* `nextRow_distances`: the step from row to row is the recursion;
* `editDistance_eq`: what is computed is the distance of the reversed words;
* `editDistance_isLeast`: the edit distance is the least length of a script from the one word
  to the other. So it is zero for equal words only, symmetric, and satisfies the triangle
  inequality.
-/

namespace SunLint

variable {a b c : List Char} {n m : Nat}

/-- The second text is the first one with a character inserted, deleted or put in the place of
    another one. -/
inductive Edits : List Char → List Char → Prop
  | insert (before : List Char) (x : Char) (behind : List Char) :
      Edits (before ++ behind) (before ++ x :: behind)
  | delete (before : List Char) (x : Char) (behind : List Char) :
      Edits (before ++ x :: behind) (before ++ behind)
  | substitute (before : List Char) (x y : Char) (behind : List Char) :
      Edits (before ++ x :: behind) (before ++ y :: behind)

/-- So many edits, one after the other, turn the first text into the second one. -/
inductive Script : List Char → List Char → Nat → Prop
  | nil (a : List Char) : Script a a 0
  | cons {a b c : List Char} {n : Nat} (h : Edits a b) (hs : Script b c n) : Script a c (n + 1)

namespace Edits

theorem symm (h : Edits a b) : Edits b a := by
  cases h with
  | insert before x behind => exact .delete before x behind
  | delete before x behind => exact .insert before x behind
  | substitute before x y behind => exact .substitute before y x behind

/-- The edit is made further behind. -/
theorem behind (x : Char) (h : Edits a b) : Edits (x :: a) (x :: b) := by
  cases h with
  | insert before y behind => exact .insert (x :: before) y behind
  | delete before y behind => exact .delete (x :: before) y behind
  | substitute before y z behind => exact .substitute (x :: before) y z behind

theorem reverse (h : Edits a b) : Edits a.reverse b.reverse := by
  cases h with
  | insert before x behind => simpa using Edits.insert behind.reverse x before.reverse
  | delete before x behind => simpa using Edits.delete behind.reverse x before.reverse
  | substitute before x y behind =>
    simpa using Edits.substitute behind.reverse x y before.reverse

end Edits

namespace Script

theorem trans (h : Script a b n) (h' : Script b c m) : Script a c (n + m) := by
  induction h with
  | nil a => rwa [Nat.zero_add]
  | cons hedit _ ih =>
    rw [Nat.add_right_comm]
    exact .cons hedit (ih h')

theorem symm (h : Script a b n) : Script b a n := by
  induction h with
  | nil a => exact .nil a
  | cons hedit _ ih => exact ih.trans (.cons hedit.symm (.nil _))

theorem behind (x : Char) (h : Script a b n) : Script (x :: a) (x :: b) n := by
  induction h with
  | nil a => exact .nil _
  | cons hedit _ ih => exact .cons (hedit.behind x) ih

theorem reverse (h : Script a b n) : Script a.reverse b.reverse n := by
  induction h with
  | nil a => exact .nil _
  | cons hedit _ ih => exact .cons hedit.reverse ih

theorem reverse_iff : Script a.reverse b.reverse n ↔ Script a b n :=
  ⟨fun h => by simpa using h.reverse, reverse⟩

theorem eq_of_zero (h : Script a b 0) : a = b := by
  cases h
  rfl

end Script

/-! ## The recursion -/

/-- The distance of two texts: the first characters are equal and kept or one of them is put in
    the place of the other one, or the first character of one text is not in the other. -/
def levenshtein : List Char → List Char → Nat
  | [], ys => ys.length
  | x :: xs, [] => (x :: xs).length
  | x :: xs, y :: ys =>
    min (min (levenshtein xs (y :: ys) + 1) (levenshtein (x :: xs) ys + 1))
      (levenshtein xs ys + if x = y then 0 else 1)

theorem levenshtein_nil (xs : List Char) : levenshtein xs [] = xs.length := by
  cases xs <;> rw [levenshtein]

theorem nil_levenshtein (ys : List Char) : levenshtein [] ys = ys.length := by
  rw [levenshtein]

theorem levenshtein_self (xs : List Char) : levenshtein xs xs = 0 := by
  induction xs with
  | nil => exact nil_levenshtein []
  | cons x xs ih => simp [levenshtein, ih]

/-- There is a script of that length. -/
theorem script_levenshtein (a b : List Char) : Script a b (levenshtein a b) := by
  fun_induction levenshtein a b with
  | case1 ys =>
    induction ys with
    | nil => exact .nil _
    | cons y ys ih => exact ih.trans (.cons (.insert [] y ys) (.nil _))
  | case2 x xs =>
    induction xs generalizing x with
    | nil => exact .cons (.delete [] x []) (.nil _)
    | cons x' xs ih => exact .cons (.delete [] x (x' :: xs)) (ih x')
  | case3 x xs y ys ih ih' ih'' =>
    have hdelete := Script.cons (.delete [] x xs) ih
    have hinsert := ih'.trans (.cons (.insert [] y ys) (.nil _))
    have hkeep : Script (x :: xs) (y :: ys) (levenshtein xs ys + if x = y then 0 else 1) := by
      split
      · rename_i hxy
        exact hxy ▸ ih''.behind x
      · exact .cons (.substitute [] x y xs) (ih''.behind y)
    rcases min_choice (min (levenshtein xs (y :: ys) + 1) (levenshtein (x :: xs) ys + 1))
      (levenshtein xs ys + if x = y then 0 else 1) with hmin | hmin
    · rw [hmin]
      rcases min_choice (levenshtein xs (y :: ys) + 1) (levenshtein (x :: xs) ys + 1) with h | h
      · rwa [h]
      · rwa [h]
    · rwa [hmin]

/-! ## The lower bound -/

theorem levenshtein_cons_le (x : Char) (xs ys : List Char) :
    levenshtein (x :: xs) ys ≤ levenshtein xs ys + 1 := by
  cases ys with
  | nil => simp [levenshtein_nil]
  | cons y ys =>
    rw [levenshtein]
    omega

theorem le_levenshtein_cons (x : Char) (xs ys : List Char) :
    levenshtein xs ys ≤ levenshtein (x :: xs) ys + 1 := by
  induction ys with
  | nil =>
    simp only [levenshtein_nil, List.length_cons]
    omega
  | cons y ys ih =>
    have hy : levenshtein xs (y :: ys) ≤ levenshtein xs ys + 1 := by
      cases xs with
      | nil => simp [nil_levenshtein]
      | cons x' xs =>
        rw [levenshtein]
        omega
    rw [levenshtein]
    omega

theorem levenshtein_cons_le_cons (x x' : Char) (xs ys : List Char) :
    levenshtein (x :: xs) ys ≤ levenshtein (x' :: xs) ys + 1 := by
  induction ys with
  | nil => simp [levenshtein_nil]
  | cons y ys ih =>
    rw [levenshtein, levenshtein]
    split <;> split <;> omega

/-- What is nearer by one at most is so behind the same characters. -/
theorem levenshtein_append_le (h : ∀ ys, levenshtein a ys ≤ levenshtein b ys + 1)
    (before ys : List Char) :
    levenshtein (before ++ a) ys ≤ levenshtein (before ++ b) ys + 1 := by
  induction before generalizing ys with
  | nil => exact h ys
  | cons x before ih =>
    induction ys with
    | nil => simpa [levenshtein_nil] using ih []
    | cons y ys ih' =>
      have := ih (y :: ys)
      have := ih ys
      simp only [List.cons_append, levenshtein] at ih' ⊢
      omega

/-- No edit brings a text nearer to another one by more than one. -/
theorem levenshtein_le_of_edits (h : Edits a b) (c : List Char) :
    levenshtein a c ≤ levenshtein b c + 1 := by
  cases h with
  | insert before x behind => exact levenshtein_append_le (le_levenshtein_cons x behind) before c
  | delete before x behind => exact levenshtein_append_le (levenshtein_cons_le x behind) before c
  | substitute before x y behind =>
    exact levenshtein_append_le (levenshtein_cons_le_cons x y behind) before c

/-- No script is shorter. -/
theorem Script.levenshtein_le (h : Script a b n) : levenshtein a b ≤ n := by
  induction h with
  | nil a => exact (levenshtein_self a).le
  | @cons a b c n hedit _ ih =>
    have := levenshtein_le_of_edits hedit c
    omega

theorem levenshtein_isLeast (a b : List Char) : IsLeast {n | Script a b n} (levenshtein a b) :=
  ⟨script_levenshtein a b, fun _ h => Script.levenshtein_le h⟩

/-! ## The table -/

/-- The distances of `xs` to `seen` and to all that is got by taking further characters in front
    of it from the second text. -/
def distances (xs seen : List Char) : List Char → List Nat
  | [] => [levenshtein xs seen]
  | y :: ys => levenshtein xs seen :: distances xs (y :: seen) ys

theorem distances_eq_cons (xs seen ys : List Char) :
    ∃ rest, distances xs seen ys = levenshtein xs seen :: rest := by
  cases ys <;> exact ⟨_, rfl⟩

theorem range_eq_distances (seen ys : List Char) :
    List.range' seen.length (ys.length + 1) = distances [] seen ys := by
  induction ys generalizing seen with
  | nil => simp [distances, nil_levenshtein]
  | cons y ys ih =>
    rw [List.length_cons, List.range'_succ, distances, ← ih, nil_levenshtein, List.length_cons]

theorem fillRow_distances (x : Char) (xs seen ys : List Char) :
    levenshtein (x :: xs) seen ::
        fillRow x (levenshtein (x :: xs) seen) ys (distances xs seen ys) =
      distances (x :: xs) seen ys := by
  induction ys generalizing seen with
  | nil => rfl
  | cons y ys ih =>
    obtain ⟨rest, hrest⟩ := distances_eq_cons xs (y :: seen) ys
    have hentry : min (min (levenshtein xs (y :: seen) + 1) (levenshtein (x :: xs) seen + 1))
        (levenshtein xs seen + if x = y then 0 else 1) = levenshtein (x :: xs) (y :: seen) := by
      rw [levenshtein]
    rw [distances, distances, hrest, fillRow, hentry, ← hrest, ih]

/-- From the distances of one text those of the text with another character are made. -/
theorem nextRow_distances (x : Char) (xs ys : List Char) :
    nextRow ys (distances xs [] ys) x = distances (x :: xs) [] ys := by
  obtain ⟨rest, hrest⟩ := distances_eq_cons xs [] ys
  have hfirst : levenshtein xs [] + 1 = levenshtein (x :: xs) [] := by
    rw [levenshtein_nil, levenshtein_nil, List.length_cons]
  rw [hrest]
  dsimp only [nextRow]
  rw [hfirst, ← hrest, fillRow_distances]

theorem foldl_nextRow (xs seen ys : List Char) :
    xs.foldl (nextRow ys) (distances seen [] ys) = distances (xs.reverse ++ seen) [] ys := by
  induction xs generalizing seen with
  | nil => rfl
  | cons x xs ih => simp [nextRow_distances, ih]

theorem getLast?_distances (xs seen ys : List Char) :
    (distances xs seen ys).getLast? = some (levenshtein xs (ys.reverse ++ seen)) := by
  induction ys generalizing seen with
  | nil => rfl
  | cons y ys ih =>
    obtain ⟨rest, hrest⟩ := distances_eq_cons xs (y :: seen) ys
    rw [distances, hrest, List.getLast?_cons_cons, ← hrest, ih]
    simp

theorem editDistance_eq (a b : String) :
    editDistance a b = levenshtein a.toList.reverse b.toList.reverse := by
  have hfirst : List.range (b.toList.length + 1) = distances [] [] b.toList := by
    rw [List.range_eq_range', ← range_eq_distances [] b.toList, List.length_nil]
  simp only [editDistance, hfirst, foldl_nextRow, getLast?_distances, List.append_nil,
    Option.getD_some]

/-! ## The distance of words -/

/-- There is a script of this length between the words, and none is shorter. -/
theorem isLeast_editDistance (a b : String) :
    IsLeast {n | Script a.toList b.toList n} (editDistance a b) := by
  have h := levenshtein_isLeast a.toList.reverse b.toList.reverse
  simpa only [Script.reverse_iff, ← editDistance_eq] using h

theorem editDistance_eq_zero_iff {a b : String} : editDistance a b = 0 ↔ a = b := by
  constructor
  · intro h
    have hscript := (isLeast_editDistance a b).1
    rw [h] at hscript
    exact String.ext hscript.eq_of_zero
  · rintro rfl
    rw [editDistance_eq, levenshtein_self]

/-- The edit distance is the least number of edits that turn the one word into the other. -/
theorem editDistance_isLeast :
    (∀ a b : String, IsLeast {n | Script a.toList b.toList n} (editDistance a b)) ∧
    (∀ a b : String, editDistance a b = 0 ↔ a = b) ∧
    (∀ a b : String, editDistance a b = editDistance b a) ∧
    ∀ a b c : String, editDistance a c ≤ editDistance a b + editDistance b c := by
  refine ⟨isLeast_editDistance, fun _ _ => editDistance_eq_zero_iff, fun a b => ?_,
    fun a b c => ?_⟩
  · have hle (a b : String) : editDistance a b ≤ editDistance b a :=
      (isLeast_editDistance a b).2 (isLeast_editDistance b a).1.symm
    exact Nat.le_antisymm (hle a b) (hle b a)
  · exact (isLeast_editDistance a c).2
      ((isLeast_editDistance a b).1.trans (isLeast_editDistance b c).1)

end SunLint
