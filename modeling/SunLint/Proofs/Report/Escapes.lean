import Mathlib.Data.List.Infix
import SunLint.Proofs.Token.Shape
import SunLint.Report.Styled

/-!
# Escape sequences deleted

A terminal is told to change its style by an escape sequence: the escape character, an opening
bracket, digits and an `m`. Deleting all of them from left to right (`Text.withoutEscapes`) says
nothing of how the text was made; where the escape character occurs in no span of a styled text,
what is left is the text without the styles.

* `Text.withoutEscapes_append`: a text without the escape character is kept as it is;
* `Span.withoutEscapes_ansiText`: the styles are deleted, and nothing else is.
-/

namespace SunLint

namespace Text

/-- The length of the escape sequence that the text starts with, which is zero if there is none. -/
def escapeLength : List Char → Nat
  | '\x1b' :: '[' :: rest =>
    if (rest.dropWhile Char.isDigit).head? = some 'm' then
      (rest.takeWhile Char.isDigit).length + 3
    else 0
  | _ => 0

/-- The text behind its first `skip` characters, which belong to an escape sequence, without any
    escape sequence. -/
def withoutEscapesFrom : (skip : Nat) → List Char → List Char
  | _, [] => []
  | skip + 1, _ :: cs => withoutEscapesFrom skip cs
  | 0, c :: cs =>
    match escapeLength (c :: cs) with
    | 0 => c :: withoutEscapesFrom 0 cs
    | length + 1 => withoutEscapesFrom length cs

/-- The text without its escape sequences. -/
def withoutEscapes (cs : List Char) : List Char := withoutEscapesFrom 0 cs

/-- Skipping is dropping. -/
theorem withoutEscapesFrom_eq (skip : Nat) (cs : List Char) :
    withoutEscapesFrom skip cs = withoutEscapes (cs.drop skip) := by
  induction cs generalizing skip with
  | nil => simp [withoutEscapes, withoutEscapesFrom]
  | cons c cs ih =>
    cases skip with
    | zero => rfl
    | succ skip => rw [withoutEscapesFrom, ih, List.drop_succ_cons]

theorem withoutEscapes_drop {cs : List Char} (h : escapeLength cs ≠ 0) :
    withoutEscapes cs = withoutEscapes (cs.drop (escapeLength cs)) := by
  cases cs with
  | nil => exact absurd rfl h
  | cons c cs =>
    obtain ⟨length, hlength⟩ := Nat.exists_eq_succ_of_ne_zero h
    rw [withoutEscapes, withoutEscapesFrom, hlength]
    exact withoutEscapesFrom_eq length cs

theorem withoutEscapes_cons {c : Char} (hc : c ≠ '\x1b') (cs : List Char) :
    withoutEscapes (c :: cs) = c :: withoutEscapes cs := by
  have hlength : escapeLength (c :: cs) = 0 := by
    rw [escapeLength]
    exact fun rest heq => absurd (List.cons_eq_cons.1 heq).1 hc
  rw [withoutEscapes, withoutEscapesFrom, hlength]
  rfl

/-- What stands in front of the first escape character is kept. -/
theorem withoutEscapes_append {cs : List Char} (h : '\x1b' ∉ cs) (ds : List Char) :
    withoutEscapes (cs ++ ds) = cs ++ withoutEscapes ds := by
  induction cs with
  | nil => rfl
  | cons c cs ih =>
    rw [List.mem_cons, not_or] at h
    rw [List.cons_append, withoutEscapes_cons (Ne.symm h.1), ih h.2, List.cons_append]

/-! ## Escape sequences -/

/-- A number is written in digits. -/
theorem isDigit_of_mem_toString {n : Nat} {c : Char} (h : c ∈ (toString n).toList) :
    c.isDigit = true := by
  rw [Nat.toString_eq_repr, Nat.toList_repr] at h
  exact Nat.isDigit_of_mem_toDigits (by decide) (by decide) h

theorem takeWhile_toString_append {c : Char} (hc : c.isDigit = false) (n : Nat) (cs : List Char) :
    ((toString n).toList ++ c :: cs).takeWhile Char.isDigit = (toString n).toList :=
  Chunk.takeWhile_append_of_stop (fun _ => isDigit_of_mem_toString) (by simp [hc])

theorem dropWhile_toString_append {c : Char} (hc : c.isDigit = false) (n : Nat) (cs : List Char) :
    ((toString n).toList ++ c :: cs).dropWhile Char.isDigit = c :: cs := by
  rw [List.dropWhile_append_of_pos fun _ => isDigit_of_mem_toString]
  exact List.dropWhile_cons_of_neg (by simp [hc])

theorem escapeLength_escapeSequence (number : Nat) (cs : List Char) :
    escapeLength ((escapeSequence number).toList ++ cs) =
      (escapeSequence number).toList.length := by
  have htext : (escapeSequence number).toList ++ cs =
      '\x1b' :: '[' :: ((toString number).toList ++ 'm' :: cs) := by simp [escapeSequence]
  rw [htext, escapeLength, dropWhile_toString_append (by decide),
    takeWhile_toString_append (by decide), List.head?_cons, if_pos rfl]
  simp [escapeSequence]

/-- An escape sequence is deleted. -/
theorem withoutEscapes_escapeSequence (number : Nat) (cs : List Char) :
    withoutEscapes ((escapeSequence number).toList ++ cs) = withoutEscapes cs := by
  have hlength := escapeLength_escapeSequence number cs
  rw [withoutEscapes_drop (by rw [hlength]; simp [escapeSequence]), hlength, List.drop_left]

end Text

/-! ## Styles -/

namespace Span

open Text

theorem toList_plainText_cons (span : Span) (spans : List Span) :
    (plainText (span :: spans)).toList = span.text.toList ++ (plainText spans).toList := by
  simp [plainText, String.toList_join]

theorem toList_ansiText_cons (span : Span) (spans : List Span) :
    (ansiText (span :: spans)).toList = span.ansi.toList ++ (ansiText spans).toList := by
  simp [ansiText, String.toList_join]

/-- Of a span with a style its text is left. -/
theorem withoutEscapes_ansi {span : Span} (h : '\x1b' ∉ span.text.toList) (cs : List Char) :
    withoutEscapes (span.ansi.toList ++ cs) = span.text.toList ++ withoutEscapes cs := by
  rw [ansi]
  split
  · exact withoutEscapes_append h cs
  · rw [String.toList_append, String.toList_append, List.append_assoc, List.append_assoc,
      withoutEscapes_escapeSequence, withoutEscapes_append h, withoutEscapes_escapeSequence]

/-- The styles are deleted, and nothing else is. -/
theorem withoutEscapes_ansiText {spans : List Span}
    (h : ∀ span ∈ spans, '\x1b' ∉ span.text.toList) :
    withoutEscapes (ansiText spans).toList = (plainText spans).toList := by
  induction spans with
  | nil => rfl
  | cons span spans ih =>
    rw [List.forall_mem_cons] at h
    rw [toList_ansiText_cons, withoutEscapes_ansi h.1, ih h.2, toList_plainText_cons]

end Span

end SunLint
