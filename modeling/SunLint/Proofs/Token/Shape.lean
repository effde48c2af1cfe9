import Mathlib.Data.List.Infix
import Mathlib.Data.List.TakeWhile
import SunLint.Token.Chunk

/-!
# What the shape of a chunk says

The shape of a chunk is decided from its first characters, before its end is known.
Here it is told from the whole text of the chunk and from what follows it: what a
comment is (`IsComment`), and when a string has its closing quote (`isQuoted`). Neither
is said by reading from left to right.

`fits_measure`: every chunk is what its shape says.
-/

namespace SunLint.Chunk

/-- The text is a comment if `rest` follows: up to the end of the line, up to the first
    mark that closes it, or up to the end of the text if there is no such mark. -/
inductive IsComment : (text rest : List Char) → Prop
  | line {body rest : List Char} (hbody : '\n' ∉ body) (hrest : ∀ c ∈ rest.head?, c = '\n') :
    IsComment ('/' :: '/' :: body) rest
  | block {body rest : List Char} (hbody : ¬ ['*', '/'] <:+: body ++ ['*']) :
    IsComment ('/' :: '*' :: (body ++ ['*', '/'])) rest
  | unclosed {body : List Char} (hbody : ¬ ['*', '/'] <:+: body) :
    IsComment ('/' :: '*' :: body) []

/-- Whether the text ends with the character, and no backslash takes it: there is an
    even number of backslashes right before it. -/
def endsWith (quote : Char) (text : List Char) : Bool :=
  match text.reverse with
  | c :: before => c = quote && (before.takeWhile (· = '\\')).length % 2 = 0
  | [] => false

/-- Whether the string literal has its closing quote. -/
def isQuoted : List Char → Bool
  | quote :: inner => endsWith quote inner
  | [] => false

/-- What the shape of the chunk says about its text, where `rest` is the text that
    follows. -/
def Fits (ch : Chunk) (rest : List Char) : Prop :=
  match ch.shape with
  | .blank => ∃ c, ch.text = [c] ∧ Text.isBlank c ∧ c ≠ '\n'
  | .lineComment | .blockComment true => IsComment ch.text rest
  | .blockComment false => IsComment ch.text rest ∧ rest = []
  | .string closed => isQuoted ch.text = closed
  | .mark kind => kind.isPunctuation
  | .stray => ∃ c, ch.text = [c]
  | .newline | .number | .word | .directive | .operator => True

/-! ## Comments -/

theorem closing_prefix_iff {c : Char} {l : List Char} :
    ['*', '/'] <+: c :: l ↔ c = '*' ∧ l.head? = some '/' := by
  rw [List.cons_prefix_cons, eq_comm]
  cases l <;> simp [List.cons_prefix_cons, eq_comm]

/-- What is measured of a block comment is its rest up to the first closing mark, or all
    of the text if there is none. -/
theorem commentLength_spec (cs : List Char) :
    ((commentLength cs).2 = true → ∃ body, cs.take (commentLength cs).1 = body ++ ['*', '/'] ∧
      ¬ ['*', '/'] <:+: body ++ ['*']) ∧
    ((commentLength cs).2 = false → cs.length ≤ (commentLength cs).1 ∧ ¬ ['*', '/'] <:+: cs) := by
  fun_induction commentLength cs with
  | case1 cs => exact ⟨fun _ => ⟨[], rfl, by decide⟩, nofun⟩
  | case2 c cs hne n closed hn ih =>
    rw [hn] at ih
    -- The first character does not start a closing mark.
    have hmark : ¬ (c = '*' ∧ cs.head? = some '/') := by
      rintro ⟨rfl, hd⟩
      cases cs with
      | nil => cases hd
      | cons d ds => exact hne ds rfl (by rw [Option.some.inj hd])
    constructor
    · intro hclosed
      obtain ⟨body, hbody, hno⟩ := ih.1 hclosed
      refine ⟨c :: body, by rw [List.take_succ_cons, hbody, List.cons_append], fun h => ?_⟩
      rw [List.cons_append, List.infix_cons_iff, closing_prefix_iff] at h
      obtain ⟨hc, hd⟩ | h := h
      · -- The closing mark would start where the body starts, which is where `cs` does.
        have hhead : (cs.take n).head? = some '/' := by
          rw [hbody, ← hd]
          cases body <;> rfl
        rw [List.head?_take] at hhead
        split at hhead
        · cases hhead
        · exact hmark ⟨hc, hhead⟩
      · exact hno h
    · intro hclosed
      obtain ⟨hlength, hno⟩ := ih.2 hclosed
      refine ⟨Nat.succ_le_succ hlength, fun h => ?_⟩
      rw [List.infix_cons_iff, closing_prefix_iff] at h
      exact h.elim hmark hno
  | case3 => exact ⟨nofun, fun _ => ⟨Nat.le_refl _, by decide⟩⟩

/-! ## Strings -/

/-- What stands in front does not matter for the end if it does not end with the quote
    itself and takes nothing of what follows. -/
theorem endsWith_append {quote : Char} (head tail : List Char)
    (hhead : endsWith quote head = false)
    (heven : (head.reverse.takeWhile (· = '\\')).length % 2 = 0) :
    endsWith quote (head ++ tail) = endsWith quote tail := by
  rcases List.eq_nil_or_concat tail with rfl | ⟨before, c, rfl⟩
  · rw [List.append_nil, hhead]
    rfl
  · have hparity : ((before.reverse ++ head.reverse).takeWhile (· = '\\')).length % 2 =
        (before.reverse.takeWhile (· = '\\')).length % 2 := by
      rw [List.takeWhile_append]
      split
      · rename_i hall
        rw [List.length_append, Nat.add_mod, heven, hall, Nat.add_zero, Nat.mod_mod]
      · rfl
    simp only [endsWith, List.reverse_append, List.concat_eq_append, List.reverse_cons,
      List.reverse_nil, List.nil_append, List.cons_append]
    rw [hparity]

/-- A string is measured up to its closing quote, if it has one. -/
theorem endsWith_stringLength {quote : Char} (hquote : quote ≠ '\\') (cs : List Char) :
    endsWith quote (cs.take (stringLength quote cs).1) = (stringLength quote cs).2 := by
  fun_induction stringLength quote cs with
  | case1 => rfl
  | case2 cs => rfl
  | case3 cs hnl => simp [endsWith]
  | case4 => simp [endsWith, hquote.symm]
  | case5 => simp [endsWith, hquote.symm]
  | case6 d ds hd n closed hn hnl hne ih =>
    rw [hn] at ih
    rw [← ih]
    -- A backslash and the character that it takes.
    refine endsWith_append ['\\', d] _ (by simp [endsWith]) ?_
    by_cases h : d = '\\' <;> simp [h]
  | case7 c cs hnl hne hb n closed hn ih =>
    rw [hn] at ih
    rw [← ih]
    refine endsWith_append [c] _ ?_ ?_
    · simpa [endsWith] using hne
    · simp [hb]

/-! ## All chunks -/

/-- A run goes on up to the first character that is none of its own. -/
theorem takeWhile_append_of_stop {p : Char → Bool} {cs ds : List Char}
    (hcs : ∀ c ∈ cs, p c = true) (hds : ∀ c ∈ ds.head?, p c = false) :
    (cs ++ ds).takeWhile p = cs := by
  rw [List.takeWhile_append_of_pos hcs]
  cases ds with
  | nil => simp
  | cons d ds => simp [hds d rfl]

theorem take_spanLength (p : Char → Bool) (cs : List Char) :
    cs.take (spanLength p cs) = cs.takeWhile p :=
  (List.prefix_iff_eq_take.1 (List.takeWhile_prefix p)).symm

theorem drop_spanLength (p : Char → Bool) (cs : List Char) :
    cs.drop (spanLength p cs) = cs.dropWhile p := by
  have h : cs.takeWhile p ++ cs.dropWhile p = cs.takeWhile p ++ cs.drop (spanLength p cs) := by
    rw [List.takeWhile_append_dropWhile, ← take_spanLength, List.take_append_drop]
  exact (List.append_cancel_left h).symm

theorem isComment_of_line (rest : List Char) :
    IsComment ('/' :: ('/' :: rest).take (spanLength (· ≠ '\n') ('/' :: rest)))
      (('/' :: rest).drop (spanLength (· ≠ '\n') ('/' :: rest))) := by
  rw [take_spanLength, drop_spanLength]
  refine .line (fun h => ?_) fun c hc => ?_
  · simpa using List.mem_takeWhile_imp h
  · have := List.head?_dropWhile_not (· ≠ '\n') ('/' :: rest)
    rw [hc] at this
    simpa using this

theorem isComment_of_block (rest : List Char) :
    IsComment ('/' :: ('*' :: rest).take ((commentLength rest).1 + 1))
      (('*' :: rest).drop ((commentLength rest).1 + 1)) ∧
    ((commentLength rest).2 = false → ('*' :: rest).drop ((commentLength rest).1 + 1) = []) := by
  obtain ⟨hclosed, hopen⟩ := commentLength_spec rest
  rw [List.take_succ_cons, List.drop_succ_cons]
  cases hc : (commentLength rest).2 with
  | true =>
    obtain ⟨body, hbody, hno⟩ := hclosed hc
    exact ⟨hbody ▸ .block hno, nofun⟩
  | false =>
    obtain ⟨hlength, hno⟩ := hopen hc
    rw [List.take_of_length_le hlength, List.drop_of_length_le hlength]
    exact ⟨.unclosed hno, fun _ => rfl⟩

theorem isPunctuation_of_markKind? {c : Char} {kind : Kind} (h : markKind? c = some kind) :
    kind.isPunctuation = true := by
  unfold markKind? at h
  split at h <;> cases h <;> rfl

/-- The chunk that is cut off a text is what its shape says. -/
theorem fits_measure (c : Char) (rest : List Char) :
    Fits ⟨(measure c rest).1, c :: rest.take (measure c rest).2⟩
      (rest.drop (measure c rest).2) := by
  rw [measure]
  split
  · rename_i h
    obtain ⟨rfl, hhead⟩ : c = '/' ∧ rest.head? = some '/' := by simpa using h
    obtain ⟨rest, rfl⟩ : ∃ l, rest = '/' :: l := by
      simpa using List.head?_eq_some_iff.1 hhead
    exact isComment_of_line rest
  split
  · rename_i h
    obtain ⟨rfl, hhead⟩ : c = '/' ∧ rest.head? = some '*' := by simpa using h
    obtain ⟨rest, rfl⟩ : ∃ l, rest = '*' :: l := by
      simpa using List.head?_eq_some_iff.1 hhead
    obtain ⟨hcomment, hend⟩ := isComment_of_block rest
    simp only [Fits, List.tail_cons]
    cases hc : (commentLength rest).2 with
    | true => exact hcomment
    | false => exact ⟨hcomment, hend hc⟩
  split
  · trivial
  split
  · rename_i hnl hblank
    exact ⟨c, by simp, hblank, hnl⟩
  split
  · rename_i hquote
    have hne : c ≠ '\\' := by
      rintro rfl
      simp at hquote
    exact endsWith_stringLength hne rest
  split
  · trivial
  split
  · trivial
  split
  · rename_i kind hkind
    exact isPunctuation_of_markKind? hkind
  split
  · trivial
  split
  · trivial
  · exact ⟨c, by simp⟩

end SunLint.Chunk
