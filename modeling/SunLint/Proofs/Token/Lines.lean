import SunLint.Proofs.Token.Account
import SunLint.Proofs.Tree.Down

/-!
# Texts that start on a line of their own

Of all chunks only a block comment without an end can go on beyond the line it ends on. So
where a text is continued on a new line, its chunks stay as they are, and those of the
continuation are the ones that it has on its own, so many lines further down.

* `measure_append`: what is measured in front of a line end does not depend on what follows;
* `tokenize_append`: the tokens of the first text, the line end, and the tokens of the second
  text, and likewise the errors;
* `tokenize_newline`: the same if there are errors in the first text, but no open comment.
-/

namespace SunLint

/-! ## Blanks -/

namespace Text

/-- The blank characters one by one. -/
def blanks : List Char :=
  blankRanges.flatMap fun r => (List.range' r.1 (r.2 + 1 - r.1)).map Char.ofNat

theorem mem_blanks {x : Char} (h : isBlank x = true) : x ∈ blanks := by
  obtain ⟨r, hr, hlo, hhi⟩ := Ranges.exists_of_contains h
  refine List.mem_flatMap.2 ⟨r, hr, List.mem_map.2 ⟨x.toNat, ?_, Char.ofNat_toNat x⟩⟩
  rw [List.mem_range'_1]
  omega

/-- What holds of no blank character can be decided for each of them. -/
theorem eq_false_of_isBlank {p : Char → Bool} {x : Char} (h : isBlank x = true)
    (hp : blanks.any p = false) : p x = false :=
  Bool.eq_false_iff.2 (List.any_eq_false.1 hp x (mem_blanks h))

theorem ne_of_isBlank {x y : Char} (hx : isBlank x = true) (hy : isBlank y = false) : y ≠ x := by
  rintro rfl
  rw [hx] at hy
  cases hy

theorem isWordChar_of_isBlank {x : Char} (h : isBlank x = true) : isWordChar x = false :=
  eq_false_of_isBlank h (by decide +kernel)

end Text

/-! ## Chunks -/

namespace Chunk

variable {p : Char → Bool} {x : Char}

theorem head?_append {y : Char} (hy : y ≠ x) (rest tail : List Char) :
    (rest ++ x :: tail).head? = some y ↔ rest.head? = some y := by
  cases rest <;> simp [hy.symm]

theorem spanLength_append (hp : p x = false) (cs tail : List Char) :
    spanLength p (cs ++ x :: tail) = spanLength p cs := by
  induction cs with
  | nil => simp [spanLength, hp]
  | cons c cs ih =>
    simp only [spanLength, List.cons_append, List.takeWhile_cons] at ih ⊢
    split
    · exact congrArg (· + 1) ih
    · rfl

theorem spanLength_le (p : Char → Bool) (cs : List Char) : spanLength p cs ≤ cs.length :=
  (List.takeWhile_prefix p).length_le

theorem commentLength_append (tail : List Char) {cs : List Char}
    (h : (commentLength cs).2 = true) :
    commentLength (cs ++ tail) = commentLength cs ∧ (commentLength cs).1 ≤ cs.length := by
  fun_induction commentLength cs with
  | case1 cs => exact ⟨rfl, by simp⟩
  | case2 c cs hne n closed hn ih =>
    rw [hn] at ih
    obtain ⟨ih, hle⟩ := ih h
    refine ⟨?_, Nat.succ_le_succ hle⟩
    have hne' (ds : List Char) (hc : c = '*') : cs ++ tail ≠ '/' :: ds := by
      cases cs with
      | nil =>
        rw [commentLength] at hn
        cases hn
        cases h
      | cons d cs => exact fun heq => hne cs hc (by rw [(List.cons_eq_cons.1 heq).1])
    rw [List.cons_append, commentLength.eq_2 _ _ hne', ih]
  | case3 => cases h

theorem stringLength_append (quote : Char) (cs tail : List Char) :
    stringLength quote (cs ++ '\n' :: tail) = stringLength quote cs := by
  fun_induction stringLength quote cs with
  | case1 => rw [List.nil_append, stringLength.eq_def]; simp
  | case2 cs => rw [List.cons_append, stringLength.eq_def]; simp
  | case3 cs hnl => rw [List.cons_append, stringLength.eq_def]; simp [hnl]
  | case4 hnl hne => rw [List.cons_append, stringLength.eq_def]; simp [hne]
  | case5 cs hnl hne => rw [List.cons_append, stringLength.eq_def]; simp [hne]
  | case6 d ds hd n closed hn hnl hne ih =>
    rw [hn] at ih
    rw [List.cons_append, List.cons_append, stringLength.eq_def]
    simp [hnl, hne, hd, ih]
  | case7 c cs hnl hne hb n closed hn ih =>
    rw [hn] at ih
    rw [List.cons_append, stringLength.eq_def]
    simp [hnl, hne, hb, ih]

theorem stringLength_le (quote : Char) (cs : List Char) :
    (stringLength quote cs).1 ≤ cs.length := by
  fun_induction stringLength quote cs <;> simp_all

/-- The character is no part of a number and of an operator. -/
structure IsBoundary (x : Char) : Prop where
  digit : x.isDigit = false
  dot : x ≠ '.'
  operator : isOperatorChar x = false

theorem isBoundary_of_isBlank (hx : Text.isBlank x = true) : IsBoundary x where
  digit := Text.eq_false_of_isBlank hx (by decide)
  dot := (Text.ne_of_isBlank hx (by decide)).symm
  operator := Text.eq_false_of_isBlank hx (by decide +kernel)

theorem IsBoundary.ne (hx : IsBoundary x) {y : Char} (hy : isOperatorChar y = true) : y ≠ x := by
  rintro rfl
  rw [hx.operator] at hy
  cases hy

theorem numberLength_append (hx : IsBoundary x) (cs tail : List Char) :
    numberLength (cs ++ x :: tail) = numberLength cs := by
  have hdrop : (cs ++ x :: tail).drop (spanLength Char.isDigit cs) =
      cs.drop (spanLength Char.isDigit cs) ++ x :: tail := by
    rw [List.drop_append_of_le_length (spanLength_le _ _)]
  rw [numberLength, numberLength, spanLength_append hx.digit, hdrop]
  generalize cs.drop (spanLength Char.isDigit cs) = rest
  rcases rest with _ | ⟨c, _ | ⟨d, ds⟩⟩
  · simp [hx.dot]
  · -- A fraction has a digit behind the point, and the character is none.
    by_cases hc : c = '.'
    · subst hc
      simp [hx.digit]
    · simp [hc]
  · by_cases hc : c = '.'
    · subst hc
      simp [spanLength_append hx.digit]
    · simp [hc]

theorem operatorLength_append (hx : IsBoundary x) (cs tail : List Char) :
    operatorLength (cs ++ x :: tail) = operatorLength cs := by
  induction cs with
  | nil => simp [operatorLength, hx.operator]
  | cons c cs ih =>
    have hslash := head?_append (hx.ne (y := '/') (by decide)) cs tail
    have hstar := head?_append (hx.ne (y := '*') (by decide)) cs tail
    simp only [List.cons_append, operatorLength, ih, hslash, hstar]

theorem operatorLength_le (cs : List Char) : operatorLength cs ≤ cs.length := by
  induction cs with
  | nil => exact Nat.le_refl 0
  | cons c cs ih =>
    rw [operatorLength]
    split
    · exact Nat.zero_le _
    · split
      · exact Nat.zero_le _
      · exact Nat.succ_le_succ ih

theorem numberLength_le (cs : List Char) : numberLength cs ≤ cs.length := by
  have hwhole := spanLength_le Char.isDigit cs
  rw [numberLength]
  generalize hrest : cs.drop (spanLength Char.isDigit cs) = rest
  have hlength := congrArg List.length hrest
  rw [List.length_drop] at hlength
  split
  · rename_i d ds
    have := spanLength_le Char.isDigit ds
    simp only [List.length_cons] at hlength
    split <;> omega
  · exact hwhole

/-- The text that starts with `c` is no comment and no string. -/
structure IsPlain (c : Char) (rest : List Char) : Prop where
  line : ¬ (c = '/' && rest.head? = some '/') = true
  block : ¬ (c = '/' && rest.head? = some '*') = true
  string : ¬ (c = '"' || c = '\'') = true

theorem IsPlain.of_append {c : Char} {rest tail : List Char} (hx : IsBoundary x)
    (h : IsPlain c (rest ++ x :: tail)) : IsPlain c rest := by
  have hslash := head?_append (hx.ne (y := '/') (by decide)) rest tail
  have hstar := head?_append (hx.ne (y := '*') (by decide)) rest tail
  exact ⟨by simpa only [hslash] using h.line, by simpa only [hstar] using h.block, h.string⟩

theorem measure_cases (c : Char) (rest : List Char) :
    (c = '/' ∧ rest.head? = some '/') ∨ (c = '/' ∧ ∃ body, rest = '*' :: body) ∨
      (c = '"' ∨ c = '\'') ∨ IsPlain c rest := by
  by_cases hline : (c = '/' && rest.head? = some '/') = true
  · exact .inl (by simpa using hline)
  by_cases hblock : (c = '/' && rest.head? = some '*') = true
  · refine .inr (.inl ?_)
    rw [Bool.and_eq_true, decide_eq_true_eq, decide_eq_true_eq] at hblock
    exact ⟨hblock.1, List.head?_eq_some_iff.1 hblock.2⟩
  by_cases hstring : (c = '"' || c = '\'') = true
  · exact .inr (.inr (.inl (by simpa using hstring)))
  · exact .inr (.inr (.inr ⟨hline, hblock, hstring⟩))

theorem measure_eq_lineComment {rest : List Char} (h : rest.head? = some '/') :
    measure '/' rest = (.lineComment, spanLength (· ≠ '\n') rest) := by
  rw [measure, h]
  rfl

theorem measure_eq_blockComment (body : List Char) :
    measure '/' ('*' :: body) =
      (.blockComment (commentLength body).2, (commentLength body).1 + 1) := rfl

/-- An `@` starts a directive, or it stands on its own. -/
theorem measure_marker (rest : List Char) : measure '@' rest =
    if rest.head?.any Text.startsWord then (.directive, spanLength Text.isWordChar rest)
    else (.stray, 0) := rfl

/-- A byte-order mark is a stray character. -/
theorem measure_byteOrderMark (rest : List Char) : measure '\ufeff' rest = (.stray, 0) := by
  have hword : Text.startsWord '\ufeff' = false := by decide +kernel
  rw [measure, hword]
  rfl

theorem measure_eq_string {quote : Char} (h : quote = '"' ∨ quote = '\'') (rest : List Char) :
    measure quote rest = (.string (stringLength quote rest).2, (stringLength quote rest).1) := by
  rcases h with rfl | rfl <;> rfl

/-- What is no comment and no string is measured up to a character that does not belong to it. -/
theorem measure_append_of_isBoundary {c : Char} {rest : List Char} (h : IsPlain c rest)
    (hx : IsBoundary x) (hword : Text.isWordChar x = false ∨ Text.startsWord c = false ∧ c ≠ '@')
    (tail : List Char) :
    measure c (rest ++ x :: tail) = measure c rest ∧ (measure c rest).2 ≤ rest.length := by
  have hslash := head?_append (hx.ne (y := '/') (by decide)) rest tail
  have hstar := head?_append (hx.ne (y := '*') (by decide)) rest tail
  have hmarker : (c = '@' && (rest ++ x :: tail).head?.any Text.startsWord) =
      (c = '@' && rest.head?.any Text.startsWord) := by
    obtain hword | ⟨-, hc⟩ := hword
    · have hx : Text.startsWord x = false := by
        rw [← Bool.not_eq_true] at hword ⊢
        exact mt Text.isWordChar_of_startsWord hword
      cases rest with
      | nil => exact congrArg (_ && ·) hx
      | cons d rest => rfl
    · simp [hc]
  rw [measure, measure]
  simp only [hslash, hstar, hmarker]
  rw [if_neg h.line, if_neg h.line, if_neg h.block, if_neg h.block, if_neg h.string,
    if_neg h.string]
  split
  · exact ⟨rfl, Nat.zero_le _⟩
  split
  · exact ⟨rfl, Nat.zero_le _⟩
  split
  · exact ⟨by rw [numberLength_append hx], numberLength_le _⟩
  split
  · rename_i hstarts
    have hword := hword.resolve_right fun hc => absurd (hc.1.symm.trans hstarts) (by decide)
    exact ⟨by rw [spanLength_append hword], spanLength_le _ _⟩
  split
  · exact ⟨rfl, Nat.zero_le _⟩
  split
  · rename_i hdirective
    have hword := hword.resolve_right fun hc => by simp [hc.2] at hdirective
    exact ⟨by rw [spanLength_append hword], spanLength_le _ _⟩
  split
  · exact ⟨by rw [operatorLength_append hx], operatorLength_le _⟩
  · exact ⟨rfl, Nat.zero_le _⟩

/-- What is no comment and no string is measured up to a blank. -/
theorem measure_append_of_isPlain {c : Char} {rest : List Char} (h : IsPlain c rest)
    (hx : Text.isBlank x = true) (tail : List Char) :
    measure c (rest ++ x :: tail) = measure c rest ∧ (measure c rest).2 ≤ rest.length :=
  measure_append_of_isBoundary h (isBoundary_of_isBlank hx) (.inl (Text.isWordChar_of_isBlank hx))
    tail

/-- In front of a line end a chunk is measured in the same way whatever follows, unless it is a
    comment that lacks its end, and it ends before the line does. -/
theorem measure_append (c : Char) (rest tail : List Char)
    (h : (measure c rest).1 ≠ .blockComment false) :
    measure c (rest ++ '\n' :: tail) = measure c rest ∧ (measure c rest).2 ≤ rest.length := by
  rcases measure_cases c rest with ⟨rfl, hhead⟩ | ⟨rfl, body, rfl⟩ | hquote | hplain
  · rw [measure_eq_lineComment ((head?_append (by decide) _ _).2 hhead),
      measure_eq_lineComment hhead, spanLength_append (by decide)]
    exact ⟨rfl, spanLength_le _ _⟩
  · rw [measure_eq_blockComment] at h
    have hclosed : (commentLength body).2 = true := by
      cases hc : (commentLength body).2 with
      | true => rfl
      | false => exact absurd (congrArg Shape.blockComment hc) h
    obtain ⟨hcomment, hle⟩ := commentLength_append ('\n' :: tail) hclosed
    rw [List.cons_append, measure_eq_blockComment, measure_eq_blockComment, hcomment]
    exact ⟨rfl, Nat.succ_le_succ hle⟩
  · rw [measure_eq_string hquote, measure_eq_string hquote, stringLength_append]
    exact ⟨rfl, stringLength_le _ _⟩
  · exact measure_append_of_isPlain hplain (by decide) tail

end Chunk

open Chunk in
/-- The line end comes behind the chunks of the first text, and then the chunks of the
    second one. -/
theorem chunks_append (cs tail : List Char)
    (h : ∀ ch ∈ chunks cs, ch.shape ≠ .blockComment false) :
    chunks (cs ++ '\n' :: tail) = chunks cs ++ ⟨.newline, ['\n']⟩ :: chunks tail := by
  induction hn : cs.length using Nat.strongRecOn generalizing cs with
  | _ n ih =>
    cases cs with
    | nil =>
      rw [List.nil_append, chunks_cons]
      rfl
    | cons c rest =>
      rw [chunks_cons] at h
      obtain ⟨hmeasure, hle⟩ := measure_append c rest tail (h _ List.mem_cons_self)
      rw [List.cons_append, chunks_cons, chunks_cons, hmeasure, List.take_append_of_le_length hle,
        List.drop_append_of_le_length hle, List.cons_append]
      congr 1
      simp only [List.length_cons] at hn
      exact ih _ (by rw [List.length_drop]; omega) _
        (fun ch hch => h ch (List.mem_cons_of_mem _ hch)) rfl

/-! ## Places -/

variable {k : Nat}

theorem Position.next_down (p : Position) (c : Char) : (p.down k).next c = (p.next c).down k := by
  simp only [next, down]
  split
  · rw [Nat.add_right_comm]
  · rfl

theorem Position.after_down (p : Position) (cs : List Char) :
    (p.down k).after cs = (p.after cs).down k := by
  induction cs generalizing p with
  | nil => rfl
  | cons c cs ih => rw [after_cons, after_cons, next_down, ih]

/-- Behind a text and a line end a new line starts. -/
theorem Position.next_start_after (cs : List Char) :
    (start.after cs).next '\n' = start.down (cs.count '\n' + 1) := by
  rw [start_after, next, if_pos rfl, ofIndex, List.take_length, down, start, Nat.add_comm 1]

/-- The chunk `k` lines further down. -/
def Placed.down (k : Nat) (ch : Placed) : Placed := { ch with position := ch.position.down k }

/-- The error `k` lines further down. -/
def LexicalError.down (k : Nat) (e : LexicalError) : LexicalError :=
  { e with position := e.position.down k }

theorem placeFrom_down (p : Position) (l : List Chunk) :
    placeFrom (p.down k) l = (placeFrom p l).map (·.down k) := by
  induction l generalizing p with
  | nil => rfl
  | cons ch l ih =>
    rw [placeFrom, placeFrom, Position.after_down, ih]
    rfl

theorem Placed.token?_down (ch : Placed) : (ch.down k).token? = ch.token?.map (·.down k) := by
  rw [token?, token?, Option.map_map]
  rfl

theorem Placed.strayError_down (c : Char) (p : Position) :
    strayError c (p.down k) = (strayError c p).down k := by
  rw [strayError, strayError]
  split
  · rfl
  · split <;> rfl

theorem Placed.error?_down (ch : Placed) : (ch.down k).error? = ch.error?.map (·.down k) := by
  obtain ⟨⟨shape, text⟩, p⟩ := ch
  simp only [error?, down]
  split
  · rfl
  · rfl
  · rw [strayError_down]
    rfl
  · rfl

theorem filterMap_token?_down (l : List Placed) :
    (l.map (·.down k)).filterMap Placed.token? = (l.filterMap Placed.token?).map (·.down k) := by
  rw [List.filterMap_map, List.map_filterMap]
  exact congrArg (List.filterMap · l) (funext Placed.token?_down)

theorem filterMap_error?_down (l : List Placed) :
    (l.map (·.down k)).filterMap Placed.error? = (l.filterMap Placed.error?).map (·.down k) := by
  rw [List.filterMap_map, List.map_filterMap]
  exact congrArg (List.filterMap · l) (funext Placed.error?_down)

/-! ## Chunks around a chunk -/

/-- The text that the chunks are cut from. -/
def joined (l : List Chunk) : List Char := (l.map Chunk.text).flatten

theorem joined_nil : joined [] = [] := rfl

theorem joined_cons (ch : Chunk) (l : List Chunk) : joined (ch :: l) = ch.text ++ joined l := by
  rw [joined, List.map_cons, List.flatten_cons, joined]

theorem joined_append (l r : List Chunk) : joined (l ++ r) = joined l ++ joined r := by
  rw [joined, List.map_append, List.flatten_append, joined, joined]

theorem joined_chunks (cs : List Char) : joined (chunks cs) = cs := flatten_chunks cs

/-- What is behind some of the chunks of a text is cut as it is on its own. -/
theorem chunks_joined {cs : List Char} {before after : List Chunk}
    (h : chunks cs = before ++ after) : chunks (joined after) = after := by
  induction before generalizing cs with
  | nil =>
    rw [List.nil_append] at h
    rw [← h, joined_chunks]
  | cons ch before ih =>
    cases cs with
    | nil => cases h
    | cons c rest =>
      rw [chunks_cons] at h
      exact ih (List.cons_eq_cons.1 h).2

/-- The first chunk is the one that is measured at the start of the text. -/
theorem exists_measure {cs : List Char} {ch : Chunk} {after : List Chunk}
    (h : chunks cs = ch :: after) : ∃ c rest, cs = c :: rest ∧
      ch = ⟨(Chunk.measure c rest).1, c :: rest.take (Chunk.measure c rest).2⟩ ∧
      joined after = rest.drop (Chunk.measure c rest).2 := by
  cases cs with
  | nil => cases h
  | cons c rest =>
    rw [chunks_cons] at h
    obtain ⟨rfl, rfl⟩ := List.cons_eq_cons.1 h
    exact ⟨c, rest, rfl, rfl, joined_chunks _⟩

/-- A chunk among others stands at the position that those in front of it lead to. -/
theorem exists_of_mem_placeFrom {p : Position} {l : List Chunk} {ch : Placed}
    (h : ch ∈ placeFrom p l) : ∃ before after, l = before ++ ch.toChunk :: after ∧
      ch.position = p.after (joined before) := by
  induction l generalizing p with
  | nil => cases h
  | cons first l ih =>
    obtain rfl | h := List.mem_cons.1 h
    · exact ⟨[], l, rfl, rfl⟩
    · obtain ⟨before, after, rfl, hposition⟩ := ih h
      exact ⟨first :: before, after, rfl, by rw [hposition, joined_cons, Position.after_append]⟩

theorem mem_placeFrom {ch : Chunk} {l : List Chunk} (p : Position) (h : ch ∈ l) :
    ∃ placed ∈ placeFrom p l, placed.toChunk = ch := by
  induction l generalizing p with
  | nil => cases h
  | cons c l ih =>
    obtain rfl | h := List.mem_cons.1 h
    · exact ⟨_, List.mem_cons_self, rfl⟩
    · obtain ⟨placed, hplaced, rfl⟩ := ih (p.after c.text) h
      exact ⟨placed, List.mem_cons_of_mem _ hplaced, rfl⟩

/-! ## Texts -/

theorem Text.length_pieces (cs : List Char) : (pieces cs).length = cs.count '\n' + 1 := by
  induction cs with
  | nil => rfl
  | cons c cs ih =>
    rw [pieces]
    split
    · rename_i hc
      rw [List.length_cons, ih, hc, List.count_cons_self]
    · rename_i hc
      rw [List.count_cons_of_ne hc]
      split
      · rename_i hpieces
        rwa [hpieces] at ih
      · rename_i hpieces
        exact absurd hpieces (pieces_ne_nil cs)

theorem Text.pieces_append (cs ds : List Char) :
    pieces (cs ++ '\n' :: ds) = pieces cs ++ pieces ds := by
  induction cs with
  | nil => rfl
  | cons c cs ih =>
    rw [List.cons_append, pieces, pieces, ih]
    split
    · rfl
    · cases h : pieces cs with
      | nil => exact absurd h (pieces_ne_nil cs)
      | cons piece rest => rfl

/-- A document is read as it is, or without the byte-order mark that it starts with. -/
theorem Text.toList_cases (source : String) :
    (source.toList = Text.body source ∧ source.toList.head? ≠ some '\ufeff') ∨
      source.toList = '\ufeff' :: Text.body source := by
  rw [Text.body]
  split
  · rename_i hmark
    exact .inr hmark
  · rename_i hmark
    refine .inl ⟨rfl, fun hhead => ?_⟩
    obtain ⟨rest, hrest⟩ := List.head?_eq_some_iff.1 hhead
    exact hmark rest hrest

theorem Text.body_append (s t : String) :
    Text.body (s ++ "\n" ++ t) = Text.body s ++ '\n' :: t.toList := by
  have htoList : (s ++ "\n" ++ t).toList = s.toList ++ '\n' :: t.toList := by simp
  rw [Text.body, Text.body, htoList]
  cases s.toList with
  | nil => rfl
  | cons c cs =>
    by_cases hc : c = '\ufeff'
    · subst hc
      rfl
    · simp [hc]

theorem Text.body_of_head? {t : String} (h : t.toList.head? ≠ some '\ufeff') :
    Text.body t = t.toList := by
  obtain ⟨hbody, -⟩ | hmark := Text.toList_cases t
  · exact hbody.symm
  · exact absurd (hmark ▸ rfl) h

theorem shape_ne_of_errors {source : String}
    (h : ∀ e ∈ (tokenize source).errors, e.code ≠ .unterminatedComment) :
    ∀ ch ∈ chunks (Text.body source), ch.shape ≠ .blockComment false := by
  intro ch hch hshape
  obtain ⟨placed, hplaced, rfl⟩ := mem_placeFrom .start hch
  have herror : ∃ e, placed.error? = some e ∧ e.code = .unterminatedComment := by
    rw [Placed.error?, hshape]
    exact ⟨_, rfl, rfl⟩
  obtain ⟨e, herror, hcode⟩ := herror
  exact h e (List.mem_filterMap.2 ⟨placed, hplaced, herror⟩) hcode

/-- A token is where the chunk starts that it is read from. -/
theorem Tiles.position_eq {u : List Char} {i : Nat} {l : List Tile} {tile : Tile} {t : Token}
    (h : Tiles u i l) (htile : tile ∈ l) (ht : tile.token? = some t) :
    t.position = .ofIndex u tile.start := by
  rw [(Placed.token?_eq_some ht).2.2, (h.isIn tile htile).2.position]

/-- A token is at the place of a character, or at the end of the text. -/
theorem exists_ofIndex_of_mem_tokenize {source : String} {token : Token}
    (h : token ∈ (tokenize source).tokens) :
    ∃ i, token.position = .ofIndex (Text.body source) i := by
  obtain ⟨l, htiles, htokens, -⟩ := tokenize_tiles source
  rw [htokens] at h
  obtain h | h := List.mem_append.1 h
  · obtain ⟨tile, htile, htoken⟩ := List.mem_filterMap.1 h
    exact ⟨tile.start, htiles.position_eq htile htoken⟩
  · rw [List.mem_singleton.1 h]
    exact ⟨_, rfl⟩

/-- A token is on one of the lines of the text. -/
theorem line_of_mem_tokenize {source : String} {token : Token}
    (h : token ∈ (tokenize source).tokens) :
    1 ≤ token.position.line ∧ token.position.line ≤ (Text.body source).count '\n' + 1 := by
  obtain ⟨i, hi⟩ := exists_ofIndex_of_mem_tokenize h
  rw [hi]
  exact ⟨Nat.succ_pos _, Nat.succ_le_succ ((List.take_sublist i _).count_le _)⟩

/-- The tokens of a text are in its order. -/
theorem pairwise_tokenize (source : String) :
    (tokenize source).tokens.Pairwise fun t t' => t.position < t'.position := by
  obtain ⟨l, htiles, htokens, -⟩ := tokenize_tiles source
  rw [htokens, List.pairwise_append]
  refine ⟨?_, List.pairwise_singleton _ _, ?_⟩
  · refine List.pairwise_filterMap.2
      (htiles.pairwise.imp_of_mem fun {a b} ha hb hle t ht t' ht' => ?_)
    rw [htiles.position_eq ha ht, htiles.position_eq hb ht']
    exact htiles.ofIndex_lt ha hb hle
  · intro t ht eof heof
    obtain ⟨tile, htile, ht⟩ := List.mem_filterMap.1 ht
    obtain ⟨-, hin⟩ := htiles.isIn tile htile
    rw [List.mem_singleton.1 heof, htiles.position_eq htile ht]
    exact Position.ofIndex_lt (Nat.lt_of_lt_of_le hin.start_lt_stop hin.stop_le) (Nat.le_refl _)

/-- The last token of a text is the end of the input. -/
theorem getLast?_tokenize (source : String) :
    (tokenize source).tokens.getLast?.map (·.kind) = some .eof :=
  of_decide_eq_true (isTerminated_tokenize source)

/-- No two tokens of a text are at one place. -/
theorem nodup_positions (source : String) :
    ((tokenize source).tokens.map (·.position)).Nodup :=
  List.pairwise_map.2 ((pairwise_tokenize source).imp Position.ne_of_lt)

/-- The text has as many lines as there are pieces of it. -/
theorem Text.count_body (source : String) :
    (Text.body source).count '\n' + 1 = (Text.pieces source.toList).length := by
  rw [Text.length_pieces]
  obtain ⟨hbody, -⟩ | hmark := Text.toList_cases source
  · rw [hbody]
  · rw [hmark]
    rfl

theorem tokens_tokenize (source : String) : (tokenize source).tokens =
    (placedChunks source).filterMap Placed.token? ++
      [Token.eof (Position.start.after (Text.body source))] := rfl

theorem errors_tokenize (source : String) :
    (tokenize source).errors = (placedChunks source).filterMap Placed.error? := rfl

/-- The end of the input is not read from a chunk. -/
theorem kind_ne_eof (source : String) :
    ∀ token ∈ (placedChunks source).filterMap Placed.token?, token.kind ≠ .eof := by
  obtain ⟨l, htiles, htokens, -⟩ := tokenize_tiles source
  have hpieces : (placedChunks source).filterMap Placed.token? = l.filterMap (·.token?) := by
    rw [tokens_tokenize, Position.start_after] at htokens
    exact List.append_cancel_right htokens
  rw [hpieces]
  intro token htoken
  obtain ⟨tile, htile, htoken⟩ := List.mem_filterMap.1 htoken
  obtain ⟨rest, _, hfits⟩ := (htiles.isIn tile htile).2.fits
  exact (Placed.hasKind_of_kind? hfits (Placed.token?_eq_some htoken).1).ne_eof

section Continuation

variable {s t : String} (hs : ∀ e ∈ (tokenize s).errors, e.code ≠ .unterminatedComment)
  (ht : t.toList.head? ≠ some '\ufeff')
include hs ht

/-- The line end and the chunks of the second text are placed where the first text ends. -/
theorem placedChunks_append :
    placedChunks (s ++ "\n" ++ t) = placedChunks s ++
      ⟨⟨.newline, ['\n']⟩, Position.start.after (Text.body s)⟩ ::
        (placedChunks t).map (·.down (Text.pieces s.toList).length) := by
  rw [placedChunks, Text.body_append, chunks_append _ _ (shape_ne_of_errors hs),
    placeFrom_append, flatten_chunks, placeFrom, Position.after_cons, Position.after_nil,
    Position.next_start_after, Text.count_body, placeFrom_down, placedChunks, placedChunks,
    Text.body_of_head? ht]

theorem tokens_append :
    (tokenize (s ++ "\n" ++ t)).tokens = (placedChunks s).filterMap Placed.token? ++
      ⟨.newline, "\n", Position.start.after (Text.body s)⟩ ::
        (tokenize t).tokens.map (·.down (Text.pieces s.toList).length) := by
  have hend : Position.start.after (Text.body (s ++ "\n" ++ t)) =
      (Position.start.after (Text.body t)).down (Text.pieces s.toList).length := by
    rw [Text.body_append, Text.body_of_head? ht, Position.after_append, Position.after_cons,
      Position.next_start_after, Text.count_body, Position.after_down]
  have hnewline : Placed.token? ⟨⟨.newline, ['\n']⟩, Position.start.after (Text.body s)⟩ =
      some ⟨.newline, "\n", Position.start.after (Text.body s)⟩ := rfl
  rw [tokens_tokenize, tokens_tokenize, placedChunks_append hs ht, hend, List.filterMap_append,
    List.filterMap_cons_some hnewline, filterMap_token?_down, List.append_assoc, List.map_append]
  rfl

theorem errors_append :
    (tokenize (s ++ "\n" ++ t)).errors = (tokenize s).errors ++
      (tokenize t).errors.map (·.down (Text.pieces s.toList).length) := by
  have hnewline : Placed.error? ⟨⟨.newline, ['\n']⟩, Position.start.after (Text.body s)⟩ = none :=
    rfl
  rw [errors_tokenize, errors_tokenize, errors_tokenize, placedChunks_append hs ht,
    List.filterMap_append, List.filterMap_cons_none hnewline, filterMap_error?_down]

end Continuation

/-- Where the first text ends, and all that stands in front of its end is read as it is. The
    line end follows, and then the second text, so many lines further down as the first one
    has. -/
theorem tokenize_append {s t : String} (hs : (tokenize s).errors = [])
    (ht : t.toList.head? ≠ some '\ufeff') :
    ∃ pieces p, (∀ token ∈ pieces, token.kind ≠ .eof) ∧
      (tokenize s).tokens = pieces ++ [Token.eof p] ∧
      (tokenize (s ++ "\n" ++ t)).tokens = pieces ++ ⟨.newline, "\n", p⟩ ::
        (tokenize t).tokens.map (·.down (Text.pieces s.toList).length) ∧
      (tokenize (s ++ "\n" ++ t)).errors =
        (tokenize t).errors.map (·.down (Text.pieces s.toList).length) := by
  have hclosed : ∀ e ∈ (tokenize s).errors, e.code ≠ .unterminatedComment := by simp [hs]
  refine ⟨_, _, kind_ne_eof s, rfl, tokens_append hclosed ht, ?_⟩
  rw [errors_append hclosed ht, hs, List.nil_append]

/-- Whatever is wrong with the first text, as long as no comment is open at its end: it is read
    as it is, the line end stands where the end of its input was, and the second text is read as
    it is on its own, so many lines further down as the first one has. -/
theorem tokenize_newline (s t : String)
    (hs : ∀ e ∈ (tokenize s).errors, e.code ≠ .unterminatedComment)
    (ht : t.toList.head? ≠ some '\ufeff') :
    ∃ pieces p, (∀ token ∈ pieces, token.kind ≠ .eof) ∧
      (tokenize s).tokens = pieces ++ [Token.eof p] ∧
      (tokenize (s ++ "\n" ++ t)).tokens = pieces ++ ⟨.newline, "\n", p⟩ ::
        (tokenize t).tokens.map (·.down (s.toList.count '\n' + 1)) ∧
      (tokenize (s ++ "\n" ++ t)).errors = (tokenize s).errors ++
        (tokenize t).errors.map (·.down (s.toList.count '\n' + 1)) := by
  have hlines := Text.length_pieces s.toList
  refine ⟨_, _, kind_ne_eof s, rfl, ?_, ?_⟩
  · rw [← hlines]
    exact tokens_append hs ht
  · rw [← hlines]
    exact errors_append hs ht

/-- The first text ends with a string that lacks its quote, behind a backslash, and the second one
    starts with a quote and lacks another one. -/
theorem tokenize_newline_of_backslash : ∃ (s t : String) (pieces : List Token) (p : Position),
    s = "let x\n'a\\" ∧ t = "' §" ∧
    (∀ e ∈ (tokenize s).errors, e.code ≠ .unterminatedComment) ∧
    t.toList.head? ≠ some '\ufeff' ∧
    (tokenize s).tokens = pieces ++ [Token.eof p] ∧ p = ⟨2, 4⟩ ∧
    (tokenize (s ++ "\n" ++ t)).tokens =
      pieces ++ ⟨.newline, "\n", p⟩ :: (tokenize t).tokens.map (·.down 2) ∧
    (tokenize (s ++ "\n" ++ t)).errors =
      (tokenize s).errors ++ (tokenize t).errors.map (·.down 2) ∧
    (tokenize s).errors.map (·.code) = [.unterminatedString] ∧
    (tokenize t).errors.map (·.code) = [.unterminatedString] := by
  let s := "let x\n'a\\"
  let t := "' §"
  have hs : ∀ e ∈ (tokenize s).errors, e.code ≠ .unterminatedComment := by decide +kernel
  have ht : t.toList.head? ≠ some '\ufeff' := by decide
  have hlast : (tokenize s).tokens.getLast? = some (Token.eof ⟨2, 4⟩) := by decide +kernel
  have hlines : s.toList.count '\n' + 1 = 2 := by decide
  obtain ⟨pieces, p, -, htokens, htokens', herrors⟩ := tokenize_newline s t hs ht
  rw [hlines] at htokens' herrors
  have hp : p = ⟨2, 4⟩ := by
    rw [htokens, List.getLast?_concat] at hlast
    exact congrArg Token.position (Option.some.inj hlast)
  exact ⟨s, t, pieces, p, rfl, rfl, hs, ht, htokens, hp, htokens', herrors, by decide +kernel,
    by decide +kernel⟩

end SunLint
