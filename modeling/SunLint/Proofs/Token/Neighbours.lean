import SunLint.Proofs.Token.Tidied

/-!
# Words and what stands around them

A word or a directive is a chunk of its own whatever it says (`IsWord`), and it goes on as far as
there are word characters. What is in front of it ends where it starts: a chunk looks ahead only to
see whether a comment, a fraction or a directive begins, and in this all words are alike, and so are
all directives. So one of them can be put in the place of another (`chunks_replace`).

* `Chunk.measure_congr`: the first chunk of a text does not depend on what a word behind it says;
* `chunks_replace`: with another word in the place of one, all other chunks stay as they are;
* `not_opens_of_chunks`: nothing that opens a word stands in front of a word.
-/

namespace SunLint

open Chunk

variable {c x x' : Char} {rest back : List Char} {shape : Shape}

/-! ## Words -/

theorem Text.isLetter_eq_false {x : Char} (h : x.toNat < 0x41) : isLetter x = false := by
  unfold isLetter letterRanges
  rw [Ranges.contains, if_pos h]

theorem Text.ne_of_startsWord {x y : Char} (hx : startsWord x = true) (hy : startsWord y = false) :
    x ≠ y := by
  rintro rfl
  rw [hx] at hy
  cases hy

/-- The text is a word, or it is a directive, and no word character is missing in it. -/
inductive IsWord : Shape → List Char → Prop
  | word {c : Char} {rest : List Char} (hc : Text.startsWord c = true)
    (hrest : ∀ x ∈ rest, Text.isWordChar x = true) : IsWord .word (c :: rest)
  | directive {c : Char} {rest : List Char} (hc : Text.startsWord c = true)
    (hrest : ∀ x ∈ rest, Text.isWordChar x = true) : IsWord .directive ('@' :: c :: rest)

namespace Chunk

/-- What starts a word is no digit, no operator and no point. -/
theorem isBoundary_of_startsWord (h : Text.startsWord x = true) : IsBoundary x where
  digit := by
    rw [← Bool.not_eq_true]
    intro hdigit
    have hlt : x.toNat < 0x41 := by
      have hle : x.toNat ≤ 57 := of_decide_eq_true (Bool.and_eq_true_iff.1 hdigit).2
      omega
    rw [Text.startsWord, Text.isLetter_eq_false hlt, Bool.false_or, decide_eq_true_eq] at h
    subst h
    exact absurd hdigit (by decide)
  dot := Text.ne_of_startsWord h (by decide)
  operator := by
    rw [← Bool.not_eq_true]
    intro hoperator
    have hmem : x ∈ ['+', '-', '*', '/', '%', '=', '!', '<', '>', '&', '|', '^', '~', '?'] := by
      simpa [isOperatorChar] using hoperator
    have hnone : ['+', '-', '*', '/', '%', '=', '!', '<', '>', '&', '|', '^', '~', '?'].any
        Text.startsWord = false := by decide
    exact List.any_eq_false.1 hnone x hmem h

theorem measure_of_startsWord (h : Text.startsWord c = true) (rest : List Char) :
    measure c rest = (.word, spanLength Text.isWordChar rest) := by
  have hapart := isBoundary_of_startsWord h
  have hslash : c ≠ '/' := (hapart.ne (by decide)).symm
  have hnl : c ≠ '\n' := Text.ne_of_startsWord h (by decide)
  have hquote : c ≠ '"' := Text.ne_of_startsWord h (by decide)
  have happly : c ≠ '\'' := Text.ne_of_startsWord h (by decide)
  have hblank : Text.isBlank c = false := by
    rw [← Bool.not_eq_true]
    intro hblank
    rw [Text.eq_false_of_isBlank (p := Text.startsWord) hblank (by decide +kernel)] at h
    cases h
  rw [measure]
  simp [hslash, hnl, hquote, happly, hblank, hapart.digit, h]

/-- A word starts like one. -/
theorem startsWord_of_measure (h : (measure c rest).1 = .word) : Text.startsWord c = true := by
  by_contra hc
  rw [measure] at h
  simp only [hc, Bool.false_eq_true, if_false] at h
  repeat' split at h
  all_goals cases h

/-- A directive starts with its marker, and then like a word. -/
theorem marker_of_measure (h : (measure c rest).1 = .directive) :
    c = '@' ∧ rest.head?.any Text.startsWord = true := by
  by_contra hc
  have hmarker : (c = '@' && rest.head?.any Text.startsWord) = false := by simpa using hc
  rw [measure] at h
  simp only [hmarker, Bool.false_eq_true, if_false] at h
  repeat' split at h
  all_goals cases h

/-- A chunk that is read as a word or as a directive is one, and it is not cut short. -/
theorem isWord_of_measure
    (h : (measure c rest).1 = .word ∨ (measure c rest).1 = .directive) :
    IsWord (measure c rest).1 (c :: rest.take (measure c rest).2) ∧
      ∀ y ∈ (rest.drop (measure c rest).2).head?, Text.isWordChar y = false := by
  have hlength : (measure c rest).2 = spanLength Text.isWordChar rest := by
    obtain h | h := h
    · rw [measure_of_startsWord (startsWord_of_measure h)]
    · obtain ⟨rfl, hhead⟩ := marker_of_measure h
      rw [measure_marker, if_pos hhead]
  rw [hlength, take_spanLength, drop_spanLength]
  refine ⟨?_, fun y hy => ?_⟩
  · obtain h | h := h
    · rw [h]
      exact .word (startsWord_of_measure h) fun y hy => List.mem_takeWhile_imp hy
    · rw [h]
      obtain ⟨rfl, hhead⟩ := marker_of_measure h
      cases rest with
      | nil => cases hhead
      | cons d rest =>
        rw [List.takeWhile_cons_of_pos (Text.isWordChar_of_startsWord hhead)]
        exact .directive hhead fun y hy => List.mem_takeWhile_imp hy
  · have hnot := List.head?_dropWhile_not Text.isWordChar rest
    rw [hy] at hnot
    simpa using hnot

end Chunk

theorem spanLength_append_of_stop {p : Char → Bool} {cs ds : List Char}
    (hcs : ∀ c ∈ cs, p c = true) (hds : ∀ c ∈ ds.head?, p c = false) :
    spanLength p (cs ++ ds) = cs.length := by
  rw [spanLength, takeWhile_append_of_stop hcs hds]

/-- A word is a chunk, if no word character follows. -/
theorem IsWord.chunks_append {word : List Char} (h : IsWord shape word)
    (hback : ∀ c ∈ back.head?, Text.isWordChar c = false) :
    chunks (word ++ back) = ⟨shape, word⟩ :: chunks back := by
  cases h with
  | @word c rest hc hrest =>
    rw [List.cons_append, chunks_cons, measure_of_startsWord hc,
      spanLength_append_of_stop hrest hback, List.take_left, List.drop_left]
  | @directive c rest hc hrest =>
    have hrest' : ∀ x ∈ c :: rest, Text.isWordChar x = true :=
      List.forall_mem_cons.2 ⟨Text.isWordChar_of_startsWord hc, hrest⟩
    rw [List.cons_append, chunks_cons, measure_marker, if_pos (by exact hc),
      spanLength_append_of_stop hrest' hback, List.take_left, List.drop_left]

theorem IsWord.not_mem {word : List Char} (h : IsWord shape word) {y : Char}
    (hy : Text.isWordChar y = false) (hmarker : y ≠ '@') : y ∉ word := by
  have hne {d : Char} (hd : Text.isWordChar d = true) : y ≠ d := by
    rintro rfl
    rw [hd] at hy
    cases hy
  cases h with
  | word hc hrest =>
    rw [List.mem_cons, not_or]
    exact ⟨hne (Text.isWordChar_of_startsWord hc), fun hmem => hne (hrest y hmem) rfl⟩
  | directive hc hrest =>
    rw [List.mem_cons, List.mem_cons, not_or, not_or]
    exact ⟨hmarker, hne (Text.isWordChar_of_startsWord hc), fun hmem => hne (hrest y hmem) rfl⟩

theorem IsWord.ne_nil {word : List Char} (h : IsWord shape word) : word ≠ [] := by
  cases h <;> exact List.cons_ne_nil _ _

/-- A word stands on one line. -/
theorem IsWord.ne_lineEnd {word : List Char} (h : IsWord shape word) :
    ∀ c ∈ word, c ≠ '\n' ∧ c ≠ '\r' := fun _ hc =>
  ⟨ne_of_mem_of_not_mem hc (h.not_mem (by decide +kernel) (by decide)),
    ne_of_mem_of_not_mem hc (h.not_mem (by decide +kernel) (by decide))⟩

/-! ## What follows a chunk -/

/-- A word or a directive starts with the character. -/
def Opens (x : Char) : Prop := Text.startsWord x = true ∨ x = '@'

namespace Opens

theorem isBoundary (h : Opens x) : IsBoundary x := by
  obtain h | rfl := h
  · exact isBoundary_of_startsWord h
  · exact ⟨by decide, by decide, by decide⟩

theorem ne {y : Char} (h : Opens x) (hy : Text.startsWord y = false) (hmarker : y ≠ '@') :
    x ≠ y := by
  obtain h | rfl := h
  · exact Text.ne_of_startsWord h hy
  · exact hmarker.symm

end Opens

namespace Chunk

variable {l t t' : List Char}

theorem spanLength_congr {p : Char → Bool} (hp : p x' = p x)
    (h : spanLength p (l ++ x :: t) ≤ l.length) :
    spanLength p (l ++ x' :: t') = spanLength p (l ++ x :: t) := by
  induction l with
  | nil =>
    cases hpx : p x with
    | true => simp [spanLength, hpx] at h
    | false => simp [spanLength, hpx, hp]
  | cons d l ih =>
    simp only [spanLength, List.cons_append, List.takeWhile_cons] at h ih ⊢
    split
    · rename_i hd
      rw [if_pos hd, List.length_cons, List.length_cons, Nat.add_le_add_iff_right] at h
      exact congrArg (· + 1) (ih h)
    · rfl

theorem stringLength_cons {quote d : Char} (hnl : d ≠ '\n') (hquote : d ≠ quote) (hb : d ≠ '\\')
    (cs : List Char) :
    stringLength quote (d :: cs) = ((stringLength quote cs).1 + 1, (stringLength quote cs).2) := by
  rw [stringLength.eq_def]
  simp [hnl, hquote, hb]

theorem stringLength_escape {quote d : Char} (hquote : '\\' ≠ quote) (hd : d ≠ '\n')
    (cs : List Char) : stringLength quote ('\\' :: d :: cs) =
      ((stringLength quote cs).1 + 2, (stringLength quote cs).2) := by
  rw [stringLength.eq_def]
  simp [hquote, hd]

section Congr

/- Two texts that go on with a word or with a directive each, behind the same characters. -/
variable (hx : Opens x) (hx' : Opens x')
include hx hx'

theorem commentLength_congr (h : (commentLength (l ++ x :: t)).1 ≤ l.length) :
    commentLength (l ++ x' :: t') = commentLength (l ++ x :: t) := by
  have hslash := hx.ne (y := '/') (by decide) (by decide)
  have hslash' := hx'.ne (y := '/') (by decide) (by decide)
  induction l with
  | nil =>
    have hstar := hx.ne (y := '*') (by decide) (by decide)
    rw [List.nil_append, commentLength_cons fun hc => absurd hc hstar] at h
    cases h
  | cons d l ih =>
    by_cases hend : d = '*' ∧ l.head? = some '/'
    · obtain ⟨rfl, hhead⟩ := hend
      obtain ⟨l, rfl⟩ := List.head?_eq_some_iff.1 hhead
      rfl
    · have hne (y : Char) (hy : y ≠ '/') (t : List Char) (hc : d = '*') :
          (l ++ y :: t).head? ≠ some '/' :=
        mt (head?_append hy.symm l t).1 (not_and.1 hend hc)
      rw [List.cons_append, commentLength_cons (hne x hslash t), List.length_cons,
        Nat.add_le_add_iff_right] at h
      rw [List.cons_append, List.cons_append, commentLength_cons (hne x hslash t),
        commentLength_cons (hne x' hslash' t'), ih h]

omit hx' in
theorem stringLength_congr {quote : Char} (hquote : quote = '"' ∨ quote = '\'')
    (h : (stringLength quote (l ++ x :: t)).1 ≤ l.length) :
    stringLength quote (l ++ x' :: t') = stringLength quote (l ++ x :: t) := by
  have hnl := hx.ne (y := '\n') (by decide) (by decide)
  have hb := hx.ne (y := '\\') (by decide) (by decide)
  fun_induction stringLength quote l with
  | case1 =>
    -- The string would go on with the word.
    have hne : x ≠ quote := by
      rcases hquote with rfl | rfl <;> exact hx.ne (by decide) (by decide)
    rw [List.nil_append, stringLength_cons hnl hne hb] at h
    cases h
  | case2 cs => simp [stringLength.eq_def]
  | case3 cs hline => simp [stringLength.eq_def, hline]
  | case4 hline hne =>
    rw [List.cons_append, List.nil_append, stringLength_escape hne hnl] at h
    simp at h
  | case5 cs hline hne => simp [stringLength.eq_def, hne]
  | case6 d ds hd n closed hn hline hne ih =>
    simp only [List.cons_append, stringLength_escape hne hd, List.length_cons] at h ⊢
    rw [ih (by omega)]
  | case7 d cs hline hne hescape n closed hn ih =>
    simp only [List.cons_append, stringLength_cons hline hne hescape, List.length_cons] at h ⊢
    rw [ih (by omega)]

theorem isWordChar_congr (hsame : Text.startsWord x' = Text.startsWord x) :
    Text.isWordChar x' = Text.isWordChar x := by
  obtain hx | rfl := hx
  · rw [Text.isWordChar_of_startsWord hx, Text.isWordChar_of_startsWord (hsame.trans hx)]
  · obtain hx' | rfl := hx'
    · rw [hsame] at hx'
      exact absurd hx' (by decide)
    · rfl

/-- The first chunk of a text does not depend on the word that stands behind it. -/
theorem measure_congr (hsame : Text.startsWord x' = Text.startsWord x)
    (h : (measure c (l ++ x :: t)).2 ≤ l.length) :
    measure c (l ++ x' :: t') = measure c (l ++ x :: t) := by
  have hslash := hx.isBoundary.ne (y := '/') (by decide)
  have hslash' := hx'.isBoundary.ne (y := '/') (by decide)
  have hword := isWordChar_congr hx hx' hsame
  rcases measure_cases c (l ++ x :: t) with ⟨rfl, hhead⟩ | ⟨rfl, body, hbody⟩ | hquote | hplain
  · have hhead' := (head?_append hslash' l t').2 ((head?_append hslash l t).1 hhead)
    rw [measure_eq_lineComment hhead] at h ⊢
    have hnl := hx.ne (y := '\n') (by decide) (by decide)
    have hnl' := hx'.ne (y := '\n') (by decide) (by decide)
    rw [measure_eq_lineComment hhead', spanLength_congr (by simp [hnl, hnl']) h]
  · cases l with
    | nil => exact absurd (List.cons_eq_cons.1 hbody).1.symm (hx.isBoundary.ne (by decide))
    | cons d l =>
      obtain ⟨rfl, rfl⟩ := List.cons_eq_cons.1 hbody
      rw [List.cons_append, measure_eq_blockComment, List.length_cons,
        Nat.add_le_add_iff_right] at h
      rw [List.cons_append, List.cons_append, measure_eq_blockComment, measure_eq_blockComment,
        commentLength_congr hx hx' h]
  · rw [measure_eq_string hquote] at h ⊢
    rw [measure_eq_string hquote, stringLength_congr hx hquote h]
  · by_cases hc : Text.startsWord c = true
    · rw [measure_of_startsWord hc] at h ⊢
      rw [measure_of_startsWord hc, spanLength_congr hword h]
    by_cases hmarker : c = '@'
    · subst hmarker
      have hhead : (l ++ x' :: t').head?.any Text.startsWord =
          (l ++ x :: t).head?.any Text.startsWord := by
        cases l with
        | nil => exact hsame
        | cons d l => rfl
      rw [measure_marker] at h ⊢
      rw [measure_marker, hhead]
      split at h
      · rename_i hstarts
        rw [if_pos hstarts, if_pos hstarts, spanLength_congr hword h]
      · rename_i hstarts
        rw [if_neg hstarts, if_neg hstarts]
    · have hplain := hplain.of_append hx.isBoundary
      have hc : Text.startsWord c = false ∧ c ≠ '@' := ⟨by simpa using hc, hmarker⟩
      rw [(measure_append_of_isBoundary hplain hx.isBoundary (.inr hc) t).1,
        (measure_append_of_isBoundary hplain hx'.isBoundary (.inr hc) t').1]

end Congr

end Chunk

/-! ## Words among chunks -/

/-- A word among the chunks of a text is not cut short. -/
theorem isWord_of_chunks {cs : List Char} {before after : List Chunk} {ch : Chunk}
    (h : chunks cs = before ++ ch :: after) (hshape : ch.shape = .word ∨ ch.shape = .directive) :
    IsWord ch.shape ch.text ∧ ∀ c ∈ (joined after).head?, Text.isWordChar c = false := by
  obtain ⟨c, rest, -, rfl, hafter⟩ := exists_measure (chunks_joined h)
  rw [hafter]
  exact isWord_of_measure hshape

theorem IsWord.shape_eq {word : List Char} (h : IsWord shape word) :
    shape = .word ∨ shape = .directive := by
  cases h with
  | word => exact .inl rfl
  | directive => exact .inr rfl

theorem IsWord.exists_opens {word word' : List Char} (h : IsWord shape word)
    (h' : IsWord shape word') : ∃ x x' rest rest', word = x :: rest ∧ word' = x' :: rest' ∧
      Opens x ∧ Opens x' ∧ Text.startsWord x' = Text.startsWord x := by
  cases h with
  | word hc =>
    cases h' with
    | word hc' => exact ⟨_, _, _, _, rfl, rfl, .inl hc, .inl hc', hc'.trans hc.symm⟩
  | directive =>
    cases h' with
    | directive => exact ⟨_, _, _, _, rfl, rfl, .inr rfl, .inr rfl, rfl⟩

/-- With another word in the place of one, all other chunks of the text stay as they are. -/
theorem chunks_replace {cs word word' : List Char} {before after : List Chunk}
    (h : chunks cs = before ++ ⟨shape, word⟩ :: after) (hword' : IsWord shape word') :
    chunks (joined before ++ (word' ++ joined after)) = before ++ ⟨shape, word'⟩ :: after := by
  obtain ⟨hword, hafter⟩ := isWord_of_chunks h hword'.shape_eq
  induction before generalizing cs with
  | nil =>
    have hrest : chunks cs = [⟨shape, word⟩] ++ after := h
    rw [List.nil_append, joined_nil, List.nil_append,
      hword'.chunks_append hafter, chunks_joined hrest]
  | cons ch before ih =>
    obtain ⟨c, rest, rfl, rfl, hjoined⟩ := exists_measure h
    rw [chunks_cons] at h
    have hbefore := ih (List.cons_eq_cons.1 h).2
    obtain ⟨x, x', t, t', rfl, rfl, hx, hx', hsame⟩ := hword.exists_opens hword'
    have hlength : (rest.take (measure c rest).2).length = (measure c rest).2 :=
      List.length_take_of_le (measure_le c rest)
    -- The characters behind the first one, up to the word, and from there on.
    have hrest : rest =
        (rest.take (measure c rest).2 ++ joined before) ++ x :: (t ++ joined after) := by
      have hdrop := hjoined.symm.trans (joined_append before (⟨shape, x :: t⟩ :: after))
      rw [List.append_assoc, ← List.cons_append, ← joined_cons ⟨shape, x :: t⟩, ← hdrop,
        List.take_append_drop]
    have hmeasure : measure c ((rest.take (measure c rest).2 ++ joined before) ++
        x' :: (t' ++ joined after)) = measure c rest := by
      conv_rhs => rw [hrest]
      refine measure_congr hx hx' hsame ?_
      rw [← hrest, List.length_append, hlength]
      exact Nat.le_add_right _ _
    rw [joined_cons, List.append_assoc, List.cons_append, ← List.append_assoc, List.cons_append,
      chunks_cons, hmeasure, List.append_assoc, List.take_left' hlength, List.drop_left' hlength]
    exact congrArg (List.cons _) hbefore

/-! ## In front of a word -/

namespace Chunk

/-- A string without its closing quote goes on to the end of its line. -/
theorem head?_drop_stringLength {quote : Char} {cs : List Char}
    (h : (stringLength quote cs).2 = false) :
    ∀ y ∈ (cs.drop (stringLength quote cs).1).head?, y = '\n' := by
  fun_induction stringLength quote cs with
  | case1 => exact fun y hy => absurd hy (Option.not_mem_none y)
  | case2 cs => exact fun y hy => (Option.some.inj hy).symm
  | case3 => cases h
  | case4 => exact fun y hy => absurd hy (Option.not_mem_none y)
  | case5 cs hline hne => exact fun y hy => (Option.some.inj hy).symm
  | case6 d ds hd n closed hn hline hne ih =>
    rw [hn] at ih
    exact ih h
  | case7 d cs hline hne hescape n closed hn ih =>
    rw [hn] at ih
    exact ih h

/-- A chunk that is no comment, no string and no word does not go on over what opens a word. -/
theorem opens_not_mem (h : IsPlain c rest) (hc : Text.startsWord c = false ∧ c ≠ '@')
    (hx : Opens x) : x ∉ rest.take (measure c rest).2 := by
  intro hmem
  obtain ⟨front, back, htake⟩ := List.append_of_mem hmem
  have hrest : rest = front ++ x :: (back ++ rest.drop (measure c rest).2) := by
    rw [← List.cons_append, ← List.append_assoc, ← htake, List.take_append_drop]
  have hle : (measure c rest).2 ≤ front.length := by
    rw [hrest] at h ⊢
    rw [(measure_append_of_isBoundary (h.of_append hx.isBoundary) hx.isBoundary (.inr hc) _).1]
    exact measure_le c front
  have hlength := congrArg List.length htake
  rw [List.length_append, List.length_cons, List.length_take_of_le (measure_le c rest)] at hlength
  omega

/-- In front of what starts like a word no chunk ends with what opens a word. -/
theorem not_opens_getLast? {y : Char} (hy : (rest.drop (measure c rest).2).head? = some y)
    (hstarts : Text.startsWord y = true) :
    ∀ z ∈ (c :: rest.take (measure c rest).2).getLast?, ¬Opens z := by
  have hnl : y ≠ '\n' := Text.ne_of_startsWord hstarts (by decide)
  rcases measure_cases c rest with ⟨rfl, hhead⟩ | ⟨rfl, body, rfl⟩ | hquote | hplain
  · -- Behind the comment the line ends.
    have hnot := List.head?_dropWhile_not (· ≠ '\n') rest
    rw [measure_eq_lineComment hhead, drop_spanLength] at hy
    rw [hy] at hnot
    exact absurd (by simpa using hnot) hnl
  · rw [measure_eq_blockComment] at hy ⊢
    cases hclosed : (commentLength body).2 with
    | true =>
      obtain ⟨inner, hinner, -⟩ := (commentLength_spec body).1 hclosed
      rw [List.take_succ_cons, hinner]
      rintro z hz hopens
      obtain rfl : '/' = z := by simpa [List.getLast?_cons] using hz
      exact hopens.ne (y := '/') (by decide) (by decide) rfl
    | false =>
      rw [(isComment_of_block body).2 hclosed] at hy
      cases hy
  · rw [measure_eq_string hquote] at hy ⊢
    cases hclosed : (stringLength c rest).2 with
    | true =>
      obtain ⟨inner, tail, rfl, -, hlength⟩ := exists_of_stringLength hclosed
      have htake : (inner ++ c :: tail).take (inner.length + 1) = inner ++ [c] := by
        rw [List.take_append, List.take_of_length_le (Nat.le_succ _)]
        simp
      rw [hlength, htake, ← List.cons_append, List.getLast?_concat]
      rintro z hz hopens
      obtain rfl := Option.some.inj hz
      rcases hquote with rfl | rfl
      · exact hopens.ne (y := '"') (by decide) (by decide) rfl
      · exact hopens.ne (y := '\'') (by decide) (by decide) rfl
    | false => exact absurd (head?_drop_stringLength hclosed y hy) hnl
  · by_cases hword : (measure c rest).1 = .word ∨ (measure c rest).1 = .directive
    · -- The word would go on.
      have hstop := (isWord_of_measure hword).2 y hy
      rw [Text.isWordChar_of_startsWord hstarts] at hstop
      cases hstop
    · have hc : Text.startsWord c = false ∧ c ≠ '@' := by
        constructor
        · by_contra hc
          exact hword (.inl (by rw [measure_of_startsWord (by simpa using hc)]))
        · rintro rfl
          rw [measure_marker] at hy hword
          split at hy
          · rename_i hhead
            exact hword (.inr (by rw [if_pos hhead]))
          · rename_i hhead
            exact hhead (by rw [← List.drop_zero (l := rest), hy]; exact hstarts)
      intro z hz hopens
      cases htake : rest.take (measure c rest).2 with
      | nil =>
        rw [htake] at hz
        obtain rfl : c = z := Option.some.inj hz
        exact hopens.elim (fun h => by rw [hc.1] at h; cases h) hc.2
      | cons d inner =>
        rw [htake, List.getLast?_cons_cons, ← htake] at hz
        exact opens_not_mem hplain hc hopens (List.mem_of_getLast? hz)

end Chunk

/-- Nothing that opens a word stands in front of a word, since this would be a part of it. -/
theorem not_opens_of_chunks {cs : List Char} {before after : List Chunk} {ch : Chunk}
    (h : chunks cs = before ++ ch :: after) (hshape : ch.shape = .word) :
    ∀ z ∈ (joined before).getLast?, ¬Opens z := by
  rcases List.eq_nil_or_concat before with rfl | ⟨before, last, rfl⟩
  · exact nofun
  obtain ⟨x, word, -, rfl, -⟩ := exists_measure (chunks_joined h)
  rw [List.concat_eq_append, List.append_assoc] at h
  obtain ⟨c, rest, -, rfl, hafter⟩ := exists_measure (chunks_joined h)
  rw [List.append_eq, List.nil_append, joined_cons] at hafter
  have hlast := not_opens_getLast? (by rw [← hafter]; rfl) (startsWord_of_measure hshape)
  rw [List.concat_eq_append, joined_append, joined_cons, joined_nil, List.append_nil,
    List.getLast?_append_of_ne_nil _ (List.cons_ne_nil _ _)]
  exact hlast

end SunLint
