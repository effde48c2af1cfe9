import SunLint.Proofs.Token.Neighbours

/-!
# Tokens on their own

Where a token ends is decided by what follows it, but its text is enough: read once more with a
blank behind it, or with nothing, it is the same token (`Token.IsApart`). So the tokens of a text
without lexical errors can be taken out of it and put together with blanks between them.

* `Chunk.measure_take`: what is no comment, no string and no word is measured in its own text as it
  was measured before;
* `Token.exists_isApart`: the tokens of a text without lexical errors stand apart;
* `tokenize_spaced`: with single blanks between them they are read as what they are.
-/

namespace SunLint

open Text (IsAtBlank)

namespace Chunk
variable {c : Char} {rest back : List Char}

/-! ## Chunks cut to size -/

theorem spanLength_take (p : Char → Bool) (cs : List Char) :
    spanLength p (cs.take (spanLength p cs)) = spanLength p cs := by
  rw [take_spanLength, spanLength, List.takeWhile_idem, spanLength]

theorem spanLength_of_head? {p : Char → Bool} {cs : List Char} (h : ∀ d ∈ cs.head?, p d = false) :
    spanLength p cs = 0 := by
  cases cs with
  | nil => rfl
  | cons d cs => simp [spanLength, h d rfl]

theorem numberLength_fraction {d : Char} (hd : d.isDigit = true) (ds : List Char) :
    numberLength ('.' :: d :: ds) = spanLength Char.isDigit ds + 2 := by
  have hdot : spanLength Char.isDigit ('.' :: d :: ds) = 0 := rfl
  rw [numberLength, hdot]
  simp only [List.drop_zero, hd, if_true]
  omega

/-- Behind its digits a number has a fraction, or it ends. -/
theorem numberLength_of_head? {cs : List Char} (h : ∀ d ∈ cs.head?, d.isDigit = false) :
    numberLength cs = 0 ∨ ∃ d ds, cs = '.' :: d :: ds ∧ d.isDigit = true := by
  rw [numberLength, spanLength_of_head? h, List.drop_zero]
  split
  · rename_i d ds
    split
    · rename_i hd
      exact .inr ⟨d, ds, rfl, hd⟩
    · exact .inl rfl
  · exact .inl rfl

theorem numberLength_append_of_digits {digits cs : List Char}
    (hdigits : ∀ d ∈ digits, d.isDigit = true) (hcs : ∀ d ∈ cs.head?, d.isDigit = false) :
    numberLength (digits ++ cs) = digits.length + numberLength cs := by
  have hwhole : spanLength Char.isDigit (digits ++ cs) = digits.length := by
    rw [spanLength, takeWhile_append_of_stop hdigits hcs]
  rw [numberLength, numberLength, hwhole, List.drop_left, spanLength_of_head? hcs, List.drop_zero]
  split
  · split <;> omega
  · rfl

theorem numberLength_take (cs : List Char) :
    numberLength (cs.take (numberLength cs)) = numberLength cs := by
  have hdigits : ∀ d ∈ cs.takeWhile Char.isDigit, d.isDigit = true :=
    fun _ => List.mem_takeWhile_imp
  have hstop : ∀ d ∈ (cs.dropWhile Char.isDigit).head?, d.isDigit = false := fun d hd => by
    have hnot := List.head?_dropWhile_not Char.isDigit cs
    rw [hd] at hnot
    simpa using hnot
  rw [← List.takeWhile_append_dropWhile (p := Char.isDigit) (l := cs)]
  generalize cs.takeWhile Char.isDigit = digits at hdigits ⊢
  generalize cs.dropWhile Char.isDigit = tail at hstop ⊢
  rw [numberLength_append_of_digits hdigits hstop, List.take_length_add_append]
  obtain hnone | ⟨d, ds, rfl, hd⟩ := numberLength_of_head? hstop
  · rw [hnone, List.take_zero, numberLength_append_of_digits hdigits (by simp)]
    rfl
  · have hdot (tail : List Char) : ∀ x ∈ ('.' :: tail).head?, x.isDigit = false := hstop
    rw [numberLength_fraction hd, List.take_succ_cons, List.take_succ_cons,
      numberLength_append_of_digits hdigits (hdot _), numberLength_fraction hd, spanLength_take]

theorem operatorLength_take (cs : List Char) :
    operatorLength (cs.take (operatorLength cs)) = operatorLength cs := by
  induction cs with
  | nil => rfl
  | cons c cs ih =>
    rw [operatorLength]
    split
    · rfl
    split
    · rfl
    · rename_i hoperator hcomment
      rw [List.take_succ_cons, operatorLength, if_neg hoperator, ih, if_neg]
      rw [List.head?_take]
      split
      · simp
      · exact hcomment

/-! ## Chunks that stand apart -/

/-- How far a chunk goes that is no comment, no string and no word, and what it is, is decided by
    its first character. -/
theorem exists_measure_eq (hc : Text.startsWord c = false ∧ c ≠ '@') :
    ∃ (shape : Shape) (length : List Char → Nat),
      (∀ cs, length (cs.take (length cs)) = length cs) ∧
        ∀ rest, IsPlain c rest → measure c rest = (shape, length rest) := by
  obtain ⟨hword, hmarker⟩ := hc
  by_cases hnl : c = '\n'
  · exact ⟨.newline, fun _ => 0, fun _ => rfl, fun rest h => by
      rw [measure, if_neg h.line, if_neg h.block, if_pos hnl]⟩
  by_cases hblank : Text.isBlank c = true
  · exact ⟨.blank, fun _ => 0, fun _ => rfl, fun rest h => by
      rw [measure, if_neg h.line, if_neg h.block, if_neg hnl, if_pos hblank]⟩
  by_cases hdigit : c.isDigit = true
  · exact ⟨.number, numberLength, numberLength_take, fun rest h => by
      rw [measure, if_neg h.line, if_neg h.block, if_neg hnl, if_neg hblank, if_neg h.string,
        if_pos hdigit]⟩
  cases hmark : markKind? c with
  | some kind =>
    exact ⟨.mark kind, fun _ => 0, fun _ => rfl, fun rest h => by
      rw [measure, if_neg h.line, if_neg h.block, if_neg hnl, if_neg hblank, if_neg h.string,
        if_neg hdigit, if_neg (by simp [hword]), hmark]⟩
  | none =>
    have hplain (rest : List Char) (h : IsPlain c rest) : measure c rest =
        if isOperatorChar c then (.operator, operatorLength rest) else (.stray, 0) := by
      have hdirective : ¬(decide (c = '@') && rest.head?.any Text.startsWord) = true := by
        simp [hmarker]
      rw [measure, if_neg h.line, if_neg h.block, if_neg hnl, if_neg hblank, if_neg h.string,
        if_neg hdigit, if_neg (by simp [hword]), hmark]
      exact if_neg hdirective
    by_cases hoperator : isOperatorChar c = true
    · exact ⟨.operator, operatorLength, operatorLength_take, fun rest h =>
        (hplain rest h).trans (if_pos hoperator)⟩
    · exact ⟨.stray, fun _ => 0, fun _ => rfl, fun rest h =>
        (hplain rest h).trans (if_neg hoperator)⟩

theorem IsPlain.take (h : IsPlain c rest) (n : Nat) : IsPlain c (rest.take n) := by
  refine ⟨?_, ?_, h.string⟩ <;> rw [List.head?_take] <;> split
  · simp
  · exact h.line
  · simp
  · exact h.block

/-- What is measured in a text is measured in no more than that of it. -/
theorem measure_take (h : IsPlain c rest) (hc : Text.startsWord c = false ∧ c ≠ '@') :
    measure c (rest.take (measure c rest).2) = measure c rest := by
  have hplain := h.take (measure c rest).2
  obtain ⟨shape, length, hlength, hmeasure⟩ := exists_measure_eq hc
  rw [hmeasure rest h] at hplain ⊢
  rw [hmeasure _ hplain, hlength]

/-- A string literal ends at its quote, whatever follows. -/
theorem measure_string_append (hquote : c = '"' ∨ c = '\'')
    (hclosed : (stringLength c rest).2 = true) (back : List Char) :
    measure c (rest.take (measure c rest).2 ++ back) = measure c rest := by
  rw [measure_eq_string hquote, measure_eq_string hquote]
  obtain ⟨inner, tail, rfl, -, hlength⟩ := exists_of_stringLength hclosed
  have htake : (inner ++ c :: tail).take (inner.length + 1) = inner ++ [c] := by
    rw [List.take_append, List.take_of_length_le (Nat.le_succ _)]
    simp
  rw [hlength, htake, List.append_assoc, List.singleton_append, hlength]

/-- A chunk without a defect that is no comment is read from its text, if a blank follows or
    nothing. -/
theorem chunks_take_append (hsound : (measure c rest).1.isSound = true)
    (hline : (measure c rest).1 ≠ .lineComment)
    (hblock : ∀ closed, (measure c rest).1 ≠ .blockComment closed) (hback : IsAtBlank back) :
    chunks (c :: rest.take (measure c rest).2 ++ back) =
      ⟨(measure c rest).1, c :: rest.take (measure c rest).2⟩ :: chunks back := by
  by_cases hword : (measure c rest).1 = .word ∨ (measure c rest).1 = .directive
  · exact (isWord_of_measure hword).1.chunks_append fun x hx =>
      Text.isWordChar_of_isBlank (hback x hx)
  have hmeasure : measure c (rest.take (measure c rest).2 ++ back) = measure c rest := by
    rcases measure_cases c rest with ⟨rfl, hhead⟩ | ⟨rfl, body, rfl⟩ | hquote | hplain
    · exact absurd (congrArg Prod.fst (measure_eq_lineComment hhead)) hline
    · exact absurd (congrArg Prod.fst (measure_eq_blockComment body)) (hblock _)
    · rw [measure_eq_string hquote] at hsound
      exact measure_string_append hquote hsound back
    · have hc : Text.startsWord c = false ∧ c ≠ '@' := by
        constructor
        · rw [← Bool.not_eq_true]
          exact fun hc => hword (.inl (congrArg Prod.fst (measure_of_startsWord hc rest)))
        · -- An at sign on its own is a stray character.
          rintro rfl
          rw [measure_marker] at hsound hword
          split at hsound
          · rename_i hhead
            exact hword (.inr (by rw [if_pos hhead]))
          · cases hsound
      cases back with
      | nil => rw [List.append_nil, measure_take hplain hc]
      | cons x back =>
        rw [(measure_append_of_isPlain (hplain.take _) (hback x rfl) back).1,
          measure_take hplain hc]
  have hlength : (rest.take (measure c rest).2).length = (measure c rest).2 :=
    List.length_take_of_le (measure_le c rest)
  rw [List.cons_append, chunks_cons, hmeasure, List.take_left' hlength, List.drop_left' hlength]

end Chunk

/-! ## Tokens that stand apart -/

variable {source : String} {t : Token}

/-- The token is read from its text, as a chunk of the shape, wherever a blank follows or nothing. -/
structure Token.IsApart (t : Token) (shape : Shape) : Prop where
  sound : shape.isSound = true
  /-- The text starts with no byte-order mark, which would be dropped at the start of a text. -/
  unmarked : t.text.toList.head? ≠ some '\ufeff'
  token : ∀ p, Placed.token? ⟨⟨shape, t.text.toList⟩, p⟩ = some ⟨t.kind, t.text, p⟩
  chunks : ∀ back, IsAtBlank back →
    chunks (t.text.toList ++ back) = ⟨shape, t.text.toList⟩ :: chunks back

/-- What token a chunk is does not depend on where it stands. -/
theorem Placed.token?_moved {ch : Chunk} {p : Position} (h : Placed.token? ⟨ch, p⟩ = some t)
    (q : Position) : Placed.token? ⟨ch, q⟩ = some ⟨t.kind, t.text, q⟩ := by
  obtain ⟨kind, hkind, rfl⟩ := Option.map_eq_some_iff.1 h
  exact congrArg (Option.map fun kind => Token.mk kind (String.ofList ch.text) q) hkind

/-- The tokens of a text without lexical errors stand apart. -/
theorem Token.exists_isApart (hs : (tokenize source).errors = [])
    (ht : t ∈ (placedChunks source).filterMap Placed.token?) : ∃ shape, t.IsApart shape := by
  obtain ⟨⟨ch, p⟩, hch, htoken⟩ := List.mem_filterMap.1 ht
  obtain ⟨hkind, htext, -⟩ := Placed.token?_eq_some htoken
  obtain ⟨before, after, hsplit, -⟩ := exists_of_mem_placeFrom hch
  obtain ⟨c, rest, -, rfl, -⟩ := exists_measure (chunks_joined hsplit)
  have hsound := errors_eq_nil_iff.1 hs _ (by rw [hsplit]; exact List.mem_append_right _ (.head _))
  have hcomment (shape : Shape) (h : (Chunk.measure c rest).1 = shape) :
      Placed.kind? ⟨⟨shape, c :: rest.take (Chunk.measure c rest).2⟩, p⟩ = some t.kind := h ▸ hkind
  refine ⟨_, hsound, ?_, fun p => ?_, fun back hback => ?_⟩
  · rw [htext]
    rintro ⟨⟩
    rw [Chunk.measure_byteOrderMark] at hsound
    cases hsound
  · rw [htext]
    exact Placed.token?_moved htoken p
  · rw [htext]
    exact Chunk.chunks_take_append hsound (fun h => nomatch hcomment _ h)
      (fun closed h => nomatch hcomment _ h) hback

/-! ## Tokens with blanks between them -/

/-- The texts of the tokens with single blanks between them. -/
def Token.spaced (l : List Token) : String := " ".intercalate (l.map (·.text))

theorem Token.toList_spaced (l : List Token) :
    (spaced l).toList = [' '].intercalate (l.map (·.text.toList)) := by
  rw [spaced, String.toList_intercalate, List.map_map]
  rfl

/-- Behind the first token there is a blank and then the others, or nothing. -/
theorem Token.toList_spaced_cons (t : Token) (rest : List Token) : ∃ back,
    (spaced (t :: rest)).toList = t.text.toList ++ back ∧
      (rest = [] ∧ back = [] ∨ back = ' ' :: (spaced rest).toList) := by
  cases rest with
  | nil => exact ⟨[], by simp [toList_spaced], .inl ⟨rfl, rfl⟩⟩
  | cons t' rest => exact ⟨_, by simp [toList_spaced], .inr rfl⟩

section Apart

variable {picked : List Token} (h : ∀ t ∈ picked, ∃ shape, t.IsApart shape)
include h

theorem body_spaced : Text.body (Token.spaced picked) = (Token.spaced picked).toList := by
  refine Text.body_of_head? ?_
  cases picked with
  | nil => nofun
  | cons t rest =>
    obtain ⟨shape, ht⟩ := h t (.head _)
    have hmark := ht.unmarked
    obtain ⟨back, hspaced, hback⟩ := Token.toList_spaced_cons t rest
    rw [hspaced]
    cases htext : t.text.toList with
    | nil => obtain ⟨-, rfl⟩ | rfl := hback <;> simp
    | cons c cs =>
      rw [htext] at hmark
      exact hmark

/-- Nothing is wrong with tokens that stand apart, and they are read as what they are. -/
theorem chunks_spaced :
    (∀ ch ∈ chunks (Token.spaced picked).toList, ch.shape.isSound = true) ∧
      ∀ p, (tokensFrom p (chunks (Token.spaced picked).toList)).map Token.content =
        picked.map Token.content := by
  induction picked with
  | nil => exact ⟨nofun, fun _ => rfl⟩
  | cons t rest ih =>
    rw [List.forall_mem_cons] at h
    obtain ⟨⟨shape, ht⟩, hrest⟩ := h
    obtain ⟨hsound, hcontent⟩ := ih hrest
    obtain ⟨back, hspaced, hback⟩ := Token.toList_spaced_cons t rest
    -- The blank in front of the other tokens is none, and nothing is wrong with it.
    have hothers : IsAtBlank back ∧ (∀ ch ∈ chunks back, ch.shape.isSound = true) ∧
        ∀ p, (tokensFrom p (chunks back)).map Token.content = rest.map Token.content := by
      obtain ⟨rfl, rfl⟩ | rfl := hback
      · exact ⟨by simp [IsAtBlank], nofun, fun _ => rfl⟩
      · rw [chunks_blank (by decide) (by decide)]
        refine ⟨fun x hx => ?_, List.forall_mem_cons.2 ⟨rfl, hsound⟩, fun p => ?_⟩
        · obtain rfl := Option.some.inj hx
          decide
        · rw [tokensFrom_cons]
          exact hcontent _
    obtain ⟨hblank, hsound, hcontent⟩ := hothers
    rw [hspaced, ht.chunks back hblank]
    refine ⟨List.forall_mem_cons.2 ⟨ht.sound, hsound⟩, fun p => ?_⟩
    rw [tokensFrom_cons, ht.token, List.map_append, hcontent]
    rfl

theorem errors_spaced : (tokenize (Token.spaced picked)).errors = [] :=
  errors_eq_nil_iff.2 (by rw [body_spaced h]; exact (chunks_spaced h).1)

theorem content_spaced : (tokenize (Token.spaced picked)).tokens.map Token.content =
    picked.map Token.content ++ [(.eof, "")] := by
  rw [tokens_tokenize, placedChunks, ← tokensFrom, body_spaced h, List.map_append,
    (chunks_spaced h).2]
  rfl

end Apart

/-- If nothing is wrong with a text, its tokens are read as what they are when they are put together
    with single blanks between them, and so they are in any other order, some of them more than
    once and others not at all: neither what stood between them matters nor what they stand next
    to. -/
theorem tokenize_spaced (source : String) (hs : (tokenize source).errors = []) :
    ∃ pieces p, (∀ t ∈ pieces, t.kind ≠ .eof) ∧ (tokenize source).tokens = pieces ++ [.eof p] ∧
      ((tokenize (Token.spaced pieces)).errors = [] ∧
        (tokenize (Token.spaced pieces)).tokens.map Token.content =
          (tokenize source).tokens.map Token.content) ∧
      ∀ picked, (∀ t ∈ picked, t ∈ pieces) → (tokenize (Token.spaced picked)).errors = [] ∧
        (tokenize (Token.spaced picked)).tokens.map Token.content =
          picked.map Token.content ++ [(.eof, "")] := by
  have hapart : ∀ t ∈ (placedChunks source).filterMap Placed.token?, ∃ shape, t.IsApart shape :=
    fun t ht => Token.exists_isApart hs ht
  refine ⟨_, _, kind_ne_eof source, rfl, ⟨errors_spaced hapart, ?_⟩, fun picked hpicked => ?_⟩
  · rw [content_spaced hapart, tokens_tokenize, List.map_append]
    rfl
  · have hpicked : ∀ t ∈ picked, ∃ shape, t.IsApart shape := fun t ht => hapart t (hpicked t ht)
    exact ⟨errors_spaced hpicked, content_spaced hpicked⟩

/-- A directive, a string with a quote in it, a line comment, a fraction, and an operator that a
    comment cuts short; then the same tokens from the last one to the first one. -/
theorem tokenize_spaced_of_comments : ∃ (source : String) (pieces : List Token),
    source = "@use \"a\\\"b\" // note\n  étage=1.5+/* c */x.y\t!== 'z'" ∧
    (tokenize source).errors = [] ∧
    Token.spaced pieces = "@use \"a\\\"b\" \n étage = 1.5 + x . y !== 'z'" ∧
    (tokenize (Token.spaced pieces)).tokens.map Token.content =
      (tokenize source).tokens.map Token.content ∧
    Token.spaced pieces.reverse = "'z' !== y . x + 1.5 = étage \n \"a\\\"b\" @use" ∧
    (tokenize (Token.spaced pieces.reverse)).tokens.map Token.content =
      pieces.reverse.map Token.content ++ [(.eof, "")] := by
  let source := "@use \"a\\\"b\" // note\n  étage=1.5+/* c */x.y\t!== 'z'"
  have hs : (tokenize source).errors = [] := by decide +kernel
  obtain ⟨pieces, p, -, htokens, ⟨-, hcontent⟩, hpicked⟩ := tokenize_spaced source hs
  have hpieces : pieces = (tokenize source).tokens.dropLast := by
    rw [htokens, List.dropLast_concat]
  refine ⟨source, pieces, rfl, hs, ?_, hcontent, ?_,
    (hpicked pieces.reverse fun t ht => List.mem_reverse.1 ht).2⟩
  · rw [hpieces]
    decide +kernel
  · rw [hpieces]
    decide +kernel

end SunLint
