import SunLint.Proofs.Token.Returns

/-!
# White space that carries no meaning

A text is tidied by dropping blanks at the ends of its lines, and perhaps line feeds behind other
line feeds (`Text.Tidied`). Whoever does so looks at lines and not at tokens; but white space at
the end of a line is part of a token only in a string that lacks its closing quote, and part of
something else only in a comment.

* `Text.Tidied.chunks`: the chunks of a tidied text are those of the text, but for blanks, line ends
  in a row, and what stands in comments (`Chunk.Tidied`), if the text has no lexical errors;
* `Text.Tidied.errors_eq_nil`, `Text.Tidied.outline_eq`: then the tidied text has none either, and
  its tokens are of the same kinds and texts, up to line ends in a row.
-/

namespace SunLint

/-! ## Tidied texts -/

namespace Text

variable {merges : Prop} {c x : Char} {cs ds l : List Char}

/-- The rest of the line is blank. -/
def IsBlankLine (cs : List Char) : Prop := ∀ x ∈ cs.takeWhile (· ≠ '\n'), isBlank x = true

/-- The second text is the first one without some of the blanks that end a line, and, if lines are
    merged, without some of the line feeds that another one precedes. -/
inductive Tidied (merges : Prop) : List Char → List Char → Prop
  | nil : Tidied merges [] []
  | keep (c : Char) {cs ds : List Char} (h : Tidied merges cs ds) :
    Tidied merges (c :: cs) (c :: ds)
  | trim {c : Char} {cs ds : List Char} (hblank : isBlank c = true) (hline : c ≠ '\n')
    (hend : IsBlankLine cs) (h : Tidied merges cs ds) : Tidied merges (c :: cs) ds
  | merge {cs ds : List Char} (hmerges : merges) (h : Tidied merges ('\n' :: cs) ds) :
    Tidied merges ('\n' :: '\n' :: cs) ds

/-- There is nothing ahead, or a blank. -/
def IsAtBlank (cs : List Char) : Prop := ∀ x ∈ cs.head?, isBlank x = true

theorem IsBlankLine.isAtBlank (h : IsBlankLine cs) : IsAtBlank cs := by
  intro x hx
  obtain ⟨rest, rfl⟩ := List.head?_eq_some_iff.1 hx
  by_cases hline : x = '\n'
  · rw [hline]
    decide
  · exact h x (by simp [hline])

/-- Before a character that is no blank the line is not at its end. -/
theorem not_isBlankLine (hl : '\n' ∉ l) (hx : isBlank x = false) (cs : List Char) :
    ¬ IsBlankLine (l ++ x :: cs) := by
  intro h
  have hmem : x ∈ (l ++ x :: cs).takeWhile (· ≠ '\n') := by
    have hline : x ≠ '\n' := by
      rintro rfl
      cases hx
    rw [List.takeWhile_append_of_pos fun y hy => by simpa using ne_of_mem_of_not_mem hy hl]
    simp [hline]
  rw [h x hmem] at hx
  cases hx

namespace Tidied

theorem refl (merges : Prop) (cs : List Char) : Tidied merges cs cs := by
  induction cs with
  | nil => exact .nil
  | cons c cs ih => exact .keep c ih

theorem append_left (h : Tidied merges cs ds) (l : List Char) :
    Tidied merges (l ++ cs) (l ++ ds) := by
  induction l with
  | nil => exact h
  | cons c l ih => exact .keep c ih

/-- Where the one text is at a blank or at its end so is the other one. -/
theorem isAtBlank (h : Tidied merges cs ds) (hcs : IsAtBlank cs) : IsAtBlank ds := by
  induction h with
  | nil => exact hcs
  | keep c h ih => exact fun x hx => hcs x hx
  | trim hblank hline hend h ih => exact ih hend.isAtBlank
  | merge hmerges h ih => exact ih fun x hx => hcs x hx

/-- Nothing is dropped on a line before a character that is no blank. -/
theorem of_append (hl : '\n' ∉ l) (hx : isBlank x = false)
    (h : Tidied merges (l ++ x :: cs) ds) :
    ∃ tail, ds = l ++ x :: tail ∧ Tidied merges cs tail := by
  induction l generalizing ds with
  | nil =>
    cases h with
    | keep _ h => exact ⟨_, rfl, h⟩
    | trim hblank =>
      rw [hx] at hblank
      cases hblank
    | merge => cases hx
  | cons c l ih =>
    obtain ⟨hc, hl⟩ := not_or.1 (mt List.mem_cons.2 hl)
    generalize htext : c :: l ++ x :: cs = text at h
    cases h with
    | nil => cases htext
    | keep _ h =>
      obtain ⟨rfl, rfl⟩ := List.cons_eq_cons.1 htext
      obtain ⟨tail, rfl, htail⟩ := ih hl h
      exact ⟨tail, rfl, htail⟩
    | trim hblank hline hend =>
      obtain ⟨rfl, rfl⟩ := List.cons_eq_cons.1 htext
      exact absurd hend (not_isBlankLine hl hx cs)
    | merge => exact absurd (List.cons_eq_cons.1 htext).1.symm hc

/-- The texts are the same up to the first blank. -/
theorem exists_append (h : Tidied merges cs ds) : ∃ l cs' ds', cs = l ++ cs' ∧ ds = l ++ ds' ∧
    Tidied merges cs' ds' ∧ IsAtBlank cs' ∧ IsAtBlank ds' := by
  induction h with
  | nil => exact ⟨[], [], [], rfl, rfl, .nil, nofun, nofun⟩
  | @keep c cs ds h ih =>
    by_cases hc : isBlank c = true
    · have hblank (l : List Char) : IsAtBlank (c :: l) := fun x hx => by
        obtain rfl := Option.some.inj hx
        exact hc
      exact ⟨[], _, _, rfl, rfl, .keep c h, hblank _, hblank _⟩
    · obtain ⟨l, cs', ds', hcs, hds, hrest⟩ := ih
      exact ⟨c :: l, cs', ds', congrArg _ hcs, congrArg _ hds, hrest⟩
  | @trim c cs ds hblank hline hend h =>
    have h' : Tidied merges (c :: cs) ds := .trim hblank hline hend h
    have hcs : IsAtBlank (c :: cs) := fun x hx => by
      obtain rfl := Option.some.inj hx
      exact hblank
    exact ⟨[], _, _, rfl, rfl, h', hcs, h'.isAtBlank hcs⟩
  | @merge cs ds hmerges h =>
    have h' : Tidied merges ('\n' :: '\n' :: cs) ds := .merge hmerges h
    have hcs : IsAtBlank ('\n' :: '\n' :: cs) := fun x hx => by
      obtain rfl := Option.some.inj hx
      decide
    exact ⟨[], _, _, rfl, rfl, h', hcs, h'.isAtBlank hcs⟩

/-- A character that is no blank is under both cursors, or under neither. -/
theorem head?_eq_iff (h : Tidied merges cs ds) (hx : isBlank x = false) :
    ds.head? = some x ↔ cs.head? = some x := by
  obtain ⟨l, cs', ds', rfl, rfl, -, hcs, hds⟩ := h.exists_append
  cases l with
  | nil =>
    refine iff_of_false (fun hhead => ?_) fun hhead => ?_
    · rw [hds x hhead] at hx
      cases hx
    · rw [hcs x hhead] at hx
      cases hx
  | cons c l => rfl

/-- The rest of the line is tidied, and so is what follows it. -/
theorem line (h : Tidied merges cs ds) :
    Tidied merges (cs.dropWhile (· ≠ '\n')) (ds.dropWhile (· ≠ '\n')) := by
  induction h with
  | nil => exact .nil
  | @keep c cs ds h ih =>
    by_cases hc : c = '\n'
    · rw [List.dropWhile_cons_of_neg (by simpa using hc),
        List.dropWhile_cons_of_neg (by simpa using hc)]
      exact .keep c h
    · rw [List.dropWhile_cons_of_pos (by simpa using hc),
        List.dropWhile_cons_of_pos (by simpa using hc)]
      exact ih
  | trim hblank hline hend h ih =>
    rw [List.dropWhile_cons_of_pos (by simpa using hline)]
    exact ih
  | merge hmerges h ih =>
    rw [List.dropWhile_cons_of_neg (by simp)] at ih ⊢
    exact .merge hmerges ih

/-- If no lines are merged then there are as many. -/
theorem count_eq (hm : ¬ merges) (h : Tidied merges cs ds) : ds.count '\n' = cs.count '\n' := by
  induction h with
  | nil => rfl
  | keep c h ih => rw [List.count_cons, List.count_cons, ih]
  | trim hblank hline hend h ih => rw [ih, List.count_cons_of_ne hline]
  | merge hmerges => exact absurd hmerges hm

end Tidied

end Text

open Text

/-! ## Tidied chunks -/

namespace Chunk

variable {merges : Prop} {cs ds : List Char}

theorem commentLength_cons {c : Char} (h : c = '*' → cs.head? ≠ some '/') :
    commentLength (c :: cs) = ((commentLength cs).1 + 1, (commentLength cs).2) :=
  commentLength.eq_2 _ _ fun _ hc hcs => h hc (hcs ▸ rfl)

/-- A block comment goes on to its first closing mark in both texts. -/
theorem commentLength_tidied (h : Text.Tidied merges cs ds)
    (hclosed : (commentLength cs).2 = true) : (commentLength ds).2 = true ∧
      Text.Tidied merges (cs.drop (commentLength cs).1) (ds.drop (commentLength ds).1) := by
  induction h with
  | nil => cases hclosed
  | @keep c cs ds h ih =>
    by_cases hend : c = '*' ∧ cs.head? = some '/'
    · obtain ⟨rfl, hhead⟩ := hend
      obtain ⟨tail, rfl⟩ := List.head?_eq_some_iff.1 hhead
      obtain ⟨tail', rfl, htail⟩ := Text.Tidied.of_append (l := []) (by simp) (by decide) h
      exact ⟨rfl, htail⟩
    · have hcs : c = '*' → cs.head? ≠ some '/' := not_and.1 hend
      have hds : c = '*' → ds.head? ≠ some '/' := fun hc =>
        mt (h.head?_eq_iff (by decide)).1 (hcs hc)
      rw [commentLength_cons hcs] at hclosed ⊢
      rw [commentLength_cons hds]
      exact ih hclosed
  | @trim c cs ds hblank hline hend h ih =>
    have hc : c = '*' → cs.head? ≠ some '/' := by
      rintro rfl
      cases hblank
    rw [commentLength_cons hc] at hclosed ⊢
    exact ih hclosed
  | @merge cs ds hmerges h ih =>
    rw [commentLength_cons (by simp)] at hclosed ⊢
    exact ih hclosed

/-- A string with its closing quote is the same whatever follows. -/
theorem exists_of_stringLength {quote : Char} (h : (stringLength quote cs).2 = true) :
    ∃ inner tail, cs = inner ++ quote :: tail ∧ '\n' ∉ inner ∧
      ∀ tail', stringLength quote (inner ++ quote :: tail') = (inner.length + 1, true) := by
  fun_induction stringLength quote cs with
  | case1 => cases h
  | case2 => cases h
  | case3 cs hnl =>
    refine ⟨[], cs, rfl, by simp, fun tail' => ?_⟩
    rw [List.nil_append, stringLength.eq_def]
    simp [hnl]
  | case4 => cases h
  | case5 => cases h
  | case6 d ds hd n closed hn hnl hne ih =>
    rw [hn] at ih
    obtain ⟨inner, tail, rfl, hinner, hlength⟩ := ih h
    refine ⟨'\\' :: d :: inner, tail, rfl, by simp [hinner, Ne.symm hd], fun tail' => ?_⟩
    rw [List.cons_append, List.cons_append, stringLength.eq_def]
    simp [hne, hd, hlength]
  | case7 c cs hnl hne hb n closed hn ih =>
    rw [hn] at ih
    obtain ⟨inner, tail, rfl, hinner, hlength⟩ := ih h
    refine ⟨c :: inner, tail, rfl, by simp [hinner, Ne.symm hnl], fun tail' => ?_⟩
    rw [List.cons_append, stringLength.eq_def]
    simp [hnl, hne, hb, hlength]

/-- What is no comment and no string does not go on to the next blank. -/
theorem measure_append_of_isAtBlank {c : Char} {l : List Char} (h : IsPlain c (l ++ cs))
    (hcs : IsAtBlank cs) : measure c (l ++ cs) = measure c l ∧ (measure c l).2 ≤ l.length := by
  have hl : IsPlain c l := by
    cases l with
    | nil => exact ⟨by simp, by simp, h.string⟩
    | cons d l => exact ⟨h.line, h.block, h.string⟩
  cases cs with
  | nil =>
    rw [List.append_nil]
    exact ⟨rfl, measure_le c l⟩
  | cons x cs => exact measure_append_of_isPlain hl (hcs x rfl) cs

/-- The second list of chunks is the first one without some of the blanks, and, if lines are
    merged, without some of the line ends that another one precedes. Comments may have lost
    blanks, but no line ends unless lines are merged. -/
inductive Tidied (merges : Prop) : List Chunk → List Chunk → Prop
  | nil : Tidied merges [] []
  | keep (ch : Chunk) {l l' : List Chunk} (h : Tidied merges l l') :
    Tidied merges (ch :: l) (ch :: l')
  | comment {shape : Shape} {text text' : List Char} {l l' : List Chunk}
    (hshape : shape = .lineComment ∨ shape = .blockComment true)
    (hlines : ¬ merges → text'.count '\n' = text.count '\n') (h : Tidied merges l l') :
    Tidied merges (⟨shape, text⟩ :: l) (⟨shape, text'⟩ :: l')
  | trim {c : Char} {l l' : List Chunk} (hline : c ≠ '\n') (h : Tidied merges l l') :
    Tidied merges (⟨.blank, [c]⟩ :: l) l'
  | merge {l l' : List Chunk} (hmerges : merges)
    (h : Tidied merges (⟨.newline, ['\n']⟩ :: l) l') :
    Tidied merges (⟨.newline, ['\n']⟩ :: ⟨.newline, ['\n']⟩ :: l) l'

end Chunk

/-- There is nothing wrong with a chunk of the shape. -/
def Shape.isSound : Shape → Bool
  | .blockComment closed | .string closed => closed
  | .stray => false
  | _ => true

theorem Placed.error?_eq_none_iff {ch : Placed} (hne : ch.text ≠ []) :
    ch.error? = none ↔ ch.shape.isSound = true := by
  obtain ⟨⟨shape, text⟩, p⟩ := ch
  obtain ⟨c, rest, rfl⟩ := List.exists_cons_of_ne_nil hne
  cases shape with
  | blockComment closed | string closed => cases closed <;> simp [error?, Shape.isSound]
  | _ => simp [error?, Shape.isSound]

theorem Placed.token?_comment {shape : Shape} {text : List Char} {p : Position}
    (h : shape = .lineComment ∨ shape = .blockComment true) :
    Placed.token? ⟨⟨shape, text⟩, p⟩ = none := by
  rcases h with rfl | rfl <;> rfl

theorem mem_of_mem_placeFrom {p : Position} {l : List Chunk} {ch : Placed}
    (h : ch ∈ placeFrom p l) : ch.toChunk ∈ l := by
  obtain ⟨before, after, rfl, -⟩ := exists_of_mem_placeFrom h
  exact List.mem_append_right _ List.mem_cons_self

theorem chunks_newline (cs : List Char) :
    chunks ('\n' :: cs) = ⟨.newline, ['\n']⟩ :: chunks cs := by
  rw [chunks_cons]
  rfl

theorem chunks_blank {c : Char} (hblank : Text.isBlank c = true) (hline : c ≠ '\n')
    (cs : List Char) : chunks (c :: cs) = ⟨.blank, [c]⟩ :: chunks cs := by
  have hmeasure : Chunk.measure c cs = (.blank, 0) := by
    have hslash : c ≠ '/' := (Text.ne_of_isBlank hblank (by decide)).symm
    simp [Chunk.measure, hslash, hline, hblank]
  rw [chunks_cons, hmeasure]
  rfl

namespace Chunk

section Measure

variable {merges : Prop} {c : Char} {cs ds : List Char}

/-- The first chunk of a tidied text is the one of the text, but for what a comment has lost. -/
structure IsTidied (merges : Prop) (c : Char) (cs ds : List Char) : Prop where
  shape : (measure c ds).1 = (measure c cs).1
  text : ((measure c cs).1 = .lineComment ∨ (measure c cs).1 = .blockComment true) ∨
    ds.take (measure c ds).2 = cs.take (measure c cs).2
  rest : Text.Tidied merges (cs.drop (measure c cs).2) (ds.drop (measure c ds).2)

theorem isTidied_lineComment (h : Text.Tidied merges cs ds) (hhead : cs.head? = some '/') :
    IsTidied merges '/' cs ds := by
  have hhead' : ds.head? = some '/' := (h.head?_eq_iff (by decide)).2 hhead
  refine ⟨?_, ?_, ?_⟩ <;> rw [measure_eq_lineComment hhead, measure_eq_lineComment hhead']
  · exact .inl (.inl rfl)
  · rw [drop_spanLength, drop_spanLength]
    exact h.line

theorem isTidied_blockComment (h : Text.Tidied merges ('*' :: cs) ds)
    (hclosed : (commentLength cs).2 = true) : IsTidied merges '/' ('*' :: cs) ds := by
  obtain ⟨ds, rfl, hds⟩ := Text.Tidied.of_append (l := []) (by simp) (by decide) h
  obtain ⟨hclosed', hrest⟩ := commentLength_tidied hds hclosed
  refine ⟨?_, ?_, ?_⟩ <;> rw [List.nil_append, measure_eq_blockComment, measure_eq_blockComment,
    hclosed, hclosed']
  · exact .inl (.inr rfl)
  · exact hrest

theorem isTidied_string (h : Text.Tidied merges cs ds) (hquote : c = '"' ∨ c = '\'')
    (hclosed : (stringLength c cs).2 = true) : IsTidied merges c cs ds := by
  have hblank : Text.isBlank c = false := by rcases hquote with rfl | rfl <;> decide
  obtain ⟨inner, tail, rfl, hinner, hlength⟩ := exists_of_stringLength hclosed
  obtain ⟨tail', rfl, htail⟩ := h.of_append hinner hblank
  have htake (tail : List Char) :
      (inner ++ c :: tail).take (inner.length + 1) = inner ++ [c] := by
    rw [List.take_append, List.take_of_length_le (Nat.le_succ _)]
    simp
  have hdrop (tail : List Char) : (inner ++ c :: tail).drop (inner.length + 1) = tail := by
    simp
  refine ⟨?_, ?_, ?_⟩ <;> rw [measure_eq_string hquote, measure_eq_string hquote, hlength, hlength]
  · exact .inr (by rw [htake, htake])
  · rwa [hdrop, hdrop]

theorem isTidied_of_isPlain (h : Text.Tidied merges cs ds) (hplain : IsPlain c cs) :
    IsTidied merges c cs ds := by
  have hplain' : IsPlain c ds :=
    ⟨by simpa [h.head?_eq_iff (x := '/') (by decide)] using hplain.line,
      by simpa [h.head?_eq_iff (x := '*') (by decide)] using hplain.block, hplain.string⟩
  obtain ⟨l, cs, ds, rfl, rfl, h, hcs, hds⟩ := h.exists_append
  obtain ⟨hmeasure, hle⟩ := measure_append_of_isAtBlank hplain hcs
  obtain ⟨hmeasure', -⟩ := measure_append_of_isAtBlank hplain' hds
  refine ⟨?_, ?_, ?_⟩ <;> rw [hmeasure, hmeasure']
  · exact .inr (by rw [List.take_append_of_le_length hle, List.take_append_of_le_length hle])
  · rw [List.drop_append_of_le_length hle, List.drop_append_of_le_length hle]
    exact h.append_left _

theorem isTidied_of_isSound (h : Text.Tidied merges cs ds)
    (hsound : (measure c cs).1.isSound = true) : IsTidied merges c cs ds := by
  rcases measure_cases c cs with ⟨rfl, hhead⟩ | ⟨rfl, body, rfl⟩ | hquote | hplain
  · exact isTidied_lineComment h hhead
  · exact isTidied_blockComment h hsound
  · rw [measure_eq_string hquote] at hsound
    exact isTidied_string h hquote hsound
  · exact isTidied_of_isPlain h hplain

/-- The lists of chunks that start with such a first chunk. -/
theorem Tidied.cons {l l' : List Chunk} (h : IsTidied merges c cs ds)
    (hcount : ¬ merges → ds.count '\n' = cs.count '\n') (hl : Tidied merges l l') :
    Tidied merges (⟨(measure c cs).1, c :: cs.take (measure c cs).2⟩ :: l)
      (⟨(measure c ds).1, c :: ds.take (measure c ds).2⟩ :: l') := by
  rw [h.shape]
  obtain hcomment | htext := h.text
  · refine .comment hcomment (fun hm => ?_) hl
    have hrest := h.rest.count_eq hm
    have hcount := hcount hm
    rw [← List.take_append_drop (measure c cs).2 cs,
      ← List.take_append_drop (measure c ds).2 ds, List.count_append, List.count_append,
      hrest, Nat.add_right_cancel_iff] at hcount
    rw [List.count_cons, List.count_cons, hcount]
  · rw [htext]
    exact .keep _ hl

end Measure

end Chunk

/-- If there is nothing wrong with the chunks of a text, then those of the tidied text are the same
    but for blanks, line ends in a row, and what stands in comments. -/
theorem Text.Tidied.chunks {merges : Prop} {cs ds : List Char} (h : Text.Tidied merges cs ds)
    (hsound : ∀ ch ∈ SunLint.chunks cs, ch.shape.isSound = true) :
    Chunk.Tidied merges (SunLint.chunks cs) (SunLint.chunks ds) := by
  induction hn : cs.length using Nat.strongRecOn generalizing cs ds with
  | _ n ih =>
    cases h with
    | nil => exact .nil
    | @keep c cs ds h =>
      rw [chunks_cons] at hsound ⊢
      rw [chunks_cons c ds]
      have hfirst := Chunk.isTidied_of_isSound h (hsound _ List.mem_cons_self)
      refine .cons hfirst (fun hm => h.count_eq hm) (ih _ ?_ hfirst.rest (fun ch hch => ?_) rfl)
      · rw [List.length_drop, ← hn, List.length_cons]
        omega
      · exact hsound ch (List.mem_cons_of_mem _ hch)
    | trim hblank hline hend h =>
      rw [chunks_blank hblank hline] at hsound ⊢
      exact .trim hline (ih _ (by simp [← hn]) h
        (fun ch hch => hsound ch (List.mem_cons_of_mem _ hch)) rfl)
    | merge hmerges h =>
      rw [chunks_newline, chunks_newline] at hsound ⊢
      refine .merge hmerges ?_
      rw [← chunks_newline]
      refine ih _ (by simp [← hn]) h (fun ch hch => ?_) rfl
      rw [chunks_newline] at hch
      exact hsound ch (List.mem_cons_of_mem _ hch)

/-! ## Tokens and errors of tidied texts -/

theorem errors_eq_nil_iff {source : String} : (tokenize source).errors = [] ↔
    ∀ ch ∈ chunks (Text.body source), ch.shape.isSound = true := by
  have hplaced : (∀ ch ∈ placedChunks source, ch.error? = none) ↔
      ∀ ch ∈ placedChunks source, ch.shape.isSound = true :=
    forall₂_congr fun ch hch =>
      Placed.error?_eq_none_iff (fits_of_mem_placedChunks hch).1
  rw [errors_tokenize, List.filterMap_eq_nil_iff, hplaced]
  constructor
  · intro h ch hch
    obtain ⟨placed, hmem, rfl⟩ := mem_placeFrom .start hch
    exact h placed hmem
  · intro h placed hmem
    exact h placed.toChunk (mem_of_mem_placeFrom hmem)

namespace Token

/-- What tokens say: their kinds and texts, with every run of line ends as one, and without the one
    in front of the end of the input. -/
def outline : List Token → List (Kind × String)
  | [] => []
  | t :: ts =>
    let rest := outline ts
    if t.kind = .newline ∧ rest.head?.any (fun r => r.1 = .newline ∨ r.1 = .eof) then rest
    else (t.kind, t.text) :: rest

theorem outline_cons_congr {t t' : Token} {ts ts' : List Token} (hkind : t'.kind = t.kind)
    (htext : t'.text = t.text) (h : outline ts' = outline ts) :
    outline (t' :: ts') = outline (t :: ts) := by
  rw [outline, outline, hkind, htext, h]

/-- Of two line ends in a row only one counts. -/
theorem outline_newline_newline {t t' : Token} (ht : t.kind = .newline)
    (ht' : t'.kind = .newline) (ts : List Token) :
    outline (t :: t' :: ts) = outline (t' :: ts) := by
  have hhead : (outline (t' :: ts)).head?.any
      (fun r => r.1 = .newline ∨ r.1 = .eof) = true := by
    rw [outline]
    split
    · rename_i h
      exact h.2
    · simp [ht']
  rw [outline, if_pos ⟨ht, hhead⟩]

/-- A line end does not count in front of the end of the input. -/
theorem outline_newline_eof {t : Token} (ht : t.kind = .newline) (p : Position) :
    outline [t, eof p] = outline [eof p] := by
  simp [outline, ht, eof]

theorem outline_append_congr (ts : List Token) {us us' : List Token}
    (h : outline us' = outline us) : outline (ts ++ us') = outline (ts ++ us) := by
  induction ts with
  | nil => exact h
  | cons t ts ih => exact outline_cons_congr rfl rfl ih

theorem outline_eof (p p' : Position) : outline [eof p] = outline [eof p'] := rfl

end Token

/-- The tokens of a list of chunks that starts at the position. -/
def tokensFrom (p : Position) (l : List Chunk) : List Token :=
  (placeFrom p l).filterMap Placed.token?

theorem tokensFrom_cons (p : Position) (ch : Chunk) (l : List Chunk) :
    tokensFrom p (ch :: l) =
      (Placed.token? ⟨ch, p⟩).toList ++ tokensFrom (p.after ch.text) l := by
  rw [tokensFrom, placeFrom]
  cases h : Placed.token? ⟨ch, p⟩ with
  | none => exact List.filterMap_cons_none h
  | some t => exact List.filterMap_cons_some h

/-- What the token says, wherever it stands. -/
def Token.content (t : Token) : Kind × String := (t.kind, t.text)

theorem map_content_tokensFrom (p p' : Position) (l : List Chunk) :
    (tokensFrom p l).map Token.content = (tokensFrom p' l).map Token.content := by
  induction l generalizing p p' with
  | nil => rfl
  | cons ch l ih =>
    have hkind : Placed.kind? ⟨ch, p⟩ = Placed.kind? ⟨ch, p'⟩ := rfl
    rw [tokensFrom_cons, tokensFrom_cons, List.map_append, List.map_append, ih _ (p'.after ch.text),
      Placed.token?, Placed.token?, hkind]
    cases Placed.kind? ⟨ch, p'⟩ <;> rfl

theorem tokensFrom_append (p : Position) (l r : List Chunk) :
    tokensFrom p (l ++ r) = tokensFrom p l ++ tokensFrom (p.after (joined l)) r := by
  rw [tokensFrom, placeFrom_append, List.filterMap_append]
  rfl

namespace Chunk.Tidied

variable {merges : Prop} {l l' : List Chunk} {ts ts' : List Token}

theorem outline (h : Chunk.Tidied merges l l') (hts : Token.outline ts' = Token.outline ts)
    (p p' : Position) : Token.outline (tokensFrom p' l' ++ ts') =
      Token.outline (tokensFrom p l ++ ts) := by
  induction h generalizing p p' with
  | nil => exact hts
  | keep ch h ih =>
    rw [tokensFrom_cons, tokensFrom_cons, Placed.token?, Placed.token?]
    cases hkind : Placed.kind? ⟨ch, p⟩ with
    | none =>
      have hkind' : Placed.kind? ⟨ch, p'⟩ = none := hkind
      rw [hkind']
      exact ih _ _
    | some kind =>
      have hkind' : Placed.kind? ⟨ch, p'⟩ = some kind := hkind
      rw [hkind']
      exact Token.outline_cons_congr rfl rfl (ih _ _)
  | comment hshape hlines h ih =>
    rw [tokensFrom_cons, tokensFrom_cons, Placed.token?_comment hshape,
      Placed.token?_comment hshape]
    exact ih _ _
  | trim hline h ih =>
    rw [tokensFrom_cons]
    exact ih _ _
  | merge hmerges h ih =>
    rw [ih (p.after ['\n']) p', tokensFrom_cons, tokensFrom_cons p, tokensFrom_cons]
    exact (Token.outline_newline_newline rfl rfl _).symm

/-- Nothing is wrong with what has been kept. -/
theorem isSound (h : Chunk.Tidied merges l l') (hl : ∀ ch ∈ l, ch.shape.isSound = true) :
    ∀ ch ∈ l', ch.shape.isSound = true := by
  induction h with
  | nil => exact nofun
  | keep ch h ih =>
    rw [List.forall_mem_cons] at hl ⊢
    exact ⟨hl.1, ih hl.2⟩
  | comment hshape hlines h ih =>
    rw [List.forall_mem_cons] at hl ⊢
    exact ⟨hl.1, ih hl.2⟩
  | trim hline h ih => exact ih fun ch hch => hl ch (List.mem_cons_of_mem _ hch)
  | merge hmerges h ih => exact ih fun ch hch => hl ch (List.mem_cons_of_mem _ hch)

end Chunk.Tidied

namespace Text.Tidied

variable {merges : Prop} {s t : String} (h : Tidied merges s.toList t.toList)
include h

/-- A byte-order mark at the start is kept. -/
theorem body : Tidied merges (Text.body s) (Text.body t) := by
  obtain ⟨hs, hmark⟩ | hs := Text.toList_cases s
  · have hmark' : t.toList.head? ≠ some '\ufeff' := mt (h.head?_eq_iff (by decide)).1 hmark
    rwa [Text.body_of_head? hmark', ← hs]
  · rw [hs] at h
    obtain ⟨tail, ht, htail⟩ := of_append (l := []) (by simp) (by decide) h
    have hbody : Text.body t = tail := by
      rw [Text.body, ht]
      rfl
    rwa [hbody]

/-- A tidied text has no lexical errors if the text has none. -/
theorem errors_eq_nil (hs : (tokenize s).errors = []) : (tokenize t).errors = [] :=
  errors_eq_nil_iff.2 ((h.body.chunks (errors_eq_nil_iff.1 hs)).isSound (errors_eq_nil_iff.1 hs))

/-- A tidied text says what the text says. -/
theorem outline_eq (hs : (tokenize s).errors = []) :
    Token.outline (tokenize t).tokens = Token.outline (tokenize s).tokens :=
  (h.body.chunks (errors_eq_nil_iff.1 hs)).outline (Token.outline_eof _ _) .start .start

end Text.Tidied

end SunLint
