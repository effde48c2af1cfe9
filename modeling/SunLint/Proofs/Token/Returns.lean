import SunLint.Analysis
import SunLint.Proofs.Token.Lines

/-!
# Carriage returns at line ends

A text is read again with a carriage return before every line feed. To the scanner a carriage
return is white space like any other. So the line end is one column further to the right, and two
kinds of chunks that go on to the end of their line take the carriage return with them: comments,
and strings that lack their closing quote. All other tokens are the same, and at the same place.

* `measure_addReturns`: how far a chunk reaches in the new text;
* `visibleFrom_addReturns`: the chunks of the new text, but for blanks;
* `tokenize_addReturns`: its tokens and its lexical errors.
-/

namespace SunLint

/-! ## Texts -/

/-- The text with a carriage return before every line feed. -/
def Text.addReturns : List Char → List Char
  | [] => []
  | c :: cs => if c = '\n' then '\r' :: '\n' :: addReturns cs else c :: addReturns cs

namespace Text

variable {cs : List Char}

theorem addReturns_newline (cs : List Char) :
    addReturns ('\n' :: cs) = '\r' :: '\n' :: addReturns cs := rfl

theorem addReturns_cons {c : Char} (hc : c ≠ '\n') (cs : List Char) :
    addReturns (c :: cs) = c :: addReturns cs := by
  rw [addReturns, if_neg hc]

theorem addReturns_append (cs ds : List Char) :
    addReturns (cs ++ ds) = addReturns cs ++ addReturns ds := by
  induction cs with
  | nil => rfl
  | cons c cs ih =>
    rw [List.cons_append, addReturns, addReturns, ih]
    split <;> rfl

theorem addReturns_eq_self (h : '\n' ∉ cs) : addReturns cs = cs := by
  induction cs with
  | nil => rfl
  | cons c cs ih =>
    rw [List.mem_cons, not_or] at h
    rw [addReturns_cons (Ne.symm h.1), ih h.2]

/-- A text is on one line, or there is a first line end in it. -/
theorem line_cases (cs : List Char) :
    '\n' ∉ cs ∨ ∃ line tail, cs = line ++ '\n' :: tail ∧ '\n' ∉ line := by
  by_cases h : '\n' ∈ cs
  · exact .inr (List.eq_append_cons_of_mem h)
  · exact .inl h

end Text

open Text

/-- In front of a line feed a carriage return changes nothing. -/
theorem Position.after_addReturns (p : Position) (cs : List Char) :
    p.after (addReturns cs) = p.after cs := by
  induction cs generalizing p with
  | nil => rfl
  | cons c cs ih =>
    rw [addReturns]
    split
    · rename_i hc
      subst hc
      rw [after_cons, after_cons, after_cons, ih]
      rfl
    · rw [after_cons, after_cons, ih]

theorem Position.line_after (p : Position) (cs : List Char) :
    (p.after cs).line = p.line + cs.count '\n' := by
  induction cs generalizing p with
  | nil => rfl
  | cons c cs ih =>
    rw [after_cons, ih, next]
    split
    · rename_i hc
      rw [hc, List.count_cons_self, Nat.add_assoc, Nat.add_comm 1]
    · rename_i hc
      rw [List.count_cons_of_ne hc]

/-! ## Chunks -/

/-- A chunk of the shape goes on to the end of its line. -/
def Shape.runsOn : Shape → Bool
  | .lineComment | .string false => true
  | _ => false

/-- A chunk of the shape is the same where there are carriage returns. -/
def Shape.isFixed : Shape → Bool
  | .newline | .lineComment | .blockComment _ | .string false => false
  | _ => true

theorem Shape.isFixed_of_ne {shape : Shape} (hnewline : shape ≠ .newline)
    (hblock : ∀ closed, shape ≠ .blockComment closed) (h : shape.runsOn = false) :
    shape.isFixed = true := by
  unfold isFixed
  split
  · contradiction
  · cases h
  · rename_i closed
    exact absurd rfl (hblock closed)
  · cases h
  · rfl

namespace Chunk

/-- A block comment takes all the line ends in it with it. -/
theorem commentLength_addReturns (cs : List Char) :
    commentLength (addReturns cs) =
      ((addReturns (cs.take (commentLength cs).1)).length, (commentLength cs).2) := by
  fun_induction commentLength cs with
  | case1 cs => rfl
  | case2 c cs hne n closed hn ih =>
    rw [hn] at ih
    rw [List.take_succ_cons]
    by_cases hc : c = '\n'
    · subst hc
      rw [addReturns_newline, addReturns_newline, commentLength.eq_2 _ _ (by simp),
        commentLength.eq_2 _ _ (by simp), ih]
      rfl
    · have hne' (ds : List Char) (hstar : c = '*') : addReturns cs ≠ '/' :: ds := by
        intro heq
        rcases cs with _ | ⟨d, cs⟩
        · cases heq
        · rw [addReturns] at heq
          split at heq
          · cases heq
          · exact hne cs hstar (by rw [(List.cons_eq_cons.1 heq).1])
      rw [addReturns_cons hc, addReturns_cons hc, commentLength.eq_2 _ _ hne', ih]
      rfl
  | case3 => rfl

/-- A string that lacks its closing quote takes a carriage return at the end of its line. -/
theorem stringLength_concat {quote : Char} (hquote : quote ≠ '\r') {line : List Char}
    (hline : '\n' ∉ line) : stringLength quote (line ++ ['\r']) =
      ((stringLength quote line).1 + (if (stringLength quote line).2 then 0 else 1),
        (stringLength quote line).2) := by
  fun_induction stringLength quote line with
  | case1 => simp [stringLength, hquote.symm]
  | case2 cs => simp at hline
  | case3 cs hnl => rw [List.cons_append, stringLength.eq_def]; simp [hnl]
  | case4 hnl hne => simp [stringLength, hne]
  | case5 cs hnl hne => simp at hline
  | case6 d ds hd n closed hn hnl hne ih =>
    rw [hn] at ih
    simp only [List.mem_cons, not_or] at hline
    rw [List.cons_append, List.cons_append, stringLength.eq_def]
    simp [hne, hd, ih hline.2.2, Nat.add_right_comm]
  | case7 c cs hnl hne hb n closed hn ih =>
    rw [hn] at ih
    rw [List.mem_cons, not_or] at hline
    rw [List.cons_append, stringLength.eq_def]
    simp [hnl, hne, hb, ih hline.2, Nat.add_right_comm]

/-- Without its closing quote a string takes all of its line. -/
theorem stringLength_of_open {quote : Char} {line : List Char} (hline : '\n' ∉ line)
    (hopen : (stringLength quote line).2 = false) :
    (stringLength quote line).1 = line.length := by
  fun_induction stringLength quote line <;> simp_all

theorem commentLength_le (cs : List Char) : (commentLength cs).1 ≤ cs.length := by
  fun_induction commentLength cs <;> simp_all

/-- No line end is needed to see the end of a chunk. -/
theorem measure_le (c : Char) (rest : List Char) : (measure c rest).2 ≤ rest.length := by
  rcases measure_cases c rest with ⟨rfl, hhead⟩ | ⟨rfl, body, rfl⟩ | hquote | hplain
  · rw [measure_eq_lineComment hhead]
    exact spanLength_le _ _
  · exact Nat.succ_le_succ (commentLength_le body)
  · rw [measure_eq_string hquote]
    exact stringLength_le _ _
  · exact (measure_append_of_isPlain (x := '\n') hplain (by decide) []).2

theorem IsPlain.runsOn_eq {c : Char} {rest : List Char} (h : IsPlain c rest) :
    (measure c rest).1.runsOn = false := by
  rw [measure, if_neg h.line, if_neg h.block, if_neg h.string]
  repeat' split
  all_goals rfl

theorem spanLength_line {line : List Char} (h : '\n' ∉ line) :
    spanLength (· ≠ '\n') line = line.length := by
  rw [spanLength, List.takeWhile_eq_self_iff.2]
  intro c hc
  simpa using fun heq : c = '\n' => h (heq ▸ hc)

/-- How far the chunk that starts with `c` reaches in the rest of a text, and how far with a
    carriage return before every line feed. -/
inductive Reaches (c : Char) (rest : List Char) (shape : Shape) : Prop
  /-- The chunk takes the carriage returns with it that are before the line feeds in it. -/
  | within (text more : List Char) (hrest : rest = text ++ more)
    (hmeasure : measure c rest = (shape, text.length))
    (hmeasure' : measure c (addReturns rest) = (shape, (addReturns text).length))
    (htext : '\n' ∈ text → ∃ closed, shape = .blockComment closed)
    (hshape : shape.runsOn = true → '\n' ∉ rest)
  /-- The chunk goes on to the end of its line, and takes the carriage return there with it. -/
  | across (line tail : List Char) (hrest : rest = line ++ '\n' :: tail) (hline : '\n' ∉ line)
    (hmeasure : measure c rest = (shape, line.length))
    (hmeasure' : measure c (addReturns rest) = (shape, line.length + 1))
    (hshape : shape.runsOn = true)

theorem not_mem_take {cs : List Char} (h : '\n' ∉ cs) (n : Nat) : '\n' ∉ cs.take n :=
  fun hmem => h (List.mem_of_mem_take hmem)

/-- There may be no line feed that a carriage return could stand before. -/
theorem reaches_of_not_mem (c : Char) {rest : List Char} (hrest : '\n' ∉ rest) :
    Reaches c rest (measure c rest).1 := by
  have hlength : (rest.take (measure c rest).2).length = (measure c rest).2 :=
    List.length_take_of_le (measure_le c rest)
  have hfree := not_mem_take hrest (measure c rest).2
  refine .within _ _ (List.take_append_drop (measure c rest).2 rest).symm (by rw [hlength]) ?_
    (fun h => absurd h hfree) fun _ => hrest
  rw [addReturns_eq_self hrest, addReturns_eq_self hfree, hlength]

theorem reaches_blockComment (body : List Char) :
    Reaches '/' ('*' :: body) (.blockComment (commentLength body).2) := by
  refine .within ('*' :: body.take (commentLength body).1) (body.drop (commentLength body).1)
    ?_ ?_ ?_ (fun _ => ⟨_, rfl⟩) nofun
  · rw [List.cons_append, List.take_append_drop]
  · rw [measure_eq_blockComment, List.length_cons, List.length_take_of_le (commentLength_le body)]
  · rw [addReturns_cons (by decide), addReturns_cons (by decide), measure_eq_blockComment,
      commentLength_addReturns]
    rfl

section

variable {line : List Char} (hline : '\n' ∉ line) (tail : List Char)
include hline

theorem addReturns_line :
    addReturns (line ++ '\n' :: tail) = (line ++ ['\r']) ++ '\n' :: addReturns tail := by
  rw [addReturns_append, addReturns_eq_self hline, addReturns_newline]
  simp

/-- The chunk ends before its line does. -/
theorem reaches_of_le {c : Char} {shape : Shape} {n : Nat} (hn : n ≤ line.length)
    (hshape : shape.runsOn = false) (h : measure c (line ++ '\n' :: tail) = (shape, n))
    (h' : measure c ((line ++ ['\r']) ++ '\n' :: addReturns tail) = (shape, n)) :
    Reaches c (line ++ '\n' :: tail) shape := by
  have hlength : (line.take n).length = n := List.length_take_of_le hn
  have hfree := not_mem_take hline n
  refine .within (line.take n) (line.drop n ++ '\n' :: tail) ?_ (by rw [h, hlength]) ?_
    (fun h => absurd h hfree) fun h => absurd h (by rw [hshape]; decide)
  · rw [← List.append_assoc, List.take_append_drop]
  · rw [addReturns_line hline, h', addReturns_eq_self hfree, hlength]

theorem reaches_lineComment (hhead : (line ++ '\n' :: tail).head? = some '/') :
    Reaches '/' (line ++ '\n' :: tail) .lineComment := by
  refine .across line tail rfl hline ?_ ?_ rfl
  · rw [measure_eq_lineComment hhead, spanLength_append (by decide), spanLength_line hline]
  · have hhead' : ((line ++ ['\r']) ++ '\n' :: addReturns tail).head? = some '/' := by
      rw [List.append_assoc, List.singleton_append, head?_append (by decide)]
      exact (head?_append (by decide) line tail).1 hhead
    rw [addReturns_line hline, measure_eq_lineComment hhead', spanLength_append (by decide),
      spanLength_line (by simpa using hline), List.length_append]
    rfl

theorem reaches_string {quote : Char} (hquote : quote = '"' ∨ quote = '\'') :
    Reaches quote (line ++ '\n' :: tail) (.string (stringLength quote line).2) := by
  have hne : quote ≠ '\r' := by rcases hquote with rfl | rfl <;> decide
  have hmeasure : measure quote (line ++ '\n' :: tail) =
      (.string (stringLength quote line).2, (stringLength quote line).1) := by
    rw [measure_eq_string hquote, stringLength_append]
  have hmeasure' : measure quote ((line ++ ['\r']) ++ '\n' :: addReturns tail) =
      (.string (stringLength quote line).2,
        (stringLength quote line).1 + if (stringLength quote line).2 then 0 else 1) := by
    rw [measure_eq_string hquote, stringLength_append, stringLength_concat hne hline]
  -- With its closing quote the string ends on its line, otherwise it takes all of it.
  cases hclosed : (stringLength quote line).2 with
  | true =>
    rw [hclosed] at hmeasure hmeasure'
    exact reaches_of_le hline tail (stringLength_le quote line) rfl hmeasure hmeasure'
  | false =>
    rw [hclosed, stringLength_of_open hline hclosed] at hmeasure hmeasure'
    exact .across line tail rfl hline hmeasure (by rw [addReturns_line hline, hmeasure']; rfl) rfl

theorem reaches_of_isPlain {c : Char} (h : IsPlain c (line ++ '\n' :: tail)) :
    Reaches c (line ++ '\n' :: tail) (measure c (line ++ '\n' :: tail)).1 := by
  have hplain : IsPlain c line := h.of_append (isBoundary_of_isBlank (by decide))
  -- A chunk like this ends at a line feed as well as at a carriage return.
  obtain ⟨hmeasure, hle⟩ := measure_append_of_isPlain (x := '\n') hplain (by decide) tail
  obtain ⟨hmeasure', -⟩ :=
    measure_append_of_isPlain (x := '\r') hplain (by decide) ('\n' :: addReturns tail)
  rw [hmeasure]
  refine reaches_of_le hline tail hle hplain.runsOn_eq hmeasure ?_
  rw [List.append_assoc, List.singleton_append, hmeasure']

end

theorem measure_addReturns (c : Char) (rest : List Char) :
    Reaches c rest (measure c rest).1 := by
  rcases line_cases rest with hrest | ⟨line, tail, rfl, hline⟩
  · exact reaches_of_not_mem c hrest
  rcases measure_cases c (line ++ '\n' :: tail) with ⟨rfl, hhead⟩ | ⟨rfl, body, hbody⟩ | hquote |
    hplain
  · rw [measure_eq_lineComment hhead]
    exact reaches_lineComment hline tail hhead
  · rw [hbody, measure_eq_blockComment]
    exact reaches_blockComment body
  · rw [measure_eq_string hquote, stringLength_append]
    exact reaches_string hline tail hquote
  · exact reaches_of_isPlain hline tail hplain

theorem eq_of_measure_newline {c : Char} {rest : List Char} (h : (measure c rest).1 = .newline) :
    c = '\n' := by
  by_contra hc
  rw [measure] at h
  simp only [hc, if_false] at h
  repeat' split at h
  all_goals cases h

end Chunk

open Chunk

/-! ## Places -/

/-- The chunk as it is where a carriage return is before every line feed, in a text that has so
    many lines. -/
def Placed.addReturn (lines : Nat) (ch : Placed) : Placed :=
  match ch.shape with
  | .newline => { ch with position := ch.position.next '\r' }
  | .blockComment _ => { ch with text := addReturns ch.text }
  | shape =>
    if shape.runsOn && ch.position.line < lines then { ch with text := ch.text ++ ['\r'] } else ch

@[simp]
theorem Placed.shape_addReturn (lines : Nat) (ch : Placed) :
    (ch.addReturn lines).shape = ch.shape := by
  rw [addReturn]
  split
  · rfl
  · rfl
  · split <;> rfl

theorem Placed.addReturn_of_runsOn {lines : Nat} {ch : Placed} (h : ch.shape.runsOn = true) :
    ch.addReturn lines =
      if ch.position.line < lines then { ch with text := ch.text ++ ['\r'] } else ch := by
  rw [addReturn]
  split
  · rename_i hshape
    rw [hshape] at h
    cases h
  · rename_i hshape
    rw [hshape] at h
    cases h
  · simp only [h, Bool.true_and, decide_eq_true_eq]

theorem Placed.addReturn_eq_self {lines : Nat} {ch : Placed} (h : ch.shape.isFixed = true) :
    ch.addReturn lines = ch := by
  rw [addReturn]
  split
  · rename_i hshape
    rw [hshape] at h
    cases h
  · rename_i hshape
    rw [hshape] at h
    cases h
  · have hruns : ch.shape.runsOn = false := by
      cases hshape : ch.shape with
      | string closed =>
        rw [hshape] at h
        cases closed with
        | true => rfl
        | false => cases h
      | lineComment =>
        rw [hshape] at h
        cases h
      | _ => rfl
    rw [hruns]
    rfl

/-- The chunks of a text that starts at `p`, but for blanks, at their places. -/
def visibleFrom (p : Position) (cs : List Char) : List Placed :=
  (placeFrom p (chunks cs)).filter fun ch => ch.shape ≠ .blank

theorem visibleFrom_newline (p : Position) (cs : List Char) :
    visibleFrom p ('\n' :: cs) =
      ⟨⟨.newline, ['\n']⟩, p⟩ :: visibleFrom (p.next '\n') cs := by
  rw [visibleFrom, chunks_cons]
  rfl

theorem visibleFrom_return (p : Position) (cs : List Char) :
    visibleFrom p ('\r' :: cs) = visibleFrom (p.next '\r') cs := by
  rw [visibleFrom, chunks_cons]
  rfl

theorem visibleFrom_measure {c : Char} {shape : Shape} {text more : List Char}
    (h : measure c (text ++ more) = (shape, text.length)) (p : Position) :
    visibleFrom p (c :: (text ++ more)) =
      [(⟨⟨shape, c :: text⟩, p⟩ : Placed)].filter (fun ch => ch.shape ≠ .blank) ++
        visibleFrom (p.after (c :: text)) more := by
  rw [visibleFrom, chunks_cons, h, List.take_left, List.drop_left, placeFrom, List.filter_cons,
    List.filter_cons]
  split <;> rfl

/-- The first chunk of a text takes the carriage returns with it that are before the line feeds
    in it, if it does not take the one at the end of its line. -/
theorem addReturn_within {c : Char} {shape : Shape} {text more : List Char} {lines : Nat}
    {p : Position} (hc : c ≠ '\n') (hnewline : shape ≠ .newline)
    (htext : '\n' ∈ text → ∃ closed, shape = .blockComment closed)
    (hshape : shape.runsOn = true → '\n' ∉ text ++ more)
    (h : (p.after (c :: (text ++ more))).line = lines) :
    (⟨⟨shape, c :: text⟩, p⟩ : Placed).addReturn lines = ⟨⟨shape, c :: addReturns text⟩, p⟩ := by
  by_cases hblock : ∃ closed, shape = .blockComment closed
  · obtain ⟨closed, rfl⟩ := hblock
    rw [← addReturns_cons hc]
    rfl
  · rw [addReturns_eq_self fun hmem => hblock (htext hmem)]
    cases hruns : shape.runsOn with
    | true =>
      -- The text is on its last line.
      rw [Position.line_after, List.count_cons_of_ne hc,
        List.count_eq_zero_of_not_mem (hshape hruns)] at h
      rw [Placed.addReturn_of_runsOn hruns]
      exact if_neg (Nat.not_lt.2 (Nat.le_of_eq h.symm))
    | false =>
      exact Placed.addReturn_eq_self
        (Shape.isFixed_of_ne hnewline (fun closed heq => hblock ⟨closed, heq⟩) hruns)

/-- The first chunk takes no carriage return with it but those inside of it. -/
theorem visibleFrom_within {c : Char} {shape : Shape} {text more : List Char} {lines : Nat}
    {p : Position} (hc : c ≠ '\n') (hnewline : shape ≠ .newline)
    (htext : '\n' ∈ text → ∃ closed, shape = .blockComment closed)
    (hshape : shape.runsOn = true → '\n' ∉ text ++ more)
    (h : (p.after (c :: (text ++ more))).line = lines)
    (hmeasure : measure c (text ++ more) = (shape, text.length))
    (hmeasure' : measure c (addReturns (text ++ more)) = (shape, (addReturns text).length))
    (hmore : visibleFrom (p.after (c :: text)) (addReturns more) =
      (visibleFrom (p.after (c :: text)) more).map (·.addReturn lines)) :
    visibleFrom p (c :: addReturns (text ++ more)) =
      (visibleFrom p (c :: (text ++ more))).map (·.addReturn lines) := by
  have hfirst := addReturn_within hc hnewline htext hshape h
  rw [addReturns_append] at hmeasure' ⊢
  rw [visibleFrom_measure hmeasure, visibleFrom_measure hmeasure', List.map_append, ← hmore,
    Position.after_cons, Position.after_addReturns, Position.after_cons]
  congr 1
  by_cases hblank : shape = .blank
  · simp [hblank]
  · simp [hblank, hfirst]

/-- The first chunk takes the carriage return at the end of its line with it. -/
theorem visibleFrom_across {c : Char} {shape : Shape} {line tail : List Char} {lines : Nat}
    {p : Position} (hline : '\n' ∉ line) (hshape : shape.runsOn = true) (hlines : p.line < lines)
    (hmeasure : measure c (line ++ '\n' :: tail) = (shape, line.length))
    (hmeasure' : measure c (addReturns (line ++ '\n' :: tail)) = (shape, line.length + 1))
    (htail : visibleFrom (p.after (c :: (line ++ ['\n']))) (addReturns tail) =
      (visibleFrom (p.after (c :: (line ++ ['\n']))) tail).map (·.addReturn lines)) :
    visibleFrom p (c :: addReturns (line ++ '\n' :: tail)) =
      (visibleFrom p (c :: (line ++ '\n' :: tail))).map (·.addReturn lines) := by
  have hfirst : (⟨⟨shape, c :: line⟩, p⟩ : Placed).addReturn lines =
      ⟨⟨shape, c :: (line ++ ['\r'])⟩, p⟩ := by
    rw [Placed.addReturn_of_runsOn hshape]
    exact if_pos hlines
  have hblank : shape ≠ .blank := by
    rintro rfl
    cases hshape
  rw [Position.after_cons, Position.after_append, Position.after_cons, Position.after_nil] at htail
  rw [addReturns_line hline] at hmeasure' ⊢
  rw [show line.length + 1 = (line ++ ['\r']).length by simp] at hmeasure'
  rw [visibleFrom_measure hmeasure, visibleFrom_measure hmeasure', visibleFrom_newline,
    visibleFrom_newline, List.map_append, List.map_cons, Position.after_cons,
    Position.after_append, Position.after_cons]
  congr 1
  · simp [hblank, hfirst]
  · exact congrArg (List.cons _) htail

/-- The chunks of a text are those of the text with carriage returns, but for blanks. -/
theorem visibleFrom_addReturns {lines : Nat} {p : Position} {cs : List Char}
    (h : (p.after cs).line = lines) :
    visibleFrom p (addReturns cs) = (visibleFrom p cs).map (·.addReturn lines) := by
  -- What is behind the first chunk is shorter than the text.
  induction hn : cs.length using Nat.strongRecOn generalizing p cs with
  | _ n ih =>
    cases cs with
    | nil => rfl
    | cons c rest =>
      rw [List.length_cons] at hn
      by_cases hc : c = '\n'
      · subst hc
        rw [addReturns_newline, visibleFrom_return, visibleFrom_newline, visibleFrom_newline,
          List.map_cons]
        congr 1
        exact ih rest.length (by omega) h rfl
      have hnewline : (measure c rest).1 ≠ .newline := fun h => hc (eq_of_measure_newline h)
      rw [addReturns_cons hc]
      generalize hs : (measure c rest).1 = shape at hnewline
      have hreaches := hs ▸ measure_addReturns c rest
      cases hreaches with
      | within text more hrest hmeasure hmeasure' htext hshape =>
        subst hrest
        refine visibleFrom_within hc hnewline htext hshape h hmeasure hmeasure' ?_
        rw [List.length_append] at hn
        rw [← List.cons_append, Position.after_append] at h
        exact ih more.length (by omega) h rfl
      | across line tail hrest hline hmeasure hmeasure' hshape =>
        subst hrest
        have hlines : p.line < lines := by
          rw [Position.line_after, List.count_cons_of_ne hc, List.count_append,
            List.count_cons_self] at h
          omega
        refine visibleFrom_across hline hshape hlines hmeasure hmeasure' ?_
        rw [List.length_append, List.length_cons] at hn
        rw [show c :: (line ++ '\n' :: tail) = (c :: (line ++ ['\n'])) ++ tail by simp,
          Position.after_append] at h
        exact ih tail.length (by omega) h rfl

/-! ## Tokens and lexical errors -/

/-- The token is a string that lacks its closing quote, on a line that is not the last one. -/
def Token.isOpen (lines : Nat) (t : Token) : Bool :=
  t.kind = .string && t.text ≠ "" && !isQuoted t.text.toList && t.position.line < lines

/-- The token as it is in the text with carriage returns. -/
def Token.addReturn (lines : Nat) (t : Token) : Token :=
  if t.kind = .newline then { t with position := t.position.next '\r' }
  else if t.isOpen lines then { t with text := t.text ++ "\r" }
  else t

/-- The error as it is in the text with carriage returns. -/
def LexicalError.addReturn (lines : Nat) (e : LexicalError) : LexicalError :=
  if e.code = .unterminatedString ∧ e.position.line < lines then { e with length := e.length + 1 }
  else e

namespace Placed

variable {lines : Nat} {ch : Placed}

/-- Only a line end is read as one. -/
theorem kind?_ne_newline (hfits : ∃ rest, ch.Fits rest) (h : ch.shape ≠ .newline) :
    ch.kind? ≠ some .newline := by
  obtain ⟨rest, hfits⟩ := hfits
  intro hkind
  rw [kind?] at hkind
  rw [Chunk.Fits] at hfits
  split at hkind
  · contradiction
  · cases hkind
  · cases hkind
  · cases hword : Kind.ofWord? (String.ofList ch.text) with
    | none => simp [hword] at hkind
    | some keyword =>
      have hspelling := Kind.spelling?_of_ofWord? hword
      rw [hword] at hkind
      cases Option.some.inj hkind
      cases hspelling
  · rename_i kind hshape
    rw [hshape] at hfits
    cases hkind
    cases hfits
  · cases hkind
  · split at hkind <;> cases hkind
  all_goals cases hkind

/-- Tokens are the same unless they are line ends or strings. -/
theorem token?_eq_addReturn (hfits : ∃ rest, ch.Fits rest) (hnewline : ch.shape ≠ .newline)
    (hstring : ∀ closed, ch.shape ≠ .string closed) :
    ch.token?.map (·.addReturn lines) = ch.token? := by
  cases htoken : ch.token? with
  | none => rfl
  | some t =>
    have hkind := (token?_eq_some htoken).1
    have hne : t.kind ≠ .newline := fun h => kind?_ne_newline hfits hnewline (h ▸ hkind)
    have hopen : t.isOpen lines = false := by
      obtain ⟨rest, hfits⟩ := hfits
      have hkind' : t.kind ≠ .string := fun h =>
        let ⟨closed, hshape⟩ := (hasKind_of_kind? hfits hkind).string_iff.1 h
        hstring closed hshape
      simp [Token.isOpen, hkind']
    rw [Option.map_some, Token.addReturn, if_neg hne, hopen]
    rfl

theorem token?_addReturn_string (hne : ch.text ≠ []) (hfits : ∃ rest, ch.Fits rest)
    {closed : Bool} (hshape : ch.shape = .string closed) :
    (ch.addReturn lines).token? = ch.token?.map (·.addReturn lines) := by
  obtain ⟨rest, hquoted⟩ := hfits
  rw [Chunk.Fits, hshape] at hquoted
  have htoken (ch : Placed) (hshape : ch.shape = .string closed) :
      ch.token? = some ⟨.string, String.ofList ch.text, ch.position⟩ := by
    rw [token?, kind?, hshape]
    rfl
  have hopen : Token.isOpen lines ⟨.string, String.ofList ch.text, ch.position⟩ =
      (!closed && decide (ch.position.line < lines)) := by
    have hne' : String.ofList ch.text ≠ "" := by simpa using hne
    simp [Token.isOpen, hne', hquoted]
  rw [htoken ch hshape, htoken _ (by rw [shape_addReturn, hshape]), Option.map_some,
    Token.addReturn, if_neg (by simp), hopen]
  cases closed with
  | true =>
    rw [addReturn_eq_self (by rw [hshape]; rfl)]
    rfl
  | false =>
    rw [addReturn_of_runsOn (by rw [hshape]; rfl)]
    by_cases hline : ch.position.line < lines <;> simp [hline, String.ofList_append]

theorem token?_addReturn (hne : ch.text ≠ []) (hfits : ∃ rest, ch.Fits rest) :
    (ch.addReturn lines).token? = ch.token?.map (·.addReturn lines) := by
  cases hshape : ch.shape with
  | string closed => exact token?_addReturn_string hne hfits hshape
  | newline => simp [addReturn, token?, kind?, hshape, Token.addReturn]
  | lineComment => simp [token?, kind?, hshape]
  | blockComment closed => simp [token?, kind?, hshape]
  | blank | number | word | mark kind | directive | operator | stray =>
    rw [token?_eq_addReturn hfits (by simp [hshape]) (by simp [hshape]),
      addReturn_eq_self (by rw [hshape]; rfl)]

theorem addReturn_strayError (c : Char) (p : Position) :
    (strayError c p).addReturn lines = strayError c p := by
  refine if_neg fun h => ?_
  have hstray := (isStray_strayError c p).1
  rw [LexicalError.isStray, h.1] at hstray
  cases hstray

theorem error?_addReturn (hne : ch.text ≠ []) :
    (ch.addReturn lines).error? = ch.error?.map (·.addReturn lines) := by
  obtain ⟨c, rest, htext⟩ := List.exists_cons_of_ne_nil hne
  cases hshape : ch.shape with
  | string closed =>
    cases closed with
    | true => simp [addReturn_eq_self, error?, hshape, Shape.isFixed]
    | false =>
      rw [addReturn_of_runsOn (by rw [hshape]; rfl)]
      by_cases hline : ch.position.line < lines <;>
        simp [hline, error?, hshape, htext, LexicalError.addReturn]
  | blockComment closed =>
    cases closed <;> simp [addReturn, error?, hshape, LexicalError.addReturn]
  | stray =>
    rw [addReturn_eq_self (by rw [hshape]; rfl)]
    simp [error?, hshape, htext, addReturn_strayError]
  | newline => simp [addReturn, error?, hshape]
  | blank | lineComment | number | word | mark kind | directive | operator =>
    simp [error?, hshape]

end Placed

/-! ## Streams -/

/-- Every chunk of a text is what its shape says. -/
theorem fits_of_mem_placedChunks {source : String} {ch : Placed}
    (h : ch ∈ placedChunks source) : ch.text ≠ [] ∧ ∃ rest, ch.Fits rest := by
  have htiles : Tiles (Text.body source) 0 (tilesFrom 0 (placedChunks source)) :=
    tiles_tilesFrom (Nat.zero_le _)
  rw [← map_toPlaced_tilesFrom 0 (placedChunks source)] at h
  obtain ⟨tile, htile, rfl⟩ := List.mem_map.1 h
  obtain ⟨-, hin⟩ := htiles.isIn tile htile
  obtain ⟨rest, -, hfits⟩ := hin.fits
  exact ⟨hin.ne_nil, rest, hfits⟩

theorem Text.body_addReturns (source : String) :
    Text.body (String.ofList (addReturns source.toList)) = addReturns (Text.body source) := by
  rw [Text.body, Text.body, String.toList_ofList]
  cases hsource : source.toList with
  | nil => rfl
  | cons c cs =>
    by_cases hc : c = '\n'
    · subst hc
      rfl
    rw [addReturns_cons hc]
    by_cases hmark : c = '\ufeff'
    · subst hmark
      rfl
    · simp [hmark, addReturns_cons hc]

/-- Blanks are no tokens, and nothing is wrong with them. -/
theorem filterMap_visible {α : Type} (f : Placed → Option α)
    (hf : ∀ ch : Placed, ch.shape = .blank → f ch = none) (p : Position) (cs : List Char) :
    (placeFrom p (chunks cs)).filterMap f = (visibleFrom p cs).filterMap f := by
  rw [visibleFrom, List.filterMap_filter]
  refine List.filterMap_congr fun ch _ => ?_
  by_cases hblank : ch.shape = .blank
  · simp [hblank, hf ch hblank]
  · simp [hblank]

/-- The tokens and the lexical errors of a text with carriage returns are those of the text. Line
    ends are further to the right, and what is open takes the carriage return with it. -/
theorem tokenize_addReturns (source : String) :
    let lines := (Text.pieces source.toList).length
    (tokenize (String.ofList (addReturns source.toList))).tokens =
        (tokenize source).tokens.map (·.addReturn lines) ∧
      (tokenize (String.ofList (addReturns source.toList))).errors =
        (tokenize source).errors.map (·.addReturn lines) := by
  intro lines
  have hvisible : visibleFrom .start (addReturns (Text.body source)) =
      (visibleFrom .start (Text.body source)).map (·.addReturn lines) :=
    visibleFrom_addReturns <| by
      rw [Position.line_after]
      exact (Nat.add_comm ..).trans (Text.count_body source)
  have hmem {ch : Placed} (h : ch ∈ visibleFrom .start (Text.body source)) :
      ch.text ≠ [] ∧ ∃ rest, ch.Fits rest := fits_of_mem_placedChunks (List.mem_of_mem_filter h)
  have htoken (ch : Placed) (h : ch.shape = .blank) : ch.token? = none := by
    rw [Placed.token?, Placed.kind?, h]
    rfl
  have herror (ch : Placed) (h : ch.shape = .blank) : ch.error? = none := by
    rw [Placed.error?, h]
  rw [tokens_tokenize, tokens_tokenize, errors_tokenize, errors_tokenize, placedChunks,
    placedChunks, Text.body_addReturns, Position.after_addReturns, filterMap_visible _ htoken,
    filterMap_visible _ htoken, filterMap_visible _ herror, filterMap_visible _ herror, hvisible,
    List.filterMap_map, List.filterMap_map, List.map_append, List.map_filterMap,
    List.map_filterMap]
  refine ⟨congrArg₂ (· ++ ·) (List.filterMap_congr fun ch h => ?_) rfl,
    List.filterMap_congr fun ch h => Placed.error?_addReturn (hmem h).1⟩
  exact Placed.token?_addReturn (hmem h).1 (hmem h).2

end SunLint
