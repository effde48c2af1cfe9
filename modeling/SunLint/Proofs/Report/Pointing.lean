import SunLint.Analysis
import SunLint.Editor.ClientDiagnostic
import SunLint.Proofs.Parser.Anchors
import SunLint.Report.Snippet

/-!
# What findings point at

A finding names a line and a column that were counted while the text was cut into chunks. Those
who show it look the line up in the document again: the snippet puts a caret under the column, and
for editors the column is counted in units of UTF-16. The three agree on the character if the
position is that of its index in the document (`Finding.PointsAt`).

* `Text.getElem?_pieces`: the line around a place in a text, whatever its line ends are;
* `Finding.pointsAt`: whatever has the position of a character points at it, unless the character
  belongs to a line end;
* `Finding.pointsAt_of_body`: a byte-order mark at the start of the document is not counted in
  positions, so on its line the character before is pointed at;
* `analyze_points`: lexical and syntax errors point at the text that they are about, but for that.
-/

namespace SunLint

/-! ## Lines -/

namespace Text

/-- What stands behind the last line feed. -/
def lastLine (cs : List Char) : List Char := (cs.reverse.takeWhile (· ≠ '\n')).reverse

theorem lastLine_concat (cs : List Char) (c : Char) :
    lastLine (cs ++ [c]) = if c = '\n' then [] else lastLine cs ++ [c] := by
  simp only [lastLine, List.reverse_append, List.reverse_singleton, List.singleton_append,
    List.takeWhile_cons]
  split <;> simp_all

theorem lastLine_append {text : List Char} (h : '\n' ∉ text) (front : List Char) :
    lastLine (front ++ text) = lastLine front ++ text := by
  induction text using List.reverseRecOn with
  | nil => rw [List.append_nil, List.append_nil]
  | append_singleton text c ih =>
    rw [List.mem_append, List.mem_singleton, not_or] at h
    rw [← List.append_assoc, lastLine_concat, if_neg (Ne.symm h.2), ih h.1, List.append_assoc]

theorem mem_getLast?_lastLine {cs : List Char} {c : Char} :
    c ∈ (lastLine cs).getLast? ↔ c ∈ cs.getLast? ∧ c ≠ '\n' := by
  rcases List.eq_nil_or_concat cs with rfl | ⟨cs, d, rfl⟩
  · simp [lastLine]
  · rw [List.concat_eq_append, lastLine_concat, List.getLast?_concat]
    split
    · rename_i hd
      simp [hd, eq_comm]
    · rename_i hd
      rw [List.getLast?_concat, Option.mem_some_iff, iff_self_and]
      rintro rfl
      exact hd

theorem getElem?_pieces_zero (cs : List Char) :
    (pieces cs)[0]? = some (cs.takeWhile (· ≠ '\n')) := by
  induction cs with
  | nil => rfl
  | cons c cs ih =>
    rw [pieces, List.takeWhile_cons]
    cases h : pieces cs with
    | nil => exact absurd h (pieces_ne_nil cs)
    | cons piece rest =>
      rw [h] at ih
      split <;> simp_all

/-- The line around a place in a text: what stands in front of it behind the last line feed, and
    what follows up to the next one. -/
theorem getElem?_pieces (front back : List Char) :
    (pieces (front ++ back))[front.count '\n']? =
      some (lastLine front ++ back.takeWhile (· ≠ '\n')) := by
  induction front using List.reverseRecOn generalizing back with
  | nil => exact getElem?_pieces_zero back
  | append_singleton front c ih =>
    rw [List.append_assoc, List.singleton_append, List.count_append, lastLine_concat]
    by_cases hc : c = '\n'
    · rw [hc, pieces_append, List.getElem?_append_right (by rw [length_pieces]; rfl),
        length_pieces, if_pos rfl]
      simpa using getElem?_pieces_zero back
    · have hcount : List.count '\n' [c] = 0 := by simp [hc]
      rw [hcount, Nat.add_zero, ih, if_neg hc, List.takeWhile_cons_of_pos (by simpa using hc),
        List.append_assoc, List.singleton_append]

theorem dropReturn_append {c : Char} (hc : c ≠ '\r') (before after : List Char) :
    ∃ after', after' <+: after ∧ dropReturn (before ++ c :: after) = before ++ c :: after' := by
  rcases List.eq_nil_or_concat after with rfl | ⟨after, d, rfl⟩
  · exact ⟨[], List.prefix_rfl, by simp [dropReturn, hc]⟩
  · by_cases hd : d = '\r'
    · exact ⟨after, by simp, by simp [dropReturn, hd]⟩
    · exact ⟨after ++ [d], by simp, by simp [dropReturn, hd]⟩

theorem getElem?_closedLines {ls : List (List Char)} {k : Nat} {l : List Char}
    (h : ls[k]? = some l) (hl : l ≠ []) :
    (closedLines ls)[k]? = some l ∨ (closedLines ls)[k]? = some (dropReturn l) := by
  fun_induction closedLines ls generalizing k with
  | case1 => cases h
  | case2 last hempty =>
    -- The last piece is a line unless it is empty.
    cases k with
    | zero => exact absurd ((Option.some.inj h).symm.trans (List.isEmpty_iff.1 hempty)) hl
    | succ k => cases h
  | case3 last hempty => exact .inl h
  | case4 piece rest hrest ih =>
    cases k with
    | zero => exact .inr (congrArg (some <| dropReturn ·) (Option.some.inj h))
    | succ k => exact ih h

theorem unitColumn_eq {cs : List Char} {n : Nat} (h : n ≤ cs.length) :
    unitColumn cs n = unitCount (cs.take n) := by
  induction cs generalizing n with
  | nil =>
    obtain rfl := Nat.le_zero.1 h
    rfl
  | cons c cs ih =>
    cases n with
    | zero => rfl
    | succ n => rw [unitColumn, ih (Nat.le_of_succ_le_succ h), List.take_succ_cons]; rfl

section Around

/- A place in a document, and the character `c` further on in the same line, which is no part of its
end. -/
variable {source : String} {front more rest : List Char} {c : Char}
  (h : source.toList = front ++ (more ++ c :: rest)) (hmore : ∀ d ∈ more, d ≠ '\n')
  (hline : c ≠ '\n') (hreturn : c ≠ '\r')
include h hmore hline

theorem getElem?_pieces_around : (pieces source.toList)[front.count '\n']? =
    some (lastLine front ++ more ++ c :: rest.takeWhile (· ≠ '\n')) := by
  rw [h, getElem?_pieces, List.takeWhile_append_of_pos (by simpa using hmore),
    List.takeWhile_cons_of_pos (by simpa using hline), List.append_assoc]

include hreturn

/-- The line of the document around the place. -/
theorem sourceLine_around : ∃ tail, sourceLine source (front.count '\n' + 1) =
    some (String.ofList (lastLine front ++ more ++ c :: tail)) := by
  obtain ⟨tail, -, hdrop⟩ :=
    dropReturn_append hreturn (lastLine front ++ more) (rest.takeWhile (· ≠ '\n'))
  refine ⟨tail, ?_⟩
  rw [sourceLine, if_neg (Nat.succ_ne_zero _), Nat.add_sub_cancel,
    getElem?_pieces_around h hmore hline, Option.map_some, hdrop]

/-- The line around the place for editors, which may have a carriage return at its end. -/
theorem lines_around : ∃ tail, tail <+: rest ∧ (lines source.toList)[front.count '\n']? =
    some (lastLine front ++ more ++ c :: tail) := by
  have hpiece := getElem?_pieces_around h hmore hline
  rcases getElem?_closedLines hpiece (by simp) with hlines | hlines
  · exact ⟨_, List.takeWhile_prefix _, hlines⟩
  · obtain ⟨tail, htail, hdrop⟩ :=
      dropReturn_append hreturn (lastLine front ++ more) (rest.takeWhile (· ≠ '\n'))
    exact ⟨tail, htail.trans (List.takeWhile_prefix _), hdrop ▸ hlines⟩

omit hmore hline hreturn in
/-- What stands in the line behind the text in front of the place is what stands there in the
    document. -/
theorem getElem?_around (tail : List Char) :
    (lastLine front ++ more ++ c :: tail)[(lastLine front).length]? =
      source.toList[front.length]? := by
  rw [h, List.append_assoc, List.getElem?_append_right (Nat.le_refl _),
    List.getElem?_append_right (Nat.le_refl _), Nat.sub_self, Nat.sub_self]
  cases more <;> rfl

end Around

/-- The line around a text that stands on one line. -/
theorem lines_around_text {source : String} {front text back : List Char}
    (h : source.toList = front ++ text ++ back) (hne : text ≠ [])
    (hends : ∀ c ∈ text, c ≠ '\n' ∧ c ≠ '\r') : ∃ tail, tail <+: back ∧
      (lines source.toList)[front.count '\n']? = some (lastLine front ++ text ++ tail) := by
  obtain ⟨more, c, rfl⟩ : ∃ more c, text = more ++ [c] :=
    ⟨_, _, (List.dropLast_append_getLast hne).symm⟩
  rw [List.append_assoc, List.append_assoc, List.singleton_append] at h
  obtain ⟨hline, hreturn⟩ := hends c (List.mem_append_right _ (List.mem_singleton_self c))
  obtain ⟨tail, htail, hlines⟩ :=
    lines_around h (fun d hd => (hends d (List.mem_append_left _ hd)).1) hline hreturn
  refine ⟨tail, htail, ?_⟩
  rw [hlines, List.append_assoc, List.append_assoc, List.append_assoc, List.singleton_append]

end Text

/-! ## Positions -/

namespace Position

theorem ofIndex_append (front back : List Char) :
    ofIndex (front ++ back) front.length =
      ⟨front.count '\n' + 1, (Text.lastLine front).length + 1⟩ := by
  simp [ofIndex, Text.lastLine]

/-- On the first line columns are counted from the start of the text. -/
theorem ofIndex_of_not_mem {front : List Char} (h : '\n' ∉ front) (back : List Char) :
    ofIndex (front ++ back) front.length = ⟨1, front.length + 1⟩ := by
  have hall : ∀ c ∈ front.reverse, c ≠ '\n' := fun c hc =>
    ne_of_mem_of_not_mem (List.mem_reverse.1 hc) h
  rw [ofIndex_append, List.count_eq_zero.2 h, Text.lastLine,
    List.takeWhile_eq_self_iff.2 (by simpa using hall), List.reverse_reverse]

/-- Behind a line end it does not matter what stands in front of the text. -/
theorem ofIndex_cons {front : List Char} (h : '\n' ∈ front) {c : Char} (hc : c ≠ '\n')
    (back : List Char) :
    ofIndex (c :: front ++ back) (front.length + 1) = ofIndex (front ++ back) front.length := by
  have hne : (front.reverse.takeWhile (· ≠ '\n')).length ≠ front.reverse.length := fun heq => by
    have hself := List.IsPrefix.eq_of_length (List.takeWhile_prefix _) heq
    simpa using List.takeWhile_eq_self_iff.1 hself _ (List.mem_reverse.2 h)
  have hlast : Text.lastLine (c :: front) = Text.lastLine front := by
    rw [Text.lastLine, List.reverse_cons, List.takeWhile_append, if_neg hne, Text.lastLine]
  rw [← List.length_cons, ofIndex_append, ofIndex_append, List.count_cons_of_ne hc, hlast]

end Position

/-! ## Findings -/

/-- The finding points at the character of that index. The line that it names is there, and the
    character stands in the column that it names, so that the caret of the snippet is under the
    character; the range that is published starts at the character. -/
structure Finding.PointsAt (source : String) (f : Finding) (i : Nat) : Prop where
  position : f.position = .ofIndex source.toList i
  sourceLine : ∃ l, Text.sourceLine source f.position.line = some (String.ofList l) ∧
    l[f.position.column - 1]? = source.toList[i]? ∧
    Snippet.render source f.position = String.ofList l ++ "\n" ++
      String.ofList (List.replicate (f.position.column - 1) ' ') ++ "^"
  published : ∃ l, (Text.lines source.toList)[f.position.line - 1]? = some l ∧
    l[f.position.column - 1]? = source.toList[i]? ∧
    ∀ uri sourceName, (ClientDiagnostic.ofDiagnostic uri source
      (Diagnostic.ofFinding source sourceName f)).range.start =
        ⟨f.position.line - 1, Text.unitCount (l.take (f.position.column - 1))⟩

open Text in
/-- A finding points at a character if it has its position, and the line goes on at least up to
    a character that is no part of a line end. -/
theorem Finding.pointsAt {source : String} {f : Finding} {front more rest : List Char} {c : Char}
    (h : source.toList = front ++ (more ++ c :: rest)) (hmore : ∀ d ∈ more, d ≠ '\n')
    (hline : c ≠ '\n') (hreturn : c ≠ '\r')
    (hf : f.position = .ofIndex source.toList front.length) : f.PointsAt source front.length := by
  have hposition : f.position = ⟨front.count '\n' + 1, (lastLine front).length + 1⟩ := by
    rw [hf, h, Position.ofIndex_append]
  refine ⟨hf, ?_, ?_⟩ <;> rw [hposition] <;> simp only [Nat.add_sub_cancel]
  · obtain ⟨tail, hsource⟩ := sourceLine_around h hmore hline hreturn
    refine ⟨_, hsource, getElem?_around h tail, ?_⟩
    rw [Snippet.render, hsource]
    rfl
  · obtain ⟨tail, -, hlines⟩ := lines_around h hmore hline hreturn
    refine ⟨_, hlines, getElem?_around h tail, fun uri sourceName => ?_⟩
    have hstart : (ClientDiagnostic.ofDiagnostic uri source
        (Diagnostic.ofFinding source sourceName f)).range.start =
          Place.inUnits source ⟨f.position.line - 1, f.position.column - 1⟩ := rfl
    have hle : (lastLine front).length ≤ (lastLine front ++ more ++ c :: tail).length := by
      simp only [List.length_append, Nat.add_assoc]
      exact Nat.le_add_right _ _
    rw [hstart, hposition, Place.inUnits, Nat.add_sub_cancel, Nat.add_sub_cancel, hlines,
      ← unitColumn_eq hle]
    rfl

theorem Finding.pointsAt_of_eq {source : String} {f : Finding} {front rest : List Char} {c : Char}
    (h : source.toList = front ++ c :: rest) (hline : c ≠ '\n') (hreturn : c ≠ '\r')
    (hf : f.position = .ofIndex source.toList front.length) : f.PointsAt source front.length :=
  have hmore : source.toList = front ++ ([] ++ c :: rest) := h
  pointsAt hmore (fun _ hd => absurd hd List.not_mem_nil) hline hreturn hf

/-- If one character on the first line is not counted, the character before is pointed at. -/
theorem Finding.pointsAt_of_cons {source : String} {f : Finding} {front rest : List Char}
    {x c : Char} (h : source.toList = x :: front ++ c :: rest) (hno : '\n' ∉ x :: front)
    (hline : c ≠ '\n') (hreturn : c ≠ '\r') (hf : f.position = ⟨1, front.length + 1⟩) :
    f.PointsAt source front.length := by
  obtain ⟨init, y, hinit⟩ : ∃ init y, x :: front = init ++ [y] :=
    ⟨_, _, (List.dropLast_append_getLast (List.cons_ne_nil _ _)).symm⟩
  have hlength : front.length = init.length := by simpa using congrArg List.length hinit
  rw [hinit] at h hno
  rw [List.append_assoc] at h
  rw [hlength] at hf ⊢
  refine pointsAt h (fun d hd => ne_of_mem_of_not_mem (List.mem_append_right _ hd) hno) hline
    hreturn ?_
  rw [hf, h, Position.ofIndex_of_not_mem fun hmem => hno (List.mem_append_left _ hmem)]

/-! ## Chunks -/

namespace Chunk

/-- A line feed is a chunk of its own, and a carriage return is white space. -/
theorem measure_of_lineEnd {c : Char} (h : c = '\n' ∨ c = '\r') (rest : List Char) :
    (measure c rest).1 = .newline ∨ (measure c rest).1 = .blank := by
  obtain rfl | rfl := h
  · exact .inl rfl
  · exact .inr rfl

theorem measure_blockComment {c : Char} {rest : List Char} {closed : Bool}
    (h : (measure c rest).1 = .blockComment closed) : ∃ rest', c = '/' ∧ rest = '*' :: rest' := by
  by_cases hblock : (c = '/' && rest.head? = some '*') = true
  · obtain ⟨hc, hhead⟩ : c = '/' ∧ rest.head? = some '*' := by simpa using hblock
    obtain ⟨rest', hrest⟩ := List.head?_eq_some_iff.1 hhead
    exact ⟨rest', hc, hrest⟩
  · rw [measure] at h
    simp only [hblock, Bool.false_eq_true, if_false] at h
    repeat' split at h
    all_goals cases h

theorem measure_string {c : Char} {rest : List Char} {closed : Bool}
    (h : (measure c rest).1 = .string closed) : c = '"' ∨ c = '\'' := by
  by_cases hquote : (c = '"' || c = '\'') = true
  · simpa using hquote
  · rw [measure] at h
    simp only [hquote, Bool.false_eq_true, if_false] at h
    repeat' split at h
    all_goals cases h

end Chunk

/-- Every chunk is cut out of the text behind the text that leads to its position. -/
theorem exists_cut_of_mem_placeFrom {p : Position} {cs : List Char} {ch : Placed}
    (h : ch ∈ placeFrom p (chunks cs)) :
    ∃ front c rest, cs = front ++ c :: rest ∧ ch.position = p.after front ∧
      ch.toChunk = ⟨(Chunk.measure c rest).1, c :: rest.take (Chunk.measure c rest).2⟩ := by
  obtain ⟨before, after, hchunks, hposition⟩ := exists_of_mem_placeFrom h
  obtain ⟨c, rest, hrest, hchunk, -⟩ := exists_measure (chunks_joined hchunks)
  refine ⟨joined before, c, rest, ?_, hposition, hchunk⟩
  rw [← hrest, ← joined_append, ← hchunks, joined_chunks]

/-! ## The text that an error is about -/

/-- The text is what the lexical error is about, as its code says: the mark that opens a comment,
    a string from its quote up to where it breaks off, or the character that is described. -/
def LexicalError.IsAbout (e : LexicalError) (text : List Char) : Prop :=
  text.length = e.length ∧
  match e.code with
  | .unterminatedComment => text = ['/', '*']
  | .unterminatedString =>
    (text.head? = some '"' ∨ text.head? = some '\'') ∧ Chunk.isQuoted text = false
  | _ => ∃ c, text = [c] ∧ e = Placed.strayError c e.position

namespace Placed

theorem isAbout_strayError (c : Char) (p : Position) : (strayError c p).IsAbout [c] := by
  have hself : strayError c p = strayError c (strayError c p).position := by
    rw [(isStray_strayError c p).2.1]
  have hcode : (strayError c p).code = .unexpectedCharacter ∨
      (strayError c p).code = .invalidEncoding := by
    simpa [LexicalError.isStray] using (isStray_strayError c p).1
  refine ⟨(isStray_strayError c p).2.2.symm, ?_⟩
  obtain hcode | hcode := hcode <;> rw [hcode] <;> exact ⟨c, rfl, hself⟩

/-- An error is about the start of its chunk. -/
theorem isAbout_of_error? {c : Char} {rest : List Char} {p : Position} {e : LexicalError}
    (h : error? ⟨⟨(Chunk.measure c rest).1, c :: rest.take (Chunk.measure c rest).2⟩, p⟩ = some e) :
    ∃ text tail, c :: rest = text ++ tail ∧ text.head? = some c ∧ e.IsAbout text := by
  have hfits := Chunk.fits_measure c rest
  unfold error? at h
  split at h
  · rename_i hshape
    obtain ⟨rest', rfl, rfl⟩ := Chunk.measure_blockComment hshape
    obtain rfl := Option.some.inj h
    exact ⟨['/', '*'], rest', rfl, rfl, rfl, rfl⟩
  · rename_i quote inner hshape htext
    obtain ⟨rfl, rfl⟩ := List.cons_eq_cons.1 htext
    obtain rfl := Option.some.inj h
    refine ⟨c :: rest.take (Chunk.measure c rest).2, rest.drop (Chunk.measure c rest).2, ?_, rfl,
      rfl, ?_, ?_⟩
    · rw [List.cons_append, List.take_append_drop]
    · exact (Chunk.measure_string hshape).imp (congrArg some) (congrArg some)
    · simp only at hshape
      rwa [hshape] at hfits
  · rename_i d more hshape htext
    obtain ⟨rfl, rfl⟩ := List.cons_eq_cons.1 htext
    obtain rfl := Option.some.inj h
    exact ⟨[c], rest, rfl, rfl, isAbout_strayError c p⟩
  · cases h

end Placed

/-! ## Documents -/

/-- How many of the characters in front of the position are on its line and not counted in its
    column: the byte-order mark is not. -/
def Text.uncounted (source : String) (p : Position) : Nat :=
  if source.toList.head? = some '\ufeff' ∧ p.line = 1 then 1 else 0

theorem Text.uncounted_of_mark {source : String} {cs : List Char} {p : Position}
    (h : source.toList = '\ufeff' :: cs) : uncounted source p = if p.line = 1 then 1 else 0 := by
  simp [uncounted, h]

/-- What has the position of a character behind the mark points at the character in the document,
    or at the one before it if the mark is on the same line. -/
theorem Finding.pointsAt_of_body {source : String} {front rest : List Char} {c : Char}
    (h : Text.body source = front ++ c :: rest) (hline : c ≠ '\n') (hreturn : c ≠ '\r') :
    ∃ front', source.toList = front' ++ c :: rest ∧ ∀ f : Finding,
      f.position = Position.start.after front →
        f.PointsAt source (front'.length - Text.uncounted source f.position) := by
  have hafter : Position.start.after front = .ofIndex (front ++ c :: rest) front.length := by
    rw [← Position.start_after_take, List.take_left]
  obtain ⟨hbody, hhead⟩ | hmark := Text.toList_cases source
  · rw [h] at hbody
    refine ⟨front, hbody, fun f hf => ?_⟩
    rw [Text.uncounted, if_neg fun hmark => hhead hmark.1]
    exact pointsAt_of_eq hbody hline hreturn (by rw [hf, hafter, hbody])
  · have hsource : source.toList = '\ufeff' :: front ++ c :: rest := by rw [hmark, h]; rfl
    refine ⟨'\ufeff' :: front, hsource, fun f hf => ?_⟩
    rw [Text.uncounted_of_mark hmark, List.length_cons]
    by_cases hnl : '\n' ∈ front
    · have hne : f.position.line ≠ 1 := by
        rw [hf, hafter, Position.ofIndex_append]
        exact Nat.ne_of_gt (Nat.succ_lt_succ (List.count_pos_iff.2 hnl))
      rw [if_neg hne]
      refine pointsAt_of_eq hsource hline hreturn ?_
      rw [hf, hafter, hsource]
      exact (Position.ofIndex_cons hnl (by decide) _).symm
    · have hone : f.position = ⟨1, front.length + 1⟩ := by
        rw [hf, hafter, Position.ofIndex_of_not_mem hnl]
      rw [hone, if_pos rfl, Nat.add_sub_cancel]
      exact pointsAt_of_cons hsource
        (fun hmem => (List.mem_cons.1 hmem).elim (by decide) hnl) hline hreturn hone

/-- A chunk that is neither a line end nor white space starts with a character that findings at its
    position point at, but for the mark. -/
theorem Finding.pointsAt_of_mem {source : String} {ch : Placed} (h : ch ∈ placedChunks source)
    (hnewline : ch.shape ≠ .newline) (hblank : ch.shape ≠ .blank) :
    ∃ front c rest, source.toList = front ++ c :: rest ∧
      ch.toChunk = ⟨(Chunk.measure c rest).1, c :: rest.take (Chunk.measure c rest).2⟩ ∧
      ∀ f : Finding, f.position = ch.position →
        f.PointsAt source (front.length - Text.uncounted source f.position) := by
  obtain ⟨front, c, rest, hbody, hposition, hchunk⟩ := exists_cut_of_mem_placeFrom h
  have hc : ¬(c = '\n' ∨ c = '\r') := fun hc => by
    have hshape : ch.shape = (Chunk.measure c rest).1 := congrArg Chunk.shape hchunk
    exact (Chunk.measure_of_lineEnd hc rest).elim (fun h => hnewline (hshape.trans h))
      fun h => hblank (hshape.trans h)
  obtain ⟨front', hsource, hpoints⟩ := pointsAt_of_body hbody (fun h => hc (.inl h))
    fun h => hc (.inr h)
  exact ⟨front', c, rest, hsource, hchunk, fun f hf => hpoints f (hf.trans hposition)⟩

/-! ## Errors -/

theorem LexicalError.pointsAt {source : String} {e : LexicalError}
    (h : e ∈ (tokenize source).errors) :
    ∃ front text back, source.toList = front ++ text ++ back ∧ text ≠ [] ∧ e.IsAbout text ∧
      (Finding.ofLexical e).PointsAt source
        (front.length - Text.uncounted source e.position) := by
  obtain ⟨ch, hch, he⟩ := List.mem_filterMap.1 h
  have hne (shape : Shape) (hshape : shape = .newline ∨ shape = .blank) : ch.shape ≠ shape := by
    rintro rfl
    obtain hshape | hshape := hshape <;> rw [Placed.error?, hshape] at he <;> cases he
  obtain ⟨front, c, rest, hsource, hchunk, hpoints⟩ :=
    Finding.pointsAt_of_mem hch (hne _ (.inl rfl)) (hne _ (.inr rfl))
  obtain ⟨chunk, p⟩ := ch
  obtain rfl : chunk = _ := hchunk
  obtain ⟨text, back, htext, hhead, habout⟩ := Placed.isAbout_of_error? he
  refine ⟨front, text, back, by rw [hsource, htext, List.append_assoc], ?_, habout,
    hpoints _ (Placed.error?_eq_some he).1⟩
  rintro rfl
  cases hhead

theorem Token.pointsAt {source : String} {t : Token} (h : t ∈ (tokenize source).tokens)
    (hnewline : t.kind ≠ .newline) (heof : t.kind ≠ .eof) :
    ∃ front back, source.toList = front ++ t.text.toList ++ back ∧ t.text ≠ "" ∧
      ∀ f : Finding, f.position = t.position →
        f.PointsAt source (front.length - Text.uncounted source f.position) := by
  rw [tokens_tokenize] at h
  obtain h | h := List.mem_append.1 h
  · obtain ⟨ch, hch, ht⟩ := List.mem_filterMap.1 h
    obtain ⟨hkind, htext, hposition⟩ := Placed.token?_eq_some ht
    have hshape : ch.shape ≠ .newline ∧ ch.shape ≠ .blank := by
      constructor <;> intro hshape <;> rw [Placed.kind?, hshape] at hkind
      · exact hnewline (Option.some.inj hkind).symm
      · cases hkind
    obtain ⟨front, c, rest, hsource, hchunk, hpoints⟩ :=
      Finding.pointsAt_of_mem hch hshape.1 hshape.2
    have hcut : t.text.toList = c :: rest.take (Chunk.measure c rest).2 :=
      htext.trans (congrArg Chunk.text hchunk)
    refine ⟨front, rest.drop (Chunk.measure c rest).2, ?_, ?_, fun f hf =>
      hpoints f (hf.trans hposition)⟩
    · rw [hsource, hcut, List.append_assoc, List.cons_append, List.take_append_drop]
    · rintro hempty
      rw [hempty] at hcut
      cases hcut
  · exact absurd (congrArg Token.kind (List.mem_singleton.1 h)) heof

/-- Every lexical error, and every syntax error about a token other than a line end and the end of
    the input, points at the text that it is about, wherever this stands in the document. Only the
    byte-order mark at the very start is counted as part of the first line by those who show the
    line and not by those who found the error, so there the character before it is pointed at. -/
theorem analyze_points (dictionary : Dictionary) (settings : Settings) (source : String) :
    ∃ errors, analyze dictionary settings source = .ok errors ∧
      (∀ e ∈ errors.lexical, ∃ front text back, source.toList = front ++ text ++ back ∧
        text ≠ [] ∧ e.IsAbout text ∧
        (Finding.ofLexical e).PointsAt source
          (front.length - Text.uncounted source e.position)) ∧
      ∀ e ∈ errors.syntactic, e.token.kind ≠ .newline → e.token.kind ≠ .eof →
        ∃ front back, source.toList = front ++ e.token.text.toList ++ back ∧ e.token.text ≠ "" ∧
          (Finding.ofSyntactic e).PointsAt source
            (front.length - Text.uncounted source e.position) := by
  have hlast := isTerminated_tokenize source
  rw [TokenStream.isTerminated, decide_eq_true_eq] at hlast
  obtain ⟨found, s, t, hparse, -, h⟩ :=
    Parser.parse_shifted (.refl _) hlast (some source) none dictionary settings
  have hanchored := h.errors.areAnchored
  refine ⟨_, by rw [analyze, hparse], fun e he => LexicalError.pointsAt he,
    fun e he hnewline heof => ?_⟩
  obtain ⟨front, back, hsource, hne, hpoints⟩ :=
    Token.pointsAt (hanchored.mem he) hnewline heof
  exact ⟨front, back, hsource, hne, hpoints _ (hanchored.position e he)⟩

/-- A stray character behind the mark, and a missing bracket on the next line behind a character
    that takes two units. -/
theorem analyze_points_of_mark :
    let source := "\ufeff§\r\nlet x = [\"😀\" 'b']"
    ∃ errors, analyze { keywords := [] } {} source = .ok errors ∧
      (∃ e ∈ errors.lexical, e.IsAbout ['§'] ∧ (Finding.ofLexical e).PointsAt source 0) ∧
      ∃ e ∈ errors.syntactic, e.token.text = "'b'" ∧
        (Finding.ofSyntactic e).PointsAt source 17 := by
  intro source
  obtain ⟨errors, hok, hlexical, hsyntactic⟩ := analyze_points { keywords := [] } {} source
  have hvalue : (analyze { keywords := [] } {} source).toOption.map
      (fun errors => (errors.lexical, errors.syntactic.map fun e => (e.position, e.token))) =
        some ([Placed.strayError '§' ⟨1, 1⟩], [(⟨2, 14⟩, ⟨.string, "'b'", ⟨2, 14⟩⟩),
          (⟨2, 14⟩, ⟨.string, "'b'", ⟨2, 14⟩⟩)]) := by decide +kernel
  have hindex : ∀ i ≤ 21, (Position.ofIndex source.toList i = ⟨1, 1⟩ → i = 0) ∧
      (Position.ofIndex source.toList i = ⟨2, 14⟩ → i = 17) := by decide +kernel
  have hle {front text back : List Char} (h : source.toList = front ++ text ++ back) (n : Nat) :
      front.length - n ≤ 21 := by
    have hlength : 21 = (front ++ text ++ back).length := h ▸ (by decide)
    rw [List.length_append, List.length_append] at hlength
    omega
  rw [hok] at hvalue
  obtain ⟨hlex, hsyn⟩ := Prod.mk.inj (Option.some.inj hvalue)
  refine ⟨errors, hok, ?_, ?_⟩
  · have he : Placed.strayError '§' ⟨1, 1⟩ ∈ errors.lexical := hlex ▸ List.mem_singleton_self _
    obtain ⟨front, text, back, hsource, -, -, hpoints⟩ := hlexical _ he
    have hzero := (hindex _ (hle hsource _)).1 hpoints.position.symm
    exact ⟨_, he, Placed.isAbout_strayError _ _, hzero ▸ hpoints⟩
  · obtain ⟨e, he, hposition⟩ : ∃ e ∈ errors.syntactic,
        (e.position, e.token) = (⟨2, 14⟩, ⟨.string, "'b'", ⟨2, 14⟩⟩) := by
      rw [← List.mem_map, hsyn]
      exact List.mem_cons_self
    obtain ⟨hposition, htoken⟩ := Prod.mk.inj hposition
    obtain ⟨front, back, hsource, -, hpoints⟩ :=
      hsyntactic e he (by rw [htoken]; decide) (by rw [htoken]; decide)
    have hlast := (hindex _ (hle hsource _)).2 (hpoints.position.symm.trans hposition)
    exact ⟨e, he, by rw [htoken], hlast ▸ hpoints⟩

/-- Behind the mark, what is pointed at is the mark and not the text that the error is about, in the
    line of the snippet as well as in the range that is published. -/
theorem mark_pointed_at :
    let source := "\ufeff§"
    ∃ errors, analyze .builtin {} source = .ok errors ∧ ∃ e ∈ errors.lexical,
      Text.sourceLine source e.position.line = some source ∧
      source.toList[e.position.column - 1]? = some '\ufeff' ∧
      (ClientDiagnostic.ofDiagnostic "file:///a" source
        (Diagnostic.ofFinding source "sun" (.ofLexical e))).range.start = ⟨0, 0⟩ ∧
      e.IsAbout ['§'] ∧
      ∀ front text back, source.toList = front ++ text ++ back → e.IsAbout text →
        ¬(Finding.ofLexical e).PointsAt source front.length := by
  intro source
  let e := Placed.strayError '§' ⟨1, 1⟩
  have hvalue : (analyze .builtin {} source).toOption = some ⟨[e], []⟩ := by decide +kernel
  cases hok : analyze .builtin {} source with
  | error fault =>
    rw [hok] at hvalue
    cases hvalue
  | ok errors =>
    rw [hok] at hvalue
    obtain rfl := Option.some.inj hvalue
    refine ⟨_, rfl, e, List.mem_singleton_self e, by decide +kernel, by decide +kernel,
      by decide +kernel, Placed.isAbout_strayError _ _, fun front text back hsource habout h => ?_⟩
    -- The text would be the character at the very start, but that is another kind of error.
    have hindex : ∀ i ≤ 2, Position.ofIndex source.toList i = ⟨1, 1⟩ → i = 0 := by decide +kernel
    have hlength : 2 = (front ++ text ++ back).length := hsource ▸ (by decide)
    rw [List.length_append, List.length_append] at hlength
    obtain rfl := List.length_eq_zero_iff.1 (hindex front.length (by omega) h.position.symm)
    obtain ⟨-, c, rfl, hc⟩ := habout
    have hlist : source.toList = ['\ufeff', '§'] := by decide +kernel
    obtain ⟨rfl, -⟩ := List.cons_eq_cons.1 (hlist.symm.trans hsource)
    exact absurd (congrArg LexicalError.code hc) (by decide)

end SunLint
