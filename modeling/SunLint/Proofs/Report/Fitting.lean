import SunLint.Proofs.Report.Coherence
import SunLint.Proofs.Report.Pointing
import SunLint.Proofs.Text.Columns

/-!
# Findings that fit

What is handed in may be at any position, so that its range need not end at a column of 32 bits.
What is found in a text cannot be further right than the text is long: a token or an error starts
behind as many characters as its column says at most, and is part of what follows. In units of
UTF-16 this is twice as far at most.

So for texts of fewer than `2 ^ 31 - 1` characters it makes no difference whether the columns have a
bound.

* `analyze_end_le`: how far to the right the findings of a text end;
* `Ledger.add?_eq_add`: there is always a report on what is found in a text;
* `ClientDiagnostic.ofDiagnostic?_eq`: the diagnostics of a text can be counted in units.
-/

namespace SunLint

/-! ## Ends -/

/-- No column is further right than the text in front of it is long. -/
theorem Position.column_start_after_le (cs : List Char) :
    (start.after cs).column ≤ cs.length + 1 := by
  have hprefix := (List.takeWhile_prefix (l := cs.reverse) (· ≠ '\n')).length_le
  rw [List.length_reverse] at hprefix
  rw [start_after, ofIndex, List.take_length]
  exact Nat.succ_le_succ hprefix

theorem Text.length_body_le (source : String) :
    (body source).length ≤ source.toList.length := by
  obtain ⟨hbody, -⟩ | hmark := toList_cases source
  · rw [hbody]
  · rw [hmark]
    exact Nat.le_succ _

theorem LexicalError.end_le {source : String} {e : LexicalError}
    (h : e ∈ (tokenize source).errors) :
    e.position.column - 1 + max e.length 1 ≤ source.toList.length := by
  obtain ⟨ch, hch, he⟩ := List.mem_filterMap.1 h
  obtain ⟨front, c, rest, hbody, hposition, hchunk⟩ := exists_cut_of_mem_placeFrom hch
  have hcolumn := Position.column_start_after_le front
  rw [← hposition, ← (Placed.error?_eq_some he).1] at hcolumn
  obtain ⟨chunk, p⟩ := ch
  obtain rfl : chunk = _ := hchunk
  obtain ⟨text, tail, htext, hhead, habout⟩ := Placed.isAbout_of_error? he
  have hpos : 0 < text.length := by
    rw [List.length_pos_iff]
    rintro rfl
    cases hhead
  have hlength := Text.length_body_le source
  rw [hbody, htext, List.length_append, List.length_append] at hlength
  have hwidth := habout.1
  omega

theorem Token.end_le {source : String} {t : Token} (h : t ∈ (tokenize source).tokens) :
    t.position.column - 1 + max t.width 1 ≤ source.toList.length + 1 := by
  have hlength := Text.length_body_le source
  rw [tokens_tokenize] at h
  obtain h | h := List.mem_append.1 h
  · -- The token is all of a chunk, which does not end behind the text.
    obtain ⟨ch, hch, ht⟩ := List.mem_filterMap.1 h
    obtain ⟨-, htext, hposition⟩ := Placed.token?_eq_some ht
    obtain ⟨front, c, rest, hbody, hfront, hchunk⟩ := exists_cut_of_mem_placeFrom hch
    have hcolumn := Position.column_start_after_le front
    rw [← hfront, ← hposition] at hcolumn
    have hcut : t.text.length ≤ rest.length + 1 := by
      rw [← String.length_toList, htext, hchunk, List.length_cons, List.length_take]
      omega
    have hwidth : t.width ≤ max t.text.length 1 := by
      unfold width
      split <;> omega
    rw [hbody, List.length_append, List.length_cons] at hlength
    omega
  · -- The end of the input stands behind the text and is shown one character wide.
    obtain rfl := List.mem_singleton.1 h
    have hcolumn := Position.column_start_after_le (Text.body source)
    have hwidth : (eof (Position.start.after (Text.body source))).width = 1 := rfl
    rw [hwidth]
    change (Position.start.after (Text.body source)).column - 1 + 1 ≤ _
    omega

/-- A finding ends one character behind the text at most. -/
theorem analyze_end_le {dictionary : Dictionary} {settings : Settings} {source : String}
    {errors : Errors} (h : analyze dictionary settings source = .ok errors) :
    ∀ f ∈ errors.findings,
      f.position.column - 1 + max f.width 1 ≤ source.toList.length + 1 := by
  obtain ⟨found, s, t, hparse, -, hrun⟩ :=
    Parser.parse_shifted (.refl _) (getLast?_tokenize source) (some source) none dictionary settings
  have hanchored := hrun.errors.areAnchored
  rw [analyze, hparse] at h
  obtain rfl := Except.ok.inj h
  intro f hf
  obtain hf | hf := List.mem_append.1 hf
  · obtain ⟨e, he, rfl⟩ := List.mem_map.1 hf
    exact Nat.le_succ_of_le (LexicalError.end_le he)
  · -- A syntax error stands at its token and is as wide.
    obtain ⟨e, he, rfl⟩ := List.mem_map.1 hf
    have hend := Token.end_le (hanchored.mem he)
    rwa [← hanchored.position e he] at hend

/-- Of what is found in a text, there is a report. -/
theorem Ledger.add?_eq_add {dictionary : Dictionary} {settings : Settings} {source : String}
    {errors : Errors} (h : analyze dictionary settings source = .ok errors)
    (hlength : source.toList.length + 1 < Count.bound) (l : Ledger) (time file : String) :
    l.add? time file source errors = some (l.add time file source errors) :=
  (l.add?_eq_some_iff time file source errors).2
    ⟨fun f hf => Nat.lt_of_le_of_lt (analyze_end_le h f hf) hlength, rfl⟩

/-! ## Units -/

namespace Text

theorem length_le_of_mem_pieces {cs piece : List Char} (h : piece ∈ pieces cs) :
    piece.length ≤ cs.length := by
  induction cs generalizing piece with
  | nil =>
    rw [List.mem_singleton.1 h]
  | cons c cs ih =>
    rw [pieces] at h
    split at h
    · obtain rfl | h := List.mem_cons.1 h
      · exact Nat.zero_le _
      · exact Nat.le_succ_of_le (ih h)
    · split at h
      · rename_i first rest hpieces
        obtain rfl | h := List.mem_cons.1 h
        · exact Nat.succ_le_succ (ih (hpieces ▸ List.mem_cons_self))
        · exact Nat.le_succ_of_le (ih (hpieces ▸ List.mem_cons_of_mem _ h))
      · rename_i hpieces
        exact absurd hpieces (pieces_ne_nil cs)

theorem length_dropReturn_le (cs : List Char) : (dropReturn cs).length ≤ cs.length := by
  unfold dropReturn
  split
  · rename_i rest hrest
    have hlength := congrArg List.length hrest
    rw [List.length_reverse, List.length_cons] at hlength
    rw [List.length_reverse]
    omega
  · exact Nat.le_refl _

theorem length_sourceLine_le {source line : String} {n : Nat} (h : sourceLine source n = some line) :
    line.length ≤ source.toList.length := by
  unfold sourceLine at h
  split at h
  · cases h
  · obtain ⟨piece, hpiece, rfl⟩ := Option.map_eq_some_iff.1 h
    rw [String.length_ofList]
    exact (length_dropReturn_le piece).trans
      (length_le_of_mem_pieces (List.mem_of_getElem? hpiece))

end Text

theorem Place.inUnits?_eq {p : Place} (h : 2 * p.character < Count.bound) (text : String) :
    p.inUnits? text = some (p.inUnits text) := by
  rw [inUnits?, Text.unitColumn?_eq_unitColumn h]
  rfl

theorem Range.inUnits?_eq {r : Range} (hstart : 2 * r.start.character < Count.bound)
    (hstop : 2 * r.stop.character < Count.bound) (text : String) :
    r.inUnits? text = some (r.inUnits text) := by
  rw [inUnits?, Place.inUnits?_eq hstart, Place.inUnits?_eq hstop]
  rfl

theorem Diagnostic.stop_lineRange_lt {source : String} (h : 2 * (source.toList.length + 1) < Count.bound)
    (p : Position) : 2 * (lineRange source p).stop.character < Count.bound := by
  change 2 * ((Text.sourceLine source p.line).map String.length).getD 0 < Count.bound
  cases hline : Text.sourceLine source p.line with
  | none => decide
  | some line =>
    have hle := Text.length_sourceLine_le hline
    change 2 * line.length < Count.bound
    omega

namespace ClientDiagnostic

/-- The diagnostics of what is found in a text can be counted in units. -/
theorem ofDiagnostic?_eq {dictionary : Dictionary} {settings : Settings} {source : String}
    {errors : Errors} (h : analyze dictionary settings source = .ok errors)
    (hlength : 2 * (source.toList.length + 1) < Count.bound) (uri sourceName : String)
    {d : Diagnostic} (hd : d ∈ Diagnostic.ofErrors source sourceName errors) :
    ofDiagnostic? uri source d = some (ofDiagnostic uri source d) := by
  obtain ⟨f, hf, rfl⟩ := List.mem_map.1 hd
  have hend := analyze_end_le h f hf
  have hrange : (Diagnostic.ofFinding source sourceName f).range.inUnits? source =
      some ((Diagnostic.ofFinding source sourceName f).range.inUnits source) := by
    refine Range.inUnits?_eq ?_ ?_ source
    · change 2 * (f.position.column - 1) < Count.bound
      omega
    · change 2 * (f.position.column - 1 + max f.width 1) < Count.bound
      omega
  have hremarks : (Diagnostic.ofFinding source sourceName f).remarks.mapM (remark? uri source) =
      some ((Diagnostic.ofFinding source sourceName f).remarks.map
        fun r => ⟨uri, r.range.inUnits source, r.message⟩) := by
    refine mapM_eq_some fun r hr => ?_
    obtain ⟨message, -, rfl⟩ := List.mem_map.1 hr
    have hstart : 2 * (Diagnostic.lineRange source f.position).start.character < Count.bound :=
      show 2 * 0 < Count.bound by decide
    rw [remark?, Range.inUnits?_eq hstart (Diagnostic.stop_lineRange_lt hlength f.position)]
    rfl
  rw [ofDiagnostic?, hremarks, hrange]
  rfl

end ClientDiagnostic

end SunLint
