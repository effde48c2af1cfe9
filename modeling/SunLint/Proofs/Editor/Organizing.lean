import SunLint.Proofs.Editor.SoundLines

/-!
# Organizing directives

To organize the directives of a document is to move all lines that start with an at sign to the
top, without looking at what they are part of. So a line in a comment becomes a directive, and an
argument that goes on over several lines loses what follows on its first line.

* `organizeDirectives_rearranges`: if every such line stands alone, outside of comments and with
  nothing but whole directives on it, then the program stays the same, up to the order of its
  directives;
* `comment_becomes_directive`: a program that does not stay the same.
-/

namespace SunLint

variable {dictionary : Dictionary} {settings : Settings} {line : List Char}
  {ls ls' : List (List Char)} {x y z : List Item}

/-- A line of directives that stands alone: there is no comment open behind the lines in front, and
    by itself it says nothing but directives. -/
structure StandsAlone (dictionary : Dictionary) (settings : Settings) (front : List (List Char))
    (line : List Char) : Prop where
  outside : ∀ e ∈ (tokenize (joinLines front)).errors, e.code ≠ .unterminatedComment
  whole : ∃ found, IsSound dictionary settings (String.ofList line) found ∧
    ∀ i ∈ found, i.isDirective = true

/-! ## Lines of directives -/

/-- The line says directives and nothing else. -/
def IsWhole (dictionary : Dictionary) (settings : Settings) (line : List Char) : Prop :=
  ∃ found, AreSound dictionary settings [line] found ∧ ∀ i ∈ found, i.isDirective = true

theorem StandsAlone.isWhole {front : List (List Char)}
    (h : StandsAlone dictionary settings front line) (hdirective : isDirectiveLine line = true)
    (hline : '\n' ∉ line) : IsWhole dictionary settings line := by
  obtain ⟨found, hfound, honly⟩ := h.whole
  rw [← joinLines_singleton] at hfound
  obtain ⟨blanks, cs, rfl, hblanks⟩ := exists_of_isDirectiveLine hdirective hline
  have hmark : (blanks ++ '@' :: cs).head? ≠ some '\ufeff' := head?_append_ne hblanks (by simp)
  exact ⟨found, ⟨hfound, by simpa using hmark⟩, honly⟩

/-- A document is sound if nothing is recorded when it is read. -/
theorem exists_isSound {text : String} {flags : List Bool}
    (hlexical : (tokenize text).errors = [])
    (hparses : (parse (tokenize text).tokens (some text) dictionary settings).toOption.map
      (fun output => (output.items.map Item.isDirective, output.errors)) = some (flags, [])) :
    ∃ found, IsSound dictionary settings text found ∧ found.map Item.isDirective = flags := by
  cases houtput : parse (tokenize text).tokens (some text) dictionary settings with
  | error fault =>
    rw [houtput] at hparses
    cases hparses
  | ok output =>
    obtain ⟨found, errors⟩ := output
    rw [houtput] at hparses
    obtain ⟨hflags, rfl⟩ : found.map Item.isDirective = flags ∧ errors = [] := by
      simpa [Except.toOption] using hparses
    exact ⟨found, ⟨hlexical, houtput⟩, hflags⟩

/-- A line stands alone behind lines without errors if a single directive is read from it. -/
theorem StandsAlone.of_parse {front : List (List Char)}
    (hfront : (tokenize (joinLines front)).errors = [])
    (hlexical : (tokenize (String.ofList line)).errors = [])
    (hparses : (parse (tokenize (String.ofList line)).tokens (some (String.ofList line)) dictionary
      settings).toOption.map (fun output => (output.items.map Item.isDirective, output.errors)) =
        some ([true], [])) : StandsAlone dictionary settings front line := by
  obtain ⟨single, hsingle, hflags⟩ := exists_isSound hlexical hparses
  obtain ⟨i, rfl, hi⟩ := List.map_eq_singleton_iff.1 hflags
  exact ⟨by simp [hfront], _, hsingle, List.forall_mem_singleton.2 hi⟩

/-- Lines of directives say what each of them says. -/
theorem exists_areSound (h : ∀ line ∈ ls, IsWhole dictionary settings line) :
    ∃ found, AreSound dictionary settings ls found ∧ (∀ i ∈ found, i.isDirective = true) ∧
      ∀ d, d ∈ found.filterMap Item.directive? ↔ ∃ line ∈ ls, ∃ single,
        AreSound dictionary settings [line] single ∧ d ∈ single.filterMap Item.directive? := by
  induction ls with
  | nil => exact ⟨[], areSound_nil, by simp, by simp⟩
  | cons line ls ih =>
    rw [List.forall_mem_cons] at h
    obtain ⟨single, hsingle, honly⟩ := h.1
    obtain ⟨rest, hrest, honly', hiff⟩ := ih h.2
    obtain ⟨found, hfound, hsame⟩ := hsingle.append hrest
    refine ⟨found, hfound, hsame.symm.isDirective ?_, fun d => ?_⟩
    · rw [List.forall_mem_append]
      exact ⟨honly, honly'⟩
    · -- What is read from the first line by itself does not depend on how it is come by.
      rw [hsame.directives, List.filterMap_append, List.mem_append, hiff, List.exists_mem_cons_iff]
      refine or_congr_left ⟨fun hd => ⟨single, hsingle, hd⟩, fun ⟨other, hother, hd⟩ => ?_⟩
      rwa [hsingle.isSound.unique hother.isSound]

/-! ## Moving them to the top -/

/-- What is read from lines around one that stands alone: nothing is open in front of it or behind
    it, so that it may be taken out. -/
theorem AreSound.apart (hdirective : isDirectiveLine line = true) (hline : '\n' ∉ line)
    (halone : StandsAlone dictionary settings ls line)
    (h : AreSound dictionary settings (ls ++ line :: ls') z) :
    ∃ x single y, AreSound dictionary settings ls x ∧
      AreSound dictionary settings [line] single ∧ (∀ i ∈ single, i.isDirective = true) ∧
      AreSound dictionary settings ls' y ∧ Rearranged z (x ++ (single ++ y)) := by
  obtain ⟨single, hsingle, honly⟩ := halone.isWhole hdirective hline
  obtain ⟨x, hx⟩ := h.cut hdirective hline halone.outside
  obtain ⟨rest, hrest, hz⟩ := hx.of_append h
  obtain ⟨y, hy, hrest'⟩ := hsingle.of_append hrest
  exact ⟨x, single, y, hx, hsingle, honly, hy, hz.trans ((Rearranged.refl x).append hrest')⟩

/-- The lines that stand alone may be moved in front of all others. -/
theorem AreSound.split (hlines : ∀ line ∈ ls, '\n' ∉ line)
    (halone : ∀ front line back, ls = front ++ line :: back → isDirectiveLine line = true →
      StandsAlone dictionary settings front line)
    (h : AreSound dictionary settings (ls ++ ls') z) :
    ∃ x y, AreSound dictionary settings (ls.filter isDirectiveLine) x ∧
      (∀ i ∈ x, i.isDirective = true) ∧
      AreSound dictionary settings (ls.filter (!isDirectiveLine ·) ++ ls') y ∧
      Rearranged z (x ++ y) := by
  -- From the last line to the first one: those behind it have been dealt with.
  induction ls using List.reverseRecOn generalizing ls' z with
  | nil => exact ⟨[], z, areSound_nil, by simp, h, .refl z⟩
  | append_singleton ls line ih =>
    rw [List.forall_mem_append, List.forall_mem_singleton] at hlines
    rw [List.append_assoc, List.singleton_append] at h
    have hfront : ∀ front line' back, ls = front ++ line' :: back →
        isDirectiveLine line' = true → StandsAlone dictionary settings front line' :=
      fun front line' back heq => halone front line' (back ++ [line]) (by simp [heq])
    cases hdirective : isDirectiveLine line with
    | false =>
      obtain ⟨x, y, hx, honly, hy, hz⟩ := ih hlines.1 hfront h
      refine ⟨x, y, ?_, honly, ?_, hz⟩
      · simpa [List.filter_append, hdirective] using hx
      · simpa [List.filter_append, hdirective] using hy
    | true =>
      obtain ⟨before, single, after, hbefore, hsingle, honly, hafter, hz⟩ :=
        h.apart hdirective hlines.2 (halone ls line [] rfl hdirective)
      rw [← List.append_nil ls] at hbefore
      obtain ⟨x, y, hx, honly', hy, hbefore'⟩ := ih hlines.1 hfront hbefore
      rw [List.append_nil] at hy
      obtain ⟨x', hx', hsame⟩ := hx.append hsingle
      obtain ⟨y', hy', hsame'⟩ := hy.append hafter
      refine ⟨x', y', ?_, hsame.symm.isDirective ?_, ?_, ?_⟩
      · simpa [List.filter_append, hdirective] using hx'
      · rw [List.forall_mem_append]
        exact ⟨honly', honly⟩
      · simpa [List.filter_append, hdirective] using hy'
      · calc
          Rearranged z (before ++ (single ++ after)) := hz
          Rearranged _ ((x ++ y) ++ (single ++ after)) := hbefore'.append (.refl _)
          Rearranged _ ((x ++ single) ++ (y ++ after)) := .hoist honly x y after
          Rearranged _ (x' ++ y') := hsame.symm.append hsame'.symm

/-! ## The organized text -/

theorem mem_directiveLines : line ∈ directiveLines ls ↔
    ∃ raw ∈ ls.filter isDirectiveLine, Text.trim raw = line := by
  simp [directiveLines, List.mem_mergeSort, Distinct.ofList, Distinct.mem_addAll]

/-- The lines of directives may be trimmed, sorted, and each be left out that there is already. -/
theorem AreSound.directiveLines (hlines : ∀ line ∈ ls, '\n' ∉ line)
    (hwhole : ∀ line ∈ ls.filter isDirectiveLine, IsWhole dictionary settings line)
    (h : AreSound dictionary settings (ls.filter isDirectiveLine) x) :
    ∃ y, AreSound dictionary settings (directiveLines ls) y ∧ Rearranged x y := by
  have htrim {raw : List Char} (hraw : raw ∈ ls.filter isDirectiveLine) {single : List Item}
      (hsingle : AreSound dictionary settings [raw] single) :
      AreSound dictionary settings [Text.trim raw] single := by
    obtain ⟨hmem, hdirective⟩ := List.mem_filter.1 hraw
    exact hsingle.trim hdirective (hlines raw hmem)
  obtain ⟨found, hfound, honly, hiff⟩ := exists_areSound hwhole
  obtain rfl := h.isSound.unique hfound.isSound
  have hwhole' : ∀ line ∈ SunLint.directiveLines ls, IsWhole dictionary settings line := by
    intro line hline
    obtain ⟨raw, hraw, rfl⟩ := mem_directiveLines.1 hline
    obtain ⟨single, hsingle, hall⟩ := hwhole raw hraw
    exact ⟨single, htrim hraw hsingle, hall⟩
  obtain ⟨y, hy, honly', hiff'⟩ := exists_areSound hwhole'
  refine ⟨y, hy, .of_directives honly honly' fun d => ?_⟩
  rw [hiff, hiff']
  constructor
  · rintro ⟨raw, hraw, single, hsingle, hd⟩
    exact ⟨_, mem_directiveLines.2 ⟨raw, hraw, rfl⟩, single, htrim hraw hsingle, hd⟩
  · rintro ⟨line, hline, single, hsingle, hd⟩
    obtain ⟨raw, hraw, rfl⟩ := mem_directiveLines.1 hline
    obtain ⟨other, hother, -⟩ := hwhole raw hraw
    obtain rfl := hsingle.isSound.unique (htrim hraw hother).isSound
    exact ⟨raw, hraw, single, hother, hd⟩

theorem isBlank_of_trim (h : (Text.trim line).isEmpty = true) :
    ∀ x ∈ line, Text.isBlank x = true := by
  intro x hx
  rw [← List.takeWhile_append_dropWhile (p := Text.isBlank) (l := line), List.mem_append] at hx
  obtain hx | hx := hx
  · exact List.mem_takeWhile_imp hx
  · exact List.rdropWhile_eq_nil_iff.1 (List.isEmpty_iff.1 h) x hx

/-- Blank lines in front of the others may be left out. -/
theorem AreSound.dropBlank (hlines : ∀ line ∈ ls, '\n' ∉ line)
    (h : AreSound dictionary settings (ls ++ ls') x) :
    ∃ y, AreSound dictionary settings
      (ls.dropWhile (fun line => (Text.trim line).isEmpty) ++ ls') y ∧ Rearranged x y := by
  induction ls generalizing x with
  | nil => exact ⟨x, h, .refl x⟩
  | cons line ls ih =>
    rw [List.forall_mem_cons] at hlines
    rw [List.dropWhile_cons]
    split
    · rename_i hblank
      have hline : AreSound dictionary settings [line] [] := areSound_blank fun x hx =>
        ⟨isBlank_of_trim hblank x hx, ne_of_mem_of_not_mem hx hlines.1⟩
      obtain ⟨rest, hrest, hsame⟩ := hline.of_append h
      obtain ⟨y, hy, hsame'⟩ := ih hlines.2 hrest
      exact ⟨y, hy, hsame.trans hsame'⟩
    · exact ⟨x, h, .refl x⟩

/-- There is an empty line between the directives and the others, or none. -/
theorem organizeDirectives_eq (text : String) : ∃ gap, (gap = [] ∨ gap = [[]]) ∧
    organizeDirectives text = joinLines (directiveLines (Text.lines text.toList) ++ (gap ++
      (otherLines (Text.lines text.toList) ++ [[]]))) := by
  simp only [organizeDirectives, ← joinLines_concat]
  cases directiveLines (Text.lines text.toList) with
  | nil => exact ⟨[], .inl rfl, rfl⟩
  | cons d ds =>
    cases otherLines (Text.lines text.toList) with
    | nil => exact ⟨[], .inl rfl, rfl⟩
    | cons o os => exact ⟨[[]], .inr rfl, by simp⟩

/-- Without directives to move nothing happens to a document that starts with a byte-order mark,
    but that its line ends become line feeds. -/
theorem organizeDirectives_of_mark {text : String} (hmark : text.toList.head? = some '\ufeff')
    (hnone : ∀ line ∈ Text.lines text.toList, isDirectiveLine line = false) :
    organizeDirectives text = closeLines (Text.lines text.toList) := by
  rw [← Text.head?_closeLines_lines (by decide), ← joinLines_concat] at hmark
  have hdirectives : directiveLines (Text.lines text.toList) = [] := by
    refine List.eq_nil_iff_forall_not_mem.2 fun line hline => ?_
    obtain ⟨raw, hraw, -⟩ := mem_directiveLines.1 hline
    obtain ⟨hmem, hdirective⟩ := List.mem_filter.1 hraw
    rw [hnone raw hmem] at hdirective
    cases hdirective
  have hothers : otherLines (Text.lines text.toList) = Text.lines text.toList := by
    rw [otherLines, List.filter_eq_self.2 fun line hline => by rw [hnone line hline]; rfl]
    cases hls : Text.lines text.toList with
    | nil => rfl
    | cons line ls =>
      rw [hls, List.cons_append, head?_joinLines (by decide)] at hmark
      refine List.dropWhile_cons_of_neg fun hblank => ?_
      cases isBlank_of_trim hblank _ (List.mem_of_head? hmark)
  rw [organizeDirectives, hdirectives, hothers]

/-- For every document in which no error is found: if every line that starts with an at sign stands
    alone, and the document does not start with a byte-order mark if there is such a line, then no
    error is found in what organizing its directives makes of it; and what is read from that is the
    same program, item by item but for the lines that the items are on, with the same directives. -/
theorem organizeDirectives_rearranges (dictionary : Dictionary) (settings : Settings)
    (text : String) (found : List Item) (h : IsSound dictionary settings text found)
    (halone : ∀ (i : Nat) (line : List Char), (Text.lines text.toList)[i]? = some line →
      isDirectiveLine line = true → text.toList.head? ≠ some '\ufeff' ∧
        StandsAlone dictionary settings ((Text.lines text.toList).take i) line) :
    ∃ found', IsSound dictionary settings (organizeDirectives text) found' ∧
      Rearranged found found' := by
  have hlines : ∀ line ∈ Text.lines text.toList, '\n' ∉ line :=
    fun _ => Text.not_mem_of_mem_lines
  have hclosed := h.closeLines_lines
  have hhead := Text.head?_closeLines_lines (x := '\ufeff') (by decide) text.toList
  by_cases hmark : text.toList.head? = some '\ufeff'
  · -- The mark has to stay at the start, and so it does if nothing is moved in front of it.
    have hnone : ∀ line ∈ Text.lines text.toList, isDirectiveLine line = false := by
      intro line hline
      obtain ⟨i, hi⟩ := List.mem_iff_getElem?.1 hline
      exact Bool.eq_false_iff.2 fun hdirective => (halone i line hi hdirective).1 hmark
    rw [organizeDirectives_of_mark hmark hnone]
    exact ⟨found, hclosed, .refl found⟩
  · rw [← joinLines_concat] at hclosed
    have hwhole : AreSound dictionary settings (Text.lines text.toList ++ [[]]) found := by
      refine ⟨hclosed, unmarked_iff.2 ?_⟩
      rw [joinLines_concat]
      exact mt hhead.1 hmark
    -- Lines with directives and others are taken apart, changed each in their way, and put together.
    obtain ⟨x, y, hx, -, hy, hsplit⟩ := hwhole.split hlines fun front line back heq hdirective => by
      have hline := (halone front.length line (by simp [heq]) hdirective).2
      rwa [heq, List.take_left] at hline
    obtain ⟨x', hx', hsorted⟩ := hx.directiveLines hlines fun line hline => by
      obtain ⟨hmem, hdirective⟩ := List.mem_filter.1 hline
      obtain ⟨i, hi⟩ := List.mem_iff_getElem?.1 hmem
      exact (halone i line hi hdirective).2.isWhole hdirective (hlines line hmem)
    obtain ⟨y', hy', hdropped⟩ := hy.dropBlank fun line hline =>
      hlines line (List.mem_filter.1 hline).1
    obtain ⟨gap, hgap, heq⟩ := organizeDirectives_eq text
    have hgap : AreSound dictionary settings gap [] := by
      rcases hgap with rfl | rfl
      · exact areSound_nil
      · exact areSound_blank (by simp)
    obtain ⟨rest, hrest, hsame⟩ := hgap.append hy'
    obtain ⟨found', hfound', hsame'⟩ := hx'.append hrest
    refine ⟨found', heq ▸ hfound'.isSound, ?_⟩
    calc
      Rearranged found (x ++ y) := hsplit
      Rearranged _ (x' ++ y') := hsorted.append hdropped
      Rearranged _ (x' ++ rest) := (Rearranged.refl x').append hsame.symm
      Rearranged _ found' := hsame'.symm

/-- A binding, two lines with the same directive, and one with another one behind a comment. -/
theorem organizeDirectives_rearranges_of_binding : ∃ text found found',
    text = "let y = 1 /* @a\n*/\n @use x // b\n@client\n@use x // b" ∧
    organizeDirectives text = "@client\n@use x // b\n\nlet y = 1 /* @a\n*/\n" ∧
    IsSound .builtin {} text found ∧
    IsSound .builtin {} (organizeDirectives text) found' ∧ Rearranged found found' ∧
    found.map Item.isDirective = [false, true, true, true] := by
  let text := "let y = 1 /* @a\n*/\n @use x // b\n@client\n@use x // b"
  have hlines : Text.lines text.toList = ["let y = 1 /* @a".toList, "*/".toList,
    " @use x // b".toList, "@client".toList, "@use x // b".toList] := by decide +kernel
  have horganized : organizeDirectives text =
      "@client\n@use x // b\n\nlet y = 1 /* @a\n*/\n" := by
    have hdistinct : Distinct.ofList (((Text.lines text.toList).filter isDirectiveLine).map
        fun line => String.ofList (Text.trim line)) = ["@use x // b", "@client"] := by
      decide +kernel
    have hlt : ¬ "@use x // b" ≤ "@client" := by decide +kernel
    have hdirectives : directiveLines (Text.lines text.toList) =
        ["@client".toList, "@use x // b".toList] := by
      rw [directiveLines, hdistinct]
      simp [List.mergeSort, hlt]
    have hothers : otherLines (Text.lines text.toList) =
        ["let y = 1 /* @a".toList, "*/".toList] := by decide +kernel
    rw [organizeDirectives, hdirectives, hothers]
    decide +kernel
  obtain ⟨found, hfound, hflags⟩ : ∃ found, IsSound .builtin {} text found ∧
      found.map Item.isDirective = [false, true, true, true] :=
    exists_isSound (by decide +kernel) (by decide +kernel)
  have hmark : text.toList.head? ≠ some '\ufeff' := by decide
  obtain ⟨found', hfound', hsame⟩ :=
    organizeDirectives_rearranges .builtin {} text found hfound fun i line hline hdirective => by
      rw [hlines] at hline ⊢
      rcases i with _ | _ | _ | _ | _ | i <;> cases hline
      · cases hdirective
      · cases hdirective
      · exact ⟨hmark, .of_parse (by decide +kernel) (by decide +kernel) (by decide +kernel)⟩
      · exact ⟨hmark, .of_parse (by decide +kernel) (by decide +kernel) (by decide +kernel)⟩
      · exact ⟨hmark, .of_parse (by decide +kernel) (by decide +kernel) (by decide +kernel)⟩
  exact ⟨text, found, found', rfl, horganized, hfound, hfound', hsame, hflags⟩

/-- A line of a comment becomes a directive. -/
theorem comment_becomes_directive : ∃ text found,
    text = "/*\n@use x\n*/\nlet y = 1\n" ∧
    organizeDirectives text = "@use x\n\n/*\n*/\nlet y = 1\n" ∧
    IsSound .builtin {} text found ∧
    ¬ ∃ found', IsSound .builtin {} (organizeDirectives text) found' ∧
      Rearranged found found' := by
  let text := "/*\n@use x\n*/\nlet y = 1\n"
  have horganized : organizeDirectives text = "@use x\n\n/*\n*/\nlet y = 1\n" := by
    decide +kernel
  obtain ⟨found, hfound, hflags⟩ : ∃ found, IsSound .builtin {} text found ∧
      found.map Item.isDirective = [false] :=
    exists_isSound (by decide +kernel) (by decide +kernel)
  obtain ⟨other, hother, hflags'⟩ : ∃ found,
      IsSound .builtin {} "@use x\n\n/*\n*/\nlet y = 1\n" found ∧
        found.map Item.isDirective = [true, false] :=
    exists_isSound (by decide +kernel) (by decide +kernel)
  refine ⟨text, found, rfl, horganized, hfound, fun ⟨found', hfound', hsame⟩ => ?_⟩
  rw [horganized] at hfound'
  obtain rfl := hother.unique hfound'
  -- The first item is a directive, but there is none in the document.
  obtain ⟨i, rest, rfl, hi, -⟩ := List.map_eq_cons_iff.1 hflags'
  obtain ⟨d, hd⟩ := Option.isSome_iff_exists.1 hi
  obtain ⟨j, rfl, hj⟩ := List.map_eq_singleton_iff.1 hflags
  have hmem := (hsame.directives d).2 (List.mem_filterMap.2 ⟨i, List.mem_cons_self, hd⟩)
  obtain ⟨j', hj', hd'⟩ := List.mem_filterMap.1 hmem
  rw [List.mem_singleton.1 hj'] at hd'
  rw [Item.isDirective, hd'] at hj
  cases hj

end SunLint
