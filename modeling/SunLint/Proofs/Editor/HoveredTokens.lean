import SunLint.Proofs.Editor.Hovering
import SunLint.Proofs.Editor.Words

/-!
# What is shown at tokens

A hover finds its word by the characters around the place, and the tokens are found by reading the
text from its start. The two agree on where a word ends, but not quite on where it starts: a token
does not start with a numeral, but may stand right behind one, where a hover takes both for one
word. And the `@` of a directive is not a word character, so the directive is only found from what
follows its `@`.

* `Hover.at?_keyword`, `Hover.at?_directive`: where a keyword and a directive are shown;
* `Hover.at?_token`: a token that is explained is shown at each of its characters, but for the `@`
  of a directive and for keywords behind a numeral.
-/

namespace SunLint

variable {d : Dictionary} {source : String} {t : Token} {before after : List Chunk}

/-- The dictionary explains the token, as a word that it describes or as one of its directives. -/
inductive Token.IsExplained (d : Dictionary) (t : Token) : String → Prop
  | keyword {text : String} (hkind : t.kind.wordShape? = some .word)
    (h : d.describe? t.text = some text) : IsExplained d t text
  | directive {text : String} (hkind : t.kind = .directive)
    (h : d.directives.find? t.text = some text) :
    IsExplained d t ("**" ++ t.text ++ "** -- " ++ text)

/-! ## Runs and words -/

/-- No letter stands in front of a word, so if there is a word character, it is a numeral. -/
theorem isWordChar_of_not_opens {c : Char} (h : ¬Opens c) :
    Text.isWordChar c = Text.isNumeral c := by
  have hstarts : Text.startsWord c = false := by
    rw [← Bool.not_eq_true]
    exact fun hc => h (.inl hc)
  rw [Text.startsWord, Bool.or_eq_false_iff] at hstarts
  rw [Text.isWordChar, hstarts.1, hstarts.2, Bool.false_or, Bool.or_false]

theorem IsWord.isWordChar {word : List Char} (h : IsWord .word word) :
    ∀ c ∈ word, Text.isWordChar c = true := by
  cases h with
  | word hc hrest => exact List.forall_mem_cons.2 ⟨Text.isWordChar_of_startsWord hc, hrest⟩

/-- A word behind an `@` that is a directive with it. -/
theorem IsWord.exists_marked {word : List Char} (h : IsWord .directive word) :
    ∃ rest, word = '@' :: rest ∧ IsWord .word rest := by
  cases h with
  | directive hc hrest => exact ⟨_, rfl, .word hc hrest⟩

namespace Token.IsWordIn

variable {shape : Shape} (h : t.IsWordIn source shape before after)
  (hmark : source.toList.head? ≠ some '\ufeff')
include h

/-- What follows the word on its line does not go on with it. -/
theorem isRun {front word tail : List Char} (htail : tail <+: joined after)
    (hword : IsWord .word word) (hfront : ∀ c ∈ front.getLast?, Text.isWordChar c = false) :
    IsRun front word tail where
  ne_nil := hword.ne_nil
  inside := hword.isWordChar
  front := hfront
  back c hc := by
    obtain ⟨rest, hrest⟩ := htail
    refine h.head?_joined c ?_
    rw [← hrest, List.head?_append, hc, Option.some_or]
    exact rfl

include hmark

/-- The place of a character of the word, on the line that the word is on. -/
theorem exists_place : ∃ tail, tail <+: joined after ∧
    let line := Text.lastLine (joined before) ++ t.text.toList ++ tail
    (Text.lines source.toList)[t.position.line - 1]? = some line ∧
      ∀ j, Place.inUnits source ⟨t.position.line - 1, t.position.column - 1 + j⟩ =
        ⟨t.position.line - 1,
          Text.unitColumn line ((Text.lastLine (joined before)).length + j)⟩ := by
  obtain ⟨tail, htail, hline⟩ := h.exists_line hmark
  refine ⟨tail, htail, hline, fun j => ?_⟩
  rw [Place.inUnits, hline, Option.getD_some, h.column_eq]

end Token.IsWordIn

/-! ## Hovers -/

/-- What is shown covers the word, and with it the `@` that makes a directive of it. -/
theorem Explains.range_eq {number : Nat} {front word : List Char} {hover : Hover}
    (h : Explains d number front word hover) : ∃ start marker,
      (marker = [] ∨ marker = ['@']) ∧ front = start ++ marker ∧ hover.range =
        .onLine number (Text.utf16 start).length (Text.utf16 (front ++ word)).length := by
  cases h with
  | directive hmark => exact ⟨_, ['@'], .inr rfl, hmark, rfl⟩
  | keyword => exact ⟨front, [], .inl rfl, (List.append_nil front).symm, rfl⟩

namespace Hover

/-- If a stretch of the line is shown at a place, then the place touches a run: all of the stretch,
    or what follows the `@` that the stretch starts with. -/
theorem exists_isRun_of_range {number n : Nat} {front word tail : List Char} {hover : Hover}
    (hline : (Text.lines source.toList)[number]? = some (front ++ word ++ tail))
    (h : at? d source ⟨number, Text.unitColumn (front ++ word ++ tail) n⟩ = some hover)
    (hrange : hover.range =
      .onLine number (Text.utf16 front).length (Text.utf16 (front ++ word)).length) :
    ∃ marker word', (marker = [] ∨ marker = ['@']) ∧ word = marker ++ word' ∧
      IsRun (front ++ marker) word' tail ∧ Touches n (front ++ marker) word' := by
  obtain ⟨front', word', back', hline', hrun, htouches, hexplains⟩ := exists_explains h
  have hparts := Option.some.inj (hline.symm.trans hline')
  rw [← hparts, Text.charColumn_unitColumn] at htouches
  obtain ⟨start, marker, hmarker, rfl, hrange'⟩ := hexplains.range_eq
  -- Both ranges are of the same line, and a part of a line has its own number of units.
  rw [hrange'] at hrange
  simp only [Range.onLine, Range.mk.injEq, Place.mk.injEq, true_and] at hrange
  have hstop : start ++ marker ++ word' = front ++ word :=
    Text.eq_of_length_utf16 hparts.symm hrange.2
  rw [hstop] at hparts
  obtain rfl := List.append_cancel_left hparts
  rw [List.append_assoc] at hstop
  obtain rfl := Text.eq_of_length_utf16 hstop hrange.1
  exact ⟨marker, word', hmarker, (List.append_cancel_left hstop).symm, hrun, htouches⟩

section Token

variable {shape : Shape} (h : t.IsWordIn source shape before after)
  (hmark : source.toList.head? ≠ some '\ufeff') {j : Nat} (hj : j < t.text.length) {text : String}
include h hmark hj

/-- A keyword is shown at all of its characters, or at none if a numeral is in front of it. -/
theorem at?_keyword (hshape : shape = .word) (hexplained : d.describe? t.text = some text) :
    at? d source (Place.inUnits source ⟨t.position.line - 1, t.position.column - 1 + j⟩) =
        some ⟨text, (Range.ofPosition t.position.line t.position.column t.width).inUnits source⟩ ↔
      ∀ c ∈ (joined before).getLast?, Text.isNumeral c = false := by
  subst hshape
  obtain ⟨tail, htail, hline, hplace⟩ := h.exists_place hmark
  have hopens : ∀ c ∈ (joined before).getLast?, ¬Opens c := not_opens_of_chunks h.chunks rfl
  rw [hplace, h.range_eq hmark]
  constructor
  · intro hshown c hc
    obtain ⟨marker, word, hmarker, hword, hrun, -⟩ := exists_isRun_of_range hline hshown rfl
    rw [← isWordChar_of_not_opens (hopens c hc)]
    obtain rfl | rfl := hmarker
    · -- The run starts where the keyword does, so what is in front of it is no part of a run.
      by_cases hnl : c = '\n'
      · rw [hnl]
        decide +kernel
      · refine hrun.front c ?_
        rw [List.append_nil]
        exact Text.mem_getLast?_lastLine.2 ⟨hc, hnl⟩
    · have hmem : '@' ∈ t.text.toList := by rw [hword]; exact List.mem_cons_self
      exact absurd (h.isWord.isWordChar _ hmem) (by decide +kernel)
  · intro hnumeral
    have hfront : ∀ c ∈ (Text.lastLine (joined before)).getLast?, Text.isWordChar c = false := by
      intro c hc
      have hlast := (Text.mem_getLast?_lastLine.1 hc).1
      rw [isWordChar_of_not_opens (hopens c hlast), hnumeral c hlast]
    have hmarker : (Text.lastLine (joined before)).getLast? ≠ some '@' := fun hlast =>
      hopens '@' (Text.mem_getLast?_lastLine.1 hlast).1 (.inr rfl)
    refine (at?_of_isRun hline (h.isRun htail h.isWord hfront) ?_ _).2 (.keyword hmarker ?_)
    · rw [Text.charColumn_unitColumn]
      rw [← String.length_toList] at hj
      exact ⟨Nat.le_add_right _ _, Nat.add_le_add_left (Nat.le_of_lt hj) _⟩
    · rw [String.ofList_toList]
      exact hexplained

/-- A directive is shown at all of its characters but the first one. -/
theorem at?_directive (hshape : shape = .directive)
    (hexplained : d.directives.find? t.text = some text) :
    at? d source (Place.inUnits source ⟨t.position.line - 1, t.position.column - 1 + j⟩) =
        some ⟨"**" ++ t.text ++ "** -- " ++ text,
          (Range.ofPosition t.position.line t.position.column t.width).inUnits source⟩ ↔
      0 < j := by
  subst hshape
  obtain ⟨tail, htail, hline, hplace⟩ := h.exists_place hmark
  obtain ⟨word, hmarked, hword⟩ := h.isWord.exists_marked
  have htext : "@" ++ String.ofList word = t.text := by
    rw [← String.ofList_toList (s := t.text), hmarked, String.ofList_cons]
    rfl
  rw [hplace, h.range_eq hmark]
  constructor
  · intro hshown
    obtain ⟨marker, word', hmarker, hparts, hrun, htouches⟩ :=
      exists_isRun_of_range hline hshown rfl
    obtain rfl | rfl := hmarker
    · have hmem : '@' ∈ word' := by
        rw [← List.nil_append word', ← hparts, hmarked]
        exact List.mem_cons_self
      exact absurd (hrun.inside _ hmem) (by decide +kernel)
    · -- The run starts behind the place of the `@`.
      have hle := htouches.1
      rw [List.length_append, List.length_singleton] at hle
      omega
  · intro hpos
    have hassoc (back : List Char) : Text.lastLine (joined before) ++ t.text.toList ++ back =
        Text.lastLine (joined before) ++ ['@'] ++ word ++ back := by
      rw [hmarked, List.append_assoc _ ['@'], List.singleton_append]
    have hstop := hassoc []
    rw [List.append_nil, List.append_nil] at hstop
    rw [hassoc] at hline
    have hrun : IsRun (Text.lastLine (joined before) ++ ['@']) word tail :=
      h.isRun htail hword fun c hc => by
        rw [List.getLast?_concat] at hc
        obtain rfl := Option.some.inj hc
        decide +kernel
    rw [hassoc, hstop, ← htext]
    refine (at?_of_isRun hline hrun ?_ _).2 (.directive rfl (by rw [htext]; exact hexplained))
    rw [Text.charColumn_unitColumn]
    have hlength := congrArg List.length hmarked
    rw [String.length_toList, List.length_cons] at hlength
    constructor <;> rw [List.length_append, List.length_singleton] <;> omega

end Token

/-- A token that the dictionary explains is shown at each of its characters with exactly its range,
    except at the `@` of a directive, and nowhere on a keyword right behind a numeral. -/
theorem at?_token (d : Dictionary) {source : String} (hmark : source.toList.head? ≠ some '\ufeff')
    {t : Token} (ht : t ∈ (tokenize source).tokens) {markdown : String}
    (h : t.IsExplained d markdown) : ∃ front back,
      source.toList = front ++ t.text.toList ++ back ∧ t.position = Position.start.after front ∧
      ∀ j < t.text.length,
        at? d source (Place.inUnits source ⟨t.position.line - 1, t.position.column - 1 + j⟩) =
            some ⟨markdown,
              (Range.ofPosition t.position.line t.position.column t.width).inUnits source⟩ ↔
          (t.kind = .directive → 0 < j) ∧
            (t.kind ≠ .directive → ∀ c ∈ front.getLast?, Text.isNumeral c = false) := by
  cases h with
  | keyword hkind h =>
    have hne : t.kind ≠ .directive := fun hdirective => by
      rw [hdirective] at hkind
      cases hkind
    obtain ⟨before, after, hin⟩ := Token.exists_isWordIn ht hkind
    refine ⟨joined before, joined after, hin.toList_eq hmark, hin.position, fun j hj => ?_⟩
    rw [at?_keyword hin hmark hj rfl h]
    exact ⟨fun hnumeral => ⟨fun hkind => absurd hkind hne, fun _ => hnumeral⟩,
      fun hboth => hboth.2 hne⟩
  | directive hkind h =>
    have hdirective : t.kind.wordShape? = some .directive := by rw [hkind]; rfl
    obtain ⟨before, after, hin⟩ := Token.exists_isWordIn ht hdirective
    refine ⟨joined before, joined after, hin.toList_eq hmark, hin.position, fun j hj => ?_⟩
    rw [at?_directive hin hmark hj rfl h]
    exact ⟨fun hpos => ⟨fun _ => hpos, fun hne => absurd hkind hne⟩, fun hboth => hboth.1 hkind⟩

/-- A directive behind a character that takes two units, at its last character. -/
theorem at?_token_of_directive :
    let source := "x\r\n/* 😀 */ @client"
    let t : Token := ⟨.directive, "@client", ⟨2, 9⟩⟩
    source.toList.head? ≠ some '\ufeff' ∧ t ∈ (tokenize source).tokens ∧
      ∃ markdown, t.IsExplained .builtin markdown ∧
        at? .builtin source ⟨1, 15⟩ = some ⟨markdown, .onLine 1 9 16⟩ := by
  intro source t
  have hmark : source.toList.head? ≠ some '\ufeff' := by decide
  have ht : t ∈ (tokenize source).tokens := by decide +kernel
  obtain ⟨text, htext⟩ : ∃ text, Dictionary.builtin.directives.find? t.text = some text :=
    Option.isSome_iff_exists.1 (by decide +kernel)
  have hexplained := Token.IsExplained.directive (t := t) rfl htext
  obtain ⟨front, back, -, -, hshown⟩ := at?_token .builtin hmark ht hexplained
  have hplace : Place.inUnits source ⟨t.position.line - 1, t.position.column - 1 + 6⟩ =
      ⟨1, 15⟩ := by decide +kernel
  have hrange : (Range.ofPosition t.position.line t.position.column t.width).inUnits source =
      .onLine 1 9 16 := by decide +kernel
  have hlast := (hshown 6 (by decide)).2 ⟨fun _ => by decide, fun hne => absurd rfl hne⟩
  rw [hplace, hrange] at hlast
  exact ⟨hmark, ht, _, hexplained, hlast⟩

/-- At the `@` of a directive nothing is shown, and nothing on a keyword behind a numeral. -/
theorem explained_not_shown :
    (let source := "@use x"
      let t : Token := ⟨.directive, "@use", ⟨1, 1⟩⟩
      t ∈ (tokenize source).tokens ∧ (∃ markdown, t.IsExplained .builtin markdown) ∧
        Place.inUnits source ⟨t.position.line - 1, t.position.column - 1⟩ = ⟨0, 0⟩ ∧
        at? .builtin source ⟨0, 0⟩ = none) ∧
      let source := "1when x"
      let t : Token := ⟨.whenKw, "when", ⟨1, 2⟩⟩
      t ∈ (tokenize source).tokens ∧ (∃ markdown, t.IsExplained .builtin markdown) ∧
        ∀ j ≤ 4, at? .builtin source (Place.inUnits source
          ⟨t.position.line - 1, t.position.column - 1 + j⟩) = none := by
  refine ⟨⟨by decide +kernel, ?_, by decide +kernel, by decide +kernel⟩, by decide +kernel, ?_,
    by decide +kernel⟩
  · obtain ⟨text, htext⟩ : ∃ text, Dictionary.builtin.directives.find? "@use" = some text :=
      Option.isSome_iff_exists.1 (by decide +kernel)
    exact ⟨_, .directive rfl htext⟩
  · obtain ⟨text, htext⟩ : ∃ text, Dictionary.builtin.describe? "when" = some text :=
      Option.isSome_iff_exists.1 (by decide +kernel)
    exact ⟨text, .keyword rfl htext⟩

end Hover

end SunLint
