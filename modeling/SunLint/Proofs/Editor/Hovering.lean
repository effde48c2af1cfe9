import SunLint.Dictionary.Builtin
import SunLint.Editor.Hover
import SunLint.Proofs.Text.Columns
import SunLint.Proofs.Token.Shape

/-!
# What is shown at a place

The word that a hover is about is found from the place outwards, to the left and to the right. What
is found is the one run of word characters that contains the place or touches it (`IsRun.wordAt_eq`,
`exists_isRun`), so all places at a run are the same. The run names a directive if an `@` is
right in front of it, and the `@` is then shown as a part of it.

`Hover.at?_touches`: what is shown at a place, and where nothing is.
-/

namespace SunLint

variable {front word back : List Char} {n : Nat}

/-! ## Runs -/

/-- The word between the two parts of a line is a run of word characters that cannot be extended,
    neither to the left nor to the right. -/
structure IsRun (front word back : List Char) : Prop where
  ne_nil : word ≠ []
  inside : ∀ c ∈ word, Text.isWordChar c = true
  front : ∀ c ∈ front.getLast?, Text.isWordChar c = false
  back : ∀ c ∈ back.head?, Text.isWordChar c = false

/-- The `n`-th character of the line is one of the word, or the one right behind it. -/
def Touches (n : Nat) (front word : List Char) : Prop :=
  front.length ≤ n ∧ n ≤ front.length + word.length

instance : Decidable (Touches n front word) := inferInstanceAs (Decidable (_ ∧ _))

/-- From every place that touches a run the run is found. -/
theorem IsRun.wordAt_eq (h : IsRun front word back) (hn : Touches n front word) :
    wordAt (front ++ word ++ back) n = some (front.length, front.length + word.length) := by
  obtain ⟨k, rfl⟩ := Nat.exists_eq_add_of_le hn.1
  have hk : k ≤ word.length := Nat.add_le_add_iff_left.1 hn.2
  have htake : ((front ++ word ++ back).take (front.length + k)).reverse.takeWhile Text.isWordChar =
      (word.take k).reverse := by
    rw [List.append_assoc, List.take_length_add_append, List.take_append_of_le_length hk,
      List.reverse_append]
    refine Chunk.takeWhile_append_of_stop (fun c hc => ?_) fun c hc => ?_
    · exact h.inside c (List.mem_of_mem_take (List.mem_reverse.1 hc))
    · rw [List.head?_reverse] at hc
      exact h.front c hc
  have hdrop : ((front ++ word ++ back).drop (front.length + k)).takeWhile Text.isWordChar =
      word.drop k := by
    rw [List.append_assoc, List.drop_length_add_append, List.drop_append_of_le_length hk]
    exact Chunk.takeWhile_append_of_stop (fun c hc => h.inside c (List.mem_of_mem_drop hc)) h.back
  have hne : ((word.take k).reverse.isEmpty && (word.drop k).isEmpty) = false := by
    rw [← Bool.not_eq_true, Bool.and_eq_true, List.isEmpty_iff, List.isEmpty_iff]
    rintro ⟨htake, hdrop⟩
    refine h.ne_nil ?_
    rw [← List.take_append_drop k word, List.reverse_eq_nil_iff.1 htake, hdrop, List.append_nil]
  rw [wordAt, if_neg (by simp only [List.length_append]; omega)]
  simp only [htake, hdrop, hne, List.length_reverse, List.length_take, List.length_drop,
    Bool.false_eq_true, if_false]
  congr 2 <;> omega

/-- What is found from a place is a run that touches it. -/
theorem exists_isRun {line : List Char} {first last : Nat}
    (h : wordAt line n = some (first, last)) :
    ∃ front word back, line = front ++ word ++ back ∧ IsRun front word back ∧
      Touches n front word := by
  rw [wordAt] at h
  split at h
  · cases h
  rename_i hn
  dsimp only at h
  split at h
  · cases h
  rename_i hne
  -- What stands in front of the place falls apart from its end, what is behind from its start.
  have htake : ((line.take n).reverse.dropWhile Text.isWordChar).reverse ++
      ((line.take n).reverse.takeWhile Text.isWordChar).reverse = line.take n := by
    rw [← List.reverse_append, List.takeWhile_append_dropWhile, List.reverse_reverse]
  have hdrop := List.takeWhile_append_dropWhile (p := Text.isWordChar) (l := line.drop n)
  have hbefore := List.head?_dropWhile_not Text.isWordChar (line.take n).reverse
  have hbehind := List.head?_dropWhile_not Text.isWordChar (line.drop n)
  generalize (line.take n).reverse.dropWhile Text.isWordChar = before at htake hbefore
  generalize (line.drop n).dropWhile Text.isWordChar = behind at hdrop hbehind
  have hinside : ∀ c ∈ ((line.take n).reverse.takeWhile Text.isWordChar).reverse ++
      (line.drop n).takeWhile Text.isWordChar, Text.isWordChar c = true := by
    intro c hc
    obtain hc | hc := List.mem_append.1 hc
    · exact List.mem_takeWhile_imp (List.mem_reverse.1 hc)
    · exact List.mem_takeWhile_imp hc
  generalize (line.take n).reverse.takeWhile Text.isWordChar = left at *
  generalize (line.drop n).takeWhile Text.isWordChar = right at *
  have hlength := congrArg List.length htake
  rw [List.length_append, List.length_take_of_le (Nat.not_lt.1 hn)] at hlength
  refine ⟨before.reverse, left.reverse ++ right, behind, ?_, ⟨?_, hinside, fun c hc => ?_,
    fun c hc => ?_⟩, ?_, ?_⟩
  · rw [← List.append_assoc, htake, List.append_assoc, hdrop, List.take_append_drop]
  · intro hnil
    obtain ⟨hleft, hright⟩ := List.append_eq_nil_iff.1 hnil
    rw [List.reverse_eq_nil_iff.1 hleft, hright] at hne
    exact hne rfl
  · rw [List.getLast?_reverse] at hc
    rw [hc] at hbefore
    simpa using hbefore
  · rw [hc] at hbehind
    simpa using hbehind
  · omega
  · rw [List.length_append]
    omega

/-- Only one run touches a place. -/
theorem IsRun.unique {front' word' back' : List Char}
    (hline : front ++ word ++ back = front' ++ word' ++ back') (h : IsRun front word back)
    (h' : IsRun front' word' back') (hn : Touches n front word) (hn' : Touches n front' word') :
    front = front' ∧ word = word' ∧ back = back' := by
  have heq := h.wordAt_eq hn
  rw [hline, h'.wordAt_eq hn'] at heq
  obtain ⟨hfront, hlast⟩ := Prod.mk.inj (Option.some.inj heq)
  rw [hfront, Nat.add_left_cancel_iff] at hlast
  rw [List.append_assoc, List.append_assoc] at hline
  obtain ⟨rfl, hrest⟩ := List.append_inj hline hfront.symm
  obtain ⟨rfl, rfl⟩ := List.append_inj hrest hlast.symm
  exact ⟨rfl, rfl, rfl⟩

/-! ## Explanations -/

/-- The hover explains the word that stands behind `front` on the line of that number, and covers
    it: a word behind an `@` as a directive, of which the `@` is a part, and any other word as a
    keyword. -/
inductive Explains (d : Dictionary) (number : Nat) (front word : List Char) : Hover → Prop
  | directive {before : List Char} {text : String} (hmark : front = before ++ ['@'])
    (h : d.directives.find? ("@" ++ String.ofList word) = some text) :
    Explains d number front word
      ⟨"**" ++ ("@" ++ String.ofList word) ++ "** -- " ++ text,
        .onLine number (Text.utf16 before).length (Text.utf16 (front ++ word)).length⟩
  | keyword {text : String} (hmark : front.getLast? ≠ some '@')
    (h : d.describe? (String.ofList word) = some text) :
    Explains d number front word
      ⟨text, .onLine number (Text.utf16 front).length (Text.utf16 (front ++ word)).length⟩

namespace Hover

variable {d : Dictionary} {text : String} {place : Place} {line : List Char}

/-- A run is explained by what it says and by what stands in front of it. -/
theorem explanation?_eq (d : Dictionary) (front word back : List Char) :
    explanation? d (front ++ word ++ back) front.length (front.length + word.length) =
      if front.getLast? = some '@' then
        (d.directives.find? ("@" ++ String.ofList word)).map fun text =>
          ("**" ++ ("@" ++ String.ofList word) ++ "** -- " ++ text, front.length - 1)
      else (d.describe? (String.ofList word)).map fun text => (text, front.length) := by
  have hfront : (front ++ word ++ back).take front.length = front := by
    rw [List.append_assoc, List.take_left]
  have hword : ((front ++ word ++ back).take (front.length + word.length)).drop front.length =
      word := by
    rw [← List.length_append, List.take_left, List.drop_left]
  rw [explanation?, hfront, hword]

/-- What is shown at a run is what explains it. -/
theorem at?_of_isRun (hline : (Text.lines text.toList)[place.line]? = some (front ++ word ++ back))
    (h : IsRun front word back)
    (hn : Touches (Text.charColumn (front ++ word ++ back) place.character) front word)
    (hover : Hover) : at? d text place = some hover ↔ Explains d place.line front word hover := by
  have hat : at? d text place =
      (explanation? d (front ++ word ++ back) front.length (front.length + word.length)).map
        fun explained => ⟨explained.1, .onLine place.line
          (Text.unitColumn (front ++ word ++ back) explained.2)
          (Text.utf16 (front ++ word)).length⟩ := by
    rw [at?, hline]
    simp only [Option.bind_eq_bind, Option.bind_some, h.wordAt_eq hn]
    rw [← Text.unitColumn_append (front ++ word) back, List.length_append]
    cases explanation? d (front ++ word ++ back) front.length (front.length + word.length) <;> rfl
  rw [hat, explanation?_eq]
  split
  · rename_i hmark
    obtain ⟨before, hbefore⟩ := List.getLast?_eq_some_iff.1 hmark
    have hstart : Text.unitColumn (front ++ word ++ back) (front.length - 1) =
        (Text.utf16 before).length := by
      rw [hbefore, List.append_assoc, List.append_assoc, List.length_append, List.length_singleton,
        Nat.add_sub_cancel, Text.unitColumn_append]
    rw [Option.map_map, Option.map_eq_some_iff]
    simp only [Function.comp_apply, hstart]
    constructor
    · rintro ⟨text, htext, rfl⟩
      exact .directive hbefore htext
    · rintro (⟨hmark', htext⟩ | ⟨hmark', -⟩)
      · obtain rfl := List.append_cancel_right (hbefore.symm.trans hmark')
        exact ⟨_, htext, rfl⟩
      · exact absurd hmark hmark'
  · rename_i hmark
    rw [Option.map_map, Option.map_eq_some_iff]
    simp only [Function.comp_apply, List.append_assoc, Text.unitColumn_append]
    constructor
    · rintro ⟨text, htext, rfl⟩
      exact .keyword hmark htext
    · rintro (⟨hmark', -⟩ | ⟨-, htext⟩)
      · exact absurd (by rw [hmark', List.getLast?_concat]) hmark
      · exact ⟨_, htext, rfl⟩

/-- What is shown at a place explains a run that touches it. -/
theorem exists_explains {number unit : Nat} {hover : Hover}
    (h : at? d text ⟨number, unit⟩ = some hover) : ∃ front word back,
      (Text.lines text.toList)[number]? = some (front ++ word ++ back) ∧ IsRun front word back ∧
      Touches (Text.charColumn (front ++ word ++ back) unit) front word ∧
      Explains d number front word hover := by
  have hat := h
  rw [at?] at hat
  obtain ⟨line, hline, hat⟩ := Option.bind_eq_some_iff.1 hat
  obtain ⟨⟨first, last⟩, hword, -⟩ := Option.bind_eq_some_iff.1 hat
  obtain ⟨front, word, back, rfl, hrun, htouches⟩ := exists_isRun hword
  exact ⟨front, word, back, hline, hrun, htouches, (at?_of_isRun hline hrun htouches hover).1 h⟩

/-- The word that is shown is the one run of word characters that contains the character of the
    place or touches it, if there is such a run and the dictionary knows it: as a directive behind
    an `@`, which is shown with it, and otherwise as a keyword. At all places that touch a run the
    same is shown. -/
theorem at?_touches (d : Dictionary) (text : String) (number : Nat) :
    (∀ unit hover, at? d text ⟨number, unit⟩ = some hover ↔
      ∃ front word back, (Text.lines text.toList)[number]? = some (front ++ word ++ back) ∧
        IsRun front word back ∧ Touches (Text.charColumn (front ++ word ++ back) unit) front word ∧
        Explains d number front word hover) ∧
    (∀ front word back front' word' back' n, front ++ word ++ back = front' ++ word' ++ back' →
      IsRun front word back → IsRun front' word' back' → Touches n front word →
      Touches n front' word' → front = front' ∧ word = word' ∧ back = back') ∧
    ∀ front word back unit unit',
      (Text.lines text.toList)[number]? = some (front ++ word ++ back) → IsRun front word back →
      Touches (Text.charColumn (front ++ word ++ back) unit) front word →
      Touches (Text.charColumn (front ++ word ++ back) unit') front word →
      at? d text ⟨number, unit⟩ = at? d text ⟨number, unit'⟩ := by
  refine ⟨fun unit hover => ⟨exists_explains, ?_⟩, ?_, ?_⟩
  · rintro ⟨front, word, back, hline, hrun, htouches, hexplains⟩
    exact (at?_of_isRun hline hrun htouches hover).2 hexplains
  · intro front word back front' word' back' n hline h h' hn hn'
    exact h.unique hline h' hn hn'
  · intro front word back unit unit' hline hrun hunit hunit'
    refine Option.ext fun hover => ?_
    rw [at?_of_isRun hline hrun hunit, at?_of_isRun hline hrun hunit']

/-- A directive behind a character that takes two units, from its first character and from behind
    its last one. -/
theorem at?_touches_of_directive :
    let text := "x\r\n😀 @client"
    let front := "😀 @".toList
    let word := "client".toList
    let line := front ++ word ++ []
    (Text.lines text.toList)[1]? = some line ∧ IsRun front word [] ∧
      Touches (Text.charColumn line 4) front word ∧ Touches (Text.charColumn line 10) front word ∧
      at? .builtin text ⟨1, 4⟩ = at? .builtin text ⟨1, 10⟩ ∧
      ∃ hover, at? .builtin text ⟨1, 10⟩ = some hover ∧ hover.range = .onLine 1 3 10 := by
  intro text front word line
  have hline : (Text.lines text.toList)[1]? = some line := by decide +kernel
  have hinside : word.all Text.isWordChar = true := by decide +kernel
  have hrun : IsRun front word [] := by
    refine ⟨by decide, List.all_eq_true.1 hinside, fun c hc => ?_, nofun⟩
    obtain rfl : '@' = c := Option.some.inj hc
    decide +kernel
  have hfirst : Touches (Text.charColumn line 4) front word := by decide +kernel
  have hlast : Touches (Text.charColumn line 10) front word := by decide +kernel
  obtain ⟨hshown, -, hsame⟩ := at?_touches .builtin text 1
  obtain ⟨explained, hexplained⟩ : ∃ explained,
      Dictionary.builtin.directives.find? ("@" ++ String.ofList word) = some explained :=
    Option.isSome_iff_exists.1 (by decide +kernel)
  have hmark : front = "😀 ".toList ++ ['@'] := rfl
  have hrange : Range.onLine 1 (Text.utf16 "😀 ".toList).length (Text.utf16 (front ++ word)).length =
      .onLine 1 3 10 := by decide +kernel
  exact ⟨hline, hrun, hfirst, hlast, hsame front word [] 4 10 hline hrun hfirst hlast, _,
    (hshown 10 _).2 ⟨front, word, [], hline, hrun, hlast, .directive hmark hexplained⟩, hrange⟩

end Hover

end SunLint
