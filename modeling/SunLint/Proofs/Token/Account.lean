import Mathlib.Data.List.Nodup
import SunLint.Proofs.Token.Tiles

/-!
# Every character is accounted for

Each of the tiles of a text is a token, a comment, a blank or a stray character. So the
stretches of tokens, of comments and of stray characters are disjoint, outside of them
there is only white space, and the errors are about the stray characters and about
strings and comments without an end.

* `Accounts`: what becomes of the characters of a text in its token stream;
* `tokenize_accounts`: this holds of every text.
-/

namespace SunLint

variable {u : List Char} {i j : Nat}

/-! ## Tokens and errors of chunks -/

/-- A word is read as a keyword only if it is spelled as one. -/
theorem Kind.spelling?_of_ofWord? {word : String} {kind : Kind} (h : ofWord? word = some kind) :
    kind.spelling? = some word := by
  simpa using List.find?_some h

/-- The error is about a single character that belongs to nothing. -/
def LexicalError.isStray (e : LexicalError) : Bool :=
  e.code = .unexpectedCharacter || e.code = .invalidEncoding

namespace Placed

/-- Whether the chunk is a comment. -/
def isComment (ch : Placed) : Bool :=
  match ch.shape with
  | .lineComment | .blockComment _ => true
  | _ => false

/-- What is no token is a comment, a stray character or a blank. -/
theorem kind?_eq_none_iff {ch : Placed} :
    ch.kind? = none ↔ ch.isComment = true ∨ ch.shape = .stray ∨ ch.shape = .blank := by
  rw [kind?, isComment]
  cases ch.shape <;> simp

theorem isComment_of_stray {ch : Placed} (h : ch.shape = .stray) : ch.isComment = false := by
  rw [isComment, h]

/-- What the kind of a token says about the chunk that it is. -/
structure HasKind (ch : Placed) (kind : Kind) : Prop where
  ne_eof : kind ≠ .eof
  string_iff : kind = .string ↔ ∃ closed, ch.shape = .string closed
  /-- Keywords are written as they are spelled. -/
  text_of_spelling : ∀ word, kind.spelling? = some word → String.ofList ch.text = word

theorem hasKind_of_kind? {ch : Placed} {rest : List Char} {kind : Kind} (hfits : ch.Fits rest)
    (h : ch.kind? = some kind) : ch.HasKind kind := by
  rw [Chunk.Fits] at hfits
  rw [kind?] at h
  cases hshape : ch.shape with
  | string closed =>
    rw [hshape] at h
    cases h
    exact ⟨by decide, ⟨fun _ => ⟨closed, hshape⟩, fun _ => rfl⟩, by simp [Kind.spelling?]⟩
  | word =>
    rw [hshape] at h
    cases hword : Kind.ofWord? (String.ofList ch.text) with
    | none =>
      obtain rfl : Kind.text = kind := by simpa [hword] using h
      exact ⟨by decide, by simp [hshape], by simp [Kind.spelling?]⟩
    | some keyword =>
      obtain rfl : keyword = kind := by simpa [hword] using h
      have hspelling := Kind.spelling?_of_ofWord? hword
      refine ⟨?_, ⟨?_, by simp [hshape]⟩, fun word h => Option.some.inj (hspelling.symm.trans h)⟩
      · rintro rfl
        cases hspelling
      · rintro rfl
        cases hspelling
  | mark mark =>
    rw [hshape] at h hfits
    obtain rfl : mark = kind := Option.some.inj h
    -- Punctuation is not a string, and it has no spelling.
    refine ⟨?_, ⟨?_, by simp [hshape]⟩, ?_⟩ <;> cases mark <;>
      simp [Kind.isPunctuation, Kind.spelling?] at hfits ⊢
  | operator =>
    rw [hshape] at h
    change some (if ch.text = ['='] then Kind.equals else .symbol) = some kind at h
    split at h <;> cases h <;> exact ⟨by decide, by simp [hshape], by simp [Kind.spelling?]⟩
  | newline | number | directive =>
    rw [hshape] at h
    cases h
    exact ⟨by decide, by simp [hshape], by simp [Kind.spelling?]⟩
  | blank | lineComment | blockComment | stray =>
    rw [hshape] at h
    cases h

theorem token?_eq_some {ch : Placed} {t : Token} (h : ch.token? = some t) :
    ch.kind? = some t.kind ∧ t.text.toList = ch.text ∧ t.position = ch.position := by
  obtain ⟨kind, hkind, rfl⟩ := Option.map_eq_some_iff.1 h
  exact ⟨hkind, by simp, rfl⟩

theorem isStray_strayError (c : Char) (p : Position) :
    (strayError c p).isStray = true ∧ (strayError c p).position = p ∧
      (strayError c p).length = 1 := by
  unfold strayError
  split
  · exact ⟨rfl, rfl, rfl⟩
  · split <;> exact ⟨rfl, rfl, rfl⟩

/-- The token is a string without its closing quote if the chunk is. -/
theorem unquoted_token? (ch : Placed) {l : List Char}
    (hfits : ∃ rest, l = ch.text ++ rest ∧ ch.Fits rest) :
    ((ch.token?.filter fun t => t.kind = .string && !Chunk.isQuoted t.text.toList).map
      fun t => (t.position, t.text.length)) =
        if ch.shape = .string false then some (ch.position, ch.text.length) else none := by
  obtain ⟨rest, _, hfits⟩ := hfits
  cases htoken : ch.token? with
  | none =>
    have hs : ch.shape ≠ .string false := by
      intro hs
      simp [token?, kind?, hs] at htoken
    simp [hs]
  | some t =>
    obtain ⟨hkind, htext, hposition⟩ := token?_eq_some htoken
    have hstring := (hasKind_of_kind? hfits hkind).string_iff
    have hlength : t.text.length = ch.text.length := by rw [← htext, String.length_toList]
    by_cases hk : t.kind = .string
    · obtain ⟨closed, hs⟩ := hstring.1 hk
      rw [Chunk.Fits, hs] at hfits
      cases closed <;> simp [Option.filter, hk, htext, hfits, hs, hposition, hlength]
    · have hs : ch.shape ≠ .string false := fun hs => hk (hstring.2 ⟨_, hs⟩)
      simp [Option.filter, hk, hs]

/-- Where an error is, and what it is about. -/
theorem error?_eq_some {ch : Placed} {e : LexicalError} (h : ch.error? = some e) :
    e.position = ch.position ∧
      (ch.shape = .blockComment false ∧ e.code = .unterminatedComment ∨
        ch.shape = .string false ∧ e.code = .unterminatedString ∧ e.length = ch.text.length ∨
        ch.shape = .stray ∧ e.isStray = true ∧ e.length = 1) := by
  unfold error? at h
  split at h
  · rename_i hshape
    cases h
    exact ⟨rfl, .inl ⟨hshape, rfl⟩⟩
  · rename_i quote inner hshape htext
    cases h
    exact ⟨rfl, .inr (.inl ⟨hshape, rfl, by rw [htext, List.length_cons]⟩)⟩
  · rename_i c rest hshape htext
    cases h
    obtain ⟨hstray, hposition, hlength⟩ := isStray_strayError c ch.position
    exact ⟨hposition, .inr (.inr ⟨hshape, hstray, hlength⟩)⟩
  · cases h

/-- A chunk with a defect has an error. -/
theorem error?_ne_none {ch : Placed} (hne : ch.text ≠ [])
    (h : ch.shape = .string false ∨ ch.shape = .stray) : ch.error? ≠ none := by
  obtain ⟨c, rest, htext⟩ := List.exists_cons_of_ne_nil hne
  obtain h | h := h <;> rw [error?, h, htext] <;> exact nofun

end Placed

/-! ## The account -/

/-- The stretches of a text that are tokens, comments and stray characters, given by
    where they start and how long they are. -/
def stretches (pieces : List (Nat × Token)) (comments : List (Nat × List Char))
    (strays : List Nat) : List (Nat × Nat) :=
  pieces.map (fun p => (p.1, p.2.text.length)) ++ (comments.map (fun c => (c.1, c.2.length)) ++
    strays.map (fun i => (i, 1)))

/-- The stretches do not overlap. -/
def Apart (s s' : Nat × Nat) : Prop := s.1 + s.2 ≤ s'.1 ∨ s'.1 + s'.2 ≤ s.1

/-- What became of the characters of the text `u`: which of them are tokens, where the
    comments are, and which belong to neither. -/
structure Accounts (u : List Char) (stream : TokenStream) (pieces : List (Nat × Token))
    (comments : List (Nat × List Char)) (strays : List Nat) : Prop where
  /-- One mark for the end of the input stands at the end of the text. -/
  tokens_eq : stream.tokens = pieces.map Prod.snd ++ [.eof (.ofIndex u u.length)]
  /-- Any other token is a piece of the text and has the position of its first
      character. -/
  isPiece : ∀ p ∈ pieces, p.2.kind ≠ .eof ∧ p.2.text ≠ "" ∧ p.2.text.toList <+: u.drop p.1 ∧
    p.2.position = .ofIndex u p.1
  /-- The tokens are in the order of the text. -/
  increasing : pieces.Pairwise fun p q => p.1 + p.2.text.length ≤ q.1
  isComment : ∀ c ∈ comments, ∃ rest, u.drop c.1 = c.2 ++ rest ∧ Chunk.IsComment c.2 rest
  isStray : ∀ i ∈ strays, i < u.length
  apart : (stretches pieces comments strays).Pairwise Apart
  /-- What is outside of the stretches is white space within a line. -/
  covers : ∀ j c, u[j]? = some c →
    (∃ s ∈ stretches pieces comments strays, s.1 ≤ j ∧ j < s.1 + s.2) ∨
      Text.isBlank c ∧ c ≠ '\n'
  /-- The errors about single characters are about those that are stray. -/
  strayErrors : ((stream.errors.filter LexicalError.isStray).map fun e => (e.position, e.length)) =
    strays.map fun i => (.ofIndex u i, 1)
  strayErrors_unique : ∀ i ∈ strays,
    stream.errors.countP (fun e => e.isStray && e.position = .ofIndex u i) = 1
  /-- The errors about strings are about those without their closing quote. -/
  stringErrors : ((stream.errors.filter fun e => e.code = .unterminatedString).map
    fun e => (e.position, e.length)) =
      (stream.tokens.filter fun t => t.kind = .string && !Chunk.isQuoted t.text.toList).map
        fun t => (t.position, t.text.length)
  commentErrors : stream.errors.countP (fun e => e.code = .unterminatedComment) ≤ 1
  /-- The errors are in the order of the text. -/
  errors_increasing : stream.errors.Pairwise fun e f => e.position < f.position

namespace Tile

/-- The token that the tile is, if it is one. -/
def piece? (t : Tile) : Option (Nat × Token) := t.token?.map (t.start, ·)

/-- The comment that the tile is, if it is one. -/
def comment? (t : Tile) : Option (Nat × List Char) :=
  if t.isComment then some (t.start, t.text) else none

/-- The index of the tile if it is a stray character. -/
def stray? (t : Tile) : Option Nat := if t.shape = .stray then some t.start else none

theorem piece?_eq_some {t : Tile} {p : Nat × Token} (h : t.piece? = some p) :
    p.1 = t.start ∧ t.token? = some p.2 := by
  obtain ⟨token, htoken, rfl⟩ := Option.map_eq_some_iff.1 h
  exact ⟨rfl, htoken⟩

theorem comment?_eq_some {t : Tile} {c : Nat × List Char} (h : t.comment? = some c) :
    t.isComment = true ∧ c = (t.start, t.text) := by
  unfold comment? at h
  split at h
  · rename_i hc
    exact ⟨hc, (Option.some.inj h).symm⟩
  · cases h

theorem stray?_eq_some {t : Tile} (h : t.stray? = some i) : t.shape = .stray ∧ i = t.start := by
  unfold stray? at h
  split at h
  · rename_i hs
    exact ⟨hs, (Option.some.inj h).symm⟩
  · cases h

theorem IsIn.isComment {t : Tile} (h : t.IsIn u) (hc : t.isComment = true) :
    ∃ rest, u.drop t.start = t.text ++ rest ∧ Chunk.IsComment t.text rest := by
  obtain ⟨rest, hrest, hfits⟩ := h.fits
  refine ⟨rest, hrest, ?_⟩
  rw [Chunk.Fits] at hfits
  rw [Placed.isComment] at hc
  cases hshape : t.shape with
  | lineComment =>
    rw [hshape] at hfits
    exact hfits
  | blockComment closed =>
    rw [hshape] at hfits
    cases closed with
    | true => exact hfits
    | false => exact hfits.1
  | _ =>
    rw [hshape] at hc
    cases hc

end Tile

namespace Tiles

open Tile

variable {l : List Tile}

/-- The stretches of the tiles that satisfy `p`. -/
def stretchesOf (l : List Tile) (p : Tile → Bool) : List (Nat × Nat) :=
  (l.filter p).map fun t => (t.start, t.text.length)

theorem mem_stretchesOf {p : Tile → Bool} {s : Nat × Nat} :
    s ∈ stretchesOf l p ↔ ∃ t ∈ l, p t = true ∧ (t.start, t.text.length) = s := by
  simp only [stretchesOf, List.mem_map, List.mem_filter, and_assoc]

/-- What is read off every tile that satisfies `p`, and is as long as the tile. -/
theorem map_filterMap_eq {β : Type} {f : Tile → Option β} {g : β → Nat × Nat} {p : Tile → Bool}
    (h : ∀ t ∈ l, (f t).map g = if p t then some (t.start, t.text.length) else none) :
    (l.filterMap f).map g = stretchesOf l p := by
  rw [List.map_filterMap, List.filterMap_congr h, ← List.filterMap_filter, stretchesOf,
    ← List.filterMap_eq_map]
  rfl

/-- The stretches of tokens, comments and stray characters are those of the tiles that are
    tokens, comments and stray characters. -/
theorem stretches_eq (h : Tiles u i l) :
    stretches (l.filterMap piece?) (l.filterMap comment?) (l.filterMap stray?) =
      stretchesOf l (fun t => t.kind?.isSome) ++
        (stretchesOf l (fun t => t.isComment) ++ stretchesOf l (fun t => t.shape = .stray)) := by
  have hpieces : (l.filterMap piece?).map (fun p => (p.1, p.2.text.length)) =
      stretchesOf l (fun t => t.kind?.isSome) := by
    refine map_filterMap_eq fun t _ => ?_
    rw [piece?, Placed.token?]
    cases t.kind? <;> simp
  have hcomments : (l.filterMap comment?).map (fun c => (c.1, c.2.length)) =
      stretchesOf l (fun t => t.isComment) := by
    refine map_filterMap_eq fun t _ => ?_
    rw [comment?]
    split <;> rfl
  have hstrays : (l.filterMap stray?).map (fun i => (i, 1)) =
      stretchesOf l (fun t => t.shape = .stray) := by
    refine map_filterMap_eq fun t ht => ?_
    rw [stray?]
    by_cases hs : t.shape = .stray
    · -- A stray character is a single one.
      obtain ⟨rest, _, hfits⟩ := (h.isIn t ht).2.fits
      rw [Chunk.Fits, hs] at hfits
      obtain ⟨c, hc⟩ := hfits
      simp [hs, hc]
    · simp [hs]
  rw [stretches, hpieces, hcomments, hstrays]

theorem apart_of_ne (h : Tiles u i l) {t t' : Tile} (ht : t ∈ l) (ht' : t' ∈ l) (hne : t ≠ t') :
    Apart (t.start, t.text.length) (t'.start, t'.text.length) :=
  h.disjoint ht ht' hne

theorem pairwise_stretchesOf (h : Tiles u i l) (p : Tile → Bool) :
    (stretchesOf l p).Pairwise Apart :=
  List.pairwise_map.2 ((h.pairwise.imp Or.inl).filter p)

/-- What is read off tiles of different sorts does not overlap. -/
theorem apart_of_exclusive (h : Tiles u i l) {p q : Tile → Bool}
    (hpq : ∀ t, p t = true → q t = false) :
    ∀ s ∈ stretchesOf l p, ∀ s' ∈ stretchesOf l q, Apart s s' := by
  intro s hs s' hs'
  obtain ⟨t, ht, hpt, rfl⟩ := mem_stretchesOf.1 hs
  obtain ⟨t', ht', hqt', rfl⟩ := mem_stretchesOf.1 hs'
  refine h.apart_of_ne ht ht' fun heq => ?_
  rw [heq] at hpt
  rw [hpq t' hpt] at hqt'
  cases hqt'

theorem pairwise_apart (h : Tiles u i l) :
    (stretches (l.filterMap piece?) (l.filterMap comment?) (l.filterMap stray?)).Pairwise
      Apart := by
  have hkind (t : Tile) (ht : t.kind?.isSome = true) : t.isComment = false ∧ t.shape ≠ .stray := by
    have hne : t.kind? ≠ none := Option.isSome_iff_ne_none.1 ht
    rw [Ne, Placed.kind?_eq_none_iff, not_or, not_or, Bool.not_eq_true] at hne
    exact ⟨hne.1, hne.2.1⟩
  have hcomment (t : Tile) (ht : t.isComment = true) : t.shape ≠ .stray := fun hs => by
    rw [Placed.isComment_of_stray hs] at ht
    cases ht
  rw [h.stretches_eq, List.pairwise_append, List.pairwise_append]
  refine ⟨h.pairwise_stretchesOf _, ⟨h.pairwise_stretchesOf _, h.pairwise_stretchesOf _, ?_⟩, ?_⟩
  · exact h.apart_of_exclusive fun t ht => by simpa using hcomment t ht
  · intro s hs s' hs'
    rcases List.mem_append.1 hs' with hs' | hs'
    · exact h.apart_of_exclusive (fun t ht => (hkind t ht).1) s hs s' hs'
    · exact h.apart_of_exclusive (fun t ht => by simpa using (hkind t ht).2) s hs s' hs'

/-- Outside of tokens, comments and stray characters there are blanks only. -/
theorem covers_stretches (h : Tiles u 0 l) {c : Char} (hj : u[j]? = some c) :
    (∃ s ∈ stretches (l.filterMap piece?) (l.filterMap comment?) (l.filterMap stray?),
      s.1 ≤ j ∧ j < s.1 + s.2) ∨ Text.isBlank c ∧ c ≠ '\n' := by
  obtain ⟨t, ht, hin⟩ := h.covers (Nat.zero_le j) (List.getElem?_eq_some_iff.1 hj).1
  have hstretch {p : Tile → Bool} (hp : p t = true) :
      ∃ s ∈ stretchesOf l p, s.1 ≤ j ∧ j < s.1 + s.2 :=
    ⟨_, mem_stretchesOf.2 ⟨t, ht, hp, rfl⟩, hin⟩
  simp only [h.stretches_eq, List.mem_append, or_and_right, exists_or]
  cases hkind : t.kind? with
  | some kind => exact .inl (.inl (hstretch (by rw [hkind]; rfl)))
  | none =>
    obtain hc | hs | hb := Placed.kind?_eq_none_iff.1 hkind
    · exact .inl (.inr (.inl (hstretch hc)))
    · exact .inl (.inr (.inr (hstretch (by simpa using hs))))
    · -- A blank is a single character, the one at the index.
      obtain ⟨rest, hrest, hfits⟩ := (h.isIn t ht).2.fits
      rw [Chunk.Fits, hb] at hfits
      obtain ⟨c', hc', hblank⟩ := hfits
      obtain rfl : t.start = j := by
        have := hin.2
        rw [stop, hc', List.length_singleton] at this
        omega
      have hhead : (u.drop t.start)[0]? = some c := by rw [List.getElem?_drop, ← hj]; rfl
      rw [hrest, hc'] at hhead
      obtain rfl : c' = c := Option.some.inj hhead
      exact .inr hblank

/-- A token is a piece of the text, at its own position. -/
theorem isPiece (h : Tiles u i l) {p : Nat × Token} (hp : p ∈ l.filterMap piece?) :
    p.2.kind ≠ .eof ∧ p.2.text ≠ "" ∧ p.2.text.toList <+: u.drop p.1 ∧
      p.2.position = .ofIndex u p.1 := by
  obtain ⟨t, ht, hpiece⟩ := List.mem_filterMap.1 hp
  obtain ⟨hstart, htoken⟩ := piece?_eq_some hpiece
  obtain ⟨hkind, htext, hposition⟩ := Placed.token?_eq_some htoken
  have hin := (h.isIn t ht).2
  obtain ⟨rest, hrest, hfits⟩ := hin.fits
  refine ⟨fun heof => ?_, fun hempty => ?_, ?_, ?_⟩
  · exact (Placed.hasKind_of_kind? hfits hkind).ne_eof heof
  · exact hin.ne_nil (by rw [← htext, hempty]; rfl)
  · exact ⟨rest, by rw [htext, hstart, hrest]⟩
  · rw [hposition, hin.position, hstart]

theorem increasing (h : Tiles u i l) :
    (l.filterMap piece?).Pairwise fun p q => p.1 + p.2.text.length ≤ q.1 := by
  refine List.pairwise_filterMap.2 (h.pairwise.imp fun {t t'} hle p hp q hq => ?_)
  obtain ⟨hstart, htoken⟩ := piece?_eq_some hp
  obtain ⟨hstart', _⟩ := piece?_eq_some hq
  have hlength : p.2.text.length = t.text.length := by
    rw [← (Placed.token?_eq_some htoken).2.1, String.length_toList]
  rw [hstart, hstart', hlength]
  exact hle

/-! ### Errors -/

/-- The errors of the tiles are in the order of the text. -/
theorem errors_increasing (h : Tiles u i l) :
    (l.filterMap (·.error?)).Pairwise fun e f => e.position < f.position := by
  refine List.pairwise_filterMap.2 (h.pairwise.imp_of_mem fun {t t'} ht ht' hle e he f hf => ?_)
  rw [(Placed.error?_eq_some he).1, (Placed.error?_eq_some hf).1, (h.isIn t ht).2.position,
    (h.isIn t' ht').2.position]
  exact h.ofIndex_lt ht ht' hle

/-- The errors about single characters are those of the stray ones. -/
theorem strayErrors (h : Tiles u i l) :
    (((l.filterMap (·.error?)).filter LexicalError.isStray).map fun e => (e.position, e.length)) =
      (l.filterMap stray?).map fun i => (.ofIndex u i, 1) := by
  rw [List.filter_filterMap, List.map_filterMap, List.map_filterMap]
  refine List.filterMap_congr fun t ht => ?_
  have hin := (h.isIn t ht).2
  rw [stray?]
  cases herror : t.error? with
  | none =>
    have hshape : t.shape ≠ .stray := fun hs => Placed.error?_ne_none hin.ne_nil (.inr hs) herror
    simp [hshape]
  | some e =>
    obtain ⟨hposition, hcode⟩ := Placed.error?_eq_some herror
    obtain ⟨hs, hcode⟩ | ⟨hs, hcode, _⟩ | ⟨hs, hcode, hlength⟩ := hcode
    · simp [Option.filter, LexicalError.isStray, hs, hcode]
    · simp [Option.filter, LexicalError.isStray, hs, hcode]
    · simp [Option.filter, hs, hcode, hlength, hposition, hin.position]

/-- The errors about strings are those of the strings without their closing quote. -/
theorem stringErrors (h : Tiles u i l) :
    (((l.filterMap (·.error?)).filter fun e => e.code = .unterminatedString).map
        fun e => (e.position, e.length)) =
      ((l.filterMap (·.token?)).filter fun t => t.kind = .string &&
        !Chunk.isQuoted t.text.toList).map fun t => (t.position, t.text.length) := by
  rw [List.filter_filterMap, List.map_filterMap, List.filter_filterMap, List.map_filterMap]
  refine List.filterMap_congr fun t ht => ?_
  have hin := (h.isIn t ht).2
  rw [t.unquoted_token? hin.fits]
  cases herror : t.error? with
  | none =>
    have hshape : t.shape ≠ .string false := fun hs =>
      Placed.error?_ne_none hin.ne_nil (.inl hs) herror
    simp [hshape]
  | some e =>
    obtain ⟨hposition, hcode⟩ := Placed.error?_eq_some herror
    obtain ⟨hs, hcode⟩ | ⟨hs, hcode, hlength⟩ | ⟨hs, hcode, _⟩ := hcode
    · simp [Option.filter, hs, hcode]
    · simp [Option.filter, hs, hcode, hlength, hposition]
    · have hne : e.code ≠ .unterminatedString := fun heq => by
        simp [LexicalError.isStray, heq] at hcode
      simp [Option.filter, hs, hne]

/-- A comment without an end goes up to the end of the text. -/
theorem stop_of_unterminatedComment (h : Tiles u i l) {t : Tile} (ht : t ∈ l) {e : LexicalError}
    (he : t.error? = some e) (hcode : e.code = .unterminatedComment) : t.stop = u.length := by
  have hin := (h.isIn t ht).2
  obtain ⟨rest, hrest, hfits⟩ := hin.fits
  obtain ⟨hs, _⟩ | ⟨_, hcode', _⟩ | ⟨_, hcode', _⟩ := (Placed.error?_eq_some he).2
  · rw [Chunk.Fits, hs] at hfits
    rw [hfits.2, List.append_nil] at hrest
    have hlength := congrArg List.length hrest
    have hstop := hin.stop_le
    rw [List.length_drop] at hlength
    rw [stop] at hstop ⊢
    omega
  · rw [hcode] at hcode'
    cases hcode'
  · simp [LexicalError.isStray, hcode] at hcode'

/-- So there is only one of them at most. -/
theorem commentErrors (h : Tiles u i l) :
    (l.filterMap (·.error?)).countP (fun e => e.code = .unterminatedComment) ≤ 1 := by
  have hpairwise : (l.filterMap (·.error?)).Pairwise fun e f =>
      ¬ (e.code = .unterminatedComment ∧ f.code = .unterminatedComment) := by
    refine List.pairwise_filterMap.2 (h.pairwise.imp_of_mem fun {t t'} ht ht' hle e he f hf => ?_)
    rintro ⟨hcode, -⟩
    have hin' := (h.isIn t' ht').2
    have := hin'.start_lt_stop
    have := hin'.stop_le
    have := h.stop_of_unterminatedComment ht he hcode
    omega
  rw [List.countP_eq_length_filter]
  generalize hfound : (l.filterMap (·.error?)).filter _ = found
  have hcode (e : LexicalError) (he : e ∈ found) : e.code = .unterminatedComment := by
    rw [← hfound, List.mem_filter, decide_eq_true_eq] at he
    exact he.2
  match found with
  | [] | [_] => simp
  | e :: f :: _ =>
    have hfiltered := hpairwise.filter (fun e => decide (e.code = .unterminatedComment))
    rw [hfound] at hfiltered
    refine absurd ⟨hcode e ?_, hcode f ?_⟩ (List.rel_of_pairwise_cons hfiltered ?_) <;> simp

/-- No character but the stray one itself has the position of an error about it. -/
theorem strayErrors_unique (h : Tiles u i l) {k : Nat} (hk : k ∈ l.filterMap stray?) :
    (l.filterMap (·.error?)).countP (fun e => e.isStray && e.position = .ofIndex u k) = 1 := by
  have hcount : (l.filterMap (·.error?)).countP (fun e => e.isStray && e.position = .ofIndex u k) =
      ((((l.filterMap (·.error?)).filter LexicalError.isStray).map
        fun e => (e.position, e.length)).map Prod.fst).count (.ofIndex u k) := by
    rw [List.map_map, List.count_eq_countP, List.countP_map, List.countP_filter]
    refine List.countP_congr fun e _ => ?_
    simp [and_comm]
  -- Their positions are in the order of the text.
  have hpairwise : (l.filterMap stray?).Pairwise fun i j =>
      Position.ofIndex u i < Position.ofIndex u j := by
    refine List.pairwise_filterMap.2 (h.pairwise.imp_of_mem fun {t t'} ht ht' hle i hi j hj => ?_)
    rw [(stray?_eq_some hi).2, (stray?_eq_some hj).2]
    exact h.ofIndex_lt ht ht' hle
  have hnodup : ((l.filterMap stray?).map (Position.ofIndex u)).Nodup :=
    List.pairwise_map.2 (hpairwise.imp Position.ne_of_lt)
  rw [hcount, h.strayErrors, List.map_map]
  exact List.nodup_iff_count_eq_one.1 hnodup _ (List.mem_map_of_mem hk)

end Tiles

/-- The characters of every text are accounted for. -/
theorem tokenize_accounts (source : String) : ∃ pieces comments strays,
    Accounts (Text.body source) (tokenize source) pieces comments strays := by
  obtain ⟨l, h, htokens, herrors⟩ := tokenize_tiles source
  have hpieces : (l.filterMap Tile.piece?).map Prod.snd = l.filterMap (·.token?) := by
    rw [List.map_filterMap]
    refine List.filterMap_congr fun t _ => ?_
    rw [Tile.piece?, Option.map_map]
    exact Option.map_id'
  refine ⟨l.filterMap Tile.piece?, l.filterMap Tile.comment?, l.filterMap Tile.stray?, ?_⟩
  exact {
    tokens_eq := by rw [htokens, hpieces]
    isPiece := fun p hp => h.isPiece hp
    increasing := h.increasing
    isComment := fun c hc => by
      obtain ⟨t, ht, htile⟩ := List.mem_filterMap.1 hc
      obtain ⟨hcomment, rfl⟩ := Tile.comment?_eq_some htile
      exact (h.isIn t ht).2.isComment hcomment
    isStray := fun i hi => by
      obtain ⟨t, ht, htile⟩ := List.mem_filterMap.1 hi
      rw [(Tile.stray?_eq_some htile).2]
      exact Nat.lt_of_lt_of_le (h.isIn t ht).2.start_lt_stop (h.isIn t ht).2.stop_le
    apart := h.pairwise_apart
    covers := fun j c hj => h.covers_stretches hj
    strayErrors := by rw [herrors, h.strayErrors]
    strayErrors_unique := fun i hi => by rw [herrors, h.strayErrors_unique hi]
    stringErrors := by
      rw [herrors, h.stringErrors, htokens, List.filter_append]
      simp [Token.eof]
    commentErrors := herrors ▸ h.commentErrors
    errors_increasing := herrors ▸ h.errors_increasing }

end SunLint
