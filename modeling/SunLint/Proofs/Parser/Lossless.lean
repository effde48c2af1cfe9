import SunLint.Proofs.Parser.Reads
import SunLint.Proofs.Token.Account

/-!
# Nothing of a clean text is lost

If neither the tokenizer nor the parser has anything to report then the tree is the whole
text: read from left to right, it has the words, literals and operators of the text in
their order, each of them once, and it has no gaps.

* `Token.value`: what is written in the text, strings without their quotes;
* `parse_lossless`: the readings of text and tree are the same.
-/

namespace SunLint

/-! ## Tokens of a text -/

/-- The text of the token, for a string without its first and its last character. -/
def Token.value (t : Token) : String :=
  if t.kind = .string then String.ofList t.text.toList.tail.dropLast else t.text

theorem unquote_of_isQuoted {text : String} (h : Chunk.isQuoted text.toList = true) :
    unquote text = String.ofList text.toList.tail.dropLast := by
  rw [unquote]
  cases htext : text.toList with
  | nil => rw [htext] at h; cases h
  | cons quote inner =>
    rw [htext] at h
    change Chunk.endsWith quote inner = true at h
    -- The last character is the quote.
    have hlast : inner.getLast? = some quote := by
      rw [Chunk.endsWith] at h
      cases hreverse : inner.reverse with
      | nil => rw [hreverse] at h; cases h
      | cons c before =>
        rw [hreverse, Bool.and_eq_true, decide_eq_true_eq] at h
        rw [List.getLast?_eq_head?_reverse, hreverse, ← h.1]
        rfl
    simp only [hlast, if_true, List.tail_cons]

/-- In a text without lexical errors, tokens are read as they are written. -/
theorem reading_of_token? {u : List Char} {i : Nat} {l : List Tile} (h : Tiles u i l)
    (herrors : l.filterMap (·.error?) = []) {t : Tile} (ht : t ∈ l) {token : Token}
    (htoken : t.token? = some token) :
    token.reading = if token.kind.isSilent then [] else [some token.value] := by
  have hin := (h.isIn t ht).2
  obtain ⟨rest, _, hfits⟩ := hin.fits
  obtain ⟨hkind, htext, _⟩ := Placed.token?_eq_some htoken
  have hhas := Placed.hasKind_of_kind? hfits hkind
  rw [Token.reading, Token.value]
  split
  · rfl
  · cases hword : token.kind.spelling? with
    | some word =>
      have hne : token.kind ≠ .string := fun hs => by
        rw [hs] at hword
        cases hword
      have hspelled : token.text = word := by
        rw [← hhas.text_of_spelling word hword, ← htext, String.ofList_toList]
      simp [hne, hspelled]
    | none =>
      dsimp only
      split
      · -- The string has its closing quote, or there would be an error.
        rename_i hs
        obtain ⟨closed, hshape⟩ := hhas.string_iff.1 hs
        cases closed with
        | true =>
          rw [Chunk.Fits, hshape, ← htext] at hfits
          rw [unquote_of_isQuoted hfits]
        | false =>
          have hnone := List.filterMap_eq_nil_iff.1 herrors t ht
          exact absurd hnone (Placed.error?_ne_none hin.ne_nil (.inl hshape))
      · rfl

theorem flatMap_reading {l : List Token}
    (h : ∀ t ∈ l, t.reading = if t.kind.isSilent then [] else [some t.value]) :
    l.flatMap Token.reading = (l.filter fun t => !t.kind.isSilent).map (some ·.value) := by
  induction l with
  | nil => rfl
  | cons t l ih =>
    rw [List.flatMap_cons, ih fun t ht => h t (List.mem_cons_of_mem _ ht),
      h t List.mem_cons_self, List.filter_cons]
    cases t.kind.isSilent <;> rfl

namespace Parser

/-- A list with a single end of the input that is parsed without an error is read like its
    items. -/
theorem parse_reading {tokens : List Token} (source : Option String) (dictionary : Dictionary)
    {settings : Settings} (hlast : tokens.getLast?.map (·.kind) = some .eof)
    (hsingle : ∀ t ∈ tokens.dropLast, t.kind ≠ .eof) (hcap : 1 ≤ settings.maxErrors) :
    ∃ output, parse tokens source dictionary settings = .ok output ∧
      (output.errors = [] → output.items.flatMap Item.reading = tokens.flatMap Token.reading) := by
  obtain ⟨c, found, s, hc, hready, hdone, hparse, hclean⟩ :=
    exists_run source dictionary hlast hcap
  refine ⟨_, hparse, fun herrors => ?_⟩
  have hlist : c.tokens = tokens := Cursor.tokens_ofList? hc
  obtain ⟨hle, heof, hreading⟩ := items_read _ hready _ _ hdone (hclean herrors)
  -- Nothing is left to read at the end of the input.
  have hend : s.cursor.reading = [] := by
    have hahead : s.cursor.ahead = [] :=
      Cursor.ahead_eq_nil (by rw [← hle.1]; exact hlist ▸ hsingle) heof
    rw [Cursor.reading, hahead, List.flatMap_singleton]
    exact Token.reading_of_isSilent (by rw [heof]; rfl)
  have hstart : (State.start c settings).cursor.reading = tokens.flatMap Token.reading := by
    cases tokens with
    | nil => cases hc
    | cons t ts =>
      cases hc
      rfl
  rw [← hstart, hreading, hend, List.append_nil]

/-- If neither the tokenizer nor the parser reports anything then the tree has no gaps, and
    reading it is reading the tokens of the text, except for those that only separate and
    group. -/
theorem parse_lossless (source : String) (dictionary : Dictionary) {settings : Settings}
    (hlexical : (tokenize source).errors = []) (hcap : 1 ≤ settings.maxErrors) :
    ∃ output, parse (tokenize source).tokens (some source) dictionary settings = .ok output ∧
      (output.errors = [] → none ∉ output.items.flatMap Item.reading ∧
        output.items.flatMap Item.reading =
          ((tokenize source).tokens.filter fun t => !t.kind.isSilent).map (some ·.value)) := by
  obtain ⟨l, htiles, htokens, herrors⟩ := tokenize_tiles source
  rw [hlexical] at herrors
  have hpiece (token : Token) (h : token ∈ l.filterMap (·.token?)) : token.kind ≠ .eof ∧
      token.reading = if token.kind.isSilent then [] else [some token.value] := by
    obtain ⟨t, ht, htoken⟩ := List.mem_filterMap.1 h
    obtain ⟨rest, _, hfits⟩ := (htiles.isIn t ht).2.fits
    have hkind := (Placed.token?_eq_some htoken).1
    exact ⟨(Placed.hasKind_of_kind? hfits hkind).ne_eof,
      reading_of_token? htiles herrors.symm ht htoken⟩
  generalize l.filterMap (·.token?) = pieces at htokens hpiece
  have hlast : (tokenize source).tokens.getLast?.map (·.kind) = some .eof := by
    rw [htokens, List.getLast?_concat]
    rfl
  have hsingle : ∀ t ∈ (tokenize source).tokens.dropLast, t.kind ≠ .eof := by
    rw [htokens, List.dropLast_concat]
    exact fun t ht => (hpiece t ht).1
  obtain ⟨output, hparse, hreading⟩ := parse_reading (some source) dictionary hlast hsingle hcap
  refine ⟨output, hparse, fun hclean => ?_⟩
  have hwords : output.items.flatMap Item.reading =
      ((tokenize source).tokens.filter fun t => !t.kind.isSilent).map (some ·.value) := by
    rw [hreading hclean, flatMap_reading fun t ht => ?_]
    rw [htokens, List.mem_append, List.mem_singleton] at ht
    obtain ht | rfl := ht
    · exact (hpiece t ht).2
    · rfl
  refine ⟨?_, hwords⟩
  rw [hwords]
  simp

/-- A function in several lines with conditions, literals, operators, a call and a
    comment. -/
theorem parse_lossless_of_function : ∃ source : String, ∃ output,
    (tokenize source).errors = [] ∧ 1 ≤ ({} : Settings).maxErrors ∧
    parse (tokenize source).tokens (some source) { keywords := [] } {} = .ok output ∧
    output.errors = [] ∧
    output.items.flatMap Item.reading = ["export", "function", "f", "a", "b", "when", "a", "<",
      "1.5", "then", "render", "x", "return", "g", "a", "b"].map some := by
  let source := "export function f(a, b) \x7b // both\n  when a < 1.5 then render \"x\"\n" ++
    "  return g(a).b\n\x7d"
  have hlexical : (tokenize source).errors = [] := by decide +kernel
  have herrors : (parse (tokenize source).tokens (some source) { keywords := [] } {}).toOption.map
      (·.errors) = some [] := by decide +kernel
  obtain ⟨output, hparse, hreading⟩ :=
    parse_lossless source { keywords := [] } hlexical (show 1 ≤ ({} : Settings).maxErrors by decide)
  rw [hparse] at herrors
  have hclean : output.errors = [] := Option.some.inj herrors
  refine ⟨source, output, hlexical, by decide, hparse, hclean, (hreading hclean).2.trans ?_⟩
  decide +kernel

end Parser

end SunLint
