import SunLint.Analysis
import SunLint.Proofs.Parser.Cut
import SunLint.Proofs.Parser.Layout
import SunLint.Proofs.Token.Tidied

/-!
# Sound texts

A text is sound if no error is found in it (`IsSound`). Which items are read from a sound text
depends on its lines one after the other, as far as nothing is open between them.

* `IsSound.append`: a sound text may follow on a sound one, and the items of both are read;
* `IsSound.of_append`: what follows on a sound text is sound if the whole is;
* `IsSound.cut`: what stands in front of a directive is sound if the whole is, and if there is no
  comment open in front of it;
* `IsSound.of_matches`: only the lines and texts of the tokens matter.
-/

namespace SunLint

/-- No error is found in the text, and the items are what is read from it. -/
structure IsSound (dictionary : Dictionary) (settings : Settings) (text : String)
    (found : List Item) : Prop where
  lexical : (tokenize text).errors = []
  parses : parse (tokenize text).tokens (some text) dictionary settings = .ok ⟨found, []⟩

/-! ## Tokens -/

namespace Chunk.Tidied

variable {merges : Prop} {l l' : List Chunk}

theorem refl (merges : Prop) (l : List Chunk) : Chunk.Tidied merges l l := by
  induction l with
  | nil => exact .nil
  | cons ch l ih => exact .keep ch ih

/-- If no lines are merged then every token stays on its line. -/
theorem forall₂_matches (hm : ¬ merges) (h : Chunk.Tidied merges l l') {p p' : Position}
    (hp : p'.line = p.line) :
    List.Forall₂ Token.Matches (tokensFrom p l) (tokensFrom p' l') := by
  induction h generalizing p p' with
  | nil => exact .nil
  | keep ch h ih =>
    have hrest : List.Forall₂ Token.Matches (tokensFrom (p.after ch.text) _)
        (tokensFrom (p'.after ch.text) _) :=
      ih (by rw [Position.line_after, Position.line_after, hp])
    rw [tokensFrom_cons, tokensFrom_cons, Placed.token?, Placed.token?]
    cases hkind : Placed.kind? ⟨ch, p⟩ with
    | none =>
      have hkind' : Placed.kind? ⟨ch, p'⟩ = none := hkind
      rw [hkind']
      exact hrest
    | some kind =>
      have hkind' : Placed.kind? ⟨ch, p'⟩ = some kind := hkind
      rw [hkind']
      exact .cons ⟨rfl, rfl, hp⟩ hrest
  | comment hshape hlines h ih =>
    rw [tokensFrom_cons, tokensFrom_cons, Placed.token?_comment hshape,
      Placed.token?_comment hshape]
    exact ih (by rw [Position.line_after, Position.line_after, hp, hlines hm])
  | trim hline h ih =>
    rw [tokensFrom_cons]
    refine ih ?_
    rw [Position.line_after, List.count_singleton, if_neg (by simpa using hline), hp]
    rfl
  | merge hmerges => exact absurd hmerges hm

end Chunk.Tidied

/-- A byte-order mark is a stray character where it does not stand at the start of the document. -/
theorem head?_ne_of_errors {s t : String} (hs : (tokenize s).errors = [])
    (h : (tokenize (s ++ "\n" ++ t)).errors = []) : t.toList.head? ≠ some '\ufeff' := by
  intro hmark
  obtain ⟨rest, hrest⟩ := List.head?_eq_some_iff.1 hmark
  have hclosed : ∀ e ∈ (tokenize s).errors, e.code ≠ .unterminatedComment := by simp [hs]
  have hsound := errors_eq_nil_iff.1 h
  rw [Text.body_append, chunks_append _ _ (shape_ne_of_errors hclosed), hrest, chunks_cons,
    Chunk.measure_byteOrderMark] at hsound
  cases hsound _ (List.mem_append_right _ (.tail _ (.head _)))

/-- An at sign that is no stray character is the start of a directive. -/
theorem exists_tokensFrom_eq_cons {cs : List Char}
    (hsound : ∀ ch ∈ chunks ('@' :: cs), ch.shape.isSound = true) (p : Position) :
    ∃ next more, tokensFrom p (chunks ('@' :: cs)) = next :: more ∧ next.kind = .directive := by
  rw [chunks_cons, Chunk.measure_marker] at hsound ⊢
  split at hsound
  · rename_i hword
    rw [if_pos hword, tokensFrom_cons]
    exact ⟨_, _, rfl, rfl⟩
  · -- An at sign on its own is a stray character.
    cases hsound _ (.head _)

section Blanks

variable {blanks cs : List Char} {t : String}
  (hblanks : ∀ x ∈ blanks, Text.isBlank x = true ∧ x ≠ '\n')
include hblanks

/-- Blanks in front of a text on its first line. -/
theorem tidied_chunks_append (cs : List Char) :
    Chunk.Tidied False (chunks (blanks ++ cs)) (chunks cs) := by
  induction blanks with
  | nil => exact .refl False _
  | cons b blanks ih =>
    rw [List.forall_mem_cons] at hblanks
    rw [List.cons_append, chunks_blank hblanks.1.1 hblanks.1.2]
    exact .trim hblanks.1.2 (ih hblanks.2)

/-- There is no byte-order mark among blanks. -/
theorem head?_append_ne (hcs : cs.head? ≠ some '\ufeff') :
    (blanks ++ cs).head? ≠ some '\ufeff' := by
  cases blanks with
  | nil => exact hcs
  | cons b blanks =>
    rintro ⟨⟩
    cases (hblanks _ List.mem_cons_self).1

theorem body_of_blanks (ht : t.toList = blanks ++ cs) (hcs : cs.head? ≠ some '\ufeff') :
    Text.body t = blanks ++ cs :=
  (Text.body_of_head? (ht ▸ head?_append_ne hblanks hcs)).trans ht

/-- Nothing is wrong with blanks. -/
theorem errors_of_blanks : (tokenize (String.ofList blanks)).errors = [] := by
  have hbody : Text.body (String.ofList blanks) = blanks ++ [] :=
    body_of_blanks hblanks (by simp) (by simp)
  rw [errors_eq_nil_iff, hbody, List.append_nil]
  clear hbody
  induction blanks with
  | nil => exact nofun
  | cons b blanks ih =>
    rw [List.forall_mem_cons] at hblanks
    rw [chunks_blank hblanks.1.1 hblanks.1.2, List.forall_mem_cons]
    exact ⟨rfl, ih hblanks.2⟩

/-- There are no tokens in blanks. -/
theorem tokens_of_blanks : ∃ p, (tokenize (String.ofList blanks)).tokens = [Token.eof p] := by
  have hbody : Text.body (String.ofList blanks) = blanks ++ [] :=
    body_of_blanks hblanks (by simp) (by simp)
  have htokens : List.Forall₂ Token.Matches (tokensFrom .start (chunks (blanks ++ []))) [] :=
    (tidied_chunks_append hblanks []).forall₂_matches not_false rfl
  rw [List.forall₂_nil_right_iff, ← hbody] at htokens
  exact ⟨_, congrArg (· ++ [Token.eof _]) htokens⟩

/-- A text without errors that starts with an at sign, but for blanks, starts with a directive. -/
theorem exists_directive_of_errors (ht : t.toList = blanks ++ '@' :: cs)
    (herrors : (tokenize t).errors = []) :
    ∃ next more, (tokenize t).tokens = next :: more ∧ next.kind = .directive := by
  have hbody := body_of_blanks hblanks ht (by simp)
  have htidied := tidied_chunks_append hblanks ('@' :: cs)
  rw [errors_eq_nil_iff, hbody] at herrors
  obtain ⟨next, more, hat, hkind⟩ := exists_tokensFrom_eq_cons (htidied.isSound herrors) .start
  have hmatches : List.Forall₂ Token.Matches
      (tokensFrom .start (chunks (blanks ++ '@' :: cs))) (next :: more) :=
    hat ▸ htidied.forall₂_matches not_false rfl
  obtain ⟨first, rest, hfirst, -, hrest⟩ := List.forall₂_cons_right_iff.1 hmatches
  refine ⟨first, rest ++ [Token.eof (Position.start.after (Text.body t))], ?_, hfirst.kind ▸ hkind⟩
  rw [← List.cons_append, ← hrest, ← hbody]
  rfl

end Blanks

/-! ## Sound texts -/

namespace Parser

/-- Without room for an error nothing is read and nothing is wrong. -/
theorem parse_eq_nil {tokens : List Token} (hlast : tokens.getLast?.map (·.kind) = some .eof)
    (source : Option String) (dictionary : Dictionary) {settings : Settings}
    (hcap : settings.maxErrors = 0) :
    parse tokens source dictionary settings = .ok ⟨[], []⟩ := by
  obtain ⟨c, found, s, -, -, hdone, hparse⟩ :=
    isParsed_of_getLast? source dictionary settings hlast
  have hdone := hdone _ (Nat.le_refl _)
  have hgrows : (State.start c settings).Grows s :=
    Records.grows (congrArg Outcome.state? hdone)
  have herrors : s.errors = [] := hgrows.errors_eq hcap
  rw [hparse, items_eq_nil hcap hdone, herrors]
  rfl

/-- Where there is no token but the end of the input there are no items. -/
theorem parse_eof (p : Position) (source : Option String) (dictionary : Dictionary)
    (settings : Settings) : parse [Token.eof p] source dictionary settings = .ok ⟨[], []⟩ := by
  have hdone (env : Env) : items (47 + 1) env (.start ⟨[], Token.eof p, []⟩ settings) =
      .done [] (.start ⟨[], Token.eof p, []⟩ settings) := by
    rw [items_succ, again, bind_apply, itemRound_of_eof _ _ rfl]
    rfl
  exact congrArg (fun o => Except.ok (Outcome.output o)) (hdone (.start source dictionary settings))

end Parser

/-- Nothing is read from blanks. -/
theorem isSound_of_blanks {blanks : List Char}
    (hblanks : ∀ x ∈ blanks, Text.isBlank x = true ∧ x ≠ '\n') (dictionary : Dictionary)
    (settings : Settings) : IsSound dictionary settings (String.ofList blanks) [] := by
  obtain ⟨p, htokens⟩ := tokens_of_blanks hblanks
  refine ⟨errors_of_blanks hblanks, ?_⟩
  rw [htokens]
  exact Parser.parse_eof ..

namespace IsSound

variable {dictionary : Dictionary} {settings : Settings} {s t : String} {x y z : List Item}

theorem unique (h : IsSound dictionary settings s x) (h' : IsSound dictionary settings s y) :
    x = y := by
  simpa [h.parses] using h'.parses

/-- Without room for an error only the tokens matter, and there are no items. -/
theorem iff_of_cap (hcap : settings.maxErrors = 0) :
    IsSound dictionary settings s x ↔ (tokenize s).errors = [] ∧ x = [] := by
  have hparses := Parser.parse_eq_nil (getLast?_tokenize s) (some s) dictionary hcap
  refine ⟨fun h => ⟨h.lexical, ?_⟩, fun ⟨hlexical, hx⟩ => ⟨hlexical, hx ▸ hparses⟩⟩
  simpa [h.parses] using hparses

/-- What follows on a sound text is sound by itself if and only if the whole is. -/
theorem append_iff (hs : IsSound dictionary settings s x) (ht : t.toList.head? ≠ some '\ufeff') :
    IsSound dictionary settings (s ++ "\n" ++ t) z ↔ ∃ y, IsSound dictionary settings t y ∧
      z = x ++ y.map (·.down (Text.pieces s.toList).length) := by
  have hclosed : ∀ e ∈ (tokenize s).errors, e.code ≠ .unterminatedComment := by simp [hs.lexical]
  have herrors : (tokenize (s ++ "\n" ++ t)).errors = [] ↔ (tokenize t).errors = [] := by
    rw [errors_append hclosed ht, hs.lexical, List.nil_append, List.map_eq_nil_iff]
  -- Both texts are parsed in any case, but without room for an error nothing is compared.
  by_cases hcap : settings.maxErrors = 0
  · obtain ⟨-, rfl⟩ := (iff_of_cap hcap).1 hs
    simp [iff_of_cap hcap, herrors]
  · obtain ⟨⟨found, errors⟩, ⟨found', errors'⟩, houtput, houtput', hitems, hdown, -⟩ :=
      Parser.parse_append hs.lexical hs.parses ht (Nat.pos_of_ne_zero hcap)
    constructor
    · intro h
      obtain ⟨rfl, rfl⟩ : found' = z ∧ errors' = [] := by simpa [h.parses] using houtput'.symm
      obtain rfl := List.forall₂_nil_right_iff.1 hdown
      exact ⟨found, ⟨herrors.1 h.lexical, houtput⟩, hitems⟩
    · rintro ⟨y, hy, rfl⟩
      obtain ⟨rfl, rfl⟩ : found = y ∧ errors = [] := by simpa [hy.parses] using houtput.symm
      obtain rfl := List.forall₂_nil_left_iff.1 hdown
      obtain rfl := hitems
      exact ⟨herrors.2 hy.lexical, houtput'⟩

/-- What stands in front of a line with a directive is sound if the whole is and no comment is open
    there. -/
theorem cut {blanks cs : List Char} (hblanks : ∀ x ∈ blanks, Text.isBlank x = true ∧ x ≠ '\n')
    (ht : t.toList = blanks ++ '@' :: cs)
    (hclosed : ∀ e ∈ (tokenize s).errors, e.code ≠ .unterminatedComment)
    (h : IsSound dictionary settings (s ++ "\n" ++ t) z) :
    ∃ x, IsSound dictionary settings s x := by
  have hmark : t.toList.head? ≠ some '\ufeff' := ht ▸ head?_append_ne hblanks (by simp)
  obtain ⟨hs, htext⟩ :=
    List.append_eq_nil_iff.1 ((errors_append hclosed hmark).symm.trans h.lexical)
  by_cases hcap : settings.maxErrors = 0
  · exact ⟨[], (iff_of_cap hcap).2 ⟨hs, rfl⟩⟩
  · obtain ⟨next, more, htokens, hnext⟩ :=
      exists_directive_of_errors hblanks ht (List.map_eq_nil_iff.1 htext)
    have hwhole := tokens_append hclosed hmark
    rw [htokens, List.map_cons] at hwhole
    -- The tokens of the whole go on with a line end and the directive where those of the first
    -- text end.
    have hsingle : ∀ y ∈ (tokenize (s ++ "\n" ++ t)).tokens.dropLast, y.kind ≠ .eof := by
      rw [tokens_tokenize, List.dropLast_concat]
      exact kind_ne_eof _
    have hlast := getLast?_tokenize (s ++ "\n" ++ t)
    have hparses := h.parses
    rw [hwhole] at hsingle hlast hparses
    have hstop : (Token.eof (Position.start.after (Text.body s))).kind = .eof := rfl
    obtain ⟨x, hx⟩ := Parser.parse_cut _ (some s) hsingle hstop rfl hnext
      (Nat.pos_of_ne_zero hcap) hlast hparses
    exact ⟨x, hs, hx⟩

/-- Only the lines and the texts of the tokens matter. -/
theorem of_matches (h : IsSound dictionary settings s x) (ht : (tokenize t).errors = [])
    (hmatch : List.Forall₂ Token.Matches (tokenize s).tokens (tokenize t).tokens) :
    IsSound dictionary settings t x := by
  obtain ⟨⟨items, errors⟩, ⟨items', errors'⟩, houtput, houtput', hitems, herrors⟩ :=
    Parser.parse_layout _ _ hmatch (nodup_positions s) (nodup_positions t) (getLast?_tokenize s)
      (some s) (some t) dictionary settings
  obtain ⟨rfl, rfl⟩ : items = x ∧ errors = [] := by simpa [h.parses] using houtput.symm
  obtain rfl := List.forall₂_nil_left_iff.1 herrors
  obtain rfl := hitems
  exact ⟨ht, houtput'⟩

/-- So blanks between tokens may be left out. -/
theorem of_chunks (h : IsSound dictionary settings s x)
    (htidied : Chunk.Tidied False (chunks (Text.body s)) (chunks (Text.body t)))
    (hcount : (Text.body t).count '\n' = (Text.body s).count '\n') :
    IsSound dictionary settings t x := by
  refine h.of_matches (errors_eq_nil_iff.2 (htidied.isSound (errors_eq_nil_iff.1 h.lexical))) ?_
  refine List.rel_append (htidied.forall₂_matches not_false rfl) (.cons ⟨rfl, rfl, ?_⟩ .nil)
  rw [Token.eof, Token.eof, Position.line_after, Position.line_after, hcount]

/-- So may blanks at the ends of lines. -/
theorem of_tidied (h : IsSound dictionary settings s x)
    (htidied : Text.Tidied False s.toList t.toList) : IsSound dictionary settings t x :=
  h.of_chunks (htidied.body.chunks (errors_eq_nil_iff.1 h.lexical))
    (htidied.body.count_eq not_false)

end IsSound

end SunLint
