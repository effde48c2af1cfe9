import SunLint.Proofs.Parser.Layout
import SunLint.Proofs.Parser.Records
import SunLint.Proofs.Token.Lines

/-!
# Where errors are

Every syntax error is about a token of the list, at the position of this token, and the errors
come in the order of their tokens (`AreAnchored`). A run beside itself shows this, since two
runs that take the same way record the same errors about the same tokens.

* `parse_anchored`: the errors of every list are anchored, and there are not more of them than
  the settings admit; those of a text are in the order of the text, on its lines.
-/

namespace SunLint

variable {tokens : List Token} {errors : List SyntaxError}

/-- The errors are about tokens of the list, in its order. More than one of them may be about
    the same token. -/
structure AreAnchored (tokens : List Token) (errors : List SyntaxError) : Prop where
  indices : ∃ indices : List Nat, indices.Pairwise (· ≤ ·) ∧
    indices.map (tokens[·]?) = errors.map (some ·.token)
  position : ∀ e ∈ errors, e.position = e.token.position

/-- What holds of a token and of any one behind it also holds of the tokens of errors, unless
    two errors are about one token. -/
theorem AreAnchored.pairwise {R : Token → Token → Prop} (h : AreAnchored tokens errors)
    (hR : tokens.Pairwise R) :
    errors.Pairwise fun e e' => e.token = e'.token ∨ R e.token e'.token := by
  obtain ⟨indices, hle, hmap⟩ := h.indices
  have hlookup : (indices.map (tokens[·]?)).Pairwise fun o o' =>
      ∀ t ∈ o, ∀ t' ∈ o', t = t' ∨ R t t' := by
    refine hle.map _ fun i j hij t ht t' ht' => ?_
    obtain ⟨hi, rfl⟩ := List.getElem?_eq_some_iff.1 ht
    obtain ⟨hj, rfl⟩ := List.getElem?_eq_some_iff.1 ht'
    rcases Nat.lt_or_eq_of_le hij with hlt | rfl
    · exact .inr (List.pairwise_iff_getElem.1 hR i j hi hj hlt)
    · exact .inl rfl
  rw [hmap, List.pairwise_map] at hlookup
  exact hlookup.imp fun h => h _ rfl _ rfl

theorem AreAnchored.mem (h : AreAnchored tokens errors) {e : SyntaxError} (he : e ∈ errors) :
    e.token ∈ tokens := by
  obtain ⟨indices, -, hmap⟩ := h.indices
  have htoken : some e.token ∈ indices.map (tokens[·]?) := by
    rw [hmap]
    exact List.mem_map_of_mem he
  obtain ⟨i, -, hi⟩ := List.mem_map.1 htoken
  exact List.mem_of_getElem? hi

/-- What is anchored beside itself is anchored, the latest error first. -/
theorem Anchored.exists_indices {f : Token → Token} {l : List Token} {n : Nat}
    {es es' : List SyntaxError} (h : Anchored f l n es es') :
    ∃ indices : List Nat, indices.Pairwise (· ≥ ·) ∧ (∀ i ∈ indices, i ≤ n) ∧
      indices.map (l[·]?) = es.map (some ·.token) ∧ ∀ e ∈ es, e.position = e.token.position := by
  induction h with
  | nil => exact ⟨[], .nil, by simp, rfl, by simp⟩
  | @cons n i e e' es es' hle he _ ih =>
    obtain ⟨indices, hge, hbound, hmap, hposition⟩ := ih
    refine ⟨i :: indices, .cons hbound hge, ?_, ?_, ?_⟩
    · intro j hj
      rcases List.mem_cons.1 hj with rfl | hj
      · exact hle
      · exact Nat.le_trans (hbound j hj) hle
    · rw [List.map_cons, List.map_cons, he.token, hmap]
    · exact List.forall_mem_cons.2 ⟨he.position, hposition⟩

theorem Anchored.areAnchored {f : Token → Token} {l : List Token} {n : Nat}
    {es es' : List SyntaxError} (h : Anchored f l n es es') : AreAnchored l es.reverse := by
  obtain ⟨indices, hge, -, hmap, hposition⟩ := h.exists_indices
  refine ⟨⟨indices.reverse, List.pairwise_reverse.2 hge, ?_⟩, ?_⟩
  · rw [List.map_reverse, List.map_reverse, hmap]
  · exact fun e he => hposition e (List.mem_reverse.1 he)

namespace Parser

/-- There is room for all errors that are recorded. -/
theorem length_errors_le {source : Option String} {dictionary : Dictionary}
    {settings : Settings} {output : ParseOutput}
    (h : parse tokens source dictionary settings = .ok output) :
    output.errors.length ≤ settings.maxErrors := by
  rw [parse] at h
  split at h
  · cases h
  · split at h
    · obtain rfl := Except.ok.inj h
      have hgrows := @(records_isCompositional.items (depthFor tokens.length)).grows
      generalize hrun : items _ _ _ = o
      cases o with
      | done found s =>
        have hroom := (hgrows (congrArg Outcome.state? hrun)).room_eq
        simp only [Outcome.output, List.length_reverse, List.length_nil] at hroom ⊢
        omega
      | failed e s => exact absurd hrun (items_neverFails _ _ _ _ _)
      | exhausted => exact Nat.zero_le _
    · cases h

/-- The errors that are found in a list are anchored in it, and there are not more than the
    settings admit. Those that are found in a text are in its order, and on its lines. -/
theorem parse_anchored (dictionary : Dictionary) (settings : Settings) :
    (∀ tokens source, tokens.getLast?.map (·.kind) = some .eof →
      ∃ output, parse tokens source dictionary settings = .ok output ∧
        output.errors.length ≤ settings.maxErrors ∧ AreAnchored tokens output.errors) ∧
    ∀ text source, ∃ output,
      parse (tokenize text).tokens source dictionary settings = .ok output ∧
      output.errors.Pairwise (fun e e' => e.position = e'.position ∨ e.position < e'.position) ∧
      ∀ e ∈ output.errors, 1 ≤ e.position.line ∧
        e.position.line ≤ (Text.pieces text.toList).length ∧ 1 ≤ e.position.column := by
  have hlist (tokens : List Token) (source : Option String)
      (hlast : tokens.getLast?.map (·.kind) = some .eof) :
      ∃ output, parse tokens source dictionary settings = .ok output ∧
        output.errors.length ≤ settings.maxErrors ∧ AreAnchored tokens output.errors := by
    -- The run beside itself, with no token moved.
    obtain ⟨found, s, t, hparse, -, h⟩ :=
      parse_shifted (.refl tokens) hlast source source dictionary settings
    exact ⟨_, hparse, length_errors_le hparse, h.errors.areAnchored⟩
  refine ⟨hlist, fun text source => ?_⟩
  have hlast := isTerminated_tokenize text
  rw [TokenStream.isTerminated, decide_eq_true_eq] at hlast
  obtain ⟨output, hparse, -, hanchored⟩ := hlist _ source hlast
  refine ⟨output, hparse, ?_, fun e he => ?_⟩
  · refine (hanchored.pairwise (pairwise_tokenize text)).imp_of_mem fun {e e'} he he' h => ?_
    rw [hanchored.position e he, hanchored.position e' he']
    exact h.imp_left (congrArg Token.position)
  · have htoken := hanchored.mem he
    obtain ⟨hpos, hle⟩ := line_of_mem_tokenize htoken
    obtain ⟨i, hi⟩ := exists_ofIndex_of_mem_tokenize htoken
    rw [hanchored.position e he]
    refine ⟨hpos, Text.count_body text ▸ hle, ?_⟩
    rw [hi]
    exact Nat.succ_pos _

/-- A condition without a result, and a line that is given up: the last two errors are about
    the same token. -/
theorem parse_anchored_of_gaps : ∃ tokens output,
    tokens.getLast?.map (·.kind) = some .eof ∧
    parse tokens none { keywords := [] } {} = .ok output ∧
    output.errors.length ≤ ({} : Settings).maxErrors ∧ AreAnchored tokens output.errors ∧
    output.errors.map (·.token.kind) = [.newline, .equals, .equals] := by
  let tokens : List Token :=
    [⟨.whenKw, "when", ⟨1, 1⟩⟩, ⟨.text, "x", ⟨1, 6⟩⟩, ⟨.thenKw, "then", ⟨1, 8⟩⟩,
     ⟨.newline, "\n", ⟨1, 12⟩⟩, ⟨.letKw, "let", ⟨2, 1⟩⟩, ⟨.equals, "=", ⟨2, 5⟩⟩, .eof ⟨2, 6⟩]
  have hkinds : (parse tokens none { keywords := [] } {}).toOption.map
      (·.errors.map (·.token.kind)) = some [.newline, .equals, .equals] := by decide +kernel
  obtain ⟨output, hparse, hlength, hanchored⟩ :=
    (parse_anchored { keywords := [] } {}).1 tokens none rfl
  rw [hparse] at hkinds
  exact ⟨tokens, output, rfl, hparse, hlength, hanchored, Option.some.inj hkinds⟩

end Parser

end SunLint
