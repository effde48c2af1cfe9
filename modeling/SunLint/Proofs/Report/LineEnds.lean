import SunLint.Proofs.Parser.Layout
import SunLint.Proofs.Parser.Strings
import SunLint.Proofs.Token.Returns

/-!
# What is found in texts with other line ends

The errors of a text are compared with those of the text with a carriage return before every line
feed. The tokens differ in two ways: a line end is one column further to the right
(`Token.moved`), and a string that lacks its closing quote takes the carriage return at the end of
its line with it (`Token.extended`). For the parser the first one is a move within the lines, and
the second one another text of a string.

* `analyze_addReturns`: the errors are the same, but that those at line ends are further to the
  right and those about such strings are wider, and may quote the carriage return.
-/

namespace SunLint

open Text

variable {lines : Nat}

/-! ## Tokens -/

namespace Token

/-- The token where there is a carriage return before every line end. -/
def moved (t : Token) : Token :=
  if t.kind = .newline then { t with position := t.position.next '\r' } else t

/-- The token where strings take the carriage return with them. -/
def extended (lines : Nat) (t : Token) : Token :=
  if t.isOpen lines then { t with text := t.text ++ "\r" } else t

theorem matches_moved (t : Token) : t.Matches t.moved := by
  rw [moved]
  split
  · exact ⟨rfl, rfl, rfl⟩
  · exact .refl t

theorem extended_eq_self {t : Token} (h : t.isOpen lines = false) : t.extended lines = t :=
  if_neg (by simp [h])

theorem kind_of_isOpen {t : Token} (h : t.isOpen lines = true) : t.kind = .string := by
  simp only [isOpen, Bool.and_eq_true, decide_eq_true_eq] at h
  exact h.1.1.1

theorem text_ne_of_isOpen {t : Token} (h : t.isOpen lines = true) : t.text ≠ "" := by
  simp only [isOpen, Bool.and_eq_true, decide_eq_true_eq] at h
  exact h.1.1.2

theorem display_of_isOpen {t : Token} (h : t.isOpen lines = true) : t.display = t.text := by
  rw [display, kind_of_isOpen h]

theorem display_extended {t : Token} (h : t.isOpen lines = true) :
    (t.extended lines).display = t.text ++ "\r" := by
  rw [extended, if_pos h, display, kind_of_isOpen h]

theorem isOpen_moved (t : Token) : t.moved.isOpen lines = t.isOpen lines := by
  rw [isOpen, isOpen, (matches_moved t).kind, (matches_moved t).text, (matches_moved t).line]

theorem respells_extended (lines : Nat) : Respells (extended lines) where
  kind t := by
    rw [extended]
    split <;> rfl
  position t := by
    rw [extended]
    split <;> rfl
  text t hne := by
    rw [extended, if_neg fun hopen => hne (kind_of_isOpen hopen)]

theorem addReturn_eq (t : Token) : t.addReturn lines = t.moved.extended lines := by
  rw [addReturn, extended, isOpen_moved, moved]
  split
  · rename_i hnewline
    rw [if_neg fun hopen => absurd ((kind_of_isOpen hopen).symm.trans hnewline) (by decide)]
  · rfl

theorem width_of_string {t : Token} (hkind : t.kind = .string) (hne : t.text ≠ "") :
    t.width = t.text.length := by
  have hlength : 1 ≤ t.text.length :=
    Nat.one_le_iff_ne_zero.2 fun h => hne (String.length_eq_zero_iff.1 h)
  rw [width, hkind]
  exact Nat.max_eq_left hlength

/-- A string that takes the carriage return with it is one character wider. -/
theorem width_extended (t : Token) :
    (t.extended lines).width = t.width + if t.isOpen lines then 1 else 0 := by
  rw [extended]
  split
  · rename_i hopen
    have hkind := kind_of_isOpen hopen
    have hne := text_ne_of_isOpen hopen
    rw [width_of_string hkind hne,
      width_of_string (t := { t with text := t.text ++ "\r" }) hkind (by simp [hne]),
      String.length_append]
    rfl
  · rfl

theorem width_moved (t : Token) : t.moved.width = t.width := by
  rw [width, width, (matches_moved t).kind, (matches_moved t).text]

end Token

/-- The tokens are moved first, and then the texts of strings are changed. -/
theorem tokens_addReturns (source : String) :
    (tokenize (String.ofList (addReturns source.toList))).tokens =
      ((tokenize source).tokens.map Token.moved).map
        (Token.extended (Text.pieces source.toList).length) := by
  rw [(tokenize_addReturns source).1, List.map_map]
  exact List.map_congr_left fun t _ => Token.addReturn_eq t

/-- Neither before nor after the move two tokens are at one place. -/
theorem shifts_moved (source : String) : Token.Shifts Token.moved (tokenize source).tokens := by
  refine Token.shifts_of_nodup Token.matches_moved (nodup_positions source) ?_
  have hplaces := nodup_positions (String.ofList (addReturns source.toList))
  rw [tokens_addReturns, List.map_map] at hplaces
  rwa [show Token.position ∘ Token.extended _ = Token.position from
    funext (Token.respells_extended _).position] at hplaces

/-! ## Errors -/

/-- The error as it is found in the text with carriage returns, if the text has so many lines. -/
structure SyntaxError.Returned (lines : Nat) (e e' : SyntaxError) : Prop where
  code : e'.code = e.code
  severity : e'.severity = e.severity
  /-- A line end is one column further to the right. -/
  position : e'.position =
    if e.token.kind = .newline then ⟨e.position.line, e.position.column + 1⟩ else e.position
  /-- A string that lacks its closing quote is one character wider. -/
  width : e'.token.width = e.token.width + if e.token.isOpen lines then 1 else 0
  /-- The text of such a string may be quoted. -/
  message : e'.message = e.message ∨ e.token.isOpen lines = true ∧ ∃ front back,
    e.message = front ++ e.token.text ++ back ∧
    e'.message = front ++ (e.token.text ++ "\r") ++ back

theorem SyntaxError.Returned.of_moved {l : List Token} {e e₁ e₂ : SyntaxError}
    (h₁ : e.Corresponds l (l.map Token.moved) e₁)
    (h₂ : e₁.Respelled (Token.extended lines) e₂) : e.Returned lines e₂ := by
  have htoken : e₁.token = e.token.moved := by
    obtain ⟨i, hi, hi₁⟩ := h₁.index
    rw [List.getElem?_map, hi] at hi₁
    exact (Option.some.inj hi₁).symm
  have hopen : e₁.token.isOpen lines = e.token.isOpen lines := by
    rw [htoken, Token.isOpen_moved]
  refine ⟨h₂.code.trans h₁.code, h₂.severity.trans h₁.severity, ?_, ?_, ?_⟩
  · rw [h₂.position, h₁.position', htoken, h₁.position, Token.moved]
    split <;> rfl
  · rw [h₂.token, Token.width_extended, hopen, htoken, Token.width_moved]
  · rw [← h₁.message]
    cases h : e.token.isOpen lines with
    | false =>
      -- The token is what it was, so a message that quotes it says the same.
      rw [h] at hopen
      have hsame := Token.extended_eq_self hopen
      exact .inl (h₂.message.eq (by rw [hsame]) (by rw [hsame]))
    | true =>
      rw [h] at hopen
      have htext : e₁.token.text = e.token.text := by rw [htoken, (Token.matches_moved _).text]
      obtain hline | ⟨front, back, hfront, hfront'⟩ := h₂.message
      · exact .inl (hline (by rw [(Token.respells_extended lines).position]))
      · rw [Token.display_of_isOpen hopen, htext] at hfront
        rw [Token.display_extended hopen, htext] at hfront'
        exact .inr ⟨rfl, front, back, hfront, hfront'⟩

theorem SyntaxError.returned_of_moved {l : List Token} {es es₁ es₂ : List SyntaxError}
    (h₁ : List.Forall₂ (SyntaxError.Corresponds l (l.map Token.moved)) es es₁)
    (h₂ : List.Forall₂ (SyntaxError.Respelled (Token.extended lines)) es₁ es₂) :
    List.Forall₂ (SyntaxError.Returned lines) es es₂ := by
  induction h₁ generalizing es₂ with
  | nil =>
    cases h₂
    exact .nil
  | cons he₁ _ ih =>
    cases h₂ with
    | cons he₂ h₂ => exact .cons (.of_moved he₁ he₂) (ih h₂)

theorem analyze_of_parse {dictionary : Dictionary} {settings : Settings} {source : String}
    {output : ParseOutput}
    (h : parse (tokenize source).tokens (some source) dictionary settings = .ok output) :
    analyze dictionary settings source = .ok ⟨(tokenize source).errors, output.errors⟩ := by
  simp only [analyze, h]

/-- In the text with carriage returns the same errors are found in the same order. Syntax errors
    about line ends are one column further to the right. The errors that a string lacks its closing
    quote, and the syntax errors about such strings, are one character wider unless the string is
    on the last line, and messages that quote the string quote the carriage return as well. -/
theorem analyze_addReturns (dictionary : Dictionary) (settings : Settings) (source : String) :
    let lines := (Text.pieces source.toList).length
    ∃ errors errors', analyze dictionary settings source = .ok errors ∧
      analyze dictionary settings (String.ofList (addReturns source.toList)) = .ok errors' ∧
      errors'.lexical = errors.lexical.map (·.addReturn lines) ∧
      List.Forall₂ (SyntaxError.Returned lines) errors.syntactic errors'.syntactic := by
  intro lines
  have hlast := getLast?_tokenize source
  have hlast' : ((tokenize source).tokens.map Token.moved).getLast?.map (·.kind) = some .eof :=
    (Token.getLast?_map_kind (fun t => (Token.matches_moved t).kind) _).trans hlast
  -- The list in between is that of no text: its line ends are moved, and its strings are not
  -- changed yet.
  obtain ⟨found, s, t, hparse, hmoved, habreast⟩ :=
    Parser.parse_shifted (shifts_moved source) hlast (some source) none dictionary settings
  obtain ⟨output, output', hmoved', hparse', hrespelled⟩ :=
    Parser.parse_respelled (Token.respells_extended lines) hlast' none
      (some (String.ofList (addReturns source.toList))) dictionary settings
  obtain rfl : _ = output := Except.ok.inj (hmoved.symm.trans hmoved')
  rw [← tokens_addReturns] at hparse'
  have hcorresponds := habreast.errors.corresponds Token.matches_moved
  have hreturned :=
    SyntaxError.returned_of_moved (List.forall₂_reverse_iff.2 hcorresponds) hrespelled
  have hok := analyze_of_parse hparse
  have hok' := analyze_of_parse hparse'
  exact ⟨_, _, hok, hok', (tokenize_addReturns source).2, hreturned⟩

/-- A string that lacks its closing quote, on a line that is not the last one, and a line end where
    an expression is lacking. -/
theorem findings_of_returns :
    let source := "let \"abc\nlet x =\n"
    let returned := String.ofList (addReturns source.toList)
    let found (source : String) :=
      (analyze { keywords := [] } {} source).toOption.map fun errors =>
        errors.findings.map fun e => (e.code, e.message, e.position, e.width)
    '\r' ∉ source.toList ∧ returned = "let \"abc\r\nlet x =\r\n" ∧
    found source = some [(.unterminatedString, "Unterminated string literal", ⟨1, 5⟩, 4),
      (.expectedToken, "Expected a name, found '\"abc'", ⟨1, 5⟩, 4),
      (.missingToken, "Expected an expression here", ⟨2, 8⟩, 1)] ∧
    found returned = some [(.unterminatedString, "Unterminated string literal", ⟨1, 5⟩, 5),
      (.expectedToken, "Expected a name, found '\"abc\r'", ⟨1, 5⟩, 5),
      (.missingToken, "Expected an expression here", ⟨2, 9⟩, 1)] := by
  intro source returned found
  exact ⟨by decide +kernel, by decide +kernel, by decide +kernel, by decide +kernel⟩

end SunLint
