import SunLint.Editor.CodeAction
import SunLint.Proofs.Dictionary.Nearest
import SunLint.Proofs.Editor.Words
import SunLint.Proofs.Parser.Repairs

/-!
# Quick fixes

The parser knows what would mend the text, but a quick fix is made from the message of the
diagnostic alone. It is found there again: what is missing is quoted first in the message, and
of the words that are quoted in the warning of a misspelling the proposed one comes behind the
opening of the proposal. The word that is misspelled comes before, and might contain that
opening, or one that overlaps with it, only if it contained a space.

* `CodeAction.quoted?_eq`, `Suggestion.proposed?_misspelling`: what is read in the messages;
* `space_not_mem`: words and directives contain no spaces;
* `quickFix?_isRepair`: the quick fix of every syntax error is the repair it was recorded with, if
  no keyword or directive contains an apostrophe.
-/

namespace SunLint

/-! ## Reading messages -/

namespace Text

variable {x : Char} {before : List Char}

theorem takeWhile_ne (h : x ∉ before) (behind : List Char) :
    (before ++ x :: behind).takeWhile (· ≠ x) = before := by
  rw [List.takeWhile_append_of_pos fun c hc => by simpa using ne_of_mem_of_not_mem hc h]
  simp

theorem dropWhile_ne (h : x ∉ before) (behind : List Char) :
    (before ++ x :: behind).dropWhile (· ≠ x) = x :: behind := by
  rw [List.dropWhile_append_of_pos fun c hc => by simpa using ne_of_mem_of_not_mem hc h]
  simp

end Text

/-- The first quotation in a message. -/
theorem CodeAction.quoted?_eq {message : String} {before quotation behind : List Char}
    (hmessage : message.toList = before ++ '\'' :: (quotation ++ '\'' :: behind))
    (hbefore : '\'' ∉ before) (hquotation : '\'' ∉ quotation) :
    quoted? message = some (String.ofList quotation) := by
  rw [quoted?, hmessage, Text.dropWhile_ne hbefore]
  simp only [Text.takeWhile_ne hquotation, List.mem_append, List.mem_cons, true_or, or_true,
    if_true]

namespace Suggestion

/-- The opening of a proposal does not start where another letter stands. -/
theorem afterFirst?_cons {c : Char} (h : c ≠ 'D') (cs : List Char) :
    Text.afterFirst? proposalOpening.toList (c :: cs) =
      Text.afterFirst? proposalOpening.toList cs := by
  rw [Text.afterFirst?, if_neg]
  simp [proposalOpening, h.symm]

theorem afterFirst?_append {before : List Char} (h : 'D' ∉ before) (cs : List Char) :
    Text.afterFirst? proposalOpening.toList (before ++ cs) =
      Text.afterFirst? proposalOpening.toList cs := by
  induction before with
  | nil => rfl
  | cons c before ih =>
    obtain ⟨hc, hbefore⟩ := not_or.1 (mt List.mem_cons.2 h)
    rw [List.cons_append, afterFirst?_cons (Ne.symm hc), ih hbefore]

/-- It does not start within a word either, since there is a space in it before any apostrophe. -/
theorem afterFirst?_word {word : List Char} (h : ' ' ∉ word) (cs : List Char) :
    Text.afterFirst? proposalOpening.toList (word ++ '\'' :: cs) =
      Text.afterFirst? proposalOpening.toList cs := by
  induction word with
  | nil => exact afterFirst?_cons (by decide) cs
  | cons c word ih =>
    obtain ⟨-, hword⟩ := not_or.1 (mt List.mem_cons.2 h)
    rw [List.cons_append, Text.afterFirst?, if_neg, ih hword]
    -- The space is the fourth character of the opening.
    rcases word with _ | ⟨c₁, _ | ⟨c₂, _ | ⟨c₃, word⟩⟩⟩
    iterate 3 simp [proposalOpening]
    have hspace : ' ' ≠ c₃ := (ne_of_mem_of_not_mem (by simp) hword).symm
    simp [proposalOpening, hspace]

/-- The warning of a misspelling can be read back. -/
theorem proposed?_misspelling {text word : String} (htext : ' ' ∉ text.toList)
    (hword : '\'' ∉ word.toList) :
    proposed? ("Unknown word '" ++ text ++ "'. " ++ didYouMean word) = some word := by
  have hmessage : ("Unknown word '" ++ text ++ "'. " ++ didYouMean word).toList =
      "Unknown word '".toList ++ (text.toList ++ '\'' :: (". ".toList ++
        (proposalOpening.toList ++ (word.toList ++ "'?".toList)))) := by
    simp [didYouMean]
  have hopening (rest : List Char) :
      Text.afterFirst? proposalOpening.toList (proposalOpening.toList ++ rest) = some rest := by
    simp [proposalOpening, Text.afterFirst?]
  have htake : (word.toList ++ "'?".toList).takeWhile (· ≠ '\'') = word.toList :=
    Text.takeWhile_ne hword ['?']
  rw [proposed?, hmessage, afterFirst?_append (by decide), afterFirst?_word htext,
    afterFirst?_append (by decide), hopening]
  simp only [htake, String.ofList_toList]
  simp

end Suggestion

/-! ## Words of the text and of the dictionary -/

/-- Words and directives contain no spaces. -/
theorem space_not_mem {source : String} {token : Token} (h : token ∈ (tokenize source).tokens)
    (hkind : token.kind = .text ∨ token.kind = .directive) : ' ' ∉ token.text.toList := by
  obtain ⟨shape, hshape⟩ : ∃ shape, token.kind.wordShape? = some shape := by
    obtain hkind | hkind := hkind <;> rw [hkind] <;> exact ⟨_, rfl⟩
  obtain ⟨before, after, hin⟩ := Token.exists_isWordIn h hshape
  exact hin.isWord.not_mem (by decide) (by decide)

/-- The words that are proposed in place of others. -/
def Dictionary.proposals (d : Dictionary) : List String :=
  d.keywords ++ d.misspellings.values ++ d.directives.keys

theorem Correction.mem_of_closest? {word : String} {candidates : List String} {budget : Nat}
    {found : Correction} (h : closest? word candidates budget = some found) :
    found.word ∈ candidates := by
  have hnearest := isNearest_closest? word candidates budget
  rw [h] at hnearest
  exact List.mem_of_find?_eq_some hnearest.2.2.1

theorem Dictionary.mem_of_correction? {d : Dictionary} {word : String} {limit : Nat}
    {found : Correction} (h : d.correction? word limit = some found) :
    found.word ∈ d.misspellings.values ∨ found.word ∈ d.keywords := by
  unfold correction? at h
  cases hfind : d.misspellings.find? (Text.lower word) with
  | some keyword =>
    simp only [hfind] at h
    obtain rfl := Option.some.inj h
    exact .inl (List.mem_map.2 ⟨_, SortedMap.find?_eq_some_iff.1 hfind, rfl⟩)
  | none =>
    simp only [hfind] at h
    split at h
    · cases h
    · exact .inr (Correction.mem_of_closest? h)

/-- What is proposed is in the dictionary: a keyword in place of a word, and a directive in place of
    a directive. -/
theorem Scene.Proposes.kind_and_mem {scene : Scene} {token : Token} {word : String}
    (h : scene.Proposes token word) :
    token.kind = .text ∧
        (word ∈ scene.dictionary.misspellings.values ∨ word ∈ scene.dictionary.keywords) ∨
      token.kind = .directive ∧ word ∈ scene.dictionary.directives.keys := by
  cases h with
  | keyword h =>
    unfold replacement? at h
    split at h
    · rename_i hkind
      obtain ⟨found, hfound, rfl⟩ := Option.map_eq_some_iff.1 h
      exact .inl ⟨hkind, Dictionary.mem_of_correction? hfound⟩
    · cases h
  | directive hkind h =>
    obtain ⟨found, hfound, rfl⟩ := Option.map_eq_some_iff.1 h
    exact .inr ⟨hkind, Correction.mem_of_closest? hfound⟩

theorem Scene.Proposes.mem_proposals {scene : Scene} {token : Token} {word : String}
    (h : scene.Proposes token word) :
    word ∈ scene.dictionary.proposals ∧ (token.kind = .text ∨ token.kind = .directive) := by
  obtain ⟨hkind, hmem | hmem⟩ | ⟨hkind, hmem⟩ := h.kind_and_mem
  · exact ⟨by simp [Dictionary.proposals, hmem], .inl hkind⟩
  · exact ⟨by simp [Dictionary.proposals, hmem], .inl hkind⟩
  · exact ⟨by simp [Dictionary.proposals, hmem], .inr hkind⟩

/-! ## Repairs -/

/-- How a delimiter that may be missing is written. -/
def Kind.delimiterText? : Kind → Option String
  | .leftBrace => some "\x7b"
  | .rightBrace => some "\x7d"
  | kind => kind.spelling?

/-- What is written so is read as the delimiter. -/
theorem Kind.tokenize_delimiterText? {kind : Kind} {word : String}
    (h : kind.delimiterText? = some word) :
    (tokenize word).tokens.map (·.kind) = [kind, .eof] := by
  cases kind <;> cases h <;> decide +kernel

/-- The syntax error as it is shown to the editor of the document. -/
def SyntaxError.shown (uri text sourceName : String) (e : SyntaxError) : ClientDiagnostic :=
  .ofDiagnostic uri text (.ofFinding text sourceName (.ofSyntactic e))

/-- The edit is the repair that the error was recorded with, at the range of its diagnostic. -/
def SyntaxError.IsRepair (scene : Scene) (e : SyntaxError) (range : Range)
    (edit : Option TextEdit) : Prop :=
  match e.code with
  | .possibleMisspelling => ∃ word, scene.Proposes e.token word ∧
      e = scene.recordMisspelling e.token word e.context ∧ edit = some ⟨range, word⟩
  | .missingOpenBrace | .missingCloseBrace | .missingToken =>
      (e.expected = [] ∧ edit = none) ∨
        ∃ kind word, e.expected = [kind] ∧ kind.delimiterText? = some word ∧
          edit = some ⟨⟨range.start, range.start⟩, word ++ " "⟩
  | .unexpectedToken => edit = some ⟨range, ""⟩
  | _ => edit = none

namespace CodeAction

variable {uri text sourceName : String} {scene : Scene} {e : SyntaxError}

/-- The edit is chosen by the code of the error and made from its message. -/
theorem mend?_shown : (mend? (e.shown uri text sourceName)).map (·.2) =
    match e.code.category with
    | .missing => (quoted? e.message).map fun missing =>
      ⟨⟨(e.shown uri text sourceName).range.start, (e.shown uri text sourceName).range.start⟩,
        missing ++ " "⟩
    | .misspelling => (Suggestion.proposed? e.message).map fun word =>
      ⟨(e.shown uri text sourceName).range, word⟩
    | .unexpected => some ⟨(e.shown uri text sourceName).range, ""⟩
    | _ => none := by
  have hcode : (e.shown uri text sourceName).errorCode? = some e.code := ErrorCode.ofName?_name _
  have hmessage : (e.shown uri text sourceName).message = e.message := rfl
  rw [mend?, hcode, hmessage, Option.map_some]
  cases e.code.category <;> simp [Function.comp_def]

/-- What is missing is quoted in the message that says so. -/
theorem quoted?_missing {word : String} (hword : '\'' ∉ word.toList) (behind : String) :
    quoted? ("Missing '" ++ word ++ "'" ++ behind) = some word := by
  have hmessage : ("Missing '" ++ word ++ "'" ++ behind).toList =
      "Missing ".toList ++ '\'' :: (word.toList ++ '\'' :: behind.toList) := by simp
  rw [quoted?_eq hmessage (by decide) hword, String.ofList_toList]

/-- The message quotes the delimiter that is expected, or nothing if none is. -/
def QuotesExpected (message : String) (expected : List Kind) : Prop :=
  (expected = [] ∧ quoted? message = none) ∨
    ∃ kind word, expected = [kind] ∧ kind.delimiterText? = some word ∧ quoted? message = some word

theorem quotesExpected_delimiter {construct : Construct} {delimiter : Recovery.Delimiter}
    (h : Recovery.Delimiter.ofConstruct? construct = some delimiter) :
    delimiter.code.category = .missing ∧ QuotesExpected delimiter.message [delimiter.kind] := by
  have hbrace : '\'' ∉ "\x7b".toList := by decide
  have hthen : '\'' ∉ "then".toList := by decide
  cases construct <;> cases h <;> refine ⟨rfl, .inr ⟨_, _, rfl, rfl, ?_⟩⟩
  · exact quoted?_missing hbrace " after function name"
  · exact quoted?_missing hbrace " after component name"
  · exact quoted?_missing hthen " after when condition"

theorem quotesExpected_remark {code : ErrorCode} {message : String} {expected : List Kind}
    (h : Parser.IsRemark code message expected) :
    code = .invalidWhen ∨ code.category = .missing ∧ QuotesExpected message expected := by
  cases h with
  | expression => exact .inr ⟨rfl, .inl ⟨rfl, by decide⟩⟩
  | closingBrace opened =>
    refine .inr ⟨rfl, .inr ⟨_, _, rfl, rfl, ?_⟩⟩
    have hbrace : '\'' ∉ "\x7d".toList := by decide
    have hquoted := quoted?_missing hbrace
      (" to close the block opened on line " ++ toString opened)
    rw [← String.append_assoc] at hquoted
    exact hquoted
  | condition | result => exact .inl rfl

theorem isRepair_of_quotesExpected (hcode : e.code.category = .missing)
    (h : QuotesExpected e.message e.expected) :
    e.IsRepair scene (e.shown uri text sourceName).range
      ((mend? (e.shown uri text sourceName)).map (·.2)) := by
  rw [mend?_shown, hcode]
  generalize (e.shown uri text sourceName).range = range
  dsimp only
  have hinsert : (e.expected = [] ∧ (quoted? e.message).map (fun missing =>
        (⟨⟨range.start, range.start⟩, missing ++ " "⟩ : TextEdit)) = none) ∨
      ∃ kind word, e.expected = [kind] ∧ kind.delimiterText? = some word ∧
        (quoted? e.message).map (fun missing =>
          (⟨⟨range.start, range.start⟩, missing ++ " "⟩ : TextEdit)) =
            some ⟨⟨range.start, range.start⟩, word ++ " "⟩ := by
    obtain ⟨hexpected, hquoted⟩ | ⟨kind, word, hexpected, hword, hquoted⟩ := h
    · exact .inl ⟨hexpected, by rw [hquoted]; rfl⟩
    · exact .inr ⟨kind, word, hexpected, hword, by rw [hquoted]; rfl⟩
  unfold SyntaxError.IsRepair
  cases he : e.code <;> rw [he] at hcode <;> first | exact hinsert | cases hcode

/-- What an error says about its repair is found again in its message. -/
theorem isRepair_of_tells (h : e.Tells scene)
    (hspace : e.token.kind = .text ∨ e.token.kind = .directive → ' ' ∉ e.token.text.toList)
    (hproposals : ∀ word ∈ scene.dictionary.proposals, '\'' ∉ word.toList) :
    e.IsRepair scene (e.shown uri text sourceName).range
      ((mend? (e.shown uri text sourceName)).map (·.2)) := by
  cases h with
  | @misspelling token word h context =>
    obtain ⟨hmem, hkind⟩ := h.mem_proposals
    have hmessage : Suggestion.proposed? (scene.recordMisspelling token word context).message =
      some word := Suggestion.proposed?_misspelling (hspace hkind) (hproposals word hmem)
    rw [mend?_shown, hmessage]
    exact ⟨word, h, rfl, rfl⟩
  | delimiter h =>
    obtain ⟨hcode, hquotes⟩ := quotesExpected_delimiter h
    exact isRepair_of_quotesExpected hcode hquotes
  | remark h =>
    obtain rfl | ⟨hcode, hquotes⟩ := quotesExpected_remark h
    · rw [mend?_shown]
      exact rfl
    · exact isRepair_of_quotesExpected hcode hquotes
  | other hmissing hmisspelling =>
    rw [mend?_shown]
    unfold SyntaxError.IsRepair
    cases hcode : e.code <;> simp_all [ErrorCode.category]

/-- The quick fix for a syntax error is the repair that the parser recorded, whatever the text:
    the keyword or directive that it proposes in place of a word, the delimiter that it expects,
    or nothing in place of a token that it has no use for. -/
theorem quickFix?_isRepair (text : String) (dictionary : Dictionary) (settings : Settings)
    (hproposals : ∀ word ∈ dictionary.proposals, '\'' ∉ word.toList) :
    ∃ output, parse (tokenize text).tokens (some text) dictionary settings = .ok output ∧
      ∀ e ∈ output.errors, ∀ uri sourceName : String,
        e.IsRepair { dictionary, source := some text, limits := settings.limits }
            (e.shown uri text sourceName).range
            ((quickFix? uri (e.shown uri text sourceName)).map (·.edit)) ∧
          ∀ action ∈ quickFix? uri (e.shown uri text sourceName),
            action.uri = uri ∧ action.kind = .quickFix (e.shown uri text sourceName) := by
  obtain ⟨output, hparse, htells⟩ :=
    Parser.tells_of_mem_errors (getLast?_tokenize text) (some text) dictionary settings
  refine ⟨output, hparse, fun e he uri sourceName => ⟨?_, fun action haction => ?_⟩⟩
  · obtain ⟨htells, htoken⟩ := htells e he
    have hedit : (quickFix? uri (e.shown uri text sourceName)).map (·.edit) =
        (mend? (e.shown uri text sourceName)).map (·.2) := by
      rw [quickFix?, Option.map_map]
      rfl
    rw [hedit]
    exact isRepair_of_tells htells (space_not_mem htoken) hproposals
  · obtain ⟨mended, -, rfl⟩ := Option.map_eq_some_iff.1 haction
    exact ⟨rfl, rfl⟩

/-- A function whose keyword is misspelled and whose block is not closed. -/
theorem quickFix?_isRepair_of_function : ∃ (text : String) (dictionary : Dictionary)
    (output : ParseOutput),
    (∀ word ∈ dictionary.proposals, '\'' ∉ word.toList) ∧
    parse (tokenize text).tokens (some text) dictionary {} = .ok output ∧
    output.errors.map (·.code) = [.possibleMisspelling, .missingCloseBrace] ∧
    ∀ e ∈ output.errors, ∀ uri sourceName : String,
      e.IsRepair { dictionary, source := some text, limits := ({} : Settings).limits }
        (e.shown uri text sourceName).range
        ((quickFix? uri (e.shown uri text sourceName)).map (·.edit)) := by
  let text := "functoin f \x7b"
  let dictionary : Dictionary :=
    { keywords := ["function"], misspellings := SortedMap.empty.insert "functoin" "function" }
  have hproposals : ∀ word ∈ dictionary.proposals, '\'' ∉ word.toList := by decide +kernel
  obtain ⟨output, hparse, hrepair⟩ := quickFix?_isRepair text dictionary {} hproposals
  have hcodes : (parse (tokenize text).tokens (some text) dictionary {}).toOption.map
      (fun output => output.errors.map (·.code)) =
        some [.possibleMisspelling, .missingCloseBrace] := by decide +kernel
  rw [hparse] at hcodes
  exact ⟨text, dictionary, output, hproposals, hparse, Option.some.inj hcodes,
    fun e he uri sourceName => (hrepair e he uri sourceName).1⟩

end CodeAction

end SunLint
