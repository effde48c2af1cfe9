import SunLint.Proofs.Editor.QuickFix

/-!
# Misspelled words replaced

What comes of a quick fix is up to the editor: it puts the new text in the place of the range that
was published, which is in lines and in units of UTF-16 (`TextEdit.apply`). For a misspelling the
range is that of the token, so the proposed word is put in its place. The text that comes out has
the tokens of the one before, with the word in place of the misspelled one, since a word stays a
token of its own whatever stands around it.

* `TextEdit.apply_eq`: an edit changes the text of its range and nothing else;
* `Token.IsWordIn.exists_replaced`: a word in the place of a word changes this one token;
* `CodeAction.quickFix?_replaces`: the quick fix for a misspelling does just that.
-/

namespace SunLint

variable {shape : Shape} {front back : List Char}

/-! ## Edits -/

namespace Text

/-- What stands in front of a place in the text. Lines end at line feeds, and behind the end of a
    line there is nothing more of it. -/
def inFrontOf (cs : List Char) (place : Place) : List Char :=
  let line := (pieces cs)[place.line]?.getD []
  (((pieces cs).take place.line).map (· ++ ['\n'])).flatten ++
    line.take (charColumn line place.character)

theorem flatten_pieces (cs : List Char) :
    ((pieces cs).map (· ++ ['\n'])).flatten = cs ++ ['\n'] := by
  induction cs with
  | nil => rfl
  | cons c cs ih =>
    rw [pieces]
    cases h : pieces cs with
    | nil => exact absurd h (pieces_ne_nil cs)
    | cons piece rest =>
      rw [h] at ih
      split <;> simp_all

/-- The lines in front of a place and what stands on its own line. -/
theorem flatten_take_pieces (front back : List Char) :
    (((pieces (front ++ back)).take (front.count '\n')).map (· ++ ['\n'])).flatten ++
      lastLine front = front := by
  induction front using List.reverseRecOn generalizing back with
  | nil => rfl
  | append_singleton front c ih =>
    rw [List.append_assoc, List.singleton_append, List.count_append, lastLine_concat]
    by_cases hc : c = '\n'
    · -- All pieces of the text in front are lines in front of the place.
      rw [hc, pieces_append, if_pos rfl, List.append_nil, List.count_singleton_self,
        ← length_pieces, List.take_left, flatten_pieces]
    · have hcount : List.count '\n' [c] = 0 := by simp [hc]
      rw [hcount, Nat.add_zero, if_neg hc, ← List.append_assoc, ih]

/-- The place of what stands behind `front`. -/
theorem inFrontOf_append (front back : List Char) :
    inFrontOf (front ++ back) ⟨front.count '\n', (utf16 (lastLine front)).length⟩ = front := by
  simp only [inFrontOf, getElem?_pieces, Option.getD_some, charColumn_append, List.take_left,
    flatten_take_pieces]

end Text

/-- The text with the new text of the edit in the place of its range. -/
def TextEdit.apply (e : TextEdit) (text : String) : String :=
  let cs := text.toList
  String.ofList (Text.inFrontOf cs e.range.start ++ e.newText.toList ++
    cs.drop (Text.inFrontOf cs e.range.stop).length)

/-- An edit changes the text of its range and nothing else. -/
theorem TextEdit.apply_eq {text newText : String} {old : List Char}
    (h : text.toList = front ++ old ++ back) (hold : '\n' ∉ old) :
    (TextEdit.mk (.onLine (front.count '\n') (Text.utf16 (Text.lastLine front)).length
      (Text.utf16 (Text.lastLine front ++ old)).length) newText).apply text =
        String.ofList (front ++ newText.toList ++ back) := by
  have hstart := Text.inFrontOf_append front (old ++ back)
  have hstop := Text.inFrontOf_append (front ++ old) back
  rw [← List.append_assoc] at hstart
  rw [Text.lastLine_append hold, List.count_append, List.count_eq_zero.2 hold,
    Nat.add_zero] at hstop
  simp only [apply, Range.onLine, h, hstart, hstop, List.drop_left]

/-! ## Tokens -/

/-- A word is a token of its own kind. -/
theorem IsWord.exists_kind {word : String} (h : IsWord shape word.toList) :
    ∃ kind, ∀ p, Placed.token? ⟨⟨shape, word.toList⟩, p⟩ = some ⟨kind, word, p⟩ := by
  obtain rfl | rfl := h.shape_eq <;>
    exact ⟨_, fun p => by rw [Placed.token?, Placed.kind?, String.ofList_toList]; rfl⟩

theorem IsWord.body_eq {source : String} {word : List Char} (h : IsWord shape word)
    (hsource : source.toList = front ++ word ++ back) (hmark : front.head? ≠ some '\ufeff') :
    Text.body source = source.toList := by
  refine Text.body_of_head? fun hhead => ?_
  cases front with
  | nil =>
    have hmem : '\ufeff' ∉ word := h.not_mem (by decide +kernel) (by decide)
    cases h <;> exact hmem (by simp_all)
  | cons c front =>
    rw [hsource] at hhead
    exact hmark hhead

theorem IsWord.map_content {word : String} (h : IsWord shape word.toList) {kind : Kind}
    (hkind : ∀ p, Placed.token? ⟨⟨shape, word.toList⟩, p⟩ = some ⟨kind, word, p⟩) :
    (tokenize word).tokens.map Token.content = [(kind, word), (.eof, "")] := by
  have hwhole : word.toList = [] ++ word.toList ++ [] := by rw [List.nil_append, List.append_nil]
  have hbody : Text.body word = word.toList := h.body_eq hwhole nofun
  have hchunks : chunks (word.toList ++ []) = [⟨shape, word.toList⟩] := h.chunks_append nofun
  rw [List.append_nil] at hchunks
  rw [tokens_tokenize, placedChunks, hbody, hchunks, placeFrom, placeFrom,
    List.filterMap_cons_some (hkind _)]
  rfl

namespace Token.IsWordIn

variable {source : String} {t : Token} {before after : List Chunk}
  (h : t.IsWordIn source shape before after)
include h

/-- The tokens around a word are those of the chunks around it. -/
theorem tokens_eq : (tokenize source).tokens = tokensFrom .start before ++
    t :: (tokensFrom (t.position.after t.text.toList) after ++
      [eof (Position.start.after (Text.body source))]) := by
  rw [tokens_tokenize, placedChunks, ← tokensFrom, h.chunks, tokensFrom_append, ← h.position,
    tokensFrom_cons, h.token, List.append_assoc]
  rfl

/-- With another word of its sort in the place of a word, the text has the same tokens but for this
    one. -/
theorem exists_replaced (hmark : source.toList.head? ≠ some '\ufeff') {word : String}
    (hword : IsWord shape word.toList) : ∃ kind,
      (tokenize word).tokens.map content = [(kind, word), (.eof, "")] ∧
      (tokenize (String.ofList (joined before ++ word.toList ++ joined after))).tokens.map content =
        (tokensFrom .start before).map content ++
          (kind, word) :: (tokensFrom (t.position.after t.text.toList) after ++
            [eof (Position.start.after (Text.body source))]).map content := by
  obtain ⟨kind, hkind⟩ := hword.exists_kind
  refine ⟨kind, hword.map_content hkind, ?_⟩
  have hfront : (joined before).head? ≠ some '\ufeff' := by
    intro hhead
    obtain ⟨rest, hrest⟩ := List.head?_eq_some_iff.1 hhead
    rw [h.toList_eq hmark, hrest] at hmark
    exact hmark rfl
  generalize hnew : String.ofList (joined before ++ word.toList ++ joined after) = replaced
  have hreplaced : replaced.toList = joined before ++ word.toList ++ joined after := by
    rw [← hnew, String.toList_ofList]
  -- Behind the word only the positions are others.
  have hafter := map_content_tokensFrom ((Position.start.after (joined before)).after word.toList)
    (t.position.after t.text.toList) after
  rw [tokens_tokenize, placedChunks, ← tokensFrom, hword.body_eq hreplaced hfront, hreplaced,
    List.append_assoc, chunks_replace h.chunks hword, tokensFrom_append, tokensFrom_cons, hkind]
  simp only [List.map_append, Option.toList_some, List.map_cons, List.map_nil, List.nil_append,
    List.append_assoc, List.cons_append, hafter]
  rfl

end Token.IsWordIn

/-! ## Quick fixes -/

theorem isWord_of_all {text : List Char} (h : text.head?.any Text.startsWord = true)
    (hall : text.all Text.isWordChar = true) :
    IsWord .word text ∧ IsWord .directive ('@' :: text) := by
  cases text with
  | nil => cases h
  | cons c rest =>
    have hrest : ∀ x ∈ rest, Text.isWordChar x = true := fun x hx =>
      List.all_eq_true.1 hall x (List.mem_cons_of_mem _ hx)
    exact ⟨.word h hrest, .directive h hrest⟩

/-- What misspelled words of the built-in dictionary stand for are keywords. -/
theorem Dictionary.mem_keywords_of_mem_values {word : String}
    (h : word ∈ builtin.misspellings.values) : word ∈ builtin.keywords := by
  have hall : ∀ word ∈ builtin.misspellings.values, word ∈ builtin.keywords := by decide +kernel
  exact hall word h

/-- The built-in keywords are words. -/
theorem Dictionary.isWord_of_mem_keywords {word : String} (h : word ∈ builtin.keywords) :
    IsWord .word word.toList := by
  have hall : ∀ word ∈ builtin.keywords, word.toList.head?.any Text.startsWord = true ∧
      word.toList.all Text.isWordChar = true := by decide +kernel
  exact (isWord_of_all (hall word h).1 (hall word h).2).1

/-- The built-in directives are directives. -/
theorem Dictionary.isWord_of_mem_directives {word : String} (h : word ∈ builtin.directives.keys) :
    IsWord .directive word.toList := by
  have hall : ∀ word ∈ builtin.directives.keys, word.toList = '@' :: word.toList.tail ∧
      word.toList.tail.head?.any Text.startsWord = true ∧
      word.toList.tail.all Text.isWordChar = true := by decide +kernel
  obtain ⟨hmarker, hstarts, htail⟩ := hall word h
  rw [hmarker]
  exact (isWord_of_all hstarts htail).2

/-- A misspelling is none of the errors in the characters of a text. -/
theorem LexicalError.code_ne {source : String} {e : LexicalError}
    (h : e ∈ (tokenize source).errors) : e.code ≠ .possibleMisspelling := by
  intro hcode
  obtain ⟨ch, -, he⟩ := List.mem_filterMap.1 h
  obtain ⟨-, ⟨-, hother⟩ | ⟨-, hother, -⟩ | ⟨-, hstray, -⟩⟩ := Placed.error?_eq_some he
  · cases hcode.symm.trans hother
  · cases hcode.symm.trans hother
  · rw [LexicalError.isStray, hcode] at hstray
    cases hstray

namespace CodeAction

variable {uri text sourceName : String} {d : ClientDiagnostic}

/-- A diagnostic with the code of a misspelling shows a syntax error with that code. -/
theorem exists_shown {errors : Errors} (hlexical : errors.lexical = (tokenize text).errors)
    (hd : d ∈ (Diagnostic.ofErrors text sourceName errors).map
      (ClientDiagnostic.ofDiagnostic uri text))
    (hcode : d.errorCode? = some .possibleMisspelling) :
    ∃ e ∈ errors.syntactic, e.code = .possibleMisspelling ∧ d = e.shown uri text sourceName := by
  rw [Diagnostic.ofErrors, List.map_map] at hd
  obtain ⟨f, hf, rfl⟩ := List.mem_map.1 hd
  have hfinding : f.code = .possibleMisspelling :=
    Option.some.inj ((ErrorCode.ofName?_name _).symm.trans hcode)
  obtain hf | hf := List.mem_append.1 hf <;> obtain ⟨e, he, rfl⟩ := List.mem_map.1 hf
  · rw [hlexical] at he
    exact absurd hfinding (LexicalError.code_ne he)
  · exact ⟨e, he, hfinding, rfl⟩

/-- The fix for a misspelling that was recorded for a token replaces the token. -/
theorem apply_replaces (hmark : text.toList.head? ≠ some '\ufeff') {scene : Scene}
    {e : SyntaxError} (htoken : e.token ∈ (tokenize text).tokens) {word : String}
    (he : e = scene.recordMisspelling e.token word e.context)
    (hkind : e.token.kind.wordShape? = some shape) (hword : IsWord shape word.toList) :
    (e.shown uri text sourceName).range = (Range.ofPosition e.token.position.line
        e.token.position.column e.token.width).inUnits text ∧
      ∃ before after kind, (tokenize text).tokens = before ++ e.token :: after ∧
        (tokenize word).tokens.map Token.content = [(kind, word), (.eof, "")] ∧
        (tokenize ((TextEdit.mk (e.shown uri text sourceName).range word).apply text)).tokens.map
          Token.content = before.map Token.content ++ (kind, word) :: after.map Token.content := by
  have hposition : e.position = e.token.position := congrArg SyntaxError.position he
  have hrange : (e.shown uri text sourceName).range = (Range.ofPosition e.token.position.line
      e.token.position.column e.token.width).inUnits text := by
    rw [← hposition]
    rfl
  obtain ⟨before, after, hin⟩ := Token.exists_isWordIn htoken hkind
  obtain ⟨kind, hcontent, hreplaced⟩ := hin.exists_replaced hmark hword
  refine ⟨hrange, _, _, kind, hin.tokens_eq, hcontent, ?_⟩
  rw [hrange, hin.range_eq hmark, hin.line_eq,
    TextEdit.apply_eq (hin.toList_eq hmark) fun hmem => (hin.isWord.ne_lineEnd _ hmem).1 rfl]
  exact hreplaced

/-- The quick fix for every misspelling that is reported for a text replaces one token, the one that
    the diagnostic is about, by the proposed keyword or directive, which is a token of its own kind.
    All others say what they said before. A byte-order mark at the start of the text would be
    counted in places but not in positions. -/
theorem quickFix?_replaces {text : String} (hmark : text.toList.head? ≠ some '\ufeff')
    (settings : Settings) : ∃ errors, analyze .builtin settings text = .ok errors ∧
      ∀ uri sourceName, ∀ d ∈ (Diagnostic.ofErrors text sourceName errors).map
          (ClientDiagnostic.ofDiagnostic uri text), d.errorCode? = some .possibleMisspelling →
        ∃ action before token after kind word, quickFix? uri d = some action ∧
          (tokenize text).tokens = before ++ token :: after ∧
          d.range = (Range.ofPosition token.position.line token.position.column
            token.width).inUnits text ∧
          d.message = "Unknown word '" ++ token.text ++ "'. " ++ Suggestion.didYouMean word ∧
          (token.kind = .text ∧ word ∈ Dictionary.builtin.keywords ∨
            token.kind = .directive ∧ word ∈ Dictionary.builtin.directives.keys) ∧
          (tokenize word).tokens.map Token.content = [(kind, word), (.eof, "")] ∧
          (tokenize (action.edit.apply text)).tokens.map Token.content =
            before.map Token.content ++ (kind, word) :: after.map Token.content := by
  have hproposals : ∀ word ∈ Dictionary.builtin.proposals, '\'' ∉ word.toList := by decide +kernel
  obtain ⟨output, hparse, htells⟩ :=
    Parser.tells_of_mem_errors (getLast?_tokenize text) (some text) .builtin settings
  refine ⟨_, by rw [analyze, hparse], fun uri sourceName d hd hcode => ?_⟩
  obtain ⟨e, he, hmisspelling, rfl⟩ := exists_shown rfl hd hcode
  obtain ⟨htell, htoken⟩ := htells e he
  have hrepair : e.IsRepair _ (e.shown uri text sourceName).range
      ((mend? (e.shown uri text sourceName)).map (·.2)) :=
    isRepair_of_tells htell (space_not_mem htoken) hproposals
  -- What was recorded for the token is what the fix is made of.
  rw [SyntaxError.IsRepair, hmisspelling] at hrepair
  obtain ⟨word, hproposes, hrecord, hmend⟩ := hrepair
  obtain ⟨⟨title, edit⟩, htitle, rfl⟩ := Option.map_eq_some_iff.1 hmend
  have haction : quickFix? uri (e.shown uri text sourceName) = some
      ⟨title, .quickFix (e.shown uri text sourceName), uri,
        ⟨(e.shown uri text sourceName).range, word⟩⟩ := by
    rw [quickFix?, htitle]
    rfl
  have hmessage : (e.shown uri text sourceName).message =
      "Unknown word '" ++ e.token.text ++ "'. " ++ Suggestion.didYouMean word :=
    congrArg SyntaxError.message hrecord
  obtain ⟨shape, hkind, hword, hproposed⟩ : ∃ shape, e.token.kind.wordShape? = some shape ∧
      IsWord shape word.toList ∧ (e.token.kind = .text ∧ word ∈ Dictionary.builtin.keywords ∨
        e.token.kind = .directive ∧ word ∈ Dictionary.builtin.directives.keys) := by
    obtain ⟨hkind, hmem⟩ | ⟨hkind, hmem⟩ := hproposes.kind_and_mem
    · have hkeyword := hmem.elim Dictionary.mem_keywords_of_mem_values id
      exact ⟨.word, by rw [hkind]; rfl, Dictionary.isWord_of_mem_keywords hkeyword,
        .inl ⟨hkind, hkeyword⟩⟩
    · exact ⟨.directive, by rw [hkind]; rfl, Dictionary.isWord_of_mem_directives hmem,
        .inr ⟨hkind, hmem⟩⟩
  obtain ⟨hrange, before, after, kind, htokens, hcontent, happlied⟩ :=
    apply_replaces hmark htoken hrecord hkind hword
  exact ⟨_, before, e.token, after, kind, word, haction, htokens, hrange, hmessage, hproposed,
    hcontent, happlied⟩

/-- A misspelled keyword behind a character that takes two units. -/
theorem quickFix?_replaces_of_function :
    let text := "let x = 1\r\n/* 😀 */ functoin f() \x7b\x7d"
    text.toList.head? ≠ some '\ufeff' ∧ ∃ errors, analyze .builtin {} text = .ok errors ∧
      ∃ d ∈ (Diagnostic.ofErrors text "sun" errors).map
          (ClientDiagnostic.ofDiagnostic "file:///a" text),
        d.errorCode? = some .possibleMisspelling ∧ d.range = .onLine 1 9 17 ∧
        ∃ action before token after kind word, quickFix? "file:///a" d = some action ∧
          (tokenize text).tokens = before ++ token :: after ∧
          (tokenize word).tokens.map Token.content = [(kind, word), (.eof, "")] ∧
          (tokenize (action.edit.apply text)).tokens.map Token.content =
            before.map Token.content ++ (kind, word) :: after.map Token.content := by
  intro text
  have hmark : text.toList.head? ≠ some '\ufeff' := by decide
  obtain ⟨errors, hok, hreplaces⟩ := quickFix?_replaces hmark {}
  have hshown : ((analyze .builtin {} text).toOption.map fun errors =>
      ((Diagnostic.ofErrors text "sun" errors).map
        (ClientDiagnostic.ofDiagnostic "file:///a" text)).map fun d => (d.errorCode?, d.range)) =
      some [(some .possibleMisspelling, .onLine 1 9 17)] := by decide +kernel
  rw [hok] at hshown
  obtain ⟨d, hd, hfields⟩ := List.mem_map.1 (Option.some.inj hshown ▸ List.mem_singleton_self _)
  obtain ⟨hcode, hrange⟩ := Prod.mk.inj hfields
  obtain ⟨action, before, token, after, kind, word, haction, htokens, -, -, -, hcontent,
    happlied⟩ := hreplaces "file:///a" "sun" d hd hcode
  exact ⟨hmark, errors, hok, d, hd, hcode, hrange, action, before, token, after, kind, word,
    haction, htokens, hcontent, happlied⟩

end CodeAction

end SunLint
