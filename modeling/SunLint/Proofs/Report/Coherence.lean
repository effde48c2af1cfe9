import SunLint.Proofs.Ledger.Recount

/-!
# What a report says of the errors

A report has the errors of a file in four shapes: as numbers, as findings, as diagnostics for
editors and as suggestions. Those who read it rely on these to be about the same errors, place by
place (`Report.Presents`).

* `Diagnostic.ofFinding_shows`: a diagnostic says of a finding what is to be said of it, at a place
  that can be seen;
* `Report.allSuggestions_eq`: the suggestions of the findings come first, and of the recommendations
  those that are not among them;
* `Ledger.add?_eq_some_iff`: a report is added if the range of every error ends at a column of 32
  bits, and otherwise the report and the ledger with it fail;
* `Ledger.add?_presents`: the report that is added to a ledger is found there, and presents the
  errors.
-/

namespace SunLint

/-! ## Suggestions -/

namespace Distinct

variable {α : Type} [DecidableEq α]

/-- To a list those entries are added that it does not have, each at its first place. -/
theorem addAll_eq (l entries : List α) :
    addAll l entries = l ++ (entries.filter (· ∉ l)).eraseDups := by
  induction entries generalizing l with
  | nil => exact (List.append_nil l).symm
  | cons a rest ih =>
    -- What is added of the rest depends on whether `a` has been added.
    have hstep : addAll l (a :: rest) = addAll (add l a) rest := rfl
    rw [hstep, ih, add]
    split
    · rename_i ha
      rw [List.filter_cons_of_neg (by simpa using ha)]
    · rename_i ha
      have hrest : rest.filter (· ∉ l ++ [a]) = (rest.filter (· ∉ l)).filter (!· == a) := by
        rw [List.filter_filter]
        refine List.filter_congr fun b _ => ?_
        simp [and_comm, beq_eq_decide]
      rw [List.filter_cons_of_pos (by simpa using ha), List.eraseDups_cons, hrest,
        List.append_assoc, List.singleton_append]

theorem ofList_eq_eraseDups (entries : List α) : ofList entries = entries.eraseDups := by
  rw [ofList, addAll_eq, List.nil_append, List.filter_eq_self.2 (by simp)]

theorem eraseDups_eq_self {l : List α} (h : l.Nodup) : l.eraseDups = l := by
  induction l with
  | nil => rfl
  | cons a l ih =>
    rw [List.nodup_cons] at h
    have hl : l.filter (!· == a) = l :=
      List.filter_eq_self.2 fun b hb => by simpa using ne_of_mem_of_not_mem hb h.1
    rw [List.eraseDups_cons, hl, ih h.2]

end Distinct

/-- No recommendation is called for twice. -/
theorem Advice.nodup_triggered (errors : Errors) : (triggered errors).Nodup := by
  rw [triggered]
  split <;> split <;> split <;> split <;> simp

/-- The suggestions of the findings, each where it comes up first, and after them those of the first
    three recommendations that are not among them. -/
theorem Report.allSuggestions_eq (errors : Errors) :
    let own := (errors.findings.flatMap (·.suggestions)).eraseDups
    allSuggestions errors = own ++ ((Advice.triggered errors).take 3).filter (· ∉ own) := by
  intro own
  have hnodup : (((Advice.triggered errors).take 3).filter (· ∉ own)).Nodup :=
    ((Advice.nodup_triggered errors).sublist (List.take_sublist 3 _)).filter _
  rw [allSuggestions, Distinct.ofList_eq_eraseDups, Distinct.addAll_eq,
    Distinct.eraseDups_eq_self hnodup]

theorem Report.nodup_allSuggestions (errors : Errors) : (allSuggestions errors).Nodup :=
  Distinct.nodup_addAll (Distinct.nodup_addAll List.nodup_nil _) _

/-! ## Diagnostics -/

/-- The diagnostic says of the finding what it is, and shows it on a stretch of one line that starts
    where the finding is and is not empty. -/
structure Diagnostic.Shows (d : Diagnostic) (f : Finding) : Prop where
  message : d.message = f.message
  code : d.code = some f.code
  error : d.level = .error ↔ f.severity = .error
  warning : d.level = .warning ↔ f.severity = .warning
  information : d.level = .information ↔ f.severity = .info
  start : d.range.start = ⟨f.position.line - 1, f.position.column - 1⟩
  line : d.range.stop.line = d.range.start.line
  nonempty : d.range.start.character < d.range.stop.character

theorem Diagnostic.ofFinding_shows (source sourceName : String) (f : Finding) :
    (ofFinding source sourceName f).Shows f where
  message := rfl
  code := rfl
  error := by cases hs : f.severity <;> simp [ofFinding, Level.ofSeverity, hs]
  warning := by cases hs : f.severity <;> simp [ofFinding, Level.ofSeverity, hs]
  information := by cases hs : f.severity <;> simp [ofFinding, Level.ofSeverity, hs]
  start := rfl
  line := rfl
  nonempty := by
    simp only [ofFinding, Range.ofPosition, Range.onLine]
    omega

/-- The range of the finding ends at a column of 32 bits. -/
def Finding.Fits (f : Finding) : Prop := f.position.column - 1 + max f.width 1 < Count.bound

instance (f : Finding) : Decidable f.Fits := inferInstanceAs (Decidable (_ < _))

theorem Diagnostic.ofFinding?_eq_some {f : Finding} (h : f.Fits) (source sourceName : String) :
    ofFinding? source sourceName f = some (ofFinding source sourceName f) := by
  rw [ofFinding?, Range.ofPosition?_eq_some_iff.2 ⟨h, rfl⟩]
  rfl

theorem Diagnostic.ofFinding?_eq_none {f : Finding} (h : ¬ f.Fits) (source sourceName : String) :
    ofFinding? source sourceName f = none := by
  rw [ofFinding?, Range.ofPosition?_eq_none_iff.2 (Nat.le_of_not_lt h)]
  rfl

/-- Where there is something for each of a list, there is the list of it. -/
theorem mapM_eq_some {α β : Type} {f : α → Option β} {g : α → β} {l : List α}
    (h : ∀ a ∈ l, f a = some (g a)) : l.mapM f = some (l.map g) := by
  induction l with
  | nil => rfl
  | cons a l ih =>
    rw [List.forall_mem_cons] at h
    rw [List.mapM_cons, h.1, ih h.2]
    rfl

theorem mapM_eq_none {α β : Type} {f : α → Option β} {l : List α} {a : α} (ha : a ∈ l)
    (h : f a = none) : l.mapM f = none := by
  induction l with
  | nil => cases ha
  | cons b l ih =>
    rw [List.mapM_cons]
    obtain rfl | ha := List.mem_cons.1 ha
    · rw [h]
      rfl
    · rw [ih ha]
      cases f b <;> rfl

/-- There are diagnostics if all findings fit. One that does not is enough for there to be none. -/
theorem Diagnostic.ofErrors?_eq (source sourceName : String) (errors : Errors) :
    ofErrors? source sourceName errors =
      if ∀ f ∈ errors.findings, f.Fits then some (ofErrors source sourceName errors) else none := by
  split
  · rename_i h
    exact mapM_eq_some fun f hf => ofFinding?_eq_some (h f hf) source sourceName
  · rename_i h
    obtain ⟨f, h⟩ := Classical.not_forall.1 h
    obtain ⟨hf, hfits⟩ := Classical.not_imp.1 h
    exact mapM_eq_none hf (ofFinding?_eq_none hfits source sourceName)

/-! ## Reports -/

/-- The report counts the errors, and has a finding and a diagnostic of each of them at the same
    place, the lexical ones before the syntactic ones; its suggestions are those of the findings,
    each where it comes up first, and then those of the first three recommendations that are not
    among them. -/
structure Report.Presents (r : Report) (errors : Errors) : Prop where
  lexicalCount : r.lexicalCount = errors.lexical.length
  syntacticCount : r.syntacticCount = errors.syntactic.length
  total : r.total = r.lexicalCount + r.syntacticCount
  length_findings : r.findings.length = r.total
  length_diagnostics : r.diagnostics.length = r.total
  lexical : ∀ (i : Nat) (e : LexicalError), errors.lexical[i]? = some e →
    ∃ d, r.diagnostics[i]? = some d ∧ r.findings[i]? = some (Finding.ofLexical e) ∧
      d.Shows (.ofLexical e)
  syntactic : ∀ (i : Nat) (e : SyntaxError), errors.syntactic[i]? = some e →
    ∃ d, r.diagnostics[errors.lexical.length + i]? = some d ∧
      r.findings[errors.lexical.length + i]? = some (Finding.ofSyntactic e) ∧
      d.Shows (.ofSyntactic e)
  nodup_suggestions : r.suggestions.Nodup
  suggestions : ∃ own, own = (r.findings.flatMap (·.suggestions)).eraseDups ∧
    r.suggestions = own ++ ((Advice.triggered errors).take 3).filter (· ∉ own)

/-- At the place of a finding there is a diagnostic that shows it. -/
theorem Diagnostic.exists_shows {source sourceName : String} {errors : Errors} {i : Nat}
    {f : Finding} (h : errors.findings[i]? = some f) :
    ∃ d, (ofErrors source sourceName errors)[i]? = some d ∧ d.Shows f := by
  refine ⟨ofFinding source sourceName f, ?_, ofFinding_shows source sourceName f⟩
  rw [ofErrors, List.getElem?_map, h]
  rfl

theorem Report.make_presents (sourceName time file source : String) (errors : Errors) :
    (make sourceName time file source errors).Presents errors where
  lexicalCount := rfl
  syntacticCount := rfl
  total := rfl
  length_findings := errors.length_findings
  length_diagnostics := (List.length_map _).trans errors.length_findings
  lexical i e he := by
    have hfinding : errors.findings[i]? = some (.ofLexical e) := by
      have hi : i < (errors.lexical.map Finding.ofLexical).length := by
        rw [List.length_map]
        exact (List.getElem?_eq_some_iff.1 he).1
      rw [Errors.findings, List.getElem?_append_left hi, List.getElem?_map, he]
      rfl
    obtain ⟨d, hd, hshows⟩ := Diagnostic.exists_shows hfinding
    exact ⟨d, hd, hfinding, hshows⟩
  syntactic i e he := by
    have hfinding : errors.findings[errors.lexical.length + i]? = some (.ofSyntactic e) := by
      rw [Errors.findings, List.getElem?_append_right (by simp), List.length_map,
        Nat.add_sub_cancel_left, List.getElem?_map, he]
      rfl
    obtain ⟨d, hd, hshows⟩ := Diagnostic.exists_shows hfinding
    exact ⟨d, hd, hfinding, hshows⟩
  nodup_suggestions := nodup_allSuggestions errors
  suggestions := ⟨_, rfl, allSuggestions_eq errors⟩

theorem Report.make?_eq (sourceName time file source : String) (errors : Errors) :
    make? sourceName time file source errors =
      if ∀ f ∈ errors.findings, f.Fits then some (make sourceName time file source errors)
      else none := by
  rw [make?, Diagnostic.ofErrors?_eq]
  split <;> rfl

/-! ## Ledgers -/

namespace Ledger

variable (l : Ledger) (time file source : String) (errors : Errors)

theorem add?_eq_some_iff {l' : Ledger} : l.add? time file source errors = some l' ↔
    (∀ f ∈ errors.findings, f.Fits) ∧ l.add time file source errors = l' := by
  rw [add?, Report.make?_eq, Option.map_eq_some_iff]
  constructor
  · rintro ⟨r, hr, rfl⟩
    obtain ⟨hfits, hr⟩ := Option.ite_none_right_eq_some.1 hr
    exact ⟨hfits, congrArg l.put (Option.some.inj hr)⟩
  · rintro ⟨hfits, rfl⟩
    exact ⟨_, if_pos hfits, rfl⟩

theorem add?_eq_none_iff : l.add? time file source errors = none ↔
    ∃ f ∈ errors.findings, Count.bound ≤ f.position.column - 1 + max f.width 1 := by
  rw [add?, Report.make?_eq, Option.map_eq_none_iff, ite_eq_right_iff]
  simp [Finding.Fits]

/-- The report on a file that is added to a ledger is found there, and presents the errors. -/
theorem add_presents :
    ∃ r, (l.add time file source errors).report? file = some r ∧ r.Presents errors := by
  refine ⟨_, ?_, Report.make_presents l.sourceName time file source errors⟩
  rw [add, report?_put]
  exact if_pos rfl

/-- A report is added to a ledger unless the range of an error ends behind the last column there is.
    It is found under the name of the file then, and presents the errors. -/
theorem add?_presents :
    (l.add? time file source errors = none ↔
        ∃ f ∈ errors.findings, Count.bound ≤ f.position.column - 1 + max f.width 1) ∧
      ∀ l', l.add? time file source errors = some l' →
        ∃ r, l'.report? file = some r ∧ r.Presents errors := by
  refine ⟨l.add?_eq_none_iff time file source errors, fun l' hl' => ?_⟩
  obtain ⟨-, rfl⟩ := (l.add?_eq_some_iff time file source errors).1 hl'
  exact l.add_presents time file source errors

/-- An error of two characters in the first line. -/
theorem add?_presents_of_stray :
    let errors : Errors :=
      ⟨[⟨"Invalid token sequence", ⟨1, 5⟩, 2, .unexpectedCharacter, []⟩], []⟩
    ∃ l' r, (ofSettings {}).add? "" "main.sun" "" errors = some l' ∧
      l'.report? "main.sun" = some r ∧ r.Presents errors := by
  intro errors
  obtain ⟨hnone, hsome⟩ := add?_presents (ofSettings {}) "" "main.sun" "" errors
  cases hadd : (ofSettings {}).add? "" "main.sun" "" errors with
  | none =>
    obtain ⟨f, hf, hbound⟩ := hnone.1 hadd
    obtain rfl := List.mem_singleton.1 hf
    exact absurd hbound (by decide)
  | some l' =>
    obtain ⟨r, hr, hpresents⟩ := hsome l' hadd
    exact ⟨l', r, rfl, hr, hpresents⟩

/-- There is no report on an error of two characters at the last column of 32 bits. -/
theorem last_column_unreported :
    let errors : Errors :=
      ⟨[⟨"Invalid token sequence", ⟨1, 4294967295⟩, 2, .unexpectedCharacter, []⟩], []⟩
    (ofSettings {}).add? "" "main.sun" "" errors = none ∧
      ¬ ∃ l' r, (ofSettings {}).add? "" "main.sun" "" errors = some l' ∧
        l'.report? "main.sun" = some r ∧ r.Presents errors := by
  intro errors
  have hnone : (ofSettings {}).add? "" "main.sun" "" errors = none :=
    (add?_eq_none_iff _ _ _ _ _).2 ⟨_, List.mem_singleton_self _, by decide⟩
  refine ⟨hnone, ?_⟩
  rintro ⟨l', r, hl', -⟩
  rw [hnone] at hl'
  cases hl'

end Ledger

end SunLint
