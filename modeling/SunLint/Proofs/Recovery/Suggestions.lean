import Mathlib.Data.List.Nodup
import SunLint.Recovery.Scene

/-!
# The suggestions of an error

Suggestions are collected twice: the dictionary's, which end in the generic one
if there are no others, and behind a proposal, if the error has one. Duplicates
are left out both times, and the generic suggestion is taken out again where it
does not stand alone. This leaves something to show in any case, whatever the
dictionary holds: texts that repeat each other are shown once, so that of two or
more that are left at least one is not the generic suggestion.

* `withLead_isPresentable`: the list is not empty, repeats nothing, and has the
  generic suggestion alone or not at all;
* `head?_withLead`: a proposal stays in front;
* `suggestions_isPresentable`: both of them for all that is recorded.
-/

namespace SunLint

/-- What holds of a list of suggestions that is shown. -/
structure Suggestion.IsPresentable (suggestions : List String) : Prop where
  ne_nil : suggestions ≠ []
  nodup : suggestions.Nodup
  /-- The generic suggestion is there for want of any other. -/
  generic_alone : generic ∈ suggestions → suggestions = [generic]

namespace Distinct

variable {α : Type} [DecidableEq α]

/-- Entries are added at the end. -/
theorem prefix_addAll (l entries : List α) : l <+: addAll l entries := by
  induction entries generalizing l with
  | nil => exact List.prefix_rfl
  | cons a rest ih =>
    refine List.IsPrefix.trans ?_ (ih (add l a))
    unfold add
    split
    · exact List.prefix_rfl
    · exact List.prefix_append l [a]

/-- Of two entries or more, none of them twice, one is not `a`. -/
theorem exists_ne_of_one_lt {l : List α} (hl : l.Nodup) (h : 1 < l.length) (a : α) :
    ∃ b ∈ l, b ≠ a := by
  by_contra hall
  push Not at hall
  have hsame : l = List.replicate l.length a := List.eq_replicate_of_mem hall
  have hshort : l.length ≤ 1 := List.nodup_replicate.1 (hsame ▸ hl)
  omega

end Distinct

/-- A proposal is never the generic suggestion. -/
theorem Suggestion.didYouMean_ne_generic (word : String) : didYouMean word ≠ generic := by
  intro h
  have hfirst := congrArg (fun s : String => s.toList.head?) h
  simp [didYouMean, proposalOpening, generic] at hfirst

namespace Scene

theorem withLead_isPresentable (lead : Option String) {suggestions : List String}
    (h : suggestions ≠ []) : Suggestion.IsPresentable (withLead lead suggestions) := by
  have hlead : lead.toList.Nodup := by cases lead <;> simp
  have hall := Distinct.nodup_addAll hlead suggestions
  unfold withLead
  simp only
  split
  case isTrue hmore =>
    obtain ⟨b, hb, hne⟩ := Distinct.exists_ne_of_one_lt hall hmore Suggestion.generic
    exact
      { ne_nil := List.ne_nil_of_mem (List.mem_filter.2 ⟨hb, by simpa using hne⟩)
        nodup := hall.filter _
        generic_alone := fun hgeneric => by simp at hgeneric }
  case isFalse hone =>
    obtain ⟨s, hs⟩ := List.exists_mem_of_ne_nil suggestions h
    have hmem : s ∈ Distinct.addAll lead.toList suggestions := Distinct.mem_addAll.2 (.inr hs)
    obtain ⟨a, ha⟩ : ∃ a, Distinct.addAll lead.toList suggestions = [a] :=
      List.length_eq_one_iff.1 (by have := List.length_pos_of_mem hmem; omega)
    rw [ha]
    exact
      { ne_nil := List.cons_ne_nil a []
        nodup := List.nodup_singleton a
        generic_alone := fun hgeneric => by rw [List.mem_singleton.1 hgeneric] }

/-- A suggestion that goes before all others does so in what is shown. -/
theorem head?_withLead {first : String} (h : first ≠ Suggestion.generic)
    (suggestions : List String) : (withLead (some first) suggestions).head? = some first := by
  obtain ⟨rest, hrest⟩ := Distinct.prefix_addAll [first] suggestions
  unfold withLead
  rw [Option.toList_some, ← hrest]
  simp only [List.singleton_append]
  split <;> simp [h]

variable (scene : Scene)

theorem recordLed_isPresentable (lead : Option String) (code : ErrorCode) (severity : Severity)
    (message : String) (token : Token) (expected : List Kind) (context : Context) :
    Suggestion.IsPresentable
      (scene.recordLed lead code severity message token expected context).suggestions :=
  withLead_isPresentable lead (Suggestion.suggestions_ne_nil _ _ _ _)

/-- Whatever is recorded comes with suggestions that can be shown, and a warning
    of a misspelling with its proposal in front. -/
theorem suggestions_isPresentable (code : ErrorCode) (severity : Severity) (message : String)
    (token : Token) (expected : List Kind) (context : Context) (replacement : String) :
    Suggestion.IsPresentable (scene.recordError message token expected context).suggestions ∧
      Suggestion.IsPresentable
        (scene.recordCoded code severity message token expected context).suggestions ∧
      Suggestion.IsPresentable (scene.recordMisspelling token replacement context).suggestions ∧
      (scene.recordMisspelling token replacement context).suggestions.head? =
        some ("Did you mean '" ++ replacement ++ "'?") :=
  ⟨scene.recordLed_isPresentable none _ _ _ _ _ _, scene.recordLed_isPresentable none _ _ _ _ _ _,
    scene.recordLed_isPresentable _ _ _ _ _ _ _,
    head?_withLead (Suggestion.didYouMean_ne_generic replacement) _⟩

end Scene

end SunLint
