import Mathlib.Data.List.Induction
import SunLint.Dictionary.Basic
import SunLint.Proofs.Dictionary.EditScript

/-!
# The nearest keyword

The candidates are gone through once, and the best so far is kept: the first of those that are
nearest to the word among the ones that have been seen, the word itself left out
(`Correction.IsNearest`).

* `Correction.IsNearest.improve`: so it is behind another candidate;
* `Correction.isNearest_closest?`: and behind all of them;
* `Correction.closest?_eq_iff`: nothing else is the first of the nearest ones, so the choice is
  made by the distances and the order of the candidates alone (`Correction.IsArgmin`,
  `Correction.closest?_isArgmin`);
* `Dictionary.correction?_nearest`: a correction that is not in the table of misspellings is the
  first of the nearest keywords, and no keyword is nearer but for the word itself in small
  letters. Such a keyword is passed over, since it is asked whether the word is a keyword before
  it is put in small letters (`Dictionary.keyword_passed_over`).
-/

namespace SunLint

/-- What a search finds is in the list and meets the condition, and nothing in front of its first
    occurrence does. -/
theorem find?_eq_some_iff_take {α : Type*} [DecidableEq α] {l : List α} {p : α → Bool} {a : α} :
    l.find? p = some a ↔ p a ∧ a ∈ l ∧ ∀ earlier ∈ l.take (l.idxOf a), ¬p earlier := by
  rw [List.find?_eq_some_iff_append]
  constructor
  · rintro ⟨ha, before, behind, rfl, hbefore⟩
    -- What meets the condition is not in front of the place where it is found.
    have hnot : a ∉ before := fun hmem => by simpa [ha] using hbefore a hmem
    have hidx : (before ++ a :: behind).idxOf a = before.length := by
      rw [List.idxOf_append, if_neg hnot, List.idxOf_cons_self, Nat.zero_add]
    rw [hidx, List.take_left]
    exact ⟨ha, List.mem_append_right _ List.mem_cons_self, by simpa using hbefore⟩
  · rintro ⟨ha, hmem, hbefore⟩
    have hlt := List.idxOf_lt_length_of_mem hmem
    refine ⟨ha, l.take (l.idxOf a), l.drop (l.idxOf a + 1), ?_, by simpa using hbefore⟩
    calc l = l.take (l.idxOf a) ++ l.drop (l.idxOf a) := (List.take_append_drop _ _).symm
      _ = l.take (l.idxOf a) ++ a :: l.drop (l.idxOf a + 1) := by
        rw [List.drop_eq_getElem_cons hlt, List.getElem_idxOf hlt]

namespace Correction

variable {word : String} {budget : Nat} {candidates : List String} {best : Option Correction}

/-- The correction is the first of the nearest candidates, within the budget and other than the
    word. If there is none then no candidate is within the budget but the word itself. -/
def IsNearest (word : String) (budget : Nat) (candidates : List String) :
    Option Correction → Prop
  | none => ∀ candidate ∈ candidates,
      editDistance word candidate = 0 ∨ budget < editDistance word candidate
  | some best => 1 ≤ best.distance ∧ best.distance ≤ budget ∧
      candidates.find? (editDistance word · = best.distance) = some best.word ∧
      ∀ candidate ∈ candidates,
        editDistance word candidate = 0 ∨ best.distance ≤ editDistance word candidate

/-- What is passed over is the word itself or too far away. -/
theorem IsNearest.pass (h : IsNearest word budget candidates best) {candidate : String}
    (hd : editDistance word candidate = 0 ∨ budget < editDistance word candidate) :
    IsNearest word budget (candidates ++ [candidate]) best := by
  cases best with
  | none =>
    intro c hc
    rcases List.mem_append.1 hc with hc | hc
    · exact h c hc
    · exact List.mem_singleton.1 hc ▸ hd
  | some c =>
    obtain ⟨hpos, hle, hfind, hleast⟩ := h
    refine ⟨hpos, hle, by rw [List.find?_append, hfind, Option.some_or], fun c' hc' => ?_⟩
    rcases List.mem_append.1 hc' with hc' | hc'
    · exact hleast c' hc'
    · rw [List.mem_singleton.1 hc']
      omega

/-- What is nearer than all before is the first of the nearest ones. -/
theorem IsNearest.replace {candidate : String} (hpos : editDistance word candidate ≠ 0)
    (hle : editDistance word candidate ≤ budget)
    (hlt : ∀ c ∈ candidates,
      editDistance word c = 0 ∨ editDistance word candidate < editDistance word c) :
    IsNearest word budget (candidates ++ [candidate])
      (some ⟨candidate, editDistance word candidate⟩) := by
  have hnone : candidates.find? (editDistance word · = editDistance word candidate) = none := by
    rw [List.find?_eq_none]
    intro c hc heq
    have := hlt c hc
    have := of_decide_eq_true heq
    omega
  refine ⟨Nat.one_le_iff_ne_zero.2 hpos, hle, ?_, fun c hc => ?_⟩
  · rw [List.find?_append, hnone, Option.none_or]
    exact List.find?_cons_of_pos (decide_eq_true rfl)
  · rcases List.mem_append.1 hc with hc | hc
    · exact (hlt c hc).imp_right Nat.le_of_lt
    · exact .inr (List.mem_singleton.1 hc ▸ Nat.le_refl _)

/-- The step to another candidate. -/
theorem IsNearest.improve (h : IsNearest word budget candidates best) (candidate : String) :
    IsNearest word budget (candidates ++ [candidate])
      (Correction.improve word budget best candidate) := by
  unfold Correction.improve
  dsimp only
  split
  · rename_i hd
    exact h.pass hd
  · rename_i hd
    obtain ⟨hpos, hle⟩ := not_or.1 hd
    split
    · rename_i c
      obtain ⟨hpos', hle', hfind, hleast⟩ := h
      split
      · -- An earlier one is as near.
        rename_i hc
        refine ⟨hpos', hle', by rw [List.find?_append, hfind, Option.some_or], fun c' hc' => ?_⟩
        rcases List.mem_append.1 hc' with hc' | hc'
        · exact hleast c' hc'
        · exact .inr (List.mem_singleton.1 hc' ▸ hc)
      · refine .replace hpos (Nat.le_of_not_lt hle) fun c' hc' => ?_
        have := hleast c' hc'
        omega
    · refine .replace hpos (Nat.le_of_not_lt hle) fun c' hc' => ?_
      have := h c' hc'
      omega

/-- The run over all candidates. -/
theorem isNearest_closest? (word : String) (candidates : List String) (budget : Nat) :
    IsNearest word budget candidates (closest? word candidates budget) := by
  induction candidates using List.reverseRecOn with
  | nil => exact fun _ h => absurd h List.not_mem_nil
  | append_singleton candidates candidate ih =>
    rw [closest?, List.foldl_append, List.foldl_cons, List.foldl_nil]
    exact ih.improve candidate

/-! ## The choice -/

/-- The correction is a candidate within the budget and other than the word. No such candidate is
    nearer, and those in front of its first occurrence are further away or the word itself. -/
structure IsArgmin (word : String) (budget : Nat) (candidates : List String) (c : Correction) :
    Prop where
  mem : c.word ∈ candidates
  distance_eq : c.distance = editDistance word c.word
  one_le : 1 ≤ c.distance
  le_budget : c.distance ≤ budget
  least : ∀ candidate ∈ candidates, 1 ≤ editDistance word candidate →
    editDistance word candidate ≤ budget → c.distance ≤ editDistance word candidate
  first : ∀ earlier ∈ candidates.take (candidates.idxOf c.word),
    1 ≤ editDistance word earlier → c.distance < editDistance word earlier

variable {c c' : Correction} {best' : Option Correction}

theorem isNearest_some_iff :
    IsNearest word budget candidates (some c) ↔ IsArgmin word budget candidates c := by
  simp only [IsNearest, find?_eq_some_iff_take, decide_eq_true_eq]
  constructor
  · rintro ⟨hpos, hle, ⟨hdist, hmem, hbefore⟩, hleast⟩
    refine ⟨hmem, hdist.symm, hpos, hle, fun candidate hc hpos' _ => ?_, fun earlier he hpos' => ?_⟩
    · exact (hleast candidate hc).resolve_left (Nat.ne_of_gt hpos')
    · have := hleast earlier (List.mem_of_mem_take he)
      have := hbefore earlier he
      omega
  · intro h
    refine ⟨h.one_le, h.le_budget, ⟨h.distance_eq.symm, h.mem, fun earlier he heq => ?_⟩,
      fun candidate hc => ?_⟩
    · exact Nat.ne_of_gt (h.first earlier he (heq ▸ h.one_le)) heq
    · -- What is out of reach is further away than what is within the budget.
      have := h.least candidate hc
      have := h.le_budget
      omega

theorem isNearest_none_iff : IsNearest word budget candidates none ↔
    ¬∃ candidate ∈ candidates,
      1 ≤ editDistance word candidate ∧ editDistance word candidate ≤ budget := by
  constructor
  · rintro h ⟨candidate, hc, hpos, hle⟩
    have := h candidate hc
    omega
  · intro h candidate hc
    by_contra hreach
    exact h ⟨candidate, hc, by omega, by omega⟩

theorem IsArgmin.within_budget (h : IsArgmin word budget candidates c) :
    1 ≤ editDistance word c.word ∧ editDistance word c.word ≤ budget :=
  h.distance_eq ▸ ⟨h.one_le, h.le_budget⟩

theorem IsArgmin.distance_le (h : IsArgmin word budget candidates c)
    (h' : IsArgmin word budget candidates c') : c.distance ≤ c'.distance := by
  obtain ⟨hpos, hle⟩ := h'.within_budget
  rw [h'.distance_eq]
  exact h.least c'.word h'.mem hpos hle

theorem IsArgmin.unique (h : IsArgmin word budget candidates c)
    (h' : IsArgmin word budget candidates c') : c = c' := by
  have hdist : c.distance = c'.distance := Nat.le_antisymm (h.distance_le h') (h'.distance_le h)
  obtain ⟨-, -, hfind, -⟩ := isNearest_some_iff.2 h
  obtain ⟨-, -, hfind', -⟩ := isNearest_some_iff.2 h'
  -- The search is for a distance, so it is the same one for both.
  have hword : c.word = c'.word := by
    rw [hdist, hfind'] at hfind
    exact (Option.some.inj hfind).symm
  calc c = ⟨c.word, c.distance⟩ := rfl
    _ = ⟨c'.word, c'.distance⟩ := by rw [hword, hdist]
    _ = c' := rfl

theorem IsArgmin.not_isNearest_none (h : IsArgmin word budget candidates c) :
    ¬IsNearest word budget candidates none := fun hnone =>
  isNearest_none_iff.1 hnone ⟨c.word, h.mem, h.within_budget⟩

/-- The candidates determine what is nearest. -/
theorem IsNearest.unique (h : IsNearest word budget candidates best)
    (h' : IsNearest word budget candidates best') : best = best' := by
  cases best with
  | none =>
    cases best' with
    | none => rfl
    | some c' => exact absurd h (isNearest_some_iff.1 h').not_isNearest_none
  | some c =>
    have hc := isNearest_some_iff.1 h
    cases best' with
    | none => exact absurd h' hc.not_isNearest_none
    | some c' => rw [hc.unique (isNearest_some_iff.1 h')]

theorem closest?_eq_iff :
    closest? word candidates budget = best ↔ IsNearest word budget candidates best :=
  ⟨fun h => h ▸ isNearest_closest? word candidates budget,
    (isNearest_closest? word candidates budget).unique⟩

/-- The first of the nearest candidates is chosen, and nothing only if no candidate other than the
    word is within the budget. -/
theorem closest?_isArgmin (word : String) (candidates : List String) (budget : Nat) :
    (∀ c : Correction, closest? word candidates budget = some c ↔
      IsArgmin word budget candidates c) ∧
    (closest? word candidates budget = none ↔
      ¬∃ candidate ∈ candidates,
        1 ≤ editDistance word candidate ∧ editDistance word candidate ≤ budget) :=
  ⟨fun _ => closest?_eq_iff.trans isNearest_some_iff, closest?_eq_iff.trans isNearest_none_iff⟩

/-- The word itself is passed over, and of two at the same distance the earlier one is kept. -/
example : closest? "when" ["when", "wren", "then", "wren"] 2 = some ⟨"wren", 1⟩ := by
  decide +kernel

end Correction

namespace Dictionary

/-- A correction that the table of misspellings does not have is the first of the nearest
    keywords within the budget, where the word is compared in small letters. No keyword is nearer,
    except for the word itself in small letters. -/
theorem correction?_nearest (d : Dictionary) (word : String) (limit : Nat)
    (correction : Correction) (htable : d.misspellings.find? (Text.lower word) = none)
    (h : d.correction? word limit = some correction) :
    correction.word ∈ d.keywords ∧
    correction.distance = editDistance (Text.lower word) correction.word ∧
    1 ≤ correction.distance ∧ correction.distance ≤ min limit ((word.length - 1) / 2) ∧
    d.keywords.find? (editDistance (Text.lower word) · = correction.distance) =
      some correction.word ∧
    (∀ k ∈ d.keywords, k ≠ Text.lower word →
      correction.distance ≤ editDistance (Text.lower word) k) ∧
    ((∀ k ∈ d.keywords, correction.distance ≤ editDistance (Text.lower word) k) ↔
      Text.lower word ∉ d.keywords) := by
  rw [correction?] at h
  simp only [htable] at h
  split at h
  · cases h
  have hnearest :=
    Correction.isNearest_closest? (Text.lower word) d.keywords (editBudget word limit)
  rw [h] at hnearest
  obtain ⟨hpos, hle, hfind, hleast⟩ := hnearest
  have hother (k : String) (hk : k ∈ d.keywords) (hne : k ≠ Text.lower word) :
      correction.distance ≤ editDistance (Text.lower word) k :=
    (hleast k hk).resolve_left fun hzero => hne (editDistance_eq_zero_iff.1 hzero).symm
  refine ⟨List.mem_of_find?_eq_some hfind, ?_, hpos, hle, hfind, hother, fun hall hmem => ?_,
    fun hmem k hk => hother k hk fun heq => hmem (heq ▸ hk)⟩
  · exact (of_decide_eq_true (List.find?_some hfind :)).symm
  · have := hall _ hmem
    rw [editDistance_eq_zero_iff.2 rfl] at this
    omega

/-- Of two keywords at the same distance the first one is proposed. -/
theorem correction?_nearest_of_tie : ∃ (d : Dictionary) (word : String) (correction : Correction),
    d.keywords = ["then", "when", "whet"] ∧ word = "WHEX" ∧
    d.misspellings.find? (Text.lower word) = none ∧ d.correction? word 2 = some correction ∧
    correction.word = "when" ∧
    (∀ k ∈ d.keywords, correction.distance ≤ editDistance (Text.lower word) k) := by
  let d : Dictionary := { keywords := ["then", "when", "whet"] }
  have htable : d.misspellings.find? (Text.lower "WHEX") = none := by decide +kernel
  have h : d.correction? "WHEX" 2 = some ⟨"when", 1⟩ := by decide +kernel
  have hmem : Text.lower "WHEX" ∉ d.keywords := by decide +kernel
  obtain ⟨-, -, -, -, -, -, hiff⟩ := correction?_nearest d "WHEX" 2 ⟨"when", 1⟩ htable h
  exact ⟨d, "WHEX", ⟨"when", 1⟩, rfl, rfl, htable, h, rfl, hiff.2 hmem⟩

/-- A keyword that begins with a capital letter is taken for another keyword, although there is
    one that has the same letters. -/
theorem keyword_passed_over : ∃ (d : Dictionary) (word : String) (correction : Correction),
    d.misspellings.find? (Text.lower word) = none ∧ d.correction? word 2 = some correction ∧
    ∃ k ∈ d.keywords, editDistance (Text.lower word) k < correction.distance :=
  ⟨{ keywords := ["when", "then"] }, "When", ⟨"then", 1⟩, by decide +kernel, by decide +kernel,
    "when", by decide, by decide +kernel⟩

end Dictionary

end SunLint
