/-!
# Lists without repetition

Suggestions and hints come from several sources and are shown once each, in the
order in which they first come up.

* `nodup_addAll`: entries that are added never repeat.
-/

namespace SunLint.Distinct

variable {α : Type} [DecidableEq α]

/-- The list with the entry at its end, unless it is there already. -/
def add (l : List α) (a : α) : List α := if a ∈ l then l else l ++ [a]

/-- The list with the entries added one after the other. -/
def addAll (l entries : List α) : List α := entries.foldl add l

/-- The entries, each at its first place. -/
def ofList (entries : List α) : List α := addAll [] entries

theorem mem_add {l : List α} {a b : α} : b ∈ add l a ↔ b ∈ l ∨ b = a := by
  unfold add
  split
  · exact ⟨.inl, fun h => h.elim id fun h => h ▸ ‹_›⟩
  · simp

theorem mem_addAll {l entries : List α} {b : α} :
    b ∈ addAll l entries ↔ b ∈ l ∨ b ∈ entries := by
  induction entries generalizing l with
  | nil => simp [addAll]
  | cons a rest ih =>
    rw [addAll, List.foldl_cons, ← addAll, ih, mem_add, List.mem_cons, or_assoc]

theorem nodup_add {l : List α} (h : l.Nodup) (a : α) : (add l a).Nodup := by
  unfold add
  split
  · exact h
  · rename_i ha
    exact List.nodup_append.2 ⟨h, by simp, fun x hx y hy e => ha (by simp_all)⟩

theorem nodup_addAll {l : List α} (h : l.Nodup) (entries : List α) :
    (addAll l entries).Nodup := by
  induction entries generalizing l with
  | nil => exact h
  | cons a rest ih => exact ih (nodup_add h a)

end SunLint.Distinct
