/-!
# Sorted maps

Tables from texts to values whose entries stand in ascending order of their
keys, compared by code points. The order is what exports and summaries show, and
since no two entries share a key, a map is determined by what it gives for each
key.

* `find?_insert` and `find?_erase`: what the operations do to the look-up;
* `ext`: two maps with the same look-up are the same.
-/

namespace SunLint

/-- A finite map from texts, in the order of its keys. -/
structure SortedMap (α : Type) where
  entries : List (String × α)
  sorted : entries.Pairwise (fun a b => a.1 < b.1)

namespace SortedMap

variable {α : Type}

/-- The map without entries. -/
def empty : SortedMap α := ⟨[], .nil⟩

instance : EmptyCollection (SortedMap α) := ⟨empty⟩

instance : Inhabited (SortedMap α) := ⟨empty⟩

instance [Repr α] : Repr (SortedMap α) := ⟨fun m n => reprPrec m.entries n⟩

instance [DecidableEq α] : DecidableEq (SortedMap α) := fun m n =>
  if h : m.entries = n.entries then .isTrue (by cases m; cases n; simp_all)
  else .isFalse fun e => h (congrArg entries e)

/-- The entries with the value for `key` put in its place. -/
def insertEntry (key : String) (value : α) : List (String × α) → List (String × α)
  | [] => [(key, value)]
  | (k, v) :: rest =>
    if key < k then (key, value) :: (k, v) :: rest
    else if key = k then (key, value) :: rest
    else (k, v) :: insertEntry key value rest

theorem mem_insertEntry {key : String} {value : α} {l : List (String × α)} {e : String × α}
    (h : e ∈ insertEntry key value l) : e = (key, value) ∨ e ∈ l := by
  induction l with
  | nil => simpa [insertEntry] using h
  | cons a rest ih =>
    rw [insertEntry] at h
    split at h
    · simpa using h
    · split at h
      · rcases List.mem_cons.1 h with h | h
        · exact .inl h
        · exact .inr (List.mem_cons_of_mem _ h)
      · rcases List.mem_cons.1 h with h | h
        · exact .inr (h ▸ List.mem_cons_self)
        · exact (ih h).imp_right (List.mem_cons_of_mem _)

theorem sorted_insertEntry {key : String} {value : α} {l : List (String × α)}
    (h : l.Pairwise (fun a b => a.1 < b.1)) :
    (insertEntry key value l).Pairwise (fun a b => a.1 < b.1) := by
  induction l with
  | nil => simp [insertEntry]
  | cons a rest ih =>
    obtain ⟨ha, hrest⟩ := List.pairwise_cons.1 h
    rw [insertEntry]
    split
    · rename_i hlt
      refine List.pairwise_cons.2 ⟨fun e he => ?_, h⟩
      rcases List.mem_cons.1 he with rfl | he
      · exact hlt
      · exact String.lt_trans hlt (ha e he)
    · split
      · rename_i heq
        exact List.pairwise_cons.2 ⟨fun e he => heq ▸ ha e he, hrest⟩
      · rename_i hlt hne
        refine List.pairwise_cons.2 ⟨fun e he => ?_, ih hrest⟩
        rcases mem_insertEntry he with rfl | he
        · rcases Decidable.em (a.1 < key) with hak | hak
          · exact hak
          · exact absurd (String.le_antisymm (String.not_lt.1 hak) (String.not_lt.1 hlt)) hne
        · exact ha e he

/-- The map with the value for `key` put in, replacing the former one. -/
def insert (m : SortedMap α) (key : String) (value : α) : SortedMap α :=
  ⟨insertEntry key value m.entries, sorted_insertEntry m.sorted⟩

/-- The map without an entry for `key`. -/
def erase (m : SortedMap α) (key : String) : SortedMap α :=
  ⟨m.entries.filter (fun e => e.1 ≠ key), m.sorted.filter _⟩

/-- The value for `key`. -/
def find? (m : SortedMap α) (key : String) : Option α :=
  (m.entries.find? (fun e => e.1 = key)).map (·.2)

/-- Whether there is a value for `key`. -/
def contains (m : SortedMap α) (key : String) : Bool := (m.find? key).isSome

/-- The keys in ascending order. -/
def keys (m : SortedMap α) : List String := m.entries.map (·.1)

/-- The values in the order of their keys. -/
def values (m : SortedMap α) : List α := m.entries.map (·.2)

/-- The number of entries. -/
def size (m : SortedMap α) : Nat := m.entries.length

/-- The map of the given entries; of two with the same key the later one
    counts. -/
def ofList (l : List (String × α)) : SortedMap α :=
  l.foldl (fun m e => m.insert e.1 e.2) empty

/-- An entry is found under its key exactly if it is in the map. -/
theorem find?_eq_some_iff {m : SortedMap α} {k : String} {v : α} :
    m.find? k = some v ↔ (k, v) ∈ m.entries := by
  obtain ⟨l, hl⟩ := m
  unfold find?
  simp only
  induction l with
  | nil => simp
  | cons a rest ih =>
    obtain ⟨ha, hrest⟩ := List.pairwise_cons.1 hl
    rw [List.find?_cons]
    by_cases h : a.1 = k
    · subst h
      simp only [decide_true, Option.map_some, Option.some.injEq, List.mem_cons]
      constructor
      · rintro rfl
        exact .inl rfl
      · rintro (h | h)
        · exact (congrArg (·.2) h).symm
        · exact absurd (ha _ h) (String.lt_irrefl _)
    · simp only [h, decide_false, List.mem_cons]
      rw [ih hrest]
      constructor
      · exact .inr
      · rintro (rfl | h')
        · exact absurd rfl h
        · exact h'

/-- Two maps that give the same for each key are the same. -/
theorem ext {m n : SortedMap α} (h : ∀ k, m.find? k = n.find? k) : m = n := by
  have hmem : ∀ e, e ∈ m.entries ↔ e ∈ n.entries := fun e => by
    rw [← find?_eq_some_iff (v := e.2), h, find?_eq_some_iff]
  obtain ⟨l, hl⟩ := m
  obtain ⟨r, hr⟩ := n
  simp only at hmem
  congr 1
  clear h
  induction l generalizing r with
  | nil =>
    cases r with
    | nil => rfl
    | cons b r => exact absurd ((hmem b).2 List.mem_cons_self) List.not_mem_nil
  | cons a l ih =>
    cases r with
    | nil => exact absurd ((hmem a).1 List.mem_cons_self) List.not_mem_nil
    | cons b r =>
      obtain ⟨ha, hl'⟩ := List.pairwise_cons.1 hl
      obtain ⟨hb, hr'⟩ := List.pairwise_cons.1 hr
      have hab : a = b := by
        rcases List.mem_cons.1 ((hmem a).1 List.mem_cons_self) with h | h
        · exact h
        · rcases List.mem_cons.1 ((hmem b).2 List.mem_cons_self) with h' | h'
          · exact h'.symm
          · exact absurd (hb a h) (String.lt_asymm (ha b h'))
      subst hab
      congr 1
      refine ih hl' r hr' fun e => ⟨fun he => ?_, fun he => ?_⟩
      · rcases List.mem_cons.1 ((hmem e).1 (List.mem_cons_of_mem _ he)) with rfl | h
        · exact absurd (ha _ he) (String.lt_irrefl _)
        · exact h
      · rcases List.mem_cons.1 ((hmem e).2 (List.mem_cons_of_mem _ he)) with rfl | h
        · exact absurd (hb _ he) (String.lt_irrefl _)
        · exact h

theorem find?_insertEntry (key : String) (value : α) (l : List (String × α)) (k : String) :
    ((insertEntry key value l).find? (fun e => e.1 = k)).map (·.2) =
      if k = key then some value else (l.find? (fun e => e.1 = k)).map (·.2) := by
  induction l with
  | nil => by_cases h : key = k <;> simp [insertEntry, h, eq_comm]
  | cons a rest ih =>
    rw [insertEntry]
    by_cases hk : k = key
    · subst hk
      rw [if_pos rfl] at ih ⊢
      split
      · simp
      · split
        · simp
        · rename_i _ hne
          rw [List.find?_cons_of_neg (by simpa using Ne.symm hne), ih]
    · rw [if_neg hk] at ih ⊢
      have hne : ¬ key = k := Ne.symm hk
      split
      · rw [List.find?_cons_of_neg (by simpa using hne)]
      · split
        · rename_i _ heq
          rw [List.find?_cons_of_neg (by simpa using hne),
            List.find?_cons_of_neg (by simpa [← heq] using hne)]
        · by_cases h : a.1 = k
          · rw [List.find?_cons_of_pos (by simpa using h),
              List.find?_cons_of_pos (by simpa using h)]
          · rw [List.find?_cons_of_neg (by simpa using h),
              List.find?_cons_of_neg (by simpa using h), ih]

/-- After an insertion the key has the new value, and the others have theirs. -/
@[simp]
theorem find?_insert (m : SortedMap α) (key : String) (value : α) (k : String) :
    (m.insert key value).find? k = if k = key then some value else m.find? k :=
  find?_insertEntry key value m.entries k

/-- After an erasure the key has no value, and the others have theirs. -/
@[simp]
theorem find?_erase (m : SortedMap α) (key k : String) :
    (m.erase key).find? k = if k = key then none else m.find? k := by
  obtain ⟨l, hl⟩ := m
  unfold erase find?
  simp only
  clear hl
  induction l with
  | nil => simp
  | cons a rest ih =>
    by_cases ha : a.1 = key
    · rw [List.filter_cons_of_neg (by simp [ha]), ih]
      by_cases hk : k = key
      · rw [if_pos hk, if_pos hk]
      · rw [if_neg hk, if_neg hk,
          List.find?_cons_of_neg (by simpa [ha] using Ne.symm hk)]
    · rw [List.filter_cons_of_pos (by simp [ha])]
      by_cases h : a.1 = k
      · have hk : k ≠ key := fun e => ha (h.trans e)
        rw [if_neg hk, List.find?_cons_of_pos (by simpa using h),
          List.find?_cons_of_pos (by simpa using h)]
      · rw [List.find?_cons_of_neg (by simpa using h), ih,
          List.find?_cons_of_neg (by simpa using h)]

end SortedMap

end SunLint
