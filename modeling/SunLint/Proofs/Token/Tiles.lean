import Mathlib.Data.List.Pairwise
import SunLint.Proofs.Token.Place
import SunLint.Proofs.Token.Shape
import SunLint.Token.Stream

/-!
# A text is tiled by its chunks

The chunks of a text are looked at together with the index that they start at. They
cover the text without gaps and without overlaps, each of them is what its shape says,
and its position is that of its first character (`tiles_tilesFrom`). So no two of them
share a character (`Tiles.disjoint`), and every character is in one (`Tiles.covers`).
-/

namespace SunLint

variable {u : List Char} {i j : Nat}

/-! ## Tilings -/

/-- A chunk with the index of its first character. -/
structure Tile extends Placed where
  start : Nat

namespace Tile

/-- The index behind the last character. -/
def stop (t : Tile) : Nat := t.start + t.text.length

/-- The chunk is cut out of the text where it starts, and is what its shape says. -/
structure IsIn (u : List Char) (t : Tile) : Prop where
  ne_nil : t.text ≠ []
  position : t.position = .ofIndex u t.start
  fits : ∃ rest, u.drop t.start = t.text ++ rest ∧ t.Fits rest

theorem IsIn.start_lt_stop {t : Tile} (h : t.IsIn u) : t.start < t.stop :=
  Nat.lt_add_of_pos_right (List.length_pos_iff.2 h.ne_nil)

theorem IsIn.stop_le {t : Tile} (h : t.IsIn u) : t.stop ≤ u.length := by
  obtain ⟨rest, hrest, _⟩ := h.fits
  have hlength := congrArg List.length hrest
  have := List.length_pos_iff.2 h.ne_nil
  rw [List.length_drop, List.length_append] at hlength
  rw [stop]
  omega

end Tile

/-- The chunks with the index that each of them starts at, the first one at `i`. -/
def tilesFrom (i : Nat) : List Placed → List Tile
  | [] => []
  | ch :: rest => ⟨ch, i⟩ :: tilesFrom (i + ch.text.length) rest

/-- The tiles are in the text one behind the other, from the index `i` up to its end. -/
def Tiles (u : List Char) : (i : Nat) → List Tile → Prop
  | i, [] => i = u.length
  | i, t :: rest => t.start = i ∧ t.IsIn u ∧ Tiles u t.stop rest

/-- The chunks of the rest of a text tile it. -/
theorem tiles_tilesFrom (hi : i ≤ u.length) :
    Tiles u i (tilesFrom i (placeFrom (.ofIndex u i) (chunks (u.drop i)))) := by
  induction hn : u.length - i using Nat.strongRecOn generalizing i with
  | _ n ih =>
    cases hu : u.drop i with
    | nil => exact Nat.le_antisymm hi (List.drop_eq_nil_iff.1 hu)
    | cons c rest =>
      rw [chunks_cons, placeFrom, tilesFrom]
      have hfits := Chunk.fits_measure c rest
      -- The first chunk, and what is left of the text behind it.
      generalize (Chunk.measure c rest).1 = shape at hfits ⊢
      generalize (Chunk.measure c rest).2 = more at hfits ⊢
      have hcut : u.drop i = (c :: rest.take more) ++ rest.drop more := by
        rw [hu, List.cons_append, List.take_append_drop]
      have hne := List.cons_ne_nil c (rest.take more)
      generalize c :: rest.take more = text at hfits hcut hne ⊢
      have htile : Tile.IsIn u ⟨⟨⟨shape, text⟩, .ofIndex u i⟩, i⟩ :=
        ⟨hne, rfl, rest.drop more, hcut, hfits⟩
      have hlt : i < i + text.length := htile.start_lt_stop
      have hle : i + text.length ≤ u.length := htile.stop_le
      refine ⟨rfl, htile, ?_⟩
      have hnext := ih (u.length - (i + text.length)) (by omega) hle rfl
      rw [Position.ofIndex_add, ← List.drop_drop, hcut, List.drop_left, List.take_left] at hnext
      exact hnext

namespace Tiles

variable {l : List Tile} {t t' : Tile}

theorem isIn (h : Tiles u i l) : ∀ t ∈ l, i ≤ t.start ∧ t.IsIn u := by
  induction l generalizing i with
  | nil => exact fun t ht => absurd ht List.not_mem_nil
  | cons t₀ l ih =>
    obtain ⟨rfl, hin, hrest⟩ := h
    intro t ht
    rcases List.mem_cons.1 ht with rfl | ht
    · exact ⟨Nat.le_refl _, hin⟩
    · obtain ⟨hle, ht⟩ := ih hrest t ht
      exact ⟨Nat.le_trans hin.start_lt_stop.le hle, ht⟩

/-- The tiles are in the order of the text. -/
theorem pairwise (h : Tiles u i l) : l.Pairwise fun t t' => t.stop ≤ t'.start := by
  induction l generalizing i with
  | nil => exact List.Pairwise.nil
  | cons t₀ l ih =>
    obtain ⟨rfl, _, hrest⟩ := h
    exact List.pairwise_cons.2 ⟨fun t ht => (hrest.isIn t ht).1, ih hrest⟩

/-- What starts behind a tile has a greater position. -/
theorem ofIndex_lt (h : Tiles u i l) (ht : t ∈ l) (ht' : t' ∈ l) (hle : t.stop ≤ t'.start) :
    Position.ofIndex u t.start < Position.ofIndex u t'.start := by
  have hin := (h.isIn t ht).2
  have hin' := (h.isIn t' ht').2
  refine Position.ofIndex_lt (Nat.lt_of_lt_of_le hin.start_lt_stop hle) ?_
  exact Nat.le_trans hin'.start_lt_stop.le hin'.stop_le

/-- Different tiles do not overlap. -/
theorem disjoint (h : Tiles u i l) (ht : t ∈ l) (ht' : t' ∈ l) (hne : t ≠ t') :
    t.stop ≤ t'.start ∨ t'.stop ≤ t.start := by
  have : Std.Symm fun t t' : Tile => t.stop ≤ t'.start ∨ t'.stop ≤ t.start :=
    ⟨fun _ _ h => h.symm⟩
  exact (h.pairwise.imp (S := fun t t' => t.stop ≤ t'.start ∨ t'.stop ≤ t.start) Or.inl).forall
    ht ht' hne

/-- Every index is within a tile. -/
theorem covers (h : Tiles u i l) (hi : i ≤ j) (hj : j < u.length) :
    ∃ t ∈ l, t.start ≤ j ∧ j < t.stop := by
  induction l generalizing i with
  | nil =>
    obtain rfl : i = u.length := h
    omega
  | cons t₀ l ih =>
    obtain ⟨rfl, _, hrest⟩ := h
    rcases Nat.lt_or_ge j t₀.stop with hlt | hge
    · exact ⟨t₀, List.mem_cons_self, hi, hlt⟩
    · obtain ⟨t, ht, hin⟩ := ih hrest hge
      exact ⟨t, List.mem_cons_of_mem _ ht, hin⟩

end Tiles

theorem map_toPlaced_tilesFrom (i : Nat) (l : List Placed) :
    (tilesFrom i l).map Tile.toPlaced = l := by
  induction l generalizing i with
  | nil => rfl
  | cons ch l ih => rw [tilesFrom, List.map_cons, ih]

/-- The tokens of a text and the errors in it are those of its tiles. -/
theorem tokenize_tiles (source : String) : ∃ l, Tiles (Text.body source) 0 l ∧
    (tokenize source).tokens = l.filterMap (·.token?) ++
      [.eof (.ofIndex (Text.body source) (Text.body source).length)] ∧
    (tokenize source).errors = l.filterMap (·.error?) := by
  have htiles : Tiles (Text.body source) 0 (tilesFrom 0 (placedChunks source)) :=
    tiles_tilesFrom (Nat.zero_le _)
  have hplaced := map_toPlaced_tilesFrom 0 (placedChunks source)
  generalize tilesFrom 0 (placedChunks source) = l at htiles hplaced
  refine ⟨l, htiles, ?_, ?_⟩
  · rw [tokenize, ← hplaced, List.filterMap_map, Position.start_after]
    rfl
  · rw [tokenize, ← hplaced, List.filterMap_map, List.filterMap_map]
    rfl

end SunLint
