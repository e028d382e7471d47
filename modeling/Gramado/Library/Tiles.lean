import Mathlib.Data.List.Range
import Mathlib.Order.Interval.Set.Disjoint
import Mathlib.Order.CompletePartialOrder

/-! Rectangles side by side in an area. -/

namespace Gramado.Library.Tiles

structure Rect where
  left : ℕ
  top : ℕ
  width : ℕ
  height : ℕ
  deriving DecidableEq

variable {r s area : Rect}

def Rect.points (r : Rect) : Set (ℕ × ℕ) :=
  Set.Ico r.left (r.left + r.width) ×ˢ Set.Ico r.top (r.top + r.height)

def Rect.Solid (r : Rect) : Prop := 0 < r.width ∧ 0 < r.height

theorem disjoint_points_iff (hr : r.Solid) (hs : s.Solid) : Disjoint r.points s.points ↔
      (r.left + r.width ≤ s.left ∨ s.left + s.width ≤ r.left) ∨
        r.top + r.height ≤ s.top ∨ s.top + s.height ≤ r.top := by
  obtain ⟨hrw, hrh⟩ := hr
  obtain ⟨hsw, hsh⟩ := hs
  rw [Rect.points, Rect.points, Set.disjoint_prod, Set.Ico_disjoint_Ico, Set.Ico_disjoint_Ico]
  omega

theorem points_subset_iff (hr : r.Solid) : r.points ⊆ area.points ↔
      (area.left ≤ r.left ∧ r.left + r.width ≤ area.left + area.width) ∧
        area.top ≤ r.top ∧ r.top + r.height ≤ area.top + area.height := by
  obtain ⟨hrw, hrh⟩ := hr
  rw [Rect.points, Rect.points, Set.prod_subset_prod_iff' ?_, Set.Ico_subset_Ico_iff (by omega),
    Set.Ico_subset_Ico_iff (by omega)]
  exact ⟨(r.left, r.top), ⟨⟨le_refl _, by omega⟩, le_refl _, by omega⟩⟩

/-- The rectangles have no point in common, and they stay inside the area. -/
structure Tile (area : Rect) (l : List Rect) : Prop where
  apart : l.Pairwise fun r s => Disjoint r.points s.points
  inside : ∀ r ∈ l, r.points ⊆ area.points

theorem tile_singleton (area r : Rect) : Tile area [r] ↔ r.points ⊆ area.points := by
  constructor
  · exact fun h => h.inside r (by simp)
  · exact fun h => ⟨by simp, by simpa using h⟩

theorem tile_row_iff (area : Rect) (cell : ℕ → Rect) (m : ℕ) (last : Rect) :
    Tile area ((List.range m).map cell ++ [last]) ↔
      ((∀ i j, i < j → j < m → Disjoint (cell i).points (cell j).points) ∧
        ∀ i < m, Disjoint (cell i).points last.points) ∧
      (∀ i < m, (cell i).points ⊆ area.points) ∧ last.points ⊆ area.points := by
  constructor
  · rintro ⟨hapart, hinside⟩
    rw [List.pairwise_append, List.pairwise_map] at hapart
    refine ⟨⟨?_, ?_⟩, ?_, ?_⟩
    · intro i j hij hj
      have hrange := List.pairwise_iff_getElem.mp hapart.1 i j (by simp; omega) (by simpa) hij
      simpa using hrange
    · exact fun i hi => hapart.2.2 _ (List.mem_map_of_mem (List.mem_range.mpr hi)) _ (by simp)
    · exact fun i hi => hinside _ (List.mem_append_left _
        (List.mem_map_of_mem (List.mem_range.mpr hi)))
    · exact hinside _ (by simp)
  · rintro ⟨⟨hcells, hlast⟩, hinside, harea⟩
    constructor
    · rw [List.pairwise_append, List.pairwise_map]
      refine ⟨?_, by simp, ?_⟩
      · rw [List.pairwise_iff_getElem]
        intro i j hi hj hij
        rw [List.length_range] at hj
        simpa using hcells i j hij hj
      · simpa using hlast
    · intro r hr
      rcases List.mem_append.mp hr with hr | hr
      · obtain ⟨i, hi, rfl⟩ := List.mem_map.mp hr
        exact hinside i (List.mem_range.mp hi)
      · rw [List.mem_singleton.mp hr]
        exact harea

theorem step_le {i j extent d : ℕ} (hij : i < j) (hextent : extent ≤ d) :
    d * i + extent ≤ d * j := by
  have h := Nat.mul_le_mul_left d (Nat.succ_le_of_lt hij)
  rw [Nat.succ_eq_add_one, Nat.mul_add] at h
  omega

end Gramado.Library.Tiles
