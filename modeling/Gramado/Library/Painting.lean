import Mathlib.Data.Set.Lattice
import Mathlib.Order.CompletePartialOrder

/-! Procedures that set places of a canvas to one colour. -/

namespace Gramado.Library.Painting

variable {ι α : Type} {f g : (ι → α) → Option (ι → α)} {S T : Set ι} {a : α}

/-- The procedure gives the places of the set the colour and no other place another one. -/
def Paints (f : (ι → α) → Option (ι → α)) (S : Set ι) (a : α) : Prop :=
  ∀ canvas, ∃ canvas', f canvas = some canvas' ∧
    ∀ i, (i ∈ S → canvas' i = a) ∧ (i ∉ S → canvas' i = canvas i)

def Confined (f : (ι → α) → Option (ι → α)) (S : Set ι) : Prop :=
  ∀ canvas, ∃ canvas', f canvas = some canvas' ∧ ∀ i, i ∉ S → canvas' i = canvas i

theorem paints_empty (a : α) : Paints (fun canvas : ι → α => some canvas) ∅ a :=
  fun canvas => ⟨canvas, rfl, fun _ => ⟨fun h => h.elim, fun _ => rfl⟩⟩

theorem paints_update [DecidableEq ι] (i : ι) (a : α) :
    Paints (fun canvas => some (Function.update canvas i a)) {i} a := by
  intro canvas
  refine ⟨_, rfl, fun j => ⟨?_, ?_⟩⟩
  · rintro rfl
    exact Function.update_self ..
  · intro hj
    exact Function.update_of_ne hj ..

theorem Paints.congr (h : Paints f S a) (hset : S = T) : Paints f T a := hset ▸ h

theorem Paints.bind (hf : Paints f S a) (hg : Paints g T a) :
    Paints (fun canvas => (f canvas).bind g) (S ∪ T) a := by
  intro canvas
  obtain ⟨canvas', hfirst, hS⟩ := hf canvas
  obtain ⟨canvas'', hsecond, hT⟩ := hg canvas'
  refine ⟨canvas'', ?_, fun i => ⟨?_, ?_⟩⟩
  · change (f canvas).bind g = _
    rw [hfirst]
    exact hsecond
  · rintro (hi | hi)
    · by_cases hiT : i ∈ T
      · exact (hT i).1 hiT
      · rw [(hT i).2 hiT, (hS i).1 hi]
    · exact (hT i).1 hi
  · intro hi
    rw [Set.mem_union, not_or] at hi
    rw [(hT i).2 hi.2, (hS i).2 hi.1]

def paintEach {κ : Type} (paint : κ → (ι → α) → Option (ι → α)) :
    List κ → (ι → α) → Option (ι → α)
  | [], canvas => some canvas
  | k :: rest, canvas => (paint k canvas).bind (paintEach paint rest)

theorem paints_each {κ : Type} {paint : κ → (ι → α) → Option (ι → α)} {place : κ → Set ι}
    (h : ∀ k, Paints (paint k) (place k) a) (items : List κ) :
    Paints (paintEach paint items) (⋃ k ∈ items, place k) a := by
  induction items with
  | nil => exact (paints_empty a).congr (by simp)
  | cons k rest ih => exact ((h k).bind ih).congr (by simp)

section Decided

variable [Nontrivial α]

theorem Paints.iff_eq (h : Paints f S a) : Paints f T a ↔ S = T := by
  refine ⟨fun h' => ?_, h.congr⟩
  obtain ⟨b, hb⟩ := exists_ne a
  obtain ⟨canvas', hf, hS⟩ := h fun _ => b
  obtain ⟨canvas'', hf', hT⟩ := h' fun _ => b
  obtain rfl := Option.some.inj (hf.symm.trans hf')
  have key : ∀ {U : Set ι}, (∀ i, (i ∈ U → canvas' i = a) ∧ (i ∉ U → canvas' i = b)) →
      ∀ i, i ∈ U ↔ canvas' i = a := by
    intro U hU i
    refine ⟨(hU i).1, fun hi => ?_⟩
    by_contra hout
    exact hb (((hU i).2 hout).symm.trans hi)
  ext i
  exact (key hS i).trans (key hT i).symm

theorem Paints.confined_iff (h : Paints f S a) : Confined f T ↔ S ⊆ T := by
  constructor
  · intro hconf i hi
    obtain ⟨b, hb⟩ := exists_ne a
    obtain ⟨canvas', hf, hS⟩ := h fun _ => b
    obtain ⟨canvas'', hf', hT⟩ := hconf fun _ => b
    obtain rfl := Option.some.inj (hf.symm.trans hf')
    by_contra hout
    exact hb ((hT i hout).symm.trans ((hS i).1 hi))
  · intro hsub canvas
    obtain ⟨canvas', hf, hS⟩ := h canvas
    exact ⟨canvas', hf, fun i hi => (hS i).2 fun hmem => hi (hsub hmem)⟩

end Decided

section Rewriting

variable {f : (ι → α) → Option (ℕ × (ι → α))} {k : ℕ → (ι → α) → Option (ℕ × (ι → α))}
  {m n : ℕ} {r : α → α}

/-- The procedure applies a function to each place of the set, once, and changes no other place.
It also counts. -/
def Rewrites (f : (ι → α) → Option (ℕ × (ι → α))) (S : Set ι) (n : ℕ) (r : α → α) : Prop :=
  ∀ canvas, ∃ canvas', f canvas = some (n, canvas') ∧
    ∀ i, (i ∈ S → canvas' i = r (canvas i)) ∧ (i ∉ S → canvas' i = canvas i)

theorem rewrites_empty (n : ℕ) (r : α → α) :
    Rewrites (fun canvas : ι → α => some (n, canvas)) ∅ n r :=
  fun canvas => ⟨canvas, rfl, fun _ => ⟨fun h => h.elim, fun _ => rfl⟩⟩

theorem rewrites_update [DecidableEq ι] (i : ι) (n : ℕ) (r : α → α) :
    Rewrites (fun canvas => some (n, Function.update canvas i (r (canvas i)))) {i} n r := by
  intro canvas
  refine ⟨_, rfl, fun j => ⟨?_, ?_⟩⟩
  · rintro rfl
    exact Function.update_self ..
  · intro hj
    exact Function.update_of_ne hj ..

theorem Rewrites.congr (h : Rewrites f S m r) (hset : S = T) (hcount : m = n) : Rewrites f T n r :=
  hset ▸ hcount ▸ h

theorem Rewrites.map (h : Rewrites f S m r) (count : ℕ → ℕ) :
    Rewrites (fun canvas => (f canvas).map fun o => (count o.1, o.2)) S (count m) r := by
  intro canvas
  obtain ⟨canvas', hsome, hS⟩ := h canvas
  refine ⟨canvas', ?_, hS⟩
  change (f canvas).map _ = _
  rw [hsome]
  rfl

theorem Rewrites.bind (hf : Rewrites f S m r) (hk : Rewrites (k m) T n r) (hST : Disjoint S T) :
    Rewrites (fun canvas => (f canvas).bind fun o => k o.1 o.2) (S ∪ T) n r := by
  intro canvas
  obtain ⟨canvas', hfirst, hS⟩ := hf canvas
  obtain ⟨canvas'', hsecond, hT⟩ := hk canvas'
  refine ⟨canvas'', ?_, fun i => ⟨?_, ?_⟩⟩
  · change (f canvas).bind _ = _
    rw [hfirst]
    exact hsecond
  · rintro (hi | hi)
    · rw [(hT i).2 (Set.disjoint_left.mp hST hi), (hS i).1 hi]
    · rw [(hT i).1 hi, (hS i).2 (Set.disjoint_right.mp hST hi)]
  · intro hi
    rw [Set.mem_union, not_or] at hi
    rw [(hT i).2 hi.2, (hS i).2 hi.1]

end Rewriting

end Gramado.Library.Painting
