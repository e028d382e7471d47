import Mathlib.Tactic.Ring

namespace Gramado.Library.ByteMemory

abbrev Memory := Nat → UInt8

/-- The little-endian value of the `n` bytes from an address on. -/
def load (mem : Memory) (a : Nat) : Nat → Nat
  | 0 => 0
  | n + 1 => (mem a).toNat + 256 * load mem (a + 1) n

def store (mem : Memory) (a : Nat) : Nat → Nat → Memory
  | 0, _ => mem
  | n + 1, v => Function.update (store mem (a + 1) n (v / 256)) a (UInt8.ofNat v)

def blit (mem : Memory) (a n : Nat) (data : Nat → UInt8) : Memory := fun i =>
  if a ≤ i ∧ i < a + n then data (i - a) else mem i

/-- Two memories agree on the `n` bytes from an address on. -/
def Agree (mem mem' : Memory) (a n : Nat) : Prop :=
  ∀ i, a ≤ i → i < a + n → mem' i = mem i

variable {mem mem' : Memory} {a n b m v i : Nat}

theorem Agree.trans {mem'' : Memory} (h : Agree mem mem' a n) (h' : Agree mem' mem'' a n) :
    Agree mem mem'' a n := by
  intro i hlow hhigh
  rw [h' i hlow hhigh, h i hlow hhigh]

theorem load_congr (h : Agree mem mem' a n) (hlow : a ≤ b) (hhigh : b + m ≤ a + n) :
    load mem' b m = load mem b m := by
  induction m generalizing b with
  | zero => rfl
  | succ m ih => rw [load, load, h b hlow (by omega), ih (by omega) (by omega)]

theorem load_lt (mem : Memory) (a n : Nat) : load mem a n < 256 ^ n := by
  induction n generalizing a with
  | zero => exact Nat.one_pos
  | succ n ih =>
      have hbyte := (mem a).toNat_lt
      have hrest := ih (a + 1)
      rw [load, Nat.pow_succ]
      omega

theorem store_of_outside (mem : Memory) (h : i < a ∨ a + n ≤ i) : store mem a n v i = mem i := by
  induction n generalizing a v with
  | zero => rfl
  | succ n ih =>
      rw [store, Function.update_of_ne (by omega)]
      exact ih (by omega)

theorem store_inside (mem mem' : Memory) (hlow : a ≤ i) (hhigh : i < a + n) :
    store mem a n v i = store mem' a n v i := by
  induction n generalizing a v with
  | zero => omega
  | succ n ih =>
      rcases Nat.eq_or_lt_of_le hlow with rfl | hlt
      · rw [store, store, Function.update_self, Function.update_self]
      · rw [store, store, Function.update_of_ne (by omega), Function.update_of_ne (by omega)]
        exact ih hlt (by omega)

theorem agree_store (mem : Memory) (h : b + m ≤ a ∨ a + n ≤ b) :
    Agree mem (store mem a n v) b m := by
  intro i _ _
  exact store_of_outside mem (by omega)

theorem load_store_of_disjoint (mem : Memory) (h : b + m ≤ a ∨ a + n ≤ b) :
    load (store mem a n v) b m = load mem b m :=
  load_congr (agree_store mem h) (Nat.le_refl b) (Nat.le_refl _)

theorem load_store (mem : Memory) (h : v < 256 ^ n) : load (store mem a n v) a n = v := by
  induction n generalizing a v with
  | zero =>
      rw [Nat.pow_zero] at h
      rw [load]
      omega
  | succ n ih =>
      rw [Nat.pow_succ] at h
      have hrest : load (store mem a (n + 1) v) (a + 1) n = v / 256 := by
        have hframe : Agree (store mem (a + 1) n (v / 256)) (store mem a (n + 1) v) (a + 1) n := by
          intro i _ _
          exact Function.update_of_ne (by omega) _ _
        rw [load_congr hframe (Nat.le_refl _) (Nat.le_refl _)]
        exact ih (by omega)
      rw [load, hrest, store, Function.update_self]
      simp only [UInt8.toNat_ofNat']
      omega

theorem blit_of_outside (mem : Memory) (data : Nat → UInt8) (h : i < a ∨ a + n ≤ i) :
    blit mem a n data i = mem i :=
  if_neg (by omega)

theorem blit_of_inside (mem : Memory) (data : Nat → UInt8) (hlow : a ≤ i) (hhigh : i < a + n) :
    blit mem a n data i = data (i - a) :=
  if_pos ⟨hlow, hhigh⟩

theorem agree_blit (mem : Memory) (data : Nat → UInt8) (h : b + m ≤ a ∨ a + n ≤ b) :
    Agree mem (blit mem a n data) b m := by
  intro i _ _
  exact blit_of_outside mem data (by omega)

end Gramado.Library.ByteMemory
