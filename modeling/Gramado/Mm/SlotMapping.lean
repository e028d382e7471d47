import Gramado.Mm.PageTables

/-! What `mm_fill_page_table` changes of the translation by `virtual_to_physical`. -/

namespace Gramado.Mm.SlotMapping

open Library.WordMemory Mm.PageTables

/-- The address is in the 2 MB of the entry `d` of the directory that the entries `a` and `b` lead
to. -/
def InSlot (a b d va : Nat) : Prop :=
  va / 2 ^ 39 % 512 = a ∧ va / 2 ^ 30 % 512 = b ∧ va / 2 ^ 21 % 512 = d

instance (a b d va : Nat) : Decidable (InSlot a b d va) :=
  inferInstanceAs (Decidable (_ ∧ _ ∧ _))

/-- The directory that the entries `a` of the first table and `b` of the second lead to. -/
def directory (mem : Memory) (pml4Va a b : Nat) : Nat :=
  tableBase (mem (tableBase (mem (pml4Va + 8 * a)) + 8 * b))

/-- A region, the flags of its pages, and the page table that the call fills. -/
structure Mapping where
  ptVa : Nat
  regionPa : Nat
  flags : Nat
  pt_aligned : ptVa % 4096 = 0
  pt_lt : ptVa < 2 ^ 48
  region_aligned : regionPa % 4096 = 0
  region_lt : regionPa < 2 ^ 47
  flags_lt : flags < 4096

/-- The memory behind the call for the entry `d` of a directory. -/
def Mapping.fill (m : Mapping) (dir d : Nat) (mem : Memory) : Memory :=
  (mmFillPageTable dir d m.ptVa m.regionPa m.flags mem).2

/-- The slot is translated into the region, and every other address to what it was before. -/
def MapsSlot (mem : Memory) (pml4Va a b d : Nat) (m : Mapping) : Prop :=
  ∀ va, let mem' := m.fill (directory mem pml4Va a b) d mem
    (InSlot a b d va → virtualToPhysical mem' va pml4Va = .ok (m.regionPa + va % 2 ^ 21)) ∧
    (¬ InSlot a b d va → virtualToPhysical mem' va pml4Va = virtualToPhysical mem va pml4Va)

def Mapping.Stores (m : Mapping) (dir d word : Nat) : Prop :=
  (m.ptVa ≤ word ∧ word < m.ptVa + 4096) ∨ word = dir + 8 * d

instance (m : Mapping) (dir d word : Nat) : Decidable (m.Stores dir d word) :=
  inferInstanceAs (Decidable (_ ∨ _))

/-- The page of the page table is none of the tables, and neither it nor the entry of the
directory is read for an address outside of the slot. -/
structure Apart (mem : Memory) (pml4Va d : Nat) (m : Mapping) : Prop where
  pml4_ne : pml4Va ≠ 0
  pml4_aligned : pml4Va % 4096 = 0
  pml4 : ¬ m.Stores (directory mem pml4Va 0 0) d pml4Va
  pdpt : ¬ m.Stores (directory mem pml4Va 0 0) d (tableBase (mem pml4Va))
  entry : ¬ (m.ptVa ≤ directory mem pml4Va 0 0 + 8 * d ∧
    directory mem pml4Va 0 0 + 8 * d < m.ptVa + 4096)
  entries : ∀ d' < 512, d' ≠ d →
    ¬ m.Stores (directory mem pml4Va 0 0) d (directory mem pml4Va 0 0 + 8 * d')
  pages : ∀ d' < 512, d' ≠ d → ∀ t < 512,
    ¬ m.Stores (directory mem pml4Va 0 0) d
      (tableBase (mem (directory mem pml4Va 0 0 + 8 * d')) + 8 * t)

variable {word va : Nat}

section Fill

variable (m : Mapping) {dir d : Nat} (mem : Memory)

theorem fill_other (hd : d < 512) (h : ¬ m.Stores dir d word) :
    m.fill dir d mem word = mem word := by
  rw [Mapping.Stores, not_or] at h
  rw [Mapping.fill, mmFillPageTable_eq _ _ _ _ hd, Function.update_of_ne h.2]
  apply storeLoop_agree
  omega

theorem fill_entry (hd : d < 512) : m.fill dir d mem (dir + 8 * d) = m.ptVa ||| m.flags := by
  rw [Mapping.fill, mmFillPageTable_eq _ _ _ _ hd, Function.update_self]

theorem fill_page (hd : d < 512)
    (hentry : ¬ (m.ptVa ≤ dir + 8 * d ∧ dir + 8 * d < m.ptVa + 4096)) {t : Nat} (ht : t < 512) :
    m.fill dir d mem (m.ptVa + 8 * t) = (m.regionPa + 4096 * t) ||| m.flags := by
  rw [Mapping.fill, mmFillPageTable_eq _ _ _ _ hd, Function.update_of_ne (by omega)]
  exact storeLoop_word (fun _ _ _ _ => rfl) ht

end Fill

theorem virtualToPhysical_walk (mem : Memory) {pml4Va : Nat} (hpml4 : pml4Va ≠ 0)
    (ha : va / 2 ^ 39 % 512 = 0) (hb : va / 2 ^ 30 % 512 = 0) :
    virtualToPhysical mem va pml4Va =
      .ok (tableBase (mem (tableBase (mem (directory mem pml4Va 0 0 +
        8 * (va / 2 ^ 21 % 512))) + 8 * (va / 2 ^ 12 % 512))) + va % 4096) := by
  unfold virtualToPhysical directory
  simp only [shift_and, and_offset, ha, hb, hpml4, ne_eq, not_true_eq_false, if_false,
    Nat.mul_zero, Nat.add_zero]

theorem virtualToPhysical_beyond (mem mem' : Memory) (pml4Va : Nat)
    (h : ¬ (va / 2 ^ 39 % 512 = 0 ∧ va / 2 ^ 30 % 512 = 0)) :
    virtualToPhysical mem' va pml4Va = virtualToPhysical mem va pml4Va := by
  unfold virtualToPhysical
  simp only [shift_and]
  by_cases ha : va / 2 ^ 39 % 512 = 0
  · have hb : ¬ va / 2 ^ 30 % 512 = 0 := fun hb => h ⟨ha, hb⟩
    simp only [ha, hb, ne_eq, not_true_eq_false, not_false_eq_true, if_false, if_true]
  · simp only [ha, ne_eq, not_false_eq_true, if_true]

section Slot

variable {mem : Memory} {pml4Va d : Nat} {m : Mapping}

theorem directory_fill (hd : d < 512) (h : Apart mem pml4Va d m) :
    directory (m.fill (directory mem pml4Va 0 0) d mem) pml4Va 0 0 = directory mem pml4Va 0 0 := by
  have hpml4 := fill_other m mem hd h.pml4
  have hpdpt := fill_other m mem hd h.pdpt
  generalize m.fill (directory mem pml4Va 0 0) d mem = mem' at hpml4 hpdpt ⊢
  simp only [directory, Nat.mul_zero, Nat.add_zero, hpml4, hpdpt]

theorem translate_slot (hd : d < 512) (h : Apart mem pml4Va d m) (hva : InSlot 0 0 d va) :
    virtualToPhysical (m.fill (directory mem pml4Va 0 0) d mem) va pml4Va =
      .ok (m.regionPa + va % 2 ^ 21) := by
  obtain ⟨ha, hb, rfl⟩ := hva
  have hpt := m.pt_aligned
  have hregion := m.region_aligned
  have hlt := m.region_lt
  have ht : va / 2 ^ 12 % 512 < 512 := Nat.mod_lt _ (by decide)
  have hoffset : va % 2 ^ 21 = 4096 * (va / 2 ^ 12 % 512) + va % 4096 := by omega
  rw [virtualToPhysical_walk _ h.pml4_ne ha hb, directory_fill hd h, fill_entry m mem hd,
    tableBase_flags hpt m.pt_lt m.flags_lt, fill_page m mem hd h.entry ht,
    tableBase_flags (by omega) (by omega) m.flags_lt, hoffset, Nat.add_assoc]

theorem translate_other (hd : d < 512) (h : Apart mem pml4Va d m) (hva : ¬ InSlot 0 0 d va) :
    virtualToPhysical (m.fill (directory mem pml4Va 0 0) d mem) va pml4Va =
      virtualToPhysical mem va pml4Va := by
  by_cases hfirst : va / 2 ^ 39 % 512 = 0 ∧ va / 2 ^ 30 % 512 = 0
  · obtain ⟨ha, hb⟩ := hfirst
    have hd' : va / 2 ^ 21 % 512 < 512 := Nat.mod_lt _ (by decide)
    have ht : va / 2 ^ 12 % 512 < 512 := Nat.mod_lt _ (by decide)
    have hne : va / 2 ^ 21 % 512 ≠ d := fun heq => hva ⟨ha, hb, heq⟩
    rw [virtualToPhysical_walk _ h.pml4_ne ha hb, virtualToPhysical_walk _ h.pml4_ne ha hb,
      directory_fill hd h, fill_other m mem hd (h.entries _ hd' hne),
      fill_other m mem hd (h.pages _ hd' hne _ ht)]
  · exact virtualToPhysical_beyond _ _ pml4Va hfirst

theorem fill_maps_slot (hd : d < 512) (h : Apart mem pml4Va d m) : MapsSlot mem pml4Va 0 0 d m :=
  fun _ => ⟨translate_slot hd h, translate_other hd h⟩

end Slot

/-- Tables at `0x1000`, `0x2000` and `0x3000`; the first two entries of the directory share the
page table at `0x4000`. -/
def sharedTables : Memory := fun word =>
  if word = 0x1000 then 0x2007
  else if word = 0x2000 then 0x3007
  else if word = 0x3000 ∨ word = 0x3008 then 0x4007
  else 0

def freshTable : Mapping where
  ptVa := 0x5000
  regionPa := 0x600000
  flags := 7
  pt_aligned := rfl
  pt_lt := by decide
  region_aligned := rfl
  region_lt := by decide
  flags_lt := by decide

def sharedTable : Mapping where
  ptVa := 0x4000
  regionPa := 0x600000
  flags := 7
  pt_aligned := rfl
  pt_lt := by decide
  region_aligned := rfl
  region_lt := by decide
  flags_lt := by decide

theorem sharedTables_directory : directory sharedTables 0x1000 0 0 = 0x3000 := by decide

theorem tableBase_sharedTables (h : 0x3000 ≤ word) :
    tableBase (sharedTables word) = 0 ∨ tableBase (sharedTables word) = 0x4000 := by
  rw [sharedTables, if_neg (by omega), if_neg (by omega)]
  split_ifs
  · exact .inr (by decide)
  · exact .inl (by decide)

theorem fill_maps_slot_fresh : MapsSlot sharedTables 0x1000 0 0 2 freshTable := by
  apply fill_maps_slot (by decide)
  have hpt : freshTable.ptVa = 0x5000 := rfl
  constructor
  · decide
  · rfl
  · rw [Mapping.Stores, sharedTables_directory]
    decide
  · rw [Mapping.Stores, sharedTables_directory]
    decide
  · rw [sharedTables_directory]
    decide
  · intro d' hd' hne
    rw [Mapping.Stores, sharedTables_directory, hpt]
    omega
  · intro d' hd' _ t ht
    have hbase := tableBase_sharedTables (Nat.le_add_right 0x3000 (8 * d'))
    rw [Mapping.Stores, sharedTables_directory, hpt]
    omega

/-- A directory that the second table's entry `1` leads to is not walked, and a page table that two
entries share changes what the other one maps. -/
theorem not_every_slot_mapped :
    ¬ MapsSlot sharedTables 0x1000 0 1 0 freshTable ∧
      ¬ MapsSlot sharedTables 0x1000 0 0 0 sharedTable := by
  constructor
  · intro h
    have hwalk := (h (2 ^ 30)).1 (by decide)
    cases hwalk
  · intro h
    have hkept := (h (2 ^ 21)).2 (by decide)
    rw [sharedTables_directory] at hkept
    have hzero : 0 < 512 := by decide
    have hpml4 : sharedTable.fill 0x3000 0 sharedTables 0x1000 = 0x2007 :=
      fill_other sharedTable sharedTables hzero (by decide)
    have hpdpt : sharedTable.fill 0x3000 0 sharedTables 0x2000 = 0x3007 :=
      fill_other sharedTable sharedTables hzero (by decide)
    have hentry : sharedTable.fill 0x3000 0 sharedTables 0x3008 = 0x4007 :=
      fill_other sharedTable sharedTables hzero (by decide)
    have hpage : sharedTable.fill 0x3000 0 sharedTables 0x4000 = 0x600007 :=
      (@fill_page sharedTable 0x3000 0 sharedTables hzero (by decide) 0 hzero).trans (by decide)
    have hbefore : virtualToPhysical sharedTables (2 ^ 21) 0x1000 = .ok 0 := by decide
    have hafter : virtualToPhysical (sharedTable.fill 0x3000 0 sharedTables) (2 ^ 21) 0x1000 =
        .ok 0x600000 := by
      simp [virtualToPhysical, tableBase, hpml4, hpdpt, hentry, hpage]
    rw [hbefore, hafter] at hkept
    cases hkept


end Gramado.Mm.SlotMapping
