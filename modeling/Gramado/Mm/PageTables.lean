import Gramado.Library.WordMemory
import Mathlib.Data.Nat.Bitwise

/-! The tables of the paging: their allocation below the FAT, the regions that the kernel maps,
and the translation of an address. -/

namespace Gramado.Mm.PageTables

open Library.WordMemory

def TABLE_POINTER_HEAP_BASE : Nat := 0x1000
def FAT_ADDRESS : Nat := 0x30000
def KERNEL_PD_PA : Nat := 0x9A000
def KERNEL_PDPT_PA : Nat := 0x9B000
def KERNEL_PML4_PA : Nat := 0x9C000

def PAGE_PRESENT : Nat := 1
def PAGE_WRITE : Nat := 2
def PAGE_USER : Nat := 4

def tableBase (entry : Nat) : Nat := entry &&& 0xFFFFFFFFF000

def pdeIndex (va : Nat) : Nat := (va >>> 21) &&& 0x1FF

/-- `virtual_to_physical`. The tables are below 1 MB, where the addresses of both kinds are the
same. -/
def virtualToPhysical (mem : Memory) (va pml4Va : Nat) : Except String Nat :=
  let a := (va >>> 39) &&& 0x1FF
  let b := (va >>> 30) &&& 0x1FF
  let d := (va >>> 21) &&& 0x1FF
  let t := (va >>> 12) &&& 0x1FF
  let o := va &&& 0xFFF
  if a ≠ 0 then .error "__virtual_to_physical: [TODO] a != 0 \n"
  else if b ≠ 0 then .error "__virtual_to_physical: [TODO] b != 0 \n"
  else if pml4Va = 0 then .error "__virtual_to_physical: [FAIL] Invalid pml4_va\n"
  else
    let ptpt := tableBase (mem (pml4Va + 8 * a))
    let dir := tableBase (mem (ptpt + 8 * b))
    let pt := tableBase (mem (dir + 8 * d))
    .ok (tableBase (mem (pt + 8 * t)) + o)

/-- The memory with the tables, and `table_pointer_heap_base`. -/
structure Paging where
  memory : Memory
  tablePointerHeapBase : Nat
  aligned : tablePointerHeapBase % 0x1000 = 0

def Paging.setMemory (p : Paging) (memory : Memory) : Paging := { p with memory := memory }

/-- `table_pointer_heap_base = table_pointer_heap_base + 0x1000`. -/
def Paging.nextTable (p : Paging) : Paging where
  memory := p.memory
  tablePointerHeapBase := p.tablePointerHeapBase + 0x1000
  aligned := by
    have haligned := p.aligned
    omega

def getTablePointerVa (p : Paging) : Except String (Nat × Paging) :=
  let p := p.nextTable
  if FAT_ADDRESS ≤ p.tablePointerHeapBase then .error "get_table_pointer_va: [FIXME] Limits\n"
  else .ok (p.tablePointerHeapBase, p)

/-- The copy of a table that `CloneKernelPML4`, `CloneKernelPDPT0` and `CloneKernelPD0` make. -/
def cloneTable (src : Nat) (p : Paging) : Except String (Nat × Paging) :=
  match getTablePointerVa p with
  | .error e => .error e
  | .ok (dst, p) =>
      .ok (dst, p.setMemory (storeLoop (fun mem i => mem (src + 8 * i)) dst 512 p.memory))

def cloneKernelPML4 : Paging → Except String (Nat × Paging) := cloneTable KERNEL_PML4_PA
def cloneKernelPDPT0 : Paging → Except String (Nat × Paging) := cloneTable KERNEL_PDPT_PA
def cloneKernelPD0 : Paging → Except String (Nat × Paging) := cloneTable KERNEL_PD_PA

/-- `mm_fill_page_table`: the page table gets the 512 pages of a region of 2 MB, and the
directory gets the page table. -/
def mmFillPageTable (directoryVa directoryEntry ptVa regionPa flags : Nat) (mem : Memory) :
    Int × Memory :=
  if 512 ≤ directoryEntry then (-1, mem)
  else
    let mem := storeLoop (fun _ i => (regionPa + 4096 * i) ||| flags) ptVa 512 mem
    (0, Function.update mem (directoryVa + 8 * directoryEntry) (ptVa ||| flags))

/-- `PageDirectory[0] = pa; PageDirectory[0] = PageDirectory[0] | flags`, for the tables of all
levels. -/
def install (tableVa entry pa flags : Nat) (mem : Memory) : Memory :=
  Function.update mem (tableVa + 8 * entry) (pa ||| flags)

variable {a va pml4Va pa table i dir imagePa k : Nat} {p p' : Paging} {mem : Memory}

theorem tableBase_flags {flags : Nat} (ha : a % 4096 = 0) (hlt : a < 2 ^ 48)
    (hflags : flags < 4096) :
    tableBase (a ||| flags) = a := by
  obtain ⟨q, rfl⟩ : ∃ q, a = 4096 * q := ⟨a / 4096, by omega⟩
  have hor : 4096 * q ||| flags = 4096 * q + flags := by
    have hadd := Nat.two_pow_add_eq_or_of_lt (i := 12) hflags q
    exact hadd.symm
  have hdiv : (4096 * q + flags &&& 0xFFFFFFFFF000) / 2 ^ 12 = q := by
    rw [Nat.and_div_two_pow]
    have hleft : (4096 * q + flags) / 2 ^ 12 = q := by omega
    have hright : 0xFFFFFFFFF000 / 2 ^ 12 = 2 ^ 36 - 1 := by decide
    rw [hleft, hright, Nat.and_two_pow_sub_one_eq_mod, Nat.mod_eq_of_lt (by omega)]
  have hmod : (4096 * q + flags &&& 0xFFFFFFFFF000) % 2 ^ 12 = 0 := by
    rw [Nat.and_mod_two_pow]
    have hright : 0xFFFFFFFFF000 % 2 ^ 12 = 0 := by decide
    rw [hright, Nat.and_zero]
  rw [tableBase, hor]
  omega

theorem shift_and (x k : Nat) : (x >>> k) &&& 0x1FF = x / 2 ^ k % 512 := by
  rw [Nat.shiftRight_eq_div_pow]
  exact Nat.and_two_pow_sub_one_eq_mod _ 9

theorem and_offset (x : Nat) : x &&& 0xFFF = x % 4096 := Nat.and_two_pow_sub_one_eq_mod x 12

theorem virtualToPhysical_eq (mem : Memory) (hva : va < 2 ^ 30) (hpml4 : pml4Va ≠ 0) :
    virtualToPhysical mem va pml4Va =
      .ok (tableBase (mem (tableBase (mem (tableBase (mem (tableBase (mem pml4Va))) +
        8 * (va / 2 ^ 21 % 512))) + 8 * (va / 2 ^ 12 % 512))) + va % 4096) := by
  have ha : va / 2 ^ 39 % 512 = 0 := by omega
  have hb : va / 2 ^ 30 % 512 = 0 := by omega
  unfold virtualToPhysical
  simp only [shift_and, and_offset, ha, hb, hpml4, ne_eq, not_true_eq_false, if_false,
    Nat.mul_zero, Nat.add_zero]

def FLOWERTHREAD_BASE : Nat := 0x00200000

structure Directories where
  pdpt0Va : Nat
  pdpt0Pa : Nat
  pd0Va : Nat
  pd0Pa : Nat

/-- The part of `copy_process00` that gives the new process a page table for its image, and
copies of the kernel's directories that lead to it. -/
def mapImage (p : Paging) (pml4Va imagePa : Nat) : Except String (Directories × Paging) :=
  match getTablePointerVa p with
  | .error e => .error e
  | .ok (ptVa, p) =>
  if ptVa = 0 then .error "copy_process: [FAIL] ptVA\n"
  else
  match virtualToPhysical p.memory ptVa KERNEL_PML4_PA with
  | .error e => .error e
  | .ok ptPa =>
  match cloneKernelPD0 p with
  | .error e => .error e
  | .ok (pd0Va, p) =>
  match virtualToPhysical p.memory pd0Va KERNEL_PML4_PA with
  | .error e => .error e
  | .ok pd0Pa =>
  if pd0Va = 0 then .error "copy_process: child_process->pd0_VA==0\n"
  else if pd0Pa = 0 then .error "copy_process: child_process->pd0_PA==0\n"
  else
  let pdindex := pdeIndex FLOWERTHREAD_BASE
  let flags := PAGE_USER ||| PAGE_WRITE ||| PAGE_PRESENT
  let p := p.setMemory (mmFillPageTable pd0Va pdindex ptVa imagePa flags p.memory).2
  match cloneKernelPDPT0 p with
  | .error e => .error e
  | .ok (pdpt0Va, p) =>
  match virtualToPhysical p.memory pdpt0Va KERNEL_PML4_PA with
  | .error e => .error e
  | .ok pdpt0Pa =>
  if pdpt0Va = 0 then .error "copy_process: child_process->pdpt0_VA==0\n"
  else if pdpt0Pa = 0 then .error "copy_process: child_process->pdpt0_PA==0\n"
  else
  let mem := install pd0Va pdindex ptPa flags p.memory
  let mem := install pdpt0Va 0 pd0Pa 7 mem
  let mem := install pml4Va 0 pdpt0Pa 7 mem
  .ok (⟨pdpt0Va, pdpt0Pa, pd0Va, pd0Pa⟩, p.setMemory mem)

def Old (base table : Nat) : Prop := table ≤ base ∨ FAT_ADDRESS ≤ table

/-- The first entries of the tables at `pml4Va` lead to the directory `dir`. -/
structure LeadsTo (p : Paging) (pml4Va dir : Nat) : Prop where
  pml4_ne : pml4Va ≠ 0
  pml4_old : Old p.tablePointerHeapBase pml4Va
  pdpt_old : Old p.tablePointerHeapBase (tableBase (p.memory pml4Va))
  dir_eq : tableBase (p.memory (tableBase (p.memory pml4Va))) = dir
  dir_old : Old p.tablePointerHeapBase dir

/-- A directory maps the 2 MB at the address `va` to those at `pa`. -/
structure DirMaps (p : Paging) (dir va pa : Nat) : Prop where
  va_lt : va < 2 ^ 30
  va_aligned : va % 2 ^ 21 = 0
  pt_old : Old p.tablePointerHeapBase (tableBase (p.memory (dir + 8 * pdeIndex va)))
  page : ∀ i < 512,
    tableBase (p.memory (tableBase (p.memory (dir + 8 * pdeIndex va)) + 8 * i)) = pa + 4096 * i

/-- The tables at `pml4Va` map the 2 MB at the address `va` to those at `pa`. -/
def Maps (p : Paging) (pml4Va va pa : Nat) : Prop :=
  ∃ dir, LeadsTo p pml4Va dir ∧ DirMaps p dir va pa

variable {dirs : Directories}

theorem Maps.translate (h : Maps p pml4Va va pa) {off : Nat} (hoff : off < 2 ^ 21) :
    virtualToPhysical p.memory (va + off) pml4Va = .ok (pa + off) := by
  obtain ⟨dir, hleads, hmaps⟩ := h
  have hlt := hmaps.va_lt
  have haligned := hmaps.va_aligned
  have hd : (va + off) / 2 ^ 21 % 512 = pdeIndex va := by
    rw [pdeIndex, shift_and]
    omega
  have ht : (va + off) / 2 ^ 12 % 512 = off / 4096 := by omega
  have ho : (va + off) % 4096 = off % 4096 := by omega
  rw [virtualToPhysical_eq _ (by omega) hleads.pml4_ne, hleads.dir_eq, hd, ht, ho,
    hmaps.page _ (by omega), Nat.add_assoc, Nat.div_add_mod]

theorem tableBase_aligned (entry : Nat) : tableBase entry % 4096 = 0 := by
  have hmod := Nat.and_mod_two_pow (a := entry) (b := 0xFFFFFFFFF000) (n := 12)
  have hright : 0xFFFFFFFFF000 % 2 ^ 12 = 0 := by decide
  rw [hright, Nat.and_zero] at hmod
  exact hmod

theorem Maps.aligned (h : Maps p pml4Va va pa) : pa % 4096 = 0 := by
  obtain ⟨dir, _, hmaps⟩ := h
  have hpage := hmaps.page 0 (by decide)
  rw [Nat.mul_zero, Nat.add_zero, Nat.add_zero] at hpage
  rw [← hpage]
  exact tableBase_aligned _

/-- What happens to the tables later: new ones are taken and filled. -/
structure Extends (p p' : Paging) : Prop where
  base_le : p.tablePointerHeapBase ≤ p'.tablePointerHeapBase
  agree : AgreeOutside (p.tablePointerHeapBase + 0x1000) FAT_ADDRESS p.memory p'.memory

theorem Extends.trans {p'' : Paging} (h : Extends p p') (h' : Extends p' p'') : Extends p p'' := by
  have hle := h.base_le
  exact ⟨hle.trans h'.base_le, h.agree.trans (h'.agree.mono (by omega) (Nat.le_refl _))⟩

theorem Extends.old (h : Extends p p') (hold : Old p.tablePointerHeapBase table) :
    Old p'.tablePointerHeapBase table := by
  have hle := h.base_le
  unfold Old at *
  omega

theorem Extends.word (h : Extends p p') (hold : Old p.tablePointerHeapBase table) (hi : i < 512) :
    p'.memory (table + 8 * i) = p.memory (table + 8 * i) := by
  apply h.agree
  unfold Old at hold
  omega

theorem LeadsTo.mono (h : LeadsTo p pml4Va dir) (hext : Extends p p') : LeadsTo p' pml4Va dir := by
  have hpml4 : p'.memory pml4Va = p.memory pml4Va := hext.word h.pml4_old (i := 0) (by decide)
  have hpdpt := hext.word h.pdpt_old (i := 0) (by decide)
  constructor
  · exact h.pml4_ne
  · exact hext.old h.pml4_old
  · rw [hpml4]
    exact hext.old h.pdpt_old
  · rw [hpml4]
    rw [Nat.mul_zero, Nat.add_zero] at hpdpt
    rw [hpdpt]
    exact h.dir_eq
  · exact hext.old h.dir_old

theorem pdeIndex_lt (va : Nat) : pdeIndex va < 512 := by
  rw [pdeIndex, shift_and]
  exact Nat.mod_lt _ (by decide)

theorem DirMaps.mono (h : DirMaps p dir va pa) (hdir : Old p.tablePointerHeapBase dir)
    (hext : Extends p p') : DirMaps p' dir va pa := by
  have hentry := hext.word hdir (pdeIndex_lt va)
  constructor
  · exact h.va_lt
  · exact h.va_aligned
  · rw [hentry]
    exact hext.old h.pt_old
  · intro i hi
    rw [hentry, hext.word h.pt_old hi]
    exact h.page i hi

theorem Maps.mono (h : Maps p pml4Va va pa) (hext : Extends p p') : Maps p' pml4Va va pa := by
  obtain ⟨dir, hleads, hmaps⟩ := h
  exact ⟨dir, hleads.mono hext, hmaps.mono hleads.dir_old hext⟩

theorem nextTable_room (h : p.nextTable.tablePointerHeapBase < FAT_ADDRESS) :
    p.tablePointerHeapBase + 0x2000 ≤ FAT_ADDRESS := by
  have haligned := p.aligned
  change p.tablePointerHeapBase + 0x1000 < 0x30000 at h
  change p.tablePointerHeapBase + 0x2000 ≤ 0x30000
  omega

theorem extends_nextTable
    (h : AgreeOutside (p.tablePointerHeapBase + 0x1000) (p.tablePointerHeapBase + 0x2000) p.memory
      mem) (hroom : p.nextTable.tablePointerHeapBase < FAT_ADDRESS) :
    Extends p (p.nextTable.setMemory mem) :=
  ⟨Nat.le_add_right _ _, h.mono (Nat.le_refl _) (nextTable_room hroom)⟩

theorem getTablePointerVa_ok (h : getTablePointerVa p = .ok (table, p')) :
    p.nextTable.tablePointerHeapBase < FAT_ADDRESS ∧ p' = p.nextTable ∧
      table = p.tablePointerHeapBase + 0x1000 := by
  rw [getTablePointerVa] at h
  split at h
  · cases h
  · rename_i hroom
    cases h
    exact ⟨by omega, rfl, rfl⟩

theorem cloneTable_ok {src : Nat} (h : cloneTable src p = .ok (table, p')) :
    p.nextTable.tablePointerHeapBase < FAT_ADDRESS ∧ Extends p p' ∧
      table = p.tablePointerHeapBase + 0x1000 ∧
        p'.tablePointerHeapBase = p.tablePointerHeapBase + 0x1000 := by
  unfold cloneTable at h
  cases halloc : getTablePointerVa p with
  | error e =>
      rw [halloc] at h
      cases h
  | ok r =>
      obtain ⟨dst, p₁⟩ := r
      rw [halloc] at h
      obtain ⟨rfl, rfl⟩ := Prod.mk.inj (Except.ok.inj h)
      obtain ⟨hroom, rfl, rfl⟩ := getTablePointerVa_ok halloc
      have hend : p.tablePointerHeapBase + 0x1000 + 8 * 512 ≤ p.tablePointerHeapBase + 0x2000 := by
        omega
      have hagree := (storeLoop_agree (fun mem i => mem (src + 8 * i))
        (p.tablePointerHeapBase + 0x1000) 512 p.memory).mono (Nat.le_refl _) hend
      exact ⟨hroom, extends_nextTable hagree hroom, rfl, rfl⟩

theorem Extends.write {q : Paging} (h : Extends p q)
    (hmem : AgreeOutside (p.tablePointerHeapBase + 0x1000) FAT_ADDRESS q.memory mem) :
    Extends p (q.setMemory mem) :=
  ⟨h.base_le, h.agree.trans hmem⟩

theorem extends_next (p : Paging) : Extends p p.nextTable :=
  ⟨Nat.le_add_right _ _, agreeOutside_refl _ _ _⟩

theorem mapImage_ok (h : mapImage p pml4Va imagePa = .ok (dirs, p')) :
    ∃ ptVa ptPa p₁ p₂ p₃, getTablePointerVa p = .ok (ptVa, p₁) ∧
      virtualToPhysical p₁.memory ptVa KERNEL_PML4_PA = .ok ptPa ∧
      cloneTable KERNEL_PD_PA p₁ = .ok (dirs.pd0Va, p₂) ∧
      virtualToPhysical p₂.memory dirs.pd0Va KERNEL_PML4_PA = .ok dirs.pd0Pa ∧
      cloneTable KERNEL_PDPT_PA (p₂.setMemory
        (mmFillPageTable dirs.pd0Va 1 ptVa imagePa 7 p₂.memory).2) = .ok (dirs.pdpt0Va, p₃) ∧
      virtualToPhysical p₃.memory dirs.pdpt0Va KERNEL_PML4_PA = .ok dirs.pdpt0Pa ∧
      p' = p₃.setMemory (install pml4Va 0 dirs.pdpt0Pa 7
        (install dirs.pdpt0Va 0 dirs.pd0Pa 7 (install dirs.pd0Va 1 ptPa 7 p₃.memory))) := by
  have hindex : pdeIndex FLOWERTHREAD_BASE = 1 := by decide
  have hflags : PAGE_USER ||| PAGE_WRITE ||| PAGE_PRESENT = 7 := by decide
  unfold mapImage at h
  rw [hindex, hflags] at h
  split at h
  · cases h
  rename_i ptVa p₁ hpt
  split at h
  · cases h
  split at h
  · cases h
  rename_i ptPa hptPa
  split at h
  · cases h
  rename_i pd0Va p₂ hpd
  split at h
  · cases h
  rename_i pd0Pa hpdPa
  split at h
  · cases h
  split at h
  · cases h
  dsimp only at h
  split at h
  · cases h
  rename_i pdpt0Va p₃ hpdpt
  split at h
  · cases h
  rename_i pdpt0Pa hpdptPa
  split at h
  · cases h
  split at h
  · cases h
  obtain ⟨rfl, rfl⟩ := Prod.mk.inj (Except.ok.inj h)
  exact ⟨ptVa, ptPa, p₁, p₂, p₃, hpt, hptPa, hpd, hpdPa, hpdpt, hpdptPa, rfl⟩

theorem mmFillPageTable_eq (directoryVa ptVa regionPa flags : Nat) {entry : Nat}
    (hentry : entry < 512) (mem : Memory) :
    (mmFillPageTable directoryVa entry ptVa regionPa flags mem).2 =
      Function.update (storeLoop (fun _ i => (regionPa + 4096 * i) ||| flags) ptVa 512 mem)
        (directoryVa + 8 * entry) (ptVa ||| flags) := by
  unfold mmFillPageTable
  rw [if_neg (by omega)]

def installAll (pml4Va pdpt0Va pd0Va ptPa : Nat) (mem : Memory) : Memory :=
  install pml4Va 0 pdpt0Va 7 (install pdpt0Va 0 pd0Va 7 (install pd0Va 1 ptPa 7 mem))

section installed

variable {pml4Va pdpt0Va pd0Va ptPa : Nat} (mem : Memory)

theorem installAll_agree {low high : Nat} (hpml4 : low ≤ pml4Va ∧ pml4Va < high)
    (hpdpt : low ≤ pdpt0Va ∧ pdpt0Va < high) (hpd : low ≤ pd0Va ∧ pd0Va + 8 < high) :
    AgreeOutside low high mem (installAll pml4Va pdpt0Va pd0Va ptPa mem) := by
  unfold installAll install
  apply AgreeOutside.trans _ (agreeOutside_update _ _ hpml4.1 hpml4.2)
  apply AgreeOutside.trans _ (agreeOutside_update _ _ hpdpt.1 hpdpt.2)
  exact agreeOutside_update _ _ (by omega) (by omega)

theorem installAll_pml4 : installAll pml4Va pdpt0Va pd0Va ptPa mem pml4Va = pdpt0Va ||| 7 :=
  Function.update_self _ _ _

theorem installAll_pdpt (h : pdpt0Va ≠ pml4Va) :
    installAll pml4Va pdpt0Va pd0Va ptPa mem pdpt0Va = pd0Va ||| 7 := by
  unfold installAll install
  rw [Function.update_of_ne (by omega)]
  exact Function.update_self _ _ _

theorem installAll_pd (hpml4 : pd0Va + 8 ≠ pml4Va) (hpdpt : pd0Va + 8 ≠ pdpt0Va) :
    installAll pml4Va pdpt0Va pd0Va ptPa mem (pd0Va + 8) = ptPa ||| 7 := by
  unfold installAll install
  rw [Function.update_of_ne (by omega), Function.update_of_ne (by omega)]
  exact Function.update_self _ _ _

theorem installAll_other (hpml4 : a ≠ pml4Va) (hpdpt : a ≠ pdpt0Va) (hpd : a ≠ pd0Va + 8) :
    installAll pml4Va pdpt0Va pd0Va ptPa mem a = mem a := by
  unfold installAll install
  rw [Function.update_of_ne (by omega), Function.update_of_ne (by omega),
    Function.update_of_ne (by omega)]

end installed

theorem mapImage_maps {p₀ : Paging} (hlow : Maps p₀ KERNEL_PML4_PA 0 0)
    (hclone : cloneKernelPML4 p₀ = .ok (pml4Va, p))
    (hmap : mapImage p pml4Va imagePa = .ok (dirs, p')) (haligned : imagePa % 4096 = 0)
    (hlt : imagePa + 2 ^ 21 ≤ 2 ^ 48) :
    Extends p₀ p' ∧ Maps p' pml4Va FLOWERTHREAD_BASE imagePa := by
  obtain ⟨hroom₁, hext₁, hpml4, hbase₁⟩ := cloneTable_ok hclone
  obtain ⟨ptVa, ptPa, p₁, p₂, p₃, hpt, hptPa, hpd, hpdPa, hpdpt, hpdptPa, rfl⟩ := mapImage_ok hmap
  obtain ⟨hroom₂, rfl, hptVa⟩ := getTablePointerVa_ok hpt
  obtain ⟨hroom₃, hext₃, hpdVa, hbase₃⟩ := cloneTable_ok hpd
  obtain ⟨hroom₄, hext₄, hpdptVa, hbase₄⟩ := cloneTable_ok hpdpt
  have hbase := p₀.aligned
  have hend : p₀.tablePointerHeapBase + 0x4000 < 0x30000 := by
    change p₂.tablePointerHeapBase + 0x1000 < FAT_ADDRESS at hroom₄
    change p₂.tablePointerHeapBase = p.tablePointerHeapBase + 0x1000 + 0x1000 at hbase₃
    unfold FAT_ADDRESS at hroom₄
    omega
  change dirs.pd0Va = p.tablePointerHeapBase + 0x1000 + 0x1000 at hpdVa
  change p₂.tablePointerHeapBase = p.tablePointerHeapBase + 0x1000 + 0x1000 at hbase₃
  change dirs.pdpt0Va = p₂.tablePointerHeapBase + 0x1000 at hpdptVa
  rw [hbase₁] at hptVa hpdVa hbase₃
  rw [hbase₃] at hpdptVa
  have hidentity : ∀ (q : Paging) (table pa : Nat), Extends p₀ q → table < 2 ^ 21 →
      virtualToPhysical q.memory table KERNEL_PML4_PA = .ok pa → pa = table := by
    intro q table pa hext htable htranslate
    have hsame := (hlow.mono hext).translate htable
    rw [Nat.zero_add, htranslate] at hsame
    exact Except.ok.inj hsame
  have hext₂ : Extends p₀ p.nextTable := hext₁.trans (extends_next p)
  have hextPd : Extends p₀ p₂ := hext₂.trans hext₃
  generalize hfill : (mmFillPageTable dirs.pd0Va 1 ptVa imagePa 7 p₂.memory).2 = mem at *
  rw [mmFillPageTable_eq _ _ _ _ (by decide)] at hfill
  have hagree : AgreeOutside (p₀.tablePointerHeapBase + 0x1000) FAT_ADDRESS p₂.memory mem := by
    rw [← hfill]
    apply ((storeLoop_agree _ ptVa 512 p₂.memory).mono _ _).trans
    · exact agreeOutside_update _ _ (by omega) (by unfold FAT_ADDRESS; omega)
    · omega
    · unfold FAT_ADDRESS
      omega
  have hextPdpt : Extends p₀ p₃ := (hextPd.write hagree).trans hext₄
  obtain rfl := hidentity _ _ _ hext₂ (by omega) hptPa
  obtain hpdPa := hidentity _ _ _ hextPd (by omega) hpdPa
  obtain hpdptPa := hidentity _ _ _ hextPdpt (by omega) hpdptPa
  have hpage : ∀ i < 512, p₃.memory (ptPa + 8 * i) = (imagePa + 4096 * i) ||| 7 := by
    intro i hi
    have hkept : p₃.memory (ptPa + 8 * i) = mem (ptPa + 8 * i) := by
      apply hext₄.agree
      left
      change ptPa + 8 * i < p₂.tablePointerHeapBase + 0x1000
      omega
    rw [hkept, ← hfill, Function.update_of_ne (by omega)]
    exact storeLoop_word (fun _ _ _ _ => rfl) hi
  rw [hpdPa, hpdptPa]
  change Extends p₀ (p₃.setMemory (installAll pml4Va dirs.pdpt0Va dirs.pd0Va ptPa p₃.memory)) ∧
    Maps (p₃.setMemory (installAll pml4Va dirs.pdpt0Va dirs.pd0Va ptPa p₃.memory)) pml4Va
      FLOWERTHREAD_BASE imagePa
  have hfat : FAT_ADDRESS = 0x30000 := rfl
  have hpdpt : tableBase (installAll pml4Va dirs.pdpt0Va dirs.pd0Va ptPa p₃.memory pml4Va) =
      dirs.pdpt0Va := by
    rw [installAll_pml4]
    exact tableBase_flags (by omega) (by omega) (by decide)
  have hpdBase : tableBase (installAll pml4Va dirs.pdpt0Va dirs.pd0Va ptPa p₃.memory
      dirs.pdpt0Va) = dirs.pd0Va := by
    rw [installAll_pdpt _ (by omega)]
    exact tableBase_flags (by omega) (by omega) (by decide)
  have hptBase : tableBase (installAll pml4Va dirs.pdpt0Va dirs.pd0Va ptPa p₃.memory
      (dirs.pd0Va + 8 * pdeIndex FLOWERTHREAD_BASE)) = ptPa := by
    have hindex : pdeIndex FLOWERTHREAD_BASE = 1 := by decide
    rw [hindex, Nat.mul_one, installAll_pd _ (by omega) (by omega)]
    exact tableBase_flags (by omega) (by omega) (by decide)
  have hold : ∀ table, table ≤ p₀.tablePointerHeapBase + 0x4000 →
      Old (p₃.setMemory (installAll pml4Va dirs.pdpt0Va dirs.pd0Va ptPa
        p₃.memory)).tablePointerHeapBase table := by
    intro table htable
    left
    change table ≤ p₃.tablePointerHeapBase
    change p₃.tablePointerHeapBase = p₂.tablePointerHeapBase + 0x1000 at hbase₄
    omega
  refine ⟨hextPdpt.write (installAll_agree _ (by omega) (by omega) (by omega)), dirs.pd0Va,
    ⟨by omega, hold _ (by omega), ?_, ?_, hold _ (by omega)⟩, ⟨by decide, by decide, ?_, ?_⟩⟩
  · change Old _ (tableBase (installAll pml4Va dirs.pdpt0Va dirs.pd0Va ptPa p₃.memory pml4Va))
    rw [hpdpt]
    exact hold _ (by omega)
  · change tableBase (installAll pml4Va dirs.pdpt0Va dirs.pd0Va ptPa p₃.memory (tableBase
      (installAll pml4Va dirs.pdpt0Va dirs.pd0Va ptPa p₃.memory pml4Va))) = dirs.pd0Va
    rw [hpdpt, hpdBase]
  · change Old _ (tableBase (installAll pml4Va dirs.pdpt0Va dirs.pd0Va ptPa p₃.memory
      (dirs.pd0Va + 8 * pdeIndex FLOWERTHREAD_BASE)))
    rw [hptBase]
    exact hold _ (by omega)
  · intro i hi
    change tableBase (installAll pml4Va dirs.pdpt0Va dirs.pd0Va ptPa p₃.memory (tableBase
      (installAll pml4Va dirs.pdpt0Va dirs.pd0Va ptPa p₃.memory
        (dirs.pd0Va + 8 * pdeIndex FLOWERTHREAD_BASE)) + 8 * i)) = imagePa + 4096 * i
    rw [hptBase, installAll_other _ (by omega) (by omega) (by omega), hpage i hi]
    exact tableBase_flags (by omega) (by omega) (by decide)

/-- The physical addresses of the regions of 2 MB that the page tables from `0x8A000` on map: the
first one, the one of the user image, the pool of pages and the extra heaps 2 and 3. -/
def bootRegion : Nat → Nat
  | 0 => 0
  | 1 => 0x00200000
  | 2 => 0x01800000
  | 3 => 0x01400000
  | _ => 0x01600000

def bootDirectory : Nat → Nat
  | 0 => 0x8A000
  | 1 => 0x8B000
  | 0x183 => 0x8C000
  | 0x186 => 0x8D000
  | 0x187 => 0x8E000
  | _ => 0

/-- The memory after the boot: the kernel's tables, and at `0x2000` those of the first process,
which has the kernel's directories. -/
def bootMemory : Memory := fun a =>
  if a = KERNEL_PML4_PA ∨ a = 0x2000 then KERNEL_PDPT_PA ||| 7
  else if a = KERNEL_PDPT_PA then KERNEL_PD_PA ||| 7
  else if KERNEL_PD_PA ≤ a ∧ a < KERNEL_PDPT_PA then bootDirectory ((a - KERNEL_PD_PA) / 8) ||| 7
  else if 0x8A000 ≤ a ∧ a < 0x8F000 then
    (bootRegion ((a - 0x8A000) / 0x1000) + 4096 * (a % 0x1000 / 8)) ||| 7
  else 0

def bootPaging : Paging where
  memory := bootMemory
  tablePointerHeapBase := 0x2000
  aligned := rfl

theorem bootPaging_leadsTo (h : pml4Va = KERNEL_PML4_PA ∨ pml4Va = 0x2000) :
    LeadsTo bootPaging pml4Va KERNEL_PD_PA := by
  rcases h with rfl | rfl
  · exact ⟨by decide, .inr (by decide), .inr (by decide), by decide, .inr (by decide)⟩
  · exact ⟨by decide, .inl (by decide), .inr (by decide), by decide, .inr (by decide)⟩

theorem bootMemory_page (hk : k < 5) (hi : i < 512) :
    bootMemory (0x8A000 + 0x1000 * k + 8 * i) = (bootRegion k + 4096 * i) ||| 7 := by
  have hpml4 : KERNEL_PML4_PA = 0x9C000 := rfl
  have hpdpt : KERNEL_PDPT_PA = 0x9B000 := rfl
  have hpd : KERNEL_PD_PA = 0x9A000 := rfl
  have hregion : (0x8A000 + 0x1000 * k + 8 * i - 0x8A000) / 0x1000 = k := by omega
  have hpage : (0x8A000 + 0x1000 * k + 8 * i) % 0x1000 / 8 = i := by omega
  rw [bootMemory, if_neg (by omega), if_neg (by omega), if_neg (by omega), if_pos (by omega),
    hregion, hpage]

theorem bootPaging_maps (h : pml4Va = KERNEL_PML4_PA ∨ pml4Va = 0x2000) (hva : va < 2 ^ 30)
    (haligned : va % 2 ^ 21 = 0) (hk : k < 5)
    (htable : tableBase (bootMemory (KERNEL_PD_PA + 8 * pdeIndex va)) = 0x8A000 + 0x1000 * k) :
    Maps bootPaging pml4Va va (bootRegion k) := by
  refine ⟨KERNEL_PD_PA, bootPaging_leadsTo h, ⟨hva, haligned, ?_, ?_⟩⟩
  · change Old _ (tableBase (bootMemory (KERNEL_PD_PA + 8 * pdeIndex va)))
    rw [htable]
    right
    have hfat : FAT_ADDRESS = 0x30000 := rfl
    omega
  · intro i hi
    change tableBase (bootMemory (tableBase (bootMemory (KERNEL_PD_PA + 8 * pdeIndex va)) +
      8 * i)) = bootRegion k + 4096 * i
    have hregion : bootRegion k < 2 ^ 25 ∧ bootRegion k % 4096 = 0 := by
      unfold bootRegion
      split <;> decide
    rw [htable, bootMemory_page hk hi]
    exact tableBase_flags (by omega) (by omega) (by decide)

end Gramado.Mm.PageTables
