import Gramado.Library.ByteMemory
import Gramado.Mm.PageTables
import Mathlib.Data.List.Range
import Mathlib.Tactic.IntervalCases

/-! `acpi_probe`: the search for the root of the ACPI tables, and what is read of them. -/

namespace Gramado.Hal.AcpiProbe

open Library.ByteMemory
open Mm.PageTables (FAT_ADDRESS tableBase)

def BDA_BASE : Nat := 0x40E
def RSDT_VA : Nat := 0x31800000
def XSDT_VA : Nat := 0x31800000

/-- What the kernel reads at its addresses, and the variables that live on from call to call. -/
structure Machine where
  memory : Memory
  physical : Memory
  table_pointer_heap_base : Nat
  Found : Bool
  xsdt : Nat

inductive Outcome where
  | returned (status : Bool)
  | panic (message : String)
  deriving DecidableEq, Repr

def Holds (m : Memory) : List UInt8 → Nat → Prop
  | [], _ => True
  | c :: text, a => m a = c ∧ Holds m text (a + 1)

instance instDecidableHolds (m : Memory) : ∀ text a, Decidable (Holds m text a)
  | [], _ => inferInstanceAs (Decidable True)
  | _ :: text, a =>
      have := instDecidableHolds m text (a + 1)
      inferInstanceAs (Decidable (_ ∧ _))

def RSD_PTR : List UInt8 := [82, 83, 68, 32, 80, 84, 82, 32]

def FACP : List UInt8 := [70, 65, 67, 80]

/-- One of the two loops from the index `i` on, with so many left: the addresses that it reads,
and the index at which it breaks. -/
def scan (m : Memory) (p : Nat) : Nat → Nat → List Nat × Option Nat
  | 0, _ => ([], none)
  | left + 1, i =>
      let read := List.range' (p + i) 8
      if Holds m RSD_PTR (p + i) then (read, some i)
      else
        let (reads, index) := scan m p left (i + 1)
        (read ++ reads, index)

def ebda_address (m : Memory) : Nat := load m BDA_BASE 2 * 16

def search (m : Machine) : List Nat × Option Nat :=
  let max := ebda_address m.memory + 0x10000
  let (reads, index) := scan m.memory (ebda_address m.memory) max 0
  if m.Found = true ∨ index.isSome = true then (reads, some (index.getD max))
  else
    let (reads', index) := scan m.memory 0xE0000 0x100000 0
    (reads ++ reads', index)

/-- The 2 MB around the virtual address read as the pages of the region. The low bits of the
physical address and the flags `0x1B` share the bits of an entry. -/
def mapped (m : Machine) (pa va : Nat) : Memory := fun a =>
  if a / 2 ^ 21 = va / 2 ^ 21 then
    m.physical (tableBase ((pa + 4096 * (a / 4096 % 512)) ||| 0x1B) + a % 4096)
  else m.memory a

/-- The page table that the next mapping takes is below the limit of their pool. -/
def HasTable (m : Machine) : Prop := m.table_pointer_heap_base + 0x1000 < FAT_ADDRESS

instance (m : Machine) : Decidable (HasTable m) := inferInstanceAs (Decidable (_ < _))

def mm_map_2mb_region (m : Machine) (pa va : Nat) : Except String Machine :=
  if HasTable m then
    .ok { m with
      table_pointer_heap_base := m.table_pointer_heap_base + 0x1000
      memory := mapped m pa va }
  else .error "get_table_pointer_va: [FIXME] Limits\n"

/-- The table at an address from the root, and whether its first character is one of these. -/
def table (m : Machine) (pa va : Nat) (initials : List UInt8) : Except String (Bool × Machine) :=
  if pa = 0 then .error "acpi.c: address_pa\n"
  else
    match mm_map_2mb_region m pa va with
    | .error message => .error message
    | .ok m => .ok (decide (m.memory va ∈ initials), m)

def Revision (m : Memory) (root : Nat) : UInt8 := m (root + 15)
def RsdtAddress (m : Memory) (root : Nat) : Nat := load m (root + 16) 4
def XsdtAddress (m : Memory) (root : Nat) : Nat := load m (root + 24) 8

def acpi_rsdp (m : Machine) (root : Nat) : Except String (Bool × Machine) :=
  if Revision m.memory root = 2 then
    (table m (XsdtAddress m.memory root) XSDT_VA [88, 82]).map fun (status, m) =>
      (status, { m with xsdt := XSDT_VA })
  else if Revision m.memory root = 0 then
    table m (RsdtAddress m.memory root) RSDT_VA [82]
  else .ok (false, m)

def brute_force_probe_fadt (m : Memory) (base_address : Nat) : Option Nat :=
  ((List.range 256).map fun i => base_address + 16 * i).find? fun a => decide (Holds m FACP a)

/-- What a call of `acpi_probe` does: the addresses that the search reads, what is passed to
`__acpi_rsdp`, the result of the search for the FADT, if there is one, and the addresses that are
read through it. -/
structure Probe where
  searched : List Nat
  passed : Option Nat
  fadt : Option (Option Nat)
  through : List Nat
  outcome : Outcome
  deriving DecidableEq

def probeTables (m : Machine) (searched : List Nat) (root : Nat) : Probe :=
  match acpi_rsdp m root with
  | .error message => ⟨searched, some root, none, [], .panic message⟩
  | .ok (false, _) => ⟨searched, some root, none, [], .returned false⟩
  | .ok (true, m) =>
      let fadt := brute_force_probe_fadt m.memory m.xsdt
      ⟨searched, some root, some fadt, List.range' (fadt.getD 0) 4, .returned true⟩

def acpi_probe (m : Machine) : Probe :=
  match search m with
  | (searched, none) => ⟨searched, none, none, [], .returned false⟩
  | (searched, some i) => probeTables m searched (ebda_address m.memory + i)

def firstPlace (m : Memory) (start count : Nat) : Option Nat :=
  (List.range' start count).find? fun a => decide (Holds m RSD_PTR a)

def root (m : Memory) : Option Nat :=
  (firstPlace m (ebda_address m) 0x10000).or (firstPlace m 0xE0000 0x20000)

def InAreas (ebda a : Nat) : Prop :=
  (ebda ≤ a ∧ a < ebda + 0x10000 + 7) ∨ (0xE0000 ≤ a ∧ a < 0x100000 + 7)

structure Right (m : Machine) (probe : Probe) : Prop where
  passed : probe.passed = root m.memory
  refused : root m.memory = none → probe.outcome = .returned false
  inside : ∀ a ∈ probe.searched, InAreas (ebda_address m.memory) a
  through : probe.fadt = some none → probe.through = []

/-- The string is in the first area, or the first area reaches up to the second one and no place
in front of it has the string. -/
def Reached (m : Memory) (ebda : Nat) : Prop :=
  (∃ a, ebda ≤ a ∧ a < ebda + 0x10000 ∧ Holds m RSD_PTR a) ∨
    0xD0000 ≤ ebda ∧ (∃ a, ebda ≤ a ∧ 0xE0000 ≤ a ∧ a < 0x100000 ∧ Holds m RSD_PTR a) ∧
      ∀ a, 0xE0000 ≤ a → a < ebda → ¬ Holds m RSD_PTR a

def HasFadt (m : Memory) (base : Nat) : Prop :=
  ∃ i < 256, Holds m FACP (base + 16 * i)

/-- If the table at an address from the root is accepted, there is a FADT behind the address at
which it is searched for. -/
def FadtBehind (m : Machine) (pa va : Nat) (initials : List UInt8) (base : Nat) : Prop :=
  pa ≠ 0 → HasTable m → mapped m pa va va ∈ initials → HasFadt (mapped m pa va) base

/-- With the revision 0 the FADT is searched for at the pointer to the other table. -/
structure FadtThere (m : Machine) (root : Nat) : Prop where
  revision2 : Revision m.memory root = 2 →
    FadtBehind m (XsdtAddress m.memory root) XSDT_VA [88, 82] XSDT_VA
  revision0 : Revision m.memory root = 0 →
    FadtBehind m (RsdtAddress m.memory root) RSDT_VA [82] m.xsdt

variable {m : Machine}

section Search

variable {m : Memory} {p left i : Nat}

theorem scan_some {j : Nat} (h : (scan m p left i).2 = some j) :
    (i ≤ j ∧ j < i + left) ∧ Holds m RSD_PTR (p + j) ∧
      (∀ a, p + i ≤ a → a < p + j → ¬ Holds m RSD_PTR a) ∧
        ∀ a, a ∈ (scan m p left i).1 ↔ p + i ≤ a ∧ a < p + j + 8 := by
  induction left generalizing i with
  | zero => cases h
  | succ left ih =>
      by_cases hhere : Holds m RSD_PTR (p + i)
      · rw [scan, if_pos hhere] at h ⊢
        obtain rfl : i = j := Option.some.inj h
        refine ⟨by omega, hhere, fun a ha halt => by omega, fun a => ?_⟩
        simp [List.mem_range'_1]
      · rw [scan, if_neg hhere] at h ⊢
        obtain ⟨hrange, hholds, hbefore, hreads⟩ := ih h
        refine ⟨by omega, hholds, fun a ha halt => ?_, fun a => ?_⟩
        · rcases Nat.eq_or_lt_of_le ha with rfl | ha
          · exact hhere
          · exact hbefore a ha halt
        · simp only [List.mem_append, List.mem_range'_1, hreads]
          omega

theorem scan_none (h : (scan m p left i).2 = none) :
    (∀ a, p + i ≤ a → a < p + i + left → ¬ Holds m RSD_PTR a) ∧
      ∀ a, a ∈ (scan m p left i).1 ↔ 0 < left ∧ p + i ≤ a ∧ a < p + i + left + 7 := by
  induction left generalizing i with
  | zero => exact ⟨fun a ha halt => by omega, fun a => by simp [scan]⟩
  | succ left ih =>
      by_cases hhere : Holds m RSD_PTR (p + i)
      · rw [scan, if_pos hhere] at h
        cases h
      · rw [scan, if_neg hhere] at h ⊢
        obtain ⟨hbefore, hreads⟩ := ih h
        refine ⟨fun a ha halt => ?_, fun a => ?_⟩
        · rcases Nat.eq_or_lt_of_le ha with rfl | ha
          · exact hhere
          · exact hbefore a ha (by omega)
        · simp only [List.mem_append, List.mem_range'_1, hreads]
          omega

end Search

def Without (m : Memory) (start stop : Nat) : Prop :=
  ∀ a, start ≤ a → a < stop → ¬ Holds m RSD_PTR a

section Places

variable {m : Memory} {start count r : Nat}

theorem firstPlace_eq_some : firstPlace m start count = some r ↔
      (start ≤ r ∧ r < start + count) ∧ Holds m RSD_PTR r ∧ Without m start r := by
  rw [firstPlace, List.find?_range'_eq_some, List.mem_range'_1]
  simp only [decide_eq_true_eq, Bool.not_eq_true', decide_eq_false_iff_not, Without]
  tauto

theorem firstPlace_eq_none : firstPlace m start count = none ↔ Without m start (start + count) := by
  rw [firstPlace, List.find?_range'_eq_none]
  simp only [Bool.not_eq_true', decide_eq_false_iff_not, Without]

theorem root_eq_some : root m = some r ↔
      ((ebda_address m ≤ r ∧ r < ebda_address m + 0x10000) ∧ Holds m RSD_PTR r ∧
          Without m (ebda_address m) r) ∨
        Without m (ebda_address m) (ebda_address m + 0x10000) ∧
          (0xE0000 ≤ r ∧ r < 0x100000) ∧ Holds m RSD_PTR r ∧ Without m 0xE0000 r := by
  rw [root, Option.or_eq_some_iff, firstPlace_eq_some, firstPlace_eq_none, firstPlace_eq_some]

theorem ebda_le (m : Memory) : ebda_address m ≤ 0xFFFF0 ∧ ebda_address m % 16 = 0 := by
  have := load_lt m BDA_BASE 2
  rw [ebda_address]
  omega

end Places

/-- How the two loops end, from the base of the first one. -/
inductive Searched (m : Machine) (ebda : Nat) : Prop where
  /-- The first loop breaks. -/
  | first (j : Nat) (hlt : j < ebda + 0x10000) (hholds : Holds m.memory RSD_PTR (ebda + j))
      (hbefore : Without m.memory ebda (ebda + j)) (hindex : (search m).2 = some j)
      (hreads : ∀ a, a ∈ (search m).1 ↔ ebda ≤ a ∧ a < ebda + j + 8)
  /-- It runs to its end, and an earlier call has set the flag. -/
  | again (hfound : m.Found = true) (hwithout : Without m.memory ebda (2 * ebda + 0x10000))
      (hindex : (search m).2 = some (ebda + 0x10000))
      (hreads : ∀ a, a ∈ (search m).1 ↔ ebda ≤ a ∧ a < 2 * ebda + 0x10007)
  /-- The second loop breaks. -/
  | second (j : Nat) (hwithout : Without m.memory ebda (2 * ebda + 0x10000))
      (hholds : Holds m.memory RSD_PTR (0xE0000 + j))
      (hbefore : Without m.memory 0xE0000 (0xE0000 + j)) (hindex : (search m).2 = some j)
      (hreads : ∀ a, ebda ≤ a → a < 2 * ebda + 0x10007 → a ∈ (search m).1)
  /-- Both run to their ends. -/
  | neither (hwithout : Without m.memory ebda (2 * ebda + 0x10000))
      (hwithout' : Without m.memory 0xE0000 0x1E0000)
      (hindex : (search m).2 = none) (hread : 0x1E0006 ∈ (search m).1)

theorem searched (m : Machine) : Searched m (ebda_address m.memory) := by
  generalize hebda : ebda_address m.memory = ebda
  generalize hfirst : scan m.memory ebda (ebda + 0x10000) 0 = first
  obtain ⟨reads, index⟩ := first
  cases index with
  | some j =>
      have hsearch : search m = (reads, some j) := by simp [search, hebda, hfirst]
      obtain ⟨hrange, hholds, hbefore, hreads⟩ := scan_some (congrArg Prod.snd hfirst)
      simp only [hfirst] at hreads
      exact .first j (by omega) hholds hbefore (by rw [hsearch]) (by rw [hsearch]; exact hreads)
  | none =>
      obtain ⟨hbefore, hreads⟩ := scan_none (congrArg Prod.snd hfirst)
      have hwithout : Without m.memory ebda (2 * ebda + 0x10000) := by
        intro a ha halt
        rw [Nat.two_mul, Nat.add_assoc] at halt
        exact hbefore a ha (by rwa [Nat.add_zero])
      simp only [hfirst] at hreads
      by_cases hfound : m.Found = true
      · have hsearch : search m = (reads, some (ebda + 0x10000)) := by
          simp [search, hebda, hfirst, hfound]
        refine .again hfound hwithout (by rw [hsearch]) fun a => ?_
        rw [hsearch, hreads]
        omega
      · generalize hsecond : scan m.memory 0xE0000 0x100000 0 = second
        obtain ⟨reads', index⟩ := second
        have hsearch : search m = (reads ++ reads', index) := by
          simp [search, hebda, hfirst, hfound, hsecond]
        cases index with
        | some j =>
            obtain ⟨-, hholds', hbefore', -⟩ := scan_some (congrArg Prod.snd hsecond)
            refine .second j hwithout hholds' hbefore' (by rw [hsearch]) fun a ha halt => ?_
            rw [hsearch]
            exact List.mem_append_left _ ((hreads a).2 (by omega))
        | none =>
            obtain ⟨hbefore', hreads'⟩ := scan_none (congrArg Prod.snd hsecond)
            rw [hsecond] at hreads'
            have hread := (hreads' 0x1E0006).2 (by simp)
            refine .neither hwithout hbefore' (by rw [hsearch]) ?_
            rw [hsearch]
            exact List.mem_append_right _ hread

def SearchRight (m : Machine) : Prop :=
  (search m).2.map (ebda_address m.memory + ·) = root m.memory ∧
    ∀ a ∈ (search m).1, InAreas (ebda_address m.memory) a

theorem searchRight_of_reached (h : Reached m.memory (ebda_address m.memory)) : SearchRight m := by
  obtain ⟨hle, -⟩ := ebda_le m.memory
  have hplace : ¬ Without m.memory (ebda_address m.memory)
      (2 * ebda_address m.memory + 0x10000) := by
    intro hwithout
    rcases h with ⟨a, ha, halt, hholds⟩ | ⟨hebda, ⟨a, ha, -, halt, hholds⟩, -⟩
    · exact hwithout a ha (by omega) hholds
    · exact hwithout a ha (by omega) hholds
  rcases searched m with ⟨j, -, hholds, hbefore, hindex, hreads⟩ | ⟨-, hwithout, -, -⟩ |
    ⟨-, hwithout, -, -, -, -⟩ | ⟨hwithout, -, -, -⟩
  · rw [SearchRight, hindex, Option.map_some, eq_comm, root_eq_some]
    by_cases hj : j < 0x10000
    · refine ⟨.inl ⟨by omega, hholds, hbefore⟩, fun a ha => .inl ?_⟩
      have := (hreads a).1 ha
      omega
    · -- The first loop has run on into the second area.
      rcases h with ⟨a, ha, halt, hthere⟩ | ⟨hebda, ⟨a, ha, -, halt, hthere⟩, hfront⟩
      · exact absurd hthere (hbefore a ha (by omega))
      · have hja : ebda_address m.memory + j ≤ a := by
          apply Nat.le_of_not_lt
          intro hlt
          exact hbefore a ha hlt hthere
        refine ⟨.inr ⟨fun l hl hlt => hbefore l hl (by omega), by omega, hholds,
          fun l hl hlt => ?_⟩, fun l hl => ?_⟩
        · rcases Nat.lt_or_ge l (ebda_address m.memory) with hl' | hl'
          · exact hfront l hl hl'
          · exact hbefore l hl' hlt
        · have := (hreads l).1 hl
          rw [InAreas]
          omega
  all_goals exact absurd hwithout hplace

theorem ebda_of_inside {m : Memory} {reads : List Nat}
    (hinside : ∀ a ∈ reads, InAreas (ebda_address m) a)
    (hread : ebda_address m + 0x10007 ∈ reads) : 0xD0000 ≤ ebda_address m := by
  obtain ⟨hle, hmod⟩ := ebda_le m
  have := hinside _ hread
  rw [InAreas] at this
  omega

theorem reached_of_searchRight (h : SearchRight m) : Reached m.memory (ebda_address m.memory) := by
  obtain ⟨hroot, hinside⟩ := h
  obtain ⟨hle, -⟩ := ebda_le m.memory
  rcases searched m with ⟨j, -, hholds, hbefore, hindex, hreads⟩ | ⟨-, hwithout, hindex, hreads⟩ |
    ⟨j, hwithout, hholds, hbefore, hindex, hreads⟩ | ⟨-, -, hindex, hread⟩
  · rw [hindex, Option.map_some, eq_comm, root_eq_some] at hroot
    rcases hroot with ⟨hrange, -, -⟩ | ⟨hnone, hrange, -, hfront⟩
    · exact .inl ⟨_, hrange.1, hrange.2, hholds⟩
    · have hj : 0x10000 ≤ j := by
        apply Nat.le_of_not_lt
        intro hlt
        exact hnone _ (by omega) (by omega) hholds
      have hebda := ebda_of_inside hinside ((hreads _).2 (by omega))
      refine .inr ⟨hebda, ⟨_, by omega, hrange.1, hrange.2, hholds⟩, fun a ha halt => ?_⟩
      exact hfront a ha (by omega)
  · rw [hindex, Option.map_some, eq_comm, root_eq_some] at hroot
    rcases hroot with ⟨hrange, hholds, -⟩ | ⟨-, hrange, -, -⟩
    · exact absurd hrange.2 (by omega)
    · rcases Nat.eq_zero_or_pos (ebda_address m.memory) with hzero | hpos
      · omega
      · have := ebda_of_inside hinside ((hreads _).2 (by omega))
        omega
  · rw [hindex, Option.map_some, eq_comm, root_eq_some] at hroot
    rcases hroot with ⟨hrange, hthere, -⟩ | ⟨-, hrange, hthere, hfront⟩
    · exact absurd hthere (hwithout _ (by omega) (by omega))
    · rcases Nat.eq_zero_or_pos (ebda_address m.memory) with hzero | hpos
      · -- The index that is passed as an address is a place, and the loop would have met it.
        exact absurd hthere (hbefore _ hrange.1 (by omega))
      · have hebda := ebda_of_inside hinside (hreads _ (by omega) (by omega))
        exact absurd hthere (hwithout _ (by omega) (by omega))
  · have := hinside _ hread
    rw [InAreas] at this
    omega

theorem searchRight_iff (m : Machine) : SearchRight m ↔ Reached m.memory (ebda_address m.memory) :=
  ⟨reached_of_searchRight, searchRight_of_reached⟩

section Tables

variable {m m' : Machine} {pa va : Nat} {initials : List UInt8}

theorem table_eq_true : table m pa va initials = .ok (true, m') ↔
      pa ≠ 0 ∧ HasTable m ∧ mapped m pa va va ∈ initials ∧ m' = { m with
          table_pointer_heap_base := m.table_pointer_heap_base + 0x1000
          memory := mapped m pa va } := by
  by_cases hpa : pa = 0
  · simp [table, hpa]
  · by_cases hroom : HasTable m
    · simp [table, hpa, mm_map_2mb_region, hroom, eq_comm]
    · simp [table, hpa, mm_map_2mb_region, hroom]

theorem fadtBehind_iff {base : Nat} :
    (∀ m', table m pa va initials = .ok (true, m') → HasFadt m'.memory base) ↔
      FadtBehind m pa va initials base := by
  simp only [table_eq_true, FadtBehind]
  constructor
  · intro h hpa hroom hinitial
    exact h _ ⟨hpa, hroom, hinitial, rfl⟩
  · rintro h m' ⟨hpa, hroom, hinitial, rfl⟩
    exact h hpa hroom hinitial

theorem acpi_rsdp_iff (m : Machine) (root : Nat) :
    (∀ m', acpi_rsdp m root = .ok (true, m') → HasFadt m'.memory m'.xsdt) ↔ FadtThere m root := by
  by_cases htwo : Revision m.memory root = 2
  · have hzero : Revision m.memory root ≠ 0 := by simp [htwo]
    have hbehind : FadtThere m root ↔
        FadtBehind m (XsdtAddress m.memory root) XSDT_VA [88, 82] XSDT_VA :=
      ⟨fun h => h.revision2 htwo, fun h => ⟨fun _ => h, fun h0 => absurd h0 hzero⟩⟩
    rw [hbehind, ← fadtBehind_iff, acpi_rsdp, if_pos htwo]
    rcases table m (XsdtAddress m.memory root) XSDT_VA [88, 82] with message | ⟨status, m'⟩
    · simp [Except.map]
    · simp only [Except.map, Except.ok.injEq, Prod.mk.injEq]
      constructor
      · rintro h m'' ⟨hstatus, rfl⟩
        exact h _ ⟨hstatus, rfl⟩
      · rintro h m'' ⟨hstatus, rfl⟩
        exact h m' ⟨hstatus, rfl⟩
  · by_cases hzero : Revision m.memory root = 0
    · have hbehind : FadtThere m root ↔
          FadtBehind m (RsdtAddress m.memory root) RSDT_VA [82] m.xsdt :=
        ⟨fun h => h.revision0 hzero, fun h => ⟨fun h2 => absurd h2 htwo, fun _ => h⟩⟩
      rw [hbehind, ← fadtBehind_iff, acpi_rsdp, if_neg htwo, if_pos hzero]
      refine forall_congr' fun m' => imp_congr_right fun htable => ?_
      obtain ⟨-, -, -, rfl⟩ := table_eq_true.1 htable
      exact Iff.rfl
    · rw [acpi_rsdp, if_neg htwo, if_neg hzero]
      refine ⟨fun _ => ⟨fun h2 => absurd h2 htwo, fun h0 => absurd h0 hzero⟩, ?_⟩
      intro _ m' h
      simp at h

theorem brute_force_probe_fadt_eq_none {m : Memory} {base_address : Nat} :
    brute_force_probe_fadt m base_address = none ↔ ¬ HasFadt m base_address := by
  simp [brute_force_probe_fadt, HasFadt]

theorem probeTables_through (m : Machine) (searched : List Nat) (root : Nat) :
    ((probeTables m searched root).fadt = some none → (probeTables m searched root).through = []) ↔
      FadtThere m root := by
  rw [← acpi_rsdp_iff, probeTables]
  rcases acpi_rsdp m root with message | ⟨_ | _, m'⟩
  · simp
  · simp
  · simp only [Option.some.injEq, brute_force_probe_fadt_eq_none, Except.ok.injEq, Prod.mk.injEq,
      true_and, forall_eq']
    constructor
    · intro h
      by_contra hnone
      simpa using h hnone
    · intro h hnone
      exact absurd h hnone

theorem probeTables_searched (m : Machine) (searched : List Nat) (root : Nat) :
    (probeTables m searched root).searched = searched ∧
      (probeTables m searched root).passed = some root := by
  rw [probeTables]
  rcases acpi_rsdp m root with message | ⟨_ | _, m'⟩ <;> simp

end Tables

theorem acpi_probe_right (m : Machine) : Right m (acpi_probe m) ↔ SearchRight m ∧
        ∀ i, (search m).2 = some i → FadtThere m (ebda_address m.memory + i) := by
  rw [acpi_probe, SearchRight]
  rcases search m with ⟨reads, _ | i⟩
  · constructor
    · intro h
      exact ⟨⟨h.passed, h.inside⟩, by simp⟩
    · rintro ⟨⟨hpassed, hinside⟩, -⟩
      exact ⟨hpassed, fun _ => rfl, hinside, by simp⟩
  · obtain ⟨hsearched, hpassed⟩ := probeTables_searched m reads (ebda_address m.memory + i)
    have hthrough := probeTables_through m reads (ebda_address m.memory + i)
    dsimp only
    constructor
    · intro h
      have hinside := h.inside
      rw [hsearched] at hinside
      refine ⟨⟨hpassed.symm.trans h.passed, hinside⟩, ?_⟩
      rintro _ ⟨rfl⟩
      exact hthrough.1 h.through
    · rintro ⟨⟨hroot, hinside⟩, hthere⟩
      rw [← hsearched] at hinside
      refine ⟨hpassed.trans hroot, fun hnone => ?_, hinside, hthrough.2 (hthere i rfl)⟩
      rw [hnone] at hroot
      cases hroot

theorem acpi_probe_iff (m : Machine) :
    Right m (acpi_probe m) ↔
      Reached m.memory (ebda_address m.memory) ∧
        ∀ r, root m.memory = some r → FadtThere m r := by
  rw [acpi_probe_right, ← searchRight_iff]
  refine and_congr_right fun hsearch => ?_
  simp [← hsearch.1]

def standard : Machine where
  memory a := if 0xF0000 ≤ a then RSD_PTR.getD (a - 0xF0000) 0 else 0
  physical _ := 0
  table_pointer_heap_base := 0
  Found := false
  xsdt := 0

theorem holds_standard {a : Nat} : Holds standard.memory RSD_PTR a ↔ a = 0xF0000 := by
  constructor
  · rintro ⟨hR, hS, -⟩
    rw [standard] at hR hS
    dsimp only at hR hS
    by_cases hlow : 0xF0000 ≤ a
    · obtain ⟨i, rfl⟩ := Nat.exists_eq_add_of_le hlow
      rw [if_pos hlow, Nat.add_sub_cancel_left] at hR
      rw [if_pos (by omega), Nat.add_assoc, Nat.add_sub_cancel_left] at hS
      have hi : i < 8 := by
        apply Nat.lt_of_not_le
        intro hle
        rw [List.getD_eq_getElem?_getD, List.getElem?_eq_none hle] at hR
        cases hR
      interval_cases i <;> simp [RSD_PTR] at hR hS ⊢
    · rw [if_neg hlow] at hR
      cases hR
  · rintro rfl
    simp [Holds, RSD_PTR, standard]

/-- The index of the second loop is added to the base of the first one. -/
theorem acpi_probe_standard :
    root standard.memory = some 0xF0000 ∧ (acpi_probe standard).passed = some 0x10000 ∧
      ¬ Right standard (acpi_probe standard) := by
  have hebda : ebda_address standard.memory = 0 := by simp [ebda_address, load, standard, BDA_BASE]
  have hroot : root standard.memory = some 0xF0000 := by
    rw [root_eq_some, hebda]
    refine .inr ⟨fun a _ ha hholds => ?_, by omega, holds_standard.2 rfl, fun a _ ha hholds => ?_⟩
    · have := holds_standard.1 hholds
      omega
    · have := holds_standard.1 hholds
      omega
  have hindex : (search standard).2 = some 0x10000 := by
    have hsearched := searched standard
    rw [hebda] at hsearched
    rcases hsearched with ⟨j, hlt, hholds, -, -, -⟩ | ⟨hfound, -, -, -⟩ |
      ⟨j, -, hholds, -, hindex, -⟩ | ⟨-, hwithout, -, -⟩
    · have := holds_standard.1 hholds
      omega
    · cases hfound
    · have := holds_standard.1 hholds
      rw [hindex, Option.some.injEq]
      omega
    · exact absurd (holds_standard.2 rfl) (hwithout 0xF0000 (by omega) (by omega))
  have hpassed : (acpi_probe standard).passed = some 0x10000 := by
    rw [acpi_probe]
    generalize search standard = found at hindex
    obtain ⟨reads, index⟩ := found
    obtain rfl : index = some 0x10000 := hindex
    dsimp only
    rw [(probeTables_searched _ _ _).2, hebda]
  refine ⟨hroot, hpassed, fun h => ?_⟩
  have := h.passed
  rw [hroot, hpassed, Option.some.injEq] at this
  omega

end Gramado.Hal.AcpiProbe
