import Gramado.Library.Run
import Mathlib.Data.List.Nodup
import Mathlib.Data.List.Range

/-! The pool of pages: `pageAllocList` and the routines that take pages out of it. -/

namespace Gramado.Mm.PagePool

open Library.Run

def PAGE_COUNT_MAX : Nat := 512
def PAGE_SIZE : Nat := 4096

/-- `page_d`. -/
structure Page where
  id : Nat
  used : Bool
  magic : Int
  deriving DecidableEq, Repr

def newPage (id : Nat) : Page := ⟨id, true, 1234⟩

structure Pool where
  pagedpoolVa : Nat
  pageAllocList : Nat → Option Page
  virtualToPhysical : Nat → Nat

/-- Where the pointer `pageConductor` of `allocPages` points, which nobody initialises: the store
through it goes to memory apart from the table, it faults, or it hits a slot of the table. -/
inductive Conductor where
  | elsewhere
  | fault
  | slot (i : Nat)
  deriving DecidableEq, Repr

/-- `initializeFramesAlloc`, which occupies the first slot. -/
def initializeFramesAlloc (va : Nat) (virtualToPhysical : Nat → Nat) : Pool where
  pagedpoolVa := va
  pageAllocList slot := if slot = 0 then some (newPage 0) else none
  virtualToPhysical := virtualToPhysical

def Pool.store (pool : Pool) (slot : Nat) (page : Page) : Pool :=
  { pool with pageAllocList := Function.update pool.pageAllocList slot (some page) }

def emptySlot (pool : Pool) : Option Nat :=
  (List.range PAGE_COUNT_MAX).find? fun slot => (pool.pageAllocList slot).isNone

/-- `__pageObject`. Here and below `kmalloc` says whether the allocation of a page object
succeeds, counted from the begin of the call. -/
def pageObject (pool : Pool) (kmalloc : Nat → Bool) : Option (Page × Pool) :=
  match emptySlot pool with
  | none => none
  | some slot =>
      if kmalloc 0 = false then none else some (newPage slot, pool.store slot (newPage slot))

def mmNewPage (pool : Pool) (kmalloc : Nat → Bool) : Except String (Nat × Pool) :=
  if pool.pagedpoolVa = 0 then .error "mmNewPage: base\n"
  else
    match pageObject pool kmalloc with
    | none => .error "mmNewPage: New\n"
    | some (page, pool) =>
        if page.used = false then .error "mmNewPage: New used\n"
        else if page.magic ≠ 1234 then .error "mmNewPage: New magic\n"
        else if PAGE_COUNT_MAX ≤ page.id then .error "mmNewPage: id overflow\n"
        else
          let va := pool.pagedpoolVa + page.id * PAGE_SIZE
          if va = 0 then .error "mmNewPage: va==0\n"
          else if pool.virtualToPhysical va = 0 then .error "mmNewPage: pa==0\n"
          else .ok (va, pool)

/-- The loop of `__firstSlotForAList` from the slot `i` on: the slots from `base` on are free,
`count` of them, and an occupied slot moves the base behind it. -/
def firstSlotLoop (list : Nat → Option Page) (size : Int) : Nat → Nat → Nat → Nat → Option Nat
  | 0, _, _, _ => none
  | k + 1, i, base, count =>
      if (list i).isSome then
        let base := base + count + 1
        firstSlotLoop list size k base base 0
      else
        let count := count + 1
        if size ≤ count then some base else firstSlotLoop list size k (i + 1) base count

def firstSlotForAList (pool : Pool) (size : Int) : Option Nat :=
  firstSlotLoop pool.pageAllocList size PAGE_COUNT_MAX 0 0 0

/-- The store `pageConductor->next = p` of the first turn. -/
def storeConductor (pool : Pool) (page : Page) : Conductor → Except String Pool
  | .elsewhere => .ok pool
  | .fault => .error "page fault"
  | .slot i => .ok (pool.store i page)

/-- The loop of `allocPages` from `slot` on, with `k` slots up to `TargetSize`. -/
def allocLoop (kmalloc : Nat → Bool) (conductor : Conductor) (size : Int) (first : Nat) :
    Nat → Nat → Nat → Pool → Except String (Nat × Pool)
  | 0, _, _, _ => .error "allocPages: fail\n"
  | k + 1, slot, count, pool =>
      if (pool.pageAllocList slot).isSome then
        allocLoop kmalloc conductor size first k (slot + 1) count pool
      else if kmalloc count = false then .error "allocPages: fail 2\n"
      else
        let pool := pool.store slot (newPage slot)
        match
          if count = 0 then storeConductor pool (newPage slot) conductor else .ok pool with
        | .error e => .error e
        | .ok pool =>
            let count := count + 1
            if size ≤ count then
              match pool.pageAllocList first with
              | none => .error "allocPages: pRet\n"
              | some ret =>
                  if ret.used = false then .error "allocPages: pRet->used\n"
                  else if ret.magic ≠ 1234 then .error "allocPages: pRet->magic\n"
                  else .ok (pool.pagedpoolVa + ret.id * PAGE_SIZE, pool)
            else allocLoop kmalloc conductor size first k (slot + 1) count pool

def allocPages (pool : Pool) (kmalloc : Nat → Bool) (conductor : Conductor) (size : Int) :
    Except String (Nat × Pool) :=
  if size ≤ 0 then .error "allocPages: size 0\n"
  else if size = 1 then mmNewPage pool kmalloc
  else if PAGE_COUNT_MAX ≤ size then .error "allocPages: size limits\n"
  else
    match firstSlotForAList pool size with
    | none => .error "allocPages: No more free slots\n"
    | some first =>
        let targetSize := first + size.toNat + 1
        if PAGE_COUNT_MAX ≤ targetSize then .error "allocPages: TargetSize\n"
        else
          allocLoop kmalloc conductor size first (targetSize - first) first 0 pool

def FreeRun (list : Nat → Option Page) (first n : Nat) : Prop :=
  ∀ i, first ≤ i → i < first + n → list i = none

variable {list : Nat → Option Page} {size k i base count first n slot va : Nat}
  {pool pool' pool₀ : Pool} {kmalloc : Nat → Bool} {page : Page} {conductor : Conductor}

/-- What a search for the first free run has found below a bound. -/
def Found (list : Nat → Option Page) (size bound : Nat) : Option Nat → Prop
  | some first => FreeRun list first size ∧ first + size ≤ bound ∧ ∀ j < first, ¬ FreeRun list j size
  | none => ∀ j, FreeRun list j size → bound < j + size

theorem firstSlotLoop_found (hcount : base + count = i) (hlt : count < size)
    (hfree : FreeRun list base count) (hbefore : ∀ j < base, ¬ FreeRun list j size) :
    Found list size (i + k) (firstSlotLoop list size k i base count) := by
  induction k generalizing i base count with
  | zero =>
      intro j hrun
      have hj : base ≤ j := by
        by_contra hj
        exact hbefore j (by omega) hrun
      omega
  | succ k ih =>
      rw [firstSlotLoop]
      split
      · rename_i hoccupied
        rw [show i + (k + 1) = base + count + 1 + k by omega]
        apply ih (by omega) (by omega)
        · intro m _ _
          omega
        · intro j hj hrun
          rcases Nat.lt_or_ge j base with hjb | hjb
          · exact hbefore j hjb hrun
          · rw [hrun i (by omega) (by omega)] at hoccupied
            cases hoccupied
      · rename_i hnone
        have hi : list i = none := by simpa using hnone
        have hfree' : FreeRun list base (count + 1) := by
          intro m hm hmlt
          rcases Nat.lt_or_ge m i with hmi | hmi
          · exact hfree m hm (by omega)
          · obtain rfl : m = i := by omega
            exact hi
        dsimp only
        split
        · rename_i hsize
          obtain rfl : size = count + 1 := by omega
          exact ⟨hfree', by omega, hbefore⟩
        · rw [show i + (k + 1) = i + 1 + k by omega]
          exact ih (by omega) (by omega) hfree' hbefore

theorem firstSlot_found (list : Nat → Option Page) (hsize : 0 < size) :
    Found list size PAGE_COUNT_MAX (firstSlotLoop list size PAGE_COUNT_MAX 0 0 0) := by
  have hloop : Found list size (0 + PAGE_COUNT_MAX) (firstSlotLoop list size _ 0 0 0) :=
    firstSlotLoop_found rfl hsize (fun m _ _ => by omega) fun j hj => by omega
  rwa [Nat.zero_add] at hloop

theorem firstSlotForAList_some (hsize : 0 < size) (h : firstSlotForAList pool size = some first) :
    FreeRun pool.pageAllocList first size ∧ first + size ≤ PAGE_COUNT_MAX ∧
      ∀ j < first, ¬ FreeRun pool.pageAllocList j size := by
  have hfound := firstSlot_found pool.pageAllocList hsize
  rw [firstSlotForAList] at h
  rwa [h] at hfound

theorem firstSlotForAList_none (hsize : 0 < size) (h : firstSlotForAList pool size = none) (j : Nat)
    (hrun : FreeRun pool.pageAllocList j size) : PAGE_COUNT_MAX < j + size := by
  have hfound := firstSlot_found pool.pageAllocList hsize
  rw [firstSlotForAList] at h
  rw [h] at hfound
  exact hfound j hrun

def fillRun (list : Nat → Option Page) (first n i : Nat) : Option Page :=
  if first ≤ i ∧ i < first + n then some (newPage i) else list i

def Pool.fill (pool : Pool) (first n : Nat) : Pool :=
  { pool with pageAllocList := fillRun pool.pageAllocList first n }

theorem fill_zero (pool : Pool) (first : Nat) : pool.fill first 0 = pool := by
  have hsame : fillRun pool.pageAllocList first 0 = pool.pageAllocList := by
    funext i
    exact if_neg (by omega)
  rw [Pool.fill, hsame]

theorem store_fill (pool : Pool) (first n : Nat) :
    (pool.fill first n).store (first + n) (newPage (first + n)) = pool.fill first (n + 1) := by
  have hsame : Function.update (fillRun pool.pageAllocList first n) (first + n)
      (some (newPage (first + n))) = fillRun pool.pageAllocList first (n + 1) := by
    funext i
    rcases eq_or_ne i (first + n) with rfl | hne
    · rw [Function.update_self, fillRun, if_pos ⟨by omega, by omega⟩]
    · rw [Function.update_of_ne hne, fillRun, fillRun]
      congr 1
      apply propext
      omega
  rw [Pool.store, Pool.fill, Pool.fill]
  dsimp only
  rw [hsame]

theorem allocLoop_fill (hfree : FreeRun pool.pageAllocList first size) (hcount : count < size)
    (hk : size ≤ count + k) (hkmalloc : ∀ i < size, kmalloc i = true) :
    allocLoop kmalloc .elsewhere size first k (first + count) count (pool.fill first count) =
      .ok (pool.pagedpoolVa + first * PAGE_SIZE, pool.fill first size) := by
  induction k generalizing count with
  | zero => omega
  | succ k ih =>
      have hnone : (pool.fill first count).pageAllocList (first + count) = none := by
        have hslot : fillRun pool.pageAllocList first count (first + count) =
            pool.pageAllocList (first + count) := if_neg (by omega)
        exact hslot.trans (hfree _ (by omega) (by omega))
      rw [allocLoop, hnone, if_neg (by simp), if_neg (by simp [hkmalloc count hcount]), store_fill]
      have hconductor : (if count = 0 then
          storeConductor (pool.fill first (count + 1)) (newPage (first + count)) .elsewhere
          else .ok (pool.fill first (count + 1))) = .ok (pool.fill first (count + 1)) := by
        split <;> rfl
      dsimp only
      rw [hconductor]
      dsimp only
      split
      · rename_i hlast
        obtain rfl : size = count + 1 := by omega
        have hret : (pool.fill first (count + 1)).pageAllocList first = some (newPage first) :=
          if_pos ⟨Nat.le_refl _, by omega⟩
        rw [hret]
        rfl
      · rw [Nat.add_assoc]
        exact ih (by omega) (by omega)

structure Took (list list' : Nat → Option Page) (first n : Nat) : Prop where
  free : FreeRun list first n
  bound : first + n ≤ PAGE_COUNT_MAX
  kept : ∀ i, list i ≠ none → list' i ≠ none
  taken : ∀ i, first ≤ i → i < first + n → list' i ≠ none

theorem Took.after {list' list'' : Nat → Option Page} (hkept : ∀ i, list i ≠ none → list' i ≠ none)
    (h : Took list' list'' first n) :
    Took list list'' first n := by
  refine ⟨?_, h.bound, fun i hi => h.kept i (hkept i hi), h.taken⟩
  intro i hlow hhigh
  by_contra hoccupied
  exact hkept i hoccupied (h.free i hlow hhigh)

theorem store_occupied (h : i = slot ∨ pool.pageAllocList i ≠ none) :
    (pool.store slot page).pageAllocList i ≠ none := by
  change Function.update pool.pageAllocList slot (some page) i ≠ none
  rcases eq_or_ne i slot with rfl | hne
  · rw [Function.update_self]
    exact Option.some_ne_none _
  · rw [Function.update_of_ne hne]
    exact h.resolve_left hne

theorem storeConductor_ok (h : storeConductor pool page conductor = .ok pool') :
    pool'.pagedpoolVa = pool.pagedpoolVa ∧
      (∀ i, pool.pageAllocList i ≠ none → pool'.pageAllocList i ≠ none) ∧
        ∀ i, pool.pageAllocList i = some page → pool'.pageAllocList i = some page := by
  cases conductor with
  | elsewhere =>
      cases h
      exact ⟨rfl, fun _ hi => hi, fun _ hi => hi⟩
  | fault => cases h
  | slot j =>
      cases h
      refine ⟨rfl, fun i hi => store_occupied (.inr hi), ?_⟩
      intro i hi
      change Function.update pool.pageAllocList j (some page) i = some page
      rcases eq_or_ne i j with rfl | hne
      · exact Function.update_self _ _ _
      · rw [Function.update_of_ne hne]
        exact hi

theorem allocLoop_ok
    (hslot : first + count ≤ slot)
    (hoccupied : ∀ i, first ≤ i → i < slot → pool.pageAllocList i ≠ none)
    (hfirst : count = 0 ∧ slot = first ∧ pool.pageAllocList first = none ∨
      0 < count ∧ pool.pageAllocList first = some (newPage first))
    (h : allocLoop kmalloc conductor size first k slot count pool = .ok (va, pool')) :
    va = pool.pagedpoolVa + first * PAGE_SIZE ∧
      (∀ i, pool.pageAllocList i ≠ none → pool'.pageAllocList i ≠ none) ∧
        ∀ i, first ≤ i → i < first + size → pool'.pageAllocList i ≠ none := by
  induction k generalizing slot count pool with
  | zero => cases h
  | succ k ih =>
      rw [allocLoop] at h
      split at h
      · rename_i hsome
        have hfirst' : 0 < count ∧ pool.pageAllocList first = some (newPage first) := by
          rcases hfirst with ⟨_, rfl, hnone⟩ | hlater
          · rw [hnone] at hsome
            cases hsome
          · exact hlater
        apply ih (by omega) _ (.inr hfirst') h
        intro i hlow hhigh
        rcases Nat.lt_succ_iff_lt_or_eq.mp hhigh with hlt | rfl
        · exact hoccupied i hlow hlt
        · exact Option.isSome_iff_ne_none.mp hsome
      rename_i hfree
      split at h
      · cases h
      dsimp only at h
      split at h
      · cases h
      rename_i pool₂ hstore
      obtain ⟨hva, hkept, hpage⟩ : pool₂.pagedpoolVa = pool.pagedpoolVa ∧
          (∀ i, i = slot ∨ pool.pageAllocList i ≠ none → pool₂.pageAllocList i ≠ none) ∧
            pool₂.pageAllocList first = some (newPage first) := by
        split at hstore
        · rename_i hzero
          obtain ⟨_, rfl, _⟩ : count = 0 ∧ slot = first ∧ pool.pageAllocList first = none := by
            rcases hfirst with hfresh | ⟨hpos, _⟩
            · exact hfresh
            · omega
          obtain ⟨hva, hkept, hpage⟩ := storeConductor_ok hstore
          exact ⟨hva, fun i hi => hkept i (store_occupied hi), hpage _ (Function.update_self _ _ _)⟩
        · rename_i hpos
          cases hstore
          refine ⟨rfl, fun i hi => store_occupied hi, ?_⟩
          obtain ⟨hzero, _⟩ | ⟨_, hpage⟩ := hfirst
          · exact absurd hzero hpos
          · change Function.update pool.pageAllocList slot _ first = _
            rw [Function.update_of_ne (by omega)]
            exact hpage
      have hoccupied₂ : ∀ i, first ≤ i → i < slot + 1 → pool₂.pageAllocList i ≠ none := by
        intro i hlow hhigh
        rcases Nat.lt_succ_iff_lt_or_eq.mp hhigh with hlt | rfl
        · exact hkept i (.inr (hoccupied i hlow hlt))
        · exact hkept i (.inl rfl)
      split at h
      · rename_i hlast
        rw [hpage] at h
        dsimp only at h
        split at h
        · cases h
        split at h
        · cases h
        obtain ⟨rfl, rfl⟩ := Prod.mk.inj (Except.ok.inj h)
        refine ⟨by rw [hva]; rfl, fun i hi => hkept i (.inr hi), ?_⟩
        intro i hlow hhigh
        exact hoccupied₂ i hlow (by omega)
      · obtain ⟨hva', hkept', htaken⟩ := ih (by omega) hoccupied₂ (.inr ⟨by omega, hpage⟩) h
        rw [hva] at hva'
        exact ⟨hva', fun i hi => hkept' i (hkept i (.inr hi)), htaken⟩

theorem allocPages_ok (hsize : 1 < size)
    (h : allocPages pool kmalloc conductor size = .ok (va, pool')) :
    ∃ first, Took pool.pageAllocList pool'.pageAllocList first size ∧
      va = pool.pagedpoolVa + first * PAGE_SIZE := by
  rw [allocPages, if_neg (by omega), if_neg (by omega)] at h
  split at h
  · cases h
  split at h
  · cases h
  rename_i first hsearch
  obtain ⟨hfree, hbound, _⟩ := firstSlotForAList_some (by omega) hsearch
  dsimp only at h
  split at h
  · cases h
  have hnone := hfree first (Nat.le_refl _) (by omega)
  obtain ⟨hva, hkept, htaken⟩ := allocLoop_ok (Nat.le_refl _)
    (fun i hlow hhigh => absurd hlow (by omega)) (.inl ⟨rfl, rfl, hnone⟩) h
  exact ⟨first, ⟨hfree, hbound, hkept, htaken⟩, hva⟩

/-- A request: the object allocations that succeed, the stray pointer and the size. -/
inductive PoolCall where
  | newPage (kmalloc : Nat → Bool)
  | allocPages (kmalloc : Nat → Bool) (conductor : Conductor) (size : Int)

def PoolCall.pages : PoolCall → Nat
  | .newPage _ => 1
  | .allocPages _ _ size => size.toNat

/-- The address that a request returns, and the slots of the pages from there on. -/
structure PoolOutcome where
  va : Nat
  slots : List Nat
  deriving DecidableEq, Repr

/-- The pool and the slots of all pages that have been handed out. -/
structure PoolSystem where
  pool : Pool
  handed : List Nat

def request (pool : Pool) : PoolCall → Except String (Nat × Pool)
  | .newPage kmalloc => mmNewPage pool kmalloc
  | .allocPages kmalloc conductor size => allocPages pool kmalloc conductor size

def poolStep (s : PoolSystem) (call : PoolCall) : Except String (PoolOutcome × PoolSystem) :=
  match request s.pool call with
  | .error e => .error e
  | .ok (va, pool) =>
      let slots := List.range' ((va - pool.pagedpoolVa) / PAGE_SIZE) call.pages
      .ok (⟨va, slots⟩, ⟨pool, s.handed ++ slots⟩)

def HasRun (pool : Pool) (n : Nat) : Prop :=
  ∃ first, FreeRun pool.pageAllocList first n ∧ first + n ≤ PAGE_COUNT_MAX

/-- The objects can be allocated, and the request is for one page, or for several where the
stray store goes elsewhere and a free run, if there is one, leaves the last two slots aside. -/
def Meets (s : PoolSystem) : PoolCall → Prop
  | .newPage kmalloc => kmalloc 0 = true
  | .allocPages kmalloc conductor size =>
      0 < size ∧ (∀ i < size.toNat, kmalloc i = true) ∧
        (size = 1 ∨ conductor = .elsewhere ∧ (HasRun s.pool size.toNat →
          ∃ first, FreeRun s.pool.pageAllocList first size.toNat ∧
            first + size.toNat + 2 ≤ PAGE_COUNT_MAX))

structure Mapped (pool : Pool) : Prop where
  va : pool.pagedpoolVa ≠ 0
  pa : ∀ slot < PAGE_COUNT_MAX,
    pool.virtualToPhysical (pool.pagedpoolVa + slot * PAGE_SIZE) ≠ 0

variable {s : PoolSystem} {call : PoolCall}

theorem mmNewPage_takes (hmapped : Mapped pool) (hkmalloc : kmalloc 0 = true) :
    (∃ first, FreeRun pool.pageAllocList first 1 ∧ first + 1 ≤ PAGE_COUNT_MAX ∧
        mmNewPage pool kmalloc = .ok (pool.pagedpoolVa + first * PAGE_SIZE, pool.fill first 1)) ∨
      ¬ HasRun pool 1 ∧ ∃ e, mmNewPage pool kmalloc = .error e := by
  cases hfind : emptySlot pool with
  | none =>
      right
      constructor
      · rintro ⟨first, hfree, hlt⟩
        have hnone := List.find?_eq_none.mp hfind first (List.mem_range.mpr hlt)
        exact hnone (Option.isNone_iff_eq_none.mpr
          (hfree first (Nat.le_refl _) (Nat.lt_succ_self _)))
      · have hva := hmapped.va
        unfold mmNewPage pageObject
        simp only [hva, hfind, if_false]
        exact ⟨_, rfl⟩
  | some first =>
      left
      obtain ⟨hnone, hlt, _⟩ := List.find?_range_eq_some.mp hfind
      rw [List.mem_range] at hlt
      have hstore : pool.store first (newPage first) = pool.fill first 1 := by
        have hfill := store_fill pool first 0
        rw [fill_zero] at hfill
        exact hfill
      refine ⟨first, ?_, hlt, ?_⟩
      · intro i hi hilt
        obtain rfl : i = first := by omega
        exact Option.isNone_iff_eq_none.mp hnone
      · have hva := hmapped.va
        have hpa := hmapped.pa first hlt
        have hne : pool.pagedpoolVa + first * PAGE_SIZE ≠ 0 :=
          Nat.ne_of_gt (Nat.lt_of_lt_of_le (Nat.pos_of_ne_zero hva) (Nat.le_add_right _ _))
        rw [← hstore]
        unfold mmNewPage pageObject
        simp only [hva, hfind, hkmalloc, newPage, Pool.store, hpa, hne, not_le.mpr hlt, if_false,
          Bool.true_eq_false, ne_eq, not_true_eq_false]

theorem allocPages_takes {size : Int} (hmapped : Mapped s.pool)
    (hmeets : Meets s (.allocPages kmalloc conductor size)) :
    (∃ first, FreeRun s.pool.pageAllocList first size.toNat ∧ first + size.toNat ≤ PAGE_COUNT_MAX ∧
          allocPages s.pool kmalloc conductor size =
            .ok (s.pool.pagedpoolVa + first * PAGE_SIZE, s.pool.fill first size.toNat)) ∨
      ¬ HasRun s.pool size.toNat ∧ ∃ e, allocPages s.pool kmalloc conductor size = .error e := by
  obtain ⟨hpos, hkmalloc, hcase⟩ := hmeets
  obtain ⟨n, rfl⟩ : ∃ n : Nat, size = n := ⟨size.toNat, by omega⟩
  rw [Int.toNat_natCast] at hkmalloc hcase ⊢
  have hn : 0 < n := by omega
  rw [allocPages, if_neg (by omega)]
  by_cases hone : (n : Int) = 1
  · obtain rfl : n = 1 := by omega
    rw [if_pos hone]
    exact mmNewPage_takes hmapped (hkmalloc 0 hn)
  rw [if_neg hone]
  obtain ⟨rfl, hroom⟩ := hcase.resolve_left hone
  by_cases hrun : HasRun s.pool n
  · obtain ⟨first', hfree', hlt'⟩ := hroom hrun
    left
    cases hsearch : firstSlotForAList s.pool n with
    | none =>
        have := firstSlotForAList_none hn hsearch first' hfree'
        omega
    | some first =>
        obtain ⟨hfree, hlt, hbefore⟩ := firstSlotForAList_some hn hsearch
        have hle : first ≤ first' := by
          by_contra hlt
          exact hbefore first' (by omega) hfree'
        refine ⟨first, hfree, hlt, ?_⟩
        have hloop := allocLoop_fill (k := first + n + 1 - first) hfree hn (by omega) hkmalloc
        rw [fill_zero] at hloop
        rw [if_neg (by omega)]
        dsimp only
        rw [Int.toNat_natCast, if_neg (by omega)]
        exact hloop
  · right
    refine ⟨hrun, ?_⟩
    split
    · exact ⟨_, rfl⟩
    · cases hsearch : firstSlotForAList s.pool n with
      | none => exact ⟨_, rfl⟩
      | some first =>
          obtain ⟨hfree, hlt, _⟩ := firstSlotForAList_some hn hsearch
          exact absurd ⟨first, hfree, hlt⟩ hrun

/-- The occupied slots are the first one and those that have been handed out, each once. -/
structure PoolInv (pool₀ : Pool) (s : PoolSystem) : Prop where
  va : s.pool.pagedpoolVa = pool₀.pagedpoolVa
  pa : s.pool.virtualToPhysical = pool₀.virtualToPhysical
  table : ∀ slot < PAGE_COUNT_MAX,
    s.pool.pageAllocList slot = none ↔ slot ≠ 0 ∧ slot ∉ s.handed
  nodup : s.handed.Nodup
  bounds : ∀ slot ∈ s.handed, slot < PAGE_COUNT_MAX

def Served (pool₀ : Pool) (call : PoolCall) (out : PoolOutcome) : Prop :=
  ∃ first, first + call.pages ≤ PAGE_COUNT_MAX ∧
    out = ⟨pool₀.pagedpoolVa + first * PAGE_SIZE, List.range' first call.pages⟩

theorem request_takes (hmapped : Mapped s.pool) (hmeets : Meets s call) :
    (∃ first, FreeRun s.pool.pageAllocList first call.pages ∧ first + call.pages ≤ PAGE_COUNT_MAX ∧
          request s.pool call =
            .ok (s.pool.pagedpoolVa + first * PAGE_SIZE, s.pool.fill first call.pages)) ∨
      ¬ HasRun s.pool call.pages ∧ ∃ e, request s.pool call = .error e := by
  cases call with
  | newPage kmalloc =>
      simp only [PoolCall.pages, request]
      exact mmNewPage_takes hmapped hmeets
  | allocPages kmalloc conductor size =>
      simp only [PoolCall.pages, request]
      exact allocPages_takes hmapped hmeets

theorem poolInv_fill (hinv : PoolInv pool₀ s) (hfree : FreeRun s.pool.pageAllocList first n)
    (hlt : first + n ≤ PAGE_COUNT_MAX) :
    PoolInv pool₀ ⟨s.pool.fill first n, s.handed ++ List.range' first n⟩ := by
  have hmem : ∀ slot, slot ∈ List.range' first n ↔ first ≤ slot ∧ slot < first + n := by
    intro slot
    exact List.mem_range'_1
  constructor
  · exact hinv.va
  · exact hinv.pa
  · intro slot hslot
    change fillRun s.pool.pageAllocList first n slot = none ↔
      slot ≠ 0 ∧ slot ∉ s.handed ++ List.range' first n
    rw [List.mem_append, hmem, fillRun]
    split
    · rename_i hin
      simp [hin]
    · rename_i hout
      rw [hinv.table slot hslot]
      simp [hout]
  · apply hinv.nodup.append List.nodup_range'
    intro slot hold hnew
    obtain ⟨hlow, hhigh⟩ := (hmem slot).mp hnew
    have hnone := (hinv.table slot (by omega)).mp (hfree slot hlow hhigh)
    exact hnone.2 hold
  · intro slot hslot
    rcases List.mem_append.mp hslot with hold | hnew
    · exact hinv.bounds slot hold
    · have := ((hmem slot).mp hnew).2
      omega

theorem mapped_of_inv (hmapped : Mapped pool₀) (hinv : PoolInv pool₀ s) : Mapped s.pool := by
  obtain ⟨hva, hpa⟩ := hmapped
  rw [← hinv.va] at hva
  rw [← hinv.pa, ← hinv.va] at hpa
  exact ⟨hva, hpa⟩

theorem poolStep_served {t : PoolSystem} {out : PoolOutcome} (hmapped : Mapped pool₀)
    (hinv : PoolInv pool₀ s) (hmeets : Meets s call) (hstep : poolStep s call = .ok (out, t)) :
    Served pool₀ call out ∧ t.handed = s.handed ++ out.slots ∧ PoolInv pool₀ t := by
  rw [poolStep] at hstep
  rcases request_takes (mapped_of_inv hmapped hinv) hmeets with
    ⟨first, hfree, hlt, hrequest⟩ | ⟨_, e, hrequest⟩
  · rw [hrequest] at hstep
    have hfirst : (s.pool.pagedpoolVa + first * PAGE_SIZE -
        (s.pool.fill first call.pages).pagedpoolVa) / PAGE_SIZE = first := by
      change (s.pool.pagedpoolVa + first * PAGE_SIZE - s.pool.pagedpoolVa) / PAGE_SIZE = first
      rw [Nat.add_sub_cancel_left, Nat.mul_div_cancel _ (by decide)]
    dsimp only at hstep
    rw [hfirst] at hstep
    cases hstep
    exact ⟨⟨first, hlt, by rw [← hinv.va]⟩, rfl, poolInv_fill hinv hfree hlt⟩
  · rw [hrequest] at hstep
    cases hstep

theorem poolInv_initialize (va : Nat) (virtualToPhysical : Nat → Nat) :
    PoolInv (initializeFramesAlloc va virtualToPhysical)
      ⟨initializeFramesAlloc va virtualToPhysical, []⟩ := by
  refine ⟨rfl, rfl, ?_, List.nodup_nil, fun slot hslot => by cases hslot⟩
  intro slot _
  rw [initializeFramesAlloc]
  dsimp only
  split
  · rename_i hzero
    simp [hzero]
  · rename_i hne
    simp [hne]

/-- The page pool: the pages of all requests that have been met are different pages of the
pool, each request has got consecutive ones, and the next request is met if there is a run of
so many slots that are neither the first one nor handed out. -/
theorem page_pool_run {va : Nat} {virtualToPhysical : Nat → Nat} {calls : List PoolCall}
    {outs : List PoolOutcome} {s : PoolSystem} {call : PoolCall}
    (hmapped : Mapped (initializeFramesAlloc va virtualToPhysical))
    (hmeets : Guarded poolStep Meets ⟨initializeFramesAlloc va virtualToPhysical, []⟩ calls)
    (hrun : run poolStep ⟨initializeFramesAlloc va virtualToPhysical, []⟩ calls = .ok (outs, s))
    (hcall : Meets s call) :
    (outs.map PoolOutcome.slots).flatten.Nodup ∧
      List.Forall₂ (Served (initializeFramesAlloc va virtualToPhysical)) calls outs ∧
        ((∃ first, first + call.pages ≤ PAGE_COUNT_MAX ∧ ∀ slot, first ≤ slot →
            slot < first + call.pages →
              slot ≠ 0 ∧ slot ∉ (outs.map PoolOutcome.slots).flatten) →
          ∃ out t, poolStep s call = .ok (out, t)) := by
  have hstart := poolInv_initialize va virtualToPhysical
  have hserved := run_forall₂ (PoolInv (initializeFramesAlloc va virtualToPhysical))
    (Served (initializeFramesAlloc va virtualToPhysical))
    (fun s call out t hs hm hstep =>
      ⟨(poolStep_served hmapped hs hm hstep).1, (poolStep_served hmapped hs hm hstep).2.2⟩)
    hstart hmeets hrun
  have hlast := run_invariant (PoolInv (initializeFramesAlloc va virtualToPhysical))
    (fun s call out t hs hm hstep => (poolStep_served hmapped hs hm hstep).2.2) hstart hmeets hrun
  have hhanded := run_fifo (PoolInv (initializeFramesAlloc va virtualToPhysical))
    PoolSystem.handed (fun _ out => out.slots) (fun _ _ => ([] : List Nat))
    (fun s call out t hs hm hstep => by
      obtain ⟨_, hhanded, ht⟩ := poolStep_served hmapped hs hm hstep
      exact ⟨hhanded.symm, ht⟩) hstart hmeets hrun
  rw [gather_outputs hserved.length_eq, gather_outputs hserved.length_eq] at hhanded
  have hslots : (outs.map PoolOutcome.slots).flatten = s.handed := by simpa using hhanded
  refine ⟨by rw [hslots]; exact hlast.nodup, hserved, ?_⟩
  rintro ⟨first, hlt, hfree⟩
  rw [hslots] at hfree
  rcases request_takes (mapped_of_inv hmapped hlast) hcall with
    ⟨first', _, _, hrequest⟩ | ⟨hnone, _⟩
  · rw [poolStep, hrequest]
    exact ⟨_, _, rfl⟩
  · exfalso
    apply hnone
    refine ⟨first, ?_, hlt⟩
    intro slot hlow hhigh
    exact (hlast.table slot (by omega)).mpr (hfree slot hlow hhigh)

/-- The pool after `initializeFramesAlloc`, mapped one to one. -/
def bootPool : Pool := initializeFramesAlloc 0x30600000 fun va => va

theorem mapped_bootPool : Mapped bootPool := by
  constructor
  · decide
  · intro slot _
    change 0x30600000 + slot * PAGE_SIZE ≠ 0
    omega

theorem freeRun_bootPool (h : 0 < first) : FreeRun bootPool.pageAllocList first n := by
  intro i hi _
  change (if i = 0 then some (newPage 0) else none) = none
  rw [if_neg (by omega)]

theorem meets_bootPool_two : Meets ⟨bootPool, []⟩ (.allocPages (fun _ => true) .elsewhere 2) := by
  refine ⟨by decide, fun _ _ => rfl, Or.inr ⟨rfl, fun _ => ⟨1, ?_, by decide⟩⟩⟩
  exact freeRun_bootPool Nat.one_pos

/-- Two pages out of the fresh pool, and one more. -/
theorem page_pool_run_two :
    [1, 2].Nodup ∧
      List.Forall₂ (Served bootPool) [.allocPages (fun _ => true) .elsewhere 2]
        [⟨0x30601000, [1, 2]⟩] ∧
      ((∃ first, first + 1 ≤ PAGE_COUNT_MAX ∧ ∀ slot, first ≤ slot → slot < first + 1 →
          slot ≠ 0 ∧ slot ∉ [1, 2]) →
        ∃ out t, poolStep ⟨bootPool.fill 1 2, [1, 2]⟩ (.newPage fun _ => true) = .ok (out, t)) := by
  have hrun : run poolStep ⟨bootPool, []⟩ [.allocPages (fun _ => true) .elsewhere 2] =
      .ok ([⟨0x30601000, [1, 2]⟩], ⟨bootPool.fill 1 2, [1, 2]⟩) := by
    have hrequest : allocPages bootPool (fun _ => true) .elsewhere 2 =
        .ok (0x30601000, bootPool.fill 1 2) := by
      have hloop := allocLoop_fill (k := 3) (freeRun_bootPool Nat.one_pos)
        Nat.two_pos (by omega) (fun i _ => rfl : ∀ i < 2, (fun _ => true) i = true)
      rw [fill_zero] at hloop
      have hsearch : firstSlotForAList bootPool 2 = some 1 := by decide +kernel
      unfold allocPages
      rw [hsearch]
      exact hloop
    have hstep : poolStep ⟨bootPool, []⟩ (.allocPages (fun _ => true) .elsewhere 2) =
        .ok (⟨0x30601000, [1, 2]⟩, ⟨bootPool.fill 1 2, [1, 2]⟩) := by
      rw [poolStep, request, hrequest]
      rfl
    rw [run, hstep]
    rfl
  have hcall : Meets ⟨bootPool.fill 1 2, [1, 2]⟩ (.newPage fun _ => true) := by
    rw [Meets]
  exact page_pool_run mapped_bootPool (guarded_singleton meets_bootPool_two) hrun hcall

/-- All but the first slot are free, and a request for all but one of them panics. -/
theorem allocPages_target_size :
    HasRun bootPool 510 ∧
      allocPages bootPool (fun _ => true) .elsewhere 510 = .error "allocPages: TargetSize\n" := by
  constructor
  · exact ⟨1, freeRun_bootPool Nat.one_pos, by decide⟩
  · have hsearch : firstSlotForAList bootPool 510 = some 1 := by decide +kernel
    unfold allocPages
    rw [hsearch]
    rfl

end Gramado.Mm.PagePool
