import Gramado.Ke.CopyProcess
import Gramado.Library.RefCount
import Mathlib.Order.Interval.Finset.Nat

/-! The counter of a file structure and the descriptors that refer to it. -/

namespace Gramado.Ke.ReferenceCount

open Io.FileObject Ke.CopyProcess Ke.Descriptors Ke.ProcessTable Library.RefCount Library.Run

/-- The descriptors of all processes. -/
@[irreducible]
def descriptors : Finset (Nat × Nat) :=
  Finset.range PROCESS_COUNT_MAX ×ˢ Finset.range NUMBER_OF_FILES

def objectTable (s : System) (i : Nat × Nat) : Option Nat :=
  (s.teList i.1).bind fun p => p.objects i.2

def fdCount (s : System) (fp : Nat) : Int :=
  ((s.files[fp]?).map OpenFile.fdCounter).getD 0

/-- The counter of each file structure is the number of descriptors that refer to it. -/
def CountsDescriptors (s : System) : Prop :=
  Counted descriptors (objectTable s) (fdCount s)

variable {n pid fd fp newfd slot1 slot2 parentPid childPid parentTid childTid : Nat}
  {s t s' : System} {p q parent child child₀ : Process} {f : OpenFile} {g : OpenFile → OpenFile}
  {o : Answer} {c : CloneCall}

theorem mem_rangeProduct {i j m : Nat} :
    (i, j) ∈ Finset.range m ×ˢ Finset.range n ↔ i < m ∧ j < n := by
  rw [Finset.mem_product, Finset.mem_range, Finset.mem_range]

theorem mem_descriptors :
    (pid, fd) ∈ descriptors ↔ pid < PROCESS_COUNT_MAX ∧ fd < NUMBER_OF_FILES := by
  unfold descriptors
  exact mem_rangeProduct

theorem currentProcess_some (h : currentProcess s = some p) :
    s.teList s.currentPid.toNat = some p := by
  rw [currentProcess] at h
  split at h
  · cases h
  · exact (validProcess_some h).1

theorem teList_lt (h : s.teList pid = some p) : pid < PROCESS_COUNT_MAX :=
  s.processes.lt_max pid p h

theorem objectTable_setProcess (h : s.teList pid = some q) (p : Process) :
    objectTable (s.setProcess pid p) =
      fun i => if i.1 = pid then p.objects i.2 else objectTable s i := by
  funext i
  rw [objectTable]
  change ((s.processes.set pid p).teList i.1).bind _ = _
  split
  · rename_i hi
    rw [hi, ProcessList.set_same h]
    rfl
  · rename_i hi
    rw [ProcessList.set_other _ _ hi]
    rfl

theorem objectTable_same (h : s.teList pid = some q) (hobjects : p.objects = q.objects) :
    objectTable (s.setProcess pid p) = objectTable s := by
  rw [objectTable_setProcess h]
  funext i
  split
  · rename_i hi
    rw [objectTable, hi, h, hobjects]
    rfl
  · rfl

theorem objectTable_setObject (h : s.teList pid = some p) (fd : Nat) (x : Option Nat) :
    objectTable (s.setProcess pid (p.setObject fd x)) =
      Function.update (objectTable s) (pid, fd) x := by
  rw [objectTable_setProcess h]
  funext i
  obtain ⟨i, j⟩ := i
  rcases eq_or_ne i pid with rfl | hi
  · rw [if_pos rfl]
    change Function.update p.objects fd x j = _
    rcases eq_or_ne j fd with rfl | hj
    · rw [Function.update_self, Function.update_self]
    · rw [Function.update_of_ne hj, Function.update_of_ne (by simp [hj]), objectTable, h]
      rfl
  · rw [if_neg hi, Function.update_of_ne (by simp [hi])]

theorem objectTable_eq (h : s.teList pid = some p) : objectTable s (pid, fd) = p.objects fd := by
  rw [objectTable, h]
  rfl

theorem fdCount_modify (h : s.files[fp]? = some f) (g : OpenFile → OpenFile) :
    fdCount (s.modifyFile fp g) = Function.update (fdCount s) fp (g f).fdCounter := by
  funext a
  rw [fdCount]
  change (((s.files.modify fp g)[a]?).map _).getD 0 = _
  rcases eq_or_ne a fp with rfl | hne
  · rw [List.getElem?_modify_eq, h, Function.update_self]
    rfl
  · rw [List.getElem?_modify_ne _ _ (Ne.symm hne), Function.update_of_ne hne]
    rfl

theorem fdCount_countUp (h : s.files[fp]? = some f) :
    fdCount (s.modifyFile fp countUp) = Function.update (fdCount s) fp (fdCount s fp + 1) := by
  rw [fdCount_modify h, fdCount, h]
  rfl

theorem countDown_fdCounter (f : OpenFile) : (countDown f).fdCounter = f.fdCounter - 1 := by
  rw [countDown]
  dsimp only
  split
  · rw [kFclose]
    split
    · rfl
    · split <;> rfl
  · rfl

theorem fdCount_countDown (h : s.files[fp]? = some f) :
    fdCount (s.modifyFile fp countDown) = Function.update (fdCount s) fp (fdCount s fp - 1) := by
  rw [fdCount_modify h, countDown_fdCounter, fdCount, h]
  rfl

theorem fdCount_same (s : System) (fp : Nat) (h : ∀ f, (g f).fdCounter = f.fdCounter) :
    fdCount (s.modifyFile fp g) = fdCount s := by
  cases hf : s.files[fp]? with
  | none =>
      funext a
      rw [fdCount]
      change (((s.files.modify fp g)[a]?).map _).getD 0 = _
      rcases eq_or_ne a fp with rfl | hne
      · rw [List.getElem?_modify_eq, hf, fdCount, hf]
        rfl
      · rw [List.getElem?_modify_ne _ _ (Ne.symm hne)]
        rfl
  | some f =>
      rw [fdCount_modify hf, h]
      have hcount : fdCount s fp = f.fdCounter := by
        rw [fdCount, hf]
        rfl
      rw [← hcount, Function.update_eq_self]

theorem files_of_counted (h : CountsDescriptors s) (hp : s.teList pid = some p)
    (hfd : fd < NUMBER_OF_FILES) (hfp : p.objects fd = some fp) :
    ∃ f, s.files[fp]? = some f := by
  have hmem : (pid, fd) ∈ descriptors := mem_descriptors.mpr ⟨teList_lt hp, hfd⟩
  have hpos : 0 < fdCount s fp := Counted.pos h hmem ((objectTable_eq hp).trans hfp)
  cases hf : s.files[fp]? with
  | none =>
      rw [fdCount, hf] at hpos
      exact absurd hpos (Int.lt_irrefl 0)
  | some f => exact ⟨f, rfl⟩

theorem fdCount_length (s : System) : fdCount s s.files.length = 0 := by
  rw [fdCount, List.getElem?_eq_none (Nat.le_refl _)]
  rfl

theorem fdCount_append (s : System) (f : OpenFile) : fdCount { s with files := s.files ++ [f] } =
      Function.update (fdCount s) s.files.length f.fdCounter := by
  funext a
  rw [fdCount]
  dsimp only
  rcases lt_trichotomy a s.files.length with hlt | rfl | hgt
  · rw [Function.update_of_ne (Nat.ne_of_lt hlt), List.getElem?_append_left hlt, fdCount]
  · rw [Function.update_self, List.getElem?_concat_length]
    rfl
  · rw [Function.update_of_ne (Nat.ne_of_gt hgt), fdCount, List.getElem?_eq_none,
      List.getElem?_eq_none (Nat.le_of_lt hgt)]
    rw [List.length_append, List.length_singleton]
    omega

/-- The property of a step: the counters are right afterwards, and a file that has been passed
to `k_fclose` has no descriptor. -/
def Proper (o : Answer) (t : System) : Prop :=
  CountsDescriptors t ∧
    ∀ fp, o.released = some fp → references descriptors (objectTable t) fp = 0

theorem proper_answer (h : CountsDescriptors t) (result : Int) (stored : List Nat) :
    Proper ⟨result, stored, none⟩ t :=
  ⟨h, fun _ hreleased => by cases hreleased⟩

theorem counts_share (h : CountsDescriptors s) (hp : s.teList pid = some p)
    (hfd : fd < NUMBER_OF_FILES) (hfree : p.objects fd = none) (hf : s.files[fp]? = some f) :
    CountsDescriptors ((s.setProcess pid (p.setObject fd (some fp))).modifyFile fp countUp) := by
  have hmem : (pid, fd) ∈ descriptors := mem_descriptors.mpr ⟨teList_lt hp, hfd⟩
  have htable := objectTable_setObject hp fd (some fp)
  have hcount := fdCount_countUp (s := s.setProcess pid (p.setObject fd (some fp))) hf
  rw [CountsDescriptors, hcount]
  change Counted descriptors (objectTable (s.setProcess pid (p.setObject fd (some fp))))
    (Function.update (fdCount s) fp (fdCount s fp + 1))
  rw [htable]
  exact counted_share h hmem ((objectTable_eq hp).trans hfree)

theorem counts_drop (h : CountsDescriptors s) (hp : s.teList pid = some p)
    (hfd : fd < NUMBER_OF_FILES) (hold : p.objects fd = some fp) (hf : s.files[fp]? = some f) :
    CountsDescriptors ((s.modifyFile fp countDown).setProcess pid (p.setObject fd none)) := by
  have hmem : (pid, fd) ∈ descriptors := mem_descriptors.mpr ⟨teList_lt hp, hfd⟩
  have htable := objectTable_setObject (s := s.modifyFile fp countDown) hp fd none
  rw [CountsDescriptors, htable]
  change Counted descriptors (Function.update (objectTable s) (pid, fd) none)
    (fdCount (s.modifyFile fp countDown))
  rw [fdCount_countDown hf]
  exact counted_drop h hmem ((objectTable_eq hp).trans hold)

theorem counts_modifyFile (h : CountsDescriptors s) (fp : Nat)
    (hg : ∀ f, (g f).fdCounter = f.fdCounter) :
    CountsDescriptors (s.modifyFile fp g) := by
  rw [CountsDescriptors, fdCount_same s fp hg]
  exact h

theorem not_counts_setObject {x : Option Nat} (h : CountsDescriptors s) (hp : s.teList pid = some p)
    (hfd : fd < NUMBER_OF_FILES) (hne : x ≠ p.objects fd) :
    ¬ CountsDescriptors (s.setProcess pid (p.setObject fd x)) := by
  have hmem : (pid, fd) ∈ descriptors := mem_descriptors.mpr ⟨teList_lt hp, hfd⟩
  rw [CountsDescriptors, objectTable_setObject hp]
  apply not_counted_update h hmem
  rw [objectTable_eq hp]
  exact hne

theorem descriptor_lt {fd : Int} (h : fd < OPEN_MAX) : fd.toNat < NUMBER_OF_FILES := by
  have hmax : OPEN_MAX = 32 := rfl
  have hnumber : NUMBER_OF_FILES = 32 := rfl
  omega

theorem sysDup_proper (h : CountsDescriptors s) (oldfd : Int) :
    Proper (sysDup s oldfd).1 (sysDup s oldfd).2 := by
  unfold sysDup
  split
  · exact proper_answer h _ _
  rename_i hrange
  rw [not_or, not_lt, not_le] at hrange
  split
  · exact proper_answer h _ _
  rename_i p hp
  split
  · exact proper_answer h _ _
  rename_i fp hfp
  split
  · exact proper_answer h _ _
  rename_i newfd hnewfd
  have hteList := currentProcess_some hp
  obtain ⟨f, hf⟩ := files_of_counted h hteList (descriptor_lt hrange.2) hfp
  obtain ⟨hfree, _, hlt⟩ := freeSlot_some hnewfd
  exact proper_answer (counts_share h hteList hlt hfree hf) _ _

/-- The target of `dup2` is free, and a file that it was the last one to refer to is released. -/
structure TargetClosed (s : System) (p : Process) (newfd : Nat) (released : Option Nat)
    (p' : Process) (s' : System) : Prop where
  counts : CountsDescriptors s'
  process : s'.teList s.currentPid.toNat = some p'
  caller : s'.currentPid = s.currentPid
  free : p'.objects newfd = none
  others : ∀ fd, fd ≠ newfd → p'.objects fd = p.objects fd
  last : ∀ fp, released = some fp → references descriptors (objectTable s') fp = 0

theorem closeTarget_closed (h : CountsDescriptors s) (hp : s.teList s.currentPid.toNat = some p)
    (hfd : newfd < NUMBER_OF_FILES) :
    TargetClosed s p newfd (closeTarget s p newfd).1 (closeTarget s p newfd).2.1
      (closeTarget s p newfd).2.2 := by
  unfold closeTarget
  split
  · rename_i hfree
    exact ⟨h, hp, rfl, hfree, fun _ _ => rfl, fun _ hreleased => by cases hreleased⟩
  rename_i old hold
  obtain ⟨f, hf⟩ := files_of_counted h hp hfd hold
  have hcounts := counts_drop h hp hfd hold hf
  refine ⟨hcounts, ProcessList.set_same hp _, rfl, Function.update_self _ _ _, ?_, ?_⟩
  · intro fd hne
    exact Function.update_of_ne hne _ _
  · intro fp hreleased
    rw [hf] at hreleased
    dsimp only [Option.bind_some] at hreleased
    split at hreleased
    · rename_i hlast
      cases hreleased
      have hcount := hcounts old
      have hdown : fdCount ((s.modifyFile old countDown).setProcess s.currentPid.toNat
          (p.setObject newfd none)) old = fdCount s old - 1 := by
        change fdCount (s.modifyFile old countDown) old = _
        rw [fdCount_countDown hf, Function.update_self]
      have hbefore : fdCount s old = f.fdCounter := by
        rw [fdCount, hf]
        rfl
      rw [hdown, hbefore] at hcount
      change references descriptors (objectTable ((s.modifyFile old countDown).setProcess
        s.currentPid.toNat (p.setObject newfd none))) old = 0
      omega
    · cases hreleased

theorem replaceObject_proper {oldfd : Nat} (h : CountsDescriptors s)
    (hp : s.teList s.currentPid.toNat = some p) (holdfd : oldfd < NUMBER_OF_FILES)
    (hnewfd : newfd < NUMBER_OF_FILES) (hne : oldfd ≠ newfd) (hfp : p.objects oldfd = some fp) :
    Proper (replaceObject s p newfd fp).1 (replaceObject s p newfd fp).2 := by
  have hclosed := closeTarget_closed h hp hnewfd
  unfold replaceObject
  generalize closeTarget s p newfd = target at hclosed ⊢
  obtain ⟨released, p', s'⟩ := target
  dsimp only at hclosed ⊢
  have hfp' : p'.objects oldfd = some fp := (hclosed.others oldfd hne).trans hfp
  obtain ⟨f, hf⟩ := files_of_counted hclosed.counts hclosed.process holdfd hfp'
  have hstore : storeObject s' p' newfd (some fp) =
      s'.setProcess s.currentPid.toNat (p'.setObject newfd (some fp)) := by
    rw [storeObject, hclosed.caller]
  rw [hstore]
  refine ⟨counts_share hclosed.counts hclosed.process hnewfd hclosed.free hf, ?_⟩
  intro old hreleased
  have hlast := hclosed.last old hreleased
  have holdMem : (s.currentPid.toNat, oldfd) ∈ descriptors :=
    mem_descriptors.mpr ⟨teList_lt hp, holdfd⟩
  have hnewMem : (s.currentPid.toNat, newfd) ∈ descriptors :=
    mem_descriptors.mpr ⟨teList_lt hp, hnewfd⟩
  have hother : fp ≠ old := by
    rintro rfl
    have hpos := references_pos holdMem ((objectTable_eq hclosed.process).trans hfp')
    omega
  change references descriptors (objectTable (s'.setProcess s.currentPid.toNat
    (p'.setObject newfd (some fp)))) old = 0
  rw [objectTable_setObject hclosed.process]
  have hcount := references_update (objectTable s') hnewMem (some fp) old
  have hnone : (some fp : Option Nat) ≠ some old := fun hsame => hother (Option.some.inj hsame)
  rw [if_neg hnone] at hcount
  omega

theorem sysDup2_proper (h : CountsDescriptors s) (oldfd newfd : Int) :
    Proper (sysDup2 s oldfd newfd).1 (sysDup2 s oldfd newfd).2 := by
  unfold sysDup2
  split
  · exact proper_answer h _ _
  rename_i hrange
  split
  · exact proper_answer h _ _
  rename_i p hp
  split
  · exact proper_answer h _ _
  rename_i fp hfp
  split
  · exact proper_answer h _ _
  rename_i hne
  have hmax : OPEN_MAX = 32 := rfl
  exact replaceObject_proper h (currentProcess_some hp) (descriptor_lt (show oldfd < OPEN_MAX by omega))
    (descriptor_lt (by omega)) (by omega) hfp

theorem sysDup3_proper (h : CountsDescriptors s) (oldfd newfd : Int) :
    Proper (sysDup3 s oldfd newfd).1 (sysDup3 s oldfd newfd).2 := by
  unfold sysDup3
  split
  · exact proper_answer h _ _
  rename_i hrange
  split
  · exact proper_answer h _ _
  rename_i hne
  split
  · exact proper_answer h _ _
  rename_i p hp
  split
  · exact proper_answer h _ _
  rename_i fp hfp
  have hmax : OPEN_MAX = 32 := rfl
  exact replaceObject_proper h (currentProcess_some hp) (descriptor_lt (show oldfd < OPEN_MAX by omega))
    (descriptor_lt (by omega)) (by omega) hfp

/-- A file that is not loaded: its structure has been made, and no descriptor refers to it. -/
def LeavesStructure (s : System) (a : OpenAnswers) : Prop :=
  (a.found = true ∨ a.created = true) ∧
    (∃ p, currentProcess s = some p ∧ (freeSlot p 0 NUMBER_OF_FILES).isSome) ∧
      a.structureRoom = true ∧ loadedSize a = none

/-- An `open` that gets as far as to leave such a structure. -/
def OpensUnloaded (s : System) (pathname : Option String) (a : OpenAnswers) : Prop :=
  ∃ path, pathname = some path ∧ path ≠ "" ∧ consolePath path = false ∧
    openedDevice s a = none ∧ LeavesStructure s a

theorem counts_newFile (h : CountsDescriptors s) (hp : s.teList pid = some p)
    (hfd : fd < NUMBER_OF_FILES) (hfree : p.objects fd = none) (hcounter : f.fdCounter = 1) :
    CountsDescriptors ({ s with files := s.files ++ [f] }.setProcess pid
      (p.setObject fd (some s.files.length))) := by
  have hmem : (pid, fd) ∈ descriptors := mem_descriptors.mpr ⟨teList_lt hp, hfd⟩
  have hshare := counted_share h hmem ((objectTable_eq hp).trans hfree) (a := s.files.length)
  rw [fdCount_length, Int.zero_add, ← hcounter, ← fdCount_append] at hshare
  rw [CountsDescriptors, objectTable_setObject (s := { s with files := s.files ++ [f] }) hp]
  exact hshare

theorem not_counts_newFile (h : CountsDescriptors s) (hcounter : f.fdCounter = 1) :
    ¬ CountsDescriptors { s with files := s.files ++ [f] } := by
  intro h'
  have hnew := h' s.files.length
  have hnone := h s.files.length
  rw [fdCount_append, Function.update_self, hcounter] at hnew
  rw [fdCount_length] at hnone
  change (1 : Int) = references descriptors (objectTable s) s.files.length at hnew
  omega

theorem doReadFileFromDisk_cases (h : CountsDescriptors s) (a : OpenAnswers) :
    (CountsDescriptors (doReadFileFromDisk s a).2 ∧ ¬ LeavesStructure s a) ∨
      (doReadFileFromDisk s a).1 = none ∧ ¬ CountsDescriptors (doReadFileFromDisk s a).2 ∧
        LeavesStructure s a := by
  unfold doReadFileFromDisk
  split
  · rename_i hnot
    refine .inl ⟨h, ?_⟩
    rintro ⟨hfound, _⟩
    simp [hnot] at hfound
  rename_i hfound
  split
  · rename_i hnone
    refine .inl ⟨h, ?_⟩
    rintro ⟨_, ⟨p, hp, _⟩, _⟩
    rw [hnone] at hp
    cases hp
  rename_i p hp
  split
  · rename_i hnone
    refine .inl ⟨h, ?_⟩
    rintro ⟨_, ⟨p', hp', hslot⟩, _⟩
    rw [hp] at hp'
    cases hp'
    rw [hnone] at hslot
    cases hslot
  rename_i slot hslot
  split
  · rename_i hroom
    refine .inl ⟨h, ?_⟩
    rintro ⟨_, _, hroom', _⟩
    rw [hroom] at hroom'
    cases hroom'
  rename_i hroom
  dsimp only
  split
  · rename_i hsize
    refine .inr ⟨rfl, not_counts_newFile h rfl, ?_, ⟨p, hp, ?_⟩, ?_, hsize⟩
    · simpa only [not_and_or, Bool.not_eq_false] using hfound
    · rw [hslot]
      rfl
    · exact Bool.eq_true_of_not_eq_false hroom
  · rename_i lbfsize hsize
    obtain ⟨hfree, _, hlt⟩ := freeSlot_some hslot
    refine .inl ⟨counts_newFile h (currentProcess_some hp) hlt hfree rfl, ?_⟩
    rintro ⟨_, _, _, hsize'⟩
    rw [hsize] at hsize'
    cases hsize'

theorem openImp_proper_iff (h : CountsDescriptors s) (pathname : Option String) (a : OpenAnswers) :
    Proper (openImp s pathname a).1 (openImp s pathname a).2 ↔ ¬ OpensUnloaded s pathname a := by
  unfold openImp
  split
  · refine iff_of_true (proper_answer h _ _) ?_
    rintro ⟨path, hpath, _⟩
    cases hpath
  rename_i path
  split
  · rename_i hempty
    refine iff_of_true (proper_answer h _ _) ?_
    rintro ⟨path', hpath, hne, _⟩
    cases hpath
    exact hne hempty
  rename_i hne
  split
  · rename_i hnone
    refine iff_of_true (proper_answer h _ _) ?_
    rintro ⟨_, _, _, _, _, _, ⟨p, hp, _⟩, _⟩
    rw [hnone] at hp
    cases hp
  rename_i p hp
  split
  · rename_i hconsole
    refine iff_of_true (proper_answer h _ _) ?_
    rintro ⟨path', hpath, _, hconsole', _⟩
    cases hpath
    rw [hconsole] at hconsole'
    cases hconsole'
  rename_i hconsole
  split
  · rename_i fp hdevice
    have hnot : ¬ OpensUnloaded s (some path) a := by
      rintro ⟨_, _, _, _, hdevice', _⟩
      rw [hdevice] at hdevice'
      cases hdevice'
    split
    · exact iff_of_true (proper_answer h _ _) hnot
    rename_i fd hfd
    refine iff_of_true (proper_answer ?_ _ _) hnot
    obtain ⟨hfree, _, hlt⟩ := freeSlot_some hfd
    obtain ⟨f, hf, _⟩ : ∃ f, s.files[fp]? = some f ∧ f.isDevice = true := by
      rw [openedDevice, Option.filter_eq_some_iff] at hdevice
      exact (Option.any_eq_true _ _).mp hdevice.2
    let stamp : OpenFile → OpenFile := fun f => { f with file := fd }
    have hstamped : (s.modifyFile fp stamp).files[fp]? = some (stamp f) := by
      change (s.files.modify fp stamp)[fp]? = _
      rw [List.getElem?_modify_eq, hf]
      rfl
    have hteList : (s.modifyFile fp stamp).teList s.currentPid.toNat = some p :=
      currentProcess_some hp
    exact counts_share (counts_modifyFile h fp fun _ => rfl) hteList hlt hfree hstamped
  rename_i hdevice
  obtain ⟨hcounts, hnot⟩ | ⟨hnone, hcounts, hleaves⟩ := doReadFileFromDisk_cases h a
  · refine iff_of_true ?_ fun hopens => hnot hopens.choose_spec.2.2.2.2
    generalize doReadFileFromDisk s a = disk at hcounts ⊢
    obtain ⟨found, t⟩ := disk
    cases found with
    | none => exact proper_answer hcounts _ _
    | some fp =>
        dsimp only
        split
        · exact proper_answer hcounts _ _
        split
        · exact proper_answer hcounts _ _
        split
        · exact proper_answer hcounts _ _
        · exact proper_answer hcounts _ _
  · refine iff_of_false ?_ (not_not.mpr ⟨path, rfl, hne, ?_, hdevice, hleaves⟩)
    · generalize doReadFileFromDisk s a = disk at hnone hcounts ⊢
      obtain ⟨found, t⟩ := disk
      cases hnone
      exact fun hproper => hcounts hproper.1
    · exact Bool.eq_false_of_not_eq_true hconsole

/-- A device that `sys_open_device_by_number` stores in a descriptor, without counting it up. -/
def StoresDevice (s : System) (index : Int) (fp : Option Nat) : Prop :=
  0 ≤ index ∧ index < 32 ∧ (∃ n, fp = some n ∧ (s.files[n]?).any fun f => f.magic = 1234) ∧
    (currentProcess s).isSome

theorem sysOpenDeviceByNumber_proper_iff {index : Int} {fp : Option Nat} (h : CountsDescriptors s)
    (hstep : sysOpenDeviceByNumber s index fp = .ok (o, t)) :
    Proper o t ↔ ¬ StoresDevice s index fp := by
  unfold sysOpenDeviceByNumber at hstep
  split at hstep
  · rename_i hrange
    cases hstep
    refine iff_of_true (proper_answer h _ _) ?_
    rintro ⟨hlow, hhigh, _⟩
    omega
  rename_i hrange
  split at hstep
  · cases hstep
    refine iff_of_true (proper_answer h _ _) ?_
    rintro ⟨_, _, ⟨n, hn, _⟩, _⟩
    cases hn
  rename_i n
  split at hstep
  · rename_i hmagic
    cases hstep
    refine iff_of_true (proper_answer h _ _) ?_
    rintro ⟨_, _, ⟨n', hn, hmagic'⟩, _⟩
    cases hn
    rw [hmagic] at hmagic'
    cases hmagic'
  rename_i hmagic
  split at hstep
  · rename_i hnone
    cases hstep
    refine iff_of_true (proper_answer h _ _) ?_
    rintro ⟨_, _, _, hprocess⟩
    rw [hnone] at hprocess
    cases hprocess
  rename_i p hp
  split at hstep
  · cases hstep
  rename_i slot hslot
  obtain ⟨rfl, rfl⟩ := Prod.mk.inj (Except.ok.inj hstep)
  obtain ⟨hfree, _, hlt⟩ := freeSlot_some hslot
  refine iff_of_false ?_ (not_not.mpr ⟨by omega, by omega, ⟨n, rfl, ?_⟩, ?_⟩)
  · intro hproper
    refine not_counts_setObject h (currentProcess_some hp) hlt ?_ hproper.1
    rw [hfree]
    exact Option.some_ne_none n
  · exact Bool.eq_true_of_not_eq_false hmagic
  · rw [hp]
    rfl

/-- A descriptor that `__close_imp` empties, without counting its file down. -/
def Empties (s : System) (fd : Int) : Prop :=
  3 ≤ fd ∧ fd < OPEN_MAX ∧ ∃ p fp f, currentProcess s = some p ∧ p.objects fd.toNat = some fp ∧
    s.files[fp]? = some f ∧ f.Valid ∧ closes f.object = true

theorem closeObject_frame (s : System) (fp : Nat) (f : OpenFile) :
    (closeObject s fp f).processes = s.processes ∧ (closeObject s fp f).currentPid = s.currentPid ∧
        fdCount (closeObject s fp f) = fdCount s := by
  unfold closeObject
  split
  · split
    · exact ⟨rfl, rfl, rfl⟩
    · exact ⟨rfl, rfl, rfl⟩
  · refine ⟨rfl, rfl, fdCount_same s fp ?_⟩
    intro f
    unfold adjustSize
    split <;> rfl
  · exact ⟨rfl, rfl, rfl⟩

theorem closeImp_proper_iff (h : CountsDescriptors s) (fd : Int) :
    Proper (closeImp s fd).1 (closeImp s fd).2 ↔ ¬ Empties s fd := by
  unfold closeImp
  split
  · rename_i hrange
    refine iff_of_true (proper_answer h _ _) ?_
    rintro ⟨hlow, hhigh, _⟩
    omega
  rename_i hrange
  split
  · rename_i hstream
    refine iff_of_true (proper_answer h _ _) ?_
    rintro ⟨hlow, _⟩
    omega
  rename_i hstream
  split
  · rename_i hnone
    refine iff_of_true (proper_answer h _ _) ?_
    rintro ⟨_, _, p, _, _, hp, _⟩
    rw [hnone] at hp
    cases hp
  rename_i p hp
  split
  · rename_i hnone
    refine iff_of_true (proper_answer h _ _) ?_
    rintro ⟨_, _, p', _, _, hp', hfp, _⟩
    rw [hp] at hp'
    cases hp'
    rw [hnone] at hfp
    cases hfp
  rename_i fp hfp
  split
  · rename_i hnone
    refine iff_of_true (proper_answer h _ _) ?_
    rintro ⟨_, _, p', _, _, hp', hfp', hf, _⟩
    rw [hp] at hp'
    cases hp'
    rw [hfp] at hfp'
    cases hfp'
    rw [hnone] at hf
    cases hf
  rename_i f hf
  have hempties : Empties s fd ↔ f.Valid ∧ closes f.object = true := by
    constructor
    · rintro ⟨_, _, p', fp', f', hp', hfp', hf', hvalid⟩
      rw [hp] at hp'
      cases hp'
      rw [hfp] at hfp'
      cases hfp'
      rw [hf] at hf'
      cases hf'
      exact hvalid
    · intro hvalid
      exact ⟨by omega, by omega, p, fp, f, hp, hfp, hf, hvalid⟩
  rw [hempties]
  split
  · rename_i hvalid
    exact iff_of_true (proper_answer h _ _) fun hboth => hvalid hboth.1
  rename_i hvalid
  split
  · rename_i hconsole
    refine iff_of_true (proper_answer h _ _) fun hboth => ?_
    rw [hconsole] at hboth
    cases hboth.2
  split
  · rename_i hcloses
    refine iff_of_true (proper_answer h _ _) fun hboth => ?_
    rw [hcloses] at hboth
    cases hboth.2
  rename_i hcloses
  refine iff_of_false ?_ (not_not.mpr ⟨not_not.mp hvalid, Bool.eq_true_of_not_eq_false hcloses⟩)
  obtain ⟨hprocesses, hcaller, hcount⟩ := closeObject_frame s fp f
  intro hproper
  have hteList : (closeObject s fp f).teList s.currentPid.toNat = some p := by
    rw [System.teList, hprocesses]
    exact currentProcess_some hp
  have hcounts : CountsDescriptors (closeObject s fp f) := by
    have htable : objectTable (closeObject s fp f) = objectTable s := by
      funext i
      rw [objectTable, System.teList, hprocesses]
      rfl
    rw [CountsDescriptors, htable, hcount]
    exact h
  have hafter := hproper.1
  rw [storeObject, hcaller] at hafter
  refine not_counts_setObject hcounts hteList (descriptor_lt (by omega)) ?_ hafter
  rw [hfp]
  exact (Option.some_ne_none fp).symm

/-- The pipe that `sys_pipe` stores in two descriptors, with what was in the memory of its file
structures. -/
def StoresPipe (s : System) (memory : PipeMemory) (m1 m2 : OpenFile) : Prop :=
  (∃ p slot1 slot2, currentProcess s = some p ∧ freeSlot p 3 NUMBER_OF_FILES = some slot1 ∧
      freeSlot p (slot1 + 1) NUMBER_OF_FILES = some slot2) ∧
    memory.buffer = true ∧ memory.first = some m1 ∧ memory.second = some m2

def CountsPipe (s : System) (memory : PipeMemory) : Prop :=
  ∀ m1 m2, StoresPipe s memory m1 m2 → m1.fdCounter = 1 ∧ m2.fdCounter = 1

theorem fdCount_append_two (s : System) (f1 f2 : OpenFile) :
    fdCount { s with files := s.files ++ [f1, f2] } =
      Function.update (Function.update (fdCount s) s.files.length f1.fdCounter)
        (s.files.length + 1) f2.fdCounter := by
  have happend := fdCount_append { s with files := s.files ++ [f1] } f2
  dsimp only at happend
  rw [List.append_assoc, List.length_append, fdCount_append] at happend
  exact happend

theorem objectTable_setObject_two {n1 n2 : Nat} (hp : s.teList pid = some p) :
    objectTable (s.setProcess pid ((p.setObject slot1 (some n1)).setObject slot2 (some n2))) =
      Function.update (Function.update (objectTable s) (pid, slot1) (some n1)) (pid, slot2)
        (some n2) := by
  have hfirst : (s.setProcess pid (p.setObject slot1 (some n1))).teList pid =
      some (p.setObject slot1 (some n1)) := ProcessList.set_same hp _
  rw [← objectTable_setObject hp, ← objectTable_setObject hfirst, objectTable_setProcess hp,
    objectTable_setProcess hfirst, objectTable_setProcess hp]
  funext i
  split
  · rfl
  · rename_i hi
    exact (if_neg hi).symm

theorem counts_pipe_iff (f1 f2 : OpenFile) (h : CountsDescriptors s) (hp : s.teList pid = some p)
    (hslots : slot1 < slot2) (hslot2 : slot2 < NUMBER_OF_FILES) (hfree1 : p.objects slot1 = none)
    (hfree2 : p.objects slot2 = none) :
    CountsDescriptors ({ s with files := s.files ++ [f1, f2] }.setProcess pid
        ((p.setObject slot1 (some s.files.length)).setObject slot2 (some (s.files.length + 1)))) ↔
      f1.fdCounter = 1 ∧ f2.fdCounter = 1 := by
  have hmem1 : (pid, slot1) ∈ descriptors := mem_descriptors.mpr ⟨teList_lt hp, by omega⟩
  have hmem2 : (pid, slot2) ∈ descriptors := mem_descriptors.mpr ⟨teList_lt hp, hslot2⟩
  have hne : (pid, slot2) ≠ (pid, slot1) := by
    intro heq
    have := (Prod.mk.inj heq).2
    omega
  have hshare := counted_share h hmem1 ((objectTable_eq hp).trans hfree1) (a := s.files.length)
  have hstill : Function.update (objectTable s) (pid, slot1) (some s.files.length) (pid, slot2) =
      none := by
    rw [Function.update_of_ne hne, objectTable_eq hp]
    exact hfree2
  have hshare2 := counted_share hshare hmem2 hstill (a := s.files.length + 1)
  have hzero : fdCount s (s.files.length + 1) = 0 := by
    rw [fdCount, List.getElem?_eq_none (Nat.le_succ _)]
    rfl
  have hlast : s.files.length + 1 ≠ s.files.length := Nat.succ_ne_self _
  rw [fdCount_length, Function.update_of_ne hlast, hzero] at hshare2
  rw [CountsDescriptors, objectTable_setObject_two (s := { s with files := s.files ++ [f1, f2] }) hp]
  change Counted descriptors (Function.update (Function.update (objectTable s) (pid, slot1) _)
    (pid, slot2) _) (fdCount { s with files := s.files ++ [f1, f2] }) ↔ _
  rw [fdCount_append_two, hshare2.iff_eq]
  constructor
  · intro hsame
    have h1 := hsame s.files.length
    have h2 := hsame (s.files.length + 1)
    rw [Function.update_of_ne hlast.symm, Function.update_self, Function.update_of_ne hlast.symm,
      Function.update_self] at h1
    rw [Function.update_self, Function.update_self] at h2
    exact ⟨h1, h2⟩
  · rintro ⟨h1, h2⟩ a
    rw [h1, h2]
    rfl

theorem sysPipe_proper_iff (h : CountsDescriptors s) (memory : PipeMemory) :
    Proper (sysPipe s memory).1 (sysPipe s memory).2 ↔ CountsPipe s memory := by
  unfold sysPipe
  split
  · rename_i hnone
    refine iff_of_true (proper_answer h _ _) ?_
    rintro m1 m2 ⟨⟨p, _, _, hp, _⟩, _⟩
    rw [hnone] at hp
    cases hp
  rename_i p hp
  split
  · rename_i hnone
    refine iff_of_true (proper_answer h _ _) ?_
    rintro m1 m2 ⟨⟨p', _, _, hp', hslot1, _⟩, _⟩
    rw [hp] at hp'
    cases hp'
    rw [hnone] at hslot1
    cases hslot1
  rename_i slot1 hslot1
  split
  · rename_i hnone
    refine iff_of_true (proper_answer h _ _) ?_
    rintro m1 m2 ⟨⟨p', _, _, hp', hslot1', hslot2⟩, _⟩
    rw [hp] at hp'
    cases hp'
    rw [hslot1] at hslot1'
    cases hslot1'
    rw [hnone] at hslot2
    cases hslot2
  rename_i slot2 hslot2
  split
  · rename_i hbuffer
    refine iff_of_true (proper_answer h _ _) ?_
    rintro m1 m2 ⟨_, hbuffer', _⟩
    rw [hbuffer] at hbuffer'
    cases hbuffer'
  rename_i hbuffer
  split
  · rename_i m1 m2 hfirst hsecond
    obtain ⟨hfree1, _, hlt1⟩ := freeSlot_some hslot1
    obtain ⟨hfree2, hlow2, hlt2⟩ := freeSlot_some hslot2
    have hcounts := counts_pipe_iff (pipeFile m1 slot1) (pipeFile m2 slot2) h
      (currentProcess_some hp) (by omega) hlt2 hfree1 hfree2
    have hcondition : CountsPipe s memory ↔ m1.fdCounter = 1 ∧ m2.fdCounter = 1 := by
      constructor
      · intro hpipe
        exact hpipe m1 m2 ⟨⟨p, slot1, slot2, hp, hslot1, hslot2⟩,
          Bool.eq_true_of_not_eq_false hbuffer, hfirst, hsecond⟩
      · rintro hboth m1' m2' ⟨_, _, hfirst', hsecond'⟩
        rw [hfirst] at hfirst'
        cases hfirst'
        rw [hsecond] at hsecond'
        cases hsecond'
        exact hboth
    rw [hcondition]
    refine Iff.trans ?_ hcounts
    constructor
    · intro hproper
      exact hproper.1
    · intro hafter
      exact proper_answer hafter _ _
  · rename_i hnot
    refine iff_of_true (proper_answer h _ _) ?_
    rintro m1 m2 ⟨_, _, hfirst, hsecond⟩
    exact absurd hsecond (hnot m1 m2 hfirst)

/-- The steps of a cloning that concern neither descriptors nor files. -/
structure SameDescriptors (s t : System) : Prop where
  table : objectTable t = objectTable s
  files : t.files = s.files

theorem SameDescriptors.trans {u : System} (h : SameDescriptors s t) (h' : SameDescriptors t u) :
    SameDescriptors s u :=
  ⟨h'.table.trans h.table, h'.files.trans h.files⟩

theorem SameDescriptors.counts_iff (h : SameDescriptors s t) :
    CountsDescriptors t ↔ CountsDescriptors s := by
  have hcount : fdCount t = fdCount s := by
    funext a
    rw [fdCount, h.files]
    rfl
  rw [CountsDescriptors, CountsDescriptors, h.table, hcount]

theorem sameDescriptors_setProcess (h : s.teList pid = some q) (hobjects : p.objects = q.objects) :
    SameDescriptors s (s.setProcess pid p) :=
  ⟨objectTable_same h hobjects, rfl⟩

theorem sameDescriptors_register (h : getNewPID s = some pid) :
    SameDescriptors s (registerProcess s pid) := by
  obtain ⟨hnone, hlt⟩ := getNewPID_some h
  refine ⟨?_, rfl⟩
  funext i
  rw [objectTable, objectTable]
  change ((s.processes.set pid (newProcess pid s.gHeapCount)).teList i.1).bind _ = _
  rcases eq_or_ne i.1 pid with hi | hne
  · rw [hi, s.processes.set_teList _ hlt, Function.update_self, hnone]
    rfl
  · rw [ProcessList.set_other _ _ hne]
    rfl

theorem setObject_same (h : p.objects fd = none) : p.setObject fd none = p := by
  rw [Process.setObject, ← h, Function.update_eq_self]

theorem copyObjects_counts (h : CountsDescriptors s) (hne : childPid ≠ parentPid)
    (hparent : s.teList parentPid = some parent) (hchild : s.teList childPid = some child₀)
    (hstart : child.objects = child₀.objects) (hnone : ∀ fd, child₀.objects fd = none)
    (hn : n ≤ NUMBER_OF_FILES) :
    CountsDescriptors { s.setProcess childPid (copyObjects parent.objects n child s.files).1 with
        files := (copyObjects parent.objects n child s.files).2 } ∧
      ∀ fd, n ≤ fd → (copyObjects parent.objects n child s.files).1.objects fd = none := by
  induction n with
  | zero =>
      constructor
      · exact (sameDescriptors_setProcess hchild hstart).counts_iff.mpr h
      · intro fd _
        change child.objects fd = none
        rw [hstart]
        exact hnone fd
  | succ n ih =>
      obtain ⟨hcounts, hrest⟩ := ih (by omega)
      rw [copyObjects]
      generalize copyObjects parent.objects n child s.files = copied at hcounts hrest ⊢
      obtain ⟨child', files⟩ := copied
      dsimp only at hcounts hrest ⊢
      have hfree := hrest n (Nat.le_refl n)
      split
      · rw [setObject_same hfree]
        exact ⟨hcounts, fun fd hfd => hrest fd (by omega)⟩
      · rename_i fp hfp
        let t : System := { s.setProcess childPid child' with files := files }
        have hparentT : t.teList parentPid = some parent := by
          have hother := ProcessList.set_other s.processes child' hne.symm
          exact hother.trans hparent
        have hchildT : t.teList childPid = some child' := ProcessList.set_same hchild child'
        obtain ⟨f, hf⟩ := files_of_counted hcounts hparentT (by omega) hfp
        have hshare := counts_share hcounts hchildT (by omega) hfree hf
        have hsame : (t.setProcess childPid (child'.setObject n (some fp))).modifyFile fp countUp =
            { s.setProcess childPid (child'.setObject n (some fp)) with
              files := files.modify fp countUp } := by
          rw [System.setProcess, System.modifyFile]
          change { s with
            processes := (s.processes.set childPid child').set childPid _, files := _ } = _
          rw [ProcessList.set_set]
          rfl
        rw [← hsame]
        refine ⟨hshare, ?_⟩
        intro fd hfd
        change Function.update child'.objects n (some fp) fd = none
        rw [Function.update_of_ne (by omega)]
        exact hrest fd (by omega)

theorem newFile_ok {object : ObjectType} {room : Bool} (h : newFile s object room = .ok (fp, s')) :
    s'.processes = s.processes ∧ fdCount s' fp = 1 := by
  unfold newFile at h
  dsimp only at h
  split at h
  · cases h
  rename_i fp' hfind
  split at h
  · cases h
  split at h
  · cases h
  obtain ⟨rfl, rfl⟩ := Prod.mk.inj (Except.ok.inj h)
  have hfree := List.find?_some hfind
  obtain ⟨f, hf, _⟩ := (Option.any_eq_true _ _).mp hfree
  refine ⟨rfl, ?_⟩
  change fdCount (s.modifyFile fp' (newStream object)) fp' = 1
  rw [fdCount_modify hf, Function.update_self]
  rfl

theorem placeConnectors_ok {name : String} {p' : Process} {fp1 fp2 : Nat}
    (h : placeConnectors name p fp1 fp2 = .ok p') :
    ∃ spot, spot < NUMBER_OF_FILES ∧ p'.objects spot = some fp2 := by
  unfold placeConnectors at h
  split at h
  · cases h
  rename_i spot1 hspot1
  dsimp only at h
  split at h
  · cases h
  rename_i spot2 hspot2
  cases h
  obtain ⟨_, _, hlt⟩ := freeSlot_some hspot2
  have hnumber : NUMBER_OF_FILES = 32 := rfl
  exact ⟨spot2, by omega, Function.update_self _ _ _⟩

theorem createConnectors_not_counts {parent₀ : Process} (hne : childPid ≠ parentPid)
    (hparent : s.teList parentPid = some parent₀) (hchild : s.teList childPid = some child₀)
    (h : createConnectors s c parentPid childPid parent child = .ok s') :
    ¬ CountsDescriptors s' := by
  unfold createConnectors at h
  split at h
  · cases h
  rename_i fp1 s₁ hfile1
  split at h
  · cases h
  rename_i fp2 s₂ hfile2
  split at h
  · cases h
  rename_i parent' hplace1
  split at h
  · cases h
  rename_i child' hplace2
  cases h
  obtain ⟨hprocesses1, _⟩ := newFile_ok hfile1
  obtain ⟨hprocesses2, hcounter⟩ := newFile_ok hfile2
  obtain ⟨spot, hspot, hobject⟩ := placeConnectors_ok hplace1
  obtain ⟨spot', hspot', hobject'⟩ := placeConnectors_ok hplace2
  have hparent2 : s₂.teList parentPid = some parent₀ := by
    rw [System.teList, hprocesses2, hprocesses1]
    exact hparent
  have hchild2 : s₂.teList childPid = some child₀ := by
    rw [System.teList, hprocesses2, hprocesses1]
    exact hchild
  let s₃ := s₂.setProcess parentPid (setTerminal true false parent')
  have hparent3 : s₃.teList parentPid = some (setTerminal true false parent') :=
    ProcessList.set_same hparent2 _
  have hchild3 : s₃.teList childPid = some child₀ :=
    (ProcessList.set_other s₂.processes _ hne).trans hchild2
  let s₄ := s₃.setProcess childPid (setTerminal false true child')
  have hparent4 : s₄.teList parentPid = some (setTerminal true false parent') :=
    (ProcessList.set_other s₃.processes _ hne.symm).trans hparent3
  have hchild4 : s₄.teList childPid = some (setTerminal false true child') :=
    ProcessList.set_same hchild3 _
  intro hcounts
  have htwo : 1 < references descriptors (objectTable s₄) fp2 :=
    one_lt_references (mem_descriptors.mpr ⟨teList_lt hparent4, hspot⟩)
      (mem_descriptors.mpr ⟨teList_lt hchild4, hspot'⟩)
      (fun heq => hne (Prod.mk.inj heq).1.symm)
      ((objectTable_eq hparent4).trans hobject) ((objectTable_eq hchild4).trans hobject')
  have hone := hcounts fp2
  change fdCount s₂ fp2 = references descriptors (objectTable s₄) fp2 at hone
  omega

theorem copyProcessStruct_counts_iff (h : CountsDescriptors s) (hne : childPid ≠ parentPid)
    (hparent : s.teList parentPid = some parent) (hchild : s.teList childPid = some child)
    (hnone : ∀ fd, child.objects fd = none)
    (hstep : copyProcessStruct s c parentPid childPid = .ok s') :
    CountsDescriptors s' ↔ parent.terminalConnection.isTerminal = false := by
  unfold copyProcessStruct at hstep
  split at hstep
  · rename_i parent' child' hparent' hchild'
    have hsame := (validProcess_some hparent').1
    rw [hparent] at hsame
    cases hsame
    have hsame := (validProcess_some hchild').1
    rw [hchild] at hsame
    cases hsame
    obtain ⟨hcounts, _⟩ := copyObjects_counts h hne hparent hchild
      (show (inherit parent child).objects = child.objects from rfl) hnone (Nat.le_refl _)
    generalize copyObjects parent.objects NUMBER_OF_FILES (inherit parent child) s.files = copied
      at hcounts hstep
    obtain ⟨child', files⟩ := copied
    dsimp only at hcounts hstep
    split at hstep
    · rename_i hterminal
      rw [hterminal]
      refine iff_of_false ?_ (by decide)
      have hparentT : ({ s.setProcess childPid child' with files := files } : System).teList
          parentPid = some parent :=
        (ProcessList.set_other s.processes child' hne.symm).trans hparent
      exact createConnectors_not_counts hne hparentT (ProcessList.set_same hchild child') hstep
    · rename_i hterminal
      cases hstep
      exact iff_of_true hcounts (Bool.eq_false_of_not_eq_true hterminal)
  · cases hstep

theorem sameDescriptors_onlyPools (h : OnlyPools s s') : SameDescriptors s s' := by
  obtain ⟨slab, list, rfl⟩ := h
  exact ⟨rfl, rfl⟩

theorem prepareChild_counts_iff {pml4Va : Nat} (h : CountsDescriptors s)
    (hparent : s.teList parentPid = some parent) (hchild : s.teList childPid = some child)
    (hnone : ∀ fd, child.objects fd = none)
    (hstep : prepareChild s c parentPid parentTid childPid pml4Va = .ok (childTid, s')) :
    CountsDescriptors s' ↔ parent.terminalConnection.isTerminal = false := by
  obtain ⟨pml4Pa, parent₀, child₀, father, s₁, s₂, s₃, parent', child', thread, hne, _, hparent₀,
    hchild₀, _, halloc, hcopy, hthread, _, hchild', _, rfl⟩ := prepareChild_ok hstep
  rw [hparent] at hparent₀
  cases hparent₀
  rw [hchild] at hchild₀
  cases hchild₀
  let s₀ := s.setProcess childPid (setTables parent pml4Va pml4Pa child)
  have hsame₀ : SameDescriptors s s₀ := sameDescriptors_setProcess hchild rfl
  have hparent₀ : s₀.teList parentPid = some parent :=
    (ProcessList.set_other s.processes _ hne.symm).trans hparent
  have hchild₀ : s₀.teList childPid = some (setTables parent pml4Va pml4Pa child) :=
    ProcessList.set_same hchild _
  obtain ⟨base, sImage, stack, sStack, basePa, stackPa, himage, hstack, _, rfl⟩ :=
    allocMemoryForImageAndStack_ok halloc
  have hpools : OnlyPools s₀ sStack :=
    (onlyPools_allocImage himage).trans (onlyPools_mmAllocPages hstack)
  have hsameStack := sameDescriptors_onlyPools hpools
  obtain ⟨slab, list, rfl⟩ := hpools
  generalize hpooled : { s₀ with newPagedPool := slab, pageAllocList := list } = sStack at *
  have hparentStack : sStack.teList parentPid = some parent := by
    rw [← hpooled]
    exact hparent₀
  have hchildStack : sStack.teList childPid = some (setTables parent pml4Va pml4Pa child) := by
    rw [← hpooled]
    exact hchild₀
  have hsame₁ : SameDescriptors sStack
      (sStack.setProcess parentPid (setBuffers base basePa stack stackPa parent)) :=
    sameDescriptors_setProcess hparentStack rfl
  have hcounts₁ := ((hsame₀.trans hsameStack).trans hsame₁).counts_iff.mpr h
  have hcopied := copyProcessStruct_counts_iff hcounts₁ hne
    (ProcessList.set_same hparentStack _)
    ((ProcessList.set_other sStack.processes _ hne).trans hchildStack) hnone hcopy
  obtain ⟨process, _, rfl⟩ := copyThreadStruct_ok hthread
  have hsame₂ : SameDescriptors s₂ (({ s₂.setThread childTid (cloneThread father
      father.tgid.toNat process childTid) with threadsCounter := s₂.threadsCounter + 1 }.setProcess
        childPid (placeImage childTid parent' child')).setThread childTid
          (setFlower childPid parent'.childStack (placeImage childTid parent' child') thread)) :=
    ⟨objectTable_same (s := s₂) (p := placeImage childTid parent' child') hchild' rfl, rfl⟩
  exact hsame₂.counts_iff.trans hcopied

def ConnectsTerminal (s : System) (c : CloneCall) : Prop :=
  c.cloneFlags &&& F_CLONE_UNIX_STYLE = 0 ∧ c.processRoom = true ∧ (getNewPID s).isSome ∧
    ∃ parent tid thread, parentOf s c.pid = .ok (some (parent, tid, thread)) ∧
      parent.terminalConnection.isTerminal = true

theorem failsEarly_counts (h : FailsEarly s c s') :
    SameDescriptors s s' ∧ ¬ ConnectsTerminal s c := by
  cases h with
  | flags hflags => exact ⟨⟨rfl, rfl⟩, fun hconnects => hflags hconnects.1⟩
  | parent _ _ hparent =>
      refine ⟨⟨rfl, rfl⟩, ?_⟩
      rintro ⟨_, _, _, parent, tid, thread, hparent', _⟩
      rw [show parentOf s c.pid = .ok none from hparent] at hparent'
      cases hparent'
  | object _ _ _ hroom =>
      refine ⟨⟨rfl, rfl⟩, ?_⟩
      rintro ⟨_, hroom', hpid, _⟩
      rcases hroom with hroom | hnone
      · rw [hroom] at hroom'
        cases hroom'
      · rw [hnone] at hpid
        cases hpid

theorem creates_counts_iff (hcounts : CountsDescriptors s)
    (h : Creates s c parentTid childPid childTid s') :
    CountsDescriptors s' ↔ ¬ ConnectsTerminal s c := by
  obtain ⟨pml4Va, paging, parent, thread, _, hparent, _, hprepare⟩ := h.steps
  have hparent' : parentOf s c.pid = .ok (some (parent, parentTid, thread)) := hparent
  have hteList := (parentOf_some hparent').2.2.1
  obtain ⟨hnone, hlt⟩ := getNewPID_some h.newPid
  let s₁ := callerState s paging parentTid thread
  have hsame : SameDescriptors s₁ (registerProcess s₁ childPid) :=
    sameDescriptors_register (s := s₁) h.newPid
  have hcounts₁ : CountsDescriptors (registerProcess s₁ childPid) := hsame.counts_iff.mpr hcounts
  have hne : c.pid.toNat ≠ childPid := by
    intro heq
    rw [heq, hnone] at hteList
    cases hteList
  have hparent₁ : (registerProcess s₁ childPid).teList c.pid.toNat = some parent :=
    (ProcessList.set_other s.processes _ hne).trans hteList
  have hchild₁ : (registerProcess s₁ childPid).teList childPid =
      some (newProcess childPid s.gHeapCount) := by
    change (s.processes.set childPid (newProcess childPid s.gHeapCount)).teList childPid = _
    rw [s.processes.set_teList _ hlt, Function.update_self]
  rw [prepareChild_counts_iff hcounts₁ hparent₁ hchild₁ (fun _ => rfl) hprepare]
  constructor
  · rintro hterminal ⟨_, _, _, parent', tid, thread', hparent'', hterminal'⟩
    rw [hparent'] at hparent''
    cases hparent''
    rw [hterminal] at hterminal'
    cases hterminal'
  · intro hnot
    apply Bool.eq_false_of_not_eq_true
    intro hterminal
    refine hnot ⟨h.flags, h.room, ?_, parent, parentTid, thread, hparent', hterminal⟩
    rw [h.newPid]
    rfl

theorem sameDescriptors_startChild (h : startChild s parentTid childPid childTid = .ok s') :
    SameDescriptors s s' := by
  obtain ⟨child, _, _, dirs, _, _, hchild, _, _, _, rfl⟩ := startChild_ok h
  exact ⟨objectTable_same (s := s) (p := setDirectories dirs child) hchild rfl, rfl⟩

theorem copyProcess00_counts_iff {result : Int} (h : CountsDescriptors s)
    (hstep : copyProcess00 s c = .ok (result, s')) :
    CountsDescriptors s' ↔ ¬ ConnectsTerminal s c := by
  obtain ⟨hearly, _⟩ | ⟨parentTid, childPid, childTid, ⟨hcreates, _⟩ | ⟨s₁, hcreates, _, _, _,
    hstart⟩⟩ := copyProcess00_ok hstep
  · obtain ⟨hsame, hnot⟩ := failsEarly_counts hearly
    exact iff_of_true (hsame.counts_iff.mpr h) hnot
  · exact creates_counts_iff h hcreates
  · exact (sameDescriptors_startChild hstart).counts_iff.trans (creates_counts_iff h hcreates)

/-- The calls that open, share and close descriptors, each with what the rest of the kernel
answers to it. -/
inductive DescriptorCall where
  | openFile (pathname : Option String) (a : OpenAnswers)
  | openDevice (index : Int) (fp : Option Nat)
  | pipe (memory : PipeMemory)
  | dup (oldfd : Int)
  | dup2 (oldfd newfd : Int)
  | dup3 (oldfd newfd : Int)
  | close (fd : Int)
  | clone (c : CloneCall)

structure DescriptorEvent where
  pid : Int
  tid : Int
  call : DescriptorCall

def enter (s : System) (e : DescriptorEvent) : System :=
  { s with currentPid := e.pid, currentThread := e.tid }

def descriptorStep (s : System) (e : DescriptorEvent) : Except String (Answer × System) :=
  match e.call with
  | .openFile pathname a => .ok (openImp (enter s e) pathname a)
  | .openDevice index fp => sysOpenDeviceByNumber (enter s e) index fp
  | .pipe memory => .ok (sysPipe (enter s e) memory)
  | .dup oldfd => .ok (sysDup (enter s e) oldfd)
  | .dup2 oldfd newfd => .ok (sysDup2 (enter s e) oldfd newfd)
  | .dup3 oldfd newfd => .ok (sysDup3 (enter s e) oldfd newfd)
  | .close fd => .ok (closeImp (enter s e) fd)
  | .clone c =>
      match copyProcess00 (enter s e) c with
      | .error e => .error e
      | .ok (result, t) => .ok (answer result, t)

def KeepsCount (s : System) (e : DescriptorEvent) : Prop :=
  match e.call with
  | .openFile pathname a => ¬ OpensUnloaded (enter s e) pathname a
  | .openDevice index fp => ¬ StoresDevice (enter s e) index fp
  | .pipe memory => CountsPipe (enter s e) memory
  | .dup _ => True
  | .dup2 _ _ => True
  | .dup3 _ _ => True
  | .close fd => ¬ Empties (enter s e) fd
  | .clone c => ¬ ConnectsTerminal (enter s e) c

theorem descriptorStep_proper_iff {e : DescriptorEvent} (h : CountsDescriptors s)
    (hstep : descriptorStep s e = .ok (o, t)) :
    Proper o t ↔ KeepsCount s e := by
  have henter : CountsDescriptors (enter s e) := h
  unfold descriptorStep at hstep
  unfold KeepsCount
  cases hcall : e.call with
  | openFile pathname a =>
      rw [hcall] at hstep
      obtain ⟨rfl, rfl⟩ := Prod.mk.inj (Except.ok.inj hstep)
      exact openImp_proper_iff henter pathname a
  | openDevice index fp =>
      rw [hcall] at hstep
      exact sysOpenDeviceByNumber_proper_iff henter hstep
  | pipe memory =>
      rw [hcall] at hstep
      obtain ⟨rfl, rfl⟩ := Prod.mk.inj (Except.ok.inj hstep)
      exact sysPipe_proper_iff henter memory
  | dup oldfd =>
      rw [hcall] at hstep
      obtain ⟨rfl, rfl⟩ := Prod.mk.inj (Except.ok.inj hstep)
      exact iff_of_true (sysDup_proper henter oldfd) trivial
  | dup2 oldfd newfd =>
      rw [hcall] at hstep
      obtain ⟨rfl, rfl⟩ := Prod.mk.inj (Except.ok.inj hstep)
      exact iff_of_true (sysDup2_proper henter oldfd newfd) trivial
  | dup3 oldfd newfd =>
      rw [hcall] at hstep
      obtain ⟨rfl, rfl⟩ := Prod.mk.inj (Except.ok.inj hstep)
      exact iff_of_true (sysDup3_proper henter oldfd newfd) trivial
  | close fd =>
      rw [hcall] at hstep
      obtain ⟨rfl, rfl⟩ := Prod.mk.inj (Except.ok.inj hstep)
      exact closeImp_proper_iff henter fd
  | clone c =>
      rw [hcall] at hstep
      dsimp only at hstep
      split at hstep
      · cases hstep
      rename_i result t' hclone
      obtain ⟨rfl, rfl⟩ := Prod.mk.inj (Except.ok.inj hstep)
      refine Iff.trans ?_ (copyProcess00_counts_iff henter hclone)
      constructor
      · intro hproper
        exact hproper.1
      · intro hafter
        exact proper_answer hafter _ _

/-- The reference counts of the descriptors. From a state in which they are right, they are right
after every step of a run, and no file is released that a descriptor refers to, exactly if every
step meets its condition. -/
theorem reference_counts_iff {s u : System} {events : List DescriptorEvent} {outs : List Answer}
    (h : CountsDescriptors s) (hrun : run descriptorStep s events = .ok (outs, u)) :
    Guarded descriptorStep
        (fun s e => ∀ o t, descriptorStep s e = .ok (o, t) → Proper o t) s events ↔
      Guarded descriptorStep KeepsCount s events := by
  apply guarded_iff_of_run CountsDescriptors _ _ h hrun
  · intro s e o t hs hstep
    rw [← descriptorStep_proper_iff hs hstep]
    constructor
    · intro hall
      exact hall o t hstep
    · intro hproper o' t' hstep'
      rw [hstep] at hstep'
      cases hstep'
      exact hproper
  · intro s e o t hs hall hstep
    exact (hall o t hstep).1

theorem counts_bootSystem : CountsDescriptors bootSystem := by
  intro a
  have hnone : references descriptors (objectTable bootSystem) a = 0 := by
    rw [references_eq_zero]
    intro i _ h
    have hobject : objectTable bootSystem i = none := by
      rw [objectTable]
      change (bootProcesses.teList i.1).bind _ = none
      unfold bootProcesses
      dsimp only
      split <;> rfl
    rw [hobject] at h
    cases h
  rw [hnone, fdCount]
  rfl

def readmeAnswers : OpenAnswers where
  device := none
  found := true
  created := false
  structureRoom := true
  bufferRoom := true
  fileSize := 100
  largeRoom := true
  loaded := true

def openAndDup : List DescriptorEvent :=
  [⟨1, 0, .openFile (some "README.TXT") readmeAnswers⟩, ⟨1, 0, .dup2 0 3⟩]

def openedTwice : System :=
  (sysDup2 (openImp bootSystem (some "README.TXT") readmeAnswers).2 0 3).2

theorem run_openAndDup :
    run descriptorStep bootSystem openAndDup = .ok ([⟨0, [], none⟩, ⟨3, [], none⟩], openedTwice) := by
  rfl

theorem reference_counts_iff_openAndDup :
    Guarded descriptorStep
        (fun s e => ∀ o t, descriptorStep s e = .ok (o, t) → Proper o t) bootSystem openAndDup ↔
      Guarded descriptorStep KeepsCount bootSystem openAndDup :=
  reference_counts_iff counts_bootSystem run_openAndDup

/-- Then it closes the second descriptor, and the counter of the file is still two. -/
theorem close_keeps_counter :
    CountsDescriptors bootSystem ∧
      run descriptorStep bootSystem (openAndDup ++ [⟨1, 0, .close 3⟩]) =
        .ok ([⟨0, [], none⟩, ⟨3, [], none⟩, ⟨0, [], none⟩], (closeImp openedTwice 3).2) ∧
      ¬ CountsDescriptors (closeImp openedTwice 3).2 := by
  have hloaded : ¬ OpensUnloaded bootSystem (some "README.TXT") readmeAnswers := by
    rintro ⟨_, _, _, _, _, _, _, _, hsize⟩
    cases hsize
  have hopen := (openImp_proper_iff counts_bootSystem _ _).mpr hloaded
  have hcounts : CountsDescriptors openedTwice := (sysDup2_proper hopen.1 0 3).1
  have hempties : Empties openedTwice 3 :=
    ⟨by decide, by decide, _, 0, _, rfl, rfl, rfl, by decide, rfl⟩
  refine ⟨counts_bootSystem, rfl, ?_⟩
  intro hafter
  exact (closeImp_proper_iff hcounts 3).mp (proper_answer hafter _ _) hempties

end Gramado.Ke.ReferenceCount
