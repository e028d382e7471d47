import Gramado.Ke.CopyProcess

/-! What a cloning that returns -1 leaves behind. -/

namespace Gramado.Ke.CloneAtomicity

open Ke.CopyProcess Ke.ProcessTable Mm.PageTables

/-- Nothing of a call is left: neither a process, a descriptor, a reference to a file or a heap
slice, nor a thread that could be selected. -/
structure Undone (s s' : System) (parentPid : Int) : Prop where
  processes : s'.teList = s.teList
  threads : s'.threadList = s.threadList
  objects : (s'.teList parentPid.toNat).map Process.objects =
    (s.teList parentPid.toNat).map Process.objects
  counters : ∀ fp : Nat, (s'.files[fp]?).map OpenFile.fdCounter = (s.files[fp]?).map OpenFile.fdCounter
  heapSlices : s'.gHeapCount = s.gHeapCount
  selectable : ∀ tid thread, s'.threadList tid = some thread → s.threadList tid ≠ none

/-- The flags are wrong, or the parent is not valid, or there is no room for a process and the
flower thread of the parent is running. -/
def FailsBeforeCreation (s : System) (c : CloneCall) : Prop :=
  c.cloneFlags &&& F_CLONE_UNIX_STYLE ≠ 0 ∨ parentOf s c.pid = .ok none ∨
    (c.processRoom = false ∨ getNewPID s = none) ∧
      ∀ parent tid thread, parentOf s c.pid = .ok (some (parent, tid, thread)) →
        thread.state = .running

theorem parentOf_setPaging (s : System) (paging : Paging) (pid : Int) :
    parentOf (setPaging s paging) pid = parentOf s pid := rfl

theorem undone_setPaging (s : System) (paging : Paging) (parentPid : Int) :
    Undone s (setPaging s paging) parentPid := by
  refine ⟨rfl, rfl, rfl, fun _ => rfl, rfl, ?_⟩
  intro tid thread h hnone
  rw [show s.threadList tid = some thread from h] at hnone
  cases hnone

variable {s s' : System} {c : CloneCall} {parentTid childPid childTid : Nat}

theorem undone_callerState {paging : Paging} {tid : Nat} {thread : Thread} (parentPid : Int)
    (hthread : s.threadList tid = some thread) :
    Undone s (callerState s paging tid thread) parentPid ↔ thread.state = .running := by
  constructor
  · intro h
    have hat : Function.update s.threadList tid (some (setRunning thread)) tid =
        s.threadList tid := congrFun h.threads tid
    rw [Function.update_self, hthread] at hat
    have hstate := congrArg Thread.state (Option.some.inj hat)
    exact hstate.symm
  · intro hstate
    have hrunning : setRunning thread = thread := by
      rw [setRunning, ← hstate]
    have hsame : callerState s paging tid thread = setPaging s paging := by
      have hlist : (setPaging s paging).threadList tid = some thread := hthread
      rw [callerState, System.setThread, hrunning, ← hlist, Function.update_eq_self]
    rw [hsame]
    exact undone_setPaging s paging parentPid

theorem prepareChild_registers {parentPid pml4Va : Nat}
    (h : prepareChild s c parentPid parentTid childPid pml4Va = .ok (childTid, s')) :
    ∃ child, s'.teList childPid = some child := by
  obtain ⟨_, _, _, _, _, _, _, _, _, _, _, _, _, _, _, _, _, _, _, hchild, _, rfl⟩ :=
    prepareChild_ok h
  exact ⟨_, ProcessList.set_same hchild _⟩

theorem not_undone_of_creates (parentPid : Int) (h : Creates s c parentTid childPid childTid s') :
    ¬ Undone s s' parentPid := by
  intro hundone
  obtain ⟨_, _, _, _, _, _, _, hprepare⟩ := h.steps
  obtain ⟨child, hchild⟩ := prepareChild_registers hprepare
  rw [hundone.processes, (getNewPID_some h.newPid).1] at hchild
  cases hchild

theorem not_failsBeforeCreation (h : Creates s c parentTid childPid childTid s') :
    ¬ FailsBeforeCreation s c := by
  obtain ⟨_, _, parent, thread, _, hparent, _⟩ := h.steps
  rw [parentOf_setPaging] at hparent
  rintro (hflags | hnone | ⟨hroom | hpid, _⟩)
  · exact hflags h.flags
  · rw [hparent] at hnone
    cases hnone
  · rw [h.room] at hroom
    cases hroom
  · rw [h.newPid] at hpid
    cases hpid

theorem undone_iff_of_failsEarly (h : FailsEarly s c s') :
    Undone s s' c.pid ↔ FailsBeforeCreation s c := by
  cases h with
  | flags hflags =>
      constructor
      · intro _
        exact .inl hflags
      · intro _
        exact undone_setPaging s s.paging c.pid
  | parent hflags _ hparent =>
      constructor
      · intro _
        exact .inr (.inl hparent)
      · intro _
        exact undone_setPaging s _ c.pid
  | object hflags _ hparent hroom =>
      rw [parentOf_setPaging] at hparent
      obtain ⟨_, _, _, _, _, hthread, _⟩ := parentOf_some hparent
      rw [undone_callerState c.pid hthread]
      constructor
      · intro hstate
        refine .inr (.inr ⟨hroom, ?_⟩)
        intro parent tid thread hparent'
        rw [hparent] at hparent'
        cases hparent'
        exact hstate
      · rintro (hflags' | hnone | ⟨_, hrunning⟩)
        · exact absurd hflags hflags'
        · rw [hparent] at hnone
          cases hnone
        · exact hrunning _ _ _ hparent

/-- The atomicity of the cloning: a call that returns -1 has left nothing behind exactly if it
has failed before it had created a process. -/
theorem clone_undone_iff {s s' : System} {c : CloneCall}
    (h : copyProcess00 s c = .ok (-1, s')) :
    Undone s s' c.pid ↔ FailsBeforeCreation s c := by
  obtain ⟨hearly, _⟩ | ⟨parentTid, childPid, childTid, ⟨hcreates, _⟩ | ⟨_, _, hresult, _⟩⟩ :=
    copyProcess00_ok h
  · exact undone_iff_of_failsEarly hearly
  · constructor
    · intro hundone
      exact absurd hundone (not_undone_of_creates c.pid hcreates)
    · intro hfails
      exact absurd hfails (not_failsBeforeCreation hcreates)
  · omega

/-- The first process calls with the flag of the Unix style. -/
theorem clone_undone_iff_flags :
    Undone bootSystem bootSystem 1 ↔
      FailsBeforeCreation bootSystem { bootCall 0 with cloneFlags := F_CLONE_UNIX_STYLE } := by
  have hcall : copyProcess00 bootSystem
      { bootCall 0 with cloneFlags := F_CLONE_UNIX_STYLE } = .ok (-1, bootSystem) := rfl
  exact clone_undone_iff hcall

/-- The file of the image cannot be loaded: the child has a heap slice, and stays in the list of
the processes. -/
theorem failed_load_not_undone :
    ∃ s', copyProcess00 bootSystem (bootCall 1) = .ok (-1, s') ∧ ¬ Undone bootSystem s' 1 := by
  have hcall : ((copyProcess00 bootSystem (bootCall 1)).toOption.map fun r =>
      (r.1, r.2.gHeapCount)) = some (-1, 3) := by decide +kernel
  cases hresult : copyProcess00 bootSystem (bootCall 1) with
  | error e =>
      rw [hresult] at hcall
      cases hcall
  | ok r =>
      rw [hresult] at hcall
      obtain ⟨result, s'⟩ := r
      obtain ⟨hminus, hslices⟩ := Prod.mk.inj (Option.some.inj hcall)
      refine ⟨s', ?_, ?_⟩
      · rw [← hminus]
      · intro hundone
        have hsame := hundone.heapSlices
        change s'.gHeapCount = 3 at hslices
        change s'.gHeapCount = 2 at hsame
        omega

end Gramado.Ke.CloneAtomicity
