import Gramado.Io.LineDiscipline

/-! What the routines of a tty do to the indices and the count of its queues. -/

namespace Gramado.Io.QueueDiscipline

open Library.Run Io.FileObject
open Io.Pty (TtyQueue TTY_BUF_SIZE newQueue ttyQueueGetchar ttyQueuePutchar
  ttyQueueGetchar_spec ttyQueuePutchar_spec contents_length occupied_lt valid_newQueue
  contents_newQueue)
open Io.LineDiscipline

inductive QueueCall where
  | put (c : UInt8)
  | get
  | flush
  | erase
  deriving DecidableEq, Repr

def queueStep (q : TtyQueue) : QueueCall → Outcome × TtyQueue
  | .put c => (⟨(ttyQueuePutchar q c).1, []⟩, (ttyQueuePutchar q c).2)
  | .get =>
      let (c, q) := ttyQueueGetchar q
      (⟨c, if c < 0 then [] else [UInt8.ofNat c.toNat]⟩, q)
  | .flush =>
      let (bytes, q) := drain q.bufferSize q
      (⟨0, bytes⟩, q)
  | .erase => (⟨0, []⟩, LineDiscipline.erase q)

/-- The characters that have entered and are not erased, and those that have left. An erase
takes the last one back that has entered, unless it has left. -/
structure Record where
  survivors : List UInt8
  left : List UInt8

def Record.add (r : Record) : QueueCall → Outcome → Record
  | .put c, out => if out.result = 0 then { r with survivors := r.survivors ++ [c] } else r
  | .get, out => { r with left := r.left ++ out.bytes }
  | .flush, out => { r with left := r.left ++ out.bytes }
  | .erase, _ =>
      if r.left.length < r.survivors.length then
        { r with survivors := r.survivors.dropLast }
      else r

structure Recorded where
  queue : TtyQueue
  record : Record

def recordedStep (s : Recorded) (call : QueueCall) : Except Empty (Outcome × Recorded) :=
  let (out, q) := queueStep s.queue call
  .ok (out, ⟨q, s.record.add call out⟩)

def start : Recorded := ⟨newQueue, ⟨[], []⟩⟩

structure Tracks (s : Recorded) : Prop where
  valid : s.queue.Valid
  survivors : s.record.survivors = s.record.left ++ s.queue.contents

theorem tracks_start : Tracks start := by
  refine ⟨valid_newQueue, ?_⟩
  simp [start, contents_newQueue]

variable {s t : Recorded} {q : TtyQueue} {call : QueueCall} {out : Outcome} {tty : Tty}

theorem tracks_put (h : Tracks s) (c : UInt8) : Tracks ⟨(queueStep s.queue (.put c)).2,
      s.record.add (.put c) (queueStep s.queue (.put c)).1⟩ := by
  rcases ttyQueuePutchar_spec h.valid c with ⟨_, hfull⟩ | ⟨_, hrc, hvalid, hcontents⟩
  · simpa [queueStep, hfull, Record.add] using h
  · refine ⟨hvalid, ?_⟩
    simp [queueStep, hrc, hcontents, Record.add, h.survivors]

theorem tracks_get (h : Tracks s) :
    Tracks ⟨(queueStep s.queue .get).2, s.record.add .get (queueStep s.queue .get).1⟩ := by
  rcases ttyQueueGetchar_spec h.valid with ⟨_, hempty⟩ | ⟨c, hc, hvalid, hcontents⟩
  · simpa [queueStep, hempty, Record.add] using h
  · refine ⟨hvalid, ?_⟩
    have hnonneg : ¬ (c.toNat : Int) < 0 := by omega
    simp [queueStep, hc, hnonneg, Record.add, h.survivors, hcontents]

theorem occupied_le_bufferSize (h : q.Valid) : q.occupied ≤ q.bufferSize := by
  rw [h.bufferSize]
  exact (occupied_lt q).le

theorem tracks_flush (h : Tracks s) :
    Tracks ⟨(queueStep s.queue .flush).2, s.record.add .flush (queueStep s.queue .flush).1⟩ := by
  obtain ⟨hbytes, hcontents, hvalid⟩ := drain_spec h.valid (occupied_le_bufferSize h.valid)
  refine ⟨hvalid, ?_⟩
  simp [queueStep, hbytes, hcontents, Record.add, h.survivors]

theorem tracks_erase (h : Tracks s) :
    Tracks ⟨(queueStep s.queue .erase).2, s.record.add .erase (queueStep s.queue .erase).1⟩ := by
  obtain ⟨hcontents, hvalid⟩ := erase_spec h.valid
  refine ⟨hvalid, ?_⟩
  have hlength := congrArg List.length h.survivors
  rw [List.length_append] at hlength
  rcases eq_or_ne s.queue.contents [] with hempty | hne
  · simp [queueStep, hcontents, Record.add, h.survivors, hempty]
  · have hleft : s.record.left.length < s.record.survivors.length := by
      have := List.length_pos_iff.mpr hne
      omega
    rw [Record.add, if_pos hleft, h.survivors, List.dropLast_append_of_ne_nil hne]
    exact congrArg (s.record.left ++ ·) hcontents.symm

theorem tracks_step (h : Tracks s) (hstep : recordedStep s call = .ok (out, t)) : Tracks t := by
  obtain ⟨rfl, rfl⟩ := Prod.mk.inj (Except.ok.inj hstep)
  cases call with
  | put c => exact tracks_put h c
  | get => exact tracks_get h
  | flush => exact tracks_flush h
  | erase => exact tracks_erase h

theorem add_left (r : Record) (q : TtyQueue) (call : QueueCall) :
    (r.add call (queueStep q call).1).left = r.left ++ (queueStep q call).1.bytes := by
  cases call with
  | put c =>
      by_cases hrc : (ttyQueuePutchar q c).1 = 0 <;> simp [Record.add, queueStep, hrc]
  | get => rfl
  | flush => rfl
  | erase =>
      by_cases hleft : r.left.length < r.survivors.length <;>
        simp [Record.add, queueStep, hleft]

theorem left_step (hstep : recordedStep s call = .ok (out, t)) :
    t.record.left = s.record.left ++ out.bytes := by
  obtain ⟨rfl, rfl⟩ := Prod.mk.inj (Except.ok.inj hstep)
  exact add_left s.record s.queue call

theorem left_run {calls : List QueueCall} {outs : List Outcome}
    (hrun : run recordedStep s calls = .ok (outs, t)) :
    t.record.left = s.record.left ++ (outs.map Outcome.bytes).flatten := by
  induction calls generalizing s outs with
  | nil =>
      cases hrun
      simp
  | cons call calls ih =>
      obtain ⟨out, mid, outs', hstep, hrest, rfl⟩ := run_cons_ok hrun
      rw [ih hrest, left_step hstep]
      simp

/-- What holds of a queue in every state that it reaches. -/
structure Disciplined (s : Recorded) : Prop where
  head_lt : s.queue.head < s.queue.bufferSize
  tail_lt : s.queue.tail < s.queue.bufferSize
  cnt : s.queue.cnt = ((s.queue.head : Int) - s.queue.tail) % s.queue.bufferSize
  held_le : s.queue.contents.length ≤ s.queue.bufferSize - 1
  order : s.record.left ++ s.queue.contents = s.record.survivors
  full : ∀ c, (ttyQueuePutchar s.queue c).1 = -1 ↔
    s.queue.contents.length = s.queue.bufferSize - 1

theorem Tracks.disciplined (h : Tracks s) : Disciplined s := by
  obtain ⟨hvalid, hsurvivors⟩ := h
  obtain ⟨hsize, hhead, htail, hcnt⟩ := hvalid
  have hlt := occupied_lt s.queue
  constructor
  · rwa [hsize]
  · rwa [hsize]
  · rw [hcnt, hsize]
    unfold TtyQueue.occupied TTY_BUF_SIZE at *
    omega
  · rw [contents_length, hsize]
    omega
  · exact hsurvivors.symm
  · intro c
    rw [contents_length, hsize]
    rcases ttyQueuePutchar_spec ⟨hsize, hhead, htail, hcnt⟩ c with
      ⟨hfull, hput⟩ | ⟨hroom, hrc, _, _⟩
    · rw [hput]
      constructor
      · intro _
        omega
      · intro _
        rfl
    · rw [hrc]
      constructor
      · intro h
        cases h
      · intro h
        omega

/-- In every state that a queue reaches from its initial one by puts, gets, flushes and erases,
the indices and the count agree, and what has left is the front of what has entered and is not
erased. -/
theorem tty_queue_run {calls : List QueueCall} {outs : List Outcome} {s : Recorded}
    (hrun : run recordedStep start calls = .ok (outs, s)) :
    Disciplined s ∧ s.record.left = (outs.map Outcome.bytes).flatten := by
  refine ⟨Tracks.disciplined ?_, left_run hrun⟩
  exact run_invariant Tracks (fun _ _ _ _ hs _ hstep => tracks_step hs hstep) tracks_start
    (guarded_true _ _) hrun

/-- A queue is put to, erased at the back and read. -/
theorem tty_queue_run_example :
    ∃ s, run recordedStep start [.put 97, .put 98, .erase, .put 99, .get, .flush] =
        .ok ([⟨0, []⟩, ⟨0, []⟩, ⟨0, []⟩, ⟨0, []⟩, ⟨97, [97]⟩, ⟨0, [99]⟩], s) ∧
      Disciplined s ∧ s.record.left = [97, 99] := by
  obtain ⟨s, hrun⟩ : ∃ s, run recordedStep start
      [.put 97, .put 98, .erase, .put 99, .get, .flush] =
        .ok ([⟨0, []⟩, ⟨0, []⟩, ⟨0, []⟩, ⟨0, []⟩, ⟨97, [97]⟩, ⟨0, [99]⟩], s) := ⟨_, rfl⟩
  exact ⟨s, hrun, tty_queue_run hrun⟩

end Gramado.Io.QueueDiscipline
