import Gramado.Library.Ring
import Gramado.Library.Run
import Gramado.Io.FileObject

namespace Gramado.Io.PipeBuffer

open Library Io.FileObject

def readByte (pi : PipeInfo) : UInt8 × PipeInfo :=
  let readPos := if pi.bufferSize ≤ pi.readPos then 0 else pi.readPos
  (pi.base readPos, { pi with readPos := readPos + 1, counter := pi.counter - 1 })

def readLoop : Nat → PipeInfo → List UInt8 × PipeInfo
  | 0, pi => ([], pi)
  | len + 1, pi =>
      if pi.counter ≤ 0 then ([], { pi with counter := 0 })
      else
        let (byte, pi) := readByte pi
        let (bytes, pi) := readLoop len pi
        (byte :: bytes, pi)

def writeByte (pi : PipeInfo) (byte : UInt8) : PipeInfo :=
  let writePos := if pi.bufferSize ≤ pi.writePos then 0 else pi.writePos
  { pi with
    base := Function.update pi.base writePos byte
    writePos := writePos + 1
    counter := pi.counter + 1 }

def writeLoop : Nat → (Nat → UInt8) → PipeInfo → Nat × PipeInfo
  | 0, _, pi => (0, pi)
  | len + 1, p, pi =>
      if (pi.bufferSize : Int) ≤ pi.counter then (0, pi)
      else
        let (count, pi) := writeLoop len (fun i => p (i + 1)) (writeByte pi (p 0))
        (count + 1, pi)

/-- `buffer` says whether the caller's buffer is a pointer other than `NULL`. -/
def fileReadPipeBuffer (f : File) (buffer : Bool) (len : Int) : Outcome × File :=
  if f.object ≠ .pipe then (⟨-EBADF, []⟩, f)
  else if ¬ f.Valid then (⟨-EBADF, []⟩, f)
  else if buffer = false ∨ len ≤ 0 then (⟨-EINVAL, []⟩, f)
  else
    match f.pipeInfo with
    | none => (⟨-EBADF, []⟩, f)
    | some pi =>
        let (bytes, pi) := readLoop len.toNat pi
        (⟨bytes.length, bytes⟩,
          { f with
            pipeInfo := some pi, flags := SWR, sync := { f.sync with canWrite := true } })

def fileWritePipeBuffer (f : File) (buffer : Option (Nat → UInt8)) (len : Int) :
    Outcome × File :=
  if f.object ≠ .pipe then (⟨-EBADF, []⟩, f)
  else if ¬ f.Valid then (⟨-EBADF, []⟩, f)
  else
    match buffer with
    | none => (⟨-EINVAL, []⟩, f)
    | some p =>
        if len ≤ 0 then (⟨-EINVAL, []⟩, f)
        else
          match f.pipeInfo with
          | none => (⟨-EBADF, []⟩, f)
          | some pi =>
              let (count, pi) := writeLoop len.toNat p pi
              (⟨count, []⟩,
                { f with
                  pipeInfo := some pi, flags := SRD, sync := { f.sync with canRead := true } })

/-- The `pipe_info` that `sys_pipe` makes over a fresh buffer. -/
def sysPipeInfo (shBuff : Nat → UInt8) : PipeInfo where
  base := shBuff
  bufferSize := BUFSIZ
  counter := 0
  readPos := 0
  writePos := 0

/-- One end of a pipe as `sys_pipe` leaves it. What it does not set stays as the
allocator's block holds it. -/
def sysPipeFile (block : File) (shBuff slot : Int) (memory : Nat → UInt8) : File :=
  { block with
    used := true
    magic := 1234
    object := .pipe
    sync := { block.sync with
      action := 0, canRead := true, canWrite := true, canAccept := false, canConnect := false }
    base := shBuff
    p := shBuff
    lbfsize := BUFSIZ
    fsize := 0
    cnt := BUFSIZ
    r := 0
    w := 0
    file := slot
    pipeInfo := some (sysPipeInfo memory) }

/-- The two descriptors of a pipe, `pipefd[0]` and `pipefd[1]`. -/
inductive PipeFd where
  | f1
  | f2
  deriving DecidableEq, Repr

/-- The two files of a pipe. Both point to one `pipe_info`. -/
structure Pipe where
  f1 : File
  f2 : File
  shared : f1.pipeInfo = f2.pipeInfo

def Pipe.file (s : Pipe) : PipeFd → File
  | .f1 => s.f1
  | .f2 => s.f2

/-- A call on one end changes the `pipe_info` that the other end sees. -/
def Pipe.setFile (s : Pipe) (fd : PipeFd) (f : File) : Pipe :=
  match fd with
  | .f1 => ⟨f, { s.f2 with pipeInfo := f.pipeInfo }, rfl⟩
  | .f2 => ⟨{ s.f1 with pipeInfo := f.pipeInfo }, f, rfl⟩

def sysPipe (block1 block2 : File) (shBuff slot1 slot2 : Int) (memory : Nat → UInt8) :
    Pipe where
  f1 := sysPipeFile block1 shBuff slot1 memory
  f2 := sysPipeFile block2 shBuff slot2 memory
  shared := rfl

def contents (pi : PipeInfo) : List UInt8 :=
  Ring.window pi.base pi.bufferSize pi.readPos pi.counter.toNat

/-- Both positions may stand at the end of the buffer: the loops go back to its start only
before the next byte. -/
structure WellFormed (pi : PipeInfo) : Prop where
  bufferSize_pos : 0 < pi.bufferSize
  counter_nonneg : 0 ≤ pi.counter
  counter_le : pi.counter ≤ pi.bufferSize
  readPos_le : pi.readPos ≤ pi.bufferSize
  writePos_le : pi.writePos ≤ pi.bufferSize
  positions : pi.writePos % pi.bufferSize =
    (pi.readPos + pi.counter.toNat) % pi.bufferSize

variable {pi : PipeInfo} {f : File} {s : Pipe}

theorem wrapped_eq_mod {size position : Nat} (h : position ≤ size) :
    (if size ≤ position then 0 else position) = position % size := by
  split
  · have heq : position = size := by omega
    rw [heq, Nat.mod_self]
  · rw [Nat.mod_eq_of_lt (by omega)]

theorem contents_readByte (h : WellFormed pi) (hcounter : 0 < pi.counter) :
    contents pi = (readByte pi).1 :: contents (readByte pi).2 ∧ WellFormed (readByte pi).2 := by
  obtain ⟨n, hn⟩ : ∃ n : Nat, pi.counter = n + 1 := ⟨(pi.counter - 1).toNat, by omega⟩
  have hmod := wrapped_eq_mod h.readPos_le
  have hlt : pi.readPos % pi.bufferSize < pi.bufferSize := Nat.mod_lt _ h.bufferSize_pos
  have htoNat : pi.counter.toNat = n + 1 := by omega
  have hpred : (pi.counter - 1).toNat = n := by omega
  simp only [readByte, hmod]
  constructor
  · simp only [contents, htoNat, hpred, Ring.window_succ]
    congr 1
    apply Ring.window_modEq
    rw [Nat.mod_add_mod]
  · have hle := h.counter_le
    refine ⟨h.bufferSize_pos, ?_, ?_, hlt, h.writePos_le, ?_⟩
    · change (0 : Int) ≤ pi.counter - 1
      omega
    · change pi.counter - 1 ≤ (pi.bufferSize : Int)
      omega
    · change pi.writePos % pi.bufferSize =
        (pi.readPos % pi.bufferSize + 1 + (pi.counter - 1).toNat) % pi.bufferSize
      rw [h.positions, htoNat, hpred, Nat.add_assoc, Nat.mod_add_mod, Nat.add_comm 1 n]

theorem contents_writeByte (byte : UInt8) (h : WellFormed pi)
    (hcounter : pi.counter < pi.bufferSize) :
    contents (writeByte pi byte) = contents pi ++ [byte] ∧ WellFormed (writeByte pi byte) := by
  have hmod := wrapped_eq_mod h.writePos_le
  have hlt : pi.writePos % pi.bufferSize < pi.bufferSize := Nat.mod_lt _ h.bufferSize_pos
  have hnonneg := h.counter_nonneg
  have hsucc : (pi.counter + 1).toNat = pi.counter.toNat + 1 := by omega
  simp only [writeByte, hmod]
  constructor
  · simp only [contents, hsucc]
    exact Ring.window_push _ _ (by omega) h.positions
  · refine ⟨h.bufferSize_pos, ?_, ?_, h.readPos_le, hlt, ?_⟩
    · change (0 : Int) ≤ pi.counter + 1
      omega
    · change pi.counter + 1 ≤ (pi.bufferSize : Int)
      omega
    · change (pi.writePos % pi.bufferSize + 1) % pi.bufferSize =
        (pi.readPos + (pi.counter + 1).toNat) % pi.bufferSize
      rw [h.positions, hsucc, Nat.mod_add_mod, Nat.add_assoc]

@[simp] theorem readByte_bufferSize (pi : PipeInfo) :
    (readByte pi).2.bufferSize = pi.bufferSize := rfl

@[simp] theorem readByte_counter (pi : PipeInfo) : (readByte pi).2.counter = pi.counter - 1 := rfl

@[simp] theorem writeByte_bufferSize (pi : PipeInfo) (byte : UInt8) :
    (writeByte pi byte).bufferSize = pi.bufferSize := rfl

@[simp] theorem writeByte_counter (pi : PipeInfo) (byte : UInt8) :
    (writeByte pi byte).counter = pi.counter + 1 := rfl

theorem readLoop_spec (len : Nat) (h : WellFormed pi) :
    contents pi = (readLoop len pi).1 ++ contents (readLoop len pi).2 ∧
      (readLoop len pi).1.length = min len pi.counter.toNat ∧
      (readLoop len pi).2.bufferSize = pi.bufferSize ∧
      WellFormed (readLoop len pi).2 := by
  induction len generalizing pi with
  | zero => simp [readLoop, h]
  | succ len ih =>
      have hnonneg := h.counter_nonneg
      by_cases hempty : pi.counter ≤ 0
      · have hzero : pi.counter = 0 := by omega
        have hsame : { pi with counter := 0 } = pi := by rw [← hzero]
        simp only [readLoop, hempty, if_true, hsame]
        simp [hzero, h]
      · obtain ⟨hcontents, hbyte⟩ := contents_readByte h (by omega)
        obtain ⟨hrest, hlength, hsize, hwf⟩ := ih hbyte
        simp only [readLoop, hempty, if_false]
        refine ⟨?_, ?_, by rw [hsize, readByte_bufferSize], hwf⟩
        · rw [hcontents, hrest, List.cons_append]
        · rw [List.length_cons, hlength, readByte_counter]
          omega

theorem writeLoop_spec (len : Nat) (p : Nat → UInt8) (h : WellFormed pi) :
    contents (writeLoop len p pi).2 = contents pi ++ (List.range (writeLoop len p pi).1).map p ∧
      (writeLoop len p pi).1 = min len (pi.bufferSize - pi.counter.toNat) ∧
      (writeLoop len p pi).2.bufferSize = pi.bufferSize ∧
      WellFormed (writeLoop len p pi).2 := by
  induction len generalizing p pi with
  | zero => simp [writeLoop, h]
  | succ len ih =>
      have hnonneg := h.counter_nonneg
      have hle := h.counter_le
      by_cases hfull : (pi.bufferSize : Int) ≤ pi.counter
      · have hspace : pi.bufferSize - pi.counter.toNat = 0 := by omega
        simp only [writeLoop, hfull, if_true]
        simp [hspace, h]
      · obtain ⟨hcontents, hbyte⟩ := contents_writeByte (p 0) h (by omega)
        obtain ⟨hrest, hlength, hsize, hwf⟩ := ih (fun i => p (i + 1)) hbyte
        simp only [writeLoop, hfull, if_false]
        refine ⟨?_, ?_, by rw [hsize, writeByte_bufferSize], hwf⟩
        · rw [hrest, hcontents, List.range_succ_eq_map, List.append_assoc, List.map_cons,
            List.map_map]
          rfl
        · rw [hlength, writeByte_counter, writeByte_bufferSize]
          omega

/-- The calls that the processes with a descriptor of the pipe can make. -/
inductive PipeCall where
  | read (fd : PipeFd) (buffer : Bool) (len : Int)
  | write (fd : PipeFd) (buffer : Option (Nat → UInt8)) (len : Int)

def pipeStep (s : Pipe) : PipeCall → Except String (Outcome × Pipe)
  | .read fd buffer len =>
      let (out, f) := fileReadPipeBuffer (s.file fd) buffer len
      .ok (out, s.setFile fd f)
  | .write fd buffer len =>
      let (out, f) := fileWritePipeBuffer (s.file fd) buffer len
      .ok (out, s.setFile fd f)

def accepted : PipeCall → Outcome → List UInt8
  | .read _ _ _, _ => []
  | .write _ none _, _ => []
  | .write _ (some p) _, out => (List.range out.result.toNat).map p

def returned (_ : PipeCall) (out : Outcome) : List UInt8 :=
  out.bytes

def Answers (pi : PipeInfo) : PipeCall → Outcome → PipeInfo → Prop
  | .read _ buffer len, out, pi' =>
      if buffer = true ∧ 0 < len then
        out.result = min len pi.counter ∧ (out.bytes.length : Int) = out.result
      else out = ⟨-EINVAL, []⟩ ∧ pi' = pi
  | .write _ buffer len, out, pi' =>
      if buffer.isSome = true ∧ 0 < len then
        out.result = min len (pi.bufferSize - pi.counter)
      else out = ⟨-EINVAL, []⟩ ∧ pi' = pi

structure PipeFile (f : File) (pi : PipeInfo) : Prop where
  object : f.object = .pipe
  valid : f.Valid
  pipeInfo : f.pipeInfo = some pi
  wellFormed : WellFormed pi

theorem fileReadPipeBuffer_spec (h : PipeFile f pi) (fd : PipeFd) (buffer : Bool) (len : Int) :
    ∃ out f' pi', fileReadPipeBuffer f buffer len = (out, f') ∧ PipeFile f' pi' ∧
      pi'.bufferSize = pi.bufferSize ∧
      contents pi = out.bytes ++ contents pi' ∧
      Answers pi (.read fd buffer len) out pi' := by
  have hobject := h.object
  have hvalid := h.valid
  unfold fileReadPipeBuffer
  rw [if_neg (not_not_intro hobject), if_neg (not_not_intro hvalid)]
  by_cases hbad : buffer = false ∨ len ≤ 0
  · have hnot : ¬ (buffer = true ∧ 0 < len) := by
      rintro ⟨hbuffer, hlen⟩
      rcases hbad with hfalse | hle
      · rw [hbuffer] at hfalse
        cases hfalse
      · omega
    rw [if_pos hbad]
    refine ⟨_, _, pi, rfl, h, rfl, rfl, ?_⟩
    simp only [Answers, hnot, if_false, and_self]
  · have hgood : buffer = true ∧ 0 < len := by
      constructor
      · cases buffer with
        | false => exact absurd (.inl rfl) hbad
        | true => rfl
      · omega
    obtain ⟨hcontents, hlength, hsize, hwf⟩ := readLoop_spec len.toNat h.wellFormed
    have hnonneg := h.wellFormed.counter_nonneg
    rw [if_neg hbad]
    simp only [h.pipeInfo]
    refine ⟨_, _, _, rfl, ⟨hobject, hvalid, rfl, hwf⟩, hsize, hcontents, ?_⟩
    simp only [Answers, hgood, and_self, if_true, and_true]
    rw [hlength]
    omega

theorem fileWritePipeBuffer_spec (h : PipeFile f pi) (fd : PipeFd) (buffer : Option (Nat → UInt8))
    (len : Int) :
    ∃ out f' pi', fileWritePipeBuffer f buffer len = (out, f') ∧ PipeFile f' pi' ∧
      pi'.bufferSize = pi.bufferSize ∧ out.bytes = [] ∧
      contents pi ++ accepted (.write fd buffer len) out = contents pi' ∧
      Answers pi (.write fd buffer len) out pi' := by
  have hobject := h.object
  have hvalid := h.valid
  unfold fileWritePipeBuffer
  rw [if_neg (not_not_intro hobject), if_neg (not_not_intro hvalid)]
  cases buffer with
  | none =>
      refine ⟨_, _, pi, rfl, h, rfl, rfl, List.append_nil _, ?_⟩
      simp [Answers]
  | some p =>
      by_cases hbad : len ≤ 0
      · have hnot : ¬ 0 < len := by omega
        simp only [hbad, if_true]
        refine ⟨_, _, pi, rfl, h, rfl, rfl, ?_, ?_⟩
        · simp [accepted, EINVAL]
        · simp only [Answers, hnot, and_false, if_false, and_self]
      · obtain ⟨hcontents, hcount, hsize, hwf⟩ := writeLoop_spec len.toNat p h.wellFormed
        have hle := h.wellFormed.counter_le
        have hnonneg := h.wellFormed.counter_nonneg
        have hlen : 0 < len := by omega
        simp only [hbad, if_false, h.pipeInfo]
        refine ⟨_, _, _, rfl, ⟨hobject, hvalid, rfl, hwf⟩, hsize, rfl, hcontents.symm, ?_⟩
        simp only [Answers, Option.isSome_some, hlen, and_self, if_true]
        rw [hcount]
        omega

/-- Both ends of the pipe are in good order and point to `pi`. -/
def PipeInv (s : Pipe) (pi : PipeInfo) : Prop :=
  ∀ fd, PipeFile (s.file fd) pi

theorem pipeInv_setFile {pi' : PipeInfo} (fd : PipeFd) (hs : PipeInv s pi) (hf : PipeFile f pi') :
    PipeInv (s.setFile fd f) pi' := by
  have h1 := hs .f1
  have h2 := hs .f2
  cases fd with
  | f1 =>
      rintro (_ | _)
      · exact hf
      · exact ⟨h2.object, h2.valid, hf.pipeInfo, hf.wellFormed⟩
  | f2 =>
      rintro (_ | _)
      · exact ⟨h1.object, h1.valid, hf.pipeInfo, hf.wellFormed⟩
      · exact hf

theorem pipeStep_spec (h : PipeInv s pi) (call : PipeCall) :
    ∃ out s' pi', pipeStep s call = .ok (out, s') ∧ PipeInv s' pi' ∧
      pi'.bufferSize = pi.bufferSize ∧
      contents pi ++ accepted call out = returned call out ++ contents pi' ∧
      Answers pi call out pi' := by
  cases call with
  | read fd buffer len =>
      obtain ⟨out, f', pi', hcall, hf', hsize, hcontents, hanswers⟩ :=
        fileReadPipeBuffer_spec (h fd) fd buffer len
      refine ⟨out, s.setFile fd f', pi', ?_, pipeInv_setFile fd h hf', hsize, ?_, hanswers⟩
      · rw [pipeStep, hcall]
      · rw [accepted, List.append_nil]
        exact hcontents
  | write fd buffer len =>
      obtain ⟨out, f', pi', hcall, hf', hsize, hbytes, hcontents, hanswers⟩ :=
        fileWritePipeBuffer_spec (h fd) fd buffer len
      refine ⟨out, s.setFile fd f', pi', ?_, pipeInv_setFile fd h hf', hsize, ?_, hanswers⟩
      · rw [pipeStep, hcall]
      · rw [returned, hbytes, List.nil_append]
        exact hcontents

theorem sysPipe_inv (block1 block2 : File) (shBuff slot1 slot2 : Int)
    (memory : Nat → UInt8) :
    PipeInv (sysPipe block1 block2 shBuff slot1 slot2 memory) (sysPipeInfo memory) := by
  have hwf : WellFormed (sysPipeInfo memory) := by
    refine ⟨?_, le_refl _, ?_, Nat.zero_le _, Nat.zero_le _, rfl⟩
    · change 0 < BUFSIZ
      decide
    · change (0 : Int) ≤ BUFSIZ
      decide
  rintro (_ | _) <;> exact ⟨rfl, ⟨rfl, rfl⟩, rfl, hwf⟩

/-- The invariant of a pipe that `sys_pipe` made: its size is `BUFSIZ` throughout. -/
def Reached (s : Pipe) : Prop :=
  ∃ pi, PipeInv s pi ∧ pi.bufferSize = BUFSIZ

/-- After any calls on a new pipe its counters are in range and agree, what the reads have
returned is a prefix of what the writes have accepted, and the next call, whatever it is,
moves as many bytes as the pipe allows. -/
theorem pipe_run_fifo (block1 block2 : File) (shBuff slot1 slot2 : Int)
    (memory : Nat → UInt8) (calls : List PipeCall) (call : PipeCall) :
    ∃ outs s pi out s' pi',
      Run.run pipeStep (sysPipe block1 block2 shBuff slot1 slot2 memory) calls =
        .ok (outs, s) ∧
      s.f1.pipeInfo = some pi ∧ WellFormed pi ∧ pi.bufferSize = BUFSIZ ∧
      Run.gather returned calls outs <+: Run.gather accepted calls outs ∧
      pipeStep s call = .ok (out, s') ∧ s'.f1.pipeInfo = some pi' ∧
      Answers pi call out pi' := by
  have hinit : Reached (sysPipe block1 block2 shBuff slot1 slot2 memory) :=
    ⟨_, sysPipe_inv block1 block2 shBuff slot1 slot2 memory, rfl⟩
  have htotal : ∀ s call, Reached s → True →
      ∃ out s', pipeStep s call = .ok (out, s') ∧ Reached s' := by
    rintro s call ⟨pi, hs, hsize⟩ _
    obtain ⟨out, s', pi', hcall, hs', hsize', _, _⟩ := pipeStep_spec hs call
    exact ⟨out, s', hcall, pi', hs', hsize'.trans hsize⟩
  obtain ⟨outs, s, hrun, pi, hs, hsize⟩ := Run.run_total Reached htotal hinit
    (Run.guarded_true _ calls)
  obtain ⟨out, s', pi', hcall, hs', _, _, hanswers⟩ := pipeStep_spec hs call
  refine ⟨outs, s, pi, out, s', pi', hrun, (hs .f1).pipeInfo, (hs .f1).wellFormed, hsize, ?_,
    hcall, (hs' .f1).pipeInfo, hanswers⟩
  let queue : Pipe → List UInt8 := fun s => (s.f1.pipeInfo.map contents).getD []
  have hqueue : ∀ {s pi}, PipeInv s pi → queue s = contents pi := by
    intro s pi hs
    simp only [queue]
    rw [show s.f1.pipeInfo = some pi from (hs .f1).pipeInfo]
    rfl
  have hfifo := Run.run_fifo Reached queue accepted returned
    (fun s call out s' hs _ hstep => by
      obtain ⟨pi, hs, hsize⟩ := hs
      obtain ⟨out', s'', pi', hstep', hs'', hsize', hbytes, _⟩ := pipeStep_spec hs call
      rw [hstep'] at hstep
      cases hstep
      rw [hqueue hs, hqueue hs'']
      exact ⟨hbytes, pi', hs'', hsize'.trans hsize⟩)
    hinit (Run.guarded_true _ calls) hrun
  have hempty : queue (sysPipe block1 block2 shBuff slot1 slot2 memory) = [] := rfl
  rw [hempty, List.nil_append] at hfifo
  exact ⟨queue s, hfifo.symm⟩

/-- A write that fills the pipe to its end leaves `write_pos` at the size of the buffer. -/
theorem pipe_writePos_at_size :
    ∃ outs s,
      Run.run pipeStep (sysPipe zeroFile zeroFile 0x1000 3 4 (fun _ => 0))
        [.write .f2 (some fun _ => 65) 1024] = .ok (outs, s) ∧
      s.f1.pipeInfo.map (fun pi => (pi.writePos, pi.bufferSize)) = some (1024, 1024) := by
  refine ⟨_, _, rfl, ?_⟩
  decide +kernel

end Gramado.Io.PipeBuffer
