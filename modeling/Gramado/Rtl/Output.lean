import Gramado.Io.PipeBuffer
import Gramado.Library.Refinement
import Gramado.Rtl.Stream

namespace Gramado.Rtl.Output

open Library.Run Rtl.Stream

/-- A stream, the bytes that `write` has accepted from it and the bytes put into it. -/
structure Writer where
  file : FILE
  accepted : List UInt8
  put : List UInt8

/-- A call, with the room that each of its writes would find. -/
inductive Call where
  | putc (ch : Int) (room : Nat)
  | fputs (s : List (UInt8 × Nat))
  | fflush (room : Nat)

def write (base : Int → UInt8) (Count : Int) (room : Nat) : List UInt8 :=
  between base 0 (min Count room)

def rewound (file : FILE) : FILE :=
  { file with p := 0, w := 0 }

def fflush (room : Nat) (s : Writer) : Int × Writer :=
  let Count := s.file.w
  if Count ≤ 0 then (0, { s with file := rewound s.file })
  else
    let Count := if Count > BUFSIZ then BUFSIZ else Count
    let bytes := write s.file.base Count room
    let nwrite : Int := bytes.length
    let s := { s with file := rewound s.file, accepted := s.accepted ++ bytes }
    if nwrite ≤ 0 then (EOF, s)
    -- a number of bytes other than `Count` is only reported
    else (0, s)

def pushed (s : Writer) (byte : UInt8) : Writer :=
  { s with
    file := { s.file with base := Function.update s.file.base s.file.w byte, w := s.file.w + 1 }
    put := s.put ++ [byte] }

def full (s : Writer) : Writer :=
  { s with file := { s.file with cnt := 0 } }

def newline : Int := 10

def putc (s : Writer) (call : Int × Nat) : Except Stop (Int × Writer) :=
  let (ch, room) := call
  if s.file.w ≥ BUFSIZ then .ok (EOF, full s)
  else if s.file.w < 0 then .error .outside
  else
    let s := pushed s (UInt8.ofInt ch)
    if s.file.w ≥ BUFSIZ then
      .ok (ch, (fflush room (full s)).2)
    else if ch = newline then .ok (ch, (fflush room s).2)
    else .ok (ch, s)

/-- The characters up to the zero, as the ints that a signed char is turned into. -/
def characters (s : List (UInt8 × Nat)) : List (Int × Nat) :=
  (s.takeWhile fun c => c.1 ≠ 0).map fun c => ((c.1.toNat : Int).bmod 256, c.2)

def fputs (string : List (UInt8 × Nat)) (s : Writer) : Except Stop (Int × Writer) := do
  let (rs, s) ← run putc s (characters string)
  .ok (rs.getLastD 0, s)

def step (s : Writer) : Call → Except Stop (Int × Writer)
  | .putc ch room => putc s (ch, room)
  | .fputs string => fputs string s
  | .fflush room => .ok (fflush room s)

def Sound (s : Writer) : Prop :=
  s.accepted <+: s.put

/-- The bytes accepted are a prefix of those put at each moment of the call, and a flush that
answers 0 leaves none behind. -/
def Good (s : Writer) : Call → Prop
  | .putc _ _ => Sound s
  | .fputs string => Guarded putc (fun s _ => Sound s) s (characters string)
  | .fflush room => Sound s ∧ ((fflush room s).1 = 0 → (fflush room s).2.accepted = s.put)

def TakesPutc (s : Writer) (call : Int × Nat) : Prop :=
  s.file.w + 1 ≥ BUFSIZ ∨ call.1 = newline → s.file.w + 1 ≤ call.2

def Takes (s : Writer) : Call → Prop
  | .putc ch room => TakesPutc s (ch, room)
  | .fputs string => Guarded putc TakesPutc s (characters string)
  | .fflush room => s.file.w ≤ room

instance (s : Writer) (call : Int × Nat) : Decidable (TakesPutc s call) :=
  inferInstanceAs (Decidable (_ → _))

instance (s : Writer) : ∀ call, Decidable (Takes s call)
  | .putc ch room => inferInstanceAs (Decidable (TakesPutc s (ch, room)))
  | .fputs string => inferInstanceAs (Decidable (Guarded putc TakesPutc s (characters string)))
  | .fflush room => inferInstanceAs (Decidable (s.file.w ≤ room))

instance (s : Writer) : Decidable (Sound s) :=
  inferInstanceAs (Decidable (_ <+: _))

instance (s : Writer) : ∀ call, Decidable (Good s call)
  | .putc _ _ => inferInstanceAs (Decidable (Sound s))
  | .fputs string => inferInstanceAs (Decidable (Guarded putc _ s (characters string)))
  | .fflush _ => inferInstanceAs (Decidable (_ ∧ (_ → _)))

structure Holds (s : Writer) : Prop where
  nonneg : 0 ≤ s.file.w
  lt_size : s.file.w < BUFSIZ
  bytes : s.accepted ++ between s.file.base 0 s.file.w = s.put

variable {o : Int} {t : Writer} {call : Call}

theorem Holds.sound {s : Writer} (h : Holds s) : Sound s := ⟨_, h.bytes⟩

def InBuffer (s : Writer) : Prop :=
  0 ≤ s.file.w ∧ s.file.w < BUFSIZ

section Steps

variable {s : Writer}

theorem fflush_snd (room : Nat) (s : Writer) : (fflush room s).2 = { s with
      file := rewound s.file
      accepted := s.accepted ++ write s.file.base (min s.file.w BUFSIZ) room } := by
  rw [fflush]
  by_cases hempty : s.file.w ≤ 0
  · rw [if_pos hempty, write, between_of_le (by omega), List.append_nil]
  · have hcount : (if s.file.w > BUFSIZ then BUFSIZ else s.file.w) = min s.file.w BUFSIZ := by
      split <;> omega
    rw [if_neg hempty]
    simp only [hcount]
    split <;> rfl

theorem inBuffer_fflush (room : Nat) (s : Writer) : InBuffer (fflush room s).2 := by
  rw [fflush_snd]
  have hsize : 0 < BUFSIZ := by decide
  exact ⟨Int.le_refl 0, hsize⟩

theorem holds_fflush {room : Nat} (hhigh : s.file.w ≤ BUFSIZ)
    (hbytes : s.accepted ++ between s.file.base 0 s.file.w = s.put) (hroom : s.file.w ≤ room) :
    (fflush room s).2.accepted = s.put ∧ Holds (fflush room s).2 := by
  have haccepted : (fflush room s).2.accepted = s.put := by
    rw [fflush_snd, write, Int.min_eq_left hhigh, Int.min_eq_left hroom, hbytes]
  obtain ⟨hnonneg, hlt⟩ := inBuffer_fflush room s
  refine ⟨haccepted, hnonneg, hlt, ?_⟩
  rw [haccepted, fflush_snd]
  exact List.append_nil _

theorem pushed_bytes (hs : Holds s) (byte : UInt8) :
    (pushed s byte).accepted ++ between (pushed s byte).file.base 0 (pushed s byte).file.w =
      (pushed s byte).put := by
  have hbefore : between (Function.update s.file.base s.file.w byte) 0 s.file.w =
      between s.file.base 0 s.file.w :=
    between_congr fun i _ hi => Function.update_of_ne (by omega) ..
  change s.accepted ++ between (Function.update s.file.base s.file.w byte) 0 (s.file.w + 1) =
    s.put ++ [byte]
  rw [between_snoc hs.nonneg, hbefore, Function.update_self, ← List.append_assoc, hs.bytes]

theorem putc_eq (hs : InBuffer s) (call : Int × Nat) : putc s call = .ok (call.1,
      if s.file.w + 1 ≥ BUFSIZ then
        (fflush call.2 (full (pushed s (UInt8.ofInt call.1)))).2
      else if call.1 = newline then (fflush call.2 (pushed s (UInt8.ofInt call.1))).2
      else pushed s (UInt8.ofInt call.1)) := by
  obtain ⟨hlow, hhigh⟩ := hs
  rw [putc]
  dsimp only
  rw [if_neg (by omega), if_neg (by omega)]
  change (if s.file.w + 1 ≥ BUFSIZ then _ else _) = _
  split
  · rfl
  · split <;> rfl

theorem inBuffer_putc (hs : InBuffer s) (call : Int × Nat) :
    ∃ o t, putc s call = .ok (o, t) ∧ InBuffer t := by
  refine ⟨_, _, putc_eq hs call, ?_⟩
  split
  · exact inBuffer_fflush ..
  · split
    · exact inBuffer_fflush ..
    · have hlow := hs.1
      constructor
      · change 0 ≤ s.file.w + 1
        omega
      · change s.file.w + 1 < BUFSIZ
        omega

theorem holds_putc (hs : Holds s) {call : Int × Nat} (hroom : TakesPutc s call)
    (hstep : putc s call = .ok (o, t)) : Holds t := by
  have hlow := hs.nonneg
  have hhigh := hs.lt_size
  have hbytes := pushed_bytes hs (UInt8.ofInt call.1)
  rw [putc_eq ⟨hlow, hhigh⟩] at hstep
  obtain ⟨rfl, rfl⟩ := Prod.mk.inj (Except.ok.inj hstep)
  have hwidth : (pushed s (UInt8.ofInt call.1)).file.w = s.file.w + 1 := rfl
  split
  next hfull =>
    have hfilled : (full (pushed s (UInt8.ofInt call.1))).file.w ≤ BUFSIZ := by
      change s.file.w + 1 ≤ BUFSIZ
      omega
    exact (holds_fflush hfilled hbytes (hroom (.inl hfull))).2
  next hspace =>
    split
    next hline => exact (holds_fflush (by omega) hbytes (hroom (.inr hline))).2
    next => exact ⟨by omega, by omega, hbytes⟩

theorem inBuffer_fputs (hs : InBuffer s) (string : List (UInt8 × Nat)) :
    ∃ o t, fputs string s = .ok (o, t) ∧ InBuffer t := by
  obtain ⟨os, t, hrun, ht⟩ := run_total InBuffer (fun s call hs _ => inBuffer_putc hs call) hs
    (guarded_true s (characters string))
  refine ⟨os.getLastD 0, t, ?_, ht⟩
  rw [fputs, hrun]
  rfl

theorem inBuffer_step (hs : InBuffer s) (call : Call) :
    ∃ o t, step s call = .ok (o, t) ∧ InBuffer t := by
  cases call with
  | putc ch room => exact inBuffer_putc hs (ch, room)
  | fputs string => exact inBuffer_fputs hs string
  | fflush room => exact ⟨_, _, rfl, inBuffer_fflush room s⟩

theorem Holds.inBuffer (hs : Holds s) : InBuffer s := ⟨hs.nonneg, hs.lt_size⟩

theorem holds_fputs (hs : Holds s) {string : List (UInt8 × Nat)}
    (hroom : Guarded putc TakesPutc s (characters string)) (hstep : fputs string s = .ok (o, t)) :
    Holds t := by
  rw [fputs] at hstep
  cases hrun : run putc s (characters string) with
  | error e =>
      rw [hrun] at hstep
      cases hstep
  | ok result =>
      obtain ⟨os, u⟩ := result
      rw [hrun] at hstep
      obtain ⟨rfl, rfl⟩ := Prod.mk.inj (Except.ok.inj hstep)
      exact run_invariant Holds (fun s call o t hs hcall h => holds_putc hs hcall h) hs hroom hrun

theorem holds_step (hs : Holds s) (hroom : Takes s call) (hstep : step s call = .ok (o, t)) :
    Holds t := by
  cases call with
  | putc ch room => exact holds_putc hs hroom hstep
  | fputs string => exact holds_fputs hs hroom hstep
  | fflush room =>
      obtain ⟨-, rfl⟩ := Prod.mk.inj (Except.ok.inj hstep)
      exact (holds_fflush (Int.le_of_lt hs.lt_size) hs.bytes hroom).2

theorem good_of_holds (hs : Holds s) (hroom : Takes s call) : Good s call := by
  cases call with
  | putc ch room => exact hs.sound
  | fputs string =>
      exact Guarded.of_invariant Holds (fun s call o t hs hcall h => holds_putc hs hcall h)
        (fun s call hs _ => hs.sound) hs hroom
  | fflush room =>
      exact ⟨hs.sound, fun _ => (holds_fflush (Int.le_of_lt hs.lt_size) hs.bytes hroom).1⟩

theorem write_pipe {pi : Io.FileObject.PipeInfo} (h : Io.PipeBuffer.WellFormed pi)
    (base : Int → UInt8) (Count : Nat) :
    Io.PipeBuffer.contents (Io.PipeBuffer.writeLoop Count (fun i => base i) pi).2 =
      Io.PipeBuffer.contents pi ++ write base Count (pi.bufferSize - pi.counter.toNat) := by
  obtain ⟨hcontents, hcount, -⟩ := Io.PipeBuffer.writeLoop_spec Count (fun i => base i) h
  have hroom : (min (Count : Int) (pi.bufferSize - pi.counter.toNat : Nat) - 0).toNat =
      min Count (pi.bufferSize - pi.counter.toNat) := by
    omega
  rw [hcontents, hcount, write, between, hroom]
  congr 1
  exact List.map_congr_left fun i _ => congrArg base (Int.zero_add _).symm

end Steps

def shortLine : List Call :=
  [.fputs [(97, 2), (98, 2), (10, 2)], .fflush 2, .putc 99 1, .fflush 1]

end Gramado.Rtl.Output
