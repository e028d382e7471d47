import Gramado.Io.SocketFile

namespace Gramado.Io.MessageSlot

open Library Io.FileObject Io.SocketFile

/-- A socket file and the message in it: what the last successful write stored, if no read
has succeeded since. -/
structure SlotSystem where
  file : File
  pending : Option (List UInt8)

/-- The calls of the two endpoints. `tid` is the calling thread and `fd` its descriptor of
the file. -/
inductive SlotCall where
  | write (tid fd : Int) (ubuf : Option (Nat → UInt8)) (count : Int)
  | read (tid fd : Int) (ubuf : Bool) (count : Int)

def slotOf : Option (List UInt8) → Slot
  | none => .free
  | some message => .full message

variable {pending : Option (List UInt8)} {s : SlotSystem}

theorem slotOf_eq_free (h : slotOf pending = .free) : pending = none := by
  cases pending with
  | none => rfl
  | some message => cases h

theorem slotOf_eq_full {message : List UInt8} (h : slotOf pending = .full message) :
    pending = some message := by
  cases pending with
  | none => cases h
  | some message' =>
      cases h
      rfl

/-- The call is not a write of `BUFSIZ` bytes or more into a free slot, nor a read that gets
another number of bytes than the pending message has for it. -/
def Fits (s : SlotSystem) : SlotCall → Prop
  | .write _ fd ubuf count =>
      s.pending = none → Passes fd ubuf.isSome count → count < BUFSIZ
  | .read _ fd ubuf count => ∀ message ∈ s.pending, Passes fd ubuf count →
      count % 0x10000 = 0 ∨ (BUFSIZ : Int) < count % 0x10000 ∨
        count % 0x10000 = min count message.length

instance (s : SlotSystem) : ∀ call, Decidable (Fits s call)
  | .write _ _ _ _ => inferInstanceAs (Decidable (_ → _ → _))
  | .read _ fd ubuf count =>
      match hpending : s.pending with
      | none => isTrue (by simp [Fits, hpending])
      | some message =>
          decidable_of_iff (Passes fd ubuf count →
            count % 0x10000 = 0 ∨ (BUFSIZ : Int) < count % 0x10000 ∨
              count % 0x10000 = min count message.length)
            (by simp [Fits, hpending])

/-- A write succeeds only into a free slot, and a read returns the pending message. -/
def Conforms (s : SlotSystem) : SlotCall → IoResult → Prop
  | .write _ _ _ count, out => 0 < out.result → s.pending = none ∧ out.result = count
  | .read _ _ _ count, out => 0 < out.result →
      ∃ message, s.pending = some message ∧ out.result = min count message.length ∧
        out.bytes = message.take count.toNat

section

variable (otherWrite : File → (Nat → UInt8) → Int → Except String (IoResult × File))
variable (otherRead : File → Int → Except String (IoResult × File))

def slotStep (s : SlotSystem) : SlotCall → Except String (IoResult × SlotSystem)
  | .write tid fd ubuf count =>
      match writeImp otherWrite tid fd s.file ubuf count with
      | .error e => .error e
      | .ok (out, f) =>
          let pending :=
            if 0 < out.result then ubuf.map fun p => (List.range out.result.toNat).map p
            else s.pending
          .ok (out, ⟨f, pending⟩)
  | .read tid fd ubuf count =>
      match readImp otherRead tid fd s.file ubuf count with
      | .error e => .error e
      | .ok (out, f) => .ok (out, ⟨f, if 0 < out.result then none else s.pending⟩)

def Usable (s : SlotSystem) : Prop :=
  ∃ call out t, slotStep otherWrite otherRead s call = .ok (out, t) ∧ 0 < out.result

structure SlotInv (s : SlotSystem) : Prop where
  ready : SocketReady s.file
  holds : Holds s.file (slotOf s.pending)

theorem slotStep_write (h : SlotInv s) (tid fd : Int) (ubuf : Option (Nat → UInt8)) (count : Int)
    (hfits : Fits s (.write tid fd ubuf count)) :
    ∃ out t, slotStep otherWrite otherRead s (.write tid fd ubuf count) = .ok (out, t) ∧
      SlotInv t ∧ Conforms s (.write tid fd ubuf count) out ∧
      (s.pending = none → Passes fd ubuf.isSome count → 0 < out.result) := by
  obtain ⟨out, g, slot', hwrite, hg, hholds, heffect⟩ :=
    writeImp_effect otherWrite tid fd h.ready h.holds ubuf count
  simp only [slotStep, hwrite]
  generalize hslot : slotOf s.pending = slot at heffect
  cases heffect with
  | failed _ hresult hfree =>
      have hnot : ¬ 0 < out.result := by omega
      rw [if_neg hnot]
      refine ⟨_, _, rfl, ⟨hg, by rw [hslot]; exact hholds⟩, fun hpos => absurd hpos hnot, ?_⟩
      intro hpending hpasses
      rw [hpending] at hslot
      exact absurd hpasses (hfree hslot.symm)
  | written p hubuf hpasses hlt hresult =>
      have hpending : s.pending = none := slotOf_eq_free hslot
      have hpos : 0 < out.result := by
        rw [hresult]
        exact hpasses.2.2
      rw [if_pos hpos, hubuf, hresult]
      exact ⟨_, _, rfl, ⟨hg, hholds⟩, fun _ => ⟨hpending, hresult⟩, fun _ _ => hpos⟩
  | oversized hpasses hge hresult =>
      have hpending : s.pending = none := slotOf_eq_free hslot
      have hlt := hfits hpending hpasses
      omega

theorem slotStep_read (h : SlotInv s) (tid fd : Int) (ubuf : Bool) (count : Int)
    (hfits : Fits s (.read tid fd ubuf count)) :
    ∃ out t, slotStep otherWrite otherRead s (.read tid fd ubuf count) = .ok (out, t) ∧
      SlotInv t ∧ Conforms s (.read tid fd ubuf count) out ∧
      (s.pending ≠ none → Passes fd ubuf count → 0 < count % 0x10000 →
        count % 0x10000 ≤ BUFSIZ → 0 < out.result) := by
  obtain ⟨out, g, slot', hread, hg, hholds, heffect⟩ :=
    readImp_effect otherRead tid fd h.ready h.holds ubuf count
  have hstored := h.holds
  simp only [slotStep, hread]
  generalize hslot : slotOf s.pending = slot at heffect hstored
  cases heffect with
  | failed _ hresult hfull =>
      have hnot : ¬ 0 < out.result := by omega
      rw [if_neg hnot]
      refine ⟨_, _, rfl, ⟨hg, by rw [hslot]; exact hholds⟩, fun hpos => absurd hpos hnot, ?_⟩
      intro hpending hpasses hpos hle
      obtain ⟨message, hmessage⟩ := Option.ne_none_iff_exists'.mp hpending
      rw [hmessage] at hslot
      have := hfull ⟨message, hslot.symm⟩ hpasses
      omega
  | read message hpasses hpos hle hresult hbytes =>
      have hpending : s.pending = some message := slotOf_eq_full hslot
      have hsuccess : 0 < out.result := by omega
      have hcount : count % 0x10000 = min count message.length := by
        rcases hfits message hpending hpasses with hzero | hbig | heq <;> omega
      rw [if_pos hsuccess]
      refine ⟨_, _, rfl, ⟨hg, hholds⟩, fun _ => ⟨message, hpending, ?_, ?_⟩, fun _ _ _ _ => hsuccess⟩
      · rw [hresult, hcount]
      · cases hstored with
        | full _ _ _ _ _ hbuf =>
            have hle : (count % 0x10000).toNat ≤ message.length := by omega
            have htake := take_readBytes s.file.buf 0 hle
            rw [hbuf] at htake
            rw [hbytes, ← htake, hcount]
            have hmin : (min count (message.length : Int)).toNat =
                min count.toNat message.length := by omega
            rw [hmin, ← List.take_eq_take_min]

theorem slotInv_usable (h : SlotInv s) : Usable otherWrite otherRead s := by
  have hlimit : ((BUFSIZ : Nat) : Int) = 1024 := rfl
  cases hs : s.pending with
  | none =>
      have hfits : Fits s (.write 0 3 (some fun _ => 0) 1) := fun _ _ => by decide
      obtain ⟨out, t, hstep, _, _, hsuccess⟩ :=
        slotStep_write otherWrite otherRead h 0 3 (some fun _ => 0) 1 hfits
      exact ⟨_, out, t, hstep, hsuccess hs (by decide)⟩
  | some message =>
      have hholds := h.holds
      rw [hs] at hholds
      cases hholds with
      | full _ _ _ hpos hlen _ =>
          have hfits : Fits s (.read 0 3 true message.length) := by
            intro message' hmessage' _
            rw [hs] at hmessage'
            cases hmessage'
            refine .inr (.inr ?_)
            omega
          obtain ⟨out, t, hstep, _, _, hsuccess⟩ :=
            slotStep_read otherWrite otherRead h 0 3 true message.length hfits
          refine ⟨_, out, t, hstep, hsuccess (by rw [hs]; exact Option.some_ne_none _) ?_ ?_ ?_⟩
          · exact ⟨by decide, rfl, by omega⟩
          · omega
          · omega

theorem slotStep_spec (h : SlotInv s) (call : SlotCall) (hfits : Fits s call) :
    ∃ out t, slotStep otherWrite otherRead s call = .ok (out, t) ∧ SlotInv t ∧
      Conforms s call out := by
  cases call with
  | write tid fd ubuf count =>
      obtain ⟨out, t, hstep, ht, hconforms, _⟩ :=
        slotStep_write otherWrite otherRead h tid fd ubuf count hfits
      exact ⟨out, t, hstep, ht, hconforms⟩
  | read tid fd ubuf count =>
      obtain ⟨out, t, hstep, ht, hconforms, _⟩ :=
        slotStep_read otherWrite otherRead h tid fd ubuf count hfits
      exact ⟨out, t, hstep, ht, hconforms⟩

end

def newSlot (sock : Nat) (fd buff : Int) (memory : Int → UInt8) : SlotSystem :=
  ⟨socketFile sock fd buff memory, none⟩

theorem newSlot_inv (sock : Nat) {fd : Int} (buff : Int) (memory : Int → UInt8)
    (hfd : 3 ≤ fd) : SlotInv (newSlot sock fd buff memory) :=
  ⟨⟨⟨rfl, rfl⟩, rfl, rfl, rfl, rfl, hfd⟩, .free rfl rfl⟩

/-- In every run of calls on the file of a new socket that all fit, no call panics, each
next call that fits behaves as on a slot for one message, and the slot stays usable. -/
theorem slot_run_conforms
    (otherWrite : File → (Nat → UInt8) → Int → Except String (IoResult × File))
    (otherRead : File → Int → Except String (IoResult × File))
    (sock : Nat) (fd buff : Int) (memory : Int → UInt8) (hfd : 3 ≤ fd)
    (calls : List SlotCall)
    (hguard : Run.Guarded (slotStep otherWrite otherRead) Fits
      (newSlot sock fd buff memory) calls) :
    ∃ outs s,
      Run.run (slotStep otherWrite otherRead) (newSlot sock fd buff memory) calls =
        .ok (outs, s) ∧
      Usable otherWrite otherRead s ∧
      ∀ call, Fits s call → ∃ out t, slotStep otherWrite otherRead s call = .ok (out, t) ∧
        Conforms s call out ∧ Usable otherWrite otherRead t := by
  have hstep : ∀ s call, SlotInv s → Fits s call →
      ∃ out t, slotStep otherWrite otherRead s call = .ok (out, t) ∧ SlotInv t := by
    intro s call hs hfits
    obtain ⟨out, t, hcall, ht, _⟩ := slotStep_spec otherWrite otherRead hs call hfits
    exact ⟨out, t, hcall, ht⟩
  obtain ⟨outs, s, hrun, hs⟩ :=
    Run.run_total SlotInv hstep (newSlot_inv sock buff memory hfd) hguard
  refine ⟨outs, s, hrun, slotInv_usable otherWrite otherRead hs, ?_⟩
  intro call hfits
  obtain ⟨out, t, hcall, ht, hconforms⟩ := slotStep_spec otherWrite otherRead hs call hfits
  exact ⟨out, t, hcall, hconforms, slotInv_usable otherWrite otherRead ht⟩

/-- A file of another type is refused, as `__write_imp` and `__read_imp` do for a type that
they do not know. -/
def refuseWrite (fp : File) (_ : Nat → UInt8) (_ : Int) : Except String (IoResult × File) :=
  .ok (⟨-1, [], []⟩, fp)

def refuseRead (fp : File) (_ : Int) : Except String (IoResult × File) :=
  .ok (⟨-1, [], []⟩, fp)

theorem slot_run_conforms_example :
    ∃ outs s,
      Run.run (slotStep refuseWrite refuseRead) (newSlot 0 3 0x1000 fun _ => 0)
        [.read 1 3 true 8, .write 1 3 (some fun _ => 65) 8, .write 2 3 (some fun _ => 66) 4,
          .read 2 3 true 8] = .ok (outs, s) ∧
      Usable refuseWrite refuseRead s ∧
      ∀ call, Fits s call → ∃ out t, slotStep refuseWrite refuseRead s call = .ok (out, t) ∧
        Conforms s call out ∧ Usable refuseWrite refuseRead t :=
  slot_run_conforms refuseWrite refuseRead 0 3 0x1000 (fun _ => 0) (by decide) _ (by decide)

/-- A read of two bytes returns the message of one byte with a byte behind it. -/
theorem slot_read_exceeds_message :
    ¬ ∀ (calls : List SlotCall) (outs : List IoResult) (s : SlotSystem) (call : SlotCall)
        (out : IoResult) (t : SlotSystem),
      Run.run (slotStep refuseWrite refuseRead) (newSlot 0 3 0x1000 fun _ => 0) calls =
        .ok (outs, s) →
      slotStep refuseWrite refuseRead s call = .ok (out, t) → Conforms s call out := by
  intro hclaim
  have hconforms := hclaim [.write 1 3 (some fun _ => 65) 1] _ _ (.read 2 3 true 2) _ _ rfl rfl
  obtain ⟨message, hpending, hresult, _⟩ := hconforms (by decide)
  cases hpending
  exact absurd hresult (by decide)

end Gramado.Io.MessageSlot
