import Gramado.Library.CheckedRead
import Gramado.Net.RingOwnership

/-! The transmit ring of the e1000 between the driver and the device. -/

namespace Gramado.Net.TransmitRing

open Library.CheckedRead (Returns)
open Library.Run
open Net.ReceiveRing (E1000_DEFAULT_BUFFER_SIZE)

def SEND_BUFFER_MAX : Nat := 8

/-- `legacy_tx_desc` without the address of its buffer, which stays, and the fields that nothing
writes. -/
structure TxDesc where
  length : Nat
  cmd : UInt8
  status : UInt8

inductive Panic where
  | lenZero
  | len
  | old
  deriving DecidableEq, Repr

/-- Where `e1000hw_send` is: not running, or before a write of what it shares with the device,
or in the loop at its end. -/
inductive Place where
  | idle
  | describing (old len : Nat)
  | commanding (old : Nat)
  | clearing (old : Nat)
  | advancing (old : Nat)
  | publishing (old : Nat)
  | waiting (old : Nat)
  deriving DecidableEq, Repr

/-- The device and the driver, with the frames that have been passed to `e1000hw_send` and those
that the device has put on the wire. -/
structure Nic where
  legacy_tx_descs : Nat → TxDesc
  tx_buffers : Nat → List UInt8
  head : Nat
  tail : Nat
  tx_cur : Nat
  place : Place
  passed : List (List UInt8)
  wire : List (List UInt8)

def initialize_tx_support (memory : Nat → List UInt8) : Nic where
  legacy_tx_descs := fun _ => ⟨E1000_DEFAULT_BUFFER_SIZE, 0, 1⟩
  tx_buffers := memory
  head := 0
  tail := 7
  tx_cur := 0
  place := .idle
  passed := []
  wire := []

def copied (s : Nic) (frame : List UInt8) : Nic :=
  { s with
    tx_buffers :=
      Function.update s.tx_buffers s.tx_cur
        (frame ++ (s.tx_buffers s.tx_cur).drop frame.length)
    place := .describing s.tx_cur frame.length
    passed := s.passed ++ [frame] }

def call (s : Nic) (frame : List UInt8) : Except Panic Nic :=
  if frame.length = 0 then .error .lenZero
  else if frame.length > E1000_DEFAULT_BUFFER_SIZE then .error .len
  else if s.tx_cur ≥ SEND_BUFFER_MAX then .error .old
  else .ok (copied s frame)

def setDesc (s : Nic) (old : Nat) (desc : TxDesc) : Nic :=
  { s with legacy_tx_descs := Function.update s.legacy_tx_descs old desc }

def driver (s : Nic) : Nic :=
  match s.place with
  | .idle => s
  | .describing old len =>
      { setDesc s old { s.legacy_tx_descs old with length := len } with place := .commanding old }
  | .commanding old =>
      { setDesc s old { s.legacy_tx_descs old with cmd := 0x1B } with place := .clearing old }
  | .clearing old =>
      { setDesc s old { s.legacy_tx_descs old with status := 0 } with place := .advancing old }
  | .advancing old => { s with tx_cur := (s.tx_cur + 1) % 8, place := .publishing old }
  | .publishing old => { s with tail := s.tx_cur, place := .waiting old }
  | .waiting old =>
      if (s.legacy_tx_descs old).status &&& 0xFF = 0 then s else { s with place := .idle }

def transmit (s : Nic) (status : UInt8) : Nic :=
  { setDesc s s.head { s.legacy_tx_descs s.head with status := status ||| 1 } with
    head := (s.head + 1) % SEND_BUFFER_MAX
    wire := s.wire ++ [(s.tx_buffers s.head).take (s.legacy_tx_descs s.head).length] }

inductive Event where
  | call (frame : List UInt8)
  | driver
  | transmit (status : UInt8)

def step (s : Nic) : Event → Except Panic (Unit × Nic)
  | .call frame => (call s frame).map fun t => ((), t)
  | .driver => .ok ((), driver s)
  | .transmit status => .ok ((), transmit s status)

/-- One call runs at a time and gets a frame of a size that it accepts; the device sends from the
head up to the tail. -/
def Allowed (s : Nic) : Event → Prop
  | .call frame =>
      s.place = .idle ∧ 0 < frame.length ∧ frame.length ≤ E1000_DEFAULT_BUFFER_SIZE
  | .driver => s.place ≠ .idle
  | .transmit _ => s.head ≠ s.tail

instance (s : Nic) : ∀ event, Decidable (Allowed s event)
  | .call _ => inferInstanceAs (Decidable (_ ∧ _))
  | .driver => inferInstanceAs (Decidable (_ ≠ _))
  | .transmit _ => inferInstanceAs (Decidable (_ ≠ _))

/-- The descriptor and its buffer belong to the device: those from the head up to the tail. -/
def Belongs (s : Nic) (i : Nat) : Prop :=
  (i + SEND_BUFFER_MAX - s.head) % SEND_BUFFER_MAX <
    (s.tail + SEND_BUFFER_MAX - s.head) % SEND_BUFFER_MAX

/-- The descriptor of which a step of the driver writes the buffer or a field. -/
def writes (s : Nic) : Event → Option Nat
  | .call _ => some s.tx_cur
  | .driver =>
      match s.place with
      | .describing old _ | .commanding old | .clearing old => some old
      | _ => none
  | .transmit _ => none

/-- The frames on the wire are those that have been passed, in their order and each once: all of
them when no call is running, and while a call waits the one that is not there belongs to the
device. -/
structure Exact (s : Nic) : Prop where
  order : s.wire <+: s.passed
  complete : s.place = .idle → s.wire = s.passed
  handed : ∀ old, s.place = .waiting old → s.wire = s.passed ∨ Belongs s old

/-- The step writes nothing that belongs to the device, and the wire is exact behind it. -/
def Keeps (s : Nic) (event : Event) : Prop :=
  (∀ i, writes s event = some i → ¬ Belongs s i) ∧
    Returns (step s event) fun result => Exact result.2

/-- No call is running, and all frames passed are on the wire. -/
structure Quiet (s : Nic) : Prop where
  idle : s.place = .idle
  head : s.head < SEND_BUFFER_MAX
  tail : s.tail < SEND_BUFFER_MAX
  tx_cur : s.tx_cur < SEND_BUFFER_MAX
  exact : s.wire = s.passed

/-- The head, the tail and the index of the driver are at the same descriptor. -/
def InStep (s : Nic) : Prop := s.head = s.tail ∧ s.tail = s.tx_cur

/-- A frame in its buffer that the device has not got yet. -/
structure Pending (s : Nic) (old : Nat) (frame : List UInt8) : Prop where
  head : s.head = old
  passed : s.passed = s.wire ++ [frame]
  content : (s.tx_buffers old).take frame.length = frame

def Described (s : Nic) (old : Nat) (frame : List UInt8) : Prop :=
  Pending s old frame ∧ (s.legacy_tx_descs old).length = frame.length

def Phase (s : Nic) : Place → Prop
  | .idle => s.head = s.tail ∧ s.tail = s.tx_cur ∧ s.wire = s.passed
  | .describing old len =>
      ∃ frame, Pending s old frame ∧ s.head = s.tail ∧ s.tx_cur = old ∧ len = frame.length
  | .commanding old | .clearing old =>
      ∃ frame, Described s old frame ∧ s.head = s.tail ∧ s.tx_cur = old
  | .advancing old =>
      ∃ frame, Described s old frame ∧ s.head = s.tail ∧ s.tx_cur = old ∧
        (s.legacy_tx_descs old).status &&& 0xFF = 0
  | .publishing old =>
      ∃ frame, Described s old frame ∧ s.head = s.tail ∧ s.tx_cur = (old + 1) % 8 ∧
        (s.legacy_tx_descs old).status &&& 0xFF = 0
  | .waiting old =>
      s.tail = s.tx_cur ∧ s.tx_cur = (old + 1) % 8 ∧
        ((∃ frame, Described s old frame ∧ (s.legacy_tx_descs old).status &&& 0xFF = 0) ∨
          (s.head = s.tail ∧ s.wire = s.passed ∧ (s.legacy_tx_descs old).status &&& 0xFF ≠ 0))

/-- At most the frame of the running call is not on the wire. -/
structure Synced (s : Nic) : Prop where
  head : s.head < SEND_BUFFER_MAX
  tx_cur : s.tx_cur < SEND_BUFFER_MAX
  phase : Phase s s.place

variable {frame : List UInt8} {event : Event} {s : Nic}

section Steps

variable {s : Nic}

@[simp] theorem setDesc_self (old : Nat) (desc : TxDesc) :
    (setDesc s old desc).legacy_tx_descs old = desc :=
  Function.update_self ..

theorem not_belongs_of_head_eq_tail (h : s.head = s.tail) (i : Nat) : ¬ Belongs s i := by
  rw [Belongs, h, Nat.add_sub_cancel_left, Nat.mod_self]
  exact Nat.not_lt_zero _

theorem call_ok (hpos : 0 < frame.length) (hlen : frame.length ≤ E1000_DEFAULT_BUFFER_SIZE)
    (hcur : s.tx_cur < SEND_BUFFER_MAX) :
    step s (.call frame) = .ok ((), copied s frame) := by
  rw [step, call, if_neg (by omega), if_neg (by omega), if_neg (by omega)]
  rfl

theorem done_ne_zero (status : UInt8) : (status ||| 1) &&& 0xFF ≠ 0 := by
  intro h
  have hmask : (0xFF &&& 1 : UInt8) = 1 := by decide
  have hdone : (status ||| 1) &&& (0xFF &&& 1) = 1 := by
    rw [hmask, RingOwnership.done_set]
  rw [← UInt8.and_assoc, h, UInt8.zero_and] at hdone
  exact absurd hdone (by decide)

theorem synced_call (hs : Synced s) (h : Allowed s (.call frame)) :
    Returns (step s (.call frame)) fun result => Synced result.2 := by
  obtain ⟨hidle, hpos, hlen⟩ := h
  have hphase := hs.phase
  rw [hidle] at hphase
  obtain ⟨htail, hcur, hwire⟩ := hphase
  refine ⟨((), copied s frame), call_ok hpos hlen hs.tx_cur, ?_⟩
  refine ⟨hs.head, hs.tx_cur, frame, ⟨htail.trans hcur, ?_, ?_⟩, htail, rfl, rfl⟩
  · change s.passed ++ [frame] = s.wire ++ [frame]
    rw [hwire]
  · simp [copied]

theorem synced_driver (hs : Synced s) (h : s.place ≠ .idle) : Synced (driver s) := by
  have hphase := hs.phase
  rw [driver]
  cases hplace : s.place with
  | idle => exact absurd hplace h
  | describing old len =>
      rw [hplace] at hphase
      obtain ⟨frame, hpending, htail, hcur, hlen⟩ := hphase
      refine ⟨hs.head, hs.tx_cur, frame, ⟨⟨hpending.head, hpending.passed, hpending.content⟩, ?_⟩,
        htail, hcur⟩
      simp [hlen]
  | commanding old =>
      rw [hplace] at hphase
      obtain ⟨frame, ⟨hpending, hlen⟩, htail, hcur⟩ := hphase
      refine ⟨hs.head, hs.tx_cur, frame, ⟨⟨hpending.head, hpending.passed, hpending.content⟩, ?_⟩,
        htail, hcur⟩
      simp [hlen]
  | clearing old =>
      rw [hplace] at hphase
      obtain ⟨frame, ⟨hpending, hlen⟩, htail, hcur⟩ := hphase
      refine ⟨hs.head, hs.tx_cur, frame, ⟨⟨hpending.head, hpending.passed, hpending.content⟩, ?_⟩,
        htail, hcur, ?_⟩
      · simp [hlen]
      · simp
  | advancing old =>
      rw [hplace] at hphase
      obtain ⟨frame, ⟨hpending, hlen⟩, htail, hcur, hstatus⟩ := hphase
      refine ⟨hs.head, Nat.mod_lt _ (by decide), frame,
        ⟨⟨hpending.head, hpending.passed, hpending.content⟩, hlen⟩, htail, ?_, hstatus⟩
      simp [hcur]
  | publishing old =>
      rw [hplace] at hphase
      obtain ⟨frame, ⟨hpending, hlen⟩, htail, hcur, hstatus⟩ := hphase
      exact ⟨hs.head, hs.tx_cur, rfl, hcur, .inl ⟨frame,
        ⟨⟨hpending.head, hpending.passed, hpending.content⟩, hlen⟩, hstatus⟩⟩
  | waiting old =>
      dsimp only
      split
      · exact hs
      · rename_i hstatus
        rw [hplace] at hphase
        obtain ⟨htail, hcur, ⟨frame, _, hzero⟩ | ⟨hhead, hwire, _⟩⟩ := hphase
        · exact absurd hzero hstatus
        · exact ⟨hs.head, hs.tx_cur, hhead, htail, hwire⟩

theorem Synced.head_eq_tail (hs : Synced s) (h : ∀ old, s.place ≠ .waiting old) :
    s.head = s.tail := by
  have hphase := hs.phase
  cases hplace : s.place with
  | idle =>
      rw [hplace] at hphase
      exact hphase.1
  | describing old len =>
      rw [hplace] at hphase
      obtain ⟨_, _, htail, _⟩ := hphase
      exact htail
  | commanding old =>
      rw [hplace] at hphase
      obtain ⟨_, _, htail, _⟩ := hphase
      exact htail
  | clearing old =>
      rw [hplace] at hphase
      obtain ⟨_, _, htail, _⟩ := hphase
      exact htail
  | advancing old =>
      rw [hplace] at hphase
      obtain ⟨_, _, htail, _⟩ := hphase
      exact htail
  | publishing old =>
      rw [hplace] at hphase
      obtain ⟨_, _, htail, _⟩ := hphase
      exact htail
  | waiting old => exact absurd hplace (h old)

theorem synced_transmit (hs : Synced s) (h : s.head ≠ s.tail) (status : UInt8) :
    Synced (transmit s status) := by
  have hphase := hs.phase
  obtain ⟨old, hplace⟩ : ∃ old, s.place = .waiting old := by
    by_contra hnone
    exact h (hs.head_eq_tail (not_exists.mp hnone))
  rw [hplace] at hphase
  obtain ⟨htail, hcur, ⟨frame, ⟨hpending, hlen⟩, _⟩ | ⟨hhead, _⟩⟩ := hphase
  · have hold := hpending.head
    refine ⟨Nat.mod_lt _ (by decide), hs.tx_cur, ?_⟩
    change Phase (transmit s status) s.place
    rw [hplace]
    refine ⟨htail, hcur, .inr ⟨?_, ?_, ?_⟩⟩
    · change (s.head + 1) % SEND_BUFFER_MAX = s.tail
      rw [hold, htail, hcur]
      rfl
    · change s.wire ++ [(s.tx_buffers s.head).take (s.legacy_tx_descs s.head).length] = s.passed
      rw [hold, hlen, hpending.content, hpending.passed]
    · change ((setDesc s s.head _).legacy_tx_descs old).status &&& 0xFF ≠ 0
      rw [← hold, setDesc_self]
      exact done_ne_zero status
  · exact absurd hhead h

theorem synced_step (hs : Synced s) (h : Allowed s event) :
    Returns (step s event) fun result => Synced result.2 := by
  cases event with
  | call frame => exact synced_call hs h
  | driver => exact ⟨_, rfl, synced_driver hs h⟩
  | transmit status => exact ⟨_, rfl, synced_transmit hs h status⟩

theorem exact_of_pending {old : Nat} (h : Pending s old frame) (hidle : s.place ≠ .idle)
    (hwaiting : ∀ i, s.place = .waiting i → Belongs s i) : Exact s where
  order := h.passed ▸ List.prefix_append s.wire [frame]
  complete := fun hplace => absurd hplace hidle
  handed := fun i hplace => .inr (hwaiting i hplace)

theorem exact_of_synced (hs : Synced s) : Exact s := by
  have hphase := hs.phase
  cases hplace : s.place with
  | idle =>
      rw [hplace] at hphase
      have hwire := hphase.2.2
      exact ⟨hwire ▸ List.prefix_rfl, fun _ => hwire, fun _ _ => .inl hwire⟩
  | describing old len =>
      rw [hplace] at hphase
      obtain ⟨frame, hpending, _⟩ := hphase
      exact exact_of_pending hpending (by simp [hplace]) (by simp [hplace])
  | commanding old =>
      rw [hplace] at hphase
      obtain ⟨frame, ⟨hpending, _⟩, _⟩ := hphase
      exact exact_of_pending hpending (by simp [hplace]) (by simp [hplace])
  | clearing old =>
      rw [hplace] at hphase
      obtain ⟨frame, ⟨hpending, _⟩, _⟩ := hphase
      exact exact_of_pending hpending (by simp [hplace]) (by simp [hplace])
  | advancing old =>
      rw [hplace] at hphase
      obtain ⟨frame, ⟨hpending, _⟩, _⟩ := hphase
      exact exact_of_pending hpending (by simp [hplace]) (by simp [hplace])
  | publishing old =>
      rw [hplace] at hphase
      obtain ⟨frame, ⟨hpending, _⟩, _⟩ := hphase
      exact exact_of_pending hpending (by simp [hplace]) (by simp [hplace])
  | waiting old =>
      rw [hplace] at hphase
      obtain ⟨htail, hcur, ⟨frame, ⟨hpending, _⟩, _⟩ | ⟨_, hwire, _⟩⟩ := hphase
      · refine exact_of_pending hpending (by simp [hplace]) fun i hi => ?_
        have hold := hpending.head
        have hhead := hs.head
        obtain rfl : old = i := Place.waiting.inj (hplace.symm.trans hi)
        rw [Belongs, hold, htail, hcur]
        rw [hold] at hhead
        rw [SEND_BUFFER_MAX] at hhead ⊢
        omega
      · exact ⟨hwire ▸ List.prefix_rfl, fun _ => hwire, fun _ _ => .inl hwire⟩

theorem writes_not_waiting {i : Nat} (h : Allowed s event) (hwrites : writes s event = some i) :
    ∀ old, s.place ≠ .waiting old := by
  intro old hplace
  cases event with
  | call frame =>
      have hidle := h.1
      rw [hplace] at hidle
      cases hidle
  | driver =>
      rw [writes, hplace] at hwrites
      cases hwrites
  | transmit status => cases hwrites

theorem keeps_of_synced (hs : Synced s) (h : Allowed s event) : Keeps s event := by
  refine ⟨fun i hwrites => ?_, ?_⟩
  · exact not_belongs_of_head_eq_tail (hs.head_eq_tail (writes_not_waiting h hwrites)) i
  · exact (synced_step hs h).mono fun result hresult => exact_of_synced hresult

end Steps

theorem runs_keep_of_synced (hs : Synced s) {events : List Event}
    (h : Guarded step Allowed s events) : Guarded step Keeps s events := by
  apply h.of_invariant Synced
  · intro s event o t hs hallowed hstep
    obtain ⟨result, hresult, hsynced⟩ := synced_step hs hallowed
    rw [hstep] at hresult
    cases hresult
    exact hsynced
  · intro s event hs hallowed
    exact keeps_of_synced hs hallowed
  · exact hs

def AlwaysKeeps (s : Nic) : Prop :=
  ∀ events, Guarded step Allowed s events → Guarded step Keeps s events

section AlwaysKeeps

variable {s : Nic}

theorem AlwaysKeeps.keeps (h : AlwaysKeeps s) (hallowed : Allowed s event) : Keeps s event :=
  (h [event] (guarded_singleton hallowed)).1

theorem AlwaysKeeps.next (h : AlwaysKeeps s) (event : Event) (hallowed : Allowed s event)
    {t : Nic} (hstep : step s event = .ok ((), t)) : AlwaysKeeps t ∧ Exact t := by
  constructor
  · intro events hevents
    exact (h (event :: events) (guarded_cons hallowed hstep hevents)).tail hstep
  · obtain ⟨result, hresult, hexact⟩ := (h.keeps hallowed).2
    rw [hstep] at hresult
    cases hresult
    exact hexact

theorem AlwaysKeeps.driver (h : AlwaysKeeps s) (hplace : s.place ≠ .idle) :
    AlwaysKeeps (TransmitRing.driver s) ∧ Exact (TransmitRing.driver s) :=
  h.next .driver hplace rfl

theorem not_exact_transmit (frames : List (List UInt8)) (hpassed : s.passed = s.wire ++ frames)
    (hframe : ∀ frame, frames.head? = some frame →
      (s.tx_buffers s.head).take (s.legacy_tx_descs s.head).length ≠ frame) (status : UInt8) :
    ¬ Exact (transmit s status) := by
  intro hexact
  have horder : s.wire ++ [_] <+: s.passed := hexact.order
  rw [hpassed, List.prefix_append_right_inj] at horder
  obtain ⟨rest, hrest⟩ := horder
  rw [← hrest] at hframe
  exact hframe _ rfl rfl

def otherFrame (bytes : List UInt8) : List UInt8 := if bytes = [0] then [1] else [0]

theorem ne_otherFrame (bytes : List UInt8) : bytes ≠ otherFrame bytes := by
  rw [otherFrame]
  split
  · rename_i h
    rw [h]
    decide
  · assumption

theorem length_otherFrame (bytes : List UInt8) : (otherFrame bytes).length = 1 := by
  rw [otherFrame]
  split <;> rfl

theorem inStep_of_alwaysKeeps (hs : Quiet s) (h : AlwaysKeeps s) : InStep s := by
  have htail : s.head = s.tail := by
    by_contra hne
    have hexact := (h.next (.transmit 0) hne rfl).2
    refine not_exact_transmit [] ?_ (by simp) 0 hexact
    rw [hs.exact, List.append_nil]
  refine ⟨htail, ?_⟩
  by_contra hcur
  have hhead : s.head ≠ s.tx_cur := fun heq => hcur (htail ▸ heq)
  let bytes := (s.tx_buffers s.head).take (s.legacy_tx_descs s.head).length
  let frame := otherFrame bytes
  have hlen : frame.length = 1 := length_otherFrame bytes
  have hcall : Allowed s (.call frame) := ⟨hs.idle, by rw [hlen]; decide, by rw [hlen]; decide⟩
  -- the call runs up to its loop at the end
  have hcopied := h.next (.call frame) hcall (call_ok hcall.2.1 hcall.2.2 hs.tx_cur)
  have hdescribed := hcopied.1.driver (by simp [copied])
  have hcommanded := hdescribed.1.driver (by simp [copied, driver])
  have hcleared := hcommanded.1.driver (by simp [copied, driver])
  have hadvanced := hcleared.1.driver (by simp [copied, driver])
  obtain ⟨halways, hexact⟩ := hadvanced.1.driver (by simp [copied, driver])
  set t := TransmitRing.driver (TransmitRing.driver (TransmitRing.driver (TransmitRing.driver
    (TransmitRing.driver (copied s frame))))) with ht
  have hwire : t.wire = s.wire := rfl
  have hpassed : t.passed = s.wire ++ [frame] := by
    rw [hs.exact]
    rfl
  have hbytes : (t.tx_buffers t.head).take (t.legacy_tx_descs t.head).length = bytes := by
    simp [ht, copied, driver, setDesc, Function.update_of_ne hhead, bytes]
  have hbelongs : Belongs t s.tx_cur := by
    refine (hexact.handed s.tx_cur rfl).resolve_left fun heq => ?_
    rw [hwire, hpassed] at heq
    simp at heq
  have hsend : t.head ≠ t.tail := by
    intro heq
    exact not_belongs_of_head_eq_tail heq _ hbelongs
  refine not_exact_transmit [frame] ?_ ?_ 0 (halways.next (.transmit 0) hsend rfl).2
  · rw [hwire, hpassed]
  · rintro _ ⟨⟩
    rw [hbytes]
    exact ne_otherFrame bytes

end AlwaysKeeps

theorem synced_of_inStep (hs : Quiet s) (h : InStep s) : Synced s where
  head := hs.head
  tx_cur := hs.tx_cur
  phase := by
    rw [hs.idle]
    exact ⟨h.1, h.2, hs.exact⟩

theorem alwaysKeeps_iff (hs : Quiet s) : AlwaysKeeps s ↔ InStep s := by
  constructor
  · exact inStep_of_alwaysKeeps hs
  · intro h events hevents
    exact runs_keep_of_synced (synced_of_inStep hs h) hevents

theorem not_keeps_setup (memory : Nat → List UInt8)
    (h : Allowed (initialize_tx_support memory) event) :
    ¬ Keeps (initialize_tx_support memory) event := by
  rintro ⟨hwrites, hexact⟩
  cases event with
  | call frame =>
      refine hwrites 0 rfl ?_
      change (0 + 8 - 0) % 8 < (7 + 8 - 0) % 8
      decide
  | driver => exact h rfl
  | transmit status =>
      obtain ⟨result, hresult, hexact⟩ := hexact
      cases hresult
      exact not_exact_transmit [] rfl (by simp) status hexact

/-- From the initial ring on, only the run without a step is right. When no call is running, the
runs are right exactly if head, tail and the index of the driver agree. -/
theorem transmit_ring_iff (memory : Nat → List UInt8) (events : List Event) (s : Nic)
    (hallowed : Guarded step Allowed (initialize_tx_support memory) events) (hs : Quiet s) :
    (Guarded step Keeps (initialize_tx_support memory) events ↔ events = []) ∧
      (AlwaysKeeps s ↔ InStep s) := by
  refine ⟨?_, alwaysKeeps_iff hs⟩
  constructor
  · intro hkeeps
    cases events with
    | nil => rfl
    | cons event events => exact absurd hkeeps.1 (not_keeps_setup memory hallowed.1)
  · rintro rfl
    exact guarded_nil _

def ringInStep : Nic := { initialize_tx_support (fun _ => []) with tail := 0 }

theorem quiet_ringInStep : Quiet ringInStep where
  idle := rfl
  head := by decide
  tail := by decide
  tx_cur := by decide
  exact := rfl

def oneFrame : List Event :=
  [.call [7], .driver, .driver, .driver, .driver, .driver, .transmit 0, .driver]

theorem transmit_ring_iff_oneFrame :
    (Guarded step Keeps (initialize_tx_support fun _ => []) oneFrame ↔ oneFrame = []) ∧
      (AlwaysKeeps ringInStep ↔ InStep ringInStep) :=
  transmit_ring_iff _ _ _ (by decide +kernel) quiet_ringInStep

/-- The device sends the seven buffers from the head up to the tail, and the eighth in front of
the frame of the first call. -/
theorem stale_frames :
    (run step (initialize_tx_support fun i => [.ofNat i])
        (List.replicate 7 (.transmit 0) ++ [.call [9], .driver, .driver, .driver, .driver, .driver,
          .transmit 0, .transmit 0, .driver])).map (fun r => (r.2.place, r.2.passed, r.2.wire)) =
      .ok (.idle, [[9]], [[0], [1], [2], [3], [4], [5], [6], [7], [9]]) ∧
    ¬ Guarded step Keeps (initialize_tx_support fun i => [.ofNat i])
        (List.replicate 7 (.transmit 0) ++ [.call [9], .driver, .driver, .driver, .driver, .driver,
          .transmit 0, .transmit 0, .driver]) := by
  refine ⟨by decide +kernel, fun h => ?_⟩
  exact not_keeps_setup _ (by decide) h.1

end Gramado.Net.TransmitRing
