import Gramado.Library.Run

/-! The receive ring of the e1000 between the device and the driver. -/

namespace Gramado.Net.ReceiveRing

def RECEIVE_BUFFER_MAX : Nat := 32
def E1000_DEFAULT_BUFFER_SIZE : Nat := 8192

/-- `legacy_rx_desc` without the address of its buffer, which stays. -/
structure RxDesc where
  length : Nat
  status : UInt8

inductive Panic where
  | old
  | frame_lenght
  deriving DecidableEq, Repr

/-- Where the driver is: outside the service procedure, before a read or a write of what it
shares with the device, or at the test of the drain loop. -/
inductive Place where
  | idle
  | reading
  | acknowledging
  | looking
  | measuring (old : Nat)
  | clearing (old frame_lenght : Nat)
  | returning (old frame_lenght : Nat)
  | handing (old frame_lenght : Nat)
  deriving DecidableEq, Repr

/-- The device and the driver. `received` and `delivered` are the frames so far, and `waiting`
the buffers filled and not handed over. Of a run of the service procedure there are the cause
word it read and the numbers of frames received and delivered before it. -/
structure Nic where
  legacy_rx_descs : Nat → RxDesc
  rx_buffers : Nat → List UInt8
  head : Nat
  tail : Nat
  cause : Nat
  rx_cur : Nat
  place : Place
  received : List (List UInt8)
  delivered : List (List UInt8)
  waiting : Nat → Bool
  word : Nat
  receivedBefore : Nat
  deliveredBefore : Nat

def initialize_rx_support (memory : Nat → List UInt8) (cause : Nat) : Nic where
  legacy_rx_descs := fun _ => ⟨E1000_DEFAULT_BUFFER_SIZE, 0⟩
  rx_buffers := memory
  head := 0
  tail := 31
  cause := cause
  rx_cur := 0
  place := .idle
  received := []
  delivered := []
  waiting := fun _ => false
  word := 0
  receivedBefore := 0
  deliveredBefore := 0

def fill (s : Nic) (frame : List UInt8) (status : UInt8) (bits : Nat) : Nic :=
  { s with
    legacy_rx_descs :=
      Function.update s.legacy_rx_descs s.head ⟨frame.length, status ||| 1⟩
    rx_buffers :=
      Function.update s.rx_buffers s.head (frame ++ (s.rx_buffers s.head).drop frame.length)
    head := (s.head + 1) % RECEIVE_BUFFER_MAX
    cause := s.cause ||| bits
    received := s.received ++ [frame]
    waiting := Function.update s.waiting s.head true }

def acknowledged (s : Nic) : Nic :=
  { s with cause := 0 }

def leave (s : Nic) (rv : Int) : Option Int × Nic :=
  (some rv, { s with place := .idle })

/-- The causes are tested one after the other once they are all acknowledged. -/
def dispatch (s : Nic) : Option Int × Nic :=
  if s.word = 0 then leave s (-1)
  else if s.word &&& 0x01 ≠ 0 then leave s 0
  else if s.word &&& 0x02 ≠ 0 then leave s 0
  else if s.word &&& 0x04 ≠ 0 then leave s 0
  else if s.word &&& 0x80 ≠ 0 then (none, { s with place := .looking })
  else if s.word &&& 0x10 ≠ 0 then leave s 0
  else if s.word &&& 0x8000 ≠ 0 then leave s 0
  else leave s (-1)

section

-- what the network leaves in the buffer of a frame
variable (network_on_receiving : List UInt8 → List UInt8)

def driver (s : Nic) : Except Panic (Option Int × Nic) :=
  match s.place with
  | .idle =>
      .ok (none, { s with
        place := .reading
        receivedBefore := s.received.length
        deliveredBefore := s.delivered.length })
  | .reading => .ok (none, { s with place := .acknowledging, word := s.cause })
  | .acknowledging => .ok (dispatch (acknowledged s))
  | .looking =>
      if (s.legacy_rx_descs s.rx_cur).status &&& 1 ≠ 1 then .ok (leave s 0)
      else if s.rx_cur ≥ RECEIVE_BUFFER_MAX then .error .old
      else
        .ok (none, { s with
          place := .measuring s.rx_cur
          rx_cur := (s.rx_cur + 1) % RECEIVE_BUFFER_MAX })
  | .measuring old =>
      let frame_lenght := (s.legacy_rx_descs old).length
      if frame_lenght > E1000_DEFAULT_BUFFER_SIZE then .error .frame_lenght
      else .ok (none, { s with place := .clearing old frame_lenght })
  | .clearing old frame_lenght =>
      let desc := s.legacy_rx_descs old
      .ok (none, { s with
        place := .returning old frame_lenght
        legacy_rx_descs := Function.update s.legacy_rx_descs old
          { desc with status := desc.status &&& ~~~1 } })
  | .returning old frame_lenght =>
      .ok (none, { s with place := .handing old frame_lenght, tail := old })
  | .handing old frame_lenght =>
      .ok (none, { s with
        place := .looking
        rx_buffers := Function.update s.rx_buffers old (network_on_receiving (s.rx_buffers old))
        delivered := s.delivered ++ [(s.rx_buffers old).take frame_lenght]
        waiting := Function.update s.waiting old false })

inductive Event where
  | fill (frame : List UInt8) (status : UInt8) (bits : Nat)
  | raise (bits : Nat)
  | driver

def step (s : Nic) : Event → Except Panic (Option Int × Nic)
  | .fill frame status bits => .ok (none, fill s frame status bits)
  | .raise bits => .ok (none, { s with cause := s.cause ||| bits })
  | .driver => driver network_on_receiving s

end

/-- What the device may do: it fills a descriptor of its own with a frame that fits, and
signals a reception behind one. -/
def Allowed (s : Nic) : Event → Prop
  | .fill frame _ _ => s.head ≠ s.tail ∧ frame.length ≤ E1000_DEFAULT_BUFFER_SIZE
  | .raise bits => bits &&& 0x80 ≠ 0 → s.received ≠ []
  | .driver => True

instance (s : Nic) : ∀ event, Decidable (Allowed s event)
  | .fill _ _ _ => inferInstanceAs (Decidable (_ ∧ _))
  | .raise _ => inferInstanceAs (Decidable (_ → _))
  | .driver => inferInstanceAs (Decidable True)

end Gramado.Net.ReceiveRing
