import Gramado.Input.KeyPairing

/-! The modifiers, and the keys that are held. -/

namespace Gramado.Input.Modifiers

open Library.Run Input.Keymap Input.KeyRouting Input.KeyPairing

inductive Kind where
  | shift
  | ctrl
  | alt
  deriving DecidableEq

def Kind.status : Kind → KeyStatus → Bool
  | .shift, s => s.shift
  | .ctrl, s => s.ctrl
  | .alt, s => s.alt

def Kind.vks : Kind → List UInt8
  | .shift => [VK_LSHIFT, VK_RSHIFT]
  | .ctrl => [VK_LCONTROL, VK_RCONTROL]
  | .alt => [VK_LALT, VK_ALTGR]

def layoutVk : Key → UInt8
  | .plain scancode _ => keymapNormal scancode
  | .extended scancode _ => keymapExtended scancode
  | .extendedF0 scancode _ => keymapExtended scancode
  | .extended2 _ _ _ _ => 0

def Kind.has (kind : Kind) (key : Key) : Bool :=
  layoutVk key ∈ kind.vks

def Kind.tracks : Kind → Key → Bool
  | .shift => isShiftKey
  | .ctrl => isControlKey
  | .alt => fun _ => false

/-- The status, the keys that are held, and the number of presses of caps lock. -/
structure State where
  status : KeyStatus
  held : List Key
  capsPresses : Nat

def heldBehind (held : List Key) (e : KeyEvent) : List Key :=
  if e.pressed = true then e.key :: held else held.filter (· ≠ e.key)

def isCapsPress (e : KeyEvent) : Bool :=
  e.pressed = true ∧ layoutVk e.key = VK_CAPSLOCK

def next (b : Broker) (s : State) (e : KeyEvent) : State where
  status := (wmRawKeyEvent b s.status e.raw).2
  held := heldBehind s.held e
  capsPresses := if isCapsPress e = true then s.capsPresses + 1 else s.capsPresses

def step (b : Broker) (s : State) (e : KeyEvent) : Except Empty (Unit × State) :=
  .ok ((), next b s e)

def start : State := ⟨unpressed, [], 0⟩

def isHeld (kind : Kind) (held : List Key) : Bool :=
  held.any kind.has

structure Tracked (s : State) : Prop where
  modifiers : ∀ kind, kind.status s.status = isHeld kind s.held
  capslock : s.status.capslock = true ↔ s.capsPresses % 2 = 1

def Keeps (b : Broker) (s : State) (e : KeyEvent) : Prop :=
  Tracked (next b s e)

def Legal (s : State) (e : KeyEvent) : Prop :=
  e.pressed = false → e.key ∈ s.held

/-- The key that is released was the only one of its kind; a key of the kind that does not
change the status does not change whether one is held either. -/
def Harmless (s : State) (e : KeyEvent) : Prop :=
  ∀ kind, if Kind.tracks kind e.key = true then
      e.pressed = false → isHeld kind (heldBehind s.held e) = false
    else isHeld kind (heldBehind s.held e) = isHeld kind s.held

instance (s : State) (e : KeyEvent) : Decidable (Legal s e) :=
  inferInstanceAs (Decidable (_ → _))

theorem tracked_start : Tracked start where
  modifiers kind := by cases kind <;> rfl
  capslock := by simp [start, unpressed]

variable {key : Key} {s : State}

theorem layoutVk_of_normalVk {vk : UInt8} (h : key.normalVk = some vk) : layoutVk key = vk := by
  cases key with
  | plain scancode hlt =>
      rw [Key.normalVk] at h
      split at h
      · exact Option.some.inj h
      · cases h
  | _ => cases h

theorem Kind.has_of_tracks {kind : Kind} (h : kind.tracks key = true) : kind.has key = true := by
  cases kind with
  | shift =>
      simp only [Kind.tracks, isShiftKey, decide_eq_true_eq] at h
      rcases h with h | h <;> simp [Kind.has, Kind.vks, layoutVk_of_normalVk h]
  | ctrl =>
      simp only [Kind.tracks, isControlKey, decide_eq_true_eq] at h
      rcases h with h | h <;> simp [Kind.has, Kind.vks, layoutVk_of_normalVk h]
  | alt => cases h

theorem keymapExtended_ne_capslock (scancode : UInt8) : keymapExtended scancode ≠ VK_CAPSLOCK := by
  have hall : (extendedAbnt2.all fun vk => decide (vk ≠ VK_CAPSLOCK)) = true := by decide
  have hmap : ∀ vk ∈ extendedAbnt2, vk ≠ VK_CAPSLOCK :=
    fun vk hvk => of_decide_eq_true (List.all_eq_true.mp hall vk hvk)
  exact forall_keymapEntry hmap (by decide) scancode

theorem capslock_plain : ∀ scancode : UInt8, keymapNormal scancode = VK_CAPSLOCK →
    extendedData ⟨scancode, 0x00, 0x00, 0x00⟩ = none :=
  forall_byte (by decide +kernel)

theorem normalVk_capslock : key.normalVk = some VK_CAPSLOCK ↔ layoutVk key = VK_CAPSLOCK := by
  refine ⟨layoutVk_of_normalVk, fun h => ?_⟩
  cases key with
  | plain scancode hlt =>
      rw [normalVk_plain hlt (capslock_plain scancode h)]
      exact congrArg some h
  | extended scancode _ => exact absurd h (keymapExtended_ne_capslock scancode)
  | extendedF0 scancode _ => exact absurd h (keymapExtended_ne_capslock scancode)
  | extended2 scancode1 scancode2 h1 h2 =>
      have hzero : (0 : UInt8) = VK_CAPSLOCK := h
      exact absurd hzero (by decide)

theorem status_next (b : Broker) (s : State) (e : KeyEvent) (kind : Kind) :
    kind.status (next b s e).status =
      if kind.tracks e.key = true then e.pressed else kind.status s.status := by
  obtain ⟨hshift, hctrl, halt, -⟩ := status_step b s.status e
  cases kind with
  | shift => exact hshift
  | ctrl => exact hctrl
  | alt => exact halt

theorem capslock_next (b : Broker) (e : KeyEvent)
    (h : s.status.capslock = true ↔ s.capsPresses % 2 = 1) :
    (next b s e).status.capslock = true ↔ (next b s e).capsPresses % 2 = 1 := by
  obtain ⟨-, -, -, hcaps⟩ := status_step b s.status e
  have hpress : isCapsPress e = isCapsLockPress e := by
    simp only [isCapsPress, isCapsLockPress, normalVk_capslock]
  simp only [next, hcaps, hpress]
  cases isCapsLockPress e with
  | false => exact h
  | true =>
      simp only [if_true, Bool.not_eq_true', ← Bool.not_eq_true, h]
      omega

theorem keeps_iff (b : Broker) (hs : Tracked s) (e : KeyEvent) : Keeps b s e ↔ Harmless s e := by
  have hkind (kind : Kind) : kind.status (next b s e).status = isHeld kind (next b s e).held ↔
      if Kind.tracks kind e.key = true then
        e.pressed = false → isHeld kind (heldBehind s.held e) = false
      else isHeld kind (heldBehind s.held e) = isHeld kind s.held := by
    rw [status_next, hs.modifiers]
    change _ = isHeld kind (heldBehind s.held e) ↔ _
    split_ifs with htracks
    · cases hpressed : e.pressed with
      | false => exact ⟨fun h _ => h.symm, fun h => (h rfl).symm⟩
      | true =>
          have hheld : isHeld kind (heldBehind s.held e) = true := by
            simp [isHeld, heldBehind, hpressed, Kind.has_of_tracks htracks]
          simp [hheld]
    · exact eq_comm
  constructor
  · intro h kind
    exact (hkind kind).mp (h.modifiers kind)
  · intro h
    exact ⟨fun kind => (hkind kind).mpr (h kind), capslock_next b e hs.capslock⟩

/-- The flags are what the keys are in every state of a run if and only if every event of it is
harmless. -/
theorem modifier_tracking_iff (b : Broker) (events : List KeyEvent) :
    Guarded (step b) (Keeps b) start events ↔ Guarded (step b) Harmless start events := by
  apply guarded_iff Tracked (fun s e hs => keeps_iff b hs e) _ tracked_start
  intro s e _ t _ hkeeps hstep
  cases hstep
  exact hkeeps

def rightShift : Key := .plain 0x36 (by decide)

/-- Both shift keys are pressed and the left one is released: the flag falls while the right one
is held. -/
theorem right_shift_lost :
    Guarded (step broker) Legal start [leftShift.press, rightShift.press, leftShift.release] ∧
      ¬ Guarded (step broker) (Keeps broker) start
        [leftShift.press, rightShift.press, leftShift.release] := by
  refine ⟨by decide, fun h => ?_⟩
  have hlast : Tracked (next broker (next broker (next broker start leftShift.press)
      rightShift.press) leftShift.release) := h.2.2.1
  exact absurd (hlast.modifiers .shift) (by decide)

end Gramado.Input.Modifiers
