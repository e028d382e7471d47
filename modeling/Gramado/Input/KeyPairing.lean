import Gramado.Input.KeyRouting
import Mathlib.Data.List.Infix

/-! The press of a key and its release, as the foreground thread sees them. -/

namespace Gramado.Input.KeyPairing

open Input.Keymap Input.KeyRouting
open Input.Keyboard (RawKeyEvent)

inductive Key where
  | plain (scancode : UInt8) (h : scancode < 0x80)
  | extended (scancode : UInt8) (h : scancode < 0x80)
  | extendedF0 (scancode : UInt8) (h : scancode < 0x80)
  | extended2 (scancode1 scancode2 : UInt8) (h1 : scancode1 < 0x80) (h2 : scancode2 < 0x80)
  deriving DecidableEq

structure KeyEvent where
  key : Key
  pressed : Bool
  deriving DecidableEq

def KeyEvent.raw (e : KeyEvent) : RawKeyEvent :=
  match e.key, e.pressed with
  | .plain scancode _, true => ⟨scancode, 0x00, 0x00, 0x00⟩
  | .plain scancode _, false => ⟨scancode ||| 0x80, 0x00, 0x00, 0x00⟩
  | .extended scancode _, true => ⟨0xE0, scancode, 0x00, 0xE0⟩
  | .extended scancode _, false => ⟨0xE0, scancode ||| 0x80, 0x00, 0xE0⟩
  | .extendedF0 scancode _, true => ⟨0xE0, scancode, 0x00, 0xE0⟩
  | .extendedF0 scancode _, false => ⟨0xE0, 0xF0, scancode, 0xE0⟩
  | .extended2 scancode1 scancode2 _ _, true => ⟨0xE1, scancode1, scancode2, 0xE1⟩
  | .extended2 scancode1 scancode2 _ _, false =>
      ⟨0xE1, scancode1 ||| 0x80, scancode2 ||| 0x80, 0xE1⟩

def Key.press (key : Key) : KeyEvent := ⟨key, true⟩

def Key.release (key : Key) : KeyEvent := ⟨key, false⟩

def statusAfter (b : Broker) (s : KeyStatus) (events : List KeyEvent) : KeyStatus :=
  events.foldl (fun s e => (wmRawKeyEvent b s e.raw).2) s

def Sent (b : Broker) (s : KeyStatus) (e : KeyEvent) (msg : Message) (vk : UInt8) : Prop :=
  ∃ scancode, .postThread msg vk scancode ∈ (wmRawKeyEvent b s e.raw).1

/-- Every press that the foreground thread is sent is followed by its release. -/
def Paired (b : Broker) (s : KeyStatus) (events : List KeyEvent) : Prop :=
  ∀ (before : List KeyEvent) (key : Key) (between after : List KeyEvent),
    events = before ++ key.press :: between ++ key.release :: after →
    key.release ∉ between → ∀ down up vk, Message.matching down = some up →
      Sent b (statusAfter b s before) key.press down vk →
      Sent b (statusAfter b s (before ++ key.press :: between)) key.release up vk

def heldAfter (isKey : Key → Bool) (held : Bool) (events : List KeyEvent) : Bool :=
  events.foldl (fun held e => if isKey e.key = true then e.pressed else held) held

/-- A key that is translated on its own, with its entry in the table of the plain keys. -/
def Key.normalVk : Key → Option UInt8
  | .plain scancode _ =>
      if extendedData ⟨scancode, 0x00, 0x00, 0x00⟩ = none then some (keymapNormal scancode)
      else none
  | _ => none

def isShiftKey (key : Key) : Bool :=
  key.normalVk = some VK_LSHIFT ∨ key.normalVk = some VK_RSHIFT

def isControlKey (key : Key) : Bool :=
  key.normalVk = some VK_LCONTROL ∨ key.normalVk = some VK_RCONTROL

def isCapsLockPress (e : KeyEvent) : Bool :=
  e.pressed = true ∧ e.key.normalVk = some VK_CAPSLOCK

/-- The keys that are not sent with control: the right enter key and the arrows. -/
def controlled (scancode : UInt8) : Prop :=
  keymapExtended scancode = VK_RETURN ∨ (controlArrow (keymapExtended scancode)).isSome = true

def Undisturbed (between : List KeyEvent) : Key → Prop
  | .plain scancode _ =>
      if extendedData ⟨scancode, 0x00, 0x00, 0x00⟩ = none then
        scancode ≠ 0x7F ∧ scancode ≠ 0x46 ∧
          heldAfter isShiftKey false between = false ∧
          heldAfter isControlKey false between = false ∧
          (between.countP isCapsLockPress % 2 = 0 ∨ keymapNormal scancode = keymapShift scancode)
      else controlled scancode → heldAfter isControlKey false between = false
  | .extended scancode _ => controlled scancode → heldAfter isControlKey false between = false
  | .extendedF0 _ _ => False
  | .extended2 scancode1 _ _ _ =>
      controlled scancode1 → heldAfter isControlKey false between = false

/-- The presses that the foreground thread is sent are undisturbed up to the release. -/
def AllUndisturbed (b : Broker) (s : KeyStatus) (events : List KeyEvent) : Prop :=
  ∀ (before : List KeyEvent) (key : Key) (between after : List KeyEvent),
    events = before ++ key.press :: between ++ key.release :: after →
    key.release ∉ between → ∀ down up vk, Message.matching down = some up →
      Sent b (statusAfter b s before) key.press down vk → Undisturbed between key

variable {P : UInt8 → Prop} {scancode vk v : UInt8} {s t : KeyStatus} {down up msg : Message}
  {e : KeyEvent} {b : Broker} {capslock : Bool} {data : RawKeyEvent} {key : Key}

theorem forall_byte (h : ∀ n : Fin 256, P (UInt8.ofNat n)) (byte : UInt8) : P byte := by
  have hbyte := h ⟨byte.toNat, byte.toNat_lt⟩
  rwa [UInt8.ofNat_toNat] at hbyte

theorem scancode_bits : ∀ scancode : UInt8, scancode < 0x80 →
    scancode &&& 0x80 = 0 ∧ scancode &&& 0x7F = scancode ∧ scancode ≠ 0xFF ∧ scancode ≠ 0xE1 ∧
      (scancode ||| 0x80) &&& 0x80 ≠ 0 ∧ (scancode ||| 0x80) &&& 0x7F = scancode ∧
      (scancode ||| 0x80 = 0xFF ↔ scancode = 0x7F) :=
  forall_byte (by decide +kernel)

theorem break_bits : ∀ scancode : UInt8, scancode < 0x80 →
    scancode ≠ 0x9D ∧ scancode ||| 0x80 ≠ 0x1D ∧ (scancode ||| 0x80 = 0x9D ↔ scancode = 0x1D) ∧
      (scancode ||| 0x80 = 0xC5 ↔ scancode = 0x45) ∧ (scancode ||| 0x80 ≠ 0xE1 ∨ scancode = 0x61) ∧
      ¬ 0xFF ≤ scancode :=
  forall_byte (by decide +kernel)

def sentExtended (s : KeyStatus) (pressed : Bool) (scancode : UInt8) (msg : Message)
    (vk : UInt8) : Prop :=
  vk = keymapExtended scancode ∧
    msg = (if keymapExtended scancode = VK_RETURN then if pressed = true then .keyDown else .keyUp
      else if pressed = true then .sysKeyDown else .sysKeyUp) ∧
    (keymapExtended scancode ∈ centerKeys ∨ controlled scancode ∧ s.ctrl = false)

theorem center_ne_7F : keymapExtended 0x7F ∉ centerKeys ∧ ¬ controlled 0x7F := by
  unfold controlled
  decide

theorem rawExtendedKey_make (b : Broker) (s : KeyStatus) (h : scancode < 0x80)
    (byte0 byte2 code : UInt8) (hpause : ¬ (byte0 = 0xE1 ∧ scancode = 0x1D ∧ byte2 = 0x45))
    (msg : Message) (vk : UInt8) :
    (∃ n, .postThread msg vk n ∈ rawExtendedKey b s ⟨byte0, scancode, byte2, code⟩) ↔
      sentExtended s true scancode msg vk := by
  obtain ⟨hmake, hmask, hFF, -⟩ := scancode_bits scancode h
  obtain ⟨h9D, -, -, -, -, hle⟩ := break_bits scancode h
  have hnone : pauseMessage ⟨byte0, scancode, byte2, code⟩ = none := by
    simp [pauseMessage, hpause, h9D]
  unfold rawExtendedKey
  rw [if_neg hFF, hnone]
  dsimp only
  rw [hmake, if_neg (not_not_intro rfl), hmask]
  have hmem := mem_processExtended b s true (keymapExtended scancode) scancode scancode msg vk
  simp only [if_true] at hmem
  simp [hmem, hle, sentExtended, controlled]

theorem rawExtendedKey_break (b : Broker) (s : KeyStatus) (h : scancode < 0x80)
    (byte0 byte2 code : UInt8) (hpause : ¬ (byte0 = 0xE1 ∧ scancode = 0x1D ∧ byte2 = 0xC5))
    (msg : Message) (vk : UInt8) :
    (∃ n, .postThread msg vk n ∈ rawExtendedKey b s ⟨byte0, scancode ||| 0x80, byte2, code⟩) ↔
      sentExtended s false scancode msg vk := by
  obtain ⟨-, -, -, -, hbreak, hmask, hFF⟩ := scancode_bits scancode h
  obtain ⟨-, h1D, h9D, -⟩ := break_bits scancode h
  have hnone : pauseMessage ⟨byte0, scancode ||| 0x80, byte2, code⟩ = none := by
    simp [pauseMessage, h1D, h9D, hpause]
  unfold rawExtendedKey sentExtended
  by_cases h7F : scancode = 0x7F
  · subst h7F
    rw [if_pos (hFF.mpr rfl)]
    simp [center_ne_7F]
  · have hle : ¬ 0xFF ≤ scancode ||| 0x80 := by
      intro hle
      exact h7F (hFF.mp (UInt8.le_antisymm (UInt8.le_iff_toNat_le.mpr
        (Nat.le_of_lt_succ (UInt8.toNat_lt _))) hle))
    rw [if_neg (mt hFF.mp h7F), hnone]
    dsimp only
    rw [if_pos hbreak, hmask]
    have hmem := mem_processExtended b s false (keymapExtended scancode) (scancode ||| 0x80)
      scancode msg vk
    simp only [Bool.false_eq_true, if_false] at hmem
    simp [hmem, hle, controlled]

theorem center_not_controlled (h : keymapExtended scancode ∈ centerKeys) :
    ¬ controlled scancode := by
  unfold controlled
  generalize keymapExtended scancode = vk at h
  simp only [centerKeys, List.mem_cons, List.not_mem_nil, or_false] at h
  rcases h with rfl | rfl | rfl | rfl | rfl | rfl | rfl | rfl | rfl <;> decide

theorem sentExtended_pair (hmatch : down.matching = some up)
    (h : sentExtended s true scancode down vk) :
    sentExtended t false scancode up vk ↔ (controlled scancode → t.ctrl = false) := by
  obtain ⟨rfl, rfl, hkey⟩ := h
  have hup : up = if keymapExtended scancode = VK_RETURN then .keyUp else .sysKeyUp := by
    split
    · rename_i hreturn
      rw [if_pos hreturn] at hmatch
      exact (Option.some.inj hmatch).symm
    · rename_i hreturn
      rw [if_neg hreturn] at hmatch
      exact (Option.some.inj hmatch).symm
  unfold sentExtended
  simp only [hup, Bool.false_eq_true, if_false, true_and]
  constructor
  · rintro (hcenter | ⟨-, hctrl⟩) hcontrolled
    · exact absurd hcontrolled (center_not_controlled hcenter)
    · exact hctrl
  · intro hctrl
    rcases hkey with hcenter | ⟨hcontrolled, -⟩
    · exact .inl hcenter
    · exact .inr ⟨hcontrolled, hctrl hcontrolled⟩

def translate (s : KeyStatus) (pressed : Bool) (scancode : UInt8) : KeyStatus × Message × UInt8 :=
  if pressed = true then translateMake s scancode else translateBreak s scancode

theorem wmRawKeyEvent_plain (b : Broker) (s : KeyStatus) (h : scancode < 0x80)
    (hplain : extendedData ⟨scancode, 0x00, 0x00, 0x00⟩ = none) (pressed : Bool)
    (hbreak : pressed = true ∨ scancode ≠ 0x7F) :
    wmRawKeyEvent b s (KeyEvent.raw ⟨.plain scancode h, pressed⟩) =
      let (t, msg, vk) := translate s pressed scancode
      (dispatchKey b t msg vk scancode,
        t.setShell (shellAfter t.shell (dispatchKey b t msg vk scancode))) := by
  obtain ⟨hmake, hmask, hFF, hE1, hbit, hmask', hFF'⟩ := scancode_bits scancode h
  cases pressed with
  | true =>
      have hpause : pauseMessage ⟨scancode, 0x00, 0x00, 0x00⟩ = none := by simp [pauseMessage, hE1]
      unfold wmRawKeyEvent KeyEvent.raw
      dsimp only
      rw [hplain]
      dsimp only
      rw [if_neg hFF, hpause, hmake, hmask]
      rfl
  | false =>
      have hne : scancode ||| 0x80 ≠ 0xFF :=
        fun heq => hbreak.elim (fun h => Bool.false_ne_true h) fun h => h (hFF'.mp heq)
      have hdata : extendedData ⟨scancode ||| 0x80, 0x00, 0x00, 0x00⟩ = none := by
        rw [extendedData_unprefixed, hmask] at hplain
        rw [extendedData_unprefixed, hmask']
        split at hplain
        · cases hplain
        · rename_i hnot
          exact if_neg hnot
      have hpause : pauseMessage ⟨scancode ||| 0x80, 0x00, 0x00, 0x00⟩ = none := by
        simp [pauseMessage]
      unfold wmRawKeyEvent KeyEvent.raw
      dsimp only
      rw [hdata]
      dsimp only
      rw [if_neg hne, hpause, hmask', if_pos hbit]
      rfl

theorem wmRawKeyEvent_break_7F (b : Broker) (s : KeyStatus) (h : (0x7F : UInt8) < 0x80) :
    wmRawKeyEvent b s (KeyEvent.raw ⟨.plain 0x7F h, false⟩) = ([], s) := by
  have hdata : extendedData ⟨0x7F ||| 0x80, 0x00, 0x00, 0x00⟩ = none := rfl
  unfold wmRawKeyEvent KeyEvent.raw
  dsimp only
  rw [hdata]
  rfl

theorem extendedData_plain (h : scancode < 0x80)
    (hplain : extendedData ⟨scancode, 0x00, 0x00, 0x00⟩ ≠ none) :
    extendedData ⟨scancode, 0x00, 0x00, 0x00⟩ = some ⟨0xE0, scancode, 0x00, 0xE0⟩ ∧
      extendedData ⟨scancode ||| 0x80, 0x00, 0x00, 0x00⟩ =
        some ⟨0xE0, scancode ||| 0x80, 0x00, 0xE0⟩ := by
  obtain ⟨-, hmask, -, -, -, hmask', -⟩ := scancode_bits scancode h
  rw [extendedData_unprefixed, hmask] at hplain ⊢
  rw [extendedData_unprefixed, hmask']
  split at hplain
  · rename_i hextended
    rw [if_pos hextended, if_pos hextended]
    exact ⟨rfl, rfl⟩
  · exact absurd rfl hplain

theorem forall_keymapEntry {map : List UInt8} (hmap : ∀ vk ∈ map, P vk) (hzero : P 0)
    (scancode : UInt8) : P (keymapEntry map scancode) := by
  rw [keymapEntry, List.getD_eq_getElem?_getD]
  cases hentry : map[scancode.toNat]? with
  | none => exact hzero
  | some vk => exact hmap vk (List.mem_of_getElem? hentry)

theorem keymapNormal_ne_LALT (scancode : UInt8) : keymapNormal scancode ≠ VK_LALT := by
  have hall : (mapAbnt2.all fun vk => decide (vk ≠ VK_LALT)) = true := by decide
  have hmap : ∀ vk ∈ mapAbnt2, vk ≠ VK_LALT :=
    fun vk hvk => of_decide_eq_true (List.all_eq_true.mp hall vk hvk)
  exact forall_keymapEntry hmap (by decide) scancode

theorem status_extended (b : Broker) (s : KeyStatus) (h : e.key.normalVk = none) :
    (wmRawKeyEvent b s e.raw).2 = s := by
  have hdata : ∃ data, extendedData e.raw = some data := by
    obtain ⟨key, pressed⟩ := e
    cases key with
    | plain scancode hlt =>
        have hplain : extendedData ⟨scancode, 0x00, 0x00, 0x00⟩ ≠ none := by
          intro hnone
          simp [Key.normalVk, hnone] at h
        obtain ⟨hmake, hbreak⟩ := extendedData_plain hlt hplain
        cases pressed with
        | true => exact ⟨_, hmake⟩
        | false => exact ⟨_, hbreak⟩
    | extended scancode hlt => cases pressed <;> exact ⟨_, extendedData_prefixed _ (.inl rfl)⟩
    | extendedF0 scancode hlt => cases pressed <;> exact ⟨_, extendedData_prefixed _ (.inl rfl)⟩
    | extended2 scancode1 scancode2 h1 h2 =>
        cases pressed <;> exact ⟨_, extendedData_prefixed _ (.inr rfl)⟩
  obtain ⟨data, hdata⟩ := hdata
  unfold wmRawKeyEvent
  rw [hdata]

theorem normalVk_plain (h : scancode < 0x80)
    (hplain : extendedData ⟨scancode, 0x00, 0x00, 0x00⟩ = none) :
    (Key.plain scancode h).normalVk = some (keymapNormal scancode) := by
  rw [Key.normalVk, if_pos hplain]

theorem status_step (b : Broker) (s : KeyStatus) (e : KeyEvent) :
    (wmRawKeyEvent b s e.raw).2.shift = (if isShiftKey e.key = true then e.pressed else s.shift) ∧
      (wmRawKeyEvent b s e.raw).2.ctrl = (if isControlKey e.key = true then e.pressed else s.ctrl) ∧
      (wmRawKeyEvent b s e.raw).2.alt = s.alt ∧
      (wmRawKeyEvent b s e.raw).2.capslock =
        (if isCapsLockPress e = true then !s.capslock else s.capslock) := by
  cases hvk : e.key.normalVk with
  | none =>
      rw [status_extended b s hvk]
      simp [isShiftKey, isControlKey, isCapsLockPress, hvk]
  | some vk =>
      obtain ⟨key, pressed⟩ := e
      cases key with
      | plain scancode hlt =>
          have hplain : extendedData ⟨scancode, 0x00, 0x00, 0x00⟩ = none := by
            by_contra hne
            simp [Key.normalVk, hne] at hvk
          rw [normalVk_plain hlt hplain] at hvk
          obtain rfl := Option.some.inj hvk
          by_cases hbreak : pressed = true ∨ scancode ≠ 0x7F
          · rw [wmRawKeyEvent_plain b s hlt hplain pressed hbreak]
            simp only [isShiftKey, isControlKey, isCapsLockPress, normalVk_plain hlt hplain,
              KeyStatus.setShell, Option.some.injEq]
            have halt := keymapNormal_ne_LALT scancode
            cases pressed with
            | true =>
                obtain ⟨hshift, hctrl, halt', hcaps, -⟩ :=
                  pressStatus_fields s (keymapNormal scancode)
                simp [translate, translateMake, hshift, hctrl, halt' halt, hcaps]
            | false =>
                obtain ⟨hshift, hctrl, halt', hcaps, -⟩ :=
                  releaseStatus_fields s (keymapNormal scancode)
                simp [translate, translateBreak, hshift, hctrl, halt' halt, hcaps]
          · obtain ⟨hpressed, h7F⟩ := not_or.mp hbreak
            obtain rfl : pressed = false := by simpa using hpressed
            obtain rfl : scancode = 0x7F := not_not.mp h7F
            rw [wmRawKeyEvent_break_7F]
            simp [isShiftKey, isControlKey, isCapsLockPress, normalVk_plain hlt hplain,
              show keymapNormal 0x7F = VK_F16 from rfl, VK_F16, VK_LSHIFT, VK_RSHIFT,
              VK_LCONTROL, VK_RCONTROL]
      | _ => cases hvk

theorem statusAfter_fields (b : Broker) (events : List KeyEvent) (s : KeyStatus) :
    (statusAfter b s events).shift = heldAfter isShiftKey s.shift events ∧
      (statusAfter b s events).ctrl = heldAfter isControlKey s.ctrl events ∧
      (statusAfter b s events).alt = s.alt ∧
      ((statusAfter b s events).capslock = s.capslock ↔ events.countP isCapsLockPress % 2 = 0) := by
  induction events generalizing s with
  | nil => exact ⟨rfl, rfl, rfl, by simp [statusAfter]⟩
  | cons e events ih =>
      obtain ⟨hshift, hctrl, halt, hcaps⟩ := ih (wmRawKeyEvent b s e.raw).2
      obtain ⟨hshift', hctrl', halt', hcaps'⟩ := status_step b s e
      rw [hshift'] at hshift
      rw [hctrl'] at hctrl
      refine ⟨hshift, hctrl, halt.trans halt', ?_⟩
      rw [hcaps'] at hcaps
      rw [List.countP_cons]
      change (statusAfter b (wmRawKeyEvent b s e.raw).2 events).capslock = _ ↔ _
      generalize (statusAfter b (wmRawKeyEvent b s e.raw).2 events).capslock = caps at hcaps ⊢
      generalize events.countP isCapsLockPress = n at hcaps ⊢
      cases hpress : isCapsLockPress e with
      | false =>
          rw [hpress, if_neg Bool.false_ne_true] at hcaps
          rw [if_neg Bool.false_ne_true, Nat.add_zero]
          exact hcaps
      | true =>
          rw [hpress, if_pos rfl] at hcaps
          rw [if_pos rfl]
          have hflip : caps = s.capslock ↔ ¬ caps = !s.capslock := by
            cases caps <;> cases s.capslock <;> decide
          rw [hflip, hcaps]
          omega

theorem statusAfter_append (b : Broker) (s : KeyStatus) (events events' : List KeyEvent) :
    statusAfter b s (events ++ events') = statusAfter b (statusAfter b s events) events' :=
  List.foldl_append

def keymapOf (capslock : Bool) (scancode : UInt8) : UInt8 :=
  if capslock = false then keymapNormal scancode else keymapShift scancode

section Plain

variable {b : Broker} {scancode : UInt8}

theorem sent_press_plain (hqueue : b.targetThreadQueue = true) (hshell : s.shell = false)
    (h : scancode < 0x80) (hplain : extendedData ⟨scancode, 0x00, 0x00, 0x00⟩ = none)
    (hmsg : msg.ofKey) (vk : UInt8) :
    Sent b s (Key.plain scancode h).press msg vk ↔ msg = makeMessage (keymapNormal scancode) ∧
        (pressStatus s (keymapNormal scancode)).Plain ∧
        keymapOf (pressStatus s (keymapNormal scancode)).capslock scancode ≠ 0 ∧
        deliveredVk b msg
          (keymapOf (pressStatus s (keymapNormal scancode)).capslock scancode) = some vk := by
  have hstep := wmRawKeyEvent_plain b s h hplain true (.inl rfl)
  have hshell' : (pressStatus s (keymapNormal scancode)).shell = false :=
    (pressStatus_fields s (keymapNormal scancode)).2.2.2.2.trans hshell
  unfold Sent
  rw [Key.press, hstep]
  simp only [translate, translateMake, if_true]
  generalize pressStatus s (keymapNormal scancode) = t at hshell' ⊢
  simp only [mem_dispatchKey hqueue hshell' _ _ _ hmsg]
  have hvk : t.Plain → (if makeMessage (keymapNormal scancode) = .sysKeyDown then
        if t.capslock = false then keymapNormal scancode else keymapShift scancode
      else if t.ctrl = true then keymapCtrl scancode
      else if t.capslock = false ∧ t.shift = false then keymapNormal scancode
      else keymapShift scancode) = keymapOf t.capslock scancode := by
    rintro ⟨-, hctrl, hshift⟩
    simp [hctrl, hshift, keymapOf]
  constructor
  · rintro ⟨n, hne, htplain, rfl, -, hvk'⟩
    rw [hvk htplain] at hne hvk'
    exact ⟨rfl, htplain, hne, hvk'⟩
  · rintro ⟨rfl, htplain, hne, hvk'⟩
    refine ⟨scancode, ?_⟩
    rw [hvk htplain]
    exact ⟨hne, htplain, rfl, rfl, hvk'⟩

theorem sent_release_plain (hqueue : b.targetThreadQueue = true) (hshell : s.shell = false)
    (h : scancode < 0x80) (hplain : extendedData ⟨scancode, 0x00, 0x00, 0x00⟩ = none)
    (hmsg : msg.ofKey) (vk : UInt8) :
    Sent b s (Key.plain scancode h).release msg vk ↔
      scancode ≠ 0x7F ∧ msg = breakMessage (keymapNormal scancode) ∧
        (releaseStatus s (keymapNormal scancode)).Plain ∧
        keymapOf (releaseStatus s (keymapNormal scancode)).capslock scancode ≠ 0 ∧
        deliveredVk b msg
          (keymapOf (releaseStatus s (keymapNormal scancode)).capslock scancode) = some vk := by
  unfold Sent
  by_cases h7F : scancode = 0x7F
  · subst h7F
    rw [Key.release, wmRawKeyEvent_break_7F]
    simp
  · have hshell' : (releaseStatus s (keymapNormal scancode)).shell = false :=
      (releaseStatus_fields s (keymapNormal scancode)).2.2.2.2.trans hshell
    rw [Key.release, wmRawKeyEvent_plain b s h hplain false (.inr h7F)]
    simp only [translate, translateBreak, Bool.false_eq_true, if_false]
    generalize releaseStatus s (keymapNormal scancode) = t at hshell' ⊢
    simp only [mem_dispatchKey hqueue hshell' _ _ _ hmsg]
    constructor
    · rintro ⟨n, hne, htplain, rfl, -, hvk⟩
      exact ⟨h7F, rfl, htplain, hne, hvk⟩
    · rintro ⟨-, rfl, htplain, hne, hvk⟩
      exact ⟨scancode, hne, htplain, rfl, rfl, hvk⟩

end Plain

theorem plainKey_table : ∀ scancode : UInt8, scancode < 0x80 →
    extendedData ⟨scancode, 0x00, 0x00, 0x00⟩ = none →
      (keymapNormal scancode ≠ VK_ESCAPE ∧ keymapShift scancode ≠ VK_ESCAPE) ∧
      (makeMessage (keymapNormal scancode) = .keyDown →
        breakMessage (keymapNormal scancode) = .keyUp ∧ scancode ≠ 0x46) ∧
      (keymapNormal scancode ∈ functionKeys ∨ keymapShift scancode ∈ functionKeys →
        keymapNormal scancode ∈ functionKeys ∧ scancode ≠ 0x46 ∨
          keymapNormal scancode = VK_SCROLLLOCK ∧ scancode = 0x46) :=
  forall_byte (by decide +kernel)

theorem deliveredVk_matching (b : Broker) (h : down.matching = some up) (vk : UInt8) :
    deliveredVk b up vk = deliveredVk b down vk := by
  cases down <;> cases up <;> first | rfl | cases h

theorem deliveredVk_inj {v' : UInt8} (hv : v ≠ VK_ESCAPE) (hv' : v' ≠ VK_ESCAPE)
    (h : deliveredVk b msg v = some vk) (h' : deliveredVk b msg v' = some vk) : v = v' := by
  have htab : VK_TAB ≠ VK_ESCAPE := by decide
  unfold deliveredVk at h h'
  split_ifs at h h' <;> grind

theorem deliveredVk_functionKey (h : deliveredVk b .sysKeyDown v = some vk) : v ∈ functionKeys := by
  unfold deliveredVk at h
  rw [if_pos (.inl rfl)] at h
  split at h
  · rename_i hkey
    exact hkey.2.1
  · cases h

theorem keymapOf_functionKey (h : keymapOf capslock scancode ∈ functionKeys) :
    keymapNormal scancode ∈ functionKeys ∨ keymapShift scancode ∈ functionKeys := by
  unfold keymapOf at h
  split at h
  · exact .inl h
  · exact .inr h

theorem functionKey_messages (h : vk ∈ functionKeys) :
    breakMessage vk = .sysKeyUp ∧ vk ∉ modifierKeys ∧ vk ≠ VK_CAPSLOCK := by
  refine ⟨by simp [breakMessage, h], ?_⟩
  simp only [functionKeys, List.mem_cons, List.not_mem_nil, or_false] at h
  rcases h with rfl | rfl | rfl | rfl | rfl | rfl | rfl | rfl | rfl | rfl | rfl | rfl <;> decide

theorem sent_press_key (h : scancode < 0x80)
    (hplain : extendedData ⟨scancode, 0x00, 0x00, 0x00⟩ = none) (hmatch : down.matching = some up)
    (hdown : down = makeMessage (keymapNormal scancode))
    (hvk : deliveredVk b down (keymapOf capslock scancode) = some vk) :
    keymapNormal scancode ∉ modifierKeys ∧ keymapNormal scancode ≠ VK_CAPSLOCK ∧
      (scancode ≠ 0x46 → breakMessage (keymapNormal scancode) = up) ∧
      (scancode = 0x46 → breakMessage (keymapNormal scancode) ≠ up) := by
  obtain ⟨-, hregular, hfunction⟩ := plainKey_table scancode h hplain
  by_cases hkey : makeMessage (keymapNormal scancode) = .keyDown
  · obtain ⟨hbreak, hscroll⟩ := hregular hkey
    rw [hdown, hkey] at hmatch
    obtain rfl := Option.some.inj hmatch
    have hnone : ¬ (keymapNormal scancode ∈ modifierKeys ∨
        keymapNormal scancode ∈ [VK_CAPSLOCK, VK_NUMLOCK, VK_SCROLLLOCK] ∨
        keymapNormal scancode ∈ functionKeys) := by
      intro hmem
      rw [makeMessage, if_pos hmem] at hkey
      cases hkey
    refine ⟨fun hmem => hnone (.inl hmem), fun heq => hnone (.inr (.inl ?_)), fun _ => hbreak,
      fun heq => absurd heq hscroll⟩
    rw [heq]
    exact List.mem_cons_self
  · have hsys : down = .sysKeyDown := by
      rw [hdown]
      unfold makeMessage at hkey ⊢
      split
      · rfl
      · rename_i hnone
        exact absurd (if_neg hnone) hkey
    subst hsys
    obtain rfl := Option.some.inj hmatch
    rcases hfunction (keymapOf_functionKey (deliveredVk_functionKey hvk)) with
      ⟨hfun, hscroll⟩ | ⟨hscrolllock, hscroll⟩
    · obtain ⟨hbreak, hmod, hcaps⟩ := functionKey_messages hfun
      exact ⟨hmod, hcaps, fun _ => hbreak, fun heq => absurd heq hscroll⟩
    · rw [hscrolllock]
      exact ⟨by decide, by decide, fun hne => absurd hscroll hne, fun _ => by decide⟩

theorem pressStatus_neutral (s : KeyStatus) (hmod : vk ∉ modifierKeys) (hcaps : vk ≠ VK_CAPSLOCK) :
    (pressStatus s vk).shift = s.shift ∧ (pressStatus s vk).ctrl = s.ctrl ∧
      (pressStatus s vk).alt = s.alt ∧ (pressStatus s vk).capslock = s.capslock := by
  obtain ⟨hshift, hctrl, halt, hcapslock, -⟩ := pressStatus_fields s vk
  simp only [modifierKeys, List.mem_cons, List.not_mem_nil, or_false, not_or] at hmod
  obtain ⟨h1, h2, h3, h4, -, -, h7⟩ := hmod
  refine ⟨?_, ?_, halt h7, ?_⟩
  · rw [hshift, if_neg (not_or.mpr ⟨h1, h2⟩)]
  · rw [hctrl, if_neg (not_or.mpr ⟨h3, h4⟩)]
  · rw [hcapslock, if_neg hcaps]

theorem releaseStatus_neutral (s : KeyStatus) (hmod : vk ∉ modifierKeys) :
    releaseStatus s vk = s := by
  simp only [modifierKeys, List.mem_cons, List.not_mem_nil, or_false, not_or] at hmod
  obtain ⟨h1, h2, h3, h4, h5, h6, h7⟩ := hmod
  rw [releaseStatus, if_neg (not_or.mpr ⟨h1, h2⟩), if_neg (not_or.mpr ⟨h3, h4⟩),
    if_neg (not_or.mpr ⟨h5, h6⟩), if_neg h7]

theorem keymapOf_eq_iff {capslock' : Bool} :
    keymapOf capslock' scancode = keymapOf capslock scancode ↔
      capslock' = capslock ∨ keymapNormal scancode = keymapShift scancode := by
  unfold keymapOf
  cases capslock <;> cases capslock' <;> simp [eq_comm]

theorem plain_pair (hqueue : b.targetThreadQueue = true) (hs : s.shell = false)
    (ht : t.shell = false) (h : scancode < 0x80)
    (hplain : extendedData ⟨scancode, 0x00, 0x00, 0x00⟩ = none) (hmatch : down.matching = some up)
    (hsent : Sent b s (Key.plain scancode h).press down vk) :
    s.Plain ∧ isShiftKey (.plain scancode h) = false ∧ isControlKey (.plain scancode h) = false ∧
      isCapsLockPress (Key.plain scancode h).press = false ∧
      (Sent b t (Key.plain scancode h).release up vk ↔ scancode ≠ 0x7F ∧ scancode ≠ 0x46 ∧ t.Plain ∧
          (t.capslock = s.capslock ∨ keymapNormal scancode = keymapShift scancode)) := by
  obtain ⟨hdown, hup⟩ := Message.ofKey_of_matching hmatch
  obtain ⟨hmsg, hactive, hne, hvk⟩ := (sent_press_plain hqueue hs h hplain hdown vk).mp hsent
  obtain ⟨hmod, hcaps, hbreak, hscroll⟩ := sent_press_key h hplain hmatch hmsg hvk
  obtain ⟨hshift, hctrl, halt, hcapslock⟩ := pressStatus_neutral s hmod hcaps
  rw [hcapslock] at hne hvk
  unfold KeyStatus.Plain at hactive
  rw [hshift, hctrl, halt] at hactive
  have hnot : ∀ v ∈ modifierKeys, keymapNormal scancode ≠ v := by
    rintro v hv rfl
    exact hmod hv
  refine ⟨hactive, ?_, ?_, ?_, ?_⟩
  · simp [isShiftKey, normalVk_plain h hplain, hnot VK_LSHIFT (by decide),
      hnot VK_RSHIFT (by decide)]
  · simp [isControlKey, normalVk_plain h hplain, hnot VK_LCONTROL (by decide),
      hnot VK_RCONTROL (by decide)]
  · simp [isCapsLockPress, Key.press, normalVk_plain h hplain, hcaps]
  · obtain ⟨⟨hesc, hesc'⟩, -, -⟩ := plainKey_table scancode h hplain
    have hescape : ∀ capslock, keymapOf capslock scancode ≠ VK_ESCAPE := by
      intro capslock
      unfold keymapOf
      split
      · exact hesc
      · exact hesc'
    rw [sent_release_plain hqueue ht h hplain hup vk, releaseStatus_neutral t hmod,
      deliveredVk_matching b hmatch, ← keymapOf_eq_iff]
    constructor
    · rintro ⟨h7F, hup', htplain, -, hvk'⟩
      exact ⟨h7F, fun hscroll' => hscroll hscroll' hup'.symm, htplain,
        deliveredVk_inj (hescape _) (hescape _) hvk' hvk⟩
    · rintro ⟨h7F, hscroll', htplain, hsame⟩
      rw [hsame]
      exact ⟨h7F, (hbreak hscroll').symm, htplain, hne, hvk⟩

theorem sent_extended (hdata : extendedData e.raw = some data) (msg : Message) (vk : UInt8) :
    Sent b s e msg vk ↔ ∃ n, .postThread msg vk n ∈ rawExtendedKey b s data := by
  unfold Sent wmRawKeyEvent
  rw [hdata]

theorem pause_not_sent (b : Broker) (s : KeyStatus) {pause : Message}
    (hpause : pauseMessage data = some pause) (msg : Message) (vk : UInt8) :
    ¬ ∃ n, .postThread msg vk n ∈ rawExtendedKey b s data := by
  rintro ⟨n, hmem⟩
  unfold rawExtendedKey at hmem
  rw [hpause] at hmem
  split at hmem
  · exact List.not_mem_nil hmem
  · exact pause_silent b s pause _ _ msg vk n hmem

theorem breakF0_not_sent (b : Broker) (s : KeyStatus) (scancode : UInt8) (msg : Message)
    (vk : UInt8) :
    ¬ ∃ n, .postThread msg vk n ∈ rawExtendedKey b s ⟨0xE0, 0xF0, scancode, 0xE0⟩ := by
  have hbits := rawExtendedKey_break b s (show (0x70 : UInt8) < 0x80 by decide) 0xE0
    scancode 0xE0 (by simp) msg vk
  rw [show (0x70 : UInt8) ||| 0x80 = 0xF0 from rfl] at hbits
  rw [hbits]
  rintro ⟨-, -, hcenter | ⟨hcontrolled, -⟩⟩
  · revert hcenter
    decide
  · revert hcontrolled
    unfold controlled
    decide

theorem isControlKey_extended (h : key.normalVk = none) : isControlKey key = false := by
  simp [isControlKey, h]

theorem extended_pair
    {make brk : RawKeyEvent} (hmake : extendedData key.press.raw = some make)
    (hbrk : extendedData key.release.raw = some brk)
    (hdown : ∀ s msg vk, (∃ n, .postThread msg vk n ∈ rawExtendedKey b s make) ↔
      sentExtended s true scancode msg vk)
    (hup : ∀ s msg vk, (∃ n, .postThread msg vk n ∈ rawExtendedKey b s brk) ↔
      sentExtended s false scancode msg vk)
    (hmatch : down.matching = some up) (hsent : Sent b s key.press down vk) :
    (controlled scancode → s.ctrl = false) ∧
      (Sent b t key.release up vk ↔ (controlled scancode → t.ctrl = false)) := by
  rw [sent_extended hmake, hdown] at hsent
  rw [sent_extended hbrk, hup]
  refine ⟨fun hcontrolled => ?_, sentExtended_pair hmatch hsent⟩
  rcases hsent.2.2 with hcenter | ⟨-, hctrl⟩
  · exact absurd hcontrolled (center_not_controlled hcenter)
  · exact hctrl

theorem statusAfter_press (b : Broker) (s : KeyStatus) (key : Key) (between : List KeyEvent) :
    statusAfter b s (key.press :: between) =
      statusAfter b (wmRawKeyEvent b s key.press.raw).2 between := rfl

theorem ctrl_between (h : isControlKey key = false) (between : List KeyEvent) :
    (statusAfter b s (key.press :: between)).ctrl = heldAfter isControlKey s.ctrl between := by
  rw [statusAfter_press, (statusAfter_fields b between _).2.1, (status_step b s key.press).2.1,
    Key.press, h, if_neg Bool.false_ne_true]

theorem plain_undisturbed (hqueue : b.targetThreadQueue = true) (hs : s.shell = false)
    (h : scancode < 0x80) (hplain : extendedData ⟨scancode, 0x00, 0x00, 0x00⟩ = none)
    (between : List KeyEvent)
    (ht : (statusAfter b s ((Key.plain scancode h).press :: between)).shell = false)
    (hmatch : down.matching = some up) (hsent : Sent b s (Key.plain scancode h).press down vk) :
    Sent b (statusAfter b s ((Key.plain scancode h).press :: between))
        (Key.plain scancode h).release up vk ↔ Undisturbed between (Key.plain scancode h) := by
  obtain ⟨⟨halt, hctrl, hshift⟩, hkshift, hkctrl, hkcaps, hiff⟩ :=
    plain_pair hqueue hs ht h hplain hmatch hsent
  obtain ⟨hshift', -, halt', hcaps'⟩ := statusAfter_fields b between
    (wmRawKeyEvent b s (Key.plain scancode h).press.raw).2
  obtain ⟨hshift'', -, halt'', hcaps''⟩ := status_step b s (Key.plain scancode h).press
  have hctrl' := ctrl_between (b := b) (s := s) hkctrl between
  rw [show (Key.plain scancode h).press.key = .plain scancode h from rfl, hkshift,
    if_neg Bool.false_ne_true, hshift] at hshift''
  rw [hkcaps, if_neg Bool.false_ne_true] at hcaps''
  rw [hshift''] at hshift'
  rw [halt'', halt] at halt'
  rw [hcaps''] at hcaps'
  rw [hctrl] at hctrl'
  rw [hiff, KeyStatus.Plain, hctrl', Undisturbed, if_pos hplain, statusAfter_press, hshift', halt',
    hcaps']
  constructor
  · rintro ⟨h7F, hscroll, ⟨-, hcontrol, hshifted⟩, hcaps⟩
    exact ⟨h7F, hscroll, hshifted, hcontrol, hcaps⟩
  · rintro ⟨h7F, hscroll, hshifted, hcontrol, hcaps⟩
    exact ⟨h7F, hscroll, ⟨rfl, hcontrol, hshifted⟩, hcaps⟩

theorem press_release_pair (hqueue : b.targetThreadQueue = true) (hs : s.shell = false) (key : Key)
    (between : List KeyEvent) (ht : (statusAfter b s (key.press :: between)).shell = false)
    (hmatch : down.matching = some up) (hsent : Sent b s key.press down vk) :
    Sent b (statusAfter b s (key.press :: between)) key.release up vk ↔
      Undisturbed between key := by
  have hcontrol : ∀ {scancode : UInt8}, key.normalVk = none →
      ((controlled scancode → s.ctrl = false) ∧
        (Sent b (statusAfter b s (key.press :: between)) key.release up vk ↔
          (controlled scancode → (statusAfter b s (key.press :: between)).ctrl = false))) →
      (Sent b (statusAfter b s (key.press :: between)) key.release up vk ↔
        (controlled scancode → heldAfter isControlKey false between = false)) := by
    rintro scancode hvk ⟨hctrl, hiff⟩
    rw [ctrl_between (isControlKey_extended hvk)] at hiff
    rw [hiff]
    refine forall_congr' fun hcontrolled => ?_
    rw [hctrl hcontrolled]
  cases key with
  | plain scancode h =>
      by_cases hplain : extendedData ⟨scancode, 0x00, 0x00, 0x00⟩ = none
      · exact plain_undisturbed hqueue hs h hplain between ht hmatch hsent
      · rw [Undisturbed, if_neg hplain]
        obtain ⟨hmake, hbrk⟩ := extendedData_plain h hplain
        have hpress : extendedData (Key.plain scancode h).press.raw = _ := hmake
        have hrelease : extendedData (Key.plain scancode h).release.raw = _ := hbrk
        exact hcontrol (by rw [Key.normalVk, if_neg hplain]) (extended_pair hpress hrelease
          (fun s => rawExtendedKey_make b s h 0xE0 0x00 0xE0 (by simp))
          (fun s => rawExtendedKey_break b s h 0xE0 0x00 0xE0 (by simp)) hmatch hsent)
  | extended scancode h =>
      exact hcontrol rfl (extended_pair (extendedData_prefixed _ (.inl rfl))
        (extendedData_prefixed _ (.inl rfl))
        (fun s => rawExtendedKey_make b s h 0xE0 0x00 0xE0 (by simp))
        (fun s => rawExtendedKey_break b s h 0xE0 0x00 0xE0 (by simp)) hmatch hsent)
  | extendedF0 scancode h =>
      rw [sent_extended (extendedData_prefixed _ (.inl rfl))]
      exact iff_of_false (breakF0_not_sent b _ scancode up vk) not_false
  | extended2 scancode1 scancode2 h1 h2 =>
      by_cases hpause : scancode1 = 0x1D ∧ scancode2 = 0x45
      · rw [sent_extended (extendedData_prefixed _ (.inr rfl))] at hsent
        obtain ⟨rfl, rfl⟩ := hpause
        exact absurd hsent (pause_not_sent b s rfl down vk)
      · have hpause' : ¬ (scancode1 = 0x1D ∧ scancode2 ||| 0x80 = 0xC5) := by
          rwa [(break_bits scancode2 h2).2.2.2.1]
        exact hcontrol rfl (extended_pair (extendedData_prefixed _ (.inr rfl))
          (extendedData_prefixed _ (.inr rfl))
          (fun s => rawExtendedKey_make b s h1 0xE1 scancode2 0xE1 fun hcode => hpause hcode.2)
          (fun s => rawExtendedKey_break b s h1 0xE1 (scancode2 ||| 0x80) 0xE1
            fun hcode => hpause' hcode.2) hmatch hsent)

/-- The presses that the thread is sent are followed by their releases exactly when nothing
between them has changed the modifiers. -/
theorem press_release_iff (b : Broker) (s : KeyStatus) (events : List KeyEvent)
    (htargets : b.targetStdin = true ∧ b.targetThreadQueue = true)
    (hshell : ∀ before, before <+: events → (statusAfter b s before).shell = false) :
    Paired b s events ↔ AllUndisturbed b s events := by
  have hpair : ∀ (before : List KeyEvent) (key : Key) (between after : List KeyEvent),
      events = before ++ key.press :: between ++ key.release :: after →
      ∀ down up vk, Message.matching down = some up →
        Sent b (statusAfter b s before) key.press down vk →
        (Sent b (statusAfter b s (before ++ key.press :: between)) key.release up vk ↔
          Undisturbed between key) := by
    intro before key between after hevents down up vk hmatch hsent
    have hbefore : before <+: events := ⟨key.press :: between ++ key.release :: after, by
      rw [hevents, List.append_assoc]⟩
    have hpressed : before ++ key.press :: between <+: events :=
      ⟨key.release :: after, hevents.symm⟩
    have ht := hshell _ hpressed
    rw [statusAfter_append] at ht ⊢
    exact press_release_pair htargets.2 (hshell _ hbefore) key between ht hmatch hsent
  constructor
  · intro h before key between after hevents hrelease down up vk hmatch hsent
    exact (hpair before key between after hevents down up vk hmatch hsent).mp
      (h before key between after hevents hrelease down up vk hmatch hsent)
  · intro h before key between after hevents hrelease down up vk hmatch hsent
    exact (hpair before key between after hevents down up vk hmatch hsent).mpr
      (h before key between after hevents hrelease down up vk hmatch hsent)

def broker : Broker := ⟨true, true, ⟨5, by decide, false, false⟩⟩

def unpressed : KeyStatus := ⟨false, false, false, false, false, false, false, false⟩

def keyA : Key := .plain 0x1E (by decide)

def leftShift : Key := .plain 0x2A (by decide)

theorem press_release_iff_example : Paired broker unpressed [keyA.press, keyA.release] := by
  refine (press_release_iff broker unpressed [keyA.press, keyA.release] ⟨rfl, rfl⟩ ?_).mpr ?_
  · intro before hbefore
    have hmem := (List.mem_inits _ _).mpr hbefore
    simp only [List.inits, List.map_cons, List.map_nil, List.mem_cons, List.not_mem_nil,
      or_false] at hmem
    rcases hmem with rfl | rfl | rfl <;> rfl
  · intro before key between after hevents hrelease down up vk hmatch hsent
    match before, between with
    | [], [] =>
        obtain ⟨hkey, -⟩ := List.cons.inj hevents
        obtain rfl : keyA = key := congrArg KeyEvent.key hkey
        have hplain : extendedData ⟨0x1E, 0x00, 0x00, 0x00⟩ = none := rfl
        rw [keyA, Undisturbed, if_pos hplain]
        exact ⟨by decide, by decide, rfl, rfl, .inl rfl⟩
    | [], _ :: _ | _ :: _, _ =>
        have hlength := congrArg List.length hevents
        simp only [List.length_append, List.length_cons, List.length_nil] at hlength
        omega

/-- Shift is pressed before the release of a key: the thread is not sent the release. -/
theorem shift_hides_release :
    ¬ Paired broker unpressed [keyA.press, leftShift.press, keyA.release, leftShift.release] := by
  intro h
  have hdown : Sent broker unpressed keyA.press .keyDown 0x61 := ⟨0x1E, by decide⟩
  obtain ⟨n, hmem⟩ := h [] keyA [leftShift.press] [leftShift.release] rfl (by decide) .keyDown
    .keyUp 0x61 rfl hdown
  have hnone : (wmRawKeyEvent broker
      (statusAfter broker unpressed [keyA.press, leftShift.press]) keyA.release.raw).1 = [] := rfl
  rw [List.nil_append, hnone] at hmem
  exact List.not_mem_nil hmem

end Gramado.Input.KeyPairing
