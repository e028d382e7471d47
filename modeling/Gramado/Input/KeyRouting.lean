import Gramado.Input.Keyboard
import Gramado.Input.Keymap

/-! The translation of the raw key events, and the threads that get the messages. -/

namespace Gramado.Input.KeyRouting

open Input.Keymap
open Input.Keyboard (RawKeyEvent)

inductive Message where
  | keyDown | keyUp | sysKeyDown | sysKeyUp
  | selectAll | copy | find | close | dc1 | dc2 | dc3 | dc4 | paste | cut | undo
  | controlArrowUp | controlArrowDown | controlArrowLeft | controlArrowRight
  | hotkey | update
  deriving DecidableEq, Repr

inductive Call where
  | postThread (msg : Message) (vk scancode : UInt8)
  | postDisplayServer (msg : Message) (long1 long2 : UInt8)
  | stdin (ascii : UInt8)
  | launchApp (index : Nat)
  | switchConsole (console : Nat)
  | enterShell
  | exitShell
  | reboot
  | showSlots
  | paintBackground
  | showProcesses
  | console (msg : Message) (vk scancode : UInt8)
  deriving DecidableEq, Repr

/-- The globals of the keyboard, and the flag of the embedded shell. -/
structure KeyStatus where
  shift : Bool
  ctrl : Bool
  alt : Bool
  winkey : Bool
  capslock : Bool
  numlock : Bool
  scrolllock : Bool
  shell : Bool
  deriving DecidableEq, Repr

def THREAD_COUNT_MAX : Nat := 1024

structure Foreground where
  tid : Nat
  tid_lt : tid < THREAD_COUNT_MAX
  wantsTab : Bool
  wantsEsc : Bool

structure Broker where
  targetStdin : Bool
  targetThreadQueue : Bool
  foreground : Foreground

def functionKeys : List UInt8 :=
  [VK_F1, VK_F2, VK_F3, VK_F4, VK_F5, VK_F6, VK_F7, VK_F8, VK_F9, VK_F10, VK_F11, VK_F12]

def ibrokerPostMessageToDs (b : Broker) (msg : Message) (long1 long2 : UInt8) : List Call :=
  if b.targetThreadQueue = true then [.postDisplayServer msg long1 long2] else []

def ibrokerPostMessageToFgThread (b : Broker) (msg : Message) (vk scancode : UInt8) :
    List Call :=
  if msg = .keyDown ∧ vk = VK_TAB ∧ b.foreground.wantsTab = false then []
  else [.postThread msg vk scancode]

def ibrokerAppWantsEvent (b : Broker) (msg : Message) (vk : UInt8) : Bool :=
  if msg = .keyDown then
    if vk = VK_TAB then b.foreground.wantsTab
    else if vk = VK_ESCAPE then b.foreground.wantsEsc
    else false
  else false

def isExtendedKey (scancode : UInt8) : Bool :=
  keymapExtended scancode ∈ [VK_INSERT, VK_DELETE, VK_HOME, VK_END, VK_PAGEUP, VK_PAGEDOWN,
    VK_ARROW_UP, VK_ARROW_DOWN, VK_ARROW_LEFT, VK_ARROW_RIGHT, VK_RCONTROL, VK_ALTGR, VK_APPS]

/-- The message for the display server when an arrow is pressed with control. -/
def controlArrow (vk : UInt8) : Option Message :=
  if vk = VK_ARROW_RIGHT then some .controlArrowRight
  else if vk = VK_ARROW_UP then some .controlArrowUp
  else if vk = VK_ARROW_DOWN then some .controlArrowDown
  else if vk = VK_ARROW_LEFT then some .controlArrowLeft
  else none

def centerKeys : List UInt8 :=
  [VK_INSERT, VK_DELETE, VK_HOME, VK_END, VK_PAGEUP, VK_PAGEDOWN, VK_RCONTROL, VK_ALTGR, VK_APPS]

def processExtendedKeyboardKeyStroke (b : Broker) (s : KeyStatus) (msg : Message)
    (vk rawbyte scancode : UInt8) : List Call :=
  if 0xFF ≤ rawbyte then []
  else
    match msg with
    | .sysKeyDown =>
        if vk = VK_RETURN then
          if s.ctrl = true then [] else ibrokerPostMessageToFgThread b .keyDown vk scancode
        else
          match controlArrow vk with
          | some arrow =>
              if s.ctrl = true then ibrokerPostMessageToDs b arrow vk scancode
              else ibrokerPostMessageToFgThread b .sysKeyDown vk scancode
          | none =>
              if vk ∈ centerKeys then ibrokerPostMessageToFgThread b .sysKeyDown vk scancode
              else []
    | .sysKeyUp =>
        if vk = VK_RETURN then
          if s.ctrl = true then [] else ibrokerPostMessageToFgThread b .keyUp vk scancode
        else
          match controlArrow vk with
          | some _ =>
              if s.ctrl = true then []
              else ibrokerPostMessageToFgThread b .sysKeyUp vk scancode
          | none =>
              if vk ∈ centerKeys then ibrokerPostMessageToFgThread b .sysKeyUp vk scancode
              else []
    | _ => []

def controlMessage (long1 : UInt8) : Option Message :=
  if long1 = 0x01 then some .selectAll
  else if long1 = 0x03 then some .copy
  else if long1 = 0x06 then some .find
  else if long1 = 0x17 then some .close
  else if long1 = 0x11 then some .dc1
  else if long1 = 0x12 then some .dc2
  else if long1 = 0x13 then some .dc3
  else if long1 = 0x14 then some .dc4
  else if long1 = 0x16 then some .paste
  else if long1 = 0x18 then some .cut
  else if long1 = 0x1A then some .undo
  else none

def functionKeyCombination (b : Broker) (s : KeyStatus) (vk : UInt8) : List Call :=
  if vk = VK_F1 then
    if s.ctrl = true then if s.shift = true then [] else [.launchApp 4001]
    else if s.shift = true then [.switchConsole 0] else []
  else if vk = VK_F2 then
    if s.ctrl = true then [.launchApp 4002]
    else if s.shift = true then [.switchConsole 1] else []
  else if vk = VK_F3 then
    if s.ctrl = true then [.launchApp 4003]
    else if s.shift = true then [.switchConsole 2] else []
  else if vk = VK_F4 then
    if s.ctrl = true then [.launchApp 4004]
    else if s.alt = true then []
    else if s.shift = true then [.switchConsole 3] else []
  else if vk = VK_F8 then
    if s.ctrl = true then []
    else if s.shift = true then ibrokerPostMessageToDs b .hotkey 1 0 else []
  else if vk = VK_F9 then
    if s.ctrl = true then [.switchConsole 0, .enterShell]
    else if s.shift = true then [.reboot] else []
  else if vk = VK_F10 then
    if s.ctrl = true then [.exitShell]
    else if s.shift = true then [.paintBackground, .showSlots] else []
  else if vk = VK_F11 then
    if s.ctrl = true then [.showSlots]
    else if s.shift = true then [.reboot] else []
  else if vk = VK_F12 then
    if s.ctrl = true then [.showProcesses]
    else if s.shift = true then ibrokerPostMessageToDs b .update 0 0 else []
  else []

def processKeyboardInput (b : Broker) (s : KeyStatus) (msg : Message) (long1 long2 : UInt8) :
    List Call :=
  match msg with
  | .keyDown =>
      if long1 = 0x0A ∨ long1 = 0x0D then []
      else if s.ctrl = true then
        match controlMessage long1 with
        | some m => ibrokerPostMessageToFgThread b m long1 long2
        | none => []
      else []
  | .sysKeyDown =>
      if s.shift = false ∧ s.ctrl = false ∧ s.alt = false then []
      else functionKeyCombination b s long1
  | _ => []

def sendPlain (b : Broker) (msg : Message) (vk scancode : UInt8) : List Call :=
  (if b.targetStdin = true ∧ msg = .keyDown then
      [.stdin (if vk = VK_RETURN then 0x0A else vk)]
    else []) ++
    if b.targetThreadQueue = true then
      if msg = .sysKeyDown ∨ msg = .sysKeyUp then
        if vk = VK_F11 then ibrokerPostMessageToDs b msg vk scancode
        else if vk ∈ functionKeys ∧ 0 < b.foreground.tid then [.postThread msg vk scancode]
        else []
      else if vk = VK_TAB then
        if ibrokerAppWantsEvent b .keyDown VK_TAB = true then
          ibrokerPostMessageToFgThread b msg vk scancode
        else ibrokerPostMessageToDs b msg vk scancode
      else if vk = 0x1B then
        if ibrokerAppWantsEvent b .keyDown VK_ESCAPE = true then
          ibrokerPostMessageToFgThread b msg VK_ESCAPE scancode
        else []
      else
        ibrokerPostMessageToFgThread b msg vk scancode ++
          ibrokerPostMessageToDs b msg vk scancode
    else []

def releaseStatus (s : KeyStatus) (vk : UInt8) : KeyStatus :=
  if vk = VK_LSHIFT ∨ vk = VK_RSHIFT then { s with shift := false }
  else if vk = VK_LCONTROL ∨ vk = VK_RCONTROL then { s with ctrl := false }
  else if vk = VK_LWIN ∨ vk = VK_RWIN then { s with winkey := false }
  else if vk = VK_LALT then { s with alt := false }
  else s

def pressStatus (s : KeyStatus) (vk : UInt8) : KeyStatus :=
  if vk = VK_LSHIFT ∨ vk = VK_RSHIFT then { s with shift := true }
  else if vk = VK_LCONTROL ∨ vk = VK_RCONTROL then { s with ctrl := true }
  else if vk = VK_LWIN ∨ vk = VK_RWIN then { s with winkey := true }
  else if vk = VK_LALT then { s with alt := true }
  else if vk = VK_CAPSLOCK then { s with capslock := !s.capslock }
  else if vk = VK_NUMLOCK then { s with numlock := !s.numlock }
  else if vk = VK_SCROLLLOCK then { s with scrolllock := !s.scrolllock }
  else s

def modifierKeys : List UInt8 :=
  [VK_LSHIFT, VK_RSHIFT, VK_LCONTROL, VK_RCONTROL, VK_LWIN, VK_RWIN, VK_LALT]

def breakMessage (vk : UInt8) : Message :=
  if vk ∈ modifierKeys ∨ vk = VK_APPS ∨ vk ∈ functionKeys then .sysKeyUp else .keyUp

def makeMessage (vk : UInt8) : Message :=
  if vk ∈ modifierKeys ∨ vk ∈ [VK_CAPSLOCK, VK_NUMLOCK, VK_SCROLLLOCK] ∨ vk ∈ functionKeys then
    .sysKeyDown
  else .keyDown

def translateBreak (s : KeyStatus) (scancode : UInt8) : KeyStatus × Message × UInt8 :=
  let vk0 := keymapNormal scancode
  let s := releaseStatus s vk0
  (s, breakMessage vk0,
    if s.capslock = false then keymapNormal scancode else keymapShift scancode)

def translateMake (s : KeyStatus) (scancode : UInt8) : KeyStatus × Message × UInt8 :=
  let vk1 := keymapNormal scancode
  let s := pressStatus s vk1
  (s, makeMessage vk1,
    if makeMessage vk1 = .sysKeyDown then
      if s.capslock = false then keymapNormal scancode else keymapShift scancode
    else if s.ctrl = true then keymapCtrl scancode
    else if s.capslock = false ∧ s.shift = false then keymapNormal scancode
    else keymapShift scancode)

/-- An extended key without the prefix gets one; the two control keys do not. -/
def extendedData (raw : RawKeyEvent) : Option RawKeyEvent :=
  if raw.code = 0xE0 ∨ raw.code = 0xE1 then some raw
  else if raw.code = 0x00 then
    if isExtendedKey (raw.rawByte0 &&& 0x7F) = true ∧
        keymapExtended (raw.rawByte0 &&& 0x7F) ≠ VK_LCONTROL ∧
        keymapExtended (raw.rawByte0 &&& 0x7F) ≠ VK_RCONTROL then
      some ⟨0xE0, raw.rawByte0, raw.rawByte1, 0xE0⟩
    else none
  else none

def pauseMessage (raw : RawKeyEvent) : Option Message :=
  if raw.rawByte0 = 0xE1 ∧ raw.rawByte1 = 0x1D ∧ raw.rawByte2 = 0x45 then some .sysKeyDown
  else if raw.rawByte0 = 0xE1 ∧ raw.rawByte1 = 0x9D ∧ raw.rawByte2 = 0xC5 then some .sysKeyUp
  else none

def rawExtendedKey (b : Broker) (s : KeyStatus) (raw : RawKeyEvent) : List Call :=
  if raw.rawByte1 = 0xFF then []
  else
    match pauseMessage raw with
    | some msg =>
        processExtendedKeyboardKeyStroke b s msg VK_PAUSEBREAK 0 (raw.rawByte1 &&& 0x7F)
    | none =>
        processExtendedKeyboardKeyStroke b s
          (if raw.rawByte1 &&& 0x80 ≠ 0 then .sysKeyUp else .sysKeyDown)
          (keymapExtended (raw.rawByte1 &&& 0x7F)) raw.rawByte1 (raw.rawByte1 &&& 0x7F)

def dispatchKey (b : Broker) (s : KeyStatus) (msg : Message) (vk scancode : UInt8) : List Call :=
  if vk = 0 then []
  else if s.shell = true then [.console msg vk scancode]
  else if s.alt = true ∨ s.ctrl = true ∨ s.shift = true then
    processKeyboardInput b s msg vk scancode
  else sendPlain b msg vk scancode

def shellAfter (shell : Bool) : List Call → Bool
  | [] => shell
  | .enterShell :: calls => shellAfter true calls
  | .exitShell :: calls => shellAfter false calls
  | _ :: calls => shellAfter shell calls

def KeyStatus.setShell (s : KeyStatus) (shell : Bool) : KeyStatus := { s with shell := shell }

def wmRawKeyEvent (b : Broker) (s : KeyStatus) (raw : RawKeyEvent) : List Call × KeyStatus :=
  match extendedData raw with
  | some data => (rawExtendedKey b s data, s)
  | none =>
      if raw.rawByte0 = 0xFF then ([], s)
      else
        let (s, msg, vk) :=
          if raw.rawByte0 &&& 0x80 ≠ 0 then translateBreak s (raw.rawByte0 &&& 0x7F)
          else translateMake s (raw.rawByte0 &&& 0x7F)
        let (msg, vk) :=
          match pauseMessage raw with
          | some msg => (msg, VK_PAUSEBREAK)
          | none => (msg, vk)
        let calls := dispatchKey b s msg vk (raw.rawByte0 &&& 0x7F)
        (calls, s.setShell (shellAfter s.shell calls))

theorem mem_processExtended (b : Broker) (s : KeyStatus) (pressed : Bool)
    (vk0 rawbyte scancode : UInt8) (msg : Message) (vk n : UInt8) :
    .postThread msg vk n ∈ processExtendedKeyboardKeyStroke b s
        (if pressed = true then .sysKeyDown else .sysKeyUp) vk0 rawbyte scancode ↔
      ¬ 0xFF ≤ rawbyte ∧ n = scancode ∧ vk = vk0 ∧
        msg = (if vk0 = VK_RETURN then if pressed = true then .keyDown else .keyUp
          else if pressed = true then .sysKeyDown else .sysKeyUp) ∧
        (vk0 ∈ centerKeys ∨
          (vk0 = VK_RETURN ∨ (controlArrow vk0).isSome = true) ∧ s.ctrl = false) := by
  have htab : VK_RETURN ≠ VK_TAB := by decide
  have hreturn : VK_RETURN ∉ centerKeys := by decide
  have harrow : ∀ arrow, controlArrow vk0 = some arrow → vk0 ∉ centerKeys := by
    intro arrow h
    unfold controlArrow at h
    split_ifs at h with h1 h2 h3 h4
    all_goals
      subst vk0
      decide
  unfold processExtendedKeyboardKeyStroke
  by_cases hraw : 0xFF ≤ rawbyte
  · simp [hraw]
  rw [if_neg hraw]
  by_cases hvk : vk0 = VK_RETURN
  · subst hvk
    cases pressed <;> cases s.ctrl <;>
      simp [hraw, hreturn, ibrokerPostMessageToFgThread, htab] <;> grind
  · cases harr : controlArrow vk0 with
    | none =>
        by_cases hcenter : vk0 ∈ centerKeys <;> cases pressed <;>
          simp [hraw, hvk, hcenter, ibrokerPostMessageToFgThread] <;> grind
    | some arrow =>
        have hcenter := harrow arrow harr
        cases pressed <;> cases s.ctrl <;>
          simp [hraw, hvk, hcenter, ibrokerPostMessageToFgThread, ibrokerPostMessageToDs] <;> grind

theorem pause_silent (b : Broker) (s : KeyStatus) (msg : Message) (rawbyte scancode : UInt8)
    (m : Message) (vk n : UInt8) :
    .postThread m vk n ∉
      processExtendedKeyboardKeyStroke b s msg VK_PAUSEBREAK rawbyte scancode := by
  have hreturn : VK_PAUSEBREAK ≠ VK_RETURN := by decide
  have harrow : controlArrow VK_PAUSEBREAK = none := by decide
  have hcenter : VK_PAUSEBREAK ∉ centerKeys := by decide
  unfold processExtendedKeyboardKeyStroke
  rw [if_neg hreturn, if_neg hreturn, harrow, if_neg hcenter, if_neg hcenter]
  split
  · exact List.not_mem_nil
  · cases msg <;> exact List.not_mem_nil

def deliveredVk (b : Broker) (msg : Message) (vk : UInt8) : Option UInt8 :=
  if msg = .sysKeyDown ∨ msg = .sysKeyUp then
    if vk ≠ VK_F11 ∧ vk ∈ functionKeys ∧ 0 < b.foreground.tid then some vk else none
  else if vk = VK_TAB then if b.foreground.wantsTab = true then some VK_TAB else none
  else if vk = 0x1B then if b.foreground.wantsEsc = true then some VK_ESCAPE else none
  else some vk

variable {b : Broker} {m : Message}

theorem mem_sendPlain (hqueue : b.targetThreadQueue = true) (msg : Message) (vk scancode : UInt8)
    (m : Message) (v n : UInt8) :
    .postThread m v n ∈ sendPlain b msg vk scancode ↔
      m = msg ∧ n = scancode ∧ deliveredVk b msg vk = some v := by
  have hstdin : Call.postThread m v n ∉
      if b.targetStdin = true ∧ msg = .keyDown then
        [Call.stdin (if vk = VK_RETURN then 0x0A else vk)]
      else [] := by
    split <;> simp
  have htab : VK_ESCAPE ≠ VK_TAB ∧ (0x1B : UInt8) ≠ VK_TAB := by decide
  unfold sendPlain deliveredVk
  rw [List.mem_append, if_pos hqueue]
  simp only [hstdin, false_or]
  by_cases hsys : msg = .sysKeyDown ∨ msg = .sysKeyUp
  · rw [if_pos hsys, if_pos hsys]
    by_cases hF11 : vk = VK_F11 <;> by_cases hsent : vk ∈ functionKeys ∧ 0 < b.foreground.tid <;>
      simp [hF11, hsent, ibrokerPostMessageToDs, hqueue]
    all_goals grind
  · rw [if_neg hsys, if_neg hsys]
    by_cases hTAB : vk = VK_TAB
    · cases hwants : b.foreground.wantsTab <;>
        simp [hTAB, hwants, ibrokerAppWantsEvent, ibrokerPostMessageToDs,
          ibrokerPostMessageToFgThread, hqueue]
      all_goals grind
    by_cases hESC : vk = 0x1B
    · cases hwants : b.foreground.wantsEsc <;>
        simp [hESC, hwants, ibrokerAppWantsEvent, ibrokerPostMessageToFgThread, htab]
      all_goals grind
    · simp [hTAB, hESC, ibrokerPostMessageToFgThread, ibrokerPostMessageToDs, hqueue]
      grind

def Message.ofKey (msg : Message) : Prop :=
  msg ∈ [.keyDown, .keyUp, .sysKeyDown, .sysKeyUp]

def Silent (calls : List Call) : Prop :=
  ∀ msg vk scancode, .postThread msg vk scancode ∉ calls

theorem Silent.ite {p : Prop} [Decidable p] {calls calls' : List Call} (h : Silent calls)
    (h' : Silent calls') : Silent (if p then calls else calls') := by
  split
  · exact h
  · exact h'

theorem functionKeyCombination_silent (b : Broker) (s : KeyStatus) (vk : UInt8) :
    Silent (functionKeyCombination b s vk) := by
  unfold functionKeyCombination ibrokerPostMessageToDs
  repeat' apply Silent.ite
  all_goals
    intro msg vk scancode
    simp

theorem controlMessage_not_ofKey {vk : UInt8} {msg : Message} (h : controlMessage vk = some msg) :
    ¬ msg.ofKey := by
  have hite : ∀ {p : Prop} [Decidable p] {m : Message} {o : Option Message}, ¬ m.ofKey →
      (o = some msg → ¬ msg.ofKey) → (if p then some m else o) = some msg → ¬ msg.ofKey := by
    intro p _ m o hm ho h
    split at h
    · rwa [← Option.some.inj h]
    · exact ho h
  revert h
  unfold controlMessage
  repeat' apply hite
  all_goals simp [Message.ofKey]

theorem combination_silent (b : Broker) (s : KeyStatus) (msg : Message) (vk scancode : UInt8)
    (hm : m.ofKey) (v n : UInt8) :
    .postThread m v n ∉ processKeyboardInput b s msg vk scancode := by
  cases msg with
  | keyDown =>
      unfold processKeyboardInput
      dsimp only
      split
      · exact List.not_mem_nil
      split
      · split
        · rename_i c hc
          unfold ibrokerPostMessageToFgThread
          split
          · exact List.not_mem_nil
          · intro hmem
            obtain ⟨rfl, -⟩ := Call.postThread.inj (List.mem_singleton.mp hmem)
            exact controlMessage_not_ofKey hc hm
        · exact List.not_mem_nil
      · exact List.not_mem_nil
  | sysKeyDown =>
      unfold processKeyboardInput
      dsimp only
      split
      · exact List.not_mem_nil
      · exact functionKeyCombination_silent b s vk m v n
  | _ => exact List.not_mem_nil

theorem mem_dispatchKey (hqueue : b.targetThreadQueue = true) {s : KeyStatus}
    (hshell : s.shell = false) (msg : Message) (vk scancode : UInt8) (hm : m.ofKey) (v n : UInt8) :
    .postThread m v n ∈ dispatchKey b s msg vk scancode ↔
      vk ≠ 0 ∧ (s.alt = false ∧ s.ctrl = false ∧ s.shift = false) ∧ m = msg ∧ n = scancode ∧
        deliveredVk b msg vk = some v := by
  unfold dispatchKey
  by_cases hvk : vk = 0
  · simp [hvk]
  rw [if_neg hvk, if_neg (by simp [hshell])]
  by_cases hcombination : s.alt = true ∨ s.ctrl = true ∨ s.shift = true
  · rw [if_pos hcombination]
    have hsilent := combination_silent b s msg vk scancode hm v n
    grind
  · rw [if_neg hcombination, mem_sendPlain hqueue]
    grind

theorem extendedData_unprefixed (byte0 byte1 byte2 : UInt8) :
    extendedData ⟨byte0, byte1, byte2, 0x00⟩ =
      if isExtendedKey (byte0 &&& 0x7F) = true ∧ keymapExtended (byte0 &&& 0x7F) ≠ VK_LCONTROL ∧
          keymapExtended (byte0 &&& 0x7F) ≠ VK_RCONTROL then
        some ⟨0xE0, byte0, byte1, 0xE0⟩
      else none := by
  rw [extendedData, if_neg (by simp), if_pos rfl]

theorem extendedData_prefixed (raw : RawKeyEvent) (h : raw.code = 0xE0 ∨ raw.code = 0xE1) :
    extendedData raw = some raw := by
  rw [extendedData, if_pos h]

theorem pressStatus_fields (s : KeyStatus) (vk : UInt8) :
    (pressStatus s vk).shift = (if vk = VK_LSHIFT ∨ vk = VK_RSHIFT then true else s.shift) ∧
      (pressStatus s vk).ctrl = (if vk = VK_LCONTROL ∨ vk = VK_RCONTROL then true else s.ctrl) ∧
      (vk ≠ VK_LALT → (pressStatus s vk).alt = s.alt) ∧
      (pressStatus s vk).capslock = (if vk = VK_CAPSLOCK then !s.capslock else s.capslock) ∧
      (pressStatus s vk).shell = s.shell := by
  unfold pressStatus
  simp only [VK_LSHIFT, VK_RSHIFT, VK_LCONTROL, VK_RCONTROL, VK_LWIN, VK_RWIN, VK_LALT, VK_CAPSLOCK]
  split_ifs <;> grind

theorem releaseStatus_fields (s : KeyStatus) (vk : UInt8) :
    (releaseStatus s vk).shift = (if vk = VK_LSHIFT ∨ vk = VK_RSHIFT then false else s.shift) ∧
      (releaseStatus s vk).ctrl = (if vk = VK_LCONTROL ∨ vk = VK_RCONTROL then false else s.ctrl) ∧
      (vk ≠ VK_LALT → (releaseStatus s vk).alt = s.alt) ∧
      (releaseStatus s vk).capslock = s.capslock ∧ (releaseStatus s vk).shell = s.shell := by
  unfold releaseStatus
  simp only [VK_LSHIFT, VK_RSHIFT, VK_LCONTROL, VK_RCONTROL, VK_LWIN, VK_RWIN, VK_LALT]
  split_ifs <;> grind

def Message.matching : Message → Option Message
  | .keyDown => some .keyUp
  | .sysKeyDown => some .sysKeyUp
  | _ => none

def KeyStatus.Plain (s : KeyStatus) : Prop :=
  s.alt = false ∧ s.ctrl = false ∧ s.shift = false

theorem Message.ofKey_of_matching {down up : Message} (h : down.matching = some up) :
    down.ofKey ∧ up.ofKey := by
  unfold Message.ofKey
  cases down <;> cases up <;> first | (cases h; done) | decide

end Gramado.Input.KeyRouting
