import Gramado.Input.Mouse
import Mathlib

/-! The PS/2 keyboard driver: the bytes of the controller and the raw key events. -/

namespace Gramado.Input.Keyboard

open Library.Run
open Input.Mouse (PortByte)

def REPORT_MAX : Nat := 7

/-- A call of `wmRawKeyEvent`. -/
structure RawKeyEvent where
  rawByte0 : UInt8
  rawByte1 : UInt8
  rawByte2 : UInt8
  code : UInt8
  deriving DecidableEq, Repr

/-- The globals `Report` and `reportIndex`. -/
structure KeyReport where
  report : Nat → UInt8
  reportIndex : Nat

def ps2kbdInterpretAndDispatch (b0 b1 b2 code : UInt8) : List RawKeyEvent :=
  if code = 0x00 then [⟨b0, 0x00, 0x00, 0x00⟩]
  else if code = 0xE0 then
    if b1 = 0xF0 then [⟨b0, b1, b2, code⟩] else [⟨b0, b1, 0x00, code⟩]
  else if code = 0xE1 then [⟨b0, b1, b2, code⟩]
  else []

/-- The report begins with `0xE0`: two bytes, or three if the second one is `0xF0`. -/
def checkExtended (report : Nat → UInt8) (index : Nat) (finished : Bool) :
    List RawKeyEvent × Bool :=
  if index = 0 then ([], false)
  else if index = 1 then
    if report 1 ≠ 0xF0 then (ps2kbdInterpretAndDispatch (report 0) (report 1) 0x00 0xE0, true)
    else ([], false)
  else if index = 2 then
    if report 1 = 0xF0 then
      (ps2kbdInterpretAndDispatch (report 0) (report 1) (report 2) 0xE0, true)
    else ([], true)
  else ([], finished)

/-- The report begins with `0xE1`: three bytes, or six if the third one is `0x45`. -/
def checkExtended2 (report : Nat → UInt8) (index : Nat) (finished : Bool) :
    List RawKeyEvent × Bool :=
  if index = 0 then ([], false)
  else if index = 1 then ([], if report 1 = 0x1D then false else finished)
  else if index = 2 then
    (ps2kbdInterpretAndDispatch (report 0) (report 1) (report 2) 0xE1,
      if report 2 = 0x45 then false else true)
  else if index = 3 then ([], if report 3 = 0xE1 then false else finished)
  else if index = 4 then ([], if report 4 = 0x9D then false else finished)
  else if index = 5 then
    if report 5 = 0xC5 then
      (if report 3 = 0xE1 ∧ report 4 = 0x9D ∧ report 5 = 0xC5 then
          ps2kbdInterpretAndDispatch (report 3) (report 4) (report 5) 0xE1
        else [], true)
    else ([], finished)
  else ([], finished)

def checkNormal (report : Nat → UInt8) (index : Nat) (finished : Bool) :
    List RawKeyEvent × Bool :=
  if index = 0 then (ps2kbdInterpretAndDispatch (report 0) 0x00 0x00 0x00, true)
  else ([], finished)

def checkReport (report : Nat → UInt8) (index : Nat) (finished : Bool) :
    List RawKeyEvent × Bool :=
  if report 0 = 0xE0 then checkExtended report index finished
  else if report 0 = 0xE1 then checkExtended2 report index finished
  else checkNormal report index finished

def nextIndex (index : Nat) (finished : Bool) : Nat :=
  let index := if REPORT_MAX ≤ index + 1 then 0 else index + 1
  if finished = true then 0 else index

/-- The part of the loop from the label `CheckByte` on; a store behind `Report` is an error. -/
def checkByte (k : KeyReport) (finished : Bool) (raw : UInt8) :
    Except String (List RawKeyEvent × Bool × KeyReport) :=
  if REPORT_MAX ≤ k.reportIndex then .error "Report[reportIndex]"
  else
    let report := Function.update k.report k.reportIndex raw
    let (events, finished) := checkReport report k.reportIndex finished
    .ok (events, finished, ⟨report, nextIndex k.reportIndex finished⟩)

def isResponse (raw : UInt8) : Bool :=
  raw = 0x00 || raw = 0xFA || raw = 0xFE || raw = 0xFF

/-- The loop: read until the controller is empty, or a byte is from the mouse or a response. -/
def readPort (k : KeyReport) (finished : Bool) :
    List PortByte → Except String (List RawKeyEvent × KeyReport × List PortByte)
  | [] => .ok ([], k, [])
  | b :: rest =>
      if b.fromMouse = true then .ok ([], k, b :: rest)
      else if isResponse b.byte = true then .ok ([], k, rest)
      else
        match checkByte k finished b.byte with
        | .error e => .error e
        | .ok (events, finished, k) =>
            match readPort k finished rest with
            | .error e => .error e
            | .ok (events', k, rest) => .ok (events ++ events', k, rest)

def deviceInterfacePS2Keyboard (k : KeyReport) (port : List PortByte) :
    Except String (List RawKeyEvent × KeyReport × List PortByte) :=
  readPort { k with reportIndex := 0 } false port

structure KeyboardSystem where
  keyboard : KeyReport
  port : List PortByte

/-- A call of the driver, and the bytes that the keyboard has sent before it. -/
def interfaceStep (s : KeyboardSystem) (arrived : List UInt8) :
    Except String (List RawKeyEvent × KeyboardSystem) :=
  match deviceInterfacePS2Keyboard s.keyboard
      (s.port ++ arrived.map fun byte => ⟨false, byte⟩) with
  | .error e => .error e
  | .ok (events, keyboard, port) => .ok (events, ⟨keyboard, port⟩)

inductive KeyCode where
  | normal (byte : UInt8) (hE0 : byte ≠ 0xE0) (hE1 : byte ≠ 0xE1)
  | make (byte : UInt8) (hF0 : byte ≠ 0xF0)
  | release (byte : UInt8)
  | extended2 (byte1 byte2 : UInt8)
  | pause

def KeyCode.bytes : KeyCode → List UInt8
  | .normal byte _ _ => [byte]
  | .make byte _ => [0xE0, byte]
  | .release byte => [0xE0, 0xF0, byte]
  | .extended2 byte1 byte2 => [0xE1, byte1, byte2]
  | .pause => [0xE1, 0x1D, 0x45, 0xE1, 0x9D, 0xC5]

def KeyCode.events : KeyCode → List RawKeyEvent
  | .normal byte _ _ => [⟨byte, 0x00, 0x00, 0x00⟩]
  | .make byte _ => [⟨0xE0, byte, 0x00, 0xE0⟩]
  | .release byte => [⟨0xE0, 0xF0, byte, 0xE0⟩]
  | .extended2 byte1 byte2 => [⟨0xE1, byte1, byte2, 0xE1⟩]
  | .pause => [⟨0xE1, 0x1D, 0x45, 0xE1⟩, ⟨0xE1, 0x9D, 0xC5, 0xE1⟩]

def pauseBreak : KeyCode :=
  .extended2 0x9D 0xC5

def KeyCode.pieces : KeyCode → List KeyCode
  | .pause => [.extended2 0x1D 0x45, pauseBreak]
  | code => [code]

/-- A code of three bytes that the driver takes for the first half of the six-byte one. -/
def KeyCode.awaitsBreak : KeyCode → Prop
  | .extended2 _ byte2 => byte2 = 0x45
  | _ => False

def Resumes (code next : KeyCode) : Prop :=
  code.awaitsBreak → next = pauseBreak

/-- Every call gets whole codes, or halves of the six-byte one; no byte is a response; and a
code of three bytes that ends with `0x45` is the last one, or the first half of the six bytes. -/
def Whole (codes : List KeyCode) (calls : List (List UInt8)) : Prop :=
  (∀ byte ∈ calls.flatten, isResponse byte = false) ∧
    (codes.flatMap KeyCode.pieces).IsChain Resumes ∧
    ∃ groups : List (List KeyCode), groups.flatten = codes.flatMap KeyCode.pieces ∧
      calls = groups.map (List.flatMap KeyCode.bytes)

/-- The calls give the events of the codes, and so does a single call with all the bytes. -/
def SameEvents (k : KeyReport) (codes : List KeyCode) (calls : List (List UInt8)) : Prop :=
  ∃ outs t t', run interfaceStep ⟨k, []⟩ calls = .ok (outs, t) ∧
    run interfaceStep ⟨k, []⟩ [calls.flatten] = .ok ([outs.flatten], t') ∧
    outs.flatten = codes.flatMap KeyCode.events

def keyboardByte (byte : UInt8) : PortByte := ⟨false, byte⟩

def typed (k : KeyReport) (finished : Bool) : List UInt8 → List RawKeyEvent
  | [] => []
  | raw :: rest =>
      let report := Function.update k.report k.reportIndex raw
      let result := checkReport report k.reportIndex finished
      result.1 ++ typed ⟨report, nextIndex k.reportIndex result.2⟩ result.2 rest

theorem nextIndex_lt (index : Nat) (finished : Bool) : nextIndex index finished < REPORT_MAX := by
  have hmax : REPORT_MAX = 7 := rfl
  unfold nextIndex
  cases finished with
  | true => exact Nat.succ_pos 6
  | false =>
      dsimp only
      rw [if_neg Bool.false_ne_true]
      split <;> omega

variable {k : KeyReport} {bytes : List UInt8} {calls : List (List UInt8)} {b : UInt8}
  {r : Nat → UInt8} {pieces codes : List KeyCode} {events : List RawKeyEvent} {finished : Bool}
  {s t : KeyboardSystem} {outs : List (List RawKeyEvent)} {code : KeyCode}

theorem checkByte_ok (h : k.reportIndex < REPORT_MAX) (finished : Bool) (raw : UInt8) :
    checkByte k finished raw =
      .ok ((checkReport (Function.update k.report k.reportIndex raw) k.reportIndex finished).1,
        (checkReport (Function.update k.report k.reportIndex raw) k.reportIndex finished).2,
        ⟨Function.update k.report k.reportIndex raw, nextIndex k.reportIndex
          (checkReport (Function.update k.report k.reportIndex raw) k.reportIndex finished).2⟩) := by
  rw [checkByte, if_neg (by omega)]

theorem readPort_ok (port : List PortByte) (h : k.reportIndex < REPORT_MAX) (finished : Bool) :
    ∃ result, readPort k finished port = .ok result := by
  induction port generalizing k finished with
  | nil => exact ⟨_, rfl⟩
  | cons b rest ih =>
      rw [readPort]
      split
      · exact ⟨_, rfl⟩
      split
      · exact ⟨_, rfl⟩
      · rw [checkByte_ok h]
        dsimp only
        obtain ⟨result, hresult⟩ := ih (k := ⟨_, nextIndex k.reportIndex _⟩) (nextIndex_lt ..) _
        rw [hresult]
        exact ⟨_, rfl⟩

theorem interfaceStep_ok (s : KeyboardSystem) (arrived : List UInt8) :
    ∃ events t, interfaceStep s arrived = .ok (events, t) := by
  unfold interfaceStep deviceInterfacePS2Keyboard
  obtain ⟨result, hresult⟩ := readPort_ok
    (s.port ++ arrived.map fun byte => ⟨false, byte⟩) (k := ⟨s.keyboard.report, 0⟩)
    (Nat.succ_pos 6) false
  rw [hresult]
  exact ⟨_, _, rfl⟩

theorem run_interfaceStep (s : KeyboardSystem) (calls : List (List UInt8)) :
    ∃ outs t, run interfaceStep s calls = .ok (outs, t) := by
  induction calls generalizing s with
  | nil => exact ⟨[], s, rfl⟩
  | cons call calls ih =>
      obtain ⟨events, t, hstep⟩ := interfaceStep_ok s call
      obtain ⟨outs, u, hrun⟩ := ih t
      refine ⟨events :: outs, u, ?_⟩
      rw [run, hstep]
      dsimp only
      rw [hrun]

theorem readPort_typed (hbytes : ∀ b ∈ bytes, isResponse b = false) (h : k.reportIndex < REPORT_MAX)
    (finished : Bool) :
    ∃ k', readPort k finished (bytes.map keyboardByte) = .ok (typed k finished bytes, k', []) := by
  induction bytes generalizing k finished with
  | nil => exact ⟨k, rfl⟩
  | cons raw rest ih =>
      have hraw := hbytes raw List.mem_cons_self
      rw [List.map_cons, readPort, if_neg (by simp [keyboardByte]),
        if_neg (by simp [keyboardByte, hraw])]
      rw [show (keyboardByte raw).byte = raw from rfl, checkByte_ok h]
      dsimp only
      obtain ⟨k', hrest⟩ := ih (fun b hb => hbytes b (List.mem_cons_of_mem raw hb))
        (k := ⟨_, nextIndex k.reportIndex _⟩) (nextIndex_lt ..) _
      rw [hrest]
      exact ⟨k', rfl⟩

theorem interfaceStep_typed (hbytes : ∀ b ∈ bytes, isResponse b = false) (k : KeyReport) :
    ∃ k', interfaceStep ⟨k, []⟩ bytes = .ok (typed ⟨k.report, 0⟩ false bytes, ⟨k', []⟩) := by
  obtain ⟨k', hread⟩ := readPort_typed hbytes (k := ⟨k.report, 0⟩) (Nat.succ_pos 6) false
  refine ⟨k', ?_⟩
  unfold interfaceStep deviceInterfacePS2Keyboard
  rw [List.nil_append, show (bytes.map fun byte => (⟨false, byte⟩ : PortByte)) =
    bytes.map keyboardByte from rfl]
  dsimp only
  rw [hread]

theorem run_typed (hbytes : ∀ call ∈ calls, ∀ b ∈ call, isResponse b = false) (k : KeyReport) :
    ∃ outs t, run interfaceStep ⟨k, []⟩ calls = .ok (outs, t) ∧
      List.Forall₂ (fun call out => ∃ report, out = typed ⟨report, 0⟩ false call) calls outs := by
  induction calls generalizing k with
  | nil => exact ⟨[], _, rfl, .nil⟩
  | cons call calls ih =>
      obtain ⟨k', hstep⟩ := interfaceStep_typed (hbytes call List.mem_cons_self) k
      obtain ⟨outs, t, hrun, houts⟩ := ih (fun c hc => hbytes c (List.mem_cons_of_mem call hc)) k'
      refine ⟨_ :: outs, t, ?_, .cons ⟨k.report, rfl⟩ houts⟩
      rw [run, hstep]
      dsimp only
      rw [hrun]

theorem typed_normal (r : Nat → UInt8) (finished : Bool) (hE0 : b ≠ 0xE0) (hE1 : b ≠ 0xE1)
    (rest : List UInt8) :
    ∃ r', typed ⟨r, 0⟩ finished (b :: rest) = ⟨b, 0, 0, 0⟩ :: typed ⟨r', 0⟩ true rest := by
  refine ⟨Function.update r 0 b, ?_⟩
  rw [typed]
  simp [checkReport, checkNormal, ps2kbdInterpretAndDispatch, nextIndex, hE0, hE1]

theorem typed_make (r : Nat → UInt8) (finished : Bool) (hF0 : b ≠ 0xF0) (rest : List UInt8) :
    ∃ r', typed ⟨r, 0⟩ finished (0xE0 :: b :: rest) =
      ⟨0xE0, b, 0, 0xE0⟩ :: typed ⟨r', 0⟩ true rest := by
  refine ⟨Function.update (Function.update r 0 0xE0) 1 b, ?_⟩
  rw [typed, typed]
  simp [checkReport, checkExtended, ps2kbdInterpretAndDispatch, nextIndex, REPORT_MAX, hF0]

theorem typed_release (r : Nat → UInt8) (finished : Bool) (b : UInt8) (rest : List UInt8) :
    ∃ r', typed ⟨r, 0⟩ finished (0xE0 :: 0xF0 :: b :: rest) =
      ⟨0xE0, 0xF0, b, 0xE0⟩ :: typed ⟨r', 0⟩ true rest := by
  refine ⟨Function.update (Function.update (Function.update r 0 0xE0) 1 0xF0) 2 b, ?_⟩
  rw [typed, typed, typed]
  simp [checkReport, checkExtended, ps2kbdInterpretAndDispatch, nextIndex, REPORT_MAX]

theorem typed_extended2 (r : Nat → UInt8) (finished : Bool) (b1 b2 : UInt8) (rest : List UInt8) :
    ∃ r', r' 0 = 0xE1 ∧ typed ⟨r, 0⟩ finished (0xE1 :: b1 :: b2 :: rest) =
      ⟨0xE1, b1, b2, 0xE1⟩ :: if b2 = 0x45 then typed ⟨r', 3⟩ false rest
        else typed ⟨r', 0⟩ true rest := by
  refine ⟨Function.update (Function.update (Function.update r 0 0xE1) 1 b1) 2 b2, by simp, ?_⟩
  rw [typed, typed, typed]
  by_cases h : b2 = 0x45 <;>
    simp [checkReport, checkExtended2, ps2kbdInterpretAndDispatch, nextIndex, REPORT_MAX, h]

theorem typed_break (h : r 0 = 0xE1) (rest : List UInt8) :
    ∃ r', typed ⟨r, 3⟩ false (0xE1 :: 0x9D :: 0xC5 :: rest) =
      ⟨0xE1, 0x9D, 0xC5, 0xE1⟩ :: typed ⟨r', 0⟩ true rest := by
  refine ⟨Function.update (Function.update (Function.update r 3 0xE1) 4 0x9D) 5 0xC5, ?_⟩
  rw [typed, typed, typed]
  simp [checkReport, checkExtended2, ps2kbdInterpretAndDispatch, nextIndex, REPORT_MAX, h]

theorem typed_pieces (hchain : pieces.IsChain Resumes) (hpieces : ∀ code ∈ pieces, code ≠ .pause) :
    (∀ r finished, typed ⟨r, 0⟩ finished (pieces.flatMap KeyCode.bytes) =
      pieces.flatMap KeyCode.events) ∧
    ∀ r, r 0 = 0xE1 → (∀ code ∈ pieces.head?, code = pauseBreak) →
      typed ⟨r, 3⟩ false (pieces.flatMap KeyCode.bytes) = pieces.flatMap KeyCode.events := by
  induction pieces with
  | nil => exact ⟨fun _ _ => rfl, fun _ _ _ => rfl⟩
  | cons code rest ih =>
      obtain ⟨hhead, htail⟩ := List.isChain_cons.mp hchain
      obtain ⟨hstart, hhalf⟩ := ih htail fun c hc => hpieces c (List.mem_cons_of_mem code hc)
      constructor
      · intro r finished
        rw [List.flatMap_cons, List.flatMap_cons]
        cases code with
        | normal byte hE0 hE1 =>
            obtain ⟨r', h⟩ := typed_normal r finished hE0 hE1 (rest.flatMap KeyCode.bytes)
            exact h.trans (congrArg _ (hstart r' true))
        | make byte hF0 =>
            obtain ⟨r', h⟩ := typed_make r finished hF0 (rest.flatMap KeyCode.bytes)
            exact h.trans (congrArg _ (hstart r' true))
        | release byte =>
            obtain ⟨r', h⟩ := typed_release r finished byte (rest.flatMap KeyCode.bytes)
            exact h.trans (congrArg _ (hstart r' true))
        | extended2 byte1 byte2 =>
            obtain ⟨r', hr', h⟩ :=
              typed_extended2 r finished byte1 byte2 (rest.flatMap KeyCode.bytes)
            change typed ⟨r, 0⟩ finished (0xE1 :: byte1 :: byte2 :: rest.flatMap KeyCode.bytes) =
              ⟨0xE1, byte1, byte2, 0xE1⟩ :: rest.flatMap KeyCode.events
            rw [h]
            split
            · rename_i hbyte2
              rw [hhalf r' hr' fun c hc => hhead c hc hbyte2]
            · rw [hstart r' true]
        | pause => exact absurd rfl (hpieces _ List.mem_cons_self)
      · intro r hr hbreak
        obtain rfl := hbreak code rfl
        obtain ⟨r', h⟩ := typed_break hr (rest.flatMap KeyCode.bytes)
        rw [List.flatMap_cons, List.flatMap_cons]
        exact h.trans (congrArg _ (hstart r' true))

def RawKeyEvent.size (event : RawKeyEvent) : Nat :=
  if event.code = 0x00 then 1
  else if event.code = 0xE0 ∧ event.rawByte1 ≠ 0xF0 then 2
  else 3

def sizes (events : List RawKeyEvent) : Nat :=
  (events.map RawKeyEvent.size).sum

theorem sizes_append (events events' : List RawKeyEvent) :
    sizes (events ++ events') = sizes events + sizes events' := by
  rw [sizes, List.map_append, List.sum_append]
  rfl

theorem sizes_cons (event : RawKeyEvent) (events : List RawKeyEvent) :
    sizes (event :: events) = event.size + sizes events := by
  rw [sizes, List.map_cons, List.sum_cons]
  rfl

def pending (index : Nat) : Nat :=
  if index ≤ 2 then index else index - 3

theorem sizes_dispatch (b0 b1 b2 : UInt8) : sizes (ps2kbdInterpretAndDispatch b0 b1 b2 0x00) = 1 ∧
      sizes (ps2kbdInterpretAndDispatch b0 b1 b2 0xE0) = (if b1 = 0xF0 then 3 else 2) ∧
      sizes (ps2kbdInterpretAndDispatch b0 b1 b2 0xE1) = 3 := by
  refine ⟨?_, ?_, ?_⟩
  · simp [ps2kbdInterpretAndDispatch, sizes, RawKeyEvent.size]
  · by_cases h : b1 = 0xF0 <;>
      simp [ps2kbdInterpretAndDispatch, sizes, RawKeyEvent.size, h]
  · simp [ps2kbdInterpretAndDispatch, sizes, RawKeyEvent.size]

theorem pending_next (index : Nat) (finished : Bool) :
    sizes [] + pending (nextIndex index finished) ≤ pending index + 1 := by
  have hnone : sizes [] = 0 := rfl
  rw [hnone, Nat.zero_add]
  unfold nextIndex pending
  cases finished with
  | true => exact Nat.zero_le _
  | false =>
      dsimp only
      rw [if_neg Bool.false_ne_true]
      split_ifs <;> omega

theorem pending_reported {index : Nat} (h : sizes events ≤ pending index + 1) :
    sizes events + pending (nextIndex index true) ≤ pending index + 1 := h

theorem sizes_checkExtended (report : Nat → UInt8) (index : Nat) (finished : Bool) :
    sizes (checkExtended report index finished).1 +
      pending (nextIndex index (checkExtended report index finished).2) ≤ pending index + 1 := by
  unfold checkExtended
  split
  · exact pending_next index false
  split
  · rename_i _ hindex
    subst hindex
    split
    · rename_i hbyte
      apply pending_reported
      rw [(sizes_dispatch _ _ _).2.1, if_neg hbyte]
      exact Nat.le_refl _
    · exact pending_next 1 false
  split
  · rename_i _ _ hindex
    subst hindex
    split
    · rename_i hbyte
      apply pending_reported
      rw [(sizes_dispatch _ _ _).2.1, if_pos hbyte]
      exact Nat.le_refl _
    · exact pending_next 2 true
  · exact pending_next index finished

theorem sizes_checkExtended2 (report : Nat → UInt8) (index : Nat) (finished : Bool) :
    sizes (checkExtended2 report index finished).1 +
      pending (nextIndex index (checkExtended2 report index finished).2) ≤ pending index + 1 := by
  unfold checkExtended2
  split
  · exact pending_next index false
  split
  · exact pending_next index _
  split
  · rename_i _ _ hindex
    subst hindex
    dsimp only
    rw [(sizes_dispatch _ _ _).2.2]
    split <;> exact Nat.le_refl _
  split
  · exact pending_next index _
  split
  · exact pending_next index _
  split
  · rename_i hindex
    subst hindex
    split
    · apply pending_reported
      split
      · rw [(sizes_dispatch _ _ _).2.2]
        exact Nat.le_refl _
      · exact Nat.zero_le _
    · exact pending_next 5 finished
  · exact pending_next index finished

theorem sizes_checkReport (report : Nat → UInt8) (index : Nat) (finished : Bool) :
    sizes (checkReport report index finished).1 +
      pending (nextIndex index (checkReport report index finished).2) ≤ pending index + 1 := by
  unfold checkReport
  split
  · exact sizes_checkExtended report index finished
  split
  · exact sizes_checkExtended2 report index finished
  · unfold checkNormal
    split
    · rename_i hindex
      subst hindex
      apply pending_reported
      rw [(sizes_dispatch _ _ _).1]
      exact Nat.le_refl _
    · exact pending_next index finished

theorem sizes_typed (bytes : List UInt8) (k : KeyReport) (finished : Bool) :
    sizes (typed k finished bytes) ≤ pending k.reportIndex + bytes.length := by
  induction bytes generalizing k finished with
  | nil => exact Nat.zero_le _
  | cons raw rest ih =>
      rw [typed]
      generalize Function.update k.report k.reportIndex raw = report
      have hstep := sizes_checkReport report k.reportIndex finished
      have hrest := ih ⟨report, nextIndex k.reportIndex
        (checkReport report k.reportIndex finished).2⟩
        (checkReport report k.reportIndex finished).2
      dsimp only at hrest
      rw [sizes_append, List.length_cons]
      omega

theorem size_normal (b : UInt8) : RawKeyEvent.size ⟨b, 0, 0, 0⟩ = 1 := rfl

theorem size_make (h : b ≠ 0xF0) : RawKeyEvent.size ⟨0xE0, b, 0, 0xE0⟩ = 2 := by
  simp [RawKeyEvent.size, h]

theorem size_release (b : UInt8) : RawKeyEvent.size ⟨0xE0, 0xF0, b, 0xE0⟩ = 3 := rfl

theorem size_extended2 (b1 b2 : UInt8) : RawKeyEvent.size ⟨0xE1, b1, b2, 0xE1⟩ = 3 := rfl

def IsPieces (bytes : List UInt8) (pieces : List KeyCode) : Prop :=
  pieces.IsChain Resumes ∧ (∀ code ∈ pieces, code ≠ .pause) ∧
    pieces.flatMap KeyCode.bytes = bytes

theorem IsPieces.nil : IsPieces [] [] := ⟨.nil, fun _ hc => (List.not_mem_nil hc).elim, rfl⟩

theorem IsPieces.cons (h : IsPieces bytes pieces) (code : KeyCode) (hcode : code ≠ .pause)
    (hresumes : ∀ next ∈ pieces.head?, Resumes code next) :
    IsPieces (code.bytes ++ bytes) (code :: pieces) := by
  obtain ⟨hchain, hpieces, rfl⟩ := h
  refine ⟨hchain.cons hresumes, fun c hc => ?_, rfl⟩
  rcases List.mem_cons.mp hc with rfl | hc
  · exact hcode
  · exact hpieces c hc

theorem typed_silent (hr : r 0 = 0xE1) (b : UInt8) (rest : List UInt8) :
    typed ⟨r, 3⟩ false (b :: rest) = typed ⟨Function.update r 3 b, 4⟩ false rest ∧
      typed ⟨r, 4⟩ false (b :: rest) = typed ⟨Function.update r 4 b, 5⟩ false rest ∧
      typed ⟨r, 6⟩ false (b :: rest) = typed ⟨Function.update r 6 b, 0⟩ false rest := by
  refine ⟨?_, ?_, ?_⟩ <;>
    · rw [typed]
      simp [checkReport, checkExtended2, nextIndex, REPORT_MAX, hr]

theorem typed_sixth (hr : r 0 = 0xE1) (b : UInt8) (rest : List UInt8) :
    typed ⟨r, 5⟩ false (b :: rest) = if b = 0xC5 then
        (if r 3 = 0xE1 ∧ r 4 = 0x9D then [⟨0xE1, 0x9D, 0xC5, 0xE1⟩] else []) ++
          typed ⟨Function.update r 5 b, 0⟩ true rest
      else typed ⟨Function.update r 5 b, 6⟩ false rest := by
  rw [typed]
  by_cases hlast : b = 0xC5
  · by_cases hboth : r 3 = 0xE1 ∧ r 4 = 0x9D <;>
      simp [checkReport, checkExtended2, ps2kbdInterpretAndDispatch, nextIndex, hr, hlast, hboth]
  · simp [checkReport, checkExtended2, nextIndex, REPORT_MAX, hr, hlast]

theorem sizes_typed_lt {n : Nat} (h : bytes.length < n) :
    sizes (typed ⟨r, 0⟩ finished bytes) ≠ n := by
  have hle := sizes_typed bytes ⟨r, 0⟩ finished
  have hzero : pending 0 = 0 := rfl
  dsimp only at hle
  omega

theorem break_of_sizes (hr : r 0 = 0xE1) (h : sizes (typed ⟨r, 3⟩ false bytes) = bytes.length) :
    bytes = [] ∨ ∃ rest, bytes = 0xE1 :: 0x9D :: 0xC5 :: rest := by
  have hr4 : ∀ b, Function.update r 3 b 0 = 0xE1 := fun b => by simpa using hr
  have hr5 : ∀ b b', Function.update (Function.update r 3 b) 4 b' 0 = 0xE1 :=
    fun b b' => by simpa using hr
  match bytes with
  | [] => exact .inl rfl
  | [b3] =>
      rw [(typed_silent hr b3 []).1] at h
      cases h
  | [b3, b4] =>
      rw [(typed_silent hr b3 _).1, (typed_silent (hr4 b3) b4 []).2.1] at h
      cases h
  | b3 :: b4 :: b5 :: rest =>
      right
      rw [(typed_silent hr b3 _).1, (typed_silent (hr4 b3) b4 _).2.1, typed_sixth (hr5 b3 b4)] at h
      have hthird : Function.update (Function.update r 3 b3) 4 b4 3 = b3 := by simp
      rw [hthird, Function.update_self] at h
      split at h
      · rename_i hlast
        split at h
        · rename_i hboth
          exact ⟨rest, by rw [hboth.1, hboth.2, hlast]⟩
        · rw [List.nil_append] at h
          refine absurd h (sizes_typed_lt ?_)
          simp only [List.length_cons]
          omega
      · cases rest with
        | nil => cases h
        | cons b6 rest =>
            rw [(typed_silent (by simpa using hr) b6 rest).2.2] at h
            refine absurd h (sizes_typed_lt ?_)
            simp only [List.length_cons]
            omega

theorem pieces_of_sizes (n : Nat) (hn : bytes.length ≤ n)
    (h : sizes (typed ⟨r, 0⟩ finished bytes) = bytes.length) :
    ∃ pieces, IsPieces bytes pieces := by
  induction n generalizing bytes r finished with
  | zero =>
      obtain rfl := List.length_eq_zero_iff.mp (Nat.le_zero.mp hn)
      exact ⟨[], .nil⟩
  | succ n ih =>
      cases bytes with
      | nil => exact ⟨[], .nil⟩
      | cons b0 rest =>
          rw [List.length_cons] at hn
          by_cases hE0 : b0 = 0xE0
          · subst hE0
            cases rest with
            | nil => cases h
            | cons b1 rest =>
                by_cases hF0 : b1 = 0xF0
                · subst hF0
                  cases rest with
                  | nil => cases h
                  | cons b2 rest =>
                      obtain ⟨r', htyped⟩ := typed_release r finished b2 rest
                      rw [htyped, sizes_cons, size_release] at h
                      simp only [List.length_cons] at h hn
                      have hsizes : sizes (typed ⟨r', 0⟩ true rest) = rest.length := by omega
                      obtain ⟨pieces, hpieces⟩ := ih (by omega) hsizes
                      exact ⟨_, hpieces.cons (.release b2) KeyCode.noConfusion
                        fun _ _ hno => hno.elim⟩
                · obtain ⟨r', htyped⟩ := typed_make r finished hF0 rest
                  rw [htyped, sizes_cons, size_make hF0] at h
                  simp only [List.length_cons] at h hn
                  have hsizes : sizes (typed ⟨r', 0⟩ true rest) = rest.length := by omega
                  obtain ⟨pieces, hpieces⟩ := ih (by omega) hsizes
                  exact ⟨_, hpieces.cons (.make b1 hF0) KeyCode.noConfusion
                    fun _ _ hno => hno.elim⟩
          · by_cases hE1 : b0 = 0xE1
            · subst hE1
              rcases rest with _ | ⟨b1, _ | ⟨b2, rest⟩⟩
              · cases h
              · rw [typed, typed] at h
                by_cases hbyte1 : b1 = 0x1D <;> cases finished <;>
                  simp [checkReport, checkExtended2, nextIndex, REPORT_MAX, hbyte1, typed,
                    sizes] at h
              · obtain ⟨r', hr', htyped⟩ := typed_extended2 r finished b1 b2 rest
                rw [htyped, sizes_cons, size_extended2] at h
                simp only [List.length_cons] at h hn
                by_cases hbyte2 : b2 = 0x45
                · rw [if_pos hbyte2] at h
                  have hhalf : sizes (typed ⟨r', 3⟩ false rest) = rest.length := by omega
                  rcases break_of_sizes hr' hhalf with rfl | ⟨rest, rfl⟩
                  · exact ⟨_, IsPieces.nil.cons (.extended2 b1 b2)
                      KeyCode.noConfusion fun _ hno => by cases hno⟩
                  · obtain ⟨r'', hbreak⟩ := typed_break hr' rest
                    rw [hbreak, sizes_cons, size_extended2] at hhalf
                    simp only [List.length_cons] at hhalf hn
                    have hsizes : sizes (typed ⟨r'', 0⟩ true rest) = rest.length := by omega
                    obtain ⟨pieces, hpieces⟩ := ih (by omega) hsizes
                    have hsecond := hpieces.cons pauseBreak KeyCode.noConfusion
                      fun _ _ hno => absurd hno (show (0xC5 : UInt8) ≠ 0x45 by decide)
                    exact ⟨_, hsecond.cons (.extended2 b1 b2) KeyCode.noConfusion
                      fun next hnext _ => (Option.some.inj hnext).symm⟩
                · rw [if_neg hbyte2] at h
                  have hsizes : sizes (typed ⟨r', 0⟩ true rest) = rest.length := by omega
                  obtain ⟨pieces, hpieces⟩ := ih (by omega) hsizes
                  exact ⟨_, hpieces.cons (.extended2 b1 b2) KeyCode.noConfusion
                    fun _ _ hno => absurd hno hbyte2⟩
            · obtain ⟨r', htyped⟩ := typed_normal r finished hE0 hE1 rest
              rw [htyped, sizes_cons, size_normal, List.length_cons] at h
              have hsizes : sizes (typed ⟨r', 0⟩ true rest) = rest.length := by omega
              obtain ⟨pieces, hpieces⟩ := ih (by omega) hsizes
              exact ⟨_, hpieces.cons (.normal b0 hE0 hE1) KeyCode.noConfusion
                fun _ _ hno => hno.elim⟩

def codeBytes (port : List PortByte) : Nat :=
  port.countP fun b => !isResponse b.byte

theorem codeBytes_append (port port' : List PortByte) :
    codeBytes (port ++ port') = codeBytes port + codeBytes port' :=
  List.countP_append

theorem readPort_sizes (port : List PortByte) {k' : KeyReport} {rest : List PortByte}
    (h : readPort k finished port = .ok (events, k', rest)) :
    sizes events + codeBytes rest ≤ pending k.reportIndex + codeBytes port := by
  induction port generalizing k finished events with
  | nil =>
      obtain ⟨rfl, hrest⟩ := Prod.mk.inj (Except.ok.inj h)
      obtain ⟨-, rfl⟩ := Prod.mk.inj hrest
      exact Nat.zero_le _
  | cons b port ih =>
      rw [readPort] at h
      split at h
      · obtain ⟨rfl, hrest⟩ := Prod.mk.inj (Except.ok.inj h)
        obtain ⟨-, rfl⟩ := Prod.mk.inj hrest
        exact Nat.add_le_add_right (Nat.zero_le _) _
      have hcons : codeBytes (b :: port) =
          codeBytes port + if isResponse b.byte = true then 0 else 1 := by
        rw [codeBytes, List.countP_cons]
        cases isResponse b.byte <;> rfl
      split at h
      · rename_i hresponse
        rw [hcons, if_pos hresponse]
        obtain ⟨rfl, hrest⟩ := Prod.mk.inj (Except.ok.inj h)
        obtain ⟨-, rfl⟩ := Prod.mk.inj hrest
        exact Nat.add_le_add_right (Nat.zero_le _) _
      · rename_i hresponse
        rw [hcons, if_neg hresponse]
        by_cases hindex : k.reportIndex < REPORT_MAX
        · rw [checkByte_ok hindex] at h
          dsimp only at h
          generalize Function.update k.report k.reportIndex b.byte = report at h
          have hstep := sizes_checkReport report k.reportIndex finished
          split at h
          · cases h
          · rename_i events' k'' rest' hread
            obtain ⟨rfl, hports⟩ := Prod.mk.inj (Except.ok.inj h)
            obtain ⟨rfl, rfl⟩ := Prod.mk.inj hports
            have hrest := ih hread
            rw [sizes_append]
            dsimp only at hrest
            omega
        · rw [checkByte, if_pos (by omega)] at h
          cases h

theorem interfaceStep_sizes {arrived : List UInt8} (h : interfaceStep s arrived = .ok (events, t)) :
    sizes events + codeBytes t.port ≤
      codeBytes s.port + codeBytes (arrived.map keyboardByte) := by
  unfold interfaceStep deviceInterfacePS2Keyboard at h
  split at h
  · cases h
  · rename_i hread
    obtain ⟨rfl, rfl⟩ := Prod.mk.inj (Except.ok.inj h)
    have hsizes := readPort_sizes _ hread
    rw [codeBytes_append] at hsizes
    exact hsizes.trans_eq (Nat.zero_add _)

theorem run_sizes (h : run interfaceStep s calls = .ok (outs, t)) :
    sizes outs.flatten + codeBytes t.port ≤
      codeBytes s.port + codeBytes (calls.flatten.map keyboardByte) := by
  induction calls generalizing s outs with
  | nil =>
      obtain ⟨rfl, rfl⟩ := Prod.mk.inj (Except.ok.inj h)
      exact Nat.le_of_eq (Nat.add_comm _ _)
  | cons call calls ih =>
      obtain ⟨o, u, outs', hstep, hrun, rfl⟩ := run_cons_ok h
      have hfirst := interfaceStep_sizes hstep
      have hrest := ih hrun
      rw [List.flatten_cons, List.flatten_cons, sizes_append, List.map_append, codeBytes_append]
      omega

theorem KeyCode.sizes_events (code : KeyCode) : sizes code.events = code.bytes.length := by
  cases code with
  | normal byte => exact size_normal byte
  | make byte hF0 => exact size_make hF0
  | release byte => exact size_release byte
  | extended2 byte1 byte2 => exact size_extended2 byte1 byte2
  | pause => rfl

theorem sizes_flatMap_events (codes : List KeyCode) :
    sizes (codes.flatMap KeyCode.events) = (codes.flatMap KeyCode.bytes).length := by
  induction codes with
  | nil => rfl
  | cons code codes ih =>
      rw [List.flatMap_cons, List.flatMap_cons, sizes_append, List.length_append, ih,
        code.sizes_events]

theorem responseFree_of_sizes (h : run interfaceStep ⟨k, []⟩ calls = .ok (outs, t))
    (hsizes : sizes outs.flatten = calls.flatten.length) :
    ∀ byte ∈ calls.flatten, isResponse byte = false := by
  have hrun := run_sizes h
  have hcount : codeBytes (calls.flatten.map keyboardByte) =
      calls.flatten.countP fun byte => !isResponse byte := List.countP_map
  have hle := List.countP_le_length (p := fun byte => !isResponse byte) (l := calls.flatten)
  have hnone : codeBytes [] = 0 := rfl
  dsimp only at hrun
  have hall := List.countP_eq_length.mp
    (show calls.flatten.countP (fun byte => !isResponse byte) = calls.flatten.length by omega)
  exact fun byte hbyte => by simpa using hall byte hbyte

theorem sizes_typed_flatten
    (houts : List.Forall₂ (fun call out => ∃ report, out = typed ⟨report, 0⟩ false call)
      calls outs) : sizes outs.flatten ≤ calls.flatten.length := by
  induction houts with
  | nil => exact Nat.zero_le _
  | @cons call out calls outs hout houts ih =>
      obtain ⟨report, rfl⟩ := hout
      have hfirst := sizes_typed call ⟨report, 0⟩ false
      have hzero : pending 0 = 0 := rfl
      dsimp only at hfirst
      rw [List.flatten_cons, List.flatten_cons, sizes_append, List.length_append]
      omega

theorem groups_of_sizes
    (houts : List.Forall₂ (fun call out => ∃ report, out = typed ⟨report, 0⟩ false call) calls outs)
    (hsizes : sizes outs.flatten = calls.flatten.length) :
    ∃ groups : List (List KeyCode), calls = groups.map (List.flatMap KeyCode.bytes) ∧
      outs = groups.map (List.flatMap KeyCode.events) ∧
      ∀ code ∈ groups.flatten, code ≠ .pause := by
  induction houts with
  | nil => exact ⟨[], rfl, rfl, fun _ hc => (List.not_mem_nil hc).elim⟩
  | @cons call out calls outs hout houts ih =>
      obtain ⟨report, rfl⟩ := hout
      rw [List.flatten_cons, List.flatten_cons, sizes_append, List.length_append] at hsizes
      have hfirst := sizes_typed call ⟨report, 0⟩ false
      have hrest := sizes_typed_flatten houts
      have hzero : pending 0 = 0 := rfl
      dsimp only at hfirst
      obtain ⟨groups, rfl, rfl, hgroups⟩ := ih (by omega)
      obtain ⟨pieces, hchain, hpause, rfl⟩ := pieces_of_sizes call.length (Nat.le_refl _)
        (show sizes (typed ⟨report, 0⟩ false call) = call.length by omega)
      refine ⟨pieces :: groups, rfl, ?_, fun c hc => ?_⟩
      · rw [List.map_cons, (typed_pieces hchain hpause).1 report false]
      · rcases List.mem_append.mp hc with hc | hc
        · exact hpause c hc
        · exact hgroups c hc

theorem KeyCode.events_inj {code' : KeyCode} (hcode : code ≠ .pause) (hcode' : code' ≠ .pause)
    (h : code.events.head? = code'.events.head?) : code = code' := by
  cases code <;> cases code' <;> simp [KeyCode.events] at h ⊢ <;> grind

theorem KeyCode.events_single (h : code ≠ .pause) : ∃ event, code.events = [event] := by
  cases code with
  | pause => exact absurd rfl h
  | _ => exact ⟨_, rfl⟩

theorem pieces_of_events {pieces' : List KeyCode} (hpieces : ∀ code ∈ pieces, code ≠ .pause)
    (hpieces' : ∀ code ∈ pieces', code ≠ .pause)
    (h : pieces.flatMap KeyCode.events = pieces'.flatMap KeyCode.events) : pieces = pieces' := by
  induction pieces generalizing pieces' with
  | nil =>
      cases pieces' with
      | nil => rfl
      | cons code' rest' =>
          obtain ⟨event, hevent⟩ := KeyCode.events_single (hpieces' code' List.mem_cons_self)
          rw [List.flatMap_cons, hevent] at h
          cases h
  | cons code rest ih =>
      have hcode := hpieces code List.mem_cons_self
      obtain ⟨event, hevent⟩ := KeyCode.events_single hcode
      cases pieces' with
      | nil =>
          rw [List.flatMap_cons, hevent] at h
          cases h
      | cons code' rest' =>
          have hcode' := hpieces' code' List.mem_cons_self
          obtain ⟨event', hevent'⟩ := KeyCode.events_single hcode'
          rw [List.flatMap_cons, List.flatMap_cons, hevent, hevent'] at h
          obtain ⟨rfl, hrest⟩ := List.cons.inj h
          rw [KeyCode.events_inj hcode hcode' (by rw [hevent, hevent']),
            ih (fun c hc => hpieces c (List.mem_cons_of_mem code hc))
              (fun c hc => hpieces' c (List.mem_cons_of_mem code' hc)) hrest]

theorem pieces_ne_pause : ∀ code ∈ codes.flatMap KeyCode.pieces, code ≠ .pause := by
  intro code hmem
  obtain ⟨whole, -, hcode⟩ := List.mem_flatMap.mp hmem
  cases whole with
  | pause =>
      rcases List.mem_cons.mp hcode with rfl | hcode
      · exact KeyCode.noConfusion
      · rw [List.mem_singleton.mp hcode]
        exact KeyCode.noConfusion
  | _ =>
      rw [List.mem_singleton.mp hcode]
      exact KeyCode.noConfusion

theorem KeyCode.pieces_events (code : KeyCode) :
    code.pieces.flatMap KeyCode.events = code.events := by
  cases code <;> rfl

theorem flatMap_pieces_events (codes : List KeyCode) :
    (codes.flatMap KeyCode.pieces).flatMap KeyCode.events = codes.flatMap KeyCode.events := by
  rw [List.flatMap_assoc]
  exact congrArg (fun f => codes.flatMap f) (funext KeyCode.pieces_events)

theorem flatten_map_flatMap {α β : Type*} (f : α → List β) (groups : List (List α)) :
    (groups.map (List.flatMap f)).flatten = groups.flatten.flatMap f := by
  induction groups with
  | nil => rfl
  | cons group groups ih =>
      rw [List.map_cons, List.flatten_cons, List.flatten_cons, List.flatMap_append, ih]

theorem run_whole {groups : List (List KeyCode)} (hchain : groups.flatten.IsChain Resumes)
    (hpause : ∀ code ∈ groups.flatten, code ≠ .pause)
    (hbytes : ∀ byte ∈ groups.flatten.flatMap KeyCode.bytes, isResponse byte = false)
    (k : KeyReport) :
    ∃ t, run interfaceStep ⟨k, []⟩ (groups.map (List.flatMap KeyCode.bytes)) =
      .ok (groups.map (List.flatMap KeyCode.events), t) := by
  induction groups generalizing k with
  | nil => exact ⟨_, rfl⟩
  | cons group groups ih =>
      rw [List.flatten_cons] at hchain hpause hbytes
      rw [List.flatMap_append] at hbytes
      obtain ⟨k', hstep⟩ := interfaceStep_typed (fun b hb => hbytes b (List.mem_append_left _ hb)) k
      rw [(typed_pieces hchain.left_of_append
        fun c hc => hpause c (List.mem_append_left _ hc)).1 k.report false] at hstep
      obtain ⟨t, hrun⟩ := ih hchain.right_of_append
        (fun c hc => hpause c (List.mem_append_right _ hc))
        (fun b hb => hbytes b (List.mem_append_right _ hb)) k'
      refine ⟨t, ?_⟩
      rw [List.map_cons, run, hstep]
      dsimp only
      rw [hrun]
      rfl

theorem sameEvents_of_whole (k : KeyReport) (h : Whole codes calls) : SameEvents k codes calls := by
  obtain ⟨hbytes, hchain, groups, hgroups, rfl⟩ := h
  have hflatten := flatten_map_flatMap KeyCode.bytes groups
  have hevents := flatten_map_flatMap KeyCode.events groups
  rw [hflatten] at hbytes
  have hpause : ∀ code ∈ groups.flatten, code ≠ .pause := by
    rw [hgroups]
    exact pieces_ne_pause
  rw [← hgroups] at hchain
  obtain ⟨t, hrun⟩ := run_whole hchain hpause hbytes k
  obtain ⟨t', hsingle⟩ := run_whole
    (show [groups.flatten].flatten.IsChain Resumes by simpa using hchain)
    (by simpa using hpause) (by simpa using hbytes) k
  refine ⟨_, t, t', hrun, ?_, ?_⟩
  · rw [hflatten, hevents]
    exact hsingle
  · rw [hevents, hgroups, flatMap_pieces_events]

theorem whole_of_sameEvents (hsplit : calls.flatten = codes.flatMap KeyCode.bytes)
    (h : SameEvents k codes calls) :
    Whole codes calls := by
  obtain ⟨outs, t, t', hrun, hsingle, hevents⟩ := h
  have hsizes : sizes outs.flatten = calls.flatten.length := by
    rw [hevents, hsplit, sizes_flatMap_events]
  have hbytes := responseFree_of_sizes hrun hsizes
  refine ⟨hbytes, ?_, ?_⟩
  · -- The order of the codes is read off the single call.
    obtain ⟨k', hstep⟩ := interfaceStep_typed hbytes k
    rw [run, hstep] at hsingle
    dsimp only at hsingle
    rw [run] at hsingle
    have houts : [typed ⟨k.report, 0⟩ false calls.flatten] = [outs.flatten] :=
      (Prod.mk.inj (Except.ok.inj hsingle)).1
    have htyped := (List.cons.inj houts).1
    obtain ⟨pieces, hchain, hpause, hpieces⟩ :=
      pieces_of_sizes calls.flatten.length (Nat.le_refl _) (by rw [htyped, hsizes])
    rw [← hpieces, (typed_pieces hchain hpause).1, hevents, ← flatMap_pieces_events codes] at htyped
    rwa [← pieces_of_events hpause pieces_ne_pause htyped]
  · obtain ⟨outs', t'', hrun', houts⟩ := run_typed
      (fun call hcall b hb => hbytes b (List.mem_flatten_of_mem hcall hb)) k
    obtain ⟨rfl, -⟩ := Prod.mk.inj (Except.ok.inj (hrun.symm.trans hrun'))
    obtain ⟨groups, rfl, rfl, hpause⟩ := groups_of_sizes houts hsizes
    rw [flatten_map_flatMap, ← flatMap_pieces_events codes] at hevents
    exact ⟨groups, pieces_of_events hpause pieces_ne_pause hevents, rfl⟩

/-- Every byte is stored inside `Report`; and the calls give the same events as one call with
all the bytes, one for each code, exactly when no call ends inside a code. -/
theorem keyboard_framing_iff (k : KeyReport) (codes : List KeyCode) (calls : List (List UInt8))
    (hsplit : calls.flatten = codes.flatMap KeyCode.bytes) :
    (∃ outs t, run interfaceStep ⟨k, []⟩ calls = .ok (outs, t)) ∧
      (SameEvents k codes calls ↔ Whole codes calls) :=
  ⟨run_interfaceStep ⟨k, []⟩ calls, whole_of_sameEvents hsplit, sameEvents_of_whole k⟩

def pressed : List KeyCode :=
  [.make 0x48 (by decide), .normal 0x1E (by decide) (by decide)]

theorem keyboard_framing_iff_example :
    SameEvents ⟨fun _ => 0, 0⟩ pressed [[0xE0, 0x48], [0x1E]] :=
  ((keyboard_framing_iff ⟨fun _ => 0, 0⟩ pressed [[0xE0, 0x48], [0x1E]] rfl).2).mpr
    ⟨by simp [isResponse], by simp [pressed, KeyCode.pieces, Resumes, KeyCode.awaitsBreak],
      [[.make 0x48 (by decide)], [.normal 0x1E (by decide) (by decide)]], rfl, rfl⟩

/-- The code of an arrow key is cut behind its first byte: the second call reports another key. -/
theorem cut_code_changes_key :
    [[0xE0], [0x48]].flatten = [KeyCode.make 0x48 (by decide)].flatMap KeyCode.bytes ∧
      ¬ SameEvents ⟨fun _ => 0, 0⟩ [.make 0x48 (by decide)] [[0xE0], [0x48]] := by
  refine ⟨rfl, ?_⟩
  rintro ⟨outs, t, t', hrun, -, hevents⟩
  have hread : ∃ u, run interfaceStep ⟨⟨fun _ => 0, 0⟩, []⟩ [[0xE0], [0x48]] =
      .ok ([[], [⟨0x48, 0, 0, 0⟩]], u) := ⟨_, rfl⟩
  obtain ⟨u, hread⟩ := hread
  obtain ⟨rfl, -⟩ := Prod.mk.inj (Except.ok.inj (hrun.symm.trans hread))
  simp [KeyCode.events] at hevents

end Gramado.Input.Keyboard
