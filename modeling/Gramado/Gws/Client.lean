import Gramado.Ds.Protocol

/-! The client side of the display protocol: the requests of `libgws` and what it reads out of a
response. -/

namespace Gramado.Gws.Client

open Library.ByteMemory Ds.Protocol

def PERCENT : UInt8 := 37
def LETTER_L : UInt8 := 108

/-- The characters `c`, `s`, `S`, `d`, `i`, `u`, `X` and `x`. -/
def CONVERSIONS : List UInt8 := [99, 115, 83, 100, 105, 117, 88, 120]

def UNSIGNED : List UInt8 := [117, 88, 120]

/-- What the conversions print for the variable arguments of a call. `libgws` passes none, so that
they find what happens to be in the registers. -/
structure VaList where
  converted : UInt8 → Bool → Nat → List UInt8

/-- Where the formatter is: in the text, behind a `%`, or behind `%l`. -/
inductive Scan where
  | plain
  | percent
  | long
  deriving DecidableEq, Repr

/-- `kinguio_vsprintf` on the bytes of the memory in which the format begins. -/
def vsprintf (ap : VaList) (type64bit : Bool) (args : Nat) : Scan → List UInt8 → List UInt8
  | _, [] => []
  | .plain, c :: rest =>
      if c = 0 then []
      else if c = PERCENT then vsprintf ap type64bit args .percent rest
      else c :: vsprintf ap type64bit args .plain rest
  | .percent, c :: rest =>
      if c = LETTER_L then vsprintf ap true args .long rest
      else if c ∈ CONVERSIONS then
        ap.converted c type64bit args ++
          vsprintf ap (type64bit && !UNSIGNED.contains c) (args + 1) .plain rest
      else PERCENT :: PERCENT :: vsprintf ap type64bit args .plain rest
  | .long, c :: rest =>
      if c ∈ CONVERSIONS then
        ap.converted c type64bit args ++
          vsprintf ap (type64bit && !UNSIGNED.contains c) (args + 1) .plain rest
      else PERCENT :: PERCENT :: vsprintf ap type64bit args .plain rest

/-- A local buffer of zeros into which `sprintf` prints a string; `behind` is the memory behind the
end of the string. -/
def printed (ap : VaList) (string behind : List UInt8) (i : Nat) : UInt8 :=
  (vsprintf ap false 0 .plain (string ++ 0 :: behind)).getD i 0

/-- A string that is copied to a byte offset of a packet and ended there, `room` bytes having been
zeroed before. -/
def putString (packet : Memory) (offset room size : Nat) (data : Nat → UInt8) : Memory :=
  blit (blit (blit packet offset room fun _ => 0) offset size data) (offset + size) 1 fun _ => 0

/-- The arguments of `gws_create_window`, and the ids of the process and of the thread. -/
structure CreateCall where
  type : UInt64
  status : UInt64
  state : UInt64
  windowname : List UInt8
  x : UInt64
  y : UInt64
  width : UInt64
  height : UInt64
  parentwindow : Int32
  style : UInt64
  color : UInt32
  clientPid : Int32
  clientTid : Int32

def createWords (call : CreateCall) : List (Nat × UInt64) :=
  [(0, 0), (1, 1001), (2, call.status), (3, call.state), (4, call.x &&& 0xFFFF),
    (5, call.y &&& 0xFFFF), (6, call.width &&& 0xFFFF), (7, call.height &&& 0xFFFF),
    (8, (call.color &&& 0xFFFFFFFF).toUInt64), (9, call.type &&& 0xFFFFFFFF),
    (10, toLong call.parentwindow), (11, call.style), (12, toLong call.clientPid),
    (13, toLong call.clientTid)]

def createwindowRequest (ap : VaList) (behind : List UInt8) (call : CreateCall) : Option Memory :=
  if call.windowname.length = 0 then none
  else if 250 < call.windowname.length then none
  else
    some (putString (setWords clean (createWords call)) (8 * 14) 250 call.windowname.length
      (printed ap call.windowname behind))

/-- The arguments of `gws_draw_text`. -/
structure TextCall where
  window : Int32
  x : UInt64
  y : UInt64
  color : UInt32
  string : List UInt8

def textWords (call : TextCall) : List (Nat × UInt64) :=
  [(0, 0), (1, 1005), (2, 0), (3, 0), (4, toLong call.window), (5, call.x), (6, call.y),
    (7, (call.color &&& 0xFFFFFFFF).toUInt64)]

def drawtextRequest (ap : VaList) (behind : List UInt8) (call : TextCall) : Option Memory :=
  if call.string.length = 0 then none
  else if 256 < call.string.length then none
  else
    some (putString (setWords clean (textWords call)) (8 * 8) 256 call.string.length
      (printed ap call.string behind))

/-- `__gws_get_window_info_request`: the rest of the packet is not cleaned. -/
def getWindowInfoRequest (packet : Memory) (wid : Int32) : Memory :=
  setWords packet [(0, toLong wid), (1, 9093), (2, 1234), (3, 5678)]

/-- `gws_window_info_d`. -/
structure WindowInfo where
  wid : Int32
  pwid : Int32
  type : Int32
  left : UInt64
  top : UInt64
  width : UInt64
  height : UInt64
  right : UInt64
  bottom : UInt64
  crLeft : UInt64
  crTop : UInt64
  crWidth : UInt64
  crHeight : UInt64
  borderWidth : UInt64
  deriving DecidableEq, Repr

def readInfo (packet : Memory) : WindowInfo where
  wid := toInt (word packet 4)
  pwid := toInt (word packet 5)
  type := toInt (word packet 6)
  left := word packet 7
  top := word packet 8
  width := word packet 9
  height := word packet 10
  right := word packet 11
  bottom := word packet 12
  crLeft := word packet 13
  crTop := word packet 14
  crWidth := word packet 15
  crHeight := word packet 16
  borderWidth := word packet 17

/-- `__gws_get_window_info_response`, on the packet that it has received. -/
def getWindowInfoResponse (packet : Memory) : Option WindowInfo :=
  if toInt (word packet 1) ≠ toInt SERVER_PACKET_TYPE_REPLY then none
  else if toInt (word packet 2) ≠ 1234 then none
  else if toInt (word packet 3) ≠ 5678 then none
  else some (readInfo packet)

/-- Every `%` of a string is the first or the second of a pair. -/
def Paired : List UInt8 → Prop
  | [] => True
  | [c] => c ≠ PERCENT
  | c :: d :: rest => if c = PERCENT then d = PERCENT ∧ Paired rest else Paired (d :: rest)

variable {string : List UInt8} {offset room size i : Nat}

theorem vsprintf_paired (ap : VaList) (behind : List UInt8) (h : Paired string)
    (hstring : ∀ c ∈ string, c ≠ 0) :
    vsprintf ap false 0 .plain (string ++ 0 :: behind) = string := by
  induction string using Paired.induct with
  | case1 => rfl
  | case2 c =>
      rw [Paired] at h
      rw [List.singleton_append, vsprintf, if_neg (hstring c List.mem_cons_self), if_neg h,
        vsprintf, if_pos rfl]
  | case3 d rest ih =>
      rw [Paired, if_pos rfl] at h
      obtain ⟨rfl, hrest⟩ := h
      have htail := ih hrest fun c hc => hstring c (by simp [hc])
      rw [List.cons_append, List.cons_append, vsprintf, if_neg (by decide), if_pos rfl, vsprintf,
        if_neg (by decide), if_neg (by decide), htail]
  | case4 c d rest hc ih =>
      rw [Paired, if_neg hc] at h
      have htail := ih h fun e he => hstring e (by simp [List.mem_cons.mp he])
      rw [List.cons_append, vsprintf, if_neg (hstring c List.mem_cons_self), if_neg hc, htail]

theorem printed_paired (ap : VaList) (behind : List UInt8) (h : Paired string)
    (hstring : ∀ c ∈ string, c ≠ 0) (i : Nat) :
    printed ap string behind i = string.getD i 0 := by
  rw [printed, vsprintf_paired ap behind h hstring]

theorem word_putString (packet : Memory) (data : Nat → UInt8) (h : 8 * i + 8 ≤ offset) :
    word (putString packet offset room size data) i = word packet i := by
  refine word_congr fun k _ hk => ?_
  rw [putString, blit_of_outside _ _ (by omega), blit_of_outside _ _ (by omega),
    blit_of_outside _ _ (by omega)]

theorem putString_char (packet : Memory) (data : Nat → UInt8) (hi : i < size) :
    putString packet offset room size data (offset + i) = data i := by
  rw [putString, blit_of_outside _ _ (by omega), blit_of_inside _ _ (by omega) (by omega),
    Nat.add_sub_cancel_left]

theorem putString_end (packet : Memory) (offset room size : Nat) (data : Nat → UInt8) :
    putString packet offset room size data (offset + size) = 0 := by
  rw [putString, blit_of_inside _ _ (by omega) (by omega)]

end Gramado.Gws.Client
