import Gramado.Library.Counting
import Mathlib.Data.Int.NatAbs

namespace Gramado.Ds.Bmp

open Library.CheckedRead Library.Counting

/-- The screen as the drawing library of the server knows it. -/
structure Display where
  libgd_device_width : Nat
  libgd_device_height : Nat
  libgd_SavedBPP : Nat
  width_lt : libgd_device_width < 65536
  height_lt : libgd_device_height < 65536

abbrev Canvas := Nat × Nat → UInt32

structure Rect where
  left : Nat
  top : Nat
  width : Nat
  height : Nat
  deriving DecidableEq, Repr

/-- The variables of the file that outlive a call, and the back buffer. -/
structure Server where
  nibble_count_16colors : Nat
  bmp_change_color_flag : Nat
  bmp_selected_color : UInt32
  bmp_substitute_color : UInt32
  backBuffer : Canvas

def BMP_CHANGE_COLOR_NULL : Nat := 0
def BMP_CHANGE_COLOR_TRANSPARENT : Nat := 1000
def BMP_CHANGE_COLOR_SUBSTITUTE : Nat := 2000

def int (n : Int) : Int :=
  n.bmod (2 ^ 32)

def bytes_count (bpp : Nat) : Option Nat :=
  if bpp = 32 then some 4 else if bpp = 24 then some 3 else none

def MaxOffset : Nat := 0x00200000

def fb_BackBufferPutpixel (d : Display) (color : UInt32) (x y : Int) (canvas : Canvas) :
    Except Fault Canvas :=
  if x < 0 then .ok canvas
  else if y < 0 then .ok canvas
  else if x ≥ d.libgd_device_width then .ok canvas
  else if y ≥ d.libgd_device_height then .ok canvas
  else
    let x := x.toNat % 65536
    let y := y.toNat % 65536
    match bytes_count d.libgd_SavedBPP with
    | none => .ok canvas
    | some bytes =>
        let tmpOffset := d.libgd_device_width * bytes * y + x * bytes
        -- the server exits
        if tmpOffset ≥ MaxOffset then .error (.panic "fb_BackBufferPutpixel: MaxOffset")
        else
          let value := if bytes = 4 then color else color % 0x1000000
          .ok (Function.update canvas (x, y) value)

def libdisp_backbuffer_putpixel (d : Display) (color : UInt32) (x y : Int) (canvas : Canvas) :
    Except Fault Canvas :=
  if x < 0 then .ok canvas
  else if y < 0 then .ok canvas
  else fb_BackBufferPutpixel d color x y canvas

def colorOf (c0 c1 c2 c3 : UInt8) : UInt32 :=
  .ofNat (c0.toNat + 256 * c1.toNat + 65536 * c2.toNat + 16777216 * c3.toNat)

structure Loop where
  base : Nat
  left : Nat
  bottom : Nat
  color : UInt32
  nibble_count_16colors : Nat
  backBuffer : Canvas

def advance (base n : Nat) : Except Fault Nat :=
  if base + n < 2 ^ 31 then .ok (base + n) else .error .outside

section

variable (bmp : Buffer) (palette bmpBitCount : Nat)

@[simp] theorem returns_advance (base n : Nat) (P : Nat → Prop) :
    Returns (advance base n) P ↔ base + n < 2 ^ 31 ∧ P (base + n) := by
  unfold advance
  split
  · rw [returns_ok, and_iff_right ‹_›]
  · rw [returns_error, false_iff, not_and]
    exact fun h => absurd h ‹_›

def nextColor (s : Loop) : Except Fault Loop :=
  if bmpBitCount = 4 then do
    let index ← readByte bmp s.base
    if s.nibble_count_16colors = 2222 then do
      let color ← readWord bmp (palette + 4 * (index &&& 0x0F).toNat)
      let base ← advance s.base 1
      return { s with color, nibble_count_16colors := 0, base }
    else do
      let color ← readWord bmp (palette + 4 * ((index >>> 4) &&& 0x0F).toNat)
      return { s with color, nibble_count_16colors := 2222 }
  else if bmpBitCount = 8 then do
    let index ← readByte bmp s.base
    let color ← readWord bmp (palette + 4 * index.toNat)
    let base ← advance s.base 1
    return { s with color, base }
  else if bmpBitCount = 16 then do
    let low ← readByte bmp s.base
    let high ← readByte bmp (s.base + 1)
    let base ← advance s.base 2
    let color := colorOf 0 (low &&& 0xF8) ((low &&& 0x07) ||| (high &&& 0xE0)) (high &&& 0x1F)
    return { s with color, base }
  else if bmpBitCount = 24 then do
    let c0 ← readByte bmp s.base
    let c1 ← readByte bmp (s.base + 1)
    let c2 ← readByte bmp (s.base + 2)
    let base ← advance s.base 3
    return { s with color := colorOf c0 c1 c2 0, base }
  else if bmpBitCount = 32 then do
    let c0 ← readByte bmp s.base
    let c1 ← readByte bmp (s.base + 1)
    let c2 ← readByte bmp (s.base + 2)
    let _c3 ← readByte bmp (s.base + 3)
    let base ← advance s.base 4
    return { s with color := colorOf c0 c1 c2 0, base }
  else .ok s

end

section

variable (d : Display) (settings : Server)

def plot (color : UInt32) (x y : Int) (s : Loop) : Except Fault Loop := do
  let backBuffer ← libdisp_backbuffer_putpixel d color (int x) (int y) s.backBuffer
  return { s with backBuffer }

def putColor (zoom_factor : Int) (i j : Nat) (s : Loop) : Except Fault Loop :=
  if settings.bmp_change_color_flag = BMP_CHANGE_COLOR_TRANSPARENT then
    if s.color ≠ settings.bmp_selected_color then
      if zoom_factor = 1 then plot d s.color s.left s.bottom s
      else
        count zoom_factor.toNat (fun s ih =>
          count zoom_factor.toNat (fun s iw =>
            plot d s.color (s.left + (j * zoom_factor + iw)) (s.bottom - (i * zoom_factor + ih)) s)
            s) s
    else .ok s
  else if settings.bmp_change_color_flag = BMP_CHANGE_COLOR_SUBSTITUTE then
    if s.color = settings.bmp_selected_color then
      plot d settings.bmp_substitute_color s.left s.bottom s
    else plot d s.color s.left s.bottom s
  else plot d s.color s.left s.bottom s

def nextLeft (zoom_factor : Int) (s : Loop) : Loop :=
  if zoom_factor = 1 then { s with left := (s.left + 1) % 2 ^ 32 } else s

def nextLine (zoom_factor : Int) (x : Nat) (s : Loop) : Loop :=
  if zoom_factor = 1 then
    { s with bottom := (s.bottom + (2 ^ 32 - 1)) % 2 ^ 32, left := x % 2 ^ 32 }
  else s

variable (bmp : Buffer) (palette bmpBitCount : Nat)

def drawPixel (zoom_factor : Int) (i : Nat) (s : Loop) (j : Nat) : Except Fault Loop := do
  let s ← nextColor bmp palette bmpBitCount s
  let s ← putColor d settings zoom_factor i j s
  return nextLeft zoom_factor s

def drawLine (zoom_factor : Int) (x bmpWidth : Nat) (s : Loop) (i : Nat) : Except Fault Loop := do
  let s ← count bmpWidth (drawPixel d settings bmp palette bmpBitCount zoom_factor i) s
  return nextLine zoom_factor x s

end

def paletteSize (bitsPerPixel : Nat) : Nat :=
  if bitsPerPixel = 1 then 8
  else if bitsPerPixel = 4 then 64
  else if bitsPerPixel = 8 then 1024
  else if bitsPerPixel = 16 then 65536
  else 0

structure Outcome where
  status : Int
  /-- The part of the screen that is refreshed. -/
  refreshed : Option Rect
  server : Server

def failed (s : Server) : Outcome :=
  { status := -1, refreshed := none, server := s }

def xLimit : Nat := 800
def yLimit : Nat := 600

def bmpDisplayBMP0 (d : Display) (address : Option Buffer) (x y : Nat) (zoom_factor : Int)
    (display : Bool) (s : Server) : Except Fault Outcome :=
  match address with
  | none => .ok (failed s)
  | some bmp =>
      if x > xLimit ∨ y > yLimit then .ok (failed s)
      else do
        let b ← readByte bmp 0
        let m ← readByte bmp 1
        if b ≠ 0x42 ∨ m ≠ 0x4D then .ok (failed s)
        else do
          let _size ← readWord bmp 2
          let offBits ← readWord bmp 10
          let OffsetForBase := offBits.toNat % 256
          let _bmpSize ← readWord bmp 14
          let width ← readWord bmp 18
          let height ← readWord bmp 22
          let bmpWidth := width.toNat % 65536
          let bmpHeight := height.toNat % 65536
          let bitCount ← readHalf bmp 28
          let left := x % 65536
          let top := y % 65536
          let bottom := ((top + bmpHeight * zoom_factor) % 2 ^ 32).toNat
          let finalRect : Rect :=
            { left, top,
              width := ((bmpWidth * zoom_factor : Int) % 2 ^ 32).toNat,
              height := (((bottom : Int) - top) % 2 ^ 32).toNat }
          let base := OffsetForBase + paletteSize bitCount.toNat
          let loop ← count bmpHeight
            (drawLine d s bmp OffsetForBase bitCount.toNat zoom_factor x bmpWidth)
            { base, left, bottom, color := 0, nibble_count_16colors := s.nibble_count_16colors,
              backBuffer := s.backBuffer }
          return {
            status := 0
            refreshed := if display then some finalRect else none
            server := { s with
              nibble_count_16colors := loop.nibble_count_16colors
              backBuffer := loop.backBuffer } }

end Gramado.Ds.Bmp
