import Gramado.Ds.ZOrder
import Gramado.Gdi.Painter

namespace Gramado.Ds.Drawing

open Ds.ZOrder (WINDOW_COUNT_MAX WINDOW_MAGIC WT_OVERLAPPED)
open Gdi.Painter hiding backbuffer_draw_horizontal_line frontbuffer_draw_horizontal_line
open Library.Painting

structure Rect where
  left : Nat
  top : Nat
  width : Nat
  height : Nat

structure Window where
  magic : Nat
  type : Nat
  absolute_x : Nat
  absolute_y : Nat
  rcClient : Rect

structure Font where
  initialized : Bool
  address : Nat
  width : Nat
  height : Nat
  glyphs : Nat → UInt8

/-- What the drawing routines read. The kernel's painter and the server's own one have the
raster operations `raster` and `blend` besides the copy. -/
structure Server where
  device : Device
  raster : Nat → Nat → Nat → Nat
  blend : Nat → Nat → Nat → Nat
  windowList : Nat → Option Window
  font : Font

def sub64 (a b : Nat) : Nat :=
  (a % 2 ^ 64 + 2 ^ 64 - b % 2 ^ 64) % 2 ^ 64

section

variable (s : Server)

def backbuffer_draw_horizontal_line (x1 y x2 color rop_flags : Nat) : Canvas → Option Canvas :=
  draw_horizontal_line s.device s.blend .back x1 y x2 color rop_flags

def frontbuffer_draw_horizontal_line (x1 y x2 color rop_flags : Nat) : Canvas → Option Canvas :=
  draw_horizontal_line s.device s.blend .front x1 y x2 color rop_flags

def draw_rectangle_via_kgws (x y width height color rop_flags : Nat) : Canvas → Option Canvas :=
  backbuffer_draw_rectangle s.device s.raster x y (width % 65536) (height % 65536)
    (color % 2 ^ 32) rop_flags

def rectBackbufferDrawRectangle (x y width height color rop_flags : Nat) (canvas : Canvas) :
    Option Canvas :=
  let device_w := s.device.width % 65536
  let device_h := s.device.height % 65536
  if device_w > 800 then some canvas
  else if device_h > 600 then some canvas
  else
    let left := x % 65536
    let top := y % 65536
    let width := width % 65536
    let height := height % 65536
    let color := color % 2 ^ 24
    let right := left + width
    let bottom := top + height
    if left > right then none
    else if top > bottom then none
    else
      let width := if width > device_w then device_w else width
      let height := if height > device_h then device_h else height
      draw_rectangle_via_kgws s left top width height color rop_flags canvas

def overlapped (wid : Int) : Option Window :=
  if wid < 0 ∨ wid ≥ WINDOW_COUNT_MAX then none
  else
    match s.windowList wid.toNat with
    | none => none
    | some window =>
        if window.magic ≠ WINDOW_MAGIC then none
        else if window.type ≠ WT_OVERLAPPED then none
        else some window

def rectBackbufferDrawRectangleInsideWindow (wid : Int) (x y width height color rop : Nat)
    (canvas : Canvas) : Option Canvas :=
  match overlapped s wid with
  | none => some canvas
  | some window =>
      let abs_left := (window.absolute_x + window.rcClient.left + x) % 2 ^ 64
      let abs_top := (window.absolute_y + window.rcClient.top + y) % 2 ^ 64
      let available_w :=
        sub64 (window.absolute_x + window.rcClient.left + window.rcClient.width) abs_left
      let width := if width > available_w then available_w else width
      let available_h :=
        sub64 (window.absolute_y + window.rcClient.top + window.rcClient.height) abs_top
      let height := if height > available_h then available_h else height
      rectBackbufferDrawRectangle s abs_left abs_top width height color rop canvas

def rectBackbufferDrawHorizontalLineInsideWindow (wid : Int) (x1 y x2 color rop_flags : Nat)
    (back_or_front : Nat) (canvas : Canvas) : Option Canvas :=
  match overlapped s wid with
  | none => some canvas
  | some window =>
      let client_left := (window.absolute_x + window.rcClient.left) % 2 ^ 64
      let client_top := (window.absolute_y + window.rcClient.top) % 2 ^ 64
      let client_right := (client_left + window.rcClient.width) % 2 ^ 64
      let client_bottom := (client_top + window.rcClient.height) % 2 ^ 64
      let abs_x1 := (client_left + x1) % 2 ^ 64
      let abs_x2 := (client_left + x2) % 2 ^ 64
      let abs_y := (client_top + y) % 2 ^ 64
      let abs_x1 := if abs_x1 < client_left then client_left else abs_x1
      let abs_y := if abs_y < client_top then client_top else abs_y
      if abs_x1 > abs_x2 then some canvas
      else
        let available_w := sub64 client_right abs_x1
        let width := sub64 abs_x2 abs_x1
        let abs_x2 := if width > available_w then (abs_x1 + available_w) % 2 ^ 64 else abs_x2
        -- the row below the last one of the client area is let through
        if abs_y > client_bottom then some canvas
        else if back_or_front = 1 then
          backbuffer_draw_horizontal_line s abs_x1 abs_y abs_x2 color rop_flags canvas
        else if back_or_front = 2 then
          frontbuffer_draw_horizontal_line s abs_x1 abs_y abs_x2 color rop_flags canvas
        else some canvas

def blockAt (position : Nat) (n : Nat) (scale : Int) : Nat :=
  ((position + Int.bmod (n * scale) (2 ^ 32)) % 2 ^ 64).toNat

def lit (font : Font) (ch : Int) (row col : Nat) : Prop :=
  (font.glyphs ((ch % 256).toNat * font.height + row)).toNat &&& (0x80 >>> col) ≠ 0

instance (font : Font) (ch : Int) (row col : Nat) : Decidable (lit font ch row col) :=
  inferInstanceAs (Decidable (_ ≠ _))

def grDrawCharBlockStyleInsideWindow (wid : Int) (rel_x rel_y fgcolor : Nat) (ch scale : Int)
    (rop : Nat) (canvas : Canvas) : Option Canvas :=
  let scale := if scale < 1 then 1 else scale
  if s.font.initialized = false ∨ s.font.address = 0 then some canvas
  else
    paintEach (fun row => paintEach (fun col canvas =>
        if lit s.font ch row col then
          rectBackbufferDrawRectangleInsideWindow s wid (blockAt rel_x col scale)
            (blockAt rel_y row scale) scale.toNat scale.toNat fgcolor rop canvas
        else some canvas)
      (List.range s.font.width)) (List.range s.font.height) canvas

end

variable {a b x y x1 x2 : Nat}

section Specification

variable {s : Server} {wid : Int} {w : Window}

def Supported (d : Device) : Prop :=
  d.width ≤ 800 ∧ d.height ≤ 600

instance (d : Device) : Decidable (Supported d) :=
  inferInstanceAs (Decidable (_ ∧ _))

theorem sub64_of_le (h : b ≤ a) (ha : a < 2 ^ 64) : sub64 a b = a - b := by
  rw [sub64]
  omega

theorem sub64_of_lt (h : a < b) (hb : b < 2 ^ 64) : sub64 a b = a + 2 ^ 64 - b := by
  rw [sub64]
  omega

theorem paints_drawRectangle {width height : Nat} (color : Nat) (hs : Supported s.device) :
    Paints (rectBackbufferDrawRectangle s x y width height color 0)
      (region s.device .back fun column row => x % 65536 ≤ column ∧
        column < x % 65536 + width % 65536 ∧
        row ∈ Rows (y % 65536) (min (height % 65536) s.device.height) s.device.height)
      (stored s.device (color % 2 ^ 24)) := by
  obtain ⟨hwidth, hheight⟩ := hs
  have hmodw : s.device.width % 65536 = s.device.width := Nat.mod_eq_of_lt (by omega)
  have hmodh : s.device.height % 65536 = s.device.height := Nat.mod_eq_of_lt (by omega)
  generalize hw : (if width % 65536 > s.device.width then s.device.width else width % 65536) = w'
  generalize hh : (if height % 65536 > s.device.height then s.device.height else height % 65536) =
    h' at *
  have hwmod : w' % 65536 % 65536 = w' := by
    split at hw <;> omega
  have hhmod : h' % 65536 % 65536 = min (height % 65536) s.device.height := by
    split at hh <;> omega
  have hdraw : rectBackbufferDrawRectangle s x y width height color 0 =
      backbuffer_draw_rectangle s.device s.raster (x % 65536) (y % 65536) (w' % 65536)
        (h' % 65536) (color % 2 ^ 24) 0 := by
    funext canvas
    simp only [rectBackbufferDrawRectangle, hmodw, hmodh, hw, hh]
    rw [if_neg (by omega), if_neg (by omega), if_neg (by omega), if_neg (by omega),
      draw_rectangle_via_kgws, Nat.mod_mod_of_dvd' (by decide)]
  rw [hdraw]
  refine (paints_drawrectangle0 (color % 2 ^ 24) hwidth hheight (by omega)).congr ?_
  ext p
  have hcolumn := Nat.mod_lt p.2 s.device.width_pos
  simp only [region, Set.mem_ofPred_eq, Nat.mod_mod, hwmod, hhmod]
  refine and_congr_right fun _ => and_congr_right fun _ => and_congr_left fun _ => ?_
  split at hw <;> omega

def clientLeft (w : Window) : Nat :=
  (w.absolute_x + w.rcClient.left) % 2 ^ 64

def clientTop (w : Window) : Nat :=
  (w.absolute_y + w.rcClient.top) % 2 ^ 64

def ClientOnScreen (d : Device) (w : Window) : Prop :=
  clientLeft w + w.rcClient.width ≤ d.width ∧ clientTop w + w.rcClient.height ≤ d.height

def available (length position : Nat) : Nat :=
  sub64 length position

def painted (d : Device) (w : Window) (x y width height : Nat) : Set Place :=
  region d .back fun column row => Supported d ∧ (clientLeft w + x) % 65536 ≤ column ∧
    column < (clientLeft w + x) % 65536 + min width (available w.rcClient.width x) % 65536 ∧
    row ∈ Rows ((clientTop w + y) % 65536)
      (min (min height (available w.rcClient.height y) % 65536) d.height) d.height

theorem drawRectangle_unsupported (x y width height color : Nat) (hs : ¬ Supported s.device) :
    rectBackbufferDrawRectangle s x y width height color 0 = fun canvas => some canvas := by
  have hlt := s.device.height_lt
  have hle := s.device.width_le
  funext canvas
  rw [rectBackbufferDrawRectangle, Nat.mod_eq_of_lt hlt, Nat.mod_eq_of_lt (by omega)]
  dsimp only
  by_cases hwidth : s.device.width > 800
  · rw [if_pos hwidth]
  · have hheight : s.device.height > 600 := by
      by_contra h
      exact hs ⟨by omega, by omega⟩
    rw [if_neg hwidth, if_pos hheight]

theorem sub64_add_left {n : Nat} : sub64 (a + n) ((a + x) % 2 ^ 64) = available n x := by
  rw [available, sub64, sub64]
  omega

theorem paints_insideWindow (hw : overlapped s wid = some w) (x y width height color : Nat) :
    Paints (rectBackbufferDrawRectangleInsideWindow s wid x y width height color 0)
      (painted s.device w x y width height) (stored s.device (color % 2 ^ 24)) := by
  have hmin : ∀ a b : Nat, (if a > b then b else a) = min a b := by
    intro a b
    split <;> omega
  have hmod : ∀ a b : Nat, (a + b) % 2 ^ 64 % 65536 = (a % 2 ^ 64 + b) % 65536 := by
    intro a b
    omega
  have hdraw : rectBackbufferDrawRectangleInsideWindow s wid x y width height color 0 =
      rectBackbufferDrawRectangle s ((w.absolute_x + w.rcClient.left + x) % 2 ^ 64)
        ((w.absolute_y + w.rcClient.top + y) % 2 ^ 64)
        (min width (available w.rcClient.width x)) (min height (available w.rcClient.height y))
        color 0 := by
    funext canvas
    simp only [rectBackbufferDrawRectangleInsideWindow, hw, sub64_add_left, hmin]
  rw [hdraw]
  by_cases hs : Supported s.device
  · refine (paints_drawRectangle color hs).congr ?_
    simp only [painted, hs, true_and, hmod]
    rfl
  · rw [drawRectangle_unsupported _ _ _ _ _ hs]
    refine (paints_empty _).congr (Set.eq_empty_of_forall_notMem ?_).symm
    rintro p ⟨-, hsupported, -⟩
    exact hs hsupported

def drawn (d : Device) (w : Window) (buffer : Buffer) (x1 y x2 : Nat) : Set Place :=
  {p | y ≤ w.rcClient.height ∧ ∃ x, x1 ≤ x ∧ x < x2 ∧
    (x1 ≤ w.rcClient.width → x < w.rcClient.width) ∧
    p = place d buffer (clientLeft w + x) (clientTop w + y)}

def back_or_front : Buffer → Nat
  | .back => 1
  | .front => 2

theorem drawLine_eq (hw : overlapped s wid = some w) (hon : ClientOnScreen s.device w)
    (buffer : Buffer) (hx1 : x1 < 2 ^ 32) (hy : y < 2 ^ 32) (hx2 : x2 < 2 ^ 32) (color : Nat) :
    rectBackbufferDrawHorizontalLineInsideWindow s wid x1 y x2 color 0 (back_or_front buffer) =
      if x1 > x2 ∨ y > w.rcClient.height then fun canvas => some canvas
      else draw_horizontal_line s.device s.blend buffer (clientLeft w + x1) (clientTop w + y)
        (clientLeft w + if x1 ≤ w.rcClient.width then min x2 w.rcClient.width else x2) color 0 := by
  obtain ⟨hleft, htop⟩ := hon
  have hlt := s.device.height_lt
  have hle := s.device.width_le
  have hA : (w.absolute_x + w.rcClient.left) % 2 ^ 64 = clientLeft w := rfl
  have hB : (w.absolute_y + w.rcClient.top) % 2 ^ 64 = clientTop w := rfl
  have hfit : ∀ {n : Nat}, n < 2 ^ 33 → (clientLeft w + n) % 2 ^ 64 = clientLeft w + n ∧
      (clientTop w + n) % 2 ^ 64 = clientTop w + n := by
    intro n hn
    exact ⟨Nat.mod_eq_of_lt (by omega), Nat.mod_eq_of_lt (by omega)⟩
  funext canvas
  simp only [rectBackbufferDrawHorizontalLineInsideWindow, hw, hA, hB,
    (hfit (show x1 < 2 ^ 33 by omega)).1, (hfit (show x2 < 2 ^ 33 by omega)).1,
    (hfit (show y < 2 ^ 33 by omega)).2,
    (hfit (show w.rcClient.width < 2 ^ 33 by omega)).1,
    (hfit (show w.rcClient.height < 2 ^ 33 by omega)).2,
    if_neg (Nat.not_lt.mpr (Nat.le_add_right _ _))]
  by_cases horder : x1 > x2
  · rw [if_pos (by omega), if_pos (.inl horder)]
  · rw [if_neg (by omega)]
    by_cases hrow : y > w.rcClient.height
    · rw [if_pos (by omega), if_pos (.inr hrow)]
    · rw [if_neg (show ¬ (x1 > x2 ∨ y > w.rcClient.height) by omega), if_neg (by omega)]
      have hend : (if sub64 (clientLeft w + x2) (clientLeft w + x1) >
          sub64 (clientLeft w + w.rcClient.width) (clientLeft w + x1) then
            (clientLeft w + x1 + sub64 (clientLeft w + w.rcClient.width) (clientLeft w + x1)) %
              2 ^ 64
          else clientLeft w + x2) =
          clientLeft w + if x1 ≤ w.rcClient.width then min x2 w.rcClient.width else x2 := by
        rw [sub64_of_le (a := clientLeft w + x2) (by omega) (by omega)]
        by_cases hin : x1 ≤ w.rcClient.width
        · rw [sub64_of_le (a := clientLeft w + w.rcClient.width) (by omega) (by omega), if_pos hin]
          split <;> omega
        · rw [sub64_of_lt (by omega) (by omega), if_neg hin, if_neg (by omega)]
      rw [hend]
      cases buffer with
      | back => rfl
      | front => rfl

theorem paints_lineInsideWindow (hw : overlapped s wid = some w) (hon : ClientOnScreen s.device w)
    (buffer : Buffer) (hx1 : x1 < 2 ^ 32) (hy : y < 2 ^ 32) (hx2 : x2 < 2 ^ 32) (color : Nat) :
    Paints (rectBackbufferDrawHorizontalLineInsideWindow s wid x1 y x2 color 0
      (back_or_front buffer)) (drawn s.device w buffer x1 y x2) (stored s.device color) := by
  rw [drawLine_eq hw hon buffer hx1 hy hx2]
  split
  next hnone =>
    refine (paints_empty _).congr (Set.eq_empty_of_forall_notMem ?_).symm
    rintro p ⟨hrow, x, hlow, hhigh, -⟩
    omega
  next hline =>
    refine (paints_line buffer _ _ _ color).congr ?_
    ext p
    constructor
    · rintro ⟨x, ⟨hlow, hhigh⟩, rfl⟩
      refine ⟨by omega, x - clientLeft w, by omega, ?_, ?_, ?_⟩
      · split at hhigh <;> omega
      · intro hin
        rw [if_pos hin] at hhigh
        omega
      · rw [Nat.add_sub_cancel' (by omega)]
    · rintro ⟨hrow, x, hlow, hhigh, hin, rfl⟩
      refine ⟨clientLeft w + x, ⟨by omega, ?_⟩, rfl⟩
      split <;> omega

def inked (s : Server) (w : Window) (rel_x rel_y : Nat) (ch scale : Int) : Set Place :=
  {p | s.font.initialized = true ∧ s.font.address ≠ 0 ∧
    ∃ row < s.font.height, ∃ col < s.font.width, lit s.font ch row col ∧
      p ∈ painted s.device w (blockAt rel_x col (max scale 1)) (blockAt rel_y row (max scale 1))
        (max scale 1).toNat (max scale 1).toNat}

theorem paints_char (hw : overlapped s wid = some w) (rel_x rel_y fgcolor : Nat) (ch scale : Int) :
    Paints (grDrawCharBlockStyleInsideWindow s wid rel_x rel_y fgcolor ch scale 0)
      (inked s w rel_x rel_y ch scale) (stored s.device (fgcolor % 2 ^ 24)) := by
  have hscale : (if scale < 1 then 1 else scale) = max scale 1 := by
    split <;> omega
  generalize hn : max scale 1 = n at hscale
  by_cases hfont : s.font.initialized = false ∨ s.font.address = 0
  · have hnone : grDrawCharBlockStyleInsideWindow s wid rel_x rel_y fgcolor ch scale 0 =
        fun canvas => some canvas := by
      funext canvas
      rw [grDrawCharBlockStyleInsideWindow]
      exact if_pos hfont
    rw [hnone]
    refine (paints_empty _).congr (Set.eq_empty_of_forall_notMem ?_).symm
    rintro p ⟨hinit, haddress, -⟩
    rcases hfont with h | h
    · rw [hinit] at h
      cases h
    · exact haddress h
  · have hloops : grDrawCharBlockStyleInsideWindow s wid rel_x rel_y fgcolor ch scale 0 =
        paintEach (fun row => paintEach (fun col canvas =>
            if lit s.font ch row col then
              rectBackbufferDrawRectangleInsideWindow s wid (blockAt rel_x col n)
                (blockAt rel_y row n) n.toNat n.toNat fgcolor 0 canvas
            else some canvas)
          (List.range s.font.width)) (List.range s.font.height) := by
      funext canvas
      rw [grDrawCharBlockStyleInsideWindow, hscale]
      exact if_neg hfont
    have hblock : ∀ row col, Paints (fun canvas =>
        if lit s.font ch row col then
          rectBackbufferDrawRectangleInsideWindow s wid (blockAt rel_x col n)
            (blockAt rel_y row n) n.toNat n.toNat fgcolor 0 canvas
        else some canvas)
        {p | lit s.font ch row col ∧ p ∈ painted s.device w (blockAt rel_x col n)
          (blockAt rel_y row n) n.toNat n.toNat} (stored s.device (fgcolor % 2 ^ 24)) := by
      intro row col
      by_cases hlit : lit s.font ch row col
      · simp only [hlit, if_pos, true_and]
        exact paints_insideWindow hw _ _ _ _ fgcolor
      · simp only [hlit, if_false, false_and]
        exact paints_empty _
    rw [hloops]
    refine (paints_each (fun row => paints_each (hblock row) _) _).congr ?_
    rw [not_or, Bool.not_eq_false] at hfont
    ext p
    simp only [Set.mem_iUnion, List.mem_range, exists_prop, inked, hn, hfont.1, Set.mem_ofPred_eq,
      ne_eq, hfont.2, not_false_eq_true, true_and]

end Specification

end Gramado.Ds.Drawing
