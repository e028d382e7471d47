import Gramado.Gdi.Refresh
import Gramado.Library.Mirror

namespace Gramado.Ds.Pointer

open Gdi.Painter (Device)
open Gdi.Refresh Library.Copying Library.Mirror Library.Raster

/-- A screen that the mapped memory of a buffer holds, with the line below it and the width of
a pointer behind that. -/
structure Surface extends Device where
  spare : bpp / 8 * (width * (height + 1) + 16) ≤ DISTANCE

def desktop : Surface where
  toDevice := desk.toDevice
  spare := by decide

def COLOR_RED : Nat := 0xFF0000

structure Hover where
  magic : Nat
  bg_color : Nat

structure Mouse where
  initialized : Bool
  gUseMouse : Bool
  gDisplayMousePointer : Bool
  old_mouse_x : Int
  old_mouse_y : Int
  new_mouse_x : Int
  new_mouse_y : Int
  clear_mousebox : Bool
  is_pressed : Bool
  is_dragging : Bool
  mouse_hover : Option Hover

def unsigned (n : Int) : Nat :=
  (n % 2 ^ 64).toNat

section

variable (d : Device)

def frontbuffer_putpixel (color x y : Nat) (m : Memory) : Memory :=
  let bytes := d.bpp / 8
  let place := FRONTBUFFER_ADDRESS + (bytes * d.width * (y % 65536) + bytes * (x % 65536))
  fun a => if place ≤ a ∧ a < place + bytes then .ofNat (color / 256 ^ (a - place)) else m a

def frontbuffer_draw_horizontal_line (x1 y x2 color : Nat) (m : Memory) : Memory :=
  if x1 < x2 then
    frontbuffer_draw_horizontal_line (x1 + 1) y x2 color (frontbuffer_putpixel d color x1 y m)
  else m
termination_by x2 - x1

def paintLines (line : Nat → Memory → Memory) (bottom Y internal_height : Nat) (m : Memory) :
    Memory :=
  let m := line Y m
  if Y + 1 > bottom then m
  else
    let internal_height := (internal_height + (2 ^ 64 - 1)) % 2 ^ 64
    if internal_height = 0 then m else paintLines line bottom (Y + 1) internal_height m
termination_by bottom - Y

def frontbuffer_draw_rectangle (x y width height color : Nat) (m : Memory) : Memory :=
  let X := x % 65536
  let Y := y % 65536
  let Width := width % 65536
  let Height := height % 65536
  if d.width = 0 ∨ d.height = 0 then m
  else
    let clipWidth := d.width % 65536
    let clipHeight := d.height % 65536
    if clipWidth > 800 then m
    else if clipHeight > 600 then m
    else
      let rectWidth := if Width > clipWidth then clipWidth else Width
      if Height > 600 then m
      else
        paintLines (fun Y => frontbuffer_draw_horizontal_line d X Y (X + rectWidth) color)
          clipHeight Y Height m

/-- The kernel stops on no screen, since each has a size and a depth it knows. -/
def gws_refresh_rectangle (x y width height : Nat) (m : Memory) : Memory :=
  (refresh_rectangle d x y width height m).getD m

/-- The size of the pointer: larger while it drags, smaller while a button is down. -/
def rectSize (p : Mouse) : Nat :=
  if p.is_pressed then if p.is_dragging then 8 + 8 else 8 - 4 else 8

def rectColor (p : Mouse) : Nat :=
  match p.mouse_hover with
  | none => COLOR_RED
  | some w => if w.magic = 1234 then w.bg_color else COLOR_RED

def direct_draw_mouse_pointer (p : Mouse) (m : Memory) : Memory :=
  frontbuffer_draw_rectangle d (unsigned p.new_mouse_x) (unsigned p.new_mouse_y) (rectSize p)
    (rectSize p) (rectColor p) m

def lowerLimit (p : Mouse) : Mouse :=
  { p with
    old_mouse_x := if p.old_mouse_x < 0 then 0 else p.old_mouse_x
    old_mouse_y := if p.old_mouse_y < 0 then 0 else p.old_mouse_y
    new_mouse_x := if p.new_mouse_x < 0 then 0 else p.new_mouse_x
    new_mouse_y := if p.new_mouse_y < 0 then 0 else p.new_mouse_y }

def rWidth : Nat := 16
def rHeight : Nat := 16

def clearMousebox (p : Mouse) (m : Memory) : Memory :=
  if p.clear_mousebox then
    gws_refresh_rectangle d (unsigned p.old_mouse_x) (unsigned p.old_mouse_y) rWidth rHeight m
  else m

def display_mouse_cursor (p : Mouse) (m : Memory) : Mouse × Memory :=
  if ¬ p.initialized then (p, m)
  else if ¬ p.gUseMouse then (p, m)
  else if ¬ p.gDisplayMousePointer then (p, m)
  else
    let p := lowerLimit p
    let m := clearMousebox d p m
    let p := { p with
      clear_mousebox := false, old_mouse_x := p.new_mouse_x, old_mouse_y := p.new_mouse_y }
    (p, direct_draw_mouse_pointer d p m)

end

variable {line : Nat → Memory → Memory} {start pitch length bottom x y width height k o : Nat}

section Footprints

variable {d : Device}

/-- The places of some columns of some lines, where a column behind the last one is on the next
line. -/
def box (d : Device) (x y width height : Nat) : Set Nat :=
  Runs (y * (d.bpp / 8 * d.width) + x * (d.bpp / 8)) (d.bpp / 8 * d.width) (d.bpp / 8 * width)
    (min height (d.height + 1 - y))

theorem putpixel_written (color x y : Nat) (m : Memory) (hx : x < 65536) (hy : y < 65536) :
    Written FRONTBUFFER_ADDRESS
      (Set.Ico (y * (d.bpp / 8 * d.width) + x * (d.bpp / 8))
        (y * (d.bpp / 8 * d.width) + (x + 1) * (d.bpp / 8))) m
      (frontbuffer_putpixel d color x y m) := by
  intro a ha
  rw [frontbuffer_putpixel, Nat.mod_eq_of_lt hx, Nat.mod_eq_of_lt hy, Nat.mul_comm _ y,
    Nat.mul_comm _ x]
  apply if_neg
  rintro ⟨hlow, hhigh⟩
  refine ha (a - FRONTBUFFER_ADDRESS) ⟨?_, ?_⟩ ?_
  · omega
  · rw [Nat.succ_mul]
    omega
  · omega

theorem draw_horizontal_line_written (x1 y x2 color : Nat) (m : Memory) (hx : x2 ≤ 65536)
    (hy : y < 65536) :
    Written FRONTBUFFER_ADDRESS
      (Set.Ico (y * (d.bpp / 8 * d.width) + x1 * (d.bpp / 8))
        (y * (d.bpp / 8 * d.width) + x2 * (d.bpp / 8))) m
      (frontbuffer_draw_horizontal_line d x1 y x2 color m) := by
  induction hn : x2 - x1 generalizing x1 m with
  | zero =>
      rw [frontbuffer_draw_horizontal_line, if_neg (by omega)]
      exact written_refl _ _ _
  | succ n ih =>
      rw [frontbuffer_draw_horizontal_line, if_pos (by omega)]
      have hpixel := putpixel_written (d := d) color x1 y m (by omega) hy
      refine (hpixel.mono ?_).trans ((ih (x1 + 1) _ (by omega)).mono ?_)
      · exact Set.Ico_subset_Ico_right (Nat.add_le_add_left (Nat.mul_le_mul_right _ (by omega)) _)
      · exact Set.Ico_subset_Ico_left (Nat.add_le_add_left (Nat.mul_le_mul_right _ (by omega)) _)

theorem paintLines_written
    (hbottom : bottom < 65536)
    (hline : ∀ Y < 65536, ∀ m, Written FRONTBUFFER_ADDRESS
      (Set.Ico (Y * pitch + start) (Y * pitch + start + length)) m (line Y m))
    (Y height : Nat) (hheight : 0 < height) (hlt : height < 2 ^ 64) (hY : Y ≤ bottom)
    (m : Memory) :
    Written FRONTBUFFER_ADDRESS
      (Runs (Y * pitch + start) pitch length (min height (bottom + 1 - Y))) m
      (paintLines line bottom Y height m) := by
  induction hn : bottom - Y generalizing Y height m with
  | zero =>
      rw [paintLines]
      simp only
      rw [if_pos (by omega)]
      refine (hline Y (by omega) m).mono fun o ho => ⟨0, by omega, ?_⟩
      rw [Nat.zero_mul]
      exact ho
  | succ n ih =>
      have hnext : (height + (2 ^ 64 - 1)) % 2 ^ 64 = height - 1 := by omega
      have hfirst := hline Y (by omega) m
      obtain ⟨k, hk⟩ : ∃ k, min height (bottom + 1 - Y) = k + 1 :=
        ⟨min height (bottom + 1 - Y) - 1, by omega⟩
      rw [paintLines]
      simp only
      rw [if_neg (by omega), hnext, hk, runs_succ]
      split
      · exact hfirst.mono Set.subset_union_left
      · have hrest := ih (Y + 1) (height - 1) (by omega) (by omega) (by omega) (line Y m) (by omega)
        have hlines : min (height - 1) (bottom + 1 - (Y + 1)) = k := by omega
        have hstart : (Y + 1) * pitch + start = Y * pitch + start + pitch := by
          rw [Nat.succ_mul]
          omega
        rw [hlines, hstart] at hrest
        exact (hfirst.mono Set.subset_union_left).trans (hrest.mono Set.subset_union_right)

theorem line_written (color x w Y : Nat) (m : Memory) (hx : x + w ≤ 65536) (hY : Y < 65536) :
    Written FRONTBUFFER_ADDRESS
      (Set.Ico (Y * (d.bpp / 8 * d.width) + x * (d.bpp / 8))
        (Y * (d.bpp / 8 * d.width) + x * (d.bpp / 8) + d.bpp / 8 * w)) m
      (frontbuffer_draw_horizontal_line d x Y (x + w) color m) := by
  refine (draw_horizontal_line_written x Y (x + w) color m hx hY).mono ?_
  rw [Nat.add_mul, Nat.mul_comm w, ← Nat.add_assoc]

theorem draw_rectangle_written (color : Nat) (m : Memory) (hx : x < 65536)
    (hright : x + width ≤ 65536) (hy : y ≤ d.height) (hpos : 0 < height)
    (hheight : height < 65536) :
    Written FRONTBUFFER_ADDRESS (box d x y width height) m
      (frontbuffer_draw_rectangle d x y width height color m) := by
  have hlt := d.height_lt
  have hnone := written_refl FRONTBUFFER_ADDRESS (box d x y width height) m
  simp only [frontbuffer_draw_rectangle]
  split
  · exact hnone
  split
  · exact hnone
  split
  · exact hnone
  split
  · exact hnone
  rw [Nat.mod_eq_of_lt hlt, Nat.mod_eq_of_lt hheight, Nat.mod_eq_of_lt hx,
    Nat.mod_eq_of_lt (show y < 65536 by omega)]
  generalize hw : (if width % 65536 > d.width % 65536 then d.width % 65536 else width % 65536) = w
  have hle : w ≤ width := by
    rw [← hw]
    split <;> omega
  have hline := fun Y hY m => line_written (d := d) color x w Y m (by omega) hY
  refine (paintLines_written hlt hline y height hpos (by omega) hy m).mono ?_
  exact runs_subset (Nat.mul_le_mul_left _ hle) le_rfl

theorem putpixel_paints (color x y : Nat) (m : Memory) (hx : x < 65536) (hy : y < 65536)
    (hk : k < d.bpp / 8) :
    frontbuffer_putpixel d color x y m
      (FRONTBUFFER_ADDRESS + (y * (d.bpp / 8 * d.width) + x * (d.bpp / 8) + k)) =
        .ofNat (color / 256 ^ k) := by
  rw [frontbuffer_putpixel, Nat.mod_eq_of_lt hx, Nat.mod_eq_of_lt hy, Nat.mul_comm _ y,
    Nat.mul_comm _ x]
  dsimp only
  rw [if_pos (by omega)]
  congr 3
  omega

theorem draw_horizontal_line_paints (x1 y x2 color : Nat) (m : Memory) (hx : x2 ≤ 65536)
    (hy : y < 65536) (hlow : x1 ≤ x) (hhigh : x < x2) (hk : k < d.bpp / 8) :
    frontbuffer_draw_horizontal_line d x1 y x2 color m
      (FRONTBUFFER_ADDRESS + (y * (d.bpp / 8 * d.width) + x * (d.bpp / 8) + k)) =
        .ofNat (color / 256 ^ k) := by
  induction hn : x2 - x1 generalizing x1 m with
  | zero => omega
  | succ n ih =>
      rw [frontbuffer_draw_horizontal_line, if_pos (by omega)]
      obtain rfl | hlater := Nat.eq_or_lt_of_le hlow
      · rw [(draw_horizontal_line_written (x1 + 1) y x2 color _ hx hy).outside]
        · exact putpixel_paints color x1 y m (by omega) hy hk
        · rintro ⟨hnext, _⟩
          rw [Nat.succ_mul] at hnext
          omega
      · exact ih (x1 + 1) _ hlater (by omega)

theorem paintLines_paints
    (hbottom : bottom < 65536) (hlength : length ≤ pitch)
    (hline : ∀ Y < 65536, ∀ m, Written FRONTBUFFER_ADDRESS
      (Set.Ico (Y * pitch + start) (Y * pitch + start + length)) m (line Y m))
    {c : Nat} (hc : c < length) {value : UInt8}
    (hvalue : ∀ Y < 65536, ∀ m, line Y m (FRONTBUFFER_ADDRESS + (Y * pitch + start + c)) = value)
    (Y height : Nat) (hheight : 0 < height) (hlt : height < 2 ^ 64) (hY : Y ≤ bottom)
    (m : Memory) (hlow : Y ≤ y) (hhigh : y < Y + height) (hlast : y ≤ bottom) :
    paintLines line bottom Y height m (FRONTBUFFER_ADDRESS + (y * pitch + start + c)) = value := by
  induction hn : bottom - Y generalizing Y height m with
  | zero =>
      obtain rfl : y = Y := by omega
      rw [paintLines]
      dsimp only
      rw [if_pos (by omega)]
      exact hvalue y (by omega) m
  | succ n ih =>
      have hnext : (height + (2 ^ 64 - 1)) % 2 ^ 64 = height - 1 := by omega
      rw [paintLines]
      dsimp only
      rw [if_neg (by omega), hnext]
      obtain rfl | hlater := Nat.eq_or_lt_of_le hlow
      · split
        · exact hvalue Y (by omega) m
        · have hrest := paintLines_written hbottom hline (Y + 1) (height - 1) (by omega) (by omega)
            (by omega) (line Y m)
          rw [hrest.outside]
          · exact hvalue Y (by omega) m
          · rintro ⟨j, _, hrow, _⟩
            rw [Nat.succ_mul] at hrow
            omega
      · rw [if_neg (by omega)]
        exact ih (Y + 1) (height - 1) (by omega) (by omega) (by omega) (line Y m) hlater (by omega)
          (by omega)

theorem draw_rectangle_paints (color : Nat) (m : Memory) (hscreen : d.width ≤ 800 ∧ d.height ≤ 600)
    (hright : x + width ≤ d.width) (hy : y ≤ d.height) (hheight : height ≤ 600) {px py : Nat}
    (hpx : x ≤ px ∧ px < x + width) (hpy : y ≤ py ∧ py < y + height) (hlast : py ≤ d.height)
    (hk : k < d.bpp / 8) :
    frontbuffer_draw_rectangle d x y width height color m
      (FRONTBUFFER_ADDRESS + (py * (d.bpp / 8 * d.width) + px * (d.bpp / 8) + k)) =
        .ofNat (color / 256 ^ k) := by
  have hpos := d.width_pos
  have hpos' := d.height_pos
  have hclipWidth : d.width % 65536 = d.width := Nat.mod_eq_of_lt (by omega)
  have hclipHeight : d.height % 65536 = d.height := Nat.mod_eq_of_lt (by omega)
  simp only [frontbuffer_draw_rectangle]
  rw [hclipWidth, hclipHeight, Nat.mod_eq_of_lt (show x < 65536 by omega),
    Nat.mod_eq_of_lt (show y < 65536 by omega), Nat.mod_eq_of_lt (show width < 65536 by omega),
    Nat.mod_eq_of_lt (show height < 65536 by omega), if_neg (by omega), if_neg (by omega),
    if_neg (by omega), if_neg (by omega), if_neg (by omega)]
  have hcolumn : py * (d.bpp / 8 * d.width) + px * (d.bpp / 8) + k =
      py * (d.bpp / 8 * d.width) + x * (d.bpp / 8) + ((px - x) * (d.bpp / 8) + k) := by
    have hsplit : px * (d.bpp / 8) = x * (d.bpp / 8) + (px - x) * (d.bpp / 8) := by
      rw [← Nat.add_mul]
      congr 1
      omega
    omega
  have hlength : (px - x) * (d.bpp / 8) + k < d.bpp / 8 * width := by
    have hle := Nat.mul_le_mul_right (d.bpp / 8) (show px - x + 1 ≤ width by omega)
    rw [Nat.succ_mul, Nat.mul_comm width] at hle
    omega
  have hline := fun Y hY m => line_written (d := d) color x width Y m (by omega) hY
  rw [hcolumn]
  refine paintLines_paints (by omega) (Nat.mul_le_mul_left _ (by omega)) hline hlength
    (fun Y hY m => ?_) y height (by omega) (by omega) hy m hpy.1 hpy.2 hlast
  have hpaints := draw_horizontal_line_paints x Y (x + width) color m (by omega) hY hpx.1 hpx.2 hk
  rw [← hpaints]
  congr 2
  rw [Nat.add_assoc, Nat.add_assoc]
  congr 1
  omega

theorem gws_refresh_rectangle_copied (x y width height : Nat) (m : Memory) :
    Copied FRONTBUFFER_ADDRESS DISTANCE
      (box d (x % 65536) (y % 65536) (width % 65536) (height % 65536)) m
      (gws_refresh_rectangle d x y width height m) := by
  obtain ⟨m', hcall, hcopied⟩ := copied_refresh (bytes_count_eq d) x y width height m
  rw [gws_refresh_rectangle, hcall]
  exact hcopied

theorem bytes_pos (d : Device) : 0 < d.bpp / 8 := by
  rcases d.bpp_eq with h | h <;> omega

def screenBytes (d : Device) : Nat :=
  d.bpp / 8 * d.width * d.height

theorem mem_box_iff (hright : x + width ≤ d.width) (ho : o < screenBytes d) :
    o ∈ box d x y width height ↔ o ∈ common d (d.bpp / 8) x y width height := by
  have hpos := bytes_pos d
  have hpitch : 0 < d.bpp / 8 * d.width := Nat.mul_pos hpos d.width_pos
  have hlength : x * (d.bpp / 8) + d.bpp / 8 * width = (x + width) * (d.bpp / 8) := by
    rw [Nat.add_mul, Nat.mul_comm width]
  have hfits : x * (d.bpp / 8) + d.bpp / 8 * width ≤ d.bpp / 8 * d.width := by
    rw [hlength, Nat.mul_comm]
    exact Nat.mul_le_mul_left _ hright
  have hrow : o / (d.bpp / 8 * d.width) < d.height := by
    rw [Nat.div_lt_iff_lt_mul hpitch, Nat.mul_comm]
    exact ho
  rw [box, runs_eq_block hfits, common_eq hpos, Nat.min_eq_left hright, hlength]
  constructor
  · rintro ⟨hcolumn, hlow, hhigh⟩
    exact ⟨hcolumn, hlow, by omega⟩
  · rintro ⟨hcolumn, hlow, hhigh⟩
    exact ⟨hcolumn, hlow, by omega⟩

theorem box_eq_empty_iff : box d x y width height = ∅ ↔ width = 0 ∨ height = 0 ∨ d.height < y := by
  have hpos := bytes_pos d
  rw [box, runs_eq_empty_iff, Nat.mul_eq_zero]
  omega

theorem box_lt {d : Surface} (hright : x + width ≤ d.width + 16)
    (ho : o ∈ box d.toDevice x y width height) : o < DISTANCE := by
  obtain ⟨j, hj, _, hhigh⟩ := ho
  have hline : y * (d.bpp / 8 * d.width) + j * (d.bpp / 8 * d.width) ≤
      d.height * (d.bpp / 8 * d.width) := by
    rw [← Nat.add_mul]
    exact Nat.mul_le_mul_right _ (by omega)
  have hcolumn : x * (d.bpp / 8) + d.bpp / 8 * width ≤ (d.width + 16) * (d.bpp / 8) := by
    rw [Nat.mul_comm _ width, ← Nat.add_mul]
    exact Nat.mul_le_mul_right _ hright
  have hspare := d.spare
  have hsize : d.bpp / 8 * (d.width * (d.height + 1) + 16) =
      d.height * (d.bpp / 8 * d.width) + (d.width + 16) * (d.bpp / 8) := by
    ring
  omega

end Footprints

section Cursor

variable {d : Device} {p : Mouse} {m : Memory}

def Mouse.Shown (p : Mouse) : Prop :=
  p.initialized = true ∧ p.gUseMouse = true ∧ p.gDisplayMousePointer = true

instance : Decidable p.Shown :=
  inferInstanceAs (Decidable (_ ∧ _ ∧ _))

/-- The two positions are on the screen or on its lower and right borders. -/
structure Mouse.Near (d : Device) (p : Mouse) : Prop where
  old_x : 0 ≤ p.old_mouse_x ∧ p.old_mouse_x ≤ d.width
  old_y : 0 ≤ p.old_mouse_y ∧ p.old_mouse_y ≤ d.height
  new_x : 0 ≤ p.new_mouse_x ∧ p.new_mouse_x ≤ d.width
  new_y : 0 ≤ p.new_mouse_y ∧ p.new_mouse_y ≤ d.height

theorem lowerLimit_near (h : p.Near d) : lowerLimit p = p := by
  rw [lowerLimit, if_neg (by have := h.old_x; omega), if_neg (by have := h.old_y; omega),
    if_neg (by have := h.new_x; omega), if_neg (by have := h.new_y; omega)]

theorem unsigned_of_le {n : Int} (hn : 0 ≤ n ∧ n ≤ k) (hk : k < 65536) :
    unsigned n = n.toNat ∧ n.toNat % 65536 = n.toNat := by
  unfold unsigned
  omega

theorem rectSize_pos (p : Mouse) : 0 < rectSize p := by
  unfold rectSize
  split
  · split <;> omega
  · omega

theorem rectSize_le (p : Mouse) : rectSize p ≤ 16 := by
  unfold rectSize
  split
  · split <;> omega
  · omega

theorem display_hidden (h : ¬ p.Shown) : display_mouse_cursor d p m = (p, m) := by
  unfold display_mouse_cursor
  unfold Mouse.Shown at h
  split
  · rfl
  split
  · rfl
  rw [if_pos]
  grind

theorem clearMousebox_copied (hnear : p.Near d) (hclear : p.clear_mousebox = true) :
    Copied FRONTBUFFER_ADDRESS DISTANCE
      (box d p.old_mouse_x.toNat p.old_mouse_y.toNat 16 16) m (clearMousebox d p m) := by
  have hwidth := d.width_le
  have hheight := d.height_lt
  obtain ⟨hx, hx'⟩ := unsigned_of_le hnear.old_x (by omega)
  obtain ⟨hy, hy'⟩ := unsigned_of_le hnear.old_y (by omega)
  have hcopied := gws_refresh_rectangle_copied (d := d) (unsigned p.old_mouse_x)
    (unsigned p.old_mouse_y) rWidth rHeight m
  rw [hx, hx', hy, hy'] at hcopied
  rw [clearMousebox, if_pos hclear, hx, hy]
  exact hcopied

theorem clearMousebox_kept (hclear : p.clear_mousebox = false) : clearMousebox d p m = m := by
  simp [clearMousebox, hclear]

theorem display_mouse (hshown : p.Shown) (hnear : p.Near d) :
    (display_mouse_cursor d p m).1 = { p with
      clear_mousebox := false, old_mouse_x := p.new_mouse_x, old_mouse_y := p.new_mouse_y } := by
  obtain ⟨hinit, huse, hdisplay⟩ := hshown
  rw [display_mouse_cursor, if_neg (by simp [hinit]), if_neg (by simp [huse]),
    if_neg (by simp [hdisplay]), lowerLimit_near hnear]

theorem display_memory (hshown : p.Shown) (hnear : p.Near d) :
    (display_mouse_cursor d p m).2 = frontbuffer_draw_rectangle d p.new_mouse_x.toNat
      p.new_mouse_y.toNat (rectSize p) (rectSize p) (rectColor p) (clearMousebox d p m) := by
  have hwidth := d.width_le
  have hheight := d.height_lt
  obtain ⟨hx, -⟩ := unsigned_of_le hnear.new_x (by omega)
  obtain ⟨hy, -⟩ := unsigned_of_le hnear.new_y (by omega)
  obtain ⟨hinit, huse, hdisplay⟩ := hshown
  rw [display_mouse_cursor, if_neg (by simp [hinit]), if_neg (by simp [huse]),
    if_neg (by simp [hdisplay]), lowerLimit_near hnear]
  dsimp only
  rw [direct_draw_mouse_pointer, hx, hy]
  rfl

theorem display_written (hshown : p.Shown) (hnear : p.Near d) : Written FRONTBUFFER_ADDRESS
      (box d p.new_mouse_x.toNat p.new_mouse_y.toNat (rectSize p) (rectSize p))
      (clearMousebox d p m) (display_mouse_cursor d p m).2 := by
  have hwidth := d.width_le
  have hsize := rectSize_le p
  have hright := hnear.new_x
  have hbottom := hnear.new_y
  rw [display_memory hshown hnear]
  exact draw_rectangle_written _ _ (by omega) (by omega) (by omega) (rectSize_pos p) (by omega)

end Cursor

end Gramado.Ds.Pointer
