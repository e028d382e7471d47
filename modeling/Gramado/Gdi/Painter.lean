import Gramado.Library.Painting
import Mathlib.Tactic.Ring

namespace Gramado.Gdi.Painter

open Library.Painting

/-- The screen in use. The int of a byte offset holds every position a painter computes. -/
structure Device where
  width : Nat
  height : Nat
  bpp : Nat
  width_pos : 0 < width
  width_le : width ≤ 8191
  height_pos : 0 < height
  height_lt : height < 65536
  bpp_eq : bpp = 24 ∨ bpp = 32

def svga : Device :=
  ⟨800, 600, 32, by decide, by decide, by decide, by decide, .inr rfl⟩

inductive Buffer where
  | back
  | front
  deriving DecidableEq, Repr

abbrev Place := Buffer × Nat

abbrev Canvas := Place → Nat

def ROP_COPY : Nat := 0

def bytes_count (bpp : Nat) : Option Nat :=
  if bpp = 32 then some 4 else if bpp = 24 then some 3 else none

def stored (d : Device) (color : Nat) : Nat :=
  color % 2 ^ d.bpp

def place (d : Device) (buffer : Buffer) (x y : Nat) : Place :=
  (buffer, d.width * (y % 65536) + x % 65536)

section

variable (d : Device) (raster : Nat → Nat → Nat → Nat)

/-- Nothing is returned where the system stops. `raster` gives the operations other than
the copy. -/
def bldisp_putpixel0 (buffer : Buffer) (color x y rop_flags : Nat) (canvas : Canvas) :
    Option Canvas :=
  let operation := rop_flags % 256
  let target := place d buffer x y
  match bytes_count d.bpp with
  | none => none
  | some bytes =>
      let value := if operation = ROP_COPY then color else raster operation (canvas target) color
      some (Function.update canvas target (value % 256 ^ bytes))

def drawHorizontalLine (putpixel : Nat → Canvas → Option Canvas) (x1 x2 : Nat) (canvas : Canvas) :
    Option Canvas :=
  if x1 < x2 then (putpixel x1 canvas).bind (drawHorizontalLine putpixel (x1 + 1) x2)
  else some canvas
termination_by x2 - x1

def draw_horizontal_line (buffer : Buffer) (x1 y x2 color rop_flags : Nat) (canvas : Canvas) :
    Option Canvas :=
  if x1 > x2 then some canvas
  else drawHorizontalLine (fun x => bldisp_putpixel0 d raster buffer color x y rop_flags) x1 x2 canvas

def backbuffer_draw_horizontal_line (x1 y x2 color rop_flags : Nat) : Canvas → Option Canvas :=
  draw_horizontal_line d raster .back x1 y x2 color rop_flags

def frontbuffer_draw_horizontal_line (x1 y x2 color rop_flags : Nat) : Canvas → Option Canvas :=
  draw_horizontal_line d raster .front x1 y x2 color rop_flags

def paintLines (line : Nat → Canvas → Option Canvas) (bottom Y internal_height : Nat)
    (canvas : Canvas) : Option Canvas :=
  (line Y canvas).bind fun canvas =>
    if Y + 1 > bottom then some canvas
    else
      let internal_height := (internal_height + 2 ^ 64 - 1) % 2 ^ 64
      if internal_height = 0 then some canvas
      else paintLines line bottom (Y + 1) internal_height canvas
termination_by bottom - Y

def drawrectangle0 (x y width height color rop_flags : Nat) (back_or_front : Nat)
    (canvas : Canvas) : Option Canvas :=
  let X := x % 65536
  let Y := y % 65536
  let width := width % 65536
  let height := height % 65536
  if back_or_front ≠ 1 ∧ back_or_front ≠ 2 then none
  else if d.width = 0 ∨ d.height = 0 then some canvas
  else
    let clipRight := d.width % 65536
    let clipBottom := d.height % 65536
    if clipRight > 800 then none
    else if clipBottom > 600 then none
    else
      let left := X
      let right := if X + width > clipRight then clipRight else X + width
      if height > 600 then none
      -- the difference is unsigned: a left edge beyond the right one is not equal to it
      else if left = right then some canvas
      else
        paintLines (fun Y => if back_or_front = 1
          then backbuffer_draw_horizontal_line d raster left Y right color rop_flags
          else frontbuffer_draw_horizontal_line d raster left Y right color rop_flags)
          clipBottom Y height canvas

def backbuffer_draw_rectangle (x y width height color rop_flags : Nat) (canvas : Canvas) :
    Option Canvas :=
  drawrectangle0 d raster x y width height color rop_flags 1 canvas

end

variable {a x y : Nat} {buffer : Buffer} {inside : Nat → Nat → Prop}

section Specification

variable {d : Device} {raster : Nat → Nat → Nat → Nat}

theorem bytes_count_bpp (d : Device) : ∃ bytes, bytes_count d.bpp = some bytes ∧
    256 ^ bytes = 2 ^ d.bpp := by
  rcases d.bpp_eq with h | h
  · exact ⟨3, by rw [h]; rfl, by rw [h]; rfl⟩
  · exact ⟨4, by rw [h]; rfl, by rw [h]; rfl⟩

theorem paints_putpixel (buffer : Buffer) (color x y : Nat) :
    Paints (bldisp_putpixel0 d raster buffer color x y 0) {place d buffer x y} (stored d color) := by
  obtain ⟨bytes, hbytes, hsize⟩ := bytes_count_bpp d
  intro canvas
  have hput : bldisp_putpixel0 d raster buffer color x y 0 canvas =
      some (Function.update canvas (place d buffer x y) (stored d color)) := by
    have hcopy : 0 % 256 = ROP_COPY := rfl
    simp only [bldisp_putpixel0, hbytes, if_pos hcopy, hsize, stored]
  obtain ⟨canvas', hsome, hpaints⟩ := paints_update (place d buffer x y) (stored d color) canvas
  exact ⟨canvas', hput.trans hsome, hpaints⟩

theorem paints_drawHorizontalLine {putpixel : Nat → Canvas → Option Canvas} {at_ : Nat → Place}
    (hput : ∀ x, Paints (putpixel x) {at_ x} a) (x1 x2 : Nat) :
    Paints (drawHorizontalLine putpixel x1 x2) (at_ '' Set.Ico x1 x2) a := by
  induction hn : x2 - x1 generalizing x1 with
  | zero =>
      have hstop : drawHorizontalLine putpixel x1 x2 = fun canvas => some canvas := by
        funext canvas
        rw [drawHorizontalLine, if_neg (by omega)]
      rw [hstop]
      exact (paints_empty a).congr (by rw [Set.Ico_eq_empty (by omega), Set.image_empty])
  | succ n ih =>
      have hnext : drawHorizontalLine putpixel x1 x2 =
          fun canvas => (putpixel x1 canvas).bind (drawHorizontalLine putpixel (x1 + 1) x2) := by
        funext canvas
        rw [drawHorizontalLine, if_pos (by omega)]
      rw [hnext]
      refine ((hput x1).bind (ih (x1 + 1) (by omega))).congr ?_
      rw [← Set.image_singleton, ← Set.image_union]
      congr 1
      ext x
      simp only [Set.mem_union, Set.mem_singleton_iff, Set.mem_Ico]
      omega

theorem paints_line (buffer : Buffer) (x1 y x2 color : Nat) :
    Paints (draw_horizontal_line d raster buffer x1 y x2 color 0)
      ((fun x => place d buffer x y) '' Set.Ico x1 x2) (stored d color) := by
  rcases Nat.lt_or_ge x2 x1 with h | h
  · have hnone : draw_horizontal_line d raster buffer x1 y x2 color 0 = fun canvas => some canvas := by
      funext canvas
      rw [draw_horizontal_line, if_pos h]
    rw [hnone]
    exact (paints_empty _).congr (by rw [Set.Ico_eq_empty (by omega), Set.image_empty])
  · have hline : draw_horizontal_line d raster buffer x1 y x2 color 0 =
        drawHorizontalLine (fun x => bldisp_putpixel0 d raster buffer color x y 0) x1 x2 := by
      funext canvas
      rw [draw_horizontal_line, if_neg (by omega)]
    rw [hline]
    exact paints_drawHorizontalLine (fun x => paints_putpixel buffer color x y) x1 x2

/-- The rows the painting loop reaches. A height of zero counts down from the largest number. -/
def Rows (top height bottom : Nat) : Set Nat :=
  {r | top ≤ r ∧ (r = top ∨ r ≤ bottom ∧ (height = 0 ∨ r < top + height))}

theorem paints_paintLines {line : Nat → Canvas → Option Canvas} {lit : Nat → Set Place}
    (hline : ∀ Y, Paints (line Y) (lit Y) a) {bottom : Nat} (hbottom : bottom < 2 ^ 64)
    (Y height : Nat) (hheight : height < 2 ^ 64) :
    Paints (paintLines line bottom Y height) (⋃ r ∈ Rows Y height bottom, lit r) a := by
  induction hn : bottom - Y generalizing Y height with
  | zero =>
      have hone : paintLines line bottom Y height = fun canvas => (line Y canvas).bind some := by
        funext canvas
        rw [paintLines]
        simp only [if_pos (show Y + 1 > bottom by omega)]
      have hrows : Rows Y height bottom = {Y} := by
        ext r
        simp only [Rows, Set.mem_ofPred_eq, Set.mem_singleton_iff]
        omega
      rw [hone, hrows, Set.biUnion_singleton]
      exact ((hline Y).bind (paints_empty a)).congr (Set.union_empty _)
  | succ n ih =>
      rcases Nat.eq_or_lt_of_le (Nat.zero_le ((height + 2 ^ 64 - 1) % 2 ^ 64)) with hzero | hmore
      · have hone : paintLines line bottom Y height = fun canvas => (line Y canvas).bind some := by
          funext canvas
          rw [paintLines]
          simp only [if_neg (show ¬ Y + 1 > bottom by omega), if_pos hzero.symm]
        have hrows : Rows Y height bottom = {Y} := by
          ext r
          simp only [Rows, Set.mem_ofPred_eq, Set.mem_singleton_iff]
          omega
        rw [hone, hrows, Set.biUnion_singleton]
        exact ((hline Y).bind (paints_empty a)).congr (Set.union_empty _)
      · have hnext : paintLines line bottom Y height = fun canvas => (line Y canvas).bind
            (paintLines line bottom (Y + 1) ((height + 2 ^ 64 - 1) % 2 ^ 64)) := by
          funext canvas
          rw [paintLines]
          simp only [if_neg (show ¬ Y + 1 > bottom by omega), if_neg (Nat.ne_of_gt hmore)]
        have hrows : Rows Y height bottom =
            insert Y (Rows (Y + 1) ((height + 2 ^ 64 - 1) % 2 ^ 64) bottom) := by
          ext r
          simp only [Rows, Set.mem_ofPred_eq, Set.mem_insert_iff]
          omega
        rw [hnext, hrows, Set.biUnion_insert]
        exact (hline Y).bind (ih (Y + 1) _ (Nat.mod_lt _ (by decide)) (by omega))

def region (d : Device) (buffer : Buffer) (inside : Nat → Nat → Prop) : Set Place :=
  {p | p.1 = buffer ∧ inside (p.2 % d.width) (p.2 / d.width)}

theorem mem_region (hx : x < d.width) :
    (buffer, d.width * y + x) ∈ region d buffer inside ↔ inside x y := by
  change buffer = buffer ∧ inside _ _ ↔ _
  rw [Nat.mul_add_mod, Nat.mod_eq_of_lt hx, Nat.mul_add_div d.width_pos, Nat.div_eq_of_lt hx,
    Nat.add_zero]
  exact ⟨fun h => h.2, fun h => ⟨rfl, h⟩⟩

theorem mem_region_place (hx : x < d.width) (hy : y < 65536) :
    place d buffer x y ∈ region d buffer inside ↔ inside x y := by
  have hwidth := d.width_le
  rw [place, Nat.mod_eq_of_lt hy, Nat.mod_eq_of_lt (a := x) (by omega)]
  exact mem_region hx

theorem place_column_row (p : Place) : p = (p.1, d.width * (p.2 / d.width) + p.2 % d.width) := by
  rw [Nat.div_add_mod]

theorem paints_drawrectangle0 {width height : Nat} (color : Nat) (hwidth : d.width ≤ 800)
    (hheight : d.height ≤ 600) (hrows : height % 65536 ≤ 600) :
    Paints (backbuffer_draw_rectangle d raster x y width height color 0)
      (region d .back fun column row => x % 65536 ≤ column ∧ column < x % 65536 + width % 65536 ∧
        row ∈ Rows (y % 65536) (height % 65536) d.height) (stored d color) := by
  have hw := d.width_pos
  have hh := d.height_pos
  have hmodw : d.width % 65536 = d.width := Nat.mod_eq_of_lt (by omega)
  have hmodh : d.height % 65536 = d.height := Nat.mod_eq_of_lt (by omega)
  generalize hX : x % 65536 = X
  generalize hY : y % 65536 = Y
  generalize hW : width % 65536 = w at *
  generalize hH : height % 65536 = h at *
  have hcolumn : ∀ n, n % d.width < d.width := fun n => Nat.mod_lt n hw
  by_cases hempty : X = if X + w > d.width then d.width else X + w
  · have hnone : backbuffer_draw_rectangle d raster x y width height color 0 =
        fun canvas => some canvas := by
      funext canvas
      simp only [backbuffer_draw_rectangle, drawrectangle0, hmodw, hmodh, hX, hY, hW, hH]
      rw [if_neg (by omega), if_neg (by omega), if_neg (by omega), if_neg (by omega),
        if_neg (by omega), if_pos hempty]
    rw [hnone]
    refine (paints_empty _).congr (Set.eq_empty_of_forall_notMem ?_).symm
    rintro p ⟨-, hlow, hhigh, -⟩
    have := hcolumn p.2
    split at hempty <;> omega
  · have hlines : backbuffer_draw_rectangle d raster x y width height color 0 =
        paintLines (fun Y => draw_horizontal_line d raster .back X Y
          (if X + w > d.width then d.width else X + w) color 0) d.height Y h := by
      funext canvas
      simp only [backbuffer_draw_rectangle, drawrectangle0, hmodw, hmodh, hX, hY, hW, hH]
      rw [if_neg (by omega), if_neg (by omega), if_neg (by omega), if_neg (by omega),
        if_neg (by omega), if_neg hempty]
      simp only [if_pos]
      rfl
    rw [hlines]
    refine (paints_paintLines (fun r => paints_line .back X r _ color) (by omega) Y h
      (by omega)).congr ?_
    ext p
    simp only [Set.mem_iUnion, Set.mem_image, Set.mem_Ico, exists_prop]
    constructor
    · rintro ⟨r, hr, c, ⟨hlow, hhigh⟩, rfl⟩
      have hc : c < d.width ∧ c < X + w := by
        split at hhigh <;> omega
      have hrbound : r < 65536 := by
        have := hr.2
        omega
      rw [mem_region_place hc.1 hrbound]
      exact ⟨hlow, hc.2, hr⟩
    · rintro ⟨hbuffer, hlow, hhigh, hr⟩
      have hc := hcolumn p.2
      have hrbound : p.2 / d.width < 65536 := by
        have := hr.2
        omega
      refine ⟨_, hr, p.2 % d.width, ⟨hlow, ?_⟩, ?_⟩
      · split <;> omega
      · rw [place, Nat.mod_eq_of_lt hrbound, Nat.mod_eq_of_lt (a := p.2 % d.width) (by omega),
          ← hbuffer]
        exact (place_column_row p).symm

end Specification

end Gramado.Gdi.Painter
