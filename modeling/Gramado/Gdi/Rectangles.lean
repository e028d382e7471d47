import Mathlib
import Gramado.Gdi.Painter

/-! Rectangles in the back buffer, with the number of pixels that the calls return. -/

namespace Gramado.Gdi.Rectangles

open Library.Painting Gdi.Painter

structure Screen extends Device where
  width_small : width ≤ 800
  height_small : height ≤ 600

section

variable (d : Device) (raster : Nat → Nat → Nat → Nat)

def putpixel (buffer : Buffer) (color x y rop_flags : Nat) (canvas : Canvas) :
    Option (Nat × Canvas) :=
  (bldisp_putpixel0 d raster buffer color x y rop_flags canvas).map fun canvas => (1, canvas)

def drawLine (put : Nat → Canvas → Option (Nat × Canvas)) (x1 x2 n2 : Nat) (canvas : Canvas) :
    Option (Nat × Canvas) :=
  if x1 < x2 then (put x1 canvas).bind fun o => drawLine put (x1 + 1) x2 (n2 + o.1) o.2
  else some (n2, canvas)
termination_by x2 - x1

def horizontal_line (buffer : Buffer) (x1 y x2 color rop_flags : Nat) (canvas : Canvas) :
    Option (Nat × Canvas) :=
  if x1 > x2 then some (0, canvas)
  else
    (drawLine (fun x => putpixel d raster buffer color x y rop_flags) x1 x2 0 canvas).map fun o =>
      (if o.1 < x2 - x1 then o.1 else x2 - x1, o.2)

def countDown (height : Nat) : Nat :=
  (height + 2 ^ 64 - 1) % 2 ^ 64

def paintLoop (line : Nat → Canvas → Option (Nat × Canvas))
    (bottom Y internal_height npixels : Nat) (canvas : Canvas) : Option (Nat × Canvas) :=
  (line Y canvas).bind fun o =>
    if Y + 1 > bottom then some (npixels + o.1, o.2)
    else
      let internal_height := countDown internal_height
      if internal_height = 0 then some (npixels + o.1, o.2)
      else paintLoop line bottom (Y + 1) internal_height (npixels + o.1) o.2
termination_by bottom - Y

def drawrectangle0 (x y width height color rop_flags : Nat) (back_or_front : Nat)
    (canvas : Canvas) : Option (Nat × Canvas) :=
  let X := x % 65536
  let Y := y % 65536
  let width := width % 65536
  let height := height % 65536
  if back_or_front ≠ 1 ∧ back_or_front ≠ 2 then none
  else if d.width = 0 ∨ d.height = 0 then some (0, canvas)
  else
    let clipRight := d.width % 65536
    let clipBottom := d.height % 65536
    if clipRight > 800 then none
    else if clipBottom > 600 then none
    else
      let left := X
      let right := if X + width > clipRight then clipRight else X + width
      if height > 600 then none
      -- the difference is unsigned: a left edge beyond the right one is not equal to it
      else if left = right then some (0, canvas)
      else
        paintLoop (fun Y => if back_or_front = 1
          then horizontal_line d raster .back left Y right color rop_flags
          else horizontal_line d raster .front left Y right color rop_flags)
          clipBottom Y height 0 canvas

def backbuffer_draw_rectangle (x y width height color rop_flags : Nat) :
    Canvas → Option (Nat × Canvas) :=
  drawrectangle0 d raster x y width height color rop_flags 1

def frontbuffer_draw_rectangle (x y width height color rop_flags : Nat) :
    Canvas → Option (Nat × Canvas) :=
  drawrectangle0 d raster x y width height color rop_flags 2

/-- What the raster operation stores where `old` was stored. -/
def combined (rop_flags color old : Nat) : Nat :=
  (if rop_flags % 256 = ROP_COPY then color else raster (rop_flags % 256) old color) % 2 ^ d.bpp

end

variable {put : Nat → Canvas → Option (Nat × Canvas)} {buffer : Buffer}
  {x y x2 x1 height width top bottom color rop_flags : Nat} {d : Screen}
  {raster : Nat → Nat → Nat → Nat} {canvas : Canvas}

section Forgetting

variable {d : Device} {raster : Nat → Nat → Nat → Nat}

end Forgetting

section Specification

variable {d : Device} {raster : Nat → Nat → Nat → Nat}

theorem rewrites_putpixel (buffer : Buffer) (color x y rop_flags : Nat) :
    Rewrites (putpixel d raster buffer color x y rop_flags) {place d buffer x y} 1
      (combined d raster rop_flags color) := by
  obtain ⟨bytes, hbytes, hsize⟩ := bytes_count_bpp d
  intro canvas
  have hput : putpixel d raster buffer color x y rop_flags canvas =
      some (1, Function.update canvas (place d buffer x y)
        (combined d raster rop_flags color (canvas (place d buffer x y)))) := by
    simp only [putpixel, bldisp_putpixel0, hbytes, hsize, combined, Option.map_some]
  obtain ⟨canvas', hsome, hrewrites⟩ :=
    rewrites_update (place d buffer x y) 1 (combined d raster rop_flags color) canvas
  exact ⟨canvas', hput.trans hsome, hrewrites⟩

theorem place_injective {x' y' : Nat} (hx : x < d.width) (hx' : x' < d.width) (hy : y < 65536)
    (hy' : y' < 65536) (h : place d buffer x y = place d buffer x' y') :
    x = x' ∧ y = y' := by
  have hsame : ∀ p, place d buffer x y ∈ region d buffer p ↔
      place d buffer x' y' ∈ region d buffer p := fun p => by rw [h]
  have hat := (hsame fun column row => column = x ∧ row = y).mp
    ((mem_region_place hx hy).mpr ⟨rfl, rfl⟩)
  rw [mem_region_place hx' hy'] at hat
  exact ⟨hat.1.symm, hat.2.symm⟩

theorem rewrites_drawLine {at_ : Nat → Place} {r : Nat → Nat}
    (hput : ∀ x, Rewrites (put x) {at_ x} 1 r) (hinj : Set.InjOn at_ (Set.Iio x2)) (x1 n2 : Nat) :
    Rewrites (drawLine put x1 x2 n2) (at_ '' Set.Ico x1 x2) (n2 + (x2 - x1)) r := by
  induction hn : x2 - x1 generalizing x1 n2 with
  | zero =>
      have hstop : drawLine put x1 x2 n2 = fun canvas => some (n2, canvas) := by
        funext canvas
        rw [drawLine, if_neg (by omega)]
      rw [hstop]
      refine (rewrites_empty n2 r).congr ?_ rfl
      rw [Set.Ico_eq_empty (by omega), Set.image_empty]
  | succ n ih =>
      have hnext : drawLine put x1 x2 n2 = fun canvas =>
          (put x1 canvas).bind fun o => drawLine put (x1 + 1) x2 (n2 + o.1) o.2 := by
        funext canvas
        rw [drawLine, if_pos (by omega)]
      have hrest := ih (x1 + 1) (n2 + 1) (by omega)
      have hsplit : {at_ x1} ∪ at_ '' Set.Ico (x1 + 1) x2 = at_ '' Set.Ico x1 x2 := by
        rw [← Set.image_singleton, ← Set.image_union]
        congr 1
        ext x
        simp only [Set.mem_union, Set.mem_singleton_iff, Set.mem_Ico]
        omega
      rw [hnext]
      refine (Rewrites.bind (k := fun m => drawLine put (x1 + 1) x2 (n2 + m)) (hput x1) hrest
        ?_).congr hsplit (by omega)
      rw [Set.disjoint_singleton_left]
      rintro ⟨x, ⟨hlow, hhigh⟩, hx⟩
      have hsame := hinj hhigh (Set.mem_Iio.mpr (show x1 < x2 by omega)) hx
      omega

theorem rewrites_line (buffer : Buffer) (color rop_flags : Nat) (hx2 : x2 ≤ d.width)
    (hy : y < 65536) :
    Rewrites (horizontal_line d raster buffer x1 y x2 color rop_flags)
      ((fun x => place d buffer x y) '' Set.Ico x1 x2) (x2 - x1)
      (combined d raster rop_flags color) := by
  rcases Nat.lt_or_ge x2 x1 with h | h
  · have hnone : horizontal_line d raster buffer x1 y x2 color rop_flags =
        fun canvas => some (0, canvas) := by
      funext canvas
      rw [horizontal_line, if_pos h]
    rw [hnone]
    refine (rewrites_empty 0 _).congr ?_ (by omega)
    rw [Set.Ico_eq_empty (by omega), Set.image_empty]
  · have hline : horizontal_line d raster buffer x1 y x2 color rop_flags = fun canvas =>
        (drawLine (fun x => putpixel d raster buffer color x y rop_flags) x1 x2 0 canvas).map
          fun o => (if o.1 < x2 - x1 then o.1 else x2 - x1, o.2) := by
      funext canvas
      rw [horizontal_line, if_neg (by omega)]
    have hinj : Set.InjOn (fun x => place d buffer x y) (Set.Iio x2) := by
      intro x hx x' hx' hsame
      exact (place_injective (lt_of_lt_of_le hx hx2) (lt_of_lt_of_le hx' hx2) hy hy hsame).1
    rw [hline]
    refine ((rewrites_drawLine (fun x => rewrites_putpixel buffer color x y rop_flags) hinj
      x1 0).map fun n => if n < x2 - x1 then n else x2 - x1).congr rfl ?_
    split <;> omega

def lineCount (top height bottom : Nat) : Nat :=
  max 1 (if height = 0 then bottom + 1 - top else min height (bottom + 1 - top))

theorem countDown_eq (hheight : height < 2 ^ 64) :
    countDown height = if height = 0 then 2 ^ 64 - 1 else height - 1 := by
  unfold countDown
  split <;> omega

theorem countDown_eq_zero (hheight : height < 2 ^ 64) : countDown height = 0 ↔ height = 1 := by
  unfold countDown
  omega

section Loop

variable {line : Nat → Canvas → Option (Nat × Canvas)} {lit : Nat → Set Place} {r : Nat → Nat}
  {k bottom Y height n : Nat}

theorem rewrites_lastLine (hline : Rewrites (line Y) (lit Y) k r) (hheight : height < 2 ^ 64)
    (hlast : bottom < Y + 1 ∨ height = 1) :
    Rewrites (paintLoop line bottom Y height n) (⋃ row ∈ Rows Y height bottom, lit row)
      (n + k * lineCount Y height bottom) r := by
  have hone : paintLoop line bottom Y height n = fun canvas =>
      (line Y canvas).map fun o => (n + o.1, o.2) := by
    funext canvas
    rw [paintLoop]
    cases line Y canvas with
    | none => simp
    | some o =>
        rw [Option.bind_some, Option.map_some]
        rcases hlast with hbottom | hlast
        · rw [if_pos hbottom]
        · rw [if_pos ((countDown_eq_zero hheight).mpr hlast), ite_self]
  have hrows : Rows Y height bottom = {Y} := by
    ext row
    simp only [Rows, Set.mem_ofPred_eq, Set.mem_singleton_iff]
    omega
  have hcount : lineCount Y height bottom = 1 := by
    rw [lineCount]
    split <;> omega
  rw [hone, hrows, hcount, Set.biUnion_singleton]
  exact (hline.map fun m => n + m).congr rfl (by omega)

theorem rewrites_paintLoop (hline : ∀ Y, Y < 65536 → Rewrites (line Y) (lit Y) k r)
    (hlit : ∀ Y Y', Y < 65536 → Y' < 65536 → Y ≠ Y' → Disjoint (lit Y) (lit Y'))
    (hbottom : bottom < 65536) (hY : Y < 65536) (hheight : height < 2 ^ 64) :
    Rewrites (paintLoop line bottom Y height n) (⋃ row ∈ Rows Y height bottom, lit row)
      (n + k * lineCount Y height bottom) r := by
  induction hn : bottom - Y generalizing Y height n with
  | zero => exact rewrites_lastLine (hline Y hY) hheight (.inl (by omega))
  | succ m ih =>
      rcases eq_or_ne height 1 with hlast | hmore
      · exact rewrites_lastLine (hline Y hY) hheight (.inr hlast)
      have hnext : paintLoop line bottom Y height n = fun canvas => (line Y canvas).bind
          fun o => paintLoop line bottom (Y + 1) (countDown height) (n + o.1) o.2 := by
        funext canvas
        rw [paintLoop]
        cases line Y canvas with
        | none => simp
        | some o =>
            rw [Option.bind_some, Option.bind_some, if_neg (by omega),
              if_neg fun hzero => hmore ((countDown_eq_zero hheight).mp hzero)]
      have hdown := countDown_eq hheight
      have hrows : Rows Y height bottom = insert Y (Rows (Y + 1) (countDown height) bottom) := by
        ext row
        simp only [Rows, Set.mem_ofPred_eq, Set.mem_insert_iff]
        split at hdown <;> omega
      have hcount : lineCount Y height bottom =
          1 + lineCount (Y + 1) (countDown height) bottom := by
        rw [lineCount, lineCount]
        rcases Nat.eq_zero_or_pos height with hzero | hpos
        · rw [if_pos hzero] at hdown
          rw [if_pos hzero, if_neg (by omega), hdown]
          omega
        · rw [if_neg (by omega)] at hdown
          rw [if_neg (by omega), if_neg (by omega), hdown]
          omega
      rw [hnext, hrows, hcount, Set.biUnion_insert, Nat.mul_add, Nat.mul_one, ← Nat.add_assoc]
      refine Rewrites.bind (k := fun m => paintLoop line bottom (Y + 1) (countDown height) (n + m))
        (hline Y hY) (ih (by omega) (by split at hdown <;> omega) (by omega)) ?_
      rw [Set.disjoint_iUnion₂_right]
      intro row hrow
      obtain ⟨hlow, hhigh⟩ := hrow
      exact hlit Y row hY (by omega) (by omega)

end Loop

theorem disjoint_lines {Y Y' : Nat} (hx2 : x2 ≤ d.width) (hY : Y < 65536) (hY' : Y' < 65536)
    (hne : Y ≠ Y') :
    Disjoint ((fun x => place d buffer x Y) '' Set.Ico x1 x2)
      ((fun x => place d buffer x Y') '' Set.Ico x1 x2) := by
  rw [Set.disjoint_left]
  rintro p ⟨x, ⟨_, hx⟩, rfl⟩ ⟨x', ⟨_, hx'⟩, hsame⟩
  exact hne (place_injective (lt_of_lt_of_le hx' hx2) (lt_of_lt_of_le hx hx2) hY' hY hsame).2.symm

/-- The pixels of the columns from `x1` to `x2` in some rows. -/
def block (d : Device) (buffer : Buffer) (x1 x2 : Nat) (rows : Set Nat) : Set Place :=
  region d buffer fun column row => (x1 ≤ column ∧ column < x2) ∧ row ∈ rows

theorem block_eq_empty (h : x2 ≤ x1) (rows : Set Nat) : block d buffer x1 x2 rows = ∅ := by
  apply Set.eq_empty_of_forall_notMem
  rintro p ⟨-, hcolumn, -⟩
  omega

theorem iUnion_lines {rows : Set Nat} (hx2 : x2 ≤ d.width) (hrows : ∀ row ∈ rows, row < 65536) :
    (⋃ row ∈ rows, (fun x => place d buffer x row) '' Set.Ico x1 x2) =
      block d buffer x1 x2 rows := by
  have hwidth := d.width_le
  ext p
  simp only [Set.mem_iUnion, Set.mem_image, Set.mem_Ico, exists_prop]
  constructor
  · rintro ⟨row, hrow, column, hcolumn, rfl⟩
    exact (mem_region_place (by omega) (hrows row hrow)).mpr ⟨hcolumn, hrow⟩
  · rintro ⟨hbuffer, hcolumn, hrow⟩
    refine ⟨_, hrow, p.2 % d.width, hcolumn, ?_⟩
    rw [place, Nat.mod_eq_of_lt (hrows _ hrow), Nat.mod_eq_of_lt (a := p.2 % d.width) (by omega),
      ← hbuffer]
    exact (place_column_row p).symm

theorem rewrites_rectangle (d : Screen) (raster : Nat → Nat → Nat → Nat) (color rop_flags : Nat)
    (hx : x < 65536) (hy : y < 65536) (hwidth : width < 65536) (hheight : height ≤ 600) :
    Rewrites (backbuffer_draw_rectangle d.toDevice raster x y width height color rop_flags)
      (block d.toDevice .back x (min (x + width) d.width) (Rows y height d.height))
      ((min (x + width) d.width - x) * lineCount y height d.height)
      (combined d.toDevice raster rop_flags color) := by
  have hw := d.width_pos
  have hh := d.height_pos
  have hsmall := d.width_small
  have hlow := d.height_small
  have hmodw : d.width % 65536 = d.width := Nat.mod_eq_of_lt (by omega)
  have hmodh : d.height % 65536 = d.height := Nat.mod_eq_of_lt (by omega)
  have hright : (if x + width > d.width then d.width else x + width) = min (x + width) d.width := by
    split <;> omega
  have hcall : backbuffer_draw_rectangle d.toDevice raster x y width height color rop_flags =
      fun canvas => if x = min (x + width) d.width then some (0, canvas)
        else paintLoop (fun Y => horizontal_line d.toDevice raster .back x Y
          (min (x + width) d.width) color rop_flags) d.height y height 0 canvas := by
    funext canvas
    simp only [backbuffer_draw_rectangle, drawrectangle0, hmodw, hmodh, Nat.mod_eq_of_lt hx,
      Nat.mod_eq_of_lt hy, Nat.mod_eq_of_lt hwidth,
      Nat.mod_eq_of_lt (show height < 65536 by omega), hright]
    rw [if_neg (by omega), if_neg (by omega), if_neg (by omega), if_neg (by omega),
      if_neg (by omega)]
    rfl
  rw [hcall]
  by_cases hempty : x = min (x + width) d.width
  · simp only [if_pos hempty]
    refine (rewrites_empty 0 _).congr (block_eq_empty hempty.ge _).symm ?_
    rw [Nat.sub_eq_zero_of_le hempty.ge, Nat.zero_mul]
  · simp only [if_neg hempty]
    have hrows : ∀ row ∈ Rows y height d.height, row < 65536 := by
      rintro row ⟨-, rfl | ⟨hrow, -⟩⟩
      · exact hy
      · omega
    have hx2 : min (x + width) d.width ≤ d.toDevice.width := Nat.min_le_right _ _
    refine (rewrites_paintLoop (fun Y hY => rewrites_line .back color rop_flags hx2 hY)
      (fun Y Y' hY hY' => disjoint_lines hx2 hY hY') (by omega) hy (by omega)).congr
      (iUnion_lines hx2 hrows) (Nat.zero_add _)

theorem rectangle_panics (d : Screen) (color rop_flags : Nat) (canvas : Canvas)
    (hlow : 600 < height) (hheight : height < 65536) :
    backbuffer_draw_rectangle d.toDevice raster x y width height color rop_flags canvas = none := by
  have hw := d.width_pos
  have hh := d.height_pos
  have hsmall := d.width_small
  have hshort := d.height_small
  simp only [backbuffer_draw_rectangle, drawrectangle0, Nat.mod_eq_of_lt hheight]
  rw [if_neg (by omega), if_neg (by omega), if_neg (by omega), if_neg (by omega), if_pos hlow]

theorem ncard_block (hx2 : x2 ≤ d.width) (y1 y2 : Nat) :
    (block d buffer x1 x2 (Set.Ico y1 y2)).ncard = (x2 - x1) * (y2 - y1) := by
  let pixels := Finset.Ico x1 x2 ×ˢ Finset.Ico y1 y2
  let at_ : Nat × Nat → Place := fun c => (buffer, d.width * c.2 + c.1)
  have himage : block d buffer x1 x2 (Set.Ico y1 y2) = at_ '' ↑pixels := by
    ext p
    simp only [Set.mem_image, SetLike.mem_coe, pixels, Finset.mem_product, Finset.mem_Ico]
    constructor
    · rintro ⟨hbuffer, hcolumn, hrow⟩
      refine ⟨(p.2 % d.width, p.2 / d.width), ⟨hcolumn, hrow⟩, ?_⟩
      change (buffer, d.width * (p.2 / d.width) + p.2 % d.width) = p
      rw [← hbuffer]
      exact (place_column_row p).symm
    · rintro ⟨c, ⟨hcolumn, hrow⟩, rfl⟩
      exact (mem_region (by omega)).mpr ⟨hcolumn, hrow⟩
  have hinj : Set.InjOn at_ ↑pixels := by
    rintro ⟨c, r⟩ hc ⟨c', r'⟩ hc' hsame
    simp only [SetLike.mem_coe, pixels, Finset.mem_product, Finset.mem_Ico] at hc hc'
    have hmem : at_ (c, r) ∈ region d buffer fun column row => column = c' ∧ row = r' := by
      rw [hsame]
      exact (mem_region (by omega)).mpr ⟨rfl, rfl⟩
    obtain ⟨rfl, rfl⟩ := (mem_region (by omega)).mp hmem
    rfl
  rw [himage, Set.InjOn.ncard_image hinj, Set.ncard_coe_finset, Finset.card_product,
    Nat.card_Ico, Nat.card_Ico]

def common (d : Device) (x y width height : Nat) : Set Place :=
  region d .back fun column row =>
    (x ≤ column ∧ column < x + width) ∧ (y ≤ row ∧ row < y + height) ∧ row < d.height

theorem common_eq (x y width height : Nat) : common d x y width height =
    block d .back x (min (x + width) d.width) (Set.Ico y (min (y + height) d.height)) := by
  ext p
  have hcolumn := Nat.mod_lt p.2 d.width_pos
  change _ ∧ _ ↔ _ ∧ _
  dsimp only
  rw [Set.mem_Ico, lt_min_iff, lt_min_iff]
  constructor
  · rintro ⟨hbuffer, ⟨hx, hx'⟩, ⟨hy, hy'⟩, hrow⟩
    exact ⟨hbuffer, ⟨hx, hx', hcolumn⟩, hy, hy', hrow⟩
  · rintro ⟨hbuffer, ⟨hx, hx', _⟩, hy, hy', hrow⟩
    exact ⟨hbuffer, ⟨hx, hx'⟩, ⟨hy, hy'⟩, hrow⟩

theorem ncard_common (x y width height : Nat) : (common d x y width height).ncard =
    (min (x + width) d.width - x) * (min (y + height) d.height - y) := by
  rw [common_eq, ncard_block (Nat.min_le_right _ _)]

theorem lineCount_of_fits (hheight : height ≠ 0) (hfits : top + height ≤ bottom) :
    lineCount top height bottom = height := by
  rw [lineCount, if_neg hheight]
  omega

theorem rows_of_fits (hheight : height ≠ 0) (hfits : top + height ≤ bottom) :
    Rows top height bottom = Set.Ico top (top + height) := by
  ext row
  simp only [Rows, Set.mem_ofPred_eq, Set.mem_Ico]
  omega

theorem lineCount_eq_iff : lineCount top height bottom = min (top + height) bottom - top ↔
      height ≠ 0 ∧ top + height ≤ bottom := by
  constructor
  · intro hcount
    rw [lineCount] at hcount
    split at hcount <;> omega
  · rintro ⟨hheight, hfits⟩
    rw [lineCount_of_fits hheight hfits]
    omega

end Specification

/-- The call gives each pixel in common the value of the raster operation and no other place
another value, and it returns the number of these pixels. -/
def DrawsExactly (d : Screen) (raster : Nat → Nat → Nat → Nat) (x y width height : UInt16)
    (color rop_flags : Nat) (canvas : Canvas) : Prop :=
  ∃ canvas', backbuffer_draw_rectangle d.toDevice raster x.toNat y.toNat width.toNat height.toNat
      color rop_flags canvas =
    some ((common d.toDevice x.toNat y.toNat width.toNat height.toNat).ncard, canvas') ∧
    ∀ p, (p ∈ common d.toDevice x.toNat y.toNat width.toNat height.toNat →
        canvas' p = combined d.toDevice raster rop_flags color (canvas p)) ∧
      (p ∉ common d.toDevice x.toNat y.toNat width.toNat height.toNat → canvas' p = canvas p)

theorem DrawsExactly.count {x y width height : UInt16}
    (h : DrawsExactly d raster x y width height color rop_flags canvas)
    (hheight : height.toNat ≤ 600) :
    (min (x.toNat + width.toNat) d.width - x.toNat) *
        lineCount y.toNat height.toNat d.height =
      (min (x.toNat + width.toNat) d.width - x.toNat) *
        (min (y.toNat + height.toNat) d.height - y.toNat) := by
  obtain ⟨_, hsome, _⟩ := h
  obtain ⟨canvas', hcall, _⟩ := rewrites_rectangle d raster color rop_flags
    x.toNat_lt y.toNat_lt width.toNat_lt hheight canvas
  rw [hcall, ncard_common] at hsome
  exact congrArg Prod.fst (Option.some.inj hsome)

theorem DrawsExactly.height_le {x y width height : UInt16}
    (h : DrawsExactly d raster x y width height color rop_flags canvas) :
    height.toNat ≤ 600 := by
  by_contra hlow
  obtain ⟨_, hsome, _⟩ := h
  rw [rectangle_panics d color rop_flags canvas (by omega) height.toNat_lt] at hsome
  cases hsome

/-- The rectangle is drawn exactly if it is empty or begins beside the screen, or else has a row
and does not go on below the screen. A rectangle of more than 600 rows stops the system. -/
theorem draws_exactly_iff (d : Screen) (raster : Nat → Nat → Nat → Nat)
    (x y width height : UInt16) (color rop_flags : Nat) (canvas : Canvas) :
    DrawsExactly d raster x y width height color rop_flags canvas ↔
      height.toNat ≤ 600 ∧ (width.toNat = 0 ∨ d.width ≤ x.toNat ∨
        height.toNat ≠ 0 ∧ y.toNat + height.toNat ≤ d.height) := by
  constructor
  · intro h
    refine ⟨h.height_le, ?_⟩
    have hcount := h.count h.height_le
    rcases Nat.eq_zero_or_pos (min (x.toNat + width.toNat) d.width - x.toNat) with hnone | hcolumns
    · omega
    · exact .inr (.inr (lineCount_eq_iff.mp (Nat.eq_of_mul_eq_mul_left hcolumns hcount)))
  · rintro ⟨hlow, hcond⟩
    obtain ⟨canvas', hcall, hrewrites⟩ := rewrites_rectangle d raster color rop_flags
      x.toNat_lt y.toNat_lt width.toNat_lt hlow canvas
    refine ⟨canvas', ?_, ?_⟩
    · rw [hcall, ncard_common]
      by_cases hnone : min (x.toNat + width.toNat) d.width ≤ x.toNat
      · rw [Nat.sub_eq_zero_of_le hnone, Nat.zero_mul, Nat.zero_mul]
      · rw [lineCount_eq_iff.mpr (by omega)]
    · rw [common_eq]
      by_cases hnone : min (x.toNat + width.toNat) d.width ≤ x.toNat
      · rw [block_eq_empty hnone]
        rw [block_eq_empty hnone] at hrewrites
        exact hrewrites
      · have hfits : height.toNat ≠ 0 ∧ y.toNat + height.toNat ≤ d.height := by omega
        rw [Nat.min_eq_left hfits.2, ← rows_of_fits hfits.1 hfits.2]
        exact hrewrites

def desk : Screen where
  toDevice := svga
  width_small := by decide
  height_small := by decide

/-- A rectangle that goes on below the last row, one without rows, and one with too many. -/
theorem not_always_drawn_exactly :
    ¬ DrawsExactly desk (fun _ _ color => color) 0 599 10 2 0 0 (fun _ => 0) ∧
      ¬ DrawsExactly desk (fun _ _ color => color) 0 590 10 0 0 0 (fun _ => 0) ∧
      ¬ DrawsExactly desk (fun _ _ color => color) 0 0 10 601 0 0 (fun _ => 0) := by
  refine ⟨fun h => ?_, fun h => ?_, fun h => ?_⟩
  · exact absurd (h.count (by decide)) (by decide)
  · exact absurd (h.count (by decide)) (by decide)
  · exact absurd h.height_le (by decide)

end Gramado.Gdi.Rectangles
