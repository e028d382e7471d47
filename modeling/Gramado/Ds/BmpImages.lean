import Gramado.Ds.Bmp
import Mathlib.Data.Set.Basic

namespace Gramado.Ds.BmpImages

open Ds.Bmp Library.CheckedRead Library.Counting

def stride (width depth : Nat) : Nat :=
  (width * depth + 31) / 32 * 4

structure Image where
  file : Buffer
  type_eq : byte file 0 = 0x42 ∧ byte file 1 = 0x4D
  size_eq : (word file 2).toNat = file.length
  header_le : 40 ≤ (word file 14).toNat
  planes_eq : half file 26 = 1
  depth_eq : (half file 28).toNat ∈ [4, 8, 24, 32]
  compression_eq : word file 30 = 0

namespace Image

variable (image : Image)

def width : Nat := (word image.file 18).toNat
def height : Nat := (word image.file 22).toNat
def depth : Nat := (half image.file 28).toNat
def offBits : Nat := (word image.file 10).toNat
def clrUsed : Nat := (word image.file 46).toNat

def table : Nat := 14 + (word image.file 14).toNat

def colors : Nat :=
  if image.clrUsed = 0 ∧ image.depth ≤ 8 then 2 ^ image.depth else image.clrUsed

def row (i : Nat) : Nat := image.offBits + i * stride image.width image.depth

/-- The number of a pixel's colour in the table. The left one of two pixels is in the high
half of their byte. -/
def index (i j : Nat) : Nat :=
  if image.depth = 4 then
    let pair := (byte image.file (image.row i + j / 2)).toNat
    if j % 2 = 0 then pair / 16 else pair % 16
  else (byte image.file (image.row i + j)).toNat

def rgb (p : Nat) : Nat :=
  (byte image.file p).toNat + 256 * (byte image.file (p + 1)).toNat +
    65536 * (byte image.file (p + 2)).toNat

def pixel (i j : Nat) : Nat :=
  if image.depth ≤ 8 then image.rgb (image.table + 4 * image.index i j)
  else image.rgb (image.row i + j * (image.depth / 8))

/-- The table and the rows are in the file, the table in front of the rows, and every pixel's
colour is in the table. -/
structure WellFormed : Prop where
  table_le : image.table + 4 * image.colors ≤ image.offBits
  colors_le : image.depth ≤ 8 → image.colors ≤ 2 ^ image.depth
  rows_le : image.row image.height ≤ image.file.length
  index_lt : image.depth ≤ 8 →
    ∀ i < image.height, ∀ j < image.width, image.index i j < image.colors

end Image

def seen (canvas : Canvas) (p : Nat × Nat) : Nat :=
  (canvas p).toNat % 2 ^ 24

/-- The part of the screen from a row on in which an image of this size is seen. -/
def Area (image : Image) (x y : Nat) : Set (Nat × Nat) :=
  {p | (x ≤ p.1 ∧ p.1 < x + image.width) ∧ y ≤ p.2 ∧ p.2 < y + image.height}

/-- The decoder returns and has painted the image there, and nothing else, whatever was
decoded before and was in the back buffer. -/
def Displays (d : Display) (image : Image) (x y : Nat) : Prop :=
  ∀ (display : Bool) (s : Server), s.bmp_change_color_flag = BMP_CHANGE_COLOR_NULL →
    Returns (bmpDisplayBMP0 d (some image.file) x y 1 display s) fun o =>
      (∀ i < image.height, ∀ j < image.width,
        seen o.server.backBuffer (x + j, y + image.height - 1 - i) = image.pixel i j) ∧
      ∀ p ∉ Area image x y, o.server.backBuffer p = s.backBuffer p

section Lines

variable {d : Display} {canvas : Canvas} {color : UInt32}

theorem ensures_any {ε α β : Type} {x : Except ε α} {f : α → Except ε β} {P : β → Prop}
    (h : ∀ a, Ensures (f a) P) : Ensures (x >>= f) P :=
  Ensures.bind (Q := fun _ => True) (fun _ _ => trivial) fun a _ => h a

theorem putpixel_row (x y : Int) :
    Ensures (libdisp_backbuffer_putpixel d color x y canvas) fun canvas' =>
      ∀ p : Nat × Nat, (p.2 : Int) ≠ y → canvas' p = canvas p := by
  have hsame : Ensures (.ok canvas : Except Fault Canvas) fun canvas' =>
      ∀ p : Nat × Nat, (p.2 : Int) ≠ y → canvas' p = canvas p := ensures_ok fun _ _ => rfl
  unfold libdisp_backbuffer_putpixel fb_BackBufferPutpixel
  refine ensures_ite (fun _ => hsame) fun hx => ensures_ite (fun _ => hsame) fun hy => ?_
  refine ensures_ite (fun _ => hsame) fun _ => ensures_ite (fun _ => hsame) fun _ => ?_
  refine ensures_ite (fun _ => hsame) fun hright => ensures_ite (fun _ => hsame) fun hbelow => ?_
  have hheight := d.height_lt
  have hrow : ((y.toNat % 65536 : Nat) : Int) = y := by omega
  cases bytes_count d.libgd_SavedBPP with
  | none => exact hsame
  | some bytes =>
      refine ensures_ite (fun _ => ensures_error _) fun _ => ensures_ok fun p hp => ?_
      apply Function.update_of_ne
      rintro rfl
      exact hp hrow

/-- What the loop keeps while it is in a line: which line it is, and every other one. -/
structure Aside (s t : Loop) : Prop where
  bottom : t.bottom = s.bottom
  other : ∀ p : Nat × Nat, (p.2 : Int) ≠ int s.bottom → t.backBuffer p = s.backBuffer p

theorem Aside.refl (s : Loop) : Aside s s := ⟨rfl, fun _ _ => rfl⟩

theorem Aside.trans {s t u : Loop} (hst : Aside s t) (htu : Aside t u) : Aside s u := by
  refine ⟨htu.bottom.trans hst.bottom, fun p hp => ?_⟩
  rw [htu.other p (by rwa [hst.bottom]), hst.other p hp]

theorem nextColor_aside (bmp : Buffer) (palette bits : Nat) (s : Loop) :
    Ensures (nextColor bmp palette bits s) (Aside s) := by
  have hsame : ∀ {t : Loop}, t.bottom = s.bottom → t.backBuffer = s.backBuffer → Aside s t :=
    fun hbottom hbuffer => ⟨hbottom, fun p _ => congrFun hbuffer p⟩
  unfold nextColor
  refine ensures_ite (fun _ => ensures_any fun _ => ensures_ite (fun _ => ?_) fun _ => ?_) fun _ =>
    ensures_ite (fun _ => ?_) fun _ => ensures_ite (fun _ => ?_) fun _ =>
      ensures_ite (fun _ => ?_) fun _ => ensures_ite (fun _ => ?_) fun _ => ?_
  · exact ensures_any fun _ => ensures_any fun _ => ensures_ok (hsame rfl rfl)
  · exact ensures_any fun _ => ensures_ok (hsame rfl rfl)
  · exact ensures_any fun _ => ensures_any fun _ => ensures_any fun _ => ensures_ok (hsame rfl rfl)
  · exact ensures_any fun _ => ensures_any fun _ => ensures_any fun _ => ensures_ok (hsame rfl rfl)
  · exact ensures_any fun _ => ensures_any fun _ => ensures_any fun _ => ensures_any fun _ =>
      ensures_ok (hsame rfl rfl)
  · exact ensures_any fun _ => ensures_any fun _ => ensures_any fun _ => ensures_any fun _ =>
      ensures_any fun _ => ensures_ok (hsame rfl rfl)
  · exact ensures_ok (hsame rfl rfl)

theorem plot_aside (s : Loop) : Ensures (plot d color s.left s.bottom s) (Aside s) := by
  refine Ensures.bind (putpixel_row _ _) fun canvas' h => ensures_ok ?_
  exact ⟨rfl, h⟩

theorem putColor_aside (settings : Server) (i j : Nat) (s : Loop) :
    Ensures (putColor d settings 1 i j s) (Aside s) := by
  have hnone : Ensures (.ok s : Except Fault Loop) (Aside s) := ensures_ok (Aside.refl s)
  unfold putColor
  refine ensures_ite (fun _ => ensures_ite (fun _ => ?_) fun _ => hnone) fun _ => ?_
  · exact ensures_ite (fun _ => plot_aside s) fun h => (h rfl).elim
  · exact ensures_ite (fun _ => ensures_ite (fun _ => plot_aside s) fun _ => plot_aside s)
      fun _ => plot_aside s

variable (settings : Server) (bmp : Buffer) (palette bits : Nat)

theorem drawPixel_aside (i j : Nat) (s : Loop) :
    Ensures (drawPixel d settings bmp palette bits 1 i s j) (Aside s) := by
  refine Ensures.bind (nextColor_aside bmp palette bits s) fun t hst => ?_
  refine Ensures.bind (putColor_aside settings i j t) fun u htu => ensures_ok ?_
  exact (hst.trans htu).trans ⟨rfl, fun _ _ => rfl⟩

theorem drawLine_aside (x width i : Nat) (s : Loop) :
    Ensures (drawLine d settings bmp palette bits 1 x width s i) fun t =>
      t.bottom = (s.bottom + (2 ^ 32 - 1)) % 2 ^ 32 ∧
        ∀ p : Nat × Nat, (p.2 : Int) ≠ int s.bottom → t.backBuffer p = s.backBuffer p := by
  have hline : Ensures (count width (drawPixel d settings bmp palette bits 1 i) s) (Aside s) :=
    ensures_count (fun _ => Aside s) (Aside.refl s) fun j _ t hst =>
      (drawPixel_aside settings bmp palette bits i j t).mono fun _ => hst.trans
  refine Ensures.bind hline fun t hst => ensures_ok ⟨?_, hst.other⟩
  change (t.bottom + (2 ^ 32 - 1)) % 2 ^ 32 = _
  rw [hst.bottom]

theorem int_of_lt {n : Nat} (h : n < 2 ^ 31) : int n = n := by
  unfold int
  apply Int.bmod_eq_of_le_mul_two <;> omega

theorem drawLines_above (x y width height : Nat) (hlast : y + height < 2 ^ 31) (s : Loop)
    (hbottom : s.bottom = y + height) :
    Ensures (count height (drawLine d settings bmp palette bits 1 x width) s) fun t =>
      ∀ left, t.backBuffer (left, y) = s.backBuffer (left, y) := by
  let above (i : Nat) (t : Loop) : Prop :=
    t.bottom = y + height - i ∧ ∀ left, t.backBuffer (left, y) = s.backBuffer (left, y)
  have hstart : above 0 s := ⟨hbottom, fun _ => rfl⟩
  apply Ensures.mono (ensures_count above hstart ?_) fun _ h => h.2
  rintro i hi t ⟨hrow, hkept⟩
  refine (drawLine_aside settings bmp palette bits x width i t).mono ?_
  rintro u ⟨hnext, hother⟩
  refine ⟨by omega, fun left => ?_⟩
  rw [hother (left, y) ?_, hkept left]
  rw [hrow, int_of_lt (by omega)]
  omega

end Lines

section Topmost

variable {d : Display} {x y : Nat}

theorem row_kept (bmp : Buffer) (hy : y < 65536) (display : Bool) (s : Server) :
    Ensures (bmpDisplayBMP0 d (some bmp) x y 1 display s) fun o =>
      ∀ left, o.server.backBuffer (left, y) = s.backBuffer (left, y) := by
  have hfailed : Ensures (.ok (failed s) : Except Fault Outcome) fun o =>
      ∀ left, o.server.backBuffer (left, y) = s.backBuffer (left, y) := ensures_ok fun _ => rfl
  refine ensures_ite (fun _ => hfailed) fun _ => ?_
  refine ensures_any fun b => ensures_any fun m => ensures_ite (fun _ => hfailed) fun _ => ?_
  refine ensures_any fun _ => ensures_any fun offBits => ensures_any fun _ => ?_
  refine ensures_any fun width => ensures_any fun height => ensures_any fun bits => ?_
  refine Ensures.bind (drawLines_above s bmp _ _ x y _ _ ?_ _ ?_) fun t ht => ensures_ok ht
  · omega
  · dsimp only
    omega

variable {image : Image}

theorem not_displays (hwidth : 0 < image.width) (hheight : 0 < image.height) (hy : y < 65536) :
    ¬ Displays d image x y := by
  intro hshown
  -- the pixel of the topmost row has another colour before
  let before : UInt32 := if image.pixel (image.height - 1) 0 = 0 then 1 else 0
  obtain ⟨o, ho, hpixels, -⟩ := hshown false
    { nibble_count_16colors := 0, bmp_change_color_flag := BMP_CHANGE_COLOR_NULL,
      bmp_selected_color := 0, bmp_substitute_color := 0, backBuffer := fun _ => before } rfl
  have hcolor := hpixels (image.height - 1) (by omega) 0 hwidth
  have hplace : (x + 0, y + image.height - 1 - (image.height - 1)) = (x, y) :=
    Prod.ext (Nat.add_zero x) (by dsimp only; omega)
  rw [hplace, seen, row_kept image.file hy false _ o ho x] at hcolor
  by_cases hzero : image.pixel (image.height - 1) 0 = 0
  · simp [before, hzero] at hcolor
  · simp only [before, if_neg hzero] at hcolor
    exact hzero hcolor.symm

theorem headers_inside (hwell : image.WellFormed) : 54 ≤ image.file.length := by
  have htable := hwell.table_le
  have hrows := hwell.rows_le
  have hheader := image.header_le
  unfold Image.table at htable
  unfold Image.row at hrows
  omega

theorem empty_displays (hwell : image.WellFormed) (hwidth : image.width < 65536)
    (hheight : image.height < 65536) (hempty : image.width = 0 ∨ image.height = 0) :
    Displays d image x y := by
  intro display s hnull
  have hinside := headers_inside hwell
  have hbmpWidth : (word image.file 18).toNat % 65536 = image.width := Nat.mod_eq_of_lt hwidth
  have hbmpHeight : (word image.file 22).toNat % 65536 = image.height := Nat.mod_eq_of_lt hheight
  have hlines : ∀ (palette bits : Nat) (loop : Loop),
      Returns (count image.height (drawLine d s image.file palette bits 1 x image.width) loop)
        fun t => t.backBuffer = loop.backBuffer := by
    intro palette bits loop
    obtain hnone | hnone := hempty
    · let kept (_ : Nat) (t : Loop) : Prop := t.backBuffer = loop.backBuffer
      refine returns_count kept rfl fun i _ t ht => ?_
      simpa [drawLine, hnone, nextLine, kept] using ht
    · simp [hnone]
  have hkept : Returns (bmpDisplayBMP0 d (some image.file) x y 1 display s) fun o =>
      o.server.backBuffer = s.backBuffer := by
    simp only [bmpDisplayBMP0, returns_ite, returns_bind, returns_ok, returns_pure,
      returns_readByte, returns_readHalf, returns_readWord, hbmpWidth, hbmpHeight]
    refine ⟨fun _ => rfl, fun _ => ⟨by omega, by omega, fun _ => rfl, fun _ => ?_⟩⟩
    exact ⟨by omega, by omega, by omega, by omega, by omega, by omega, hlines _ _ _⟩
  refine hkept.mono fun o ho => ⟨fun i hi j hj => ?_, fun p _ => congrFun ho p⟩
  omega

end Topmost

/-- The rows of the image on the screen are those that the decoder refreshes; it paints each
of them one row too low. -/
theorem displays_iff (d : Display) (image : Image) (hwell : image.WellFormed) (x y : Nat)
    (hright : x + image.width ≤ d.libgd_device_width)
    (hbottom : y + image.height ≤ d.libgd_device_height) :
    Displays d image x y ↔ image.width = 0 ∨ image.height = 0 := by
  have hwidth := d.width_lt
  have hheight := d.height_lt
  constructor
  · intro hshown
    by_contra hsome
    rw [not_or] at hsome
    exact not_displays (by omega) (by omega) (by omega) hshown
  · exact empty_displays hwell (by omega) (by omega)

theorem screen_height_lt : 600 < 65536 := by decide

def screen : Display where
  libgd_device_width := 800
  libgd_device_height := 600
  libgd_SavedBPP := 32
  width_lt := by decide
  height_lt := screen_height_lt

def dot : Image where
  file := [0x42, 0x4D, 58, 0, 0, 0, 0, 0, 0, 0, 54, 0, 0, 0, 40, 0, 0, 0, 1, 0, 0, 0, 1, 0, 0, 0,
    1, 0, 24, 0, 0, 0, 0, 0, 4, 0, 0, 0, 0, 0, 0, 0, 0, 0, 0, 0, 0, 0, 0, 0, 0, 0, 0, 0,
    0xFF, 0, 0, 0]
  type_eq := by decide
  size_eq := by decide
  header_le := by decide
  planes_eq := by decide
  depth_eq := by decide
  compression_eq := by decide

theorem dot_wellFormed : dot.WellFormed where
  table_le := by decide
  colors_le := fun h => absurd h (by decide)
  rows_le := by decide
  index_lt := fun h => absurd h (by decide)

theorem displays_dot : Displays screen dot 100 50 ↔ dot.width = 0 ∨ dot.height = 0 :=
  displays_iff screen dot dot_wellFormed 100 50 (by decide) (by decide)

theorem dot_one_too_low :
    dot.WellFormed ∧ 100 + dot.width ≤ screen.libgd_device_width ∧
      50 + dot.height ≤ screen.libgd_device_height ∧ ¬ Displays screen dot 100 50 :=
  ⟨dot_wellFormed, by decide, by decide,
    not_displays (by decide) (by decide) (by decide)⟩

end Gramado.Ds.BmpImages
