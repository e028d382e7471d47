import Gramado.Ds.Drawing

namespace Gramado.Ds.Confinement

open Ds.ZOrder (WINDOW_COUNT_MAX WINDOW_MAGIC WT_OVERLAPPED)
open Ds.Drawing
open Gdi.Painter hiding backbuffer_draw_horizontal_line frontbuffer_draw_horizontal_line
open Library.Painting

/-- What a client asks for in coordinates of the client area. -/
inductive Request where
  | rectangle (x y width height color : Nat)
  | line (buffer : Buffer) (x1 y x2 color : Nat)
  | char (rel_x rel_y fgcolor : Nat) (ch scale : Int)

def Request.Ranged : Request → Prop
  | .rectangle x y width height _ => x < 2 ^ 32 ∧ y < 2 ^ 32 ∧ width < 2 ^ 32 ∧ height < 2 ^ 32
  | .line _ x1 y x2 _ => x1 < 2 ^ 32 ∧ y < 2 ^ 32 ∧ x2 < 2 ^ 32
  | .char rel_x rel_y _ _ _ => rel_x < 2 ^ 32 ∧ rel_y < 2 ^ 32

def draw (s : Server) (wid : Int) : Request → Canvas → Option Canvas
  | .rectangle x y width height color =>
      rectBackbufferDrawRectangleInsideWindow s wid x y width height color 0
  | .line buffer x1 y x2 color =>
      rectBackbufferDrawHorizontalLineInsideWindow s wid x1 y x2 color 0 (back_or_front buffer)
  | .char rel_x rel_y fgcolor ch scale =>
      grDrawCharBlockStyleInsideWindow s wid rel_x rel_y fgcolor ch scale 0

def client (d : Device) (w : Window) (buffer : Buffer) : Set Place :=
  region d buffer fun column row =>
    clientLeft w ≤ column ∧ column < clientLeft w + w.rcClient.width ∧
      clientTop w ≤ row ∧ row < clientTop w + w.rcClient.height

def shape (d : Device) (w : Window) (buffer : Buffer) (x y width height : Nat) : Set Place :=
  region d buffer fun column row =>
    clientLeft w + x ≤ column ∧ column < clientLeft w + x + width ∧
      clientTop w + y ≤ row ∧ row < clientTop w + y + height

/-- Rectangles and lines set what is asked for inside the client rectangle, and characters set
nothing outside it. -/
def Meets (s : Server) (wid : Int) (w : Window) : Request → Prop
  | .rectangle x y width height color =>
      Paints (draw s wid (.rectangle x y width height color))
        (shape s.device w .back x y width height ∩ client s.device w .back)
        (stored s.device (color % 2 ^ 24))
  | .line buffer x1 y x2 color =>
      Paints (draw s wid (.line buffer x1 y x2 color))
        (shape s.device w buffer x1 y (x2 - x1) 1 ∩ client s.device w buffer)
        (stored s.device color)
  | .char rel_x rel_y fgcolor ch scale =>
      Confined (draw s wid (.char rel_x rel_y fgcolor ch scale)) (client s.device w .back)

def RectangleFits (d : Device) (w : Window) (x y width height : Nat) : Prop :=
  if Supported d then
    (x < w.rcClient.width → width = 0 ∨ 0 < height ∧ y < w.rcClient.height) ∧
      (w.rcClient.width < x → width % 65536 = 0 ∨ d.width ≤ (clientLeft w + x) % 65536)
  else width = 0 ∨ height = 0 ∨ w.rcClient.width ≤ x ∨ w.rcClient.height ≤ y

def LineFits (w : Window) (x1 y x2 : Nat) : Prop :=
  x2 ≤ x1 ∨ w.rcClient.height < y ∨ x1 = w.rcClient.width ∨
    x1 < w.rcClient.width ∧ y < w.rcClient.height

/-- A block starts in the client area, or it is not seen at all, or it lies in the client area
when its corner and its size are taken modulo 65536. -/
def BlockFits (d : Device) (w : Window) (x y size : Nat) : Prop :=
  let left := (clientLeft w + x) % 65536
  let top := (clientTop w + y) % 65536
  let width := min size (available w.rcClient.width x) % 65536
  let height := min (min size (available w.rcClient.height y) % 65536) d.height
  x < w.rcClient.width ∧ y < w.rcClient.height ∨
    (¬ Supported d ∨ width = 0 ∨ d.width ≤ left) ∨
      clientLeft w ≤ left ∧ min (left + width) d.width ≤ clientLeft w + w.rcClient.width ∧
        clientTop w ≤ top ∧ 0 < height ∧ top + height ≤ clientTop w + w.rcClient.height

def Fits (s : Server) (w : Window) : Request → Prop
  | .rectangle x y width height _ => RectangleFits s.device w x y width height
  | .line _ x1 y x2 _ => LineFits w x1 y x2
  | .char rel_x rel_y _ ch scale =>
      s.font.initialized = true → s.font.address ≠ 0 →
        ∀ row < s.font.height, ∀ col < s.font.width, lit s.font ch row col →
          BlockFits s.device w (blockAt rel_x col (max scale 1)) (blockAt rel_y row (max scale 1))
            (max scale 1).toNat

variable {n x width y : Nat}

section

variable {d : Device} {w : Window}

theorem available_of_le (h : x ≤ n) (hn : n < 2 ^ 64) : available n x = n - x := sub64_of_le h hn

theorem available_of_lt (h : n < x) (hx : x < 2 ^ 64) : available n x = n + 2 ^ 64 - x :=
  sub64_of_lt h hx

theorem corner_mem_painted (y height : Nat) (hs : Supported d)
    (hwidth : min width (available w.rcClient.width x) % 65536 ≠ 0)
    (hleft : (clientLeft w + x) % 65536 < d.width) :
    (Buffer.back, d.width * ((clientTop w + y) % 65536) + (clientLeft w + x) % 65536) ∈
      painted d w x y width height := by
  rw [painted, mem_region hleft]
  exact ⟨hs, Nat.le_refl _, by omega, Nat.le_refl _, .inl rfl⟩

theorem painted_eq_iff (hon : ClientOnScreen d w) {height : Nat} (hx : x < 2 ^ 32) (hy : y < 2 ^ 32)
    (hwidth : width < 2 ^ 32) (hheight : height < 2 ^ 32) :
    painted d w x y width height = shape d w .back x y width height ∩ client d w .back ↔
      RectangleFits d w x y width height := by
  obtain ⟨hright, hbottom⟩ := hon
  have hlt := d.height_lt
  have hle := d.width_le
  rw [RectangleFits]
  constructor
  · intro heq
    split
    next hs =>
      refine ⟨fun hin => ?_, fun hout => ?_⟩
      · by_contra hnot
        rw [not_or] at hnot
        have hw : min width (available w.rcClient.width x) % 65536 ≠ 0 := by
          rw [available_of_le (by omega) (by omega)]
          omega
        have hmem := heq ▸ corner_mem_painted y height hs hw (by omega)
        have hshape := (mem_region (by omega)).mp hmem.1
        have hclient := (mem_region (by omega)).mp hmem.2
        omega
      · by_contra hnot
        rw [not_or] at hnot
        have hw : min width (available w.rcClient.width x) % 65536 ≠ 0 := by
          rw [available_of_lt hout (by omega)]
          omega
        have hmem := heq ▸ corner_mem_painted y height hs hw (by omega)
        have hshape := (mem_region (by omega)).mp hmem.1
        have hclient := (mem_region (by omega)).mp hmem.2
        omega
    next hs =>
      by_contra hnot
      have hmem : (Buffer.back, d.width * (clientTop w + y) + (clientLeft w + x)) ∈
          shape d w .back x y width height ∩ client d w .back :=
        ⟨(mem_region (by omega)).mpr (by omega), (mem_region (by omega)).mpr (by omega)⟩
      rw [← heq] at hmem
      exact hs hmem.2.1
  · intro hfits
    ext p
    have hcolumn := Nat.mod_lt p.2 d.width_pos
    simp only [painted, shape, client, region, Rows, Set.mem_inter_iff, Set.mem_ofPred_eq]
    generalize p.2 % d.width = column at *
    generalize p.2 / d.width = row at *
    by_cases hs : Supported d
    · rw [if_pos hs] at hfits
      rcases Nat.lt_or_ge w.rcClient.width x with hout | hin
      · have hnone := hfits.2 hout
        rw [available_of_lt hout (by omega)]
        constructor
        · rintro ⟨-, -, hlow, hhigh, -⟩
          omega
        · rintro ⟨⟨-, hshape⟩, -, hclient⟩
          omega
      · have hsome := hfits.1
        rw [available_of_le hin (by omega)]
        constructor
        · rintro ⟨hbuffer, -, hlow, hhigh, hrow⟩
          have hy' : y ≤ w.rcClient.height := by omega
          rw [available_of_le hy' (by omega)] at hrow
          exact ⟨⟨hbuffer, by omega⟩, hbuffer, by omega⟩
        · rintro ⟨⟨hbuffer, hshape⟩, -, hclient⟩
          rw [available_of_le (by omega) (by omega)]
          exact ⟨hbuffer, hs, by omega, by omega, by omega, by omega⟩
    · rw [if_neg hs] at hfits
      constructor
      · rintro ⟨-, hsupported, -⟩
        exact absurd hsupported hs
      · rintro ⟨⟨-, hshape⟩, -, hclient⟩
        omega

theorem drawn_eq_iff (hon : ClientOnScreen d w) (buffer : Buffer) (x1 y x2 : Nat) :
    drawn d w buffer x1 y x2 = shape d w buffer x1 y (x2 - x1) 1 ∩ client d w buffer ↔
      LineFits w x1 y x2 := by
  obtain ⟨hright, hbottom⟩ := hon
  have hlt := d.height_lt
  have hle := d.width_le
  rw [LineFits]
  constructor
  · intro heq
    by_contra hnot
    have hmem : place d buffer (clientLeft w + x1) (clientTop w + y) ∈ drawn d w buffer x1 y x2 :=
      ⟨by omega, x1, by omega, by omega, by omega, rfl⟩
    rw [heq] at hmem
    have hshape : clientLeft w + x1 ≤ _ ∧ _ := hmem.1.2
    have hclient := hmem.2.2
    have hinside : x1 < w.rcClient.width := by omega
    have hrow := (mem_region_place (by omega) (by omega)).mp hmem.2
    omega
  · intro hfits
    ext p
    have hcolumn := Nat.mod_lt p.2 d.width_pos
    constructor
    · rintro ⟨hrow, x, hlow, hhigh, hin, rfl⟩
      have hinside : x < w.rcClient.width := by omega
      exact ⟨(mem_region_place (by omega) (by omega)).mpr (by omega),
        (mem_region_place (by omega) (by omega)).mpr (by omega)⟩
    · rintro ⟨⟨hbuffer, hshape⟩, -, hclient⟩
      refine ⟨by omega, p.2 % d.width - clientLeft w, by omega, by omega, by omega, ?_⟩
      have hrow : clientTop w + y = p.2 / d.width := by omega
      have hcol : clientLeft w + (p.2 % d.width - clientLeft w) = p.2 % d.width := by omega
      rw [hrow, hcol, place, Nat.mod_eq_of_lt (a := p.2 / d.width) (by omega),
        Nat.mod_eq_of_lt (a := p.2 % d.width) (by omega), ← hbuffer]
      exact place_column_row p

theorem painted_subset_iff (hon : ClientOnScreen d w) {size : Nat} (hx : x < 2 ^ 64)
    (hy : y < 2 ^ 64) (hsize : 0 < size) :
    painted d w x y size size ⊆ client d w .back ↔ BlockFits d w x y size := by
  obtain ⟨hright, hbottom⟩ := hon
  have hlt := d.height_lt
  have hle := d.width_le
  rw [BlockFits]
  generalize hleft : (clientLeft w + x) % 65536 = left
  generalize htop : (clientTop w + y) % 65536 = top
  generalize hwidth : min size (available w.rcClient.width x) % 65536 = width
  generalize hheight : min (min size (available w.rcClient.height y) % 65536) d.height = height
  have hpainted : painted d w x y size size = region d .back fun column row => Supported d ∧
      left ≤ column ∧ column < left + width ∧ row ∈ Rows top height d.height := by
    rw [painted, hleft, htop, hwidth, hheight]
  rw [hpainted]
  constructor
  · intro hsub
    by_contra hnot
    rw [not_or, not_or] at hnot
    obtain ⟨hout, hseen, hfold⟩ := hnot
    have hs : Supported d := by
      by_contra hs
      exact hseen (.inl hs)
    rw [not_or, not_or] at hseen
    obtain ⟨-, hwide, hvisible⟩ := hseen
    have key : ∀ column row : Nat, column < d.width → left ≤ column → column < left + width →
        row ∈ Rows top height d.height → clientLeft w ≤ column ∧
          column < clientLeft w + w.rcClient.width ∧ clientTop w ≤ row ∧
          row < clientTop w + w.rcClient.height := by
      intro column row hcolumn hlow hhigh hrow
      exact (mem_region hcolumn).mp (hsub ((mem_region hcolumn).mpr ⟨hs, hlow, hhigh, hrow⟩))
    have hcorner := key left top (by omega) (Nat.le_refl _) (by omega)
      ⟨Nat.le_refl _, .inl rfl⟩
    have hlastColumn := key (min (left + width) d.width - 1) top (by omega)
      (by omega) (by omega) ⟨Nat.le_refl _, .inl rfl⟩
    have htall : 0 < height := by
      by_contra hzero
      -- the loop runs down to the row below the screen
      have hbelow := key left d.height (by omega) (Nat.le_refl _) (by omega)
        ⟨by omega, .inr ⟨Nat.le_refl _, .inl (by omega)⟩⟩
      omega
    have hlastRow := key left (min (top + height - 1) d.height) (by omega)
      (Nat.le_refl _) (by omega) ⟨by omega, .inr ⟨by omega, .inr (by omega)⟩⟩
    exact hfold (by omega)
  · rintro hfits p ⟨hbuffer, hs, hlow, hhigh, hrowLow, hrow⟩
    have hcolumn := Nat.mod_lt p.2 d.width_pos
    refine ⟨hbuffer, ?_⟩
    rcases hfits with ⟨hinx, hiny⟩ | (hunsupported | hunseen) | hfold
    · rw [available_of_le (by omega) (by omega)] at hwidth hheight
      omega
    · exact absurd hs hunsupported
    · omega
    · omega

theorem blockAt_lt (position n : Nat) (scale : Int) : blockAt position n scale < 2 ^ 64 := by
  rw [blockAt]
  omega

theorem inked_subset_iff {s : Server} (hon : ClientOnScreen s.device w) (rel_x rel_y : Nat)
    (ch scale : Int) :
    inked s w rel_x rel_y ch scale ⊆ client s.device w .back ↔
      Fits s w (.char rel_x rel_y 0 ch scale) := by
  have hblock : ∀ row col,
      painted s.device w (blockAt rel_x col (max scale 1)) (blockAt rel_y row (max scale 1))
          (max scale 1).toNat (max scale 1).toNat ⊆ client s.device w .back ↔
        BlockFits s.device w (blockAt rel_x col (max scale 1)) (blockAt rel_y row (max scale 1))
          (max scale 1).toNat :=
    fun row col => painted_subset_iff hon (blockAt_lt ..) (blockAt_lt ..) (by omega)
  constructor
  · intro hsub hinit haddress row hrow col hcol hlit
    refine (hblock row col).mp fun p hp => hsub ?_
    exact ⟨hinit, haddress, row, hrow, col, hcol, hlit, hp⟩
  · rintro hfits p ⟨hinit, haddress, row, hrow, col, hcol, hlit, hp⟩
    exact (hblock row col).mpr (hfits hinit haddress row hrow col hcol hlit) hp

end

section Result

variable {s : Server} {wid : Int} {w : Window}

/-- A request is drawn inside the client rectangle under the condition, and only then. -/
theorem confinement_iff (hw : overlapped s wid = some w) (hon : ClientOnScreen s.device w)
    {request : Request} (hrange : request.Ranged) : Meets s wid w request ↔ Fits s w request := by
  cases request with
  | rectangle x y width height color =>
      obtain ⟨hx, hy, hwidth, hheight⟩ := hrange
      rw [Meets, draw, (paints_insideWindow hw x y width height color).iff_eq]
      exact painted_eq_iff hon hx hy hwidth hheight
  | line buffer x1 y x2 color =>
      obtain ⟨hx1, hy, hx2⟩ := hrange
      rw [Meets, draw, (paints_lineInsideWindow hw hon buffer hx1 hy hx2 color).iff_eq]
      exact drawn_eq_iff hon buffer x1 y x2
  | char rel_x rel_y fgcolor ch scale =>
      rw [Meets, draw, (paints_char hw rel_x rel_y fgcolor ch scale).confined_iff]
      exact inked_subset_iff hon rel_x rel_y ch scale

end Result

/-- A small window on a screen of 800 times 600, and a font whose only bit is the first one. -/
def smallWindow : Window :=
  ⟨WINDOW_MAGIC, WT_OVERLAPPED, 100, 100, ⟨4, 30, 200, 100⟩⟩

def desk : Server where
  device := svga
  raster := fun _ old _ => old
  blend := fun _ old _ => old
  windowList := fun wid => if wid = 5 then some smallWindow else none
  font := ⟨true, 4096, 8, 8, fun i => if i = 520 then 0x80 else 0⟩

theorem overlapped_desk : overlapped desk 5 = some smallWindow := by
  have hcount : ¬ ((5 : Int) < 0 ∨ (5 : Int) ≥ WINDOW_COUNT_MAX) := by
    unfold WINDOW_COUNT_MAX
    decide
  rw [overlapped, if_neg hcount]
  rfl

theorem clientOnScreen_desk : ClientOnScreen desk.device smallWindow := by
  unfold ClientOnScreen
  decide

theorem confinement_desk :
    Meets desk 5 smallWindow (.rectangle 10 10 300 20 0) ↔
      Fits desk smallWindow (.rectangle 10 10 300 20 0) :=
  confinement_iff overlapped_desk clientOnScreen_desk (by unfold Request.Ranged; decide)

/-- A rectangle beside the client area, a line in the row below it and a character beside it
are all drawn over what is there. -/
theorem drawn_outside :
    overlapped desk 5 = some smallWindow ∧ ClientOnScreen desk.device smallWindow ∧
      ¬ Meets desk 5 smallWindow (.rectangle 300 0 10 10 0) ∧
      ¬ Meets desk 5 smallWindow (.line .back 0 100 50 0) ∧
      ¬ Meets desk 5 smallWindow (.char 300 0 0 65 1) := by
  refine ⟨overlapped_desk, clientOnScreen_desk, fun h => ?_, fun h => ?_, fun h => ?_⟩
  · rw [Meets, draw, (paints_insideWindow overlapped_desk 300 0 10 10 0).iff_eq,
      painted_eq_iff clientOnScreen_desk (by decide) (by decide) (by decide) (by decide)] at h
    revert h
    unfold RectangleFits
    decide
  · rw [Meets, draw, (paints_lineInsideWindow overlapped_desk clientOnScreen_desk .back
      (by decide) (by decide) (by decide) 0).iff_eq, drawn_eq_iff clientOnScreen_desk] at h
    revert h
    unfold LineFits
    decide
  · rw [Meets, draw, (paints_char overlapped_desk 300 0 0 65 1).confined_iff,
      inked_subset_iff clientOnScreen_desk] at h
    have hblock := h rfl (by decide) 0 (by decide) 0 (by decide) (by decide)
    revert hblock
    unfold BlockFits
    decide

end Gramado.Ds.Confinement
