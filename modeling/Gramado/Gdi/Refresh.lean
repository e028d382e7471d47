import Gramado.Gdi.Painter
import Gramado.Library.Copying
import Gramado.Library.Raster

/-! Rectangles that are copied from the back buffer to the front buffer. -/

namespace Gramado.Gdi.Refresh

open Library.Copying Library.Raster
open Gdi.Painter (Device bytes_count)

abbrev Memory := Nat → UInt8

def FRONTBUFFER_ADDRESS : Nat := 0x30200000
def BACKBUFFER_ADDRESS : Nat := 0x30400000

def DISTANCE : Nat := 0x200000

structure Screen extends Device where
  mapped : bpp / 8 * width * height ≤ DISTANCE

def memcpy (dst src n : Nat) : Memory → Memory := copyCells 1 n dst src

def memcpy32 (dst src n : Nat) : Memory → Memory := copyCells 4 n dst src

def memcpy64 (dst src n : Nat) : Memory → Memory := copyCells 8 n dst src

def copyLines (copy : Nat → Nat → Memory → Memory)
    (screen_pitch deviceHeight FirstLine lines i dest src : Nat) (m : Memory) : Memory :=
  if i < lines then
    if FirstLine + i > deviceHeight then m
    else
      copyLines copy screen_pitch deviceHeight FirstLine lines (i + 1) (dest + screen_pitch)
        (src + screen_pitch) (copy dest src m)
  else m
termination_by lines - i

def refresh_rectangle0 (d : Device) (x y width height buffer_dest buffer_src : Nat) (m : Memory) :
    Option Memory :=
  let FirstLine := y % 65536
  if d.width = 0 ∨ d.height = 0 then none
  else
    let X := x % 65536
    let Y := y % 65536
    let hl_width := width % 65536
    let lines := height % 65536
    if hl_width = 0 then some m
    else if lines = 0 then some m
    else
      match bytes_count d.bpp with
      | none => none
      | some bytes =>
          let screen_pitch := bytes * d.width % 2 ^ 32
          let rectangle_pitch := bytes * hl_width % 2 ^ 32
          let offset := (Y * screen_pitch + X * bytes) % 2 ^ 32
          let dest := buffer_dest + offset
          let src := buffer_src + offset
          if dest = src then some m
          else if rectangle_pitch % 8 = 0 then
            some (copyLines (fun dest src => memcpy64 dest src (rectangle_pitch / 8)) screen_pitch
              d.height FirstLine lines 0 dest src m)
          else if rectangle_pitch % 4 = 0 then
            some (copyLines (fun dest src => memcpy32 dest src (rectangle_pitch / 4)) screen_pitch
              d.height FirstLine lines 0 dest src m)
          else
            some (copyLines (fun dest src => memcpy dest src rectangle_pitch) screen_pitch
              d.height FirstLine lines 0 dest src m)

def refresh_rectangle (d : Device) (x y width height : Nat) : Memory → Option Memory :=
  refresh_rectangle0 d x y width height FRONTBUFFER_ADDRESS BACKBUFFER_ADDRESS

section Loops

variable {copy : Nat → Nat → Memory → Memory} {base distance pitch length deviceHeight : Nat}

theorem copied_copyLines
    (hcopy : ∀ o m, Copied base distance (Set.Ico o (o + length)) m
      (copy (base + o) (base + distance + o) m))
    (hlength : length ≤ distance) (FirstLine lines i start : Nat) (m : Memory) :
    Copied base distance
      (Runs start pitch length (min lines (deviceHeight + 1 - FirstLine) - i)) m
      (copyLines copy pitch deviceHeight FirstLine lines i (base + start)
        (base + distance + start) m) := by
  generalize hn : min lines (deviceHeight + 1 - FirstLine) - i = n
  induction n generalizing i start m with
  | zero =>
      have hstop : copyLines copy pitch deviceHeight FirstLine lines i (base + start)
          (base + distance + start) m = m := by
        rw [copyLines]
        split
        · rw [if_pos (by omega)]
        · rfl
      rw [hstop, runs_eq_empty_iff.mpr (.inr rfl)]
      exact copied_empty base distance m
  | succ n ih =>
      rw [copyLines, if_pos (by omega), if_neg (by omega), runs_succ, Nat.add_assoc base,
        Nat.add_assoc (base + distance)]
      refine (hcopy start m).trans (ih (i + 1) (start + pitch) _ (by omega)) ?_
      rintro o ⟨j, _, hlow, _⟩ ⟨_, hhigh⟩
      omega

end Loops

section Specification

variable {d : Device} {bytes : Nat}

theorem bytes_eq (hbytes : bytes_count d.bpp = some bytes) :
    (bytes = 3 ∧ d.bpp = 24) ∨ (bytes = 4 ∧ d.bpp = 32) := by
  unfold bytes_count at hbytes
  rcases d.bpp_eq with h | h
  · rw [h, if_neg (by decide), if_pos rfl] at hbytes
    exact .inl ⟨(Option.some.inj hbytes).symm, h⟩
  · rw [h, if_pos rfl] at hbytes
    exact .inr ⟨(Option.some.inj hbytes).symm, h⟩

theorem bytes_count_eq (d : Device) : bytes_count d.bpp = some (d.bpp / 8) := by
  rcases d.bpp_eq with h | h
  · rw [h, bytes_count, if_neg (by decide), if_pos rfl]
  · rw [h, bytes_count, if_pos rfl]

theorem offset_lt (hbytes : bytes_count d.bpp = some bytes) {X Y : Nat} (hX : X < 65536)
    (hY : Y < 65536) : Y * (bytes * d.width) + X * bytes < 2 ^ 32 := by
  have hsize : bytes ≤ 4 := by
    rcases bytes_eq hbytes with h | h <;> omega
  have hpitch : bytes * d.width ≤ 4 * 8191 := Nat.mul_le_mul hsize d.width_le
  have hline : Y * (bytes * d.width) ≤ 65535 * (4 * 8191) := Nat.mul_le_mul (by omega) hpitch
  have hcolumn : X * bytes ≤ 65535 * 4 := Nat.mul_le_mul (by omega) hsize
  omega

theorem copied_refresh (hbytes : bytes_count d.bpp = some bytes) (x y width height : Nat)
    (m : Memory) :
    ∃ m', refresh_rectangle d x y width height m = some m' ∧ Copied FRONTBUFFER_ADDRESS DISTANCE
        (Runs (y % 65536 * (bytes * d.width) + x % 65536 * bytes) (bytes * d.width)
          (bytes * (width % 65536)) (min (height % 65536) (d.height + 1 - y % 65536))) m m' := by
  have hX : x % 65536 < 65536 := Nat.mod_lt x (by decide)
  have hY : y % 65536 < 65536 := Nat.mod_lt y (by decide)
  have hW : width % 65536 < 65536 := Nat.mod_lt width (by decide)
  have hsize : bytes ≤ 4 := by
    rcases bytes_eq hbytes with h | h <;> omega
  have hpitch : bytes * d.width ≤ 4 * 8191 := Nat.mul_le_mul hsize d.width_le
  have hlength : bytes * (width % 65536) ≤ 4 * 65535 := Nat.mul_le_mul hsize (by omega)
  have hoffset := offset_lt hbytes hX hY
  have hmod : bytes * d.width % 2 ^ 32 = bytes * d.width := Nat.mod_eq_of_lt (by omega)
  have hmod' : bytes * (width % 65536) % 2 ^ 32 = bytes * (width % 65536) :=
    Nat.mod_eq_of_lt (by omega)
  have hscreen : ¬ (d.width = 0 ∨ d.height = 0) := by
    have hw := d.width_pos
    have hh := d.height_pos
    omega
  have hapart : ∀ o, FRONTBUFFER_ADDRESS + o ≠ BACKBUFFER_ADDRESS + o := by
    unfold FRONTBUFFER_ADDRESS BACKBUFFER_ADDRESS
    omega
  simp only [refresh_rectangle, refresh_rectangle0, hbytes, hmod, hmod',
    Nat.mod_eq_of_lt hoffset, if_neg hscreen, if_neg (hapart _)]
  generalize y % 65536 * (bytes * d.width) + x % 65536 * bytes = start
  generalize bytes * d.width = pitch
  generalize hrow : bytes * (width % 65536) = length at *
  split
  · rename_i hzero
    refine ⟨m, rfl, (copied_empty _ _ m).congr (runs_eq_empty_iff.mpr (.inl ?_)).symm⟩
    rw [← hrow, hzero, Nat.mul_zero]
  split
  · refine ⟨m, rfl, (copied_empty _ _ m).congr (runs_eq_empty_iff.mpr (.inr ?_)).symm⟩
    omega
  have hcopied : ∀ size, size ∣ length → ∀ o (m : Memory),
      Copied FRONTBUFFER_ADDRESS DISTANCE (Set.Ico o (o + length)) m
        (copyCells size (length / size) (FRONTBUFFER_ADDRESS + o)
          (FRONTBUFFER_ADDRESS + DISTANCE + o) m) := by
    intro size hsize o m
    refine (copied_copyCells size (length / size) o m).congr ?_
    rw [Nat.div_mul_cancel hsize]
  have hlines : ∀ copy : Nat → Nat → Memory → Memory,
      (∀ o m, Copied FRONTBUFFER_ADDRESS DISTANCE (Set.Ico o (o + length)) m
        (copy (FRONTBUFFER_ADDRESS + o) (FRONTBUFFER_ADDRESS + DISTANCE + o) m)) →
      Copied FRONTBUFFER_ADDRESS DISTANCE
        (Runs start pitch length (min (height % 65536) (d.height + 1 - y % 65536))) m
        (copyLines copy pitch d.height (y % 65536) (height % 65536) 0
          (FRONTBUFFER_ADDRESS + start) (BACKBUFFER_ADDRESS + start) m) := fun copy hcopy =>
    copied_copyLines hcopy (by unfold DISTANCE; omega) (y % 65536) (height % 65536) 0 start m
  split
  · rename_i hcells
    exact ⟨_, rfl, hlines _ (hcopied 8 (Nat.dvd_of_mod_eq_zero hcells))⟩
  split
  · rename_i hcells
    exact ⟨_, rfl, hlines _ (hcopied 4 (Nat.dvd_of_mod_eq_zero hcells))⟩
  · have hbytes := hcopied 1 (Nat.one_dvd length)
    rw [Nat.div_one] at hbytes
    exact ⟨_, rfl, hlines _ hbytes⟩

def common (d : Device) (bytes x y width height : Nat) : Set Nat :=
  {o | (x ≤ o % (bytes * d.width) / bytes ∧ o % (bytes * d.width) / bytes < x + width) ∧
    (y ≤ o / (bytes * d.width) ∧ o / (bytes * d.width) < y + height) ∧
      o / (bytes * d.width) < d.height}

theorem common_eq (hbytes : 0 < bytes) (x y width height : Nat) : common d bytes x y width height =
      Block (bytes * d.width) (x * bytes) (min (x + width) d.width * bytes) y
        (min (y + height) d.height) := by
  have hpitch : 0 < bytes * d.width := Nat.mul_pos hbytes d.width_pos
  ext o
  have hcolumn : o % (bytes * d.width) / bytes < d.width := by
    rw [Nat.div_lt_iff_lt_mul hbytes, Nat.mul_comm d.width]
    exact Nat.mod_lt o hpitch
  change _ ↔ (_ ≤ _ % _ ∧ _ % _ < _) ∧ _ ≤ _ / _ ∧ _ / _ < _
  rw [← Nat.le_div_iff_mul_le hbytes, ← Nat.div_lt_iff_lt_mul hbytes, lt_min_iff, lt_min_iff]
  constructor
  · rintro ⟨⟨hx, hx'⟩, ⟨hy, hy'⟩, hrow⟩
    exact ⟨⟨hx, hx', hcolumn⟩, hy, hy', hrow⟩
  · rintro ⟨⟨hx, hx', _⟩, hy, hy', hrow⟩
    exact ⟨⟨hx, hx'⟩, ⟨hy, hy'⟩, hrow⟩

theorem common_lt {o x y width height : Nat} (ho : o ∈ common d bytes x y width height)
    (hbytes : 0 < bytes) : o < bytes * d.width * d.height := by
  obtain ⟨_, _, hrow⟩ := ho
  rw [Nat.div_lt_iff_lt_mul (Nat.mul_pos hbytes d.width_pos)] at hrow
  rwa [Nat.mul_comm]

end Specification

/-- The front buffer gets what the back buffer has in the pixels in common, and no other byte
changes. -/
def Refreshes (d : Screen) (x y width height : Nat) : Prop :=
  ∀ m, ∃ m', refresh_rectangle d.toDevice x y width height m = some m' ∧
    (∀ o ∈ common d.toDevice (d.bpp / 8) x y width height,
      m' (FRONTBUFFER_ADDRESS + o) = m' (BACKBUFFER_ADDRESS + o)) ∧
    ∀ a, (∀ o ∈ common d.toDevice (d.bpp / 8) x y width height, a ≠ FRONTBUFFER_ADDRESS + o) →
      m' a = m a

def copiedBytes (d : Device) (bytes x y width height : Nat) : Set Nat :=
  Runs (y % 65536 * (bytes * d.width) + x % 65536 * bytes) (bytes * d.width)
    (bytes * (width % 65536)) (min (height % 65536) (d.height + 1 - y % 65536))

section Refreshes

variable {d : Screen} {x y width height : Nat}

theorem common_lt_distance {o : Nat}
    (ho : o ∈ common d.toDevice (d.bpp / 8) x y width height) : o < DISTANCE := by
  have hpos : 0 < d.bpp / 8 := by
    rcases d.bpp_eq with h | h <;> omega
  have hlt := common_lt ho hpos
  have hmapped := d.mapped
  omega

theorem refreshes_iff_eq (d : Screen) (x y width height : Nat) : Refreshes d x y width height ↔
      copiedBytes d.toDevice (d.bpp / 8) x y width height =
        common d.toDevice (d.bpp / 8) x y width height := by
  have hbytes := bytes_count_eq d.toDevice
  have hback : BACKBUFFER_ADDRESS = FRONTBUFFER_ADDRESS + DISTANCE := rfl
  constructor
  · intro h
    have hsub : copiedBytes d.toDevice (d.bpp / 8) x y width height ⊆
        common d.toDevice (d.bpp / 8) x y width height := by
      intro o ho
      by_contra hout
      let m : Memory := fun a => if a = FRONTBUFFER_ADDRESS + o then 1 else 0
      obtain ⟨m', hcall, -, hkept⟩ := h m
      obtain ⟨m'', hcall', hcopied⟩ := copied_refresh hbytes x y width height m
      obtain rfl := Option.some.inj (hcall.symm.trans hcall')
      have hnew := hcopied.copied o ho
      rw [hkept _ fun o' ho' heq => hout (by rwa [show o = o' by omega])] at hnew
      have hother : FRONTBUFFER_ADDRESS + DISTANCE + o ≠ FRONTBUFFER_ADDRESS + o := by
        unfold DISTANCE
        omega
      simp only [m, if_neg hother] at hnew
      exact absurd hnew (by decide)
    apply hsub.antisymm
    intro o ho
    by_contra hout
    let m : Memory := fun a => if a = FRONTBUFFER_ADDRESS + o then 1 else 0
    obtain ⟨m', hcall, hshown, -⟩ := h m
    obtain ⟨m'', hcall', hcopied⟩ := copied_refresh hbytes x y width height m
    obtain rfl := Option.some.inj (hcall.symm.trans hcall')
    have hfront : m' (FRONTBUFFER_ADDRESS + o) = 1 := by
      rw [hcopied.kept]
      · exact if_pos rfl
      · intro s hs heq
        exact hout (by rwa [show o = s by omega])
    have hbehind : m' (BACKBUFFER_ADDRESS + o) = 0 := by
      rw [hcopied.kept]
      · exact if_neg (by unfold DISTANCE at hback; omega)
      · intro s hs heq
        have hlt := common_lt_distance (hsub hs)
        omega
    have hnew := hshown o ho
    rw [hfront, hbehind] at hnew
    exact absurd hnew (by decide)
  · intro hsame m
    obtain ⟨m', hcall, hcopied⟩ := copied_refresh hbytes x y width height m
    replace hcopied := hcopied.congr hsame
    refine ⟨m', hcall, fun o ho => ?_, hcopied.kept⟩
    rw [hcopied.copied o ho, hcopied.kept (BACKBUFFER_ADDRESS + o), hback]
    intro s hs heq
    have hlt := common_lt_distance hs
    omega

end Refreshes

section Condition

variable (d : Device) (x y width height : Nat)

def CopiesNothing : Prop :=
  width % 65536 = 0 ∨ height % 65536 = 0 ∨ d.height < y % 65536

def OffScreen : Prop :=
  width = 0 ∨ height = 0 ∨ d.width ≤ x ∨ d.height ≤ y

def Fits : Prop :=
  (x < d.width ∧ y < d.height ∧ width % 65536 ≠ 0 ∧ height % 65536 ≠ 0) ∧
    x + width % 65536 = min (x + width) d.width ∧ y + height % 65536 = min (y + height) d.height

/-- Lines that go on behind the right border make up for the lines that the low bits leave out. -/
def WholeLines : Prop :=
  (x = 0 ∧ d.width ≤ width ∧ d.width < width % 65536) ∧
    (y < d.height ∧ height % 65536 ≠ 0 ∧ y + height % 65536 ≤ d.height) ∧
      (height % 65536 - 1) * d.width + width % 65536 =
        (min (y + height) d.height - y) * d.width

end Condition

section Condition

variable {d : Device} {bytes x y width height : Nat}

theorem copiedBytes_eq_empty_iff (hbytes : 0 < bytes) :
    copiedBytes d bytes x y width height = ∅ ↔ CopiesNothing d y width height := by
  rw [copiedBytes, runs_eq_empty_iff, CopiesNothing, Nat.mul_eq_zero]
  omega

theorem common_eq_empty_iff (hbytes : 0 < bytes) :
    common d bytes x y width height = ∅ ↔ OffScreen d x y width height := by
  have hw := d.width_pos
  have hh := d.height_pos
  rw [common_eq hbytes, block_eq_empty_iff, OffScreen, Nat.mul_le_mul_right_iff hbytes]
  · omega
  · rw [Nat.mul_comm bytes]
    exact Nat.mul_le_mul_right bytes (Nat.min_le_right _ _)

theorem copied_eq_common_iff_of_shown (hbytes : 0 < bytes)
    (hshown : ¬ OffScreen d x y width height) (hcopies : ¬ CopiesNothing d y width height) :
    copiedBytes d bytes x y width height = common d bytes x y width height ↔
      Fits d x y width height ∨ WholeLines d x y width height := by
  have hwidth := d.width_le
  have hheight := d.height_lt
  unfold OffScreen at hshown
  unfold CopiesNothing at hcopies
  have hX : x % 65536 = x := Nat.mod_eq_of_lt (by omega)
  have hY : y % 65536 = y := Nat.mod_eq_of_lt (by omega)
  obtain ⟨n, hn⟩ : ∃ n, min (height % 65536) (d.height + 1 - y % 65536) = n + 1 :=
    ⟨min (height % 65536) (d.height + 1 - y % 65536) - 1, by omega⟩
  have hright : min (x + width) d.width * bytes ≤ bytes * d.width := by
    rw [Nat.mul_comm bytes]
    exact Nat.mul_le_mul_right bytes (Nat.min_le_right _ _)
  rw [common_eq hbytes, copiedBytes, hn, hX, hY,
    runs_eq_block_iff (Nat.mul_lt_mul_of_pos_right (by omega) hbytes) hright (by omega)
      (Nat.mul_pos hbytes (by omega))]
  rw [hY] at hn hcopies
  have hcolumns : x * bytes + bytes * (width % 65536) = min (x + width) d.width * bytes ↔
      x + width % 65536 = min (x + width) d.width := by
    rw [Nat.mul_comm bytes, ← Nat.add_mul, Nat.mul_right_cancel_iff hbytes]
  have hfull : min (x + width) d.width * bytes = bytes * d.width ↔ d.width ≤ x + width := by
    rw [Nat.mul_comm bytes, Nat.mul_right_cancel_iff hbytes]
    omega
  have hlong : bytes * d.width < bytes * (width % 65536) ↔ d.width < width % 65536 :=
    Nat.mul_lt_mul_left hbytes
  have hlines : n * (bytes * d.width) + bytes * (width % 65536) =
      (min (y + height) d.height - y) * (bytes * d.width) ↔
      n * d.width + width % 65536 = (min (y + height) d.height - y) * d.width := by
    rw [Nat.mul_left_comm n, ← Nat.mul_add, Nat.mul_left_comm _ bytes d.width,
      Nat.mul_left_cancel_iff hbytes]
  rw [hcolumns, hfull, hlong, hlines, Nat.mul_eq_zero, Fits, WholeLines]
  constructor
  · rintro (⟨hx, hy⟩ | ⟨⟨hx, hfull⟩, hlong, hwhole⟩)
    · left
      omega
    · have hline : n < min (y + height) d.height - y := by
        refine Nat.lt_of_mul_lt_mul_right (a := d.width) ?_
        omega
      obtain rfl : n = height % 65536 - 1 := by omega
      exact .inr ⟨by omega, by omega, hwhole⟩
  · rintro (⟨_, hx, hy⟩ | ⟨hx, hy, hwhole⟩)
    · left
      omega
    · obtain rfl : n = height % 65536 - 1 := by omega
      exact .inr ⟨by omega, hx.2.2, hwhole⟩

theorem copied_eq_common_iff (hbytes : 0 < bytes) :
    copiedBytes d bytes x y width height = common d bytes x y width height ↔
      CopiesNothing d y width height ∧ OffScreen d x y width height ∨
        Fits d x y width height ∨ WholeLines d x y width height := by
  by_cases hshown : OffScreen d x y width height
  · have hwidth := d.width_pos
    have hnone : ¬ (Fits d x y width height ∨ WholeLines d x y width height) := by
      unfold OffScreen at hshown
      unfold Fits WholeLines
      omega
    rw [(common_eq_empty_iff hbytes).mpr hshown, copiedBytes_eq_empty_iff hbytes, or_iff_left hnone,
      and_iff_left hshown]
  by_cases hcopies : CopiesNothing d y width height
  · have hheight := d.height_lt
    have hnone : ¬ (Fits d x y width height ∨ WholeLines d x y width height) := by
      unfold CopiesNothing at hcopies
      unfold Fits WholeLines
      omega
    rw [(copiedBytes_eq_empty_iff hbytes).mpr hcopies, eq_comm, common_eq_empty_iff hbytes,
      or_iff_left hnone, and_iff_right hcopies]
  · have hboth : ¬ (CopiesNothing d y width height ∧ OffScreen d x y width height) :=
      fun h => hcopies h.1
    rw [copied_eq_common_iff_of_shown hbytes hshown hcopies, or_iff_right hboth]

theorem condition_iff_of_lt (hwidth : width < 65536) (hheight : height < 65536) (hy : y < 65536) :
    (CopiesNothing d y width height ∧ OffScreen d x y width height ∨
        Fits d x y width height ∨ WholeLines d x y width height) ↔
      width = 0 ∨ height = 0 ∨ d.height < y ∨ x + width ≤ d.width ∧ y + height ≤ d.height := by
  rw [CopiesNothing, OffScreen, Fits, WholeLines, Nat.mod_eq_of_lt hwidth,
    Nat.mod_eq_of_lt hheight, Nat.mod_eq_of_lt hy]
  constructor
  · rintro (hnone | hfits | ⟨hx, hlines, hwhole⟩)
    · omega
    · omega
    · obtain ⟨n, rfl⟩ : ∃ n, height = n + 1 := ⟨height - 1, by omega⟩
      rw [Nat.min_eq_left hlines.2.2, Nat.add_sub_cancel_left, Nat.add_sub_cancel, Nat.add_mul,
        Nat.one_mul] at hwhole
      omega
  · omega

end Condition

/-- The rectangle is refreshed, and nothing else, if the bytes that the loops copy are in it. -/
theorem refreshes_iff (d : Screen) (x y width height : Nat) :
    Refreshes d x y width height ↔
      CopiesNothing d.toDevice y width height ∧ OffScreen d.toDevice x y width height ∨
        Fits d.toDevice x y width height ∨ WholeLines d.toDevice x y width height := by
  have hpos : 0 < d.bpp / 8 := by
    rcases d.bpp_eq with h | h <;> omega
  rw [refreshes_iff_eq, copied_eq_common_iff hpos]

def desk : Screen where
  toDevice := Painter.svga
  mapped := by decide

/-- The line below the screen is copied, and so is the beginning of the next line. -/
theorem not_always_refreshed : ¬ Refreshes desk 0 599 10 2 ∧ ¬ Refreshes desk 795 0 10 1 := by
  rw [refreshes_iff_eq, refreshes_iff_eq, copied_eq_common_iff (by decide),
    copied_eq_common_iff (by decide), condition_iff_of_lt (by decide) (by decide) (by decide),
    condition_iff_of_lt (by decide) (by decide) (by decide)]
  decide

end Gramado.Gdi.Refresh
