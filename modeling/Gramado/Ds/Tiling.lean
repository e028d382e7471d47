import Gramado.Ds.WindowChanges
import Gramado.Library.Tiles

/-! The windows of the window manager side by side in the working area. -/

namespace Gramado.Ds.Tiling

open Library.Tiles Ds.Geometry Ds.WindowFrames Ds.WindowChanges

def CONFIG_USE_TILE : Nat := 1
def GRAMADO_JAIL : Nat := 0x00
def WM_MODE_TILED : Nat := 1

structure Settings where
  osMode : Nat
  mode : Nat
  vertical : Bool

/-- What the window manager changes when it places the windows. -/
structure Session where
  boxes : Boxes
  sent : List ProxyMessage
  zIndex : Nat → Int
  activeWindow : Option Nat
  keyboardOwner : Option Nat
  lastWindow : Option Nat
  topWindow : Option Nat
  mouseOwner : Option Nat
  mouseHover : Option Nat

/-- The size `w2`, `h2` and the position `l2`, `t2` that a window is given. -/
structure Spot where
  w2 : UInt64
  h2 : UInt64
  l2 : UInt64
  t2 : UInt64

/-- The windows share one half of the working area. `i` is the index of the window. -/
def cellSpot (wa : WorkArea) (vertical : Bool) (cnt i : Nat) : Spot :=
  if vertical = true then
    let Width := if 1 < cnt then wa.width / UInt64.ofNat (cnt - 1) else wa.width
    let Height := (wa.height - 24) / 2 - 8
    { w2 := Width - 4, h2 := Height - 8
      l2 := wa.left + Width * UInt64.ofNat i + 2, t2 := wa.height / 2 }
  else
    let Width := wa.width / 2 - 4
    let Height := if 1 < cnt then (wa.height - 24) / UInt64.ofNat (cnt - 1) else wa.height
    { w2 := Width, h2 := Height - 4
      l2 := wa.width / 2 + 2, t2 := wa.top + Height * UInt64.ofNat i + 2 }

def masterSpot (wa : WorkArea) (vertical : Bool) : Spot :=
  if vertical = true then
    { w2 := wa.width - 4, h2 := wa.height / 2 - 4 - 4, l2 := wa.left + 2, t2 := wa.top + 2 }
  else
    { w2 := wa.width / 2 - 4, h2 := wa.height - 24 - 4, l2 := wa.left + 2, t2 := wa.top + 2 }

def place (k : Desktop) (w : Nat) (spot : Spot) (s : Session) : Session :=
  let (sent, boxes) := resizeAndMove k w spot.w2 spot.h2 spot.l2 spot.t2 s.boxes
  { s with boxes := boxes, sent := s.sent ++ sent }

def makeMaster (w : Nat) (s : Session) : Session :=
  { s with
    activeWindow := some w
    keyboardOwner := some w
    lastWindow := some w
    topWindow := some w
    mouseOwner := none
    mouseHover := none }

def tileWindow (k : Desktop) (vertical : Bool) (cnt i w : Nat) (s : Session) : Session :=
  let s := place k w (cellSpot k.wa vertical cnt i) s
  if i = cnt - 1 then place k w (masterSpot k.wa vertical) (makeMaster w s) else s

def tileFrom (k : Desktop) (vertical : Bool) (cnt : Nat) : Nat → List Nat → Session → Session
  | _, [], s => s
  | i, w :: rest, s =>
      if cnt ≤ i then s
      else tileFrom k vertical cnt (i + 1) rest (tileWindow k vertical cnt i w s)

def setLevels : Nat → List Nat → (Nat → Int) → Nat → Int
  | _, [], zIndex => zIndex
  | cnt, w :: rest, zIndex => setLevels (cnt + 1) rest (Function.update zIndex w cnt)

def wmTile (k : Desktop) (settings : Settings) (windows : List Nat) (s : Session) : Session :=
  if CONFIG_USE_TILE ≠ 1 then s
  else if settings.osMode = GRAMADO_JAIL then s
  else if k.initialized = false then s
  else if windows = [] then s
  else
    let s := { s with zIndex := setLevels 0 windows s.zIndex }
    if settings.mode ≠ WM_MODE_TILED then s
    else tileFrom k settings.vertical windows.length 0 windows s

def frame (b : Boxes) (w : Nat) : Rect :=
  { left := (b w).absoluteX.toNat, top := (b w).absoluteY.toNat
    width := (b w).width.toNat, height := (b w).height.toNat }

def area (wa : WorkArea) : Rect :=
  { left := wa.left.toNat, top := wa.top.toNat
    width := wa.width.toNat, height := wa.height.toNat }

/-- An overlapped window whose positions begin in the corner of the screen. -/
structure TopLevel (k : Desktop) (b : Boxes) (w : Nat) : Prop where
  valid : (k.nodes w).valid = true
  overlapped : k.overlapped w = true
  parent : ∀ r, (k.nodes w).parent = some r → (k.nodes r).type = .WT_SIMPLE ∧
    (k.nodes r).isTitleBar = false ∧ (b r).absoluteX = 0 ∧ (b r).absoluteY = 0

/-- The window is active and focused, and nothing is above it. -/
structure Master (w : Nat) (s : Session) : Prop where
  active : s.activeWindow = some w
  focused : s.keyboardOwner = some w
  last : s.lastWindow = some w
  top : s.topWindow = some w

def finalSpot (wa : WorkArea) (vertical : Bool) (cnt i : Nat) : Spot :=
  if i = cnt - 1 then masterSpot wa vertical else cellSpot wa vertical cnt i

def placed (k : Desktop) (spot : Spot) : Rect :=
  { left := spot.l2.toNat, top := spot.t2.toNat
    width := (k.clampedSize spot.w2 spot.h2).1.toNat
    height := (k.clampedSize spot.w2 spot.h2).2.toNat }

section Places

variable {k : Desktop} {vertical : Bool} {cnt i w q r : Nat} {s : Session} {b b' : Boxes}

theorem TopLevel.origin (h : TopLevel k b w) : origin k w b = (0, 0) := by
  rw [WindowChanges.origin]
  cases hr : (k.nodes w).parent with
  | none => rfl
  | some r =>
      obtain ⟨htype, _, hx, hy⟩ := h.parent r hr
      simp [htype, hx, hy]

theorem TopLevel.not_affects_parent (h : TopLevel k b w) (hwf : WellFormed k)
    (hq : k.overlapped q = true) (hr : (k.nodes w).parent = some r) : ¬ Affects k q r := by
  obtain ⟨htype, hbar, _⟩ := h.parent r hr
  rintro (rfl | ⟨t, hf, rfl | hc⟩)
  · rw [overlapped_iff, htype] at hq
    cases hq
  · simp [(hwf.titlebar q r hf).1] at hbar
  · simp [(hwf.control q t r hf hc).2.1] at htype

theorem TopLevel.congr (h : TopLevel k b w)
    (hsame : ∀ r, (k.nodes w).parent = some r → b' r = b r) : TopLevel k b' w := by
  refine ⟨h.valid, h.overlapped, ?_⟩
  intro r hr
  rw [hsame r hr]
  exact h.parent r hr

theorem frame_place (hwf : WellFormed k) (h : TopLevel k s.boxes w) (spot : Spot) :
    frame (place k w spot s).boxes w = placed k spot := by
  have hout := outcome_resizeAndMove hwf h.valid spot.w2 spot.h2 spot.l2 spot.t2 s.boxes
  have hsize := hout.size
  have hcorner := hout.corner (.inl h.overlapped)
  have hnew : Change.newSize ⟨some (spot.w2, spot.h2), some (spot.l2, spot.t2)⟩ k w s.boxes =
      k.clampedSize spot.w2 spot.h2 :=
    if_pos h.overlapped
  rw [hnew] at hsize
  rw [Change.corner, h.origin] at hcorner
  simp only [UInt64.zero_add, Prod.mk.injEq] at hcorner
  rw [frame, placed, ← hsize]
  simp only [place, hcorner]

theorem place_other (hwf : WellFormed k) (h : TopLevel k s.boxes w) (spot : Spot)
    (hq : ¬ Affects k w q) : (place k w spot s).boxes q = s.boxes q :=
  (outcome_resizeAndMove hwf h.valid spot.w2 spot.h2 spot.l2 spot.t2 s.boxes).other q hq

theorem TopLevel.place (h : TopLevel k s.boxes w) (hwf : WellFormed k)
    (hq : TopLevel k s.boxes q) (spot : Spot) : TopLevel k (place k q spot s).boxes w :=
  h.congr fun _ hr => place_other hwf hq spot (h.not_affects_parent hwf hq.overlapped hr)

theorem tileWindow_other (hwf : WellFormed k) (h : TopLevel k s.boxes w)
    (hq : ¬ Affects k w q) : (tileWindow k vertical cnt i w s).boxes q = s.boxes q := by
  rw [tileWindow]
  split
  · have hagain := place_other (s := makeMaster w (place k w (cellSpot k.wa vertical cnt i) s))
      hwf (h.place hwf h _) (masterSpot k.wa vertical) hq
    exact hagain.trans (place_other hwf h _ hq)
  · exact place_other hwf h _ hq

theorem frame_tileWindow (hwf : WellFormed k) (h : TopLevel k s.boxes w) :
    frame (tileWindow k vertical cnt i w s).boxes w = placed k (finalSpot k.wa vertical cnt i) := by
  rw [tileWindow, finalSpot]
  split
  · exact frame_place (s := makeMaster w (place k w _ s)) hwf (h.place hwf h _) _
  · exact frame_place hwf h _

theorem TopLevel.tileWindow (h : TopLevel k s.boxes w) (hwf : WellFormed k)
    (hq : TopLevel k s.boxes q) : TopLevel k (tileWindow k vertical cnt i q s).boxes w :=
  h.congr fun _ hr => tileWindow_other hwf hq (h.not_affects_parent hwf hq.overlapped hr)

end Places

section Walk

variable {k : Desktop} {vertical : Bool} {cnt i w : Nat} {windows : List Nat} {s : Session}

theorem tileFrom_cons (hi : i < cnt) (w : Nat) (rest : List Nat) (s : Session) :
    tileFrom k vertical cnt i (w :: rest) s =
      tileFrom k vertical cnt (i + 1) rest (tileWindow k vertical cnt i w s) := by
  rw [tileFrom, if_neg (by omega)]

theorem tileFrom_other (hwf : WellFormed k) (hlength : i + windows.length = cnt)
    (htop : ∀ q ∈ windows, TopLevel k s.boxes q) (hw : k.overlapped w = true)
    (hnot : w ∉ windows) : (tileFrom k vertical cnt i windows s).boxes w = s.boxes w := by
  induction windows generalizing i s with
  | nil => rw [tileFrom]
  | cons q rest ih =>
      rw [List.length_cons] at hlength
      obtain ⟨hwq, hrest⟩ := not_or.mp (mt List.mem_cons.mpr hnot)
      have hq := htop q List.mem_cons_self
      rw [tileFrom_cons (by omega), ih (by omega) ?_ hrest]
      · exact tileWindow_other hwf hq (hwf.not_affects_overlapped hw hwq)
      · intro r hr
        exact (htop r (List.mem_cons_of_mem q hr)).tileWindow hwf hq

theorem frames_tileFrom (hwf : WellFormed k) (hlength : i + windows.length = cnt)
    (htop : ∀ q ∈ windows, TopLevel k s.boxes q) (hnodup : windows.Nodup) :
    windows.map (frame (tileFrom k vertical cnt i windows s).boxes) =
      (List.range' i windows.length).map fun j =>
        placed k (finalSpot k.wa vertical cnt j) := by
  induction windows generalizing i s with
  | nil => rfl
  | cons q rest ih =>
      obtain ⟨hnot, hrest⟩ := List.nodup_cons.mp hnodup
      rw [List.length_cons] at hlength
      have hq := htop q List.mem_cons_self
      have hnext : ∀ r ∈ rest, TopLevel k (tileWindow k vertical cnt i q s).boxes r :=
        fun r hr => (htop r (List.mem_cons_of_mem q hr)).tileWindow hwf hq
      rw [tileFrom_cons (by omega), List.length_cons, List.range'_succ, List.map_cons,
        List.map_cons, ih (by omega) hnext hrest, frame,
        tileFrom_other hwf (by omega) hnext hq.overlapped hnot]
      congr 1
      exact frame_tileWindow hwf hq

theorem tileFrom_master (hlength : i + windows.length = cnt) (hsome : windows ≠ []) :
    Master (windows.getLast hsome) (tileFrom k vertical cnt i windows s) := by
  induction windows generalizing i s with
  | nil => exact (hsome rfl).elim
  | cons q rest ih =>
      rw [List.length_cons] at hlength
      rw [tileFrom_cons (by omega)]
      cases rest with
      | nil =>
          rw [List.length_nil] at hlength
          rw [List.getLast_singleton, tileFrom, tileWindow, if_pos (by omega)]
          exact ⟨rfl, rfl, rfl, rfl⟩
      | cons r rest =>
          rw [List.getLast_cons (List.cons_ne_nil r rest)]
          exact ih (by omega) _

theorem tileFrom_zIndex : (tileFrom k vertical cnt i windows s).zIndex = s.zIndex := by
  induction windows generalizing i s with
  | nil => rw [tileFrom]
  | cons q rest ih =>
      rw [tileFrom]
      split
      · rfl
      · rw [ih, tileWindow]
        split <;> rfl

end Walk

section Levels

variable {windows : List Nat} {zIndex : Nat → Int} {cnt w : Nat}

theorem setLevels_append (windows : List Nat) (zIndex : Nat → Int) (cnt w : Nat) :
    setLevels cnt (windows ++ [w]) zIndex =
      Function.update (setLevels cnt windows zIndex) w (cnt + windows.length : Nat) := by
  induction windows generalizing cnt zIndex with
  | nil => simp [setLevels]
  | cons q rest ih =>
      rw [List.cons_append, setLevels, ih, setLevels, List.length_cons]
      congr 2
      omega

theorem setLevels_lt (hw : w ∈ windows ∨ zIndex w < cnt) :
    setLevels cnt windows zIndex w < (cnt + windows.length : Nat) := by
  induction windows generalizing cnt zIndex with
  | nil => simpa [setLevels] using hw
  | cons q rest ih =>
      have hnext : w ∈ rest ∨ Function.update zIndex q (cnt : Int) w < (cnt + 1 : Nat) := by
        by_cases hwq : w = q
        · subst hwq
          right
          rw [Function.update_self]
          omega
        · rw [Function.update_of_ne hwq]
          simp only [List.mem_cons, hwq, false_or] at hw
          exact hw.imp id fun hlt => by omega
      rw [setLevels, List.length_cons]
      have hlt := ih hnext
      omega

theorem setLevels_le_last (hsome : windows ≠ []) (hw : w ∈ windows) :
    setLevels 0 windows zIndex w ≤ setLevels 0 windows zIndex (windows.getLast hsome) := by
  have hlast : setLevels 0 windows zIndex (windows.getLast hsome) = (windows.length - 1 : Nat) := by
    have happend := setLevels_append windows.dropLast zIndex 0 (windows.getLast hsome)
    rw [List.dropLast_append_getLast hsome] at happend
    rw [happend, Function.update_self, List.length_dropLast, Nat.zero_add]
  have hlt : setLevels 0 windows zIndex w < (0 + windows.length : Nat) := setLevels_lt (.inl hw)
  rw [hlast]
  omega

end Levels

section Shares

variable {k : Desktop} {n i d : Nat}

/-- The part of the working area that is for the window with the index `i` of `n` windows. -/
def share (wa : WorkArea) (vertical : Bool) (n i : Nat) : Nat × Nat :=
  if vertical = true then
    if i = n - 1 then (wa.width.toNat, wa.height.toNat / 2 - 4)
    else (wa.width.toNat / (n - 1), (wa.height.toNat - 24) / 2 - 8)
  else
    if i = n - 1 then (wa.width.toNat / 2, wa.height.toNat - 24)
    else (wa.width.toNat / 2 - 4, (wa.height.toNat - 24) / (n - 1))

def Shares (wa : WorkArea) (vertical : Bool) (n : Nat) : Prop :=
  ∀ i < n, METRICS_DEFAULT_MINIMUM_WINDOW_WIDTH.toNat ≤ (share wa vertical n i).1 ∧
    METRICS_DEFAULT_MINIMUM_WINDOW_HEIGHT.toNat ≤ (share wa vertical n i).2

instance (wa : WorkArea) (vertical : Bool) (n : Nat) : Decidable (Shares wa vertical n) :=
  inferInstanceAs (Decidable (∀ i < n, _ ∧ _))

theorem toNat_max (a b : UInt64) : (max a b).toNat = max a.toNat b.toNat := by
  change (if a ≤ b then b else a).toNat = _
  split
  · rename_i h
    exact (max_eq_right (UInt64.le_iff_toNat_le.mp h)).symm
  · rename_i h
    rw [UInt64.not_le, UInt64.lt_iff_toNat_lt] at h
    exact (max_eq_left h.le).symm

theorem toNat_min (a b : UInt64) : (min a b).toNat = min a.toNat b.toNat := by
  change (if a ≤ b then a else b).toNat = _
  split
  · rename_i h
    exact (min_eq_left (UInt64.le_iff_toNat_le.mp h)).symm
  · rename_i h
    rw [UInt64.not_le, UInt64.lt_iff_toNat_lt] at h
    exact (min_eq_right h.le).symm

theorem placed_eq (hinit : k.initialized = true) (spot : Spot) : placed k spot =
      { left := spot.l2.toNat, top := spot.t2.toNat
        width := min (max spot.w2.toNat 103) k.wa.width.toNat
        height := min (max spot.h2.toNat 43) k.wa.height.toNat } := by
  rw [placed, Desktop.clampedSize, if_pos hinit]
  simp only [toNat_max, toNat_min]
  rfl

theorem toNat_step {x : UInt64} (hd : x.toNat / (n - 1) = d) (hpos : 0 < d) (hi : i < n - 1) :
    (x / UInt64.ofNat (n - 1)).toNat = d ∧
      (x / UInt64.ofNat (n - 1) * UInt64.ofNat i).toNat = d * i ∧ d * i + d ≤ x.toNat := by
  have hx := x.toNat_lt
  have hsize : UInt64.size = 2 ^ 64 := rfl
  have htotal : d * (n - 1) ≤ x.toNat := by
    rw [← hd]
    exact Nat.div_mul_le_self _ _
  have hcount : n - 1 ≤ d * (n - 1) := Nat.le_mul_of_pos_left _ hpos
  have hnext : d * i + d ≤ d * (n - 1) := step_le hi le_rfl
  have hwidth : (x / UInt64.ofNat (n - 1)).toNat = d := by
    rw [UInt64.toNat_div, UInt64.toNat_ofNat_of_lt' (by omega), hd]
  refine ⟨hwidth, ?_, by omega⟩
  rw [UInt64.toNat_mul, hwidth, UInt64.toNat_ofNat_of_lt' (by omega), Nat.mod_eq_of_lt (by omega)]

theorem placed_cellSpot_vertical (hinit : k.initialized = true) (hi : i < n - 1)
    (hd : k.wa.width.toNat / (n - 1) = d) (hwidth : 103 ≤ d)
    (hheight : 43 ≤ (k.wa.height.toNat - 24) / 2 - 8) :
    placed k (cellSpot k.wa true n i) =
      { left := (k.wa.left.toNat + d * i + 2) % 2 ^ 64, top := k.wa.height.toNat / 2
        width := max (d - 4) 103, height := max ((k.wa.height.toNat - 24) / 2 - 16) 43 } := by
  obtain ⟨hx, hstep, hle⟩ := toNat_step hd (by omega) hi
  have hH := k.wa.height.toNat_lt
  have hW := k.wa.width.toNat_lt
  rw [placed_eq hinit, cellSpot, if_pos rfl, if_pos (by omega)]
  simp only [UInt64.toNat_add, UInt64.toNat_sub, UInt64.toNat_div, UInt64.toNat_ofNat, hx, hstep,
    Rect.mk.injEq, true_and, Nat.reducePow, Nat.reduceMod]
  omega

theorem placed_cellSpot_horizontal (hinit : k.initialized = true) (hi : i < n - 1)
    (hd : (k.wa.height.toNat - 24) / (n - 1) = d) (hwidth : 103 ≤ k.wa.width.toNat / 2 - 4)
    (hheight : 43 ≤ d) :
    placed k (cellSpot k.wa false n i) =
      { left := k.wa.width.toNat / 2 + 2, top := (k.wa.top.toNat + d * i + 2) % 2 ^ 64
        width := max (k.wa.width.toNat / 2 - 4) 103, height := max (d - 4) 43 } := by
  have hH := k.wa.height.toNat_lt
  have hW := k.wa.width.toNat_lt
  have hrest : k.wa.height.toNat - 24 = (k.wa.height - 24).toNat := by
    have htall : 24 ≤ k.wa.height.toNat := by
      by_contra hshort
      rw [Nat.sub_eq_zero_of_le (by omega), Nat.zero_div] at hd
      omega
    have hle : (24 : UInt64) ≤ k.wa.height := UInt64.le_iff_toNat_le.mpr htall
    rw [UInt64.toNat_sub_of_le _ _ hle]
    rfl
  rw [hrest] at hd
  obtain ⟨hx, hstep, hle⟩ := toNat_step hd (by omega) hi
  rw [placed_eq hinit, cellSpot, if_neg Bool.false_ne_true, if_pos (by omega)]
  simp only [UInt64.toNat_add, UInt64.toNat_sub, UInt64.toNat_div, UInt64.toNat_ofNat, hx, hstep,
    Rect.mk.injEq, Nat.reducePow, Nat.reduceMod]
  omega

theorem placed_masterSpot_vertical (hinit : k.initialized = true)
    (hwidth : 103 ≤ k.wa.width.toNat) (hheight : 43 ≤ k.wa.height.toNat / 2 - 4) :
    placed k (masterSpot k.wa true) =
      { left := (k.wa.left.toNat + 2) % 2 ^ 64, top := (k.wa.top.toNat + 2) % 2 ^ 64
        width := max (k.wa.width.toNat - 4) 103
        height := max (k.wa.height.toNat / 2 - 8) 43 } := by
  have hH := k.wa.height.toNat_lt
  have hW := k.wa.width.toNat_lt
  rw [placed_eq hinit, masterSpot, if_pos rfl]
  simp only [UInt64.toNat_add, UInt64.toNat_sub, UInt64.toNat_div, UInt64.toNat_ofNat,
    Rect.mk.injEq, true_and, Nat.reducePow, Nat.reduceMod]
  omega

theorem placed_masterSpot_horizontal (hinit : k.initialized = true)
    (hwidth : 103 ≤ k.wa.width.toNat / 2) (hheight : 43 ≤ k.wa.height.toNat - 24) :
    placed k (masterSpot k.wa false) =
      { left := (k.wa.left.toNat + 2) % 2 ^ 64, top := (k.wa.top.toNat + 2) % 2 ^ 64
        width := max (k.wa.width.toNat / 2 - 4) 103
        height := max (k.wa.height.toNat - 28) 43 } := by
  have hH := k.wa.height.toNat_lt
  have hW := k.wa.width.toNat_lt
  rw [placed_eq hinit, masterSpot, if_neg Bool.false_ne_true]
  simp only [UInt64.toNat_add, UInt64.toNat_sub, UInt64.toNat_div, UInt64.toNat_ofNat,
    Rect.mk.injEq, true_and, Nat.reducePow, Nat.reduceMod]
  omega

/-- The room that the windows need. The positions in the shared half do not count from the corner
of the working area in both directions. -/
def Room (wa : WorkArea) (vertical : Bool) (n : Nat) : Prop :=
  if vertical = true then
    if n = 1 then
      wa.left.toNat + 2 < 2 ^ 64 ∧ wa.top.toNat + 2 < 2 ^ 64 ∧ 105 ≤ wa.width.toNat
    else
      wa.top.toNat ≤ 6 ∧ wa.left.toNat + wa.width.toNat / (n - 1) * (n - 2) + 2 < 2 ^ 64 ∧
        (107 ≤ wa.width.toNat / (n - 1) ∨
          wa.width.toNat / (n - 1) * (n - 2) + 105 ≤ wa.width.toNat)
  else
    if n = 1 then wa.left.toNat + 2 < 2 ^ 64 ∧ wa.top.toNat + 2 < 2 ^ 64
    else
      wa.left.toNat ≤ 4 ∧
        wa.top.toNat + (wa.height.toNat - 24) / (n - 1) * (n - 2) + 2 < 2 ^ 64

theorem solid_cell {l t x y : Nat} : Rect.Solid ⟨l, t, max x 103, max y 43⟩ := ⟨by simp, by simp⟩

theorem tile_vertical_iff (hinit : k.initialized = true) (hn : 1 < n)
    (hd : k.wa.width.toNat / (n - 1) = d) (hwidth : 103 ≤ d)
    (hheight : 43 ≤ (k.wa.height.toNat - 24) / 2 - 8) :
    Tile (area k.wa) ((List.range (n - 1)).map (fun i => placed k (cellSpot k.wa true n i)) ++
        [placed k (masterSpot k.wa true)]) ↔
      k.wa.top.toNat ≤ 6 ∧ k.wa.left.toNat + d * (n - 2) + 2 < 2 ^ 64 ∧
        (107 ≤ d ∨ d * (n - 2) + 105 ≤ k.wa.width.toNat) := by
  have hW := k.wa.width.toNat_lt
  have hT := k.wa.top.toNat_lt
  have hL := k.wa.left.toNat_lt
  have hH := k.wa.height.toNat_lt
  have htotal := (toNat_step hd (by omega) (show n - 2 < n - 1 by omega)).2.2
  have hcells : (List.range (n - 1)).map (fun i => placed k (cellSpot k.wa true n i)) =
      (List.range (n - 1)).map fun i =>
        { left := (k.wa.left.toNat + d * i + 2) % 2 ^ 64, top := k.wa.height.toNat / 2
          width := max (d - 4) 103, height := max ((k.wa.height.toNat - 24) / 2 - 16) 43 } := by
    apply List.map_congr_left
    intro i hi
    exact placed_cellSpot_vertical hinit (List.mem_range.mp hi) hd hwidth hheight
  rw [hcells, placed_masterSpot_vertical hinit (by omega) (by omega), tile_row_iff]
  simp only [disjoint_points_iff solid_cell solid_cell, points_subset_iff solid_cell, area]
  constructor
  · rintro ⟨⟨_, hlast⟩, hinside, _⟩
    have hfirst := hlast 0 (by omega)
    have htop := hinside 0 (by omega)
    have hend := hinside (n - 2) (by omega)
    omega
  · rintro ⟨htop, hleft, hroom⟩
    have hcell : ∀ i < n - 1, d * i + max (d - 4) 103 + 2 ≤ k.wa.width.toNat ∧
        d * i ≤ d * (n - 2) := by
      intro i hi
      rcases Nat.lt_or_ge i (n - 2) with hlt | hge
      · have hstep := step_le hlt (le_refl d)
        omega
      · obtain rfl : i = n - 2 := by omega
        omega
    refine ⟨⟨?_, ?_⟩, ?_, ?_⟩
    · intro i j hij hj
      have hi := hcell i (by omega)
      have hj' := hcell j hj
      have hstep := step_le hij (le_refl d)
      omega
    · intro i hi
      have hi' := hcell i hi
      omega
    · intro i hi
      have hi' := hcell i hi
      omega
    · omega

theorem tile_horizontal_iff (hinit : k.initialized = true) (hn : 1 < n)
    (hd : (k.wa.height.toNat - 24) / (n - 1) = d) (hwidth : 103 ≤ k.wa.width.toNat / 2 - 4)
    (hheight : 43 ≤ d) :
    Tile (area k.wa) ((List.range (n - 1)).map (fun i => placed k (cellSpot k.wa false n i)) ++
        [placed k (masterSpot k.wa false)]) ↔
      k.wa.left.toNat ≤ 4 ∧ k.wa.top.toNat + d * (n - 2) + 2 < 2 ^ 64 := by
  have hW := k.wa.width.toNat_lt
  have hT := k.wa.top.toNat_lt
  have hL := k.wa.left.toNat_lt
  have hH := k.wa.height.toNat_lt
  have htotal : d * (n - 2) + d ≤ k.wa.height.toNat - 24 := by
    have hstep := step_le (show n - 2 < n - 1 by omega) (le_refl d)
    have hle := Nat.div_mul_le_self (k.wa.height.toNat - 24) (n - 1)
    rw [hd] at hle
    omega
  have hcells : (List.range (n - 1)).map (fun i => placed k (cellSpot k.wa false n i)) =
      (List.range (n - 1)).map fun i =>
        { left := k.wa.width.toNat / 2 + 2, top := (k.wa.top.toNat + d * i + 2) % 2 ^ 64
          width := max (k.wa.width.toNat / 2 - 4) 103, height := max (d - 4) 43 } := by
    apply List.map_congr_left
    intro i hi
    exact placed_cellSpot_horizontal hinit (List.mem_range.mp hi) hd hwidth hheight
  rw [hcells, placed_masterSpot_horizontal hinit (by omega) (by omega), tile_row_iff]
  simp only [disjoint_points_iff solid_cell solid_cell, points_subset_iff solid_cell, area]
  constructor
  · rintro ⟨⟨_, hlast⟩, hinside, _⟩
    have hfirst := hlast 0 (by omega)
    have hleft := hinside 0 (by omega)
    have hend := hinside (n - 2) (by omega)
    omega
  · rintro ⟨hleft, htop⟩
    have hcell : ∀ i < n - 1, d * i + max (d - 4) 43 + 2 ≤ k.wa.height.toNat ∧
        d * i ≤ d * (n - 2) := by
      intro i hi
      have hle := Nat.mul_le_mul_left d (show i ≤ n - 2 by omega)
      omega
    refine ⟨⟨?_, ?_⟩, ?_, ?_⟩
    · intro i j hij hj
      have hi := hcell i (by omega)
      have hj' := hcell j hj
      have hstep := step_le hij (le_refl d)
      omega
    · intro i hi
      have hi' := hcell i hi
      omega
    · intro i hi
      have hi' := hcell i hi
      omega
    · omega

theorem tile_single_vertical_iff (hinit : k.initialized = true)
    (hwidth : 103 ≤ k.wa.width.toNat) (hheight : 43 ≤ k.wa.height.toNat / 2 - 4) :
    Tile (area k.wa) [placed k (masterSpot k.wa true)] ↔
      k.wa.left.toNat + 2 < 2 ^ 64 ∧ k.wa.top.toNat + 2 < 2 ^ 64 ∧ 105 ≤ k.wa.width.toNat := by
  have hT := k.wa.top.toNat_lt
  have hL := k.wa.left.toNat_lt
  rw [placed_masterSpot_vertical hinit hwidth hheight, tile_singleton, points_subset_iff solid_cell]
  simp only [area]
  omega

theorem tile_single_horizontal_iff (hinit : k.initialized = true)
    (hwidth : 103 ≤ k.wa.width.toNat / 2) (hheight : 43 ≤ k.wa.height.toNat - 24) :
    Tile (area k.wa) [placed k (masterSpot k.wa false)] ↔
      k.wa.left.toNat + 2 < 2 ^ 64 ∧ k.wa.top.toNat + 2 < 2 ^ 64 := by
  have hT := k.wa.top.toNat_lt
  have hL := k.wa.left.toNat_lt
  rw [placed_masterSpot_horizontal hinit hwidth hheight, tile_singleton,
    points_subset_iff solid_cell]
  simp only [area]
  omega

theorem tile_iff_room (hinit : k.initialized = true) (vertical : Bool) (hn : 0 < n)
    (hshares : Shares k.wa vertical n) :
    Tile (area k.wa) ((List.range n).map fun i => placed k (finalSpot k.wa vertical n i)) ↔
      Room k.wa vertical n := by
  have hfinal : (List.range n).map (fun i => placed k (finalSpot k.wa vertical n i)) =
      (List.range (n - 1)).map (fun i => placed k (cellSpot k.wa vertical n i)) ++
        [placed k (masterSpot k.wa vertical)] := by
    obtain ⟨m, rfl⟩ : ∃ m, n = m + 1 := ⟨n - 1, by omega⟩
    rw [List.range_succ, List.map_append, Nat.add_sub_cancel]
    congr 1
    · apply List.map_congr_left
      intro i hi
      rw [finalSpot, if_neg (by have hi' := List.mem_range.mp hi; omega)]
    · simp [finalSpot]
  have hlast := hshares (n - 1) (by omega)
  rw [hfinal, Room]
  cases vertical with
  | true =>
      rw [share, if_pos rfl, if_pos rfl] at hlast
      rw [if_pos rfl]
      rcases Nat.lt_or_ge 1 n with hmany | hone
      · have hfirst := hshares 0 hn
        rw [share, if_pos rfl, if_neg (by omega)] at hfirst
        rw [if_neg (by omega)]
        exact tile_vertical_iff hinit hmany rfl hfirst.1 hfirst.2
      · obtain rfl : n = 1 := by omega
        rw [if_pos rfl]
        exact tile_single_vertical_iff hinit hlast.1 hlast.2
  | false =>
      rw [share, if_neg Bool.false_ne_true, if_pos rfl] at hlast
      rw [if_neg Bool.false_ne_true]
      rcases Nat.lt_or_ge 1 n with hmany | hone
      · have hfirst := hshares 0 hn
        rw [share, if_neg Bool.false_ne_true, if_neg (by omega)] at hfirst
        rw [if_neg (by omega)]
        exact tile_horizontal_iff hinit hmany rfl hfirst.1 hfirst.2
      · obtain rfl : n = 1 := by omega
        rw [if_pos rfl]
        exact tile_single_horizontal_iff hinit hlast.1 hlast.2

end Shares

section Tiling

variable {k : Desktop} {settings : Settings} {windows : List Nat} {s : Session}

/-- The windows are side by side in the working area, and the last one is the master window. -/
structure Tiled (k : Desktop) (windows : List Nat) (s : Session) : Prop where
  tile : Tile (area k.wa) (windows.map (frame s.boxes))
  master : ∀ w ∈ windows.getLast?, Master w s
  level : ∀ w ∈ windows.getLast?, ∀ q ∈ windows, s.zIndex q ≤ s.zIndex w

structure Enabled (k : Desktop) (settings : Settings) : Prop where
  initialized : k.initialized = true
  osMode : settings.osMode ≠ GRAMADO_JAIL
  mode : settings.mode = WM_MODE_TILED

theorem wmTile_eq (h : Enabled k settings) (hsome : windows ≠ []) (s : Session) :
    wmTile k settings windows s = tileFrom k settings.vertical windows.length 0 windows
      { s with zIndex := setLevels 0 windows s.zIndex } := by
  rw [wmTile, if_neg (by decide), if_neg h.osMode, if_neg (by simp [h.initialized]), if_neg hsome]
  exact if_neg (not_not_intro h.mode)

theorem frames_wmTile (hwf : WellFormed k) (h : Enabled k settings) (hsome : windows ≠ [])
    (hnodup : windows.Nodup) (htop : ∀ w ∈ windows, TopLevel k s.boxes w) :
    windows.map (frame (wmTile k settings windows s).boxes) =
      (List.range windows.length).map fun i =>
        placed k (finalSpot k.wa settings.vertical windows.length i) := by
  rw [wmTile_eq h hsome, List.range_eq_range']
  exact frames_tileFrom hwf (Nat.zero_add _) htop hnodup

def plainNode : Node where
  valid := true
  type := .WT_OVERLAPPED
  isTitleBar := false
  parent := none
  titlebar := none
  controlsInitialized := false
  minimizeWid := -1
  maximizeWid := -1
  closeWid := -1
  leftOffset := 0
  borderSize := 0
  titlebarHeight := 0
  clientLeft := 0
  clientTop := 0
  clientTid := 0

def plainBox : Box where
  state := .WINDOW_STATE_NORMAL
  left := 0
  top := 0
  width := 200
  height := 200
  absoluteX := 0
  absoluteY := 0
  absoluteRight := 200
  absoluteBottom := 200
  clientWidth := 0
  clientHeight := 0
  widthInChars := 0
  heightInChars := 0

/-- Overlapped windows without title bars on a screen of 800 columns and 600 lines. -/
def desk (top : UInt64) : Desktop where
  nodes := fun _ => plainNode
  windowList := fun _ => none
  rootWindow := none
  taskbarWindow := none
  initialized := true
  isFullscreen := false
  wa := { left := 0, top := top, width := 800, height := 600 - top }
  maximizationStyle := none

def session : Session where
  boxes := fun _ => plainBox
  sent := []
  zIndex := fun _ => 0
  activeWindow := none
  keyboardOwner := none
  lastWindow := none
  topWindow := none
  mouseOwner := none
  mouseHover := none

def tiling (vertical : Bool) : Settings := { osMode := 2, mode := WM_MODE_TILED, vertical }

theorem desk_wellFormed (top : UInt64) : WellFormed (desk top) := by
  have hbar : ∀ p t, ¬ FrameOf (desk top) p t := by
    intro p t hf
    have hnone := hf.titlebar
    cases hnone
  refine ⟨⟨fun _ => 0, ?_⟩, ?_, ?_, ?_, ?_, ?_⟩
  · intro p q hq
    cases hq
  · exact fun p t hf => (hbar p t hf).elim
  · exact fun p t hf => (hbar p t hf).elim
  · exact fun p t c hf => (hbar p t hf).elim
  · exact fun p t hf => (hbar p t hf).elim
  · intro p q _ hq
    cases hq

theorem enabled_desk (top : UInt64) (vertical : Bool) : Enabled (desk top) (tiling vertical) :=
  ⟨rfl, by simp [tiling, GRAMADO_JAIL], rfl⟩

theorem topLevel_desk (top : UInt64) (w : Nat) : TopLevel (desk top) session.boxes w := by
  refine ⟨rfl, by simp [Desktop.overlapped, desk, plainNode], ?_⟩
  intro r hr
  cases hr

end Tiling

end Gramado.Ds.Tiling
