import Gramado.Ds.WindowChanges

/-! The calls after which the rectangles of the windows still fit together. -/

namespace Gramado.Ds.WindowRuns

open Library.Run Ds.Geometry Ds.WindowFrames Ds.WindowChanges

def sizedBox (c : Change) (k : Desktop) (p : Nat) (b : Boxes) : Box :=
  (b p).setSize (c.newSize k p b).1 (c.newSize k p b).2

section Fits

variable (c : Change) (k : Desktop) (p : Nat) (b : Boxes)

/-- The right and the bottom edge of the title bar stay where they are, and so do the controls of a
window that only gets a size. -/
structure FitsTitlebar (t : Nat) : Prop where
  right : (b t).absoluteRight = (c.barCorner k p b t).1 + c.barWidth k p b t
  bottom : (b t).absoluteBottom = (c.barCorner k p b t).2 + (b t).height
  x : (c.barCorner k p b t).1 = (c.corner k p b).1 + (b t).left
  y : (c.barCorner k p b t).2 = (c.corner k p b).2 + (b t).top
  inside : Inside (b t).left.toNat (b t).top.toNat (c.barWidth k p b t).toNat
    (b t).height.toNat (sizedBox c k p b)
  controls : (k.nodes t).controlsInitialized = true → ∀ d ∈ k.controls t,
    (c.place = none → c.controlLeft k p b d = (b d).left) ∧
      Inside ((b t).left.toNat + (c.controlLeft k p b d).toNat)
        ((b t).top.toNat + (b d).top.toNat) (b d).width.toNat (b d).height.toNat
        (sizedBox c k p b)

/-- A title bar that is changed itself; its controls stay where they are. -/
structure FitsWindow (q : Nat) : Prop where
  x : (c.corner k p b).1 = (b q).absoluteX + (c.relative p b).1
  y : (c.corner k p b).2 = (b q).absoluteY + (c.relative p b).2
  inside : Inside (c.relative p b).1.toNat (c.relative p b).2.toNat
    (c.newSize k p b).1.toNat (c.newSize k p b).2.toNat (b q)
  controls : (k.nodes p).controlsInitialized = true → ∀ d ∈ k.controls p,
    c.corner k p b = ((b p).absoluteX, (b p).absoluteY) ∧
      Inside ((c.relative p b).1.toNat + (b d).left.toNat)
        ((c.relative p b).2.toNat + (b d).top.toNat) (b d).width.toNat (b d).height.toNat (b q)

def FitsControl (q t : Nat) : Prop :=
  Inside ((b t).left.toNat + (c.relative p b).1.toNat)
    ((b t).top.toNat + (c.relative p b).2.toNat) (c.newSize k p b).1.toNat
    (c.newSize k p b).2.toNat (b q)

structure FitsChange : Prop where
  titlebar : ∀ t, FrameOf k p t → FitsTitlebar c k p b t
  children : ∀ q, ChildOf k q p → c.corner k p b = ((b p).absoluteX, (b p).absoluteY)
  window : ∀ q, FrameOf k q p → FitsWindow c k p b q
  control : ∀ q t, FrameOf k q t → p ∈ k.controls t →
    (k.nodes t).controlsInitialized = true → FitsControl c k p b q t

end Fits

variable {p q : Nat}

section Iff

variable {c : Change} {k : Desktop} {p q t d : Nat} {b b' : Boxes}

theorem pair_eq {α β : Type*} {x : α} {y : β} {r : α × β} (h : (x, y) = r) : x = r.1 ∧ y = r.2 :=
  ⟨congrArg Prod.fst h, congrArg Prod.snd h⟩

theorem inside_congr {left top width height : Nat} {frame frame' : Box}
    (hw : frame.width = frame'.width) (hh : frame.height = frame'.height) :
    Inside left top width height frame ↔ Inside left top width height frame' := by
  rw [Inside, Inside, hw, hh]

theorem edges_titlebar (h : Outcome c k p b b') (hf : FrameOf k p t) :
    Edges (b' t) ↔ (b t).absoluteRight = (c.barCorner k p b t).1 + c.barWidth k p b t ∧
      (b t).absoluteBottom = (c.barCorner k p b t).2 + (b t).height := by
  rw [h.titlebar t hf]
  rfl

theorem edges_control (h : Outcome c k p b b') (hf : FrameOf k p t) (hd : d ∈ k.controls t)
    (hedges : Edges (b d)) : Edges (b' d) := by
  rw [h.control t d hf hd]
  split
  · exact edges_synced _
  · exact hedges

theorem control_iff (hb : Consistent k b) (h : Outcome c k p b b') (hf : FrameOf k p t)
    (hinit : (k.nodes t).controlsInitialized = true) (hd : d ∈ k.controls t) :
    ControlHolds p t d b' ↔ (c.place = none → c.controlLeft k p b d = (b d).left) ∧
        Inside ((b t).left.toNat + (c.controlLeft k p b d).toNat)
          ((b t).top.toNat + (b d).top.toNat) (b d).width.toNat (b d).height.toNat
          (sizedBox c k p b) := by
  have hold := (hb.frames p t hf).controls hinit d hd
  have hsize := pair_eq h.size
  have hbar := h.titlebar t hf
  have hcontrol := h.control t d hf hd
  have hinside : ∀ left top width height, Inside left top width height (b' p) ↔
      Inside left top width height (sizedBox c k p b) :=
    fun _ _ _ _ => inside_congr hsize.1 hsize.2
  by_cases hplace : c.place = none
  · have hcorner : c.barCorner k p b t = ((b t).absoluteX, (b t).absoluteY) := by
      rw [Change.barCorner, hplace]
    rw [if_neg fun h => h.2 hplace] at hcontrol
    rw [hcorner] at hbar
    constructor
    · rintro ⟨hx, _, hin⟩
      rw [hinside, hcontrol, hbar] at hin
      rw [hcontrol, hbar] at hx
      refine ⟨fun _ => ?_, hin⟩
      have heq : (b t).absoluteX + c.controlLeft k p b d = (b t).absoluteX + (b d).left :=
        hx.symm.trans hold.x
      exact (UInt64.add_right_inj _).mp heq
    · rintro ⟨hleft, hin⟩
      refine ⟨?_, ?_, ?_⟩
      · rw [hcontrol, hbar, hleft hplace]
        exact hold.x
      · rw [hcontrol, hbar]
        exact hold.y
      · rw [hinside, hcontrol, hbar]
        exact hin
  · rw [if_pos ⟨hinit, hplace⟩] at hcontrol
    constructor
    · intro hholds
      have hin := hholds.inside
      rw [hinside, hcontrol, hbar] at hin
      exact ⟨fun h => (hplace h).elim, hin⟩
    · rintro ⟨_, hin⟩
      refine ⟨?_, ?_, ?_⟩
      · rw [hcontrol, hbar]
        rfl
      · rw [hcontrol, hbar]
        rfl
      · rw [hinside, hcontrol, hbar]
        exact hin

theorem titlebar_iff (hb : Consistent k b) (h : Outcome c k p b b') (hf : FrameOf k p t) :
    Edges (b' t) ∧ FrameHolds k p t b' ↔ FitsTitlebar c k p b t := by
  have hsize := pair_eq h.size
  have hcorner := pair_eq (h.corner (.inl hf.overlapped))
  have hbar := h.titlebar t hf
  have hinside : ∀ left top width height, Inside left top width height (b' p) ↔
      Inside left top width height (sizedBox c k p b) :=
    fun _ _ _ _ => inside_congr hsize.1 hsize.2
  rw [edges_titlebar h hf]
  constructor
  · rintro ⟨⟨hright, hbottom⟩, hholds⟩
    refine ⟨hright, hbottom, ?_, ?_, ?_, ?_⟩
    · have hx := hholds.x
      rw [hcorner.1, hbar] at hx
      exact hx
    · have hy := hholds.y
      rw [hcorner.2, hbar] at hy
      exact hy
    · have hin := hholds.inside
      rw [hinside, hbar] at hin
      exact hin
    · exact fun hinit d hd => (control_iff hb h hf hinit hd).mp (hholds.controls hinit d hd)
  · intro hfits
    refine ⟨⟨hfits.right, hfits.bottom⟩, ?_, ?_, ?_, ?_⟩
    · rw [hcorner.1, hbar]
      exact hfits.x
    · rw [hcorner.2, hbar]
      exact hfits.y
    · rw [hinside, hbar]
      exact hfits.inside
    · exact fun hinit d hd => (control_iff hb h hf hinit hd).mpr (hfits.controls hinit d hd)

theorem part_place (hwf : WellFormed k) (h : Outcome c k p b b')
    (hparent : (k.nodes p).parent = some q)
    (hq : k.overlapped q = true ∨ (k.nodes q).isTitleBar = true) :
    b' q = b q ∧ ((b' p).left, (b' p).top) = c.relative p b ∧
      ((b' p).absoluteX, (b' p).absoluteY) = c.corner k p b := by
  have hbar : k.isTaskbar p = false := by
    rw [← Bool.not_eq_true]
    intro hbar
    obtain ⟨hover, htitle⟩ := hwf.taskbar p q hbar hparent
    rcases hq with hq | hq
    · rw [hover] at hq
      cases hq
    · rw [htitle] at hq
      cases hq
  exact ⟨h.other q (hwf.not_affects_parent hparent), h.relative hbar, h.corner (.inr hbar)⟩

theorem not_affects_of_titlebar (hwf : WellFormed k) (hf : FrameOf k q p) (hd : d ≠ p) :
    ¬ Affects k p d := by
  rintro (heq | ⟨t, hf', _⟩)
  · exact hd heq
  · exact hwf.titlebar_not_overlapped hf hf'.overlapped

theorem not_affects_of_control (hwf : WellFormed k) (hf : FrameOf k q t)
    (hp : p ∈ k.controls t) (hd : d ≠ p) : ¬ Affects k p d := by
  rintro (heq | ⟨t', hf', _⟩)
  · exact hd heq
  · exact hwf.control_not_overlapped hf hp hf'.overlapped

theorem control_of_window_iff (hwf : WellFormed k) (hb : Consistent k b)
    (h : Outcome c k p b b') (hf : FrameOf k q p)
    (hinit : (k.nodes p).controlsInitialized = true) (hd : d ∈ k.controls p) :
    ControlHolds q p d b' ↔ c.corner k p b = ((b p).absoluteX, (b p).absoluteY) ∧
      Inside ((c.relative p b).1.toNat + (b d).left.toNat)
        ((c.relative p b).2.toNat + (b d).top.toNat) (b d).width.toNat (b d).height.toNat
        (b q) := by
  have hold := (hb.frames q p hf).controls hinit d hd
  obtain ⟨hq, hrel, hcorner⟩ := part_place hwf h (hwf.titlebar q p hf).2.2 (.inl hf.overlapped)
  obtain ⟨hleft, htop⟩ := pair_eq hrel
  have hne : d ≠ p := fun heq => hwf.titlebar_notMem hf (heq ▸ hd)
  have hsame : b' d = b d := h.other d (not_affects_of_titlebar hwf hf hne)
  constructor
  · rintro ⟨hx, hy, hin⟩
    rw [hsame, hold.x] at hx
    rw [hsame, hold.y] at hy
    rw [hsame, hq, hleft, htop] at hin
    refine ⟨?_, hin⟩
    rw [← hcorner, (UInt64.add_left_inj _).mp hx, (UInt64.add_left_inj _).mp hy]
  · rintro ⟨hstay, hin⟩
    rw [hstay] at hcorner
    obtain ⟨hx, hy⟩ := pair_eq hcorner
    refine ⟨?_, ?_, ?_⟩
    · rw [hsame, hx]
      exact hold.x
    · rw [hsame, hy]
      exact hold.y
    · rw [hsame, hq, hleft, htop]
      exact hin

theorem window_iff (hwf : WellFormed k) (hb : Consistent k b) (h : Outcome c k p b b')
    (hf : FrameOf k q p) : FrameHolds k q p b' ↔ FitsWindow c k p b q := by
  obtain ⟨hq, hrel, hcorner⟩ := part_place hwf h (hwf.titlebar q p hf).2.2 (.inl hf.overlapped)
  obtain ⟨hleft, htop⟩ := pair_eq hrel
  obtain ⟨hx, hy⟩ := pair_eq hcorner
  obtain ⟨hwidth, hheight⟩ := pair_eq h.size
  constructor
  · intro hholds
    refine ⟨?_, ?_, ?_, ?_⟩
    · rw [← hx, ← hleft, hholds.x, hq]
    · rw [← hy, ← htop, hholds.y, hq]
    · rw [← hleft, ← htop, ← hwidth, ← hheight, ← hq]
      exact hholds.inside
    · exact fun hinit d hd =>
        (control_of_window_iff hwf hb h hf hinit hd).mp (hholds.controls hinit d hd)
  · intro hfits
    refine ⟨?_, ?_, ?_, ?_⟩
    · rw [hx, hleft, hq]
      exact hfits.x
    · rw [hy, htop, hq]
      exact hfits.y
    · rw [hleft, htop, hwidth, hheight, hq]
      exact hfits.inside
    · exact fun hinit d hd =>
        (control_of_window_iff hwf hb h hf hinit hd).mpr (hfits.controls hinit d hd)

theorem corner_in_titlebar (hwf : WellFormed k) (hb : Consistent k b) (hf : FrameOf k q t)
    (hp : p ∈ k.controls t) (hinit : (k.nodes t).controlsInitialized = true) (c : Change) :
    c.corner k p b =
      ((b t).absoluteX + (c.relative p b).1, (b t).absoluteY + (c.relative p b).2) := by
  have hold := (hb.frames q t hf).controls hinit p hp
  rw [Change.corner, Change.relative]
  cases c.place with
  | none =>
      dsimp only
      rw [hold.x, hold.y]
  | some place =>
      have horigin : origin k p b = ((b t).absoluteX, (b t).absoluteY) := by
        rw [origin, (hwf.control q t p hf hp).2.2]
        dsimp only
        rw [hwf.titlebar_valid q t hf, if_neg (by decide), (hwf.titlebar q t hf).2.1]
      dsimp only
      rw [horigin]

theorem control_part_iff (hwf : WellFormed k) (hb : Consistent k b) (h : Outcome c k p b b')
    (hf : FrameOf k q t) (hp : p ∈ k.controls t) :
    FrameHolds k q t b' ↔ ((k.nodes t).controlsInitialized = true → FitsControl c k p b q t) := by
  obtain ⟨_, hbutton, hparent⟩ := hwf.control q t p hf hp
  obtain ⟨ht, hrel, hcorner⟩ := part_place hwf h hparent (.inr (hwf.titlebar q t hf).1)
  obtain ⟨hleft, htop⟩ := pair_eq hrel
  obtain ⟨hx, hy⟩ := pair_eq hcorner
  obtain ⟨hwidth, hheight⟩ := pair_eq h.size
  have hqp : q ≠ p := by
    rintro rfl
    exact hwf.window_notMem hf hp
  have hq : b' q = b q := h.other q (not_affects_of_control hwf hf hp hqp)
  have hold := hb.frames q t hf
  constructor
  · intro hholds hinit
    have hin := (hholds.controls hinit p hp).inside
    rw [ht, hq, hleft, htop, hwidth, hheight] at hin
    exact hin
  · intro hfits
    refine ⟨?_, ?_, ?_, ?_⟩
    · rw [ht, hq]
      exact hold.x
    · rw [ht, hq]
      exact hold.y
    · rw [ht, hq]
      exact hold.inside
    · intro hinit d hd
      by_cases hdp : d = p
      · subst hdp
        have hplace := corner_in_titlebar hwf hb hf hd hinit c
        refine ⟨?_, ?_, ?_⟩
        · rw [hx, hleft, ht, hplace]
        · rw [hy, htop, ht, hplace]
        · rw [ht, hq, hleft, htop, hwidth, hheight]
          exact hfits hinit
      · have hsame : b' d = b d := h.other d (not_affects_of_control hwf hf hp hdp)
        have hcontrol := hold.controls hinit d hd
        refine ⟨?_, ?_, ?_⟩
        · rw [hsame, ht]
          exact hcontrol.x
        · rw [hsame, ht]
          exact hcontrol.y
        · rw [hsame, ht, hq]
          exact hcontrol.inside

theorem children_iff (hwf : WellFormed k) (hb : Consistent k b) (h : Outcome c k p b b')
    (hq : ChildOf k q p) :
    ChildHolds k q p b' ↔ c.corner k p b = ((b p).absoluteX, (b p).absoluteY) := by
  have hold := hb.children q p hq
  have hne : q ≠ p := (hwf.parent_ne hq.parent).symm
  have hsame : b' q = b q := h.other q (hwf.not_affects_child hq hne)
  have hcorner := h.corner (.inl hq.overlapped)
  obtain ⟨hx, hy⟩ := pair_eq hcorner
  constructor
  · rintro ⟨hqx, hqy⟩
    rw [hsame, hold.x] at hqx
    rw [hsame, hold.y] at hqy
    rw [← hcorner, (UInt64.add_left_inj _).mp ((UInt64.add_left_inj _).mp hqx),
      (UInt64.add_left_inj _).mp ((UInt64.add_left_inj _).mp hqy)]
  · intro hstay
    rw [hstay] at hx hy
    refine ⟨?_, ?_⟩
    · rw [hsame, hx]
      exact hold.x
    · rw [hsame, hy]
      exact hold.y

theorem child_holds (hwf : WellFormed k) (hb : Consistent k b) (h : Outcome c k p b b')
    (hp : ChildOf k p q) : ChildHolds k p q b' := by
  have hold := hb.children p q hp
  obtain ⟨hq, hrel, hcorner⟩ := part_place hwf h hp.parent (.inl hp.overlapped)
  obtain ⟨hleft, htop⟩ := pair_eq hrel
  obtain ⟨hx, hy⟩ := pair_eq hcorner
  have hplace : c.corner k p b = ((b q).absoluteX + (k.nodes q).clientLeft + (c.relative p b).1,
      (b q).absoluteY + (k.nodes q).clientTop + (c.relative p b).2) := by
    rw [Change.corner, Change.relative]
    cases c.place with
    | none =>
        dsimp only
        rw [hold.x, hold.y]
    | some place =>
        dsimp only
        rw [origin, hp.parent]
        dsimp only
        rw [hp.parentValid, if_neg (by decide), overlapped_iff.mp hp.overlapped]
  refine ⟨?_, ?_⟩
  · rw [hx, hleft, hq, hplace]
  · rw [hy, htop, hq, hplace]

theorem fits_of_around (hwf : WellFormed k) (hb : Consistent k b) (h : Outcome c k p b b')
    (ha : FitsAround k p b') : FitsChange c k p b := by
  refine ⟨?_, ?_, ?_, ?_⟩
  · intro t hf
    have hedges := ha.edges t (.inr ⟨t, hf, .inl rfl⟩) (hwf.titlebar_valid p t hf)
    exact (titlebar_iff hb h hf).mp ⟨hedges, ha.frame t hf⟩
  · exact fun q hq => (children_iff hwf hb h hq).mp (ha.children q hq)
  · exact fun q hf => (window_iff hwf hb h hf).mp (ha.part q p hf (.inl rfl))
  · exact fun q t hf hp => (control_part_iff hwf hb h hf hp).mp (ha.part q t hf (.inr hp))

theorem around_of_fits (hwf : WellFormed k) (hb : Consistent k b) (h : Outcome c k p b b')
    (hfits : FitsChange c k p b) : FitsAround k p b' := by
  refine ⟨?_, ?_, ?_, ?_, ?_⟩
  · rintro q (rfl | ⟨t, hf, rfl | hd⟩) hv
    · exact h.edges (hb.edges q hv)
    · exact ((titlebar_iff hb h hf).mpr (hfits.titlebar q hf)).1
    · exact edges_control h hf hd (hb.edges q hv)
  · exact fun t hf => ((titlebar_iff hb h hf).mpr (hfits.titlebar t hf)).2
  · rintro q t hf (rfl | hp)
    · exact (window_iff hwf hb h hf).mpr (hfits.window q hf)
    · exact (control_part_iff hwf hb h hf hp).mpr (hfits.control q t hf hp)
  · exact fun q hq => (children_iff hwf hb h hq).mpr (hfits.children q hq)
  · exact fun q hp => child_holds hwf hb h hp

theorem consistent_iff_fits (hwf : WellFormed k) (hb : Consistent k b)
    (h : Outcome c k p b b') : Consistent k b' ↔ FitsChange c k p b := by
  rw [consistent_iff_around hwf hb h.other]
  exact ⟨fits_of_around hwf hb h, around_of_fits hwf hb h⟩

end Iff

def Fits (k : Desktop) (b : Boxes) (c : Call) : Prop :=
  FitsChange (callChange k b c) k (callWindow c) b

section Sample

def absentNode : Node :=
  { valid := false, type := .other, isTitleBar := false, parent := none, titlebar := none
    controlsInitialized := false, minimizeWid := -1, maximizeWid := -1, closeWid := -1
    leftOffset := 0, borderSize := 0, titlebarHeight := 0, clientLeft := 0, clientTop := 0
    clientTid := 0 }

def buttonNode (parent : Nat) (leftOffset : UInt64) : Node :=
  { absentNode with
    valid := true, type := .WT_BUTTON, parent := some parent, leftOffset := leftOffset }

/-- A window with a title bar, its three controls and a button in the client area. -/
def sampleDesktop : Desktop :=
  { nodes := fun p =>
      if p = 1 then
        { absentNode with
          valid := true, type := .WT_OVERLAPPED, titlebar := some 2, borderSize := 2
          titlebarHeight := 32, clientLeft := 6, clientTop := 38, clientTid := 100 }
      else if p = 2 then
        { absentNode with
          valid := true, type := .WT_SIMPLE, isTitleBar := true, parent := some 1
          controlsInitialized := true, minimizeWid := 3, maximizeWid := 4, closeWid := 5 }
      else if p = 3 then buttonNode 2 84
      else if p = 4 then buttonNode 2 56
      else if p = 5 then buttonNode 2 28
      else if p = 6 then buttonNode 1 0
      else absentNode
    windowList := fun wid => if 1 ≤ wid ∧ wid ≤ 6 then some wid else none
    rootWindow := none
    taskbarWindow := none
    initialized := true
    isFullscreen := false
    wa := ⟨0, 40, 800, 560⟩
    maximizationStyle := none }

def sampleBox (left top width height x y : UInt64) : Box :=
  { state := .WINDOW_STATE_NORMAL, left := left, top := top, width := width, height := height
    absoluteX := x, absoluteY := y, absoluteRight := x + width, absoluteBottom := y + height
    clientWidth := 0, clientHeight := 0, widthInChars := 0, heightInChars := 0 }

def sampleBoxes : Boxes := fun p =>
  if p = 1 then sampleBox 100 80 404 300 100 80
  else if p = 2 then sampleBox 2 2 400 32 102 82
  else if p = 3 then sampleBox 316 4 24 24 418 86
  else if p = 4 then sampleBox 344 4 24 24 446 86
  else if p = 5 then sampleBox 372 4 24 24 474 86
  else if p = 6 then sampleBox 10 10 80 24 116 128
  else sampleBox 0 0 0 0 0 0

theorem sampleDesktop_overlapped (h : sampleDesktop.overlapped p = true) : p = 1 := by
  rw [overlapped_iff, sampleDesktop] at h
  dsimp only at h
  split at h
  · assumption
  · split at h
    · cases h
    · repeat' split at h
      all_goals cases h

theorem sampleDesktop_frame {t : Nat} (hf : FrameOf sampleDesktop p t) : p = 1 ∧ t = 2 := by
  obtain rfl := sampleDesktop_overlapped hf.overlapped
  exact ⟨rfl, (Option.some.inj hf.titlebar).symm⟩

theorem sampleDesktop_controls : sampleDesktop.controls 2 = [3, 4, 5] := by
  decide

theorem sampleDesktop_parent (h : (sampleDesktop.nodes p).parent = some q) : q < p := by
  rw [sampleDesktop] at h
  dsimp only at h
  repeat' split at h
  all_goals cases h
  all_goals omega

theorem sampleDesktop_child (h : ChildOf sampleDesktop q p) : q = 6 ∧ p = 1 := by
  obtain rfl := sampleDesktop_overlapped h.overlapped
  have hparent := h.parent
  have hbar := h.isTitleBar
  have htwo : q ≠ 2 := by
    rintro rfl
    cases hbar
  rw [sampleDesktop] at hparent
  dsimp only at hparent
  repeat' split at hparent
  all_goals cases hparent
  exact ⟨by assumption, rfl⟩

theorem sampleDesktop_wellFormed : WellFormed sampleDesktop := by
  refine ⟨⟨id, fun p q h => sampleDesktop_parent h⟩, ?_, ?_, ?_, ?_, ?_⟩
  · intro p t hf
    obtain ⟨rfl, rfl⟩ := sampleDesktop_frame hf
    exact ⟨rfl, rfl, rfl⟩
  · intro p t hf
    obtain ⟨rfl, rfl⟩ := sampleDesktop_frame hf
    rfl
  · intro p t c hf hc
    obtain ⟨rfl, rfl⟩ := sampleDesktop_frame hf
    rw [sampleDesktop_controls] at hc
    simp only [List.mem_cons, List.not_mem_nil, or_false] at hc
    rcases hc with rfl | rfl | rfl
    · exact ⟨rfl, rfl, rfl⟩
    · exact ⟨rfl, rfl, rfl⟩
    · exact ⟨rfl, rfl, rfl⟩
  · intro p t hf
    obtain ⟨rfl, rfl⟩ := sampleDesktop_frame hf
    rw [sampleDesktop_controls]
    decide
  · intro p q hbar
    cases hbar

theorem sampleBoxes_consistent : Consistent sampleDesktop sampleBoxes := by
  refine ⟨?_, ?_, ?_⟩
  · intro q _
    rw [sampleBoxes]
    repeat' split
    all_goals exact ⟨rfl, rfl⟩
  · intro p t hf
    obtain ⟨rfl, rfl⟩ := sampleDesktop_frame hf
    refine ⟨by decide, by decide, by decide, ?_⟩
    intro _ c hc
    rw [sampleDesktop_controls] at hc
    simp only [List.mem_cons, List.not_mem_nil, or_false] at hc
    rcases hc with rfl | rfl | rfl
    · exact ⟨by decide, by decide, by decide⟩
    · exact ⟨by decide, by decide, by decide⟩
    · exact ⟨by decide, by decide, by decide⟩
  · intro q p hchild
    obtain ⟨rfl, rfl⟩ := sampleDesktop_child hchild
    exact ⟨by decide, by decide⟩

def fittingCalls : List Call := [.resize 1 404 350, .move 6 20 30]

end Sample

end Gramado.Ds.WindowRuns
