import Gramado.Ds.CreatedGeometry
import Gramado.Ds.EditboxCaret

/-! The title bar, the controls and the status bar of an overlapped window. -/

namespace Gramado.Ds.OverlappedGeometry

open Library.CheckedArithmetic Library.CheckedArithmetic.Tracked Ds.CreateWindow Ds.CreatedGeometry

variable {left : UInt64} {w bar c v : Window} {s' : Server} {t : Tracked (Created × Server)}

section Controls

variable {s : Server} {bar : Window} {buttons separators : UInt64} {label : List UInt8}

theorem view_normal (full area own : α) : view s 1 full area own = own := by
  simp [view, WINDOW_STATE_FULL, WINDOW_STATE_MAXIMIZED]

/-- A button in a title bar, `left` pixels from its left side. -/
structure ControlAt (bar c : Window) (left : Nat) : Prop where
  left : c.left.toNat = left
  top : c.top.toNat = 2
  width : c.width.toNat = 29
  height : c.height.toNat = 25
  absoluteX : c.absoluteX = mask16 (bar.absoluteX + c.left)
  absoluteY : c.absoluteY = mask16 (bar.absoluteY + c.top)
  right : c.absoluteRight = bar.absoluteX + c.left + c.width
  bottom : c.absoluteBottom = bar.absoluteY + c.top + c.height

/-- The width from the left side of a control to the right side of the title bar. -/
def taken (buttons separators : UInt64) : Nat := 29 * buttons.toNat + separators.toNat + 2

def lastLeft (bar : Window) (buttons separators : UInt64) : Tracked UInt64 := do
  sub (← sub (← sub bar.width (buttons * METRICS_TITLEBAR_CONTROLS_DEFAULT_WIDTH))
    (separators * METRICS_TITLEBAR_CONTROLS_SEPARATOR_WIDTH)) METRICS_TITLEBAR_CONTROLS_RIGHTPAD

theorem fits_lastLeft (hb : buttons.toNat ≤ 3) (hs : separators.toNat ≤ 2) :
    (lastLeft bar buttons separators).fits = true ↔ taken buttons separators ≤ bar.width.toNat := by
  have hwidth : METRICS_TITLEBAR_CONTROLS_DEFAULT_WIDTH.toNat = 29 := rfl
  have hseparator : METRICS_TITLEBAR_CONTROLS_SEPARATOR_WIDTH.toNat = 1 := rfl
  have hpad : METRICS_TITLEBAR_CONTROLS_RIGHTPAD.toNat = 2 := rfl
  have := bar.width.toNat_lt
  simp only [lastLeft, fits_bind, value_sub, fits_sub, UInt64.le_iff_toNat_le,
    UInt64.toNat_sub, UInt64.toNat_mul, hwidth, hseparator, hpad, taken]
  omega

theorem toNat_lastLeft (hb : buttons.toNat ≤ 3) (hs : separators.toNat ≤ 2)
    (h : taken buttons separators ≤ bar.width.toNat) :
    (lastLeft bar buttons separators).value.toNat = bar.width.toNat - taken buttons separators := by
  have hwidth : METRICS_TITLEBAR_CONTROLS_DEFAULT_WIDTH.toNat = 29 := rfl
  have hseparator : METRICS_TITLEBAR_CONTROLS_SEPARATOR_WIDTH.toNat = 1 := rfl
  have hpad : METRICS_TITLEBAR_CONTROLS_RIGHTPAD.toNat = 2 := rfl
  have := bar.width.toNat_lt
  rw [taken] at h ⊢
  simp only [lastLeft, value_sub, value_bind, UInt64.toNat_sub, UInt64.toNat_mul, hwidth,
    hseparator, hpad]
  omega

theorem controlWindow
    (hw : w = (doCreateWindow s (some bar) .WT_BUTTON 0 1 label left
      METRICS_TITLEBAR_CONTROLS_TOPPAD 29 25).value) :
    w.name = windowName label ∧ w.left = mask16 left ∧ w.top = 2 ∧ w.width = 29 ∧
      w.height = 25 ∧ w.absoluteX = (absoluteCorner (some bar) .WT_BUTTON (mask16 left) 2).1 ∧
      w.absoluteY = (absoluteCorner (some bar) .WT_BUTTON (mask16 left) 2).2 ∧ Edges w := by
  have hmaskW : mask16 29 = 29 := by decide
  have hmaskH : mask16 25 = 25 := by decide
  have htop : mask16 METRICS_TITLEBAR_CONTROLS_TOPPAD = 2 := by decide
  rw [doCreateWindow_value] at hw
  obtain ⟨_, _, _, _, hname, _, hl, ht, _⟩ := newWindow_same hw
  obtain ⟨hw', hh', hx', hy', hedges⟩ := newWindow_rect hw
  rw [view_normal, htop] at hx' hy'
  rw [view_normal, hmaskW] at hw'
  rw [view_normal, hmaskH] at hh'
  exact ⟨hname, hl, by rw [ht, htop], hw', hh', hx', hy', hedges⟩

theorem createButton_control (left : UInt64) :
    createButton s (some bar) 0 1 label left METRICS_TITLEBAR_CONTROLS_TOPPAD
      METRICS_TITLEBAR_CONTROLS_DEFAULT_WIDTH METRICS_TITLEBAR_CONTROLS_DEFAULT_HEIGHT =
    doCreateWindow s (some bar) .WT_BUTTON 0 1 label left METRICS_TITLEBAR_CONTROLS_TOPPAD 29 25
      >>= fun w => pure (if (some bar.valid) = some true then w.masked else w) := by
  have hwidth : raise METRICS_TITLEBAR_CONTROLS_DEFAULT_WIDTH BUTTON_MIN_WIDTH = 29 := by decide
  have hheight : raise METRICS_TITLEBAR_CONTROLS_DEFAULT_HEIGHT BUTTON_MIN_HEIGHT = 25 := by
    decide
  rw [createButton, hwidth, hheight, Option.map_some]

theorem controlButton_at (htype : bar.type ≠ .WT_OVERLAPPED) (hlive : bar.valid = true)
    (hleft : left.toNat < 65536) :
    ControlAt bar (createButton s (some bar) 0 1 label left METRICS_TITLEBAR_CONTROLS_TOPPAD
      METRICS_TITLEBAR_CONTROLS_DEFAULT_WIDTH METRICS_TITLEBAR_CONTROLS_DEFAULT_HEIGHT).value
      left.toNat := by
  have hmaskW : mask16 29 = 29 := by decide
  have hmaskH : mask16 25 = 25 := by decide
  rw [createButton_control, value_bind, value_pure, hlive, if_pos rfl]
  generalize hw : (doCreateWindow s (some bar) .WT_BUTTON 0 1 label left
    METRICS_TITLEBAR_CONTROLS_TOPPAD 29 25).value = w
  obtain ⟨_, hl, ht, hw', hh', hx', hy', hright, hbottom⟩ := controlWindow hw.symm
  have hcorner : absoluteCorner (some bar) .WT_BUTTON (mask16 left) 2 =
      (bar.absoluteX + left, bar.absoluteY + 2) := by
    simp [absoluteCorner, htype, mask16_of_lt hleft]
  rw [hcorner] at hx' hy'
  rw [mask16_of_lt hleft] at hl
  constructor <;> simp [Window.masked, hw', hh', hx', hy', hright, hbottom, hl, ht, hmaskW, hmaskH]

theorem fits_controlButton (bar : Window) (hlabel : (windowName label).length ≤ 3)
    (left : UInt64) :
    (createButton s (some bar) 0 1 label left METRICS_TITLEBAR_CONTROLS_TOPPAD
      METRICS_TITLEBAR_CONTROLS_DEFAULT_WIDTH METRICS_TITLEBAR_CONTROLS_DEFAULT_HEIGHT).fits =
      true := by
  have hmaskW : mask16 29 = 29 := by decide
  have hmaskH : mask16 25 = 25 := by decide
  rw [createButton_control, fits_bind, fits_doCreateWindow, fits_labelOffset, fits_clientRect,
    hmaskW, hmaskH]
  generalize hw : (doCreateWindow s (some bar) .WT_BUTTON 0 1 label left
    METRICS_TITLEBAR_CONTROLS_TOPPAD 29 25).value = w
  obtain ⟨hname, _, _, hw', hh', _⟩ := controlWindow hw.symm
  rw [hw', hh', hname]
  have : (29 : UInt64).toNat = 29 := rfl
  refine ⟨⟨by decide, fun _ => ⟨?_, by decide⟩⟩, fits_pure _⟩
  omega

theorem createControl_value : (createControl s bar buttons separators label).value =
    { (createButton s (some bar) 0 1 label (lastLeft bar buttons separators).value
        METRICS_TITLEBAR_CONTROLS_TOPPAD METRICS_TITLEBAR_CONTROLS_DEFAULT_WIDTH
        METRICS_TITLEBAR_CONTROLS_DEFAULT_HEIGHT).value with
      leftOffset := bar.width - (lastLeft bar buttons separators).value } := by
  simp [createControl, lastLeft]

theorem createControl_at (hb : buttons.toNat ≤ 3) (hs : separators.toNat ≤ 2)
    (htype : bar.type ≠ .WT_OVERLAPPED) (hlive : bar.valid = true)
    (hwidth : bar.width.toNat < 65536) (h : taken buttons separators ≤ bar.width.toNat) :
    ControlAt bar (createControl s bar buttons separators label).value
      (bar.width.toNat - taken buttons separators) := by
  have hleft := toNat_lastLeft hb hs h
  have hlt : (lastLeft bar buttons separators).value.toNat < 65536 := by omega
  rw [createControl_value, ← hleft]
  obtain ⟨hl, ht, hw, hh, hx, hy, hright, hbottom⟩ := controlButton_at htype hlive hlt
  exact ⟨hl, ht, hw, hh, hx, hy, hright, hbottom⟩

theorem fits_createControl (hb : buttons.toNat ≤ 3) (hs : separators.toNat ≤ 2)
    (hlabel : (windowName label).length ≤ 3) :
    (createControl s bar buttons separators label).fits = true ↔
      taken buttons separators ≤ bar.width.toNat := by
  rw [← fits_lastLeft hb hs]
  constructor
  · intro h
    simp only [createControl, fits_bind] at h
    simp only [lastLeft, fits_bind]
    tauto
  · intro h
    have hle := (fits_lastLeft hb hs).mp h
    have hleft := toNat_lastLeft hb hs hle
    have hbutton : (createButton s (some bar) 0 1 label (lastLeft bar buttons separators).value
        _ _ _).fits = true := fits_controlButton bar hlabel _
    have hoffset : (lastLeft bar buttons separators).value ≤ bar.width := by
      rw [UInt64.le_iff_toNat_le, hleft]
      omega
    simp only [lastLeft, fits_bind, value_bind, value_sub, fits_sub] at h hbutton hoffset
    simp only [createControl, fits_bind, value_sub, fits_sub, fits_pure, and_true]
    exact ⟨h.1, h.2.1, h.2.2, hbutton, hoffset⟩

end Controls

section Titlebar

variable {s : Server} {w bar : Window} {room : Nat} {wide high : Nat}

theorem registerControls_enough (controls : List (Tracked Window)) (h : controls.length ≤ room) :
    (registerControls controls room).value = (controls.map value, room - controls.length) ∧
      ((registerControls controls room).fits = true ↔ ∀ c ∈ controls, c.fits = true) := by
  induction controls generalizing room with
  | nil => simp [registerControls]
  | cons c rest ih =>
      rw [List.length_cons] at h
      have hroom : room ≠ 0 := by omega
      obtain ⟨hvalue, hfits⟩ := @ih (room - 1) (by omega)
      constructor
      · simp only [registerControls, value_bind, if_neg hroom, hvalue, value_pure, List.map_cons,
          List.length_cons, Nat.sub_sub, Nat.add_comm 1]
      · simp only [registerControls, fits_bind, if_neg hroom, hfits, fits_pure, and_true,
          List.forall_mem_cons]

theorem registerControls_short (controls : List (Tracked Window)) (h : room < controls.length) :
    (registerControls controls room).value.1.length = room := by
  induction controls generalizing room with
  | nil => simp at h
  | cons c rest ih =>
      rw [List.length_cons] at h
      rcases Nat.eq_zero_or_pos room with rfl | hroom
      · simp [registerControls]
      · have hlength := @ih (room - 1) (by omega)
        simp only [registerControls, value_bind, if_neg (Nat.pos_iff_ne_zero.mp hroom), value_pure,
          List.length_cons, hlength]
        omega

theorem windowName_length (c : UInt8) : (windowName [c]).length ≤ 3 := by
  simp [windowName]

theorem taken_minimize : taken 3 2 = 91 := by decide

theorem taken_maximize : taken 2 1 = 61 := by decide

theorem taken_close : taken 1 0 = 31 := by decide

theorem fits_doCreateControls (hroom : 3 ≤ room) :
    (doCreateControls s bar room).fits = true ↔ 91 ≤ bar.width.toNat := by
  have hminimize : (minimizeControl s bar).fits = true ↔ _ :=
    fits_createControl (by decide) (by decide) (windowName_length _)
  have hmaximize : (maximizeControl s bar).fits = true ↔ _ :=
    fits_createControl (by decide) (by decide) (windowName_length _)
  have hclose : (closeControl s bar).fits = true ↔ _ :=
    fits_createControl (by decide) (by decide) (windowName_length _)
  rw [doCreateControls, (registerControls_enough _ (by simpa using hroom)).2]
  simp only [List.forall_mem_cons, hminimize, hmaximize, hclose, List.not_mem_nil,
    false_implies, implies_true, and_true, taken_minimize, taken_maximize, taken_close]
  omega

/-- The three controls of a title bar, from the left to the right. -/
structure ControlsAt (bar c₁ c₂ c₃ : Window) : Prop where
  minimize : ControlAt bar c₁ (bar.width.toNat - 91)
  maximize : ControlAt bar c₂ (bar.width.toNat - 61)
  close : ControlAt bar c₃ (bar.width.toNat - 31)

theorem doCreateControls_value (s : Server) (hroom : 3 ≤ room) (htype : bar.type ≠ .WT_OVERLAPPED)
    (hlive : bar.valid = true) (hlt : bar.width.toNat < 65536) (hwidth : 91 ≤ bar.width.toNat) :
    ∃ c₁ c₂ c₃, (doCreateControls s bar room).value = ([c₁, c₂, c₃], room - 3) ∧
      ControlsAt bar c₁ c₂ c₃ := by
  refine ⟨(minimizeControl s bar).value, (maximizeControl s bar).value, (closeControl s bar).value,
    ?_, ?_, ?_, ?_⟩
  · rw [doCreateControls, (registerControls_enough _ (by simpa using hroom)).1]
    rfl
  · rw [← taken_minimize]
    exact createControl_at (by decide) (by decide) htype hlive hlt (by rw [taken_minimize]; omega)
  · rw [← taken_maximize]
    exact createControl_at (by decide) (by decide) htype hlive hlt (by rw [taken_maximize]; omega)
  · rw [← taken_close]
    exact createControl_at (by decide) (by decide) htype hlive hlt (by rw [taken_close]; omega)

def barInset (w : Window) : UInt64 :=
  if w.state = WINDOW_STATE_FULL ∨ w.state = WINDOW_STATE_MAXIMIZED then 0 else w.borderSize

def barWidth (w : Window) : UInt64 :=
  if w.state = WINDOW_STATE_FULL ∨ w.state = WINDOW_STATE_MAXIMIZED then w.width
  else w.width - 2 * w.borderSize

def titlebarOf (s : Server) (w : Window) : Window :=
  { (doCreateWindow s (some w) .WT_TITLEBAR 0 1 (bytesOf "TitleBar") (barInset w) (barInset w)
      (barWidth w) METRICS_TITLEBAR_DEFAULT_HEIGHT).value with
    type := .WT_SIMPLE, name := w.name }

structure TitlebarAt (w bar : Window) : Prop where
  type : bar.type ≠ .WT_OVERLAPPED
  valid : bar.valid = true
  left : bar.left = mask16 (barInset w)
  top : bar.top = mask16 (barInset w)
  width : bar.width = mask16 (barWidth w)
  height : bar.height = 32
  absoluteX : bar.absoluteX = w.absoluteX + bar.left
  absoluteY : bar.absoluteY = w.absoluteY + bar.top
  edges : Edges bar

theorem titlebarOf_at : TitlebarAt w (titlebarOf s w) := by
  have hheight : mask16 METRICS_TITLEBAR_DEFAULT_HEIGHT = 32 := by decide
  rw [titlebarOf]
  generalize hbar : (doCreateWindow s (some w) .WT_TITLEBAR 0 1 (bytesOf "TitleBar") (barInset w)
    (barInset w) (barWidth w) METRICS_TITLEBAR_DEFAULT_HEIGHT).value = bar
  rw [doCreateWindow_value] at hbar
  obtain ⟨hvalid, _, _, _, _, _, hl, ht, _⟩ := newWindow_same hbar.symm
  obtain ⟨hw', hh', hx', hy', hedges⟩ := newWindow_rect hbar.symm
  rw [view_normal] at hw' hh' hx' hy'
  rw [hheight] at hh'
  refine ⟨by simp, hvalid, hl, ht, hw', hh', ?_, ?_, hedges⟩
  · simp [hx', hl, absoluteCorner]
  · simp [hy', ht, absoluteCorner]

theorem doCreateTitlebar_eq : doCreateTitlebar s w METRICS_TITLEBAR_DEFAULT_HEIGHT room = (do
    let _ ← sub w.width (2 * w.borderSize)
    let _ ← doCreateWindow s (some w) .WT_TITLEBAR 0 1 (bytesOf "TitleBar") (barInset w)
      (barInset w) (barWidth w) METRICS_TITLEBAR_DEFAULT_HEIGHT
    if (titlebarOf s w).width = 0 then pure (none, [], room)
    else
      let _ ← sub ((titlebarOf s w).absoluteY + (titlebarOf s w).height)
        METRICS_TITLEBAR_ORNAMENT_SIZE
      let _ ← sub (titlebarOf s w).height FONT_HEIGHT
      let (controls, room) ← doCreateControls s (titlebarOf s w) room
      pure (some (titlebarOf s w), controls, room)) := by
  rfl

theorem doCreateTitlebar_value : (doCreateTitlebar s w METRICS_TITLEBAR_DEFAULT_HEIGHT room).value =
      if (titlebarOf s w).width = 0 then (none, [], room)
      else (some (titlebarOf s w), (doCreateControls s (titlebarOf s w) room).value) := by
  rw [doCreateTitlebar_eq, value_bind, value_bind, value_ite]
  rfl

theorem fits_doCreateTitlebar (hborder : w.borderSize = METRICS_BORDER_SIZE)
    (hy : w.absoluteY.toNat < 65536) :
    (doCreateTitlebar s w METRICS_TITLEBAR_DEFAULT_HEIGHT room).fits = true ↔
      4 ≤ w.width.toNat ∧ 12 ≤ (titlebarOf s w).width.toNat ∧
        (doCreateControls s (titlebarOf s w) room).fits = true := by
  have hbar : TitlebarAt w (titlebarOf s w) := titlebarOf_at
  have hnarrow : 2 * w.borderSize ≤ w.width ↔ 4 ≤ w.width.toNat := by
    rw [hborder, UInt64.le_iff_toNat_le]
    exact Iff.rfl
  have hmade : (doCreateWindow s (some w) .WT_TITLEBAR 0 1 (bytesOf "TitleBar") (barInset w)
      (barInset w) (barWidth w) METRICS_TITLEBAR_DEFAULT_HEIGHT).fits = true ↔
      12 ≤ (titlebarOf s w).width.toNat := by
    have hheight : 12 ≤ (mask16 METRICS_TITLEBAR_DEFAULT_HEIGHT).toNat := by decide
    rw [fits_doCreateWindow, fits_clientRect, ← hbar.width]
    simp [hheight]
  have htext : FONT_HEIGHT ≤ (titlebarOf s w).height := by
    rw [hbar.height]
    decide
  have hinset : barInset w = 0 ∨ barInset w = 2 := by
    rw [barInset, hborder]
    exact ite_eq_or_eq _ _ _
  have htop : (titlebarOf s w).top.toNat ≤ 2 := by
    rw [hbar.top]
    rcases hinset with h | h <;> rw [h] <;> decide
  have hornament : METRICS_TITLEBAR_ORNAMENT_SIZE ≤
      (titlebarOf s w).absoluteY + (titlebarOf s w).height := by
    have hsize : METRICS_TITLEBAR_ORNAMENT_SIZE.toNat = 3 := rfl
    have hthirty : (32 : UInt64).toNat = 32 := rfl
    rw [hbar.absoluteY, hbar.height, UInt64.le_iff_toNat_le, UInt64.toNat_add, UInt64.toNat_add,
      hsize, hthirty]
    omega
  rw [doCreateTitlebar_eq, fits_bind, fits_bind, fits_sub, hnarrow, hmade]
  refine and_congr_right fun _ => and_congr_right fun hleast => ?_
  have hne : (titlebarOf s w).width ≠ 0 := by
    intro h
    rw [h] at hleast
    exact absurd hleast (by decide)
  rw [if_neg hne]
  simp only [fits_bind, fits_sub, hornament, htext, true_and, fits_pure, and_true]

end Titlebar

section Overlapped

variable {s s' : Server} {parent : Window} {v : Window} {r : Request} {room : Nat} {wide high : Nat}

theorem addStatusbar_spec (s : Server) (c : Created) (hends : EndsAt c.window.rcClient wide high)
    (hheight : 32 ≤ c.window.rcClient.height.toNat) (hlt : c.window.width.toNat < 65536)
    (hnone : c.statusbar = none) :
    ∃ client sb, (addStatusbar s c).value =
        ⟨{ c.window with rcClient := client }, c.titlebar, c.controls, sb⟩ ∧
      EndsAt client wide (high - if c.window.style &&& WS_STATUSBAR ≠ 0 then 32 else 0) ∧
      (∀ b, sb = some b → Edges b) ∧
      ((addStatusbar s c).fits = true ↔
        (c.window.style &&& WS_STATUSBAR ≠ 0 → 16 ≤ c.window.width.toNat)) := by
  by_cases hstyle : c.window.style &&& WS_STATUSBAR ≠ 0
  · have hsize : STATUSBAR_HEIGHT.toNat = 32 := rfl
    have hfour : (4 : UInt64).toNat = 4 := rfl
    have hmask : 12 ≤ (mask16 STATUSBAR_HEIGHT).toNat := by decide
    have hle : STATUSBAR_HEIGHT ≤ c.window.rcClient.height := by
      rw [UInt64.le_iff_toNat_le, hsize]
      exact hheight
    simp only [if_pos hstyle, addStatusbar]
    refine ⟨{ c.window.rcClient with height := c.window.rcClient.height - STATUSBAR_HEIGHT }, _,
      by simp only [value_bind, value_pure, value_sub]; rfl, ⟨hends.right, ?_⟩, ?_, ?_⟩
    · have := hends.bottom
      have := c.window.rcClient.height.toNat_lt
      simp only [UInt64.toNat_sub_of_le _ _ hle, hsize]
      omega
    · intro b hb
      rw [← Option.some.inj hb, doCreateWindow_value]
      exact (newWindow_rect rfl).2.2.2.2
    · simp only [fits_bind, fits_sub, value_sub, fits_doCreateWindow, fits_clientRect, hle,
        reduceCtorEq, false_implies, and_true, true_and, fits_pure, hstyle, ne_eq,
        not_false_eq_true, true_implies, UInt64.le_iff_toNat_le, hfour, toNat_mask16,
        UInt64.toNat_sub]
      omega
  · simp only [if_neg hstyle, addStatusbar, value_pure, fits_pure, Nat.sub_zero]
    exact ⟨c.window.rcClient, none, by rw [← hnone], hends, by simp,
      by simp only [hstyle, false_implies]⟩

structure Bare (s : Server) (parent : Window) (r : Request) (v : Window) : Prop where
  framed : Framed s parent r v
  style : v.style = r.style
  state : v.state = r.state
  borderSize : v.borderSize = METRICS_BORDER_SIZE
  x : v.absoluteX.toNat = cornerX s parent r % 65536
  y : v.absoluteY.toNat = cornerY s parent r % 65536
  client : ClientOf v.rcClient (askedWidth r) (askedHeight s r)

theorem bordered_spec (hborder : v.borderSize = METRICS_BORDER_SIZE)
    (hclient : ClientOf v.rcClient wide high) (hwide : 80 ≤ wide) (hhigh : 80 ≤ high) :
    (bordered v).fits = true ∧ ∃ client, (bordered v).value = { v with rcClient := client } ∧
      EndsAt client wide high ∧ 64 ≤ client.height.toNat := by
  have hsize : METRICS_BORDER_SIZE.toNat = 2 := rfl
  have := hclient.height
  have hfits := (fits_borderClient hclient).mpr ⟨by omega, by omega⟩
  have hends := borderClient_endsAt hclient (by omega) (by omega)
  rw [← hborder] at hsize hfits hends
  rw [bordered]
  split
  · refine ⟨hfits, _, borderClient_value v v.borderSize, ?_, ?_⟩
    · rw [borderClient_value] at hends
      exact hends
    · have hle : v.borderSize ≤ v.rcClient.height := by
        rw [UInt64.le_iff_toNat_le, hsize]
        omega
      simp only [UInt64.toNat_sub_of_le _ _ hle, hsize]
      omega
  · exact ⟨fits_pure v, v.rcClient, by rw [value_pure], hclient.endsAt, by omega⟩

theorem overlappedFrame_eq : overlappedFrame s' v room = (bordered v >>= fun w =>
    if w.state = WINDOW_STATE_FULL then addStatusbar s' ⟨w, none, [], none⟩
    else do
      let (bar, controls, room) ← doCreateTitlebar s' w METRICS_TITLEBAR_DEFAULT_HEIGHT room
      if bar.isNone = true ∨ room = 0 then pure ⟨w, bar, controls, none⟩
      else
        let height ← sub w.rcClient.height METRICS_TITLEBAR_DEFAULT_HEIGHT
        let client := { w.rcClient with
            top := w.rcClient.top + METRICS_TITLEBAR_DEFAULT_HEIGHT, height := height }
        addStatusbar s' ⟨{ w with rcClient := client }, bar, controls, none⟩) := by
  rfl

theorem overlappedFrame_full (s' : Server) (room : Nat) (h : Bare s parent r v) (hwide : 80 ≤ askedWidth r)
    (hhigh : 80 ≤ askedHeight s r) (hstate : r.state = WINDOW_STATE_FULL) :
    ∃ client sb, (overlappedFrame s' v room).value = ⟨{ v with rcClient := client }, none, [], sb⟩ ∧
      EndsAt client (askedWidth r)
        (askedHeight s r - if r.style &&& WS_STATUSBAR ≠ 0 then 32 else 0) ∧
      (∀ b, sb = some b → Edges b) ∧
      ((overlappedFrame s' v room).fits = true ↔
        (r.style &&& WS_STATUSBAR ≠ 0 → 16 ≤ frameWidth s r)) := by
  obtain ⟨hfits, client, hvalue, hends, hheight⟩ := bordered_spec h.borderSize h.client hwide hhigh
  have hv : ({ v with rcClient := client } : Window).state = WINDOW_STATE_FULL :=
    h.state.trans hstate
  obtain ⟨client', sb, hvalue', hends', hedges, hfits'⟩ := addStatusbar_spec s'
    ⟨{ v with rcClient := client }, none, [], none⟩ hends (by simp; omega)
    (by simpa only [h.framed.width] using frameWidth_lt s r) rfl
  refine ⟨client', sb, ?_, ?_, hedges, ?_⟩
  · rw [overlappedFrame_eq, value_bind, hvalue, if_pos hv, hvalue']
  · simpa only [h.style] using hends'
  · rw [overlappedFrame_eq, fits_bind, hvalue, if_pos hv, hfits']
    simp only [hfits, true_and, h.style, h.framed.width]

theorem Bare.barInset (h : Bare s parent r v) (hstate : r.state ≠ WINDOW_STATE_FULL) :
    (barInset v).toNat = inset r := by
  rw [OverlappedGeometry.barInset, h.state, h.borderSize, inset]
  split_ifs <;> simp_all [METRICS_BORDER_SIZE]

theorem Bare.barWidth (h : Bare s parent r v) (hstate : r.state ≠ WINDOW_STATE_FULL)
    (hwidth : 4 ≤ v.width.toNat) :
    (mask16 (barWidth v)).toNat + 2 * inset r = frameWidth s r := by
  have hlt := frameWidth_lt s r
  have hframe := h.framed.width
  have hborder : 2 * METRICS_BORDER_SIZE = 4 := rfl
  have hle : (4 : UInt64) ≤ v.width := by
    rw [UInt64.le_iff_toNat_le]
    exact hwidth
  have hfour : (4 : UInt64).toNat = 4 := rfl
  rw [toNat_mask16, OverlappedGeometry.barWidth, h.state, h.borderSize, hborder, inset]
  by_cases hmax : r.state = WINDOW_STATE_MAXIMIZED
  · rw [if_pos (.inr hmax), if_pos hmax]
    omega
  · rw [if_neg (by simp [hstate, hmax]), if_neg hmax, UInt64.toNat_sub_of_le _ _ hle, hfour]
    omega

/-- A window that gets its controls and its title bar registered, or only the controls. -/
structure Titled (s : Server) (r : Request) (room : Nat) (v : Window) (c : Created) : Prop where
  window : ∃ client, c.window = { v with rcClient := client } ∧
    EndsAt client (askedWidth r)
      (askedHeight s r - if r.style &&& WS_STATUSBAR ≠ 0 ∧ 4 ≤ room then 32 else 0)
  titlebar : ∃ bar c₁ c₂ c₃, c.titlebar = some bar ∧ c.controls = [c₁, c₂, c₃] ∧
    TitlebarAt v bar ∧ ControlsAt bar c₁ c₂ c₃
  statusbar : ∀ b, c.statusbar = some b → Edges b

theorem Bare.titlebar (s' : Server) (h : Bare s parent r v) (hstate : r.state ≠ WINDOW_STATE_FULL)
    (hroom : 3 ≤ room) (hwidth : 91 + 2 * inset r ≤ frameWidth s r) (client : GwsRect) :
    (doCreateTitlebar s' { v with rcClient := client } METRICS_TITLEBAR_DEFAULT_HEIGHT room).fits =
        true ∧
      ∃ bar c₁ c₂ c₃, (doCreateTitlebar s' { v with rcClient := client }
          METRICS_TITLEBAR_DEFAULT_HEIGHT room).value = (some bar, [c₁, c₂, c₃], room - 3) ∧
        TitlebarAt v bar ∧ ControlsAt bar c₁ c₂ c₃ := by
  obtain ⟨w, hw⟩ : ∃ w, w = { v with rcClient := client } := ⟨_, rfl⟩
  obtain ⟨bar, hbar⟩ : ∃ bar, bar = titlebarOf s' w := ⟨_, rfl⟩
  have hat : TitlebarAt w bar := hbar ▸ titlebarOf_at
  have hfour : 4 ≤ v.width.toNat := by
    rw [h.framed.width]
    omega
  have hbarWidth : bar.width.toNat + 2 * inset r = frameWidth s r := by
    rw [hat.width, hw]
    exact h.barWidth hstate hfour
  have hne : bar.width ≠ 0 := by
    intro hzero
    rw [hzero, UInt64.toNat_zero] at hbarWidth
    omega
  have hcontrols : (doCreateControls s' bar room).fits = true :=
    (fits_doCreateControls hroom).mpr (by omega)
  have hlt : bar.width.toNat < 65536 := by
    rw [hat.width]
    exact mask16_lt _
  obtain ⟨c₁, c₂, c₃, hthree, hplaces⟩ :=
    doCreateControls_value s' hroom hat.type hat.valid hlt (by omega)
  have hborder : w.borderSize = METRICS_BORDER_SIZE := by
    rw [hw]
    exact h.borderSize
  have hy : w.absoluteY.toNat < 65536 := by
    rw [hw]
    exact h.y ▸ Nat.mod_lt _ (by decide)
  have hfourW : 4 ≤ w.width.toNat := by
    rw [hw]
    exact hfour
  rw [← hw, fits_doCreateTitlebar hborder hy, doCreateTitlebar_value, ← hbar, if_neg hne, hthree]
  refine ⟨⟨hfourW, by omega, hcontrols⟩, bar, c₁, c₂, c₃, rfl, ?_, hplaces⟩
  rw [hw] at hat
  exact ⟨hat.type, hat.valid, hat.left, hat.top, hat.width, hat.height, hat.absoluteX,
    hat.absoluteY, hat.edges⟩

theorem overlappedFrame_titled (s' : Server) (h : Bare s parent r v) (hwide : 80 ≤ askedWidth r)
    (hhigh : 80 ≤ askedHeight s r) (hstate : r.state ≠ WINDOW_STATE_FULL) (hroom : 3 ≤ room)
    (hwidth : 91 + 2 * inset r ≤ frameWidth s r) :
    (overlappedFrame s' v room).fits = true ∧
      Titled s r room v (overlappedFrame s' v room).value := by
  obtain ⟨hfits, client, hvalue, hends, hheight⟩ := bordered_spec h.borderSize h.client hwide hhigh
  have hstateV : ({ v with rcClient := client } : Window).state ≠ WINDOW_STATE_FULL :=
    fun hfull => hstate (h.state.symm.trans hfull)
  obtain ⟨hmade, bar, c₁, c₂, c₃, hbar, hat, hplaces⟩ := h.titlebar s' hstate hroom hwidth client
  simp only [overlappedFrame, fits_bind, value_bind, hvalue, if_neg hstateV, hfits, hmade, hbar,
    Option.isNone_some, reduceCtorEq, false_or, true_and]
  rcases Nat.eq_or_lt_of_le hroom with rfl | hfour
  · simp only [Nat.sub_self, if_true, fits_pure, value_pure, true_and]
    refine ⟨⟨client, rfl, ?_⟩, ⟨bar, c₁, c₂, c₃, rfl, rfl, hat, hplaces⟩, by simp⟩
    simpa using hends
  · have hsize : METRICS_TITLEBAR_DEFAULT_HEIGHT.toNat = 32 := rfl
    have hle : METRICS_TITLEBAR_DEFAULT_HEIGHT ≤ client.height := by
      rw [UInt64.le_iff_toNat_le, hsize]
      omega
    have hends' : EndsAt { client with
        top := client.top + METRICS_TITLEBAR_DEFAULT_HEIGHT
        height := client.height - METRICS_TITLEBAR_DEFAULT_HEIGHT }
        (askedWidth r) (askedHeight s r) := by
      refine ⟨hends.right, ?_⟩
      have := hends.bottom
      have := askedHeight_lt s r
      simp only [UInt64.toNat_add, UInt64.toNat_sub_of_le _ _ hle, hsize]
      omega
    simp only [if_neg (show room - 3 ≠ 0 by omega), fits_bind, value_bind, fits_sub, value_sub,
      hle, true_and]
    obtain ⟨client', sb, hvalue', hclient', hedges, hfits'⟩ := addStatusbar_spec s'
      ⟨{ v with rcClient := _ }, some bar, [c₁, c₂, c₃], none⟩ hends'
      (by simp only [UInt64.toNat_sub_of_le _ _ hle, hsize]; omega)
      (by simpa only [h.framed.width] using frameWidth_lt s r) rfl
    rw [hvalue', hfits']
    refine ⟨fun _ => ?_, ⟨client', rfl, ?_⟩, ⟨bar, c₁, c₂, c₃, rfl, rfl, hat, hplaces⟩, hedges⟩
    · have := h.framed.width
      simp only
      omega
    · have hroom : 4 ≤ room := hfour
      simpa only [h.style, hroom, and_true] using hclient'

theorem fits_overlappedFrame (h : Bare s parent r v) (hwide : 80 ≤ askedWidth r)
    (hhigh : 80 ≤ askedHeight s r) (hstate : r.state ≠ WINDOW_STATE_FULL) (hroom : 3 ≤ room)
    (hfits : (overlappedFrame s' v room).fits = true) :
    91 + 2 * inset r ≤ frameWidth s r := by
  obtain ⟨_, client, hvalue, _, _⟩ := bordered_spec h.borderSize h.client hwide hhigh
  obtain ⟨w, hw⟩ : ∃ w, w = { v with rcClient := client } := ⟨_, rfl⟩
  have hborder : w.borderSize = METRICS_BORDER_SIZE := by
    rw [hw]
    exact h.borderSize
  have hy : w.absoluteY.toNat < 65536 := by
    rw [hw]
    exact h.y ▸ Nat.mod_lt _ (by decide)
  have hstateW : w.state ≠ WINDOW_STATE_FULL := by
    rw [hw]
    exact fun hfull => hstate (h.state.symm.trans hfull)
  rw [overlappedFrame, fits_bind, hvalue, ← hw, if_neg hstateW, fits_bind,
    fits_doCreateTitlebar hborder hy, fits_doCreateControls hroom] at hfits
  obtain ⟨_, ⟨hfour, _, hbar⟩, _⟩ := hfits
  rw [hw] at hfour
  have hbarWidth := h.barWidth hstate hfour
  rw [titlebarOf_at.width, hw] at hbar
  have : (mask16 (barWidth { v with rcClient := client })).toNat = (mask16 (barWidth v)).toNat :=
    rfl
  omega

theorem addStatusbar_same (s : Server) (c : Created) :
    (∃ client, (addStatusbar s c).value.window = { c.window with rcClient := client }) ∧
      (addStatusbar s c).value.controls = c.controls := by
  rw [addStatusbar]
  split
  · exact ⟨⟨_, rfl⟩, rfl⟩
  · exact ⟨⟨c.window.rcClient, rfl⟩, rfl⟩

theorem bordered_same (v : Window) : ∃ client border,
    (bordered v).value = { v with rcClient := client, borderSize := border } := by
  rw [bordered]
  split
  · exact ⟨_, _, borderClient_value v v.borderSize⟩
  · exact ⟨v.rcClient, v.borderSize, rfl⟩

theorem overlappedFrame_window (s' : Server) (v : Window) (room : Nat) : ∃ client border, (overlappedFrame s' v room).value.window =
    { v with rcClient := client, borderSize := border } := by
  obtain ⟨client, border, hvalue⟩ := bordered_same v
  rw [overlappedFrame, value_bind, hvalue, value_ite, value_bind]
  split
  · obtain ⟨⟨client', hwindow⟩, _⟩ := addStatusbar_same s'
      ⟨{ v with rcClient := client, borderSize := border }, none, [], none⟩
    exact ⟨client', border, hwindow⟩
  · rw [value_ite]
    split
    · exact ⟨client, border, rfl⟩
    · obtain ⟨⟨client', hwindow⟩, _⟩ := addStatusbar_same s' _
      rw [value_bind, hwindow]
      exact ⟨client', border, rfl⟩

theorem overlappedFrame_short (s' : Server) (hstate : v.state ≠ WINDOW_STATE_FULL) (hroom : room < 3) :
    (overlappedFrame s' v room).value.controls.length < 3 := by
  obtain ⟨client, border, hvalue⟩ := bordered_same v
  generalize hw : ({ v with rcClient := client, borderSize := border } : Window) = w at hvalue
  have hstateW : w.state ≠ WINDOW_STATE_FULL := by
    rw [← hw]
    exact hstate
  have hshort : (doCreateTitlebar s' w METRICS_TITLEBAR_DEFAULT_HEIGHT room).value.2.1.length < 3 := by
    rw [doCreateTitlebar_value]
    split
    · exact Nat.zero_lt_succ 2
    · have hlength := registerControls_short
        [minimizeControl s' (titlebarOf s' w), maximizeControl s' (titlebarOf s' w),
          closeControl s' (titlebarOf s' w)] hroom
      rw [doCreateControls, hlength]
      exact hroom
  rw [overlappedFrame, value_bind, hvalue, if_neg hstateW, value_bind, value_ite]
  split
  · exact hshort
  · rw [value_bind, (addStatusbar_same s' _).2]
    exact hshort

end Overlapped

section Requests

variable {s : Server} {parent : Window} {room : Nat} {r : Request}

theorem askedTop_shrinks (h : Shrinks s r) : askedTop s r = s.wa.top.toNat := by
  rw [askedTop, if_pos ⟨h.1, h.2.1⟩, if_pos h]

theorem askedTop_clipped (htype : r.type = .WT_OVERLAPPED) (hinit : s.initialized = true)
    (h : ¬ Shrinks s r) : askedTop s r = min (max r.y.toNat s.wa.top.toNat)
        (s.wa.top.toNat + s.wa.height.toNat - r.height.toNat) := by
  rw [askedTop, if_pos ⟨htype, hinit⟩, if_neg h]

theorem askedTop_free (hinit : ¬ s.initialized = true) : askedTop s r = r.y.toNat := by
  rw [askedTop, if_neg fun h => hinit h.2]

theorem clipToWorkingArea_spec (s : Server) (htype : r.type = .WT_OVERLAPPED) :
    ((clipToWorkingArea s r.y.toUInt64 r.height.toUInt64).fits = true ↔
        (Shrinks s r → 28 ≤ s.wa.height.toNat)) ∧
      ((Shrinks s r → 28 ≤ s.wa.height.toNat) →
        (clipToWorkingArea s r.y.toUInt64 r.height.toUInt64).value.1.toNat = askedTop s r ∧
        (clipToWorkingArea s r.y.toUInt64 r.height.toUInt64).value.2.toNat =
          if Shrinks s r then s.wa.height.toNat - 28 else r.height.toNat) := by
  have hheight : r.height.toUInt64.toNat = r.height.toNat := UInt16.toNat_toUInt64 r.height
  have := s.wa_top
  have := s.wa_height
  have := r.y.toNat_lt
  have := r.height.toNat_lt
  rw [clipToWorkingArea]
  rcases Bool.eq_false_or_eq_true s.initialized with hinit | hinit
  · have htop : (if r.y.toUInt64 < s.wa.top then s.wa.top else r.y.toUInt64).toNat =
        max r.y.toNat s.wa.top.toNat := toNat_raise r.y.toUInt64 s.wa.top
    simp only [if_pos hinit]
    generalize (if r.y.toUInt64 < s.wa.top then s.wa.top else r.y.toUInt64) = y at htop ⊢
    have hbottom : (s.wa.top + s.wa.height).toNat = s.wa.top.toNat + s.wa.height.toNat := by
      rw [UInt64.toNat_add]
      omega
    have hover : y + r.height.toUInt64 > s.wa.top + s.wa.height ↔
        s.wa.top.toNat + s.wa.height.toNat < max r.y.toNat s.wa.top.toNat + r.height.toNat := by
      rw [gt_iff_lt, UInt64.lt_iff_toNat_lt, hbottom, UInt64.toNat_add, hheight, htop]
      omega
    have htaller : r.height.toUInt64 > s.wa.height ↔ s.wa.height.toNat < r.height.toNat := by
      rw [gt_iff_lt, UInt64.lt_iff_toNat_lt, hheight]
    by_cases htall : s.wa.height.toNat < r.height.toNat
    · have hshrinks : Shrinks s r := ⟨htype, hinit, htall⟩
      have hgap : 28 ≤ s.wa.height ↔ 28 ≤ s.wa.height.toNat := UInt64.le_iff_toNat_le
      rw [if_pos (hover.mpr (by omega)), if_pos (htaller.mpr htall), askedTop_shrinks hshrinks,
        if_pos hshrinks]
      simp only [fits_bind, fits_sub, fits_pure, and_true, value_bind, value_sub, value_pure,
        hshrinks, true_implies, hgap, true_and]
      exact fun h => UInt64.toNat_sub_of_le _ _ (hgap.mpr h)
    · have hshrinks : ¬ Shrinks s r := fun h => htall h.2.2
      rw [if_neg (fun h => htall (htaller.mp h)), askedTop_clipped htype hinit hshrinks,
        if_neg hshrinks]
      by_cases hlow : s.wa.top.toNat + s.wa.height.toNat <
          max r.y.toNat s.wa.top.toNat + r.height.toNat
      · have hle : r.height.toUInt64 ≤ s.wa.top + s.wa.height := by
          rw [UInt64.le_iff_toNat_le, hbottom, hheight]
          omega
        rw [if_pos (hover.mpr hlow)]
        simp only [fits_bind, fits_sub, fits_pure, and_true, value_bind, value_sub, value_pure,
          hshrinks, false_implies, true_implies, hle, UInt64.toNat_sub_of_le _ _ hle, hbottom,
          hheight, true_and]
        omega
      · rw [if_neg (fun h => hlow (hover.mp h))]
        simp only [fits_pure, value_pure, hshrinks, false_implies, true_implies, hheight, htop,
          true_and, and_true]
        omega
  · have hfree : ¬ s.initialized = true := by simp [hinit]
    have hshrinks : ¬ Shrinks s r := fun h => hfree h.2.1
    rw [if_neg hfree, askedTop_free hfree, if_neg hshrinks]
    simp only [fits_pure, value_pure, hshrinks, false_implies, true_implies, hheight,
      UInt16.toNat_toUInt64, and_self]

theorem controlAt_edges_iff {left : Nat} (h : ControlAt bar c left)
    (hx : bar.absoluteX.toNat < 2 ^ 63) (hy : bar.absoluteY.toNat < 2 ^ 63) (hl : left < 65536) :
    Edges c ↔ bar.absoluteX.toNat + left < 65536 ∧ bar.absoluteY.toNat + 2 < 65536 := by
  obtain ⟨hleft, htop, _, _, hX, hY, hright, hbottom⟩ := h
  have hsumX : (bar.absoluteX + c.left).toNat = bar.absoluteX.toNat + left := by
    rw [UInt64.toNat_add, hleft]
    omega
  have hsumY : (bar.absoluteY + c.top).toNat = bar.absoluteY.toNat + 2 := by
    rw [UInt64.toNat_add, htop]
    omega
  rw [Edges, hright, hbottom, hX, hY, UInt64.add_left_inj, UInt64.add_left_inj, ← hsumX, ← hsumY,
    ← mask16_eq_iff, ← mask16_eq_iff]
  exact and_congr eq_comm eq_comm

theorem ControlAt.holds {left : Nat} (h : ControlAt bar c left)
    (hx : bar.absoluteX.toNat + left < 65536) (hy : bar.absoluteY.toNat + 2 < 65536)
    (hwidth : left + 29 ≤ bar.width.toNat) (hheight : 27 ≤ bar.height.toNat) :
    PartHolds bar c := by
  obtain ⟨hleft, htop, hw, hh, hX, hY, _, _⟩ := h
  refine ⟨?_, ?_, ?_, ?_⟩
  · rw [hX, mask16_eq_iff, UInt64.toNat_add, hleft]
    omega
  · rw [hY, mask16_eq_iff, UInt64.toNat_add, htop]
    omega
  · rw [hleft, hw]
    exact hwidth
  · rw [htop, hh]
    exact hheight

theorem TitlebarAt.corner (h : Bare s parent r v) (hat : TitlebarAt v bar)
    (hstate : r.state ≠ WINDOW_STATE_FULL) (hx : cornerX s parent r < 65536)
    (hy : cornerY s parent r < 65536) :
    bar.left.toNat = inset r ∧ bar.top.toNat = inset r ∧
      bar.absoluteX.toNat = cornerX s parent r + inset r ∧
      bar.absoluteY.toNat = cornerY s parent r + inset r := by
  have hinset : inset r ≤ 2 := by
    rw [inset]
    split <;> omega
  have hmask : (mask16 (barInset v)).toNat = inset r := by
    rw [toNat_mask16, h.barInset hstate]
    omega
  have hX := h.x
  have hY := h.y
  refine ⟨by rw [hat.left, hmask], by rw [hat.top, hmask], ?_, ?_⟩
  · rw [hat.absoluteX, UInt64.toNat_add, hat.left, hmask]
    omega
  · rw [hat.absoluteY, UInt64.toNat_add, hat.top, hmask]
    omega

theorem titled_iff {c : Created} (h : Bare s parent r v) (hc : Titled s r room v c)
    (hstate : r.state ≠ WINDOW_STATE_FULL) (hroom : 3 ≤ room)
    (hwidth : 91 + 2 * inset r ≤ frameWidth s r) :
    (Inside c.window.rcClient.left c.window.rcClient.top c.window.rcClient.width
        c.window.rcClient.height c.window ∧ (∀ w ∈ parts c, Edges w) ∧ TitlebarHolds c) ↔
      (askedWidth r ≤ frameWidth s r + 6 ∧ askedHeight s r ≤ frameHeight s r + 6 +
          if r.style &&& WS_STATUSBAR ≠ 0 ∧ 4 ≤ room then 32 else 0) ∧
      (cornerX s parent r < 65536 ∧ cornerY s parent r < 65536) ∧
      TitlebarFits s parent room r := by
  obtain ⟨⟨client, hwindow, hends⟩, ⟨bar, c₁, c₂, c₃, hbar, hcontrols, hat, hplaces⟩, hsb⟩ := hc
  have hW : c.window.width.toNat = frameWidth s r := by
    rw [hwindow]
    exact h.framed.width
  have hH : c.window.height.toNat = frameHeight s r := by
    rw [hwindow]
    exact h.framed.height
  have hedgesW : Edges c.window ↔ cornerX s parent r < 65536 ∧ cornerY s parent r < 65536 := by
    rw [hwindow]
    exact h.framed.edges
  have hclient : c.window.rcClient = client := by rw [hwindow]
  have hinside := hends.inside_iff (w := c.window)
  rw [hclient, hinside, hW, hH, Nat.sub_le_iff_le_add]
  refine and_congr_right fun _ => ?_
  have hparts : (∀ w ∈ parts c, Edges w) ↔ Edges c.window ∧ Edges c₁ ∧ Edges c₂ ∧ Edges c₃ := by
    rw [parts, hbar, hcontrols]
    simp only [Option.toList_some, List.cons_append, List.nil_append, List.forall_mem_cons,
      Option.mem_toList]
    constructor
    · rintro ⟨hw, _, h₁, h₂, h₃, _⟩
      exact ⟨hw, h₁, h₂, h₃⟩
    · rintro ⟨hw, h₁, h₂, h₃⟩
      exact ⟨hw, hat.edges, h₁, h₂, h₃, hsb⟩
  have hfour : 4 ≤ v.width.toNat := by
    rw [h.framed.width]
    omega
  have hbarW : bar.width.toNat + 2 * inset r = frameWidth s r := by
    rw [hat.width]
    exact h.barWidth hstate hfour
  have hbarH : bar.height.toNat = 32 := by
    rw [hat.height]
    rfl
  have hlt := frameWidth_lt s r
  have hinset : inset r ≤ 2 := by
    rw [inset]
    split <;> omega
  rw [hparts, hedgesW]
  constructor
  · rintro ⟨⟨⟨hx, hy⟩, h₁, h₂, h₃⟩, bar', _, _, _, hbar', _, hpart, _⟩
    obtain ⟨hl, ht, hX, hY⟩ := hat.corner h hstate hx hy
    rw [controlAt_edges_iff hplaces.close (by omega) (by omega) (by omega)] at h₃
    rw [hbar, Option.some.injEq] at hbar'
    have hinBar := hpart.inside.2
    rw [← hbar', ht, hbarH, hH] at hinBar
    exact ⟨⟨hx, hy⟩, hroom, hwidth, hinBar, by omega, by omega⟩
  · rintro ⟨⟨hx, hy⟩, _, _, hheight, hright, hbottom⟩
    obtain ⟨hl, ht, hX, hY⟩ := hat.corner h hstate hx hy
    refine ⟨⟨⟨hx, hy⟩, ?_, ?_, ?_⟩, bar, c₁, c₂, c₃, hbar, hcontrols, ⟨?_, ?_, ?_, ?_⟩, ?_, ?_, ?_⟩
    · rw [controlAt_edges_iff hplaces.minimize (by omega) (by omega) (by omega)]
      omega
    · rw [controlAt_edges_iff hplaces.maximize (by omega) (by omega) (by omega)]
      omega
    · rw [controlAt_edges_iff hplaces.close (by omega) (by omega) (by omega)]
      omega
    · rw [hwindow]
      exact hat.absoluteX
    · rw [hwindow]
      exact hat.absoluteY
    · rw [hl, hW]
      omega
    · rw [ht, hbarH, hH]
      exact hheight
    · simp only [List.forall_mem_cons, List.not_mem_nil, false_implies, implies_true, and_true]
      refine ⟨hplaces.minimize.holds ?_ ?_ ?_ ?_, hplaces.maximize.holds ?_ ?_ ?_ ?_,
        hplaces.close.holds ?_ ?_ ?_ ?_⟩ <;> omega
    · rw [hplaces.minimize.left, hplaces.minimize.width, hplaces.maximize.left]
      omega
    · rw [hplaces.maximize.left, hplaces.maximize.width, hplaces.close.left]
      omega

theorem overlapped_asked (htype : r.type = .WT_OVERLAPPED) :
    80 ≤ askedWidth r ∧ 80 ≤ askedHeight s r := by
  rw [askedWidth, askedHeight, htype]
  exact ⟨Nat.le_max_right _ _, Nat.le_max_right _ _⟩

theorem bare_of_begun (h : Begun s parent r w) (htype : r.type = .WT_OVERLAPPED) :
    Bare s parent r { w.masked with type := .WT_OVERLAPPED } := by
  obtain ⟨hwide, hhigh⟩ := overlapped_asked (s := s) htype
  have hmasked := h.masked
  refine ⟨⟨hmasked.width, hmasked.height, hmasked.edges⟩, h.style, h.state, h.borderSize, ?_, ?_,
    h.client (by omega) (by omega)⟩
  · rw [← h.x]
    exact toNat_mask16 w.absoluteX
  · rw [← h.y]
    exact toNat_mask16 w.absoluteY

theorem full_iff (h : Bare s parent r v) (htype : r.type = .WT_OVERLAPPED)
    (hstate : r.state = WINDOW_STATE_FULL) (hclip : Shrinks s r → 28 ≤ s.wa.height.toNat)
    (hfits : t.fits = true ↔ (overlappedFrame s' v room).fits = true)
    (hvalue : t.value.1 = (overlappedFrame s' v room).value) :
    Consistent t ↔ Sound s parent room r := by
  obtain ⟨hwide, hhigh⟩ := overlapped_asked (s := s) htype
  have hleast : clientLeast r.type = 12 := by
    rw [htype]
    rfl
  obtain ⟨client, sb, hframe, hends, hsb, hframeFits⟩ :=
    overlappedFrame_full s' room h hwide hhigh hstate
  rw [hframe] at hvalue
  rw [hframeFits] at hfits
  have hstatusbar : Statusbar room r ↔ r.style &&& WS_STATUSBAR ≠ 0 := by
    simp [Statusbar, htype, hstate]
  have hinside := hends.inside_iff (w := { v with rcClient := client })
  have hW : ({ v with rcClient := client } : Window).width.toNat = frameWidth s r := h.framed.width
  have hH : ({ v with rcClient := client } : Window).height.toNat = frameHeight s r :=
    h.framed.height
  rw [hW, hH, Nat.sub_le_iff_le_add] at hinside
  have hedges : Edges { v with rcClient := client } ↔
      cornerX s parent r < 65536 ∧ cornerY s parent r < 65536 := h.framed.edges
  have hif : (if Statusbar room r then 32 else 0) =
      if r.style &&& WS_STATUSBAR ≠ 0 then 32 else 0 := if_congr hstatusbar rfl rfl
  constructor
  · rintro ⟨hf, hclient, hall, _⟩
    rw [hvalue] at hclient hall
    obtain ⟨hinW, hinH⟩ := hinside.mp hclient
    rw [← hif] at hinH
    refine ⟨hclip, ?_, ?_, hinW, hinH, fun hb => ?_, fun _ => ?_, fun _ hne => absurd hstate hne,
      fun hb _ => hfits.mp hf (hstatusbar.mp hb)⟩
    · rw [hleast]
      omega
    · rw [hleast]
      omega
    · rw [htype] at hb
      cases hb
    · exact hedges.mp (hall _ (by simp [parts]))
  · rintro ⟨_, _, _, hinW, hinH, _, hcorner, _, hb⟩
    rw [hif] at hinH
    refine ⟨hfits.mpr fun hstyle => hb (hstatusbar.mpr hstyle) hstate, ?_, ?_, ?_⟩
    · rw [hvalue]
      exact hinside.mpr ⟨hinW, hinH⟩
    · rw [hvalue]
      have hmain := hedges.mpr (hcorner (by simp [htype]))
      simp only [parts, Option.toList_none, List.nil_append, List.forall_mem_cons,
        Option.mem_toList]
      exact ⟨hmain, hsb⟩
    · intro _ hne
      rw [hvalue] at hne
      exact absurd (h.state.trans hstate) hne

theorem titlebar_iff (h : Bare s parent r v) (htype : r.type = .WT_OVERLAPPED)
    (htypeV : v.type = .WT_OVERLAPPED) (hstate : r.state ≠ WINDOW_STATE_FULL)
    (hclip : Shrinks s r → 28 ≤ s.wa.height.toNat)
    (hfits : t.fits = true ↔ (overlappedFrame s' v room).fits = true)
    (hvalue : t.value.1 = (overlappedFrame s' v room).value) :
    Consistent t ↔ Sound s parent room r := by
  obtain ⟨hwide, hhigh⟩ := overlapped_asked (s := s) htype
  have hleast : clientLeast r.type = 12 := by
    rw [htype]
    rfl
  obtain ⟨client, border, hwindow⟩ := overlappedFrame_window s' v room
  have htypeW : t.value.1.window.type = .WT_OVERLAPPED := by
    rw [hvalue, hwindow]
    exact htypeV
  have hstateW : t.value.1.window.state ≠ WINDOW_STATE_FULL := by
    rw [hvalue, hwindow]
    exact fun hfull => hstate (h.state.symm.trans hfull)
  have hstatusbar : Statusbar room r ↔ r.style &&& WS_STATUSBAR ≠ 0 ∧ 4 ≤ room := by
    simp [Statusbar, htype, hstate]
  have hif : (if Statusbar room r then 32 else 0) =
      if r.style &&& WS_STATUSBAR ≠ 0 ∧ 4 ≤ room then 32 else 0 := if_congr hstatusbar rfl rfl
  constructor
  · rintro ⟨hf, hclient, hall, hbar⟩
    have hholds := hbar htypeW hstateW
    have hroom : 3 ≤ room := by
      by_contra hlt
      obtain ⟨_, c₁, c₂, c₃, _, hcontrols, _⟩ := hholds
      have hshort := overlappedFrame_short s'
        (fun hfull => hstate (h.state.symm.trans hfull)) (Nat.not_le.mp hlt)
      rw [hvalue] at hcontrols
      simp [hcontrols] at hshort
    have hwidth := fits_overlappedFrame h hwide hhigh hstate hroom (hfits.mp hf)
    have htitled := (overlappedFrame_titled s' h hwide hhigh hstate hroom hwidth).2
    rw [← hvalue] at htitled
    obtain ⟨⟨hinW, hinH⟩, hcorner, hbarFits⟩ :=
      (titled_iff h htitled hstate hroom hwidth).mp ⟨hclient, hall, hholds⟩
    rw [← hif] at hinH
    refine ⟨hclip, ?_, ?_, hinW, hinH, fun hb => ?_, fun _ => hcorner, fun _ _ => hbarFits,
      fun _ hfull => absurd hfull hstate⟩
    · rw [hleast]
      omega
    · rw [hleast]
      omega
    · rw [htype] at hb
      cases hb
  · rintro ⟨_, _, _, hinW, hinH, _, hcorner, hbarFits, _⟩
    obtain ⟨hroom, hwidth, _, _, _⟩ := hbarFits htype hstate
    obtain ⟨hframeFits, htitled⟩ := overlappedFrame_titled s' h hwide hhigh hstate hroom hwidth
    rw [← hvalue] at htitled
    rw [hif] at hinH
    obtain ⟨hclient, hall, hholds⟩ := (titled_iff h htitled hstate hroom hwidth).mpr
      ⟨⟨hinW, hinH⟩, hcorner (by simp [htype]), hbarFits htype hstate⟩
    exact ⟨hfits.mpr hframeFits, hclient, hall, fun _ _ => hholds⟩

theorem overlapped_iff (hlive : parent.valid = true) (htype : r.type = .WT_OVERLAPPED) :
    Consistent (createOverlapped s (some parent) r.style r.state r.title r.x.toUInt64
      r.y.toUInt64 r.width.toUInt64 r.height.toUInt64 room) ↔ Sound s parent room r := by
  obtain ⟨hclipFits, hclipValue⟩ := clipToWorkingArea_spec (r := r) s htype
  by_cases hclip : Shrinks s r → 28 ≤ s.wa.height.toNat
  · obtain ⟨htop, hhigh⟩ := hclipValue hclip
    have hfit := hclipFits.mpr hclip
    generalize hcut : clipToWorkingArea s r.y.toUInt64 r.height.toUInt64 = cut at htop hhigh hfit
    obtain ⟨⟨top, high⟩, fit⟩ := cut
    dsimp only at htop hhigh hfit
    have hwidth : (raise r.width.toUInt64 OVERLAPPED_MIN_WIDTH).toNat = askedWidth r := by
      rw [toNat_raise, askedWidth, htype]
      rfl
    have hheight : (raise high OVERLAPPED_MIN_HEIGHT).toNat = askedHeight s r := by
      rw [toNat_raise, askedHeight, htype, hhigh]
      rfl
    obtain ⟨w, hw⟩ : ∃ w, w = (doCreateWindow s (some parent) .WT_SIMPLE r.style r.state r.title
      r.x.toUInt64 top (raise r.width.toUInt64 OVERLAPPED_MIN_WIDTH)
      (raise high OVERLAPPED_MIN_HEIGHT)).value := ⟨_, rfl⟩
    have h := begun (by simp) htop hwidth hheight hw
    have hmade := begun_fits hwidth hheight hw
    obtain ⟨hwide, hhigh'⟩ := overlapped_asked (s := s) htype
    have hmadeFits := hmade.mpr ⟨by omega, by omega, by simp⟩
    have hframe : doCreateWindowFrame (updateWorkingArea s w .WT_SIMPLE) (some parent)
        { w with type := .WT_OVERLAPPED } METRICS_BORDER_SIZE room =
          overlappedFrame (updateWorkingArea s w .WT_SIMPLE)
            { w.masked with type := .WT_OVERLAPPED } room := by
      simp [doCreateWindowFrame, hlive, Window.masked]
    generalize ht : createOverlapped s (some parent) r.style r.state r.title r.x.toUInt64
      r.y.toUInt64 r.width.toUInt64 r.height.toUInt64 room = t
    have hfits : t.fits = true ↔ (overlappedFrame (updateWorkingArea s w .WT_SIMPLE)
        { w.masked with type := .WT_OVERLAPPED } room).fits = true := by
      simp only [← ht, createOverlapped, hcut, fits_bind, createFramed, ← hw, hframe, hfit,
        hmadeFits, fits_pure, and_true, true_and]
    have hvalue : t.value.1 = (overlappedFrame (updateWorkingArea s w .WT_SIMPLE)
        { w.masked with type := .WT_OVERLAPPED } room).value := by
      simp only [← ht, createOverlapped, hcut, value_bind, createFramed, ← hw, hframe, value_pure]
    by_cases hstate : r.state = WINDOW_STATE_FULL
    · exact full_iff (bare_of_begun h htype) htype hstate hclip hfits hvalue
    · exact titlebar_iff (bare_of_begun h htype) htype rfl hstate hclip hfits hvalue
  · constructor
    · intro hc
      have hfits := hc.fits
      rw [createOverlapped, fits_bind] at hfits
      exact absurd (hclipFits.mp hfits.1) hclip
    · exact fun hs => absurd hs.shrunk hclip

theorem editbox_asked (htype : r.type = .WT_EDITBOX_SINGLE_LINE ∨
      r.type = .WT_EDITBOX_MULTIPLE_LINES) :
    (raise r.width.toUInt64 EDITBOX_MIN_WIDTH).toNat = askedWidth r ∧
      (raise r.height.toUInt64 EDITBOX_MIN_HEIGHT).toNat = askedHeight s r := by
  have hne : r.type ≠ .WT_OVERLAPPED := by
    rcases htype with h | h <;> simp [h]
  have hleast : sizeLeast r.type = 8 := by
    rcases htype with h | h <;> simp [h, sizeLeast]
  rw [toNat_raise, toNat_raise, askedWidth, askedHeight_eq hne, hleast]
  exact ⟨rfl, rfl⟩

/-- The rectangles of the windows that are made for a request fit together exactly when the frame
has room for its parts and the masks change no corner. -/
theorem consistent_iff (s : Server) (parent : Window) (room : Nat) (r : Request)
    (t : Tracked (Created × Server)) (hlive : parent.valid = true)
    (ht : r.create s parent room = some t) : Consistent t ↔ Sound s parent room r := by
  unfold Request.create createWindow at ht
  cases htype : r.type with
  | WT_SIMPLE =>
      simp only [htype, Option.some.injEq] at ht
      rw [← ht]
      exact simple_iff htype
  | WT_OVERLAPPED =>
      simp only [htype, Option.some.injEq] at ht
      rw [← ht]
      exact overlapped_iff hlive htype
  | WT_EDITBOX_SINGLE_LINE =>
      simp only [htype, Option.some.injEq] at ht
      rw [← ht, ← htype]
      obtain ⟨hwidth, hheight⟩ := editbox_asked (s := s) (.inl htype)
      exact framed_iff hlive (by rw [htype]; rfl) hwidth hheight
  | WT_EDITBOX_MULTIPLE_LINES =>
      simp only [htype, Option.some.injEq] at ht
      rw [← ht, ← htype]
      obtain ⟨hwidth, hheight⟩ := editbox_asked (s := s) (.inr htype)
      exact framed_iff hlive (by rw [htype]; rfl) hwidth hheight
  | WT_BUTTON =>
      simp only [htype, Option.some.injEq] at ht
      exact button_iff hlive htype ht.symm
  | WT_ICON =>
      simp only [htype, Option.some.injEq] at ht
      rw [← ht, ← htype]
      have hne : r.type ≠ .WT_OVERLAPPED := by simp [htype]
      exact framed_iff hlive (by rw [htype]; rfl) (by simp [askedWidth, htype, sizeLeast])
        (by simp [askedHeight_eq hne, htype, sizeLeast])
  | _ => simp [htype] at ht

def smallScreen : Server where
  deviceWidth := 800
  deviceHeight := 600
  initialized := true
  wa := { left := 0, top := 0, width := 800, height := 572 }
  wa_left := EditboxCaret.screen.wa_left
  wa_top := EditboxCaret.screen.wa_top
  wa_width := EditboxCaret.screen.wa_width
  wa_height := EditboxCaret.screen.wa_height

def rootWindow : Window where
  valid := true
  type := .WT_SIMPLE
  style := 0
  state := 1
  name := []
  borderSize := 2
  left := 0
  top := 0
  width := 800
  height := 600
  absoluteX := 0
  absoluteY := 0
  absoluteRight := 800
  absoluteBottom := 600
  leftOffset := 0
  rcClient := { left := 6, top := 6, width := 788, height := 588 }

def overlappedRequest (width : UInt16) : Request where
  type := .WT_OVERLAPPED
  style := WS_STATUSBAR
  state := 0
  title := []
  x := 20
  y := 30
  width := width
  height := 200

theorem consistent_iff_wide : ∃ t, (overlappedRequest 300).create smallScreen rootWindow 6 =
      some t ∧ (Consistent t ↔ Sound smallScreen rootWindow 6 (overlappedRequest 300)) :=
  ⟨_, rfl, consistent_iff smallScreen rootWindow 6 (overlappedRequest 300) _ rfl rfl⟩

theorem least_window_fits : ((overlappedRequest 80).create smallScreen rootWindow 6).map fits =
    some false := by
  decide

theorem not_always_consistent : ¬ ∀ s parent room r t, parent.valid = true →
    Request.create r s parent room = some t → Consistent t := by
  intro h
  cases ht : (overlappedRequest 80).create smallScreen rootWindow 6 with
  | none => simp [Request.create, createWindow, overlappedRequest] at ht
  | some t =>
      have hfits := (h smallScreen rootWindow 6 (overlappedRequest 80) t rfl ht).fits
      have hnot := least_window_fits
      rw [ht, Option.map_some, Option.some.injEq, hfits] at hnot
      cases hnot

end Requests

end Gramado.Ds.OverlappedGeometry
