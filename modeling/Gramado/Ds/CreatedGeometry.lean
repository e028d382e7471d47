import Gramado.Ds.CreateWindow

/-! Which requests make a window whose rectangles fit together. -/

namespace Gramado.Ds.CreatedGeometry

open Library.CheckedArithmetic Library.CheckedArithmetic.Tracked Ds.CreateWindow

/-- The request of a client. The positions and sizes are words of 16 bits. -/
structure Request where
  type : WindowType
  style : UInt64
  state : UInt32
  title : List UInt8
  x : UInt16
  y : UInt16
  width : UInt16
  height : UInt16

def Request.create (r : Request) (s : Server) (parent : Window) (room : Nat) :
    Option (Tracked (Created × Server)) :=
  createWindow s (some parent) r.type r.style r.state r.title r.x.toUInt64 r.y.toUInt64
    r.width.toUInt64 r.height.toUInt64 room

def parts (c : Created) : List Window :=
  c.window :: (c.titlebar.toList ++ c.controls ++ c.statusbar.toList)

def Edges (w : Window) : Prop :=
  w.absoluteRight = w.absoluteX + w.width ∧ w.absoluteBottom = w.absoluteY + w.height

def Inside (left top width height : UInt64) (w : Window) : Prop :=
  left.toNat + width.toNat ≤ w.width.toNat ∧ top.toNat + height.toNat ≤ w.height.toNat

/-- A part is at its place in a window and inside the window. -/
structure PartHolds (w part : Window) : Prop where
  x : part.absoluteX = w.absoluteX + part.left
  y : part.absoluteY = w.absoluteY + part.top
  inside : Inside part.left part.top part.width part.height w

structure ControlsHold (bar c₁ c₂ c₃ : Window) : Prop where
  parts : ∀ c ∈ [c₁, c₂, c₃], PartHolds bar c
  before : c₁.left.toNat + c₁.width.toNat ≤ c₂.left.toNat
  after : c₂.left.toNat + c₂.width.toNat ≤ c₃.left.toNat

def TitlebarHolds (c : Created) : Prop :=
  ∃ bar c₁ c₂ c₃, c.titlebar = some bar ∧ c.controls = [c₁, c₂, c₃] ∧
    PartHolds c.window bar ∧ ControlsHold bar c₁ c₂ c₃

/-- The rectangles of a window and of its parts fit together. A fullscreen window has no title
bar. -/
structure Consistent (t : Tracked (Created × Server)) : Prop where
  fits : t.fits = true
  client : Inside t.value.1.window.rcClient.left t.value.1.window.rcClient.top
    t.value.1.window.rcClient.width t.value.1.window.rcClient.height t.value.1.window
  edges : ∀ w ∈ parts t.value.1, Edges w
  titlebar : t.value.1.window.type = .WT_OVERLAPPED →
    t.value.1.window.state ≠ WINDOW_STATE_FULL → TitlebarHolds t.value.1

def view (s : Server) (state : UInt32) (full area own : α) : α :=
  if state = WINDOW_STATE_FULL then full
  else if state = WINDOW_STATE_MAXIMIZED ∧ s.initialized = true then area
  else own

def clientLeast : WindowType → Nat
  | .WT_EDITBOX_SINGLE_LINE | .WT_EDITBOX_MULTIPLE_LINES | .WT_ICON => 14
  | _ => 12

def sizeLeast : WindowType → Nat
  | .WT_OVERLAPPED => 80
  | .WT_EDITBOX_SINGLE_LINE | .WT_EDITBOX_MULTIPLE_LINES | .WT_BUTTON => 8
  | _ => 0

section Conditions

variable (s : Server) (parent : Window) (room : Nat) (r : Request)

def Shrinks : Prop :=
  r.type = .WT_OVERLAPPED ∧ s.initialized = true ∧ s.wa.height.toNat < r.height.toNat

instance : Decidable (Shrinks s r) :=
  inferInstanceAs (Decidable (_ ∧ _ ∧ _))

def askedWidth : Nat := max r.width.toNat (sizeLeast r.type)

def askedHeight : Nat :=
  max (if Shrinks s r then s.wa.height.toNat - 28 else r.height.toNat) (sizeLeast r.type)

def askedTop : Nat :=
  if r.type = .WT_OVERLAPPED ∧ s.initialized = true then
    if Shrinks s r then s.wa.top.toNat
    else
      min (max r.y.toNat s.wa.top.toNat) (s.wa.top.toNat + s.wa.height.toNat - r.height.toNat)
  else r.y.toNat

def frameWidth : Nat :=
  view s r.state (s.deviceWidth.toNat % 65536) s.wa.width.toNat (askedWidth r)

def frameHeight : Nat :=
  view s r.state (s.deviceHeight.toNat % 65536) s.wa.height.toNat (askedHeight s r)

def origin : UInt64 × UInt64 :=
  if parent.type = .WT_OVERLAPPED then
    (parent.absoluteX + parent.rcClient.left, parent.absoluteY + parent.rcClient.top)
  else (parent.absoluteX, parent.absoluteY)

def cornerX : Nat :=
  view s r.state 0 s.wa.left.toNat (((origin parent).1.toNat + r.x.toNat) % 2 ^ 64)

def cornerY : Nat :=
  view s r.state 0 s.wa.top.toNat (((origin parent).2.toNat + askedTop s r) % 2 ^ 64)

def inset : Nat := if r.state = WINDOW_STATE_MAXIMIZED then 0 else 2

/-- The title bar has room for three controls, and the frame for the title bar. -/
structure TitlebarFits : Prop where
  room : 3 ≤ room
  width : 91 + 2 * inset r ≤ frameWidth s r
  height : inset r + 32 ≤ frameHeight s r
  right : cornerX s parent r + frameWidth s r < 65536 + 31 + inset r
  bottom : cornerY s parent r + inset r + 2 < 65536

/-- A window that can be registered with its title bar gets the status bar that it asks for. -/
def Statusbar : Prop :=
  r.type = .WT_OVERLAPPED ∧ r.style &&& WS_STATUSBAR ≠ 0 ∧
    (r.state = WINDOW_STATE_FULL ∨ 4 ≤ room)

instance : Decidable (Statusbar room r) :=
  inferInstanceAs (Decidable (_ ∧ _ ∧ _))

structure Sound : Prop where
  shrunk : Shrinks s r → 28 ≤ s.wa.height.toNat
  width : clientLeast r.type ≤ askedWidth r
  height : clientLeast r.type ≤ askedHeight s r
  inWidth : askedWidth r ≤ frameWidth s r + 6
  inHeight : askedHeight s r ≤ frameHeight s r + 6 + if Statusbar room r then 32 else 0
  label : r.type = .WT_BUTTON →
    8 * min (windowName r.title).length 64 ≤ frameWidth s r ∧ 16 ≤ frameHeight s r
  corner : r.type ≠ .WT_SIMPLE → cornerX s parent r < 65536 ∧ cornerY s parent r < 65536
  titlebar : r.type = .WT_OVERLAPPED → r.state ≠ WINDOW_STATE_FULL →
    TitlebarFits s parent room r
  statusbar : Statusbar room r → r.state = WINDOW_STATE_FULL → 16 ≤ frameWidth s r

end Conditions

section Made

variable {s : Server} {parent : Option Window} {type : WindowType} {style : UInt64}
  {state : UInt32} {title : List UInt8} {x y width height : UInt64} {client : GwsRect}

theorem view_map (f : α → β) (full area own : α) :
    f (view s state full area own) = view s state (f full) (f area) (f own) := by
  simp only [view, apply_ite f]

theorem viewed_eq (w : Window) : w.viewed s = view s w.state
    (w.place 0 0 (mask16 s.deviceWidth) (mask16 s.deviceHeight))
    (w.place s.wa.left s.wa.top s.wa.width s.wa.height) w := by
  rw [Window.viewed, view]
  by_cases hmax : w.state = WINDOW_STATE_MAXIMIZED ∧ s.initialized = true
  · simp [hmax, Window.place, WINDOW_STATE_MAXIMIZED, WINDOW_STATE_FULL]
  · simp [hmax]

theorem newWindow_same (hw : w = newWindow s parent type style state title x y width height client) :
    w.valid = true ∧ w.type = type ∧ w.style = style ∧ w.state = state ∧
      w.name = windowName title ∧ w.borderSize = METRICS_BORDER_SIZE ∧ w.left = mask16 x ∧
      w.top = mask16 y ∧ w.rcClient = client := by
  subst hw
  rw [newWindow, viewed_eq, view]
  split_ifs <;> simp [Window.place]

theorem newWindow_rect (hw : w = newWindow s parent type style state title x y width height client) :
    w.width = view s state (mask16 s.deviceWidth) s.wa.width (mask16 width) ∧
      w.height = view s state (mask16 s.deviceHeight) s.wa.height (mask16 height) ∧
      w.absoluteX = view s state 0 s.wa.left
        (absoluteCorner parent type (mask16 x) (mask16 y)).1 ∧
      w.absoluteY = view s state 0 s.wa.top
        (absoluteCorner parent type (mask16 x) (mask16 y)).2 ∧ Edges w := by
  subst hw
  rw [newWindow, viewed_eq, view]
  simp only [view, Edges]
  split_ifs <;> simp [Window.place]

theorem fits_clientRect (width height : UInt64) :
    (clientRect width height).fits = true ↔ 12 ≤ width.toNat ∧ 12 ≤ height.toNat := by
  have hborder : METRICS_BORDER_SIZE * 2 = 4 := rfl
  have hwide : METRICS_CLIENTAREA_LEFTPAD + METRICS_CLIENTAREA_RIGHTPAD = 8 := rfl
  have hhigh : METRICS_CLIENTAREA_TOPPAD + METRICS_CLIENTAREA_BOTTOMPAD = 8 := rfl
  simp only [clientRect, hborder, hwide, hhigh, fits_bind, value_sub, fits_sub, fits_pure,
    and_true, UInt64.le_iff_toNat_le, UInt64.toNat_sub, UInt64.toNat_ofNat]
  have := width.toNat_lt
  have := height.toNat_lt
  omega

/-- The client area begins at `6`, and as much is left on the other side. -/
structure ClientOf (client : GwsRect) (width height : Nat) : Prop where
  left : client.left.toNat = 6
  top : client.top.toNat = 6
  width : client.width.toNat + 12 = width
  height : client.height.toNat + 12 = height

theorem clientOf_clientRect (h : (clientRect width height).fits = true) :
    ClientOf (clientRect width height).value width.toNat height.toNat := by
  obtain ⟨hw, hh⟩ := (fits_clientRect width height).mp h
  have hborder : METRICS_BORDER_SIZE * 2 = 4 := rfl
  have hwide : METRICS_CLIENTAREA_LEFTPAD + METRICS_CLIENTAREA_RIGHTPAD = 8 := rfl
  have hhigh : METRICS_CLIENTAREA_TOPPAD + METRICS_CLIENTAREA_BOTTOMPAD = 8 := rfl
  have := width.toNat_lt
  have := height.toNat_lt
  constructor
  · rfl
  · rfl
  · simp only [clientRect, hborder, hwide, value_bind, value_sub, value_pure, UInt64.toNat_sub,
      UInt64.toNat_ofNat]
    omega
  · simp only [clientRect, hborder, hhigh, value_bind, value_sub, value_pure, UInt64.toNat_sub,
      UInt64.toNat_ofNat]
    omega

theorem fits_labelOffset (w : Window) : (labelOffset w).fits = true ↔
    8 * min w.name.length 64 ≤ w.width.toNat ∧ 16 ≤ w.height.toNat := by
  have hsize : (UInt64.ofNat (min w.name.length 64) * FONT_WIDTH).toNat =
      8 * min w.name.length 64 := by
    have hwidth : FONT_WIDTH.toNat = 8 := rfl
    rw [UInt64.toNat_mul, UInt64.toNat_ofNat', hwidth]
    omega
  have hheight : FONT_HEIGHT.toNat = 16 := rfl
  simp only [labelOffset, fits_bind, fits_sub, fits_pure, and_true, UInt64.le_iff_toNat_le,
    hsize, hheight]

theorem doCreateWindow_value :
    (doCreateWindow s parent type style state title x y width height).value =
      newWindow s parent type style state title x y width height
        (clientRect (mask16 width) (mask16 height)).value := by
  rw [doCreateWindow, value_bind]
  split <;> simp

theorem fits_doCreateWindow :
    (doCreateWindow s parent type style state title x y width height).fits = true ↔
      (clientRect (mask16 width) (mask16 height)).fits = true ∧ (type = .WT_BUTTON → (labelOffset
          (doCreateWindow s parent type style state title x y width height).value).fits =
            true) := by
  rw [doCreateWindow_value, doCreateWindow, fits_bind]
  split
  · next htype => simp [htype]
  · next htype => simp [htype]

end Made

variable {type : WindowType} {y width height : UInt64} {t : Tracked (Created × Server)}
  {client : GwsRect} {wide high : Nat}

section Begun

variable {s : Server} {parent : Window} {room : Nat} {r : Request} {w : Window}

theorem absoluteCorner_eq (htype : type ≠ .WT_TITLEBAR) (x y : UInt64) :
    absoluteCorner (some parent) type x y = ((origin parent).1 + x, (origin parent).2 + y) := by
  simp only [absoluteCorner, origin]
  split_ifs <;> simp_all

/-- The rectangles of a request before the frame is made. -/
structure Begun (s : Server) (parent : Window) (r : Request) (w : Window) : Prop where
  valid : w.valid = true
  style : w.style = r.style
  state : w.state = r.state
  name : w.name = windowName r.title
  borderSize : w.borderSize = METRICS_BORDER_SIZE
  width : w.width.toNat = frameWidth s r
  height : w.height.toNat = frameHeight s r
  x : w.absoluteX.toNat = cornerX s parent r
  y : w.absoluteY.toNat = cornerY s parent r
  edges : Edges w
  client : 12 ≤ askedWidth r → 12 ≤ askedHeight s r →
    ClientOf w.rcClient (askedWidth r) (askedHeight s r)

theorem askedWidth_lt (r : Request) : askedWidth r < 65536 := by
  have := r.width.toNat_lt
  have : sizeLeast r.type ≤ 80 := by
    cases r.type <;> simp [sizeLeast]
  rw [askedWidth]
  omega

theorem askedHeight_lt (s : Server) (r : Request) : askedHeight s r < 65536 := by
  have := r.height.toNat_lt
  have := s.wa_height
  have : sizeLeast r.type ≤ 80 := by
    cases r.type <;> simp [sizeLeast]
  rw [askedHeight]
  split_ifs <;> omega

theorem askedTop_lt (s : Server) (r : Request) : askedTop s r < 65536 := by
  have := r.y.toNat_lt
  have := s.wa_top
  rw [askedTop]
  split_ifs <;> omega

theorem view_lt {bound full area own : Nat} (state : UInt32) (hfull : full < bound)
    (harea : area < bound) (hown : own < bound) : view s state full area own < bound := by
  rw [view]
  split_ifs <;> assumption

theorem frameWidth_lt (s : Server) (r : Request) : frameWidth s r < 65536 :=
  view_lt r.state (Nat.mod_lt _ (by decide)) s.wa_width (askedWidth_lt r)

theorem frameHeight_lt (s : Server) (r : Request) : frameHeight s r < 65536 :=
  view_lt r.state (Nat.mod_lt _ (by decide)) s.wa_height (askedHeight_lt s r)

theorem begun (htype : type ≠ .WT_TITLEBAR)
    (hy : y.toNat = askedTop s r) (hwidth : width.toNat = askedWidth r)
    (hheight : height.toNat = askedHeight s r)
    (hw : w = (doCreateWindow s (some parent) type r.style r.state r.title r.x.toUInt64 y width
      height).value) : Begun s parent r w := by
  have hmaskW : mask16 width = width := mask16_of_lt (hwidth ▸ askedWidth_lt r)
  have hmaskH : mask16 height = height := mask16_of_lt (hheight ▸ askedHeight_lt s r)
  have hmaskY : mask16 y = y := mask16_of_lt (hy ▸ askedTop_lt s r)
  have hmaskX : mask16 r.x.toUInt64 = r.x.toUInt64 := by
    apply mask16_of_lt
    rw [UInt16.toNat_toUInt64]
    exact r.x.toNat_lt
  rw [doCreateWindow_value] at hw
  obtain ⟨hvalid, _, hstyle, hstate, hname, hborder, _, _, hclient⟩ := newWindow_same hw
  obtain ⟨hw', hh', hx', hy', hedges⟩ := newWindow_rect hw
  rw [absoluteCorner_eq htype, hmaskX, hmaskY] at hx' hy'
  rw [hmaskW, hmaskH] at hclient
  refine ⟨hvalid, hstyle, hstate, hname, hborder, ?_, ?_, ?_, ?_, hedges, ?_⟩
  · rw [hw', view_map UInt64.toNat, toNat_mask16, hmaskW, hwidth, frameWidth]
  · rw [hh', view_map UInt64.toNat, toNat_mask16, hmaskH, hheight, frameHeight]
  · rw [hx', view_map UInt64.toNat, UInt64.toNat_add, UInt16.toNat_toUInt64, cornerX]
    rfl
  · rw [hy', view_map UInt64.toNat, UInt64.toNat_add, hy, cornerY]
    rfl
  · intro hwide hhigh
    rw [← hwidth] at hwide ⊢
    rw [← hheight] at hhigh ⊢
    rw [hclient]
    exact clientOf_clientRect ((fits_clientRect width height).mpr ⟨hwide, hhigh⟩)

theorem begun_fits
    (hwidth : width.toNat = askedWidth r) (hheight : height.toNat = askedHeight s r)
    (hw : w = (doCreateWindow s (some parent) type r.style r.state r.title r.x.toUInt64 y width
      height).value) :
    (doCreateWindow s (some parent) type r.style r.state r.title r.x.toUInt64 y width
      height).fits = true ↔ 12 ≤ askedWidth r ∧ 12 ≤ askedHeight s r ∧
        (type = .WT_BUTTON → 8 * min w.name.length 64 ≤ w.width.toNat ∧ 16 ≤ w.height.toNat) := by
  have hmaskW : mask16 width = width := mask16_of_lt (hwidth ▸ askedWidth_lt r)
  have hmaskH : mask16 height = height := mask16_of_lt (hheight ▸ askedHeight_lt s r)
  rw [fits_doCreateWindow, ← hw, fits_labelOffset, fits_clientRect, hmaskW, hmaskH, hwidth,
    hheight, and_assoc]

theorem mask16_eq_iff (x : UInt64) : mask16 x = x ↔ x.toNat < 65536 :=
  ⟨fun h => h ▸ mask16_lt x, mask16_of_lt⟩

theorem edges_masked (hw : Edges w) (hwidth : w.width.toNat < 65536)
    (hheight : w.height.toNat < 65536) :
    Edges w.masked ↔ w.absoluteX.toNat < 65536 ∧ w.absoluteY.toNat < 65536 := by
  obtain ⟨hright, hbottom⟩ := hw
  simp only [Edges, Window.masked, hright, hbottom, mask16_of_lt hwidth, mask16_of_lt hheight,
    UInt64.add_left_inj, ← mask16_eq_iff]
  exact and_congr eq_comm eq_comm

/-- The corner of a frame, and the size that is not changed. -/
structure Framed (s : Server) (parent : Window) (r : Request) (w : Window) : Prop where
  width : w.width.toNat = frameWidth s r
  height : w.height.toNat = frameHeight s r
  edges : Edges w ↔ cornerX s parent r < 65536 ∧ cornerY s parent r < 65536

theorem Begun.masked (h : Begun s parent r w) : Framed s parent r w.masked := by
  have hwidth := h.width ▸ frameWidth_lt s r
  have hheight := h.height ▸ frameHeight_lt s r
  refine ⟨?_, ?_, ?_⟩
  · rw [Window.masked, mask16_of_lt hwidth, h.width]
  · rw [Window.masked, mask16_of_lt hheight, h.height]
  · rw [edges_masked h.edges hwidth hheight, h.x, h.y]

theorem alone_iff (ht : t.value.1 = ⟨w, none, [], none⟩) (htype : w.type ≠ .WT_OVERLAPPED) :
    Consistent t ↔
      t.fits = true ∧ Inside w.rcClient.left w.rcClient.top w.rcClient.width w.rcClient.height w ∧
        Edges w := by
  have hparts : parts t.value.1 = [w] := by
    simp [parts, ht]
  constructor
  · rintro ⟨hfits, hclient, hedges, _⟩
    rw [ht] at hclient
    exact ⟨hfits, hclient, hedges w (by simp [hparts])⟩
  · rintro ⟨hfits, hclient, hedges⟩
    refine ⟨hfits, by rw [ht]; exact hclient, ?_, ?_⟩
    · simpa [hparts] using hedges
    · intro h
      rw [ht] at h
      exact absurd h htype

theorem sound_iff (htype : r.type ≠ .WT_OVERLAPPED) : Sound s parent room r ↔
    (clientLeast r.type ≤ askedWidth r ∧ clientLeast r.type ≤ askedHeight s r) ∧
      (askedWidth r ≤ frameWidth s r + 6 ∧ askedHeight s r ≤ frameHeight s r + 6) ∧
      (r.type = .WT_BUTTON → 8 * min (windowName r.title).length 64 ≤ frameWidth s r ∧
        16 ≤ frameHeight s r) ∧
      (r.type ≠ .WT_SIMPLE → cornerX s parent r < 65536 ∧ cornerY s parent r < 65536) := by
  have hshrinks : ¬ Shrinks s r := fun h => htype h.1
  have hstatusbar : ¬ Statusbar room r := fun h => htype h.1
  constructor
  · rintro ⟨_, hwidth, hheight, hinWidth, hinHeight, hlabel, hcorner, _, _⟩
    rw [if_neg hstatusbar] at hinHeight
    exact ⟨⟨hwidth, hheight⟩, ⟨hinWidth, hinHeight⟩, hlabel, hcorner⟩
  · rintro ⟨⟨hwidth, hheight⟩, ⟨hinWidth, hinHeight⟩, hlabel, hcorner⟩
    refine ⟨fun h => absurd h hshrinks, hwidth, hheight, hinWidth, ?_, hlabel, hcorner,
      fun h => absurd h htype, fun h => absurd h hstatusbar⟩
    rw [if_neg hstatusbar]
    exact hinHeight

/-- The client area ends before the right and the bottom edge. -/
structure EndsAt (client : GwsRect) (wide high : Nat) : Prop where
  right : client.left.toNat + client.width.toNat + 6 = wide
  bottom : client.top.toNat + client.height.toNat + 6 = high

theorem ClientOf.endsAt (h : ClientOf client wide high) : EndsAt client wide high := by
  obtain ⟨hleft, htop, hwidth, hheight⟩ := h
  constructor
  · omega
  · omega

theorem EndsAt.inside_iff (h : EndsAt client wide high) :
    Inside client.left client.top client.width client.height w ↔
      wide ≤ w.width.toNat + 6 ∧ high ≤ w.height.toNat + 6 := by
  obtain ⟨hright, hbottom⟩ := h
  rw [Inside]
  omega

theorem borderClient_value (w : Window) (size : UInt64) : (borderClient w size).value =
    { w with
      borderSize := size
      rcClient :=
        { left := w.rcClient.left + size, top := w.rcClient.top + size
          width := w.rcClient.width - size, height := w.rcClient.height - size } } := by
  simp [borderClient]

theorem fits_borderClient (h : ClientOf w.rcClient wide high) :
    (borderClient w METRICS_BORDER_SIZE).fits = true ↔ 14 ≤ wide ∧ 14 ≤ high := by
  have hborder : METRICS_BORDER_SIZE.toNat = 2 := rfl
  obtain ⟨_, _, hwidth, hheight⟩ := h
  simp only [borderClient, fits_bind, fits_sub, fits_pure, and_true, UInt64.le_iff_toNat_le,
    hborder]
  omega

theorem borderClient_endsAt (h : ClientOf w.rcClient wide high) (hwide : 14 ≤ wide)
    (hhigh : 14 ≤ high) :
    EndsAt (borderClient w METRICS_BORDER_SIZE).value.rcClient wide high := by
  have hborder : METRICS_BORDER_SIZE.toNat = 2 := rfl
  have := w.rcClient.width.toNat_lt
  have := w.rcClient.height.toNat_lt
  obtain ⟨hleft, htop, hwidth, hheight⟩ := h
  rw [borderClient_value]
  constructor
  · simp only [UInt64.toNat_add, UInt64.toNat_sub, hborder]
    omega
  · simp only [UInt64.toNat_add, UInt64.toNat_sub, hborder]
    omega

end Begun

section Alone

variable {s : Server} {parent : Window} {room : Nat} {r : Request}

theorem toNat_raise (value minimum : UInt64) :
    (raise value minimum).toNat = max value.toNat minimum.toNat := by
  rw [raise]
  split
  · next h =>
      rw [UInt64.lt_iff_toNat_lt] at h
      omega
  · next h =>
      rw [UInt64.lt_iff_toNat_lt] at h
      omega

theorem askedTop_eq (htype : r.type ≠ .WT_OVERLAPPED) : askedTop s r = r.y.toNat := by
  simp [askedTop, htype]

theorem askedHeight_eq (htype : r.type ≠ .WT_OVERLAPPED) :
    askedHeight s r = max r.height.toNat (sizeLeast r.type) := by
  simp [askedHeight, Shrinks, htype]

theorem simple_iff (htype : r.type = .WT_SIMPLE) :
    Consistent (createSimple s (some parent) r.style r.state r.title r.x.toUInt64 r.y.toUInt64
      r.width.toUInt64 r.height.toUInt64) ↔ Sound s parent room r := by
  have hne : r.type ≠ .WT_OVERLAPPED := by simp [htype]
  have hwidth : r.width.toUInt64.toNat = askedWidth r := by simp [askedWidth, htype, sizeLeast]
  have hheight : r.height.toUInt64.toNat = askedHeight s r := by
    simp [askedHeight_eq hne, htype, sizeLeast]
  have htop : r.y.toUInt64.toNat = askedTop s r := by simp [askedTop_eq hne]
  obtain ⟨w, hw⟩ : ∃ w, w = (doCreateWindow s (some parent) .WT_SIMPLE r.style r.state r.title
    r.x.toUInt64 r.y.toUInt64 r.width.toUInt64 r.height.toUInt64).value := ⟨_, rfl⟩
  have h := begun (by simp) htop hwidth hheight hw
  have hfits := begun_fits hwidth hheight hw
  have htypeW : w.type ≠ .WT_OVERLAPPED := by
    rw [doCreateWindow_value] at hw
    simp [(newWindow_same hw).2.1]
  rw [alone_iff (w := w) (by simp [createSimple, hw]) htypeW, sound_iff hne, createSimple, fits_bind,
    hfits]
  simp only [fits_pure, htype, clientLeast, h.edges, and_true, reduceCtorEq, false_implies,
    ne_eq, not_true_eq_false]
  refine and_congr_right fun hleast => ?_
  rw [(h.client hleast.1 hleast.2).endsAt.inside_iff, h.width, h.height]

theorem button_iff (hlive : parent.valid = true) (htype : r.type = .WT_BUTTON)
    (ht : t = do
      let w ← createButton s (some parent) r.style r.state r.title r.x.toUInt64 r.y.toUInt64
        r.width.toUInt64 r.height.toUInt64
      pure (⟨w, none, [], none⟩, s)) :
    Consistent t ↔ Sound s parent room r := by
  have hne : r.type ≠ .WT_OVERLAPPED := by simp [htype]
  have hwidth : (raise r.width.toUInt64 BUTTON_MIN_WIDTH).toNat = askedWidth r := by
    rw [toNat_raise, askedWidth, htype]
    simp [sizeLeast, BUTTON_MIN_WIDTH]
  have hheight : (raise r.height.toUInt64 BUTTON_MIN_HEIGHT).toNat = askedHeight s r := by
    rw [toNat_raise, askedHeight_eq hne, htype]
    simp [sizeLeast, BUTTON_MIN_HEIGHT]
  have htop : r.y.toUInt64.toNat = askedTop s r := by simp [askedTop_eq hne]
  obtain ⟨w, hw⟩ : ∃ w, w = (doCreateWindow s (some parent) .WT_BUTTON r.style r.state r.title
    r.x.toUInt64 r.y.toUInt64 (raise r.width.toUInt64 BUTTON_MIN_WIDTH)
    (raise r.height.toUInt64 BUTTON_MIN_HEIGHT)).value := ⟨_, rfl⟩
  have h := begun (by simp) htop hwidth hheight hw
  have hfits := begun_fits hwidth hheight hw
  have htypeW : w.masked.type ≠ .WT_OVERLAPPED := by
    rw [doCreateWindow_value] at hw
    simp [Window.masked, (newWindow_same hw).2.1]
  have hvalue : t.value.1 = ⟨w.masked, none, [], none⟩ := by
    simp [ht, createButton, hlive, hw]
  rw [alone_iff hvalue htypeW, sound_iff hne, ht, createButton, fits_bind, fits_bind, hfits,
    h.masked.edges, h.name, h.width, h.height]
  simp only [fits_pure, htype, clientLeast, and_true, reduceCtorEq, ne_eq, not_false_eq_true,
    true_implies, and_assoc]
  refine and_congr_right fun hwide => and_congr_right fun hhigh => ?_
  rw [show Inside w.masked.rcClient.left w.masked.rcClient.top w.masked.rcClient.width
      w.masked.rcClient.height w.masked ↔ _ from (h.client hwide hhigh).endsAt.inside_iff,
    h.masked.width, h.masked.height]
  tauto

theorem doCreateWindowFrame_bordered (s' : Server) (room : Nat) {w : Window}
    (hlive : parent.valid = true) (hborder : w.borderSize = METRICS_BORDER_SIZE)
    (htype : clientLeast type = 14) :
    doCreateWindowFrame s' (some parent) { w with type := type } METRICS_BORDER_SIZE room =
      borderClient { w.masked with type := type } METRICS_BORDER_SIZE >>= fun w =>
        pure ⟨w, none, [], none⟩ := by
  have hmask : mask16 METRICS_BORDER_SIZE = METRICS_BORDER_SIZE := rfl
  cases type <;> simp [clientLeast] at htype <;>
    simp [doCreateWindowFrame, hlive, hmask, Window.masked, hborder]

theorem framed_iff (hlive : parent.valid = true) (htype : clientLeast r.type = 14)
    (hwidth : width.toNat = askedWidth r) (hheight : height.toNat = askedHeight s r) :
    Consistent (createFramed s (some parent) r.type r.style r.state r.title r.x.toUInt64
      r.y.toUInt64 width height room) ↔ Sound s parent room r := by
  have hne : r.type ≠ .WT_OVERLAPPED := by
    intro h
    simp [h, clientLeast] at htype
  have hbutton : r.type ≠ .WT_BUTTON := by
    intro h
    simp [h, clientLeast] at htype
  have hsimple : r.type ≠ .WT_SIMPLE := by
    intro h
    simp [h, clientLeast] at htype
  have htop : r.y.toUInt64.toNat = askedTop s r := by simp [askedTop_eq hne]
  obtain ⟨w, hw⟩ : ∃ w, w = (doCreateWindow s (some parent) .WT_SIMPLE r.style r.state r.title
    r.x.toUInt64 r.y.toUInt64 width height).value := ⟨_, rfl⟩
  have h := begun (by simp) htop hwidth hheight hw
  have hfits := begun_fits hwidth hheight hw
  have hframe := doCreateWindowFrame_bordered (updateWorkingArea s w .WT_SIMPLE) room hlive
    h.borderSize htype
  obtain ⟨v, hv⟩ : ∃ v, v = borderClient { w.masked with type := r.type } METRICS_BORDER_SIZE :=
    ⟨_, rfl⟩
  have hvalue : v.value.type = r.type := by rw [hv, borderClient_value]
  have hsame : (createFramed s (some parent) r.type r.style r.state r.title r.x.toUInt64
      r.y.toUInt64 width height room).value.1 = ⟨v.value, none, [], none⟩ := by
    simp only [createFramed, value_bind, ← hw, hframe, value_pure, hv]
  rw [alone_iff hsame (by rw [hvalue]; exact hne), sound_iff hne, createFramed, fits_bind, fits_bind,
    hfits, ← hw, hframe, ← hv, fits_bind]
  have hedges : Edges v.value ↔ cornerX s parent r < 65536 ∧ cornerY s parent r < 65536 := by
    rw [hv, borderClient_value]
    exact h.masked.edges
  have hwide : v.value.width.toNat = frameWidth s r := by
    rw [hv, borderClient_value]
    exact h.masked.width
  have hhigh : v.value.height.toNat = frameHeight s r := by
    rw [hv, borderClient_value]
    exact h.masked.height
  simp only [fits_pure, and_true, htype, hbutton, hsimple, false_implies, ne_eq,
    not_false_eq_true, true_implies, reduceCtorEq, true_and, hedges]
  constructor
  · rintro ⟨⟨hleast, hfits⟩, hinside, hcorner⟩
    have hclient := h.client hleast.1 hleast.2
    rw [hv, fits_borderClient (by exact hclient)] at hfits
    rw [hv, (borderClient_endsAt (by exact hclient) hfits.1 hfits.2).inside_iff, ← hv, hwide,
      hhigh] at hinside
    exact ⟨hfits, hinside, hcorner⟩
  · rintro ⟨hfits, hinside, hcorner⟩
    have hleast : 12 ≤ askedWidth r ∧ 12 ≤ askedHeight s r := by omega
    have hclient := h.client hleast.1 hleast.2
    refine ⟨⟨hleast, ?_⟩, ?_, hcorner⟩
    · rw [hv, fits_borderClient (by exact hclient)]
      exact hfits
    · rw [hv, (borderClient_endsAt (by exact hclient) hfits.1 hfits.2).inside_iff, ← hv, hwide,
        hhigh]
      exact hinside

end Alone

end Gramado.Ds.CreatedGeometry
