import Gramado.Ds.Compositor

namespace Gramado.Ds.RepaintPass

open Ds.Compositor Ds.Pointer
open Ds.ZOrder (WINDOW_COUNT_MAX WINDOW_MAGIC)
open Gdi.Painter (Device)
open Gdi.Refresh Library.Mirror

def area (d : Device) (w : Window) : Set Nat :=
  common d (d.bpp / 8) w.absolute_x w.absolute_y w.width w.height

def pointerArea (d : Device) (p : Mouse) : Set Nat :=
  {o | p.Shown ∧ o ∈ common d (d.bpp / 8) p.new_mouse_x.toNat p.new_mouse_y.toNat (rectSize p)
    (rectSize p)}

def leftArea (d : Device) (p : Mouse) : Set Nat :=
  {o | (p.Shown ∧ p.clear_mousebox = true) ∧
    o ∈ common d (d.bpp / 8) p.old_mouse_x.toNat p.old_mouse_y.toNat 16 16}

/-- A pass shows what was dirty, leaves nothing dirty, and when the frame was not dirty it touches
no other window. The buffers may have anything. -/
def Repaints (d : Surface) (s : Server) : Prop :=
  ∀ m, ∃ t, comp_display_desktop_components d.toDevice { s with memory := m } = some t ∧
    (∀ window, Dirty s WINDOW_COUNT_MAX window → ∀ o ∈ area d.toDevice (s.windows window),
      o ∉ pointerArea d.toDevice s.mouse →
        t.memory (FRONTBUFFER_ADDRESS + o) = t.memory (BACKBUFFER_ADDRESS + o)) ∧
    (∀ window, Listed t WINDOW_COUNT_MAX window → (t.windows window).dirty = false) ∧
    (s.dirty = false → ∀ window, Listed s WINDOW_COUNT_MAX window →
      (s.windows window).dirty = false → ∀ o ∈ area d.toDevice (s.windows window),
        (∀ other, Dirty s WINDOW_COUNT_MAX other → o ∉ area d.toDevice (s.windows other)) →
        o ∉ pointerArea d.toDevice s.mouse → o ∉ leftArea d.toDevice s.mouse →
          t.memory (FRONTBUFFER_ADDRESS + o) = m (FRONTBUFFER_ADDRESS + o))

/-- A rectangle of 16 bits that is empty, below the screen, or ends before its right border. -/
def Fits (d : Device) (w : Window) : Prop :=
  (w.absolute_x < 65536 ∧ w.absolute_y < 65536 ∧ w.width < 65536 ∧ w.height < 65536) ∧
    (w.width = 0 ∨ w.height = 0 ∨ d.height < w.absolute_y ∨ w.absolute_x + w.width ≤ d.width)

instance (d : Device) (w : Window) : Decidable (Fits d w) :=
  inferInstanceAs (Decidable (_ ∧ _))

/-- The pointer is near the screen and ends before its right border. -/
structure PointerFits (d : Device) (p : Mouse) : Prop where
  near : p.Near d
  drawn : p.new_mouse_x.toNat + rectSize p ≤ d.width
  left : p.clear_mousebox = true → p.old_mouse_x.toNat + 16 ≤ d.width

/-- No rectangle that the pass copies or draws goes on in the next line. -/
structure Contained (d : Device) (s : Server) : Prop where
  windows : s.dirty = false → ∀ window, Fronted s WINDOW_COUNT_MAX window →
    Fits d (s.windows window)
  screen : s.dirty = true → ∀ window, s.screen_window = some window →
    Dirty s WINDOW_COUNT_MAX window → Fits d (s.windows window)
  mouse : s.mouse.Shown → PointerFits d s.mouse

def Visible (s : Server) (window : Nat) : Prop :=
  (s.windows window).state ≠ WINDOW_STATE_MINIMIZED ∧
    parentMinimized s (s.windows window) = false

/-- When the frame is dirty no window is but the one of the screen, and that one can be shown.
Otherwise each dirty window that is behind a dirty root in the table is covered by the dirty ones
in front. -/
structure Reached (d : Device) (s : Server) : Prop where
  frame : s.dirty = true → ∃ screen, s.screen_window = some screen ∧
    ∀ window, Dirty s WINDOW_COUNT_MAX window → window = screen ∧ Visible s screen
  root : s.dirty = false → ∀ window, Dirty s WINDOW_COUNT_MAX window →
    ∀ o ∈ area d (s.windows window), o ∈ pointerArea d s.mouse ∨ o ∈ leftArea d s.mouse ∨
      ∃ front, Fronted s WINDOW_COUNT_MAX front ∧ o ∈ area d (s.windows front)

section Areas

variable {d : Surface} {w : Window} {o : Nat}

theorem area_lt (ho : o ∈ area d.toDevice w) : o < screenBytes d.toDevice :=
  common_lt ho (bytes_pos d.toDevice)

theorem mem_windowBox_iff (hfits : Fits d.toDevice w) (ho : o < screenBytes d.toDevice) :
    o ∈ windowBox d.toDevice w ↔ o ∈ area d.toDevice w := by
  obtain ⟨⟨hx, hy, hw, hh⟩, hcase⟩ := hfits
  rw [windowBox, Nat.mod_eq_of_lt hx, Nat.mod_eq_of_lt hy, Nat.mod_eq_of_lt hw, Nat.mod_eq_of_lt hh]
  obtain hright | hempty : w.absolute_x + w.width ≤ d.width ∨
      (w.width = 0 ∨ w.height = 0 ∨ d.height < w.absolute_y) := by omega
  · exact mem_box_iff hright ho
  · rw [box_eq_empty_iff.mpr hempty]
    refine ⟨fun h => h.elim, ?_⟩
    rintro ⟨hcolumn, hrow, hlast⟩
    omega

theorem windowBox_lt (hfits : Fits d.toDevice w) (ho : o ∈ windowBox d.toDevice w) :
    o < DISTANCE := by
  obtain ⟨⟨hx, hy, hw, hh⟩, hcase⟩ := hfits
  rw [windowBox, Nat.mod_eq_of_lt hx, Nat.mod_eq_of_lt hy, Nat.mod_eq_of_lt hw,
    Nat.mod_eq_of_lt hh] at ho
  obtain hright | hempty : w.absolute_x + w.width ≤ d.width ∨
      (w.width = 0 ∨ w.height = 0 ∨ d.height < w.absolute_y) := by omega
  · exact box_lt (by omega) ho
  · rw [box_eq_empty_iff.mpr hempty] at ho
    exact ho.elim

end Areas

section Cursor

variable {d : Surface} {s : Server} {o : Nat}

theorem showCursor_hidden (h : ¬ s.mouse.Shown) : showCursor d.toDevice s = s := by
  unfold showCursor
  rw [display_hidden h]
  split
  · split <;> rfl
  · rfl

theorem showCursor_shown (h : s.mouse.Shown) : showCursor d.toDevice s = { s with
      mouse := (display_mouse_cursor d.toDevice s.mouse s.memory).1
      memory := (display_mouse_cursor d.toDevice s.mouse s.memory).2 } := by
  rw [showCursor, if_pos h.2.1, if_pos h.2.2]

theorem showCursor_windows (s : Server) : (showCursor d.toDevice s).windows = s.windows ∧
      (showCursor d.toDevice s).windowList = s.windowList := by
  by_cases h : s.mouse.Shown
  · rw [showCursor_shown h]
    exact ⟨rfl, rfl⟩
  · rw [showCursor_hidden h]
    exact ⟨rfl, rfl⟩

theorem showCursor_bytes (hmouse : s.mouse.Shown → PointerFits d.toDevice s.mouse)
    (ho : o < screenBytes d.toDevice) (hout : o ∉ pointerArea d.toDevice s.mouse) :
    (showCursor d.toDevice s).memory (BACKBUFFER_ADDRESS + o) = s.memory (BACKBUFFER_ADDRESS + o) ∧
      (o ∈ leftArea d.toDevice s.mouse →
        (showCursor d.toDevice s).memory (FRONTBUFFER_ADDRESS + o) =
          s.memory (BACKBUFFER_ADDRESS + o)) ∧
      (o ∉ leftArea d.toDevice s.mouse →
        (showCursor d.toDevice s).memory (FRONTBUFFER_ADDRESS + o) =
          s.memory (FRONTBUFFER_ADDRESS + o)) := by
  by_cases hshown : s.mouse.Shown
  · have hfits := hmouse hshown
    have hdrawn := display_written (m := s.memory) hshown hfits.near
    have hbox : o ∉ box d.toDevice s.mouse.new_mouse_x.toNat s.mouse.new_mouse_y.toNat
        (rectSize s.mouse) (rectSize s.mouse) := by
      rw [mem_box_iff hfits.drawn ho]
      exact fun h => hout ⟨hshown, h⟩
    have hlt := hfits.drawn
    have hfront := hdrawn.outside hbox
    have hback := hdrawn.behind (fun b hb => box_lt (by omega) hb) o
    rw [showCursor_shown hshown]
    change (display_mouse_cursor d.toDevice s.mouse s.memory).2
      (FRONTBUFFER_ADDRESS + DISTANCE + o) = _ ∧ _
    dsimp only
    rw [hfront, hback]
    cases hclear : s.mouse.clear_mousebox with
    | false =>
        rw [clearMousebox_kept hclear]
        refine ⟨rfl, ?_, fun _ => rfl⟩
        rintro ⟨⟨_, htrue⟩, _⟩
        rw [hclear] at htrue
        exact (Bool.false_ne_true htrue).elim
    | true =>
        have hcopied := clearMousebox_copied (m := s.memory) hfits.near hclear
        have hleft := hfits.left hclear
        have hkept : Written FRONTBUFFER_ADDRESS _ s.memory _ := hcopied.kept
        refine ⟨hkept.behind (fun b hb => box_lt (by omega) hb) o, ?_, ?_⟩
        · rintro ⟨_, hin⟩
          exact hcopied.copied o ((mem_box_iff hleft ho).mpr hin)
        · intro hnot
          apply hkept.outside
          rw [mem_box_iff hleft ho]
          exact fun hin => hnot ⟨⟨hshown, hclear⟩, hin⟩
  · rw [showCursor_hidden hshown]
    exact ⟨rfl, fun h => (hshown h.1.1).elim, fun _ => rfl⟩

end Cursor

section Frame

variable {d : Surface} {s : Server} {screen window : Nat}

theorem show_visible (hlive : (s.windows screen).Live) (hvisible : Visible s screen) :
    gws_show_window_rect d.toDevice s screen =
      validate_window (refreshWindow d.toDevice s screen) screen := by
  rw [gws_show_window_rect, if_neg (by simp [hlive.1]), if_neg (not_not.mpr hlive.2),
    if_neg hvisible.1, if_neg (by simp [hvisible.2])]

theorem show_memory (hlive : (s.windows screen).Live) (hvisible : Visible s screen) :
    (gws_show_window_rect d.toDevice s screen).memory =
      (refreshWindow d.toDevice s screen).memory := by
  have hrefreshed : ((refreshWindow d.toDevice s screen).windows screen).Live := hlive
  rw [show_visible hlive hvisible, validate_live _ _ hrefreshed]

theorem show_hidden (h : ¬ ((s.windows screen).Live ∧ Visible s screen)) :
    gws_show_window_rect d.toDevice s screen = s := by
  unfold gws_show_window_rect
  unfold Window.Live Visible at h
  dsimp only
  split
  · rfl
  split
  · rfl
  split
  · rfl
  rw [if_pos]
  grind

theorem show_windows (s : Server) (screen : Nat) :
    (gws_show_window_rect d.toDevice s screen).windowList = s.windowList ∧
      (gws_show_window_rect d.toDevice s screen).mouse = s.mouse ∧
      ∀ window, (gws_show_window_rect d.toDevice s screen).windows window = s.windows window ∨
        (window = screen ∧ Visible s screen ∧
          (gws_show_window_rect d.toDevice s screen).windows window =
            (s.windows window).validated) := by
  by_cases h : (s.windows screen).Live ∧ Visible s screen
  · have hlive : ((refreshWindow d.toDevice s screen).windows screen).Live := h.1
    rw [show_visible h.1 h.2, validate_live _ _ hlive]
    refine ⟨rfl, rfl, fun window => ?_⟩
    obtain rfl | hne := eq_or_ne window screen
    · exact .inr ⟨rfl, h.2, Function.update_self ..⟩
    · exact .inl (Function.update_of_ne hne ..)
  · rw [show_hidden h]
    exact ⟨rfl, rfl, fun _ => .inl rfl⟩

theorem listed_iff {t : Server} (hlist : t.windowList = s.windowList)
    (hlive : (t.windows window).Live ↔ (s.windows window).Live) :
    Listed t WINDOW_COUNT_MAX window ↔ Listed s WINDOW_COUNT_MAX window := by
  rw [Listed, Listed, hlist, hlive]

theorem pass_frame (hframe : s.dirty = true) (hscreen : s.screen_window = some screen)
    (m : Memory) :
    comp_display_desktop_components d.toDevice { s with memory := m } =
      some (validate (showCursor d.toDevice
        (gws_show_window_rect d.toDevice { s with memory := m } screen))) := by
  rw [comp_display_desktop_components, if_pos hframe, gws_show_backbuffer]
  dsimp only
  rw [hscreen]
  rfl

theorem frame_not_repaints (hframe : s.dirty = true) (hrepaints : Repaints d s) :
    ∃ screen, s.screen_window = some screen ∧
      ∀ window, Dirty s WINDOW_COUNT_MAX window → window = screen ∧ Visible s screen := by
  obtain ⟨t, ht, -, hclean, -⟩ := hrepaints s.memory
  cases hscreen : s.screen_window with
  | none =>
      rw [comp_display_desktop_components, if_pos hframe, gws_show_backbuffer] at ht
      dsimp only at ht
      rw [hscreen] at ht
      cases ht
  | some screen =>
      refine ⟨screen, rfl, fun window hwindow => ?_⟩
      rw [pass_frame hframe hscreen] at ht
      obtain rfl := Option.some.inj ht
      obtain ⟨hlist, -, hwindows⟩ := show_windows (d := d) { s with memory := s.memory } screen
      obtain ⟨hcursor, hcursorList⟩ := showCursor_windows (d := d)
        (gws_show_window_rect d.toDevice { s with memory := s.memory } screen)
      obtain hsame | ⟨heq, hvisible, -⟩ := hwindows window
      · have hdirty := hclean window ?_
        · change ((showCursor _ _).windows window).dirty = false at hdirty
          rw [hcursor, hsame] at hdirty
          exact absurd (hwindow.2.symm.trans hdirty) (by simp)
        · refine (listed_iff (hcursorList.trans hlist) ?_).mpr hwindow.1
          rw [hcursor, hsame]
      · exact ⟨heq, hvisible⟩

theorem frame_repaints (hcontained : Contained d.toDevice s) (hframe : s.dirty = true)
    (hscreen : s.screen_window = some screen)
    (hdirty : ∀ window, Dirty s WINDOW_COUNT_MAX window → window = screen ∧ Visible s screen) :
    Repaints d s := by
  intro m
  obtain ⟨hlist, hmouse, hwindows⟩ := show_windows (d := d) { s with memory := m } screen
  obtain ⟨hcursor, hcursorList⟩ := showCursor_windows (d := d)
    (gws_show_window_rect d.toDevice { s with memory := m } screen)
  refine ⟨_, pass_frame hframe hscreen m, ?_, ?_, fun h => ?_⟩
  · intro window hwindow o ho hout
    obtain ⟨rfl, hvisible⟩ := hdirty window hwindow
    have hlt := area_lt ho
    have hshow := show_memory (d := d) (s := { s with memory := m }) hwindow.1.2 hvisible
    have hcopied := refreshWindow_copied (d := d.toDevice) { s with memory := m } window
    rw [← hshow] at hcopied
    have hfits := hcontained.screen hframe window hscreen hwindow
    have hin := (mem_windowBox_iff hfits hlt).mpr ho
    have hkept : Written FRONTBUFFER_ADDRESS _ m _ := hcopied.kept
    have hback := hkept.behind (fun b hb => windowBox_lt hfits hb) o
    obtain ⟨hbehind, hleft, hother⟩ := showCursor_bytes (d := d)
      (s := gws_show_window_rect d.toDevice { s with memory := m } window)
      (by rw [hmouse]; exact hcontained.mouse) hlt (by rw [hmouse]; exact hout)
    change (showCursor _ _).memory _ = (showCursor _ _).memory _
    rw [hbehind]
    by_cases hold : o ∈ leftArea d.toDevice
        (gws_show_window_rect d.toDevice { s with memory := m } window).mouse
    · exact hleft hold
    · rw [hother hold, hcopied.copied o hin]
      exact hback.symm
  · intro window hlisted
    change ((showCursor _ _).windows window).dirty = false
    rw [hcursor]
    obtain hsame | ⟨-, -, hvalid⟩ := hwindows window
    · rw [hsame]
      by_contra hset
      have hlive : Listed s WINDOW_COUNT_MAX window := by
        refine (listed_iff (hcursorList.trans hlist) ?_).mp hlisted
        rw [hcursor, hsame]
      obtain ⟨rfl, hvisible⟩ := hdirty window ⟨hlive, Bool.eq_true_of_not_eq_false hset⟩
      have hrefreshed : ((refreshWindow d.toDevice { s with memory := m } window).windows
        window).Live := hlive.2
      have hshow := show_visible (d := d) (s := { s with memory := m }) hlive.2 hvisible
      rw [hshow, validate_live _ _ hrefreshed] at hsame
      dsimp only at hsame
      rw [Function.update_self] at hsame
      exact hset (congrArg Window.dirty hsame).symm
    · rw [hvalid]
      rfl
  · rw [hframe] at h
    cases h

end Frame

section Table

variable {d : Surface} {s : Server}

theorem pass_table (hframe : s.dirty = false) (m : Memory) :
    comp_display_desktop_components d.toDevice { s with memory := m } =
      some (validate (showCursor d.toDevice
        (reactRefreshDirtyWindows d.toDevice { s with memory := m }))) := by
  rw [comp_display_desktop_components, if_neg (by simp [hframe])]

theorem reacted (hcontained : Contained d.toDevice s) (hframe : s.dirty = false) (m : Memory) :
    Reacted d.toDevice { s with memory := m } WINDOW_COUNT_MAX
      (reactSlots d.toDevice WINDOW_COUNT_MAX { s with memory := m }) :=
  reactSlots_reacted WINDOW_COUNT_MAX fun window hwindow _ hb =>
    windowBox_lt (hcontained.windows hframe window hwindow) hb

theorem table_bytes (hcontained : Contained d.toDevice s) (hframe : s.dirty = false)
    (m : Memory) {o : Nat} (ho : o < screenBytes d.toDevice) (hout : o ∉ pointerArea d.toDevice s.mouse) :
    let t := showCursor d.toDevice (reactRefreshDirtyWindows d.toDevice { s with memory := m })
    let Renewed := o ∈ leftArea d.toDevice s.mouse ∨
      ∃ front, Fronted s WINDOW_COUNT_MAX front ∧ o ∈ area d.toDevice (s.windows front)
    t.memory (BACKBUFFER_ADDRESS + o) = m (BACKBUFFER_ADDRESS + o) ∧
      (Renewed → t.memory (FRONTBUFFER_ADDRESS + o) = m (BACKBUFFER_ADDRESS + o)) ∧
      (¬ Renewed → t.memory (FRONTBUFFER_ADDRESS + o) = m (FRONTBUFFER_ADDRESS + o)) := by
  intro t Renewed
  have hreacted := reacted hcontained hframe m
  have hmouse := hreacted.mouse
  have hkept : Written FRONTBUFFER_ADDRESS _ m _ := hreacted.memory.kept
  have hmapped : ∀ b ∈ shownBoxes d.toDevice { s with memory := m } WINDOW_COUNT_MAX,
      b < DISTANCE := by
    rintro b ⟨window, hwindow, hb⟩
    exact windowBox_lt (hcontained.windows hframe window hwindow) hb
  have hback := hkept.behind hmapped o
  have hboxes : o ∈ shownBoxes d.toDevice { s with memory := m } WINDOW_COUNT_MAX ↔
      ∃ front, Fronted s WINDOW_COUNT_MAX front ∧ o ∈ area d.toDevice (s.windows front) := by
    refine exists_congr fun front => and_congr_right fun hfront => ?_
    exact mem_windowBox_iff (hcontained.windows hframe front hfront) ho
  obtain ⟨hbehind, hleft, hother⟩ := showCursor_bytes (d := d)
    (s := reactRefreshDirtyWindows d.toDevice { s with memory := m })
    (by rw [reactRefreshDirtyWindows, hmouse]; exact hcontained.mouse) ho
    (by rw [reactRefreshDirtyWindows, hmouse]; exact hout)
  rw [reactRefreshDirtyWindows, hmouse] at hleft hother
  refine ⟨hbehind.trans hback, ?_, ?_⟩
  · intro hrenewed
    by_cases hold : o ∈ leftArea d.toDevice s.mouse
    · exact (hleft hold).trans hback
    · refine (hother hold).trans (hreacted.memory.copied o ?_)
      exact hboxes.mpr (hrenewed.resolve_left hold)
  · intro hnot
    rw [not_or] at hnot
    exact (hother hnot.1).trans (hkept.outside fun hin => hnot.2 (hboxes.mp hin))

theorem table_windows (hcontained : Contained d.toDevice s) (hframe : s.dirty = false)
    (m : Memory) {window : Nat}
    (hlisted : Listed (showCursor d.toDevice
      (reactRefreshDirtyWindows d.toDevice { s with memory := m })) WINDOW_COUNT_MAX window) :
    ((showCursor d.toDevice
      (reactRefreshDirtyWindows d.toDevice { s with memory := m })).windows window).dirty =
        false := by
  have hreacted := reacted hcontained hframe m
  obtain ⟨hwindows, hlist⟩ := showCursor_windows (d := d)
    (reactRefreshDirtyWindows d.toDevice { s with memory := m })
  rw [hwindows]
  by_cases hdirty : Dirty s WINDOW_COUNT_MAX window
  · have hvalid := hreacted.validated window hdirty
    rw [reactRefreshDirtyWindows, hvalid]
    rfl
  · have hsame := hreacted.other window hdirty
    rw [reactRefreshDirtyWindows, hsame]
    by_contra hset
    apply hdirty
    refine ⟨(listed_iff (hlist.trans hreacted.windowList) ?_).mp hlisted,
      Bool.eq_true_of_not_eq_false hset⟩
    rw [hwindows, reactRefreshDirtyWindows, hsame]

theorem table_repaints_iff (hcontained : Contained d.toDevice s) (hframe : s.dirty = false) :
    Repaints d s ↔ ∀ window, Dirty s WINDOW_COUNT_MAX window →
      ∀ o ∈ area d.toDevice (s.windows window), o ∈ pointerArea d.toDevice s.mouse ∨
        o ∈ leftArea d.toDevice s.mouse ∨
          ∃ front, Fronted s WINDOW_COUNT_MAX front ∧ o ∈ area d.toDevice (s.windows front) := by
  constructor
  · intro hrepaints window hwindow o ho
    by_contra hout
    rw [not_or] at hout
    -- the front buffer differs there before the pass
    let m : Memory := fun a => if a = FRONTBUFFER_ADDRESS + o then 1 else 0
    obtain ⟨t, ht, hshown, -⟩ := hrepaints m
    rw [pass_table hframe] at ht
    obtain rfl := Option.some.inj ht
    obtain ⟨hback, -, hfront⟩ := table_bytes hcontained hframe m (area_lt ho) hout.1
    have hsame := hshown window hwindow o ho hout.1
    change (showCursor _ _).memory _ = (showCursor _ _).memory _ at hsame
    rw [hback, hfront hout.2] at hsame
    have hapart : BACKBUFFER_ADDRESS + o ≠ FRONTBUFFER_ADDRESS + o := by
      unfold BACKBUFFER_ADDRESS FRONTBUFFER_ADDRESS
      omega
    simp only [m, if_neg hapart] at hsame
    exact absurd hsame (by decide)
  · intro hcovered m
    refine ⟨_, pass_table hframe m, ?_, fun window => table_windows hcontained hframe m, ?_⟩
    · intro window hwindow o ho hout
      obtain ⟨hback, hfront, -⟩ := table_bytes hcontained hframe m (area_lt ho) hout
      have hrenewed := (hcovered window hwindow o ho).resolve_left hout
      exact (hfront hrenewed).trans hback.symm
    · intro _ window _ _ o ho hclean hout hleft
      obtain ⟨-, -, hfront⟩ := table_bytes hcontained hframe m (area_lt ho) hout
      refine hfront ?_
      rintro (hin | ⟨front, hdirty, hin⟩)
      · exact hleft hin
      · exact hclean front hdirty.dirty hin

end Table

def hiddenMouse : Mouse where
  initialized := true
  gUseMouse := false
  gDisplayMousePointer := false
  old_mouse_x := 400
  old_mouse_y := 300
  new_mouse_x := 400
  new_mouse_y := 300
  clear_mousebox := false
  is_pressed := false
  is_dragging := false
  mouse_hover := none

def button : Window where
  used := true
  magic := WINDOW_MAGIC
  type := 1
  state := 0
  dirty := true
  absolute_x := 100
  absolute_y := 100
  width := 50
  height := 20
  parent := none

def backdrop : Window where
  used := true
  magic := WINDOW_MAGIC
  type := 1
  state := 0
  dirty := false
  absolute_x := 0
  absolute_y := 0
  width := 800
  height := 600
  parent := none

/-- The windows of the screen and of the desktop are clean, a button is dirty. -/
def oneDirty (frame : Bool) : Server where
  windows := fun window => if window = 2 then button else backdrop
  windowList := fun i => if i < 3 then some i else none
  root_window := some 1
  screen_window := some 0
  dirty := frame
  mouse := hiddenMouse
  memory := fun _ => 0

theorem oneDirty_contained (frame : Bool) : Contained desktop.toDevice (oneDirty frame) := by
  have hfits : ∀ window, Fits desktop.toDevice ((oneDirty frame).windows window) := by
    intro window
    simp only [oneDirty]
    split
    · decide
    · decide
  refine ⟨fun _ window _ => hfits window, fun _ window _ _ => hfits window, fun h => ?_⟩
  exact (Bool.false_ne_true h.2.1).elim

end Gramado.Ds.RepaintPass
