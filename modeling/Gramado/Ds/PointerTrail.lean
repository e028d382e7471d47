import Gramado.Ds.RepaintPass

namespace Gramado.Ds.PointerTrail

open Ds.Compositor Ds.Pointer Ds.RepaintPass
open Ds.ZOrder (WINDOW_COUNT_MAX)
open Gdi.Painter (Device)
open Gdi.Refresh Library.Mirror Library.Raster Library.Run

inductive MouseEvent where
  | GWS_MouseMove
  | GWS_MousePressed
  | GWS_MouseReleased
  deriving DecidableEq, Repr

/-- What the server does at an event besides the pointer: it may look at another window, and it
shows what it paints. -/
structure Response (d : Surface) where
  respond : Server → Server
  mouse : ∀ s, (respond s).mouse =
    { s.mouse with mouse_hover := (respond s).mouse.mouse_hover }
  shows : ∀ s, ∀ o < screenBytes d.toDevice,
    (respond s).memory (FRONTBUFFER_ADDRESS + o) = (respond s).memory (BACKBUFFER_ADDRESS + o) ∨
      (respond s).memory (FRONTBUFFER_ADDRESS + o) = s.memory (FRONTBUFFER_ADDRESS + o) ∧
        (respond s).memory (BACKBUFFER_ADDRESS + o) = s.memory (BACKBUFFER_ADDRESS + o)

def comp_initialize_mouse (d : Device) (p : Mouse) : Mouse :=
  let hotspotx : Int := if d.width ≤ 800 then d.width / 2 else 0
  let hotspoty : Int := if d.height ≤ 800 then d.height / 2 else 0
  { p with
    old_mouse_x := hotspotx, old_mouse_y := hotspoty
    new_mouse_x := hotspotx, new_mouse_y := hotspoty
    gUseMouse := false }

def comp_set_mouse_position (d : Device) (x y : Int) (p : Mouse) : Mouse :=
  let minw := 0
  let maxw := d.width
  let minh := 0
  let maxh := d.height
  let x := if unsigned x < minw then minw else unsigned x
  let y := if unsigned y < minh then minh else unsigned y
  let x := if x > maxw then maxw else x
  let y := if y > maxh then maxh else y
  { p with new_mouse_x := x, new_mouse_y := y }

section

variable {d : Surface}

def setButtons (pressed dragging : Bool) (s : Server) : Server :=
  { s with mouse := { s.mouse with is_pressed := pressed, is_dragging := dragging } }

/-- A move with a button down drags. `status` is what the bar at the bottom does then. -/
def dragPointer (status : Response d) (s : Server) : Server :=
  if s.mouse.is_pressed then status.respond (setButtons true true s)
  else setButtons false false s

def dropPointer (status : Response d) (s : Server) : Server :=
  let s := setButtons false s.mouse.is_dragging s
  if s.mouse.is_dragging then status.respond s else s

def movePointer (d : Surface) (x y : Int) (s : Server) : Server :=
  let p := comp_set_mouse_position d.toDevice x y { s.mouse with clear_mousebox := true }
  let o := display_mouse_cursor d.toDevice p s.memory
  { s with mouse := o.1, memory := o.2 }

/-- `handler` is what the handler of the event does at last. -/
def wmProcessMouseEvent (status handler : Response d) (event : MouseEvent) (x y : Int)
    (running : Bool) (s : Server) : Server :=
  if ¬ running then s
  else if ¬ s.mouse.gUseMouse then s
  else
    match event with
    | .GWS_MouseMove => handler.respond (movePointer d x y (dragPointer status s))
    | .GWS_MousePressed => handler.respond (setButtons true false s)
    | .GWS_MouseReleased => handler.respond (setButtons false false (dropPointer status s))

end

/-- A server in the course of a run: the coordinates that the mouse moved to last, and the largest
size that the pointer has been drawn with since it was erased. -/
structure Session where
  running : Bool
  server : Server
  last : Option (Int × Int)
  largest : Nat

inductive Input (d : Surface) where
  | mouse (event : MouseEvent) (x y : Int) (status handler : Response d)
  | pass

def moved (event : MouseEvent) (x y : Int) (last : Option (Int × Int)) : Option (Int × Int) :=
  if event = .GWS_MouseMove then some (x, y) else last

def step (d : Surface) (a : Session) : Input d → Except Unit (Session × Session)
  | .mouse event x y status handler =>
      let s := wmProcessMouseEvent status handler event x y a.running a.server
      let t := { a with
        server := s
        last := moved event x y a.last
        largest := if event = .GWS_MouseMove ∧ a.running = true ∧ s.mouse.Shown
          then rectSize s.mouse else a.largest }
      .ok (t, t)
  | .pass =>
      match comp_display_desktop_components d.toDevice a.server with
      | none => .error ()
      | some s =>
          let t := { a with
            server := s
            largest := if s.mouse.Shown then max a.largest (rectSize s.mouse) else a.largest }
          .ok (t, t)

def clamp (n : Int) (side : Nat) : Int :=
  max 0 (min n (side - 1))

def Tracks (d : Device) (a : Session) : Prop :=
  ∀ x y, a.last = some (x, y) →
    a.server.mouse.new_mouse_x = clamp x d.width ∧ a.server.mouse.new_mouse_y = clamp y d.height

def NoTrail (d : Device) (a : Session) : Prop :=
  Mirrors FRONTBUFFER_ADDRESS DISTANCE (screenBytes d) (pointerArea d a.server.mouse)
    a.server.memory

/-- The screen shows the back buffer, and the pointer is on it but not drawn. -/
structure Start (d : Surface) (a : Session) : Prop where
  last : a.last = none
  largest : a.largest = 0
  clear : a.server.mouse.clear_mousebox = false
  old_x : a.server.mouse.old_mouse_x = a.server.mouse.new_mouse_x
  old_y : a.server.mouse.old_mouse_y = a.server.mouse.new_mouse_y
  new_x : 0 ≤ a.server.mouse.new_mouse_x ∧ a.server.mouse.new_mouse_x < d.width
  new_y : 0 ≤ a.server.mouse.new_mouse_y ∧ a.server.mouse.new_mouse_y < d.height
  shown : Mirrors FRONTBUFFER_ADDRESS DISTANCE (screenBytes d.toDevice) ∅ a.server.memory

/-- The pointer is at least as large as what has been drawn at its place, and ends before the
right border. In the last line the border may cut it off. -/
def Covers (d : Device) (a : Session) : Prop :=
  (a.server.mouse.new_mouse_y + 1 < d.height →
    a.largest ≤ rectSize a.server.mouse ∧
      a.server.mouse.new_mouse_x + rectSize a.server.mouse ≤ d.width) ∧
    (a.server.mouse.new_mouse_y + 1 = d.height →
      a.largest ≤ rectSize a.server.mouse ∨
        d.width ≤ a.server.mouse.new_mouse_x + rectSize a.server.mouse)

/-- The passes of the runs, in which no window is dirty. If the frame is, the window of the screen
has a rectangle that can be copied. -/
structure Quiet (d : Device) (s : Server) : Prop where
  windows : ∀ window, ¬ Dirty s WINDOW_COUNT_MAX window
  frame : s.dirty = true → ∃ screen, s.screen_window = some screen ∧ Fits d (s.windows screen)

/-- The mouse is in use and moves to a pixel of the screen; a pass covers what has been drawn. -/
def Meets (d : Surface) (a : Session) : Input d → Prop
  | .mouse event x y _ _ => event = .GWS_MouseMove →
      (a.running = true ∧ a.server.mouse.gUseMouse = true) ∧ (0 ≤ x ∧ x < d.width) ∧
        (0 ≤ y ∧ y < d.height)
  | .pass => Quiet d.toDevice a.server ∧ (a.server.mouse.Shown → Covers d.toDevice a)

/-- What has been drawn over the back buffer is below the pointer, and the pointer is settled. -/
structure Drawn (d : Surface) (s : Server) (largest : Nat) : Prop where
  new_x : 0 ≤ s.mouse.new_mouse_x ∧ s.mouse.new_mouse_x < d.width
  new_y : 0 ≤ s.mouse.new_mouse_y ∧ s.mouse.new_mouse_y < d.height
  settled : s.mouse.Shown → s.mouse.clear_mousebox = false ∧
    s.mouse.old_mouse_x = s.mouse.new_mouse_x ∧ s.mouse.old_mouse_y = s.mouse.new_mouse_y
  hidden : ¬ s.mouse.Shown → largest = 0
  small : largest ≤ 16
  mirrors : Mirrors FRONTBUFFER_ADDRESS DISTANCE (screenBytes d.toDevice)
    (box d.toDevice s.mouse.new_mouse_x.toNat s.mouse.new_mouse_y.toNat largest largest) s.memory

def Inv (d : Surface) (a : Session) : Prop :=
  Drawn d a.server a.largest ∧ Tracks d.toDevice a

variable {x y : Int} {t : Server}

section Pointer

variable {d : Surface} {p : Mouse} {m : Memory} {n largest : Nat}

theorem box_subset {x y k l : Nat} (h : k ≤ l) : box d.toDevice x y k k ⊆ box d.toDevice x y l l :=
  runs_subset (Nat.mul_le_mul_left _ h) (by omega)

theorem display_erased (hshown : p.Shown) (hnear : p.Near d.toDevice)
    (hclear : p.clear_mousebox = true) (hlargest : largest ≤ 16)
    (hm : Mirrors FRONTBUFFER_ADDRESS DISTANCE n
      (box d.toDevice p.old_mouse_x.toNat p.old_mouse_y.toNat largest largest) m) :
    Mirrors FRONTBUFFER_ADDRESS DISTANCE n
      (box d.toDevice p.new_mouse_x.toNat p.new_mouse_y.toNat (rectSize p) (rectSize p))
      (display_mouse_cursor d.toDevice p m).2 := by
  have hold := hnear.old_x
  have hnew := hnear.new_x
  have hsize := rectSize_le p
  have herased := hm.copied (clearMousebox_copied hnear hclear) fun o ho => box_lt (by omega) ho
  have hdrawn := herased.written (display_written hshown hnear) fun o ho => box_lt (by omega) ho
  refine hdrawn.mono fun o _ ho => ho.resolve_left ?_
  rintro ⟨hin, hout⟩
  exact hout (box_subset hlargest hin)

theorem display_again (hshown : p.Shown) (hnear : p.Near d.toDevice)
    (hclear : p.clear_mousebox = false)
    (hm : Mirrors FRONTBUFFER_ADDRESS DISTANCE n
      (box d.toDevice p.new_mouse_x.toNat p.new_mouse_y.toNat largest largest) m) :
    Mirrors FRONTBUFFER_ADDRESS DISTANCE n
      (box d.toDevice p.new_mouse_x.toNat p.new_mouse_y.toNat (max largest (rectSize p))
        (max largest (rectSize p))) (display_mouse_cursor d.toDevice p m).2 := by
  have hnew := hnear.new_x
  have hsize := rectSize_le p
  have hwritten := display_written (m := m) hshown hnear
  rw [clearMousebox_kept hclear] at hwritten
  have hdrawn := hm.written hwritten fun o ho => box_lt (by omega) ho
  refine hdrawn.mono fun o _ ho => ?_
  obtain hin | hin := ho
  · exact box_subset (Nat.le_max_left _ _) hin
  · exact box_subset (Nat.le_max_right _ _) hin

theorem set_position (hx : 0 ≤ x ∧ x < d.width) (hy : 0 ≤ y ∧ y < d.height) :
    comp_set_mouse_position d.toDevice x y p = { p with new_mouse_x := x, new_mouse_y := y } := by
  have hwidth := d.width_le
  have hheight := d.height_lt
  obtain ⟨hx', -⟩ := unsigned_of_le ⟨hx.1, hx.2.le⟩ (by omega)
  obtain ⟨hy', -⟩ := unsigned_of_le ⟨hy.1, hy.2.le⟩ (by omega)
  have hcolumn : (x.toNat : Int) = x := Int.toNat_of_nonneg hx.1
  have hrow : (y.toNat : Int) = y := Int.toNat_of_nonneg hy.1
  simp only [comp_set_mouse_position, hx', hy', Nat.not_lt_zero, ↓reduceIte]
  rw [if_neg (by omega), if_neg (by omega), hcolumn, hrow]

theorem clamp_of_mem {k : Int} {side : Nat} (h : 0 ≤ k ∧ k < side) : clamp k side = k := by
  unfold clamp
  omega

theorem box_covered {x y size o : Nat} (ho : o < screenBytes d.toDevice) (hsize : 0 < size)
    (hlarge : y + 1 < d.height → largest ≤ size ∧ x + size ≤ d.width)
    (hlast : y + 1 = d.height → largest ≤ size ∨ d.width ≤ x + size) (hy : y < d.height)
    (hin : o ∈ box d.toDevice x y largest largest) :
    o ∈ common d.toDevice (d.bpp / 8) x y size size := by
  obtain hinner | hedge : y + 1 < d.height ∨ y + 1 = d.height := by omega
  · obtain ⟨hle, hright⟩ := hlarge hinner
    exact (mem_box_iff hright ho).mp (box_subset hle hin)
  · have hpos := bytes_pos d.toDevice
    obtain ⟨j, hj, hlow, hhigh⟩ := hin
    have hscreen : screenBytes d.toDevice = y * (d.bpp / 8 * d.width) + d.bpp / 8 * d.width := by
      rw [screenBytes, ← hedge, Nat.mul_succ, Nat.mul_comm _ y]
    have hcolumn : o - y * (d.bpp / 8 * d.width) < d.bpp / 8 * d.width := by
      omega
    obtain rfl : j = 0 := by
      by_contra hj
      have hnext := Nat.mul_le_mul_right (d.bpp / 8 * d.width) (Nat.one_le_iff_ne_zero.mpr hj)
      omega
    have hsplit : o = y * (d.bpp / 8 * d.width) + (o - y * (d.bpp / 8 * d.width)) := by omega
    rw [hsplit, common_eq hpos, mem_block hcolumn]
    refine ⟨⟨by omega, ?_⟩, by omega, by omega⟩
    have hcommute : d.width * (d.bpp / 8) = d.bpp / 8 * d.width := Nat.mul_comm _ _
    obtain hright | hright := le_total (x + size) d.width
    · rw [Nat.min_eq_left hright, Nat.add_mul, Nat.mul_comm size]
      obtain hle | hwide := hlast hedge
      · have hlength := Nat.mul_le_mul_left (d.bpp / 8) hle
        omega
      · have hall := Nat.mul_le_mul_right (d.bpp / 8) hwide
        rw [Nat.add_mul, Nat.mul_comm size] at hall
        omega
    · rw [Nat.min_eq_right hright]
      omega

end Pointer

section Steps

variable {d : Surface} {s : Server} {largest : Nat}

/-- The pointer is where it was, and the front buffer shows the back buffer where it did. -/
structure Keeps (d : Surface) (s t : Server) : Prop where
  mouse : ∃ pressed dragging hover, t.mouse = { s.mouse with
    is_pressed := pressed, is_dragging := dragging, mouse_hover := hover }
  memory : ∀ S, Mirrors FRONTBUFFER_ADDRESS DISTANCE (screenBytes d.toDevice) S s.memory →
    Mirrors FRONTBUFFER_ADDRESS DISTANCE (screenBytes d.toDevice) S t.memory

theorem Keeps.refl (s : Server) : Keeps d s s := ⟨⟨_, _, _, rfl⟩, fun _ hS => hS⟩

theorem Keeps.trans {u : Server} (h : Keeps d s t) (h' : Keeps d t u) : Keeps d s u := by
  obtain ⟨_, _, _, hmouse⟩ := h.mouse
  obtain ⟨pressed, dragging, hover, hmouse'⟩ := h'.mouse
  rw [hmouse] at hmouse'
  exact ⟨⟨pressed, dragging, hover, hmouse'⟩, fun S hS => h'.memory S (h.memory S hS)⟩

theorem buttons_keep (pressed dragging : Bool) (s : Server) :
    Keeps d s (setButtons pressed dragging s) :=
  ⟨⟨pressed, dragging, _, rfl⟩, fun _ hS => hS⟩

theorem Response.keeps (r : Response d) (s : Server) : Keeps d s (r.respond s) := by
  refine ⟨⟨_, _, _, r.mouse s⟩, fun S hS o ho hout => ?_⟩
  obtain hshown | ⟨hfront, hback⟩ := r.shows s o ho
  · exact hshown
  · rw [hfront]
    exact (hS o ho hout).trans hback.symm

theorem Drawn.keep (h : Drawn d s largest) (hkeeps : Keeps d s t) : Drawn d t largest := by
  obtain ⟨pressed, dragging, hover, hmouse⟩ := hkeeps.mouse
  constructor
  · rw [hmouse]
    exact h.new_x
  · rw [hmouse]
    exact h.new_y
  · rw [hmouse]
    exact h.settled
  · rw [hmouse]
    exact h.hidden
  · exact h.small
  · rw [hmouse]
    exact hkeeps.memory _ h.mirrors

theorem dragPointer_keeps (status : Response d) (s : Server) :
    Keeps d s (dragPointer status s) := by
  unfold dragPointer
  split
  · exact (buttons_keep true true s).trans (status.keeps _)
  · exact buttons_keep false false s

theorem dropPointer_keeps (status : Response d) (s : Server) :
    Keeps d s (dropPointer status s) := by
  refine (buttons_keep false s.mouse.is_dragging s).trans ?_
  unfold dropPointer
  dsimp only
  split
  · exact status.keeps _
  · exact Keeps.refl _

theorem button_keeps (status handler : Response d) {event : MouseEvent}
    (hevent : event ≠ .GWS_MouseMove) (x y : Int) (running : Bool) (s : Server) :
    Keeps d s (wmProcessMouseEvent status handler event x y running s) := by
  unfold wmProcessMouseEvent
  split
  · exact Keeps.refl s
  split
  · exact Keeps.refl s
  cases event with
  | GWS_MouseMove => exact (hevent rfl).elim
  | GWS_MousePressed => exact (buttons_keep true false s).trans (handler.keeps _)
  | GWS_MouseReleased =>
      exact ((dropPointer_keeps status s).trans (buttons_keep false false _)).trans
        (handler.keeps _)

/-- The mouse after a move to a pixel of the screen, before the pointer is drawn. -/
def target (p : Mouse) (x y : Int) : Mouse :=
  { p with clear_mousebox := true, new_mouse_x := x, new_mouse_y := y }

theorem movePointer_eq (hx : 0 ≤ x ∧ x < d.width) (hy : 0 ≤ y ∧ y < d.height) :
    movePointer d x y s = { s with
      mouse := (display_mouse_cursor d.toDevice (target s.mouse x y) s.memory).1
      memory := (display_mouse_cursor d.toDevice (target s.mouse x y) s.memory).2 } := by
  rw [movePointer, set_position hx hy]
  rfl

theorem movePointer_drawn (h : Drawn d s largest) (hx : 0 ≤ x ∧ x < d.width)
    (hy : 0 ≤ y ∧ y < d.height) :
    Drawn d (movePointer d x y s)
        (if (movePointer d x y s).mouse.Shown then rectSize (movePointer d x y s).mouse
          else largest) ∧
      (movePointer d x y s).mouse.new_mouse_x = x ∧
        (movePointer d x y s).mouse.new_mouse_y = y := by
  by_cases hshown : s.mouse.Shown
  · obtain ⟨-, hold_x, hold_y⟩ := h.settled hshown
    have htarget : (target s.mouse x y).Shown := hshown
    have hnew_x := h.new_x
    have hnew_y := h.new_y
    have hnear : (target s.mouse x y).Near d.toDevice := by
      constructor
      · change 0 ≤ s.mouse.old_mouse_x ∧ s.mouse.old_mouse_x ≤ _
        omega
      · change 0 ≤ s.mouse.old_mouse_y ∧ s.mouse.old_mouse_y ≤ _
        omega
      · exact ⟨hx.1, hx.2.le⟩
      · exact ⟨hy.1, hy.2.le⟩
    have hmirrors := h.mirrors
    rw [← hold_x, ← hold_y] at hmirrors
    have herased := display_erased (p := target s.mouse x y) htarget hnear rfl h.small hmirrors
    rw [movePointer_eq hx hy, display_mouse htarget hnear]
    refine ⟨⟨hx, hy, fun _ => ⟨rfl, rfl, rfl⟩, fun hhidden => (hhidden hshown).elim, ?_, ?_⟩,
      rfl, rfl⟩
    · rw [if_pos (by exact hshown)]
      exact rectSize_le _
    · rw [if_pos (by exact hshown)]
      exact herased
  · have htarget : ¬ (target s.mouse x y).Shown := hshown
    have hlargest := h.hidden hshown
    rw [movePointer_eq hx hy, display_hidden htarget]
    refine ⟨⟨hx, hy, fun hdrawn => (hshown hdrawn).elim, ?_, ?_, ?_⟩, rfl, rfl⟩
    · intro _
      rw [if_neg (by exact hshown)]
      exact hlargest
    · rw [if_neg (by exact hshown)]
      exact h.small
    · rw [if_neg (by exact hshown), hlargest]
      have hmirrors := h.mirrors
      rw [hlargest, box_eq_empty_iff.mpr (.inl rfl)] at hmirrors
      exact hmirrors.mono fun _ _ hin => hin.elim

theorem settled_eq {p : Mouse} (hclear : p.clear_mousebox = false)
    (hx : p.old_mouse_x = p.new_mouse_x) (hy : p.old_mouse_y = p.new_mouse_y) :
    { p with
      clear_mousebox := false, old_mouse_x := p.new_mouse_x, old_mouse_y := p.new_mouse_y } = p := by
  cases p
  cases hclear
  cases hx
  cases hy
  rfl

theorem showCursor_drawn (h : Drawn d s largest) : Drawn d (showCursor d.toDevice s)
        (if (showCursor d.toDevice s).mouse.Shown
          then max largest (rectSize (showCursor d.toDevice s).mouse) else largest) ∧
      (showCursor d.toDevice s).mouse = s.mouse := by
  by_cases hshown : s.mouse.Shown
  · obtain ⟨hclear, hold_x, hold_y⟩ := h.settled hshown
    have hnew_x := h.new_x
    have hnew_y := h.new_y
    have hnear : s.mouse.Near d.toDevice :=
      ⟨by omega, by omega, ⟨hnew_x.1, hnew_x.2.le⟩, ⟨hnew_y.1, hnew_y.2.le⟩⟩
    have hsame : (display_mouse_cursor d.toDevice s.mouse s.memory).1 = s.mouse := by
      rw [display_mouse hshown hnear]
      exact settled_eq hclear hold_x hold_y
    have hagain := display_again hshown hnear hclear h.mirrors
    have hsize := rectSize_le s.mouse
    rw [showCursor_shown hshown, hsame, if_pos hshown]
    exact ⟨⟨h.new_x, h.new_y, h.settled, fun hhidden => (hhidden hshown).elim,
      Nat.max_le.mpr ⟨h.small, hsize⟩, hagain⟩, rfl⟩
  · rw [showCursor_hidden hshown, if_neg hshown]
    exact ⟨h, rfl⟩

theorem quiet_pass (hquiet : Quiet d.toDevice s) :
    ∃ t, comp_display_desktop_components d.toDevice s =
      some (validate (showCursor d.toDevice t)) ∧ t.mouse = s.mouse ∧ Keeps d s t := by
  have hkeeps : ∀ {t : Server}, t.mouse = s.mouse →
      (∀ S, Mirrors FRONTBUFFER_ADDRESS DISTANCE (screenBytes d.toDevice) S s.memory →
        Mirrors FRONTBUFFER_ADDRESS DISTANCE (screenBytes d.toDevice) S t.memory) → Keeps d s t :=
    fun hmouse hmemory => ⟨⟨_, _, _, hmouse⟩, hmemory⟩
  cases hframe : s.dirty with
  | true =>
      obtain ⟨screen, hscreen, hfits⟩ := hquiet.frame hframe
      have hmouse := (show_windows (d := d) s screen).2.1
      refine ⟨_, pass_frame hframe hscreen s.memory, hmouse, hkeeps hmouse fun S hS => ?_⟩
      by_cases hvisible : (s.windows screen).Live ∧ Visible s screen
      · have hshow := show_memory (d := d) hvisible.1 hvisible.2
        change Mirrors _ _ _ _ (gws_show_window_rect d.toDevice s screen).memory
        rw [hshow]
        refine (hS.copied (refreshWindow_copied s screen) fun o => windowBox_lt hfits).mono ?_
        exact fun o _ ho => ho.1
      · change Mirrors _ _ _ _ (gws_show_window_rect d.toDevice s screen).memory
        rwa [show_hidden hvisible]
  | false =>
      have hreacted : Reacted d.toDevice s WINDOW_COUNT_MAX _ :=
        reactSlots_reacted WINDOW_COUNT_MAX fun window hwindow =>
          (hquiet.windows window hwindow.dirty).elim
      refine ⟨_, pass_table hframe s.memory, hreacted.mouse, hkeeps hreacted.mouse fun S hS => ?_⟩
      refine (hS.copied hreacted.memory ?_).mono fun o _ ho => ho.1
      rintro o ⟨window, hwindow, _⟩
      exact (hquiet.windows window hwindow.dirty).elim

end Steps

section Runs

variable {d : Surface} {a : Session}

theorem noTrail_of_covers (h : Drawn d a.server a.largest)
    (hcovers : a.server.mouse.Shown → (a.server.mouse.new_mouse_y + 1 < d.height →
      a.largest ≤ rectSize a.server.mouse ∧
        a.server.mouse.new_mouse_x + rectSize a.server.mouse ≤ d.width) ∧
      (a.server.mouse.new_mouse_y + 1 = d.height → a.largest ≤ rectSize a.server.mouse ∨
        d.width ≤ a.server.mouse.new_mouse_x + rectSize a.server.mouse)) :
    NoTrail d.toDevice a := by
  have hx := h.new_x
  have hy := h.new_y
  refine h.mirrors.mono fun o ho hin => ?_
  by_cases hshown : a.server.mouse.Shown
  · obtain ⟨hinner, hedge⟩ := hcovers hshown
    refine ⟨hshown, box_covered ho (rectSize_pos _) ?_ ?_ (by omega) hin⟩
    · intro hrow
      have hboth := hinner (by omega)
      omega
    · intro hrow
      have hone := hedge (by omega)
      omega
  · rw [h.hidden hshown, box_eq_empty_iff.mpr (.inl rfl)] at hin
    exact hin.elim

theorem start_inv (hstart : Start d a) : Inv d a := by
  have hnone : box d.toDevice a.server.mouse.new_mouse_x.toNat a.server.mouse.new_mouse_y.toNat
      a.largest a.largest = ∅ := box_eq_empty_iff.mpr (.inl hstart.largest)
  refine ⟨⟨hstart.new_x, hstart.new_y,
    fun _ => ⟨hstart.clear, hstart.old_x, hstart.old_y⟩, fun _ => hstart.largest, ?_, ?_⟩, ?_⟩
  · rw [hstart.largest]
    exact Nat.zero_le 16
  · rw [hnone]
    exact hstart.shown
  · intro x y hlast
    rw [hstart.last] at hlast
    cases hlast

theorem pass_meets (hdrawn : Drawn d a.server a.largest) (htracks : Tracks d.toDevice a)
    (hquiet : Quiet d.toDevice a.server)
    (hcovers : a.server.mouse.Shown → Covers d.toDevice a) :
    ∃ t, step d a .pass = .ok (t, t) ∧ Inv d t ∧ NoTrail d.toDevice t := by
  obtain ⟨s, hpass, hmouse, hkeeps⟩ := quiet_pass hquiet
  have hbefore : Drawn d s a.largest := hdrawn.keep hkeeps
  obtain ⟨hafter, hsame⟩ := showCursor_drawn hbefore
  have hkept : (showCursor d.toDevice s).mouse = a.server.mouse := hsame.trans hmouse
  rw [step, hpass]
  have hvalid : Keeps d (showCursor d.toDevice s) (validate (showCursor d.toDevice s)) :=
    ⟨⟨_, _, _, rfl⟩, fun _ hS => hS⟩
  have hvalidated := hafter.keep hvalid
  refine ⟨_, rfl, ⟨hvalidated, fun x y hlast => ?_⟩, ?_⟩
  · change (showCursor d.toDevice s).mouse.new_mouse_x = _ ∧ _
    rw [validate, hkept]
    exact htracks x y hlast
  · refine noTrail_of_covers hvalidated fun hshown => ?_
    change (showCursor d.toDevice s).mouse.Shown at hshown
    rw [validate, if_pos hshown]
    dsimp only
    rw [hkept] at hshown ⊢
    obtain ⟨hinner, hedge⟩ := hcovers hshown
    refine ⟨fun hrow => ?_, fun hrow => ?_⟩
    · obtain ⟨hle, hright⟩ := hinner hrow
      exact ⟨Nat.max_le.mpr ⟨hle, le_rfl⟩, hright⟩
    · exact (hedge hrow).imp_left fun hle => Nat.max_le.mpr ⟨hle, le_rfl⟩

theorem mouse_meets (hdrawn : Drawn d a.server a.largest) (htracks : Tracks d.toDevice a)
    (event : MouseEvent) (x y : Int) (status handler : Response d)
    (hmeets : Meets d a (.mouse event x y status handler)) :
    ∃ t, step d a (.mouse event x y status handler) = .ok (t, t) ∧ Inv d t := by
  refine ⟨_, rfl, ?_⟩
  by_cases hmove : event = .GWS_MouseMove
  · obtain ⟨⟨hrunning, huse⟩, hx, hy⟩ := hmeets hmove
    have hevent : wmProcessMouseEvent status handler event x y a.running a.server =
        handler.respond (movePointer d x y (dragPointer status a.server)) := by
      rw [hmove, wmProcessMouseEvent, if_neg (by simp [hrunning]), if_neg (by simp [huse])]
    obtain ⟨hmoved, hnew_x, hnew_y⟩ :=
      movePointer_drawn (hdrawn.keep (dragPointer_keeps status a.server)) hx hy
    have hmouse := handler.mouse (movePointer d x y (dragPointer status a.server))
    have hafter := hmoved.keep (handler.keeps _)
    rw [hevent]
    generalize movePointer d x y (dragPointer status a.server) = s at *
    generalize (handler.respond s).mouse.mouse_hover = hover at hmouse
    refine ⟨?_, ?_⟩
    · have hlargest : (if event = .GWS_MouseMove ∧ a.running = true ∧
          (handler.respond s).mouse.Shown then rectSize (handler.respond s).mouse
          else a.largest) = if s.mouse.Shown then rectSize s.mouse else a.largest := by
        rw [hmouse]
        simp only [hmove, hrunning, true_and]
        rfl
      dsimp only
      rw [hlargest]
      exact hafter
    · intro x' y' hlast
      rw [moved, if_pos hmove] at hlast
      cases hlast
      dsimp only
      rw [hmouse, clamp_of_mem hx, clamp_of_mem hy]
      exact ⟨hnew_x, hnew_y⟩
  · have hkeeps := button_keeps status handler hmove x y a.running a.server
    obtain ⟨pressed, dragging, hover, hmouse⟩ := hkeeps.mouse
    refine ⟨?_, ?_⟩
    · dsimp only
      rw [if_neg fun h => hmove h.1]
      exact hdrawn.keep hkeeps
    · intro x' y' hlast
      rw [moved, if_neg hmove] at hlast
      dsimp only
      rw [hmouse]
      exact htracks x' y' hlast

theorem step_meets (hinv : Inv d a) {i : Input d} (hmeets : Meets d a i) :
    ∃ t, step d a i = .ok (t, t) ∧ Inv d t ∧ (i = .pass → NoTrail d.toDevice t) := by
  obtain ⟨hdrawn, htracks⟩ := hinv
  cases i with
  | mouse event x y status handler =>
      obtain ⟨t, hstep, ht⟩ := mouse_meets hdrawn htracks event x y status handler hmeets
      exact ⟨t, hstep, ht, fun h => by cases h⟩
  | pass =>
      obtain ⟨t, hstep, ht, hclean⟩ := pass_meets hdrawn htracks hmeets.1 hmeets.2
      exact ⟨t, hstep, ht, fun _ => hclean⟩

end Runs

/-- In every run whose moves go to pixels of the screen and whose passes cover what has been drawn,
the pointer follows the mouse and a pass leaves no trail. -/
theorem pointer_run (d : Surface) (a : Session) (hstart : Start d a) (inputs : List (Input d))
    (hmeets : Guarded (step d) (Meets d) a inputs) :
    ∃ outs t, run (step d) a inputs = .ok (outs, t) ∧
      List.Forall₂ (fun i t => Tracks d.toDevice t ∧ (i = .pass → NoTrail d.toDevice t))
        inputs outs := by
  have hinv := start_inv hstart
  have hstep : ∀ s i, Inv d s → Meets d s i → ∃ o t, step d s i = .ok (o, t) ∧ Inv d t := by
    intro s i hs hi
    obtain ⟨t, hok, ht, -⟩ := step_meets hs hi
    exact ⟨t, t, hok, ht⟩
  obtain ⟨outs, t, hrun, -⟩ := run_total (Inv d) hstep hinv hmeets
  refine ⟨outs, t, hrun, run_forall₂ (Inv d) _ ?_ hinv hmeets hrun⟩
  intro s i o u hs hi hok
  obtain ⟨t', hok', ht', hclean⟩ := step_meets hs hi
  rw [hok'] at hok
  cases hok
  exact ⟨⟨ht'.2, hclean⟩, ht'⟩

def quiet : Response desktop where
  respond := fun s => s
  mouse := fun _ => rfl
  shows := fun _ _ _ => .inr ⟨rfl, rfl⟩

def resting : Session where
  running := true
  server := {
    windows := fun _ => backdrop
    windowList := fun _ => none
    root_window := none
    screen_window := none
    dirty := false
    mouse := { hiddenMouse with gUseMouse := true, gDisplayMousePointer := true }
    memory := fun _ => 0 }
  last := none
  largest := 0

theorem resting_start : Start desktop resting :=
  ⟨rfl, rfl, rfl, rfl, rfl, by decide, by decide, fun _ _ _ => rfl⟩

def moveTo (x y : Int) : Input desktop :=
  .mouse .GWS_MouseMove x y quiet quiet

theorem pointer_moved :
    ∃ outs t, run (step desktop) resting [moveTo 10 10, .pass] = .ok (outs, t) ∧
      List.Forall₂ (fun i t =>
        Tracks desktop.toDevice t ∧ (i = .pass → NoTrail desktop.toDevice t))
        [moveTo 10 10, .pass] outs := by
  refine pointer_run desktop resting resting_start _ ⟨fun _ => ?_, ?_, trivial⟩
  · exact ⟨⟨rfl, rfl⟩, by decide, by decide⟩
  · refine ⟨⟨?_, fun h => ?_⟩, fun _ => ?_⟩
    · rintro window ⟨⟨⟨i, _, hslot⟩, _⟩, _⟩
      cases hslot
    · cases h
    · unfold Covers
      decide

def pressed : Server :=
  setButtons true false (movePointer desktop 10 10 (dragPointer quiet resting.server))

theorem pressed_contained : Contained desktop.toDevice pressed := by
  refine ⟨fun _ window hwindow => ?_, fun h => ?_, fun _ => ⟨⟨?_, ?_, ?_, ?_⟩, ?_, fun h => ?_⟩⟩
  · obtain ⟨_, _, i, _, hslot, _⟩ := hwindow
    cases hslot
  · cases h
  · decide
  · decide
  · decide
  · decide
  · decide
  · cases h

theorem pressed_red : pressed.memory (FRONTBUFFER_ADDRESS + 32066) = 255 ∧
      pressed.memory (BACKBUFFER_ADDRESS + 32066) = 0 := by
  have hmove : movePointer desktop 10 10 (dragPointer quiet resting.server) = _ :=
    movePointer_eq (by decide) (by decide)
  have hshown : (target (dragPointer quiet resting.server).mouse 10 10).Shown := by decide
  have hnear : (target (dragPointer quiet resting.server).mouse 10 10).Near desktop.toDevice :=
    ⟨by decide, by decide, by decide, by decide⟩
  have hmemory : pressed.memory = (display_mouse_cursor desktop.toDevice
      (target (dragPointer quiet resting.server).mouse 10 10)
      (dragPointer quiet resting.server).memory).2 := by
    rw [pressed, hmove]
    rfl
  rw [hmemory]
  constructor
  · rw [display_memory hshown hnear]
    exact @draw_rectangle_paints 10 10 8 8 2 desktop.toDevice COLOR_RED _ (by decide) (by decide)
      (by decide) (by decide) 16 10 (by decide) (by decide) (by decide) (by decide)
  · have herased := clearMousebox_copied (m := (dragPointer quiet resting.server).memory) hnear rfl
    have hkept : Written FRONTBUFFER_ADDRESS _ _ _ := herased.kept
    have hwritten := display_written (m := (dragPointer quiet resting.server).memory) hshown hnear
    have hdrawn := hwritten.behind (fun o ho => box_lt (d := desktop) (by decide) ho) 32066
    exact hdrawn.trans (hkept.behind (fun o ho => box_lt (d := desktop) (by decide) ho) 32066)

theorem pressed_settled : (showCursor desktop.toDevice
    (reactRefreshDirtyWindows desktop.toDevice pressed)).mouse = pressed.mouse := by
  have hreact : (reactRefreshDirtyWindows desktop.toDevice pressed).mouse = pressed.mouse :=
    (reacted pressed_contained rfl pressed.memory).mouse
  have hshown : pressed.mouse.Shown := by decide
  have hnear := (pressed_contained.mouse hshown).near
  rw [showCursor_shown (by rwa [hreact])]
  dsimp only
  rw [hreact, display_mouse hshown hnear]
  exact settled_eq (by decide) (by decide) (by decide)

/-- A pointer that gets smaller leaves a trail. -/
theorem press_leaves_trail :
    ∃ outs t, run (step desktop) resting
      [moveTo 10 10, .mouse .GWS_MousePressed 1 1 quiet quiet, .pass] = .ok (outs, t) ∧
        ¬ NoTrail desktop.toDevice t := by
  refine ⟨_, _, rfl, fun hclean => ?_⟩
  have hmirrors : Mirrors FRONTBUFFER_ADDRESS DISTANCE (screenBytes desktop.toDevice)
      (pointerArea desktop.toDevice (showCursor desktop.toDevice
        (reactRefreshDirtyWindows desktop.toDevice pressed)).mouse)
      (showCursor desktop.toDevice
        (reactRefreshDirtyWindows desktop.toDevice pressed)).memory := hclean
  rw [pressed_settled] at hmirrors
  have hout : 32066 ∉ pointerArea desktop.toDevice pressed.mouse := by
    rintro ⟨-, ⟨_, hright⟩, _⟩
    revert hright
    decide
  have hscreen : 32066 < screenBytes desktop.toDevice := by decide
  obtain ⟨hback, -, hfront⟩ := table_bytes pressed_contained rfl pressed.memory hscreen hout
  have hsame := hmirrors 32066 hscreen hout
  have hnone : ¬ (32066 ∈ leftArea desktop.toDevice pressed.mouse ∨ ∃ front,
      Fronted pressed WINDOW_COUNT_MAX front ∧
        32066 ∈ area desktop.toDevice (pressed.windows front)) := by
    rintro (⟨⟨_, hclear⟩, _⟩ | ⟨front, ⟨_, _, i, _, hslot, _⟩, _⟩)
    · cases hclear
    · cases hslot
  have hred := (hfront hnone).trans pressed_red.1
  have hblack := hback.trans pressed_red.2
  exact absurd (hred.symm.trans (hsame.trans hblack)) (by decide)

end Gramado.Ds.PointerTrail
