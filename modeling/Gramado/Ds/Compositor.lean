import Gramado.Ds.Pointer
import Gramado.Ds.ZOrder

namespace Gramado.Ds.Compositor

open Ds.Pointer
open Ds.ZOrder (WINDOW_COUNT_MAX WINDOW_MAGIC WT_OVERLAPPED)
open Gdi.Painter (Device)
open Gdi.Refresh Library.Copying

def WINDOW_STATE_MINIMIZED : Nat := 1002

structure Window where
  used : Bool
  magic : Nat
  type : Nat
  state : Nat
  dirty : Bool
  absolute_x : Nat
  absolute_y : Nat
  width : Nat
  height : Nat
  parent : Option Nat

/-- The windows at their addresses, the table of them, and the frame. -/
structure Server where
  windows : Nat → Window
  windowList : Nat → Option Nat
  root_window : Option Nat
  screen_window : Option Nat
  dirty : Bool
  mouse : Mouse
  memory : Memory

def Window.Live (w : Window) : Prop :=
  w.used = true ∧ w.magic = WINDOW_MAGIC

instance (w : Window) : Decidable w.Live :=
  inferInstanceAs (Decidable (_ ∧ _))

def Window.validated (w : Window) : Window := { w with dirty := false }

def validate_window (s : Server) (window : Nat) : Server :=
  if (s.windows window).Live then
    { s with windows := Function.update s.windows window (s.windows window).validated }
  else s

section

variable (d : Device)

def refreshWindow (s : Server) (window : Nat) : Server :=
  let w := s.windows window
  { s with memory := gws_refresh_rectangle d w.absolute_x w.absolute_y w.width w.height s.memory }

def parentMinimized (s : Server) (w : Window) : Bool :=
  match w.parent with
  | none => false
  | some parent =>
      let parent := s.windows parent
      parent.magic = WINDOW_MAGIC ∧ parent.type = WT_OVERLAPPED ∧
        parent.state = WINDOW_STATE_MINIMIZED

def gws_show_window_rect (s : Server) (window : Nat) : Server :=
  let w := s.windows window
  if w.used = false then s
  else if w.magic ≠ WINDOW_MAGIC then s
  else if w.state = WINDOW_STATE_MINIMIZED then s
  else if parentMinimized s w then s
  else validate_window (refreshWindow d s window) window

def gws_show_backbuffer (s : Server) : Option Server :=
  s.screen_window.map (gws_show_window_rect d s)

/-- One slot of the table. The flag says that windows are validated and no longer shown. -/
def reactSlot (o : Server × Bool) (i : Nat) : Server × Bool :=
  let s := o.1
  let fOnlyValidate := o.2
  match s.windowList i with
  | none => o
  | some window =>
      let w := s.windows window
      if w.Live ∧ w.dirty = true then
        let s := if fOnlyValidate then s else refreshWindow d s window
        let s := validate_window s window
        (s, if s.root_window = some window then true else fOnlyValidate)
      else o

def reactSlots (n : Nat) (s : Server) : Server × Bool :=
  (List.range n).foldl (reactSlot d) (s, false)

def reactRefreshDirtyWindows (s : Server) : Server :=
  (reactSlots d WINDOW_COUNT_MAX s).1

def showCursor (s : Server) : Server :=
  if s.mouse.gUseMouse then
    if s.mouse.gDisplayMousePointer then
      let o := display_mouse_cursor d s.mouse s.memory
      { s with mouse := o.1, memory := o.2 }
    else s
  else s

def validate (s : Server) : Server := { s with dirty := false }

def comp_display_desktop_components (s : Server) : Option Server :=
  if s.dirty then (gws_show_backbuffer d s).map fun s => validate (showCursor d s)
  else some (validate (showCursor d (reactRefreshDirtyWindows d s)))

end

variable {i n window : Nat} {o : Server × Bool}

section Table

variable {d : Device} {s : Server}

def Listed (s : Server) (n window : Nat) : Prop :=
  (∃ i < n, s.windowList i = some window) ∧ (s.windows window).Live

def Dirty (s : Server) (n window : Nat) : Prop :=
  Listed s n window ∧ (s.windows window).dirty = true

def Fronted (s : Server) (n window : Nat) : Prop :=
  (s.windows window).Live ∧ (s.windows window).dirty = true ∧
    ∃ i < n, s.windowList i = some window ∧
      ∀ root, s.root_window = some root → ¬ Dirty s i root

def windowBox (d : Device) (w : Window) : Set Nat :=
  box d (w.absolute_x % 65536) (w.absolute_y % 65536) (w.width % 65536) (w.height % 65536)

theorem refreshWindow_copied (s : Server) (window : Nat) :
    Copied FRONTBUFFER_ADDRESS DISTANCE (windowBox d (s.windows window)) s.memory
      (refreshWindow d s window).memory :=
  gws_refresh_rectangle_copied _ _ _ _ _

theorem dirty_succ (n window : Nat) :
    Dirty s (n + 1) window ↔ Dirty s n window ∨ s.windowList n = some window ∧
      (s.windows window).Live ∧ (s.windows window).dirty = true := by
  unfold Dirty Listed
  constructor
  · rintro ⟨⟨⟨i, hi, hslot⟩, hlive⟩, hdirty⟩
    obtain hi | rfl := Nat.lt_succ_iff_lt_or_eq.mp hi
    · exact .inl ⟨⟨⟨i, hi, hslot⟩, hlive⟩, hdirty⟩
    · exact .inr ⟨hslot, hlive, hdirty⟩
  · rintro (⟨⟨⟨i, hi, hslot⟩, hlive⟩, hdirty⟩ | ⟨hslot, hlive, hdirty⟩)
    · exact ⟨⟨⟨i, Nat.lt_succ_of_lt hi, hslot⟩, hlive⟩, hdirty⟩
    · exact ⟨⟨⟨n, Nat.lt_succ_self n, hslot⟩, hlive⟩, hdirty⟩

theorem Dirty.mono (h : Dirty s i window) (hin : i ≤ n) : Dirty s n window := by
  obtain ⟨⟨⟨j, hj, hslot⟩, hlive⟩, hdirty⟩ := h
  exact ⟨⟨⟨j, by omega, hslot⟩, hlive⟩, hdirty⟩

def RootDirty (s : Server) (n : Nat) : Prop :=
  ∃ root, s.root_window = some root ∧ Dirty s n root

theorem fronted_succ (n window : Nat) :
    Fronted s (n + 1) window ↔ Fronted s n window ∨ s.windowList n = some window ∧
      (s.windows window).Live ∧ (s.windows window).dirty = true ∧ ¬ RootDirty s n := by
  have hroot : ∀ i, (∀ root, s.root_window = some root → ¬ Dirty s i root) ↔ ¬ RootDirty s i := by
    intro i
    simp only [RootDirty, not_exists, not_and]
  unfold Fronted
  simp only [hroot]
  constructor
  · rintro ⟨hlive, hdirty, i, hi, hslot, hnone⟩
    obtain hi | rfl := Nat.lt_succ_iff_lt_or_eq.mp hi
    · exact .inl ⟨hlive, hdirty, i, hi, hslot, hnone⟩
    · exact .inr ⟨hslot, hlive, hdirty, hnone⟩
  · rintro (⟨hlive, hdirty, i, hi, hslot, hnone⟩ | ⟨hslot, hlive, hdirty, hnone⟩)
    · exact ⟨hlive, hdirty, i, Nat.lt_succ_of_lt hi, hslot, hnone⟩
    · exact ⟨hlive, hdirty, n, Nat.lt_succ_self n, hslot, hnone⟩

theorem Fronted.dirty (h : Fronted s n window) : Dirty s n window := by
  obtain ⟨hlive, hdirty, i, hi, hslot, _⟩ := h
  exact ⟨⟨⟨i, hi, hslot⟩, hlive⟩, hdirty⟩

theorem Fronted.mono (h : Fronted s i window) (hin : i ≤ n) : Fronted s n window := by
  obtain ⟨hlive, hdirty, j, hj, hslot, hnone⟩ := h
  exact ⟨hlive, hdirty, j, by omega, hslot, hnone⟩

def shownBoxes (d : Device) (s : Server) (n : Nat) : Set Nat :=
  {o | ∃ window, Fronted s n window ∧ o ∈ windowBox d (s.windows window)}

/-- After some slots: their dirty windows are validated, those in front of a dirty root are
shown as well. -/
structure Reacted (d : Device) (s : Server) (n : Nat) (o : Server × Bool) : Prop where
  windowList : o.1.windowList = s.windowList
  root_window : o.1.root_window = s.root_window
  mouse : o.1.mouse = s.mouse
  validated : ∀ window, Dirty s n window →
    o.1.windows window = (s.windows window).validated
  other : ∀ window, ¬ Dirty s n window → o.1.windows window = s.windows window
  memory : Copied FRONTBUFFER_ADDRESS DISTANCE (shownBoxes d s n) s.memory o.1.memory
  flag : o.2 = true ↔ RootDirty s n

theorem Reacted.same (h : Reacted d s n o)
    (hdirty : ∀ window, Dirty s (n + 1) window ↔ Dirty s n window) :
    Reacted d s (n + 1) o := by
  have hfronted : ∀ window, Fronted s (n + 1) window ↔ Fronted s n window := by
    intro window
    rw [fronted_succ]
    refine ⟨?_, .inl⟩
    rintro (h | ⟨hslot, hlive, hset, hnone⟩)
    · exact h
    · obtain ⟨⟨⟨i, hi, hfirst⟩, _⟩, _⟩ :=
        (hdirty window).mp ((dirty_succ n window).mpr (.inr ⟨hslot, hlive, hset⟩))
      refine ⟨hlive, hset, i, hi, hfirst, fun root hroot hin => hnone ⟨root, hroot, ?_⟩⟩
      exact hin.mono hi.le
  refine ⟨h.windowList, h.root_window, h.mouse, fun w hw => h.validated w ((hdirty w).mp hw),
    fun w hw => h.other w fun hin => hw ((hdirty w).mpr hin), ?_, ?_⟩
  · simpa only [shownBoxes, hfronted] using h.memory
  · simpa only [RootDirty, hdirty] using h.flag

def Mapped (d : Device) (s : Server) (n : Nat) : Prop :=
  ∀ window, Fronted s n window → ∀ b ∈ windowBox d (s.windows window), b < DISTANCE

theorem validate_live (t : Server) (window : Nat) (hlive : (t.windows window).Live) :
    validate_window t window =
      { t with windows := Function.update t.windows window (t.windows window).validated } := by
  rw [validate_window, if_pos hlive]

theorem validate_root (t : Server) (window : Nat) :
    (validate_window t window).root_window = t.root_window := by
  unfold validate_window
  split <;> rfl

theorem shownBoxes_succ (hslot : s.windowList n = some window) (hlive : (s.windows window).Live)
    (hset : (s.windows window).dirty = true) (hroot : ¬ RootDirty s n) :
    shownBoxes d s (n + 1) = shownBoxes d s n ∪ windowBox d (s.windows window) := by
  ext b
  constructor
  · rintro ⟨w, hw, hb⟩
    obtain hw | ⟨hw, _⟩ := (fronted_succ n w).mp hw
    · exact .inl ⟨w, hw, hb⟩
    · rw [hslot] at hw
      cases hw
      exact .inr hb
  · rintro (⟨w, hw, hb⟩ | hb)
    · exact ⟨w, (fronted_succ n w).mpr (.inl hw), hb⟩
    · exact ⟨window, (fronted_succ n window).mpr (.inr ⟨hslot, hlive, hset, hroot⟩), hb⟩

theorem shownBoxes_after (hroot : RootDirty s n) : shownBoxes d s (n + 1) = shownBoxes d s n := by
  have hsame : ∀ w, Fronted s (n + 1) w ↔ Fronted s n w := by
    intro w
    rw [fronted_succ]
    exact ⟨fun h => h.resolve_right fun h => h.2.2.2 hroot, .inl⟩
  simp only [shownBoxes, hsame]

theorem Reacted.next (h : Reacted d s n o) (hmapped : Mapped d s (n + 1))
    (hslot : s.windowList n = some window)
    (hset : (s.windows window).Live ∧ (s.windows window).dirty = true) (hnew : ¬ Dirty s n window) :
    Reacted d s (n + 1)
      (validate_window (if o.2 then o.1 else refreshWindow d o.1 window) window,
        if s.root_window = some window then true else o.2) := by
  have hwindow := h.other window hnew
  have hdirty : ∀ w, Dirty s (n + 1) w ↔ Dirty s n w ∨ w = window := by
    intro w
    rw [dirty_succ, hslot]
    refine or_congr_right ⟨fun hw => (Option.some.inj hw.1).symm, ?_⟩
    rintro rfl
    exact ⟨rfl, hset⟩
  generalize hshown : (if o.2 then o.1 else refreshWindow d o.1 window) = t
  have hfields : t.windows = o.1.windows ∧ t.windowList = o.1.windowList ∧
      t.root_window = o.1.root_window ∧ t.mouse = o.1.mouse := by
    rw [← hshown]
    split
    · exact ⟨rfl, rfl, rfl, rfl⟩
    · exact ⟨rfl, rfl, rfl, rfl⟩
  obtain ⟨hwindows, hlist, hroot, hmouse⟩ := hfields
  have hlive : (t.windows window).Live := by
    rw [hwindows, hwindow]
    exact hset.1
  rw [validate_live t window hlive]
  refine ⟨hlist.trans h.windowList, hroot.trans h.root_window, hmouse.trans h.mouse, ?_, ?_, ?_, ?_⟩
  · intro w hw
    dsimp only
    rw [hwindows]
    obtain rfl | hne := eq_or_ne w window
    · rw [Function.update_self, hwindow]
    · rw [Function.update_of_ne hne]
      exact h.validated w (((hdirty w).mp hw).resolve_right hne)
  · intro w hw
    rw [hdirty, not_or] at hw
    dsimp only
    rw [hwindows, Function.update_of_ne hw.2]
    exact h.other w hw.1
  · dsimp only
    rw [← hshown]
    split
    · rename_i hflag
      rw [shownBoxes_after (h.flag.mp hflag)]
      exact h.memory
    · rename_i hflag
      have hcopied := refreshWindow_copied (d := d) o.1 window
      rw [hwindow] at hcopied
      rw [shownBoxes_succ hslot hset.1 hset.2 fun hroot => hflag (h.flag.mpr hroot)]
      refine h.memory.trans hcopied ?_
      rintro b hb ⟨w, hw, hin⟩
      have hlt := hmapped w (hw.mono (Nat.le_succ n)) (b + DISTANCE) hin
      omega
  · simp only [RootDirty, hdirty]
    constructor
    · intro hflag
      split at hflag
      · rename_i hroot
        exact ⟨window, hroot, .inr rfl⟩
      · obtain ⟨root, hroot, hin⟩ := h.flag.mp hflag
        exact ⟨root, hroot, .inl hin⟩
    · rintro ⟨root, hroot, hin | rfl⟩
      · split
        · rfl
        · exact h.flag.mpr ⟨root, hroot, hin⟩
      · rw [if_pos hroot]

theorem reactSlot_reacted (hmapped : Mapped d s (n + 1)) (h : Reacted d s n o) :
    Reacted d s (n + 1) (reactSlot d o n) := by
  have hkeep : ∀ window, ¬ (s.windowList n = some window ∧ (s.windows window).Live ∧
      (s.windows window).dirty = true ∧ ¬ Dirty s n window) → ∀ w,
      s.windowList n = some window → (Dirty s (n + 1) w ↔ Dirty s n w) := by
    intro window hno w hslot
    rw [dirty_succ]
    refine ⟨?_, .inl⟩
    rintro (hw | ⟨hw, hlive, hset⟩)
    · exact hw
    · rw [hslot] at hw
      cases hw
      by_contra hnot
      exact hno ⟨hslot, hlive, hset, hnot⟩
  rw [reactSlot, h.windowList]
  cases hslot : s.windowList n with
  | none =>
      refine h.same fun w => ?_
      rw [dirty_succ, hslot]
      simp
  | some window =>
      dsimp only
      by_cases hold : Dirty s n window
      · rw [h.validated window hold, if_neg (by simp [Window.validated])]
        exact h.same fun w => hkeep window (fun hno => hno.2.2.2 hold) w hslot
      rw [h.other window hold]
      by_cases hset : (s.windows window).Live ∧ (s.windows window).dirty = true
      · have hroot : (if o.2 then o.1 else refreshWindow d o.1 window).root_window =
            s.root_window := by
          split <;> exact h.root_window
        rw [if_pos hset, validate_root, hroot]
        exact h.next hmapped hslot hset hold
      · rw [if_neg hset]
        exact h.same fun w => hkeep window (fun hno => hset ⟨hno.2.1, hno.2.2.1⟩) w hslot

theorem reactSlots_reacted (n : Nat) (hmapped : Mapped d s n) :
    Reacted d s n (reactSlots d n s) := by
  induction n with
  | zero =>
      have hnone : ∀ w, ¬ Dirty s 0 w := by
        rintro w ⟨⟨⟨i, hi, _⟩, _⟩, _⟩
        exact Nat.not_lt_zero i hi
      refine ⟨rfl, rfl, rfl, fun w hw => (hnone w hw).elim, fun _ _ => rfl, ?_, ?_⟩
      · have hempty : shownBoxes d s 0 = ∅ := by
          rw [Set.eq_empty_iff_forall_notMem]
          rintro b ⟨w, hw, _⟩
          exact hnone w hw.dirty
        rw [hempty]
        exact copied_empty _ _ _
      · refine ⟨fun h => (Bool.false_ne_true h).elim, ?_⟩
        rintro ⟨root, _, hroot⟩
        exact (hnone root hroot).elim
  | succ n ih =>
      have hbefore : Mapped d s n := fun w hw => hmapped w (hw.mono (Nat.le_succ n))
      have hnext := reactSlot_reacted hmapped (ih hbefore)
      rwa [reactSlots, List.range_succ, List.foldl_append]

end Table

end Gramado.Ds.Compositor
