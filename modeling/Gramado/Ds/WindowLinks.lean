import Gramado.Ds.Registry
import Gramado.Library.CheckedRead

/-! The pointers to windows, and what a destruction leaves of them. -/

namespace Gramado.Ds.WindowLinks

open Ds.ZOrder (WINDOW_COUNT_MAX WINDOW_MAGIC WT_OVERLAPPED SameWindows Shown
  wmAddWindowToTop wmRemoveWindowFromList setNext)
open Ds.Registry Library.LinkedList Library.CheckedRead

def WT_EDITBOX_SINGLE_LINE : Nat := 2
def WT_EDITBOX_MULTIPLE_LINES : Nat := 7
def WT_ICON : Nat := 10

/-- The windows of the server and the pointers to them. The windows are not tiled in the mode
`GRAMADO_JAIL`. -/
structure Screen where
  table : Table
  parent : Nat → Option Nat
  childHead : Nat → Option Nat
  isTaskBar : Nat → Bool
  keyboardOwner : Option Nat
  mouseOwner : Option Nat
  jail : Bool

def Screen.z (s : Screen) : ZOrder.Desktop := s.table.z

def Screen.Live (s : Screen) (w : Nat) : Prop := (s.z.window w).Live

instance (s : Screen) (w : Nat) : Decidable (s.Live w) :=
  inferInstanceAs (Decidable (s.z.window w).Live)

def Screen.type (s : Screen) (w : Nat) : Nat := (s.z.window w).type

def withTable (s : Screen) (table : Table) : Screen := { s with table := table }

/-- A new active window becomes the owner of the keyboard and of the mouse, as
`set_active_window` makes it. -/
def withList (s : Screen) (z : ZOrder.Desktop) : Screen :=
  if z.activeWindow = s.z.activeWindow then withTable s { s.table with z := z }
  else
    { withTable s { s.table with z := z } with
      keyboardOwner := z.activeWindow
      mouseOwner := z.activeWindow }

def setActiveWindow (s : Screen) (w : Nat) : Screen :=
  withList s (ZOrder.setActiveWindow s.z w)

def addToTop (s : Screen) (w : Nat) : Except String Screen :=
  wmAddWindowToTop s.z (some w) >>= fun z => .ok (withList s z)

def wmAddChildWindow (s : Screen) (parent window : Nat) : Except String Screen :=
  if ¬ s.Live parent then .ok s
  else if s.type parent ≠ WT_OVERLAPPED ∧ s.isTaskBar parent = false then .ok s
  else if ¬ s.Live window then .ok s
  else
    match s.childHead parent with
    | none =>
        .ok { withTable s { s.table with z := setNext s.z window none } with
          childHead := Function.update s.childHead parent (some window) }
    | some head =>
        match lastCell s.z.next s.z.count head with
        | none => .error "wm_add_child_window: while"
        | some last =>
            .ok (withTable s
              { s.table with z := setNext (setNext s.z last (some window)) window none })

def takesFocus (type : Nat) : Bool :=
  type = WT_SIMPLE ∨ type = WT_EDITBOX_SINGLE_LINE ∨ type = WT_EDITBOX_MULTIPLE_LINES ∨
    type = WT_BUTTON

/-- The old owner of the keyboard and the parent are read through without a check. -/
def setFocus (s : Screen) (w : Nat) : Except String Screen :=
  if ¬ s.Live w then .ok s
  else
    match s.keyboardOwner, s.parent w with
    | none, _ => .error "set_focus: old->magic"
    | some _, none => .error "set_focus: p->type"
    | some _, some p =>
        if takesFocus (s.type w) = true then
          let s :=
            if s.z.activeWindow = some p ∧ s.type p = WT_OVERLAPPED then s
            else setActiveWindow s p
          .ok { s with keyboardOwner := some w, mouseOwner := some w }
        else .ok s

def enroll (s : Screen) (table : Table) (parent : Nat → Option Nat) (taskbar : Bool) : Screen :=
  let isNew (v : Nat) : Prop := s.z.count ≤ v ∧ v < table.z.count
  { withTable s table with
    parent := fun v => if isNew v then parent v else s.parent v
    childHead := fun v => if isNew v then none else s.childHead v
    isTaskBar := fun v => if isNew v then taskbar else s.isTaskBar v }

/-- The style and the state of a window that is to be created. -/
structure Style where
  app : Bool
  child : Bool
  taskbar : Bool
  frame : FrameStyle

/-- Register the part of a frame and link it to the parent of the framed window. -/
def addPart (s : Screen) (parent part : Nat) : Except String (Bool × Screen) :=
  let registered := registerWindow s.table (some part)
  if registered.1 < 0 then .ok (false, withTable s registered.2)
  else wmAddChildWindow (withTable s registered.2) parent part >>= fun s => .ok (true, s)

def createTitlebar (s : Screen) (parent w : Nat) : Except String (Bool × Screen) :=
  let t := s.z.count
  let s := enroll s (doCreateTitlebar s.table w).2 (fun v => if v = t then some w else some t) false
  addPart s parent t

def createStatusbar (s : Screen) (parent w : Nat) : Except String (Bool × Screen) :=
  let b := s.z.count
  addPart (enroll s (createObject s.table WT_SIMPLE none) (fun _ => some w) false) parent b

def doCreateWindowFrame (s : Screen) (parent w : Nat) (style : FrameStyle) :
    Except String Screen :=
  if framed s.table (some parent) (some w) = none then .ok s
  else
    (if style.fullscreen then .ok (true, s) else createTitlebar s parent w) >>= fun made =>
      if made.1 = false then .ok made.2
      else if style.statusbar then createStatusbar made.2 parent w >>= fun made => .ok made.2
      else .ok made.2

def validType (type : Nat) : Bool :=
  type = WT_OVERLAPPED ∨ takesFocus type ∨ type = WT_ICON

def createWindow (s : Screen) (parent type : Nat) (style : Style) : Except String Screen :=
  let w := s.z.count
  let s := enroll s (createObject s.table type none) (fun _ => some parent)
    (style.taskbar && type ≠ WT_BUTTON)
  (if type = WT_OVERLAPPED then addToTop s w else .ok s) >>= fun s =>
    doCreateWindowFrame s parent w style.frame

/-- What `serviceCreateWindow` does with a window that has been created and registered. -/
def linkWindow (s : Screen) (parent w : Nat) (style : Style) : Except String Screen :=
  (if style.child then wmAddChildWindow s parent w else .ok s) >>= fun s =>
  (if s.isTaskBar parent then wmAddChildWindow s parent w else .ok s) >>= fun s =>
  (if s.type w = WT_EDITBOX_SINGLE_LINE ∨ s.type w = WT_EDITBOX_MULTIPLE_LINES then setFocus s w
    else .ok s) >>= fun s =>
  if s.type w = WT_OVERLAPPED then addToTop s w else .ok s

def mayCreate (s : Screen) (pwid : Int) (type : Nat) (style : Style) : Bool :=
  validType type ∧
    (style.app = true → pwid = 0 ∨ s.table.rootWindow.any fun w => (s.table.entry w).id = pwid)

def serviceCreateWindow (s : Screen) (pwid : Int) (type : Nat) (style : Style) :
    Except String Screen :=
  match getWindowFromWid s.table pwid with
  | none => .ok s
  | some parent =>
      if mayCreate s pwid type style = false then .ok s
      else
        createWindow s parent type style >>= fun t =>
          let registered := registerWindow t.table (some s.z.count)
          if registered.1 < 0 then .ok (withTable t registered.2)
          else linkWindow (withTable t registered.2) parent s.z.count style

/-- The last window of the list becomes the active one, in the middle of the screen. -/
def wmTile (s : Screen) : Except String Screen :=
  match s.z.firstWindow with
  | none => .ok s
  | some first =>
      if s.jail = true then .ok s
      else
        match lastCell s.z.next s.z.count first with
        | none => .error "wm_tile: while"
        | some w =>
            .ok { withTable s { s.table with
                z := { s.z with activeWindow := some w, lastWindow := some w } } with
              keyboardOwner := some w
              mouseOwner := none }

/-- The last overlapped window of a list, whether it is alive or not, or else the first window. -/
def uppermost (z : ZOrder.Desktop) (first : Nat) : Option Nat :=
  (cells z.next z.count (some first)).map fun l =>
    (l.filter fun w => (z.window w).type = WT_OVERLAPPED).getLastD first

def withFirst (s : Screen) (first : Option Nat) : Screen :=
  withTable s { s.table with z := { s.z with firstWindow := first } }

def withLast (s : Screen) (last : Option Nat) : Screen :=
  withTable s { s.table with z := { s.z with lastWindow := last } }

/-- `wm_update_desktop (TRUE, TRUE)`, whose drawing leaves the windows as they are. The first
window is read through without a check. -/
def wmUpdateDesktop (s : Screen) : Except String Screen :=
  wmTile s >>= fun s =>
    match s.z.firstWindow with
    | none => .error "wm_update_desktop: w->magic"
    | some first =>
        if (s.z.window first).magic ≠ WINDOW_MAGIC then .ok (withFirst s none)
        else
          match uppermost s.z first with
          | none => .error "wm_update_desktop: while"
          | some l => .ok (setActiveWindow (withLast s (some l)) l)

def rebuildSlot (s : Screen) (slot : Nat) : Except String Screen :=
  match s.z.windowList slot with
  | none => .ok s
  | some w =>
      if (s.z.window w).magic = WINDOW_MAGIC ∧ s.type w = WT_OVERLAPPED then addToTop s w
      else .ok s

def wmRebuildList (s : Screen) : Except String Screen :=
  (List.range WINDOW_COUNT_MAX).foldlM rebuildSlot s

def destroyWindow (s : Screen) (wid : Int) : Except String Screen :=
  let destroyed := withTable s (destroyWindowByWid s.table wid).2
  match target s.table wid with
  | none => .ok destroyed
  | some w =>
      if s.type w ≠ WT_OVERLAPPED then .ok destroyed
      else wmRebuildList destroyed >>= wmUpdateDesktop

/-- Put a window that is not the first one at the end of the list. It is killed if it is found
there, since `wm_remove_window_from_list` kills it and leaves it in the list. -/
def moveToTop (s : Screen) (w : Nat) : Except String Screen :=
  if s.z.firstWindow = some w then .ok s
  else
    wmRemoveWindowFromList s.z (some w) >>= fun z =>
      addToTop (withTable s { s.table with z := z }) w

def wmUpdateDesktop3 (s : Screen) (w : Nat) : Except String Screen :=
  if s.z.lastWindow = some w then .ok (setActiveWindow s w)
  else
    moveToTop s w >>= fun s =>
      let s := if s.z.firstWindow = some w then withFirst s (s.z.next w) else s
      .ok (setActiveWindow s w)

/-- The window of a wid, as the functions look it up that are called with a wid. -/
def windowById (s : Screen) (wid : Int) : Option Nat :=
  (getWindowFromWid s.table wid).filter fun w => (s.z.window w).used

def overlappedEnd (s : Screen) (window : Option Nat) : Option Nat :=
  window.filter fun w => Shown s.z w

inductive Call where
  | create (pwid : Int) (type : Nat) (style : Style)
  | setFocusById (wid : Int)
  | setActiveById (wid : Int)
  | activateFirstWindow
  | activateLastWindow
  | setLastWindow (window : Option Nat)
  | updateDesktop3 (window : Option Nat)
  | destroy (wid : Int)

def activate (s : Screen) : Option Nat → Screen
  | none => s
  | some w => setActiveWindow s w

def serve (s : Screen) : Call → Except String Screen
  | .create pwid type style => serviceCreateWindow s pwid type style
  | .setFocusById wid =>
      match windowById s wid with
      | none => .ok s
      | some w => setFocus s w
  | .setActiveById wid => .ok (activate s (windowById s wid))
  | .activateFirstWindow => .ok (activate s (overlappedEnd s s.z.firstWindow))
  | .activateLastWindow => .ok (activate s (overlappedEnd s s.z.lastWindow))
  | .setLastWindow window =>
      match window with
      | none => .ok s
      | some w => addToTop s w
  | .updateDesktop3 window =>
      match window with
      | none => .ok s
      | some w => wmUpdateDesktop3 s w
  | .destroy wid => destroyWindow s wid

def step (s : Screen) (call : Call) : Except String (Unit × Screen) :=
  serve s call >>= fun t => .ok ((), t)

def started (jail : Bool) : Screen where
  table :=
    (registerWindow { createObject emptyRegistry WT_SIMPLE none with rootWindow := some 0 }
      (some 0)).2
  parent _ := none
  childHead _ := none
  isTaskBar _ := false
  keyboardOwner := some 0
  mouseOwner := some 0
  jail := jail

def Points (s : Screen) (w : Nat) : Prop :=
  s.z.activeWindow = some w ∨ s.keyboardOwner = some w ∨ s.mouseOwner = some w ∨
    s.z.lastWindow = some w

/-- A window is found from the pointers of the screen and in the lists of live windows. -/
def Found (s : Screen) (w : Nat) : Prop :=
  Points s w ∨ Leads s.z.next ∅ s.z.firstWindow w ∨
    ∃ p, s.Live p ∧ Leads s.z.next ∅ (s.childHead p) w

def NoDangling (s : Screen) : Prop :=
  ∀ w, Found s w → s.Live w

def Meets (s : Screen) (call : Call) : Prop :=
  Ensures (serve s call) NoDangling

variable {s t : Screen} {w : Nat}

variable {v u : Nat} {z : ZOrder.Desktop} {next : Nat → Option Nat}

theorem NoDangling.live_of_leads (h : NoDangling s) {start : Option Nat}
    (hlead : Leads s.z.next ∅ start v)
    (hstart : start = s.z.firstWindow ∨ ∃ p, s.Live p ∧ start = s.childHead p) : s.Live v := by
  rcases hstart with rfl | ⟨p, hp, rfl⟩
  · exact h v (.inr (.inl hlead))
  · exact h v (.inr (.inr ⟨p, hp, hlead⟩))

theorem NoDangling.grow (h : NoDangling s) (W : Set Nat) (hW : ∀ w ∈ W, t.Live w)
    (hlive : ∀ v, s.Live v → t.Live v)
    (hnext : ∀ v u, t.z.next v = some u → u ∈ W ∨ v ∉ W ∧ s.z.next v = some u)
    (hfirst : ∀ v, t.z.firstWindow = some v → v ∈ W ∨ s.z.firstWindow = some v)
    (hchild : ∀ p v, t.Live p → t.childHead p = some v → v ∈ W ∨ s.Live p ∧ s.childHead p = some v)
    (hpoints : ∀ v, Points t v → t.Live v ∨ Points s v) : NoDangling t := by
  have hlists : ∀ start v, Leads t.z.next ∅ start v →
      (∀ a, start = some a → a ∈ W ∨ s.z.firstWindow = some a ∨
        ∃ p, s.Live p ∧ s.childHead p = some a) → t.Live v := by
    intro start v hlead hstart
    have hin : v ∈ W ∨ ∃ head, (head = s.z.firstWindow ∨ ∃ p, s.Live p ∧ head = s.childHead p) ∧
        Leads s.z.next ∅ head v := by
      apply hlead.mem (S := {v | v ∈ W ∨ ∃ head, (head = s.z.firstWindow ∨
        ∃ p, s.Live p ∧ head = s.childHead p) ∧ Leads s.z.next ∅ head v})
      · intro a ha
        rcases hstart a ha with hnew | hold | ⟨p, hp, hold⟩
        · exact .inl hnew
        · exact .inr ⟨some a, .inl hold.symm, .here a⟩
        · exact .inr ⟨some a, .inr ⟨p, hp, hold.symm⟩, .here a⟩
      · intro a ha _ c hc
        rcases hnext a c hc with hnew | ⟨hout, hold⟩
        · exact .inl hnew
        · rcases ha with ha | ⟨head, hhead, hto⟩
          · exact absurd ha hout
          · exact .inr ⟨head, hhead, hto.step (Set.notMem_empty a) hold⟩
    rcases hin with hnew | ⟨head, hhead, hto⟩
    · exact hW v hnew
    · exact hlive v (h.live_of_leads hto hhead)
  rintro v (hpoint | hlead | ⟨p, hp, hlead⟩)
  · rcases hpoints v hpoint with hv | hold
    · exact hv
    · exact hlive v (h v (.inl hold))
  · exact hlists _ v hlead fun a ha => (hfirst a ha).imp_right .inl
  · refine hlists _ v hlead fun a ha => ?_
    rcases hchild p a hp ha with hnew | ⟨hp', hold⟩
    · exact .inl hnew
    · exact .inr (.inr ⟨p, hp', hold⟩)

theorem z_withList (s : Screen) (z : ZOrder.Desktop) : (withList s z).z = z := by
  unfold withList
  split <;> rfl

theorem childHead_withList (s : Screen) (z : ZOrder.Desktop) :
    (withList s z).childHead = s.childHead := by
  unfold withList
  split <;> rfl

theorem points_withList (h : Points (withList s z) v) :
    z.activeWindow = some v ∨ z.lastWindow = some v ∨ Points s v := by
  unfold withList at h
  split at h
  · rcases h with h | h | h | h
    · exact .inl h
    · exact .inr (.inr (.inr (.inl h)))
    · exact .inr (.inr (.inr (.inr (.inl h))))
    · exact .inr (.inl h)
  · rcases h with h | h | h | h
    · exact .inl h
    · exact .inl h
    · exact .inl h
    · exact .inr (.inl h)

theorem setActiveWindow_cases (z : ZOrder.Desktop) (w : Nat) : ZOrder.setActiveWindow z w = z ∨
      (z.window w).magic = WINDOW_MAGIC ∧ (z.window w).type = WT_OVERLAPPED ∧
        ZOrder.setActiveWindow z w = { z with activeWindow := some w } := by
  unfold ZOrder.setActiveWindow
  split
  · exact .inl rfl
  split
  · exact .inl rfl
  · exact .inr ⟨not_not.mp ‹_›, not_not.mp ‹_›, rfl⟩

theorem wmAddWindowToTop_cases {z' : ZOrder.Desktop} (hadd : wmAddWindowToTop z (some w) = .ok z') :
    ¬ Shown z w ∧ z' = z ∨
    Shown z w ∧ SameWindows z z' ∧ z'.activeWindow = some w ∧ z'.lastWindow = some w ∧
      ((∀ f, z.firstWindow = some f → ¬ (z.window f).Live) ∧ z'.firstWindow = some w ∧
          z'.next = Function.update z.next w none ∨
        ∃ f last, z.firstWindow = some f ∧ (z.window f).Live ∧ z'.firstWindow = some f ∧
          z'.next = Function.update (Function.update z.next last (some w)) w none) := by
  by_cases hshown : Shown z w
  · right
    refine ⟨hshown, ?_⟩
    have hends : ∀ z : ZOrder.Desktop, (z.window w).Live ∧ (z.window w).type = WT_OVERLAPPED →
        (ZOrder.endsWith z w).activeWindow = some w ∧ (ZOrder.endsWith z w).lastWindow = some w := by
      intro z ⟨hlive, htype⟩
      have hsame := ZOrder.sameWindows_setNext (ZOrder.setLast z (some w)) w none
      rw [ZOrder.endsWith, ZOrder.setActiveWindow, if_neg, if_neg]
      · exact ⟨rfl, rfl⟩
      · rw [hsame.type]
        exact not_not.mpr htype
      · rw [hsame.magic]
        exact not_not.mpr hlive.2
    unfold wmAddWindowToTop at hadd
    dsimp only at hadd
    rw [if_neg (by simp [hshown.1.1]), if_neg (by simp [hshown.1.2]),
      if_neg (by simp [hshown.2])] at hadd
    have hrestart : (∀ f, z.firstWindow = some f → ¬ (z.window f).Live) →
        z' = ZOrder.endsWith (ZOrder.setFirst z (some w)) w →
        SameWindows z z' ∧ z'.activeWindow = some w ∧ z'.lastWindow = some w ∧
          (∀ f, z.firstWindow = some f → ¬ (z.window f).Live) ∧ z'.firstWindow = some w ∧
            z'.next = Function.update z.next w none := by
      rintro hdead rfl
      have hstart : SameWindows z (ZOrder.setFirst z (some w)) :=
        ⟨fun _ => rfl, fun _ => rfl, fun _ => rfl, rfl, rfl⟩
      obtain ⟨hactive, hlast⟩ := hends (ZOrder.setFirst z (some w)) hshown
      refine ⟨hstart.trans (ZOrder.endsWith_same _ w), hactive, hlast, hdead, ?_, ?_⟩
      · rw [ZOrder.endsWith, (ZOrder.setActiveWindow_same _ w).2.2.1]
        rfl
      · rw [ZOrder.endsWith, (ZOrder.setActiveWindow_same _ w).2.1, ZOrder.next_setNext]
        rfl
    split at hadd
    · rename_i hnone
      obtain ⟨hsame, hactive, hlast, hrest⟩ := hrestart (by simp [hnone]) (Except.ok.inj hadd).symm
      exact ⟨hsame, hactive, hlast, .inl hrest⟩
    · rename_i f hf
      by_cases hlive : (z.window f).Live
      · rw [if_neg (by simp [hlive.1]), if_neg (by simp [hlive.2])] at hadd
        split at hadd
        · cases hadd
        · rename_i last _
          obtain rfl := Except.ok.inj hadd
          have hsame := (ZOrder.sameWindows_setNext z last (some w)).trans
            (ZOrder.sameWindows_setPrev _ w (some last))
          obtain ⟨hactive, hlast⟩ := hends _
            ⟨(hsame.live_iff w).mpr hshown.1, (hsame.type w).trans hshown.2⟩
          refine ⟨hsame.trans (ZOrder.endsWith_same _ w), hactive, hlast,
            .inr ⟨f, last, hf, hlive, ?_, ?_⟩⟩
          · rw [ZOrder.endsWith, (ZOrder.setActiveWindow_same _ w).2.2.1]
            exact hf
          · rw [ZOrder.endsWith, (ZOrder.setActiveWindow_same _ w).2.1, ZOrder.next_setNext]
            change Function.update (ZOrder.setPrev (setNext z last (some w)) w (some last)).next
              w none = _
            rw [ZOrder.next_setPrev, ZOrder.next_setNext]
      · have hdead : ∀ f', z.firstWindow = some f' → ¬ (z.window f').Live := by
          intro f' hf'
          rw [hf] at hf'
          cases hf'
          exact hlive
        have hz' : z' = ZOrder.endsWith (ZOrder.setFirst z (some w)) w := by
          split at hadd
          · exact (Except.ok.inj hadd).symm
          split at hadd
          · exact (Except.ok.inj hadd).symm
          · rename_i hused hmagic
            exact absurd ⟨by simpa using hused, not_not.mp hmagic⟩ hlive
        obtain ⟨hsame, hactive, hlast, hrest⟩ := hrestart hdead hz'
        exact ⟨hsame, hactive, hlast, .inl hrest⟩
  · rw [ZOrder.wmAddWindowToTop_refused hshown] at hadd
    exact .inl ⟨hshown, (Except.ok.inj hadd).symm⟩

theorem live_withList (hsame : SameWindows s.z z) (v : Nat) : (withList s z).Live v ↔ s.Live v := by
  rw [Screen.Live, z_withList]
  exact hsame.live_iff v

/-- Nothing is destroyed that can be found, and the two marks of a live window agree. -/
structure Sane (s : Screen) : Prop where
  noDangling : NoDangling s
  used : ∀ v, (s.z.window v).magic = WINDOW_MAGIC → (s.z.window v).used = true

theorem Sane.live_of_magic (h : Sane s) (hw : (s.z.window w).magic = WINDOW_MAGIC) : s.Live w :=
  ⟨h.used w hw, hw⟩

theorem Sane.relink (h : Sane s) (hsame : SameWindows s.z t.z) (W : Set Nat)
    (hW : ∀ w ∈ W, s.Live w)
    (hnext : ∀ v u, t.z.next v = some u → u ∈ W ∨ v ∉ W ∧ s.z.next v = some u)
    (hfirst : ∀ v, t.z.firstWindow = some v → v ∈ W ∨ s.z.firstWindow = some v)
    (hchild : ∀ p v, t.childHead p = some v → v ∈ W ∨ s.childHead p = some v)
    (hpoints : ∀ v, Points t v → s.Live v ∨ Points s v) : Sane t := by
  constructor
  · refine h.noDangling.grow W (fun v hv => (hsame.live_iff v).mpr (hW v hv))
      (fun v hv => (hsame.live_iff v).mpr hv) hnext hfirst ?_ ?_
    · intro p v hp hv
      exact (hchild p v hv).imp_right fun hold => ⟨(hsame.live_iff p).mp hp, hold⟩
    · exact fun v hv => (hpoints v hv).imp_left (hsame.live_iff v).mpr
  · intro v hv
    rw [hsame.magic] at hv
    rw [hsame.used]
    exact h.used v hv

theorem sane_setActiveWindow (h : Sane s) (w : Nat) : Sane (setActiveWindow s w) := by
  have hz : (setActiveWindow s w).z = ZOrder.setActiveWindow s.z w := z_withList s _
  obtain ⟨hsame, hnext, hfirst, _⟩ := ZOrder.setActiveWindow_same s.z w
  refine h.relink (by rw [hz]; exact hsame) ∅ (fun _ hv => absurd hv (Set.notMem_empty _))
    ?_ ?_ ?_ ?_
  · intro v u hu
    rw [hz, hnext] at hu
    exact .inr ⟨Set.notMem_empty v, hu⟩
  · intro v hv
    rw [hz, hfirst] at hv
    exact .inr hv
  · intro p v hv
    rw [setActiveWindow, childHead_withList] at hv
    exact .inr hv
  · intro v hv
    rcases setActiveWindow_cases s.z w with heq | ⟨hmagic, _, heq⟩
    · rcases points_withList hv with hactive | hlast | hold
      · rw [heq] at hactive
        exact .inr (.inl hactive)
      · rw [heq] at hlast
        exact .inr (.inr (.inr (.inr hlast)))
      · exact .inr hold
    · rcases points_withList hv with hactive | hlast | hold
      · rw [heq] at hactive
        cases hactive
        exact .inl (h.live_of_magic hmagic)
      · rw [heq] at hlast
        exact .inr (.inr (.inr (.inr hlast)))
      · exact .inr hold

theorem update_link_cases {a : Nat}
    (h : Function.update (Function.update next a (some w)) w none v = some u) :
    u = w ∨ v ≠ w ∧ next v = some u := by
  rcases eq_or_ne v w with rfl | hvw
  · rw [Function.update_self] at h
    cases h
  · rw [Function.update_of_ne hvw] at h
    rcases eq_or_ne v a with rfl | hva
    · rw [Function.update_self] at h
      exact .inl (Option.some.inj h).symm
    · rw [Function.update_of_ne hva] at h
      exact .inr ⟨hvw, h⟩

theorem update_end_cases (h : Function.update next w none v = some u) :
    v ≠ w ∧ next v = some u := by
  rcases eq_or_ne v w with rfl | hvw
  · rw [Function.update_self] at h
    cases h
  · rw [Function.update_of_ne hvw] at h
    exact ⟨hvw, h⟩

theorem sane_addToTop (h : Sane s) (w : Nat) : Ensures (addToTop s w) Sane := by
  refine Ensures.bind (Q := fun z => wmAddWindowToTop s.z (some w) = .ok z) (fun z hz => hz) ?_
  intro z hadd
  apply ensures_ok
  rcases wmAddWindowToTop_cases hadd with ⟨_, rfl⟩ | ⟨hshown, hsame, hactive, hlast, hlist⟩
  · have heq : withList s s.z = s := by
      rw [withList, if_pos rfl]
      rfl
    rw [heq]
    exact h
  · refine h.relink (by rw [z_withList]; exact hsame) {w} ?_ ?_ ?_ ?_ ?_
    · rintro v rfl
      exact hshown.1
    · intro v u hu
      rw [z_withList] at hu
      rcases hlist with ⟨_, _, hnext⟩ | ⟨_, _, _, _, _, hnext⟩
      · rw [hnext] at hu
        exact .inr (update_end_cases hu)
      · rw [hnext] at hu
        exact update_link_cases hu
    · intro v hv
      rw [z_withList] at hv
      rcases hlist with ⟨_, hfirst, _⟩ | ⟨f, _, hf, _, hfirst, _⟩
      · rw [hfirst] at hv
        exact .inl (Option.some.inj hv).symm
      · rw [hfirst] at hv
        rw [hf]
        exact .inr hv
    · intro p v hv
      rw [childHead_withList] at hv
      exact .inr hv
    · intro v hv
      rcases points_withList hv with hactive' | hlast' | hold
      · rw [hactive] at hactive'
        cases hactive'
        exact .inl hshown.1
      · rw [hlast] at hlast'
        cases hlast'
        exact .inl hshown.1
      · exact .inr hold

theorem sane_wmAddChildWindow (h : Sane s) (p w : Nat) : Ensures (wmAddChildWindow s p w) Sane := by
  unfold wmAddChildWindow
  refine ensures_ite (fun _ => ensures_ok h) fun _ => ensures_ite (fun _ => ensures_ok h) fun _ =>
    ensures_ite (fun _ => ensures_ok h) fun hw => ?_
  have hlive : ∀ v ∈ ({w} : Set Nat), s.Live v := by
    rintro v rfl
    exact not_not.mp hw
  split
  · apply ensures_ok
    refine h.relink (ZOrder.sameWindows_setNext s.z w none) {w} hlive ?_ (fun _ hv => .inr hv) ?_
      (fun _ hv => .inr hv)
    · intro v u hu
      change (setNext s.z w none).next v = some u at hu
      rw [ZOrder.next_setNext] at hu
      exact .inr (update_end_cases hu)
    · intro q v hv
      change Function.update s.childHead p (some w) q = some v at hv
      rcases eq_or_ne q p with rfl | hqp
      · rw [Function.update_self] at hv
        exact .inl (Option.some.inj hv).symm
      · rw [Function.update_of_ne hqp] at hv
        exact .inr hv
  · split
    · exact ensures_error _
    · rename_i last _
      apply ensures_ok
      refine h.relink ((ZOrder.sameWindows_setNext s.z last (some w)).trans
        (ZOrder.sameWindows_setNext _ w none)) {w} hlive ?_ (fun _ hv => .inr hv)
        (fun _ _ hv => .inr hv) (fun _ hv => .inr hv)
      intro v u hu
      change (setNext (setNext s.z last (some w)) w none).next v = some u at hu
      rw [ZOrder.next_setNext, ZOrder.next_setNext] at hu
      exact update_link_cases hu

theorem sane_owners (h : Sane s) (hw : s.Live w) :
    Sane { s with keyboardOwner := some w, mouseOwner := some w } := by
  refine h.relink (.refl s.z) ∅ (fun _ hv => absurd hv (Set.notMem_empty _))
    (fun v _ hu => .inr ⟨Set.notMem_empty v, hu⟩) (fun _ hv => .inr hv) (fun _ _ hv => .inr hv) ?_
  rintro v (hactive | hkeyboard | hmouse | hlast)
  · exact .inr (.inl hactive)
  · cases hkeyboard
    exact .inl hw
  · cases hmouse
    exact .inl hw
  · exact .inr (.inr (.inr (.inr hlast)))

theorem sane_setFocus (h : Sane s) (w : Nat) : Ensures (setFocus s w) Sane := by
  unfold setFocus
  refine ensures_ite (fun _ => ensures_ok h) fun hw => ?_
  split
  · exact ensures_error _
  · exact ensures_error _
  · rename_i p _ _
    refine ensures_ite (fun _ => ?_) fun _ => ensures_ok h
    apply ensures_ok
    split
    · exact sane_owners h (not_not.mp hw)
    · apply sane_owners (sane_setActiveWindow h p)
      exact (live_withList (ZOrder.setActiveWindow_same s.z p).1 w).mpr (not_not.mp hw)

/-- A table with more windows, which are linked to no others. -/
structure Grows (r r' : Table) : Prop where
  count : r.z.count ≤ r'.z.count
  live : ∀ v, (r.z.window v).Live → (r'.z.window v).Live
  fresh : ∀ v, (r'.z.window v).Live → (r.z.window v).Live ∨ r.z.count ≤ v ∧ v < r'.z.count
  next : ∀ v u, r'.z.next v = some u → r.z.next v = some u
  first : r'.z.firstWindow = r.z.firstWindow
  last : r'.z.lastWindow = r.z.lastWindow
  active : r'.z.activeWindow = r.z.activeWindow
  used : (∀ v, (r.z.window v).magic = WINDOW_MAGIC → (r.z.window v).used = true) →
    ∀ v, (r'.z.window v).magic = WINDOW_MAGIC → (r'.z.window v).used = true

theorem Grows.refl (r : Table) : Grows r r :=
  ⟨Nat.le_refl _, fun _ h => h, fun _ h => .inl h, fun _ _ h => h, rfl, rfl, rfl, fun h => h⟩

theorem Grows.trans {r r' r'' : Table} (h : Grows r r') (h' : Grows r' r'') : Grows r r'' where
  count := Nat.le_trans h.count h'.count
  live v hv := h'.live v (h.live v hv)
  fresh v hv := by
    have hcount := h.count
    have hcount' := h'.count
    rcases h'.fresh v hv with hv | hnew
    · exact (h.fresh v hv).imp_right fun hnew => by omega
    · right
      omega
  next v u hu := h.next v u (h'.next v u hu)
  first := h'.first.trans h.first
  last := h'.last.trans h.last
  active := h'.active.trans h.active
  used hr := h'.used (h.used hr)

theorem grows_createObject (r : Table) (type : Nat) (control : Option Control) :
    Grows r (createObject r type control) := by
  refine ⟨Nat.le_succ _, fun v hv => ?_, fun v hv => ?_, fun v u hu => ?_, rfl, rfl, rfl,
    fun hr v hv => ?_⟩
  · rcases eq_or_ne v r.z.count with rfl | hne
    · exact live_createObject type control
    · rw [window_createObject type control hne]
      exact hv
  · rcases eq_or_ne v r.z.count with rfl | hne
    · exact .inr ⟨Nat.le_refl _, Nat.lt_succ_self _⟩
    · rw [window_createObject type control hne] at hv
      exact .inl hv
  · rw [ZOrder.Desktop.next] at hu
    rcases eq_or_ne v r.z.count with rfl | hne
    · change (Function.update r.z.window r.z.count (ZOrder.newWindow type) r.z.count).next = _ at hu
      rw [Function.update_self] at hu
      cases hu
    · rw [window_createObject type control hne] at hu
      exact hu
  · rcases eq_or_ne v r.z.count with rfl | hne
    · exact (live_createObject type control).1
    · rw [window_createObject type control hne] at hv ⊢
      exact hr v hv

theorem grows_registerWindow (r : Table) (w : Nat) : Grows r (registerWindow r (some w)).2 := by
  rcases registerWindow_cases r w with ⟨heq, _⟩ | ⟨slot, _, _, _, heq⟩
  · rw [heq]
    exact ⟨Nat.le_refl _, fun _ h => h, fun _ h => .inl h, fun _ _ h => h, rfl, rfl, rfl, fun h => h⟩
  · rw [heq]
    exact ⟨Nat.le_refl _, fun _ h => h, fun _ h => .inl h, fun _ _ h => h, rfl, rfl, rfl, fun h => h⟩

theorem count_registerWindow (r : Table) (w : Nat) :
    (registerWindow r (some w)).2.z.count = r.z.count := by
  rcases registerWindow_cases r w with ⟨heq, _⟩ | ⟨slot, _, _, _, heq⟩ <;>
    · rw [heq]
      rfl

theorem grows_setEntry (r : Table) (w : Nat) (e : Entry) : Grows r (setEntry r w e) :=
  ⟨Nat.le_refl _, fun _ h => h, fun _ h => .inl h, fun _ _ h => h, rfl, rfl, rfl, fun h => h⟩

theorem grows_createControls (r : Table) (t : Nat) (cs : List Control) :
    Grows r (createControls r t cs) := by
  induction cs generalizing r with
  | nil => exact .refl r
  | cons c cs ih =>
      have hmade := (grows_createObject r WT_BUTTON (some c)).trans
        (grows_registerWindow _ r.z.count)
      rw [createControls]
      split
      · exact hmade
      · exact (hmade.trans (grows_setEntry _ t _)).trans (ih _)

theorem grows_doCreateTitlebar (r : Table) (w : Nat) : Grows r (doCreateTitlebar r w).2 := by
  unfold doCreateTitlebar
  split
  · exact .refl r
  · have hbar := (grows_createObject r WT_SIMPLE none).trans (grows_setEntry _ r.z.count
      { (createObject r WT_SIMPLE none).entry r.z.count with controls := fun _ => -1 })
    exact (hbar.trans (grows_createControls _ r.z.count _)).trans (grows_setEntry _ w _)

theorem sane_enroll (h : Sane s) {table : Table} (hgrows : Grows s.table table)
    (parent : Nat → Option Nat) (taskbar : Bool) : Sane (enroll s table parent taskbar) := by
  constructor
  · refine h.noDangling.grow ∅ (fun _ hv => absurd hv (Set.notMem_empty _)) hgrows.live
      (fun v u hu => .inr ⟨Set.notMem_empty v, hgrows.next v u hu⟩) ?_ ?_ ?_
    · intro v hv
      change table.z.firstWindow = some v at hv
      rw [hgrows.first] at hv
      exact .inr hv
    · intro p v hp hv
      change (if s.z.count ≤ p ∧ p < table.z.count then none else s.childHead p) = some v at hv
      split at hv
      · cases hv
      · exact .inr ⟨(hgrows.fresh p hp).resolve_right ‹_›, hv⟩
    · rintro v (hactive | hkeyboard | hmouse | hlast)
      · change table.z.activeWindow = some v at hactive
        rw [hgrows.active] at hactive
        exact .inr (.inl hactive)
      · exact .inr (.inr (.inl hkeyboard))
      · exact .inr (.inr (.inr (.inl hmouse)))
      · change table.z.lastWindow = some v at hlast
        rw [hgrows.last] at hlast
        exact .inr (.inr (.inr (.inr hlast)))
  · exact hgrows.used h.used

theorem sane_registerWindow (h : Sane s) (w : Nat) :
    Sane (withTable s (registerWindow s.table (some w)).2) := by
  have hgrows := grows_registerWindow s.table w
  have hsame : enroll s (registerWindow s.table (some w)).2 s.parent false =
      withTable s (registerWindow s.table (some w)).2 := by
    have hnew : ∀ v, ¬ (s.z.count ≤ v ∧ v < (registerWindow s.table (some w)).2.z.count) := by
      intro v hv
      rw [count_registerWindow] at hv
      exact Nat.not_lt.mpr hv.1 hv.2
    simp only [enroll, hnew, if_false]
    rfl
  rw [← hsame]
  exact sane_enroll h hgrows s.parent false

theorem sane_addPart (h : Sane s) (parent part : Nat) :
    Ensures (addPart s parent part) fun made => Sane made.2 := by
  have hregister := sane_registerWindow h part
  unfold addPart
  refine ensures_ite (fun _ => ensures_ok hregister) fun _ => ?_
  exact (sane_wmAddChildWindow hregister parent part).bind fun t ht => ensures_ok ht

theorem sane_doCreateWindowFrame (h : Sane s) (parent w : Nat) (style : FrameStyle) :
    Ensures (doCreateWindowFrame s parent w style) Sane := by
  have htitlebar : Ensures (if style.fullscreen then .ok (true, s) else createTitlebar s parent w)
      fun made => Sane made.2 := by
    refine ensures_ite (fun _ => ensures_ok h) fun _ => ?_
    exact sane_addPart (sane_enroll h (grows_doCreateTitlebar s.table w) _ false) parent _
  unfold doCreateWindowFrame
  refine ensures_ite (fun _ => ensures_ok h) fun _ => htitlebar.bind fun made hmade => ?_
  refine ensures_ite (fun _ => ensures_ok hmade) fun _ => ensures_ite (fun _ => ?_)
    fun _ => ensures_ok hmade
  exact (sane_addPart (sane_enroll hmade (grows_createObject _ WT_SIMPLE none) _ false)
    parent _).bind fun made' hmade' => ensures_ok hmade'

theorem sane_createWindow (h : Sane s) (parent type : Nat) (style : Style) :
    Ensures (createWindow s parent type style) Sane := by
  have hnew := sane_enroll h (grows_createObject s.table type none) (fun _ => some parent)
    (style.taskbar && decide (type ≠ WT_BUTTON))
  unfold createWindow
  refine Ensures.bind (Q := Sane) (ensures_ite (fun _ => ?_) fun _ => ?_) fun t ht => ?_
  · exact sane_addToTop hnew s.z.count
  · exact ensures_ok hnew
  · exact sane_doCreateWindowFrame ht parent s.z.count style.frame

theorem sane_linkWindow (h : Sane s) (parent w : Nat) (style : Style) :
    Ensures (linkWindow s parent w style) Sane := by
  have hchild : ∀ (s : Screen) (c : Prop) [Decidable c], Sane s →
      Ensures (if c then wmAddChildWindow s parent w else .ok s) Sane := by
    intro s c _ h
    exact ensures_ite (fun _ => sane_wmAddChildWindow h parent w) fun _ => ensures_ok h
  unfold linkWindow
  refine (hchild s _ h).bind fun s h => (hchild s _ h).bind fun s h => ?_
  refine Ensures.bind (Q := Sane) ?_ fun s h => ?_
  · exact ensures_ite (fun _ => sane_setFocus h w) fun _ => ensures_ok h
  · exact ensures_ite (fun _ => sane_addToTop h w) fun _ => ensures_ok h

theorem sane_serviceCreateWindow (h : Sane s) (pwid : Int) (type : Nat) (style : Style) :
    Ensures (serviceCreateWindow s pwid type style) Sane := by
  unfold serviceCreateWindow
  split
  · exact ensures_ok h
  · rename_i parent _
    refine ensures_ite (fun _ => ensures_ok h) fun _ => ?_
    refine (sane_createWindow h parent type style).bind fun t ht => ?_
    have hregister := sane_registerWindow ht s.z.count
    exact ensures_ite (fun _ => ensures_ok hregister) fun _ =>
      sane_linkWindow hregister parent s.z.count style

theorem sane_activate (h : Sane s) (window : Option Nat) : Sane (activate s window) := by
  cases window with
  | none => exact h
  | some w => exact sane_setActiveWindow h w

end Gramado.Ds.WindowLinks
