import Gramado.Library.LinkedList
import Gramado.Library.Run
import Mathlib.Data.List.Nodup
import Mathlib.Data.List.TakeWhile
import Mathlib.Data.List.Perm.Subperm

/-! The list of overlapped windows, from the bottom of the screen to the top. -/

namespace Gramado.Ds.ZOrder

open Library.LinkedList Library.Run

@[irreducible] def WINDOW_COUNT_MAX : Nat := 1024
def WINDOW_MAGIC : Nat := 1234
def WT_OVERLAPPED : Nat := 3

/-- The fields of `gws_window_d` that the list uses. A pointer to a window is its number. -/
structure Window where
  used : Bool
  magic : Nat
  type : Nat
  next : Option Nat
  prev : Option Nat

def Window.Live (w : Window) : Prop :=
  w.used = true ∧ w.magic = WINDOW_MAGIC

instance (w : Window) : Decidable w.Live :=
  inferInstanceAs (Decidable (_ ∧ _))

/-- The windows that have been created, the table of registered windows and the list. -/
structure Desktop where
  window : Nat → Window
  count : Nat
  windowList : Nat → Option Nat
  windowsCount : Nat
  firstWindow : Option Nat
  lastWindow : Option Nat
  activeWindow : Option Nat

def Desktop.next (d : Desktop) (w : Nat) : Option Nat :=
  (d.window w).next

def setNext (d : Desktop) (w : Nat) (next : Option Nat) : Desktop :=
  { d with window := Function.update d.window w { d.window w with next := next } }

def setPrev (d : Desktop) (w : Nat) (prev : Option Nat) : Desktop :=
  { d with window := Function.update d.window w { d.window w with prev := prev } }

def setFirst (d : Desktop) (first : Option Nat) : Desktop :=
  { d with firstWindow := first }

def setLast (d : Desktop) (last : Option Nat) : Desktop :=
  { d with lastWindow := last }

def setActiveWindow (d : Desktop) (w : Nat) : Desktop :=
  if (d.window w).magic ≠ WINDOW_MAGIC then d
  else if (d.window w).type ≠ WT_OVERLAPPED then d
  else { d with activeWindow := some w }

/-- The test is made on the new window where the first one is meant, so the store through the
old first window is a store through the null pointer when the list is empty. -/
def wmAddWindowToBottom (d : Desktop) (window : Option Nat) : Except String Desktop :=
  match window with
  | none => .ok d
  | some w =>
      if (d.window w).magic ≠ WINDOW_MAGIC then .ok d
      else if some w = d.firstWindow then .ok d
      else
        match d.firstWindow with
        | none => .error "wm_add_window_to_bottom: old_first"
        | some oldFirst =>
            .ok (setPrev (setNext (setFirst d (some w)) w (some oldFirst)) oldFirst (some w))

/-- The last part of `wm_add_window_to_top`, from its label `done` on. -/
def endsWith (d : Desktop) (w : Nat) : Desktop :=
  setActiveWindow (setNext (setLast d (some w)) w none) w

/-- The walk to the end of the list visits each created window at most once, or it does not
end. -/
def wmAddWindowToTop (d : Desktop) (window : Option Nat) : Except String Desktop :=
  match window with
  | none => .ok d
  | some w =>
      if (d.window w).used = false then .ok d
      else if (d.window w).magic ≠ WINDOW_MAGIC then .ok d
      else if (d.window w).type ≠ WT_OVERLAPPED then .ok d
      else
        match d.firstWindow with
        | none => .ok (endsWith (setFirst d (some w)) w)
        | some first =>
            if (d.window first).used = false then .ok (endsWith (setFirst d (some w)) w)
            else if (d.window first).magic ≠ WINDOW_MAGIC then
              .ok (endsWith (setFirst d (some w)) w)
            else
              match lastCell d.next d.count first with
              | none => .error "wm_add_window_to_top: while"
              | some last => .ok (endsWith (setPrev (setNext d last (some w)) w (some last)) w)

def kill (d : Desktop) (w : Nat) : Desktop :=
  { d with
    window := Function.update d.window w { d.window w with used := false, magic := 0 } }

def wmRemoveWindowFromList (d : Desktop) (window : Option Nat) : Except String Desktop :=
  match window with
  | none => .ok d
  | some w =>
      match findFrom d w d.count d.firstWindow with
      | none => .error "wm_remove_window_from_list: while"
      | some false => .ok d
      | some true => .ok (kill d w)
where
  /-- Whether the list from a pointer on has the window, looked for in at most `n` steps. -/
  findFrom (d : Desktop) (w : Nat) : Nat → Option Nat → Option Bool
    | _, none => some false
    | 0, some _ => none
    | n + 1, some v => if v = w then some true else findFrom d w n (d.next v)

/-- The redrawing of the desktop, `wm_update_desktop2`, leaves the list as it is. -/
def wmUpdateDesktop3 (d : Desktop) (newActiveWindow : Option Nat) : Except String Desktop :=
  match newActiveWindow with
  | none => .ok d
  | some w =>
      if some w = d.lastWindow then .ok (setActiveWindow d w)
      else
        match moveToTop d w with
        | .error e => .error e
        | .ok d =>
            let d := if some w = d.firstWindow then setFirst d (d.next w) else d
            .ok (setActiveWindow d w)
where
  moveToTop (d : Desktop) (w : Nat) : Except String Desktop :=
    if some w = d.firstWindow then .ok d
    else
      match wmRemoveWindowFromList d (some w) with
      | .error e => .error e
      | .ok d => wmAddWindowToTop d (some w)

def rebuildSlot (d : Desktop) (slot : Nat) : Except String Desktop :=
  match d.windowList slot with
  | none => .ok d
  | some w =>
      if (d.window w).magic = WINDOW_MAGIC ∧ (d.window w).type = WT_OVERLAPPED then
        wmAddWindowToTop d (some w)
      else .ok d

def wmRebuildList (d : Desktop) : Except String Desktop :=
  (List.range WINDOW_COUNT_MAX).foldlM rebuildSlot d

def newWindow (type : Nat) : Window := ⟨true, WINDOW_MAGIC, type, none, none⟩

def createWindow (d : Desktop) (type : Nat) : Desktop :=
  { d with
    window := Function.update d.window d.count (newWindow type)
    count := d.count + 1 }

def registerWindow (d : Desktop) (w : Nat) : Desktop :=
  let d := { d with windowsCount := d.windowsCount + 1 }
  if WINDOW_COUNT_MAX ≤ d.windowsCount then d
  else
    match (List.range WINDOW_COUNT_MAX).find? fun slot => (d.windowList slot).isNone with
    | none => d
    | some slot => { d with windowList := Function.update d.windowList slot (some w) }

def zOrder (d : Desktop) : List Nat :=
  chain d.next d.count d.firstWindow

def Shown (d : Desktop) (w : Nat) : Prop :=
  (d.window w).Live ∧ (d.window w).type = WT_OVERLAPPED

instance (d : Desktop) (w : Nat) : Decidable (Shown d w) :=
  inferInstanceAs (Decidable (_ ∧ _))

def registered (d : Desktop) : List Nat :=
  (List.range WINDOW_COUNT_MAX).filterMap fun slot =>
    (d.windowList slot).filter fun w => decide (Shown d w)

/-- The desktop and the windows that the calls have put in the list and not removed. -/
structure DeskSystem where
  desktop : Desktop
  managed : Nat → Bool

inductive DeskCall where
  | create (type : Nat)
  | addToTop (window : Option Nat)
  | addToBottom (window : Option Nat)
  | updateDesktop3 (window : Option Nat)
  | remove (window : Option Nat)
  | rebuild

def manage (s : DeskSystem) (window : Option Nat) : Nat → Bool :=
  match window with
  | none => s.managed
  | some w => if Shown s.desktop w then Function.update s.managed w true else s.managed

def unmanage (s : DeskSystem) (window : Option Nat) : Nat → Bool :=
  match window with
  | none => s.managed
  | some w => Function.update s.managed w false

def deskStep (s : DeskSystem) (call : DeskCall) : Except String (Unit × DeskSystem) :=
  match call with
  | .create type =>
      .ok ((), ⟨registerWindow (createWindow s.desktop type) s.desktop.count, s.managed⟩)
  | .addToTop window =>
      match wmAddWindowToTop s.desktop window with
      | .error e => .error e
      | .ok d => .ok ((), ⟨d, manage s window⟩)
  | .addToBottom window =>
      match wmAddWindowToBottom s.desktop window with
      | .error e => .error e
      | .ok d => .ok ((), ⟨d, manage s window⟩)
  | .updateDesktop3 window =>
      match wmUpdateDesktop3 s.desktop window with
      | .error e => .error e
      | .ok d => .ok ((), ⟨d, manage s window⟩)
  | .remove window =>
      match wmRemoveWindowFromList s.desktop window with
      | .error e => .error e
      | .ok d => .ok ((), ⟨d, unmanage s window⟩)
  | .rebuild =>
      match wmRebuildList s.desktop with
      | .error e => .error e
      | .ok d =>
          .ok ((), ⟨d, fun w => s.managed w || decide (w ∈ registered s.desktop)⟩)

def emptyDesktop : DeskSystem where
  desktop := ⟨fun _ => ⟨false, 0, 0, none, none⟩, 0, fun _ => none, 0, none, none, none⟩
  managed _ := false

def callWindow : DeskCall → Option Nat
  | .addToTop window => window
  | .addToBottom window => window
  | .updateDesktop3 window => window
  | .remove window => window
  | _ => none

def InTable (d : Desktop) (w : Nat) : Prop :=
  ∃ slot < WINDOW_COUNT_MAX, d.windowList slot = some w

def OnOverlapped (s : DeskSystem) (call : DeskCall) : Prop :=
  ∀ w ∈ callWindow call, InTable s.desktop w ∧ (s.desktop.window w).type = WT_OVERLAPPED

/-- The list ends, holds each managed live window once, and its last window is `last_window`. -/
def InOrder (s : DeskSystem) : Prop :=
  ∃ l, Follows s.desktop.next s.desktop.firstWindow l ∧ l.getLast? = s.desktop.lastWindow ∧
    ∀ w, s.managed w = true → (s.desktop.window w).Live → l.count w = 1

/-- The window is live and has gone to the end of the list, where nothing else has changed. -/
def Raised (d d' : Desktop) (w : Nat) : Prop :=
  (d'.window w).Live ∧
    ∃ l, Follows d.next d.firstWindow l ∧ Follows d'.next d'.firstWindow (l.erase w ++ [w])

/-- A call returns, leaves the list in order, and raises the window that it is to raise. -/
def Serves (s : DeskSystem) (call : DeskCall) : Prop :=
  ∃ t, deskStep s call = .ok ((), t) ∧ InOrder t ∧
    ∀ w, call = .updateDesktop3 (some w) → (s.desktop.window w).Live →
      Raised s.desktop t.desktop w

def FirstLive (d : Desktop) : Prop :=
  ∃ first ∈ d.firstWindow, (d.window first).Live

/-- The windows of a list that stand above `w`, which is in front of them. -/
def above (l : List Nat) (w : Nat) : List Nat :=
  l.dropWhile (· ≠ w)

def Fits (s : DeskSystem) : DeskCall → Prop
  | .addToTop (some w) =>
      Shown s.desktop w → ∀ v ∈ zOrder s.desktop, s.managed v = true →
        (s.desktop.window v).Live → v ≠ w →
          FirstLive s.desktop ∧ v ∉ above (zOrder s.desktop) w
  | .addToBottom (some w) =>
      Shown s.desktop w → s.desktop.firstWindow = some w ∨
        s.desktop.firstWindow ≠ none ∧ w ∉ zOrder s.desktop
  | .updateDesktop3 (some w) =>
      Shown s.desktop w → s.desktop.lastWindow = some w ∨
        FirstLive s.desktop ∧ w ∉ zOrder s.desktop
  | .rebuild => FirstLive s.desktop → s.desktop.firstWindow = (registered s.desktop).head?
  | _ => True

/-- Two desktops that differ in the links of their windows and in the ends of the list. -/
structure SameWindows (d d' : Desktop) : Prop where
  used : ∀ v, (d'.window v).used = (d.window v).used
  magic : ∀ v, (d'.window v).magic = (d.window v).magic
  type : ∀ v, (d'.window v).type = (d.window v).type
  count : d'.count = d.count
  windowList : d'.windowList = d.windowList

theorem SameWindows.refl (d : Desktop) : SameWindows d d :=
  ⟨fun _ => rfl, fun _ => rfl, fun _ => rfl, rfl, rfl⟩

variable {d d' : Desktop} {l front rest : List Nat} {w n first v : Nat} {start : Option Nat}
  {s : DeskSystem} {managed : Nat → Bool} {call : DeskCall}

theorem SameWindows.trans {d'' : Desktop} (h : SameWindows d d') (h' : SameWindows d' d'') :
    SameWindows d d'' where
  used v := (h'.used v).trans (h.used v)
  magic v := (h'.magic v).trans (h.magic v)
  type v := (h'.type v).trans (h.type v)
  count := h'.count.trans h.count
  windowList := h'.windowList.trans h.windowList

theorem SameWindows.live_iff (h : SameWindows d d') (v : Nat) :
    (d'.window v).Live ↔ (d.window v).Live := by
  rw [Window.Live, Window.Live, h.used, h.magic]

theorem SameWindows.shown_iff (h : SameWindows d d') (v : Nat) : Shown d' v ↔ Shown d v := by
  rw [Shown, Shown, h.live_iff, h.type]

theorem sameWindows_setNext (d : Desktop) (w : Nat) (next : Option Nat) :
    SameWindows d (setNext d w next) := by
  refine ⟨fun v => ?_, fun v => ?_, fun v => ?_, rfl, rfl⟩ <;>
    · rw [setNext]
      dsimp only
      rcases eq_or_ne v w with rfl | hne
      · rw [Function.update_self]
      · rw [Function.update_of_ne hne]

theorem sameWindows_setPrev (d : Desktop) (w : Nat) (prev : Option Nat) :
    SameWindows d (setPrev d w prev) := by
  refine ⟨fun v => ?_, fun v => ?_, fun v => ?_, rfl, rfl⟩ <;>
    · rw [setPrev]
      dsimp only
      rcases eq_or_ne v w with rfl | hne
      · rw [Function.update_self]
      · rw [Function.update_of_ne hne]

theorem next_setNext (d : Desktop) (w : Nat) (next : Option Nat) :
    (setNext d w next).next = Function.update d.next w next := by
  funext v
  rw [Desktop.next, setNext]
  dsimp only
  rcases eq_or_ne v w with rfl | hne
  · rw [Function.update_self, Function.update_self]
  · rw [Function.update_of_ne hne, Function.update_of_ne hne]
    rfl

theorem next_setPrev (d : Desktop) (w : Nat) (prev : Option Nat) :
    (setPrev d w prev).next = d.next := by
  funext v
  rw [Desktop.next, setPrev]
  dsimp only
  rcases eq_or_ne v w with rfl | hne
  · rw [Function.update_self]
    rfl
  · rw [Function.update_of_ne hne]
    rfl

theorem next_kill (d : Desktop) (w : Nat) : (kill d w).next = d.next := by
  funext v
  rw [Desktop.next, kill]
  dsimp only
  rcases eq_or_ne v w with rfl | hne
  · rw [Function.update_self]
    rfl
  · rw [Function.update_of_ne hne]
    rfl

theorem setActiveWindow_same (d : Desktop) (w : Nat) :
    SameWindows d (setActiveWindow d w) ∧ (setActiveWindow d w).next = d.next ∧
      (setActiveWindow d w).firstWindow = d.firstWindow ∧
      (setActiveWindow d w).lastWindow = d.lastWindow := by
  unfold setActiveWindow
  split
  · exact ⟨.refl d, rfl, rfl, rfl⟩
  split
  · exact ⟨.refl d, rfl, rfl, rfl⟩
  · exact ⟨⟨fun _ => rfl, fun _ => rfl, fun _ => rfl, rfl, rfl⟩, rfl, rfl, rfl⟩

structure HasOrder (d : Desktop) (l : List Nat) : Prop where
  follows : Follows d.next d.firstWindow l
  last : l.getLast? = d.lastWindow

theorem HasOrder.setActiveWindow (h : HasOrder d l) (w : Nat) :
    HasOrder (setActiveWindow d w) l := by
  obtain ⟨_, hnext, hfirst, hlast⟩ := setActiveWindow_same d w
  constructor
  · rw [hnext, hfirst]
    exact h.follows
  · rw [hlast]
    exact h.last

theorem endsWith_same (d : Desktop) (w : Nat) : SameWindows d (endsWith d w) :=
  have hlast : SameWindows d (setLast d (some w)) :=
    ⟨fun _ => rfl, fun _ => rfl, fun _ => rfl, rfl, rfl⟩
  (hlast.trans (sameWindows_setNext _ w none)).trans (setActiveWindow_same _ w).1

theorem hasOrder_endsWith (h : Reaches d.next d.firstWindow front (some w)) (hw : w ∉ front) :
    HasOrder (endsWith d w) (front ++ [w]) := by
  apply HasOrder.setActiveWindow
  constructor
  · rw [next_setNext, follows_iff_reaches, reaches_append]
    refine ⟨some w, h.congr fun a ha => ?_, rfl, ?_⟩
    · exact Function.update_of_ne (ne_of_mem_of_not_mem ha hw) ..
    · exact Function.update_self ..
  · rw [List.getLast?_concat]
    rfl

/-- What stays of a list when `w` is put at its end: the windows in front of `w`. -/
def pushTop (l : List Nat) (w : Nat) : List Nat :=
  l.takeWhile (· ≠ w) ++ [w]

theorem takeWhile_ne_of_mem (hw : w ∉ front) : (front ++ w :: rest).takeWhile (· ≠ w) = front := by
  rw [List.takeWhile_append_of_pos fun v hv => by
    simpa using ne_of_mem_of_not_mem hv hw]
  simp

theorem takeWhile_ne_of_not_mem (hw : w ∉ l) : l.takeWhile (· ≠ w) = l := by
  rw [List.takeWhile_eq_self_iff]
  intro v hv
  simpa using ne_of_mem_of_not_mem hv hw

theorem not_mem_takeWhile_ne (l : List Nat) (w : Nat) : w ∉ l.takeWhile (· ≠ w) := by
  intro h
  simpa using List.mem_takeWhile_imp h

theorem length_le_of_lt (hnodup : l.Nodup) (h : ∀ w ∈ l, w < n) : l.length ≤ n := by
  have hsub := (List.subperm_of_subset hnodup fun w hw => List.mem_range.mpr (h w hw)).length_le
  rwa [List.length_range] at hsub

theorem wmAddWindowToTop_push (horder : HasOrder d l) (hlt : ∀ v ∈ l, v < d.count)
    (hshown : Shown d w) (hfirst : d.firstWindow = some first) (hlive : (d.window first).Live) :
    ∃ d', wmAddWindowToTop d (some w) = .ok d' ∧ SameWindows d d' ∧ HasOrder d' (pushTop l w) := by
  have hfollows := horder.follows
  have hne : l ≠ [] := by
    rintro rfl
    rw [hfirst] at hfollows
    cases hfollows
  obtain ⟨front, last, rfl⟩ := (List.eq_nil_or_concat' l).resolve_left hne
  have hwalk : lastCell d.next d.count first = some last := by
    rw [hfirst] at hfollows
    rw [hfollows.lastCell_eq (length_le_of_lt hfollows.nodup hlt), List.getLast?_concat]
  refine ⟨endsWith (setPrev (setNext d last (some w)) w (some last)) w, ?_, ?_, ?_⟩
  · unfold wmAddWindowToTop
    dsimp only
    rw [if_neg (by simp [hshown.1.1]), if_neg (by simp [hshown.1.2]),
      if_neg (by simp [hshown.2]), hfirst]
    dsimp only
    rw [if_neg (by simp [hlive.1]), if_neg (by simp [hlive.2]), hwalk]
  · exact ((sameWindows_setNext d last _).trans (sameWindows_setPrev _ w _)).trans
      (endsWith_same _ w)
  · apply hasOrder_endsWith
    · rw [next_setPrev, next_setNext]
      have hreach := follows_iff_reaches.mp hfollows
      by_cases hw : w ∈ front
      · obtain ⟨before, rest, hfront, hbefore⟩ := List.eq_append_cons_of_mem hw
        rw [hfront, List.append_assoc, List.cons_append] at hreach hfollows ⊢
        have hnodup := hfollows.nodup
        rw [takeWhile_ne_of_mem hbefore]
        obtain ⟨middle, hto, hmiddle⟩ := reaches_append.mp hreach
        obtain ⟨rfl, _⟩ := hmiddle
        refine hto.congr fun a ha => Function.update_of_ne ?_ ..
        rintro rfl
        have hdisjoint := (List.nodup_append.mp hnodup).2.2 a ha a (by simp)
        exact hdisjoint rfl
      · obtain ⟨middle, hto, rfl, hstop⟩ := reaches_append.mp hreach
        have hlast : last ∉ front := by
          have hnodup := hfollows.nodup
          rw [List.nodup_append] at hnodup
          intro h
          exact hnodup.2.2 last h last (by simp) rfl
        have hfront : Reaches (Function.update d.next last (some w)) d.firstWindow front
            (some last) :=
          hto.congr fun a ha => Function.update_of_ne (ne_of_mem_of_not_mem ha hlast) ..
        rcases eq_or_ne last w with rfl | hlastw
        · rw [takeWhile_ne_of_mem hlast]
          exact hfront
        · rw [takeWhile_ne_of_not_mem (by simp [hw, hlastw.symm])]
          exact reaches_append.mpr ⟨_, hfront, rfl, Function.update_self ..⟩
    · exact not_mem_takeWhile_ne _ w

theorem wmAddWindowToTop_restart (hshown : Shown d w) (hfirst : ¬ FirstLive d) :
    ∃ d', wmAddWindowToTop d (some w) = .ok d' ∧ SameWindows d d' ∧ HasOrder d' [w] := by
  have hstart : SameWindows d (setFirst d (some w)) :=
    ⟨fun _ => rfl, fun _ => rfl, fun _ => rfl, rfl, rfl⟩
  have hlist : HasOrder (endsWith (setFirst d (some w)) w) ([] ++ [w]) :=
    hasOrder_endsWith rfl List.not_mem_nil
  refine ⟨endsWith (setFirst d (some w)) w, ?_, hstart.trans (endsWith_same _ w), hlist⟩
  unfold wmAddWindowToTop
  dsimp only
  rw [if_neg (by simp [hshown.1.1]), if_neg (by simp [hshown.1.2]), if_neg (by simp [hshown.2])]
  split
  · rfl
  · rename_i first hsome
    by_cases hused : (d.window first).used = false
    · rw [if_pos hused]
    · have hmagic : (d.window first).magic ≠ WINDOW_MAGIC := fun hmagic =>
        hfirst ⟨first, hsome, by simpa using hused, hmagic⟩
      rw [if_neg hused, if_pos hmagic]

theorem wmAddWindowToTop_refused (h : ¬ Shown d w) : wmAddWindowToTop d (some w) = .ok d := by
  unfold wmAddWindowToTop
  dsimp only
  by_cases hused : (d.window w).used = false
  · rw [if_pos hused]
  · rw [if_neg hused]
    by_cases hmagic : (d.window w).magic = WINDOW_MAGIC
    · have htype : (d.window w).type ≠ WT_OVERLAPPED := fun htype =>
        h ⟨⟨by simpa using hused, hmagic⟩, htype⟩
      rw [if_neg (not_not_intro hmagic), if_pos htype]
    · rw [if_pos hmagic]

def kept (d : Desktop) (l : List Nat) : List Nat :=
  match l.head? with
  | none => []
  | some first => if (d.window first).Live then l else []

theorem Follows.head_eq {next : Nat → Option Nat} (h : Follows next start l) : l.head? = start := by
  cases h with
  | nil => rfl
  | cons => rfl

theorem kept_of_firstLive (horder : HasOrder d l) (h : FirstLive d) : kept d l = l := by
  obtain ⟨first, hfirst, hlive⟩ := h
  rw [kept, Follows.head_eq horder.follows, Option.mem_def.mp hfirst]
  exact if_pos hlive

theorem kept_of_not_firstLive (horder : HasOrder d l) (h : ¬ FirstLive d) : kept d l = [] := by
  rw [kept, Follows.head_eq horder.follows]
  split
  · rfl
  · rename_i first hfirst
    exact if_neg fun hlive => h ⟨first, hfirst, hlive⟩

theorem wmAddWindowToTop_spec (horder : HasOrder d l) (hlt : ∀ v ∈ l, v < d.count)
    (hshown : Shown d w) :
    ∃ d', wmAddWindowToTop d (some w) = .ok d' ∧ SameWindows d d' ∧
      HasOrder d' (pushTop (kept d l) w) := by
  by_cases hfirst : FirstLive d
  · rw [kept_of_firstLive horder hfirst]
    obtain ⟨first, hsome, hlive⟩ := hfirst
    exact wmAddWindowToTop_push horder hlt hshown hsome hlive
  · rw [kept_of_not_firstLive horder hfirst]
    exact wmAddWindowToTop_restart hshown hfirst

theorem wmAddWindowToBottom_push (horder : HasOrder d l) (hw : w ∉ l) (hl : l ≠ [])
    (hmagic : (d.window w).magic = WINDOW_MAGIC) :
    ∃ d', wmAddWindowToBottom d (some w) = .ok d' ∧ SameWindows d d' ∧ HasOrder d' (w :: l) := by
  have hhead := Follows.head_eq horder.follows
  obtain ⟨first, rest, rfl⟩ := List.exists_cons_of_ne_nil hl
  have hfirst : d.firstWindow = some first := hhead.symm
  have hne : w ≠ first := fun heq => hw (by simp [heq])
  refine ⟨setPrev (setNext (setFirst d (some w)) w (some first)) first (some w), ?_, ?_, ?_⟩
  · unfold wmAddWindowToBottom
    dsimp only
    rw [if_neg (not_not_intro hmagic), hfirst, if_neg (by simpa using hne)]
  · have hstart : SameWindows d (setFirst d (some w)) :=
      ⟨fun _ => rfl, fun _ => rfl, fun _ => rfl, rfl, rfl⟩
    exact (hstart.trans (sameWindows_setNext _ w _)).trans (sameWindows_setPrev _ first _)
  · constructor
    · rw [next_setPrev, next_setNext]
      refine .cons w _ ?_
      rw [Function.update_self, ← hfirst]
      exact horder.follows.congr fun v hv =>
        Function.update_of_ne (ne_of_mem_of_not_mem hv hw) ..
    · rw [List.getLast?_cons_cons]
      exact horder.last

theorem wmAddWindowToBottom_cycle (horder : HasOrder d l) (hw : w ∈ l)
    (hne : d.firstWindow ≠ some w) (hmagic : (d.window w).magic = WINDOW_MAGIC)
    (h : wmAddWindowToBottom d (some w) = .ok d') (l' : List Nat) :
    ¬ Follows d'.next d'.firstWindow l' := by
  intro hfollows
  unfold wmAddWindowToBottom at h
  dsimp only at h
  rw [if_neg (not_not_intro hmagic), if_neg hne.symm] at h
  split at h
  · cases h
  · rename_i first hfirst
    obtain rfl := Except.ok.inj h
    obtain ⟨front, rest, rfl, hfront⟩ := List.eq_append_cons_of_mem hw
    obtain ⟨middle, hto, hmiddle⟩ := reaches_append.mp (follows_iff_reaches.mp horder.follows)
    obtain ⟨rfl, _⟩ := hmiddle
    have hcycle : Reaches (setPrev (setNext (setFirst d (some w)) w (some first)) first
        (some w)).next (some w) (w :: front) (some w) := by
      rw [next_setPrev, next_setNext]
      refine ⟨rfl, ?_⟩
      rw [Function.update_self, ← hfirst]
      exact hto.congr fun v hv => Function.update_of_ne (ne_of_mem_of_not_mem hv hfront) ..
    exact hfollows.not_cyclic hcycle

theorem findFrom_eq (h : Follows d.next start l) (hn : l.length ≤ n) :
    wmRemoveWindowFromList.findFrom d w n start = some (decide (w ∈ l)) := by
  induction h generalizing n with
  | nil => cases n <;> rfl
  | cons a l _ ih =>
      cases n with
      | zero => cases hn
      | succ n =>
          rw [wmRemoveWindowFromList.findFrom, ih (by simpa using hn)]
          rcases eq_or_ne a w with rfl | hne
          · rw [if_pos rfl]
            simp
          · rw [if_neg hne]
            simp [hne.symm]

theorem wmRemoveWindowFromList_spec (horder : HasOrder d l) (hlt : ∀ v ∈ l, v < d.count) :
    wmRemoveWindowFromList d (some w) = .ok (if w ∈ l then kill d w else d) := by
  have hlength := length_le_of_lt horder.follows.nodup hlt
  unfold wmRemoveWindowFromList
  dsimp only
  rw [findFrom_eq horder.follows hlength]
  by_cases hw : w ∈ l
  · simp only [hw, decide_true, if_true]
  · simp only [hw, decide_false, if_false]

theorem hasOrder_kill (h : HasOrder d l) (w : Nat) : HasOrder (kill d w) l := by
  constructor
  · rw [next_kill]
    exact h.follows
  · exact h.last

theorem not_live_kill (d : Desktop) (w : Nat) : ¬ ((kill d w).window w).Live := by
  intro h
  have hused := h.1
  rw [kill] at hused
  dsimp only at hused
  rw [Function.update_self] at hused
  cases hused

theorem kill_window_of_ne (d : Desktop) (h : v ≠ w) : (kill d w).window v = d.window v :=
  Function.update_of_ne h ..

/-- What holds as long as the list has been in order: its windows are registered, the managed
live ones are in it, and each window has at most one slot of the table. -/
structure DeskInv (s : DeskSystem) (l : List Nat) : Prop where
  order : HasOrder s.desktop l
  listed : ∀ w ∈ l, InTable s.desktop w ∧ (s.desktop.window w).type = WT_OVERLAPPED
  managed : ∀ w, s.managed w = true → (s.desktop.window w).Live → w ∈ l
  managed_lt : ∀ w, s.managed w = true → w < s.desktop.count
  table_lt : ∀ slot w, s.desktop.windowList slot = some w → w < s.desktop.count
  table_inj : ∀ slot slot' w, s.desktop.windowList slot = some w →
    s.desktop.windowList slot' = some w → slot = slot'
  alive : ∀ w, (s.desktop.window w).used = true ↔ (s.desktop.window w).magic = WINDOW_MAGIC

theorem deskInv_emptyDesktop : DeskInv emptyDesktop [] where
  order := ⟨.nil, rfl⟩
  listed w h := by cases h
  managed w h := by cases h
  managed_lt w h := by cases h
  table_lt slot w h := by cases h
  table_inj slot slot' w h := by cases h
  alive w := iff_of_false Bool.false_ne_true (show 0 ≠ WINDOW_MAGIC by decide)

theorem DeskInv.inTable_lt (h : DeskInv s l) (hw : InTable s.desktop w) : w < s.desktop.count := by
  obtain ⟨slot, _, hslot⟩ := hw
  exact h.table_lt slot w hslot

theorem DeskInv.listed_lt (h : DeskInv s l) : ∀ w ∈ l, w < s.desktop.count :=
  fun w hw => h.inTable_lt (h.listed w hw).1

theorem DeskInv.nodup (h : DeskInv s l) : l.Nodup := h.order.follows.nodup

theorem DeskInv.zOrder_eq (h : DeskInv s l) : zOrder s.desktop = l :=
  h.order.follows.chain_eq (length_le_of_lt h.nodup h.listed_lt)

theorem DeskInv.inOrder (h : DeskInv s l) : InOrder s :=
  ⟨l, h.order.follows, h.order.last, fun w hmanaged hlive =>
    List.count_eq_one_of_mem h.nodup (h.managed w hmanaged hlive)⟩

theorem DeskInv.shown_iff (h : DeskInv s l) (htype : (s.desktop.window w).type = WT_OVERLAPPED) :
    Shown s.desktop w ↔ (s.desktop.window w).magic = WINDOW_MAGIC := by
  constructor
  · exact fun hshown => hshown.1.2
  · exact fun hmagic => ⟨⟨(h.alive w).mpr hmagic, hmagic⟩, htype⟩

theorem InOrder.mem (h : InOrder s) (horder : HasOrder s.desktop l) (hmanaged : s.managed w = true)
    (hlive : (s.desktop.window w).Live) : w ∈ l := by
  obtain ⟨l', hfollows, _, hcount⟩ := h
  rw [hfollows.unique horder.follows] at hcount
  exact List.count_pos_iff.mp (by rw [hcount w hmanaged hlive]; exact Nat.one_pos)

theorem DeskInv.same {l' : List Nat} (h : DeskInv s l) (hsame : SameWindows s.desktop d')
    (horder : HasOrder d' l')
    (hlisted : ∀ w ∈ l', InTable s.desktop w ∧ (s.desktop.window w).type = WT_OVERLAPPED)
    (hmanaged : ∀ w, managed w = true → (s.desktop.window w).Live → w ∈ l')
    (hlt : ∀ w, managed w = true → w < s.desktop.count) : DeskInv ⟨d', managed⟩ l' where
  order := horder
  listed w hw := by
    rw [InTable, hsame.windowList, hsame.type]
    exact hlisted w hw
  managed w hw hlive := hmanaged w hw ((hsame.live_iff w).mp hlive)
  managed_lt w hw := by
    rw [hsame.count]
    exact hlt w hw
  table_lt slot w hslot := by
    rw [hsame.windowList] at hslot
    rw [hsame.count]
    exact h.table_lt slot w hslot
  table_inj slot slot' w hslot hslot' := by
    rw [hsame.windowList] at hslot hslot'
    exact h.table_inj slot slot' w hslot hslot'
  alive w := by
    rw [hsame.used, hsame.magic]
    exact h.alive w

theorem DeskInv.kill (h : DeskInv s l)
    (hmanaged : ∀ v, v ≠ w → managed v = true → s.managed v = true)
    (hlt : ∀ v, managed v = true → v < s.desktop.count) :
    DeskInv ⟨kill s.desktop w, managed⟩ l where
  order := hasOrder_kill h.order w
  listed v hv := by
    refine ⟨(h.listed v hv).1, ?_⟩
    have htype := (h.listed v hv).2
    rcases eq_or_ne v w with rfl | hne
    · change (Function.update s.desktop.window v _ v).type = WT_OVERLAPPED
      rw [Function.update_self]
      exact htype
    · change ((ZOrder.kill s.desktop w).window v).type = WT_OVERLAPPED
      rw [kill_window_of_ne _ hne]
      exact htype
  managed v hv hlive := by
    rcases eq_or_ne v w with rfl | hne
    · exact absurd hlive (not_live_kill _ v)
    · change ((ZOrder.kill s.desktop w).window v).Live at hlive
      rw [kill_window_of_ne _ hne] at hlive
      exact h.managed v (hmanaged v hne hv) hlive
  managed_lt := hlt
  table_lt := h.table_lt
  table_inj := h.table_inj
  alive v := by
    rcases eq_or_ne v w with rfl | hne
    · change (Function.update s.desktop.window v _ v).used = true ↔
        (Function.update s.desktop.window v _ v).magic = WINDOW_MAGIC
      rw [Function.update_self]
      exact iff_of_false Bool.false_ne_true (show 0 ≠ WINDOW_MAGIC by decide)
    · change ((ZOrder.kill s.desktop w).window v).used = true ↔
        ((ZOrder.kill s.desktop w).window v).magic = WINDOW_MAGIC
      rw [kill_window_of_ne _ hne]
      exact h.alive v

theorem manage_cases (h : manage s (some w) v = true) : v = w ∨ s.managed v = true := by
  unfold manage at h
  dsimp only at h
  split at h
  · rcases eq_or_ne v w with heq | hne
    · exact .inl heq
    · rw [Function.update_of_ne hne] at h
      exact .inr h
  · exact .inr h

theorem manage_of_managed (h : s.managed v = true) : manage s (some w) v = true := by
  unfold manage
  dsimp only
  split
  · rcases eq_or_ne v w with rfl | hne
    · exact Function.update_self ..
    · rw [Function.update_of_ne hne]
      exact h
  · exact h

theorem manage_of_not_shown (h : ¬ Shown s.desktop w) : manage s (some w) = s.managed := if_neg h

theorem DeskInv.manage_lt (h : DeskInv s l) (hw : InTable s.desktop w) (v : Nat)
    (hv : manage s (some w) v = true) :
    v < s.desktop.count := by
  rcases manage_cases hv with rfl | hv
  · exact h.inTable_lt hw
  · exact h.managed_lt v hv

theorem mem_pushTop (hnodup : l.Nodup) : v ∈ pushTop l w ↔ v = w ∨ v ∈ l ∧ v ∉ above l w := by
  have hsplit : l.takeWhile (· ≠ w) ++ above l w = l := List.takeWhile_append_dropWhile
  have hdisjoint : ∀ a ∈ l.takeWhile (· ≠ w), a ∉ above l w := by
    intro a ha hb
    rw [← hsplit, List.nodup_append] at hnodup
    exact hnodup.2.2 a ha a hb rfl
  have hmem : v ∈ l ↔ v ∈ l.takeWhile (· ≠ w) ∨ v ∈ above l w := by
    conv_lhs => rw [← hsplit]
    exact List.mem_append
  rw [pushTop, List.mem_append, List.mem_singleton, hmem]
  constructor
  · rintro (hv | rfl)
    · exact .inr ⟨.inl hv, hdisjoint v hv⟩
    · exact .inl rfl
  · rintro (rfl | ⟨hv | hv, hnot⟩)
    · exact .inr rfl
    · exact .inl hv
    · exact absurd hv hnot

/-- A call that returns and keeps the invariant, and raises the window that it is to raise. -/
def Proceeds (s : DeskSystem) (call : DeskCall) : Prop :=
  ∃ t l', deskStep s call = .ok ((), t) ∧ DeskInv t l' ∧
    ∀ w, call = .updateDesktop3 (some w) → (s.desktop.window w).Live →
      Raised s.desktop t.desktop w

theorem Proceeds.serves (h : Proceeds s call) : Serves s call := by
  obtain ⟨t, l', hstep, hinv, hraise⟩ := h
  exact ⟨t, hstep, hinv.inOrder, hraise⟩

theorem FirstLive.of_mem_kept (horder : HasOrder d l) (hv : v ∈ kept d l) : FirstLive d := by
  by_contra hfirst
  rw [kept_of_not_firstLive horder hfirst] at hv
  cases hv

theorem addToTop_fits (h : DeskInv s l) (hw : InTable s.desktop w)
    (htype : (s.desktop.window w).type = WT_OVERLAPPED) (hfits : Fits s (.addToTop (some w))) :
    Proceeds s (.addToTop (some w)) := by
  by_cases hshown : Shown s.desktop w
  · obtain ⟨d', hadd, hsame, horder⟩ := wmAddWindowToTop_spec h.order h.listed_lt hshown
    refine ⟨⟨d', manage s (some w)⟩, pushTop (kept s.desktop l) w, ?_, ?_, ?_⟩
    · rw [deskStep, hadd]
    · refine h.same hsame horder ?_ ?_ (h.manage_lt hw)
      · intro v hv
        rw [pushTop, List.mem_append, List.mem_singleton] at hv
        rcases hv with hv | rfl
        · have hkept := List.takeWhile_subset _ hv
          rw [kept_of_firstLive h.order (.of_mem_kept h.order hkept)] at hkept
          exact h.listed v hkept
        · exact ⟨hw, htype⟩
      · intro v hmanaged hlive
        rcases manage_cases hmanaged with rfl | hv
        · exact List.mem_append_right _ (by simp)
        · have hmem := h.managed v hv hlive
          rcases eq_or_ne v w with rfl | hne
          · exact List.mem_append_right _ (by simp)
          · rw [Fits, h.zOrder_eq] at hfits
            obtain ⟨hfirst, habove⟩ := hfits hshown v hmem hv hlive hne
            rw [kept_of_firstLive h.order hfirst, mem_pushTop h.nodup]
            exact .inr ⟨hmem, habove⟩
    · intro v hv
      cases hv
  · refine ⟨⟨s.desktop, s.managed⟩, l, ?_, h, fun v hv => by cases hv⟩
    rw [deskStep, wmAddWindowToTop_refused hshown]
    dsimp only
    rw [manage_of_not_shown hshown]

theorem fits_addToTop (h : DeskInv s l) (hserves : Serves s (.addToTop (some w))) :
    Fits s (.addToTop (some w)) := by
  intro hshown v hv hmanaged hlive hne
  obtain ⟨d', hadd, hsame, horder⟩ := wmAddWindowToTop_spec h.order h.listed_lt hshown
  obtain ⟨t, hstep, hinOrder, _⟩ := hserves
  rw [deskStep, hadd] at hstep
  obtain rfl := (Prod.mk.inj (Except.ok.inj hstep)).2
  rw [h.zOrder_eq]
  have hmem := hinOrder.mem horder (manage_of_managed hmanaged) ((hsame.live_iff v).mpr hlive)
  have hfirst : FirstLive s.desktop := by
    rw [pushTop, List.mem_append, List.mem_singleton] at hmem
    exact .of_mem_kept h.order (List.takeWhile_subset _ (hmem.resolve_right hne))
  rw [kept_of_firstLive h.order hfirst, mem_pushTop h.nodup] at hmem
  exact ⟨hfirst, (hmem.resolve_left hne).2⟩

theorem addToBottom_fits (h : DeskInv s l) (hw : InTable s.desktop w)
    (htype : (s.desktop.window w).type = WT_OVERLAPPED) (hfits : Fits s (.addToBottom (some w))) :
    Proceeds s (.addToBottom (some w)) := by
  have hhead := Follows.head_eq h.order.follows
  by_cases hshown : Shown s.desktop w
  · have hmagic := (h.shown_iff htype).mp hshown
    rw [Fits, h.zOrder_eq] at hfits
    rcases hfits hshown with hfirst | ⟨hfirst, hnot⟩
    · refine ⟨⟨s.desktop, manage s (some w)⟩, l, ?_, ?_, fun v hv => by cases hv⟩
      · rw [deskStep, wmAddWindowToBottom]
        rw [if_neg (not_not_intro hmagic), if_pos hfirst.symm]
      · refine h.same (.refl _) h.order h.listed ?_ (h.manage_lt hw)
        intro v hmanaged hlive
        rcases manage_cases hmanaged with rfl | hv
        · rw [hfirst] at hhead
          exact List.mem_of_mem_head? (Option.mem_def.mpr hhead)
        · exact h.managed v hv hlive
    · have hl : l ≠ [] := by
        rintro rfl
        exact hfirst hhead.symm
      obtain ⟨d', hadd, hsame, horder⟩ := wmAddWindowToBottom_push h.order hnot hl hmagic
      refine ⟨⟨d', manage s (some w)⟩, w :: l, ?_, ?_, fun v hv => by cases hv⟩
      · rw [deskStep, hadd]
      · refine h.same hsame horder ?_ ?_ (h.manage_lt hw)
        · intro v hv
          rcases List.mem_cons.mp hv with rfl | hv
          · exact ⟨hw, htype⟩
          · exact h.listed v hv
        · intro v hmanaged hlive
          rcases manage_cases hmanaged with rfl | hv
          · exact List.mem_cons_self
          · exact List.mem_cons_of_mem w (h.managed v hv hlive)
  · refine ⟨⟨s.desktop, s.managed⟩, l, ?_, h, fun v hv => by cases hv⟩
    have hmagic : (s.desktop.window w).magic ≠ WINDOW_MAGIC := fun hmagic =>
      hshown ((h.shown_iff htype).mpr hmagic)
    rw [deskStep, wmAddWindowToBottom]
    rw [if_pos hmagic]
    dsimp only
    rw [manage_of_not_shown hshown]

theorem fits_addToBottom (h : DeskInv s l) (hserves : Serves s (.addToBottom (some w))) :
    Fits s (.addToBottom (some w)) := by
  intro hshown
  have hmagic := hshown.1.2
  rw [h.zOrder_eq]
  by_cases hfirst : s.desktop.firstWindow = some w
  · exact .inl hfirst
  · obtain ⟨t, hstep, ⟨l', hfollows, _⟩, _⟩ := hserves
    rw [deskStep] at hstep
    split at hstep
    · cases hstep
    · rename_i d hadd
      obtain rfl := (Prod.mk.inj (Except.ok.inj hstep)).2
      refine .inr ⟨?_, ?_⟩
      · intro hnone
        unfold wmAddWindowToBottom at hadd
        dsimp only at hadd
        rw [if_neg (not_not_intro hmagic), if_neg (Ne.symm hfirst), hnone] at hadd
        cases hadd
      · intro hmem
        exact wmAddWindowToBottom_cycle h.order hmem hfirst hmagic hadd l' hfollows

theorem moveToTop_first (h : d.firstWindow = some w) :
    wmUpdateDesktop3.moveToTop d w = .ok d := if_pos h.symm

theorem moveToTop_dead (horder : HasOrder d l) (hlt : ∀ v ∈ l, v < d.count)
    (hfirst : d.firstWindow ≠ some w) (h : w ∈ l ∨ ¬ Shown d w) :
    wmUpdateDesktop3.moveToTop d w = .ok (if w ∈ l then kill d w else d) := by
  rw [wmUpdateDesktop3.moveToTop, if_neg hfirst.symm, wmRemoveWindowFromList_spec horder hlt]
  apply wmAddWindowToTop_refused
  by_cases hw : w ∈ l
  · rw [if_pos hw]
    exact fun hshown => not_live_kill d w hshown.1
  · rw [if_neg hw]
    exact h.resolve_left hw

theorem moveToTop_absent (horder : HasOrder d l) (hlt : ∀ v ∈ l, v < d.count) (hw : w ∉ l)
    (hshown : Shown d w) :
    ∃ d', wmUpdateDesktop3.moveToTop d w = .ok d' ∧ SameWindows d d' ∧
      HasOrder d' (pushTop (kept d l) w) := by
  have hfirst : some w ≠ d.firstWindow := by
    intro heq
    have hhead := (Follows.head_eq horder.follows).trans heq.symm
    exact hw (List.mem_of_mem_head? (Option.mem_def.mpr hhead))
  rw [wmUpdateDesktop3.moveToTop, if_neg hfirst, wmRemoveWindowFromList_spec horder hlt, if_neg hw]
  exact wmAddWindowToTop_spec horder hlt hshown

theorem wmUpdateDesktop3_last (h : d.lastWindow = some w) :
    wmUpdateDesktop3 d (some w) = .ok (setActiveWindow d w) := if_pos h.symm

theorem wmUpdateDesktop3_moved (h : d.lastWindow ≠ some w)
    (hmoved : wmUpdateDesktop3.moveToTop d w = .ok d') :
    wmUpdateDesktop3 d (some w) =
      .ok (setActiveWindow (if some w = d'.firstWindow then setFirst d' (d'.next w) else d')
        w) := by
  unfold wmUpdateDesktop3
  dsimp only
  rw [if_neg h.symm, hmoved]

theorem deskStep_updateDesktop3 (h : wmUpdateDesktop3 s.desktop (some w) = .ok d') :
    deskStep s (.updateDesktop3 (some w)) = .ok ((), ⟨d', manage s (some w)⟩) := by
  rw [deskStep, h]

theorem hasOrder_tail (h : HasOrder d (w :: rest)) (hrest : rest ≠ []) :
    HasOrder (setFirst d (d.next w)) rest := by
  constructor
  · exact follows_iff_reaches.mpr (follows_iff_reaches.mp h.follows).2
  · change rest.getLast? = d.lastWindow
    rw [← h.last]
    exact (List.getLast?_cons_of_ne_nil hrest).symm

theorem DeskInv.setActiveWindow (h : DeskInv s l) (w : Nat) :
    DeskInv ⟨setActiveWindow s.desktop w, s.managed⟩ l :=
  h.same (setActiveWindow_same s.desktop w).1 (h.order.setActiveWindow w) h.listed h.managed
    h.managed_lt

theorem updateDesktop3_dead (h : DeskInv s l) (hdead : ¬ Shown s.desktop w)
    (htype : (s.desktop.window w).type = WT_OVERLAPPED) :
    ∃ d' l', wmUpdateDesktop3 s.desktop (some w) = .ok d' ∧ DeskInv ⟨d', s.managed⟩ l' := by
  have hlive : ¬ (s.desktop.window w).Live := fun hlive => hdead ⟨hlive, htype⟩
  by_cases hlast : s.desktop.lastWindow = some w
  · exact ⟨_, l, wmUpdateDesktop3_last hlast, h.setActiveWindow w⟩
  · by_cases hfirst : s.desktop.firstWindow = some w
    · refine ⟨_, l.tail, wmUpdateDesktop3_moved hlast (moveToTop_first hfirst), ?_⟩
      rw [if_pos hfirst.symm]
      have hhead := Follows.head_eq h.order.follows
      rw [hfirst] at hhead
      obtain ⟨rest, rfl⟩ : ∃ rest, l = w :: rest := by
        cases l with
        | nil => cases hhead
        | cons v rest => exact ⟨rest, by rw [Option.some.inj hhead]⟩
      have hrest : rest ≠ [] := by
        rintro rfl
        exact hlast h.order.last.symm
      have htail : DeskInv ⟨setFirst s.desktop (s.desktop.next w), s.managed⟩ rest := by
        refine h.same ⟨fun _ => rfl, fun _ => rfl, fun _ => rfl, rfl, rfl⟩
          (hasOrder_tail h.order hrest) ?_ ?_ h.managed_lt
        · exact fun v hv => h.listed v (List.mem_cons_of_mem w hv)
        · intro v hmanaged hv
          rcases List.mem_cons.mp (h.managed v hmanaged hv) with rfl | hmem
          · exact absurd hv hlive
          · exact hmem
      exact htail.setActiveWindow w
    · refine ⟨_, l, wmUpdateDesktop3_moved hlast
        (moveToTop_dead h.order h.listed_lt hfirst (.inr hdead)), ?_⟩
      have hkilled : DeskInv ⟨if w ∈ l then kill s.desktop w else s.desktop, s.managed⟩ l := by
        split
        · exact h.kill (fun _ _ hv => hv) h.managed_lt
        · exact h
      have hsame : (if w ∈ l then kill s.desktop w else s.desktop).firstWindow =
          s.desktop.firstWindow := by
        split <;> rfl
      rw [hsame, if_neg (Ne.symm hfirst)]
      exact hkilled.setActiveWindow w

theorem updateDesktop3_fits (h : DeskInv s l) (hw : InTable s.desktop w)
    (htype : (s.desktop.window w).type = WT_OVERLAPPED)
    (hfits : Fits s (.updateDesktop3 (some w))) :
    Proceeds s (.updateDesktop3 (some w)) := by
  by_cases hshown : Shown s.desktop w
  · rw [Fits, h.zOrder_eq] at hfits
    rcases hfits hshown with hlast | ⟨hfirst, hnot⟩
    · have hmem : l.getLast? = some w := h.order.last.trans hlast
      obtain ⟨front, rfl⟩ := List.getLast?_eq_some_iff.mp hmem
      have hnodup := h.nodup
      have hfront : w ∉ front := fun hv =>
        (List.nodup_append.mp hnodup).2.2 w hv w (by simp) rfl
      have hactive := setActiveWindow_same s.desktop w
      refine ⟨⟨setActiveWindow s.desktop w, manage s (some w)⟩, front ++ [w],
        deskStep_updateDesktop3 (wmUpdateDesktop3_last hlast), ?_, ?_⟩
      · refine h.same hactive.1 (h.order.setActiveWindow w) h.listed ?_ (h.manage_lt hw)
        intro v hmanaged hlive
        rcases manage_cases hmanaged with rfl | hv
        · exact List.mem_append_right front (by simp)
        · exact h.managed v hv hlive
      · intro v hv hlive
        obtain rfl : w = v := by simpa using hv
        refine ⟨(hactive.1.live_iff w).mpr hlive, front ++ [w], h.order.follows, ?_⟩
        rw [List.erase_append_right _ hfront, List.erase_cons_head, List.append_nil]
        exact (h.order.setActiveWindow w).follows
    · obtain ⟨d', hmoved, hsame, horder⟩ := moveToTop_absent h.order h.listed_lt hnot hshown
      rw [kept_of_firstLive h.order hfirst, pushTop, takeWhile_ne_of_not_mem hnot] at horder
      have hlast : s.desktop.lastWindow ≠ some w := by
        rw [← h.order.last]
        exact fun heq => hnot (List.mem_of_getLast? heq)
      obtain ⟨first, hsome, _⟩ := hfirst
      have hl : l ≠ [] := by
        rintro rfl
        have hhead := Follows.head_eq h.order.follows
        rw [Option.mem_def.mp hsome] at hhead
        cases hhead
      have hkeep : some w ≠ d'.firstWindow := by
        have hhead := Follows.head_eq horder.follows
        rw [List.head?_append_of_ne_nil _ hl] at hhead
        rw [← hhead]
        exact fun heq => hnot (List.mem_of_mem_head? (Option.mem_def.mpr heq.symm))
      have hactive := setActiveWindow_same d' w
      have hraised := wmUpdateDesktop3_moved hlast hmoved
      rw [if_neg hkeep] at hraised
      refine ⟨⟨setActiveWindow d' w, manage s (some w)⟩, l ++ [w],
        deskStep_updateDesktop3 hraised, ?_, ?_⟩
      · refine h.same (hsame.trans hactive.1) (horder.setActiveWindow w) ?_ ?_ (h.manage_lt hw)
        · intro v hv
          rcases List.mem_append.mp hv with hv | hv
          · exact h.listed v hv
          · rw [List.mem_singleton.mp hv]
            exact ⟨hw, htype⟩
        · intro v hmanaged hlive
          rcases manage_cases hmanaged with rfl | hv
          · exact List.mem_append_right l (by simp)
          · exact List.mem_append_left _ (h.managed v hv hlive)
      · intro v hv hlive
        obtain rfl : w = v := by simpa using hv
        refine ⟨((hsame.trans hactive.1).live_iff w).mpr hlive, l, h.order.follows, ?_⟩
        rw [List.erase_of_not_mem hnot]
        exact (horder.setActiveWindow w).follows
  · obtain ⟨d', l', hupdate, hinv⟩ := updateDesktop3_dead h hshown htype
    refine ⟨⟨d', manage s (some w)⟩, l', deskStep_updateDesktop3 hupdate, ?_, ?_⟩
    · rw [manage_of_not_shown hshown]
      exact hinv
    · intro v hv hlive
      obtain rfl : w = v := by simpa using hv
      exact absurd ⟨hlive, htype⟩ hshown

theorem fits_updateDesktop3 (h : DeskInv s l) (hserves : Serves s (.updateDesktop3 (some w))) :
    Fits s (.updateDesktop3 (some w)) := by
  intro hshown
  rw [h.zOrder_eq]
  by_cases hlast : s.desktop.lastWindow = some w
  · exact .inl hlast
  refine .inr ?_
  obtain ⟨t, hstep, _, hraise⟩ := hserves
  obtain ⟨hlive, l', hbefore, hafter⟩ := hraise w rfl hshown.1
  obtain rfl := hbefore.unique h.order.follows
  by_cases hmem : w ∈ l'
  · exfalso
    by_cases hfirst : s.desktop.firstWindow = some w
    · have hmoved := wmUpdateDesktop3_moved hlast (moveToTop_first hfirst)
      rw [if_pos hfirst.symm] at hmoved
      rw [deskStep_updateDesktop3 hmoved] at hstep
      obtain rfl := (Prod.mk.inj (Except.ok.inj hstep)).2
      obtain ⟨_, hnext, hstart, _⟩ := setActiveWindow_same (setFirst s.desktop (s.desktop.next w)) w
      change Follows (ZOrder.setActiveWindow _ w).next (ZOrder.setActiveWindow _ w).firstWindow _
        at hafter
      rw [hnext, hstart] at hafter
      have hcycle : Follows s.desktop.next (some w) (w :: (l'.erase w ++ [w])) := .cons w _ hafter
      exact (List.nodup_cons.mp hcycle.nodup).1 (by simp)
    · have hmoved := wmUpdateDesktop3_moved hlast
        (moveToTop_dead h.order h.listed_lt hfirst (.inl hmem))
      rw [if_pos hmem, if_neg (show some w ≠ (kill s.desktop w).firstWindow from Ne.symm hfirst)]
        at hmoved
      rw [deskStep_updateDesktop3 hmoved] at hstep
      obtain rfl := (Prod.mk.inj (Except.ok.inj hstep)).2
      exact not_live_kill s.desktop w (((setActiveWindow_same _ w).1.live_iff w).mp hlive)
  · refine ⟨?_, hmem⟩
    by_contra hfirst
    obtain ⟨d', hmove, hsame, horder⟩ := moveToTop_absent h.order h.listed_lt hmem hshown
    rw [kept_of_not_firstLive h.order hfirst] at horder
    have hstart : d'.firstWindow = some w := (Follows.head_eq horder.follows).symm
    have hend : d'.next w = none := by
      have hfollows := horder.follows
      rw [hstart] at hfollows
      cases hfollows with
      | cons _ _ hrest => exact (Follows.head_eq hrest).symm
    have hmoved := wmUpdateDesktop3_moved hlast hmove
    rw [if_pos hstart.symm, hend] at hmoved
    rw [deskStep_updateDesktop3 hmoved] at hstep
    obtain rfl := (Prod.mk.inj (Except.ok.inj hstep)).2
    have hnone := (setActiveWindow_same (setFirst d' none) w).2.2.1
    have hhead := Follows.head_eq hafter
    change _ = (ZOrder.setActiveWindow (setFirst d' none) w).firstWindow at hhead
    rw [hnone] at hhead
    cases hl : l'.erase w with
    | nil =>
        rw [hl] at hhead
        cases hhead
    | cons v rest =>
        rw [hl] at hhead
        cases hhead

theorem remove_proceeds (h : DeskInv s l) : Proceeds s (.remove (some w)) := by
  have hmanaged : ∀ v, unmanage s (some w) v = true → s.managed v = true := by
    intro v hv
    rcases eq_or_ne v w with rfl | hne
    · rw [unmanage, Function.update_self] at hv
      cases hv
    · rw [unmanage, Function.update_of_ne hne] at hv
      exact hv
  have hlt : ∀ v, unmanage s (some w) v = true → v < s.desktop.count :=
    fun v hv => h.managed_lt v (hmanaged v hv)
  refine ⟨⟨if w ∈ l then kill s.desktop w else s.desktop, unmanage s (some w)⟩, l, ?_, ?_,
    fun v hv => by cases hv⟩
  · rw [deskStep, wmRemoveWindowFromList_spec h.order h.listed_lt]
  · split
    · exact h.kill (fun v _ hv => hmanaged v hv) hlt
    · exact h.same (.refl _) h.order h.listed (fun v hv => h.managed v (hmanaged v hv)) hlt

def rebuilt (d : Desktop) (l : List Nat) : List Nat :=
  (registered d).foldl (fun l w => pushTop (kept d l) w) l

theorem kept_congr (h : SameWindows d d') (l : List Nat) : kept d' l = kept d l := by
  unfold kept
  split
  · rfl
  · rename_i first _
    by_cases hlive : (d.window first).Live
    · rw [if_pos hlive, if_pos ((h.live_iff first).mpr hlive)]
    · rw [if_neg hlive, if_neg fun hlive' => hlive ((h.live_iff first).mp hlive')]

theorem mem_of_mem_pushTop_kept (h : v ∈ pushTop (kept d l) w) : v = w ∨ v ∈ l := by
  rw [pushTop, List.mem_append, List.mem_singleton] at h
  rcases h with h | h
  · have hkept := List.takeWhile_subset _ h
    unfold kept at hkept
    split at hkept
    · cases hkept
    · split at hkept
      · exact .inr hkept
      · cases hkept
  · exact .inl h

theorem rebuildSlots_spec (htable : ∀ slot w, d.windowList slot = some w →
      w < d.count) (halive : ∀ w, (d.window w).used = true ↔ (d.window w).magic = WINDOW_MAGIC)
    (slots : List Nat) {e : Desktop} (hsame : SameWindows d e)
    (horder : HasOrder e l) (hlt : ∀ v ∈ l, v < d.count) :
    ∃ e', slots.foldlM rebuildSlot e = .ok e' ∧ SameWindows d e' ∧
      HasOrder e' ((slots.filterMap fun slot =>
        (d.windowList slot).filter fun w => decide (Shown d w)).foldl
          (fun l w => pushTop (kept d l) w) l) := by
  induction slots generalizing e l with
  | nil => exact ⟨e, rfl, hsame, horder⟩
  | cons slot slots ih =>
      rw [List.foldlM_cons, List.filterMap_cons]
      cases hslot : d.windowList slot with
      | none =>
          have hturn : rebuildSlot e slot = .ok e := by
            rw [rebuildSlot, hsame.windowList, hslot]
          rw [hturn]
          exact ih hsame horder hlt
      | some w =>
          by_cases hshown : Shown d w
          · have hshown' : Shown e w := (hsame.shown_iff w).mpr hshown
            have hlt' : ∀ v ∈ l, v < e.count := by
              rw [hsame.count]
              exact hlt
            obtain ⟨e', hadd, hsame', horder'⟩ := wmAddWindowToTop_spec horder hlt' hshown'
            have hturn : rebuildSlot e slot = .ok e' := by
              rw [rebuildSlot, hsame.windowList, hslot]
              dsimp only
              rw [if_pos ⟨hshown'.1.2, hshown'.2⟩, hadd]
            rw [hturn]
            simp only [Option.filter_some, hshown, decide_true, if_true, List.foldl_cons]
            rw [kept_congr hsame] at horder'
            refine ih (hsame.trans hsame') horder' fun v hv => ?_
            rcases mem_of_mem_pushTop_kept hv with rfl | hv
            · exact htable slot v hslot
            · exact hlt v hv
          · have hturn : rebuildSlot e slot = .ok e := by
              rw [rebuildSlot, hsame.windowList, hslot]
              dsimp only
              rw [if_neg]
              rintro ⟨hmagic, htype⟩
              rw [hsame.magic] at hmagic
              rw [hsame.type] at htype
              exact hshown ⟨⟨(halive w).mpr hmagic, hmagic⟩, htype⟩
            rw [hturn]
            simp only [Option.filter_some, hshown, decide_false, Bool.false_eq_true, if_false]
            exact ih hsame horder hlt

theorem wmRebuildList_spec (h : DeskInv s l) :
    ∃ d', wmRebuildList s.desktop = .ok d' ∧ SameWindows s.desktop d' ∧
      HasOrder d' (rebuilt s.desktop l) :=
  rebuildSlots_spec h.table_lt h.alive _ (.refl _) h.order h.listed_lt

theorem mem_registered : w ∈ registered d ↔ InTable d w ∧ Shown d w := by
  rw [registered, List.mem_filterMap]
  constructor
  · rintro ⟨slot, hslot, hw⟩
    obtain ⟨hw, hshown⟩ := Option.filter_eq_some_iff.mp hw
    exact ⟨⟨slot, List.mem_range.mp hslot, hw⟩, of_decide_eq_true hshown⟩
  · rintro ⟨⟨slot, hslot, hw⟩, hshown⟩
    exact ⟨slot, List.mem_range.mpr hslot,
      Option.filter_eq_some_iff.mpr ⟨hw, decide_eq_true hshown⟩⟩

theorem DeskInv.registered_nodup (h : DeskInv s l) : (registered s.desktop).Nodup := by
  apply List.Nodup.filterMap _ List.nodup_range
  intro slot slot' w hw hw'
  exact h.table_inj slot slot' w (Option.filter_eq_some_iff.mp hw).1
    (Option.filter_eq_some_iff.mp hw').1

theorem foldl_pushTop (hlive : (d.window first).Live) (ws : List Nat) (hnodup : ws.Nodup)
    (hnew : ∀ w ∈ ws, w ∉ first :: front) :
    ws.foldl (fun l w => pushTop (kept d l) w) (first :: front) = first :: front ++ ws := by
  induction ws generalizing front with
  | nil => rw [List.foldl_nil, List.append_nil]
  | cons w ws ih =>
      obtain ⟨hw, hrest⟩ := List.nodup_cons.mp hnodup
      have hkept : kept d (first :: front) = first :: front := if_pos hlive
      rw [List.foldl_cons, hkept, pushTop,
        takeWhile_ne_of_not_mem (hnew w List.mem_cons_self), List.cons_append, ih hrest]
      · simp
      · intro v hv
        have hvw : v ≠ w := ne_of_mem_of_not_mem hv hw
        have hold := hnew v (List.mem_cons_of_mem w hv)
        simp only [List.mem_cons, List.mem_append, List.not_mem_nil, or_false, not_or] at hold ⊢
        exact ⟨hold.1, hold.2, hvw⟩

theorem rebuilt_eq {ws : List Nat} (hregistered : registered d = w :: ws) (hnodup : (w :: ws).Nodup)
    (hlive : (d.window w).Live) (hl : kept d l = [] ∨ l.head? = some w) :
    rebuilt d l = w :: ws := by
  have hfirst : pushTop (kept d l) w = [w] := by
    rcases hl with hkept | hhead
    · rw [hkept]
      rfl
    · unfold kept
      rw [hhead]
      dsimp only
      rw [if_pos hlive]
      cases l with
      | nil => cases hhead
      | cons v rest =>
          obtain rfl := Option.some.inj hhead
          rw [pushTop, List.takeWhile_cons_of_neg (by simp), List.nil_append]
  obtain ⟨hw, hrest⟩ := List.nodup_cons.mp hnodup
  rw [rebuilt, hregistered, List.foldl_cons, hfirst, foldl_pushTop hlive ws hrest]
  · rfl
  · intro v hv
    rw [List.mem_singleton]
    exact ne_of_mem_of_not_mem hv hw

theorem not_mem_foldl_pushTop (ws : List Nat) (hv : v ∉ ws) (hl : v ∉ l) :
    v ∉ ws.foldl (fun l w => pushTop (kept d l) w) l := by
  induction ws generalizing l with
  | nil => exact hl
  | cons w ws ih =>
      obtain ⟨hvw, hrest⟩ := not_or.mp (List.mem_cons.not.mp hv)
      rw [List.foldl_cons]
      apply ih hrest
      intro hmem
      rcases mem_of_mem_pushTop_kept hmem with heq | hmem
      · exact hvw heq
      · exact hl hmem

theorem not_mem_foldl_of_first (hlive : (d.window first).Live) (hne : v ≠ first) (ws : List Nat)
    (hfirst : first ∈ ws) (hv : v ∉ ws) :
    v ∉ ws.foldl (fun l w => pushTop (kept d l) w) (first :: rest) := by
  induction ws generalizing rest with
  | nil => cases hfirst
  | cons w ws ih =>
      obtain ⟨hvw, hvrest⟩ := not_or.mp (List.mem_cons.not.mp hv)
      have hkept : kept d (first :: rest) = first :: rest := if_pos hlive
      rw [List.foldl_cons, hkept, pushTop]
      rcases eq_or_ne first w with rfl | hother
      · rw [List.takeWhile_cons_of_neg (by simp), List.nil_append]
        exact not_mem_foldl_pushTop ws hvrest (by simpa using hne)
      · rw [List.takeWhile_cons_of_pos (by simpa using hother), List.cons_append]
        exact ih ((List.mem_cons.mp hfirst).resolve_left hother) hvrest

theorem rebuild_fits (h : DeskInv s l) (hfits : Fits s .rebuild) : Proceeds s .rebuild := by
  obtain ⟨d', hrebuild, hsame, horder⟩ := wmRebuildList_spec h
  have hnodup := h.registered_nodup
  have hlist : rebuilt s.desktop l = registered s.desktop ∨
      registered s.desktop = [] ∧ rebuilt s.desktop l = l := by
    cases hregistered : registered s.desktop with
    | nil =>
        refine .inr ⟨rfl, ?_⟩
        rw [rebuilt, hregistered]
        rfl
    | cons w ws =>
        have hw : w ∈ registered s.desktop := by simp [hregistered]
        rw [hregistered] at hnodup
        refine .inl (rebuilt_eq hregistered hnodup (mem_registered.mp hw).2.1 ?_)
        by_cases hfirst : FirstLive s.desktop
        · refine .inr ?_
          rw [Follows.head_eq h.order.follows, hfits hfirst, hregistered]
          rfl
        · exact .inl (kept_of_not_firstLive h.order hfirst)
  have hmanaged : ∀ v, s.managed v = true → (s.desktop.window v).Live →
      v ∈ registered s.desktop := by
    intro v hv hlive
    obtain ⟨hin, htype⟩ := h.listed v (h.managed v hv hlive)
    exact mem_registered.mpr ⟨hin, hlive, htype⟩
  refine ⟨⟨d', fun w => s.managed w || decide (w ∈ registered s.desktop)⟩,
    rebuilt s.desktop l, ?_, ?_, fun v hv => by cases hv⟩
  · rw [deskStep, hrebuild]
  · refine h.same hsame horder ?_ ?_ ?_
    · intro v hv
      rcases hlist with hlist | ⟨_, hlist⟩
      · rw [hlist] at hv
        obtain ⟨hin, hshown⟩ := mem_registered.mp hv
        exact ⟨hin, hshown.2⟩
      · rw [hlist] at hv
        exact h.listed v hv
    · intro v hv hlive
      have hin : v ∈ registered s.desktop := by
        rcases Bool.or_eq_true_iff.mp hv with hv | hv
        · exact hmanaged v hv hlive
        · exact of_decide_eq_true hv
      rcases hlist with hlist | ⟨hnil, _⟩
      · rw [hlist]
        exact hin
      · rw [hnil] at hin
        cases hin
    · intro v hv
      rcases Bool.or_eq_true_iff.mp hv with hv | hv
      · exact h.managed_lt v hv
      · exact h.inTable_lt (mem_registered.mp (of_decide_eq_true hv)).1

theorem fits_rebuild (h : DeskInv s l) (hserves : Serves s .rebuild) : Fits s .rebuild := by
  intro hfirst
  obtain ⟨first, hsome, hlive⟩ := hfirst
  rw [Option.mem_def] at hsome
  have hhead := Follows.head_eq h.order.follows
  rw [hsome] at hhead
  obtain ⟨rest, rfl⟩ : ∃ rest, l = first :: rest := by
    cases l with
    | nil => cases hhead
    | cons v rest => exact ⟨rest, by rw [Option.some.inj hhead]⟩
  obtain ⟨hin, htype⟩ := h.listed first List.mem_cons_self
  have hregistered : first ∈ registered s.desktop := mem_registered.mpr ⟨hin, hlive, htype⟩
  rw [hsome]
  by_contra hne
  obtain ⟨d', hrebuild, hsame, horder⟩ := wmRebuildList_spec h
  obtain ⟨t, hstep, hinOrder, _⟩ := hserves
  rw [deskStep, hrebuild] at hstep
  obtain rfl := (Prod.mk.inj (Except.ok.inj hstep)).2
  have hnodup := h.registered_nodup
  cases hlist : registered s.desktop with
  | nil =>
      rw [hlist] at hregistered
      cases hregistered
  | cons w ws =>
      rw [hlist] at hne hregistered hnodup
      have hw : w ∈ registered s.desktop := by simp [hlist]
      have hwne : w ≠ first := fun heq => hne (by rw [heq]; rfl)
      have hlost : w ∉ rebuilt s.desktop (first :: rest) := by
        have hkept : kept s.desktop (first :: rest) = first :: rest := if_pos hlive
        rw [rebuilt, hlist, List.foldl_cons, hkept, pushTop,
          List.takeWhile_cons_of_pos (by simpa using hwne.symm), List.cons_append]
        exact not_mem_foldl_of_first hlive hwne ws
          ((List.mem_cons.mp hregistered).resolve_left hwne.symm) (List.nodup_cons.mp hnodup).1
      apply hlost
      apply hinOrder.mem horder
      · change (s.managed w || decide (w ∈ registered s.desktop)) = true
        rw [decide_eq_true hw, Bool.or_true]
      · exact (hsame.live_iff w).mpr (mem_registered.mp hw).2.1

theorem registerWindow_cases (d : Desktop) (w : Nat) : ∃ table windowsCount,
      registerWindow d w = { d with windowList := table, windowsCount := windowsCount } ∧
        (table = d.windowList ∨ ∃ slot, d.windowList slot = none ∧
          table = Function.update d.windowList slot (some w)) := by
  unfold registerWindow
  dsimp only
  split
  · exact ⟨_, _, rfl, .inl rfl⟩
  split
  · exact ⟨_, _, rfl, .inl rfl⟩
  · rename_i slot hslot
    exact ⟨_, _, rfl, .inr ⟨slot, by simpa using List.find?_some hslot, rfl⟩⟩

theorem create_proceeds (h : DeskInv s l) (type : Nat) : Proceeds s (.create type) := by
  obtain ⟨table, windowsCount, hregister, htable⟩ :=
    registerWindow_cases (createWindow s.desktop type) s.desktop.count
  have hold : ∀ w, w < s.desktop.count →
      (createWindow s.desktop type).window w = s.desktop.window w :=
    fun w hw => Function.update_of_ne (Nat.ne_of_lt hw) ..
  have hentry : ∀ slot w, table slot = some w →
      s.desktop.windowList slot = some w ∨ w = s.desktop.count ∧ s.desktop.windowList slot = none ∧
        table = Function.update s.desktop.windowList slot (some w) := by
    intro slot w hw
    rcases htable with rfl | ⟨slot', hfree, rfl⟩
    · exact .inl hw
    · rcases eq_or_ne slot slot' with rfl | hne
      · rw [Function.update_self] at hw
        cases hw
        exact .inr ⟨rfl, hfree, rfl⟩
      · rw [Function.update_of_ne hne] at hw
        exact .inl hw
  refine ⟨⟨registerWindow (createWindow s.desktop type) s.desktop.count, s.managed⟩, l, rfl, ?_,
    fun v hv => by cases hv⟩
  rw [hregister]
  constructor
  · refine ⟨h.order.follows.congr fun w hw => ?_, h.order.last⟩
    exact congrArg Window.next (hold w (h.listed_lt w hw))
  · intro w hw
    obtain ⟨⟨slot, hslot, hin⟩, htype⟩ := h.listed w hw
    refine ⟨⟨slot, hslot, ?_⟩, ?_⟩
    · change table slot = some w
      rcases htable with rfl | ⟨slot', hfree, rfl⟩
      · exact hin
      · have hne : slot ≠ slot' := by
          rintro rfl
          change s.desktop.windowList slot = none at hfree
          rw [hin] at hfree
          cases hfree
        rw [Function.update_of_ne hne]
        exact hin
    · exact (congrArg Window.type (hold w (h.listed_lt w hw))).trans htype
  · intro w hmanaged hlive
    have hlive' : (s.desktop.window w).Live := by
      rw [← hold w (h.managed_lt w hmanaged)]
      exact hlive
    exact h.managed w hmanaged hlive'
  · exact fun w hw => Nat.lt_succ_of_lt (h.managed_lt w hw)
  · intro slot w hw
    rcases hentry slot w hw with hw | ⟨rfl, _⟩
    · exact Nat.lt_succ_of_lt (h.table_lt slot w hw)
    · exact Nat.lt_succ_self _
  · intro slot slot' w hw hw'
    rcases hentry slot w hw with hw | ⟨rfl, _, hupdate⟩
    · rcases hentry slot' w hw' with hw' | ⟨rfl, _, _⟩
      · exact h.table_inj slot slot' w hw hw'
      · exact absurd (h.table_lt slot _ hw) (Nat.lt_irrefl _)
    · by_contra hne
      change table slot' = _ at hw'
      rw [hupdate, Function.update_of_ne (Ne.symm hne)] at hw'
      exact absurd (h.table_lt slot' _ hw') (Nat.lt_irrefl _)
  · intro w
    change (Function.update s.desktop.window s.desktop.count (newWindow type) w).used = true ↔
      (Function.update s.desktop.window s.desktop.count (newWindow type) w).magic = WINDOW_MAGIC
    rcases eq_or_ne w s.desktop.count with rfl | hne
    · rw [Function.update_self]
      exact iff_of_true rfl rfl
    · rw [Function.update_of_ne hne]
      exact h.alive w

theorem none_proceeds (h : DeskInv s l) (hstep : deskStep s call = .ok ((), s))
    (hnone : callWindow call = none) :
    Proceeds s call := by
  refine ⟨s, l, hstep, h, fun w hw => ?_⟩
  rw [hw] at hnone
  cases hnone

theorem proceeds_of_fits (h : DeskInv s l) (hdomain : OnOverlapped s call) (hfits : Fits s call) :
    Proceeds s call := by
  cases call with
  | create type => exact create_proceeds h type
  | addToTop window =>
      cases window with
      | none => exact none_proceeds h rfl rfl
      | some w => exact addToTop_fits h (hdomain w rfl).1 (hdomain w rfl).2 hfits
  | addToBottom window =>
      cases window with
      | none => exact none_proceeds h rfl rfl
      | some w => exact addToBottom_fits h (hdomain w rfl).1 (hdomain w rfl).2 hfits
  | updateDesktop3 window =>
      cases window with
      | none => exact none_proceeds h rfl rfl
      | some w => exact updateDesktop3_fits h (hdomain w rfl).1 (hdomain w rfl).2 hfits
  | remove window =>
      cases window with
      | none => exact none_proceeds h rfl rfl
      | some w => exact remove_proceeds h
  | rebuild => exact rebuild_fits h hfits

theorem fits_of_serves (h : DeskInv s l) (hserves : Serves s call) : Fits s call := by
  cases call with
  | create type => trivial
  | addToTop window =>
      cases window with
      | none => trivial
      | some w => exact fits_addToTop h hserves
  | addToBottom window =>
      cases window with
      | none => trivial
      | some w => exact fits_addToBottom h hserves
  | updateDesktop3 window =>
      cases window with
      | none => trivial
      | some w => exact fits_updateDesktop3 h hserves
  | remove window => cases window <;> trivial
  | rebuild => exact fits_rebuild h hserves

/-- In every run of calls on overlapped windows, from the empty list on, the calls return, keep
the list in order and raise what they are to raise if and only if each of them fits. -/
theorem z_order_iff {calls : List DeskCall}
    (hdomain : Guarded deskStep OnOverlapped emptyDesktop calls) :
    Guarded deskStep Serves emptyDesktop calls ↔ Guarded deskStep Fits emptyDesktop calls := by
  have hiff : ∀ s call, (∃ l, DeskInv s l) →
      (OnOverlapped s call ∧ Serves s call ↔ OnOverlapped s call ∧ Fits s call) := by
    rintro s call ⟨l, h⟩
    constructor
    · exact fun ⟨hon, hserves⟩ => ⟨hon, fits_of_serves h hserves⟩
    · exact fun ⟨hon, hfits⟩ => ⟨hon, (proceeds_of_fits h hon hfits).serves⟩
  have hkeep : ∀ s call o t, (∃ l, DeskInv s l) → OnOverlapped s call ∧ Serves s call →
      deskStep s call = .ok (o, t) → ∃ l, DeskInv t l := by
    rintro s call o t ⟨l, h⟩ ⟨hon, hserves⟩ hstep
    obtain ⟨t', l', hproceeds, hinv, _⟩ := proceeds_of_fits h hon (fits_of_serves h hserves)
    rw [hstep] at hproceeds
    obtain ⟨rfl, rfl⟩ := Prod.mk.inj (Except.ok.inj hproceeds)
    exact ⟨l', hinv⟩
  have hboth := guarded_iff (fun s => ∃ l, DeskInv s l) hiff hkeep
    ⟨[], deskInv_emptyDesktop⟩ calls
  constructor
  · exact fun hserves => (hboth.mp (hdomain.and hserves)).imp fun _ _ h => h.2
  · exact fun hfits => (hboth.mpr (hdomain.and hfits)).imp fun _ _ h => h.2

def oneWindow : List DeskCall :=
  [.create WT_OVERLAPPED, .addToTop (some 0)]

instance (d : Desktop) (w : Nat) : Decidable (InTable d w) :=
  decidable_of_iff (∃ slot ∈ List.range WINDOW_COUNT_MAX, d.windowList slot = some w)
    (by simp only [InTable, List.mem_range])

instance (s : DeskSystem) (call : DeskCall) : Decidable (OnOverlapped s call) :=
  match h : callWindow call with
  | none => isTrue fun w hw => by
      rw [h] at hw
      cases hw
  | some w =>
      decidable_of_iff (InTable s.desktop w ∧ (s.desktop.window w).type = WT_OVERLAPPED)
        (by simp [OnOverlapped, h])

theorem z_order_iff_oneWindow : Guarded deskStep Serves emptyDesktop oneWindow := by
  have hdomain : Guarded deskStep OnOverlapped emptyDesktop oneWindow := by decide +kernel
  apply (z_order_iff hdomain).mpr
  refine guarded_cons trivial rfl (guarded_singleton ?_)
  intro _ v hv
  have hempty : zOrder (registerWindow (createWindow emptyDesktop.desktop WT_OVERLAPPED) 0) = [] := by
    decide +kernel
  change v ∈ zOrder (registerWindow (createWindow emptyDesktop.desktop WT_OVERLAPPED) 0) at hv
  rw [hempty] at hv
  cases hv

def raiseBottom : List DeskCall :=
  [.create WT_OVERLAPPED, .create WT_OVERLAPPED, .addToTop (some 0), .addToTop (some 1),
    .updateDesktop3 (some 0)]

/-- The raised window has left the list, although it lives. -/
theorem raise_loses_window :
    Guarded deskStep OnOverlapped emptyDesktop raiseBottom ∧
      ¬ Guarded deskStep Serves emptyDesktop raiseBottom := by
  refine ⟨by decide +kernel, fun hserves => ?_⟩
  have hfacts : (run deskStep emptyDesktop raiseBottom).toOption.map (fun r =>
      (r.2.desktop.firstWindow, r.2.desktop.next 1, r.2.managed 0,
        decide ((r.2.desktop.window 0).Live))) = some (some 1, none, true, true) := by
    decide +kernel
  cases hrun : run deskStep emptyDesktop raiseBottom with
  | error e =>
      rw [hrun] at hfacts
      cases hfacts
  | ok r =>
      obtain ⟨outs, t⟩ := r
      rw [hrun] at hfacts
      simp only [Except.toOption, Option.map_some, Option.some.injEq, Prod.mk.injEq,
        decide_eq_true_eq] at hfacts
      obtain ⟨hfirst, hnext, hmanaged, hlive⟩ := hfacts
      have hinOrder : InOrder t := by
        refine run_invariant InOrder ?_ deskInv_emptyDesktop.inOrder hserves hrun
        rintro s call o t' _ ⟨t'', hstep, hgood, _⟩ hstep'
        rw [hstep] at hstep'
        obtain ⟨_, rfl⟩ := Prod.mk.inj (Except.ok.inj hstep')
        exact hgood
      obtain ⟨l, hfollows, _, hcount⟩ := hinOrder
      have hlist : Follows t.desktop.next t.desktop.firstWindow [1] := by
        rw [hfirst]
        refine .cons 1 [] ?_
        rw [hnext]
        exact .nil
      have honce := hcount 0 hmanaged hlive
      rw [hfollows.unique hlist] at honce
      cases honce

end Gramado.Ds.ZOrder
