import Gramado.Ds.ZOrder
import Mathlib.Data.Finset.Card

/-! The table of registered windows. -/

namespace Gramado.Ds.Registry

open Ds.ZOrder Library.Run

def WT_SIMPLE : Nat := 1
def WT_BUTTON : Nat := 8

inductive Control where
  | minimize
  | maximize
  | close
deriving DecidableEq

/-- The fields of `gws_window_d` that its registration and its destruction use, besides those
of the list. -/
structure Entry where
  id : Int
  titlebar : Option Nat
  controls : Control → Int
  control : Option Control

/-- `registered` is not stored by the server: it holds the windows that have been given a slot
of the table. -/
structure Table where
  z : ZOrder.Desktop
  entry : Nat → Entry
  rootWindow : Option Nat
  registered : Finset Nat

def setEntry (r : Table) (w : Nat) (e : Entry) : Table :=
  { r with entry := Function.update r.entry w e }

def createObject (r : Table) (type : Nat) (control : Option Control) : Table :=
  setEntry { r with z := ZOrder.createWindow r.z type } r.z.count ⟨-1, none, fun _ => 0, control⟩

def putInSlot (r : Table) (slot w : Nat) : Table :=
  { setEntry r w { r.entry w with id := slot } with
    z := { r.z with windowList := Function.update r.z.windowList slot (some w) }
    registered := insert w r.registered }

def countWindow (r : Table) : Table :=
  { r with z := { r.z with windowsCount := r.z.windowsCount + 1 } }

def emptySlot (r : Table) : Option Nat :=
  (List.range WINDOW_COUNT_MAX).find? fun slot => (r.z.windowList slot).isNone

/-- The windows are counted before the limit is checked, and never uncounted. -/
def registerWindow (r : Table) (window : Option Nat) : Int × Table :=
  match window with
  | none => (-1, r)
  | some w =>
      if WINDOW_COUNT_MAX ≤ (countWindow r).z.windowsCount then (-1, countWindow r)
      else
        match emptySlot (countWindow r) with
        | none => (-1, countWindow r)
        | some slot => (slot, putInSlot (countWindow r) slot w)

def getWindowFromWid (r : Table) (wid : Int) : Option Nat :=
  if wid < 0 ∨ (WINDOW_COUNT_MAX : Int) ≤ wid then none
  else (r.z.windowList wid.toNat).filter fun w => (r.z.window w).magic = WINDOW_MAGIC

def killWindow (r : Table) (w : Nat) : Table :=
  { r with z := kill r.z w }

def killValid (r : Table) (window : Option Nat) : Table :=
  match window with
  | none => r
  | some w => if (r.z.window w).magic = WINDOW_MAGIC then killWindow r w else r

def clearSlots (r : Table) (w : Nat) : Table :=
  { r with
    z := { r.z with windowList := fun slot => (r.z.windowList slot).filter fun v => v ≠ w } }

def destroyTitlebar (r : Table) (w : Nat) : Table :=
  match (r.entry w).titlebar with
  | none => r
  | some t =>
      if (r.z.window t).magic ≠ WINDOW_MAGIC then r
      else
        [Control.minimize, .maximize, .close].foldl
          (fun r' c => killValid r' (getWindowFromWid r' ((r.entry t).controls c)))
          (killWindow r t)

/-- The list of overlapped windows, which is built again after the destruction of one of them,
is no part of the table. -/
def destroyWindowByWid (r : Table) (wid : Int) : Int × Table :=
  match getWindowFromWid r wid with
  | none => (-1, r)
  | some w =>
      if r.rootWindow = some w then (-1, r)
      else if (r.z.window w).type ≠ WT_OVERLAPPED then
        if (r.entry w).control ≠ none then (-1, r)
        else (0, killWindow (clearSlots r w) w)
      else (0, killWindow (clearSlots (destroyTitlebar r w) w) w)

def destroySlot (r : Table) (slot : Nat) : Table :=
  match r.z.windowList slot with
  | none => r
  | some w =>
      if (r.z.window w).used = true ∧ (r.z.window w).magic = WINDOW_MAGIC then
        (destroyWindowByWid r (r.entry w).id).2
      else r

def destroyAllWindows (r : Table) : Table :=
  (List.range WINDOW_COUNT_MAX).foldl destroySlot r

def setControl (r : Table) (t : Nat) (c : Control) (wid : Int) : Table :=
  setEntry r t { r.entry t with controls := Function.update (r.entry t).controls c wid }

def createControls (r : Table) (t : Nat) : List Control → Table
  | [] => r
  | c :: cs =>
      let w := r.z.count
      let made := registerWindow (createObject r WT_BUTTON (some c)) (some w)
      if made.1 < 0 then made.2
      else createControls (setControl made.2 t c made.1) t cs

def clearControls (r : Table) (t : Nat) : Table :=
  setEntry r t { r.entry t with controls := fun _ => -1 }

def setTitlebar (r : Table) (w t : Nat) : Table :=
  setEntry r w { r.entry w with titlebar := some t }

def doCreateControls (r : Table) (t : Nat) : Table :=
  createControls (clearControls r t) t [.minimize, .maximize, .close]

def doCreateTitlebar (r : Table) (parent : Nat) : Option Nat × Table :=
  if (r.z.window parent).magic ≠ WINDOW_MAGIC then (none, r)
  else
    let t := r.z.count
    (some t, setTitlebar (doCreateControls (createObject r WT_SIMPLE none) t) parent t)

/-- The state and the style of a window, as far as its frame depends on them. -/
structure FrameStyle where
  fullscreen : Bool
  statusbar : Bool

def framed (r : Table) (parent window : Option Nat) : Option Nat :=
  match parent, window with
  | some p, some w =>
      if (r.z.window p).Live ∧ (r.z.window w).Live ∧ (r.z.window w).type = WT_OVERLAPPED then some w
      else none
  | _, _ => none

def createStatusbar (r : Table) : Int × Table :=
  registerWindow (createObject r WT_SIMPLE none) (some r.z.count)

def createTitlebar (r : Table) (w : Nat) : Int × Table :=
  registerWindow (doCreateTitlebar r w).2 (doCreateTitlebar r w).1

/-- The parts of an overlapped window's frame. Other windows have frames without windows. -/
def doCreateWindowFrame (r : Table) (parent window : Option Nat) (style : FrameStyle) :
    Table :=
  match framed r parent window with
  | none => r
  | some w =>
      let made := if style.fullscreen then (0, r) else createTitlebar r w
      if made.1 < 0 then made.2
      else if style.statusbar then (createStatusbar made.2).2
      else made.2

def defineInitialRootWindow (r : Table) (window : Option Nat) : Int × Table :=
  match window with
  | none => (-1, r)
  | some w =>
      if (r.z.window w).magic ≠ WINDOW_MAGIC then (-1, r)
      else (0, { r with rootWindow := some w })

inductive Call where
  | create (type : Nat)
  | createFrame (parent window : Option Nat) (style : FrameStyle)
  | defineRoot (window : Option Nat)
  | register (window : Option Nat)
  | destroy (wid : Int)
  | destroyAll

def serve (r : Table) : Call → Int × Table
  | .create type => (0, createObject r type none)
  | .createFrame parent window style => (0, doCreateWindowFrame r parent window style)
  | .defineRoot window => defineInitialRootWindow r window
  | .register window => registerWindow r window
  | .destroy wid => destroyWindowByWid r wid
  | .destroyAll => (0, destroyAllWindows r)

def step (r : Table) (call : Call) : Except String (Int × Table) := .ok (serve r call)

def emptyRegistry : Table :=
  ⟨emptyDesktop.desktop, fun _ => ⟨0, none, fun _ => 0, none⟩, none, ∅⟩

def alive (r : Table) : Finset Nat :=
  r.registered.filter fun w => (r.z.window w).Live

/-- Each live registered window sits in the slot of its wid only, no slot points to a dead
window, and the counter counts the live registered windows. -/
structure Consistent (r : Table) : Prop where
  placed : ∀ w ∈ alive r, ∃ slot < WINDOW_COUNT_MAX, (r.entry w).id = slot ∧
    ∀ i < WINDOW_COUNT_MAX, r.z.windowList i = some w ↔ i = slot
  noDead : ∀ slot < WINDOW_COUNT_MAX, ∀ w, r.z.windowList slot = some w → (r.z.window w).Live
  counted : r.z.windowsCount = (alive r).card

/-- The call leaves the table consistent, and a window is refused only if the table is full of
live ones. -/
def Meets (r : Table) (call : Call) : Prop :=
  Consistent (serve r call).2 ∧
    ∀ w, call = .register (some w) → (serve r call).1 < 0 → (alive r).card = WINDOW_COUNT_MAX

/-- The window that a wid is to destroy, unless it is the root window or a control. -/
def target (r : Table) (wid : Int) : Option Nat :=
  (getWindowFromWid r wid).filter fun w =>
    r.rootWindow ≠ some w ∧
      ((r.z.window w).type = WT_OVERLAPPED ∨ (r.entry w).control = none)

def parts (r : Table) (parent window : Option Nat) (style : FrameStyle) : Nat :=
  match framed r parent window with
  | none => 0
  | some _ => (if style.fullscreen then 0 else 4) + (if style.statusbar then 1 else 0)

/-- When a call keeps the table consistent: it destroys no window, and it registers live windows
that are in no slot, fewer than `WINDOW_COUNT_MAX` of them in all. -/
def Fits (r : Table) : Call → Prop
  | .createFrame parent window style =>
      r.z.windowsCount + parts r parent window style < WINDOW_COUNT_MAX
  | .register (some w) =>
      r.z.windowsCount + 1 < WINDOW_COUNT_MAX ∧ (r.z.window w).Live ∧
        ∀ slot < WINDOW_COUNT_MAX, r.z.windowList slot ≠ some w
  | .destroy wid => target r wid = none
  | .destroyAll => ∀ slot < WINDOW_COUNT_MAX, target r slot = none
  | _ => True

variable {r r' : Table} {w : Nat}

/-- What is true of the table as long as no call has gone wrong. -/
structure Sound (r : Table) : Prop where
  placed : ∀ w ∈ r.registered, ∃ slot < WINDOW_COUNT_MAX, (r.entry w).id = slot ∧
    r.z.windowList slot = some w
  listed : ∀ slot < WINDOW_COUNT_MAX, ∀ w, r.z.windowList slot = some w →
    w ∈ r.registered ∧ (r.entry w).id = slot
  live : ∀ w ∈ r.registered, (r.z.window w).Live
  allocated : ∀ w, (r.z.window w).Live → w < r.z.count
  counted : r.z.windowsCount = r.registered.card
  admitted : r.z.windowsCount < WINDOW_COUNT_MAX

/-- The counter has run ahead of the live registered windows. -/
structure Behind (r : Table) : Prop where
  allocated : ∀ w ∈ r.registered, w < r.z.count
  ahead : (alive r).card < r.z.windowsCount

theorem Sound.alive_eq (h : Sound r) : alive r = r.registered := Finset.filter_true_of_mem h.live

theorem Sound.consistent (h : Sound r) : Consistent r := by
  refine ⟨fun w hw => ?_, fun slot hslot w hin => h.live w (h.listed slot hslot w hin).1, ?_⟩
  · rw [h.alive_eq] at hw
    obtain ⟨slot, hslot, hid, hin⟩ := h.placed w hw
    refine ⟨slot, hslot, hid, fun i hi => ⟨fun hi' => ?_, fun heq => ?_⟩⟩
    · have hid' := (h.listed i hi w hi').2
      omega
    · rw [heq]
      exact hin
  · rw [h.alive_eq]
    exact h.counted

theorem Behind.not_consistent (h : Behind r) : ¬ Consistent r := by
  intro hconsistent
  have hahead := h.ahead
  rw [hconsistent.counted] at hahead
  exact Nat.lt_irrefl _ hahead

theorem registerWindow_cases (r : Table) (w : Nat) :
    (registerWindow r (some w) = (-1, countWindow r) ∧ (r.z.windowsCount + 1 < WINDOW_COUNT_MAX →
        ∀ slot < WINDOW_COUNT_MAX, r.z.windowList slot ≠ none)) ∨
    ∃ slot < WINDOW_COUNT_MAX, r.z.windowList slot = none ∧
      r.z.windowsCount + 1 < WINDOW_COUNT_MAX ∧
      registerWindow r (some w) = ((slot : Int), putInSlot (countWindow r) slot w) := by
  rw [registerWindow]
  by_cases hfull : WINDOW_COUNT_MAX ≤ (countWindow r).z.windowsCount
  · rw [if_pos hfull]
    exact .inl ⟨rfl, fun h => absurd h (Nat.not_lt.mpr hfull)⟩
  · rw [if_neg hfull]
    cases hslot : emptySlot (countWindow r) with
    | none =>
        refine .inl ⟨rfl, fun _ slot hlt hnone => ?_⟩
        have hall := List.find?_eq_none.mp hslot slot (List.mem_range.mpr hlt)
        exact hall (by rw [countWindow]; exact Option.isNone_iff_eq_none.mpr hnone)
    | some slot =>
        refine .inr ⟨slot, List.mem_range.mp (List.mem_of_find?_eq_some hslot), ?_,
          Nat.lt_of_not_le hfull, rfl⟩
        have hnone := List.find?_some hslot
        exact Option.isNone_iff_eq_none.mp hnone

theorem Sound.exists_empty (h : Sound r) : ∃ slot < WINDOW_COUNT_MAX, r.z.windowList slot = none := by
  by_contra hfull
  push Not at hfull
  have hwindow : ∀ slot < WINDOW_COUNT_MAX,
      r.z.windowList slot = some ((r.z.windowList slot).getD 0) := by
    intro slot hslot
    obtain ⟨w, hw⟩ := Option.ne_none_iff_exists'.mp (hfull slot hslot)
    rw [hw]
    rfl
  have hcard : (Finset.range WINDOW_COUNT_MAX).card ≤ r.registered.card := by
    apply Finset.card_le_card_of_injOn fun slot => (r.z.windowList slot).getD 0
    · intro slot hslot
      have hlt := Finset.mem_range.mp hslot
      exact (h.listed slot hlt _ (hwindow slot hlt)).1
    · intro slot hslot slot' hslot' heq
      have hid := (h.listed slot (Finset.mem_range.mp hslot) _
        (hwindow slot (Finset.mem_range.mp hslot))).2
      have hid' := (h.listed slot' (Finset.mem_range.mp hslot') _
        (hwindow slot' (Finset.mem_range.mp hslot'))).2
      dsimp only at heq
      rw [heq] at hid
      omega
  rw [Finset.card_range, ← h.counted] at hcard
  exact Nat.not_le.mpr h.admitted hcard

theorem Sound.not_registered (h : Sound r)
    (hlisted : ∀ slot < WINDOW_COUNT_MAX, r.z.windowList slot ≠ some w) : w ∉ r.registered := by
  intro hw
  obtain ⟨slot, hslot, _, hin⟩ := h.placed w hw
  exact hlisted slot hslot hin

theorem entry_putInSlot_id (r : Table) (slot w v : Nat) :
    ((putInSlot r slot w).entry v).id = if v = w then (slot : Int) else (r.entry v).id := by
  change (Function.update r.entry w _ v).id = _
  rw [Function.update_apply]
  split <;> rfl

theorem windowList_putInSlot (r : Table) (slot w i : Nat) :
    (putInSlot r slot w).z.windowList i = if i = slot then some w else r.z.windowList i :=
  Function.update_apply ..

variable {slot n t v : Nat} {e : Entry} {wid : Int} {slots : List Nat} {call : Call}

theorem sound_putInSlot (h : Sound r) (hslot : slot < WINDOW_COUNT_MAX)
    (hempty : r.z.windowList slot = none) (hroom : r.z.windowsCount + 1 < WINDOW_COUNT_MAX)
    (hlive : (r.z.window w).Live) (hw : w ∉ r.registered) :
    Sound (putInSlot (countWindow r) slot w) := by
  constructor
  · intro v hv
    rw [entry_putInSlot_id]
    rcases Finset.mem_insert.mp hv with rfl | hv
    · exact ⟨slot, hslot, if_pos rfl, Function.update_self ..⟩
    · obtain ⟨i, hi, hid, hin⟩ := h.placed v hv
      refine ⟨i, hi, ?_, ?_⟩
      · rw [if_neg (ne_of_mem_of_not_mem hv hw)]
        exact hid
      · have hne : i ≠ slot := by
          rintro rfl
          rw [hempty] at hin
          cases hin
        exact (Function.update_of_ne hne ..).trans hin
  · intro i hi v hin
    rw [windowList_putInSlot] at hin
    rw [entry_putInSlot_id]
    split at hin
    · rename_i heq
      cases hin
      exact ⟨Finset.mem_insert_self .., by rw [if_pos rfl, heq]⟩
    · obtain ⟨hv, hid⟩ := h.listed i hi v hin
      refine ⟨Finset.mem_insert_of_mem hv, ?_⟩
      rw [if_neg (ne_of_mem_of_not_mem hv hw)]
      exact hid
  · intro v hv
    rcases Finset.mem_insert.mp hv with rfl | hv
    · exact hlive
    · exact h.live v hv
  · exact h.allocated
  · change r.z.windowsCount + 1 = (insert w r.registered).card
    rw [Finset.card_insert_of_notMem hw, h.counted]
  · exact hroom

theorem sound_registerWindow (h : Sound r) (hroom : r.z.windowsCount + 1 < WINDOW_COUNT_MAX)
    (hlive : (r.z.window w).Live) (hw : w ∉ r.registered) :
    Sound (registerWindow r (some w)).2 ∧ 0 ≤ (registerWindow r (some w)).1 ∧
      (registerWindow r (some w)).2.z.windowsCount = r.z.windowsCount + 1 := by
  rcases registerWindow_cases r w with ⟨_, hfull⟩ | ⟨slot, hslot, hempty, _, heq⟩
  · obtain ⟨slot, hslot, hempty⟩ := h.exists_empty
    exact absurd hempty (hfull hroom slot hslot)
  · rw [heq]
    exact ⟨sound_putInSlot h hslot hempty hroom hlive hw, Int.natCast_nonneg slot, rfl⟩

theorem alive_putInSlot_subset (r : Table) (slot w : Nat) :
    alive (putInSlot (countWindow r) slot w) ⊆ insert w (alive r) := by
  intro v hv
  obtain ⟨hv, hlive⟩ := Finset.mem_filter.mp hv
  rcases Finset.mem_insert.mp hv with rfl | hv
  · exact Finset.mem_insert_self ..
  · exact Finset.mem_insert_of_mem (Finset.mem_filter.mpr ⟨hv, hlive⟩)

theorem Behind.registerWindow (h : Behind r) (hw : w < r.z.count) :
    Behind (registerWindow r (some w)).2 := by
  rcases registerWindow_cases r w with ⟨heq, _⟩ | ⟨slot, _, _, _, heq⟩
  · rw [heq]
    exact ⟨h.allocated, Nat.lt_succ_of_lt h.ahead⟩
  · rw [heq]
    constructor
    · intro v hv
      rcases Finset.mem_insert.mp hv with rfl | hv
      · exact hw
      · exact h.allocated v hv
    · have hcard := Finset.card_le_card (alive_putInSlot_subset r slot w)
      have hinsert := Finset.card_insert_le w (alive r)
      have hahead := h.ahead
      change (alive (putInSlot (countWindow r) slot w)).card < r.z.windowsCount + 1
      omega

theorem Sound.registered_lt (h : Sound r) (hw : w ∈ r.registered) : w < r.z.count :=
  h.allocated w (h.live w hw)

theorem Sound.behind_countWindow (h : Sound r) : Behind (countWindow r) := by
  refine ⟨fun v hv => h.registered_lt hv, ?_⟩
  change (alive r).card < r.z.windowsCount + 1
  rw [h.alive_eq, h.counted]
  exact Nat.lt_succ_self _

def Progress (r : Table) (n : Nat) : Prop :=
  Sound r ∧ r.z.windowsCount = n ∨ Behind r ∧ WINDOW_COUNT_MAX ≤ n

theorem Progress.grow {m : Nat} (h : Progress r n) (hn : WINDOW_COUNT_MAX ≤ n) (hm : n ≤ m) :
    Progress r m := by
  rcases h with ⟨hsound, hcount⟩ | ⟨hbehind, _⟩
  · have := hsound.admitted
    omega
  · exact .inr ⟨hbehind, Nat.le_trans hn hm⟩

theorem Progress.keeps_consistent (h : Progress r n) : Consistent r ↔ n < WINDOW_COUNT_MAX := by
  rcases h with ⟨hsound, hcount⟩ | ⟨hbehind, hn⟩
  · rw [← hcount]
    exact iff_of_true hsound.consistent hsound.admitted
  · exact iff_of_false hbehind.not_consistent (Nat.not_lt.mpr hn)

structure Pending (r : Table) (t : Nat) : Prop where
  live : (r.z.window t).Live
  fresh : t ∉ r.registered
  allocated : t < r.z.count

theorem sound_setEntry (h : Sound r) (hid : e.id = (r.entry w).id) : Sound (setEntry r w e) := by
  have hids : ∀ v, ((setEntry r w e).entry v).id = (r.entry v).id := by
    intro v
    change (Function.update r.entry w e v).id = _
    rcases eq_or_ne v w with rfl | hne
    · rw [Function.update_self, hid]
    · rw [Function.update_of_ne hne]
  constructor
  · intro v hv
    rw [hids]
    exact h.placed v hv
  · intro slot hslot v hin
    rw [hids]
    exact h.listed slot hslot v hin
  · exact h.live
  · exact h.allocated
  · exact h.counted
  · exact h.admitted

theorem Progress.setEntry (h : Progress r n) (hid : e.id = (r.entry w).id) :
    Progress (setEntry r w e) n := by
  rcases h with ⟨hsound, hcount⟩ | ⟨hbehind, hn⟩
  · exact .inl ⟨sound_setEntry hsound hid, hcount⟩
  · exact .inr ⟨⟨hbehind.allocated, hbehind.ahead⟩, hn⟩

theorem Pending.setEntry (h : Pending r t) (w : Nat) (e : Entry) : Pending (setEntry r w e) t :=
  ⟨h.live, h.fresh, h.allocated⟩

section Creation

variable (type : Nat) (control : Option Control)

theorem window_createObject (hv : v ≠ r.z.count) :
    (createObject r type control).z.window v = r.z.window v :=
  Function.update_of_ne hv ..

theorem live_createObject : ((createObject r type control).z.window r.z.count).Live := by
  change (Function.update r.z.window r.z.count (newWindow type) r.z.count).Live
  rw [Function.update_self]
  exact ⟨rfl, rfl⟩

theorem entry_createObject (hv : v ≠ r.z.count) :
    (createObject r type control).entry v = r.entry v :=
  Function.update_of_ne hv ..

theorem sound_createObject (h : Sound r) : Sound (createObject r type control) := by
  have hold : ∀ v ∈ r.registered, v ≠ r.z.count := fun v hv => Nat.ne_of_lt (h.registered_lt hv)
  constructor
  · intro v hv
    rw [entry_createObject type control (hold v hv)]
    exact h.placed v hv
  · intro slot hslot v hin
    obtain ⟨hv, hid⟩ := h.listed slot hslot v hin
    rw [entry_createObject type control (hold v hv)]
    exact ⟨hv, hid⟩
  · intro v hv
    rw [window_createObject type control (hold v hv)]
    exact h.live v hv
  · intro v hlive
    rcases eq_or_ne v r.z.count with rfl | hne
    · exact Nat.lt_succ_self _
    · rw [window_createObject type control hne] at hlive
      exact Nat.lt_succ_of_lt (h.allocated v hlive)
  · exact h.counted
  · exact h.admitted

theorem behind_createObject (h : Behind r) : Behind (createObject r type control) := by
  refine ⟨fun v hv => Nat.lt_succ_of_lt (h.allocated v hv), ?_⟩
  have halive : alive (createObject r type control) = alive r := by
    apply Finset.filter_congr
    intro v hv
    rw [window_createObject type control (Nat.ne_of_lt (h.allocated v hv))]
  rw [halive]
  exact h.ahead

theorem Progress.registered_lt (h : Progress r n) (hw : w ∈ r.registered) : w < r.z.count := by
  rcases h with ⟨hsound, _⟩ | ⟨hbehind, _⟩
  · exact hsound.registered_lt hw
  · exact hbehind.allocated w hw

theorem Progress.createObject (h : Progress r n) : Progress (createObject r type control) n ∧
      Pending (Registry.createObject r type control) r.z.count := by
  refine ⟨?_, live_createObject type control, fun hmem => ?_, Nat.lt_succ_self _⟩
  · rcases h with ⟨hsound, hcount⟩ | ⟨hbehind, hn⟩
    · exact .inl ⟨sound_createObject type control hsound, hcount⟩
    · exact .inr ⟨behind_createObject type control hbehind, hn⟩
  · exact Nat.lt_irrefl _ (h.registered_lt hmem)

theorem Pending.createObject (h : Pending r t) : Pending (createObject r type control) t := by
  refine ⟨?_, h.fresh, Nat.lt_succ_of_lt h.allocated⟩
  rw [window_createObject type control (Nat.ne_of_lt h.allocated)]
  exact h.live

end Creation

theorem Pending.registerWindow (h : Pending r t) (hne : t ≠ w) :
    Pending (registerWindow r (some w)).2 t := by
  rcases registerWindow_cases r w with ⟨heq, _⟩ | ⟨slot, _, _, _, heq⟩
  · rw [heq]
    exact ⟨h.live, h.fresh, h.allocated⟩
  · rw [heq]
    refine ⟨h.live, fun hmem => ?_, h.allocated⟩
    rcases Finset.mem_insert.mp hmem with heq' | hmem
    · exact hne heq'
    · exact h.fresh hmem

theorem Progress.registerWindow (h : Progress r n) (hw : Pending r w) :
    Progress (registerWindow r (some w)).2 (n + 1) ∧
      ((Registry.registerWindow r (some w)).1 < 0 → WINDOW_COUNT_MAX ≤ n + 1) := by
  rcases h with ⟨hsound, hcount⟩ | ⟨hbehind, hn⟩
  · by_cases hroom : r.z.windowsCount + 1 < WINDOW_COUNT_MAX
    · obtain ⟨hsound', hout, hcount'⟩ := sound_registerWindow hsound hroom hw.live hw.fresh
      exact ⟨.inl ⟨hsound', by rw [hcount', hcount]⟩, fun hneg => absurd hout (Int.not_le.mpr hneg)⟩
    · have hfull : WINDOW_COUNT_MAX ≤ n + 1 := by
        rw [← hcount]
        exact Nat.not_lt.mp hroom
      refine ⟨.inr ⟨?_, hfull⟩, fun _ => hfull⟩
      rcases registerWindow_cases r w with ⟨heq, _⟩ | ⟨_, _, _, hroom', _⟩
      · rw [heq]
        exact hsound.behind_countWindow
      · exact absurd hroom' hroom
  · have hfull := Nat.le_succ_of_le hn
    exact ⟨.inr ⟨hbehind.registerWindow hw.allocated, hfull⟩, fun _ => hfull⟩

theorem createControls_progress (cs : List Control) (h : Progress r n) (ht : Pending r t) :
    Progress (createControls r t cs) (n + cs.length) ∧ Pending (createControls r t cs) t := by
  induction cs generalizing r n with
  | nil => exact ⟨h, ht⟩
  | cons c cs ih =>
      obtain ⟨hcreate, hnew⟩ := h.createObject WT_BUTTON (some c)
      obtain ⟨hmade, hrefused⟩ := hcreate.registerWindow hnew
      have hpending := (ht.createObject WT_BUTTON (some c)).registerWindow
        (Nat.ne_of_lt ht.allocated)
      rw [createControls, List.length_cons]
      split
      · rename_i hneg
        exact ⟨hmade.grow (hrefused hneg) (by omega), hpending⟩
      · have hset : Progress (setControl
            (registerWindow (createObject r WT_BUTTON (some c)) (some r.z.count)).2 t c
            (registerWindow (createObject r WT_BUTTON (some c)) (some r.z.count)).1) (n + 1) :=
          hmade.setEntry rfl
        have hrest := ih hset (hpending.setEntry t _)
        rw [Nat.add_assoc, Nat.add_comm 1] at hrest
        exact hrest

theorem doCreateControls_progress (h : Progress r n) (ht : Pending r t) :
    Progress (doCreateControls r t) (n + 3) ∧ Pending (doCreateControls r t) t := by
  apply createControls_progress [.minimize, .maximize, .close]
  · exact h.setEntry rfl
  · exact ht.setEntry t _

theorem createTitlebar_progress (h : Progress r n) (hw : (r.z.window w).Live) :
    Progress (createTitlebar r w).2 (n + 4) ∧
      ((createTitlebar r w).1 < 0 → WINDOW_COUNT_MAX ≤ n + 4) := by
  obtain ⟨hcreate, hnew⟩ := h.createObject WT_SIMPLE none
  obtain ⟨hcontrols, ht⟩ := doCreateControls_progress hcreate hnew
  have hframe : Progress (setTitlebar (doCreateControls (createObject r WT_SIMPLE none) r.z.count)
      w r.z.count) (n + 3) := hcontrols.setEntry rfl
  rw [createTitlebar, doCreateTitlebar, if_neg (not_not.mpr hw.2)]
  exact hframe.registerWindow (ht.setEntry w _)

theorem createStatusbar_progress (h : Progress r n) : Progress (createStatusbar r).2 (n + 1) := by
  obtain ⟨hcreate, hnew⟩ := h.createObject WT_SIMPLE none
  exact (hcreate.registerWindow hnew).1

theorem framed_live {parent window : Option Nat} (h : framed r parent window = some w) :
    (r.z.window w).Live := by
  unfold framed at h
  split at h
  · split at h
    · rename_i hlive
      cases h
      exact hlive.2.1
    · cases h
  · cases h

theorem doCreateWindowFrame_progress (h : Progress r n) (parent window : Option Nat)
    (style : FrameStyle) :
    Progress (doCreateWindowFrame r parent window style) (n + parts r parent window style) := by
  rw [doCreateWindowFrame, parts]
  cases hframed : framed r parent window with
  | none => exact h
  | some w =>
      have htitlebar : ∃ made : Int × Table,
          (if style.fullscreen then (0, r) else createTitlebar r w) = made ∧
          Progress made.2 (n + if style.fullscreen then 0 else 4) ∧
          (made.1 < 0 → WINDOW_COUNT_MAX ≤ n + if style.fullscreen then 0 else 4) := by
        split
        · exact ⟨_, rfl, h, fun hneg => by cases hneg⟩
        · obtain ⟨hmade, hrefused⟩ := createTitlebar_progress h (framed_live hframed)
          exact ⟨_, rfl, hmade, hrefused⟩
      obtain ⟨made, heq, hmade, hrefused⟩ := htitlebar
      dsimp only
      rw [heq, ← Nat.add_assoc]
      split
      · rename_i hneg
        exact hmade.grow (hrefused hneg) (Nat.le_add_right _ _)
      · split
        · exact createStatusbar_progress hmade
        · exact hmade

/-- A destruction registers and counts nothing, and revives no window. -/
structure Shrinks (r r' : Table) : Prop where
  registered : r'.registered = r.registered
  windowsCount : r'.z.windowsCount = r.z.windowsCount
  count : r'.z.count = r.z.count
  live : ∀ v, (r'.z.window v).Live → (r.z.window v).Live

theorem Shrinks.refl (r : Table) : Shrinks r r := ⟨rfl, rfl, rfl, fun _ h => h⟩

theorem Shrinks.trans {r'' : Table} (h : Shrinks r r') (h' : Shrinks r' r'') : Shrinks r r'' where
  registered := h'.registered.trans h.registered
  windowsCount := h'.windowsCount.trans h.windowsCount
  count := h'.count.trans h.count
  live v hv := h.live v (h'.live v hv)

theorem shrinks_foldl {α : Type*} {f : Table → α → Table} (hf : ∀ r a, Shrinks r (f r a))
    (l : List α) (r : Table) : Shrinks r (l.foldl f r) := by
  induction l generalizing r with
  | nil => exact .refl r
  | cons a l ih => exact (hf r a).trans (ih (f r a))

theorem not_live_killWindow (r : Table) (w : Nat) : ¬ ((killWindow r w).z.window w).Live := by
  intro hlive
  have hused := hlive.1
  change (Function.update r.z.window w _ w).used = true at hused
  rw [Function.update_self] at hused
  cases hused

theorem shrinks_killWindow (r : Table) (w : Nat) : Shrinks r (killWindow r w) := by
  refine ⟨rfl, rfl, rfl, fun v hv => ?_⟩
  rcases eq_or_ne v w with rfl | hne
  · exact absurd hv (not_live_killWindow r v)
  · have hsame : (killWindow r w).z.window v = r.z.window v := Function.update_of_ne hne ..
    rwa [hsame] at hv

theorem shrinks_killValid (r : Table) (window : Option Nat) : Shrinks r (killValid r window) := by
  unfold killValid
  split
  · exact .refl r
  split
  · exact shrinks_killWindow r _
  · exact .refl r

theorem shrinks_clearSlots (r : Table) (w : Nat) : Shrinks r (clearSlots r w) :=
  ⟨rfl, rfl, rfl, fun _ h => h⟩

theorem shrinks_destroyTitlebar (r : Table) (w : Nat) : Shrinks r (destroyTitlebar r w) := by
  unfold destroyTitlebar
  split
  · exact .refl r
  split
  · exact .refl r
  · rename_i t _ _
    exact (shrinks_killWindow r t).trans
      (shrinks_foldl (fun r' c => shrinks_killValid r' _) _ _)

theorem destroyWindowByWid_refused (h : target r wid = none) :
    destroyWindowByWid r wid = (-1, r) := by
  unfold target at h
  unfold destroyWindowByWid
  cases hw : getWindowFromWid r wid with
  | none => rfl
  | some w =>
      rw [hw, Option.filter_some] at h
      dsimp only
      split
      · rfl
      · rename_i hroot
        by_cases hoverlapped : (r.z.window w).type = WT_OVERLAPPED
        · rw [if_pos (decide_eq_true ⟨hroot, .inl hoverlapped⟩)] at h
          cases h
        · rw [if_pos hoverlapped, if_pos]
          intro hcontrol
          rw [if_pos (decide_eq_true ⟨hroot, .inr hcontrol⟩)] at h
          cases h

theorem destroyWindowByWid_target (h : target r wid = some w) :
    Shrinks r (destroyWindowByWid r wid).2 ∧ ¬ ((destroyWindowByWid r wid).2.z.window w).Live := by
  unfold target at h
  obtain ⟨hw, hkind⟩ := Option.filter_eq_some_iff.mp h
  obtain ⟨hroot, hkind⟩ := of_decide_eq_true hkind
  unfold destroyWindowByWid
  rw [hw]
  dsimp only
  rw [if_neg hroot]
  by_cases hoverlapped : (r.z.window w).type = WT_OVERLAPPED
  · rw [if_neg (not_not.mpr hoverlapped)]
    refine ⟨?_, not_live_killWindow _ w⟩
    exact ((shrinks_destroyTitlebar r w).trans (shrinks_clearSlots _ w)).trans
      (shrinks_killWindow _ w)
  · rw [if_pos hoverlapped, if_neg (not_not.mpr (hkind.resolve_left hoverlapped))]
    exact ⟨(shrinks_clearSlots r w).trans (shrinks_killWindow _ w), not_live_killWindow _ w⟩

theorem shrinks_destroyWindowByWid (r : Table) (wid : Int) :
    Shrinks r (destroyWindowByWid r wid).2 := by
  cases h : target r wid with
  | none =>
      rw [destroyWindowByWid_refused h]
      exact .refl r
  | some w => exact (destroyWindowByWid_target h).1

theorem shrinks_destroySlot (r : Table) (slot : Nat) : Shrinks r (destroySlot r slot) := by
  unfold destroySlot
  split
  · exact .refl r
  split
  · exact shrinks_destroyWindowByWid r _
  · exact .refl r

theorem Sound.behind_of_dead (h : Sound r) (hshrinks : Shrinks r r') (hw : w ∈ r.registered)
    (hdead : ¬ (r'.z.window w).Live) : Behind r' := by
  constructor
  · intro v hv
    rw [hshrinks.registered] at hv
    rw [hshrinks.count]
    exact h.registered_lt hv
  · rw [hshrinks.windowsCount, h.counted]
    apply Finset.card_lt_card
    rw [Finset.ssubset_iff_of_subset]
    · exact ⟨w, hw, fun hmem => hdead (Finset.mem_filter.mp hmem).2⟩
    · intro v hv
      rw [← hshrinks.registered]
      exact (Finset.mem_filter.mp hv).1

theorem Sound.target_registered (h : Sound r) (htarget : target r wid = some w) :
    w ∈ r.registered := by
  obtain ⟨hw, _⟩ := Option.filter_eq_some_iff.mp htarget
  unfold getWindowFromWid at hw
  split at hw
  · cases hw
  · rename_i hrange
    exact (h.listed wid.toNat (by omega) w (Option.filter_eq_some_iff.mp hw).1).1

theorem Sound.destroySlot_eq (h : Sound r) (hslot : slot < WINDOW_COUNT_MAX) :
    destroySlot r slot = (destroyWindowByWid r slot).2 := by
  rw [destroySlot]
  cases hin : r.z.windowList slot with
  | none =>
      have hnone : getWindowFromWid r slot = none := by
        rw [getWindowFromWid, Int.toNat_natCast, hin, Option.filter_none, ite_self]
      rw [destroyWindowByWid, hnone]
  | some w =>
      obtain ⟨hw, hid⟩ := h.listed slot hslot w hin
      have hlive := h.live w hw
      exact (if_pos hlive).trans (by rw [hid])

theorem Sound.destroySlots_refused (h : Sound r) (hslots : ∀ slot ∈ slots, slot < WINDOW_COUNT_MAX)
    (htarget : ∀ slot ∈ slots, target r (slot : Nat) = none) :
    slots.foldl destroySlot r = r := by
  induction slots with
  | nil => rfl
  | cons slot slots ih =>
      rw [List.foldl_cons, h.destroySlot_eq (hslots slot List.mem_cons_self),
        destroyWindowByWid_refused (htarget slot List.mem_cons_self)]
      exact ih (fun i hi => hslots i (List.mem_cons_of_mem _ hi))
        fun i hi => htarget i (List.mem_cons_of_mem _ hi)

theorem Sound.destroySlots_dead (h : Sound r) (hslots : ∀ slot ∈ slots, slot < WINDOW_COUNT_MAX)
    (hmem : slot ∈ slots) (htarget : target r slot ≠ none) :
    ∃ w ∈ r.registered, ¬ ((slots.foldl destroySlot r).z.window w).Live := by
  induction slots with
  | nil => cases hmem
  | cons i slots ih =>
      rw [List.foldl_cons, h.destroySlot_eq (hslots i List.mem_cons_self)]
      cases hi : target r i with
      | none =>
          rw [destroyWindowByWid_refused hi]
          rcases List.mem_cons.mp hmem with rfl | hmem
          · exact absurd hi htarget
          · exact ih (fun j hj => hslots j (List.mem_cons_of_mem _ hj)) hmem
      | some w =>
          obtain ⟨_, hdead⟩ := destroyWindowByWid_target hi
          exact ⟨w, h.target_registered hi, fun hlive =>
            hdead ((shrinks_foldl shrinks_destroySlot slots _).live w hlive)⟩

theorem Sound.destroyAll_dead (h : Sound r) (hslot : slot < WINDOW_COUNT_MAX)
    (htarget : target r slot ≠ none) : Behind (destroyAllWindows r) := by
  obtain ⟨w, hw, hdead⟩ := h.destroySlots_dead (fun _ hi => List.mem_range.mp hi)
    (List.mem_range.mpr hslot) htarget
  exact h.behind_of_dead (shrinks_foldl shrinks_destroySlot _ r) hw hdead

theorem Sound.register_misuse (h : Sound r)
    (hmisuse : ¬ ((r.z.window w).Live ∧ ∀ slot < WINDOW_COUNT_MAX, r.z.windowList slot ≠ some w)) :
    ¬ Consistent (registerWindow r (some w)).2 := by
  rcases registerWindow_cases r w with ⟨heq, _⟩ | ⟨slot, hslot, hempty, _, heq⟩
  · rw [heq]
    exact h.behind_countWindow.not_consistent
  · rw [heq]
    intro hconsistent
    have hnew : (putInSlot (countWindow r) slot w).z.windowList slot = some w := by
      rw [windowList_putInSlot, if_pos rfl]
    have hlive := hconsistent.noDead slot hslot w hnew
    refine hmisuse ⟨hlive, fun i hi hin => ?_⟩
    have hne : i ≠ slot := by
      rintro rfl
      rw [hempty] at hin
      cases hin
    have hold : (putInSlot (countWindow r) slot w).z.windowList i = some w := by
      rw [windowList_putInSlot, if_neg hne]
      exact hin
    obtain ⟨own, _, _, honly⟩ := hconsistent.placed w
      (Finset.mem_filter.mpr ⟨Finset.mem_insert_self .., hlive⟩)
    exact hne (((honly i hi).mp hold).trans ((honly slot hslot).mp hnew).symm)

theorem Sound.register_full (h : Sound r) (hfull : ¬ r.z.windowsCount + 1 < WINDOW_COUNT_MAX) :
    ¬ Consistent (registerWindow r (some w)).2 := by
  rcases registerWindow_cases r w with ⟨heq, _⟩ | ⟨_, _, _, hroom, _⟩
  · rw [heq]
    exact h.behind_countWindow.not_consistent
  · exact absurd hroom hfull

theorem sound_defineInitialRootWindow (h : Sound r) (window : Option Nat) :
    Sound (defineInitialRootWindow r window).2 := by
  unfold defineInitialRootWindow
  split
  · exact h
  split
  · exact h
  · exact ⟨h.placed, h.listed, h.live, h.allocated, h.counted, h.admitted⟩

theorem Sound.progress (h : Sound r) : Progress r r.z.windowsCount := .inl ⟨h, rfl⟩

theorem Sound.serve_fits (h : Sound r) (hfits : Fits r call) : Sound (serve r call).2 := by
  cases call with
  | create type => exact sound_createObject type none h
  | createFrame parent window style =>
      rcases doCreateWindowFrame_progress h.progress parent window style with
        ⟨hsound, _⟩ | ⟨_, hfull⟩
      · exact hsound
      · exact absurd hfits (Nat.not_lt.mpr hfull)
  | defineRoot window => exact sound_defineInitialRootWindow h window
  | register window =>
      cases window with
      | none => exact h
      | some w =>
          obtain ⟨hroom, hlive, hlisted⟩ := hfits
          exact (sound_registerWindow h hroom hlive (h.not_registered hlisted)).1
  | destroy wid =>
      rw [serve, destroyWindowByWid_refused hfits]
      exact h
  | destroyAll =>
      rw [serve, destroyAllWindows, h.destroySlots_refused (fun _ hi => List.mem_range.mp hi)
        fun slot hi => hfits slot (List.mem_range.mp hi)]
      exact h

theorem Sound.meets_of_fits (h : Sound r) (hfits : Fits r call) : Meets r call := by
  refine ⟨(h.serve_fits hfits).consistent, ?_⟩
  rintro w rfl hneg
  obtain ⟨hroom, hlive, hlisted⟩ := hfits
  exact absurd (sound_registerWindow h hroom hlive (h.not_registered hlisted)).2.1
    (Int.not_le.mpr hneg)

theorem Sound.fits_of_meets (h : Sound r) (hmeets : Meets r call) : Fits r call := by
  have hconsistent := hmeets.1
  cases call with
  | create type => trivial
  | createFrame parent window style =>
      exact (doCreateWindowFrame_progress h.progress parent window style).keeps_consistent.mp
        hconsistent
  | defineRoot window => trivial
  | register window =>
      cases window with
      | none => trivial
      | some w =>
          by_contra hmisfit
          by_cases hroom : r.z.windowsCount + 1 < WINDOW_COUNT_MAX
          · exact h.register_misuse (fun hgood => hmisfit ⟨hroom, hgood⟩) hconsistent
          · exact h.register_full hroom hconsistent
  | destroy wid =>
      cases htarget : target r wid with
      | none => exact htarget
      | some w =>
          obtain ⟨hshrinks, hdead⟩ := destroyWindowByWid_target htarget
          have hbehind := h.behind_of_dead hshrinks (h.target_registered htarget) hdead
          exact absurd hconsistent hbehind.not_consistent
  | destroyAll =>
      intro slot hslot
      by_contra htarget
      exact (h.destroyAll_dead hslot htarget).not_consistent hconsistent

theorem sound_emptyRegistry : Sound emptyRegistry := by
  refine ⟨fun w hw => ?_, fun slot _ w hin => ?_, fun w hw => ?_, fun w hlive => ?_, rfl, ?_⟩
  · exact absurd hw (Finset.notMem_empty w)
  · cases hin
  · exact absurd hw (Finset.notMem_empty w)
  · cases hlive.1
  · change 0 < WINDOW_COUNT_MAX
    decide +kernel

/-- In every run from the empty table, every call leaves the table consistent, and refuses a
window only because the table is full, if and only if every call fits. -/
theorem registry_iff (calls : List Call) :
    Guarded step Meets emptyRegistry calls ↔ Guarded step Fits emptyRegistry calls := by
  refine guarded_iff Sound (fun r call h => ⟨h.fits_of_meets, h.meets_of_fits⟩) ?_
    sound_emptyRegistry calls
  intro r call o t h hmeets hstep
  obtain ⟨rfl, rfl⟩ := Prod.mk.inj (Except.ok.inj hstep)
  exact h.serve_fits (h.fits_of_meets hmeets)

/-- The root window and an application's window with its frame, which is destroyed. -/
def destroyApplication : List Call :=
  [.create WT_SIMPLE, .defineRoot (some 0), .register (some 0), .create WT_OVERLAPPED,
    .createFrame (some 0) (some 1) ⟨false, false⟩, .register (some 1), .destroy 5]

/-- The title bar is dead and keeps its slot, and the counter still counts all six windows. -/
theorem destroyed_frame_stays :
    ∃ outs r, run step emptyRegistry destroyApplication = .ok (outs, r) ∧
      r.z.windowList 4 = some 2 ∧ r.z.windowsCount = 6 ∧ (alive r).card = 1 ∧
      ¬ Consistent r ∧ ¬ Guarded step Meets emptyRegistry destroyApplication := by
  have hfacts : (run step emptyRegistry destroyApplication).toOption.map (fun r =>
      (r.2.z.windowList 4, decide ((r.2.z.window 2).Live), r.2.z.windowsCount,
        (alive r.2).card)) = some (some 2, false, 6, 1) := by
    decide +kernel
  cases hrun : run step emptyRegistry destroyApplication with
  | error e =>
      rw [hrun] at hfacts
      cases hfacts
  | ok result =>
      obtain ⟨outs, r⟩ := result
      rw [hrun] at hfacts
      simp only [Except.toOption, Option.map_some, Option.some.injEq, Prod.mk.injEq,
        decide_eq_false_iff_not] at hfacts
      obtain ⟨hslot, hdead, hcount, hcard⟩ := hfacts
      have hspoilt : ¬ Consistent r := by
        intro hconsistent
        exact hdead (hconsistent.noDead 4 (by decide +kernel) 2 hslot)
      refine ⟨outs, r, rfl, hslot, hcount, hcard, hspoilt, fun hmeets => hspoilt ?_⟩
      refine run_invariant Consistent ?_ sound_emptyRegistry.consistent hmeets hrun
      intro r call o t _ hcall hstep
      obtain ⟨rfl, rfl⟩ := Prod.mk.inj (Except.ok.inj hstep)
      exact hcall.1

end Gramado.Ds.Registry
