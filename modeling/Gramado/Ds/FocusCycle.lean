import Gramado.Ds.Geometry
import Gramado.Library.LinkedList
import Gramado.Library.Orbit

/-! The Tab key and the focus of the children of a window. -/

namespace Gramado.Ds.FocusCycle

open Library.LinkedList Library.Orbit
open Ds.Geometry (WindowType)

def BS_RELEASED : Nat := 1
def BS_FOCUS : Nat := 2
def BS_DEFAULT : Nat := BS_RELEASED

structure Window where
  used : Bool
  valid : Bool
  type : WindowType
  parent : Option Nat
  childHead : Option Nat
  next : Option Nat
  status : Nat

/-- The windows, found by their addresses, and the windows that were drawn again. -/
structure Server where
  window : Nat → Window
  keyboardOwner : Option Nat
  redrawn : List Nat

def Server.setStatus (s : Server) (w status : Nat) : Server :=
  { s with window := Function.update s.window w { s.window w with status := status } }

def Server.redraw (s : Server) (w : Nat) : Server := { s with redrawn := s.redrawn ++ [w] }

def getFocus (s : Server) : Option Nat × Server :=
  match s.keyboardOwner with
  | none => (none, s)
  | some w =>
      if (s.window w).used = true ∧ (s.window w).valid = true then (some w, s)
      else (none, { s with keyboardOwner := none })

def IsControl (type : WindowType) : Prop :=
  type = .WT_BUTTON ∨ type = .WT_EDITBOX_SINGLE_LINE ∨ type = .WT_EDITBOX_MULTIPLE_LINES

instance (type : WindowType) : Decidable (IsControl type) :=
  inferInstanceAs (Decidable (_ ∨ _))

def resetOld (old : Nat) (s : Server) : Server :=
  if IsControl (s.window old).type then
    let s := if (s.window old).type = .WT_BUTTON then s.setStatus old BS_DEFAULT else s
    s.redraw old
  else s

def skipOld (s : Server) (old : Nat) (target : Option Nat) : Option Nat :=
  if target = some old then (s.window old).next else target

/-- The loop over the children; `none` if the fuel does not suffice. -/
def walk (old : Nat) : Nat → Option Nat → Server → Option Server
  | 0, _, _ => none
  | _ + 1, none, s => some s
  | n + 1, some target, s =>
      if (s.window target).valid = true then
        if IsControl (s.window target).type then
          some ((s.setStatus target BS_FOCUS).redraw target)
        else walk old n (skipOld s old (s.window target).next) s
      -- The next child is read for valid windows only.
      else walk old n (some target) s

def wmCycleFocus (fuel : Nat) (s : Server) : Option Server :=
  match getFocus s with
  | (none, s) => some s
  | (some old, s) =>
      if (s.window old).type = .WT_OVERLAPPED then some s
      else
        let s := resetOld old s
        match (s.window old).parent with
        | none => some s
        | some parent =>
            if (s.window parent).valid = false then some s
            else if (s.window parent).type ≠ .WT_OVERLAPPED then some s
            else walk old fuel (skipOld s old (s.window parent).childHead) s

def Tab (s s' : Server) : Prop := ∃ fuel, wmCycleFocus fuel s = some s'

def focus (s : Server) : Option Nat := (getFocus s).1

def Focusable (s : Server) (c : Nat) : Prop :=
  (s.window c).valid = true ∧ IsControl (s.window c).type

/-- Every member gets its turn before somebody gets a second one. -/
structure RoundRobin (members : Nat → Prop) (turn : Nat → Option Nat) : Prop where
  every : ∀ c, members c → ∃ i, turn i = some c
  fair : ∀ i j c, i < j → turn i = some c → turn j = some c →
    ∀ d, members d → ∃ l < j, turn l = some d

/-- Every Tab event is handled, and the events give the focus to all the children in turn. -/
def Cycles (s : Server) (children : List Nat) : Prop :=
  ∃ run : Nat → Server, run 0 = s ∧ (∀ n, Tab (run n) (run (n + 1))) ∧
    RoundRobin (fun c => c ∈ children ∧ Focusable s c) fun n => focus (run (n + 1))

structure FocusedChild (s : Server) (p old : Nat) (children : List Nat) : Prop where
  valid : (s.window p).valid = true
  overlapped : (s.window p).type = .WT_OVERLAPPED
  linked : Follows (fun w => (s.window w).next) (s.window p).childHead children
  owner : s.keyboardOwner = some old
  mem : old ∈ children
  parent : (s.window old).parent = some p

def Holds (s : Server) (old : Nat) : Prop :=
  ((s.window old).used = true ∧ (s.window old).valid = true) ∧
    (s.window old).type ≠ .WT_OVERLAPPED

/-- No other child can get the focus, and the loop does not come to a destroyed one. -/
def Alone (s : Server) (old : Nat) (children : List Nat) : Prop :=
  (Holds s old →
    ∀ c ∈ children, (s.window c).valid = true ∧ (IsControl (s.window c).type → c = old)) ∧
  (¬ Holds s old → ∀ c ∈ children, ¬ Focusable s c)

variable {fuel : Nat}

section Walk

variable {s s' : Server} {old p c : Nat} {children : List Nat} {start : Option Nat}

/-- Two servers whose windows differ in their states alone. -/
structure Same (s s' : Server) : Prop where
  used : ∀ w, (s'.window w).used = (s.window w).used
  valid : ∀ w, (s'.window w).valid = (s.window w).valid
  type : ∀ w, (s'.window w).type = (s.window w).type
  parent : ∀ w, (s'.window w).parent = (s.window w).parent
  childHead : ∀ w, (s'.window w).childHead = (s.window w).childHead
  next : ∀ w, (s'.window w).next = (s.window w).next
  owner : s'.keyboardOwner = s.keyboardOwner

theorem Same.refl (s : Server) : Same s s := by
  constructor <;> simp

theorem Same.trans {s'' : Server} (h : Same s s') (h' : Same s' s'') : Same s s'' := by
  constructor <;> simp [h.used, h.valid, h.type, h.parent, h.childHead, h.next, h.owner, h'.used,
    h'.valid, h'.type, h'.parent, h'.childHead, h'.next, h'.owner]

theorem same_setStatus (s : Server) (w status : Nat) : Same s (s.setStatus w status) := by
  have hwindow : ∀ v, (s.setStatus w status).window v = s.window v ∨
      (s.setStatus w status).window v = { s.window v with status := status } := by
    intro v
    rcases eq_or_ne v w with rfl | hne
    · exact .inr (Function.update_self ..)
    · exact .inl (Function.update_of_ne hne ..)
  constructor
  iterate 6
    intro v
    rcases hwindow v with h | h <;> rw [h]
  rfl

theorem same_redraw (s : Server) (w : Nat) : Same s (s.redraw w) := by
  constructor <;> simp [Server.redraw]

theorem same_resetOld (old : Nat) (s : Server) : Same s (resetOld old s) := by
  rw [resetOld]
  split
  · dsimp only
    split
    · exact (same_setStatus s old BS_DEFAULT).trans (same_redraw _ old)
    · exact same_redraw s old
  · exact Same.refl s

theorem Same.focus_eq (h : Same s s') : focus s' = focus s := by
  rw [focus, focus, getFocus, getFocus, h.owner]
  cases s.keyboardOwner with
  | none => rfl
  | some w =>
      simp only [h.used, h.valid]
      split <;> rfl

theorem walk_same (h : walk old fuel start s = some s') : Same s s' := by
  induction fuel generalizing start with
  | zero => simp [walk] at h
  | succ fuel ih =>
      cases start with
      | none =>
          rw [walk, Option.some.injEq] at h
          exact h ▸ Same.refl s
      | some target =>
          rw [walk] at h
          split at h
          · split at h
            · rw [Option.some.injEq] at h
              exact h ▸ (same_setStatus s target BS_FOCUS).trans (same_redraw _ target)
            · exact ih h
          · exact ih h

theorem walk_stuck (hc : (s.window c).valid = false) (fuel : Nat) :
    walk old fuel (some c) s = none := by
  induction fuel with
  | zero => rw [walk]
  | succ fuel ih => rw [walk, if_neg (by simp [hc]), ih]

def stop (s : Server) (old : Nat) (children : List Nat) : Option Nat :=
  children.find? fun c => c ≠ old ∧ ((s.window c).valid = false ∨ IsControl (s.window c).type)

/-- The loop comes to the end of the list, or to the child at which it stops. -/
def Outcome (s : Server) (old : Nat) (start : Option Nat) : Option Nat → Prop
  | none => ∃ fuel, walk old fuel start s = some s
  | some c =>
      if (s.window c).valid = true then
        ∃ fuel, walk old fuel start s = some ((s.setStatus c BS_FOCUS).redraw c)
      else ∀ fuel, walk old fuel start s = none

theorem walk_pass (hc : (s.window c).valid = true) (hcontrol : ¬ IsControl (s.window c).type)
    (fuel : Nat) :
    walk old (fuel + 1) (some c) s = walk old fuel (skipOld s old (s.window c).next) s := by
  rw [walk, if_pos hc, if_neg hcontrol]

theorem Outcome.pass {found : Option Nat}
    (h : Outcome s old (skipOld s old (s.window c).next) found)
    (hc : (s.window c).valid = true) (hcontrol : ¬ IsControl (s.window c).type) :
    Outcome s old (some c) found := by
  cases found with
  | none =>
      obtain ⟨fuel, hwalk⟩ := h
      exact ⟨fuel + 1, by rw [walk_pass hc hcontrol, hwalk]⟩
  | some d =>
      rw [Outcome] at h ⊢
      split
      · rename_i hd
        rw [if_pos hd] at h
        obtain ⟨fuel, hwalk⟩ := h
        exact ⟨fuel + 1, by rw [walk_pass hc hcontrol, hwalk]⟩
      · rename_i hd
        rw [if_neg hd] at h
        intro fuel
        cases fuel with
        | zero => rw [walk]
        | succ fuel => rw [walk_pass hc hcontrol, h]

theorem walk_outcome (h : Follows (fun w => (s.window w).next) start children) :
    Outcome s old (skipOld s old start) (stop s old children) := by
  induction h with
  | nil => exact ⟨1, by simp [skipOld, walk]⟩
  | cons a l hrest ih =>
      rcases eq_or_ne a old with rfl | hne
      · have hnext : (s.window a).next ≠ some a := by
          intro hself
          have hcycle : Reaches (fun w => (s.window w).next) (s.window a).next [a]
              (s.window a).next := ⟨hself, rfl⟩
          exact hrest.not_cyclic hcycle
        rw [skipOld, if_neg hnext] at ih
        rw [skipOld, if_pos rfl]
        simpa [stop] using ih
      · rw [skipOld, if_neg (by simpa using hne)]
        by_cases hvalid : (s.window a).valid = true
        · by_cases hcontrol : IsControl (s.window a).type
          · have hstop : stop s old (a :: l) = some a := by simp [stop, hne, hcontrol]
            rw [hstop, Outcome, if_pos hvalid]
            exact ⟨1, by rw [walk, if_pos hvalid, if_pos hcontrol]⟩
          · have hstop : stop s old (a :: l) = stop s old l := by simp [stop, hvalid, hcontrol]
            rw [hstop]
            exact ih.pass hvalid hcontrol
        · have hstop : stop s old (a :: l) = some a := by simp [stop, hne, hvalid]
          rw [hstop, Outcome, if_neg hvalid]
          exact walk_stuck (by simpa using hvalid)

end Walk

section Cycle

variable {s s' : Server} {old p c : Nat} {children : List Nat}

theorem FocusedChild.congr (h : FocusedChild s p old children) (hsame : Same s s') :
    FocusedChild s' p old children := by
  refine ⟨?_, ?_, ?_, ?_, h.mem, ?_⟩
  · rw [hsame.valid, h.valid]
  · rw [hsame.type, h.overlapped]
  · rw [hsame.childHead]
    exact h.linked.congr fun w _ => hsame.next w
  · rw [hsame.owner, h.owner]
  · rw [hsame.parent, h.parent]

theorem Holds.congr (h : Holds s old) (hsame : Same s s') : Holds s' old := by
  rw [Holds, hsame.used, hsame.valid, hsame.type]
  exact h

theorem Same.stop_eq (hsame : Same s s') : stop s' old children = stop s old children := by
  rw [stop, stop]
  simp only [hsame.valid, hsame.type]

theorem getFocus_eq (h : FocusedChild s p old children)
    (hlive : (s.window old).used = true ∧ (s.window old).valid = true) :
    getFocus s = (some old, s) := by
  rw [getFocus, h.owner]
  exact if_pos hlive

theorem wmCycleFocus_eq (h : FocusedChild s p old children) (hold : Holds s old) (fuel : Nat) :
    wmCycleFocus fuel s = walk old fuel
      (skipOld (resetOld old s) old ((resetOld old s).window p).childHead) (resetOld old s) := by
  have hsame := same_resetOld old s
  rw [wmCycleFocus, getFocus_eq h hold.1]
  simp only [if_neg hold.2]
  rw [hsame.parent, h.parent]
  simp only [hsame.valid, hsame.type, h.valid, h.overlapped]
  simp

theorem wmCycleFocus_of_not_holds (h : FocusedChild s p old children) (hold : ¬ Holds s old)
    (fuel : Nat) : wmCycleFocus fuel s = some (getFocus s).2 := by
  by_cases hlive : (s.window old).used = true ∧ (s.window old).valid = true
  · have htype : (s.window old).type = .WT_OVERLAPPED := by
      by_contra hne
      exact hold ⟨hlive, hne⟩
    rw [wmCycleFocus, getFocus_eq h hlive]
    exact if_pos htype
  · have hnone : getFocus s = (none, { s with keyboardOwner := none }) := by
      rw [getFocus, h.owner]
      exact if_neg hlive
    rw [wmCycleFocus, hnone]

theorem getFocus_again (s : Server) : getFocus (getFocus s).2 = getFocus s := by
  cases howner : s.keyboardOwner with
  | none => simp [getFocus, howner]
  | some w =>
      by_cases hlive : (s.window w).used = true ∧ (s.window w).valid = true
      · have hfocus : getFocus s = (some w, s) := by
          rw [getFocus, howner]
          exact if_pos hlive
        rw [hfocus, hfocus]
      · have hfocus : getFocus s = (none, { s with keyboardOwner := none }) := by
          rw [getFocus, howner]
          exact if_neg hlive
        rw [hfocus]
        rfl

theorem wmCycleFocus_again (s : Server) (fuel : Nat) :
    wmCycleFocus fuel (getFocus s).2 = wmCycleFocus fuel s := by
  rw [wmCycleFocus, getFocus_again]
  rfl

theorem wmCycleFocus_same (h : wmCycleFocus fuel s = some s') : Same (getFocus s).2 s' := by
  have hself : ∀ s₁ : Server, some s₁ = some s' → Same s₁ s' := by
    intro s₁ heq
    exact Option.some.inj heq ▸ Same.refl s₁
  rw [wmCycleFocus] at h
  cases hfocus : getFocus s with
  | mk found s₁ =>
      rw [hfocus] at h
      cases found with
      | none => exact hself _ h
      | some w =>
          dsimp only at h ⊢
          split at h
          · exact hself _ h
          · have hreset := same_resetOld w s₁
            split at h
            · exact hreset.trans (hself _ h)
            · split at h
              · exact hreset.trans (hself _ h)
              · split at h
                · exact hreset.trans (hself _ h)
                · exact hreset.trans (walk_same h)

theorem Tab.focus_eq (h : Tab s s') : focus s' = focus s := by
  obtain ⟨fuel, hcycle⟩ := h
  rw [(wmCycleFocus_same hcycle).focus_eq, focus, focus, getFocus_again]

theorem focus_run {run : Nat → Server} (hrun : ∀ n, Tab (run n) (run (n + 1))) (n : Nat) :
    focus (run n) = focus (run 0) := by
  induction n with
  | zero => rfl
  | succ n ih => rw [(hrun n).focus_eq, ih]

theorem stop_eq_none_iff : stop s old children = none ↔
    ∀ c ∈ children, c ≠ old → (s.window c).valid = true ∧ ¬ IsControl (s.window c).type := by
  simp [stop, List.find?_eq_none]

theorem focus_eq (h : FocusedChild s p old children) (hold : Holds s old) : focus s = some old := by
  rw [focus, getFocus_eq h hold.1]

theorem focus_eq_some (h : focus s = some c) :
    s.keyboardOwner = some c ∧ (s.window c).used = true ∧ (s.window c).valid = true := by
  rw [focus, getFocus] at h
  cases howner : s.keyboardOwner with
  | none => simp [howner] at h
  | some w =>
      simp only [howner] at h
      split at h
      · rename_i hlive
        obtain rfl : w = c := by simpa using h
        exact ⟨rfl, hlive⟩
      · simp at h

theorem not_overlapped_of_isControl {type : WindowType} (h : IsControl type) :
    type ≠ .WT_OVERLAPPED := by
  rcases h with rfl | rfl | rfl <;> decide

theorem tab_of_stop_none (h : FocusedChild s p old children) (hold : Holds s old)
    (hstop : stop s old children = none) : Tab s (resetOld old s) := by
  have hsame := same_resetOld old s
  have hwalk : Outcome _ old _ (stop _ old children) := walk_outcome (h.congr hsame).linked
  rw [hsame.stop_eq, hstop] at hwalk
  obtain ⟨fuel, hwalk⟩ := hwalk
  exact ⟨fuel, by rw [wmCycleFocus_eq h hold, hwalk]⟩

theorem valid_of_tab (h : FocusedChild s p old children) (hold : Holds s old) (htab : Tab s s')
    (hstop : stop s old children = some c) : (s.window c).valid = true := by
  have hsame := same_resetOld old s
  have hwalk : Outcome _ old _ (stop _ old children) := walk_outcome (h.congr hsame).linked
  rw [hsame.stop_eq, hstop, Outcome, hsame.valid] at hwalk
  obtain ⟨fuel, hcycle⟩ := htab
  by_contra hinvalid
  rw [if_neg hinvalid] at hwalk
  rw [wmCycleFocus_eq h hold, hwalk] at hcycle
  cases hcycle

theorem Alone.stop_eq_none (h : Alone s old children) (hold : Holds s old) :
    stop s old children = none := by
  rw [stop_eq_none_iff]
  intro c hc hne
  have halone := h.1 hold c hc
  exact ⟨halone.1, fun hcontrol => hne (halone.2 hcontrol)⟩

theorem Alone.congr (h : Alone s old children) (hsame : Same s s') : Alone s' old children := by
  have hback : Holds s' old ↔ Holds s old := by
    rw [Holds, Holds, hsame.used, hsame.valid, hsame.type]
  simpa only [Alone, Focusable, hback, hsame.valid, hsame.type] using h

theorem exists_tabs (h : FocusedChild s p old children) (halone : Alone s old children) :
    ∃ run : Nat → Server, run 0 = s ∧ ∀ n, Tab (run n) (run (n + 1)) := by
  by_cases hold : Holds s old
  · refine exists_run (P := fun s => FocusedChild s p old children ∧ Holds s old ∧
      Alone s old children) ?_ ⟨h, hold, halone⟩
    rintro s ⟨h, hold, halone⟩
    have hsame := same_resetOld old s
    exact ⟨resetOld old s, tab_of_stop_none h hold (halone.stop_eq_none hold), h.congr hsame,
      hold.congr hsame, halone.congr hsame⟩
  · refine exists_run (P := fun s => ∀ fuel, wmCycleFocus fuel s = some (getFocus s).2) ?_
      (wmCycleFocus_of_not_holds h hold)
    intro s hs
    refine ⟨(getFocus s).2, ⟨0, hs 0⟩, ?_⟩
    intro fuel
    rw [wmCycleFocus_again, hs, getFocus_again]

/-- The Tab key gives the focus to every child in turn exactly if there is no other child to give
it to. -/
theorem cycles_iff (s : Server) (p old : Nat) (children : List Nat)
    (h : FocusedChild s p old children) : Cycles s children ↔ Alone s old children := by
  constructor
  · rintro ⟨run, hstart, hrun, hturn⟩
    have hfocus : ∀ c ∈ children, Focusable s c → focus s = some c := by
      intro c hc hfocusable
      obtain ⟨n, hn⟩ := hturn.every c ⟨hc, hfocusable⟩
      rw [focus_run hrun, hstart] at hn
      exact hn
    constructor
    · intro hold c hc
      have hunique : ∀ d ∈ children, Focusable s d → d = old := by
        intro d hd hfocusable
        have hd' := hfocus d hd hfocusable
        rw [focus_eq h hold] at hd'
        exact (Option.some.inj hd').symm
      have hstop : stop s old children = none := by
        cases hstop : stop s old children with
        | none => rfl
        | some d =>
            have hvalid := valid_of_tab h hold (hstart ▸ hrun 0) hstop
            have hfound := List.find?_some hstop
            simp only [hvalid, Bool.true_eq_false, false_or, decide_eq_true_eq] at hfound
            exact (hfound.1 (hunique d (List.mem_of_find?_eq_some hstop)
              ⟨hvalid, hfound.2⟩)).elim
      rcases eq_or_ne c old with rfl | hne
      · exact ⟨hold.1.2, fun _ => rfl⟩
      · have hpass := stop_eq_none_iff.mp hstop c hc hne
        exact ⟨hpass.1, fun hcontrol => (hpass.2 hcontrol).elim⟩
    · intro hold c hc hfocusable
      obtain ⟨howner, hlive⟩ := focus_eq_some (hfocus c hc hfocusable)
      rw [h.owner] at howner
      obtain rfl := Option.some.inj howner
      exact hold ⟨hlive, not_overlapped_of_isControl hfocusable.2⟩
  · intro halone
    obtain ⟨run, hstart, hrun⟩ := exists_tabs h halone
    have hfocus : ∀ n, focus (run n) = focus s := fun n => by rw [focus_run hrun, hstart]
    have hmember : ∀ c ∈ children, Focusable s c → focus s = some c := by
      intro c hc hfocusable
      by_cases hold : Holds s old
      · rw [focus_eq h hold, (halone.1 hold c hc).2 hfocusable.2]
      · exact (halone.2 hold c hc hfocusable).elim
    refine ⟨run, hstart, hrun, ?_, ?_⟩
    · rintro c ⟨hc, hfocusable⟩
      exact ⟨0, by rw [hfocus, hmember c hc hfocusable]⟩
    · rintro i j c hij hi hj d ⟨hd, hfocusable⟩
      exact ⟨i, hij, by rw [hfocus, hmember d hd hfocusable]⟩

end Cycle

section Panel

/-- An overlapped window with two children. The first one is a button with the focus. -/
def panel (type : WindowType) (live : Bool) : Server where
  window := fun w =>
    match w with
    | 0 => ⟨true, true, .WT_OVERLAPPED, none, some 1, none, BS_DEFAULT⟩
    | 1 => ⟨true, true, .WT_BUTTON, some 0, none, some 2, BS_FOCUS⟩
    | _ => ⟨live, live, type, some 0, none, none, BS_DEFAULT⟩
  keyboardOwner := some 1
  redrawn := []

theorem focusedChild_panel (type : WindowType) (live : Bool) :
    FocusedChild (panel type live) 0 1 [1, 2] :=
  ⟨rfl, rfl, .cons 1 [2] (.cons 2 [] .nil), rfl, by simp, rfl⟩

theorem holds_panel (type : WindowType) (live : Bool) : Holds (panel type live) 1 := by
  simp [Holds, panel]

theorem cycles_panel : Cycles (panel .WT_SIMPLE true) [1, 2] := by
  refine (cycles_iff _ 0 1 [1, 2] (focusedChild_panel .WT_SIMPLE true)).mpr ⟨?_, ?_⟩
  · simp [panel, IsControl]
  · exact fun hold => (hold (holds_panel .WT_SIMPLE true)).elim

/-- Of two buttons the second one never gets the focus, and a destroyed one holds the Tab key
up. -/
theorem not_always_cycles : ¬ Cycles (panel .WT_BUTTON true) [1, 2] ∧
    ∀ s, ¬ Tab (panel .WT_BUTTON false) s := by
  constructor
  · rintro ⟨run, hstart, hrun, hturn⟩
    obtain ⟨n, hn⟩ := hturn.every 2 ⟨by simp, by simp [Focusable, panel, IsControl]⟩
    rw [focus_run hrun, hstart,
      focus_eq (focusedChild_panel .WT_BUTTON true) (holds_panel .WT_BUTTON true)] at hn
    simp at hn
  · intro s htab
    have hstop : stop (panel .WT_BUTTON false) 1 [1, 2] = some 2 := by
      simp [stop, panel]
    have hvalid := valid_of_tab (focusedChild_panel .WT_BUTTON false)
      (holds_panel .WT_BUTTON false) htab hstop
    simp [panel] at hvalid

end Panel

end Gramado.Ds.FocusCycle
