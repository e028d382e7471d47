import Gramado.Gdi.WindowProxies

/-! The hit test on the proxies that the calls of the kernel build. -/

namespace Gramado.Gdi.ProxyHits

open Ds.Geometry Library.Topmost Gdi.WindowProxies

def wproxyIsInsideFrame (p : Wproxy) (x y : UInt64) : Bool :=
  p.l ≤ x && x ≤ p.l + p.w && p.t ≤ y && y ≤ p.t + p.h

def wproxyIsInsideClientArea (p : Wproxy) (x y : UInt64) : Bool :=
  p.caL ≤ x && x ≤ p.caL + p.caW && p.caT ≤ y && y ≤ p.caT + p.caH

/-- The proxies, which are numbered in the order of their creation, and the proxy of each thread.
The rest is a record of the calls: which proxies were set to expanded, which of them got memory
with the flag off, and which of them have a client area that is relative to the frame, either
because the frame was created at the corner of the screen or because the parameters were set. -/
structure System where
  kernel : Kernel
  thread : Nat → Option Nat
  expanded : Nat → Bool
  clean : Nat → Bool
  relative : Nat → Bool

inductive Call where
  | createThread (tid : Nat) (memory : Option Bool)
  | exitThread (tid : Nat)
  | create0 (tid : Int) (l t w h : UInt64) (memory : Option Bool)
  | setShell (tid : Int)
  | setExpanded (tid : Int)
  | setParameters (tid : Int) (l t w h caL caT caW caH : UInt64)
  | hitTest (x y : UInt64)

/-- The new proxy has the next number. The memory can be used up; what it has in the place of the
flag for the expanded area stays there. -/
def wproxyCreate0 (σ : System) (tid : Int) (l t w h : UInt64) (memory : Option Bool) :
    System × Option Nat :=
  if tid < 0 ∨ THREAD_COUNT_MAX ≤ tid then (σ, none)
  else
    match memory with
    | none => (σ, none)
    | some flag =>
        let a := σ.kernel.wproxies.length
        ({ σ with
            kernel :=
              { σ.kernel with
                wproxy := Function.update σ.kernel.wproxy a
                  { tid := tid.toNat, l := l, t := t, w := w, h := h
                    caL := l, caT := t, caW := w, caH := h
                    hitArea := .HIT_NONE, expandedNonclientArea := flag }
                wproxies := σ.kernel.wproxies ++ [a] }
            expanded := Function.update σ.expanded a false
            clean := Function.update σ.clean a (!flag)
            relative := Function.update σ.relative a (l == 0 && t == 0) }, some a)

def createThread (σ : System) (tid : Nat) (memory : Option Bool) : System :=
  let r := wproxyCreate0 σ tid 0 0 100 100 memory
  { r.1 with thread := Function.update r.1.thread tid r.2 }

def System.threadWproxy (σ : System) (tid : Int) : Option Nat :=
  if tid < 0 ∨ THREAD_COUNT_MAX ≤ tid then none else σ.thread tid.toNat

def wproxySetShell (σ : System) (tid : Int) : System :=
  match σ.threadWproxy tid with
  | none => σ
  | some a => { σ with kernel := { σ.kernel with shell := some a } }

def Wproxy.setExpanded (p : Wproxy) : Wproxy := { p with expandedNonclientArea := true }

def wproxySetExpandedNonclientArea (σ : System) (tid : Int) : System :=
  match σ.threadWproxy tid with
  | none => σ
  | some a =>
      { σ with
        kernel := σ.kernel.set a Wproxy.setExpanded
        expanded := Function.update σ.expanded a true }

def Wproxy.place (l t w h caL caT caW caH : UInt64) (p : Wproxy) : Wproxy :=
  { p with l := l, t := t, w := w, h := h, caL := caL, caT := caT, caW := caW, caH := caH }

def wproxySetParametersGivenTid (σ : System) (tid : Int) (l t w h caL caT caW caH : UInt64) :
    System :=
  match σ.threadWproxy tid with
  | none => σ
  | some a =>
      { σ with
        kernel := σ.kernel.set a (Wproxy.place l t w h caL caT caW caH)
        relative := Function.update σ.relative a true }

def step (σ : System) : Call → System
  | .createThread tid memory => createThread σ tid memory
  | .exitThread tid => { σ with thread := Function.update σ.thread tid none }
  | .create0 tid l t w h memory => (wproxyCreate0 σ tid l t w h memory).1
  | .setShell tid => wproxySetShell σ tid
  | .setExpanded tid => wproxySetExpandedNonclientArea σ tid
  | .setParameters tid l t w h caL caT caW caH =>
      wproxySetParametersGivenTid σ tid l t w h caL caT caW caH
  | .hitTest x y => { σ with kernel := wproxyHitTest00 σ.kernel x y }

def noWproxy : Wproxy where
  tid := 0
  l := 0
  t := 0
  w := 0
  h := 0
  caL := 0
  caT := 0
  caW := 0
  caH := 0
  hitArea := .HIT_NONE
  expandedNonclientArea := false

def start : System where
  kernel := { wproxy := fun _ => noWproxy, wproxies := [], shell := none, hover := none }
  thread _ := none
  expanded _ := false
  clean _ := true
  relative _ := true

/-- The closed rectangle of the frame has the point, and its sides do not pass the last number. -/
abbrev Covers (p : Wproxy) (x y : UInt64) : Prop :=
  (p.l.toNat ≤ x.toNat ∧ x.toNat ≤ p.l.toNat + p.w.toNat ∧ p.l.toNat + p.w.toNat < 2 ^ 64) ∧
    p.t.toNat ≤ y.toNat ∧ y.toNat ≤ p.t.toNat + p.h.toNat ∧ p.t.toNat + p.h.toNat < 2 ^ 64

def Ends (p : Wproxy) : Prop :=
  p.l.toNat + p.caL.toNat + p.caW.toNat < 2 ^ 64 ∧ p.t.toNat + p.caT.toNat + p.caH.toNat < 2 ^ 64

theorem closed_interval_iff (a d x : UInt64) : a ≤ x ∧ x ≤ a + d ↔
    a.toNat ≤ x.toNat ∧ x.toNat ≤ a.toNat + d.toNat ∧ a.toNat + d.toNat < 2 ^ 64 := by
  rw [UInt64.le_iff_toNat_le, UInt64.le_iff_toNat_le, UInt64.toNat_add]
  have ha := a.toNat_lt
  have hd := d.toNat_lt
  have hx := x.toNat_lt
  omega

theorem inFrame_iff (p : Wproxy) (x y : UInt64) : p.inFrame x y = true ↔ Covers p x y := by
  rw [Covers, ← closed_interval_iff, ← closed_interval_iff, Wproxy.inFrame]
  simp [and_assoc]

theorem inFrame_eq (p : Wproxy) (x y : UInt64) : p.inFrame x y = decide (Covers p x y) := by
  rw [Bool.eq_iff_iff, inFrame_iff, decide_eq_true_iff]

theorem interval_offset (l a d x : UInt64) (hx : l ≤ x)
    (hends : l.toNat + a.toNat + d.toNat < 2 ^ 64) :
    l + a ≤ x ∧ x ≤ l + (a + d) ↔ a ≤ x - l ∧ x - l ≤ a + d := by
  have hxl := UInt64.toNat_sub_of_le x l hx
  have hlt := x.toNat_lt
  simp only [UInt64.le_iff_toNat_le, UInt64.toNat_add, hxl] at hx ⊢
  omega

variable {σ : System}

theorem inClient_iff {p : Wproxy} {x y : UInt64} (hcovers : Covers p x y) (hends : Ends p) :
    p.inClient x y = true ↔ wproxyIsInsideClientArea p (x - p.l) (y - p.t) = true := by
  have hx := interval_offset p.l p.caL p.caW x (UInt64.le_iff_toNat_le.mpr hcovers.1.1) hends.1
  have hy := interval_offset p.t p.caT p.caH y (UInt64.le_iff_toNat_le.mpr hcovers.2.1) hends.2
  simp only [Wproxy.inClient, wproxyIsInsideClientArea, Bool.and_eq_true, decide_eq_true_iff,
    and_assoc]
  rw [← and_assoc, hx, hy, and_assoc]

/-- The flag is on if the proxy was set to expanded, or if its memory had it. -/
def Flagged (σ : System) : Prop :=
  ∀ a, (σ.kernel.wproxy a).expandedNonclientArea = (σ.expanded a || !σ.clean a)

theorem flagged_start : Flagged start := fun _ => rfl

theorem flagged_create0 (h : Flagged σ) (tid : Int) (l t w h' : UInt64) (memory : Option Bool) :
    Flagged (wproxyCreate0 σ tid l t w h' memory).1 := by
  unfold wproxyCreate0
  split
  · exact h
  · cases memory with
    | none => exact h
    | some flag =>
        intro a
        rcases eq_or_ne a σ.kernel.wproxies.length with rfl | hne
        · simp
        · simp [Function.update_of_ne hne, h a]

theorem flagged_set (h : Flagged σ) (a : Nat) (f : Wproxy → Wproxy) (relative : Nat → Bool)
    (hf : ∀ p, (f p).expandedNonclientArea = p.expandedNonclientArea) :
    Flagged { σ with kernel := σ.kernel.set a f, relative := relative } := by
  intro b
  rcases eq_or_ne b a with rfl | hne
  · simp [Kernel.set_self, hf, h b]
  · simp [Kernel.set_of_ne _ _ hne, h b]

theorem flagged_setExpanded (h : Flagged σ) (tid : Int) :
    Flagged (wproxySetExpandedNonclientArea σ tid) := by
  unfold wproxySetExpandedNonclientArea
  split
  · exact h
  · rename_i a _
    intro b
    rcases eq_or_ne b a with rfl | hne
    · simp [Kernel.set_self, Wproxy.setExpanded]
    · simp [Kernel.set_of_ne _ _ hne, Function.update_of_ne hne, h b]

theorem flagged_step (h : Flagged σ) (call : Call) : Flagged (step σ call) := by
  cases call with
  | createThread tid memory => exact flagged_create0 h tid 0 0 100 100 memory
  | exitThread tid => exact h
  | create0 tid l t w h' memory => exact flagged_create0 h tid l t w h' memory
  | setShell tid =>
      simp only [step, wproxySetShell]
      split
      · exact h
      · exact h
  | setExpanded tid => exact flagged_setExpanded h tid
  | setParameters tid l t w h' caL caT caW caH =>
      simp only [step, wproxySetParametersGivenTid]
      split
      · exact h
      · exact flagged_set h _ _ _ fun _ => rfl
  | hitTest x y =>
      intro a
      obtain ⟨area, ha⟩ := (sameProxies_hitTest σ.kernel x y).wproxy a
      simp only [step, ha]
      exact h a

theorem flagged_run (calls : List Call) : Flagged (calls.foldl step start) := by
  have hrun : ∀ σ, Flagged σ → Flagged (calls.foldl step σ) := by
    induction calls with
    | nil => exact fun _ h => h
    | cons call calls ih => exact fun σ h => ih (step σ call) (flagged_step h call)
  exact hrun start flagged_start

def selection (κ : Kernel) (hits : Wproxy → Bool) : Option Nat :=
  (κ.shell.filter fun a => hits (κ.wproxy a)).or (topmost (fun a => hits (κ.wproxy a)) κ.wproxies)

section Hits

variable {κ : Kernel} {x y : UInt64} {a : Nat}

theorem hitTest_shell (hshell : κ.shell = some a) (ha : Covers (κ.wproxy a) x y) :
    (wproxyHitTest00 κ x y).hover = some a ∧
      ((wproxyHitTest00 κ x y).wproxy a).hitArea = .HIT_CLIENT := by
  have hfilter : (κ.shell.filter fun a => (κ.wproxy a).inFrame x y) = some a := by
    rw [hshell, Option.filter_some, if_pos ((inFrame_iff _ x y).mpr ha)]
  rw [wproxyHitTest00, hfilter]
  dsimp only
  rw [Kernel.set_self]
  exact ⟨rfl, rfl⟩

theorem hitTest_list (hshell : ∀ b ∈ κ.shell, ¬ Covers (κ.wproxy b) x y) :
    (wproxyHitTest00 κ x y).hover = topmost (fun a => decide (Covers (κ.wproxy a) x y)) κ.wproxies ∧
      ∀ a ∈ (wproxyHitTest00 κ x y).hover,
        ((wproxyHitTest00 κ x y).wproxy a).hitArea = (κ.wproxy a).area x y := by
  have hfilter : (κ.shell.filter fun a => (κ.wproxy a).inFrame x y) = none := by
    rw [Option.filter_eq_none_iff]
    intro b hb hframe
    exact hshell b hb ((inFrame_iff _ x y).mp hframe)
  obtain ⟨-, hfound, harea⟩ := foldl_visit κ x y κ.wproxies
  simp only [inFrame_eq] at hfound
  rw [wproxyHitTest00, hfilter]
  exact ⟨hfound, harea⟩

theorem hitTest_hover (κ : Kernel) (x y : UInt64) :
    (wproxyHitTest00 κ x y).hover = selection κ fun p => decide (Covers p x y) := by
  by_cases hshell : ∃ a ∈ κ.shell, Covers (κ.wproxy a) x y
  · obtain ⟨a, ha, hcovers⟩ := hshell
    have hsome : κ.shell = some a := ha
    rw [(hitTest_shell ha hcovers).1, selection, hsome, Option.filter_some,
      if_pos (decide_eq_true hcovers), Option.some_or]
  · have hnone : ∀ b ∈ κ.shell, ¬ Covers (κ.wproxy b) x y := fun b hb hcovers =>
      hshell ⟨b, hb, hcovers⟩
    rw [(hitTest_list hnone).1, selection, Option.filter_eq_none_iff.mpr, Option.none_or]
    simpa using hnone

end Hits

/-- What the hit test finds at a point. The record of the calls says which flags were set. -/
structure HitsRightly (σ : System) (x y : UInt64) : Prop where
  selected : (wproxyHitTest00 σ.kernel x y).hover =
    selection σ.kernel fun p => decide (Covers p x y)
  shell : ∀ a ∈ σ.kernel.shell, Covers (σ.kernel.wproxy a) x y →
    ((wproxyHitTest00 σ.kernel x y).wproxy a).hitArea = .HIT_CLIENT
  area : (∀ b ∈ σ.kernel.shell, ¬ Covers (σ.kernel.wproxy b) x y) →
    ∀ a ∈ (wproxyHitTest00 σ.kernel x y).hover, σ.clean a = true → σ.relative a = true →
      ((wproxyHitTest00 σ.kernel x y).wproxy a).hitArea =
        if (σ.kernel.wproxy a).inClient x y = true ∧ σ.expanded a = false then .HIT_CLIENT
        else .HIT_FRAME
  client : ∀ a, Covers (σ.kernel.wproxy a) x y → Ends (σ.kernel.wproxy a) →
    ((σ.kernel.wproxy a).inClient x y = true ↔
      wproxyIsInsideClientArea (σ.kernel.wproxy a) (x - (σ.kernel.wproxy a).l)
        (y - (σ.kernel.wproxy a).t) = true)

/-- At every point, the hit test selects the shell, or else the last proxy of the list whose closed
frame has the point. The shell has a client area only; another proxy is hit in its client area,
which is relative to its frame, if it was not set to expanded. -/
theorem hit_run (calls : List Call) (x y : UInt64) :
    HitsRightly (calls.foldl step start) x y := by
  have hflagged := flagged_run calls
  generalize calls.foldl step start = σ at hflagged
  refine ⟨hitTest_hover σ.kernel x y, ?_, ?_, fun a => inClient_iff⟩
  · intro a ha hcovers
    exact (hitTest_shell ha hcovers).2
  · intro hshell a ha hclean _
    have hflag : (σ.kernel.wproxy a).expandedNonclientArea = σ.expanded a := by
      rw [hflagged a, hclean]
      simp
    rw [(hitTest_list hshell).2 a ha, Wproxy.area, hflag]

abbrev HalfOpen (p : Wproxy) (x y : UInt64) : Prop :=
  (p.l.toNat ≤ x.toNat ∧ x.toNat < p.l.toNat + p.w.toNat) ∧
    p.t.toNat ≤ y.toNat ∧ y.toNat < p.t.toNat + p.h.toNat

/-- The hit test with half-open frames and with the client areas of
`wproxy_is_inside_client_area`, for the shell too. -/
structure HitsHalfOpen (σ : System) (x y : UInt64) : Prop where
  selected : (wproxyHitTest00 σ.kernel x y).hover =
    selection σ.kernel fun p => decide (HalfOpen p x y)
  marked : ∀ a ∈ (wproxyHitTest00 σ.kernel x y).hover,
    ((wproxyHitTest00 σ.kernel x y).wproxy a).hitArea = .HIT_CLIENT ↔
      wproxyIsInsideClientArea (σ.kernel.wproxy a) x y = true ∧ σ.expanded a = false

/-- The right edge of a frame is hit, the shell is hit in its client area although it was set to
expanded, and the client area of a window lies in its frame. -/
theorem hits_not_halfOpen :
    ¬ HitsHalfOpen ([.createThread 0 (some false)].foldl step start) 100 50 ∧
      ¬ HitsHalfOpen ([.createThread 0 (some false), .setShell 0,
        .setExpanded 0].foldl step start) 10 10 ∧
      ¬ HitsHalfOpen ([.createThread 0 (some false),
        .setParameters 0 100 100 200 100 4 36 192 60].foldl step start) 150 150 := by
  refine ⟨fun h => absurd h.selected (by decide), fun h => ?_, fun h => ?_⟩
  · exact absurd ((h.marked 0 rfl).mp rfl).2 (by decide)
  · exact absurd ((h.marked 0 rfl).mp rfl).1 (by decide)

end Gramado.Gdi.ProxyHits
