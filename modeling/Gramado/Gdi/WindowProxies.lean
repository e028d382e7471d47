import Gramado.Ds.Geometry
import Gramado.Library.Topmost

/-! The window proxies of the kernel. -/

namespace Gramado.Gdi.WindowProxies

open Ds.Geometry Library.Topmost

def THREAD_COUNT_MAX : Nat := 1024

inductive HitArea where
  | HIT_NONE
  | HIT_FRAME
  | HIT_CLIENT
  deriving DecidableEq, Repr

structure Wproxy where
  tid : Nat
  l : UInt64
  t : UInt64
  w : UInt64
  h : UInt64
  caL : UInt64
  caT : UInt64
  caW : UInt64
  caH : UInt64
  hitArea : HitArea
  expandedNonclientArea : Bool

/-- Each thread has one proxy, which is named by the thread. The list has the proxies in the order
in which they were created. -/
structure Kernel where
  wproxy : Nat → Wproxy
  wproxies : List Nat
  shell : Option Nat
  hover : Option Nat

def Kernel.set (κ : Kernel) (a : Nat) (f : Wproxy → Wproxy) : Kernel :=
  { κ with wproxy := Function.update κ.wproxy a (f (κ.wproxy a)) }

def Wproxy.inFrame (p : Wproxy) (x y : UInt64) : Bool :=
  p.l ≤ x && x ≤ p.l + p.w && p.t ≤ y && y ≤ p.t + p.h

def Wproxy.inClient (p : Wproxy) (x y : UInt64) : Bool :=
  p.l + p.caL ≤ x && x ≤ p.l + (p.caL + p.caW) && p.t + p.caT ≤ y && y ≤ p.t + (p.caT + p.caH)

def Wproxy.setHitArea (area : HitArea) (p : Wproxy) : Wproxy := { p with hitArea := area }

def Wproxy.area (p : Wproxy) (x y : UInt64) : HitArea :=
  if p.inClient x y = true ∧ p.expandedNonclientArea = false then .HIT_CLIENT else .HIT_FRAME

/-- A proxy that is created for a thread is put at the end of the list. The allocated memory is not
cleared, so that the flag for the expanded area can have any value. -/
def wproxyCreate0 (κ : Kernel) (tid : Nat) (l t w h : UInt64) (expanded : Bool) : Kernel :=
  if THREAD_COUNT_MAX ≤ tid then κ
  else
    { κ with
      wproxy := Function.update κ.wproxy tid
        { tid := tid, l := l, t := t, w := w, h := h, caL := l, caT := t, caW := w, caH := h
          hitArea := .HIT_NONE, expandedNonclientArea := expanded }
      wproxies := κ.wproxies ++ [tid] }

/-- What `create_thread` does for a thread in a free slot. -/
def createThread (κ : Kernel) (tid : Nat) (expanded : Bool) : Kernel :=
  if tid ∈ κ.wproxies then κ else wproxyCreate0 κ tid 0 0 100 100 expanded

def wproxySetShell (κ : Kernel) (tid : Nat) : Kernel :=
  if tid ∈ κ.wproxies then { κ with shell := some tid } else κ

def wproxySetExpandedNonclientArea (κ : Kernel) (tid : Nat) : Kernel :=
  if tid ∈ κ.wproxies then κ.set tid fun p => { p with expandedNonclientArea := true } else κ

def Wproxy.setParameters (m : ProxyMessage) (p : Wproxy) : Wproxy :=
  { p with
    l := m.left, t := m.top, w := m.width, h := m.height
    caL := m.clientLeft, caT := m.clientTop, caW := m.clientWidth, caH := m.clientHeight }

def wproxySetParametersGivenTid (κ : Kernel) (m : ProxyMessage) : Kernel :=
  if m.tid ∈ κ.wproxies then κ.set m.tid (Wproxy.setParameters m) else κ

def visit (x y : UInt64) (s : Kernel × Option Nat) (a : Nat) : Kernel × Option Nat :=
  if (s.1.wproxy a).inFrame x y = true then
    (s.1.set a (Wproxy.setHitArea ((s.1.wproxy a).area x y)), some a)
  else s

def wproxyHitTest00 (κ : Kernel) (x y : UInt64) : Kernel :=
  match κ.shell.filter fun a => (κ.wproxy a).inFrame x y with
  | some a => { κ.set a (Wproxy.setHitArea .HIT_CLIENT) with hover := some a }
  | none =>
      let r := κ.wproxies.foldl (visit x y) (κ, none)
      { r.1 with hover := r.2 }

def Kernel.hit (κ : Kernel) : Option (Nat × HitArea) :=
  κ.hover.map fun a => ((κ.wproxy a).tid, (κ.wproxy a).hitArea)

theorem Kernel.set_self (κ : Kernel) (a : Nat) (f : Wproxy → Wproxy) :
    (κ.set a f).wproxy a = f (κ.wproxy a) :=
  Function.update_self ..

theorem Kernel.set_of_ne (κ : Kernel) {a b : Nat} (f : Wproxy → Wproxy) (h : b ≠ a) :
    (κ.set a f).wproxy b = κ.wproxy b :=
  Function.update_of_ne h ..

section HitTest

variable {κ κ' : Kernel} {x y : UInt64} {a : Nat}

structure SameProxies (κ κ' : Kernel) : Prop where
  wproxy : ∀ a, ∃ area, κ'.wproxy a = (κ.wproxy a).setHitArea area
  wproxies : κ'.wproxies = κ.wproxies
  shell : κ'.shell = κ.shell

theorem SameProxies.refl (κ : Kernel) : SameProxies κ κ :=
  ⟨fun a => ⟨(κ.wproxy a).hitArea, rfl⟩, rfl, rfl⟩

theorem SameProxies.trans {κ'' : Kernel} (h : SameProxies κ κ') (h' : SameProxies κ' κ'') :
    SameProxies κ κ'' := by
  refine ⟨fun a => ?_, h'.wproxies.trans h.wproxies, h'.shell.trans h.shell⟩
  obtain ⟨area, ha⟩ := h.wproxy a
  obtain ⟨area', ha'⟩ := h'.wproxy a
  refine ⟨area', ?_⟩
  rw [ha', ha]
  rfl

theorem sameProxies_setHitArea (κ : Kernel) (a : Nat) (area : HitArea) :
    SameProxies κ (κ.set a (Wproxy.setHitArea area)) := by
  refine ⟨fun b => ?_, rfl, rfl⟩
  rcases eq_or_ne b a with rfl | hne
  · exact ⟨area, κ.set_self b _⟩
  · exact ⟨(κ.wproxy b).hitArea, κ.set_of_ne _ hne⟩

theorem SameProxies.inFrame (h : SameProxies κ κ') (a : Nat) (x y : UInt64) :
    (κ'.wproxy a).inFrame x y = (κ.wproxy a).inFrame x y := by
  obtain ⟨area, ha⟩ := h.wproxy a
  rw [ha]
  rfl

theorem SameProxies.area (h : SameProxies κ κ') (a : Nat) (x y : UInt64) :
    (κ'.wproxy a).area x y = (κ.wproxy a).area x y := by
  obtain ⟨area, ha⟩ := h.wproxy a
  rw [ha]
  rfl

theorem SameProxies.tid (h : SameProxies κ κ') (a : Nat) :
    (κ'.wproxy a).tid = (κ.wproxy a).tid := by
  obtain ⟨area, ha⟩ := h.wproxy a
  rw [ha]
  rfl

theorem foldl_visit (κ : Kernel) (x y : UInt64) (l : List Nat) :
    SameProxies κ (l.foldl (visit x y) (κ, none)).1 ∧
      (l.foldl (visit x y) (κ, none)).2 = topmost (fun a => (κ.wproxy a).inFrame x y) l ∧
      ∀ a ∈ (l.foldl (visit x y) (κ, none)).2,
        ((l.foldl (visit x y) (κ, none)).1.wproxy a).hitArea = (κ.wproxy a).area x y := by
  induction l using List.reverseRecOn with
  | nil => exact ⟨SameProxies.refl κ, rfl, fun a ha => by cases ha⟩
  | append_singleton l a ih =>
      obtain ⟨hsame, hfound, harea⟩ := ih
      rw [List.foldl_concat, topmost_concat]
      generalize l.foldl (visit x y) (κ, none) = s at hsame hfound harea
      rw [visit, hsame.inFrame]
      by_cases ha : (κ.wproxy a).inFrame x y = true
      · rw [if_pos ha, if_pos ha]
        refine ⟨hsame.trans (sameProxies_setHitArea s.1 a _), rfl, ?_⟩
        intro b hb
        obtain rfl := Option.some.inj hb
        rw [hsame.area]
        dsimp only
        rw [Kernel.set_self]
        rfl
      · rw [if_neg ha, if_neg ha]
        exact ⟨hsame, hfound, harea⟩

theorem sameProxies_hitTest (κ : Kernel) (x y : UInt64) :
    SameProxies κ (wproxyHitTest00 κ x y) := by
  rw [wproxyHitTest00]
  split
  · obtain ⟨hwproxy, hlist, hshell⟩ := sameProxies_setHitArea κ _ .HIT_CLIENT
    exact ⟨hwproxy, hlist, hshell⟩
  · obtain ⟨⟨hwproxy, hlist, hshell⟩, _, _⟩ := foldl_visit κ x y κ.wproxies
    exact ⟨hwproxy, hlist, hshell⟩

theorem hit_shell (hshell : κ.shell = some a) (ha : (κ.wproxy a).inFrame x y = true) :
    (wproxyHitTest00 κ x y).hit = some ((κ.wproxy a).tid, .HIT_CLIENT) := by
  have hfilter : (κ.shell.filter fun a => (κ.wproxy a).inFrame x y) = some a := by
    rw [hshell, Option.filter_some, if_pos ha]
  rw [wproxyHitTest00, hfilter, Kernel.hit, Option.map_some]
  dsimp only
  rw [Kernel.set_self]
  rfl

theorem hit_list (hshell : ∀ a, κ.shell = some a → ¬ (κ.wproxy a).inFrame x y = true) :
    (wproxyHitTest00 κ x y).hit =
      (topmost (fun a => (κ.wproxy a).inFrame x y) κ.wproxies).map fun a =>
        ((κ.wproxy a).tid, (κ.wproxy a).area x y) := by
  have hfilter : (κ.shell.filter fun a => (κ.wproxy a).inFrame x y) = none := by
    rw [Option.filter_eq_none_iff]
    exact fun a ha => hshell a ha
  obtain ⟨hsame, hfound, harea⟩ := foldl_visit κ x y κ.wproxies
  rw [wproxyHitTest00, hfilter, Kernel.hit]
  dsimp only
  rw [← hfound]
  cases htop : (κ.wproxies.foldl (visit x y) (κ, none)).2 with
  | none => rfl
  | some a =>
      rw [Option.map_some, Option.map_some, hsame.tid, harea a htop]

end HitTest

end Gramado.Gdi.WindowProxies
