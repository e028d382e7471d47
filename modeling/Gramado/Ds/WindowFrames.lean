import Gramado.Ds.Geometry
import Mathlib.Data.List.Nodup

/-! Title bars, controls and children keep their places in their windows. -/

namespace Gramado.Ds.WindowFrames

open Ds.Geometry

structure FrameOf (k : Desktop) (p t : Nat) : Prop where
  valid : (k.nodes p).valid = true
  overlapped : k.overlapped p = true
  titlebar : (k.nodes p).titlebar = some t

structure ChildOf (k : Desktop) (q p : Nat) : Prop where
  valid : (k.nodes q).valid = true
  isTitleBar : (k.nodes q).isTitleBar = false
  parent : (k.nodes q).parent = some p
  parentValid : (k.nodes p).valid = true
  overlapped : k.overlapped p = true

/-- The windows form a tree, in which the title bars belong to one window and the controls to one
title bar. -/
structure WellFormed (k : Desktop) : Prop where
  tree : ∃ depth : Nat → Nat, ∀ p q, (k.nodes p).parent = some q → depth q < depth p
  titlebar : ∀ p t, FrameOf k p t → (k.nodes t).isTitleBar = true ∧
    (k.nodes t).type = .WT_SIMPLE ∧ (k.nodes t).parent = some p
  titlebar_valid : ∀ p t, FrameOf k p t → (k.nodes t).valid = true
  control : ∀ p t c, FrameOf k p t → c ∈ k.controls t → (k.nodes c).isTitleBar = false ∧
    (k.nodes c).type = .WT_BUTTON ∧ (k.nodes c).parent = some t
  controls_nodup : ∀ p t, FrameOf k p t → (k.controls t).Nodup
  taskbar : ∀ p q, k.isTaskbar p = true → (k.nodes p).parent = some q →
    k.overlapped q = false ∧ (k.nodes q).isTitleBar = false

def Edges (box : Box) : Prop :=
  box.absoluteRight = box.absoluteX + box.width ∧
    box.absoluteBottom = box.absoluteY + box.height

def Inside (left top width height : Nat) (frame : Box) : Prop :=
  left + width ≤ frame.width.toNat ∧ top + height ≤ frame.height.toNat

instance (left top width height : Nat) (frame : Box) :
    Decidable (Inside left top width height frame) :=
  inferInstanceAs (Decidable (_ ∧ _))

/-- A control is at its place in the title bar, and inside the window. -/
structure ControlHolds (p t c : Nat) (b : Boxes) : Prop where
  x : (b c).absoluteX = (b t).absoluteX + (b c).left
  y : (b c).absoluteY = (b t).absoluteY + (b c).top
  inside : Inside ((b t).left.toNat + (b c).left.toNat) ((b t).top.toNat + (b c).top.toNat)
    (b c).width.toNat (b c).height.toNat (b p)

/-- A title bar is at its place in the window and inside the window, and so are its controls. -/
structure FrameHolds (k : Desktop) (p t : Nat) (b : Boxes) : Prop where
  x : (b t).absoluteX = (b p).absoluteX + (b t).left
  y : (b t).absoluteY = (b p).absoluteY + (b t).top
  inside : Inside (b t).left.toNat (b t).top.toNat (b t).width.toNat (b t).height.toNat (b p)
  controls : (k.nodes t).controlsInitialized = true → ∀ c ∈ k.controls t, ControlHolds p t c b

structure ChildHolds (k : Desktop) (q p : Nat) (b : Boxes) : Prop where
  x : (b q).absoluteX = (b p).absoluteX + (k.nodes p).clientLeft + (b q).left
  y : (b q).absoluteY = (b p).absoluteY + (k.nodes p).clientTop + (b q).top

structure Consistent (k : Desktop) (b : Boxes) : Prop where
  edges : ∀ q, (k.nodes q).valid = true → Edges (b q)
  frames : ∀ p t, FrameOf k p t → FrameHolds k p t b
  children : ∀ q p, ChildOf k q p → ChildHolds k q p b

section Tree

variable {k : Desktop} {p p' q t t' c : Nat}

theorem WellFormed.parent_ne (h : WellFormed k) (hp : (k.nodes p).parent = some q) : q ≠ p := by
  rintro rfl
  obtain ⟨depth, hdepth⟩ := h.tree
  exact Nat.lt_irrefl _ (hdepth _ _ hp)

theorem WellFormed.frame_unique (h : WellFormed k) (hf : FrameOf k p t) (hf' : FrameOf k p' t) :
    p = p' := by
  have hp := (h.titlebar p t hf).2.2
  rw [(h.titlebar p' t hf').2.2] at hp
  exact (Option.some.inj hp).symm

theorem WellFormed.control_unique (h : WellFormed k) (hf : FrameOf k p t)
    (hf' : FrameOf k p' t') (hc : c ∈ k.controls t) (hc' : c ∈ k.controls t') : t = t' := by
  have hp := (h.control p t c hf hc).2.2
  rw [(h.control p' t' c hf' hc').2.2] at hp
  exact (Option.some.inj hp).symm

theorem overlapped_iff : k.overlapped p = true ↔ (k.nodes p).type = .WT_OVERLAPPED := by
  rw [Desktop.overlapped, decide_eq_true_iff]

theorem WellFormed.titlebar_not_overlapped (h : WellFormed k) (hf : FrameOf k p t) :
    ¬ k.overlapped t = true := by
  rw [overlapped_iff, (h.titlebar p t hf).2.1]
  decide

theorem WellFormed.control_not_overlapped (h : WellFormed k) (hf : FrameOf k p t)
    (hc : c ∈ k.controls t) : ¬ k.overlapped c = true := by
  rw [overlapped_iff, (h.control p t c hf hc).2.1]
  decide

theorem WellFormed.control_ne_titlebar (h : WellFormed k) (hf : FrameOf k p t)
    (hf' : FrameOf k p' t') (hc : c ∈ k.controls t) : c ≠ t' := by
  rintro rfl
  have htrue := (h.titlebar p' c hf').1
  rw [(h.control p t c hf hc).1] at htrue
  cases htrue

theorem WellFormed.titlebar_ne (h : WellFormed k) (hf : FrameOf k p t) : t ≠ p :=
  (h.parent_ne (h.titlebar p t hf).2.2).symm

theorem WellFormed.window_notMem (h : WellFormed k) (hf : FrameOf k p t) : p ∉ k.controls t :=
  fun hp => h.control_not_overlapped hf hp hf.overlapped

theorem WellFormed.titlebar_notMem (h : WellFormed k) (hf : FrameOf k p t) : t ∉ k.controls t :=
  fun ht => h.control_ne_titlebar hf hf ht rfl

/-- What a call for a window changes: the window, its title bar and the controls. -/
def Affects (k : Desktop) (p q : Nat) : Prop :=
  q = p ∨ ∃ t, FrameOf k p t ∧ (q = t ∨ q ∈ k.controls t)

theorem affects_self (k : Desktop) (p : Nat) : Affects k p p := .inl rfl

theorem WellFormed.not_frame (h : WellFormed k) (hf : FrameOf k p t)
    (hq : q = p ∨ ¬ Affects k p q) : q ≠ t ∧ q ∉ k.controls t := by
  rcases hq with rfl | hq
  · exact ⟨(h.titlebar_ne hf).symm, h.window_notMem hf⟩
  · exact ⟨fun ht => hq (.inr ⟨t, hf, .inl ht⟩), fun ht => hq (.inr ⟨t, hf, .inr ht⟩)⟩

theorem WellFormed.not_affects_overlapped (h : WellFormed k) (hq : k.overlapped q = true)
    (hne : q ≠ p) : ¬ Affects k p q := by
  rintro (heq | ⟨t, hf, rfl | hc⟩)
  · exact hne heq
  · exact h.titlebar_not_overlapped hf hq
  · exact h.control_not_overlapped hf hc hq

theorem WellFormed.not_affects_titlebar (h : WellFormed k) (hf : FrameOf k q t) (hne : q ≠ p)
    (ht : t ≠ p) : ¬ Affects k p t := by
  rintro (heq | ⟨t', hf', rfl | hc⟩)
  · exact ht heq
  · exact hne (h.frame_unique hf hf')
  · exact h.control_ne_titlebar hf' hf hc rfl

theorem WellFormed.not_affects_control (h : WellFormed k) (hf : FrameOf k q t) (hne : q ≠ p)
    (hc : c ∈ k.controls t) (hcp : c ≠ p) : ¬ Affects k p c := by
  rintro (heq | ⟨t', hf', rfl | hc'⟩)
  · exact hcp heq
  · exact h.control_ne_titlebar hf hf' hc rfl
  · obtain rfl := h.control_unique hf hf' hc hc'
    exact hne (h.frame_unique hf hf')

theorem WellFormed.not_affects_child (h : WellFormed k) (hq : ChildOf k q t) (hne : q ≠ p) :
    ¬ Affects k p q := by
  rintro (heq | ⟨t', hf, rfl | hc⟩)
  · exact hne heq
  · have htrue := (h.titlebar p q hf).1
    rw [hq.isTitleBar] at htrue
    cases htrue
  · have hparent := (h.control p t' q hf hc).2.2
    rw [hq.parent] at hparent
    obtain rfl := Option.some.inj hparent
    exact h.titlebar_not_overlapped hf hq.overlapped

theorem WellFormed.not_affects_parent (h : WellFormed k) (hp : (k.nodes p).parent = some q) :
    ¬ Affects k p q := by
  obtain ⟨depth, hdepth⟩ := h.tree
  have hlt := hdepth p q hp
  rintro (heq | ⟨t, hf, rfl | hc⟩)
  · exact h.parent_ne hp heq
  · have hbar := hdepth q p (h.titlebar p q hf).2.2
    omega
  · have hbar := hdepth t p (h.titlebar p t hf).2.2
    have hcontrol := hdepth q t (h.control p t q hf hc).2.2
    omega

end Tree

section Local

variable {k : Desktop} {p q t : Nat} {b b' : Boxes}

structure FitsAround (k : Desktop) (p : Nat) (b : Boxes) : Prop where
  edges : ∀ q, Affects k p q → (k.nodes q).valid = true → Edges (b q)
  frame : ∀ t, FrameOf k p t → FrameHolds k p t b
  part : ∀ q t, FrameOf k q t → p = t ∨ p ∈ k.controls t → FrameHolds k q t b
  children : ∀ q, ChildOf k q p → ChildHolds k q p b
  child : ∀ q, ChildOf k p q → ChildHolds k p q b

theorem FrameHolds.congr (h : FrameHolds k p t b) (hp : b' p = b p) (ht : b' t = b t)
    (hc : ∀ c ∈ k.controls t, b' c = b c) : FrameHolds k p t b' := by
  refine ⟨?_, ?_, ?_, ?_⟩
  · rw [hp, ht]
    exact h.x
  · rw [hp, ht]
    exact h.y
  · rw [hp, ht]
    exact h.inside
  · intro hinit c hmem
    have hcontrol := h.controls hinit c hmem
    refine ⟨?_, ?_, ?_⟩
    · rw [hc c hmem, ht]
      exact hcontrol.x
    · rw [hc c hmem, ht]
      exact hcontrol.y
    · rw [hc c hmem, ht, hp]
      exact hcontrol.inside

theorem ChildHolds.congr (h : ChildHolds k q p b) (hq : b' q = b q) (hp : b' p = b p) :
    ChildHolds k q p b' := by
  refine ⟨?_, ?_⟩
  · rw [hq, hp]
    exact h.x
  · rw [hq, hp]
    exact h.y

theorem consistent_iff_around (hwf : WellFormed k) (hb : Consistent k b)
    (hsame : ∀ q, ¬ Affects k p q → b' q = b q) :
    Consistent k b' ↔ FitsAround k p b' := by
  constructor
  · exact fun h => ⟨fun q _ => h.edges q, h.frames p, fun q t hf _ => h.frames q t hf,
      fun q => h.children q p, fun q => h.children p q⟩
  · intro h
    refine ⟨?_, ?_, ?_⟩
    · intro q hq
      by_cases haffects : Affects k p q
      · exact h.edges q haffects hq
      · rw [hsame q haffects]
        exact hb.edges q hq
    · intro q t hf
      by_cases hqp : q = p
      · subst hqp
        exact h.frame t hf
      · by_cases hpart : p = t ∨ p ∈ k.controls t
        · exact h.part q t hf hpart
        · rw [not_or] at hpart
          refine (hb.frames q t hf).congr ?_ ?_ ?_
          · exact hsame q (hwf.not_affects_overlapped hf.overlapped hqp)
          · exact hsame t (hwf.not_affects_titlebar hf hqp (Ne.symm hpart.1))
          · intro c hc
            refine hsame c (hwf.not_affects_control hf hqp hc ?_)
            rintro rfl
            exact hpart.2 hc
    · intro q r hchild
      by_cases hrp : r = p
      · subst hrp
        exact h.children q hchild
      · by_cases hqp : q = p
        · subst hqp
          exact h.child r hchild
        · refine (hb.children q r hchild).congr ?_ ?_
          · exact hsame q (hwf.not_affects_child hchild hqp)
          · exact hsame r (hwf.not_affects_overlapped hchild.overlapped hrp)

end Local

end Gramado.Ds.WindowFrames
