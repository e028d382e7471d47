import Gramado.Ds.WindowFrames

/-! What the calls of the window manager do to the rectangles of the windows. -/

namespace Gramado.Ds.WindowChanges

open Ds.Geometry Ds.WindowFrames

structure Change where
  size : Option (UInt64 × UInt64)
  place : Option (UInt64 × UInt64)
  deriving DecidableEq, Repr

def noChange : Change := ⟨none, none⟩

def callWindow : Call → Nat
  | .resize p _ _ => p
  | .move p _ _ => p
  | .dock p _ => p
  | .maximize p => p

def dockChange (k : Desktop) (position : Int) (state : WindowState) : Change :=
  match position with
  | 1 => ⟨some (k.wa.width - 4, k.wa.height - 4 - 24), some (k.wa.left + 2, k.wa.top + 2)⟩
  | 2 =>
      if state = .WINDOW_STATE_MINIMIZED then noChange
      else ⟨some (k.wa.width / 2 - 4, k.wa.height - 4 - 24),
        some (k.wa.width / 2 + 2, k.wa.top + 2)⟩
  | 4 =>
      if state = .WINDOW_STATE_MINIMIZED then noChange
      else ⟨some (k.wa.width / 2 - 4, k.wa.height - 4 - 24), some (k.wa.left + 2, k.wa.top + 2)⟩
  | _ => noChange

def Maximizes (k : Desktop) (p : Nat) : Prop :=
  ¬ ((k.nodes p).valid = false ∨ k.rootWindow = some p ∨ k.isTaskbar p = true ∨
      k.overlapped p = false) ∧
    k.initialized ≠ false ∧ ¬ (k.maximizedArea.width = 0 ∨ k.maximizedArea.height = 0)

instance (k : Desktop) (p : Nat) : Decidable (Maximizes k p) :=
  inferInstanceAs (Decidable (_ ∧ _))

def callChange (k : Desktop) (b : Boxes) : Call → Change
  | .resize p cx cy => if (k.nodes p).valid = true then ⟨some (cx, cy), none⟩ else noChange
  | .move p x y => if (k.nodes p).valid = true then ⟨none, some (x, y)⟩ else noChange
  | .dock p position =>
      if k.canDock p = false then noChange else dockChange k position (b p).state
  | .maximize p =>
      if Maximizes k p then
        ⟨some (k.maximizedArea.width, k.maximizedArea.height),
          some (k.maximizedArea.left, k.maximizedArea.top)⟩
      else noChange

section Values

variable (c : Change) (k : Desktop) (p : Nat) (b : Boxes)

def Change.newSize : UInt64 × UInt64 :=
  match c.size with
  | none => ((b p).width, (b p).height)
  | some (cx, cy) => k.newSize p cx cy

def Change.relative : UInt64 × UInt64 :=
  match c.place with
  | none => ((b p).left, (b p).top)
  | some (x, y) => (x, y)

def origin : UInt64 × UInt64 :=
  match (k.nodes p).parent with
  | none => (0, 0)
  | some q =>
      if (k.nodes q).valid = false then (0, 0)
      else
        match (k.nodes q).type with
        | .WT_OVERLAPPED =>
            ((b q).absoluteX + (k.nodes q).clientLeft, (b q).absoluteY + (k.nodes q).clientTop)
        | .WT_SIMPLE => ((b q).absoluteX, (b q).absoluteY)
        | _ =>
            if k.overlapped p = true then (0, 0) else ((b q).absoluteX, (b q).absoluteY)

def Change.corner : UInt64 × UInt64 :=
  match c.place with
  | none => ((b p).absoluteX, (b p).absoluteY)
  | some (x, y) => ((origin k p b).1 + x, (origin k p b).2 + y)

def Change.barCorner (t : Nat) : UInt64 × UInt64 :=
  match c.place with
  | none => ((b t).absoluteX, (b t).absoluteY)
  | some (x, y) => (x + (k.nodes p).borderSize, y + (k.nodes p).borderSize)

def Change.barWidth (t : Nat) : UInt64 :=
  match c.size with
  | none => (b t).width
  | some (cx, cy) =>
      (k.newSize p cx cy).1 - (k.nodes p).borderSize - (k.nodes p).borderSize

def Change.controlLeft (d : Nat) : UInt64 :=
  match c.size with
  | none => (b d).left
  | some (cx, cy) =>
      (k.newSize p cx cy).1 - (k.nodes p).borderSize - (k.nodes p).borderSize -
        (k.nodes d).leftOffset

end Values

section Sets

variable {α : Type*} {β : Type*} [DecidableEq α]

theorem foldl_update {l : List α} (hl : l.Nodup) (f : α → β → β) (g : α → β) (j : α) :
    (l.foldl (fun g i => Function.update g i (f i (g i))) g) j =
      if j ∈ l then f j (g j) else g j := by
  induction l generalizing g with
  | nil => rfl
  | cons i rest ih =>
      obtain ⟨hi, hrest⟩ := List.nodup_cons.mp hl
      rw [List.foldl_cons, ih hrest]
      by_cases hj : j = i
      · subst hj
        rw [if_neg hi, if_pos List.mem_cons_self, Function.update_self]
      · rw [Function.update_of_ne hj]
        by_cases hmem : j ∈ rest
        · rw [if_pos hmem, if_pos (List.mem_cons_of_mem i hmem)]
        · rw [if_neg hmem, if_neg (by simp only [List.mem_cons, hj, hmem, or_self, not_false_iff])]

end Sets

section Boxes

variable {k : Desktop} {p q t d : Nat} {b : Boxes}

theorem set_self (b : Boxes) (p : Nat) (f : Box → Box) : b.set p f p = f (b p) := by
  rw [Boxes.set, Function.update_self]

theorem set_of_ne (b : Boxes) {p q : Nat} (f : Box → Box) (h : q ≠ p) : b.set p f q = b q := by
  rw [Boxes.set, Function.update_of_ne h]

structure SameRect (box box' : Box) : Prop where
  left : box.left = box'.left
  top : box.top = box'.top
  width : box.width = box'.width
  height : box.height = box'.height
  absoluteX : box.absoluteX = box'.absoluteX
  absoluteY : box.absoluteY = box'.absoluteY
  absoluteRight : box.absoluteRight = box'.absoluteRight
  absoluteBottom : box.absoluteBottom = box'.absoluteBottom

theorem SameRect.refl (box : Box) : SameRect box box := ⟨rfl, rfl, rfl, rfl, rfl, rfl, rfl, rfl⟩

theorem sameRect_setClient (n : Node) (box : Box) : SameRect (box.setClient n) box :=
  ⟨rfl, rfl, rfl, rfl, rfl, rfl, rfl, rfl⟩

theorem sameRect_setChars (box : Box) : SameRect box.setChars box :=
  ⟨rfl, rfl, rfl, rfl, rfl, rfl, rfl, rfl⟩

theorem SameRect.trans {box box' box'' : Box} (h : SameRect box box')
    (h' : SameRect box' box'') : SameRect box box'' :=
  ⟨h.left.trans h'.left, h.top.trans h'.top, h.width.trans h'.width, h.height.trans h'.height,
    h.absoluteX.trans h'.absoluteX, h.absoluteY.trans h'.absoluteY,
    h.absoluteRight.trans h'.absoluteRight, h.absoluteBottom.trans h'.absoluteBottom⟩

theorem SameRect.edges {box box' : Box} (h : SameRect box box') : Edges box ↔ Edges box' := by
  rw [Edges, h.absoluteRight, h.absoluteX, h.width, h.absoluteBottom, h.absoluteY, h.height]
  rfl

theorem edges_synced (box : Box) : Edges box.synced := ⟨rfl, rfl⟩

theorem resizeTitlebar_eq (hd : (k.controls t).Nodup) (ht : t ∉ k.controls t) (q : Nat) :
    resizeTitlebar k p t b q = if q ∈ k.controls t then
        (b q).setLeft ((b p).width - (k.nodes p).borderSize - (k.nodes p).borderSize -
          (k.nodes q).leftOffset)
      else if q = t then
        (b t).setWidth ((b p).width - (k.nodes p).borderSize - (k.nodes p).borderSize)
      else b q := by
  rw [resizeTitlebar]
  refine (foldl_update hd (fun c => Box.setLeft _) _ q).trans ?_
  by_cases hq : q ∈ k.controls t
  · rw [if_pos hq, if_pos hq, set_of_ne]
    rintro rfl
    exact ht hq
  · rw [if_neg hq, if_neg hq]
    by_cases hqt : q = t
    · subst hqt
      rw [if_pos rfl, set_self]
    · rw [if_neg hqt, set_of_ne _ _ hqt]

theorem moveTitlebar_eq (hd : (k.controls t).Nodup) (ht : t ∉ k.controls t) (q : Nat) :
    moveTitlebar k p t b q = if q ∈ k.controls t then
        if (k.nodes t).controlsInitialized = true then
          (b q).placedAt ((b p).absoluteX + (k.nodes p).borderSize + (b q).left)
            ((b p).absoluteY + (k.nodes p).borderSize + (b q).top)
        else b q
      else if q = t then
        (b t).setCorner ((b p).absoluteX + (k.nodes p).borderSize)
          ((b p).absoluteY + (k.nodes p).borderSize)
      else b q := by
  have hbar : b.set t (Box.setCorner ((b p).absoluteX + (k.nodes p).borderSize)
      ((b p).absoluteY + (k.nodes p).borderSize)) q =
      if q = t then (b t).setCorner ((b p).absoluteX + (k.nodes p).borderSize)
        ((b p).absoluteY + (k.nodes p).borderSize) else b q := by
    by_cases hqt : q = t
    · subst hqt
      rw [if_pos rfl, set_self]
    · rw [if_neg hqt, set_of_ne _ _ hqt]
  have hne : q ∈ k.controls t → q ≠ t := by
    rintro hq rfl
    exact ht hq
  rw [moveTitlebar]
  by_cases hinit : (k.nodes t).controlsInitialized = true
  · rw [if_pos hinit, if_pos hinit]
    refine (foldl_update hd (fun _ (box : Box) =>
      box.placedAt ((b p).absoluteX + (k.nodes p).borderSize + box.left)
        ((b p).absoluteY + (k.nodes p).borderSize + box.top)) _ q).trans ?_
    by_cases hq : q ∈ k.controls t
    · rw [if_pos hq, if_pos hq, set_of_ne _ _ (hne hq)]
    · rw [if_neg hq, if_neg hq, hbar]
  · rw [if_neg hinit, if_neg hinit, hbar]
    by_cases hq : q ∈ k.controls t
    · rw [if_pos hq, if_neg (hne hq)]
    · rw [if_neg hq]

end Boxes

section Outcome

variable {c : Change} {k : Desktop} {p q t : Nat} {b b' : Boxes}

/-- The rectangles after a call that asks for a change of a window. -/
structure Outcome (c : Change) (k : Desktop) (p : Nat) (b b' : Boxes) : Prop where
  other : ∀ q, ¬ Affects k p q → b' q = b q
  edges : Edges (b p) → Edges (b' p)
  size : ((b' p).width, (b' p).height) = c.newSize k p b
  relative : k.isTaskbar p = false → ((b' p).left, (b' p).top) = c.relative p b
  corner : k.overlapped p = true ∨ k.isTaskbar p = false →
    ((b' p).absoluteX, (b' p).absoluteY) = c.corner k p b
  titlebar : ∀ t, FrameOf k p t → b' t =
    ((b t).setWidth (c.barWidth k p b t)).setCorner (c.barCorner k p b t).1
      (c.barCorner k p b t).2
  control : ∀ t d, FrameOf k p t → d ∈ k.controls t → b' d =
    if (k.nodes t).controlsInitialized = true ∧ c.place ≠ none then
      ((b d).setLeft (c.controlLeft k p b d)).placedAt
        ((c.barCorner k p b t).1 + c.controlLeft k p b d)
        ((c.barCorner k p b t).2 + (b d).top)
    else (b d).setLeft (c.controlLeft k p b d)

theorem outcome_noChange (k : Desktop) (p : Nat) (b : Boxes) : Outcome noChange k p b b :=
  ⟨fun _ _ => rfl, fun h => h, rfl, fun _ => rfl, fun _ => rfl, fun _ _ => rfl,
    fun t d _ _ => by rw [if_neg (fun h => h.2 rfl)]; rfl⟩

def withTitlebar (k : Desktop) (p : Nat) (f : Nat → Boxes → Boxes) (b : Boxes) : Boxes :=
  if k.overlapped p = true then
    match (k.nodes p).titlebar with
    | none => b
    | some t => f t b
  else b

theorem withTitlebar_eq (hf : FrameOf k p t) (f : Nat → Boxes → Boxes) :
    withTitlebar k p f b = f t b := by
  rw [withTitlebar, if_pos hf.overlapped, hf.titlebar]

theorem withTitlebar_other (hv : (k.nodes p).valid = true) {f : Nat → Boxes → Boxes}
    (h : ∀ t, FrameOf k p t → f t b q = b q) : withTitlebar k p f b q = b q := by
  rw [withTitlebar]
  split
  · rename_i hover
    cases ht : (k.nodes p).titlebar with
    | none => rfl
    | some t => exact h t ⟨hv, hover, ht⟩
  · rfl

theorem resizeTitlebar_other (hwf : WellFormed k) (hf : FrameOf k p t)
    (hq : q = p ∨ ¬ Affects k p q) : resizeTitlebar k p t b q = b q := by
  obtain ⟨hne, hnot⟩ := hwf.not_frame hf hq
  rw [resizeTitlebar_eq (hwf.controls_nodup p t hf) (hwf.titlebar_notMem hf), if_neg hnot,
    if_neg hne]

theorem moveTitlebar_other (hwf : WellFormed k) (hf : FrameOf k p t)
    (hq : q = p ∨ ¬ Affects k p q) : moveTitlebar k p t b q = b q := by
  obtain ⟨hne, hnot⟩ := hwf.not_frame hf hq
  rw [moveTitlebar_eq (hwf.controls_nodup p t hf) (hwf.titlebar_notMem hf), if_neg hnot, if_neg hne]

def resizedWindow (k : Desktop) (p : Nat) (cx cy : UInt64) (b : Boxes) : Boxes :=
  (b.set p (Box.setSize (k.newSize p cx cy).1 (k.newSize p cx cy).2)).set p Box.synced

theorem gwsResizeWindow_of_ne (hv : (k.nodes p).valid = true) (cx cy : UInt64) (hq : q ≠ p) :
    (gwsResizeWindow k p cx cy b).2 q = withTitlebar k p (resizeTitlebar k p) (resizedWindow k p cx cy b) q := by
  rw [gwsResizeWindow, withTitlebar, resizedWindow]
  dsimp only
  rw [if_pos hv]
  by_cases hover : k.overlapped p = true
  · rw [if_pos hover, if_pos hover]
    split
    · exact (set_of_ne _ _ hq).trans (set_of_ne _ _ hq)
    · exact set_of_ne _ _ hq
  · rw [if_neg hover, if_neg hover]
    split
    · rw [set_of_ne _ _ hq]
    · rfl

theorem gwsResizeWindow_self (hv : (k.nodes p).valid = true) (cx cy : UInt64) :
    SameRect ((gwsResizeWindow k p cx cy b).2 p)
      (withTitlebar k p (resizeTitlebar k p) (resizedWindow k p cx cy b) p) := by
  rw [gwsResizeWindow, withTitlebar, resizedWindow]
  dsimp only
  rw [if_pos hv]
  by_cases hover : k.overlapped p = true
  · rw [if_pos hover, if_pos hover]
    split
    · rw [set_self, set_self]
      exact (sameRect_setChars _).trans (sameRect_setClient _ _)
    · rw [set_self]
      exact sameRect_setClient _ _
  · rw [if_neg hover, if_neg hover]
    split
    · rw [set_self]
      exact sameRect_setChars _
    · exact SameRect.refl _

theorem resizedWindow_self (k : Desktop) (p : Nat) (cx cy : UInt64) (b : Boxes) :
    resizedWindow k p cx cy b p =
      ((b p).setSize (k.newSize p cx cy).1 (k.newSize p cx cy).2).synced := by
  rw [resizedWindow, set_self, set_self]

theorem resizedWindow_of_ne (k : Desktop) (cx cy : UInt64) (b : Boxes) (hq : q ≠ p) :
    resizedWindow k p cx cy b q = b q := by
  rw [resizedWindow, set_of_ne _ _ hq, set_of_ne _ _ hq]

theorem outcome_resize (hwf : WellFormed k) (hv : (k.nodes p).valid = true) (cx cy : UInt64)
    (b : Boxes) :
    Outcome ⟨some (cx, cy), none⟩ k p b (gwsResizeWindow k p cx cy b).2 := by
  have hself : SameRect ((gwsResizeWindow k p cx cy b).2 p)
      ((b p).setSize (k.newSize p cx cy).1 (k.newSize p cx cy).2).synced := by
    have h := gwsResizeWindow_self (b := b) hv cx cy
    rw [withTitlebar_other hv fun t hf => resizeTitlebar_other hwf hf (.inl rfl),
      resizedWindow_self] at h
    exact h
  refine ⟨?_, ?_, ?_, ?_, ?_, ?_, ?_⟩
  · intro q hq
    have hne : q ≠ p := by
      rintro rfl
      exact hq (affects_self k q)
    rw [gwsResizeWindow_of_ne hv cx cy hne,
      withTitlebar_other hv fun t hf => resizeTitlebar_other hwf hf (.inr hq),
      resizedWindow_of_ne k cx cy b hne]
  · exact fun _ => hself.edges.mpr (edges_synced _)
  · rw [hself.width, hself.height]
    rfl
  · intro _
    rw [hself.left, hself.top]
    rfl
  · intro _
    rw [hself.absoluteX, hself.absoluteY]
    rfl
  · intro t hf
    have hne := hwf.titlebar_ne hf
    have hnot := hwf.titlebar_notMem hf
    rw [gwsResizeWindow_of_ne hv cx cy hne, withTitlebar_eq hf,
      resizeTitlebar_eq (hwf.controls_nodup p t hf) hnot, if_neg hnot, if_pos rfl,
      resizedWindow_of_ne k cx cy b hne, resizedWindow_self]
    rfl
  · intro t d hf hd
    have hne : d ≠ p := by
      rintro rfl
      exact hwf.window_notMem hf hd
    rw [gwsResizeWindow_of_ne hv cx cy hne, withTitlebar_eq hf,
      resizeTitlebar_eq (hwf.controls_nodup p t hf) (hwf.titlebar_notMem hf), if_pos hd,
      resizedWindow_of_ne k cx cy b hne, resizedWindow_self, if_neg (fun h => h.2 rfl)]
    rfl

theorem placeInParent_of_ne (k : Desktop) (x y : UInt64) (b : Boxes) (hq : q ≠ p) :
    placeInParent k p x y b q = b q := by
  rw [placeInParent]
  cases (k.nodes p).parent with
  | none => rfl
  | some r =>
      dsimp only
      split
      · exact set_of_ne _ _ hq
      · rfl

theorem placeInClient_of_ne (k : Desktop) (b : Boxes) (hq : q ≠ p) :
    placeInClient k p b q = b q := by
  rw [placeInClient]
  cases (k.nodes p).parent with
  | none => rfl
  | some r =>
      dsimp only
      split
      · rfl
      · cases (k.nodes r).type with
        | WT_OVERLAPPED => exact set_of_ne _ _ hq
        | WT_SIMPLE => exact set_of_ne _ _ hq
        | WT_EDITBOX_SINGLE_LINE => rfl
        | WT_EDITBOX_MULTIPLE_LINES => rfl
        | WT_BUTTON => rfl
        | other => rfl

def placedWindow (k : Desktop) (p : Nat) (x y : UInt64) (b : Boxes) : Boxes :=
  (if k.overlapped p = false then placeInParent k p x y (b.set p (Box.placedAt x y))
    else b.set p (Box.placedAt x y)).set p (Box.setRelative x y)

theorem placedWindow_of_ne (k : Desktop) (x y : UInt64) (b : Boxes) (hq : q ≠ p) :
    placedWindow k p x y b q = b q := by
  rw [placedWindow, set_of_ne _ _ hq]
  split
  · rw [placeInParent_of_ne k x y _ hq, set_of_ne _ _ hq]
  · exact set_of_ne _ _ hq

theorem gwssrvChangeWindowPosition_eq (x y : UInt64)
    (hp : k.overlapped p = true ∨ k.isTaskbar p = false) :
    (gwssrvChangeWindowPosition k p x y b).2 =
      placeInClient k p (withTitlebar k p (moveTitlebar k p) (placedWindow k p x y b)) := by
  have hnot : ¬ (k.overlapped p = false ∧ k.isTaskbar p = true) := by
    rintro ⟨hover, hbar⟩
    rw [hover, hbar] at hp
    rcases hp with h | h <;> cases h
  rw [gwssrvChangeWindowPosition, withTitlebar, placedWindow]
  dsimp only
  exact congrArg Prod.snd (if_neg hnot)

def Free (k : Desktop) (p : Nat) : Prop :=
  k.overlapped p = true ∨ ∀ q, (k.nodes p).parent = some q → (k.nodes q).valid = false

theorem placedWindow_free (x y : UInt64) (hfree : Free k p) :
    placedWindow k p x y b p = ((b p).setRelative x y).placedAt x y := by
  rw [placedWindow, set_self]
  rcases hfree with hover | hinvalid
  · rw [hover, if_neg (by decide), set_self]
    rfl
  · rw [placeInParent]
    cases hq : (k.nodes p).parent with
    | none =>
        dsimp only
        rw [ite_self, set_self]
        rfl
    | some q =>
        dsimp only
        rw [hinvalid q hq, if_neg Bool.false_ne_true, ite_self, set_self]
        rfl

theorem placedWindow_inParent (hwf : WellFormed k) (x y : UInt64)
    (hover : k.overlapped p = false) (hq : (k.nodes p).parent = some q)
    (hvq : (k.nodes q).valid = true) :
    placedWindow k p x y b p = ((b p).setRelative x y).placedAt ((b q).absoluteX + x)
      ((b q).absoluteY + y) := by
  rw [placedWindow, set_self, if_pos hover, placeInParent, hq]
  dsimp only
  rw [if_pos hvq, set_self, set_self, set_of_ne _ _ (hwf.parent_ne hq)]
  rfl

theorem placedWindow_self (hwf : WellFormed k) (x y : UInt64) :
    ∃ x' y', placedWindow k p x y b p = ((b p).setRelative x y).placedAt x' y' := by
  by_cases hfree : Free k p
  · exact ⟨x, y, placedWindow_free x y hfree⟩
  · rw [Free, not_or, not_forall] at hfree
    obtain ⟨hover, q, hparent⟩ := hfree
    rw [Classical.not_imp, Bool.not_eq_false] at hparent
    exact ⟨_, _, placedWindow_inParent hwf x y (Bool.eq_false_iff.mpr hover) hparent.1 hparent.2⟩

theorem moved_self (hwf : WellFormed k) (hv : (k.nodes p).valid = true) (x y : UInt64)
    (hp : k.overlapped p = true ∨ k.isTaskbar p = false) :
    (gwssrvChangeWindowPosition k p x y b).2 p =
      ((b p).setRelative x y).placedAt ((origin k p b).1 + x) ((origin k p b).2 + y) := by
  have hframe : withTitlebar k p (moveTitlebar k p) (placedWindow k p x y b) p =
      placedWindow k p x y b p :=
    withTitlebar_other hv fun t hf => moveTitlebar_other hwf hf (.inl rfl)
  have hparent : ∀ q, (k.nodes p).parent = some q →
      withTitlebar k p (moveTitlebar k p) (placedWindow k p x y b) q = b q := by
    intro q hq
    rw [withTitlebar_other hv fun t hf =>
      moveTitlebar_other hwf hf (.inr (hwf.not_affects_parent hq)),
      placedWindow_of_ne k x y b (hwf.parent_ne hq)]
  obtain ⟨x', y', hself⟩ := placedWindow_self (p := p) (b := b) hwf x y
  rw [gwssrvChangeWindowPosition_eq x y hp, placeInClient, origin]
  generalize hmoved : withTitlebar k p (moveTitlebar k p) (placedWindow k p x y b) = moved
    at hframe hparent
  cases hq : (k.nodes p).parent with
  | none =>
      dsimp only
      rw [hframe, placedWindow_free x y (.inr fun q h => by rw [hq] at h; cases h),
        UInt64.zero_add, UInt64.zero_add]
  | some q =>
      have hsame := hparent q hq
      dsimp only
      cases hvq : (k.nodes q).valid with
      | false =>
          have hfree : Free k p := by
            refine .inr fun r hr => ?_
            rw [hq] at hr
            rw [← Option.some.inj hr, hvq]
          rw [if_pos rfl, if_pos rfl, hframe, placedWindow_free x y hfree, UInt64.zero_add,
            UInt64.zero_add]
      | true =>
          rw [if_neg (by decide), if_neg (by decide)]
          have hother : moved p = ((b p).setRelative x y).placedAt
              ((if k.overlapped p = true then ((0 : UInt64), (0 : UInt64))
                else ((b q).absoluteX, (b q).absoluteY)).1 + x)
              ((if k.overlapped p = true then ((0 : UInt64), (0 : UInt64))
                else ((b q).absoluteX, (b q).absoluteY)).2 + y) := by
            rw [hframe]
            cases hover : k.overlapped p with
            | true =>
                rw [if_pos rfl, placedWindow_free x y (.inl hover), UInt64.zero_add,
                  UInt64.zero_add]
            | false =>
                rw [if_neg Bool.false_ne_true]
                exact placedWindow_inParent hwf x y hover hq hvq
          cases (k.nodes q).type with
          | WT_OVERLAPPED =>
              dsimp only
              rw [set_self, hsame, hframe, hself]
              rfl
          | WT_SIMPLE =>
              dsimp only
              rw [set_self, hsame, hframe, hself]
              rfl
          | WT_EDITBOX_SINGLE_LINE => exact hother
          | WT_EDITBOX_MULTIPLE_LINES => exact hother
          | WT_BUTTON => exact hother
          | other => exact hother

theorem moved_of_ne (x y : UInt64) (hp : k.overlapped p = true ∨ k.isTaskbar p = false)
    (hq : q ≠ p) : (gwssrvChangeWindowPosition k p x y b).2 q =
      withTitlebar k p (moveTitlebar k p) (placedWindow k p x y b) q := by
  rw [gwssrvChangeWindowPosition_eq x y hp, placeInClient_of_ne k _ hq]

theorem taskbar_moved (x y : UInt64) (hover : k.overlapped p = false)
    (hbar : k.isTaskbar p = true) :
    (gwssrvChangeWindowPosition k p x y b).2 = b.set p (Box.placedAt x y) := by
  rw [gwssrvChangeWindowPosition]
  dsimp only
  rw [if_pos ⟨hover, hbar⟩]

theorem placedWindow_corner (x y : UInt64) (hover : k.overlapped p = true) :
    (placedWindow k p x y b p).absoluteX = x ∧ (placedWindow k p x y b p).absoluteY = y := by
  rw [placedWindow_free x y (.inl hover)]
  exact ⟨rfl, rfl⟩

theorem outcome_move (hwf : WellFormed k) (hv : (k.nodes p).valid = true) (x y : UInt64)
    (b : Boxes) :
    Outcome ⟨none, some (x, y)⟩ k p b (gwssrvChangeWindowPosition k p x y b).2 := by
  by_cases hp : k.overlapped p = true ∨ k.isTaskbar p = false
  · have hself := moved_self (b := b) hwf hv x y hp
    refine ⟨?_, ?_, ?_, ?_, ?_, ?_, ?_⟩
    · intro q hq
      have hne : q ≠ p := by
        rintro rfl
        exact hq (affects_self k q)
      rw [moved_of_ne x y hp hne,
        withTitlebar_other hv fun t hf => moveTitlebar_other hwf hf (.inr hq),
        placedWindow_of_ne k x y b hne]
    · intro _
      rw [hself]
      exact edges_synced _
    · rw [hself]
      rfl
    · intro _
      rw [hself]
      rfl
    · intro _
      rw [hself]
      rfl
    · intro t hf
      have hne := hwf.titlebar_ne hf
      have hnot := hwf.titlebar_notMem hf
      have hcorner := placedWindow_corner (b := b) x y hf.overlapped
      rw [moved_of_ne x y hp hne, withTitlebar_eq hf,
        moveTitlebar_eq (hwf.controls_nodup p t hf) hnot, if_neg hnot, if_pos rfl,
        placedWindow_of_ne k x y b hne, hcorner.1, hcorner.2]
      rfl
    · intro t d hf hd
      have hne : d ≠ p := by
        rintro rfl
        exact hwf.window_notMem hf hd
      have hcorner := placedWindow_corner (b := b) x y hf.overlapped
      rw [moved_of_ne x y hp hne, withTitlebar_eq hf,
        moveTitlebar_eq (hwf.controls_nodup p t hf) (hwf.titlebar_notMem hf), if_pos hd,
        placedWindow_of_ne k x y b hne, hcorner.1, hcorner.2]
      by_cases hinit : (k.nodes t).controlsInitialized = true
      · rw [if_pos hinit, if_pos ⟨hinit, fun h => by cases h⟩]
        rfl
      · rw [if_neg hinit, if_neg fun h => hinit h.1]
        rfl
  · rw [not_or, Bool.not_eq_true, Bool.not_eq_false] at hp
    obtain ⟨hover, hbar⟩ := hp
    have hnone : ∀ t, ¬ FrameOf k p t := by
      intro t hf
      rw [hf.overlapped] at hover
      cases hover
    rw [taskbar_moved x y hover hbar]
    refine ⟨?_, ?_, ?_, ?_, ?_, ?_, ?_⟩
    · intro q hq
      refine set_of_ne _ _ ?_
      rintro rfl
      exact hq (affects_self k q)
    · intro _
      rw [set_self]
      exact edges_synced _
    · rw [set_self]
      rfl
    · intro h
      rw [hbar] at h
      cases h
    · rintro (h | h)
      · rw [hover] at h
        cases h
      · rw [hbar] at h
        cases h
    · exact fun t hf => (hnone t hf).elim
    · exact fun t d hf => (hnone t hf).elim

theorem origin_congr (h : ∀ q, (k.nodes p).parent = some q → b' q = b q) :
    origin k p b' = origin k p b := by
  rw [origin, origin]
  cases hq : (k.nodes p).parent with
  | none => rfl
  | some q =>
      dsimp only
      rw [h q hq]

theorem Outcome.andThen {cx cy x y : UInt64} {b'' : Boxes} (hwf : WellFormed k)
    (h : Outcome ⟨some (cx, cy), none⟩ k p b b') (h' : Outcome ⟨none, some (x, y)⟩ k p b' b'') :
    Outcome ⟨some (cx, cy), some (x, y)⟩ k p b b'' := by
  have horigin : origin k p b' = origin k p b :=
    origin_congr fun q hq => h.other q (hwf.not_affects_parent hq)
  refine ⟨?_, ?_, ?_, ?_, ?_, ?_, ?_⟩
  · exact fun q hq => (h'.other q hq).trans (h.other q hq)
  · exact fun hedges => h'.edges (h.edges hedges)
  · exact h'.size.trans h.size
  · exact h'.relative
  · intro hp
    rw [h'.corner hp, Change.corner, horigin]
    rfl
  · intro t hf
    rw [h'.titlebar t hf, Change.barWidth, h.titlebar t hf]
    rfl
  · intro t d hf hd
    have hplace : (⟨some (cx, cy), none⟩ : Change).place = none := rfl
    have hd' := h.control t d hf hd
    rw [if_neg fun hand => hand.2 hplace] at hd'
    rw [h'.control t d hf hd, hd']
    by_cases hinit : (k.nodes t).controlsInitialized = true
    · rw [if_pos ⟨hinit, fun h => by cases h⟩, if_pos ⟨hinit, fun h => by cases h⟩]
      rw [Change.controlLeft, hd']
      rfl
    · rw [if_neg fun h => hinit h.1, if_neg fun h => hinit h.1, Change.controlLeft, hd']
      rfl

theorem Outcome.congr {b₀ b₀' : Boxes} (hwf : WellFormed k) (h : Outcome c k p b b')
    (hb : ∀ q, q ≠ p → b₀ q = b q) (hp : SameRect (b₀ p) (b p))
    (hb' : ∀ q, q ≠ p → b₀' q = b' q) (hp' : SameRect (b₀' p) (b' p)) :
    Outcome c k p b₀ b₀' := by
  have hbar : ∀ t, FrameOf k p t → b₀ t = b t := fun t hf => hb t (hwf.titlebar_ne hf)
  refine ⟨?_, ?_, ?_, ?_, ?_, ?_, ?_⟩
  · intro q hq
    have hne : q ≠ p := by
      rintro rfl
      exact hq (affects_self k q)
    rw [hb q hne, hb' q hne, h.other q hq]
  · exact fun hedges => hp'.edges.mpr (h.edges (hp.edges.mp hedges))
  · rw [hp'.width, hp'.height, h.size, Change.newSize, Change.newSize, hp.width, hp.height]
  · intro hbar
    rw [hp'.left, hp'.top, h.relative hbar, Change.relative, Change.relative, hp.left, hp.top]
  · intro hord
    have horigin : origin k p b₀ = origin k p b := origin_congr fun q hq => hb q (hwf.parent_ne hq)
    rw [hp'.absoluteX, hp'.absoluteY, h.corner hord, Change.corner, Change.corner, hp.absoluteX,
      hp.absoluteY, horigin]
  · intro t hf
    rw [hb' t (hwf.titlebar_ne hf), h.titlebar t hf, Change.barWidth, Change.barWidth,
      Change.barCorner, Change.barCorner, hbar t hf]
  · intro t d hf hd
    have hne : d ≠ p := by
      rintro rfl
      exact hwf.window_notMem hf hd
    rw [hb' d hne, h.control t d hf hd, Change.barCorner, Change.barCorner, Change.controlLeft,
      Change.controlLeft, hb d hne, hbar t hf]

theorem outcome_resizeAndMove (hwf : WellFormed k) (hv : (k.nodes p).valid = true)
    (cx cy x y : UInt64) (b : Boxes) :
    Outcome ⟨some (cx, cy), some (x, y)⟩ k p b (resizeAndMove k p cx cy x y b).2 :=
  (outcome_resize hwf hv cx cy b).andThen hwf (outcome_move hwf hv x y _)

theorem Outcome.setState (state : WindowState) (hwf : WellFormed k)
    (h : Outcome c k p (b.set p (Box.setState state)) b') : Outcome c k p b b' := by
  refine h.congr hwf (fun q hq => (set_of_ne _ _ hq).symm) ?_ (fun _ _ => rfl) (SameRect.refl _)
  rw [set_self]
  exact ⟨rfl, rfl, rfl, rfl, rfl, rfl, rfl, rfl⟩

theorem outcome_setState (hwf : WellFormed k) (state : WindowState) (p : Nat) (b : Boxes) :
    Outcome noChange k p b (b.set p (Box.setState state)) :=
  (outcome_noChange k p (b.set p (Box.setState state))).setState state hwf

theorem outcome_dock (hwf : WellFormed k) (p : Nat) (position : Int) (b : Boxes) :
    Outcome (callChange k b (.dock p position)) k p b (dockWindow k p position b).2 := by
  rw [callChange]
  unfold dockWindow
  by_cases hdock : k.canDock p = false
  · rw [if_pos hdock, if_pos hdock]
    exact outcome_noChange k p b
  · rw [if_neg hdock, if_neg hdock]
    have hv : (k.nodes p).valid = true := by
      rw [Bool.not_eq_false, Desktop.canDock] at hdock
      simp only [Bool.and_eq_true] at hdock
      exact hdock.1.1.1.1.1.1.1
    split
    · rw [dockChange]
      dsimp only
      split
      · refine Outcome.setState .WINDOW_STATE_NORMAL hwf ?_
        apply outcome_resizeAndMove hwf hv
      · apply outcome_resizeAndMove hwf hv
    · rw [dockChange]
      split
      · exact outcome_noChange k p b
      · apply outcome_resizeAndMove hwf hv
    · rw [dockChange.eq_4 k 3 _ (by decide) (by decide) (by decide)]
      split
      · rw [minimizeWindow]
        split
        · exact outcome_setState hwf _ p b
        · exact outcome_noChange k p b
      · exact outcome_noChange k p b
    · rw [dockChange]
      split
      · exact outcome_noChange k p b
      · apply outcome_resizeAndMove hwf hv
    · rename_i h1 h2 h3 h4
      rw [dockChange]
      · exact outcome_noChange k p b
      · exact h1
      · exact h2
      · exact h4

theorem outcome_maximize (hwf : WellFormed k) (p : Nat) (b : Boxes) :
    Outcome (callChange k b (.maximize p)) k p b (maximizeWindow k p b).2 := by
  rw [callChange, maximizeWindow]
  by_cases hno : (k.nodes p).valid = false ∨ k.rootWindow = some p ∨ k.isTaskbar p = true ∨
      k.overlapped p = false
  · rw [if_pos hno, if_neg fun h => h.1 hno]
    exact outcome_noChange k p b
  · rw [if_neg hno]
    dsimp only
    have hv : (k.nodes p).valid = true := by
      rw [not_or, Bool.not_eq_false] at hno
      exact hno.1
    by_cases hinit : k.initialized = false
    · rw [if_pos hinit, if_neg fun h => h.2.1 hinit]
      exact outcome_setState hwf _ p b
    · rw [if_neg hinit]
      by_cases harea : k.maximizedArea.width = 0 ∨ k.maximizedArea.height = 0
      · rw [if_pos harea, if_neg fun h => h.2.2 harea]
        exact outcome_setState hwf _ p b
      · rw [if_neg harea, if_pos ⟨hno, hinit, harea⟩]
        have h := (outcome_resizeAndMove hwf hv k.maximizedArea.width k.maximizedArea.height
          k.maximizedArea.left k.maximizedArea.top
          (b.set p (Box.setState .WINDOW_STATE_MAXIMIZED))).setState _ hwf
        refine h.congr hwf (fun _ _ => rfl) (SameRect.refl _) (fun q hq => set_of_ne _ _ hq) ?_
        dsimp only
        rw [set_self]
        exact sameRect_setClient _ _

theorem outcome_call (hwf : WellFormed k) (c : Call) (b : Boxes) :
    Outcome (callChange k b c) k (callWindow c) b (call k c b).2 := by
  cases c with
  | resize p cx cy =>
      rw [callChange, call]
      split
      · rename_i hv
        exact outcome_resize hwf hv cx cy b
      · exact outcome_noChange k p b
  | move p x y =>
      rw [callChange, call]
      split
      · rename_i hv
        exact outcome_move hwf hv x y b
      · exact outcome_noChange k p b
  | dock p position => exact outcome_dock hwf p position b
  | maximize p => exact outcome_maximize hwf p b

end Outcome

end Gramado.Ds.WindowChanges
