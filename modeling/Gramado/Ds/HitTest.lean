import Gramado.Ds.Geometry
import Gramado.Ds.ZOrder
import Gramado.Library.Topmost

/-! The window under the mouse, as the display server finds it. -/

namespace Gramado.Ds.HitTest

open Ds.Geometry hiding Desktop WINDOW_COUNT_MAX step
open Ds.ZOrder (WINDOW_MAGIC wmAddWindowToTop registerWindow setNext)
open Library.LinkedList Library.Topmost

/-- The windows of the server. A window is named by the order of its creation, and `k` has what
each window is created with. -/
structure Server where
  z : ZOrder.Desktop
  boxes : Boxes
  childHead : Nat → Option Nat
  mouseHover : Option Nat
  mouseRelative : Nat → UInt64 × UInt64

def Server.valid (s : Server) (p : Nat) : Bool := (s.z.window p).magic = WINDOW_MAGIC

def Server.desk (k : Geometry.Desktop) (s : Server) : Geometry.Desktop :=
  { k with nodes := fun p => { k.nodes p with valid := s.valid p } }

def Box.under (box : Box) (x y : UInt64) : Bool :=
  box.absoluteX ≤ x && x ≤ box.absoluteRight && box.absoluteY ≤ y && y ≤ box.absoluteBottom

def Server.under (s : Server) (x y : UInt64) (p : Nat) : Bool :=
  s.valid p && Box.under (s.boxes p) x y

def typeCode : WindowType → Nat
  | .WT_SIMPLE => 1
  | .WT_EDITBOX_SINGLE_LINE => 2
  | .WT_OVERLAPPED => ZOrder.WT_OVERLAPPED
  | .WT_EDITBOX_MULTIPLE_LINES => 7
  | .WT_BUTTON => 8
  | .other => 0

/-- A child goes to the end of the list of its parent, whose links are those of the list of
overlapped windows. -/
def wmAddChildWindow (k : Geometry.Desktop) (s : Server) (parent window : Nat) :
    Except String Server :=
  if ¬ (s.z.window parent).Live then .ok s
  else if k.overlapped parent = false ∧ k.isTaskbar parent = false then .ok s
  else if ¬ (s.z.window window).Live then .ok s
  else
    match s.childHead parent with
    | none =>
        .ok { s with
          childHead := Function.update s.childHead parent (some window)
          z := setNext s.z window none }
    | some head =>
        match lastCell s.z.next s.z.count head with
        | none => .error "wm_add_child_window: while"
        | some last => .ok { s with z := setNext (setNext s.z last (some window)) window none }

def addToTop (k : Geometry.Desktop) (s : Server) (p : Nat) : Except String Server :=
  if k.overlapped p = true then
    match wmAddWindowToTop s.z (some p) with
    | .error e => .error e
    | .ok z => .ok { s with z := z }
  else .ok s

def addToParent (k : Geometry.Desktop) (s : Server) (p : Nat) : Except String Server :=
  match (k.nodes p).parent with
  | none => .ok s
  | some q => wmAddChildWindow k s q p

def newServer (k : Geometry.Desktop) (s : Server) (box : Box) : Server :=
  { s with
    z := ZOrder.createWindow s.z (typeCode (k.nodes s.z.count).type)
    boxes := s.boxes.set s.z.count fun _ => box.synced }

def register (s : Server) (p : Nat) : Server := { s with z := registerWindow s.z p }

/-- `serviceCreateWindow`. An overlapped window is put on top twice, and a child of the taskbar is
put in its list whether it is said to be a child or not. -/
def serviceCreateWindow (k : Geometry.Desktop) (s : Server) (fChild : Bool) (box : Box) :
    Except String Server :=
  let p := s.z.count
  match addToTop k (newServer k s box) p with
  | .error e => .error e
  | .ok s =>
      match if fChild = true then addToParent k (register s p) p else .ok (register s p) with
      | .error e => .error e
      | .ok s =>
          match if (k.nodes p).parent.any k.isTaskbar = true then addToParent k s p else .ok s with
          | .error e => .error e
          | .ok s => addToTop k s p

/-- What the hit test finds: the taskbar or a child of it, or a window and what is hit in it. -/
inductive Hit where
  | nothing
  | taskbar (t : Nat) (child : Option Nat)
  | control (w c : Nat)
  | titlebar (w t : Nat)
  | child (w c : Nat)
  | window (w : Nat)
  deriving DecidableEq, Repr

def childUnder (s : Server) (x y : UInt64) (p : Nat) : Except String (Option Nat) :=
  match findCell s.z.next (s.under x y) s.z.count (s.childHead p) with
  | none => .error "wm_hit_test_2: while"
  | some child => .ok child

def validTitlebar (k : Geometry.Desktop) (s : Server) (w : Nat) : Option Nat :=
  (k.nodes w).titlebar.filter s.valid

def controlWids (k : Geometry.Desktop) (t : Nat) : List Int :=
  [(k.nodes t).minimizeWid, (k.nodes t).maximizeWid, (k.nodes t).closeWid]

def findControl (k : Geometry.Desktop) (s : Server) (wid : Int) : Except String Nat :=
  match (s.desk k).windowFromWid wid with
  | none => .error "wm_hit_test_2: null pointer"
  | some c => .ok c

def hitInside (s : Server) (x y : UInt64) (w : Nat) : Except String Hit :=
  match childUnder s x y w with
  | .error e => .error e
  | .ok none => .ok (.window w)
  | .ok (some c) => .ok (.child w c)

/-- First the controls, of which the last one under the mouse is taken, then the title bar. -/
def hitWindow (k : Geometry.Desktop) (s : Server) (x y : UInt64) (w : Nat) : Except String Hit :=
  match validTitlebar k s w with
  | none => hitInside s x y w
  | some t =>
      match (controlWids k t).mapM (findControl k s) with
      | .error e => .error e
      | .ok controls =>
          match topmost (s.under x y) controls with
          | some c => .ok (.control w c)
          | none => if s.under x y t = true then .ok (.titlebar w t) else hitInside s x y w

/-- The taskbar first, then the overlapped windows, of which the last one is taken. -/
def hitTest (k : Geometry.Desktop) (s : Server) (x y : UInt64) : Except String Hit :=
  if k.initialized = false then .ok .nothing
  else
    match k.taskbarWindow.filter (s.under x y) with
    | some t =>
        match childUnder s x y t with
        | .error e => .error e
        | .ok child => .ok (.taskbar t child)
    | none =>
        match cells s.z.next s.z.count s.z.firstWindow with
        | none => .error "wm_hit_test_2: while"
        | some order =>
            match topmost (fun w => k.overlapped w && s.under x y w) order with
            | none => .ok .nothing
            | some w => hitWindow k s x y w

def Hit.target : Hit → Option Nat
  | .nothing => none
  | .taskbar t c => some (c.getD t)
  | .control _ c => some c
  | .titlebar _ t => some t
  | .child _ c => some c
  | .window w => some w

def Hit.application : Hit → Option Nat
  | .nothing => none
  | .taskbar t _ => t
  | .control w _ => w
  | .titlebar w _ => w
  | .child w _ => w
  | .window w => w

def Hit.inFrame : Hit → Bool
  | .control _ _ => true
  | .titlebar _ _ => true
  | .window _ => true
  | _ => false

def Server.setHover (s : Server) (x y : UInt64) (p : Nat) : Server :=
  { s with
    mouseHover := some p
    mouseRelative := Function.update s.mouseRelative p
      (x - (s.boxes p).absoluteX, y - (s.boxes p).absoluteY) }

def wmHitTest2 (k : Geometry.Desktop) (s : Server) (x y : UInt64) : Except String Server :=
  if k.initialized = false then .ok s
  else
    match hitTest k s x y with
    | .error e => .error e
    | .ok hit =>
        match hit.target with
        | none => .ok { s with mouseHover := k.rootWindow }
        | some p => .ok (s.setHover x y p)

variable {start : Option Nat} {p w : Nat} {wids : List Int}

section Lists

variable {z z' : ZOrder.Desktop} {w a : Nat}

/-- Every list of windows ends, and holds created windows only. -/
structure Wired (z : ZOrder.Desktop) : Prop where
  absent : ∀ p, z.count ≤ p → (z.window p).used = false
  bounded : ∀ p q, z.next p = some q → q < z.count
  ends : ∀ p, ∃ l, Follows z.next (some p) l
  first : ∀ p, z.firstWindow = some p → p < z.count

theorem Wired.lt_of_used (h : Wired z) (hw : ¬ (z.window w).used = false) : w < z.count := by
  by_contra hle
  exact hw (h.absent w (Nat.le_of_not_lt hle))

theorem Wired.lt_of_follows (h : Wired z) {l : List Nat} (hl : Follows z.next start l)
    (hstart : ∀ p, start = some p → p < z.count) :
    ∀ p ∈ l, p < z.count := by
  induction hl with
  | nil => exact fun p hp => (List.not_mem_nil hp).elim
  | cons b l _ ih =>
      intro p hp
      rcases List.mem_cons.mp hp with rfl | hp
      · exact hstart p rfl
      · exact ih (h.bounded b) p hp

theorem Wired.follows (h : Wired z) (hstart : ∀ p, start = some p → p < z.count) :
    ∃ l, Follows z.next start l ∧ l.length ≤ z.count := by
  cases start with
  | none => exact ⟨[], .nil, Nat.zero_le _⟩
  | some p =>
      obtain ⟨l, hl⟩ := h.ends p
      exact ⟨l, hl, ZOrder.length_le_of_lt hl.nodup (h.lt_of_follows hl hstart)⟩

theorem Wired.link (h : Wired z) (hw : w < z.count) (a : Nat)
    (hused : ∀ p, z.count ≤ p → (z'.window p).used = (z.window p).used)
    (hcount : z'.count = z.count)
    (hnext : z'.next = Function.update (Function.update z.next a (some w)) w none)
    (hfirst : ∀ p, z'.firstWindow = some p → p < z.count) : Wired z' := by
  refine ⟨?_, ?_, ?_, ?_⟩
  · intro p hp
    rw [hcount] at hp
    rw [hused p hp]
    exact h.absent p hp
  · intro p q hq
    rw [hnext] at hq
    rw [hcount]
    rcases eq_or_ne p w with rfl | hpw
    · rw [Function.update_self] at hq
      cases hq
    · rw [Function.update_of_ne hpw] at hq
      rcases eq_or_ne p a with rfl | hpa
      · rw [Function.update_self] at hq
        obtain rfl := Option.some.inj hq
        exact hw
      · rw [Function.update_of_ne hpa] at hq
        exact h.bounded p q hq
  · intro p
    obtain ⟨l, hl⟩ := h.ends p
    rw [hnext]
    exact hl.link a w
  · intro p hp
    rw [hcount]
    exact hfirst p hp

theorem Wired.congr (h : Wired z)
    (hused : ∀ p, z.count ≤ p → (z'.window p).used = (z.window p).used)
    (hcount : z'.count = z.count) (hnext : z'.next = z.next)
    (hfirst : ∀ p, z'.firstWindow = some p → p < z.count) : Wired z' := by
  refine ⟨?_, ?_, ?_, ?_⟩
  · intro p hp
    rw [hcount] at hp
    rw [hused p hp]
    exact h.absent p hp
  · rw [hnext, hcount]
    exact h.bounded
  · rw [hnext]
    exact h.ends
  · rw [hcount]
    exact hfirst

theorem update_link (next : Nat → Option Nat) (w : Nat) :
    Function.update (Function.update next w (some w)) w none = Function.update next w none :=
  Function.update_idem ..

theorem next_endsWith (z : ZOrder.Desktop) (w : Nat) :
    (ZOrder.endsWith z w).next = Function.update z.next w none := by
  rw [ZOrder.endsWith, (ZOrder.setActiveWindow_same _ w).2.1, ZOrder.next_setNext]
  rfl

theorem firstWindow_endsWith (z : ZOrder.Desktop) (w : Nat) :
    (ZOrder.endsWith z w).firstWindow = z.firstWindow := by
  rw [ZOrder.endsWith, (ZOrder.setActiveWindow_same _ w).2.2.1]
  rfl

theorem Wired.restart (h : Wired z) (hw : w < z.count) :
    Wired (ZOrder.endsWith (ZOrder.setFirst z (some w)) w) := by
  have hsame := ZOrder.endsWith_same (ZOrder.setFirst z (some w)) w
  refine h.link hw w (fun p _ => hsame.used p) hsame.count ?_ ?_
  · rw [next_endsWith, update_link]
    rfl
  · intro p hp
    rw [firstWindow_endsWith] at hp
    obtain rfl := Option.some.inj hp
    exact hw

theorem Wired.append (h : Wired z) (hw : w < z.count) (last : Nat) :
    Wired (ZOrder.endsWith (ZOrder.setPrev (setNext z last (some w)) w (some last)) w) := by
  have hsame := ((ZOrder.sameWindows_setNext z last (some w)).trans
    (ZOrder.sameWindows_setPrev _ w (some last))).trans (ZOrder.endsWith_same _ w)
  refine h.link hw last (fun p _ => hsame.used p) hsame.count ?_ ?_
  · rw [next_endsWith, ZOrder.next_setPrev, ZOrder.next_setNext]
  · intro p hp
    rw [firstWindow_endsWith] at hp
    exact h.first p hp

theorem Wired.addWindowToTop (h : Wired z) (hadd : wmAddWindowToTop z (some w) = .ok z') :
    Wired z' ∧ z'.count = z.count := by
  unfold wmAddWindowToTop at hadd
  dsimp only at hadd
  split at hadd
  · obtain rfl := Except.ok.inj hadd
    exact ⟨h, rfl⟩
  · rename_i hused
    have hw := h.lt_of_used hused
    have hrestart : Wired (ZOrder.endsWith (ZOrder.setFirst z (some w)) w) ∧
        (ZOrder.endsWith (ZOrder.setFirst z (some w)) w).count = z.count :=
      ⟨h.restart hw, (ZOrder.endsWith_same _ w).count⟩
    split at hadd
    · obtain rfl := Except.ok.inj hadd
      exact ⟨h, rfl⟩
    · split at hadd
      · obtain rfl := Except.ok.inj hadd
        exact ⟨h, rfl⟩
      · split at hadd
        · obtain rfl := Except.ok.inj hadd
          exact hrestart
        · split at hadd
          · obtain rfl := Except.ok.inj hadd
            exact hrestart
          · split at hadd
            · obtain rfl := Except.ok.inj hadd
              exact hrestart
            · split at hadd
              · cases hadd
              · rename_i last _
                obtain rfl := Except.ok.inj hadd
                refine ⟨h.append hw last, ?_⟩
                rw [(ZOrder.endsWith_same _ w).count]
                rfl

theorem Wired.setActiveWindow (h : Wired z) (w : Nat) : Wired (ZOrder.setActiveWindow z w) := by
  obtain ⟨hsame, hnext, hfirst, _⟩ := ZOrder.setActiveWindow_same z w
  refine h.congr (fun p _ => hsame.used p) hsame.count hnext ?_
  rw [hfirst]
  exact h.first

theorem Wired.kill (h : Wired z) (w : Nat) : Wired (ZOrder.kill z w) := by
  refine h.congr ?_ rfl (ZOrder.next_kill z w) h.first
  intro p hp
  rcases eq_or_ne p w with rfl | hne
  · rw [ZOrder.kill, h.absent p hp]
    dsimp only
    rw [Function.update_self]
  · rw [ZOrder.kill]
    dsimp only
    rw [Function.update_of_ne hne]

theorem Wired.removeWindow (h : Wired z)
    (hremove : ZOrder.wmRemoveWindowFromList z (some w) = .ok z') :
    Wired z' ∧ z'.count = z.count := by
  unfold ZOrder.wmRemoveWindowFromList at hremove
  dsimp only at hremove
  split at hremove
  · cases hremove
  · obtain rfl := Except.ok.inj hremove
    exact ⟨h, rfl⟩
  · obtain rfl := Except.ok.inj hremove
    exact ⟨h.kill w, rfl⟩

theorem Wired.moveToTop (h : Wired z)
    (hmove : ZOrder.wmUpdateDesktop3.moveToTop z w = .ok z') :
    Wired z' ∧ z'.count = z.count := by
  unfold ZOrder.wmUpdateDesktop3.moveToTop at hmove
  split at hmove
  · obtain rfl := Except.ok.inj hmove
    exact ⟨h, rfl⟩
  · split at hmove
    · cases hmove
    · rename_i z₁ hremove
      obtain ⟨h₁, hcount₁⟩ := h.removeWindow hremove
      obtain ⟨h', hcount'⟩ := h₁.addWindowToTop hmove
      exact ⟨h', hcount'.trans hcount₁⟩

theorem Wired.updateDesktop3 (h : Wired z)
    (hraise : ZOrder.wmUpdateDesktop3 z (some w) = .ok z') :
    Wired z' ∧ z'.count = z.count := by
  unfold ZOrder.wmUpdateDesktop3 at hraise
  dsimp only at hraise
  split at hraise
  · obtain rfl := Except.ok.inj hraise
    exact ⟨h.setActiveWindow w, (ZOrder.setActiveWindow_same z w).1.count⟩
  · split at hraise
    · cases hraise
    · rename_i z₁ hmove
      obtain ⟨h₁, hcount₁⟩ := h.moveToTop hmove
      obtain rfl := Except.ok.inj hraise
      have hfirst : Wired
          (if some w = z₁.firstWindow then ZOrder.setFirst z₁ (z₁.next w) else z₁) ∧
          (if some w = z₁.firstWindow then ZOrder.setFirst z₁ (z₁.next w) else z₁).count =
            z₁.count := by
        split
        · exact ⟨h₁.congr (fun _ _ => rfl) rfl rfl (h₁.bounded w), rfl⟩
        · exact ⟨h₁, rfl⟩
      refine ⟨hfirst.1.setActiveWindow w, ?_⟩
      rw [(ZOrder.setActiveWindow_same _ w).1.count, hfirst.2, hcount₁]

theorem Wired.register (h : Wired z) (w : Nat) :
    Wired (registerWindow z w) ∧ (registerWindow z w).count = z.count := by
  rw [registerWindow]
  dsimp only
  split
  · exact ⟨h.congr (fun _ _ => rfl) rfl rfl h.first, rfl⟩
  · split
    · exact ⟨h.congr (fun _ _ => rfl) rfl rfl h.first, rfl⟩
    · exact ⟨h.congr (fun _ _ => rfl) rfl rfl h.first, rfl⟩

theorem Wired.create (h : Wired z) (type : Nat) : Wired (ZOrder.createWindow z type) := by
  have hnext : (ZOrder.createWindow z type).next = Function.update z.next z.count none := by
    funext p
    rw [ZOrder.Desktop.next, ZOrder.createWindow]
    dsimp only
    rcases eq_or_ne p z.count with rfl | hne
    · rw [Function.update_self, Function.update_self]
      rfl
    · rw [Function.update_of_ne hne, Function.update_of_ne hne]
      rfl
  refine ⟨?_, ?_, ?_, ?_⟩
  · intro p hp
    have hlt : z.count < p := hp
    rw [ZOrder.createWindow]
    dsimp only
    rw [Function.update_of_ne (by omega)]
    exact h.absent p (by omega)
  · intro p q hq
    change q < z.count + 1
    rw [hnext] at hq
    rcases eq_or_ne p z.count with rfl | hne
    · rw [Function.update_self] at hq
      cases hq
    · rw [Function.update_of_ne hne] at hq
      have hlt := h.bounded p q hq
      omega
  · intro p
    obtain ⟨l, hl⟩ := h.ends p
    rw [hnext, ← update_link]
    exact hl.link z.count z.count
  · intro p hp
    change p < z.count + 1
    have hlt := h.first p hp
    omega

theorem Wired.appendChild (h : Wired z) (hw : w < z.count) (a : Nat) :
    Wired (setNext (setNext z a (some w)) w none) := by
  have hsame := (ZOrder.sameWindows_setNext z a (some w)).trans
    (ZOrder.sameWindows_setNext _ w none)
  refine h.link hw a (fun p _ => hsame.used p) hsame.count ?_ h.first
  rw [ZOrder.next_setNext, ZOrder.next_setNext]

theorem Wired.onlyChild (h : Wired z) (hw : w < z.count) : Wired (setNext z w none) := by
  have hsame := ZOrder.sameWindows_setNext z w none
  refine h.link hw w (fun p _ => hsame.used p) hsame.count ?_ h.first
  rw [ZOrder.next_setNext, update_link]

end Lists

section Servers

variable {k : Geometry.Desktop} {s s' : Server} {x y : UInt64}

/-- The lists of the server, those of the children included. -/
structure ServerWired (s : Server) : Prop where
  wired : Wired s.z
  heads : ∀ q p, s.childHead q = some p → p < s.z.count

/-- What the calls for new windows do, besides creating them, to the lists only. -/
structure SameBoxes (s s' : Server) : Prop where
  boxes : s'.boxes = s.boxes
  count : s'.z.count = s.z.count

theorem SameBoxes.refl (s : Server) : SameBoxes s s := ⟨rfl, rfl⟩

theorem SameBoxes.trans {s'' : Server} (h : SameBoxes s s') (h' : SameBoxes s' s'') :
    SameBoxes s s'' :=
  ⟨h'.boxes.trans h.boxes, h'.count.trans h.count⟩

theorem serverWired_addToTop (h : ServerWired s) (hadd : addToTop k s p = .ok s') :
    ServerWired s' ∧ SameBoxes s s' := by
  rw [addToTop] at hadd
  split at hadd
  · split at hadd
    · cases hadd
    · rename_i z hz
      obtain rfl := Except.ok.inj hadd
      obtain ⟨hwired, hcount⟩ := h.wired.addWindowToTop hz
      refine ⟨⟨hwired, fun q p hp => ?_⟩, rfl, hcount⟩
      have hlt := h.heads q p hp
      change p < z.count
      omega
  · obtain rfl := Except.ok.inj hadd
    exact ⟨h, SameBoxes.refl s⟩

theorem serverWired_addChild {q : Nat} (h : ServerWired s)
    (hadd : wmAddChildWindow k s q p = .ok s') : ServerWired s' ∧ SameBoxes s s' := by
  rw [wmAddChildWindow] at hadd
  split at hadd
  · obtain rfl := Except.ok.inj hadd
    exact ⟨h, SameBoxes.refl s⟩
  · split at hadd
    · obtain rfl := Except.ok.inj hadd
      exact ⟨h, SameBoxes.refl s⟩
    · split at hadd
      · obtain rfl := Except.ok.inj hadd
        exact ⟨h, SameBoxes.refl s⟩
      · rename_i hlive
        have hp : p < s.z.count := by
          apply h.wired.lt_of_used
          rw [not_not] at hlive
          rw [hlive.1]
          decide
        split at hadd
        · obtain rfl := Except.ok.inj hadd
          refine ⟨⟨h.wired.onlyChild hp, fun r c hc => ?_⟩, rfl, rfl⟩
          dsimp only at hc
          rcases eq_or_ne r q with rfl | hne
          · rw [Function.update_self] at hc
            obtain rfl := Option.some.inj hc
            exact hp
          · rw [Function.update_of_ne hne] at hc
            exact h.heads r c hc
        · split at hadd
          · cases hadd
          · rename_i last _
            obtain rfl := Except.ok.inj hadd
            exact ⟨⟨h.wired.appendChild hp last, h.heads⟩, rfl, rfl⟩

theorem serverWired_addToParent (h : ServerWired s) (hadd : addToParent k s p = .ok s') :
    ServerWired s' ∧ SameBoxes s s' := by
  rw [addToParent] at hadd
  split at hadd
  · obtain rfl := Except.ok.inj hadd
    exact ⟨h, SameBoxes.refl s⟩
  · exact serverWired_addChild h hadd

theorem serverWired_register (h : ServerWired s) :
    ServerWired (register s p) ∧ SameBoxes s (register s p) := by
  obtain ⟨hwired, hcount⟩ := h.wired.register p
  refine ⟨⟨hwired, fun q c hc => ?_⟩, rfl, hcount⟩
  have hlt := h.heads q c hc
  change c < (registerWindow s.z p).count
  omega

theorem serverWired_newServer (h : ServerWired s) (box : Box) :
    ServerWired (newServer k s box) := by
  refine ⟨h.wired.create _, fun q p hp => ?_⟩
  have hlt := h.heads q p hp
  change p < s.z.count + 1
  omega

theorem serverWired_create {fChild : Bool} {box : Box} (h : ServerWired s)
    (hcreate : serviceCreateWindow k s fChild box = .ok s') :
    ServerWired s' ∧ s'.boxes = s.boxes.set s.z.count (fun _ => box.synced) := by
  rw [serviceCreateWindow] at hcreate
  split at hcreate
  · cases hcreate
  · rename_i s₁ h₁
    obtain ⟨hwired₁, hsame₁⟩ := serverWired_addToTop (serverWired_newServer h box) h₁
    obtain ⟨hwired₂, hsame₂⟩ := serverWired_register (p := s.z.count) hwired₁
    split at hcreate
    · cases hcreate
    · rename_i s₃ h₃
      have hstep₃ : ServerWired s₃ ∧ SameBoxes (register s₁ s.z.count) s₃ := by
        split at h₃
        · exact serverWired_addToParent hwired₂ h₃
        · obtain rfl := Except.ok.inj h₃
          exact ⟨hwired₂, SameBoxes.refl _⟩
      split at hcreate
      · cases hcreate
      · rename_i s₄ h₄
        have hstep₄ : ServerWired s₄ ∧ SameBoxes s₃ s₄ := by
          split at h₄
          · exact serverWired_addToParent hstep₃.1 h₄
          · obtain rfl := Except.ok.inj h₄
            exact ⟨hstep₃.1, SameBoxes.refl _⟩
        obtain ⟨hwired', hsame'⟩ := serverWired_addToTop hstep₄.1 hcreate
        have hboxes := ((hsame₁.trans hsame₂).trans
          ((hstep₃.2.trans hstep₄.2).trans hsame')).boxes
        exact ⟨hwired', hboxes⟩

def TaskbarUnder (k : Geometry.Desktop) (s : Server) (x y : UInt64) (t : Nat) : Prop :=
  k.initialized = true ∧ k.taskbarWindow = some t ∧ s.under x y t = true

/-- The overlapped window on top of those under the mouse, which is not over the taskbar. -/
def WindowUnder (k : Geometry.Desktop) (s : Server) (x y : UInt64) (w : Nat) : Prop :=
  k.initialized = true ∧ (∀ t, ¬ TaskbarUnder k s x y t) ∧
    ∃ order, Follows s.z.next s.z.firstWindow order ∧
      IsTop (fun v => (k.overlapped v && s.under x y v) = true) order w

def ControlsFound (k : Geometry.Desktop) (s : Server) (w : Nat) : Prop :=
  ∀ t, validTitlebar k s w = some t → ∀ wid ∈ controlWids k t,
    (s.desk k).windowFromWid wid ≠ none

/-- The mouse is neither over the title bar nor over a control, but over a child. -/
def OverChild (k : Geometry.Desktop) (s : Server) (x y : UInt64) (w : Nat) : Prop :=
  (∀ t, validTitlebar k s w = some t →
    ¬ s.under x y t = true ∧ ∀ c ∈ (s.desk k).controls t, ¬ s.under x y c = true) ∧
    ∃ children, Follows s.z.next (s.childHead w) children ∧
      ∃ c ∈ children, s.under x y c = true

theorem childUnder_eq (h : ServerWired s) (w : Nat) :
    ∃ children, Follows s.z.next (s.childHead w) children ∧
      childUnder s x y w = .ok (children.find? (s.under x y)) := by
  obtain ⟨children, hfollows, hlength⟩ := h.wired.follows (h.heads w)
  refine ⟨children, hfollows, ?_⟩
  rw [childUnder, hfollows.findCell_eq hlength]

theorem hitInside_eq (h : ServerWired s) (w : Nat) :
    ∃ hit, hitInside s x y w = .ok hit ∧ hit.application = some w ∧
      (hit.inFrame = false ↔ ∃ children, Follows s.z.next (s.childHead w) children ∧
        ∃ c ∈ children, s.under x y c = true) := by
  obtain ⟨children, hfollows, hchild⟩ := childUnder_eq (x := x) (y := y) h w
  rw [hitInside, hchild]
  cases hfind : children.find? (s.under x y) with
  | none =>
      refine ⟨.window w, rfl, rfl, ?_⟩
      rw [List.find?_eq_none] at hfind
      constructor
      · intro hframe
        cases hframe
      · rintro ⟨children', hfollows', c, hc, hunder⟩
        rw [hfollows'.unique hfollows] at hc
        exact (hfind c hc hunder).elim
  | some c =>
      refine ⟨.child w c, rfl, rfl, fun _ => ?_, fun _ => rfl⟩
      exact ⟨children, hfollows, c, List.mem_of_find?_eq_some hfind, List.find?_some hfind⟩

theorem mapM_findControl (h : ∀ wid ∈ wids, (s.desk k).windowFromWid wid ≠ none) :
    wids.mapM (findControl k s) = .ok (wids.filterMap (s.desk k).windowFromWid) := by
  induction wids with
  | nil => rfl
  | cons wid wids ih =>
      obtain ⟨c, hc⟩ := Option.ne_none_iff_exists'.mp (h wid List.mem_cons_self)
      rw [List.mapM_cons, findControl, hc,
        ih fun wid' hmem => h wid' (List.mem_cons_of_mem wid hmem), List.filterMap_cons, hc]
      rfl

theorem mapM_findControl_null {wid : Int} (hmem : wid ∈ wids)
    (hnull : (s.desk k).windowFromWid wid = none) :
    ∃ e, wids.mapM (findControl k s) = .error e := by
  induction wids with
  | nil => cases hmem
  | cons wid' wids ih =>
      rw [List.mapM_cons]
      cases hfind : findControl k s wid' with
      | error e => exact ⟨e, rfl⟩
      | ok c =>
          rcases List.mem_cons.mp hmem with rfl | hmem
          · rw [findControl, hnull] at hfind
            cases hfind
          · obtain ⟨e, he⟩ := ih hmem
            rw [he]
            exact ⟨e, rfl⟩

theorem hitWindow_eq (h : ServerWired s) (hfound : ControlsFound k s w) :
    ∃ hit, hitWindow k s x y w = .ok hit ∧ hit.application = some w ∧
      (hit.inFrame = false ↔ OverChild k s x y w) := by
  obtain ⟨inside, hinside, happ, hframe⟩ := hitInside_eq (x := x) (y := y) h w
  rw [hitWindow]
  cases ht : validTitlebar k s w with
  | none =>
      refine ⟨inside, hinside, happ, hframe.trans ?_⟩
      rw [OverChild, ht]
      exact ⟨fun hchild => ⟨fun t h => (by cases h), hchild⟩, fun hover => hover.2⟩
  | some t =>
      have hcontrols : (controlWids k t).mapM (findControl k s) =
          .ok ((s.desk k).controls t) := mapM_findControl (hfound t ht)
      dsimp only
      rw [hcontrols]
      dsimp only
      cases htop : topmost (s.under x y) ((s.desk k).controls t) with
      | some c =>
          have hc := topmost_eq_some.mp htop
          refine ⟨.control w c, rfl, rfl, ?_⟩
          constructor
          · intro hfalse
            cases hfalse
          · intro hover
            exact ((hover.1 t ht).2 c hc.mem hc.holds).elim
      | none =>
          have hnone := topmost_eq_none.mp htop
          dsimp only
          by_cases hbar : s.under x y t = true
          · rw [if_pos hbar]
            refine ⟨.titlebar w t, rfl, rfl, ?_⟩
            constructor
            · intro hfalse
              cases hfalse
            · intro hover
              exact ((hover.1 t ht).1 hbar).elim
          · rw [if_neg hbar]
            refine ⟨inside, hinside, happ, hframe.trans ?_⟩
            constructor
            · intro hchild
              refine ⟨fun t' ht' => ?_, hchild⟩
              rw [ht] at ht'
              rw [← Option.some.inj ht']
              exact ⟨hbar, hnone⟩
            · exact fun hover => hover.2

theorem hitTest_taskbar (h : ServerWired s) {t : Nat} (ht : TaskbarUnder k s x y t) :
    ∃ child, hitTest k s x y = .ok (.taskbar t child) := by
  obtain ⟨hinit, hbar, hunder⟩ := ht
  obtain ⟨children, _, hchild⟩ := childUnder_eq (x := x) (y := y) h t
  rw [hitTest, hinit, if_neg (by decide), hbar, Option.filter_some, if_pos hunder]
  dsimp only
  rw [hchild]
  exact ⟨_, rfl⟩

theorem filter_taskbar (hinit : k.initialized = true) (hbar : ∀ t, ¬ TaskbarUnder k s x y t) :
    k.taskbarWindow.filter (s.under x y) = none := by
  rw [Option.filter_eq_none_iff]
  exact fun t ht hunder => hbar t ⟨hinit, ht, hunder⟩

theorem hitTest_of_order (h : ServerWired s) (hinit : k.initialized = true)
    (hbar : ∀ t, ¬ TaskbarUnder k s x y t) {order : List Nat}
    (horder : Follows s.z.next s.z.firstWindow order) :
    hitTest k s x y = match topmost (fun w => k.overlapped w && s.under x y w) order with
      | none => .ok .nothing
      | some w => hitWindow k s x y w := by
  obtain ⟨order', hfollows, hlength⟩ := h.wired.follows h.wired.first
  obtain rfl := horder.unique hfollows
  rw [hitTest, hinit, if_neg (by decide), filter_taskbar hinit hbar]
  dsimp only
  rw [hfollows.cells_eq hlength]

theorem hitTest_window (h : ServerWired s) (hw : WindowUnder k s x y w) :
    hitTest k s x y = hitWindow k s x y w := by
  obtain ⟨hinit, hbar, order, hfollows, htop⟩ := hw
  rw [hitTest_of_order h hinit hbar hfollows, topmost_eq_some.mpr htop]

theorem hitTest_nothing (h : ServerWired s) (hbar : ∀ t, ¬ TaskbarUnder k s x y t)
    (hnone : ∀ w, ¬ WindowUnder k s x y w) : hitTest k s x y = .ok .nothing := by
  cases hinit : k.initialized with
  | false => rw [hitTest, hinit, if_pos rfl]
  | true =>
      obtain ⟨order, hfollows, _⟩ := h.wired.follows h.wired.first
      rw [hitTest_of_order h hinit hbar hfollows]
      cases htop : topmost (fun w => k.overlapped w && s.under x y w) order with
      | none => rfl
      | some w =>
          exact (hnone w ⟨hinit, hbar, order, hfollows, topmost_eq_some.mp htop⟩).elim

theorem hitWindow_null (hnot : ¬ ControlsFound k s w) : ∃ e, hitWindow k s x y w = .error e := by
  rw [ControlsFound] at hnot
  simp only [not_forall, not_not] at hnot
  obtain ⟨t, ht, wid, hwid, hnull⟩ := hnot
  obtain ⟨e, he⟩ := mapM_findControl_null hwid hnull
  rw [hitWindow, ht]
  dsimp only
  rw [he]
  exact ⟨e, rfl⟩

theorem WindowUnder.unique {w' : Nat} (h : WindowUnder k s x y w) (h' : WindowUnder k s x y w') :
    w = w' := by
  obtain ⟨_, _, order, hfollows, htop⟩ := h
  obtain ⟨_, _, order', hfollows', htop'⟩ := h'
  rw [hfollows'.unique hfollows] at htop'
  exact htop.unique htop'

end Servers

end Gramado.Ds.HitTest
