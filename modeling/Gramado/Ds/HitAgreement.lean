import Gramado.Ds.HitTest
import Gramado.Ds.WindowChanges
import Gramado.Gdi.WindowProxies

/-! The hit tests of the kernel and of the display server. -/

namespace Gramado.Ds.HitAgreement

open Ds.Geometry hiding Desktop WINDOW_COUNT_MAX step
open Ds.WindowFrames Ds.WindowChanges Ds.HitTest Gdi.WindowProxies Library.Run Library.Topmost

/-- The server, the kernel and, for each proxy, the window whose rectangle it was given last. The
source keeps the last one nowhere. -/
structure System where
  server : Server
  kernel : Kernel
  reporter : Nat → Option Nat

inductive Event where
  | thread (tid : Nat) (expanded : Bool)
  | setShell (tid : Nat)
  | setExpanded (tid : Nat)
  | create (fChild : Bool) (box : Box)
  | change (c : Call)
  | minimize (p : Nat)
  | raise (p : Nat)
  | point (x y : UInt64)

def client (k : Geometry.Desktop) (p : Nat) : Nat := (k.nodes p).clientTid.toNat % 2 ^ 32

def report (p : Nat) (s : System) (m : ProxyMessage) : System :=
  if m.tid ∈ s.kernel.wproxies then
    { s with
      kernel := wproxySetParametersGivenTid s.kernel m
      reporter := Function.update s.reporter m.tid (some p) }
  else s

def withBoxes (s : System) (b : Boxes) : System :=
  { s with server := { s.server with boxes := b } }

def step (k : Geometry.Desktop) (s : System) (e : Event) : Except String (Unit × System) :=
  match e with
  | .thread tid expanded => .ok ((), { s with kernel := createThread s.kernel tid expanded })
  | .setShell tid => .ok ((), { s with kernel := wproxySetShell s.kernel tid })
  | .setExpanded tid =>
      .ok ((), { s with kernel := wproxySetExpandedNonclientArea s.kernel tid })
  -- The client tells the kernel the rectangle of its new window.
  | .create fChild box =>
      match serviceCreateWindow k s.server fChild box with
      | .error e => .error e
      | .ok server =>
          let p := s.server.z.count
          .ok ((), (proxyMessages k p server.boxes).foldl (report p) { s with server := server })
  | .change c =>
      let (messages, b) := call (s.server.desk k) c s.server.boxes
      .ok ((), messages.foldl (report (callWindow c)) (withBoxes s b))
  | .minimize p => .ok ((), withBoxes s (minimizeWindow (s.server.desk k) p s.server.boxes))
  | .raise p =>
      match ZOrder.wmUpdateDesktop3 s.server.z (some p) with
      | .error e => .error e
      | .ok z => .ok ((), { s with server := { s.server with z := z } })
  | .point x y =>
      match wmHitTest2 k s.server x y with
      | .error e => .error e
      | .ok server =>
          .ok ((), { s with server := server, kernel := wproxyHitTest00 s.kernel x y })

def emptyBox : Box := ⟨.WINDOW_STATE_NORMAL, 0, 0, 0, 0, 0, 0, 0, 0, 0, 0, 0, 0⟩

def boot : System where
  server := ⟨ZOrder.emptyDesktop.desktop, fun _ => emptyBox, fun _ => none, none, fun _ => (0, 0)⟩
  kernel := ⟨fun _ => ⟨0, 0, 0, 0, 0, 0, 0, 0, 0, .HIT_NONE, false⟩, [], none, none⟩
  reporter := fun _ => none

/-- The kernel has found the thread of the window that the server has found, and the client area
if the server has found neither the frame nor the title bar nor a control. -/
def Agree (k : Geometry.Desktop) : Option (Nat × HitArea) → Hit → Prop
  | none, hit => hit.application = none
  | some (tid, area), hit =>
      hit.application.map (client k) = some tid ∧ (area = .HIT_CLIENT ↔ hit.inFrame = false)

instance (k : Geometry.Desktop) (found : Option (Nat × HitArea)) (hit : Hit) :
    Decidable (Agree k found hit) :=
  match found with
  | none => inferInstanceAs (Decidable (hit.application = none))
  | some _ => inferInstanceAs (Decidable (_ ∧ _))

def AgreeAt (k : Geometry.Desktop) (s : System) (x y : UInt64) : Prop :=
  match hitTest k s.server x y with
  | .error _ => False
  | .ok hit => Agree k (wproxyHitTest00 s.kernel x y).hit hit

instance (k : Geometry.Desktop) (s : System) (x y : UInt64) : Decidable (AgreeAt k s x y) :=
  match h : hitTest k s.server x y with
  | .error _ => isFalse (by rw [AgreeAt, h]; exact id)
  | .ok hit =>
      decidable_of_iff (Agree k (wproxyHitTest00 s.kernel x y).hit hit) (by rw [AgreeAt, h])

def Planned (k : Geometry.Desktop) : Prop :=
  ∀ p t, k.overlapped p = true → (k.nodes p).titlebar = some t →
    k.overlapped t = false ∧ ∀ wid ∈ controlWids k t, ∀ c, k.windowList wid.toNat = some c →
      k.overlapped c = false

section Fits

variable (k : Geometry.Desktop) (s : System) (x y : UInt64)

/-- The point is in the rectangle of the overlapped window that the thread has reported last. A
thread without a window has a square in the corner of the screen. -/
def Shows (tid : Nat) : Prop :=
  match s.reporter tid with
  | none => x ≤ 100 ∧ y ≤ 100
  | some p =>
      if k.overlapped p = true then Box.under (s.server.boxes p) x y = true
      else (s.kernel.wproxy tid).inFrame x y = true

def InClient (m : ProxyMessage) : Prop :=
  m.left + m.clientLeft ≤ x ∧ x ≤ m.left + (m.clientLeft + m.clientWidth) ∧
    m.top + m.clientTop ≤ y ∧ y ≤ m.top + (m.clientTop + m.clientHeight)

def ShowsClient (tid : Nat) : Prop :=
  match s.reporter tid with
  | none => x ≤ 100 ∧ y ≤ 100
  | some p =>
      if k.overlapped p = true then InClient x y (proxyMessage k p s.server.boxes)
      else (s.kernel.wproxy tid).inClient x y = true

/-- The thread of the shell is in front of all the others; these are in front of each other in the
order in which they were created. -/
def Front (tid : Nat) : Prop :=
  (s.kernel.shell = some tid ∧ Shows k s x y tid) ∨
    (∀ shell, s.kernel.shell = some shell → ¬ Shows k s x y shell) ∧
      IsTop (Shows k s x y) s.kernel.wproxies tid

def FrontClient (tid : Nat) : Prop :=
  s.kernel.shell = some tid ∨
    ShowsClient k s x y tid ∧ (s.kernel.wproxy tid).expandedNonclientArea = false

structure FitsAt : Prop where
  taskbar : ∀ t, TaskbarUnder k s.server x y t →
    Front k s x y (client k t) ∧ FrontClient k s x y (client k t)
  window : ∀ w, WindowUnder k s.server x y w → ControlsFound k s.server w ∧
    Front k s x y (client k w) ∧
      (FrontClient k s x y (client k w) ↔ OverChild k s.server x y w)
  nothing : (∀ t, ¬ TaskbarUnder k s.server x y t) → (∀ w, ¬ WindowUnder k s.server x y w) →
    ∀ tid ∈ s.kernel.wproxies, ¬ Shows k s x y tid

end Fits

variable {s server : Server} {r : List ProxyMessage × Boxes} {w : Wproxy}
  {messages : List ProxyMessage} {box : Box}

section Calls

variable {k d : Geometry.Desktop} {b : Boxes} {p q t : Nat} {x y : UInt64}

theorem foldl_update_of_notMem {α β : Type*} [DecidableEq α] {l : List α} (f : α → β → β)
    (g : α → β) {j : α} (hj : j ∉ l) :
    (l.foldl (fun g i => Function.update g i (f i (g i))) g) j = g j := by
  induction l generalizing g with
  | nil => rfl
  | cons i rest ih =>
      rw [List.mem_cons, not_or] at hj
      rw [List.foldl_cons, ih _ hj.2, Function.update_of_ne hj.1]

theorem resizeTitlebar_of_notMem (hq : q ≠ t) (hnot : q ∉ k.controls t) :
    resizeTitlebar k p t b q = b q := by
  rw [resizeTitlebar]
  refine (foldl_update_of_notMem (fun c => Box.setLeft _) _ hnot).trans ?_
  exact set_of_ne _ _ hq

theorem moveTitlebar_of_notMem (hq : q ≠ t) (hnot : q ∉ k.controls t) :
    moveTitlebar k p t b q = b q := by
  rw [moveTitlebar]
  split
  · refine (foldl_update_of_notMem (fun _ (box : Box) =>
      box.placedAt ((b p).absoluteX + (k.nodes p).borderSize + box.left)
        ((b p).absoluteY + (k.nodes p).borderSize + box.top)) _ hnot).trans ?_
    exact set_of_ne _ _ hq
  · exact set_of_ne _ _ hq

theorem windowFromWid_desk {wid : Int} {c : Nat} (h : (s.desk k).windowFromWid wid = some c) :
    k.windowList wid.toNat = some c := by
  rw [Desktop.windowFromWid] at h
  split at h
  · cases h
  · exact (Option.filter_eq_some_iff.mp h).1

theorem Planned.apart (h : Planned k) (hp : k.overlapped p = true)
    (ht : (k.nodes p).titlebar = some t) (hq : k.overlapped q = true) :
    q ≠ t ∧ q ∉ (s.desk k).controls t := by
  obtain ⟨hbar, hcontrols⟩ := h p t hp ht
  refine ⟨?_, fun hmem => ?_⟩
  · rintro rfl
    rw [hq] at hbar
    cases hbar
  · obtain ⟨wid, hwid, hfound⟩ := List.mem_filterMap.mp hmem
    have hnot := hcontrols wid hwid q (windowFromWid_desk hfound)
    rw [hq] at hnot
    cases hnot

def Apart (d : Geometry.Desktop) : Prop :=
  ∀ p t q, FrameOf d p t → d.overlapped q = true → q ≠ t ∧ q ∉ d.controls t

theorem Planned.desk (h : Planned k) (s : Server) : Apart (s.desk k) :=
  fun _ _ _ hf hq => h.apart hf.overlapped hf.titlebar hq

theorem resize_other (hapart : Apart d) (hv : (d.nodes p).valid = true) (cx cy : UInt64)
    (hq : d.overlapped q = true) (hne : q ≠ p) :
    (gwsResizeWindow d p cx cy b).2 q = b q := by
  rw [gwsResizeWindow_of_ne hv cx cy hne, withTitlebar_other hv fun t hf =>
    resizeTitlebar_of_notMem (hapart p t q hf hq).1 (hapart p t q hf hq).2,
    resizedWindow_of_ne d cx cy b hne]

theorem resize_self (hapart : Apart d) (hv : (d.nodes p).valid = true) (cx cy : UInt64)
    (hp : d.overlapped p = true) :
    (gwsResizeWindow d p cx cy b).2 p =
      (((b p).setSize (d.newSize p cx cy).1 (d.newSize p cx cy).2).synced).setClient
        (d.nodes p) := by
  have hframe : withTitlebar d p (resizeTitlebar d p) (resizedWindow d p cx cy b) p =
      resizedWindow d p cx cy b p :=
    withTitlebar_other hv fun t hf =>
      resizeTitlebar_of_notMem (hapart p t p hf hp).1 (hapart p t p hf hp).2
  have hedit : ¬ ((d.nodes p).type = .WT_EDITBOX_SINGLE_LINE ∨
      (d.nodes p).type = .WT_EDITBOX_MULTIPLE_LINES) := by
    rw [overlapped_iff.mp hp]
    decide
  rw [resizedWindow_self, withTitlebar, if_pos hp] at hframe
  rw [gwsResizeWindow]
  dsimp only
  rw [if_pos hv, if_pos hp, if_neg hedit, set_self]
  exact congrArg _ hframe

theorem move_other (hapart : Apart d) (hv : (d.nodes p).valid = true) (x y : UInt64)
    (hq : d.overlapped q = true) (hne : q ≠ p) :
    (gwssrvChangeWindowPosition d p x y b).2 q = b q := by
  by_cases hp : d.overlapped p = true ∨ d.isTaskbar p = false
  · rw [moved_of_ne x y hp hne, withTitlebar_other hv fun t hf =>
      moveTitlebar_of_notMem (hapart p t q hf hq).1 (hapart p t q hf hq).2,
      placedWindow_of_ne d x y b hne]
  · rw [not_or, Bool.not_eq_true, Bool.not_eq_false] at hp
    rw [taskbar_moved x y hp.1 hp.2, set_of_ne _ _ hne]

theorem move_self (hapart : Apart d) (hv : (d.nodes p).valid = true) (x y : UInt64)
    (hp : d.overlapped p = true) :
    ∃ x' y', (gwssrvChangeWindowPosition d p x y b).2 p =
      ((b p).setRelative x y).placedAt x' y' := by
  have hframe : withTitlebar d p (moveTitlebar d p) (placedWindow d p x y b) p =
      ((b p).setRelative x y).placedAt x y := by
    rw [withTitlebar_other hv fun t hf =>
      moveTitlebar_of_notMem (hapart p t p hf hp).1 (hapart p t p hf hp).2,
      placedWindow_free x y (.inl hp)]
  rw [gwssrvChangeWindowPosition_eq x y (.inl hp), placeInClient]
  generalize withTitlebar d p (moveTitlebar d p) (placedWindow d p x y b) = moved at hframe
  have habsorb : ∀ f g : Box → UInt64, ∃ x' y',
      (moved.set p fun box => box.placedAt (f box) (g box)) p =
        ((b p).setRelative x y).placedAt x' y' := by
    intro f g
    refine ⟨f (moved p), g (moved p), ?_⟩
    rw [set_self, hframe]
    rfl
  cases (d.nodes p).parent with
  | none => exact ⟨x, y, hframe⟩
  | some q =>
      dsimp only
      split
      · exact ⟨x, y, hframe⟩
      · cases (d.nodes q).type with
        | WT_OVERLAPPED => exact habsorb _ _
        | WT_SIMPLE => exact habsorb _ _
        | WT_EDITBOX_SINGLE_LINE => exact ⟨x, y, hframe⟩
        | WT_EDITBOX_MULTIPLE_LINES => exact ⟨x, y, hframe⟩
        | WT_BUTTON => exact ⟨x, y, hframe⟩
        | other => exact ⟨x, y, hframe⟩

/-- What a call for `p` does to the overlapped windows, and what it tells the kernel. -/
structure Reports (d : Geometry.Desktop) (p : Nat) (b : Boxes) (r : List ProxyMessage × Boxes) :
    Prop where
  other : ∀ q, d.overlapped q = true → q ≠ p → r.2 q = b q
  edges : d.overlapped p = true → Edges (b p) → Edges (r.2 p)
  tid : ∀ m ∈ r.1, m.tid = client d p
  last : d.overlapped p = true →
    r.1 = [] ∧ proxyMessage d p r.2 = proxyMessage d p b ∨
      r.1.getLast? = some (proxyMessage d p r.2)

theorem tid_proxyMessages (d : Geometry.Desktop) (p : Nat) (b : Boxes) :
    ∀ m ∈ proxyMessages d p b, m.tid = client d p := by
  rw [proxyMessages]
  split
  · intro m hm
    rw [List.mem_singleton.mp hm]
    rfl
  · exact fun m hm => (List.not_mem_nil hm).elim

theorem proxyMessages_overlapped (hp : d.overlapped p = true) (b : Boxes) :
    proxyMessages d p b = [proxyMessage d p b] := by
  rw [proxyMessages, if_pos (.inl hp)]

theorem reports_resize (hapart : Apart d) (hv : (d.nodes p).valid = true) (cx cy : UInt64)
    (b : Boxes) : Reports d p b (gwsResizeWindow d p cx cy b) := by
  have hsent : (gwsResizeWindow d p cx cy b).1 =
      proxyMessages d p (gwsResizeWindow d p cx cy b).2 := rfl
  refine ⟨fun q hq hne => resize_other hapart hv cx cy hq hne, ?_, ?_, ?_⟩
  · intro hp _
    rw [resize_self hapart hv cx cy hp]
    exact ⟨rfl, rfl⟩
  · rw [hsent]
    exact tid_proxyMessages d p _
  · intro hp
    rw [hsent, proxyMessages_overlapped hp]
    exact .inr rfl

theorem sent_move (x y : UInt64) (hp : d.overlapped p = true) :
    (gwssrvChangeWindowPosition d p x y b).1 =
      proxyMessages d p (gwssrvChangeWindowPosition d p x y b).2 := by
  have hnot : ¬ (d.overlapped p = false ∧ d.isTaskbar p = true) := by
    rintro ⟨hover, _⟩
    rw [hp] at hover
    cases hover
  rw [gwssrvChangeWindowPosition]
  dsimp only
  rw [if_neg hnot]

theorem tid_move (x y : UInt64) :
    ∀ m ∈ (gwssrvChangeWindowPosition d p x y b).1, m.tid = client d p := by
  rw [gwssrvChangeWindowPosition]
  dsimp only
  split
  · exact fun m hm => (List.not_mem_nil hm).elim
  · exact tid_proxyMessages d p _

theorem reports_move (hapart : Apart d) (hv : (d.nodes p).valid = true) (x y : UInt64)
    (b : Boxes) : Reports d p b (gwssrvChangeWindowPosition d p x y b) := by
  refine ⟨fun q hq hne => move_other hapart hv x y hq hne, ?_, tid_move x y, ?_⟩
  · intro hp _
    obtain ⟨x', y', hself⟩ := move_self (b := b) hapart hv x y hp
    rw [hself]
    exact edges_synced _
  · intro hp
    rw [sent_move x y hp, proxyMessages_overlapped hp]
    exact .inr rfl

theorem reports_resizeAndMove (hapart : Apart d) (hv : (d.nodes p).valid = true)
    (cx cy x y : UInt64) (b : Boxes) : Reports d p b (resizeAndMove d p cx cy x y b) := by
  have hresize := reports_resize hapart hv cx cy b
  have hmove := reports_move hapart hv x y (gwsResizeWindow d p cx cy b).2
  refine ⟨?_, ?_, ?_, ?_⟩
  · exact fun q hq hne => (hmove.other q hq hne).trans (hresize.other q hq hne)
  · exact fun hp hedges => hmove.edges hp (hresize.edges hp hedges)
  · intro m hm
    rcases List.mem_append.mp hm with hm | hm
    · exact hresize.tid m hm
    · exact hmove.tid m hm
  · intro hp
    refine .inr ?_
    rw [resizeAndMove]
    dsimp only
    rw [sent_move x y hp, proxyMessages_overlapped hp, List.getLast?_concat]

theorem reports_nothing (d : Geometry.Desktop) (p : Nat) (b : Boxes) : Reports d p b ([], b) :=
  ⟨fun _ _ _ => rfl, fun _ h => h, fun _ hm => (List.not_mem_nil hm).elim, fun _ => .inl ⟨rfl, rfl⟩⟩

theorem proxyMessage_setState (d : Geometry.Desktop) (p : Nat) (b : Boxes)
    (state : WindowState) :
    proxyMessage d p (b.set p (Box.setState state)) = proxyMessage d p b := by
  rw [proxyMessage, proxyMessage, set_self]
  rfl

theorem Reports.setState (state : WindowState) (h : Reports d p (b.set p (Box.setState state)) r) :
    Reports d p b r := by
  refine ⟨?_, ?_, h.tid, ?_⟩
  · intro q hq hne
    rw [h.other q hq hne, set_of_ne _ _ hne]
  · intro hp hedges
    refine h.edges hp ?_
    rw [set_self]
    exact hedges
  · intro hp
    have hlast := h.last hp
    rw [proxyMessage_setState] at hlast
    exact hlast

theorem reports_setState (d : Geometry.Desktop) (p : Nat) (b : Boxes) (state : WindowState) :
    Reports d p b ([], b.set p (Box.setState state)) :=
  (reports_nothing d p (b.set p (Box.setState state))).setState state

theorem reports_minimize (d : Geometry.Desktop) (p : Nat) (b : Boxes) :
    Reports d p b ([], minimizeWindow d p b) := by
  rw [minimizeWindow]
  split
  · exact reports_setState d p b _
  · exact reports_nothing d p b

theorem reports_dock (hapart : Apart d) (p : Nat) (position : Int) (b : Boxes) :
    Reports d p b (dockWindow d p position b) := by
  unfold dockWindow
  by_cases hdock : d.canDock p = false
  · rw [if_pos hdock]
    exact reports_nothing d p b
  · rw [if_neg hdock]
    have hv : (d.nodes p).valid = true := by
      rw [Bool.not_eq_false, Geometry.Desktop.canDock] at hdock
      simp only [Bool.and_eq_true] at hdock
      exact hdock.1.1.1.1.1.1.1
    split
    · dsimp only
      split
      · refine Reports.setState .WINDOW_STATE_NORMAL ?_
        apply reports_resizeAndMove hapart hv
      · apply reports_resizeAndMove hapart hv
    · split
      · exact reports_nothing d p b
      · apply reports_resizeAndMove hapart hv
    · split
      · exact reports_minimize d p b
      · exact reports_nothing d p b
    · split
      · exact reports_nothing d p b
      · apply reports_resizeAndMove hapart hv
    · exact reports_nothing d p b

theorem client_resizeAndMove (hapart : Apart d) (hv : (d.nodes p).valid = true)
    (cx cy x y : UInt64) (hp : d.overlapped p = true) :
    ((resizeAndMove d p cx cy x y b).2 p).setClient (d.nodes p) =
      (resizeAndMove d p cx cy x y b).2 p := by
  obtain ⟨x', y', hself⟩ := move_self (b := (gwsResizeWindow d p cx cy b).2) hapart hv x y hp
  rw [resizeAndMove]
  dsimp only
  rw [hself, resize_self hapart hv cx cy hp]
  rfl

theorem reports_maximize (hapart : Apart d) (p : Nat) (b : Boxes) :
    Reports d p b (maximizeWindow d p b) := by
  rw [maximizeWindow]
  by_cases hno : (d.nodes p).valid = false ∨ d.rootWindow = some p ∨ d.isTaskbar p = true ∨
      d.overlapped p = false
  · rw [if_pos hno]
    exact reports_nothing d p b
  · rw [if_neg hno]
    dsimp only
    simp only [not_or, Bool.not_eq_false] at hno
    obtain ⟨hv, _, _, hp⟩ := hno
    split
    · exact reports_setState d p b _
    · split
      · exact reports_setState d p b _
      · refine Reports.setState .WINDOW_STATE_MAXIMIZED ?_
        have h := reports_resizeAndMove hapart hv d.maximizedArea.width d.maximizedArea.height
          d.maximizedArea.left d.maximizedArea.top
          (b.set p (Box.setState .WINDOW_STATE_MAXIMIZED))
        have hclient := client_resizeAndMove
          (b := b.set p (Box.setState .WINDOW_STATE_MAXIMIZED)) hapart hv d.maximizedArea.width
          d.maximizedArea.height d.maximizedArea.left d.maximizedArea.top hp
        generalize resizeAndMove d p d.maximizedArea.width d.maximizedArea.height
          d.maximizedArea.left d.maximizedArea.top
          (b.set p (Box.setState .WINDOW_STATE_MAXIMIZED)) = r at h hclient
        have hset : r.2.set p (Box.setClient (d.nodes p)) = r.2 := by
          rw [Boxes.set, hclient, Function.update_eq_self]
        rw [hset]
        exact h

theorem reports_call (hapart : Apart d) (c : Call) (b : Boxes) :
    Reports d (callWindow c) b (call d c b) := by
  cases c with
  | resize p cx cy =>
      rw [call]
      split
      · rename_i hv
        exact reports_resize hapart hv cx cy b
      · exact reports_nothing d p b
  | move p x y =>
      rw [call]
      split
      · rename_i hv
        exact reports_move hapart hv x y b
      · exact reports_nothing d p b
  | dock p position => exact reports_dock hapart p position b
  | maximize p => exact reports_maximize hapart p b

end Calls

section Mirrors

variable {k : Geometry.Desktop} {s s' : System} {b : Boxes} {p τ : Nat} {m : ProxyMessage}

def Carries (m : ProxyMessage) (w : Wproxy) : Prop := w = w.setParameters m

def squareMessage : ProxyMessage := ⟨0, 0, 0, 100, 100, 0, 0, 100, 100⟩

/-- The proxies of the kernel have the rectangles of the windows of the server. -/
structure Mirrors (k : Geometry.Desktop) (s : System) : Prop where
  fresh : ∀ τ, τ ∉ s.kernel.wproxies → s.reporter τ = none
  shell : ∀ τ, s.kernel.shell = some τ → τ ∈ s.kernel.wproxies
  tid : ∀ τ ∈ s.kernel.wproxies, (s.kernel.wproxy τ).tid = τ
  square : ∀ τ ∈ s.kernel.wproxies, s.reporter τ = none →
    Carries squareMessage (s.kernel.wproxy τ)
  owner : ∀ τ p, s.reporter τ = some p → τ = client k p
  reported : ∀ τ p, s.reporter τ = some p → k.overlapped p = true →
    Carries (proxyMessage k p s.server.boxes) (s.kernel.wproxy τ)
  edges : ∀ p, k.overlapped p = true → Edges (s.server.boxes p)

theorem mirrors_boot (k : Geometry.Desktop) : Mirrors k boot := by
  refine ⟨fun _ _ => rfl, ?_, ?_, ?_, ?_, ?_, fun _ _ => ⟨rfl, rfl⟩⟩
  · intro τ h
    cases h
  · exact fun τ h => (List.not_mem_nil h).elim
  · exact fun τ h => (List.not_mem_nil h).elim
  · intro τ p h
    cases h
  · intro τ p h
    cases h

theorem carries_setHitArea (h : Carries m w) (area : HitArea) : Carries m (w.setHitArea area) := by
  rw [Carries] at h
  rw [h]
  rfl

theorem carries_setExpanded (h : Carries m w) :
    Carries m { w with expandedNonclientArea := true } := by
  rw [Carries] at h
  rw [h]
  rfl

theorem Mirrors.createThread (h : Mirrors k s) (tid : Nat) (expanded : Bool) :
    Mirrors k { s with kernel := createThread s.kernel tid expanded } := by
  rw [Gdi.WindowProxies.createThread]
  split
  · exact h
  · rename_i hnew
    rw [wproxyCreate0]
    split
    · exact h
    · refine ⟨?_, ?_, ?_, ?_, h.owner, ?_, h.edges⟩
      · exact fun τ hτ => h.fresh τ fun hmem => hτ (List.mem_append_left _ hmem)
      · exact fun τ hτ => List.mem_append_left _ (h.shell τ hτ)
      · intro τ hτ
        dsimp only
        rcases eq_or_ne τ tid with rfl | hne
        · rw [Function.update_self]
        · rw [Function.update_of_ne hne]
          rcases List.mem_append.mp hτ with hτ | hτ
          · exact h.tid τ hτ
          · exact (hne (List.mem_singleton.mp hτ)).elim
      · intro τ hτ hnone
        dsimp only
        rcases eq_or_ne τ tid with rfl | hne
        · rw [Function.update_self]
          rfl
        · rw [Function.update_of_ne hne]
          rcases List.mem_append.mp hτ with hτ | hτ
          · exact h.square τ hτ hnone
          · exact (hne (List.mem_singleton.mp hτ)).elim
      · intro τ p hp hover
        have hne : τ ≠ tid := by
          rintro rfl
          have hnone := h.fresh τ hnew
          dsimp only at hp
          rw [hp] at hnone
          cases hnone
        dsimp only
        rw [Function.update_of_ne hne]
        exact h.reported τ p hp hover

theorem Mirrors.setShell (h : Mirrors k s) (tid : Nat) :
    Mirrors k { s with kernel := wproxySetShell s.kernel tid } := by
  rw [wproxySetShell]
  split
  · rename_i hmem
    refine ⟨h.fresh, ?_, h.tid, h.square, h.owner, h.reported, h.edges⟩
    intro τ hτ
    rw [← Option.some.inj hτ]
    exact hmem
  · exact h

theorem Mirrors.setExpanded (h : Mirrors k s) (tid : Nat) :
    Mirrors k { s with kernel := wproxySetExpandedNonclientArea s.kernel tid } := by
  rw [wproxySetExpandedNonclientArea]
  split
  · refine ⟨h.fresh, h.shell, ?_, ?_, h.owner, ?_, h.edges⟩
    · intro τ hτ
      rcases eq_or_ne τ tid with rfl | hne
      · dsimp only
        rw [Kernel.set_self]
        exact h.tid τ hτ
      · dsimp only
        rw [Kernel.set_of_ne _ _ hne]
        exact h.tid τ hτ
    · intro τ hτ hnone
      rcases eq_or_ne τ tid with rfl | hne
      · dsimp only
        rw [Kernel.set_self]
        exact carries_setExpanded (h.square τ hτ hnone)
      · dsimp only
        rw [Kernel.set_of_ne _ _ hne]
        exact h.square τ hτ hnone
    · intro τ p hp hover
      rcases eq_or_ne τ tid with rfl | hne
      · dsimp only
        rw [Kernel.set_self]
        exact carries_setExpanded (h.reported τ p hp hover)
      · dsimp only
        rw [Kernel.set_of_ne _ _ hne]
        exact h.reported τ p hp hover
  · exact h

theorem Mirrors.hitTest (h : Mirrors k s) (x y : UInt64) :
    Mirrors k { s with kernel := wproxyHitTest00 s.kernel x y } := by
  have hsame := sameProxies_hitTest s.kernel x y
  refine ⟨?_, ?_, ?_, ?_, h.owner, ?_, h.edges⟩
  · rw [hsame.wproxies]
    exact h.fresh
  · rw [hsame.wproxies, hsame.shell]
    exact h.shell
  · intro τ hτ
    dsimp only at hτ ⊢
    rw [hsame.wproxies] at hτ
    rw [hsame.tid]
    exact h.tid τ hτ
  · intro τ hτ hnone
    dsimp only at hτ ⊢
    rw [hsame.wproxies] at hτ
    obtain ⟨area, ha⟩ := hsame.wproxy τ
    rw [ha]
    exact carries_setHitArea (h.square τ hτ hnone) area
  · intro τ p hp hover
    obtain ⟨area, ha⟩ := hsame.wproxy τ
    dsimp only
    rw [ha]
    exact carries_setHitArea (h.reported τ p hp hover) area

theorem Mirrors.congr_server (h : Mirrors k s)
    (hboxes : ∀ τ p, s.reporter τ = some p → k.overlapped p = true →
      proxyMessage k p server.boxes = proxyMessage k p s.server.boxes)
    (hedges : ∀ p, k.overlapped p = true → Edges (server.boxes p)) :
    Mirrors k { s with server := server } := by
  refine ⟨h.fresh, h.shell, h.tid, h.square, h.owner, ?_, hedges⟩
  intro τ p hp hover
  dsimp only
  rw [hboxes τ p hp hover]
  exact h.reported τ p hp hover

theorem foldl_report (p : Nat) (hτ : τ ∈ s.kernel.wproxies) (htid : ∀ m ∈ messages, m.tid = τ)
    (hlast : messages.getLast? = some m) :
    messages.foldl (report p) s = { s with
        kernel := s.kernel.set τ (Wproxy.setParameters m)
        reporter := Function.update s.reporter τ (some p) } := by
  induction messages using List.reverseRecOn generalizing m with
  | nil => cases hlast
  | append_singleton front m' ih =>
      rw [List.getLast?_concat] at hlast
      obtain rfl := Option.some.inj hlast
      have hm : m'.tid = τ := htid m' (by simp)
      rw [List.foldl_concat]
      cases hfront : front.getLast? with
      | none =>
          rw [List.getLast?_eq_none_iff] at hfront
          rw [hfront, List.foldl_nil, report, hm, if_pos hτ, wproxySetParametersGivenTid, hm,
            if_pos hτ]
      | some m₁ =>
          rw [ih (fun m hmem => htid m (List.mem_append_left _ hmem)) hfront, report, hm,
            wproxySetParametersGivenTid, hm]
          dsimp only
          rw [if_pos (by exact hτ), if_pos (by exact hτ), Kernel.set, Kernel.set, Kernel.set]
          dsimp only
          rw [Function.update_idem, Function.update_idem, Function.update_self]
          rfl

theorem foldl_report_absent (p : Nat) (hτ : τ ∉ s.kernel.wproxies)
    (htid : ∀ m ∈ messages, m.tid = τ) :
    messages.foldl (report p) s = s := by
  induction messages with
  | nil => rfl
  | cons m messages ih =>
      rw [List.foldl_cons, report, htid m List.mem_cons_self, if_neg hτ]
      exact ih fun m hm => htid m (List.mem_cons_of_mem _ hm)

theorem Mirrors.report (h : Mirrors k s)
    (p : Nat)
    (hother : ∀ q, k.overlapped q = true → q ≠ p →
      proxyMessage k q server.boxes = proxyMessage k q s.server.boxes)
    (hedges : ∀ q, k.overlapped q = true → Edges (server.boxes q))
    (htid : ∀ m ∈ messages, m.tid = client k p)
    (hlast : k.overlapped p = true →
      messages = [] ∧ proxyMessage k p server.boxes = proxyMessage k p s.server.boxes ∨
        messages.getLast? = some (proxyMessage k p server.boxes)) :
    Mirrors k (messages.foldl (HitAgreement.report p) { s with server := server }) := by
  by_cases hτ : client k p ∈ s.kernel.wproxies
  · cases hm : messages.getLast? with
    | none =>
        rw [List.getLast?_eq_none_iff] at hm
        rw [hm, List.foldl_nil]
        refine h.congr_server (fun τ q hq hover => ?_) hedges
        rcases eq_or_ne q p with rfl | hne
        · rcases hlast hover with hsame | hlast
          · exact hsame.2
          · rw [hm] at hlast
            cases hlast
        · exact hother q hover hne
    | some m =>
        have hτ' : client k p ∈ ({ s with server := server } : System).kernel.wproxies := hτ
        rw [foldl_report p hτ' htid hm]
        refine ⟨?_, h.shell, ?_, ?_, ?_, ?_, hedges⟩
        · intro τ hnot
          have hne : τ ≠ client k p := by
            rintro rfl
            exact hnot hτ
          dsimp only
          rw [Function.update_of_ne hne]
          exact h.fresh τ hnot
        · intro τ hmem
          rcases eq_or_ne τ (client k p) with rfl | hne
          · dsimp only
            rw [Kernel.set_self]
            exact h.tid _ hmem
          · dsimp only
            rw [Kernel.set_of_ne _ _ hne]
            exact h.tid τ hmem
        · intro τ hmem hnone
          rcases eq_or_ne τ (client k p) with rfl | hne
          · dsimp only at hnone
            rw [Function.update_self] at hnone
            cases hnone
          · dsimp only at hnone ⊢
            rw [Function.update_of_ne hne] at hnone
            rw [Kernel.set_of_ne _ _ hne]
            exact h.square τ hmem hnone
        · intro τ q hq
          rcases eq_or_ne τ (client k p) with rfl | hne
          · dsimp only at hq
            rw [Function.update_self] at hq
            rw [Option.some.inj hq]
          · dsimp only at hq
            rw [Function.update_of_ne hne] at hq
            exact h.owner τ q hq
        · intro τ q hq hover
          rcases eq_or_ne τ (client k p) with rfl | hne
          · dsimp only at hq ⊢
            rw [Function.update_self] at hq
            obtain rfl := Option.some.inj hq
            rw [Kernel.set_self]
            rcases hlast hover with hsame | hlast
            · rw [hsame.1] at hm
              cases hm
            · rw [hm] at hlast
              rw [Option.some.inj hlast]
              rfl
          · dsimp only at hq ⊢
            rw [Function.update_of_ne hne] at hq
            have hqp : q ≠ p := by
              rintro rfl
              exact hne (h.owner τ q hq)
            rw [Kernel.set_of_ne _ _ hne, hother q hover hqp]
            exact h.reported τ q hq hover
  · have habsent : messages.foldl (HitAgreement.report p) { s with server := server } =
        { s with server := server } := foldl_report_absent p hτ htid
    rw [habsent]
    refine h.congr_server (fun τ q hq hover => hother q hover ?_) hedges
    rintro rfl
    rw [h.owner τ q hq] at hq
    rw [h.fresh _ hτ] at hq
    cases hq

theorem Reports.mirrors {d : Geometry.Desktop} (hr : Reports d p s.server.boxes r) (h : Mirrors k s)
    (hd : d = s.server.desk k) :
    Mirrors k (r.1.foldl (HitAgreement.report p) (withBoxes s r.2)) := by
  subst hd
  refine h.report p (fun q hover hne => ?_) (fun q hover => ?_) hr.tid hr.last
  · have hq := hr.other q hover hne
    rw [proxyMessage, proxyMessage]
    dsimp only
    rw [hq]
  · rcases eq_or_ne q p with rfl | hne
    · exact hr.edges hover (h.edges q hover)
    · have hq := hr.other q hover hne
      dsimp only
      rw [hq]
      exact h.edges q hover

end Mirrors

section Runs

variable {k : Geometry.Desktop} {s s' : System} {e : Event} {o : Unit}

/-- What every run keeps: the lists of the server end and the kernel mirrors the server. -/
structure Inv (k : Geometry.Desktop) (s : System) : Prop where
  wired : ServerWired s.server
  mirrors : Mirrors k s

theorem inv_boot (k : Geometry.Desktop) : Inv k boot := by
  refine ⟨⟨⟨fun _ _ => rfl, ?_, ?_, ?_⟩, ?_⟩, mirrors_boot k⟩
  · intro p q h
    cases h
  · exact fun p => ⟨[p], .cons p [] .nil⟩
  · intro p h
    cases h
  · intro q p h
    cases h

theorem report_server (p : Nat) (messages : List ProxyMessage) (s : System) :
    (messages.foldl (report p) s).server = s.server := by
  induction messages generalizing s with
  | nil => rfl
  | cons m messages ih =>
      rw [List.foldl_cons, ih, report]
      split
      · rfl
      · rfl

theorem wired_withBoxes (h : ServerWired server) (b : Boxes) :
    ServerWired { server with boxes := b } :=
  ⟨h.wired, h.heads⟩

theorem hitTest2_lists {server' : Server} {x y : UInt64}
    (h : wmHitTest2 k server x y = .ok server') :
    server'.z = server.z ∧ server'.childHead = server.childHead ∧ server'.boxes = server.boxes := by
  rw [wmHitTest2] at h
  split at h
  · obtain rfl := Except.ok.inj h
    exact ⟨rfl, rfl, rfl⟩
  · split at h
    · cases h
    · split at h
      · obtain rfl := Except.ok.inj h
        exact ⟨rfl, rfl, rfl⟩
      · obtain rfl := Except.ok.inj h
        exact ⟨rfl, rfl, rfl⟩

theorem inv_create {fChild : Bool} (h : Inv k s)
    (hcreate : serviceCreateWindow k s.server fChild box = .ok server) :
    Inv k ((proxyMessages k s.server.z.count server.boxes).foldl (report s.server.z.count)
      { s with server := server }) := by
  obtain ⟨hwired, hboxes⟩ := serverWired_create h.wired hcreate
  refine ⟨?_, h.mirrors.report _ ?_ ?_ (tid_proxyMessages k _ _) ?_⟩
  · rw [report_server]
    exact hwired
  · intro q _ hne
    rw [proxyMessage, proxyMessage, hboxes, set_of_ne _ _ hne]
  · intro q hover
    rw [hboxes]
    rcases eq_or_ne q s.server.z.count with rfl | hne
    · rw [set_self]
      exact edges_synced box
    · rw [set_of_ne _ _ hne]
      exact h.mirrors.edges q hover
  · intro hover
    rw [proxyMessages_overlapped hover]
    exact .inr rfl

theorem inv_step (hplan : Planned k) (h : Inv k s) (hstep : step k s e = .ok (o, s')) :
    Inv k s' := by
  cases e with
  | thread tid expanded =>
      obtain ⟨_, rfl⟩ := Prod.mk.inj (Except.ok.inj hstep)
      exact ⟨h.wired, h.mirrors.createThread tid expanded⟩
  | setShell tid =>
      obtain ⟨_, rfl⟩ := Prod.mk.inj (Except.ok.inj hstep)
      exact ⟨h.wired, h.mirrors.setShell tid⟩
  | setExpanded tid =>
      obtain ⟨_, rfl⟩ := Prod.mk.inj (Except.ok.inj hstep)
      exact ⟨h.wired, h.mirrors.setExpanded tid⟩
  | create fChild box =>
      rw [step] at hstep
      split at hstep
      · cases hstep
      · rename_i server hcreate
        obtain ⟨_, rfl⟩ := Prod.mk.inj (Except.ok.inj hstep)
        exact inv_create h hcreate
  | change c =>
      obtain ⟨_, rfl⟩ := Prod.mk.inj (Except.ok.inj hstep)
      refine ⟨?_, (reports_call (hplan.desk s.server) c s.server.boxes).mirrors h.mirrors rfl⟩
      rw [report_server]
      exact wired_withBoxes h.wired _
  | minimize p =>
      obtain ⟨_, rfl⟩ := Prod.mk.inj (Except.ok.inj hstep)
      have hr := reports_minimize (s.server.desk k) p s.server.boxes
      exact ⟨wired_withBoxes h.wired _, hr.mirrors h.mirrors rfl⟩
  | raise p =>
      rw [step] at hstep
      split at hstep
      · cases hstep
      · rename_i z hraise
        obtain ⟨_, rfl⟩ := Prod.mk.inj (Except.ok.inj hstep)
        obtain ⟨hwired, hcount⟩ := h.wired.wired.updateDesktop3 hraise
        refine ⟨⟨hwired, fun q p hp => ?_⟩,
          h.mirrors.congr_server (fun _ _ _ _ => rfl) h.mirrors.edges⟩
        have hlt := h.wired.heads q p hp
        change p < z.count
        omega
  | point x y =>
      rw [step] at hstep
      split at hstep
      · cases hstep
      · rename_i server hhit
        obtain ⟨_, rfl⟩ := Prod.mk.inj (Except.ok.inj hstep)
        obtain ⟨hz, hheads, hboxes⟩ := hitTest2_lists hhit
        refine ⟨⟨?_, ?_⟩, ?_⟩
        · dsimp only
          rw [hz]
          exact h.wired.wired
        · dsimp only
          rw [hz, hheads]
          exact h.wired.heads
        · have hmirrors := h.mirrors.hitTest x y
          refine hmirrors.congr_server (fun _ _ _ _ => ?_) ?_
          · dsimp only
            rw [hboxes]
          · rw [hboxes]
            exact h.mirrors.edges

theorem inv_run (hplan : Planned k) {events : List Event} {outs : List Unit}
    (hrun : run (step k) boot events = .ok (outs, s)) : Inv k s :=
  run_invariant (Inv k) (fun _ _ _ _ h _ hstep => inv_step hplan h hstep) (inv_boot k)
    (guarded_true boot events) hrun

end Runs

section Agreement

variable {k : Geometry.Desktop} {s : System} {x y : UInt64} {τ t w : Nat}

theorem inFrame_setParameters (p : Wproxy) (m : ProxyMessage) (x y : UInt64) :
    (p.setParameters m).inFrame x y = true ↔
      m.left ≤ x ∧ x ≤ m.left + m.width ∧ m.top ≤ y ∧ y ≤ m.top + m.height := by
  rw [Wproxy.inFrame, Wproxy.setParameters]
  simp only [Bool.and_eq_true, decide_eq_true_eq, and_assoc]

theorem inClient_setParameters (p : Wproxy) (m : ProxyMessage) (x y : UInt64) :
    (p.setParameters m).inClient x y = true ↔ InClient x y m := by
  rw [Wproxy.inClient, Wproxy.setParameters, InClient]
  simp only [Bool.and_eq_true, decide_eq_true_eq, and_assoc]

theorem under_iff (h : Edges box) :
    Box.under box x y = true ↔ box.absoluteX ≤ x ∧ x ≤ box.absoluteX + box.width ∧
      box.absoluteY ≤ y ∧ y ≤ box.absoluteY + box.height := by
  rw [Box.under, h.1, h.2]
  simp only [Bool.and_eq_true, decide_eq_true_eq, and_assoc]

theorem shows_iff (h : Mirrors k s) (hτ : τ ∈ s.kernel.wproxies) :
    (s.kernel.wproxy τ).inFrame x y = true ↔ Shows k s x y τ := by
  rw [Shows]
  cases hr : s.reporter τ with
  | none =>
      have hsquare := h.square τ hτ hr
      rw [Carries] at hsquare
      rw [hsquare, inFrame_setParameters, squareMessage]
      dsimp only
      simp only [UInt64.zero_add, UInt64.zero_le, true_and]
  | some p =>
      dsimp only
      by_cases hover : k.overlapped p = true
      · have hcarries := h.reported τ p hr hover
        rw [Carries] at hcarries
        rw [if_pos hover, hcarries, inFrame_setParameters, under_iff (h.edges p hover)]
        rfl
      · rw [if_neg hover]

theorem showsClient_iff (h : Mirrors k s) (hτ : τ ∈ s.kernel.wproxies) :
    (s.kernel.wproxy τ).inClient x y = true ↔ ShowsClient k s x y τ := by
  rw [ShowsClient]
  cases hr : s.reporter τ with
  | none =>
      have hsquare := h.square τ hτ hr
      rw [Carries] at hsquare
      rw [hsquare, inClient_setParameters, squareMessage, InClient]
      dsimp only
      simp only [UInt64.zero_add, UInt64.zero_le, true_and]
  | some p =>
      dsimp only
      by_cases hover : k.overlapped p = true
      · have hcarries := h.reported τ p hr hover
        rw [Carries] at hcarries
        rw [if_pos hover, hcarries, inClient_setParameters]
      · rw [if_neg hover]

theorem hit_of_front (h : Mirrors k s) (hfront : Front k s x y τ) :
    ∃ area, (wproxyHitTest00 s.kernel x y).hit = some (τ, area) ∧
      (area = .HIT_CLIENT ↔ FrontClient k s x y τ) := by
  rcases hfront with ⟨hshell, hshows⟩ | ⟨hnot, htop⟩
  · have hmem := h.shell τ hshell
    refine ⟨.HIT_CLIENT, ?_, fun _ => .inl hshell, fun _ => rfl⟩
    rw [hit_shell hshell ((shows_iff h hmem).mpr hshows), h.tid τ hmem]
  · have hmem := htop.mem
    have hlist : ∀ a, s.kernel.shell = some a → ¬ (s.kernel.wproxy a).inFrame x y = true :=
      fun a ha hin => hnot a ha ((shows_iff h (h.shell a ha)).mp hin)
    have hmost : topmost (fun a => (s.kernel.wproxy a).inFrame x y) s.kernel.wproxies = some τ :=
      topmost_eq_some.mpr ((isTop_congr fun a ha => shows_iff h ha).mpr htop)
    refine ⟨(s.kernel.wproxy τ).area x y, ?_, ?_⟩
    · rw [hit_list hlist, hmost, Option.map_some, h.tid τ hmem]
    · have hshell : s.kernel.shell ≠ some τ := fun hshell => hnot τ hshell htop.holds
      rw [FrontClient, or_iff_right hshell, ← showsClient_iff h hmem, Wproxy.area]
      constructor
      · intro harea
        by_contra hnot'
        rw [if_neg hnot'] at harea
        cases harea
      · exact fun hclient => if_pos hclient

theorem hit_eq_none (h : Mirrors k s) (hnone : ∀ τ ∈ s.kernel.wproxies, ¬ Shows k s x y τ) :
    (wproxyHitTest00 s.kernel x y).hit = none := by
  have hlist : ∀ a, s.kernel.shell = some a → ¬ (s.kernel.wproxy a).inFrame x y = true :=
    fun a ha hin => hnone a (h.shell a ha) ((shows_iff h (h.shell a ha)).mp hin)
  have hmost : topmost (fun a => (s.kernel.wproxy a).inFrame x y) s.kernel.wproxies = none :=
    topmost_eq_none.mpr fun a ha hin => hnone a ha ((shows_iff h ha).mp hin)
  rw [hit_list hlist, hmost, Option.map_none]

theorem front_or_none (h : Mirrors k s) (x y : UInt64) :
    (∃ τ, Front k s x y τ) ∨ ∀ τ ∈ s.kernel.wproxies, ¬ Shows k s x y τ := by
  by_cases hshell : ∃ a, s.kernel.shell = some a ∧ Shows k s x y a
  · obtain ⟨a, ha, hshows⟩ := hshell
    exact .inl ⟨a, .inl ⟨ha, hshows⟩⟩
  · cases htop : topmost (fun a => (s.kernel.wproxy a).inFrame x y) s.kernel.wproxies with
    | none =>
        exact .inr fun τ hτ hshows =>
          topmost_eq_none.mp htop τ hτ ((shows_iff h hτ).mpr hshows)
    | some a =>
        refine .inl ⟨a, .inr ⟨fun b hb hshows => hshell ⟨b, hb, hshows⟩, ?_⟩⟩
        exact (isTop_congr fun b hb => shows_iff h hb).mp (topmost_eq_some.mp htop)

theorem front_of_hit (h : Mirrors k s) {area : HitArea}
    (hhit : (wproxyHitTest00 s.kernel x y).hit = some (τ, area)) :
    Front k s x y τ ∧ (area = .HIT_CLIENT ↔ FrontClient k s x y τ) := by
  rcases front_or_none h x y with ⟨τ', hfront⟩ | hnone
  · obtain ⟨area', hfound, hclient⟩ := hit_of_front h hfront
    rw [hhit] at hfound
    obtain ⟨rfl, rfl⟩ := Prod.mk.inj (Option.some.inj hfound)
    exact ⟨hfront, hclient⟩
  · rw [hit_eq_none h hnone] at hhit
    cases hhit

theorem agree_application (h : Mirrors k s) {hit : Hit} (happ : hit.application = some w) :
    Agree k (wproxyHitTest00 s.kernel x y).hit hit ↔ Front k s x y (client k w) ∧
      (FrontClient k s x y (client k w) ↔ hit.inFrame = false) := by
  constructor
  · intro hagree
    cases hfound : (wproxyHitTest00 s.kernel x y).hit with
    | none =>
        rw [hfound, Agree, happ] at hagree
        cases hagree
    | some found =>
        obtain ⟨tid, area⟩ := found
        rw [hfound, Agree, happ, Option.map_some] at hagree
        obtain ⟨htid, harea⟩ := hagree
        obtain rfl := Option.some.inj htid
        obtain ⟨hfront, hclient⟩ := front_of_hit h hfound
        exact ⟨hfront, hclient.symm.trans harea⟩
  · rintro ⟨hfront, hclient⟩
    obtain ⟨area, hfound, harea⟩ := hit_of_front h hfront
    rw [hfound, Agree, happ]
    exact ⟨rfl, harea.trans hclient⟩

theorem TaskbarUnder.unique {t' : Nat} (h : TaskbarUnder k server x y t)
    (h' : TaskbarUnder k server x y t') : t = t' := by
  have heq := h.2.1
  rw [h'.2.1] at heq
  exact (Option.some.inj heq).symm

theorem agreeAt_taskbar (h : Inv k s) (ht : TaskbarUnder k s.server x y t) :
    AgreeAt k s x y ↔ FitsAt k s x y := by
  obtain ⟨child, hhit⟩ := hitTest_taskbar h.wired ht
  have hagree : AgreeAt k s x y ↔ Front k s x y (client k t) ∧ FrontClient k s x y (client k t) := by
    rw [AgreeAt, hhit]
    refine (agree_application h.mirrors (w := t) rfl).trans (and_congr_right fun _ => ?_)
    exact iff_true_right rfl
  rw [hagree]
  constructor
  · intro hfront
    refine ⟨fun t' ht' => ?_, fun w hw => (hw.2.1 t ht).elim, fun hno => (hno t ht).elim⟩
    rw [TaskbarUnder.unique ht' ht]
    exact hfront
  · exact fun hfits => hfits.taskbar t ht

theorem agreeAt_window (h : Inv k s) (hw : WindowUnder k s.server x y w) :
    AgreeAt k s x y ↔ FitsAt k s x y := by
  have hagree : AgreeAt k s x y ↔ ControlsFound k s.server w ∧ Front k s x y (client k w) ∧
      (FrontClient k s x y (client k w) ↔ OverChild k s.server x y w) := by
    rw [AgreeAt, hitTest_window h.wired hw]
    by_cases hfound : ControlsFound k s.server w
    · obtain ⟨hit, hhit, happ, hframe⟩ := hitWindow_eq (x := x) (y := y) h.wired hfound
      rw [hhit]
      refine (agree_application h.mirrors happ).trans ?_
      rw [hframe, and_iff_right hfound]
    · obtain ⟨e, he⟩ := hitWindow_null (x := x) (y := y) hfound
      rw [he]
      exact ⟨fun hfalse => hfalse.elim, fun hand => hfound hand.1⟩
  rw [hagree]
  constructor
  · intro hall
    refine ⟨fun t ht => (hw.2.1 t ht).elim, fun w' hw' => ?_, fun _ hno => (hno w hw).elim⟩
    rw [hw'.unique hw]
    exact hall
  · exact fun hfits => hfits.window w hw

theorem agreeAt_nothing (h : Inv k s) (hbar : ∀ t, ¬ TaskbarUnder k s.server x y t)
    (hwindow : ∀ w, ¬ WindowUnder k s.server x y w) :
    AgreeAt k s x y ↔ FitsAt k s x y := by
  rw [AgreeAt, hitTest_nothing h.wired hbar hwindow]
  constructor
  · intro hagree
    refine ⟨fun t ht => (hbar t ht).elim, fun w hw => (hwindow w hw).elim, fun _ _ => ?_⟩
    rcases front_or_none h.mirrors x y with ⟨τ, hfront⟩ | hnone
    · obtain ⟨area, hfound, _⟩ := hit_of_front h.mirrors hfront
      dsimp only at hagree
      rw [hfound] at hagree
      cases hagree.1
    · exact hnone
  · intro hfits
    dsimp only
    rw [hit_eq_none h.mirrors (hfits.nothing hbar hwindow)]
    rfl

/-- After every run, the two hit tests agree on a point if and only if the condition holds there. -/
theorem hitTest_agreement_iff (hplan : Planned k) {events : List Event} {outs : List Unit}
    (hrun : run (step k) boot events = .ok (outs, s)) (x y : UInt64) :
    AgreeAt k s x y ↔ FitsAt k s x y := by
  have h := inv_run hplan hrun
  by_cases hbar : ∃ t, TaskbarUnder k s.server x y t
  · obtain ⟨t, ht⟩ := hbar
    exact agreeAt_taskbar h ht
  · by_cases hwindow : ∃ w, WindowUnder k s.server x y w
    · obtain ⟨w, hw⟩ := hwindow
      exact agreeAt_window h hw
    · exact agreeAt_nothing h (not_exists.mp hbar) (not_exists.mp hwindow)

end Agreement

section Sample

def sampleDesktop : Geometry.Desktop :=
  { nodes := fun p =>
      { valid := false, type := .WT_OVERLAPPED, isTitleBar := false, parent := none
        titlebar := none, controlsInitialized := false, minimizeWid := -1, maximizeWid := -1
        closeWid := -1, leftOffset := 0, borderSize := 2, titlebarHeight := 0, clientLeft := 6
        clientTop := 6, clientTid := if p = 0 then 20 else 10 }
    windowList := fun wid => if wid < 2 then some wid else none
    rootWindow := none
    taskbarWindow := none
    initialized := true
    isFullscreen := false
    wa := ⟨0, 40, 800, 560⟩
    maximizationStyle := none }

def sampleBox (x y : UInt64) : Box :=
  { state := .WINDOW_STATE_NORMAL, left := x, top := y, width := 300, height := 200
    absoluteX := x, absoluteY := y, absoluteRight := 0, absoluteBottom := 0
    clientWidth := 288, clientHeight := 188, widthInChars := 0, heightInChars := 0 }

theorem sampleDesktop_planned : Planned sampleDesktop := by
  intro p t _ ht
  cases ht

/-- The thread of the second window, which is on top of the first one, is created last. -/
def orderedThreads : List Event :=
  [.thread 20 false, .thread 10 false, .create false (sampleBox 100 100),
    .create false (sampleBox 150 150)]

theorem hitTest_agreement_iff_orderedThreads :
    ∃ outs s, run (step sampleDesktop) boot orderedThreads = .ok (outs, s) ∧
      FitsAt sampleDesktop s 151 160 := by
  have hfacts : (run (step sampleDesktop) boot orderedThreads).toOption.map
      (fun r => decide (AgreeAt sampleDesktop r.2 151 160)) = some true := by
    decide +kernel
  cases hrun : run (step sampleDesktop) boot orderedThreads with
  | error e =>
      rw [hrun] at hfacts
      cases hfacts
  | ok r =>
      obtain ⟨outs, s⟩ := r
      rw [hrun] at hfacts
      simp only [Except.toOption, Option.map_some, Option.some.injEq, decide_eq_true_eq] at hfacts
      exact ⟨outs, s, rfl,
        (hitTest_agreement_iff sampleDesktop_planned hrun 151 160).mp hfacts⟩

/-- Of two threads the older one gets the second window, which is on top of the first one. -/
def reversedThreads : List Event :=
  [.thread 10 false, .thread 20 false, .create false (sampleBox 100 100),
    .create false (sampleBox 150 150)]

/-- The server finds the window on top, the kernel the thread that was created last. -/
theorem kernel_ignores_zOrder :
    ∃ outs s, run (step sampleDesktop) boot reversedThreads = .ok (outs, s) ∧
      hitTest sampleDesktop s.server 151 160 = .ok (.window 1) ∧
      (wproxyHitTest00 s.kernel 151 160).hit = some (20, .HIT_CLIENT) ∧
      ¬ AgreeAt sampleDesktop s 151 160 := by
  have hfacts : (run (step sampleDesktop) boot reversedThreads).toOption.map
      (fun r => ((hitTest sampleDesktop r.2.server 151 160).toOption,
        (wproxyHitTest00 r.2.kernel 151 160).hit,
        decide (AgreeAt sampleDesktop r.2 151 160))) =
      some (some (.window 1), some (20, .HIT_CLIENT), false) := by
    decide +kernel
  cases hrun : run (step sampleDesktop) boot reversedThreads with
  | error e =>
      rw [hrun] at hfacts
      cases hfacts
  | ok r =>
      obtain ⟨outs, s⟩ := r
      rw [hrun] at hfacts
      simp only [Except.toOption, Option.map_some, Option.some.injEq, Prod.mk.injEq,
        decide_eq_false_iff_not] at hfacts
      obtain ⟨hserver, hkernel, hagree⟩ := hfacts
      refine ⟨outs, s, rfl, ?_, hkernel, hagree⟩
      cases hhit : hitTest sampleDesktop s.server 151 160 with
      | error e =>
          rw [hhit] at hserver
          cases hserver
      | ok hit =>
          rw [hhit] at hserver
          exact congrArg _ (Option.some.inj hserver)

end Sample

end Gramado.Ds.HitAgreement
