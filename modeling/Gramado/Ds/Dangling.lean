import Gramado.Ds.WindowLinks

/-! When a destruction or a raise leaves a pointer to a dead window. -/

namespace Gramado.Ds.Dangling

open Ds.ZOrder (WINDOW_COUNT_MAX WINDOW_MAGIC WT_OVERLAPPED SameWindows Shown
  wmRemoveWindowFromList)
open Ds.Registry hiding Call Fits Meets step serve doCreateWindowFrame createTitlebar
  createStatusbar
open Ds.WindowLinks Library.LinkedList Library.CheckedRead Library.Run

def titlebarParts (r : Table) (w : Nat) : Set Nat :=
  {v | ∃ t, (r.entry w).titlebar = some t ∧ (r.z.window t).magic = WINDOW_MAGIC ∧
    (v = t ∨ ∃ c, getWindowFromWid r ((r.entry t).controls c) = some v)}

def killed (r : Table) (w : Nat) : Set Nat :=
  {v | v = w ∨ (r.z.window w).type = WT_OVERLAPPED ∧ v ∈ titlebarParts r w}

/-- The overlapped windows of which the list is built again when `w` has been destroyed. -/
def remaining (r : Table) (w : Nat) : Set Nat :=
  {v | Shown r.z v ∧ v ∉ killed r w ∧ ∃ slot < WINDOW_COUNT_MAX, r.z.windowList slot = some v}

/-- No list leads to a window of `K` before it comes to one of `R`. -/
structure Unlinked (s : Screen) (K R : Set Nat) : Prop where
  list : ∀ f, s.z.firstWindow = some f → f ∉ K → ∀ k ∈ K, ¬ Leads s.z.next R (some f) k
  children : ∀ p, s.Live p → p ∉ K → ∀ k ∈ K, ¬ Leads s.z.next R (s.childHead p) k

structure Forgotten (s : Screen) (w : Nat) : Prop where
  unlinked : Unlinked s {w} ∅
  first : s.z.firstWindow ≠ some w
  points : ¬ Points s w

/-- The list that is built again replaces every pointer to a window of `K`. -/
structure Replaced (s : Screen) (K R : Set Nat) : Prop where
  unlinked : Unlinked s K R
  first : ∀ f ∈ K, s.z.firstWindow = some f → R = ∅ →
    if s.jail = true then ∀ k ∈ K, ¬ Points s k
    else ∀ l, lastCell s.z.next s.z.count f = some l → l ∉ K
  owners : s.jail = true →
    (∃ r ∈ R, s.z.activeWindow ≠ some r) ∨
    (R = ∅ ∧ ∃ f l, s.z.firstWindow = some f ∧ f ∉ K ∧ uppermost s.z f = some l ∧
      s.type l = WT_OVERLAPPED ∧ s.z.activeWindow ≠ some l) ∨
    ∀ k ∈ K, s.z.activeWindow ≠ some k ∧ s.keyboardOwner ≠ some k ∧ s.mouseOwner ≠ some k

def Fits (s : Screen) : Call → Prop
  | .updateDesktop3 (some w) =>
      s.z.lastWindow = some w ∨ s.z.firstWindow = some w ∨
        ¬ Leads s.z.next ∅ s.z.firstWindow w
  | .destroy wid =>
      ∀ w, target s.table wid = some w →
        if s.type w ≠ WT_OVERLAPPED then Forgotten s w
        else Replaced s (killed s.table w) (remaining s.table w)
  | _ => True

variable {s : Screen} {w : Nat}

variable {z : ZOrder.Desktop} {wid : Int} {v slot l : Nat} {a b c : Screen} {K R P Q : Set Nat}
  {call : Call}

theorem leads_of_findFrom {n : Nat} {start : Option Nat}
    (h : wmRemoveWindowFromList.findFrom z w n start = some true) :
    Leads z.next ∅ start w := by
  induction n generalizing start with
  | zero =>
      cases start with
      | none => cases h
      | some v => cases h
  | succ n ih =>
      cases start with
      | none => cases h
      | some v =>
          rw [wmRemoveWindowFromList.findFrom] at h
          split at h
          · rename_i heq
            rw [heq]
            exact .here w
          · exact .through (Set.notMem_empty v) (ih h)

theorem sane_withFirst (h : Sane s) (hfirst : s.z.firstWindow = some w) :
    Sane (withFirst s (s.z.next w)) := by
  refine h.relink ⟨fun _ => rfl, fun _ => rfl, fun _ => rfl, rfl, rfl⟩
    {v | Leads s.z.next ∅ s.z.firstWindow v} ?_ ?_ ?_ (fun _ _ hv => .inr hv) (fun _ hv => .inr hv)
  · exact fun v hv => h.noDangling v (.inr (.inl hv))
  · intro v u hu
    by_cases hv : Leads s.z.next ∅ s.z.firstWindow v
    · exact .inl (hv.step (Set.notMem_empty v) hu)
    · exact .inr ⟨hv, hu⟩
  · intro v hv
    left
    change Leads s.z.next ∅ s.z.firstWindow v
    rw [hfirst]
    refine .through (Set.notMem_empty w) ?_
    have hnext : s.z.next w = some v := hv
    rw [hnext]
    exact .here v

theorem sane_moveToTop (h : Sane s)
    (hw : s.z.firstWindow = some w ∨ ¬ Leads s.z.next ∅ s.z.firstWindow w) :
    Ensures (moveToTop s w) Sane := by
  unfold moveToTop
  refine ensures_ite (fun _ => ensures_ok h) fun hne => ?_
  have hunlisted := hw.resolve_left hne
  refine Ensures.bind (Q := fun z => z = s.z) ?_ ?_
  · intro z hz
    unfold wmRemoveWindowFromList at hz
    dsimp only at hz
    split at hz
    · cases hz
    · exact (Except.ok.inj hz).symm
    · exact absurd (leads_of_findFrom ‹_›) hunlisted
  · rintro z rfl
    exact sane_addToTop h w

theorem sane_wmUpdateDesktop3 (h : Sane s) (hfits : Fits s (.updateDesktop3 (some w))) :
    Ensures (wmUpdateDesktop3 s w) Sane := by
  unfold wmUpdateDesktop3
  refine ensures_ite (fun _ => ensures_ok (sane_setActiveWindow h w)) fun hlast => ?_
  refine (sane_moveToTop h (hfits.resolve_left hlast)).bind fun t ht => ensures_ok ?_
  apply sane_setActiveWindow
  split
  · exact sane_withFirst ht ‹_›
  · exact ht

def withWindows (r : Table) (f : Nat → ZOrder.Window) : Table :=
  { r with z := { r.z with window := f } }

/-- The windows `f`, of which those of `D` have been killed. -/
structure Kills (r : Table) (f : Nat → ZOrder.Window) (D : Set Nat) : Prop where
  others : ∀ v, v ∉ D → f v = r.z.window v
  dead : ∀ v ∈ D, (f v).magic ≠ WINDOW_MAGIC
  next : ∀ v, (f v).next = (r.z.window v).next
  type : ∀ v, (f v).type = (r.z.window v).type

theorem kills_nothing (r : Table) : Kills r r.z.window ∅ :=
  ⟨fun _ _ => rfl, fun _ hv => absurd hv (Set.notMem_empty _), fun _ => rfl, fun _ => rfl⟩

variable {r : Table} {f : Nat → ZOrder.Window} {D : Set Nat}

theorem Kills.kill (h : Kills r f D) (a : Nat) :
    ∃ g, killWindow (withWindows r f) a = withWindows r g ∧ Kills r g (insert a D) := by
  have hupdate : ∀ v, Function.update f a { f a with used := false, magic := 0 } v =
      if v = a then { f v with used := false, magic := 0 } else f v := by
    intro v
    rw [Function.update_apply]
    split
    · rename_i heq
      rw [heq]
    · rfl
  refine ⟨Function.update f a { f a with used := false, magic := 0 }, rfl, ?_, ?_, ?_, ?_⟩
  · intro v hv
    have hne : v ≠ a := by
      rintro rfl
      exact hv (Set.mem_insert v D)
    rw [hupdate, if_neg hne]
    exact h.others v fun hD => hv (Set.mem_insert_of_mem a hD)
  · intro v hv
    rw [hupdate]
    split
    · exact (by decide : (0 : Nat) ≠ WINDOW_MAGIC)
    · exact h.dead v (Set.mem_of_mem_insert_of_ne hv ‹_›)
  · intro v
    rw [← h.next, hupdate]
    split <;> rfl
  · intro v
    rw [← h.type, hupdate]
    split <;> rfl

theorem getWindowFromWid_killed (h : Kills r f D) :
    getWindowFromWid (withWindows r f) wid = some v ↔ getWindowFromWid r wid = some v ∧ v ∉ D := by
  unfold getWindowFromWid
  split
  · simp
  · rw [Option.filter_eq_some_iff, Option.filter_eq_some_iff, decide_eq_true_eq, decide_eq_true_eq]
    constructor
    · rintro ⟨hin, hmagic⟩
      have hv : v ∉ D := fun hD => h.dead v hD hmagic
      refine ⟨⟨hin, ?_⟩, hv⟩
      rw [← h.others v hv]
      exact hmagic
    · rintro ⟨⟨hin, hmagic⟩, hv⟩
      refine ⟨hin, ?_⟩
      change (f v).magic = WINDOW_MAGIC
      rw [h.others v hv]
      exact hmagic

theorem Kills.killValid (h : Kills r f D) (wid : Int) :
    ∃ g, killValid (withWindows r f) (getWindowFromWid (withWindows r f) wid) = withWindows r g ∧
      Kills r g (D ∪ {v | getWindowFromWid r wid = some v}) := by
  cases hget : getWindowFromWid (withWindows r f) wid with
  | none =>
      refine ⟨f, rfl, ?_⟩
      have hsub : {v | getWindowFromWid r wid = some v} ⊆ D := by
        intro v hv
        by_contra hD
        rw [(getWindowFromWid_killed h).mpr ⟨hv, hD⟩] at hget
        cases hget
      rw [Set.union_eq_self_of_subset_right hsub]
      exact h
  | some a =>
      obtain ⟨hold, _⟩ := (getWindowFromWid_killed h).mp hget
      have hmagic : ((withWindows r f).z.window a).magic = WINDOW_MAGIC := by
        unfold getWindowFromWid at hget
        split at hget
        · cases hget
        · exact of_decide_eq_true (Option.filter_eq_some_iff.mp hget).2
      obtain ⟨g, hkill, hkills⟩ := h.kill a
      refine ⟨g, ?_, ?_⟩
      · rw [Registry.killValid, if_pos hmagic, hkill]
      · have hset : D ∪ {v | getWindowFromWid r wid = some v} = insert a D := by
          ext v
          simp only [hold, Set.mem_union, Set.mem_ofPred_eq, Set.mem_insert_iff, Option.some.injEq]
          rw [or_comm, eq_comm]
        rw [hset]
        exact hkills

theorem Kills.controls (h : Kills r f D) (wids : Control → Int) (cs : List Control) :
    ∃ g, cs.foldl (fun r' c => Registry.killValid r' (getWindowFromWid r' (wids c)))
        (withWindows r f) = withWindows r g ∧
      Kills r g (D ∪ {v | ∃ c ∈ cs, getWindowFromWid r (wids c) = some v}) := by
  induction cs generalizing f D with
  | nil =>
      refine ⟨f, rfl, ?_⟩
      have hset : D ∪ {v | ∃ c ∈ ([] : List Control), getWindowFromWid r (wids c) = some v} = D := by
        ext v
        simp
      rw [hset]
      exact h
  | cons c cs ih =>
      obtain ⟨g, hkill, hkills⟩ := h.killValid (wids c)
      obtain ⟨g', hrest, hkills'⟩ := ih hkills
      refine ⟨g', ?_, ?_⟩
      · rw [List.foldl_cons, hkill, hrest]
      · have hset : D ∪ {v | ∃ c' ∈ c :: cs, getWindowFromWid r (wids c') = some v} =
            D ∪ {v | getWindowFromWid r (wids c) = some v} ∪
              {v | ∃ c' ∈ cs, getWindowFromWid r (wids c') = some v} := by
          ext v
          simp [or_assoc]
        rw [hset]
        exact hkills'

theorem destroyTitlebar_kills (r : Table) (w : Nat) :
    ∃ g, destroyTitlebar r w = withWindows r g ∧ Kills r g (titlebarParts r w) := by
  cases hbar : (r.entry w).titlebar with
  | none =>
      refine ⟨r.z.window, by rw [destroyTitlebar, hbar]; rfl, ?_⟩
      have hset : titlebarParts r w = ∅ := by
        ext v
        simp [titlebarParts, hbar]
      rw [hset]
      exact kills_nothing r
  | some t =>
      by_cases hmagic : (r.z.window t).magic = WINDOW_MAGIC
      · obtain ⟨f, hkill, hkills⟩ := (kills_nothing r).kill t
        obtain ⟨g, hcontrols, hkills'⟩ := hkills.controls (r.entry t).controls
          [.minimize, .maximize, .close]
        refine ⟨g, ?_, ?_⟩
        · rw [destroyTitlebar, hbar]
          dsimp only
          rw [if_neg (not_not.mpr hmagic), ← hcontrols, ← hkill]
          rfl
        · have hset : titlebarParts r w = insert t ∅ ∪ {v | ∃ c ∈ [Control.minimize, .maximize, .close],
              getWindowFromWid r ((r.entry t).controls c) = some v} := by
            ext v
            simp only [titlebarParts, hbar, Option.some.injEq, Set.mem_ofPred_eq, Set.mem_union,
              Set.mem_insert_iff, Set.mem_empty_iff_false, or_false]
            constructor
            · rintro ⟨_, rfl, _, rfl | ⟨c, hc⟩⟩
              · exact .inl rfl
              · exact .inr ⟨c, by cases c <;> simp, hc⟩
            · rintro (rfl | ⟨c, _, hc⟩)
              · exact ⟨_, rfl, hmagic, .inl rfl⟩
              · exact ⟨t, rfl, hmagic, .inr ⟨c, hc⟩⟩
          rw [hset]
          exact hkills'
      · refine ⟨r.z.window, ?_, ?_⟩
        · rw [destroyTitlebar, hbar]
          exact if_pos hmagic
        · have hset : titlebarParts r w = ∅ := by
            ext v
            simp [titlebarParts, hbar, hmagic]
          rw [hset]
          exact kills_nothing r

theorem destroyWindowByWid_kills (h : target r wid = some w) :
    ∃ g, (destroyWindowByWid r wid).2 = withWindows (clearSlots r w) g ∧
      Kills r g (killed r w) := by
  obtain ⟨hw, hkind⟩ := Option.filter_eq_some_iff.mp h
  obtain ⟨hroot, hkind⟩ := of_decide_eq_true hkind
  unfold destroyWindowByWid
  rw [hw]
  dsimp only
  rw [if_neg hroot]
  by_cases htype : (r.z.window w).type = WT_OVERLAPPED
  · obtain ⟨f, hbar, hkills⟩ := destroyTitlebar_kills r w
    obtain ⟨g, hkill, hkills'⟩ := hkills.kill w
    refine ⟨g, ?_, ?_⟩
    · rw [if_neg (not_not.mpr htype), hbar]
      exact congrArg (fun r' => clearSlots r' w) hkill
    · have hset : killed r w = insert w (titlebarParts r w) := by
        ext v
        simp [killed, htype]
      rw [hset]
      exact hkills'
  · obtain ⟨g, hkill, hkills⟩ := (kills_nothing r).kill w
    refine ⟨g, ?_, ?_⟩
    · rw [if_pos htype, if_neg (not_not.mpr (hkind.resolve_left htype))]
      exact congrArg (fun r' => clearSlots r' w) hkill
    · have hset : killed r w = insert w ∅ := by
        ext v
        simp [killed, htype]
      rw [hset]
      exact hkills

/-- The screen `a` is the screen `s` after the windows of `K` have died. -/
structure Died (s a : Screen) (K : Set Nat) : Prop where
  live : ∀ v, a.Live v ↔ s.Live v ∧ v ∉ K
  type : ∀ v, a.type v = s.type v
  next : a.z.next = s.z.next
  count : a.z.count = s.z.count
  first : a.z.firstWindow = s.z.firstWindow
  last : a.z.lastWindow = s.z.lastWindow
  active : a.z.activeWindow = s.z.activeWindow
  childHead : a.childHead = s.childHead
  keyboardOwner : a.keyboardOwner = s.keyboardOwner
  mouseOwner : a.mouseOwner = s.mouseOwner
  jail : a.jail = s.jail
  used : (∀ v, (s.z.window v).magic = WINDOW_MAGIC → (s.z.window v).used = true) →
    ∀ v, (a.z.window v).magic = WINDOW_MAGIC → (a.z.window v).used = true

theorem Kills.died (h : Kills s.table f D) (w : Nat) :
    Died s (withTable s (withWindows (clearSlots s.table w) f)) D := by
  refine ⟨fun v => ?_, h.type, funext h.next, rfl, rfl, rfl, rfl, rfl, rfl, rfl, rfl,
    fun hused v hmagic => ?_⟩
  · change (f v).Live ↔ (s.z.window v).Live ∧ v ∉ D
    by_cases hv : v ∈ D
    · exact iff_of_false (fun hlive => h.dead v hv hlive.2) fun hlive => hlive.2 hv
    · rw [h.others v hv]
      exact (and_iff_left hv).symm
  · have hv : v ∉ D := fun hv => h.dead v hv hmagic
    change (f v).magic = WINDOW_MAGIC at hmagic
    change (f v).used = true
    rw [h.others v hv] at hmagic ⊢
    exact hused v hmagic

theorem Died.points (h : Died s a K) : Points a v ↔ Points s v := by
  rw [Points, Points, h.active, h.keyboardOwner, h.mouseOwner, h.last]

/-- The lists of a screen, apart from a dead first window, lead to live windows only. -/
structure Lists (s : Screen) (R : Set Nat) : Prop where
  list : ∀ f, s.z.firstWindow = some f → s.Live f → ∀ v, Leads s.z.next R (some f) v → s.Live v
  children : ∀ p, s.Live p → ∀ v, Leads s.z.next R (s.childHead p) v → s.Live v
  used : ∀ v, (s.z.window v).magic = WINDOW_MAGIC → (s.z.window v).used = true

theorem Lists.sane (h : Lists s ∅) (hfirst : ∀ f, s.z.firstWindow = some f → s.Live f)
    (hpoints : ∀ v, Points s v → s.Live v) : Sane s := by
  refine ⟨?_, h.used⟩
  rintro v (hpoint | hlead | ⟨p, hp, hlead⟩)
  · exact hpoints v hpoint
  · cases hsome : s.z.firstWindow with
    | none =>
        rw [hsome] at hlead
        cases hlead
    | some f =>
        rw [hsome] at hlead
        exact h.list f hsome (hfirst f hsome) v hlead
  · exact h.children p hp v hlead

theorem Lists.congr (h : Lists s R) (hsame : SameWindows s.z a.z) (hnext : a.z.next = s.z.next)
    (hfirst : ∀ f, a.z.firstWindow = some f → s.z.firstWindow = some f)
    (hchild : a.childHead = s.childHead) : Lists a R := by
  constructor
  · intro f hf hlive v hv
    rw [hnext] at hv
    exact (hsame.live_iff v).mpr (h.list f (hfirst f hf) ((hsame.live_iff f).mp hlive) v hv)
  · intro p hp v hv
    rw [hnext, hchild] at hv
    exact (hsame.live_iff v).mpr (h.children p ((hsame.live_iff p).mp hp) v hv)
  · intro v hv
    rw [hsame.magic] at hv
    rw [hsame.used]
    exact h.used v hv

theorem Unlinked.lists (h : Unlinked s K R) (hs : Sane s) (hdied : Died s a K) : Lists a R := by
  constructor
  · intro f hf hlive v hv
    rw [hdied.first] at hf
    rw [hdied.next] at hv
    obtain ⟨_, hfK⟩ := (hdied.live f).mp hlive
    refine (hdied.live v).mpr ⟨?_, fun hK => h.list f hf hfK v hK hv⟩
    have hfull := hv.mono (Set.empty_subset R)
    rw [← hf] at hfull
    exact hs.noDangling v (.inr (.inl hfull))
  · intro p hp v hv
    rw [hdied.childHead, hdied.next] at hv
    obtain ⟨hp', hpK⟩ := (hdied.live p).mp hp
    refine (hdied.live v).mpr ⟨?_, fun hK => h.children p hp' hpK v hK hv⟩
    exact hs.noDangling v (.inr (.inr ⟨p, hp', hv.mono (Set.empty_subset R)⟩))
  · exact hdied.used hs.used

/-- The windows that the loop of `wm_rebuild_list` puts on top when it comes to `slots`. -/
def relisted (s : Screen) (slots : Set Nat) : Set Nat :=
  {v | Shown s.z v ∧ ∃ slot ∈ slots, s.z.windowList slot = some v}

/-- What the loop has done to the screen `a` when it has been to the slots of `P` and is going to
the others of `Q`. -/
structure Rebuilt (a b : Screen) (P Q : Set Nat) : Prop where
  same : SameWindows a.z b.z
  childHead : b.childHead = a.childHead
  jail : b.jail = a.jail
  next : ∀ v u, b.z.next v = some u → u ∈ relisted a Q ∨ a.z.next v = some u
  done : ∀ v ∈ relisted a P, ∀ u, b.z.next v = some u → u ∈ relisted a Q
  first : b.z.firstWindow = a.z.firstWindow ∧
      (relisted a P = ∅ ∨ ∃ f, a.z.firstWindow = some f ∧ a.Live f) ∨
    ∃ f ∈ relisted a Q, b.z.firstWindow = some f
  untouched : relisted a P = ∅ → b = a
  active : relisted a P ≠ ∅ → ∃ l ∈ relisted a Q, b.z.activeWindow = some l
  owners : b.keyboardOwner = a.keyboardOwner ∧ b.mouseOwner = a.mouseOwner ∧
      b.z.activeWindow = a.z.activeWindow ∧ (∀ v ∈ relisted a P, a.z.activeWindow = some v) ∨
    ∃ r ∈ relisted a Q, b.keyboardOwner = some r ∧ b.mouseOwner = some r

theorem relisted_insert_of_not_shown (h : ∀ v, a.z.windowList slot = some v → ¬ Shown a.z v) :
    relisted a (insert slot P) = relisted a P := by
  ext v
  constructor
  · rintro ⟨hshown, i, hi, hin⟩
    rcases Set.mem_insert_iff.mp hi with rfl | hi
    · exact absurd hshown (h v hin)
    · exact ⟨hshown, i, hi, hin⟩
  · rintro ⟨hshown, i, hi, hin⟩
    exact ⟨hshown, i, Set.mem_insert_of_mem slot hi, hin⟩

theorem relisted_insert (hin : a.z.windowList slot = some w) (hshown : Shown a.z w) :
    relisted a (insert slot P) = insert w (relisted a P) := by
  ext v
  rw [Set.mem_insert_iff]
  constructor
  · rintro ⟨hv, i, hi, hin'⟩
    rcases Set.mem_insert_iff.mp hi with rfl | hi
    · rw [hin] at hin'
      exact .inl (Option.some.inj hin').symm
    · exact .inr ⟨hv, i, hi, hin'⟩
  · rintro (rfl | ⟨hv, i, hi, hin'⟩)
    · exact ⟨hshown, slot, Set.mem_insert slot P, hin⟩
    · exact ⟨hv, i, Set.mem_insert_of_mem slot hi, hin'⟩

theorem keyboardOwner_withList (s : Screen) (hactive : z.activeWindow = some w) :
    (s.z.activeWindow = some w ∧ (withList s z).keyboardOwner = s.keyboardOwner ∧
      (withList s z).mouseOwner = s.mouseOwner) ∨
    (s.z.activeWindow ≠ some w ∧ (withList s z).keyboardOwner = some w ∧
      (withList s z).mouseOwner = some w) := by
  unfold withList
  rw [hactive]
  split
  · rename_i heq
    exact .inl ⟨heq.symm, rfl, rfl⟩
  · rename_i hne
    exact .inr ⟨fun heq => hne heq.symm, rfl, rfl⟩

theorem jail_withList (s : Screen) (z : ZOrder.Desktop) : (withList s z).jail = s.jail := by
  unfold withList
  split <;> rfl

theorem rebuilt_addToTop (h : Rebuilt a b P Q) (hslot : slot ∈ Q)
    (hin : a.z.windowList slot = some w) (hshown : Shown a.z w) (hadd : addToTop b w = .ok c) :
    Rebuilt a c (insert slot P) Q := by
  have hw : w ∈ relisted a Q := ⟨hshown, slot, hslot, hin⟩
  have hne : relisted a (insert slot P) ≠ ∅ :=
    Set.nonempty_iff_ne_empty.mp ⟨w, hshown, slot, Set.mem_insert slot P, hin⟩
  unfold addToTop at hadd
  cases hz : ZOrder.wmAddWindowToTop b.z (some w) with
  | error e =>
      rw [hz] at hadd
      cases hadd
  | ok z =>
      rw [hz] at hadd
      obtain rfl : withList b z = c := Except.ok.inj hadd
      rcases wmAddWindowToTop_cases hz with ⟨hnot, _⟩ | ⟨_, hsame, hactive, _, hlist⟩
      · exact absurd ((h.same.shown_iff w).mpr hshown) hnot
      have hnext : ∀ v u, z.next v = some u → u = w ∨ v ≠ w ∧ b.z.next v = some u := by
        intro v u hu
        rcases hlist with ⟨_, _, hnext⟩ | ⟨_, _, _, _, _, hnext⟩
        · rw [hnext] at hu
          exact .inr (update_end_cases hu)
        · rw [hnext] at hu
          exact update_link_cases hu
      constructor
      · rw [z_withList]
        exact h.same.trans hsame
      · rw [childHead_withList, h.childHead]
      · rw [jail_withList, h.jail]
      · intro v u hu
        rw [z_withList] at hu
        rcases hnext v u hu with rfl | ⟨_, hold⟩
        · exact .inl hw
        · exact h.next v u hold
      · intro v hv u hu
        rw [z_withList] at hu
        rcases hnext v u hu with rfl | ⟨hvw, hold⟩
        · exact hw
        · rw [relisted_insert hin hshown] at hv
          exact h.done v (Set.mem_of_mem_insert_of_ne hv hvw) u hold
      · rw [z_withList]
        rcases hlist with ⟨_, hfirst, _⟩ | ⟨f, _, hf, hlive, hfirst, _⟩
        · exact .inr ⟨w, hw, hfirst⟩
        · rcases h.first with ⟨hsame', _⟩ | ⟨f', hf', hsame'⟩
          · rw [hsame'] at hf
            refine .inl ⟨hfirst.trans hf.symm, .inr ⟨f, hf, ?_⟩⟩
            exact (h.same.live_iff f).mp hlive
          · rw [hsame'] at hf
            obtain rfl := Option.some.inj hf
            exact .inr ⟨f', hf', hfirst⟩
      · exact fun hempty => absurd hempty hne
      · intro _
        rw [z_withList]
        exact ⟨w, hw, hactive⟩
      · rcases keyboardOwner_withList b hactive with ⟨hold, hkeyboard, hmouse⟩ | ⟨_, hkeyboard, hmouse⟩
        · rcases h.owners with ⟨hk, hm, ha, hall⟩ | ⟨r, hr, hk, hm⟩
          · left
            refine ⟨hkeyboard.trans hk, hmouse.trans hm, ?_, ?_⟩
            · rw [z_withList, hactive, ← hold, ha]
            · intro v hv
              rw [relisted_insert hin hshown] at hv
              rcases Set.mem_insert_iff.mp hv with rfl | hv
              · rw [← ha, hold]
              · exact hall v hv
          · exact .inr ⟨r, hr, hkeyboard.trans hk, hmouse.trans hm⟩
        · exact .inr ⟨w, hw, hkeyboard, hmouse⟩

theorem Rebuilt.skip (h : Rebuilt a b P Q)
    (hskip : ∀ v, a.z.windowList slot = some v → ¬ Shown a.z v) :
    Rebuilt a b (insert slot P) Q := by
  have heq := relisted_insert_of_not_shown (P := P) hskip
  refine ⟨h.same, h.childHead, h.jail, h.next, ?_, ?_, ?_, ?_, ?_⟩
  · rw [heq]
    exact h.done
  · rw [heq]
    exact h.first
  · rw [heq]
    exact h.untouched
  · rw [heq]
    exact h.active
  · rw [heq]
    exact h.owners

theorem rebuilt_slot (h : Rebuilt a b P Q) (hslot : slot ∈ Q)
    (hvisit : rebuildSlot b slot = .ok c) :
    Rebuilt a c (insert slot P) Q := by
  unfold rebuildSlot at hvisit
  rw [h.same.windowList] at hvisit
  split at hvisit
  · rename_i hnone
    obtain rfl := Except.ok.inj hvisit
    refine h.skip fun v hv => ?_
    rw [hnone] at hv
    cases hv
  · rename_i w hin
    have honly : ∀ v, a.z.windowList slot = some v → v = w := by
      intro v hv
      rw [hin] at hv
      exact (Option.some.inj hv).symm
    by_cases hshown : Shown a.z w
    · have hshown' := (h.same.shown_iff w).mpr hshown
      rw [if_pos ⟨hshown'.1.2, hshown'.2⟩] at hvisit
      exact rebuilt_addToTop h hslot hin hshown hvisit
    · have hrefused : addToTop b w = .ok b := by
        unfold addToTop
        rw [ZOrder.wmAddWindowToTop_refused fun hs => hshown ((h.same.shown_iff w).mp hs)]
        change Except.ok (withList b b.z) = .ok b
        rw [withList, if_pos rfl]
        rfl
      rw [hrefused, ite_self] at hvisit
      obtain rfl := Except.ok.inj hvisit
      refine h.skip fun v hv => ?_
      rw [honly v hv]
      exact hshown

theorem rebuilt_slots (slots : List Nat) (h : Rebuilt a b P Q) (hslots : ∀ slot ∈ slots, slot ∈ Q)
    (hloop : slots.foldlM rebuildSlot b = .ok c) :
    Rebuilt a c (P ∪ {slot | slot ∈ slots}) Q := by
  induction slots generalizing b P with
  | nil =>
      obtain rfl := Except.ok.inj hloop
      have hset : P ∪ {slot | slot ∈ ([] : List Nat)} = P := by
        ext slot
        simp
      rw [hset]
      exact h
  | cons slot slots ih =>
      rw [List.foldlM_cons] at hloop
      cases hvisit : rebuildSlot b slot with
      | error e =>
          rw [hvisit] at hloop
          cases hloop
      | ok d =>
          rw [hvisit] at hloop
          have hrest := ih (rebuilt_slot h (hslots slot List.mem_cons_self) hvisit)
            (fun i hi => hslots i (List.mem_cons_of_mem slot hi)) hloop
          have hset : P ∪ {i | i ∈ slot :: slots} = insert slot P ∪ {i | i ∈ slots} := by
            ext i
            simp only [List.mem_cons, Set.mem_union, Set.mem_insert_iff, Set.mem_ofPred_eq]
            tauto
          rw [hset]
          exact hrest

def allSlots : Set Nat := {slot | slot < WINDOW_COUNT_MAX}

theorem rebuilt_start (a : Screen) : Rebuilt a a ∅ allSlots := by
  have hempty : relisted a ∅ = ∅ := by
    ext v
    simp [relisted]
  refine ⟨.refl a.z, rfl, rfl, fun _ _ hu => .inr hu, ?_, .inl ⟨rfl, .inl hempty⟩, fun _ => rfl,
    fun hne => absurd hempty hne, .inl ⟨rfl, rfl, rfl, ?_⟩⟩
  · rw [hempty]
    exact fun v hv => absurd hv (Set.notMem_empty v)
  · rw [hempty]
    exact fun v hv => absurd hv (Set.notMem_empty v)

theorem rebuilt_wmRebuildList (a : Screen) :
    Ensures (wmRebuildList a) fun b => Rebuilt a b allSlots allSlots := by
  intro b hb
  have h := rebuilt_slots (List.range WINDOW_COUNT_MAX) (rebuilt_start a)
    (fun slot hslot => List.mem_range.mp hslot) hb
  have hset : ∅ ∪ {slot | slot ∈ List.range WINDOW_COUNT_MAX} = allSlots := by
    ext slot
    simp [allSlots]
  rw [hset] at h
  exact h

theorem Rebuilt.lists (h : Rebuilt a b allSlots allSlots) (ha : Lists a (relisted a allSlots)) :
    Lists b ∅ := by
  have hlists : ∀ start v, Leads b.z.next ∅ start v →
      (∀ u, start = some u → u ∈ relisted a allSlots ∨
        (a.z.firstWindow = some u ∧ a.Live u ∨ ∃ p, a.Live p ∧ a.childHead p = some u)) →
      b.Live v := by
    intro start v hlead hstart
    have hin : v ∈ relisted a allSlots ∨ ∃ head,
        (a.z.firstWindow = some head ∧ a.Live head ∨ ∃ p, a.Live p ∧ a.childHead p = some head) ∧
          Leads a.z.next (relisted a allSlots) (some head) v := by
      apply hlead.mem (S := {v | v ∈ relisted a allSlots ∨ ∃ head,
        (a.z.firstWindow = some head ∧ a.Live head ∨ ∃ p, a.Live p ∧ a.childHead p = some head) ∧
          Leads a.z.next (relisted a allSlots) (some head) v})
      · intro u hu
        exact (hstart u hu).imp_right fun hhead => ⟨u, hhead, .here u⟩
      · intro u hu _ c hc
        by_cases hR : u ∈ relisted a allSlots
        · exact .inl (h.done u hR c hc)
        · obtain ⟨head, hhead, hto⟩ := hu.resolve_left hR
          rcases h.next u c hc with hc | hc
          · exact .inl hc
          · exact .inr ⟨head, hhead, hto.step hR hc⟩
    apply (h.same.live_iff v).mpr
    rcases hin with hv | ⟨head, ⟨hfirst, hlive⟩ | ⟨p, hp, hchild⟩, hto⟩
    · exact hv.1.1
    · exact ha.list head hfirst hlive v hto
    · rw [← hchild] at hto
      exact ha.children p hp v hto
  constructor
  · intro f hf hlive v hv
    refine hlists (some f) v hv fun u hu => ?_
    obtain rfl := Option.some.inj hu
    rcases h.first with ⟨hsame, _⟩ | ⟨f', hf', hsame⟩
    · rw [hsame] at hf
      exact .inr (.inl ⟨hf, (h.same.live_iff f).mp hlive⟩)
    · rw [hsame] at hf
      obtain rfl := Option.some.inj hf
      exact .inl hf'
  · intro p hp v hv
    rw [h.childHead] at hv
    exact hlists _ v hv fun u hu => .inr (.inr ⟨p, (h.same.live_iff p).mp hp, hu⟩)
  · intro v hv
    rw [h.same.magic] at hv
    rw [h.same.used]
    exact ha.used v hv

theorem leads_of_uppermost {f : Nat} (h : uppermost z f = some l) : Leads z.next ∅ (some f) l := by
  obtain ⟨cs, hcs, rfl⟩ := Option.map_eq_some_iff.mp h
  have hfollows := follows_of_cells hcs
  cases hfilter : cs.filter fun w => (z.window w).type = WT_OVERLAPPED with
  | nil => exact .here f
  | cons a rest =>
      have hmem : (a :: rest).getLastD f ∈ cs.filter fun w => (z.window w).type = WT_OVERLAPPED := by
        rw [hfilter, List.getLastD_cons, ← List.getLast_eq_getLastD (List.cons_ne_nil a rest)]
        exact List.getLast_mem _
      exact hfollows.leads (List.mem_filter.mp hmem).1

theorem Lists.withLast (h : Lists s R) (l : Option Nat) : Lists (WindowLinks.withLast s l) R :=
  h.congr ⟨fun _ => rfl, fun _ => rfl, fun _ => rfl, rfl, rfl⟩ rfl (fun _ hf => hf) rfl

/-- Whoever owns the keyboard and the mouse, or else the uppermost window takes both over. -/
def OwnersLive (s : Screen) (l : Nat) : Prop :=
  (∀ v, s.z.activeWindow = some v ∨ s.keyboardOwner = some v ∨ s.mouseOwner = some v → s.Live v) ∨
    s.type l = WT_OVERLAPPED ∧ s.z.activeWindow ≠ some l

theorem sane_uppermost (h : Lists s ∅) (hfirst : ∀ f, s.z.firstWindow = some f → s.Live f)
    (hl : s.Live l) (howners : OwnersLive s l) :
    Sane (setActiveWindow (withLast s (some l)) l) := by
  have hlast := h.withLast (some l)
  rcases howners with hlive | ⟨htype, hactive⟩
  · apply sane_setActiveWindow
    refine hlast.sane hfirst ?_
    rintro v (hv | hv | hv | hv)
    · exact hlive v (.inl hv)
    · exact hlive v (.inr (.inl hv))
    · exact hlive v (.inr (.inr hv))
    · cases hv
      exact hl
  · have hmagic : ((withLast s (some l)).z.window l).magic = WINDOW_MAGIC := hl.2
    have htype' : ((withLast s (some l)).z.window l).type = WT_OVERLAPPED := htype
    have hset : ZOrder.setActiveWindow (withLast s (some l)).z l =
        { (withLast s (some l)).z with activeWindow := some l } := by
      rw [ZOrder.setActiveWindow, if_neg (not_not.mpr hmagic), if_neg (not_not.mpr htype')]
    have hz : (setActiveWindow (withLast s (some l)) l).z =
        { (withLast s (some l)).z with activeWindow := some l } :=
      (z_withList _ _).trans hset
    have hlists : Lists (setActiveWindow (withLast s (some l)) l) ∅ := by
      refine hlast.congr ?_ ?_ ?_ (childHead_withList _ _)
      · rw [hz]
        exact ⟨fun _ => rfl, fun _ => rfl, fun _ => rfl, rfl, rfl⟩
      · rw [hz]
        rfl
      · intro f hf
        rw [hz] at hf
        exact hf
    have hlive : ∀ v, (setActiveWindow (withLast s (some l)) l).Live v ↔ s.Live v := by
      intro v
      rw [Screen.Live, hz]
      rfl
    refine hlists.sane (fun f hf => ?_) fun v hv => (hlive v).mpr ?_
    · rw [hz] at hf
      exact (hlive f).mpr (hfirst f hf)
    · have hkeyboard := keyboardOwner_withList (withLast s (some l))
        (z := ZOrder.setActiveWindow (withLast s (some l)).z l) (w := l) (by rw [hset])
      obtain ⟨_, hkeyboard, hmouse⟩ := hkeyboard.resolve_left fun heq => hactive heq.1
      have hv' : v = l := by
        rcases hv with hv | hv | hv | hv
        · rw [hz] at hv
          exact (Option.some.inj hv).symm
        · change (withList _ _).keyboardOwner = _ at hv
          rw [hkeyboard] at hv
          exact (Option.some.inj hv).symm
        · change (withList _ _).mouseOwner = _ at hv
          rw [hmouse] at hv
          exact (Option.some.inj hv).symm
        · rw [hz] at hv
          exact (Option.some.inj hv).symm
      rw [hv']
      exact hl

def PointsLive (s : Screen) (f : Nat) : Prop :=
  if s.jail = true then ∀ v, Points s v → s.Live v
  else ∀ l, lastCell s.z.next s.z.count f = some l → s.Live l

def updateFrom (s : Screen) : Except String Screen :=
  match s.z.firstWindow with
  | none => .error "wm_update_desktop: w->magic"
  | some first =>
      if (s.z.window first).magic ≠ WINDOW_MAGIC then .ok (withFirst s none)
      else
        match uppermost s.z first with
        | none => .error "wm_update_desktop: while"
        | some l => .ok (setActiveWindow (withLast s (some l)) l)

theorem wmUpdateDesktop_eq (s : Screen) : wmUpdateDesktop s = wmTile s >>= updateFrom := rfl

theorem sane_updateFrom (h : Lists s ∅)
    (hdead : ∀ f, s.z.firstWindow = some f → ¬ s.Live f → ∀ v, Points s v → s.Live v)
    (howners : ∀ f l, s.z.firstWindow = some f → s.Live f → uppermost s.z f = some l →
      OwnersLive s l) : Ensures (updateFrom s) Sane := by
  unfold updateFrom
  split
  · exact ensures_error _
  · rename_i f hf
    refine ensures_ite (fun hmagic => ensures_ok ?_) fun hmagic => ?_
    · have hlists : Lists (withFirst s none) ∅ :=
        h.congr ⟨fun _ => rfl, fun _ => rfl, fun _ => rfl, rfl, rfl⟩ rfl
          (fun _ hnone => by cases hnone) rfl
      refine hlists.sane (fun _ hnone => by cases hnone) fun v hv => ?_
      exact hdead f hf (fun hlive => hmagic hlive.2) v hv
    · have hlive : s.Live f := ⟨h.used f (not_not.mp hmagic), not_not.mp hmagic⟩
      split
      · exact ensures_error _
      · rename_i l hl
        apply ensures_ok
        refine sane_uppermost h (fun f' hf' => ?_) ?_ (howners f l hf hlive hl)
        · rw [hf] at hf'
          cases hf'
          exact hlive
        · exact h.list f hf hlive l (leads_of_uppermost hl)

theorem sane_wmUpdateDesktop (h : Lists s ∅)
    (hdead : ∀ f, s.z.firstWindow = some f → ¬ s.Live f → PointsLive s f)
    (howners : s.jail = true → ∀ f l, s.z.firstWindow = some f → s.Live f →
      uppermost s.z f = some l → OwnersLive s l) : Ensures (wmUpdateDesktop s) Sane := by
  rw [wmUpdateDesktop_eq]
  unfold wmTile
  cases hf : s.z.firstWindow with
  | none =>
      refine Ensures.bind (Q := fun t => t = s) (ensures_ok rfl) ?_
      rintro _ rfl
      unfold updateFrom
      rw [hf]
      exact ensures_error _
  | some f =>
      dsimp only
      by_cases hjail : s.jail = true
      · refine Ensures.bind (Q := fun t => t = s) ?_ ?_
        · rw [if_pos hjail]
          exact ensures_ok rfl
        · rintro _ rfl
          refine sane_updateFrom h (fun f' hf' hlive => ?_) (howners hjail)
          have hpoints := hdead f' hf' hlive
          rw [PointsLive, if_pos hjail] at hpoints
          exact hpoints
      · rw [if_neg hjail]
        cases hl : lastCell s.z.next s.z.count f with
        | none => exact ensures_error _
        | some l =>
            refine sane_updateFrom (h.congr ⟨fun _ => rfl, fun _ => rfl, fun _ => rfl, rfl, rfl⟩ rfl
              (fun _ hf' => hf') rfl) ?_ ?_
            · intro f' hf' hlive v hv
              have hf'' : some f' = some f := hf'.symm.trans hf
              cases hf''
              have hpoints := hdead f hf hlive
              rw [PointsLive, if_neg hjail] at hpoints
              rcases hv with hv | hv | hv | hv
              · cases hv
                exact hpoints _ hl
              · cases hv
                exact hpoints _ hl
              · cases hv
              · cases hv
                exact hpoints _ hl
            · intro f' l' hf' hlive _
              have hf'' : some f' = some f := hf'.symm.trans hf
              cases hf''
              have hlast : s.Live l := h.list f hf hlive l (leads_of_lastCell hl)
              left
              rintro v (hv | hv | hv)
              · cases hv
                exact hlast
              · cases hv
                exact hlast
              · cases hv

theorem remaining_eq {g : Nat → ZOrder.Window}
    (ha : a = withTable s (withWindows (clearSlots s.table w) g))
    (hdied : Died s a (killed s.table w)) : relisted a allSlots = remaining s.table w := by
  ext v
  have hshown : Shown a.z v ↔ Shown s.z v ∧ v ∉ killed s.table w := by
    rw [Shown, Shown, and_right_comm]
    exact and_congr (hdied.live v) (by rw [← Screen.type, hdied.type]; rfl)
  have hslot : v ∉ killed s.table w → ∀ slot,
      (a.z.windowList slot = some v ↔ s.z.windowList slot = some v) := by
    intro hv slot
    have hne : v ≠ w := fun heq => hv (.inl heq)
    rw [ha]
    change (s.z.windowList slot).filter (fun u => decide (u ≠ w)) = some v ↔ _
    rw [Option.filter_eq_some_iff, decide_eq_true_eq]
    exact and_iff_left hne
  constructor
  · rintro ⟨hv, slot, hlt, hin⟩
    obtain ⟨hv, hK⟩ := hshown.mp hv
    exact ⟨hv, hK, slot, hlt, (hslot hK slot).mp hin⟩
  · rintro ⟨hv, hK, slot, hlt, hin⟩
    exact ⟨hshown.mpr ⟨hv, hK⟩, slot, hlt, (hslot hK slot).mpr hin⟩

theorem sane_forgotten (h : Sane s) (hforgotten : Forgotten s w) (hdied : Died s a {w}) :
    Sane a := by
  have hlists := hforgotten.unlinked.lists h hdied
  refine hlists.sane (fun f hf => ?_) fun v hv => ?_
  · rw [hdied.first] at hf
    refine (hdied.live f).mpr ⟨?_, ?_⟩
    · apply h.noDangling f
      rw [Found, hf]
      exact .inr (.inl (.here f))
    · rintro rfl
      exact hforgotten.first hf
  · rw [hdied.points] at hv
    refine (hdied.live v).mpr ⟨h.noDangling v (.inl hv), ?_⟩
    rintro rfl
    exact hforgotten.points hv

theorem Died.points_live (hdied : Died s a K) (h : Sane s) (hv : Points s v) (hK : v ∉ K) :
    a.Live v :=
  (hdied.live v).mpr ⟨h.noDangling v (.inl hv), hK⟩

theorem replaced_pointsLive (h : Sane s) (hdied : Died s a K)
    (hreplaced : Replaced s K (relisted a allSlots)) (hrebuilt : Rebuilt a b allSlots allSlots)
    {f : Nat} (hf : b.z.firstWindow = some f) (hdead : ¬ b.Live f) : PointsLive b f := by
  have hfirst : a.z.firstWindow = some f ∧ relisted a allSlots = ∅ := by
    rcases hrebuilt.first with ⟨hsame, hwhy⟩ | ⟨f', hf', hsame⟩
    · rw [hsame] at hf
      refine ⟨hf, hwhy.resolve_right ?_⟩
      rintro ⟨f', hf', hlive⟩
      rw [hf] at hf'
      cases hf'
      exact hdead ((hrebuilt.same.live_iff f).mpr hlive)
    · rw [hsame] at hf
      cases hf
      exact absurd ((hrebuilt.same.live_iff _).mpr hf'.1.1) hdead
  obtain ⟨hfa, hempty⟩ := hfirst
  obtain rfl := hrebuilt.untouched hempty
  have hfs : s.z.firstWindow = some f := hdied.first ▸ hfa
  have hlive : s.Live f := by
    apply h.noDangling f
    rw [Found, hfs]
    exact .inr (.inl (.here f))
  have hK : f ∈ K := by
    by_contra hK
    exact hdead ((hdied.live f).mpr ⟨hlive, hK⟩)
  have hpointers := hreplaced.first f hK hfs hempty
  rw [PointsLive, hdied.jail]
  split
  · rename_i hjail
    rw [if_pos hjail] at hpointers
    intro v hv
    rw [hdied.points] at hv
    exact hdied.points_live h hv fun hvK => hpointers v hvK hv
  · rename_i hjail
    rw [if_neg hjail] at hpointers
    intro l hl
    rw [hdied.next, hdied.count] at hl
    refine (hdied.live l).mpr ⟨?_, hpointers l hl⟩
    apply h.noDangling l
    rw [Found, hfs]
    exact .inr (.inl (leads_of_lastCell hl))

theorem replaced_ownersLive (h : Sane s) (hdied : Died s a K)
    (hreplaced : Replaced s K (relisted a allSlots)) (hrebuilt : Rebuilt a b allSlots allSlots)
    (hjail : b.jail = true) {f : Nat} (hf : b.z.firstWindow = some f) (hlive : b.Live f)
    (hl : uppermost b.z f = some l) : OwnersLive b l := by
  have hrelisted : ∀ v ∈ relisted a allSlots, b.Live v :=
    fun v hv => (hrebuilt.same.live_iff v).mpr hv.1.1
  rw [hrebuilt.jail, hdied.jail] at hjail
  rcases hrebuilt.owners with ⟨hkeyboard, hmouse, hactive, hall⟩ | ⟨r, hr, hkeyboard, hmouse⟩
  · rcases hreplaced.owners hjail with ⟨r, hr, hne⟩ | ⟨hempty, hupper⟩ | hclear
    · rw [← hdied.active] at hne
      exact absurd (hall r hr) hne
    · obtain ⟨f', l', hf', _, hl', htype, hne⟩ := hupper
      obtain rfl := hrebuilt.untouched hempty
      rw [hdied.first, hf'] at hf
      obtain rfl := Option.some.inj hf
      have hsame : uppermost b.z f' = uppermost s.z f' := by
        have htypes : ∀ v, (b.z.window v).type = (s.z.window v).type := hdied.type
        simp only [uppermost, hdied.next, hdied.count, htypes]
      rw [hsame, hl'] at hl
      obtain rfl := Option.some.inj hl
      right
      rw [hdied.type, hdied.active]
      exact ⟨htype, hne⟩
    · left
      intro v hv
      rw [hactive, hkeyboard, hmouse, hdied.active, hdied.keyboardOwner, hdied.mouseOwner] at hv
      apply (hrebuilt.same.live_iff v).mpr
      rcases hv with hv | hv | hv
      · exact hdied.points_live h (.inl hv) fun hK => (hclear v hK).1 hv
      · exact hdied.points_live h (.inr (.inl hv)) fun hK => (hclear v hK).2.1 hv
      · exact hdied.points_live h (.inr (.inr (.inl hv))) fun hK => (hclear v hK).2.2 hv
  · left
    rintro v (hv | hv | hv)
    · obtain ⟨l', hl', hactive⟩ := hrebuilt.active (Set.nonempty_iff_ne_empty.mp ⟨r, hr⟩)
      rw [hactive] at hv
      cases hv
      exact hrelisted _ hl'
    · rw [hkeyboard] at hv
      cases hv
      exact hrelisted _ hr
    · rw [hmouse] at hv
      cases hv
      exact hrelisted _ hr

theorem sane_destroyWindow (h : Sane s) (hfits : Fits s (.destroy wid)) :
    Ensures (destroyWindow s wid) Sane := by
  unfold destroyWindow
  dsimp only
  cases htarget : target s.table wid with
  | none =>
      apply ensures_ok
      rw [destroyWindowByWid_refused htarget]
      exact h
  | some w =>
      have hcondition := hfits w htarget
      obtain ⟨g, heq, hkills⟩ := destroyWindowByWid_kills htarget
      have hdied := hkills.died w
      rw [heq]
      dsimp only
      by_cases htype : s.type w = WT_OVERLAPPED
      · rw [if_neg (not_not.mpr htype)] at hcondition ⊢
        rw [← remaining_eq rfl hdied] at hcondition
        have hlists := hcondition.unlinked.lists h hdied
        refine (rebuilt_wmRebuildList _).bind fun b hb => ?_
        refine sane_wmUpdateDesktop (hb.lists hlists) ?_ ?_
        · exact fun f hf hdead => replaced_pointsLive h hdied hcondition hb hf hdead
        · exact fun hjail f l hf hlive hl =>
            replaced_ownersLive h hdied hcondition hb hjail hf hlive hl
      · rw [if_pos htype] at hcondition ⊢
        have hkilled : killed s.table w = {w} := by
          ext v
          change v = w ∨ s.type w = WT_OVERLAPPED ∧ _ ↔ v = w
          simp [htype]
        rw [hkilled] at hdied
        exact ensures_ok (sane_forgotten h hcondition hdied)

theorem sane_serve (h : Sane s) (hfits : Fits s call) : Ensures (serve s call) Sane := by
  cases call with
  | create pwid type style => exact sane_serviceCreateWindow h pwid type style
  | setFocusById wid =>
      rw [serve]
      split
      · exact ensures_ok h
      · exact sane_setFocus h _
  | setActiveById wid => exact ensures_ok (sane_activate h _)
  | activateFirstWindow => exact ensures_ok (sane_activate h _)
  | activateLastWindow => exact ensures_ok (sane_activate h _)
  | setLastWindow window =>
      cases window with
      | none => exact ensures_ok h
      | some w => exact sane_addToTop h w
  | updateDesktop3 window =>
      cases window with
      | none => exact ensures_ok h
      | some w => exact sane_wmUpdateDesktop3 h hfits
  | destroy wid => exact sane_destroyWindow h hfits

theorem started_fields (jail : Bool) : (∀ v, (started jail).Live v ↔ v = 0) ∧
      (∀ v, ((started jail).z.window v).magic = WINDOW_MAGIC → v = 0) ∧
      (started jail).z.firstWindow = none ∧ (started jail).z.lastWindow = none ∧
      (started jail).z.activeWindow = none := by
  have hnew : ∀ v, Function.update (ZOrder.emptyDesktop.desktop.window) 0 (ZOrder.newWindow WT_SIMPLE)
      v = if v = 0 then ZOrder.newWindow WT_SIMPLE else ⟨false, 0, 0, none, none⟩ :=
    fun v => Function.update_apply ..
  have hz : (started jail).z.window =
        Function.update (ZOrder.emptyDesktop.desktop.window) 0 (ZOrder.newWindow WT_SIMPLE) ∧
      (started jail).z.firstWindow = none ∧ (started jail).z.lastWindow = none ∧
      (started jail).z.activeWindow = none := by
    rw [Screen.z, started]
    dsimp only
    rcases registerWindow_cases { createObject emptyRegistry WT_SIMPLE none with rootWindow := some 0 }
      0 with ⟨heq, _⟩ | ⟨_, _, _, _, heq⟩ <;>
      · rw [heq]
        exact ⟨rfl, rfl, rfl, rfl⟩
  obtain ⟨hwindow, hends⟩ := hz
  refine ⟨fun v => ?_, fun v hmagic => ?_, hends⟩
  · rw [Screen.Live, hwindow, hnew]
    split
    · exact iff_of_true ⟨rfl, rfl⟩ ‹_›
    · exact iff_of_false (fun hlive => by cases hlive.1) ‹_›
  · rw [hwindow, hnew] at hmagic
    by_contra hv
    rw [if_neg hv] at hmagic
    cases hmagic

theorem sane_started (jail : Bool) : Sane (started jail) := by
  obtain ⟨hlive, hmagic, hfirst, hlast, hactive⟩ := started_fields jail
  refine ⟨?_, fun v hv => ?_⟩
  · rintro v ((hv | hv | hv | hv) | hv | ⟨p, _, hv⟩)
    · rw [hactive] at hv
      cases hv
    · cases hv
      exact (hlive 0).mpr rfl
    · cases hv
      exact (hlive 0).mpr rfl
    · rw [hlast] at hv
      cases hv
    · rw [hfirst] at hv
      cases hv
    · cases hv
  · rw [hmagic v hv]
    exact ((hlive 0).mpr rfl).1

theorem serve_of_step {o : Unit} {t : Screen} (h : step s call = .ok (o, t)) :
    serve s call = .ok t := by
  unfold step at h
  cases hserve : serve s call with
  | error e =>
      rw [hserve] at h
      cases h
  | ok u =>
      rw [hserve] at h
      rw [(Prod.mk.inj (Except.ok.inj h)).2]

/-- In every run that destroys and raises only windows to which no pointer is left behind, no
pointer to a dead window is found in any state reached. -/
theorem no_dangling {jail : Bool} {calls : List Call}
    (hfits : Guarded step Fits (started jail) calls) :
    NoDangling (started jail) ∧ Guarded step Meets (started jail) calls := by
  refine ⟨(sane_started jail).noDangling, Guarded.of_invariant Sane ?_ ?_ (sane_started jail) hfits⟩
  · intro s call o t h hcall hstep
    exact sane_serve h hcall t (serve_of_step hstep)
  · exact fun s call h hcall => (sane_serve h hcall).mono fun t ht => ht.noDangling

def plain : Style := ⟨false, false, false, ⟨false, false⟩⟩

def withSimple (s : Screen) (parent : Nat) : Screen :=
  let created := enroll s (createObject s.table WT_SIMPLE none) (fun _ => some parent) false
  withTable created (registerWindow created.table (some s.z.count)).2

theorem serve_simple {pwid : Int} {p : Nat} (hparent : getWindowFromWid s.table pwid = some p)
    (hbar : s.isTaskBar p = false) :
    serve s (.create pwid WT_SIMPLE plain) = .ok (withSimple s p) := by
  have hmay : mayCreate s pwid WT_SIMPLE plain = true := by
    rw [mayCreate]
    exact decide_eq_true ⟨by decide, fun happ => by cases happ⟩
  have htype : (withSimple s p).type s.z.count = WT_SIMPLE := by
    have hwindow : (createObject s.table WT_SIMPLE none).z.window s.z.count =
        ZOrder.newWindow WT_SIMPLE := Function.update_self ..
    have hkeep : (withSimple s p).z.window s.z.count =
        (createObject s.table WT_SIMPLE none).z.window s.z.count := by
      rw [withSimple]
      rcases registerWindow_cases (enroll s (createObject s.table WT_SIMPLE none)
        (fun _ => some p) false).table s.z.count with ⟨heq, _⟩ | ⟨_, _, _, _, heq⟩ <;>
        · rw [heq]
          rfl
    rw [Screen.type, hkeep, hwindow]
    rfl
  have hframe : framed (createObject s.table WT_SIMPLE none) (some p) (some s.z.count) = none := by
    have hwindow : (createObject s.table WT_SIMPLE none).z.window s.z.count =
        ZOrder.newWindow WT_SIMPLE := Function.update_self ..
    rw [framed]
    apply if_neg
    rintro ⟨_, _, hoverlapped⟩
    rw [hwindow] at hoverlapped
    cases hoverlapped
  have hcreate : createWindow s p WT_SIMPLE plain =
      .ok (enroll s (createObject s.table WT_SIMPLE none) (fun _ => some p) false) := by
    change doCreateWindowFrame _ p s.z.count plain.frame = _
    rw [doCreateWindowFrame]
    exact if_pos hframe
  have hlink : linkWindow (withSimple s p) p s.z.count plain = .ok (withSimple s p) := by
    have hbar' : (withSimple s p).isTaskBar p = false := by
      change (if _ then false else s.isTaskBar p) = false
      rw [hbar, ite_self]
    have hnochild : ¬ plain.child = true := by decide
    have hnobar : ¬ (withSimple s p).isTaskBar p = true := by
      rw [hbar']
      decide
    rw [linkWindow, if_neg hnochild, ok_bind, if_neg hnobar, ok_bind, htype, if_neg (by decide),
      ok_bind, htype, if_neg (by decide)]
  rw [serve, serviceCreateWindow, hparent]
  dsimp only
  rw [hmay, hcreate]
  change (if (registerWindow _ (some s.z.count)).1 < 0 then _ else _) = _
  split
  · rfl
  · exact hlink

def simpleWindow : List Call := [.create 0 WT_SIMPLE plain, .destroy 1]

theorem no_dangling_simpleWindow :
    NoDangling (started false) ∧ Guarded step Meets (started false) simpleWindow := by
  have hserve : serve (started false) (.create 0 WT_SIMPLE plain) =
      .ok (withSimple (started false) 0) := serve_simple (by decide +kernel) rfl
  have hstep : step (started false) (.create 0 WT_SIMPLE plain) =
      .ok ((), withSimple (started false) 0) := by
    rw [step, hserve]
    rfl
  have htarget : target (withSimple (started false) 0).table 1 = some 1 := by decide +kernel
  have hpointers : (withSimple (started false) 0).z.firstWindow = none ∧
      (withSimple (started false) 0).z.activeWindow = none ∧
      (withSimple (started false) 0).z.lastWindow = none := by decide +kernel
  obtain ⟨hfirst, hactive, hlast⟩ := hpointers
  refine no_dangling (guarded_cons trivial hstep (guarded_singleton ?_))
  intro w hw
  rw [htarget] at hw
  obtain rfl := Option.some.inj hw
  rw [if_pos (by decide +kernel)]
  refine ⟨⟨fun f hf => ?_, fun p _ _ k _ hlead => ?_⟩, ?_, ?_⟩
  · rw [hfirst] at hf
    cases hf
  · have hnone : (withSimple (started false) 0).childHead p = none := by
      change (if _ then none else none) = none
      rw [ite_self]
    rw [hnone] at hlead
    cases hlead
  · rw [hfirst]
    exact fun h => by cases h
  · rintro (hv | hv | hv | hv)
    · rw [hactive] at hv
      cases hv
    · cases hv
    · cases hv
    · rw [hlast] at hv
      cases hv

def onlyApplication : List Call :=
  [.create 0 WT_OVERLAPPED ⟨true, false, false, ⟨false, false⟩⟩, .destroy 5]

/-- The dead window is still the active one, the owner of the keyboard and the last one. -/
theorem destroyed_window_active :
    ∃ outs t, run step (started false) onlyApplication = .ok (outs, t) ∧
      t.z.activeWindow = some 1 ∧ t.keyboardOwner = some 1 ∧ t.z.lastWindow = some 1 ∧
      ¬ t.Live 1 ∧ ¬ NoDangling t ∧ ¬ Guarded step Meets (started false) onlyApplication := by
  have hfacts : (run step (started false) onlyApplication).toOption.map (fun r =>
      (r.2.z.activeWindow, r.2.keyboardOwner, r.2.z.lastWindow, decide (r.2.Live 1))) =
        some (some 1, some 1, some 1, false) := by
    decide +kernel
  cases hrun : run step (started false) onlyApplication with
  | error e =>
      rw [hrun] at hfacts
      cases hfacts
  | ok result =>
      obtain ⟨outs, t⟩ := result
      rw [hrun] at hfacts
      simp only [Except.toOption, Option.map_some, Option.some.injEq, Prod.mk.injEq,
        decide_eq_false_iff_not] at hfacts
      obtain ⟨hactive, hkeyboard, hlast, hdead⟩ := hfacts
      have hdangling : ¬ NoDangling t := fun h => hdead (h 1 (.inl (.inl hactive)))
      refine ⟨outs, t, rfl, hactive, hkeyboard, hlast, hdead, hdangling, fun hmeets => hdangling ?_⟩
      refine run_invariant NoDangling ?_ (sane_started false).noDangling hmeets hrun
      exact fun s call o u _ hcall hstep => hcall u (serve_of_step hstep)

end Gramado.Ds.Dangling
