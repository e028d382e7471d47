import Gramado.Fs.NameLookup
import Gramado.Library.CheckedRead
import Gramado.Library.Run
import Gramado.Library.Separated

/-! The working directory of a process: `fsUpdateWorkingDiretoryString`, which appends a name to
it, and `fs_pathname_backup`, which removes names from its end. -/

namespace Gramado.Fs.WorkingDirectory

open Fs.LoadFile (CString)
open Fs.NameLookup (slash)
open Library.CheckedRead Library.Run Library.Separated

def isSlash (c : UInt8) : Bool := c = slash

/-- The string of the process with `CWD.initialized`, `CWD.path` and the name of the current
target directory. -/
structure State where
  initialized : Bool
  cwdString : Buffer
  path : List UInt8
  targetName : List UInt8

/-- Move back from `path + s` while the characters are of a kind. -/
def skipBack (goes : UInt8 → Bool) (path : Buffer) : Nat → Except Fault Nat
  | 0 => do
      let c ← readByte path 0
      -- the pointer moves in front of the string and is read there
      if goes c then .error .outside else return 0
  | s + 1 => do
      let c ← readByte path (s + 1)
      if goes c then skipBack goes path s else return s + 1

def store (path : Buffer) (i : Nat) (c : UInt8) : Except Fault Buffer :=
  if i < path.length then .ok (path.set i c) else .error .outside

def removeTurn (path : Buffer) (s : Nat) : Except Fault (Buffer × Nat) := do
  let s ← skipBack isSlash path s
  let s ← skipBack (fun c => !isSlash c) path s
  let path ← store path (s + 1) 0
  return (path, s + 1)

def removeTurns : Nat → Buffer → Nat → Except Fault Buffer
  | 0, path, _ => .ok path
  | n + 1, path, s => do
      let (path, s) ← removeTurn path s
      removeTurns n path s

def fsPathnameBackup (state : State) (n : Int) : Except Fault State :=
  if state.initialized = false then .ok state
  else if n ≤ 0 then .ok state
  else do
    let length ← strlen state.cwdString
    let c ← readByte state.cwdString 0
    let s := if c ≠ 0 then length - 1 else length
    let cwdString ← removeTurns n.toNat state.cwdString s
    let path ← readBytes cwdString 0 32
    return { state with
      cwdString := cwdString
      path := path
      targetName := List.replicate 11 0 ++ state.targetName.drop 11 }

/-- `strcat`: the characters and a null character over the end of the string. -/
def strcat (dest : Buffer) (source : List UInt8) : Except Fault Buffer := do
  let n ← strlen dest
  if n + (source.length + 1) ≤ dest.length then
    return dest.take n ++ source ++ 0 :: dest.drop (n + (source.length + 1))
  else .error .outside

def characters (string : CString) : List UInt8 := (List.range string.length).map string.chars

def fsUpdateWorkingDiretoryString (state : State) (string : CString) : Except Fault State :=
  if state.initialized = false then .ok state
  else if string.chars 0 = 0 then .ok state
  else do
    let cwdString ← strcat state.cwdString (characters string)
    let cwdString ← strcat cwdString [slash]
    let path ← readBytes cwdString 0 32
    return { state with
      cwdString := cwdString
      path := path.set 31 0
      targetName := (List.range 11).map string.chars ++ 0 :: state.targetName.drop 12 }

inductive Call where
  | update (string : CString)
  | backup (n : Int)

def step (state : State) : Call → Except Fault (Unit × State)
  | .update string => do return ((), ← fsUpdateWorkingDiretoryString state string)
  | .backup n => do return ((), ← fsPathnameBackup state n)

structure IsString (buffer : Buffer) : Prop where
  size : buffer.length = 32
  terminated : 0 ∈ buffer

/-- A string of the working directory that begins at the root. -/
structure IsCwd (buffer : Buffer) : Prop extends IsString buffer where
  absolute : (text buffer).head? = some slash

def components (path : List UInt8) : List (List UInt8) := fields isSlash path

/-- The last `n` names are removed, or all if there are fewer. -/
def RemovesLast (before after : List UInt8) (n : Int) : Prop :=
  after <+: before ∧
    components after = (components before).take ((components before).length - n.toNat)

def SeparatorInFront (path : List UInt8) : Prop :=
  ∃ c ∈ path.rdropWhile isSlash, isSlash c = true

def Removable (state : State) (n : Int) : Prop :=
  n ≤ 0 ∨ state.initialized = false ∧ components (text state.cwdString) = [] ∨
    state.initialized = true ∧ SeparatorInFront (text state.cwdString) ∧
      (n = 1 ∨ (components (text state.cwdString)).length = 1)

/-- The name and its separator fit into the buffer; there is a name to remove. -/
def Fits (state : State) : Call → Prop
  | .update string =>
      state.initialized = false ∨ string.length = 0 ∨
        (text state.cwdString).length + string.length + 1 < 32
  | .backup n =>
      state.initialized = false ∨ n ≤ 0 ∨ components (text state.cwdString) ≠ []

instance (path : List UInt8) : Decidable (SeparatorInFront path) :=
  inferInstanceAs (Decidable (∃ c ∈ path.rdropWhile isSlash, isSlash c = true))

instance (state : State) (n : Int) : Decidable (Removable state n) :=
  inferInstanceAs (Decidable (_ ∨ _))

instance (state : State) : (call : Call) → Decidable (Fits state call)
  | .update _ => inferInstanceAs (Decidable (_ ∨ _))
  | .backup _ => inferInstanceAs (Decidable (_ ∨ _))

def Keeps (state : State) (call : Call) : Prop :=
  Returns (step state call) fun result => IsCwd result.2.cwdString

theorem readByte_append (before : List UInt8) (c : UInt8) (behind : List UInt8) :
    readByte (before ++ c :: behind) before.length = .ok c := by
  simp [readByte, inside, byte]

variable {path : Buffer} {s : Nat} {c : UInt8} {passed w seps front : List UInt8} {state : State}
  {n : Int}

section Back

variable {goes : UInt8 → Bool}

theorem skipBack_stop (h : readByte path s = .ok c) (hc : goes c = false) :
    skipBack goes path s = .ok s := by
  cases s with
  | zero => simp [skipBack, h, hc, ok_bind, Pure.pure, Except.pure]
  | succ s => simp [skipBack, h, hc, ok_bind, Pure.pure, Except.pure]

theorem skipBack_go (h : readByte path (s + 1) = .ok c) (hc : goes c = true) :
    skipBack goes path (s + 1) = skipBack goes path s := by
  simp [skipBack, h, hc, ok_bind]

theorem skipBack_over (before : List UInt8) (hc : goes c = false)
    (hpassed : ∀ d ∈ passed, goes d = true) (behind : List UInt8) :
    skipBack goes (before ++ c :: (passed ++ behind)) (before.length + passed.length) =
      .ok before.length := by
  induction passed using List.reverseRecOn generalizing behind with
  | nil => exact skipBack_stop (readByte_append before c behind) hc
  | append_singleton passed d ih =>
      have hread := readByte_append (before ++ c :: passed) d behind
      have hlength : (before ++ c :: passed).length = before.length + passed.length + 1 := by
        simp
        omega
      rw [hlength] at hread
      have hstep := skipBack_go hread (hpassed d (by simp))
      rw [List.length_append, List.length_singleton, ← Nat.add_assoc]
      simp only [List.append_assoc, List.cons_append, List.nil_append] at hstep ⊢
      rw [hstep, ih fun e he => hpassed e (by simp [he])]

theorem skipBack_outside (hne : passed ≠ []) (hpassed : ∀ d ∈ passed, goes d = true)
    (behind : List UInt8) :
    skipBack goes (passed ++ behind) (passed.length - 1) = .error .outside := by
  induction passed using List.reverseRecOn generalizing behind with
  | nil => exact absurd rfl hne
  | append_singleton passed d ih =>
      have hread := readByte_append passed d behind
      have hd := hpassed d (by simp)
      rw [List.length_append, List.length_singleton, Nat.add_sub_cancel, List.append_assoc,
        List.singleton_append]
      rcases Nat.eq_zero_or_pos passed.length with hzero | hpos
      · rw [hzero] at hread ⊢
        simp [skipBack, hread, hd, ok_bind]
      · obtain ⟨s, hs⟩ : ∃ s, passed.length = s + 1 := ⟨passed.length - 1, by omega⟩
        rw [hs] at hread ⊢
        rw [skipBack_go hread hd, ← ih (List.length_pos_iff.mp hpos) _ (d :: behind), hs]
        · rfl
        · exact fun e he => hpassed e (by simp [he])

end Back

theorem removeTurn_eq (front : List UInt8) {s : UInt8} (hs : isSlash s = true) (hne : w ≠ [])
    (hw : ∀ c ∈ w, isSlash c = false) (hseps : ∀ c ∈ seps, isSlash c = true) (behind : List UInt8) :
    removeTurn (front ++ s :: (w ++ (seps ++ behind)))
        (front.length + w.length + seps.length) =
      .ok (front ++ s :: 0 :: (w.tail ++ (seps ++ behind)), front.length + 1) := by
  have hpassed : skipBack isSlash (front ++ s :: (w ++ (seps ++ behind)))
      (front.length + w.length + seps.length) = .ok (front.length + w.length) := by
    rcases List.eq_nil_or_concat w with rfl | ⟨start, d, rfl⟩
    · exact absurd rfl hne
    · have hd : isSlash d = false := hw d (by simp)
      have hskip := skipBack_over (front ++ s :: start) hd hseps behind
      simp only [List.append_assoc, List.cons_append] at hskip
      simp only [List.concat_eq_append, List.append_assoc, List.cons_append, List.nil_append]
      have hlength : (front ++ s :: start).length = front.length + (start ++ [d]).length := by
        simp
      rw [hlength] at hskip
      exact hskip
  have hback : skipBack (fun c => !isSlash c) (front ++ s :: (w ++ (seps ++ behind)))
      (front.length + w.length) = .ok front.length :=
    skipBack_over front (by simp [hs]) (fun d hd => by simp [hw d hd]) (seps ++ behind)
  have hstore : store (front ++ s :: (w ++ (seps ++ behind))) (front.length + 1) 0 =
      .ok (front ++ s :: 0 :: (w.tail ++ (seps ++ behind))) := by
    obtain ⟨d, rest, rfl⟩ := List.exists_cons_of_ne_nil hne
    refine (if_pos (by simp)).trans ?_
    rw [List.set_append_right _ _ (by simp)]
    simp
  rw [removeTurn, hpassed, ok_bind, hback, ok_bind, hstore]
  rfl

theorem removeTurns_done (n : Nat) (front : List UInt8) {s : UInt8} (hs : isSlash s = true)
    (behind : List UInt8) :
    removeTurns n (front ++ s :: 0 :: behind) (front.length + 1) =
      .ok (front ++ s :: 0 :: behind) := by
  induction n with
  | zero => rfl
  | succ n ih =>
      have hzero : ∀ c ∈ [(0 : UInt8)], isSlash c = false := by
        intro c hc
        rw [List.mem_singleton.mp hc]
        rfl
      have hnil : ∀ c ∈ ([] : List UInt8), isSlash c = true := fun c hc => absurd hc List.not_mem_nil
      have hturn : removeTurn (front ++ s :: 0 :: behind) (front.length + 1) =
          .ok (front ++ s :: 0 :: behind, front.length + 1) :=
        removeTurn_eq front hs (List.cons_ne_nil 0 []) hzero hnil behind
      rw [removeTurns, hturn, ok_bind]
      exact ih

section Backup

variable {path : Buffer} {front w seps : List UInt8}

theorem removeTurns_of_front (hzero : 0 ∈ path)
    (hlast : LastField isSlash (text path) front w seps) (hfront : front ≠ []) (n : Nat) :
    removeTurns (n + 1) path ((text path).length - 1) = .ok (path.set front.length 0) := by
  obtain ⟨behind, hpath⟩ := eq_text_append hzero
  rcases List.eq_nil_or_concat front with rfl | ⟨start, s, rfl⟩
  · exact absurd rfl hfront
  · rw [List.concat_eq_append] at hlast hfront ⊢
    have hs : isSlash s = true := by simpa using hlast.separated hfront
    have hlength : (text path).length - 1 = start.length + w.length + seps.length := by
      rw [hlast.eq]
      simp
      omega
    have hcells : path = start ++ s :: (w ++ (seps ++ 0 :: behind)) := by
      rw [hpath, hlast.eq]
      simp
    obtain ⟨d, rest, hw⟩ := List.exists_cons_of_ne_nil hlast.nonempty
    have hset : path.set (start ++ [s]).length 0 =
        start ++ s :: 0 :: (w.tail ++ (seps ++ 0 :: behind)) := by
      rw [hcells, hw, List.set_append_right _ _ (by simp)]
      simp
    rw [removeTurns, hlength, hset]
    conv_lhs => rw [hcells]
    rw [removeTurn_eq start hs hlast.nonempty hlast.free hlast.all, ok_bind]
    exact removeTurns_done n start hs _

theorem removeTurn_nil (behind : List UInt8) : removeTurn (0 :: behind) 0 = .error .outside := by
  have hread : readByte (0 :: behind) 0 = .ok 0 := readByte_append [] 0 behind
  have hstay : skipBack isSlash (0 :: behind) 0 = .ok 0 := skipBack_stop hread (by decide)
  have hback : skipBack (fun c => !isSlash c) (0 :: behind) 0 = .error .outside := by
    rw [skipBack, hread, ok_bind]
    rfl
  rw [removeTurn, hstay, ok_bind, hback]
  rfl

theorem removeTurn_slashes (hne : seps ≠ []) (hall : ∀ c ∈ seps, isSlash c = true)
    (behind : List UInt8) : removeTurn (seps ++ behind) (seps.length - 1) = .error .outside := by
  rw [removeTurn, skipBack_outside hne hall behind]
  rfl

theorem removeTurn_first (hne : w ≠ []) (hw : ∀ c ∈ w, isSlash c = false)
    (hseps : ∀ c ∈ seps, isSlash c = true) (behind : List UInt8) :
    removeTurn (w ++ (seps ++ behind)) ((w ++ seps).length - 1) = .error .outside := by
  have hback : skipBack (fun c => !isSlash c) (w ++ (seps ++ behind)) (w.length - 1) =
      .error .outside :=
    skipBack_outside hne (fun c hc => by simp [hw c hc]) (seps ++ behind)
  have hpassed : skipBack isSlash (w ++ (seps ++ behind)) ((w ++ seps).length - 1) =
      .ok (w.length - 1) := by
    rcases List.eq_nil_or_concat w with rfl | ⟨start, d, rfl⟩
    · exact absurd rfl hne
    · rw [List.concat_eq_append] at hw ⊢
      have hskip := skipBack_over start (hw d (by simp)) hseps behind
      have hlength : (start ++ [d] ++ seps).length - 1 = start.length + seps.length := by
        simp
      rw [hlength, List.append_assoc, List.singleton_append, hskip, List.length_append,
        List.length_singleton, Nat.add_sub_cancel]
  rw [removeTurn, hpassed, ok_bind, hback]
  rfl

theorem removeTurns_outside (hzero : 0 ∈ path) (hnone : ¬ SeparatorInFront (text path))
    (n : Nat) : removeTurns (n + 1) path ((text path).length - 1) = .error .outside := by
  obtain ⟨behind, hpath⟩ := eq_text_append hzero
  have hturn : removeTurn path ((text path).length - 1) = .error .outside := by
    by_cases hall : ∀ c ∈ text path, isSlash c = true
    · rcases List.eq_nil_or_concat (text path) with hempty | ⟨start, d, hcons⟩
      · rw [hempty] at hpath ⊢
        rw [hpath]
        exact removeTurn_nil behind
      · have hslashes := removeTurn_slashes (by simp [hcons]) hall (0 :: behind)
        rwa [← hpath] at hslashes
    · obtain ⟨front, w, seps, hlast⟩ := exists_lastField (text path) hall
      obtain rfl : front = [] := by
        by_contra hne
        exact hnone (hlast.exists_separator_iff.mpr hne)
      have hfirst := removeTurn_first hlast.nonempty hlast.free hlast.all (0 :: behind)
      have htext : text path = w ++ seps := hlast.eq
      rwa [← List.append_assoc, ← htext, ← hpath] at hfirst
  rw [removeTurns, hturn]
  rfl

end Backup

theorem returns_fsPathnameBackup (hinit : state.initialized = true) (hn : 0 < n)
    (hzero : 0 ∈ state.cwdString) (P : Buffer → Prop) :
    Returns (fsPathnameBackup state n) (fun result => P result.cwdString) ↔
      Returns (removeTurns n.toNat state.cwdString ((text state.cwdString).length - 1))
        fun cwdString => 32 ≤ cwdString.length ∧ P cwdString := by
  obtain ⟨behind, hcwd⟩ := eq_text_append hzero
  have hstart : (if byte state.cwdString 0 ≠ 0 then (text state.cwdString).length - 1
      else (text state.cwdString).length) = (text state.cwdString).length - 1 := by
    split
    · rfl
    · rename_i hbyte
      cases htext : text state.cwdString with
      | nil => rfl
      | cons c rest =>
          have hc : c = 0 := by
            rw [hcwd, htext] at hbyte
            simpa [byte] using hbyte
          have hmem : c ∈ text state.cwdString := by simp [htext]
          exact absurd (hc ▸ hmem) (zero_notMem_text _)
  have hpos : 0 + 1 ≤ state.cwdString.length := List.length_pos_of_mem hzero
  rw [fsPathnameBackup, if_neg (by simp [hinit]), if_neg (by omega)]
  simp only [returns_bind, returns_strlen, returns_readByte, returns_readBytes, returns_pure,
    hzero, hpos, true_and, hstart, Nat.zero_add]

theorem returns_removeTurns (hzero : 0 ∈ path) (n : Nat) (P : Buffer → Prop) :
    Returns (removeTurns (n + 1) path ((text path).length - 1)) P ↔
      ∃ front w seps, LastField isSlash (text path) front w seps ∧ front ≠ [] ∧
        P (path.set front.length 0) := by
  constructor
  · intro h
    by_cases hfront : SeparatorInFront (text path)
    · obtain ⟨front, w, seps, hlast, hne⟩ := (exists_separator_iff _).mp hfront
      rw [removeTurns_of_front hzero hlast hne, returns_ok] at h
      exact ⟨front, w, seps, hlast, hne, h⟩
    · rw [removeTurns_outside hzero hfront, returns_error] at h
      exact h.elim
  · rintro ⟨front, w, seps, hlast, hne, h⟩
    rw [removeTurns_of_front hzero hlast hne, returns_ok]
    exact h

theorem text_set (hzero : 0 ∈ path) (hlast : LastField isSlash (text path) front w seps) :
    text (path.set front.length 0) = front := by
  obtain ⟨behind, hpath⟩ := eq_text_append hzero
  obtain ⟨d, rest, hw⟩ := List.exists_cons_of_ne_nil hlast.nonempty
  have hfront : 0 ∉ front := by
    intro hmem
    refine zero_notMem_text path ?_
    rw [hlast.eq]
    simp [hmem]
  have hset : path.set front.length 0 = front ++ 0 :: (rest ++ seps ++ 0 :: behind) := by
    rw [hpath, hlast.eq, hw]
    simp
  rw [hset, text_append hfront, text_zero, List.append_nil]

theorem fsPathnameBackup_of_no_turn (h : state.initialized = false ∨ n ≤ 0) :
    fsPathnameBackup state n = .ok state := by
  rw [fsPathnameBackup]
  rcases h with hinit | hn
  · exact if_pos hinit
  · rw [if_pos hn, ite_self]

theorem eq_take_iff {α : Type} (l : List α) (w : α) {n : Nat} (hn : 0 < n) :
    l = (l ++ [w]).take (l.length + 1 - n) ↔ n = 1 ∨ l.length = 0 := by
  constructor
  · intro h
    have hlength := congrArg List.length h
    rw [List.length_take, List.length_append, List.length_singleton] at hlength
    omega
  · rintro (rfl | hzero)
    · simp
    · have hl : l = [] := List.length_eq_zero_iff.mp hzero
      have hnone : 0 + 1 - n = 0 := by omega
      simp [hl, hnone]

theorem removesLast_self_iff (path : List UInt8) (hn : 0 < n) :
    RemovesLast path path n ↔ components path = [] := by
  constructor
  · rintro ⟨_, h⟩
    have hlength := congrArg List.length h
    rw [List.length_take] at hlength
    exact List.length_eq_zero_iff.mp (by omega)
  · intro h
    exact ⟨List.prefix_rfl, by simp [h]⟩

theorem removesLast_front_iff {path : List UInt8} (h : LastField isSlash path front w seps)
    (hn : 0 < n) :
    RemovesLast path front n ↔ n = 1 ∨ (components path).length = 1 := by
  have hfront : front <+: path := by
    rw [h.eq, List.append_assoc]
    exact List.prefix_append _ _
  have htake := eq_take_iff (components front) w (n := n.toNat) (by omega)
  rw [RemovesLast, components, components, h.fields_eq, List.length_append, List.length_singleton]
  rw [components] at htake
  constructor
  · rintro ⟨_, htaken⟩
    have hcases := htake.mp htaken
    omega
  · intro hcases
    exact ⟨hfront, htake.mpr (by omega)⟩

theorem backup_removes_iff (hcwd : IsString state.cwdString) (n : Int) :
    Returns (fsPathnameBackup state n) (fun result =>
        RemovesLast (text state.cwdString) (text result.cwdString) n) ↔
      Removable state n := by
  rcases le_or_gt n 0 with hn | hn
  · have hself : RemovesLast (text state.cwdString) (text state.cwdString) n := by
      refine ⟨List.prefix_rfl, ?_⟩
      simp [Int.toNat_of_nonpos hn]
    rw [fsPathnameBackup_of_no_turn (.inr hn), returns_ok]
    simp [Removable, hn, hself]
  · cases hinit : state.initialized with
    | false =>
        rw [fsPathnameBackup_of_no_turn (.inl hinit), returns_ok, removesLast_self_iff _ hn,
          Removable]
        simp [hinit, Int.not_le.mpr hn]
    | true =>
        obtain ⟨m, hm⟩ : ∃ m, n.toNat = m + 1 := ⟨n.toNat - 1, by omega⟩
        rw [returns_fsPathnameBackup hinit hn hcwd.terminated
            (fun cwdString => RemovesLast (text state.cwdString) (text cwdString) n),
          hm, returns_removeTurns hcwd.terminated, Removable, hinit]
        constructor
        · rintro ⟨front, w, seps, hlast, hne, _, hremoves⟩
          rw [text_set hcwd.terminated hlast, removesLast_front_iff hlast hn] at hremoves
          exact .inr (.inr ⟨rfl, hlast.exists_separator_iff.mpr hne, hremoves⟩)
        · rintro (hle | ⟨hfalse, _⟩ | ⟨_, hfront, hremoves⟩)
          · exact absurd hle (Int.not_le.mpr hn)
          · cases hfalse
          · obtain ⟨front, w, seps, hlast, hne⟩ := (exists_separator_iff _).mp hfront
            refine ⟨front, w, seps, hlast, hne, ?_, ?_⟩
            · rw [List.length_set, hcwd.size]
            · rw [text_set hcwd.terminated hlast]
              exact (removesLast_front_iff hlast hn).mpr hremoves

theorem chars_zero_iff (string : CString) : string.chars 0 = 0 ↔ string.length = 0 := by
  constructor
  · intro h
    by_contra hne
    exact string.nonzero 0 (by omega) h
  · intro h
    rw [← string.terminated, h]

theorem zero_notMem_characters (string : CString) : 0 ∉ characters string := by
  intro h
  obtain ⟨i, hi, hc⟩ := List.mem_map.mp h
  exact string.nonzero i (List.mem_range.mp hi) hc

@[simp] theorem length_characters (string : CString) :
    (characters string).length = string.length := by
  simp [characters]

theorem take_text (hzero : 0 ∈ path) : path.take (text path).length = text path := by
  obtain ⟨behind, hpath⟩ := eq_text_append hzero
  conv_lhs => rw [hpath]
  exact List.take_left' (by rw [← hpath])

/-- What `strcat` leaves where it stays inside the buffer. -/
def appended (dest : Buffer) (source : List UInt8) : Buffer :=
  text dest ++ source ++ 0 :: dest.drop ((text dest).length + (source.length + 1))

theorem returns_strcat (dest : Buffer) (source : List UInt8) (P : Buffer → Prop) :
    Returns (strcat dest source) P ↔
      0 ∈ dest ∧ (text dest).length + (source.length + 1) ≤ dest.length ∧
        P (appended dest source) := by
  rw [strcat, returns_bind, returns_strlen]
  refine and_congr_right fun hzero => ?_
  rw [returns_ite, take_text hzero, returns_pure, returns_error]
  constructor
  · rintro ⟨happended, hroom⟩
    have hroom := not_not.mp hroom
    exact ⟨hroom, happended hroom⟩
  · rintro ⟨hroom, happended⟩
    exact ⟨fun _ => happended, not_not.mpr hroom⟩

section Appended

variable {dest : Buffer} {source : List UInt8}

theorem text_appended (h : 0 ∉ source) : text (appended dest source) = text dest ++ source := by
  have hfree : 0 ∉ text dest ++ source := by simp [zero_notMem_text, h]
  rw [appended, text_append hfree, text_zero, List.append_nil]

theorem length_appended (h : (text dest).length + (source.length + 1) ≤ dest.length) :
    (appended dest source).length = dest.length := by
  simp only [appended, List.length_append, List.length_cons, List.length_drop]
  omega

theorem zero_mem_appended : 0 ∈ appended dest source := by
  simp [appended]

end Appended

theorem isCwd_appended {dest : Buffer} {source : List UInt8} (hdest : IsCwd dest)
    (h : 0 ∉ source) (hroom : (text dest).length + (source.length + 1) ≤ 32) :
    IsCwd (appended dest source) where
  size := by rw [length_appended (by rw [hdest.size]; exact hroom), hdest.size]
  terminated := zero_mem_appended
  absolute := by rw [text_appended h, List.head?_append, hdest.absolute, Option.some_or]

theorem update_keeps_iff (hcwd : IsCwd state.cwdString) (string : CString) :
    Keeps state (.update string) ↔ Fits state (.update string) := by
  change Returns (do return ((), ← fsUpdateWorkingDiretoryString state string)) _ ↔ _
  rw [returns_bind, fsUpdateWorkingDiretoryString, Fits]
  simp only [returns_ite, returns_ok, returns_pure, returns_bind, returns_strcat,
    returns_readBytes, List.length_singleton]
  have hslash : (0 : UInt8) ∉ [slash] := by simp [slash]
  have hstring := zero_notMem_characters string
  constructor
  · intro h
    by_contra hfits
    rw [not_or, not_or, ← chars_zero_iff] at hfits
    obtain ⟨_, hroom, _, hroom', _⟩ := h.2 hfits.1 |>.2 hfits.2.1
    rw [text_appended hstring, length_appended hroom, hcwd.size, List.length_append,
      length_characters] at hroom'
    omega
  · rintro h
    refine ⟨fun _ => hcwd, fun hinit => ⟨fun _ => hcwd, fun hne => ?_⟩⟩
    rw [← chars_zero_iff] at h
    have hroom := (h.resolve_left hinit).resolve_left hne
    have hfirst := isCwd_appended hcwd hstring (by rw [length_characters]; omega)
    have htext : (text (appended state.cwdString (characters string))).length =
        (text state.cwdString).length + string.length := by
      rw [text_appended hstring, List.length_append, length_characters]
    have hsecond := isCwd_appended hfirst hslash (by rw [htext]; simp; omega)
    refine ⟨hcwd.terminated, ?_, hfirst.terminated, ?_, ?_, hsecond⟩
    · rw [hcwd.size, length_characters]
      omega
    · rw [hfirst.size, htext]
      omega
    · rw [hsecond.size]

theorem front_of_absolute {path : List UInt8} (h : LastField isSlash path front w seps)
    (habsolute : path.head? = some slash) :
    front.head? = some slash := by
  obtain ⟨d, rest, hw⟩ := List.exists_cons_of_ne_nil h.nonempty
  cases front with
  | nil =>
      rw [h.eq, hw] at habsolute
      have hd : isSlash d = false := h.free d (by simp [hw])
      obtain rfl : d = slash := by simpa using habsolute
      exact absurd hd (by decide)
  | cons c front =>
      rw [h.eq] at habsolute
      simpa using habsolute

theorem isCwd_set {path : List UInt8} (hcwd : IsCwd path)
    (h : LastField isSlash (text path) front w seps) : IsCwd (path.set front.length 0) where
  size := by rw [List.length_set, hcwd.size]
  terminated := by
    have hlt : front.length < path.length := by
      have hle : (text path).length ≤ path.length := (List.takeWhile_prefix _).length_le
      have hpos := List.length_pos_iff.mpr h.nonempty
      rw [h.eq] at hle
      simp only [List.length_append] at hle
      omega
    exact List.mem_iff_getElem.mpr ⟨front.length, by simpa using hlt, by simp⟩
  absolute := by
    rw [text_set hcwd.terminated h]
    exact front_of_absolute h hcwd.absolute

theorem backup_keeps_iff (hcwd : IsCwd state.cwdString) (n : Int) :
    Keeps state (.backup n) ↔ Fits state (.backup n) := by
  change Returns (do return ((), ← fsPathnameBackup state n)) _ ↔ _
  rw [returns_bind, Fits]
  simp only [returns_pure]
  by_cases hturn : state.initialized = false ∨ n ≤ 0
  · rw [fsPathnameBackup_of_no_turn hturn, returns_ok, ← or_assoc]
    exact iff_of_true hcwd (.inl hturn)
  · obtain ⟨hinit, hn⟩ := not_or.mp hturn
    obtain ⟨m, hm⟩ : ∃ m, n.toNat = m + 1 := ⟨n.toNat - 1, by omega⟩
    rw [returns_fsPathnameBackup (by simpa using hinit) (by omega) hcwd.terminated, hm,
      returns_removeTurns hcwd.terminated, or_iff_right hinit, or_iff_right hn]
    constructor
    · rintro ⟨front, w, seps, hlast, _⟩
      simp [components, hlast.fields_eq]
    · intro hne
      obtain ⟨front, w, seps, hlast⟩ := exists_lastField _ (fun hall => hne (fields_of_all hall))
      refine ⟨front, w, seps, hlast, ?_, ?_, isCwd_set hcwd hlast⟩
      · intro hnil
        have hhead := front_of_absolute hlast hcwd.absolute
        simp [hnil] at hhead
      · rw [List.length_set, hcwd.size]

theorem step_keeps_iff (hcwd : IsCwd state.cwdString) (call : Call) :
    Keeps state call ↔ Fits state call := by
  cases call with
  | update string => exact update_keeps_iff hcwd string
  | backup n => exact backup_keeps_iff hcwd n

theorem runs_keep_iff (hcwd : IsCwd state.cwdString) (calls : List Call) :
    Guarded step Keeps state calls ↔ Guarded step Fits state calls := by
  apply guarded_iff (fun state => IsCwd state.cwdString)
  · intro state call hcwd
    exact step_keeps_iff hcwd call
  · rintro state call o next _ ⟨result, hresult, hkeeps⟩ hstep
    rw [hstep] at hresult
    cases hresult
    exact hkeeps
  · exact hcwd

theorem cwd_editing_iff (state : State) (n : Int) (calls : List Call)
    (hstring : IsString state.cwdString) :
    (Returns (fsPathnameBackup state n) (fun result =>
        RemovesLast (text state.cwdString) (text result.cwdString) n) ↔
      Removable state n) ∧
    (IsCwd state.cwdString →
      (Guarded step Keeps state calls ↔ Guarded step Fits state calls)) :=
  ⟨backup_removes_iff hstring n, fun hcwd => runs_keep_iff hcwd calls⟩

def inDirectory (path : List UInt8) : State :=
  ⟨true, pad 32 path, pad 32 path, List.replicate 32 0⟩

def letters (n : Nat) : CString where
  chars i := if i < n then 65 else 0
  length := n
  terminated := by simp
  nonzero := by simp +contextual

theorem isString_inDirectory (path : List UInt8) (h : path.length < 32) :
    IsString (inDirectory path).cwdString where
  size := by
    simp [inDirectory, pad]
    omega
  terminated := by
    simp [inDirectory, pad]
    omega

theorem isCwd_root : IsCwd (inDirectory [slash]).cwdString where
  toIsString := isString_inDirectory [slash] (by decide)
  absolute := rfl

/-- In the root directory there is no name to remove; of two names behind each other one is
removed; and a name of thirty letters does not fit behind the root. -/
theorem cwd_editing_fails :
    (¬ Returns (fsPathnameBackup (inDirectory [slash]) 1) fun result =>
      RemovesLast [slash] (text result.cwdString) 1) ∧
    (¬ Returns (fsPathnameBackup (inDirectory [slash, 65, slash, 66, slash]) 2) fun result =>
      RemovesLast [slash, 65, slash, 66, slash] (text result.cwdString) 2) ∧
    ¬ Keeps (inDirectory [slash]) (.update (letters 30)) := by
  have hroot := backup_removes_iff (isString_inDirectory [slash] (by decide)) 1
  have hnames := backup_removes_iff
    (isString_inDirectory [slash, 65, slash, 66, slash] (by decide)) 2
  have hletters := update_keeps_iff isCwd_root (letters 30)
  refine ⟨fun h => ?_, fun h => ?_, fun h => ?_⟩
  · exact absurd (hroot.mp h) (by decide)
  · exact absurd (hnames.mp h) (by decide)
  · exact absurd (hletters.mp h) (by decide)

theorem cwd_editing_iff_example :
    (Returns (fsPathnameBackup (inDirectory [slash, 65, slash, 66, slash]) 1) fun result =>
      RemovesLast (text (inDirectory [slash, 65, slash, 66, slash]).cwdString)
        (text result.cwdString) 1) ∧
    Guarded step Keeps (inDirectory [slash]) [.update (letters 11), .backup 1] := by
  refine ⟨?_, ?_⟩
  · exact (cwd_editing_iff _ 1 [] (isString_inDirectory _ (by decide))).1.mpr (by decide)
  · exact ((cwd_editing_iff _ 1 _ isCwd_root.toIsString).2 isCwd_root).mpr (by decide)

end Gramado.Fs.WorkingDirectory
