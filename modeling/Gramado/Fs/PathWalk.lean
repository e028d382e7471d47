import Gramado.Fs.ShortName

/-! `fs_load_path`, which loads the directories of a path one after the other and the file at
its end. -/

namespace Gramado.Fs.PathWalk

open Fs.Fat16 (VOLUME1_ROOTDIR_ADDRESS)
open Fs.NameLookup (dot slash upper)
open Fs.ShortName Library.CellArray Library.CheckedRead

def FS_N_BUFFERS : Nat := 5

/-- The arguments with which `fs_load_path` calls `fsLoadFile`, without those that are the same
in every call. -/
structure LoadCall where
  dirAddress : Nat
  fileName : List UInt8
  buffer : Nat
  bufferSize : Nat
  deriving DecidableEq, Repr

/-- What the walk is given: the destination of the file, the buffers of the directories, and
the result of `fsLoadFile` after a sequence of calls. -/
structure Walk where
  address : Nat
  bufferSize : Nat
  fsBuffers : Nat → Nat
  load : List LoadCall → Except String Int

def countLevels : Nat → Cells → Except Fault Nat
  | 0, _ => .ok 0
  | n + 1, p => do
      let c ← deref p
      if c = 0 then return 0
      else
        let k ← countLevels n (p.drop 1)
        return (if c = slash then 1 else 0) + k

def fsCountPathLevels (path : Cells) : Except Fault Nat := countLevels 2000 path

def copyExtension : Nat → Cells → Except Fault (List UInt8)
  | 0, _ => .ok []
  | n + 1, p => do
      let c ← deref p
      if c = 0 then return []
      else
        let extension ← copyExtension n (p.drop 1)
        return c :: extension

/-- How the loop over the characters of a level ends: the name of a file or of a directory is
complete, or there was neither a dot nor a slash. -/
inductive LevelEnd where
  | file (name : List UInt8)
  | directory (name : List UInt8) (p : Cells)
  | passed (p : Cells)
  deriving DecidableEq, Repr

/-- The loop over the characters of a level. The characters copied so far are those of the name
buffer in front of its index. -/
def scanLevel (isLast : Bool) : Nat → List UInt8 → Cells → Except Fault LevelEnd
  | 0, _, p => .ok (.passed p)
  | n + 1, copied, p => do
      let c ← deref p
      if c = dot then
        if isLast = false then .error (.panic "fs_load_path: '.' found into a subdirectory\n")
        else if copied.length = 0 then
          .error (.panic "fs_load_path: [fail] Filename starting with a dot.\n")
        else if 8 < copied.length then
          .error (.panic "fs_load_path: Filename bigger than 8.\n")
        else
          let extension ← copyExtension 3 (p.drop 1)
          return .file (padTo 8 copied ++ padTo 3 extension)
      else if c = slash then
        if copied.length = 0 then .error (.panic "fs_load_path: Invalid folder name\n")
        else if 11 ≤ copied.length then
          .error (.panic "fs_load_path: The folder name is too long\n")
        else return .directory (padTo 11 copied) p
      else scanLevel isLast n (copied ++ [c]) (p.drop 1)

def readLevel (isLast : Bool) (p : Cells) : Except Fault LevelEnd := do
  let c ← deref p
  if c ≠ slash then .error (.panic "fs_load_path: All levels need to start with '/'\n")
  else scanLevel isLast 12 [] (p.drop 1)

def loaded (result : Except String Int) : Except Fault Unit :=
  match result with
  | .error message => .error (.panic message)
  | .ok ret =>
      if ret = 0 then .ok () else .error (.panic "fs_load_path: [FAIL] Loading level 0\n")

/-- The loop over the levels, of which `n` are left, with the calls that have been made. -/
def walkLevels (w : Walk) :
    Nat → Nat → Nat → List LoadCall → Cells → List LoadCall × Except Fault Int
  | 0, _, _, calls, _ => (calls, .ok (-1))
  | n + 1, l, srcBuffer, calls, p =>
      match readLevel (n = 0) p with
      | .error e => (calls, .error e)
      | .ok (.file name) =>
          let calls := calls ++ [⟨srcBuffer, name, w.address, w.bufferSize % 2 ^ 32⟩]
          (calls, (loaded (w.load calls)).map fun _ => 0)
      | .ok (.directory name p) =>
          if w.fsBuffers l = 0 then (calls, .error (.panic "fs_load_path: __dst_buffer\n"))
          else
            let calls := calls ++ [⟨srcBuffer, name, w.fsBuffers l, 16384⟩]
            match loaded (w.load calls) with
            | .error e => (calls, .error e)
            | .ok _ => walkLevels w n (l + 1) (w.fsBuffers l) calls p
      | .ok (.passed p) => walkLevels w n (l + 1) srcBuffer calls p

def checkPath (w : Walk) (path : Option Cells) : Except Fault (Nat × Cells) :=
  match path with
  | none => .error (.panic "fs_load_path: path\n")
  | some path => do
      let c ← deref path
      if c = 0 then .error (.panic "fs_load_path: *path\n")
      else if w.address = 0 then .error (.panic "fs_load_path: address\n")
      else if w.bufferSize = 0 then .error (.panic "fs_load_path: buffer_size\n")
      else
        let nLevels ← fsCountPathLevels path
        if nLevels = 0 ∨ FS_N_BUFFERS ≤ nLevels then .error (.panic "fs_load_path: n_levels\n")
        else if c ≠ slash then .error (.panic "fs_load_path: Not absolute pathname\n")
        else return (nLevels, path)

/-- `fs_load_path`: the calls of `fsLoadFile` and the result. -/
def fsLoadPath (w : Walk) (path : Option Cells) : List LoadCall × Except Fault Int :=
  match checkPath w path with
  | .error e => ([], .error e)
  | .ok (nLevels, p) => walkLevels w nLevels 0 VOLUME1_ROOTDIR_ADDRESS [] p

def parts (n : Nat) (path : List UInt8) : List (List UInt8) :=
  ((path.take n).splitOn slash).tail

def components (path : List UInt8) : List (List UInt8) := parts 2000 path

/-- The name of a file: up to its first dot, and up to three characters behind it. -/
def fileName (component : List UInt8) : List UInt8 :=
  padTo 8 (component.takeWhile (· ≠ dot)) ++
    padTo 3 (((component.dropWhile (· ≠ dot)).drop 1).take 3)

def entryNames : List (List UInt8) → List (List UInt8)
  | [] => []
  | [file] => [fileName file]
  | directory :: rest => padTo 11 directory :: entryNames rest

/-- The last component has a dot or is longer than ten characters, and no other component
consists of twelve characters without a dot. -/
def Regular : List (List UInt8) → Prop
  | [] => True
  | [file] => dot ∈ file ∨ 10 < file.length
  | directory :: rest => (directory.length = 12 → dot ∈ directory) ∧ Regular rest

/-- The walk has a destination and buffers, and every load succeeds. -/
structure Walk.Succeeds (w : Walk) : Prop where
  address : w.address ≠ 0
  bufferSize : w.bufferSize ≠ 0
  fsBuffers : ∀ l, w.fsBuffers l ≠ 0
  load : ∀ calls, w.load calls = .ok 0

/-- Directories of one to ten characters without a dot, and a file of one to eight characters in
front of a dot. -/
def WellFormed : List (List UInt8) → Prop
  | [] => False
  | [file] =>
      dot ∈ file ∧ file.takeWhile (· ≠ dot) ≠ [] ∧ (file.takeWhile (· ≠ dot)).length ≤ 8
  | directory :: rest =>
      directory ≠ [] ∧ directory.length ≤ 10 ∧ dot ∉ directory ∧ WellFormed rest

variable {path extension w c stem : List UInt8} {n k m : Nat} {rest : List (List UInt8)}
  {call : LoadCall}

theorem countLevels_eq (h : 0 ∉ path) (n : Nat) (spare : Cells) :
    countLevels n (stringCells path spare) = .ok ((path.take n).count slash) := by
  induction n generalizing path with
  | zero => simp [countLevels]
  | succ n ih =>
      cases path with
      | nil => simp [countLevels, ok_bind, Pure.pure, Except.pure]
      | cons c path =>
          rw [List.mem_cons, not_or] at h
          have hc : c ≠ 0 := fun hc => h.1 hc.symm
          have hcount : (if c = slash then 1 else 0) + (path.take n).count slash =
              ((c :: path).take (n + 1)).count slash := by
            rw [List.take_succ_cons, List.count_cons, Nat.add_comm]
            simp
          rw [countLevels, stringCells_cons, deref_cons, ok_bind, if_neg hc, List.drop_succ_cons,
            List.drop_zero, ih h.2, ok_bind, hcount]
          rfl

theorem copyExtension_eq (h : 0 ∉ extension) (n : Nat) (spare : Cells) :
    copyExtension n (stringCells extension spare) = .ok (extension.take n) := by
  induction n generalizing extension with
  | zero => simp [copyExtension]
  | succ n ih =>
      cases extension with
      | nil => simp [copyExtension, ok_bind, Pure.pure, Except.pure]
      | cons c extension =>
          rw [List.mem_cons, not_or] at h
          have hc : c ≠ 0 := fun hc => h.1 hc.symm
          rw [copyExtension, stringCells_cons, deref_cons, ok_bind, if_neg hc,
            List.drop_succ_cons, List.drop_zero, ih h.2]
          rfl

section Scan

variable {isLast : Bool}

theorem scanLevel_append (h : ∀ c ∈ w, c ≠ dot ∧ c ≠ slash) (hn : w.length ≤ n)
    (copied : List UInt8) (p : Cells) :
    scanLevel isLast n copied (written w ++ p) =
      scanLevel isLast (n - w.length) (copied ++ w) p := by
  induction w generalizing n copied with
  | nil => simp
  | cons c w ih =>
      obtain ⟨n, rfl⟩ : ∃ m, n = m + 1 := ⟨n - 1, by simp at hn; omega⟩
      obtain ⟨hdot, hslash⟩ := h c (by simp)
      rw [written_cons, List.cons_append, scanLevel, deref_cons, ok_bind, if_neg hdot,
        if_neg hslash, List.drop_succ_cons, List.drop_zero,
        ih (fun d hd => h d (by simp [hd])) (by simpa using hn), List.append_assoc,
        List.singleton_append, List.length_cons, Nat.add_sub_add_right]

theorem scanLevel_passed (h : ∀ d ∈ c.take 12, d ≠ dot ∧ d ≠ slash) (hlong : 12 ≤ c.length)
    (p : Cells) :
    scanLevel isLast 12 [] (written c ++ p) = .ok (.passed (written (c.drop 12) ++ p)) := by
  have htake : (c.take 12).length = 12 := by
    simp
    omega
  conv_lhs => rw [← List.take_append_drop 12 c]
  rw [written_append, List.append_assoc, scanLevel_append h (by omega), htake, Nat.sub_self,
    scanLevel]

theorem scanLevel_directory (h : ∀ d ∈ c, d ≠ dot ∧ d ≠ slash) (hne : c ≠ [])
    (hshort : c.length ≤ 10) (p : Cells) :
    scanLevel isLast 12 [] (written c ++ some slash :: p) =
      .ok (.directory (padTo 11 c) (some slash :: p)) := by
  have hpos := List.length_pos_iff.mpr hne
  obtain ⟨n, hn⟩ : ∃ n, 12 - c.length = n + 1 := ⟨11 - c.length, by omega⟩
  rw [scanLevel_append h (by omega), hn, List.nil_append, scanLevel, deref_cons, ok_bind,
    if_neg (by decide), if_pos rfl, if_neg (by omega), if_neg (by omega)]
  rfl

theorem scanLevel_file (h : ∀ d ∈ stem, d ≠ dot ∧ d ≠ slash) (hne : stem ≠ [])
    (hshort : stem.length ≤ 8) (hzero : 0 ∉ extension) (spare : Cells) :
    scanLevel true 12 [] (stringCells (stem ++ dot :: extension) spare) =
      .ok (.file (padTo 8 stem ++ padTo 3 (extension.take 3))) := by
  have hpos := List.length_pos_iff.mpr hne
  obtain ⟨n, hn⟩ : ∃ n, 12 - stem.length = n + 1 := ⟨11 - stem.length, by omega⟩
  rw [stringCells_append, stringCells_cons, scanLevel_append h (by omega), hn, List.nil_append,
    scanLevel, deref_cons, ok_bind, if_pos rfl, if_neg (by decide), if_neg (by omega),
    if_neg (by omega), List.drop_succ_cons, List.drop_zero, copyExtension_eq hzero]
  rfl

theorem component_cases (c : List UInt8) :
    (12 ≤ c.length ∧ dot ∉ c.take 12) ∨ (c.length < 12 ∧ dot ∉ c) ∨
      ∃ stem rest, c = stem ++ dot :: rest ∧ dot ∉ stem ∧ stem.length < 12 := by
  by_cases hdot : dot ∈ c.take 12
  · obtain ⟨stem, rest, htake, hstem⟩ := List.eq_append_cons_of_mem hdot
    refine .inr (.inr ⟨stem, rest ++ c.drop 12, ?_, hstem, ?_⟩)
    · rw [← List.cons_append, ← List.append_assoc, ← htake, List.take_append_drop]
    · have hlength := congrArg List.length htake
      rw [List.length_take, List.length_append, List.length_cons] at hlength
      omega
  · rcases Nat.lt_or_ge c.length 12 with hlt | hge
    · rw [List.take_of_length_le (by omega)] at hdot
      exact .inr (.inl ⟨hlt, hdot⟩)
    · exact .inl ⟨hge, hdot⟩

theorem ne_of_notMem (hdot : dot ∉ w) (hslash : slash ∉ w) : ∀ c ∈ w, c ≠ dot ∧ c ≠ slash := by
  intro c hc
  exact ⟨fun heq => hdot (heq ▸ hc), fun heq => hslash (heq ▸ hc)⟩

theorem scanLevel_cases (hslash : slash ∉ c) (p : Cells) :
    (∃ message, scanLevel false 12 [] (written c ++ some slash :: p) = .error (.panic message)) ∨
      (scanLevel false 12 [] (written c ++ some slash :: p) =
          .ok (.directory (padTo 11 c) (some slash :: p)) ∧ c.length ≤ 10) ∨
        (c.length = 12 ∧ dot ∉ c) ∨
          ∃ d cells, d ≠ slash ∧ scanLevel false 12 [] (written c ++ some slash :: p) =
            .ok (.passed (some d :: cells)) := by
  rcases component_cases c with ⟨hlong, hdot⟩ | ⟨hshort, hdot⟩ | ⟨stem, rest, rfl, hdot, hshort⟩
  · have hfree := ne_of_notMem hdot fun h => hslash (List.mem_of_mem_take h)
    have hpassed : scanLevel false 12 [] (written c ++ some slash :: p) = .ok (.passed _) :=
      scanLevel_passed hfree hlong (some slash :: p)
    cases hdrop : c.drop 12 with
    | nil =>
        have hlength : c.length = 12 := by
          rw [List.drop_eq_nil_iff] at hdrop
          omega
        rw [List.take_of_length_le (by omega)] at hdot
        exact .inr (.inr (.inl ⟨hlength, hdot⟩))
    | cons d rest =>
        rw [hdrop] at hpassed
        have hmem : d ∈ c := List.mem_of_mem_drop (hdrop ▸ List.mem_cons_self)
        exact .inr (.inr (.inr ⟨d, _, fun heq => hslash (heq ▸ hmem), hpassed⟩))
  · have hfree := ne_of_notMem hdot hslash
    rcases Nat.lt_or_ge 10 c.length with hlong | hle
    · refine .inl ⟨"fs_load_path: The folder name is too long\n", ?_⟩
      obtain ⟨n, hn⟩ : ∃ n, 12 - c.length = n + 1 := ⟨11 - c.length, by omega⟩
      rw [scanLevel_append hfree (by omega), hn, List.nil_append, scanLevel, deref_cons, ok_bind,
        if_neg (by decide), if_pos rfl, if_neg (by omega), if_pos (by omega)]
    · rcases List.eq_nil_or_concat c with rfl | ⟨start, d, rfl⟩
      · exact .inl ⟨"fs_load_path: Invalid folder name\n", rfl⟩
      · exact .inr (.inl ⟨scanLevel_directory hfree (by simp) hle p, hle⟩)
  · refine .inl ⟨"fs_load_path: '.' found into a subdirectory\n", ?_⟩
    obtain ⟨n, hn⟩ : ∃ n, 12 - stem.length = n + 1 := ⟨11 - stem.length, by omega⟩
    have hfree := ne_of_notMem hdot fun h => hslash (by simp [h])
    rw [written_append, List.append_assoc, scanLevel_append hfree (by omega), hn, written_cons,
      List.cons_append, scanLevel, deref_cons, ok_bind, if_pos rfl, if_pos rfl]

theorem scanLevel_last_cases (hzero : 0 ∉ c) (hslash : slash ∉ c.take 12) :
    (∃ message, scanLevel true 12 [] (stringCells c []) = .error (.panic message)) ∨
      (∃ stem extension, c = stem ++ dot :: extension ∧ dot ∉ stem ∧ stem.length ≤ 8 ∧
        scanLevel true 12 [] (stringCells c []) =
          .ok (.file (padTo 8 stem ++ padTo 3 (extension.take 3)))) ∨
        (c.length ≤ 10 ∧ dot ∉ c) ∨
          ∃ cells, scanLevel true 12 [] (stringCells c []) = .ok (.passed cells) := by
  rcases component_cases c with ⟨hlong, hdot⟩ | ⟨hshort, hdot⟩ | ⟨stem, rest, rfl, hdot, hshort⟩
  · exact .inr (.inr (.inr ⟨_, scanLevel_passed (ne_of_notMem hdot hslash) hlong [some 0]⟩))
  · rw [List.take_of_length_le (by omega)] at hslash
    rcases Nat.lt_or_ge 10 c.length with hlong | hle
    · have hone : 12 - c.length = 0 + 1 := by omega
      refine .inr (.inr (.inr ⟨[], ?_⟩))
      rw [stringCells, scanLevel_append (ne_of_notMem hdot hslash) (by omega), hone]
      rfl
    · exact .inr (.inr (.inl ⟨hle, hdot⟩))
  · have hstem : slash ∉ stem := by
      intro hmem
      rw [List.take_append, List.take_of_length_le (by omega)] at hslash
      exact hslash (by simp [hmem])
    have hfree := ne_of_notMem hdot hstem
    obtain ⟨n, hn⟩ : ∃ n, 12 - stem.length = n + 1 := ⟨11 - stem.length, by omega⟩
    rcases List.eq_nil_or_concat stem with rfl | ⟨start, d, hconcat⟩
    · exact .inl ⟨"fs_load_path: [fail] Filename starting with a dot.\n", rfl⟩
    · have hne : stem ≠ [] := by simp [hconcat]
      have hpos := List.length_pos_iff.mpr hne
      rcases Nat.lt_or_ge 8 stem.length with hlong | hle
      · refine .inl ⟨"fs_load_path: Filename bigger than 8.\n", ?_⟩
        rw [stringCells_append, stringCells_cons, scanLevel_append hfree (by omega), hn,
          List.nil_append, scanLevel, deref_cons, ok_bind, if_pos rfl, if_neg (by decide),
          if_neg (by omega), if_pos hlong]
      · have hrest : 0 ∉ rest := fun h => hzero (by simp [h])
        exact .inr (.inl ⟨stem, rest, rfl, hdot, hle, scanLevel_file hfree hne hle hrest []⟩)

end Scan

section Parts

variable {n : Nat}

theorem parts_succ (n : Nat) (path : List UInt8) :
    parts (n + 1) (slash :: path) = (path.take n).splitOn slash := by
  rw [parts, List.take_succ_cons, ← List.nil_append (slash :: path.take n),
    List.splitOn_append_cons_self_of_not_mem List.not_mem_nil, List.tail_cons]

theorem parts_last (h : slash ∉ path.take n) : parts (n + 1) (slash :: path) = [path.take n] := by
  rw [parts_succ, List.splitOn_eq_singleton h]

theorem parts_ne_nil (n : Nat) (path : List UInt8) : parts (n + 1) (slash :: path) ≠ [] := by
  rw [parts_succ]
  exact List.splitOn_ne_nil slash _

theorem parts_cons (hslash : slash ∉ c) (hn : c.length < n) (path : List UInt8) :
    parts (n + 1) (slash :: (c ++ slash :: path)) = c :: parts (n - c.length) (slash :: path) := by
  obtain ⟨k, hk⟩ : ∃ k, n - c.length = k + 1 := ⟨n - c.length - 1, by omega⟩
  have htake : (c ++ slash :: path).take n = c ++ slash :: path.take k := by
    rw [List.take_append, List.take_of_length_le (by omega), hk, List.take_succ_cons]
  rw [parts_succ, htake, List.splitOn_append_cons_self_of_not_mem hslash, hk, parts_succ]

/-- Among `n` characters behind a slash, a component and the slash behind it, from where on there
are `k` slashes more. -/
structure NextLevel (n k : Nat) (c path : List UInt8) : Prop where
  free : slash ∉ c
  short : c.length < n
  count_eq : ((slash :: path).take (n - c.length)).count slash = k

theorem NextLevel.parts_eq (h : NextLevel n k c path) :
    parts (n + 1) (slash :: (c ++ slash :: path)) = c :: parts (n - c.length) (slash :: path) :=
  parts_cons h.free h.short path

theorem NextLevel.parts_ne_nil (h : NextLevel n k c path) :
    parts (n - c.length) (slash :: path) ≠ [] := by
  have hshort := h.short
  obtain ⟨i, hi⟩ : ∃ i, n - c.length = i + 1 := ⟨n - c.length - 1, by omega⟩
  rw [hi]
  exact PathWalk.parts_ne_nil i path

theorem exists_nextLevel (hcount : (path.take n).count slash = k + 1) :
    ∃ c next, path = c ++ slash :: next ∧ NextLevel n (k + 1) c next := by
  have hmem : slash ∈ path.take n := List.count_pos_iff.mp (by omega)
  obtain ⟨c, behind, htake, hslash⟩ := List.eq_append_cons_of_mem hmem
  have hshort : c.length < n := by
    have hlength := congrArg List.length htake
    rw [List.length_take, List.length_append, List.length_cons] at hlength
    omega
  have hpath : path = c ++ slash :: (behind ++ path.drop n) := by
    rw [← List.cons_append, ← List.append_assoc, ← htake, List.take_append_drop]
  refine ⟨c, behind ++ path.drop n, hpath, hslash, hshort, ?_⟩
  rw [hpath, List.take_append, List.take_of_length_le (by omega), List.count_append,
    List.count_eq_zero.mpr hslash, Nat.zero_add] at hcount
  exact hcount

end Parts

theorem fileName_append (h : dot ∉ stem) (extension : List UInt8) :
    fileName (stem ++ dot :: extension) = padTo 8 stem ++ padTo 3 (extension.take 3) := by
  have hstop : ∀ c ∈ stem, decide (c ≠ dot) = true := fun c hc => by
    simp only [decide_eq_true_eq]
    exact fun heq => h (heq ▸ hc)
  rw [fileName, List.takeWhile_append_of_pos hstop, List.dropWhile_append_of_pos hstop]
  simp

theorem fileName_take (h : dot ∉ stem) (hshort : stem.length ≤ 8) (extension : List UInt8)
    (hn : 12 ≤ n) :
    fileName ((stem ++ dot :: extension).take n) = padTo 8 stem ++ padTo 3 (extension.take 3) := by
  obtain ⟨k, hk⟩ : ∃ k, n - stem.length = k + 1 := ⟨n - stem.length - 1, by omega⟩
  rw [List.take_append, List.take_of_length_le (by omega), hk, List.take_succ_cons,
    fileName_append h, List.take_take, Nat.min_eq_left (by omega)]

theorem entryNames_cons (c : List UInt8) (h : rest ≠ []) :
    entryNames (c :: rest) = padTo 11 c :: entryNames rest := by
  cases rest with
  | nil => exact absurd rfl h
  | cons d rest => rfl

theorem regular_cons (h : rest ≠ []) :
    Regular (c :: rest) ↔ (c.length = 12 → dot ∈ c) ∧ Regular rest := by
  cases rest with
  | nil => exact absurd rfl h
  | cons d rest => rfl

theorem wellFormed_cons (h : rest ≠ []) :
    WellFormed (c :: rest) ↔ c ≠ [] ∧ c.length ≤ 10 ∧ dot ∉ c ∧ WellFormed rest := by
  cases rest with
  | nil => exact absurd rfl h
  | cons d rest => rfl

/-- The walk does not leave the string, and the names that it loads are those of the components,
all of them where it succeeds. -/
def Follows (cs : List (List UInt8)) (calls : List LoadCall)
    (outcome : List LoadCall × Except Fault Int) : Prop :=
  outcome.2 ≠ .error .outside ∧
    ∃ more, outcome.1 = calls ++ more ∧ more.map LoadCall.fileName <+: entryNames cs ∧
      (outcome.2 = .ok 0 → more.map LoadCall.fileName = entryNames cs)

section Follows

variable {cs : List (List UInt8)} {calls : List LoadCall}

theorem follows_stop {result : Except Fault Int} (houtside : result ≠ .error .outside)
    (hzero : result ≠ .ok 0) : Follows cs calls (calls, result) :=
  ⟨houtside, [], by simp, by simp, fun h => absurd h hzero⟩

theorem follows_panic (message : String) : Follows cs calls (calls, .error (.panic message)) :=
  follows_stop (by simp) (by simp)

theorem Follows.cons (hrest : rest ≠ []) (hname : call.fileName = padTo 11 c)
    {outcome : List LoadCall × Except Fault Int} (h : Follows rest (calls ++ [call]) outcome) :
    Follows (c :: rest) calls outcome := by
  obtain ⟨houtside, more, hcalls, hprefix, hall⟩ := h
  refine ⟨houtside, call :: more, by rw [hcalls]; simp, ?_, ?_⟩
  · rw [entryNames_cons c hrest, List.map_cons, hname]
    exact List.cons_prefix_cons.mpr ⟨rfl, hprefix⟩
  · intro hzero
    rw [entryNames_cons c hrest, List.map_cons, hname, hall hzero]

theorem loaded_ne_outside (result : Except String Int) : loaded result ≠ .error .outside := by
  cases result with
  | error message => simp [loaded]
  | ok ret =>
      rw [loaded]
      split <;> simp

theorem follows_failed (hrest : rest ≠ []) {srcBuffer buffer size : Nat}
    {result : Except String Int} {e : Fault} (hloaded : loaded result = .error e) :
    Follows (c :: rest) calls
      (calls ++ [⟨srcBuffer, padTo 11 c, buffer, size⟩], .error e) := by
  refine Follows.cons hrest rfl (follows_stop ?_ ?_)
  · intro h
    cases h
    exact loaded_ne_outside result hloaded
  · simp

theorem follows_file (hname : call.fileName = fileName c) (result : Except String Int) :
    Follows [c] calls (calls ++ [call], (loaded result).map fun _ => 0) := by
  refine ⟨?_, [call], rfl, by simp [entryNames, hname], fun _ => by simp [entryNames, hname]⟩
  intro h
  cases hloaded : loaded result with
  | error e =>
      rw [hloaded] at h
      cases h
      exact loaded_ne_outside result hloaded
  | ok u =>
      rw [hloaded] at h
      cases h

end Follows

theorem exists_of_head? (h : path.head? = some slash) : ∃ rest, path = slash :: rest := by
  cases path with
  | nil => cases h
  | cons c rest => exact ⟨rest, by rw [Option.some_inj.mp h]⟩

theorem readLevel_slash (isLast : Bool) (p : Cells) :
    readLevel isLast (some slash :: p) = scanLevel isLast 12 [] p :=
  rfl

section Walk

variable {w : Walk}

theorem walkLevels_of_ne_slash {d : UInt8} (hd : d ≠ slash) (n l srcBuffer : Nat)
    (calls : List LoadCall) (p : Cells) :
    walkLevels w (n + 1) l srcBuffer calls (some d :: p) =
      (calls, .error (.panic "fs_load_path: All levels need to start with '/'\n")) := by
  have hread : ∀ isLast, readLevel isLast (some d :: p) =
      .error (.panic "fs_load_path: All levels need to start with '/'\n") := by
    intro isLast
    rw [readLevel, deref_cons, ok_bind, if_pos hd]
  rw [walkLevels, hread]

theorem walkLevels_last (l srcBuffer : Nat) (calls : List LoadCall) (hzero : 0 ∉ path)
    (hslash : slash ∉ path.take n) (hn : 12 ≤ n) (hregular : Regular [path.take n]) :
    Follows [path.take n] calls
      (walkLevels w 1 l srcBuffer calls (stringCells (slash :: path) [])) := by
  have hfirst : slash ∉ path.take 12 := by
    intro hmem
    rw [← Nat.min_eq_left hn, ← List.take_take] at hmem
    exact hslash (List.mem_of_mem_take hmem)
  have hread : readLevel (decide (0 = 0)) (stringCells (slash :: path) []) =
      scanLevel true 12 [] (stringCells path []) :=
    readLevel_slash true (stringCells path [])
  rw [walkLevels, hread]
  rcases scanLevel_last_cases hzero hfirst with
    ⟨message, hscan⟩ | ⟨stem, extension, hpath, hdot, hshort, hscan⟩ | ⟨hshort, hdot⟩ |
      ⟨cells, hscan⟩
  · rw [hscan]
    exact follows_panic message
  · rw [hscan]
    apply follows_file
    rw [hpath, fileName_take hdot hshort extension hn]
  · have hle : (path.take n).length ≤ path.length := List.length_take_le' n path
    rcases hregular with hmem | hlong
    · exact absurd (List.mem_of_mem_take hmem) hdot
    · omega
  · rw [hscan]
    exact follows_stop (by simp) (by simp)

theorem walkLevels_follows (l srcBuffer : Nat) (calls : List LoadCall) (hzero : 0 ∉ path)
    (habsolute : path.head? = some slash) (hcount : (path.take m).count slash = n) (hm : 13 * n ≤ m)
    (hregular : Regular (parts m path)) :
    Follows (parts m path) calls (walkLevels w n l srcBuffer calls (stringCells path [])) := by
  induction n generalizing m l srcBuffer calls path with
  | zero => exact follows_stop (by simp) (by simp)
  | succ n ih =>
      obtain ⟨rest, rfl⟩ := exists_of_head? habsolute
      obtain ⟨k, rfl⟩ : ∃ k, m = k + 1 := ⟨m - 1, by omega⟩
      rw [List.take_succ_cons, List.count_cons_self, Nat.succ_inj] at hcount
      have hrest : 0 ∉ rest := fun h => hzero (List.mem_cons_of_mem slash h)
      cases n with
      | zero =>
          have hslash := List.count_eq_zero.mp hcount
          rw [parts_last hslash] at hregular ⊢
          exact walkLevels_last l srcBuffer calls hrest hslash (by omega) hregular
      | succ n =>
          obtain ⟨c, next, rfl, hlevel⟩ := exists_nextLevel hcount
          have hparts := hlevel.parts_ne_nil
          have hnext : 0 ∉ slash :: next := fun h => hrest (List.mem_append_right c h)
          rw [hlevel.parts_eq] at hregular ⊢
          rw [regular_cons hparts] at hregular
          have hread : readLevel (decide (n + 1 = 0))
              (stringCells (slash :: (c ++ slash :: next)) []) =
                scanLevel false 12 [] (written c ++ some slash :: stringCells next []) := by
            rw [stringCells_cons, stringCells_append, stringCells_cons]
            exact readLevel_slash false _
          rw [walkLevels, hread]
          rcases scanLevel_cases hlevel.free (stringCells next []) with
            ⟨message, hscan⟩ | ⟨hscan, hshort⟩ | ⟨hlength, hdot⟩ | ⟨d, cells, hd, hscan⟩
          · rw [hscan]
            exact follows_panic message
          · rw [hscan]
            dsimp only
            split
            · exact follows_panic _
            · split
              · rename_i e hloaded
                exact follows_failed hparts hloaded
              · have hwalk := ih (l + 1) (w.fsBuffers l)
                  (calls ++ [⟨srcBuffer, padTo 11 c, w.fsBuffers l, 16384⟩]) hnext rfl
                  hlevel.count_eq (by omega) hregular.2
                exact hwalk.cons hparts rfl
          · exact absurd (hregular.1 hlength) hdot
          · rw [hscan]
            dsimp only
            rw [walkLevels_of_ne_slash hd]
            exact follows_panic _

theorem walkLevels_loads (hw : w.Succeeds) (l srcBuffer : Nat) (calls : List LoadCall)
    (hzero : 0 ∉ path) (habsolute : path.head? = some slash)
    (hcount : (path.take m).count slash = n) (hn : 0 < n) (hformed : WellFormed (parts m path)) :
    (walkLevels w n l srcBuffer calls (stringCells path [])).2 = .ok 0 := by
  induction n generalizing m l srcBuffer calls path with
  | zero => exact absurd hn (Nat.lt_irrefl 0)
  | succ n ih =>
      obtain ⟨rest, rfl⟩ := exists_of_head? habsolute
      obtain ⟨k, rfl⟩ : ∃ k, m = k + 1 := ⟨m - 1, by
        cases m with
        | zero => cases hcount
        | succ m => rfl⟩
      rw [List.take_succ_cons, List.count_cons_self, Nat.succ_inj] at hcount
      have hrest : 0 ∉ rest := fun h => hzero (List.mem_cons_of_mem slash h)
      cases n with
      | zero =>
          have hslash := List.count_eq_zero.mp hcount
          rw [parts_last hslash] at hformed
          obtain ⟨hmem, hne, hshort⟩ := hformed
          obtain ⟨stem, behind, htake, hdot⟩ := List.eq_append_cons_of_mem hmem
          have hstop : ∀ c ∈ stem, decide (c ≠ dot) = true := fun c hc => by
            simp only [decide_eq_true_eq]
            exact fun heq => hdot (heq ▸ hc)
          rw [htake, List.takeWhile_append_of_pos hstop] at hne hshort
          rw [htake] at hslash
          have hfile : rest = stem ++ dot :: (behind ++ rest.drop k) := by
            rw [← List.cons_append, ← List.append_assoc, ← htake, List.take_append_drop]
          have hbehind : 0 ∉ behind ++ rest.drop k := by
            intro h
            apply hrest
            rw [hfile]
            exact List.mem_append_right stem (List.mem_cons_of_mem dot h)
          have hscan := scanLevel_file (ne_of_notMem hdot fun h => hslash (by simp [h]))
            (by simpa using hne) (by simpa using hshort) hbehind []
          rw [← hfile] at hscan
          have hread : readLevel (decide (0 = 0)) (stringCells (slash :: rest) []) = _ := hscan
          rw [walkLevels, hread]
          dsimp only
          rw [hw.load]
          rfl
      | succ n =>
          obtain ⟨c, next, rfl, hlevel⟩ := exists_nextLevel hcount
          have hnext : 0 ∉ slash :: next := fun h => hrest (List.mem_append_right c h)
          rw [hlevel.parts_eq, wellFormed_cons hlevel.parts_ne_nil] at hformed
          obtain ⟨hne, hshort, hdot, hrestFormed⟩ := hformed
          have hscan : scanLevel false 12 [] (written c ++ some slash :: stringCells next []) = _ :=
            scanLevel_directory (ne_of_notMem hdot hlevel.free) hne hshort (stringCells next [])
          have hread : readLevel (decide (n + 1 = 0))
              (stringCells (slash :: (c ++ slash :: next)) []) =
                .ok (.directory (padTo 11 c) (stringCells (slash :: next) [])) := by
            rw [stringCells_cons, stringCells_append, stringCells_cons]
            exact hscan
          rw [walkLevels, hread]
          dsimp only
          rw [if_neg (hw.fsBuffers l), hw.load]
          exact ih (l + 1) (w.fsBuffers l) _ hnext rfl hlevel.count_eq (by omega) hrestFormed

end Walk

theorem checkPath_cases (w : Walk) (hzero : 0 ∉ path) :
    (∃ message, checkPath w (some (stringCells path [])) = .error (.panic message)) ∨
      (checkPath w (some (stringCells path [])) =
          .ok ((path.take 2000).count slash, stringCells path []) ∧
        path.head? = some slash ∧ (path.take 2000).count slash < FS_N_BUFFERS) := by
  rw [checkPath]
  cases path with
  | nil => exact .inl ⟨_, rfl⟩
  | cons c rest =>
      have hc : c ≠ 0 := fun hc => hzero (by simp [hc])
      rw [stringCells_cons, deref_cons, ok_bind, if_neg hc]
      split
      · exact .inl ⟨_, rfl⟩
      · split
        · exact .inl ⟨_, rfl⟩
        · rw [← stringCells_cons, fsCountPathLevels, countLevels_eq hzero, ok_bind]
          split
          · exact .inl ⟨_, rfl⟩
          · rename_i hlevels
            split
            · exact .inl ⟨_, rfl⟩
            · rename_i hslash
              rw [not_or, Nat.not_le] at hlevels
              exact .inr ⟨rfl, by rw [not_not.mp hslash]; rfl, hlevels.2⟩

theorem fsLoadPath_follows (w : Walk) (hzero : 0 ∉ path) (hregular : Regular (components path)) :
    Follows (components path) [] (fsLoadPath w (some (stringCells path []))) := by
  rw [fsLoadPath]
  rcases checkPath_cases w hzero with ⟨message, hcheck⟩ | ⟨hcheck, habsolute, hlevels⟩
  · rw [hcheck]
    exact follows_panic message
  · rw [hcheck]
    have hroom : 13 * (path.take 2000).count slash ≤ 2000 := by
      rw [FS_N_BUFFERS] at hlevels
      omega
    exact walkLevels_follows 0 VOLUME1_ROOTDIR_ADDRESS [] hzero habsolute rfl hroom hregular

theorem length_splitOn (path : List UInt8) :
    (path.splitOn slash).length = path.count slash + 1 := by
  induction path with
  | nil => rfl
  | cons c path ih =>
      rw [List.splitOn_cons_eq_if_modifyHead, List.count_cons]
      split
      · simp [ih]
      · simp [ih]

theorem fsCountPathLevels_eq (hzero : 0 ∉ path) (spare : Cells) :
    fsCountPathLevels (stringCells path spare) = .ok (components path).length := by
  rw [fsCountPathLevels, countLevels_eq hzero, components, parts, List.length_tail,
    length_splitOn, Nat.add_sub_cancel]

theorem fsLoadPath_loads {w : Walk} (hw : w.Succeeds) (hzero : 0 ∉ path)
    (habsolute : path.head? = some slash) (hlevels : (components path).length < FS_N_BUFFERS)
    (hformed : WellFormed (components path)) :
    (fsLoadPath w (some (stringCells path []))).2 = .ok 0 := by
  have hcount : (components path).length = (path.take 2000).count slash := by
    rw [components, parts, List.length_tail, length_splitOn, Nat.add_sub_cancel]
  have hpos : 0 < (path.take 2000).count slash := by
    rw [← hcount]
    apply List.length_pos_iff.mpr
    intro hnil
    rw [hnil] at hformed
    exact hformed
  have hcheck : checkPath w (some (stringCells path [])) =
      .ok ((path.take 2000).count slash, stringCells path []) := by
    obtain ⟨rest, rfl⟩ := exists_of_head? habsolute
    rw [hcount] at hlevels
    rw [checkPath, stringCells_cons, deref_cons, ok_bind, if_neg (by decide),
      if_neg hw.address, if_neg hw.bufferSize, ← stringCells_cons, fsCountPathLevels, countLevels_eq hzero, ok_bind,
      if_neg (by omega), if_neg (by simp)]
    rfl
  rw [fsLoadPath, hcheck]
  exact walkLevels_loads hw 0 _ [] hzero habsolute rfl hpos hformed

theorem upper_ne_dot {c : UInt8} (h : c ≠ dot) : upper c ≠ dot := by
  rw [upper]
  split
  · rename_i hlower
    intro heq
    have hc : c = 78 := by
      rw [← UInt8.sub_add_cancel c 32, heq]
      rfl
    rw [hc] at hlower
    exact absurd hlower (by decide)
  · exact h

theorem fileName_upper (hstem : ValidStem stem) (hext : SavedExtension extension) :
    fileName ((stem ++ dot :: extension).map upper) = entryName stem extension := by
  have hdot : dot ∉ stem.map upper := by
    intro hmem
    obtain ⟨c, hc, heq⟩ := List.mem_map.mp hmem
    exact upper_ne_dot (hstem.chars c hc).2 heq
  have hshort : (extension.map upper).length ≤ 3 := by simpa using hext.short
  have hupper : upper dot = dot := by decide
  rw [List.map_append, List.map_cons, hupper, fileName_append hdot,
    List.take_of_length_le hshort, entryName]

/-- The walk along a path stays inside the string and loads the components that
`fs_count_path_levels` counts, in their order. -/
theorem path_walk :
    (∀ (w : Walk) (path : List UInt8), 0 ∉ path → Regular (components path) →
      Follows (components path) [] (fsLoadPath w (some (stringCells path []))) ∧
        fsCountPathLevels (stringCells path []) = .ok (components path).length) ∧
    (∀ (w : Walk) (path : List UInt8), w.Succeeds → 0 ∉ path → path.head? = some slash →
      (components path).length < FS_N_BUFFERS → WellFormed (components path) →
        (fsLoadPath w (some (stringCells path []))).2 = .ok 0) ∧
    ∀ (stem extension : List UInt8) (spare : Cells), ValidStem stem → SavedExtension extension →
      12 ≤ (stringCells (stem ++ dot :: extension) spare).length →
        fsFntos (stringCells (stem ++ dot :: extension) spare) =
          .ok (converted (stringCells (stem ++ dot :: extension) spare)
            (fileName ((stem ++ dot :: extension).map upper))) := by
  refine ⟨?_, ?_, ?_⟩
  · intro w path hzero hregular
    exact ⟨fsLoadPath_follows w hzero hregular, fsCountPathLevels_eq hzero []⟩
  · intro w path hw hzero habsolute hlevels hformed
    exact fsLoadPath_loads hw hzero habsolute hlevels hformed
  · intro stem extension spare hstem hext hroom
    rw [fileName_upper hstem hext]
    exact fntos_extension _ spare hstem hext hroom

def succeedingWalk : Walk where
  address := 0x400000
  bufferSize := 512
  fsBuffers l := 0x800000 + 0x4000 * l
  load _ := .ok 0

theorem succeeds_succeedingWalk : succeedingWalk.Succeeds where
  address := by decide
  bufferSize := by decide
  fsBuffers l := by simp [succeedingWalk]
  load _ := rfl

/-- The path `/A/F.1`, of which the directory gets no extension, where `fs_fntos` gives it the
extension `BIN`; and the path `/A`, which is read behind its end. -/
theorem path_walk_differs :
    (fsLoadPath succeedingWalk (some (stringCells [47, 65, 47, 70, 46, 49] []))).1.map
        LoadCall.fileName = [padTo 11 [65], fileName [70, 46, 49]] ∧
      fsFntos (stringCells [65] (List.replicate 10 none)) ≠
        .ok (converted (stringCells [65] (List.replicate 10 none)) (padTo 11 [65])) ∧
      (fsLoadPath succeedingWalk (some (stringCells [47, 65] []))).2 = .error .outside := by
  decide +kernel

/-- The path `/A/F.1`. -/
theorem path_walk_example :
    Follows (components [47, 65, 47, 70, 46, 49]) []
        (fsLoadPath succeedingWalk (some (stringCells [47, 65, 47, 70, 46, 49] []))) ∧
      (fsLoadPath succeedingWalk (some (stringCells [47, 65, 47, 70, 46, 49] []))).2 = .ok 0 ∧
      fsFntos (stringCells ([97] ++ dot :: [98]) (List.replicate 8 none)) =
        .ok (converted (stringCells ([97] ++ dot :: [98]) (List.replicate 8 none))
          (fileName (([97] ++ dot :: [98]).map upper))) := by
  have hcomponents : components [47, 65, 47, 70, 46, 49] = [[65], [70, 46, 49]] := by
    decide +kernel
  have hregular : Regular (components [47, 65, 47, 70, 46, 49]) := by
    rw [hcomponents]
    exact ⟨by decide, .inl (by decide)⟩
  have hformed : WellFormed (components [47, 65, 47, 70, 46, 49]) := by
    rw [hcomponents]
    exact ⟨by decide, by decide, by decide, by decide, by decide, by decide⟩
  refine ⟨?_, ?_, ?_⟩
  · exact (path_walk.1 _ _ (by decide) hregular).1
  · exact path_walk.2.1 _ _ succeeds_succeedingWalk (by decide) rfl
      (by rw [hcomponents]; decide) hformed
  · exact path_walk.2.2 _ _ _ validStem_a savedExtension_b (by decide)

end Gramado.Fs.PathWalk
