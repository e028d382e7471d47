import Gramado.Fs.LoadFile
import Gramado.Fs.SaveFile
import Gramado.Library.Run

/-! The integrity of the FAT over runs of `fsSaveFile`. -/

namespace Gramado.Fs.FatIntegrity

open Fs.Fat16 Fs.LoadFile Fs.SaveFile Library.LinkedList Library.Run

def FAT_CELLS : Nat := VOLUME1_FAT_SIZE * (SECTOR_SIZE / 2)

def InUse (dir : Nat → UInt8) (i : Nat) : Prop :=
  dir (FAT16_ENTRY_SIZE * i) ≠ 0 ∧ dir (FAT16_ENTRY_SIZE * i) ≠ 0xE5 ∧ entryCluster dir i ≠ 0

/-- The entries in use of the directories `D`, by the address of their directory. -/
def Live (D : Set Nat) (dirs : Nat → Nat → UInt8) (e : Nat × Nat) : Prop :=
  e.1 ∈ D ∧ e.2 < FAT16_ROOT_ENTRIES ∧ InUse (dirs e.1) e.2

/-- The chain of every entry in use ends with a mark and has no cluster twice, and no two
chains share a cluster. -/
structure Chains (D : Set Nat) (fat : Nat → UInt16) (dirs : Nat → Nat → UInt8)
    (chain : Nat × Nat → List UInt16) : Prop where
  follows : ∀ e, Live D dirs e →
    Follows (nextCell fat) (some (entryCluster (dirs e.1) e.2)) (chain e)
  acyclic : ∀ e, Live D dirs e → (chain e).Nodup
  allocated : ∀ e, Live D dirs e → ∀ c ∈ chain e,
    2 ≤ c.toNat ∧ c.toNat < FAT_CELLS ∧ fat c.toNat ≠ 0
  disjoint : ∀ e e', Live D dirs e → Live D dirs e' → e ≠ e' → (chain e).Disjoint (chain e')

def Integrity (D : Set Nat) (fat : Nat → UInt16) (dirs : Nat → Nat → UInt8) : Prop :=
  ∃ chain, Chains D fat dirs chain

/-- The volume as the next call finds it once it has loaded the root directory and the FAT. -/
def WellFormed (D : Set Nat) (v : Volume) : Prop :=
  Integrity D v.mounted.fat v.mounted.dirs

theorem littleEndian_bytes (c : UInt16) :
    littleEndian (UInt8.ofNat c.toNat) (UInt8.ofNat (c.toNat / 256)) = c := by
  have hlt := c.toNat_lt
  rw [← UInt16.toNat_inj, littleEndian, UInt16.toNat_ofNat', UInt8.toNat_ofNat', UInt8.toNat_ofNat']
  omega

variable {dir entry name : Nat → UInt8} {i k j size dirAddress index c : Nat} {flag : UInt8}
  {D : Set Nat} {dirs : Nat → Nat → UInt8} {fat : Nat → UInt16} {cells : List UInt16} {v w : Volume}
  {a : SaveArgs} {rc : Int}

theorem storeEntry_self (hk : k < FAT16_ENTRY_SIZE) :
    storeEntry dir i entry (FAT16_ENTRY_SIZE * i + k) = entry k := by
  rw [storeEntry, if_pos (by omega), Nat.add_sub_cancel_left]

theorem storeEntry_of_ne (hk : k < FAT16_ENTRY_SIZE) (hij : j ≠ i) :
    storeEntry dir i entry (FAT16_ENTRY_SIZE * j + k) = dir (FAT16_ENTRY_SIZE * j + k) := by
  rw [storeEntry, if_neg]
  intro hin
  unfold FAT16_ENTRY_SIZE at hin hk
  omega

theorem entryCluster_storeEntry_of_ne (hij : j ≠ i) :
    entryCluster (storeEntry dir i entry) j = entryCluster dir j := by
  rw [entryCluster, storeEntry_of_ne (by decide) hij, storeEntry_of_ne (by decide) hij]
  rfl

theorem inUse_storeEntry_of_ne (hij : j ≠ i) : InUse (storeEntry dir i entry) j ↔ InUse dir j := by
  have hbyte : storeEntry dir i entry (FAT16_ENTRY_SIZE * j + 0) = dir (FAT16_ENTRY_SIZE * j + 0) :=
    storeEntry_of_ne (by decide) hij
  rw [Nat.add_zero] at hbyte
  rw [InUse, InUse, hbyte, entryCluster_storeEntry_of_ne hij]

theorem entryCluster_dirEntry {cluster : UInt16} :
    entryCluster (storeEntry dir i (dirEntry name flag cluster size)) i = cluster := by
  rw [entryCluster, storeEntry_self (by decide), storeEntry_self (by decide)]
  exact littleEndian_bytes cluster

def enteredDirs (dirs : Nat → Nat → UInt8) (dirAddress index : Nat) (entry : Nat → UInt8) :
    Nat → Nat → UInt8 :=
  Function.update dirs dirAddress (storeEntry (dirs dirAddress) index entry)

theorem live_of_ne {e : Nat × Nat} (hne : e ≠ (dirAddress, index))
    (h : Live D (enteredDirs dirs dirAddress index entry) e) :
    Live D dirs e ∧ entryCluster (enteredDirs dirs dirAddress index entry e.1) e.2 =
      entryCluster (dirs e.1) e.2 := by
  obtain ⟨d, j⟩ := e
  obtain ⟨hD, hj, huse⟩ := h
  dsimp only at hD hj huse ⊢
  by_cases hd : d = dirAddress
  · subst hd
    have hij : j ≠ index := by
      rintro rfl
      exact hne rfl
    rw [enteredDirs, Function.update_self] at huse ⊢
    exact ⟨⟨hD, hj, (inUse_storeEntry_of_ne hij).mp huse⟩, entryCluster_storeEntry_of_ne hij⟩
  · rw [enteredDirs, Function.update_of_ne hd] at huse ⊢
    exact ⟨⟨hD, hj, huse⟩, rfl⟩

theorem linkCells_allocated {low high : Nat} (hfree : FreeCells fat low high cells)
    (hc : fat c ≠ 0) :
    linkCells cells fat c = fat c := by
  apply linkCells_not_mem
  rintro x hx rfl
  exact hc (hfree.free x hx).2.2

theorem linkCells_ne_zero {c : UInt16} (hcells : ∀ x ∈ cells, x ≠ 0) (hc : c ∈ cells) :
    linkCells cells fat c.toNat ≠ 0 := by
  induction cells generalizing fat with
  | nil => cases hc
  | cons x rest ih =>
      have hrest : ∀ y ∈ rest, y ≠ 0 := fun y hy => hcells y (List.mem_cons_of_mem x hy)
      by_cases hmem : c ∈ rest
      · exact ih hrest hmem
      · obtain rfl : c = x := (List.mem_cons.mp hc).resolve_right hmem
        rw [linkCells_head hmem]
        cases rest with
        | nil => decide
        | cons y rest => exact hrest y List.mem_cons_self

theorem Integrity.enter {first : UInt16} {rest : List UInt16} (h : Integrity D fat dirs)
    (hfree : FreeCells fat 3 32771 (first :: rest)) :
    Integrity D (linkCells (first :: rest) fat)
      (enteredDirs dirs dirAddress index (dirEntry name flag first size)) := by
  obtain ⟨chain, hchain⟩ := h
  have hold : ∀ e, Live D dirs e → ∀ c ∈ chain e, c ∉ first :: rest := by
    intro e he c hc hmem
    exact (hchain.allocated e he c hc).2.2 (hfree.free c hmem).2.2
  refine ⟨fun e => if e = (dirAddress, index) then first :: rest else chain e, ?_, ?_, ?_, ?_⟩
  · intro e he
    split
    · rename_i heq
      subst heq
      dsimp only [enteredDirs]
      rw [Function.update_self, entryCluster_dirEntry]
      exact linkCells_follows hfree.nodup fun x hx => hfree.lt hx
    · rename_i hne
      obtain ⟨hlive, hcluster⟩ := live_of_ne hne he
      rw [hcluster]
      apply (hchain.follows e hlive).congr
      intro c hc
      rw [nextCell, nextCell, linkCells_allocated hfree (hchain.allocated e hlive c hc).2.2]
  · intro e he
    split
    · exact hfree.nodup
    · rename_i hne
      exact hchain.acyclic e (live_of_ne hne he).1
  · intro e he c hc
    split at hc
    · obtain ⟨hlow, hhigh, _⟩ := hfree.free c hc
      refine ⟨by omega, Nat.lt_trans hhigh (by decide), ?_⟩
      apply linkCells_ne_zero _ hc
      rintro x hx rfl
      exact absurd (hfree.free 0 hx).1 (by decide)
    · rename_i hne
      obtain ⟨hlow, hhigh, hne0⟩ := hchain.allocated e (live_of_ne hne he).1 c hc
      rw [linkCells_allocated hfree hne0]
      exact ⟨hlow, hhigh, hne0⟩
  · intro e e' he he' hee
    split
    · rename_i heq
      have hne : e' ≠ (dirAddress, index) := fun heq' => hee (heq.trans heq'.symm)
      rw [if_neg hne]
      intro c hmem hc
      exact hold e' (live_of_ne hne he').1 c hc hmem
    · rename_i hne
      split
      · exact fun c hc hmem => hold e (live_of_ne hne he).1 c hc hmem
      · rename_i hne'
        exact hchain.disjoint e e' (live_of_ne hne he).1 (live_of_ne hne' he').1 hee

/-- The root directory on the disk is the one in memory, and the FAT has been loaded. -/
def Synced (v : Volume) : Prop :=
  v.fatCacheLoaded = true ∧ ∀ offset < VOLUME1_ROOTDIR_SIZE * SECTOR_SIZE,
    v.bytesAt VOLUME1_ROOTDIR_LBA offset = v.dirs VOLUME1_ROOTDIR_ADDRESS offset

theorem Synced.mounted (h : Synced v) : v.mounted.fat = v.fat ∧ v.mounted.dirs = v.dirs :=
  ⟨mounted_fat h.1, mounted_dirs_of_saved h.2⟩

theorem synced_mounted (v : Volume) (list : Nat → UInt16) : Synced (setList v.mounted list) := by
  refine ⟨mounted_fatCacheLoaded v, ?_⟩
  intro offset hoffset
  have hdisk : (setList v.mounted list).bytesAt VOLUME1_ROOTDIR_LBA offset =
      v.bytesAt VOLUME1_ROOTDIR_LBA offset := by
    rw [Volume.bytesAt, Volume.bytesAt, ← mounted_disk v]
    rfl
  rw [hdisk]
  exact (bytesAt_rootdir v hoffset).symm

theorem synced_savedVolume {disk : Nat → Nat → UInt8} (h : v.fatCacheLoaded = true) :
    Synced (savedVolume v fat disk) := by
  refine ⟨h, ?_⟩
  intro offset hoffset
  have hlba : offset / SECTOR_SIZE < VOLUME1_ROOTDIR_SIZE :=
    Nat.div_lt_of_lt_mul (by rwa [Nat.mul_comm])
  unfold Volume.bytesAt savedVolume Volume.withSavedRootdir
  dsimp only
  rw [if_pos ⟨Nat.le_add_right .., Nat.add_lt_add_left hlba _⟩, Nat.add_sub_cancel_left,
    Nat.mul_comm, Nat.div_add_mod]

/-- A call that enters a file into the directory: it has a name, and there are a free cluster
and a free entry. -/
def Creates (v : Volume) (a : SaveArgs) : Prop :=
  (∃ name, a.fileName = some name ∧ name 0 ≠ 0) ∧ (∃ c, 3 ≤ c ∧ c < 32771 ∧ v.mounted.fat c = 0) ∧
    ∃ index, findEmptyDirectoryEntry (v.mounted.dirs a.dirAddress) a.dirEntries = some index

def SavesSectors (v : Volume) (a : SaveArgs) : Prop :=
  a.fileSize = 0 → ¬ Creates v a

theorem exists_free_of_searchClusters {list list' : Nat → UInt16}
    (h : searchClusters fat k c j 0 list = (true, list')) :
    ∃ m, c ≤ m ∧ m < c + k ∧ fat m = 0 := by
  induction k generalizing c with
  | zero => cases h
  | succ k ih =>
      rw [searchClusters] at h
      split at h
      · rename_i hfree
        exact ⟨c, Nat.le_refl c, by omega, hfree⟩
      · obtain ⟨m, hlow, hhigh, hfree⟩ := ih h
        exact ⟨m, by omega, by omega, hfree⟩

theorem fsSaveFile_effect (hsaves : SavesSectors v a) (h : fsSaveFile v a = .ok (rc, w)) :
    w = v ∨ (∃ list, w = setList v.mounted list) ∨ ∃ name index list first rest disk,
        FreeCells v.mounted.fat 3 32771 (first :: rest) ∧ list 0 = first ∧
          w = savedVolume (enteredVolume v.mounted a name list index)
            (linkCells (first :: rest) v.mounted.fat) disk := by
  rcases fsSaveFile_cases h with
    ⟨_, rfl⟩ | ⟨name, u, found, list, hsearched, ⟨_, rfl, _⟩ | ⟨index, rfl, hindex, hloop⟩⟩
  · exact .inl rfl
  · obtain rfl := mount_ok hsearched.mounted
    exact .inr (.inl ⟨list, rfl⟩)
  · obtain rfl := mount_ok hsearched.mounted
    have hsize : a.fileSize ≠ 0 := by
      intro hzero
      have hsearch := hsearched.search
      rw [hzero] at hsearch
      exact hsaves hzero ⟨⟨name, hsearched.fileName, hsearched.named⟩,
        exists_free_of_searchClusters hsearch, index, hindex⟩
    obtain ⟨cells, hlength, hfree, hlists⟩ := hsearched.cells
    have hsaved := (hsearched.saved hlength hfree hlists hsize hloop).2
    cases cells with
    | nil => exact absurd hlength.symm hsize
    | cons first rest =>
        exact .inr (.inr ⟨name, index, list, first, rest, _, hfree, hlists.1, hsaved⟩)

theorem fsSaveFile_keeps (hwell : WellFormed D v) (hsaves : SavesSectors v a)
    (h : fsSaveFile v a = .ok (rc, w)) :
    WellFormed D w ∧ ∀ c, v.mounted.fat c ≠ 0 → w.mounted.fat c = v.mounted.fat c := by
  rcases fsSaveFile_effect hsaves h with
    rfl | ⟨list, rfl⟩ | ⟨name, index, list, first, rest, disk, hfree, hfirst, rfl⟩
  · exact ⟨hwell, fun _ _ => rfl⟩
  · obtain ⟨hfat, hdirs⟩ := (synced_mounted v list).mounted
    rw [WellFormed, hfat, hdirs]
    exact ⟨hwell, fun _ _ => rfl⟩
  · have hsynced : Synced (savedVolume (enteredVolume v.mounted a name list index)
        (linkCells (first :: rest) v.mounted.fat) disk) :=
      synced_savedVolume (mounted_fatCacheLoaded v)
    obtain ⟨hfat, hdirs⟩ := hsynced.mounted
    rw [WellFormed, hfat, hdirs]
    refine ⟨?_, fun c hc => linkCells_allocated hfree hc⟩
    have henter : Integrity D (linkCells (first :: rest) v.mounted.fat)
        (enteredDirs v.mounted.dirs a.dirAddress index
          (dirEntry name a.flag first a.sizeInBytes)) := hwell.enter hfree
    rw [← hfirst] at henter ⊢
    exact henter

/-- The integrity of the FAT over a run of calls, and what one more call leaves unchanged. -/
theorem fat_integrity_run {D : Set Nat} {v s t : Volume} {calls : List SaveArgs}
    {results : List Int} {a : SaveArgs} {rc : Int} (hwell : WellFormed D v)
    (hsaves : Guarded fsSaveFile SavesSectors v calls)
    (hrun : run fsSaveFile v calls = .ok (results, s)) (hcall : SavesSectors s a)
    (hlast : fsSaveFile s a = .ok (rc, t)) :
    WellFormed D s ∧ WellFormed D t ∧
      ∀ c, s.mounted.fat c ≠ 0 → t.mounted.fat c = s.mounted.fat c := by
  have hs : WellFormed D s := by
    apply run_invariant (WellFormed D) _ hwell hsaves hrun
    intro v a rc w hv hsize hstep
    exact (fsSaveFile_keeps hv hsize hstep).1
  exact ⟨hs, fsSaveFile_keeps hs hcall hlast⟩

/-- A disk with an empty root directory and a FAT of which only the two first cells are
allocated. -/
def blankVolume : Volume where
  disk lba offset := if lba = VOLUME1_FAT_LBA ∧ offset < 4 then 0xFF else 0
  sectors := 65536
  fatBits := 16
  fat _ := 0
  fatCacheLoaded := false
  fatCacheSaved := false
  dirs _ _ := 0
  clustersToSave _ := 0
  beforeList := 0
  root := some ⟨true, 1234, 1, FAT16_ROOT_ENTRIES⟩

def saveA (fileSize : Nat) : SaveArgs where
  fatAddress := VOLUME1_FAT_ADDRESS
  dirAddress := VOLUME1_ROOTDIR_ADDRESS
  dirEntries := FAT16_ROOT_ENTRIES
  fileName := some fun i => if i = 0 then 65 else if i < 11 then 32 else 0
  fileSize := fileSize
  sizeInBytes := 512 * fileSize
  flag := 1
  data _ := 7

def saveResult (v : Volume) (a : SaveArgs) : Option Int :=
  match fsSaveFile v a with
  | .error _ => none
  | .ok (rc, _) => some rc

def afterSave (v : Volume) (a : SaveArgs) : Volume :=
  match fsSaveFile v a with
  | .error _ => v
  | .ok (_, w) => w

theorem fsSaveFile_of_saveResult (h : saveResult v a = some rc) :
    fsSaveFile v a = .ok (rc, afterSave v a) := by
  unfold saveResult at h
  unfold afterSave
  split at h
  · cases h
  · rename_i rc' w hcall
    cases h
    rw [hcall]

theorem run_of_saveResult (h : saveResult v a = some rc) :
    run fsSaveFile v [a] = .ok ([rc], afterSave v a) := by
  rw [run, fsSaveFile_of_saveResult h]
  rfl

theorem saveResult_both : saveResult blankVolume (saveA 2) = some 0 ∧
    saveResult (afterSave blankVolume (saveA 2)) (saveA 1) = some 0 := by
  decide +kernel

theorem wellFormed_blankVolume : WellFormed {VOLUME1_ROOTDIR_ADDRESS} blankVolume := by
  have hnone : ∀ e, ¬ Live {VOLUME1_ROOTDIR_ADDRESS} blankVolume.mounted.dirs e := by
    rintro ⟨d, i⟩ ⟨hd, hi, huse, _⟩
    apply huse
    dsimp only at hd hi ⊢
    rw [Set.mem_singleton_iff] at hd
    rw [hd, bytesAt_rootdir]
    · rw [Volume.bytesAt, blankVolume]
      dsimp only
      rw [if_neg]
      unfold VOLUME1_ROOTDIR_LBA VOLUME1_FAT_LBA SECTOR_SIZE
      omega
    · unfold FAT16_ENTRY_SIZE VOLUME1_ROOTDIR_SIZE SECTOR_SIZE
      unfold FAT16_ROOT_ENTRIES at hi
      omega
  exact ⟨fun _ => [], fun e he => absurd he (hnone e), fun e he => absurd he (hnone e),
    fun e he => absurd he (hnone e), fun e _ he => absurd he (hnone e)⟩

theorem fat_integrity_run_example :
    WellFormed {VOLUME1_ROOTDIR_ADDRESS} (afterSave blankVolume (saveA 2)) ∧
      WellFormed {VOLUME1_ROOTDIR_ADDRESS}
        (afterSave (afterSave blankVolume (saveA 2)) (saveA 1)) ∧
      ∀ c, (afterSave blankVolume (saveA 2)).mounted.fat c ≠ 0 →
        (afterSave (afterSave blankVolume (saveA 2)) (saveA 1)).mounted.fat c =
          (afterSave blankVolume (saveA 2)).mounted.fat c :=
  fat_integrity_run wellFormed_blankVolume (guarded_singleton fun h => absurd h (by decide))
    (run_of_saveResult saveResult_both.1) (fun h => absurd h (by decide))
    (fsSaveFile_of_saveResult saveResult_both.2)

/-- A file of no sectors: its entry gets the mark for its first cluster. -/
theorem save_of_no_sectors :
    WellFormed {VOLUME1_ROOTDIR_ADDRESS} blankVolume ∧
      run fsSaveFile blankVolume [saveA 0] = .ok ([0], afterSave blankVolume (saveA 0)) ∧
        ¬ WellFormed {VOLUME1_ROOTDIR_ADDRESS} (afterSave blankVolume (saveA 0)) ∧
          blankVolume.mounted.fat 0 = 0xFFFF ∧
            (afterSave blankVolume (saveA 0)).mounted.fat 0 = 0xFFF8 := by
  refine ⟨wellFormed_blankVolume, run_of_saveResult (by decide +kernel), ?_, by decide +kernel, by decide +kernel⟩
  rintro ⟨chain, hchain⟩
  have hcluster : entryCluster ((afterSave blankVolume (saveA 0)).mounted.dirs
      VOLUME1_ROOTDIR_ADDRESS) 0 = END_OF_FILE := by decide +kernel
  have hlive : Live {VOLUME1_ROOTDIR_ADDRESS} (afterSave blankVolume (saveA 0)).mounted.dirs
      (VOLUME1_ROOTDIR_ADDRESS, 0) := by
    refine ⟨rfl, by decide, by decide +kernel, by decide +kernel, ?_⟩
    dsimp only
    rw [hcluster]
    decide
  have hfollows := hchain.follows _ hlive
  dsimp only at hfollows
  rw [hcluster] at hfollows
  have hmem : END_OF_FILE ∈ chain (VOLUME1_ROOTDIR_ADDRESS, 0) := by
    generalize chain (VOLUME1_ROOTDIR_ADDRESS, 0) = clusters at hfollows
    cases hfollows
    exact List.mem_cons_self
  exact absurd (hchain.allocated _ hlive _ hmem).2.1 (by decide)

end Gramado.Fs.FatIntegrity
