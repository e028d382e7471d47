import Gramado.Fs.RoundTrip
import Gramado.Fs.SaveAtomicity

/-! What runs of `fsSaveFile` leave of the files that are on the volume already. -/

namespace Gramado.Fs.StoredFiles

open Fs.Fat16 Fs.LoadFile Fs.SaveFile Fs.FatIntegrity Fs.RoundTrip Fs.LoadBounds Fs.SaveAtomicity
open Library.LinkedList Library.Run

/-- The entry that a save makes is not one of the name in the directory. -/
def Foreign (d : Nat) (name : CString) (a : SaveArgs) : Prop :=
  a.dirAddress = d → ∀ chars, a.fileName = some chars →
    ∃ k < name.length, name.chars k ≠ dirEntry chars a.flag 0 0 k

variable {v w : Volume} {d i index size : Nat} {name : CString} {cells new : List UInt16}
  {a : SaveArgs} {l : LoadArgs} {rc : Int} {c : UInt16} {chars data dir : Nat → UInt8} {flag : UInt8}

theorem links_congr {fat fat' : Nat → UInt16} (h : Links fat cells)
    (hsame : ∀ c ∈ cells, fat' c.toNat = fat c.toNat) : Links fat' cells := by
  induction cells with
  | nil => trivial
  | cons c rest ih =>
      exact ⟨(hsame c List.mem_cons_self).trans h.1,
        ih h.2 fun x hx => hsame x (List.mem_cons_of_mem c hx)⟩

theorem stored_congr (h : Stored v l name i cells data) (hsynced : Synced w)
    (hsectors : w.sectors = v.sectors) (hfatBits : w.fatBits = v.fatBits) (hroot : w.root = v.root)
    (hentry : entrySize (w.dirs l.dirAddress) i = entrySize (v.dirs l.dirAddress) i ∧
      entryCluster (w.dirs l.dirAddress) i = entryCluster (v.dirs l.dirAddress) i ∧
        searchEntry (w.dirs l.dirAddress) name FAT16_ROOT_ENTRIES = some i)
    (hcells : ∀ c ∈ cells, w.fat c.toNat = v.fat c.toNat ∧
      w.disk (clusterLba c) = v.disk (clusterLba c)) : Stored w l name i cells data := by
  obtain ⟨hsize, hcluster, hfound⟩ := hentry
  refine ⟨⟨hsynced, ?_, ?_, (checkLoad_congr l hroot).trans h.ready.checked⟩,
    hfatBits.trans h.fatBits, hfound, hsize.trans_lt h.fits, ?_,
    links_congr h.links fun c hc => (hcells c hc).1, ?_, ?_, ?_⟩
  · rw [hsectors]
    exact h.ready.sectors
  · rw [hsectors]
    exact h.ready.rootdir
  · rw [hcluster]
    exact h.head
  · rw [hsectors]
    exact h.clusters
  · intro c hc
    rw [(hcells c hc).1]
    exact h.allocated c hc
  · intro n hn k hk
    rw [(hcells _ (List.getElem_mem hn)).2]
    exact h.bytes n hn k hk

theorem entrySize_storeEntry_of_ne {entry : Nat → UInt8} (hne : i ≠ index) :
    entrySize (storeEntry dir index entry) i = entrySize dir i := by
  rw [entrySize, storeEntry_of_ne (by decide) hne, storeEntry_of_ne (by decide) hne,
    storeEntry_of_ne (by decide) hne, storeEntry_of_ne (by decide) hne, entrySize]

theorem not_matchesName_empty (hlength : 0 < name.length)
    (hempty : dir (FAT16_ENTRY_SIZE * i) = 0) : matchesName dir name i = false := by
  rw [← Bool.not_eq_true]
  intro hmatches
  simp only [matchesName, Bool.decide_and, Bool.and_eq_true, List.all_eq_true, List.mem_range,
    decide_eq_true_eq] at hmatches
  exact name.nonzero 0 hlength ((hmatches.2 0 hlength).trans hempty)

theorem not_matchesName_entry {cluster : UInt16} (hlength : name.length ≤ 11)
    (hother : ∃ k < name.length, name.chars k ≠ dirEntry chars flag 0 0 k) :
    matchesName (storeEntry dir i (dirEntry chars flag cluster size)) name i = false := by
  rw [← Bool.not_eq_true]
  intro hmatches
  obtain ⟨k, hk, hne⟩ := hother
  simp only [matchesName, Bool.decide_and, Bool.and_eq_true, List.all_eq_true, List.mem_range,
    decide_eq_true_eq] at hmatches
  apply hne
  have hk' : k < 11 := by omega
  rw [hmatches.2 k hk, storeEntry_self (Nat.lt_trans hk' (by decide))]
  interval_cases k <;> rfl

theorem searchEntry_storeEntry {cluster : UInt16} (hlength : name.length ≤ 11)
    (hfound : searchEntry dir name FAT16_ROOT_ENTRIES = some i)
    (hempty : dir (FAT16_ENTRY_SIZE * index) = 0)
    (hother : ∃ k < name.length, name.chars k ≠ dirEntry chars flag 0 0 k) :
    i ≠ index ∧ searchEntry (storeEntry dir index (dirEntry chars flag cluster size)) name
      FAT16_ROOT_ENTRIES = some i := by
  obtain ⟨hmatches, hi, hbefore⟩ := searchEntry_some.mp hfound
  obtain ⟨k, hk, hdiffers⟩ := hother
  have hne : i ≠ index := by
    rintro rfl
    rw [not_matchesName_empty (Nat.zero_lt_of_lt hk) hempty] at hmatches
    cases hmatches
  refine ⟨hne, searchEntry_some.mpr ⟨?_, hi, ?_⟩⟩
  · rw [matchesName_storeEntry_of_ne hlength hne]
    exact hmatches
  · intro j hj
    rcases eq_or_ne j index with rfl | hji
    · exact not_matchesName_entry hlength ⟨k, hk, hdiffers⟩
    · rw [matchesName_storeEntry_of_ne hlength hji]
      exact hbefore j hj

theorem save_keeps_cluster {list : Nat → UInt16} (hsaved : Saved v a chars list index new)
    (hlow : 2 ≤ c.toNat) (hc : v.mounted.fat c.toNat ≠ 0) :
    linkCells new v.mounted.fat c.toNat = v.mounted.fat c.toNat ∧
      (savedVolume (enteredVolume v.mounted a chars list index) (linkCells new v.mounted.fat)
        (writeCells a.data 0 new v.disk)).disk (clusterLba c) = v.disk (clusterLba c) := by
  refine ⟨linkCells_allocated hsaved.free hc, ?_⟩
  have hdata : writeCells a.data 0 new v.disk (clusterLba c) = v.disk (clusterLba c) := by
    apply writeCells_not_mem
    intro x hx hlba
    obtain ⟨hx3, _, hfree⟩ := hsaved.free.free x hx
    have hxc : x.toNat = c.toNat := by
      unfold clusterLba at hlba
      omega
    exact hc (hxc ▸ hfree)
  rw [← hdata]
  funext offset
  apply if_neg
  unfold clusterLba VOLUME1_DATAAREA_LBA VOLUME1_ROOTDIR_LBA VOLUME1_ROOTDIR_SIZE
  omega

theorem entered_file (cluster : UInt16) (size : Nat) (hlength : name.length ≤ 11)
    (hfound : searchEntry (v.dirs d) name FAT16_ROOT_ENTRIES = some i)
    (hforeign : Foreign d name a) (hname : a.fileName = some chars)
    (hempty : v.dirs a.dirAddress (FAT16_ENTRY_SIZE * index) = 0) :
    let dirs := enteredDirs v.dirs a.dirAddress index (dirEntry chars a.flag cluster size)
    entrySize (dirs d) i = entrySize (v.dirs d) i ∧
      entryCluster (dirs d) i = entryCluster (v.dirs d) i ∧
        searchEntry (dirs d) name FAT16_ROOT_ENTRIES = some i := by
  intro dirs
  rcases eq_or_ne a.dirAddress d with rfl | hne
  · obtain ⟨hi, hfound'⟩ := searchEntry_storeEntry hlength hfound hempty (hforeign rfl chars hname)
    simp only [dirs, enteredDirs, Function.update_self]
    exact ⟨entrySize_storeEntry_of_ne hi, entryCluster_storeEntry_of_ne hi, hfound'⟩
  · simp only [dirs, enteredDirs, Function.update_of_ne hne.symm, hfound, and_self]

theorem stored_step (h : Stored v l name i cells data) (hlength : name.length ≤ 11)
    (hsize : a.fileSize ≠ 0) (hforeign : Foreign l.dirAddress name a)
    (hsave : fsSaveFile v a = .ok (rc, w)) : Stored w l name i cells data := by
  obtain ⟨hfat, hdirs⟩ := h.ready.synced.mounted
  rcases eq_or_ne rc 0 with rfl | hrc
  · obtain ⟨chars, list, index, new, hsaved⟩ := saved_of_fsSaveFile hsize hsave
    obtain ⟨-, rfl⟩ := Prod.mk.inj (Except.ok.inj (hsave.symm.trans (hsaved.volume a.data)))
    have hempty := (findEmptyDirectoryEntry_some hsaved.empty).2.1
    rw [hdirs] at hempty
    have hentry := entered_file (list 0) a.sizeInBytes hlength h.found hforeign
      hsaved.searched.fileName hempty
    rw [← hdirs] at hentry
    refine stored_congr h (synced_savedVolume (mounted_fatCacheLoaded v)) (mounted_sectors v)
      (mounted_fatBits v) (mounted_root v) ⟨hentry.1.trans (by rw [hdirs]),
        hentry.2.1.trans (by rw [hdirs]), hentry.2.2⟩ ?_
    intro c hc
    have hne := h.allocated c hc
    rw [← hfat] at hne ⊢
    exact save_keeps_cluster hsaved (Nat.le_trans (by decide) (h.clusters c hc).1) hne
  · rcases fsSaveFile_failed hsave hrc with rfl | ⟨list, rfl⟩
    · exact h
    · have hdirs' : (setList v.mounted list).dirs = v.dirs := hdirs
      refine stored_congr h (synced_mounted v list) (mounted_sectors v) (mounted_fatBits v)
        (mounted_root v) ?_ fun c _ => ⟨congrFun hfat _, congrFun (mounted_disk v) _⟩
      rw [hdirs']
      exact ⟨rfl, rfl, h.found⟩

theorem stored_run {calls : List SaveArgs} {results : List Int} {s : Volume}
    (h : Stored v l name i cells data) (hlength : name.length ≤ 11)
    (hcalls : ∀ a ∈ calls, a.fileSize ≠ 0 ∧ Foreign l.dirAddress name a)
    (hrun : run fsSaveFile v calls = .ok (results, s)) : Stored s l name i cells data := by
  apply run_invariant (fun u => Stored u l name i cells data) _ h
    (guarded_of_forall (fun a ha _ => hcalls a ha) v) hrun
  rintro u a rc w hu ⟨hsize, hforeign⟩ hsave
  exact stored_step hu hlength hsize hforeign hsave

/-- A file that is saved is loaded with its bytes after any run of saves under other names. -/
theorem saved_file_run {v w s : Volume} {a : SaveArgs} {l : LoadArgs} {name : CString}
    {calls : List SaveArgs} {results : List Int} (hrequest : Request v a l name)
    (hsize : a.fileSize ≠ 0) (hfirst : FoundFirst v a l name)
    (hsave : fsSaveFile v a = .ok (0, w))
    (hcalls : ∀ b ∈ calls, b.fileSize ≠ 0 ∧ Foreign l.dirAddress name b)
    (hrun : run fsSaveFile w calls = .ok (results, s)) {fuel : Nat} (hfuel : a.fileSize ≤ fuel)
    (memory : Nat → UInt8) :
    (fsLoadFile fuel s memory l).result = .ok 0 ∧ ∀ x, (fsLoadFile fuel s memory l).memory x =
        if l.buffer ≤ x ∧ x < l.buffer + SECTOR_SIZE * a.fileSize then a.data (x - l.buffer)
        else memory x := by
  obtain ⟨chars, list, index, cells, hsaved⟩ := saved_of_fsSaveFile hsize hsave
  obtain rfl : name.chars = chars :=
    Option.some.inj (hrequest.fileName.symm.trans hsaved.searched.fileName)
  obtain ⟨-, rfl⟩ := Prod.mk.inj (Except.ok.inj (hsave.symm.trans (hsaved.volume a.data)))
  have hstored := hfirst.stored hsaved hrequest hsize a.data
  exact (stored_run hstored hrequest.length.le hcalls hrun).load hsaved hrequest hsize hfuel memory

def saveB : SaveArgs :=
  { saveA 1 with fileName := some fun i => if i = 0 then 66 else if i < 11 then 32 else 0 }

theorem saveResult_saveB : saveResult savedOnce saveB = some 0 := by
  decide +kernel

theorem foreign_saveB : ∀ b ∈ [saveB], b.fileSize ≠ 0 ∧ Foreign loadA.dirAddress fileNameA b := by
  intro b hb
  obtain rfl := List.mem_singleton.mp hb
  refine ⟨by decide, ?_⟩
  rintro - chars hchars
  cases hchars
  exact ⟨0, by decide, by decide⟩

theorem foundFirst_blankVolume : FoundFirst blankVolume (saveA 1) loadA fileNameA := by
  refine ⟨?_, fun hflag => absurd hflag (by decide), by decide⟩
  intro index hindex j hj
  have hlt : (index : Int) < FAT16_ROOT_ENTRIES := (findEmptyDirectoryEntry_some hindex).1
  exact matchesName_blankVolume (by omega)

theorem saved_file_run_example :
    (fsLoadFile 1 (afterSave savedOnce saveB) (fun _ => 0) loadA).result = .ok 0 :=
  (saved_file_run request_blankVolume (by decide) foundFirst_blankVolume
    (fsSaveFile_of_saveResult saveResult_twice.1) foreign_saveB
    (run_of_saveResult saveResult_saveB) (Nat.le_refl 1) fun _ => 0).1

end Gramado.Fs.StoredFiles
