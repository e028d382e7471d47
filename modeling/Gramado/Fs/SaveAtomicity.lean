import Gramado.Fs.FatIntegrity

/-! What a call of `fsSaveFile` that fails leaves behind. -/

namespace Gramado.Fs.SaveAtomicity

open Fs.Fat16 Fs.SaveFile Fs.FatIntegrity

variable {v w : Volume} {rc : Int}

theorem saveClusters_mark {data : Nat → UInt8} {turns : Nat}
    (hmark : v.clustersToSave 0 = END_OF_FILE)
    (h : saveClusters data (turns + 1) 0 v = .ok (rc, w)) :
    rc = 0 := by
  rw [saveClusters, hmark, if_pos rfl] at h
  exact (saveDirAndFat_ok h).1

theorem fsSaveFile_failed {a : SaveArgs} (h : fsSaveFile v a = .ok (rc, w)) (hrc : rc ≠ 0) :
    w = v ∨ ∃ list, w = setList v.mounted list := by
  rcases fsSaveFile_cases h with
    ⟨_, rfl⟩ | ⟨name, u, found, list, hsearched, ⟨_, rfl, _⟩ | ⟨index, rfl, _, hloop⟩⟩
  · exact .inl rfl
  · obtain rfl := mount_ok hsearched.mounted
    exact .inr ⟨list, rfl⟩
  · obtain ⟨cells, hlength, hfree, hlists⟩ := hsearched.cells
    exfalso
    apply hrc
    by_cases hsize : a.fileSize = 0
    · rw [hsize, List.length_eq_zero_iff] at hlength
      subst hlength
      have hmark : (enteredVolume u a name list index).clustersToSave 0 = END_OF_FILE := hlists.1
      exact saveClusters_mark hmark hloop
    · exact (hsearched.saved hlength hfree hlists hsize hloop).1

/-- The FAT and the directories after a call that fails. On the disk they are as before, and
so they are in memory, but for what the call has loaded from the disk. -/
theorem failed_save_keeps {v w : Volume} {a : SaveArgs} {rc : Int}
    (h : fsSaveFile v a = .ok (rc, w)) (hrc : rc ≠ 0) :
    w.disk = v.disk ∧ (w.fat = v.fat ∨ v.fatCacheLoaded = false ∧ w.fat = v.mounted.fat) ∧
      (w.dirs = v.dirs ∨ w.dirs = (v.withRootdir (v.bytesAt VOLUME1_ROOTDIR_LBA)).dirs) ∧
        (∀ d, d ≠ VOLUME1_ROOTDIR_ADDRESS → w.dirs d = v.dirs d) ∧
          (Synced v → w.fat = v.fat ∧ w.dirs = v.dirs) := by
  rcases fsSaveFile_failed h hrc with rfl | ⟨list, rfl⟩
  · exact ⟨rfl, .inl rfl, .inl rfl, fun _ _ => rfl, fun _ => ⟨rfl, rfl⟩⟩
  · refine ⟨mounted_disk v, ?_, .inr (mounted_dirs v), ?_, fun hsynced => hsynced.mounted⟩
    · cases hloaded : v.fatCacheLoaded with
      | false => exact .inr ⟨rfl, rfl⟩
      | true => exact .inl (mounted_fat hloaded)
    · intro d hd
      have hdirs : (setList v.mounted list).dirs =
          (v.withRootdir (v.bytesAt VOLUME1_ROOTDIR_LBA)).dirs := mounted_dirs v
      rw [hdirs]
      exact Function.update_of_ne hd ..

def occupiedVolume : Volume :=
  { blankVolume with
    disk := fun lba offset =>
      if lba = VOLUME1_ROOTDIR_LBA ∧ offset = 0 then 65 else blankVolume.disk lba offset }

def saveToOneEntry : SaveArgs :=
  { saveA 1 with dirEntries := 1 }

theorem saveResult_occupied : saveResult occupiedVolume saveToOneEntry = some 1 ∧
    (afterSave occupiedVolume saveToOneEntry).fat 0 = 0xFFFF ∧
      (afterSave occupiedVolume saveToOneEntry).dirs VOLUME1_ROOTDIR_ADDRESS 0 = 65 := by
  decide +kernel

theorem failed_save_keeps_example :
    (afterSave occupiedVolume saveToOneEntry).disk = occupiedVolume.disk :=
  (failed_save_keeps (fsSaveFile_of_saveResult saveResult_occupied.1) (by decide)).1

/-- The call fails for want of an empty entry, after it has loaded the FAT and the root
directory into the memory. -/
theorem failed_save_loads :
    fsSaveFile occupiedVolume saveToOneEntry =
        .ok (1, afterSave occupiedVolume saveToOneEntry) ∧
      occupiedVolume.fat 0 = 0 ∧ (afterSave occupiedVolume saveToOneEntry).fat 0 = 0xFFFF ∧
        occupiedVolume.dirs VOLUME1_ROOTDIR_ADDRESS 0 = 0 ∧
          (afterSave occupiedVolume saveToOneEntry).dirs VOLUME1_ROOTDIR_ADDRESS 0 = 65 :=
  ⟨fsSaveFile_of_saveResult saveResult_occupied.1, rfl, saveResult_occupied.2.1, rfl,
    saveResult_occupied.2.2⟩

end Gramado.Fs.SaveAtomicity
