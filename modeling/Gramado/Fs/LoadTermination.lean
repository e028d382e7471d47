import Gramado.Fs.LoadBounds
import Gramado.Library.Orbit
import Mathlib.Order.Interval.Finset.Nat

/-! When the loop of `fsLoadFile` over the chain of clusters ends. -/

namespace Gramado.Fs.LoadTermination

open Fs.Fat16 Fs.LoadFile Fs.LoadBounds

def InRange (cluster : UInt16) : Prop := cluster ≠ 0 ∧ cluster ≤ 0xFFF0

instance (cluster : UInt16) : Decidable (InRange cluster) :=
  inferInstanceAs (Decidable (_ ∧ _))

def Links (fat : Nat → UInt16) (cluster : UInt16) : Prop :=
  InRange cluster ∧ GoesOn fat cluster

def Cyclic (fat : Nat → UInt16) (start : UInt16) : Prop :=
  ∀ n, Links fat (clusterAt fat start n)

def EndMark (cell : UInt16) : Prop := cell = 0xFFFF ∨ cell = 0xFFF8

/-- The loop reads the sectors of the chain up to an end mark, no more than the limit allows. -/
def Whole (v : Volume) (nreads buffer : Nat) (start : UInt16) : Prop :=
  ∃ n, ReadsSector v n buffer start ∧ EndMark (v.fat (clusterAt v.fat start n).toNat) ∧
    (nreads + n + 1) / 2 ≤ CONFIG_IMAGESIZE_LIMIT_IN_KB

def loopPanics : List String :=
  ["fsLoadFile: Not a valid address\n", "fsLoadFile: fat[] vector limits.\n",
    "read_lba: default\n", "ataReadSector: gNumberOfSectorsInBootDisk\n",
    "ataReadSector: lba limits\n", "fsLoadFile: Bad cluster\n", "fsLoadFile: nreads\n"]

def maxTurns : Nat := 0xFFF1

theorem clusterAt_eq_iterate (fat : Nat → UInt16) (start : UInt16) (n : Nat) :
    clusterAt fat start n = (fun c => fat c.toNat)^[n] start := by
  induction n generalizing start with
  | zero => rfl
  | succ n ih => exact ih (fat start.toNat)

variable {start cluster : UInt16} {v u w : Volume} {nreads buffer fileSize i : Nat}
  {memory : Nat → UInt8} {a : LoadArgs} {name : CString}

theorem exists_chain_end {fat : Nat → UInt16} (h : ¬ Cyclic fat start) :
    ∃ n < maxTurns, ¬ Links fat (clusterAt fat start n) := by
  have hends : ∃ n, ¬ Links fat ((fun c => fat c.toNat)^[n] start) := by
    rw [Cyclic, not_forall] at h
    simpa only [clusterAt_eq_iterate] using h
  have hrange : ∀ c, Links fat c → c.toNat ∈ Finset.Icc 1 0xFFF0 := by
    rintro c ⟨⟨hzero, hlimit⟩, _⟩
    have hpos : c.toNat ≠ 0 := fun heq => hzero (UInt16.toNat_inj.mp heq)
    have hle : c.toNat ≤ 0xFFF0 := UInt16.le_iff_toNat_le.mp hlimit
    exact Finset.mem_Icc.mpr ⟨Nat.pos_of_ne_zero hpos, hle⟩
  obtain ⟨n, hn, hstop, _⟩ :=
    Library.Orbit.exists_leaves (fun _ _ => UInt16.toNat_inj.mp) (Finset.Icc 1 0xFFF0) hrange hends
  rw [Nat.card_Icc] at hn
  refine ⟨n, by unfold maxTurns; omega, ?_⟩
  rw [clusterAt_eq_iterate]
  exact hstop

theorem whole_of_goesOn (h : GoesOn v.fat start) :
    Whole v nreads buffer start ↔ ReadsCluster v buffer start ∧
      Whole v (nreads + 1) (buffer + SECTOR_SIZE) (v.fat start.toNat) := by
  constructor
  · rintro ⟨n, hreads, hmark, hlimit⟩
    cases n with
    | zero => exact absurd hmark (not_or.mpr h.2)
    | succ n =>
        refine ⟨hreads.1, n, hreads.2.2, hmark, ?_⟩
        rw [show nreads + 1 + n + 1 = nreads + (n + 1) + 1 by omega]
        exact hlimit
  · rintro ⟨hcluster, n, hreads, hmark, hlimit⟩
    refine ⟨n + 1, ⟨hcluster, h, hreads⟩, hmark, ?_⟩
    rw [show nreads + (n + 1) + 1 = nreads + 1 + n + 1 by omega]
    exact hlimit

theorem whole_of_not_goesOn (h : ¬ GoesOn v.fat start) :
    Whole v nreads buffer start ↔ ReadsCluster v buffer start ∧ EndMark (v.fat start.toNat) ∧
      (nreads + 1) / 2 ≤ CONFIG_IMAGESIZE_LIMIT_IN_KB := by
  constructor
  · rintro ⟨n, hreads, hmark, hlimit⟩
    cases n with
    | zero => exact ⟨hreads, hmark, hlimit⟩
    | succ n => exact absurd hreads.2.1 h
  · rintro ⟨hcluster, hmark, hlimit⟩
    exact ⟨0, hcluster, hmark, hlimit⟩

theorem Whole.readsCluster (h : Whole v nreads buffer start) : ReadsCluster v buffer start := by
  obtain ⟨n, hreads, _⟩ := h
  cases n with
  | zero => exact hreads
  | succ n => exact hreads.1

def Reports (v : Volume) (nreads buffer : Nat) (start : UInt16) (r : Except String Int) : Prop :=
  (r = .ok 0 ∧ Whole v nreads buffer start) ∨
    (∃ e ∈ loopPanics, r = .error e) ∧ ¬ Whole v nreads buffer start

theorem readLba_error {address lba : Nat} {e : String}
    (h : readLba v memory address lba = .error e) :
    e ∈ loopPanics ∧ ¬ CanRead v address lba := by
  unfold readLba at h
  split at h
  · cases h
  rename_i hzero
  split at h
  · cases h
  rename_i hother
  rw [not_or] at hother
  split at h
  · rename_i hbits
    cases h
    refine ⟨by decide, ?_⟩
    rintro (h | h | h | ⟨h, _⟩)
    · exact hzero h
    · exact hother.1 h
    · exact hother.2 h
    · exact hbits h
  split at h
  · rename_i hsectors
    cases h
    refine ⟨by decide, ?_⟩
    rintro (h | h | h | ⟨_, h, _⟩)
    · exact hzero h
    · exact hother.1 h
    · exact hother.2 h
    · exact h hsectors
  split at h
  · rename_i hlba
    cases h
    refine ⟨by decide, ?_⟩
    rintro (h | h | h | ⟨_, _, h⟩)
    · exact hzero h
    · exact hother.1 h
    · exact hother.2 h
    · exact absurd h (not_lt.mpr hlba)
  · cases h

theorem exists_read (memory : Nat → UInt8) (h : ReadsCluster v buffer cluster) :
    ∃ m, readLba v memory buffer (clusterLba cluster) = .ok m := by
  rcases hread : readLba v memory buffer (clusterLba cluster) with e | m
  · exact absurd h.2.2.2 (readLba_error hread).2
  · exact ⟨m, rfl⟩

theorem loadClusters_refused (nreads : Nat) (memory : Nat → UInt8)
    (h : ¬ ReadsCluster v buffer cluster) :
    ∃ e ∈ loopPanics, ∀ fuel,
      (loadClusters v (fuel + 1) nreads cluster buffer memory).1 = .error e := by
  by_cases hvalid : checkAddressValidation buffer = false
  · refine ⟨"fsLoadFile: Not a valid address\n", by decide, ?_⟩
    intro fuel
    rw [loadClusters, if_pos hvalid]
  by_cases hrange : cluster = 0 ∨ 0xFFF0 < cluster
  · refine ⟨"fsLoadFile: fat[] vector limits.\n", by decide, ?_⟩
    intro fuel
    rw [loadClusters, if_neg hvalid, if_pos hrange]
  rcases hread : readLba v memory buffer (clusterLba cluster) with e | m
  · refine ⟨e, (readLba_error hread).1, ?_⟩
    intro fuel
    rw [loadClusters, if_neg hvalid, if_neg hrange, hread]
  · rw [not_or] at hrange
    exact absurd ⟨by simpa using hvalid, hrange.1, UInt16.not_lt.mp hrange.2,
      readLba_canRead hread⟩ h

theorem loadClusters_last (memory : Nat → UInt8) (hreads : ReadsCluster v buffer cluster)
    (h : ¬ GoesOn v.fat cluster) :
    ∃ r, Reports v nreads buffer cluster r ∧ ∀ fuel,
      (loadClusters v (fuel + 1) nreads cluster buffer memory).1 = r := by
  obtain ⟨m, hread⟩ := exists_read memory hreads
  simp only [loadClusters_turn hreads hread, Reports, whole_of_not_goesOn h]
  by_cases hbad : v.fat cluster.toNat = 0xFFF7
  · refine ⟨.error "fsLoadFile: Bad cluster\n", .inr ⟨⟨_, by decide, rfl⟩, ?_⟩, ?_⟩
    · rintro ⟨_, hmark, _⟩
      rw [EndMark, hbad] at hmark
      exact absurd hmark (by decide)
    · intro fuel
      rw [if_pos hbad]
  have hmark : v.fat cluster.toNat = 0xFFFF ∨ v.fat cluster.toNat = 0xFFF8 := by
    by_contra hmark
    exact h ⟨hbad, not_or.mp hmark⟩
  by_cases hlimit : CONFIG_IMAGESIZE_LIMIT_IN_KB < (nreads + 1) / 2
  · refine ⟨.error "fsLoadFile: nreads\n", .inr ⟨⟨_, by decide, rfl⟩, ?_⟩, ?_⟩
    · rintro ⟨_, _, hle⟩
      exact absurd hle (not_le.mpr hlimit)
    · intro fuel
      rw [if_neg hbad, if_pos hmark, if_pos hlimit]
  · refine ⟨.ok 0, .inl ⟨rfl, hreads, hmark, not_lt.mp hlimit⟩, ?_⟩
    intro fuel
    rw [if_neg hbad, if_pos hmark, if_neg hlimit]

theorem loadClusters_next (memory : Nat → UInt8) (hreads : ReadsCluster v buffer cluster)
    (h : GoesOn v.fat cluster) :
    ∃ m, ∀ fuel, loadClusters v (fuel + 1) nreads cluster buffer memory =
      loadClusters v fuel (nreads + 1) (v.fat cluster.toNat) (buffer + SECTOR_SIZE) m := by
  obtain ⟨m, hread⟩ := exists_read memory hreads
  refine ⟨m, ?_⟩
  intro fuel
  rw [loadClusters_turn hreads hread, if_neg h.1, if_neg (not_or.mpr h.2)]

theorem loadClusters_ends (memory : Nat → UInt8)
    (h : ¬ (ReadsCluster v buffer cluster ∧ GoesOn v.fat cluster)) :
    ∃ r, Reports v nreads buffer cluster r ∧ ∀ fuel,
      (loadClusters v (fuel + 1) nreads cluster buffer memory).1 = r := by
  by_cases hreads : ReadsCluster v buffer cluster
  · exact loadClusters_last memory hreads fun hgoes => h ⟨hreads, hgoes⟩
  · obtain ⟨e, he, hresult⟩ := loadClusters_refused nreads memory hreads
    exact ⟨.error e, .inr ⟨⟨e, he, rfl⟩, fun hwhole => hreads hwhole.readsCluster⟩, hresult⟩

theorem loadClusters_stops {n : Nat} (memory : Nat → UInt8)
    (h : ¬ Links v.fat (clusterAt v.fat start n)) :
    ∃ r, Reports v nreads buffer start r ∧
      ∀ fuel, n < fuel → (loadClusters v fuel nreads start buffer memory).1 = r := by
  induction n generalizing nreads buffer start memory with
  | zero =>
      have hends : ¬ (ReadsCluster v buffer start ∧ GoesOn v.fat start) :=
        fun ⟨hreads, hgoes⟩ => h ⟨⟨hreads.2.1, hreads.2.2.1⟩, hgoes⟩
      obtain ⟨r, hreports, hresult⟩ := loadClusters_ends memory hends
      refine ⟨r, hreports, ?_⟩
      intro fuel hfuel
      rw [← Nat.sub_add_cancel hfuel]
      exact hresult _
  | succ n ih =>
      by_cases hgoes : ReadsCluster v buffer start ∧ GoesOn v.fat start
      · obtain ⟨m, hnext⟩ := loadClusters_next memory hgoes.1 hgoes.2
        obtain ⟨r, hreports, hresult⟩ := ih m h
        refine ⟨r, ?_, ?_⟩
        · rw [Reports, whole_of_goesOn hgoes.2, and_iff_right hgoes.1]
          exact hreports
        · intro fuel hfuel
          obtain ⟨fuel, rfl⟩ : ∃ k, fuel = k + 1 := ⟨fuel - 1, by omega⟩
          rw [hnext]
          exact hresult fuel (by omega)
      · obtain ⟨r, hreports, hresult⟩ := loadClusters_ends memory hgoes
        refine ⟨r, hreports, ?_⟩
        intro fuel hfuel
        obtain ⟨fuel, rfl⟩ : ∃ k, fuel = k + 1 := ⟨fuel - 1, by omega⟩
        exact hresult fuel

theorem loadClusters_cyclic {fuel : Nat} (h : Cyclic v.fat start) (r : Int) :
    (loadClusters v fuel nreads start buffer memory).1 ≠ .ok r := by
  induction fuel generalizing nreads buffer start memory with
  | zero =>
      rw [loadClusters]
      exact fun heq => by cases heq
  | succ fuel ih =>
      by_cases hreads : ReadsCluster v buffer start
      · obtain ⟨m, hnext⟩ := loadClusters_next memory hreads (h 0).2
        rw [hnext]
        exact ih fun n => h (n + 1)
      · obtain ⟨e, _, hresult⟩ := loadClusters_refused _ memory hreads
        rw [hresult]
        exact fun heq => by cases heq

/-- The request leads to an entry whose size is below the limit, and the FAT is loaded. The
chain of the entry starts at `start`. -/
structure Located (v : Volume) (a : LoadArgs) (u : Volume) (start : UInt16) (name : CString)
    (w : Volume) (fileSize i : Nat) : Prop where
  checked : checkLoad v a = .ok ()
  fileName : a.fileName = some name
  named : name.chars 0 ≠ 0
  short : name.length ≤ 11
  sized : fsGetFileSize v name a.dirAddress = .ok (fileSize, w)
  fits : fileSize < a.limit
  found : searchEntry (w.dirs a.dirAddress) name FAT16_ROOT_ENTRIES = some i
  starts : start = entryCluster (w.dirs a.dirAddress) i
  loaded : fsLoadFat w = .ok u

theorem Located.accepted (h : Located v a u start name w fileSize i) (hrange : InRange start) :
    Accepted v a u start name w fileSize i :=
  ⟨h.checked, h.fileName, h.named, h.short, h.sized, h.fits, h.found, h.starts, hrange, h.loaded⟩

theorem Located.refused (h : Located v a u start name w fileSize i) (hrange : ¬ InRange start)
    (fuel : Nat) (memory : Nat → UInt8) :
    fsLoadFile fuel v memory a = ⟨.ok (-1), memory, w⟩ := by
  have hout : entryCluster (w.dirs a.dirAddress) i = 0 ∨
      0xFFF0 < entryCluster (w.dirs a.dirAddress) i := by
    rw [← h.starts]
    by_contra hnot
    rw [not_or, UInt16.not_lt] at hnot
    exact hrange hnot
  rw [fsLoadFile, h.checked, h.fileName]
  dsimp only
  rw [loadNamed, if_neg h.named, if_neg (not_lt.mpr h.short), h.sized]
  dsimp only
  rw [if_neg (not_le.mpr h.fits), h.found]
  dsimp only
  rw [loadFound, if_pos hout]

/-- A load of a chain that is not cyclic stops after at most `maxTurns` turns, of which each
reads at most one sector: it reports the whole chain or panics. A first cluster out of range
is refused. -/
theorem load_terminates {v u w : Volume} {a : LoadArgs} {start : UInt16} {name : CString}
    {fileSize i : Nat} (h : Located v a u start name w fileSize i) (memory : Nat → UInt8) :
    (¬ InRange start → ∀ fuel, (fsLoadFile fuel v memory a).result = .ok (-1)) ∧
      (InRange start → ¬ Cyclic u.fat start →
        ∃ r, Reports u 0 a.buffer start r ∧
          ∀ fuel, maxTurns ≤ fuel → (fsLoadFile fuel v memory a).result = r) := by
  constructor
  · intro hrange fuel
    rw [h.refused hrange]
  · intro hrange hcyclic
    obtain ⟨n, hn, hend⟩ := exists_chain_end hcyclic
    obtain ⟨r, hreports, hresult⟩ := loadClusters_stops memory hend
    refine ⟨r, hreports, ?_⟩
    intro fuel hfuel
    rw [fsLoadFile_accepted (h.accepted hrange)]
    exact hresult fuel (by omega)

def volumeWithFat (fat : Nat → UInt16) : Volume := { volumeWithFile with fat := fat }

def loadedWithFat (fat : Nat → UInt16) : Volume :=
  (volumeWithFat fat).withRootdir ((volumeWithFat fat).bytesAt VOLUME1_ROOTDIR_LBA)

theorem searchEntry_volumeWithFile :
    searchEntry ((loadedWithFat fun _ => 0).dirs VOLUME1_ROOTDIR_ADDRESS) fileNameA
      FAT16_ROOT_ENTRIES = some 0 := by
  decide +kernel

theorem fsGetFileSize_found {root : RootFilesystem} (hloaded : fsLoadRootdir v = .ok w)
    (hroot : w.root = some root) (hspc : ¬ root.spc ≤ 0) (hentries : root.dirEntries ≠ 0)
    (hsearch : searchEntry (w.dirs VOLUME1_ROOTDIR_ADDRESS) name root.dirEntries = some i) :
    fsGetFileSize v name VOLUME1_ROOTDIR_ADDRESS =
      .ok (entrySize (w.dirs VOLUME1_ROOTDIR_ADDRESS) i, w) := by
  rw [fsGetFileSize, if_pos rfl, hloaded]
  dsimp only
  rw [hroot]
  dsimp only
  rw [if_neg hspc, if_neg hentries, hsearch]

theorem located_volumeWithFat (fat : Nat → UInt16) :
    Located (volumeWithFat fat) loadA (loadedWithFat fat) 3 fileNameA (loadedWithFat fat) 1025
      0 where
  checked := rfl
  fileName := rfl
  named := by decide
  short := by decide
  sized := by
    have hsize : entrySize ((loadedWithFat fat).dirs VOLUME1_ROOTDIR_ADDRESS) 0 = 1025 := rfl
    rw [← hsize]
    exact fsGetFileSize_found rfl rfl (by decide) (by decide) searchEntry_volumeWithFile
  fits := by decide
  found := searchEntry_volumeWithFile
  starts := rfl
  loaded := rfl

/-- The chain 3, 4, 5. -/
theorem load_terminates_example :
    ∃ r, Reports (loadedWithFat volumeWithFile.fat) 0 loadA.buffer 3 r ∧
      ∀ fuel, maxTurns ≤ fuel →
        (fsLoadFile fuel (volumeWithFat volumeWithFile.fat) (fun _ => 0) loadA).result = r :=
  (load_terminates (located_volumeWithFat volumeWithFile.fat) fun _ => 0).2 (by decide)
    fun hcyclic => (hcyclic 2).2.2.2 rfl

/-- A chain that goes on between the clusters 3 and 4 for ever, and one that leads from the
cluster 3 to the cluster 0. -/
theorem load_of_corrupt_chains :
    (∀ fuel r, (fsLoadFile fuel (volumeWithFat fun c => if c = 3 then 4 else 3) (fun _ => 0)
        loadA).result ≠ .ok r) ∧
      ∀ fuel, (fsLoadFile (fuel + 2) (volumeWithFat fun _ => 0) (fun _ => 0) loadA).result =
        .error "fsLoadFile: fat[] vector limits.\n" := by
  constructor
  · intro fuel r
    have hcells : ∀ n, clusterAt (fun c => if c = 3 then 4 else 3) 3 n = 3 ∨
        clusterAt (fun c => if c = 3 then 4 else 3) 3 n = 4 := by
      intro n
      rw [clusterAt_eq_iterate]
      induction n with
      | zero => exact .inl rfl
      | succ n ih =>
          rw [Function.iterate_succ_apply']
          rcases ih with h | h
          · rw [h]
            exact .inr rfl
          · rw [h]
            exact .inl rfl
    have hcyclic : Cyclic (fun c => if c = 3 then 4 else 3) 3 := by
      intro n
      rcases hcells n with h | h
      · rw [h]
        exact ⟨⟨by decide, by decide⟩, by decide, by decide, by decide⟩
      · rw [h]
        exact ⟨⟨by decide, by decide⟩, by decide, by decide, by decide⟩
    rw [fsLoadFile_accepted ((located_volumeWithFat _).accepted (by decide))]
    exact loadClusters_cyclic hcyclic r
  · intro fuel
    rw [fsLoadFile_accepted ((located_volumeWithFat _).accepted (by decide))]
    rfl

end Gramado.Fs.LoadTermination
