import Gramado.Fs.LoadFile

/-! The addresses that `fsLoadFile` writes to. -/

namespace Gramado.Fs.LoadBounds

open Fs.Fat16 Fs.LoadFile

def CanRead (v : Volume) (address lba : Nat) : Prop :=
  address = 0 ∨ v.fatBits = 32 ∨ v.fatBits = 12 ∨
    (v.fatBits = 16 ∧ v.sectors ≠ 0 ∧ lba < v.sectors)

def ReadsCluster (v : Volume) (buffer : Nat) (cluster : UInt16) : Prop :=
  checkAddressValidation buffer = true ∧ cluster ≠ 0 ∧ cluster ≤ 0xFFF0 ∧
    CanRead v buffer (clusterLba cluster)

def GoesOn (fat : Nat → UInt16) (cluster : UInt16) : Prop :=
  fat cluster.toNat ≠ 0xFFF7 ∧ fat cluster.toNat ≠ 0xFFFF ∧ fat cluster.toNat ≠ 0xFFF8

/-- The chain from `cluster` on is long enough for the loop to read its sector `n`. -/
def ReadsSector (v : Volume) : Nat → Nat → UInt16 → Prop
  | 0, buffer, cluster => ReadsCluster v buffer cluster
  | n + 1, buffer, cluster =>
      ReadsCluster v buffer cluster ∧ GoesOn v.fat cluster ∧
        ReadsSector v n (buffer + SECTOR_SIZE) (v.fat cluster.toNat)

def clusterAt (fat : Nat → UInt16) (cluster : UInt16) : Nat → UInt16
  | 0 => cluster
  | n + 1 => clusterAt fat (fat cluster.toNat) n

variable {v : Volume} {memory m : Nat → UInt8} {address lba x fuel nreads buffer : Nat}
  {cluster : UInt16}

theorem readLba_canRead (h : readLba v memory address lba = .ok m) : CanRead v address lba := by
  unfold readLba at h
  split at h
  · rename_i hzero
    exact .inl hzero
  split at h
  · rename_i hbits
    exact .inr (hbits.imp_right .inl)
  split at h
  · cases h
  rename_i hbits
  split at h
  · cases h
  rename_i hsectors
  split at h
  · cases h
  · rename_i hlba
    exact .inr (.inr (.inr ⟨not_not.mp hbits, hsectors, not_le.mp hlba⟩))

theorem readLba_frame (h : readLba v memory address lba = .ok m)
    (hx : v.fatBits = 16 → address ≠ 0 → x < address ∨ address + SECTOR_SIZE ≤ x) :
    m x = memory x := by
  unfold readLba at h
  split at h
  · cases h
    rfl
  rename_i hzero
  split at h
  · cases h
    rfl
  split at h
  · cases h
  rename_i hbits
  split at h
  · cases h
  split at h
  · cases h
  · cases h
    have := hx (not_not.mp hbits) hzero
    exact if_neg (by omega)

theorem readLba_read (memory : Nat → UInt8) (hbits : v.fatBits = 16) (haddress : address ≠ 0)
    (h : CanRead v address lba) :
    ∃ m, readLba v memory address lba = .ok m ∧
      ∀ k < SECTOR_SIZE, m (address + k) = v.disk lba k := by
  obtain ⟨hsectors, hlba⟩ : v.sectors ≠ 0 ∧ lba < v.sectors := by
    rcases h with h | h | h | ⟨_, h⟩
    · exact absurd h haddress
    · omega
    · omega
    · exact h
  unfold readLba
  rw [if_neg haddress, if_neg (by omega), if_neg (by omega), if_neg hsectors, if_neg (by omega)]
  refine ⟨_, rfl, ?_⟩
  intro k hk
  rw [if_pos (by omega), Nat.add_sub_cancel_left]

theorem loadClusters_turn (hreads : ReadsCluster v buffer cluster)
    (hread : readLba v memory buffer (clusterLba cluster) = .ok m) :
    loadClusters v (fuel + 1) nreads cluster buffer memory =
      if v.fat cluster.toNat = 0xFFF7 then (.error "fsLoadFile: Bad cluster\n", m)
      else if v.fat cluster.toNat = 0xFFFF ∨ v.fat cluster.toNat = 0xFFF8 then
        if CONFIG_IMAGESIZE_LIMIT_IN_KB < (nreads + 1) / 2 then
          (.error "fsLoadFile: nreads\n", m)
        else (.ok 0, m)
      else
        loadClusters v fuel (nreads + 1) (v.fat cluster.toNat) (buffer + SECTOR_SIZE) m := by
  obtain ⟨hvalid, hzero, hlimit, _⟩ := hreads
  rw [loadClusters, if_neg (by simp [hvalid]), if_neg, hread]
  rintro (h | h)
  · exact hzero h
  · exact absurd hlimit (UInt16.not_le.mpr h)

theorem sector_succ (buffer n : Nat) :
    buffer + SECTOR_SIZE * (n + 1) = buffer + SECTOR_SIZE + SECTOR_SIZE * n := by
  rw [Nat.mul_add, Nat.mul_one, Nat.add_assoc, Nat.add_comm SECTOR_SIZE]

theorem loadClusters_frame
    (h : ∀ n, v.fatBits = 16 → ReadsSector v n buffer cluster → buffer + SECTOR_SIZE * n ≠ 0 →
      x < buffer + SECTOR_SIZE * n ∨ buffer + SECTOR_SIZE * (n + 1) ≤ x) :
    (loadClusters v fuel nreads cluster buffer memory).2 x = memory x := by
  induction fuel generalizing nreads buffer cluster memory with
  | zero => rfl
  | succ fuel ih =>
      by_cases hturn : ∃ m, readLba v memory buffer (clusterLba cluster) = .ok m ∧
          ReadsCluster v buffer cluster
      · obtain ⟨m, hread, hreads⟩ := hturn
        have hm : m x = memory x := readLba_frame hread fun hbits hbuffer => h 0 hbits hreads hbuffer
        rw [loadClusters_turn hreads hread]
        split
        · exact hm
        rename_i hbad
        split
        · split <;> exact hm
        · rename_i hend
          rw [not_or] at hend
          rw [ih, hm]
          intro n hbits hrest hne
          rw [← sector_succ] at hne
          have hframe := h (n + 1) hbits ⟨hreads, ⟨hbad, hend⟩, hrest⟩ hne
          rw [sector_succ, sector_succ buffer (n + 1)] at hframe
          exact hframe
      · rw [loadClusters]
        split
        · rfl
        rename_i hvalid
        split
        · rfl
        rename_i hcluster
        split
        · rfl
        · rename_i m hread
          rw [not_or] at hcluster
          exact absurd ⟨m, hread, by simpa using hvalid, hcluster.1,
            UInt16.not_lt.mp hcluster.2, readLba_canRead hread⟩ hturn

theorem loadClusters_sector {n k : Nat} (hbits : v.fatBits = 16)
    (hreads : ReadsSector v n buffer cluster) (hne : buffer + SECTOR_SIZE * n ≠ 0)
    (hfuel : n < fuel) (hk : k < SECTOR_SIZE) :
    (loadClusters v fuel nreads cluster buffer memory).2 (buffer + SECTOR_SIZE * n + k) =
      v.disk (clusterLba (clusterAt v.fat cluster n)) k := by
  induction n generalizing fuel nreads buffer cluster memory with
  | zero =>
      obtain ⟨fuel, rfl⟩ : ∃ m, fuel = m + 1 := ⟨fuel - 1, by omega⟩
      obtain ⟨m, hread, hm⟩ := readLba_read memory hbits hne hreads.2.2.2
      rw [loadClusters_turn hreads hread, Nat.mul_zero, Nat.add_zero]
      split
      · exact hm k hk
      split
      · split <;> exact hm k hk
      · rw [loadClusters_frame]
        · exact hm k hk
        · intro n _ _ _
          exact .inl (by omega)
  | succ n ih =>
      obtain ⟨hcluster, ⟨hbad, hlast, hend⟩, hrest⟩ := hreads
      obtain ⟨fuel, rfl⟩ : ∃ m, fuel = m + 1 := ⟨fuel - 1, by omega⟩
      have hread : ∃ m, readLba v memory buffer (clusterLba cluster) = .ok m := by
        by_cases hzero : buffer = 0
        · exact ⟨memory, if_pos hzero⟩
        · obtain ⟨m, hread, _⟩ := readLba_read memory hbits hzero hcluster.2.2.2
          exact ⟨m, hread⟩
      obtain ⟨m, hread⟩ := hread
      rw [loadClusters_turn hcluster hread, if_neg hbad, if_neg (not_or.mpr ⟨hlast, hend⟩)]
      rw [sector_succ] at hne ⊢
      exact ih hrest hne (by omega)

/-- The request is accepted: the name has an entry whose size is below the limit. The loop
starts at `cluster`, on the volume `u`. -/
structure Accepted (v : Volume) (a : LoadArgs) (u : Volume) (cluster : UInt16) (name : CString)
    (w : Volume) (fileSize i : Nat) : Prop where
  checked : checkLoad v a = .ok ()
  fileName : a.fileName = some name
  named : name.chars 0 ≠ 0
  short : name.length ≤ 11
  sized : fsGetFileSize v name a.dirAddress = .ok (fileSize, w)
  fits : fileSize < a.limit
  found : searchEntry (w.dirs a.dirAddress) name FAT16_ROOT_ENTRIES = some i
  starts : cluster = entryCluster (w.dirs a.dirAddress) i
  valid : cluster ≠ 0 ∧ cluster ≤ 0xFFF0
  loaded : fsLoadFat w = .ok u

theorem fsLoadFile_accepted {u w : Volume} {a : LoadArgs} {name : CString} {fileSize i : Nat}
    (h : Accepted v a u cluster name w fileSize i) (fuel : Nat) (memory : Nat → UInt8) :
    fsLoadFile fuel v memory a = ⟨(loadClusters u fuel 0 cluster a.buffer memory).1,
        (loadClusters u fuel 0 cluster a.buffer memory).2, u⟩ := by
  have hvalid : ¬ (cluster = 0 ∨ 0xFFF0 < cluster) :=
    not_or.mpr ⟨h.valid.1, UInt16.not_lt.mpr h.valid.2⟩
  rw [h.starts] at hvalid
  have hlimit : ¬ a.limit ≤ fileSize := not_le.mpr h.fits
  rw [fsLoadFile, h.checked, h.fileName]
  dsimp only
  rw [loadNamed, if_neg h.named, if_neg (not_lt.mpr h.short), h.sized]
  dsimp only
  rw [if_neg hlimit, h.found]
  dsimp only
  rw [loadFound, if_neg hvalid, h.loaded, h.starts]

theorem fsLoadFile_cases (v : Volume) (a : LoadArgs) :
    (∃ u cluster name w fileSize i, Accepted v a u cluster name w fileSize i) ∨
      ∀ fuel memory, (fsLoadFile fuel v memory a).memory = memory := by
  by_cases haccepted : ∃ u cluster name w fileSize i, Accepted v a u cluster name w fileSize i
  · exact .inl haccepted
  refine .inr ?_
  intro fuel memory
  unfold fsLoadFile
  split
  · rfl
  rename_i hchecked
  split
  · rfl
  rename_i name hname
  unfold loadNamed
  split
  · rfl
  rename_i hnamed
  split
  · rfl
  rename_i hshort
  split
  · rfl
  rename_i fileSize w hsized
  split
  · rfl
  rename_i hfits
  split
  · rfl
  rename_i i hfound
  unfold loadFound
  dsimp only
  split
  · rfl
  rename_i hvalid
  split
  · rfl
  rename_i u hloaded
  rw [not_or] at hvalid
  exact absurd ⟨u, _, name, w, fileSize, i, hchecked, hname, hnamed, not_lt.mp hshort, hsized,
    not_le.mp hfits, hfound, rfl, ⟨hvalid.1, UInt16.not_lt.mp hvalid.2⟩, hloaded⟩ haccepted

/-- However long the load runs, it leaves every byte outside of the buffer as it was. -/
def WritesInside (v : Volume) (a : LoadArgs) : Prop :=
  ∀ fuel memory x, x < a.buffer ∨ a.buffer + a.limit ≤ x →
    (fsLoadFile fuel v memory a).memory x = memory x

def ChainFits (u : Volume) (a : LoadArgs) (cluster : UInt16) : Prop :=
  u.fatBits = 16 → ∀ n, ReadsSector u n a.buffer cluster → a.buffer + SECTOR_SIZE * n ≠ 0 →
    SECTOR_SIZE * (n + 1) ≤ a.limit

/-- A load stays inside its buffer exactly if it is refused or the chain fits the buffer. -/
theorem writesInside_iff (v : Volume) (a : LoadArgs) :
    WritesInside v a ↔ ∀ u cluster name w fileSize i,
      Accepted v a u cluster name w fileSize i → ChainFits u a cluster := by
  constructor
  · intro hinside u cluster name w fileSize i haccepted hbits n hreads hne
    by_contra hlimit
    have hwritten : ∀ memory : Nat → UInt8,
        memory (a.buffer + SECTOR_SIZE * n + 511) =
          u.disk (clusterLba (clusterAt u.fat cluster n)) 511 := by
      intro memory
      have hframe := hinside (n + 1) memory (a.buffer + SECTOR_SIZE * n + 511) (.inr (by
        unfold SECTOR_SIZE at hlimit ⊢
        omega))
      rw [fsLoadFile_accepted haccepted] at hframe
      rw [← hframe]
      exact loadClusters_sector hbits hreads hne (Nat.lt_succ_self n) (by decide)
    have hzero := hwritten fun _ => 0
    have hone := hwritten fun _ => 1
    rw [← hzero] at hone
    exact absurd hone (by decide)
  · intro hfits fuel memory x hx
    rcases fsLoadFile_cases v a with ⟨u, cluster, name, w, fileSize, i, haccepted⟩ | hsame
    · rw [fsLoadFile_accepted haccepted]
      apply loadClusters_frame
      intro n hbits hreads hne
      have hlimit := hfits u cluster name w fileSize i haccepted hbits n hreads hne
      rcases hx with hx | hx
      · exact .inl (by omega)
      · exact .inr (by omega)
    · rw [hsame]

def volumeWithFile : Volume where
  disk lba offset :=
    if lba = VOLUME1_ROOTDIR_LBA then
      if offset = 0 then 65 else if offset < 11 then 32 else if offset = 26 then 3
      else if offset = 28 then 1 else if offset = 29 then 4 else 0
    else 7
  sectors := 65536
  fatBits := 16
  fat c := if c = 3 then 4 else if c = 4 then 5 else if c = 5 then 0xFFF8 else 0
  fatCacheLoaded := true
  fatCacheSaved := true
  dirs _ _ := 0
  clustersToSave _ := 0
  beforeList := 0
  root := some ⟨true, 1234, 1, FAT16_ROOT_ENTRIES⟩

def fileNameA : CString where
  chars i := if i = 0 then 65 else if i < 11 then 32 else 0
  length := 11
  terminated := by decide
  nonzero := by decide

/-- The request of `do_read_file_from_disk`, whose buffer has the size of the file and 8 bytes
more. -/
def loadA : LoadArgs where
  fatAddress := VOLUME1_FAT_ADDRESS
  dirAddress := VOLUME1_ROOTDIR_ADDRESS
  dirEntries := FAT16_ROOT_ENTRIES
  fileName := some fileNameA
  buffer := 0x400000
  bufferSizeInBytes := 1025 + 8

theorem load_behind_buffer :
    (fsLoadFile 3 volumeWithFile (fun _ => 0) loadA).memory (0x400000 + 1033) = 7 ∧
      ¬ WritesInside volumeWithFile loadA := by
  have hwritten : (fsLoadFile 3 volumeWithFile (fun _ => 0) loadA).memory (0x400000 + 1033) = 7 := by
    decide +kernel
  refine ⟨hwritten, ?_⟩
  intro hinside
  rw [hinside 3 (fun _ => 0) (0x400000 + 1033) (by decide)] at hwritten
  exact absurd hwritten (by decide)

end Gramado.Fs.LoadBounds
