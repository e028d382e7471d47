import Gramado.Boot.Directories

/-! When the boot loader finds a file by its path. -/

namespace Gramado.Boot.LoadPath

open Library.CheckedRead (ok_bind)
open Fs.NameLookup (dot space slash)
open Fs.ShortName (padTo length_padTo)
open Boot.Loader Boot.Sectors Boot.Directories

def pathText (names : List (List UInt8)) (stem ext : List UInt8) : List UInt8 :=
  names.flatMap (slash :: ·) ++ lastLevel stem ext

variable {k : Nat} {c : UInt16} {name : List UInt8}

section Path

variable {disk : Disk} {m : Machine} {address : UInt32} {names : List (List UInt8)}
  {stem ext : List UInt8} {css : List (List UInt16)} {dir : Directory}

theorem countSlashes_eq {text : List UInt8} (h : 0 ∉ text) (n : Nat) (hn : text.length ≤ n) :
    countSlashes n (text ++ [0]) = .ok (text.count slash) := by
  induction text generalizing n with
  | nil =>
      cases n with
      | zero => rfl
      | succ n => rfl
  | cons c text ih =>
      obtain ⟨hc, htext⟩ := List.ne_and_not_mem_of_not_mem_cons h
      obtain ⟨n, rfl⟩ : ∃ k, n = k + 1 := ⟨n - 1, by simp at hn; omega⟩
      have hcount : (if c = slash then 1 else 0) + text.count slash = (c :: text).count slash := by
        rw [List.count_cons, Nat.add_comm]
        simp
      rw [List.cons_append, countSlashes, deref, ok_bind, if_neg (Ne.symm hc),
        List.drop_succ_cons, List.drop_zero, ih htext n (by simpa using hn), ok_bind, hcount]

theorem plain_count {w : List UInt8} (h : ∀ c ∈ w, Plain c) : w.count slash = 0 ∧ 0 ∉ w := by
  constructor
  · rw [List.count_eq_zero]
    intro hin
    exact (h slash hin).2.2.2 rfl
  · intro hin
    exact absurd (h 0 hin).1 (by decide)

def pathBody (names : List (List UInt8)) (stem ext : List UInt8) : List UInt8 :=
  names.flatMap (slash :: ·) ++ slash :: (stem ++ dot :: ext)

theorem pathText_eq : pathText names stem ext = pathBody names stem ext ++ [0] := by
  simp [pathText, pathBody, lastLevel]

theorem pathBody_facts (hnames : ∀ w ∈ names, Component 8 w) (hstem : Component 8 stem)
    (hext : Component 3 ext) : 0 ∉ pathBody names stem ext ∧
      (pathBody names stem ext).count slash = names.length + 1 ∧
        (pathBody names stem ext).length ≤ 9 * names.length + 13 := by
  obtain ⟨hstemCount, hstemZero⟩ := plain_count hstem.plain
  obtain ⟨hextCount, hextZero⟩ := plain_count hext.plain
  have hstemLength := hstem.length
  have hextLength := hext.length
  induction names with
  | nil =>
      refine ⟨?_, ?_, ?_⟩
      · simp only [pathBody, List.flatMap_nil, List.nil_append, List.mem_cons, List.mem_append,
          not_or]
        exact ⟨by decide, hstemZero, by decide, hextZero⟩
      · simp only [pathBody, List.flatMap_nil, List.nil_append, List.count_cons_self,
          List.count_append, hstemCount, List.length_nil]
        rw [List.count_cons_of_ne (by decide), hextCount]
      · simp only [pathBody, List.flatMap_nil, List.nil_append, List.length_cons,
          List.length_append, List.length_nil]
        omega
  | cons name names ih =>
      obtain ⟨hname, hnames⟩ := List.forall_mem_cons.mp hnames
      obtain ⟨hcount, hzero⟩ := plain_count hname.plain
      obtain ⟨hrestZero, hrestCount, hrestLength⟩ := ih hnames
      have hbody : pathBody (name :: names) stem ext =
          slash :: (name ++ pathBody names stem ext) := by
        simp [pathBody]
      have hnameLength := hname.length
      rw [hbody, List.length_cons]
      refine ⟨?_, ?_, ?_⟩
      · simp only [List.mem_cons, List.mem_append, not_or]
        exact ⟨by decide, hzero, hrestZero⟩
      · rw [List.count_cons_self, List.count_append, hcount, hrestCount]
        omega
      · rw [List.length_cons, List.length_append]
        omega

theorem fsPathCount_eq (hnames : ∀ w ∈ names, Component 8 w) (hstem : Component 8 stem)
    (hext : Component 3 ext) (hshort : names.length ≤ 200) :
    fsPathCount (pathText names stem ext) = .ok (names.length + 1) := by
  obtain ⟨hzero, hcount, hlength⟩ := pathBody_facts hnames hstem hext
  rw [fsPathCount, pathText_eq, countSlashes_eq hzero _ (by omega), hcount]

theorem room_length (hloaded : Loaded disk m) (hroom : Room m k) : k ≤ 200 := by
  obtain ⟨hstart, hend⟩ := heap_pointer_range hloaded
  have hbytes := hroom.bytes
  omega

theorem fsLoadPath_eq (address : UInt32) (hloaded : Loaded disk m) (hroom : Room m names.length)
    (hnames : ∀ w ∈ names, Component 8 w) (hstem : Component 8 stem) (hext : Component 3 ext)
    (fuel : Nat) : fsLoadPath disk fuel address (pathText names stem ext) m =
      if address = 0 then .ok (-1, m)
      else walkLevels disk fuel address (names.length + 1) (pathText names stem ext)
        FAT16_ROOTDIR_ADDRESS m := by
  obtain ⟨tail, htail⟩ : ∃ tail, pathText names stem ext = slash :: tail := by
    cases names with
    | nil => exact ⟨_, rfl⟩
    | cons name names => exact ⟨_, rfl⟩
  rw [fsLoadPath, fsPathCount_eq hnames hstem hext (room_length hloaded hroom), htail, deref,
    ok_bind, if_neg (by decide), if_neg (by simp), ok_bind, if_neg (by omega)]

def Absent (disk : Disk) (dir : Directory) (name : List UInt8) : Prop :=
  ∀ e, ¬ Entry disk dir name e

/-- A file with its clusters, of which an empty one has none. -/
structure FileAt (disk : Disk) (dir : Directory) (name : List UInt8) (e : Nat)
    (cs : List UInt16) : Prop where
  entry : Entry disk dir name e
  kind : dirAttribute disk dir e &&& 16 = 0
  chain : (dirCluster disk dir e = 0 ∧ cs = []) ∨ Chain disk (dirCluster disk dir e) cs

def Fails (disk : Disk) (m : Machine) (address : UInt32) (path : List UInt8) : Prop :=
  ∃ fuel m', fsLoadPath disk fuel address path m = .ok (-1, m')

/-- The call returns `0`. Behind those of the directories the sectors of the file have been read, to
the address and in their order, and the memory has their bytes. -/
def Loads (disk : Disk) (m : Machine) (address : UInt32) (path : List UInt8)
    (css : List (List UInt16)) (cs : List UInt16) : Prop :=
  ∃ fuel m', fsLoadPath disk fuel address path m = .ok (0, m') ∧
    m'.reads = m.reads ++ (heapReads m.g_heap_pointer css ++ stored address cs) ∧
      ∀ x < 512 * cs.length, m'.memory (address + UInt32.ofNat x) = chainByte disk cs x

structure Loadable (disk : Disk) (m : Machine) (address : UInt32) (dir : Directory)
    (stem ext : List UInt8) (e : Nat) (cs : List UInt16) : Prop where
  destination : address ≠ 0
  short : stem.length ≤ 6
  extension : ext.length = 3
  first : firstNamed disk dir (eleven stem ext) = some e
  followed : Followed disk m address cs

section Outcome

variable {name : List UInt8} {cs : List UInt16} {e : Nat}

theorem dirByte_outside (h : 512 * dir.length ≤ e) : dirByte disk dir e = 0 := by
  rw [dirByte, if_neg (by omega)]

theorem named_live (hname : dirName disk dir e = name) {c : UInt8} (hhead : name.headD 0 = c)
    (hc : Plain c) : Live disk dir e ∧ e < 16 * dir.length := by
  have hbyte : dirByte disk dir (32 * e) = c := by
    rw [← hhead, ← hname, dirName_head]
  refine ⟨⟨?_, ?_⟩, ?_⟩
  · rw [hbyte]
    rintro rfl
    exact absurd hc.1 (by decide)
  · rw [hbyte]
    rintro rfl
    exact absurd hc.2.1 (by decide)
  · by_contra hout
    rw [dirByte_outside (by omega)] at hbyte
    rw [← hbyte] at hc
    exact absurd hc.1 (by decide)

theorem component_plain {max : Nat} (h : Component max name) (rest : List UInt8) :
    ∃ c, (name ++ rest).headD 0 = c ∧ Plain c := by
  obtain ⟨c, tail, rfl⟩ := List.exists_cons_of_ne_nil h.nonempty
  exact ⟨c, rfl, h.plain c List.mem_cons_self⟩

theorem absent_cluster (hwf : WellFormed disk dir) (habsent : Absent disk dir name)
    (hfirst : firstNamed disk dir name = some e) {c : UInt8} (hhead : name.headD 0 = c)
    (hc : Plain c) : dirCluster disk dir e = 0 := by
  obtain ⟨-, hname⟩ := firstNamed_lt hfirst
  obtain ⟨hlive, hinside⟩ := named_live hname hhead hc
  apply hwf.labels e hlive
  by_contra hkind
  exact habsent e ⟨hinside, hname, hkind⟩

theorem file_cluster (hwf : WellFormed disk dir) (hfile : FileAt disk dir name e cs)
    {e' : Nat} (hfirst : firstNamed disk dir name = some e') {c : UInt8}
    (hhead : name.headD 0 = c) (hc : Plain c) : e' = e ∨ dirCluster disk dir e' = 0 := by
  obtain ⟨-, hname⟩ := firstNamed_lt hfirst
  obtain ⟨hlive, -⟩ := named_live hname hhead hc
  by_cases hkind : Label disk dir e'
  · exact .inr (hwf.labels e' hlive hkind)
  · exact .inl (hwf.unique e' e (hname.trans hfile.entry.name.symm) hlive hkind hfile.entry.kind)

theorem chain_unique {cs' : List UInt16} (h : Chain disk c cs) (h' : Chain disk c cs') :
    cs = cs' := by
  have hexclusive {c : UInt16} {cs : List UInt16} (hmark : 0xFFF8 ≤ fatWord disk c)
      (hnext : Chain disk (fatWord disk c) cs) : False := by
    obtain ⟨rest, rfl⟩ := chain_head hnext
    have hhigh := (chain_data hnext _ List.mem_cons_self).2
    exact absurd (UInt16.le_trans hmark hhigh) (by decide)
  induction h generalizing cs' with
  | last _ hmark =>
      cases h' with
      | last _ _ => rfl
      | next _ hnext => exact (hexclusive hmark hnext).elim
  | next _ hrest ih =>
      cases h' with
      | last _ hmark => exact (hexclusive hmark hrest).elim
      | next _ hnext => rw [ih hnext]

theorem chain_behind {d : UInt16} (h : Chain disk c cs) (hd : d ∈ cs) :
    ∃ ds, Chain disk d ds ∧ ds.length ≤ cs.length := by
  induction h with
  | @last c hc hmark =>
      obtain rfl := List.mem_singleton.mp hd
      exact ⟨[d], .last hc hmark, Nat.le_refl _⟩
  | @next c cs hc hrest ih =>
      rcases List.mem_cons.mp hd with rfl | hd
      · exact ⟨d :: cs, .next hc hrest, Nat.le_refl _⟩
      · obtain ⟨ds, hds, hlength⟩ := ih hd
        exact ⟨ds, hds, Nat.le_succ_of_le hlength⟩

theorem chain_nodup (h : Chain disk c cs) : cs.Nodup := by
  induction h with
  | last _ _ => exact List.nodup_singleton _
  | @next c cs hc hrest ih =>
      refine List.nodup_cons.mpr ⟨fun hin => ?_, ih⟩
      obtain ⟨ds, hds, hlength⟩ := chain_behind hrest hin
      rw [chain_unique hds (.next hc hrest), List.length_cons] at hlength
      omega

theorem chain_length (h : Chain disk c cs) : cs.length ≤ 65536 := by
  have hnodup := (chain_nodup h).map UInt16.toFin_injective
  have hcard := hnodup.length_le_card
  rwa [List.length_map, Fintype.card_fin] at hcard

end Outcome

section Held

variable {cs : List UInt16} {e : Nat} {m' : Machine} {src : UInt32}

theorem nonzero_status {α : Type} {m₁ m₂ : α} :
    ¬ (Except.ok (-1, m₁) : Except Stop (Int × α)) = .ok (0, m₂) := by
  intro h
  cases (Prod.mk.inj (Except.ok.inj h)).1

theorem loads_iff (hwf : WellFormed disk dir) (hfile : FileAt disk dir (eleven stem ext) e cs)
    (hstem : Component 8 stem) (hext : Component 3 ext) (hwalked : Walked disk m m' src dir css 0)
    (hcss : ∀ cs ∈ css, cs.length ≤ 32)
    (hpath : ∀ fuel, fsLoadPath disk fuel address (pathText names stem ext) m =
      if address = 0 then .ok (-1, m)
      else if ∀ cs ∈ css, cs.length ≤ fuel then
        walkLevels disk fuel address 1 (lastLevel stem ext) src m'
      else .error .hang) :
    Loads disk m address (pathText names stem ext) css cs ↔
      Loadable disk m address dir stem ext e cs := by
  have hfat : Followed disk m' address cs ↔ Followed disk m address cs := by
    apply followed_congr
    intro x hx
    apply hwalked.below x
    rw [UInt32.lt_iff_toNat_lt] at hx ⊢
    have hs : BL_HEAP_START.toNat = 0x1100000 := rfl
    have hf : (0xC20000 : UInt32).toNat = 0xC20000 := rfl
    omega
  constructor
  · rintro ⟨fuel, m₁, hload, hreads, -⟩
    rw [hpath] at hload
    split_ifs at hload with haddress hfuel
    · exact absurd hload nonzero_status
    · rw [walk_last _ hwalked.shown hwalked.loaded hwalked.source haddress hstem hext] at hload
      split_ifs at hload with hseven hthree
      · exact absurd hload nonzero_status
      · obtain ⟨c, hhead, hc⟩ := component_plain hstem (List.replicate (8 - stem.length) space ++
          padTo 3 ext)
        rw [← List.append_assoc] at hhead
        cases hfirst : firstNamed disk dir (eleven stem ext) with
        | none =>
            rw [hfirst] at hload
            cases hload
        | some e' =>
            rw [hfirst] at hload
            dsimp only at hload
            split_ifs at hload with hlimits
            · exact absurd hload nonzero_status
            · rcases file_cluster hwf hfile hfirst hhead hc with rfl | hzero
              · have hchain : Chain disk (dirCluster disk dir e') cs :=
                  hfile.chain.resolve_left fun h => hlimits (.inl h.1)
                obtain ⟨rest, rfl⟩ := chain_head hchain
                refine ⟨haddress, by omega, hthree, hfirst, hfat.mp ?_⟩
                cases hok : loadChain disk fuel m' address (dirCluster disk dir e') with
                | error e =>
                    rw [hok] at hload
                    cases hload
                | ok m₂ =>
                    rw [hok] at hload
                    obtain ⟨-, rfl⟩ := Prod.mk.inj (Except.ok.inj hload)
                    apply followed_of_loadChain hok
                    rw [hreads, hwalked.reads, List.append_assoc]
              · exact absurd (.inl hzero) hlimits
  · rintro ⟨haddress, hshort, hthree, hfirst, hfollowed⟩
    have hfollowed := hfat.mpr hfollowed
    have hchain : Chain disk (dirCluster disk dir e) cs := by
      apply hfile.chain.resolve_left
      rintro ⟨-, rfl⟩
      exact hfollowed
    have hlength := chain_length hchain
    obtain ⟨rest, rfl⟩ := chain_head hchain
    obtain ⟨hdata, hrest⟩ := List.forall_mem_cons.mp (chain_data hchain)
    refine ⟨32 + (dirCluster disk dir e :: rest).length,
      storeAll disk m' address (dirCluster disk dir e :: rest), ?_, ?_, ?_⟩
    · have hfuel : ∀ cs ∈ css, cs.length ≤ 32 + (dirCluster disk dir e :: rest).length :=
        fun cs hcs => Nat.le_add_right_of_le (hcss cs hcs)
      rw [hpath, if_neg haddress, if_pos hfuel,
        walk_last _ hwalked.shown hwalked.loaded hwalked.source haddress hstem hext,
        if_neg (by omega), if_pos hthree, hfirst]
      dsimp only
      rw [if_neg (dataCluster_limits hdata), loadChain_followed hrest hfollowed,
        if_pos (Nat.le_add_left _ _)]
      rfl
    · obtain ⟨-, -, -, -, -, hreads⟩ := storeAll_fields disk m' address
        (dirCluster disk dir e :: rest)
      rw [hreads, hwalked.reads, List.append_assoc]
    · intro x hx
      have hoffset : (address + UInt32.ofNat x - address).toNat = x := by
        rw [UInt32.add_comm, UInt32.add_sub_cancel, UInt32.toNat_ofNat',
          Nat.mod_eq_of_lt (by omega)]
      rw [storeAll_memory (by omega), hoffset, if_pos hx]

theorem fails_iff (hstem : Component 8 stem) (hext : Component 3 ext)
    (hwf : WellFormed disk dir) (habsent : Absent disk dir (eleven stem ext))
    (hwalked : Walked disk m m' src dir css 0) (hcss : ∀ cs ∈ css, cs.length ≤ 32)
    (hpath : ∀ fuel, fsLoadPath disk fuel address (pathText names stem ext) m =
      if address = 0 then .ok (-1, m)
      else if ∀ cs ∈ css, cs.length ≤ fuel then
        walkLevels disk fuel address 1 (lastLevel stem ext) src m'
      else .error .hang) :
    Fails disk m address (pathText names stem ext) ↔ address = 0 ∨ 7 ≤ stem.length ∨
      (ext.length = 3 ∧ firstNamed disk dir (eleven stem ext) ≠ none) := by
  obtain ⟨c, hhead, hc⟩ := component_plain hstem (List.replicate (8 - stem.length) space ++
    padTo 3 ext)
  rw [← List.append_assoc] at hhead
  by_cases haddress : address = 0
  · refine ⟨fun _ => .inl haddress, fun _ => ⟨0, m, ?_⟩⟩
    rw [hpath, if_pos haddress]
  · have hlast (fuel : Nat) := walk_last fuel hwalked.shown hwalked.loaded hwalked.source
      haddress hstem hext
    constructor
    · rintro ⟨fuel, m₁, hload⟩
      rw [hpath, if_neg haddress] at hload
      split_ifs at hload with hfuel
      rw [hlast] at hload
      split_ifs at hload with hseven hthree
      · exact .inr (.inl hseven)
      · refine .inr (.inr ⟨hthree, fun hnone => ?_⟩)
        rw [hnone] at hload
        cases hload
    · intro h
      refine ⟨32, m', ?_⟩
      rw [hpath, if_neg haddress, if_pos hcss, hlast]
      rcases h with h | hseven | ⟨hthree, hfirst⟩
      · exact absurd h haddress
      · rw [if_pos hseven]
      · obtain ⟨e, he⟩ := Option.ne_none_iff_exists'.mp hfirst
        have hlimits : dirCluster disk dir e = 0 ∨ dirCluster disk dir e > 0xFFF0 :=
          .inl (absent_cluster hwf habsent he hhead hc)
        rw [he, if_pos hthree]
        dsimp only
        rw [if_pos hlimits]
        exact ite_self _

theorem walk_absent (hname : Component 8 name) (hwf : WellFormed disk dir)
    (habsent : Absent disk dir (padTo 11 name)) (hwalked : Walked disk m m' src dir css (k + 1))
    (fuel n : Nat) (p : List UInt8) :
    walkLevels disk fuel address (n + 1) (slash :: (name ++ slash :: p)) src m' =
      if firstNamed disk dir (padTo 11 name) = none then .error .hang
      else .ok (-1, allocated m') := by
  obtain ⟨c, hhead, hc⟩ := component_plain hname (List.replicate (11 - name.length) space)
  have hbuffer := buffer_toNat hwalked.loaded
  have hdst : m'.g_heap_pointer + MMBLOCK_HEADER_SIZE ≠ 0 := by
    intro heq
    rw [heq] at hbuffer
    have hz : (0 : UInt32).toNat = 0 := rfl
    omega
  rw [walkLevels, deref, ok_bind, if_neg (by simp), List.drop_succ_cons, List.drop_zero,
    scanLevel_directory hname, loadDirectory, malloc_room hwalked.loaded hwalked.room, ok_bind]
  dsimp only
  rw [if_neg hdst, fsLoadFile_eq (allocated_shows hwalked.shown)
    (allocated_status hwalked.loaded) (length_padTo (Nat.le_trans hname.length (by decide)))
    (padTo_head hname) hdst hwalked.source]
  cases hfirst : firstNamed disk dir (padTo 11 name) with
  | none => rfl
  | some e =>
      dsimp only
      rw [if_pos (.inl (absent_cluster hwf habsent hfirst hhead hc)), if_neg (by simp)]
      rfl

end Held

theorem leads_size {start : Directory} (h : Leads disk start names css dir) :
    ∀ cs ∈ css, cs.length ≤ 32 := by
  induction h with
  | here _ => simp
  | down hclear _ ih => exact List.forall_mem_cons.mpr ⟨hclear.size, ih⟩

variable (disk m address) in
theorem file_outcome (hbooted : Booted disk m) (hnames : ∀ w ∈ names, Component 8 w)
    (hstem : Component 8 stem) (hext : Component 3 ext) (hroom : Room m names.length)
    (hleads : Leads disk rootDirectory names css dir) (hwf : WellFormed disk dir) :
    (∀ e cs, FileAt disk dir (eleven stem ext) e cs →
      (Loads disk m address (pathText names stem ext) css cs ↔
        Loadable disk m address dir stem ext e cs)) ∧
    (Absent disk dir (eleven stem ext) →
      (Fails disk m address (pathText names stem ext) ↔ address = 0 ∨ 7 ≤ stem.length ∨
        (ext.length = 3 ∧ firstNamed disk dir (eleven stem ext) ≠ none))) := by
  have hloaded := hbooted.toLoaded
  obtain ⟨m', src, hwalked, hwalk⟩ := walk_leads address (j := 0) hleads
    hbooted.rootdir hloaded (by decide) hroom hnames
  have hpath (fuel : Nat) : fsLoadPath disk fuel address (pathText names stem ext) m =
      if address = 0 then .ok (-1, m)
      else if ∀ cs ∈ css, cs.length ≤ fuel then
        walkLevels disk fuel address 1 (lastLevel stem ext) src m'
      else .error .hang := by
    rw [fsLoadPath_eq address hloaded hroom hnames hstem hext, pathText, lastLevel, hwalk]
  exact ⟨fun e cs hfile => loads_iff hwf hfile hstem hext hwalked (leads_size hleads) hpath,
    fun habsent => fails_iff hstem hext hwf habsent hwalked (leads_size hleads) hpath⟩

variable (disk m address) in
theorem directory_outcome {before behind : List (List UInt8)} (hbooted : Booted disk m)
    (hnames : ∀ w ∈ before ++ name :: behind, Component 8 w) (hstem : Component 8 stem)
    (hext : Component 3 ext) (hroom : Room m (before ++ name :: behind).length)
    (hleads : Leads disk rootDirectory before css dir) (hwf : WellFormed disk dir)
    (habsent : Absent disk dir (padTo 11 name)) :
    Fails disk m address (pathText (before ++ name :: behind) stem ext) ↔
      address = 0 ∨ firstNamed disk dir (padTo 11 name) ≠ none := by
  have hloaded := hbooted.toLoaded
  have hstart := fsLoadPath_eq address hloaded hroom hnames hstem hext
  obtain ⟨hbefore, hrest⟩ := List.forall_mem_append.mp hnames
  obtain ⟨hname, -⟩ := List.forall_mem_cons.mp hrest
  rw [List.length_append, List.length_cons] at hroom
  obtain ⟨m', src, hwalked, hwalk⟩ := walk_leads address hleads
    hbooted.rootdir hloaded (by decide) hroom hbefore
  obtain ⟨p, hp⟩ : ∃ p, behind.flatMap (slash :: ·) ++ lastLevel stem ext = slash :: p := by
    cases behind with
    | nil => exact ⟨_, rfl⟩
    | cons w behind => exact ⟨_, rfl⟩
  have htext : pathText (before ++ name :: behind) stem ext =
      before.flatMap (slash :: ·) ++ slash :: (name ++ slash :: p) := by
    rw [pathText, List.flatMap_append, List.flatMap_cons, List.append_assoc, List.append_assoc,
      hp, List.cons_append]
  have hpath (fuel : Nat) : fsLoadPath disk fuel address
      (pathText (before ++ name :: behind) stem ext) m = if address = 0 then .ok (-1, m)
        else if ∀ cs ∈ css, cs.length ≤ fuel then
          if firstNamed disk dir (padTo 11 name) = none then .error .hang
          else .ok (-1, allocated m')
        else .error .hang := by
    rw [hstart fuel, htext, List.length_append, List.length_cons, Nat.add_assoc, hwalk,
      walk_absent hname hwf habsent hwalked]
  constructor
  · rintro ⟨fuel, m₁, hload⟩
    rw [hpath] at hload
    split_ifs at hload with haddress hfuel hfirst
    · exact .inl haddress
    · exact .inr hfirst
  · intro h
    by_cases haddress : address = 0
    · exact ⟨0, m, by rw [hpath, if_pos haddress]⟩
    · refine ⟨32, allocated m', ?_⟩
      rw [hpath, if_neg haddress, if_pos (leads_size hleads), if_neg (h.resolve_left haddress)]

/-- When `fs_load_path` does what it is for, where the loader finds the directories: it loads the
file exactly if the file is loadable, and without a file or a directory of a name it returns `-1`
exactly if it refuses the path before it looks for the name, or if the first entry with the name
is a label or a part of a long name. Otherwise it looks for the name without an end, or reads behind
the end of the path. -/
theorem fs_load_path_iff (disk : Disk) (m : Machine) (address : UInt32)
    (names : List (List UInt8)) (stem ext : List UInt8) (hbooted : Booted disk m)
    (hnames : ∀ w ∈ names, Component 8 w) (hstem : Component 8 stem) (hext : Component 3 ext)
    (hroom : Room m names.length) :
    (∀ css dir, Leads disk rootDirectory names css dir → WellFormed disk dir →
      (∀ e cs, FileAt disk dir (eleven stem ext) e cs →
        (Loads disk m address (pathText names stem ext) css cs ↔
          Loadable disk m address dir stem ext e cs)) ∧
      (Absent disk dir (eleven stem ext) →
        (Fails disk m address (pathText names stem ext) ↔ address = 0 ∨ 7 ≤ stem.length ∨
          (ext.length = 3 ∧ firstNamed disk dir (eleven stem ext) ≠ none)))) ∧
      ∀ before name behind css dir, names = before ++ name :: behind →
        Leads disk rootDirectory before css dir → WellFormed disk dir →
          Absent disk dir (padTo 11 name) →
            (Fails disk m address (pathText names stem ext) ↔ address = 0 ∨
              firstNamed disk dir (padTo 11 name) ≠ none) := by
  constructor
  · intro css dir hleads hwf
    exact file_outcome disk m address hbooted hnames hstem hext hroom hleads hwf
  · rintro before name behind css dir rfl hleads hwf habsent
    exact directory_outcome disk m address hbooted hnames hstem hext hroom hleads hwf habsent

def boot (disk : Disk) : Machine where
  memory x :=
    if (x - FAT16_FAT_ADDRESS).toNat < 65536 then
      disk (FAT16_FAT_LBA + (x - FAT16_FAT_ADDRESS).toNat / 512)
        ((x - FAT16_FAT_ADDRESS).toNat % 512)
    else if (x - FAT16_ROOTDIR_ADDRESS).toNat < 16384 then
      dirByte disk rootDirectory (x - FAT16_ROOTDIR_ADDRESS).toNat
    else 0
  reads := []
  g_fat16_root_status := true
  g_fat16_fat_status := true
  g_heap_pointer := BL_HEAP_START
  g_available_heap := 0x1F7FF0
  last_valid := BL_HEAP_START
  last_size := 0
  mmblockCount := 0

theorem boot_booted (disk : Disk) : Booted disk (boot disk) := by
  have hfat : FAT16_FAT_ADDRESS.toNat = 0xC00000 := rfl
  have hroot : FAT16_ROOTDIR_ADDRESS.toNat = 0xF00000 := rfl
  have hstart : BL_HEAP_START.toNat = 0x1100000 := rfl
  have hend : BL_HEAP_END.toNat = 0x12F7FF0 := rfl
  have havailable : (0x1F7FF0 : UInt32).toNat = 0x1F7FF0 := rfl
  have hheap : BL_HEAP_START.toNat + (0x1F7FF0 : UInt32).toNat = BL_HEAP_END.toNat := by
    omega
  refine ⟨⟨?_, ⟨rfl, rfl⟩, UInt32.le_refl _, hheap, ?_⟩, ?_⟩
  · intro x hx
    have hoffset : (FAT16_FAT_ADDRESS + UInt32.ofNat x - FAT16_FAT_ADDRESS).toNat = x := by
      rw [UInt32.add_comm, UInt32.add_sub_cancel, UInt32.toNat_ofNat', Nat.mod_eq_of_lt (by omega)]
    simp only [boot, hoffset, hx, if_true]
  · intro x hlow hhigh
    have hlow : 0x1100000 ≤ x.toNat := UInt32.le_iff_toNat_le.mp hlow
    have hhigh : x.toNat < 0x12F7FF0 := UInt32.lt_iff_toNat_lt.mp hhigh
    have hnotFat : ¬ (x - FAT16_FAT_ADDRESS).toNat < 65536 := by
      rw [UInt32.toNat_sub, hfat]
      omega
    have hnotRoot : ¬ (x - FAT16_ROOTDIR_ADDRESS).toNat < 16384 := by
      rw [UInt32.toNat_sub, hroot]
      omega
    simp only [boot, hnotFat, hnotRoot, if_false]
  · intro x hx
    have hoffset : (FAT16_ROOTDIR_ADDRESS + UInt32.ofNat x - FAT16_ROOTDIR_ADDRESS).toNat = x := by
      rw [UInt32.add_comm, UInt32.add_sub_cancel, UInt32.toNat_ofNat', Nat.mod_eq_of_lt (by omega)]
    have hnotFat :
        ¬ (FAT16_ROOTDIR_ADDRESS + UInt32.ofNat x - FAT16_FAT_ADDRESS).toNat < 65536 := by
      rw [UInt32.toNat_sub, UInt32.toNat_add, hfat, hroot, UInt32.toNat_ofNat']
      omega
    simp only [boot, hoffset, hnotFat, hx, if_false, if_true]

theorem component_file : Component 8 [75, 69, 82, 78, 69, 76] ∧ Component 3 [66, 73, 78] := by
  refine ⟨⟨by simp, by simp, ?_⟩, ⟨by simp, by simp, ?_⟩⟩
  · simp [Plain]
    decide
  · simp [Plain]
    decide

def kernelDisk : Disk := fun lba i =>
  if lba = 559 then
    [75, 69, 82, 78, 69, 76, 32, 32, 66, 73, 78, 32, 0, 0, 0, 0,
      0, 0, 0, 0, 0, 0, 0, 0, 0, 0, 2, 0, 0, 2, 0, 0].getD i 0
  else if lba = 67 ∧ (i = 4 ∨ i = 5) then 0xFF
  else 0

theorem kernelDisk_behind {x : Nat} (h : 32 ≤ x) : dirByte kernelDisk rootDirectory x = 0 := by
  by_cases hx : x / 512 < 32
  · have hlba : rootDirectory.getD (x / 512) 0 = 559 + x / 512 := by
      simp [rootDirectory, List.getD_eq_getElem?_getD, hx, FAT16_ROOTDIR_LBA]
    have hlength : rootDirectory.length = 32 := by
      simp [rootDirectory]
    rw [dirByte, hlength, if_pos hx, hlba, kernelDisk]
    split_ifs
    · rw [List.getD_eq_getElem?_getD, List.getElem?_eq_none]
      · rfl
      · simp
        omega
    · omega
    · rfl
  · apply dirByte_outside
    simp [rootDirectory]
    omega

theorem kernelDisk_live {e : Nat} (h : Live kernelDisk rootDirectory e) : e = 0 := by
  by_contra hne
  exact h.1 (kernelDisk_behind (by omega))

theorem kernelDisk_wellFormed : WellFormed kernelDisk rootDirectory := by
  have hfirst : dirByte kernelDisk rootDirectory (32 * 0) ≠ 0 := by decide
  refine ⟨by decide, ?_, ?_, ?_⟩
  · intro e e' hle hzero
    rcases Nat.eq_zero_or_pos e with rfl | hpos
    · exact absurd hzero hfirst
    · exact kernelDisk_behind (by omega)
  · intro e e' hname hlive _ _
    obtain rfl := kernelDisk_live hlive
    by_contra hne
    apply hfirst
    rw [← dirName_head, hname, dirName_head]
    exact kernelDisk_behind (by omega)
  · intro e hlive hlabel
    obtain rfl := kernelDisk_live hlive
    exact absurd rfl hlabel

theorem kernelDisk_file :
    FileAt kernelDisk rootDirectory (eleven [75, 69, 82, 78, 69, 76] [66, 73, 78]) 0 [2] :=
  ⟨⟨by decide, by decide, fun h => h rfl⟩, by decide,
    .inr (.last ⟨by decide, by decide⟩ (by decide))⟩

theorem kernelDisk_loadable : Loadable kernelDisk (boot kernelDisk) 0x100000 rootDirectory
    [75, 69, 82, 78, 69, 76] [66, 73, 78] 0 [2] := by
  refine ⟨by decide, by decide, rfl, ?_, ?_⟩
  · have hrange : List.range 512 = 0 :: (List.range 511).map Nat.succ := List.range_succ_eq_map
    rw [firstNamed, hrange, List.find?_cons_of_pos (by decide)]
  · change EndMark (fatEntry (readLba kernelDisk (boot kernelDisk) 0x100000 (clusterLba 2)) 2)
    decide

/-- `/KERNEL.BIN` is loaded. -/
theorem fs_load_path_kernel : Loads kernelDisk (boot kernelDisk) 0x100000
    (pathText [] [75, 69, 82, 78, 69, 76] [66, 73, 78]) [] [2] :=
  (((fs_load_path_iff kernelDisk (boot kernelDisk) 0x100000 [] [75, 69, 82, 78, 69, 76]
    [66, 73, 78] (boot_booted kernelDisk) (by simp) component_file.1 component_file.2
    ⟨by decide, by decide⟩).1 [] rootDirectory (.here rootDirectory) kernelDisk_wellFormed).1 0 [2]
      kernelDisk_file).mpr kernelDisk_loadable

/-- A file that is missing keeps the loader in its search. -/
theorem missing_file_hangs : ¬ ∀ (disk : Disk) (m : Machine) (address : UInt32)
    (names : List (List UInt8)) (stem ext : List UInt8) (css : List (List UInt16))
    (dir : Directory), Booted disk m → (∀ w ∈ names, Component 8 w) → Component 8 stem →
      Component 3 ext → address ≠ 0 → Room m names.length →
        Leads disk rootDirectory names css dir → WellFormed disk dir →
          (∀ e cs, FileAt disk dir (eleven stem ext) e cs →
            Loads disk m address (pathText names stem ext) css cs) ∧
          (Absent disk dir (eleven stem ext) →
            Fails disk m address (pathText names stem ext)) := by
  intro h
  have hempty (x : Nat) : dirByte (fun _ _ => 0) rootDirectory x = 0 := by
    rw [dirByte]
    exact ite_self 0
  have hlive (e : Nat) : ¬ Live (fun _ _ => 0) rootDirectory e := fun h => h.1 (hempty _)
  have hwf : WellFormed (fun _ _ => 0) rootDirectory :=
    ⟨by decide, fun _ _ _ _ => hempty _, fun e _ _ h _ _ => absurd h (hlive e),
      fun e h _ => absurd h (hlive e)⟩
  have hroom : Room (boot fun _ _ => 0) ([] : List (List UInt8)).length :=
    ⟨by decide, by decide⟩
  have habsent : Absent (fun _ _ => 0) rootDirectory
      (eleven [75, 69, 82, 78, 69, 76] [66, 73, 78]) := by
    intro e he
    have hhead := congrArg (fun w => w.headD 0) he.name
    rw [dirName_head, hempty] at hhead
    exact absurd hhead (by decide)
  have hnone : firstNamed (fun _ _ => 0) rootDirectory
      (eleven [75, 69, 82, 78, 69, 76] [66, 73, 78]) = none := by
    rw [firstNamed, List.find?_eq_none]
    intro e _ heq
    have hhead := congrArg (fun w => w.headD 0) (of_decide_eq_true heq)
    rw [dirName_head, hempty] at hhead
    exact absurd hhead (by decide)
  have hfails := (h (fun _ _ => 0) (boot fun _ _ => 0) 0x100000 [] [75, 69, 82, 78, 69, 76]
    [66, 73, 78] [] rootDirectory (boot_booted _) (by simp) component_file.1 component_file.2
    (by decide) hroom (.here _) hwf).2 habsent
  have houtcome := (file_outcome (fun _ _ => 0) (boot fun _ _ => 0) 0x100000 (boot_booted _)
    (by simp) component_file.1 component_file.2 hroom (.here _) hwf).2 habsent
  rcases houtcome.mp hfails with haddress | hseven | ⟨-, hfirst⟩
  · exact absurd haddress (by decide)
  · exact absurd hseven (by decide)
  · exact hfirst hnone

end Path

end Gramado.Boot.LoadPath
