import Gramado.Bus.PciNames

/-! What a scan of the PCI buses registers. -/

namespace Gramado.Bus.PciScan

open Library.CheckedRead (Returns returns_ok returns_error ok_bind)
open Bus.Pci Bus.PciNames
open Libk.Digits (Buffer)
open Rtl.Strings (Text strncmp_eq_zero_iff)

/-- The functions that are visited: function 0 decides for its device. -/
def Visited (f : Functions) (l : Location) : Prop :=
  f.Present l.first ∧ (l.func = 0 ∨ f.headerType l.first &&& PCI_TYPE_MULTIFUNC ≠ 0)

instance (f : Functions) (l : Location) : Decidable (Visited f l) :=
  inferInstanceAs (Decidable (_ ∧ _))

/-- They are visited in this order. -/
def visits (f : Functions) : List Location := locations.filter fun l => Visited f l

def handle (f : Functions) (stale : Buffer) (s : State) (l : Location) : Except Stop State :=
  (pciHandleDevice f stale l.bus l.dev l.func s).map Prod.snd

theorem locations_nodup : locations.Nodup := by
  rw [locations, List.nodup_flatMap]
  refine ⟨fun bus _ => ?_, List.nodup_range.imp fun hne l hl hl' => ?_⟩
  · rw [List.nodup_flatMap]
    refine ⟨fun dev _ => List.nodup_range.map fun m n h => (Location.mk.inj h).2.2,
      List.nodup_range.imp fun hne l hl hl' => ?_⟩
    obtain ⟨func, -, rfl⟩ := List.mem_map.mp hl
    obtain ⟨func', -, heq⟩ := List.mem_map.mp hl'
    exact hne (Location.mk.inj heq).2.1.symm
  · simp only [List.mem_flatMap, List.mem_map] at hl hl'
    obtain ⟨dev, -, func, -, rfl⟩ := hl
    obtain ⟨dev', -, func', -, heq⟩ := hl'
    exact hne (Location.mk.inj heq).1.symm

theorem visits_nodup (f : Functions) : (visits f).Nodup := locations_nodup.filter _

section Visits

variable {α β σ ε : Type}

theorem foldlM_flatMap (xs : List α) (g : α → List β) (h : σ → β → Except ε σ) (s : σ) :
    (xs.flatMap g).foldlM h s = xs.foldlM (fun s x => (g x).foldlM h s) s := by
  induction xs generalizing s with
  | nil => rfl
  | cons x xs ih =>
      rw [List.flatMap_cons, List.foldlM_append, List.foldlM_cons]
      exact congrArg _ (funext ih)

theorem foldlM_congr {xs : List α} {g h : σ → α → Except ε σ}
    (hgh : ∀ x ∈ xs, ∀ s, g s x = h s x) (s : σ) : xs.foldlM g s = xs.foldlM h s := by
  induction xs generalizing s with
  | nil => rfl
  | cons x xs ih =>
      rw [List.foldlM_cons, List.foldlM_cons, hgh x (by simp)]
      exact congrArg _ (funext (ih fun y hy => hgh y (List.mem_cons_of_mem x hy)))

theorem vendor_of_absent {f : Functions} {l : Location} (h : ¬ f.Present l) :
    f.vendor l = PCI_INVALID_VENDORID := by
  rw [Functions.Present, Option.isSome_iff_ne_none, not_not] at h
  rw [Functions.vendor, Functions.register, h]
  rfl

variable (c : ConfigSpace) (stale : Buffer)

/-- The functions of one device. -/
theorem probeFunctions_eq {bus dev : Nat} (hbus : bus < PCI_MAX_BUSES)
    (hdev : dev < PCI_MAX_DEVICES) (s : State) :
    probeFunctions c.functions stale bus dev s =
      (((List.range PCI_MAX_FUNCTIONS).map fun func => Location.mk bus dev func).filter
        fun l => Visited c.functions l).foldlM (handle c.functions stale) s := by
  have hbus' : bus < 2 ^ 8 := Nat.lt_trans hbus (by decide)
  rw [probeFunctions, pciCheckVendor_eq hbus' hdev, pciGetHeaderType_eq hbus' hdev,
    List.filter_map, List.foldlM_map]
  by_cases hpresent : c.functions.Present ⟨bus, dev, 0⟩
  · rw [if_pos (c.vendor _ hpresent)]
    by_cases hmulti : c.functions.headerType ⟨bus, dev, 0⟩ &&& PCI_TYPE_MULTIFUNC ≠ 0
    · have hall : (List.range PCI_MAX_FUNCTIONS).filter ((fun l => decide (Visited c.functions l)) ∘
          fun func => Location.mk bus dev func) = List.range PCI_MAX_FUNCTIONS := by
        rw [List.filter_eq_self]
        intro func _
        exact decide_eq_true ⟨hpresent, .inr hmulti⟩
      rw [if_pos hmulti, hall]
      rfl
    · have hone : (List.range PCI_MAX_FUNCTIONS).filter ((fun l => decide (Visited c.functions l)) ∘
          fun func => Location.mk bus dev func) = List.range 1 := by
        have hvisited : ∀ func, Visited c.functions ⟨bus, dev, func⟩ ↔ func = 0 :=
          fun func => ⟨fun h => h.2.resolve_right hmulti, fun h => ⟨hpresent, .inl h⟩⟩
        simp only [Function.comp_def, hvisited]
        rfl
      rw [if_neg hmulti, hone]
      rfl
  · have hnone : (List.range PCI_MAX_FUNCTIONS).filter ((fun l => decide (Visited c.functions l)) ∘
        fun func => Location.mk bus dev func) = [] := by
      rw [List.filter_eq_nil_iff]
      intro func _ h
      exact hpresent (of_decide_eq_true h).1
    rw [if_neg (fun h => h.2 (vendor_of_absent hpresent)), hnone]
    rfl

/-- A scan handles the functions that it visits, one after the other. -/
theorem pciscan_probe_devices_eq (s : State) : pciscan_probe_devices c.functions stale s =
      (visits c.functions).foldlM (handle c.functions stale) s := by
  rw [visits, locations, List.filter_flatMap, foldlM_flatMap, pciscan_probe_devices]
  refine foldlM_congr (fun bus hbus s => ?_) s
  rw [List.filter_flatMap, foldlM_flatMap]
  refine foldlM_congr (fun dev hdev s => ?_) s
  exact probeFunctions_eq c stale (List.mem_range.mp hbus) (List.mem_range.mp hdev) s

end Visits

/-- The device gets a name: it is not of the class `CHAR`, or it is a display. -/
def Named (f : Functions) (l : Location) : Prop :=
  deviceClass (f.vendor l.first) (f.classCode l) = DEVICE_CLASS_CHAR →
    f.classCode l = PCI_CLASSCODE_DISPLAY

def Other (Vendor classCode : Nat) : Prop := deviceClass Vendor classCode = 0

theorem deviceClass_lt (Vendor classCode : Nat) : deviceClass Vendor classCode < 4 := by
  have hif : ∀ (P : Prop) [Decidable P] (m n : Nat), m < 4 → n < 4 → (if P then m else n) < 4 := by
    intro P _ m n hm hn
    split
    · exact hm
    · exact hn
  simp only [deviceClass]
  repeat' apply hif
  all_goals decide

/-- The counters are past the number of the name. -/
def Taken (s : State) : Name → Prop
  | .display n => n < s.display_devices_found
  | .block n => n < s.block_devices_found
  | .nic n => n < s.nics_found
  | .other _ _ => True

/-- The counters before and behind a name that is given to a device. -/
structure Takes (d : PciDevice) (s : State) (name : Name) (t : State) : Prop where
  list : t.pcideviceList = s.pcideviceList
  files : t.files = s.files
  table : t.deviceList = s.deviceList
  counters : ∀ n, s.display_devices_found ≤ n → s.block_devices_found ≤ n → s.nics_found ≤ n →
    t.display_devices_found ≤ n + 1 ∧ t.block_devices_found ≤ n + 1 ∧ t.nics_found ≤ n + 1
  keeps : ∀ name, Taken s name → Taken t name
  taken : Taken t name
  small : name.Small
  kind : (Other d.Vendor d.classCode ∧ name = .other d.Vendor d.Device) ∨
    ¬ Other d.Vendor d.classCode ∧ ¬ Taken s name ∧ ∀ v w, name ≠ .other v w

section Register

variable {f : Functions} (stale : Buffer) {d : PciDevice} {s t : State} {name : Name}

theorem newname_takes (hvendor : d.Vendor < 2 ^ 16) (hdevice : d.Device < 2 ^ 16)
    (hcounters : s.display_devices_found < 2 ^ 31 ∧ s.block_devices_found < 2 ^ 31 ∧
      s.nics_found < 2 ^ 31)
    (hnamed : deviceClass d.Vendor d.classCode = DEVICE_CLASS_CHAR →
      d.classCode = PCI_CLASSCODE_DISPLAY) :
    ∃ name t, newname stale d s = .ok (name.text, t) ∧ Takes d s name t := by
  obtain ⟨hdisplay, hblock, hnic⟩ := hcounters
  rw [newname]
  split
  · rename_i hclass
    rw [if_pos (hnamed hclass), ksprintf_number stale (front_plain _ (by simp)) hdisplay, ok_bind]
    refine ⟨.display s.display_devices_found, _, rfl, rfl, rfl, rfl, fun n _ _ _ => ?_, ?_, ?_,
      hdisplay, .inr ⟨by simp [Other, hclass, DEVICE_CLASS_CHAR], Nat.lt_irrefl _, by simp⟩⟩
    · dsimp only
      omega
    · rintro (n | n | n | ⟨v, w⟩) h
      · exact Nat.lt_succ_of_lt h
      all_goals exact h
    · exact Nat.lt_succ_self _
  · split
    · rename_i hclass
      rw [ksprintf_number stale (front_plain _ (by simp)) hblock, ok_bind]
      refine ⟨.block s.block_devices_found, _, rfl, rfl, rfl, rfl, fun n _ _ _ => ?_, ?_, ?_,
        hblock, .inr ⟨by simp [Other, hclass, DEVICE_CLASS_BLOCK], Nat.lt_irrefl _, by simp⟩⟩
      · dsimp only
        omega
      · rintro (n | n | n | ⟨v, w⟩) h
        · exact h
        · exact Nat.lt_succ_of_lt h
        all_goals exact h
      · exact Nat.lt_succ_self _
    · split
      · rename_i hclass
        rw [ksprintf_number stale (front_plain _ (by simp)) hnic, ok_bind]
        refine ⟨.nic s.nics_found, _, rfl, rfl, rfl, rfl, fun n _ _ _ => ?_, ?_, ?_,
          hnic, .inr ⟨by simp [Other, hclass, DEVICE_CLASS_NETWORK], Nat.lt_irrefl _, by simp⟩⟩
        · dsimp only
          omega
        · rintro (n | n | n | ⟨v, w⟩) h
          · exact h
          · exact h
          · exact Nat.lt_succ_of_lt h
          · exact h
        · exact Nat.lt_succ_self _
      · rename_i hchar hblock' hnetwork
        rw [ksprintf_identifiers stale (front_plain _ (by simp)) (Nat.lt_trans hvendor (by decide))
          (Nat.lt_trans hdevice (by decide)), ok_bind]
        refine ⟨.other d.Vendor d.Device, _, rfl, rfl, rfl, rfl, fun n _ _ _ => ?_,
          fun _ h => h, trivial, ⟨hvendor, hdevice⟩, .inl ⟨?_, rfl⟩⟩
        · omega
        · have := deviceClass_lt d.Vendor d.classCode
          rw [DEVICE_CLASS_CHAR] at hchar
          rw [DEVICE_CLASS_BLOCK] at hblock'
          rw [DEVICE_CLASS_NETWORK] at hnetwork
          rw [Other]
          omega

theorem newname_unnamed (hclass : deviceClass d.Vendor d.classCode = DEVICE_CLASS_CHAR)
    (hdisplay : d.classCode ≠ PCI_CLASSCODE_DISPLAY) : newname stale d s = .ok ([], s) := by
  rw [newname, if_pos hclass, if_neg hdisplay]
  rfl

theorem find_free {α : Type} {table : Nat → Option α} {k n : Nat}
    (hfree : ∀ i, table i = none ↔ k ≤ i) (hk : k < n) :
    (List.range n).find? (fun i => (table i).isNone) = some k := by
  rw [List.range_eq_range', List.find?_range'_eq_some, List.mem_range'_1]
  refine ⟨by simp [(hfree k).mpr (Nat.le_refl k)], ⟨Nat.zero_le k, by omega⟩, fun i _ hi => ?_⟩
  have hsome : table i ≠ none := fun hnone => by
    have := (hfree i).mp hnone
    omega
  simpa [Option.isSome_iff_ne_none] using hsome

theorem register_named {fp cls type : Nat} {k : Nat} (hsmall : name.Small)
    (hfree : ∀ i, s.deviceList i = none ↔ k ≤ i) (hk : k < DEVICE_LIST_MAX) :
    devmgr_register_pci_device stale fp name.text cls type d s =
      .ok (0, s.register ⟨k, cls, type, fp, name.text, MOUNT ++ name.text, d⟩) := by
  have hfirst : name.text.headD 0 ≠ 0 := by
    cases htext : name.text with
    | nil => exact absurd htext name.text_ne_nil
    | cons c text =>
        have hc : c ∈ name.text := by simp [htext]
        exact Name.ne_zero hc
  have hslot : devmgr_device_object s = .ok k := by
    unfold devmgr_device_object
    rw [find_free hfree hk]
  have hlength := Name.length_lt hsmall
  have hzero : ∀ c ∈ name.text, c ≠ 0 := fun c hc => Name.ne_zero hc
  have hstring : ksprintf stale [37, 115] [.string (some name.text)] = .ok name.text :=
    ksprintf_string stale (by simp : ∀ c ∈ ([] : Text), c ≠ 0 ∧ c ≠ Libk.Vsprintf.percent) hzero
  have hmount : ksprintf stale (MOUNT ++ [37, 115]) [.string (some name.text)] =
      .ok (MOUNT ++ name.text) := ksprintf_string stale (front_plain _ (by simp)) hzero
  rw [devmgr_register_pci_device, if_neg hfirst, hslot, ok_bind, if_neg (by omega), hstring,
    ok_bind, hmount, ok_bind, if_pos (Nat.le_of_lt (Nat.lt_trans hlength (by decide)))]
  rfl

end Register

/-- What a registered device and its name have to do with a function. -/
structure Registered (f : Functions) (s : State) (e : Device × Name) : Prop where
  read : ∃ id, e.1.pci_device = pciDevice f e.1.pci_device.location.bus
    e.1.pci_device.location.dev e.1.pci_device.location.func id
  inRange : InRange e.1.pci_device.location
  name : e.1.name = e.2.text
  mount : e.1.mount_point = MOUNT ++ e.2.text
  small : e.2.Small
  taken : Taken s e.2
  kind : (Other e.1.pci_device.Vendor e.1.pci_device.classCode ∧
      e.2 = .other e.1.pci_device.Vendor e.1.pci_device.Device) ∨
    ¬ Other e.1.pci_device.Vendor e.1.pci_device.classCode ∧ ∀ v w, e.2 ≠ .other v w

/-- The state behind some visits. The list takes the first ones only. -/
structure Enumerated (f : Functions) (done : List Location) (s : State)
    (es : List (Device × Name)) : Prop where
  locations : es.map (·.1.pci_device.location) = done.take PCI_DEVICE_LIST_SIZE
  listed : s.pcideviceList = es.map (·.1.pci_device)
  files : s.files = es.length
  table : ∀ i, s.deviceList i = es[i]?.map Prod.fst
  file : es.map (·.1.file) = List.range es.length
  registered : ∀ e ∈ es, Registered f s e
  counted : s.display_devices_found ≤ es.length ∧ s.block_devices_found ≤ es.length ∧
    s.nics_found ≤ es.length
  distinct : es.Pairwise fun a b => a.2 = b.2 → ∃ v w, b.2 = .other v w
  named : ∀ l ∈ done.take PCI_DEVICE_LIST_SIZE, Named f l

theorem enumerated_nil (f : Functions) : Enumerated f [] initialState [] where
  locations := rfl
  listed := rfl
  files := rfl
  table _ := rfl
  file := rfl
  registered := by simp
  counted := by simp [initialState]
  distinct := .nil
  named := by simp

section Step

variable {f : Functions} {done : List Location} {s : State} {es : List (Device × Name)}
  {l : Location}

theorem Enumerated.length (h : Enumerated f done s es) :
    es.length = min PCI_DEVICE_LIST_SIZE done.length := by
  rw [← List.length_take, ← h.locations, List.length_map]

theorem Registered.mono {t : State} {e : Device × Name} (h : Registered f s e)
    (hkeeps : ∀ name, Taken s name → Taken t name) : Registered f t e :=
  ⟨h.read, h.inRange, h.name, h.mount, h.small, hkeeps _ h.taken, h.kind⟩

/-- A visit of which nothing is saved. -/
theorem Enumerated.full (h : Enumerated f done s es)
    (hfull : PCI_DEVICE_LIST_SIZE ≤ done.length) (l : Location) :
    Enumerated f (done ++ [l]) s es := by
  have htake : (done ++ [l]).take PCI_DEVICE_LIST_SIZE = done.take PCI_DEVICE_LIST_SIZE :=
    List.take_append_of_le_length hfull
  exact ⟨htake ▸ h.locations, h.listed, h.files, h.table, h.file, h.registered, h.counted,
    h.distinct, htake ▸ h.named⟩

/-- A visit that registers a device. -/
theorem Enumerated.push (h : Enumerated f done s es) (hroom : done.length < PCI_DEVICE_LIST_SIZE)
    (hl : InRange l) (hnamed : Named f l) {e : Device × Name} {u : State}
    (hpci : e.1.pci_device = pciDevice f l.bus l.dev l.func es.length)
    (hindex : e.1.index = es.length) (hfile : e.1.file = es.length) (hname : e.1.name = e.2.text)
    (hmount : e.1.mount_point = MOUNT ++ e.2.text)
    (htakes : Takes e.1.pci_device (s.save e.1.pci_device) e.2 u) :
    Enumerated f (done ++ [l]) (u.newFile.register e.1) (es ++ [e]) := by
  have htake : (done ++ [l]).take PCI_DEVICE_LIST_SIZE = done.take PCI_DEVICE_LIST_SIZE ++ [l] := by
    rw [List.take_of_length_le (by simpa using hroom), List.take_of_length_le (Nat.le_of_lt hroom)]
  obtain ⟨hdisplay, hblock, hnic⟩ := h.counted
  refine ⟨?_, ?_, ?_, fun i => ?_, ?_, fun e' he' => ?_, ?_, ?_, ?_⟩
  · rw [htake, List.map_append, h.locations, List.map_singleton, hpci]
    rfl
  · rw [List.map_append, ← h.listed, List.map_singleton]
    exact htakes.list
  · simp [State.register, State.newFile, htakes.files, State.save, h.files]
  · rw [State.register, State.newFile, htakes.table, State.save, hindex]
    rcases Nat.lt_trichotomy i es.length with hi | rfl | hi
    · rw [List.getElem?_append_left hi]
      simpa [Function.update_of_ne (Nat.ne_of_lt hi)] using h.table i
    · simp
    · simp [Function.update_of_ne (Nat.ne_of_gt hi), h.table, List.getElem?_eq_none,
        Nat.le_of_lt hi, Nat.succ_le_of_lt hi]
  · rw [List.map_append, h.file, List.map_singleton, hfile, List.length_append,
      List.length_singleton, List.range_succ]
  · rcases List.mem_append.mp he' with he' | he'
    · exact (h.registered e' he').mono htakes.keeps
    · obtain rfl : e' = e := by simpa using he'
      refine ⟨⟨es.length, ?_⟩, ?_, hname, hmount, htakes.small, htakes.taken, ?_⟩
      · rw [hpci]
        rfl
      · rw [hpci]
        exact hl
      · rcases htakes.kind with hkind | ⟨hkind, -, hother⟩
        · exact .inl hkind
        · exact .inr ⟨hkind, hother⟩
  · rw [List.length_append, List.length_singleton]
    exact htakes.counters _ hdisplay hblock hnic
  · rw [List.pairwise_append]
    refine ⟨h.distinct, List.pairwise_singleton _ _, fun a ha b hb heq => ?_⟩
    obtain rfl : b = e := by simpa using hb
    rcases htakes.kind with ⟨-, hkind⟩ | ⟨-, hfresh, -⟩
    · exact ⟨_, _, hkind⟩
    · exact absurd (heq ▸ (h.registered a ha).taken) hfresh
  · intro l' hl'
    rw [htake] at hl'
    rcases List.mem_append.mp hl' with hl' | hl'
    · exact h.named l' hl'
    · obtain rfl : l' = l := by simpa using hl'
      exact hnamed

/-- A visit saves nothing, registers a device, or ends in a panic over a device without a name. -/
theorem handle_step (stale : Buffer) (h : Enumerated f done s es) (hl : InRange l)
    (hvendor : f.vendor l.first ≠ PCI_INVALID_VENDORID) :
    (∃ t es', handle f stale s l = .ok t ∧ Enumerated f (done ++ [l]) t es') ∨
      ¬ Named f l ∧ l ∈ (done ++ [l]).take PCI_DEVICE_LIST_SIZE ∧ handle f stale s l =
          .error (.panic "pciHandleDevice: on devmgr_register_pci_device()\n") := by
  obtain ⟨hbus, hdev, -⟩ := hl.lt
  obtain ⟨hread, hdevice, hclass, -⟩ := pciDevice_eq f hl es.length
  have hlength : s.pcideviceList.length = es.length := by rw [h.listed, List.length_map]
  have hcheck : pciCheckVendor f l.bus l.dev ≠ 0xFFFF := by
    rw [pciCheckVendor_eq hbus hdev]
    exact hvendor
  rw [handle, pciHandleDevice, if_neg hcheck, hlength]
  rcases Nat.lt_or_ge done.length PCI_DEVICE_LIST_SIZE with hroom | hfull
  · have hles : es.length < PCI_DEVICE_LIST_SIZE := by
      rw [h.length]
      omega
    rw [if_neg (Nat.not_le.mpr hles)]
    by_cases hnamed : Named f l
    · have hvendor' : f.vendor l.first < 2 ^ 16 := Nat.mod_lt _ (by decide)
      have hdevice' : f.device l.first < 2 ^ 16 := Nat.div_lt_of_lt_mul (register_lt f l.first 0)
      obtain ⟨hdisplay, hblock, hnic⟩ := h.counted
      have hsmall : es.length < 2 ^ 31 := Nat.lt_trans hles (by decide)
      obtain ⟨name, u, hname, htakes⟩ := newname_takes stale
        (s := s.save (pciDevice f l.bus l.dev l.func es.length)) (hread ▸ hvendor')
        (hdevice ▸ hdevice') ⟨Nat.lt_of_le_of_lt hdisplay hsmall, Nat.lt_of_le_of_lt hblock hsmall,
          Nat.lt_of_le_of_lt hnic hsmall⟩ (by rw [hread, hclass]; exact hnamed)
      have hfree : ∀ i, u.deviceList i = none ↔ es.length ≤ i := by
        intro i
        rw [htakes.table, State.save, h.table]
        simp
      rw [hname, ok_bind]
      dsimp only
      have hfiles : u.files = es.length := htakes.files.trans h.files
      rw [register_named stale (s := u.newFile) htakes.small hfree (Nat.lt_trans hles (by decide)),
        ok_bind]
      exact .inl ⟨_, _, rfl, h.push hroom hl hnamed (e := (⟨_, _, _, _, _, _, _⟩, name)) rfl rfl
        hfiles rfl rfl htakes⟩
    · obtain ⟨hchar, hdisplay⟩ := Classical.not_imp.mp hnamed
      rw [← hread, ← hclass] at hchar
      rw [← hclass] at hdisplay
      refine .inr ⟨hnamed, ?_, ?_⟩
      · rw [List.take_of_length_le (by simpa using hroom)]
        simp
      · rw [newname_unnamed stale hchar hdisplay, ok_bind]
        rfl
  · refine .inl ⟨s, es, ?_, h.full hfull l⟩
    rw [if_pos (by rw [h.length]; omega)]
    rfl

theorem handles_run (stale : Buffer) {ls : List Location} (h : Enumerated f done s es)
    (hls : ∀ l ∈ ls, InRange l ∧ f.vendor l.first ≠ PCI_INVALID_VENDORID) :
    (∃ t es', ls.foldlM (handle f stale) s = .ok t ∧ Enumerated f (done ++ ls) t es') ∨
      (∃ l ∈ (done ++ ls).take PCI_DEVICE_LIST_SIZE, ¬ Named f l) ∧ ls.foldlM (handle f stale) s =
          .error (.panic "pciHandleDevice: on devmgr_register_pci_device()\n") := by
  induction ls generalizing done s es with
  | nil => exact .inl ⟨s, es, rfl, by rwa [List.append_nil]⟩
  | cons l ls ih =>
      have hsplit : done ++ l :: ls = (done ++ [l]) ++ ls := by simp
      obtain ⟨hl, hvendor⟩ := hls l (by simp)
      rw [List.foldlM_cons, hsplit]
      rcases handle_step stale h hl hvendor with
        ⟨t, es', hstep, ht⟩ | ⟨hnamed, hmem, hstep⟩
      · rw [hstep, ok_bind]
        exact ih ht fun l' hl' => hls l' (List.mem_cons_of_mem l hl')
      · refine .inr ⟨⟨l, ?_, hnamed⟩, ?_⟩
        · rw [List.take_append]
          exact List.mem_append_left _ hmem
        · rw [hstep]
          rfl

end Step

/-- The devices in the table, in the order of their slots. -/
def deviceTable (s : State) : List Device := (List.range DEVICE_LIST_MAX).filterMap s.deviceList

/-- One entry for each function that is present, with what that function has in its registers. -/
structure Entries (f : Functions) (ds : List PciDevice) : Prop where
  once : (ds.map (·.location)).Nodup
  present : ∀ l, l ∈ ds.map (·.location) ↔ f.Present l
  own : ∀ d ∈ ds, d.Vendor = f.vendor d.location ∧ d.Device = f.device d.location ∧
    d.classCode = f.classCode d.location ∧ d.subclass = f.subclass d.location

/-- What a scan ought to leave. -/
structure Right (f : Functions) (s : State) : Prop where
  listed : Entries f s.pcideviceList
  tabled : Entries f ((deviceTable s).map (·.pci_device))
  named : ∀ d ∈ deviceTable s, d.name ≠ [] ∧ d.mount_point = MOUNT ++ d.name
  files : ((deviceTable s).map (·.file)).Nodup
  found : ∀ d ∈ deviceTable s, devmgr_search_in_dev_list s d.mount_point = some d.file

/-- When it does: the functions that are present are those of the first visits, each with the
identifiers of its function 0, all get names, and those without a class differ in their
identifiers. -/
structure Fits (f : Functions) : Prop where
  visited : ∀ l, l ∈ (visits f).take PCI_DEVICE_LIST_SIZE ↔ f.Present l
  identified : ∀ l, f.Present l → f.vendor l = f.vendor l.first ∧ f.device l = f.device l.first
  named : ∀ l, f.Present l → deviceClass (f.vendor l) (f.classCode l) = DEVICE_CLASS_CHAR →
    f.classCode l = PCI_CLASSCODE_DISPLAY
  apart : ∀ l l', f.Present l → f.Present l' → Other (f.vendor l) (f.classCode l) →
    Other (f.vendor l') (f.classCode l') → f.vendor l = f.vendor l' → f.device l = f.device l' →
      l = l'

section Search

variable {α β : Type}

theorem filterMap_range (xs : List α) (n : Nat) :
    (List.range n).filterMap (fun i => xs[i]?) = xs.take n := by
  induction n with
  | zero => simp
  | succ n ih =>
      rw [List.range_succ, List.filterMap_append, ih, List.take_add_one]
      cases hx : xs[n]? <;> simp [hx]

theorem findSome?_bind (xs : List Nat) (g : Nat → Option α) (h : α → Option β) :
    xs.findSome? (fun i => (g i).bind h) = (xs.filterMap g).findSome? h := by
  rw [← List.head?_filterMap, ← List.head?_filterMap, List.filterMap_filterMap]

/-- A search by keys returns each entry's own value exactly if the keys differ. -/
theorem find_own_iff [DecidableEq β] {key : α → β} {value : α → Nat} {xs : List α}
    (hvalues : (xs.map value).Nodup) :
    (∀ x ∈ xs, xs.findSome? (fun y => if key y = key x then some (value y) else none) =
      some (value x)) ↔ (xs.map key).Nodup := by
  induction xs with
  | nil => simp
  | cons a xs ih =>
      rw [List.map_cons, List.nodup_cons] at hvalues ⊢
      rw [← ih hvalues.2]
      constructor
      · intro h
        have hne : ∀ x ∈ xs, key a ≠ key x := by
          intro x hx heq
          have hfound := h x (List.mem_cons_of_mem a hx)
          rw [List.findSome?_cons, if_pos heq] at hfound
          exact hvalues.1 (List.mem_map.mpr ⟨x, hx, (Option.some.inj hfound).symm⟩)
        refine ⟨fun hmem => ?_, fun x hx => ?_⟩
        · obtain ⟨x, hx, heq⟩ := List.mem_map.mp hmem
          exact hne x hx heq.symm
        · have hfound := h x (List.mem_cons_of_mem a hx)
          rwa [List.findSome?_cons, if_neg (hne x hx)] at hfound
      · rintro ⟨hfresh, h⟩ x hx
        rw [List.findSome?_cons]
        rcases List.mem_cons.mp hx with rfl | hx
        · rw [if_pos rfl]
        · rw [if_neg fun heq => hfresh (List.mem_map.mpr ⟨x, hx, heq.symm⟩)]
          exact h x hx

end Search

section Result

variable {f : Functions} {done : List Location} {s : State} {es : List (Device × Name)}

theorem Enumerated.deviceTable_eq (h : Enumerated f done s es) :
    deviceTable s = es.map Prod.fst := by
  have hlength : es.length ≤ DEVICE_LIST_MAX := by
    rw [h.length]
    exact Nat.le_trans (Nat.min_le_left _ _) (by decide)
  have htable : s.deviceList = fun i => (es.map Prod.fst)[i]? := by
    funext i
    rw [h.table, List.getElem?_map]
  rw [deviceTable, htable, filterMap_range, List.take_of_length_le (by simpa using hlength)]

/-- What is saved of a function. -/
theorem Registered.saved {e : Device × Name} (h : Registered f s e) :
    e.1.pci_device.Vendor = f.vendor e.1.pci_device.location.first ∧
      e.1.pci_device.Device = f.device e.1.pci_device.location.first ∧
      e.1.pci_device.classCode = f.classCode e.1.pci_device.location ∧
      e.1.pci_device.subclass = f.subclass e.1.pci_device.location := by
  obtain ⟨id, hread⟩ := h.read
  rw [hread]
  exact pciDevice_eq f h.inRange id

theorem Enumerated.entries_iff (h : Enumerated f done s es) (hdone : done.Nodup) :
    Entries f (es.map (·.1.pci_device)) ↔ (∀ l, l ∈ done.take PCI_DEVICE_LIST_SIZE ↔ f.Present l) ∧
        ∀ l ∈ done.take PCI_DEVICE_LIST_SIZE,
          f.vendor l = f.vendor l.first ∧ f.device l = f.device l.first := by
  have hlocations : (es.map (·.1.pci_device)).map (·.location) =
      done.take PCI_DEVICE_LIST_SIZE := by
    rw [← h.locations, List.map_map]
    rfl
  constructor
  · rintro ⟨-, hpresent, hown⟩
    rw [hlocations] at hpresent
    refine ⟨hpresent, fun l hl => ?_⟩
    rw [← h.locations] at hl
    obtain ⟨e, he, rfl⟩ := List.mem_map.mp hl
    obtain ⟨hvendor, hdevice, -, -⟩ := hown _ (List.mem_map_of_mem he)
    obtain ⟨hvendor', hdevice', -, -⟩ := (h.registered e he).saved
    exact ⟨hvendor.symm.trans hvendor', hdevice.symm.trans hdevice'⟩
  · rintro ⟨hpresent, hown⟩
    refine ⟨hlocations ▸ hdone.sublist (List.take_sublist _ _), hlocations ▸ hpresent, ?_⟩
    intro d hd
    obtain ⟨e, he, rfl⟩ := List.mem_map.mp hd
    obtain ⟨hvendor, hdevice, hclass, hsubclass⟩ := (h.registered e he).saved
    have hmem : e.1.pci_device.location ∈ done.take PCI_DEVICE_LIST_SIZE :=
      h.locations ▸ List.mem_map_of_mem he
    obtain ⟨hvendor', hdevice'⟩ := hown _ hmem
    exact ⟨hvendor.trans hvendor'.symm, hdevice.trans hdevice'.symm, hclass, hsubclass⟩

/-- The search compares whole strings. -/
theorem Enumerated.found_iff (h : Enumerated f done s es) :
    (∀ d ∈ deviceTable s, devmgr_search_in_dev_list s d.mount_point = some d.file) ↔
      (es.map Prod.snd).Nodup := by
  have hmount : ∀ d ∈ deviceTable s, ∃ e ∈ es, e.1 = d ∧ d.mount_point = MOUNT ++ e.2.text := by
    intro d hd
    rw [h.deviceTable_eq] at hd
    obtain ⟨e, he, rfl⟩ := List.mem_map.mp hd
    exact ⟨e, he, rfl, (h.registered e he).mount⟩
  have hnonzero : ∀ d ∈ deviceTable s, ∀ c ∈ d.mount_point, c ≠ 0 := by
    intro d hd c hc
    obtain ⟨e, -, -, heq⟩ := hmount d hd
    rw [heq] at hc
    rcases List.mem_append.mp hc with hc | hc
    · exact (front_plain _ (by simp) c hc).1
    · exact Name.ne_zero hc
  have hsearch : ∀ d ∈ deviceTable s, devmgr_search_in_dev_list s d.mount_point =
      (deviceTable s).findSome? fun e =>
        if e.mount_point = d.mount_point then some e.file else none := by
    intro d hd
    obtain ⟨e, he, -, heq⟩ := hmount d hd
    have hlength := Name.length_lt (h.registered e he).small
    have hshort : ¬ 64 ≤ d.mount_point.length := by
      rw [heq, List.length_append, MOUNT]
      simp
      omega
    rw [devmgr_search_in_dev_list, if_neg hshort, findSome?_bind, ← List.head?_filterMap,
      ← List.head?_filterMap]
    refine congrArg _ (List.filterMap_congr fun e he => ?_)
    simp only [kstrncmp, strncmp_eq_zero_iff (hnonzero e he) (hnonzero d hd)]
  have hfiles : ((deviceTable s).map (·.file)).Nodup := by
    rw [h.deviceTable_eq, List.map_map]
    exact h.file ▸ List.nodup_range
  have hnames : (deviceTable s).map (·.mount_point) =
      (es.map Prod.snd).map fun name => MOUNT ++ name.text := by
    rw [h.deviceTable_eq, List.map_map, List.map_map]
    exact List.map_congr_left fun e he => (h.registered e he).mount
  have hinj : Function.Injective fun name : Name => MOUNT ++ name.text :=
    fun a b hab => Name.text_inj (List.append_cancel_left hab)
  rw [← List.nodup_map_iff hinj, ← hnames, ← find_own_iff hfiles]
  exact forall₂_congr fun d hd => by rw [hsearch d hd]

/-- The name of a device with its own identifiers. -/
theorem Registered.name_eq {e : Device × Name} (h : Registered f s e)
    (hown : f.vendor e.1.pci_device.location = f.vendor e.1.pci_device.location.first ∧
      f.device e.1.pci_device.location = f.device e.1.pci_device.location.first) :
    (Other (f.vendor e.1.pci_device.location) (f.classCode e.1.pci_device.location) ∧
        e.2 = .other (f.vendor e.1.pci_device.location) (f.device e.1.pci_device.location)) ∨
      ¬ Other (f.vendor e.1.pci_device.location) (f.classCode e.1.pci_device.location) ∧
        ∀ v w, e.2 ≠ .other v w := by
  obtain ⟨hvendor, hdevice, hclass, -⟩ := h.saved
  have hkind := h.kind
  rwa [hvendor, hdevice, hclass, ← hown.1, ← hown.2] at hkind

theorem Enumerated.present (h : Enumerated f (visits f) s es) (hfits : Fits f)
    {e : Device × Name} (he : e ∈ es) : f.Present e.1.pci_device.location :=
  (hfits.visited _).mp (h.locations ▸ List.mem_map_of_mem he)

theorem Enumerated.names_nodup (h : Enumerated f (visits f) s es) (hfits : Fits f) :
    (es.map Prod.snd).Nodup := by
  have hlocations : (es.map (·.1.pci_device.location)).Nodup := by
    rw [h.locations]
    exact (visits_nodup f).sublist (List.take_sublist _ _)
  have hpairs : es.Pairwise fun a b => a.1.pci_device.location ≠ b.1.pci_device.location :=
    List.pairwise_map.mp hlocations
  rw [List.Nodup, List.pairwise_map]
  refine List.Pairwise.imp_of_mem ?_ (h.distinct.and hpairs)
  rintro a b ha hb ⟨hother, hne⟩ heq
  obtain ⟨v, w, hvw⟩ := hother heq
  have hpa := h.present hfits ha
  have hpb := h.present hfits hb
  rcases (h.registered a ha).name_eq (hfits.identified _ hpa) with ⟨hoa, hna⟩ | ⟨-, hna⟩
  · rcases (h.registered b hb).name_eq (hfits.identified _ hpb) with ⟨hob, hnb⟩ | ⟨-, hnb⟩
    · rw [hna, hnb, Name.other.injEq] at heq
      exact hne (hfits.apart _ _ hpa hpb hoa hob heq.1 heq.2)
    · exact hnb v w hvw
  · exact hna v w (heq.trans hvw)

theorem Enumerated.right_iff (h : Enumerated f (visits f) s es) : Right f s ↔ Fits f := by
  have hentries := h.entries_iff (visits_nodup f)
  have htable : (deviceTable s).map (·.pci_device) = es.map (·.1.pci_device) := by
    rw [h.deviceTable_eq, List.map_map]
    rfl
  constructor
  · intro hright
    obtain ⟨hvisited, hids⟩ := hentries.mp (h.listed ▸ hright.listed)
    have hown : ∀ l, f.Present l → f.vendor l = f.vendor l.first ∧ f.device l = f.device l.first :=
      fun l hl => hids l ((hvisited l).mpr hl)
    have hnames := h.found_iff.mp hright.found
    refine ⟨hvisited, hown, fun l hl => ?_, fun l l' hl hl' ho ho' hv hd => ?_⟩
    · rw [(hown l hl).1]
      exact h.named l ((hvisited l).mpr hl)
    · have hname : ∀ l, f.Present l → Other (f.vendor l) (f.classCode l) →
          ∃ e ∈ es, e.1.pci_device.location = l ∧ e.2 = .other (f.vendor l) (f.device l) := by
        intro l hl ho
        have hmem := (hvisited l).mpr hl
        rw [← h.locations] at hmem
        obtain ⟨e, he, rfl⟩ := List.mem_map.mp hmem
        rcases (h.registered e he).name_eq (hown _ hl) with ⟨-, hname⟩ | ⟨hno, -⟩
        · exact ⟨e, he, rfl, hname⟩
        · exact absurd ho hno
      obtain ⟨e, he, rfl, heq⟩ := hname l hl ho
      obtain ⟨e', he', rfl, heq'⟩ := hname l' hl' ho'
      have hsame : e = e' := List.inj_on_of_nodup_map hnames he he' (by rw [heq, heq', hv, hd])
      rw [hsame]
  · intro hfits
    have hright := hentries.mpr ⟨hfits.visited,
      fun l hl => hfits.identified l ((hfits.visited l).mp hl)⟩
    refine ⟨h.listed ▸ hright, ?_, fun d hd => ?_, ?_, h.found_iff.mpr (h.names_nodup hfits)⟩
    · rw [htable]
      exact hright
    · rw [h.deviceTable_eq] at hd
      obtain ⟨e, he, rfl⟩ := List.mem_map.mp hd
      rw [(h.registered e he).name, (h.registered e he).mount]
      exact ⟨e.2.text_ne_nil, rfl⟩
    · rw [h.deviceTable_eq, List.map_map]
      exact h.file ▸ List.nodup_range

end Result

variable (c : ConfigSpace) (stale : Buffer)

theorem visits_inRange {l : Location} (hl : l ∈ visits c.functions) :
    InRange l ∧ c.functions.vendor l.first ≠ PCI_INVALID_VENDORID := by
  obtain ⟨hmem, hvisited⟩ := List.mem_filter.mp hl
  exact ⟨mem_locations.mp hmem, (c.vendor _ (of_decide_eq_true hvisited).1).2⟩

theorem scan_cases : (∃ s es, pciscan_probe_devices c.functions stale initialState = .ok s ∧
        Enumerated c.functions (visits c.functions) s es) ∨
      (∃ l ∈ (visits c.functions).take PCI_DEVICE_LIST_SIZE, ¬ Named c.functions l) ∧
        pciscan_probe_devices c.functions stale initialState =
          .error (.panic "pciHandleDevice: on devmgr_register_pci_device()\n") := by
  rw [pciscan_probe_devices_eq]
  exact handles_run stale (enumerated_nil c.functions) fun l hl => visits_inRange c hl

theorem pciscan_probe_devices_iff :
    Returns (pciscan_probe_devices c.functions stale initialState) (Right c.functions) ↔
      Fits c.functions := by
  rcases scan_cases c stale with ⟨s, es, hscan, hs⟩ | ⟨⟨l, hl, hunnamed⟩, hscan⟩
  · rw [hscan, returns_ok]
    exact hs.right_iff
  · rw [hscan, returns_error, false_iff]
    intro hfits
    have hpresent := (hfits.visited l).mp hl
    apply hunnamed
    rw [Named, ← (hfits.identified l hpresent).1]
    exact hfits.named l hpresent

/-- A USB controller at the first place. -/
def usb : Functions := fun l =>
  if l = ⟨0, 0, 0⟩ then
    some fun i => if i = 0 then 0x70208086 else if i = 2 then 0x0C030000 else 0
  else none

theorem usb_present {l : Location} : usb.Present l ↔ l = ⟨0, 0, 0⟩ := by
  rw [Functions.Present, usb]
  split <;> simp_all

theorem length_le_one {ls : List Location} {l : Location} (hnodup : ls.Nodup)
    (hall : ∀ l' ∈ ls, l' = l) : ls.length ≤ 1 :=
  (hnodup.subperm fun l' hl' => List.mem_singleton.mpr (hall l' hl')).length_le

def usbSpace : ConfigSpace where
  functions := usb
  bounded := by
    rintro l hl
    rw [usb_present.mp hl]
    decide
  first := by
    rintro l hl
    rw [usb_present.mp hl]
    exact usb_present.mpr rfl
  vendor := by
    rintro l hl
    rw [usb_present.mp hl]
    decide
  few := by
    have hone := length_le_one (locations_nodup.filter (fun l => usb.Present l)) fun l hl =>
      usb_present.mp (of_decide_eq_true (List.mem_filter.mp hl).2)
    exact Nat.le_trans hone (by decide)

theorem usb_visited {l : Location} (h : Visited usb l) : l = ⟨0, 0, 0⟩ := by
  obtain ⟨hpresent, hfunc⟩ := h
  have hfirst : l.first = ⟨0, 0, 0⟩ := usb_present.mp hpresent
  have hsingle : ¬ usb.headerType l.first &&& PCI_TYPE_MULTIFUNC ≠ 0 := by
    rw [hfirst]
    decide
  obtain ⟨bus, dev, func⟩ := l
  obtain ⟨rfl, rfl, -⟩ := Location.mk.inj hfirst
  exact congrArg (Location.mk 0 0) (hfunc.resolve_right hsingle)

theorem usb_visits : ⟨0, 0, 0⟩ ∈ (visits usb).take PCI_DEVICE_LIST_SIZE := by
  have hlength := length_le_one (visits_nodup usb) fun l hl =>
    usb_visited (of_decide_eq_true (List.mem_filter.mp hl).2)
  rw [List.take_of_length_le (Nat.le_trans hlength (by decide))]
  refine List.mem_filter.mpr ⟨mem_locations.mpr ⟨by decide, by decide, by decide⟩, ?_⟩
  exact decide_eq_true ⟨usb_present.mpr rfl, .inl rfl⟩

/-- A device of the class `CHAR` that is no display gets no name, and the registration of a device
without a name fails. -/
theorem usb_panics :
    pciscan_probe_devices usbSpace.functions (fun _ => 0) initialState =
        .error (.panic "pciHandleDevice: on devmgr_register_pci_device()\n") ∧
      ¬ Returns (pciscan_probe_devices usbSpace.functions (fun _ => 0) initialState)
        (Right usb) := by
  have hpanic : pciscan_probe_devices usbSpace.functions (fun _ => 0) initialState =
      .error (.panic "pciHandleDevice: on devmgr_register_pci_device()\n") := by
    rcases scan_cases usbSpace (fun _ => 0) with ⟨s, es, -, hs⟩ | ⟨-, hscan⟩
    · have hclass : usb.classCode ⟨0, 0, 0⟩ ≠ PCI_CLASSCODE_DISPLAY := by decide
      exact absurd (hs.named _ usb_visits (by decide)) hclass
    · exact hscan
  exact ⟨hpanic, by rw [hpanic, returns_error]; exact id⟩

end Gramado.Bus.PciScan
