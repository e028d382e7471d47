import Gramado.Libk.Printf
import Gramado.Library.CheckedRead

/-! The scan of the PCI buses: the registers that it reads, and what is registered for each
function that it visits. -/

namespace Gramado.Bus.Pci

open Libk.Digits (Buffer)
open Libk.Vsprintf
open Rtl.Strings (Text strncmp)

def PCI_MAX_BUSES : Nat := 0xFF
def PCI_MAX_DEVICES : Nat := 32
def PCI_MAX_FUNCTIONS : Nat := 8
def PCI_INVALID_VENDORID : Nat := 0xFFFF
def PCI_TYPE_MULTIFUNC : Nat := 0x80
def PCI_DEVICE_LIST_SIZE : Nat := 128
def PCI_CLASSCODE_MASS : Nat := 0x01
def PCI_CLASSCODE_NETWORK : Nat := 0x02
def PCI_CLASSCODE_DISPLAY : Nat := 0x03
def PCI_CLASSCODE_SERIALBUS : Nat := 0x0C
def DEVICE_CLASS_CHAR : Nat := 1
def DEVICE_CLASS_BLOCK : Nat := 2
def DEVICE_CLASS_NETWORK : Nat := 3
def DEVICE_TYPE_PCI : Nat := 1
def DEVICE_LIST_MAX : Nat := 512
def DEVICE_NAME_SIZE : Nat := 64

structure Location where
  bus : Nat
  dev : Nat
  func : Nat
  deriving DecidableEq

/-- Function 0 of the same device. -/
def Location.first (l : Location) : Location := { l with func := 0 }

/-- The functions in the order of a scan. -/
def locations : List Location :=
  (List.range PCI_MAX_BUSES).flatMap fun bus =>
    (List.range PCI_MAX_DEVICES).flatMap fun dev =>
      (List.range PCI_MAX_FUNCTIONS).map fun func => ⟨bus, dev, func⟩

/-- The 32-bit registers of the functions that are present. -/
abbrev Functions := Location → Option (Nat → UInt32)

/-- Absent functions read all ones. -/
def Functions.register (f : Functions) (l : Location) (i : Nat) : Nat :=
  match f l with
  | some registers => (registers i).toNat
  | none => 0xFFFFFFFF

def Functions.Present (f : Functions) (l : Location) : Prop := (f l).isSome = true

instance (f : Functions) (l : Location) : Decidable (f.Present l) :=
  inferInstanceAs (Decidable (_ = true))

def Functions.vendor (f : Functions) (l : Location) : Nat := f.register l 0 % 2 ^ 16
def Functions.device (f : Functions) (l : Location) : Nat := f.register l 0 / 2 ^ 16
def Functions.classCode (f : Functions) (l : Location) : Nat := f.register l 2 / 2 ^ 24
def Functions.subclass (f : Functions) (l : Location) : Nat := f.register l 2 / 2 ^ 16 % 2 ^ 8

/-- A configuration space, with what is assumed of it. -/
structure ConfigSpace where
  functions : Functions
  bounded : ∀ l, functions.Present l →
    l.bus < PCI_MAX_BUSES ∧ l.dev < PCI_MAX_DEVICES ∧ l.func < PCI_MAX_FUNCTIONS
  first : ∀ l, functions.Present l → functions.Present l.first
  vendor : ∀ l, functions.Present l → functions.vendor l ≠ 0 ∧
    functions.vendor l ≠ PCI_INVALID_VENDORID
  few : (locations.filter functions.Present).length ≤ PCI_DEVICE_LIST_SIZE

/-- What the data port answers to an address. -/
def in32 (f : Functions) (address : Nat) : Nat :=
  f.register ⟨address / 2 ^ 16 % 2 ^ 8, address / 2 ^ 11 % 2 ^ 5, address / 2 ^ 8 % 2 ^ 3⟩
    (address / 2 ^ 2 % 2 ^ 6)

def configAddress (bus slot func offset : Nat) : Nat :=
  bus <<< 16 ||| slot <<< 11 ||| func <<< 8 ||| (offset &&& 0xfc) ||| 0x80000000

/-- `__PCI_CONFIG_ADDR` -/
def pciConfigAddr (bus device fn offset : Nat) : Nat :=
  (bus &&& 0xff) <<< 16 ||| (device &&& 0x3f) <<< 11 ||| (fn &&& 0x07) <<< 8 |||
    (offset &&& 0xfc) ||| 0x80000000

def pciConfigReadByte (f : Functions) (bus slot func offset : Nat) : Nat :=
  in32 f (configAddress bus slot func offset) >>> ((offset &&& 3) * 8) &&& 0xff

def pciConfigReadWord (f : Functions) (bus slot func offset : Nat) : Nat :=
  in32 f (configAddress bus slot func offset) >>> ((offset &&& 2) * 8) &&& 0xffff

def diskReadPCIConfigAddr (f : Functions) (bus dev func offset : Nat) : Nat :=
  in32 f (pciConfigAddr bus dev func offset)

-- These read function 0, whatever function is handled.
def pciCheckVendor (f : Functions) (bus slot : Nat) : Nat := pciConfigReadWord f bus slot 0 0
def pciCheckDevice (f : Functions) (bus slot : Nat) : Nat := pciConfigReadWord f bus slot 0 0x02
def pciGetHeaderType (f : Functions) (bus slot : Nat) : Nat := pciConfigReadByte f bus slot 0 0x0E
def pciGetInterruptLine (f : Functions) (bus slot : Nat) : Nat :=
  pciConfigReadByte f bus slot 0 0x3C
def pciGetInterruptPin (f : Functions) (bus slot : Nat) : Nat :=
  pciConfigReadByte f bus slot 0 0x3D

/-- `struct pci_device_d` -/
structure PciDevice where
  id : Nat
  location : Location
  Vendor : Nat
  Device : Nat
  classCode : Nat
  subclass : Nat
  irq_line : Nat
  irq_pin : Nat

/-- `struct device_d`. The file is known by the number of its allocation. -/
structure Device where
  index : Nat
  deviceClass : Nat
  deviceType : Nat
  file : Nat
  name : Text
  mount_point : Text
  pci_device : PciDevice

structure State where
  pcideviceList : List PciDevice
  display_devices_found : Nat
  block_devices_found : Nat
  nics_found : Nat
  files : Nat
  deviceList : Nat → Option Device

def State.save (s : State) (d : PciDevice) : State :=
  { s with pcideviceList := s.pcideviceList ++ [d] }

def State.newFile (s : State) : State := { s with files := s.files + 1 }

def State.register (s : State) (d : Device) : State :=
  { s with deviceList := Function.update s.deviceList d.index (some d) }

inductive Stop where
  | panic (message : String)
  | format (fault : Fault)

/-- The string that a call leaves in a cleared buffer. `stale` is what the buffer of the
conversions holds. -/
def ksprintf (stale : Buffer) (fmt : Text) (ap : List Arg) : Except Stop Text :=
  match kinguioVsprintf fmt ap stale with
  | .error fault => .error (.format fault)
  | .ok printed => .ok (printed.text.takeWhile (· ≠ 0))

/-- `DISPLAY` -/
def DISPLAY : Text := [68, 73, 83, 80, 76, 65, 89]

/-- `SD` -/
def SD : Text := [83, 68]

/-- `NIC` -/
def NIC : Text := [78, 73, 67]

/-- `DEV_` -/
def DEV : Text := [68, 69, 86, 95]

/-- `/DEV/` -/
def MOUNT : Text := [47, 68, 69, 86, 47]

/-- The class of the device, by the assignments in their order. 0 is none of the classes. -/
def deviceClass (Vendor classCode : Nat) : Nat :=
  let deviceClass := if Vendor = 0x10DE then DEVICE_CLASS_CHAR else 0
  let deviceClass :=
    if Vendor = 0x1106 ∨ Vendor = 0x1412 then DEVICE_CLASS_CHAR else deviceClass
  let deviceClass :=
    if Vendor = 0x10EC ∨ Vendor = 0x0BDA then DEVICE_CLASS_CHAR else deviceClass
  let deviceClass := if Vendor = 0x046D then DEVICE_CLASS_CHAR else deviceClass
  let deviceClass :=
    if classCode = PCI_CLASSCODE_NETWORK then DEVICE_CLASS_NETWORK else deviceClass
  let deviceClass :=
    if classCode = PCI_CLASSCODE_SERIALBUS then DEVICE_CLASS_CHAR else deviceClass
  let deviceClass := if classCode = PCI_CLASSCODE_MASS then DEVICE_CLASS_BLOCK else deviceClass
  if classCode = PCI_CLASSCODE_DISPLAY then DEVICE_CLASS_CHAR else deviceClass

/-- The name of a device. Among the devices of the class `CHAR` only displays get one. -/
def newname (stale : Buffer) (d : PciDevice) (s : State) : Except Stop (Text × State) :=
  if deviceClass d.Vendor d.classCode = DEVICE_CLASS_CHAR then
    if d.classCode = PCI_CLASSCODE_DISPLAY then do
      let name ← ksprintf stale (DISPLAY ++ [37, 100]) [.word (.ofNat s.display_devices_found)]
      return (name, { s with display_devices_found := s.display_devices_found + 1 })
    else return ([], s)
  else if deviceClass d.Vendor d.classCode = DEVICE_CLASS_BLOCK then do
    let name ← ksprintf stale (SD ++ [37, 100]) [.word (.ofNat s.block_devices_found)]
    return (name, { s with block_devices_found := s.block_devices_found + 1 })
  else if deviceClass d.Vendor d.classCode = DEVICE_CLASS_NETWORK then do
    let name ← ksprintf stale (NIC ++ [37, 100]) [.word (.ofNat s.nics_found)]
    return (name, { s with nics_found := s.nics_found + 1 })
  else do
    let name ← ksprintf stale (DEV ++ [37, 120, 95, 37, 120])
      [.word (.ofNat d.Vendor), .word (.ofNat d.Device)]
    return (name, s)

def devmgr_device_object (s : State) : Except Stop Nat :=
  match (List.range DEVICE_LIST_MAX).find? fun i => (s.deviceList i).isNone with
  | some i => .ok i
  | none => .error (.panic "devmgr_device_object: Overflow\n")

def devmgr_register_pci_device (stale : Buffer) (fp : Nat) (name : Text)
    (dev_class dev_type : Nat) (pci : PciDevice) (s : State) : Except Stop (Int × State) :=
  if name.headD 0 = 0 then .ok (-1, s)
  else do
    let id ← devmgr_device_object s
    if 64 - 5 ≤ name.length then .error (.panic "devmgr_register_pci_device: NameSize\n")
    else do
      let text ← ksprintf stale [37, 115] [.string (some name)]
      let mount_point ← ksprintf stale (MOUNT ++ [37, 115]) [.string (some name)]
      return (0, s.register {
        index := id
        deviceClass := dev_class
        deviceType := dev_type
        file := fp
        name := if name.length ≤ DEVICE_NAME_SIZE then text else []
        mount_point := mount_point
        pci_device := pci })

/-- `kstrncmp` has the body of the library's `strncmp`. -/
def kstrncmp (s1 s2 : Text) (len : Nat) : Int := strncmp s1 s2 len

def devmgr_search_in_dev_list (s : State) (path : Text) : Option Nat :=
  if 64 ≤ path.length then none
  else (List.range DEVICE_LIST_MAX).findSome? fun i =>
    (s.deviceList i).bind fun d =>
      if kstrncmp d.mount_point path path.length = 0 then some d.file else none

/-- What is read of a function. -/
def pciDevice (f : Functions) (bus dev func id : Nat) : PciDevice where
  id := id
  location := ⟨bus, dev, func⟩
  Vendor := pciCheckVendor f bus dev
  Device := pciCheckDevice f bus dev
  classCode := diskReadPCIConfigAddr f bus dev func 8 >>> 24 &&& 0xFF
  subclass := diskReadPCIConfigAddr f bus dev func 8 >>> 16 &&& 0xFF
  irq_line := pciGetInterruptLine f bus dev
  irq_pin := pciGetInterruptPin f bus dev

/-- The index of the list is its length. -/
def pciHandleDevice (f : Functions) (stale : Buffer) (bus dev func : Nat) (s : State) :
    Except Stop (Int × State) :=
  if pciCheckVendor f bus dev = 0xFFFF then .ok (-1, s)
  else
    let d := pciDevice f bus dev func s.pcideviceList.length
    if PCI_DEVICE_LIST_SIZE ≤ s.pcideviceList.length then .ok (-1, s)
    else do
      let (name, s) ← newname stale d (s.save d)
      let (rv, s) ← devmgr_register_pci_device stale s.files name
        (deviceClass d.Vendor d.classCode) DEVICE_TYPE_PCI d s.newFile
      if rv < 0 then .error (.panic "pciHandleDevice: on devmgr_register_pci_device()\n")
      else return (0, s)

/-- The functions of one device. -/
def probeFunctions (f : Functions) (stale : Buffer) (bus dev : Nat) (s : State) :
    Except Stop State :=
  if pciCheckVendor f bus dev ≠ 0 ∧ pciCheckVendor f bus dev ≠ PCI_INVALID_VENDORID then
    let funcCount :=
      if pciGetHeaderType f bus dev &&& PCI_TYPE_MULTIFUNC ≠ 0 then PCI_MAX_FUNCTIONS else 1
    (List.range funcCount).foldlM
      (fun s func => (pciHandleDevice f stale bus dev func s).map Prod.snd) s
  else .ok s

def pciscan_probe_devices (f : Functions) (stale : Buffer) (s : State) : Except Stop State :=
  (List.range PCI_MAX_BUSES).foldlM (fun s bus =>
    (List.range PCI_MAX_DEVICES).foldlM (fun s dev => probeFunctions f stale bus dev s) s) s

/-- No entries, no devices. -/
def initialState : State := ⟨[], 0, 0, 0, 0, fun _ => none⟩

section Reads

variable {f : Functions} {bus dev func offset : Nat} {l : Location}

theorem or_eq_add {a b i : Nat} (ha : 2 ^ i ∣ a) (hb : b < 2 ^ i) : a ||| b = a + b := by
  obtain ⟨k, rfl⟩ := ha
  rw [Nat.two_pow_add_eq_or_of_lt hb]

/-- The parts of an address do not overlap. -/
theorem configAddress_eq (hbus : bus < 2 ^ 8) (hdev : dev < 2 ^ 5) (hfunc : func < 2 ^ 3)
    (hoffset : offset < 2 ^ 8) (hlow : offset &&& 0xfc = offset / 4 * 4) :
    configAddress bus dev func offset =
      2 ^ 31 + (bus * 2 ^ 16 + dev * 2 ^ 11 + func * 2 ^ 8 + offset / 4 * 4) := by
  have hslot : bus * 2 ^ 16 ||| dev * 2 ^ 11 = bus * 2 ^ 16 + dev * 2 ^ 11 :=
    or_eq_add (i := 16) (by omega) (by omega)
  have hfn : bus * 2 ^ 16 + dev * 2 ^ 11 ||| func * 2 ^ 8 =
      bus * 2 ^ 16 + dev * 2 ^ 11 + func * 2 ^ 8 :=
    or_eq_add (i := 11) (by omega) (by omega)
  have hregister : bus * 2 ^ 16 + dev * 2 ^ 11 + func * 2 ^ 8 ||| offset / 4 * 4 =
      bus * 2 ^ 16 + dev * 2 ^ 11 + func * 2 ^ 8 + offset / 4 * 4 :=
    or_eq_add (i := 8) (by omega) (by omega)
  rw [configAddress, hlow, Nat.shiftLeft_eq, Nat.shiftLeft_eq, Nat.shiftLeft_eq, hslot, hfn,
    hregister, Nat.or_comm]
  exact or_eq_add (i := 31) (by omega) (by omega)

theorem in32_configAddress (hbus : bus < 2 ^ 8) (hdev : dev < 2 ^ 5) (hfunc : func < 2 ^ 3)
    (hoffset : offset < 2 ^ 8) (hlow : offset &&& 0xfc = offset / 4 * 4) :
    in32 f (configAddress bus dev func offset) = f.register ⟨bus, dev, func⟩ (offset / 4) := by
  rw [in32, configAddress_eq hbus hdev hfunc hoffset hlow]
  congr 2 <;> omega

theorem register_lt (f : Functions) (l : Location) (i : Nat) : f.register l i < 2 ^ 32 := by
  rw [Functions.register]
  split
  · exact UInt32.toNat_lt _
  · decide

theorem pciCheckVendor_eq (hbus : bus < 2 ^ 8) (hdev : dev < 2 ^ 5) :
    pciCheckVendor f bus dev = f.vendor ⟨bus, dev, 0⟩ := by
  rw [pciCheckVendor, pciConfigReadWord, in32_configAddress hbus hdev (by decide) (by decide) rfl]
  exact Nat.and_two_pow_sub_one_eq_mod _ 16

theorem pciCheckDevice_eq (hbus : bus < 2 ^ 8) (hdev : dev < 2 ^ 5) :
    pciCheckDevice f bus dev = f.device ⟨bus, dev, 0⟩ := by
  have hlt := register_lt f ⟨bus, dev, 0⟩ 0
  rw [pciCheckDevice, pciConfigReadWord, in32_configAddress hbus hdev (by decide) (by decide) rfl,
    Functions.device, ← Nat.shiftRight_eq_div_pow]
  refine (Nat.and_two_pow_sub_one_eq_mod _ 16).trans (Nat.mod_eq_of_lt ?_)
  rw [Nat.shiftRight_eq_div_pow]
  exact Nat.div_lt_of_lt_mul hlt

def Functions.headerType (f : Functions) (l : Location) : Nat := f.register l 3 / 2 ^ 16 % 2 ^ 8

theorem pciGetHeaderType_eq (hbus : bus < 2 ^ 8) (hdev : dev < 2 ^ 5) :
    pciGetHeaderType f bus dev = f.headerType ⟨bus, dev, 0⟩ := by
  rw [pciGetHeaderType, pciConfigReadByte,
    in32_configAddress hbus hdev (by decide) (by decide) rfl, Functions.headerType,
    ← Nat.shiftRight_eq_div_pow]
  exact Nat.and_two_pow_sub_one_eq_mod _ 8

theorem diskReadPCIConfigAddr_eq (hbus : bus < 2 ^ 8) (hdev : dev < 2 ^ 5) (hfunc : func < 2 ^ 3) :
    diskReadPCIConfigAddr f bus dev func 8 = f.register ⟨bus, dev, func⟩ 2 := by
  have hbits := Nat.and_two_pow_sub_one_eq_mod
  have haddress : pciConfigAddr bus dev func 8 = configAddress bus dev func 8 := by
    rw [pciConfigAddr, configAddress, hbits bus 8, hbits dev 6, hbits func 3,
      Nat.mod_eq_of_lt hbus, Nat.mod_eq_of_lt (by omega), Nat.mod_eq_of_lt hfunc]
  rw [diskReadPCIConfigAddr, haddress]
  exact in32_configAddress hbus hdev hfunc (by decide) rfl

/-- Where the scan comes. -/
def InRange (l : Location) : Prop :=
  l.bus < PCI_MAX_BUSES ∧ l.dev < PCI_MAX_DEVICES ∧ l.func < PCI_MAX_FUNCTIONS

theorem InRange.lt (h : InRange l) : l.bus < 2 ^ 8 ∧ l.dev < 2 ^ 5 ∧ l.func < 2 ^ 3 :=
  ⟨Nat.lt_trans h.1 (by decide), h.2.1, h.2.2⟩

theorem mem_locations : l ∈ locations ↔ InRange l := by
  simp only [locations, List.mem_flatMap, List.mem_range, List.mem_map, InRange]
  constructor
  · rintro ⟨bus, hbus, dev, hdev, func, hfunc, rfl⟩
    exact ⟨hbus, hdev, hfunc⟩
  · rintro ⟨hbus, hdev, hfunc⟩
    exact ⟨l.bus, hbus, l.dev, hdev, l.func, hfunc, rfl⟩

/-- The vendor and the device are those of function 0, the class is the function's own. -/
theorem pciDevice_eq (f : Functions) (h : InRange l) (id : Nat) :
    (pciDevice f l.bus l.dev l.func id).Vendor = f.vendor l.first ∧
      (pciDevice f l.bus l.dev l.func id).Device = f.device l.first ∧
      (pciDevice f l.bus l.dev l.func id).classCode = f.classCode l ∧
      (pciDevice f l.bus l.dev l.func id).subclass = f.subclass l := by
  obtain ⟨hbus, hdev, hfunc⟩ := h.lt
  have hlt := register_lt f l 2
  refine ⟨pciCheckVendor_eq hbus hdev, pciCheckDevice_eq hbus hdev, ?_, ?_⟩
  · rw [pciDevice, diskReadPCIConfigAddr_eq hbus hdev hfunc, Functions.classCode,
      ← Nat.shiftRight_eq_div_pow]
    refine (Nat.and_two_pow_sub_one_eq_mod _ 8).trans (Nat.mod_eq_of_lt ?_)
    rw [Nat.shiftRight_eq_div_pow]
    exact Nat.div_lt_of_lt_mul hlt
  · rw [pciDevice, diskReadPCIConfigAddr_eq hbus hdev hfunc, Functions.subclass,
      ← Nat.shiftRight_eq_div_pow]
    exact Nat.and_two_pow_sub_one_eq_mod _ 8

end Reads

end Gramado.Bus.Pci
