import Gramado.Io.FileBuffer
import Mathlib

namespace Gramado.Io.SocketFile

open Io.FileObject Io.FileBuffer

/-- What a call asks of the threads: `do_credits_by_tid`, `do_thread_ready` and `yield`. -/
inductive ThreadEffect where
  | credits (tid : Int)
  | ready (tid : Int)
  | yield (tid : Int)
  deriving DecidableEq, Repr

structure IoResult where
  result : Int
  bytes : List UInt8
  effects : List ThreadEffect
  deriving DecidableEq, Repr

def writeSocket (currentThread : Int) (fp : File) (ubuf : Nat → UInt8) (count : Int) :
    Except String (IoResult × File) :=
  let credits := [ThreadEffect.credits currentThread]
  if fp.flags &&& SWR = 0 then .ok (⟨-1, [], credits⟩, fp)
  else if fp.socketBufferFull = true then
    let effects := credits ++ [.ready fp.tidWaiting, .yield currentThread]
    let fp := { fp with flags := 0 ||| SRD, tidWaiting := -1 }
    if fp.sync.blockOnWriteFull = true then
      .ok (⟨-1, [], effects⟩, { fp with tidWaiting := currentThread })
    else .ok (⟨-1, [], effects⟩, fp)
  else
    let (out, fp) := fileWriteBuffer { fp with flags := 0 } (some ubuf) count
    if out.result ≤ 0 then .ok (⟨-1, [], credits ++ [.yield currentThread]⟩, fp)
    else
      let fp :=
        { fp with
          socketBufferFull := true
          flags := (fp.flags &&& ~~~SWR) ||| SRD
          tidWaiting := if fp.sync.blockOnWrite = true then currentThread else -1 }
      .ok (⟨out.result, [], credits⟩, fp)

def readSocket (currentThread : Int) (fp : File) (count : Int) :
    Except String (IoResult × File) :=
  let credits := [ThreadEffect.credits currentThread]
  if fp.flags &&& SRD = 0 then .ok (⟨-1, [], credits⟩, fp)
  else if fp.socketBufferFull = false then
    let fp := { fp with flags := 0 ||| SWR, tidWaiting := -1 }
    if fp.sync.blockOnReadEmpty = true then
      .error "__read_imp: [DEBUG] Couldn't read socket. Buffer not full\n"
    else .ok (⟨-1, [], credits ++ [.yield currentThread]⟩, fp)
  else
    let (out, fp) := fileReadBuffer fp true count
    if out.result ≤ 0 then .ok (⟨-1, [], credits⟩, fp)
    else
      let fp :=
        { fp with
          socketBufferFull := false
          flags := (fp.flags &&& ~~~SRD) ||| SWR
          tidWaiting := -1 }
      .ok (⟨out.result, out.bytes, credits⟩, fp)

section

-- The branches of `__write_imp` and `__read_imp` for the other object types.
variable (otherWrite : File → (Nat → UInt8) → Int → Except String (IoResult × File))
variable (otherRead : File → Int → Except String (IoResult × File))

def writeImp (currentThread fd : Int) (fp : File) (ubuf : Option (Nat → UInt8))
    (count : Int) : Except String (IoResult × File) :=
  if fd < 0 ∨ OPEN_MAX ≤ fd then .ok (⟨-EBADF, [], []⟩, fp)
  else
    match ubuf with
    | none => .ok (⟨-EINVAL, [], []⟩, fp)
    | some ubuf =>
        if count < 0 then .ok (⟨-EINVAL, [], []⟩, fp)
        else if count = 0 then .ok (⟨0, [], []⟩, fp)
        else if fp.sync.canWrite = false then .ok (⟨-1, [], []⟩, fp)
        else if fp.object = .socket then
          if fp.file = 0 ∨ fp.file = 1 ∨ fp.file = 2 then .ok (⟨-1, [], []⟩, fp)
          else writeSocket currentThread fp ubuf count
        else otherWrite fp ubuf count

/-- `__read_imp` on a descriptor that names `fp`. A socket with `_file` zero is read. -/
def readImp (currentThread fd : Int) (fp : File) (ubuf : Bool) (count : Int) :
    Except String (IoResult × File) :=
  if fd < 0 ∨ OPEN_MAX ≤ fd then .ok (⟨-EBADF, [], []⟩, fp)
  else if ubuf = false then .ok (⟨-EINVAL, [], []⟩, fp)
  else if count < 0 then .ok (⟨-EINVAL, [], []⟩, fp)
  else if count = 0 then .ok (⟨0, [], []⟩, fp)
  else if fp.sync.canRead = false then .ok (⟨-1, [], []⟩, fp)
  else if fp.object = .socket then
    if fp.file = 1 ∨ fp.file = 2 then .ok (⟨-1, [], []⟩, fp)
    else readSocket currentThread fp count
  else otherRead fp count

end

def noFile (fd : Int) (ubuf : Bool) (count : Int) : Int :=
  if fd < 0 ∨ OPEN_MAX ≤ fd then -EBADF
  else if ubuf = false then -EINVAL
  else if count < 0 then -EINVAL
  else if count = 0 then 0
  else -1

/-- The file that `socket` makes for a new socket, over a buffer that holds `memory`. -/
def socketFile (sock : Nat) (slot buff : Int) (memory : Int → UInt8) : File :=
  { zeroFile with
    object := .socket
    sync :=
      { action := 0, canRead := true, canWrite := true, canAccept := true,
        canConnect := true, blockOnWrite := true, blockOnWriteFull := true,
        blockOnReadEmpty := true }
    flags := SWR
    base := buff
    buf := memory
    p := buff
    lbfsize := BUFSIZ
    cnt := BUFSIZ
    r := 0
    w := 0
    socketBufferFull := false
    socket := some sock
    file := slot
    used := true
    magic := 1234 }

/-- What the calls on a socket file never change, as far as they rely on it. -/
structure SocketReady (f : File) : Prop where
  valid : f.Valid
  object : f.object = .socket
  canRead : f.sync.canRead = true
  canWrite : f.sync.canWrite = true
  lbfsize : f.lbfsize = BUFSIZ
  file : 3 ≤ f.file

/-- What the buffer of a socket file holds. A file is stuck when it is neither writable
nor readable. -/
inductive Slot where
  | free
  | full (message : List UInt8)
  | stuck

inductive Holds (f : File) : Slot → Prop
  | free (hflags : f.flags = SWR) (hfull : f.socketBufferFull = false) : Holds f .free
  | full (message : List UInt8) (hflags : f.flags = SRD) (hfull : f.socketBufferFull = true)
      (hpos : 0 < message.length) (hlen : message.length < BUFSIZ)
      (hbuf : readBytes f.buf 0 message.length = message) : Holds f (.full message)
  | stuck (hflags : f.flags = 0) : Holds f .stuck

variable {f : File} {count fd : Int} {ubuf : Bool} {slot : Slot}

theorem writeSocket_closed (tid : Int) (h : f.flags &&& SWR = 0) (ubuf : Nat → UInt8)
    (count : Int) :
    writeSocket tid f ubuf count = .ok (⟨-1, [], [.credits tid]⟩, f) := by
  unfold writeSocket
  exact if_pos h

theorem readSocket_closed (tid : Int) (h : f.flags &&& SRD = 0) (count : Int) :
    readSocket tid f count = .ok (⟨-1, [], [.credits tid]⟩, f) := by
  unfold readSocket
  exact if_pos h

theorem writeSocket_fits (tid : Int) (hready : SocketReady f) (h : Holds f .free)
    (ubuf : Nat → UInt8) (hpos : 0 < count) (hlt : count < BUFSIZ) :
    ∃ g, writeSocket tid f ubuf count = .ok (⟨count, [], [.credits tid]⟩, g) ∧
      SocketReady g ∧ Holds g (.full ((List.range count.toNat).map ubuf)) := by
  cases h with
  | free hflags hfull =>
      have hwrite : fileWriteBuffer { f with flags := 0 } (some ubuf) count = (⟨count, []⟩,
            { f with flags := 0, buf := writeBytes f.buf 0 ubuf count.toNat }) := by
        unfold fileWriteBuffer
        dsimp only
        rw [if_neg (by omega), hready.object]
      have hopen : ¬ f.flags &&& SWR = 0 := by
        rw [hflags]
        decide
      have hroom : ¬ f.socketBufferFull = true := by
        rw [hfull]
        decide
      unfold writeSocket
      dsimp only
      rw [if_neg hopen, if_neg hroom, hwrite]
      dsimp only
      rw [if_neg (by omega)]
      refine ⟨_, rfl, ⟨hready.valid, hready.object, hready.canRead, hready.canWrite,
        hready.lbfsize, hready.file⟩, .full _ rfl rfl ?_ ?_ ?_⟩
      · rw [List.length_map, List.length_range]
        omega
      · rw [List.length_map, List.length_range]
        omega
      · rw [List.length_map, List.length_range]
        exact readBytes_writeBytes f.buf 0 ubuf (le_refl _)

theorem writeSocket_oversized (tid : Int) (hready : SocketReady f) (h : Holds f .free)
    (ubuf : Nat → UInt8) (hge : (BUFSIZ : Int) ≤ count) :
    ∃ out g, writeSocket tid f ubuf count = .ok (out, g) ∧ out.result ≤ 0 ∧
      SocketReady g ∧ Holds g .stuck := by
  cases h with
  | free hflags hfull =>
      have hwrite : fileWriteBuffer { f with flags := 0 } (some ubuf) count =
          (⟨EOF, []⟩, { f with flags := 0 }) := by
        unfold fileWriteBuffer
        dsimp only
        rw [if_pos hge]
      have hopen : ¬ f.flags &&& SWR = 0 := by
        rw [hflags]
        decide
      have hroom : ¬ f.socketBufferFull = true := by
        rw [hfull]
        decide
      unfold writeSocket
      dsimp only
      rw [if_neg hopen, if_neg hroom, hwrite]
      have hfail : (-1 : Int) ≤ 0 := by decide
      exact ⟨_, _, rfl, hfail, ⟨hready.valid, hready.object, hready.canRead,
        hready.canWrite, hready.lbfsize, hready.file⟩, .stuck rfl⟩

theorem readSocket_full {message : List UInt8} (tid : Int) (hready : SocketReady f)
    (h : Holds f (.full message)) (count : Int) :
    (readSocket tid f count = .ok (⟨-1, [], [.credits tid]⟩, f) ∧
      (count % 0x10000 = 0 ∨ (BUFSIZ : Int) < count % 0x10000)) ∨
    ∃ g, readSocket tid f count = .ok (⟨count % 0x10000,
          readBytes f.buf 0 (count % 0x10000).toNat, [.credits tid]⟩, g) ∧
      0 < count % 0x10000 ∧ count % 0x10000 ≤ BUFSIZ ∧ SocketReady g ∧ Holds g .free := by
  cases h with
  | full _ hflags hfull hpos hlen hbuf =>
      have hnonneg : 0 ≤ count % 0x10000 := Int.emod_nonneg _ (by decide)
      have hopen : ¬ f.flags &&& SRD = 0 := by
        rw [hflags]
        decide
      have hsome : ¬ f.socketBufferFull = false := by
        rw [hfull]
        decide
      unfold readSocket
      dsimp only
      rw [if_neg hopen, if_neg hsome]
      rw [fileReadBuffer_socket hready.valid hready.object hready.lbfsize]
      split
      · rename_i hbad
        exact .inl ⟨rfl, hbad⟩
      · rename_i hgood
        dsimp only
        rw [if_neg (by omega)]
        refine .inr ⟨_, rfl, by omega, by omega, ⟨hready.valid, hready.object,
          hready.canRead, hready.canWrite, hready.lbfsize, hready.file⟩, .free ?_ rfl⟩
        dsimp only
        rw [hflags]
        decide

def Passes (fd : Int) (ubuf : Bool) (count : Int) : Prop :=
  (0 ≤ fd ∧ fd < OPEN_MAX) ∧ ubuf = true ∧ 0 < count

instance (fd : Int) (ubuf : Bool) (count : Int) : Decidable (Passes fd ubuf count) :=
  inferInstanceAs (Decidable (_ ∧ _ ∧ _))

section

variable (otherWrite : File → (Nat → UInt8) → Int → Except String (IoResult × File))
variable (otherRead : File → Int → Except String (IoResult × File))

theorem writeImp_rejected (tid : Int) (f : File) {ubuf : Option (Nat → UInt8)}
    (h : ¬ Passes fd ubuf.isSome count) :
    ∃ out, writeImp otherWrite tid fd f ubuf count = .ok (out, f) ∧ out.result ≤ 0 := by
  unfold writeImp
  split
  · exact ⟨_, rfl, by decide⟩
  · cases ubuf with
    | none => exact ⟨_, rfl, by decide⟩
    | some ubuf =>
        dsimp only
        split
        · exact ⟨_, rfl, by decide⟩
        split
        · exact ⟨_, rfl, by decide⟩
        · exact absurd ⟨by omega, rfl, by omega⟩ h

theorem readImp_rejected (tid : Int) (f : File) (h : ¬ Passes fd ubuf count) :
    ∃ out, readImp otherRead tid fd f ubuf count = .ok (out, f) ∧ out.result ≤ 0 := by
  unfold readImp
  split
  · exact ⟨_, rfl, by decide⟩
  split
  · exact ⟨_, rfl, by decide⟩
  split
  · exact ⟨_, rfl, by decide⟩
  split
  · exact ⟨_, rfl, by decide⟩
  · rename_i hubuf hneg hzero
    exact absurd ⟨by omega, by simpa using hubuf, by omega⟩ h

theorem writeImp_socket (tid : Int) (hready : SocketReady f) {ubuf : Nat → UInt8}
    (h : Passes fd true count) :
    writeImp otherWrite tid fd f (some ubuf) count = writeSocket tid f ubuf count := by
  obtain ⟨hfd, _, hcount⟩ := h
  have hwritable : ¬ f.sync.canWrite = false := by
    rw [hready.canWrite]
    decide
  have hfile := hready.file
  unfold writeImp
  rw [if_neg (by omega)]
  dsimp only
  rw [if_neg (by omega), if_neg (by omega), if_neg hwritable, if_pos hready.object,
    if_neg (by omega)]

theorem readImp_socket (tid : Int) (hready : SocketReady f) (h : Passes fd ubuf count) :
    readImp otherRead tid fd f ubuf count = readSocket tid f count := by
  obtain ⟨hfd, hubuf, hcount⟩ := h
  have hreadable : ¬ f.sync.canRead = false := by
    rw [hready.canRead]
    decide
  have hnonnull : ¬ ubuf = false := by
    rw [hubuf]
    decide
  have hfile := hready.file
  unfold readImp
  rw [if_neg (by omega), if_neg hnonnull, if_neg (by omega), if_neg (by omega),
    if_neg hreadable, if_pos hready.object, if_neg (by omega)]

inductive WriteEffect (fd : Int) (ubuf : Option (Nat → UInt8)) (count : Int)
    (out : IoResult) : Slot → Slot → Prop
  | failed (slot : Slot) (hresult : out.result ≤ 0)
      (hfree : slot = .free → ¬ Passes fd ubuf.isSome count) :
      WriteEffect fd ubuf count out slot slot
  | written (p : Nat → UInt8) (hubuf : ubuf = some p) (hpasses : Passes fd true count)
      (hlt : count < BUFSIZ) (hresult : out.result = count) :
      WriteEffect fd ubuf count out .free (.full ((List.range count.toNat).map p))
  | oversized (hpasses : Passes fd ubuf.isSome count) (hge : (BUFSIZ : Int) ≤ count)
      (hresult : out.result ≤ 0) : WriteEffect fd ubuf count out .free .stuck

theorem writeImp_effect (tid fd : Int) (hready : SocketReady f) (h : Holds f slot)
    (ubuf : Option (Nat → UInt8)) (count : Int) :
    ∃ out g slot', writeImp otherWrite tid fd f ubuf count = .ok (out, g) ∧
      SocketReady g ∧ Holds g slot' ∧ WriteEffect fd ubuf count out slot slot' := by
  rcases em (Passes fd ubuf.isSome count) with hpasses | hrejected
  · obtain ⟨p, rfl⟩ : ∃ p, ubuf = some p := Option.isSome_iff_exists.mp hpasses.2.1
    rw [writeImp_socket otherWrite tid hready hpasses]
    have hclosed : f.flags &&& SWR = 0 → slot ≠ .free →
        ∃ out g slot', writeSocket tid f p count = .ok (out, g) ∧ SocketReady g ∧
          Holds g slot' ∧ WriteEffect fd (some p) count out slot slot' := by
      intro hflags hslot
      have hfail : (-1 : Int) ≤ 0 := by decide
      exact ⟨_, f, slot, writeSocket_closed tid hflags p count, hready, h,
        .failed _ hfail fun hfree => absurd hfree hslot⟩
    cases slot with
    | free =>
        rcases lt_or_ge count (BUFSIZ : Int) with hlt | hge
        · obtain ⟨g, hwrite, hg, hholds⟩ := writeSocket_fits tid hready h p hpasses.2.2 hlt
          exact ⟨_, g, _, hwrite, hg, hholds, .written p rfl hpasses hlt rfl⟩
        · obtain ⟨out, g, hwrite, hresult, hg, hholds⟩ := writeSocket_oversized tid hready h p hge
          exact ⟨out, g, _, hwrite, hg, hholds, .oversized hpasses hge hresult⟩
    | full message =>
        apply hclosed
        · cases h with
          | full _ hflags => rw [hflags]; decide
        · exact Slot.noConfusion
    | stuck =>
        apply hclosed
        · cases h with
          | stuck hflags => rw [hflags]; decide
        · exact Slot.noConfusion
  · obtain ⟨out, hwrite, hresult⟩ := writeImp_rejected otherWrite tid f hrejected
    exact ⟨out, f, slot, hwrite, hready, h, .failed _ hresult fun _ => hrejected⟩

inductive ReadEffect (buf : Int → UInt8) (fd : Int) (ubuf : Bool) (count : Int)
    (out : IoResult) : Slot → Slot → Prop
  | failed (slot : Slot) (hresult : out.result ≤ 0)
      (hfull : (∃ message, slot = .full message) → Passes fd ubuf count →
        count % 0x10000 = 0 ∨ (BUFSIZ : Int) < count % 0x10000) :
      ReadEffect buf fd ubuf count out slot slot
  | read (message : List UInt8) (hpasses : Passes fd ubuf count)
      (hpos : 0 < count % 0x10000) (hle : count % 0x10000 ≤ BUFSIZ)
      (hresult : out.result = count % 0x10000)
      (hbytes : out.bytes = readBytes buf 0 (count % 0x10000).toNat) :
      ReadEffect buf fd ubuf count out (.full message) .free

theorem readImp_effect (tid fd : Int) (hready : SocketReady f) (h : Holds f slot) (ubuf : Bool)
    (count : Int) :
    ∃ out g slot', readImp otherRead tid fd f ubuf count = .ok (out, g) ∧
      SocketReady g ∧ Holds g slot' ∧ ReadEffect f.buf fd ubuf count out slot slot' := by
  rcases em (Passes fd ubuf count) with hpasses | hrejected
  · have hfail : (-1 : Int) ≤ 0 := by decide
    rw [readImp_socket otherRead tid hready hpasses]
    have hclosed : f.flags &&& SRD = 0 → (¬ ∃ message, slot = .full message) →
        ∃ out g slot', readSocket tid f count = .ok (out, g) ∧ SocketReady g ∧
          Holds g slot' ∧ ReadEffect f.buf fd ubuf count out slot slot' := by
      intro hflags hslot
      exact ⟨_, f, slot, readSocket_closed tid hflags count, hready, h,
        .failed _ hfail fun hfull => absurd hfull hslot⟩
    cases slot with
    | free =>
        apply hclosed
        · cases h with
          | free hflags => rw [hflags]; decide
        · rintro ⟨message, hmessage⟩
          cases hmessage
    | full message =>
        rcases readSocket_full tid hready h count with
          ⟨hread, hbad⟩ | ⟨g, hread, hpos, hle, hg, hholds⟩
        · exact ⟨_, f, _, hread, hready, h, .failed _ hfail fun _ _ => hbad⟩
        · exact ⟨_, g, _, hread, hg, hholds, .read message hpasses hpos hle rfl rfl⟩
    | stuck =>
        apply hclosed
        · cases h with
          | stuck hflags => rw [hflags]; decide
        · rintro ⟨message, hmessage⟩
          cases hmessage
  · obtain ⟨out, hread, hresult⟩ := readImp_rejected otherRead tid f hrejected
    exact ⟨out, f, slot, hread, hready, h, .failed _ hresult fun _ hpasses =>
      absurd hpasses hrejected⟩

end

end Gramado.Io.SocketFile
