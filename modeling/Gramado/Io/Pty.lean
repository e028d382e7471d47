import Gramado.Library.Ring
import Gramado.Library.Run
import Gramado.Io.FileObject

/-! The pair of pseudo terminals: the queues of a tty, the four workers, and the tty branch of
`__write_imp` and `__read_imp`. -/

namespace Gramado.Io.Pty

open Library Library.Run Io.FileObject

def TTY_MAGIC : Int := 1234
def TTY_BUF_SIZE : Nat := 1024
def TTY_SUBTYPE_PTY_MASTER : Int := 300
def TTY_SUBTYPE_PTY_SLAVE : Int := 400

/-- `tty_queue`. -/
structure TtyQueue where
  buf : Nat → UInt8
  bufferSize : Nat
  cnt : Int
  head : Nat
  tail : Nat

def newQueue : TtyQueue where
  buf _ := 0
  bufferSize := TTY_BUF_SIZE
  cnt := 0
  head := 0
  tail := 0

def ttyQueueGetchar (q : TtyQueue) : Int × TtyQueue :=
  if q.head = q.tail then (-1, q)
  else
    ((q.buf q.tail).toNat, { q with tail := (q.tail + 1) % q.bufferSize, cnt := q.cnt - 1 })

def ttyQueuePutchar (q : TtyQueue) (c : UInt8) : Int × TtyQueue :=
  let nextHead := (q.head + 1) % q.bufferSize
  if nextHead = q.tail then (-1, q)
  else
    (0, { q with buf := Function.update q.buf q.head c, head := nextHead, cnt := q.cnt + 1 })

def getchars : Nat → TtyQueue → List UInt8 × TtyQueue
  | 0, q => ([], q)
  | n + 1, q =>
      let (c, q) := ttyQueueGetchar q
      if c < 0 then ([], q)
      else
        let (bytes, q) := getchars n q
        (UInt8.ofNat c.toNat :: bytes, q)

/-- The loop of `__tty_write`, which puts every character and looks at no result. -/
def putchars (data : Nat → UInt8) : Nat → Nat → TtyQueue → TtyQueue
  | 0, _, q => q
  | n + 1, i, q => putchars data n (i + 1) (ttyQueuePutchar q (data i)).2

/-- The loop of `__tty_write2`, which stops at a full queue. -/
def putcharsUntilFull (data : Nat → UInt8) : Nat → Nat → TtyQueue → Nat × TtyQueue
  | 0, written, q => (written, q)
  | n + 1, written, q =>
      let (rc, q) := ttyQueuePutchar q (data written)
      if rc < 0 then (written, q) else putcharsUntilFull data n (written + 1) q

inductive End where
  | master
  | slave
  deriving DecidableEq, Repr

structure Tty where
  magic : Int
  subtype : Int
  link : Option End
  rawQueue : TtyQueue
  outputQueue : TtyQueue

def newPair : End → Tty
  | .master => ⟨TTY_MAGIC, TTY_SUBTYPE_PTY_MASTER, some .slave, newQueue, newQueue⟩
  | .slave => ⟨TTY_MAGIC, TTY_SUBTYPE_PTY_SLAVE, some .master, newQueue, newQueue⟩

def ttyRead (tty : Tty) (size : Int) : Outcome × Tty :=
  if size = 0 then (⟨0, []⟩, tty)
  else
    let (bytes, q) := getchars size.toNat tty.rawQueue
    (⟨bytes.length, bytes⟩, { tty with rawQueue := q })

def ttyRead2 (tty : Tty) (nr : Int) : Outcome × Tty :=
  if tty.magic ≠ TTY_MAGIC ∨ nr ≤ 0 then (⟨-1, []⟩, tty)
  else
    let (bytes, q) := getchars nr.toNat tty.outputQueue
    (⟨bytes.length, bytes⟩, { tty with outputQueue := q })

def ttyWrite (tty : Tty) (buf : Nat → UInt8) (size : Int) : Outcome × Tty :=
  if size = 0 then (⟨0, []⟩, tty)
  else (⟨size, []⟩, { tty with rawQueue := putchars buf size.toNat 0 tty.rawQueue })

def ttyWrite2 (tty : Tty) (buf : Nat → UInt8) (nr : Int) : Outcome × Tty :=
  if tty.magic ≠ TTY_MAGIC ∨ nr ≤ 0 then (⟨-1, []⟩, tty)
  else
    let (written, q) := putcharsUntilFull buf nr.toNat 0 tty.outputQueue
    (⟨written, []⟩, { tty with outputQueue := q })

/-- What the calls read of the object of a descriptor of the type `ObjectTypeTTY`. -/
structure TtyFile where
  canRead : Bool
  canWrite : Bool
  tty : Option End

def writeTty (ttys : End → Tty) (e : End) (ubuf : Nat → UInt8) (count : Int) :
    Outcome × (End → Tty) :=
  if (ttys e).subtype = TTY_SUBTYPE_PTY_MASTER then
    match (ttys e).link with
    | none => (⟨-1, []⟩, ttys)
    | some l =>
        let (out, tty) := ttyWrite (ttys l) ubuf count
        (out, Function.update ttys l tty)
  else if (ttys e).subtype = TTY_SUBTYPE_PTY_SLAVE then
    match (ttys e).link with
    | none => (⟨-1, []⟩, ttys)
    | some l =>
        let (out, tty) := ttyWrite2 (ttys l) ubuf count
        (out, Function.update ttys l tty)
  else (⟨0, []⟩, ttys)

def readTty (ttys : End → Tty) (e : End) (count : Int) : Outcome × (End → Tty) :=
  if (ttys e).subtype = TTY_SUBTYPE_PTY_MASTER then
    let (out, tty) := ttyRead2 (ttys e) count
    (out, Function.update ttys e tty)
  else if (ttys e).subtype = TTY_SUBTYPE_PTY_SLAVE then
    let (out, tty) := ttyRead (ttys e) count
    (out, Function.update ttys e tty)
  else (⟨0, []⟩, ttys)

def writeImp (ttys : End → Tty) (fd : Int) (fp : TtyFile) (ubuf : Option (Nat → UInt8))
    (count : Int) : Outcome × (End → Tty) :=
  if fd < 0 ∨ OPEN_MAX ≤ fd then (⟨-EBADF, []⟩, ttys)
  else
    match ubuf with
    | none => (⟨-EINVAL, []⟩, ttys)
    | some ubuf =>
        if count < 0 then (⟨-EINVAL, []⟩, ttys)
        else if count = 0 then (⟨0, []⟩, ttys)
        else if fp.canWrite = false then (⟨-1, []⟩, ttys)
        else
          match fp.tty with
          | none => (⟨-1, []⟩, ttys)
          | some e => writeTty ttys e ubuf count

def readImp (ttys : End → Tty) (fd : Int) (fp : TtyFile) (ubuf : Bool) (count : Int) :
    Outcome × (End → Tty) :=
  if fd < 0 ∨ OPEN_MAX ≤ fd then (⟨-EBADF, []⟩, ttys)
  else if ubuf = false then (⟨-EINVAL, []⟩, ttys)
  else if count < 0 then (⟨-EINVAL, []⟩, ttys)
  else if count = 0 then (⟨0, []⟩, ttys)
  else if fp.canRead = false then (⟨-1, []⟩, ttys)
  else
    match fp.tty with
    | none => (⟨-1, []⟩, ttys)
    | some e => readTty ttys e count

def TtyQueue.occupied (q : TtyQueue) : Nat :=
  (q.head + TTY_BUF_SIZE - q.tail) % TTY_BUF_SIZE

def TtyQueue.contents (q : TtyQueue) : List UInt8 :=
  Ring.window q.buf TTY_BUF_SIZE q.tail q.occupied

structure TtyQueue.Valid (q : TtyQueue) : Prop where
  bufferSize : q.bufferSize = TTY_BUF_SIZE
  head_lt : q.head < TTY_BUF_SIZE
  tail_lt : q.tail < TTY_BUF_SIZE
  cnt : q.cnt = q.occupied

theorem valid_newQueue : newQueue.Valid := ⟨rfl, by decide, by decide, rfl⟩

theorem contents_newQueue : newQueue.contents = [] := rfl

theorem contents_length (q : TtyQueue) : q.contents.length = q.occupied := Ring.window_length ..

theorem occupied_lt (q : TtyQueue) : q.occupied < TTY_BUF_SIZE := Nat.mod_lt _ (by decide)

variable {q : TtyQueue} {n : Nat} {ttys : End → Tty} {count fd : Int} {fp : TtyFile} {e : End}

theorem ttyQueuePutchar_spec (h : q.Valid) (c : UInt8) :
    (q.occupied + 1 = TTY_BUF_SIZE ∧ ttyQueuePutchar q c = (-1, q)) ∨
      (q.occupied + 1 < TTY_BUF_SIZE ∧ (ttyQueuePutchar q c).1 = 0 ∧ (ttyQueuePutchar q c).2.Valid ∧
          (ttyQueuePutchar q c).2.contents = q.contents ++ [c]) := by
  obtain ⟨hsize, hhead, htail, hcnt⟩ := h
  have hlt := occupied_lt q
  unfold TTY_BUF_SIZE at hhead htail
  rcases Nat.lt_or_ge (q.occupied + 1) TTY_BUF_SIZE with hroom | hfull
  · right
    have hput : ttyQueuePutchar q c = (0, { q with
        buf := Function.update q.buf q.head c
        head := (q.head + 1) % TTY_BUF_SIZE
        cnt := q.cnt + 1 }) := by
      rw [ttyQueuePutchar, hsize, if_neg]
      unfold TtyQueue.occupied TTY_BUF_SIZE at hroom
      unfold TTY_BUF_SIZE
      omega
    rw [hput]
    have hoccupied : ((q.head + 1) % TTY_BUF_SIZE + TTY_BUF_SIZE - q.tail) % TTY_BUF_SIZE =
        q.occupied + 1 := by
      unfold TtyQueue.occupied TTY_BUF_SIZE at hroom ⊢
      omega
    refine ⟨hroom, rfl, ⟨hsize, Nat.mod_lt _ (by decide), htail, ?_⟩, ?_⟩
    · change q.cnt + 1 = (((q.head + 1) % TTY_BUF_SIZE + TTY_BUF_SIZE - q.tail) %
        TTY_BUF_SIZE : Nat)
      rw [hoccupied, hcnt]
      rfl
    · change Ring.window _ TTY_BUF_SIZE q.tail
        (((q.head + 1) % TTY_BUF_SIZE + TTY_BUF_SIZE - q.tail) % TTY_BUF_SIZE) = _
      rw [hoccupied]
      apply Ring.window_push _ _ hlt
      unfold TtyQueue.occupied TTY_BUF_SIZE
      omega
  · left
    refine ⟨by omega, ?_⟩
    rw [ttyQueuePutchar, hsize, if_pos]
    unfold TtyQueue.occupied TTY_BUF_SIZE at hfull
    unfold TTY_BUF_SIZE
    omega

theorem ttyQueueGetchar_spec (h : q.Valid) : (q.contents = [] ∧ ttyQueueGetchar q = (-1, q)) ∨
      ∃ c : UInt8, (ttyQueueGetchar q).1 = c.toNat ∧
        (ttyQueueGetchar q).2.Valid ∧ q.contents = c :: (ttyQueueGetchar q).2.contents := by
  obtain ⟨hsize, hhead, htail, hcnt⟩ := h
  unfold TTY_BUF_SIZE at hhead htail
  by_cases hempty : q.head = q.tail
  · left
    refine ⟨?_, if_pos hempty⟩
    have hzero : q.occupied = 0 := by
      unfold TtyQueue.occupied TTY_BUF_SIZE
      omega
    rw [TtyQueue.contents, hzero]
    rfl
  · right
    have hget : ttyQueueGetchar q = (((q.buf q.tail).toNat : Int), { q with
        tail := (q.tail + 1) % TTY_BUF_SIZE
        cnt := q.cnt - 1 }) := by
      rw [ttyQueueGetchar, hsize, if_neg hempty]
    have hoccupied : q.occupied =
        (q.head + TTY_BUF_SIZE - (q.tail + 1) % TTY_BUF_SIZE) % TTY_BUF_SIZE + 1 := by
      unfold TtyQueue.occupied TTY_BUF_SIZE
      omega
    rw [hget]
    refine ⟨q.buf q.tail, rfl, ⟨hsize, hhead, Nat.mod_lt _ (by decide), ?_⟩, ?_⟩
    · change q.cnt - 1 =
        ((q.head + TTY_BUF_SIZE - (q.tail + 1) % TTY_BUF_SIZE) % TTY_BUF_SIZE : Nat)
      rw [hcnt, hoccupied]
      omega
    · change q.contents = q.buf q.tail :: Ring.window q.buf TTY_BUF_SIZE
        ((q.tail + 1) % TTY_BUF_SIZE)
          ((q.head + TTY_BUF_SIZE - (q.tail + 1) % TTY_BUF_SIZE) % TTY_BUF_SIZE)
      have hmod : q.tail % TTY_BUF_SIZE = q.tail := Nat.mod_eq_of_lt htail
      rw [TtyQueue.contents, hoccupied, Ring.window_succ, hmod,
        Ring.window_modEq _ _ _ (q.tail + 1) _ (Nat.mod_mod _ _)]

theorem getchars_spec (h : q.Valid) :
    q.contents = (getchars n q).1 ++ (getchars n q).2.contents ∧ (getchars n q).2.Valid := by
  induction n generalizing q with
  | zero => exact ⟨rfl, h⟩
  | succ n ih =>
      rw [getchars]
      rcases ttyQueueGetchar_spec h with ⟨_, hempty⟩ | ⟨c, hc, hvalid, hcontents⟩
      · rw [hempty]
        exact ⟨rfl, h⟩
      · obtain ⟨hrest, hlast⟩ := ih hvalid
        dsimp only
        rw [hc, if_neg (by omega), hcontents, Int.toNat_natCast, UInt8.ofNat_toNat]
        exact ⟨by rw [List.cons_append, ← hrest], hlast⟩

theorem putchars_spec (data : Nat → UInt8) (i : Nat) (h : q.Valid)
    (hroom : q.occupied + n < TTY_BUF_SIZE) :
    (putchars data n i q).contents =
        q.contents ++ (List.range' i n).map data ∧ (putchars data n i q).Valid := by
  induction n generalizing i q with
  | zero => exact ⟨by simp [putchars], h⟩
  | succ n ih =>
      rw [putchars]
      rcases ttyQueuePutchar_spec h (data i) with ⟨hfull, _⟩ | ⟨_, _, hvalid, hcontents⟩
      · omega
      · have hoccupied : (ttyQueuePutchar q (data i)).2.occupied = q.occupied + 1 := by
          rw [← contents_length, hcontents, List.length_append, contents_length]
          rfl
        obtain ⟨hrest, hlast⟩ := ih (i := i + 1) hvalid (by omega)
        refine ⟨?_, hlast⟩
        rw [hrest, hcontents, List.range'_succ, List.map_cons, List.append_assoc,
          List.singleton_append]

theorem putcharsUntilFull_spec (data : Nat → UInt8) (n i : Nat) (h : q.Valid) :
    ∃ k, (putcharsUntilFull data n i q).1 = i + k ∧ k ≤ n ∧
      (putcharsUntilFull data n i q).2.contents =
        q.contents ++ (List.range' i k).map data ∧ (putcharsUntilFull data n i q).2.Valid := by
  induction n generalizing i q with
  | zero => exact ⟨0, rfl, Nat.le_refl 0, by simp [putcharsUntilFull], h⟩
  | succ n ih =>
      rw [putcharsUntilFull]
      rcases ttyQueuePutchar_spec h (data i) with ⟨_, hfull⟩ | ⟨_, hrc, hvalid, hcontents⟩
      · rw [hfull]
        exact ⟨0, rfl, Nat.zero_le _, by simp, h⟩
      · obtain ⟨k, hwritten, hk, hrest, hlast⟩ := ih (i := i + 1) hvalid
        dsimp only
        rw [hrc, if_neg (by decide)]
        refine ⟨k + 1, by omega, by omega, ?_, hlast⟩
        rw [hrest, hcontents, List.range'_succ, List.map_cons, List.append_assoc,
          List.singleton_append]

/-- The pair is linked as `tty_initialize_legacy_pty` links it, with valid queues. -/
structure PairInv (ttys : End → Tty) : Prop where
  master : (ttys .master).subtype = TTY_SUBTYPE_PTY_MASTER ∧ (ttys .master).link = some .slave ∧
    (ttys .master).magic = TTY_MAGIC ∧ (ttys .master).outputQueue.Valid
  slave : (ttys .slave).subtype = TTY_SUBTYPE_PTY_SLAVE ∧ (ttys .slave).link = some .master ∧
    (ttys .slave).rawQueue.Valid

theorem pairInv_newPair : PairInv newPair :=
  ⟨⟨rfl, rfl, rfl, valid_newQueue⟩, ⟨rfl, rfl, valid_newQueue⟩⟩

def travelling (ttys : End → Tty) : End → List UInt8
  | .slave => (ttys .slave).rawQueue.contents
  | .master => (ttys .master).outputQueue.contents

inductive PtyCall where
  | write (fd : Int) (fp : TtyFile) (ubuf : Option (Nat → UInt8)) (count : Int)
  | read (fd : Int) (fp : TtyFile) (ubuf : Bool) (count : Int)

def ptyStep (ttys : End → Tty) : PtyCall → Except String (Outcome × (End → Tty))
  | .write fd fp ubuf count => .ok (writeImp ttys fd fp ubuf count)
  | .read fd fp ubuf count => .ok (readImp ttys fd fp ubuf count)

def End.other : End → End
  | .master => .slave
  | .slave => .master

/-- The bytes for the end `e` that a call reports as accepted. -/
def acceptedFor (e : End) : PtyCall → Outcome → List UInt8
  | .write _ fp (some ubuf) _, out =>
      if fp.tty = some e.other then (List.range out.result.toNat).map ubuf else []
  | _, _ => []

def readAt (e : End) : PtyCall → Outcome → List UInt8
  | .read _ fp _ _, out => if fp.tty = some e then out.bytes else []
  | _, _ => []

/-- A write to the master has at most as many bytes as the slave has room for. -/
def Fits (ttys : End → Tty) : PtyCall → Prop
  | .write _ fp _ count =>
      fp.tty = some .master → count + (ttys .slave).rawQueue.occupied < TTY_BUF_SIZE
  | .read _ _ _ _ => True

instance (ttys : End → Tty) : ∀ call, Decidable (Fits ttys call)
  | .write _ _ _ _ => inferInstanceAs (Decidable (_ → _))
  | .read _ _ _ _ => inferInstanceAs (Decidable True)

/-- The call puts exactly the bytes that it reports behind those that travel to an end, and
takes those that it reads from their front. -/
def Conveys (ttys : End → Tty) (call : PtyCall) (out : Outcome) (ttys' : End → Tty) : Prop :=
  ∀ e, travelling ttys e ++ acceptedFor e call out = readAt e call out ++ travelling ttys' e

variable {call : PtyCall}

theorem writeTty_master (h : PairInv ttys) (ubuf : Nat → UInt8) (hpos : 0 < count)
    (hroom : count + (ttys .slave).rawQueue.occupied < TTY_BUF_SIZE) :
    (writeTty ttys .master ubuf count).1.result = count ∧
      travelling (writeTty ttys .master ubuf count).2 .slave =
        travelling ttys .slave ++ (List.range count.toNat).map ubuf ∧
          travelling (writeTty ttys .master ubuf count).2 .master = travelling ttys .master ∧
            PairInv (writeTty ttys .master ubuf count).2 := by
  obtain ⟨⟨hsub, hlink, hmagic, hout⟩, hsub', hlink', hraw⟩ := h
  obtain ⟨hcontents, hvalid⟩ := putchars_spec ubuf (n := count.toNat) 0 hraw (by omega)
  rw [writeTty, if_pos hsub, hlink]
  dsimp only
  rw [ttyWrite, if_neg (by omega)]
  refine ⟨rfl, ?_, ?_, ⟨?_, ?_⟩⟩
  · rw [travelling, Function.update_self, hcontents, List.range_eq_range']
    rfl
  · rw [travelling, Function.update_of_ne (by decide)]
    rfl
  · rw [Function.update_of_ne (by decide)]
    exact ⟨hsub, hlink, hmagic, hout⟩
  · rw [Function.update_self]
    exact ⟨hsub', hlink', hvalid⟩

theorem writeTty_slave (h : PairInv ttys) (ubuf : Nat → UInt8) (hpos : 0 < count) :
    travelling (writeTty ttys .slave ubuf count).2 .slave = travelling ttys .slave ∧
      travelling (writeTty ttys .slave ubuf count).2 .master = travelling ttys .master ++
          (List.range (writeTty ttys .slave ubuf count).1.result.toNat).map ubuf ∧
        PairInv (writeTty ttys .slave ubuf count).2 := by
  obtain ⟨⟨hsub, hlink, hmagic, hout⟩, hsub', hlink', hraw⟩ := h
  obtain ⟨k, hwritten, _, hcontents, hvalid⟩ := putcharsUntilFull_spec ubuf count.toNat 0 hout
  have hwrite : writeTty ttys .slave ubuf count =
      (⟨(putcharsUntilFull ubuf count.toNat 0 (ttys .master).outputQueue).1, []⟩,
        Function.update ttys .master { ttys .master with
          outputQueue := (putcharsUntilFull ubuf count.toNat 0 (ttys .master).outputQueue).2 }) := by
    rw [writeTty, if_neg (by rw [hsub']; decide), if_pos hsub', hlink']
    dsimp only
    rw [ttyWrite2, if_neg (not_or.mpr ⟨not_not.mpr hmagic, by omega⟩)]
  rw [hwrite]
  dsimp only
  refine ⟨?_, ?_, ⟨?_, ?_⟩⟩
  · rw [travelling, Function.update_of_ne (by decide)]
    rfl
  · rw [travelling, Function.update_self, hcontents, hwritten, Nat.zero_add, Int.toNat_natCast,
      List.range_eq_range']
    rfl
  · rw [Function.update_self]
    exact ⟨hsub, hlink, hmagic, hvalid⟩
  · rw [Function.update_of_ne (by decide)]
    exact ⟨hsub', hlink', hraw⟩

theorem readTty_master (h : PairInv ttys) (hpos : 0 < count) :
    travelling (readTty ttys .master count).2 .slave = travelling ttys .slave ∧
      travelling ttys .master =
          (readTty ttys .master count).1.bytes ++ travelling (readTty ttys .master count).2 .master ∧
        PairInv (readTty ttys .master count).2 := by
  obtain ⟨⟨hsub, hlink, hmagic, hout⟩, hsub', hlink', hraw⟩ := h
  obtain ⟨hcontents, hvalid⟩ := getchars_spec (n := count.toNat) hout
  have hread : readTty ttys .master count =
      (⟨(getchars count.toNat (ttys .master).outputQueue).1.length,
        (getchars count.toNat (ttys .master).outputQueue).1⟩,
        Function.update ttys .master { ttys .master with
          outputQueue := (getchars count.toNat (ttys .master).outputQueue).2 }) := by
    rw [readTty, if_pos hsub, ttyRead2, if_neg (not_or.mpr ⟨not_not.mpr hmagic, by omega⟩)]
  rw [hread]
  dsimp only
  refine ⟨?_, ?_, ⟨?_, ?_⟩⟩
  · rw [travelling, Function.update_of_ne (by decide)]
    rfl
  · rw [travelling, travelling, Function.update_self]
    exact hcontents
  · rw [Function.update_self]
    exact ⟨hsub, hlink, hmagic, hvalid⟩
  · rw [Function.update_of_ne (by decide)]
    exact ⟨hsub', hlink', hraw⟩

theorem readTty_slave (h : PairInv ttys) (hpos : 0 < count) : travelling ttys .slave =
        (readTty ttys .slave count).1.bytes ++ travelling (readTty ttys .slave count).2 .slave ∧
      travelling (readTty ttys .slave count).2 .master = travelling ttys .master ∧
        PairInv (readTty ttys .slave count).2 := by
  obtain ⟨⟨hsub, hlink, hmagic, hout⟩, hsub', hlink', hraw⟩ := h
  obtain ⟨hcontents, hvalid⟩ := getchars_spec (n := count.toNat) hraw
  have hread : readTty ttys .slave count = (⟨(getchars count.toNat (ttys .slave).rawQueue).1.length,
        (getchars count.toNat (ttys .slave).rawQueue).1⟩,
        Function.update ttys .slave { ttys .slave with
          rawQueue := (getchars count.toNat (ttys .slave).rawQueue).2 }) := by
    rw [readTty, if_neg (by rw [hsub']; decide), if_pos hsub', ttyRead, if_neg (by omega)]
  rw [hread]
  dsimp only
  refine ⟨?_, ?_, ⟨?_, ?_⟩⟩
  · rw [travelling, travelling, Function.update_self]
    exact hcontents
  · rw [travelling, Function.update_of_ne (by decide)]
    rfl
  · rw [Function.update_of_ne (by decide)]
    exact ⟨hsub, hlink, hmagic, hout⟩
  · rw [Function.update_self]
    exact ⟨hsub', hlink', hvalid⟩

theorem conveys_refused {rc : Int} (h : rc ≤ 0) : Conveys ttys call ⟨rc, []⟩ ttys := by
  intro e
  have hzero : rc.toNat = 0 := by omega
  cases call with
  | write fd fp ubuf count =>
      cases ubuf <;> simp [acceptedFor, readAt, hzero]
  | read fd fp ubuf count => simp [acceptedFor, readAt]

theorem writeTty_conveys {ubuf : Nat → UInt8} (hinv : PairInv ttys) (htty : fp.tty = some e)
    (hpos : 0 < count) (hfits : Fits ttys (.write fd fp (some ubuf) count)) :
    Conveys ttys (.write fd fp (some ubuf) count) (writeTty ttys e ubuf count).1
        (writeTty ttys e ubuf count).2 ∧ PairInv (writeTty ttys e ubuf count).2 := by
  cases e with
  | master =>
      obtain ⟨hrc, hslave, hmaster, hinv'⟩ := writeTty_master hinv ubuf hpos (hfits htty)
      refine ⟨?_, hinv'⟩
      intro e
      cases e with
      | master => simp [acceptedFor, readAt, htty, End.other, hmaster]
      | slave => simp [acceptedFor, readAt, htty, End.other, hslave, hrc]
  | slave =>
      obtain ⟨hslave, hmaster, hinv'⟩ := writeTty_slave hinv ubuf hpos
      refine ⟨?_, hinv'⟩
      intro e
      cases e with
      | master => simp [acceptedFor, readAt, htty, End.other, hmaster]
      | slave => simp [acceptedFor, readAt, htty, End.other, hslave]

theorem readTty_conveys {ubuf : Bool} (hinv : PairInv ttys) (htty : fp.tty = some e)
    (hpos : 0 < count) :
    Conveys ttys (.read fd fp ubuf count) (readTty ttys e count).1 (readTty ttys e count).2 ∧
      PairInv (readTty ttys e count).2 := by
  cases e with
  | master =>
      obtain ⟨hslave, hmaster, hinv'⟩ := readTty_master hinv hpos
      refine ⟨?_, hinv'⟩
      intro e
      cases e with
      | master => simp [acceptedFor, readAt, htty, ← hmaster]
      | slave => simp [acceptedFor, readAt, htty, hslave]
  | slave =>
      obtain ⟨hslave, hmaster, hinv'⟩ := readTty_slave hinv hpos
      refine ⟨?_, hinv'⟩
      intro e
      cases e with
      | master => simp [acceptedFor, readAt, htty, hmaster]
      | slave => simp [acceptedFor, readAt, htty, ← hslave]

theorem writeImp_cases (ttys : End → Tty) (fd : Int) (fp : TtyFile)
    (ubuf : Option (Nat → UInt8)) (count : Int) :
    (∃ rc ≤ 0, writeImp ttys fd fp ubuf count = (⟨rc, []⟩, ttys)) ∨
      ∃ data e, ubuf = some data ∧ fp.tty = some e ∧ 0 < count ∧
        writeImp ttys fd fp ubuf count = writeTty ttys e data count := by
  unfold writeImp
  split
  · exact .inl ⟨_, by decide, rfl⟩
  split
  · exact .inl ⟨_, by decide, rfl⟩
  rename_i data
  split
  · exact .inl ⟨_, by decide, rfl⟩
  split
  · exact .inl ⟨_, by decide, rfl⟩
  split
  · exact .inl ⟨_, by decide, rfl⟩
  split
  · exact .inl ⟨_, by decide, rfl⟩
  · rename_i e htty
    exact .inr ⟨data, e, rfl, htty, by omega, rfl⟩

theorem readImp_cases (ttys : End → Tty) (fd : Int) (fp : TtyFile) (ubuf : Bool)
    (count : Int) :
    (∃ rc ≤ 0, readImp ttys fd fp ubuf count = (⟨rc, []⟩, ttys)) ∨
      ∃ e, fp.tty = some e ∧ 0 < count ∧ readImp ttys fd fp ubuf count = readTty ttys e count := by
  unfold readImp
  split
  · exact .inl ⟨_, by decide, rfl⟩
  split
  · exact .inl ⟨_, by decide, rfl⟩
  split
  · exact .inl ⟨_, by decide, rfl⟩
  split
  · exact .inl ⟨_, by decide, rfl⟩
  split
  · exact .inl ⟨_, by decide, rfl⟩
  split
  · exact .inl ⟨_, by decide, rfl⟩
  · rename_i e htty
    exact .inr ⟨e, htty, by omega, rfl⟩

theorem ptyStep_conveys {ttys' : End → Tty} {out : Outcome} (hinv : PairInv ttys)
    (hfits : Fits ttys call) (hstep : ptyStep ttys call = .ok (out, ttys')) :
    Conveys ttys call out ttys' ∧ PairInv ttys' := by
  cases call with
  | write fd fp ubuf count =>
      rw [ptyStep] at hstep
      injection hstep with hstep
      rcases writeImp_cases ttys fd fp ubuf count with
        ⟨rc, hrc, hwrite⟩ | ⟨data, e, rfl, htty, hpos, hwrite⟩
      · rw [hwrite] at hstep
        cases hstep
        exact ⟨conveys_refused hrc, hinv⟩
      · have hconveys := writeTty_conveys hinv htty hpos hfits
        rw [hwrite] at hstep
        rw [hstep] at hconveys
        exact hconveys
  | read fd fp ubuf count =>
      rw [ptyStep] at hstep
      injection hstep with hstep
      rcases readImp_cases ttys fd fp ubuf count with ⟨rc, hrc, hread⟩ | ⟨e, htty, hpos, hread⟩
      · rw [hread] at hstep
        cases hstep
        exact ⟨conveys_refused hrc, hinv⟩
      · have hconveys : Conveys ttys (.read fd fp ubuf count) (readTty ttys e count).1
            (readTty ttys e count).2 ∧ PairInv (readTty ttys e count).2 :=
          readTty_conveys hinv htty hpos
        rw [hread] at hstep
        rw [hstep] at hconveys
        exact hconveys

/-- The duplex channel: what has been read at an end and what still travels to it is what the
writes of the other end have reported as accepted, and the next call puts into the queue
exactly what it reports. -/
theorem pty_run_duplex {calls : List PtyCall} {outs : List Outcome} {ttys ttys' : End → Tty}
    {call : PtyCall} {out : Outcome} (hfits : Guarded ptyStep Fits newPair calls)
    (hrun : run ptyStep newPair calls = .ok (outs, ttys)) (hcall : Fits ttys call)
    (hstep : ptyStep ttys call = .ok (out, ttys')) :
    (∀ e, gather (acceptedFor e) calls outs =
        gather (readAt e) calls outs ++ travelling ttys e) ∧ Conveys ttys call out ttys' := by
  have hlast := run_invariant PairInv
    (fun s call out t hs hf ht => (ptyStep_conveys hs hf ht).2) pairInv_newPair hfits hrun
  refine ⟨?_, (ptyStep_conveys hlast hcall hstep).1⟩
  intro e
  have hfifo := run_fifo PairInv (fun s => travelling s e) (acceptedFor e) (readAt e)
    (fun s call out t hs hf ht => by
      obtain ⟨hconveys, hinv⟩ := ptyStep_conveys hs hf ht
      exact ⟨hconveys e, hinv⟩) pairInv_newPair hfits hrun
  have hstart : travelling newPair e = [] := by
    cases e <;> rfl
  rw [hstart, List.nil_append] at hfifo
  exact hfifo

def masterFile : TtyFile := ⟨true, true, some .master⟩

def slaveFile : TtyFile := ⟨true, true, some .slave⟩

def writeTwo : List PtyCall :=
  [.write 3 masterFile (some fun _ => 65) 2]

theorem run_writeTwo : ∃ ttys, run ptyStep newPair writeTwo = .ok ([⟨2, []⟩], ttys) ∧
      Fits ttys (.read 3 slaveFile true 1) :=
  ⟨_, rfl, trivial⟩

theorem pty_run_duplex_example :
    ∃ ttys, run ptyStep newPair writeTwo = .ok ([⟨2, []⟩], ttys) ∧
      gather (acceptedFor .slave) writeTwo [⟨2, []⟩] =
        gather (readAt .slave) writeTwo [⟨2, []⟩] ++ travelling ttys .slave := by
  obtain ⟨ttys, hrun, hcall⟩ := run_writeTwo
  have hfits : Guarded ptyStep Fits newPair writeTwo := guarded_singleton (by decide)
  exact ⟨ttys, hrun, (pty_run_duplex hfits hrun hcall rfl).1 .slave⟩

/-- A write of more bytes than there is room for reports them all. -/
theorem write_reports_too_much :
    ∃ out ttys, run ptyStep newPair [.write 3 masterFile (some fun _ => 65) 1024] =
        .ok ([out], ttys) ∧ out.result = 1024 ∧ (travelling ttys .slave).length < 1024 := by
  refine ⟨_, _, rfl, rfl, ?_⟩
  rw [travelling, contents_length]
  exact occupied_lt _

end Gramado.Io.Pty
