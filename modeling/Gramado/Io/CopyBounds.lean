import Gramado.Io.StreamFifo

/-! Which memory the reads and writes of an open file touch. -/

namespace Gramado.Io.CopyBounds

open Library.Run Io.FileObject Io.FileBuffer Io.Stdio Io.StreamFifo

/-- `sys_lseek` on a descriptor that the current process has open. -/
def sysLseek (f : File) (offset whence : Int) : Except String (Outcome × File) :=
  if whence < 0 then .ok (⟨-EINVAL, []⟩, f)
  else if f.magic ≠ 1234 then .ok (⟨-1, []⟩, f)
  else
    match kFseek f offset whence with
    | .error e => .error e
    | .ok (_, f) =>
        if f.p < f.base then .error "sys_lseek: #fixme f->_p < f->_base\n"
        else .ok (⟨f.p - f.base, []⟩, f)

/-- The calls that read, write and reposition an open file. -/
inductive FileCall where
  | fileReadBuffer (buffer : Bool) (len : Int)
  | fileWriteBuffer (string : Option (Nat → UInt8)) (len : Int)
  | kFseek (offset whence : Int)
  | sysLseek (offset whence : Int)
  | kRewind
  | sysSetFileSync (request data : Int)

def fileStep (f : File) : FileCall → Except String (Outcome × File)
  | .fileReadBuffer buffer len => .ok (fileReadBuffer f buffer len)
  | .fileWriteBuffer string len => .ok (fileWriteBuffer f string len)
  | .kFseek offset whence => kFseek f offset whence
  | .sysLseek offset whence => sysLseek f offset whence
  | .kRewind => .ok (⟨0, []⟩, kRewind f)
  | .sysSetFileSync request data => .ok (⟨0, []⟩, sysSetFileSync f request data)

def InBuffer (f : File) (i : Int) : Prop :=
  0 ≤ i ∧ i < f.lbfsize

instance (f : File) (i : Int) : Decidable (InBuffer f i) :=
  inferInstanceAs (Decidable (_ ∧ _))

/-- No write, whatever it is given, touches the memory outside of the buffer. -/
def WritesInside (f : File) : Prop :=
  ∀ (string : Option (Nat → UInt8)) (len i : Int), ¬ InBuffer f i →
    (fileWriteBuffer f string len).2.buf i = f.buf i

def ReadsInside (f : File) : Prop :=
  ∀ (buf : Int → UInt8) (buffer : Bool) (len : Int), (∀ i, InBuffer f i → buf i = f.buf i) →
    (fileReadBuffer { f with buf := buf } buffer len).1 = (fileReadBuffer f buffer len).1

def seekTarget (f : File) (offset whence : Int) : Option Int :=
  if whence = SEEK_SET then some (toInt32 (min (max offset 0) f.cnt))
  else if whence = SEEK_CUR then some (toInt32 (f.p + min offset f.cnt - f.base))
  else if whence = SEEK_END then some (toInt32 (f.fsize + min offset 0))
  else none

/-- Behind the offset `x` the buffer has the room that `_cnt` counts, or no write gets as far
as to use it. -/
def RoomAt (f : File) (x : Int) : Prop :=
  (BUFSIZ : Int) < f.lbfsize ∨ x < 0 ∨ (BUFSIZ : Int) ≤ x ∨ f.cnt ≤ max (f.lbfsize - x) 0

def Roomy (f : File) : FileCall → Prop
  | .kFseek offset whence => ∀ x ∈ seekTarget f offset whence, RoomAt f x
  | .sysLseek offset whence => ∀ x ∈ seekTarget f offset whence, RoomAt f x
  | _ => True

/-- What keeps the copies inside of the buffer. Beyond `BUFSIZ` no write is served, and a
buffer that is longer has been filled by nothing but its opening. -/
structure Bounded (f : File) : Prop where
  object : f.object = .file ∨ f.object = .tty
  lbfsize_nonneg : 0 ≤ f.lbfsize
  readable : f.w ≤ f.r ∨ f.w ≤ f.lbfsize
  cnt_nonneg : f.lbfsize ≤ BUFSIZ → 0 ≤ f.cnt
  cnt_le : f.lbfsize ≤ BUFSIZ → f.cnt ≤ f.lbfsize
  room : f.lbfsize ≤ BUFSIZ → 0 ≤ f.w → f.w < BUFSIZ →
    f.r ≤ f.w ∧ f.cnt ≤ max (f.lbfsize - f.w) 0

variable {f g : File} {len offset whence i : Int} {out : Outcome} {buf : Int → UInt8}

theorem readStream_bounded (h : Bounded f) (count : Int) : Bounded (readStream f count).2 := by
  obtain ⟨hobject, hnonneg, hreadable, hcnt, hle, hroom⟩ := h
  unfold readStream
  split
  · exact ⟨hobject, hnonneg, hreadable, hcnt, hle, hroom⟩
  split
  · exact ⟨hobject, hnonneg, hreadable, hcnt, hle, hroom⟩
  split
  · refine ⟨hobject, hnonneg, ?_, hcnt, hle, ?_⟩
    · dsimp only
      omega
    · intro hsmall hw hlt
      exact ⟨hw, (hroom hsmall hw hlt).2⟩
  split
  · exact ⟨hobject, hnonneg, hreadable, hcnt, hle, hroom⟩
  split
  · refine ⟨hobject, hnonneg, .inl (le_refl _), hcnt, hle, ?_⟩
    intro hsmall hw hlt
    exact ⟨le_refl _, (hroom hsmall hw hlt).2⟩
  generalize (if f.lbfsize < count then f.lbfsize - 1 else count) = n
  dsimp only
  split
  · exact ⟨hobject, hnonneg, hreadable, hcnt, hle, hroom⟩
  have hdelta : (if f.w - f.r < n then f.w - f.r else n) ≤ f.w - f.r := by
    split <;> omega
  generalize (if f.w - f.r < n then f.w - f.r else n) = m at hdelta ⊢
  split
  · exact ⟨hobject, hnonneg, hreadable, hcnt, hle, hroom⟩
  · rw [if_neg (by omega)]
    refine ⟨hobject, hnonneg, ?_, hcnt, hle, ?_⟩
    · dsimp only
      omega
    · intro hsmall hw hlt
      refine ⟨?_, (hroom hsmall hw hlt).2⟩
      dsimp only
      omega

theorem fileReadBuffer_bounded (h : Bounded f) (buffer : Bool) (len : Int) :
    Bounded (fileReadBuffer f buffer len).2 := by
  unfold fileReadBuffer
  dsimp only
  split
  · exact h
  split
  · exact h
  split
  · exact h
  split
  · exact h
  rcases h.object with hobject | hobject
  · rw [hobject]
    exact readStream_bounded h _
  · rw [hobject]
    exact readStream_bounded h _

theorem storeStream_bounded (h : Bounded f) (string : Nat → UInt8) (hsmall : f.lbfsize ≤ BUFSIZ)
    (hw : 0 ≤ f.w) (hlt : f.w < BUFSIZ) (hlen : 0 ≤ len) (hcnt : len ≤ f.cnt) :
    Bounded (storeStream f string len).2 := by
  obtain ⟨hr, hroom⟩ := h.room hsmall hw hlt
  have hnonneg := h.lbfsize_nonneg
  have hle := h.cnt_le hsmall
  have hreadable := h.readable
  unfold storeStream
  rw [if_neg (by omega)]
  refine ⟨h.object, h.lbfsize_nonneg, ?_, ?_, ?_, ?_⟩
  · dsimp only
    omega
  · intro _
    dsimp only
    omega
  · intro _
    dsimp only
    omega
  · intro _ _ _
    dsimp only
    omega

theorem writeStream_bounded (h : Bounded f) (string : Nat → UInt8) (len : Int) :
    Bounded (writeStream f string len).2 := by
  obtain ⟨hobject, hnonneg, hreadable, hcnt, hle, hroom⟩ := h
  unfold writeStream
  split
  · exact ⟨hobject, hnonneg, hreadable, hcnt, hle, hroom⟩
  have hsmall : f.lbfsize ≤ BUFSIZ := by omega
  have hcnt' := hcnt hsmall
  have hle' := hle hsmall
  split
  · refine ⟨hobject, hnonneg, .inl (le_refl _), fun _ => hnonneg, fun _ => le_refl _, ?_⟩
    intro _ _ _
    exact ⟨le_refl _, by dsimp only; omega⟩
  split
  · refine ⟨hobject, hnonneg, ?_, fun _ => le_refl _, fun _ => hnonneg, ?_⟩
    · dsimp only
      omega
    · intro _ _ hlt
      exact absurd hlt (lt_irrefl _)
  rw [if_neg (by omega)]
  have hnot : ¬ f.lbfsize < f.cnt := by omega
  simp only [hnot, if_false]
  split
  · exact ⟨hobject, hnonneg, hreadable, hcnt, hle, hroom⟩
  split
  · split
    · refine ⟨hobject, hnonneg, .inl (le_refl _), fun _ => le_refl _, fun _ => hnonneg, ?_⟩
      intro _ _ _
      exact ⟨le_refl _, by dsimp only; omega⟩
    · exact storeStream_bounded ⟨hobject, hnonneg, hreadable, hcnt, hle, hroom⟩ string hsmall
        (by omega) (by omega) (by omega) (le_refl _)
  · exact storeStream_bounded ⟨hobject, hnonneg, hreadable, hcnt, hle, hroom⟩ string hsmall
      (by omega) (by omega) (by omega) (by omega)

theorem fileWriteBuffer_bounded (h : Bounded f) (string : Option (Nat → UInt8)) (len : Int) :
    Bounded (fileWriteBuffer f string len).2 := by
  cases string with
  | none => exact h
  | some string =>
      unfold fileWriteBuffer
      dsimp only
      split
      · exact h
      rcases h.object with hobject | hobject
      · rw [hobject]
        exact writeStream_bounded h string len
      · rw [hobject]
        exact writeStream_bounded h string len

theorem kFseek_moves (hstep : kFseek f offset whence = .ok (out, g)) : g = f ∨
      (∃ x ∈ seekTarget f offset whence, ∃ p, g = { f with r := x, w := x, p := p }) ∨
      ∃ buf, g = { f with buf := buf, p := f.base, r := 0, w := 0, cnt := f.lbfsize } := by
  unfold kFseek at hstep
  split at hstep
  · cases hstep
    exact .inl rfl
  split at hstep
  · rename_i hset
    cases hstep
    refine .inr (.inl ⟨_, ?_, _, rfl⟩)
    rw [seekTarget, if_pos hset]
    congr 2
    split <;> split <;> omega
  rename_i hset
  split at hstep
  · rename_i hcur
    cases hstep
    refine .inr (.inl ⟨_, ?_, _, rfl⟩)
    rw [seekTarget, if_neg hset, if_pos hcur]
    congr 2
    split <;> dsimp only <;> omega
  rename_i hcur
  split at hstep
  · rename_i hend
    have hmin : (if 0 < offset then 0 else offset) = min offset 0 := by
      split <;> omega
    rw [hmin] at hstep
    dsimp only at hstep
    split at hstep
    · cases hstep
    split at hstep
    · cases hstep
    cases hstep
    refine .inr (.inl ⟨_, ?_, _, rfl⟩)
    rw [seekTarget, if_neg hset, if_neg hcur, if_pos hend]
    rfl
  split at hstep
  · cases hstep
    exact .inr (.inr ⟨_, rfl⟩)
  · cases hstep
    exact .inl rfl

theorem kFseek_bounded (h : Bounded f) (hroomy : Roomy f (.kFseek offset whence))
    (hstep : kFseek f offset whence = .ok (out, g)) : Bounded g := by
  obtain ⟨hobject, hnonneg, hreadable, hcnt, hle, hroom⟩ := h
  rcases kFseek_moves hstep with rfl | ⟨x, hx, p, rfl⟩ | ⟨buf, rfl⟩
  · exact ⟨hobject, hnonneg, hreadable, hcnt, hle, hroom⟩
  · have hat := hroomy x hx
    refine ⟨hobject, hnonneg, .inl (le_refl _), hcnt, hle, ?_⟩
    intro hsmall hw hlt
    dsimp only at hsmall hw hlt ⊢
    rw [RoomAt] at hat
    omega
  · refine ⟨hobject, hnonneg, .inl (le_refl _), fun _ => hnonneg, fun _ => le_refl _, ?_⟩
    intro _ _ _
    dsimp only
    omega

theorem sysLseek_bounded (h : Bounded f) (hroomy : Roomy f (.sysLseek offset whence))
    (hstep : sysLseek f offset whence = .ok (out, g)) : Bounded g := by
  unfold sysLseek at hstep
  split at hstep
  · cases hstep
    exact h
  split at hstep
  · cases hstep
    exact h
  split at hstep
  · cases hstep
  · rename_i seekOut g' hseek
    split at hstep
    · cases hstep
    · cases hstep
      exact kFseek_bounded h hroomy hseek

theorem sysSetFileSync_bounded (h : Bounded f) (request data : Int) :
    Bounded (sysSetFileSync f request data) := by
  obtain ⟨hobject, hnonneg, hreadable, hcnt, hle, hroom⟩ := h
  unfold sysSetFileSync kRewind
  split
  · exact ⟨hobject, hnonneg, hreadable, hcnt, hle, hroom⟩
  split
  · exact ⟨hobject, hnonneg, hreadable, hcnt, hle, hroom⟩
  split
  · refine ⟨hobject, hnonneg, .inl (le_refl _), hcnt, hle, ?_⟩
    intro hsmall _ _
    have hfits := hle hsmall
    dsimp only at hfits ⊢
    omega
  split
  · exact ⟨hobject, hnonneg, hreadable, hcnt, hle, hroom⟩
  · exact ⟨hobject, hnonneg, hreadable, hcnt, hle, hroom⟩

theorem fileStep_bounded (f : File) (call : FileCall) (out : Outcome) (g : File)
    (h : Bounded f) (hroomy : Roomy f call) (hstep : fileStep f call = .ok (out, g)) :
    Bounded g := by
  cases call with
  | fileReadBuffer buffer len =>
      have hg : (fileReadBuffer f buffer len).2 = g := congrArg Prod.snd (Except.ok.inj hstep)
      rw [← hg]
      exact fileReadBuffer_bounded h buffer len
  | fileWriteBuffer string len =>
      have hg : (fileWriteBuffer f string len).2 = g := congrArg Prod.snd (Except.ok.inj hstep)
      rw [← hg]
      exact fileWriteBuffer_bounded h string len
  | kFseek offset whence => exact kFseek_bounded h hroomy hstep
  | sysLseek offset whence => exact sysLseek_bounded h hroomy hstep
  | kRewind =>
      cases hstep
      exact ⟨h.object, h.lbfsize_nonneg, h.readable, h.cnt_nonneg, h.cnt_le, h.room⟩
  | sysSetFileSync request data =>
      have hg : sysSetFileSync f request data = g := congrArg Prod.snd (Except.ok.inj hstep)
      rw [← hg]
      exact sysSetFileSync_bounded h request data

theorem opened_bounded (h : Opened f) : Bounded f := by
  have hinv := (opened_stream h).inv
  obtain ⟨hr, hrw, hw, hcnt, _, _⟩ := hinv
  refine ⟨(opened_stream h).object, by omega, .inr hw, fun _ => by omega, fun _ => by omega, ?_⟩
  intro _ _ _
  omega

theorem storeStream_buf_outside (string : Nat → UInt8)
    (hi : i < max f.w f.r ∨ max f.w f.r + len ≤ i) :
    (storeStream f string len).2.buf i = f.buf i := by
  rw [storeStream_buf, writeBytes, if_neg (by omega)]

theorem writeStream_buf_outside (h : Bounded f) (string : Nat → UInt8) (len : Int)
    (hi : ¬ InBuffer f i) : (writeStream f string len).2.buf i = f.buf i := by
  rw [InBuffer] at hi
  unfold writeStream
  split
  · rfl
  have hsmall : f.lbfsize ≤ BUFSIZ := by omega
  have hcnt := h.cnt_nonneg hsmall
  have hle := h.cnt_le hsmall
  split
  · rfl
  split
  · rfl
  obtain ⟨hr, hroom⟩ := h.room hsmall (by omega) (by omega)
  rw [if_neg (by omega)]
  have hnot : ¬ f.lbfsize < f.cnt := by omega
  simp only [hnot, if_false]
  split
  · rfl
  split
  · split
    · rfl
    · exact storeStream_buf_outside string (by omega)
  · exact storeStream_buf_outside string (by omega)

theorem writesInside (h : Bounded f) : WritesInside f := by
  intro string len i hi
  cases string with
  | none => rfl
  | some string =>
      unfold fileWriteBuffer
      dsimp only
      split
      · rfl
      rcases h.object with hobject | hobject
      · rw [hobject]
        exact writeStream_buf_outside h string len hi
      · rw [hobject]
        exact writeStream_buf_outside h string len hi

theorem readBytes_congr {buf' : Int → UInt8} {start : Int} {len : Nat}
    (h : ∀ i, start ≤ i → i < start + len → buf i = buf' i) :
    readBytes buf start len = readBytes buf' start len := by
  apply List.map_congr_left
  intro i hi
  have hlt := List.mem_range.mp hi
  exact h _ (by omega) (by omega)

/-- What `file_read_buffer` returns, which is also how many bytes it copies. -/
def readCount (f : File) (count : Int) : Int :=
  if f.lbfsize ≤ 0 ∨ 8 * 1024 < f.lbfsize ∨ f.r < 0 ∨ f.lbfsize < f.r then EOF
  else if f.w ≤ f.r then 0
  else
    let count := min (if f.lbfsize < count then f.lbfsize - 1 else count) (f.w - f.r)
    if count ≤ 0 then EOF else count

theorem readStream_outcome (f : File) (count : Int) : (readStream f count).1 =
      ⟨readCount f count, readBytes f.buf f.r (readCount f count).toNat⟩ := by
  by_cases hbad : f.lbfsize ≤ 0 ∨ 8 * 1024 < f.lbfsize ∨ f.r < 0 ∨ f.lbfsize < f.r
  · rw [show readCount f count = EOF from if_pos hbad]
    unfold readStream
    split
    · rfl
    split
    · rfl
    split
    · rfl
    split
    · rfl
    · omega
  rcases le_or_gt f.w f.r with hle | hlt
  · rw [show readCount f count = 0 by rw [readCount, if_neg hbad, if_pos hle]]
    unfold readStream
    rw [if_neg (by omega), if_neg (by omega), if_neg (by omega), if_neg (by omega)]
    split
    · rfl
    · dsimp only
      rw [if_pos (by omega)]
      rfl
  · rw [readCount, if_neg hbad, if_neg (not_le_of_gt hlt)]
    unfold readStream
    rw [if_neg (by omega), if_neg (by omega), if_neg (by omega), if_neg (by omega),
      if_neg (by omega)]
    generalize (if f.lbfsize < count then f.lbfsize - 1 else count) = n
    have hmin : (if f.w - f.r < n then f.w - f.r else n) = min n (f.w - f.r) := by
      split <;> omega
    have hdelta : ¬ f.w - f.r = 0 := by omega
    dsimp only
    rw [if_neg hdelta, hmin, show f.base + f.r - f.base = f.r by omega]
    generalize min n (f.w - f.r) = m
    by_cases hm : m ≤ 0
    · simp only [if_pos hm]
      rfl
    · simp only [if_neg hm]

theorem readCount_le (f : File) (count : Int) :
    readCount f count ≤ 0 ∨ 0 ≤ f.r ∧ f.r + readCount f count ≤ f.w := by
  unfold readCount
  split
  · exact .inl (by decide)
  split
  · exact .inl (le_refl _)
  generalize (if f.lbfsize < count then f.lbfsize - 1 else count) = n
  dsimp only
  split
  · exact .inl (by decide)
  · exact .inr ⟨by omega, by omega⟩

theorem readStream_buf_inside (h : Bounded f) (count : Int)
    (hsame : ∀ i, InBuffer f i → buf i = f.buf i) :
    (readStream { f with buf := buf } count).1 = (readStream f count).1 := by
  have hreadable := h.readable
  have hle := readCount_le f count
  have hcount : readCount { f with buf := buf } count = readCount f count := rfl
  rw [readStream_outcome, readStream_outcome, hcount]
  congr 1
  apply readBytes_congr
  intro i hi hlt
  apply hsame
  rw [InBuffer]
  dsimp only at hi hlt
  omega

theorem fileReadBuffer_eq (hobject : f.object = .file ∨ f.object = .tty) (buffer : Bool)
    (len : Int) :
    fileReadBuffer f buffer len =
      if ¬ f.Valid ∨ buffer = false ∨ len % 0x10000 ≤ 0 ∨ f.lbfsize < len % 0x10000 then
        (⟨EOF, []⟩, f)
      else readStream f (len % 0x10000) := by
  unfold fileReadBuffer
  dsimp only
  split
  · rename_i hinvalid
    rw [if_pos (.inl hinvalid)]
  rename_i hvalid
  split
  · rename_i hnull
    rw [if_pos (.inr (.inl hnull))]
  rename_i hbuffer
  split
  · rename_i hempty
    rw [if_pos (.inr (.inr (.inl hempty)))]
  rename_i hpos
  split
  · rename_i hbig
    rw [if_pos (.inr (.inr (.inr hbig)))]
  rename_i hfits
  rw [if_neg (not_or.mpr ⟨hvalid, not_or.mpr ⟨hbuffer, not_or.mpr ⟨hpos, hfits⟩⟩⟩)]
  rcases hobject with hobject | hobject
  · rw [hobject]
  · rw [hobject]

theorem readsInside (h : Bounded f) : ReadsInside f := by
  intro buf buffer len hsame
  rw [fileReadBuffer_eq h.object, fileReadBuffer_eq (f := { f with buf := buf }) h.object]
  by_cases hfail : ¬ f.Valid ∨ buffer = false ∨ len % 0x10000 ≤ 0 ∨ f.lbfsize < len % 0x10000
  · rw [if_pos hfail, if_pos (by exact hfail)]
  · rw [if_neg hfail, if_neg (by exact hfail)]
    exact readStream_buf_inside h _ hsame

/-- In every run of calls on a newly opened file whose seeks all leave the room that `_cnt`
counts, the next read and the next write copy inside of the buffer. -/
theorem copies_inside_buffer {f g : File} {calls : List FileCall} {outs : List Outcome}
    (hopened : Opened f) (hroomy : Guarded fileStep Roomy f calls)
    (hrun : run fileStep f calls = .ok (outs, g)) : WritesInside g ∧ ReadsInside g := by
  have hbounded := run_invariant Bounded fileStep_bounded (opened_bounded hopened) hroomy hrun
  exact ⟨writesInside hbounded, readsInside hbounded⟩

instance (f : File) (x : Int) : Decidable (RoomAt f x) :=
  inferInstanceAs (Decidable (_ ∨ _ ∨ _ ∨ _))

instance : ∀ (f : File) (call : FileCall), Decidable (Roomy f call)
  | _, .fileReadBuffer _ _ => inferInstanceAs (Decidable True)
  | _, .fileWriteBuffer _ _ => inferInstanceAs (Decidable True)
  | f, .kFseek offset whence =>
      inferInstanceAs (Decidable (∀ x ∈ seekTarget f offset whence, RoomAt f x))
  | f, .sysLseek offset whence =>
      inferInstanceAs (Decidable (∀ x ∈ seekTarget f offset whence, RoomAt f x))
  | _, .kRewind => inferInstanceAs (Decidable True)
  | _, .sysSetFileSync _ _ => inferInstanceAs (Decidable True)

theorem copies_inside_buffer_example :
    ∃ outs g,
      run fileStep (regularFile 3 0x1000 10 fun _ => 65)
        [.fileWriteBuffer (some fun _ => 66) 90, .sysLseek 4 SEEK_SET, .kRewind,
          .fileReadBuffer true 4] = .ok (outs, g) ∧ WritesInside g ∧ ReadsInside g := by
  have hrun : run fileStep (regularFile 3 0x1000 10 fun _ => 65)
      [.fileWriteBuffer (some fun _ => 66) 90, .sysLseek 4 SEEK_SET, .kRewind,
        .fileReadBuffer true 4] = .ok (_, _) := rfl
  exact ⟨_, _, hrun, copies_inside_buffer
    (.regular 3 0x1000 10 _ (by decide) (by decide) (by decide)) (by decide) hrun⟩

/-- A seek moves the write offset and leaves the count of free bytes where it was. -/
theorem copies_inside_buffer_fails :
    ¬ ∀ (f g : File) (calls : List FileCall) (outs : List Outcome), Opened f →
      run fileStep f calls = .ok (outs, g) → WritesInside g ∧ ReadsInside g := by
  intro hclaim
  have hinside := (hclaim (regularFile 3 0x1000 10 fun _ => 65) _ [.sysLseek 500 SEEK_SET] _
    (.regular 3 0x1000 10 _ (by decide) (by decide) (by decide)) rfl).1
  have hsame := hinside (some fun _ => 66) 1000 1024 (by decide)
  exact absurd hsame (by decide)

end Gramado.Io.CopyBounds
