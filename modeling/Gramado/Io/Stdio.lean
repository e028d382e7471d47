import Gramado.Io.FileBuffer

namespace Gramado.Io.Stdio

open Library Io.FileObject Io.FileBuffer

def toInt32 (x : Int) : Int :=
  x.bmod (2 ^ 32)

variable {x : Int} {f g : File} {out : Outcome}

theorem toInt32_eq_self (hlow : -2 ^ 31 ≤ x) (hhigh : x < 2 ^ 31) : toInt32 x = x := by
  rw [toInt32]
  apply Int.bmod_eq_of_le <;> omega

def kUngetc (c : Int) (f : File) : Outcome × File :=
  if c = EOF then (⟨c, []⟩, f)
  else
    let f := { f with p := f.p - 1 }
    (⟨c, []⟩, { f with buf := Function.update f.buf (f.p - f.base) (UInt8.ofInt c) })

def kFgetc (f : File) : Outcome × File :=
  if f.p = 0 then (⟨EOF, []⟩, f)
  else (⟨(f.buf (f.p - f.base)).toNat, []⟩, { f with p := f.p + 1, cnt := f.cnt - 1 })

def SEEK_SET : Int := 0
def SEEK_CUR : Int := 1
def SEEK_END : Int := 2
def GRAMADO_SEEK_CLEAR : Int := 1000

def kFseek (f : File) (offset whence : Int) : Except String (Outcome × File) :=
  if whence < 0 then .ok (⟨-1, []⟩, f)
  else if whence = SEEK_SET then
    let offset := if offset < 0 then 0 else offset
    let offset := if f.cnt < offset then f.cnt else offset
    .ok (⟨0, []⟩, { f with r := toInt32 offset, w := toInt32 offset, p := f.base + offset })
  else if whence = SEEK_CUR then
    let offset := if f.cnt < offset then f.cnt else offset
    let f := { f with p := f.p + offset }
    .ok (⟨0, []⟩, { f with r := toInt32 (f.p - f.base), w := toInt32 (f.p - f.base) })
  else if whence = SEEK_END then
    let offset := if 0 < offset then 0 else offset
    if f.lbfsize < f.fsize then .error "k_fseek: #todo f->_fsize > f->_lbfsize\n"
    else if f.lbfsize < f.fsize + offset then
      .error "k_fseek: #todo (f->_fsize + offset) > f->_lbfsize\n"
    else
      .ok (⟨0, []⟩,
        { f with
          r := toInt32 (f.fsize + offset)
          w := toInt32 (f.fsize + offset)
          p := f.base + (f.fsize + offset) })
  else if whence = GRAMADO_SEEK_CLEAR then
    .ok (⟨0, []⟩,
      { f with
        buf := writeBytes f.buf 0 (fun _ => 0) BUFSIZ
        p := f.base
        r := 0
        w := 0
        cnt := f.lbfsize })
  else .ok (⟨-1, []⟩, f)

def kFputc (ch : Int) (f : File) : Except String (Outcome × File) :=
  if 0 < f.cnt ∧ ch ≠ 10 then
    let f := { f with buf := Function.update f.buf (f.p - f.base) (UInt8.ofInt ch) }
    let f := { f with p := f.p + 1, w := f.w + 1, cnt := f.cnt - 1 }
    if f.cnt ≤ 0 then .error "k_fputc: _cnt\n"
    else .ok (⟨ch, []⟩, { f with flags := f.flags ||| SRD })
  else .ok (⟨EOF, []⟩, f)

def kRewind (f : File) : File :=
  { f with p := f.base }

def SYNC_REQUEST_SET_ACTION : Int := 1
def SYNC_REQUEST_RESET_WR : Int := 216
def SYNC_REQUEST_RESET_RD : Int := 217

def sysSetFileSync (f : File) (request data : Int) : File :=
  if ¬ f.Valid then f
  else if request = SYNC_REQUEST_SET_ACTION then
    { f with sync := { f.sync with action := data } }
  else if request = SYNC_REQUEST_RESET_WR then
    let f := { f with sync := { f.sync with action := 0 }, flags := SWR }
    let f := kRewind f
    { f with r := 0, w := 0, socketBufferFull := false }
  else if request = SYNC_REQUEST_RESET_RD then
    { f with sync := { f.sync with action := 0 }, flags := SRD }
  else f

inductive BufferCall where
  | fileReadBuffer (buffer : Bool) (len : Int)
  | fileWriteBuffer (string : Option (Nat → UInt8)) (len : Int)
  | kFseek (offset whence : Int)
  | kRewind
  | kFgetc
  | kUngetc (c : Int)
  | kFputc (ch : Int)
  | sysSetFileSync (request data : Int)

def bufferStep (f : File) : BufferCall → Except String (Outcome × File)
  | .fileReadBuffer buffer len => .ok (fileReadBuffer f buffer len)
  | .fileWriteBuffer string len => .ok (fileWriteBuffer f string len)
  | .kFseek offset whence => kFseek f offset whence
  | .kRewind => .ok (⟨0, []⟩, kRewind f)
  | .kFgetc => .ok (kFgetc f)
  | .kUngetc c => .ok (kUngetc c f)
  | .kFputc ch => kFputc ch f
  | .sysSetFileSync request data => .ok (⟨0, []⟩, sysSetFileSync f request data)

/-- The regular file of `fileSize` bytes that `do_read_file_from_disk` opens over a new
buffer. -/
def regularFile (slot base fileSize : Int) (buf : Int → UInt8) : File :=
  let lbfsize := if (BUFSIZ : Int) ≤ fileSize then fileSize + 8 else BUFSIZ
  { zeroFile with
    used := true
    magic := 1234
    object := .file
    sync := { zeroFile.sync with canRead := true, canWrite := true, action := 0 }
    file := slot
    base := base
    buf := buf
    p := base
    r := 0
    w := fileSize
    fsize := fileSize
    lbfsize := lbfsize
    cnt := lbfsize - fileSize
    flags := 0 ||| SRD }

/-- The file of a terminal that `tty_create` makes. It has no buffer. -/
def ttyFile : File :=
  { zeroFile with
    used := true
    magic := 1234
    object := .tty
    sync :=
      { zeroFile.sync with
        action := 0, canRead := true, canWrite := true, canAccept := false,
        canConnect := false } }

inductive Opened : File → Prop
  | regular (slot base fileSize : Int) (buf : Int → UInt8) (hbase : 0 < base)
      (hpos : 0 < fileSize) (hsize : fileSize ≤ 8 * 1024) :
      Opened (regularFile slot base fileSize buf)
  | tty : Opened ttyFile

/-- The condition under which a call leaves `_r`, `_w`, `_cnt` and `_p` in agreement. -/
def Agreeing (f : File) : BufferCall → Prop
  | .fileReadBuffer _ _ => True
  | .fileWriteBuffer _ _ => True
  | .kFseek offset whence =>
      (whence = SEEK_SET → min (max offset 0) f.cnt = f.w) ∧
      (whence = SEEK_CUR → f.p - f.base + min offset f.cnt = f.w) ∧
      (whence = SEEK_END → f.fsize + min offset 0 = f.w)
  | .kRewind => True
  | .kFgetc => f.p = 0
  | .kUngetc c => c = EOF ∨ f.base < f.p
  | .kFputc _ => True
  | .sysSetFileSync request _ => request = SYNC_REQUEST_RESET_WR → f.w = 0

instance : ∀ (f : File) (call : BufferCall), Decidable (Agreeing f call)
  | _, .fileReadBuffer _ _ => inferInstanceAs (Decidable True)
  | _, .fileWriteBuffer _ _ => inferInstanceAs (Decidable True)
  | _, .kFseek _ _ => inferInstanceAs (Decidable (_ ∧ _ ∧ _))
  | _, .kRewind => inferInstanceAs (Decidable True)
  | _, .kFgetc => inferInstanceAs (Decidable (_ = _))
  | _, .kUngetc _ => inferInstanceAs (Decidable (_ ∨ _))
  | _, .kFputc _ => inferInstanceAs (Decidable True)
  | _, .sysSetFileSync _ _ => inferInstanceAs (Decidable (_ → _))

theorem stream_reposition (h : Stream f) {p : Int} (hp : p = f.base + x) (hx : x = f.w) :
    Stream { f with r := toInt32 x, w := toInt32 x, p := p } := by
  obtain ⟨hr, hrw, hw, hcnt, hbase, hple⟩ := h.inv
  have hlt := h.lbfsize_lt
  have heq : toInt32 x = f.w := by
    rw [hx]
    exact toInt32_eq_self (by omega) (by omega)
  rw [heq]
  refine ⟨h.object, h.valid, h.lbfsize_lt, ⟨?_, ?_, hw, hcnt, ?_, ?_⟩, ?_⟩ <;> dsimp only <;> omega

theorem kFseek_stream {offset whence : Int} (h : Stream f)
    (hguard : Agreeing f (.kFseek offset whence)) (hstep : kFseek f offset whence = .ok (out, g)) :
    Stream g := by
  obtain ⟨hset, hcur, hend⟩ := hguard
  obtain ⟨hr, hrw, hw, hcnt, hbase, hp⟩ := h.inv
  unfold kFseek at hstep
  split at hstep
  · cases hstep
    exact h
  split at hstep
  · rename_i hwhence
    cases hstep
    apply stream_reposition h rfl
    rw [← hset hwhence]
    split <;> split <;> omega
  split at hstep
  · rename_i hwhence
    have heq := hcur hwhence
    cases hstep
    have hmove := stream_reposition h (p := f.p + if f.cnt < offset then f.cnt else offset)
      (x := f.p + (if f.cnt < offset then f.cnt else offset) - f.base) (by omega)
      (by rw [← heq]; split <;> omega)
    exact hmove
  split at hstep
  · rename_i hwhence
    have hmin : (if 0 < offset then 0 else offset) = min offset 0 := by
      split <;> omega
    rw [hmin] at hstep
    dsimp only at hstep
    split at hstep
    · cases hstep
    split at hstep
    · cases hstep
    cases hstep
    exact stream_reposition h rfl (hend hwhence)
  split at hstep
  · cases hstep
    exact ⟨h.object, h.valid, h.lbfsize_lt,
      ⟨le_refl _, le_refl _, by dsimp only; omega, by dsimp only; omega, le_refl _,
        by dsimp only; omega⟩, by dsimp only; omega⟩
  · cases hstep
    exact h

theorem kFputc_stream {ch : Int} (h : Stream f) (hstep : kFputc ch f = .ok (out, g)) :
    Stream g := by
  obtain ⟨hr, hrw, hw, hcnt, hbase, hp⟩ := h.inv
  have hpw := h.p_le_w
  unfold kFputc at hstep
  split at hstep
  · dsimp only at hstep
    split at hstep
    · cases hstep
    cases hstep
    refine ⟨h.object, h.valid, h.lbfsize_lt, ⟨hr, ?_, ?_, ?_, ?_, ?_⟩, ?_⟩ <;> dsimp only <;> omega
  · cases hstep
    exact h

theorem sysSetFileSync_stream {request data : Int} (h : Stream f)
    (hguard : Agreeing f (.sysSetFileSync request data)) :
    Stream (sysSetFileSync f request data) := by
  obtain ⟨hr, hrw, hw, hcnt, hbase, hp⟩ := h.inv
  have hpw := h.p_le_w
  unfold sysSetFileSync kRewind
  split
  · exact h
  split
  · exact ⟨h.object, h.valid, h.lbfsize_lt, ⟨hr, hrw, hw, hcnt, hbase, hp⟩, hpw⟩
  split
  · rename_i hrequest
    have hzero := hguard hrequest
    refine ⟨h.object, h.valid, h.lbfsize_lt, ⟨le_refl _, le_refl _, ?_, ?_, le_refl _, ?_⟩, ?_⟩ <;>
      dsimp only <;> omega
  split
  · exact ⟨h.object, h.valid, h.lbfsize_lt, ⟨hr, hrw, hw, hcnt, hbase, hp⟩, hpw⟩
  · exact h

theorem bufferStep_stream (f : File) (call : BufferCall) (out : Outcome) (g : File)
    (h : Stream f) (hguard : Agreeing f call) (hstep : bufferStep f call = .ok (out, g)) :
    Stream g := by
  obtain ⟨hr, hrw, hw, hcnt, hbase, hp⟩ := h.inv
  have hpw := h.p_le_w
  cases call with
  | fileReadBuffer buffer len =>
      have hg : (fileReadBuffer f buffer len).2 = g := congrArg Prod.snd (Except.ok.inj hstep)
      rw [← hg]
      exact fileReadBuffer_stream h buffer len
  | fileWriteBuffer string len =>
      have hg : (fileWriteBuffer f string len).2 = g := congrArg Prod.snd (Except.ok.inj hstep)
      rw [← hg]
      exact fileWriteBuffer_stream h string len
  | kFseek offset whence => exact kFseek_stream h hguard hstep
  | kRewind =>
      cases hstep
      refine ⟨h.object, h.valid, h.lbfsize_lt, ⟨hr, hrw, hw, hcnt, le_refl _, ?_⟩, ?_⟩ <;>
        dsimp only [kRewind] <;> omega
  | kFgetc =>
      change f.p = 0 at hguard
      rw [bufferStep, kFgetc, if_pos hguard] at hstep
      cases hstep
      exact h
  | kUngetc c =>
      rw [bufferStep, kUngetc] at hstep
      rcases hguard with heof | hlt
      · rw [if_pos heof] at hstep
        cases hstep
        exact h
      · split at hstep
        · cases hstep
          exact h
        · cases hstep
          refine ⟨h.object, h.valid, h.lbfsize_lt, ⟨hr, hrw, hw, hcnt, ?_, ?_⟩, ?_⟩ <;>
            dsimp only <;> omega
  | kFputc ch => exact kFputc_stream h hstep
  | sysSetFileSync request data =>
      have hg : sysSetFileSync f request data = g := congrArg Prod.snd (Except.ok.inj hstep)
      rw [← hg]
      exact sysSetFileSync_stream h hguard

theorem opened_stream (h : Opened f) : Stream f := by
  cases h with
  | regular slot base fileSize buf hbase hpos hsize =>
      have hsplit : fileSize < (if (BUFSIZ : Int) ≤ fileSize then fileSize + 8 else BUFSIZ) ∧
          (if (BUFSIZ : Int) ≤ fileSize then fileSize + 8 else (BUFSIZ : Int)) < 2 ^ 31 := by
        split
        · omega
        · simp only [BUFSIZ] at *
          omega
      obtain ⟨hlt, hsmall⟩ := hsplit
      refine ⟨.inl rfl, ⟨rfl, rfl⟩, hsmall, ⟨le_refl _, ?_, ?_, rfl, le_refl _, ?_⟩, ?_⟩ <;>
        dsimp only [regularFile] <;> omega
  | tty => exact ⟨.inr rfl, ⟨rfl, rfl⟩, by decide, ⟨le_refl _, le_refl _, le_refl _, rfl, le_refl _,
      le_refl _⟩, le_refl _⟩

/-- In every run of calls on a newly opened file that all meet their condition, the four
fields agree and stay inside the buffer in the state that is reached. -/
theorem bufferInv_of_agreeing_run {f g : File} {calls : List BufferCall} {outs : List Outcome}
    (hopened : Opened f) (hguard : Run.Guarded bufferStep Agreeing f calls)
    (hrun : Run.run bufferStep f calls = .ok (outs, g)) : BufferInv g :=
  (Run.run_invariant Stream bufferStep_stream (opened_stream hopened) hguard hrun).inv

theorem bufferInv_of_agreeing_run_example :
    ∃ outs g,
      Run.run bufferStep (regularFile 3 0x1000 10 fun _ => 65)
        [.fileReadBuffer true 4, .fileWriteBuffer (some fun _ => 66) 3,
          .kFseek 13 SEEK_SET, .kRewind] = .ok (outs, g) ∧ BufferInv g := by
  have hrun : Run.run bufferStep (regularFile 3 0x1000 10 fun _ => 65)
      [.fileReadBuffer true 4, .fileWriteBuffer (some fun _ => 66) 3,
        .kFseek 13 SEEK_SET, .kRewind] = .ok (_, _) := rfl
  exact ⟨_, _, hrun, bufferInv_of_agreeing_run
    (.regular 3 0x1000 10 _ (by decide) (by decide) (by decide)) (by decide) hrun⟩

/-- `k_fgetc` takes one from `_cnt` and leaves `_r` and `_w` where they are. -/
theorem bufferInv_fails_after_kFgetc :
    ¬ ∀ (f g : File) (calls : List BufferCall) (outs : List Outcome), Opened f →
      Run.run bufferStep f calls = .ok (outs, g) → BufferInv g := by
  intro hclaim
  have hinv := hclaim (regularFile 3 0x1000 10 fun _ => 65) _ [.kFgetc] _
    (.regular 3 0x1000 10 _ (by decide) (by decide) (by decide)) rfl
  exact absurd hinv.cnt_eq (by decide)

end Gramado.Io.Stdio
