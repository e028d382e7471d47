import Gramado.Io.PipeBuffer

namespace Gramado.Io.FileBuffer

open Io.FileObject Io.PipeBuffer

/-- The branch of `file_read_buffer` for regular files, terminals and i/o buffers. -/
def readStream (f : File) (count : Int) : Outcome × File :=
  if f.lbfsize ≤ 0 then (⟨EOF, []⟩, f)
  else if 8 * 1024 < f.lbfsize then (⟨EOF, []⟩, f)
  else if f.r < 0 then (⟨EOF, []⟩, { f with r := 0 })
  else if f.lbfsize < f.r then (⟨EOF, []⟩, f)
  else if f.w < f.r then (⟨0, []⟩, { f with r := f.w })
  else
    let count := if f.lbfsize < count then f.lbfsize - 1 else count
    let delta := f.w - f.r
    if delta = 0 then (⟨0, []⟩, f)
    else
      let count := if delta < count then delta else count
      let f := { f with p := f.base + f.r }
      if count ≤ 0 then (⟨EOF, []⟩, f)
      else
        let bytes := readBytes f.buf (f.p - f.base) count.toNat
        let f := { f with p := f.p + count, r := f.r + count }
        let f := if f.w < f.r then { f with r := f.w } else f
        (⟨count, bytes⟩,
          { f with flags := f.flags ||| SWR, sync := { f.sync with canWrite := true } })

/-- `buffer` says whether the caller's buffer is a pointer other than `NULL`. -/
def fileReadBuffer (f : File) (buffer : Bool) (len : Int) : Outcome × File :=
  let count := len % 0x10000
  if ¬ f.Valid then (⟨EOF, []⟩, f)
  else if buffer = false then (⟨EOF, []⟩, f)
  else if count ≤ 0 then (⟨EOF, []⟩, f)
  else if f.lbfsize < count then (⟨EOF, []⟩, f)
  else
    match f.object with
    | .socket =>
        (⟨count, readBytes f.buf 0 count.toNat⟩, { f with flags := f.flags ||| SWR })
    | .pipe => fileReadPipeBuffer f buffer count
    | .file | .tty | .ioBuffer => readStream f count
    | _ => (⟨EOF, []⟩, f)

/-- The end of the branch of `file_write_buffer` for regular files, terminals and i/o
buffers: the copy of `len` bytes to the write offset. -/
def storeStream (f : File) (string : Nat → UInt8) (len : Int) : Outcome × File :=
  let f := if f.w < f.r then { f with w := f.r, cnt := f.lbfsize - f.r } else f
  let f := { f with p := f.base + f.w }
  let f := { f with buf := writeBytes f.buf (f.p - f.base) string len.toNat }
  (⟨len, []⟩,
    { f with
      p := f.p + len
      w := f.w + len
      cnt := f.cnt - len
      flags := SRD
      sync := { f.sync with canRead := true } })

def writeStream (f : File) (string : Nat → UInt8) (len : Int) : Outcome × File :=
  if (BUFSIZ : Int) < f.lbfsize then (⟨EOF, []⟩, f)
  else if f.w < 0 then
    (⟨EOF, []⟩, { f with p := f.base, w := 0, r := 0, cnt := f.lbfsize })
  else if (BUFSIZ : Int) ≤ f.w then (⟨EOF, []⟩, { f with w := BUFSIZ, cnt := 0 })
  else if f.cnt < 0 then
    (⟨EOF, []⟩,
      { f with cnt := 0, w := f.lbfsize, r := f.lbfsize, p := f.base + f.lbfsize })
  else
    let f :=
      if f.lbfsize < f.cnt then { f with cnt := f.lbfsize, p := f.base, w := 0, r := 0 } else f
    if len < 0 then (⟨-1, []⟩, f)
    else if f.cnt < len then
      if f.cnt ≤ 0 then
        (⟨-1, []⟩,
          { f with w := f.lbfsize, r := f.lbfsize, p := f.base + f.lbfsize, cnt := 0 })
      else storeStream f string f.cnt
    else storeStream f string len

def fileWriteBuffer (f : File) (string : Option (Nat → UInt8)) (len : Int) : Outcome × File :=
  match string with
  | none => (⟨EOF, []⟩, f)
  | some string =>
      if (BUFSIZ : Int) ≤ len then (⟨EOF, []⟩, f)
      else
        match f.object with
        | .socket => (⟨len, []⟩, { f with buf := writeBytes f.buf 0 string len.toNat })
        | .pipe => fileWritePipeBuffer f (some string) len
        | .file | .tty | .ioBuffer => writeStream f string len
        | _ => (⟨EOF, []⟩, f)

variable {f : File}

theorem fileReadBuffer_socket (hvalid : f.Valid) (hobject : f.object = .socket)
    (hlbfsize : f.lbfsize = BUFSIZ) (len : Int) :
    fileReadBuffer f true len =
      if len % 0x10000 = 0 ∨ (BUFSIZ : Int) < len % 0x10000 then (⟨EOF, []⟩, f)
      else
        (⟨len % 0x10000, readBytes f.buf 0 (len % 0x10000).toNat⟩,
          { f with flags := f.flags ||| SWR }) := by
  have hnonneg : 0 ≤ len % 0x10000 := Int.emod_nonneg _ (by decide)
  have htrue : ¬ true = false := by decide
  unfold fileReadBuffer
  dsimp only
  rw [if_neg (not_not_intro hvalid), if_neg htrue, hlbfsize, hobject]
  rcases lt_or_ge 0 (len % 0x10000) with hpos | hle
  · rw [if_neg (not_le_of_gt hpos)]
    rcases lt_or_ge (BUFSIZ : Int) (len % 0x10000) with hbig | hfits
    · rw [if_pos hbig, if_pos (.inr hbig)]
    · rw [if_neg (not_lt_of_ge hfits), if_neg (by omega)]
  · rw [if_pos hle, if_pos (.inl (by omega))]

/-- The four redundant fields of a file buffer agree and stay inside the buffer. -/
structure BufferInv (f : File) : Prop where
  r_nonneg : 0 ≤ f.r
  r_le_w : f.r ≤ f.w
  w_le : f.w ≤ f.lbfsize
  cnt_eq : f.cnt = f.lbfsize - f.w
  base_le_p : f.base ≤ f.p
  p_le : f.p ≤ f.base + f.lbfsize

/-- The files that the invariant is about. The work pointer of such a file never passes
the write offset, which `k_fputc` relies on. -/
structure Stream (f : File) : Prop where
  object : f.object = .file ∨ f.object = .tty
  valid : f.Valid
  lbfsize_lt : f.lbfsize < 2 ^ 31
  inv : BufferInv f
  p_le_w : f.p ≤ f.base + f.w

theorem readStream_stream (h : Stream f) (count : Int) : Stream (readStream f count).2 := by
  obtain ⟨hr, hrw, hw, hcnt, hbase, hp⟩ := h.inv
  have hpw := h.p_le_w
  unfold readStream
  split
  · exact h
  split
  · exact h
  rw [if_neg (by omega)]
  split
  · exact h
  rw [if_neg (by omega)]
  generalize (if f.lbfsize < count then f.lbfsize - 1 else count) = n
  dsimp only
  split
  · exact h
  have hle : (if f.w - f.r < n then f.w - f.r else n) ≤ f.w - f.r := by
    split <;> omega
  generalize (if f.w - f.r < n then f.w - f.r else n) = m at hle ⊢
  split
  · exact ⟨h.object, h.valid, h.lbfsize_lt, ⟨hr, hrw, hw, hcnt, by dsimp only; omega, by dsimp only; omega⟩,
      by dsimp only; omega⟩
  · rw [if_neg (by omega)]
    refine ⟨h.object, h.valid, h.lbfsize_lt, ⟨?_, ?_, hw, hcnt, ?_, ?_⟩, ?_⟩ <;> dsimp only <;> omega

theorem fileReadBuffer_stream (h : Stream f) (buffer : Bool) (len : Int) :
    Stream (fileReadBuffer f buffer len).2 := by
  unfold fileReadBuffer
  dsimp only
  split
  · exact h
  split
  · exact h
  split
  · exact h
  split
  · exact h
  rcases h.object with hobject | hobject
  · rw [hobject]
    exact readStream_stream h _
  · rw [hobject]
    exact readStream_stream h _

theorem storeStream_stream (h : Stream f) (string : Nat → UInt8) {len : Int} (hlen : 0 ≤ len)
    (hspace : len ≤ f.cnt) : Stream (storeStream f string len).2 := by
  obtain ⟨hr, hrw, hw, hcnt, hbase, hp⟩ := h.inv
  have hpw := h.p_le_w
  unfold storeStream
  rw [if_neg (by omega)]
  refine ⟨h.object, h.valid, h.lbfsize_lt, ⟨hr, ?_, ?_, ?_, ?_, ?_⟩, ?_⟩ <;> dsimp only <;> omega

theorem writeStream_stream (h : Stream f) (string : Nat → UInt8) (len : Int) :
    Stream (writeStream f string len).2 := by
  obtain ⟨hr, hrw, hw, hcnt, hbase, hp⟩ := h.inv
  have hpw := h.p_le_w
  unfold writeStream
  split
  · exact h
  rw [if_neg (by omega)]
  split
  · refine ⟨h.object, h.valid, h.lbfsize_lt, ⟨hr, ?_, ?_, ?_, hbase, hp⟩, ?_⟩ <;> dsimp only <;> omega
  have hroom : ¬ f.lbfsize < f.cnt := by omega
  rw [if_neg (by omega)]
  simp only [hroom, if_false]
  split
  · exact h
  split
  · split
    · refine ⟨h.object, h.valid, h.lbfsize_lt, ⟨?_, ?_, ?_, ?_, ?_, ?_⟩, ?_⟩ <;> dsimp only <;> omega
    · exact storeStream_stream h string (by omega) (le_refl _)
  · exact storeStream_stream h string (by omega) (by omega)

theorem fileWriteBuffer_stream (h : Stream f) (string : Option (Nat → UInt8)) (len : Int) :
    Stream (fileWriteBuffer f string len).2 := by
  unfold fileWriteBuffer
  cases string with
  | none => exact h
  | some string =>
      dsimp only
      split
      · exact h
      rcases h.object with hobject | hobject
      · rw [hobject]
        exact writeStream_stream h string len
      · rw [hobject]
        exact writeStream_stream h string len

end Gramado.Io.FileBuffer
