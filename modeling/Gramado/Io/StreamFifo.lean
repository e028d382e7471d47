import Gramado.Io.Stdio

/-! The buffer of a regular file as a stream: what is written comes out in order. -/

namespace Gramado.Io.StreamFifo

open Library.Run Io.FileObject Io.FileBuffer Io.Stdio

def unread (f : File) : List UInt8 :=
  readBytes f.buf f.r (f.w - f.r).toNat

/-- A regular file whose buffer has at most `BUFSIZ` bytes. Nothing ever counts more free
bytes than the buffer has. -/
structure StreamFile (f : File) : Prop where
  object : f.object = .file
  lbfsize_nonneg : 0 ≤ f.lbfsize
  lbfsize_le : f.lbfsize ≤ BUFSIZ
  cnt_le : f.cnt ≤ f.lbfsize

def Succeeds (f : File) : BufferCall → Prop
  | .fileReadBuffer buffer len => 0 ≤ (fileReadBuffer f buffer len).1.result
  | .fileWriteBuffer string len => 0 ≤ (fileWriteBuffer f string len).1.result
  | _ => False

instance : ∀ (f : File) (call : BufferCall), Decidable (Succeeds f call)
  | _, .fileReadBuffer _ _ => inferInstanceAs (Decidable (_ ≤ _))
  | _, .fileWriteBuffer _ _ => inferInstanceAs (Decidable (_ ≤ _))
  | _, .kFseek _ _ => inferInstanceAs (Decidable False)
  | _, .kRewind => inferInstanceAs (Decidable False)
  | _, .kFgetc => inferInstanceAs (Decidable False)
  | _, .kUngetc _ => inferInstanceAs (Decidable False)
  | _, .kFputc _ => inferInstanceAs (Decidable False)
  | _, .sysSetFileSync _ _ => inferInstanceAs (Decidable False)

def accepted : BufferCall → Outcome → List UInt8
  | .fileWriteBuffer (some string) _, out => (List.range out.result.toNat).map string
  | _, _ => []

/-- A write stores just the bytes that its result counts, and they become readable. -/
def StoresResult (f : File) : BufferCall → Prop
  | .fileWriteBuffer (some string) len =>
      let (out, g) := fileWriteBuffer f (some string) len
      g.buf = writeBytes f.buf (max f.w f.r) string out.result.toNat ∧
        out.result ≤ len ∧
        unread g = unread f ++ accepted (.fileWriteBuffer (some string) len) out
  | _ => True

theorem not_nonneg_EOF : ¬ 0 ≤ EOF := by
  decide

theorem readBytes_add (buf : Int → UInt8) (start : Int) (m n : Nat) :
    readBytes buf start (m + n) = readBytes buf start m ++ readBytes buf (start + m) n := by
  simp only [readBytes, List.range_add, List.map_append, List.map_map]
  congr 1
  apply List.map_congr_left
  intro i _
  simp only [Function.comp_apply]
  congr 1
  omega

variable {f g : File} {len : Int} {string : Nat → UInt8} {call : BufferCall} {out : Outcome}

theorem readBytes_writeBytes_before (buf : Int → UInt8) (src : Nat → UInt8) {start at' : Int}
    {n : Nat} (len : Nat) (h : start + n ≤ at') :
    readBytes (writeBytes buf at' src len) start n = readBytes buf start n := by
  apply List.map_congr_left
  intro i hi
  have hlt := List.mem_range.mp hi
  rw [writeBytes, if_neg (by omega)]

theorem unread_eq_nil (h : f.w ≤ f.r) : unread f = [] := by
  rw [unread, show (f.w - f.r).toNat = 0 by omega]
  rfl

theorem readStream_unread {count : Int} (hsucceeds : 0 ≤ (readStream f count).1.result) :
    unread f = (readStream f count).1.bytes ++ unread (readStream f count).2 := by
  unfold readStream at hsucceeds ⊢
  split
  · rfl
  split
  · rfl
  split
  · rw [if_neg (by assumption), if_neg (by assumption), if_pos (by assumption)] at hsucceeds
    exact absurd hsucceeds not_nonneg_EOF
  split
  · rfl
  split
  · rename_i hlt
    rw [unread_eq_nil (le_of_lt hlt), unread_eq_nil (le_refl f.w)]
    rfl
  generalize (if f.lbfsize < count then f.lbfsize - 1 else count) = n
  dsimp only
  split
  · rfl
  have hle : (if f.w - f.r < n then f.w - f.r else n) ≤ f.w - f.r := by
    split <;> omega
  generalize (if f.w - f.r < n then f.w - f.r else n) = m at hle ⊢
  split
  · rfl
  · rw [if_neg (by omega)]
    have hsplit : (f.w - f.r).toNat = m.toNat + (f.w - (f.r + m)).toNat := by omega
    have hcast : f.r + m.toNat = f.r + m := by omega
    rw [unread, hsplit, readBytes_add, hcast, show f.base + f.r - f.base = f.r by omega]
    rfl

theorem storeStream_buf (f : File) (string : Nat → UInt8) (len : Int) :
    (storeStream f string len).2.buf = writeBytes f.buf (max f.w f.r) string len.toNat := by
  unfold storeStream
  split
  · rw [max_eq_right (by omega)]
    dsimp only
    rw [show f.base + f.r - f.base = f.r by omega]
  · rw [max_eq_left (by omega)]
    dsimp only
    rw [show f.base + f.w - f.base = f.w by omega]

theorem storeStream_r (f : File) (string : Nat → UInt8) (len : Int) :
    (storeStream f string len).2.r = f.r := by
  unfold storeStream
  split <;> rfl

theorem storeStream_w (f : File) (string : Nat → UInt8) (len : Int) :
    (storeStream f string len).2.w = max f.w f.r + len := by
  unfold storeStream
  split
  · rw [max_eq_right (by omega)]
  · rw [max_eq_left (by omega)]

theorem storeStream_unread (f : File) (string : Nat → UInt8) (hlen : 0 ≤ len) :
    unread (storeStream f string len).2 = unread f ++ (List.range len.toNat).map string := by
  have hsplit : (max f.w f.r + len - f.r).toNat = (max f.w f.r - f.r).toNat + len.toNat := by
    omega
  have hcast : f.r + ((max f.w f.r - f.r).toNat : Int) = max f.w f.r := by omega
  have hsame : (max f.w f.r - f.r).toNat = (f.w - f.r).toNat := by omega
  rw [unread, storeStream_buf, storeStream_r, storeStream_w, hsplit, readBytes_add, hcast,
    readBytes_writeBytes_before _ _ _ (le_of_eq hcast), readBytes_writeBytes _ _ _ (le_refl _),
    hsame, unread]

theorem writeStream_eq_storeStream (hf : StreamFile f)
    (hsucceeds : 0 ≤ (writeStream f string len).1.result) :
    ∃ stored, 0 ≤ stored ∧ stored ≤ len ∧
      writeStream f string len = storeStream f string stored := by
  have hlbfsize := hf.lbfsize_le
  have hcnt := hf.cnt_le
  unfold writeStream at hsucceeds ⊢
  rw [if_neg (by omega)] at hsucceeds ⊢
  split at hsucceeds
  · exact absurd hsucceeds not_nonneg_EOF
  rw [if_neg (by assumption)]
  split at hsucceeds
  · exact absurd hsucceeds not_nonneg_EOF
  rw [if_neg (by assumption)]
  split at hsucceeds
  · exact absurd hsucceeds not_nonneg_EOF
  rw [if_neg (by assumption)]
  have hroom : ¬ f.lbfsize < f.cnt := by omega
  simp only [hroom, if_false] at hsucceeds ⊢
  split at hsucceeds
  · exact absurd hsucceeds not_nonneg_EOF
  rw [if_neg (by assumption)]
  split at hsucceeds
  · rw [if_pos (by assumption)]
    split at hsucceeds
    · exact absurd hsucceeds not_nonneg_EOF
    · rw [if_neg (by assumption)]
      exact ⟨f.cnt, by omega, by omega, rfl⟩
  · rw [if_neg (by assumption)]
    exact ⟨len, by omega, le_refl _, rfl⟩

theorem fileReadBuffer_unread {buffer : Bool} (hf : StreamFile f)
    (hsucceeds : 0 ≤ (fileReadBuffer f buffer len).1.result) :
    unread f = (fileReadBuffer f buffer len).1.bytes ++
      unread (fileReadBuffer f buffer len).2 := by
  unfold fileReadBuffer at hsucceeds ⊢
  rw [hf.object] at hsucceeds ⊢
  dsimp only at hsucceeds ⊢
  split
  · rfl
  rw [if_neg (by assumption)] at hsucceeds
  split
  · rfl
  rw [if_neg (by assumption)] at hsucceeds
  split
  · rfl
  rw [if_neg (by assumption)] at hsucceeds
  split
  · rfl
  rw [if_neg (by assumption)] at hsucceeds
  exact readStream_unread hsucceeds

theorem fileWriteBuffer_eq_storeStream (hf : StreamFile f)
    (hsucceeds : 0 ≤ (fileWriteBuffer f (some string) len).1.result) :
    ∃ stored, 0 ≤ stored ∧ stored ≤ len ∧
      fileWriteBuffer f (some string) len = storeStream f string stored := by
  unfold fileWriteBuffer at hsucceeds ⊢
  rw [hf.object] at hsucceeds ⊢
  dsimp only at hsucceeds ⊢
  split at hsucceeds
  · exact absurd hsucceeds not_nonneg_EOF
  · rw [if_neg (by assumption)]
    exact writeStream_eq_storeStream hf hsucceeds

@[simp] theorem storeStream_outcome (f : File) (string : Nat → UInt8) (len : Int) :
    (storeStream f string len).1 = ⟨len, []⟩ := by
  unfold storeStream
  split <;> rfl

theorem storesResult_of_succeeds (hf : StreamFile f) (hsucceeds : Succeeds f call) :
    StoresResult f call := by
  cases call with
  | fileWriteBuffer string len =>
      cases string with
      | none => trivial
      | some string =>
          obtain ⟨stored, hnonneg, hle, heq⟩ := fileWriteBuffer_eq_storeStream hf hsucceeds
          simp only [StoresResult, heq, storeStream_outcome, accepted]
          exact ⟨storeStream_buf f string stored, hle, storeStream_unread f string hnonneg⟩
  | _ => trivial

theorem bufferStep_unread (hf : StreamFile f) (hsucceeds : Succeeds f call)
    (hstep : bufferStep f call = .ok (out, g)) :
    unread f ++ accepted call out = out.bytes ++ unread g := by
  have hstores := storesResult_of_succeeds hf hsucceeds
  cases call with
  | fileReadBuffer buffer len =>
      have hout : fileReadBuffer f buffer len = (out, g) := Except.ok.inj hstep
      have hread := fileReadBuffer_unread hf hsucceeds
      rw [hout] at hread
      simpa only [accepted, List.append_nil] using hread
  | fileWriteBuffer string len =>
      cases string with
      | none => exact absurd hsucceeds not_nonneg_EOF
      | some string =>
          obtain ⟨stored, _, _, heq⟩ := fileWriteBuffer_eq_storeStream hf hsucceeds
          have hout : fileWriteBuffer f (some string) len = (out, g) := Except.ok.inj hstep
          have hbytes : out.bytes = [] := by
            rw [show out = (storeStream f string stored).1 by rw [← heq, hout], storeStream_outcome]
          simp only [StoresResult, hout] at hstores
          rw [hbytes, hstores.2.2]
          rfl
  | _ => exact hsucceeds.elim

theorem StreamFile.of_cnt_le (hf : StreamFile f) (hobject : g.object = f.object)
    (hlbfsize : g.lbfsize = f.lbfsize) (hcnt : g.cnt ≤ f.lbfsize) : StreamFile g := by
  refine ⟨?_, ?_, ?_, ?_⟩
  · rw [hobject, hf.object]
  · rw [hlbfsize]
    exact hf.lbfsize_nonneg
  · rw [hlbfsize]
    exact hf.lbfsize_le
  · rw [hlbfsize]
    exact hcnt

theorem readStream_streamFile (hf : StreamFile f) (count : Int) :
    StreamFile (readStream f count).2 := by
  unfold readStream
  split
  · exact hf
  split
  · exact hf
  split
  · exact hf.of_cnt_le rfl rfl hf.cnt_le
  split
  · exact hf
  split
  · exact hf.of_cnt_le rfl rfl hf.cnt_le
  generalize (if f.lbfsize < count then f.lbfsize - 1 else count) = n
  dsimp only
  split
  · exact hf
  generalize (if f.w - f.r < n then f.w - f.r else n) = m
  split
  · exact hf.of_cnt_le rfl rfl hf.cnt_le
  · split
    · exact hf.of_cnt_le rfl rfl hf.cnt_le
    · exact hf.of_cnt_le rfl rfl hf.cnt_le

theorem fileReadBuffer_streamFile (hf : StreamFile f) (buffer : Bool) (len : Int) :
    StreamFile (fileReadBuffer f buffer len).2 := by
  unfold fileReadBuffer
  rw [hf.object]
  dsimp only
  split
  · exact hf
  split
  · exact hf
  split
  · exact hf
  split
  · exact hf
  · exact readStream_streamFile hf _

theorem storeStream_streamFile (hf : StreamFile f) (string : Nat → UInt8) (hw : 0 ≤ f.w)
    (hlen : 0 ≤ len) : StreamFile (storeStream f string len).2 := by
  have hcnt := hf.cnt_le
  unfold storeStream
  split
  · refine hf.of_cnt_le rfl rfl ?_
    dsimp only
    omega
  · refine hf.of_cnt_le rfl rfl ?_
    dsimp only
    omega

theorem writeStream_streamFile (hf : StreamFile f) (string : Nat → UInt8) (len : Int) :
    StreamFile (writeStream f string len).2 := by
  have hcnt := hf.cnt_le
  have hroom : ¬ f.lbfsize < f.cnt := by omega
  unfold writeStream
  simp only [hroom, if_false]
  split
  · exact hf
  split
  · exact hf.of_cnt_le rfl rfl (le_refl _)
  split
  · exact hf.of_cnt_le rfl rfl hf.lbfsize_nonneg
  split
  · exact hf.of_cnt_le rfl rfl hf.lbfsize_nonneg
  split
  · exact hf
  split
  · split
    · exact hf.of_cnt_le rfl rfl hf.lbfsize_nonneg
    · exact storeStream_streamFile hf string (by omega) (by omega)
  · exact storeStream_streamFile hf string (by omega) (by omega)

theorem fileWriteBuffer_streamFile (hf : StreamFile f) (string : Option (Nat → UInt8)) (len : Int) :
    StreamFile (fileWriteBuffer f string len).2 := by
  cases string with
  | none => exact hf
  | some string =>
      unfold fileWriteBuffer
      rw [hf.object]
      dsimp only
      split
      · exact hf
      · exact writeStream_streamFile hf string len

theorem kFseek_streamFile {offset whence : Int} (hf : StreamFile f)
    (hstep : kFseek f offset whence = .ok (out, g)) : StreamFile g := by
  unfold kFseek at hstep
  split at hstep
  · cases hstep
    exact hf
  split at hstep
  · cases hstep
    exact hf.of_cnt_le rfl rfl hf.cnt_le
  split at hstep
  · cases hstep
    exact hf.of_cnt_le rfl rfl hf.cnt_le
  split at hstep
  · generalize (if 0 < offset then 0 else offset) = n at hstep
    dsimp only at hstep
    split at hstep
    · cases hstep
    split at hstep
    · cases hstep
    cases hstep
    exact hf.of_cnt_le rfl rfl hf.cnt_le
  split at hstep
  · cases hstep
    exact hf.of_cnt_le rfl rfl (le_refl _)
  · cases hstep
    exact hf

theorem bufferStep_streamFile (f : File) (call : BufferCall) (out : Outcome) (g : File)
    (hf : StreamFile f) (hstep : bufferStep f call = .ok (out, g)) : StreamFile g := by
  have hcnt := hf.cnt_le
  cases call with
  | fileReadBuffer buffer len =>
      have hg : (fileReadBuffer f buffer len).2 = g := congrArg Prod.snd (Except.ok.inj hstep)
      rw [← hg]
      exact fileReadBuffer_streamFile hf buffer len
  | fileWriteBuffer string len =>
      have hg : (fileWriteBuffer f string len).2 = g := congrArg Prod.snd (Except.ok.inj hstep)
      rw [← hg]
      exact fileWriteBuffer_streamFile hf string len
  | kFseek offset whence => exact kFseek_streamFile hf hstep
  | kRewind =>
      cases hstep
      exact hf.of_cnt_le rfl rfl hcnt
  | kFgetc =>
      rw [bufferStep, kFgetc] at hstep
      split at hstep
      · cases hstep
        exact hf
      · cases hstep
        refine hf.of_cnt_le rfl rfl ?_
        dsimp only
        omega
  | kUngetc c =>
      rw [bufferStep, kUngetc] at hstep
      split at hstep
      · cases hstep
        exact hf
      · cases hstep
        exact hf.of_cnt_le rfl rfl hcnt
  | kFputc ch =>
      rw [bufferStep, kFputc] at hstep
      split at hstep
      · dsimp only at hstep
        split at hstep
        · cases hstep
        · cases hstep
          refine hf.of_cnt_le rfl rfl ?_
          dsimp only
          omega
      · cases hstep
        exact hf
  | sysSetFileSync request data =>
      have hg : sysSetFileSync f request data = g := congrArg Prod.snd (Except.ok.inj hstep)
      rw [← hg]
      unfold sysSetFileSync kRewind
      split
      · exact hf
      split
      · exact hf.of_cnt_le rfl rfl hcnt
      split
      · exact hf.of_cnt_le rfl rfl hcnt
      split
      · exact hf.of_cnt_le rfl rfl hcnt
      · exact hf

/-- The reads of a run return, in order, what was unread at its start and then what the writes
have accepted, and every write stores as many bytes as it returns. -/
theorem reads_prefix_of_writes {f g : File} {calls : List BufferCall} {outs : List Outcome}
    (hf : StreamFile f) (hsucceeds : Guarded bufferStep Succeeds f calls)
    (hrun : run bufferStep f calls = .ok (outs, g)) :
    (outs.map Outcome.bytes).flatten <+: unread f ++ gather accepted calls outs ∧
      Guarded bufferStep StoresResult f calls := by
  refine ⟨?_, ?_⟩
  · have hfifo := run_fifo StreamFile unread accepted (fun _ out => out.bytes)
      (fun f call out g hf hsucceeds hstep =>
        ⟨bufferStep_unread hf hsucceeds hstep, bufferStep_streamFile f call out g hf hstep⟩)
      hf hsucceeds hrun
    rw [gather_outputs (length_outputs hrun)] at hfifo
    exact ⟨unread g, hfifo.symm⟩
  · exact hsucceeds.of_invariant StreamFile
      (fun f call out g hf _ => bufferStep_streamFile f call out g hf)
      (fun f call hf hsucceeds => storesResult_of_succeeds hf hsucceeds) hf

theorem reads_prefix_of_writes_example :
    ∃ outs g,
      run bufferStep (regularFile 3 0x1000 10 fun _ => 65)
        [.fileWriteBuffer (some fun _ => 66) 3, .fileReadBuffer true 12] = .ok (outs, g) ∧
      (outs.map Outcome.bytes).flatten <+:
        unread (regularFile 3 0x1000 10 fun _ => 65) ++
          gather accepted
            [.fileWriteBuffer (some fun _ => 66) 3, .fileReadBuffer true 12] outs := by
  have hrun : run bufferStep (regularFile 3 0x1000 10 fun _ => 65)
      [.fileWriteBuffer (some fun _ => 66) 3, .fileReadBuffer true 12] = .ok (_, _) := rfl
  exact ⟨_, _, hrun,
    (reads_prefix_of_writes ⟨rfl, by decide, by decide, by decide⟩ (by decide) hrun).1⟩

/-- A read of a file that has just been opened returns what the file holds. -/
theorem reads_prefix_of_writes_fails :
    ¬ ∀ (f g : File) (calls : List BufferCall) (outs : List Outcome), f.object = .file →
      f.lbfsize ≤ BUFSIZ → Guarded bufferStep Succeeds f calls →
      run bufferStep f calls = .ok (outs, g) →
      (outs.map Outcome.bytes).flatten <+: gather accepted calls outs := by
  intro hclaim
  have hprefix := hclaim (regularFile 3 0x1000 10 fun _ => 65) _ [.fileReadBuffer true 4] _ rfl
    (by decide) (by decide) rfl
  exact absurd hprefix (by decide)

end Gramado.Io.StreamFifo
