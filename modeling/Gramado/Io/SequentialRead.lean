import Gramado.Io.CopyBounds

/-! The bytes that one read after the other takes out of a stream. -/

namespace Gramado.Io.SequentialRead

open Io.FileObject Io.FileBuffer Io.StreamFifo Io.CopyBounds

/-- How many bytes a read asks for: none if `file_read_buffer` refuses its length. -/
def asked (f : File) (len : Int) : Nat :=
  if f.lbfsize < len % 0x10000 then 0 else (len % 0x10000).toNat

def delivered (out : Outcome) : List UInt8 :=
  out.bytes.take out.result.toNat

def readAll (f : File) : List Int → List UInt8
  | [] => []
  | len :: lens =>
      delivered (fileReadBuffer f true len).1 ++ readAll (fileReadBuffer f true len).2 lens

/-- A stream that `file_read_buffer` reads. -/
structure Readable (f : File) : Prop where
  stream : Stream f
  pos : 0 < f.lbfsize
  le : f.lbfsize ≤ 8 * 1024

theorem readBytes_take (buf : Int → UInt8) (start : Int) (m n : Nat) :
    (readBytes buf start n).take m = readBytes buf start (min m n) := by
  rcases le_total m n with h | h
  · rw [take_readBytes buf start h, Nat.min_eq_left h]
  · rw [Nat.min_eq_right h]
    apply List.take_of_length_le
    simpa using h

theorem readStream_lbfsize (f : File) (count : Int) :
    (readStream f count).2.lbfsize = f.lbfsize := by
  unfold readStream
  dsimp only
  repeat' split
  all_goals rfl

variable {f : File}

theorem readCount_of_readable (h : Readable f) {count : Int} (hpos : 0 < count)
    (hle : count ≤ f.lbfsize) : readCount f count = min count (f.w - f.r) := by
  obtain ⟨hr, hrw, hw, _⟩ := h.stream.inv
  have hlb := h.pos
  have hlimit := h.le
  rw [readCount, if_neg (by omega), if_neg (not_lt.mpr hle)]
  split
  · omega
  · exact if_neg (by omega)

theorem fileReadBuffer_readable (h : Readable f) (len : Int) :
    delivered (fileReadBuffer f true len).1 = (unread f).take (asked f len) ∧
      unread (fileReadBuffer f true len).2 = (unread f).drop (asked f len) ∧
      Readable (fileReadBuffer f true len).2 ∧
      (fileReadBuffer f true len).2.lbfsize = f.lbfsize := by
  have htrue : ¬ true = false := by simp
  rw [fileReadBuffer_eq h.stream.object]
  by_cases hrefused : len % 0x10000 ≤ 0 ∨ f.lbfsize < len % 0x10000
  · have hzero : asked f len = 0 := by
      rw [asked]
      split
      · rfl
      · omega
    rw [if_pos (.inr (.inr hrefused)), hzero]
    exact ⟨by simp [delivered], by simp, h, rfl⟩
  rw [not_or, not_le, not_lt] at hrefused
  obtain ⟨hpos, hle⟩ := hrefused
  rw [if_neg (by simp [h.stream.valid, hpos, hle])]
  have hasked : asked f len = (len % 0x10000).toNat := if_neg (not_lt.mpr hle)
  have hcount := readCount_of_readable h hpos hle
  have hmin : (readCount f (len % 0x10000)).toNat = min (asked f len) (f.w - f.r).toNat := by
    rw [hcount, hasked]
    omega
  have hbytes : (readStream f (len % 0x10000)).1.bytes = (unread f).take (asked f len) := by
    rw [readStream_outcome, unread, readBytes_take, hmin]
  have hsucceeds : 0 ≤ (readStream f (len % 0x10000)).1.result := by
    have hrw := h.stream.inv.r_le_w
    rw [readStream_outcome, hcount]
    dsimp only
    omega
  refine ⟨?_, ?_, ⟨readStream_stream h.stream _, ?_, ?_⟩, readStream_lbfsize f _⟩
  · rw [delivered, hbytes]
    apply List.take_of_length_le
    rw [readStream_outcome, hmin, unread]
    simp
  · have hsplit := readStream_unread hsucceeds
    rw [hbytes] at hsplit
    have hrest := List.take_append_drop (asked f len) (unread f)
    exact (List.append_cancel_left (hrest.trans hsplit)).symm
  · rw [readStream_lbfsize]
    exact h.pos
  · rw [readStream_lbfsize]
    exact h.le

theorem readAll_eq (h : Readable f) (lens : List Int) :
    readAll f lens = (unread f).take (lens.map (asked f)).sum := by
  induction lens generalizing f with
  | nil => simp [readAll]
  | cons len lens ih =>
      obtain ⟨hdelivered, hrest, hreadable, hlbfsize⟩ := fileReadBuffer_readable h len
      have hsame : asked (fileReadBuffer f true len).2 = asked f := by
        funext n
        rw [asked, asked, hlbfsize]
      rw [readAll, ih hreadable, hdelivered, hrest, hsame, List.map_cons, List.sum_cons,
        List.take_add]

theorem fileReadBuffer_large (hobject : f.object = .file ∨ f.object = .tty)
    (hlarge : 8 * 1024 < f.lbfsize) (len : Int) :
    delivered (fileReadBuffer f true len).1 = [] := by
  have hcount : readCount f (len % 0x10000) = EOF := if_pos (.inr (.inl hlarge))
  rw [fileReadBuffer_eq hobject]
  split
  · simp [delivered]
  · rw [readStream_outcome, hcount]
    simp [delivered, EOF]

end Gramado.Io.SequentialRead
