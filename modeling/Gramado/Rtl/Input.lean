import Gramado.Library.Refinement
import Gramado.Rtl.Stream

namespace Gramado.Rtl.Input

open Library.Run Library.Refinement Rtl.Stream

/-- A stream and the pieces that `read` has still to deliver for it. -/
structure Reader where
  file : FILE
  pieces : List (List UInt8)

/-- `ending` is what `read` answers once the pieces are delivered. -/
inductive Call where
  | getc (ending : Int)
  | ungetc (c : Int)

def read (ending : Int) (s : Reader) : Int × Reader :=
  match s.pieces with
  | [] => (ending, s)
  | piece :: rest =>
      (piece.length, ⟨{ s.file with base := store s.file.base s.file.p piece }, rest⟩)

def bfill (ending : Int) (s : Reader) : Except Stop (Int × Reader) :=
  if s.file.lbfsize ≠ BUFSIZ then .error (.exit 1)
  else
    let s := { s with file := { s.file with cnt := BUFSIZ - 1, p := 0, w := 0, r := 0 } }
    let (n_read, s) := read ending s
    if n_read ≤ 0 then
      .ok (EOF, { s with file := { s.file with fsize := 0, cnt := BUFSIZ } })
    else if n_read ≥ BUFSIZ - 1 then
      .ok (BUFSIZ,
        { s with file := { s.file with fsize := BUFSIZ, cnt := 0, p := 0, w := 0, r := 0 } })
    else
      .ok (n_read,
        { s with file :=
          { s.file with fsize := n_read, cnt := s.file.lbfsize - n_read, p := 0, w := 0, r := 0 } })

def take (s : Reader) : Except Stop (Int × Reader) :=
  if 0 ≤ s.file.p ∧ s.file.p < BUFSIZ then
    .ok ((s.file.base s.file.p).toNat,
      { s with file :=
        { s.file with p := s.file.p + 1, r := s.file.r + 1, cnt := s.file.cnt - 1 } })
  else .error .outside

def getc (ending : Int) (s : Reader) : Except Stop (Int × Reader) :=
  if s.file.have_ungotten then
    .ok (s.file.ungotten, { s with file := { s.file with have_ungotten := false } })
  else if s.file.cnt > 0 ∧ s.file.cnt ≤ BUFSIZ ∧ s.file.r < s.file.fsize then take s
  else if s.file.cnt ≤ 0 ∨ s.file.r ≥ s.file.fsize then do
    let (nreads, s) ← bfill ending s
    if nreads ≤ 0 then
      .ok (EOF, { s with file := { s.file with fsize := 0, cnt := BUFSIZ, p := 0, w := 0, r := 0 } })
    else take s
  else .ok (EOF, s)

def ungetc (c : Int) (s : Reader) : Int × Reader :=
  if c = EOF then (EOF, s)
  else if s.file.have_ungotten then (EOF, s)
  else
    (c, { s with file :=
      { s.file with have_ungotten := true, ungotten := c.bmod 256, eof := false } })

def step (s : Reader) : Call → Except Stop (Int × Reader)
  | .getc ending => getc ending s
  | .ungetc c => .ok (ungetc c s)

/-- What a stream is meant to be: the bytes still to come, and a place for one character. -/
structure Bytes where
  pushed : Option Int
  rest : List UInt8

def serve (a : Bytes) : Call → Int × Bytes
  | .getc _ =>
      match a.pushed, a.rest with
      | some c, _ => (c, { a with pushed := none })
      | none, [] => (EOF, a)
      | none, b :: rest => (b.toNat, { a with rest := rest })
  | .ungetc c => if c = EOF then (EOF, a) else (c, { a with pushed := some c })

/-- The calls the stream is used with: nothing is pushed back while something is, and `read`
has no byte left once it has ended. -/
def Allowed (s : Reader) : Call → Prop
  | .getc ending => ending ≤ 0
  | .ungetc _ => s.file.have_ungotten = false

/-- The buffer is not filled again while bytes of it are unread, and a character pushed back
is one that a char keeps. -/
def Keeps (s : Reader) : Call → Prop
  | .getc _ => s.file.have_ungotten = true ∨ 0 < s.file.cnt ∨ s.file.fsize ≤ s.file.r
  | .ungetc c => -128 ≤ c ∧ c < 128

instance (s : Reader) : ∀ call, Decidable (Allowed s call)
  | .getc ending => inferInstanceAs (Decidable (ending ≤ 0))
  | .ungetc _ => inferInstanceAs (Decidable (s.file.have_ungotten = false))

instance (s : Reader) : ∀ call, Decidable (Keeps s call)
  | .getc _ => inferInstanceAs (Decidable (_ ∨ _))
  | .ungetc _ => inferInstanceAs (Decidable (_ ∧ _))

/-- The unread bytes of the buffer and the pieces behind them are what is still to come, except
where only a lossy refill could go on. -/
structure Follows (s : Reader) (a : Bytes) : Prop where
  lbfsize : s.file.lbfsize = BUFSIZ
  cnt_le : s.file.cnt ≤ BUFSIZ
  position : s.file.p = s.file.r
  position_nonneg : 0 ≤ s.file.r
  fsize_le : s.file.fsize ≤ BUFSIZ
  sizes : ∀ piece ∈ s.pieces, piece ≠ [] ∧ (piece.length : Int) ≤ BUFSIZ
  pushed : a.pushed = if s.file.have_ungotten then some s.file.ungotten else none
  rest : 0 < s.file.cnt ∨ s.file.fsize ≤ s.file.r →
    a.rest = between s.file.base s.file.r s.file.fsize ++ s.pieces.flatten

theorem follows_of_fresh {file : FILE} {pieces : List (List UInt8)}
    (hsizes : ∀ piece ∈ pieces, piece ≠ [] ∧ (piece.length : Int) ≤ BUFSIZ)
    (hfresh : ∃ base, file = fopen base ∨ file = stdioInitialize base) :
    Follows ⟨file, pieces⟩ ⟨none, pieces.flatten⟩ := by
  have hsize : 0 ≤ BUFSIZ := by decide
  obtain ⟨base, rfl | rfl⟩ := hfresh
  · exact ⟨rfl, Int.le_refl _, rfl, Int.le_refl _, hsize, hsizes, rfl, fun _ => rfl⟩
  · exact ⟨rfl, hsize, rfl, Int.le_refl _, hsize, hsizes, rfl, fun _ => rfl⟩

section Steps

variable {s : Reader} {a : Bytes} {ending : Int}

theorem getc_pushed (hs : Follows s a) (h : s.file.have_ungotten = true) :
    ∃ t, getc ending s = .ok ((serve a (.getc ending)).1, t) ∧
      Follows t (serve a (.getc ending)).2 := by
  have hpushed := hs.pushed
  rw [if_pos h] at hpushed
  rw [getc, if_pos h, serve, hpushed]
  exact ⟨_, rfl, { hs with pushed := rfl }⟩

theorem getc_buffered (hs : Follows s a) (h : s.file.have_ungotten = false)
    (hcnt : 0 < s.file.cnt) (hr : s.file.r < s.file.fsize) :
    ∃ t, getc ending s = .ok ((serve a (.getc ending)).1, t) ∧
      Follows t (serve a (.getc ending)).2 := by
  have hpushed := hs.pushed
  have hrest := hs.rest (.inl hcnt)
  have hposition := hs.position
  have hnonneg := hs.position_nonneg
  have hfsize := hs.fsize_le
  rw [h] at hpushed
  rw [between_cons hr] at hrest
  have hserve : serve a (.getc ending) = (((s.file.base s.file.r).toNat : Int),
      { a with rest := between s.file.base (s.file.r + 1) s.file.fsize ++ s.pieces.flatten }) := by
    simp only [serve, hpushed, hrest, Bool.false_eq_true, if_false, List.cons_append]
  rw [getc, if_neg (by rw [h]; decide), if_pos ⟨hcnt, hs.cnt_le, hr⟩, take, if_pos (by omega),
    hserve, hposition]
  have hcntle := hs.cnt_le
  exact ⟨_, rfl, { hs with
    cnt_le := by dsimp only; omega
    position := rfl
    position_nonneg := by dsimp only; omega
    rest := fun _ => rfl }⟩

def filled (file : FILE) (piece : List UInt8) : FILE :=
  { file with
    base := store file.base 0 piece
    p := 0
    r := 0
    w := 0
    fsize := if (piece.length : Int) ≥ BUFSIZ - 1 then BUFSIZ else piece.length
    cnt := if (piece.length : Int) ≥ BUFSIZ - 1 then 0 else BUFSIZ - piece.length }

theorem bfill_cons (ending : Int) {piece : List UInt8} {rest : List (List UInt8)}
    (hsize : s.file.lbfsize = BUFSIZ) (hpieces : s.pieces = piece :: rest) (hpiece : piece ≠ []) :
    ∃ n, 0 < n ∧ bfill ending s = .ok (n, ⟨filled s.file piece, rest⟩) := by
  have hlen := List.length_pos_iff.mpr hpiece
  rw [bfill, if_neg (not_not_intro hsize)]
  simp only [read, hpieces]
  rw [if_neg (by omega)]
  by_cases hfull : (piece.length : Int) ≥ BUFSIZ - 1
  · refine ⟨BUFSIZ, by decide, ?_⟩
    rw [if_pos hfull, filled, if_pos hfull, if_pos hfull]
  · refine ⟨piece.length, by omega, ?_⟩
    rw [if_neg hfull, filled, if_neg hfull, if_neg hfull, hsize]

def emptied (file : FILE) : FILE :=
  { file with fsize := 0, cnt := BUFSIZ, p := 0, w := 0, r := 0 }

theorem bfill_nil (hsize : s.file.lbfsize = BUFSIZ) (hpieces : s.pieces = []) (hending : ending ≤ 0) :
    bfill ending s = .ok (EOF, { s with file := emptied s.file }) := by
  rw [bfill, if_neg (not_not_intro hsize)]
  simp only [read, hpieces]
  rw [if_pos hending]
  rfl

theorem getc_refill (hs : Follows s a) (h : s.file.have_ungotten = false)
    (hr : s.file.fsize ≤ s.file.r) (hending : ending ≤ 0) :
    ∃ t, getc ending s = .ok ((serve a (.getc ending)).1, t) ∧
      Follows t (serve a (.getc ending)).2 := by
  have hpushed := hs.pushed
  have hrest := hs.rest (.inr hr)
  have hsizes := hs.sizes
  rw [h] at hpushed
  rw [between_of_le hr, List.nil_append] at hrest
  rw [getc, if_neg (by rw [h]; decide), if_neg (by omega), if_pos (.inr hr)]
  cases hpieces : s.pieces with
  | nil =>
      rw [hpieces] at hrest
      rw [bfill_nil hs.lbfsize hpieces hending]
      have hserve : serve a (.getc ending) = (EOF, a) := by
        simp only [serve, hpushed, hrest, Bool.false_eq_true, if_false, List.flatten_nil]
      rw [hserve]
      have hempty : (0 : Int) ≤ BUFSIZ := by decide
      refine ⟨{ s with file := emptied s.file }, rfl, hs.lbfsize, Int.le_refl _, rfl, Int.le_refl _,
        hempty, hsizes, ?_, fun _ => ?_⟩
      · change a.pushed = if s.file.have_ungotten then _ else none
        rw [hpushed, h]
        rfl
      · change a.rest = between s.file.base 0 0 ++ s.pieces.flatten
        rw [between_of_le (Int.le_refl 0), hpieces, hrest]
        rfl
  | cons piece rest =>
      rw [hpieces] at hrest hsizes
      obtain ⟨hpiece, hlen⟩ := hsizes piece List.mem_cons_self
      obtain ⟨n, hn, hfill⟩ := bfill_cons ending hs.lbfsize hpieces hpiece
      obtain ⟨b, tail, rfl⟩ := List.exists_cons_of_ne_nil hpiece
      have hstored := between_store s.file.base 0 (b :: tail)
      rw [Int.zero_add, between_cons (by rw [List.length_cons]; omega)] at hstored
      obtain ⟨hhead, htail⟩ := List.cons.inj hstored
      have hserve : serve a (.getc ending) =
          ((b.toNat : Int), { a with rest := tail ++ rest.flatten }) := by
        simp only [serve, hpushed, hrest, Bool.false_eq_true, if_false, List.flatten_cons,
          List.cons_append]
      have htake : take ⟨filled s.file (b :: tail), rest⟩ = .ok ((b.toNat : Int),
          ⟨{ filled s.file (b :: tail) with
              p := 0 + 1
              r := 0 + 1
              cnt := (filled s.file (b :: tail)).cnt - 1 }, rest⟩) := by
        have hbase : (0 : Int) ≤ 0 ∧ (0 : Int) < BUFSIZ := by decide
        rw [take]
        refine (if_pos hbase).trans ?_
        change Except.ok (((store s.file.base 0 (b :: tail) 0).toNat : Int), _) = _
        rw [hhead]
        rfl
      rw [hfill, hserve]
      refine ⟨_, (if_neg (by omega)).trans htake, ?_⟩
      have hbuf : BUFSIZ = 1024 := rfl
      refine ⟨hs.lbfsize, ?_, rfl, ?_, ?_, fun q hq => hsizes q (List.mem_cons_of_mem _ hq), ?_, ?_⟩
      · change (if ((b :: tail).length : Int) ≥ BUFSIZ - 1 then 0 else _) - 1 ≤ BUFSIZ
        split <;> omega
      · change (0 : Int) ≤ 0 + 1
        decide
      · change (if ((b :: tail).length : Int) ≥ BUFSIZ - 1 then BUFSIZ else _) ≤ BUFSIZ
        split <;> omega
      · change a.pushed = if s.file.have_ungotten then _ else none
        rw [hpushed, h]
        rfl
      · intro hlive
        change 0 < (if ((b :: tail).length : Int) ≥ BUFSIZ - 1 then 0 else _) - 1 ∨
          (if ((b :: tail).length : Int) ≥ BUFSIZ - 1 then BUFSIZ else _) ≤ 0 + 1 at hlive
        change tail ++ rest.flatten = between (store s.file.base 0 (b :: tail)) (0 + 1)
          (if ((b :: tail).length : Int) ≥ BUFSIZ - 1 then BUFSIZ else _) ++ rest.flatten
        by_cases hfull : ((b :: tail).length : Int) ≥ BUFSIZ - 1
        · rw [if_pos hfull, if_pos hfull] at hlive
          omega
        · rw [if_neg hfull, htail]

theorem step_follows (hs : Follows s a) {call : Call} (hallowed : Allowed s call)
    (hkeeps : Keeps s call) :
    ∃ t, step s call = .ok ((serve a call).1, t) ∧ Follows t (serve a call).2 := by
  cases call with
  | getc ending =>
      cases h : s.file.have_ungotten with
      | true => exact getc_pushed hs h
      | false =>
          by_cases hr : s.file.r < s.file.fsize
          · have hcnt : 0 < s.file.cnt := by
              rcases hkeeps with hungotten | hcnt | hempty
              · rw [h] at hungotten
                cases hungotten
              · exact hcnt
              · omega
            exact getc_buffered hs h hcnt hr
          · exact getc_refill hs h (by omega) hallowed
  | ungetc c =>
      have hnone : ¬ s.file.have_ungotten = true := by
        rw [hallowed]
        decide
      by_cases hc : c = EOF
      · rw [serve, if_pos hc]
        refine ⟨s, ?_, hs⟩
        rw [step, ungetc, if_pos hc]
      · rw [serve, if_neg hc]
        have hchar : c.bmod 256 = c := Int.bmod_eq_of_le (by have := hkeeps.1; omega)
          (by have := hkeeps.2; omega)
        have hstep : step s (.ungetc c) = .ok (c, { s with file :=
            { s.file with have_ungotten := true, ungotten := c.bmod 256, eof := false } }) := by
          rw [step, ungetc, if_neg hc, if_neg hnone]
        exact ⟨_, hstep, { hs with pushed := congrArg some hchar.symm }⟩

end Steps

/-- Every run that keeps the bytes of the buffer gives what was delivered, in order, with each
character pushed back in its place. -/
theorem getc_delivers {base : Int → UInt8} {file : FILE} {pieces : List (List UInt8)}
    {calls : List Call} (hfresh : file = fopen base ∨ file = stdioInitialize base)
    (hsizes : ∀ piece ∈ pieces, piece ≠ [] ∧ (piece.length : Int) ≤ BUFSIZ)
    (hguard : Guarded step (fun s call => Allowed s call ∧ Keeps s call) ⟨file, pieces⟩ calls) :
    ∃ t, run step ⟨file, pieces⟩ calls =
      .ok ((behaviour serve ⟨none, pieces.flatten⟩ calls).1, t) := by
  have hstep : ∀ s a call, Follows s a → Allowed s call ∧ Keeps s call →
      ∃ t, step s call = .ok ((serve a call).1, t) ∧ Follows t (serve a call).2 :=
    fun s a call hs hcall => step_follows hs hcall.1 hcall.2
  obtain ⟨t, hrun, -⟩ := run_refines Follows hstep (follows_of_fresh hsizes ⟨base, hfresh⟩) hguard
  exact ⟨t, hrun⟩

/-- Two pieces are read, with a character pushed back between them, up to the end. -/
theorem getc_delivers_pieces :
    ∃ t, run step ⟨fopen fun _ => 0, [[7, 8], [9]]⟩
        [.getc 0, .ungetc 65, .getc 0, .getc 0, .getc 0, .getc 0] =
      .ok ([7, 65, 65, 8, 9, EOF], t) :=
  getc_delivers (.inl rfl) (by decide) (by decide +kernel)

def fullPiece : List (List UInt8) :=
  [List.replicate 1024 1, [2]]

/-- A full buffer gives one byte, and a character from 128 on comes back negative. -/
theorem getc_loses :
    (∀ piece ∈ fullPiece, piece ≠ [] ∧ (piece.length : Int) ≤ BUFSIZ) ∧
      Guarded step Allowed ⟨fopen fun _ => 0, fullPiece⟩ [.getc 0, .getc 0] ∧
      (run step ⟨fopen fun _ => 0, fullPiece⟩ [.getc 0, .getc 0]).map Prod.fst = .ok [1, 2] ∧
      (behaviour serve ⟨none, fullPiece.flatten⟩ [.getc 0, .getc 0]).1 = [1, 1] ∧
      Guarded step Allowed ⟨fopen fun _ => 0, []⟩ [.ungetc 200, .getc 0] ∧
      (run step ⟨fopen fun _ => 0, []⟩ [.ungetc 200, .getc 0]).map Prod.fst = .ok [200, -56] ∧
      (behaviour serve ⟨none, []⟩ [.ungetc 200, .getc 0]).1 = [200, 200] := by
  refine ⟨?_, ?_, ?_, rfl, ?_, rfl, rfl⟩
  · intro piece hpiece
    rw [fullPiece, List.mem_cons, List.mem_singleton] at hpiece
    rcases hpiece with rfl | rfl
    · rw [List.length_replicate]
      exact ⟨List.cons_ne_nil 1 _, by decide⟩
    · decide
  · decide +kernel
  · decide +kernel
  · decide +kernel

end Gramado.Rtl.Input
