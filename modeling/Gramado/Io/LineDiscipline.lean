import Gramado.Library.LineEditor
import Gramado.Io.Pty

/-! The line discipline of a tty: `__tty_write3` and `__tty_read3`. -/

namespace Gramado.Io.LineDiscipline

open Library Library.LineEditor Library.Run Io.FileObject
open Io.Pty (TtyQueue TTY_MAGIC TTY_BUF_SIZE newQueue ttyQueueGetchar ttyQueuePutchar
  getchars ttyQueueGetchar_spec ttyQueuePutchar_spec contents_length occupied_lt valid_newQueue)

def newline : UInt8 := 10
def CERASE : UInt8 := 0x7f
def TTY_OUTPUT_WORKER_FGCONSOLE : Int := 0
def TTY_OUTPUT_WORKER_STDIN : Int := 1
def TTY_OUTPUT_WORKER_SERIALPORT : Int := 2
def TTY_OUTPUT_WORKER_PTYSLAVE : Int := 3

/-- What the worker of a pty master touches of the tty that it is linked with. -/
structure Linked where
  magic : Int
  outputBuf : Nat → UInt8

/-- `tty_d`. What the workers send away is kept in `emitted`. -/
structure Tty where
  magic : Int
  icanon : Bool
  verase : UInt8
  rawQueue : TtyQueue
  canonicalQueue : TtyQueue
  outputQueue : TtyQueue
  outputWorkerNumber : Int
  link : Option Linked
  emitted : List (Int × UInt8)

def newTty : Tty where
  magic := TTY_MAGIC
  icanon := true
  verase := CERASE
  rawQueue := newQueue
  canonicalQueue := newQueue
  outputQueue := newQueue
  outputWorkerNumber := TTY_OUTPUT_WORKER_FGCONSOLE
  link := none
  emitted := []

def drain : Nat → TtyQueue → List UInt8 × TtyQueue
  | 0, q => ([], q)
  | n + 1, q =>
      if q.tail = q.head then ([], q)
      else
        let (bytes, rest) := drain n { q with
          tail := (q.tail + 1) % q.bufferSize
          cnt := if 0 < q.cnt then q.cnt - 1 else q.cnt }
        (q.buf q.tail :: bytes, rest)

def flushTo (tty : Tty) (worker : Int) : Tty :=
  let (bytes, q) := drain tty.outputQueue.bufferSize tty.outputQueue
  { tty with outputQueue := q, emitted := tty.emitted ++ bytes.map (Prod.mk worker) }

def ttyCopyOutputBuffer (link : Linked) (tty : Tty) : Linked :=
  { link with
    outputBuf := fun i => if i < TTY_BUF_SIZE then tty.outputQueue.buf i else link.outputBuf i }

def ttyFlushOutputQueueEx (tty : Tty) : Tty :=
  if tty.magic ≠ TTY_MAGIC then tty
  else if tty.outputWorkerNumber = TTY_OUTPUT_WORKER_FGCONSOLE ∨
      tty.outputWorkerNumber = TTY_OUTPUT_WORKER_STDIN ∨
      tty.outputWorkerNumber = TTY_OUTPUT_WORKER_SERIALPORT then
    flushTo tty tty.outputWorkerNumber
  else if tty.outputWorkerNumber = TTY_OUTPUT_WORKER_PTYSLAVE then
    match tty.link with
    | none => tty
    | some link =>
        if link.magic ≠ TTY_MAGIC then tty
        else { tty with link := some (ttyCopyOutputBuffer link tty) }
  else tty

def erase (q : TtyQueue) : TtyQueue :=
  if 0 < q.cnt then
    { q with head := (q.head + q.bufferSize - 1) % q.bufferSize, cnt := q.cnt - 1 }
  else q

/-- The buffer has signed characters and the table of control characters has unsigned ones. -/
def isErase (tty : Tty) (c : UInt8) : Prop :=
  c.toNat < 128 ∧ c = tty.verase

instance (tty : Tty) (c : UInt8) : Decidable (isErase tty c) :=
  inferInstanceAs (Decidable (_ ∧ _))

def writeChar (tty : Tty) (c : UInt8) : Tty :=
  if tty.icanon then
    if c = newline then
      ttyFlushOutputQueueEx
        { tty with canonicalQueue := (ttyQueuePutchar tty.canonicalQueue c).2 }
    else if isErase tty c then { tty with canonicalQueue := erase tty.canonicalQueue }
    else { tty with canonicalQueue := (ttyQueuePutchar tty.canonicalQueue c).2 }
  else { tty with rawQueue := (ttyQueuePutchar tty.rawQueue c).2 }

def ttyWrite3 (tty : Tty) (buffer : Option (Nat → UInt8)) (nr : Int) : Outcome × Tty :=
  if tty.magic ≠ TTY_MAGIC then (⟨-1, []⟩, tty)
  else
    match buffer with
    | none => (⟨-1, []⟩, tty)
    | some buffer =>
        if nr ≤ 0 then (⟨-1, []⟩, tty)
        else (⟨nr, []⟩, ((List.range nr.toNat).map buffer).foldl writeChar tty)

def getline : Nat → TtyQueue → List UInt8 × TtyQueue
  | 0, q => ([], q)
  | n + 1, q =>
      let (c, q) := ttyQueueGetchar q
      if c < 0 then ([], q)
      else if c = newline.toNat then ([newline], q)
      else
        let (bytes, q) := getline n q
        (UInt8.ofNat c.toNat :: bytes, q)

def ttyRead3 (tty : Tty) (buffer : Bool) (nr : Int) : Outcome × Tty :=
  if tty.magic ≠ TTY_MAGIC then (⟨-1, []⟩, tty)
  else if buffer = false ∨ nr ≤ 0 then (⟨-1, []⟩, tty)
  else if tty.icanon then
    let (bytes, q) := getline nr.toNat tty.canonicalQueue
    (⟨bytes.length, bytes⟩, { tty with canonicalQueue := q })
  else
    let (bytes, q) := getchars nr.toNat tty.rawQueue
    (⟨bytes.length, bytes⟩, { tty with rawQueue := q })

inductive TtyCall where
  | write (buffer : Option (Nat → UInt8)) (nr : Int)
  | read (buffer : Bool) (nr : Int)

def ttyStep (tty : Tty) : TtyCall → Except String (Outcome × Tty)
  | .write buffer nr => .ok (ttyWrite3 tty buffer nr)
  | .read buffer nr => .ok (ttyRead3 tty buffer nr)

def typed : TtyCall → List UInt8
  | .write (some buffer) nr => (List.range nr.toNat).map buffer
  | .write none _ => []
  | .read _ _ => []

variable {n : Nat} {q : TtyQueue} {verase : UInt8} {tty tty' : Tty} {e : Editor UInt8}
  {taken : List UInt8}

theorem drain_spec (h : q.Valid) (hn : q.occupied ≤ n) :
    (drain n q).1 = q.contents ∧ (drain n q).2.contents = [] ∧ (drain n q).2.Valid := by
  induction n generalizing q with
  | zero =>
      have hempty : q.contents = [] := by
        rw [← List.length_eq_zero_iff, contents_length]
        omega
      exact ⟨hempty.symm, hempty, h⟩
  | succ n ih =>
      rw [drain]
      rcases ttyQueueGetchar_spec h with ⟨hempty, hget⟩ | ⟨c, hc, hvalid, hcontents⟩
      · have hsame : q.tail = q.head := by
          by_contra hne
          rw [ttyQueueGetchar, if_neg (fun heq => hne heq.symm)] at hget
          have hneg := congrArg Prod.fst hget
          dsimp only at hneg
          omega
        rw [if_pos hsame]
        exact ⟨hempty.symm, hempty, h⟩
      · have hne : q.head ≠ q.tail := by
          intro heq
          rw [ttyQueueGetchar, if_pos heq] at hc
          dsimp only at hc
          omega
        have hlength := congrArg List.length hcontents
        rw [contents_length, List.length_cons, contents_length] at hlength
        have hpos : 0 < q.cnt := by
          rw [h.cnt]
          omega
        rw [ttyQueueGetchar, if_neg hne] at hc hvalid hcontents hlength
        dsimp only at hc hvalid hcontents hlength
        have hchar : q.buf q.tail = c := UInt8.toNat_inj.mp (Int.ofNat.inj hc)
        rw [if_neg (fun heq => hne heq.symm), if_pos hpos]
        obtain ⟨hbytes, hrest, hlast⟩ := ih hvalid (by omega)
        dsimp only
        rw [hbytes, hcontents, hchar]
        exact ⟨rfl, hrest, hlast⟩

theorem erase_spec (h : q.Valid) : (erase q).contents = q.contents.dropLast ∧ (erase q).Valid := by
  have hlt := occupied_lt q
  obtain ⟨hsize, hhead, htail, hcnt⟩ := h
  unfold erase
  by_cases hpos : 0 < q.cnt
  · rw [if_pos hpos, hsize]
    have hoccupied : q.occupied = ((q.head + TTY_BUF_SIZE - 1) % TTY_BUF_SIZE + TTY_BUF_SIZE -
        q.tail) % TTY_BUF_SIZE + 1 := by
      rw [hcnt] at hpos
      unfold TtyQueue.occupied TTY_BUF_SIZE at *
      omega
    refine ⟨?_, rfl, Nat.mod_lt _ (by decide), htail, ?_⟩
    · rw [TtyQueue.contents, TtyQueue.contents, hoccupied, Ring.window_add, Ring.window_succ,
        Ring.window_zero, List.dropLast_concat]
      rfl
    · change q.cnt - 1 = (((q.head + TTY_BUF_SIZE - 1) % TTY_BUF_SIZE + TTY_BUF_SIZE -
        q.tail) % TTY_BUF_SIZE : Nat)
      rw [hcnt, hoccupied]
      omega
  · rw [if_neg hpos]
    have hempty : q.contents = [] := by
      rw [← List.length_eq_zero_iff, contents_length]
      omega
    rw [hempty]
    exact ⟨rfl, hsize, hhead, htail, hcnt⟩

theorem getline_spec (h : q.Valid) : q.contents = (getline n q).1 ++ (getline n q).2.contents ∧
      newline ∉ (getline n q).1.dropLast ∧ (getline n q).2.Valid := by
  induction n generalizing q with
  | zero => exact ⟨rfl, List.not_mem_nil, h⟩
  | succ n ih =>
      rw [getline]
      rcases ttyQueueGetchar_spec h with ⟨_, hempty⟩ | ⟨c, hc, hvalid, hcontents⟩
      · rw [hempty]
        exact ⟨rfl, List.not_mem_nil, h⟩
      · dsimp only
        rw [hc, if_neg (by omega), hcontents]
        by_cases hnewline : c = newline
        · rw [hnewline, if_pos rfl]
          exact ⟨rfl, List.not_mem_nil, hvalid⟩
        · have hne : (c.toNat : Int) ≠ newline.toNat := by
            intro heq
            exact hnewline (UInt8.toNat_inj.mp (Int.ofNat.inj heq))
          obtain ⟨hrest, hstops, hlast⟩ := ih hvalid
          rw [if_neg hne]
          dsimp only
          rw [Int.toNat_natCast, UInt8.ofNat_toNat]
          refine ⟨by rw [List.cons_append, ← hrest], ?_, hlast⟩
          intro hmem
          rcases List.eq_nil_or_concat (getline n (ttyQueueGetchar q).2).1 with hnil | ⟨f, l, hl⟩
          · rw [hnil] at hmem
            exact List.not_mem_nil hmem
          · rw [List.dropLast_cons_of_ne_nil (by rw [hl]; simp), List.mem_cons] at hmem
            rcases hmem with heq | hmem
            · exact hnewline heq.symm
            · exact hstops hmem

structure Canonical (verase : UInt8) (tty : Tty) : Prop where
  magic : tty.magic = TTY_MAGIC
  icanon : tty.icanon = true
  verase : tty.verase = verase
  valid : tty.canonicalQueue.Valid

theorem canonical_newTty : Canonical CERASE newTty := ⟨rfl, rfl, rfl, valid_newQueue⟩

theorem ttyFlushOutputQueueEx_frame (tty : Tty) : (ttyFlushOutputQueueEx tty).magic = tty.magic ∧
      (ttyFlushOutputQueueEx tty).icanon = tty.icanon ∧
        (ttyFlushOutputQueueEx tty).verase = tty.verase ∧
          (ttyFlushOutputQueueEx tty).canonicalQueue = tty.canonicalQueue := by
  unfold ttyFlushOutputQueueEx
  split
  · exact ⟨rfl, rfl, rfl, rfl⟩
  split
  · exact ⟨rfl, rfl, rfl, rfl⟩
  split
  · split
    · exact ⟨rfl, rfl, rfl, rfl⟩
    · split
      · exact ⟨rfl, rfl, rfl, rfl⟩
      · exact ⟨rfl, rfl, rfl, rfl⟩
  · exact ⟨rfl, rfl, rfl, rfl⟩

def HasRoom (verase : UInt8) (pending : List UInt8) (c : UInt8) : Prop :=
  (c ≠ newline ∧ c = verase) ∨ pending.length + 1 < TTY_BUF_SIZE

instance (verase : UInt8) (pending : List UInt8) (c : UInt8) :
    Decidable (HasRoom verase pending c) :=
  inferInstanceAs (Decidable (_ ∨ _))

theorem writeChar_spec {c : UInt8} (h : Canonical verase tty) (hverase : verase.toNat < 128)
    (hroom : HasRoom verase tty.canonicalQueue.contents c) :
    (writeChar tty c).canonicalQueue.contents =
        keyed newline (· = verase) tty.canonicalQueue.contents c ∧
      Canonical verase (writeChar tty c) := by
  obtain ⟨hmagic, hicanon, hv, hvalid⟩ := h
  have hput : ¬(c ≠ newline ∧ c = verase) →
      (ttyQueuePutchar tty.canonicalQueue c).2.contents = tty.canonicalQueue.contents ++ [c] ∧
        (ttyQueuePutchar tty.canonicalQueue c).2.Valid := by
    intro hkey
    have hlt := hroom.resolve_left hkey
    rw [contents_length] at hlt
    rcases ttyQueuePutchar_spec hvalid c with ⟨hfull, _⟩ | ⟨_, _, hvalid', hcontents⟩
    · omega
    · exact ⟨hcontents, hvalid'⟩
  rw [writeChar, if_pos hicanon, keyed]
  by_cases hc : c = newline
  · obtain ⟨hcontents, hvalid'⟩ := hput (fun h => h.1 hc)
    obtain ⟨hmagic', hicanon', hv', hqueue⟩ := ttyFlushOutputQueueEx_frame
      { tty with canonicalQueue := (ttyQueuePutchar tty.canonicalQueue c).2 }
    rw [if_pos hc, if_pos hc]
    refine ⟨by rw [hqueue, hcontents], ?_⟩
    exact ⟨hmagic'.trans hmagic, hicanon'.trans hicanon, hv'.trans hv, hqueue ▸ hvalid'⟩
  rw [if_neg hc, if_neg hc]
  by_cases herase : c = verase
  · have hyes : isErase tty c := ⟨herase ▸ hverase, herase.trans hv.symm⟩
    obtain ⟨hcontents, hvalid'⟩ := erase_spec hvalid
    rw [if_pos hyes, if_pos herase]
    exact ⟨hcontents, hmagic, hicanon, hv, hvalid'⟩
  · have hno : ¬isErase tty c := fun h => herase (h.2.trans hv)
    obtain ⟨hcontents, hvalid'⟩ := hput (fun h => herase h.2)
    rw [if_neg hno, if_neg herase]
    exact ⟨hcontents, hmagic, hicanon, hv, hvalid'⟩

theorem writeChars_spec (hverase : verase.toNat < 128) {text : List UInt8}
    (h : Canonical verase tty)
    (hroom : AllKeys newline (· = verase) (HasRoom verase) tty.canonicalQueue.contents text) :
    (text.foldl writeChar tty).canonicalQueue.contents =
        text.foldl (keyed newline (· = verase)) tty.canonicalQueue.contents ∧
      Canonical verase (text.foldl writeChar tty) := by
  induction text generalizing tty with
  | nil => exact ⟨rfl, h⟩
  | cons c text ih =>
      obtain ⟨hcontents, h'⟩ := writeChar_spec h hverase hroom.1
      rw [List.foldl_cons, List.foldl_cons, ← hcontents]
      apply ih h'
      rw [hcontents]
      exact hroom.2

def NoOverflow (tty : Tty) (call : TtyCall) : Prop :=
  AllKeys newline (· = tty.verase) (HasRoom tty.verase) tty.canonicalQueue.contents (typed call)

instance (tty : Tty) (call : TtyCall) : Decidable (NoOverflow tty call) :=
  decidableAllKeys newline _ _ _

/-- No erase character meets the end of a completed line, and a read finds the end of one or
nothing at all. -/
def LineWise (tty : Tty) : TtyCall → Prop
  | .write buffer nr =>
      AllKeys newline (· = tty.verase) (OwnLine newline (· = tty.verase))
        tty.canonicalQueue.contents (typed (.write buffer nr))
  | .read buffer nr =>
      buffer = true → 0 < nr →
        tty.canonicalQueue.contents = [] ∨ newline ∈ tty.canonicalQueue.contents

instance (tty : Tty) : ∀ call, Decidable (LineWise tty call)
  | .write _ _ => decidableAllKeys newline _ _ _
  | .read _ _ => inferInstanceAs (Decidable (_ → _ → _))

def edited (verase : UInt8) (calls : List TtyCall) : Editor UInt8 :=
  Editor.empty.type newline (· = verase) (calls.map typed).flatten

theorem ttyStep_tracks (hverase : verase.toNat < 128) {call : TtyCall} {out : Outcome}
    (h : Canonical verase tty) (htracks : Tracks newline e taken tty.canonicalQueue.contents)
    (hroom : NoOverflow tty call) (hlines : LineWise tty call)
    (hstep : ttyStep tty call = .ok (out, tty')) :
    Canonical verase tty' ∧
      Tracks newline (e.type newline (· = verase) (typed call)) (taken ++ out.bytes)
        tty'.canonicalQueue.contents := by
  have hv := h.verase
  cases call with
  | write buffer nr =>
      have hwrite : ttyWrite3 tty buffer nr = (out, tty') := Except.ok.inj hstep
      have hrefused : typed (.write buffer nr) = [] → (⟨-1, []⟩, tty) = (out, tty') →
          Canonical verase tty' ∧ Tracks newline
            (e.type newline (· = verase) (typed (.write buffer nr))) (taken ++ out.bytes)
              tty'.canonicalQueue.contents := by
        intro hnone heq
        obtain ⟨rfl, rfl⟩ := Prod.mk.inj heq
        rw [hnone, List.append_nil]
        exact ⟨h, htracks⟩
      unfold ttyWrite3 at hwrite
      rw [if_neg (not_not.mpr h.magic)] at hwrite
      cases buffer with
      | none => exact hrefused rfl hwrite
      | some buffer =>
          dsimp only at hwrite
          by_cases hnr : nr ≤ 0
          · rw [if_pos hnr] at hwrite
            apply hrefused _ hwrite
            rw [typed, Int.toNat_of_nonpos hnr]
            rfl
          · rw [if_neg hnr] at hwrite
            obtain ⟨rfl, rfl⟩ := Prod.mk.inj hwrite
            unfold NoOverflow at hroom
            rw [hv] at hroom
            rw [LineWise, hv] at hlines
            obtain ⟨hcontents, h'⟩ := writeChars_spec hverase h hroom
            refine ⟨h', ?_⟩
            rw [List.append_nil]
            have htyped := htracks.type hlines
            rw [← hcontents] at htyped
            exact htyped
  | read buffer nr =>
      have hread : ttyRead3 tty buffer nr = (out, tty') := Except.ok.inj hstep
      rw [ttyRead3, if_neg (not_not.mpr h.magic)] at hread
      by_cases hbad : buffer = false ∨ nr ≤ 0
      · rw [if_pos hbad] at hread
        obtain ⟨rfl, rfl⟩ := Prod.mk.inj hread
        rw [List.append_nil]
        exact ⟨h, htracks⟩
      · rw [if_neg hbad, if_pos h.icanon] at hread
        obtain ⟨rfl, rfl⟩ := Prod.mk.inj hread
        obtain ⟨hsplit, hstops, hvalid⟩ := getline_spec (n := nr.toNat) h.valid
        rw [not_or, Bool.not_eq_false] at hbad
        refine ⟨⟨h.magic, h.icanon, hv, hvalid⟩, ?_⟩
        exact htracks.take hsplit hstops (hlines hbad.1 (by omega))

theorem ttyRun_tracks (hverase : verase.toNat < 128) {calls : List TtyCall} {outs : List Outcome}
    (h : Canonical verase tty) (htracks : Tracks newline e taken tty.canonicalQueue.contents)
    (hroom : Guarded ttyStep NoOverflow tty calls) (hlines : Guarded ttyStep LineWise tty calls)
    (hrun : run ttyStep tty calls = .ok (outs, tty')) :
    Tracks newline (e.type newline (· = verase) (calls.map typed).flatten)
      (taken ++ (outs.map Outcome.bytes).flatten) tty'.canonicalQueue.contents := by
  induction calls generalizing tty outs e taken with
  | nil =>
      cases hrun
      rw [List.map_nil, List.map_nil, List.flatten_nil, List.append_nil]
      exact htracks
  | cons call calls ih =>
      obtain ⟨out, mid, outs', hstep, hrest, rfl⟩ := run_cons_ok hrun
      obtain ⟨h', htracks'⟩ := ttyStep_tracks hverase h htracks hroom.1 hlines.1 hstep
      have hlast := ih h' htracks' (hroom.tail hstep) (hlines.tail hstep) hrest
      rw [← Editor.type_append, List.append_assoc] at hlast
      exact hlast

/-- In every run that does not overflow the queue and works line by line, the reads give the
beginning of the completed lines, and the queue holds the rest of them and the line that is
being edited. -/
theorem reads_completed_lines {verase : UInt8} {calls : List TtyCall} {outs : List Outcome}
    {tty tty' : Tty} (h : Canonical verase tty) (hverase : verase.toNat < 128)
    (hempty : tty.canonicalQueue.contents = [])
    (hroom : Guarded ttyStep NoOverflow tty calls) (hlines : Guarded ttyStep LineWise tty calls)
    (hrun : run ttyStep tty calls = .ok (outs, tty')) :
    (outs.map Outcome.bytes).flatten <+: (edited verase calls).done ∧
      (outs.map Outcome.bytes).flatten ++ tty'.canonicalQueue.contents =
        (edited verase calls).done ++ (edited verase calls).line := by
  have hstart : Tracks newline Editor.empty [] tty.canonicalQueue.contents := by
    rw [hempty]
    exact tracks_empty newline
  have hlast := ttyRun_tracks hverase h hstart hroom hlines hrun
  exact ⟨hlast.taken_isInitial, hlast.text⟩

def types (bytes : List UInt8) : TtyCall :=
  .write (some fun i => bytes.getD i 0) bytes.length

def oneLine : List TtyCall :=
  [types [97, 98, CERASE], types [newline, 99], .read true 8]

theorem run_oneLine :
    ∃ tty, run ttyStep newTty oneLine = .ok ([⟨3, []⟩, ⟨2, []⟩, ⟨2, [97, newline]⟩], tty) :=
  ⟨_, rfl⟩

theorem reads_completed_lines_example :
    ∃ tty, run ttyStep newTty oneLine = .ok ([⟨3, []⟩, ⟨2, []⟩, ⟨2, [97, newline]⟩], tty) ∧
      [97, newline] <+: (edited CERASE oneLine).done ∧
        [97, newline] ++ tty.canonicalQueue.contents =
          (edited CERASE oneLine).done ++ (edited CERASE oneLine).line := by
  have hroom : Guarded ttyStep NoOverflow newTty oneLine := by decide +kernel
  have hlines : Guarded ttyStep LineWise newTty oneLine := by decide +kernel
  obtain ⟨tty, hrun⟩ := run_oneLine
  exact ⟨tty, hrun, reads_completed_lines canonical_newTty (by decide) rfl hroom hlines hrun⟩

def eraseOver : List TtyCall :=
  [types [97, 98, newline, CERASE, 99, newline], .read true 8]

/-- An erase character right behind a newline takes the newline back, and the next line is
read as the end of the one before. -/
theorem erase_joins_lines :
    Guarded ttyStep NoOverflow newTty eraseOver ∧
      ∃ tty, run ttyStep newTty eraseOver =
          .ok ([⟨6, []⟩, ⟨4, [97, 98, 99, newline]⟩], tty) ∧
        (edited CERASE eraseOver).done = [97, 98, newline, 99, newline] ∧
          ¬[97, 98, 99, newline] <+: (edited CERASE eraseOver).done :=
  ⟨by decide +kernel, _, rfl, by decide, by decide⟩

end Gramado.Io.LineDiscipline
