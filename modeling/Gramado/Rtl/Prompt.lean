import Mathlib.Data.List.Infix
import Gramado.Library.CheckedRead
import Gramado.Library.Run

/-! The prompt of the user library, and the calls that edit it and hand it over. -/

namespace Gramado.Rtl.Prompt

open Library.CheckedRead Library.Run

def PROMPT_MAX_DEFAULT : Nat := 1024

def VK_RETURN : UInt8 := 0x1C
def VK_BACKSPACE : UInt8 := 0x0E
def VK_TAB : UInt8 := 0x0F

/-- The cells of `prompt`, `prompt_pos`, which is never below 0, and `prompt_max`. -/
structure Buffer where
  cells : Nat → UInt8
  pos : Nat
  max : Nat

def store (cells : Nat → UInt8) (i : Nat) (c : UInt8) : Except Fault (Nat → UInt8) :=
  if i < PROMPT_MAX_DEFAULT then .ok (Function.update cells i c) else .error .outside

abbrev erases (c : UInt8) : Prop :=
  c = 0x8 ∨ c = 0x7f ∨ c = VK_BACKSPACE

def input (s : Buffer) (ch : UInt64) : Except Fault (UInt64 × Buffer) :=
  let c := ch.toUInt8
  let max := if s.max = 0 ∨ PROMPT_MAX_DEFAULT ≤ s.max then PROMPT_MAX_DEFAULT else s.max
  if max < s.pos then .ok (0, { s with max := max })
  else if c = VK_RETURN then do
    let cells ← store s.cells s.pos 0
    .ok (VK_RETURN.toUInt64, ⟨cells, s.pos, max⟩)
  else if c = VK_TAB then do
    let cells ← store s.cells s.pos 9
    .ok (VK_RETURN.toUInt64, ⟨cells, s.pos, max⟩)
  else if erases c then
    if s.pos = 0 then do
      let cells ← store s.cells 0 0
      .ok (0, ⟨cells, 0, max⟩)
    else .ok (0, ⟨s.cells, s.pos - 1, max⟩)
  else do
    let cells ← store s.cells s.pos c
    .ok (0, ⟨cells, s.pos + 1, max⟩)

def prompt_clean (s : Buffer) : Buffer :=
  ⟨fun i => if i < PROMPT_MAX_DEFAULT then 0 else s.cells i, 0, PROMPT_MAX_DEFAULT⟩

def bytes (cells : Nat → UInt8) : List UInt8 :=
  (List.range PROMPT_MAX_DEFAULT).map cells

structure Request where
  con_id : Int32
  text : List UInt8

structure Outcome where
  result : Int
  handed : Option Request

abbrev IsConsole (con_id : Int32) : Prop :=
  0 ≤ con_id ∧ con_id < 4

def prompt_flush (s : Buffer) (con_id : Int32) : Except Fault (Outcome × Buffer) :=
  if IsConsole con_id then do
    let (_, s) ← input s 0
    let len ← strlen (bytes s.cells)
    .ok (⟨0, some ⟨con_id, (bytes s.cells).take len⟩⟩, prompt_clean s)
  else .ok (⟨-1, none⟩, s)

def prompt_putchar (s : Buffer) (c con_id : Int32) : Except Fault (Outcome × Buffer) :=
  if IsConsole con_id then
    if c ≠ 10 then do
      let (_, s) ← input s c.toInt64.toUInt64
      .ok (⟨c.toInt, none⟩, s)
    else do
      let (out, s) ← prompt_flush s con_id
      .ok (⟨0, out.handed⟩, s)
  else .ok (⟨-1, none⟩, s)

inductive Call where
  | input (ch : UInt64)
  | putchar (c con_id : Int32)
  | flush (con_id : Int32)
  | clean

def perform (s : Buffer) : Call → Except Fault (Outcome × Buffer)
  | .input ch => do
      let (result, s) ← input s ch
      .ok (⟨result.toNat, none⟩, s)
  | .putchar c con_id => prompt_putchar s c con_id
  | .flush con_id => prompt_flush s con_id
  | .clean => .ok (⟨0, none⟩, prompt_clean s)

/-- What a call asks for: a character typed into the prompt, the text handed over to a console,
an empty prompt, or, with the number of no console, nothing. -/
inductive Act where
  | type (c : UInt8)
  | flush (con_id : Int32)
  | clear
  | nothing

def Call.act : Call → Act
  | .input ch => .type ch.toUInt8
  | .putchar c con_id =>
      if IsConsole con_id then
        if c ≠ 10 then .type c.toInt64.toUInt64.toUInt8 else .flush con_id
      else .nothing
  | .flush con_id => if IsConsole con_id then .flush con_id else .nothing
  | .clean => .clear

/-- The characters that were entered since the last call that emptied the prompt. -/
@[simp] def Act.record (entered : List UInt8) : Act → List UInt8
  | .type c => entered ++ [c]
  | .flush _ => []
  | .clear => []
  | .nothing => entered

structure Session where
  buffer : Buffer
  entered : List UInt8

def step (s : Session) (call : Call) : Except Fault (Outcome × Session) := do
  let (out, buffer) ← perform s.buffer call
  .ok (out, ⟨buffer, call.act.record s.entered⟩)

def start (s : Buffer) : Session :=
  ⟨prompt_clean s, []⟩

abbrev Plain (c : UInt8) : Prop :=
  32 ≤ c ∧ c < 127 ∨ erases c

def edited (text : List UInt8) (c : UInt8) : List UInt8 :=
  if erases c then text.dropLast else text ++ [c]

def unerased (entered : List UInt8) : List UInt8 :=
  entered.foldl edited []

/-- The call writes inside the prompt, and what it hands over is what stands there. -/
def Keeps (s : Session) (call : Call) : Prop :=
  Returns (step s call) fun result =>
    ∀ con_id, call.act = .flush con_id → (∀ c ∈ s.entered, Plain c) →
      (unerased s.entered).length < PROMPT_MAX_DEFAULT →
        result.1.handed.map Request.text = some (unerased s.entered)

/-- A character that is stored, and the end of the text, find a cell at the position. -/
def HasRoom (s : Session) (call : Call) : Prop :=
  match call.act with
  | .type c => ¬ erases c → s.buffer.pos < PROMPT_MAX_DEFAULT
  | .flush _ => s.buffer.pos < PROMPT_MAX_DEFAULT
  | .clear => True
  | .nothing => True

def contents (s : Buffer) : List UInt8 :=
  (List.range s.pos).map s.cells

structure Held (s : Buffer) (entered : List UInt8) : Prop where
  max : s.max = PROMPT_MAX_DEFAULT
  inside : s.pos ≤ PROMPT_MAX_DEFAULT
  text : (∀ c ∈ entered, Plain c) → contents s = unerased entered

theorem held_clean (s : Buffer) : Held (prompt_clean s) [] where
  max := rfl
  inside := Nat.zero_le _
  text _ := rfl

@[simp] theorem returns_store (cells : Nat → UInt8) (i : Nat) (c : UInt8)
    (P : (Nat → UInt8) → Prop) :
    Returns (store cells i c) P ↔ i < PROMPT_MAX_DEFAULT ∧ P (Function.update cells i c) := by
  unfold store
  split <;> simp [*]

theorem contents_update (s : Buffer) (c : UInt8) (max : Nat) :
    contents ⟨Function.update s.cells s.pos c, s.pos, max⟩ = contents s := by
  apply List.map_congr_left
  intro i hi
  exact Function.update_of_ne (List.mem_range.mp hi).ne c s.cells

theorem contents_typed (s : Buffer) (c : UInt8) (max : Nat) :
    contents ⟨Function.update s.cells s.pos c, s.pos + 1, max⟩ = contents s ++ [c] := by
  have hfront := contents_update s c max
  simp only [contents] at hfront ⊢
  rw [List.range_succ, List.map_append, hfront]
  simp

theorem contents_erased (s : Buffer) (max : Nat) :
    contents ⟨s.cells, s.pos - 1, max⟩ = (contents s).dropLast := by
  cases h : s.pos with
  | zero => simp [contents, h]
  | succ pos => simp [contents, h, List.range_succ]

theorem unerased_snoc (entered : List UInt8) (c : UInt8) :
    unerased (entered ++ [c]) = edited (unerased entered) c := by
  rw [unerased, List.foldl_append]
  rfl

variable {s : Buffer} {entered : List UInt8} {con_id : Int32}

theorem not_plain {c : UInt8} (h : c = VK_RETURN ∨ c = VK_TAB) : ¬ Plain c := by
  rcases h with rfl | rfl <;> decide

section Input

variable {s : Buffer} {entered : List UInt8} (hs : Held s entered) (ch : UInt64)

include hs

theorem returns_input_iff (P : UInt64 × Buffer → Prop) : Returns (input s ch) P ↔
      if ch.toUInt8 = VK_RETURN then
        s.pos < PROMPT_MAX_DEFAULT ∧
          P (VK_RETURN.toUInt64, ⟨Function.update s.cells s.pos 0, s.pos, PROMPT_MAX_DEFAULT⟩)
      else if ch.toUInt8 = VK_TAB then
        s.pos < PROMPT_MAX_DEFAULT ∧
          P (VK_RETURN.toUInt64, ⟨Function.update s.cells s.pos 9, s.pos, PROMPT_MAX_DEFAULT⟩)
      else if erases ch.toUInt8 then
        if s.pos = 0 then P (0, ⟨Function.update s.cells 0 0, 0, PROMPT_MAX_DEFAULT⟩)
        else P (0, ⟨s.cells, s.pos - 1, PROMPT_MAX_DEFAULT⟩)
      else
        s.pos < PROMPT_MAX_DEFAULT ∧
          P (0, ⟨Function.update s.cells s.pos ch.toUInt8, s.pos + 1, PROMPT_MAX_DEFAULT⟩) := by
  have hinside : ¬ PROMPT_MAX_DEFAULT < s.pos := hs.inside.not_gt
  have hsize : 0 < PROMPT_MAX_DEFAULT := by decide
  unfold input
  simp only [hs.max, le_refl, or_true, if_true, if_neg hinside]
  split_ifs <;> simp [hsize]

theorem input_keeps (hroom : ¬ erases ch.toUInt8 → s.pos < PROMPT_MAX_DEFAULT) :
    Returns (input s ch) fun result => Held result.2 (entered ++ [ch.toUInt8]) := by
  have hinside := hs.inside
  have hplain (h : ∀ c ∈ entered ++ [ch.toUInt8], Plain c) :
      (∀ c ∈ entered, Plain c) ∧ Plain ch.toUInt8 := by
    simpa [or_imp, forall_and] using h
  rw [returns_input_iff hs]
  split_ifs with hreturn htab herases hzero
  · refine ⟨hroom (by rw [hreturn]; decide), rfl, hinside, fun h => ?_⟩
    exact absurd (hplain h).2 (not_plain (.inl hreturn))
  · refine ⟨hroom (by rw [htab]; decide), rfl, hinside, fun h => ?_⟩
    exact absurd (hplain h).2 (not_plain (.inr htab))
  · refine ⟨rfl, Nat.zero_le _, fun h => ?_⟩
    have hempty : unerased entered = [] := by
      rw [← hs.text (hplain h).1]
      simp [contents, hzero]
    rw [unerased_snoc, hempty, edited, if_pos herases]
    rfl
  · refine ⟨rfl, (Nat.sub_le _ 1).trans hinside, fun h => ?_⟩
    rw [unerased_snoc, ← hs.text (hplain h).1, edited, if_pos herases, contents_erased]
  · refine ⟨hroom herases, rfl, hroom herases, fun h => ?_⟩
    rw [unerased_snoc, ← hs.text (hplain h).1, edited, if_neg herases, contents_typed]

theorem room_of_input {P : UInt64 × Buffer → Prop} (h : Returns (input s ch) P) :
    ¬ erases ch.toUInt8 → s.pos < PROMPT_MAX_DEFAULT := by
  intro herases
  rw [returns_input_iff hs, if_neg herases] at h
  split_ifs at h
  · exact h.1
  · exact h.1
  · exact h.1

end Input

theorem bytes_ended (h : s.pos < PROMPT_MAX_DEFAULT) :
    ∃ rest, bytes (Function.update s.cells s.pos 0) = contents s ++ 0 :: rest := by
  obtain ⟨k, hk⟩ := Nat.exists_eq_add_of_lt h
  refine ⟨(List.range k).map fun i => Function.update s.cells s.pos 0 (s.pos + (i + 1)), ?_⟩
  have hfront := contents_update s 0 s.max
  simp only [contents] at hfront ⊢
  rw [bytes, hk, Nat.add_assoc, List.range_add, List.map_append, hfront, List.range_succ_eq_map]
  simp

theorem zero_notMem_unerased (h : ∀ c ∈ entered, Plain c) : 0 ∉ unerased entered := by
  induction entered using List.reverseRecOn with
  | nil => simp [unerased]
  | append_singleton entered c ih =>
      have hrest : 0 ∉ unerased entered := ih fun c hc => h c (by simp [hc])
      have hc : Plain c := h c (by simp)
      rw [unerased_snoc, edited]
      split_ifs with herases
      · exact fun hmem => hrest (List.mem_of_mem_dropLast hmem)
      · rw [List.mem_append, List.mem_singleton]
        rintro (hmem | rfl)
        · exact hrest hmem
        · exact absurd hc (by decide)

theorem flush_eq (hs : Held s entered) (hcon : IsConsole con_id) (P : Outcome × Buffer → Prop) :
    Returns (prompt_flush s con_id) P ↔ s.pos < PROMPT_MAX_DEFAULT ∧
        P (⟨0, some ⟨con_id, text (bytes (Function.update s.cells s.pos 0))⟩⟩,
          prompt_clean ⟨Function.update s.cells s.pos 0, s.pos + 1, PROMPT_MAX_DEFAULT⟩) := by
  have hzero : (0 : UInt64).toUInt8 = 0 := rfl
  have htake (l : List UInt8) : l.take (text l).length = text l :=
    List.prefix_iff_eq_take.mp (List.takeWhile_prefix _) |>.symm
  have hcode : ¬ (0 : UInt8) = VK_RETURN ∧ ¬ (0 : UInt8) = VK_TAB ∧ ¬ erases 0 := by decide
  unfold prompt_flush
  rw [if_pos hcon, returns_bind, returns_input_iff hs, hzero, if_neg hcode.1, if_neg hcode.2.1,
    if_neg hcode.2.2]
  apply and_congr_right
  intro hroom
  obtain ⟨rest, hbytes⟩ := bytes_ended hroom
  dsimp only
  rw [returns_bind, returns_strlen, returns_ok, htake, and_iff_right]
  simp [hbytes]

theorem flush_text (hs : Held s entered) (hroom : s.pos < PROMPT_MAX_DEFAULT)
    (hplain : ∀ c ∈ entered, Plain c) :
    text (bytes (Function.update s.cells s.pos 0)) = unerased entered := by
  obtain ⟨rest, hbytes⟩ := bytes_ended hroom
  rw [hbytes, hs.text hplain, text_append (zero_notMem_unerased hplain), text_zero, List.append_nil]

theorem flush_meets (hs : Held s entered) (hcon : IsConsole con_id)
    (hroom : s.pos < PROMPT_MAX_DEFAULT) :
    Returns (prompt_flush s con_id) fun result =>
      Held result.2 [] ∧ ((∀ c ∈ entered, Plain c) →
        result.1.handed.map Request.text = some (unerased entered)) := by
  rw [flush_eq hs hcon]
  dsimp only
  refine ⟨hroom, held_clean _, fun hplain => ?_⟩
  rw [Option.map_some, flush_text hs hroom hplain]

section Calls

variable {s : Session} (hs : Held s.buffer s.entered) (call : Call)

include hs

theorem perform_meets (h : HasRoom s call) : Returns (perform s.buffer call) fun result =>
      Held result.2 (call.act.record s.entered) ∧
        ∀ con_id, call.act = .flush con_id → (∀ c ∈ s.entered, Plain c) →
          result.1.handed.map Request.text = some (unerased s.entered) := by
  cases call with
  | input ch =>
      rw [perform, returns_bind]
      apply (input_keeps hs ch h).mono
      rintro ⟨result, next⟩ hnext
      simpa [Call.act] using hnext
  | putchar c con_id =>
      simp only [HasRoom, Call.act] at h
      simp only [perform, prompt_putchar, Call.act]
      split_ifs at h ⊢ with hcon hc
      · rw [returns_bind]
        apply (input_keeps hs _ h).mono
        rintro ⟨result, next⟩ hnext
        simpa using hnext
      · rw [returns_bind]
        apply (flush_meets hs hcon h).mono
        rintro ⟨out, next⟩ hnext
        simpa using hnext
      · simpa using hs
  | flush con_id =>
      simp only [HasRoom, Call.act] at h
      simp only [perform, Call.act]
      split_ifs at h ⊢ with hcon
      · apply (flush_meets hs hcon h).mono
        rintro ⟨out, next⟩ hnext
        simpa using hnext
      · rw [prompt_flush, if_neg hcon]
        simpa using hs
  | clean => simpa [perform, Call.act] using held_clean s.buffer

theorem room_of_perform {P : Outcome × Buffer → Prop} (h : Returns (perform s.buffer call) P) :
    HasRoom s call := by
  cases call with
  | input ch =>
      rw [perform, returns_bind] at h
      exact room_of_input hs ch h
  | putchar c con_id =>
      simp only [perform, prompt_putchar] at h
      simp only [HasRoom, Call.act]
      split_ifs at h ⊢ with hcon hc
      · rw [returns_bind] at h
        exact room_of_input hs _ h
      · rw [returns_bind, flush_eq hs hcon] at h
        exact h.1
      · trivial
  | flush con_id =>
      rw [perform] at h
      simp only [HasRoom, Call.act]
      split_ifs with hcon
      · exact ((flush_eq hs hcon P).mp h).1
      · trivial
  | clean => trivial

theorem keeps_iff : Keeps s call ↔ HasRoom s call := by
  unfold Keeps step
  rw [returns_bind]
  constructor
  · exact room_of_perform hs call
  · intro h
    apply (perform_meets hs call h).mono
    rintro ⟨out, next⟩ ⟨_, hout⟩
    rw [returns_ok]
    exact fun con_id hact hplain _ => hout con_id hact hplain

theorem held_step {out : Outcome} {next : Session} (h : HasRoom s call)
    (hstep : step s call = .ok (out, next)) : Held next.buffer next.entered := by
  have hmeets : Returns (step s call) fun result => Held result.2.buffer result.2.entered := by
    unfold step
    rw [returns_bind]
    apply (perform_meets hs call h).mono
    rintro ⟨out, next⟩ ⟨hnext, _⟩
    rw [returns_ok]
    exact hnext
  rwa [hstep, returns_ok] at hmeets

end Calls

theorem guarded_keeps_iff {s : Session} (hs : Held s.buffer s.entered) (calls : List Call) :
    Guarded step Keeps s calls ↔ Guarded step HasRoom s calls := by
  apply guarded_iff (fun s => Held s.buffer s.entered) (fun s call hs => keeps_iff hs call) _ hs
  intro s call out next hs hkeeps hstep
  exact held_step hs call ((keeps_iff hs call).mp hkeeps) hstep

theorem prompt_iff (s : Buffer) (calls : List Call) :
    Guarded step Keeps (start s) calls ↔ Guarded step HasRoom (start s) calls :=
  guarded_keeps_iff (held_clean s) calls

theorem room_for_end {s : Session} (hs : Held s.buffer s.entered) (n : Nat)
    (h : Guarded step HasRoom s (List.replicate n (.input 97) ++ [.flush 0])) :
    s.buffer.pos + n < PROMPT_MAX_DEFAULT := by
  induction n generalizing s with
  | zero => exact h.1
  | succ n ih =>
      rw [List.replicate_succ, List.cons_append] at h
      have hcode : (97 : UInt64).toUInt8 ≠ VK_RETURN ∧ (97 : UInt64).toUInt8 ≠ VK_TAB ∧
          ¬ erases (97 : UInt64).toUInt8 := by decide
      have hmoves : Returns (step s (.input 97)) fun result =>
          result.2.buffer.pos = s.buffer.pos + 1 := by
        unfold step perform
        rw [returns_bind, returns_bind, returns_input_iff hs, if_neg hcode.1, if_neg hcode.2.1,
          if_neg hcode.2.2]
        exact ⟨h.1 hcode.2.2, by simp⟩
      obtain ⟨⟨out, next⟩, hstep, hpos⟩ := hmoves
      have hrest := ih (held_step hs _ h.1 hstep) (h.tail hstep)
      dsimp only at hpos
      omega

/-- With the prompt full the flush stores the end of the text behind it. -/
theorem full_prompt_not_flushed :
    ¬ Guarded step Keeps (start ⟨fun _ => 0, 0, 0⟩)
      (List.replicate 1024 (.input 97) ++ [.flush 0]) := by
  intro h
  have hroom := room_for_end (held_clean _) 1024 ((prompt_iff _ _).mp h)
  exact absurd hroom (Nat.not_lt.mpr (Nat.le_add_left _ _))

end Gramado.Rtl.Prompt
