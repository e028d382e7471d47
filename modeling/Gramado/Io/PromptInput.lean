import Gramado.Library.CheckedRead
import Gramado.Library.Run
import Gramado.Io.FileObject

/-! The prompt: `kinput` of the library of the kernel. -/

namespace Gramado.Io.PromptInput

open Library.CheckedRead Library.Run
open Io.FileObject (BUFSIZ)

def PROMPT_SIZE : Nat := BUFSIZ
def PROMPT_MAX_DEFAULT : Nat := BUFSIZ
def INPUT_MODE_LINE : Int := 0
def INPUT_MODE_MULTIPLE_LINES : Int := 1

def lineFeed : UInt8 := 10
def carriageReturn : UInt8 := 13
def backspace : UInt8 := 0x0E

structure Prompt where
  prompt : Nat → UInt8
  promptOut : Nat → UInt8
  promptErr : Nat → UInt8
  promptPos : Nat

def store (prompt : Nat → UInt8) (i : Nat) (c : UInt8) : Except Fault (Nat → UInt8) :=
  if i < PROMPT_SIZE then .ok (Function.update prompt i c) else .error .outside

def cleared (cells : Nat → UInt8) : Nat → UInt8 :=
  fun i => if i < PROMPT_MAX_DEFAULT then 0 else cells i

def kinput (g_inputmode : Int) (s : Prompt) (ch : UInt64) : Except Fault (UInt64 × Prompt) :=
  let c := ch.toUInt8
  if g_inputmode = INPUT_MODE_LINE ∧ PROMPT_SIZE ≤ s.promptPos then .ok (0, s)
  else if g_inputmode = INPUT_MODE_MULTIPLE_LINES ∧ PROMPT_SIZE ≤ s.promptPos then .ok (0, s)
  else if c = lineFeed ∨ c = carriageReturn then
    if g_inputmode = INPUT_MODE_LINE then do
      let prompt ← store s.prompt s.promptPos 0
      .ok (lineFeed.toUInt64,
        ⟨cleared prompt, cleared s.promptOut, cleared s.promptErr, 0⟩)
    else if g_inputmode = INPUT_MODE_MULTIPLE_LINES then do
      let prompt ← store s.prompt s.promptPos carriageReturn
      let prompt ← store prompt (s.promptPos + 1) lineFeed
      .ok (0, { s with prompt := prompt, promptPos := s.promptPos + 2 })
    else .ok (0, s)
  else if c = backspace then
    if s.promptPos = 0 then do
      let prompt ← store s.prompt 0 0
      .ok (0, { s with prompt := prompt, promptPos := 0 })
    else do
      let prompt ← store s.prompt (s.promptPos - 1) 0
      .ok (0, { s with prompt := prompt, promptPos := s.promptPos - 1 })
  else do
    let prompt ← store s.prompt s.promptPos c
    .ok (0, { s with prompt := prompt, promptPos := s.promptPos + 1 })

/-- What `consolePrompt` makes, with the other two buffers as the kernel starts with them. -/
def start : Prompt :=
  ⟨fun _ => 0, fun _ => 0, fun _ => 0, 0⟩

def contents (s : Prompt) : List UInt8 :=
  (List.range s.promptPos).map s.prompt

structure Event where
  mode : Int
  ch : UInt64

abbrev Event.isBackspace (event : Event) : Prop :=
  event.ch.toUInt8 = backspace

abbrev Event.isEnter (event : Event) : Prop :=
  event.ch.toUInt8 = lineFeed ∨ event.ch.toUInt8 = carriageReturn

def step (s : Prompt) (event : Event) : Except Fault (UInt64 × Prompt) :=
  kinput event.mode s event.ch

/-- What a call makes of the text. A backspace takes back the last character that stands there,
if there is one. -/
def edited (event : Event) (text : List UInt8) : List UInt8 :=
  if event.isEnter then
    if event.mode = INPUT_MODE_LINE then []
    else if event.mode = INPUT_MODE_MULTIPLE_LINES then text ++ [carriageReturn, lineFeed]
    else text
  else if event.isBackspace then text.dropLast
  else text ++ [event.ch.toUInt8]

/-- What is asked of a call: the writes are inside, and it leaves the edited text, which ends at
a position inside. -/
def Keeps (s : Prompt) (event : Event) : Prop :=
  Returns (step s event) fun result =>
    result.2.promptPos < PROMPT_SIZE ∧ result.2.prompt result.2.promptPos = 0 ∧
      contents result.2 = edited event (contents s)

/-- There is room for the characters that a call adds, and for the end behind them. -/
def HasRoom (s : Prompt) (event : Event) : Prop :=
  if event.isEnter then event.mode = INPUT_MODE_MULTIPLE_LINES → s.promptPos + 2 < PROMPT_SIZE
  else ¬ event.isBackspace → s.promptPos + 1 < PROMPT_SIZE

instance (s : Prompt) (event : Event) : Decidable (HasRoom s event) :=
  inferInstanceAs (Decidable (if event.isEnter then _ → _ else _ → _))

structure Terminated (s : Prompt) : Prop where
  inside : s.promptPos < PROMPT_SIZE
  free : ∀ i, s.promptPos ≤ i → s.prompt i = 0

theorem terminated_start : Terminated start where
  inside := by decide
  free := by simp [start]

variable {prompt : Nat → UInt8} {i : Nat} {next s : Prompt}

theorem store_inside (h : i < PROMPT_SIZE) (c : UInt8) :
    store prompt i c = .ok (Function.update prompt i c) :=
  if_pos h

theorem store_outside (h : PROMPT_SIZE ≤ i) (c : UInt8) : store prompt i c = .error .outside :=
  if_neg (by omega)

theorem terminated_cleared (prompt promptOut promptErr : Nat → UInt8)
    (h : ∀ i, PROMPT_SIZE ≤ i → prompt i = 0) :
    Terminated ⟨cleared prompt, promptOut, promptErr, 0⟩ where
  inside := Nat.zero_lt_succ 1023
  free := by
    intro i _
    simp only [cleared]
    split
    · rfl
    · rename_i hi
      exact h i (Nat.le_of_not_lt hi)

section Calls

variable {s : Prompt} (hs : Terminated s) (event : Event)

include hs

theorem kinput_eq : kinput event.mode s event.ch = if event.isEnter then
        if event.mode = INPUT_MODE_LINE then
          .ok (lineFeed.toUInt64, ⟨cleared s.prompt, cleared s.promptOut, cleared s.promptErr, 0⟩)
        else if event.mode = INPUT_MODE_MULTIPLE_LINES then
          if s.promptPos + 1 < PROMPT_SIZE then
            .ok (0, { s with
              prompt := Function.update (Function.update s.prompt s.promptPos carriageReturn)
                (s.promptPos + 1) lineFeed
              promptPos := s.promptPos + 2 })
          else .error .outside
        else .ok (0, s)
      else if event.isBackspace then
        .ok (0, { s with
          prompt := Function.update s.prompt (s.promptPos - 1) 0
          promptPos := s.promptPos - 1 })
      else
        .ok (0, { s with
          prompt := Function.update s.prompt s.promptPos event.ch.toUInt8
          promptPos := s.promptPos + 1 }) := by
  have hpos := hs.inside
  have hfull (m : Int) : ¬ (event.mode = m ∧ PROMPT_SIZE ≤ s.promptPos) := by omega
  have hsame : Function.update s.prompt s.promptPos 0 = s.prompt := by
    rw [Function.update_eq_self_iff, hs.free _ le_rfl]
  unfold kinput
  rw [if_neg (hfull _), if_neg (hfull _)]
  simp only [store_inside hpos, ok_bind]
  split_ifs with henter hline hmultiple hroom hback hempty
  · rw [hsame]
  · rw [store_inside hroom, ok_bind]
  · rw [store_outside (by omega)]
    rfl
  · rfl
  · rw [hempty, store_inside (by decide), ok_bind]
  · rw [store_inside (by omega), ok_bind]
  · rfl

theorem terminated_typed {pos : Nat} (hpos : pos < PROMPT_SIZE)
    (hsame : ∀ i, pos ≤ i → prompt i = s.prompt i) (hle : s.promptPos ≤ pos) :
    Terminated { s with prompt := prompt, promptPos := pos } where
  inside := hpos
  free i hi := (hsame i hi).trans (hs.free i (hle.trans hi))

theorem terminated_erased : Terminated { s with
      prompt := Function.update s.prompt (s.promptPos - 1) 0
      promptPos := s.promptPos - 1 } where
  inside := Nat.lt_of_le_of_lt (Nat.sub_le _ 1) hs.inside
  free := by
    intro i hi
    dsimp only at hi ⊢
    by_cases heq : i = s.promptPos - 1
    · simp [heq]
    · rw [Function.update_of_ne heq]
      exact hs.free i (by omega)

omit hs in
theorem contents_typed (c : UInt8) : contents { s with
      prompt := Function.update s.prompt s.promptPos c
      promptPos := s.promptPos + 1 } = contents s ++ [c] := by
  simp only [contents]
  rw [List.range_succ, List.map_append, List.map_singleton, Function.update_self]
  congr 1
  apply List.map_congr_left
  intro i hi
  exact Function.update_of_ne (List.mem_range.mp hi).ne c s.prompt

omit hs in
theorem contents_erased : contents { s with
      prompt := Function.update s.prompt (s.promptPos - 1) 0
      promptPos := s.promptPos - 1 } = (contents s).dropLast := by
  obtain ⟨prompt, promptOut, promptErr, pos⟩ := s
  cases pos with
  | zero => rfl
  | succ pos =>
      simp only [contents, Nat.add_sub_cancel]
      rw [List.range_succ, List.map_append, List.map_singleton, List.dropLast_concat]
      apply List.map_congr_left
      intro i hi
      exact Function.update_of_ne (List.mem_range.mp hi).ne 0 prompt

theorem step_meets (h : HasRoom s event) : Returns (step s event) fun result =>
      Terminated result.2 ∧ contents result.2 = edited event (contents s) := by
  have hpos := hs.inside
  unfold step edited
  rw [kinput_eq hs]
  by_cases henter : event.isEnter
  · have hroom := (if_pos henter).mp h
    rw [if_pos henter, if_pos henter]
    split_ifs with hline hmultiple hinside
    · rw [returns_ok]
      exact ⟨terminated_cleared _ _ _ fun i hi => hs.free i (hpos.le.trans hi), rfl⟩
    · rw [returns_ok]
      refine ⟨terminated_typed hs (hroom hmultiple) ?_ (Nat.le_add_right _ 2), ?_⟩
      · intro i hi
        rw [Function.update_of_ne (by omega), Function.update_of_ne (by omega)]
      · apply (contents_typed (s := { s with
          prompt := Function.update s.prompt s.promptPos carriageReturn
          promptPos := s.promptPos + 1 }) lineFeed).trans
        rw [contents_typed, List.append_assoc]
        rfl
    · have := hroom hmultiple
      omega
    · rw [returns_ok]
      exact ⟨hs, rfl⟩
  · rw [if_neg henter, if_neg henter]
    split_ifs with hback
    · rw [returns_ok]
      exact ⟨terminated_erased hs, contents_erased⟩
    · have hroom := (if_neg henter).mp h hback
      rw [returns_ok]
      refine ⟨terminated_typed hs hroom ?_ (Nat.le_succ _), contents_typed _⟩
      intro i hi
      exact Function.update_of_ne (by omega) _ _

theorem hasRoom_of_keeps (h : Keeps s event) : HasRoom s event := by
  unfold Keeps step at h
  rw [kinput_eq hs] at h
  unfold HasRoom
  by_cases henter : event.isEnter
  · rw [if_pos henter]
    intro hmultiple
    have hline : event.mode ≠ INPUT_MODE_LINE := by
      rw [hmultiple]
      decide
    rw [if_pos henter, if_neg hline, if_pos hmultiple] at h
    split_ifs at h
    · exact ((returns_ok _).mp h).1
    · simp at h
  · rw [if_neg henter]
    intro hback
    rw [if_neg henter, if_neg hback] at h
    exact ((returns_ok _).mp h).1

theorem keeps_iff : Keeps s event ↔ HasRoom s event := by
  refine ⟨hasRoom_of_keeps hs event, fun h => (step_meets hs event h).mono ?_⟩
  rintro result ⟨hresult, htext⟩
  exact ⟨hresult.inside, hresult.free _ le_rfl, htext⟩

theorem terminated_step {result : UInt64} (h : HasRoom s event)
    (hstep : step s event = .ok (result, next)) :
    Terminated next ∧ contents next = edited event (contents s) := by
  have hmeets := step_meets hs event h
  rwa [hstep, returns_ok] at hmeets

end Calls

/-- While there is room, every run of calls leaves the text that the characters edit. -/
theorem run_contents {events : List Event} (hs : Terminated s)
    (h : Guarded step HasRoom s events) :
    ∃ results next, run step s events = .ok (results, next) ∧ Terminated next ∧
      contents next = events.foldl (fun text event => edited event text) (contents s) := by
  induction events generalizing s with
  | nil => exact ⟨[], s, rfl, hs, rfl⟩
  | cons event events ih =>
      obtain ⟨⟨result, middle⟩, hstep, hmiddle, htext⟩ := step_meets hs event h.1
      obtain ⟨results, next, hrun, hnext, hcontents⟩ := ih hmiddle (h.tail hstep)
      refine ⟨result :: results, next, ?_, hnext, ?_⟩
      · rw [run, hstep]
        dsimp only
        rw [hrun]
      · rw [hcontents, htext, List.foldl_cons]

theorem run_contents_corrected :
    ∃ results next, run step start [⟨INPUT_MODE_LINE, 97⟩, ⟨INPUT_MODE_LINE, 0x0E⟩,
        ⟨INPUT_MODE_LINE, 98⟩] = .ok (results, next) ∧ Terminated next ∧ contents next = [98] :=
  run_contents terminated_start (by decide)

theorem guarded_keeps_iff (hs : Terminated s) (events : List Event) :
    Guarded step Keeps s events ↔ Guarded step HasRoom s events := by
  apply guarded_iff Terminated (fun s event hs => keeps_iff hs event) _ hs
  intro s event result next hs hkeeps hstep
  exact (terminated_step hs event ((keeps_iff hs event).mp hkeeps) hstep).1

theorem prompt_input_iff (events : List Event) :
    Guarded step Keeps start events ↔ Guarded step HasRoom start events :=
  guarded_keeps_iff terminated_start events

theorem room_of_characters {event : Event} (hs : Terminated s) (henter : ¬ event.isEnter)
    (hback : ¬ event.isBackspace) {n : Nat} (h : Guarded step HasRoom s (List.replicate n event)) :
    s.promptPos + n < PROMPT_SIZE := by
  induction n generalizing s with
  | zero => exact hs.inside
  | succ n ih =>
      obtain ⟨⟨result, next⟩, hstep, _⟩ := step_meets hs event h.1
      have hnext := (terminated_step hs event h.1 hstep).1
      have hpos : next.promptPos = s.promptPos + 1 := by
        unfold step at hstep
        rw [kinput_eq hs, if_neg henter, if_neg hback] at hstep
        obtain ⟨rfl, rfl⟩ := Prod.mk.inj (Except.ok.inj hstep)
        rfl
      have hrest := ih hnext (h.tail hstep)
      omega

/-- A line of as many characters as the buffer has cells: the last one leaves the position
outside, with no end behind the text. -/
theorem full_line_not_terminated :
    ¬ Guarded step Keeps start (List.replicate 1024 ⟨INPUT_MODE_LINE, 97⟩) := by
  intro h
  have hroom := (guarded_keeps_iff terminated_start _).mp h
  have hlt := room_of_characters terminated_start (by decide) (by decide) hroom
  exact absurd hlt (by decide)

end Gramado.Io.PromptInput
