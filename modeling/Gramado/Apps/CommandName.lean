import Gramado.Library.CheckedRead

/-! The name of the program in a command line: `terminal_core_launch_from_cmdline` of the
terminal and `rtl_execute_cmdline` of the user library. -/

namespace Gramado.Apps.CommandName

open Library.CheckedRead

structure CommandLine where
  text : List UInt8
  plain : ∀ c ∈ text, 0x20 ≤ c ∧ c ≤ 0x7E ∨ c = 9

def CommandLine.memory (line : CommandLine) : List UInt8 :=
  line.text ++ [0]

def nameSize : Nat := 12

def store (cells : Nat → UInt8) (i : Nat) (c : UInt8) : Except Fault (Nat → UInt8) :=
  if i < nameSize then .ok (Function.update cells i c) else .error .outside

def fetch (cells : Nat → UInt8) (i : Nat) : Except Fault UInt8 :=
  if i < nameSize then .ok (cells i) else .error .outside

abbrev Ends (c : UInt8) : Prop :=
  c = 0 ∨ c = 32 ∨ c = 9

abbrev Printable (c : UInt8) : Prop :=
  0x20 ≤ c ∧ c ≤ 0x7F

/-- The loop that grabs the first word: `ii` cells are done, and `p` stands before the rest of
the command line. -/
def grab (cells : Nat → UInt8) (ii : Nat) : List UInt8 → Except Fault (Nat → UInt8)
  | [] => if nameSize ≤ ii then store cells ii 0 else .error .outside
  | c :: p =>
      if nameSize ≤ ii then store cells ii 0
      else if Ends c then store cells ii 0
      else if Printable c then do
        let cells ← store cells ii c
        grab cells (ii + 1) p
      else grab cells (ii + 1) p

/-- The search for the first dot: the index that it stops at, and whether a dot stands there. -/
def lookUp (cells : Nat → UInt8) : Nat → Nat → Except Fault (Nat × Bool)
  | 0, i => .ok (i, false)
  | n + 1, i => do
      let c ← fetch cells i
      if Ends c then .ok (i, false)
      else if c = 46 then .ok (i, true)
      else lookUp cells n (i + 1)

/-- Whether the cells from an index on are these. The first one that differs ends the test. -/
def matchesFrom (cells : Nat → UInt8) (i : Nat) : List UInt8 → Except Fault Bool
  | [] => .ok true
  | c :: cs => do
      let b ← fetch cells i
      if b = c then matchesFrom cells (i + 1) cs else .ok false

def isValidExt (cells : Nat → UInt8) (i : Nat) : Except Fault Bool := do
  let lower ← matchesFrom cells (i + 1) [98, 105, 110]
  let upper ← matchesFrom cells (i + 1) [66, 73, 78]
  .ok (lower || upper)

def passes (cells : Nat → UInt8) (i : Nat) (dotWasFound : Bool) : Except Fault Bool :=
  if dotWasFound then isValidExt cells i else .ok (i ≤ 8)

/-- What a call writes to `stdin`, and the name of the program that it has launched. -/
structure Outcome where
  written : Option (List UInt8)
  launched : Option (List UInt8)

def fail : Outcome := ⟨none, none⟩

def name (cells : Nat → UInt8) : Except Fault (List UInt8) := do
  let n ← strlen ((List.range nameSize).map cells)
  .ok ((List.range n).map cells)

def launch (written : List UInt8) (filename : List UInt8) : Outcome :=
  ⟨some written, if filename = [] then none else some filename⟩

def terminal_core_launch_from_cmdline (fd : Int) (cmdline : CommandLine) :
    Except Fault Outcome :=
  if fd < 0 then .ok fail
  else if cmdline.memory.head? = some 0 then .ok fail
  else do
    let cells ← grab (fun _ => 0) 0 cmdline.memory
    let (i, dotWasFound) ← lookUp cells 13 0
    let valid ← passes cells i dotWasFound
    if valid then do
      let filename ← name cells
      .ok (launch (cmdline.text.take 511) filename)
    else .ok fail

/-- `filename_buffer` holds anything when the loop begins. -/
def rtl_execute_cmdline (filename_buffer : Nat → UInt8) (cmdline : CommandLine) :
    Except Fault Outcome :=
  if cmdline.memory.head? = some 0 then .ok fail
  else do
    let cmd ← readBytes cmdline.memory 0 512
    let cells ← grab filename_buffer 0 cmdline.memory
    let filename ← name cells
    .ok (launch (cmd.take 511 ++ [0]) filename)

def word (text : List UInt8) : List UInt8 :=
  text.takeWhile fun c => ¬ Ends c

/-- The first word of a command line stands behind the blanks and tabs in front. -/
def firstWord (text : List UInt8) : List UInt8 :=
  word (text.dropWhile fun c => Ends c)

def extensions : List (List UInt8) :=
  [[46, 98, 105, 110], [46, 66, 73, 78]]

/-- From one to eight characters without a dot, and nothing or an extension behind. -/
def IsProgram (w : List UInt8) : Prop :=
  ∃ stem ext, w = stem ++ ext ∧ 46 ∉ stem ∧ 1 ≤ stem.length ∧ stem.length ≤ 8 ∧
    (ext = [] ∨ ext ∈ extensions)

/-- The terminal launches the first word if that names a program, and nothing if not. -/
def Launches (fd : Int) (text : List UInt8) (out : Outcome) : Prop :=
  ∀ w, out.launched = some w ↔ 0 ≤ fd ∧ IsProgram (firstWord text) ∧ w = firstWord text

def Meets (fd : Int) (filename_buffer : Nat → UInt8) (cmdline : CommandLine) : Prop :=
  Returns (terminal_core_launch_from_cmdline fd cmdline) (Launches fd cmdline.text) ∧
    Returns (rtl_execute_cmdline filename_buffer cmdline) fun _ => True

def Exact (w : List UInt8) : Prop :=
  ∀ stem ext more, w = stem ++ ext ++ more → 46 ∉ stem → ext ∈ extensions →
    stem ≠ [] ∧ more = []

/-- The word leaves a cell for its end, and where blanks stand in front there is no program
behind them. -/
structure TerminalReady (text : List UInt8) : Prop where
  short : (word text).length < nameSize
  front : word text = [] → ¬ IsProgram (firstWord text)
  exact : Exact (word text)

/-- An empty command line, or one that is long enough for the copy, with a word that leaves a
cell for its end. -/
def RtlReady (text : List UInt8) : Prop :=
  text = [] ∨ 511 ≤ text.length ∧ (word text).length < nameSize

@[simp] theorem returns_store (cells : Nat → UInt8) (i : Nat) (c : UInt8)
    (P : (Nat → UInt8) → Prop) :
    Returns (store cells i c) P ↔ i < nameSize ∧ P (Function.update cells i c) := by
  unfold store
  split <;> simp [*]

variable {c b : UInt8} {w stem front rest ext text : List UInt8} {fd : Int}

theorem plain_of_mem_word {cmdline : CommandLine} (h : c ∈ word cmdline.text) :
    ¬ Ends c ∧ Printable c := by
  have hc : ¬ Ends c := by simpa using List.mem_takeWhile_imp h
  refine ⟨hc, ?_⟩
  rcases cmdline.plain c (List.takeWhile_subset _ h) with ⟨hlow, hhigh⟩ | rfl
  · have hlast : (0x7E : UInt8) ≤ 0x7F := by decide
    exact ⟨hlow, UInt8.le_trans hhigh hlast⟩
  · exact absurd hc (by decide)

theorem word_cons_of_ends (hb : Ends b) (text : List UInt8) : word (b :: text) = [] := by
  simp only [word, List.takeWhile_cons, hb, not_true, decide_false, Bool.false_eq_true, if_false]

theorem word_cons (hb : ¬ Ends b) (text : List UInt8) : word (b :: text) = b :: word text := by
  simp only [word, List.takeWhile_cons, hb, not_false_eq_true, decide_true, if_true]

theorem word_split (text : List UInt8) :
    ∃ c rest, text ++ [0] = word text ++ c :: rest ∧ Ends c := by
  induction text with
  | nil => exact ⟨0, [], rfl, .inl rfl⟩
  | cons b text ih =>
      by_cases hb : Ends b
      · refine ⟨b, text ++ [0], ?_, hb⟩
        rw [word_cons_of_ends hb]
        rfl
      · obtain ⟨c, rest, hrest, hc⟩ := ih
        refine ⟨c, rest, ?_, hc⟩
        rw [word_cons hb, List.cons_append, hrest, List.cons_append]

def grabbed (cells : Nat → UInt8) (ii : Nat) : List UInt8 → Nat → UInt8
  | [] => Function.update cells ii 0
  | c :: w => grabbed (Function.update cells ii c) (ii + 1) w

theorem returns_grab (hw : ∀ c ∈ w, ¬ Ends c ∧ Printable c) (hc : Ends c) (rest : List UInt8)
    (cells : Nat → UInt8) (ii : Nat) (P : (Nat → UInt8) → Prop) :
    Returns (grab cells ii (w ++ c :: rest)) P ↔
      ii + w.length < nameSize ∧ P (grabbed cells ii w) := by
  induction w generalizing cells ii with
  | nil =>
      rw [List.nil_append, grab]
      split_ifs <;> simp [grabbed]
  | cons b w ih =>
      have hb := hw b List.mem_cons_self
      rw [List.cons_append, grab, if_neg hb.1, if_pos hb.2, grabbed]
      split_ifs with hfull
      · simp only [returns_store, List.length_cons]
        constructor
        · rintro ⟨hlt, _⟩
          omega
        · rintro ⟨hlt, _⟩
          omega
      · rw [returns_bind, returns_store, ih fun c hc => hw c (List.mem_cons_of_mem b hc),
          List.length_cons]
        constructor
        · rintro ⟨_, hlt, hP⟩
          exact ⟨by omega, hP⟩
        · rintro ⟨hlt, hP⟩
          exact ⟨by omega, by omega, hP⟩

theorem grabbed_end (cells : Nat → UInt8) (ii : Nat) (w : List UInt8) :
    grabbed cells ii w (ii + w.length) = 0 := by
  induction w generalizing cells ii with
  | nil => simp [grabbed]
  | cons c w ih =>
      rw [grabbed, List.length_cons, Nat.add_comm w.length, ← Nat.add_assoc]
      exact ih _ _

def held (w : List UInt8) (i : Nat) : UInt8 :=
  w.getD i 0

theorem held_append (front : List UInt8) (c : UInt8) (rest : List UInt8) :
    held (front ++ c :: rest) front.length = c := by
  simp [held]

theorem held_length (w : List UInt8) : held w w.length = 0 := by
  simp [held]

theorem grabbed_held (front w : List UInt8) :
    grabbed (held front) front.length w = held (front ++ w) := by
  induction w generalizing front with
  | nil =>
      rw [grabbed, List.append_nil, Function.update_eq_self_iff, held_length]
  | cons c w ih =>
      have hnext : Function.update (held front) front.length c = held (front ++ [c]) := by
        funext i
        rcases lt_trichotomy i front.length with hlt | rfl | hgt
        · rw [Function.update_of_ne hlt.ne]
          simp [held, List.getElem?_append_left hlt]
        · rw [Function.update_self, held_append]
        · rw [Function.update_of_ne hgt.ne']
          have hbehind : (front ++ [c]).length ≤ i := by
            rw [List.length_append]
            exact hgt
          rw [held, held, List.getD_eq_getElem?_getD, List.getD_eq_getElem?_getD,
            List.getElem?_eq_none hgt.le, List.getElem?_eq_none hbehind]
      have hrest := ih (front ++ [c])
      rw [List.length_append, List.length_singleton, List.append_assoc] at hrest
      rw [grabbed, hnext]
      exact hrest

theorem grabbed_zeros (w : List UInt8) : grabbed (fun _ => 0) 0 w = held w := grabbed_held [] w

theorem lookUp_stem (hstem : ∀ c ∈ stem, ¬ Ends c ∧ c ≠ 46) (hw : w = front ++ stem ++ rest)
    (hlen : w.length < nameSize) (n : Nat) :
    lookUp (held w) (stem.length + n) front.length =
      lookUp (held w) n (front.length + stem.length) := by
  induction stem generalizing front with
  | nil => simp
  | cons c stem ih =>
      have hc := hstem c List.mem_cons_self
      have hcell : held w front.length = c := by
        rw [hw, List.append_assoc, List.cons_append, held_append]
      have hfront : front.length < nameSize := by
        simp only [hw, List.length_append, List.length_cons] at hlen
        omega
      have hrest : lookUp (held w) (stem.length + n) (front ++ [c]).length =
          lookUp (held w) n ((front ++ [c]).length + stem.length) :=
        ih (fun c hc => hstem c (List.mem_cons_of_mem _ hc)) (by simp [hw])
      rw [List.length_cons, Nat.add_right_comm, lookUp, fetch, if_pos hfront, ok_bind, hcell,
        if_neg hc.1, if_neg hc.2]
      rw [List.length_append, List.length_singleton] at hrest
      rw [hrest]
      congr 1
      omega

theorem matchesFrom_eq (hw : w = front ++ rest) (hlen : w.length < nameSize) (hext : 0 ∉ ext) :
    matchesFrom (held w) front.length ext = .ok (decide (ext <+: rest)) := by
  induction ext generalizing front rest with
  | nil => simp [matchesFrom]
  | cons c ext ih =>
      rw [List.mem_cons, not_or] at hext
      have hfront : front.length < nameSize := by
        rw [hw, List.length_append] at hlen
        omega
      rw [matchesFrom, fetch, if_pos hfront, ok_bind]
      cases rest with
      | nil =>
          rw [hw, List.append_nil, held_length, if_neg hext.1]
          simp
      | cons b rest =>
          rw [show held w front.length = b by rw [hw, held_append]]
          split_ifs with hb
          · have hrest : matchesFrom (held w) (front ++ [b]).length ext =
                .ok (decide (ext <+: rest)) := ih (by simp [hw]) hext.2
            rw [List.length_append, List.length_singleton] at hrest
            rw [hrest, hb]
            simp
          · have hne : ¬ c = b := fun h => hb h.symm
            simp [List.cons_prefix_cons, hne]

def Accepted (w : List UInt8) : Prop :=
  ∃ stem tail, w = stem ++ tail ∧ 46 ∉ stem ∧
    (tail = [] ∧ stem.length ≤ 8 ∨ ∃ ext ∈ extensions, ext <+: tail)

theorem name_held (hw : ∀ c ∈ w, ¬ Ends c) (hlen : w.length < nameSize) :
    name (held w) = .ok w := by
  obtain ⟨k, hk⟩ := Nat.exists_eq_add_of_lt hlen
  have hfront : (List.range w.length).map (held w) = w := by
    apply List.ext_getElem
    · simp
    · intro i hi hi'
      simp [held, hi']
  have hcells : (List.range nameSize).map (held w) =
      w ++ 0 :: (List.range k).map fun i => held w (w.length + (i + 1)) := by
    rw [hk, Nat.add_assoc, List.range_add, List.map_append, hfront, List.range_succ_eq_map]
    simp [held_length]
  have hzero : 0 ∉ w := fun h => hw 0 h (.inl rfl)
  rw [name, hcells, strlen_append hzero, ok_bind, hfront]

theorem isValidExt_eq (hw : w = stem ++ 46 :: rest) (hlen : w.length < nameSize) :
    isValidExt (held w) stem.length =
      .ok (decide ([98, 105, 110] <+: rest) || decide ([66, 73, 78] <+: rest)) := by
  have hdot : w = stem ++ [46] ++ rest := by simp [hw]
  have hlower : matchesFrom (held w) (stem ++ [46]).length [98, 105, 110] = _ :=
    matchesFrom_eq hdot hlen (by decide)
  have hupper : matchesFrom (held w) (stem ++ [46]).length [66, 73, 78] = _ :=
    matchesFrom_eq hdot hlen (by decide)
  rw [List.length_append, List.length_singleton] at hlower hupper
  rw [isValidExt, hlower, ok_bind, hupper, ok_bind]

section Search

variable {w : List UInt8} (hw : ∀ c ∈ w, ¬ Ends c) (hlen : w.length < nameSize)

include hw hlen

theorem lookUp_passes (heq : w = stem ++ rest) (hdot : 46 ∉ stem) :
    lookUp (held w) 13 0 = lookUp (held w) (nameSize - stem.length + 1) stem.length := by
  have hshort : stem.length ≤ w.length := by
    rw [heq, List.length_append]
    exact Nat.le_add_right _ _
  have hn : 13 = stem.length + (nameSize - stem.length + 1) := by
    rw [nameSize] at hlen ⊢
    omega
  have hstem : ∀ c ∈ stem, ¬ Ends c ∧ c ≠ 46 := by
    intro c hc
    refine ⟨hw c (by simp [heq, hc]), ?_⟩
    rintro rfl
    exact hdot hc
  have hpass : lookUp (held w) (stem.length + (nameSize - stem.length + 1))
      ([] : List UInt8).length =
        lookUp (held w) (nameSize - stem.length + 1) (([] : List UInt8).length + stem.length) :=
    lookUp_stem hstem heq hlen _
  rw [List.length_nil, Nat.zero_add, ← hn] at hpass
  exact hpass

theorem lookUp_end (hdot : 46 ∉ w) : lookUp (held w) 13 0 = .ok (w.length, false) := by
  have heq : w = w ++ [] := by simp
  rw [lookUp_passes hw hlen heq hdot, lookUp, fetch, if_pos hlen, ok_bind, held_length,
    if_pos (.inl rfl)]

theorem lookUp_dot (heq : w = stem ++ 46 :: rest) (hdot : 46 ∉ stem) :
    lookUp (held w) 13 0 = .ok (stem.length, true) := by
  have hshort : stem.length < nameSize := by
    simp only [heq, List.length_append, List.length_cons] at hlen
    omega
  have hcell : held w stem.length = 46 := by rw [heq, held_append]
  rw [lookUp_passes hw hlen heq hdot, lookUp, fetch, if_pos hshort, ok_bind, hcell,
    if_neg (by decide), if_pos rfl]

end Search

theorem stem_unique {stem' rest' : List UInt8} (h : 46 ∉ stem) (h' : 46 ∉ stem')
    (heq : stem ++ 46 :: rest = stem' ++ 46 :: rest') : stem = stem' ∧ rest = rest' := by
  have hstem {l : List UInt8} (hl : 46 ∉ l) (r : List UInt8) :
      (l ++ 46 :: r).takeWhile (fun c => c != 46) = l := by
    rw [List.takeWhile_append_of_pos, List.takeWhile_cons_of_neg (by simp), List.append_nil]
    intro c hc
    have hne : c ≠ 46 := by
      rintro rfl
      exact hl hc
    simpa using hne
  have hsame : stem = stem' := by rw [← hstem h rest, heq, hstem h' rest']
  subst hsame
  exact ⟨rfl, (List.cons.inj (List.append_cancel_left heq)).2⟩

theorem accepted_dot_iff (hdot : 46 ∉ stem) :
    Accepted (stem ++ 46 :: rest) ↔ [98, 105, 110] <+: rest ∨ [66, 73, 78] <+: rest := by
  constructor
  · rintro ⟨stem', tail, heq, hstem', ⟨rfl, _⟩ | ⟨ext, hext, more, rfl⟩⟩
    · rw [List.append_nil] at heq
      exact absurd (heq ▸ by simp) hstem'
    · simp only [extensions, List.mem_cons, List.not_mem_nil, or_false] at hext
      rcases hext with rfl | rfl
      · obtain ⟨_, rfl⟩ := stem_unique hdot hstem' heq
        exact .inl ( List.prefix_append _ _)
      · obtain ⟨_, rfl⟩ := stem_unique hdot hstem' heq
        exact .inr ( List.prefix_append _ _)
  · rintro (h | h)
    · exact ⟨stem, 46 :: rest, rfl, hdot, .inr ⟨_, List.mem_cons_self, by simpa using h⟩⟩
    · exact ⟨stem, 46 :: rest, rfl, hdot, .inr ⟨[46, 66, 73, 78], by simp [extensions],
        by simpa using h⟩⟩

theorem accepted_plain_iff (hdot : 46 ∉ w) : Accepted w ↔ w.length ≤ 8 := by
  constructor
  · rintro ⟨stem, tail, rfl, _, ⟨rfl, hlen⟩ | ⟨ext, hext, more, rfl⟩⟩
    · simpa using hlen
    · simp only [extensions, List.mem_cons, List.not_mem_nil, or_false] at hext
      rcases hext with rfl | rfl <;> simp at hdot
  · intro hlen
    exact ⟨w, [], by simp, hdot, .inl ⟨rfl, hlen⟩⟩

section Functions

variable (cmdline : CommandLine)

theorem head_ne_zero (hne : cmdline.text ≠ []) : cmdline.memory.head? ≠ some 0 := by
  obtain ⟨c, rest, htext⟩ := List.exists_cons_of_ne_nil hne
  have hc := cmdline.plain c (by simp [htext])
  have hzero : c ≠ 0 := by
    rintro rfl
    exact absurd hc (by decide)
  simpa [CommandLine.memory, htext] using hzero

theorem returns_grab_word (cells : Nat → UInt8) (P : (Nat → UInt8) → Prop) :
    Returns (grab cells 0 cmdline.memory) P ↔
      (word cmdline.text).length < nameSize ∧ P (grabbed cells 0 (word cmdline.text)) := by
  obtain ⟨c, rest, hsplit, hc⟩ := word_split cmdline.text
  rw [CommandLine.memory, hsplit, returns_grab (fun c hc => plain_of_mem_word hc) hc, Nat.zero_add]

theorem returns_terminal (hfd : 0 ≤ fd) (hne : cmdline.text ≠ []) (P : Outcome → Prop) :
    Returns (terminal_core_launch_from_cmdline fd cmdline) P ↔
      (word cmdline.text).length < nameSize ∧ (Accepted (word cmdline.text) →
          P (launch (cmdline.text.take 511) (word cmdline.text))) ∧
        (¬ Accepted (word cmdline.text) → P fail) := by
  rw [terminal_core_launch_from_cmdline, if_neg (Int.not_lt.mpr hfd), if_neg (head_ne_zero cmdline hne),
    returns_bind, returns_grab_word, grabbed_zeros]
  apply and_congr_right
  intro hlen
  have hends : ∀ c ∈ word cmdline.text, ¬ Ends c := fun c hc => (plain_of_mem_word hc).1
  generalize word cmdline.text = w at hlen hends ⊢
  by_cases hdot : 46 ∈ w
  · obtain ⟨stem, rest, rfl, hstem⟩ := List.eq_append_cons_of_mem hdot
    rw [lookUp_dot hends hlen rfl hstem, ok_bind, accepted_dot_iff hstem]
    dsimp only
    rw [passes, if_pos rfl, isValidExt_eq rfl hlen, ok_bind, name_held hends hlen]
    simp
  · rw [lookUp_end hends hlen hdot, ok_bind, accepted_plain_iff hdot]
    dsimp only
    rw [passes, if_neg Bool.false_ne_true, ok_bind, name_held hends hlen]
    simp

theorem returns_rtl (filename_buffer : Nat → UInt8) :
    Returns (rtl_execute_cmdline filename_buffer cmdline) (fun _ => True) ↔
      RtlReady cmdline.text := by
  rw [rtl_execute_cmdline, RtlReady]
  by_cases hne : cmdline.text = []
  · simp [CommandLine.memory, hne]
  rw [if_neg (head_ne_zero cmdline hne), returns_bind, returns_readBytes, returns_bind,
    returns_grab_word]
  have hlength : 0 + 512 ≤ cmdline.memory.length ↔ 511 ≤ cmdline.text.length := by
    rw [CommandLine.memory, List.length_append, List.length_singleton]
    omega
  rw [hlength, or_iff_right hne]
  apply and_congr_right
  intro _
  apply and_iff_left_of_imp
  intro hlen
  have hend : 0 ∈ (List.range nameSize).map (grabbed filename_buffer 0 (word cmdline.text)) := by
    refine List.mem_map.mpr ⟨(word cmdline.text).length, List.mem_range.mpr hlen, ?_⟩
    simpa using grabbed_end filename_buffer 0 (word cmdline.text)
  simp [name, hend]

end Functions

theorem firstWord_eq (h : word text ≠ []) : firstWord text = word text := by
  cases text with
  | nil => exact absurd rfl h
  | cons c text =>
      have hc : ¬ Ends c := fun hc => h (word_cons_of_ends hc text)
      rw [firstWord, List.dropWhile_cons_of_neg (by simpa only [decide_eq_true_eq] using hc)]

theorem extension_dot (h : ext ∈ extensions) :
    ∃ letters, ext = 46 :: letters ∧ letters.length = 3 := by
  simp only [extensions, List.mem_cons, List.not_mem_nil, or_false] at h
  rcases h with rfl | rfl
  · exact ⟨_, rfl, rfl⟩
  · exact ⟨_, rfl, rfl⟩

theorem accepted_of_isProgram (h : IsProgram w) : Accepted w ∧ w ≠ [] := by
  obtain ⟨stem, ext, rfl, hdot, hone, height, hext⟩ := h
  refine ⟨⟨stem, ext, rfl, hdot, ?_⟩, ?_⟩
  · rcases hext with rfl | hext
    · exact .inl ⟨rfl, height⟩
    · exact .inr ⟨ext, hext, List.prefix_rfl⟩
  · intro hnil
    rw [(List.append_eq_nil_iff.mp hnil).1] at hone
    simp at hone

theorem isProgram_of_accepted (hexact : Exact w) (hlen : w.length < nameSize) (h : Accepted w)
    (hne : w ≠ []) : IsProgram w := by
  obtain ⟨stem, tail, rfl, hdot, ⟨rfl, height⟩ | ⟨ext, hext, more, rfl⟩⟩ := h
  · rw [List.append_nil] at hne
    exact ⟨stem, [], rfl, hdot, List.length_pos_of_ne_nil hne, height, .inl rfl⟩
  · obtain ⟨hstem, rfl⟩ := hexact stem ext more (by simp) hdot hext
    obtain ⟨letters, rfl, hletters⟩ := extension_dot hext
    simp only [List.length_append, List.length_cons, List.length_nil, nameSize] at hlen
    refine ⟨stem, 46 :: letters, by simp, hdot, List.length_pos_of_ne_nil hstem, ?_, .inr hext⟩
    omega

theorem exact_of_isProgram (h : Accepted w → w ≠ [] → IsProgram w) : Exact w := by
  rintro stem ext more rfl hdot hext
  obtain ⟨letters, rfl, hletters⟩ := extension_dot hext
  obtain ⟨stem', ext', heq, hdot', hone, _, hext'⟩ :=
    h ⟨stem, 46 :: letters ++ more, by simp, hdot, .inr ⟨_, hext, List.prefix_append _ _⟩⟩
      (by simp)
  rcases hext' with rfl | hext'
  · rw [List.append_nil] at heq
    exact absurd (by simp [← heq]) hdot'
  · obtain ⟨letters', rfl, hletters'⟩ := extension_dot hext'
    rw [List.append_assoc, List.cons_append] at heq
    obtain ⟨rfl, hmore⟩ := stem_unique hdot hdot' heq
    have hlength := congrArg List.length hmore
    rw [List.length_append] at hlength
    exact ⟨List.ne_nil_of_length_pos hone, List.length_eq_zero_iff.mp (by omega)⟩

theorem launched_launch (written w v : List UInt8) :
    (launch written w).launched = some v ↔ w ≠ [] ∧ v = w := by
  rw [launch]
  split_ifs with hw
  · simp [hw]
  · simp [hw, eq_comm]

theorem not_isProgram_nil : ¬ IsProgram [] := fun h => (accepted_of_isProgram h).2 rfl

theorem exact_nil : Exact [] := exact_of_isProgram fun _ h => absurd rfl h

theorem launches_fail_iff (hfd : 0 ≤ fd) (text : List UInt8) :
    Launches fd text fail ↔ ¬ IsProgram (firstWord text) := by
  simp [Launches, fail, hfd]

theorem launches_launch_iff (hfd : 0 ≤ fd) (h : word text ≠ []) (written : List UInt8) :
    Launches fd text (launch written (word text)) ↔ IsProgram (word text) := by
  simp only [Launches, launched_launch, firstWord_eq h]
  constructor
  · intro hall
    exact ((hall _).mp ⟨h, rfl⟩).2.1
  · intro hprogram v
    simp [h, hfd, hprogram]

theorem terminal_iff (fd : Int) (cmdline : CommandLine) :
    Returns (terminal_core_launch_from_cmdline fd cmdline) (Launches fd cmdline.text) ↔
      fd < 0 ∨ TerminalReady cmdline.text := by
  rcases Int.lt_or_le fd 0 with hfd | hfd
  · have hno : ¬ 0 ≤ fd := Int.not_le.mpr hfd
    simp [terminal_core_launch_from_cmdline, hfd, Launches, fail, hno]
  rw [or_iff_right (Int.not_lt.mpr hfd)]
  by_cases hne : cmdline.text = []
  · have hready : TerminalReady cmdline.text := by
      rw [hne]
      exact ⟨by decide, fun _ => not_isProgram_nil, exact_nil⟩
    rw [iff_true_right hready, terminal_core_launch_from_cmdline, if_neg (Int.not_lt.mpr hfd),
      CommandLine.memory, hne, List.nil_append, List.head?_cons, if_pos rfl, returns_ok,
      launches_fail_iff hfd]
    exact not_isProgram_nil
  rw [returns_terminal cmdline hfd hne, launches_fail_iff hfd]
  by_cases hword : word cmdline.text = []
  · have haccepted : Accepted [] := ⟨[], [], rfl, by simp, .inl ⟨rfl, by simp⟩⟩
    have hlaunch : launch (cmdline.text.take 511) [] = ⟨some (cmdline.text.take 511), none⟩ := rfl
    rw [hword, hlaunch]
    constructor
    · rintro ⟨hlen, hout, _⟩
      refine ⟨by rwa [hword], fun _ hprogram => ?_, by rw [hword]; exact exact_nil⟩
      have hsome := (hout haccepted (firstWord cmdline.text)).mpr ⟨hfd, hprogram, rfl⟩
      cases hsome
    · intro h
      refine ⟨by decide, fun _ w => ?_, fun hno => absurd haccepted hno⟩
      simp [h.front hword]
  · rw [launches_launch_iff hfd hword, firstWord_eq hword]
    constructor
    · rintro ⟨hlen, hyes, _⟩
      exact ⟨hlen, fun h => absurd h hword, exact_of_isProgram fun h _ => hyes h⟩
    · rintro ⟨hlen, _, hexact⟩
      refine ⟨hlen, fun h => isProgram_of_accepted hexact hlen h hword, fun hno hprogram => ?_⟩
      exact hno (accepted_of_isProgram hprogram).1

theorem program_name_iff (fd : Int) (filename_buffer : Nat → UInt8) (cmdline : CommandLine) :
    Meets fd filename_buffer cmdline ↔
      (fd < 0 ∨ TerminalReady cmdline.text) ∧ RtlReady cmdline.text :=
  and_congr (terminal_iff fd cmdline) (returns_rtl cmdline filename_buffer)

def terminalBin : CommandLine where
  text := [116, 101, 114, 109, 105, 110, 97, 108, 46, 98, 105, 110]
  plain := by simp [UInt8.le_iff_toNat_le]

/-- The twelve characters of a full name leave no cell for the end. -/
theorem full_name_not_launched : ¬ Meets 4 (fun _ => 0) terminalBin := by
  rintro ⟨hterminal, _⟩
  rcases (terminal_iff 4 terminalBin).mp hterminal with hfd | hready
  · exact absurd hfd (by decide)
  · exact absurd hready.short (by decide)

end Gramado.Apps.CommandName
