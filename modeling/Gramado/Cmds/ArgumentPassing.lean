import Gramado.Library.BoundedText
import Gramado.Rtl.Strtok

/-! The way of a command line from the shell through the kernel to the arguments of `main` in a
child. -/

namespace Gramado.Cmds.ArgumentPassing

open Library Library.CheckedRead Library.Separated Rtl.Strtok

abbrev Text := List UInt8

inductive ArrayName where
  | argv
  | cmdline
  | localCmd
  | filename
  | buffer
  | tokenList
  deriving DecidableEq, Repr

structure Outside where
  array : ArrayName
  index : Int
  deriving DecidableEq, Repr

def space : UInt8 := 32

def isBlank (c : UInt8) : Bool := c = 32 || c = 9

def isTokDelim (c : UInt8) : Bool := c = 32 || c = 9 || c = 13 || c = 10 || c = 7

def aboutWord : Text := [97, 98, 111, 117, 116]
def helpWord : Text := [104, 101, 108, 112]
def runWord : Text := [114, 117, 110]
def run2Word : Text := [114, 117, 110, 50]

/-- The loop of `process_command` over the tokens, with so many places left in `argv`. -/
def collectArgs : Nat → Text → List Text
  | 0, _ => []
  | n + 1, s =>
      match strtok isBlank s with
      | none => []
      | some (token, s) => token :: collectArgs n s

def terminateArgs (argv : List Text) : Except Outside (List Text) :=
  if argv.length < 16 then .ok argv else .error ⟨.argv, argv.length⟩

/-- `strncat(cmdline, source, sizeof(cmdline)-strlen(cmdline)-1)` -/
def strncat (cmdline source : Text) : Except Outside Text :=
  BoundedText.append ⟨.cmdline, 128⟩ 128 cmdline (source.take (128 - cmdline.length - 1))

def appendArg (cmdline arg : Text) : Except Outside Text := do
  let cmdline ← strncat cmdline [space]
  strncat cmdline arg

def buildCmdline (name : Text) (args : List Text) : Except Outside Text := do
  let cmdline ← BoundedText.append ⟨.cmdline, 128⟩ 128 [] (name.take 127)
  args.foldlM appendArg cmdline

/-- The arguments of `rtl_clone_and_execute_return_tid_ex`. -/
structure Launch where
  filename : Text
  cmdline : Text
  deriving DecidableEq, Repr

def processRunCommand (cmdline : Text) : Except Outside (Option Launch) :=
  if cmdline = [] then .ok none
  else do
    let localCmd ← BoundedText.append ⟨.localCmd, 128⟩ 128 [] (cmdline.take 127)
    let filename ←
      match strtok isBlank localCmd with
      | none => .ok []
      | some (token, _) => BoundedText.append ⟨.filename, 64⟩ 64 [] (token.take 63)
    return some ⟨filename, cmdline⟩

/-- What `process_command` does with a line. -/
inductive Command where
  | empty
  | about
  | help
  | run (launch : Option Launch)
  | run2 (filename : Text)
  | unknown
  deriving DecidableEq, Repr

/-- The name without the characters at its end that `run2` removes. -/
def trimName (name : Text) : Text :=
  (name.take 63).rdropWhile fun c => c = 10 || c = 13 || c = 32

def processCommand (prompt : Text) : Except Outside Command := do
  let argv ← terminateArgs (collectArgs 16 prompt)
  match argv with
  | [] => return .empty
  | [command] =>
      if command = aboutWord then return .about
      else if command = helpWord then return .help
      else return .unknown
  | command :: name :: args =>
      if command = aboutWord then return .about
      else if command = helpWord then return .help
      else if command = runWord then do
        let cmdline ← buildCmdline name args
        return .run (← processRunCommand cmdline)
      else if command = run2Word then return .run2 (trimName name)
      else return .unknown

/-- The fields of `struct thread_d` for the command line, of which the array has 512 bytes. -/
structure Thread where
  cmdline : Buffer
  hasCmdline : Bool

/-- `strncpy` of at most 511 bytes and the null character behind them. -/
def copyCmdline (source : Text) : Buffer := pad 511 (source.take 511) ++ [0]

def injectCmdline (source : Text) : Thread := ⟨copyCmdline source, true⟩

/-- System call 44011: the buffer of 512 bytes with the command line of the thread, if there is
one. -/
def readCmdline (t : Thread) (buffer : Buffer) : Buffer :=
  if t.hasCmdline = true then copyCmdline (text t.cmdline) ++ buffer.drop 512 else buffer

/-- What `copy_process00` does to the thread of the child. -/
def cloneThread (parent child : Thread) : Thread :=
  if parent.hasCmdline = true then ⟨copyCmdline (text parent.cmdline), true⟩
  else { child with hasCmdline := false }

abbrev Threads := Nat → Thread

def clone (threads : Threads) (parent child : Nat) : Threads :=
  Function.update threads child (cloneThread (threads parent) (threads child))

/-- `rtl_clone_and_execute_return_tid_ex` of a parent that is given this child. -/
def rtlCloneAndExecute (threads : Threads) (parent child : Nat) (launch : Launch) :
    Option Threads :=
  if launch.filename = [] then none
  else
    let threads :=
      if launch.cmdline = [] then threads
      else Function.update threads parent (injectCmdline launch.cmdline)
    some (clone threads parent child)

/-- What the child reads on its standard input: so many bytes, or a negative result. -/
inductive ReadResult where
  | bytes (data : List UInt8)
  | failed (code : Nat)

def storeBuffer (buffer : Buffer) (i : Int) (c : UInt8) : Except Outside Buffer :=
  if 0 ≤ i ∧ i < 512 then .ok (buffer.set i.toNat c) else .error ⟨.buffer, i⟩

def readStdin (result : ReadResult) : Except Outside Buffer :=
  match result with
  | .bytes data => do
      let buffer ←
        if 0 < data.length then storeBuffer (pad 512 data) data.length 0
        else .ok (pad 512 data)
      storeBuffer buffer data.length 0
  | .failed code => storeBuffer (pad 512 []) (-(code + 1)) 0

/-- The loop of `crt0` over the tokens, with so many places left in `tokenList`, and the end of
the list. -/
def listTokens : Nat → Text → Except Outside (List Text)
  | 0, _ => .error ⟨.tokenList, 80⟩
  | n + 1, s =>
      match strtok isTokDelim s with
      | none => .ok []
      | some (token, s) => do
          let tokens ← listTokens n s
          return token :: tokens

/-- `crt0` up to the call of `main`, of which these are the arguments. -/
def crt0 (t : Thread) (result : ReadResult) : Except Outside (List Text) := do
  let buffer ← readStdin result
  let buffer := readCmdline t buffer
  -- `buffer[sizeof(buffer)] = '\0'`
  let buffer ← storeBuffer buffer 512 0
  listTokens 80 (text buffer)

def runLine (threads : Threads) (shell child : Nat) (prompt : Text) (result : ReadResult) :
    Except Outside (Option (List Text)) := do
  match ← processCommand prompt with
  | .run (some launch) =>
      match rtlCloneAndExecute threads shell child launch with
      | none => return none
      | some threads => return some (← crt0 (threads child) result)
  | _ => return none

structure Word (w : Text) : Prop where
  nonempty : w ≠ []
  chars : ∀ c ∈ w, 33 ≤ c ∧ c ≤ 126

def joined (name : Text) (args : List Text) : Text := name ++ args.flatMap fun arg => space :: arg

/-- A line `run name a1 ... ak` and the result of a read of the child. -/
structure Given (prompt name : Text) (args : List Text) (result : ReadResult) : Prop where
  words : fields isBlank prompt = runWord :: name :: args
  nameWord : Word name
  argWords : ∀ arg ∈ args, Word arg
  nameLength : name.length ≤ 63
  lineLength : (joined name args).length ≤ 127
  read : ∀ data, result = .bytes data → data.length ≤ 511

def firstOutside (args : List Text) (result : ReadResult) : Outside :=
  if 14 ≤ args.length then ⟨.argv, 16⟩
  else
    match result with
    | .bytes _ => ⟨.buffer, 512⟩
    | .failed code => ⟨.buffer, -(code + 1)⟩

section Words

variable {w : Text}

theorem Word.not_blank (h : Word w) : ∀ c ∈ w, isBlank c = false := by
  intro c hc
  have hlow := (h.chars c hc).1
  rw [isBlank, Bool.or_eq_false_iff, decide_eq_false_iff_not, decide_eq_false_iff_not]
  constructor
  · rintro rfl
    exact absurd hlow (by decide)
  · rintro rfl
    exact absurd hlow (by decide)

theorem Word.not_tokDelim (h : Word w) : ∀ c ∈ w, isTokDelim c = false := by
  intro c hc
  have hlow := UInt8.le_iff_toNat_le.mp (h.chars c hc).1
  have hne : ∀ d : UInt8, d.toNat < 33 → c ≠ d := by
    rintro d hd rfl
    exact absurd (Nat.lt_of_le_of_lt hlow hd) (Nat.lt_irrefl 33)
  simp [isTokDelim, hne 32 (by decide), hne 9 (by decide), hne 13 (by decide), hne 10 (by decide),
    hne 7 (by decide)]

theorem Word.zero_notMem (h : Word w) : 0 ∉ w := by
  intro hmem
  exact absurd (h.chars 0 hmem).1 (by decide)

end Words

section Joined

variable {name : Text} {args : List Text}

theorem joined_cons (name arg : Text) (args : List Text) :
    joined name (arg :: args) = name ++ space :: joined arg args := by
  simp [joined]

theorem length_le_joined (name : Text) (args : List Text) :
    name.length ≤ (joined name args).length := by
  simp [joined]

theorem zero_notMem_joined (hname : Word name) (hargs : ∀ arg ∈ args, Word arg) :
    0 ∉ joined name args := by
  induction args generalizing name with
  | nil => simpa [joined] using hname.zero_notMem
  | cons arg args ih =>
      have hrest := ih (hargs arg (by simp)) fun a ha => hargs a (by simp [ha])
      rw [joined_cons, List.mem_append, List.mem_cons, not_or, not_or]
      exact ⟨hname.zero_notMem, by decide, hrest⟩

theorem fields_joined (hname : Word name) (hargs : ∀ arg ∈ args, Word arg) :
    fields isTokDelim (joined name args) = name :: args := by
  induction args generalizing name with
  | nil =>
      rw [joined, List.flatMap_nil, List.append_nil,
        fields_singleton hname.nonempty hname.not_tokDelim]
  | cons arg args ih =>
      rw [joined_cons, fields_field_cons hname.nonempty hname.not_tokDelim rfl,
        ih (hargs arg (by simp)) fun a ha => hargs a (by simp [ha])]

theorem joined_ne_nil (hname : Word name) : joined name args ≠ [] := by
  rw [joined]
  exact List.append_ne_nil_of_left_ne_nil hname.nonempty _

end Joined

theorem collectArgs_eq (n : Nat) (s : Text) : collectArgs n s = (fields isBlank s).take n := by
  induction n generalizing s with
  | zero => rfl
  | succ n ih =>
      rw [collectArgs]
      split
      · rename_i hnone
        rw [fields_of_strtok_none hnone, List.take_nil]
      · rename_i token rest hsome
        rw [fields_of_strtok_some hsome, List.take_succ_cons, ih]

theorem listTokens_eq (n : Nat) (s : Text) : listTokens n s =
      if (fields isTokDelim s).length < n then .ok (fields isTokDelim s)
      else .error ⟨.tokenList, 80⟩ := by
  induction n generalizing s with
  | zero => rfl
  | succ n ih =>
      rw [listTokens]
      split
      · rename_i hnone
        rw [fields_of_strtok_none hnone]
        rfl
      · rename_i token rest hsome
        rw [fields_of_strtok_some hsome, ih, List.length_cons]
        split
        · rw [if_pos (by omega)]
          rfl
        · rw [if_neg (by omega)]
          rfl

variable {cmdline name line : Text} {args : List Text} {parent : Nat} {children : List Nat}

theorem append_ok {fault : Outside} {size : Nat} {buffer piece : Text}
    (h : buffer.length + piece.length < size) :
    BoundedText.append fault size buffer piece = .ok (buffer ++ piece) :=
  if_pos h

theorem appendArg_ok {arg : Text} (h : cmdline.length + 1 + arg.length ≤ 127) :
    appendArg cmdline arg = .ok (cmdline ++ space :: arg) := by
  have hblank : [space].take (128 - cmdline.length - 1) = [space] :=
    List.take_of_length_le (by simp; omega)
  have harg : arg.take (128 - (cmdline ++ [space]).length - 1) = arg :=
    List.take_of_length_le (by simp; omega)
  rw [appendArg, strncat, hblank, append_ok (by simp; omega), ok_bind, strncat, harg,
    append_ok (by simp; omega), List.append_assoc, List.singleton_append]

theorem foldlM_appendArg (h : (joined cmdline args).length ≤ 127) :
    args.foldlM appendArg cmdline = .ok (joined cmdline args) := by
  induction args generalizing cmdline with
  | nil => simp [joined, Pure.pure, Except.pure]
  | cons arg args ih =>
      have hjoined : joined cmdline (arg :: args) = joined (cmdline ++ space :: arg) args := by
        simp [joined]
      rw [hjoined] at h ⊢
      have hlength : (cmdline ++ space :: arg).length ≤ 127 :=
        Nat.le_trans (length_le_joined _ args) h
      rw [List.length_append, List.length_cons] at hlength
      rw [List.foldlM_cons, appendArg_ok (by omega), ok_bind, ih h]

theorem buildCmdline_ok (h : (joined name args).length ≤ 127) :
    buildCmdline name args = .ok (joined name args) := by
  have hname : name.length ≤ 127 := Nat.le_trans (length_le_joined name args) h
  rw [buildCmdline, List.take_of_length_le hname, append_ok (by simp; omega), ok_bind,
    List.nil_append, foldlM_appendArg h]

theorem processRunCommand_ok (hname : Word name) (hlength : name.length ≤ 63)
    (h : (joined name args).length ≤ 127) :
    processRunCommand (joined name args) = .ok (some ⟨name, joined name args⟩) := by
  have htoken : strtok isBlank (joined name args) =
      some (name, (args.flatMap fun arg => space :: arg).drop 1) := by
    refine strtok_word hname.nonempty hname.not_blank ?_
    intro c hc
    cases args with
    | nil => cases hc
    | cons arg args =>
        obtain rfl : space = c := Option.some.inj hc
        rfl
  rw [processRunCommand, if_neg (joined_ne_nil hname), List.take_of_length_le h,
    append_ok (by simp; omega), ok_bind, List.nil_append, htoken]
  dsimp only
  rw [List.take_of_length_le hlength, append_ok (by simp; omega), ok_bind]
  rfl

section Lines

variable {prompt name : Text} {args : List Text} {result : ReadResult}

theorem processCommand_outside (h : Given prompt name args result) (hargs : 14 ≤ args.length) :
    processCommand prompt = .error ⟨.argv, 16⟩ := by
  have hlength : (collectArgs 16 prompt).length = 16 := by
    rw [collectArgs_eq, h.words, List.length_take, List.length_cons, List.length_cons]
    omega
  rw [processCommand, terminateArgs, if_neg (by omega), hlength]
  rfl

theorem processCommand_run (h : Given prompt name args result) (hargs : args.length < 14) :
    processCommand prompt = .ok (.run (some ⟨name, joined name args⟩)) := by
  have hargv : collectArgs 16 prompt = runWord :: name :: args := by
    rw [collectArgs_eq, h.words, List.take_of_length_le (by simp; omega)]
  rw [processCommand, terminateArgs, hargv, if_pos (by simp; omega), ok_bind]
  dsimp only
  rw [if_neg (by decide), if_neg (by decide), if_pos rfl, buildCmdline_ok h.lineLength, ok_bind,
    processRunCommand_ok h.nameWord h.nameLength h.lineLength]
  rfl

end Lines

theorem text_copyCmdline {source : Text} (hzero : 0 ∉ source) (hlength : source.length ≤ 511) :
    text (copyCmdline source) = source := by
  rw [copyCmdline, pad, List.take_of_length_le hlength, List.append_assoc, text_append hzero]
  cases hpad : 511 - source.length with
  | zero => simp [text_zero]
  | succ n => simp [List.replicate_succ, text_zero]

theorem crt0_outside (t : Thread) {data : List UInt8} (hdata : data.length ≤ 511) :
    crt0 t (.bytes data) = .error ⟨.buffer, 512⟩ := by
  have hstore : ∀ buffer, storeBuffer buffer data.length 0 = .ok (buffer.set data.length 0) :=
    fun buffer => if_pos (by omega)
  have hread : ∃ buffer, readStdin (.bytes data) = .ok buffer := by
    rw [readStdin]
    split
    · rw [hstore, ok_bind]
      exact ⟨_, hstore _⟩
    · rw [ok_bind]
      exact ⟨_, hstore _⟩
  obtain ⟨buffer, hbuffer⟩ := hread
  have hlast : storeBuffer (readCmdline t buffer) 512 0 = .error ⟨.buffer, 512⟩ :=
    if_neg (by decide)
  rw [crt0, hbuffer, ok_bind]
  dsimp only
  rw [hlast]
  rfl

theorem crt0_failed (t : Thread) (code : Nat) :
    crt0 t (.failed code) = .error ⟨.buffer, -(code + 1)⟩ := by
  have hread : readStdin (.failed code) = .error ⟨.buffer, -(code + 1)⟩ := by
    rw [readStdin]
    exact if_neg (by omega)
  rw [crt0, hread]
  rfl

theorem readCmdline_clone (hzero : 0 ∉ line) (hlength : line.length ≤ 511) (child : Thread)
    (buffer : Buffer) :
    text (readCmdline (cloneThread (injectCmdline line) child) buffer) = line := by
  have hcopied := text_copyCmdline hzero hlength
  have hclone : cloneThread (injectCmdline line) child = ⟨copyCmdline line, true⟩ := by
    refine (if_pos rfl).trans ?_
    change (⟨copyCmdline (text (copyCmdline line)), true⟩ : Thread) = _
    rw [hcopied]
  have hend : 0 ∈ copyCmdline line := by simp [copyCmdline]
  obtain ⟨rest, hrest⟩ := eq_text_append hend
  rw [hclone, readCmdline, if_pos rfl]
  change text (copyCmdline (text (copyCmdline line)) ++ _) = line
  rw [hcopied, hrest, List.append_assoc, text_append (zero_notMem_text _), List.cons_append,
    text_zero, List.append_nil, hcopied]

/-- A parent clones one child after the other and injects no line in between. -/
def cloneAll (threads : Threads) (parent : Nat) : List Nat → Threads
  | [] => threads
  | child :: children => cloneAll (clone threads parent child) parent children

theorem cloneAll_parent (h : parent ∉ children) (threads : Threads) :
    cloneAll threads parent children parent = threads parent := by
  induction children generalizing threads with
  | nil => rfl
  | cons child children ih =>
      rw [List.mem_cons, not_or] at h
      rw [cloneAll, ih h.2, clone, Function.update_of_ne h.1]

theorem later_child {child : Nat} (h : parent ∉ children) (hzero : 0 ∉ line)
    (hlength : line.length ≤ 511) (threads : Threads) (buffer : Buffer) :
    text (readCmdline (clone
      (cloneAll (Function.update threads parent (injectCmdline line)) parent children)
        parent child child) buffer) = line := by
  rw [clone, Function.update_self, cloneAll_parent h, Function.update_self,
    readCmdline_clone hzero hlength]

theorem rtlCloneAndExecute_ok (threads : Threads) (parent child : Nat) {launch : Launch}
    (hname : launch.filename ≠ []) (hline : launch.cmdline ≠ []) :
    rtlCloneAndExecute threads parent child launch =
      some (clone (Function.update threads parent (injectCmdline launch.cmdline)) parent
        child) := by
  rw [rtlCloneAndExecute, if_neg hname]
  dsimp only
  rw [if_neg hline]

section Passing

variable {prompt name : Text} {args : List Text} {result : ReadResult}

theorem runLine_outside (threads : Threads) (shell child : Nat)
    (h : Given prompt name args result) :
    runLine threads shell child prompt result = .error (firstOutside args result) := by
  rw [runLine, firstOutside.eq_def]
  split
  · rename_i hargs
    rw [processCommand_outside h hargs]
    rfl
  · rename_i hargs
    rw [processCommand_run h (by omega), ok_bind]
    dsimp only
    rw [rtlCloneAndExecute_ok threads shell child h.nameWord.nonempty
      (joined_ne_nil h.nameWord)]
    dsimp only
    cases result with
    | bytes data =>
        rw [crt0_outside _ (h.read data rfl)]
        rfl
    | failed code =>
        rw [crt0_failed]
        rfl

theorem listTokens_child (hwords : Given prompt name args result) (hargs : args.length < 14)
    (child : Thread) (buffer : Buffer) :
    listTokens 80 (text (readCmdline
      (cloneThread (injectCmdline (joined name args)) child) buffer)) = .ok (name :: args) := by
  have hzero := zero_notMem_joined hwords.nameWord hwords.argWords
  have hlength : (joined name args).length ≤ 511 := Nat.le_trans hwords.lineLength (by decide)
  rw [readCmdline_clone hzero hlength, listTokens_eq,
    fields_joined hwords.nameWord hwords.argWords, if_pos (by simp; omega)]

end Passing

/-- No command line is passed on without an access outside an array, and a line that was injected
for a child reaches every later one. Up to thirteen arguments, the words are in the buffer of the
child when it makes the access. -/
theorem argument_passing {prompt name : Text} {args : List Text} {result : ReadResult}
    (h : Given prompt name args result) (threads : Threads) (shell child : Nat) :
    ¬ Returns (runLine threads shell child prompt result)
        (fun passed => passed = some (name :: args)) ∧
      runLine threads shell child prompt result = .error (firstOutside args result) ∧
      (args.length < 14 → ∀ buffer, listTokens 80 (text (readCmdline
        (cloneThread (injectCmdline (joined name args)) (threads child)) buffer)) =
          .ok (name :: args)) ∧
      ∀ children later buffer, shell ∉ children →
        text (readCmdline (clone
          (cloneAll (Function.update threads shell (injectCmdline (joined name args))) shell
            children) shell later later) buffer) = joined name args := by
  have houtside := runLine_outside threads shell child h
  refine ⟨?_, houtside, ?_, ?_⟩
  · rw [houtside, returns_error]
    exact not_false
  · intro hargs buffer
    exact listTokens_child h hargs (threads child) buffer
  · intro children later buffer hchildren
    exact later_child hchildren (zero_notMem_joined h.nameWord h.argWords)
      (Nat.le_trans h.lineLength (by decide)) threads buffer

theorem given_run_a : Given [114, 117, 110, 32, 97] [97] [] (.bytes []) where
  words := by decide
  nameWord := ⟨by decide, by simp⟩
  argWords := by simp
  nameLength := by decide
  lineLength := by decide
  read := by
    rintro _ ⟨⟩
    decide

def freshThreads : Threads := fun _ => ⟨List.replicate 512 0, false⟩

theorem argument_passing_example :
    ¬ Returns (runLine freshThreads 1 2 [114, 117, 110, 32, 97] (.bytes []))
      fun passed => passed = some [[97]] :=
  (argument_passing given_run_a freshThreads 1 2).1

/-- The line `run a` ends behind the buffer of `crt0`; a child that is cloned afterwards without a
line gets the line `a`. -/
theorem run_a_outside :
    runLine freshThreads 1 2 [114, 117, 110, 32, 97] (.bytes []) = .error ⟨.buffer, 512⟩ ∧
      text (readCmdline (clone
        (cloneAll (Function.update freshThreads 1 (injectCmdline [97])) 1 [2]) 1 3 3)
          (pad 512 [])) = [97] := by
  refine ⟨runLine_outside freshThreads 1 2 given_run_a, ?_⟩
  exact later_child (by decide) (by decide) (by decide) freshThreads _

end Gramado.Cmds.ArgumentPassing
