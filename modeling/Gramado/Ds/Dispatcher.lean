import Gramado.Ds.Services

/-! One round of the display server: read a request, serve it, answer it. -/

namespace Gramado.Ds.Dispatcher

open Library Library.ByteMemory Ds.Protocol Ds.Services

inductive Action where
  | null
  | request
  | reply
  deriving DecidableEq, Repr

/-- What the kernel does for one call of `dispacher`: the descriptor that `accept` gave, the action
of its file, the bytes that `read` stores in the buffer, the process that a clone starts, and the
results of `write`. -/
structure Delivery where
  fd : Int
  action : Action
  data : List UInt8
  pid : Int32
  writes : Nat → Int

inductive ResponseType where
  | RESPONSE_IS_REPLY
  | RESPONSE_IS_EVENT
  | RESPONSE_IS_ERROR
  deriving DecidableEq, Repr

def ResponseType.packetType : ResponseType → UInt64
  | .RESPONSE_IS_REPLY => SERVER_PACKET_TYPE_REPLY
  | .RESPONSE_IS_EVENT => SERVER_PACKET_TYPE_EVENT
  | .RESPONSE_IS_ERROR => SERVER_PACKET_TYPE_ERROR

/-- The action of the file at the end, the packet that was given to `write`, and whether one of the
writes took it. -/
structure Outcome where
  action : Action
  response : Option (List UInt8)
  sent : Bool
  deriving DecidableEq, Repr

variable {δ : Type} (workers : Workers δ)

/-- The labels `exit2` of `dispacher` and `exit1` of `dsSendResponse`. -/
def clearHeader (s : Server δ) : Server δ :=
  { s with buffer := setWords s.buffer [(0, 0), (1, 0), (2, 0), (3, 0), (4, 0), (5, 0)] }

/-- Twenty words of the response are copied into the buffer; the second is the packet type. -/
def composeResponse (buffer nextResponse : Memory) (type : ResponseType) : Memory :=
  setWord (blit (blit buffer 0 8 nextResponse) 16 144 fun i => nextResponse (16 + i)) 1
    type.packetType

def accepted (writes : Nat → Int) : Bool := (List.range 8).any fun i => decide (0 < writes i)

def dsSendResponse (writes : Nat → Int) (type : ResponseType) (s : Server δ) :
    Outcome × Server δ :=
  let buffer := composeResponse s.buffer s.nextResponse type
  let response := some (bytes buffer MSG_BUFFER_SIZE)
  if accepted writes = true then
    (⟨.reply, response, true⟩, clearHeader { s with buffer := clean, nextResponse := clean })
  else (⟨.reply, response, false⟩, { s with buffer := buffer })

def received (s : Server δ) (d : Delivery) : Server δ :=
  { s with buffer := blit s.buffer 0 d.data.length fun i => d.data.getD i 0 }

def processRequest (d : Delivery) (s : Server δ) : Outcome × Server δ :=
  let code := word s.buffer 1
  if code = 0 then (⟨d.action, none, false⟩, clearHeader s)
  else
    let (status, s) := dsProcedure workers d.fd d.pid (toInt code) s
    if s.noReply = true then (⟨.null, none, false⟩, s)
    else
      let type :=
        if status < 0 then ResponseType.RESPONSE_IS_ERROR
        else if code = .ofNat Code.getNextEvent.number then .RESPONSE_IS_EVENT
        else .RESPONSE_IS_REPLY
      let (outcome, s) := dsSendResponse d.writes type s
      (outcome, clearHeader s)

def dispacher (s : Server δ) (d : Delivery) : Except String (Outcome × Server δ) :=
  if d.fd < 0 then .ok (⟨d.action, none, false⟩, clearHeader s)
  else if d.action ≠ .request then .ok (⟨d.action, none, false⟩, clearHeader s)
  else if d.fd = workers.savedServerFd then .error "The server can't read on your own socket"
  else if d.fd ≠ 31 then .error "dispacher: fd != 31"
  else if d.data.length < REQUEST_SIZE then
    .ok (⟨d.action, none, false⟩, clearHeader (received s d))
  else .ok (processRequest workers d (received s d))

abbrev runRequests := Run.run (dispacher workers)

/-- A request that the dispatcher consumes, whole in the message buffer. -/
structure Arrives (d : Delivery) : Prop where
  fd : d.fd = 31
  action : d.action = .request
  size : REQUEST_SIZE ≤ d.data.length
  fits : d.data.length ≤ MSG_BUFFER_SIZE

def Delivery.code (d : Delivery) : UInt64 := word (fun i => d.data.getD i 0) 1

/-- The value that the case of a code gives to `NoReply`, if it gives one. -/
def noReplyOf : Code → Option Bool
  | .drawChar => some true
  | .drawText => some true
  | .refreshWindow => some true
  | .redrawWindow => some true
  | .asyncCommand => some true
  | .putClientMessage => some true
  | .setText => some true
  | .disconnect => none
  | .refreshScreen => none
  | .sendEvent => none
  | .quit => none
  | .drainInput => none
  | _ => some false

/-- The message code has a case, and it is not one of those that leave `NoReply` as it is. -/
def SetsNoReply (msg : Int32) : Prop :=
  ∃ code, codeOf msg = some code ∧
    code ∉ [Code.disconnect, .refreshScreen, .sendEvent, .quit, .drainInput]

/-- Requests of one code are all answered or all not, whatever was served before them, and the
action of the file says which. -/
def Disciplined (start : Server δ) (code : UInt64) : Prop :=
  ∃ reply : Bool, ∀ history d outs s out t,
    (∀ e ∈ history, Arrives e ∧ accepted e.writes = true) →
    Arrives d → accepted d.writes = true → d.code = code →
    runRequests workers start history = .ok (outs, s) →
    dispacher workers s d = .ok (out, t) →
    out.sent = reply ∧ out.action = if reply = true then .reply else .null

variable {msg : Int32} {d : Delivery} {code : UInt64} {flag : Bool}

theorem setsNoReply_iff :
    SetsNoReply msg ↔ ∃ noReply, (codeOf msg).bind noReplyOf = some noReply := by
  rw [SetsNoReply]
  generalize codeOf msg = found
  cases found with
  | none =>
      constructor
      · rintro ⟨code, hcode, _⟩
        cases hcode
      · rintro ⟨noReply, hflag⟩
        cases hflag
  | some code =>
      rw [Option.bind_some]
      constructor
      · rintro ⟨code', hcode, hmem⟩
        cases hcode
        cases code <;> first | exact ⟨_, rfl⟩ | exact absurd (by decide) hmem
      · rintro ⟨noReply, hflag⟩
        refine ⟨code, rfl, ?_⟩
        cases code <;> first | decide | cases hflag

theorem codeOf_of_nonpos (h : msg ≤ 0) : codeOf msg = none := by
  rw [codeOf, List.find?_eq_none]
  intro code _ hnumber
  have hvalue : (code.number : Int) = msg.toInt := by simpa using hnumber
  have hle : msg.toInt ≤ 0 := Int32.le_iff_toInt_le.mp h
  have hpos : 0 < code.number := by cases code <;> decide
  omega

theorem serve_noReply (clientFd : Int) (pid : Int32) (s : Server δ) (code : Code) :
    (serve workers clientFd pid s code).2.noReply = (noReplyOf code).getD s.noReply := by
  cases code with
  | quit =>
      change (quitService s).noReply = s.noReply
      rw [quitService]
      split <;> rfl
  | _ => rfl

theorem dsProcedure_noReply {clientFd : Int} (hfd : 0 ≤ clientFd) (pid msg : Int32)
    (s : Server δ) :
    (dsProcedure workers clientFd pid msg s).2.noReply =
      ((codeOf msg).bind noReplyOf).getD s.noReply := by
  rw [dsProcedure, if_neg (by omega)]
  by_cases hmsg : msg ≤ 0
  · rw [if_pos hmsg, codeOf_of_nonpos hmsg]
    rfl
  · rw [if_neg hmsg]
    cases codeOf msg with
    | none => rfl
    | some code => exact serve_noReply workers clientFd pid s code

theorem received_word (s : Server δ) (h : Arrives d) {i : Nat} (hi : i < 46) :
    word (received s d).buffer i = word (fun i => d.data.getD i 0) i := by
  refine word_congr fun k _ hk => ?_
  have hsize := h.size
  rw [REQUEST_SIZE] at hsize
  exact blit_of_inside s.buffer (fun i => d.data.getD i 0) (Nat.zero_le k) (by omega)

theorem dispacher_arrives (hserver : workers.savedServerFd ≠ 31) (s : Server δ) (h : Arrives d) :
    dispacher workers s d = .ok (processRequest workers d (received s d)) := by
  have hsize := h.size
  rw [dispacher, h.fd, h.action, if_neg (by decide), if_neg (by decide), if_neg hserver.symm,
    if_neg (by decide), if_neg (by omega)]

@[simp] theorem clearHeader_noReply (s : Server δ) : (clearHeader s).noReply = s.noReply := rfl

theorem dsSendResponse_spec (writes : Nat → Int) (type : ResponseType) (s : Server δ) :
    (dsSendResponse writes type s).1.action = .reply ∧
      (dsSendResponse writes type s).1.sent = accepted writes ∧
      (dsSendResponse writes type s).2.noReply = s.noReply := by
  rw [dsSendResponse]
  by_cases haccepted : accepted writes = true
  · rw [if_pos haccepted]
    exact ⟨rfl, haccepted.symm, rfl⟩
  · rw [if_neg haccepted]
    exact ⟨rfl, ((Bool.not_eq_true _).mp haccepted).symm, rfl⟩

def flagAfter (code : UInt64) (noReply : Bool) : Bool :=
  if code = 0 then noReply else ((codeOf (toInt code)).bind noReplyOf).getD noReply

theorem processRequest_outcome (s : Server δ) (h : Arrives d) (hsent : accepted d.writes = true)
    (code : UInt64) (hcode : word s.buffer 1 = code) :
    (processRequest workers d s).2.noReply = flagAfter code s.noReply ∧
      (code = 0 → (processRequest workers d s).1.action = .request) ∧
      (code ≠ 0 → (processRequest workers d s).1.sent = !(flagAfter code s.noReply) ∧
        (processRequest workers d s).1.action =
          if flagAfter code s.noReply = true then .null else .reply) := by
  rw [processRequest, hcode, h.fd, h.action, flagAfter]
  by_cases hzero : code = 0
  · rw [if_pos hzero, if_pos hzero]
    exact ⟨rfl, fun _ => rfl, fun hne => absurd hzero hne⟩
  · rw [if_neg hzero, if_neg hzero]
    have hflag := dsProcedure_noReply workers (show (0 : Int) ≤ 31 by decide) d.pid (toInt code) s
    generalize dsProcedure workers 31 d.pid (toInt code) s = r at hflag
    rw [← hflag]
    by_cases hno : r.2.noReply = true
    · dsimp only
      rw [if_pos hno, hno]
      exact ⟨rfl, fun heq => absurd heq hzero, fun _ => ⟨rfl, rfl⟩⟩
    · dsimp only
      rw [if_neg hno, (Bool.not_eq_true _).mp hno]
      generalize (if r.1 < 0 then ResponseType.RESPONSE_IS_ERROR
        else if code = .ofNat Code.getNextEvent.number then .RESPONSE_IS_EVENT
        else .RESPONSE_IS_REPLY) = type
      obtain ⟨haction, hwritten, hkept⟩ := dsSendResponse_spec d.writes type r.2
      refine ⟨?_, fun heq => absurd heq hzero, fun _ => ⟨?_, haction⟩⟩
      · rw [clearHeader_noReply, hkept, (Bool.not_eq_true _).mp hno]
      · rw [hwritten, hsent]
        rfl

theorem dispacher_outcome (hserver : workers.savedServerFd ≠ 31) (s : Server δ) (h : Arrives d)
    (hsent : accepted d.writes = true) :
    ∃ out t, dispacher workers s d = .ok (out, t) ∧ t.noReply = flagAfter d.code s.noReply ∧
      (d.code = 0 → out.action = .request) ∧
      (d.code ≠ 0 → out.sent = !(flagAfter d.code s.noReply) ∧
        out.action = if flagAfter d.code s.noReply = true then .null else .reply) := by
  have hword : word (received s d).buffer 1 = d.code := received_word s h (by decide)
  have hspec := processRequest_outcome workers (received s d) h hsent d.code hword
  have hnoReply : (received s d).noReply = s.noReply := rfl
  rw [hnoReply] at hspec
  rw [dispacher_arrives workers hserver s h]
  generalize processRequest workers d (received s d) = r at hspec
  exact ⟨r.1, r.2, rfl, hspec⟩

theorem flagAfter_of_sets (h : (codeOf (toInt code)).bind noReplyOf = some flag) (noReply : Bool) :
    code ≠ 0 ∧ flagAfter code noReply = flag := by
  have hne : code ≠ 0 := by
    rintro rfl
    cases h
  rw [flagAfter, if_neg hne, h]
  exact ⟨hne, rfl⟩

theorem flagAfter_of_not_sets (h : (codeOf (toInt code)).bind noReplyOf = none) (noReply : Bool) :
    flagAfter code noReply = noReply := by
  rw [flagAfter, h, Option.getD_none, ite_self]

def requestOf (code : UInt64) : Delivery where
  fd := 31
  action := .request
  data := bytes (setWord clean 1 code) REQUEST_SIZE
  pid := 0
  writes := fun _ => MSG_BUFFER_SIZE

theorem arrives_requestOf (code : UInt64) : Arrives (requestOf code) where
  fd := rfl
  action := rfl
  size := (bytes_length _ _).ge
  fits := by
    rw [requestOf, bytes_length]
    decide

theorem accepted_requestOf (code : UInt64) : accepted (requestOf code).writes = true := rfl

theorem code_requestOf (code : UInt64) : (requestOf code).code = code := by
  have hdata : ∀ k, 8 * 1 ≤ k → k < 8 * 1 + 8 →
      (requestOf code).data.getD k 0 = setWord clean 1 code k := by
    intro k _ hk
    exact getD_bytes _ (by rw [REQUEST_SIZE]; omega)
  rw [Delivery.code, word_congr hdata, word_setWord]

theorem run_requestOf (hserver : workers.savedServerFd ≠ 31) (start : Server δ) (code : UInt64) :
    ∃ outs s, runRequests workers start [requestOf code] = .ok (outs, s) ∧
      s.noReply = flagAfter code start.noReply := by
  obtain ⟨out, t, hstep, hflag, _⟩ := dispacher_outcome workers hserver start
    (arrives_requestOf code) (accepted_requestOf code)
  rw [code_requestOf] at hflag
  refine ⟨[out], t, ?_, hflag⟩
  rw [runRequests, Run.run, hstep]
  rfl

theorem run_two (hserver : workers.savedServerFd ≠ 31) (start : Server δ) {first second : UInt64}
    (hfirst : first ≠ 0) (hsecond : second ≠ 0) :
    ((runRequests workers start [requestOf first, requestOf second]).toOption.map
        fun r => r.1.map Outcome.sent) =
      some [!(flagAfter first start.noReply),
        !(flagAfter second (flagAfter first start.noReply))] := by
  obtain ⟨out, t, hstep, hflag, _, hanswer⟩ := dispacher_outcome workers hserver start
    (arrives_requestOf first) (accepted_requestOf first)
  obtain ⟨out', t', hstep', _, _, hanswer'⟩ := dispacher_outcome workers hserver t
    (arrives_requestOf second) (accepted_requestOf second)
  rw [code_requestOf] at hflag hanswer hanswer'
  rw [hflag] at hanswer'
  rw [← (hanswer hfirst).1, ← (hanswer' hsecond).1]
  simp only [Run.run, hstep, hstep']
  rfl

theorem disciplined_of_sets (hserver : workers.savedServerFd ≠ 31) (start : Server δ)
    (h : (codeOf (toInt code)).bind noReplyOf = some flag) :
    Disciplined workers start code := by
  refine ⟨!flag, ?_⟩
  rintro history d outs s out t _ harrives hwrites rfl _ hstep
  obtain ⟨out', t', hstep', _, _, hanswer⟩ := dispacher_outcome workers hserver s harrives hwrites
  rw [hstep'] at hstep
  obtain ⟨rfl, rfl⟩ := Prod.mk.inj (Except.ok.inj hstep)
  obtain ⟨hne, hflag⟩ := flagAfter_of_sets h s.noReply
  obtain ⟨hsent, haction⟩ := hanswer hne
  rw [hsent, haction, hflag]
  cases flag <;> exact ⟨rfl, rfl⟩

theorem not_disciplined_of_inherits (hserver : workers.savedServerFd ≠ 31) (start : Server δ)
    (h : (codeOf (toInt code)).bind noReplyOf = none) :
    ¬ Disciplined workers start code := by
  rintro ⟨reply, hreply⟩
  -- the outcome of the request after a history of one other request
  have hafter : ∀ first, code ≠ 0 → reply = !(flagAfter first start.noReply) := by
    intro first hne
    obtain ⟨outs, s, hrun, hflag⟩ := run_requestOf workers hserver start first
    obtain ⟨out, t, hstep, _, _, hanswer⟩ := dispacher_outcome workers hserver s
      (arrives_requestOf code) (accepted_requestOf code)
    rw [code_requestOf, flagAfter_of_not_sets h, hflag] at hanswer
    have hsent := (hreply [requestOf first] (requestOf code) outs s out t
      (by rintro e he; rw [List.mem_singleton.mp he]
          exact ⟨arrives_requestOf first, accepted_requestOf first⟩)
      (arrives_requestOf code) (accepted_requestOf code) (code_requestOf code) hrun hstep).1
    rw [← hsent]
    exact (hanswer hne).1
  by_cases hzero : code = 0
  · obtain ⟨out, t, hstep, _, haction, _⟩ := dispacher_outcome workers hserver start
      (arrives_requestOf code) (accepted_requestOf code)
    rw [code_requestOf] at haction
    have hleft := (hreply [] (requestOf code) [] start out t (by rintro e he; cases he)
      (arrives_requestOf code) (accepted_requestOf code) (code_requestOf code) rfl hstep).2
    rw [haction hzero] at hleft
    cases reply <;> cases hleft
  · have hline := hafter 1003 hzero
    have hchar := hafter 1004 hzero
    have hanswered : flagAfter 1003 start.noReply = false := (flagAfter_of_sets rfl start.noReply).2
    have hunanswered : flagAfter 1004 start.noReply = true :=
      (flagAfter_of_sets rfl start.noReply).2
    rw [hanswered] at hline
    rw [hunanswered, hline] at hchar
    cases hchar

/-- Whether a request is answered depends on its code alone, and its file is never left at the
action of a request, if and only if the code is one whose case sets `NoReply`. -/
theorem reply_discipline_iff (hserver : workers.savedServerFd ≠ 31) (start : Server δ)
    (code : UInt64) : Disciplined workers start code ↔ SetsNoReply (toInt code) := by
  rw [setsNoReply_iff]
  constructor
  · intro h
    cases hflag : (codeOf (toInt code)).bind noReplyOf with
    | none => exact absurd h (not_disciplined_of_inherits workers hserver start hflag)
    | some flag => exact ⟨flag, rfl⟩
  · rintro ⟨flag, hflag⟩
    exact disciplined_of_sets workers hserver start hflag

def idleWorkers : Workers Unit where
  savedServerFd := 4
  created := fun _ _ _ => .refused
  createWindow := fun _ _ world => world
  drawText := fun _ world => (false, world)
  perform := fun _ _ world => world

def newServer : Server Unit where
  noReply := false
  buffer := clean
  nextResponse := clean
  world := ⟨⟨fun _ => none, 0⟩, false, ()⟩

theorem reply_discipline_iff_getText :
    Disciplined idleWorkers newServer 2241 ∧ SetsNoReply (toInt 2241) :=
  have hsets : SetsNoReply (toInt 2241) := ⟨.getText, by decide, by decide⟩
  ⟨(reply_discipline_iff idleWorkers (by decide) newServer 2241).mpr hsets, hsets⟩

/-- `GWS_RefreshScreen` is answered behind a `GWS_DrawHorizontalLine` and not behind a
`GWS_DrawChar`. -/
theorem refreshScreen_inherits :
    ((runRequests idleWorkers newServer [requestOf 1003, requestOf 2020]).toOption.map
        fun r => r.1.map Outcome.sent) = some [true, true] ∧
      ((runRequests idleWorkers newServer [requestOf 1004, requestOf 2020]).toOption.map
        fun r => r.1.map Outcome.sent) = some [false, false] ∧
      ¬ Disciplined idleWorkers newServer 2020 :=
  ⟨run_two idleWorkers (by decide) newServer (by decide) (by decide),
    run_two idleWorkers (by decide) newServer (by decide) (by decide),
    not_disciplined_of_inherits idleWorkers (by decide) newServer (by decide)⟩

end Gramado.Ds.Dispatcher
