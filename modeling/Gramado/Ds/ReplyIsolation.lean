import Gramado.Ds.Dispatcher

/-! What the response to a request takes from the buffers as earlier requests left them. -/

namespace Gramado.Ds.ReplyIsolation

open Library Library.ByteMemory Ds.Protocol Ds.Services Ds.Dispatcher

variable {δ : Type} (workers : Workers δ)

def inWords (words : List (Nat × UInt64)) (i : Nat) : Bool :=
  words.any fun entry => decide (8 * entry.1 ≤ i ∧ i < 8 * entry.1 + 8)

/-- What serving a request leaves in the buffers: the bytes of `next_response` that it covers and
what it puts there, and whether it cleans the message buffer. -/
structure Contribution where
  status : Int
  noReply : Option Bool
  covers : Nat → Bool
  values : Memory
  cleans : Bool

def flagged (noReply : Option Bool) : Contribution := ⟨0, noReply, fun _ => false, clean, false⟩

def refused (noReply : Option Bool) : Contribution := ⟨-1, noReply, fun _ => false, clean, false⟩

def partly (words : List (Nat × UInt64)) : Contribution :=
  ⟨0, some false, inWords words, setWords clean words, false⟩

def wholly (words : List (Nat × UInt64)) (cleans : Bool) : Contribution :=
  ⟨0, some false, fun _ => true, setWords clean words, cleans⟩

/-- The header that `serviceGetText` sets before its last checks. -/
def textHeader (wid : Int32) : List (Nat × UInt64) :=
  [(0, wid.toUInt32.toUInt64), (1, SERVER_PACKET_TYPE_REPLY), (2, 1234), (3, 5678)]

/-- A text behind the words, as `respondText` puts it there. -/
def withText (c : Contribution) (text : Nat → UInt8) : Contribution :=
  { c with
    covers := fun i => c.covers i || decide (64 ≤ i ∧ i < 129)
    values := blit (blit c.values 64 64 text) 128 1 fun _ => 0 }

def textContribution (wid : Int32) (w : Window) : Contribution :=
  if w.type ≠ WT_EDITBOX ∧ w.type ≠ WT_EDITBOX_MULTIPLE_LINES then partly (textHeader wid)
  else if w.textbufferSizeInBytes < 64 then partly (textHeader wid)
  else
    match w.windowText with
    | none => partly (textHeader wid)
    | some text => withText (partly (textHeader wid)) text

/-- The contribution of the service of a code to the response, if its case lets one be sent. -/
def contribution (clientFd : Int) (pid : Int32) (windows : Windows) (buffer : Memory) :
    Code → Contribution
  | .createWindow =>
      match workers.created (decodeCreateWindow buffer) clientFd windows with
      | .refused => refused (some false)
      | .failed => { partly [(1, 0)] with status := -1 }
      | .window wid =>
          wholly [(0, wid.toUInt32.toUInt64), (1, SERVER_PACKET_TYPE_REPLY), (2, 0), (3, 0)] true
  | .resizeWindow =>
      { flagged (some false) with cleans := (usedWindowAt windows (toInt (word buffer 0))).isSome }
  | .changeWindowPosition =>
      { flagged (some false) with cleans := (usedWindowAt windows (toInt (word buffer 0))).isSome }
  | .refreshRectangle =>
      if word buffer 1 ≠ .ofNat Code.refreshRectangle.number then flagged (some false)
      else partly [(0, 0), (1, SERVER_PACKET_TYPE_REPLY)]
  | .drawRectangle =>
      if word buffer 1 ≠ .ofNat Code.drawRectangle.number then flagged (some false)
      else partly [(0, 0), (1, SERVER_PACKET_TYPE_REPLY)]
  | .getNextEvent =>
      match windowAt windows (EventQueue.requestedWindow (word buffer 0)) with
      | none => flagged (some false)
      | some w => wholly (eventWords (w.events w.evHead)) false
  | .getText =>
      match windowAt windows (toInt (word buffer 4) &&& 0xFFFF) with
      | none => flagged (some false)
      | some w => textContribution (toInt (word buffer 4) &&& 0xFFFF) w
  | .getWindowInfo =>
      if toInt (word buffer 1) ≠ Int32.ofNat Code.getWindowInfo.number then flagged (some false)
      else
        match usedWindowAt windows (toInt (word buffer 0)) with
        | none => flagged (some false)
        | some w => wholly (infoWords (toInt (word buffer 0)) w) false
  | .cloneAndExecute =>
      wholly [(0, pid.toUInt32.toUInt64), (1, SERVER_PACKET_TYPE_REPLY)] false
  | code => flagged (noReplyOf code)

def contributionOf (d : Delivery) (windows : Windows) (buffer : Memory) : Contribution :=
  match codeOf (toInt d.code) with
  | none => refused none
  | some code => contribution workers d.fd d.pid windows buffer code

def overlay (c : Contribution) (nextResponse : Memory) : Memory := fun i =>
  if c.covers i = true then c.values i else nextResponse i

/-- The buffers of the server behind a service, unless its case forbids a response. -/
def Contributes (c : Contribution) (s : Server δ) (r : Int × Server δ) : Prop :=
  c.noReply ≠ some true →
    r.1 = c.status ∧ r.2.nextResponse = overlay c s.nextResponse ∧
      r.2.buffer = if c.cleans = true then clean else s.buffer

theorem setWords_eq (words : List (Nat × UInt64)) (buffer buffer' : Memory) (i : Nat) :
    setWords buffer words i =
      if inWords words i = true then setWords buffer' words i else buffer i := by
  induction words generalizing buffer buffer' with
  | nil => rfl
  | cons entry rest ih =>
      obtain ⟨k, v⟩ := entry
      have hwords : inWords ((k, v) :: rest) i =
          (decide (8 * k ≤ i ∧ i < 8 * k + 8) || inWords rest i) := List.any_cons
      rw [setWords, setWords, ih (setWord buffer k v) (setWord buffer' k v), hwords]
      by_cases hrest : inWords rest i = true
      · rw [if_pos hrest, if_pos (by rw [hrest, Bool.or_true])]
      · have hlast : setWords (setWord buffer' k v) rest i = setWord buffer' k v i := by
          rw [ih (setWord buffer' k v) (setWord buffer' k v), if_neg hrest]
        rw [if_neg hrest, (Bool.not_eq_true _).mp hrest, Bool.or_false]
        simp only [decide_eq_true_eq]
        by_cases hin : 8 * k ≤ i ∧ i < 8 * k + 8
        · rw [if_pos hin, hlast, setWord_of_inside buffer buffer' v hin.1 hin.2]
        · rw [if_neg hin, setWord_of_outside buffer v (by omega)]

theorem overlay_partly (words : List (Nat × UInt64)) (nextResponse : Memory) :
    overlay (partly words) nextResponse = setWords nextResponse words := by
  funext i
  exact (setWords_eq words nextResponse clean i).symm

theorem contributes_flagged (noReply : Option Bool) (s t : Server δ)
    (hbuffer : t.buffer = s.buffer) (hresponse : t.nextResponse = s.nextResponse) :
    Contributes (flagged noReply) s (0, t) :=
  fun _ => ⟨rfl, hresponse, hbuffer⟩

theorem contributes_partly (words : List (Nat × UInt64)) (s t : Server δ)
    (hbuffer : t.buffer = s.buffer) (hresponse : t.nextResponse = setWords s.nextResponse words) :
    Contributes (partly words) s (0, t) :=
  fun _ => ⟨rfl, hresponse.trans (overlay_partly words _).symm, hbuffer⟩

theorem contributes_wholly (words : List (Nat × UInt64)) (s t : Server δ)
    (hbuffer : t.buffer = s.buffer) (hresponse : t.nextResponse = setWords clean words) :
    Contributes (wholly words false) s (0, t) :=
  fun _ => ⟨rfl, hresponse, hbuffer⟩

theorem overlay_withText (c : Contribution) (text : Nat → UInt8) (nextResponse : Memory) :
    overlay (withText c text) nextResponse =
      blit (blit (overlay c nextResponse) 64 64 text) 128 1 fun _ => 0 := by
  funext i
  rw [overlay, withText]
  simp only [Bool.or_eq_true, decide_eq_true_eq]
  by_cases hlast : 128 ≤ i ∧ i < 128 + 1
  · rw [if_pos (Or.inr (by omega)), blit_of_inside _ _ hlast.1 hlast.2,
      blit_of_inside _ _ hlast.1 hlast.2]
  · have hfront : ∀ mem, blit mem 128 1 (fun _ => 0) i = mem i := fun mem =>
      blit_of_outside mem _ (by omega)
    rw [hfront, hfront]
    by_cases htext : 64 ≤ i ∧ i < 64 + 64
    · rw [if_pos (Or.inr (by omega)), blit_of_inside _ _ htext.1 htext.2,
        blit_of_inside _ _ htext.1 htext.2]
    · have hbefore : ∀ mem, blit mem 64 64 text i = mem i := fun mem =>
        blit_of_outside mem text (by omega)
      have hout : ¬ (64 ≤ i ∧ i < 129) := by omega
      rw [hbefore, hbefore, overlay]
      simp only [hout, or_false]

variable {d : Delivery} {i : Nat} {s : Server δ}

theorem contributes_text {wid : Int32} {w : Window} (s : Server δ)
    (hwid : toInt (word s.buffer 4) &&& 0xFFFF = wid)
    (hwindow : windowAt s.world.windows wid = some w) :
    Contributes (textContribution wid w) s (0, answered (serviceGetText s)) := by
  rw [textContribution]
  unfold serviceGetText
  dsimp only
  rw [hwid, hwindow]
  dsimp only
  split
  · exact contributes_partly (textHeader wid) s _ rfl rfl
  · split
    · exact contributes_partly (textHeader wid) s _ rfl rfl
    · cases w.windowText with
      | none => exact contributes_partly (textHeader wid) s _ rfl rfl
      | some text =>
          refine fun _ => ⟨rfl, ?_, rfl⟩
          dsimp only
          rw [overlay_withText, overlay_partly]
          rfl

theorem contributes_createWindow (clientFd : Int) (pid : Int32) (s : Server δ) :
    Contributes (contribution workers clientFd pid s.world.windows s.buffer .createWindow) s
      (serve workers clientFd pid s .createWindow) := by
  unfold contribution serve serviceCreateWindow
  dsimp only
  cases workers.created (decodeCreateWindow s.buffer) clientFd s.world.windows with
  | refused => exact fun _ => ⟨rfl, rfl, rfl⟩
  | failed => exact fun _ => ⟨rfl, (overlay_partly _ _).symm, rfl⟩
  | window wid => exact fun _ => ⟨rfl, rfl, rfl⟩

theorem contributes_changeService (code : Code) (s : Server δ) : Contributes
      { flagged (some false) with
        cleans := (usedWindowAt s.world.windows (toInt (word s.buffer 0))).isSome }
      s (0, answered (changeService workers code s)) := by
  unfold changeService
  cases usedWindowAt s.world.windows (toInt (word s.buffer 0)) with
  | none => exact fun _ => ⟨rfl, rfl, rfl⟩
  | some w => exact fun _ => ⟨rfl, rfl, rfl⟩

theorem contributes_rectangleService (code : Code) (s : Server δ) : Contributes
      (if word s.buffer 1 ≠ .ofNat code.number then flagged (some false)
        else partly [(0, 0), (1, SERVER_PACKET_TYPE_REPLY)])
      s (0, answered (rectangleService workers code s)) := by
  rw [rectangleService]
  split
  · exact contributes_flagged _ s _ rfl rfl
  · exact contributes_partly _ s _ rfl rfl

theorem contributes_nextEvent (clientFd : Int) (pid : Int32) (s : Server δ) :
    Contributes (contribution workers clientFd pid s.world.windows s.buffer .getNextEvent) s
      (serve workers clientFd pid s .getNextEvent) := by
  unfold contribution serve serviceNextEvent
  dsimp only
  cases windowAt s.world.windows (EventQueue.requestedWindow (word s.buffer 0)) with
  | none => exact contributes_flagged _ s _ rfl rfl
  | some w => exact contributes_wholly _ s _ rfl rfl

theorem contributes_getText (clientFd : Int) (pid : Int32) (s : Server δ) :
    Contributes (contribution workers clientFd pid s.world.windows s.buffer .getText) s
      (serve workers clientFd pid s .getText) := by
  unfold contribution serve
  dsimp only
  cases hwindow : windowAt s.world.windows (toInt (word s.buffer 4) &&& 0xFFFF) with
  | none =>
      have hkept : serviceGetText s = s := by
        unfold serviceGetText
        dsimp only
        rw [hwindow]
      rw [hkept]
      exact contributes_flagged _ s _ rfl rfl
  | some w => exact contributes_text s rfl hwindow

theorem contributes_getWindowInfo (clientFd : Int) (pid : Int32) (s : Server δ) :
    Contributes (contribution workers clientFd pid s.world.windows s.buffer .getWindowInfo) s
      (serve workers clientFd pid s .getWindowInfo) := by
  unfold contribution serve serviceGetWindowInfo
  dsimp only
  split
  · exact contributes_flagged _ s _ rfl rfl
  · cases usedWindowAt s.world.windows (toInt (word s.buffer 0)) with
    | none => exact contributes_flagged _ s _ rfl rfl
    | some w => exact contributes_wholly _ s _ rfl rfl

theorem contributes_serve (clientFd : Int) (pid : Int32) (s : Server δ) (code : Code) :
    Contributes (contribution workers clientFd pid s.world.windows s.buffer code) s
      (serve workers clientFd pid s code) := by
  cases code with
  | createWindow => exact contributes_createWindow workers clientFd pid s
  | resizeWindow => exact contributes_changeService workers .resizeWindow s
  | changeWindowPosition => exact contributes_changeService workers .changeWindowPosition s
  | refreshRectangle => exact contributes_rectangleService workers .refreshRectangle s
  | drawRectangle => exact contributes_rectangleService workers .drawRectangle s
  | getNextEvent => exact contributes_nextEvent workers clientFd pid s
  | getWindowInfo => exact contributes_getWindowInfo workers clientFd pid s
  | getText => exact contributes_getText workers clientFd pid s
  | cloneAndExecute => exact contributes_wholly _ s _ rfl rfl
  | quit =>
      have hkept : (quitService s).buffer = s.buffer ∧
          (quitService s).nextResponse = s.nextResponse := by
        rw [quitService]
        split <;> exact ⟨rfl, rfl⟩
      exact contributes_flagged _ s _ hkept.1 hkept.2
  | drawChar => exact fun h => absurd rfl h
  | drawText => exact fun h => absurd rfl h
  | refreshWindow => exact fun h => absurd rfl h
  | redrawWindow => exact fun h => absurd rfl h
  | asyncCommand => exact fun h => absurd rfl h
  | putClientMessage => exact fun h => absurd rfl h
  | setText => exact fun h => absurd rfl h
  | _ => exact contributes_flagged _ s _ rfl rfl

theorem contribution_noReply (clientFd : Int) (pid : Int32) (windows : Windows)
    (buffer : Memory) (code : Code) :
    (contribution workers clientFd pid windows buffer code).noReply = noReplyOf code := by
  cases code with
  | createWindow =>
      unfold contribution
      dsimp only
      split <;> rfl
  | refreshRectangle =>
      unfold contribution
      dsimp only
      split <;> rfl
  | drawRectangle =>
      unfold contribution
      dsimp only
      split <;> rfl
  | getNextEvent =>
      unfold contribution
      dsimp only
      split <;> rfl
  | getText =>
      unfold contribution
      dsimp only
      split
      · rfl
      · rw [textContribution]
        split
        · rfl
        · split
          · rfl
          · split <;> rfl
  | getWindowInfo =>
      unfold contribution
      dsimp only
      split
      · rfl
      · split <;> rfl
  | _ => rfl

theorem contributionOf_noReply (d : Delivery) (windows : Windows) (buffer : Memory) :
    (contributionOf workers d windows buffer).noReply = (codeOf (toInt d.code)).bind noReplyOf := by
  rw [contributionOf]
  cases codeOf (toInt d.code) with
  | none => rfl
  | some code => exact contribution_noReply workers d.fd d.pid windows buffer code

theorem contributes_dsProcedure (hfd : d.fd = 31) (s : Server δ) :
    Contributes (contributionOf workers d s.world.windows s.buffer) s
      (dsProcedure workers d.fd d.pid (toInt d.code) s) := by
  rw [dsProcedure, if_neg (by omega), contributionOf]
  by_cases hmsg : toInt d.code ≤ 0
  · rw [if_pos hmsg, codeOf_of_nonpos hmsg]
    exact fun _ => ⟨rfl, rfl, rfl⟩
  · rw [if_neg hmsg]
    cases codeOf (toInt d.code) with
    | none => exact fun _ => ⟨rfl, rfl, rfl⟩
    | some code => exact contributes_serve workers d.fd d.pid s code

theorem contribution_congr {buffer buffer' : Memory} (clientFd : Int) (pid : Int32)
    (windows : Windows) (h : ∀ i < REQUEST_SIZE, buffer i = buffer' i) (code : Code) :
    contribution workers clientFd pid windows buffer code =
      contribution workers clientFd pid windows buffer' code := by
  have hargs := decodeCreateWindow_congr h
  have hzero := word_eq_of_request h (show 0 < 46 by decide)
  have hone := word_eq_of_request h (show 1 < 46 by decide)
  have hfour := word_eq_of_request h (show 4 < 46 by decide)
  unfold contribution
  cases code
  all_goals
    dsimp only
    try simp only [hargs, hzero, hone, hfour]

def response (s : Server δ) (d : Delivery) : Option (List UInt8) :=
  match dispacher workers s d with
  | .ok (outcome, _) => outcome.response
  | .error _ => none

/-- The contribution of a request depends on its own bytes and on the windows. -/
def contributed (d : Delivery) (windows : Windows) : Contribution :=
  contributionOf workers d windows fun i => d.data.getD i 0

def responseType (d : Delivery) (status : Int) : ResponseType :=
  if status < 0 then .RESPONSE_IS_ERROR
  else if d.code = .ofNat Code.getNextEvent.number then .RESPONSE_IS_EVENT
  else .RESPONSE_IS_REPLY

theorem received_contribution (s : Server δ) (h : Arrives d) :
    contributionOf workers d s.world.windows (received s d).buffer =
      contributed workers d s.world.windows := by
  rw [contributed, contributionOf, contributionOf]
  cases codeOf (toInt d.code) with
  | none => rfl
  | some code =>
      refine contribution_congr workers d.fd d.pid s.world.windows (fun i hi => ?_) code
      have hsize := h.size
      exact blit_of_inside s.buffer (fun i => d.data.getD i 0) (Nat.zero_le i) (by omega)

theorem dsSendResponse_response (writes : Nat → Int) (type : ResponseType) (s : Server δ) :
    (dsSendResponse writes type s).1.response =
      some (bytes (composeResponse s.buffer s.nextResponse type) MSG_BUFFER_SIZE) := by
  rw [dsSendResponse]
  split <;> rfl

theorem response_eq (hserver : workers.savedServerFd ≠ 31) (s : Server δ) (h : Arrives d) :
    response workers s d = if d.code = 0 ∨ flagAfter d.code s.noReply = true then none
      else
        let c := contributed workers d s.world.windows
        some (bytes (composeResponse (if c.cleans = true then clean else (received s d).buffer)
          (overlay c s.nextResponse) (responseType d c.status)) MSG_BUFFER_SIZE) := by
  have hcode : word (received s d).buffer 1 = d.code := received_word s h (by decide)
  rw [response, dispacher_arrives workers hserver s h]
  dsimp only
  rw [processRequest, hcode]
  by_cases hzero : d.code = 0
  · rw [if_pos hzero, if_pos (Or.inl hzero)]
  · have hflag := dsProcedure_noReply workers (show (0 : Int) ≤ d.fd by rw [h.fd]; decide) d.pid
      (toInt d.code) (received s d)
    have hbuffers := contributes_dsProcedure workers h.fd (received s d)
    have hnoReply := contributionOf_noReply workers d s.world.windows (received s d).buffer
    have hwindows : (received s d).world.windows = s.world.windows := rfl
    have hresponse : (received s d).nextResponse = s.nextResponse := rfl
    have hkept : (received s d).noReply = s.noReply := rfl
    rw [Contributes, hwindows, hnoReply, received_contribution workers s h, hresponse] at hbuffers
    rw [hkept] at hflag
    rw [if_neg hzero, flagAfter, if_neg hzero]
    generalize dsProcedure workers d.fd d.pid (toInt d.code) (received s d) = r at hflag hbuffers
    rw [← hflag]
    by_cases hno : r.2.noReply = true
    · dsimp only
      rw [if_pos hno, if_pos (Or.inr hno)]
    · have hallowed : (codeOf (toInt d.code)).bind noReplyOf ≠ some true := by
        intro hset
        rw [hset] at hflag
        exact hno hflag
      obtain ⟨hstatus, hnext, hbuffer⟩ := hbuffers hallowed
      have hneither : ¬ (d.code = 0 ∨ r.2.noReply = true) := not_or.mpr ⟨hzero, hno⟩
      dsimp only
      rw [if_neg hno, if_neg hneither, dsSendResponse_response, hstatus, hnext, hbuffer,
        responseType]

theorem composeResponse_word (buffer nextResponse : Memory) (type : ResponseType)
    (h : i < 8 ∨ 16 ≤ i ∧ i < 160) :
    composeResponse buffer nextResponse type i = nextResponse i := by
  rw [composeResponse, setWord_of_outside _ _ (by omega)]
  rcases h with hfirst | ⟨hlow, hhigh⟩
  · rw [blit_of_outside _ _ (by omega), blit_of_inside _ _ (Nat.zero_le i) (by omega)]
    rfl
  · rw [blit_of_inside _ _ hlow (by omega), Nat.add_sub_cancel' hlow]

theorem composeResponse_type (buffer buffer' nextResponse nextResponse' : Memory)
    (type : ResponseType) (h : 8 ≤ i ∧ i < 16) :
    composeResponse buffer nextResponse type i = composeResponse buffer' nextResponse' type i :=
  setWord_of_inside _ _ _ (by omega) (by omega)

theorem composeResponse_rest (buffer nextResponse : Memory) (type : ResponseType) (h : 160 ≤ i) :
    composeResponse buffer nextResponse type i = buffer i := by
  rw [composeResponse, setWord_of_outside _ _ (by omega), blit_of_outside _ _ (by omega),
    blit_of_outside _ _ (by omega)]

theorem received_inside (s : Server δ) (h : i < d.data.length) :
    (received s d).buffer i = d.data.getD i 0 :=
  blit_of_inside s.buffer (fun i => d.data.getD i 0) (Nat.zero_le i) (by omega)

theorem received_outside (s : Server δ) (h : d.data.length ≤ i) :
    (received s d).buffer i = s.buffer i :=
  blit_of_outside s.buffer (fun i => d.data.getD i 0) (Or.inr (by omega))

/-- What two servers have left agrees wherever a response of the contribution shows it: in the
words of `next_response` that the service does not fill, and in the message buffer behind the
request, unless the service cleans it. -/
def BuffersAgree (c : Contribution) (d : Delivery) (s s' : Server δ) : Prop :=
  (∀ i, i < 8 ∨ 16 ≤ i ∧ i < 160 → c.covers i = false → s.nextResponse i = s'.nextResponse i) ∧
    (c.cleans = false → ∀ i, d.data.length ≤ i → i < MSG_BUFFER_SIZE → s.buffer i = s'.buffer i)

/-- Two servers have left nothing different that the request brings to light: the flag, unless the
request sets it, and, if the request is answered, the buffers. -/
def LeftoversAgree (d : Delivery) (s s' : Server δ) : Prop :=
  d.code = 0 ∨
    (SetsNoReply (toInt d.code) ∨ s.noReply = s'.noReply) ∧
      (flagAfter d.code s.noReply = false →
        BuffersAgree (contributed workers d s.world.windows) d s s')

theorem composed_eq_iff (c : Contribution) (s s' : Server δ) (h : Arrives d) (type : ResponseType) :
    bytes (composeResponse (if c.cleans = true then clean else (received s d).buffer)
        (overlay c s.nextResponse) type) MSG_BUFFER_SIZE =
      bytes (composeResponse (if c.cleans = true then clean else (received s' d).buffer)
        (overlay c s'.nextResponse) type) MSG_BUFFER_SIZE ↔ BuffersAgree c d s s' := by
  have hsize := h.size
  rw [REQUEST_SIZE] at hsize
  have hmax : MSG_BUFFER_SIZE = 512 := rfl
  rw [bytes_eq_iff]
  constructor
  · intro hbytes
    refine ⟨fun i hi hcovers => ?_, fun hcleans i hlow hhigh => ?_⟩
    · have hbyte := hbytes i (by omega)
      rw [composeResponse_word _ _ _ hi, composeResponse_word _ _ _ hi, overlay, overlay,
        hcovers] at hbyte
      exact hbyte
    · have hbyte := hbytes i hhigh
      have hrest : 160 ≤ i := by omega
      rw [composeResponse_rest _ _ _ hrest, composeResponse_rest _ _ _ hrest, hcleans] at hbyte
      change (received s d).buffer i = (received s' d).buffer i at hbyte
      rwa [received_outside s hlow, received_outside s' hlow] at hbyte
  · rintro ⟨hresponse, hbuffer⟩ i hi
    by_cases htype : 8 ≤ i ∧ i < 16
    · exact composeResponse_type _ _ _ _ _ htype
    rcases Nat.lt_or_ge i 160 with hword | hrest
    · have hi : i < 8 ∨ 16 ≤ i ∧ i < 160 := by omega
      rw [composeResponse_word _ _ _ hi, composeResponse_word _ _ _ hi, overlay, overlay]
      cases hcovers : c.covers i with
      | true => rfl
      | false => exact hresponse i hi hcovers
    · rw [composeResponse_rest _ _ _ hrest, composeResponse_rest _ _ _ hrest]
      cases hcleans : c.cleans with
      | true => rfl
      | false =>
          change (received s d).buffer i = (received s' d).buffer i
          rcases Nat.lt_or_ge i d.data.length with hin | hout
          · rw [received_inside s hin, received_inside s' hin]
          · rw [received_outside s hout, received_outside s' hout]
            exact hbuffer hcleans i hout hi

theorem flagAfter_eq_iff {code : UInt64} (hne : code ≠ 0) (noReply noReply' : Bool) :
    flagAfter code noReply = flagAfter code noReply' ↔
      SetsNoReply (toInt code) ∨ noReply = noReply' := by
  rw [setsNoReply_iff, flagAfter, flagAfter, if_neg hne, if_neg hne]
  cases (codeOf (toInt code)).bind noReplyOf with
  | none =>
      refine ⟨Or.inr, ?_⟩
      rintro (⟨flag, hflag⟩ | heq)
      · cases hflag
      · exact heq
  | some flag => exact ⟨fun _ => Or.inl ⟨flag, rfl⟩, fun _ => rfl⟩

theorem response_eq_iff (hserver : workers.savedServerFd ≠ 31) {s' : Server δ}
    (hwindows : s.world.windows = s'.world.windows) (h : Arrives d) :
    response workers s d = response workers s' d ↔ LeftoversAgree workers d s s' := by
  rw [response_eq workers hserver s h, response_eq workers hserver s' h, LeftoversAgree, ← hwindows]
  by_cases hzero : d.code = 0
  · rw [if_pos (Or.inl hzero), if_pos (Or.inl hzero)]
    exact ⟨fun _ => Or.inl hzero, fun _ => rfl⟩
  rw [← flagAfter_eq_iff hzero]
  refine Iff.trans ?_ (or_iff_right hzero).symm
  have hbytes := composed_eq_iff (contributed workers d s.world.windows) s s' h
    (responseType d (contributed workers d s.world.windows).status)
  generalize flagAfter d.code s.noReply = flag
  generalize flagAfter d.code s'.noReply = flag'
  have hsilent : d.code = 0 ∨ true = true := Or.inr rfl
  have hanswered : ¬ (d.code = 0 ∨ false = true) := by
    rintro (hcode | hflag)
    · exact hzero hcode
    · cases hflag
  cases flag with
  | true =>
      rw [if_pos hsilent]
      cases flag' with
      | true =>
          rw [if_pos hsilent]
          exact ⟨fun _ => ⟨rfl, fun hflag => by cases hflag⟩, fun _ => rfl⟩
      | false =>
          rw [if_neg hanswered]
          exact ⟨fun heq => (by cases heq), fun hagree => (by cases hagree.1)⟩
  | false =>
      rw [if_neg hanswered]
      cases flag' with
      | true =>
          rw [if_pos hsilent]
          exact ⟨fun heq => (by cases heq), fun hagree => (by cases hagree.1)⟩
      | false =>
          rw [if_neg hanswered]
          constructor
          · intro heq
            exact ⟨rfl, fun _ => hbytes.mp (Option.some.inj heq)⟩
          · intro hagree
            exact congrArg some (hbytes.mpr (hagree.2 rfl))

theorem unanswered_nextResponse (s : Server δ) : (unanswered s).nextResponse = s.nextResponse := rfl

theorem serviceAsyncCommand_nextResponse (s : Server δ) :
    (serviceAsyncCommand workers s).nextResponse = s.nextResponse := by
  rw [serviceAsyncCommand]
  by_cases hcode : word s.buffer 1 ≠ .ofNat Code.asyncCommand.number
  · rw [if_pos hcode]
  · rw [if_neg hcode]
    by_cases hdone : word s.buffer 2 ∈ ASYNC_DONE
    · rw [if_pos hdone]
      rfl
    · rw [if_neg hdone]
      rfl

theorem serve_nextResponse {code : Code} (h : noReplyOf code ≠ some false) (clientFd : Int)
    (pid : Int32) (s : Server δ) :
    (serve workers clientFd pid s code).2.nextResponse = s.nextResponse := by
  cases code with
  | drawText =>
      change (serviceDrawText workers s).nextResponse = _
      rw [serviceDrawText]
      split
      split <;> rfl
  | asyncCommand =>
      rw [serve, unanswered_nextResponse, serviceAsyncCommand_nextResponse]
  | quit =>
      change (quitService s).nextResponse = _
      rw [quitService]
      split <;> rfl
  | _ => first | exact absurd rfl h | rfl

theorem dsProcedure_nextResponse (clientFd : Int) (pid msg : Int32) (s : Server δ)
    (h : (dsProcedure workers clientFd pid msg s).2.noReply = true) :
    (dsProcedure workers clientFd pid msg s).2.nextResponse = s.nextResponse := by
  rw [dsProcedure] at h ⊢
  split
  · rfl
  · rename_i hfd
    rw [if_neg hfd] at h
    split
    · rfl
    · rename_i hmsg
      rw [if_neg hmsg] at h
      cases hcode : codeOf msg with
      | none => rfl
      | some code =>
          rw [hcode] at h
          dsimp only at h
          rw [serve_noReply] at h
          refine serve_nextResponse workers (fun hset => ?_) clientFd pid s
          rw [hset] at h
          cases h

theorem dispacher_nextResponse {t : Server δ} {out : Outcome} (hclean : s.nextResponse = clean)
    (hsent : accepted d.writes = true) (hstep : dispacher workers s d = .ok (out, t)) :
    t.nextResponse = clean := by
  rw [dispacher] at hstep
  split at hstep
  · cases hstep
    exact hclean
  split at hstep
  · cases hstep
    exact hclean
  split at hstep
  · cases hstep
  split at hstep
  · cases hstep
  split at hstep
  · cases hstep
    exact hclean
  · have hprocessed : (processRequest workers d (received s d)).2.nextResponse = clean := by
      have hkept := dsProcedure_nextResponse workers d.fd d.pid
        (toInt (word (received s d).buffer 1)) (received s d)
      rw [processRequest]
      dsimp only
      split
      · exact hclean
      · generalize dsProcedure workers d.fd d.pid (toInt (word (received s d).buffer 1))
          (received s d) = r at hkept
        split
        · rename_i hno
          exact (hkept hno).trans hclean
        · rw [dsSendResponse, if_pos hsent]
          rfl
    have heq := Except.ok.inj hstep
    rw [heq] at hprocessed
    exact hprocessed

def EachSent (history : List Delivery) : Prop := ∀ d ∈ history, accepted d.writes = true

theorem run_nextResponse {start : Server δ} {history : List Delivery} {outs : List Outcome}
    (hclean : start.nextResponse = clean) (hsent : EachSent history)
    (hrun : runRequests workers start history = .ok (outs, s)) : s.nextResponse = clean := by
  have hguard : Run.Guarded (dispacher workers) (fun _ d => accepted d.writes = true) start
      history := Run.guarded_of_forall (fun d hd _ => hsent d hd) start
  exact Run.run_invariant (fun s => s.nextResponse = clean)
    (fun _ _ _ _ hs hd hstep => dispacher_nextResponse workers hs hd hstep) hclean hguard hrun

/-- Two histories that leave the same windows let a request be answered with the same bytes, if and
only if what else they leave agrees wherever the request shows it. It does for a request that sets
the flag and fills the message buffer, if both histories sent every response. -/
theorem reply_isolation_iff (hserver : workers.savedServerFd ≠ 31) {start s s' : Server δ}
    {history history' : List Delivery} {outs outs' : List Outcome}
    (hclean : start.nextResponse = clean)
    (hrun : runRequests workers start history = .ok (outs, s))
    (hrun' : runRequests workers start history' = .ok (outs', s'))
    (hwindows : s.world.windows = s'.world.windows) {d : Delivery} (h : Arrives d) :
    (response workers s d = response workers s' d ↔ LeftoversAgree workers d s s') ∧
      (EachSent history → EachSent history' → SetsNoReply (toInt d.code) →
        d.data.length = MSG_BUFFER_SIZE → LeftoversAgree workers d s s') := by
  refine ⟨response_eq_iff workers hserver hwindows h, fun hsent hsent' hsets hlength => ?_⟩
  refine Or.inr ⟨Or.inl hsets, fun _ => ⟨fun i _ _ => ?_, fun _ i hlow hhigh => ?_⟩⟩
  · rw [run_nextResponse workers hclean hsent hrun, run_nextResponse workers hclean hsent' hrun']
  · omega

def rootWindow : Window where
  toWindow := EventQueue.newWindow
  used := true
  type := 1
  absoluteX := 0
  absoluteY := 0
  width := 800
  height := 600
  rcClient := ⟨0, 0, 800, 600⟩
  textbufferSizeInBytes := 0
  windowText := none

def rootServer : Server Unit where
  noReply := false
  buffer := clean
  nextResponse := clean
  world := ⟨⟨fun i => if i = 0 then some rootWindow else none, 1⟩, false, ()⟩

def failedInfo : Delivery := { requestOf 9093 with writes := fun _ => -1 }

theorem arrives_failedInfo : Arrives failedInfo where
  fd := rfl
  action := rfl
  size := (arrives_requestOf 9093).size
  fits := (arrives_requestOf 9093).fits

theorem failedInfo_leaves :
    ∃ out s, runRequests idleWorkers rootServer [failedInfo] = .ok ([out], s) ∧
      s.world.windows = rootServer.world.windows ∧
      s.nextResponse = setWords clean (infoWords 0 rootWindow) := by
  have hcode : word (received rootServer failedInfo).buffer 1 = 9093 :=
    (received_word rootServer arrives_failedInfo (by decide)).trans (code_requestOf 9093)
  have hwid : word (received rootServer failedInfo).buffer 0 = 0 := by
    rw [received_word rootServer arrives_failedInfo (by decide)]
    decide +kernel
  have hservice : serviceGetWindowInfo (received rootServer failedInfo) =
      respond (cleanResponse (received rootServer failedInfo)) (infoWords 0 rootWindow) := by
    rw [serviceGetWindowInfo]
    rw [hcode, hwid]
    rfl
  have hserved : dsProcedure idleWorkers failedInfo.fd failedInfo.pid (toInt 9093)
      (received rootServer failedInfo) =
        (0, answered (serviceGetWindowInfo (received rootServer failedInfo))) := rfl
  have hstep : dispacher idleWorkers rootServer failedInfo =
      .ok (processRequest idleWorkers failedInfo (received rootServer failedInfo)) :=
    dispacher_arrives idleWorkers (by decide) rootServer arrives_failedInfo
  have hleft : (processRequest idleWorkers failedInfo (received rootServer failedInfo)).2.world =
        rootServer.world ∧
      (processRequest idleWorkers failedInfo (received rootServer failedInfo)).2.nextResponse =
        setWords clean (infoWords 0 rootWindow) := by
    rw [processRequest, hcode, if_neg (by decide), hserved, hservice]
    exact ⟨rfl, rfl⟩
  generalize processRequest idleWorkers failedInfo (received rootServer failedInfo) = r
    at hstep hleft
  refine ⟨r.1, r.2, ?_, by rw [hleft.1], hleft.2⟩
  rw [runRequests, Run.run, hstep]
  rfl

/-- The response to a `GWS_RefreshRectangle` of one client carries the signature that an unsent
response to another client had. -/
theorem unsent_response_leaks :
    ∃ out s, runRequests idleWorkers rootServer [failedInfo] = .ok ([out], s) ∧
      s.world.windows = rootServer.world.windows ∧
      response idleWorkers s (requestOf 2021) ≠
        response idleWorkers rootServer (requestOf 2021) := by
  obtain ⟨out, s, hrun, hwindows, hleft⟩ := failedInfo_leaves
  refine ⟨out, s, hrun, hwindows, fun heq => ?_⟩
  rcases (response_eq_iff idleWorkers (by decide) hwindows (arrives_requestOf 2021)).mp heq with
    hzero | ⟨_, hagree⟩
  · rw [code_requestOf] at hzero
    cases hzero
  · have hflag : flagAfter (requestOf 2021).code s.noReply = false := by
      rw [code_requestOf]
      exact (flagAfter_of_sets rfl s.noReply).2
    have hbyte := (hagree hflag).1 16 (by decide) (by
      have hfound : codeOf (toInt (requestOf 2021).code) = some .refreshRectangle := by
        rw [code_requestOf]
        decide
      rw [contributed, contributionOf, hfound]
      unfold contribution
      dsimp only
      split <;> rfl)
    rw [hleft] at hbyte
    revert hbyte
    decide +kernel

theorem reply_isolation_iff_info :
    ∃ outs s, runRequests idleWorkers rootServer [failedInfo] = .ok (outs, s) ∧
      (response idleWorkers s (requestOf 2021) = response idleWorkers rootServer (requestOf 2021) ↔
        LeftoversAgree idleWorkers (requestOf 2021) s rootServer) := by
  obtain ⟨out, s, hrun, hwindows, _⟩ := failedInfo_leaves
  exact ⟨[out], s, hrun, (reply_isolation_iff idleWorkers (by decide) rfl hrun
    (show runRequests idleWorkers rootServer [] = .ok ([], rootServer) from rfl) hwindows
    (arrives_requestOf 2021)).1⟩

end Gramado.Ds.ReplyIsolation
