import Gramado.Gws.Wire

/-! The text of an editbox on its way from a client to the server and back. -/

namespace Gramado.Gws.WindowText

open Library.ByteMemory Ds.Protocol Ds.Services Ds.Dispatcher Ds.ReplyIsolation Gws.Client Gws.Wire

def TEXT_SIZE_FOR_SINGLE_LINE : Nat := 128
def TEXT_SIZE_FOR_MULTIPLE_LINE : Nat := 256

/-- The text buffer that `CreateWindow` gives to an editbox. -/
def createTextBuffer (malloc : Nat → Option (Nat → UInt8)) (w : Window) : Window :=
  let text_size :=
    if w.type = WT_EDITBOX then TEXT_SIZE_FOR_SINGLE_LINE else TEXT_SIZE_FOR_MULTIPLE_LINE
  match malloc text_size with
  | none => { w with textbufferSizeInBytes := 0, windowText := none }
  | some text =>
      { w with
        textbufferSizeInBytes := text_size
        windowText := some (blit text 0 text_size fun _ => 0) }

/-- The text buffer after `serviceSetText`; `buf` is the text of the request. -/
def injectText (buf : Nat → UInt8) (text : Nat → UInt8) : Nat → UInt8 :=
  let text := blit text 0 64 fun _ => 0
  fun i => if i < 64 ∧ buf i ≠ 0 then buf i else text i

def setWindowText (windows : Windows) (wid : Int32) (w : Window) (text : Nat → UInt8) : Windows :=
  { windows with
    windowList := Function.update windows.windowList wid.toInt.toNat
      (some { w with windowText := some text }) }

def serviceSetText (buffer : Memory) (windows : Windows) : Windows :=
  let wid := toInt (word buffer 4) &&& 0xFFFF
  let buf := fun i => if i < 256 then buffer (8 * 8 + i) else 0
  match windowAt windows wid with
  | none => windows
  | some w =>
      if w.type ≠ WT_EDITBOX_SINGLE_LINE ∧ w.type ≠ WT_EDITBOX_MULTIPLE_LINES then windows
      else if w.textbufferSizeInBytes < 64 then windows
      else
        match w.windowText with
        | none => windows
        | some text => setWindowText windows wid w (injectText buf text)

variable {δ : Type}

/-- The workers of a server, with the one for `GWS_SetText`. -/
def withSetText (workers : Workers δ) : Workers δ :=
  { workers with
    perform := fun code request world =>
      if code = .setText then
        { world with windows := serviceSetText (fun i => request.getD i 0) world.windows }
      else workers.perform code request world }

def settextWords (call : TextCall) : List (Nat × UInt64) :=
  [(0, 0), (1, 2240), (2, 0), (3, 0), (4, toLong call.window), (5, call.x), (6, call.y),
    (7, (call.color &&& 0xFFFFFFFF).toUInt64)]

def gettextWords (call : TextCall) : List (Nat × UInt64) :=
  [(0, 0), (1, 2241), (2, 0), (3, 0), (4, toLong call.window), (5, call.x), (6, call.y),
    (7, (call.color &&& 0xFFFFFFFF).toUInt64)]

/-- `__gws_settext_request`: what was in the packet behind the string stays there. -/
def settextRequest (packet : Memory) (call : TextCall) : Memory :=
  let StringLenght := min call.string.length 250
  let packet := setWords packet (settextWords call)
  let packet := blit packet (8 * 8) StringLenght fun i => call.string.getD i 0
  blit packet (8 * 8 + StringLenght) 1 fun _ => 0

/-- The request that `gws_set_text` sends, if it sends one. -/
def gwsSetText (fd : Int) (packet : Memory) (call : TextCall) : Option Memory :=
  if fd < 0 then none
  else if call.window < 0 then none
  else if call.string = [] then none
  else some (settextRequest packet call)

/-- The request that `gws_get_text` sends, if it sends one. The buffer of the client is `call`'s
string for it. -/
def gwsGetText (fd : Int) (packet : Memory) (call : TextCall) (string : Memory) : Option Memory :=
  if fd < 0 then none
  else if call.window < 0 then none
  else if string 0 = 0 then none
  else some (setWords packet (gettextWords call))

/-- `__gws_gettext_response`: the local buffer with the text, or NULL. -/
def gettextResponse (packet : Memory) : Option (Nat → UInt8) :=
  if toInt (word packet 1) ≠ toInt SERVER_PACKET_TYPE_REPLY then none
  else some fun i => if i < 256 then packet (8 * 8 + i) else 0

def takeText (string : Memory) (response : Option (Nat → UInt8)) : Memory :=
  match response with
  | none => string
  | some p => blit string 0 64 p

/-- The kernel brings every packet to the server and every response to the client. -/
structure Delivers (deliver : Memory → Delivery) : Prop where
  arrives : ∀ packet, Arrives (deliver packet)
  data : ∀ packet, (deliver packet).data = bytes packet MSG_BUFFER_SIZE
  accepted : ∀ packet, accepted (deliver packet).writes = true

/-- `gws_set_text`, on a server that takes the request at once. -/
def setText (workers : Workers δ) (deliver : Memory → Delivery) (fd : Int) (packet : Memory)
    (call : TextCall) (s : Server δ) : Except String (Server δ) :=
  match gwsSetText fd packet call with
  | none => .ok s
  | some request =>
      match dispacher workers s (deliver request) with
      | .error message => .error message
      | .ok (outcome, t) =>
          if outcome.action = .null then .ok t else .error "gws_set_text: waiting"

/-- `gws_get_text`: the buffer of the client and the server behind the call. -/
def getText (workers : Workers δ) (deliver : Memory → Delivery) (fd : Int) (packet : Memory)
    (call : TextCall) (string : Memory) (s : Server δ) : Except String (Memory × Server δ) :=
  match gwsGetText fd packet call string with
  | none => .ok (string, s)
  | some request =>
      match dispacher workers s (deliver request) with
      | .error message => .error message
      | .ok (outcome, t) =>
          match outcome.action, outcome.response with
          | .null, _ => .ok (string, t)
          | .reply, some reply =>
              .ok (takeText string (gettextResponse fun i => reply.getD i 0), t)
          | _, _ => .error "gws_get_text: waiting"

def BeginsWith (buffer : Nat → UInt8) (string : List UInt8) : Prop :=
  (∀ i < string.length, buffer i = string.getD i 0) ∧ buffer string.length = 0

structure Editbox (w : Window) (text : Nat → UInt8) : Prop where
  type : w.type = WT_EDITBOX_SINGLE_LINE ∨ w.type = WT_EDITBOX_MULTIPLE_LINES
  size : 64 ≤ w.textbufferSizeInBytes
  text : w.windowText = some text

structure Text (string : List UInt8) : Prop where
  ne_nil : string ≠ []
  fits : string.length ≤ 63
  chars : ∀ c ∈ string, c ≠ 0

variable {buffer string : Memory} {i : Nat} {fd : Int}

theorem Editbox.setText {w : Window} {text : Nat → UInt8} (h : Editbox w text)
    (text' : Nat → UInt8) : Editbox { w with windowText := some text' } text' :=
  ⟨h.type, h.size, rfl⟩

section Server

variable {w : Window} {text : Nat → UInt8} {windows : Windows} {wid : Int32} {string : List UInt8}

theorem serviceSetText_eq (hbox : Editbox w text) (hwid : toInt (word buffer 4) &&& 0xFFFF = wid)
    (hw : windowAt windows wid = some w) :
    serviceSetText buffer windows = setWindowText windows wid w
      (injectText (fun i => if i < 256 then buffer (8 * 8 + i) else 0) text) := by
  have htype : ¬ (w.type ≠ WT_EDITBOX_SINGLE_LINE ∧ w.type ≠ WT_EDITBOX_MULTIPLE_LINES) :=
    fun hne => hbox.type.elim hne.1 hne.2
  have hsize := hbox.size
  rw [serviceSetText, hwid, hw]
  dsimp only
  rw [if_neg htype, if_neg (by omega), hbox.text]

theorem windowAt_setWindowText (hw : windowAt windows wid = some w) (text' : Nat → UInt8) :
    windowAt (setWindowText windows wid w text') wid = some { w with windowText := some text' } := by
  rw [windowAt] at hw ⊢
  split at hw
  · cases hw
  · rename_i hrange
    rw [if_neg hrange]
    simp only [setWindowText, Function.update_self]
    split at hw
    · cases hw
    · split at hw
      · rename_i hmagic
        obtain rfl := Option.some.inj hw
        exact if_pos hmagic
      · cases hw

theorem beginsWith_injectText {buf : Nat → UInt8} (h : BeginsWith buf string)
    (hfits : string.length ≤ 63) (text : Nat → UInt8) :
    BeginsWith (injectText buf text) string := by
  have hinside : ∀ i < 64, injectText buf text i = buf i := by
    intro i hi
    rw [injectText]
    dsimp only
    by_cases hzero : buf i = 0
    · rw [if_neg fun hne => hne.2 hzero, blit_of_inside _ _ (Nat.zero_le i) (by omega), hzero]
    · rw [if_pos ⟨hi, hzero⟩]
  constructor
  · intro i hi
    rw [hinside i (by omega), h.1 i hi]
  · rw [hinside _ (by omega), h.2]

theorem serviceSetText_congr {buffer' : Memory} (h : ∀ i < REQUEST_SIZE, buffer i = buffer' i)
    (windows : Windows) :
    serviceSetText buffer windows = serviceSetText buffer' windows := by
  have hbuf : (fun i => if i < 256 then buffer (8 * 8 + i) else 0) =
      fun i => if i < 256 then buffer' (8 * 8 + i) else 0 := by
    funext i
    split
    · exact h _ (by rw [REQUEST_SIZE]; omega)
    · rfl
  rw [serviceSetText, serviceSetText, word_eq_of_request h (show 4 < 46 by decide), hbuf]

theorem dispacher_setText (workers : Workers δ) (hserver : workers.savedServerFd ≠ 31)
    (s : Server δ) {d : Delivery} (h : Arrives d) (hcode : d.code = 2240) :
    ∃ t, dispacher (withSetText workers) s d = .ok (⟨.null, none, false⟩, t) ∧
      t.world.windows = serviceSetText (received s d).buffer s.world.windows := by
  have hword : word (received s d).buffer 1 = 2240 := by
    rw [← hcode]
    exact received_word s h (by decide)
  have hserved : dsProcedure (withSetText workers) d.fd d.pid (toInt 2240) (received s d) =
      (0, unanswered (performed (withSetText workers) .setText (received s d))) := by
    rw [dsProcedure, h.fd, if_neg (by decide), if_neg (by decide),
      show codeOf (toInt 2240) = some .setText by decide]
    rfl
  refine ⟨unanswered (performed (withSetText workers) .setText (received s d)), ?_, ?_⟩
  · have hserver' : (withSetText workers).savedServerFd ≠ 31 := hserver
    rw [dispacher_arrives _ hserver' s h, processRequest, hword, if_neg (by decide), hserved]
    rfl
  · apply serviceSetText_congr
    intro i hi
    exact getD_bytes _ hi

end Server

section Packets

variable {call : TextCall} {packet : Memory}

theorem settextRequest_word (packet : Memory) (call : TextCall) (hi : i < 8) :
    word (settextRequest packet call) i = word (setWords packet (settextWords call)) i := by
  refine word_congr fun k _ hk => ?_
  rw [settextRequest, blit_of_outside _ _ (by omega), blit_of_outside _ _ (by omega)]

theorem beginsWith_settextRequest (packet : Memory) (h : Text call.string) :
    BeginsWith (fun i => settextRequest packet call (8 * 8 + i)) call.string := by
  have hfits := h.fits
  have hlength : min call.string.length 250 = call.string.length := by omega
  constructor
  · intro i hi
    simp only [settextRequest, hlength]
    rw [blit_of_outside _ _ (by omega), blit_of_inside _ _ (by omega) (by omega)]
    simp
  · simp only [settextRequest, hlength]
    rw [blit_of_inside _ _ (by omega) (by omega)]

theorem gwsSetText_some (hfd : 0 ≤ fd) (hwindow : 0 ≤ call.window) (h : Text call.string)
    (packet : Memory) :
    gwsSetText fd packet call = some (settextRequest packet call) := by
  rw [gwsSetText, if_neg (by omega), if_neg (Int32.not_lt.mpr hwindow), if_neg h.ne_nil]

theorem gwsGetText_some (hfd : 0 ≤ fd) (hwindow : 0 ≤ call.window) (h : string 0 ≠ 0)
    (packet : Memory) :
    gwsGetText fd packet call string = some (setWords packet (gettextWords call)) := by
  rw [gwsGetText, if_neg (by omega), if_neg (Int32.not_lt.mpr hwindow), if_neg h]

end Packets

section Exchange

variable {workers : Workers δ} {deliver : Memory → Delivery} {fd : Int} {call : TextCall}
  {s : Server δ} {w : Window} {text : Nat → UInt8}

theorem code_deliver (hdeliver : Delivers deliver) (packet : Memory) :
    (deliver packet).code = word packet 1 := by
  rw [Delivery.code, hdeliver.data]
  exact word_bytes packet (by decide)

theorem word_received (hdeliver : Delivers deliver) (s : Server δ) (packet : Memory) (hi : i < 46) :
    word (received s (deliver packet)).buffer i = word packet i := by
  rw [received_word s (hdeliver.arrives packet) hi, hdeliver.data]
  exact word_bytes packet (by omega)

theorem setText_spec (hserver : workers.savedServerFd ≠ 31) (hdeliver : Delivers deliver)
    (hfd : 0 ≤ fd) (hwindow : 0 ≤ call.window) (hmask : call.window &&& 0xFFFF = call.window)
    (htext : Text call.string) (hw : windowAt s.world.windows call.window = some w)
    (hbox : Editbox w text) (packet : Memory) :
    ∃ t text', setText (withSetText workers) deliver fd packet call s = .ok t ∧
      BeginsWith text' call.string ∧
      t.world.windows = setWindowText s.world.windows call.window w text' := by
  have hfits := htext.fits
  have hcode : (deliver (settextRequest packet call)).code = 2240 := by
    rw [code_deliver hdeliver, settextRequest_word packet call (by decide)]
    simp (disch := decide) only [settextWords, setWords, word_setWord, word_setWord_of_ne]
  have hwid : toInt (word (received s (deliver (settextRequest packet call))).buffer 4) &&& 0xFFFF =
      call.window := by
    rw [word_received hdeliver s _ (by decide), settextRequest_word packet call (by decide)]
    simp (disch := decide) only [settextWords, setWords, word_setWord, word_setWord_of_ne,
      toInt_toLong, hmask]
  obtain ⟨t, hstep, hwindows⟩ := dispacher_setText workers hserver s
    (hdeliver.arrives (settextRequest packet call)) hcode
  rw [serviceSetText_eq hbox hwid hw] at hwindows
  refine ⟨t, _, ?_, beginsWith_injectText ?_ hfits text, hwindows⟩
  · rw [setText, gwsSetText_some hfd hwindow htext]
    dsimp only
    rw [hstep]
    exact if_pos rfl
  · have hbegins := beginsWith_settextRequest packet htext
    have hsame : ∀ i < 64, (if i < 256 then
        (received s (deliver (settextRequest packet call))).buffer (8 * 8 + i) else 0) =
        settextRequest packet call (8 * 8 + i) := by
      intro i hi
      rw [if_pos (by omega)]
      exact received_packet s (hdeliver.data _) (by rw [MSG_BUFFER_SIZE]; omega)
    constructor
    · intro i hi
      exact (hsame i (by omega)).trans (hbegins.1 i hi)
    · exact (hsame _ (by omega)).trans hbegins.2

theorem gettextResponse_of_text {reply : Memory} (htype : word reply 1 = SERVER_PACKET_TYPE_REPLY)
    (htext : ∀ i < 64, reply (8 * 8 + i) = text i) (string : Memory) :
    ∀ i < 64, takeText string (gettextResponse reply) i = text i := by
  intro i hi
  rw [gettextResponse, htype, if_neg (by decide), takeText, blit_of_inside _ _ (Nat.zero_le i)
    (by omega), Nat.sub_zero, if_pos (by omega), htext i hi]

theorem getText_spec (hserver : workers.savedServerFd ≠ 31) (hdeliver : Delivers deliver)
    (hfd : 0 ≤ fd) (hwindow : 0 ≤ call.window) (hmask : call.window &&& 0xFFFF = call.window)
    (hstring : string 0 ≠ 0) (hw : windowAt s.world.windows call.window = some w)
    (hbox : Editbox w text) (packet : Memory) :
    ∃ string' t, getText workers deliver fd packet call string s = .ok (string', t) ∧
      ∀ i < 64, string' i = text i := by
  generalize hrequest : setWords packet (gettextWords call) = request
  have hword : ∀ i, word request i = word (setWords packet (gettextWords call)) i := by
    intro i
    rw [hrequest]
  have hcode : (deliver request).code = 2241 := by
    rw [code_deliver hdeliver, hword]
    simp (disch := decide) only [gettextWords, setWords, word_setWord, word_setWord_of_ne]
  have hwid : toInt (word (fun k => (deliver request).data.getD k 0) 4) &&& 0xFFFF =
      call.window := by
    rw [hdeliver.data, word_bytes _ (by decide), hword]
    simp (disch := decide) only [gettextWords, setWords, word_setWord, word_setWord_of_ne,
      toInt_toLong, hmask]
  have hcontributed : contributed workers (deliver request) s.world.windows =
      withText (partly (textHeader call.window)) text := by
    have hfound : codeOf (toInt (deliver request).code) = some .getText := by
      rw [hcode]
      decide
    rw [contributed, contributionOf, hfound]
    simp only [contribution, hwid, hw]
    have htype : ¬ (w.type ≠ WT_EDITBOX ∧ w.type ≠ WT_EDITBOX_MULTIPLE_LINES) :=
      fun hne => hbox.type.elim hne.1 hne.2
    have hsize := hbox.size
    rw [textContribution, if_neg htype, if_neg (by omega), hbox.text]
  obtain ⟨outcome, t, hstep, -, -, hanswer⟩ := dispacher_outcome workers hserver s
    (hdeliver.arrives request) (hdeliver.accepted request)
  have hflag : flagAfter 2241 s.noReply = false := (flagAfter_of_sets rfl s.noReply).2
  rw [hcode, hflag] at hanswer
  have haction : outcome.action = .reply := (hanswer (by decide)).2
  have hreply := response_eq workers hserver s (hdeliver.arrives request)
  rw [if_neg (by rw [hcode, hflag]; decide), hcontributed, response, hstep] at hreply
  dsimp only at hreply
  have htype : responseType (deliver request) 0 = .RESPONSE_IS_REPLY := by
    rw [responseType, hcode]
    rfl
  rw [show (withText (partly (textHeader call.window)) text).status = 0 from rfl, htype] at hreply
  generalize (if (withText (partly (textHeader call.window)) text).cleans = true then clean
    else (received s (deliver request)).buffer) = buffer at hreply
  generalize hbytes : bytes _ MSG_BUFFER_SIZE = reply at hreply
  refine ⟨takeText string (gettextResponse fun i => reply.getD i 0), t, ?_, ?_⟩
  · rw [getText, gwsGetText_some hfd hwindow hstring, hrequest]
    dsimp only
    rw [hstep]
    dsimp only
    rw [haction, hreply]
  · rw [← hbytes]
    apply gettextResponse_of_text
    · rw [word_bytes _ (by decide), composeResponse, word_setWord]
      rfl
    · intro i hi
      rw [getD_bytes _ (by rw [MSG_BUFFER_SIZE]; omega), composeResponse_word _ _ _ (by omega),
        overlay, if_pos (by simp [withText]; omega), withText]
      dsimp only
      rw [blit_of_outside _ _ (by omega), blit_of_inside _ _ (by omega) (by omega),
        Nat.add_sub_cancel_left]

theorem window_masked {windows : Windows} {wid : Int32} (hw : windowAt windows wid = some w) :
    0 ≤ wid ∧ wid &&& 0xFFFF = wid := by
  have hrange : ¬ (wid.toInt < 0 ∨ (Ds.EventQueue.WINDOW_COUNT_MAX : Int) ≤ wid.toInt) := by
    intro hout
    rw [windowAt, if_pos hout] at hw
    cases hw
  rw [Ds.EventQueue.WINDOW_COUNT_MAX] at hrange
  have hsmall : wid.toBitVec.toNat < 2 ^ 16 := by
    have hlow : 0 ≤ wid.toBitVec.toInt := by
      have hpos : ¬ wid.toInt < 0 := fun h => hrange (.inl h)
      exact Int.not_lt.mp hpos
    have hhigh : wid.toBitVec.toInt < 1024 := by
      have hlt : ¬ (1024 : Int) ≤ wid.toInt := fun h => hrange (.inr h)
      exact Int.not_le.mp hlt
    rw [BitVec.toInt_eq_toNat_cond] at hlow hhigh
    split at hlow
    · omega
    · omega
  refine ⟨Int32.le_iff_toInt_le.mpr ?_, ?_⟩
  · have hpos : ¬ wid.toInt < 0 := fun h => hrange (.inl h)
    exact Int.not_lt.mp hpos
  · apply Int32.toBitVec_inj.mp
    apply BitVec.eq_of_toNat_eq
    rw [Int32.toBitVec_and, BitVec.toNat_and]
    exact (Nat.and_two_pow_sub_one_eq_mod wid.toBitVec.toNat 16).trans (Nat.mod_eq_of_lt hsmall)

def RoundTrip (workers : Workers δ) (deliver : Memory → Delivery) (fd : Int) (s : Server δ)
    (setCall getCall : TextCall) (packet packet' string : Memory) : Prop :=
  ∃ t string' u, setText (withSetText workers) deliver fd packet setCall s = .ok t ∧
    getText (withSetText workers) deliver fd packet' getCall string t = .ok (string', u) ∧
    BeginsWith string' setCall.string

/-- What is set in an editbox is what a client gets whose buffer does not begin with the end of a
string. An empty text is not set. -/
theorem text_round_trip (workers : Workers δ) (hserver : workers.savedServerFd ≠ 31)
    (deliver : Memory → Delivery) (hdeliver : Delivers deliver) (s : Server δ) (fd : Int)
    (hfd : 0 ≤ fd) (setCall getCall : TextCall) (hwindow : getCall.window = setCall.window)
    (hfits : setCall.string.length ≤ 63) (hchars : ∀ c ∈ setCall.string, c ≠ 0) (w : Window)
    (text : Nat → UInt8) (hw : windowAt s.world.windows setCall.window = some w)
    (hbox : Editbox w text) (packet packet' string : Memory) (hstring : string 0 ≠ 0) :
    (setCall.string ≠ [] → RoundTrip workers deliver fd s setCall getCall packet packet' string) ∧
      (setCall.string = [] → setText (withSetText workers) deliver fd packet setCall s = .ok s ∧
        ∃ string' u, getText (withSetText workers) deliver fd packet' getCall string s =
          .ok (string', u) ∧ ∀ i < 64, string' i = text i) := by
  have hserver' : (withSetText workers).savedServerFd ≠ 31 := hserver
  obtain ⟨hpos, hmask⟩ := window_masked hw
  constructor
  · intro hne
    obtain ⟨t, text', hset, hbegins, hwindows⟩ := setText_spec hserver hdeliver hfd hpos hmask
      ⟨hne, hfits, hchars⟩ hw hbox packet
    have hw' : windowAt t.world.windows getCall.window = some { w with windowText := some text' } := by
      rw [hwindows, hwindow]
      exact windowAt_setWindowText hw text'
    obtain ⟨string', u, hget, hsame⟩ := getText_spec hserver' hdeliver hfd
      (hwindow ▸ hpos) (hwindow ▸ hmask) hstring hw' (hbox.setText text') packet'
    refine ⟨t, string', u, hset, hget, ?_, ?_⟩
    · intro i hi
      rw [hsame i (by omega), hbegins.1 i hi]
    · rw [hsame _ (by omega), hbegins.2]
  · intro hnil
    constructor
    · rw [setText, gwsSetText, if_neg (by omega), if_neg (Int32.not_lt.mpr hpos), if_pos hnil]
    · exact getText_spec hserver' hdeliver hfd (hwindow ▸ hpos) (hwindow ▸ hmask) hstring
        (hwindow ▸ hw) hbox packet'

end Exchange

section Desk

def editWindow : Window :=
  { rootWindow with
    type := WT_EDITBOX
    textbufferSizeInBytes := 128
    windowText := some fun i => [72, 105].getD i 0 }

def editServer : Server Unit :=
  { rootServer with world := ⟨⟨fun i => if i = 0 then some editWindow else none, 1⟩, false, ()⟩ }

def blanks : Memory := fun _ => 32

def callWith (string : List UInt8) : TextCall := { textCall with window := 0, string := string }

theorem delivers_delivering : Delivers delivering where
  arrives := fun packet => {
    fd := rfl
    action := rfl
    size := by
      rw [delivering_data, bytes_length]
      decide
    fits := by rw [delivering_data, bytes_length] }
  data := delivering_data
  accepted := fun _ => rfl

theorem editbox_editWindow : Editbox editWindow fun i => [72, 105].getD i 0 :=
  ⟨.inl rfl, by decide, rfl⟩

theorem text_round_trip_desk : RoundTrip idleWorkers delivering 5 editServer (callWith [79, 107])
    (callWith []) clean clean blanks :=
  (text_round_trip idleWorkers (by decide) delivering delivers_delivering editServer 5 (by decide)
    (callWith [79, 107]) (callWith []) rfl (by decide) (by simp [callWith]) editWindow _ rfl
    editbox_editWindow clean clean blanks (by decide)).1 (by decide)

/-- The editbox keeps its text when an empty one is set. -/
theorem empty_text_kept : ¬ RoundTrip idleWorkers delivering 5 editServer (callWith [])
    (callWith []) clean clean blanks := by
  rintro ⟨t, string', u, hset, hget, hbegins⟩
  have hkept : setText (withSetText idleWorkers) delivering 5 clean (callWith []) editServer =
      .ok editServer := rfl
  rw [hkept] at hset
  obtain rfl := Except.ok.inj hset
  have hspec : ∃ string' u, getText (withSetText idleWorkers) delivering 5 clean (callWith [])
      blanks editServer = .ok (string', u) ∧ ∀ i < 64, string' i = [72, 105].getD i 0 :=
    getText_spec (by decide) delivers_delivering (by decide) (by decide) (by decide) (by decide) rfl
      editbox_editWindow clean
  obtain ⟨string₁, u₁, hget₁, hsame⟩ := hspec
  rw [hget₁] at hget
  obtain ⟨rfl, rfl⟩ := Prod.mk.inj (Except.ok.inj hget)
  have hfirst := hsame 0 (by decide)
  rw [show string₁ 0 = 0 from hbegins.2] at hfirst
  simp at hfirst

end Desk

end Gramado.Gws.WindowText
