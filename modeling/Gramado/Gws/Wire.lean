import Gramado.Gws.Client
import Gramado.Ds.ReplyIsolation

/-! What the server takes out of a request, against what the client put into it, and the other way
round. -/

namespace Gramado.Gws.Wire

open Library.ByteMemory Ds.Protocol Ds.Services Ds.Dispatcher Ds.ReplyIsolation Gws.Client

/-- The server has the arguments of the call, up to the masks of the protocol. -/
structure TakesCreate (call : CreateCall) (args : CreateArgs) : Prop where
  status : args.status = call.status &&& 0xFFFFFFFF
  state : args.state = call.state &&& 0xFFFFFFFF
  x : args.x = call.x &&& 0xFFFF
  y : args.y = call.y &&& 0xFFFF
  w : args.w = call.width &&& 0xFFFF
  h : args.h = call.height &&& 0xFFFF
  color : args.color = call.color &&& 0x00FFFFFF
  type : args.type = call.type &&& 0xFFFF
  pwid : args.pwid = call.parentwindow &&& 0xFFFF
  style : args.style = call.style
  clientPid : args.clientPid = call.clientPid &&& 0xFFFF
  clientTid : args.clientTid = call.clientTid &&& 0xFFFF
  name : cString args.data = call.windowname

structure TakesText (call : TextCall) (args : TextArgs) : Prop where
  window : args.windowId = call.window &&& 0xFFFF
  x : args.x = call.x &&& 0xFFFF
  y : args.y = call.y &&& 0xFFFF
  color : args.color = call.color
  text : cString args.buf = call.string

/-- The client has the position and the size of the window and of its client area. -/
structure TakesInfo (w : Window) (info : WindowInfo) : Prop where
  left : info.left = w.absoluteX
  top : info.top = w.absoluteY
  width : info.width = w.width
  height : info.height = w.height
  crLeft : info.crLeft = w.rcClient.left
  crTop : info.crTop = w.rcClient.top
  crWidth : info.crWidth = w.rcClient.width
  crHeight : info.crHeight = w.rcClient.height

/-- A string that a request can carry: it is not empty, it has no end inside, and its `%` come in
pairs. -/
structure Carried (string : List UInt8) (room : Nat) : Prop where
  ne_nil : string ≠ []
  fits : string.length ≤ room
  chars : ∀ c ∈ string, c ≠ 0
  paired : Paired string

variable {δ : Type}

variable {d : Delivery} {packet : Memory} {i room : Nat} {string : List UInt8} {call : CreateCall}
  {wid : Int32} {w : Window}

theorem received_packet (s : Server δ) (h : d.data = bytes packet MSG_BUFFER_SIZE)
    (hi : i < MSG_BUFFER_SIZE) :
    (received s d).buffer i = packet i := by
  have hlength : i < d.data.length := by rwa [h, bytes_length]
  rw [received_inside s hlength, h, getD_bytes _ hi]

theorem received_request (s : Server δ) (h : d.data = bytes packet MSG_BUFFER_SIZE) :
    ∀ i < REQUEST_SIZE, (received s d).buffer i = packet i := by
  intro i hi
  rw [REQUEST_SIZE] at hi
  exact received_packet s h (by rw [MSG_BUFFER_SIZE]; omega)

theorem cString_putString (ap : VaList) (packet : Memory) {behind : List UInt8} {offset n : Nat}
    (h : Carried string room) (hn : room ≤ n) :
    cString ((List.range n).map (fun i => putString packet offset room string.length
      (printed ap string behind) (offset + i)) ++ [0]) = string := by
  have hfits := h.fits
  have hchar : ∀ i < string.length, putString packet offset room string.length
      (printed ap string behind) (offset + i) = string.getD i 0 := by
    intro i hi
    rw [putString_char packet _ hi, printed_paired ap behind h.paired h.chars]
  apply cString_eq h.chars
  · have hlength : string.length ≤ ((List.range n).map fun i => putString packet offset room
        string.length (printed ap string behind) (offset + i)).length := by
      rw [List.length_map, List.length_range]
      omega
    rw [List.take_append_of_le_length hlength]
    apply List.ext_getElem
    · rw [List.length_take, Nat.min_eq_left hlength]
    · intro i hi hi'
      rw [List.getElem_take, List.getElem_map, List.getElem_range, hchar i hi',
        List.getD_eq_getElem _ _ hi']
  · rcases Nat.lt_or_ge string.length n with hlt | hge
    · rw [List.getElem?_append_left (by simpa using hlt), List.getElem?_map,
        List.getElem?_range hlt]
      exact congrArg some (putString_end packet offset room string.length _)
    · rw [List.getElem?_append_right (by simpa using hge)]
      simp [show string.length = n by omega]

theorem length_ne_zero (h : Carried string room) : string.length ≠ 0 :=
  fun hzero => h.ne_nil (List.length_eq_zero_iff.mp hzero)

theorem createwindowRequest_some (ap : VaList) (behind : List UInt8)
    (h : Carried call.windowname 250) :
    ∃ packet, createwindowRequest ap behind call = some packet := by
  have hfits := h.fits
  rw [createwindowRequest, if_neg (length_ne_zero h), if_neg (by omega)]
  exact ⟨_, rfl⟩

theorem takesCreate (ap : VaList) (behind : List UInt8) (h : Carried call.windowname 250)
    (hpacket : createwindowRequest ap behind call = some packet) :
    TakesCreate call (decodeCreateWindow packet) := by
  have hfits := h.fits
  rw [createwindowRequest, if_neg (length_ne_zero h), if_neg (by omega)] at hpacket
  have hpacket := Option.some.inj hpacket
  have hword : ∀ i < 14, word packet i = word (setWords clean (createWords call)) i := by
    intro i hi
    rw [← hpacket]
    exact word_putString _ _ (by omega)
  have hname : cString ((List.range 255).map (fun i => packet (8 * 14 + i)) ++ [0]) =
      call.windowname := by
    rw [← hpacket]
    exact cString_putString ap _ h (by decide)
  have hshort : ∀ v : UInt64, v &&& 0xFFFF &&& 0xFFFF = v &&& 0xFFFF := by
    intro v
    rw [UInt64.and_assoc]
    rfl
  have htype : ∀ v : UInt64, v &&& 0xFFFFFFFF &&& 0xFFFF = v &&& 0xFFFF := by
    intro v
    rw [UInt64.and_assoc]
    rfl
  have hcolor : ∀ v : UInt32,
      ((v &&& 0xFFFFFFFF).toUInt64 &&& 0x00FFFFFF).toUInt32 = v &&& 0x00FFFFFF := by
    intro v
    rw [UInt64.toUInt32_and, UInt32.toUInt32_toUInt64, UInt32.and_assoc]
    rfl
  have hid : ∀ v : Int32, toInt (toLong v &&& 0xFFFF) = v &&& 0xFFFF := by
    intro v
    rw [toInt_and, toInt_toLong]
    rfl
  constructor
  case name => exact hname
  all_goals
    simp only [decodeCreateWindow, hword 2 (by decide), hword 3 (by decide), hword 4 (by decide),
      hword 5 (by decide), hword 6 (by decide), hword 7 (by decide), hword 8 (by decide),
      hword 9 (by decide), hword 10 (by decide), hword 11 (by decide), hword 12 (by decide),
      hword 13 (by decide)]
    simp (disch := decide) only [createWords, setWords, word_setWord, word_setWord_of_ne, hshort,
      htype, hcolor, hid]

theorem takesText (ap : VaList) (behind : List UInt8) {call : TextCall}
    (h : Carried call.string 256) (hpacket : drawtextRequest ap behind call = some packet) :
    TakesText call (decodeDrawText packet) := by
  have hfits := h.fits
  rw [drawtextRequest, if_neg (length_ne_zero h), if_neg (by omega)] at hpacket
  have hpacket := Option.some.inj hpacket
  have hword : ∀ i < 8, word packet i = word (setWords clean (textWords call)) i := by
    intro i hi
    rw [← hpacket]
    exact word_putString _ _ (by omega)
  have htext : cString ((List.range 256).map (fun i => packet (8 * 8 + i)) ++ [0]) =
      call.string := by
    rw [← hpacket]
    exact cString_putString ap _ h (Nat.le_refl _)
  have hcolor : ∀ v : UInt32, (v &&& 0xFFFFFFFF).toUInt64.toUInt32 = v := by
    intro v
    rw [UInt32.toUInt32_toUInt64]
    exact UInt32.and_neg_one
  constructor
  case text => exact htext
  all_goals
    simp only [decodeDrawText, hword 4 (by decide), hword 5 (by decide), hword 6 (by decide),
      hword 7 (by decide)]
    simp (disch := decide) only [textWords, setWords, word_setWord, word_setWord_of_ne,
      toInt_toLong, hcolor]

theorem word_bytes (buffer : Memory) (h : i < 64) :
    word (fun k => (bytes buffer MSG_BUFFER_SIZE).getD k 0) i = word buffer i :=
  word_congr fun _ _ hk => getD_bytes buffer (by rw [MSG_BUFFER_SIZE]; omega)

theorem word_composeResponse (buffer nextResponse : Memory) (type : ResponseType) (h : 2 ≤ i)
    (hi : i < 20) :
    word (composeResponse buffer nextResponse type) i = word nextResponse i :=
  word_congr fun _ _ _ => composeResponse_word _ _ _ (by omega)

theorem contributed_info (workers : Workers δ) {windows : Windows}
    (hdata : d.data = bytes (getWindowInfoRequest packet wid) MSG_BUFFER_SIZE)
    (hwindow : usedWindowAt windows wid = some w) :
    d.code = 9093 ∧ contributed workers d windows = wholly (infoWords wid w) false := by
  have hword : ∀ i < 64, word (fun k => d.data.getD k 0) i =
      word (getWindowInfoRequest packet wid) i := by
    intro i hi
    rw [hdata, word_bytes _ hi]
  have hcode : word (fun k => d.data.getD k 0) 1 = 9093 := by
    rw [hword 1 (by decide)]
    simp (disch := decide) only [getWindowInfoRequest, setWords, word_setWord, word_setWord_of_ne]
  have hwid : word (fun k => d.data.getD k 0) 0 = toLong wid := by
    rw [hword 0 (by decide)]
    simp (disch := decide) only [getWindowInfoRequest, setWords, word_setWord, word_setWord_of_ne]
  refine ⟨hcode, ?_⟩
  have hfound : codeOf (toInt d.code) = some .getWindowInfo := by
    rw [show d.code = 9093 from hcode]
    decide
  rw [contributed, contributionOf, hfound]
  simp only [contribution, hcode, hwid, toInt_toLong, hwindow]
  rfl

theorem takesInfo_of_words {reply : Memory} {wid : Int32} {w : Window}
    (htype : word reply 1 = SERVER_PACKET_TYPE_REPLY)
    (hword : ∀ i, 2 ≤ i → i < 20 → word reply i = word (setWords clean (infoWords wid w)) i) :
    getWindowInfoResponse reply = some (readInfo reply) ∧ TakesInfo w (readInfo reply) := by
  have hsign : word reply 2 = 1234 ∧ word reply 3 = 5678 := by
    rw [hword 2 (by decide) (by decide), hword 3 (by decide) (by decide)]
    constructor <;>
      simp (disch := decide) only [infoWords, setWords, word_setWord, word_setWord_of_ne]
  constructor
  · rw [getWindowInfoResponse, htype, hsign.1, hsign.2, if_neg (by decide), if_neg (by decide),
      if_neg (by decide)]
  · constructor
    all_goals
      dsimp only [readInfo]
      rw [hword _ (by decide) (by decide)]
      simp (disch := decide) only [infoWords, setWords, word_setWord, word_setWord_of_ne]

theorem takesInfo (workers : Workers δ) (hserver : workers.savedServerFd ≠ 31) (s : Server δ)
    (h : Arrives d) (hdata : d.data = bytes (getWindowInfoRequest packet wid) MSG_BUFFER_SIZE)
    (hwindow : usedWindowAt s.world.windows wid = some w) :
    ∃ reply info, response workers s d = some reply ∧
      getWindowInfoResponse (fun i => reply.getD i 0) = some info ∧ TakesInfo w info := by
  obtain ⟨hcode, hcontributed⟩ := contributed_info workers hdata hwindow
  have hanswered : ¬ (d.code = 0 ∨ flagAfter d.code s.noReply = true) := by
    have hflag : flagAfter 9093 s.noReply = false := (flagAfter_of_sets rfl s.noReply).2
    rw [hcode, hflag]
    decide
  have hreply := response_eq workers hserver s h
  have htype : responseType d (wholly (infoWords wid w) false).status = .RESPONSE_IS_REPLY := by
    rw [responseType, hcode]
    rfl
  rw [if_neg hanswered, hcontributed] at hreply
  dsimp only at hreply
  rw [htype] at hreply
  generalize (if (wholly (infoWords wid w) false).cleans = true then clean
    else (received s d).buffer) = buffer at hreply
  refine ⟨_, _, hreply, @takesInfo_of_words _ wid w ?_ fun i hlow hhigh => ?_⟩
  · rw [word_bytes _ (by decide), composeResponse, word_setWord]
    rfl
  · rw [word_bytes _ (by omega), word_composeResponse _ _ _ hlow hhigh]
    rfl

/-- What one side of the display protocol takes out of a packet is what the other put into it: the
arguments of `gws_create_window` and of `gws_draw_text` up to the masks of the protocol, and the
position and the size of a window and of its client area. -/
theorem protocol_agreement :
    (∀ (ap : VaList) (behind : List UInt8) (call : CreateCall), Carried call.windowname 250 →
      ∃ packet, createwindowRequest ap behind call = some packet ∧
        ∀ (δ : Type) (s : Server δ) (d : Delivery), d.data = bytes packet MSG_BUFFER_SIZE →
          TakesCreate call (decodeCreateWindow (received s d).buffer)) ∧
    (∀ (ap : VaList) (behind : List UInt8) (call : TextCall), Carried call.string 256 →
      ∃ packet, drawtextRequest ap behind call = some packet ∧
        ∀ (δ : Type) (s : Server δ) (d : Delivery), d.data = bytes packet MSG_BUFFER_SIZE →
          TakesText call (decodeDrawText (received s d).buffer)) ∧
    ∀ (δ : Type) (workers : Workers δ) (s : Server δ) (d : Delivery) (packet : Memory)
      (wid : Int32) (w : Window), workers.savedServerFd ≠ 31 → Arrives d →
      d.data = bytes (getWindowInfoRequest packet wid) MSG_BUFFER_SIZE →
      usedWindowAt s.world.windows wid = some w →
      ∃ reply info, response workers s d = some reply ∧
        getWindowInfoResponse (fun i => reply.getD i 0) = some info ∧ TakesInfo w info := by
  refine ⟨fun ap behind call h => ?_, fun ap behind call h => ?_, ?_⟩
  · obtain ⟨packet, hpacket⟩ := createwindowRequest_some ap behind h
    refine ⟨packet, hpacket, fun δ s d hdata => ?_⟩
    rw [decodeCreateWindow_congr (received_request s hdata)]
    exact takesCreate ap behind h hpacket
  · obtain ⟨packet, hpacket⟩ : ∃ packet, drawtextRequest ap behind call = some packet := by
      have hfits := h.fits
      rw [drawtextRequest, if_neg (length_ne_zero h), if_neg (by omega)]
      exact ⟨_, rfl⟩
    refine ⟨packet, hpacket, fun δ s d hdata => ?_⟩
    rw [decodeDrawText_congr (received_request s hdata)]
    exact takesText ap behind h hpacket
  · intro δ workers s d packet wid w hserver h hdata hwindow
    exact takesInfo workers hserver s h hdata hwindow

def farCall : CreateCall where
  type := 3
  status := 1
  state := 0
  windowname := [49, 48, 48, 37, 37]
  x := 65536
  y := 20
  width := 320
  height := 200
  parentwindow := 1
  style := 1
  color := 0xC0C0C0
  clientPid := 7
  clientTid := 9

def textCall : TextCall where
  window := 5
  x := 10
  y := 20
  color := 0xFF102030
  string := [72, 105]

def infoDelivery : Delivery where
  fd := 31
  action := .request
  data := bytes (getWindowInfoRequest clean 0) MSG_BUFFER_SIZE
  pid := 0
  writes := fun _ => MSG_BUFFER_SIZE

def delivering (packet : Memory) : Delivery :=
  { infoDelivery with data := bytes packet MSG_BUFFER_SIZE }

theorem delivering_data (packet : Memory) :
    (delivering packet).data = bytes packet MSG_BUFFER_SIZE := by
  rw [delivering]

theorem infoDelivery_data :
    infoDelivery.data = bytes (getWindowInfoRequest clean 0) MSG_BUFFER_SIZE := by
  rw [infoDelivery]

def emptyRegisters : VaList := ⟨fun _ _ _ => []⟩

theorem carried_farCall : Carried farCall.windowname 250 := by
  constructor
  · decide
  · decide
  · simp [farCall]
  · simp [farCall, Paired, PERCENT]

theorem carried_textCall : Carried textCall.string 256 := by
  constructor
  · decide
  · decide
  · simp [textCall]
  · simp [textCall, Paired, PERCENT]

theorem arrives_infoDelivery : Arrives infoDelivery where
  fd := rfl
  action := rfl
  size := by
    rw [infoDelivery, bytes_length]
    decide
  fits := by
    rw [infoDelivery, bytes_length]

/-- The left edge of the far window is not what the server takes out of the request. -/
theorem far_edge_is_cut :
    ∃ packet, createwindowRequest emptyRegisters [] farCall = some packet ∧
      ∀ (s : Server Unit) (d : Delivery), d.data = bytes packet MSG_BUFFER_SIZE →
        (decodeCreateWindow (received s d).buffer).x = 0 ∧ farCall.x = 65536 := by
  obtain ⟨packet, hpacket⟩ := createwindowRequest_some emptyRegisters [] carried_farCall
  refine ⟨packet, hpacket, fun s d hdata => ⟨?_, rfl⟩⟩
  have hx := (takesCreate emptyRegisters [] carried_farCall hpacket).x
  rw [decodeCreateWindow_congr (received_request s hdata), hx, farCall]
  decide

theorem protocol_agreement_calls :
    (∃ packet, createwindowRequest emptyRegisters [] farCall = some packet ∧
        TakesCreate farCall (decodeCreateWindow (received rootServer (delivering packet)).buffer)) ∧
      (∃ packet, drawtextRequest emptyRegisters [] textCall = some packet ∧
        TakesText textCall (decodeDrawText (received rootServer (delivering packet)).buffer)) ∧
      ∃ reply info, response idleWorkers rootServer infoDelivery = some reply ∧
        getWindowInfoResponse (fun i => reply.getD i 0) = some info ∧ TakesInfo rootWindow info := by
  obtain ⟨hcreate, htext, hinfo⟩ := protocol_agreement
  obtain ⟨created, hcreated, htakes⟩ := hcreate emptyRegisters [] farCall carried_farCall
  obtain ⟨drawn, hdrawn, htakes'⟩ := htext emptyRegisters [] textCall carried_textCall
  exact ⟨⟨created, hcreated, htakes Unit rootServer (delivering created) (delivering_data created)⟩,
    ⟨drawn, hdrawn, htakes' Unit rootServer (delivering drawn) (delivering_data drawn)⟩,
    hinfo Unit idleWorkers rootServer infoDelivery clean 0 rootWindow (by decide)
      arrives_infoDelivery infoDelivery_data rfl⟩

end Gramado.Gws.Wire
