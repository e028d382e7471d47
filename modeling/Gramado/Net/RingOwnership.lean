import Gramado.Net.ReceiveRing

namespace Gramado.Net.RingOwnership

open Library.Run Net.ReceiveRing

/-- Frames the driver has gone past, cleared and returned, counted from the delivered ones. -/
def advanced : Place → Nat
  | .measuring _ | .clearing _ _ | .returning _ _ | .handing _ _ => 1
  | _ => 0

def cleared : Place → Nat
  | .returning _ _ | .handing _ _ => 1
  | _ => 0

def returned : Place → Nat
  | .handing _ _ => 1
  | _ => 0

theorem cleared_le_advanced (place : Place) : cleared place ≤ advanced place := by
  cases place <;> simp only [cleared, advanced, Nat.le_refl, Nat.zero_le]

def InHand (s : Nic) : Place → Prop
  | .measuring old => old = s.delivered.length % 32
  | .clearing old n | .returning old n | .handing old n =>
      old = s.delivered.length % 32 ∧
        (s.received[s.delivered.length]?).map List.length = some n
  | _ => True

def Plain (word : Nat) : Prop :=
  word &&& 0x01 = 0 ∧ word &&& 0x02 = 0 ∧ word &&& 0x04 = 0

def Started (s : Nic) : Place → Prop
  | .idle => True
  | .reading | .acknowledging => s.deliveredBefore = s.delivered.length
  | _ => Plain s.word

/-- Who owns which descriptor: the frames received and not delivered are in the buffers that
follow the delivered ones, and the device stays in front of them. -/
structure Owned (s : Nic) : Prop where
  rx_cur : s.rx_cur = (s.delivered.length + advanced s.place) % 32
  head : s.head = s.received.length % 32
  tail : s.tail = (s.delivered.length + returned s.place + 31) % 32
  room : s.received.length ≤ s.delivered.length + returned s.place + 31
  behind : s.delivered.length + advanced s.place ≤ s.received.length
  busy : ∀ i, s.delivered.length + cleared s.place ≤ i → i < s.received.length →
    (s.legacy_rx_descs (i % 32)).status &&& 1 = 1
  free : ∀ i, s.received.length ≤ i → i < s.delivered.length + cleared s.place + 32 →
    (s.legacy_rx_descs (i % 32)).status &&& 1 ≠ 1
  content : ∀ i frame, s.delivered.length ≤ i → s.received[i]? = some frame →
    frame.length ≤ E1000_DEFAULT_BUFFER_SIZE ∧
      (s.legacy_rx_descs (i % 32)).length = frame.length ∧
      (s.rx_buffers (i % 32)).take frame.length = frame
  waiting : ∀ i, s.received.length ≤ i → i < s.delivered.length + 32 → s.waiting (i % 32) = false
  inHand : InHand s s.place
  delivered : s.received.take s.delivered.length = s.delivered
  receivedBefore : s.receivedBefore ≤ s.received.length
  started : Started s s.place

theorem owned_initialize (memory : Nat → List UInt8) (cause : Nat) :
    Owned (initialize_rx_support memory cause) where
  rx_cur := rfl
  head := rfl
  tail := rfl
  room := Nat.zero_le _
  behind := Nat.le_refl 0
  busy := fun i _ hi => absurd hi (Nat.not_lt_zero i)
  free := fun _ _ _ => by
    change (0 : UInt8) &&& 1 ≠ 1
    decide
  content := fun i frame _ hframe => by
    change ([] : List (List UInt8))[i]? = some frame at hframe
    cases hframe
  waiting := fun _ _ _ => rfl
  inHand := trivial
  delivered := rfl
  receivedBefore := Nat.le_refl 0
  started := trivial

theorem done_set (status : UInt8) : (status ||| 1) &&& 1 = 1 := by
  rw [UInt8.and_comm]
  apply UInt8.eq_of_toBitVec_eq
  simp only [UInt8.toBitVec_and, UInt8.toBitVec_or]
  ext i hi
  simp only [UInt8.toBitVec_one, BitVec.getElem_and, BitVec.getElem_or, BitVec.getElem_one]
  cases decide (i = 0) with
  | false => rw [Bool.false_and]
  | true => rw [Bool.true_and, Bool.or_true]

theorem done_cleared (status : UInt8) : (status &&& ~~~1) &&& 1 ≠ 1 := by
  have hmask : (~~~1 &&& 1 : UInt8) = 0 := by decide
  rw [UInt8.and_assoc, hmask, UInt8.and_zero]
  decide

variable {old n : Nat}

section Steps

variable {s : Nic}

theorem room_of_head_ne (hs : Owned s) (h : s.head ≠ s.tail) :
    s.received.length < s.delivered.length + 32 := by
  have hroom := hs.room
  have hreturned : returned s.place ≤ 1 := by
    unfold returned
    split <;> decide
  rw [hs.head, hs.tail] at h
  omega

theorem getElem?_received_append (hs : Owned s) (frame : List UInt8)
    (h : 0 < advanced s.place) :
    (s.received ++ [frame])[s.delivered.length]? = s.received[s.delivered.length]? := by
  have hbehind := hs.behind
  exact List.getElem?_append_left (by omega)

theorem inHand_fill (hs : Owned s) (frame : List UInt8) (status : UInt8) (bits : Nat) :
    InHand (fill s frame status bits) s.place := by
  have hin := hs.inHand
  have happend := getElem?_received_append hs frame
  generalize s.place = place at hin happend ⊢
  cases place with
  | clearing old n | returning old n | handing old n =>
      refine ⟨hin.1, ?_⟩
      change (s.received ++ [frame])[s.delivered.length]?.map List.length = some n
      rw [happend Nat.one_pos]
      exact hin.2
  | _ => exact hin

theorem owned_fill (hs : Owned s) {frame : List UInt8} (status : UInt8) (bits : Nat)
    (hhead : s.head ≠ s.tail) (hframe : frame.length ≤ E1000_DEFAULT_BUFFER_SIZE) :
    Owned (fill s frame status bits) := by
  have hroom := room_of_head_ne hs hhead
  have hbehind := hs.behind
  have hcleared := cleared_le_advanced s.place
  have hlen : (fill s frame status bits).received.length = s.received.length + 1 := by
    rw [fill, List.length_append, List.length_singleton]
  have hroom' : s.received.length + 1 ≤ s.delivered.length + returned s.place + 31 := by
    have hle := hs.room
    rw [hs.head, hs.tail] at hhead
    omega
  have hother : ∀ {i : Nat}, i % 32 ≠ s.received.length % 32 →
      (fill s frame status bits).legacy_rx_descs (i % 32) = s.legacy_rx_descs (i % 32) ∧
        (fill s frame status bits).rx_buffers (i % 32) = s.rx_buffers (i % 32) ∧
        (fill s frame status bits).waiting (i % 32) = s.waiting (i % 32) := by
    intro i hi
    rw [← hs.head] at hi
    exact ⟨Function.update_of_ne hi .., Function.update_of_ne hi .., Function.update_of_ne hi ..⟩
  have hself : (fill s frame status bits).legacy_rx_descs (s.received.length % 32) =
        ⟨frame.length, status ||| 1⟩ ∧
      (fill s frame status bits).rx_buffers (s.received.length % 32) =
        frame ++ (s.rx_buffers s.head).drop frame.length := by
    rw [← hs.head]
    exact ⟨Function.update_self .., Function.update_self ..⟩
  refine ⟨hs.rx_cur, ?_, hs.tail, ?_, ?_, ?_, ?_, ?_, ?_, inHand_fill hs frame status bits, ?_, ?_, ?_⟩
  · rw [hlen]
    change (s.head + 1) % 32 = _
    rw [hs.head]
    omega
  · rw [hlen]
    exact hroom'
  · rw [hlen]
    exact Nat.le_succ_of_le hbehind
  · intro i hlow hi
    rw [hlen] at hi
    rcases Nat.lt_or_ge i s.received.length with hlt | hge
    · change s.delivered.length + cleared s.place ≤ i at hlow
      rw [(hother (by omega)).1]
      exact hs.busy i hlow hlt
    · obtain rfl : i = s.received.length := by omega
      rw [hself.1]
      exact done_set status
  · intro i hlow hi
    rw [hlen] at hlow
    change i < s.delivered.length + cleared s.place + 32 at hi
    rw [(hother (by omega)).1]
    exact hs.free i (by omega) hi
  · intro i f hlow hf
    change s.delivered.length ≤ i at hlow
    change (s.received ++ [frame])[i]? = some f at hf
    rcases Nat.lt_or_ge i s.received.length with hlt | hge
    · rw [List.getElem?_append_left hlt] at hf
      obtain ⟨hdesc, hbuffer, -⟩ := hother (i := i) (by omega)
      rw [hdesc, hbuffer]
      exact hs.content i f hlow hf
    · have hlast := (List.getElem?_eq_some_iff.mp hf).1
      rw [List.length_append, List.length_singleton] at hlast
      obtain rfl : i = s.received.length := by omega
      rw [List.getElem?_concat_length] at hf
      obtain rfl := Option.some.inj hf
      rw [hself.1, hself.2]
      exact ⟨hframe, rfl, List.take_left⟩
  · intro i hlow hi
    rw [hlen] at hlow
    change i < s.delivered.length + 32 at hi
    rw [(hother (by omega)).2.2]
    exact hs.waiting i (by omega) hi
  · change (s.received ++ [frame]).take s.delivered.length = s.delivered
    rw [List.take_append_of_le_length (by omega)]
    exact hs.delivered
  · rw [hlen]
    exact Nat.le_succ_of_le hs.receivedBefore
  · have hstarted := hs.started
    change Started _ s.place
    generalize s.place = place at hstarted ⊢
    cases place <;> exact hstarted

/-- The state with another place, another cause register and other notes of the run. -/
def moved (s : Nic) (place : Place) (cause word receivedBefore deliveredBefore : Nat) : Nic :=
  { s with
    place := place
    cause := cause
    word := word
    receivedBefore := receivedBefore
    deliveredBefore := deliveredBefore }

theorem owned_moved (hs : Owned s) {place : Place} {cause word receivedBefore deliveredBefore : Nat}
    (hadvanced : advanced place = advanced s.place) (hcleared : cleared place = cleared s.place)
    (hreturned : returned place = returned s.place) (hin : InHand s place)
    (hbefore : receivedBefore ≤ s.received.length)
    (hstarted : Started (moved s place cause word receivedBefore deliveredBefore) place) :
    Owned (moved s place cause word receivedBefore deliveredBefore) := by
  obtain ⟨rx_cur, head, tail, room, behind, busy, free, content, waiting, -, delivered, -, -⟩ := hs
  rw [← hadvanced] at rx_cur behind
  rw [← hreturned] at tail room
  rw [← hcleared] at busy free
  refine ⟨rx_cur, head, tail, room, behind, busy, free, content, waiting, ?_, delivered, hbefore,
    hstarted⟩
  change InHand _ place
  cases place <;> exact hin

theorem owned_advance (hs : Owned s) (hplace : s.place = .looking)
    (hdone : (s.legacy_rx_descs s.rx_cur).status &&& 1 = 1) :
    Owned { s with
      place := .measuring s.rx_cur
      rx_cur := (s.rx_cur + 1) % RECEIVE_BUFFER_MAX } := by
  obtain ⟨rx_cur, head, tail, room, behind, busy, free, content, waiting, -, delivered, before,
    started⟩ := hs
  rw [hplace] at rx_cur tail room behind busy free started
  have hcur : s.rx_cur = s.delivered.length % 32 := rx_cur
  have hmore : s.delivered.length < s.received.length := by
    by_contra hnot
    have hclear := free s.delivered.length (by omega) (by omega)
    rw [← hcur] at hclear
    exact hclear hdone
  refine ⟨?_, head, tail, room, hmore, busy, free, content, waiting, hcur, delivered, before, started⟩
  change (s.rx_cur + 1) % 32 = (s.delivered.length + 1) % 32
  omega

theorem owned_clear (hs : Owned s) (hplace : s.place = .clearing old n) : Owned { s with
      place := .returning old n
      legacy_rx_descs := Function.update s.legacy_rx_descs old
        { s.legacy_rx_descs old with status := (s.legacy_rx_descs old).status &&& ~~~1 } } := by
  obtain ⟨rx_cur, head, tail, room, behind, busy, free, content, waiting, inHand, delivered, before,
    started⟩ := hs
  rw [hplace] at rx_cur tail room behind busy free inHand started
  obtain ⟨hold, hlength⟩ := inHand
  have hother : ∀ {i : Nat}, i % 32 ≠ s.delivered.length % 32 →
      Function.update s.legacy_rx_descs old
        { s.legacy_rx_descs old with status := (s.legacy_rx_descs old).status &&& ~~~1 } (i % 32) =
          s.legacy_rx_descs (i % 32) := by
    intro i hi
    exact Function.update_of_ne (by omega) ..
  have hself : ∀ {i : Nat}, i % 32 = s.delivered.length % 32 → Function.update s.legacy_rx_descs old
        { s.legacy_rx_descs old with status := (s.legacy_rx_descs old).status &&& ~~~1 } (i % 32) =
          { s.legacy_rx_descs (i % 32) with
            status := (s.legacy_rx_descs (i % 32)).status &&& ~~~1 } := by
    intro i hi
    rw [hi, ← hold]
    exact Function.update_self ..
  refine ⟨rx_cur, head, tail, room, behind, ?_, ?_, ?_, waiting, ⟨hold, hlength⟩, delivered, before,
    started⟩
  · intro i hlow hi
    change s.delivered.length + 1 ≤ i at hlow
    change s.received.length ≤ s.delivered.length + 31 at room
    change i < s.received.length at hi
    change ((Function.update s.legacy_rx_descs old _) (i % 32)).status &&& 1 = 1
    rw [hother (by omega)]
    exact busy i (Nat.le_of_succ_le hlow) hi
  · intro i hlow hi
    change ((Function.update s.legacy_rx_descs old _) (i % 32)).status &&& 1 ≠ 1
    rcases Nat.lt_or_ge i (s.delivered.length + 32) with hlt | hge
    · rw [hother]
      · exact free i hlow hlt
      · change s.delivered.length + 1 ≤ s.received.length at behind
        change s.received.length ≤ i at hlow
        omega
    · rw [hself]
      · exact done_cleared _
      · change i < s.delivered.length + 1 + 32 at hi
        omega
  · intro i frame hlow hframe
    obtain ⟨hsize, hdesc, hbuffer⟩ := content i frame hlow hframe
    refine ⟨hsize, ?_, hbuffer⟩
    change ((Function.update s.legacy_rx_descs old _) (i % 32)).length = frame.length
    by_cases hi : i % 32 = s.delivered.length % 32
    · rw [hself hi]
      exact hdesc
    · rw [hother hi]
      exact hdesc

theorem owned_return (hs : Owned s) (hplace : s.place = .returning old n) :
    Owned { s with place := .handing old n, tail := old } := by
  obtain ⟨rx_cur, head, tail, room, behind, busy, free, content, waiting, inHand, delivered, before,
    started⟩ := hs
  rw [hplace] at rx_cur tail room behind busy free inHand started
  have hold : old = s.delivered.length % 32 := inHand.1
  refine ⟨rx_cur, head, ?_, Nat.le_succ_of_le room, behind, busy, free, content, waiting, inHand,
    delivered, before, started⟩
  change old = (s.delivered.length + 1 + 31) % 32
  omega

theorem owned_hand (network_on_receiving : List UInt8 → List UInt8) (hs : Owned s)
    (hplace : s.place = .handing old n) :
    Owned { s with
      place := .looking
      rx_buffers := Function.update s.rx_buffers old (network_on_receiving (s.rx_buffers old))
      delivered := s.delivered ++ [(s.rx_buffers old).take n]
      waiting := Function.update s.waiting old false } := by
  obtain ⟨rx_cur, head, tail, room, behind, busy, free, content, waiting, inHand, delivered, before,
    started⟩ := hs
  rw [hplace] at rx_cur tail room behind busy free inHand started
  obtain ⟨hold, hlength⟩ := inHand
  obtain ⟨frame, hframe, rfl⟩ := Option.map_eq_some_iff.mp hlength
  obtain ⟨-, -, hbuffer⟩ := content _ frame (Nat.le_refl _) hframe
  rw [← hold] at hbuffer
  have hlen : (s.delivered ++ [(s.rx_buffers old).take frame.length]).length =
      s.delivered.length + 1 := by
    rw [List.length_append, List.length_singleton]
  refine ⟨?_, head, ?_, ?_, ?_, ?_, ?_, ?_, ?_, trivial, ?_, before, started⟩
  · exact rx_cur.trans (congrArg (· % 32) hlen.symm)
  · exact tail.trans (congrArg (fun m => (m + 31) % 32) hlen.symm)
  · change s.received.length ≤ _ + 31
    rw [hlen]
    exact room
  · change _ ≤ s.received.length
    rw [hlen]
    exact behind
  · intro i hlow hi
    rw [hlen] at hlow
    exact busy i hlow hi
  · intro i hlow hi
    rw [hlen] at hi
    exact free i hlow hi
  · intro i f hlow hf
    rw [hlen] at hlow
    change s.received.length ≤ s.delivered.length + 1 + 31 at room
    have hi := (List.getElem?_eq_some_iff.mp hf).1
    change i < s.received.length at hi
    obtain ⟨hsize, hdesc, hkept⟩ := content i f (Nat.le_of_succ_le hlow) hf
    refine ⟨hsize, hdesc, ?_⟩
    change (Function.update s.rx_buffers old _ (i % 32)).take f.length = f
    rw [Function.update_of_ne (by omega)]
    exact hkept
  · intro i hlow hi
    rw [hlen] at hi
    change Function.update s.waiting old false (i % 32) = false
    by_cases hslot : i % 32 = old
    · rw [hslot]
      exact Function.update_self ..
    · rw [Function.update_of_ne hslot]
      exact waiting i hlow (by omega)
  · change s.received.take _ = s.delivered ++ [(s.rx_buffers old).take frame.length]
    rw [hlen, hbuffer, List.take_add_one, delivered, hframe]
    rfl

theorem dispatch_cases (s : Nic) :
    (∃ rv, dispatch s = leave s rv) ∧ ¬ (Plain s.word ∧ s.word &&& 0x80 ≠ 0) ∨
      dispatch s = (none, { s with place := .looking }) ∧ Plain s.word ∧ s.word &&& 0x80 ≠ 0 := by
  by_cases hrx : Plain s.word ∧ s.word &&& 0x80 ≠ 0
  · obtain ⟨⟨h1, h2, h4⟩, hbit⟩ := hrx
    have hword : s.word ≠ 0 := by
      intro hzero
      rw [hzero] at hbit
      exact hbit rfl
    refine .inr ⟨?_, ⟨h1, h2, h4⟩, hbit⟩
    rw [dispatch, if_neg hword, if_neg (not_not_intro h1), if_neg (not_not_intro h2),
      if_neg (not_not_intro h4), if_pos hbit]
  · refine .inl ⟨?_, hrx⟩
    rw [dispatch]
    split
    · exact ⟨_, rfl⟩
    · split
      · exact ⟨_, rfl⟩
      next h1 =>
        split
        · exact ⟨_, rfl⟩
        next h2 =>
          split
          · exact ⟨_, rfl⟩
          next h4 =>
            rw [if_neg fun hbit => hrx ⟨⟨not_not.mp h1, not_not.mp h2, not_not.mp h4⟩, hbit⟩]
            split
            · exact ⟨_, rfl⟩
            · split <;> exact ⟨_, rfl⟩

theorem owned_dispatch (hs : Owned s) (hplace : s.place = .acknowledging) :
    Owned (dispatch (acknowledged s)).2 := by
  rcases dispatch_cases (acknowledged s) with ⟨⟨rv, hleave⟩, -⟩ | ⟨hlook, hplain, -⟩
  · have hidle : Owned (moved s .idle 0 s.word s.receivedBefore s.deliveredBefore) :=
      owned_moved hs (by rw [hplace]; rfl) (by rw [hplace]; rfl) (by rw [hplace]; rfl) trivial
        hs.receivedBefore trivial
    rw [hleave]
    exact hidle
  · have hlooking : Owned (moved s .looking 0 s.word s.receivedBefore s.deliveredBefore) :=
      owned_moved hs (by rw [hplace]; rfl) (by rw [hplace]; rfl) (by rw [hplace]; rfl) trivial
        hs.receivedBefore hplain
    rw [hlook]
    exact hlooking

end Steps

end Gramado.Net.RingOwnership
