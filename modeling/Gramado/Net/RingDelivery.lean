import Gramado.Net.RingOwnership

namespace Gramado.Net.RingDelivery

open Library.Run Net.ReceiveRing Net.RingOwnership

def Sound (s : Nic) : Prop :=
  s.delivered <+: s.received

section

variable (network_on_receiving : List UInt8 → List UInt8)

/-- No buffer is filled that waits to be handed over, and a run of the service procedure that
read the cause of a reception has handed over what was received before it. -/
def Meets (s : Nic) : Event → Prop
  | .fill _ _ _ => Sound s ∧ s.waiting s.head = false
  | .raise _ => Sound s
  | .driver => Sound s ∧ ∀ rv t, driver network_on_receiving s = .ok (some rv, t) →
      t.word &&& 0x80 ≠ 0 → t.receivedBefore ≤ t.delivered.length

end

/-- The cause of a reception comes with none that is looked at before it, or nothing was
waiting when the run began. -/
def Fits (s : Nic) : Event → Prop
  | .driver => s.place = .acknowledging → s.word &&& 0x80 ≠ 0 →
      Plain s.word ∨ s.receivedBefore ≤ s.deliveredBefore
  | _ => True

variable {event : Event}

section Steps

variable {s : Nic} {network_on_receiving : List UInt8 → List UInt8}

theorem sound_of_owned (hs : Owned s) : Sound s := by
  rw [Sound, ← hs.delivered]
  exact List.take_prefix _ _

theorem owned_driver (hs : Owned s) :
    ∃ o t, driver network_on_receiving s = .ok (o, t) ∧ Owned t := by
  have hcur := hs.rx_cur
  cases hplace : s.place with
  | idle =>
      refine ⟨_, _, by rw [driver, hplace], ?_⟩
      have hread : Owned (moved s .reading s.cause s.word s.received.length s.delivered.length) :=
        owned_moved hs (by rw [hplace]; rfl) (by rw [hplace]; rfl) (by rw [hplace]; rfl) trivial
          (Nat.le_refl _) rfl
      exact hread
  | reading =>
      refine ⟨_, _, by rw [driver, hplace], ?_⟩
      have hstarted := hs.started
      rw [hplace] at hstarted
      have hread : Owned (moved s .acknowledging s.cause s.cause s.receivedBefore
          s.deliveredBefore) :=
        owned_moved hs (by rw [hplace]; rfl) (by rw [hplace]; rfl) (by rw [hplace]; rfl) trivial
          hs.receivedBefore hstarted
      exact hread
  | acknowledging =>
      exact ⟨_, _, by rw [driver, hplace], owned_dispatch hs hplace⟩
  | looking =>
      by_cases hdone : (s.legacy_rx_descs s.rx_cur).status &&& 1 = 1
      · have hlt : ¬ s.rx_cur ≥ RECEIVE_BUFFER_MAX := by
          rw [hcur]
          exact Nat.not_le.mpr (Nat.mod_lt _ (by decide))
        refine ⟨none, _, ?_, owned_advance hs hplace hdone⟩
        rw [driver, hplace]
        dsimp only
        rw [if_neg (not_not_intro hdone), if_neg hlt]
      · refine ⟨some 0, moved s .idle s.cause s.word s.receivedBefore s.deliveredBefore, ?_, ?_⟩
        · rw [driver, hplace]
          exact if_pos hdone
        · exact owned_moved hs (by rw [hplace]; rfl) (by rw [hplace]; rfl) (by rw [hplace]; rfl)
            trivial hs.receivedBefore trivial
  | measuring old =>
      have hold := hs.inHand
      have hbehind := hs.behind
      have hstarted := hs.started
      rw [hplace] at hold hbehind hstarted
      have hmore : s.delivered.length < s.received.length := hbehind
      obtain ⟨hsize, hlength, -⟩ := hs.content s.delivered.length _ (Nat.le_refl _)
        (List.getElem?_eq_getElem hmore)
      have hold : old = s.delivered.length % 32 := hold
      rw [← hold] at hlength
      refine ⟨none, moved s (.clearing old (s.legacy_rx_descs old).length) s.cause s.word
        s.receivedBefore s.deliveredBefore, ?_, ?_⟩
      · rw [driver, hplace]
        dsimp only
        rw [if_neg (by omega)]
        rfl
      · refine owned_moved hs (by rw [hplace]; rfl) (by rw [hplace]; rfl) (by rw [hplace]; rfl) ?_
          hs.receivedBefore hstarted
        refine ⟨hold, ?_⟩
        rw [List.getElem?_eq_getElem hmore, hlength]
        rfl
  | clearing old n => exact ⟨_, _, by rw [driver, hplace], owned_clear hs hplace⟩
  | returning old n => exact ⟨_, _, by rw [driver, hplace], owned_return hs hplace⟩
  | handing old n => exact ⟨_, _, by rw [driver, hplace], owned_hand network_on_receiving hs hplace⟩

theorem owned_step (hs : Owned s) (hallowed : Allowed s event) :
    ∃ o t, step network_on_receiving s event = .ok (o, t) ∧ Owned t := by
  cases event with
  | fill frame status bits =>
      exact ⟨_, _, rfl, owned_fill hs status bits hallowed.1 hallowed.2⟩
  | raise bits =>
      refine ⟨none, moved s s.place (s.cause ||| bits) s.word s.receivedBefore s.deliveredBefore,
        rfl, owned_moved hs rfl rfl rfl hs.inHand hs.receivedBefore ?_⟩
      have hstarted := hs.started
      generalize s.place = place at hstarted ⊢
      cases place <;> exact hstarted
  | driver => exact owned_driver hs

theorem owned_of_step (hs : Owned s) (hallowed : Allowed s event) {o : Option Int} {t : Nic}
    (hstep : step network_on_receiving s event = .ok (o, t)) : Owned t := by
  obtain ⟨o', t', hstep', ht⟩ :
      ∃ o t, step network_on_receiving s event = .ok (o, t) ∧ Owned t := owned_step hs hallowed
  obtain ⟨-, rfl⟩ := Prod.mk.inj (Except.ok.inj (hstep'.symm.trans hstep))
  exact ht

theorem drained (hs : Owned s) (hplace : s.place = .looking)
    (hclear : (s.legacy_rx_descs s.rx_cur).status &&& 1 ≠ 1) :
    s.received.length ≤ s.delivered.length := by
  by_contra hmore
  have hcur := hs.rx_cur
  rw [hplace] at hcur
  have hbusy := hs.busy s.delivered.length (by rw [hplace]; exact Nat.le_refl _) (by omega)
  rw [hcur] at hclear
  exact hclear hbusy

theorem meets_acknowledging (hs : Owned s) (hplace : s.place = .acknowledging) :
    Meets network_on_receiving s .driver ↔ Fits s .driver := by
  have hstarted := hs.started
  rw [hplace] at hstarted
  have hstarted : s.deliveredBefore = s.delivered.length := hstarted
  have hdriver : driver network_on_receiving s = .ok (dispatch (acknowledged s)) := by
    rw [driver, hplace]
  rw [Meets, Fits, hdriver, hstarted]
  rcases dispatch_cases (acknowledged s) with ⟨⟨rv, hleave⟩, hnot⟩ | ⟨hlook, hplain, -⟩
  · rw [hleave]
    constructor
    · rintro ⟨-, hend⟩ - hbit
      exact .inr (hend rv (leave (acknowledged s) rv).2 rfl hbit)
    · intro hfits
      refine ⟨sound_of_owned hs, fun rv' t hstep hbit => ?_⟩
      obtain ⟨-, rfl⟩ := Prod.mk.inj (Except.ok.inj hstep)
      exact (hfits hplace hbit).resolve_left fun hplain => hnot ⟨hplain, hbit⟩
  · refine ⟨fun _ _ _ => .inl hplain, fun _ => ⟨sound_of_owned hs, fun rv t hstep _ => ?_⟩⟩
    rw [hlook] at hstep
    cases (Prod.mk.inj (Except.ok.inj hstep)).1

theorem meets_driver (hs : Owned s) (hplace : s.place ≠ .acknowledging) :
    Meets network_on_receiving s .driver := by
  refine ⟨sound_of_owned hs, fun rv t hstep _ => ?_⟩
  cases hcase : s.place with
  | acknowledging => exact absurd hcase hplace
  | looking =>
      by_cases hdone : (s.legacy_rx_descs s.rx_cur).status &&& 1 = 1
      · rw [driver, hcase] at hstep
        dsimp only at hstep
        rw [if_neg (not_not_intro hdone)] at hstep
        split at hstep
        · cases hstep
        · cases (Prod.mk.inj (Except.ok.inj hstep)).1
      · rw [driver, hcase] at hstep
        dsimp only at hstep
        rw [if_pos hdone] at hstep
        obtain ⟨-, rfl⟩ := Prod.mk.inj (Except.ok.inj hstep)
        exact Nat.le_trans hs.receivedBefore (drained hs hcase hdone)
  | measuring old =>
      rw [driver, hcase] at hstep
      dsimp only at hstep
      split at hstep
      · cases hstep
      · cases (Prod.mk.inj (Except.ok.inj hstep)).1
  | _ =>
      rw [driver, hcase] at hstep
      cases (Prod.mk.inj (Except.ok.inj hstep)).1

theorem meets_iff (hs : Owned s) (hallowed : Allowed s event) :
    Meets network_on_receiving s event ↔ Fits s event := by
  cases event with
  | fill frame status bits =>
      have hroom := room_of_head_ne hs hallowed.1
      refine ⟨fun _ => trivial, fun _ => ⟨sound_of_owned hs, ?_⟩⟩
      rw [hs.head]
      exact hs.waiting _ (Nat.le_refl _) hroom
  | raise bits => exact ⟨fun _ => trivial, fun _ => sound_of_owned hs⟩
  | driver =>
      by_cases hplace : s.place = .acknowledging
      · exact meets_acknowledging hs hplace
      · exact ⟨fun _ h => absurd h hplace, fun _ => meets_driver hs hplace⟩

end Steps

/-- Whatever the device does and when, the driver hands over what it received, in order, and a
run that the cause of a reception starts hands over all that was received before it, under
the condition and only then. -/
theorem ring_iff (network_on_receiving : List UInt8 → List UInt8) (memory : Nat → List UInt8)
    (cause : Nat) {events : List Event}
    (hallowed : Guarded (step network_on_receiving) Allowed (initialize_rx_support memory cause)
      events) :
    (∃ outs t, run (step network_on_receiving) (initialize_rx_support memory cause) events =
        .ok (outs, t) ∧ Sound t) ∧
      (Guarded (step network_on_receiving) (Meets network_on_receiving)
          (initialize_rx_support memory cause) events ↔
        Guarded (step network_on_receiving) Fits (initialize_rx_support memory cause) events) := by
  have hstart := owned_initialize memory cause
  obtain ⟨outs, t, hrun, ht⟩ := run_total Owned (fun s event hs h => owned_step hs h) hstart hallowed
  refine ⟨⟨outs, t, hrun, sound_of_owned ht⟩, fun hmeets => ?_, fun hfits => ?_⟩
  · exact (hallowed.and hmeets).of_invariant Owned
      (fun s event o t hs hguard hstep => owned_of_step hs hguard.1 hstep)
      (fun s event hs hguard => (meets_iff hs hguard.1).mp hguard.2) hstart
  · exact (hallowed.and hfits).of_invariant Owned
      (fun s event o t hs hguard hstep => owned_of_step hs hguard.1 hstep)
      (fun s event hs hguard => (meets_iff hs hguard.1).mpr hguard.2) hstart

def twoFrames : List Event :=
  [.fill [1, 2] 2 0x80, .driver, .driver, .driver, .driver, .driver, .driver, .fill [3] 2 0x80,
    .driver, .driver, .driver, .driver, .driver, .driver, .driver, .driver]

theorem ring_iff_twoFrames :
    (∃ outs t, run (step id) (initialize_rx_support (fun _ => []) 0) twoFrames =
        .ok (outs, t) ∧ Sound t) ∧
      (Guarded (step id) (Meets id) (initialize_rx_support (fun _ => []) 0) twoFrames ↔
        Guarded (step id) Fits (initialize_rx_support (fun _ => []) 0) twoFrames) :=
  ring_iff id (fun _ => []) 0 (by decide +kernel)

def transmitted : List Event :=
  [.raise 0x01, .fill [7] 2 0x80, .driver, .driver, .driver]

/-- The service procedure returns with the frame in the ring. -/
theorem frame_left_behind :
    Guarded (step id) Allowed (initialize_rx_support (fun _ => []) 0) transmitted ∧
      (run (step id) (initialize_rx_support (fun _ => []) 0) transmitted).map
          (fun r => (r.1, r.2.word, r.2.received, r.2.delivered)) =
        .ok ([none, none, none, none, some 0], 0x81, [[7]], []) ∧
      ¬ Guarded (step id) (Meets id) (initialize_rx_support (fun _ => []) 0) transmitted := by
  refine ⟨by decide +kernel, by decide +kernel, fun h => ?_⟩
  have hend := h.2.2.2.2.1.2 0 _ rfl
  revert hend
  decide +kernel

end Gramado.Net.RingDelivery
