import WireguardNx.Laws.Sending

/-!
# Timers that fire while a send is in flight

A timer that sends puts a datagram into the single pending slot and treats a slot that is taken as
a failed activation.  The error state costs six effects where a socket is open, its close and the
cancellation of five timers; the expiry has six in all and spends one on its own timer, so it
aborts before the error state is even recorded.  `expiryFails` says exactly when this happens.

The primitives are assumed to succeed, so that no other failure is in the way.  The clock may answer
anything.
-/

namespace WireguardNx.Runtime

open Wireguard PeerRuntime HandlerState

variable {c : Crypto} {p : Platform} {s : PeerRuntime}

/-! ## The error state -/

theorem errorEffects_length_le (s : PeerRuntime) :
    s.errorEffects.length ≤ (if s.binding.isOpen then 1 else 0) + 5 := by
  unfold errorEffects
  rw [List.length_append]
  refine Nat.add_le_add ?_ ?_
  · split
    · exact Nat.le_refl _
    · exact Nat.le_refl _
  · split
    · exact Nat.zero_le _
    · exact Nat.le_refl _

theorem errorEffects_length (h : s.lifecycle.activationGeneration ≠ 0) :
    s.errorEffects.length = (if s.binding.isOpen then 1 else 0) + 5 := by
  unfold errorEffects
  rw [List.length_append, if_neg h]
  congr 1
  split
  · rfl
  · rfl

theorem enterActivationError_effects (st : HandlerState) (stage : PeerErrorStage)
    (code : PeerErrorCode) (now : Ktime) :
    (st.enterActivationError stage code now).effects = st.effects ++ st.runtime.errorEffects := by
  rw [enterActivationError_eq]

theorem activation_ne_zero {generation : UInt32} (h : s.isCurrentActivation generation) :
    s.lifecycle.activationGeneration ≠ 0 := by
  unfold isCurrentActivation isCurrentGeneration at h
  rw [Bool.and_eq_true, decide_eq_true_eq] at h
  exact h.1

/-- How a handler ends that enters the error state exactly if `fails`. -/
inductive Ends (fails : Prop) (bound : Nat) (st : HandlerState) : HandlerState → Prop
  | went (hfails : ¬ fails) (after : HandlerState)
      (hlifecycle : after.runtime.lifecycle = st.runtime.lifecycle)
      (hlen : after.effects.length ≤ st.effects.length + bound) : Ends fails bound st after
  | failed (hfails : fails) (last : HandlerState)
      (hlifecycle : last.runtime.lifecycle = st.runtime.lifecycle)
      (hbinding : last.runtime.binding = st.runtime.binding) (heff : last.effects = st.effects)
      (stage : PeerErrorStage) (code : PeerErrorCode) (now : Ktime) :
      Ends fails bound st (last.enterActivationError stage code now)

namespace Ends

variable {fails : Prop} {bound : Nat} {st after : HandlerState}

/-- With a socket to close, failing is over the budget by which it does not fail. -/
theorem length_le_iff (h : Ends fails bound st after) (hbound : bound ≤ 5)
    (hact : st.runtime.lifecycle.activationGeneration ≠ 0)
    (hopen : st.runtime.binding.isOpen) :
    after.effects.length ≤ st.effects.length + 5 ↔ ¬ fails := by
  cases h with
  | went hfails _ _ hlen =>
    exact iff_of_true (hlen.trans (Nat.add_le_add_left hbound _)) hfails
  | failed hfails last hlifecycle hbinding heff stage code now =>
    have hlen : last.runtime.errorEffects.length = 6 := by
      rw [errorEffects_length (hlifecycle ▸ hact), hbinding, hopen]
      rfl
    refine iff_of_false ?_ (not_not_intro hfails)
    rw [enterActivationError_effects, List.length_append, hlen, heff]
    omega

private theorem state_ne_error_iff (h : Ends fails bound st after)
    (hstate : st.runtime.lifecycle.state ≠ .error) :
    after.runtime.lifecycle.state ≠ .error ↔ ¬ fails := by
  cases h with
  | went hfails _ hlifecycle _ => exact iff_of_true (hlifecycle ▸ hstate) hfails
  | failed hfails last _ _ _ stage code now =>
    rw [enterActivationError_eq]
    exact iff_of_false (fun h => h rfl) (not_not_intro hfails)

theorem congr {fails' : Prop} {bound' : Nat} (h : Ends fails bound st after)
    (hfails : fails ↔ fails') (hbound : bound ≤ bound') : Ends fails' bound' st after := by
  cases h with
  | went hnot _ hlifecycle hlen =>
    exact .went (hfails.not.mp hnot) _ hlifecycle (hlen.trans (Nat.add_le_add_left hbound _))
  | failed hyes last hlifecycle hbinding heff stage code now =>
    exact .failed (hfails.mp hyes) last hlifecycle hbinding heff stage code now

theorem failed_device (hfails : fails) (device : WgDevice) (stage : PeerErrorStage)
    (code : PeerErrorCode) (now : Ktime) : Ends fails bound st (enterActivationError
      { st with runtime := { st.runtime with device } } stage code now) :=
  @failed fails bound st hfails { st with runtime := { st.runtime with device } } rfl rfl rfl
    stage code now

theorem of_sent (hfails : ¬ fails) (h : st.Sent after) : Ends fails (bound + 1) st after :=
  .went hfails after h.lifecycle (by rw [h.effects]; omega)

end Ends

/-! ## Expired timers -/

/-- The event's timer finds the pending slot taken, or a keypair that expires while it sends. -/
def PeerRuntime.expiryFails (p : Platform) (s : PeerRuntime) : TimerHook → Bool
  | .retransmitHandshake => s.pendingDatagram.isSome && s.device.peer.handshakeRetry.active &&
      decide (s.device.peer.handshakeRetry.sendAttempts < WgPeer.maxSendAttempts)
  | .sendKeepalive => decide (s.lifecycle.state = .active) &&
      (s.pendingDatagram.isSome || (s.canSend p .hook && !s.canSend p .createKeepalive))
  | .newHandshake => decide (s.lifecycle.state = .active) && s.pendingDatagram.isSome
  | .persistentKeepalive => decide (s.lifecycle.state = .active) &&
      decide (s.device.peer.persistentKeepaliveInterval ≠ 0) &&
      (s.pendingDatagram.isSome || (s.canSend p .hook && !s.canSend p .createKeepalive))
  | .zeroKeyMaterial => false

section Expiry

variable {st : HandlerState} {event : ProtocolTimerExpiredEvent}

private theorem expireRetransmitHandshake_ends (st : HandlerState) (hc : c.Succeeds)
    (hpeer : st.runtime.hasProtocolPeer) (hready : st.runtime.device.peer.Ready c) :
    Ends (st.runtime.expiryFails p .retransmitHandshake) 2 st
      (expireRetransmitHandshake c p st event) := by
  have hhas : st.runtime.device.hasPeer := (Bool.and_eq_true_iff.mp hpeer).2
  unfold expireRetransmitHandshake
  obtain ⟨hactive, hleft, after, hretry, hinit⟩ | ⟨hnot, action, after, hretry, haction⟩ :=
    handleHandshakeRetryTimer_ready (p := p) hc hhas hready
  · simp only [hretry]
    by_cases hpend : st.runtime.pendingDatagram.isSome
    · have hprep : prepareHandshakeInitiation { st.runtime with device := after }
          .handshakeInitiation = (false, { st.runtime with device := after }) :=
        if_pos (Or.inr (Or.inr hpend))
      rw [hprep]
      have hfails : st.runtime.expiryFails p .retransmitHandshake := by
        simp [expiryFails, hpend, hactive, hleft]
      exact .failed_device hfails after _ _ _
    · rw [Bool.not_eq_true, Option.isSome_eq_false_iff, Option.isNone_iff_eq_none] at hpend
      have hkeeps : after.hasPeer = st.runtime.device.hasPeer := by
        obtain hkeeps | ⟨hexhausted, -⟩ := handleHandshakeRetryTimer_keeps hretry
        · exact hkeeps.hasPeer
        · cases hexhausted
      obtain ⟨bytes, hprep⟩ := prepareHandshakeInitiation_of_initiation .handshakeInitiation
        ((hasProtocolPeer_withDevice hkeeps).trans hpeer) hpend hinit
      rw [hprep]
      refine .went (by simp [expiryFails, hpend]) _ rfl ?_
      exact Nat.le_succ_of_le (Nat.le_of_eq List.length_append)
  · have hfails : ¬ st.runtime.expiryFails p .retransmitHandshake := by
      intro hfails
      simp only [expiryFails, Bool.and_eq_true, decide_eq_true_eq] at hfails
      exact hnot ⟨hfails.1.2, hfails.2⟩
    simp only [hretry]
    obtain rfl | rfl := haction
    · exact .went hfails _ rfl (Nat.le_add_right _ _)
    · simp only
      split
      · exact .went hfails _ rfl (Nat.le_succ_of_le (Nat.le_of_eq List.length_append))
      · exact .went hfails _ rfl (Nat.le_add_right _ _)

theorem startHandshakeOrFail_ends (hc : c.Succeeds) (hpeer : st.runtime.hasProtocolPeer)
    (hready : st.runtime.device.peer.Ready c) (identity : PeerIdentity) (now : Ktime) :
    Ends (st.runtime.pendingDatagram.isSome) 1 st (st.startHandshakeOrFail c p identity now) := by
  by_cases hpend : st.runtime.pendingDatagram.isSome
  · rw [startHandshakeOrFail_of_pending identity now hpend]
    exact .failed hpend st rfl rfl rfl _ _ _
  · have hnone : st.runtime.pendingDatagram = none := by simpa using hpend
    obtain ⟨hsame, -⟩ | ⟨-, hsent⟩ :=
      startHandshakeOrFail_of_none (p := p) identity now hc hpeer hready hnone
    · rw [hsame]
      exact .went hpend st rfl (Nat.le_add_right _ _)
    · exact .of_sent hpend hsent

theorem sendKeepaliveOrFail_ends (hc : c.Succeeds) (hpeer : st.runtime.hasProtocolPeer)
    (identity : PeerIdentity) (now : Ktime) :
    Ends (st.runtime.pendingDatagram.isSome ∨ st.runtime.canSend p .createKeepalive = false) 1
      st (st.sendKeepaliveOrFail c p identity now) := by
  by_cases hpend : st.runtime.pendingDatagram.isSome
  · rw [sendKeepaliveOrFail_of_pending identity now hpend]
    exact .failed (Or.inl hpend) st rfl rfl rfl _ _ _
  · have hnone : st.runtime.pendingDatagram = none := by simpa using hpend
    by_cases hsend : st.runtime.canSend p .createKeepalive
    · exact .of_sent (by simp [hnone, hsend])
        (sendKeepaliveOrFail_of_canSend identity now hc hpeer hnone hsend)
    · have hsend' : st.runtime.canSend p .createKeepalive = false := Bool.not_eq_true _ ▸ hsend
      rw [sendKeepaliveOrFail_of_not_canSend identity now hpeer hnone hsend']
      exact .failed (Or.inr hsend') st rfl rfl rfl _ _ _

private theorem expireSendKeepalive_ends (st : HandlerState) (hc : c.Succeeds)
    (hpeer : st.runtime.hasProtocolPeer) (hready : st.runtime.device.peer.Ready c) :
    Ends (st.runtime.expiryFails p .sendKeepalive) 2 st (expireSendKeepalive c p st event) := by
  unfold expireSendKeepalive
  by_cases hactive : st.runtime.lifecycle.state = .active
  · rw [if_neg (not_not_intro hactive)]
    by_cases hhook : st.runtime.canSend p .hook
    · rw [if_neg (by simpa [canSend] using hhook)]
      by_cases hpend : st.runtime.pendingDatagram.isSome
      · rw [prepareTransportDatagram_of_pending _ _ _ hpend]
        exact .failed (by simp [expiryFails, hactive, hpend]) st rfl rfl rfl _ _ _
      · have hnone : st.runtime.pendingDatagram = none := by simpa using hpend
        by_cases hsend : st.runtime.canSend p .createKeepalive
        · obtain ⟨keypair, bytes, hprep⟩ := prepareTransportDatagram_of_canSend [] .keepalive 0
            hc hpeer hnone (fits_nil _) hsend
          rw [hprep]
          have hfails : ¬ st.runtime.expiryFails p .sendKeepalive := by
            simp [expiryFails, hnone, hsend]
          simp only
          split
          · exact .went hfails _ rfl (by simp [addSendPending, add,
              arm])
          · exact .went hfails _ rfl (by simp [addSendPending, add])
        · obtain ⟨error, -, hprep⟩ := prepareTransportDatagram_of_not_canSend (c := c) []
            .keepalive 0 hpeer hnone (fits_nil _) (Bool.not_eq_true _ ▸ hsend)
          rw [hprep]
          exact .failed (by simp [expiryFails, hactive, hhook, hsend]) st rfl rfl rfl
            _ _ _
    · rw [if_pos (by simpa [canSend] using hhook)]
      refine (startHandshakeOrFail_ends hc hpeer hready _ _).congr ?_ (by decide)
      simp [expiryFails, hactive, hhook]
  · rw [if_pos hactive]
    exact .went (by simp [expiryFails, hactive]) st rfl (Nat.le_add_right _ _)

private theorem expireNewHandshake_ends (st : HandlerState) (hc : c.Succeeds)
    (hpeer : st.runtime.hasProtocolPeer) (hready : st.runtime.device.peer.Ready c) :
    Ends (st.runtime.expiryFails p .newHandshake) 2 st (expireNewHandshake c p st event) := by
  unfold expireNewHandshake
  by_cases hactive : st.runtime.lifecycle.state = .active
  · rw [if_pos hactive]
    refine (startHandshakeOrFail_ends hc hpeer hready _ _).congr ?_ (by decide)
    simp [expiryFails, hactive]
  · rw [if_neg hactive]
    exact .went (by simp [expiryFails, hactive]) st rfl (Nat.le_add_right _ _)

private theorem expirePersistentKeepalive_ends (st : HandlerState) (hc : c.Succeeds)
    (hpeer : st.runtime.hasProtocolPeer) (hready : st.runtime.device.peer.Ready c) :
    Ends (st.runtime.expiryFails p .persistentKeepalive) 2 st
      (expirePersistentKeepalive c p st event) := by
  unfold expirePersistentKeepalive
  simp only
  by_cases hidle : st.runtime.lifecycle.state ≠ .active ∨
      st.runtime.device.peer.persistentKeepaliveInterval = 0
  · rw [if_pos hidle]
    refine .went ?_ st rfl (Nat.le_add_right _ _)
    obtain hstate | hinterval := hidle
    · simp [expiryFails, hstate]
    · simp [expiryFails, hinterval]
  · rw [if_neg hidle]
    simp only [not_or, not_not] at hidle
    by_cases hhook : st.runtime.canSend p .hook
    · rw [if_neg (by simpa [canSend] using hhook)]
      refine (sendKeepaliveOrFail_ends hc hpeer _ _).congr ?_ (by decide)
      simp [expiryFails, hidle.1, hidle.2, hhook]
    · rw [if_pos (by simpa [canSend] using hhook)]
      refine (startHandshakeOrFail_ends hc hpeer hready _ _).congr ?_ (by decide)
      simp [expiryFails, hidle.1, hidle.2, hhook]

/-- A current expiry enters the error state exactly if its timer fails. -/
theorem handleProtocolTimerExpired_ends (hc : c.Succeeds) (hs : s.Sound c)
    (hcur : s.isCurrentExpiry event) (htrans : s.isInTransportState)
    (hsusp : s.binding.suspended = false) : Ends (s.expiryFails p event.hook) 2
      ⟨s, [.cancelProtocolTimer event.peer event.hook .empty]⟩
      (s.handleProtocolTimerExpired c p event) := by
  have hpeer := hs.transport_peer htrans
  have hready := hs.ready hpeer
  unfold handleProtocolTimerExpired
  rw [if_neg (by simp [hcur])]
  simp only
  rw [if_neg (by simp [hsusp]), if_neg (by simp [htrans])]
  cases hhook : event.hook with
  | retransmitHandshake => exact expireRetransmitHandshake_ends ⟨s, _⟩ hc hpeer hready
  | sendKeepalive => exact expireSendKeepalive_ends ⟨s, _⟩ hc hpeer hready
  | newHandshake => exact expireNewHandshake_ends ⟨s, _⟩ hc hpeer hready
  | persistentKeepalive => exact expirePersistentKeepalive_ends ⟨s, _⟩ hc hpeer hready
  | zeroKeyMaterial => exact .went Bool.false_ne_true _ rfl (Nat.le_add_right _ _)

/-- Handling a current expiry leaves the peer out of the error state exactly if its timer does not
fail. -/
theorem expiry_spares_peer_iff (hc : c.Succeeds) (hs : (peers c).Reachable s)
    (htrans : s.isInTransportState = true) (hopen : s.binding.isOpen = true)
    (hsusp : s.binding.suspended = false) (hcur : s.isCurrentExpiry event = true) :
    (∃ after batch, s.handle c p (.protocolTimerExpired event) = some (after, batch) ∧
        after.lifecycle.state ≠ .error) ↔ s.expiryFails p event.hook = false := by
  have hends := handleProtocolTimerExpired_ends (p := p) hc (peersWhere_sound hs) hcur
    htrans hsusp
  have hact : s.lifecycle.activationGeneration ≠ 0 :=
    activation_ne_zero (isCurrentActivation_of_isCurrentExpiry hcur)
  have hstate : s.lifecycle.state ≠ .error := by
    intro hstate
    unfold isInTransportState at htrans
    rw [hstate] at htrans
    cases htrans
  rw [← Bool.not_eq_true, ← hends.length_le_iff (by decide) hact hopen]
  constructor
  · rintro ⟨after, batch, hhandle, -⟩
    have hsome : (s.handle c p (.protocolTimerExpired event)).isSome = true := by
      rw [hhandle]; rfl
    obtain ⟨st, hst, hlen⟩ := handle_isSome_iff.mp hsome
    cases hst
    exact hlen
  · intro hlen
    have hsome : (s.handle c p (.protocolTimerExpired event)).isSome = true :=
      handle_isSome_iff.mpr ⟨_, rfl, hlen⟩
    obtain ⟨⟨after, batch⟩, hhandle⟩ := Option.isSome_iff_exists.mp hsome
    refine ⟨after, batch, hhandle, ?_⟩
    obtain ⟨st, timers, intent, hst, rfl, -⟩ := handle_spec hhandle
    cases hst
    exact (hends.state_ne_error_iff hstate).mpr
      ((hends.length_le_iff (by decide) hact hopen).mp hlen)

/-- The sample peer has sent one packet, which armed its new-handshake timer. -/
def sampleTraffic : List (Platform × PeerEvent) :=
  sampleEstablished ++ [sampleSent (seconds 11) 2 .none,
    sampleStaged (seconds 12) samplePacket 1, sampleSent (seconds 12) 3 .none]

def sampleNewHandshake : ProtocolTimerExpiredEvent :=
  ⟨sampleIdentity, .newHandshake, ⟨.newHandshake, ⟨0, 1, 0⟩, 9⟩, ⟨seconds 27, 0⟩, seconds 27⟩

/-- What the statement about expiries needs to know of a peer. -/
def PeerRuntime.expiryFacts (s : PeerRuntime) (event : ProtocolTimerExpiredEvent) :
    PeerRuntimeState × Bool × Bool × Bool :=
  (s.lifecycle.state, s.binding.isOpen, s.binding.suspended, s.isCurrentExpiry event)

theorem expiry_spares_peer_sample : ∃ s after : PeerRuntime, ∃ batch,
      s.handle .transparent (.constant (seconds 27) 8) (.protocolTimerExpired sampleNewHandshake) =
        some (after, batch) ∧ after.lifecycle.state ≠ .error := by
  have hrun : (sampleRun .transparent (fun _ _ => True) 0 sampleTraffic).map (fun s =>
      (s.expiryFacts sampleNewHandshake,
        s.expiryFails (.constant (seconds 27) 8) .newHandshake)) =
        some ((.active, true, false, true), false) := by
    decide +kernel
  obtain ⟨s, hs, hfacts⟩ := Option.map_eq_some_iff.mp hrun
  simp only [expiryFacts, Prod.mk.injEq] at hfacts
  obtain ⟨⟨hstate, hopen, hsusp, hcur⟩, hfails⟩ := hfacts
  have htrans : s.isInTransportState = true := by
    simp [isInTransportState, hstate]
  exact ⟨s, (expiry_spares_peer_iff Crypto.transparent_succeeds (sampleRun_reachable hs) htrans
    hopen hsusp hcur).mpr hfails⟩

/-- The timer fires while a second packet is in flight: the peer fails, over its budget. -/
theorem expiry_fails_in_flight :
    ∃ s, (peers .transparent).Reachable s ∧ s.lifecycle.state = .active ∧
      s.binding.isOpen = true ∧ s.binding.suspended = false ∧
      s.isCurrentExpiry sampleNewHandshake = true ∧
      s.handle .transparent (.constant (seconds 27) 8) (.protocolTimerExpired sampleNewHandshake) =
        none ∧
      (s.handleProtocolTimerExpired .transparent (.constant (seconds 27) 8)
        sampleNewHandshake).runtime.lifecycle.state = .error := by
  have hrun : (sampleRun .transparent (fun _ _ => True) 0
      (sampleTraffic ++ [sampleStaged (seconds 27) samplePacket 2])).map (fun s =>
      (s.expiryFacts sampleNewHandshake,
        (s.handle .transparent (.constant (seconds 27) 8)
          (.protocolTimerExpired sampleNewHandshake)).isNone,
        (s.handleProtocolTimerExpired .transparent (.constant (seconds 27) 8)
          sampleNewHandshake).runtime.lifecycle.state)) =
        some ((.active, true, false, true), true, .error) := by
    decide +kernel
  obtain ⟨s, hs, hfacts⟩ := Option.map_eq_some_iff.mp hrun
  simp only [expiryFacts, Prod.mk.injEq, Option.isNone_iff_eq_none] at hfacts
  obtain ⟨⟨hstate, hopen, hsusp, hcur⟩, hnone, herror⟩ := hfacts
  exact ⟨s, sampleRun_reachable hs, hstate, hopen, hsusp, hcur, hnone, herror⟩

end Expiry

end WireguardNx.Runtime
