import WireguardNx.Laws.Expiry
import WireguardNx.Laws.Timers

/-!
# Requests for timers

Which handlers ask for a timer, and when.  The delicate case is the error state, which cancels every
timer: a request to arm one after that would leave a timer of a dead activation behind.  Handlers do
make such requests, but the batch is then beyond the budget of its event.
-/

namespace WireguardNx.Runtime

open Wireguard PeerRuntime HandlerState List

variable {c : Crypto} {p : Platform} {s : PeerRuntime} {identity : PeerIdentity} {st : HandlerState}

/-! ## Requests to arm -/

/-- A handler asked for no timer to be armed. -/
def HandlerState.Armless (st : HandlerState) : Prop := ∀ effect ∈ st.effects, effect.isArm = false

section Armless

variable {after : HandlerState}

theorem armless_nil {s : PeerRuntime} : Armless ⟨s, []⟩ := nofun

theorem HandlerState.Armless.add (h : st.Armless) {effect : RuntimeEffect}
    (heffect : effect.isArm = false) : (st.add effect).Armless := by
  intro other hmem
  rcases mem_append.mp hmem with hmem | hmem
  · exact h other hmem
  · rwa [mem_singleton.mp hmem]

theorem HandlerState.Armless.fail (h : st.Armless) (stage : PeerErrorStage) (code : PeerErrorCode)
    (now : Ktime) : (st.enterActivationError stage code now).Armless := by
  rw [enterActivationError_eq]
  intro effect hmem
  rcases mem_append.mp hmem with hmem | hmem
  · exact h effect hmem
  · unfold errorEffects at hmem
    rcases mem_append.mp hmem with hmem | hmem
    · split at hmem
      · rw [mem_singleton.mp hmem]
        rfl
      · cases hmem
    · split at hmem
      · cases hmem
      · obtain ⟨hook, -, rfl⟩ := mem_map.mp hmem
        rfl

/-- Sending something asks for no timer. -/
theorem Sending.armless {live : Prop} (h : Sending c p identity live st after) (hst : st.Armless) :
    after.Armless := by
  induction h with
  | refl => exact hst
  | tail _ hstep ih =>
    cases hstep with
    | operate device _ | drop queue _ => exact ih
    | fill bytes packetId kind _ => exact ih.add rfl
    | fail stage code now => exact ih.fail stage code now

theorem Sends.armless {event : PeerEvent} (h : Sends c p s event st) : st.Armless := by
  obtain rfl | ⟨-, queue, -, hsending⟩ := h
  · exact armless_nil
  · exact Sending.armless hsending armless_nil

/-- A request to arm is not counted among the rest. -/
theorem armless_or_rest_lt {st : HandlerState} : st.Armless ∨ st.rest < st.effects.length := by
  by_cases h : st.Armless
  · exact .inl h
  · refine .inr (Nat.lt_of_le_of_ne countP_le_length fun heq => h ?_)
    intro effect hmem
    simpa using countP_eq_length.mp heq effect hmem

/-- After a first effect that arms nothing, traffic that fails and arms a timer adds at least
seven effects. -/
theorem Work.armless_or_lt {first : HandlerState} (h : Traffic c p identity first after)
    (hrest : 1 ≤ first.rest) (hstate : first.runtime.lifecycle.state ≠ .error)
    (hact : first.runtime.lifecycle.activationGeneration ≠ 0) :
    after.Armless ∨ (after.runtime.lifecycle.state = .error → 6 < after.effects.length) := by
  obtain harmless | hlt := armless_or_rest_lt
  · exact .inl harmless
  · refine .inr fun herror => ?_
    have hfails := (h.fails hstate hact herror).1
    omega

end Armless

/-! ## The handlers -/

section Handlers

/-- What is asked of a handler: it arms no timer, or it does so from a transport state and keeps
to its budget only if it does not fail. -/
def Arms (s : PeerRuntime) (budget : Nat) (st : HandlerState) : Prop :=
  st.Armless ∨ (s.isInTransportState = true ∧
    (st.runtime.lifecycle.state = .error → budget < st.effects.length))

theorem state_ne_error (h : s.isInTransportState) : s.lifecycle.state ≠ .error := by
  intro herror
  rw [isInTransportState_iff, herror] at h
  rcases h with h | h
  · cases h
  · cases h

/-- What comes after a first effect that arms nothing. -/
theorem Arms.of_work {first after : HandlerState} (htrans : s.isInTransportState)
    (hcur : first.Current identity) (hident : identity.activationGeneration ≠ 0)
    (hrest : 1 ≤ first.rest) (h : Traffic c p identity first after) : Arms s 6 after := by
  obtain harmless | hlen := h.armless_or_lt hrest (state_ne_error hcur.transport)
    (hcur.activation ▸ hident)
  · exact .inl harmless
  · exact .inr ⟨htrans, hlen⟩

/-- The last effect of a handler so far cancels a timer. -/
theorem one_le_rest_cancel {st : HandlerState} {hook : TimerHook} :
    1 ≤ (st.cancel identity hook).rest := by
  unfold cancel
  rw [rest_add]
  exact Nat.le_add_left _ _

private theorem handleEncryptedDatagram_arms {event : EncryptedDatagramReceivedEvent} :
    Arms s 6 (s.handleEncryptedDatagram c p event) := by
  obtain hsame | ⟨hcurrent, htrans, -⟩ := handleEncryptedDatagram_current (c := c) (p := p) event
  · rw [hsame]
    exact .inl armless_nil
  have hcur : Current event.peer ⟨s, []⟩ :=
    ⟨htrans, eq_of_isCurrentActivation hcurrent⟩
  have hident : event.peer.activationGeneration ≠ 0 :=
    hcur.activation ▸ activation_ne_zero hcurrent
  generalize hst : s.handleEncryptedDatagram c p event = st
  have hreceived : Received c p s event st := hst ▸ handleEncryptedDatagram_received event
  cases hreceived with
  | refused _ after _ _ _ _ _ _ heff =>
    obtain rfl | ⟨endpoint, bytes, rfl⟩ := heff
    · exact .inl armless_nil
    · exact .inl (armless_nil.add rfl)
  | delivered device data =>
    have hauthentic : Carried c p event.peer False
        ⟨{ s with decryptedPacket := .empty, device }, []⟩ _ := authenticate_carried
    exact .of_work htrans (hauthentic.current ⟨hcur.transport, hcur.activation⟩) hident
      one_le_rest_cancel (deliver_work False.elim data)
  | established device derived hlooked hcompletes =>
    have hestablished : Carried c p event.peer False ⟨s, []⟩ _ :=
      hlooked.carried.trans (establish_carried (completeSession_derives hcompletes.derives))
    exact .of_work htrans (hestablished.current hcur) hident one_le_rest_cancel
      (openSession_work False.elim)
  | unanswered => exact .inr ⟨htrans, fun herror => absurd herror (state_ne_error htrans)⟩
  | answered device created derived bytes =>
    have hstate := (recordAuthenticated_spec { s with device := derived } event).2.2.1
    exact .inr ⟨htrans,
      fun herror => absurd (hstate.symm.trans herror) (state_ne_error htrans)⟩

private theorem handleProtocolTimerExpired_arms {event : ProtocolTimerExpiredEvent} :
    Arms s 6 (s.handleProtocolTimerExpired c p event) := by
  unfold handleProtocolTimerExpired
  split
  · exact .inl armless_nil
  rename_i hcurrent
  rw [Bool.not_eq_false] at hcurrent
  simp only
  have hcancelled : (cancel ⟨s, []⟩ event.peer event.hook).Armless :=
    armless_nil.add rfl
  split
  · exact .inl hcancelled
  split
  · exact .inl hcancelled
  rename_i hlive
  -- the expiry has cancelled its own hook before anything can fail
  have harms {after : HandlerState} (hhook : event.hook ≠ .zeroKeyMaterial)
      (h : Traffic c p event.peer (cancel ⟨s, []⟩ event.peer event.hook) after) :
      Arms s 6 after := by
    have htrans : s.isInTransportState := by
      by_contra hnot
      exact hlive ⟨Bool.eq_false_iff.mpr hnot, hhook⟩
    have hact := isCurrentActivation_of_isCurrentExpiry hcurrent
    have hequal := eq_of_isCurrentActivation hact
    exact .of_work htrans ⟨htrans, hequal⟩ (hequal ▸ activation_ne_zero hact)
      one_le_rest_cancel h
  split
  · rename_i hhook
    exact harms (by simp [hhook]) (expireRetransmitHandshake_work False.elim)
  · rename_i hhook
    exact harms (by simp [hhook]) (expireSendKeepalive_work False.elim)
  · rename_i hhook
    exact harms (by simp [hhook]) (expireNewHandshake_work False.elim)
  · rename_i hhook
    exact harms (by simp [hhook]) (expirePersistentKeepalive_work False.elim)
  · exact .inl hcancelled

private theorem handleTransportFailure_armless {event : TransportFailureEvent} :
    (s.handleTransportFailure event).Armless := by
  unfold handleTransportFailure
  split
  · exact armless_nil
  simp only
  split
  · exact armless_nil
  · exact armless_nil.fail _ _ _

private theorem handlePendingDatagramSent_arms (hs : s.Sound c) {event : PendingDatagramSentEvent} :
    Arms s 5 (s.handlePendingDatagramSent c p event) := by
  by_cases hpend : s.pendingDatagram = none
  · unfold handlePendingDatagramSent
    rw [hpend]
    exact .inl armless_nil
  have htrans := hs.pending_transport (Option.isSome_iff_ne_none.mpr hpend)
  obtain hsame | ⟨hcurrent, _, -, hfirst, hwork⟩ :=
    handlePendingDatagramSent_idles (c := c) (p := p) event
  · rw [hsame]
    exact .inl armless_nil
  have htraffic := hfirst.trans hwork.traffic
  obtain harmless | hlt := armless_or_rest_lt
  · exact .inl harmless
  · refine .inr ⟨htrans, fun herror => ?_⟩
    have hfails := (htraffic.fails (state_ne_error htrans) (activation_ne_zero hcurrent)
      herror).1
    omega

/-- What a deactivation gives up is not a timer. -/
theorem givenUp_isTimer : ∀ effect ∈ (s.givenUp identity).effects, effect.isTimer = false := by
  intro effect hmem
  simp only [givenUp, mem_append, mem_ite_nil_right, mem_singleton] at hmem
  rcases hmem with ⟨-, rfl⟩ | ⟨-, rfl⟩
  · rfl
  · rfl

private theorem handleDeactivationRequested_armless {event : DeactivationRequestedEvent}
    (h : s.isCurrentActivation event.peer.activationGeneration) :
    (s.handleDeactivationRequested event).Armless := by
  obtain ⟨timers, intent, cancels, heq, -, hcancels⟩ := handleDeactivationRequested_writes h
  rw [heq]
  intro effect hmem
  rcases mem_append.mp hmem with hmem | hmem
  · have hother := givenUp_isTimer effect hmem
    cases effect with
    | armProtocolTimer => cases hother
    | _ => rfl
  · obtain ⟨hook, token, rfl⟩ := hcancels effect hmem
    rfl

/-- No turn but traffic asks for a timer. -/
theorem Turn.armless {event : PeerEvent} (h : Turn c p s event st)
    (hother : event.isTraffic = false) : st.Armless := by
  have hreject (t : PeerRuntime) (event : UdpBindOpenedEvent) : (t.rejectSocket event).Armless := by
    unfold rejectSocket
    split
    · exact armless_nil.add rfl
    · exact armless_nil
  cases h with
  | idle | doubt | regain | ignore => exact armless_nil
  | traffic _ _ hevent => exact Bool.noConfusion (hother.symm.trans hevent)
  | refuse | unresolved | unkeyed => exact armless_nil.fail _ _ _
  | activate | resolve | rebind | bind => exact armless_nil.add rfl
  | deactivate event hcurrent => exact handleDeactivationRequested_armless hcurrent
  | lose event =>
    rcases losePath_cases { s with pathAvailability := .unavailable } event.peer with
      ⟨-, heq⟩ | ⟨-, -, heq⟩
    · rw [heq]
      exact armless_nil
    · rw [heq]
      exact ((((armless_nil.add rfl).add rfl).add rfl).add rfl).add rfl
  | stale event => exact hreject s event
  | drop event => exact hreject _ event
  | unopened event => exact (hreject _ event).fail _ _ _
  | rebound event binding last _ _ _ _ _ _ _ _ _ _ hrecovered =>
    have hclosing : Armless ⟨s.rebound binding, s.closing⟩ := by
      unfold closing
      split
      · exact armless_nil.add rfl
      · exact armless_nil
    rw [hrecovered]
    exact (Sending.armless (recoverTransport_sending False.elim event.occurredAt) hclosing).add rfl
  | bound _ binding peer _ _ _ _ _ _ _ _ _ _ _ _ _ hstart =>
    rw [hstart]
    exact Sending.armless (sendFirstInitiation_sending False.elim) armless_nil

/-- No handler arms a timer outside a transport state, or arms one, fails and keeps to the budget
of its event. -/
theorem handleEvent_arms (hs : s.Sound c) {event : PeerEvent}
    (h : s.handleEvent c p event = some st) : Arms s event.maxEffects st := by
  have hturn (hother : event.isTraffic = false) : Arms s event.maxEffects st :=
    .inl ((handleEvent_turn h).armless hother)
  cases event with
  | transportFailure event => cases h; exact .inl handleTransportFailure_armless
  | encryptedDatagramReceived event => cases h; exact handleEncryptedDatagram_arms
  | pendingDatagramSent event => cases h; exact handlePendingDatagramSent_arms hs
  | innerPacketStaged event => cases h; exact .inl (handleInnerPacketStaged_sends event).armless
  | innerPacketBatchStaged event =>
    exact .inl (handleInnerPacketBatchStaged_sends h).armless
  | processOutboundQueue event =>
    cases h; exact .inl (handleProcessOutboundQueue_sends event).armless
  | protocolTimerExpired event => cases h; exact handleProtocolTimerExpired_arms
  | _ => exact hturn rfl

end Handlers

end WireguardNx.Runtime
