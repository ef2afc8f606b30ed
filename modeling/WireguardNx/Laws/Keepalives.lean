import WireguardNx.Laws.Erasure
import WireguardNx.Laws.Submissions

/-!
# Keepalives

A peer with a keepalive interval holds a NAT mapping open by a timer that every authenticated packet
arms anew.  The timer is consumed by its own expiry, so that between an expiry and the next packet
something else has to bring the next keepalive about: the datagram in the slot, or the timer of the
handshake's retransmission.  Two events take the last of the three away and leave nothing.

`starves` names them.  On runs without them one of the three is there whenever a peer is served; that
a timer fires or a send completes is left to the platform.
-/

namespace WireguardNx.Runtime

open Wireguard PeerRuntime HandlerState

variable {first : HandlerState} {sent : PendingDatagramSentEvent}
  {expiry : ProtocolTimerExpiredEvent}

/-- The peer is active, with an open binding that is not suspended. -/
def PeerRuntime.isServing (s : PeerRuntime) : Bool :=
  decide (s.lifecycle.state = .active) && s.binding.isOpen && !s.binding.suspended

/-- Something is left that brings the next keepalive about. -/
def PeerRuntime.Reminded (s : PeerRuntime) : Prop :=
  s.timers.isArmed .persistentKeepalive = true ∨ s.pendingDatagram.isSome = true ∨
    s.timers.isArmed .retransmitHandshake = true

/-- Whether an event takes away the last thing that brings a keepalive about: the failure of a
datagram that is not an initiation, or a retransmission that does not retransmit. -/
def PeerRuntime.starves (s : PeerRuntime) : PeerEvent → Bool
  | .pendingDatagramSent event =>
    s.isServing && decide (event.error = .sendFailed) &&
      (s.completing (.pendingDatagramSent event)).any (fun pending =>
        decide (pending.kind ≠ .handshakeInitiation)) &&
      !s.timers.isArmed .persistentKeepalive && !s.timers.isArmed .retransmitHandshake
  | .protocolTimerExpired event =>
    s.isServing && decide (event.hook = .retransmitHandshake) && s.isCurrentExpiry event &&
      (!s.device.peer.handshakeRetry.active ||
        decide (WgPeer.maxSendAttempts ≤ s.device.peer.handshakeRetry.sendAttempts)) &&
      !s.timers.isArmed .persistentKeepalive && s.pendingDatagram.isNone
  | _ => false

/-- What a handler leaves once its requests are granted. -/
def HandlerState.Reminds (s : PeerRuntime) (st : HandlerState) : Prop :=
  st.runtime.isServing = true →
    fateAfter .persistentKeepalive st.effects (s.timers.isArmed .persistentKeepalive) = true ∨
      st.runtime.pendingDatagram.isSome = true ∨
      fateAfter .retransmitHandshake st.effects (s.timers.isArmed .retransmitHandshake) = true

/-- A handler that has armed the keepalive timer, or failed since. -/
def HandlerState.Traversed (st : HandlerState) : Prop :=
  st.runtime.lifecycle.state = .error ∨ fateAfter .persistentKeepalive st.effects false = true

/-- The peer sends keepalives. -/
def PeerRuntime.KeepsAlive (s : PeerRuntime) : Prop :=
  s.hasProtocolPeer = true ∧ 0 < s.device.peer.persistentKeepaliveInterval

section Handlers

variable {c : Crypto} {p : Platform} {s : PeerRuntime} {identity : PeerIdentity}
  {st after : HandlerState}

theorem isServing_iff : s.isServing ↔
    s.lifecycle.state = .active ∧ s.binding.isOpen ∧ s.binding.suspended = false := by
  unfold isServing
  rw [Bool.and_eq_true, Bool.and_eq_true, decide_eq_true_eq, Bool.not_eq_true', and_assoc]

theorem reminds_of_error (h : st.runtime.lifecycle.state = .error) : st.Reminds s := by
  intro hserving
  exact PeerRuntimeState.noConfusion (h.symm.trans (isServing_iff.mp hserving).1)

theorem reminds_of_fail {stage : PeerErrorStage} {code : PeerErrorCode} {now : Ktime} :
    (st.enterActivationError stage code now).Reminds s :=
  reminds_of_error (by rw [enterActivationError_eq])

theorem reminds_of_pending (h : st.runtime.pendingDatagram.isSome) : st.Reminds s :=
  fun _ => .inr (.inl h)

/-- Effects that leave both timers alone, and a runtime that is as busy as before. -/
theorem reminds_of_same (hs : s.isServing → s.Reminded)
    (hserving : st.runtime.isServing → s.isServing)
    (hpend : s.pendingDatagram.isSome → st.runtime.pendingDatagram.isSome)
    (hkeepalive : ∀ armed, fateAfter .persistentKeepalive st.effects armed = armed)
    (hretransmit : ∀ armed, fateAfter .retransmitHandshake st.effects armed = armed) :
    st.Reminds s := by
  intro hst
  rw [hkeepalive, hretransmit]
  obtain h | h | h := hs (hserving hst)
  · exact .inl h
  · exact .inr (.inl (hpend h))
  · exact .inr (.inr h)

/-- What a handler sends reminds it. -/
theorem Sending.reminds {live : Prop} (h : Sending c p identity live st after)
    (hst : st.Reminds s) : after.Reminds s := by
  induction h with
  | refl => exact hst
  | tail _ hstep ih =>
    cases hstep with
    | operate device _ | drop queue _ => exact ih
    | fill => exact reminds_of_pending rfl
    | fail stage code now => exact reminds_of_fail

/-! ## Authenticated packets -/

/-- A hook that was armed before is armed after whatever arms one that was not. -/
theorem fateAfter_mono {hook : TimerHook} {effects : List RuntimeEffect} {first second : Bool}
    (himp : first → second) (h : fateAfter hook effects first) : fateAfter hook effects second := by
  induction effects generalizing first second with
  | nil => exact himp h
  | cons effect effects ih =>
    have hstep (hfirst : effect.fate hook first) : effect.fate hook second := by
      cases effect with
      | armProtocolTimer who which token deadline =>
        by_cases hsame : hook = which
        · exact if_pos hsame
        · exact (if_neg hsame).trans (himp ((if_neg hsame).symm.trans hfirst))
      | cancelProtocolTimer who which token =>
        by_cases hsame : hook = which
        · exact Bool.noConfusion ((if_pos hsame).symm.trans hfirst)
        · exact (if_neg hsame).trans (himp ((if_neg hsame).symm.trans hfirst))
      | _ => exact himp hfirst
    exact ih hstep h

theorem HandlerState.Traversed.reminds (h : st.Traversed) (s : PeerRuntime) : st.Reminds s := by
  obtain herror | harmed := h
  · exact reminds_of_error herror
  · exact fun _ => .inl (fateAfter_mono (fun (hnever : false = true) => nomatch hnever) harmed)

theorem HandlerState.Traversed.add (h : st.Traversed) {effect : RuntimeEffect}
    (heffect : effect.fate .persistentKeepalive true) : (st.add effect).Traversed := by
  obtain herror | harmed := h
  · exact .inl herror
  · refine .inr ((fateAfter_concat _ _ _ _).trans ?_)
    rw [harmed]
    exact heffect

theorem HandlerState.Traversed.of_runtime (h : st.Traversed) (heff : after.effects = st.effects)
    (herror : st.runtime.lifecycle.state = .error → after.runtime.lifecycle.state = .error) :
    after.Traversed := by
  obtain hfailed | harmed := h
  · exact .inl (herror hfailed)
  · exact .inr (heff ▸ harmed)

theorem HandlerState.Traversed.fail (stage : PeerErrorStage) (code : PeerErrorCode) (now : Ktime) :
    (st.enterActivationError stage code now).Traversed :=
  .inl (by rw [enterActivationError_eq])

theorem HandlerState.Traversed.sending {live : Prop} (h : st.Traversed)
    (hsending : Sending c p identity live st after) : after.Traversed := by
  induction hsending with
  | refl => exact h
  | tail _ hstep ih =>
    cases hstep with
    | operate device _ | drop queue _ => exact ih
    | fill => exact ih.add rfl
    | fail stage code now => exact .fail stage code now

theorem PeerRuntime.KeepsAlive.withDevice (h : s.KeepsAlive) {t : PeerRuntime}
    (hsame : WgDevice.SameRecord s.device t.device)
    (hinstantiated : t.instantiated = s.instantiated) : t.KeepsAlive := by
  unfold KeepsAlive hasProtocolPeer at h ⊢
  rw [hinstantiated, hsame.hasPeer, hsame.interval]
  exact h

theorem onAuthenticatedPacketTraversal_traversed {facts : TimerFacts} (h : st.runtime.KeepsAlive) :
    (st.onAuthenticatedPacketTraversal identity facts).Traversed := by
  unfold onAuthenticatedPacketTraversal
  rw [if_pos ⟨h.1, h.2⟩]
  exact .inr ((fateAfter_concat _ _ _ _).trans (fate_arm _ _ _ _ _))

variable {event : EncryptedDatagramReceivedEvent}

theorem enterActiveOrNote_error (h : s.lifecycle.state = .error) :
    (enterActiveOrNote s event).2.lifecycle.state = .error := by
  unfold enterActiveOrNote
  rw [if_neg (by rw [h]; decide)]
  exact h

theorem HandlerState.Traversed.confirmPromoted (h : st.Traversed) :
    (st.confirmPromoted event).Traversed := by
  unfold HandlerState.confirmPromoted
  refine Traversed.add (Traversed.add ?_ rfl) rfl
  exact h.of_runtime rfl fun herror => enterActiveOrNote_error herror

theorem HandlerState.Traversed.publishPayload (h : st.Traversed) (payload : List UInt8) :
    (st.publishPayload event payload).Traversed := by
  have hnoted : (st.onDataPacketReceived event.peer event.timerFacts).Traversed := by
    unfold onDataPacketReceived
    simp only
    split
    · exact h
    split
    · exact h.of_runtime rfl id
    · exact h.add rfl
  unfold HandlerState.publishPayload
  simp only
  split
  · exact hnoted
  · exact Traversed.add (hnoted.of_runtime rfl id) rfl

theorem PeerRuntime.KeepsAlive.recordAuthenticated (h : s.KeepsAlive)
    (event : EncryptedDatagramReceivedEvent) : (recordAuthenticated s event).KeepsAlive := by
  unfold HandlerState.recordAuthenticated updateEndpointFromAuthenticatedPacket
  split
  · exact h
  · exact h

theorem traverse_traversed {st : HandlerState} {event : EncryptedDatagramReceivedEvent}
    (h : st.runtime.KeepsAlive) : (st.traverse event).Traversed :=
  (onAuthenticatedPacketTraversal_traversed h).add rfl

private theorem deliver_traversed {st : HandlerState} (h : st.runtime.KeepsAlive)
    {data : IncomingTransportData} : (st.deliver c p event data).Traversed := by
  have hauthentic : (st.authenticate event).Traversed :=
    traverse_traversed (h.recordAuthenticated event)
  have hrefreshed : ((st.authenticate event).refreshKeyFreshness c p event.peer
      event.occurredAt).Traversed :=
    hauthentic.sending (refreshKeyFreshness_tried False.elim event.occurredAt).sending
  unfold deliver
  simp only
  have hconfirmed {refreshed : HandlerState} (h : refreshed.Traversed) :
      (if data.promotedNextKeypair = true then refreshed.confirmPromoted event
        else refreshed).Traversed := by
    split
    · exact h.confirmPromoted
    · exact h
  split
  · exact hconfirmed hrefreshed
  · exact (hconfirmed hrefreshed).publishPayload data.payload

private theorem establish_traversed {st : HandlerState} (h : st.runtime.KeepsAlive) :
    (st.establish event).Traversed := by
  have hauthentic : (st.authenticate event).Traversed :=
    traverse_traversed (h.recordAuthenticated event)
  have hentered : Traversed { st.authenticate event with
      runtime := (enterActiveOrNote (st.authenticate event).runtime event).2 } :=
    hauthentic.of_runtime rfl fun herror => enterActiveOrNote_error herror
  exact Traversed.add (hentered.add rfl) rfl

theorem HandlerState.Traversed.openSession (h : st.Traversed) :
    (st.openSession c p event).Traversed := by
  unfold HandlerState.openSession
  split
  · exact h.add rfl
  · exact h.sending
      (sendKeepaliveOrFail_tried False.elim event.occurredAt).sending

private theorem completeSession_sameRecord {device completed : WgDevice} {ok : Bool}
    (h : completeSession c p device = (ok, completed)) : WgDevice.SameRecord device completed := by
  unfold Wireguard.completeSession at h
  split at h
  · rename_i hbegin
    cases h
    exact beginSession_sameRecord hbegin
  · rename_i hbegin
    cases h
    exact (beginSession_sameRecord hbegin).trans ⟨rfl, rfl, rfl⟩

/-- A received datagram changes nothing the keepalives depend on, or arms their timer. -/
theorem handleEncryptedDatagram_reminds (hs : s.isServing → s.Reminded)
    (halive : s.hasProtocolPeer → s.KeepsAlive) :
    (s.handleEncryptedDatagram c p event).Reminds s := by
  obtain hsame | ⟨-, -, hpeer⟩ := handleEncryptedDatagram_current (c := c) (p := p) event
  · rw [hsame]
    exact reminds_of_same hs id id (fun _ => rfl) fun _ => rfl
  generalize hst : s.handleEncryptedDatagram c p event = st
  have hreceived : Received c p s event st := hst ▸ handleEncryptedDatagram_received event
  cases hreceived with
  | refused device after effects hlooked hsetup hwork hstate _ heff =>
    have hserving : after.isServing = s.isServing := by
      unfold isServing UdpBinding.isOpen
      rw [hstate, show after.binding.socket = s.binding.socket from congrArg Setup.socket hsetup,
        show after.binding.suspended = s.binding.suspended from congrArg Setup.suspended hsetup]
    simp only [work, Prod.mk.injEq] at hwork
    refine reminds_of_same hs (fun h => hserving ▸ h) (fun h => hwork.2.1 ▸ h) ?_ ?_
    · obtain rfl | ⟨endpoint, bytes, rfl⟩ := heff
      · exact fun _ => rfl
      · exact fun _ => rfl
    · obtain rfl | ⟨endpoint, bytes, rfl⟩ := heff
      · exact fun _ => rfl
      · exact fun _ => rfl
  | delivered device data hcons =>
    have hrecord := (DeviceOp.receive (c := c) (p := p) s.device event.packet).sameRecord
    rw [hcons] at hrecord
    have hkept : KeepsAlive { s with decryptedPacket := .empty, device } :=
      (halive hpeer).withDevice hrecord rfl
    exact (deliver_traversed hkept).reminds s
  | established device derived hlooked hcompletes =>
    have hkept : KeepsAlive { s with device := derived } :=
      (halive hpeer).withDevice (hlooked.sameRecord.trans
        (completeSession_sameRecord hcompletes.derives)) rfl
    exact (establish_traversed hkept).openSession.reminds s
  | unanswered device failed hlooked =>
    have hkept : KeepsAlive { s with device } :=
      (halive hpeer).withDevice hlooked.sameRecord rfl
    refine Traversed.reminds ?_ s
    refine (traverse_traversed hkept).of_runtime rfl fun herror => ?_
    rw [traverse_runtime] at herror
    exact herror
  | answered => exact reminds_of_pending rfl

/-! ## Expiries -/

/-- Where the handshake runs already, the timer of its retransmission is armed. -/
theorem HandlerState.Attempts.reminds (h : first.Attempts after)
    (hdev : first.runtime.device = s.device)
    (hmirror : (s.device.peer.timers.hooks .retransmitHandshake).pending =
      s.timers.isArmed .retransmitHandshake)
    (hfirst : ∀ armed, fateAfter .retransmitHandshake first.effects armed = armed) :
    after.Reminds s := by
  obtain herror | hpend | ⟨rfl, -, hrunning⟩ := h
  · exact reminds_of_error herror
  · exact reminds_of_pending hpend
  · rw [hdev, hmirror] at hrunning
    exact fun _ => .inr (.inr (by rw [hfirst]; exact hrunning))

theorem reminds_of_not_serving (h : st.runtime.isServing = false) : st.Reminds s :=
  fun hserving => Bool.noConfusion (h.symm.trans hserving)

theorem isServing_of_not_active (h : s.lifecycle.state ≠ .active) : s.isServing = false :=
  Bool.eq_false_iff.mpr fun hserving => h (isServing_iff.mp hserving).1

theorem isServing_of_suspended (h : s.binding.suspended) : s.isServing = false :=
  Bool.eq_false_iff.mpr fun hserving =>
    Bool.noConfusion (h.symm.trans (isServing_iff.mp hserving).2.2)

/-- An expiry that does not starve the peer is followed by something sent, or leaves the two timers
and the slot as they were. -/
theorem handleProtocolTimerExpired_reminds (hs : s.isServing → s.Reminded) (htimed : s.Timed)
    (hstarves : s.starves (.protocolTimerExpired expiry) = false)
    (halive : s.hasProtocolPeer → s.KeepsAlive) :
    (s.handleProtocolTimerExpired c p expiry).Reminds s := by
  unfold handleProtocolTimerExpired
  split
  · exact reminds_of_same hs id id (fun _ => rfl) fun _ => rfl
  rename_i hcur
  rw [Bool.not_eq_false] at hcur
  have hpeer : s.hasProtocolPeer := by
    unfold isCurrentExpiry at hcur
    simp only [Bool.and_eq_true] at hcur
    exact hcur.1.2
  have hmirror := htimed.mirror hpeer .retransmitHandshake
  have hother (hook : TimerHook) (hne : hook ≠ expiry.hook) (armed : Bool) :
      fateAfter hook (cancel ⟨s, []⟩ expiry.peer expiry.hook).effects armed = armed :=
    if_neg hne
  simp only
  split
  · rename_i hsusp
    exact reminds_of_not_serving (isServing_of_suspended hsusp.1)
  split
  · rename_i hstate
    refine reminds_of_not_serving (isServing_of_not_active fun hactive => ?_)
    exact Bool.noConfusion (hstate.1.symm.trans ((isInTransportState_iff s).mpr (.inr hactive)))
  have hended {st : HandlerState} (hhook : .retransmitHandshake ≠ expiry.hook)
      (h : ((cancel ⟨s, []⟩ expiry.peer expiry.hook).runtime.lifecycle.state ≠ .active ∧
          st = cancel ⟨s, []⟩ expiry.peer expiry.hook) ∨
        (cancel ⟨s, []⟩ expiry.peer expiry.hook).Attempts st) : st.Reminds s := by
    obtain ⟨hstate, rfl⟩ | hattempts := h
    · exact reminds_of_not_serving (isServing_of_not_active hstate)
    · exact hattempts.reminds rfl hmirror (hother _ hhook)
  split
  · rename_i hhook
    obtain herror | hpend | ⟨hgives, device, effects, hst, -, heff⟩ :=
      expireRetransmitHandshake_cases (c := c) (p := p)
        (cancel ⟨s, []⟩ expiry.peer expiry.hook) expiry
    · exact reminds_of_error herror
    · exact reminds_of_pending hpend
    rw [hst]
    intro hserving
    have hfate : fateAfter .persistentKeepalive effects (s.timers.isArmed .persistentKeepalive) =
        s.timers.isArmed .persistentKeepalive := by
      have hcancel := hother .persistentKeepalive (by rw [hhook]; decide)
      obtain rfl | ⟨deadline, rfl⟩ := heff
      · exact hcancel _
      · rw [fateAfter_concat, hcancel]
        rfl
    by_contra hneither
    obtain ⟨hunarmed, hneither⟩ := not_or.mp hneither
    have hempty := (not_or.mp hneither).1
    rw [hfate, Bool.not_eq_true] at hunarmed
    simp [starves, show s.isServing = true from hserving, hhook, hcur, hunarmed,
      show ¬ s.pendingDatagram.isSome = true from hempty] at hstarves
    rcases hgives with hinactive | hexhausted
    · exact Bool.noConfusion (hinactive.symm.trans hstarves.1)
    · exact absurd hexhausted (UInt32.not_le.mpr hstarves.2)
  · rename_i hhook
    exact hended (by rw [hhook]; decide) (expireSendKeepalive_cases _ expiry)
  · rename_i hhook
    exact hended (by rw [hhook]; decide) (expireNewHandshake_cases _ expiry)
  · rename_i hhook
    refine hended (by rw [hhook]; decide) ?_
    refine (expirePersistentKeepalive_cases _ expiry).imp_left fun hidle => ⟨?_, hidle.2⟩
    exact hidle.1.resolve_right fun hzero => UInt16.lt_irrefl 0 (hzero ▸ (halive hpeer).2)
  · rename_i hhook
    exact reminds_of_same hs id id (hother _ (by rw [hhook]; decide))
      (hother _ (by rw [hhook]; decide))

/-! ## Finished sends -/

/-- A datagram that was sent arms the timer. -/
theorem completeSent_traversed {kind : PendingDatagramKind} (h : s.KeepsAlive) :
    (completeSent c p ⟨s, []⟩ sent kind).Traversed := by
  have hnoted : ((onAuthenticatedPacketTraversal
      ⟨s.recordTransmittedBytes sent.bytesSent sent.occurredAt, []⟩ sent.peer sent.timerFacts)
        |>.onAuthenticatedPacketSent sent.peer).Traversed :=
    (onAuthenticatedPacketTraversal_traversed h).add rfl
  unfold completeSent
  cases kind with
  | handshakeInitiation =>
    simp only
    split
    · exact Traversed.add ((hnoted.add rfl).of_runtime rfl id) rfl
    · exact hnoted.add rfl
  | handshakeResponse => exact hnoted
  | transportData =>
    simp only
    split
    · refine Traversed.sending ?_
        (refreshKeyFreshness_tried False.elim sent.occurredAt).sending
      refine Traversed.add ?_ rfl
      unfold onDataPacketSent
      split
      · exact Traversed.add (hnoted.of_runtime rfl id) rfl
      · exact hnoted.of_runtime rfl id
    · exact hnoted
  | keepalive =>
    exact hnoted.sending
      (refreshKeyFreshness_tried False.elim sent.occurredAt).sending

/-- A datagram that was not sent leaves both timers alone, arms the one of the retransmission, or
ends the activation. -/
theorem completeFailed_reminds {kind : PendingDatagramKind}
    (hkept : sent.error = .sendFailed → kind ≠ .handshakeInitiation → s.isServing →
      s.timers.isArmed .persistentKeepalive ∨
        s.timers.isArmed .retransmitHandshake) :
    (completeFailed ⟨{ s with pendingDatagram := none }, []⟩ sent kind).Reminds s := by
  rw [completeFailed_eq]
  split
  · rename_i herror
    split
    · exact fun _ => .inr (.inr ((fateAfter_concat _ _ _ _).trans (fate_arm _ _ _ _ _)))
    · rename_i hkind
      intro hserving
      have hsame : s.isServing := by
        unfold completed at hserving
        split at hserving
        · exact hserving
        · exact hserving
      exact (hkept herror hkind hsame).imp_right .inr
  · exact reminds_of_fail

private theorem handlePendingDatagramSent_reminds (hsound : s.Sound c)
    (hs : s.isServing → s.Reminded)
    (hstarves : s.starves (.pendingDatagramSent sent) = false)
    (halive : s.hasProtocolPeer → s.KeepsAlive) :
    (s.handlePendingDatagramSent c p sent).Reminds s := by
  unfold handlePendingDatagramSent
  split
  · exact reminds_of_same hs id id (fun _ => rfl) fun _ => rfl
  rename_i pending hpend
  split
  · exact reminds_of_same hs id id (fun _ => rfl) fun _ => rfl
  rename_i hcur
  have hkeeps := halive (hsound.transport_peer (hsound.pending_transport (by rw [hpend]; rfl)))
  simp only
  split
  · exact (completeSent_traversed (s := { s with pendingDatagram := none }) hkeeps).reminds s
  · refine completeFailed_reminds fun herror hkind hserving => ?_
    simp only [not_or, Bool.not_eq_false, not_not] at hcur
    simpa [starves, completing, hserving, herror, hcur, hpend, hkind,
      or_iff_not_imp_left] using hstarves

/-! ## Paths and sockets -/

/-- A path that is lost takes the socket with it. -/
theorem losePath_not_serving {identity : PeerIdentity} :
    (s.losePath identity).runtime.isServing = false := by
  rcases losePath_cases s identity with ⟨hclosed, heq⟩ | ⟨-, -, heq⟩
  · rw [heq]
    exact Bool.eq_false_iff.mpr fun hserving => hclosed (isServing_iff.mp hserving).2
  · rw [heq]
    exact isServing_of_suspended rfl

private theorem reminds_of_resolving (h : s.lifecycle.state = .resolvingEndpoint)
    (hst : st.runtime.lifecycle.state = s.lifecycle.state) : st.Reminds s :=
  reminds_of_not_serving (isServing_of_not_active (by rw [hst, h]; decide))

theorem HandlerState.Reminds.add (h : st.Reminds s) {effect : RuntimeEffect}
    (heffect : ∀ hook armed, effect.fate hook armed = armed) : (st.add effect).Reminds s := by
  intro hserving
  have hkept (hook : TimerHook) (armed : Bool) :
      fateAfter hook (st.add effect).effects armed = fateAfter hook st.effects armed :=
    (fateAfter_concat _ _ _ _).trans (heffect _ _)
  rw [hkept, hkept]
  exact h hserving

/-- No turn but traffic takes away what brings the next keepalive about. -/
theorem Turn.reminds {event : PeerEvent} (h : Turn c p s event st)
    (hother : event.isTraffic = false)
    (hsound : s.Sound c) (hs : s.isServing → s.Reminded) (htimed : s.Timed) : st.Reminds s := by
  have hidle : Reminds s ⟨s, []⟩ :=
    reminds_of_same hs id id (fun _ => rfl) fun _ => rfl
  have hrejected (generation : UInt32) (opened : UdpBindOpenedEvent) : Reminds s
      (rejectSocket { s with pendingSocketGeneration := generation } opened) := by
    unfold rejectSocket
    split
    · exact reminds_of_same hs id id (fun _ => rfl) fun _ => rfl
    · exact reminds_of_same hs id id (fun _ => rfl) fun _ => rfl
  cases h with
  | idle | ignore => exact hidle
  | traffic _ _ hevent => exact Bool.noConfusion (hother.symm.trans hevent)
  | refuse | unresolved | unopened | unkeyed => exact reminds_of_fail
  | activate => exact reminds_of_not_serving (isServing_of_not_active (fun h => nomatch h))
  | deactivate event hcur =>
    refine reminds_of_not_serving (isServing_of_not_active ?_)
    rw [(handleDeactivationRequested_spec hcur).1.state]
    decide
  | doubt | regain | resolve | rebind => exact reminds_of_same hs id id (fun _ => rfl) fun _ => rfl
  | lose => exact reminds_of_not_serving losePath_not_serving
  | bind _ _ hstate => exact reminds_of_resolving hstate rfl
  | stale opened => exact hrejected s.pendingSocketGeneration opened
  | drop opened => exact hrejected 0 opened
  | rebound opened binding st _ _ htrans _ _ _ _ _ _ _ hrecovered =>
    -- a socket that is adopted is used at once
    have hpeer := hsound.transport_peer htrans
    have hattempts : Attempts ⟨s.rebound binding, s.closing⟩ st := by
      rw [hrecovered]
      exact recoverTransport_attempts opened.occurredAt hpeer
    refine (hattempts.reminds rfl (htimed.mirror hpeer _) fun armed => ?_).add fun _ _ => rfl
    unfold closing
    split
    · rfl
    · rfl
  | bound _ binding peer _ _ _ _ _ _ _ _ _ _ _ _ _ hstart =>
    rw [hstart]
    refine (sendFirstInitiation_sending False.elim).reminds ?_
    exact reminds_of_not_serving (isServing_of_not_active (fun h => nomatch h))

/-- Whatever does not starve a peer leaves it reminded. -/
theorem handleEvent_reminds {event : PeerEvent} (hsound : s.Sound c) (htimed : s.Timed)
    (hs : s.isServing → s.Reminded) (hstarves : s.starves event = false)
    (halive : s.hasProtocolPeer → s.KeepsAlive) (h : s.handleEvent c p event = some st) :
    st.Reminds s := by
  have hidle : Reminds s ⟨s, []⟩ :=
    reminds_of_same hs id id (fun _ => rfl) fun _ => rfl
  have hsends {event : PeerEvent} {st : HandlerState} (h : Sends c p s event st) :
      st.Reminds s := by
    obtain rfl | ⟨-, queue, -, hsending⟩ := h
    · exact hidle
    · exact hsending.reminds (reminds_of_same hs id id (fun _ => rfl) fun _ => rfl)
  have hturn (hother : event.isTraffic = false) : st.Reminds s :=
    (handleEvent_turn h).reminds hother hsound hs htimed
  cases event with
  | transportFailure event =>
    cases h
    unfold handleTransportFailure
    split
    · exact hidle
    simp only
    split
    · exact hidle
    · exact reminds_of_fail
  | encryptedDatagramReceived event => cases h; exact handleEncryptedDatagram_reminds hs halive
  | pendingDatagramSent event =>
    cases h; exact handlePendingDatagramSent_reminds hsound hs hstarves halive
  | innerPacketStaged event => cases h; exact hsends (handleInnerPacketStaged_sends event)
  | innerPacketBatchStaged event => exact hsends (handleInnerPacketBatchStaged_sends h)
  | processOutboundQueue event => cases h; exact hsends (handleProcessOutboundQueue_sends event)
  | protocolTimerExpired event =>
    cases h; exact handleProtocolTimerExpired_reminds hs htimed hstarves halive
  | _ => exact hturn rfl

end Handlers

/-! ## Runs -/

/-- The protocol peer sends keepalives at the interval that is configured. -/
def PeerRuntime.Paced (s : PeerRuntime) : Prop :=
  s.hasProtocolPeer = true →
    s.device.peer.persistentKeepaliveInterval = s.config.persistentKeepalive

section Runs

variable {c : Crypto} {p : Platform} {s after : PeerRuntime} {st : HandlerState} {event : PeerEvent}
  {batch : EffectBatch}

theorem Work.config {identity : PeerIdentity} (h : Traffic c p identity first st) :
    st.runtime.config = first.runtime.config := by
  obtain hkept | hfailed := h.outcome
  · exact congrArg Setup.config hkept.setup
  · exact congrArg Setup.config hfailed.setup

theorem Work.paced {identity : PeerIdentity} (h : Traffic c p identity first st)
    (hfirst : first.runtime.Paced) : st.runtime.Paced := by
  intro hpeer
  rw [h.activation.2.2.2] at hpeer
  rw [h.sameRecord.interval, h.config]
  exact hfirst hpeer

theorem PeerRuntime.Paced.fail (h : st.runtime.Paced) (stage : PeerErrorStage)
    (code : PeerErrorCode) (now : Ktime) :
    (st.enterActivationError stage code now).runtime.Paced := by
  have hrecord := enterActivationError_sameRecord st stage code now
  rw [enterActivationError_eq] at hrecord ⊢
  intro hpeer
  unfold hasProtocolPeer at hpeer
  rw [hrecord.hasPeer] at hpeer
  exact hrecord.interval.trans (h hpeer)

private theorem initializePeer_interval {key : NoiseKey} {text : List Char} {psk : Option NoiseKey}
    {interval : UInt16} {peer : WgPeer}
    (h : WgPeer.initializePeer c key text psk interval = some peer) :
    peer.persistentKeepaliveInterval = interval := by
  unfold WgPeer.initializePeer at h
  split at h
  · cases h
  split at h
  · cases h
  · cases h
    rfl

theorem Turn.paced (h : Turn c p s event st) (hs : s.Paced) : st.runtime.Paced := by
  cases h with
  | idle | doubt | regain | resolve | rebind | ignore | bind => exact hs
  | traffic _ _ _ _ htraffic => exact htraffic.paced hs
  | refuse | unresolved => exact Paced.fail hs _ _ _
  | activate => exact nofun
  | deactivate request hcur =>
    intro hpeer
    unfold hasProtocolPeer at hpeer
    rw [(handleDeactivationRequested_spec hcur).1.instantiated] at hpeer
    cases hpeer
  | lose => rw [losePath_runtime]; exact hs
  | stale | drop => rw [rejectSocket_runtime]; exact hs
  | unopened =>
    refine Paced.fail ?_ _ _ _
    rw [rejectSocket_runtime]
    exact hs
  | rebound event binding _ _ _ _ _ _ _ _ _ _ _ _ htraffic =>
    have hrebound : (s.rebound binding).Paced := hs
    exact htraffic.paced hrebound
  | bound event binding peer _ _ _ _ _ _ _ _ _ _ _ _ hpeer _ htraffic =>
    obtain ⟨key, text, psk, hpeer⟩ := hpeer
    exact htraffic.paced fun _ => initializePeer_interval hpeer
  | unkeyed event binding =>
    have hreset : (s.rebound binding).resetProtocol.Paced := nofun
    exact Paced.fail hreset _ _ _

/-- No event configures a peer. -/
theorem Turn.config (h : Turn c p s event st) : st.runtime.config = s.config := by
  cases h with
  | traffic _ _ _ _ htraffic | rebound event binding _ _ _ _ _ _ _ _ _ _ _ _ htraffic
  | bound event binding peer _ _ _ _ _ _ _ _ _ _ _ _ _ _ htraffic => exact htraffic.config
  | refuse | unresolved => rw [enterActivationError_eq]
  | deactivate request hcur =>
    obtain ⟨timers, intent, cancels, heq, -⟩ := handleDeactivationRequested_writes hcur
    rw [heq]
    rfl
  | lose => rw [losePath_runtime]
  | stale | drop => rw [rejectSocket_runtime]
  | unopened => rw [enterActivationError_eq, rejectSocket_runtime]
  | unkeyed => rw [enterActivationError_eq]; rfl
  | _ => rfl

/-- A peer with an interval is never left without anything that brings the next keepalive about. -/
structure PeerRuntime.Attended (s : PeerRuntime) : Prop extends s.Clocked where
  paced : s.Paced
  reminded : 0 < s.config.persistentKeepalive → s.isServing = true → s.Reminded

private theorem handle_attended (hsound : s.Sound c) (hs : s.Attended) (hevent : event.Admissible s)
    (hindex : event.peerIndex = s.peerIndex) (hstarves : s.starves event = false)
    (h : s.handle c p event = some (after, batch)) : after.Attended := by
  have hclocked := handle_clocked hsound hs.toClocked hevent hindex h
  obtain ⟨st, hst, -, hfinal⟩ := handle_finalized h
  have hturn := handleEvent_turn hst
  obtain rfl : (finalizeTimerEffects st.effects st.runtime).2 = after :=
    congrArg Prod.snd hfinal
  obtain ⟨⟨timers, intent, htimers⟩, -⟩ := finalizeTimerEffects_spec st.effects st.runtime
  refine ⟨hclocked, ?_, fun hinterval hserving => ?_⟩
  · rw [htimers]
    exact hturn.paced hs.paced
  have hconfig : (st.runtime.withTimers timers intent).config = s.config := hturn.config
  have hactive : st.runtime.isServing := by rwa [htimers] at hserving
  rw [htimers, hconfig] at hinterval
  have halive (hpeer : s.hasProtocolPeer) : s.KeepsAlive :=
    ⟨hpeer, by rw [hs.paced hpeer]; exact hinterval⟩
  have hreminds := handleEvent_reminds hsound hs.toTimed (hs.reminded hinterval) hstarves halive hst
    hactive
  -- a deactivation is not active, so that every timer effect is the peer's own
  have hstays (request : DeactivationRequestedEvent)
      (hreq : event = .deactivationRequested request) :
      s.isCurrentActivation request.peer.activationGeneration = false := by
    refine Bool.eq_false_iff.mpr fun hcur => ?_
    subst hreq
    cases hst
    have hinactive := (handleDeactivationRequested_spec hcur).1.state
    exact PeerRuntimeState.noConfusion (hinactive.symm.trans (isServing_iff.mp hactive).1)
  have hpeer : st.runtime.hasProtocolPeer :=
    (handleEvent_sound hst hevent hsound).transport_peer
      ((isInTransportState_iff _).mpr (.inr (isServing_iff.mp hactive).1))
  have hfate := finalizeTimerEffects_fate (hturn.own hindex hstays) hpeer
  rw [hturn.timers hstays] at hfate
  unfold Reminded
  rw [hfate, hfate, htimers]
  exact hreminds

private theorem configured_attended (h : s.Configured) : s.Attended := by
  have hclocked := configured_clocked h
  obtain ⟨peerIndex, config, derived, now, hconf⟩ := h
  unfold configure at hconf
  rw [if_neg (by decide)] at hconf
  cases hconf
  exact ⟨hclocked, (nofun), (nofun)⟩

private theorem peersWhere_attended (h : (peersWhere c fun s event => event.peerIndex = s.peerIndex ∧
      s.starves event = false).Reachable s) : s.Attended := by
  refine h.invariant ?_ ?_
  · exact fun s hconfigured => configured_attended hconfigured
  · rintro s t hreach hs ⟨⟨p, event⟩, ⟨hevent, hindex, hstarves⟩, hstep⟩
    obtain ⟨⟨after, batch⟩, hhandle, rfl⟩ := Option.map_eq_some_iff.mp hstep
    exact handle_attended (peersWhere_sound hreach) hs hevent hindex hstarves hhandle

/-- In every run without a starving event, a peer with an interval that is active, with an open
binding that is not suspended, has its keepalive timer armed, a datagram in the slot, or the timer
of the handshake's retransmission armed. -/
theorem keepalives_continue (h : (peersWhere c fun s event => event.peerIndex = s.peerIndex ∧
      s.starves event = false).Reachable s)
    (hinterval : 0 < s.config.persistentKeepalive) (hactive : s.lifecycle.state = .active)
    (hopen : s.binding.isOpen = true) (hsusp : s.binding.suspended = false) :
    s.timers.isArmed .persistentKeepalive = true ∨ s.pendingDatagram.isSome = true ∨
      s.timers.isArmed .retransmitHandshake = true :=
  (peersWhere_attended h).reminded hinterval (isServing_iff.mpr ⟨hactive, hopen, hsusp⟩)

end Runs

def samplePersistentPeer : Option PeerRuntime :=
  empty.configure 0 ⟨"host:1".toList, encodedTwos, "0.0.0.0/0".toList, 25, 0⟩
    ⟨.of (List.Vector.replicate 32 1), .clear, false, true⟩ 0

def samplePersistentRun (allowed : PeerRuntime → PeerEvent → Prop)
    [∀ s event, Decidable (allowed s event)] (events : List (Platform × PeerEvent)) :
    Option PeerRuntime :=
  samplePersistentPeer.bind (Machine.runActions
    (fun s step => step.2.Admissible s ∧ allowed s step.2) (after .transparent) events)

theorem samplePersistentRun_reachable {allowed : PeerRuntime → PeerEvent → Prop}
    [∀ s event, Decidable (allowed s event)] {events : List (Platform × PeerEvent)}
    {s : PeerRuntime} (h : samplePersistentRun allowed events = some s) :
    (peersWhere .transparent allowed).Reachable s := by
  obtain ⟨first, hfirst, hrun⟩ := Option.bind_eq_some_iff.mp h
  exact .of_runActions (.start ⟨_, _, _, _, hfirst⟩) hrun

/-- What the keepalives of a peer depend on. -/
def PeerRuntime.keepaliveFacts (s : PeerRuntime) : UInt16 × Bool × Bool × Bool × Bool :=
  (s.config.persistentKeepalive, s.isServing, s.timers.isArmed .persistentKeepalive,
    s.pendingDatagram.isSome, s.timers.isArmed .retransmitHandshake)

/-- The sample peer after its first keepalive waits for the timer of the next. -/
theorem keepalives_continue_sample : ∃ s, samplePersistentRun
        (fun s event => event.peerIndex = s.peerIndex ∧ s.starves event = false)
        (sampleEstablished ++ [sampleSent (seconds 11) 2 .none]) = some s ∧
      (s.timers.isArmed .persistentKeepalive = true ∨ s.pendingDatagram.isSome = true ∨
        s.timers.isArmed .retransmitHandshake = true) := by
  have hrun : (samplePersistentRun (fun s event => event.peerIndex = s.peerIndex ∧
      s.starves event = false) (sampleEstablished ++ [sampleSent (seconds 11) 2 .none])).map
        keepaliveFacts = some (25, true, true, false, false) := by
    decide +kernel
  obtain ⟨s, hs, hfacts⟩ := Option.map_eq_some_iff.mp hrun
  simp only [keepaliveFacts, Prod.mk.injEq] at hfacts
  obtain ⟨hinterval, hserving, -⟩ := hfacts
  obtain ⟨hactive, hopen, hsusp⟩ := isServing_iff.mp hserving
  exact ⟨s, hs, keepalives_continue (samplePersistentRun_reachable hs) (by rw [hinterval]; decide)
    hactive hopen hsusp⟩

/-- The first keepalive is sent; 25 seconds later the timer expires, and the keepalive it prepares
fails with a local send error.  Nothing is armed and nothing is pending any more. -/
theorem keepalives_end :
    ∃ s, (peersWhere .transparent fun s event => event.peerIndex = s.peerIndex).Reachable s ∧
      0 < s.config.persistentKeepalive ∧ s.lifecycle.state = .active ∧ s.binding.isOpen = true ∧
      s.binding.suspended = false ∧
      ¬ (s.timers.isArmed .persistentKeepalive = true ∨ s.pendingDatagram.isSome = true ∨
        s.timers.isArmed .retransmitHandshake = true) := by
  have hrun : (samplePersistentRun (fun s event => event.peerIndex = s.peerIndex)
      (sampleEstablished ++ [sampleSent (seconds 11) 2 .none,
        sampleExpired (seconds 36) .persistentKeepalive 9,
        sampleSent (seconds 36) 3 .sendFailed])).map keepaliveFacts =
          some (25, true, false, false, false) := by
    decide +kernel
  obtain ⟨s, hs, hfacts⟩ := Option.map_eq_some_iff.mp hrun
  simp only [keepaliveFacts, Prod.mk.injEq] at hfacts
  obtain ⟨hinterval, hserving, hkeepalive, hpend, hretransmit⟩ := hfacts
  obtain ⟨hactive, hopen, hsusp⟩ := isServing_iff.mp hserving
  refine ⟨s, samplePersistentRun_reachable hs, by rw [hinterval]; decide, hactive, hopen,
    hsusp, ?_⟩
  rw [hkeepalive, hpend, hretransmit]
  decide

end WireguardNx.Runtime
