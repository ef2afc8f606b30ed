import WireguardNx.Laws.Expiry

/-!
# Effect budgets

Every event has a budget of effects, and a handler that adds more aborts the process.  Entering the
error state with an open socket costs six.  A completed send, a staged packet and a drained queue
have a budget of five, so they abort whenever they fail; a timer expiry aborts with them, and a
replaced socket does when the failure comes on top of the close of the old one.  A handshake response
aborts when the keepalive of the session it completes cannot be sent, because the clock has left the
life of the session between two readings.  `Overruns` collects these cases.  With primitives that
succeed every other event of a reachable peer is handled; nothing is assumed of the clock.
-/

namespace WireguardNx.Runtime

open Wireguard PeerRuntime HandlerState List

variable {c : Crypto} {p : Platform} {s : PeerRuntime}

/-! ## The condition -/

/-- A drained queue would try to send a packet that does not fit. -/
def PeerRuntime.jams (p : Platform) (s : PeerRuntime) (identity : PeerIdentity)
    (packets : List InnerPacketRecord) : Bool :=
  s.binding.isOpen && s.pendingDatagram.isNone && s.oversized p (nextPacket identity packets)

/-- The replacement socket is taken over by a peer that could not send over it. -/
def PeerRuntime.recoveryFails (p : Platform) (s : PeerRuntime) (identity : PeerIdentity) : Bool :=
  let next := nextPacket identity s.device.peer.stagedOutboundPackets.toList
  s.pendingDatagram.isNone && decide (s.lifecycle.state = .active) && s.canSend p .recover &&
    (s.oversized p next || (s.binding.isOpen && !s.canSend p .createKeepalive &&
      (next.isNone || s.waits p next)))

/-- The checks that a replacement socket has to pass to be taken over. -/
def PeerRuntime.adoptsRebind (s : PeerRuntime) (event : UdpBindOpenedEvent) : Bool :=
  decide (event.purpose = .rebind) && decide (event.socketGeneration ≠ 0) &&
    s.isCurrentPathRequest event.peer.activationGeneration event.pathGeneration &&
    decide (event.socketGeneration = s.pendingSocketGeneration) &&
    decide (s.pendingBindPurpose = .rebind) && s.isInTransportState && s.binding.hasEndpoint &&
    !s.waitingForLocalPath && decide (s.pathAvailability = .available) &&
    decide (event.error = .none) && decide (event.socket ≠ invalidSocket)

/-- The events whose handlers add more effects than their budget allows. -/
def PeerRuntime.Overruns (c : Crypto) (p : Platform) (s : PeerRuntime) : PeerEvent → Prop
  | .pendingDatagramSent event => (s.completing (.pendingDatagramSent event)).isSome = true ∧
      event.error ≠ .none ∧ event.error ≠ .sendFailed ∧ s.binding.isOpen = true
  | .innerPacketStaged event => s.isCurrentActivation event.peer.activationGeneration = true ∧
      stageable event.packet = true ∧ s.canStageInnerPackets 1 = true ∧
      s.jams p event.peer (s.device.peer.stagedOutboundPackets.toList ++
        [stagingRecord event.peer event.packet event.packetId]) = true
  | .innerPacketBatchStaged event => s.isCurrentActivation event.peer.activationGeneration = true ∧
      event.packets ≠ [] ∧ event.packets.length ≤ maximumInnerPacketBatchSize ∧
      s.canStageInnerPackets event.packets.length = true ∧
      (event.packets.all fun packet => stageable packet.1) = true ∧
      s.jams p event.peer (s.device.peer.stagedOutboundPackets.toList ++ event.packets.map
        fun packet => stagingRecord event.peer packet.1 packet.2) = true
  | .processOutboundQueue event => s.isCurrentActivation event.peer.activationGeneration = true ∧
      s.jams p event.peer s.device.peer.stagedOutboundPackets.toList = true
  | .protocolTimerExpired event => s.isCurrentExpiry event = true ∧ s.binding.isOpen = true ∧
      s.expiryFails p event.hook = true
  | .udpBindOpened event => s.adoptsRebind event = true ∧ s.recoveryFails p event.peer = true
  | .encryptedDatagramReceived event => (∃ read derived, s.Completes c p event read derived) ∧
      s.stagedInnerPacketCount = 0 ∧ p.Strays
  | _ => False

/-! ## Draining the queue -/

section Queue

variable {st after : HandlerState} {identity : PeerIdentity} {now : Ktime}

theorem not_oversized_of_waits {next : Option InnerPacketRecord} (h : s.waits p next) :
    ¬ s.oversized p next := by
  intro hsize
  simp only [waits, oversized, Bool.and_eq_true, Option.any_eq_true] at h hsize
  obtain ⟨front, hfront, hkey⟩ := h.2
  obtain ⟨hsend, front', hfront', hlarge⟩ := hsize
  obtain rfl := Option.some.inj (hfront.symm.trans hfront')
  simp [hsend] at hkey
  simp [hkey.1] at hlarge

theorem Drained.ends {next : Option InnerPacketRecord} (h : Drained p st next now after) :
    Ends (st.runtime.oversized p next) 1 st after := by
  cases h with
  | idle queue _ hnext =>
    refine .went ?_ _ rfl (Nat.le_add_right _ _)
    simp [oversized, hnext]
  | waiting queue hwaits =>
    exact .went (not_oversized_of_waits hwaits) _ rfl (Nat.le_add_right _ _)
  | sent _ hsent _ hsize _ => exact .of_sent (Bool.eq_false_iff.mp hsize) hsent
  | failed queue hsize => exact .failed_device hsize _ _ _ _

/-- Without a socket nothing is sent. -/
theorem processOutboundLoop_of_not_open {rounds : Nat} (hopen : st.runtime.binding.isOpen = false) :
    (processOutboundLoop c p identity now rounds st).effects = st.effects := by
  induction rounds generalizing st with
  | zero => rfl
  | succ rounds ih =>
    have hdrop (disposition : QueueDisposition) :
        (processOutboundLoop c p identity now rounds
          (st.dropStaged disposition)).effects = st.effects := by
      refine ih ?_
      exact hopen
    unfold processOutboundLoop
    simp only
    split
    · rfl
    · split
      · exact hdrop .stale
      split
      · rfl
      · rw [if_pos (Or.inl hopen)]

/-- Draining a queue keeps to a budget of five unless it jams. -/
theorem processOutboundQueue_length_iff (hc : c.Succeeds) (hs : s.Sound c)
    (hact : s.isCurrentActivation identity.activationGeneration) :
    (processOutboundQueue c p ⟨s, []⟩ identity now).effects.length ≤ 5 ↔
      ¬ s.jams p identity s.device.peer.stagedOutboundPackets.toList := by
  by_cases hopen : s.binding.isOpen
  · obtain ⟨htrans, hsusp⟩ := hs.open_transport hopen
    have hpeer := hs.transport_peer htrans
    by_cases hpend : s.pendingDatagram = none
    · have husable : Usable c ⟨s, []⟩ :=
        ⟨htrans, hopen, hsusp, hpeer, hs.ready hpeer, hpend⟩
      have hdrained : Drained p ⟨s, []⟩
          (nextPacket identity s.device.peer.stagedOutboundPackets.toList) now
          (processOutboundQueue c p ⟨s, []⟩ identity now) :=
        processOutboundQueue_drained hc husable
      rw [← Nat.zero_add 5]
      refine (hdrained.ends.length_le_iff (by decide) (activation_ne_zero hact) hopen).trans
        ?_
      simp [jams, hopen, hpend]
    · have hsome := Option.isSome_iff_ne_none.mpr hpend
      unfold processOutboundQueue
      rw [if_pos (Or.inr hsome)]
      refine iff_of_true (Nat.zero_le _) ?_
      simp [jams, hpend]
  · refine iff_of_true ?_ (by simp [jams, hopen])
    unfold processOutboundQueue
    split
    · exact Nat.zero_le _
    · rw [processOutboundLoop_of_not_open (Bool.not_eq_true _ ▸ hopen)]
      exact Nat.zero_le _

end Queue

/-! ## Staged packets -/

section Staging

variable {identity : PeerIdentity}

/-- A jam needs a socket, and so a peer in a transport state. -/
theorem PeerRuntime.Sound.of_jams (hs : s.Sound c) {packets : List InnerPacketRecord}
    (h : s.jams p identity packets) : s.isInTransportState ∧ s.hasProtocolPeer ∧
      s.acceptsInnerPacketSubmission := by
  simp only [jams, Bool.and_eq_true] at h
  have htrans := (hs.open_transport h.1.1).1
  refine ⟨htrans, hs.transport_peer htrans, ?_⟩
  unfold acceptsInnerPacketSubmission
  rw [htrans, Bool.or_true]

/-- What a handler does once its packets are in the queue. -/
theorem drainStaged_length_iff (hc : c.Succeeds) (hs : s.Sound c) {now : Ktime}
    {queue : InnerPacketQueue peerStagedPacketCapacity}
    (hact : s.isCurrentActivation identity.activationGeneration) :
    let after := s.withPeer { s.device.peer with stagedOutboundPackets := queue }
    (if after.isInTransportState then
        processOutboundQueue c p ⟨after, []⟩ identity now
      else ⟨after, []⟩).effects.length ≤ 5 ↔ ¬ s.jams p identity queue.toList := by
  intro after
  split
  · exact processOutboundQueue_length_iff hc (withQueue_sound hs queue) hact
  · rename_i htrans
    refine iff_of_true (Nat.zero_le _) fun hjams => htrans ?_
    exact (hs.of_jams hjams).1

theorem handleInnerPacketStaged_length_iff (hc : c.Succeeds) (hs : s.Sound c)
    {event : InnerPacketStagedEvent} : (s.handleInnerPacketStaged c p event).effects.length ≤ 5 ↔
      ¬ s.Overruns c p (.innerPacketStaged event) := by
  unfold handleInnerPacketStaged
  by_cases hchecks : s.isCurrentActivation event.peer.activationGeneration = false ∨
      s.acceptsInnerPacketSubmission = false ∨ s.hasProtocolPeer = false ∨
      stageable event.packet = false
  · rw [if_pos hchecks]
    refine iff_of_true (Nat.zero_le _) ?_
    rintro ⟨hcur, hstageable, -, hjams⟩
    obtain ⟨-, hpeer, haccepts⟩ := hs.of_jams hjams
    simp [hcur, hstageable, hpeer, haccepts] at hchecks
  · rw [if_neg hchecks]
    simp only [not_or, Bool.not_eq_false] at hchecks
    obtain ⟨hcur, -, hpeer, hstageable⟩ := hchecks
    simp only
    obtain ⟨hfull, hnone⟩ | ⟨queue, hroom, hsome, hlist, -⟩ :=
      pushStaged_cases s (stagingRecord event.peer event.packet event.packetId)
    · rw [hnone]
      refine iff_of_true (Nat.zero_le _) ?_
      rintro ⟨-, -, hstage, -⟩
      simp [canStageInnerPackets, hfull] at hstage
    · rw [hsome]
      refine (drainStaged_length_iff hc hs hcur).trans ?_
      rw [hlist]
      refine not_congr ⟨fun hjams => ⟨hcur, hstageable, ?_, hjams⟩, fun h => h.2.2.2⟩
      have hle := s.device.peer.stagedOutboundPackets.count_le
      simp only [canStageInnerPackets, hpeer, Bool.true_and, decide_eq_true_eq]
      omega

/-- A batch that fits is staged without an abort. -/
theorem pushBatch_isSome {packets : List (List UInt8 × UInt64)}
    (h : s.device.peer.stagedOutboundPackets.count + packets.length ≤ peerStagedPacketCapacity) :
    ∃ after, pushBatch identity packets s = some after := by
  induction packets generalizing s with
  | nil => exact ⟨s, rfl⟩
  | cons packet packets ih =>
    rw [length_cons] at h
    obtain ⟨hfull, -⟩ | ⟨queue, -, hsome, hlist, -⟩ :=
      pushStaged_cases s (stagingRecord identity packet.1 packet.2)
    · omega
    · unfold pushBatch
      rw [hsome]
      refine ih ?_
      have hcount : queue.count = s.device.peer.stagedOutboundPackets.count + 1 := by
        rw [← InnerPacketQueue.length_toList, hlist, length_append,
          InnerPacketQueue.length_toList, length_singleton]
      show queue.count + packets.length ≤ _
      omega

theorem handleInnerPacketBatchStaged_length_iff (hc : c.Succeeds) (hs : s.Sound c)
    {event : InnerPacketBatchStagedEvent} :
    (∃ st, s.handleInnerPacketBatchStaged c p event = some st ∧ st.effects.length ≤ 5) ↔
      ¬ s.Overruns c p (.innerPacketBatchStaged event) := by
  unfold handleInnerPacketBatchStaged
  by_cases hchecks : s.isCurrentActivation event.peer.activationGeneration = false ∨
      s.acceptsInnerPacketSubmission = false ∨ s.hasProtocolPeer = false ∨
      event.packets = [] ∨ maximumInnerPacketBatchSize < event.packets.length ∨
      s.canStageInnerPackets event.packets.length = false
  · rw [if_pos hchecks]
    refine iff_of_true ⟨_, rfl, Nat.zero_le _⟩ ?_
    rintro ⟨hcur, hne, hle, hstage, -, hjams⟩
    obtain ⟨-, hpeer, haccepts⟩ := hs.of_jams hjams
    simp [hcur, hne, Nat.not_lt_of_le hle, hstage, hpeer, haccepts] at hchecks
  · rw [if_neg hchecks]
    simp only [not_or, Bool.not_eq_false, Nat.not_lt] at hchecks
    obtain ⟨hcur, -, hpeer, hne, hle, hstage⟩ := hchecks
    by_cases hsizes : (event.packets.any fun packet => stageable packet.1 = false) = true
    · rw [if_pos hsizes]
      refine iff_of_true ⟨_, rfl, Nat.zero_le _⟩ ?_
      rintro ⟨-, -, -, -, hall, -⟩
      obtain ⟨packet, hmem, hbad⟩ := any_eq_true.mp hsizes
      rw [decide_eq_true_eq, all_eq_true.mp hall packet hmem] at hbad
      cases hbad
    · rw [if_neg hsizes]
      have hall : (event.packets.all fun packet => stageable packet.1) = true := by
        simpa using hsizes
      have hroom : s.device.peer.stagedOutboundPackets.count + event.packets.length ≤
          peerStagedPacketCapacity := by
        have hcount := s.device.peer.stagedOutboundPackets.count_le
        simp only [canStageInnerPackets, hpeer, Bool.true_and, decide_eq_true_eq]
          at hstage
        omega
      obtain ⟨after, hpush⟩ := pushBatch_isSome hroom
      obtain ⟨queue, rfl, hlist, -⟩ := pushBatch_spec hpush
      rw [hpush]
      simp only [← apply_ite some, Option.some.injEq, exists_eq_left']
      refine (drainStaged_length_iff hc hs hcur).trans ?_
      rw [hlist]
      exact not_congr ⟨fun hjams => ⟨hcur, hne, hle, hstage, hall, hjams⟩, fun h => h.2.2.2.2.2⟩

theorem handleProcessOutboundQueue_length_iff (hc : c.Succeeds) (hs : s.Sound c)
    {event : ProcessOutboundQueueEvent} :
    (s.handleProcessOutboundQueue c p event).effects.length ≤ 5 ↔
      ¬ s.Overruns c p (.processOutboundQueue event) := by
  unfold handleProcessOutboundQueue
  split
  · rename_i hcur
    refine (processOutboundQueue_length_iff hc hs hcur).trans ?_
    exact not_congr ⟨fun hjams => ⟨hcur, hjams⟩, fun h => h.2⟩
  · rename_i hcur
    exact iff_of_true (Nat.zero_le _) fun h => hcur h.1

end Staging

/-! ## Counting effects -/

/-- A part of a handler adds at most `count` effects. -/
def HandlerState.Adds (st : HandlerState) (count : Nat) (after : HandlerState) : Prop :=
  after.effects.length ≤ st.effects.length + count

namespace HandlerState.Adds

variable {st mid after : HandlerState} {m n : Nat}

theorem refl (st : HandlerState) : st.Adds 0 st := Nat.le_refl _

theorem trans (h₁ : st.Adds m mid) (h₂ : mid.Adds n after) : st.Adds (m + n) after := by
  unfold Adds at *
  omega

theorem le (h : st.Adds m after) (hle : m ≤ n) : st.Adds n after :=
  Nat.le_trans h (Nat.add_le_add_left hle _)

/-- The peer of a handler can change without an effect. -/
theorem note (runtime : PeerRuntime) (h : st.Adds n mid) : st.Adds n { mid with runtime } := h

theorem add (effect : RuntimeEffect) (h : st.Adds n mid) : st.Adds (n + 1) (mid.add effect) :=
  h.trans (Nat.le_of_eq length_append)

theorem fail (stage : PeerErrorStage) (code : PeerErrorCode) (now : Ktime) (h : st.Adds n mid) :
    st.Adds (n + 6) (mid.enterActivationError stage code now) := by
  refine h.trans ?_
  unfold Adds
  rw [enterActivationError_effects, length_append]
  refine Nat.add_le_add_left ((errorEffects_length_le _).trans ?_) _
  split
  · exact Nat.le_refl 6
  · exact Nat.le_succ 5

theorem of_sent (h : st.Sent after) : st.Adds 1 after := Nat.le_of_eq h.effects

/-- The bound for a handler that began without effects. -/
theorem length_le_iff : Adds ⟨s, []⟩ n after ↔ after.effects.length ≤ n := by
  simp [Adds]

theorem length_le (h : Adds ⟨s, []⟩ n after) : after.effects.length ≤ n := length_le_iff.mp h

end HandlerState.Adds

theorem Ends.adds {fails : Prop} {bound : Nat} {st after : HandlerState}
    (h : Ends fails bound st after) (hbound : bound ≤ 6) : st.Adds 6 after := by
  cases h with
  | went _ _ _ hlen => exact Adds.le hlen hbound
  | failed _ last _ _ heff stage code now =>
    have hlast : st.Adds 0 last := Nat.le_of_eq (congrArg length heff)
    exact (hlast.fail stage code now).le (by decide)

section Traffic

variable (st : HandlerState) (identity : PeerIdentity) (facts : TimerFacts)

theorem onAuthenticatedPacketTraversal_adds :
    st.Adds 1 (st.onAuthenticatedPacketTraversal identity facts) := by
  unfold onAuthenticatedPacketTraversal
  split
  · exact (Adds.refl st).add _
  · exact Nat.le_succ _

private theorem onDataPacketSent_adds : st.Adds 1 (st.onDataPacketSent identity facts) := by
  unfold onDataPacketSent
  split
  · exact (Adds.refl st).add _
  · exact Nat.le_succ _

theorem onDataPacketReceived_adds : st.Adds 1 (st.onDataPacketReceived identity facts) := by
  unfold onDataPacketReceived
  simp only
  split
  · exact Nat.le_succ _
  split
  · exact Nat.le_succ _
  · exact (Adds.refl st).add _

variable {st}

theorem refreshKeyFreshness_adds (hc : c.Succeeds)
    (hready : st.runtime.hasProtocolPeer → st.runtime.device.peer.Ready c) (now : Ktime) :
    st.Adds 1 (st.refreshKeyFreshness c p identity now) := by
  obtain ⟨hsame, -⟩ | ⟨-, hsent⟩ := refreshKeyFreshness_of_ready identity now hc hready
  · rw [hsame]; exact Nat.le_succ _
  · exact .of_sent hsent

end Traffic

/-! ## Completed sends -/

section Completion

variable {event : PendingDatagramSentEvent}

private theorem completeSent_adds (event : PendingDatagramSentEvent) (hc : c.Succeeds)
    (kind : PendingDatagramKind) (hready : s.hasProtocolPeer → s.device.peer.Ready c) :
    Adds ⟨s, []⟩ 5 (completeSent c p ⟨s, []⟩ event kind) := by
  have htraversal : Adds ⟨s, []⟩ 1 _ := onAuthenticatedPacketTraversal_adds
    ⟨s.recordTransmittedBytes event.bytesSent event.occurredAt, []⟩ event.peer event.timerFacts
  have hruntime := onAuthenticatedPacketTraversal_runtime
    ⟨s.recordTransmittedBytes event.bytesSent event.occurredAt, []⟩ event.peer event.timerFacts
  unfold completeSent
  simp only
  revert htraversal hruntime
  generalize onAuthenticatedPacketTraversal _ _ _ = st
  intro htraversal hruntime
  have hsent : Adds ⟨s, []⟩ 2 (st.onAuthenticatedPacketSent event.peer) :=
    htraversal.add _
  have hready' : st.runtime.hasProtocolPeer → st.runtime.device.peer.Ready c := by
    rw [hruntime]
    exact hready
  cases kind with
  | handshakeInitiation =>
    simp only
    split
    · exact ((hsent.add _).add _).le (by decide)
    · exact (hsent.add _).le (by decide)
  | handshakeResponse => exact hsent.le (by decide)
  | transportData =>
    simp only
    split
    · refine ((((hsent.note _).trans
        (onDataPacketSent_adds _ event.peer event.timerFacts)).add _).trans
        (refreshKeyFreshness_adds event.peer hc ?_ event.occurredAt)).le (Nat.le_refl 5)
      intro hpeer
      simp only [add, onDataPacketSent_runtime] at hpeer ⊢
      exact (hready' hpeer).of_eq rfl rfl
    · exact hsent.le (by decide)
  | keepalive =>
    refine (hsent.trans (refreshKeyFreshness_adds event.peer hc ?_ event.occurredAt)).le (by decide)
    exact hready'

/-- The completion of the pending datagram with an error other than a failed send. -/
theorem completeFailed_effects (hsend : event.error ≠ .sendFailed)
    (hact : s.lifecycle.activationGeneration ≠ 0) (kind : PendingDatagramKind) :
    (completeFailed ⟨s, []⟩ event kind).effects.length =
      (if s.binding.isOpen then 1 else 0) + 5 := by
  unfold completeFailed
  simp only
  rw [if_neg hsend, enterActivationError_effects, length_append]
  split
  · exact (Nat.zero_add _).trans (errorEffects_length hact)
  · exact (Nat.zero_add _).trans (errorEffects_length hact)

private theorem completeFailed_adds (hsend : event.error = .sendFailed)
    (kind : PendingDatagramKind) :
    Adds ⟨s, []⟩ 1 (completeFailed ⟨s, []⟩ event kind) := by
  unfold completeFailed
  simp only
  rw [if_pos hsend, hsend, handleTransportFailure_sendFailed]
  have hnone (st : HandlerState) (hst : st.effects = []) :
      Adds ⟨s, []⟩ 0 ⟨st.runtime, st.effects ++ []⟩ := by
    rw [hst]; exact Nat.le_refl 0
  split
  · refine (hnone _ ?_).add _
    split
    · rfl
    · rfl
  · refine (hnone _ ?_).le (Nat.zero_le 1)
    split
    · rfl
    · rfl

theorem handlePendingDatagramSent_length_iff (hc : c.Succeeds) (hs : s.Sound c) :
    (s.handlePendingDatagramSent c p event).effects.length ≤ 5 ↔
      ¬ s.Overruns c p (.pendingDatagramSent event) := by
  unfold handlePendingDatagramSent
  cases hpend : s.pendingDatagram with
  | none =>
    refine iff_of_true (Nat.zero_le _) ?_
    rintro ⟨hcompleting, -⟩
    simp [completing, hpend] at hcompleting
  | some pending =>
    simp only
    by_cases hstale : s.isCurrentActivation event.peer.activationGeneration = false ∨
        pending.generation ≠ event.datagramGeneration
    · rw [if_pos hstale]
      refine iff_of_true (Nat.zero_le _) ?_
      rintro ⟨hcompleting, -⟩
      obtain hstale | hstale := hstale
      · simp [completing, hstale] at hcompleting
      · simp [completing, hpend, Option.filter, hstale] at hcompleting
    · rw [if_neg hstale]
      simp only [not_or, Bool.not_eq_false, not_not] at hstale
      have hcompleting : (s.completing (.pendingDatagramSent event)).isSome := by
        simp [completing, hpend, Option.filter, hstale.1, hstale.2]
      by_cases hnone : event.error = .none
      · rw [if_pos hnone]
        have hadds := completeSent_adds (p := p) (s := { s with pendingDatagram := none }) event hc
          pending.kind hs.ready
        exact iff_of_true hadds.length_le fun h => h.2.1 hnone
      · rw [if_neg hnone]
        by_cases hsend : event.error = .sendFailed
        · have hadds := completeFailed_adds (s := { s with pendingDatagram := none }) hsend
            pending.kind
          exact iff_of_true (hadds.length_le.trans (by decide)) fun h => h.2.2.1 hsend
        · rw [completeFailed_effects hsend]
          · by_cases hopen : s.binding.isOpen
            · simp [Overruns, hcompleting, hnone, hsend, hopen]
            · simp [Overruns, hopen]
          · exact activation_ne_zero hstale.1

end Completion

end WireguardNx.Runtime
