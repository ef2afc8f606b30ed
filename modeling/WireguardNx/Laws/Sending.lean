import WireguardNx.Laws.PeerMachine

/-!
# When a datagram can be sent

With primitives that succeed, whether a datagram goes out is decided by the pending slot, the send
state of the current keypair at the clock readings of the call, and, for a staged packet, by its
size.  The lemmas here give the exact outcome of the sending functions in each of these cases.
-/

namespace WireguardNx.Wireguard

variable {c : Crypto} {now : MonotonicTime}

/-! ## Transport packets -/

theorem reserveSendCounterAt_of_canSendAt {keypair : NoiseKeypair} (h : keypair.canSendAt now) :
    keypair.reserveSendCounterAt now =
      .ok (keypair.sendCounter, { keypair with sendCounter := keypair.sendCounter + 1 }) := by
  unfold NoiseKeypair.reserveSendCounterAt
  rw [of_decide_eq_true h]

/-- The errors that a keypair causes, which a new handshake can cure. -/
abbrev TransportDataError.ofKeypair (error : TransportDataError) : Prop :=
  error = .invalidKeypair ∨ error = .keyExpired ∨ error = .counterExhausted

private theorem reserveSendCounterAt_of_not_canSendAt {keypair : NoiseKeypair}
    (h : keypair.canSendAt now = false) :
    ∃ state : KeypairSendState, keypair.reserveSendCounterAt now = .error state ∧
      state.createError.ofKeypair := by
  unfold NoiseKeypair.reserveSendCounterAt
  have hstate := of_decide_eq_false h
  cases hsend : keypair.sendStateAt now with
  | ready => exact absurd hsend hstate
  | invalid => exact ⟨_, rfl, .inl rfl⟩
  | expired => exact ⟨_, rfl, .inr (.inl rfl)⟩
  | counterExhausted => exact ⟨_, rfl, .inr (.inr rfl)⟩

def transportDataFits (capacity mtu : Nat) (payload : List UInt8) : Bool :=
  decide (transportDataHeaderSize + getPaddedTransportPayloadSizeMtu payload.length mtu +
    noiseTagSize ≤ capacity)

variable {capacity mtu : Nat} {keypair : NoiseKeypair} {payload : List UInt8}

private theorem createTransportDataPacket_of_not_fits
    (hfits : transportDataFits capacity mtu payload = false) :
    noiseCreateTransportDataPacket c now capacity keypair payload mtu =
      ⟨.error .insufficientCapacity, keypair, none⟩ := by
  unfold noiseCreateTransportDataPacket
  exact if_pos (Nat.lt_of_not_le (of_decide_eq_false hfits))

private theorem createTransportDataPacket_of_not_canSendAt
    (hfits : transportDataFits capacity mtu payload)
    (hsend : keypair.canSendAt now = false) : ∃ error : TransportDataError, error.ofKeypair ∧
      noiseCreateTransportDataPacket c now capacity keypair payload mtu =
        ⟨.error error, keypair, none⟩ := by
  obtain ⟨state, hstate, herror⟩ := reserveSendCounterAt_of_not_canSendAt hsend
  refine ⟨state.createError, herror, ?_⟩
  unfold noiseCreateTransportDataPacket
  simp only
  rw [if_neg (Nat.not_lt_of_le (of_decide_eq_true hfits)), hstate]

private theorem createTransportDataPacket_of_canSendAt (hc : c.Succeeds)
    (hfits : transportDataFits capacity mtu payload) (hsend : keypair.canSendAt now) :
    ∃ bytes, (noiseCreateTransportDataPacket c now capacity keypair payload mtu).result =
      .ok bytes := by
  unfold noiseCreateTransportDataPacket
  simp only
  rw [if_neg (Nat.not_lt_of_le (of_decide_eq_true hfits)), reserveSendCounterAt_of_canSendAt hsend]
  simp only [serializeTransportDataHeader, show getMessageType MessageType.transportData.word =
    some .transportData from rfl, ne_eq, not_true_eq_false, if_false]
  split
  · rename_i hnone
    have hsome := hc.encrypt (Bytes.ofList (payload ++ List.replicate
      (getPaddedTransportPayloadSizeMtu payload.length mtu - payload.length) 0)) []
      keypair.sendingKey.bytes (buildTransportNonce keypair.sendCounter)
    rw [hnone] at hsome
    cases hsome
  · exact ⟨_, rfl⟩

end WireguardNx.Wireguard

namespace WireguardNx.Runtime

open Wireguard PeerRuntime HandlerState List

variable {c : Crypto} {p : Platform}

/-! ## The pending slot -/

def PeerRuntime.canSend (p : Platform) (s : PeerRuntime) (site : ClockSite) : Bool :=
  s.device.peer.currentKeypair.canSendAt (p.clock site)

def PeerRuntime.fits (s : PeerRuntime) (payload : List UInt8) : Bool :=
  transportDataFits maxEncryptedDatagramSize (resolveEffectiveInnerMtu s.config.mtu).toNat payload

theorem PeerRuntime.fits_nil (s : PeerRuntime) : s.fits [] := by
  refine decide_eq_true ?_
  have hpadded : getPaddedTransportPayloadSizeMtu ([] : List UInt8).length
      (resolveEffectiveInnerMtu s.config.mtu).toNat = 0 := if_pos (.inr rfl)
  rw [hpadded]
  decide

/-- A datagram took the pending slot, and the transport was asked to send it. -/
structure HandlerState.Sent (st after : HandlerState) : Prop where
  pending : after.runtime.pendingDatagram.isSome = true
  effects : after.effects.length = st.effects.length + 1
  lifecycle : after.runtime.lifecycle = st.runtime.lifecycle
  binding : after.runtime.binding = st.runtime.binding

section Prepare

variable {s : PeerRuntime} (payload : List UInt8) (kind : PendingDatagramKind) (packetId : UInt64)

theorem prepareTransportDatagram_of_pending (hpend : s.pendingDatagram.isSome) :
    s.prepareTransportDatagram c p payload kind packetId = (.error .invalidKeypair, s) :=
  if_pos (.inr hpend)

theorem prepareTransportDatagram_of_not_fits (hpeer : s.hasProtocolPeer)
    (hpend : s.pendingDatagram = none) (hfits : s.fits payload = false) :
    s.prepareTransportDatagram c p payload kind packetId = (.error .insufficientCapacity, s) := by
  unfold prepareTransportDatagram
  rw [if_neg (by simp [hpeer, hpend]), createTransportDataPacket_of_not_fits hfits]
  rfl

theorem prepareTransportDatagram_of_not_canSend (hpeer : s.hasProtocolPeer)
    (hpend : s.pendingDatagram = none) (hfits : s.fits payload)
    (hsend : s.canSend p (createSite kind) = false) :
    ∃ error : TransportDataError, error.ofKeypair ∧
      s.prepareTransportDatagram c p payload kind packetId = (.error error, s) := by
  obtain ⟨error, herror, hcreate⟩ :=
    createTransportDataPacket_of_not_canSendAt (c := c) hfits hsend
  refine ⟨error, herror, ?_⟩
  unfold prepareTransportDatagram
  rw [if_neg (by simp [hpeer, hpend]), hcreate]
  rfl

theorem prepareTransportDatagram_of_canSend (hc : c.Succeeds) (hpeer : s.hasProtocolPeer)
    (hpend : s.pendingDatagram = none) (hfits : s.fits payload)
    (hsend : s.canSend p (createSite kind)) :
    ∃ keypair bytes, s.prepareTransportDatagram c p payload kind packetId =
      (.ok (), (s.withPeer { s.device.peer with currentKeypair := keypair }).setPending bytes
        packetId kind) := by
  obtain ⟨bytes, hcreate⟩ := createTransportDataPacket_of_canSendAt hc hfits hsend
  unfold prepareTransportDatagram
  rw [if_neg (by simp [hpeer, hpend])]
  simp only [hcreate]
  exact ⟨_, bytes, rfl⟩

theorem prepareHandshakeInitiation_of_initiation (hpeer : s.hasProtocolPeer)
    (hpend : s.pendingDatagram = none) (hinit : s.device.peer.HasInitiation) :
    ∃ bytes, s.prepareHandshakeInitiation kind = (true, s.setPending bytes 0 kind) := by
  unfold prepareHandshakeInitiation serializeHandshakeInitiation
  rw [if_neg (by simp [hpeer, hpend, hinit.1])]
  simp only [hinit.2, show getMessageType MessageType.handshakeInitiation.word =
    some .handshakeInitiation from rfl, ne_eq, not_true_eq_false, if_false]
  exact ⟨_, rfl⟩

theorem hasProtocolPeer_withDevice {device : WgDevice} (h : device.hasPeer = s.device.hasPeer) :
    hasProtocolPeer { s with device } = s.hasProtocolPeer := by
  unfold hasProtocolPeer
  rw [h]

end Prepare

/-! ## Handshakes and keepalives -/

section Attempts

variable {st : HandlerState} (identity : PeerIdentity) (now : Ktime)

theorem startHandshakeOrFail_of_pending (hpend : st.runtime.pendingDatagram.isSome) :
    st.startHandshakeOrFail c p identity now =
      st.enterActivationError .handshake .handshakeInitFailed now := by
  unfold HandlerState.startHandshakeOrFail HandlerState.startHandshake
  rw [if_pos (.inr hpend)]

/-- A handshake that is not running is started. -/
theorem startHandshakeOrFail_of_none (hc : c.Succeeds)
    (hpeer : st.runtime.hasProtocolPeer) (hready : st.runtime.device.peer.Ready c)
    (hpend : st.runtime.pendingDatagram = none) :
    (st.startHandshakeOrFail c p identity now = st ∧
        st.runtime.device.peer.handshakeRetry.active ∧
        (st.runtime.device.peer.timers.hooks .retransmitHandshake).pending) ∨
      (¬ (st.runtime.device.peer.handshakeRetry.active ∧
          (st.runtime.device.peer.timers.hooks .retransmitHandshake).pending) ∧
        st.Sent (st.startHandshakeOrFail c p identity now)) := by
  have hhas : st.runtime.device.hasPeer := (Bool.and_eq_true_iff.mp hpeer).2
  unfold startHandshakeOrFail HandlerState.startHandshake
  simp only
  rw [if_neg (by simp [hpeer, hpend])]
  obtain ⟨hignore, hactive⟩ | ⟨hidle, after, hstart, hinit⟩ :=
    startHandshake_ready (p := p) hc hhas hready
  · rw [hignore]
    exact .inl ⟨rfl, hactive⟩
  · have hkeeps := startHandshake_keeps hstart
    have hpeer' := (hasProtocolPeer_withDevice hkeeps.hasPeer).trans hpeer
    obtain ⟨bytes, hprep⟩ := prepareHandshakeInitiation_of_initiation
      .handshakeInitiation hpeer' hpend hinit
    right
    rw [hstart]
    simp only [sendInitiation, hprep]
    exact ⟨hidle, rfl, length_append, rfl, rfl⟩

theorem sendKeepaliveOrFail_of_pending (hpend : st.runtime.pendingDatagram.isSome) :
    st.sendKeepaliveOrFail c p identity now =
      st.enterActivationError .internal .internalFailure now := by
  unfold sendKeepaliveOrFail
  rw [prepareTransportDatagram_of_pending _ _ _ hpend]

theorem sendKeepaliveOrFail_of_not_canSend (hpeer : st.runtime.hasProtocolPeer)
    (hpend : st.runtime.pendingDatagram = none)
    (hsend : st.runtime.canSend p .createKeepalive = false) :
    st.sendKeepaliveOrFail c p identity now =
      st.enterActivationError .internal .internalFailure now := by
  obtain ⟨error, -, hprep⟩ := prepareTransportDatagram_of_not_canSend (c := c) [] .keepalive 0
    hpeer hpend (fits_nil _) hsend
  unfold sendKeepaliveOrFail
  rw [hprep]

theorem sendKeepaliveOrFail_of_canSend (hc : c.Succeeds)
    (hpeer : st.runtime.hasProtocolPeer) (hpend : st.runtime.pendingDatagram = none)
    (hsend : st.runtime.canSend p .createKeepalive) :
    st.Sent (st.sendKeepaliveOrFail c p identity now) := by
  obtain ⟨keypair, bytes, hprep⟩ := prepareTransportDatagram_of_canSend [] .keepalive 0 hc
    hpeer hpend (fits_nil _) hsend
  unfold sendKeepaliveOrFail
  rw [hprep]
  exact ⟨rfl, length_append, rfl, rfl⟩

/-- A rekey is started or nothing happens. -/
theorem refreshKeyFreshness_of_ready (hc : c.Succeeds)
    (hready : st.runtime.hasProtocolPeer → st.runtime.device.peer.Ready c) :
    (st.refreshKeyFreshness c p identity now = st ∧
        (st.runtime.hasProtocolPeer = false ∨
          st.runtime.device.peer.currentKeypair.needsRekeyAt (p.clock .refresh) = false ∨
          st.runtime.pendingDatagram.isSome ∨
          st.runtime.device.peer.handshakeRetry.active)) ∨
      (st.runtime.device.peer.currentKeypair.needsRekeyAt (p.clock .refresh) ∧
        st.Sent (st.refreshKeyFreshness c p identity now)) := by
  unfold refreshKeyFreshness
  simp only
  split
  · rename_i hidle
    exact .inl ⟨rfl, hidle⟩
  · rename_i hrekey
    simp only [not_or, Bool.not_eq_true, Bool.not_eq_false, Option.isSome_eq_false_iff,
      Option.isNone_iff_eq_none] at hrekey
    obtain ⟨hpeer, hneeds, hpend, hretry⟩ := hrekey
    obtain ⟨-, hactive, -⟩ | ⟨-, hsent⟩ :=
      startHandshakeOrFail_of_none (p := p) identity now hc hpeer (hready hpeer) hpend
    · rw [hretry] at hactive; cases hactive
    · exact .inr ⟨hneeds, hsent⟩

end Attempts

/-! ## The queue -/

section Queue

def HandlerState.withQueue (st : HandlerState)
    (queue : InnerPacketQueue peerStagedPacketCapacity) : HandlerState :=
  { st with runtime := st.runtime.withPeer { st.runtime.device.peer with
    stagedOutboundPackets := queue } }

/-- The first packet of an activation in a queue. -/
def nextPacket (identity : PeerIdentity) (packets : List InnerPacketRecord) :
    Option InnerPacketRecord :=
  packets.find? (HandlerState.ownedBy identity)

/-- The peer can hand a packet to its transport, if the keypair and the slot allow it. -/
structure HandlerState.Usable (c : Crypto) (st : HandlerState) : Prop where
  transport : st.runtime.isInTransportState = true
  isOpen : st.runtime.binding.isOpen = true
  suspended : st.runtime.binding.suspended = false
  peer : st.runtime.hasProtocolPeer = true
  ready : st.runtime.device.peer.Ready c
  pending : st.runtime.pendingDatagram = none

/-- The next packet is too large for a datagram and the keypair can send. -/
def PeerRuntime.oversized (p : Platform) (s : PeerRuntime) (next : Option InnerPacketRecord) :
    Bool :=
  s.canSend p .stagingAction && next.any fun front => !s.fits front.bytes

/-- The next packet waits for a handshake that is already running. -/
def PeerRuntime.waits (p : Platform) (s : PeerRuntime) (next : Option InnerPacketRecord) : Bool :=
  s.device.peer.handshakeRetry.active &&
    (s.device.peer.timers.hooks .retransmitHandshake).pending &&
    next.any fun front =>
      !s.canSend p .stagingAction || (s.fits front.bytes && !s.canSend p .createData)

/-- How draining the queue ends, for a usable peer. -/
inductive Drained (p : Platform) (st : HandlerState) (next : Option InnerPacketRecord)
  (now : Ktime) :
    HandlerState → Prop
  | idle (queue : InnerPacketQueue peerStagedPacketCapacity) (hqueue : queue.toList = [])
      (hnext : next = none) : Drained p st next now (st.withQueue queue)
  | waiting (queue : InnerPacketQueue peerStagedPacketCapacity)
      (hwaits : st.runtime.waits p next = true) : Drained p st next now (st.withQueue queue)
  | sent (after : HandlerState) (hsent : st.Sent after) (hnext : next ≠ none)
      (hsize : st.runtime.oversized p next = false) (hwaits : st.runtime.waits p next = false) :
      Drained p st next now after
  | failed (queue : InnerPacketQueue peerStagedPacketCapacity)
      (hsize : st.runtime.oversized p next = true) :
      Drained p st next now
        ((st.withQueue queue).enterActivationError .internal .internalFailure now)

variable {st : HandlerState} {identity : PeerIdentity} {now : Ktime}

/-- A packet dropped before changes nothing of how the rest is drained. -/
theorem Drained.of_withQueue {after : HandlerState} {next : Option InnerPacketRecord}
    {queue : InnerPacketQueue peerStagedPacketCapacity}
    (h : Drained p (st.withQueue queue) next now after) : Drained p st next now after := by
  cases h with
  | idle last hqueue hnext => exact .idle last hqueue hnext
  | waiting last hwaits => exact .waiting last hwaits
  | sent after hsent hnext hsize hwaits =>
    exact .sent after ⟨hsent.pending, hsent.effects, hsent.lifecycle, hsent.binding⟩ hnext hsize
      hwaits
  | failed last hsize => exact .failed last hsize

theorem startHandshakeOrFail_drained (hc : c.Succeeds) (hst : st.Usable c)
    {front : InnerPacketRecord} (hkey : st.runtime.canSend p .stagingAction = false ∨
      st.runtime.fits front.bytes ∧ st.runtime.canSend p .createData = false) :
    Drained p st (some front) now (st.startHandshakeOrFail c p identity now) := by
  obtain ⟨hsame, hactive, htimer⟩ | ⟨hidle, hsent⟩ :=
    startHandshakeOrFail_of_none (p := p) identity now hc hst.peer hst.ready hst.pending
  · rw [hsame]
    refine .waiting st.runtime.device.peer.stagedOutboundPackets ?_
    simpa [waits, hactive, htimer] using hkey
  · refine .sent _ hsent (Option.some_ne_none _) ?_ ?_
    · obtain hkey | ⟨hfits, -⟩ := hkey
      · simp [oversized, hkey]
      · simp [oversized, hfits]
    · rw [← Bool.not_eq_true]
      intro hwaits
      simp only [waits, Bool.and_eq_true] at hwaits
      exact hidle hwaits.1

private theorem sendStaged_drained (hc : c.Succeeds) (hst : st.Usable c) {front : InnerPacketRecord}
    (hfront : st.runtime.device.peer.stagedOutboundPackets.front = some front) :
    Drained p st (some front) now (st.sendStaged c p identity now front) := by
  have hcount : st.runtime.device.peer.stagedOutboundPackets.count ≠ 0 := by
    intro hcount
    rw [InnerPacketQueue.front, if_pos hcount] at hfront
    cases hfront
  have haction : st.runtime.device.peer.getOutboundStagingAction (p.clock .stagingAction) =
      if st.runtime.canSend p .stagingAction then .send else .initiateHandshake := by
    unfold WgPeer.getOutboundStagingAction
    rw [if_neg hcount]
    rfl
  unfold sendStaged
  rw [haction]
  by_cases hstaging : st.runtime.canSend p .stagingAction
  · rw [if_pos hstaging]
    simp only
    by_cases hfits : st.runtime.fits front.bytes
    · by_cases hcreate : st.runtime.canSend p .createData
      · obtain ⟨keypair, bytes, hprep⟩ := prepareTransportDatagram_of_canSend front.bytes
          .transportData front.packetId hc hst.peer hst.pending hfits hcreate
        rw [hprep]
        refine .sent _ ⟨rfl, length_append, rfl, rfl⟩ (Option.some_ne_none _) ?_ ?_
        · simp [oversized, hfits]
        · simp [waits, hstaging, hcreate]
      · obtain ⟨error, herror, hprep⟩ := prepareTransportDatagram_of_not_canSend (c := c)
          front.bytes .transportData front.packetId hst.peer hst.pending hfits
          (Bool.not_eq_true _ ▸ hcreate)
        rw [hprep]
        simp only [applyStagedSendOutcome_buildFailed, if_pos herror]
        exact startHandshakeOrFail_drained hc hst (.inr ⟨hfits, Bool.not_eq_true _ ▸ hcreate⟩)
    · rw [prepareTransportDatagram_of_not_fits front.bytes .transportData front.packetId hst.peer
        hst.pending (Bool.not_eq_true _ ▸ hfits)]
      refine .failed st.runtime.device.peer.stagedOutboundPackets ?_
      simp [oversized, hstaging, hfits]
  · rw [if_neg hstaging]
    exact startHandshakeOrFail_drained hc hst (.inl (Bool.not_eq_true _ ▸ hstaging))

theorem drained_of_nil (h : st.runtime.device.peer.stagedOutboundPackets.toList = []) :
    Drained p st (nextPacket identity st.runtime.device.peer.stagedOutboundPackets.toList) now st :=
  .idle st.runtime.device.peer.stagedOutboundPackets h (by rw [h]; rfl)

private theorem processOutboundLoop_drained (hc : c.Succeeds) {rounds : Nat} (hst : st.Usable c)
    (hrounds : st.runtime.device.peer.stagedOutboundPackets.count ≤ rounds) :
    Drained p st (nextPacket identity st.runtime.device.peer.stagedOutboundPackets.toList) now
      (processOutboundLoop c p identity now rounds st) := by
  induction rounds generalizing st with
  | zero =>
    refine drained_of_nil (length_eq_zero_iff.mp ?_)
    rw [InnerPacketQueue.length_toList]
    exact Nat.le_zero.mp hrounds
  | succ rounds ih =>
    unfold processOutboundLoop
    simp only
    split
    · rename_i hfront
      rw [InnerPacketQueue.front_eq, head?_eq_none_iff] at hfront
      exact drained_of_nil hfront
    · rename_i front hfront
      have hhead := hfront
      rw [InnerPacketQueue.front_eq] at hhead
      obtain ⟨rest, hlist⟩ := head?_eq_some_iff.mp hhead
      by_cases howned : ownedBy identity front
      · rw [if_neg (by simp [howned]), if_neg, if_neg (by simp [hst.isOpen, hst.suspended]),
          if_neg (by simp [hst.transport])]
        · rw [hlist, nextPacket, find?_cons_of_pos howned]
          exact sendStaged_drained hc hst hfront
        · intro hstate
          have htrans := hst.transport
          unfold isInTransportState at htrans
          rw [hstate] at htrans
          cases htrans
      · -- a packet of another activation is dropped
        rw [if_pos (Bool.not_eq_true _ ▸ howned)]
        have hst' : (st.dropStaged .stale).Usable c :=
          ⟨hst.transport, hst.isOpen, hst.suspended, hst.peer, hst.ready.of_eq rfl rfl, hst.pending⟩
        have htail : (st.dropStaged .stale).runtime.device.peer.stagedOutboundPackets.toList =
            rest := by
          refine (InnerPacketQueue.pop_spec _ .stale).1.trans ?_
          rw [hlist]
          rfl
        have hcount : (st.dropStaged .stale).runtime.device.peer.stagedOutboundPackets.count ≤
            rounds := by
          rw [← InnerPacketQueue.length_toList] at hrounds ⊢
          rw [htail]
          rw [hlist, length_cons] at hrounds
          exact Nat.le_of_succ_le_succ hrounds
        have hdrained := ih hst' hcount
        rw [htail] at hdrained
        rw [hlist, nextPacket, find?_cons_of_neg (by simp [howned])]
        exact hdrained.of_withQueue

/-- Draining the queue of a usable peer. -/
theorem processOutboundQueue_drained (hc : c.Succeeds) (hst : st.Usable c) :
    Drained p st (nextPacket identity st.runtime.device.peer.stagedOutboundPackets.toList) now
      (st.processOutboundQueue c p identity now) := by
  unfold processOutboundQueue
  rw [if_neg (by simp [hst.peer, hst.pending])]
  exact processOutboundLoop_drained hc hst (Nat.le_refl _)

end Queue

end WireguardNx.Runtime
