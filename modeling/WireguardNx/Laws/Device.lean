import WireguardNx.Laws.Handshake
import WireguardNx.Laws.Sessions
import WireguardNx.Wireguard.PeerController
import Mathlib.Data.List.Perm.Subperm

/-!
# What the protocol operations keep of a device

The runtime calls into the protocol in a dozen places.  `WgPeer.Keeps` says what all of them but a
few leave alone: the static identity, the staged packets, the record of accepted initiations and
the fact that an unconfirmed next keypair has not sent.  The operations that touch one of these
have their own statement.

The second part is about success.  With a complete identity and primitives that succeed, a
handshake can always be started: of 32 candidate indices at most four are taken.
-/

namespace WireguardNx.Wireguard

open WgPeer List

variable {ok : Bool} {action : HandshakeTransitionAction} {packet : List UInt8}
  {now : MonotonicTime} {nextIndex : UInt32} {after device : WgDevice}
  {first peer second third : WgPeer} {c : Crypto} {p : Platform}

/-! ## The kept relation -/

/-- The initiations a peer accepted, and the record that the next one is compared with. -/
def WgPeer.acceptance (peer : WgPeer) :
    List (MessageHandshakeInitiation × Bytes 12) × Bytes 12 × Bool :=
  (peer.acceptedInitiations, peer.handshake.lastInitiationTimestamp,
    peer.handshake.hasLastInitiationTimestamp)

/-- The next keypair was derived as a responder and has not sent. -/
def WgPeer.NextFresh (peer : WgPeer) : Prop :=
  peer.nextKeypair.isInitiator = false ∧ peer.nextKeypair.sendCounter = 0

/-- What every operation on the handshake or the sessions of a peer leaves alone. -/
structure WgPeer.Carries (before after : WgPeer) : Prop where
  identity : after.staticIdentity = before.staticIdentity
  precomputed : after.handshakeMaterial.precomputedStaticStatic =
    before.handshakeMaterial.precomputedStaticStatic
  queue : after.stagedOutboundPackets = before.stagedOutboundPackets
  nextFresh : before.NextFresh → after.NextFresh

/-- The operation accepted no initiation either. -/
structure WgPeer.Keeps (before after : WgPeer) : Prop extends before.Carries after where
  acceptance : after.acceptance = before.acceptance

/-- The operation accepted an initiation that is newer than the last one. -/
structure WgPeer.Accepts (c : Crypto) (before after : WgPeer)
    (message : MessageHandshakeInitiation) (timestamp : Bytes 12) : Prop
    extends before.Carries after where
  read : ∃ chainingKey hash, readInitiation c message before = some (chainingKey, hash, timestamp)
  newer : before.handshake.hasLastInitiationTimestamp = true →
    lexicographicalCompare before.handshake.lastInitiationTimestamp.toList timestamp.toList = true
  acceptance : after.acceptance =
    (before.acceptedInitiations ++ [(message, timestamp)], timestamp, true)

/-- What one call into the protocol does to the peer, as far as the runtime relies on it. -/
def WgPeer.Advances (c : Crypto) (before after : WgPeer) : Prop :=
  before.Keeps after ∨ ∃ message timestamp, before.Accepts c after message timestamp

/-- A device keeps whether it has a peer, and that peer keeps its own. -/
structure WgDevice.Keeps (before after : WgDevice) : Prop where
  hasPeer : after.hasPeer = before.hasPeer
  peer : before.peer.Keeps after.peer

/-- A device keeps whether it has a peer, and that peer advances. -/
structure WgDevice.Advances (c : Crypto) (before after : WgDevice) : Prop where
  hasPeer : after.hasPeer = before.hasPeer
  peer : before.peer.Advances c after.peer

theorem WgPeer.Carries.refl (peer : WgPeer) : peer.Carries peer := ⟨rfl, rfl, rfl, id⟩

theorem WgPeer.Carries.trans (h₁ : first.Carries second) (h₂ : second.Carries third) :
    first.Carries third where
  identity := h₂.identity.trans h₁.identity
  precomputed := h₂.precomputed.trans h₁.precomputed
  queue := h₂.queue.trans h₁.queue
  nextFresh := h₂.nextFresh ∘ h₁.nextFresh

theorem WgPeer.Keeps.refl (peer : WgPeer) : peer.Keeps peer := ⟨.refl peer, rfl⟩

theorem WgPeer.Keeps.trans (h₁ : first.Keeps second) (h₂ : second.Keeps third) :
    first.Keeps third :=
  ⟨h₁.toCarries.trans h₂.toCarries, h₂.acceptance.trans h₁.acceptance⟩

/-- Keeping everything after an accepted initiation still shows that initiation. -/
theorem WgPeer.Accepts.trans_keeps {c : Crypto} {message : MessageHandshakeInitiation}
    {timestamp : Bytes 12} (h₁ : first.Accepts c second message timestamp)
    (h₂ : second.Keeps third) :
    first.Accepts c third message timestamp :=
  ⟨h₁.toCarries.trans h₂.toCarries, h₁.read, h₁.newer, h₂.acceptance.trans h₁.acceptance⟩

theorem WgPeer.Advances.carries {c : Crypto} {before after : WgPeer}
    (h : before.Advances c after) : before.Carries after := by
  obtain h | ⟨_, _, h⟩ := h
  · exact h.toCarries
  · exact h.toCarries

theorem WgDevice.Keeps.refl (device : WgDevice) : device.Keeps device := ⟨rfl, .refl _⟩

theorem WgDevice.Keeps.trans {first second third : WgDevice} (h₁ : first.Keeps second)
    (h₂ : second.Keeps third) : first.Keeps third :=
  ⟨h₂.hasPeer.trans h₁.hasPeer, h₁.peer.trans h₂.peer⟩

theorem WgDevice.Keeps.advances {c : Crypto} {before after : WgDevice} (h : before.Keeps after) :
    before.Advances c after :=
  ⟨h.hasPeer, .inl h.peer⟩

/-! ## Index allocation -/

/-- The first `n` candidates of the index allocator. -/
def indexCandidates (seed : UInt32) : Nat → UInt32 → List UInt32
  | 0, _ => []
  | n + 1, nextIndex =>
    (wgIndexAllocatorNext nextIndex seed).1 ::
      indexCandidates seed n (wgIndexAllocatorNext nextIndex seed).2

private theorem length_indexCandidates (seed : UInt32) (n : Nat) (nextIndex : UInt32) :
    (indexCandidates seed n nextIndex).length = n := by
  induction n generalizing nextIndex with
  | zero => rfl
  | succ n ih => rw [indexCandidates, length_cons, ih]

theorem allocatorNext_ne_zero (nextIndex seed : UInt32) :
    (wgIndexAllocatorNext nextIndex seed).1 ≠ 0 := by
  unfold wgIndexAllocatorNext
  simp only
  split
  · split
    · decide
    · assumption
  · assumption

variable {seed : UInt32}

/-- When the loop finds nothing, every candidate was taken. -/
theorem lookup_of_allocateIndexLoop_eq_zero {attempts : Nat}
    (h : device.allocateIndexLoop seed attempts nextIndex = 0) {candidate : UInt32}
    (hmem : candidate ∈ indexCandidates seed attempts nextIndex) :
    device.lookupIndexSlot candidate ≠ none := by
  induction attempts generalizing nextIndex with
  | zero => cases hmem
  | succ attempts ih =>
    unfold WgDevice.allocateIndexLoop at h
    simp only at h
    split at h
    · rename_i hfree
      exact absurd h hfree.1
    · rename_i htaken
      rcases mem_cons.mp hmem with rfl | hmem
      · intro hnone
        exact htaken ⟨allocatorNext_ne_zero nextIndex seed, hnone⟩
      · exact ih h hmem

/-- The indices the registry holds, active or not. -/
def WgDevice.registeredIndices (device : WgDevice) : List UInt32 :=
  [WgIndexSlot.handshake, .currentKeypair, .nextKeypair, .previousKeypair].map fun slot =>
    (device.indexRegistry slot).index

private theorem mem_registeredIndices_of_lookup {index : UInt32}
    (h : device.lookupIndexSlot index ≠ none) :
    index ∈ device.registeredIndices := by
  unfold WgDevice.lookupIndexSlot at h
  split at h
  · exact absurd rfl h
  · obtain ⟨slot, hslot⟩ := Option.ne_none_iff_exists'.mp h
    have hfound := find?_some hslot
    simp only [Bool.and_eq_true, decide_eq_true_eq] at hfound
    exact mem_map.mpr ⟨slot, mem_of_find?_eq_some hslot, hfound.2⟩

/-- The counter after an index was handed out, as a number. -/
theorem allocatorNext_of_ne_zero (h : nextIndex ≠ 0) :
    (wgIndexAllocatorNext nextIndex seed).1 = nextIndex ∧
      (wgIndexAllocatorNext nextIndex seed).2.toNat =
        if nextIndex.toNat + 1 = 2 ^ 32 then 1 else nextIndex.toNat + 1 := by
  unfold wgIndexAllocatorNext
  simp only [if_neg h]
  refine ⟨trivial, ?_⟩
  have hlt := nextIndex.toNat_lt
  have hsum : (nextIndex + 1).toNat = (nextIndex.toNat + 1) % 2 ^ 32 := by
    rw [UInt32.toNat_add]; rfl
  have hzero : nextIndex + 1 = 0 ↔ nextIndex.toNat + 1 = 2 ^ 32 := by
    rw [← UInt32.toNat_inj, hsum, UInt32.toNat_zero]
    omega
  by_cases hwrap : nextIndex + 1 = 0
  · rw [if_pos hwrap, if_pos (hzero.mp hwrap)]; rfl
  · have hne : nextIndex.toNat + 1 ≠ 2 ^ 32 := fun h => hwrap (hzero.mpr h)
    rw [if_neg hwrap, if_neg hne, hsum]
    exact Nat.mod_eq_of_lt (by omega)

/-- The candidates run through the nonzero indices in a circle. -/
theorem toNat_indexCandidates {n : Nat} (h : nextIndex ≠ 0) :
    (indexCandidates seed n nextIndex).map UInt32.toNat =
      (range n).map fun k => (nextIndex.toNat - 1 + k) % (2 ^ 32 - 1) + 1 := by
  induction n generalizing nextIndex with
  | zero => rfl
  | succ n ih =>
    obtain ⟨hfirst, hnext⟩ := allocatorNext_of_ne_zero h
    have hpos : 0 < nextIndex.toNat := Nat.pos_of_ne_zero fun h0 => h (UInt32.toNat_inj.mp h0)
    have hlt := nextIndex.toNat_lt
    have hne : (wgIndexAllocatorNext nextIndex seed).2 ≠ 0 := by
      intro h0
      rw [h0, UInt32.toNat_zero] at hnext
      split at hnext <;> omega
    rw [indexCandidates, map_cons, ih hne, range_succ_eq_map, map_cons, map_map,
      hfirst]
    congr 1
    · omega
    · refine map_congr_left fun k _ => ?_
      simp only [Function.comp_apply, hnext]
      split <;> omega

private theorem indexCandidates_nodup {n : Nat} (hn : n < 2 ^ 32) {nextIndex : UInt32} :
    (indexCandidates seed n nextIndex).Nodup := by
  -- a zero counter stands for the seed
  obtain ⟨first, hfirst, hsame⟩ : ∃ first : UInt32, first ≠ 0 ∧
      indexCandidates seed n nextIndex = indexCandidates seed n first := by
    refine ⟨(wgIndexAllocatorNext nextIndex seed).1, allocatorNext_ne_zero _ _, ?_⟩
    cases n with
    | zero => rfl
    | succ n =>
      have hne := allocatorNext_ne_zero nextIndex seed
      simp only [indexCandidates]
      unfold wgIndexAllocatorNext at hne ⊢
      simp only [if_neg hne]
  rw [hsame]
  refine Nodup.of_map UInt32.toNat ?_
  rw [toNat_indexCandidates hfirst]
  refine Nodup.map_on (fun i hi j hj hij => ?_) nodup_range
  rw [mem_range] at hi hj
  have hcongr : i ≡ j [MOD 2 ^ 32 - 1] := Nat.ModEq.add_left_cancel' _ (Nat.succ.inj hij)
  exact hcongr.eq_of_lt_of_lt (by omega) (by omega)

/-- An index is always found: the registry holds four and the allocator tries 32. -/
theorem allocateIndex_ne_zero (device : WgDevice) (p : Platform) : device.allocateIndex p ≠ 0 := by
  intro hzero
  have hsub : indexCandidates p.indexSeed 32 p.nextIndex ⊆ device.registeredIndices :=
    fun _ hmem => mem_registeredIndices_of_lookup (lookup_of_allocateIndexLoop_eq_zero hzero hmem)
  have hle := ((indexCandidates_nodup (by decide)).subperm hsub).length_le
  rw [length_indexCandidates] at hle
  exact absurd hle (by simp [WgDevice.registeredIndices])

/-! ## Handshake messages -/

section Messages

private theorem createInitiation_keeps {peer after : WgPeer}
    (h : noiseHandshakeCreateInitiation c p peer = (ok, after)) : peer.Keeps after := by
  unfold noiseHandshakeCreateInitiation at h
  simp only at h
  split at h
  · cases h; exact .refl _
  iterate 5 (split at h; · cases h; exact ⟨⟨rfl, rfl, rfl, id⟩, rfl⟩)
  · cases h; exact ⟨⟨rfl, rfl, rfl, id⟩, rfl⟩

theorem createResponse_keeps {peer after : WgPeer} {response : Option MessageHandshakeResponse}
    (h : noiseHandshakeCreateResponse c p peer = (response, after)) : peer.Keeps after := by
  unfold noiseHandshakeCreateResponse at h
  simp only at h
  split at h
  · cases h; exact .refl _
  iterate 4 (split at h; · cases h; exact ⟨⟨rfl, rfl, rfl, id⟩, rfl⟩)
  · cases h; exact ⟨⟨rfl, rfl, rfl, id⟩, rfl⟩

/-- What an accepted response writes. -/
theorem consumeResponse_writes {after : WgPeer} {response : MessageHandshakeResponse}
    (h : noiseHandshakeConsumeResponse c response device = some after) :
    ∃ remoteEphemeral hash chainingKey, after = { device.peer with
      handshakeMaterial := { device.peer.handshakeMaterial with remoteEphemeral, hash, chainingKey }
      handshake := { device.peer.handshake with
        state := .responseReceived, remoteIndex := response.senderIndex } } := by
  unfold noiseHandshakeConsumeResponse at h
  simp only at h
  iterate 8 (split at h; · cases h)
  cases h
  exact ⟨_, _, _, rfl⟩

private theorem consumeResponse_keeps {after : WgPeer} {response : MessageHandshakeResponse}
    (h : noiseHandshakeConsumeResponse c response device = some after) :
    device.peer.Keeps after := by
  obtain ⟨_, _, _, rfl⟩ := consumeResponse_writes h
  exact ⟨⟨rfl, rfl, rfl, id⟩, rfl⟩

/-- What a cookie reply writes, accepted or not. -/
theorem consumeCookieReply_writes {after : WgPeer} {reply : MessageHandshakeCookie}
    (h : noiseHandshakeConsumeCookieReply c p reply device = (ok, after)) :
    ∃ cookie macs, after = { device.peer with
      cookie, lastInitiation := { device.peer.lastInitiation with macs } } := by
  unfold noiseHandshakeConsumeCookieReply at h
  simp only at h
  iterate 6 (split at h; · cases h; exact ⟨_, _, rfl⟩)
  split at h
  · cases h; exact ⟨_, _, rfl⟩
  · cases h; exact ⟨_, _, rfl⟩

private theorem consumeCookieReply_keeps {after : WgPeer} {reply : MessageHandshakeCookie}
    (h : noiseHandshakeConsumeCookieReply c p reply device = (ok, after)) :
    device.peer.Keeps after := by
  obtain ⟨_, _, rfl⟩ := consumeCookieReply_writes h
  exact ⟨⟨rfl, rfl, rfl, id⟩, rfl⟩

/-- What an accepted initiation writes; it was authentic and newer than the last one. -/
theorem consumeInitiation_writes {peer after : WgPeer} {message : MessageHandshakeInitiation}
    (h : noiseHandshakeConsumeInitiation c p message peer = some after) :
    ∃ chainingKey hash timestamp,
      readInitiation c message peer = some (chainingKey, hash, timestamp) ∧
      (peer.handshake.hasLastInitiationTimestamp → lexicographicalCompare
        peer.handshake.lastInitiationTimestamp.toList timestamp.toList) ∧
      after = { peer with
        handshakeMaterial := { peer.handshakeMaterial with
          remoteEphemeral := .of message.unencryptedEphemeral
          hash := .of hash
          chainingKey := .of chainingKey }
        handshake := { peer.handshake with
          state := .initiationReceived
          remoteIndex := message.senderIndex
          lastInitiationTimestamp := timestamp
          hasLastInitiationTimestamp := true
          lastInitiationConsumption := p.clock .consumeInitiation }
        acceptedInitiations := peer.acceptedInitiations ++ [(message, timestamp)] } := by
  unfold noiseHandshakeConsumeInitiation at h
  simp only at h
  iterate 4 (split at h; · cases h)
  split at h
  · cases h
  rename_i chainingKey hash timestamp hread
  split at h
  · cases h
  rename_i hnewer
  split at h
  · cases h
  cases h
  refine ⟨chainingKey, hash, timestamp, hread, fun hlast => ?_, rfl⟩
  rw [not_and] at hnewer
  simpa using hnewer hlast

private theorem consumeInitiation_accepts {peer after : WgPeer}
    {message : MessageHandshakeInitiation}
    (h : noiseHandshakeConsumeInitiation c p message peer = some after) :
    ∃ timestamp, peer.Accepts c after message timestamp := by
  obtain ⟨chainingKey, hash, timestamp, hread, hnewer, rfl⟩ := consumeInitiation_writes h
  exact ⟨timestamp, ⟨rfl, rfl, rfl, id⟩, ⟨chainingKey, hash, hread⟩, hnewer, rfl⟩

/-- What becomes of a handshake packet: nothing, or one of the three messages is read. -/
inductive PacketRead (c : Crypto) (p : Platform) (packet : List UInt8) (device : WgDevice) :
    HandshakePacketOutcome → WgDevice → Prop
  | nothing : PacketRead c p packet device .invalid device
  | initiation (message : MessageHandshakeInitiation) (peer : WgPeer)
      (hpeer : noiseHandshakeConsumeInitiation c p message device.peer = some peer) :
      PacketRead c p packet device .initiationConsumed (WgDevice.registerHandshakeIndex { device with
        peer := { peer with handshake := { peer.handshake with
          localIndex := device.allocateIndex p } } } (device.allocateIndex p))
  | response (message : MessageHandshakeResponse) (peer : WgPeer)
      (hpeer : noiseHandshakeConsumeResponse c message device = some peer)
      (htype : inspectMessageType packet = .ok .handshakeResponse) :
      PacketRead c p packet device .responseConsumed { device with peer }
  | cookieReply (reply : MessageHandshakeCookie) (accepted : Bool) (peer : WgPeer)
      (htype : inspectMessageType packet = .ok .cookieReply)
      (hpeer : noiseHandshakeConsumeCookieReply c p reply device = (accepted, peer)) :
      PacketRead c p packet device (if accepted then .cookieReplyConsumed else .invalid)
        { device with peer }

variable {outcome : HandshakePacketOutcome}

theorem consumeIncomingPacket_read
    (h : noiseHandshakeConsumeIncomingPacket c p packet device = (outcome, after)) :
    PacketRead c p packet device outcome after := by
  unfold noiseHandshakeConsumeIncomingPacket at h
  split at h
  · cases h; exact .nothing
  · -- an initiation
    split at h
    · cases h; exact .nothing
    split at h
    · cases h; exact .nothing
    rename_i message _ _ peer hpeer
    simp only at h
    rw [if_neg (allocateIndex_ne_zero _ p)] at h
    cases h; exact .initiation message peer hpeer
  · -- a response
    rename_i htype
    split at h
    · cases h; exact .nothing
    split at h
    · cases h; exact .nothing
    · rename_i message _ _ peer hpeer
      cases h; exact .response message peer hpeer htype
  · -- a cookie reply
    rename_i htype
    split at h
    · cases h; exact .nothing
    split at h
    · rename_i reply _ _ peer hpeer
      cases h; exact .cookieReply reply true peer htype hpeer
    · rename_i reply _ _ peer hpeer
      cases h; exact .cookieReply reply false peer htype hpeer
  · cases h; exact .nothing
  · cases h; exact .nothing

/-- A handshake packet, whatever comes of it, at most accepts an initiation. -/
theorem consumeIncomingPacket_advances
    (h : noiseHandshakeConsumeIncomingPacket c p packet device = (outcome, after)) :
    device.Advances c after := by
  cases consumeIncomingPacket_read h with
  | nothing => exact (WgDevice.Keeps.refl _).advances
  | initiation message peer hpeer =>
    obtain ⟨timestamp, haccepts⟩ := consumeInitiation_accepts hpeer
    exact ⟨rfl, .inr ⟨_, timestamp, haccepts.trans_keeps ⟨⟨rfl, rfl, rfl, id⟩, rfl⟩⟩⟩
  | response message peer hpeer => exact ⟨rfl, .inl (consumeResponse_keeps hpeer)⟩
  | cookieReply reply accepted peer htype hpeer => exact ⟨rfl, .inl (consumeCookieReply_keeps hpeer)⟩

/-- A response that was accepted leaves the handshake to the initiator. -/
theorem consumeIncomingPacket_response
    (h : noiseHandshakeConsumeIncomingPacket c p packet device = (.responseConsumed, after)) :
    after.peer.handshake.state = .responseReceived ∧
      inspectMessageType packet = .ok .handshakeResponse := by
  generalize houtcome : HandshakePacketOutcome.responseConsumed = outcome at h
  cases consumeIncomingPacket_read h with
  | nothing | initiation => cases houtcome
  | response message peer hpeer htype =>
    obtain ⟨_, _, _, rfl⟩ := consumeResponse_writes hpeer
    exact ⟨rfl, htype⟩
  | cookieReply reply accepted => cases accepted <;> cases houtcome

theorem consumeIncomingPacket_retry
    (h : noiseHandshakeConsumeIncomingPacket c p packet device = (outcome, after)) :
    after.peer.handshakeRetry = device.peer.handshakeRetry := by
  cases consumeIncomingPacket_read h with
  | nothing => rfl
  | initiation message peer hpeer =>
    obtain ⟨_, _, _, -, -, rfl⟩ := consumeInitiation_writes hpeer
    rfl
  | response message peer hpeer =>
    obtain ⟨_, _, _, rfl⟩ := consumeResponse_writes hpeer
    rfl
  | cookieReply reply accepted peer htype hpeer =>
    obtain ⟨_, _, rfl⟩ := consumeCookieReply_writes hpeer
    rfl

/-- The responder's admission check works on the cookie state alone. -/
theorem admitResponderPacket_cookie (packet : List UInt8) (source : Endpoint) (now : MonotonicTime)
    (device : WgDevice) :
    ∃ responderCookie, (noiseHandshakeAdmitResponderPacket c p device packet source now).2 =
      { device with responderCookie } := by
  unfold noiseHandshakeAdmitResponderPacket
  split
  · exact ⟨_, rfl⟩
  split
  · exact ⟨_, rfl⟩
  split
  · split
    · exact ⟨_, rfl⟩
    · exact ⟨_, rfl⟩
  split
  · exact ⟨_, rfl⟩
  · exact ⟨_, rfl⟩

theorem admitResponderPacket_keeps {source : Endpoint} {admission : ResponderHandshakeAdmission}
    (h : noiseHandshakeAdmitResponderPacket c p device packet source now = (admission, after)) :
    after.hasPeer = device.hasPeer ∧ after.peer = device.peer := by
  obtain ⟨responderCookie, hcookie⟩ :=
    admitResponderPacket_cookie (c := c) (p := p) packet source now device
  rw [h] at hcookie
  obtain rfl : after = { device with responderCookie } := hcookie
  exact ⟨rfl, rfl⟩

end Messages

/-! ## Starting a handshake -/

section Start

theorem createHandshakeInitiation_keeps (h : device.createHandshakeInitiation c p = (ok, after)) :
    device.Keeps after := by
  unfold WgDevice.createHandshakeInitiation at h
  split at h
  · cases h; exact .refl _
  simp only at h
  split at h
  · cases h; exact .refl _
  cases h
  refine ⟨rfl, Keeps.trans ?_ (createInitiation_keeps Prod.mk.eta.symm)⟩
  exact ⟨⟨rfl, rfl, rfl, id⟩, rfl⟩

theorem prepareFreshInitiation_keeps {beginSequence : Bool}
    (h : prepareFreshInitiation c p device beginSequence = (action, after)) :
    device.Keeps after := by
  unfold prepareFreshInitiation at h
  split at h
  · rename_i hcreate
    cases h; exact createHandshakeInitiation_keeps hcreate
  · rename_i hcreate
    have hkeeps := createHandshakeInitiation_keeps hcreate
    split at h
    · cases h; exact hkeeps.trans ⟨rfl, ⟨⟨rfl, rfl, rfl, id⟩, rfl⟩⟩
    · cases h; exact hkeeps

theorem startHandshake_keeps (h : startHandshake c p device = (action, after)) :
    device.Keeps after := by
  unfold startHandshake at h
  split at h
  · cases h; exact .refl _
  · exact prepareFreshInitiation_keeps h

/-- The retransmission timer does nothing, gives the whole attempt up, or starts over. -/
theorem handleHandshakeRetryTimer_cases (h : handleHandshakeRetryTimer c p device = (action, after)) :
    (action = .ignore ∧ after = device ∧ device.peer.handshakeRetry.active = false) ∨
      (action = .exhausted ∧ maxSendAttempts ≤ device.peer.handshakeRetry.sendAttempts ∧
        after = { device with peer := clearLastInitiation { device.peer with
          handshakeRetry := { device.peer.handshakeRetry with active := false }
          stagedOutboundPackets :=
            (device.peer.stagedOutboundPackets.clear .retryExhausted).2 } }) ∨
      ((action = .sendInitiation ∨ action = .fatal) ∧ ∃ handshakeRetry, prepareFreshInitiation c p
        { device with peer := { device.peer with handshakeRetry } } false = (action, after)) := by
  unfold handleHandshakeRetryTimer handleHandshakeRetryTimeout at h
  by_cases hactive : device.peer.handshakeRetry.active = false
  · rw [if_pos hactive] at h
    cases h; exact .inl ⟨rfl, rfl, hactive⟩
  rw [if_neg hactive] at h
  by_cases hleft : device.peer.handshakeRetry.sendAttempts < maxSendAttempts
  · rw [if_pos hleft] at h
    refine .inr (.inr ⟨?_, _, h⟩)
    simp only [prepareFreshInitiation] at h
    split at h
    · cases h; exact .inr rfl
    · cases h; exact .inl rfl
  · rw [if_neg hleft] at h
    cases h; exact .inr (.inl ⟨rfl, UInt32.not_lt.mp hleft, rfl⟩)

/-- The retransmission timer keeps the device, or clears the queue when it gives up. -/
theorem handleHandshakeRetryTimer_keeps (h : handleHandshakeRetryTimer c p device = (action, after)) :
    device.Keeps after ∨
      (action = .exhausted ∧ device.Keeps { after with peer := { after.peer with
          stagedOutboundPackets := device.peer.stagedOutboundPackets } } ∧
        after.peer.stagedOutboundPackets =
          (device.peer.stagedOutboundPackets.clear .retryExhausted).2) := by
  obtain ⟨-, rfl, -⟩ | ⟨haction, -, rfl⟩ | ⟨-, handshakeRetry, hfresh⟩ :=
    handleHandshakeRetryTimer_cases h
  · exact .inl (.refl _)
  · exact .inr ⟨haction, ⟨rfl, ⟨⟨rfl, rfl, rfl, id⟩, rfl⟩⟩, rfl⟩
  · refine .inl (WgDevice.Keeps.trans ?_ (prepareFreshInitiation_keeps hfresh))
    exact ⟨rfl, ⟨⟨rfl, rfl, rfl, id⟩, rfl⟩⟩

end Start

/-! ## Sessions -/

section Sessions

/-- `Establish` for a responder with a zero counter, whether or not it refuses. -/
theorem establish_nextFresh {serial : Nat} {localIndex remoteIndex : UInt32}
    {birth : MonotonicTime} {sending receiving : NoiseKey} :
    let keypair := NoiseKeypair.establish serial localIndex remoteIndex birth sending receiving 0
      false
    keypair.isInitiator = false ∧ keypair.sendCounter = 0 := by
  unfold NoiseKeypair.establish
  split
  · exact ⟨rfl, rfl⟩
  · exact ⟨rfl, rfl⟩

/-- A responder's keypair is derived with its counter at zero. -/
theorem deriveKeypair_nextFresh (h : peer.handshake.state ≠ .responseReceived) :
    (peer.deriveKeypair c p).isInitiator = false ∧ (peer.deriveKeypair c p).sendCounter = 0 := by
  unfold deriveKeypair
  simp only [decide_eq_false h]
  exact establish_nextFresh

private theorem installKeypair_keeps (peer : WgPeer) :
    peer.Keeps (peer.installKeypair (peer.deriveKeypair c p)) := by
  unfold installKeypair
  split
  · split
    · exact ⟨⟨rfl, rfl, rfl, fun _ => ⟨rfl, rfl⟩⟩, rfl⟩
    · exact ⟨⟨rfl, rfl, rfl, id⟩, rfl⟩
  · rename_i hstate
    exact ⟨⟨rfl, rfl, rfl, fun _ => deriveKeypair_nextFresh hstate⟩, rfl⟩

theorem beginSession_keeps (h : noiseHandshakeBeginSession c p device = (ok, after)) :
    device.Keeps after := by
  unfold noiseHandshakeBeginSession at h
  simp only at h
  iterate 3 (split at h; · cases h; exact .refl _)
  cases h
  refine ⟨rfl, (installKeypair_keeps (c := c) (p := p) device.peer).trans ?_⟩
  exact ⟨⟨rfl, rfl, rfl, id⟩, rfl⟩

theorem completeSession_keeps (h : completeSession c p device = (ok, after)) :
    device.Keeps after := by
  unfold completeSession at h
  split at h
  · rename_i hbegin
    cases h; exact beginSession_keeps hbegin
  · rename_i hbegin
    cases h; exact (beginSession_keeps hbegin).trans ⟨rfl, ⟨⟨rfl, rfl, rfl, id⟩, rfl⟩⟩

/-- An initiator that completes a session sends under the keypair it derived. -/
theorem completeSession_initiator (h : completeSession c p device = (true, after))
    (hstate : device.peer.handshake.state = .responseReceived) :
    after.peer.currentKeypair = device.peer.deriveKeypair c p ∧
      (device.peer.deriveKeypair c p).isValid := by
  unfold completeSession at h
  split at h
  · cases h
  · rename_i begun hbegin
    obtain ⟨hok, -⟩ | ⟨-, hvalid, hheld⟩ := beginSession_cases hbegin
    · cases hok
    · cases h
      have hcur := hheld .currentKeypair
      refine ⟨?_, hvalid⟩
      simp only [WgDevice.keypairForSlot, installKeypair, if_pos hstate,
        Option.some.injEq] at hcur
      refine Eq.trans hcur ?_
      split
      · rfl
      · rfl

/-- In one event, the keepalive under a keypair is built before the birth of the keypair or past its
life: the two readings of the clock are the platform's. -/
def Platform.Strays (p : Platform) : Prop :=
  p.clock .createKeepalive < p.clock .sessionBirth ∨
    p.clock .sessionBirth + rejectAfterTime ≤ p.clock .createKeepalive

/-- A keypair that was just derived can send a keepalive unless the clock strays. -/
theorem deriveKeypair_canSendAt_iff (hvalid : (peer.deriveKeypair c p).isValid) :
    (peer.deriveKeypair c p).canSendAt (p.clock .createKeepalive) ↔ ¬ p.Strays := by
  have hbirth : (peer.deriveKeypair c p).birthTime = p.clock .sessionBirth := by
    unfold deriveKeypair at hvalid ⊢
    simp only at hvalid ⊢
    rw [establish_of_isValid hvalid]
  have hcounter := (deriveKeypair_fresh hvalid).2.1
  unfold NoiseKeypair.canSendAt NoiseKeypair.sendStateAt NoiseKeypair.ageAt Platform.Strays
  rw [hbirth, hcounter, decide_eq_true_eq]
  by_cases hborn : p.clock .createKeepalive < p.clock .sessionBirth
  · simp [hborn]
  · by_cases hold : p.clock .sessionBirth + rejectAfterTime ≤ p.clock .createKeepalive
    · have hage := Int.le_sub_left_of_add_le hold
      simp [hvalid, hborn, hold, hage]
    · have hage := Int.not_le.mpr (Int.sub_left_lt_of_lt_add (Int.not_le.mp hold))
      simp [hvalid, hborn, hold, hage, rejectAfterMessages]

theorem confirmResponderSession_keeps (peer : WgPeer) : peer.Keeps (confirmResponderSession peer) :=
  ⟨⟨rfl, rfl, rfl, id⟩, rfl⟩

/-- Writing a keypair back with another window keeps the peer's part. -/
theorem setKeypairForSlot_keeps {slot : WgIndexSlot} {keypair : NoiseKeypair}
    {window : ReplayWindow} (h : device.keypairForSlot slot = some keypair) :
    device.Keeps (device.setKeypairForSlot slot { keypair with receiveReplayWindow := window }) := by
  cases slot with
  | handshake => cases h
  | currentKeypair | previousKeypair => exact ⟨rfl, ⟨⟨rfl, rfl, rfl, id⟩, rfl⟩⟩
  | nextKeypair => cases h; exact ⟨rfl, ⟨⟨rfl, rfl, rfl, id⟩, rfl⟩⟩

private theorem promoteNextKeypair_keeps {device : WgDevice} :
    device.Keeps device.promoteNextKeypair.2 := by
  unfold WgDevice.promoteNextKeypair
  split
  · exact .refl _
  · exact ⟨rfl, ⟨⟨rfl, rfl, rfl, fun _ => ⟨rfl, rfl⟩⟩, rfl⟩⟩

theorem consumeIncomingTransportDataPacket_keeps {capacity : Nat}
    {result : Except TransportDataError IncomingTransportData}
    (h : noiseConsumeIncomingTransportDataPacket c now packet device capacity = (result, after)) :
    device.Keeps after := by
  obtain ⟨_, -, rfl⟩ | ⟨data, keypair, window, -, hheld, -, -, written, rfl,
    ⟨-, rfl⟩ | ⟨-, rfl⟩⟩ := consumeIncomingTransportDataPacket_spec h
  · exact .refl _
  · exact setKeypairForSlot_keeps hheld.1
  · exact (setKeypairForSlot_keeps hheld.1).trans promoteNextKeypair_keeps

/-- A keypair that a packet confirms has not sent, so it needs no rekey. -/
theorem consumeIncomingTransportDataPacket_promoted {capacity : Nat} {data : IncomingTransportData}
    (h : noiseConsumeIncomingTransportDataPacket c now packet device capacity = (.ok data, after))
    (hfresh : device.peer.NextFresh) (hpromoted : data.promotedNextKeypair)
    (later : MonotonicTime) : after.peer.currentKeypair.needsRekeyAt later = false := by
  obtain ⟨_, hresult, -⟩ | ⟨data', keypair, window, hresult, hheld, -, -, written, rfl, hafter⟩ :=
    consumeIncomingTransportDataPacket_spec h
  · cases hresult
  cases hresult
  obtain ⟨hnot, -⟩ | ⟨hslot, rfl⟩ := hafter
  · rw [hnot] at hpromoted; cases hpromoted
  · obtain ⟨hkeypair, hvalid⟩ := hheld
    rw [hslot] at hkeypair ⊢
    obtain rfl := Option.some.inj hkeypair
    unfold WgDevice.promoteNextKeypair
    rw [if_neg]
    · show NoiseKeypair.needsRekeyAt { device.peer.nextKeypair with
        receiveReplayWindow := window } later = false
      unfold NoiseKeypair.needsRekeyAt
      split
      · rfl
      · simp only [hfresh.1, hfresh.2, Bool.false_and, Bool.or_false]
        decide
    · intro hinvalid
      exact Bool.false_ne_true (Eq.trans (Eq.symm hinvalid) hvalid)

end Sessions

/-! ## A handshake can always be started -/

section Success

/-- A peer that was initialised from usable keys. -/
def WgPeer.Ready (c : Crypto) (peer : WgPeer) : Prop :=
  ∃ own remote psk, peer.HasIdentity c own remote psk

/-- Only the identity and the precomputed secret count. -/
theorem WgPeer.Ready.of_eq {before after : WgPeer} (hready : before.Ready c)
    (hident : after.staticIdentity = before.staticIdentity)
    (hprecomputed : after.handshakeMaterial.precomputedStaticStatic =
      before.handshakeMaterial.precomputedStaticStatic) : after.Ready c := by
  obtain ⟨own, remote, psk, hid⟩ := hready
  refine ⟨own, remote, psk, ?_⟩
  constructor
  · rw [hident]; exact hid.staticPrivate
  · rw [hident]; exact hid.staticPublic
  · rw [hident]; exact hid.remoteStatic
  · rw [hident]; exact hid.presharedKey
  · rw [hident, hprecomputed]; exact hid.precomputed

theorem WgPeer.Carries.ready {before after : WgPeer} (h : before.Carries after)
    (hready : before.Ready c) : after.Ready c :=
  hready.of_eq h.identity h.precomputed

/-- A new peer has no next keypair, has accepted nothing and has sent nothing. -/
theorem initializePeer_fresh {localPrivateKey : NoiseKey} {remotePublicKey : List Char}
    {presharedKey : Option NoiseKey} {interval : UInt16}
    (h : initializePeer c localPrivateKey remotePublicKey presharedKey interval = some peer) :
    peer.NextFresh ∧ peer.acceptedInitiations = [] ∧ peer.stagedOutboundPackets.retired = [] := by
  unfold initializePeer at h
  split at h
  · cases h
  split at h
  · cases h
  · cases h; exact ⟨⟨rfl, rfl⟩, rfl, rfl⟩

/-- What a successful start leaves behind: an initiation that can be sent. -/
def WgPeer.HasInitiation (peer : WgPeer) : Prop :=
  peer.hasLastInitiation = true ∧
    peer.lastInitiation.type = MessageType.handshakeInitiation.word

theorem createHandshakeInitiation_ready (hc : c.Succeeds) (hpeer : device.hasPeer)
    (hready : device.peer.Ready c) :
    ∃ after, device.createHandshakeInitiation c p = (true, after) ∧ after.peer.HasInitiation := by
  obtain ⟨own, remote, psk, hid⟩ := hready
  unfold WgDevice.createHandshakeInitiation
  rw [if_neg (by simp [hpeer])]
  simp only
  rw [if_neg (allocateIndex_ne_zero device p)]
  set registered := WgDevice.registerHandshakeIndex { device with
    peer := { device.peer with
      handshake := { device.peer.handshake with
        localIndex := device.allocateIndex p, remoteIndex := 0 } } } (device.allocateIndex p)
    with hregistered
  have hregid : registered.peer.HasIdentity c own remote psk :=
    ⟨hid.staticPrivate, hid.staticPublic, hid.remoteStatic, hid.presharedKey, hid.precomputed⟩
  obtain ⟨_, _, _, _, _, _, _, _, _, _, -, -, -, -, -, hcreate⟩ :=
    createInitiation_spec p hregid (hc.x25519 _ _) hc.encrypt (allocateIndex_ne_zero device p)
  rw [hcreate]
  exact ⟨_, rfl, rfl, rfl⟩

/-- Starting a handshake either leaves a running one alone, or leaves an initiation to send. -/
theorem startHandshake_ready (hc : c.Succeeds) (hpeer : device.hasPeer)
    (hready : device.peer.Ready c) : (startHandshake c p device = (.ignore, device) ∧
        device.peer.handshakeRetry.active ∧
        (device.peer.timers.hooks .retransmitHandshake).pending) ∨
      (¬ (device.peer.handshakeRetry.active ∧
          (device.peer.timers.hooks .retransmitHandshake).pending) ∧
        ∃ after, startHandshake c p device = (.sendInitiation, after) ∧
          after.peer.HasInitiation) := by
  unfold startHandshake
  split
  · rename_i hrunning
    exact .inl ⟨rfl, hrunning⟩
  · rename_i hidle
    obtain ⟨after, hcreate, hinit⟩ := createHandshakeInitiation_ready (p := p) hc hpeer hready
    unfold prepareFreshInitiation
    rw [hcreate]
    exact .inr ⟨hidle, _, rfl, hinit⟩

/-- The retransmission timer of a running attempt leaves another initiation to send, until the
attempts are used up. -/
theorem handleHandshakeRetryTimer_ready (hc : c.Succeeds) (hpeer : device.hasPeer)
    (hready : device.peer.Ready c) : (device.peer.handshakeRetry.active ∧
        device.peer.handshakeRetry.sendAttempts < maxSendAttempts ∧
        ∃ after, handleHandshakeRetryTimer c p device = (.sendInitiation, after) ∧
          after.peer.HasInitiation) ∨
      (¬ (device.peer.handshakeRetry.active ∧
          device.peer.handshakeRetry.sendAttempts < maxSendAttempts) ∧
        ∃ action after, handleHandshakeRetryTimer c p device = (action, after) ∧
          (action = .ignore ∨ action = .exhausted)) := by
  unfold handleHandshakeRetryTimer handleHandshakeRetryTimeout
  by_cases hactive : device.peer.handshakeRetry.active
  · rw [if_neg (by simp [hactive])]
    by_cases hleft : device.peer.handshakeRetry.sendAttempts < maxSendAttempts
    · rw [if_pos hleft]
      simp only
      set retried : WgDevice := { device with peer := { device.peer with
        handshakeRetry := { device.peer.handshakeRetry with
          sendAttempts := device.peer.handshakeRetry.sendAttempts + 1 } } } with hretried
      have hcarries : device.peer.Carries retried.peer := ⟨rfl, rfl, rfl, id⟩
      have hhas : retried.hasPeer := hpeer
      obtain ⟨after, hcreate, hinit⟩ :=
        createHandshakeInitiation_ready (p := p) hc hhas (hcarries.ready hready)
      unfold prepareFreshInitiation
      rw [hcreate]
      exact .inl ⟨hactive, hleft, _, rfl, hinit⟩
    · rw [if_neg hleft]
      exact .inr ⟨fun h => hleft h.2, _, _, rfl, .inr rfl⟩
  · rw [if_pos (by simpa using hactive)]
    exact .inr ⟨fun h => hactive h.1, _, _, rfl, .inl rfl⟩

end Success

/-! ## What leaves the handshake retries alone -/

section Retries

theorem createResponse_retry {peer after : WgPeer} {response : Option MessageHandshakeResponse}
    (h : noiseHandshakeCreateResponse c p peer = (response, after)) :
    after.handshakeRetry = peer.handshakeRetry := by
  unfold noiseHandshakeCreateResponse at h
  simp only at h
  iterate 5 (split at h; · cases h; rfl)
  cases h; rfl

theorem consumeIncomingTransportDataPacket_retry {now : MonotonicTime} {packet : List UInt8}
    {device after : WgDevice} {capacity : Nat}
    {result : Except TransportDataError IncomingTransportData}
    (h : noiseConsumeIncomingTransportDataPacket c now packet device capacity = (result, after)) :
    after.peer.handshakeRetry = device.peer.handshakeRetry := by
  have hset (slot : WgIndexSlot) (keypair : NoiseKeypair) :
      (device.setKeypairForSlot slot keypair).peer.handshakeRetry =
        device.peer.handshakeRetry := by
    cases slot <;> rfl
  have hpromote (device : WgDevice) :
      device.promoteNextKeypair.2.peer.handshakeRetry = device.peer.handshakeRetry := by
    unfold WgDevice.promoteNextKeypair
    split
    · rfl
    · rfl
  obtain ⟨_, -, rfl⟩ | ⟨data, keypair, window, -, -, -, -, written, rfl,
    ⟨-, rfl⟩ | ⟨-, rfl⟩⟩ := consumeIncomingTransportDataPacket_spec h
  · rfl
  · exact hset _ _
  · exact (hpromote _).trans (hset _ _)

end Retries

end WireguardNx.Wireguard
