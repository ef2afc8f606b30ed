import WireguardNx.Laws.Watch

/-!
# Receiver indices

The device routes a packet by the index it was sent to: the registry says which slot the index
belongs to, and the slot names the handshake or a keypair.  Registry and keypairs are written apart
from each other.  What they keep is stated over the index of each slot: an operation leaves the
indices and the registry, registers a new index for the handshake, or moves indices between slots
and refreshes the registry.
-/

namespace WireguardNx.Wireguard

open WgDevice Function

variable {index : UInt32} {after peer : WgPeer}

/-! ## The index of a slot -/

/-- The index of a slot: that of the handshake, or that of a keypair while it is valid. -/
def WgPeer.slotIndex (peer : WgPeer) : WgIndexSlot → UInt32
  | .handshake => peer.handshake.localIndex
  | .currentKeypair => registeredIndex peer.currentKeypair
  | .nextKeypair => registeredIndex peer.nextKeypair
  | .previousKeypair => registeredIndex peer.previousKeypair

/-- What `wg_device_refresh_keypair_indices` registers. -/
def WgPeer.refreshedRegistry (peer : WgPeer) : WgIndexRegistry := fun slot =>
  if slot = .handshake then ⟨0, false⟩ else ⟨peer.slotIndex slot, decide (peer.slotIndex slot ≠ 0)⟩

variable {device : WgDevice}

theorem refreshKeypairIndices_registry :
    device.refreshKeypairIndices.indexRegistry = device.peer.refreshedRegistry := by
  funext slot
  cases slot with
  | handshake | currentKeypair | nextKeypair | previousKeypair => rfl

/-- What an operation does to the indices and the registry. -/
inductive IndexStep (device after : WgDevice) : Prop
  | keep (hindex : after.peer.slotIndex = device.peer.slotIndex)
      (hreg : after.indexRegistry = device.indexRegistry)
  | register (index : UInt32) (hindex : index ≠ 0) (hfree : device.lookupIndexSlot index = none)
      (hslots : after.peer.slotIndex = Function.update device.peer.slotIndex .handshake index)
      (hreg : after.indexRegistry =
        Function.update device.indexRegistry .handshake ⟨index, decide (index ≠ 0)⟩)
  /-- Indices move between slots; a keypair's stays with the keypairs. -/
  | move (source : WgIndexSlot → WgIndexSlot) (hinjective : Function.Injective source)
      (hkeypair : ∀ slot, slot ≠ .handshake → source slot ≠ .handshake)
      (hslots : ∀ slot, after.peer.slotIndex slot ≠ 0 →
        after.peer.slotIndex slot = device.peer.slotIndex (source slot))
      (hreg : after.indexRegistry = after.peer.refreshedRegistry)

/-- The registry agrees with the indices of the slots, which are distinct. -/
structure WgDevice.Indexed (device : WgDevice) : Prop where
  apart : ∀ first second, device.peer.slotIndex first ≠ 0 →
    device.peer.slotIndex first = device.peer.slotIndex second → first = second
  entries : ∀ slot, slot ≠ .handshake → device.indexRegistry slot =
    ⟨device.peer.slotIndex slot, decide (device.peer.slotIndex slot ≠ 0)⟩
  handshake : (device.indexRegistry .handshake).active = true →
    (device.indexRegistry .handshake).index ≠ 0 ∧
      (device.indexRegistry .handshake).index = device.peer.slotIndex .handshake

theorem lookup_eq_none (hindex : index ≠ 0)
    (h : device.lookupIndexSlot index = none) (slot : WgIndexSlot)
    (hactive : (device.indexRegistry slot).active) : (device.indexRegistry slot).index ≠ index := by
  unfold lookupIndexSlot at h
  rw [if_neg hindex, List.find?_eq_none] at h
  intro heq
  refine h slot ?_ ?_
  · cases slot <;> simp
  · simp [hactive, heq]

/-- Moved indices and a refreshed registry agree. -/
theorem indexed_of_source {device after : WgDevice} (hdev : device.Indexed)
    {source : WgIndexSlot → WgIndexSlot} (hinjective : Injective source)
    (hslots : ∀ slot, after.peer.slotIndex slot ≠ 0 →
      after.peer.slotIndex slot = device.peer.slotIndex (source slot))
    (hreg : after.indexRegistry = after.peer.refreshedRegistry) : after.Indexed := by
  refine ⟨fun first second hfirst heq => ?_, fun slot hslot => ?_, fun hactive => ?_⟩
  · have hsecond : after.peer.slotIndex second ≠ 0 := heq ▸ hfirst
    refine hinjective (hdev.apart _ _ ?_ ?_)
    · rw [← hslots first hfirst]
      exact hfirst
    · rw [← hslots first hfirst, ← hslots second hsecond, heq]
  · rw [hreg]
    exact if_neg hslot
  · rw [hreg] at hactive
    cases hactive

/-- One operation keeps registry and keypairs in agreement. -/
theorem IndexStep.indexed {device after : WgDevice} (h : IndexStep device after)
    (hdev : device.Indexed) : after.Indexed := by
  cases h with
  | keep hindex hreg =>
    refine ⟨?_, ?_, ?_⟩
    · rw [hindex]
      exact hdev.apart
    · rw [hindex, hreg]
      exact hdev.entries
    · rw [hindex, hreg]
      exact hdev.handshake
  | register index hindex hfree hslots hreg =>
    -- the new index differs from that of every keypair, which is registered
    have hother (slot : WgIndexSlot) (hslot : slot ≠ .handshake) :
        device.peer.slotIndex slot ≠ index := by
      intro heq
      have hentry := hdev.entries slot hslot
      refine lookup_eq_none hindex hfree slot ?_ ?_
      · rw [hentry, heq]
        exact decide_eq_true hindex
      · rw [hentry, heq]
    refine ⟨fun first second hfirst heq => ?_, fun slot hslot => ?_, fun _ => ?_⟩
    · rw [hslots] at hfirst heq
      by_cases hf : first = .handshake
      · by_cases hs : second = .handshake
        · exact hf.trans hs.symm
        · rw [hf, update_self, update_of_ne hs] at heq
          exact absurd heq.symm (hother second hs)
      · by_cases hs : second = .handshake
        · rw [hs, update_self, update_of_ne hf] at heq
          exact absurd heq (hother first hf)
        · rw [update_of_ne hf] at hfirst heq
          rw [update_of_ne hs] at heq
          exact hdev.apart first second hfirst heq
    · rw [hslots, hreg, update_of_ne hslot, update_of_ne hslot]
      exact hdev.entries slot hslot
    · rw [hslots, hreg, update_self, update_self]
      exact ⟨hindex, rfl⟩
  | move source hinjective _ hslots hreg =>
    exact indexed_of_source hdev hinjective hslots hreg

/-- A device without an index. -/
theorem indexed_of_zero (hslots : ∀ slot, device.peer.slotIndex slot = 0)
    (hreg : device.indexRegistry = .empty) : device.Indexed := by
  refine ⟨fun first _ hfirst => absurd (hslots first) hfirst, fun slot _ => ?_, fun h => ?_⟩
  · rw [hreg, hslots]
    rfl
  · rw [hreg] at h
    cases h

/-! ## What agreement gives -/

namespace WgDevice.Indexed

variable {device : WgDevice} {slot : WgIndexSlot} {keypair : NoiseKeypair}

theorem ne_zero_of_isValid (h : keypair.isValid) : keypair.localIndex ≠ 0 := by
  unfold NoiseKeypair.isValid at h
  simp only [Bool.and_eq_true, decide_eq_true_eq] at h
  exact h.1.1.1.2

/-- The index of a keypair's slot is zero exactly while the keypair is not valid. -/
theorem slotIndex_keypair (hslot : device.keypairForSlot slot = some keypair) :
    slot ≠ .handshake ∧ device.peer.slotIndex slot = registeredIndex keypair := by
  cases slot with
  | handshake => cases hslot
  | currentKeypair | nextKeypair | previousKeypair => cases hslot; exact ⟨nofun, rfl⟩

theorem registeredIndex_ne_zero_iff : registeredIndex keypair ≠ 0 ↔ keypair.isValid := by
  unfold registeredIndex
  by_cases hvalid : keypair.isValid
  · rw [if_pos hvalid]
    exact ⟨fun _ => hvalid, fun _ => ne_zero_of_isValid hvalid⟩
  · rw [if_neg hvalid]
    exact ⟨fun hne => absurd rfl hne, fun h => absurd h hvalid⟩

theorem active_iff (h : device.Indexed) (hslot : device.keypairForSlot slot = some keypair) :
    (device.indexRegistry slot).active ↔ keypair.isValid := by
  obtain ⟨hne, hindex⟩ := slotIndex_keypair hslot
  rw [h.entries slot hne, hindex, ← registeredIndex_ne_zero_iff]
  exact decide_eq_true_iff

theorem index_eq (h : device.Indexed) (hslot : device.keypairForSlot slot = some keypair)
    (hvalid : keypair.isValid) : (device.indexRegistry slot).index = keypair.localIndex := by
  obtain ⟨hne, hindex⟩ := slotIndex_keypair hslot
  rw [h.entries slot hne, hindex]
  exact if_pos hvalid

/-- An active entry holds the index of its slot. -/
theorem index_slot (h : device.Indexed) (hactive : (device.indexRegistry slot).active) :
    (device.indexRegistry slot).index ≠ 0 ∧
      (device.indexRegistry slot).index = device.peer.slotIndex slot := by
  by_cases hne : slot = .handshake
  · rw [hne] at hactive ⊢
    exact h.handshake hactive
  · rw [h.entries slot hne] at hactive ⊢
    exact ⟨of_decide_eq_true hactive, rfl⟩

private theorem index_ne_zero (h : device.Indexed) (hactive : (device.indexRegistry slot).active) :
    (device.indexRegistry slot).index ≠ 0 :=
  (h.index_slot hactive).1

theorem active_apart (h : device.Indexed) {first second : WgIndexSlot}
    (hfirst : (device.indexRegistry first).active) (hsecond : (device.indexRegistry second).active)
    (heq : (device.indexRegistry first).index = (device.indexRegistry second).index) :
    first = second := by
  obtain ⟨hne, hindex⟩ := h.index_slot hfirst
  rw [hindex, (h.index_slot hsecond).2] at heq
  exact h.apart first second (hindex ▸ hne) heq

/-- A lookup finds an active entry with the index. -/
theorem lookup_active (hlookup : device.lookupIndexSlot index = some slot) :
    (device.indexRegistry slot).active ∧ (device.indexRegistry slot).index = index := by
  unfold lookupIndexSlot at hlookup
  split at hlookup
  · cases hlookup
  · have hfound := List.find?_some hlookup
    rw [Bool.and_eq_true, decide_eq_true_eq] at hfound
    exact hfound

theorem lookup_valid (h : device.Indexed) (hslot : device.keypairForSlot slot = some keypair)
    (hvalid : keypair.isValid) : device.lookupIndexSlot keypair.localIndex = some slot := by
  have hactive := (h.active_iff hslot).mpr hvalid
  have hindex := h.index_eq hslot hvalid
  cases hlookup : device.lookupIndexSlot keypair.localIndex with
  | none => exact absurd hindex (lookup_eq_none (ne_zero_of_isValid hvalid) hlookup slot hactive)
  | some found =>
    obtain ⟨hfound, hsame⟩ := lookup_active hlookup
    rw [h.active_apart hfound hactive (hsame.trans hindex.symm)]

private theorem lookup_unique (h : device.Indexed)
    (hlookup : device.lookupIndexSlot index = some slot)
    (hslot : device.keypairForSlot slot = some keypair) :
    keypair.isValid ∧ keypair.localIndex = index ∧
      ∀ other rival, device.keypairForSlot other = some rival → rival.isValid →
        rival.localIndex = index → other = slot := by
  obtain ⟨hactive, hindex⟩ := lookup_active hlookup
  have hvalid := (h.active_iff hslot).mp hactive
  refine ⟨hvalid, (h.index_eq hslot hvalid).symm.trans hindex, ?_⟩
  intro other rival hother hrival heq
  have hfound := h.lookup_valid hother hrival
  rw [heq, hlookup] at hfound
  exact (Option.some.inj hfound).symm

end WgDevice.Indexed

/-! ## The operations -/

section Operations

variable {c : Crypto} {p : Platform} {device : WgDevice} {packet : List UInt8} {now : MonotonicTime}

/-- What an operation of the protocol does to a device, other than deriving a session and erasing
keys: a step of the indices that leaves the timers and the keepalive interval. -/
structure DeviceStep (device after : WgDevice) : Prop where
  index : IndexStep device after
  hasPeer : after.hasPeer = device.hasPeer
  timers : after.peer.timers = device.peer.timers
  interval : after.peer.persistentKeepaliveInterval = device.peer.persistentKeepaliveInterval

/-- What the handshake functions leave of a peer. -/
def WgPeer.sessions (peer : WgPeer) :
    UInt32 × NoiseKeypair × NoiseKeypair × NoiseKeypair × WgTimers × UInt16 :=
  (peer.handshake.localIndex, peer.currentKeypair, peer.nextKeypair, peer.previousKeypair,
    peer.timers, peer.persistentKeepaliveInterval)

/-- The handshake may have another index. -/
theorem slotIndex_of_handshake {index : UInt32} (h : after.sessions = (index, peer.sessions.2)) :
    after.slotIndex = update peer.slotIndex .handshake index := by
  simp only [WgPeer.sessions, Prod.mk.injEq] at h
  obtain ⟨hindex, hcur, hnext, hprevious, -⟩ := h
  funext slot
  cases slot with
  | handshake => exact hindex
  | currentKeypair => exact congrArg registeredIndex hcur
  | nextKeypair => exact congrArg registeredIndex hnext
  | previousKeypair => exact congrArg registeredIndex hprevious

theorem slotIndex_of_sessions (h : after.sessions = peer.sessions) :
    after.slotIndex = peer.slotIndex :=
  (slotIndex_of_handshake h).trans (update_eq_self _ _)

theorem IndexStep.refl (device : WgDevice) : IndexStep device device := .keep rfl rfl

/-- An operation after one that wrote neither an index nor the registry. -/
theorem IndexStep.after_keep {mid after : WgDevice}
    (hindex : mid.peer.slotIndex = device.peer.slotIndex)
    (hreg : mid.indexRegistry = device.indexRegistry) (h : IndexStep mid after) :
    IndexStep device after := by
  cases h with
  | keep hindex' hreg' => exact .keep (hindex'.trans hindex) (hreg'.trans hreg)
  | register index hne hfree hslots hreg' =>
    refine .register index hne ?_ (hindex ▸ hslots) (hreg ▸ hreg')
    unfold lookupIndexSlot at hfree ⊢
    rwa [hreg] at hfree
  | move source hinjective hkeypair hslots hreg' =>
    exact .move source hinjective hkeypair (hindex ▸ hslots) hreg'

/-- A change of the peer that writes no index. -/
theorem IndexStep.withPeer {after : WgDevice} (h : IndexStep device after)
    (hindex : peer.slotIndex = after.peer.slotIndex) : IndexStep device { after with peer } := by
  cases h with
  | keep hindex' hreg => exact .keep (hindex.trans hindex') hreg
  | register index hne hfree hslots hreg =>
    exact .register index hne hfree (hindex.trans hslots) hreg
  | move source hinjective hkeypair hslots hreg =>
    refine .move source hinjective hkeypair (fun slot => ?_) ?_
    · show peer.slotIndex slot ≠ 0 → peer.slotIndex slot = _
      rw [hindex]
      exact hslots slot
    · show after.indexRegistry = peer.refreshedRegistry
      rw [hreg]
      unfold WgPeer.refreshedRegistry
      rw [hindex]

theorem WgDevice.Indexed.withPeer (h : device.Indexed)
    (hindex : peer.slotIndex = device.peer.slotIndex) : Indexed { device with peer } :=
  ((IndexStep.refl device).withPeer hindex).indexed h

namespace DeviceStep

theorem refl (device : WgDevice) : DeviceStep device device := ⟨.refl device, rfl, rfl, rfl⟩

private theorem after_peer {device after : WgDevice} (hpeer : peer.sessions = device.peer.sessions)
    (h : DeviceStep { device with peer } after) : DeviceStep device after := by
  have hslots := slotIndex_of_sessions hpeer
  simp only [WgPeer.sessions, Prod.mk.injEq] at hpeer
  obtain ⟨-, -, -, -, htimers, hinterval⟩ := hpeer
  have hindex : ({ device with peer } : WgDevice).peer.slotIndex = device.peer.slotIndex := hslots
  exact ⟨.after_keep hindex rfl h.index, h.hasPeer, h.timers.trans htimers,
    h.interval.trans hinterval⟩

theorem withPeer {device after : WgDevice} (h : DeviceStep device after)
    (hpeer : peer.sessions = after.peer.sessions) : DeviceStep device { after with peer } := by
  have hslots := slotIndex_of_sessions hpeer
  simp only [WgPeer.sessions, Prod.mk.injEq] at hpeer
  obtain ⟨-, -, -, -, htimers, hinterval⟩ := hpeer
  exact ⟨h.index.withPeer hslots, h.hasPeer, htimers.trans h.timers, hinterval.trans h.interval⟩

end DeviceStep

/-- Creating an initiation writes neither the handshake's index nor a keypair. -/
theorem createInitiation_sessions {peer : WgPeer} :
    (noiseHandshakeCreateInitiation c p peer).2.sessions = peer.sessions := by
  unfold noiseHandshakeCreateInitiation
  simp only
  iterate 6 (split; · rfl)
  rfl

private theorem createResponse_sessions {peer : WgPeer} :
    (noiseHandshakeCreateResponse c p peer).2.sessions = peer.sessions := by
  unfold noiseHandshakeCreateResponse
  simp only
  iterate 5 (split; · rfl)
  rfl

/-- An index that was allocated is not registered. -/
theorem lookup_allocateIndex {p : Platform} :
    device.lookupIndexSlot (device.allocateIndex p) = none := by
  have hloop (attempts : Nat) (seed nextIndex : UInt32) :
      device.allocateIndexLoop seed attempts nextIndex = 0 ∨
        device.lookupIndexSlot (device.allocateIndexLoop seed attempts nextIndex) = none := by
    induction attempts generalizing nextIndex with
    | zero => exact .inl rfl
    | succ attempts ih =>
      unfold allocateIndexLoop
      simp only
      split
      · rename_i hfree
        exact .inr hfree.2
      · exact ih _
  exact (hloop 32 p.indexSeed p.nextIndex).resolve_left (allocateIndex_ne_zero device p)

/-- The handshake takes an allocated index, and nothing else moves. -/
theorem DeviceStep.allocate
    (hpeer : peer.sessions = (device.allocateIndex p, device.peer.sessions.2)) : DeviceStep device
      (registerHandshakeIndex { device with peer } (device.allocateIndex p)) := by
  have hslots := slotIndex_of_handshake hpeer
  simp only [WgPeer.sessions, Prod.mk.injEq] at hpeer
  obtain ⟨-, -, -, -, htimers, hinterval⟩ := hpeer
  exact ⟨.register (device.allocateIndex p) (allocateIndex_ne_zero device p)
    lookup_allocateIndex hslots rfl, rfl, htimers, hinterval⟩

private theorem createHandshakeInitiation_step (device : WgDevice) :
    DeviceStep device (device.createHandshakeInitiation c p).2 := by
  unfold createHandshakeInitiation
  split
  · exact .refl device
  simp only
  rw [if_neg (allocateIndex_ne_zero device p)]
  have hallocate : DeviceStep device (registerHandshakeIndex { device with
      peer := { device.peer with
        handshake := { device.peer.handshake with
          localIndex := device.allocateIndex p, remoteIndex := 0 } } } (device.allocateIndex p)) :=
    .allocate rfl
  exact hallocate.withPeer createInitiation_sessions

theorem prepareFreshInitiation_step (device : WgDevice) (beginSequence : Bool) :
    DeviceStep device (prepareFreshInitiation c p device beginSequence).2 := by
  have hcreate := createHandshakeInitiation_step (c := c) (p := p) device
  unfold prepareFreshInitiation
  split
  · rename_i h
    rwa [h] at hcreate
  · rename_i h
    rw [h] at hcreate
    split
    · exact hcreate.withPeer rfl
    · exact hcreate

private theorem startHandshake_step : DeviceStep device (startHandshake c p device).2 := by
  unfold startHandshake
  split
  · exact .refl device
  · exact prepareFreshInitiation_step device true

private theorem handleHandshakeRetryTimer_step :
    DeviceStep device (handleHandshakeRetryTimer c p device).2 := by
  generalize hretry : handleHandshakeRetryTimer c p device = retried
  obtain ⟨action, after⟩ := retried
  obtain ⟨-, rfl, -⟩ | ⟨-, -, rfl⟩ | ⟨-, handshakeRetry, hfresh⟩ :=
    handleHandshakeRetryTimer_cases hretry
  · exact .refl after
  · exact (DeviceStep.refl device).withPeer rfl
  · have hstep := prepareFreshInitiation_step (c := c) (p := p)
      { device with peer := { device.peer with handshakeRetry } } false
    rw [hfresh] at hstep
    refine .after_peer ?_ hstep
    rfl

private theorem consumeIncomingPacket_step {after : WgDevice} {outcome : HandshakePacketOutcome}
    (h : noiseHandshakeConsumeIncomingPacket c p packet device = (outcome, after)) :
    DeviceStep device after := by
  cases consumeIncomingPacket_read h with
  | nothing => exact .refl device
  | initiation message peer hpeer =>
    obtain ⟨_, _, _, -, -, rfl⟩ := consumeInitiation_writes hpeer
    exact .allocate rfl
  | response message peer hpeer =>
    obtain ⟨_, _, _, rfl⟩ := consumeResponse_writes hpeer
    exact (DeviceStep.refl device).withPeer rfl
  | cookieReply reply accepted peer htype hpeer =>
    obtain ⟨_, _, rfl⟩ := consumeCookieReply_writes hpeer
    exact (DeviceStep.refl device).withPeer rfl

private theorem admitResponderPacket_step {source : Endpoint} :
    DeviceStep device (noiseHandshakeAdmitResponderPacket c p device packet source now).2 := by
  obtain ⟨responderCookie, hcookie⟩ :=
    admitResponderPacket_cookie (c := c) (p := p) packet source now device
  rw [hcookie]
  exact ⟨.keep rfl rfl, rfl, rfl, rfl⟩

/-! ## Keypairs -/

theorem promoteNextKeypair_step (device : WgDevice) :
    DeviceStep device device.promoteNextKeypair.2 := by
  unfold promoteNextKeypair
  split
  · exact .refl device
  refine ⟨.move promotedFrom promotedFrom_injective ?_ ?_ refreshKeypairIndices_registry,
    rfl, rfl, rfl⟩
  · intro slot hslot
    cases slot with
    | handshake => exact absurd rfl hslot
    | currentKeypair | nextKeypair | previousKeypair => exact nofun
  · intro slot hindex
    cases slot with
    | handshake | currentKeypair | previousKeypair => rfl
    | nextKeypair => exact absurd rfl hindex

/-- A write to a keypair that keeps its index and its validity. -/
theorem setKeypairForSlot_keep {slot : WgIndexSlot} {keypair written : NoiseKeypair}
    (hslot : device.keypairForSlot slot = some keypair)
    (hindex : registeredIndex written = registeredIndex keypair) :
    (device.setKeypairForSlot slot written).peer.slotIndex = device.peer.slotIndex ∧
      (device.setKeypairForSlot slot written).indexRegistry = device.indexRegistry := by
  cases slot with
  | handshake => cases hslot
  | currentKeypair | nextKeypair | previousKeypair =>
    cases hslot
    refine ⟨funext fun slot => ?_, rfl⟩
    cases slot <;> first | exact hindex | rfl

private theorem setKeypairForSlot_step {slot : WgIndexSlot} {keypair written : NoiseKeypair}
    (hslot : device.keypairForSlot slot = some keypair)
    (hindex : registeredIndex written = registeredIndex keypair) :
    DeviceStep device (device.setKeypairForSlot slot written) := by
  obtain ⟨hslots, hreg⟩ := setKeypairForSlot_keep hslot hindex
  have hindexed : IndexStep device (device.setKeypairForSlot slot written) :=
    .keep hslots hreg
  cases slot with
  | handshake => cases hslot
  | currentKeypair | nextKeypair | previousKeypair => exact ⟨hindexed, rfl, rfl, rfl⟩

/-- A received packet advances a replay window, and may confirm the next keypair. -/
theorem consumeTransportData_step {capacity : Nat} :
    DeviceStep device (noiseConsumeIncomingTransportDataPacket c now packet device capacity).2 := by
  obtain ⟨_, -, hafter⟩ | ⟨data, keypair, window, -, hheld, -, -, written, hwritten, hafter⟩ :=
    consumeIncomingTransportDataPacket_spec (show
      noiseConsumeIncomingTransportDataPacket c now packet device capacity = (_, _) from
        Prod.mk.eta.symm)
  · rw [hafter]
    exact .refl device
  have hindex : registeredIndex { keypair with receiveReplayWindow := window } =
      registeredIndex keypair := rfl
  have hwrite := setKeypairForSlot_step hheld.1 hindex
  have hkeep := setKeypairForSlot_keep hheld.1 hindex
  rw [← hwritten] at hwrite hkeep
  obtain ⟨-, hafter⟩ | ⟨-, hafter⟩ := hafter
  · rw [hafter]
    exact hwrite
  · have hpromote := promoteNextKeypair_step written
    rw [hafter]
    exact ⟨hpromote.index.after_keep hkeep.1 hkeep.2, hpromote.hasPeer.trans hwrite.hasPeer,
      hpromote.timers.trans hwrite.timers, hpromote.interval.trans hwrite.interval⟩

/-- Encrypting under the current keypair moves its counter only. -/
theorem createTransportData_step {capacity : Nat} {payload : List UInt8} {mtu : Nat} :
    DeviceStep device { device with peer := { device.peer with
      currentKeypair := (noiseCreateTransportDataPacket c now capacity device.peer.currentKeypair
        payload mtu).keypair } } := by
  refine ⟨(IndexStep.refl device).withPeer (funext fun slot => ?_), rfl, rfl, rfl⟩
  cases slot with
  | handshake | nextKeypair | previousKeypair => rfl
  | currentKeypair =>
    show registeredIndex _ = registeredIndex _
    obtain ⟨hsame, -⟩ | ⟨-, -, hsent, -⟩ :=
      createTransportDataPacket_spec c now capacity device.peer.currentKeypair payload mtu
    · rw [hsame]
    · rw [hsent]
      rfl

/-- The slots an initiator's derivation fills: its keypair is current, and the next one, if it was
valid, is kept in place of the current one. -/
def initiatedFrom (nextValid : Bool) : WgIndexSlot → WgIndexSlot
  | .handshake => if nextValid then .currentKeypair else .previousKeypair
  | .currentKeypair => .handshake
  | .nextKeypair => if nextValid then .previousKeypair else .nextKeypair
  | .previousKeypair => if nextValid then .nextKeypair else .currentKeypair

/-- The slots a responder's derivation fills. -/
def respondedFrom : WgIndexSlot → WgIndexSlot
  | .handshake => .nextKeypair
  | .currentKeypair => .currentKeypair
  | .nextKeypair => .handshake
  | .previousKeypair => .previousKeypair

theorem initiatedFrom_injective {nextValid : Bool} : Injective (initiatedFrom nextValid) := by
  intro first second h
  cases nextValid <;> cases first <;> cases second <;> first | rfl | cases h

private theorem respondedFrom_injective : Injective respondedFrom := by
  intro first second h
  cases first <;> cases second <;> first | rfl | cases h

/-- The keypair that is derived has the handshake's index. -/
theorem registeredIndex_deriveKeypair (peer : WgPeer) (h : (peer.deriveKeypair c p).isValid) :
    registeredIndex (peer.deriveKeypair c p) = peer.handshake.localIndex := by
  unfold registeredIndex
  rw [if_pos h]
  unfold WgPeer.deriveKeypair at h ⊢
  simp only at h ⊢
  rw [establish_of_isValid h]

/-- Where the indices come from when a keypair with the handshake's index is installed. -/
theorem installKeypair_slots {peer : WgPeer} {new : NoiseKeypair}
    (hnew : registeredIndex new = peer.handshake.localIndex) :
    ∃ source : WgIndexSlot → WgIndexSlot, Injective source ∧
      ∀ slot, slot ≠ .handshake → (peer.installKeypair new).slotIndex slot ≠ 0 →
        (peer.installKeypair new).slotIndex slot = peer.slotIndex (source slot) := by
  unfold WgPeer.installKeypair
  split
  · split
    · refine ⟨initiatedFrom true, initiatedFrom_injective, fun slot hslot hindex => ?_⟩
      cases slot with
      | handshake => exact absurd rfl hslot
      | currentKeypair => exact hnew
      | nextKeypair => exact absurd rfl hindex
      | previousKeypair => rfl
    · refine ⟨initiatedFrom false, initiatedFrom_injective, fun slot hslot _ => ?_⟩
      cases slot with
      | handshake => exact absurd rfl hslot
      | currentKeypair => exact hnew
      | nextKeypair | previousKeypair => rfl
  · refine ⟨respondedFrom, respondedFrom_injective, fun slot hslot hindex => ?_⟩
    cases slot with
    | handshake => exact absurd rfl hslot
    | currentKeypair => rfl
    | nextKeypair => exact hnew
    | previousKeypair => exact absurd rfl hindex

/-- The transcript is cleared after the registry is refreshed: the handshake has no index left. -/
theorem beginSession_slots {derived : WgDevice}
    (h : noiseHandshakeBeginSession c p device = (true, derived)) :
    (device.peer.deriveKeypair c p).isValid ∧ derived.peer.slotIndex .handshake = 0 ∧
      (∀ slot, slot ≠ .handshake → derived.peer.slotIndex slot =
        (device.peer.installKeypair (device.peer.deriveKeypair c p)).slotIndex slot) ∧
      derived.indexRegistry = derived.peer.refreshedRegistry := by
  unfold noiseHandshakeBeginSession at h
  simp only at h
  iterate 2 (split at h; · cases h)
  split at h
  · cases h
  rename_i hvalid
  cases h
  refine ⟨by simpa using hvalid, rfl, fun slot hslot => ?_, ?_⟩
  · cases slot with
    | handshake => exact absurd rfl hslot
    | currentKeypair | nextKeypair | previousKeypair => rfl
  · refine Eq.trans refreshKeypairIndices_registry (funext fun slot => ?_)
    cases slot with
    | handshake | currentKeypair | nextKeypair | previousKeypair => rfl

theorem beginSession_indexed {derived : WgDevice} (hdev : device.Indexed)
    (h : noiseHandshakeBeginSession c p device = (true, derived)) : derived.Indexed := by
  obtain ⟨hvalid, hzero, hslots, hreg⟩ := beginSession_slots h
  obtain ⟨source, hinjective, hsource⟩ :=
    installKeypair_slots (registeredIndex_deriveKeypair device.peer hvalid)
  refine indexed_of_source hdev hinjective (fun slot hindex => ?_) hreg
  by_cases hslot : slot = .handshake
  · exact absurd (hslot ▸ hzero) hindex
  · rw [hslots slot hslot] at hindex ⊢
    exact hsource slot hslot hindex

end Operations

end WireguardNx.Wireguard

namespace WireguardNx.Runtime

open Wireguard

variable {device : WgDevice}

/-! ## The device of a peer -/

/-- A property of devices that every step of a handler keeps. -/
structure DeviceInvariant (c : Crypto) (P : WgDevice → Prop) : Prop where
  operate : ∀ {p : Platform} {device after : WgDevice}, DeviceOp c p device after → P device →
    P after
  derive : ∀ {p : Platform} {device after : WgDevice}, DeriveOp c p device after → P device →
    P after
  queue : ∀ (device : WgDevice) (queue : InnerPacketQueue peerStagedPacketCapacity), P device →
    P { device with peer := { device.peer with stagedOutboundPackets := queue } }
  zero : ∀ device : WgDevice, P device →
    P (WgDevice.clearIndexRegistry { device with peer := device.peer.zeroKeyMaterial })
  scrub : ∀ s : PeerRuntime, P s.device → P s.scrubbedDevice
  reset : P .reset
  fresh : ∀ {key : NoiseKey} {text : List Char} {psk : Option NoiseKey} {interval : UInt16}
    {peer : WgPeer}, WgPeer.initializePeer c key text psk interval = some peer →
    P { WgDevice.reset with peer, hasPeer := true }
  timers : ∀ (device : WgDevice) (timers : WgTimers), P device →
    P { device with peer := { device.peer with timers } }

namespace DeviceInvariant

variable {c : Crypto} {P : WgDevice → Prop} {p : Platform} {s : PeerRuntime}
  {st after : HandlerState}

theorem fail (hP : DeviceInvariant c P) (hs : P st.runtime.device) (stage : PeerErrorStage)
    (code : PeerErrorCode) (now : Ktime) :
    P (st.enterActivationError stage code now).runtime.device := by
  rw [enterActivationError_eq]
  exact hP.scrub st.runtime hs

private theorem trafficStep (hP : DeviceInvariant c P) {identity : PeerIdentity}
    (h : TrafficStep c p identity st after) (hs : P st.runtime.device) :
    P after.runtime.device := by
  cases h with
  | emit effect _ | fill bytes packetId kind _ | free | listen => exact hs
  | note runtime _ hwork _ _ =>
    have hdev : runtime.device = st.runtime.device := congrArg Prod.fst hwork
    exact hdev ▸ hs
  | operate device hop => exact hP.operate hop hs
  | queue queue _ => exact hP.queue _ queue hs
  | zero => exact hP.zero _ hs
  | fail stage code now => exact hP.fail hs stage code now

theorem traffic (hP : DeviceInvariant c P) {identity : PeerIdentity}
    (h : Traffic c p identity st after) (hs : P st.runtime.device) : P after.runtime.device := by
  induction h with
  | refl _ => exact hs
  | step _ hstep ih => exact hP.trafficStep hstep (ih hs)
  | derive _ hderive _ _ ih ihRest => exact ihRest (hP.derive hderive (ih hs))

/-- What a turn does to the device. -/
theorem turn (hP : DeviceInvariant c P) {event : PeerEvent} (h : Turn c p s event st)
    (hs : P s.device) : P st.runtime.device := by
  cases h with
  | idle _ | doubt event flag _ _ | regain event _ _ _ | resolve event _ _
  | rebind flag _ _ _ _ _ _ | ignore event _ | bind event _ _ _ _ => exact hs
  | traffic _ _ _ _ htraffic => exact hP.traffic htraffic hs
  | refuse event stage code _ | unresolved event stage code _ _ => exact hP.fail hs stage code _
  | activate event _ => exact hP.reset
  | deactivate event hcur =>
    rw [(handleDeactivationRequested_spec hcur).1.device]
    exact hP.reset
  | lose event _ =>
    rw [losePath_runtime]
    exact hs
  | stale event _ | drop event _ _ _ =>
    rw [rejectSocket_runtime]
    exact hs
  | unopened event _ _ =>
    refine hP.fail ?_ _ _ _
    rw [rejectSocket_runtime]
    exact hs
  | rebound event binding last _ _ _ _ _ _ _ _ _ _ _ htraffic =>
    have hlast := hP.traffic htraffic hs
    exact hlast
  | bound event binding peer _ _ _ _ _ _ _ _ _ _ _ _ hpeer _ htraffic =>
    obtain ⟨key, text, psk, hpeer⟩ := hpeer
    exact hP.traffic htraffic (hP.fresh hpeer)
  | unkeyed event binding _ _ _ _ _ _ => exact hP.fail hP.reset _ _ _

/-- Handling an event keeps the property. -/
theorem handle (hP : DeviceInvariant c P) {event : PeerEvent} {after : PeerRuntime}
    {batch : EffectBatch}
    (h : s.handle c p event = some (after, batch)) (hs : P s.device) : P after.device := by
  obtain ⟨st, timers, intent, hst, rfl, -⟩ := handle_filter h
  exact hP.timers _ intent (hP.turn (handleEvent_turn hst) hs)

/-- The property holds of every peer that can be reached. -/
theorem reachable (hP : DeviceInvariant c P) (h : (peers c).Reachable s) : P s.device := by
  refine h.invariant (P := fun s => P s.device) ?_ ?_
  · rintro s ⟨peerIndex, config, derived, now, hconf⟩
    unfold PeerRuntime.configure at hconf
    rw [if_neg (by decide)] at hconf
    cases hconf
    exact hP.reset
  · rintro s next - hs ⟨⟨p, event⟩, -, hstep⟩
    obtain ⟨⟨after, batch⟩, hhandle, rfl⟩ := Option.map_eq_some_iff.mp hstep
    exact hP.handle hhandle hs

end DeviceInvariant

/-! ## The registry of a reachable peer -/

variable {p : Platform} {after : WgDevice}

/-- What the protocol does between derivations; one operation notes a flag in the timers. -/
theorem DeviceOp.step {c : Crypto} (h : DeviceOp c p device after) :
    DeviceStep device after ∨ ∃ needAnotherKeepalive,
      after = { device with peer := { device.peer with
        timers := { device.peer.timers with needAnotherKeepalive } } } := by
  cases h with
  | start => exact .inl startHandshake_step
  | retry => exact .inl handleHandshakeRetryTimer_step
  | consume packet => exact .inl (consumeIncomingPacket_step Prod.mk.eta.symm)
  | judge packet source now => exact .inl admitResponderPacket_step
  | respond => exact .inl ((DeviceStep.refl device).withPeer createResponse_sessions)
  | confirm => exact .inl ((DeviceStep.refl device).withPeer rfl)
  | receive packet => exact .inl consumeTransportData_step
  | create site payload mtu => exact .inl createTransportData_step
  | flag value => exact .inr ⟨value, rfl⟩

theorem DeviceOp.indexStep {c : Crypto}
    (h : DeviceOp c p device after) : IndexStep device after := by
  obtain hstep | ⟨_, rfl⟩ := h.step
  · exact hstep.index
  · exact (IndexStep.refl device).withPeer (funext fun slot => by cases slot <;> rfl)

theorem DeriveOp.indexed {c : Crypto}
    (h : DeriveOp c p device after) (hdev : device.Indexed) : after.Indexed := by
  cases h with
  | responder hbegin => exact beginSession_indexed hdev hbegin
  | initiator hbegin =>
    exact (beginSession_indexed hdev hbegin).withPeer (slotIndex_of_sessions rfl)

theorem indexed_invariant (c : Crypto) : DeviceInvariant c WgDevice.Indexed where
  operate := fun h hdev => h.indexStep.indexed hdev
  derive := fun h hdev => h.indexed hdev
  queue := fun _ _ hdev => hdev.withPeer (funext fun slot => by cases slot <;> rfl)
  zero := fun _ _ => indexed_of_zero (fun slot => by cases slot <;> rfl) rfl
  scrub := by
    intro s hs
    unfold PeerRuntime.scrubbedDevice
    split
    · exact indexed_of_zero (fun slot => by cases slot <;> rfl) rfl
    · exact hs
  reset := indexed_of_zero (fun slot => by cases slot <;> rfl) rfl
  fresh := by
    intro key text psk interval peer h
    unfold WgPeer.initializePeer at h
    split at h
    · cases h
    split at h
    · cases h
    · cases h
      exact indexed_of_zero (fun slot => by cases slot <;> rfl) rfl
  timers := fun _ _ hdev => hdev.withPeer (funext fun slot => by cases slot <;> rfl)

/-- Registry and keypairs of every reachable peer agree. -/
theorem registry_agrees {c : Crypto} {s : PeerRuntime} (h : (peers c).Reachable s) :
    (∀ slot keypair, s.device.keypairForSlot slot = some keypair →
      ((s.device.indexRegistry slot).active = true ↔ keypair.isValid = true) ∧
      (keypair.isValid = true → (s.device.indexRegistry slot).index = keypair.localIndex)) ∧
    (∀ slot, (s.device.indexRegistry slot).active = true →
      (s.device.indexRegistry slot).index ≠ 0) ∧
    (∀ first second, (s.device.indexRegistry first).active = true →
      (s.device.indexRegistry second).active = true →
      (s.device.indexRegistry first).index = (s.device.indexRegistry second).index →
      first = second) ∧
    (∀ slot keypair, s.device.keypairForSlot slot = some keypair → keypair.isValid = true →
      s.device.lookupIndexSlot keypair.localIndex = some slot) ∧
    (∀ index slot keypair, s.device.lookupIndexSlot index = some slot →
      s.device.keypairForSlot slot = some keypair →
      keypair.isValid = true ∧ keypair.localIndex = index ∧
      ∀ other rival, s.device.keypairForSlot other = some rival → rival.isValid = true →
        rival.localIndex = index → other = slot) ∧
    ∀ p : Platform, s.device.allocateIndex p ≠ 0 ∧
      ∀ slot, (s.device.indexRegistry slot).active = true →
        (s.device.indexRegistry slot).index ≠ s.device.allocateIndex p := by
  have hindexed := (indexed_invariant c).reachable h
  exact ⟨fun slot keypair hslot => ⟨hindexed.active_iff hslot, hindexed.index_eq hslot⟩,
    fun slot hactive => hindexed.index_ne_zero hactive, fun _ _ => hindexed.active_apart,
    fun _ _ => hindexed.lookup_valid, fun _ _ _ => hindexed.lookup_unique,
    fun p => ⟨allocateIndex_ne_zero s.device p,
      lookup_eq_none (allocateIndex_ne_zero s.device p) lookup_allocateIndex⟩⟩

/-- The sample peer after its first session: the current keypair is found by its index. -/
theorem registry_agrees_sample : ∃ s, (peers .transparent).Reachable s ∧
    s.device.peer.currentKeypair.localIndex = 1 ∧
    (s.device.indexRegistry .currentKeypair).active = true ∧
    s.device.lookupIndexSlot 1 = some .currentKeypair := by
  have hrun : (sampleRun .transparent (fun _ _ => True) 0 sampleEstablished).map
      (fun s => (s.device.peer.currentKeypair.isValid, s.device.peer.currentKeypair.localIndex)) =
        some (true, 1) := by
    decide +kernel
  obtain ⟨s, hs, hkeypair⟩ := Option.map_eq_some_iff.mp hrun
  obtain ⟨hvalid, hindex⟩ := Prod.mk.injEq .. ▸ hkeypair
  have hreach : (peers .transparent).Reachable s := sampleRun_reachable hs
  obtain ⟨hactive, -, -, hlookup, -⟩ := registry_agrees hreach
  refine ⟨s, hreach, hindex, (hactive .currentKeypair _ rfl).1.mpr hvalid, ?_⟩
  exact hindex ▸ hlookup .currentKeypair _ rfl hvalid

end WireguardNx.Runtime
