import WireguardNx.Laws.ReplayWindow
import WireguardNx.Lib.Ledger
import WireguardNx.Lib.Machine
import WireguardNx.Wireguard.Data
import WireguardNx.Wireguard.Handshake

/-!
# Counters of a session are used once

A device holds up to three established keypairs.  They are derived, promoted, moved between slots
and erased while packets are created and consumed under them.  Over every such run no keypair
accepts a counter twice, none encrypts under a counter twice, and all counters stay below
`rejectAfterMessages`.

A run keeps two logs beside the device: the counters accepted and the counters given to the
cipher, each with the serial of its keypair.  A keypair is the holder of the library's ledger; its
replay window knows what it has accepted, its send counter what it has sent.

Nothing is assumed of the primitives and of what is received.
-/

namespace WireguardNx.Wireguard

open NoiseKeypair Function

variable {c : Crypto} {packet : List UInt8} {now : MonotonicTime} {capacity : Nat}
  {keypair : NoiseKeypair} {p : Platform} {run : SessionRun} {after device : WgDevice}
  {slot : WgIndexSlot}

/-! ## Runs of sessions -/

/-- A device and what its sessions have done.  Derivations are numbered, and the number of a
derivation is the serial of the keypair it establishes. -/
structure SessionRun where
  device : WgDevice
  derivations : Nat
  accepted : List (Nat × UInt64)
  encrypted : List (Nat × UInt64)

/-- What can happen to a device's sessions.  `other` stands for all code that does not touch a
keypair: it may leave any handshake state, registry and cookie state behind. -/
inductive SessionOp where
  /-- `noise_consume_incoming_transport_data_packet`. -/
  | consume (now : MonotonicTime) (packet : List UInt8) (capacity : Nat)
  /-- `noise_create_transport_data_packet` under the keypair of a slot; a keepalive has an empty
  payload. -/
  | create (slot : WgIndexSlot) (now : MonotonicTime) (capacity : Nat) (payload : List UInt8)
      (mtu : Nat)
  /-- `noise_handshake_begin_session`. -/
  | beginSession (p : Platform)
  /-- `wg_device_promote_next_keypair`. -/
  | promote
  /-- `wg_peer_zero_key_material` and the cleared registry of its caller. -/
  | zeroKeyMaterial
  /-- `wg_peer_scrub_transient_state` and the cleared registry of its caller. -/
  | scrub
  /-- Anything else. -/
  | other (device : WgDevice)

def WgDevice.serialAt (device : WgDevice) (slot : WgIndexSlot) : Nat :=
  ((device.keypairForSlot slot).map (·.serial)).getD 0

def WgDevice.withKeypairsOf (device holder : WgDevice) : WgDevice :=
  { device with
    peer := { device.peer with
      currentKeypair := holder.peer.currentKeypair
      nextKeypair := holder.peer.nextKeypair
      previousKeypair := holder.peer.previousKeypair } }

/-- A packet comes in; when it is accepted, its counter is logged under its keypair. -/
def SessionRun.consume (c : Crypto) (run : SessionRun) (now : MonotonicTime) (packet : List UInt8)
    (capacity : Nat) : SessionRun :=
  match noiseConsumeIncomingTransportDataPacket c now packet run.device capacity with
  | (.error _, device) => { run with device }
  | (.ok data, device) =>
    { run with
      device
      accepted := (run.device.serialAt data.slot, data.header.counter) :: run.accepted }

/-- A packet is created under `keypair`; a counter given to the cipher is logged. -/
def SessionRun.create (c : Crypto) (run : SessionRun) (slot : WgIndexSlot) (keypair : NoiseKeypair)
    (now : MonotonicTime) (capacity : Nat) (payload : List UInt8) (mtu : Nat) : SessionRun :=
  let creation := noiseCreateTransportDataPacket c now capacity keypair payload mtu
  { run with
    device := run.device.setKeypairForSlot slot creation.keypair
    encrypted :=
      match creation.encrypted with
      | none => run.encrypted
      | some counter => (keypair.serial, counter) :: run.encrypted }

def SessionRun.beginSession (c : Crypto) (run : SessionRun) (p : Platform) : SessionRun :=
  { run with
    device := (noiseHandshakeBeginSession c { p with serial := run.derivations } run.device).2
    derivations := run.derivations + 1 }

def SessionRun.apply (c : Crypto) (run : SessionRun) : SessionOp → SessionRun
  | .consume now packet capacity => run.consume c now packet capacity
  | .create slot now capacity payload mtu =>
    match run.device.keypairForSlot slot with
    | none => run
    | some keypair => run.create c slot keypair now capacity payload mtu
  | .beginSession p => run.beginSession c p
  | .promote => { run with device := run.device.promoteNextKeypair.2 }
  | .zeroKeyMaterial =>
    { run with
      device := WgDevice.clearIndexRegistry
        { run.device with peer := run.device.peer.zeroKeyMaterial } }
  | .scrub =>
    { run with
      device := WgDevice.clearIndexRegistry
        { run.device with peer := run.device.peer.scrubTransientState } }
  | .other device => { run with device := device.withKeypairsOf run.device }

/-- The runs of a device that starts without a session. -/
def sessions (c : Crypto) : Machine SessionRun where
  start run := run.device.peer.currentKeypair = .reset ∧ run.device.peer.nextKeypair = .reset ∧
    run.device.peer.previousKeypair = .reset ∧ run.accepted = [] ∧ run.encrypted = []
  step run next := ∃ op, next = run.apply c op

/-! ## Which slots hold which keypair -/

/-- A valid keypair lives in a slot. -/
def WgDevice.Holds (device : WgDevice) (slot : WgIndexSlot) (keypair : NoiseKeypair) : Prop :=
  device.keypairForSlot slot = some keypair ∧ keypair.isValid = true

@[simp]
theorem keypairForSlot_setRegistryEntry (device : WgDevice) (slot entry : WgIndexSlot)
    (index : UInt32) :
    (device.setRegistryEntry entry index).keypairForSlot slot = device.keypairForSlot slot := by
  cases slot <;> rfl

@[simp]
theorem keypairForSlot_refreshKeypairIndices (device : WgDevice) (slot : WgIndexSlot) :
    device.refreshKeypairIndices.keypairForSlot slot = device.keypairForSlot slot := by
  simp only [WgDevice.refreshKeypairIndices, keypairForSlot_setRegistryEntry]

theorem reset_isValid : reset.isValid = false := rfl

/-- A device whose three keypairs are reset holds none. -/
theorem not_holds_of_reset (hcur : device.peer.currentKeypair = .reset)
    (hnext : device.peer.nextKeypair = .reset) (hprevious : device.peer.previousKeypair = .reset)
    (slot : WgIndexSlot) (keypair : NoiseKeypair) : ¬ device.Holds slot keypair := by
  rintro ⟨hslot, hvalid⟩
  have hreset : keypair = .reset := by
    cases slot with
    | handshake => cases hslot
    | currentKeypair => exact (Option.some.inj hslot).symm.trans hcur
    | nextKeypair => exact (Option.some.inj hslot).symm.trans hnext
    | previousKeypair => exact (Option.some.inj hslot).symm.trans hprevious
  rw [hreset, reset_isValid] at hvalid
  cases hvalid

/-- Writing one slot leaves the others. -/
theorem holds_setKeypairForSlot {slot i : WgIndexSlot} {new k : NoiseKeypair}
    (h : (device.setKeypairForSlot slot new).Holds i k) :
    (i = slot ∧ k = new) ∨ (i ≠ slot ∧ device.Holds i k) := by
  obtain ⟨hi, hvalid⟩ := h
  by_cases heq : i = slot
  · subst heq
    left
    cases i with
    | handshake => cases hi
    | currentKeypair | nextKeypair | previousKeypair => exact ⟨rfl, (Option.some.inj hi).symm⟩
  · right
    refine ⟨heq, ?_, hvalid⟩
    rw [← hi]
    cases slot <;> cases i <;> first | rfl | exact absurd rfl heq

/-- Writing back what a slot holds changes nothing. -/
theorem setKeypairForSlot_self (h : device.keypairForSlot slot = some keypair) :
    device.setKeypairForSlot slot keypair = device := by
  cases slot with
  | handshake => rfl
  | currentKeypair | nextKeypair | previousKeypair => cases h; rfl

/-- The slot a keypair comes from when the next one is promoted. -/
def promotedFrom : WgIndexSlot → WgIndexSlot
  | .handshake => .handshake
  | .currentKeypair => .nextKeypair
  | .previousKeypair => .currentKeypair
  | .nextKeypair => .previousKeypair

theorem promotedFrom_injective : Injective promotedFrom := by
  intro i j h
  cases i <;> cases j <;> first | rfl | cases h

/-- Promotion moves keypairs and makes none. -/
theorem holds_promoteNextKeypair {device : WgDevice} :
    ∃ source : WgIndexSlot → WgIndexSlot, Injective source ∧
      ∀ i k, device.promoteNextKeypair.2.Holds i k → device.Holds (source i) k := by
  unfold WgDevice.promoteNextKeypair
  split
  · exact ⟨id, injective_id, fun _ _ h => h⟩
  · refine ⟨promotedFrom, promotedFrom_injective, ?_⟩
    rintro i k ⟨hi, hvalid⟩
    rw [keypairForSlot_refreshKeypairIndices] at hi
    cases i with
    | handshake => cases hi
    | currentKeypair | previousKeypair => exact ⟨hi, hvalid⟩
    | nextKeypair =>
      rw [← Option.some.inj hi, reset_isValid] at hvalid
      cases hvalid

/-- A valid result of `Establish` is what it was asked for. -/
theorem establish_of_isValid {serial : Nat} {localIndex remoteIndex : UInt32}
    {birth : MonotonicTime} {sending receiving : NoiseKey} {counter : UInt64} {initiator : Bool}
    (hvalid : (establish serial localIndex remoteIndex birth sending receiving counter
      initiator).isValid) :
    establish serial localIndex remoteIndex birth sending receiving counter initiator =
      ⟨.established, localIndex, remoteIndex, counter, initiator, birth, sending, receiving, .reset,
        serial⟩ := by
  unfold establish at hvalid ⊢
  split
  · rename_i hunusable
    rw [if_pos hunusable, reset_isValid] at hvalid
    cases hvalid
  · rfl

/-- A derived keypair bears the platform's serial and has neither sent nor received. -/
theorem deriveKeypair_fresh {peer : WgPeer} (hvalid : (peer.deriveKeypair c p).isValid) :
    (peer.deriveKeypair c p).serial = p.serial ∧ (peer.deriveKeypair c p).sendCounter = 0 ∧
      (peer.deriveKeypair c p).receiveReplayWindow = .reset := by
  unfold WgPeer.deriveKeypair at hvalid ⊢
  simp only at hvalid ⊢
  rw [establish_of_isValid hvalid]
  exact ⟨rfl, rfl, rfl⟩

/-- Installing a keypair puts it into one slot, moves others and makes no other one. -/
theorem holds_installKeypair {device : WgDevice} {new : NoiseKeypair} :
    ∃ (slot : WgIndexSlot) (source : WgIndexSlot → WgIndexSlot), Injective source ∧
      ∀ i k, WgDevice.Holds { device with peer := device.peer.installKeypair new } i k →
        (i = slot ∧ k = new) ∨ device.Holds (source i) k := by
  have hreset {k : NoiseKeypair} (h : some reset = some k)
      (hk : k.isValid) : False := by
    rw [← Option.some.inj h, reset_isValid] at hk
    cases hk
  unfold WgPeer.installKeypair
  split
  · split
    · -- initiator: an unconfirmed next keypair becomes the previous one
      refine ⟨.currentKeypair, Equiv.swap .previousKeypair .nextKeypair,
        (Equiv.swap _ _).injective, ?_⟩
      rintro i k ⟨hi, hk⟩
      cases i with
      | handshake => cases hi
      | currentKeypair => exact .inl ⟨rfl, (Option.some.inj hi).symm⟩
      | nextKeypair => exact (hreset hi hk).elim
      | previousKeypair => exact .inr ⟨hi, hk⟩
    · -- initiator: the current keypair becomes the previous one
      refine ⟨.currentKeypair, Equiv.swap .previousKeypair .currentKeypair,
        (Equiv.swap _ _).injective, ?_⟩
      rintro i k ⟨hi, hk⟩
      cases i with
      | handshake => cases hi
      | currentKeypair => exact .inl ⟨rfl, (Option.some.inj hi).symm⟩
      | nextKeypair | previousKeypair => exact .inr ⟨hi, hk⟩
  · refine ⟨.nextKeypair, id, injective_id, ?_⟩
    rintro i k ⟨hi, hk⟩
    cases i with
    | handshake => cases hi
    | currentKeypair => exact .inr ⟨hi, hk⟩
    | nextKeypair => exact .inl ⟨rfl, (Option.some.inj hi).symm⟩
    | previousKeypair => exact (hreset hi hk).elim

/-- A refused derivation leaves the device alone; one that succeeds installs the derived keypair,
refreshes the registry and closes the handshake. -/
theorem beginSession_cases {ok : Bool} (h : noiseHandshakeBeginSession c p device = (ok, after)) :
    (ok = false ∧ after = device) ∨
      (ok ∧ (device.peer.deriveKeypair c p).isValid ∧
        ∀ i, after.keypairForSlot i = WgDevice.keypairForSlot { device with
          peer := device.peer.installKeypair (device.peer.deriveKeypair c p) } i) := by
  unfold noiseHandshakeBeginSession at h
  simp only at h
  split at h
  · cases h
    exact .inl ⟨rfl, rfl⟩
  split at h
  · cases h
    exact .inl ⟨rfl, rfl⟩
  split at h
  · cases h
    exact .inl ⟨rfl, rfl⟩
  · rename_i hvalid
    cases h
    refine .inr ⟨rfl, by simpa using hvalid, fun i => ?_⟩
    rw [← keypairForSlot_refreshKeypairIndices]
    cases i <;> rfl

/-- Deriving a session puts at most one new keypair into a slot and makes no other one. -/
theorem holds_beginSession {ok : Bool} (h : noiseHandshakeBeginSession c p device = (ok, after)) :
    after = device ∨
      ∃ (slot : WgIndexSlot) (new : NoiseKeypair) (source : WgIndexSlot → WgIndexSlot),
        Injective source ∧ new.serial = p.serial ∧ new.sendCounter = 0 ∧
        new.receiveReplayWindow = .reset ∧
        ∀ i k, after.Holds i k → (i = slot ∧ k = new) ∨ device.Holds (source i) k := by
  rcases beginSession_cases h with ⟨-, hafter⟩ | ⟨-, hvalid, hafter⟩
  · exact .inl hafter
  · obtain ⟨hserial, hcounter, hwindow⟩ := deriveKeypair_fresh hvalid
    obtain ⟨slot, source, hinj, hheld⟩ := holds_installKeypair
    refine .inr ⟨slot, _, source, hinj, hserial, hcounter, hwindow, ?_⟩
    rintro i k ⟨hi, hk⟩
    exact hheld i k ⟨(hafter i).symm.trans hi, hk⟩

/-! ## What one packet does to its keypair -/

/-- Creating a packet leaves the keypair alone or moves its counter on by one; only a counter it
moved past is given to the cipher. -/
theorem createTransportDataPacket_spec (c : Crypto) (now : MonotonicTime) (capacity : Nat)
    (keypair : NoiseKeypair) (payload : List UInt8) (mtu : Nat) :
    let creation := noiseCreateTransportDataPacket c now capacity keypair payload mtu
    (creation.keypair = keypair ∧ creation.encrypted = none) ∨
      (keypair.isValid ∧ keypair.sendCounter < rejectAfterMessages ∧
        creation.keypair = { keypair with sendCounter := keypair.sendCounter + 1 } ∧
        (creation.encrypted = none ∨ creation.encrypted = some keypair.sendCounter)) := by
  intro creation
  have hready (h : keypair.sendStateAt now = .ready) :
      keypair.isValid ∧ keypair.sendCounter < rejectAfterMessages := by
    unfold sendStateAt ageAt at h
    by_cases hvalid : keypair.isValid = false ∨ now < keypair.birthTime
    · simp [hvalid] at h
    · rw [if_neg hvalid] at h
      simp only at h
      split at h
      · cases h
      · split at h
        · cases h
        · rename_i hcounter
          exact ⟨by simpa using (not_or.mp hvalid).1, UInt64.not_le.mp hcounter⟩
  have hcreation : creation = noiseCreateTransportDataPacket c now capacity keypair payload mtu := rfl
  unfold noiseCreateTransportDataPacket reserveSendCounterAt at hcreation
  simp only at hcreation
  split at hcreation
  · exact .inl ⟨by rw [hcreation], by rw [hcreation]⟩
  · cases hstate : keypair.sendStateAt now with
    | ready =>
      obtain ⟨hvalid, hcounter⟩ := hready hstate
      right
      rw [hstate] at hcreation
      simp only at hcreation
      split at hcreation
      · exact ⟨hvalid, hcounter, by rw [hcreation], .inl (by rw [hcreation])⟩
      · split at hcreation
        · exact ⟨hvalid, hcounter, by rw [hcreation], .inr (by rw [hcreation])⟩
        · exact ⟨hvalid, hcounter, by rw [hcreation], .inr (by rw [hcreation])⟩
    | invalid | expired | counterExhausted =>
      rw [hstate] at hcreation
      exact .inl ⟨by rw [hcreation], by rw [hcreation]⟩

/-- Consuming a packet either refuses it and leaves the keypair alone, or commits the window that
has seen its counter. -/
theorem consumeTransportDataPacket_spec {keypair after : NoiseKeypair}
    {result : Except TransportDataError (MessageTransportData × List UInt8)}
    (h : noiseConsumeTransportDataPacket c now packet keypair capacity = (result, after)) :
    (∃ error, result = .error error ∧ after = keypair) ∨
      ∃ header payload window, result = .ok (header, payload) ∧ keypair.isValid ∧
        header.counter < rejectAfterMessages ∧
        keypair.receiveReplayWindow.tryAdvance header.counter = (true, window) ∧
        after = { keypair with receiveReplayWindow := window } := by
  unfold noiseConsumeTransportDataPacket at h
  have hrefuse {error : TransportDataError} (h : (Except.error error, keypair) = (result, after)) :
      ∃ error, result = .error error ∧ after = keypair := by
    cases h
    exact ⟨error, rfl, rfl⟩
  split at h
  · exact .inl (hrefuse h)
  rename_i hvalid
  split at h
  · exact .inl (hrefuse h)
  split at h
  · exact .inl (hrefuse h)
  rename_i header _
  iterate 3 (split at h; · exact .inl (hrefuse h))
  rename_i hcounter
  simp only at h
  split at h
  · exact .inl (hrefuse h)
  split at h
  · exact .inl (hrefuse h)
  rename_i window hadvance
  split at h
  · exact .inl (hrefuse h)
  split at h
  · exact .inl (hrefuse h)
  · rename_i payload _
    cases h
    exact .inr ⟨header, _, window, rfl, by simpa using hvalid, UInt64.not_le.mp hcounter, hadvance,
      rfl⟩

/-- An incoming packet that is refused leaves the device as it was.  One that is accepted came in
under a live keypair, whose window it advanced; the keypair may then have been promoted. -/
theorem consumeIncomingTransportDataPacket_spec
    {result : Except TransportDataError IncomingTransportData}
    (h : noiseConsumeIncomingTransportDataPacket c now packet device capacity = (result, after)) :
    (∃ error, result = .error error ∧ after = device) ∨
      ∃ data keypair window, result = .ok data ∧ device.Holds data.slot keypair ∧
        data.header.counter < rejectAfterMessages ∧
        keypair.receiveReplayWindow.tryAdvance data.header.counter = (true, window) ∧
        ∃ written, written = device.setKeypairForSlot data.slot
            { keypair with receiveReplayWindow := window } ∧
          ((data.promotedNextKeypair = false ∧ after = written) ∨
            (data.slot = .nextKeypair ∧ after = written.promoteNextKeypair.2)) := by
  unfold noiseConsumeIncomingTransportDataPacket at h
  split at h
  · cases h
    exact .inl ⟨_, rfl, rfl⟩
  split at h
  · cases h
    exact .inl ⟨_, rfl, rfl⟩
  rename_i slot _
  split at h
  · cases h
    exact .inl ⟨_, rfl, rfl⟩
  rename_i keypair hkeypair
  cases hconsumed : noiseConsumeTransportDataPacket c now packet keypair capacity with
  | mk result' keypair' =>
    rw [hconsumed] at h
    simp only at h
    rcases consumeTransportDataPacket_spec hconsumed with ⟨error, rfl, rfl⟩ |
      ⟨header, payload, window, rfl, hvalid, hcounter, hadvance, rfl⟩
    · cases h
      exact .inl ⟨error, rfl, setKeypairForSlot_self hkeypair⟩
    · right
      by_cases hslot : slot = .nextKeypair
      · simp only [hslot, if_true] at h
        cases h
        subst hslot
        exact ⟨_, keypair, window, rfl, ⟨hkeypair, hvalid⟩, hcounter, hadvance, _, rfl,
          .inr ⟨rfl, rfl⟩⟩
      · simp only [hslot, if_false] at h
        cases h
        exact ⟨_, keypair, window, rfl, ⟨hkeypair, hvalid⟩, hcounter, hadvance, _, rfl,
          .inl ⟨rfl, rfl⟩⟩

/-! ## The invariant -/

/-- The replay window of a keypair records the counters it has accepted. -/
def NoiseKeypair.KnowsAccepted (keypair : NoiseKeypair) (counters : Set UInt64) : Prop :=
  keypair.receiveReplayWindow.Records (UInt64.toNat '' counters)

/-- The send counter of a keypair is above the counters it has used. -/
def NoiseKeypair.KnowsEncrypted (keypair : NoiseKeypair) (counters : Set UInt64) : Prop :=
  ∀ counter ∈ counters, counter < keypair.sendCounter

/-- Both logs are ledgers of the keypairs the device holds, within the counter limit. -/
structure SessionRun.Good (run : SessionRun) : Prop where
  accepted : Ledger run.device.Holds serial NoiseKeypair.KnowsAccepted
    run.derivations run.accepted
  encrypted : Ledger run.device.Holds serial NoiseKeypair.KnowsEncrypted
    run.derivations run.encrypted
  accepted_lt : ∀ entry ∈ run.accepted, entry.2 < rejectAfterMessages
  encrypted_lt : ∀ entry ∈ run.encrypted, entry.2 < rejectAfterMessages

/-- Keypairs that only move between slots keep both ledgers. -/
theorem SessionRun.Good.move (h : run.Good) (source : WgIndexSlot → WgIndexSlot)
    (hinj : Injective source) (hheld : ∀ i k, device.Holds i k → run.device.Holds (source i) k) :
    SessionRun.Good { run with device } where
  accepted := h.accepted.carry source hinj fun i k hk => ⟨k, hheld i k hk, rfl, fun _ hs => hs⟩
  encrypted := h.encrypted.carry source hinj fun i k hk => ⟨k, hheld i k hk, rfl, fun _ hs => hs⟩
  accepted_lt := h.accepted_lt
  encrypted_lt := h.encrypted_lt

/-- A device without a keypair keeps both ledgers. -/
theorem SessionRun.Good.erase (h : run.Good) (hheld : ∀ i k, ¬ device.Holds i k) :
    SessionRun.Good { run with device } :=
  h.move id injective_id fun i k hk => (hheld i k hk).elim

private theorem rejectAfterMessages_lt {counter : UInt64} (h : counter < rejectAfterMessages) :
    counter < counter + 1 := by
  rw [UInt64.lt_iff_toNat_lt] at h ⊢
  have hmax : rejectAfterMessages.toNat = 18446744073709543423 := rfl
  rw [UInt64.toNat_add]
  have hone : (1 : UInt64).toNat = 1 := rfl
  omega

/-- Creating a packet logs at most the counter of its keypair, which is new. -/
theorem SessionRun.Good.create (h : run.Good)
    (hkeypair : run.device.keypairForSlot slot = some keypair) {payload : List UInt8} {mtu : Nat} :
    (run.create c slot keypair now capacity payload mtu).Good := by
  unfold SessionRun.create
  simp only
  rcases createTransportDataPacket_spec c now capacity keypair payload mtu with
    ⟨hafter, hnone⟩ | ⟨hvalid, hcounter, hafter, hencrypted⟩
  · rw [hafter, hnone, setKeypairForSlot_self hkeypair]
    exact h
  · have hheld : run.device.Holds slot keypair := ⟨hkeypair, hvalid⟩
    have hstep := rejectAfterMessages_lt hcounter
    -- the window is untouched, so the accepting side only carries its keypairs over
    have hacc : Ledger (run.device.setKeypairForSlot slot
        { keypair with sendCounter := keypair.sendCounter + 1 }).Holds serial
        KnowsAccepted run.derivations run.accepted := by
      refine h.accepted.carry id injective_id fun i k hk => ?_
      rcases holds_setKeypairForSlot hk with ⟨rfl, rfl⟩ | ⟨-, hk⟩
      · exact ⟨keypair, hheld, rfl, fun _ hs => hs⟩
      · exact ⟨k, hk, rfl, fun _ hs => hs⟩
    have hused := h.encrypted.knows_logged _ _ hheld
    rw [hafter]
    rcases hencrypted with hnone | hsome
    · rw [hnone]
      refine ⟨hacc, ?_, h.accepted_lt, h.encrypted_lt⟩
      refine h.encrypted.carry id injective_id fun i k hk => ?_
      rcases holds_setKeypairForSlot hk with ⟨rfl, rfl⟩ | ⟨-, hk⟩
      · exact ⟨keypair, hheld, rfl, fun s hs n hn => UInt64.lt_trans (hs n hn) hstep⟩
      · exact ⟨k, hk, rfl, fun _ hs => hs⟩
    · rw [hsome]
      refine ⟨hacc, ?_, h.accepted_lt, ?_⟩
      · refine h.encrypted.use { keypair with sendCounter := keypair.sendCounter + 1 } hheld rfl ?_ ?_
          fun i k hk => holds_setKeypairForSlot hk
        · intro hmem
          exact absurd (hused _ hmem) (UInt64.lt_irrefl _)
        · rintro n (rfl | hn)
          · exact hstep
          · exact UInt64.lt_trans (hused n hn) hstep
      · rintro entry (_ | ⟨_, he⟩)
        · exact hcounter
        · exact h.encrypted_lt _ he

/-- Consuming a packet logs at most the counter its keypair's window found fresh. -/
theorem SessionRun.Good.consume (h : run.Good) : (run.consume c now packet capacity).Good := by
  unfold SessionRun.consume
  cases hconsumed : noiseConsumeIncomingTransportDataPacket c now packet run.device capacity with
  | mk result after =>
    rcases consumeIncomingTransportDataPacket_spec hconsumed with ⟨error, rfl, rfl⟩ |
      ⟨data, keypair, window, rfl, hheld, hcounter, hadvance, written, hwritten, hafter⟩
    · exact h
    · simp only
      have hserial : run.device.serialAt data.slot = keypair.serial := by
        rw [WgDevice.serialAt, hheld.1]
        rfl
      rw [hserial]
      obtain ⟨haccept, hrecords, -⟩ :=
        ReplayWindow.tryAdvance_spec (h.accepted.knows_logged _ _ hheld) data.header.counter
      rw [hadvance] at haccept hrecords
      have hnew := (haccept.mp rfl).1
      -- the run in which the keypair's window has been written back, before any promotion
      have hgood : SessionRun.Good { run with
          device := written
          accepted := (keypair.serial, data.header.counter) :: run.accepted } := by
        rw [hwritten]
        refine ⟨?_, ?_, ?_, h.encrypted_lt⟩
        · refine h.accepted.use { keypair with receiveReplayWindow := window } hheld rfl ?_ ?_
            fun i k hk => holds_setKeypairForSlot hk
          · intro hmem
            exact hnew ⟨_, hmem, rfl⟩
          · unfold KnowsAccepted
            rw [Set.image_insert_eq]
            exact hrecords rfl
        · refine h.encrypted.carry id injective_id fun i k hk => ?_
          rcases holds_setKeypairForSlot hk with ⟨rfl, rfl⟩ | ⟨-, hk⟩
          · exact ⟨keypair, hheld, rfl, fun _ hs => hs⟩
          · exact ⟨k, hk, rfl, fun _ hs => hs⟩
        · rintro entry (_ | ⟨_, he⟩)
          · exact hcounter
          · exact h.accepted_lt _ he
      rcases hafter with ⟨-, rfl⟩ | ⟨-, rfl⟩
      · exact hgood
      · obtain ⟨source, hinj, hmoved⟩ := holds_promoteNextKeypair
        exact hgood.move source hinj hmoved

/-- Deriving a session adds a holder that has used nothing. -/
theorem SessionRun.Good.beginSession (h : run.Good) : (run.beginSession c p).Good := by
  unfold SessionRun.beginSession
  cases hderived : noiseHandshakeBeginSession c { p with serial := run.derivations } run.device with
  | mk ok after =>
    have hlater (knows : NoiseKeypair → Set UInt64 → Prop) (log : List (Nat × UInt64))
        (hempty : ∀ k : NoiseKeypair, k.sendCounter = 0 → k.receiveReplayWindow = .reset → knows k ∅)
        (hledger : Ledger run.device.Holds serial knows run.derivations log) :
        Ledger after.Holds serial knows (run.derivations + 1) log := by
      rcases holds_beginSession hderived with rfl |
        ⟨slot, new, source, hinj, hserial, hcounter, hwindow, hheld⟩
      · exact hledger.later
      · exact hledger.admitNew source hinj hserial (hempty new hcounter hwindow) hheld
    refine ⟨hlater _ _ ?_ h.accepted, hlater _ _ ?_ h.encrypted, h.accepted_lt, h.encrypted_lt⟩
    · intro k _ hwindow
      unfold KnowsAccepted
      rw [hwindow, Set.image_empty]
      exact ReplayWindow.records_reset
    · intro k _ _ counter hcounter
      exact hcounter.elim

/-- Every operation keeps the invariant. -/
theorem SessionRun.Good.apply (h : run.Good) (c : Crypto) (op : SessionOp) :
    (run.apply c op).Good := by
  cases op with
  | consume now packet capacity => exact h.consume
  | create slot now capacity payload mtu =>
    unfold SessionRun.apply
    cases hkeypair : run.device.keypairForSlot slot with
    | none => simpa only [hkeypair] using h
    | some keypair => simpa only [hkeypair] using h.create hkeypair
  | beginSession p => exact h.beginSession
  | promote =>
    obtain ⟨source, hinj, hmoved⟩ := holds_promoteNextKeypair
    exact h.move source hinj hmoved
  | zeroKeyMaterial | scrub => exact h.erase (not_holds_of_reset rfl rfl rfl)
  | other device =>
    refine h.move id injective_id fun i k hk => ?_
    cases i <;> exact hk

theorem sessions_good (hrun : (sessions c).Reachable run) : run.Good := by
  refine hrun.invariant ?_ ?_
  · rintro run ⟨hcur, hnext, hprevious, hacc, hencrypted⟩
    have hnone := not_holds_of_reset hcur hnext hprevious
    refine ⟨?_, ?_, ?_, ?_⟩
    · rw [hacc]
      exact Ledger.empty hnone
    · rw [hencrypted]
      exact Ledger.empty hnone
    · simp [hacc]
    · simp [hencrypted]
  · rintro run next - hgood ⟨op, rfl⟩
    exact hgood.apply c op

/-- A run that takes operations one after the other is a run. -/
theorem sessions_reachable_foldl {ops : List SessionOp} (hrun : (sessions c).Reachable run) :
    (sessions c).Reachable (ops.foldl (fun run op => run.apply c op) run) := by
  induction ops generalizing run with
  | nil => exact hrun
  | cons op ops ih => exact ih (hrun.step ⟨op, rfl⟩)

/-- A device with a finished handshake between the indices 5 and 6, as initiator. -/
def handshakenDevice : WgDevice :=
  { WgDevice.reset with
    peer := { WgPeer.empty with
      handshake := { NoiseHandshake.init with
        state := .responseReceived, localIndex := 5, remoteIndex := 6 }
      handshakeMaterial := { NoiseHandshakeMaterial.reset with
        chainingKey := .of (List.Vector.replicate 32 1) } } }

/-- One session: two keepalives out, a third refused by a buffer that is too small, then one
keepalive in, delivered twice. -/
def sampleOps : List SessionOp :=
  let keepalive : List UInt8 := [4, 0, 0, 0, 5, 0, 0, 0] ++ List.replicate 8 0 ++
    List.replicate 16 64
  [.other handshakenDevice, .beginSession (.constant (seconds 10) 0),
    .create .currentKeypair (seconds 11) 32 [] 1420,
    .create .currentKeypair (seconds 11) 32 [] 1420,
    .create .currentKeypair (seconds 11) 31 [] 1420,
    .consume (seconds 12) keepalive 0, .consume (seconds 12) keepalive 0]

def sampleSessions : SessionRun :=
  sampleOps.foldl (fun run op => run.apply .transparent op) ⟨.reset, 0, [], []⟩

theorem sampleSessions_reachable : (sessions .transparent).Reachable sampleSessions :=
  sessions_reachable_foldl (.start ⟨rfl, rfl, rfl, rfl, rfl⟩)

/-! ## Results -/

/-- Over every run, no keypair accepts a counter twice, no counter at or past
`rejectAfterMessages` is accepted, and a packet that is refused leaves the device as it was. -/
theorem accepted_counters_nodup (c : Crypto) (run : SessionRun)
    (hrun : (sessions c).Reachable run) :
    run.accepted.Nodup ∧ (∀ entry ∈ run.accepted, entry.2 < rejectAfterMessages) ∧
      ∀ now packet capacity error device,
        noiseConsumeIncomingTransportDataPacket c now packet run.device capacity =
          (.error error, device) → device = run.device := by
  refine ⟨(sessions_good hrun).accepted.nodup, (sessions_good hrun).accepted_lt, ?_⟩
  intro now packet capacity error device hrefused
  rcases consumeIncomingTransportDataPacket_spec hrefused with ⟨_, -, hdev⟩ |
    ⟨_, _, _, hresult, -⟩
  · exact hdev
  · cases hresult

/-- The sample run accepted its keepalive once although it came in twice. -/
theorem accepted_counters_nodup_sample : sampleSessions.accepted = [(0, 0)] ∧
    sampleSessions.accepted.Nodup :=
  ⟨by decide +kernel, (accepted_counters_nodup .transparent sampleSessions sampleSessions_reachable).1⟩

/-- Over every run, no keypair gives a counter to the cipher twice, and every counter so used is
below `rejectAfterMessages`. -/
theorem encrypted_counters_nodup (c : Crypto) (run : SessionRun)
    (hrun : (sessions c).Reachable run) :
    run.encrypted.Nodup ∧ ∀ entry ∈ run.encrypted, entry.2 < rejectAfterMessages :=
  ⟨(sessions_good hrun).encrypted.nodup, (sessions_good hrun).encrypted_lt⟩

/-- The sample run encrypted under the first two counters. -/
theorem encrypted_counters_nodup_sample :
    sampleSessions.encrypted = [(0, 1), (0, 0)] ∧ sampleSessions.encrypted.Nodup :=
  ⟨by decide +kernel,
    (encrypted_counters_nodup .transparent sampleSessions sampleSessions_reachable).1⟩

end WireguardNx.Wireguard
