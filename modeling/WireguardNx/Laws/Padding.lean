import WireguardNx.Laws.Sending
import WireguardNx.Tunnel.Policy

/-!
# Transport padding

A transport packet carries its inner packet padded with zeros, and the receiver finds the end of
the inner packet in its header.  Padding adds fewer bytes than a block and is taken off again.  The
buffers of both sides are sized by padding without an MTU, while the sender pads the part behind
the last full MTU; the two agree for a packet within the MTU, and behind an MTU boundary only as
far as the blocks counted from that boundary still end within the buffer.
-/

namespace WireguardNx.Wireguard

variable {packet : List UInt8} {version : InnerIpVersion}

/-! ## Sizes -/

/-- The part of a payload that is padded: what its last full MTU leaves over. -/
def lastUnit (payloadSize mtu : Nat) : Nat :=
  if mtu < payloadSize then payloadSize % mtu else payloadSize

private theorem lastUnit_le (payloadSize mtu : Nat) : lastUnit payloadSize mtu ≤ payloadSize := by
  unfold lastUnit
  split
  · exact Nat.mod_le _ _
  · exact Nat.le_refl _

private theorem lastUnit_le_mtu (payloadSize : Nat) {mtu : Nat} (hmtu : mtu ≠ 0) :
    lastUnit payloadSize mtu ≤ mtu := by
  unfold lastUnit
  split
  · exact Nat.le_of_lt (Nat.mod_lt _ (Nat.pos_of_ne_zero hmtu))
  · exact Nat.le_of_not_lt ‹_›

theorem getPaddedTransportPayloadSizeMtu_eq {payloadSize mtu : Nat} (hmtu : mtu ≠ 0)
    (hsize : payloadSize ≠ 0) : getPaddedTransportPayloadSizeMtu payloadSize mtu =
      payloadSize + min ((lastUnit payloadSize mtu + 15) / 16 * 16) mtu -
        lastUnit payloadSize mtu := by
  unfold getPaddedTransportPayloadSizeMtu
  rw [if_neg (by simp [hmtu, hsize])]
  change payloadSize + (if mtu < (lastUnit payloadSize mtu + 15) / 16 * 16 then mtu
    else (lastUnit payloadSize mtu + 15) / 16 * 16) - lastUnit payloadSize mtu = _
  split <;> omega

/-- Padding adds fewer bytes than a block. -/
theorem getPaddedTransportPayloadSizeMtu_bounds (payloadSize mtu : Nat) :
    payloadSize ≤ getPaddedTransportPayloadSizeMtu payloadSize mtu ∧
      getPaddedTransportPayloadSizeMtu payloadSize mtu ≤ payloadSize + 15 := by
  by_cases hplain : mtu = 0 ∨ payloadSize = 0
  · have hpadded : getPaddedTransportPayloadSizeMtu payloadSize mtu =
        getPaddedTransportPayloadSize payloadSize := if_pos hplain
    rw [hpadded]
    unfold getPaddedTransportPayloadSize
    split <;> omega
  · obtain ⟨hmtu, hsize⟩ := not_or.mp hplain
    have hlast := lastUnit_le payloadSize mtu
    have hwithin := lastUnit_le_mtu payloadSize hmtu
    rw [getPaddedTransportPayloadSizeMtu_eq hmtu hsize]
    omega

/-- Whether the blocks counted from a packet's last MTU boundary end within `room` bytes: behind
the boundary the room loses what is left over of its last block. -/
def EndsWithin (room payloadSize mtu : Nat) : Prop :=
  payloadSize ≤ mtu ∨ payloadSize + (room - payloadSize / mtu * mtu) % 16 ≤ room

instance (room payloadSize mtu : Nat) : Decidable (EndsWithin room payloadSize mtu) :=
  inferInstanceAs (Decidable (_ ∨ _))

/-- An inner packet padded within an MTU of the configured range. -/
theorem getPaddedTransportPayloadSizeMtu_le_iff {payloadSize mtu : Nat} (hpos : payloadSize ≠ 0)
    (hsize : payloadSize ≤ 1500) (hmtu : 576 ≤ mtu) :
    getPaddedTransportPayloadSizeMtu payloadSize mtu ≤ 1504 ↔ EndsWithin 1504 payloadSize mtu := by
  rw [getPaddedTransportPayloadSizeMtu_eq (by omega) hpos]
  unfold EndsWithin lastUnit
  split
  · rename_i hlong
    -- at least 576 bytes go into 1500 at most twice
    have hpositive : 0 < payloadSize / mtu := Nat.div_pos (Nat.le_of_lt hlong) (by omega)
    have hbelow : payloadSize / mtu < 3 := Nat.div_lt_of_lt_mul (by omega)
    have hsplit := Nat.div_add_mod payloadSize mtu
    have hrest := Nat.mod_lt payloadSize (show 0 < mtu by omega)
    have hunits : payloadSize / mtu = 1 ∨ payloadSize / mtu = 2 := by omega
    rcases hunits with hunits | hunits <;> rw [hunits] at hsplit ⊢ <;> omega
  · omega

/-! ## Validation -/

theorem loadBigEndian16_append {offset : Nat} {extra : List UInt8}
    (h : offset + 1 < packet.length) :
    loadBigEndian16 (packet ++ extra) offset = loadBigEndian16 packet offset := by
  unfold loadBigEndian16
  simp only [List.getD_eq_getElem?_getD]
  rw [List.getElem?_append_left (by omega), List.getElem?_append_left h]

private theorem validateInnerIpv4Packet_ok (h : validateInnerIpv4Packet packet = .ok ()) :
    minimumIpv4HeaderSize ≤ packet.length ∧ packet.length ≤ maxInnerIpPacketSize ∧
      loadBigEndian16 packet 2 = packet.length := by
  unfold validateInnerIpv4Packet at h
  grind

private theorem validateInnerIpv6Packet_ok (h : validateInnerIpv6Packet packet = .ok ()) :
    ipv6HeaderSize ≤ packet.length ∧ packet.length ≤ maxInnerIpPacketSize ∧
      ipv6HeaderSize + loadBigEndian16 packet 4 = packet.length := by
  unfold validateInnerIpv6Packet at h
  grind

/-- What an accepted packet's header says, also with more bytes behind it. -/
structure InnerPacketHeader (packet : List UInt8) (version : InnerIpVersion) : Prop where
  head : innerIpVersion (packet.headD 0) = version
  minimum : ∃ minimum, minimumHeaderSize version = some minimum ∧ minimum ≤ packet.length
  nonempty : packet ≠ []
  length_le : packet.length ≤ maxInnerIpPacketSize
  unpadded : ∀ extra, getUnpaddedPacketSize (packet ++ extra) = packet.length

theorem validateInnerIpPacket_ok (h : validateInnerIpPacket packet = .ok version) :
    InnerPacketHeader packet version := by
  cases packet with
  | nil => cases h
  | cons first rest =>
    simp only [validateInnerIpPacket] at h
    cases hversion : innerIpVersion first with
    | unknown => rw [hversion] at h; cases h
    | ipv4 =>
      rw [hversion] at h
      cases hvalid : validateInnerIpv4Packet (first :: rest) with
      | error error => rw [hvalid] at h; cases h
      | ok accepted =>
        rw [hvalid] at h
        cases h
        obtain ⟨hmin, hmax, hlen⟩ := validateInnerIpv4Packet_ok hvalid
        have hmin : 20 ≤ (first :: rest).length := hmin
        refine ⟨hversion, ⟨_, rfl, hmin⟩, List.cons_ne_nil _ _, hmax, fun extra => ?_⟩
        rw [List.cons_append, getUnpaddedPacketSize, hversion, ← List.cons_append]
        simp only
        rw [if_pos (by rw [List.length_append]; omega),
          loadBigEndian16_append (by omega), hlen]
    | ipv6 =>
      rw [hversion] at h
      cases hvalid : validateInnerIpv6Packet (first :: rest) with
      | error error => rw [hvalid] at h; cases h
      | ok accepted =>
        rw [hvalid] at h
        cases h
        obtain ⟨hmin, hmax, hlen⟩ := validateInnerIpv6Packet_ok hvalid
        have hlong : 40 ≤ (first :: rest).length := hmin
        refine ⟨hversion, ⟨_, rfl, hmin⟩, List.cons_ne_nil _ _, hmax, fun extra => ?_⟩
        rw [List.cons_append, getUnpaddedPacketSize, hversion, ← List.cons_append]
        simp only
        rw [if_pos (by rw [List.length_append]; exact Nat.le_add_right_of_le hmin),
          loadBigEndian16_append (by omega), hlen]

/-- A valid packet under at most 15 zeros is accepted for what it is. -/
theorem validatePaddedInnerIpPacket_append (h : validateInnerIpPacket packet = .ok version)
    {count : Nat} (hcount : count ≤ maximumPaddingSize) :
    validatePaddedInnerIpPacket (packet ++ List.replicate count 0) =
      .ok (packet.length, version) := by
  have hheader := validateInnerIpPacket_ok h
  obtain ⟨minimum, hminimum, hlong⟩ := hheader.minimum
  have hunpadded := hheader.unpadded (List.replicate count 0)
  have hpos := List.length_pos_of_ne_nil hheader.nonempty
  have hlen : (packet ++ List.replicate count (0 : UInt8)).length = packet.length + count := by
    simp
  have hfirst := hheader.head
  cases packet with
  | nil => exact absurd rfl hheader.nonempty
  | cons first rest =>
    rw [List.headD_cons] at hfirst
    rw [List.cons_append] at hunpadded hlen ⊢
    unfold validatePaddedInnerIpPacket
    simp only [hfirst, hminimum, hunpadded, hlen]
    rw [if_neg (by omega), if_neg (by omega), if_neg (Nat.not_lt_of_le hheader.length_le),
      if_neg (by omega), if_neg (by omega), ← List.cons_append, List.drop_left, List.take_left,
      if_neg (by simp), h]
    rfl

/-- What is accepted is the packet its own length field names, and that packet is accepted. -/
theorem validatePaddedInnerIpPacket_ok {payload : List UInt8} {size : Nat}
    (h : validatePaddedInnerIpPacket payload = .ok (size, version)) :
    size = getUnpaddedPacketSize payload ∧
      validateInnerIpPacket (payload.take size) = .ok version := by
  unfold validatePaddedInnerIpPacket at h
  cases payload with
  | nil => cases h
  | cons first rest =>
    simp only at h
    cases hminimum : minimumHeaderSize (innerIpVersion first) with
    | none => rw [hminimum] at h; cases h
    | some minimum =>
      rw [hminimum] at h
      simp only at h
      repeat' split at h
      all_goals try cases h
      cases hvalid : validateInnerIpPacket
          ((first :: rest).take (getUnpaddedPacketSize (first :: rest))) with
      | error error => rw [hvalid] at h; cases h
      | ok accepted =>
        rw [hvalid] at h
        cases h
        exact ⟨rfl, hvalid⟩

/-- An inner packet padded for the transport is accepted with its own version and size, and
nothing is accepted whose leading bytes are not themselves a valid packet. -/
theorem padded_accepted_as_packet :
    (∀ packet version mtu, validateInnerIpPacket packet = .ok version →
      ∃ count ≤ 15, getPaddedTransportPayloadSizeMtu packet.length mtu = packet.length + count ∧
        validatePaddedInnerIpPacket (packet ++ List.replicate count 0) =
          .ok (packet.length, version) ∧
        (packet ++ List.replicate count 0).take packet.length = packet) ∧
    ∀ payload size version, validatePaddedInnerIpPacket payload = .ok (size, version) →
      size = getUnpaddedPacketSize payload ∧
        validateInnerIpPacket (payload.take size) = .ok version := by
  refine ⟨?_, fun payload size version h => validatePaddedInnerIpPacket_ok h⟩
  intro packet version mtu h
  obtain ⟨hleast, hmost⟩ := getPaddedTransportPayloadSizeMtu_bounds packet.length mtu
  refine ⟨getPaddedTransportPayloadSizeMtu packet.length mtu - packet.length, by omega, by omega,
    validatePaddedInnerIpPacket_append h ?_, List.take_left⟩
  change _ ≤ 15
  omega

/-- An IPv6 header with no payload, padded to 48 bytes. -/
def sampleIpv6Header : List UInt8 := 0x60 :: List.replicate 39 0

theorem padded_accepted_as_packet_sample :
    getPaddedTransportPayloadSizeMtu sampleIpv6Header.length 1420 = 48 ∧
      ∃ count ≤ 15, getPaddedTransportPayloadSizeMtu sampleIpv6Header.length 1420 =
          sampleIpv6Header.length + count ∧
        validatePaddedInnerIpPacket (sampleIpv6Header ++ List.replicate count 0) =
          .ok (sampleIpv6Header.length, .ipv6) ∧
        (sampleIpv6Header ++ List.replicate count 0).take sampleIpv6Header.length =
          sampleIpv6Header :=
  ⟨by decide, padded_accepted_as_packet.1 sampleIpv6Header .ipv6 1420 (by decide +kernel)⟩

/-! ## Capacity -/

/-- A packet that fits is refused for another reason than its size. -/
theorem createTransportDataPacket_of_fits {c : Crypto} {now : MonotonicTime} {capacity mtu : Nat}
    {keypair : NoiseKeypair} {payload : List UInt8}
    (hfits : transportDataFits capacity mtu payload) :
    (noiseCreateTransportDataPacket c now capacity keypair payload mtu).result ≠
      .error .insufficientCapacity := by
  unfold noiseCreateTransportDataPacket
  simp only
  rw [if_neg (Nat.not_lt_of_le (of_decide_eq_true hfits))]
  cases keypair.reserveSendCounterAt now with
  | error state => cases state <;> simp [KeypairSendState.createError]
  | ok reserved =>
    simp only
    repeat' split
    all_goals simp

end WireguardNx.Wireguard

namespace WireguardNx.Runtime

open Wireguard Tunnel

/-- The MTUs a configuration can have: none, or one the loader accepts. -/
def ConfiguredMtu (mtu : UInt16) : Prop := mtu = 0 ∨ isValidEffectiveInnerMtu mtu = true

private theorem resolveEffectiveInnerMtu_ge {mtu : UInt16} (h : ConfiguredMtu mtu) :
    576 ≤ (resolveEffectiveInnerMtu mtu).toNat := by
  unfold resolveEffectiveInnerMtu
  rcases h with rfl | hvalid
  · decide
  · split
    · decide
    · exact UInt16.le_iff_toNat_le.mp (of_decide_eq_true (Bool.and_eq_true_iff.mp hvalid).1)

private theorem prepareTransportDatagram_of_fits {c : Crypto} {p : Platform} {s : PeerRuntime}
    {payload : List UInt8} (hfits : s.fits payload) {kind : PendingDatagramKind}
    {packetId : UInt64} :
    (s.prepareTransportDatagram c p payload kind packetId).1 ≠ .error .insufficientCapacity := by
  unfold PeerRuntime.prepareTransportDatagram
  split
  · simp
  · have hcreate : (noiseCreateTransportDataPacket c (p.clock (PeerRuntime.createSite kind))
        maxEncryptedDatagramSize s.device.peer.currentKeypair payload
        (resolveEffectiveInnerMtu s.config.mtu).toNat).result ≠ .error .insufficientCapacity :=
      createTransportDataPacket_of_fits hfits
    simp only
    split
    · rename_i error herror
      intro h
      exact hcreate (herror.trans (congrArg Except.error (Except.error.inj h)))
    · simp

/-- An inner packet padded within a configured MTU fits the sender's datagram and the receiver's
buffer, and is never refused for its size, exactly when the blocks counted from its last MTU
boundary end within the buffer. -/
theorem padded_fits_iff (packet : List UInt8) (version : InnerIpVersion) (mtu : UInt16)
    (hpacket : validateInnerIpPacket packet = .ok version) (hmtu : ConfiguredMtu mtu) :
    (transportDataHeaderSize + getPaddedTransportPayloadSizeMtu packet.length
          (resolveEffectiveInnerMtu mtu).toNat + noiseTagSize ≤ maxEncryptedDatagramSize ∧
      getPaddedTransportPayloadSizeMtu packet.length (resolveEffectiveInnerMtu mtu).toNat ≤
        maxDecryptedPayloadSize ∧
      ∀ (c : Crypto) (p : Platform) (s : PeerRuntime) (kind : PendingDatagramKind)
        (packetId : UInt64), s.config.mtu = mtu →
        (s.prepareTransportDatagram c p packet kind packetId).1 ≠ .error .insufficientCapacity) ↔
      EndsWithin maxDecryptedPayloadSize packet.length (resolveEffectiveInnerMtu mtu).toNat := by
  have hheader := validateInnerIpPacket_ok hpacket
  have hiff := getPaddedTransportPayloadSizeMtu_le_iff
    (List.length_pos_of_ne_nil hheader.nonempty).ne' hheader.length_le
    (resolveEffectiveInnerMtu_ge hmtu)
  change _ ↔ EndsWithin 1504 packet.length (resolveEffectiveInnerMtu mtu).toNat
  rw [← hiff]
  constructor
  · intro ⟨_, hreceiver, _⟩
    exact hreceiver
  · intro hreceiver
    have hsender : transportDataHeaderSize + getPaddedTransportPayloadSizeMtu packet.length
        (resolveEffectiveInnerMtu mtu).toNat + noiseTagSize ≤ maxEncryptedDatagramSize := by
      change 16 + _ + 16 ≤ 16 + 1504 + 16
      omega
    refine ⟨hsender, hreceiver, ?_⟩
    rintro c p s kind packetId rfl
    exact prepareTransportDatagram_of_fits (decide_eq_true hsender)

def ipv6PacketOfSize (size : Nat) : List UInt8 :=
  [0x60, 0, 0, 0, ((size - 40) / 256).toUInt8, ((size - 40) % 256).toUInt8] ++
    List.replicate (size - 6) 0

/-- The largest inner packet under the default MTU. -/
theorem padded_fits_sample :
    transportDataHeaderSize + getPaddedTransportPayloadSizeMtu (ipv6PacketOfSize 1420).length
      (resolveEffectiveInnerMtu 0).toNat + noiseTagSize ≤ maxEncryptedDatagramSize :=
  ((padded_fits_iff (ipv6PacketOfSize 1420) .ipv6 0 (by decide +kernel) (Or.inl rfl)).mpr
    (by decide +kernel)).1

/-- Under an MTU of 577 bytes, a packet of 1500 is padded to 1506 bytes and refused. -/
theorem padded_too_large :
    validateInnerIpPacket (ipv6PacketOfSize 1500) = .ok .ipv6 ∧ ConfiguredMtu 577 ∧
      getPaddedTransportPayloadSizeMtu 1500 577 = 1506 ∧ maxDecryptedPayloadSize = 1504 ∧
      ∃ s, (peers .transparent).Reachable s ∧ s.config.mtu = 577 ∧
        (s.prepareTransportDatagram .transparent (.constant (seconds 10) 7)
          (ipv6PacketOfSize 1500) .transportData 1).1 = .error .insufficientCapacity := by
  refine ⟨by decide +kernel, Or.inr (by decide), by decide, by decide, ?_⟩
  have hrun : (sampleRun .transparent (fun _ _ => True) 577 (sampleActivation (seconds 10) ++
      [sampleSent (seconds 10) 1 .none])).map (fun s => (s.config.mtu, s.hasProtocolPeer,
        s.pendingDatagram, s.fits (ipv6PacketOfSize 1500))) = some (577, true, none, false) := by
    decide +kernel
  obtain ⟨s, hs, hfacts⟩ := Option.map_eq_some_iff.mp hrun
  simp only [Prod.mk.injEq] at hfacts
  obtain ⟨hmtu, hpeer, hpend, hfits⟩ := hfacts
  refine ⟨s, sampleRun_reachable hs, hmtu, ?_⟩
  rw [prepareTransportDatagram_of_not_fits _ _ _ hpeer hpend hfits]

end WireguardNx.Runtime
