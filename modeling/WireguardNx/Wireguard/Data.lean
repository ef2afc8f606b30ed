import WireguardNx.Wireguard.Peer

/-!
# Transport packets

Creation and consumption of transport-data packets (`data.cpp`).  Sizes are natural numbers, so
the two guards of the source against a wrapping `size_t` have nothing to guard and are left out.
-/

namespace WireguardNx.Wireguard

/-! ## Padding -/

/-- `GetPaddedTransportPayloadSize` without an MTU. -/
def getPaddedTransportPayloadSize (payloadSize : Nat) : Nat :=
  if payloadSize = 0 then 0 else (payloadSize + 16 - 1) / 16 * 16

/-- `GetPaddedTransportPayloadSize` within an MTU. -/
def getPaddedTransportPayloadSizeMtu (payloadSize mtu : Nat) : Nat :=
  if mtu = 0 ∨ payloadSize = 0 then getPaddedTransportPayloadSize payloadSize
  else
    let lastUnit := if mtu < payloadSize then payloadSize % mtu else payloadSize
    let paddedLastUnit := (lastUnit + 16 - 1) / 16 * 16
    payloadSize + (if mtu < paddedLastUnit then mtu else paddedLastUnit) - lastUnit

/-! ## Errors and results -/

/-- `TransportDataError`, without the success value. -/
inductive TransportDataError where
  | invalidArgument
  | invalidKeypair
  | keyExpired
  | insufficientCapacity
  | invalidPacket
  | receiverIndexMismatch
  | counterExhausted
  | replayRejected
  | authenticationFailed
  deriving DecidableEq, Repr

def buildTransportNonce (counter : UInt64) : Bytes 12 := (Bytes.zero 4).append (storeLe64 counter)

/-- What a call of `noise_create_transport_data_packet` returns and leaves behind.  `encrypted` is
history: the counter whose nonce the call gave to the cipher, whether or not that succeeded. -/
structure TransportDataCreation where
  result : Except TransportDataError (List UInt8)
  keypair : NoiseKeypair
  encrypted : Option UInt64

/-! ## Creation -/

/-- The error for a keypair that cannot reserve a counter. -/
def KeypairSendState.createError : KeypairSendState → TransportDataError
  | .ready | .invalid => .invalidKeypair
  | .expired => .keyExpired
  | .counterExhausted => .counterExhausted

/-- `noise_create_transport_data_packet` into an output of `capacity` bytes at a clock reading.
The counter is reserved before the cipher runs and is not given back when it fails. -/
def noiseCreateTransportDataPacket (c : Crypto) (now : MonotonicTime) (capacity : Nat)
    (keypair : NoiseKeypair) (payload : List UInt8) (mtu : Nat) : TransportDataCreation :=
  let paddedPayloadSize := getPaddedTransportPayloadSizeMtu payload.length mtu
  let requiredSize := transportDataHeaderSize + paddedPayloadSize + noiseTagSize
  if capacity < requiredSize then ⟨.error .insufficientCapacity, keypair, none⟩
  else
    match keypair.reserveSendCounterAt now with
    | .error state => ⟨.error state.createError, keypair, none⟩
    | .ok (counter, keypair) =>
      match serializeTransportDataHeader
          ⟨MessageType.transportData.word, keypair.remoteIndex, counter⟩ with
      | .error _ => ⟨.error .invalidPacket, keypair, none⟩
      | .ok header =>
        let padded := payload ++ List.replicate (paddedPayloadSize - payload.length) 0
        match c.chacha20poly1305Encrypt (Bytes.ofList padded) [] keypair.sendingKey.bytes
            (buildTransportNonce counter) with
        | none => ⟨.error .authenticationFailed, keypair, some counter⟩
        | some (ciphertext, tag) =>
          ⟨.ok (header ++ ciphertext.toList ++ tag.toList), keypair, some counter⟩

/-! ## Consumption -/

/-- `noise_consume_transport_data_packet` into a buffer of `capacity` bytes: the header and the
decrypted payload, or why there is none, and the keypair as the call leaves it.  The window is
advanced on a copy, which is written back only after the packet authenticated. -/
def noiseConsumeTransportDataPacket (c : Crypto) (now : MonotonicTime) (packet : List UInt8)
    (keypair : NoiseKeypair) (capacity : Nat) :
    Except TransportDataError (MessageTransportData × List UInt8) × NoiseKeypair :=
  if keypair.isValid = false then (.error .invalidKeypair, keypair)
  else if keypair.canReceiveAt now = false then (.error .keyExpired, keypair)
  else
    match parseTransportDataHeader packet with
    | .error _ => (.error .invalidPacket, keypair)
    | .ok header =>
      if packet.length < transportDataHeaderSize + noiseTagSize then (.error .invalidPacket, keypair)
      else if header.receiverIndex ≠ keypair.localIndex then
        (.error .receiverIndexMismatch, keypair)
      else if rejectAfterMessages ≤ header.counter then (.error .counterExhausted, keypair)
      else
        let payloadSize := packet.length - transportDataHeaderSize - noiseTagSize
        if capacity < payloadSize then (.error .insufficientCapacity, keypair)
        else
          match keypair.receiveReplayWindow.tryAdvance header.counter with
          | (false, _) => (.error .replayRejected, keypair)
          | (true, window) =>
            let ciphertext := (packet.drop transportDataHeaderSize).take payloadSize
            match readBytes 16 (packet.drop (transportDataHeaderSize + payloadSize)) with
            | none => (.error .invalidPacket, keypair)
            | some (tag, _) =>
              match c.chacha20poly1305Decrypt (Bytes.ofList ciphertext) tag []
                  keypair.receivingKey.bytes (buildTransportNonce header.counter) with
              | none => (.error .authenticationFailed, keypair)
              | some payload =>
                (.ok (header, payload.toList), { keypair with receiveReplayWindow := window })

/-- `IncomingTransportDataResult`, with the decrypted payload. -/
structure IncomingTransportData where
  slot : WgIndexSlot
  header : MessageTransportData
  payload : List UInt8
  promotedNextKeypair : Bool

/-- `noise_consume_incoming_transport_data_packet`, with the device as the call leaves it. -/
def noiseConsumeIncomingTransportDataPacket (c : Crypto) (now : MonotonicTime)
    (packet : List UInt8) (device : WgDevice) (capacity : Nat) :
    Except TransportDataError IncomingTransportData × WgDevice :=
  match parseTransportDataHeader packet with
  | .error _ => (.error .invalidPacket, device)
  | .ok header =>
    match device.lookupIndexSlot header.receiverIndex with
    | none => (.error .receiverIndexMismatch, device)
    | some slot =>
      match device.keypairForSlot slot with
      | none => (.error .receiverIndexMismatch, device)
      | some keypair =>
        let (result, keypair) := noiseConsumeTransportDataPacket c now packet keypair capacity
        -- the keypair is written through the slot's pointer
        let device := device.setKeypairForSlot slot keypair
        match result with
        | .error error => (.error error, device)
        | .ok (header, payload) =>
          let (promoted, device) :=
            if slot = .nextKeypair then device.promoteNextKeypair else (false, device)
          (.ok ⟨slot, header, payload, promoted⟩, device)

end WireguardNx.Wireguard
