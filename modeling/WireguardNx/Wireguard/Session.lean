import WireguardNx.Wireguard.Primitives
import Mathlib.Logic.Function.Basic

/-!
# Keys, cookies, the replay window and keypairs

The session material of `session.hpp`: key arrays with their validity flag, the peer's cookie, the
static identity and handshake transcript, the sliding replay window and `noise_keypair`.

A C++ move assignment clears its source.  Moves are written at the call site as the pair of the
moved value and an explicit `reset` of the slot it came from.
-/

namespace WireguardNx.Wireguard

/-! ## Keys -/

/-- `noise_public_key`, `noise_private_key`, `noise_symmetric_key` and `noise_secret32`: 32 bytes
and whether they hold a key.  The four differ only in how C++ may copy them. -/
structure NoiseKey where
  bytes : Bytes 32
  valid : Bool
  deriving DecidableEq

def NoiseKey.clear : NoiseKey := ⟨Bytes.zero 32, false⟩

/-- A key that holds `bytes`. -/
def NoiseKey.of (bytes : Bytes 32) : NoiseKey := ⟨bytes, true⟩

@[simp]
theorem NoiseKey.of_valid (bytes : Bytes 32) : (NoiseKey.of bytes).valid := rfl

@[simp]
theorem NoiseKey.of_bytes (bytes : Bytes 32) : (NoiseKey.of bytes).bytes = bytes := rfl

/-- `noise_cookie`. -/
structure NoiseCookie where
  value : Bytes 16
  lastMac1 : Bytes 16
  birthTime : MonotonicTime
  valid : Bool
  hasLastMac1 : Bool
  deriving DecidableEq

/-- `noise_cookie_reset`. -/
def NoiseCookie.reset : NoiseCookie := ⟨Bytes.zero 16, Bytes.zero 16, 0, false, false⟩

/-- `noise_cookie_record_last_mac1`. -/
def NoiseCookie.recordLastMac1 (cookie : NoiseCookie) (mac1 : Bytes 16) : NoiseCookie :=
  { cookie with lastMac1 := mac1, hasLastMac1 := true }

/-- `noise_cookie_is_valid` at a clock reading. -/
def NoiseCookie.isValid (cookie : NoiseCookie) (now : MonotonicTime) : Bool :=
  cookie.valid && decide (0 < cookie.birthTime) && decide (cookie.birthTime ≤ now) &&
    decide (now - cookie.birthTime ≤ cookieRefreshTime)

/-- `noise_static_identity`. -/
structure NoiseStaticIdentity where
  staticPrivate : NoiseKey
  staticPublic : NoiseKey
  remoteStatic : NoiseKey
  presharedKey : NoiseKey
  deriving DecidableEq

/-- `noise_static_identity_reset`. -/
def NoiseStaticIdentity.reset : NoiseStaticIdentity := ⟨.clear, .clear, .clear, .clear⟩

/-- `noise_handshake_material`. -/
structure NoiseHandshakeMaterial where
  ephemeralPrivate : NoiseKey
  ephemeralPublic : NoiseKey
  remoteEphemeral : NoiseKey
  precomputedStaticStatic : NoiseKey
  chainingKey : NoiseKey
  hash : NoiseKey
  deriving DecidableEq

/-- `noise_handshake_material_reset`. -/
def NoiseHandshakeMaterial.reset : NoiseHandshakeMaterial :=
  ⟨.clear, .clear, .clear, .clear, .clear, .clear⟩

/-! ## Key texts -/

def decodeBase64Char (ch : Char) : Int :=
  if 'A' ≤ ch ∧ ch ≤ 'Z' then (ch.toNat : Int) - 'A'.toNat
  else if 'a' ≤ ch ∧ ch ≤ 'z' then (ch.toNat : Int) - 'a'.toNat + 26
  else if '0' ≤ ch ∧ ch ≤ '9' then (ch.toNat : Int) - '0'.toNat + 52
  else if ch = '+' then 62
  else if ch = '/' then 63
  else -1

/-- The loop of `DecodeWireGuardKey` over groups of four characters.  A padding character reads
as `-2` in the third and fourth place, and only the last group may hold one, in the fourth. -/
def decodeWireGuardGroups (outIndex : Nat) : List Char → Option (List UInt8)
  | [] => some []
  | ca :: cb :: cc :: cd :: rest =>
    let lastGroup := rest.isEmpty
    let a := decodeBase64Char ca
    let b := decodeBase64Char cb
    let c := if cc = '=' then -2 else decodeBase64Char cc
    let d := if cd = '=' then -2 else decodeBase64Char cd
    if a < 0 ∨ b < 0 ∨ c = -1 ∨ d = -1 then none
    else if lastGroup = true ∧ (c < 0 ∨ d ≠ -2) then none
    else if lastGroup = false ∧ (c < 0 ∨ d < 0) then none
    else
      let value := (a.toNat <<< 18) ||| (b.toNat <<< 12) ||| (c.toNat <<< 6) ||| d.toNat
      let group := ((value >>> 16) &&& 0xFF).toUInt8 ::
        (if 0 ≤ c then [((value >>> 8) &&& 0xFF).toUInt8] else []) ++
        (if 0 ≤ d then [(value &&& 0xFF).toUInt8] else [])
      if 32 < outIndex + group.length then none
      else (decodeWireGuardGroups (outIndex + group.length) rest).map (group ++ ·)
  | _ => none

def decodeWireGuardKey (text : List Char) : Option (Bytes 32) :=
  if text.length ≠ 44 ∨ text.getLast? ≠ some '=' then none
  else
    match decodeWireGuardGroups 0 text with
    | none => none
    | some out => if h : out.length = 32 then some ⟨out, h⟩ else none

/-- `Base64Alphabet`, at an index below 64. -/
def base64Char (index : Nat) : Char :=
  "ABCDEFGHIJKLMNOPQRSTUVWXYZabcdefghijklmnopqrstuvwxyz0123456789+/".toList.getD index '='

/-- The loop of `EncodeWireGuardKey` over groups of three bytes; a shorter last group is padded. -/
def encodeWireGuardGroups : List UInt8 → List Char
  | [] => []
  | [first] =>
    let value := first.toNat <<< 16
    [base64Char ((value >>> 18) &&& 0x3F), base64Char ((value >>> 12) &&& 0x3F), '=', '=']
  | [first, second] =>
    let value := (first.toNat <<< 16) ||| (second.toNat <<< 8)
    [base64Char ((value >>> 18) &&& 0x3F), base64Char ((value >>> 12) &&& 0x3F),
      base64Char ((value >>> 6) &&& 0x3F), '=']
  | first :: second :: third :: rest =>
    let value := (first.toNat <<< 16) ||| (second.toNat <<< 8) ||| third.toNat
    base64Char ((value >>> 18) &&& 0x3F) :: base64Char ((value >>> 12) &&& 0x3F) ::
      base64Char ((value >>> 6) &&& 0x3F) :: base64Char (value &&& 0x3F) ::
      encodeWireGuardGroups rest

/-- `EncodeWireGuardKey` into a span of `outSize` characters. -/
def encodeWireGuardKey (outSize : Nat) (bytes : Bytes 32) : Option (List Char) :=
  if outSize < 44 + 1 then none
  else
    let text := encodeWireGuardGroups bytes.toList
    if text.length = 44 then some text else none

/-- `noise_is_valid_encoded_key` with its default `allow_empty = false`. -/
def noiseIsValidEncodedKey (text : List Char) : Bool := (decodeWireGuardKey text).isSome

/-- `noise_parse_public_key`. -/
def noiseParsePublicKey (text : List Char) : Option NoiseKey :=
  (decodeWireGuardKey text).map NoiseKey.of

/-- `noise_static_identity_init_from_keys`.  The public key derivation cannot fail. -/
def NoiseStaticIdentity.initFromKeys (c : Crypto) (privateKey : NoiseKey)
    (peerPublicKeyText : List Char) (presharedKey : Option NoiseKey) :
    Option NoiseStaticIdentity :=
  if privateKey.valid = false then none
  else
    match noiseParsePublicKey peerPublicKeyText with
    | none => none
    | some remoteStatic =>
      some {
        staticPrivate := .of privateKey.bytes
        staticPublic := .of (c.x25519PublicKey privateKey.bytes)
        remoteStatic := remoteStatic
        presharedKey :=
          match presharedKey with
          | some key => if key.valid then .of key.bytes else .clear
          | none => .clear }

/-- `noise_precompute_static_static`. -/
def noisePrecomputeStaticStatic (c : Crypto) (identity : NoiseStaticIdentity) : Option NoiseKey :=
  if identity.staticPrivate.valid = false ∨ identity.remoteStatic.valid = false then none
  else
    match c.x25519 identity.staticPrivate.bytes identity.remoteStatic.bytes with
    | none => none
    | some shared => if shared.isAllZero then none else some (.of shared)

/-! ## The replay window -/

/-- `ReplayWindow`: 128 blocks of 64 bits used as a ring. -/
structure ReplayWindow where
  highestCounter : UInt64
  ring : Fin 128 → BitVec 64
  initialized : Bool

namespace ReplayWindow

/-- `Reset`, and the default value. -/
def reset : ReplayWindow := ⟨0, fun _ => 0, false⟩

def windowSize : Nat := (128 - 1) * 64

/-- `i & BlockMask`. -/
def slot (block : Nat) : Fin 128 := ⟨block % 128, Nat.mod_lt _ (by decide)⟩

/-- The clearing loop: the `diff` blocks after `current`, oldest first. -/
def clearBlocks (ring : Fin 128 → BitVec 64) (current diff : Nat) : Fin 128 → BitVec 64 :=
  (List.range diff).foldl (fun ring k => Function.update ring (slot (current + 1 + k)) 0) ring

/-- `TryAdvance`: whether the counter is fresh, and the window that has seen it. -/
def tryAdvance (window : ReplayWindow) (counter : UInt64) : Bool × ReplayWindow :=
  let indexBlock := counter.toNat >>> 6
  let current := window.highestCounter.toNat >>> 6
  if window.highestCounter < counter then
    let ring := clearBlocks window.ring current (min (indexBlock - current) 128)
    mark { window with ring := ring, highestCounter := counter } counter
  else if window.initialized ∧ windowSize < window.highestCounter.toNat - counter.toNat then
    (false, window)
  else
    mark window counter
where
  /-- The tail of `TryAdvance`: set the counter's bit, fresh when it was clear. -/
  mark (window : ReplayWindow) (counter : UInt64) : Bool × ReplayWindow :=
    let block := slot (counter.toNat >>> 6)
    let oldBlock := window.ring block
    let newBlock := oldBlock ||| ((1#64) <<< (counter.toNat &&& 63))
    (oldBlock != newBlock,
      { window with ring := Function.update window.ring block newBlock, initialized := true })

end ReplayWindow

/-! ## Keypairs -/

inductive KeypairState where
  | empty
  | established
  deriving DecidableEq, Repr

inductive KeypairSendState where
  | ready
  | invalid
  | expired
  | counterExhausted
  deriving DecidableEq, Repr

/-- `noise_keypair`.  `serial` is history: it names the call of `establish` that made the keypair,
travels with it from slot to slot, and is read by no function of the model. -/
structure NoiseKeypair where
  state : KeypairState
  localIndex : UInt32
  remoteIndex : UInt32
  sendCounter : UInt64
  isInitiator : Bool
  birthTime : MonotonicTime
  sendingKey : NoiseKey
  receivingKey : NoiseKey
  receiveReplayWindow : ReplayWindow
  serial : Nat

namespace NoiseKeypair

/-- `Reset`, and the default value. -/
def reset : NoiseKeypair := ⟨.empty, 0, 0, 0, false, 0, .clear, .clear, .reset, 0⟩

/-- `Establish`: a reset keypair unless every argument is usable. -/
def establish (serial : Nat) (localIndex remoteIndex : UInt32) (birthTime : MonotonicTime)
    (sendingKey receivingKey : NoiseKey) (sendCounter : UInt64) (isInitiator : Bool) :
    NoiseKeypair :=
  if localIndex = 0 ∨ remoteIndex = 0 ∨ birthTime < 0 ∨ sendingKey.valid = false ∨
      receivingKey.valid = false then
    reset
  else
    { state := .established, localIndex, remoteIndex, sendCounter, isInitiator, birthTime,
      sendingKey, receivingKey, receiveReplayWindow := .reset, serial }

variable (keypair : NoiseKeypair)

def isValid : Bool :=
  decide (keypair.state = .established) && decide (keypair.localIndex ≠ 0) &&
    decide (keypair.remoteIndex ≠ 0) && keypair.sendingKey.valid && keypair.receivingKey.valid

/-- `AgeAt`; an invalid result is `none`. -/
def ageAt (now : MonotonicTime) : Option MonotonicTime :=
  if keypair.isValid = false ∨ now < keypair.birthTime then none else some (now - keypair.birthTime)

def sendStateAt (now : MonotonicTime) : KeypairSendState :=
  match keypair.ageAt now with
  | none => .invalid
  | some age =>
    if rejectAfterTime ≤ age then .expired
    else if rejectAfterMessages ≤ keypair.sendCounter then .counterExhausted
    else .ready

def canSendAt (now : MonotonicTime) : Bool :=
  decide (keypair.sendStateAt now = .ready)

def canReceiveAt (now : MonotonicTime) : Bool :=
  match keypair.ageAt now with
  | none => false
  | some age => decide (age < rejectAfterTime)

def needsRekeyAt (now : MonotonicTime) : Bool :=
  match keypair.ageAt now with
  | none => false
  | some age =>
    decide (rekeyAfterMessages < keypair.sendCounter) ||
      (keypair.isInitiator && decide (rekeyAfterTime < age))

/-- `ReserveSendCounterAt`: the reserved counter and the keypair past it, or why there is none. -/
def reserveSendCounterAt (now : MonotonicTime) : Except KeypairSendState (UInt64 × NoiseKeypair) :=
  match keypair.sendStateAt now with
  | .ready => .ok (keypair.sendCounter, { keypair with sendCounter := keypair.sendCounter + 1 })
  | state => .error state

end NoiseKeypair

end WireguardNx.Wireguard
