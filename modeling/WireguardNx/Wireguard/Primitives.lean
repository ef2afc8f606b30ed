import WireguardNx.Wireguard.Bytes

/-!
# Protocol constants, cryptographic primitives and the platform

The primitives of `crypto/primitives.hpp` are the fields of `Crypto`.  A field is `Option`-valued
where the source function can return `false`; the BLAKE2s functions cannot for the key and digest
sizes used here, so they are total.  What the development assumes about them is a named predicate
on the record, never a property of a particular cipher.

`Platform` holds what one runtime event reads from outside the program: the monotonic clock at
each place that reads it, the real-time clock, random bytes and the static index counter.
Every call site has its own reading, so nothing relates two readings unless a theorem says so.
-/

namespace WireguardNx.Wireguard

/-! ## Constants -/

/-- Monotonic time points and durations in nanoseconds. -/
abbrev MonotonicTime := Int

/-- `std::chrono::seconds` in nanoseconds. -/
def seconds (n : Int) : MonotonicTime := n * 1000000000

def rekeyAfterMessages : UInt64 := 1152921504606846976

/-- `RejectAfterMessages`, the largest 64-bit value less 2^13. -/
def rejectAfterMessages : UInt64 := 18446744073709543423

def rekeyAfterTime : MonotonicTime := seconds 120

def rejectAfterTime : MonotonicTime := seconds 180

/-- `CookieRefreshTime`; `noise_cookie_is_valid` uses the same bound under another name. -/
def cookieRefreshTime : MonotonicTime := seconds 120

def underLoadAfterTime : MonotonicTime := seconds 1

def handshakeInitiationRate : MonotonicTime := 20000000

/-- `MaxTimerHandshakes`: the attempt time over the retry timeout. -/
def maxTimerHandshakes : UInt32 := 18

def maxInnerIpPacketSize : Nat := 1500

def transportDataHeaderSize : Nat := 16

def noiseTagSize : Nat := 16

/-! ## Primitives -/

/-- The primitives of `crypto/primitives.hpp`.  A hasher that is initialised, updated several
times and finished is one call on the concatenated input. -/
structure Crypto where
  /-- `Blake2sHash`, or a hasher over the whole of `data`; an absent key is the empty list. -/
  blake2sHash : (digestSize : Nat) → (data key : List UInt8) → Bytes digestSize
  /-- `Blake2sHmac`. -/
  blake2sHmac : (key data : List UInt8) → Bytes 32
  /-- `chacha20poly1305_encrypt`: ciphertext of the plaintext's size, and the tag. -/
  chacha20poly1305Encrypt : {n : Nat} → (plaintext : Bytes n) → (aad : List UInt8) →
    (key : Bytes 32) → (nonce : Bytes 12) → Option (Bytes n × Bytes 16)
  /-- `chacha20poly1305_decrypt`. -/
  chacha20poly1305Decrypt : {n : Nat} → (ciphertext : Bytes n) → (tag : Bytes 16) →
    (aad : List UInt8) → (key : Bytes 32) → (nonce : Bytes 12) → Option (Bytes n)
  /-- `xchacha20poly1305_encrypt`. -/
  xchacha20poly1305Encrypt : {n : Nat} → (plaintext : Bytes n) → (aad : List UInt8) →
    (key : Bytes 32) → (nonce : Bytes 24) → Option (Bytes n × Bytes 16)
  /-- `xchacha20poly1305_decrypt`. -/
  xchacha20poly1305Decrypt : {n : Nat} → (ciphertext : Bytes n) → (tag : Bytes 16) →
    (aad : List UInt8) → (key : Bytes 32) → (nonce : Bytes 24) → Option (Bytes n)
  /-- `x25519`, which fails on an all-zero result. -/
  x25519 : (scalar point : Bytes 32) → Option (Bytes 32)
  /-- `x25519_public_key`. -/
  x25519PublicKey : Bytes 32 → Bytes 32

/-- The primitives succeed: encryption returns, and scalar multiplication returns a value that is
not all zero.  Decryption may still reject. -/
structure Crypto.Succeeds (c : Crypto) : Prop where
  encrypt : ∀ {n : Nat} (plaintext : Bytes n) (aad : List UInt8) (key : Bytes 32)
    (nonce : Bytes 12), (c.chacha20poly1305Encrypt plaintext aad key nonce).isSome
  xencrypt : ∀ {n : Nat} (plaintext : Bytes n) (aad : List UInt8) (key : Bytes 32)
    (nonce : Bytes 24), (c.xchacha20poly1305Encrypt plaintext aad key nonce).isSome
  x25519 : ∀ scalar point : Bytes 32, ∃ shared : Bytes 32,
    c.x25519 scalar point = some shared ∧ shared.isAllZero = false

/-- The sum of some bytes, the only thing `Crypto.transparent` mixes. -/
def byteSum (bytes : List UInt8) : UInt8 := bytes.foldl (· + ·) 0

/-- Stand-in primitives for evaluating the model: hashes are byte sums, a public key is the
private one, sealing leaves the plaintext readable under a tag of key and associated data. -/
def Crypto.transparent : Crypto where
  blake2sHash digestSize data key := List.Vector.replicate digestSize (byteSum (key ++ data))
  blake2sHmac key data := List.Vector.replicate 32 (byteSum (key ++ data))
  chacha20poly1305Encrypt plaintext aad key _ :=
    some (plaintext, List.Vector.replicate 16 (byteSum (key.toList ++ aad)))
  chacha20poly1305Decrypt ciphertext tag aad key _ :=
    if tag = List.Vector.replicate 16 (byteSum (key.toList ++ aad)) then some ciphertext else none
  xchacha20poly1305Encrypt plaintext aad key _ :=
    some (plaintext, List.Vector.replicate 16 (byteSum (key.toList ++ aad)))
  xchacha20poly1305Decrypt ciphertext tag aad key _ :=
    if tag = List.Vector.replicate 16 (byteSum (key.toList ++ aad)) then some ciphertext else none
  x25519 scalar point :=
    some (1 ::ᵥ List.Vector.replicate 31 (byteSum scalar.toList + byteSum point.toList))
  x25519PublicKey scalar := scalar

theorem Crypto.transparent_succeeds : Crypto.transparent.Succeeds where
  encrypt _ _ _ _ := rfl
  xencrypt _ _ _ _ := rfl
  x25519 _ _ := ⟨_, rfl, rfl⟩

/-! ## Platform -/

/-- `address_family`. -/
inductive AddressFamily where
  | unspecified
  | inet
  | inet6
  deriving DecidableEq, Repr

structure Endpoint where
  family : AddressFamily
  port : UInt16
  address : Bytes 16
  deriving DecidableEq

/-- A value-initialised endpoint. -/
def Endpoint.empty : Endpoint := ⟨.unspecified, 0, Bytes.zero 16⟩

/-- The places that read the monotonic clock while one event is handled.  Each is reached at most
once per event. -/
inductive ClockSite where
  /-- `RefreshKeyFreshness`. -/
  | refresh
  /-- The send checks of the keepalive timer hooks. -/
  | hook
  /-- `RecoverTransport`. -/
  | recover
  /-- `wg_peer_get_outbound_staging_action` in `ProcessOutboundQueue`. -/
  | stagingAction
  /-- The counter reservation of a packet that carries a staged inner packet. -/
  | createData
  /-- The counter reservation of a keepalive. -/
  | createKeepalive
  /-- `noise_consume_transport_data_packet`. -/
  | receive
  /-- The flood check of `noise_handshake_consume_initiation`. -/
  | consumeInitiation
  /-- The birth time of a new keypair. -/
  | sessionBirth
  /-- `noise_cookie_is_valid`. -/
  | cookieCheck
  /-- The birth time of a received cookie. -/
  | cookieBirth
  deriving DecidableEq, Repr

structure Timespec64 where
  tvSec : Int
  tvNsec : Int
  deriving DecidableEq, Repr

/-- What one event reads from the platform. -/
structure Platform where
  /-- `GetMonotonicTime` at each place that calls it. -/
  clock : ClockSite → MonotonicTime
  /-- `ktime_get_real_ts64`. -/
  realTime : Timespec64
  /-- The random bytes of a fresh ephemeral key. -/
  ephemeral : Bytes 32
  /-- The random bytes of a fresh responder cookie secret. -/
  cookieSecret : Bytes 32
  /-- The random bytes of a cookie reply's nonce. -/
  cookieNonce : Bytes 24
  /-- The static `g_next_index` as the event finds it; other devices move it between events. -/
  nextIndex : UInt32
  /-- The random seed of `g_next_index`, used when it is still zero. -/
  indexSeed : UInt32
  /-- History only: a name for the keypair this event may establish.  No code reads it. -/
  serial : Nat

/-- A platform on which every clock reads `now` and every random byte is `entropy`. -/
def Platform.constant (now : MonotonicTime) (entropy : UInt8) : Platform where
  clock _ := now
  realTime := ⟨now / 1000000000, now % 1000000000⟩
  ephemeral := List.Vector.replicate 32 entropy
  cookieSecret := List.Vector.replicate 32 entropy
  cookieNonce := List.Vector.replicate 24 entropy
  nextIndex := 1
  indexSeed := 1
  serial := 0

end WireguardNx.Wireguard
