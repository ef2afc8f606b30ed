import WireguardNx.Runtime.Outbound
import Mathlib.Data.List.Sort

/-!
# The routing policy of the tunnel

Tunnel clients open flows only to addresses that the selected peer's `allowed_ips` cover.  The policy
is parsed from the peer's configuration texts each time it is refreshed: the address of the
interface is the source of every flow, and the routes are masked and sorted, longest first.  A text
is the list of its characters, without the terminating zero.
-/

namespace WireguardNx.Tunnel

open Wireguard WireguardNx.Runtime

/-! ## Protocol values -/

inductive ProtocolStatus where
  | success
  | malformedInput
  | unsupportedOperation
  | incompatibleApiVersion
  | routeNotCovered
  | peerUnavailable
  | transportUnavailable
  | flowQuotaExhausted
  | datagramTooLarge
  | queueFull
  | staleHandle
  | flowClosed
  | queueEmpty
  | outputBufferTooSmall
  | reverseTupleExhausted
  | tunnelBlockedByPolicy
  deriving DecidableEq, Repr

/-- An address of four bytes. -/
abbrev Ipv4Address := Bytes 4

structure Ipv4Endpoint where
  address : Ipv4Address
  port : UInt16
  reserved : UInt16
  deriving DecidableEq

/-- A value-initialised endpoint. -/
def Ipv4Endpoint.zero : Ipv4Endpoint := ⟨Bytes.zero 4, 0, 0⟩

def endpointEqual (lhs rhs : Ipv4Endpoint) : Bool :=
  decide (lhs.port = rhs.port) && decide (lhs.address = rhs.address)

def isZeroEndpoint (endpoint : Ipv4Endpoint) : Bool :=
  decide (endpoint.port = 0) && endpoint.address.isAllZero

def maximumPolicyRoutes : Nat := 16

def minimumEffectiveInnerMtu : UInt16 := 576

def maximumEffectiveInnerMtu : UInt16 := 1500

def isValidEffectiveInnerMtu (mtu : UInt16) : Bool :=
  decide (minimumEffectiveInnerMtu ≤ mtu) && decide (mtu ≤ maximumEffectiveInnerMtu)

/-! ## Parsing -/

/-- The rest of a number whose digits so far make `value`; `none` as soon as it exceeds the limit. -/
def parseNumberRest (limit : Nat) (value : Nat) : List Char → Option (Nat × List Char)
  | [] => some (value, [])
  | digit :: rest =>
    if digit.isDigit then
      let value := value * 10 + (digit.toNat - '0'.toNat)
      if limit < value then none else parseNumberRest limit value rest
    else some (value, digit :: rest)

/-- A number of at least one digit. -/
def parseNumber (limit : Nat) (text : List Char) : Option (Nat × List Char) :=
  match text with
  | [] => none
  | digit :: rest => if digit.isDigit then parseNumberRest limit 0 (digit :: rest) else none

/-- What follows an expected character. -/
def parseChar (expected : Char) : List Char → Option (List Char)
  | [] => none
  | char :: rest => if char = expected then some rest else none

/-- `ParseIpv4Cidr`, with the address and the prefix length. -/
def parseIpv4Cidr (text : List Char) : Option (Ipv4Address × Nat) := do
  let (first, text) ← parseNumber 255 text
  let (second, text) ← parseNumber 255 (← parseChar '.' text)
  let (third, text) ← parseNumber 255 (← parseChar '.' text)
  let (fourth, text) ← parseNumber 255 (← parseChar '.' text)
  let (length, text) ← parseNumber 32 (← parseChar '/' text)
  if text.dropWhile (fun char => char = ' ' || char = '\t') = [] then
    some (⟨[first, second, third, fourth].map UInt8.ofNat, rfl⟩, length)
  else none

/-- The mask of one byte of an address. -/
def byteMask (prefixLength byte : Nat) : UInt8 :=
  if byte * 8 + 8 ≤ prefixLength then 0xFF
  else if prefixLength ≤ byte * 8 then 0
  else (0xFF : UInt8) <<< UInt8.ofNat (8 - (prefixLength - byte * 8))

/-- An address with its host bits cleared. -/
def maskAddress (prefixLength : Nat) (address : Ipv4Address) : Ipv4Address :=
  List.Vector.ofFn fun byte => address.get byte &&& byteMask prefixLength byte

structure NormalizedRoute where
  network : Ipv4Address
  prefixLength : Nat
  routeIdentifier : Nat
  deriving DecidableEq

/-- The loop of `ParseAndNormalizePolicy` over the text of the allowed addresses: whether it came to
its end, and the routes written so far.  Every round takes at least one character, so that the length
of the text bounds the rounds. -/
def parseRoutes : Nat → List Char → List NormalizedRoute → Bool × List NormalizedRoute
  | 0, text, routes => (decide (text = []), routes)
  | rounds + 1, text, routes =>
    if text = [] then (true, routes)
    else
      let start := text.dropWhile fun char => char = ' ' || char = '\t' || char = ','
      let item := start.takeWhile (· ≠ ',')
      if item.length = 0 ∨ 32 ≤ item.length ∨ maximumPolicyRoutes ≤ routes.length then
        (false, routes)
      else
        match parseIpv4Cidr item with
        | none => (false, routes)
        | some (address, prefixLength) =>
          parseRoutes rounds (start.dropWhile (· ≠ ',')) (routes ++
            [⟨maskAddress prefixLength address, prefixLength, routes.length + 1⟩])

/-- The order in which routes are kept: longer prefixes first, then by network and identifier. -/
def NormalizedRoute.le (lhs rhs : NormalizedRoute) : Prop :=
  if lhs.prefixLength ≠ rhs.prefixLength then rhs.prefixLength < lhs.prefixLength
  else if lhs.network ≠ rhs.network then
    lexicographicalCompare lhs.network.toList rhs.network.toList = true
  else lhs.routeIdentifier ≤ rhs.routeIdentifier

instance (lhs rhs : NormalizedRoute) : Decidable (lhs.le rhs) := by
  unfold NormalizedRoute.le
  infer_instance

def routeMatches (route : NormalizedRoute) (address : Ipv4Address) : Bool :=
  decide (maskAddress route.prefixLength route.network = maskAddress route.prefixLength address)

/-! ## The policy -/

/-- The fields of `PeerConfigEntry` that the policy reads. -/
structure PolicyConfiguration where
  address : List Char
  allowedIps : List Char
  mtu : UInt16
  leakProtection : Bool
  deriving DecidableEq

structure TunnelPolicyInput where
  configuration : Option PolicyConfiguration
  peer : PeerIdentity
  selected : Bool
  deriving DecidableEq

/-- A value-initialised input, which selects no peer. -/
def TunnelPolicyInput.none : TunnelPolicyInput := ⟨Option.none, ⟨0, 0⟩, false⟩

/-- The policy of a `TunnelFlowPlane`.  `routes` are the entries written to `m_routes`, of which the
first `routeCount` are in use: a text that fails to parse leaves its routes behind unused. -/
structure RoutingPolicy where
  routes : List NormalizedRoute
  routeCount : Nat
  tunnelSource : Ipv4Address
  peer : PeerIdentity
  effectiveInnerMtu : UInt16
  available : Bool
  leakProtection : Bool
  deriving DecidableEq

namespace RoutingPolicy

/-- The policy of a plane that was never refreshed. -/
def initial : RoutingPolicy :=
  ⟨[], 0, Bytes.zero 4, ⟨0, 0⟩, defaultEffectiveInnerMtu, false, false⟩

/-- What `RefreshPolicy` leaves when there is no policy, with the routes read before that. -/
def unavailable (routes : List NormalizedRoute) : RoutingPolicy :=
  { initial with routes }

/-- `ParseAndNormalizePolicy` and the reset that `RefreshPolicy` makes when it fails. -/
def refreshed (input : TunnelPolicyInput) : RoutingPolicy :=
  match input.configuration with
  | none => unavailable []
  | some configuration =>
    let effectiveInnerMtu := resolveEffectiveInnerMtu configuration.mtu
    if input.selected = false ∨ input.peer.activationGeneration = 0 then unavailable []
    else if isValidEffectiveInnerMtu effectiveInnerMtu = false then unavailable []
    else
      match parseIpv4Cidr configuration.address with
      | none => unavailable []
      | some (source, _) =>
        let (complete, routes) :=
          parseRoutes configuration.allowedIps.length configuration.allowedIps []
        if complete = false ∨ routes = [] then unavailable routes
        else
          { routes := routes.insertionSort NormalizedRoute.le
            routeCount := routes.length
            tunnelSource := source
            peer := input.peer
            effectiveInnerMtu
            available := true
            leakProtection := configuration.leakProtection }

def selectRoute (policy : RoutingPolicy) (remote : Ipv4Endpoint) : Option NormalizedRoute :=
  if policy.available = false then none
  else (policy.routes.take policy.routeCount).find? (routeMatches · remote.address)

end RoutingPolicy

example : parseIpv4Cidr "10.0.0.5/24 ".toList = some (⟨[10, 0, 0, 5], rfl⟩, 24) := by decide +kernel

end WireguardNx.Tunnel
