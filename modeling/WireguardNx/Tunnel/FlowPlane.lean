import WireguardNx.Tunnel.Policy

/-!
# Tunnel clients, their flows and their completions

`TunnelFlowPlane` serves up to four clients.  A client opens connected UDP flows, of which each has a
virtual source port of its own, and reads what happens to them from a bounded completion queue.
Inbound datagrams wait in sixteen slabs shared by all clients, and the reverse tuple of a flow that
was closed is quarantined in one of sixteen tombstones.

A slot table is a function on its indices.  A completion queue is the list of its entries, front
first, in place of a ring with a head and a count.  The counters of a flow that are only logged are
left out; the notifier of a client is whether it has one, and `notified` counts its calls.
-/

namespace WireguardNx.Tunnel

open Wireguard WireguardNx.Runtime

/-! ## Limits -/

abbrev maximumClientContexts : Nat := 4

def maximumFlowsPerClient : Nat := 4

abbrev maximumFlows : Nat := 16

abbrev inboundPacketSlabCount : Nat := 16

def maximumInboundDatagramsPerFlow : Nat := 4

def completionQueueCapacity : Nat := 16

/-- `DataCompletionCapacity`: what is left when each flow a client may own and the policy have their
control completions. -/
def dataCompletionCapacity : Nat := completionQueueCapacity - (1 + 2 * maximumFlowsPerClient)

abbrev reverseTupleQuarantineCapacity : Nat := maximumFlows

def maximumUdpPayloadStorageBytes : Nat := 1500 - 20 - 8

def reverseTupleQuarantineNs : Ktime := seconds 60

/-- The first of the virtual source ports. -/
def firstVirtualSourcePort : UInt16 := 49152

/-! ## Records -/

inductive FlowState where
  | opened
  | suspended
  | closing
  | closed
  deriving DecidableEq, Repr

inductive FlowTerminalReason where
  | none
  | clientClosed
  | peerDeactivated
  | peerActivationChanged
  | policyInvalidated
  | sysmoduleShutdown
  deriving DecidableEq, Repr

inductive CompletionType where
  | inboundDatagram
  | flowStateChanged
  | policyChanged
  | writable
  deriving DecidableEq, Repr

abbrev FlowHandle := UInt64

structure TunnelClientId where
  slot : UInt8
  generation : UInt32
  deriving DecidableEq, Repr

structure CompletionRecord where
  type : CompletionType
  status : ProtocolStatus
  flow : FlowHandle
  remote : Ipv4Endpoint
  payloadOffset : Nat
  payloadSize : Nat
  peerActivationGeneration : UInt32
  routingPolicyGeneration : UInt32
  flowState : FlowState
  terminalReason : FlowTerminalReason
  deriving DecidableEq

/-- A value-initialised record. -/
def CompletionRecord.zero : CompletionRecord :=
  ⟨.inboundDatagram, .success, 0, .zero, 0, 0, 0, 0, .opened, .none⟩

/-- `CompletionEntry`; a control completion has no slab. -/
structure CompletionEntry where
  record : CompletionRecord
  inboundSlabSlot : Option (Fin inboundPacketSlabCount)
  deriving DecidableEq

/-- `InboundSlab`; its size is the length of its bytes. -/
structure InboundSlab where
  bytes : List UInt8
  allocated : Bool
  deriving DecidableEq

/-- `FlowSlot`, without the counters that are only logged. -/
structure FlowSlot where
  allocated : Bool
  closed : Bool
  pending : Bool
  clientSlot : UInt8
  clientGeneration : UInt32
  allocationGeneration : UInt32
  peer : PeerIdentity
  policyGeneration : UInt32
  remote : Ipv4Endpoint
  tunnelSource : Ipv4Address
  virtualSourcePort : UInt16
  inboundOccupancy : Nat
  createdAt : Ktime
  lastActivityAt : Ktime
  diagnosticTag : UInt64
  terminalReason : FlowTerminalReason
  writableWaiter : Bool
  deriving DecidableEq

/-- A value-initialised flow slot. -/
def FlowSlot.empty : FlowSlot :=
  ⟨false, false, false, 0xFF, 0, 0, ⟨0, 0⟩, 0, .zero, Bytes.zero 4, 0, 0, 0, 0, 0, .none, false⟩

/-- The client a flow belongs to. -/
def FlowSlot.client (flow : FlowSlot) : TunnelClientId := ⟨flow.clientSlot, flow.clientGeneration⟩

structure ClientSlot where
  allocated : Bool
  generation : UInt32
  notifier : Bool
  notified : Nat
  completions : List CompletionEntry
  dataCompletionCount : Nat
  deriving DecidableEq

/-- A value-initialised client slot. -/
def ClientSlot.empty : ClientSlot := ⟨false, 0, false, 0, [], 0⟩

structure ReverseTupleTombstone where
  occupied : Bool
  tunnelDestination : Ipv4Address
  tunnelDestinationPort : UInt16
  remote : Ipv4Endpoint
  expiresAt : Ktime
  deriving DecidableEq

/-- A value-initialised tombstone. -/
def ReverseTupleTombstone.empty : ReverseTupleTombstone := ⟨false, Bytes.zero 4, 0, .zero, 0⟩

structure TunnelFlowPlane where
  clients : Fin maximumClientContexts → ClientSlot
  flows : Fin maximumFlows → FlowSlot
  inboundSlabs : Fin inboundPacketSlabCount → InboundSlab
  tombstones : Fin reverseTupleQuarantineCapacity → ReverseTupleTombstone
  policy : RoutingPolicy
  policyGeneration : UInt32
  nextPolicyGeneration : UInt32
  nextClientGeneration : UInt32
  nextFlowGeneration : UInt32
  nextVirtualSourcePort : UInt16

/-! ## Generations and handles -/

/-- `AllocateNonZero`: the value and the counter after it. -/
def allocateNonZero (next : UInt32) : UInt32 × UInt32 :=
  if next = 0 then (1, 2) else (next, followingGeneration next)

/-- The bits of an allocation generation that a handle carries. -/
def generationMask : UInt32 := 0x00FFFFFF

/-- The counter after a flow generation; it skips the values a handle would show as zero. -/
def followingFlowGeneration (next : UInt32) : UInt32 :=
  if (next + 1) &&& generationMask = 0 then next + 2 else next + 1

/-- `AllocateFlowGeneration`: the value and the counter after it. -/
def allocateFlowGeneration (next : UInt32) : UInt32 × UInt32 :=
  if next &&& generationMask = 0 then
    (followingFlowGeneration next &&& generationMask,
      followingFlowGeneration (followingFlowGeneration next))
  else (next &&& generationMask, followingFlowGeneration next)

def makeFlowHandle (flowSlot : Fin maximumFlows) (flow : FlowSlot) : FlowHandle :=
  let low := (flow.clientSlot.toUInt64 <<< 4) ||| UInt64.ofNat flowSlot
  let middle := (flow.allocationGeneration &&& generationMask).toUInt64 <<< 8
  let high := flow.clientGeneration.toUInt64 <<< 32
  high ||| middle ||| low

/-- What a handle decodes to. -/
structure DecodedFlowHandle where
  slot : Fin maximumFlows
  generation : UInt32
  client : TunnelClientId
  deriving DecidableEq

/-- `DecodeFlowHandle`.  Four bits name any slot and two bits any client, so that the bounds it
checks always hold. -/
def decodeFlowHandle (handle : FlowHandle) : Option DecodedFlowHandle :=
  let generation := ((handle >>> 8) &&& 0x00FFFFFF).toUInt32
  let clientGeneration := (handle >>> 32).toUInt32
  if handle = 0 ∨ generation = 0 ∨ clientGeneration = 0 then none
  else some ⟨Fin.ofNat maximumFlows (handle &&& 0x0F).toNat, generation,
    ((handle >>> 4) &&& 0x03).toUInt8, clientGeneration⟩

namespace TunnelFlowPlane

/-- A value-initialised plane. -/
def initial : TunnelFlowPlane where
  clients _ := .empty
  flows _ := .empty
  inboundSlabs _ := ⟨[], false⟩
  tombstones _ := .empty
  policy := .initial
  policyGeneration := 1
  nextPolicyGeneration := 2
  nextClientGeneration := 1
  nextFlowGeneration := 1
  nextVirtualSourcePort := firstVirtualSourcePort

/-! ## Slots -/

variable (plane : TunnelFlowPlane) (client : TunnelClientId) (i : Fin maximumFlows)
  (flow : FlowSlot) (now : Ktime)

/-- A plane with one flow slot changed. -/
def setFlow : TunnelFlowPlane :=
  { plane with flows := Function.update plane.flows i flow }

/-- A plane with one client slot changed. -/
def setClient (j : Fin maximumClientContexts) (client : ClientSlot) : TunnelFlowPlane :=
  { plane with clients := Function.update plane.clients j client }

/-- A plane with one slab changed. -/
def setSlab (k : Fin inboundPacketSlabCount) (slab : InboundSlab) : TunnelFlowPlane :=
  { plane with inboundSlabs := Function.update plane.inboundSlabs k slab }

def findClient : Option (Fin maximumClientContexts) :=
  if h : client.slot.toNat < maximumClientContexts then
    if client.generation ≠ 0 ∧ (plane.clients ⟨_, h⟩).allocated = true ∧
        (plane.clients ⟨_, h⟩).generation = client.generation then
      some ⟨_, h⟩
    else none
  else none

def findFlow (handle : FlowHandle) : Option (Fin maximumFlows) :=
  match plane.findClient client, decodeFlowHandle handle with
  | some _, some decoded =>
    if decoded.client = client ∧ (plane.flows decoded.slot).allocated = true ∧
        (plane.flows decoded.slot).allocationGeneration = decoded.generation ∧
        (plane.flows decoded.slot).client = client then
      some decoded.slot
    else none
  | _, _ => none

/-- Whether a slot holds a flow that has not been closed. -/
def isLive : Bool := flow.allocated && !flow.closed

/-- Whether a slot holds a flow that is committed and has not been closed. -/
def isOpen : Bool := flow.allocated && !flow.closed && !flow.pending

/-! ## Slabs -/

def allocateInboundSlab : Option (Fin inboundPacketSlabCount) × TunnelFlowPlane :=
  match (List.finRange inboundPacketSlabCount).find? fun k => !(plane.inboundSlabs k).allocated with
  | none => (none, plane)
  | some k => (some k, plane.setSlab k { plane.inboundSlabs k with allocated := true })

def releaseInboundSlab (slot : Option (Fin inboundPacketSlabCount)) : TunnelFlowPlane :=
  match slot with
  | none => plane
  | some k => plane.setSlab k ⟨[], false⟩

/-! ## Completions -/

/-- A client after `NotifyIfNeeded`. -/
def notifyIfNeeded (client : ClientSlot) (wasEmpty : Bool) : ClientSlot :=
  if wasEmpty && client.notifier then { client with notified := client.notified + 1 } else client

/-- A client with an entry at the end of its queue. -/
def append (client : ClientSlot) (entry : CompletionEntry) : ClientSlot :=
  notifyIfNeeded { client with completions := client.completions ++ [entry] }
    (decide (client.completions = []))

/-- The queue with a control completion put in the place of one of the same kind for the same flow,
if there is one. -/
def coalesce (completion : CompletionRecord) : List CompletionEntry → Option (List CompletionEntry)
  | [] => none
  | entry :: rest =>
    if entry.inboundSlabSlot = none ∧ entry.record.type = completion.type ∧
        entry.record.flow = completion.flow then
      some ({ entry with record := completion } :: rest)
    else (coalesce completion rest).map (entry :: ·)

def enqueueControlCompletion (completion : CompletionRecord) : TunnelFlowPlane :=
  match plane.findClient client with
  | none => plane
  | some j =>
    match coalesce completion (plane.clients j).completions with
    | some completions => plane.setClient j { plane.clients j with completions }
    | none =>
      if completionQueueCapacity ≤ (plane.clients j).completions.length then plane
      else plane.setClient j (append (plane.clients j) ⟨completion, none⟩)

/-- The completion `EnqueuePolicyChanged` sends. -/
def policyCompletion : CompletionRecord :=
  { CompletionRecord.zero with
    type := .policyChanged
    routingPolicyGeneration := plane.policyGeneration }

def enqueuePolicyChanged : TunnelFlowPlane :=
  (List.finRange maximumClientContexts).foldl (fun plane j =>
    if (plane.clients j).allocated = false then plane
    else plane.enqueueControlCompletion ⟨UInt8.ofNat j, (plane.clients j).generation⟩
      plane.policyCompletion) plane

/-- The completion of an inbound datagram. -/
def dataCompletion (k : Fin inboundPacketSlabCount) : CompletionRecord :=
  { CompletionRecord.zero with
    flow := makeFlowHandle i (plane.flows i)
    remote := (plane.flows i).remote
    payloadSize := (plane.inboundSlabs k).bytes.length
    peerActivationGeneration := (plane.flows i).peer.activationGeneration
    routingPolicyGeneration := (plane.flows i).policyGeneration }

def enqueueDataCompletion (k : Fin inboundPacketSlabCount) : Bool × TunnelFlowPlane :=
  let flow := plane.flows i
  let dropped := (plane.releaseInboundSlab (some k)).setFlow i
    { flow with inboundOccupancy := flow.inboundOccupancy - 1 }
  match plane.findClient flow.client with
  | none => (false, dropped)
  | some j =>
    let client := plane.clients j
    if dataCompletionCapacity ≤ client.dataCompletionCount ∨
        completionQueueCapacity ≤ client.completions.length then
      (false, dropped)
    else
      (true, plane.setClient j (append { client with
        dataCompletionCount := client.dataCompletionCount + 1 }
        ⟨plane.dataCompletion i k, some k⟩))

/-- `RemoveFlowCompletions`: the data completions of a flow go, with their slabs. -/
def removeFlowCompletions (j : Fin maximumClientContexts) : TunnelFlowPlane :=
  let handle := makeFlowHandle i (plane.flows i)
  let isRemoved (entry : CompletionEntry) : Bool :=
    decide (entry.record.flow = handle) && entry.inboundSlabSlot.isSome
  let completions := (plane.clients j).completions
  let retained := completions.filter (!isRemoved ·)
  let plane := (completions.filter isRemoved).foldl
    (fun plane entry => plane.releaseInboundSlab entry.inboundSlabSlot) plane
  plane.setClient j { plane.clients j with
    completions := retained
    dataCompletionCount := retained.countP (·.inboundSlabSlot.isSome) }

/-! ## Reverse tuples -/

def clearExpiredTombstones : TunnelFlowPlane :=
  { plane with
    tombstones := fun k =>
      if (plane.tombstones k).occupied = true ∧ (plane.tombstones k).expiresAt ≤ now then .empty
      else plane.tombstones k }

/-- The number of free tombstones. -/
def freeTombstones : Nat :=
  (List.finRange reverseTupleQuarantineCapacity).countP fun k => !(plane.tombstones k).occupied

/-- The number of flows that have not been closed. -/
def liveFlows : Nat :=
  (List.finRange maximumFlows).countP fun i => isLive (plane.flows i)

/-- `HasTombstoneReservation`, on a plane whose expired tombstones are cleared. -/
def hasTombstoneReservation : Bool :=
  decide (plane.liveFlows < plane.freeTombstones)

def isTombstoned (destination : Ipv4Address) (port : UInt16) (remote : Ipv4Endpoint) (now : Ktime) :
    Bool :=
  (List.finRange reverseTupleQuarantineCapacity).any fun k =>
    (plane.tombstones k).occupied && decide (now < (plane.tombstones k).expiresAt) &&
      decide ((plane.tombstones k).tunnelDestination = destination) &&
      decide ((plane.tombstones k).tunnelDestinationPort = port) &&
      endpointEqual (plane.tombstones k).remote remote

/-- Whether a flow that has not been closed uses a port for a remote endpoint. -/
def isPortInUse (port : UInt16) (remote : Ipv4Endpoint) : Bool :=
  (List.finRange maximumFlows).any fun i =>
    isLive (plane.flows i) && decide ((plane.flows i).virtualSourcePort = port) &&
      decide ((plane.flows i).tunnelSource = plane.policy.tunnelSource) &&
      endpointEqual (plane.flows i).remote remote

/-- The virtual source port after another. -/
def followingPort (port : UInt16) : UInt16 :=
  if port + 1 < firstVirtualSourcePort then firstVirtualSourcePort else port + 1

/-- The search of `AllocateVirtualTuple` from a port on, with the port after the last one tried. -/
def searchPort (plane : TunnelFlowPlane) (remote : Ipv4Endpoint) (now : Ktime) :
    Nat → UInt16 → Option UInt16 × UInt16
  | 0, next => (none, next)
  | tries + 1, next =>
    if plane.isPortInUse next remote = false ∧
        plane.isTombstoned plane.policy.tunnelSource next remote now = false then
      (some next, followingPort next)
    else plane.searchPort remote now tries (followingPort next)

def allocateVirtualTuple (remote : Ipv4Endpoint) (now : Ktime) : Option UInt16 × TunnelFlowPlane :=
  let plane := plane.clearExpiredTombstones now
  let (port, next) := plane.searchPort remote now 16384 plane.nextVirtualSourcePort
  (port, { plane with nextVirtualSourcePort := next })

def quarantineTuple : TunnelFlowPlane :=
  if flow.virtualSourcePort = 0 then plane
  else
    let plane := plane.clearExpiredTombstones now
    match (List.finRange reverseTupleQuarantineCapacity).find? fun k =>
        !(plane.tombstones k).occupied with
    | none => plane
    | some k => { plane with
        tombstones := Function.update plane.tombstones k ⟨true, flow.tunnelSource,
          flow.virtualSourcePort, flow.remote, now + reverseTupleQuarantineNs⟩ }

/-! ## Closing flows -/

/-- The completion of a flow that is closed. -/
def closeCompletion : CompletionRecord :=
  { CompletionRecord.zero with
    type := .flowStateChanged
    status := .flowClosed
    flow := makeFlowHandle i flow
    peerActivationGeneration := flow.peer.activationGeneration
    routingPolicyGeneration := flow.policyGeneration
    flowState := .closed
    terminalReason := flow.terminalReason }

/-- A flow once it is closed. -/
def terminated (reason : FlowTerminalReason) (now : Ktime) : FlowSlot :=
  { flow with
    closed := true
    terminalReason := reason
    inboundOccupancy := 0
    lastActivityAt := now }

/-- `CloseFlowSlot`; a reservation that was never committed just goes. -/
def closeFlowSlot (reason : FlowTerminalReason) (now : Ktime) (notify : Bool) : TunnelFlowPlane :=
  let flow := plane.flows i
  if flow.allocated = false ∨ flow.closed = true then plane
  else if flow.pending then plane.setFlow i .empty
  else
    let plane :=
      match plane.findClient flow.client with
      | none => plane
      | some j => plane.removeFlowCompletions i j
    let plane := (plane.quarantineTuple flow now).setFlow i (terminated flow reason now)
    if notify then
      plane.enqueueControlCompletion flow.client (closeCompletion i (terminated flow reason now))
    else plane

/-! ## Clients -/

/-- `CreateClient`; the identity of no client when there is no slot for one. -/
def createClient (notifier : Bool) : TunnelClientId × TunnelFlowPlane :=
  match (List.finRange maximumClientContexts).find? fun j => !(plane.clients j).allocated with
  | none => (⟨0xFF, 0⟩, plane)
  | some j =>
    let (generation, nextClientGeneration) := allocateNonZero plane.nextClientGeneration
    (⟨UInt8.ofNat j, generation⟩, { plane with nextClientGeneration }.setClient j
      { ClientSlot.empty with allocated := true, generation, notifier })

def destroyClient : TunnelFlowPlane :=
  match plane.findClient client with
  | none => plane
  | some j =>
    let plane := (List.finRange maximumFlows).foldl (fun plane i =>
      if (plane.flows i).allocated = true ∧ (plane.flows i).client = client then
        plane.closeFlowSlot i .clientClosed now false
      else plane) plane
    let plane := (plane.clients j).completions.foldl
      (fun plane entry => plane.releaseInboundSlab entry.inboundSlabSlot) plane
    plane.setClient j .empty

/-! ## The policy -/

def refreshPolicy (input : TunnelPolicyInput) (now : Ktime) : TunnelFlowPlane :=
  let policy := RoutingPolicy.refreshed input
  if policy = plane.policy then plane
  else
    let (policyGeneration, nextPolicyGeneration) := allocateNonZero plane.nextPolicyGeneration
    let plane := (List.finRange maximumFlows).foldl (fun plane i =>
      let flow := plane.flows i
      if isLive flow = false then plane
      else if policy.available = false ∨ flow.peer ≠ policy.peer ∨
          policy.selectRoute flow.remote = none then
        plane.closeFlowSlot i .policyInvalidated now true
      else plane.setFlow i { flow with policyGeneration })
      { plane with policy, policyGeneration, nextPolicyGeneration }
    plane.enqueuePolicyChanged

/-! ## Opening flows -/

/-- `OpenConnectedUdpFlowRequest`. -/
structure OpenRequest where
  remote : Ipv4Endpoint
  diagnosticTag : UInt64
  deriving DecidableEq

/-- `TunnelTransportAvailability`. -/
structure TransportAvailability where
  protocolAvailable : Bool
  stagingAvailable : Bool
  deriving DecidableEq

/-- `OpenConnectedUdpFlowResult`. -/
structure OpenResult where
  status : ProtocolStatus
  flow : FlowHandle
  peerActivationGeneration : UInt32
  routingPolicyGeneration : UInt32
  deriving DecidableEq

/-- `TunnelFlowReservation`. -/
structure FlowReservation where
  result : OpenResult
  localEndpoint : Ipv4Endpoint
  remote : Ipv4Endpoint
  client : TunnelClientId
  peer : PeerIdentity
  adapterToken : UInt64
  deriving DecidableEq

def FlowReservation.isReserved (reservation : FlowReservation) : Bool :=
  decide (reservation.result.status = .success) && decide (reservation.adapterToken ≠ 0)

/-- A reservation that was refused. -/
def refused (status : ProtocolStatus) : FlowReservation :=
  ⟨⟨status, 0, 0, plane.policyGeneration⟩, .zero, .zero, ⟨0xFF, 0⟩, ⟨0, 0⟩, 0⟩

/-- The flows of a client that have not been closed. -/
def ownedFlows : Nat :=
  (List.finRange maximumFlows).countP fun i =>
    isLive (plane.flows i) && decide ((plane.flows i).client = client)

/-- The flow a reservation writes. -/
def reservedFlow (request : OpenRequest) (now : Ktime) (port : UInt16) : FlowSlot :=
  { FlowSlot.empty with
    allocated := true
    pending := true
    clientSlot := client.slot
    clientGeneration := client.generation
    allocationGeneration := (allocateFlowGeneration plane.nextFlowGeneration).1
    peer := plane.policy.peer
    policyGeneration := plane.policyGeneration
    remote := request.remote
    tunnelSource := plane.policy.tunnelSource
    virtualSourcePort := port
    createdAt := now
    lastActivityAt := now
    diagnosticTag := request.diagnosticTag }

/-- The end of `ReserveConnectedUdpFlow`, with the slot and the port it found. -/
def writeReservation (request : OpenRequest) (now : Ktime) (i : Fin maximumFlows) (port : UInt16) :
    FlowReservation × TunnelFlowPlane :=
  let flow := plane.reservedFlow client request now port
  let handle := makeFlowHandle i flow
  (⟨⟨.success, handle, flow.peer.activationGeneration, plane.policyGeneration⟩,
      ⟨flow.tunnelSource, flow.virtualSourcePort, 0⟩, flow.remote, client, flow.peer, handle⟩,
    { plane with
      nextFlowGeneration := (allocateFlowGeneration plane.nextFlowGeneration).2 }.setFlow i flow)

def reserveConnectedUdpFlow (request : OpenRequest) (now : Ktime)
    (availability : TransportAvailability) : FlowReservation × TunnelFlowPlane :=
  if plane.findClient client = none ∨ request.remote.reserved ≠ 0 ∨ request.remote.port = 0 ∨
      isZeroEndpoint request.remote = true then
    (plane.refused .malformedInput, plane)
  else if plane.policy.available = false ∨ plane.policy.peer.activationGeneration = 0 then
    (plane.refused .peerUnavailable, plane)
  else if plane.policy.selectRoute request.remote = none then
    (plane.refused .routeNotCovered, plane)
  else if availability.protocolAvailable = false then
    (plane.refused (if plane.policy.leakProtection then .tunnelBlockedByPolicy
      else .transportUnavailable), plane)
  else if maximumFlowsPerClient ≤ plane.ownedFlows client then
    (plane.refused .flowQuotaExhausted, plane)
  else
    match (List.finRange maximumFlows).find? fun i => !isLive (plane.flows i) with
    | none => (plane.refused .flowQuotaExhausted, plane)
    | some i =>
      let cleared := plane.clearExpiredTombstones now
      if cleared.hasTombstoneReservation = false then
        (plane.refused .reverseTupleExhausted, cleared)
      else
        match cleared.allocateVirtualTuple request.remote now with
        | (none, plane) => (plane.refused .reverseTupleExhausted, plane)
        | (some port, plane) => plane.writeReservation client request now i port

def commitFlowReservation (reservation : FlowReservation) : Bool × TunnelFlowPlane :=
  if reservation.isReserved = false then (false, plane)
  else
    match plane.findFlow reservation.client reservation.result.flow with
    | none => (false, plane)
    | some i =>
      let flow := plane.flows i
      if flow.pending = false ∨ flow.closed = true ∨ flow.peer ≠ reservation.peer ∨
          endpointEqual flow.remote reservation.remote = false ∨
          plane.policy.peer ≠ reservation.peer ∨
          plane.policyGeneration ≠ reservation.result.routingPolicyGeneration then
        (false, plane)
      else (true, plane.setFlow i { flow with pending := false })

def cancelFlowReservation (reservation : FlowReservation) : TunnelFlowPlane :=
  if reservation.isReserved = false then plane
  else
    match plane.findFlow reservation.client reservation.result.flow with
    | none => plane
    | some i => if (plane.flows i).pending then plane.setFlow i .empty else plane

def openConnectedUdpFlow (request : OpenRequest) (now : Ktime)
    (availability : TransportAvailability) : OpenResult × TunnelFlowPlane :=
  let (reservation, plane) := plane.reserveConnectedUdpFlow client request now availability
  if reservation.isReserved = false then (reservation.result, plane)
  else
    match plane.commitFlowReservation reservation with
    | (true, plane) => (reservation.result, plane)
    | (false, plane) =>
      ({ reservation.result with status := .peerUnavailable, flow := 0 },
        plane.cancelFlowReservation reservation)

def getFlowAdapterToken (handle : FlowHandle) : Option UInt64 :=
  match plane.findFlow client handle with
  | none => none
  | some i => if isOpen (plane.flows i) then some handle else none

/-- `CopyClientAdapterTokens`; the daemon's buffer has room for every flow a client may own. -/
def copyClientAdapterTokens : List UInt64 :=
  if plane.findClient client = none then []
  else ((List.finRange maximumFlows).filter fun i =>
    isOpen (plane.flows i) && decide ((plane.flows i).client = client)).map fun i =>
      makeFlowHandle i (plane.flows i)

/-! ## Sending -/

/-- `PreparedTunnelDatagram`. -/
structure PreparedDatagram where
  status : ProtocolStatus
  peer : PeerIdentity
  flow : FlowHandle
  adapterToken : UInt64
  deriving DecidableEq

def PreparedDatagram.isPrepared (datagram : PreparedDatagram) : Bool :=
  decide (datagram.status = .success) && decide (datagram.adapterToken ≠ 0)

/-- `PrepareSend`, with the size that the descriptor gives for the payload. -/
def prepareSend (handle : FlowHandle) (payloadSize : Nat) (payload : List UInt8)
    (availability : TransportAvailability) (now : Ktime) : PreparedDatagram × TunnelFlowPlane :=
  let refused (status : ProtocolStatus) : PreparedDatagram := ⟨status, ⟨0, 0⟩, handle, 0⟩
  if payloadSize ≠ payload.length then (refused .malformedInput, plane)
  else if maximumUdpPayloadStorageBytes < payload.length then (refused .datagramTooLarge, plane)
  else
    match plane.findFlow client handle with
    | none => (refused .staleHandle, plane)
    | some i =>
      let flow := plane.flows i
      if flow.closed = true ∨ flow.pending = true then (refused .flowClosed, plane)
      else if plane.policy.available = false ∨ flow.peer ≠ plane.policy.peer then
        (refused .peerUnavailable, plane)
      else if availability.protocolAvailable = false then (refused .transportUnavailable, plane)
      else if availability.stagingAvailable = false then
        (refused .queueFull, plane.setFlow i { flow with writableWaiter := true })
      else
        (⟨.success, flow.peer, handle, handle⟩, plane.setFlow i { flow with lastActivityAt := now })

/-- The slot of the flow with a handle, whichever client it belongs to. -/
def slotOfHandle (handle : FlowHandle) : Option (Fin maximumFlows) :=
  (List.finRange maximumFlows).find? fun i =>
    (plane.flows i).allocated && decide (makeFlowHandle i (plane.flows i) = handle)

def completeSend (datagram : PreparedDatagram) (completionStatus : ProtocolStatus) :
    TunnelFlowPlane :=
  if datagram.isPrepared = false then plane
  else
    match plane.slotOfHandle datagram.flow with
    | none => plane
    | some i =>
      if completionStatus = .queueFull then
        plane.setFlow i { plane.flows i with writableWaiter := true }
      else if completionStatus = .success then
        plane.setFlow i { plane.flows i with writableWaiter := false }
      else plane

/-- The completion of a flow that may write again. -/
def writableCompletion : CompletionRecord :=
  { CompletionRecord.zero with
    type := .writable
    flow := makeFlowHandle i flow
    peerActivationGeneration := flow.peer.activationGeneration
    routingPolicyGeneration := flow.policyGeneration }

def notifyOutboundCapacityAvailable (peer : PeerIdentity) : TunnelFlowPlane :=
  (List.finRange maximumFlows).foldl (fun plane i =>
    let flow := plane.flows i
    if isOpen flow = false ∨ flow.peer ≠ peer ∨ flow.writableWaiter = false then plane
    else
      (plane.setFlow i { flow with writableWaiter := false }).enqueueControlCompletion flow.client
        (writableCompletion i { flow with writableWaiter := false })) plane

/-! ## Receiving -/

/-- `TunnelCompletionDrainOutcome`, with the records and the payload bytes that were written. -/
structure DrainOutcome where
  status : ProtocolStatus
  records : List CompletionRecord
  payload : List UInt8
  deriving DecidableEq

/-- A plane without the first completion of a client, and without what it holds. -/
def dropFront (j : Fin maximumClientContexts) (entry : CompletionEntry)
    (rest : List CompletionEntry) : TunnelFlowPlane :=
  match entry.inboundSlabSlot with
  | none => plane.setClient j { plane.clients j with completions := rest }
  | some k =>
    let plane := plane.setClient j { plane.clients j with
      completions := rest
      dataCompletionCount := (plane.clients j).dataCompletionCount - 1 }
    let plane := plane.releaseInboundSlab (some k)
    match plane.findFlow client entry.record.flow with
    | none => plane
    | some i => plane.setFlow i { plane.flows i with
        inboundOccupancy := (plane.flows i).inboundOccupancy - 1 }

/-- The loop of `ReceiveCompletions`, with room for so many more records. -/
def receiveLoop (client : TunnelClientId) (j : Fin maximumClientContexts) (payloadSize : Nat) :
    Nat → List CompletionRecord → List UInt8 → TunnelFlowPlane → DrainOutcome × TunnelFlowPlane
  | 0, records, payload, plane =>
    (⟨if records = [] then .queueEmpty else .success, records, payload⟩, plane)
  | room + 1, records, payload, plane =>
    match (plane.clients j).completions with
    | [] => (⟨if records = [] then .queueEmpty else .success, records, payload⟩, plane)
    | entry :: rest =>
      match entry.inboundSlabSlot with
      | none =>
        receiveLoop client j payloadSize room (records ++ [entry.record]) payload
          (plane.dropFront client j entry rest)
      | some k =>
        let bytes := (plane.inboundSlabs k).bytes
        if payloadSize - payload.length < bytes.length then
          (⟨if records = [] then .outputBufferTooSmall else .success, records, payload⟩, plane)
        else
          receiveLoop client j payloadSize room
            (records ++ [{ entry.record with
              payloadOffset := payload.length, payloadSize := bytes.length }])
            (payload ++ bytes) (plane.dropFront client j entry rest)

/-- `ReceiveCompletions`, with the sizes of the two buffers. -/
def receiveCompletions (recordCount : Nat) (payloadSize : Nat) : DrainOutcome × TunnelFlowPlane :=
  match plane.findClient client with
  | none => (⟨.staleHandle, [], []⟩, plane)
  | some j =>
    if recordCount = 0 then (⟨.outputBufferTooSmall, [], []⟩, plane)
    else receiveLoop client j payloadSize recordCount [] [] plane

def closeFlow (handle : FlowHandle) (now : Ktime) : ProtocolStatus × TunnelFlowPlane :=
  match plane.findFlow client handle with
  | none => (.staleHandle, plane)
  | some i =>
    (.success, if (plane.flows i).closed then plane else plane.closeFlowSlot i .clientClosed now true)

/-- `TunnelInboundDisposition`. -/
inductive InboundDisposition where
  | notClaimed
  | delivered
  | droppedMalformed
  | droppedUnknown
  | droppedStale
  | droppedQueueFull
  deriving DecidableEq, Repr

/-- Whether a datagram read for a flow of a policy is no longer for it. -/
def isStale (peer : PeerIdentity) (policyGeneration : UInt32) (remote : Ipv4Endpoint) : Bool :=
  flow.closed || flow.pending || decide (plane.findClient flow.client = none) ||
    decide (flow.peer ≠ peer) || decide (flow.policyGeneration ≠ policyGeneration) ||
    decide (plane.policyGeneration ≠ policyGeneration) || decide (plane.policy.peer ≠ peer) ||
    !endpointEqual flow.remote remote

def deliverInboundUdpDatagram (peer : PeerIdentity) (policyGeneration : UInt32)
    (adapterToken : UInt64) (remote : Ipv4Endpoint) (payload : List UInt8) (now : Ktime) :
    InboundDisposition × TunnelFlowPlane :=
  if adapterToken = 0 ∨ maximumUdpPayloadStorageBytes < payload.length then
    (.droppedMalformed, plane)
  else
    match plane.slotOfHandle adapterToken with
    | none => (.droppedUnknown, plane)
    | some i =>
      let flow := plane.flows i
      if plane.isStale flow peer policyGeneration remote then (.droppedStale, plane)
      else if maximumInboundDatagramsPerFlow ≤ flow.inboundOccupancy then (.droppedQueueFull, plane)
      else
        match plane.allocateInboundSlab with
        | (none, plane) => (.droppedQueueFull, plane)
        | (some k, plane) =>
          let plane := (plane.setSlab k ⟨payload, true⟩).setFlow i { flow with
            inboundOccupancy := flow.inboundOccupancy + 1
            lastActivityAt := now }
          match plane.enqueueDataCompletion i k with
          | (true, plane) => (.delivered, plane)
          | (false, plane) => (.droppedQueueFull, plane)

def invalidatePeerActivation (peer : PeerIdentity) (reason : FlowTerminalReason) (now : Ktime) :
    TunnelFlowPlane :=
  (List.finRange maximumFlows).foldl (fun plane i =>
    if isOpen (plane.flows i) = true ∧ (plane.flows i).peer = peer then
      plane.closeFlowSlot i reason now true
    else plane) plane

end TunnelFlowPlane

end WireguardNx.Tunnel
