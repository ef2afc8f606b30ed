import WireguardNx.Ip.Adapter

/-!
# The owner of the userspace IP adapter

`UserspaceIpAdapterOwner` keeps what is to be done with the adapter: a reset, a configuration and a
run of the timers, each at most once, and one slot for an operation of a flow or a packet
(`runtime/userspace_ip_adapter_owner.cpp`).  A worker takes the next operation, executes it and
completes it; whoever queued an operation has a ticket for its result.

`payload` is the part of the payload buffer that `payload_size` covers.
-/

namespace WireguardNx.Runtime

open Wireguard Tunnel Ip

/-- `OperationTicket`; the generation zero is no ticket. -/
abbrev OperationTicket := UInt32

inductive OperationKind where
  | configure
  | reset
  | openFlow
  | closeFlow
  | sendDatagram
  | inputPacket
  | runTimeouts
  deriving DecidableEq, Repr

structure Operation where
  kind : OperationKind
  ticket : OperationTicket
  flow : UserspaceIpFlow
  peer : PeerIdentity
  localAddress : Ipv4Address
  policyGeneration : UInt32
  adapterEpoch : UInt32
  mtu : UInt16
  deriving DecidableEq

/-- An operation of some kind that says nothing else. -/
def Operation.of (kind : OperationKind) : Operation :=
  ⟨kind, 0, .zero, ⟨0, 0⟩, Bytes.zero 4, 0, 0, 0⟩

structure DataOperationSlot where
  operation : Operation
  payload : List UInt8
  result : UserspaceIpResult
  generation : UInt32
  pending : Bool
  running : Bool
  complete : Bool
  deriving DecidableEq

structure UserspaceIpAdapterOwner where
  localAddress : Ipv4Address
  adapter : UserspaceIpAdapter
  mtu : UInt16
  configurationPending : Bool
  resetPending : Bool
  timeoutPending : Bool
  configurationActive : Bool
  slot : DataOperationSlot

namespace UserspaceIpAdapterOwner

/-- A value-initialised owner. -/
def initial : UserspaceIpAdapterOwner :=
  ⟨Bytes.zero 4, .initial, 0, false, false, false, false,
    ⟨.of .reset, [], .notInitialized, 1, false, false, false⟩⟩

variable (owner : UserspaceIpAdapterOwner)

/-- `QueueConfigureLocked`. -/
def queueConfigure (localAddress : Ipv4Address) (mtu : UInt16) : UserspaceIpAdapterOwner :=
  if owner.configurationActive = true ∧ owner.resetPending = false ∧
      owner.configurationPending = false ∧ owner.localAddress = localAddress ∧ owner.mtu = mtu then
    owner
  else { owner with localAddress, mtu, configurationPending := true }

/-- `QueueResetLocked`. -/
def queueReset : UserspaceIpAdapterOwner :=
  { owner with resetPending := true, timeoutPending := false, configurationActive := false }

/-- `QueueRunTimeoutsLocked`. -/
def queueRunTimeouts : UserspaceIpAdapterOwner :=
  if owner.configurationActive = true ∧ owner.resetPending = false then
    { owner with timeoutPending := true }
  else owner

/-- Whether the slot holds an operation. -/
def isBusy : Bool :=
  owner.slot.pending || owner.slot.running || owner.slot.complete

/-- An operation is put into the slot; what is returned is its ticket. -/
def enqueue (operation : Operation) (payload : List UInt8) :
    OperationTicket × UserspaceIpAdapterOwner :=
  (owner.slot.generation, { owner with slot := { owner.slot with
    operation := { operation with ticket := owner.slot.generation }
    payload
    pending := true } })

/-- `QueueOpenFlowLocked`. -/
def queueOpenFlow (flow : UserspaceIpFlow) : Option (OperationTicket × UserspaceIpAdapterOwner) :=
  if owner.isBusy then none
  else some (owner.enqueue { Operation.of .openFlow with flow } owner.slot.payload)

/-- `QueueCloseFlowLocked`. -/
def queueCloseFlow (token : UInt64) : Option (OperationTicket × UserspaceIpAdapterOwner) :=
  if owner.isBusy then none
  else some (owner.enqueue { Operation.of .closeFlow with flow := ⟨token, .zero, .zero⟩ }
    owner.slot.payload)

/-- `QueueSendDatagramLocked`. -/
def queueSendDatagram (token : UInt64) (payload : List UInt8) :
    Option (OperationTicket × UserspaceIpAdapterOwner) :=
  if token = 0 ∨ maximumUdpPayloadStorageBytes < payload.length ∨ owner.isBusy = true then none
  else some (owner.enqueue { Operation.of .sendDatagram with flow := ⟨token, .zero, .zero⟩ } payload)

/-- `QueueInputPacketLocked`. -/
def queueInputPacket (peer : PeerIdentity) (policyGeneration adapterEpoch : UInt32)
    (packet : List UInt8) : Option (OperationTicket × UserspaceIpAdapterOwner) :=
  if peer.activationGeneration = 0 ∨ policyGeneration = 0 ∨ adapterEpoch = 0 ∨ packet = [] ∨
      maxInnerIpv4PacketSize < packet.length ∨ owner.isBusy = true then none
  else some (owner.enqueue
    { Operation.of .inputPacket with peer, policyGeneration, adapterEpoch } packet)

/-- `TakeNextLocked`. -/
def takeNext : Option (Operation × UserspaceIpAdapterOwner) :=
  let control (kind : OperationKind) : Operation :=
    { Operation.of kind with localAddress := owner.localAddress, mtu := owner.mtu }
  if owner.resetPending then some (control .reset, { owner with resetPending := false })
  else if owner.configurationPending then
    some (control .configure, { owner with configurationPending := false })
  else if owner.timeoutPending then
    some (control .runTimeouts, { owner with timeoutPending := false })
  else if owner.slot.pending then
    some (owner.slot.operation, { owner with
      slot := { owner.slot with pending := false, running := true } })
  else none

/-- `Execute`, with what lwIP does. -/
def execute (operation : Operation) (lwip : Lwip) : UserspaceIpResult × UserspaceIpAdapterOwner :=
  match operation.kind with
  | .configure =>
    let (done, adapter) :=
      owner.adapter.reset.initializeWith operation.localAddress operation.mtu lwip
    (if done then .success else .transportError, { owner with adapter })
  | .reset => (.success, { owner with adapter := owner.adapter.reset })
  | .openFlow =>
    let (result, adapter) := owner.adapter.openFlow operation.flow lwip
    (result, { owner with adapter })
  | .closeFlow => (.success, { owner with adapter := owner.adapter.closeFlow operation.flow.token })
  | .sendDatagram =>
    let (result, adapter) :=
      owner.adapter.clearOutboundPackets.send operation.flow.token owner.slot.payload lwip
    (result, { owner with adapter })
  | .inputPacket =>
    let (result, adapter) := owner.adapter.clearInboundDatagrams.input owner.slot.payload lwip
    (result, { owner with adapter })
  | .runTimeouts => (.success, owner)

/-- `CompleteLocked`. -/
def complete (owner : UserspaceIpAdapterOwner) (operation : Operation)
    (result : UserspaceIpResult) :
    UserspaceIpAdapterOwner :=
  if operation.ticket = 0 then
    match operation.kind with
    | .configure => { owner with configurationActive := decide (result = .success) }
    | .reset => { owner with configurationActive := false }
    | _ => owner
  else if operation.ticket ≠ owner.slot.generation ∨ owner.slot.running = false then owner
  else { owner with slot := { owner.slot with running := false, complete := true, result } }

/-- The generation after another; zero is skipped. -/
def followingGeneration (generation : UInt32) : UInt32 :=
  if generation + 1 = 0 then 1 else generation + 1

/-- `PeekResultLocked`. -/
def peekResult (ticket : OperationTicket) : Option UserspaceIpResult :=
  if ticket = 0 ∨ ticket ≠ owner.slot.generation ∨ owner.slot.complete = false then none
  else some owner.slot.result

/-- `TakeResultLocked`. -/
def takeResult (ticket : OperationTicket) : Option UserspaceIpResult × UserspaceIpAdapterOwner :=
  match owner.peekResult ticket with
  | none => (none, owner)
  | some result => (some result, { owner with slot := { owner.slot with
      complete := false
      generation := followingGeneration owner.slot.generation } })

/-- Whether a ticket is that of a completed operation of a kind. -/
def hasCompleted (ticket : OperationTicket) (kind : OperationKind) : Bool :=
  decide (ticket ≠ 0) && decide (ticket = owner.slot.generation) && owner.slot.complete &&
    decide (owner.slot.operation.kind = kind)

/-- `OutboundPacketsLocked`. -/
def outboundPackets (owner : UserspaceIpAdapterOwner) (ticket : OperationTicket) :
    List (List UInt8) :=
  if owner.hasCompleted ticket .sendDatagram && decide (owner.slot.result = .success) then
    owner.adapter.outboundPackets
  else []

/-- `InputPacketLocked`. -/
def inputPacket (owner : UserspaceIpAdapterOwner) (ticket : OperationTicket) : List UInt8 :=
  if owner.hasCompleted ticket .inputPacket then owner.slot.payload else []

/-- `InboundDatagramsLocked`. -/
def inboundDatagrams (owner : UserspaceIpAdapterOwner) (ticket : OperationTicket) :
    List UserspaceIpDatagram :=
  if owner.hasCompleted ticket .inputPacket && decide (owner.slot.result = .success) then
    owner.adapter.inboundDatagrams
  else []

/-- `CancelLocked`. -/
def cancel (ticket : OperationTicket) : UserspaceIpAdapterOwner :=
  if ticket = 0 ∨ ticket ≠ owner.slot.generation then owner
  else { owner with slot := { owner.slot with
    pending := false
    running := false
    complete := false
    generation := followingGeneration owner.slot.generation } }

end UserspaceIpAdapterOwner

end WireguardNx.Runtime
