import WireguardNx.Runtime.AdapterOwner
import WireguardNx.Runtime.Dispatcher

/-!
# The calls of tunnel clients and the worker of the adapter

`DaemonRuntime` serves a call of a tunnel client in several critical sections: it changes the flow
plane and puts an operation into the slot of the adapter, asks for the work of the adapter, waits
until the submission lane is empty, and takes the result (`runtime/daemon_runtime.cpp`).  The effect
executor puts decrypted packets into the same slot.  The worker takes an operation, executes it
without the lock and completes it.  Every step here is one critical section, one request for work or
one `Execute`; the steps of any number of threads interleave.

What the rest of the daemon decides is an argument of a step: the time, whether the peer's packet
state is available, what became of a submission, and whether the platform has a queue at all.
`serial` and `log` are history, which no step reads.
-/

namespace WireguardNx.Runtime

open Wireguard WireguardNx.Platform Tunnel Ip
open Tunnel.TunnelFlowPlane
  (FlowReservation PreparedDatagram OpenRequest TransportAvailability)

/-- What a thread is to do about the operation that it queued. -/
inductive CallPurpose where
  /-- `DestroyTunnelClient`, with the tokens that are still to be closed after this one. -/
  | destroy (rest : List UInt64)
  /-- `OpenTunnelConnectedUdpFlow`. -/
  | openFlow (reservation : FlowReservation)
  /-- The end of `OpenTunnelConnectedUdpFlow` for a reservation that could not be committed. -/
  | closeStale
  /-- `SendTunnelUdpDatagram`. -/
  | send (prepared : PreparedDatagram)
  /-- `CloseTunnelFlow`. -/
  | close (client : TunnelClientId) (handle : FlowHandle)
  /-- `ExecutePublishDecryptedPacket`. -/
  | publish
  deriving DecidableEq

/-- An operation as the thread that queued it knows it: its ticket, and which operation it is. -/
structure QueuedOperation where
  ticket : OperationTicket
  serial : Nat
  deriving DecidableEq

/-- Where a thread stands between two critical sections. -/
inductive TunnelCall where
  | idle
  /-- In the loop of `DestroyTunnelClient`. -/
  | destroying (tokens : List UInt64)
  /-- With `close_stale_pcb` set. -/
  | stale (reservation : FlowReservation)
  /-- Before `QueueUserspaceIpAdapter`. -/
  | asking (purpose : CallPurpose) (queued : QueuedOperation)
  /-- Before `CancelLocked`. -/
  | cancelling (purpose : CallPurpose) (queued : QueuedOperation)
  /-- Before `CloseFlow` of the flow plane. -/
  | closing (client : TunnelClientId) (handle : FlowHandle) (queued : QueuedOperation)
  /-- In `FlushSubmissionWork`. -/
  | flushing (purpose : CallPurpose) (queued : QueuedOperation)
  /-- Before the section that takes the result. -/
  | finishing (purpose : CallPurpose) (queued : QueuedOperation)
  deriving DecidableEq

/-- Where `UserspaceIpAdapterWorkCallback` stands. -/
inductive AdapterWorker where
  | idle
  /-- Before `TakeNextLocked`. -/
  | looping
  | taken (operation : Operation) (serial : Nat)
  /-- Whether an operation is to be executed has been looked up. -/
  | checked (operation : Operation) (serial : Nat) (execute : Bool)
  | executed (operation : Operation) (serial : Nat) (result : UserspaceIpResult)
  /-- `TakeNextLocked` had nothing. -/
  | returning
  deriving DecidableEq

/-- What happened to an operation. -/
inductive AdapterEvent where
  | queued (serial : Nat) (operation : Operation) (payload : List UInt8)
  /-- `Execute` processed a payload, with a result; the packets and datagrams are those of the adapter
  afterwards. -/
  | executed (serial : Nat) (operation : Operation) (payload : List UInt8)
      (result : UserspaceIpResult) (packets : List (List UInt8))
      (datagrams : List UserspaceIpDatagram)
  /-- A thread read the result of its ticket. -/
  | resultRead (serial : Nat) (result : UserspaceIpResult)
  /-- A thread read the outbound packets of its ticket. -/
  | packetsRead (serial : Nat) (packets : List (List UInt8))
  /-- The worker read the packet and the datagrams of a ticket. -/
  | inputRead (serial : Nat) (packet : List UInt8) (datagrams : List UserspaceIpDatagram)
  deriving DecidableEq

/-- The part of `DaemonRuntime` that tunnel calls and the adapter's worker share, with the threads.
`activePeer` is the active peer with its current activation, and its configuration. -/
structure TunnelRuntime where
  plane : TunnelFlowPlane
  owner : UserspaceIpAdapterOwner
  dispatcher : HorizonDispatcher
  activePeer : Option (PeerIdentity × Option PolicyConfiguration)
  worker : AdapterWorker
  calls : Nat → TunnelCall
  serial : Nat
  log : List AdapterEvent

namespace TunnelRuntime

/-- The daemon before its first call. -/
def initial : TunnelRuntime :=
  ⟨.initial, .initial, .initial, none, .idle, fun _ => .idle, 0, []⟩

variable (s : TunnelRuntime) (thread : Nat) (now : Ktime)

/-- A thread goes on. -/
def resume (call : TunnelCall) : TunnelRuntime :=
  { s with calls := Function.update s.calls thread call }

/-! ## The policy and the active peer -/

/-- What `RefreshTunnelPolicyLocked` passes on. -/
def tunnelPolicyInput : TunnelPolicyInput :=
  match s.activePeer with
  | none => .none
  | some (peer, configuration) =>
    if configuration = none ∨ peer.activationGeneration = 0 then .none
    else ⟨configuration, peer, true⟩

def refreshTunnelPolicyLocked : TunnelRuntime :=
  { s with plane := s.plane.refreshPolicy s.tunnelPolicyInput now }

/-- What `SetPeerInactive` does to the flows and the adapter. -/
def setPeerInactive (peer : PeerIdentity) (now : Ktime) : TunnelRuntime :=
  { s with
    plane := s.plane.invalidatePeerActivation peer .peerDeactivated now
    owner := s.owner.queueReset }

def setActivePeer (selected : Option (PeerIdentity × Option PolicyConfiguration)) (now : Ktime) :
    TunnelRuntime :=
  if selected.map (fun peer => peer.1.peerIndex) =
      s.activePeer.map (fun peer => peer.1.peerIndex) then s
  else
    let s := match s.activePeer with
      | none => s
      | some (peer, _) => s.setPeerInactive peer now
    { s with activePeer := selected }.refreshTunnelPolicyLocked now

/-! ## The sections that queue an operation -/

/-- An operation of a thread is in the slot. -/
def issue (purpose : CallPurpose) (queued : OperationTicket × UserspaceIpAdapterOwner) :
    TunnelRuntime :=
  { s with
    owner := queued.2
    calls := Function.update s.calls thread (.asking purpose ⟨queued.1, s.serial + 1⟩)
    serial := s.serial + 1
    log := s.log ++ [.queued (s.serial + 1) queued.2.slot.operation queued.2.slot.payload] }

/-- `DestroyTunnelClient` up to its loop. -/
def destroyTunnelClient (client : TunnelClientId) (now : Ktime) : TunnelRuntime :=
  { s with plane := s.plane.destroyClient client now }.resume thread
    (.destroying ((s.plane.copyClientAdapterTokens client).take maximumFlowsPerClient))

/-- A round of the loop of `DestroyTunnelClient`. -/
def closeNextToken : List UInt64 → TunnelRuntime
  | [] => s.resume thread .idle
  | token :: rest =>
    match s.owner.queueCloseFlow token with
    | none => s.resume thread (.destroying rest)
    | some queued => s.issue thread (.destroy rest) queued

/-- `OpenTunnelConnectedUdpFlow` up to its request for work. -/
def openTunnelConnectedUdpFlow (client : TunnelClientId) (request : OpenRequest)
    (availability : TransportAvailability) (now : Ktime) : TunnelRuntime :=
  let s := s.refreshTunnelPolicyLocked now
  let (reservation, plane) := s.plane.reserveConnectedUdpFlow client request now availability
  if reservation.isReserved = false then { s with plane }
  else
    let owner := s.owner.queueConfigure reservation.localEndpoint.address
      plane.policy.effectiveInnerMtu
    match owner.queueOpenFlow
        ⟨reservation.adapterToken, reservation.localEndpoint, reservation.remote⟩ with
    | none => { s with plane := plane.cancelFlowReservation reservation, owner }
    | some queued => { s with plane }.issue thread (.openFlow reservation) queued

/-- `OpenTunnelConnectedUdpFlow` once its reservation is stale. -/
def closeStalePcb (reservation : FlowReservation) : TunnelRuntime :=
  match s.owner.queueCloseFlow reservation.adapterToken with
  | none => s.resume thread .idle
  | some queued => s.issue thread .closeStale queued

/-- `SendTunnelUdpDatagram` up to its request for work. -/
def sendTunnelUdpDatagram (client : TunnelClientId) (handle : FlowHandle) (payloadSize : Nat)
    (payload : List UInt8) (protocolAvailable : Bool) (now : Ktime) : TunnelRuntime :=
  let s := s.refreshTunnelPolicyLocked now
  let (prepared, plane) := s.plane.prepareSend client handle payloadSize payload
    ⟨protocolAvailable, true⟩ now
  if prepared.isPrepared = false then { s with plane }
  else
    match s.owner.queueSendDatagram prepared.adapterToken payload with
    | none => { s with plane := plane.completeSend prepared .queueFull }
    | some queued => { s with plane }.issue thread (.send prepared) queued

/-- `CloseTunnelFlow` up to its request for work. -/
def closeTunnelFlow (client : TunnelClientId) (handle : FlowHandle) (now : Ktime) : TunnelRuntime :=
  match s.plane.getFlowAdapterToken client handle with
  | none => { s with plane := (s.plane.closeFlow client handle now).2 }
  | some token =>
    match s.owner.queueCloseFlow token with
    | none => s
    | some queued => s.issue thread (.close client handle) queued

/-- `ExecutePublishDecryptedPacket` up to its request for work. -/
def publishDecryptedPacket (peer : PeerIdentity) (packet : List UInt8) : TunnelRuntime :=
  match s.owner.queueInputPacket peer s.plane.policyGeneration s.owner.adapter.epoch packet with
  | none => s
  | some queued => s.issue thread .publish queued

/-! ## The sections after the request for work -/

/-- `capacity_exhausted` or `unavailable`. -/
def isRejected : QueueWorkResult → Bool
  | .capacityExhausted | .unavailable => true
  | .queued | .alreadyPending | .rerunQueued => false

/-- Where a thread goes on when its request for work was answered.  A datagram that is sent and a
stale reservation do not look at the answer. -/
def answered (purpose : CallPurpose) (queued : QueuedOperation) (rejected : Bool) : TunnelCall :=
  match purpose with
  | .send prepared => .flushing (.send prepared) queued
  | .closeStale => .flushing .closeStale queued
  | purpose =>
    if rejected then .cancelling purpose queued
    else
      match purpose with
      | .publish => .idle
      | .close client handle => .closing client handle queued
      | purpose => .flushing purpose queued

/-- `QueueUserspaceIpAdapter`; there may be no queue. -/
def askForWork (purpose : CallPurpose) (queued : QueuedOperation) (available : Bool) :
    TunnelRuntime :=
  let (answer, dispatcher) :=
    if available then s.dispatcher.queueUserspaceIpAdapter else (.unavailable, s.dispatcher)
  { s with dispatcher }.resume thread (answered purpose queued (isRejected answer))

/-- `CancelLocked` after a rejected request. -/
def cancelOperation (purpose : CallPurpose) (queued : QueuedOperation) : TunnelRuntime :=
  let s := { s with owner := s.owner.cancel queued.ticket }
  match purpose with
  | .destroy rest => s.resume thread (.destroying rest)
  | .openFlow reservation =>
    { s with plane := s.plane.cancelFlowReservation reservation }.resume thread .idle
  | _ => s.resume thread .idle

/-- What `SendTunnelUdpDatagram` makes of the result of the adapter, with what became of the
submission of the packets. -/
def sendStatus (owner : UserspaceIpAdapterOwner) (ticket : OperationTicket)
    (submission : ProtocolStatus) : ProtocolStatus :=
  match owner.peekResult ticket with
  | none => .transportUnavailable
  | some .success =>
    if owner.outboundPackets ticket = [] ∨
        maximumInnerPacketBatchSize < (owner.outboundPackets ticket).length then .queueFull
    else submission
  | some .queueFull => .queueFull
  | some _ => .transportUnavailable

/-- What a thread reads with its ticket. -/
def readings (owner : UserspaceIpAdapterOwner) (purpose : CallPurpose) (queued : QueuedOperation) :
    List AdapterEvent :=
  match owner.peekResult queued.ticket with
  | none => []
  | some result =>
    .resultRead queued.serial result ::
      match purpose, result with
      | .send _, .success => [.packetsRead queued.serial (owner.outboundPackets queued.ticket)]
      | _, _ => []

/-- A thread takes the result of its operation. -/
def finishCall (purpose : CallPurpose) (queued : QueuedOperation) (submission : ProtocolStatus) :
    TunnelRuntime :=
  let (result, owner) := s.owner.takeResult queued.ticket
  let taken := { s with owner, log := s.log ++ readings s.owner purpose queued }
  match purpose with
  | .destroy rest => taken.resume thread (.destroying rest)
  | .openFlow reservation =>
    if result = some .success then
      match s.plane.commitFlowReservation reservation with
      | (true, plane) => { taken with plane }.resume thread .idle
      | (false, plane) =>
        { taken with plane := plane.cancelFlowReservation reservation }.resume thread
          (.stale reservation)
    else { taken with plane := s.plane.cancelFlowReservation reservation }.resume thread .idle
  | .send prepared =>
    { taken with
      plane := s.plane.completeSend prepared (sendStatus s.owner queued.ticket submission)
    }.resume thread .idle
  | .closeStale | .close _ _ | .publish => taken.resume thread .idle

/-! ## The worker -/

/-- `TakeNextLocked`. -/
def takeNext (s : TunnelRuntime) : TunnelRuntime :=
  match s.owner.takeNext with
  | none => { s with worker := .returning }
  | some (operation, owner) => { s with owner, worker := .taken operation s.serial }

/-- Whether the worker executes an operation: a packet must still be one of the active peer, of the
current policy and of the adapter as it is. -/
def isCurrent (operation : Operation) : Bool :=
  decide (operation.kind ≠ .inputPacket) ||
    decide (s.activePeer.map Prod.fst = some operation.peer) &&
      decide (s.plane.policyGeneration = operation.policyGeneration) &&
      decide (s.owner.adapter.epoch = operation.adapterEpoch)

/-- `Execute`, or nothing for a packet that is stale. -/
def executeOperation (operation : Operation) (serial : Nat) (execute : Bool) (lwip : Lwip) :
    TunnelRuntime :=
  if execute = false then { s with worker := .executed operation serial .stale }
  else
    let (result, owner) := s.owner.execute operation lwip
    { s with
      owner
      worker := .executed operation serial result
      log := if operation.ticket = 0 then s.log
        else s.log ++ [.executed serial operation s.owner.slot.payload result
          owner.adapter.outboundPackets owner.adapter.inboundDatagrams] }

/-- Whether `DeliverUserspaceIpInputLocked` aborts because the packet of the operation is gone. -/
def losesInputPacket : Bool :=
  match s.worker with
  | .executed operation _ result =>
    decide (operation.kind = .inputPacket) && decide (result = .success) &&
      decide ((s.owner.complete operation result).inputPacket operation.ticket = [])
  | _ => false

/-- `DeliverUserspaceIpInputLocked`; nothing where it aborts.  A packet without a datagram goes to
the packet channel. -/
def deliverUserspaceIpInputLocked (operation : Operation) (serial : Nat) (now : Ktime) :
    Option TunnelRuntime :=
  let packet := s.owner.inputPacket operation.ticket
  let datagrams := s.owner.inboundDatagrams operation.ticket
  let s' := { s with log := s.log ++ [.inputRead serial packet datagrams] }
  if packet = [] then none
  else
    match datagrams with
    | [] => some s'
    | [datagram] => some { s' with
        plane := (s.plane.deliverInboundUdpDatagram operation.peer operation.policyGeneration
          datagram.token datagram.remote datagram.payload now).2 }
    | _ => none

/-- `CompleteLocked`, and for a packet what follows in the same section. -/
def completeOperation (operation : Operation) (serial : Nat) (result : UserspaceIpResult)
    (now : Ktime) : Option TunnelRuntime :=
  let s := { s with owner := s.owner.complete operation result, worker := .looping }
  if operation.kind = .inputPacket then
    (if result = .success then s.deliverUserspaceIpInputLocked operation serial now
      else some s).map fun s => { s with owner := (s.owner.takeResult operation.ticket).2 }
  else some s

/-! ## Steps -/

/-- A step of a thread, of the worker or of another part of the daemon. -/
inductive Action where
  | setActivePeer (selected : Option (PeerIdentity × Option PolicyConfiguration)) (now : Ktime)
  /-- A call that refreshes the policy and does nothing else. -/
  | refresh (now : Ktime)
  | createClient (notifier : Bool) (now : Ktime)
  | receiveCompletions (client : TunnelClientId) (recordCount payloadSize : Nat)
  | notifyOutboundCapacityAvailable (peer : PeerIdentity)
  /-- The section of `UserspaceIpTimeoutCallback`. -/
  | runTimeouts
  /-- The section of `Shutdown`. -/
  | reset
  | destroyTunnelClient (thread : Nat) (client : TunnelClientId) (now : Ktime)
  | openTunnelConnectedUdpFlow (thread : Nat) (client : TunnelClientId) (request : OpenRequest)
      (availability : TransportAvailability) (now : Ktime)
  | sendTunnelUdpDatagram (thread : Nat) (client : TunnelClientId) (handle : FlowHandle)
      (payloadSize : Nat) (payload : List UInt8) (protocolAvailable : Bool) (now : Ktime)
  | closeTunnelFlow (thread : Nat) (client : TunnelClientId) (handle : FlowHandle) (now : Ktime)
  | publishDecryptedPacket (thread : Nat) (peer : PeerIdentity) (packet : List UInt8)
  /-- A thread in a call goes on. -/
  | proceed (thread : Nat) (available : Bool) (submission : ProtocolStatus) (now : Ktime)
  /-- The worker goes on. -/
  | work (lwip : Lwip) (now : Ktime)
  /-- A request for work whose answer is not looked at, and what the threads of the lanes do. -/
  | dispatch (action : HorizonDispatcher.Action)

/-- A thread begins a call. -/
def begins (next : TunnelRuntime) : Option TunnelRuntime :=
  if s.calls thread = .idle then some next else none

/-- A thread in a call goes on. -/
def proceed (available : Bool) (submission : ProtocolStatus) (now : Ktime) : Option TunnelRuntime :=
  match s.calls thread with
  | .idle => none
  | .destroying tokens => some (s.closeNextToken thread tokens)
  | .stale reservation => some (s.closeStalePcb thread reservation)
  | .asking purpose queued => some (s.askForWork thread purpose queued available)
  | .cancelling purpose queued => some (s.cancelOperation thread purpose queued)
  | .closing client handle queued =>
    some ({ s with plane := (s.plane.closeFlow client handle now).2 }.resume thread
      (.flushing (.close client handle) queued))
  | .flushing purpose queued =>
    if s.dispatcher.isSubmissionFlushed then some (s.resume thread (.finishing purpose queued))
    else none
  | .finishing purpose queued => some (s.finishCall thread purpose queued submission)

/-- The worker goes on; nothing when it does not run, or aborts. -/
def work (lwip : Lwip) (now : Ktime) : Option TunnelRuntime :=
  match s.worker with
  | .idle | .returning => none
  | .looping => some s.takeNext
  | .taken operation serial =>
    some { s with worker := .checked operation serial (s.isCurrent operation) }
  | .checked operation serial execute =>
    some (s.executeOperation operation serial execute lwip)
  | .executed operation serial result => s.completeOperation operation serial result now

/-- The lanes go on.  The callback of the adapter begins when its work is taken, and its work ends
when it has returned. -/
def dispatch (action : HorizonDispatcher.Action) : Option TunnelRuntime := do
  let dispatcher ← s.dispatcher.step action
  match action with
  | .queue _ => some { s with dispatcher }
  | .dequeue lane =>
    if lane = .submission ∧ (dispatcher.queues lane).work = some .userspaceIpAdapter then
      some { s with dispatcher, worker := .looping }
    else some { s with dispatcher }
  | .complete lane =>
    if lane = .submission ∧ (s.dispatcher.queues lane).work = some .userspaceIpAdapter then
      if s.worker = .returning then some { s with dispatcher, worker := .idle } else none
    else some { s with dispatcher }

/-- The daemon after a step; nothing when the step cannot be made. -/
def step : Action → Option TunnelRuntime
  | .setActivePeer selected now => some (s.setActivePeer selected now)
  | .refresh now => some (s.refreshTunnelPolicyLocked now)
  | .createClient notifier now =>
    let s := s.refreshTunnelPolicyLocked now
    some { s with plane := (s.plane.createClient notifier).2 }
  | .receiveCompletions client recordCount payloadSize =>
    some { s with plane := (s.plane.receiveCompletions client recordCount payloadSize).2 }
  | .notifyOutboundCapacityAvailable peer =>
    some { s with plane := s.plane.notifyOutboundCapacityAvailable peer }
  | .runTimeouts => some { s with owner := s.owner.queueRunTimeouts }
  | .reset => some { s with owner := s.owner.queueReset }
  | .destroyTunnelClient thread client now =>
    s.begins thread (s.destroyTunnelClient thread client now)
  | .openTunnelConnectedUdpFlow thread client request availability now =>
    s.begins thread (s.openTunnelConnectedUdpFlow thread client request availability now)
  | .sendTunnelUdpDatagram thread client handle payloadSize payload protocolAvailable now =>
    s.begins thread
      (s.sendTunnelUdpDatagram thread client handle payloadSize payload protocolAvailable now)
  | .closeTunnelFlow thread client handle now =>
    s.begins thread (s.closeTunnelFlow thread client handle now)
  | .publishDecryptedPacket thread peer packet =>
    s.begins thread (s.publishDecryptedPacket thread peer packet)
  | .proceed thread available submission now => s.proceed thread available submission now
  | .work lwip now => s.work lwip now
  | .dispatch action => s.dispatch action

end TunnelRuntime

end WireguardNx.Runtime
