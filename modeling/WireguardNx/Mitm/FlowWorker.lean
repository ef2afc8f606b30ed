import WireguardNx.Lib.Machine
import WireguardNx.Tunnel.FlowPlane

/-!
# The flow worker of the socket interceptor

The interceptor gives each connected UDP socket that it routes a flow of its own: a client session
with the tunnel service and one flow opened in it.  One worker thread owns the four flow entries.
Eight outbound datagram slots are shared by them; a flow names the slots of its queued datagrams, in
order, in the first `queued` entries of its `outboundSlots`.

A function that contains an `AMS_ABORT_UNLESS` answers `none` where it aborts.  What the tunnel
service answers to a call is an argument.  The discovery service and the worker are running: a
reported client failure always requests the invalidation.  Statistics that are only logged are left
out; of the metrics only the discarded datagrams are kept.

The fields `accepted` and `retired` of a flow, `serial` and `ended` of the worker, and the serial
number of a datagram are history: nothing reads them.
-/

namespace WireguardNx.Mitm

open Tunnel

/-! ## Limits -/

abbrev maximumSockets : Nat := 4

abbrev maximumInboundDatagramsPerSocket : Nat := 4

abbrev maximumQueuedOutboundDatagrams : Nat := 8

def maximumQueuedOutboundDatagramsPerSocket : Nat := 4

abbrev maximumBatchEntriesPerSubmission : Nat := 4

def maximumBatchEntries : Nat := 8

def maximumQueuedOutboundPayloadBytes : Nat := 1500 - 20 - 8

/-! ## Values -/

structure TunnelFlowEndpoint where
  address : Ipv4Address
  port : UInt16
  deriving DecidableEq

/-- A value-initialised endpoint. -/
def TunnelFlowEndpoint.zero : TunnelFlowEndpoint := ⟨Wireguard.Bytes.zero 4, 0⟩

def sameEndpoint (endpoint : Ipv4Endpoint) (value : TunnelFlowEndpoint) : Bool :=
  endpoint.port == value.port && endpoint.address == value.address

def toEndpoint (value : Ipv4Endpoint) : TunnelFlowEndpoint := ⟨value.address, value.port⟩

inductive TunnelFlowResult where
  | opened
  | routeNotCovered
  | tunnelUnavailable
  | blockedByPolicy
  | socketError
  | messageTooLarge
  | queueFull
  | wouldBlock
  | closed
  deriving DecidableEq, Repr

inductive TunnelOpenDisposition where
  | tunnel
  | direct
  | blocked
  | error
  deriving DecidableEq, Repr

def classifyTunnelOpenStatus : ProtocolStatus → TunnelOpenDisposition
  | .success => .tunnel
  | .routeNotCovered => .direct
  | .peerUnavailable => .direct
  | .transportUnavailable => .direct
  | .tunnelBlockedByPolicy => .blocked
  | _ => .error

def mapOpenStatus (status : ProtocolStatus) : TunnelFlowResult :=
  match classifyTunnelOpenStatus status with
  | .tunnel => .opened
  | .direct => if status = .routeNotCovered then .routeNotCovered else .tunnelUnavailable
  | .blocked => .blockedByPolicy
  | .error => .socketError

inductive TunnelAvailabilityState where
  | bypass
  | discoveryPending
  | ready
  deriving DecidableEq, Repr

/-! ## Submission state -/

structure TunnelFlowSubmissionState where
  writable : Bool
  closed : Bool
  queued : Nat
  deriving DecidableEq, Repr

namespace TunnelFlowSubmissionState

/-- A value-initialised state. -/
def empty : TunnelFlowSubmissionState := ⟨true, false, 0⟩

variable (state : TunnelFlowSubmissionState)

def canAccept (capacity : Nat) : Bool :=
  !state.closed && state.writable && decide (state.queued < capacity)

def canSubmit : Bool :=
  !state.closed && state.writable && decide (state.queued ≠ 0)

def enqueue : TunnelFlowSubmissionState :=
  { state with queued := state.queued + 1 }

def retire (count : Nat) : TunnelFlowSubmissionState :=
  { state with queued := state.queued - count }

def noteQueueFull : TunnelFlowSubmissionState :=
  { state with writable := false }

def noteWritable : TunnelFlowSubmissionState :=
  if state.closed then state else { state with writable := true }

def close : TunnelFlowSubmissionState :=
  { state with closed := true, writable := false }

end TunnelFlowSubmissionState

/-! ## Entries -/

/-- `InboundDatagram`; its size is the length of its payload. -/
structure InboundDatagram where
  occupied : Bool
  remote : TunnelFlowEndpoint
  payload : List UInt8
  deriving DecidableEq

/-- A value-initialised inbound datagram. -/
def InboundDatagram.empty : InboundDatagram := ⟨false, .zero, []⟩

/-- `OutboundDatagram`; its size is the length of its payload, and the serial number tells apart
datagrams of equal payloads. -/
structure OutboundDatagram where
  occupied : Bool
  payload : List UInt8
  serial : Nat
  deriving DecidableEq

/-- A value-initialised outbound datagram. -/
def OutboundDatagram.empty : OutboundDatagram := ⟨false, [], 0⟩

/-- What became of the datagrams of one socket: those that `Send` accepted, those that were retired,
each with the status that the tunnel service reported for it, and the number of those discarded. -/
structure SocketHistory where
  accepted : List OutboundDatagram
  retired : List (OutboundDatagram × ProtocolStatus)
  discarded : Nat
  deriving DecidableEq

/-- `FlowEntry`.  The client is the open session, under the name that the tunnel service has for
it; `completionHandle` is whether the handle is a valid one. -/
structure FlowEntry where
  occupied : Bool
  owner : UInt64
  descriptor : Int
  client : Option TunnelClientId
  completionHandle : Bool
  flow : FlowHandle
  remote : TunnelFlowEndpoint
  submission : TunnelFlowSubmissionState
  inbound : Fin maximumInboundDatagramsPerSocket → InboundDatagram
  outboundSlots : List Nat
  queuedDiscarded : Nat
  accepted : List OutboundDatagram
  retired : List (OutboundDatagram × ProtocolStatus)

namespace FlowEntry

/-- A value-initialised entry. -/
def empty : FlowEntry where
  occupied := false
  owner := 0
  descriptor := 0
  client := none
  completionHandle := false
  flow := 0
  remote := .zero
  submission := .empty
  inbound := fun _ => .empty
  outboundSlots := List.replicate maximumQueuedOutboundDatagramsPerSocket 0
  queuedDiscarded := 0
  accepted := []
  retired := []

variable (entry : FlowEntry)

/-- The slots of the queued datagrams, in their order. -/
def queuedSlots : List Nat := entry.outboundSlots.take entry.submission.queued

/-- What became of the datagrams of this flow. -/
def history : SocketHistory :=
  ⟨entry.accepted, entry.retired, entry.queuedDiscarded⟩

/-- `TakeInbound`: the first occupied inbound datagram. -/
def takeInbound : Option (Fin maximumInboundDatagramsPerSocket) :=
  (List.finRange maximumInboundDatagramsPerSocket).find? fun k => (entry.inbound k).occupied

/-- `AllocateInbound`: the first free inbound datagram. -/
def allocateInbound : Option (Fin maximumInboundDatagramsPerSocket) :=
  (List.finRange maximumInboundDatagramsPerSocket).find? fun k => !(entry.inbound k).occupied

/-- The entry with one inbound datagram written. -/
def setInbound (k : Fin maximumInboundDatagramsPerSocket) (datagram : InboundDatagram) :
    FlowEntry :=
  { entry with inbound := Function.update entry.inbound k datagram }

end FlowEntry

/-- A poll that waits: its caller's socket, the requested events and the deadline, negative when it
has none. -/
structure PendingPoll where
  owner : UInt64
  descriptor : Int
  events : UInt16
  deadlineNanoseconds : Int
  deriving DecidableEq, Repr

/-- The state of the worker: `g_flows`, `g_outbound_datagrams` and `g_outbound_datagram_count`, the
pending polls, the root session, the requests of other threads and the visible state of the
discovery service. -/
structure TunnelFlowWorker where
  flows : Fin maximumSockets → FlowEntry
  outboundDatagrams : Fin maximumQueuedOutboundDatagrams → OutboundDatagram
  outboundDatagramCount : Nat
  pendingPolls : List PendingPoll
  rootOpen : Bool
  maximumUdpPayloadBytes : Nat
  discoveryRequested : Bool
  invalidationRequested : Bool
  availability : TunnelAvailabilityState
  sendDiscarded : Nat
  serial : Nat
  ended : List SocketHistory

namespace TunnelFlowWorker

/-- A worker that has just started. -/
def initial : TunnelFlowWorker where
  flows := fun _ => .empty
  outboundDatagrams := fun _ => .empty
  outboundDatagramCount := 0
  pendingPolls := []
  rootOpen := false
  maximumUdpPayloadBytes := 0
  discoveryRequested := false
  invalidationRequested := false
  availability := .bypass
  sendDiscarded := 0
  serial := 0
  ended := []

variable (worker : TunnelFlowWorker) (i : Fin maximumSockets)

/-- The worker with one flow entry written. -/
def setFlow (entry : FlowEntry) : TunnelFlowWorker :=
  { worker with flows := Function.update worker.flows i entry }

/-- The worker with the submission state of one flow written. -/
def setSubmission (submission : TunnelFlowSubmissionState) : TunnelFlowWorker :=
  worker.setFlow i { worker.flows i with submission := submission }

def findFlow (owner : UInt64) (descriptor : Int) : Option (Fin maximumSockets) :=
  (List.finRange maximumSockets).find? fun i =>
    (worker.flows i).occupied && (worker.flows i).owner == owner &&
      (worker.flows i).descriptor == descriptor

/-- The free entry that `AllocateFlow` takes, when no entry has the socket. -/
def freeFlow : Option (Fin maximumSockets) :=
  (List.finRange maximumSockets).find? fun i => !(worker.flows i).occupied

/-! ## The outbound slots -/

/-- The common loop of `ReleaseQueuedOutbound` and `RetireQueuedOutboundPrefix`: the named slots are
emptied one by one.  A slot that is out of range or empty aborts. -/
def emptySlots (worker : TunnelFlowWorker) : List Nat → Option TunnelFlowWorker
  | [] => some worker
  | slot :: slots =>
    if h : slot < maximumQueuedOutboundDatagrams then
      if (worker.outboundDatagrams ⟨slot, h⟩).occupied then
        emptySlots { worker with
          outboundDatagrams := Function.update worker.outboundDatagrams ⟨slot, h⟩ .empty
          outboundDatagramCount := worker.outboundDatagramCount - 1 } slots
      else none
    else none

/-- `ReleaseQueuedOutbound`; `counted` is whether the metrics are passed. -/
def releaseQueuedOutbound (counted : Bool) : Option TunnelFlowWorker :=
  (worker.emptySlots (worker.flows i).queuedSlots).map fun released =>
    let queued := (released.flows i).submission.queued
    { released with
      flows := Function.update released.flows i
        { released.flows i with queuedDiscarded := (released.flows i).queuedDiscarded + queued }
      sendDiscarded := if counted then released.sendDiscarded + queued else released.sendDiscarded }

def discardQueuedOutbound (counted : Bool) : Option TunnelFlowWorker :=
  (worker.releaseQueuedOutbound i counted).map fun released =>
    released.setSubmission i
      ((released.flows i).submission.retire (worker.flows i).submission.queued)

/-- `ResetFlow`.  What became of the datagrams of the flow is kept. -/
def resetFlow (counted : Bool) : Option TunnelFlowWorker :=
  (worker.discardQueuedOutbound i counted).map fun discarded =>
    { discarded with
      flows := Function.update discarded.flows i .empty
      ended := discarded.ended ++ [(discarded.flows i).history] }

def resetAllFlows : Option TunnelFlowWorker :=
  (List.finRange maximumSockets).foldlM
    (fun worker i => if (worker.flows i).occupied then worker.resetFlow i true else some worker)
    worker

/-- `CloseFlow`.  The answer of the tunnel service to the close of the flow is ignored. -/
def closeFlow : Option TunnelFlowWorker :=
  worker.resetFlow i true

/-- The submission of a flow is closed and what it has queued is discarded. -/
def terminate : Option TunnelFlowWorker :=
  (worker.setSubmission i (worker.flows i).submission.close).discardQueuedOutbound i true

/-- The slot that `AllocateOutbound` takes. -/
def freeOutbound : Option (Fin maximumQueuedOutboundDatagrams) :=
  (List.finRange maximumQueuedOutboundDatagrams).find? fun k =>
    !(worker.outboundDatagrams k).occupied

/-- `QueueOutbound`.  The index of the allocated slot is one of the table, so that the check in
`OutboundSlotIndex` is the bound of its type. -/
def queueOutbound (payload : List UInt8) : Bool × TunnelFlowWorker :=
  let entry := worker.flows i
  if !entry.submission.canAccept maximumQueuedOutboundDatagramsPerSocket ||
      worker.outboundDatagramCount == maximumQueuedOutboundDatagrams then (false, worker)
  else
    match worker.freeOutbound with
    | none => (false, worker)
    | some k =>
      let datagram : OutboundDatagram := ⟨true, payload, worker.serial⟩
      (true, { worker with
        outboundDatagrams := Function.update worker.outboundDatagrams k datagram
        outboundDatagramCount := worker.outboundDatagramCount + 1
        flows := Function.update worker.flows i { entry with
          outboundSlots := entry.outboundSlots.set entry.submission.queued k
          submission := entry.submission.enqueue
          accepted := entry.accepted ++ [datagram] }
        serial := worker.serial + 1 })

/-- The loop that moves the slot numbers behind a retired prefix to the front. -/
def shiftSlots (slots : List Nat) (count remaining : Nat) : List Nat :=
  (List.range remaining).foldl (fun slots index => slots.set index (slots.getD (index + count) 0))
    slots

/-- `RetireQueuedOutboundPrefix`; `reported` is the prefix of the submitted batch, with what the
tunnel service reported for it. -/
def retireQueuedOutboundPrefix (count : Nat) (reported : List (OutboundDatagram × ProtocolStatus)) :
    Option TunnelFlowWorker :=
  let entry := worker.flows i
  if count ≤ entry.submission.queued then
    (worker.emptySlots (entry.outboundSlots.take count)).map fun emptied =>
      emptied.setFlow i { entry with
        outboundSlots := shiftSlots entry.outboundSlots count (entry.submission.queued - count)
        submission := entry.submission.retire count
        retired := entry.retired ++ reported }
  else none

/-! ## Invalidation and discovery -/

/-- `TunnelDiscoveryService::ReportTunnelClientFailure`, with the invalidation it requests. -/
def reportTunnelClientFailure : TunnelFlowWorker :=
  { worker with availability := .bypass, invalidationRequested := true }

/-- `TunnelDiscoveryService::RequestForInterceptedTraffic`; `due` is whether the retry time has
come. -/
def requestForInterceptedTraffic (due : Bool) : TunnelFlowWorker :=
  if worker.availability = .bypass ∧ due = true then
    { worker with availability := .discoveryPending, discoveryRequested := true }
  else worker

def invalidateTunnelState : Option TunnelFlowWorker :=
  worker.resetAllFlows.map fun worker =>
    { worker with maximumUdpPayloadBytes := 0, rootOpen := false }

/-- `DiscoverTunnelService`.  The answer is the maximum payload of a compatible service that could
be opened, and nothing where the service is absent, cannot be opened or is not compatible. -/
def discoverTunnelService (service : Option Nat) : Option TunnelFlowWorker :=
  if worker.availability = .discoveryPending then
    worker.resetAllFlows.map fun worker =>
      match service with
      | none => { worker with rootOpen := false, availability := .bypass }
      | some maximum =>
        { worker with
          rootOpen := true
          availability := .ready
          maximumUdpPayloadBytes := min maximum maximumQueuedOutboundPayloadBytes }
  else some worker

/-- The first exchange of `ProcessControlSignals`. -/
def takeInvalidation : Option TunnelFlowWorker :=
  if worker.invalidationRequested then
    { worker with invalidationRequested := false }.invalidateTunnelState
  else some worker

/-- The second exchange of `ProcessControlSignals`. -/
def takeDiscovery (service : Option Nat) : Option TunnelFlowWorker :=
  if worker.discoveryRequested then
    { worker with discoveryRequested := false }.discoverTunnelService service
  else some worker

def processControlSignals (service : Option Nat) : Option TunnelFlowWorker :=
  worker.takeInvalidation.bind fun worker => worker.takeDiscovery service

/-! ## Completions -/

/-- What the tunnel service answers to `ReceiveCompletions`: a failed call, or a status, a number of
records, the record buffer and the payload buffer. -/
inductive ReceiveResponse where
  | failed
  | received (status : ProtocolStatus) (count : Nat) (records : List CompletionRecord)
      (payload : List UInt8)

def validateTunnelCompletionDrain (count recordCapacity : Nat) (records : List CompletionRecord)
    (payloadCapacity : Nat) : Bool :=
  decide (count ≤ recordCapacity) && decide (count ≤ records.length) &&
    (records.take count).all fun record =>
      record.type != .inboundDatagram ||
        (decide (record.payloadSize ≤ maximumUdpPayloadStorageBytes) &&
          decide (record.payloadOffset ≤ payloadCapacity) &&
          decide (record.payloadSize ≤ payloadCapacity - record.payloadOffset))

/-- The size of `g_completion_payload`. -/
def completionPayloadCapacity : Nat := maximumBatchEntries * maximumUdpPayloadStorageBytes

/-- An inbound datagram goes to the first free place of its flow, or is dropped. -/
def storeInbound (payload : List UInt8) (record : CompletionRecord) : TunnelFlowWorker :=
  match (worker.flows i).allocateInbound with
  | none => worker
  | some k =>
    worker.setFlow i ((worker.flows i).setInbound k
      ⟨true, toEndpoint record.remote,
        (payload.drop record.payloadOffset).take record.payloadSize⟩)

/-- The body of the loop over the received records. -/
def receiveRecord (payload : List UInt8) (worker : TunnelFlowWorker) (record : CompletionRecord) :
    Option TunnelFlowWorker :=
  let entry := worker.flows i
  if record.flow ≠ entry.flow then some worker
  else if entry.submission.closed then some worker
  else match record.type with
    | .flowStateChanged => if record.flowState = .closed then worker.terminate i else some worker
    | .writable => some (worker.setSubmission i entry.submission.noteWritable)
    | .policyChanged => some worker
    | .inboundDatagram =>
      if sameEndpoint record.remote entry.remote then some (worker.storeInbound i payload record)
      else some worker

/-- One round of the loop of `DrainCompletions`, and whether another follows. -/
def drainRound : ReceiveResponse → Option (Bool × TunnelFlowWorker)
  | .failed => (worker.terminate i).map fun worker => (false, worker.reportTunnelClientFailure)
  | .received status count records payload =>
    if status = .queueEmpty then some (false, worker)
    else if status ≠ .success then (worker.terminate i).map fun worker => (false, worker)
    else if validateTunnelCompletionDrain count maximumBatchEntries records
        completionPayloadCapacity then
      ((records.take count).foldlM (receiveRecord i payload) worker).map fun worker =>
        (true, worker)
    else (worker.terminate i).map fun worker => (false, worker.reportTunnelClientFailure)

/-- The loop of `DrainCompletions` over the answers of the tunnel service; after the listed ones it
answers that its queue is empty. -/
def drainRounds (worker : TunnelFlowWorker) (i : Fin maximumSockets) :
    List ReceiveResponse → Option TunnelFlowWorker
  | [] => some worker
  | response :: responses =>
    match worker.drainRound i response with
    | none => none
    | some (false, worker) => some worker
    | some (true, worker) => drainRounds worker i responses

/-- Whether `DrainCompletions` asks the tunnel service at all. -/
def drains (entry : FlowEntry) : Bool := entry.client.isSome && !entry.submission.closed

def drainCompletions (responses : List ReceiveResponse) : Option TunnelFlowWorker :=
  if drains (worker.flows i) then worker.drainRounds i responses else some worker

def drainAllCompletions (responses : Fin maximumSockets → List ReceiveResponse) :
    Option TunnelFlowWorker :=
  (List.finRange maximumSockets).foldlM
    (fun worker i =>
      if (worker.flows i).occupied then worker.drainCompletions i (responses i) else some worker)
    worker

/-! ## Submission of queued datagrams -/

/-- The size of `g_batch_payload`. -/
def batchPayloadCapacity : Nat := maximumBatchEntriesPerSubmission * maximumQueuedOutboundPayloadBytes

/-- The loop that copies the queued datagrams into the batch; `payloadSize` is what the batch holds
so far. -/
def buildBatch (worker : TunnelFlowWorker) : Nat → List Nat → Option (List OutboundDatagram)
  | _, [] => some []
  | payloadSize, slot :: slots =>
    if h : slot < maximumQueuedOutboundDatagrams then
      let datagram := worker.outboundDatagrams ⟨slot, h⟩
      if datagram.occupied ∧ datagram.payload.length ≤ batchPayloadCapacity - payloadSize then
        (worker.buildBatch (payloadSize + datagram.payload.length) slots).map (datagram :: ·)
      else none
    else none

/-- The local variables of the loop over the dispositions. -/
structure BatchVerdict where
  acceptedCount : Nat
  queueFull : Bool
  terminalFailure : Bool
  deriving DecidableEq, Repr

/-- The body of the loop over the dispositions. -/
def BatchVerdict.note (verdict : BatchVerdict) (status : ProtocolStatus) : BatchVerdict :=
  if status = .success ∧ verdict.queueFull = false ∧ verdict.terminalFailure = false then
    { verdict with acceptedCount := verdict.acceptedCount + 1 }
  else if status = .queueFull ∧ verdict.terminalFailure = false then
    { verdict with queueFull := true }
  else { verdict with terminalFailure := true }

/-- The loop over the dispositions. -/
def BatchVerdict.of (statuses : List ProtocolStatus) : BatchVerdict :=
  statuses.foldl BatchVerdict.note ⟨0, false, false⟩

/-- What the tunnel service answers to `SendUdpDatagramBatch`: a failed call, or the contents of the
disposition buffer. -/
abbrev BatchResponse := Option (Fin maximumBatchEntriesPerSubmission → ProtocolStatus)

/-- What follows the loop over the dispositions. -/
def applyVerdict (reported : List (OutboundDatagram × ProtocolStatus)) (verdict : BatchVerdict) :
    Option (Bool × TunnelFlowWorker) :=
  let retired :=
    if verdict.acceptedCount ≠ 0 then
      worker.retireQueuedOutboundPrefix i verdict.acceptedCount
        (reported.take verdict.acceptedCount)
    else some worker
  retired.bind fun worker =>
    let finished :=
      if verdict.terminalFailure then worker.terminate i
      else if verdict.queueFull then
        some (worker.setSubmission i (worker.flows i).submission.noteQueueFull)
      else some worker
    finished.map fun worker => (decide (verdict.acceptedCount ≠ 0), worker)

/-- The body of the loop over the flows, with whether it made progress. -/
def submitFlow (response : BatchResponse) : Option (Bool × TunnelFlowWorker) :=
  let entry := worker.flows i
  if entry.occupied && entry.submission.canSubmit then
    let entryCount := min entry.submission.queued maximumBatchEntriesPerSubmission
    (worker.buildBatch 0 (entry.outboundSlots.take entryCount)).bind fun batch =>
      match response with
      | none => (worker.terminate i).map fun worker => (false, worker.reportTunnelClientFailure)
      | some dispositions =>
        let statuses := (List.ofFn dispositions).take entryCount
        worker.applyVerdict i (batch.zip statuses) (.of statuses)
  else some (false, worker)

/-- One pass of the outer loop over the flows, with whether it made progress. -/
def submitPass (responses : Fin maximumSockets → BatchResponse) :
    Option (Bool × TunnelFlowWorker) :=
  (List.finRange maximumSockets).foldlM
    (fun (state : Bool × TunnelFlowWorker) i =>
      (state.2.submitFlow i (responses i)).map fun (progress, worker) =>
        (state.1 || progress, worker))
    (false, worker)

/-- The outer loop, with whether it came to its end; `passes` bounds the number of its rounds. -/
def submitPasses (responses : Nat → Fin maximumSockets → BatchResponse) :
    Nat → TunnelFlowWorker → Option (Bool × TunnelFlowWorker)
  | 0, worker => some (false, worker)
  | passes + 1, worker =>
    match worker.submitPass (responses passes) with
    | none => none
    | some (false, worker) => some (true, worker)
    | some (true, worker) => submitPasses responses passes worker

/-- `SubmitQueuedDatagrams`: a pass that made progress retired a datagram, so that one pass more
than there are slots is enough. -/
def submitQueuedDatagrams (responses : Nat → Fin maximumSockets → BatchResponse) :
    Option (Bool × TunnelFlowWorker) :=
  submitPasses responses (maximumQueuedOutboundDatagrams + 1) worker

/-! ## Polls -/

def pollIn : UInt16 := 0x1

def pollOut : UInt16 := 0x4

def pollHup : UInt16 := 0x10

def revents (inboundAvailable outboundAdmissionAvailable closed : Bool) (requestedEvents : UInt16) :
    UInt16 :=
  if closed then pollHup
  else
    (if inboundAvailable && requestedEvents &&& pollIn != 0 then pollIn else 0) |||
      (if outboundAdmissionAvailable && requestedEvents &&& pollOut != 0 then pollOut else 0)

/-- The events of a flow that are ready. -/
def readiness (events : UInt16) : UInt16 :=
  let entry := worker.flows i
  revents entry.takeInbound.isSome
    (entry.submission.canAccept maximumQueuedOutboundDatagramsPerSocket &&
      decide (worker.outboundDatagramCount < maximumQueuedOutboundDatagrams))
    entry.submission.closed events

/-- The answer that `CompletePendingPolls` has for a poll, if it completes it. -/
def pollAnswer (now : Int) (poll : PendingPoll) : Option (TunnelFlowResult × UInt16) :=
  match worker.findFlow poll.owner poll.descriptor with
  | none => some (.closed, pollHup)
  | some i =>
    if (worker.flows i).submission.closed then some (.closed, pollHup)
    else if worker.readiness i poll.events ≠ 0 then
      some (.opened, worker.readiness i poll.events)
    else if 0 ≤ poll.deadlineNanoseconds ∧ poll.deadlineNanoseconds ≤ now then
      some (.wouldBlock, 0)
    else none

def completePendingPolls (now : Int) : TunnelFlowWorker :=
  { worker with
    pendingPolls := worker.pendingPolls.filter fun poll => (worker.pollAnswer now poll).isNone }

/-! ## Operations -/

/-- `Operation`, with its type and the arguments that type has. -/
inductive Operation where
  | openFlow (owner : UInt64) (descriptor : Int) (remote : TunnelFlowEndpoint)
  | send (owner : UInt64) (descriptor : Int) (input : List UInt8)
  | receive (owner : UInt64) (descriptor : Int) (outputSize : Nat)
  | poll (owner : UInt64) (descriptor : Int) (events : UInt16) (timeoutMilliseconds : Int)
  | close (owner : UInt64) (descriptor : Int)
  | closeOwner (owner : UInt64)

/-- What the tunnel service answers while a flow is opened: the client session, the status and the
handle of the flow, and whether the completion event was obtained. -/
structure OpenResponse where
  client : Option TunnelClientId
  opened : Option (ProtocolStatus × FlowHandle)
  completionEvent : Bool

/-- What an operation is answered: its result, what it received and the events that are ready.
`complete` is the answer of `Dispatch`. -/
structure OperationAnswer where
  complete : Bool
  result : TunnelFlowResult
  received : List UInt8
  remote : TunnelFlowEndpoint
  revents : UInt16
  deriving DecidableEq

/-- The answer of an operation that completes with a result only. -/
def OperationAnswer.of (result : TunnelFlowResult) : OperationAnswer := ⟨true, result, [], .zero, 0⟩

/-- The `close_matching` of `Dispatch`. -/
def closeMatching (selected : FlowEntry → Bool) : Option TunnelFlowWorker :=
  (List.finRange maximumSockets).foldlM
    (fun worker i =>
      if (worker.flows i).occupied && selected (worker.flows i) then worker.closeFlow i
      else some worker)
    worker

/-- What `Dispatch` does once it has an entry for the flow. -/
def openInto (remote : TunnelFlowEndpoint) (response : OpenResponse) :
    Option (TunnelFlowResult × TunnelFlowWorker) :=
  match response.client with
  | none =>
    (worker.resetFlow i false).map fun worker =>
      (.tunnelUnavailable, worker.reportTunnelClientFailure)
  | some client =>
    let worker := worker.setFlow i { worker.flows i with client := some client }
    match response.opened with
    | none =>
      (worker.resetFlow i false).map fun worker =>
        (.tunnelUnavailable, worker.reportTunnelClientFailure)
    | some (status, handle) =>
      if mapOpenStatus status ≠ .opened then
        (worker.resetFlow i false).map fun worker => (mapOpenStatus status, worker)
      else
        let worker := worker.setFlow i { worker.flows i with flow := handle, remote := remote }
        if response.completionEvent then
          some (.opened,
            worker.setFlow i { worker.flows i with completionHandle := true })
        else
          (worker.closeFlow i).map fun worker => (.socketError, worker.reportTunnelClientFailure)

/-- The `Open` branch of `Dispatch`. -/
def dispatchOpen (owner : UInt64) (descriptor : Int) (remote : TunnelFlowEndpoint)
    (response : OpenResponse) : Option (TunnelFlowResult × TunnelFlowWorker) :=
  match worker.findFlow owner descriptor with
  | some i => some (if (worker.flows i).submission.closed then .socketError else .opened, worker)
  | none =>
    if worker.availability ≠ .ready then some (.tunnelUnavailable, worker)
    else if worker.rootOpen = false then some (.tunnelUnavailable, worker.reportTunnelClientFailure)
    else match worker.freeFlow with
      | none => some (.socketError, worker)
      | some i =>
        let entry := worker.flows i
        (worker.setFlow i { entry with
          occupied := true, owner := owner, descriptor := descriptor }).openInto i remote response

/-- The `Send` branch of `Dispatch`. -/
def dispatchSend (input : List UInt8) : TunnelFlowResult × TunnelFlowWorker :=
  if input.length > worker.maximumUdpPayloadBytes ∨
      input.length > maximumQueuedOutboundPayloadBytes then (.messageTooLarge, worker)
  else
    match worker.queueOutbound i input with
    | (false, worker) => (.wouldBlock, worker)
    | (true, worker) => (.opened, worker)

/-- The `Poll` branch of `Dispatch`; a poll that has to wait is not complete. -/
def dispatchPoll (poll : PendingPoll) (timeoutMilliseconds now : Int) :
    OperationAnswer × TunnelFlowWorker :=
  if worker.readiness i poll.events ≠ 0 then
    (⟨true, .opened, [], .zero, worker.readiness i poll.events⟩, worker)
  else if timeoutMilliseconds = 0 then (.of .wouldBlock, worker)
  else
    let deadline := if 0 < timeoutMilliseconds then now + timeoutMilliseconds * 1000000
      else poll.deadlineNanoseconds
    if worker.pendingPolls.length = maximumSockets then (.of .queueFull, worker)
    else
      (⟨false, .socketError, [], .zero, 0⟩,
        { worker with
          pendingPolls := worker.pendingPolls ++ [{ poll with deadlineNanoseconds := deadline }] })

/-- The `Receive` branch of `Dispatch`. -/
def dispatchReceive (outputSize : Nat) : OperationAnswer × TunnelFlowWorker :=
  let entry := worker.flows i
  match entry.takeInbound with
  | none => (.of (if entry.submission.closed then .closed else .wouldBlock), worker)
  | some k =>
    let datagram := entry.inbound k
    (⟨true, .opened, datagram.payload.take outputSize, datagram.remote, 0⟩,
      worker.setFlow i (entry.setInbound k { datagram with occupied := false }))

/-- The branches of `Dispatch` that need an open flow of the socket. -/
def withOpenFlow (owner : UInt64) (descriptor : Int)
    (act : Fin maximumSockets → OperationAnswer × TunnelFlowWorker) :
    OperationAnswer × TunnelFlowWorker :=
  match worker.findFlow owner descriptor with
  | none => (.of .closed, worker)
  | some i => if (worker.flows i).submission.closed then (.of .closed, worker) else act i

def dispatch (response : OpenResponse) (now : Int) :
    Operation → Option (OperationAnswer × TunnelFlowWorker)
  | .close owner descriptor =>
    (worker.closeMatching fun entry => entry.owner == owner && entry.descriptor == descriptor).map
      fun worker => (.of .closed, worker)
  | .closeOwner owner =>
    (worker.closeMatching fun entry => entry.owner == owner).map fun worker =>
      (.of .closed, worker)
  | .openFlow owner descriptor remote =>
    (worker.dispatchOpen owner descriptor remote response).map fun (result, worker) =>
      (.of result, worker)
  | .send owner descriptor input =>
    some (worker.withOpenFlow owner descriptor fun i =>
      (.of (worker.dispatchSend i input).1, (worker.dispatchSend i input).2))
  | .poll owner descriptor events timeoutMilliseconds =>
    some (worker.withOpenFlow owner descriptor fun i =>
      worker.dispatchPoll i ⟨owner, descriptor, events, -1⟩ timeoutMilliseconds now)
  | .receive owner descriptor outputSize =>
    some (worker.withOpenFlow owner descriptor fun i => worker.dispatchReceive i outputSize)

/-! ## Runs -/

/-- What happens to the worker: another thread requests a discovery or an invalidation, or the loop
of `Run` takes one of its steps, with the answers it gets. -/
inductive Action where
  | requestForInterceptedTraffic (due : Bool)
  | requestTunnelInvalidation
  | processControlSignals (service : Option Nat)
  | drainAllCompletions (responses : Fin maximumSockets → List ReceiveResponse)
  | dispatch (operation : Operation) (response : OpenResponse) (now : Int)
  | submitQueuedDatagrams (responses : Nat → Fin maximumSockets → BatchResponse)
  | completePendingPolls (now : Int)

/-- One step of the worker, `none` where it aborts. -/
def step : Action → Option TunnelFlowWorker
  | .requestForInterceptedTraffic due => some (worker.requestForInterceptedTraffic due)
  | .requestTunnelInvalidation => some { worker with invalidationRequested := true }
  | .processControlSignals service => worker.processControlSignals service
  | .drainAllCompletions responses => worker.drainAllCompletions responses
  | .dispatch operation response now => (worker.dispatch response now operation).map Prod.snd
  | .submitQueuedDatagrams responses => (worker.submitQueuedDatagrams responses).map Prod.snd
  | .completePendingPolls now => some (worker.completePendingPolls now)

/-- The runs of the worker.  The steps of the loop come in any order, of which the one of `Run` is a
case. -/
def runs : Machine TunnelFlowWorker :=
  Machine.ofActions (· = initial) (fun _ _ => True) step

end TunnelFlowWorker

end WireguardNx.Mitm
