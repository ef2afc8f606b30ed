import WireguardNx.Lib.Slots
import WireguardNx.Laws.FlowSlots

/-!
# What the flow plane can do

An operation of the plane is a sequence of moves at one time: a flow is touched, committed,
discarded, reserved or closed, the policy is replaced, a completion is queued or drained, a client
comes or goes, tombstones expire.  What an invariant has to survive is then one case per move.  The
result of the module is `apply_moves`: every operation is such a sequence.
-/

namespace WireguardNx.Tunnel

open Wireguard WireguardNx.Runtime Relation Function List

variable {notify : Bool} {reason : FlowTerminalReason} {other : TunnelFlowPlane}

namespace TunnelFlowPlane

variable {plane : TunnelFlowPlane} {client : TunnelClientId} {now : Ktime}

/-! ## Operations -/

/-- The operations that change a plane, without the time of the call. -/
inductive PlaneAction where
  | createClient (notifier : Bool)
  | destroyClient (client : TunnelClientId)
  | refreshPolicy (input : TunnelPolicyInput)
  | reserve (client : TunnelClientId) (request : OpenRequest) (availability : TransportAvailability)
  | commit (reservation : FlowReservation)
  | cancel (reservation : FlowReservation)
  | openFlow (client : TunnelClientId) (request : OpenRequest)
      (availability : TransportAvailability)
  | prepareSend (client : TunnelClientId) (handle : FlowHandle) (payloadSize : Nat)
      (payload : List UInt8) (availability : TransportAvailability)
  | completeSend (datagram : PreparedDatagram) (status : ProtocolStatus)
  | notify (peer : PeerIdentity)
  | receive (client : TunnelClientId) (recordCount payloadSize : Nat)
  | closeFlow (client : TunnelClientId) (handle : FlowHandle)
  | deliver (peer : PeerIdentity) (policyGeneration : UInt32) (adapterToken : UInt64)
      (remote : Ipv4Endpoint) (payload : List UInt8)
  | invalidate (peer : PeerIdentity) (reason : FlowTerminalReason)

def apply (plane : TunnelFlowPlane) (now : Ktime) : PlaneAction → TunnelFlowPlane
  | .createClient notifier => (plane.createClient notifier).2
  | .destroyClient client => plane.destroyClient client now
  | .refreshPolicy input => plane.refreshPolicy input now
  | .reserve client request availability =>
    (plane.reserveConnectedUdpFlow client request now availability).2
  | .commit reservation => (plane.commitFlowReservation reservation).2
  | .cancel reservation => plane.cancelFlowReservation reservation
  | .openFlow client request availability =>
    (plane.openConnectedUdpFlow client request now availability).2
  | .prepareSend client handle payloadSize payload availability =>
    (plane.prepareSend client handle payloadSize payload availability now).2
  | .completeSend datagram status => plane.completeSend datagram status
  | .notify peer => plane.notifyOutboundCapacityAvailable peer
  | .receive client recordCount payloadSize =>
    (plane.receiveCompletions client recordCount payloadSize).2
  | .closeFlow client handle => (plane.closeFlow client handle now).2
  | .deliver peer policyGeneration adapterToken remote payload =>
    (plane.deliverInboundUdpDatagram peer policyGeneration adapterToken remote payload now).2
  | .invalidate peer reason => plane.invalidatePeerActivation peer reason now

/-! ## Moves -/

/-- A plane with a datagram stored in a free slab and announced to the client of its flow. -/
def store (plane : TunnelFlowPlane) (i : Fin maximumFlows) (k : Fin inboundPacketSlabCount)
    (j : Fin maximumClientContexts) (payload : List UInt8) (now : Ktime) : TunnelFlowPlane :=
  let flow := plane.flows i
  let plane := (plane.setSlab k ⟨payload, true⟩).setFlow i { flow with
    inboundOccupancy := flow.inboundOccupancy + 1
    lastActivityAt := now }
  plane.setClient j (append { plane.clients j with
    dataCompletionCount := (plane.clients j).dataCompletionCount + 1 }
    ⟨plane.dataCompletion i k, some k⟩)

def addClient (plane : TunnelFlowPlane) (j : Fin maximumClientContexts) (generation next : UInt32)
    (notifier : Bool) : TunnelFlowPlane :=
  { plane with nextClientGeneration := next }.setClient j
    { ClientSlot.empty with allocated := true, generation, notifier }

def forgetClient (plane : TunnelFlowPlane) (j : Fin maximumClientContexts) : TunnelFlowPlane :=
  ((plane.clients j).completions.foldl
    (fun plane entry => plane.releaseInboundSlab entry.inboundSlabSlot) plane).setClient j .empty

/-- What the moves of an operation may include: reservations, and changes that no client hears of. -/
structure MoveScope where
  reserves : Bool
  silent : Bool

def PlaneAction.scope : PlaneAction → MoveScope
  | .reserve .. | .openFlow .. => ⟨true, false⟩
  | .destroyClient _ | .receive .. => ⟨false, true⟩
  | _ => ⟨false, false⟩

/-- One move of the plane at a time. -/
inductive PlaneMove (now : Ktime) (scope : MoveScope) : TunnelFlowPlane → TunnelFlowPlane → Prop
  /-- A flow notes something that no invariant is about. -/
  | touch (plane : TunnelFlowPlane) (i : Fin maximumFlows) (policyGeneration : UInt32)
      (lastActivityAt : Ktime) (writableWaiter : Bool) :
      PlaneMove now scope plane (plane.setFlow i
        { plane.flows i with policyGeneration, lastActivityAt, writableWaiter })
  | commit (plane : TunnelFlowPlane) (i : Fin maximumFlows) (hlive : isLive (plane.flows i) = true)
      (hpend : (plane.flows i).pending = true) :
      PlaneMove now scope plane (plane.setFlow i { plane.flows i with pending := false })
  | discard (plane : TunnelFlowPlane) (i : Fin maximumFlows)
      (halloc : (plane.flows i).allocated = true) (hpend : (plane.flows i).pending = true) :
      PlaneMove now scope plane (plane.setFlow i .empty)
  /-- A slot is given to a flow with a port that no live flow and no tombstone has for its remote. -/
  | reserve (plane : TunnelFlowPlane) (client : TunnelClientId) (request : OpenRequest)
      (i : Fin maximumFlows) (j : Fin maximumClientContexts) (port : UInt16)
      (hres : scope.reserves = true)
      (hclient : plane.findClient client = some j) (hfree : isLive (plane.flows i) = false)
      (hquota : plane.ownedFlows client < maximumFlowsPerClient)
      (hroom : plane.liveFlows < plane.freeTombstones) (hport : firstVirtualSourcePort ≤ port)
      (hunused : plane.isPortInUse port request.remote = false)
      (huntombed : plane.isTombstoned plane.policy.tunnelSource port request.remote now = false) :
      PlaneMove now scope plane (plane.writeReservation client request now i port).2
  | close (plane : TunnelFlowPlane) (i : Fin maximumFlows) (reason : FlowTerminalReason)
      (notify : Bool) (hnotify : notify = true ∨ scope.silent = true)
      (hopen : isOpen (plane.flows i) = true) :
      PlaneMove now scope plane (plane.closeFlowSlot i reason now notify)
  | setPolicy (plane : TunnelFlowPlane) (policy : RoutingPolicy) (policyGeneration next : UInt32) :
      PlaneMove now scope plane
        { plane with policy, policyGeneration, nextPolicyGeneration := next }
  | announce (plane : TunnelFlowPlane) (j : Fin maximumClientContexts)
      (halloc : (plane.clients j).allocated = true) :
      PlaneMove now scope plane (plane.enqueueControlCompletion
        ⟨UInt8.ofNat j, (plane.clients j).generation⟩ plane.policyCompletion)
  | wake (plane : TunnelFlowPlane) (i : Fin maximumFlows) (hopen : isOpen (plane.flows i) = true) :
      PlaneMove now scope plane
        ((plane.setFlow i { plane.flows i with writableWaiter := false }).enqueueControlCompletion
          (plane.flows i).client
          (writableCompletion i { plane.flows i with writableWaiter := false }))
  | store (plane : TunnelFlowPlane) (i : Fin maximumFlows) (k : Fin inboundPacketSlabCount)
      (j : Fin maximumClientContexts) (payload : List UInt8)
      (hopen : isOpen (plane.flows i) = true)
      (hoccupancy : (plane.flows i).inboundOccupancy < maximumInboundDatagramsPerFlow)
      (hslab : (plane.inboundSlabs k).allocated = false)
      (hclient : plane.findClient (plane.flows i).client = some j)
      (hdata : (plane.clients j).dataCompletionCount < dataCompletionCapacity)
      (hlen : (plane.clients j).completions.length < completionQueueCapacity)
      (hpayload : payload.length ≤ maximumUdpPayloadStorageBytes) :
      PlaneMove now scope plane (plane.store i k j payload now)
  | wipe (plane : TunnelFlowPlane) (k : Fin inboundPacketSlabCount)
      (hslab : (plane.inboundSlabs k).allocated = false) :
      PlaneMove now scope plane (plane.setSlab k ⟨[], false⟩)
  | drain (plane : TunnelFlowPlane) (client : TunnelClientId) (j : Fin maximumClientContexts)
      (entry : CompletionEntry) (rest : List CompletionEntry) (hsilent : scope.silent = true)
      (hclient : plane.findClient client = some j)
      (hqueue : (plane.clients j).completions = entry :: rest) :
      PlaneMove now scope plane (plane.dropFront client j entry rest)
  | create (plane : TunnelFlowPlane) (j : Fin maximumClientContexts) (generation next : UInt32)
      (notifier : Bool) (hfree : (plane.clients j).allocated = false)
      (hgen : generation ≠ 0) :
      PlaneMove now scope plane (plane.addClient j generation next notifier)
  | forget (plane : TunnelFlowPlane) (client : TunnelClientId) (j : Fin maximumClientContexts)
      (hsilent : scope.silent = true) (hclient : plane.findClient client = some j)
      (hnone : ∀ i, (plane.flows i).client = client → isLive (plane.flows i) = false) :
      PlaneMove now scope plane (plane.forgetClient j)
  | expire (plane : TunnelFlowPlane) : PlaneMove now scope plane (plane.clearExpiredTombstones now)
  | advance (plane : TunnelFlowPlane) (next : UInt16) (hnext : firstVirtualSourcePort ≤ next) :
      PlaneMove now scope plane { plane with nextVirtualSourcePort := next }

/-! ## What the parts of an operation leave alone -/

section Frames

variable {i : Fin maximumFlows} {j : Fin maximumClientContexts} {completion : CompletionRecord}
  {flow : FlowSlot}

/-- Two planes with the same clients, whatever is queued for them. -/
def SameClients (plane other : TunnelFlowPlane) : Prop :=
  ∀ j, (other.clients j).allocated = (plane.clients j).allocated ∧
    (other.clients j).generation = (plane.clients j).generation

theorem SameClients.refl (plane : TunnelFlowPlane) : SameClients plane plane :=
  fun _ => ⟨rfl, rfl⟩

theorem SameClients.trans {first second third : TunnelFlowPlane} (h : SameClients first second)
    (h' : SameClients second third) : SameClients first third :=
  fun j => ⟨(h' j).1.trans (h j).1, (h' j).2.trans (h j).2⟩

theorem SameClients.findClient (h : SameClients plane other) (client : TunnelClientId) :
    other.findClient client = plane.findClient client :=
  findClient_congr h

/-- A client slot that is written keeps who its client is. -/
theorem SameClients.setClient {slot : ClientSlot}
    (halloc : slot.allocated = (plane.clients j).allocated)
    (hgen : slot.generation = (plane.clients j).generation) :
    SameClients plane (plane.setClient j slot) := by
  intro j'
  by_cases hj : j' = j
  · subst hj
    simp only [setClient_clients, update_self]
    exact ⟨halloc, hgen⟩
  · simp only [setClient_clients, update_of_ne hj, and_self]

theorem append_allocated (slot : ClientSlot) (entry : CompletionEntry) :
    (append slot entry).allocated = slot.allocated ∧
      (append slot entry).generation = slot.generation := by
  unfold append notifyIfNeeded
  split <;> exact ⟨rfl, rfl⟩

@[simp] theorem append_completions (slot : ClientSlot) (entry : CompletionEntry) :
    (append slot entry).completions = slot.completions ++ [entry] := by
  unfold append notifyIfNeeded
  split <;> rfl

@[simp] theorem append_dataCompletionCount (slot : ClientSlot) (entry : CompletionEntry) :
    (append slot entry).dataCompletionCount = slot.dataCompletionCount := by
  unfold append notifyIfNeeded
  split <;> rfl

/-- A control completion changes the queue of its client at most. -/
theorem enqueueControlCompletion_cases (plane : TunnelFlowPlane) (client : TunnelClientId)
    (completion : CompletionRecord) : plane.enqueueControlCompletion client completion = plane ∨
      ∃ j slot, plane.findClient client = some j ∧
        slot.allocated = (plane.clients j).allocated ∧
        slot.generation = (plane.clients j).generation ∧
        slot.dataCompletionCount = (plane.clients j).dataCompletionCount ∧
        (coalesce completion (plane.clients j).completions = some slot.completions ∨
          coalesce completion (plane.clients j).completions = none ∧
          (plane.clients j).completions.length < completionQueueCapacity ∧
            slot.completions = (plane.clients j).completions ++ [⟨completion, none⟩]) ∧
        plane.enqueueControlCompletion client completion = plane.setClient j slot := by
  unfold enqueueControlCompletion
  split
  · exact .inl rfl
  · rename_i j hclient
    split
    · rename_i completions hcoalesce
      exact .inr ⟨j, { plane.clients j with completions }, hclient, rfl, rfl, rfl, .inl hcoalesce,
        rfl⟩
    · rename_i hcoalesce
      split
      · exact .inl rfl
      · rename_i hroom
        exact .inr ⟨j, _, hclient, (append_allocated _ _).1, (append_allocated _ _).2,
          append_dataCompletionCount _ _,
          .inr ⟨hcoalesce, Nat.lt_of_not_le hroom, append_completions _ _⟩, rfl⟩

theorem enqueueControlCompletion_sameClients :
    SameClients plane (plane.enqueueControlCompletion client completion) := by
  rcases enqueueControlCompletion_cases plane client completion with h | ⟨j, slot, _, ha, hg, _, _, h⟩
  · rw [h]
    exact .refl plane
  · rw [h]
    exact .setClient ha hg

@[simp] theorem enqueueControlCompletion_flows :
    (plane.enqueueControlCompletion client completion).flows = plane.flows := by
  rcases enqueueControlCompletion_cases plane client completion with h | ⟨j, slot, _, _, _, _, _, h⟩
    <;> rw [h]
  rfl

@[simp] theorem enqueueControlCompletion_tombstones :
    (plane.enqueueControlCompletion client completion).tombstones = plane.tombstones := by
  rcases enqueueControlCompletion_cases plane client completion with h | ⟨j, slot, _, _, _, _, _, h⟩
    <;> rw [h]
  rfl

/-- Slabs that are released: the others stay. -/
def releaseAll (plane : TunnelFlowPlane) (entries : List CompletionEntry) : TunnelFlowPlane :=
  entries.foldl (fun plane entry => plane.releaseInboundSlab entry.inboundSlabSlot) plane

theorem releaseAll_eq (plane : TunnelFlowPlane) (entries : List CompletionEntry) :
    plane.releaseAll entries = { plane with
      inboundSlabs := fun k => if ∃ entry ∈ entries, entry.inboundSlabSlot = some k then ⟨[], false⟩
        else plane.inboundSlabs k } := by
  induction entries generalizing plane with
  | nil => simp [releaseAll]
  | cons entry entries ih =>
    have hstep : plane.releaseAll (entry :: entries) =
        (plane.releaseInboundSlab entry.inboundSlabSlot).releaseAll entries := rfl
    rw [hstep, ih]
    cases hslab : entry.inboundSlabSlot with
    | none => simp [releaseInboundSlab, hslab]
    | some k' =>
      simp only [releaseInboundSlab, setSlab, mk.injEq, and_true, true_and]
      funext k
      by_cases hk : k' = k
      · subst hk
        simp [hslab]
      · simp [hslab, hk, update_of_ne (Ne.symm hk)]

/-- A tuple is quarantined in a tombstone that is free once the expired ones are cleared. -/
theorem quarantineTuple_cases (plane : TunnelFlowPlane) (flow : FlowSlot) (now : Ktime) :
    plane.quarantineTuple flow now = plane ∧ flow.virtualSourcePort = 0 ∨
      plane.quarantineTuple flow now = plane.clearExpiredTombstones now ∧
        (∀ k, ((plane.clearExpiredTombstones now).tombstones k).occupied) ∨
      ∃ k, ((plane.clearExpiredTombstones now).tombstones k).occupied = false ∧
        plane.quarantineTuple flow now = { plane with
          tombstones := update (plane.clearExpiredTombstones now).tombstones k
            ⟨true, flow.tunnelSource, flow.virtualSourcePort, flow.remote,
              now + reverseTupleQuarantineNs⟩ } := by
  unfold quarantineTuple
  by_cases hport : flow.virtualSourcePort = 0
  · rw [if_pos hport]
    exact .inl ⟨rfl, hport⟩
  · rw [if_neg hport]
    refine .inr ?_
    simp only
    split
    · rename_i hfind
      refine .inl ⟨rfl, fun k => ?_⟩
      have hk := find?_eq_none.mp hfind k (mem_finRange k)
      simpa using hk
    · rename_i k hfind
      refine .inr ⟨k, ?_, rfl⟩
      have hk := find?_some hfind
      simpa using hk

@[simp] theorem quarantineTuple_flows : (plane.quarantineTuple flow now).flows = plane.flows := by
  rcases quarantineTuple_cases plane flow now with ⟨h, _⟩ | ⟨h, _⟩ | ⟨k, _, h⟩ <;> rw [h]
  rfl

@[simp] theorem quarantineTuple_clients :
    (plane.quarantineTuple flow now).clients = plane.clients := by
  rcases quarantineTuple_cases plane flow now with ⟨h, _⟩ | ⟨h, _⟩ | ⟨k, _, h⟩ <;> rw [h]
  rfl

@[simp] theorem quarantineTuple_inboundSlabs :
    (plane.quarantineTuple flow now).inboundSlabs = plane.inboundSlabs := by
  rcases quarantineTuple_cases plane flow now with ⟨h, _⟩ | ⟨h, _⟩ | ⟨k, _, h⟩ <;> rw [h]
  rfl

@[simp] theorem removeFlowCompletions_flows :
    (plane.removeFlowCompletions i j).flows = plane.flows := by
  show (releaseAll plane _).flows = plane.flows
  rw [releaseAll_eq]

@[simp] theorem removeFlowCompletions_tombstones :
    (plane.removeFlowCompletions i j).tombstones = plane.tombstones := by
  show (releaseAll plane _).tombstones = plane.tombstones
  rw [releaseAll_eq]

private theorem removeFlowCompletions_sameClients :
    SameClients plane (plane.removeFlowCompletions i j) := by
  have hclients : (releaseAll plane ((plane.clients j).completions.filter fun entry =>
      decide (entry.record.flow = makeFlowHandle i (plane.flows i)) &&
        entry.inboundSlabSlot.isSome)).clients = plane.clients := by
    rw [releaseAll_eq]
  intro j'
  unfold removeFlowCompletions
  by_cases hj : j' = j
  · subst hj
    simp only [setClient_clients, update_self]
    exact ⟨congrArg ClientSlot.allocated (congrFun hclients j'),
      congrArg ClientSlot.generation (congrFun hclients j')⟩
  · simp only [setClient_clients, update_of_ne hj]
    exact ⟨congrArg ClientSlot.allocated (congrFun hclients j'),
      congrArg ClientSlot.generation (congrFun hclients j')⟩

/-- A plane without the data completions of a flow, if its client is there. -/
def dropData (plane : TunnelFlowPlane) (i : Fin maximumFlows) : TunnelFlowPlane :=
  match plane.findClient (plane.flows i).client with
  | none => plane
  | some j => plane.removeFlowCompletions i j

/-- A plane in which an open flow is closed, before its client hears of it. -/
def withClosed (plane : TunnelFlowPlane) (i : Fin maximumFlows) (reason : FlowTerminalReason)
    (now : Ktime) : TunnelFlowPlane :=
  ((plane.dropData i).quarantineTuple (plane.flows i) now).setFlow i
    (terminated (plane.flows i) reason now)

theorem closeFlowSlot_of_open (h : isOpen (plane.flows i)) :
    plane.closeFlowSlot i reason now notify =
      if notify then (plane.withClosed i reason now).enqueueControlCompletion (plane.flows i).client
        (closeCompletion i (terminated (plane.flows i) reason now))
      else plane.withClosed i reason now := by
  obtain ⟨hlive, hpend⟩ := isOpen_iff.mp h
  obtain ⟨halloc, hclosed⟩ := isLive_iff.mp hlive
  unfold closeFlowSlot
  rw [if_neg (by simp [halloc, hclosed]), if_neg (by simp [hpend])]
  rfl

theorem closeFlowSlot_of_pending (hlive : isLive (plane.flows i))
    (hpend : (plane.flows i).pending) :
    plane.closeFlowSlot i reason now notify = plane.setFlow i .empty := by
  obtain ⟨halloc, hclosed⟩ := isLive_iff.mp hlive
  unfold closeFlowSlot
  simp only [halloc, hclosed, hpend, Bool.true_eq_false, Bool.false_eq_true, or_self, if_false,
    if_true]

theorem closeFlowSlot_of_not_live (h : isLive (plane.flows i) = false) :
    plane.closeFlowSlot i reason now notify = plane := by
  unfold closeFlowSlot
  rw [if_pos (not_isLive_iff.mp h)]

private theorem dropData_flows : (plane.dropData i).flows = plane.flows := by
  unfold dropData
  split
  · rfl
  · exact removeFlowCompletions_flows

theorem dropData_tombstones : (plane.dropData i).tombstones = plane.tombstones := by
  unfold dropData
  split
  · rfl
  · exact removeFlowCompletions_tombstones

theorem dropData_sameClients : SameClients plane (plane.dropData i) := by
  unfold dropData
  split
  · exact .refl plane
  · exact removeFlowCompletions_sameClients

theorem withClosed_flows : (plane.withClosed i reason now).flows =
    update plane.flows i (terminated (plane.flows i) reason now) := by
  unfold withClosed
  rw [setFlow_flows, quarantineTuple_flows, dropData_flows]

theorem withClosed_clients :
    (plane.withClosed i reason now).clients = (plane.dropData i).clients := by
  unfold withClosed
  rw [setFlow_clients, quarantineTuple_clients]

/-- A slot is written by its own closing only, and holds no live flow then. -/
theorem closeFlowSlot_flows (plane : TunnelFlowPlane) (i : Fin maximumFlows)
    (reason : FlowTerminalReason) (now : Ktime) (notify : Bool) : ∃ flow, isLive flow = false ∧
      (plane.closeFlowSlot i reason now notify).flows = update plane.flows i flow := by
  rcases flow_cases (plane.flows i) with hopen | ⟨hlive, hpend⟩ | hdead
  · refine ⟨terminated (plane.flows i) reason now, ?_, ?_⟩
    · simp [isLive, terminated]
    · rw [closeFlowSlot_of_open hopen, ← withClosed_flows]
      split
      · exact enqueueControlCompletion_flows
      · rfl
  · exact ⟨.empty, rfl, by rw [closeFlowSlot_of_pending hlive hpend]; rfl⟩
  · refine ⟨plane.flows i, hdead, ?_⟩
    rw [closeFlowSlot_of_not_live hdead, update_eq_self]

theorem closeFlowSlot_sameClients (plane : TunnelFlowPlane) (i : Fin maximumFlows)
    (reason : FlowTerminalReason) (now : Ktime) (notify : Bool) :
    SameClients plane (plane.closeFlowSlot i reason now notify) := by
  rcases flow_cases (plane.flows i) with hopen | ⟨hlive, hpend⟩ | hdead
  · have hclosed : SameClients plane (plane.withClosed i reason now) := by
      intro j
      rw [withClosed_clients]
      exact dropData_sameClients j
    rw [closeFlowSlot_of_open hopen]
    split
    · exact hclosed.trans enqueueControlCompletion_sameClients
    · exact hclosed
  · rw [closeFlowSlot_of_pending hlive hpend]
    exact .refl plane
  · rw [closeFlowSlot_of_not_live hdead]
    exact .refl plane

end Frames

/-! ## Operations are sequences of moves -/

section Operations

variable {scope : MoveScope} {i : Fin maximumFlows} {handle : FlowHandle} {request : OpenRequest}
  {availability : TransportAvailability} {reservation : FlowReservation} {peer : PeerIdentity}
  {payloadSize : Nat} {payload : List UInt8} {input : TunnelPolicyInput} {remote : Ipv4Endpoint}

abbrev PlaneMoves (now : Ktime) (scope : MoveScope) : TunnelFlowPlane → TunnelFlowPlane → Prop :=
  ReflTransGen (PlaneMove now scope)

theorem PlaneMove.moves (h : PlaneMove now scope plane other) : PlaneMoves now scope plane other :=
  .single h

theorem closeFlowSlot_moves (hnotify : notify ∨ scope.silent) :
    PlaneMoves now scope plane (plane.closeFlowSlot i reason now notify) := by
  rcases flow_cases (plane.flows i) with hopen | ⟨hlive, hpend⟩ | hdead
  · exact (PlaneMove.close plane i reason notify hnotify hopen).moves
  · rw [closeFlowSlot_of_pending hlive hpend]
    exact (PlaneMove.discard plane i (isLive_iff.mp hlive).1 hpend).moves
  · rw [closeFlowSlot_of_not_live hdead]

/-- The rest of `DestroyClient` once the flows of the client are closed. -/
theorem destroyClient_moves (hsilent : scope.silent) :
    PlaneMoves now scope plane (plane.destroyClient client now) := by
  unfold destroyClient
  split
  · exact .refl
  · rename_i j hclient
    set round := fun (plane : TunnelFlowPlane) (i : Fin maximumFlows) =>
      if (plane.flows i).allocated ∧ (plane.flows i).client = client then
        plane.closeFlowSlot i .clientClosed now false
      else plane with hround
    have hmoves (plane : TunnelFlowPlane) (i : Fin maximumFlows) :
        PlaneMoves now scope plane (round plane i) := by
      rw [hround]
      simp only
      split
      · exact closeFlowSlot_moves (.inr hsilent)
      · exact .refl
    have hsame (plane : TunnelFlowPlane) (i : Fin maximumFlows) :
        SameClients plane (round plane i) := by
      rw [hround]
      simp only
      split
      · exact closeFlowSlot_sameClients plane i .clientClosed now false
      · exact .refl plane
    -- A round closes the flow of its slot if it is the client's, and leaves the other slots alone.
    have hflows (plane : TunnelFlowPlane) (i : Fin maximumFlows) : ∃ flow,
        ((round plane i).flows = update plane.flows i flow) ∧
          (flow.client = client → isLive flow = false) := by
      rw [hround]
      simp only
      split
      · obtain ⟨flow, hdead, h⟩ := closeFlowSlot_flows plane i .clientClosed now false
        exact ⟨flow, h, fun _ => hdead⟩
      · rename_i hother
        refine ⟨plane.flows i, (update_eq_self i plane.flows).symm, fun howner => ?_⟩
        rw [not_isLive_iff]
        refine .inl (Bool.not_eq_true _ ▸ fun halloc => hother ⟨halloc, howner⟩)
    have hfound : ((finRange maximumFlows).foldl round plane).findClient client = some j := by
      rw [← hclient]
      exact foldlRecOn (motive := fun other => other.findClient client = plane.findClient client)
        _ _ rfl fun other h i _ => ((hsame other i).findClient client).trans h
    have hnone (i : Fin maximumFlows) :
        (((finRange maximumFlows).foldl round plane).flows i).client = client →
          isLive (((finRange maximumFlows).foldl round plane).flows i) = false := by
      refine foldl_settles (P := fun _ => True)
        (Q := fun i (other : TunnelFlowPlane) =>
          (other.flows i).client = client → isLive (other.flows i) = false)
        (fun _ _ _ => trivial) ?_ ?_ _ plane trivial i (mem_finRange i)
      · intro other i _
        obtain ⟨flow, h, hdead⟩ := hflows other i
        rw [h, update_self]
        exact hdead
      · intro other i i' _ hi
        obtain ⟨flow, h, hdead⟩ := hflows other i'
        rw [h]
        by_cases hii : i = i'
        · subst hii
          rw [update_self]
          exact hdead
        · rw [update_of_ne hii]
          exact hi
    exact (foldl_reflTransGen hmoves _ plane).trans
      (PlaneMove.forget _ client j hsilent hfound hnone).moves

private theorem allocateNonZero_ne_zero {next : UInt32} : (allocateNonZero next).1 ≠ 0 := by
  unfold allocateNonZero
  split
  · decide
  · assumption

private theorem createClient_moves {notifier : Bool} :
    PlaneMoves now scope plane (plane.createClient notifier).2 := by
  unfold createClient
  split
  · exact .refl
  · rename_i j hfind
    have hfree : (plane.clients j).allocated = false := by simpa using find?_some hfind
    exact (PlaneMove.create plane j _ _ notifier hfree
      allocateNonZero_ne_zero).moves

private theorem enqueuePolicyChanged_moves :
    PlaneMoves now scope plane plane.enqueuePolicyChanged := by
  refine foldl_reflTransGen (fun plane j => ?_) _ plane
  split
  · exact .refl
  · rename_i halloc
    exact (PlaneMove.announce plane j (by simpa using halloc)).moves

/-- A policy that is new is announced once the flows it does not cover are closed. -/
theorem refreshPolicy_of_ne (h : RoutingPolicy.refreshed input ≠ plane.policy) :
    ∃ other, PlaneMoves now scope plane other ∧
      plane.refreshPolicy input now = other.enqueuePolicyChanged := by
  unfold refreshPolicy
  simp only
  rw [if_neg h]
  refine ⟨_, (PlaneMove.setPolicy plane (RoutingPolicy.refreshed input)
    (allocateNonZero plane.nextPolicyGeneration).1
    (allocateNonZero plane.nextPolicyGeneration).2).moves.trans ?_, rfl⟩
  refine foldl_reflTransGen (fun plane i => ?_) _ _
  split
  · exact .refl
  · split
    · exact closeFlowSlot_moves (.inl rfl)
    · exact (PlaneMove.touch plane i _ (plane.flows i).lastActivityAt
        (plane.flows i).writableWaiter).moves

private theorem refreshPolicy_moves : PlaneMoves now scope plane (plane.refreshPolicy input now) := by
  by_cases h : RoutingPolicy.refreshed input = plane.policy
  · unfold refreshPolicy
    simp only
    rw [if_pos h]
  · obtain ⟨other, hmoves, hrefresh⟩ : ∃ other, PlaneMoves now scope plane other ∧
        plane.refreshPolicy input now = other.enqueuePolicyChanged := refreshPolicy_of_ne h
    rw [hrefresh]
    exact hmoves.trans enqueuePolicyChanged_moves

/-! ### Reservations -/

theorem le_followingPort (port : UInt16) : firstVirtualSourcePort ≤ followingPort port := by
  unfold followingPort
  split
  · exact UInt16.le_refl _
  · rename_i h
    exact UInt16.not_lt.mp h

/-- The search stays in the range of the virtual ports and answers with a port that is free. -/
theorem searchPort_spec (now : Ktime) (plane : TunnelFlowPlane) (remote : Ipv4Endpoint)
    (tries : Nat)
    (next : UInt16) (hnext : firstVirtualSourcePort ≤ next) :
    firstVirtualSourcePort ≤ (plane.searchPort remote now tries next).2 ∧
      ∀ port, (plane.searchPort remote now tries next).1 = some port →
        firstVirtualSourcePort ≤ port ∧ plane.isPortInUse port remote = false ∧
          plane.isTombstoned plane.policy.tunnelSource port remote now = false := by
  induction tries generalizing next with
  | zero => exact ⟨hnext, nofun⟩
  | succ tries ih =>
    unfold searchPort
    split
    · rename_i hfree
      refine ⟨le_followingPort next, fun port h => ?_⟩
      cases h
      exact ⟨hnext, hfree⟩
    · exact ih (followingPort next) (le_followingPort next)

private theorem clearExpiredTombstones_idem :
    (plane.clearExpiredTombstones now).clearExpiredTombstones now =
      plane.clearExpiredTombstones now := by
  unfold clearExpiredTombstones
  simp only [mk.injEq, true_and, and_true]
  funext k
  by_cases h : (plane.tombstones k).occupied ∧ (plane.tombstones k).expiresAt ≤ now
  · simp only [if_pos h, ite_self]
  · simp only [if_neg h]

/-- A tuple that is found is free on the plane that is left. -/
theorem allocateVirtualTuple_spec {found : Option UInt16}
    (hnext : firstVirtualSourcePort ≤ plane.nextVirtualSourcePort)
    (h : plane.allocateVirtualTuple remote now = (found, other)) :
    ∃ next, firstVirtualSourcePort ≤ next ∧
      other = { plane.clearExpiredTombstones now with nextVirtualSourcePort := next } ∧
      ∀ port, found = some port →
        firstVirtualSourcePort ≤ port ∧ other.isPortInUse port remote = false ∧
          other.isTombstoned other.policy.tunnelSource port remote now = false := by
  obtain ⟨hafter, hport⟩ := searchPort_spec now (plane.clearExpiredTombstones now) remote
    16384 plane.nextVirtualSourcePort hnext
  obtain ⟨rfl, rfl⟩ := Prod.mk.inj h
  exact ⟨_, hafter, rfl, hport⟩

theorem reserveConnectedUdpFlow_moves (hres : scope.reserves)
    (hnext : firstVirtualSourcePort ≤ plane.nextVirtualSourcePort) :
    PlaneMoves now scope plane (plane.reserveConnectedUdpFlow client request now availability).2 := by
  unfold reserveConnectedUdpFlow
  split
  · exact .refl
  rename_i hreq
  iterate 4 (split; · exact .refl)
  rename_i hquota
  split
  · exact .refl
  rename_i i hfind
  have hfree : isLive (plane.flows i) = false := by simpa using find?_some hfind
  obtain ⟨j, hclient⟩ : ∃ j, plane.findClient client = some j :=
    Option.ne_none_iff_exists'.mp fun h => hreq (.inl h)
  have hexpire : PlaneMoves now scope plane (plane.clearExpiredTombstones now) :=
    (PlaneMove.expire plane).moves
  simp only
  split
  · exact hexpire
  rename_i hroom
  have hroom : (plane.clearExpiredTombstones now).liveFlows <
      (plane.clearExpiredTombstones now).freeTombstones := by
    simpa [hasTombstoneReservation] using hroom
  generalize htuple : (plane.clearExpiredTombstones now).allocateVirtualTuple request.remote now =
    tuple
  obtain ⟨found, other⟩ := tuple
  obtain ⟨next, hafter, hother, hport⟩ := allocateVirtualTuple_spec
    (show firstVirtualSourcePort ≤ (plane.clearExpiredTombstones now).nextVirtualSourcePort from hnext)
    htuple
  rw [clearExpiredTombstones_idem] at hother
  subst hother
  have hadvance := hexpire.tail (.advance _ next hafter)
  cases found with
  | none => exact hadvance
  | some port =>
    obtain ⟨hrange, hunused, huntombed⟩ := hport port rfl
    exact hadvance.tail (.reserve _ client request i j port hres hclient hfree
      (Nat.lt_of_not_le hquota) hroom hrange hunused huntombed)

theorem commitFlowReservation_moves :
    PlaneMoves now scope plane (plane.commitFlowReservation reservation).2 := by
  unfold commitFlowReservation
  split
  · exact .refl
  split
  · exact .refl
  rename_i i hfind
  simp only
  split
  · exact .refl
  rename_i hflow
  simp only [not_or] at hflow
  refine (PlaneMove.commit plane i (isLive_iff.mpr ⟨(findFlow_spec hfind).2.1, ?_⟩) ?_).moves
  · simpa using hflow.2.1
  · simpa using hflow.1

theorem cancelFlowReservation_moves :
    PlaneMoves now scope plane (plane.cancelFlowReservation reservation) := by
  unfold cancelFlowReservation
  split
  · exact .refl
  split
  · exact .refl
  rename_i i hfind
  split
  · rename_i hpend
    exact (PlaneMove.discard plane i (findFlow_spec hfind).2.1 hpend).moves
  · exact .refl

/-- What follows the reservation when a flow is opened. -/
theorem openConnectedUdpFlow_after (plane : TunnelFlowPlane) (client : TunnelClientId)
    (request : OpenRequest) (availability : TransportAvailability) :
    PlaneMoves now scope (plane.reserveConnectedUdpFlow client request now availability).2
      (plane.openConnectedUdpFlow client request now availability).2 := by
  unfold openConnectedUdpFlow
  generalize plane.reserveConnectedUdpFlow client request now availability = reserved
  obtain ⟨reservation, other⟩ := reserved
  simp only
  split
  · exact .refl
  have hcommit : PlaneMoves now scope other (other.commitFlowReservation reservation).2 :=
    commitFlowReservation_moves
  generalize other.commitFlowReservation reservation = committed at hcommit
  obtain ⟨done, last⟩ := committed
  cases done with
  | true => exact hcommit
  | false => exact hcommit.trans cancelFlowReservation_moves

private theorem openConnectedUdpFlow_moves (hres : scope.reserves)
    (hnext : firstVirtualSourcePort ≤ plane.nextVirtualSourcePort) :
    PlaneMoves now scope plane (plane.openConnectedUdpFlow client request now availability).2 :=
  (reserveConnectedUdpFlow_moves hres hnext).trans
    (openConnectedUdpFlow_after plane client request availability)

/-! ### Sending and receiving -/

theorem prepareSend_moves : PlaneMoves now scope plane
      (plane.prepareSend client handle payloadSize payload availability now).2 := by
  unfold prepareSend
  simp only
  iterate 3 (split; · exact .refl)
  rename_i i _
  iterate 3 (split; · exact .refl)
  split
  · exact (PlaneMove.touch plane i (plane.flows i).policyGeneration (plane.flows i).lastActivityAt
      true).moves
  · exact (PlaneMove.touch plane i (plane.flows i).policyGeneration now
      (plane.flows i).writableWaiter).moves

private theorem completeSend_moves {datagram : PreparedDatagram} {status : ProtocolStatus} :
    PlaneMoves now scope plane (plane.completeSend datagram status) := by
  have htouch (i : Fin maximumFlows) (writableWaiter : Bool) :
      PlaneMoves now scope plane (plane.setFlow i { plane.flows i with writableWaiter }) :=
    (PlaneMove.touch plane i (plane.flows i).policyGeneration (plane.flows i).lastActivityAt
      writableWaiter).moves
  unfold completeSend
  split
  · exact .refl
  split
  · exact .refl
  rename_i i _
  split
  · exact htouch i true
  split
  · exact htouch i false
  · exact .refl

private theorem notifyOutboundCapacityAvailable_moves :
    PlaneMoves now scope plane (plane.notifyOutboundCapacityAvailable peer) := by
  refine foldl_reflTransGen (fun plane i => ?_) _ plane
  simp only
  split
  · exact .refl
  · rename_i hflow
    exact (PlaneMove.wake plane i (by simpa using fun h => hflow (.inl h))).moves

/-- A completion that is drained leaves the clients who they are. -/
theorem dropFront_sameClients {j : Fin maximumClientContexts} {entry : CompletionEntry}
    {rest : List CompletionEntry} : SameClients plane (plane.dropFront client j entry rest) := by
  unfold dropFront
  split
  · exact .setClient rfl rfl
  · rename_i k _
    simp only
    split
    · exact .setClient rfl rfl
    · exact .setClient rfl rfl

private theorem receiveLoop_moves (client : TunnelClientId) (j : Fin maximumClientContexts)
    (payloadSize room : Nat) (records : List CompletionRecord) (payload : List UInt8)
    (plane : TunnelFlowPlane) (hsilent : scope.silent)
    (hclient : plane.findClient client = some j) :
    PlaneMoves now scope plane (receiveLoop client j payloadSize room records payload plane).2 := by
  induction room generalizing records payload plane with
  | zero => exact .refl
  | succ room ih =>
    unfold receiveLoop
    split
    · exact .refl
    rename_i entry rest hqueue
    have hdrop : PlaneMoves now scope plane (plane.dropFront client j entry rest) :=
      (PlaneMove.drain plane client j entry rest hsilent hclient hqueue).moves
    have hafter : (plane.dropFront client j entry rest).findClient client = some j :=
      (dropFront_sameClients.findClient client).trans hclient
    split
    · exact hdrop.trans (ih _ _ _ hafter)
    · simp only
      split
      · exact .refl
      · exact hdrop.trans (ih _ _ _ hafter)

private theorem receiveCompletions_moves {recordCount : Nat} (hsilent : scope.silent) :
    PlaneMoves now scope plane (plane.receiveCompletions client recordCount payloadSize).2 := by
  unfold receiveCompletions
  split
  · exact .refl
  rename_i j hclient
  split
  · exact .refl
  · exact receiveLoop_moves client j payloadSize recordCount [] [] plane hsilent hclient

private theorem closeFlow_moves :
    PlaneMoves now scope plane (plane.closeFlow client handle now).2 := by
  unfold closeFlow
  split
  · exact .refl
  rename_i i _
  simp only
  split
  · exact .refl
  · exact closeFlowSlot_moves (.inl rfl)

private theorem invalidatePeerActivation_moves :
    PlaneMoves now scope plane (plane.invalidatePeerActivation peer reason now) := by
  refine foldl_reflTransGen (fun plane i => ?_) _ plane
  split
  · exact closeFlowSlot_moves (.inl rfl)
  · exact .refl

theorem isStale_eq_false {flow : FlowSlot} {peer : PeerIdentity} {policyGeneration : UInt32}
    {remote : Ipv4Endpoint} (h : plane.isStale flow peer policyGeneration remote = false) :
    flow.closed = false ∧ flow.pending = false ∧ (∃ j, plane.findClient flow.client = some j) ∧
      flow.peer = peer ∧ endpointEqual flow.remote remote := by
  unfold isStale at h
  simp only [Bool.or_eq_false_iff, decide_eq_false_iff_not, not_not, Bool.not_eq_false'] at h
  obtain ⟨⟨⟨⟨⟨⟨⟨hclosed, hpend⟩, hclient⟩, hpeer⟩, _⟩, _⟩, _⟩, hremote⟩ := h
  exact ⟨hclosed, hpend, Option.ne_none_iff_exists'.mp hclient, hpeer, hremote⟩

private theorem setSlab_setSlab (k : Fin inboundPacketSlabCount) (slab other : InboundSlab) :
    (plane.setSlab k slab).setSlab k other = plane.setSlab k other := by
  simp only [setSlab, update_idem]

/-- A datagram in a slab is announced, or the slab is given back. -/
theorem enqueueDataCompletion_cases (plane : TunnelFlowPlane) (i : Fin maximumFlows)
    (k : Fin inboundPacketSlabCount) :
    plane.enqueueDataCompletion i k = (false, (plane.setSlab k ⟨[], false⟩).setFlow i
        { plane.flows i with inboundOccupancy := (plane.flows i).inboundOccupancy - 1 }) ∨
      ∃ j, plane.findClient (plane.flows i).client = some j ∧
        (plane.clients j).dataCompletionCount < dataCompletionCapacity ∧
        (plane.clients j).completions.length < completionQueueCapacity ∧
        plane.enqueueDataCompletion i k = (true, plane.setClient j (append { plane.clients j with
          dataCompletionCount := (plane.clients j).dataCompletionCount + 1 }
          ⟨plane.dataCompletion i k, some k⟩)) := by
  unfold enqueueDataCompletion
  simp only
  split
  · exact .inl rfl
  · rename_i j hclient
    split
    · exact .inl rfl
    · rename_i hroom
      simp only [not_or, not_le] at hroom
      exact .inr ⟨j, hclient, hroom.1, hroom.2, rfl⟩

private theorem deliverInboundUdpDatagram_moves {policyGeneration : UInt32}
    {adapterToken : UInt64} :
    PlaneMoves now scope plane (plane.deliverInboundUdpDatagram peer policyGeneration adapterToken
      remote payload now).2 := by
  unfold deliverInboundUdpDatagram
  split
  · exact .refl
  rename_i hwell
  rw [not_or, not_lt] at hwell
  split
  · exact .refl
  rename_i i hslot
  simp only
  split
  · exact .refl
  rename_i hstale
  split
  · exact .refl
  rename_i hoccupancy
  obtain ⟨hclosed, hpend, ⟨j, hclient⟩, _⟩ := isStale_eq_false (Bool.not_eq_true _ ▸ hstale)
  have hopen : isOpen (plane.flows i) :=
    isOpen_iff.mpr ⟨isLive_iff.mpr ⟨(slotOfHandle_spec hslot).1, hclosed⟩, hpend⟩
  unfold allocateInboundSlab
  cases hfind : (finRange inboundPacketSlabCount).find? fun k =>
      !(plane.inboundSlabs k).allocated with
  | none => exact .refl
  | some k =>
    have hslab : (plane.inboundSlabs k).allocated = false := by simpa using find?_some hfind
    simp only [setSlab_setSlab]
    set stored := (plane.setSlab k ⟨payload, true⟩).setFlow i { plane.flows i with
      inboundOccupancy := (plane.flows i).inboundOccupancy + 1
      lastActivityAt := now } with hstored
    have hflow : stored.flows i = { plane.flows i with
        inboundOccupancy := (plane.flows i).inboundOccupancy + 1
        lastActivityAt := now } := by
      rw [hstored, setFlow_flows, update_self]
    rcases enqueueDataCompletion_cases stored i k with h | ⟨j', hclient', hdata, hlen, h⟩
    · -- The slab is given back and the flow has only been touched.
      have hback : ((stored.setSlab k ⟨[], false⟩).setFlow i { stored.flows i with
          inboundOccupancy := (stored.flows i).inboundOccupancy - 1 }) =
          (plane.setSlab k ⟨[], false⟩).setFlow i { plane.flows i with lastActivityAt := now } := by
        simp only [hstored, setFlow, setSlab, update_idem, update_self,
          Nat.add_sub_cancel]
      rw [h, hback]
      exact (PlaneMove.wipe plane k hslab).moves.tail (PlaneMove.touch _ i
        (plane.flows i).policyGeneration now (plane.flows i).writableWaiter)
    · have hsame : stored.findClient (stored.flows i).client =
          plane.findClient (plane.flows i).client := by
        rw [hflow]
        exact findClient_congr fun _ => ⟨rfl, rfl⟩
      obtain rfl : j' = j := Option.some.inj (hclient'.symm.trans (hsame.trans hclient))
      rw [h]
      exact (PlaneMove.store plane i k j' payload hopen (Nat.lt_of_not_le hoccupancy) hslab hclient
        hdata hlen hwell.2).moves

/-- Every operation is a sequence of moves at its time. -/
theorem apply_moves (now : Ktime) (plane : TunnelFlowPlane) (action : PlaneAction)
    (hnext : firstVirtualSourcePort ≤ plane.nextVirtualSourcePort) :
    PlaneMoves now action.scope plane (plane.apply now action) := by
  cases action with
  | createClient => exact createClient_moves
  | destroyClient => exact destroyClient_moves rfl
  | refreshPolicy => exact refreshPolicy_moves
  | reserve => exact reserveConnectedUdpFlow_moves rfl hnext
  | commit => exact commitFlowReservation_moves
  | cancel => exact cancelFlowReservation_moves
  | openFlow => exact openConnectedUdpFlow_moves rfl hnext
  | prepareSend => exact prepareSend_moves
  | completeSend => exact completeSend_moves
  | notify => exact notifyOutboundCapacityAvailable_moves
  | receive => exact receiveCompletions_moves rfl
  | closeFlow => exact closeFlow_moves
  | deliver => exact deliverInboundUdpDatagram_moves
  | invalidate => exact invalidatePeerActivation_moves

end Operations

end TunnelFlowPlane

end WireguardNx.Tunnel
