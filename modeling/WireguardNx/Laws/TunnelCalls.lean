import WireguardNx.Laws.Dispatch
import WireguardNx.Runtime.TunnelCalls

/-!
# What the steps of tunnel calls do to the slot of the adapter

A step is one move of a thread, of the worker or of a lane, next to changes that leave the slot, the
adapter, the threads and the lanes as they are.  An operation that waits in the slot is taken when a
run of the worker is scheduled: when the work of the adapter is pending, or the worker has not yet
found nothing to take.

Times, the answers of lwIP and what becomes of a submission are arbitrary.
-/

namespace WireguardNx.Runtime

open Wireguard WireguardNx.Platform Tunnel Ip HorizonDispatcher UserspaceIpAdapterOwner

variable {queued : OperationTicket × UserspaceIpAdapterOwner} {owner : UserspaceIpAdapterOwner}

/-- The operations that a purpose is about. -/
def CallPurpose.kind : CallPurpose → OperationKind
  | .destroy _ | .closeStale | .close _ _ => .closeFlow
  | .openFlow _ => .openFlow
  | .send _ => .sendDatagram
  | .publish => .inputPacket

def CallPurpose.ignoresAnswer : CallPurpose → Bool
  | .send _ | .closeStale => true
  | .destroy _ | .openFlow _ | .close _ _ | .publish => false

/-- The operation that a thread has queued and not yet taken or cancelled, and what for. -/
def TunnelCall.held : TunnelCall → Option (CallPurpose × QueuedOperation)
  | .idle | .destroying _ | .stale _ => none
  | .asking purpose queued | .cancelling purpose queued | .flushing purpose queued
  | .finishing purpose queued => some (purpose, queued)
  | .closing client handle queued => some (.close client handle, queued)

/-- The operation that the worker has taken and not completed. -/
def AdapterWorker.held : AdapterWorker → Option (Operation × Nat)
  | .idle | .looping | .returning => none
  | .taken operation serial | .checked operation serial _ | .executed operation serial _ =>
    some (operation, serial)

namespace TunnelRuntime

variable {s s' : TunnelRuntime} {action : Action}

/-- The slot, the adapter, the lanes, the worker and the threads are the same. -/
structure Apart (s s' : TunnelRuntime) : Prop where
  slot : s'.owner.slot = s.owner.slot
  adapter : s'.owner.adapter = s.owner.adapter
  dispatcher : s'.dispatcher = s.dispatcher
  worker : s'.worker = s.worker
  calls : s'.calls = s.calls
  serial : s'.serial = s.serial
  log : s'.log = s.log

theorem Apart.refl (s : TunnelRuntime) : Apart s s := ⟨rfl, rfl, rfl, rfl, rfl, rfl, rfl⟩

def Action.thread : Action → Option Nat
  | .destroyTunnelClient thread _ _ | .openTunnelConnectedUdpFlow thread _ _ _ _
  | .sendTunnelUdpDatagram thread _ _ _ _ _ _ | .closeTunnelFlow thread _ _ _
  | .publishDecryptedPacket thread _ _ | .proceed thread _ _ _ => some thread
  | .setActivePeer _ _ | .refresh _ | .createClient _ _ | .receiveCompletions _ _ _
  | .notifyOutboundCapacityAvailable _ | .runTimeouts | .reset | .work _ _ | .dispatch _ => none

/-- One move of a thread, of the worker or of a lane. -/
inductive Move (s : TunnelRuntime) : Action → TunnelRuntime → Prop
  | stay {action : Action} : Move s action s
  | walk {action : Action} (thread : Nat) (hthread : action.thread = some thread)
      (call : TunnelCall) (hbefore : (s.calls thread).held = none) (hafter : call.held = none) :
      Move s action (s.resume thread call)
  | issue {action : Action} (thread : Nat) (hthread : action.thread = some thread)
      (purpose : CallPurpose) (operation : Operation) (payload : List UInt8)
      (hbefore : (s.calls thread).held = none)
      (hkind : operation.kind = purpose.kind) (hpayload : purpose = .publish → payload ≠ [])
      (hfree : s.owner.isBusy = false) :
      Move s action (s.issue thread purpose (s.owner.enqueue operation payload))
  | ask (thread : Nat) (purpose : CallPurpose) (queued : QueuedOperation) (available : Bool)
      (submission : ProtocolStatus) (now : Ktime)
      (hcall : s.calls thread = .asking purpose queued) :
      Move s (.proceed thread available submission now)
      (s.askForWork thread purpose queued available)
  | cancel (thread : Nat) (purpose : CallPurpose) (queued : QueuedOperation) (available : Bool)
      (submission : ProtocolStatus) (now : Ktime) (call : TunnelCall)
      (hcall : s.calls thread = .cancelling purpose queued) (hafter : call.held = none) :
      Move s (.proceed thread available submission now)
        ({ s with owner := s.owner.cancel queued.ticket }.resume thread call)
  | close {action : Action} (thread : Nat) (hthread : action.thread = some thread)
      (client : TunnelClientId) (handle : FlowHandle) (queued : QueuedOperation)
      (hcall : s.calls thread = .closing client handle queued) :
      Move s action (s.resume thread (.flushing (.close client handle) queued))
  | flush {action : Action} (thread : Nat) (hthread : action.thread = some thread)
      (purpose : CallPurpose) (queued : QueuedOperation)
      (hcall : s.calls thread = .flushing purpose queued)
      (hflushed : s.dispatcher.isSubmissionFlushed = true) :
      Move s action (s.resume thread (.finishing purpose queued))
  | finish {action : Action} (thread : Nat) (hthread : action.thread = some thread)
      (purpose : CallPurpose) (queued : QueuedOperation) (call : TunnelCall)
      (hcall : s.calls thread = .finishing purpose queued)
      (hafter : call.held = none) :
      Move s action ({ s with
        owner := (s.owner.takeResult queued.ticket).2
        log := s.log ++ readings s.owner purpose queued }.resume thread call)
  | take {action : Action} (hworker : s.worker = .looping) : Move s action s.takeNext
  | check {action : Action} (operation : Operation) (serial : Nat) (execute : Bool)
      (hworker : s.worker = .taken operation serial)
      (hexecute : operation.kind ≠ .inputPacket → execute = true) :
      Move s action { s with worker := .checked operation serial execute }
  | execute (operation : Operation) (serial : Nat) (execute : Bool) (lwip : Lwip) (now : Ktime)
      (hworker : s.worker = .checked operation serial execute) :
      Move s (.work lwip now) (s.executeOperation operation serial execute lwip)
  | complete {action : Action} (operation : Operation) (serial : Nat) (result : UserspaceIpResult)
      (hworker : s.worker = .executed operation serial result)
      (hkind : operation.kind ≠ .inputPacket) :
      Move s action { s with
        owner := s.owner.complete operation result
        worker := .looping }
  | completeInput {action : Action} (operation : Operation) (serial : Nat)
      (result : UserspaceIpResult) (hworker : s.worker = .executed operation serial result)
      (hkind : operation.kind = .inputPacket) :
      Move s action { s with
        owner := ((s.owner.complete operation result).takeResult operation.ticket).2
        worker := .looping
        log := if result = .success then s.log ++ [.inputRead serial
            ((s.owner.complete operation result).inputPacket operation.ticket)
            ((s.owner.complete operation result).inboundDatagrams operation.ticket)]
          else s.log }
  | dispatch (action : HorizonDispatcher.Action) (s' : TunnelRuntime)
      (hdispatch : s.dispatch action = some s') : Move s (.dispatch action) s'

/-! ## Every step is such a move -/

theorem resume_apart {thread : Nat} {call : TunnelCall} (h : Apart s s') :
    Apart (s.resume thread call) (s'.resume thread call) :=
  ⟨h.slot, h.adapter, h.dispatcher, h.worker, by rw [resume, resume, h.calls], h.serial, h.log⟩

variable {now : Ktime}

private theorem refreshTunnelPolicyLocked_apart {s : TunnelRuntime} :
    Apart s (s.refreshTunnelPolicyLocked now) :=
  ⟨rfl, rfl, rfl, rfl, rfl, rfl, rfl⟩

private theorem setActivePeer_apart {s : TunnelRuntime}
    {selected : Option (PeerIdentity × Option PolicyConfiguration)} :
    Apart s (s.setActivePeer selected now) := by
  unfold setActivePeer
  split
  · exact .refl s
  · cases s.activePeer <;> exact ⟨rfl, rfl, rfl, rfl, rfl, rfl, rfl⟩

private theorem queueRunTimeouts_slot {owner : UserspaceIpAdapterOwner} :
    owner.queueRunTimeouts.slot = owner.slot ∧ owner.queueRunTimeouts.adapter = owner.adapter := by
  unfold queueRunTimeouts
  split <;> exact ⟨rfl, rfl⟩

private theorem queueConfigure_slot (owner : UserspaceIpAdapterOwner) (address : Ipv4Address)
    (mtu : UInt16) :
    (owner.queueConfigure address mtu).slot = owner.slot ∧
      (owner.queueConfigure address mtu).adapter = owner.adapter := by
  unfold queueConfigure
  split <;> exact ⟨rfl, rfl⟩

/-- An operation of another daemon with the same slot is queued alike. -/
theorem issue_apart (h : Apart s s') (thread : Nat) (purpose : CallPurpose) (operation : Operation)
    (payload : List UInt8) : Apart (s.issue thread purpose (s.owner.enqueue operation payload))
      (s'.issue thread purpose (s'.owner.enqueue operation payload)) := by
  unfold issue enqueue
  refine ⟨?_, h.adapter, h.dispatcher, h.worker, ?_, ?_, ?_⟩
  · simp only [h.slot]
  · simp only [h.calls, h.slot, h.serial]
  · simp only [h.serial]
  · simp only [h.log, h.slot, h.serial]

theorem queueCloseFlow_eq {token : UInt64} (h : owner.queueCloseFlow token = some queued) :
    owner.isBusy = false ∧
      queued = owner.enqueue { Operation.of .closeFlow with flow := ⟨token, .zero, .zero⟩ }
        owner.slot.payload := by
  unfold queueCloseFlow at h
  split at h
  · cases h
  · rename_i hbusy
    exact ⟨Bool.not_eq_true _ ▸ hbusy, (Option.some.inj h).symm⟩

private theorem queueOpenFlow_eq {flow : UserspaceIpFlow}
    (h : owner.queueOpenFlow flow = some queued) :
    owner.isBusy = false ∧
      queued = owner.enqueue { Operation.of .openFlow with flow } owner.slot.payload := by
  unfold queueOpenFlow at h
  split at h
  · cases h
  · rename_i hbusy
    exact ⟨Bool.not_eq_true _ ▸ hbusy, (Option.some.inj h).symm⟩

private theorem queueSendDatagram_eq {token : UInt64} {payload : List UInt8}
    (h : owner.queueSendDatagram token payload = some queued) : owner.isBusy = false ∧
      queued = owner.enqueue
        { Operation.of .sendDatagram with flow := ⟨token, .zero, .zero⟩ } payload := by
  unfold queueSendDatagram at h
  split at h
  · cases h
  · rename_i hrefused
    obtain ⟨_, _, hbusy⟩ := not_or.mp hrefused |>.imp_right not_or.mp
    exact ⟨Bool.not_eq_true _ ▸ hbusy, (Option.some.inj h).symm⟩

private theorem queueInputPacket_eq {peer : PeerIdentity} {policyGeneration adapterEpoch : UInt32}
    {packet : List UInt8}
    (h : owner.queueInputPacket peer policyGeneration adapterEpoch packet = some queued) :
    owner.isBusy = false ∧ packet ≠ [] ∧ queued = owner.enqueue
      { Operation.of .inputPacket with peer, policyGeneration, adapterEpoch } packet := by
  unfold queueInputPacket at h
  split at h
  · cases h
  · rename_i hrefused
    simp only [not_or] at hrefused
    obtain ⟨_, _, _, hpacket, _, hbusy⟩ := hrefused
    exact ⟨Bool.not_eq_true _ ▸ hbusy, hpacket, (Option.some.inj h).symm⟩

section Sections

variable {thread : Nat} {now : Ktime} {submission : ProtocolStatus}

private theorem closeNextToken_move {tokens : List UInt64} (hthread : action.thread = some thread)
    (hcall : s.calls thread = .destroying tokens) :
    Move s action (s.closeNextToken thread tokens) := by
  have hbefore : (s.calls thread).held = none := by rw [hcall]; rfl
  cases tokens with
  | nil => exact .walk thread hthread .idle hbefore rfl
  | cons token rest =>
    unfold closeNextToken
    simp only
    split
    · exact .walk thread hthread (.destroying rest) hbefore rfl
    · rename_i queued hqueued
      obtain ⟨hfree, rfl⟩ := queueCloseFlow_eq hqueued
      exact .issue thread hthread (.destroy rest) _ _ hbefore rfl nofun hfree

private theorem closeStalePcb_move {reservation : TunnelFlowPlane.FlowReservation}
    (hthread : action.thread = some thread) (hcall : s.calls thread = .stale reservation) :
    Move s action (s.closeStalePcb thread reservation) := by
  have hbefore : (s.calls thread).held = none := by rw [hcall]; rfl
  unfold closeStalePcb
  split
  · exact .walk thread hthread .idle hbefore rfl
  · rename_i queued hqueued
    obtain ⟨hfree, rfl⟩ := queueCloseFlow_eq hqueued
    exact .issue thread hthread .closeStale _ _ hbefore rfl nofun hfree

private theorem openTunnelConnectedUdpFlow_move (client : TunnelClientId)
    (request : TunnelFlowPlane.OpenRequest) (availability : TunnelFlowPlane.TransportAvailability)
    (hthread : action.thread = some thread) (hcall : s.calls thread = .idle) :
    ∃ mid, Move s action mid ∧
      Apart mid (s.openTunnelConnectedUdpFlow thread client request availability now) := by
  have hbefore : (s.calls thread).held = none := by rw [hcall]; rfl
  unfold openTunnelConnectedUdpFlow
  simp only
  generalize hreserve : TunnelFlowPlane.reserveConnectedUdpFlow _ client request now availability =
    reserved
  obtain ⟨reservation, plane⟩ := reserved
  have hconf := queueConfigure_slot (s.refreshTunnelPolicyLocked now).owner
    reservation.localEndpoint.address plane.policy.effectiveInnerMtu
  split
  · exact ⟨s, .stay, rfl, rfl, rfl, rfl, rfl, rfl, rfl⟩
  · split
    · exact ⟨s, .stay, hconf.1, hconf.2, rfl, rfl, rfl, rfl, rfl⟩
    · rename_i queued hqueued
      obtain ⟨hfree, rfl⟩ := queueOpenFlow_eq hqueued
      have hfree' : s.owner.isBusy = false := by
        unfold isBusy at hfree ⊢
        rwa [hconf.1] at hfree
      have hpayload := congrArg DataOperationSlot.payload hconf.1
      refine ⟨_, .issue thread hthread (.openFlow reservation)
        { Operation.of .openFlow with
          flow := ⟨reservation.adapterToken, reservation.localEndpoint, reservation.remote⟩ }
        s.owner.slot.payload hbefore rfl nofun hfree', ?_⟩
      rw [hpayload]
      have happart : Apart s { s.refreshTunnelPolicyLocked now with
          plane := plane
          owner := (s.refreshTunnelPolicyLocked now).owner.queueConfigure
            reservation.localEndpoint.address plane.policy.effectiveInnerMtu } :=
        ⟨hconf.1, hconf.2, rfl, rfl, rfl, rfl, rfl⟩
      exact issue_apart happart thread _ _ _

private theorem sendTunnelUdpDatagram_move {client : TunnelClientId} {handle : FlowHandle}
    {payloadSize : Nat} {payload : List UInt8} {protocolAvailable : Bool}
    (hthread : action.thread = some thread) (hcall : s.calls thread = .idle) :
    ∃ mid, Move s action mid ∧
      Apart mid (s.sendTunnelUdpDatagram thread client handle payloadSize payload protocolAvailable
        now) := by
  have hbefore : (s.calls thread).held = none := by rw [hcall]; rfl
  unfold sendTunnelUdpDatagram
  simp only
  generalize TunnelFlowPlane.prepareSend _ client handle payloadSize payload _ now = sent
  obtain ⟨prepared, plane⟩ := sent
  split
  · exact ⟨s, .stay, rfl, rfl, rfl, rfl, rfl, rfl, rfl⟩
  · split
    · exact ⟨s, .stay, rfl, rfl, rfl, rfl, rfl, rfl, rfl⟩
    · rename_i queued hqueued
      obtain ⟨hfree, rfl⟩ := queueSendDatagram_eq hqueued
      refine ⟨_, .issue thread hthread (.send prepared)
        { Operation.of .sendDatagram with flow := ⟨prepared.adapterToken, .zero, .zero⟩ } payload
        hbefore rfl nofun hfree, ?_⟩
      have happart : Apart s { s.refreshTunnelPolicyLocked now with plane := plane } :=
        ⟨rfl, rfl, rfl, rfl, rfl, rfl, rfl⟩
      exact issue_apart happart thread _ _ _

private theorem closeTunnelFlow_move {client : TunnelClientId} {handle : FlowHandle}
    (hthread : action.thread = some thread) (hcall : s.calls thread = .idle) :
    ∃ mid, Move s action mid ∧
      Apart mid (s.closeTunnelFlow thread client handle now) := by
  have hbefore : (s.calls thread).held = none := by rw [hcall]; rfl
  unfold closeTunnelFlow
  split
  · exact ⟨s, .stay, rfl, rfl, rfl, rfl, rfl, rfl, rfl⟩
  · split
    · exact ⟨s, .stay, .refl s⟩
    · rename_i queued hqueued
      obtain ⟨hfree, rfl⟩ := queueCloseFlow_eq hqueued
      exact ⟨_, .issue thread hthread (.close client handle) _ _ hbefore rfl nofun hfree, .refl _⟩

private theorem publishDecryptedPacket_move {peer : PeerIdentity} {packet : List UInt8}
    (hthread : action.thread = some thread) (hcall : s.calls thread = .idle) :
    Move s action (s.publishDecryptedPacket thread peer packet) := by
  have hbefore : (s.calls thread).held = none := by rw [hcall]; rfl
  unfold publishDecryptedPacket
  split
  · exact .stay
  · rename_i queued hqueued
    obtain ⟨hfree, hpacket, rfl⟩ := queueInputPacket_eq hqueued
    exact .issue thread hthread .publish _ packet hbefore rfl (fun _ => hpacket) hfree

private theorem finishCall_move {purpose : CallPurpose} {queued : QueuedOperation}
    (hthread : action.thread = some thread) (hcall : s.calls thread = .finishing purpose queued) :
    ∃ mid, Move s action mid ∧ Apart mid (s.finishCall thread purpose queued submission) := by
  have hmove (call : TunnelCall) (hafter : call.held = none) (plane : TunnelFlowPlane) :
      ∃ mid, Move s action mid ∧ Apart mid ({ s with
        owner := (s.owner.takeResult queued.ticket).2
        log := s.log ++ readings s.owner purpose queued
        plane := plane }.resume thread call) :=
    ⟨_, .finish thread hthread purpose queued call hcall hafter, rfl, rfl, rfl, rfl, rfl, rfl, rfl⟩
  unfold finishCall
  cases purpose with
  | openFlow reservation =>
    simp only
    split
    · split
      · exact hmove .idle rfl _
      · exact hmove (.stale reservation) rfl _
    · exact hmove .idle rfl _
  | destroy rest => exact hmove (.destroying rest) rfl s.plane
  | send prepared => exact hmove .idle rfl _
  | closeStale | close | publish => exact hmove .idle rfl s.plane

private theorem cancelOperation_move {purpose : CallPurpose} {queued : QueuedOperation}
    {available : Bool}
    (hcall : s.calls thread = .cancelling purpose queued) :
    ∃ mid, Move s (.proceed thread available submission now) mid ∧
      Apart mid (s.cancelOperation thread purpose queued) := by
  have hmove (call : TunnelCall) (hafter : call.held = none) (plane : TunnelFlowPlane) :
      ∃ mid, Move s (.proceed thread available submission now) mid ∧ Apart mid ({ s with
        owner := s.owner.cancel queued.ticket
        plane := plane }.resume thread call) :=
    ⟨_, .cancel thread purpose queued available submission now call hcall hafter,
      rfl, rfl, rfl, rfl, rfl, rfl, rfl⟩
  unfold cancelOperation
  cases purpose with
  | destroy rest => exact hmove (.destroying rest) rfl s.plane
  | openFlow reservation => exact hmove .idle rfl _
  | closeStale | send | close | publish => exact hmove .idle rfl s.plane

private theorem proceed_move {available : Bool}
    (hstep : s.proceed thread available submission now = some s') :
    ∃ mid, Move s (.proceed thread available submission now) mid ∧ Apart mid s' := by
  unfold proceed at hstep
  split at hstep
  · cases hstep
  · rename_i tokens hcall
    cases hstep
    exact ⟨_, closeNextToken_move rfl hcall, .refl _⟩
  · rename_i reservation hcall
    cases hstep
    exact ⟨_, closeStalePcb_move rfl hcall, .refl _⟩
  · rename_i purpose queued hcall
    cases hstep
    exact ⟨_, .ask thread purpose queued available submission now hcall, .refl _⟩
  · rename_i purpose queued hcall
    cases hstep
    exact cancelOperation_move hcall
  · rename_i client handle queued hcall
    cases hstep
    exact ⟨_, .close thread rfl client handle queued hcall, rfl, rfl, rfl, rfl, rfl, rfl, rfl⟩
  · rename_i purpose queued hcall
    split at hstep
    · rename_i hflushed
      cases hstep
      exact ⟨_, .flush thread rfl purpose queued hcall hflushed, .refl _⟩
    · cases hstep
  · rename_i purpose queued hcall
    cases hstep
    exact finishCall_move rfl hcall

end Sections

private theorem isCurrent_of_kind {operation : Operation} (h : operation.kind ≠ .inputPacket) :
    s.isCurrent operation := by
  unfold isCurrent
  rw [decide_eq_true h, Bool.true_or]

private theorem deliverUserspaceIpInputLocked_eq {operation : Operation} {serial : Nat}
    (h : s.deliverUserspaceIpInputLocked operation serial now = some s') :
    s.owner.inputPacket operation.ticket ≠ [] ∧ ∃ plane, s' = { s with
      plane
      log := s.log ++ [.inputRead serial (s.owner.inputPacket operation.ticket)
        (s.owner.inboundDatagrams operation.ticket)] } := by
  unfold deliverUserspaceIpInputLocked at h
  simp only at h
  split at h
  · cases h
  · rename_i hpacket
    refine ⟨hpacket, ?_⟩
    split at h
    · exact ⟨s.plane, (Option.some.inj h).symm⟩
    · exact ⟨_, (Option.some.inj h).symm⟩
    · cases h

private theorem work_move {lwip : Lwip} (hstep : s.work lwip now = some s') :
    ∃ mid, Move s (.work lwip now) mid ∧ Apart mid s' := by
  unfold work at hstep
  split at hstep
  · cases hstep
  · cases hstep
  · rename_i hworker
    cases hstep
    exact ⟨_, .take hworker, .refl _⟩
  · rename_i operation serial hworker
    cases hstep
    exact ⟨_, .check operation serial _ hworker isCurrent_of_kind, .refl _⟩
  · rename_i operation serial execute hworker
    cases hstep
    exact ⟨_, .execute operation serial execute lwip now hworker, .refl _⟩
  · rename_i operation serial result hworker
    unfold completeOperation at hstep
    simp only at hstep
    split at hstep
    · rename_i hkind
      obtain ⟨delivered, hdelivered, rfl⟩ := Option.map_eq_some_iff.mp hstep
      refine ⟨_, .completeInput operation serial result hworker hkind, ?_⟩
      split at hdelivered
      · rename_i hresult
        obtain ⟨_, plane, rfl⟩ := deliverUserspaceIpInputLocked_eq hdelivered
        exact ⟨rfl, rfl, rfl, rfl, rfl, rfl, by simp only [hresult, if_true]⟩
      · rename_i hresult
        cases hdelivered
        exact ⟨rfl, rfl, rfl, rfl, rfl, rfl, by simp only [hresult, if_false]⟩
    · rename_i hkind
      cases hstep
      exact ⟨_, .complete operation serial result hworker hkind, .refl _⟩

theorem begins_eq {thread : Nat} {next : TunnelRuntime} (h : s.begins thread next = some s') :
    s.calls thread = .idle ∧ s' = next := by
  unfold begins at h
  split at h
  · rename_i hidle
    exact ⟨hidle, (Option.some.inj h).symm⟩
  · cases h

/-- A step is a move, and changes that the slot and the threads have no part in. -/
theorem step_cases (hstep : s.step action = some s') : ∃ mid, Move s action mid ∧ Apart mid s' := by
  cases action with
  | setActivePeer selected now =>
    cases hstep
    exact ⟨s, .stay, setActivePeer_apart⟩
  | refresh now =>
    cases hstep
    exact ⟨s, .stay, refreshTunnelPolicyLocked_apart⟩
  | createClient | receiveCompletions | notifyOutboundCapacityAvailable | reset =>
    cases hstep
    exact ⟨s, .stay, rfl, rfl, rfl, rfl, rfl, rfl, rfl⟩
  | runTimeouts =>
    cases hstep
    obtain ⟨hslot, hadapter⟩ := queueRunTimeouts_slot
    exact ⟨s, .stay, hslot, hadapter, rfl, rfl, rfl, rfl, rfl⟩
  | destroyTunnelClient thread client now =>
    obtain ⟨hidle, rfl⟩ := begins_eq hstep
    have hbefore : (s.calls thread).held = none := by rw [hidle]; rfl
    exact ⟨_, .walk thread rfl _ hbefore rfl, resume_apart ⟨rfl, rfl, rfl, rfl, rfl, rfl, rfl⟩⟩
  | openTunnelConnectedUdpFlow thread client request availability now =>
    obtain ⟨hidle, rfl⟩ := begins_eq hstep
    exact openTunnelConnectedUdpFlow_move client request availability rfl hidle
  | sendTunnelUdpDatagram thread client handle payloadSize payload protocolAvailable now =>
    obtain ⟨hidle, rfl⟩ := begins_eq hstep
    exact sendTunnelUdpDatagram_move rfl hidle
  | closeTunnelFlow thread client handle now =>
    obtain ⟨hidle, rfl⟩ := begins_eq hstep
    exact closeTunnelFlow_move rfl hidle
  | publishDecryptedPacket thread peer packet =>
    obtain ⟨hidle, rfl⟩ := begins_eq hstep
    exact ⟨_, publishDecryptedPacket_move rfl hidle, .refl _⟩
  | proceed thread available submission now => exact proceed_move hstep
  | work lwip now => exact work_move hstep
  | dispatch action => exact ⟨_, .dispatch action s' hstep, .refl _⟩

/-! ## The work of the adapter -/

/-- The callback of the adapter runs. -/
def AdapterRuns (d : HorizonDispatcher) : Prop :=
  (d.queues .submission).work = some .userspaceIpAdapter

/-- A run of the worker will still look into the slot: the work of the adapter is pending, or the
worker has not found the slot without an operation since it began. -/
def Scheduled (s : TunnelRuntime) : Prop :=
  HorizonDispatcher.Pending s.dispatcher .userspaceIpAdapter ∨
    s.worker ≠ .idle ∧ s.worker ≠ .returning

instance (s : TunnelRuntime) : Decidable (Scheduled s) :=
  inferInstanceAs (Decidable (_ ∨ _))

/-- The lanes are sound, and the worker is where its callback is. -/
structure Lanes (s : TunnelRuntime) : Prop where
  sound : HorizonDispatcher.Sound s.dispatcher
  runs : s.worker = .idle ↔ ¬AdapterRuns s.dispatcher

section Lanes

variable {d d' : HorizonDispatcher} {action : HorizonDispatcher.Action}

/-- What an action of the lanes does to the work of the adapter. -/
theorem adapter_step (h : HorizonDispatcher.Sound d) (hstep : d.step action = some d') :
    WorkQueue.Step (d.view .submission)
      (laneAct d .submission action) (d'.view .submission) :=
  (h.step hstep).2 .submission

/-- Pending work stays pending until it starts. -/
theorem pending_step (h : HorizonDispatcher.Sound d) (hstep : d.step action = some d')
    (hpend : HorizonDispatcher.Pending d .userspaceIpAdapter) :
    HorizonDispatcher.Pending d' .userspaceIpAdapter ∨
      laneAct d .submission action = .start .userspaceIpAdapter := by
  by_cases hstart : laneAct d .submission action = .start .userspaceIpAdapter
  · exact .inr hstart
  · have hview : (d.view WorkItem.userspaceIpAdapter.lane).Pending .userspaceIpAdapter :=
      h.pending_iff.mpr hpend
    have hkept := hview.step (h.orderly .submission) (adapter_step h hstep) hstart
    exact .inl ((h.step hstep).1.pending_iff.mp hkept.1)

/-- The work that a lane runs changes when the lane takes work or ends it. -/
theorem step_running {q r : WorkQueue WorkItem} {act : WorkQueue.Act WorkItem}
    (hstep : WorkQueue.Step q act r) :
    (∃ i, act = .start i ∧ q.running = none ∧ r.running = some i) ∨
      (act = .finish ∧ q.running.isSome ∧ r.running = none) ∨
      ((∀ i, act ≠ .start i) ∧ act ≠ .finish ∧ r.running = q.running) := by
  cases hstep with
  | coalesce | enqueue | rerun | other => exact .inr (.inr ⟨nofun, nofun, rfl⟩)
  | start i rest hwait hrunning => exact .inl ⟨i, rfl, hrunning, rfl⟩
  | finish i hrunning | requeue i hrunning =>
    exact .inr (.inl ⟨rfl, by rw [hrunning]; rfl, rfl⟩)

/-- The submission lane takes work, or ends it, or runs what it ran. -/
theorem runs_step (h : HorizonDispatcher.Sound d) (hstep : d.step action = some d') :
    (action = .dequeue .submission ∧ ¬AdapterRuns d ∧ (AdapterRuns d' ↔
        laneAct d .submission action = .start .userspaceIpAdapter)) ∨
      (action = .complete .submission ∧ ¬AdapterRuns d' ∧
        laneAct d .submission action ≠ .start .userspaceIpAdapter) ∨
      (action ≠ .dequeue .submission ∧ action ≠ .complete .submission ∧
        (AdapterRuns d' ↔ AdapterRuns d) ∧
        laneAct d .submission action ≠ .start .userspaceIpAdapter) := by
  have hstart : (laneAct d .submission action).isStart =
      decide (action = .dequeue .submission) := laneAct_isStart hstep
  have hfinish : laneAct d .submission action = .finish ↔
      action = .complete .submission := by
    constructor
    · intro hact
      unfold laneAct at hact
      split at hact
      · rename_i item
        revert hact
        split
        · cases (queue d item).1 <;> exact nofun
        · exact nofun
      · revert hact
        split
        · split <;> exact nofun
        · exact nofun
      · split at hact
        · rename_i hlane
          rw [hlane]
        · cases hact
    · rintro rfl
      rfl
  have hbefore : (d.view .submission).running = (d.queues .submission).work := rfl
  have hafter : (d'.view .submission).running = (d'.queues .submission).work := rfl
  rcases step_running (adapter_step h hstep) with ⟨i, hact, hnone, hsome⟩ | ⟨hact, hsome, hnone⟩ |
    ⟨hnotStart, hnotFinish, hsame⟩
  · refine .inl ⟨?_, ?_, ?_⟩
    · rw [hact] at hstart
      exact of_decide_eq_true hstart.symm
    · rw [AdapterRuns, ← hbefore, hnone]
      exact nofun
    · rw [AdapterRuns, ← hafter, hsome, hact]
      exact ⟨fun heq => congrArg WorkQueue.Act.start (Option.some.inj heq),
        fun heq => congrArg some (WorkQueue.Act.start.inj heq)⟩
  · refine .inr (.inl ⟨hfinish.mp hact, ?_, ?_⟩)
    · rw [AdapterRuns, ← hafter, hnone]
      exact nofun
    · rw [hact]
      exact nofun
  · refine .inr (.inr ⟨?_, fun hcomplete => hnotFinish (hfinish.mpr hcomplete), ?_, hnotStart _⟩)
    · intro hdequeue
      rw [decide_eq_true hdequeue] at hstart
      revert hstart hnotStart
      cases laneAct d .submission action with
      | start i => exact fun _ hnot => hnot i rfl
      | _ => exact nofun
    · rw [AdapterRuns, AdapterRuns, ← hbefore, ← hafter, hsame]

/-- A flushed lane has no work of the adapter. -/
theorem flushed_spec (h : Sound d) (hflushed : d.isSubmissionFlushed) :
    ¬Pending d .userspaceIpAdapter ∧ ¬AdapterRuns d := by
  obtain ⟨hempty, hactive⟩ := Bool.and_eq_true_iff.mp hflushed
  have hidle : (d.queues .submission).work = none := by
    have hcount := h.consistent.active .submission
    rw [of_decide_eq_true hactive] at hcount
    cases hwork : (d.queues .submission).work with
    | none => rfl
    | some i =>
      rw [hwork] at hcount
      cases hcount
  refine ⟨fun hpend => ?_, fun hruns => ?_⟩
  · have hview : (d.view WorkItem.userspaceIpAdapter.lane).Pending .userspaceIpAdapter :=
      h.pending_iff.mpr hpend
    rcases hview with hmem | ⟨hrunning, _⟩
    · have hnil : (d.queues .submission).works = [] := List.isEmpty_iff.mp hempty
      have hmem' : WorkItem.userspaceIpAdapter ∈ (d.queues .submission).works := hmem
      rw [hnil] at hmem'
      cases hmem'
    · have hrunning' : (d.queues .submission).work = some .userspaceIpAdapter := hrunning
      rw [hidle] at hrunning'
      cases hrunning'
  · rw [AdapterRuns, hidle] at hruns
    cases hruns

/-- A request for the work of the adapter that is not rejected leaves it pending. -/
theorem queueUserspaceIpAdapter_spec (h : HorizonDispatcher.Sound d) :
    HorizonDispatcher.Sound d.queueUserspaceIpAdapter.2 ∧
      (AdapterRuns d.queueUserspaceIpAdapter.2 ↔ AdapterRuns d) ∧
      (HorizonDispatcher.Pending d .userspaceIpAdapter →
        HorizonDispatcher.Pending d.queueUserspaceIpAdapter.2 .userspaceIpAdapter) ∧
      (isRejected d.queueUserspaceIpAdapter.1 = false →
        HorizonDispatcher.Pending d.queueUserspaceIpAdapter.2 .userspaceIpAdapter) := by
  have hstep : d.step (.queue .userspaceIpAdapter) = some d.queueUserspaceIpAdapter.2 := rfl
  obtain ⟨hsound, _⟩ := h.step hstep
  have hact : laneAct d .submission (.queue .userspaceIpAdapter) =
      Works.requestAct d.queueUserspaceIpAdapter.1 .userspaceIpAdapter := rfl
  have hadapter := adapter_step h hstep
  have hnotStart (i : WorkItem) :
      Works.requestAct d.queueUserspaceIpAdapter.1 .userspaceIpAdapter ≠ .start i := by
    cases d.queueUserspaceIpAdapter.1 <;> exact nofun
  refine ⟨hsound, ?_, fun hpend => ?_, fun hacc => ?_⟩
  · rw [hact] at hadapter
    rcases step_running hadapter with ⟨i, hstart, _⟩ | ⟨hfinish, _⟩ | ⟨_, _, hsame⟩
    · exact (hnotStart i hstart).elim
    · revert hfinish
      cases d.queueUserspaceIpAdapter.1 <;> exact nofun
    · have hwork : (d.queueUserspaceIpAdapter.2.queues .submission).work =
          (d.queues .submission).work := hsame
      rw [AdapterRuns, AdapterRuns, hwork]
  · refine (pending_step h hstep hpend).resolve_right fun hstart => ?_
    rw [hact] at hstart
    exact hnotStart _ hstart
  · have hpend : (d.queueUserspaceIpAdapter.2.view .submission).Pending
        WorkItem.userspaceIpAdapter := by
      have hrequested : Works.requestAct d.queueUserspaceIpAdapter.1 WorkItem.userspaceIpAdapter =
          .request .userspaceIpAdapter := by
        revert hacc
        cases d.queueUserspaceIpAdapter.1 <;> first | exact fun _ => rfl | exact nofun
      rw [hact, hrequested] at hadapter
      generalize d.queueUserspaceIpAdapter.2.view .submission = after at hadapter ⊢
      generalize d.view .submission = before at hadapter
      cases hadapter with
      | coalesce _ hpend => exact hpend
      | enqueue => exact .inl (List.mem_append_right _ List.mem_cons_self)
      | rerun _ hrunning => exact .inr ⟨hrunning, rfl⟩
    exact hsound.pending_iff.mp hpend

end Lanes

/-- What the lanes do to the daemon. -/
theorem dispatch_spec {action : HorizonDispatcher.Action} (h : Lanes s)
    (hdispatch : s.dispatch action = some s') :
    Lanes s' ∧ (Scheduled s → Scheduled s') ∧ ∃ dispatcher worker,
      s' = { s with dispatcher, worker } ∧
        (worker = s.worker ∨ s.worker = .idle ∧ worker = .looping ∨
          s.worker = .returning ∧ worker = .idle) := by
  unfold dispatch at hdispatch
  obtain ⟨d, hstep, hnext⟩ := Option.bind_eq_some_iff.mp hdispatch
  have hsound := (h.sound.step hstep).1
  have hpend := pending_step h.sound hstep
  -- A lane that neither starts nor ends the callback leaves the worker where it is.
  have hkept (hruns : AdapterRuns d ↔ AdapterRuns s.dispatcher)
      (hnot : laneAct s.dispatcher .submission action ≠
        .start .userspaceIpAdapter) (heq : some { s with dispatcher := d } = some s') :
      Lanes s' ∧ (Scheduled s → Scheduled s') ∧ ∃ dispatcher worker,
        s' = { s with dispatcher, worker } ∧ (worker = s.worker ∨
          s.worker = .idle ∧ worker = .looping ∨ s.worker = .returning ∧ worker = .idle) := by
    cases heq
    exact ⟨⟨hsound, h.runs.trans (not_congr hruns).symm⟩, fun hsched =>
      hsched.imp_left fun hp => (hpend hp).resolve_right hnot, d, s.worker, rfl, .inl rfl⟩
  rcases runs_step h.sound hstep with ⟨rfl, hbefore, hafter⟩ | ⟨rfl, hafter, hnot⟩ |
    ⟨hdequeue, hcomplete, hruns, hnot⟩
  · simp only [true_and] at hnext
    split at hnext
    · rename_i hruns
      cases hnext
      refine ⟨⟨hsound, nofun, fun hnot => (hnot hruns).elim⟩,
        fun _ => .inr ⟨nofun, nofun⟩, d, .looping, rfl, .inr (.inl ⟨h.runs.mpr hbefore, rfl⟩)⟩
    · rename_i hruns
      exact hkept (iff_of_false hruns hbefore) (mt hafter.mpr hruns) hnext
  · simp only [true_and] at hnext
    split at hnext
    · split at hnext
      · rename_i hworker
        cases hnext
        refine ⟨⟨hsound, fun _ => hafter, fun _ => rfl⟩, fun hsched => .inl ?_, d, .idle, rfl,
          .inr (.inr ⟨hworker, rfl⟩)⟩
        rcases hsched with hp | ⟨_, hbusy⟩
        · exact (hpend hp).resolve_right hnot
        · exact (hbusy hworker).elim
      · cases hnext
    · rename_i hruns
      exact hkept (iff_of_false hafter hruns) hnot hnext
  · cases action with
    | queue item => exact hkept hruns hnot hnext
    | dequeue lane =>
      have hlane : lane ≠ .submission := fun heq => hdequeue (congrArg _ heq)
      simp only [hlane, false_and, if_false] at hnext
      exact hkept hruns hnot hnext
    | complete lane =>
      have hlane : lane ≠ .submission := fun heq => hcomplete (congrArg _ heq)
      simp only [hlane, false_and, if_false] at hnext
      exact hkept hruns hnot hnext

end TunnelRuntime

end WireguardNx.Runtime
