import WireguardNx.Laws.Watch

/-!
# Who owns a socket

A socket comes to the peer in a `UdpBindOpenedEvent`.  From then on the binding holds it, until an
effect closes it; a socket that is not adopted is closed at once.  One turn turns the held socket
and the delivered one into the held socket and the closed ones, and so does every run.

A socket is assumed to be delivered once (`Fresh`); the platform opens a new one for each request.
-/

namespace WireguardNx.Runtime

open Wireguard PeerRuntime HandlerState List

def closedSockets (effects : List RuntimeEffect) : List SocketHandle :=
  effects.filterMap fun effect =>
    match effect with
    | .closeUdpSocket _ socket => some socket
    | _ => none

/-- A handle as a list of the sockets it is. -/
def openSockets (socket : SocketHandle) : List SocketHandle :=
  if socket ≠ invalidSocket then [socket] else []

def PeerEvent.deliveredSockets : PeerEvent → List SocketHandle
  | .udpBindOpened event => openSockets event.socket
  | _ => []

/-- The sockets that were delivered, and those that an effect closed. -/
structure SocketLog where
  delivered : List SocketHandle
  closed : List SocketHandle

namespace SocketLog

def empty : SocketLog := ⟨[], []⟩

def record (run : Watched SocketLog) (event : PeerEvent) (handled : PeerRuntime × EffectBatch) :
    SocketLog where
  delivered := run.seen.delivered ++ event.deliveredSockets
  closed := run.seen.closed ++ closedSockets handled.2.effects

/-- A delivered socket was not delivered before. -/
def Fresh (run : Watched SocketLog) (event : PeerEvent) : Prop :=
  ∀ socket ∈ event.deliveredSockets, socket ∉ run.seen.delivered

instance (run : Watched SocketLog) (event : PeerEvent) : Decidable (Fresh run event) :=
  inferInstanceAs (Decidable (∀ socket ∈ event.deliveredSockets, socket ∉ run.seen.delivered))

end SocketLog

section Sockets

variable {c : Crypto} {p : Platform} {s : PeerRuntime} {st after : HandlerState}

theorem closedSockets_append (effects added : List RuntimeEffect) :
    closedSockets (effects ++ added) = closedSockets effects ++ closedSockets added :=
  filterMap_append

/-- Only transport effects close sockets. -/
theorem closedSockets_filter (effects : List RuntimeEffect) :
    closedSockets (effects.filter RuntimeEffect.isTransport) = closedSockets effects := by
  unfold closedSockets
  rw [filterMap_filter]
  refine filterMap_congr fun effect _ => ?_
  cases effect <;> rfl

private theorem closedSockets_of_transport {first second : HandlerState}
    (h : first.transportEffects = second.transportEffects) :
    closedSockets first.effects = closedSockets second.effects := by
  rw [← closedSockets_filter, ← closedSockets_filter second.effects]
  exact congrArg closedSockets h

theorem closedSockets_closing (s : PeerRuntime) :
    closedSockets s.closing = openSockets s.binding.socket := by
  unfold closing openSockets
  split
  · rfl
  · rfl

theorem closedSockets_rejectSocket (s : PeerRuntime) (event : UdpBindOpenedEvent) :
    closedSockets (s.rejectSocket event).effects = openSockets event.socket := by
  unfold rejectSocket openSockets
  split
  · rfl
  · rfl

/-- The sockets a handler has to account for: the held one and those it closes. -/
def HandlerState.sockets (st : HandlerState) : List SocketHandle :=
  openSockets st.runtime.binding.socket ++ closedSockets st.effects

theorem HandlerState.Kept.sockets (h : st.Kept after) : after.sockets = st.sockets := by
  have hsocket : after.runtime.binding.socket = st.runtime.binding.socket :=
    congrArg Setup.socket h.setup
  unfold HandlerState.sockets
  rw [hsocket, closedSockets_of_transport h.effects]

/-- The error state closes the socket it takes from the binding. -/
theorem HandlerState.Failed.sockets (h : st.Failed after) : after.sockets.Perm st.sockets := by
  have hsocket : after.runtime.binding.socket = invalidSocket := congrArg Setup.socket h.setup
  have hclosed : closedSockets after.effects =
      closedSockets st.effects ++ openSockets st.runtime.binding.socket := by
    rw [← closedSockets_filter, show after.effects.filter RuntimeEffect.isTransport = _ from
      h.effects, closedSockets_append, closedSockets_closing]
    exact congrArg (· ++ _) (closedSockets_filter st.effects)
  unfold HandlerState.sockets
  rw [hsocket, hclosed]
  exact (perm_append_comm : (closedSockets st.effects ++ _).Perm _)

theorem HandlerState.sockets_start (s : PeerRuntime) :
    sockets ⟨s, []⟩ = openSockets s.binding.socket :=
  append_nil _

theorem Work.sockets {identity : PeerIdentity} (h : Traffic c p identity st after) :
    after.sockets.Perm st.sockets := by
  obtain hkept | hfailed := h.outcome
  · rw [hkept.sockets]
  · exact hfailed.sockets

/-- One event accounts for the socket that was held and the one it delivers. -/
theorem Turn.sockets {event : PeerEvent} (h : Turn c p s event st) (hs : s.Sound c) :
    st.sockets.Perm (openSockets s.binding.socket ++ event.deliveredSockets) := by
  have hother (hanswer : event.isAnswer = false) : event.deliveredSockets = [] := by
    cases event with
    | udpBindOpened => cases hanswer
    | _ => rfl
  have hclosed (hstate : ¬ s.isInTransportState) : openSockets s.binding.socket = [] := by
    have hsocket : s.binding.socket = invalidSocket :=
      socket_of_not_isOpen fun hopen => hstate (hs.open_transport hopen).1
    rw [hsocket]
    rfl
  cases h with
  | idle event hanswer => rw [hother hanswer]; exact .refl _
  | traffic event st hevent _ htraffic =>
    rw [hother (isAnswer_of_isTraffic hevent)]
    exact htraffic.sockets
  | refuse | unresolved => exact (enterActivationError_failed ..).sockets
  | activate | doubt | regain | resolve | ignore | bind => exact .refl _
  | deactivate event hcur =>
    have hsocket := (handleDeactivationRequested_spec hcur).1.socket
    have hclosed : closedSockets (s.handleDeactivationRequested event).effects =
        openSockets s.binding.socket := by
      rw [← closedSockets_filter, show filter _ _ = _ from
        handleDeactivationRequested_transport hcur, closedSockets_append, closedSockets_closing]
      split
      · rfl
      · rfl
    unfold sockets
    rw [hsocket, hclosed]
    exact perm_append_comm
  | lose event _ =>
    unfold sockets
    rw [losePath_runtime, ← closedSockets_filter, show filter _ _ = _ from
      losePath_transportEffects _ _]
    simp only
    split
    · rw [closedSockets_closing]
      exact perm_append_comm
    · exact .refl _
  | rebind event _ hpath =>
    rw [hother (by cases event <;> first | rfl | cases hpath)]
    exact .refl _
  | stale event _ | drop event _ =>
    unfold sockets
    rw [rejectSocket_runtime, closedSockets_rejectSocket]
    exact .refl _
  | unopened event _ _ =>
    refine (enterActivationError_failed ..).sockets.trans ?_
    unfold sockets
    rw [rejectSocket_runtime, closedSockets_rejectSocket]
    exact .refl _
  | rebound event binding st _ _ _ _ _ _ hsocket _ _ _ _ htraffic =>
    have hstart : sockets ⟨s.rebound binding, s.closing⟩ =
        openSockets event.socket ++ openSockets s.binding.socket := by
      unfold HandlerState.sockets PeerRuntime.rebound
      rw [closedSockets_closing, hsocket]
    have hadd : (st.add (.queueReceive event.peer)).sockets = st.sockets :=
      (kept_add rfl).sockets
    rw [hadd]
    refine htraffic.sockets.trans ?_
    rw [hstart]
    exact perm_append_comm
  | bound event binding peer st _ _ hstate _ _ _ _ hsocket _ _ _ _ _ htraffic =>
    refine htraffic.sockets.trans ?_
    rw [hclosed (not_transport_of_resolving hstate), sockets_start]
    exact .of_eq (congrArg openSockets hsocket)
  | unkeyed event binding _ _ hstate _ _ hsocket =>
    refine (enterActivationError_failed ..).sockets.trans ?_
    rw [hclosed (not_transport_of_resolving hstate), sockets_start]
    exact .of_eq (congrArg openSockets hsocket)

/-- The log accounts for every socket once: it is held or was closed. -/
structure SocketLog.Accounts (run : Watched SocketLog) : Prop where
  owned : (openSockets run.peer.binding.socket ++ run.seen.closed).Perm run.seen.delivered
  distinct : run.seen.delivered.Nodup
  valid : ∀ socket ∈ run.seen.delivered, socket ≠ invalidSocket

theorem mem_openSockets {socket held : SocketHandle} :
    socket ∈ openSockets held ↔ socket = held ∧ held ≠ invalidSocket := by
  unfold openSockets
  split
  · rename_i hheld
    rw [mem_singleton, and_iff_left hheld]
  · rename_i hheld
    simp [hheld]

private theorem deliveredSockets_spec (event : PeerEvent) :
    event.deliveredSockets.Nodup ∧ ∀ socket ∈ event.deliveredSockets, socket ≠ invalidSocket := by
  have hopen (socket : SocketHandle) : (openSockets socket).Nodup := by
    unfold openSockets
    split
    · exact nodup_singleton _
    · exact nodup_nil
  cases event with
  | udpBindOpened event =>
    refine ⟨hopen event.socket, fun socket hmem => ?_⟩
    obtain ⟨rfl, hvalid⟩ := mem_openSockets.mp hmem
    exact hvalid
  | _ => exact ⟨nodup_nil, fun _ hmem => absurd hmem not_mem_nil⟩

/-- One event keeps the account. -/
theorem SocketLog.accounts_step {run : Watched SocketLog} {event : PeerEvent}
    {after : PeerRuntime} {batch : EffectBatch} (hs : run.peer.Sound c)
    (hfresh : SocketLog.Fresh run event) (hrun : SocketLog.Accounts run)
    (hhandle : run.peer.handle c p event = some (after, batch)) :
    SocketLog.Accounts ⟨after, record run event (after, batch)⟩ := by
  obtain ⟨st, timers, intent, hst, rfl, -, hbatch⟩ := handle_filter hhandle
  have hturn := (handleEvent_turn hst).sockets hs
  obtain ⟨hnodup, hvalid⟩ := deliveredSockets_spec event
  have hclosed : closedSockets batch.effects = closedSockets st.effects := by
    rw [← closedSockets_filter, ← closedSockets_filter st.effects,
      hbatch RuntimeEffect.isTransport fun _ => isTransport_of_isTimer]
  refine ⟨?_, ?_, ?_⟩
  · have hafter : (openSockets st.runtime.binding.socket ++
        (run.seen.closed ++ closedSockets st.effects)).Perm (st.sockets ++ run.seen.closed) := by
      rw [sockets, append_assoc]
      exact .append_left _ perm_append_comm
    have hbefore : (openSockets run.peer.binding.socket ++ event.deliveredSockets ++
        run.seen.closed).Perm (openSockets run.peer.binding.socket ++ run.seen.closed ++
          event.deliveredSockets) := by
      rw [append_assoc, append_assoc]
      exact .append_left _ perm_append_comm
    unfold SocketLog.record
    simp only [hclosed]
    exact hafter.trans ((hturn.append_right _).trans (hbefore.trans (hrun.owned.append_right _)))
  · exact nodup_append.mpr ⟨hrun.distinct, hnodup,
      fun socket hold other hnew heq => hfresh socket (heq ▸ hnew) hold⟩
  · intro socket hmem
    obtain hmem | hmem := mem_append.mp hmem
    · exact hrun.valid socket hmem
    · exact hvalid socket hmem

/-- A delivered socket is held or was closed once, never both.  No socket is closed that was not
delivered, is still held or was closed before, and none is held by an inactive peer or in the error
state. -/
theorem sockets_owned_once {run : Watched SocketLog}
    (h : (watchedWhere c .empty SocketLog.record SocketLog.Fresh).Reachable run) :
    (∀ socket ∈ run.seen.delivered,
        (run.peer.binding.socket = socket ∧ run.seen.closed.count socket = 0) ∨
          (run.peer.binding.socket ≠ socket ∧ run.seen.closed.count socket = 1)) ∧
      run.seen.closed.Nodup ∧
      (∀ socket ∈ run.seen.closed, socket ∈ run.seen.delivered ∧
        run.peer.binding.socket ≠ socket) ∧
      (run.peer.lifecycle.state = .inactive ∨ run.peer.lifecycle.state = .error →
        run.peer.binding.socket = invalidSocket) := by
  have hrun : SocketLog.Accounts run := by
    refine watchedWhere_invariant ?_ ?_ h
    · rintro s ⟨peerIndex, config, derived, now, hconf⟩
      have hclosed : s.binding.socket = invalidSocket := by
        refine socket_of_not_isOpen fun hopen => ?_
        have htrans := ((configure_sound (c := c) hconf).open_transport hopen).1
        rw [isInTransportState_iff, configure_state hconf] at htrans
        rcases htrans with hstate | hstate
        · cases hstate
        · cases hstate
      refine ⟨?_, nodup_nil, fun _ hmem => absurd hmem not_mem_nil⟩
      rw [hclosed]
      exact .refl _
    · intro run p event after batch hs _ _ hfresh hrun hhandle
      exact SocketLog.accounts_step hs hfresh hrun hhandle
  have hnodup : (openSockets run.peer.binding.socket ++ run.seen.closed).Nodup :=
    hrun.owned.nodup_iff.mpr hrun.distinct
  obtain ⟨-, hclosed, hapart⟩ := nodup_append.mp hnodup
  have hheld (socket : SocketHandle) (hmem : socket ∈ run.seen.closed) :
      socket ∈ run.seen.delivered ∧ run.peer.binding.socket ≠ socket := by
    have hdelivered := hrun.owned.subset (mem_append_right _ hmem)
    refine ⟨hdelivered, fun heq => ?_⟩
    have hopen : socket ∈ openSockets run.peer.binding.socket :=
      mem_openSockets.mpr ⟨heq.symm, heq ▸ hrun.valid socket hdelivered⟩
    exact hapart socket hopen socket hmem rfl
  refine ⟨fun socket hmem => ?_, hclosed, hheld, fun hstate => ?_⟩
  · obtain hopen | hmem := mem_append.mp (hrun.owned.symm.subset hmem)
    · obtain ⟨rfl, -⟩ := mem_openSockets.mp hopen
      exact Or.inl ⟨rfl, count_eq_zero.mpr fun hmem => hapart _ hopen _ hmem rfl⟩
    · exact Or.inr ⟨(hheld socket hmem).2, count_eq_one_of_mem hclosed hmem⟩
  · refine socket_of_not_isOpen fun hopen => ?_
    have htrans := ((watchedWhere_sound h).open_transport hopen).1
    rw [isInTransportState_iff] at htrans
    rcases hstate with hstate | hstate
    · rw [hstate] at htrans
      simp at htrans
    · rw [hstate] at htrans
      simp at htrans

/-- The sample peer replaces its socket and then loses its path. -/
theorem sockets_owned_once_sample :
    ∃ run, (watchedWhere .transparent .empty SocketLog.record SocketLog.Fresh).Reachable run ∧
      run.seen.delivered = [3, 4, 5] ∧ run.seen.closed = [3, 4] ∧ run.peer.binding.socket = 5 ∧
      run.seen.closed.Nodup := by
  have hrun : (sampleWatched .empty SocketLog.record SocketLog.Fresh
      (sampleActivation (seconds 10) ++
        [(.constant (seconds 11) 8, .udpRebindRequested ⟨sampleIdentity, seconds 11⟩),
          (.constant (seconds 12) 8, .udpBindOpened ⟨sampleIdentity, 1, sampleEndpoint, [], 4,
            .none, 2, .rebind, ⟨seconds 12, 0⟩, seconds 12⟩),
          (.constant (seconds 13) 8, .udpRebindRequested ⟨sampleIdentity, seconds 13⟩),
          (.constant (seconds 14) 8, .networkPathAvailabilityChanged
            ⟨sampleIdentity, 1, .unavailable, seconds 14⟩),
          (.constant (seconds 15) 8, .networkPathAvailabilityChanged
            ⟨sampleIdentity, 1, .available, seconds 15⟩),
          (.constant (seconds 16) 8, .udpBindOpened ⟨sampleIdentity, 1, sampleEndpoint, [], 5,
            .none, 3, .rebind, ⟨seconds 16, 0⟩, seconds 16⟩)])).map (fun run =>
        (run.seen.delivered, run.seen.closed, run.peer.binding.socket)) =
      some ([3, 4, 5], [3, 4], 5) := by
    decide +kernel
  obtain ⟨run, hrun, hfacts⟩ := Option.map_eq_some_iff.mp hrun
  simp only [Prod.mk.injEq] at hfacts
  have hreach := sampleWatched_reachable hrun
  exact ⟨run, hreach, hfacts.1, hfacts.2.1, hfacts.2.2, (sockets_owned_once hreach).2.1⟩

end Sockets

end WireguardNx.Runtime
