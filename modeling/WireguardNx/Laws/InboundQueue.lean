import WireguardNx.Mitm.FlowWorker

/-!
# The inbound datagrams of a socket

The datagrams that wait at a socket stand in an array without a head or a sequence number: a new
one goes to the first free place and `Receive` takes the first occupied one.  The array is compared
here with a queue of the same bound.  `Receive` keeps the agreement from any state.  A new datagram
keeps it when the waiting ones fill the first places; behind a gap it overtakes them.

A socket is what `FindFlow` finds for an owner and a descriptor.  Once its flow is closed it has no
datagrams any more, and `Receive` answers so; a socket that is opened has none yet.  Of what else the
worker does it is assumed that it leaves the places of the socket alone, closes it or opens it.
-/

namespace WireguardNx.Mitm

open Tunnel List Function

abbrev InboundPlace := Fin maximumInboundDatagramsPerSocket

/-- A datagram as `Receive` returns it: where it came from, and its bytes. -/
abbrev Delivery := TunnelFlowEndpoint × List UInt8

namespace FlowEntry

variable {entry : FlowEntry} {inbound : InboundPlace → InboundDatagram} {k : InboundPlace}
  {places before after : List InboundPlace}

/-- The datagrams that wait at some places, in the order of the places. -/
def waitingAt (inbound : InboundPlace → InboundDatagram) (places : List InboundPlace) :
    List Delivery :=
  ((places.map inbound).filter (·.occupied)).map fun datagram => (datagram.remote, datagram.payload)

/-- The datagrams that wait at the socket. -/
def waiting (entry : FlowEntry) : List Delivery :=
  waitingAt entry.inbound (List.finRange maximumInboundDatagramsPerSocket)

/-- Whether the waiting datagrams fill the first places. -/
def Gapless (entry : FlowEntry) : Prop :=
  ∀ j k, j < k → (entry.inbound k).occupied = true → (entry.inbound j).occupied = true

instance (entry : FlowEntry) : Decidable entry.Gapless := inferInstanceAs (Decidable (∀ _, _))

theorem waitingAt_append (inbound : InboundPlace → InboundDatagram)
    (first second : List InboundPlace) :
    waitingAt inbound (first ++ second) = waitingAt inbound first ++ waitingAt inbound second := by
  simp [waitingAt]

theorem waitingAt_update_of_notMem (hk : k ∉ places) (datagram : InboundDatagram) :
    waitingAt (update inbound k datagram) places = waitingAt inbound places := by
  unfold waitingAt
  have hsame : places.map (update inbound k datagram) = places.map inbound :=
    map_congr_left fun j hj => update_of_ne (fun h : j = k => hk (h ▸ hj)) _ _
  rw [hsame]

/-- A datagram that is written waits between those before and those behind its place. -/
theorem waiting_setInbound (entry : FlowEntry)
    (hplaces : finRange maximumInboundDatagramsPerSocket = before ++ k :: after)
    (datagram : InboundDatagram) :
    (entry.setInbound k datagram).waiting = waitingAt entry.inbound before ++
      (if datagram.occupied then [(datagram.remote, datagram.payload)] else []) ++
      waitingAt entry.inbound after := by
  have hnodup := nodup_finRange maximumInboundDatagramsPerSocket
  rw [hplaces, nodup_middle, nodup_cons, mem_append, not_or] at hnodup
  rw [waiting, hplaces, append_cons, waitingAt_append, waitingAt_append, setInbound,
    waitingAt_update_of_notMem hnodup.1.1, waitingAt_update_of_notMem hnodup.1.2]
  congr 2
  cases hocc : datagram.occupied <;> simp [waitingAt, hocc]

theorem setInbound_self (entry : FlowEntry) (k : InboundPlace) :
    entry.setInbound k (entry.inbound k) = entry := by
  rw [setInbound, update_eq_self]

theorem waitingAt_of_free {entry : FlowEntry}
    (h : ∀ j ∈ places, (entry.inbound j).occupied = false) :
    waitingAt entry.inbound places = [] := by
  simpa [waitingAt] using h

/-! ## Taking and storing -/

theorem waiting_of_takeInbound_none (h : entry.takeInbound = none) : entry.waiting = [] := by
  refine waitingAt_of_free fun j hj => ?_
  simpa using find?_eq_none.mp h j hj

/-- What `TakeInbound` finds is the first of the waiting datagrams. -/
theorem waiting_of_takeInbound (h : entry.takeInbound = some k) :
    entry.waiting = ((entry.inbound k).remote, (entry.inbound k).payload) ::
      (entry.setInbound k { entry.inbound k with occupied := false }).waiting := by
  obtain ⟨hocc, before, after, hplaces, hbefore⟩ := find?_eq_some_iff_append.mp h
  have hwait := waiting_setInbound entry hplaces (entry.inbound k)
  have hnone := waitingAt_of_free fun j hj => by simpa using hbefore j hj
  rw [setInbound_self, hnone, if_pos hocc] at hwait
  rw [waiting_setInbound entry hplaces, hnone, hwait]
  rfl

/-- Without a free place four datagrams wait. -/
theorem length_waiting_of_allocateInbound_none (h : entry.allocateInbound = none) :
    entry.waiting.length = maximumInboundDatagramsPerSocket := by
  have hall : ∀ j, (entry.inbound j).occupied := fun j => by
    simpa using find?_eq_none.mp h j (mem_finRange j)
  simp [waiting, waitingAt, filter_eq_self.mpr, hall]

/-- The places around the one that `AllocateInbound` finds. -/
theorem waiting_of_allocateInbound (h : entry.allocateInbound = some k) :
    ∃ before after, finRange maximumInboundDatagramsPerSocket = before ++ k :: after ∧
      (entry.inbound k).occupied = false ∧
      entry.waiting = waitingAt entry.inbound before ++ waitingAt entry.inbound after := by
  obtain ⟨hfree, before, after, hplaces, -⟩ := find?_eq_some_iff_append.mp h
  have hfree : (entry.inbound k).occupied = false := by simpa using hfree
  have hwait := waiting_setInbound entry hplaces (entry.inbound k)
  rw [setInbound_self, hfree, if_neg Bool.false_ne_true, append_nil] at hwait
  exact ⟨before, after, hplaces, hfree, hwait⟩

/-- With a free place fewer wait. -/
theorem length_waiting_of_allocateInbound (h : entry.allocateInbound = some k) :
    entry.waiting.length < maximumInboundDatagramsPerSocket := by
  obtain ⟨before, after, hplaces, -, hwait⟩ := waiting_of_allocateInbound h
  have hbound (places) : (waitingAt entry.inbound places).length ≤ places.length := by
    rw [waitingAt, length_map]
    exact (length_filter_le _ _).trans_eq (length_map _)
  have hlen := congrArg length hplaces
  have hfirst := hbound before
  have hlast := hbound after
  rw [length_finRange, length_append, length_cons] at hlen
  rw [hwait, length_append]
  omega

/-- A datagram stored behind no gap is the last of the waiting ones. -/
theorem waiting_store (hgapless : entry.Gapless) (h : entry.allocateInbound = some k)
    (remote : TunnelFlowEndpoint) (payload : List UInt8) :
    (entry.setInbound k ⟨true, remote, payload⟩).waiting =
      entry.waiting ++ [(remote, payload)] := by
  obtain ⟨before, after, hplaces, hfree, hwait⟩ := waiting_of_allocateInbound h
  have hafter : waitingAt entry.inbound after = [] := by
    refine waitingAt_of_free fun j hj => ?_
    have hsorted := pairwise_lt_finRange maximumInboundDatagramsPerSocket
    rw [hplaces] at hsorted
    have hlt : k < j := rel_of_pairwise_cons (pairwise_append.mp hsorted).2.1 hj
    -- an occupied place behind `k` would have `k` occupied as well
    exact Bool.eq_false_iff.mpr fun hj => by simp [hgapless k j hlt hj] at hfree
  rw [waiting_setInbound entry hplaces, hwait, hafter, append_nil, append_nil]
  rfl

end FlowEntry

namespace TunnelFlowWorker

/-! ## Sockets -/

section Sockets

variable (worker : TunnelFlowWorker) (owner : UInt64) (descriptor : Int)

/-- The entry of a socket while its flow is open. -/
def openEntry : Option (Fin maximumSockets) :=
  (worker.findFlow owner descriptor).filter fun i => !(worker.flows i).submission.closed

def openPlaces : Option (List InboundDatagram) :=
  (worker.openEntry owner descriptor).map fun i =>
    (finRange maximumInboundDatagramsPerSocket).map (worker.flows i).inbound

def socketWaiting : List Delivery :=
  (((worker.openPlaces owner descriptor).getD []).filter (·.occupied)).map fun datagram =>
    (datagram.remote, datagram.payload)

variable {worker owner descriptor} {i : Fin maximumSockets}

theorem socketWaiting_of_open (h : worker.openEntry owner descriptor = some i) :
    worker.socketWaiting owner descriptor = (worker.flows i).waiting := by
  unfold socketWaiting openPlaces
  rw [h]
  rfl

private theorem socketWaiting_of_closed (h : worker.openEntry owner descriptor = none) :
    worker.socketWaiting owner descriptor = [] := by
  unfold socketWaiting openPlaces
  rw [h]
  rfl

private theorem openEntry_setInbound (k : InboundPlace) (datagram : InboundDatagram) :
    (worker.setFlow i ((worker.flows i).setInbound k datagram)).openEntry owner descriptor =
      worker.openEntry owner descriptor := by
  -- only the places of the entry differ
  have hsame (f : FlowEntry → Bool) (hf : ∀ entry : FlowEntry,
      f (entry.setInbound k datagram) = f entry) :
      (fun j => f ((worker.setFlow i ((worker.flows i).setInbound k datagram)).flows j)) =
        fun j => f (worker.flows j) := by
    funext j
    by_cases hj : j = i
    · subst hj
      simp [setFlow, hf]
    · simp [setFlow, update_of_ne hj]
  exact congrArg₂ (fun found isOpen => ((finRange maximumSockets).find? found).filter isOpen)
    (hsame (fun entry => entry.occupied && entry.owner == owner &&
      entry.descriptor == descriptor) fun _ => rfl)
    (hsame (fun entry => !entry.submission.closed) fun _ => rfl)

/-- A socket whose flow is written at a place. -/
theorem socketWaiting_setInbound (h : worker.openEntry owner descriptor = some i)
    (k : InboundPlace) (datagram : InboundDatagram) :
    (worker.setFlow i ((worker.flows i).setInbound k datagram)).socketWaiting owner descriptor =
      ((worker.flows i).setInbound k datagram).waiting := by
  rw [socketWaiting_of_open ((openEntry_setInbound k datagram).trans h)]
  simp [setFlow]

/-- The branches of `Dispatch` that need an open flow find it, or answer that there is none. -/
theorem withOpenFlow_eq (act : Fin maximumSockets → OperationAnswer × TunnelFlowWorker) :
    worker.withOpenFlow owner descriptor act =
      match worker.openEntry owner descriptor with
      | none => (.of .closed, worker)
      | some i => act i := by
  unfold withOpenFlow openEntry
  cases worker.findFlow owner descriptor with
  | none => rfl
  | some i => cases hclosed : (worker.flows i).submission.closed <;> simp [Option.filter, hclosed]

end Sockets

/-! ## Runs -/

/-- The worker beside the queue that a socket stands for, and what the calls of `Receive` have
returned from each. -/
structure InboundRun where
  worker : TunnelFlowWorker
  queue : List Delivery
  received : List Delivery
  expected : List Delivery

/-- An inbound datagram is drained, a datagram is received, or the worker does something else. -/
inductive InboundAction where
  | drained (payload : List UInt8) (record : CompletionRecord)
  | receive (outputSize : Nat)
  | other (next : TunnelFlowWorker)

/-- Whether `DrainCompletions` takes an inbound datagram for the socket. -/
def takesInbound (worker : TunnelFlowWorker) (i : Fin maximumSockets) (record : CompletionRecord) :
    Bool :=
  decide (record.flow = (worker.flows i).flow) && !(worker.flows i).submission.closed &&
    sameEndpoint record.remote (worker.flows i).remote

namespace InboundRun

section Steps

variable (owner : UInt64) (descriptor : Int) (s : InboundRun)

/-- One step of the worker and of the queue of at most four datagrams, which is lost when the socket
is closed. -/
def step : InboundAction → Option InboundRun
  | .drained payload record =>
    (s.worker.findFlow owner descriptor).bind fun i =>
      (receiveRecord i payload s.worker record).map fun worker =>
        { s with
          worker
          queue := if s.worker.takesInbound i record ∧
              s.queue.length < maximumInboundDatagramsPerSocket then
            s.queue ++ [(toEndpoint record.remote,
              (payload.drop record.payloadOffset).take record.payloadSize)]
            else s.queue }
  | .receive outputSize =>
    let (answer, worker) := s.worker.withOpenFlow owner descriptor fun i =>
      s.worker.dispatchReceive i outputSize
    some ⟨worker, s.queue.tail,
      s.received ++ if answer.result = .opened then [(answer.remote, answer.received)] else [],
      s.expected ++ (s.queue.take 1).map fun datagram => (datagram.1, datagram.2.take outputSize)⟩
  | .other next =>
    some { s with
      worker := next
      queue := if (next.openPlaces owner descriptor).isSome then s.queue else [] }

/-- The steps meant: only inbound datagrams are drained, and what the worker does in between leaves
the places of the socket alone, closes the socket or opens it. -/
def Inbound : InboundAction → Prop
  | .drained _ record => record.type = .inboundDatagram
  | .receive _ => True
  | .other next => next.openPlaces owner descriptor = s.worker.openPlaces owner descriptor ∨
      next.openPlaces owner descriptor = none ∨
      s.worker.openPlaces owner descriptor = none ∧ next.openPlaces owner descriptor =
        some (replicate maximumInboundDatagramsPerSocket .empty)

/-- A datagram that is taken finds the waiting ones in the first places. -/
def StoresInOrder : InboundAction → Prop
  | .drained _ record => ∀ i ∈ s.worker.findFlow owner descriptor,
      s.worker.takesInbound i record = true → (s.worker.flows i).Gapless
  | .receive _ | .other _ => True

/-- The runs from an open socket at which nothing waits, all of whose steps are `allowed`. -/
def inboundRuns (allowed : InboundRun → InboundAction → Prop) : Machine InboundRun :=
  Machine.ofActions
    (fun s => s.worker.openPlaces owner descriptor =
        some (replicate maximumInboundDatagramsPerSocket .empty) ∧
      s.queue = [] ∧ s.received = s.expected)
    (fun s action => s.Inbound owner descriptor action ∧ allowed s action) (step owner descriptor)

/-- The worker has returned what the queue has, and the same datagrams wait. -/
structure Agrees : Prop where
  received : s.received = s.expected
  waiting : s.worker.socketWaiting owner descriptor = s.queue
  length_le : s.queue.length ≤ maximumInboundDatagramsPerSocket

instance (action : InboundAction) : Decidable (s.Inbound owner descriptor action) :=
  match action with
  | .drained _ record => inferInstanceAs (Decidable (record.type = .inboundDatagram))
  | .receive _ => inferInstanceAs (Decidable True)
  | .other _ => inferInstanceAs (Decidable (_ ∨ _ ∨ _ ∧ _))

instance (action : InboundAction) : Decidable (s.StoresInOrder owner descriptor action) :=
  match action with
  | .drained _ record => inferInstanceAs (Decidable (∀ i ∈ s.worker.findFlow owner descriptor,
      s.worker.takesInbound i record = true → (s.worker.flows i).Gapless))
  | .receive _ | .other _ => inferInstanceAs (Decidable True)

end Steps

variable {owner : UInt64} {descriptor : Int} {s next : InboundRun} {i : Fin maximumSockets}

private theorem receiveRecord_inbound {worker : TunnelFlowWorker} {payload : List UInt8}
    {record : CompletionRecord} (htype : record.type = .inboundDatagram) :
    receiveRecord i payload worker record =
      some (if worker.takesInbound i record then worker.storeInbound i payload record
        else worker) := by
  unfold receiveRecord takesInbound
  simp only [htype]
  split_ifs <;> simp_all

theorem Agrees.drained (h : s.Agrees owner descriptor) {payload : List UInt8}
    {record : CompletionRecord} (htype : record.type = .inboundDatagram)
    (hgapless : ∀ i ∈ s.worker.findFlow owner descriptor,
      s.worker.takesInbound i record = true → (s.worker.flows i).Gapless)
    (hstep : s.step owner descriptor (.drained payload record) = some next) :
    next.Agrees owner descriptor := by
  obtain ⟨i, hfind, hstep⟩ := Option.bind_eq_some_iff.mp hstep
  simp only [receiveRecord_inbound htype, Option.map_some, Option.some.injEq] at hstep
  subst hstep
  have hqueue := h.waiting
  cases htakes : s.worker.takesInbound i record with
  | false => exact ⟨h.received, h.waiting, by simpa using h.length_le⟩
  | true =>
    have hopen : s.worker.openEntry owner descriptor = some i := by
      simp only [takesInbound, Bool.and_eq_true] at htakes
      simp [openEntry, hfind, htakes.1.2]
    rw [socketWaiting_of_open hopen] at hqueue
    cases hplace : (s.worker.flows i).allocateInbound with
    | none =>
      have hfull := FlowEntry.length_waiting_of_allocateInbound_none hplace
      rw [hqueue] at hfull
      exact ⟨h.received, by simpa [storeInbound, hplace, hfull] using h.waiting,
        by simp [hfull]⟩
    | some k =>
      have hroom := FlowEntry.length_waiting_of_allocateInbound hplace
      have hstored := FlowEntry.waiting_store (hgapless i hfind htakes) hplace
        (toEndpoint record.remote) ((payload.drop record.payloadOffset).take record.payloadSize)
      rw [hqueue] at hroom hstored
      refine ⟨h.received, ?_, ?_⟩
      · simpa [storeInbound, hplace, hroom, socketWaiting_setInbound hopen] using hstored
      · simp only [true_and, if_pos hroom, length_append, length_singleton]
        exact hroom

theorem Agrees.receive (h : s.Agrees owner descriptor) {outputSize : Nat}
    (hstep : s.step owner descriptor (.receive outputSize) = some next) :
    next.Agrees owner descriptor := by
  have hqueue := h.waiting
  -- an answer without a datagram, which a socket has at which none waits
  have hnothing (result : TunnelFlowResult) (hresult : result ≠ .opened) (hnone : [] = s.queue)
      (hanswer : s.worker.withOpenFlow owner descriptor (fun i =>
        s.worker.dispatchReceive i outputSize) = (.of result, s.worker)) :
      next.Agrees owner descriptor := by
    simp only [step, hanswer, OperationAnswer.of, if_neg hresult, Option.some.injEq] at hstep
    subst hstep
    exact ⟨by simp [← hnone, h.received], by simpa [← hnone] using hqueue, by simp [← hnone]⟩
  cases hopen : s.worker.openEntry owner descriptor with
  | none =>
    rw [socketWaiting_of_closed hopen] at hqueue
    exact hnothing .closed (by decide) hqueue (by rw [withOpenFlow_eq, hopen])
  | some i =>
    rw [socketWaiting_of_open hopen] at hqueue
    cases hplace : (s.worker.flows i).takeInbound with
    | none =>
      have hnone := (FlowEntry.waiting_of_takeInbound_none hplace).symm.trans hqueue
      refine hnothing (if (s.worker.flows i).submission.closed then .closed else .wouldBlock)
        (by split <;> decide) hnone ?_
      simp only [withOpenFlow_eq, hopen, dispatchReceive, hplace]
    | some k =>
      have hfirst := (FlowEntry.waiting_of_takeInbound hplace).symm.trans hqueue
      simp only [step, withOpenFlow_eq, hopen, dispatchReceive, hplace, if_true,
        Option.some.injEq] at hstep
      subst hstep
      refine ⟨by simp [← hfirst, h.received], ?_, ?_⟩
      · simp [← hfirst, socketWaiting_setInbound hopen]
      · simpa using (Nat.sub_le _ _).trans h.length_le

theorem Agrees.other (h : s.Agrees owner descriptor) {worker : TunnelFlowWorker}
    (hinbound : s.Inbound owner descriptor (.other worker)) :
    Agrees owner descriptor { s with
      worker
      queue := if (worker.openPlaces owner descriptor).isSome then s.queue else [] } := by
  have hlen : (if (worker.openPlaces owner descriptor).isSome then s.queue else []).length ≤
      maximumInboundDatagramsPerSocket := by
    split
    · exact h.length_le
    · exact Nat.zero_le _
  refine ⟨h.received, ?_, hlen⟩
  have hwait := h.waiting
  unfold socketWaiting at hwait ⊢
  obtain hsame | hclosed | ⟨hclosed, hopened⟩ := hinbound
  · rw [hsame, ← hwait]
    cases s.worker.openPlaces owner descriptor <;> rfl
  · rw [hclosed]
    rfl
  · rw [hclosed] at hwait
    rw [hopened, ← hwait]
    rfl

/-- A socket whose datagrams are stored in order delivers them like a queue of four. -/
theorem inbound_delivers_in_order (owner : UInt64) (descriptor : Int) (s : InboundRun)
    (hs : (inboundRuns owner descriptor fun s => s.StoresInOrder owner descriptor).Reachable s) :
    s.Agrees owner descriptor := by
  refine hs.invariant ?_ ?_
  · rintro s ⟨hplaces, hqueue, hreceived⟩
    refine ⟨hreceived, ?_, by simp [hqueue]⟩
    rw [hqueue, socketWaiting, hplaces]
    rfl
  · rintro s next - h ⟨action, ⟨hinbound, horder⟩, hstep⟩
    cases action with
    | drained payload record => exact h.drained hinbound horder hstep
    | receive outputSize => exact h.receive hstep
    | other worker =>
      cases hstep
      exact h.other hinbound

def sampleRemote : TunnelFlowEndpoint := ⟨⟨[10, 0, 0, 2], rfl⟩, 53⟩

/-- A worker that has found the tunnel service and opened the sample socket. -/
def sampleOpened : Option TunnelFlowWorker :=
  Machine.runActions (fun _ _ => True) TunnelFlowWorker.step
    [.requestForInterceptedTraffic true, .processControlSignals (some 1400),
      .dispatch (.openFlow 1 3 sampleRemote) ⟨some ⟨0, 1⟩, some (.success, 7), true⟩ 0] initial

/-- A completion of the sample socket that carries one of three bytes. -/
def sampleArrival (offset : Nat) : InboundAction :=
  .drained [1, 2, 3] { CompletionRecord.zero with
    type := .inboundDatagram
    flow := 7
    remote := ⟨sampleRemote.address, sampleRemote.port, 0⟩
    payloadOffset := offset
    payloadSize := 1 }

/-- The sample socket after some actions. -/
def sampleSocket (allowed : InboundRun → InboundAction → Prop)
    [∀ s action, Decidable (allowed s action)] (actions : List InboundAction) :
    Option InboundRun :=
  sampleOpened.bind fun worker =>
    Machine.runActions (fun s action => s.Inbound 1 3 action ∧ allowed s action) (step 1 3) actions
      ⟨worker, [], [], []⟩

theorem sampleSocket_reachable {allowed : InboundRun → InboundAction → Prop}
    [∀ s action, Decidable (allowed s action)] {actions : List InboundAction}
    (h : sampleSocket allowed actions = some s) : (inboundRuns 1 3 allowed).Reachable s := by
  obtain ⟨worker, hworker, hrun⟩ := Option.bind_eq_some_iff.mp h
  have hplaces : sampleOpened.bind (fun worker => worker.openPlaces 1 3) =
      some (replicate maximumInboundDatagramsPerSocket .empty) := by decide +kernel
  rw [hworker, Option.bind_some] at hplaces
  exact .of_runActions (.start ⟨hplaces, rfl, rfl⟩) hrun

/-- Two datagrams are received before a third is drained.  The socket is closed while that one waits,
and nothing more is received. -/
theorem inbound_delivers_in_order_sample : ∃ s,
    (inboundRuns 1 3 fun s => s.StoresInOrder 1 3).Reachable s ∧
      s.received.map Prod.snd = [[1], [2]] ∧ s.Agrees 1 3 := by
  have hrun : ((sampleSocket (fun s => s.StoresInOrder 1 3) [sampleArrival 0, sampleArrival 1,
      .receive 4, .receive 4, sampleArrival 2]).bind fun s =>
        (s.worker.dispatch ⟨none, none, false⟩ 0 (.close 1 3)).bind fun closed =>
          Machine.runActions (fun s action => s.Inbound 1 3 action ∧ s.StoresInOrder 1 3 action)
            (step 1 3) [.other closed.2, .receive 4] s).map (fun s => s.received.map Prod.snd) =
              some [[1], [2]] := by
    decide +kernel
  obtain ⟨last, hlast, hreceived⟩ := Option.map_eq_some_iff.mp hrun
  obtain ⟨s, hs, hclose⟩ := Option.bind_eq_some_iff.mp hlast
  obtain ⟨closed, -, hrest⟩ := Option.bind_eq_some_iff.mp hclose
  have hreach := (sampleSocket_reachable hs).of_runActions hrest
  exact ⟨last, hreach, hreceived, inbound_delivers_in_order 1 3 last hreach⟩

/-- A third datagram that takes the place of the received first one overtakes the second. -/
theorem inbound_overtaken : ∃ s,
    (inboundRuns 1 3 fun _ _ => True).Reachable s ∧
      s.received.map Prod.snd = [[1], [3]] ∧ s.expected.map Prod.snd = [[1], [2]] := by
  have hrun : (sampleSocket (fun _ _ => True) [sampleArrival 0, sampleArrival 1, .receive 4,
      sampleArrival 2, .receive 4]).map (fun s => (s.received.map Prod.snd,
        s.expected.map Prod.snd)) = some ([[1], [3]], [[1], [2]]) := by
    decide +kernel
  obtain ⟨s, hs, hfacts⟩ := Option.map_eq_some_iff.mp hrun
  simp only [Prod.mk.injEq] at hfacts
  exact ⟨s, sampleSocket_reachable hs, hfacts⟩

end InboundRun

end TunnelFlowWorker

end WireguardNx.Mitm
