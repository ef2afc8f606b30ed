import WireguardNx.Lib.Machine
import WireguardNx.Laws.FlowMoves

/-!
# What a move changes

A move of the plane writes at most one flow slot, in one of five ways, and lets at most one client
come or go.  From these two facts every plane that operations reach is sound: the lookups of the
plane answer for one flow and one client each.

Nothing is assumed of the callers: arguments and times are arbitrary in every run.
-/

namespace WireguardNx.Tunnel

open Wireguard WireguardNx.Runtime Relation Function

variable {j : Fin maximumClientContexts} {client : TunnelClientId}

namespace TunnelFlowPlane

/-! ## What a move does to the flows and the clients -/

/-- What a flow is as long as it is not committed or closed. -/
structure FlowIdentity where
  allocated : Bool
  closed : Bool
  pending : Bool
  client : TunnelClientId
  allocationGeneration : UInt32
  peer : PeerIdentity
  remote : Ipv4Endpoint
  tunnelSource : Ipv4Address
  virtualSourcePort : UInt16
  createdAt : Ktime
  terminalReason : FlowTerminalReason

end TunnelFlowPlane

open TunnelFlowPlane

def FlowSlot.identity (flow : FlowSlot) : FlowIdentity :=
  ⟨flow.allocated, flow.closed, flow.pending, flow.client, flow.allocationGeneration, flow.peer,
    flow.remote, flow.tunnelSource, flow.virtualSourcePort, flow.createdAt, flow.terminalReason⟩

namespace TunnelFlowPlane

variable {now : Ktime} {scope : MoveScope} {plane other : TunnelFlowPlane}

/-- How one slot changes in a move from one plane to another. -/
inductive FlowChange (now : Ktime) (scope : MoveScope) (plane other : TunnelFlowPlane)
  (i : Fin maximumFlows) :
    FlowSlot → Prop
  | alike (flow : FlowSlot) (h : flow.identity = (plane.flows i).identity) :
      FlowChange now scope plane other i flow
  | commit (hlive : isLive (plane.flows i) = true) (hpend : (plane.flows i).pending = true) :
      FlowChange now scope plane other i { plane.flows i with pending := false }
  | discard (halloc : (plane.flows i).allocated = true)
      (hpend : (plane.flows i).pending = true) : FlowChange now scope plane other i .empty
  | reserve (client : TunnelClientId) (request : OpenRequest) (j : Fin maximumClientContexts)
      (port : UInt16) (hres : scope.reserves = true) (hclient : plane.findClient client = some j)
      (hfree : isLive (plane.flows i) = false) (hport : firstVirtualSourcePort ≤ port) :
      FlowChange now scope plane other i (plane.reservedFlow client request now port)
  | close (hopen : isOpen (plane.flows i) = true) (reason : FlowTerminalReason) (notify : Bool)
      (hnotify : notify = true ∨ scope.silent = true)
      (hother : other = plane.closeFlowSlot i reason now notify) :
      FlowChange now scope plane other i (terminated (plane.flows i) reason now)

section Changes

variable {i : Fin maximumFlows} {flow : FlowSlot}

theorem FlowChange.of_alike {now : Ktime} {scope : MoveScope}
    (h : other.flows = update plane.flows i flow)
    (hident : flow.identity = (plane.flows i).identity) :
    ∃ i flow, FlowChange now scope plane other i flow ∧ other.flows = update plane.flows i flow :=
  ⟨i, flow, .alike flow hident, h⟩

theorem FlowChange.of_eq (now : Ktime) (scope : MoveScope) (h : other.flows = plane.flows) :
    ∃ i flow, FlowChange now scope plane other i flow ∧ other.flows = update plane.flows i flow :=
  ⟨0, plane.flows 0, .alike _ rfl, by rw [h, update_eq_self]⟩

theorem dropFront_flows (plane : TunnelFlowPlane) (client : TunnelClientId)
    (j : Fin maximumClientContexts) (entry : CompletionEntry) (rest : List CompletionEntry) :
    ∃ i occupancy, (plane.dropFront client j entry rest).flows =
      update plane.flows i { plane.flows i with inboundOccupancy := occupancy } := by
  have hsame : update plane.flows 0 { plane.flows 0 with
      inboundOccupancy := (plane.flows 0).inboundOccupancy } = plane.flows :=
    update_eq_self 0 plane.flows
  unfold dropFront
  split
  · exact ⟨0, _, hsame.symm⟩
  · simp only
    split
    · exact ⟨0, _, hsame.symm⟩
    · rename_i i _
      exact ⟨i, _, rfl⟩

/-- A move changes at most one slot of the flow table. -/
theorem PlaneMove.flowChange (h : PlaneMove now scope plane other) :
    ∃ i flow, FlowChange now scope plane other i flow ∧
    other.flows = update plane.flows i flow := by
  cases h with
  | touch i policyGeneration lastActivityAt writableWaiter | store i k j payload =>
    exact FlowChange.of_alike setFlow_flows rfl
  | commit i hlive hpend => exact ⟨i, _, .commit hlive hpend, rfl⟩
  | discard i halloc hpend => exact ⟨i, _, .discard halloc hpend, rfl⟩
  | reserve client request i j port hres hclient hfree _ _ hport =>
    exact ⟨i, _, .reserve client request j port hres hclient hfree hport, rfl⟩
  | close i reason notify hnotify hopen =>
    refine ⟨i, _, .close hopen reason notify hnotify rfl, ?_⟩
    rw [closeFlowSlot_of_open hopen, ← withClosed_flows]
    split
    · exact enqueueControlCompletion_flows
    · rfl
  | setPolicy | wipe | create | expire | advance => exact FlowChange.of_eq now scope rfl
  | announce j => exact FlowChange.of_eq now scope enqueueControlCompletion_flows
  | wake i hopen => exact FlowChange.of_alike enqueueControlCompletion_flows rfl
  | drain client j entry rest =>
    obtain ⟨i, occupancy, h⟩ := dropFront_flows plane client j entry rest
    exact FlowChange.of_alike h rfl
  | forget client j =>
    refine FlowChange.of_eq now scope ?_
    show (releaseAll plane _).flows = plane.flows
    rw [releaseAll_eq]

/-- A move closes an open flow or leaves it the flow it is. -/
theorem PlaneMove.open_cases (h : PlaneMove now scope plane other) {i : Fin maximumFlows}
    (hopen : isOpen (plane.flows i)) : (other.flows i).identity = (plane.flows i).identity ∨
      ∃ reason notify, (notify = true ∨ scope.silent) ∧
        other = plane.closeFlowSlot i reason now notify := by
  obtain ⟨hlive, hpend⟩ := isOpen_iff.mp hopen
  obtain ⟨i', flow, hchange, hflows⟩ := h.flowChange
  rw [hflows]
  by_cases hi : i = i'
  · subst hi
    rw [update_self]
    cases hchange with
    | alike flow hident => exact .inl hident
    | commit _ hpend' | discard _ hpend' =>
      rw [hpend] at hpend'
      cases hpend'
    | reserve _ _ _ _ _ _ hfree =>
      rw [hlive] at hfree
      cases hfree
    | close _ reason notify hnotify hother => exact .inr ⟨reason, notify, hnotify, hother⟩
  · rw [update_of_ne hi]
    exact .inl rfl

theorem handle_congr {flow flow' : FlowSlot} (h : flow'.identity = flow.identity)
    (i : Fin maximumFlows) : makeFlowHandle i flow' = makeFlowHandle i flow := by
  obtain ⟨_, _, _, hclient, hgen, _⟩ := FlowIdentity.mk.inj h
  exact makeFlowHandle_congr hclient hgen

theorem client_congr {flow flow' : FlowSlot} (h : flow'.identity = flow.identity) :
    flow'.client = flow.client :=
  congrArg FlowIdentity.client h

theorem allocated_congr {flow flow' : FlowSlot} (h : flow'.identity = flow.identity) :
    flow'.allocated = flow.allocated :=
  congrArg FlowIdentity.allocated h

theorem isOpen_congr {flow flow' : FlowSlot} (h : flow'.identity = flow.identity) :
    isOpen flow' = isOpen flow := by
  obtain ⟨halloc, hclosed, hpend, _⟩ := FlowIdentity.mk.inj h
  unfold isOpen
  rw [halloc, hclosed, hpend]

/-- The clients change when one comes or goes only. -/
theorem PlaneMove.clientChange (h : PlaneMove now scope plane other) : SameClients plane other ∨
    (∃ j generation next notifier, (plane.clients j).allocated = false ∧ generation ≠ 0 ∧
      other = plane.addClient j generation next notifier) ∨
    (∃ client j, scope.silent ∧ plane.findClient client = some j ∧
      (∀ i, (plane.flows i).client = client → isLive (plane.flows i) = false) ∧
      other = plane.forgetClient j) := by
  cases h with
  | close i reason notify => exact .inl (closeFlowSlot_sameClients plane i reason now notify)
  | announce j => exact .inl enqueueControlCompletion_sameClients
  | wake i =>
    exact .inl (SameClients.trans (fun _ => ⟨rfl, rfl⟩) enqueueControlCompletion_sameClients)
  | store i k j payload =>
    exact .inl (.setClient (append_allocated _ _).1 (append_allocated _ _).2)
  | drain client j entry rest => exact .inl dropFront_sameClients
  | create j generation next notifier hfree hgen =>
    exact .inr (.inl ⟨j, generation, next, notifier, hfree, hgen, rfl⟩)
  | forget client j hsilent hclient hnone =>
    exact .inr (.inr ⟨client, j, hsilent, hclient, hnone, rfl⟩)
  | touch | commit | discard | reserve | setPolicy | wipe | expire | advance =>
    exact .inl fun _ => ⟨rfl, rfl⟩

end Changes

/-! ## Planes an operation can meet -/

/-- What holds of every plane: its flows can be told apart by their handles, a live flow has a
client and a virtual port, and the next port is one. -/
structure Sound (plane : TunnelFlowPlane) : Prop where
  flow : ∀ i, (plane.flows i).allocated = true → (plane.flows i).Sound
  owner : ∀ i, isLive (plane.flows i) = true → ∃ j, plane.findClient (plane.flows i).client = some j
  client : ∀ j, (plane.clients j).allocated = true → (plane.clients j).generation ≠ 0
  port : ∀ i, isLive (plane.flows i) = true →
    firstVirtualSourcePort ≤ (plane.flows i).virtualSourcePort
  next : firstVirtualSourcePort ≤ plane.nextVirtualSourcePort

section Soundness

theorem initial_sound : initial.Sound where
  flow _ h := by cases h
  owner _ h := by cases h
  client _ h := by cases h
  port _ h := by cases h
  next := UInt16.le_refl _

/-- Two identities of clients that are found in one slot are one. -/
theorem findClient_inj {client client' : TunnelClientId} (h : plane.findClient client = some j)
    (h' : plane.findClient client' = some j) : client = client' := by
  obtain ⟨hslot, _, _, hgen⟩ := findClient_eq_some.mp h
  obtain ⟨hslot', _, _, hgen'⟩ := findClient_eq_some.mp h'
  obtain ⟨slot, generation⟩ := client
  obtain ⟨slot', generation'⟩ := client'
  have hs : slot = slot' := UInt8.toNat_inj.mp (hslot.trans hslot'.symm)
  have hg : generation = generation' := hgen.symm.trans hgen'
  rw [hs, hg]

private theorem identity_sound {flow flow' : FlowSlot} (h : flow'.identity = flow.identity)
    (hsound : flow.Sound) : flow'.Sound := by
  obtain ⟨_, _, _, hclient, hgen, _⟩ := FlowIdentity.mk.inj h
  obtain ⟨hslot, hclient⟩ := TunnelClientId.mk.inj hclient
  exact ⟨hslot ▸ hsound.slot, hclient ▸ hsound.client, hgen ▸ hsound.generation,
    hgen ▸ hsound.generation_lt⟩

theorem reservedFlow_sound {request : OpenRequest} {port : UInt16}
    (hclient : plane.findClient client = some j) :
    (plane.reservedFlow client request now port).Sound := by
  obtain ⟨hslot, hgen, _⟩ := findClient_eq_some.mp hclient
  exact ⟨hslot ▸ j.isLt, hgen, (allocateFlowGeneration_sound _).1,
    (allocateFlowGeneration_sound _).2⟩

/-- A move that keeps the clients leaves every flow a sound one, with an owner and a port. -/
theorem FlowChange.sound {i : Fin maximumFlows} {flow : FlowSlot}
    (h : FlowChange now scope plane other i flow)
    (hsound : plane.Sound) : (flow.allocated → flow.Sound) ∧ (isLive flow →
      (∃ j, plane.findClient flow.client = some j) ∧
        firstVirtualSourcePort ≤ flow.virtualSourcePort) := by
  cases h with
  | alike flow h =>
    obtain ⟨halloc, hclosed, _, hclient, _, _, _, _, hport, _⟩ := FlowIdentity.mk.inj h
    refine ⟨fun hslot => identity_sound h (hsound.flow i (halloc ▸ hslot)),
      fun hlive => ?_⟩
    have hlive : isLive (plane.flows i) := by
      rw [isLive, ← halloc, ← hclosed]
      exact hlive
    rw [hclient, hport]
    exact ⟨hsound.owner i hlive, hsound.port i hlive⟩
  | commit hlive hpend =>
    have hflow := hsound.flow i (isLive_iff.mp hlive).1
    exact ⟨fun _ => ⟨hflow.slot, hflow.client, hflow.generation, hflow.generation_lt⟩,
      fun _ => ⟨hsound.owner i hlive, hsound.port i hlive⟩⟩
  | discard =>
    refine ⟨fun hslot => ?_, fun hlive => ?_⟩
    · cases hslot
    · cases hlive
  | reserve client request j port _ hclient hfree hport =>
    exact ⟨fun _ => reservedFlow_sound hclient, fun _ => ⟨⟨j, hclient⟩, hport⟩⟩
  | close hopen reason =>
    have hflow := hsound.flow i (isLive_iff.mp (isLive_of_isOpen hopen)).1
    refine ⟨fun _ => ⟨hflow.slot, hflow.client, hflow.generation, hflow.generation_lt⟩,
      fun hlive => ?_⟩
    simp [isLive, terminated] at hlive

def counters (plane : TunnelFlowPlane) : UInt16 × UInt32 :=
  (plane.nextVirtualSourcePort, plane.nextFlowGeneration)

theorem enqueueControlCompletion_counters (plane : TunnelFlowPlane) (client : TunnelClientId)
    (completion : CompletionRecord) :
    (plane.enqueueControlCompletion client completion).counters = plane.counters := by
  rcases enqueueControlCompletion_cases plane client completion with
    h | ⟨j, slot, _, _, _, _, _, h⟩ <;> rw [h]
  rfl

theorem releaseAll_counters {plane : TunnelFlowPlane} {entries : List CompletionEntry} :
    (plane.releaseAll entries).counters = plane.counters := by
  rw [releaseAll_eq]
  rfl

theorem withClosed_counters (plane : TunnelFlowPlane) (i : Fin maximumFlows)
    (reason : FlowTerminalReason) (now : Ktime) :
    (plane.withClosed i reason now).counters = plane.counters := by
  have hdrop : (plane.dropData i).counters = plane.counters := by
    unfold dropData
    split
    · rfl
    · exact releaseAll_counters
  rw [← hdrop]
  show ((plane.dropData i).quarantineTuple (plane.flows i) now).counters = _
  rcases quarantineTuple_cases (plane.dropData i) (plane.flows i) now with
    ⟨h, _⟩ | ⟨h, _⟩ | ⟨k, _, h⟩
  · rw [h]
  · rw [h]
    rfl
  · rw [h]
    rfl

private theorem dropFront_counters (plane : TunnelFlowPlane) (client : TunnelClientId)
    (j : Fin maximumClientContexts) (entry : CompletionEntry) (rest : List CompletionEntry) :
    (plane.dropFront client j entry rest).counters = plane.counters := by
  unfold dropFront
  split
  · rfl
  · simp only
    split <;> rfl

/-- A move leaves the counters alone, or is a reservation, or moves on to another port. -/
theorem PlaneMove.counters_cases (h : PlaneMove now scope plane other) :
    other.counters = plane.counters ∨
      (scope.reserves ∧ other.nextVirtualSourcePort = plane.nextVirtualSourcePort) ∨
      (other.nextFlowGeneration = plane.nextFlowGeneration ∧
        firstVirtualSourcePort ≤ other.nextVirtualSourcePort) := by
  cases h with
  | close i reason notify _ hopen =>
    refine .inl ?_
    rw [closeFlowSlot_of_open hopen]
    split
    · rw [enqueueControlCompletion_counters, withClosed_counters]
    · exact withClosed_counters ..
  | announce j | wake i => exact .inl (enqueueControlCompletion_counters ..)
  | drain client j entry rest => exact .inl (dropFront_counters ..)
  | forget client j => exact .inl releaseAll_counters
  | reserve client request i j port hres => exact .inr (.inl ⟨hres, rfl⟩)
  | advance next hnext => exact .inr (.inr ⟨rfl, hnext⟩)
  | touch | commit | discard | setPolicy | store | wipe | create | expire => exact .inl rfl

/-- The next virtual port stays in its range. -/
theorem PlaneMove.next (h : PlaneMove now scope plane other)
    (hnext : firstVirtualSourcePort ≤ plane.nextVirtualSourcePort) :
    firstVirtualSourcePort ≤ other.nextVirtualSourcePort := by
  rcases h.counters_cases with hsame | ⟨-, hsame⟩ | ⟨-, hafter⟩
  · rw [(Prod.mk.inj hsame).1]
    exact hnext
  · rw [hsame]
    exact hnext
  · exact hafter

/-- Flow generations are counted by reservations only. -/
theorem PlaneMove.generation (h : PlaneMove now scope plane other)
    (hres : scope.reserves = false) : other.nextFlowGeneration = plane.nextFlowGeneration := by
  rcases h.counters_cases with hsame | ⟨hreserve, -⟩ | ⟨hsame, -⟩
  · exact (Prod.mk.inj hsame).2
  · rw [hres] at hreserve
    cases hreserve
  · exact hsame

/-- A flow whose client is found keeps it when another client comes. -/
theorem addClient_findClient {j j' : Fin maximumClientContexts} {generation next : UInt32}
    {notifier : Bool} (hfree : (plane.clients j).allocated = false)
    (h : plane.findClient client = some j') :
    (plane.addClient j generation next notifier).findClient client = some j' := by
  obtain ⟨hslot, hgen, halloc, hmatch⟩ := findClient_eq_some.mp h
  have hne : j' ≠ j := by
    rintro rfl
    rw [hfree] at halloc
    cases halloc
  refine findClient_eq_some.mpr ⟨hslot, hgen, ?_⟩
  simp only [addClient, setClient_clients, update_of_ne hne]
  exact ⟨halloc, hmatch⟩

theorem forgetClient_clients (plane : TunnelFlowPlane) (j : Fin maximumClientContexts) :
    (plane.forgetClient j).clients = update plane.clients j .empty := by
  show update (plane.releaseAll _).clients j _ = _
  rw [releaseAll_eq]

theorem forgetClient_flows (plane : TunnelFlowPlane) (j : Fin maximumClientContexts) :
    (plane.forgetClient j).flows = plane.flows := by
  show (plane.releaseAll _).flows = _
  rw [releaseAll_eq]

private theorem forgetClient_findClient {j j' : Fin maximumClientContexts} (hne : j' ≠ j)
    (h : plane.findClient client = some j') :
    (plane.forgetClient j).findClient client = some j' := by
  obtain ⟨hslot, hgen, hclient⟩ := findClient_eq_some.mp h
  refine findClient_eq_some.mpr ⟨hslot, hgen, ?_⟩
  rw [forgetClient_clients, update_of_ne hne]
  exact hclient

/-- The clients that live flows have stay. -/
theorem PlaneMove.owner (h : PlaneMove now scope plane other) {i : Fin maximumFlows}
    (hlive : isLive (plane.flows i)) (howner : plane.findClient (plane.flows i).client = some j) :
    other.findClient (plane.flows i).client = some j := by
  rcases h.clientChange with hsame | ⟨j', generation, next, notifier, hfree, _, rfl⟩ |
    ⟨client, j', _, hclient, hnone, rfl⟩
  · exact (hsame.findClient _).trans howner
  · exact addClient_findClient hfree howner
  · refine forgetClient_findClient ?_ howner
    rintro rfl
    have hdead := hnone i (findClient_inj howner hclient)
    rw [hlive] at hdead
    cases hdead

/-- A client goes in an operation of its own only. -/
theorem PlaneMove.findClient_kept (h : PlaneMove now scope plane other)
    (hsilent : scope.silent = false) (hclient : plane.findClient client = some j) :
    other.findClient client = some j := by
  rcases h.clientChange with hsame | ⟨j', generation, next, notifier, hfree, _, rfl⟩ |
    ⟨client', j', hforget, _⟩
  · exact (hsame.findClient _).trans hclient
  · exact addClient_findClient hfree hclient
  · rw [hsilent] at hforget
    cases hforget

theorem PlaneMove.sound (h : PlaneMove now scope plane other) (hsound : plane.Sound) :
    other.Sound := by
  have hclient (j : Fin maximumClientContexts) (hj : (other.clients j).allocated) :
      (other.clients j).generation ≠ 0 := by
    rcases h.clientChange with hsame | ⟨j', generation, next, notifier, _, hgen, rfl⟩ |
      ⟨client, j', _, _, _, rfl⟩
    · rw [(hsame j).2]
      exact hsound.client j ((hsame j).1 ▸ hj)
    · by_cases hne : j = j'
      · subst hne
        simpa [addClient] using hgen
      · simp only [addClient, setClient_clients, update_of_ne hne] at hj ⊢
        exact hsound.client j hj
    · rw [forgetClient_clients] at hj ⊢
      by_cases hne : j = j'
      · subst hne
        rw [update_self] at hj
        cases hj
      · rw [update_of_ne hne] at hj ⊢
        exact hsound.client j hj
  obtain ⟨i, flow, hchange, hflows⟩ := h.flowChange
  obtain ⟨hflow, hlive⟩ := hchange.sound hsound
  have hkept (i' : Fin maximumFlows) (hsame : other.flows = plane.flows)
      (hi : isLive (other.flows i')) :
      ∃ j, other.findClient (other.flows i').client = some j := by
    rw [hsame] at hi ⊢
    obtain ⟨j, hj⟩ := hsound.owner i' hi
    exact ⟨j, h.owner hi hj⟩
  refine ⟨?_, fun i' hi => ?_, hclient, ?_, h.next hsound.next⟩
  · rw [hflows]
    exact (forall_update_iff plane.flows fun _ flow => flow.allocated = true → flow.Sound).mpr
      ⟨hflow, fun i' _ => hsound.flow i'⟩
  · rcases h.clientChange with hsame | ⟨j', generation, next, notifier, _, _, rfl⟩ |
      ⟨client, j', _, _, _, rfl⟩
    · rw [hsame.findClient]
      rw [hflows] at hi ⊢
      exact (forall_update_iff plane.flows fun _ flow => isLive flow = true →
        ∃ j, plane.findClient flow.client = some j).mpr
        ⟨fun hi => (hlive hi).1, fun i' _ => hsound.owner i'⟩ i' hi
    · exact hkept i' rfl hi
    · exact hkept i' (forgetClient_flows plane j') hi
  · rw [hflows]
    exact (forall_update_iff plane.flows fun _ flow => isLive flow = true →
      firstVirtualSourcePort ≤ flow.virtualSourcePort).mpr
      ⟨fun hi => (hlive hi).2, fun i' _ => hsound.port i'⟩

/-! ## Runs of operations -/

/-- What every move keeps, an operation keeps. -/
theorem apply_invariant {P : TunnelFlowPlane → Prop} {action : PlaneAction}
    (hmove : ∀ plane other, plane.Sound → P plane → PlaneMove now action.scope plane other → P other)
    (hsound : plane.Sound) (hplane : P plane) :
    (plane.apply now action).Sound ∧ P (plane.apply now action) := by
  have hmoves := apply_moves now plane action hsound.next
  generalize plane.apply now action = other at hmoves ⊢
  induction hmoves with
  | refl => exact ⟨hsound, hplane⟩
  | tail _ hstep ih => exact ⟨hstep.sound ih.1, hmove _ _ ih.1 ih.2 hstep⟩

/-- The planes that operations at any times reach. -/
def planes : Machine TunnelFlowPlane where
  start plane := plane = initial
  step plane other := ∃ now action, other = plane.apply now action

private theorem planes_sound (h : planes.Reachable plane) : plane.Sound := by
  refine Machine.Reachable.invariant (P := TunnelFlowPlane.Sound) ?_ ?_ h
  · rintro _ rfl
    exact initial_sound
  · rintro plane _ _ hplane ⟨now, action, rfl⟩
    exact (apply_invariant (P := fun _ => True) (fun _ _ _ _ _ => trivial) hplane trivial).1

/-- What holds of the initial plane and is kept by every move holds of every plane. -/
theorem planes_invariant {P : TunnelFlowPlane → Prop} (hinitial : P initial)
    (hmove : ∀ now scope plane other, plane.Sound → P plane → PlaneMove now scope plane other →
      P other) (h : planes.Reachable plane) : P plane := by
  refine Machine.Reachable.invariant ?_ ?_ h
  · rintro _ rfl
    exact hinitial
  · rintro plane _ hreach hplane ⟨now, action, rfl⟩
    exact (apply_invariant (hmove now _) (planes_sound hreach) hplane).2

end Soundness

/-! ### An example -/

def afterCalls (calls : List (Ktime × PlaneAction)) : TunnelFlowPlane :=
  calls.foldl (fun plane call => plane.apply call.1 call.2) initial

theorem afterCalls_reachable (calls : List (Ktime × PlaneAction)) :
    planes.Reachable (afterCalls calls) :=
  List.foldlRecOn (motive := planes.Reachable) calls _ (.start rfl)
    fun _ hplane call _ => hplane.step ⟨call.1, call.2, rfl⟩

/-- A policy that covers every address. -/
def samplePolicyInput : TunnelPolicyInput :=
  ⟨some ⟨"10.0.0.2/32".toList, "0.0.0.0/0".toList, 1420, false⟩, ⟨0, 1⟩, true⟩

def sampleRequest : OpenRequest := ⟨⟨⟨[1, 2, 3, 4], rfl⟩, 53, 0⟩, 0⟩

def sampleClient : TunnelClientId := ⟨0, 1⟩

def sampleOpen : PlaneAction := .openFlow sampleClient sampleRequest ⟨true, true⟩

/-- The handle of the first flow of that client. -/
def sampleHandle : FlowHandle := 0x100000100

/-- A plane with that client and that policy. -/
def sampleSetup : List (Ktime × PlaneAction) :=
  [(0, .createClient true), (0, .refreshPolicy samplePolicyInput)]

end TunnelFlowPlane

end WireguardNx.Tunnel
