import WireguardNx.Laws.FlowChanges

/-!
# Inbound storage

An inbound datagram waits in a slab that one queued completion refers to.  Four records have to agree
on it: the slab table, the queues of the clients, the occupancy of the flow and the count of the
client.  `Accounted` says how, and every move keeps it.

Nothing is assumed of the clients, of what the peers send and of the times of the operations.
-/

namespace WireguardNx.Tunnel

open Wireguard WireguardNx.Runtime Relation Function List Function Bool

variable {entry : CompletionEntry} {completion : CompletionRecord} {k : Fin inboundPacketSlabCount}
  {i : Fin maximumFlows} {handle : FlowHandle} {queue : List CompletionEntry}
  {client : TunnelClientId}

namespace TunnelFlowPlane

variable {plane other : TunnelFlowPlane} {slot : ClientSlot}

/-! ## What is counted -/

def holdsSlab (k : Fin inboundPacketSlabCount) (entry : CompletionEntry) : Bool :=
  decide (entry.inboundSlabSlot = some k)

def isData (entry : CompletionEntry) : Bool := entry.inboundSlabSlot.isSome

def isDataOf (handle : FlowHandle) (entry : CompletionEntry) : Bool :=
  isData entry && decide (entry.record.flow = handle)

/-- The queued completions that refer to a slab, over all clients. -/
def slabReferences (plane : TunnelFlowPlane) (k : Fin inboundPacketSlabCount) : Nat :=
  ∑ j, (plane.clients j).completions.countP (holdsSlab k)

/-- The queued data completions of a flow, over all clients. -/
def queuedData (plane : TunnelFlowPlane) (handle : FlowHandle) : Nat :=
  ∑ j, (plane.clients j).completions.countP (isDataOf handle)

/-- A handle is that of a flow of the client in a slot. -/
def HandleOf (plane : TunnelFlowPlane) (j : Fin maximumClientContexts) (handle : FlowHandle) :
    Prop :=
  ∃ decoded, decodeFlowHandle handle = some decoded ∧ decoded.client.slot.toNat = j.val ∧
    decoded.client.generation = (plane.clients j).generation

/-- The records of inbound datagrams agree. -/
structure Accounted (plane : TunnelFlowPlane) : Prop where
  slab : ∀ k, plane.slabReferences k = (plane.inboundSlabs k).allocated.toNat
  kind : ∀ j, ∀ entry ∈ (plane.clients j).completions,
    isData entry = true ↔ entry.record.type = .inboundDatagram
  occupancy : ∀ i, (plane.flows i).allocated = true →
    (plane.flows i).inboundOccupancy = plane.queuedData (makeFlowHandle i (plane.flows i))
  bound : ∀ i, (plane.flows i).allocated = true →
    (plane.flows i).inboundOccupancy ≤ maximumInboundDatagramsPerFlow
  count : ∀ j, (plane.clients j).dataCompletionCount = (plane.clients j).completions.countP isData
  handle : ∀ j, ∀ entry ∈ (plane.clients j).completions, entry.record.type ≠ .policyChanged →
    plane.HandleOf j entry.record.flow
  /-- A data completion is one of an open flow of the client. -/
  data : ∀ j, ∀ entry ∈ (plane.clients j).completions, isData entry = true →
    ∃ i, isOpen (plane.flows i) = true ∧ entry.record.flow = makeFlowHandle i (plane.flows i) ∧
      plane.findClient (plane.flows i).client = some j
  vacant : ∀ j, (plane.clients j).allocated = false → (plane.clients j).completions = []

section Counts

variable {j : Fin maximumClientContexts}

/-- Writing a client exchanges what its queue counts for. -/
theorem sum_setClient (p : CompletionEntry → Bool)
    (hclients : other.clients = update plane.clients j slot) :
    (∑ j', (other.clients j').completions.countP p) + (plane.clients j).completions.countP p =
      (∑ j', (plane.clients j').completions.countP p) + slot.completions.countP p := by
  rw [hclients]
  exact sum_slots_update (fun slot : ClientSlot => slot.completions.countP p) plane.clients j slot

theorem countP_le_sum (plane : TunnelFlowPlane) (p : CompletionEntry → Bool)
    (j : Fin maximumClientContexts) :
    (plane.clients j).completions.countP p ≤ ∑ j', (plane.clients j').completions.countP p :=
  le_sum_slots (fun slot : ClientSlot => slot.completions.countP p) plane.clients j

private theorem isData_of_holdsSlab (h : holdsSlab k entry) : isData entry := by
  rw [isData, of_decide_eq_true h]
  rfl

theorem isDataOf_iff : isDataOf handle entry ↔ isData entry ∧ entry.record.flow = handle := by
  unfold isDataOf
  rw [and_eq_true, decide_eq_true_eq]

/-- No data completion of a handle is queued that no open flow has. -/
theorem Accounted.queuedData_eq_zero (h : plane.Accounted)
    (hnone : ∀ i, isOpen (plane.flows i) → makeFlowHandle i (plane.flows i) ≠ handle) :
    plane.queuedData handle = 0 := by
  refine Finset.sum_eq_zero fun j _ => ?_
  rw [countP_eq_zero]
  intro entry hentry hdata
  obtain ⟨hdata, hflow⟩ := isDataOf_iff.mp hdata
  obtain ⟨i, hopen, hhandle, _⟩ := h.data j entry hentry hdata
  exact hnone i hopen (hhandle.symm.trans hflow)

theorem initial_accounted : initial.Accounted where
  slab _ := Finset.sum_eq_zero fun _ _ => rfl
  kind _ _ h := by cases h
  occupancy _ h := by cases h
  bound _ h := by cases h
  count _ := rfl
  handle _ _ h := by cases h
  data _ _ h := by cases h
  vacant _ _ := rfl

end Counts

/-! ## Moves that leave the queues alone -/

section Flows

/-- The flows may change as long as the open ones stay, and a new one has nothing queued. -/
theorem Accounted.of_flows (h : plane.Accounted) (hclients : other.clients = plane.clients)
    (hslabs : ∀ k, (other.inboundSlabs k).allocated = (plane.inboundSlabs k).allocated)
    (hopen : ∀ i, isOpen (plane.flows i) → isOpen (other.flows i) ∧
      (other.flows i).client = (plane.flows i).client ∧
      makeFlowHandle i (other.flows i) = makeFlowHandle i (plane.flows i))
    (hflows : ∀ i, (other.flows i).allocated →
      (other.flows i).inboundOccupancy = plane.queuedData (makeFlowHandle i (other.flows i)) ∧
      (other.flows i).inboundOccupancy ≤ maximumInboundDatagramsPerFlow) : other.Accounted where
  slab k := by
    rw [hslabs, ← h.slab k]
    unfold slabReferences
    rw [hclients]
  kind j := by
    rw [hclients]
    exact h.kind j
  occupancy i hi := by
    rw [(hflows i hi).1]
    unfold queuedData
    rw [hclients]
  bound i hi := (hflows i hi).2
  count j := by
    rw [hclients]
    exact h.count j
  handle j := by
    unfold HandleOf
    rw [hclients]
    exact h.handle j
  data j entry hentry hdata := by
    rw [hclients] at hentry
    obtain ⟨i, hi, hflow, howner⟩ := h.data j entry hentry hdata
    obtain ⟨hi', hclient, hhandle⟩ := hopen i hi
    refine ⟨i, hi', hflow.trans hhandle.symm, ?_⟩
    rw [hclient, ← howner]
    exact findClient_congr fun j => by rw [hclients]; exact ⟨rfl, rfl⟩
  vacant j := by
    rw [hclients]
    exact h.vacant j

/-- One slot is written: it holds a flow with nothing queued, or goes on as the flow it was. -/
theorem Accounted.setFlow (h : plane.Accounted) {flow : FlowSlot}
    (hclients : other.clients = plane.clients)
    (hslabs : ∀ k, (other.inboundSlabs k).allocated = (plane.inboundSlabs k).allocated)
    (hflows : other.flows = update plane.flows i flow)
    (hopen : isOpen (plane.flows i) → isOpen flow ∧
      flow.client = (plane.flows i).client ∧
      makeFlowHandle i flow = makeFlowHandle i (plane.flows i)) (hflow : flow.allocated →
      flow.inboundOccupancy = plane.queuedData (makeFlowHandle i flow) ∧
      flow.inboundOccupancy ≤ maximumInboundDatagramsPerFlow) : other.Accounted := by
  refine h.of_flows hclients hslabs ?_ ?_
  · rw [hflows]
    exact (forall_update_iff plane.flows fun i' flow' =>
      isOpen (plane.flows i') → isOpen flow' ∧
        flow'.client = (plane.flows i').client ∧
        makeFlowHandle i' flow' = makeFlowHandle i' (plane.flows i')).mpr
      ⟨hopen, fun i' _ hi' => ⟨hi', rfl, rfl⟩⟩
  · rw [hflows]
    exact (forall_update_iff plane.flows fun i' flow' => flow'.allocated = true →
      flow'.inboundOccupancy = plane.queuedData (makeFlowHandle i' flow') ∧
        flow'.inboundOccupancy ≤ maximumInboundDatagramsPerFlow).mpr
      ⟨hflow, fun i' _ hi' => ⟨h.occupancy i' hi', h.bound i' hi'⟩⟩

/-- Neither the queues nor the flows change. -/
theorem Accounted.of_eq (h : plane.Accounted) (hclients : other.clients = plane.clients)
    (hslabs : ∀ k, (other.inboundSlabs k).allocated = (plane.inboundSlabs k).allocated)
    (hflows : other.flows = plane.flows) : other.Accounted := by
  refine h.of_flows hclients hslabs ?_ ?_ <;> rw [hflows]
  · exact fun _ hi => ⟨hi, rfl, rfl⟩
  · exact fun i hi => ⟨h.occupancy i hi, h.bound i hi⟩

end Flows

/-! ## Moves that write one queue -/

section Queues

variable {j : Fin maximumClientContexts}

/-- A client's queue is written: what it counts for changes as the slabs and the flows do. -/
theorem Accounted.setQueue (h : plane.Accounted)
    (hclients : other.clients = update plane.clients j slot)
    (halloc : slot.allocated = (plane.clients j).allocated)
    (hgen : slot.generation = (plane.clients j).generation)
    (hslab : ∀ k, slot.completions.countP (holdsSlab k) + (plane.inboundSlabs k).allocated.toNat =
      (other.inboundSlabs k).allocated.toNat + (plane.clients j).completions.countP (holdsSlab k))
    (hkind : ∀ entry ∈ slot.completions,
      isData entry ↔ entry.record.type = .inboundDatagram)
    (hflows : ∀ i, (other.flows i).allocated → (other.flows i).inboundOccupancy +
        (plane.clients j).completions.countP (isDataOf (makeFlowHandle i (other.flows i))) =
      plane.queuedData (makeFlowHandle i (other.flows i)) +
        slot.completions.countP (isDataOf (makeFlowHandle i (other.flows i))) ∧
      (other.flows i).inboundOccupancy ≤ maximumInboundDatagramsPerFlow)
    (hcount : slot.dataCompletionCount = slot.completions.countP isData)
    (hhandle : ∀ entry ∈ slot.completions, entry.record.type ≠ .policyChanged →
      plane.HandleOf j entry.record.flow) (hdata : ∀ entry ∈ slot.completions, isData entry →
      ∃ i, isOpen (other.flows i) ∧ entry.record.flow = makeFlowHandle i (other.flows i) ∧
        plane.findClient (other.flows i).client = some j) (hothers : ∀ i, isOpen (plane.flows i) →
      plane.findClient (plane.flows i).client ≠ some j → other.flows i = plane.flows i)
    (hvacant : slot.allocated = false → slot.completions = []) : other.Accounted := by
  have hsame : SameClients plane other := by
    intro j'
    rw [hclients]
    by_cases hj : j' = j
    · subst hj
      rw [update_self]
      exact ⟨halloc, hgen⟩
    · rw [update_of_ne hj]
      exact ⟨rfl, rfl⟩
  have hqueue {P : Fin maximumClientContexts → ClientSlot → Prop} (hj : P j slot)
      (hother : ∀ j', j' ≠ j → P j' (plane.clients j')) (j' : Fin maximumClientContexts) :
      P j' (other.clients j') := by
    rw [hclients]
    exact (forall_update_iff plane.clients P).mpr ⟨hj, hother⟩ j'
  have hhandleOf (j' : Fin maximumClientContexts) (handle : FlowHandle)
      (hof : plane.HandleOf j' handle) : other.HandleOf j' handle := by
    unfold HandleOf
    rw [(hsame j').2]
    exact hof
  refine ⟨fun k => ?_, ?_, fun i hi => ?_, fun i hi => (hflows i hi).2, ?_, ?_, ?_, ?_⟩
  · have hsum := sum_setClient (holdsSlab k) hclients
    have hbefore : ∑ j', (plane.clients j').completions.countP (holdsSlab k) = _ := h.slab k
    have hdiff := hslab k
    show ∑ j', (other.clients j').completions.countP (holdsSlab k) = _
    omega
  · exact hqueue (P := fun _ slot => ∀ entry ∈ slot.completions,
      isData entry ↔ entry.record.type = .inboundDatagram) hkind fun j' _ => h.kind j'
  · have hsum := sum_setClient (isDataOf (makeFlowHandle i (other.flows i))) hclients
    have hdiff := (hflows i hi).1
    show _ = ∑ j', (other.clients j').completions.countP _
    unfold queuedData at hdiff
    omega
  · exact hqueue (P := fun _ slot => slot.dataCompletionCount = slot.completions.countP isData)
      hcount fun j' _ => h.count j'
  · intro j' entry hentry htype
    refine hhandleOf j' _ ?_
    exact hqueue (P := fun j' slot => ∀ entry ∈ slot.completions,
      entry.record.type ≠ .policyChanged → plane.HandleOf j' entry.record.flow)
      hhandle (fun j' _ => h.handle j') j' entry hentry htype
  · intro j' entry hentry hisData
    have howned := hqueue (P := fun j' slot => ∀ entry ∈ slot.completions, isData entry →
      ∃ i, isOpen (other.flows i) ∧ entry.record.flow = makeFlowHandle i (other.flows i) ∧
        plane.findClient (other.flows i).client = some j') hdata ?_ j' entry hentry hisData
    · obtain ⟨i, hopen, hflow, howner⟩ := howned
      exact ⟨i, hopen, hflow, (hsame.findClient _).trans howner⟩
    · -- The flow of an entry in another queue is a flow of another client, which has not changed.
      intro j' hj entry hentry hisData
      obtain ⟨i, hopen, hflow, howner⟩ := h.data j' entry hentry hisData
      have hkept := hothers i hopen fun hi => hj (Option.some.inj (howner.symm.trans hi))
      exact ⟨i, hkept ▸ hopen, hkept ▸ hflow, hkept ▸ howner⟩
  · exact hqueue (P := fun _ slot => slot.allocated = false → slot.completions = [])
      hvacant fun j' _ => h.vacant j'

/-- A control completion takes the place of one of its kind. -/
theorem coalesce_eq_some {queue queue' : List CompletionEntry}
    (h : coalesce completion queue = some queue') : ∃ before entry after,
      queue = before ++ entry :: after ∧ queue' = before ++ ⟨completion, none⟩ :: after ∧
      entry.inboundSlabSlot = none ∧ entry.record.type = completion.type ∧
      entry.record.flow = completion.flow := by
  induction queue generalizing queue' with
  | nil => cases h
  | cons entry rest ih =>
    unfold coalesce at h
    split at h
    · rename_i hmatch
      cases h
      refine ⟨[], entry, rest, rfl, ?_, hmatch⟩
      obtain ⟨record, slab⟩ := entry
      obtain rfl : slab = none := hmatch.1
      rfl
    · obtain ⟨rest', hrest, rfl⟩ := Option.map_eq_some_iff.mp h
      obtain ⟨before, found, after, rfl, rfl, hfound⟩ := ih hrest
      exact ⟨entry :: before, found, after, rfl, rfl, hfound⟩

theorem coalesce_eq_none (h : coalesce completion queue = none) : ∀ entry ∈ queue,
      ¬(entry.inboundSlabSlot = none ∧ entry.record.type = completion.type ∧
        entry.record.flow = completion.flow) := by
  induction queue with
  | nil => exact forall_mem_nil _
  | cons entry rest ih =>
    unfold coalesce at h
    split at h
    · cases h
    · rename_i hmatch
      intro entry' hentry
      rcases mem_cons.mp hentry with rfl | hentry
      · exact hmatch
      · exact ih (Option.map_eq_none_iff.mp h) entry' hentry

/-- What a queue is after a control completion: it counts for the same data. -/
theorem control_queue {queue queue' : List CompletionEntry}
    (h : coalesce completion queue = some queue' ∨ queue' = queue ++ [⟨completion, none⟩]) :
    (∀ p : CompletionEntry → Bool, (∀ entry, entry.inboundSlabSlot = none → p entry = false) →
      queue'.countP p = queue.countP p) ∧
      ∀ entry ∈ queue', entry ∈ queue ∨ entry = ⟨completion, none⟩ := by
  rcases h with h | rfl
  · obtain ⟨before, entry, after, rfl, rfl, hslab, _⟩ := coalesce_eq_some h
    refine ⟨fun p hp => ?_, fun entry' hentry => ?_⟩
    · rw [countP_append, countP_append, countP_cons, countP_cons,
        hp entry hslab, hp ⟨completion, none⟩ rfl]
    · rcases mem_append.mp hentry with hbefore | hrest
      · exact .inl (mem_append_left _ hbefore)
      · rcases mem_cons.mp hrest with hnew | hafter
        · exact .inr hnew
        · exact .inl (mem_append_right _ (mem_cons_of_mem _ hafter))
  · refine ⟨fun p hp => ?_, fun entry' hentry => ?_⟩
    · rw [countP_append, countP_singleton, hp ⟨completion, none⟩ rfl]
      rfl
    · rcases mem_append.mp hentry with hold | hnew
      · exact .inl hold
      · exact .inr (mem_singleton.mp hnew)

/-- A control completion of a flow of the client, or of the policy, is no data. -/
theorem Accounted.enqueueControl (h : plane.Accounted) (htype : completion.type ≠ .inboundDatagram)
    (hhandle : completion.type ≠ .policyChanged →
      ∃ decoded, decodeFlowHandle completion.flow = some decoded ∧ decoded.client = client) :
    (plane.enqueueControlCompletion client completion).Accounted := by
  rcases enqueueControlCompletion_cases plane client completion with
    hsame | ⟨j, slot, hclient, halloc, hgen, hcount, hqueue, hother⟩
  · rw [hsame]
    exact h
  obtain ⟨hslot, _, hlive, hmatch⟩ := findClient_eq_some.mp hclient
  obtain ⟨hkeep, hmem⟩ := control_queue (hqueue.imp_right fun hnew => hnew.2.2)
  have hcontrol : ∀ entry : CompletionEntry, entry.inboundSlabSlot = none → isData entry = false :=
    fun entry hentry => by rw [isData, hentry]; rfl
  rw [hother]
  refine h.setQueue setClient_clients halloc hgen (fun k => ?_) ?_ (fun i hi => ?_) ?_ ?_ ?_
    (fun _ _ _ => rfl) ?_
  · rw [hkeep (holdsSlab k) fun entry hentry => by rw [holdsSlab, hentry]; rfl, Nat.add_comm]
    rfl
  · intro entry hentry
    rcases hmem entry hentry with hold | rfl
    · exact h.kind j entry hold
    · exact ⟨nofun, fun hdata => (htype hdata).elim⟩
  · rw [hkeep (isDataOf _) fun entry hentry => by rw [isDataOf, hcontrol entry hentry]; rfl]
    exact ⟨congrArg (· + _) (h.occupancy i hi), h.bound i hi⟩
  · rw [hcount, h.count j, hkeep isData hcontrol]
  · intro entry hentry hpolicy
    rcases hmem entry hentry with hold | rfl
    · exact h.handle j entry hold hpolicy
    · obtain ⟨decoded, hdecode, hdecoded⟩ := hhandle hpolicy
      exact ⟨decoded, hdecode, by rw [hdecoded]; exact hslot, by rw [hdecoded]; exact hmatch.symm⟩
  · intro entry hentry hdata
    rcases hmem entry hentry with hold | rfl
    · exact h.data j entry hold hdata
    · cases hdata
  · intro hgone
    rw [halloc, hlive] at hgone
    cases hgone

/-- An entry that is no data completion of a flow other than its own. -/
theorem isDataOf_eq_false (h : entry.record.flow ≠ handle) : isDataOf handle entry = false := by
  rw [← not_eq_true, isDataOf_iff]
  exact fun hdata => h hdata.2

/-- Handles of two slots of a sound plane differ. -/
theorem Sound.handle_ne (hsound : plane.Sound) {i i' : Fin maximumFlows}
    (hi : (plane.flows i).allocated) (hi' : (plane.flows i').allocated)
    (hne : i' ≠ i) : makeFlowHandle i (plane.flows i) ≠ makeFlowHandle i' (plane.flows i') :=
  fun h => hne (makeFlowHandle_inj (hsound.flow i hi) (hsound.flow i' hi') h).1.symm

/-- The handle of a flow is one of its client's. -/
theorem Sound.handleOf (hsound : plane.Sound) (hi : (plane.flows i).allocated)
    (hclient : plane.findClient (plane.flows i).client = some j) :
    plane.HandleOf j (makeFlowHandle i (plane.flows i)) := by
  obtain ⟨hslot, _, _, hmatch⟩ := findClient_eq_some.mp hclient
  exact ⟨_, decodeFlowHandle_makeFlowHandle (hsound.flow i hi), hslot, hmatch.symm⟩

/-- What storing a datagram does to the flow. -/
theorem store_flow {plane : TunnelFlowPlane} {i : Fin maximumFlows}
    {k : Fin inboundPacketSlabCount} {j : Fin maximumClientContexts} {payload : List UInt8}
    {now : Ktime} : ∃ flow, (plane.store i k j payload now).flows =
        update plane.flows i flow ∧ flow.identity = (plane.flows i).identity ∧
      flow.inboundOccupancy = (plane.flows i).inboundOccupancy + 1 :=
  ⟨_, rfl, rfl, rfl⟩

/-- What storing a datagram puts into the queue. -/
theorem store_queue (plane : TunnelFlowPlane) (i : Fin maximumFlows)
    (k : Fin inboundPacketSlabCount) (j : Fin maximumClientContexts) (payload : List UInt8)
    (now : Ktime) : ∃ entry slot, (plane.store i k j payload now).clients =
        update plane.clients j slot ∧
      slot.allocated = (plane.clients j).allocated ∧
      slot.generation = (plane.clients j).generation ∧
      slot.dataCompletionCount = (plane.clients j).dataCompletionCount + 1 ∧
      slot.completions = (plane.clients j).completions ++ [entry] ∧
      entry.inboundSlabSlot = some k ∧ entry.record.type = .inboundDatagram ∧
      entry.record.flow = makeFlowHandle i (plane.flows i) := by
  refine ⟨_, _, rfl, (append_allocated _ _).1, (append_allocated _ _).2,
    append_dataCompletionCount _ _, append_completions _ _, rfl, rfl, ?_⟩
  show makeFlowHandle i (update plane.flows i _ i) = _
  rw [update_self]
  exact makeFlowHandle_congr rfl rfl

theorem Accounted.store (h : plane.Accounted) (hsound : plane.Sound) {now : Ktime}
    {payload : List UInt8} (hopen : isOpen (plane.flows i))
    (hoccupancy : (plane.flows i).inboundOccupancy < maximumInboundDatagramsPerFlow)
    (hslab : (plane.inboundSlabs k).allocated = false)
    (hclient : plane.findClient (plane.flows i).client = some j) :
    (plane.store i k j payload now).Accounted := by
  have halloc := (isLive_iff.mp (isLive_of_isOpen hopen)).1
  obtain ⟨_, _, hlive, _⟩ := findClient_eq_some.mp hclient
  obtain ⟨entry, slot, hclients, hslotAllocated, hgen, hcount, hqueue, hentrySlab, htype,
    hentryFlow⟩ := store_queue plane i k j payload now
  have hentryData : isData entry := by rw [isData, hentrySlab]; rfl
  obtain ⟨flow, hflows, hident, hflowOccupancy⟩ := store_flow
  have hflows (i' : Fin maximumFlows) : (plane.store i k j payload now).flows i' =
      if i' = i then flow else plane.flows i' := by rw [hflows, update_apply]
  have hmem {entry' : CompletionEntry} (hentry' : entry' ∈ slot.completions) :
      entry' ∈ (plane.clients j).completions ∨ entry' = entry := by
    rw [hqueue] at hentry'
    exact (mem_append.mp hentry').imp_right mem_singleton.mp
  refine h.setQueue hclients hslotAllocated hgen (fun k' => ?_) (fun entry' hentry' => ?_)
    (fun i' hi' => ?_) ?_ (fun entry' hentry' hpolicy => ?_) (fun entry' hentry' hdata => ?_)
    (fun i' hi' howner => ?_) (fun hgone => ?_)
  · have hslabs : (plane.store i k j payload now).inboundSlabs k' =
        if k' = k then ⟨payload, true⟩ else plane.inboundSlabs k' := update_apply ..
    rw [hqueue, countP_append, countP_singleton, hslabs, holdsSlab, hentrySlab]
    by_cases hk : k' = k
    · subst hk
      rw [hslab, decide_eq_true rfl, if_pos rfl, if_pos rfl]
      simp only [toNat_false, toNat_true]
      omega
    · rw [decide_eq_false fun heq => hk (Option.some.inj heq).symm, if_neg hk,
        if_neg Bool.false_ne_true]
      omega
  · rcases hmem hentry' with hold | rfl
    · exact h.kind j entry' hold
    · exact ⟨fun _ => htype, fun _ => hentryData⟩
  · rw [hflows] at hi' ⊢
    rw [hqueue, countP_append, countP_singleton]
    by_cases hne : i' = i
    · subst hne
      rw [if_pos rfl, handle_congr hident, isDataOf_iff.mpr ⟨hentryData, hentryFlow⟩, if_pos rfl,
        ← h.occupancy i' halloc, hflowOccupancy]
      exact ⟨by omega, hoccupancy⟩
    · rw [if_neg hne] at hi' ⊢
      have hother : entry.record.flow ≠ makeFlowHandle i' (plane.flows i') := by
        rw [hentryFlow]
        exact hsound.handle_ne halloc hi' hne
      rw [isDataOf_eq_false hother, if_neg Bool.false_ne_true, Nat.add_zero,
        ← h.occupancy i' hi']
      exact ⟨rfl, h.bound i' hi'⟩
  · rw [hcount, hqueue, countP_append, countP_singleton, ← h.count j, hentryData]
    rfl
  · rcases hmem hentry' with hold | rfl
    · exact h.handle j entry' hold hpolicy
    · rw [hentryFlow]
      exact hsound.handleOf halloc hclient
  · have howned : ∃ i', isOpen (plane.flows i') ∧
        entry'.record.flow = makeFlowHandle i' (plane.flows i') ∧
        plane.findClient (plane.flows i').client = some j := by
      rcases hmem hentry' with hold | rfl
      · exact h.data j entry' hold hdata
      · exact ⟨i, hopen, hentryFlow, hclient⟩
    obtain ⟨i', hopen', hflow', howner⟩ := howned
    refine ⟨i', ?_⟩
    rw [hflows]
    by_cases hne : i' = i
    · subst hne
      rw [if_pos rfl, isOpen_congr hident, handle_congr hident, client_congr hident]
      exact ⟨hopen', hflow', howner⟩
    · rw [if_neg hne]
      exact ⟨hopen', hflow', howner⟩
  · rw [hflows, if_neg]
    rintro rfl
    exact howner hclient
  · rw [hslotAllocated, hlive] at hgone
    cases hgone

/-- What draining a data completion does, with the flow it is of. -/
theorem dropFront_data {rest : List CompletionEntry} (hentry : entry.inboundSlabSlot = some k)
    (hfind : plane.findFlow client entry.record.flow = some i) :
    plane.dropFront client j entry rest =
      ((plane.setClient j { plane.clients j with
        completions := rest
        dataCompletionCount := (plane.clients j).dataCompletionCount - 1 }).setSlab k
        ⟨[], false⟩).setFlow i { plane.flows i with
          inboundOccupancy := (plane.flows i).inboundOccupancy - 1 } := by
  set slot : ClientSlot := { plane.clients j with
    completions := rest
    dataCompletionCount := (plane.clients j).dataCompletionCount - 1 } with hslot
  have hsame : SameClients plane ((plane.setClient j slot).setSlab k ⟨[], false⟩) :=
    SameClients.setClient rfl rfl
  have hfound : ((plane.setClient j slot).setSlab k ⟨[], false⟩).findFlow client
      entry.record.flow = some i := by
    rw [← hfind]
    unfold findFlow
    rw [hsame.findClient client]
    rfl
  unfold dropFront
  rw [hentry]
  simp only [releaseInboundSlab, ← hslot, hfound]
  rfl

/-- The data completions of a flow are all in the queue of its client. -/
theorem Accounted.queuedData_eq (h : plane.Accounted) (hsound : plane.Sound)
    (hi : (plane.flows i).allocated) (howner : plane.findClient (plane.flows i).client = some j) :
    plane.queuedData (makeFlowHandle i (plane.flows i)) =
      (plane.clients j).completions.countP (isDataOf (makeFlowHandle i (plane.flows i))) := by
  refine Finset.sum_eq_single j (fun j' _ hne => ?_) fun hj => (hj (Finset.mem_univ j)).elim
  rw [countP_eq_zero]
  intro entry hentry hisData
  obtain ⟨hdata, hflow⟩ := isDataOf_iff.mp hisData
  obtain ⟨i', hopen', hflow', howner'⟩ := h.data j' entry hentry hdata
  have hi' := (isLive_iff.mp (isLive_of_isOpen hopen')).1
  obtain ⟨rfl, -⟩ := makeFlowHandle_inj (hsound.flow i' hi') (hsound.flow i hi)
    (hflow'.symm.trans hflow)
  exact hne (Option.some.inj (howner'.symm.trans howner))

/-- Completions leave the queue of a client with their slabs, among them data of one open flow only. -/
theorem Accounted.remove (h : plane.Accounted) (hsound : plane.Sound) {i : Fin maximumFlows}
    {flow : FlowSlot} (removed : List CompletionEntry) (hopen : isOpen (plane.flows i))
    (howner : plane.findClient (plane.flows i).client = some j)
    (hclients : other.clients = update plane.clients j slot)
    (halloc : slot.allocated = (plane.clients j).allocated)
    (hgen : slot.generation = (plane.clients j).generation)
    (hperm : (plane.clients j).completions.Perm (removed ++ slot.completions))
    (hcount : slot.dataCompletionCount = slot.completions.countP isData)
    (hslabs : ∀ k, other.inboundSlabs k =
      if ∃ entry ∈ removed, entry.inboundSlabSlot = some k then ⟨[], false⟩
      else plane.inboundSlabs k) (hflows : other.flows = update plane.flows i flow)
    (hremoved : ∀ entry ∈ removed, entry.record.flow = makeFlowHandle i (plane.flows i))
    (hhandle : makeFlowHandle i flow = makeFlowHandle i (plane.flows i))
    (hoccupancy : flow.inboundOccupancy =
      slot.completions.countP (isDataOf (makeFlowHandle i (plane.flows i))))
    (hkept : flow.inboundOccupancy ≠ 0 → isOpen flow ∧
      flow.client = (plane.flows i).client) : other.Accounted := by
  have hi := (isLive_iff.mp (isLive_of_isOpen hopen)).1
  obtain ⟨_, _, hlive, _⟩ := findClient_eq_some.mp howner
  have hflows (i' : Fin maximumFlows) : other.flows i' =
      if i' = i then flow else plane.flows i' := by rw [hflows, update_apply]
  have hsplit (p : CompletionEntry → Bool) : (plane.clients j).completions.countP p =
      removed.countP p + slot.completions.countP p := by
    rw [hperm.countP_eq, countP_append]
  have hmem {entry : CompletionEntry} (hentry : entry ∈ slot.completions) :
      entry ∈ (plane.clients j).completions :=
    hperm.mem_iff.mpr (mem_append_right _ hentry)
  refine h.setQueue hclients halloc hgen (fun k => ?_)
    (fun entry hentry => h.kind j entry (hmem hentry)) (fun i' hi' => ?_) hcount
    (fun entry hentry => h.handle j entry (hmem hentry)) (fun entry hentry hdata => ?_)
    (fun i' hi' howner' => ?_) fun hgone => ?_
  · have hslab : ∑ j', (plane.clients j').completions.countP (holdsSlab k) = _ := h.slab k
    have hreferred := countP_le_sum plane (holdsSlab k) j
    have hle := toNat_le (plane.inboundSlabs k).allocated
    rw [hsplit] at hreferred
    rw [hslabs, hsplit]
    by_cases hk : ∃ entry ∈ removed, entry.inboundSlabSlot = some k
    · -- The slab had one reference, which goes with the slab.
      rw [if_pos hk]
      obtain ⟨entry, hentry, hentrySlab⟩ := hk
      have hpos := countP_pos_iff.mpr ⟨entry, hentry,
        show holdsSlab k entry = true from decide_eq_true hentrySlab⟩
      show _ = 0 + _
      omega
    · rw [if_neg hk]
      have hzero : removed.countP (holdsSlab k) = 0 := by
        rw [countP_eq_zero]
        exact fun entry hentry hholds => hk ⟨entry, hentry, of_decide_eq_true hholds⟩
      omega
  · rw [hflows] at hi' ⊢
    by_cases hne : i' = i
    · subst hne
      have hqueued := h.queuedData_eq hsound hi howner
      have hbefore := h.occupancy i' hi
      have hbound := h.bound i' hi
      have hparts := hsplit (isDataOf (makeFlowHandle i' (plane.flows i')))
      rw [if_pos rfl, hhandle]
      omega
    · rw [if_neg hne] at hi' ⊢
      have hzero : removed.countP (isDataOf (makeFlowHandle i' (plane.flows i'))) = 0 := by
        rw [countP_eq_zero]
        intro entry hentry hdata
        exact hsound.handle_ne hi hi' hne
          ((hremoved entry hentry).symm.trans (isDataOf_iff.mp hdata).2)
      rw [hsplit, hzero, Nat.zero_add, ← h.occupancy i' hi']
      exact ⟨rfl, h.bound i' hi'⟩
  · obtain ⟨i', hopen', hflow', howner'⟩ := h.data j entry (hmem hentry) hdata
    refine ⟨i', ?_⟩
    rw [hflows]
    by_cases hne : i' = i
    · subst hne
      have hpos := countP_pos_iff.mpr ⟨entry, hentry, isDataOf_iff.mpr ⟨hdata, hflow'⟩⟩
      obtain ⟨hstays, hclient⟩ := hkept (by omega)
      rw [if_pos rfl, hhandle, hclient]
      exact ⟨hstays, hflow', howner'⟩
    · rw [if_neg hne]
      exact ⟨hopen', hflow', howner'⟩
  · rw [hflows, if_neg]
    rintro rfl
    exact howner' howner
  · rw [halloc, hlive] at hgone
    cases hgone

theorem Accounted.drain (h : plane.Accounted) (hsound : plane.Sound) {rest : List CompletionEntry}
    (hclient : plane.findClient client = some j)
    (hqueue : (plane.clients j).completions = entry :: rest) :
    (plane.dropFront client j entry rest).Accounted := by
  obtain ⟨_, _, hlive, _⟩ := findClient_eq_some.mp hclient
  have hmem {entry' : CompletionEntry} (hentry' : entry' ∈ rest) :
      entry' ∈ (plane.clients j).completions := hqueue ▸ mem_cons_of_mem entry hentry'
  have hfirst : entry ∈ (plane.clients j).completions := hqueue ▸ mem_cons_self
  cases hentry : entry.inboundSlabSlot with
  | none =>
    have hcontrol : isData entry = false := by rw [isData, hentry]; rfl
    have hdrop : plane.dropFront client j entry rest =
        plane.setClient j { plane.clients j with completions := rest } := by
      unfold dropFront
      rw [hentry]
    rw [hdrop]
    refine h.setQueue setClient_clients rfl rfl (fun k => ?_) (fun entry' hentry' => ?_)
      (fun i hi => ?_) ?_ (fun entry' hentry' => ?_) (fun entry' hentry' => ?_) (fun _ _ _ => rfl)
      (fun hgone => ?_)
    · rw [hqueue, countP_cons, holdsSlab, hentry]
      simp only [reduceCtorEq, decide_false, false_eq_true, if_false]
      exact Nat.add_comm ..
    · exact h.kind j entry' (hmem hentry')
    · have hnot : isDataOf (makeFlowHandle i (plane.flows i)) entry = false := by
        rw [isDataOf, hcontrol]
        rfl
      rw [setClient_flows, hqueue, List.countP_cons, hnot, if_neg Bool.false_ne_true, Nat.add_zero,
        ← h.occupancy i hi]
      exact ⟨rfl, h.bound i hi⟩
    · show (plane.clients j).dataCompletionCount = _
      rw [h.count j, hqueue, countP_cons, hcontrol]
      rfl
    · exact h.handle j entry' (hmem hentry')
    · exact h.data j entry' (hmem hentry')
    · exact (false_ne_true (hgone.symm.trans hlive)).elim
  | some k =>
    have hdata : isData entry := by rw [isData, hentry]; rfl
    -- The entry is one of an open flow of this client, whose slot the lookup finds.
    obtain ⟨i, hopen, hflow, howner⟩ := h.data j entry hfirst hdata
    have halloc := (isLive_iff.mp (isLive_of_isOpen hopen)).1
    have hfind : plane.findFlow client entry.record.flow = some i := by
      rw [hflow, ← findClient_inj howner hclient]
      exact findFlow_makeFlowHandle halloc (hsound.flow i halloc) howner
    have hoccupancy : (plane.flows i).inboundOccupancy =
        rest.countP (isDataOf (makeFlowHandle i (plane.flows i))) + 1 := by
      rw [h.occupancy i halloc, h.queuedData_eq hsound halloc howner, hqueue,
        countP_cons, isDataOf_iff.mpr ⟨hdata, hflow⟩, if_pos rfl]
    rw [dropFront_data hentry hfind]
    refine h.remove hsound [entry] hopen howner rfl rfl rfl (hqueue ▸ .refl _) ?_
      (fun k' => ?_) rfl (fun entry' hentry' => ?_) (makeFlowHandle_congr rfl rfl) ?_
      fun _ => ⟨hopen, rfl⟩
    · show (plane.clients j).dataCompletionCount - 1 = _
      rw [h.count j, hqueue, countP_cons, hdata]
      rfl
    · show update plane.inboundSlabs k _ k' = _
      rw [update_apply]
      simp [hentry, eq_comm]
    · rw [mem_singleton.mp hentry', hflow]
    · show (plane.flows i).inboundOccupancy - 1 = _
      rw [hoccupancy]
      rfl

/-- What closing an open flow leaves of its client's queue. -/
theorem removeFlowCompletions_spec (plane : TunnelFlowPlane) (i : Fin maximumFlows)
    (j : Fin maximumClientContexts) : ∃ (removed : CompletionEntry → Bool) (slot : ClientSlot),
      removed = isDataOf (makeFlowHandle i (plane.flows i)) ∧
      (plane.removeFlowCompletions i j).clients = update plane.clients j slot ∧
      slot.allocated = (plane.clients j).allocated ∧
      slot.generation = (plane.clients j).generation ∧
      slot.completions = (plane.clients j).completions.filter (!removed ·) ∧
      slot.dataCompletionCount = slot.completions.countP isData ∧
      (plane.removeFlowCompletions i j).inboundSlabs = fun k =>
        if ∃ entry ∈ (plane.clients j).completions.filter removed, entry.inboundSlabSlot = some k
        then ⟨[], false⟩ else plane.inboundSlabs k := by
  have hremoved : isDataOf (makeFlowHandle i (plane.flows i)) = fun entry =>
      decide (entry.record.flow = makeFlowHandle i (plane.flows i)) &&
        entry.inboundSlabSlot.isSome := by
    funext entry
    exact and_comm ..
  refine ⟨_, { plane.clients j with
    completions := (plane.clients j).completions.filter
      (!isDataOf (makeFlowHandle i (plane.flows i)) ·)
    dataCompletionCount := ((plane.clients j).completions.filter
      (!isDataOf (makeFlowHandle i (plane.flows i)) ·)).countP isData }, rfl, ?_, rfl, rfl, rfl,
      rfl, ?_⟩
  · rw [hremoved]
    unfold removeFlowCompletions
    simp only [setClient_clients]
    rw [show ((plane.clients j).completions.filter _).foldl
        (fun plane entry => plane.releaseInboundSlab entry.inboundSlabSlot) plane =
      plane.releaseAll _ from rfl, releaseAll_eq]
    rfl
  · rw [hremoved]
    show (releaseAll plane _).inboundSlabs = _
    rw [releaseAll_eq]

theorem Accounted.withClosed (h : plane.Accounted) (hsound : plane.Sound) {i : Fin maximumFlows}
    {reason : FlowTerminalReason} {now : Ktime} (hopen : isOpen (plane.flows i)) :
    (plane.withClosed i reason now).Accounted := by
  obtain ⟨j, howner⟩ := hsound.owner i (isLive_of_isOpen hopen)
  have hdrop : plane.dropData i = plane.removeFlowCompletions i j := by
    unfold dropData
    rw [howner]
  obtain ⟨removed, slot, hremoved, hclients, halloc, hgen, hcompletions, hcount,
    hslabs⟩ := removeFlowCompletions_spec plane i j
  have hnone : slot.completions.countP removed = 0 := by
    rw [hcompletions, countP_eq_zero]
    simp
  refine h.remove hsound ((plane.clients j).completions.filter removed) hopen howner ?_ halloc
    hgen ?_ hcount (fun k => ?_) (withClosed_flows ..) (fun entry hentry => ?_)
    (makeFlowHandle_congr rfl rfl) ?_
    fun hsome => (hsome rfl).elim
  · rw [withClosed_clients, hdrop, hclients]
  · rw [hcompletions]
    exact (filter_append_perm removed _).symm
  · rw [← congrFun hslabs k, ← hdrop]
    show ((plane.dropData i).quarantineTuple _ now).inboundSlabs k = _
    rw [quarantineTuple_inboundSlabs]
  · have hdata := (mem_filter.mp hentry).2
    rw [hremoved] at hdata
    exact (isDataOf_iff.mp hdata).2
  · rw [← hremoved, hnone]
    rfl

/-- A client comes or goes: its queue is empty then, and had no data before. -/
theorem Accounted.replaceClient (h : plane.Accounted)
    (hclients : other.clients = update plane.clients j slot) (hflows : other.flows = plane.flows)
    (hslabs : ∀ k, (other.inboundSlabs k).allocated = (plane.inboundSlabs k).allocated)
    (hempty : slot.completions = []) (hcount : slot.dataCompletionCount = 0)
    (hnone : ∀ entry ∈ (plane.clients j).completions, isData entry = false)
    (howner : ∀ i, isOpen (plane.flows i) → ∀ j',
      plane.findClient (plane.flows i).client = some j' →
        other.findClient (plane.flows i).client = some j') : other.Accounted := by
  have hzero (p : CompletionEntry → Bool) (hp : ∀ entry, p entry → isData entry) :
      ∑ j', (other.clients j').completions.countP p =
        ∑ j', (plane.clients j').completions.countP p := by
    have hsum := sum_setClient p hclients
    have hold : (plane.clients j).completions.countP p = 0 := by
      rw [countP_eq_zero]
      intro entry hentry hholds
      have hdata := hp entry hholds
      rw [hnone entry hentry] at hdata
      cases hdata
    rw [hempty, countP_nil, hold] at hsum
    exact hsum
  have hqueue {P : Fin maximumClientContexts → ClientSlot → Prop} (hj : P j slot)
      (hother : ∀ j', j' ≠ j → P j' (plane.clients j')) (j' : Fin maximumClientContexts) :
      P j' (other.clients j') := by
    rw [hclients]
    exact (forall_update_iff plane.clients P).mpr ⟨hj, hother⟩ j'
  have hnothing {P : CompletionEntry → Prop} : ∀ entry ∈ slot.completions, P entry := by
    rw [hempty]
    exact forall_mem_nil _
  refine ⟨fun k => ?_, ?_, fun i hi => ?_, ?_, ?_, ?_, ?_, ?_⟩
  · rw [hslabs, ← h.slab k]
    exact hzero (holdsSlab k) fun entry => isData_of_holdsSlab
  · exact hqueue (P := fun _ slot => ∀ entry ∈ slot.completions,
      isData entry ↔ entry.record.type = .inboundDatagram) hnothing fun j' _ => h.kind j'
  · rw [hflows] at hi ⊢
    rw [h.occupancy i hi]
    exact (hzero (isDataOf _) fun entry hdata => (isDataOf_iff.mp hdata).1).symm
  · rw [hflows]
    exact h.bound
  · exact hqueue (P := fun _ slot => slot.dataCompletionCount = slot.completions.countP isData)
      (by rw [hcount, hempty]; rfl) fun j' _ => h.count j'
  · refine hqueue (P := fun j' slot => ∀ entry ∈ slot.completions,
      entry.record.type ≠ .policyChanged → other.HandleOf j' entry.record.flow) hnothing
      fun j' hj entry hentry hpolicy => ?_
    unfold HandleOf
    rw [hclients, update_of_ne hj]
    exact h.handle j' entry hentry hpolicy
  · refine hqueue (P := fun j' slot => ∀ entry ∈ slot.completions, isData entry →
      ∃ i, isOpen (other.flows i) ∧ entry.record.flow = makeFlowHandle i (other.flows i) ∧
        other.findClient (other.flows i).client = some j') hnothing
      fun j' _ entry hentry hdata => ?_
    obtain ⟨i, hopen, hflow, hj'⟩ := h.data j' entry hentry hdata
    rw [hflows]
    exact ⟨i, hopen, hflow, howner i hopen j' hj'⟩
  · exact hqueue (P := fun _ slot => slot.allocated = false → slot.completions = [])
      (fun _ => hempty) fun j' _ => h.vacant j'

end Queues

/-! ## Every move -/

section Moves

variable {now : Ktime} {scope : MoveScope}

theorem Accounted.move (h : plane.Accounted) (hsound : plane.Sound)
    (hmove : PlaneMove now scope plane other) : other.Accounted := by
  have hkept {i : Fin maximumFlows} {flow : FlowSlot}
      (hident : flow.identity = (plane.flows i).identity)
      (hoccupancy : flow.inboundOccupancy = (plane.flows i).inboundOccupancy) :
      (plane.setFlow i flow).Accounted := by
    refine h.setFlow rfl (fun _ => rfl) setFlow_flows (fun hopen => ?_) fun halloc => ?_
    · exact ⟨(isOpen_congr hident).trans hopen, client_congr hident, handle_congr hident i⟩
    · rw [allocated_congr hident] at halloc
      rw [hoccupancy, handle_congr hident]
      exact ⟨h.occupancy i halloc, h.bound i halloc⟩
  have hreported (plane : TunnelFlowPlane) (hplane : plane.Accounted) (i : Fin maximumFlows)
      (flow : FlowSlot) (hflow : flow.Sound) (completion : CompletionRecord)
      (htype : completion.type ≠ .inboundDatagram)
      (hhandle : completion.flow = makeFlowHandle i flow) :
      (plane.enqueueControlCompletion flow.client completion).Accounted :=
    hplane.enqueueControl htype fun _ =>
      ⟨_, hhandle ▸ decodeFlowHandle_makeFlowHandle hflow, rfl⟩
  cases hmove with
  | touch i => exact hkept rfl rfl
  | commit i hlive hpend =>
    have halloc := (isLive_iff.mp hlive).1
    refine h.setFlow rfl (fun _ => rfl) setFlow_flows (fun hopen => ?_)
      fun _ => ⟨h.occupancy i halloc, h.bound i halloc⟩
    rw [(isOpen_iff.mp hopen).2] at hpend
    cases hpend
  | discard i halloc hpend =>
    refine h.setFlow rfl (fun _ => rfl) setFlow_flows (fun hopen => ?_) nofun
    rw [(isOpen_iff.mp hopen).2] at hpend
    cases hpend
  | reserve client request i j port _ hclient hfree =>
    have hclash (hopen : isOpen (plane.flows i)) : False := by
      rw [isLive_of_isOpen hopen] at hfree
      cases hfree
    have hflows : (plane.writeReservation client request now i port).2.flows =
        update plane.flows i (plane.reservedFlow client request now port) := rfl
    refine h.setFlow rfl (fun _ => rfl) hflows (fun hopen => (hclash hopen).elim) fun _ => ?_
    refine ⟨(h.queuedData_eq_zero fun i' hopen' hhandle => ?_).symm, Nat.zero_le _⟩
    -- The handle of the new flow names its slot, in which there is no open flow.
    obtain ⟨rfl, -⟩ := makeFlowHandle_inj
      (hsound.flow i' (isLive_iff.mp (isLive_of_isOpen hopen')).1)
      (reservedFlow_sound hclient) hhandle
    exact hclash hopen'
  | close i reason notify _ hopen =>
    have hflow := hsound.flow i (isLive_iff.mp (isLive_of_isOpen hopen)).1
    rw [closeFlowSlot_of_open hopen]
    split
    · exact hreported _ (h.withClosed hsound hopen) i (terminated (plane.flows i) reason now)
        ⟨hflow.slot, hflow.client, hflow.generation, hflow.generation_lt⟩ _ nofun rfl
    · exact h.withClosed hsound hopen
  | announce j => exact h.enqueueControl nofun fun hpolicy => (hpolicy rfl).elim
  | wake i hopen =>
    have hflow := hsound.flow i (isLive_iff.mp (isLive_of_isOpen hopen)).1
    have htouched : (plane.setFlow i { plane.flows i with writableWaiter := false }).Accounted :=
      hkept rfl rfl
    exact hreported _ htouched i { plane.flows i with writableWaiter := false }
      ⟨hflow.slot, hflow.client, hflow.generation, hflow.generation_lt⟩
      (writableCompletion i { plane.flows i with writableWaiter := false }) nofun rfl
  | store i k j payload hopen hoccupancy hslab hclient =>
    exact h.store hsound hopen hoccupancy hslab hclient
  | wipe k hslab =>
    refine h.of_eq rfl (fun k' => ?_) rfl
    rw [setSlab_inboundSlabs, update_apply]
    split
    · rename_i hk
      rw [hk, hslab]
    · rfl
  | drain client j entry rest _ hclient hqueue => exact h.drain hsound hclient hqueue
  | create j generation next notifier hfree =>
    have hempty := h.vacant j hfree
    refine h.replaceClient setClient_clients rfl (fun _ => rfl) rfl rfl ?_
      fun i _ j' hj' => addClient_findClient hfree hj'
    rw [hempty]
    exact forall_mem_nil _
  | forget client j hsilent hclient hnone =>
    have hcontrol : ∀ entry ∈ (plane.clients j).completions, isData entry = false := by
      intro entry hentry
      by_contra hdata
      obtain ⟨i, hopen, _, howner⟩ := h.data j entry hentry (not_eq_false _ ▸ hdata)
      have hdead := hnone i (findClient_inj howner hclient)
      rw [isLive_of_isOpen hopen] at hdead
      cases hdead
    refine h.replaceClient (forgetClient_clients plane j) (forgetClient_flows plane j) (fun k => ?_)
      rfl rfl hcontrol fun i hopen j' hj' => ?_
    · show ((plane.releaseAll _).inboundSlabs k).allocated = _
      rw [releaseAll_eq]
      simp only
      rw [if_neg]
      rintro ⟨entry, hentry, hslab⟩
      have hdata := hcontrol entry hentry
      rw [isData, hslab] at hdata
      cases hdata
    · have hgone : PlaneMove now scope plane (plane.forgetClient j) :=
        .forget plane client j hsilent hclient hnone
      exact hgone.owner (isLive_of_isOpen hopen) hj'
  | setPolicy | expire | advance => exact h.of_eq rfl (fun _ => rfl) rfl

end Moves

/-- After any operations the records of inbound datagrams agree: every allocated slab is that of one
queued datagram, occupancies and counts are numbers of queued datagrams, and what is queued for a
client is of its own flows. -/
theorem inbound_storage_accounted {plane : TunnelFlowPlane} (h : planes.Reachable plane) :
    (∀ k, plane.slabReferences k = if (plane.inboundSlabs k).allocated then 1 else 0) ∧
    (∀ j, ∀ entry ∈ (plane.clients j).completions,
      entry.record.type = .inboundDatagram ↔
        ∃ k, entry.inboundSlabSlot = some k ∧ (plane.inboundSlabs k).allocated = true) ∧
    (∀ j, ∀ entry ∈ (plane.clients j).completions,
      entry.record.type ≠ .inboundDatagram → entry.inboundSlabSlot = none) ∧
    (∀ i, (plane.flows i).allocated = true →
      (plane.flows i).inboundOccupancy = plane.queuedData (makeFlowHandle i (plane.flows i)) ∧
      (plane.flows i).inboundOccupancy ≤ 4) ∧
    (∀ j, (plane.clients j).dataCompletionCount = (plane.clients j).completions.countP
      fun entry => decide (entry.record.type = .inboundDatagram)) ∧
    (∀ j, ∀ entry ∈ (plane.clients j).completions, entry.record.type ≠ .policyChanged →
      ∃ decoded, decodeFlowHandle entry.record.flow = some decoded ∧
        decoded.client = ⟨UInt8.ofNat j, (plane.clients j).generation⟩) := by
  have haccounted := planes_invariant initial_accounted
    (fun _ _ _ _ hsound hplane hmove => Accounted.move hplane hsound hmove) h
  have hslab (k : Fin inboundPacketSlabCount) :
      plane.slabReferences k = if (plane.inboundSlabs k).allocated then 1 else 0 := by
    rw [haccounted.slab k]
    cases (plane.inboundSlabs k).allocated <;> rfl
  refine ⟨hslab, fun j entry hentry => ?_, fun j entry hentry htype => ?_,
    fun i hi => ⟨haccounted.occupancy i hi, haccounted.bound i hi⟩, fun j => ?_,
    fun j entry hentry hpolicy => ?_⟩
  · rw [← haccounted.kind j entry hentry]
    refine ⟨fun hdata => ?_, fun ⟨k, hk, _⟩ => by rw [isData, hk]; rfl⟩
    obtain ⟨k, hk⟩ := Option.isSome_iff_exists.mp hdata
    refine ⟨k, hk, ?_⟩
    have hpos : 0 < (plane.clients j).completions.countP (holdsSlab k) :=
      countP_pos_iff.mpr ⟨entry, hentry, decide_eq_true hk⟩
    have hle : _ ≤ plane.slabReferences k := countP_le_sum plane (holdsSlab k) j
    rw [hslab k] at hle
    by_contra hfree
    rw [if_neg hfree] at hle
    omega
  · rw [Ne, ← haccounted.kind j entry hentry, not_eq_true] at htype
    exact Option.not_isSome_iff_eq_none.mp (by rw [← isData, htype]; exact false_ne_true)
  · rw [haccounted.count j]
    refine countP_congr fun entry hentry => ?_
    rw [haccounted.kind j entry hentry, decide_eq_true_iff]
  · obtain ⟨decoded, hdecode, hslot, hgen⟩ := haccounted.handle j entry hentry hpolicy
    refine ⟨decoded, hdecode, ?_⟩
    have hofNat : decoded.client.slot = UInt8.ofNat j := by
      rw [← hslot, UInt8.ofNat_toNat]
    rw [← hofNat, ← hgen]

def sampleInbound : PlaneAction :=
  .deliver ⟨0, 1⟩ 2 sampleHandle sampleRequest.remote [1, 2, 3]

theorem inbound_storage_accounted_sample : ∃ plane, planes.Reachable plane ∧
    plane.queuedData sampleHandle = 2 ∧ ∀ k, plane.slabReferences k =
      if (plane.inboundSlabs k).allocated then 1 else 0 := by
  refine ⟨afterCalls (sampleSetup ++ [(0, sampleOpen), (0, sampleInbound), (0, sampleInbound)]),
    afterCalls_reachable _, ?_, (inbound_storage_accounted (afterCalls_reachable _)).1⟩
  decide +kernel

/-- No datagram outlives its flow: what is queued for a client as data is of a flow that is open and
belongs to this client. -/
theorem queued_data_of_open_flow {plane : TunnelFlowPlane} (h : planes.Reachable plane)
    (j : Fin maximumClientContexts) : ∀ entry ∈ (plane.clients j).completions,
      entry.record.type = .inboundDatagram → ∃ i, isOpen (plane.flows i) = true ∧
        entry.record.flow = makeFlowHandle i (plane.flows i) ∧
        plane.findClient (plane.flows i).client = some j := by
  have haccounted := planes_invariant initial_accounted
    (fun _ _ _ _ hsound hplane hmove => Accounted.move hplane hsound hmove) h
  intro entry hentry htype
  exact haccounted.data j entry hentry ((haccounted.kind j entry hentry).mpr htype)

theorem queued_data_of_open_flow_sample : ∃ plane, planes.Reachable plane ∧
    ∃ entry ∈ (plane.clients 0).completions, ∃ i, isOpen (plane.flows i) = true ∧
      entry.record.flow = makeFlowHandle i (plane.flows i) := by
  obtain ⟨entry, hentry, htype⟩ : ∃ entry ∈ ((afterCalls (sampleSetup ++
      [(0, sampleOpen), (0, sampleInbound)])).clients 0).completions,
      entry.record.type = .inboundDatagram := by
    decide +kernel
  obtain ⟨i, hopen, hflow, -⟩ :=
    queued_data_of_open_flow (afterCalls_reachable _) 0 entry hentry htype
  exact ⟨_, afterCalls_reachable _, entry, hentry, i, hopen, hflow⟩

end TunnelFlowPlane

end WireguardNx.Tunnel
