import WireguardNx.Laws.Completions
import Mathlib.Data.Finset.Prod

/-!
# Control completions

A client hears of closed flows, of a new policy and of flows that may write again through its queue.
A completion of a kind for a flow takes the place of an earlier one, so that a live flow needs two
places of the queue, and the policy one.  The source reserves these for four flows; but a completion
that is not read keeps its place when its flow is gone.  The reserve holds as long as a client opens
no flow for which the queue has no two places left.
-/

namespace WireguardNx.Tunnel

open Wireguard WireguardNx.Runtime Relation List Function

variable {entry : CompletionEntry} {completion : CompletionRecord} {queue : List CompletionEntry}
  {client : TunnelClientId}

namespace TunnelFlowPlane

variable {plane other : TunnelFlowPlane}

/-! ## The flows a client could hear of -/

/-- Whether a slot holds a live flow of a client. -/
def isLiveOf (plane : TunnelFlowPlane) (j : Fin maximumClientContexts) (i : Fin maximumFlows) :
    Bool :=
  isLive (plane.flows i) && decide (plane.findClient (plane.flows i).client = some j)

def liveHandles (plane : TunnelFlowPlane) (j : Fin maximumClientContexts) : Finset FlowHandle :=
  (((List.finRange maximumFlows).filter (plane.isLiveOf j)).map fun i =>
    makeFlowHandle i (plane.flows i)).toFinset

def controls (plane : TunnelFlowPlane) (j : Fin maximumClientContexts) : List CompletionEntry :=
  (plane.clients j).completions.filter (!isData ·)

/-- What a control completion is coalesced by. -/
def controlKey (entry : CompletionEntry) : CompletionType × FlowHandle :=
  (entry.record.type, entry.record.flow)

def controlKeys (queue : List CompletionEntry) : List (CompletionType × FlowHandle) :=
  (queue.filter (!isData ·)).map controlKey

/-- The places of its queue that a client needs for control completions: those it has not read, one
of the policy and two of each live flow. -/
def spokenFor (plane : TunnelFlowPlane) (j : Fin maximumClientContexts) :
    Finset (CompletionType × FlowHandle) :=
  insert (.policyChanged, 0)
    (({.flowStateChanged, .writable} : Finset CompletionType) ×ˢ plane.liveHandles j ∪
      (controlKeys (plane.clients j).completions).toFinset)

/-- The queues of the clients hold no more data completions than they may. -/
def DataWithin (plane : TunnelFlowPlane) : Prop :=
  ∀ j, (plane.clients j).completions.countP isData ≤ dataCompletionCapacity

/-- The control completions of every client need few places, one of each kind for each flow. -/
structure AttendedIn (places : Fin maximumClientContexts → Finset (CompletionType × FlowHandle))
    (plane : TunnelFlowPlane) : Prop where
  few : ∀ j, (places j).card + dataCompletionCapacity ≤ completionQueueCapacity
  within : ∀ j, plane.spokenFor j ⊆ places j
  keys : ∀ j, (controlKeys (plane.clients j).completions).Nodup
  data : plane.DataWithin

section Room

variable {j : Fin maximumClientContexts} {key : CompletionType × FlowHandle}
  {places : Fin maximumClientContexts → Finset (CompletionType × FlowHandle)}

private theorem isLiveOf_iff {i : Fin maximumFlows} : plane.isLiveOf j i ↔
    isLive (plane.flows i) ∧ plane.findClient (plane.flows i).client = some j := by
  unfold isLiveOf
  rw [Bool.and_eq_true, decide_eq_true_eq]

theorem mem_controlKeys : key ∈ controlKeys queue ↔
    ∃ entry ∈ queue, isData entry = false ∧ controlKey entry = key := by
  simp only [controlKeys, mem_map, mem_filter, Bool.not_eq_true', and_assoc]

theorem mem_spokenFor : key ∈ plane.spokenFor j ↔ key = (.policyChanged, 0) ∨
    ((key.1 = .flowStateChanged ∨ key.1 = .writable) ∧
      ∃ i, isLive (plane.flows i) ∧ plane.findClient (plane.flows i).client = some j ∧
        makeFlowHandle i (plane.flows i) = key.2) ∨
    key ∈ controlKeys (plane.clients j).completions := by
  unfold spokenFor liveHandles
  simp only [Finset.mem_insert, Finset.mem_union, Finset.mem_product, Finset.mem_singleton,
    mem_toFinset, mem_map, mem_filter, mem_finRange, true_and, isLiveOf_iff, and_assoc]

/-- A completion that takes no other's place has a key of its own. -/
theorem key_not_mem (h : coalesce completion queue = none) :
    (completion.type, completion.flow) ∉ controlKeys queue := by
  intro hmem
  obtain ⟨entry, hentry, hcontrol, hkey⟩ := mem_controlKeys.mp hmem
  obtain ⟨htype, hflow⟩ := Prod.mk.inj hkey
  refine coalesce_eq_none h entry hentry ⟨?_, htype, hflow⟩
  rw [isData] at hcontrol
  exact Option.not_isSome_iff_eq_none.mp (by rw [hcontrol]; exact Bool.false_ne_true)

/-- There is room for every control completion that none is there to take the place of. -/
theorem AttendedIn.room (h : AttendedIn places plane)
    (hexpected : (completion.type, completion.flow) ∈ places j)
    (hnone : coalesce completion (plane.clients j).completions = none) :
    (plane.clients j).completions.length < completionQueueCapacity := by
  have hnew : (completion.type, completion.flow) ∉
      (controlKeys (plane.clients j).completions).toFinset := by
    rw [mem_toFinset]
    exact key_not_mem hnone
  have hsubset : insert (completion.type, completion.flow)
      (controlKeys (plane.clients j).completions).toFinset ⊆ places j :=
    Finset.insert_subset_iff.mpr ⟨hexpected, fun key hkey =>
      h.within j (mem_spokenFor.mpr (.inr (.inr (mem_toFinset.mp hkey))))⟩
  have hcard := Finset.card_le_card hsubset
  rw [Finset.card_insert_of_notMem hnew, toFinset_card_of_nodup (h.keys j), controlKeys,
    length_map, ← countP_eq_length_filter] at hcard
  have hlen := length_eq_countP_add_countP isData (l := (plane.clients j).completions)
  have hfew := h.few j
  have hdata := h.data j
  have hcontrols : (plane.clients j).completions.countP (fun entry => decide ¬isData entry = true) =
      (plane.clients j).completions.countP (!isData ·) := by
    congr 1
    funext entry
    cases isData entry <;> rfl
  omega

/-- Nothing new is to be heard of, and no control completion is new. -/
theorem AttendedIn.of_sublist (h : AttendedIn places plane)
    (hlive : ∀ i j, isLive (other.flows i) →
      other.findClient (other.flows i).client = some j → isLive (plane.flows i) ∧
        plane.findClient (plane.flows i).client = some j ∧
        makeFlowHandle i (plane.flows i) = makeFlowHandle i (other.flows i))
    (hqueue : ∀ j, (other.controls j).Sublist (plane.controls j))
    (hdata : other.DataWithin) : AttendedIn places other := by
  refine ⟨h.few, fun j key hkey => h.within j (mem_spokenFor.mpr ?_),
    fun j => (h.keys j).sublist ((hqueue j).map controlKey), hdata⟩
  refine (mem_spokenFor.mp hkey).imp_right fun hkey => hkey.imp ?_ ?_
  · rintro ⟨htype, i, hi, howner, hflow⟩
    obtain ⟨hi', howner', hsame⟩ := hlive i j hi howner
    exact ⟨htype, i, hi', howner', hsame.trans hflow⟩
  · exact fun hkey => ((hqueue j).map controlKey).subset hkey

theorem controlKeys_append (queue queue' : List CompletionEntry) :
    controlKeys (queue ++ queue') = controlKeys queue ++ controlKeys queue' := by
  unfold controlKeys
  rw [filter_append, map_append]

theorem controlKeys_cons {queue : List CompletionEntry} (h : entry.inboundSlabSlot = none) :
    controlKeys (entry :: queue) = controlKey entry :: controlKeys queue := by
  have hcontrol : isData entry = false := by rw [isData, h]; rfl
  simp [controlKeys, hcontrol]

/-- What a control completion does to the keys of its queue: they stay, or there is one more. -/
theorem control_keys {queue queue' : List CompletionEntry}
    (h : coalesce completion queue = some queue' ∨ coalesce completion queue = none ∧
      queue' = queue ++ [⟨completion, none⟩]) (hkeys : (controlKeys queue).Nodup) :
    (controlKeys queue').Nodup := by
  rcases h with h | ⟨hnone, rfl⟩
  · obtain ⟨before, entry, after, rfl, rfl, hslab, htype, hflow⟩ := coalesce_eq_some h
    rw [controlKeys_append, controlKeys_cons hslab] at hkeys
    rw [controlKeys_append, controlKeys_cons rfl]
    have hkey : controlKey entry = controlKey ⟨completion, none⟩ := Prod.ext htype hflow
    rw [← hkey]
    exact hkeys
  · rw [controlKeys_append, controlKeys_cons rfl]
    refine Nodup.append hkeys (nodup_singleton _) ?_
    rw [show controlKeys [] = [] from rfl, disjoint_singleton]
    exact key_not_mem hnone

/-- A completion that is expected keeps the queue within the reserve. -/
theorem AttendedIn.enqueueControl (h : AttendedIn places plane)
    (hexpected : ∀ j, plane.findClient client = some j →
      (completion.type, completion.flow) ∈ places j) :
    AttendedIn places (plane.enqueueControlCompletion client completion) := by
  rcases enqueueControlCompletion_cases plane client completion with
    hsame | ⟨j, slot, hclient, halloc, hgen, _, hqueue, hother⟩
  · rw [hsame]
    exact h
  have hexpected := hexpected j hclient
  obtain ⟨hkeep, hmem⟩ := control_queue (hqueue.imp_right fun hnew => hnew.2.2)
  have hclients : SameClients plane (plane.setClient j slot) := .setClient halloc hgen
  rw [hother]
  have hslots {P : Fin maximumClientContexts → ClientSlot → Prop} (hj : P j slot)
      (hothers : ∀ j', j' ≠ j → P j' (plane.clients j')) (j' : Fin maximumClientContexts) :
      P j' ((plane.setClient j slot).clients j') :=
    (forall_update_iff plane.clients P).mpr ⟨hj, hothers⟩ j'
  have hentries := hslots (P := fun j' slot' => ∀ entry ∈ slot'.completions,
    entry ∈ (plane.clients j').completions ∨ j' = j ∧ entry = ⟨completion, none⟩)
    (fun entry hentry => (hmem entry hentry).imp_right fun hnew => ⟨rfl, hnew⟩)
    fun j' _ entry hentry => .inl hentry
  refine ⟨h.few, fun j' key hkey => ?_, ?_, ?_⟩
  · rcases mem_spokenFor.mp hkey with hpolicy | ⟨htype, i, hi, howner, hflow⟩ | hkey
    · exact h.within j' (mem_spokenFor.mpr (.inl hpolicy))
    · rw [hclients.findClient] at howner
      exact h.within j' (mem_spokenFor.mpr (.inr (.inl ⟨htype, i, hi, howner, hflow⟩)))
    · obtain ⟨entry, hentry, hcontrol, rfl⟩ := mem_controlKeys.mp hkey
      rcases hentries j' entry hentry with hold | ⟨rfl, rfl⟩
      · exact h.within j' (mem_spokenFor.mpr (.inr (.inr
          (mem_controlKeys.mpr ⟨entry, hold, hcontrol, rfl⟩))))
      · exact hexpected
  · exact hslots (P := fun _ slot' => (controlKeys slot'.completions).Nodup)
      (control_keys (hqueue.imp_right fun hnew => ⟨hnew.1, hnew.2.2⟩) (h.keys j))
      fun j' _ => h.keys j'
  · refine hslots (P := fun _ slot' => slot'.completions.countP isData ≤ dataCompletionCapacity) ?_
      fun j' _ => h.data j'
    rw [hkeep isData fun entry hentry => by rw [isData, hentry]; rfl]
    exact h.data j

end Room

/-! ## What moves do to the queues -/

section Quiet

variable {now : Ktime} {scope : MoveScope} {i : Fin maximumFlows} {j : Fin maximumClientContexts}

/-- No control completion comes; one goes only when its client reads it, or goes itself. -/
structure Quiet (scope : MoveScope) (plane other : TunnelFlowPlane) : Prop where
  controls : ∀ j, (other.controls j).Sublist (plane.controls j)
  kept : scope.silent = false → ∀ j, other.controls j = plane.controls j
  data : other.DataWithin

theorem Quiet.of_clients (h : plane.DataWithin) (hclients : other.clients = plane.clients) :
    Quiet scope plane other := by
  have hcontrols (j : Fin maximumClientContexts) : other.controls j = plane.controls j := by
    unfold TunnelFlowPlane.controls
    rw [hclients]
  refine ⟨fun j => ?_, fun _ => hcontrols, fun j => ?_⟩
  · rw [hcontrols]
  · rw [hclients]
    exact h j

/-- One queue is written. -/
theorem Quiet.of_update {slot : ClientSlot} (h : plane.DataWithin)
    (hclients : other.clients = update plane.clients j slot)
    (hcontrols : (slot.completions.filter (!isData ·)).Sublist (plane.controls j))
    (hkept : scope.silent = false → slot.completions.filter (!isData ·) = plane.controls j)
    (hdata : slot.completions.countP isData ≤ dataCompletionCapacity) :
    Quiet scope plane other := by
  have hslots {P : Fin maximumClientContexts → ClientSlot → Prop} (hj : P j slot)
      (hothers : ∀ j', j' ≠ j → P j' (plane.clients j')) (j' : Fin maximumClientContexts) :
      P j' (other.clients j') := by
    rw [hclients]
    exact (forall_update_iff plane.clients P).mpr ⟨hj, hothers⟩ j'
  refine ⟨?_, fun hsilent => ?_, ?_⟩
  · exact hslots (P := fun j' slot' => (slot'.completions.filter (!isData ·)).Sublist
      (plane.controls j')) hcontrols fun _ _ => .refl _
  · exact hslots (P := fun j' slot' => slot'.completions.filter (!isData ·) = plane.controls j')
      (hkept hsilent) fun _ _ => rfl
  · exact hslots (P := fun _ slot' => slot'.completions.countP isData ≤ dataCompletionCapacity)
      hdata fun j' _ => h j'

/-- A closed flow takes its data completions with it. -/
theorem Quiet.withClosed (h : plane.DataWithin) {reason : FlowTerminalReason} :
    Quiet scope plane (plane.withClosed i reason now) := by
  cases howner : plane.findClient (plane.flows i).client with
  | none =>
    refine .of_clients h ?_
    rw [withClosed_clients, dropData, howner]
  | some j =>
    obtain ⟨removed, slot, hremoved, hclients, _, _, hcompletions, _⟩ :=
      removeFlowCompletions_spec plane i j
    have hcontrols : slot.completions.filter (!isData ·) = plane.controls j := by
      rw [hcompletions, filter_filter, TunnelFlowPlane.controls]
      refine filter_congr fun entry _ => ?_
      rw [hremoved, isDataOf]
      cases isData entry <;> rfl
    have hclients : (plane.withClosed i reason now).clients =
        update plane.clients j slot := by
      rw [withClosed_clients, dropData, howner]
      exact hclients
    refine .of_update h hclients (hcontrols ▸ .refl _) (fun _ => hcontrols) ?_
    rw [hcompletions]
    exact ((filter_sublist).countP_le (p := isData)).trans (h j)

private theorem filter_controls_append (h : isData entry) :
    (queue ++ [entry]).filter (!isData ·) = queue.filter (!isData ·) := by
  rw [filter_append, filter_cons_of_neg (by simp [h]), filter_nil, append_nil]

/-- A datagram that is stored is data. -/
theorem Quiet.store (h : plane.DataWithin) (haccounted : plane.Accounted)
    {k : Fin inboundPacketSlabCount} {payload : List UInt8}
    (hdata : (plane.clients j).dataCompletionCount < dataCompletionCapacity) :
    Quiet scope plane (plane.store i k j payload now) := by
  obtain ⟨entry, slot, hclients, _, _, _, hqueue, hentrySlab, _⟩ :=
    store_queue plane i k j payload now
  have hentry : isData entry := by rw [isData, hentrySlab]; rfl
  have hcontrols : slot.completions.filter (!isData ·) = plane.controls j := by
    rw [hqueue]
    exact filter_controls_append hentry
  refine .of_update h hclients (hcontrols ▸ .refl _) (fun _ => hcontrols) ?_
  rw [hqueue, countP_append, countP_singleton, hentry, ← haccounted.count j]
  exact hdata

/-- What is read leaves the queue. -/
theorem Quiet.drain (h : plane.DataWithin) (hsilent : scope.silent)
    {rest : List CompletionEntry} (hqueue : (plane.clients j).completions = entry :: rest) :
    Quiet scope plane (plane.dropFront client j entry rest) := by
  obtain ⟨slot, hclients, hslot⟩ : ∃ slot, (plane.dropFront client j entry rest).clients =
      update plane.clients j slot ∧ slot.completions = rest := by
    unfold dropFront
    split
    · exact ⟨_, setClient_clients, rfl⟩
    · simp only
      split <;> exact ⟨_, rfl, rfl⟩
  have hrest : rest.Sublist (plane.clients j).completions := hqueue ▸ sublist_cons_self _ _
  refine .of_update h hclients ?_ (fun hloud => ?_) ?_
  · rw [hslot]
    exact hrest.filter _
  · rw [hsilent] at hloud
    cases hloud
  · rw [hslot]
    exact (hrest.countP_le (p := isData)).trans (h j)

/-- A slot whose queue is emptied. -/
theorem Quiet.of_empty {slot : ClientSlot} (h : plane.DataWithin)
    (hclients : other.clients = update plane.clients j slot) (hslot : slot.completions = [])
    (hkept : scope.silent = false → (plane.clients j).completions = []) :
    Quiet scope plane other := by
  refine .of_update h hclients ?_ (fun hloud => ?_) ?_
  · rw [hslot]
    exact nil_sublist _
  · rw [hslot, TunnelFlowPlane.controls, hkept hloud]
  · rw [hslot]
    exact Nat.zero_le _

/-- A completion of the policy, or of a flow of the client that is open. -/
def Announces (plane : TunnelFlowPlane) (client : TunnelClientId)
    (completion : CompletionRecord) : Prop :=
  completion.type = .policyChanged ∧ completion.flow = 0 ∨
    (completion.type = .flowStateChanged ∨ completion.type = .writable) ∧
      ∃ i, isOpen (plane.flows i) = true ∧ (plane.flows i).client = client ∧
        completion.flow = makeFlowHandle i (plane.flows i)

theorem Announces.expected (h : plane.Announces client completion)
    (howner : plane.findClient client = some j) :
    (completion.type, completion.flow) ∈ plane.spokenFor j := by
  refine mem_spokenFor.mpr ?_
  rcases h with ⟨htype, hflow⟩ | ⟨htype, i, hopen, hclient, hflow⟩
  · exact .inl (Prod.ext htype hflow)
  · exact .inr (.inl ⟨htype, i, isLive_of_isOpen hopen, hclient ▸ howner, hflow.symm⟩)

/-- A move adds one control completion at most. -/
theorem PlaneMove.controls (hmove : PlaneMove now scope plane other) (hsound : plane.Sound)
    (haccounted : plane.Accounted) (h : plane.DataWithin) : Quiet scope plane other ∨
      ∃ base client completion, Quiet scope plane base ∧ base.Accounted ∧
        SameClients plane base ∧ other = base.enqueueControlCompletion client completion ∧
        plane.Announces client completion := by
  cases hmove with
  | touch i | commit i | discard i | reserve _ _ i | setPolicy | wipe | expire | advance =>
    exact .inl (.of_clients h rfl)
  | close i reason notify _ hopen =>
    rw [closeFlowSlot_of_open hopen]
    split
    · refine .inr ⟨_, _, _, .withClosed h, haccounted.withClosed hsound hopen, fun j => ?_, rfl,
        .inr ⟨.inl rfl, i, hopen, rfl, makeFlowHandle_congr rfl rfl⟩⟩
      rw [withClosed_clients]
      exact dropData_sameClients j
    · exact .inl (.withClosed h)
  | announce j =>
    exact .inr ⟨plane, _, _, .of_clients h rfl, haccounted, .refl plane, rfl, .inl ⟨rfl, rfl⟩⟩
  | wake i hopen =>
    have htouched : PlaneMove now scope plane
        (plane.setFlow i { plane.flows i with writableWaiter := false }) :=
      .touch plane i (plane.flows i).policyGeneration (plane.flows i).lastActivityAt false
    exact .inr ⟨plane.setFlow i { plane.flows i with writableWaiter := false }, _,
      writableCompletion i { plane.flows i with writableWaiter := false },
      .of_clients h rfl, haccounted.move hsound htouched, fun _ => ⟨rfl, rfl⟩, rfl,
      .inr ⟨.inr rfl, i, hopen, rfl, makeFlowHandle_congr rfl rfl⟩⟩
  | store i k j payload _ _ _ _ hdata => exact .inl (.store h haccounted hdata)
  | drain client j entry rest hsilent _ hqueue => exact .inl (.drain h hsilent hqueue)
  | create j generation next notifier hfree =>
    exact .inl (.of_empty h setClient_clients rfl fun _ => haccounted.vacant j hfree)
  | forget client j hsilent =>
    refine .inl (.of_empty h (forgetClient_clients plane j) rfl fun hloud => ?_)
    rw [hsilent] at hloud
    cases hloud

/-- A move that reserves nothing leaves no flow alive that was not. -/
theorem PlaneMove.live_before (hmove : PlaneMove now scope plane other)
    (hres : scope.reserves = false) (hlive : isLive (other.flows i)) :
    isLive (plane.flows i) ∧ (other.flows i).client = (plane.flows i).client ∧
      makeFlowHandle i (other.flows i) = makeFlowHandle i (plane.flows i) := by
  obtain ⟨i', flow, hchange, hflows⟩ := hmove.flowChange
  rw [hflows] at hlive ⊢
  by_cases hi : i = i'
  · subst hi
    rw [update_self] at hlive ⊢
    cases hchange with
    | alike flow hident =>
      obtain ⟨halloc, hclosed, _⟩ := FlowIdentity.mk.inj hident
      refine ⟨?_, client_congr hident, handle_congr hident i⟩
      rw [isLive, ← halloc, ← hclosed]
      exact hlive
    | commit hbefore => exact ⟨hbefore, rfl, makeFlowHandle_congr rfl rfl⟩
    | discard => cases hlive
    | reserve _ _ _ _ hreserve =>
      rw [hres] at hreserve
      cases hreserve
    | close =>
      rw [isLive, terminated, Bool.not_true, Bool.and_false] at hlive
      cases hlive
  · rw [update_of_ne hi] at hlive ⊢
    exact ⟨hlive, rfl, rfl⟩

/-- The flows a client could hear of are flows it could hear of before. -/
theorem PlaneMove.live_of (hmove : PlaneMove now scope plane other) (hsound : plane.Sound)
    (hres : scope.reserves = false) (hlive : isLive (other.flows i))
    (howner : other.findClient (other.flows i).client = some j) :
    isLive (plane.flows i) ∧ plane.findClient (plane.flows i).client = some j ∧
      makeFlowHandle i (plane.flows i) = makeFlowHandle i (other.flows i) := by
  obtain ⟨hbefore, hclient, hhandle⟩ := hmove.live_before hres hlive
  obtain ⟨j', hj'⟩ := hsound.owner i hbefore
  have hkept := hmove.owner hbefore hj'
  rw [← hclient, howner] at hkept
  rw [hkept]
  exact ⟨hbefore, hj', hhandle.symm⟩

/-- What holds of a plane while every completion finds room. -/
structure Provided (places : Fin maximumClientContexts → Finset (CompletionType × FlowHandle))
    (plane : TunnelFlowPlane) : Prop where
  sound : plane.Sound
  accounted : plane.Accounted
  attended : AttendedIn places plane

variable {places : Fin maximumClientContexts → Finset (CompletionType × FlowHandle)}

theorem Provided.move (h : Provided places plane) (hres : scope.reserves = false)
    (hmove : PlaneMove now scope plane other) : Provided places other := by
  refine ⟨hmove.sound h.sound, h.accounted.move h.sound hmove, ?_⟩
  rcases hmove.controls h.sound h.accounted h.attended.data with
    hquiet | ⟨base, client, completion, hquiet, hbase, hsame, hother, hannounces⟩
  · exact h.attended.of_sublist (fun i j => hmove.live_of h.sound hres) hquiet.controls
      hquiet.data
  · have hflows : other.flows = base.flows := by rw [hother, enqueueControlCompletion_flows]
    have hclients : SameClients base other := hother ▸ enqueueControlCompletion_sameClients
    have hattended : AttendedIn places base := by
      refine h.attended.of_sublist (fun i j hi howner => ?_) hquiet.controls hquiet.data
      rw [← hflows] at hi howner ⊢
      rw [← hclients.findClient] at howner
      exact hmove.live_of h.sound hres hi howner
    rw [hother]
    refine hattended.enqueueControl fun j howner => ?_
    rw [hsame.findClient] at howner
    exact h.attended.within j (hannounces.expected howner)

theorem Provided.moves (h : Provided places plane) (hres : scope.reserves = false)
    (hmoves : PlaneMoves now scope plane other) : Provided places other := by
  induction hmoves with
  | refl => exact h
  | tail _ hstep ih => exact ih.move hres hstep

end Quiet

end TunnelFlowPlane

end WireguardNx.Tunnel
