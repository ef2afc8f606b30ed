import WireguardNx.Laws.Reports

/-!
# What clients are told

As long as the control completions of every client fit into the reserve, a client hears of every
flow of its own that an operation closes, of every change of the policy and of every flow of its own
that may write again.

`Uncrowded` is the condition on the calls that reserve a flow under which they fit.  A client may
leave its records unread for ever; when it reads them is not stated.
-/

namespace WireguardNx.Tunnel

open Wireguard WireguardNx.Runtime Relation Function List

namespace TunnelFlowPlane

variable {plane other : TunnelFlowPlane} {now : Ktime} {scope : MoveScope} {client : TunnelClientId}

section Records

variable {i : Fin maximumFlows} {j : Fin maximumClientContexts} {completion : CompletionRecord}
  {entry : CompletionEntry} {places : Fin maximumClientContexts → Finset (CompletionType × FlowHandle)}

theorem mem_controls : entry ∈ plane.controls j ↔
    entry ∈ (plane.clients j).completions ∧ entry.inboundSlabSlot = none := by
  unfold controls
  rw [mem_filter, Bool.not_eq_true', isData, Option.isSome_eq_false_iff,
    Option.isNone_iff_eq_none]

/-- A completion that is expected is in the queue once it is enqueued. -/
theorem AttendedIn.enqueued (h : AttendedIn places plane)
    (howner : plane.findClient client = some j)
    (hexpected : (completion.type, completion.flow) ∈ places j) :
    ⟨completion, none⟩ ∈ (plane.enqueueControlCompletion client completion).controls j := by
  have hslot {slot : ClientSlot}
      (h : (⟨completion, none⟩ : CompletionEntry) ∈ slot.completions) :
      ⟨completion, none⟩ ∈ (plane.setClient j slot).controls j := by
    rw [mem_controls, setClient_clients, update_self]
    exact ⟨h, rfl⟩
  unfold enqueueControlCompletion
  rw [howner]
  simp only
  split
  · rename_i completions hcoalesce
    refine hslot ?_
    obtain ⟨before, entry, after, -, rfl, -⟩ := coalesce_eq_some hcoalesce
    exact mem_append_right _ mem_cons_self
  · rename_i hcoalesce
    rw [if_neg (Nat.not_le.mpr (h.room hexpected hcoalesce))]
    refine hslot ?_
    rw [append_completions]
    exact mem_append_right _ mem_cons_self

/-- A completion displaces those of its own kind for its own flow only. -/
theorem enqueued_keeps (hentry : entry ∈ plane.controls j)
    (hkey : plane.findClient client = some j →
      controlKey entry ≠ (completion.type, completion.flow)) :
    entry ∈ (plane.enqueueControlCompletion client completion).controls j := by
  rcases enqueueControlCompletion_cases plane client completion with
    hsame | ⟨j', slot, howner, _, _, _, hqueue, hother⟩
  · rw [hsame]
    exact hentry
  obtain ⟨hmem, hcontrol⟩ := mem_controls.mp hentry
  rw [hother, mem_controls, setClient_clients]
  refine ⟨?_, hcontrol⟩
  by_cases hj : j = j'
  · subst hj
    rw [update_self]
    rcases hqueue with hcoalesce | ⟨_, _, happend⟩
    · obtain ⟨before, found, after, hold, hnew, _, htype, hflow⟩ := coalesce_eq_some hcoalesce
      rw [hold] at hmem
      rw [hnew]
      rcases mem_append.mp hmem with hbefore | hrest
      · exact mem_append_left _ hbefore
      · rcases mem_cons.mp hrest with rfl | hafter
        · exact (hkey howner (Prod.ext htype hflow)).elim
        · exact mem_append_right _ (mem_cons_of_mem _ hafter)
    · rw [happend]
      exact mem_append_left _ hmem
  · rw [update_of_ne hj]
    exact hmem

end Records

/-! ## Closed flows -/

section Closed

variable {before : TunnelFlowPlane} {i : Fin maximumFlows} {j : Fin maximumClientContexts}
  {places : Fin maximumClientContexts → Finset (CompletionType × FlowHandle)}

/-- A client has a completion that tells how a flow was closed. -/
def ReportsClosed (plane : TunnelFlowPlane) (j : Fin maximumClientContexts)
    (i : Fin maximumFlows) : Prop :=
  ∃ record, ⟨record, none⟩ ∈ (plane.clients j).completions ∧ record.type = .flowStateChanged ∧
    record.flow = makeFlowHandle i (plane.flows i) ∧ record.status = .flowClosed ∧
    record.flowState = .closed ∧ record.terminalReason = (plane.flows i).terminalReason

/-- A move that no client reads or leaves in keeps what is said of a closed flow. -/
theorem ReportsClosed.move (h : plane.ReportsClosed j i) (hprovided : Provided places plane)
    (hsilent : scope.silent = false) (hmove : PlaneMove now scope plane other)
    (halloc : (plane.flows i).allocated) (hclosed : (plane.flows i).closed)
    (hident : (other.flows i).identity = (plane.flows i).identity) :
    other.ReportsClosed j i := by
  obtain ⟨record, hmem, htype, hflow, hstatus, hstate, hreason⟩ := h
  have hmem : ⟨record, none⟩ ∈ plane.controls j := mem_controls.mpr ⟨hmem, rfl⟩
  have hterminal : (other.flows i).terminalReason = (plane.flows i).terminalReason :=
    congrArg FlowIdentity.terminalReason hident
  refine ⟨record, (mem_controls.mp ?_).1, htype, hflow.trans (handle_congr hident i).symm, hstatus,
    hstate, hreason.trans hterminal.symm⟩
  rcases hmove.controls hprovided.sound hprovided.accounted hprovided.attended.data with
    hquiet | ⟨base, client, completion, hquiet, _, _, hother, hannounces⟩
  · rw [hquiet.kept hsilent]
    exact hmem
  · rw [hother]
    refine enqueued_keeps (hquiet.kept hsilent j ▸ hmem) fun _ hkey => ?_
    obtain ⟨hkeyType, hkeyFlow⟩ := Prod.mk.inj hkey
    rcases hannounces with ⟨hpolicy, _⟩ | ⟨_, i', hopen, _, hflow'⟩
    · exact (nomatch htype.symm.trans (hkeyType.trans hpolicy))
    · -- The flow of a new completion is open, so it is another one.
      obtain ⟨halloc', hlive⟩ := isLive_iff.mp (isLive_of_isOpen hopen)
      have hne : i' ≠ i := by
        rintro rfl
        rw [hclosed] at hlive
        cases hlive
      exact hprovided.sound.handle_ne halloc halloc' hne
        (hflow.symm.trans (hkeyFlow.trans hflow'))

/-- The client of a flow that is closed hears of it. -/
theorem Provided.reportsClosed (h : Provided places plane) (hopen : isOpen (plane.flows i))
    (howner : plane.findClient (plane.flows i).client = some j) (reason : FlowTerminalReason) :
    (plane.closeFlowSlot i reason now true).ReportsClosed j i := by
  have hquiet : PlaneMove now ⟨false, true⟩ plane (plane.closeFlowSlot i reason now false) :=
    .close plane i reason false (.inr rfl) hopen
  have hclosed : plane.closeFlowSlot i reason now false = plane.withClosed i reason now := by
    rw [closeFlowSlot_of_open hopen, if_neg Bool.false_ne_true]
  have hprovided := h.move rfl hquiet
  have hclients := closeFlowSlot_sameClients plane i reason now false
  rw [hclosed] at hprovided hclients
  have hflows : (plane.closeFlowSlot i reason now true).flows i =
      terminated (plane.flows i) reason now := by
    rw [closeFlowSlot_of_open hopen, if_pos rfl, enqueueControlCompletion_flows, withClosed_flows,
      update_self]
  have hannounces : plane.Announces (plane.flows i).client
      (closeCompletion i (terminated (plane.flows i) reason now)) :=
    .inr ⟨.inl rfl, i, hopen, rfl, makeFlowHandle_congr rfl rfl⟩
  have hmem := hprovided.attended.enqueued ((hclients.findClient _).trans howner)
    (h.attended.within j (hannounces.expected howner))
  refine ⟨closeCompletion i (terminated (plane.flows i) reason now), ?_, rfl, ?_, rfl, rfl, ?_⟩
  · rw [closeFlowSlot_of_open hopen, if_pos rfl]
    exact (mem_controls.mp hmem).1
  · rw [hflows]
    rfl
  · rw [hflows]
    rfl

/-- Since an earlier plane no client of a live flow went, and each heard of those closed. -/
def Told (before plane : TunnelFlowPlane) : Prop :=
  ∀ i j, isLive (before.flows i) = true → before.findClient (before.flows i).client = some j →
    plane.findClient (before.flows i).client = some j ∧
    (isLive (plane.flows i) = true → (plane.flows i).client = (before.flows i).client) ∧
    ((plane.flows i).closed = true → (plane.flows i).allocated = true ∧ plane.ReportsClosed j i)

theorem Told.refl (plane : TunnelFlowPlane) : Told plane plane := by
  intro i j hlive howner
  refine ⟨howner, fun _ => rfl, fun hclosed => ?_⟩
  rw [(isLive_iff.mp hlive).2] at hclosed
  cases hclosed

theorem Told.move (h : Told before plane) (hprovided : Provided places plane)
    (hres : scope.reserves = false) (hsilent : scope.silent = false)
    (hmove : PlaneMove now scope plane other) : Told before other := by
  intro i j hlive howner
  obtain ⟨hfound, hclient, hclosed⟩ := h i j hlive howner
  have hkept (hident : (other.flows i).identity = (plane.flows i).identity)
      (hother : (other.flows i).closed) :
      (other.flows i).allocated ∧ other.ReportsClosed j i := by
    have hwas : (plane.flows i).closed := by
      rw [← hother]
      exact (congrArg FlowIdentity.closed hident).symm
    obtain ⟨halloc, hreports⟩ := hclosed hwas
    exact ⟨(allocated_congr hident).trans halloc,
      hreports.move hprovided hsilent hmove halloc hwas hident⟩
  refine ⟨hmove.findClient_kept hsilent hfound, fun hother => ?_, ?_⟩
  · obtain ⟨hbefore, hsame, _⟩ := hmove.live_before hres hother
    exact hsame.trans (hclient hbefore)
  obtain ⟨i', flow, hchange, hflows⟩ := hmove.flowChange
  by_cases hi : i = i'
  · subst hi
    have hflow : other.flows i = flow := by rw [hflows, update_self]
    cases hchange with
    | alike flow hident => exact hkept (hflow ▸ hident)
    | commit hwas =>
      rw [hflow]
      intro hother
      rw [show (plane.flows i).closed = false from (isLive_iff.mp hwas).2] at hother
      cases hother
    | discard =>
      rw [hflow]
      exact nofun
    | reserve _ _ _ _ hreserve =>
      rw [hres] at hreserve
      cases hreserve
    | close hopen reason notify hnotify hother =>
      intro _
      obtain rfl : notify := hnotify.resolve_right (by rw [hsilent]; exact Bool.false_ne_true)
      have hwas := isLive_of_isOpen hopen
      refine ⟨hflow ▸ (isLive_iff.mp hwas).1, ?_⟩
      rw [hother]
      exact hprovided.reportsClosed hopen (hclient hwas ▸ hfound) reason
  · exact hkept (by rw [hflows, update_of_ne hi])

theorem Provided.told (h : Provided places plane) (hres : scope.reserves = false)
    (hsilent : scope.silent = false) (hmoves : PlaneMoves now scope plane other) :
    Provided places other ∧ Told plane other := by
  induction hmoves with
  | refl => exact ⟨h, .refl plane⟩
  | tail _ hstep ih => exact ⟨ih.1.move hres hstep, ih.2.move ih.1 hres hsilent hstep⟩

end Closed

/-! ## The policy -/

section Policy

variable {places : Fin maximumClientContexts → Finset (CompletionType × FlowHandle)}

private theorem enqueueControlCompletion_policyGeneration {client : TunnelClientId}
    {completion : CompletionRecord} :
    (plane.enqueueControlCompletion client completion).policyGeneration = plane.policyGeneration := by
  rcases enqueueControlCompletion_cases plane client completion with h | ⟨j, slot, _, _, _, _, _, h⟩
    <;> rw [h]
  rfl

def announceTo (plane : TunnelFlowPlane) (j : Fin maximumClientContexts) : TunnelFlowPlane :=
  if (plane.clients j).allocated = false then plane
  else plane.enqueueControlCompletion ⟨UInt8.ofNat j, (plane.clients j).generation⟩
    plane.policyCompletion

variable {j : Fin maximumClientContexts}

private theorem announceTo_sameClients : SameClients plane (plane.announceTo j) := by
  unfold announceTo
  split
  · exact .refl plane
  · exact enqueueControlCompletion_sameClients

private theorem announceTo_policyGeneration :
    (plane.announceTo j).policyGeneration = plane.policyGeneration := by
  unfold announceTo
  split
  · rfl
  · exact enqueueControlCompletion_policyGeneration

theorem Provided.announceTo (h : Provided places plane) (j : Fin maximumClientContexts) :
    Provided places (plane.announceTo j) := by
  unfold TunnelFlowPlane.announceTo
  split
  · exact h
  · rename_i halloc
    have hmove : PlaneMove 0 ⟨false, false⟩ plane (plane.enqueueControlCompletion
        ⟨UInt8.ofNat j, (plane.clients j).generation⟩ plane.policyCompletion) :=
      .announce plane j (by simpa using halloc)
    exact h.move rfl hmove

theorem Provided.announced (h : Provided places plane) (hj : (plane.clients j).allocated) :
    ⟨plane.policyCompletion, none⟩ ∈ (plane.announceTo j).controls j := by
  unfold TunnelFlowPlane.announceTo
  rw [if_neg (by rw [hj]; exact nofun)]
  refine h.attended.enqueued (findClient_eq_some.mpr ⟨?_, h.sound.client j hj, hj, rfl⟩)
    (h.attended.within j (mem_spokenFor.mpr (.inl rfl)))
  exact Nat.mod_eq_of_lt (j.isLt.trans (by decide))

private theorem announceTo_keeps {j j' : Fin maximumClientContexts} {entry : CompletionEntry}
    (hentry : entry ∈ plane.controls j) (hne : j ≠ j') :
    entry ∈ (plane.announceTo j').controls j := by
  unfold announceTo
  split
  · exact hentry
  · refine enqueued_keeps hentry fun howner => (hne ?_).elim
    have hslot := (findClient_eq_some.mp howner).1
    refine Fin.ext (hslot.symm.trans ?_)
    exact Nat.mod_eq_of_lt (j'.isLt.trans (by decide))

/-- Every client hears of the policy. -/
theorem Provided.enqueuePolicyChanged (h : Provided places plane) :
    SameClients plane plane.enqueuePolicyChanged ∧
      plane.enqueuePolicyChanged.policyGeneration = plane.policyGeneration ∧
      ∀ j, (plane.clients j).allocated →
        ⟨plane.policyCompletion, none⟩ ∈ plane.enqueuePolicyChanged.controls j := by
  let P (other : TunnelFlowPlane) : Prop := Provided places other ∧ SameClients plane other ∧
    other.policyGeneration = plane.policyGeneration
  have hkeep (other : TunnelFlowPlane) (j : Fin maximumClientContexts) (hother : P other) :
      P (other.announceTo j) :=
    ⟨hother.1.announceTo j, hother.2.1.trans announceTo_sameClients,
      announceTo_policyGeneration.trans hother.2.2⟩
  have hstart : P plane := ⟨h, .refl plane, rfl⟩
  have hend : P plane.enqueuePolicyChanged :=
    foldlRecOn (motive := P) _ _ hstart fun other hother j _ => hkeep other j hother
  have hsettle (other : TunnelFlowPlane) (j : Fin maximumClientContexts) (hother : P other)
      (hj : (plane.clients j).allocated) :
      ⟨plane.policyCompletion, none⟩ ∈ (other.announceTo j).controls j := by
    have hrecord : other.policyCompletion = plane.policyCompletion := by
      unfold policyCompletion
      rw [hother.2.2]
    rw [← hrecord]
    exact hother.1.announced ((hother.2.1 j).1.trans hj)
  refine ⟨hend.2.1, hend.2.2, fun j => ?_⟩
  -- The round of a client puts the completion into its queue, and the others leave that queue alone.
  refine foldl_settles (P := P) (Q := fun j other => (plane.clients j).allocated →
    ⟨plane.policyCompletion, none⟩ ∈ other.controls j) hkeep hsettle
    (fun other j j' hother hold hj => ?_) _ plane hstart j (mem_finRange j)
  by_cases hne : j = j'
  · subst hne
    exact hsettle other j hother hj
  · exact announceTo_keeps (hold hj) hne

end Policy

/-! ## Flows that may write again -/

section Writable

variable {places : Fin maximumClientContexts → Finset (CompletionType × FlowHandle)}
  {peer : PeerIdentity}
  {i : Fin maximumFlows} {j : Fin maximumClientContexts}

/-- A flow without its note that it waits. -/
def unwaiting (flow : FlowSlot) : FlowSlot := { flow with writableWaiter := false }

/-- A plane in which a flow is told that it may write. -/
def wake (plane : TunnelFlowPlane) (i : Fin maximumFlows) : TunnelFlowPlane :=
  (plane.setFlow i (unwaiting (plane.flows i))).enqueueControlCompletion (plane.flows i).client
    (writableCompletion i (unwaiting (plane.flows i)))

def waitsFor (peer : PeerIdentity) (flow : FlowSlot) : Prop :=
  isOpen flow = true ∧ flow.peer = peer ∧ flow.writableWaiter = true

/-- One round of the loop of `NotifyOutboundCapacityAvailable`. -/
def wakeWaiting (peer : PeerIdentity) (plane : TunnelFlowPlane) (i : Fin maximumFlows) :
    TunnelFlowPlane :=
  if isOpen (plane.flows i) = false ∨ (plane.flows i).peer ≠ peer ∨
      (plane.flows i).writableWaiter = false then plane
  else plane.wake i

theorem wakeWaiting_cases {peer : PeerIdentity} {plane : TunnelFlowPlane} {i : Fin maximumFlows} :
    ¬waitsFor peer (plane.flows i) ∧ wakeWaiting peer plane i = plane ∨
      waitsFor peer (plane.flows i) ∧ wakeWaiting peer plane i = plane.wake i := by
  unfold wakeWaiting waitsFor
  split
  · rename_i h
    refine .inl ⟨fun ⟨hopen, hpeer, hwaiter⟩ => ?_, rfl⟩
    rcases h with h | h | h
    · rw [hopen] at h
      cases h
    · exact h hpeer
    · rw [hwaiter] at h
      cases h
  · rename_i h
    simp only [not_or, Bool.not_eq_false, not_not] at h
    exact .inr ⟨h, rfl⟩

theorem wake_flows : (plane.wake i).flows = update plane.flows i (unwaiting (plane.flows i)) := by
  unfold wake
  rw [enqueueControlCompletion_flows, setFlow_flows]

private theorem wake_sameClients : SameClients plane (plane.wake i) :=
  SameClients.trans (fun _ => ⟨rfl, rfl⟩) enqueueControlCompletion_sameClients

theorem Provided.wake (h : Provided places plane) (hopen : isOpen (plane.flows i)) :
    Provided places (plane.wake i) := by
  have hmove : PlaneMove 0 ⟨false, false⟩ plane (plane.wake i) := .wake plane i hopen
  exact h.move rfl hmove

theorem Provided.woken (h : Provided places plane) (hopen : isOpen (plane.flows i))
    (howner : plane.findClient (plane.flows i).client = some j) :
    ⟨writableCompletion i (unwaiting (plane.flows i)), none⟩ ∈ (plane.wake i).controls j := by
  have hmove : PlaneMove 0 ⟨false, false⟩ plane (plane.setFlow i (unwaiting (plane.flows i))) :=
    .touch plane i (plane.flows i).policyGeneration (plane.flows i).lastActivityAt false
  have hprovided := h.move rfl hmove
  have hannounces : plane.Announces (plane.flows i).client
      (writableCompletion i (unwaiting (plane.flows i))) :=
    .inr ⟨.inr rfl, i, hopen, rfl, makeFlowHandle_congr rfl rfl⟩
  exact hprovided.attended.enqueued howner (h.attended.within j (hannounces.expected howner))

/-- A flow that is told leaves alone what other flows were told. -/
theorem wake_keeps (hsound : plane.Sound) {i' : Fin maximumFlows} (hne : i' ≠ i)
    (hopen : isOpen (plane.flows i)) (hopen' : isOpen (plane.flows i'))
    (h : ⟨writableCompletion i (unwaiting (plane.flows i)), none⟩ ∈ plane.controls j) :
    ⟨writableCompletion i (unwaiting (plane.flows i)), none⟩ ∈ (plane.wake i').controls j := by
  have hhandle := hsound.handle_ne (isLive_iff.mp (isLive_of_isOpen hopen)).1
    (isLive_iff.mp (isLive_of_isOpen hopen')).1 hne
  refine enqueued_keeps h fun _ hkey => hhandle ?_
  have hflow := (Prod.mk.inj hkey).2
  exact (makeFlowHandle_congr rfl rfl).trans (hflow.trans (makeFlowHandle_congr rfl rfl))

/-- In the course of the loop: flows differ in whether they wait, and those that do not any more
have their completion. -/
structure Waking (places : Fin maximumClientContexts → Finset (CompletionType × FlowHandle))
  (peer : PeerIdentity)
    (plane other : TunnelFlowPlane) : Prop where
  provided : Provided places other
  clients : SameClients plane other
  flows : ∀ i, unwaiting (other.flows i) = unwaiting (plane.flows i)
  told : ∀ i j, waitsFor peer (plane.flows i) →
    plane.findClient (plane.flows i).client = some j → (other.flows i).writableWaiter = true ∨
      ⟨writableCompletion i (unwaiting (plane.flows i)), none⟩ ∈ other.controls j

theorem isOpen_unwaiting {flow flow' : FlowSlot} (h : unwaiting flow' = unwaiting flow) :
    isOpen flow' = isOpen flow :=
  isOpen_congr (congrArg FlowSlot.identity h :)

theorem Waking.owner (h : Waking places peer plane other)
    (howner : plane.findClient (plane.flows i).client = some j) :
    other.findClient (other.flows i).client = some j := by
  have hclient : (other.flows i).client = (plane.flows i).client :=
    client_congr (congrArg FlowSlot.identity (h.flows i) :)
  rw [hclient, h.clients.findClient]
  exact howner

theorem Waking.woken (h : Waking places peer plane other) (hopen : isOpen (other.flows i))
    (howner : plane.findClient (plane.flows i).client = some j) :
    ⟨writableCompletion i (unwaiting (plane.flows i)), none⟩ ∈ (other.wake i).controls j := by
  rw [← h.flows i]
  exact h.provided.woken hopen (h.owner howner)

/-- What a flow was told stays. -/
theorem Waking.persists (h : Waking places peer plane other)
    (hwaits : waitsFor peer (plane.flows i))
    (howner : plane.findClient (plane.flows i).client = some j)
    (hrecord : ⟨writableCompletion i (unwaiting (plane.flows i)), none⟩ ∈ other.controls j)
    (i' : Fin maximumFlows) : ⟨writableCompletion i (unwaiting (plane.flows i)), none⟩ ∈
      (wakeWaiting peer other i').controls j := by
  rcases wakeWaiting_cases with ⟨_, hsame⟩ | ⟨hwaits', hwoken⟩
  · rw [hsame]
    exact hrecord
  · rw [hwoken]
    by_cases hne : i' = i
    · subst hne
      exact h.woken hwaits'.1 howner
    · rw [← h.flows i] at hrecord ⊢
      exact wake_keeps h.provided.sound hne ((isOpen_unwaiting (h.flows i)).trans hwaits.1) hwaits'.1
        hrecord

/-- The round of a flow that waits tells it. -/
theorem Waking.settles (h : Waking places peer plane other) (hwaits : waitsFor peer (plane.flows i))
    (howner : plane.findClient (plane.flows i).client = some j) :
    ⟨writableCompletion i (unwaiting (plane.flows i)), none⟩ ∈
      (wakeWaiting peer other i).controls j := by
  rcases h.told i j hwaits howner with hwaiter | hrecord
  · have hopen : isOpen (other.flows i) := (isOpen_unwaiting (h.flows i)).trans hwaits.1
    have hpeer : (other.flows i).peer = peer :=
      (congrArg FlowSlot.peer (h.flows i)).trans hwaits.2.1
    rcases wakeWaiting_cases with ⟨hnot, _⟩ | ⟨_, hwoken⟩
    · exact (hnot ⟨hopen, hpeer, hwaiter⟩).elim
    · rw [hwoken]
      exact h.woken hopen howner
  · exact h.persists hwaits howner hrecord i

theorem Waking.round (h : Waking places peer plane other) (i' : Fin maximumFlows) :
    Waking places peer plane (wakeWaiting peer other i') := by
  have htold (i : Fin maximumFlows) (j : Fin maximumClientContexts)
      (hwaits : waitsFor peer (plane.flows i))
      (howner : plane.findClient (plane.flows i).client = some j) :
      ((wakeWaiting peer other i').flows i).writableWaiter ∨
        ⟨writableCompletion i (unwaiting (plane.flows i)), none⟩ ∈
          (wakeWaiting peer other i').controls j := by
    by_cases hi : i = i'
    · subst hi
      exact .inr (h.settles hwaits howner)
    · refine (h.told i j hwaits howner).imp (fun hwaiter => ?_) fun hrecord =>
        h.persists hwaits howner hrecord i'
      rcases wakeWaiting_cases with ⟨_, hsame⟩ | ⟨_, hwoken⟩
      · rw [hsame]
        exact hwaiter
      · rw [hwoken, wake_flows, update_of_ne hi]
        exact hwaiter
  rcases wakeWaiting_cases with ⟨_, hsame⟩ | ⟨hwaits', hwoken⟩
  · rw [hsame]
    exact h
  · refine ⟨?_, ?_, ?_, htold⟩
    · rw [hwoken]
      exact h.provided.wake hwaits'.1
    · rw [hwoken]
      exact h.clients.trans wake_sameClients
    · rw [hwoken, wake_flows]
      exact (Function.forall_update_iff other.flows fun i flow =>
        unwaiting flow = unwaiting (plane.flows i)).mpr
        ⟨h.flows i', fun i _ => h.flows i⟩

/-- Every flow of a peer that waits is told when there is room again. -/
theorem Provided.notified (h : Provided places plane) (hwaits : waitsFor peer (plane.flows i))
    (howner : plane.findClient (plane.flows i).client = some j) :
    ⟨writableCompletion i (unwaiting (plane.flows i)), none⟩ ∈
      (plane.notifyOutboundCapacityAvailable peer).controls j := by
  have hstart : Waking places peer plane plane :=
    ⟨h, .refl plane, fun _ => rfl, fun _ _ hwaits _ => .inl hwaits.2.2⟩
  refine foldl_settles (P := Waking places peer plane) (Q := fun i other => ∀ j,
    waitsFor peer (plane.flows i) → plane.findClient (plane.flows i).client = some j →
      ⟨writableCompletion i (unwaiting (plane.flows i)), none⟩ ∈ other.controls j)
    (fun other i hother => hother.round i) (fun other i hother j => hother.settles) ?_ _ plane hstart i
    (mem_finRange i) j hwaits howner
  exact fun other i i' hother hrecord j hwaits howner =>
    hother.persists hwaits howner (hrecord j hwaits howner) i'

end Writable

/-! ## Reservations -/

section Reservations

/-- A reservation leaves the queues alone and writes one slot at most, which held no live flow. -/
def ReservesAtMost (plane : TunnelFlowPlane) (client : TunnelClientId)
    (reserved : FlowReservation × TunnelFlowPlane) : Prop :=
  reserved.2.clients = plane.clients ∧ (reserved.2.flows = plane.flows ∨
    reserved.1.result.status = .success ∧ ∃ i flow, isLive (plane.flows i) = false ∧
      flow.client = client ∧ reserved.2.flows = Function.update plane.flows i flow)

theorem reserveConnectedUdpFlow_spec (plane : TunnelFlowPlane) (client : TunnelClientId)
    (request : OpenRequest) (now : Ktime) (availability : TransportAvailability) :
    plane.ReservesAtMost client (plane.reserveConnectedUdpFlow client request now availability) := by
  unfold reserveConnectedUdpFlow
  iterate 5 (split; · exact ⟨rfl, .inl rfl⟩)
  split
  · exact ⟨rfl, .inl rfl⟩
  rename_i i hfind
  have hfree : isLive (plane.flows i) = false := by simpa using find?_some hfind
  simp only
  split
  · exact ⟨rfl, .inl rfl⟩
  -- The port that is found is not of interest here.
  unfold allocateVirtualTuple
  simp only
  generalize (searchPort _ request.remote now 16384 _).1 = found
  cases found with
  | none => exact ⟨rfl, .inl rfl⟩
  | some port => exact ⟨rfl, .inr ⟨rfl, i, _, hfree, rfl, rfl⟩⟩

/-- A call that reserves a flow finds two places for it in the queue of its client, next to those
that are spoken for and those for data. -/
def Uncrowded (plane : TunnelFlowPlane) (now : Ktime) : PlaneAction → Prop
  | .reserve client request availability | .openFlow client request availability =>
    (plane.reserveConnectedUdpFlow client request now availability).1.result.status = .success →
      ∀ j, plane.findClient client = some j →
        (plane.spokenFor j).card + 2 + dataCompletionCapacity ≤ completionQueueCapacity
  | _ => True

instance (now : Ktime) : (action : PlaneAction) → Decidable (plane.Uncrowded now action)
  | .reserve .. | .openFlow .. => inferInstanceAs (Decidable (_ → ∀ _, _ → _ ≤ _))
  | .createClient _ | .destroyClient _ | .refreshPolicy _ | .commit _ | .cancel _
  | .prepareSend .. | .completeSend .. | .notify _ | .receive .. | .closeFlow .. | .deliver ..
  | .invalidate .. => inferInstanceAs (Decidable True)

/-- What a reservation speaks for in addition are the completions of a flow that it wrote. -/
theorem mem_spokenFor_of_reserved {other : TunnelFlowPlane}
    (hclients : other.clients = plane.clients) {j : Fin maximumClientContexts} {key : CompletionType × FlowHandle}
    (hkey : key ∈ other.spokenFor j) : key ∈ plane.spokenFor j ∨ ∃ i,
      (key.1 = .flowStateChanged ∨ key.1 = .writable) ∧ other.flows i ≠ plane.flows i ∧
        plane.findClient (other.flows i).client = some j ∧
        makeFlowHandle i (other.flows i) = key.2 := by
  have hfind (client : TunnelClientId) : other.findClient client = plane.findClient client :=
    findClient_congr fun j => by rw [hclients]; exact ⟨rfl, rfl⟩
  rcases mem_spokenFor.mp hkey with hpolicy | ⟨htype, i, hlive, howner, hhandle⟩ | hqueued
  · exact .inl (mem_spokenFor.mpr (.inl hpolicy))
  · rw [hfind] at howner
    by_cases hsame : other.flows i = plane.flows i
    · rw [hsame] at hlive howner hhandle
      exact .inl (mem_spokenFor.mpr (.inr (.inl ⟨htype, i, hlive, howner, hhandle⟩)))
    · exact .inr ⟨i, htype, hsame, howner, hhandle⟩
  · rw [hclients] at hqueued
    exact .inl (mem_spokenFor.mpr (.inr (.inr hqueued)))

/-- A reservation that does not crowd its client out. -/
theorem Provided.reserve (h : Provided plane.spokenFor plane)
    {reserved : FlowReservation × TunnelFlowPlane}
    (hres : plane.ReservesAtMost client reserved)
    (hsound : reserved.2.Sound) (haccounted : reserved.2.Accounted)
    (huncrowded : reserved.1.result.status = .success → ∀ j, plane.findClient client = some j →
      (plane.spokenFor j).card + 2 + dataCompletionCapacity ≤ completionQueueCapacity) :
    Provided reserved.2.spokenFor reserved.2 := by
  obtain ⟨reservation, other⟩ := reserved
  obtain ⟨hclients, hflows⟩ := hres
  simp only at hclients hflows hsound haccounted huncrowded ⊢
  have hkept {j : Fin maximumClientContexts} (hsub : other.spokenFor j ⊆ plane.spokenFor j) :=
    (Nat.add_le_add_right (Finset.card_le_card hsub) _).trans (h.attended.few j)
  refine ⟨hsound, haccounted, fun j => ?_, fun _ => Finset.Subset.refl _, ?_, ?_⟩
  · rcases hflows with hflows | ⟨hstatus, i, flow, -, rfl, hflows⟩
    · refine hkept fun key hkey => (mem_spokenFor_of_reserved hclients hkey).resolve_right ?_
      rintro ⟨i, -, hne, -⟩
      exact hne (by rw [hflows])
    have hwritten {i' : Fin maximumFlows} (hne : other.flows i' ≠ plane.flows i') : i' = i := by
      by_contra hi
      exact hne (by rw [hflows, update_of_ne hi])
    have hflow : other.flows i = flow := by rw [hflows, update_self]
    by_cases howner : plane.findClient flow.client = some j
    · have hsub : other.spokenFor j ⊆ insert (.flowStateChanged, makeFlowHandle i flow)
          (insert (.writable, makeFlowHandle i flow) (plane.spokenFor j)) := by
        intro key hkey
        rw [Finset.mem_insert, Finset.mem_insert]
        rcases mem_spokenFor_of_reserved hclients hkey with hold | ⟨i', htype, hne, -, hhandle⟩
        · exact .inr (.inr hold)
        obtain rfl := hwritten hne
        rw [hflow] at hhandle
        exact htype.imp (Prod.ext · hhandle.symm) fun htype => .inl (Prod.ext htype hhandle.symm)
      have hcard := (Finset.card_le_card hsub).trans ((Finset.card_insert_le _ _).trans
        (Nat.add_le_add_right (Finset.card_insert_le _ _) 1))
      have hroom := huncrowded hstatus j howner
      omega
    · refine hkept fun key hkey => (mem_spokenFor_of_reserved hclients hkey).resolve_right ?_
      rintro ⟨i', -, hne, hother, -⟩
      obtain rfl := hwritten hne
      exact howner (hflow ▸ hother)
  · rw [hclients]
    exact h.attended.keys
  · unfold DataWithin
    rw [hclients]
    exact h.attended.data

end Reservations

/-! ## Operations -/

section Operations

variable {i : Fin maximumFlows}
  {places : Fin maximumClientContexts → Finset (CompletionType × FlowHandle)}
  {action : PlaneAction}

/-- A client that goes takes its own flows with it only, and is gone. -/
theorem destroyClient_spec {plane : TunnelFlowPlane} {client : TunnelClientId} {now : Ktime} :
    (∀ j, (plane.destroyClient client now).findClient client ≠ some j) ∧
      ∀ i, (plane.flows i).client ≠ client →
        (plane.destroyClient client now).flows i = plane.flows i := by
  unfold destroyClient
  split
  · rename_i hnone
    exact ⟨fun j hfound => (nomatch hnone.symm.trans hfound), fun _ _ => rfl⟩
  · rename_i j hclient
    set closed := (finRange maximumFlows).foldl (fun (plane : TunnelFlowPlane) i =>
      if (plane.flows i).allocated ∧ (plane.flows i).client = client then
        plane.closeFlowSlot i .clientClosed now false
      else plane) plane with hclosed
    have hflows (i : Fin maximumFlows) (hi : (plane.flows i).client ≠ client) :
        closed.flows i = plane.flows i := by
      refine foldlRecOn (motive := fun (other : TunnelFlowPlane) =>
        other.flows i = plane.flows i) _ _ rfl
        fun other hother i' _ => ?_
      split
      · rename_i howned
        obtain ⟨flow, _, hwritten⟩ := closeFlowSlot_flows other i' .clientClosed now false
        have hne : i ≠ i' := by
          rintro rfl
          exact hi (hother ▸ howned.2)
        rw [hwritten, update_of_ne hne]
        exact hother
      · exact hother
    refine ⟨fun j' hfound => ?_, fun i hi => ?_⟩
    · obtain ⟨hslot, _, halloc, _⟩ := findClient_eq_some.mp hfound
      obtain rfl : j' = j := Fin.ext (hslot.symm.trans (findClient_eq_some.mp hclient).1)
      rw [setClient_clients, update_self] at halloc
      cases halloc
    · exact (congrFun (forgetClient_flows closed j) i).trans (hflows i hi)

/-- Reading closes no flow. -/
theorem receiveLoop_closed (client : TunnelClientId) (j : Fin maximumClientContexts)
    (payloadSize room : Nat) (records : List CompletionRecord) (payload : List UInt8)
    (plane : TunnelFlowPlane) (i : Fin maximumFlows) :
    ((receiveLoop client j payloadSize room records payload plane).2.flows i).closed =
      (plane.flows i).closed := by
  have hdrop (plane : TunnelFlowPlane) (entry : CompletionEntry) (rest : List CompletionEntry) :
      ((plane.dropFront client j entry rest).flows i).closed = (plane.flows i).closed := by
    obtain ⟨i', occupancy, hflows⟩ := dropFront_flows plane client j entry rest
    rw [hflows]
    by_cases hi : i = i'
    · subst hi
      rw [update_self]
    · rw [update_of_ne hi]
  induction room generalizing records payload plane with
  | zero => rfl
  | succ room ih =>
    unfold receiveLoop
    split
    · rfl
    split
    · exact (ih ..).trans (hdrop ..)
    · simp only
      split
      · rfl
      · exact (ih ..).trans (hdrop ..)

private theorem receiveCompletions_closed {plane : TunnelFlowPlane} {client : TunnelClientId}
    {recordCount payloadSize : Nat} {i : Fin maximumFlows} :
    ((plane.receiveCompletions client recordCount payloadSize).2.flows i).closed =
      (plane.flows i).closed := by
  unfold receiveCompletions
  split
  · rfl
  split
  · rfl
  · exact receiveLoop_closed ..

/-- Every client still there is told of what an operation did: of its flows that were closed, of a
policy that changed, and of its waiting flows that may write again. -/
structure Reported (plane : TunnelFlowPlane) (now : Ktime) (action : PlaneAction) : Prop where
  closed : ∀ i j, isLive (plane.flows i) = true → ((plane.apply now action).flows i).closed = true →
    plane.findClient (plane.flows i).client = some j →
    (plane.apply now action).findClient (plane.flows i).client = some j →
      (plane.apply now action).ReportsClosed j i
  policy : ∀ input, action = .refreshPolicy input → RoutingPolicy.refreshed input ≠ plane.policy →
    ∀ j, ((plane.apply now action).clients j).allocated = true →
      ⟨(plane.apply now action).policyCompletion, none⟩ ∈
        ((plane.apply now action).clients j).completions
  writable : ∀ peer, action = .notify peer → ∀ i j, isOpen (plane.flows i) = true →
    (plane.flows i).peer = peer → (plane.flows i).writableWaiter = true →
    plane.findClient (plane.flows i).client = some j →
      ⟨writableCompletion i (plane.flows i), none⟩ ∈
        ((plane.apply now action).clients j).completions

/-- What is spoken for is no more than what was provided. -/
theorem Provided.renewed (h : Provided places plane) : Provided plane.spokenFor plane :=
  ⟨h.sound, h.accounted, fun j =>
    (Nat.add_le_add_right (Finset.card_le_card (h.attended.within j)) _).trans (h.attended.few j),
    fun _ => Finset.Subset.refl _, h.attended.keys, h.attended.data⟩

theorem Provided.apply (h : Provided plane.spokenFor plane)
    (huncrowded : plane.Uncrowded now action) :
    Provided (plane.apply now action).spokenFor (plane.apply now action) := by
  have hmoves := apply_moves now plane action h.sound.next
  have hmid (client : TunnelClientId) (request : OpenRequest) (availability : TransportAvailability)
      (huncrowded : plane.Uncrowded now (.reserve client request availability)) :
      Provided (plane.reserveConnectedUdpFlow client request now availability).2.spokenFor
        (plane.reserveConnectedUdpFlow client request now availability).2 := by
    obtain ⟨hsound, haccounted⟩ :
        (plane.apply now (.reserve client request availability)).Sound ∧
          (plane.apply now (.reserve client request availability)).Accounted :=
      apply_invariant (fun _ _ hsound haccounted hmove => haccounted.move hsound hmove)
        h.sound h.accounted
    exact h.reserve (reserveConnectedUdpFlow_spec plane client request now availability) hsound
      haccounted huncrowded
  cases action with
  | reserve client request availability => exact hmid client request availability huncrowded
  | openFlow client request availability =>
    have hafter : PlaneMoves now ⟨false, false⟩ _ _ :=
      openConnectedUdpFlow_after plane client request availability
    exact ((hmid client request availability huncrowded).moves rfl hafter).renewed
  | _ => exact (h.moves rfl hmoves).renewed

/-- The client of a flow that an operation closes hears of it, unless it goes itself. -/
theorem Provided.closed (h : Provided plane.spokenFor plane)
    (huncrowded : plane.Uncrowded now action)
    {j : Fin maximumClientContexts} (hlive : isLive (plane.flows i))
    (hclosed : ((plane.apply now action).flows i).closed)
    (howner : plane.findClient (plane.flows i).client = some j)
    (hstays : (plane.apply now action).findClient (plane.flows i).client = some j) :
    (plane.apply now action).ReportsClosed j i := by
  have hmoves := apply_moves now plane action h.sound.next
  have hopenBefore := (isLive_iff.mp hlive).2
  have hunchanged (hsame : ((plane.apply now action).flows i).closed = (plane.flows i).closed) :
      (plane.apply now action).ReportsClosed j i := by
    rw [hsame, hopenBefore] at hclosed
    cases hclosed
  have hreserved {client : TunnelClientId} {reserved : FlowReservation × TunnelFlowPlane}
      (hres : plane.ReservesAtMost client reserved) : reserved.2.flows i = plane.flows i := by
    rcases hres.2 with hsame | ⟨_, i', _, hfree, _, hflows⟩
    · rw [hsame]
    · have hne : i ≠ i' := by
        rintro rfl
        rw [hlive] at hfree
        cases hfree
      rw [hflows, update_of_ne hne]
  cases action with
  | destroyClient client =>
    obtain ⟨hgone, hothers⟩ := destroyClient_spec
    by_cases hclient : (plane.flows i).client = client
    · exact (hgone j (hclient ▸ hstays)).elim
    · exact hunchanged (congrArg FlowSlot.closed (hothers i hclient))
  | receive client recordCount payloadSize =>
    exact hunchanged receiveCompletions_closed
  | reserve client request availability =>
    exact hunchanged (congrArg FlowSlot.closed
      (hreserved (reserveConnectedUdpFlow_spec plane client request now availability)))
  | openFlow client request availability =>
    have hspec := reserveConnectedUdpFlow_spec plane client request now availability
    have hnotCrowded : plane.Uncrowded now (.reserve client request availability) := huncrowded
    have hmid : Provided _ (plane.reserveConnectedUdpFlow client request now availability).2 :=
      h.apply hnotCrowded
    have hsame := hreserved hspec
    have hafter : PlaneMoves now ⟨false, false⟩ _ _ :=
      openConnectedUdpFlow_after plane client request availability
    refine ((hmid.told rfl rfl hafter).2 i j (hsame ▸ hlive) ?_).2.2 hclosed |>.2
    rw [hsame, ← howner]
    exact findClient_congr fun j => by rw [hspec.1]; exact ⟨rfl, rfl⟩
  | _ => exact (((h.told rfl rfl hmoves).2 i j hlive howner).2.2 hclosed).2

/-- An operation that crowds no client out is told of. -/
theorem Provided.reported (h : Provided plane.spokenFor plane)
    (huncrowded : plane.Uncrowded now action) :
    plane.Reported now action where
  closed _ _ := h.closed huncrowded
  policy := by
    rintro input rfl hchanged j hj
    obtain ⟨mid, hmoves, hrefresh⟩ : ∃ mid, PlaneMoves now ⟨false, false⟩ plane mid ∧
        plane.refreshPolicy input now = mid.enqueuePolicyChanged :=
      refreshPolicy_of_ne hchanged
    have happly : plane.apply now (.refreshPolicy input) = mid.enqueuePolicyChanged := hrefresh
    obtain ⟨hclients, hgen, htold⟩ := (h.moves rfl hmoves).enqueuePolicyChanged
    rw [happly] at hj ⊢
    have hrecord : mid.enqueuePolicyChanged.policyCompletion = mid.policyCompletion := by
      unfold policyCompletion
      rw [hgen]
    rw [hrecord]
    exact (mem_controls.mp (htold j ((hclients j).1.symm.trans hj))).1
  writable := by
    rintro peer rfl i j hopen hpeer hwaiter howner
    exact (mem_controls.mp (h.notified ⟨hopen, hpeer, hwaiter⟩ howner)).1

end Operations

/-! ## Runs -/

/-- The planes reached by operations none of which crowds a client out. -/
def attentivePlanes : Machine TunnelFlowPlane :=
  .ofActions (· = initial) (fun plane (call : Ktime × PlaneAction) => plane.Uncrowded call.1 call.2)
    fun plane call => some (plane.apply call.1 call.2)

private theorem initial_attended : AttendedIn initial.spokenFor initial where
  few := by decide
  within _ := Finset.Subset.refl _
  keys _ := nodup_nil
  data _ := Nat.zero_le _

/-- No closed flow, no change of the policy and no flow that may write again goes unreported while
clients open no flow for which their queue has no places left. -/
theorem control_completions_reported {plane : TunnelFlowPlane} (h : attentivePlanes.Reachable plane)
    {action : PlaneAction} {now : Ktime} (huncrowded : plane.Uncrowded now action) :
    plane.Reported now action := by
  have hprovided : Provided plane.spokenFor plane := by
    refine Machine.Reachable.invariant (P := fun plane => Provided plane.spokenFor plane) ?_ ?_ h
    · rintro _ rfl
      exact ⟨initial_sound, initial_accounted, initial_attended⟩
    · rintro plane _ _ hplane ⟨call, hstep, happly⟩
      cases happly
      exact hplane.apply hstep
  exact hprovided.reported huncrowded

def sampleDeactivation : PlaneAction := .invalidate ⟨0, 1⟩ .peerDeactivated

/-- A client opens all the flows it may, and they are closed, without its reading. -/
def sampleRound : List (Ktime × PlaneAction) :=
  [(0, sampleOpen), (0, sampleOpen), (0, sampleOpen), (0, sampleOpen), (0, sampleDeactivation)]

/-- After one round there are places for another flow. -/
theorem control_completions_reported_sample : ∃ plane, attentivePlanes.Reachable plane ∧
    isLive (plane.flows 0) = true ∧ plane.Reported 0 sampleDeactivation := by
  have hrun : (Machine.runActions (fun plane call => plane.Uncrowded call.1 call.2)
      (fun plane call => some (plane.apply call.1 call.2))
      (sampleSetup ++ sampleRound ++ [(0, sampleOpen)]) initial).map
        (fun plane => isLive (plane.flows 0)) = some true := by
    decide +kernel
  obtain ⟨plane, hplane, hlive⟩ := Option.map_eq_some_iff.mp hrun
  have hreach : attentivePlanes.Reachable plane := .of_runActions (.start rfl) hplane
  have huncrowded : plane.Uncrowded 0 sampleDeactivation := trivial
  exact ⟨plane, hreach, hlive, control_completions_reported hreach huncrowded⟩

/-- After three rounds the queue has no room for the last of the next four flows. -/
theorem control_completion_lost : ∃ plane, planes.Reachable plane ∧
    ¬plane.Reported 0 sampleDeactivation := by
  let plane := afterCalls (sampleSetup ++ sampleRound ++ sampleRound ++ sampleRound ++
    [(0, sampleOpen), (0, sampleOpen), (0, sampleOpen), (0, sampleOpen)])
  refine ⟨plane, afterCalls_reachable _, fun h => ?_⟩
  have hfacts : isLive (plane.flows 3) = true ∧
      ((plane.apply 0 sampleDeactivation).flows 3).closed = true ∧
      plane.findClient (plane.flows 3).client = some 0 ∧
      (plane.apply 0 sampleDeactivation).findClient (plane.flows 3).client = some 0 ∧
      ∀ entry ∈ ((plane.apply 0 sampleDeactivation).clients 0).completions, entry.record.flow ≠
        makeFlowHandle 3 ((plane.apply 0 sampleDeactivation).flows 3) := by
    decide +kernel
  obtain ⟨hlive, hclosed, howner, hstays, hnone⟩ := hfacts
  obtain ⟨record, hmem, _, hflow, _⟩ := h.closed 3 0 hlive hclosed howner hstays
  exact hnone _ hmem hflow

end TunnelFlowPlane

end WireguardNx.Tunnel
