import WireguardNx.Laws.TunnelCalls
import WireguardNx.Laws.FlowChanges

/-!
# The operation slot of the adapter is attended

An operation in the slot has a thread that holds its ticket and will take or cancel it, or it is a
packet that a run of the worker will take.  That is so as long as no thread waits for work that was
refused: a thread that sends a datagram, or closes a stale control block, does not look at the
answer to its request, and leaves its operation behind when no run of the worker comes.

`RequestsServed` is that condition on the steps.  Without any condition the flags of the slot agree
and the worker has what is marked as running (`Slotted`).
-/

namespace WireguardNx.Runtime.TunnelRuntime

open Wireguard WireguardNx.Platform Tunnel Ip HorizonDispatcher UserspaceIpAdapterOwner Function

variable {thread : Nat} {operation : Operation} {owner : UserspaceIpAdapterOwner}
  {result : UserspaceIpResult}

variable {s s' mid : TunnelRuntime} {action : Action}

/-- The flags and the ticket of the slot agree, and the worker has what is marked as running. -/
structure Slotted (s : TunnelRuntime) : Prop where
  generation : s.owner.slot.generation ≠ 0
  ticket : s.owner.isBusy = true → s.owner.slot.operation.ticket = s.owner.slot.generation
  pending : s.owner.slot.pending = true →
    s.owner.slot.running = false ∧ s.owner.slot.complete = false
  running : s.owner.slot.running = true → s.owner.slot.complete = false ∧
    ∃ serial, s.worker.held = some (s.owner.slot.operation, serial)
  complete : s.owner.slot.complete = true → s.owner.slot.operation.kind ≠ .inputPacket

theorem isBusy_eq_false_iff : owner.isBusy = false ↔
    owner.slot.pending = false ∧ owner.slot.running = false ∧ owner.slot.complete = false := by
  unfold isBusy
  rw [Bool.or_eq_false_iff, Bool.or_eq_false_iff, and_assoc]

theorem isBusy_congr {owner owner' : UserspaceIpAdapterOwner} (h : owner'.slot = owner.slot) :
    owner'.isBusy = owner.isBusy := by
  unfold isBusy
  rw [h]

theorem followingGeneration_ne_zero (generation : UInt32) : followingGeneration generation ≠ 0 := by
  unfold followingGeneration
  split
  · decide
  · assumption

/-! ## What the operations on the slot leave -/

/-- A cancelled ticket empties the slot, or is none of the slot. -/
theorem cancel_cases (owner : UserspaceIpAdapterOwner) (ticket : OperationTicket) :
    (ticket = 0 ∨ ticket ≠ owner.slot.generation) ∧ owner.cancel ticket = owner ∨
      ticket = owner.slot.generation ∧ (owner.cancel ticket).isBusy = false ∧
        (owner.cancel ticket).slot.generation ≠ 0 := by
  unfold cancel
  split
  · rename_i hnone
    exact .inl ⟨hnone, rfl⟩
  · rename_i hticket
    refine .inr ⟨not_not.mp (not_or.mp hticket).2, rfl, followingGeneration_ne_zero _⟩

/-- A ticket takes the result of a completed operation, or nothing. -/
theorem takeResult_cases (owner : UserspaceIpAdapterOwner) (ticket : OperationTicket) :
    (ticket = 0 ∨ ticket ≠ owner.slot.generation ∨ owner.slot.complete = false) ∧
        owner.takeResult ticket = (none, owner) ∨
      ticket = owner.slot.generation ∧ owner.slot.complete ∧
        owner.takeResult ticket = (some owner.slot.result, { owner with slot := { owner.slot with
          complete := false
          generation := followingGeneration owner.slot.generation } }) := by
  unfold takeResult peekResult
  by_cases hnone : ticket = 0 ∨ ticket ≠ owner.slot.generation ∨ owner.slot.complete = false
  · rw [if_pos hnone]
    exact .inl ⟨hnone, rfl⟩
  · rw [if_neg hnone]
    simp only [not_or, not_not, Bool.not_eq_false] at hnone
    exact .inr ⟨hnone.2.1, hnone.2.2, rfl⟩

/-- A result completes the operation that runs, or changes only the configuration. -/
theorem complete_cases (owner : UserspaceIpAdapterOwner) (operation : Operation)
    (result : UserspaceIpResult) :
    (operation.ticket = 0 ∨ operation.ticket ≠ owner.slot.generation ∨
        owner.slot.running = false) ∧ (owner.complete operation result).slot = owner.slot ∨
      operation.ticket ≠ 0 ∧ operation.ticket = owner.slot.generation ∧ owner.slot.running ∧
        owner.complete operation result = { owner with slot := { owner.slot with
          running := false
          complete := true
          result } } := by
  unfold complete
  split
  · rename_i hzero
    refine .inl ⟨.inl hzero, ?_⟩
    cases operation.kind <;> rfl
  · rename_i hzero
    split
    · rename_i hother
      exact .inl ⟨.inr hother, rfl⟩
    · rename_i hother
      simp only [not_or, not_not, Bool.not_eq_false] at hother
      exact .inr ⟨hzero, hother.1, hother.2, rfl⟩

/-- Whether an operation is none of the slot. -/
def IsControl (operation : Operation) : Prop :=
  operation.ticket = 0 ∧ (operation.kind = .reset ∨ operation.kind = .configure ∨
    operation.kind = .runTimeouts)

theorem IsControl.kind_ne (h : IsControl operation) : operation.kind ≠ .inputPacket := by
  rcases h.2 with hkind | hkind | hkind <;> rw [hkind] <;> exact nofun

/-- What the worker takes. -/
theorem takeNext_cases (owner : UserspaceIpAdapterOwner) :
    (owner.takeNext = none ∧ owner.slot.pending = false) ∨
      (∃ operation owner', owner.takeNext = some (operation, owner') ∧
        IsControl operation ∧ owner'.slot = owner.slot ∧ owner'.adapter = owner.adapter) ∨
      (owner.slot.pending ∧ owner.takeNext = some (owner.slot.operation, { owner with
        slot := { owner.slot with pending := false, running := true } })) := by
  unfold UserspaceIpAdapterOwner.takeNext
  simp only
  split
  · exact .inr (.inl ⟨_, _, rfl, ⟨rfl, .inl rfl⟩, rfl, rfl⟩)
  · split
    · exact .inr (.inl ⟨_, _, rfl, ⟨rfl, .inr (.inl rfl)⟩, rfl, rfl⟩)
    · split
      · exact .inr (.inl ⟨_, _, rfl, ⟨rfl, .inr (.inr rfl)⟩, rfl, rfl⟩)
      · split
        · rename_i hpend
          exact .inr (.inr ⟨hpend, rfl⟩)
        · rename_i hpend
          exact .inl ⟨rfl, Bool.not_eq_true _ ▸ hpend⟩

theorem execute_slot (owner : UserspaceIpAdapterOwner) (operation : Operation) (lwip : Lwip) :
    (owner.execute operation lwip).2.slot = owner.slot := by
  unfold execute
  cases operation.kind <;> rfl

theorem executeOperation_spec (s : TunnelRuntime) (operation : Operation) (serial : Nat)
    (execute : Bool) (lwip : Lwip) :
    (s.executeOperation operation serial execute lwip).owner.slot = s.owner.slot ∧
      (s.executeOperation operation serial execute lwip).dispatcher = s.dispatcher ∧
      (s.executeOperation operation serial execute lwip).calls = s.calls ∧
      (s.executeOperation operation serial execute lwip).serial = s.serial ∧
      ∃ result, (s.executeOperation operation serial execute lwip).worker =
        .executed operation serial result := by
  unfold executeOperation
  split
  · exact ⟨rfl, rfl, rfl, rfl, _, rfl⟩
  · exact ⟨execute_slot .., rfl, rfl, rfl, _, rfl⟩

/-! ## The lanes and the slot along moves -/

theorem askForWork_dispatcher (s : TunnelRuntime) (thread : Nat) (purpose : CallPurpose)
    (queued : QueuedOperation) (available : Bool) :
    (s.askForWork thread purpose queued available).dispatcher =
      if available then s.dispatcher.queueUserspaceIpAdapter.2 else s.dispatcher := by
  unfold askForWork
  cases available <;> rfl

private theorem takeNext_worker {s : TunnelRuntime} :
    s.takeNext.worker ≠ .idle ∧ s.takeNext.dispatcher = s.dispatcher := by
  unfold takeNext
  split <;> exact ⟨nofun, rfl⟩

theorem Lanes.busy (h : Lanes s) (hworker : s.worker ≠ .idle)
    (hdispatcher : s'.dispatcher = s.dispatcher)
    (hworker' : s'.worker ≠ .idle) : Lanes s' := by
  refine ⟨hdispatcher ▸ h.sound, fun hidle => (hworker' hidle).elim, fun hnot => ?_⟩
  rw [hdispatcher, ← h.runs] at hnot
  exact (hworker hnot).elim

theorem Lanes.move (h : Lanes s) (hmove : Move s action s') : Lanes s' := by
  cases hmove with
  | stay => exact h
  | walk | issue | cancel | close | flush | finish => exact ⟨h.sound, h.runs⟩
  | ask thread purpose queued available =>
    have hworker : (s.askForWork thread purpose queued available).worker = s.worker := rfl
    obtain ⟨hsound, hruns, _⟩ := queueUserspaceIpAdapter_spec h.sound
    constructor
    · rw [askForWork_dispatcher]
      split
      · exact hsound
      · exact h.sound
    · rw [askForWork_dispatcher, hworker, h.runs]
      split
      · exact not_congr hruns.symm
      · exact Iff.rfl
  | take hworker =>
    obtain ⟨hbusy, hdispatcher⟩ := takeNext_worker
    exact h.busy (by rw [hworker]; exact nofun) hdispatcher hbusy
  | check operation serial execute hworker | complete operation serial result hworker
  | completeInput operation serial result hworker =>
    exact h.busy (by rw [hworker]; exact nofun) rfl nofun
  | execute operation serial execute lwip now hworker =>
    obtain ⟨_, hdispatcher, _, _, result, hexecuted⟩ :=
      executeOperation_spec s operation serial execute lwip
    exact h.busy (by rw [hworker]; exact nofun) hdispatcher (by rw [hexecuted]; exact nofun)
  | dispatch action _ hdispatch => exact (dispatch_spec h hdispatch).1

/-- A scheduled run of the worker remains, or has found the slot without a pending operation. -/
theorem Lanes.scheduled (h : Lanes s) (hmove : Move s action s') (hsched : Scheduled s) :
    Scheduled s' ∨ s'.owner.slot.pending = false := by
  cases hmove with
  | stay | walk | issue | cancel | close | flush | finish => exact .inl hsched
  | ask thread purpose queued available =>
    obtain ⟨_, _, hkept, _⟩ := queueUserspaceIpAdapter_spec h.sound
    refine .inl (hsched.imp_left fun hpend => ?_)
    rw [askForWork_dispatcher]
    split
    · exact hkept hpend
    · exact hpend
  | take hworker =>
    rcases takeNext_cases s.owner with ⟨hnone, hpend⟩ | ⟨operation, owner, hsome, _⟩ |
      ⟨_, hsome⟩ <;> unfold takeNext
    · rw [hnone]
      exact .inr hpend
    · rw [hsome]
      exact .inl (.inr ⟨nofun, nofun⟩)
    · rw [hsome]
      exact .inl (.inr ⟨nofun, nofun⟩)
  | check | complete | completeInput => exact .inl (.inr ⟨nofun, nofun⟩)
  | execute operation serial execute lwip now hworker =>
    obtain ⟨_, _, _, _, result, hexecuted⟩ := executeOperation_spec s operation serial execute lwip
    refine .inl (.inr ⟨?_, ?_⟩) <;> rw [hexecuted] <;> exact nofun
  | dispatch action _ hdispatch => exact .inl ((dispatch_spec h hdispatch).2.1 hsched)

/-- A slot that is empty is in order. -/
theorem Slotted.of_free (hgen : s.owner.slot.generation ≠ 0) (hfree : s.owner.isBusy = false) :
    Slotted s := by
  obtain ⟨hpend, hrunning, hcomplete⟩ := isBusy_eq_false_iff.mp hfree
  refine ⟨hgen, fun hbusy => ?_, fun h => ?_, fun h => ?_, fun h => ?_⟩
  · rw [hfree] at hbusy
    cases hbusy
  · rw [hpend] at h
    cases h
  · rw [hrunning] at h
    cases h
  · rw [hcomplete] at h
    cases h

theorem Slotted.congr (h : Slotted s) (hslot : s'.owner.slot = s.owner.slot)
    (hworker : s.owner.slot.running → s'.worker.held = s.worker.held) : Slotted s' := by
  refine ⟨hslot ▸ h.generation, fun hbusy => ?_, hslot ▸ h.pending, fun hrunning => ?_,
    hslot ▸ h.complete⟩
  · rw [isBusy_congr hslot] at hbusy
    rw [hslot]
    exact h.ticket hbusy
  · rw [hslot] at hrunning ⊢
    rw [hworker hrunning]
    exact h.running hrunning

theorem Slotted.only_complete (h : Slotted s) (hcomplete : s.owner.slot.complete) :
    s.owner.slot.pending = false ∧ s.owner.slot.running = false := by
  constructor
  · by_contra hpend
    have hnot := (h.pending (Bool.not_eq_false _ ▸ hpend)).2
    rw [hcomplete] at hnot
    cases hnot
  · by_contra hrunning
    have hnot := (h.running (Bool.not_eq_false _ ▸ hrunning)).1
    rw [hcomplete] at hnot
    cases hnot

/-- A ticket that takes a result leaves the slot empty. -/
theorem Slotted.takeResult_free (h : Slotted s) (hcomplete : s.owner.slot.complete)
    (generation : UInt32) : ({ s.owner with slot := { s.owner.slot with
      complete := false
      generation } } : UserspaceIpAdapterOwner).isBusy = false := by
  obtain ⟨hpend, hrunning⟩ := h.only_complete hcomplete
  exact isBusy_eq_false_iff.mpr ⟨hpend, hrunning, rfl⟩

/-- Taking a result leaves the slot in order. -/
theorem Slotted.takeResult (h : Slotted s) (ticket : OperationTicket)
    (howner : s'.owner = (s.owner.takeResult ticket).2)
    (hworker : s.owner.slot.running → s'.worker.held = s.worker.held) : Slotted s' := by
  rcases takeResult_cases s.owner ticket with ⟨_, htake⟩ | ⟨_, hcomplete, htake⟩
  · rw [htake] at howner
    exact h.congr (congrArg slot howner) hworker
  · rw [htake] at howner
    refine .of_free (howner ▸ followingGeneration_ne_zero _) ?_
    rw [howner]
    exact h.takeResult_free hcomplete _

/-- Completing what the worker has leaves no operation marked as running. -/
theorem Slotted.complete_cases (h : Slotted s) {serial : Nat}
    (hworker : s.worker.held = some (operation, serial)) :
    (s.owner.complete operation result).slot = s.owner.slot ∧ s.owner.slot.running = false ∨
      s.owner.slot.running ∧ operation = s.owner.slot.operation ∧
        s.owner.complete operation result = { s.owner with slot := { s.owner.slot with
          running := false
          complete := true
          result } } := by
  rcases TunnelRuntime.complete_cases s.owner operation result with ⟨hnone, hslot⟩ |
    ⟨_, _, hrunning, heq⟩
  · refine .inl ⟨hslot, ?_⟩
    by_contra hrunning
    have hrunning : s.owner.slot.running := Bool.not_eq_false _ ▸ hrunning
    obtain ⟨_, serial', hheld⟩ := h.running hrunning
    rw [hworker] at hheld
    obtain rfl : operation = s.owner.slot.operation := congrArg Prod.fst (Option.some.inj hheld)
    have hticket : s.owner.slot.operation.ticket = s.owner.slot.generation := by
      refine h.ticket ?_
      unfold isBusy
      rw [hrunning, Bool.or_true, Bool.true_or]
    rcases hnone with hzero | hother | hstopped
    · exact h.generation (hticket ▸ hzero)
    · exact hother hticket
    · rw [hrunning] at hstopped
      cases hstopped
  · obtain ⟨_, serial', hheld⟩ := h.running hrunning
    rw [hworker] at hheld
    exact .inr ⟨hrunning, congrArg Prod.fst (Option.some.inj hheld), heq⟩

theorem Slotted.complete_of_running (h : Slotted s) {serial : Nat}
    (hworker : s.worker.held = some (operation, serial)) (hrunning : s.owner.slot.running)
    (result : UserspaceIpResult) :
    s.owner.complete operation result = { s.owner with slot := { s.owner.slot with
      running := false
      complete := true
      result } } := by
  rcases h.complete_cases hworker with ⟨_, hstopped⟩ | ⟨_, _, heq⟩
  · rw [hrunning] at hstopped
    cases hstopped
  · exact heq

theorem Slotted.busy_of_running (hrunning : s.owner.slot.running) : s.owner.isBusy := by
  unfold isBusy
  rw [hrunning, Bool.or_true, Bool.true_or]

theorem Slotted.busy_of_pending (hpend : s.owner.slot.pending) : s.owner.isBusy := by
  unfold isBusy
  rw [hpend, Bool.true_or, Bool.true_or]

theorem Slotted.not_running (h : Slotted s) (hheld : s.worker.held = none) :
    s.owner.slot.running = false := by
  by_contra hrunning
  obtain ⟨_, serial, hsome⟩ := h.running (Bool.not_eq_false _ ▸ hrunning)
  rw [hheld] at hsome
  cases hsome

theorem Slotted.not_pending (h : Slotted s) (hrunning : s.owner.slot.running) :
    s.owner.slot.pending = false := by
  by_contra hpend
  have hnot := (h.pending (Bool.not_eq_false _ ▸ hpend)).1
  rw [hrunning] at hnot
  cases hnot

theorem Slotted.take (h : Slotted s) (hworker : s.worker = .looping) : Slotted s.takeNext := by
  have hheld : s.worker.held = none := by rw [hworker]; rfl
  have hstopped (hrunning : s.owner.slot.running) : False := by
    rw [h.not_running hheld] at hrunning
    cases hrunning
  rcases takeNext_cases s.owner with ⟨hnone, _⟩ | ⟨operation, owner, hsome, _, hslot, _⟩ |
    ⟨hpend, hsome⟩ <;> unfold takeNext
  · rw [hnone]
    exact h.congr rfl fun hrunning => (hstopped hrunning).elim
  · rw [hsome]
    exact h.congr hslot fun hrunning => (hstopped hrunning).elim
  · rw [hsome]
    have hbusy := h.ticket (busy_of_pending hpend)
    obtain ⟨_, hcomplete⟩ := h.pending hpend
    refine ⟨h.generation, fun _ => hbusy, nofun, fun _ => ⟨hcomplete, s.serial, rfl⟩, fun hyes => ?_⟩
    rw [show s.owner.slot.complete = true from hyes] at hcomplete
    cases hcomplete

/-- The slot of an operation that ran and is completed. -/
theorem Slotted.completed (h : Slotted s) (hrunning : s.owner.slot.running)
    (howner : s'.owner = { s.owner with slot := { s.owner.slot with
      running := false
      complete := true
      result } }) (hkind : s.owner.slot.operation.kind ≠ .inputPacket) : Slotted s' := by
  have hpend := h.not_pending hrunning
  refine ⟨?_, fun _ => ?_, fun hyes => ?_, fun hyes => ?_, fun _ => ?_⟩ <;> rw [howner] at *
  · exact h.generation
  · exact h.ticket (busy_of_running hrunning)
  · rw [show s.owner.slot.pending = true from hyes] at hpend
    cases hpend
  · cases hyes
  · exact hkind

/-- The slot of a packet that is completed and taken in one section. -/
theorem Slotted.completed_taken (h : Slotted s) (hrunning : s.owner.slot.running)
    (howner : owner = { s.owner with slot := { s.owner.slot with
      running := false
      complete := true
      result } }) :
    (owner.takeResult s.owner.slot.operation.ticket).2.slot.generation ≠ 0 ∧
      (owner.takeResult s.owner.slot.operation.ticket).2.isBusy = false := by
  have hticket := h.ticket (busy_of_running hrunning)
  have hpend := h.not_pending hrunning
  rcases takeResult_cases owner s.owner.slot.operation.ticket with ⟨hnone, _⟩ | ⟨_, _, htake⟩
  · rw [howner] at hnone
    rcases hnone with hzero | hother | hopen
    · exact (h.generation (hticket ▸ hzero)).elim
    · exact (hother hticket).elim
    · cases hopen
  · rw [htake, howner]
    exact ⟨followingGeneration_ne_zero _, isBusy_eq_false_iff.mpr ⟨hpend, rfl, rfl⟩⟩

theorem Slotted.move (h : Slotted s) (hlanes : Lanes s) (hmove : Move s action s') :
    Slotted s' := by
  cases hmove with
  | stay => exact h
  | walk | ask | close | flush => exact h.congr rfl fun _ => rfl
  | issue thread hthread purpose operation payload hbefore hkind hpayload hfree =>
    obtain ⟨_, hrunning, hcomplete⟩ := isBusy_eq_false_iff.mp hfree
    refine ⟨h.generation, fun _ => rfl, fun _ => ⟨hrunning, hcomplete⟩, fun hyes => ?_, fun hyes => ?_⟩
    · rw [show s.owner.slot.running = true from hyes] at hrunning
      cases hrunning
    · rw [show s.owner.slot.complete = true from hyes] at hcomplete
      cases hcomplete
  | cancel thread purpose queued available submission now call hcall hafter =>
    rcases cancel_cases s.owner queued.ticket with ⟨_, hsame⟩ | ⟨_, hfree, hgen⟩
    · exact h.congr (congrArg slot hsame) fun _ => rfl
    · exact .of_free hgen hfree
  | finish thread hthread purpose queued call hcall hafter =>
    exact h.takeResult queued.ticket rfl fun _ => rfl
  | take hworker => exact h.take hworker
  | check operation serial execute hworker =>
    exact h.congr rfl fun _ => by rw [hworker]; rfl
  | execute operation serial execute lwip now hworker =>
    obtain ⟨hslot, _, _, _, result, hexecuted⟩ :=
      executeOperation_spec s operation serial execute lwip
    exact h.congr hslot fun _ => by rw [hexecuted, hworker]; rfl
  | complete operation serial result hworker hkind =>
    have hheld : s.worker.held = some (operation, serial) := by rw [hworker]; rfl
    rcases h.complete_cases hheld with ⟨hslot, hrunning⟩ | ⟨hrunning, rfl, heq⟩
    · refine h.congr hslot fun hyes => ?_
      rw [hrunning] at hyes
      cases hyes
    · exact h.completed hrunning heq hkind
  | completeInput operation serial result hworker hkind =>
    have hheld : s.worker.held = some (operation, serial) := by rw [hworker]; rfl
    rcases h.complete_cases hheld with ⟨hslot, hrunning⟩ | ⟨hrunning, rfl, heq⟩
    · have hdone : Slotted { s with
          owner := s.owner.complete operation result
          worker := .looping } := by
        refine h.congr hslot fun hyes => ?_
        rw [hrunning] at hyes
        cases hyes
      exact hdone.takeResult operation.ticket rfl fun _ => rfl
    · obtain ⟨hgen, hfree⟩ := h.completed_taken hrunning heq
      exact .of_free hgen hfree
  | dispatch action _ hdispatch =>
    obtain ⟨_, _, dispatcher, worker, rfl, hworker⟩ := dispatch_spec hlanes hdispatch
    refine h.congr rfl fun hrunning => ?_
    obtain ⟨_, serial, hheld⟩ := h.running hrunning
    rcases hworker with rfl | ⟨hidle, _⟩ | ⟨hreturning, _⟩
    · rfl
    · rw [hidle] at hheld
      cases hheld
    · rw [hreturning] at hheld
      cases hheld

/-! ## Who attends to the operation in the slot -/

/-- A thread holds the ticket of the operation in the slot. -/
def Holds (s : TunnelRuntime) (thread : Nat) : Prop :=
  ∃ purpose queued, (s.calls thread).held = some (purpose, queued) ∧ queued.serial = s.serial ∧
    queued.ticket = s.owner.slot.generation ∧ purpose.kind = s.owner.slot.operation.kind

/-- A thread that waits for the lane waits for a run of the worker, and finds its operation
completed when the lane was empty. -/
def Served (s : TunnelRuntime) : TunnelCall → Prop
  | .closing _ _ _ | .flushing _ _ => s.owner.slot.pending = true → Scheduled s
  | .finishing _ _ => s.owner.slot.complete = true
  | .idle | .destroying _ | .stale _ | .asking _ _ | .cancelling _ _ => True

/-- The slot holds a packet that the worker will take. -/
def Awaited (s : TunnelRuntime) : Prop :=
  s.owner.slot.operation.kind = .inputPacket ∧ (s.owner.slot.pending = true → Scheduled s)

/-- An operation in the slot has a thread that will take it, or is a packet for the worker. -/
def Attended (s : TunnelRuntime) : Prop :=
  s.owner.isBusy = true → (∃ thread, Holds s thread ∧ Served s (s.calls thread)) ∨ Awaited s

theorem Attended.of_free (hfree : s.owner.isBusy = false) : Attended s := by
  intro hbusy
  rw [hfree] at hbusy
  cases hbusy

/-- A move that leaves the slot as it is keeps it attended when the thread that holds the operation
goes on with it. -/
theorem Attended.kept (h : Attended s) (hslot : s'.owner.slot = s.owner.slot)
    (hserial : s'.serial = s.serial)
    (hsched : Scheduled s → Scheduled s' ∨ s'.owner.slot.pending = false)
    (hcalls : ∀ thread, s.owner.isBusy → Holds s thread → Served s (s.calls thread) →
      s'.calls thread = s.calls thread ∨
        ((s'.calls thread).held = (s.calls thread).held ∧ Served s' (s'.calls thread)) ∨
        Awaited s') : Attended s' := by
  have hlater (hpend : s'.owner.slot.pending) (hbefore : s.owner.slot.pending →
      Scheduled s) : Scheduled s' := by
    refine (hsched (hbefore (hslot ▸ hpend))).resolve_right fun hnone => ?_
    rw [hpend] at hnone
    cases hnone
  intro hbusy
  rw [isBusy_congr hslot] at hbusy
  rcases h hbusy with ⟨thread, hholds, hserved⟩ | ⟨hkind, hpend⟩
  · have hheld (heq : (s'.calls thread).held = (s.calls thread).held) : Holds s' thread := by
      obtain ⟨purpose, queued, hheld, hrest⟩ := hholds
      refine ⟨purpose, queued, heq.trans hheld, ?_⟩
      rw [hserial, hslot]
      exact hrest
    rcases hcalls thread hbusy hholds hserved with hsame | ⟨heq, hserved'⟩ | hawaited
    · refine .inl ⟨thread, hheld (by rw [hsame]), ?_⟩
      rw [hsame]
      cases hcall : s.calls thread with
      | idle | destroying | stale | asking | cancelling => exact trivial
      | closing | flushing =>
        rw [hcall] at hserved
        exact fun hpend => hlater hpend hserved
      | finishing =>
        rw [hcall] at hserved
        exact (congrArg DataOperationSlot.complete hslot).trans hserved
    · exact .inl ⟨thread, hheld heq, hserved'⟩
    · exact .inr hawaited
  · exact .inr ⟨(congrArg (fun slot => slot.operation.kind) hslot).trans hkind,
      fun hyes => hlater hyes hpend⟩

/-- The calls of the other threads are the same. -/
theorem resume_calls_of_ne {thread other : Nat} {call : TunnelCall} (hne : other ≠ thread) :
    (s.resume thread call).calls other = s.calls other :=
  update_of_ne hne ..

theorem resume_calls_self (thread : Nat) (call : TunnelCall) :
    (s.resume thread call).calls thread = call :=
  update_self ..

/-- One thread goes on, and the slot and the lanes stay. -/
theorem Attended.resume (h : Attended s) (thread : Nat) (call : TunnelCall)
    (hcall : s.owner.isBusy → Holds s thread → Served s (s.calls thread) →
      call.held = (s.calls thread).held ∧ Served s call) : Attended (s.resume thread call) := by
  refine h.kept rfl rfl (fun hsched => .inl hsched) fun other hbusy hholds hserved => ?_
  by_cases hne : other = thread
  · subst hne
    obtain ⟨hheld, hserved'⟩ := hcall hbusy hholds hserved
    rw [resume_calls_self]
    refine .inr (.inl ⟨hheld, ?_⟩)
    cases call <;> exact hserved'
  · exact .inl (resume_calls_of_ne hne)

/-- The condition under which a request for work may be ignored: there is a queue and it has room,
or the worker has taken the operation or will still look into the slot. -/
def IgnoredSafely (s : TunnelRuntime) (available : Bool) : Prop :=
  available = true ∧ ¬HorizonDispatcher.Crowded s.dispatcher .userspaceIpAdapter ∨
    s.owner.slot.pending = false ∨ Scheduled s

instance (s : TunnelRuntime) (available : Bool) : Decidable (IgnoredSafely s available) :=
  inferInstanceAs (Decidable (_ ∨ _))

/-- A thread does not ignore that its request is refused while it needs it. -/
def CallServed (s : TunnelRuntime) (available : Bool) : TunnelCall → Prop
  | .asking purpose _ => purpose.ignoresAnswer = true → IgnoredSafely s available
  | _ => True

instance (s : TunnelRuntime) (available : Bool) : (call : TunnelCall) →
    Decidable (CallServed s available call)
  | .asking purpose _ =>
    inferInstanceAs (Decidable (purpose.ignoresAnswer = true → IgnoredSafely s available))
  | .idle | .destroying _ | .stale _ | .cancelling _ _ | .closing _ _ _ | .flushing _ _
  | .finishing _ _ => instDecidableTrue

/-- No request whose answer is ignored is refused while it is needed. -/
def RequestsServed (s : TunnelRuntime) : Action → Prop
  | .proceed thread available _ _ => CallServed s available (s.calls thread)
  | _ => True

instance (s : TunnelRuntime) : (action : Action) → Decidable (RequestsServed s action)
  | .proceed thread available _ _ =>
    inferInstanceAs (Decidable (CallServed s available (s.calls thread)))
  | .setActivePeer _ _ | .refresh _ | .createClient _ _ | .receiveCompletions _ _ _
  | .notifyOutboundCapacityAvailable _ | .runTimeouts | .reset | .destroyTunnelClient _ _ _
  | .openTunnelConnectedUdpFlow _ _ _ _ _ | .sendTunnelUdpDatagram _ _ _ _ _ _ _
  | .closeTunnelFlow _ _ _ _ | .publishDecryptedPacket _ _ _ | .work _ _ | .dispatch _ =>
    instDecidableTrue

/-- A request is refused only when there is no queue or all other work of the lane is pending. -/
theorem isRejected_of_crowded {d : HorizonDispatcher} (h : Sound d)
    (hcrowded : ¬Crowded d .userspaceIpAdapter) :
    isRejected d.queueUserspaceIpAdapter.1 = false := by
  have hreq := h.request .userspaceIpAdapter
  change Works.Request d .submission .userspaceIpAdapter d.queueUserspaceIpAdapter.1
    d.queueUserspaceIpAdapter.2 at hreq
  generalize d.queueUserspaceIpAdapter.1 = answer at hreq ⊢
  generalize d.queueUserspaceIpAdapter.2 = after at hreq
  cases hreq with
  | capacityExhausted hnew hfull =>
    have hnot : ¬Pending d .userspaceIpAdapter :=
      fun hpend => hnew (h.pending_iff.mpr hpend)
    exact (hcrowded ((h.full_iff hnot).mp hfull)).elim
  | alreadyPending | rerunQueued | queued => rfl

/-- What a request leaves when it is needed: a run of the worker, or a thread that will cancel. -/
theorem askForWork_scheduled (h : Lanes s) (thread : Nat) (purpose : CallPurpose)
    (queued : QueuedOperation) (available : Bool) :
    (∃ rejected, (s.askForWork thread purpose queued available).calls thread =
        answered purpose queued rejected ∧
      (rejected = false → Scheduled (s.askForWork thread purpose queued available))) ∧
      (IgnoredSafely s available → s.owner.slot.pending →
        Scheduled (s.askForWork thread purpose queued available)) := by
  obtain ⟨_, _, hkept, hacc⟩ := queueUserspaceIpAdapter_spec h.sound
  have hself (call : TunnelCall) (dispatcher : HorizonDispatcher) :
      ({ s with dispatcher }.resume thread call).calls thread = call :=
      resume_calls_self thread call
  cases available with
  | true =>
    refine ⟨⟨_, hself _ _, fun hyes => .inl (hacc hyes)⟩, fun hsafe hpend => ?_⟩
    rcases hsafe with ⟨_, hcrowded⟩ | hnot | hsched
    · exact .inl (hacc (isRejected_of_crowded h.sound hcrowded))
    · rw [hpend] at hnot
      cases hnot
    · exact hsched.imp_left hkept
  | false =>
    refine ⟨⟨_, hself _ _, nofun⟩, fun hsafe hpend => ?_⟩
    rcases hsafe with ⟨hno, _⟩ | hnot | hsched
    · cases hno
    · rw [hpend] at hnot
      cases hnot
    · exact hsched

theorem Attended.ask (h : Attended s) (hlanes : Lanes s) {purpose : CallPurpose}
    {queued : QueuedOperation} {available : Bool} (hcall : s.calls thread = .asking purpose queued)
    (hsafe : purpose.ignoresAnswer → IgnoredSafely s available) :
    Attended (s.askForWork thread purpose queued available) := by
  obtain ⟨⟨rejected, hanswered, hacc⟩, hignored⟩ :=
    askForWork_scheduled hlanes thread purpose queued available
  refine h.kept rfl rfl ?_ fun other hbusy hholds _ => ?_
  · exact hlanes.scheduled (.ask thread purpose queued available .success 0 hcall)
  · by_cases hne : other = thread
    · subst hne
      rw [hanswered, hcall]
      obtain ⟨purpose', queued', hheld, _, _, hkind⟩ := hholds
      rw [hcall] at hheld
      cases hheld
      cases purpose with
      | send | closeStale => exact .inr (.inl ⟨rfl, fun hpend => hignored (hsafe rfl) hpend⟩)
      | destroy | openFlow | close =>
        cases rejected with
        | true => exact .inr (.inl ⟨rfl, trivial⟩)
        | false => exact .inr (.inl ⟨rfl, fun _ => hacc rfl⟩)
      | publish =>
        cases rejected with
        | true => exact .inr (.inl ⟨rfl, trivial⟩)
        | false => exact .inr (.inr ⟨hkind.symm, fun _ => hacc rfl⟩)
    · exact .inl (update_of_ne hne ..)

/-- An empty lane has no run of the worker. -/
theorem Lanes.flushed (h : Lanes s) (hflushed : s.dispatcher.isSubmissionFlushed) :
    s.worker = .idle ∧ ¬Scheduled s := by
  obtain ⟨hpend, hruns⟩ := flushed_spec h.sound hflushed
  have hidle := h.runs.mpr hruns
  refine ⟨hidle, ?_⟩
  rintro (hyes | ⟨hnot, _⟩)
  · exact hpend hyes
  · exact hnot hidle

/-- A thread that waited for the lane finds its operation completed. -/
theorem Slotted.complete_of_flushed (h : Slotted s) (hlanes : Lanes s)
    (hflushed : s.dispatcher.isSubmissionFlushed) (hbusy : s.owner.isBusy)
    (hserved : s.owner.slot.pending → Scheduled s) : s.owner.slot.complete := by
  obtain ⟨hidle, hnot⟩ := hlanes.flushed hflushed
  have hrunning : s.owner.slot.running = false := h.not_running (by rw [hidle]; rfl)
  have hpend : s.owner.slot.pending = false := by
    by_contra hyes
    exact hnot (hserved (Bool.not_eq_false _ ▸ hyes))
  unfold isBusy at hbusy
  rwa [hpend, hrunning, Bool.false_or, Bool.false_or] at hbusy

/-- The operation that the worker takes or completes keeps who attends to it. -/
theorem Attended.worked (h : Attended s) (hbusy : s.owner.isBusy)
    (hgen : s'.owner.slot.generation = s.owner.slot.generation)
    (hoperation : s'.owner.slot.operation = s.owner.slot.operation) (hserial : s'.serial = s.serial)
    (hcalls : s'.calls = s.calls) (hpend : s'.owner.slot.pending = false)
    (hcomplete : s.owner.slot.complete → s'.owner.slot.complete) : Attended s' := by
  intro _
  rcases h hbusy with ⟨thread, ⟨purpose, queued, hheld, hrest⟩, hserved⟩ | ⟨hkind, _⟩
  · refine .inl ⟨thread, ⟨purpose, queued, ?_, ?_⟩, ?_⟩
    · rw [hcalls]
      exact hheld
    · rw [hserial, hgen, hoperation]
      exact hrest
    · rw [hcalls]
      cases hcall : s.calls thread with
      | idle | destroying | stale | asking | cancelling => exact trivial
      | closing | flushing =>
        intro hyes
        rw [hpend] at hyes
        cases hyes
      | finishing =>
        rw [hcall] at hserved
        exact hcomplete hserved
  · refine .inr ⟨hoperation ▸ hkind, fun hyes => ?_⟩
    rw [hpend] at hyes
    cases hyes

theorem Attended.move (h : Attended s) (hlanes : Lanes s) (hslotted : Slotted s)
    (hserved : RequestsServed s action) (hmove : Move s action s') : Attended s' := by
  have hsched := hlanes.scheduled hmove
  cases hmove with
  | stay => exact h
  | walk thread hthread call hbefore hafter =>
    refine h.resume thread call fun _ hholds => ?_
    obtain ⟨purpose, queued, hheld, _⟩ := hholds
    rw [hbefore] at hheld
    cases hheld
  | issue thread hthread purpose operation payload hbefore hkind hpayload hfree =>
    intro _
    have hcalls : (s.issue thread purpose (s.owner.enqueue operation payload)).calls thread =
        .asking purpose ⟨s.owner.slot.generation, s.serial + 1⟩ := update_self ..
    refine .inl ⟨thread,
      ⟨purpose, ⟨s.owner.slot.generation, s.serial + 1⟩, ?_, rfl, rfl, hkind.symm⟩, ?_⟩
    · rw [hcalls]
      rfl
    · rw [hcalls]
      exact trivial
  | ask thread purpose queued available submission now hcall =>
    have hsafe : CallServed s available (s.calls thread) := hserved
    rw [hcall] at hsafe
    exact h.ask hlanes hcall hsafe
  | cancel thread purpose queued available submission now call hcall hafter =>
    rcases cancel_cases s.owner queued.ticket with ⟨hnone, hsame⟩ | ⟨_, hfree, _⟩
    · rw [hsame]
      refine h.resume thread call fun _ hholds => ?_
      obtain ⟨purpose', queued', hheld, _, hticket, _⟩ := hholds
      rw [hcall] at hheld
      cases hheld
      rcases hnone with hzero | hother
      · exact (hslotted.generation (hticket ▸ hzero)).elim
      · exact (hother hticket).elim
    · exact .of_free hfree
  | close thread hthread client handle queued hcall =>
    refine h.resume thread _ fun _ _ hserved => ?_
    rw [hcall] at hserved ⊢
    exact ⟨rfl, hserved⟩
  | flush thread hthread purpose queued hcall hflushed =>
    refine h.resume thread _ fun hbusy _ hserved => ?_
    rw [hcall] at hserved ⊢
    exact ⟨rfl, hslotted.complete_of_flushed hlanes hflushed hbusy hserved⟩
  | finish thread hthread purpose queued call hcall hafter =>
    rcases takeResult_cases s.owner queued.ticket with ⟨hnone, htake⟩ | ⟨_, hcomplete, htake⟩
    · rw [htake] at hsched ⊢
      refine h.kept rfl rfl hsched fun other _ hholds hserved => ?_
      by_cases hne : other = thread
      · subst hne
        rw [hcall] at hserved
        obtain ⟨purpose', queued', hheld, _, hticket, _⟩ := hholds
        rw [hcall] at hheld
        cases hheld
        rcases hnone with hzero | hother | hopen
        · exact (hslotted.generation (hticket ▸ hzero)).elim
        · exact (hother hticket).elim
        · rw [show s.owner.slot.complete = true from hserved] at hopen
          cases hopen
      · exact .inl (resume_calls_of_ne hne)
    · rw [htake]
      exact .of_free (hslotted.takeResult_free hcomplete _)
  | take hworker =>
    rcases takeNext_cases s.owner with ⟨hnone, _⟩ | ⟨operation, owner, hsome, _, hslot, _⟩ |
      ⟨hpend, hsome⟩ <;> unfold takeNext at hsched ⊢
    · rw [hnone] at hsched ⊢
      exact h.kept rfl rfl hsched fun _ _ _ _ => .inl rfl
    · rw [hsome] at hsched ⊢
      exact h.kept hslot rfl hsched fun _ _ _ _ => .inl rfl
    · rw [hsome]
      exact h.worked (Slotted.busy_of_pending hpend) rfl rfl rfl rfl rfl fun hcomplete => hcomplete
  | check operation serial execute hworker =>
    exact h.kept rfl rfl hsched fun _ _ _ _ => .inl rfl
  | execute operation serial execute lwip now hworker =>
    obtain ⟨hslot, _, hcalls, hserial, _⟩ := executeOperation_spec s operation serial execute lwip
    exact h.kept hslot hserial hsched fun _ _ _ _ => .inl (by rw [hcalls])
  | complete operation serial result hworker hkind =>
    have hheld : s.worker.held = some (operation, serial) := by rw [hworker]; rfl
    rcases hslotted.complete_cases hheld with ⟨hslot, _⟩ | ⟨hrunning, rfl, heq⟩
    · exact h.kept hslot rfl hsched fun _ _ _ _ => .inl rfl
    · refine h.worked (Slotted.busy_of_running hrunning) ?_ ?_ rfl rfl ?_ fun _ => ?_ <;> rw [heq]
      exact hslotted.not_pending hrunning
  | completeInput operation serial result hworker hkind =>
    have hheld : s.worker.held = some (operation, serial) := by rw [hworker]; rfl
    rcases hslotted.complete_cases hheld with ⟨hslot, _⟩ | ⟨hrunning, rfl, heq⟩
    · rcases takeResult_cases (s.owner.complete operation result) operation.ticket with
        ⟨_, htake⟩ | ⟨_, hcomplete, htake⟩
      · rw [htake] at hsched ⊢
        exact h.kept hslot rfl hsched fun _ _ _ _ => .inl rfl
      · rw [htake]
        refine .of_free ?_
        rw [hslot] at hcomplete
        obtain ⟨hpend, hrunning⟩ := hslotted.only_complete hcomplete
        rw [isBusy_eq_false_iff, hslot]
        exact ⟨hpend, hrunning, rfl⟩
    · exact .of_free (hslotted.completed_taken hrunning heq).2
  | dispatch action _ hdispatch =>
    obtain ⟨_, _, dispatcher, worker, rfl, _⟩ := dispatch_spec hlanes hdispatch
    exact h.kept rfl rfl hsched fun _ _ _ _ => .inl rfl

/-! ## Runs -/

/-- The slot is in order and attended. -/
structure Tended (s : TunnelRuntime) : Prop where
  lanes : Lanes s
  slotted : Slotted s
  attended : Attended s

theorem initial_tended : Tended initial where
  lanes := ⟨initial_sound, fun _ => nofun, fun _ => rfl⟩
  slotted := .of_free (by decide) rfl
  attended := .of_free rfl

theorem Lanes.apart (h : Lanes s) (happart : Apart s s') : Lanes s' := by
  refine ⟨happart.dispatcher ▸ h.sound, ?_⟩
  rw [happart.worker, happart.dispatcher]
  exact h.runs

theorem Tended.apart (h : Tended s) (happart : Apart s s') : Tended s' where
  lanes := h.lanes.apart happart
  slotted := h.slotted.congr happart.slot fun _ => by rw [happart.worker]
  attended := by
    refine h.attended.kept happart.slot happart.serial (fun hsched => .inl ?_) fun _ _ _ _ => .inl ?_
    · unfold Scheduled
      rw [happart.dispatcher, happart.worker]
      exact hsched
    · rw [happart.calls]

/-- A step keeps the slot attended when no request that is ignored is refused. -/
theorem Tended.step (h : Tended s) (hserved : RequestsServed s action)
    (hstep : s.step action = some s') : Tended s' := by
  obtain ⟨mid, hmove, happart⟩ := step_cases hstep
  have hmid : Tended mid := ⟨h.lanes.move hmove, h.slotted.move h.lanes hmove,
    h.attended.move h.lanes h.slotted hserved hmove⟩
  exact hmid.apart happart

/-- The runs in which no request that is ignored is refused while it is needed. -/
def servedCalls : Machine TunnelRuntime := .ofActions (fun s => s = initial) RequestsServed step

private theorem servedCalls_tended (h : servedCalls.Reachable s) : Tended s := by
  refine Machine.Reachable.invariant ?_ ?_ h
  · rintro _ rfl
    exact initial_tended
  · rintro s s' _ hs ⟨action, hserved, hstep⟩
    exact hs.step hserved hstep

/-- A packet that no thread holds is in the slot only while a run of the worker is scheduled. -/
theorem Tended.awaited (h : Tended s) (hbusy : s.owner.isBusy) (hawaited : Awaited s) :
    Scheduled s := by
  obtain ⟨hkind, hpend⟩ := hawaited
  by_cases hyes : s.owner.slot.pending
  · exact hpend hyes
  · have hrunning : s.owner.slot.running := by
      by_contra hno
      have hcomplete : s.owner.slot.complete := by
        unfold isBusy at hbusy
        rwa [eq_false_of_ne_true hyes, eq_false_of_ne_true hno, Bool.false_or, Bool.false_or]
          at hbusy
      exact h.slotted.complete hcomplete hkind
    obtain ⟨_, serial, hheld⟩ := h.slotted.running hrunning
    refine .inr ⟨?_, ?_⟩ <;> (intro hworker; rw [hworker] at hheld; cases hheld)

/-- While no request that is ignored is refused, an operation in the slot has a thread that holds its
ticket, or is a packet that the worker will take; and the latter is all there is between calls. -/
theorem adapter_slot_attended (h : servedCalls.Reachable s) :
    (s.owner.isBusy = true → (∃ thread, Holds s thread) ∨
      s.owner.slot.operation.kind = .inputPacket ∧ Scheduled s) ∧
      ((∀ thread, s.calls thread = .idle) → s.owner.isBusy = false ∨
        s.owner.slot.operation.kind = .inputPacket ∧ Scheduled s) := by
  have htended := servedCalls_tended h
  have hattended (hbusy : s.owner.isBusy = true) : (∃ thread, Holds s thread) ∨
      s.owner.slot.operation.kind = .inputPacket ∧ Scheduled s := by
    rcases htended.attended hbusy with ⟨thread, hholds, _⟩ | hawaited
    · exact .inl ⟨thread, hholds⟩
    · exact .inr ⟨hawaited.1, htended.awaited hbusy hawaited⟩
  refine ⟨hattended, fun hidle => ?_⟩
  cases hbusy : s.owner.isBusy with
  | false => exact .inl rfl
  | true =>
    refine .inr ((hattended hbusy).resolve_left ?_)
    rintro ⟨thread, purpose, queued, hheld, _⟩
    rw [hidle thread] at hheld
    cases hheld

/-! ### Examples -/

theorem Move.calls_of_ne (hmove : Move s action s') (hne : action.thread ≠ some thread) :
    s'.calls thread = s.calls thread := by
  have hother {own : Nat} (hown : action.thread = some own) : thread ≠ own := by
    rintro rfl
    exact hne hown
  cases hmove with
  | stay | check | complete | completeInput => rfl
  | walk own hown | issue own hown | close own hown | flush own hown | finish own hown =>
    exact update_of_ne (hother hown) ..
  | ask own | cancel own => exact update_of_ne (hother rfl) ..
  | take =>
    unfold takeNext
    split <;> rfl
  | execute operation serial execute lwip =>
    rw [(executeOperation_spec s operation serial execute lwip).2.2.1]
  | dispatch action _ hdispatch =>
    unfold TunnelRuntime.dispatch at hdispatch
    obtain ⟨d, _, hnext⟩ := Option.bind_eq_some_iff.mp hdispatch
    revert hnext
    cases action with
    | queue =>
      rintro ⟨⟩
      rfl
    | dequeue =>
      simp only
      split <;> (rintro ⟨⟩; rfl)
    | complete =>
      simp only
      split
      · split
        · rintro ⟨⟩
          rfl
        · exact nofun
      · rintro ⟨⟩
        rfl

def run (actions : List Action) : Option TunnelRuntime :=
  Machine.runActions (fun _ _ => True) step actions initial

/-- The reachable states of the daemon. -/
def tunnelCalls : Machine TunnelRuntime := .ofActions (fun s => s = initial) (fun _ _ => True) step

theorem run_reachable {actions : List Action} (h : run actions = some s) :
    tunnelCalls.Reachable s :=
  Machine.Reachable.of_runActions (.start rfl) h

/-- A run of one thread leaves the other threads idle. -/
theorem run_idle {actions : List Action} {allowed : TunnelRuntime → Action → Prop}
    [∀ s action, Decidable (allowed s action)]
    (h : Machine.runActions allowed step actions s = some s')
    (hactions : ∀ action ∈ actions, ∀ own ∈ action.thread, own = 0)
    (hstart : ∀ thread, thread ≠ 0 → s.calls thread = .idle) (hend : s'.calls 0 = .idle)
    (thread : Nat) : s'.calls thread = .idle := by
  by_cases hzero : thread = 0
  · rw [hzero]
    exact hend
  induction actions generalizing s with
  | nil =>
    cases h
    exact hstart thread hzero
  | cons action actions ih =>
    unfold Machine.runActions at h
    split at h
    · obtain ⟨next, hnext, hrest⟩ := Option.bind_eq_some_iff.mp h
      obtain ⟨mid, hmove, happart⟩ := step_cases hnext
      refine ih hrest (fun action hmem => hactions action (List.mem_cons_of_mem _ hmem))
        fun other hother => ?_
      rw [happart.calls, hmove.calls_of_ne fun hown =>
        hother (hactions action List.mem_cons_self other hown)]
      exact hstart other hother
    · cases h

/-- What lwIP does in the examples: everything succeeds, and a datagram makes one packet. -/
def sampleLwip : Lwip := ⟨true, true, true, true, .ok, [[69]], [], false, false⟩

def sampleWork (count : Nat) : List Action := List.replicate count (.work sampleLwip 0)

/-- A run of the worker: its work is taken, and ended when it has returned. -/
def sampleCallback (count : Nat) : List Action :=
  [.dispatch (.dequeue .submission)] ++ sampleWork count ++ [.dispatch (.complete .submission)]

def sampleProceed : Action := .proceed 0 true .success 0

/-- The peer of the examples is activated, and a client opens a flow. -/
def sampleOpening : List Action :=
  [.setActivePeer (some (⟨0, 1⟩, TunnelFlowPlane.samplePolicyInput.configuration)) 0,
    .createClient true 0,
    .openTunnelConnectedUdpFlow 0 TunnelFlowPlane.sampleClient TunnelFlowPlane.sampleRequest
      ⟨true, true⟩ 0, sampleProceed] ++ sampleCallback 9 ++ [sampleProceed, sampleProceed]

def sampleSend : Action :=
  .sendTunnelUdpDatagram 0 TunnelFlowPlane.sampleClient TunnelFlowPlane.sampleHandle 1 [7] true 0

theorem adapter_slot_attended_sample : ∃ s, servedCalls.Reachable s ∧
    (∀ thread, s.calls thread = .idle) ∧ s.owner.slot.generation = 3 ∧
    (s.owner.isBusy = false ∨ s.owner.slot.operation.kind = .inputPacket ∧ Scheduled s) := by
  obtain ⟨s, hrun, hfacts⟩ := Option.map_eq_some_iff.mp
    (show (Machine.runActions RequestsServed step (sampleOpening ++ [sampleSend, sampleProceed] ++
        sampleCallback 5 ++ [sampleProceed, sampleProceed]) initial).map
      (fun s => (s.calls 0, s.owner.slot.generation)) = some (.idle, 3) by decide +kernel)
  obtain ⟨hcall, hgen⟩ := Prod.mk.inj hfacts
  have hidle := run_idle hrun (by decide +kernel) (fun _ _ => rfl) hcall
  have hreach : servedCalls.Reachable s := Machine.Reachable.of_runActions (.start rfl) hrun
  exact ⟨s, hreach, hidle, hgen, (adapter_slot_attended hreach).2 hidle⟩

/-- Both other submissions wait when a datagram is sent, so the work of the adapter is refused.  The
thread does not look at the answer, waits for the lane and returns, and its operation stays. -/
theorem adapter_operation_orphaned : ∃ s, tunnelCalls.Reachable s ∧
    (∀ thread, s.calls thread = .idle) ∧ s.owner.isBusy = true ∧
    s.owner.slot.operation.kind = .sendDatagram ∧ ¬Scheduled s := by
  obtain ⟨s, hrun, hfacts⟩ := Option.map_eq_some_iff.mp
    (show (run (sampleOpening ++ [.dispatch (.queue .debugSubmission),
        .dispatch (.queue .innerSubmission), sampleSend, sampleProceed] ++ sampleCallback 0 ++
        sampleCallback 0 ++ [sampleProceed, sampleProceed])).map
      (fun s => (s.calls 0, s.owner.isBusy, s.owner.slot.operation.kind, decide (Scheduled s))) =
      some (.idle, true, .sendDatagram, false) by decide +kernel)
  obtain ⟨hcall, hbusy, hkind, hsched⟩ : s.calls 0 = .idle ∧ s.owner.isBusy = true ∧
      s.owner.slot.operation.kind = .sendDatagram ∧ decide (Scheduled s) = false := by
    simpa only [Prod.mk.injEq] using hfacts
  exact ⟨s, run_reachable hrun, run_idle hrun (by decide +kernel) (fun _ _ => rfl) hcall, hbusy, hkind,
    of_decide_eq_false hsched⟩

/-- Whatever the threads, the worker and the lanes do and whichever requests are refused, the slot
is never in two phases at once, its operation has the ticket that was given out last, the worker
holds the operation that runs, and it has a callback exactly while it works. -/
theorem adapter_slot_exclusive (h : tunnelCalls.Reachable s) :
    (s.owner.isBusy = true → s.owner.slot.operation.ticket = s.owner.slot.generation) ∧
    (s.owner.slot.pending = true →
      s.owner.slot.running = false ∧ s.owner.slot.complete = false) ∧
    (s.owner.slot.running = true → s.owner.slot.complete = false ∧
      ∃ serial, s.worker.held = some (s.owner.slot.operation, serial)) ∧
    (s.worker = .idle ↔ ¬AdapterRuns s.dispatcher) := by
  have hkept : Lanes s ∧ Slotted s := by
    refine Machine.Reachable.invariant (P := fun s => Lanes s ∧ Slotted s) ?_ ?_ h
    · rintro _ rfl
      exact ⟨initial_tended.lanes, initial_tended.slotted⟩
    · rintro s s' - ⟨hlanes, hslotted⟩ ⟨action, -, hstep⟩
      obtain ⟨mid, hmove, happart⟩ := step_cases hstep
      exact ⟨(hlanes.move hmove).apart happart, (hslotted.move hlanes hmove).congr happart.slot
        fun _ => by rw [happart.worker]⟩
  exact ⟨hkept.2.ticket, hkept.2.pending, hkept.2.running, hkept.1.runs⟩

/-- A datagram waits in the slot. -/
theorem adapter_slot_exclusive_sample : ∃ s, tunnelCalls.Reachable s ∧
    s.owner.slot.pending = true ∧ s.owner.slot.running = false := by
  obtain ⟨s, hrun, hpend⟩ := Option.map_eq_some_iff.mp
    (show (run (sampleOpening ++ [sampleSend])).map (·.owner.slot.pending) = some true by
      decide +kernel)
  have hreach := run_reachable hrun
  exact ⟨s, hreach, hpend, ((adapter_slot_exclusive hreach).2.1 hpend).1⟩

end WireguardNx.Runtime.TunnelRuntime
