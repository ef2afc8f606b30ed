import WireguardNx.Laws.AdapterSlot

/-!
# Tickets of the adapter and who holds them

Threads hold different operations, and all but the publishers of packets hold the one that is in the
slot: a packet is taken by the worker, so its publisher may hold a ticket of the past.  That stays
so while no thread cancels an operation of another, which only tickets that have come round could
make it do, and none that the worker needs.  Nothing keeps the daemon from the latter; it is an
assumption on steps (`ActsOwn`).
-/

namespace WireguardNx.Runtime

open Wireguard WireguardNx.Platform Tunnel Ip Function

/-- The operation for which the worker will look at the slot again: one that it is going to execute,
or a packet that it is going to deliver. -/
def AdapterWorker.needed : AdapterWorker → Option Operation
  | .taken operation _ | .checked operation _ true => some operation
  | .executed operation _ result =>
    if operation.kind = .inputPacket ∧ result = .success then some operation else none
  | .idle | .looping | .checked _ _ false | .returning => none

theorem AdapterWorker.held_of_needed {worker : AdapterWorker} {operation : Operation}
    (h : worker.needed = some operation) : ∃ serial, worker.held = some (operation, serial) := by
  cases worker with
  | idle | looping | returning => cases h
  | taken _ serial =>
    cases h
    exact ⟨serial, rfl⟩
  | checked _ serial execute =>
    cases execute <;> cases h
    exact ⟨serial, rfl⟩
  | executed _ serial result =>
    simp only [needed] at h
    split at h <;> cases h
    exact ⟨serial, rfl⟩

namespace TunnelRuntime

variable {purpose : CallPurpose} {thread : Nat} {queued : QueuedOperation} {call : TunnelCall}

variable {s s' mid : TunnelRuntime} {action : Action} {operation : Operation} {serial : Nat}

/-- Threads hold different operations; all but the publishers hold the one in the slot, for which
their purpose was. -/
structure Ticketed (s : TunnelRuntime) : Prop where
  bounded : ∀ thread purpose queued, (s.calls thread).held = some (purpose, queued) →
    queued.serial ≤ s.serial
  distinct : ∀ thread purpose queued thread' purpose' queued',
    (s.calls thread).held = some (purpose, queued) →
    (s.calls thread').held = some (purpose', queued') → queued'.serial = queued.serial →
      thread' = thread
  own : ∀ thread purpose queued, (s.calls thread).held = some (purpose, queued) →
    purpose ≠ .publish → s.owner.isBusy = true ∧ queued.serial = s.serial ∧
      queued.ticket = s.owner.slot.generation
  kind : ∀ thread purpose queued, (s.calls thread).held = some (purpose, queued) →
    queued.serial = s.serial → s.owner.isBusy = true →
      purpose.kind = s.owner.slot.operation.kind
  published : ∀ thread queued, s.calls thread ≠ .flushing .publish queued ∧
    s.calls thread ≠ .finishing .publish queued

/-- Threads that let go of their operation, or hold on to it. -/
def Keeps (s s' : TunnelRuntime) : Prop :=
  ∀ thread, ((s'.calls thread).held = none ∨ (s'.calls thread).held = (s.calls thread).held) ∧
    ∀ queued, s'.calls thread ≠ .flushing .publish queued ∧
      s'.calls thread ≠ .finishing .publish queued

theorem Keeps.held (h : Keeps s s') (hheld : (s'.calls thread).held = some (purpose, queued)) :
    (s.calls thread).held = some (purpose, queued) := by
  rcases (h thread).1 with hnone | hsame
  · rw [hnone] at hheld
    cases hheld
  · rw [← hsame]
    exact hheld

/-- Only publishers are left when the slot is emptied. -/
theorem Ticketed.freed (h : Ticketed s) (hkeeps : Keeps s s') (hserial : s'.serial = s.serial)
    (hfree : s'.owner.isBusy = false) (hpublish : ∀ thread purpose queued,
      (s'.calls thread).held = some (purpose, queued) → purpose = .publish) : Ticketed s' := by
  refine ⟨fun thread purpose queued hheld => ?_, fun thread purpose queued thread' purpose' queued'
    hheld hheld' heq => ?_, fun thread purpose queued hheld hnot => ?_, fun _ _ _ _ _ hbusy => ?_,
    fun thread queued => (hkeeps thread).2 queued⟩
  · rw [hserial]
    exact h.bounded thread purpose queued (hkeeps.held hheld)
  · exact h.distinct thread purpose queued thread' purpose' queued' (hkeeps.held hheld)
      (hkeeps.held hheld') heq
  · exact (hnot (hpublish thread purpose queued hheld)).elim
  · rw [hfree] at hbusy
    cases hbusy

/-- The slot keeps its operation. -/
theorem Ticketed.kept (h : Ticketed s) (hkeeps : Keeps s s') (hserial : s'.serial = s.serial)
    (hgen : s'.owner.slot.generation = s.owner.slot.generation)
    (hbusy : s'.owner.isBusy = s.owner.isBusy)
    (hoperation : s'.owner.slot.operation = s.owner.slot.operation) : Ticketed s' := by
  refine ⟨fun thread purpose queued hheld => ?_, fun thread purpose queued thread' purpose' queued'
    hheld hheld' heq => ?_, fun thread purpose queued hheld hnot => ?_,
    fun thread purpose queued hheld heq hyes => ?_, fun thread queued => (hkeeps thread).2 queued⟩
  · rw [hserial]
    exact h.bounded thread purpose queued (hkeeps.held hheld)
  · exact h.distinct thread purpose queued thread' purpose' queued' (hkeeps.held hheld)
      (hkeeps.held hheld') heq
  · rw [hserial, hgen, hbusy]
    exact h.own thread purpose queued (hkeeps.held hheld) hnot
  · rw [hoperation]
    exact h.kind thread purpose queued (hkeeps.held hheld) (heq.trans hserial) (hbusy ▸ hyes)

/-- No thread does anything. -/
theorem Ticketed.keeps (h : Ticketed s) (hcalls : s'.calls = s.calls) : Keeps s s' := by
  intro thread
  rw [hcalls]
  exact ⟨.inr rfl, fun queued => h.published thread queued⟩

/-- One thread goes on. -/
theorem Ticketed.keeps_update (h : Ticketed s) (hcalls : s'.calls = update s.calls thread call)
    (hheld : call.held = none ∨ call.held = (s.calls thread).held)
    (hpublished : ∀ queued, call ≠ .flushing .publish queued ∧ call ≠ .finishing .publish queued) :
    Keeps s s' := by
  intro other
  rw [hcalls]
  by_cases hne : other = thread
  · subst hne
    rw [update_self]
    exact ⟨hheld, hpublished⟩
  · rw [update_of_ne hne]
    exact ⟨.inr rfl, fun queued => h.published other queued⟩

/-- What holds no operation waits for none. -/
theorem unpublished_of_held (h : call.held = none) (queued : QueuedOperation) :
    call ≠ .flushing .publish queued ∧ call ≠ .finishing .publish queued := by
  constructor <;> rintro rfl <;> cases h

/-- A thread lets go of the operation in the slot: no other thread than a publisher holds any. -/
theorem Ticketed.let_go (h : Ticketed s) (hheld : (s.calls thread).held = some (purpose, queued))
    (hown : s.owner.isBusy → queued.serial = s.serial) (hafter : call.held = none)
    (hcalls : s'.calls = update s.calls thread call) (hserial : s'.serial = s.serial)
    (hfree : s'.owner.isBusy = false) : Ticketed s' := by
  have hkeeps := h.keeps_update hcalls (.inl hafter) (unpublished_of_held hafter)
  refine h.freed hkeeps hserial hfree fun other purpose' queued' hother => ?_
  by_contra hnot
  have hother' := hkeeps.held hother
  obtain ⟨hbusy, hlast, _⟩ := h.own other purpose' queued' hother' hnot
  have hsame := h.distinct thread purpose queued other purpose' queued' hheld hother'
    (hlast.trans (hown hbusy).symm)
  rw [hsame, hcalls, update_self, hafter] at hother
  cases hother

/-- A call cancels its own operation only, and not while the worker needs it. -/
def KeepsOperation (s : TunnelRuntime) : TunnelCall → Prop
  | .cancelling _ queued => s.owner.isBusy = true → queued.ticket = s.owner.slot.generation →
      queued.serial = s.serial ∧ (s.owner.slot.running = true → s.worker.needed = none)
  | _ => True

instance (s : TunnelRuntime) : (call : TunnelCall) → Decidable (KeepsOperation s call)
  | .cancelling _ queued => inferInstanceAs (Decidable (s.owner.isBusy = true →
      queued.ticket = s.owner.slot.generation →
        queued.serial = s.serial ∧ (s.owner.slot.running = true → s.worker.needed = none)))
  | .idle | .destroying _ | .stale _ | .asking _ _ | .closing _ _ _ | .flushing _ _
  | .finishing _ _ => instDecidableTrue

/-- A step cancels no operation but that of its thread, and none that the worker needs. -/
def ActsOwn (s : TunnelRuntime) : Action → Prop
  | .proceed thread _ _ _ => KeepsOperation s (s.calls thread)
  | _ => True

private theorem answered_held {purpose : CallPurpose} {queued : QueuedOperation} {rejected : Bool} :
    ((answered purpose queued rejected).held = none ∨
      (answered purpose queued rejected).held = some (purpose, queued)) ∧
      ∀ queued', answered purpose queued rejected ≠ .flushing .publish queued' ∧
        answered purpose queued rejected ≠ .finishing .publish queued' := by
  cases purpose <;> cases rejected <;>
    first
      | exact ⟨.inr rfl, fun _ => ⟨nofun, nofun⟩⟩
      | exact ⟨.inl rfl, fun _ => ⟨nofun, nofun⟩⟩

theorem Ticketed.issue (h : Ticketed s) {operation : Operation} {payload : List UInt8}
    (hkind : operation.kind = purpose.kind) (hfree : s.owner.isBusy = false) :
    Ticketed (s.issue thread purpose (s.owner.enqueue operation payload)) := by
  have hself : (s.issue thread purpose (s.owner.enqueue operation payload)).calls thread =
      .asking purpose ⟨s.owner.slot.generation, s.serial + 1⟩ := update_self ..
  have hother {other : Nat} (hne : other ≠ thread) :
      (s.issue thread purpose (s.owner.enqueue operation payload)).calls other = s.calls other :=
    update_of_ne hne ..
  -- A thread other than this one is a publisher with an earlier operation.
  have hearlier {other : Nat} {purpose' : CallPurpose} {queued' : QueuedOperation}
      (hne : other ≠ thread) (hheld : ((s.issue thread purpose
        (s.owner.enqueue operation payload)).calls other).held = some (purpose', queued')) :
      queued'.serial ≤ s.serial ∧ purpose' = .publish := by
    rw [hother hne] at hheld
    refine ⟨h.bounded other purpose' queued' hheld, ?_⟩
    by_contra hnot
    have hbusy := (h.own other purpose' queued' hheld hnot).1
    rw [hfree] at hbusy
    cases hbusy
  have hnew {purpose' : CallPurpose} {queued' : QueuedOperation} (hheld : ((s.issue thread purpose
      (s.owner.enqueue operation payload)).calls thread).held = some (purpose', queued')) :
      purpose' = purpose ∧ queued' = ⟨s.owner.slot.generation, s.serial + 1⟩ := by
    rw [hself] at hheld
    cases hheld
    exact ⟨rfl, rfl⟩
  refine ⟨fun other purpose' queued' hheld => ?_, fun one purpose' queued' two purpose'' queued''
    hone htwo heq => ?_, fun other purpose' queued' hheld hnot => ?_,
    fun other purpose' queued' hheld heq _ => ?_, fun other queued' => ?_⟩
  · by_cases hne : other = thread
    · subst hne
      rw [(hnew hheld).2]
      exact le_rfl
    · exact (hearlier hne hheld).1.trans (Nat.le_succ _)
  · by_cases hone' : one = thread <;> by_cases htwo' : two = thread
    · rw [hone', htwo']
    · subst hone'
      rw [(hnew hone).2] at heq
      have hle := (hearlier htwo' htwo).1
      rw [heq] at hle
      exact (Nat.not_succ_le_self _ hle).elim
    · subst htwo'
      rw [(hnew htwo).2] at heq
      have hle := (hearlier hone' hone).1
      rw [← heq] at hle
      exact (Nat.not_succ_le_self _ hle).elim
    · rw [hother hone'] at hone
      rw [hother htwo'] at htwo
      exact h.distinct one purpose' queued' two purpose'' queued'' hone htwo heq
  · by_cases hne : other = thread
    · subst hne
      obtain ⟨rfl, rfl⟩ := hnew hheld
      exact ⟨rfl, rfl, rfl⟩
    · exact (hnot (hearlier hne hheld).2).elim
  · by_cases hne : other = thread
    · subst hne
      obtain ⟨rfl, rfl⟩ := hnew hheld
      exact hkind.symm
    · have hle := (hearlier hne hheld).1
      rw [heq] at hle
      exact (Nat.not_succ_le_self _ hle).elim
  · by_cases hne : other = thread
    · subst hne
      rw [hself]
      exact ⟨nofun, nofun⟩
    · rw [hother hne]
      exact h.published other queued'

/-- Taking a result empties the slot, or does nothing. -/
theorem Slotted.takeResult_isBusy (h : Slotted s) (ticket : OperationTicket) :
    (s.owner.takeResult ticket).2 = s.owner ∨
      ticket = s.owner.slot.generation ∧ (s.owner.takeResult ticket).2.isBusy = false := by
  rcases takeResult_cases s.owner ticket with ⟨_, htake⟩ | ⟨hticket, hcomplete, htake⟩
  · rw [htake]
    exact .inl rfl
  · rw [htake]
    exact .inr ⟨hticket, h.takeResult_free hcomplete _⟩

/-! ## What the worker has taken -/

/-- The worker has the operation that is marked as running, and needs no other one of the slot.  One
that it does not need may have been cancelled: then the slot holds nothing, or an operation that
waits. -/
structure Taken (s : TunnelRuntime) : Prop where
  running : s.owner.slot.running = true → s.worker.held = some (s.owner.slot.operation, s.serial)
  needed : ∀ operation, s.worker.needed = some operation → operation.ticket ≠ 0 →
    s.owner.slot.running = true
  complete : ∀ operation serial, s.worker.held = some (operation, serial) → operation.ticket ≠ 0 →
    s.owner.slot.complete = false
  control : ∀ operation serial, s.worker.held = some (operation, serial) → operation.ticket = 0 →
    IsControl operation

theorem Taken.of_none (hslotted : Slotted s) (hnone : s.worker.held = none) : Taken s := by
  refine ⟨fun hrunning => ?_, fun operation hneeded => ?_, ?_, ?_⟩
  · rw [hslotted.not_running hnone] at hrunning
    cases hrunning
  · obtain ⟨_, hheld⟩ := AdapterWorker.held_of_needed hneeded
    rw [hnone] at hheld
    cases hheld
  all_goals
    rw [hnone]
    exact nofun

theorem Taken.congr (h : Taken s) (hslot : s'.owner.slot = s.owner.slot)
    (hserial : s'.serial = s.serial) (hheld : s'.worker.held = s.worker.held)
    (hneeded : ∀ operation, s'.worker.needed = some operation → s.worker.needed = some operation) :
    Taken s' := by
  refine ⟨?_, fun operation hneeds => ?_, ?_, ?_⟩
  · rw [hslot, hserial, hheld]
    exact h.running
  · rw [hslot]
    exact h.needed operation (hneeded operation hneeds)
  · rw [hslot, hheld]
    exact h.complete
  · rw [hheld]
    exact h.control

theorem Taken.eq (h : Taken s) (hrunning : s.owner.slot.running)
    (hheld : s.worker.held = some (operation, serial)) :
    operation = s.owner.slot.operation ∧ serial = s.serial :=
  Prod.ext_iff.mp (Option.some.inj (hheld.symm.trans (h.running hrunning)))

/-- Nothing in the slot runs or is complete any more, and the worker did not need it. -/
theorem Taken.stopped (h : Taken s) (hworker : s'.worker = s.worker)
    (hrunning : s'.owner.slot.running = false) (hcomplete : s'.owner.slot.complete = false)
    (hneeded : s.owner.slot.running = true → s.worker.needed = none) : Taken s' := by
  refine ⟨fun hyes => ?_, fun operation hneeds hticket => ?_, fun _ _ _ _ => hcomplete,
    hworker ▸ h.control⟩
  · rw [hrunning] at hyes
    cases hyes
  · rw [hworker] at hneeds
    rw [hneeded (h.needed operation hneeds hticket)] at hneeds
    cases hneeds

/-- An executed packet is the one in the slot, or it was cancelled and is not delivered: completing
it then changes nothing. -/
theorem Taken.input_cases (h : Taken s) (hslotted : Slotted s)
    {result : UserspaceIpResult} (hworker : s.worker = .executed operation serial result)
    (hkind : operation.kind = .inputPacket) :
    (s.owner.slot.running ∧ operation = s.owner.slot.operation ∧ serial = s.serial) ∨
      result ≠ .success ∧ (s.owner.complete operation result).slot = s.owner.slot ∧
        ((s.owner.complete operation result).takeResult operation.ticket).2 =
          s.owner.complete operation result := by
  have hheld : s.worker.held = some (operation, serial) := by rw [hworker]; rfl
  have hticket : operation.ticket ≠ 0 := fun hzero => (h.control _ _ hheld hzero).kind_ne hkind
  rcases hslotted.complete_cases hheld with ⟨hslot, hstopped⟩ | ⟨hrunning, _⟩
  · refine .inr ⟨?_, hslot, ?_⟩
    · rintro rfl
      have hneeded : s.worker.needed = some operation := by
        rw [hworker]
        exact if_pos ⟨hkind, rfl⟩
      rw [h.needed operation hneeded hticket] at hstopped
      cases hstopped
    · rcases takeResult_cases (s.owner.complete operation result) operation.ticket with
        ⟨_, htake⟩ | ⟨_, hcomplete, _⟩
      · rw [htake]
      · rw [hslot, h.complete operation serial hheld hticket] at hcomplete
        cases hcomplete
  · exact .inl ⟨hrunning, h.eq hrunning hheld⟩

theorem Taken.take (h : Slotted s) (hworker : s.worker = .looping) : Taken s.takeNext := by
  have hstopped : s.owner.slot.running = false := h.not_running (by rw [hworker]; rfl)
  have hslotted := h.take hworker
  revert hslotted
  rcases takeNext_cases s.owner with ⟨hnone, _⟩ | ⟨operation, owner, hsome, hcontrol, hslot, _⟩ |
    ⟨hpend, hsome⟩ <;> unfold takeNext
  · rw [hnone]
    exact fun hslotted => .of_none hslotted rfl
  · rw [hsome]
    refine fun _ => ⟨fun hrunning => ?_, ?_, ?_, ?_⟩
    · rw [← hslot] at hstopped
      cases hstopped.symm.trans hrunning
    · rintro _ ⟨⟩ hticket
      exact (hticket hcontrol.1).elim
    · rintro _ _ ⟨⟩ hticket
      exact (hticket hcontrol.1).elim
    · rintro _ _ ⟨⟩ _
      exact hcontrol
  · rw [hsome]
    refine fun _ => ⟨fun _ => rfl, fun _ _ _ => rfl, fun _ _ _ _ => (h.pending hpend).2, ?_⟩
    rintro _ _ ⟨⟩ hzero
    exact (h.generation (h.ticket (Slotted.busy_of_pending hpend) ▸ hzero)).elim

theorem Taken.execute (h : Taken s) {execute : Bool}
    (hworker : s.worker = .checked operation serial execute) (lwip : Lwip) :
    Taken (s.executeOperation operation serial execute lwip) := by
  obtain ⟨hslot, _, _, hserial, result, hexecuted⟩ :=
    executeOperation_spec s operation serial execute lwip
  refine h.congr hslot hserial (by rw [hexecuted, hworker]; rfl) ?_
  rw [hworker]
  unfold executeOperation
  split
  · intro operation' hneeds
    have hstale : (AdapterWorker.executed operation serial .stale).needed = none :=
      if_neg fun hsuccess => nomatch hsuccess.2
    cases hstale.symm.trans hneeds
  · rename_i hexecute
    rw [Bool.eq_true_of_not_eq_false hexecute]
    intro operation' hneeds
    obtain ⟨_, ⟨⟩⟩ := AdapterWorker.held_of_needed hneeds
    rfl

theorem Taken.move (h : Taken s) (hlanes : Lanes s) (hslotted : Slotted s) (hown : ActsOwn s action)
    (hmove : Move s action s') : Taken s' := by
  have hslotted' := hslotted.move hlanes hmove
  cases hmove with
  | stay => exact h
  | walk | ask | close | flush => exact h.congr rfl rfl rfl fun _ => id
  | issue thread hthread purpose operation payload hbefore hkind hpayload hfree =>
    obtain ⟨_, hrunning, hcomplete⟩ := isBusy_eq_false_iff.mp hfree
    refine h.stopped rfl hrunning hcomplete fun hyes => ?_
    rw [hrunning] at hyes
    cases hyes
  | cancel thread purpose queued available submission now call hcall hafter =>
    rcases cancel_cases s.owner queued.ticket with ⟨_, hsame⟩ | ⟨hticket, hfree, _⟩
    · exact h.congr (congrArg UserspaceIpAdapterOwner.slot hsame) rfl rfl fun _ => id
    · obtain ⟨_, hrunning, hcomplete⟩ := isBusy_eq_false_iff.mp hfree
      have hkeeps : KeepsOperation s (s.calls thread) := hown
      rw [hcall] at hkeeps
      exact h.stopped rfl hrunning hcomplete fun hyes =>
        (hkeeps (Slotted.busy_of_running hyes) hticket).2 hyes
  | finish thread hthread purpose queued call hcall hafter =>
    rcases takeResult_cases s.owner queued.ticket with ⟨_, htake⟩ | ⟨_, hcomplete, htake⟩
    · exact h.congr (by rw [htake]; rfl) rfl rfl fun _ => id
    · have hrunning := (hslotted.only_complete hcomplete).2
      rw [htake]
      refine h.stopped rfl hrunning rfl fun hyes => ?_
      rw [hrunning] at hyes
      cases hyes
  | take hworker => exact .take hslotted hworker
  | check operation serial execute hworker =>
    refine h.congr rfl rfl (by rw [hworker]; rfl) fun operation' hneeds => ?_
    obtain ⟨_, ⟨⟩⟩ := AdapterWorker.held_of_needed hneeds
    rw [hworker]
    rfl
  | execute operation serial execute lwip now hworker => exact h.execute hworker lwip
  | complete | completeInput => exact .of_none hslotted' rfl
  | dispatch action _ hdispatch =>
    obtain ⟨_, _, dispatcher, worker, rfl, hworker⟩ := dispatch_spec hlanes hdispatch
    rcases hworker with rfl | ⟨_, rfl⟩ | ⟨_, rfl⟩
    · exact h.congr rfl rfl rfl fun _ => id
    · exact .of_none hslotted' rfl
    · exact .of_none hslotted' rfl

theorem Ticketed.move (h : Ticketed s) (hlanes : Lanes s) (hslotted : Slotted s)
    (htaken : Taken s) (hown : ActsOwn s action) (hmove : Move s action s') : Ticketed s' := by
  cases hmove with
  | stay => exact h
  | walk thread hthread call hbefore hafter =>
    exact h.kept (h.keeps_update rfl (.inl hafter) (unpublished_of_held hafter)) rfl rfl rfl rfl
  | issue thread hthread purpose operation payload hbefore hkind hpayload hfree =>
    exact h.issue hkind hfree
  | ask thread purpose queued available submission now hcall =>
    obtain ⟨⟨rejected, hanswered, _⟩, _⟩ :=
      askForWork_scheduled hlanes thread purpose queued available
    have hcalls : (s.askForWork thread purpose queued available).calls =
        update s.calls thread (answered purpose queued rejected) := by
      rw [← hanswered]
      unfold askForWork resume
      simp only [update_self]
    obtain ⟨hheld, hpublished⟩ := answered_held
    refine h.kept (h.keeps_update hcalls (hheld.imp_right fun heq => ?_) hpublished) rfl rfl rfl rfl
    rw [heq, hcall]
    rfl
  | cancel thread purpose queued available submission now call hcall hafter =>
    have hheld : (s.calls thread).held = some (purpose, queued) := by rw [hcall]; rfl
    rcases cancel_cases s.owner queued.ticket with ⟨_, hsame⟩ | ⟨hticket, hfree, _⟩
    · rw [hsame]
      exact h.kept (h.keeps_update rfl (.inl hafter) (unpublished_of_held hafter)) rfl rfl rfl rfl
    · refine h.let_go hheld (fun hbusy => ?_) hafter rfl rfl hfree
      have hkeeps : KeepsOperation s (s.calls thread) := hown
      rw [hcall] at hkeeps
      exact (hkeeps hbusy hticket).1
  | close thread hthread client handle queued hcall =>
    refine h.kept (h.keeps_update rfl (.inr ?_) fun _ => ⟨nofun, nofun⟩) rfl rfl rfl rfl
    rw [hcall]
    rfl
  | flush thread hthread purpose queued hcall hflushed =>
    refine h.kept (h.keeps_update rfl (.inr ?_) fun queued' => ⟨nofun, fun heq => ?_⟩) rfl rfl rfl rfl
    · rw [hcall]
      rfl
    · cases heq
      exact (h.published thread queued).1 hcall
  | finish thread hthread purpose queued call hcall hafter =>
    have hheld : (s.calls thread).held = some (purpose, queued) := by rw [hcall]; rfl
    rcases hslotted.takeResult_isBusy queued.ticket with hsame | ⟨_, hfree⟩
    · rw [hsame]
      exact h.kept (h.keeps_update rfl (.inl hafter) (unpublished_of_held hafter)) rfl rfl rfl rfl
    · refine h.let_go hheld (fun _ => ?_) hafter rfl rfl hfree
      refine (h.own thread purpose queued hheld ?_).2.1
      rintro rfl
      exact (h.published thread queued).2 hcall
  | take hworker =>
    rcases takeNext_cases s.owner with ⟨hnone, _⟩ | ⟨operation, owner, hsome, _, hslot, _⟩ |
      ⟨hpend, hsome⟩ <;> unfold takeNext
    · rw [hnone]
      exact h.kept (h.keeps rfl) rfl rfl rfl rfl
    · rw [hsome]
      exact h.kept (h.keeps rfl) rfl (by rw [hslot]) (isBusy_congr hslot) (by rw [hslot])
    · rw [hsome]
      refine h.kept (h.keeps rfl) rfl rfl ?_ rfl
      rw [Slotted.busy_of_pending hpend]
      rfl
  | check operation serial execute hworker =>
    exact h.kept (h.keeps rfl) rfl rfl rfl rfl
  | execute operation serial execute lwip now hworker =>
    obtain ⟨hslot, _, hcalls, hserial, _⟩ := executeOperation_spec s operation serial execute lwip
    exact h.kept (h.keeps hcalls) hserial (by rw [hslot]) (isBusy_congr hslot) (by rw [hslot])
  | complete operation serial result hworker hkind =>
    have hheld : s.worker.held = some (operation, serial) := by rw [hworker]; rfl
    rcases hslotted.complete_cases hheld with ⟨hslot, _⟩ | ⟨hrunning, _, heq⟩
    · exact h.kept (h.keeps rfl) rfl (by rw [hslot]) (isBusy_congr hslot) (by rw [hslot])
    · refine h.kept (h.keeps rfl) rfl ?_ ?_ ?_ <;> rw [heq]
      rw [Slotted.busy_of_running hrunning]
      unfold UserspaceIpAdapterOwner.isBusy
      exact Bool.or_true _
  | completeInput operation serial result hworker hkind =>
    have hheld : s.worker.held = some (operation, serial) := by rw [hworker]; rfl
    rcases htaken.input_cases hslotted hworker hkind with ⟨hrunning, rfl, _⟩ | ⟨_, hslot, hsame⟩
    · have heq := hslotted.complete_of_running hheld hrunning result
      -- The packet was published, so no other call holds it.
      refine h.freed (h.keeps rfl) rfl (hslotted.completed_taken hrunning heq).2
        fun thread purpose queued hcall => ?_
      by_contra hnot
      obtain ⟨hbusy, hlast, _⟩ := h.own thread purpose queued hcall hnot
      have hsame := (h.kind thread purpose queued hcall hlast hbusy).trans hkind
      revert hsame hnot
      cases purpose <;> first | exact fun hnot _ => hnot rfl | exact nofun
    · rw [hsame]
      exact h.kept (h.keeps rfl) rfl (by rw [hslot]) (isBusy_congr hslot) (by rw [hslot])
  | dispatch action _ hdispatch =>
    obtain ⟨_, _, dispatcher, worker, rfl, _⟩ := dispatch_spec hlanes hdispatch
    exact h.kept (h.keeps rfl) rfl rfl rfl rfl

/-! ## Together -/

/-- The slot is in order, and its operation is that of the threads and the worker that hold it. -/
structure Owned (s : TunnelRuntime) : Prop where
  lanes : Lanes s
  slotted : Slotted s
  ticketed : Ticketed s
  taken : Taken s

theorem initial_owned : Owned initial where
  lanes := initial_tended.lanes
  slotted := initial_tended.slotted
  ticketed := ⟨fun _ _ _ h => (nomatch h), fun _ _ _ _ _ _ h => (nomatch h),
    fun _ _ _ h => (nomatch h), fun _ _ _ h => (nomatch h), fun _ _ => ⟨nofun, nofun⟩⟩
  taken := .of_none initial_tended.slotted rfl

theorem Owned.apart (h : Owned s) (happart : Apart s s') : Owned s' where
  lanes := h.lanes.apart happart
  slotted := h.slotted.congr happart.slot fun _ => by rw [happart.worker]
  ticketed := h.ticketed.kept (h.ticketed.keeps happart.calls) happart.serial (by rw [happart.slot])
    (isBusy_congr happart.slot) (by rw [happart.slot])
  taken := h.taken.congr happart.slot happart.serial (by rw [happart.worker])
    fun _ => by rw [happart.worker]; exact id

theorem Owned.move (h : Owned s) (hown : ActsOwn s action)
    (hmove : Move s action s') : Owned s' where
  lanes := h.lanes.move hmove
  slotted := h.slotted.move h.lanes hmove
  ticketed := h.ticketed.move h.lanes h.slotted h.taken hown hmove
  taken := h.taken.move h.lanes h.slotted hown hmove

end TunnelRuntime

end WireguardNx.Runtime
