import WireguardNx.Laws.AdapterTickets

/-!
# Operations of the adapter keep their payload and their result

The worker copies the description of an operation when it takes it, but reads the payload from the
slot when it executes it, and the packets that a datagram made stay in the adapter until they are
read.  So an operation that is cancelled while the worker needs it can be executed with the payload
of the next one, and a reset can clear the packets of a datagram before they are read.  Where
neither happens, the history of the operations is faithful: each is executed once and with its own
payload, and what is read with its ticket is its own.

`OperationsKept` states that neither happens as a condition on the steps; the daemon itself does not
see to it.
-/

namespace WireguardNx.Runtime

open Wireguard WireguardNx.Platform Tunnel Ip UserspaceIpAdapterOwner List

/-- Whether something was read. -/
def AdapterEvent.isReading : AdapterEvent → Bool
  | .resultRead _ _ | .packetsRead _ _ | .inputRead _ _ _ => true
  | .queued _ _ _ | .executed _ _ _ _ _ _ => false

/-- The worker has an operation of the slot that it has not executed. -/
def AdapterWorker.Unexecuted (worker : AdapterWorker) : Prop :=
  ∃ operation serial, operation.ticket ≠ 0 ∧
    (worker = .taken operation serial ∨ ∃ execute, worker = .checked operation serial execute)

/-- A worker that has executed its operation, or has none. -/
theorem AdapterWorker.not_unexecuted {worker : AdapterWorker}
    (h : ∀ operation serial, worker ≠ .taken operation serial ∧
      ∀ execute, worker ≠ .checked operation serial execute) : ¬worker.Unexecuted := by
  rintro ⟨operation, serial, _, heq | ⟨execute, heq⟩⟩
  · exact (h operation serial).1 heq
  · exact (h operation serial).2 execute heq

/-- The worker stays where it is, or has nothing. -/
def AdapterWorker.Rests (worker worker' : AdapterWorker) : Prop :=
  worker' = worker ∨ worker'.held = none

namespace AdapterWorker.Rests

variable {worker worker' : AdapterWorker}

theorem eq (h : worker.Rests worker') {other : AdapterWorker} (heq : worker' = other)
    (hheld : other.held ≠ none) : worker = other := by
  rcases h with hsame | hnone
  · exact hsame.symm.trans heq
  · rw [heq] at hnone
    exact (hheld hnone).elim

theorem unexecuted (h : worker.Rests worker') (hworker : worker'.Unexecuted) :
    worker.Unexecuted := by
  obtain ⟨operation, serial, hticket, hunexecuted⟩ := hworker
  refine ⟨operation, serial, hticket, hunexecuted.imp (fun heq => h.eq heq nofun) ?_⟩
  exact fun ⟨execute, heq⟩ => ⟨execute, h.eq heq nofun⟩

end AdapterWorker.Rests

namespace TunnelRuntime

variable {s s' mid : TunnelRuntime} {action : Action} {owner : UserspaceIpAdapterOwner}

/-! ## Faithful histories -/

/-- What an event rests on: an execution on the operation that was queued with its payload, and a
reading on the execution of the same operation. -/
def Recorded (log : List AdapterEvent) : AdapterEvent → Prop
  | .queued _ _ _ => True
  | .executed serial operation payload _ _ _ => .queued serial operation payload ∈ log
  | .resultRead serial result => ∃ operation payload packets datagrams,
      .executed serial operation payload result packets datagrams ∈ log
  | .packetsRead serial packets => ∃ operation payload datagrams, operation.kind = .sendDatagram ∧
      .executed serial operation payload .success packets datagrams ∈ log
  | .inputRead serial packet datagrams => ∃ operation packets, operation.kind = .inputPacket ∧
      .executed serial operation packet .success packets datagrams ∈ log

/-- Every event rests on others, an operation is queued once, and executed at most once. -/
structure Faithful (log : List AdapterEvent) : Prop where
  recorded : ∀ event ∈ log, Recorded log event
  queuedOnce : ∀ {serial operation payload operation' payload'},
    .queued serial operation payload ∈ log → .queued serial operation' payload' ∈ log →
      operation' = operation ∧ payload' = payload
  executedOnce : ∀ {serial operation payload result packets datagrams operation' payload' result'
      packets' datagrams'}, .executed serial operation payload result packets datagrams ∈ log →
    .executed serial operation' payload' result' packets' datagrams' ∈ log →
      AdapterEvent.executed serial operation' payload' result' packets' datagrams' =
        .executed serial operation payload result packets datagrams

/-- An event that rests on a history rests on a longer one. -/
theorem Recorded.mono {log longer : List AdapterEvent} {event : AdapterEvent}
    (h : Recorded log event) (hsub : ∀ event ∈ log, event ∈ longer) : Recorded longer event := by
  cases event with
  | queued => exact trivial
  | executed => exact hsub _ h
  | resultRead =>
    obtain ⟨operation, payload, packets, datagrams, hmem⟩ := h
    exact ⟨operation, payload, packets, datagrams, hsub _ hmem⟩
  | packetsRead =>
    obtain ⟨operation, payload, datagrams, hkind, hmem⟩ := h
    exact ⟨operation, payload, datagrams, hkind, hsub _ hmem⟩
  | inputRead =>
    obtain ⟨operation, packets, hkind, hmem⟩ := h
    exact ⟨operation, packets, hkind, hsub _ hmem⟩

theorem Faithful.nil : Faithful [] :=
  ⟨nofun, nofun, nofun⟩

section Append

variable {log : List AdapterEvent} {serial : Nat} {operation : Operation} {payload : List UInt8}
  {result : UserspaceIpResult} {packets : List (List UInt8)} {datagrams : List UserspaceIpDatagram}

/-- Readings that rest on a history may be added to it. -/
theorem Faithful.append_readings (h : Faithful log) {events : List AdapterEvent}
    (hreadings : ∀ event ∈ events, event.isReading ∧ Recorded log event) :
    Faithful (log ++ events) := by
  have hold {event : AdapterEvent} (hmem : event ∈ log ++ events)
      (hnot : event.isReading = false) : event ∈ log := by
    rcases mem_append.mp hmem with hold | hnew
    · exact hold
    · rw [(hreadings event hnew).1] at hnot
      cases hnot
  refine ⟨fun event hmem => ?_, fun hone hother => ?_, fun hone hother => ?_⟩
  · have hrecorded : Recorded log event := by
      rcases mem_append.mp hmem with hold | hnew
      · exact h.recorded event hold
      · exact (hreadings event hnew).2
    exact hrecorded.mono fun _ => mem_append_left events
  · exact h.queuedOnce (hold hone rfl) (hold hother rfl)
  · exact h.executedOnce (hold hone rfl) (hold hother rfl)

/-- An operation with a new number may be queued. -/
theorem Faithful.append_queued (h : Faithful log)
    (hnew : ∀ operation payload, AdapterEvent.queued serial operation payload ∉ log) :
    Faithful (log ++ [.queued serial operation payload]) := by
  refine ⟨fun event hmem => ?_, fun hone hother => ?_, fun hone hother => ?_⟩
  · rcases mem_append.mp hmem with hold | hlast
    · exact (h.recorded event hold).mono fun _ => mem_append_left _
    · rw [mem_singleton.mp hlast]
      exact trivial
  · rcases mem_append.mp hone with hone | hone <;>
      rcases mem_append.mp hother with hother | hother
    · exact h.queuedOnce hone hother
    · cases mem_singleton.mp hother
      exact (hnew _ _ hone).elim
    · cases mem_singleton.mp hone
      exact (hnew _ _ hother).elim
    · cases mem_singleton.mp hone
      cases mem_singleton.mp hother
      exact ⟨rfl, rfl⟩
  · have hold {event : AdapterEvent} (hmem : event ∈ log ++ [.queued serial operation payload])
        (hnot : event ≠ .queued serial operation payload) : event ∈ log :=
      (mem_append.mp hmem).resolve_right fun hlast => hnot (mem_singleton.mp hlast)
    exact h.executedOnce (hold hone nofun) (hold hother nofun)

/-- A queued operation may be executed when it was not. -/
theorem Faithful.append_executed (h : Faithful log)
    (hqueued : .queued serial operation payload ∈ log)
    (hnew : ∀ operation payload result packets datagrams,
      AdapterEvent.executed serial operation payload result packets datagrams ∉ log) :
    Faithful (log ++ [.executed serial operation payload result packets datagrams]) := by
  have hold {event : AdapterEvent}
      (hmem : event ∈ log ++ [.executed serial operation payload result packets datagrams])
      (hnot : event ≠ .executed serial operation payload result packets datagrams) : event ∈ log :=
    (mem_append.mp hmem).resolve_right fun hlast => hnot (mem_singleton.mp hlast)
  refine ⟨fun event hmem => ?_, fun hone hother => ?_, fun hone hother => ?_⟩
  · rcases mem_append.mp hmem with hold | hlast
    · exact (h.recorded event hold).mono fun _ => mem_append_left _
    · rw [mem_singleton.mp hlast]
      exact mem_append_left _ hqueued
  · exact h.queuedOnce (hold hone nofun) (hold hother nofun)
  · rcases mem_append.mp hone with hone | hone <;>
      rcases mem_append.mp hother with hother | hother
    · exact h.executedOnce hone hother
    · cases mem_singleton.mp hother
      exact (hnew _ _ _ _ _ hone).elim
    · cases mem_singleton.mp hone
      exact (hnew _ _ _ _ _ hother).elim
    · exact (mem_singleton.mp hother).trans (mem_singleton.mp hone).symm

end Append

/-! ## The history and the slot -/

/-- No operation of a number was executed. -/
def Unexecuted (log : List AdapterEvent) (serial : Nat) : Prop :=
  ∀ operation payload result packets datagrams,
    AdapterEvent.executed serial operation payload result packets datagrams ∉ log

/-- The history says how the operation in the slot came there and how far it has come. -/
structure Logged (s : TunnelRuntime) : Prop where
  faithful : Faithful s.log
  queued : s.owner.isBusy = true →
    .queued s.serial s.owner.slot.operation s.owner.slot.payload ∈ s.log
  numbered : ∀ serial operation payload, .queued serial operation payload ∈ s.log →
    serial ≤ s.serial
  ran : ∀ serial, s.serial < serial → Unexecuted s.log serial
  fresh : s.owner.slot.pending = true ∨ s.worker.Unexecuted →
    Unexecuted s.log s.serial
  done : ∀ operation serial result, s.worker = .executed operation serial result →
    operation.ticket ≠ 0 → s.owner.slot.running = true →
      (result = .stale ∧ operation.kind = .inputPacket) ∨
        .executed serial operation s.owner.slot.payload result s.owner.adapter.outboundPackets
          s.owner.adapter.inboundDatagrams ∈ s.log
  completed : s.owner.slot.complete = true → ∃ packets datagrams,
    .executed s.serial s.owner.slot.operation s.owner.slot.payload s.owner.slot.result packets
      datagrams ∈ s.log ∧
    (s.owner.slot.operation.kind = .sendDatagram → s.owner.slot.result = .success →
      packets = s.owner.adapter.outboundPackets)
  packet : s.owner.isBusy = true → s.owner.slot.operation.kind = .inputPacket →
    s.owner.slot.payload ≠ []
  skipped : ∀ operation serial, s.worker = .checked operation serial false →
    operation.kind = .inputPacket

variable {operation : Operation} {serial : Nat} {result : UserspaceIpResult}

theorem Unexecuted.mono {log : List AdapterEvent} (h : Unexecuted log serial)
    {events : List AdapterEvent} (hevents : ∀ event ∈ events, event.isReading ∨
      ∃ serial operation payload, event = .queued serial operation payload) :
    Unexecuted (log ++ events) serial := by
  intro operation payload result packets datagrams hmem
  rcases mem_append.mp hmem with hold | hnew
  · exact h operation payload result packets datagrams hold
  · rcases hevents _ hnew with hreading | ⟨_, _, _, heq⟩
    · cases hreading
    · cases heq

/-- What has no part in the slot, the adapter and the history. -/
theorem Logged.congr (h : Logged s) (hslot : s'.owner.slot = s.owner.slot)
    (hadapter : s'.owner.adapter = s.owner.adapter) (hserial : s'.serial = s.serial)
    (hlog : s'.log = s.log) (hworker : s.worker.Rests s'.worker) : Logged s' := by
  have hbusy := isBusy_congr hslot
  refine ⟨hlog ▸ h.faithful, ?_, ?_, ?_, ?_, ?_, ?_, ?_, ?_⟩
  · rw [hbusy, hslot, hserial, hlog]
    exact h.queued
  · rw [hserial, hlog]
    exact h.numbered
  · rw [hserial, hlog]
    exact h.ran
  · rw [hslot, hserial, hlog]
    exact fun hnew => h.fresh (hnew.imp_right hworker.unexecuted)
  · intro operation serial result heq hticket
    rw [hslot, hadapter, hlog]
    exact h.done operation serial result (hworker.eq heq nofun) hticket
  · rw [hslot, hserial, hlog, hadapter]
    exact h.completed
  · rw [hbusy, hslot]
    exact h.packet
  · exact fun operation serial heq => h.skipped operation serial (hworker.eq heq nofun)

/-- The slot is emptied, and something may be read. -/
theorem Logged.freed (h : Logged s) {events : List AdapterEvent}
    (hreadings : ∀ event ∈ events, event.isReading ∧ Recorded s.log event)
    (hfree : s'.owner.isBusy = false) (hserial : s'.serial = s.serial)
    (hlog : s'.log = s.log ++ events) (hworker : s.worker.Rests s'.worker) : Logged s' := by
  obtain ⟨hpend, hrunning, hcomplete⟩ := isBusy_eq_false_iff.mp hfree
  have hold {event : AdapterEvent} (hmem : event ∈ s'.log) (hnot : event.isReading = false) :
      event ∈ s.log := by
    rw [hlog] at hmem
    refine (mem_append.mp hmem).resolve_right fun hnew => ?_
    rw [(hreadings event hnew).1] at hnot
    cases hnot
  have hbusy {P : Prop} (hyes : s'.owner.isBusy) : P := by
    rw [hfree] at hyes
    cases hyes
  refine ⟨hlog ▸ h.faithful.append_readings hreadings, hbusy, ?_, ?_, ?_, ?_, ?_, hbusy, ?_⟩
  · intro serial operation payload hmem
    rw [hserial]
    exact h.numbered serial operation payload (hold hmem rfl)
  · intro serial hlt operation payload result packets datagrams hmem
    exact h.ran serial (hserial ▸ hlt) operation payload result packets datagrams (hold hmem rfl)
  · rintro (hyes | hunexecuted) operation payload result packets datagrams hmem
    · rw [hpend] at hyes
      cases hyes
    · rw [hserial] at hmem
      exact h.fresh (.inr (hworker.unexecuted hunexecuted)) operation payload result packets
        datagrams (hold hmem rfl)
  · intro _ _ _ _ _ hyes
    rw [hrunning] at hyes
    cases hyes
  · intro hyes
    rw [hcomplete] at hyes
    cases hyes
  · exact fun operation serial heq => h.skipped operation serial (hworker.eq heq nofun)

theorem Logged.issue (h : Logged s) {thread : Nat}
    {purpose : CallPurpose} {payload : List UInt8}
    (hkind : operation.kind = purpose.kind) (hpayload : purpose = .publish → payload ≠ [])
    (hfree : s.owner.isBusy = false) :
    Logged (s.issue thread purpose (s.owner.enqueue operation payload)) := by
  obtain ⟨_, hrunning, hcomplete⟩ := isBusy_eq_false_iff.mp hfree
  have hunexecuted : ∀ serial, s.serial < serial → Unexecuted (s.log ++ [.queued (s.serial + 1)
      (s.owner.enqueue operation payload).2.slot.operation payload]) serial := by
    intro serial hlt
    refine (h.ran serial hlt).mono fun event hmem => .inr ?_
    rw [mem_singleton.mp hmem]
    exact ⟨_, _, _, rfl⟩
  refine ⟨?_, fun _ => ?_, fun serial operation' payload' hmem => ?_, fun serial hlt => ?_,
    fun _ => ?_, fun _ _ _ _ _ hyes => ?_, fun hyes => ?_, fun _ hinput => ?_, h.skipped⟩
  · refine h.faithful.append_queued fun operation' payload' hmem => ?_
    exact Nat.not_succ_le_self _ (h.numbered _ operation' payload' hmem)
  · exact mem_append_right _ mem_cons_self
  · rcases mem_append.mp hmem with hold | hnew
    · exact (h.numbered serial operation' payload' hold).trans (Nat.le_succ _)
    · cases mem_singleton.mp hnew
      exact le_rfl
  · exact hunexecuted serial (Nat.lt_of_succ_lt hlt)
  · exact hunexecuted _ (Nat.lt_succ_self _)
  · rw [show s.owner.slot.running = true from hyes] at hrunning
    cases hrunning
  · rw [show s.owner.slot.complete = true from hyes] at hcomplete
    cases hcomplete
  · have hinput' : purpose.kind = .inputPacket := hkind.symm.trans hinput
    refine hpayload ?_
    revert hinput'
    cases purpose <;> first | exact fun _ => rfl | exact nofun

/-- What a thread reads with its ticket is what its own operation gave. -/
theorem Logged.readings (h : Logged s) (hticketed : Ticketed s) {thread : Nat}
    {purpose : CallPurpose} {queued : QueuedOperation}
    (hcall : s.calls thread = .finishing purpose queued) :
    ∀ event ∈ readings s.owner purpose queued,
      event.isReading ∧ Recorded s.log event := by
  have hheld : (s.calls thread).held = some (purpose, queued) := by rw [hcall]; rfl
  have hnot : purpose ≠ .publish := by
    rintro rfl
    exact (hticketed.published thread queued).2 hcall
  obtain ⟨hbusy, hserial, hticket⟩ := hticketed.own thread purpose queued hheld hnot
  have hkind := hticketed.kind thread purpose queued hheld hserial hbusy
  intro event hmem
  unfold TunnelRuntime.readings peekResult at hmem
  split at hmem
  · cases hmem
  rename_i result hpeek
  split at hpeek
  · cases hpeek
  rename_i hcomplete
  cases hpeek
  simp only [not_or, not_not, Bool.not_eq_false] at hcomplete
  obtain ⟨packets, datagrams, hexecuted, hpackets⟩ := h.completed hcomplete.2.2
  rcases mem_cons.mp hmem with rfl | hmem
  · rw [hserial]
    exact ⟨rfl, _, _, packets, datagrams, hexecuted⟩
  split at hmem
  · rename_i hsuccess _
    have hsent : s.owner.slot.operation.kind = .sendDatagram := hkind.symm
    rw [mem_singleton.mp hmem, hserial]
    refine ⟨rfl, s.owner.slot.operation, s.owner.slot.payload, datagrams, hsent, ?_⟩
    have hcompleted : s.owner.hasCompleted queued.ticket .sendDatagram := by
      unfold hasCompleted
      rw [decide_eq_true hcomplete.1, decide_eq_true hticket, hcomplete.2.2, decide_eq_true hsent]
      rfl
    unfold outboundPackets
    rw [hcompleted, decide_eq_true hsuccess, Bool.and_self, if_pos rfl, ← hpackets hsent hsuccess,
      ← hsuccess]
    exact hexecuted
  · cases hmem

private theorem readings_of_none {queued : QueuedOperation}
    (h : queued.ticket = 0 ∨ queued.ticket ≠ owner.slot.generation ∨ owner.slot.complete = false)
    (purpose : CallPurpose) : readings owner purpose queued = [] := by
  unfold readings peekResult
  rw [if_pos h]

theorem Logged.take (h : Logged s) (hslotted : Slotted s) : Logged s.takeNext := by
  rcases takeNext_cases s.owner with ⟨hnone, _⟩ |
    ⟨operation, owner, hsome, hcontrol, hslot, hadapter⟩ | ⟨hpend, hsome⟩ <;> unfold takeNext
  · rw [hnone]
    exact h.congr rfl rfl rfl rfl (.inr rfl)
  · rw [hsome]
    have hidle : Logged { s with owner, worker := .looping } :=
      h.congr hslot hadapter rfl rfl (.inr rfl)
    refine ⟨hidle.faithful, hidle.queued, hidle.numbered, hidle.ran, ?_, nofun, hidle.completed,
      hidle.packet, nofun⟩
    rintro (hpend | ⟨operation', serial, hticket, heq | ⟨execute, heq⟩⟩)
    · exact hidle.fresh (.inl hpend)
    · cases heq
      exact (hticket hcontrol.1).elim
    · cases heq
  · rw [hsome]
    have hbusy := Slotted.busy_of_pending hpend
    obtain ⟨_, hcomplete⟩ := hslotted.pending hpend
    refine ⟨h.faithful, fun _ => h.queued hbusy, h.numbered, h.ran, fun _ => h.fresh (.inl hpend),
      nofun, fun hyes => ?_, fun _ => h.packet hbusy, nofun⟩
    rw [show s.owner.slot.complete = true from hyes] at hcomplete
    cases hcomplete

theorem Logged.check (h : Logged s) {execute : Bool} (hworker : s.worker = .taken operation serial)
    (hexecute : operation.kind ≠ .inputPacket → execute) :
    Logged { s with worker := .checked operation serial execute } := by
  refine ⟨h.faithful, h.queued, h.numbered, h.ran, ?_, nofun, h.completed, h.packet, ?_⟩
  · rintro (hpend | ⟨operation', serial', hticket, heq | ⟨execute', heq⟩⟩)
    · exact h.fresh (.inl hpend)
    · cases heq
    · cases heq
      exact h.fresh (.inr ⟨operation, serial, hticket, .inl hworker⟩)
  · rintro _ _ ⟨⟩
    by_contra hkind
    exact Bool.false_ne_true (hexecute hkind)

/-- A control operation that is no reset and no configuration leaves the packets. -/
theorem execute_packets (hcontrol : IsControl operation)
    (hreset : operation.kind ≠ .reset) (hconf : operation.kind ≠ .configure) {lwip : Lwip} :
    (owner.execute operation lwip).2 = owner := by
  have hkind : operation.kind = .runTimeouts :=
    (hcontrol.2.resolve_left hreset).resolve_left hconf
  unfold execute
  rw [hkind]

/-- A stale packet is skipped. -/
theorem Logged.skip (h : Logged s) (hworker : s.worker = .checked operation serial false) :
    Logged { s with worker := .executed operation serial .stale } := by
  refine ⟨h.faithful, h.queued, h.numbered, h.ran, fun hnew => ?_, ?_, h.completed, h.packet, nofun⟩
  · refine h.fresh (.inl (hnew.resolve_right ?_))
    exact AdapterWorker.not_unexecuted fun _ _ => ⟨nofun, fun _ => nofun⟩
  · rintro _ _ _ ⟨⟩ _ _
    exact .inl ⟨rfl, h.skipped operation serial hworker⟩

/-- A control operation is executed, and no reset or configuration while packets are unread. -/
theorem Logged.executeControl (h : Logged s) (hcontrol : IsControl operation)
    (hpackets : operation.kind = .reset ∨ operation.kind = .configure → s.owner.slot.complete →
      s.owner.slot.operation.kind = .sendDatagram → s.owner.slot.result ≠ .success) (lwip : Lwip) :
    Logged { s with
      owner := (s.owner.execute operation lwip).2
      worker := .executed operation serial (s.owner.execute operation lwip).1 } := by
  have hslot := execute_slot s.owner operation lwip
  have hbusy := isBusy_congr hslot
  refine ⟨h.faithful, ?_, h.numbered, h.ran, fun hnew => ?_, ?_, ?_, ?_, nofun⟩
  · rw [hbusy, hslot]
    exact h.queued
  · rw [hslot] at hnew
    refine h.fresh (.inl (hnew.resolve_right ?_))
    exact AdapterWorker.not_unexecuted fun _ _ => ⟨nofun, fun _ => nofun⟩
  · rintro _ _ _ ⟨⟩ hticket
    exact (hticket hcontrol.1).elim
  · rw [hslot]
    intro hcomplete
    obtain ⟨packets, datagrams, hexecuted, hsame⟩ := h.completed hcomplete
    refine ⟨packets, datagrams, hexecuted, fun hsent hsuccess => ?_⟩
    have hquiet : (s.owner.execute operation lwip).2 = s.owner := by
      refine execute_packets hcontrol (fun hkind => ?_) (fun hkind => ?_)
      · exact hpackets (.inl hkind) hcomplete hsent hsuccess
      · exact hpackets (.inr hkind) hcomplete hsent hsuccess
    rw [hquiet]
    exact hsame hsent hsuccess
  · rw [hbusy, hslot]
    exact h.packet

/-- The operation that runs in the slot is executed with the payload of the slot. -/
theorem Logged.executeRunning (h : Logged s) (hslotted : Slotted s)
    (hrunning : s.owner.slot.running) (hunexecuted : Unexecuted s.log s.serial) (lwip : Lwip) :
    Logged { s with
      owner := (s.owner.execute s.owner.slot.operation lwip).2
      worker := .executed s.owner.slot.operation s.serial
        (s.owner.execute s.owner.slot.operation lwip).1
      log := s.log ++ [.executed s.serial s.owner.slot.operation s.owner.slot.payload
        (s.owner.execute s.owner.slot.operation lwip).1
        (s.owner.execute s.owner.slot.operation lwip).2.adapter.outboundPackets
        (s.owner.execute s.owner.slot.operation lwip).2.adapter.inboundDatagrams] } := by
  have hslot := execute_slot s.owner s.owner.slot.operation lwip
  have hqueued := h.queued (Slotted.busy_of_running hrunning)
  refine ⟨h.faithful.append_executed hqueued hunexecuted, fun _ => ?_, ?_, ?_, fun hnew => ?_, ?_,
    ?_, ?_, nofun⟩
  · rw [hslot]
    exact mem_append_left _ hqueued
  · intro serial operation payload hmem
    rcases mem_append.mp hmem with hold | hnew
    · exact h.numbered serial operation payload hold
    · cases mem_singleton.mp hnew
  · intro serial hlt operation payload result packets datagrams hmem
    rcases mem_append.mp hmem with hold | hnew
    · exact h.ran serial hlt operation payload result packets datagrams hold
    · cases mem_singleton.mp hnew
      exact (Nat.lt_irrefl _ hlt).elim
  · rw [hslot] at hnew
    have hpend := hnew.resolve_right
      (AdapterWorker.not_unexecuted fun _ _ => ⟨nofun, fun _ => nofun⟩)
    cases (hslotted.not_pending hrunning).symm.trans hpend
  · rintro _ _ _ ⟨⟩ _ _
    rw [hslot]
    exact .inr (mem_append_right _ mem_cons_self)
  · rw [hslot]
    intro hcomplete
    cases (hslotted.running hrunning).1.symm.trans hcomplete
  · rw [isBusy_congr hslot, hslot]
    exact h.packet

theorem Logged.execute (h : Logged s) (hslotted : Slotted s) (htaken : Taken s)
    {execute : Bool} (hworker : s.worker = .checked operation serial execute)
    (hpackets : operation.kind = .reset ∨ operation.kind = .configure → s.owner.slot.complete →
      s.owner.slot.operation.kind = .sendDatagram → s.owner.slot.result ≠ .success) (lwip : Lwip) :
    Logged (s.executeOperation operation serial execute lwip) := by
  have hheld : s.worker.held = some (operation, serial) := by rw [hworker]; rfl
  unfold executeOperation
  split
  · rename_i hstale
    subst hstale
    exact h.skip hworker
  · rename_i hexecute
    simp only
    split
    · rename_i hzero
      exact h.executeControl (htaken.control operation serial hheld hzero) hpackets lwip
    · rename_i hticket
      have hneeded : s.worker.needed = some operation := by
        rw [hworker, Bool.eq_true_of_not_eq_false hexecute]
        rfl
      have hrunning := htaken.needed operation hneeded hticket
      obtain ⟨rfl, rfl⟩ := htaken.eq hrunning hheld
      have hunexecuted := h.fresh (.inr ⟨_, _, hticket, .inr ⟨_, hworker⟩⟩)
      exact h.executeRunning hslotted hrunning hunexecuted lwip

theorem complete_adapter (owner : UserspaceIpAdapterOwner) (operation : Operation)
    (result : UserspaceIpResult) : (owner.complete operation result).adapter = owner.adapter := by
  unfold complete
  split
  · cases operation.kind <;> rfl
  · split <;> rfl

theorem Logged.complete (h : Logged s) (hslotted : Slotted s) (htaken : Taken s)
    {operation : Operation} {serial : Nat} {result : UserspaceIpResult}
    (hworker : s.worker = .executed operation serial result)
    (hkind : operation.kind ≠ .inputPacket) :
    Logged { s with owner := s.owner.complete operation result, worker := .looping } := by
  have hheld : s.worker.held = some (operation, serial) := by rw [hworker]; rfl
  have hadapter := complete_adapter s.owner operation result
  rcases hslotted.complete_cases hheld with ⟨hslot, _⟩ | ⟨hrunning, rfl, heq⟩
  · exact h.congr hslot hadapter rfl rfl (.inr rfl)
  · have hbusy := Slotted.busy_of_running hrunning
    have hticket : s.owner.slot.operation.ticket ≠ 0 := by
      rw [hslotted.ticket hbusy]
      exact hslotted.generation
    obtain ⟨_, rfl⟩ := htaken.eq hrunning hheld
    rw [heq]
    refine ⟨h.faithful, fun _ => h.queued hbusy, h.numbered, h.ran, fun hnew => ?_, nofun,
      fun _ => ?_, fun _ => h.packet hbusy, nofun⟩
    · have hpend := hnew.resolve_right
        (AdapterWorker.not_unexecuted fun _ _ => ⟨nofun, fun _ => nofun⟩)
      cases (hslotted.not_pending hrunning).symm.trans hpend
    · rcases h.done _ _ result hworker hticket hrunning with ⟨_, hinput⟩ | hexecuted
      · exact (hkind hinput).elim
      · exact ⟨_, _, hexecuted, fun _ _ => rfl⟩

/-- The packet of the slot and its datagrams are what the worker reads when it has completed it. -/
theorem completed_input (hslotted : Slotted s)
    (hworker : s.worker = .executed operation serial result)
    (hkind : operation.kind = .inputPacket) (hrunning : s.owner.slot.running)
    (hoperation : operation = s.owner.slot.operation) :
    (s.owner.complete operation result).inputPacket operation.ticket = s.owner.slot.payload ∧
      (result = .success → (s.owner.complete operation result).inboundDatagrams operation.ticket =
        s.owner.adapter.inboundDatagrams) := by
  have hheld : s.worker.held = some (operation, serial) := by rw [hworker]; rfl
  have hticket : operation.ticket = s.owner.slot.generation := by
    rw [hoperation]
    exact hslotted.ticket (Slotted.busy_of_running hrunning)
  have hcompleted : (s.owner.complete operation result).hasCompleted operation.ticket .inputPacket =
      true := by
    rw [hslotted.complete_of_running hheld hrunning]
    unfold hasCompleted
    simp only [hticket, ← hoperation, hkind, hslotted.generation, ne_eq, not_false_eq_true,
      decide_true, Bool.and_self]
  unfold inputPacket inboundDatagrams
  rw [hcompleted, hslotted.complete_of_running hheld hrunning]
  refine ⟨rfl, ?_⟩
  rintro rfl
  rfl

theorem Logged.completeInput (h : Logged s) (hslotted : Slotted s) (htaken : Taken s)
    (hworker : s.worker = .executed operation serial result)
    (hkind : operation.kind = .inputPacket) :
    Logged { s with
      owner := ((s.owner.complete operation result).takeResult operation.ticket).2
      worker := .looping
      log := if result = .success then s.log ++ [.inputRead serial
          ((s.owner.complete operation result).inputPacket operation.ticket)
          ((s.owner.complete operation result).inboundDatagrams operation.ticket)]
        else s.log } := by
  have hheld : s.worker.held = some (operation, serial) := by rw [hworker]; rfl
  rcases htaken.input_cases hslotted hworker hkind with ⟨hrunning, rfl, rfl⟩ | ⟨hlost, hslot, hsame⟩
  · have hticket : s.owner.slot.operation.ticket ≠ 0 := by
      rw [hslotted.ticket (Slotted.busy_of_running hrunning)]
      exact hslotted.generation
    have heq := hslotted.complete_of_running hheld hrunning result
    obtain ⟨hpacket, hdatagrams⟩ := completed_input hslotted hworker hkind hrunning rfl
    have hfree := (hslotted.completed_taken hrunning heq).2
    by_cases hresult : result = .success
    · refine h.freed ?_ hfree rfl (if_pos hresult) (.inr rfl)
      intro event hmem
      rw [mem_singleton.mp hmem, hpacket, hdatagrams hresult]
      refine ⟨rfl, s.owner.slot.operation, s.owner.adapter.outboundPackets, hkind, ?_⟩
      rcases h.done _ _ result hworker hticket hrunning with ⟨hstale, _⟩ | hexecuted
      · rw [hresult] at hstale
        cases hstale
      · rw [hresult] at hexecuted
        exact hexecuted
    · have hnone : ∀ event ∈ ([] : List AdapterEvent),
          event.isReading ∧ Recorded s.log event := nofun
      refine h.freed hnone hfree rfl ?_ (.inr rfl)
      rw [append_nil]
      exact if_neg hresult
  · rw [hsame, if_neg hlost]
    exact h.congr hslot (complete_adapter ..) rfl rfl (.inr rfl)

/-! ## Runs -/

/-- The worker does not clear the packets of a datagram that was sent while they are not read. -/
def KeepsPackets (s : TunnelRuntime) : AdapterWorker → Prop
  | .checked operation _ _ => operation.kind = .reset ∨ operation.kind = .configure →
      s.owner.slot.complete = true → s.owner.slot.operation.kind = .sendDatagram →
        s.owner.slot.result ≠ .success
  | _ => True

instance (s : TunnelRuntime) : (worker : AdapterWorker) → Decidable (KeepsPackets s worker)
  | .checked operation _ _ => inferInstanceAs (Decidable (operation.kind = .reset ∨
      operation.kind = .configure → s.owner.slot.complete = true →
        s.owner.slot.operation.kind = .sendDatagram → s.owner.slot.result ≠ .success))
  | .idle | .looping | .taken _ _ | .executed _ _ _ | .returning => instDecidableTrue

/-- No operation is cancelled while the worker needs it, and no unread packets are cleared. -/
def OperationsKept (s : TunnelRuntime) : Action → Prop
  | .proceed thread _ _ _ => KeepsOperation s (s.calls thread)
  | .work _ _ => KeepsPackets s s.worker
  | _ => True

instance (s : TunnelRuntime) : (action : Action) → Decidable (OperationsKept s action)
  | .proceed thread _ _ _ => inferInstanceAs (Decidable (KeepsOperation s (s.calls thread)))
  | .work _ _ => inferInstanceAs (Decidable (KeepsPackets s s.worker))
  | .setActivePeer _ _ | .refresh _ | .createClient _ _ | .receiveCompletions _ _ _
  | .notifyOutboundCapacityAvailable _ | .runTimeouts | .reset | .destroyTunnelClient _ _ _
  | .openTunnelConnectedUdpFlow _ _ _ _ _ | .sendTunnelUdpDatagram _ _ _ _ _ _ _
  | .closeTunnelFlow _ _ _ _ | .publishDecryptedPacket _ _ _ | .dispatch _ => instDecidableTrue

theorem OperationsKept.actsOwn (h : OperationsKept s action) : ActsOwn s action := by
  cases action with
  | proceed => exact h
  | _ => exact trivial

theorem Logged.move (h : Logged s) (howned : Owned s)
    (hkept : OperationsKept s action) (hmove : Move s action s') : Logged s' := by
  cases hmove with
  | stay => exact h
  | walk | ask | close | flush => exact h.congr rfl rfl rfl rfl (.inl rfl)
  | issue thread hthread purpose operation payload hbefore hkind hpayload hfree =>
    exact h.issue hkind hpayload hfree
  | cancel thread purpose queued available submission now call hcall hafter =>
    rcases cancel_cases s.owner queued.ticket with ⟨_, hsame⟩ | ⟨_, hfree, _⟩
    · rw [hsame]
      exact h.congr rfl rfl rfl rfl (.inl rfl)
    · have hnone : ∀ event ∈ ([] : List AdapterEvent),
          event.isReading ∧ Recorded s.log event := nofun
      exact h.freed hnone hfree rfl (append_nil _).symm (.inl rfl)
  | finish thread hthread purpose queued call hcall hafter =>
    have hreadings := h.readings howned.ticketed hcall
    rcases takeResult_cases s.owner queued.ticket with ⟨hnone, htake⟩ | ⟨_, hcomplete, htake⟩
    · rw [htake, readings_of_none hnone, append_nil]
      exact h.congr rfl rfl rfl rfl (.inl rfl)
    · rw [htake]
      exact h.freed hreadings (howned.slotted.takeResult_free hcomplete _) rfl rfl (.inl rfl)
  | take hworker => exact h.take howned.slotted
  | check operation serial execute hworker hexecute => exact h.check hworker hexecute
  | execute operation serial execute lwip now hworker =>
    have hpackets : KeepsPackets s s.worker := hkept
    rw [hworker] at hpackets
    exact h.execute howned.slotted howned.taken hworker hpackets lwip
  | complete operation serial result hworker hkind =>
    exact h.complete howned.slotted howned.taken hworker hkind
  | completeInput operation serial result hworker hkind =>
    exact h.completeInput howned.slotted howned.taken hworker hkind
  | dispatch action _ hdispatch =>
    obtain ⟨_, _, dispatcher, worker, rfl, hworker⟩ := dispatch_spec howned.lanes hdispatch
    refine h.congr rfl rfl rfl rfl ?_
    rcases hworker with rfl | ⟨_, rfl⟩ | ⟨_, rfl⟩
    · exact .inl rfl
    · exact .inr rfl
    · exact .inr rfl

/-- The runs in which no operation is cancelled while the worker needs it, and no unread packets are
cleared. -/
def keptCalls : Machine TunnelRuntime := .ofActions (fun s => s = initial) OperationsKept step

private theorem keptCalls_logged (h : keptCalls.Reachable s) : Owned s ∧ Logged s := by
  refine Machine.Reachable.invariant (P := fun s => Owned s ∧ Logged s) ?_ ?_ h
  · rintro _ rfl
    exact ⟨initial_owned, .nil, nofun, nofun, nofun, nofun, nofun, nofun, nofun, nofun⟩
  · rintro s s' _ ⟨howned, hlogged⟩ ⟨action, hkept, hstep⟩
    obtain ⟨mid, hmove, happart⟩ := step_cases hstep
    refine ⟨(howned.move hkept.actsOwn hmove).apart happart, ?_⟩
    exact (hlogged.move howned hkept hmove).congr happart.slot happart.adapter happart.serial
      happart.log (.inl happart.worker)

/-- While no operation is cancelled that the worker needs, and no unread packets are cleared, every
operation is executed with its own payload, what is read with its ticket is its own, and the worker
finds the packet that it has processed. -/
theorem adapter_operations_own (h : keptCalls.Reachable s) :
    Faithful s.log ∧ s.losesInputPacket = false := by
  obtain ⟨howned, hlogged⟩ := keptCalls_logged h
  refine ⟨hlogged.faithful, ?_⟩
  unfold losesInputPacket
  split
  · rename_i operation serial result hworker
    by_cases hkind : operation.kind = .inputPacket
    · rcases howned.taken.input_cases howned.slotted hworker hkind with
        ⟨hrunning, hoperation, _⟩ | ⟨hlost, _⟩
      · have hpacket : s.owner.slot.payload ≠ [] :=
          hlogged.packet (Slotted.busy_of_running hrunning) (hoperation ▸ hkind)
        rw [(completed_input howned.slotted hworker hkind hrunning hoperation).1,
          decide_eq_false hpacket, Bool.and_false]
      · rw [decide_eq_false hlost, Bool.and_false, Bool.false_and]
    · rw [decide_eq_false hkind, Bool.false_and, Bool.false_and]
  · rfl

/-! ### Examples -/

theorem adapter_operations_own_sample : ∃ s, keptCalls.Reachable s ∧
    .packetsRead 2 [[69]] ∈ s.log ∧ Faithful s.log ∧ s.losesInputPacket = false := by
  obtain ⟨s, hrun, hfacts⟩ := Option.map_eq_some_iff.mp
    (show (Machine.runActions OperationsKept step (sampleOpening ++ [sampleSend, sampleProceed] ++
        sampleCallback 5 ++ [sampleProceed, sampleProceed]) initial).map
      (fun s => decide (.packetsRead 2 [[69]] ∈ s.log)) = some true by decide +kernel)
  have hreach : keptCalls.Reachable s := Machine.Reachable.of_runActions (.start rfl) hrun
  exact ⟨s, hreach, of_decide_eq_true hfacts, adapter_operations_own hreach⟩

/-- A packet is published while the worker runs, which takes it.  Then both other submissions wait,
so the work of the adapter is refused to the publisher, and it cancels its packet. -/
def sampleCancelled : List Action :=
  sampleOpening ++ [.dispatch (.queue .userspaceIpAdapter), .dispatch (.dequeue .submission),
    .publishDecryptedPacket 1 ⟨0, 1⟩ [1, 2, 3]] ++ sampleWork 2 ++
  [.dispatch (.queue .debugSubmission), .dispatch (.queue .innerSubmission),
    .proceed 1 true .success 0, .proceed 1 true .success 0]

def sampleInput : Operation :=
  { Operation.of .inputPacket with
    ticket := 2, peer := ⟨0, 1⟩, policyGeneration := 2, adapterEpoch := 2 }

/-- The client sends a datagram before the worker executes the cancelled packet: the worker hands
the payload of the datagram to lwIP, and aborts when it looks for the packet. -/
theorem adapter_payload_exchanged : ∃ s, tunnelCalls.Reachable s ∧ s.losesInputPacket = true ∧
    .queued 2 sampleInput [1, 2, 3] ∈ s.log ∧
    .executed 2 sampleInput [7] .success [] [] ∈ s.log := by
  obtain ⟨s, hrun, hfacts⟩ := Option.map_eq_some_iff.mp
    (show (run (sampleCancelled ++ [sampleSend, .work sampleLwip 0])).map
      (fun s => (s.losesInputPacket, decide (.queued 2 sampleInput [1, 2, 3] ∈ s.log),
        decide (.executed 2 sampleInput [7] .success [] [] ∈ s.log))) =
      some (true, true, true) by decide +kernel)
  obtain ⟨hloses, hqueued, hexecuted⟩ : s.losesInputPacket = true ∧
      decide (.queued 2 sampleInput [1, 2, 3] ∈ s.log) = true ∧
      decide (.executed 2 sampleInput [7] .success [] [] ∈ s.log) = true := by
    simpa only [Prod.mk.injEq] using hfacts
  exact ⟨s, run_reachable hrun, hloses, of_decide_eq_true hqueued, of_decide_eq_true hexecuted⟩

end TunnelRuntime

end WireguardNx.Runtime
