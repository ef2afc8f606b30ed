import WireguardNx.Laws.PeerMachine
import Mathlib.Data.List.Infix

/-!
# Who retires a staged packet

A transport datagram is built from the packet at the head of the queue, which stays there until the
send completes; the completion pops the head, whichever packet that is by then.  The two are the
same packet as long as nothing is staged into a queue that was emptied while the datagram was in
flight.  An ownership claim of the packet channel and the zeroing of the key material both empty
the queue and leave the datagram in flight.

`Displaces` is the step that stages such a packet; on runs without it a completed send retires the
packet it sent.  Completions may come at any time, also late.
-/

namespace WireguardNx.Runtime

open Wireguard PeerRuntime HandlerState List

variable {after st : HandlerState} {event : PeerEvent} {identity : PeerIdentity}
  {run : RetirementRun}

variable {c : Crypto} {s : PeerRuntime}

abbrev PeerRuntime.staged (s : PeerRuntime) : InnerPacketQueue peerStagedPacketCapacity :=
  s.device.peer.stagedOutboundPackets

/-- A disposition that only a completed send gives. -/
def ofSend (disposition : QueueDisposition) : Bool :=
  decide (disposition = .sent) || decide (disposition = .sendFailed)

/-! ## Runs with ownership claims -/

/-- A packet that left the queue, and the datagram that was being completed. -/
structure Retirement where
  record : InnerPacketRecord
  disposition : QueueDisposition
  completed : Option PendingDatagram

/-- A packet that left because of a send was what the sent datagram was built from. -/
def Retirement.Own (retirement : Retirement) : Prop :=
  ofSend retirement.disposition = true → ∃ pending, retirement.completed = some pending ∧
    pending.kind = .transportData ∧ retirement.record.packetId = pending.innerPacketId

/-- A peer and, as history, every packet that left its queue. -/
structure RetirementRun where
  peer : PeerRuntime
  retirements : List Retirement

/-- The packets that left a queue between two states: those its history gained, or all of the
history of a new queue. -/
def retiredBetween (before after : PeerRuntime) (completed : Option PendingDatagram) :
    List Retirement :=
  let gained :=
    if before.staged.retired <+: after.staged.retired then
      after.staged.retired.drop before.staged.retired.length
    else after.staged.retired
  gained.map fun entry => ⟨entry.1, entry.2, completed⟩

/-- What happens to a peer: it handles an event, or another process claims the packet channel. -/
inductive PeerAction where
  | handle (p : Platform) (event : PeerEvent)
  | claim

/-- One action; `none` is an abort. -/
def RetirementRun.apply (c : Crypto) (run : RetirementRun) : PeerAction → Option RetirementRun
  | .handle p event =>
    match run.peer.handle c p event with
    | none => none
    | some (after, _) => some ⟨after, run.retirements ++
        retiredBetween run.peer after (run.peer.completing event)⟩
  | .claim =>
    let after := run.peer.clearStagedInnerPackets
    some ⟨after, run.retirements ++ retiredBetween run.peer after none⟩

/-- A transport datagram built from a staged packet is in flight. -/
def PeerRuntime.dataInFlight (s : PeerRuntime) : Bool :=
  s.pendingDatagram.any fun pending => pending.kind = .transportData

/-- An event stages a packet into the empty queue of a peer that has a packet in flight. -/
def PeerRuntime.Displaces (s : PeerRuntime) : PeerAction → Prop
  | .handle _ event => event.staging ≠ [] ∧
      s.isCurrentActivation event.identity.activationGeneration = true ∧ s.staged.toList = [] ∧
      s.dataInFlight = true
  | .claim => False

instance (s : PeerRuntime) (action : PeerAction) : Decidable (s.Displaces action) :=
  match action with
  | .handle _ _ => inferInstanceAs (Decidable (_ ∧ _))
  | .claim => inferInstanceAs (Decidable False)

/-- Events are handled as the rest of the runtime delivers them. -/
def PeerAction.Admissible (s : PeerRuntime) : PeerAction → Prop
  | .handle _ event => event.Admissible s
  | .claim => True

instance (s : PeerRuntime) (action : PeerAction) : Decidable (action.Admissible s) :=
  match action with
  | .handle _ event => inferInstanceAs (Decidable (event.Admissible s))
  | .claim => inferInstanceAs (Decidable True)

/-- A configured peer that handles events and ownership claims, as far as `allowed` lets it. -/
def retirementsWhere (c : Crypto) (allowed : PeerRuntime → PeerAction → Prop) :
    Machine RetirementRun :=
  .ofActions (fun run => run.peer.Configured ∧ run.retirements = [])
    (fun run action => action.Admissible run.peer ∧ allowed run.peer action)
    (RetirementRun.apply c)

/-! ## The head of the queue is the packet in flight -/

/-- A packet in flight is still at the head of the queue, unless the queue was emptied. -/
def PeerRuntime.Linked (s : PeerRuntime) : Prop :=
  ∀ pending, s.pendingDatagram = some pending → pending.kind = .transportData →
    ∀ record, s.staged.toList.head? = some record → record.packetId = pending.innerPacketId

theorem linked_of_none (h : s.pendingDatagram = none) : s.Linked := by
  intro pending hpend
  rw [h] at hpend
  cases hpend

theorem linked_of_nil (h : s.staged.toList = []) : s.Linked := by
  intro pending _ _ record hrecord
  rw [h] at hrecord
  cases hrecord

theorem PeerRuntime.Same.linked {t : PeerRuntime} (h : s.Same c t) (hs : s.Linked) : t.Linked := by
  unfold Linked staged
  rw [h.pending, h.device.peer.carries.queue]
  exact hs

theorem Move.linked (h : Move c identity st after) (hs : st.runtime.Linked) :
    after.runtime.Linked := by
  cases h with
  | emit effect _ | suspend => exact hs
  | note s hsame => exact hsame.linked hs
  | fill bytes packetId kind _ _ _ hdata =>
    intro pending hpend hkind record hrecord
    obtain rfl := Option.some.inj hpend
    obtain ⟨front, hfront, hid⟩ := hdata hkind
    rw [InnerPacketQueue.front_eq] at hfront
    obtain rfl : front = record := Option.some.inj (hfront.symm.trans hrecord)
    exact hid
  | drop disposition _ hpend => exact linked_of_none hpend
  | giveUp device _ hqueue =>
    refine linked_of_nil ?_
    show device.peer.stagedOutboundPackets.toList = []
    rw [hqueue]
    exact (InnerPacketQueue.clear_spec _ _).1
  | fail stage code now => rw [enterActivationError_eq]; exact linked_of_none rfl

theorem Moves.linked (h : Moves c identity st after) (hs : st.runtime.Linked) :
    after.runtime.Linked := by
  induction h with
  | refl => exact hs
  | tail _ hmove ih => exact hmove.linked ih

theorem Entry.linked {p : Platform} {entry : HandlerState} (h : Entry c s event entry)
    (hsound : s.Sound c) (hallowed : ¬ s.Displaces (.handle p event)) (hs : s.Linked) :
    entry.runtime.Linked := by
  cases h with
  | stay | rebound event binding _ _ _ => exact hs
  | staged _ after hstaging hact _ hpush =>
    obtain ⟨queue, rfl, hqueue, -⟩ := pushBatch_spec hpush
    -- the head stays what it was, since with a packet in flight the queue is not empty
    intro pending hpend hkind record hrecord
    cases hlist : s.staged.toList with
    | nil =>
      refine absurd ⟨hstaging, hact, hlist, ?_⟩ hallowed
      unfold dataInFlight
      rw [show s.pendingDatagram = some pending from hpend, Option.any_some]
      exact decide_eq_true hkind
    | cons head tail =>
      refine hs pending hpend hkind record ?_
      rw [hlist, ← hrecord]
      show some head = queue.toList.head?
      rw [hqueue, show s.device.peer.stagedOutboundPackets.toList = head :: tail from hlist]
      rfl
  | refused event record hfull =>
    intro pending hpend hkind front hfront
    refine hs pending hpend hkind front ?_
    rw [← hfront]
    obtain ⟨hcount, -⟩ | ⟨_, -, hsome, -⟩ := pushStaged_cases s record
    · exact congrArg head? (InnerPacketQueue.push_of_eq s.staged record hcount).2.1.symm
    · rw [hfull] at hsome; cases hsome
  | completed event pending _ _ _ =>
    refine linked_of_none ?_
    show (s.completed _ _).pendingDatagram = none
    unfold PeerRuntime.completed
    split
    · rfl
    · rfl
  | zeroed event _ _ => exact linked_of_nil rfl
  | activated event _ => exact linked_of_none rfl
  | deactivated event hact =>
    exact linked_of_none (handleDeactivationRequested_spec hact).1.pending
  | bound event binding peer hstate _ _ _ =>
    refine linked_of_none ?_
    show s.pendingDatagram = none
    refine Option.not_isSome_iff_eq_none.mp fun hpend => ?_
    have htrans := hsound.pending_transport hpend
    unfold isInTransportState at htrans
    rw [hstate] at htrans
    cases htrans
  | unbound event binding _ => rw [enterActivationError_eq]; exact linked_of_none rfl

/-! ## What leaves the queue -/

/-- The history of the queue goes on with entries that satisfy a predicate. -/
def Gains (P : InnerPacketRecord × QueueDisposition → Prop)
    (before after : List (InnerPacketRecord × QueueDisposition)) : Prop :=
  ∃ gained, after = before ++ gained ∧ ∀ entry ∈ gained, P entry

namespace Gains

variable {P : InnerPacketRecord × QueueDisposition → Prop}
  {first second third : List (InnerPacketRecord × QueueDisposition)}

theorem refl : Gains P first first := ⟨[], (append_nil _).symm, by simp⟩

theorem of_eq (h : second = first) : Gains P first second := h ▸ refl

theorem trans (h₁ : Gains P first second) (h₂ : Gains P second third) : Gains P first third := by
  obtain ⟨gained₁, rfl, hP₁⟩ := h₁
  obtain ⟨gained₂, rfl, hP₂⟩ := h₂
  refine ⟨gained₁ ++ gained₂, append_assoc _ _ _, fun entry hentry => ?_⟩
  obtain hentry | hentry := mem_append.mp hentry
  · exact hP₁ entry hentry
  · exact hP₂ entry hentry

theorem mono {Q : InnerPacketRecord × QueueDisposition → Prop} (h : Gains P first second)
    (hPQ : ∀ entry, P entry → Q entry) : Gains Q first second := by
  obtain ⟨gained, heq, hP⟩ := h
  exact ⟨gained, heq, fun entry hentry => hPQ entry (hP entry hentry)⟩

end Gains

theorem gains_pop {queue : InnerPacketQueue peerStagedPacketCapacity}
    {P : InnerPacketRecord × QueueDisposition → Prop} {disposition : QueueDisposition}
    (hP : ∀ record, queue.toList.head? = some record → P (record, disposition)) :
    Gains P queue.retired (queue.pop disposition).2.retired := by
  refine ⟨_, (queue.pop_spec disposition).2, fun entry hentry => ?_⟩
  obtain ⟨record, hrecord, rfl⟩ := mem_map.mp hentry
  exact hP record (Option.mem_toList.mp hrecord)

theorem gains_clear {queue : InnerPacketQueue peerStagedPacketCapacity}
    {P : InnerPacketRecord × QueueDisposition → Prop} {disposition : QueueDisposition}
    (hP : ∀ record, P (record, disposition)) :
    Gains P queue.retired (queue.clear disposition).2.retired := by
  refine ⟨_, (queue.clear_spec disposition).2, fun entry hentry => ?_⟩
  obtain ⟨record, -, rfl⟩ := mem_map.mp hentry
  exact hP record

/-- No send gave the packet its disposition. -/
def unsent (entry : InnerPacketRecord × QueueDisposition) : Prop := ofSend entry.2 = false

theorem own_of_unsent (completed : Option PendingDatagram)
    (entry : InnerPacketRecord × QueueDisposition) (h : unsent entry) :
    Retirement.Own ⟨entry.1, entry.2, completed⟩ := by
  intro hsend
  rw [show ofSend entry.2 = false from h] at hsend
  cases hsend

theorem gains_fail {st : HandlerState} {stage : PeerErrorStage} {code : PeerErrorCode}
    {now : Ktime} : Gains unsent st.runtime.staged.retired
      (st.enterActivationError stage code now).runtime.staged.retired := by
  rw [enterActivationError_eq]
  show Gains unsent _ st.runtime.scrubbedDevice.peer.stagedOutboundPackets.retired
  unfold scrubbedDevice
  split
  · exact (gains_clear fun _ => rfl).trans
      (gains_clear fun _ => rfl)
  · exact .refl

theorem Move.gains (h : Move c identity st after) :
    Gains unsent st.runtime.staged.retired after.runtime.staged.retired := by
  cases h with
  | emit effect _ | fill bytes packetId kind _ _ _ _ | suspend => exact .refl
  | note s hsame => exact .of_eq (congrArg _ hsame.device.peer.carries.queue)
  | drop disposition hdisposition _ =>
    refine gains_pop fun record _ => ?_
    obtain rfl | rfl := hdisposition
    · rfl
    · rfl
  | giveUp device _ hqueue =>
    show Gains unsent _ device.peer.stagedOutboundPackets.retired
    rw [hqueue]
    exact gains_clear fun _ => rfl
  | fail stage code now => exact gains_fail

theorem Moves.gains (h : Moves c identity st after) :
    Gains unsent st.runtime.staged.retired after.runtime.staged.retired := by
  induction h with
  | refl => exact .refl
  | tail _ hmove ih => exact ih.trans hmove.gains

/-- What an event does before its handler goes on retires the packet in flight or nothing a send
decides; the queue may be a new one. -/
theorem Entry.gains {entry : HandlerState} (h : Entry c s event entry) (hs : s.Linked) :
    ∃ base, (base = s.staged.retired ∨ base = []) ∧
      Gains (fun entry => Retirement.Own ⟨entry.1, entry.2, s.completing event⟩) base
        entry.runtime.staged.retired := by
  cases h with
  | stay | rebound event binding _ _ _ => exact ⟨_, .inl rfl, .refl⟩
  | staged _ after _ _ _ hpush =>
    obtain ⟨queue, rfl, -, hretired⟩ := pushBatch_spec hpush
    exact ⟨_, .inl rfl, .of_eq hretired⟩
  | refused event record hfull =>
    refine ⟨_, .inl rfl, .of_eq ?_⟩
    obtain ⟨hcount, -⟩ | ⟨_, -, hsome, -⟩ := pushStaged_cases s record
    · exact (InnerPacketQueue.push_of_eq s.staged record hcount).2.2
    · rw [hfull] at hsome; cases hsome
  | completed event pending hpend hact hgen =>
    refine ⟨_, .inl rfl, ?_⟩
    show Gains _ _ (s.completed _ _).staged.retired
    unfold PeerRuntime.completed
    split
    · rename_i hkind
      refine gains_pop fun record hrecord _ => ⟨pending, ?_, hkind.1, ?_⟩
      · simp [completing, hact, hpend, hgen]
      · exact hs pending hpend hkind.1 record hrecord
    · exact .refl
  | zeroed event _ _ => exact ⟨_, .inl rfl, gains_clear fun _ => own_of_unsent _ _ rfl⟩
  | activated event _ => exact ⟨_, .inr rfl, .refl⟩
  | deactivated event hact =>
    refine ⟨[], .inr rfl, .of_eq ?_⟩
    unfold PeerRuntime.staged
    rw [(handleDeactivationRequested_spec hact).1.device]
    rfl
  | bound event binding peer _ _ _ hpeer =>
    obtain ⟨_, _, _, _, hpeer⟩ := hpeer
    exact ⟨_, .inr rfl, .of_eq (initializePeer_fresh hpeer).2.2⟩
  | unbound event binding _ =>
    exact ⟨[], .inr rfl, gains_fail.mono (own_of_unsent _)⟩

/-- The retirements between two states, read off a history that goes on. -/
theorem retiredBetween_own {before after : PeerRuntime} {completed : Option PendingDatagram}
    {base : List (InnerPacketRecord × QueueDisposition)}
    (hbase : base = before.staged.retired ∨ base = [])
    (h : Gains (fun entry => Retirement.Own ⟨entry.1, entry.2, completed⟩) base
      after.staged.retired) :
    ∀ retirement ∈ retiredBetween before after completed, retirement.Own := by
  obtain ⟨gained, heq, hown⟩ := h
  intro retirement hretirement
  obtain ⟨entry, hentry, rfl⟩ := mem_map.mp hretirement
  refine hown entry ?_
  obtain rfl | rfl := hbase
  · rw [heq, if_pos (prefix_append _ _), drop_left] at hentry
    exact hentry
  · rw [heq, nil_append] at hentry
    split at hentry
    · exact mem_of_mem_drop hentry
    · exact hentry

/-! ## Runs -/

/-- What is kept along a run. -/
structure RetirementRun.Good (c : Crypto) (run : RetirementRun) : Prop where
  sound : run.peer.Sound c
  linked : run.peer.Linked
  own : ∀ retirement ∈ run.retirements, retirement.Own

/-- One event keeps the packet in flight at the head of the queue, and retires no other packet as
sent or failed. -/
theorem handle_retires {p : Platform} {after : PeerRuntime} {batch : EffectBatch}
    (h : s.handle c p event = some (after, batch)) (hsound : s.Sound c)
    (hallowed : ¬ s.Displaces (.handle p event)) (hs : s.Linked) : after.Linked ∧
      ∀ retirement ∈ retiredBetween s after (s.completing event), retirement.Own := by
  obtain ⟨st, timers, intent, hst, rfl, -⟩ := handle_spec h
  obtain ⟨entry, hentry, hmoves⟩ := handleEvent_enters hsound.pending_transport hst
  have hsame := withTimers_same (c := c) st.runtime timers intent
  obtain ⟨base, hbase, hgains⟩ := hentry.gains hs
  refine ⟨hsame.linked (hmoves.linked (hentry.linked hsound hallowed hs)),
    retiredBetween_own hbase
      ((hgains.trans (hmoves.gains.mono (own_of_unsent _))).trans (.of_eq ?_))⟩
  exact congrArg _ hsame.device.peer.carries.queue

private theorem claim_retires (hs : s.Sound c) (hlinked : s.Linked) :
    s.clearStagedInnerPackets.Sound c ∧ s.clearStagedInnerPackets.Linked ∧
      ∀ retirement ∈ retiredBetween s s.clearStagedInnerPackets none, retirement.Own := by
  unfold clearStagedInnerPackets
  split
  · exact ⟨withQueue_sound hs _, linked_of_nil rfl, retiredBetween_own (.inl rfl)
      (gains_clear fun _ => own_of_unsent _ _ rfl)⟩
  · exact ⟨hs, hlinked, retiredBetween_own (.inl rfl) .refl⟩

/-- One action keeps a run good. -/
theorem RetirementRun.Good.apply {run after : RetirementRun} {action : PeerAction}
    (hrun : run.Good c) (hevent : action.Admissible run.peer)
    (hallowed : ¬ run.peer.Displaces action) (h : run.apply c action = some after) :
    after.Good c := by
  cases action with
  | handle p event =>
    simp only [RetirementRun.apply] at h
    split at h
    · cases h
    · rename_i peer batch hhandle
      cases h
      obtain ⟨hlinked, hown⟩ := handle_retires hhandle hrun.sound hallowed hrun.linked
      refine ⟨handle_sound hhandle hevent hrun.sound, hlinked, fun r hr => ?_⟩
      exact (mem_append.mp hr).elim (hrun.own r) (hown r)
  | claim =>
    cases h
    obtain ⟨hsound, hlinked, hown⟩ := claim_retires hrun.sound hrun.linked
    exact ⟨hsound, hlinked, fun r hr => (mem_append.mp hr).elim (hrun.own r) (hown r)⟩

/-- As long as nothing is staged into a queue emptied under a packet in flight, every packet that
leaves the queue as sent or failed is the one the completed datagram was built from. -/
theorem sent_packets_are_own {run : RetirementRun}
    (h : (retirementsWhere c fun s action => ¬ s.Displaces action).Reachable run) :
    ∀ retirement ∈ run.retirements, retirement.Own := by
  refine RetirementRun.Good.own (c := c) (h.invariant ?_ ?_)
  · rintro run ⟨⟨peerIndex, config, derived, now, hconf⟩, hnone⟩
    refine ⟨configure_sound hconf, linked_of_none (configure_spec hconf).2,
      fun r hr => ?_⟩
    rw [hnone] at hr
    cases hr
  · rintro run after - hrun ⟨action, ⟨hevent, hallowed⟩, happly⟩
    exact hrun.apply hevent hallowed happly

/-- A run of the sample peer with ownership claims. -/
def sampleRetirements (allowed : PeerRuntime → PeerAction → Prop)
    [∀ s action, Decidable (allowed s action)] (actions : List PeerAction) :
    Option RetirementRun :=
  (samplePeer 0).bind fun s => Machine.runActions
    (fun run action => action.Admissible run.peer ∧ allowed run.peer action)
    (RetirementRun.apply .transparent) actions ⟨s, []⟩

theorem sampleRetirements_reachable {allowed : PeerRuntime → PeerAction → Prop}
    [∀ s action, Decidable (allowed s action)] {actions : List PeerAction}
    (h : sampleRetirements allowed actions = some run) :
    (retirementsWhere .transparent allowed).Reachable run := by
  obtain ⟨first, hfirst, hrun⟩ := Option.bind_eq_some_iff.mp h
  exact .of_runActions (.start ⟨samplePeer_configured hfirst, rfl⟩) hrun

def sampleSending : List PeerAction :=
  (sampleEstablished ++
    [sampleSent (seconds 11) 2 .none, sampleStaged (seconds 12) samplePacket 1]).map
    fun step => .handle step.1 step.2

/-- The completion of the datagram that carries packet 1. -/
def sampleCompletion : PeerAction :=
  .handle (sampleSent (seconds 12) 3 .none).1 (sampleSent (seconds 12) 3 .none).2

theorem sent_packets_are_own_sample : ∃ run : RetirementRun,
      run.retirements.map (fun r => (r.record.packetId, r.disposition)) = [(1, .sent)] ∧
        ∀ retirement ∈ run.retirements, retirement.Own := by
  have hrun : (sampleRetirements (fun s action => ¬ s.Displaces action)
      (sampleSending ++ [sampleCompletion])).map
      (fun run => run.retirements.map fun r => (r.record.packetId, r.disposition)) =
        some [(1, .sent)] := by
    decide +kernel
  obtain ⟨run, hrun, hretired⟩ := Option.map_eq_some_iff.mp hrun
  exact ⟨run, hretired, sent_packets_are_own (sampleRetirements_reachable hrun)⟩

/-- Another process claims the channel and stages packet 2 while packet 1 is in flight; the
completion of packet 1 then retires packet 2 as sent. -/
theorem sent_packet_not_own : ∃ run, (retirementsWhere .transparent fun _ _ => True).Reachable run ∧
      ∃ retirement ∈ run.retirements, retirement.record.packetId = 2 ∧
        retirement.disposition = .sent ∧
        retirement.completed.map (·.innerPacketId) = some 1 ∧ ¬ retirement.Own := by
  have hrun : (sampleRetirements (fun _ _ => True) (sampleSending ++
      [.claim, .handle (.constant (seconds 12) 8) (sampleStaged (seconds 12) samplePacket 2).2,
        sampleCompletion])).map
      (fun run => run.retirements.map fun r =>
        (r.record.packetId, r.disposition, r.completed.map (·.innerPacketId))) =
        some [(1, .cleared, none), (2, .sent, some 1)] := by
    decide +kernel
  obtain ⟨run, hrun, hretired⟩ := Option.map_eq_some_iff.mp hrun
  have hmem : (2, QueueDisposition.sent, some 1) ∈ run.retirements.map fun r =>
      (r.record.packetId, r.disposition, r.completed.map (·.innerPacketId)) := by
    rw [hretired]
    exact mem_cons_of_mem _ (mem_singleton_self _)
  obtain ⟨retirement, hretirement, heq⟩ := mem_map.mp hmem
  simp only [Prod.mk.injEq] at heq
  obtain ⟨hid, hsent, hcompleted⟩ := heq
  refine ⟨run, sampleRetirements_reachable hrun, retirement, hretirement, hid, hsent, hcompleted,
    fun hown => ?_⟩
  obtain ⟨pending, hpend, -, hsame⟩ := hown (by rw [hsent]; rfl)
  rw [hpend, Option.map_some, ← hsame, hid] at hcompleted
  cases hcompleted

end WireguardNx.Runtime
