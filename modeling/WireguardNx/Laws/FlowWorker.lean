import Mathlib.Data.List.Infix
import WireguardNx.Lib.Ensures
import WireguardNx.Lib.SharedSlots
import WireguardNx.Lib.Slots
import WireguardNx.Mitm.FlowWorker

/-!
# The outbound datagrams of the flow worker

`Stored` is the invariant of the worker's outbound storage.  The slots in use are shared by the
queues of the flows, their number is the counter, and the datagrams that a socket had accepted are,
in this order, those that were retired, those that wait in its queue and those that were discarded.

The queues change in three ways only: a datagram is appended, a prefix is retired, and everything is
discarded.  Each has a lemma, and every function of the worker is put together from these and from
writes that do not concern the storage.
-/

namespace WireguardNx.Mitm

open Tunnel Function List

variable {entry : FlowEntry} {slots : List Nat} {count slot : Nat}

/-! ## What became of a socket's datagrams -/

/-- The accepted datagrams are those that were retired, each reported accepted, those that wait, and
as many others as were discarded; no datagram is accepted twice. -/
structure SocketHistory.Ordered (history : SocketHistory) (waiting : List OutboundDatagram) :
    Prop where
  split : ∃ lost, history.accepted = history.retired.map Prod.fst ++ waiting ++ lost ∧
    lost.length = history.discarded
  reported : ∀ entry ∈ history.retired, entry.2 = .success
  nodup : history.accepted.Nodup

namespace SocketHistory.Ordered

variable {history : SocketHistory} {waiting : List OutboundDatagram}

theorem empty : Ordered ⟨[], [], 0⟩ [] :=
  ⟨⟨[], rfl, rfl⟩, by simp, nodup_nil⟩

/-- While nothing was discarded, one more is accepted. -/
theorem accept (h : history.Ordered waiting) (hdiscarded : history.discarded = 0)
    {datagram : OutboundDatagram} (hnew : datagram ∉ history.accepted) :
    Ordered ⟨history.accepted ++ [datagram], history.retired, history.discarded⟩
      (waiting ++ [datagram]) := by
  obtain ⟨lost, hsplit, hlost⟩ := h.split
  have hnone : lost = [] := eq_nil_of_length_eq_zero (hlost.trans hdiscarded)
  subst hnone
  refine ⟨⟨[], ?_, hlost⟩, h.reported, ?_⟩
  · rw [hsplit]
    simp
  · refine nodup_append.mpr ⟨h.nodup, nodup_singleton _, fun a ha b hb hab => hnew ?_⟩
    rw [mem_singleton] at hb
    exact hb ▸ hab ▸ ha

/-- A prefix of the waiting ones is retired. -/
theorem retire (h : history.Ordered waiting) {reported : List (OutboundDatagram × ProtocolStatus)}
    (htaken : reported.map Prod.fst = waiting.take count)
    (hsuccess : ∀ entry ∈ reported, entry.2 = .success) :
    Ordered ⟨history.accepted, history.retired ++ reported, history.discarded⟩
      (waiting.drop count) := by
  obtain ⟨lost, hsplit, hlost⟩ := h.split
  refine ⟨⟨lost, ?_, hlost⟩, fun entry hentry => ?_, h.nodup⟩
  · simp only
    rw [hsplit, map_append, htaken,
      append_assoc _ (waiting.take count) (waiting.drop count), take_append_drop]
  · rcases mem_append.mp hentry with hold | hnew
    · exact h.reported entry hold
    · exact hsuccess entry hnew

/-- All that wait are discarded. -/
theorem discard (h : history.Ordered waiting) :
    Ordered ⟨history.accepted, history.retired, history.discarded + waiting.length⟩ [] := by
  obtain ⟨lost, hsplit, hlost⟩ := h.split
  refine ⟨⟨waiting ++ lost, ?_, ?_⟩, h.reported, h.nodup⟩
  · simp only
    rw [hsplit, append_nil, append_assoc]
  · simp only [length_append]
    omega

end SocketHistory.Ordered

/-- A closed flow has nothing queued, and nothing was discarded from one that is not. -/
structure FlowEntry.Tidy (entry : FlowEntry) : Prop where
  closed_queued : entry.submission.closed = true → entry.submission.queued = 0
  open_discarded : entry.submission.closed = false → entry.queuedDiscarded = 0

/-- Two entries have the same part in the outbound storage. -/
structure FlowEntry.SameStorage (entry other : FlowEntry) : Prop where
  queued : entry.submission.queued = other.submission.queued
  closed : entry.submission.closed = other.submission.closed
  slots : entry.outboundSlots = other.outboundSlots
  history : entry.history = other.history

namespace TunnelFlowWorker

variable {worker after : TunnelFlowWorker} {i j : Fin maximumSockets}
  {statuses : List ProtocolStatus}

/-! ## Slots in use -/

def usedSlots (worker : TunnelFlowWorker) : Finset Nat :=
  (Finset.univ.filter fun k => (worker.outboundDatagrams k).occupied = true).map Fin.valEmbedding

theorem mem_usedSlots : slot ∈ worker.usedSlots ↔ ∃ h : slot < maximumQueuedOutboundDatagrams,
      (worker.outboundDatagrams ⟨slot, h⟩).occupied := by
  simp only [usedSlots, Finset.mem_map, Finset.mem_filter, Finset.mem_univ, true_and,
    Fin.valEmbedding_apply]
  constructor
  · rintro ⟨k, hk, rfl⟩
    exact ⟨k.isLt, hk⟩
  · rintro ⟨h, hk⟩
    exact ⟨⟨slot, h⟩, hk, rfl⟩

private theorem card_usedSlots (worker : TunnelFlowWorker) :
    worker.usedSlots.card = slotCount OutboundDatagram.occupied worker.outboundDatagrams := by
  rw [usedSlots, Finset.card_map, slotCount_eq_sum, Finset.card_filter]
  refine Finset.sum_congr rfl fun k _ => ?_
  cases (worker.outboundDatagrams k).occupied <;> rfl

def datagramAt (worker : TunnelFlowWorker) (slot : Nat) : OutboundDatagram :=
  if h : slot < maximumQueuedOutboundDatagrams then worker.outboundDatagrams ⟨slot, h⟩ else .empty

/-- The datagrams in the queue of a flow, in their order. -/
def waiting (worker : TunnelFlowWorker) (i : Fin maximumSockets) : List OutboundDatagram :=
  (worker.flows i).queuedSlots.map worker.datagramAt

def withoutSlots (worker : TunnelFlowWorker) (slots : List Nat) : TunnelFlowWorker :=
  { worker with
    outboundDatagrams := fun k =>
      if k.val ∈ slots then .empty else worker.outboundDatagrams k
    outboundDatagramCount := worker.outboundDatagramCount - slots.length }

private theorem withoutSlots_cons (worker : TunnelFlowWorker)
    (h : slot < maximumQueuedOutboundDatagrams)
    (slots : List Nat) :
    { worker with
      outboundDatagrams := update worker.outboundDatagrams ⟨slot, h⟩ .empty
      outboundDatagramCount := worker.outboundDatagramCount - 1 }.withoutSlots slots =
        worker.withoutSlots (slot :: slots) := by
  simp only [withoutSlots, mk.injEq, true_and, and_true, length_cons]
  refine ⟨funext fun k => ?_, by omega⟩
  by_cases hk : k = ⟨slot, h⟩
  · subst hk
    simp
  · have hval : k.val ≠ slot := fun heq => hk (Fin.ext heq)
    simp [hk, hval]

/-- Emptying different slots that are in use does not abort. -/
theorem emptySlots_eq (hnodup : slots.Nodup) (hused : ∀ slot ∈ slots, slot ∈ worker.usedSlots) :
    worker.emptySlots slots = some (worker.withoutSlots slots) := by
  induction slots generalizing worker with
  | nil => simp [emptySlots, withoutSlots]
  | cons slot slots ih =>
    obtain ⟨hlt, hocc⟩ := mem_usedSlots.mp (hused slot (by simp))
    have hnext : ∀ other ∈ slots, other ∈ usedSlots { worker with
        outboundDatagrams := update worker.outboundDatagrams ⟨slot, hlt⟩ .empty
        outboundDatagramCount := worker.outboundDatagramCount - 1 } := by
      intro other hother
      obtain ⟨hlt', hocc'⟩ := mem_usedSlots.mp (hused other (by simp [hother]))
      have hne : other ≠ slot := fun heq => (nodup_cons.mp hnodup).1 (heq ▸ hother)
      refine mem_usedSlots.mpr ⟨hlt', ?_⟩
      simpa [update, hne] using hocc'
    rw [emptySlots, dif_pos hlt, if_pos hocc, ih (nodup_cons.mp hnodup).2 hnext,
      withoutSlots_cons]

private theorem usedSlots_withoutSlots {worker : TunnelFlowWorker} {slots : List Nat} :
    (worker.withoutSlots slots).usedSlots = worker.usedSlots.filter fun k => k ∉ slots := by
  ext slot
  rw [Finset.mem_filter, mem_usedSlots, mem_usedSlots]
  by_cases h : slot ∈ slots <;> simp [withoutSlots, h, OutboundDatagram.empty]

private theorem datagramAt_withoutSlots (h : slot ∉ slots) :
    (worker.withoutSlots slots).datagramAt slot = worker.datagramAt slot := by
  simp [datagramAt, withoutSlots, h]

/-! ## The invariant -/

/-- What holds of the storage of one flow. -/
structure FlowStored (worker : TunnelFlowWorker) (i : Fin maximumSockets) : Prop where
  slots_length : (worker.flows i).outboundSlots.length = maximumQueuedOutboundDatagramsPerSocket
  queued_le : (worker.flows i).submission.queued ≤ maximumQueuedOutboundDatagramsPerSocket
  ordered : (worker.flows i).history.Ordered (worker.waiting i)
  serial_lt : ∀ datagram ∈ (worker.flows i).accepted, datagram.serial < worker.serial
  vacant : (worker.flows i).occupied = false → worker.flows i = .empty
  tidy : (worker.flows i).Tidy

structure Stored (worker : TunnelFlowWorker) : Prop where
  shares : Shares (fun i => (worker.flows i).queuedSlots) worker.usedSlots
  count : worker.outboundDatagramCount = worker.usedSlots.card
  sized : ∀ slot ∈ worker.usedSlots,
    (worker.datagramAt slot).payload.length ≤ maximumQueuedOutboundPayloadBytes
  flows : ∀ i, worker.FlowStored i
  ended : ∀ history ∈ worker.ended, history.Ordered []

namespace FlowStored

theorem of_empty (h : worker.flows i = .empty) : worker.FlowStored i := by
  have hwait : worker.waiting i = [] := by
    rw [waiting, h]
    rfl
  refine ⟨?_, ?_, ?_, ?_, fun _ => h, ?_⟩
  · rw [h]
    rfl
  · rw [h]
    exact Nat.zero_le _
  · rw [hwait, h]
    exact SocketHistory.Ordered.empty
  · rw [h]
    exact nofun
  · rw [h]
    exact ⟨fun _ => rfl, fun _ => rfl⟩

theorem queuedSlots_length (h : worker.FlowStored i) :
    (worker.flows i).queuedSlots.length = (worker.flows i).submission.queued := by
  have hle := h.queued_le
  rw [FlowEntry.queuedSlots, length_take, h.slots_length]
  omega

theorem waiting_length (h : worker.FlowStored i) :
    (worker.waiting i).length = (worker.flows i).submission.queued := by
  rw [waiting, length_map, h.queuedSlots_length]

/-- The storage of a flow whose entry was written. -/
theorem of_entry (hself : worker.flows i = entry) (hocc : entry.occupied)
    (hlength : entry.outboundSlots.length = maximumQueuedOutboundDatagramsPerSocket)
    (hqueued : entry.submission.queued ≤ maximumQueuedOutboundDatagramsPerSocket)
    (hordered : entry.history.Ordered (worker.waiting i))
    (hserial : ∀ datagram ∈ entry.accepted, datagram.serial < worker.serial) (htidy : entry.Tidy) :
    worker.FlowStored i := by
  subst hself
  refine ⟨hlength, hqueued, hordered, hserial, fun hfalse => ?_, htidy⟩
  rw [hocc] at hfalse
  cases hfalse

/-- A flow that is not written keeps its part, when its queued datagrams are where they were. -/
theorem of_eq (h : worker.FlowStored j) (hflow : after.flows j = worker.flows j)
    (hdatagrams : ∀ slot ∈ (worker.flows j).queuedSlots,
      after.datagramAt slot = worker.datagramAt slot)
    (hserial : worker.serial ≤ after.serial) : after.FlowStored j := by
  have hwait : after.waiting j = worker.waiting j := by
    unfold waiting
    rw [hflow]
    exact map_congr_left hdatagrams
  refine ⟨?_, ?_, ?_, ?_, ?_, ?_⟩ <;> rw [hflow]
  · exact h.slots_length
  · exact h.queued_le
  · rw [hwait]
    exact h.ordered
  · exact fun datagram hdatagram => (h.serial_lt datagram hdatagram).trans_le hserial
  · exact h.vacant
  · exact h.tidy

end FlowStored

private theorem stored_initial : initial.Stored where
  shares := by
    have hnone : initial.usedSlots = ∅ := by decide
    rw [hnone]
    exact Shares.empty
  count := by decide
  sized := by decide
  flows _ := .of_empty rfl
  ended := by simp [initial]

namespace Stored

theorem used_of_queued (h : worker.Stored) (hslot : slot ∈ (worker.flows i).queuedSlots) :
    slot ∈ worker.usedSlots :=
  (h.shares.mem_iff slot).mpr ⟨i, hslot⟩

/-- One flow entry is written, and the slots that stay in use keep their datagrams. -/
theorem of_write (h : worker.Stored) (hothers : ∀ j, j ≠ i → after.flows j = worker.flows j)
    (hshares : Shares (update (fun j => (worker.flows j).queuedSlots) i
      (after.flows i).queuedSlots) after.usedSlots)
    (hcount : after.outboundDatagramCount = after.usedSlots.card)
    (hkept : ∀ slot ∈ after.usedSlots, slot ∈ worker.usedSlots →
      after.datagramAt slot = worker.datagramAt slot)
    (hnew : ∀ slot ∈ after.usedSlots, slot ∉ worker.usedSlots →
      (after.datagramAt slot).payload.length ≤ maximumQueuedOutboundPayloadBytes)
    (hself : after.FlowStored i) (hserial : worker.serial ≤ after.serial)
    (hended : ∀ history ∈ after.ended, history.Ordered []) : after.Stored := by
  have hqueues : update (fun j => (worker.flows j).queuedSlots) i
      (after.flows i).queuedSlots = fun j => (after.flows j).queuedSlots := by
    funext j
    rcases eq_or_ne j i with rfl | hne
    · rw [update_self]
    · rw [update_of_ne hne, hothers j hne]
  rw [hqueues] at hshares
  refine ⟨hshares, hcount, fun slot hslot => ?_, fun j => ?_, hended⟩
  · by_cases hold : slot ∈ worker.usedSlots
    · rw [hkept slot hslot hold]
      exact h.sized slot hold
    · exact hnew slot hslot hold
  · rcases eq_or_ne j i with rfl | hne
    · exact hself
    · refine (h.flows j).of_eq (hothers j hne) (fun slot hslot => ?_) hserial
      refine hkept slot ((hshares.mem_iff slot).mpr ⟨j, ?_⟩) (h.used_of_queued hslot)
      rwa [hothers j hne]

/-- A flow entry is written that has the same part in the storage. -/
theorem setFlow (h : worker.Stored) (hsame : entry.SameStorage (worker.flows i))
    (hocc : entry.occupied) : (worker.setFlow i entry).Stored := by
  have hi := h.flows i
  have hself : (worker.setFlow i entry).flows i = entry := update_self ..
  have hqueue : entry.queuedSlots = (worker.flows i).queuedSlots := by
    rw [FlowEntry.queuedSlots, hsame.queued, hsame.slots, FlowEntry.queuedSlots]
  have hacc : entry.accepted = (worker.flows i).accepted :=
    congrArg SocketHistory.accepted hsame.history
  have hdiscarded : entry.queuedDiscarded = (worker.flows i).queuedDiscarded :=
    congrArg SocketHistory.discarded hsame.history
  refine h.of_write (fun j hne => update_of_ne hne ..) ?_ h.count (fun _ _ _ => rfl)
    (fun _ hslot hnot => absurd hslot hnot) ?_ le_rfl h.ended
  · rw [hself, hqueue, update_eq_self]
    exact h.shares
  · refine .of_entry hself hocc ?_ ?_ ?_ ?_ ⟨fun hclosed => ?_, fun hopen => ?_⟩
    · exact hsame.slots ▸ hi.slots_length
    · exact hsame.queued ▸ hi.queued_le
    · rw [waiting, hself, hqueue, hsame.history]
      exact hi.ordered
    · exact hacc ▸ hi.serial_lt
    · exact hsame.queued ▸ hi.tidy.closed_queued (hsame.closed ▸ hclosed)
    · exact hdiscarded ▸ hi.tidy.open_discarded (hsame.closed ▸ hopen)

/-- Fields that do not concern the storage are written. -/
theorem of_eq (h : worker.Stored) (hflows : after.flows = worker.flows)
    (hdatagrams : after.outboundDatagrams = worker.outboundDatagrams)
    (hcount : after.outboundDatagramCount = worker.outboundDatagramCount)
    (hserial : after.serial = worker.serial) (hended : after.ended = worker.ended) :
    after.Stored := by
  have hused : after.usedSlots = worker.usedSlots := by
    rw [usedSlots, hdatagrams, usedSlots]
  have hat (slot : Nat) : after.datagramAt slot = worker.datagramAt slot := by
    rw [datagramAt, hdatagrams, datagramAt]
  refine ⟨?_, ?_, ?_, fun i => ?_, ?_⟩
  · rw [hflows, hused]
    exact h.shares
  · rw [hcount, hused]
    exact h.count
  · rw [hused]
    exact fun slot hslot => hat slot ▸ h.sized slot hslot
  · exact (h.flows i).of_eq (congrFun hflows i) (fun slot _ => hat slot) hserial.ge
  · rw [hended]
    exact h.ended

/-! ## A prefix of a queue leaves -/

/-- Emptying the slots of a prefix of a queue does not abort. -/
theorem emptySlots_take (h : worker.Stored) (i : Fin maximumSockets) (count : Nat) :
    worker.emptySlots ((worker.flows i).queuedSlots.take count) =
      some (worker.withoutSlots ((worker.flows i).queuedSlots.take count)) :=
  emptySlots_eq ((h.shares.nodup i).sublist (take_sublist ..))
    fun _ hslot => h.used_of_queued (mem_of_mem_take hslot)

/-- A prefix of the queue of a flow leaves with its slots; the entry is written accordingly. -/
theorem remove (h : worker.Stored) {removed : List Nat} (count : Nat)
    (hremoved : removed = (worker.flows i).queuedSlots.take count)
    (hflows : after.flows = update worker.flows i entry)
    (hslots : entry.queuedSlots = (worker.flows i).queuedSlots.drop count)
    (hdatagrams : after.outboundDatagrams = (worker.withoutSlots removed).outboundDatagrams)
    (hcount : after.outboundDatagramCount = worker.outboundDatagramCount - removed.length)
    (hserial : after.serial = worker.serial)
    (hself : after.waiting i = (worker.waiting i).drop count → after.FlowStored i)
    (hended : ∀ history ∈ after.ended, history.Ordered []) : after.Stored := by
  have hnodup := h.shares.nodup i
  have hentry : after.flows i = entry := by
    rw [hflows, update_self]
  have hused : after.usedSlots = worker.usedSlots.filter fun k => k ∉ removed := by
    rw [usedSlots, hdatagrams]
    exact usedSlots_withoutSlots
  have hat {slot : Nat} (hslot : slot ∉ removed) :
      after.datagramAt slot = worker.datagramAt slot := by
    rw [datagramAt, hdatagrams]
    exact datagramAt_withoutSlots hslot
  refine h.of_write (fun j hne => ?_) ?_ ?_ (fun slot hslot _ => ?_) (fun slot hslot hnot => ?_)
    (hself ?_) hserial.ge hended
  · rw [hflows, update_of_ne hne]
  · rw [hentry, hslots, hused, hremoved]
    exact h.shares.drop i count
  · have hcard : (worker.usedSlots.filter fun k => k ∉ removed).card + removed.length =
        worker.usedSlots.card := by
      rw [← toFinset_card_of_nodup (hremoved ▸ hnodup.sublist (take_sublist ..)),
        ← Finset.card_filter_add_card_filter_not (s := worker.usedSlots) (fun k => k ∉ removed)]
      congr 2
      ext slot
      simp only [mem_toFinset, Finset.mem_filter, not_not]
      exact ⟨fun hslot => ⟨h.used_of_queued (mem_of_mem_take (hremoved ▸ hslot)), hslot⟩,
        And.right⟩
    have hbefore := h.count
    rw [hused, hcount]
    omega
  · rw [hused] at hslot
    exact hat (Finset.mem_filter.mp hslot).2
  · rw [hused] at hslot
    exact absurd (Finset.mem_filter.mp hslot).1 hnot
  · rw [waiting, hentry, hslots, waiting, ← map_drop]
    refine map_congr_left fun slot hslot => hat fun htaken => ?_
    exact disjoint_take_drop hnodup le_rfl (hremoved ▸ htaken) hslot

end Stored

def discardedEntry (entry : FlowEntry) : FlowEntry :=
  { entry with
    submission := entry.submission.retire entry.submission.queued
    queuedDiscarded := entry.queuedDiscarded + entry.submission.queued }

private theorem discardedEntry_queuedSlots {entry : FlowEntry} :
    (discardedEntry entry).queuedSlots = [] := by
  simp [discardedEntry, FlowEntry.queuedSlots, TunnelFlowSubmissionState.retire]

/-- A flow entry after its submission was closed and its queue discarded. -/
def terminatedEntry (entry : FlowEntry) : FlowEntry :=
  discardedEntry { entry with submission := entry.submission.close }

theorem discardQueuedOutbound_eq (hnodup : (worker.flows i).queuedSlots.Nodup)
    (hused : ∀ slot ∈ (worker.flows i).queuedSlots, slot ∈ worker.usedSlots) (counted : Bool) :
    worker.discardQueuedOutbound i counted =
      some { worker.withoutSlots (worker.flows i).queuedSlots with
        flows := update worker.flows i (discardedEntry (worker.flows i))
        sendDiscarded := if counted then worker.sendDiscarded + (worker.flows i).submission.queued
          else worker.sendDiscarded } := by
  rw [discardQueuedOutbound, releaseQueuedOutbound, emptySlots_eq hnodup hused]
  simp [setSubmission, TunnelFlowWorker.setFlow, withoutSlots, discardedEntry]

namespace Stored

/-- The whole queue of a flow leaves. -/
theorem removeAll (h : worker.Stored) (hslots : entry.queuedSlots = [])
    (hflows : after.flows = update worker.flows i entry) (hdatagrams : after.outboundDatagrams =
      (worker.withoutSlots (worker.flows i).queuedSlots).outboundDatagrams)
    (hcount : after.outboundDatagramCount =
      worker.outboundDatagramCount - (worker.flows i).queuedSlots.length)
    (hserial : after.serial = worker.serial) (hself : after.waiting i = [] → after.FlowStored i)
    (hended : ∀ history ∈ after.ended, history.Ordered []) : after.Stored := by
  have hwait := drop_eq_nil_of_le (h.flows i).waiting_length.le
  refine h.remove (worker.flows i).submission.queued ?_ hflows ?_ hdatagrams hcount hserial
    (hwait ▸ hself) hended
  · rw [take_of_length_le (h.flows i).queuedSlots_length.le]
  · rw [hslots, drop_eq_nil_of_le (h.flows i).queuedSlots_length.le]

theorem discarded_ordered (h : worker.Stored) (i : Fin maximumSockets) :
    (discardedEntry (worker.flows i)).history.Ordered [] := by
  have hdiscard := (h.flows i).ordered.discard
  rwa [(h.flows i).waiting_length] at hdiscard

/-- The submission of a flow is closed and its queue discarded. -/
theorem terminate (h : worker.Stored) (hocc : (worker.flows i).occupied) :
    Ensures (worker.terminate i) fun after => after.Stored ∧
        after.flows = update worker.flows i (terminatedEntry (worker.flows i)) ∧
        after.outboundDatagramCount ≤ worker.outboundDatagramCount := by
  have hclosed : (worker.setSubmission i (worker.flows i).submission.close).flows i =
      { worker.flows i with submission := (worker.flows i).submission.close } :=
    update_self ..
  have hslots : ((worker.setSubmission i (worker.flows i).submission.close).flows i).queuedSlots =
      (worker.flows i).queuedSlots := by
    rw [hclosed]
    rfl
  have hnodup := hslots.symm ▸ h.shares.nodup i
  rw [TunnelFlowWorker.terminate, discardQueuedOutbound_eq hnodup
    (fun slot hslot => h.used_of_queued (hslots ▸ hslot)), hclosed]
  have hflows : update (worker.setSubmission i (worker.flows i).submission.close).flows i
      (terminatedEntry (worker.flows i)) =
        update worker.flows i (terminatedEntry (worker.flows i)) := update_idem ..
  refine .of_some ⟨h.removeAll discardedEntry_queuedSlots hflows rfl rfl rfl (fun hwait => ?_)
    h.ended, hflows, Nat.sub_le ..⟩
  refine .of_entry (update_self ..) hocc (h.flows i).slots_length ?_ ?_
    (h.flows i).serial_lt ⟨fun _ => Nat.sub_self _, nofun⟩
  · simp [discardedEntry, TunnelFlowSubmissionState.retire]
  · rw [hwait]
    exact h.discarded_ordered i

/-- A flow is reset. -/
theorem resetFlow (h : worker.Stored) (i : Fin maximumSockets) (counted : Bool) :
    Ensures (worker.resetFlow i counted) Stored := by
  rw [TunnelFlowWorker.resetFlow, discardQueuedOutbound_eq (h.shares.nodup i)
    (fun _ => h.used_of_queued), Option.map_some]
  refine .of_some (h.removeAll (i := i) rfl (update_idem ..) rfl rfl rfl ?_ fun history
    hhistory => ?_)
  · exact fun _ => .of_empty (update_self ..)
  · rcases mem_append.mp hhistory with hold | hnew
    · exact h.ended history hold
    · rw [mem_singleton.mp hnew]
      change (update worker.flows i (discardedEntry (worker.flows i)) i).history.Ordered []
      rw [update_self]
      exact h.discarded_ordered i

end Stored

/-! ## A datagram is queued -/

theorem take_set_succ {α : Type*} {slots : List α} {n : Nat} (h : n < slots.length) {a : α} :
    (slots.set n a).take (n + 1) = slots.take n ++ [a] := by
  rw [take_add_one, getElem?_set_self h, take_set_of_le le_rfl]
  rfl

/-- The first free slot is not in use. -/
theorem freeOutbound_not_used {k : Fin maximumQueuedOutboundDatagrams}
    (h : worker.freeOutbound = some k) : k.val ∉ worker.usedSlots := by
  have hfree := find?_some h
  intro hused
  obtain ⟨hlt, hocc⟩ := mem_usedSlots.mp hused
  simp [hocc] at hfree

/-- The worker after a datagram was put into a free slot and into the queue of a flow. -/
def withDatagram (worker : TunnelFlowWorker) (i : Fin maximumSockets)
    (k : Fin maximumQueuedOutboundDatagrams) (payload : List UInt8) : TunnelFlowWorker :=
  { worker with
    outboundDatagrams := Function.update worker.outboundDatagrams k ⟨true, payload, worker.serial⟩
    outboundDatagramCount := worker.outboundDatagramCount + 1
    flows := Function.update worker.flows i { worker.flows i with
      outboundSlots := (worker.flows i).outboundSlots.set (worker.flows i).submission.queued k
      submission := (worker.flows i).submission.enqueue
      accepted := (worker.flows i).accepted ++ [⟨true, payload, worker.serial⟩] }
    serial := worker.serial + 1 }

/-- What `QueueOutbound` can do. -/
theorem queueOutbound_cases {payload : List UInt8} {queued : Bool}
    (h : worker.queueOutbound i payload = (queued, after)) : (queued = false ∧ after = worker) ∨
      (queued ∧
        (worker.flows i).submission.canAccept maximumQueuedOutboundDatagramsPerSocket ∧
        ∃ k, worker.freeOutbound = some k ∧ after = worker.withDatagram i k payload) := by
  unfold queueOutbound at h
  simp only at h
  split at h
  · cases h
    exact .inl ⟨rfl, rfl⟩
  · rename_i hadmitted
    simp only [Bool.or_eq_true, Bool.not_eq_true', not_or] at hadmitted
    split at h
    · cases h
      exact .inl ⟨rfl, rfl⟩
    · rename_i k hk
      cases h
      exact .inr ⟨rfl, by simpa using hadmitted.1, k, hk, rfl⟩

section WithDatagram

variable {k : Fin maximumQueuedOutboundDatagrams} {payload : List UInt8}

theorem usedSlots_withDatagram :
    (worker.withDatagram i k payload).usedSlots = insert k.val worker.usedSlots := by
  ext slot
  rw [Finset.mem_insert, mem_usedSlots, mem_usedSlots]
  by_cases hslot : slot = k.val
  · subst hslot
    simp [withDatagram]
  · have hne (hlt : slot < maximumQueuedOutboundDatagrams) :
        (⟨slot, hlt⟩ : Fin maximumQueuedOutboundDatagrams) ≠ k := fun heq =>
      hslot (congrArg Fin.val heq)
    simp [withDatagram, hslot, hne]

theorem datagramAt_withDatagram_self :
    (worker.withDatagram i k payload).datagramAt k.val = ⟨true, payload, worker.serial⟩ := by
  simp [datagramAt, withDatagram]

theorem datagramAt_withDatagram (h : slot ≠ k.val) :
    (worker.withDatagram i k payload).datagramAt slot = worker.datagramAt slot := by
  have hne (hlt : slot < maximumQueuedOutboundDatagrams) :
      (⟨slot, hlt⟩ : Fin maximumQueuedOutboundDatagrams) ≠ k := fun heq =>
    h (congrArg Fin.val heq)
  simp [datagramAt, withDatagram, hne]

/-- A datagram goes into a free slot and to the end of the queue of an open flow. -/
theorem Stored.withDatagram (h : worker.Stored) (hfree : k.val ∉ worker.usedSlots)
    (hsize : payload.length ≤ maximumQueuedOutboundPayloadBytes)
    (hocc : (worker.flows i).occupied) (hadmitted :
      (worker.flows i).submission.canAccept maximumQueuedOutboundDatagramsPerSocket) :
    (worker.withDatagram i k payload).Stored := by
  have hflow := h.flows i
  simp only [TunnelFlowSubmissionState.canAccept, Bool.and_eq_true, Bool.not_eq_true',
    decide_eq_true_eq] at hadmitted
  obtain ⟨⟨hopen, -⟩, hplace⟩ := hadmitted
  have hself : (worker.withDatagram i k payload).flows i = { worker.flows i with
      outboundSlots := (worker.flows i).outboundSlots.set (worker.flows i).submission.queued k
      submission := (worker.flows i).submission.enqueue
      accepted := (worker.flows i).accepted ++ [⟨true, payload, worker.serial⟩] } :=
    update_self ..
  have hqueue : ((worker.withDatagram i k payload).flows i).queuedSlots =
      (worker.flows i).queuedSlots ++ [k.val] := by
    rw [hself]
    exact take_set_succ (hflow.slots_length ▸ hplace)
  have hne {slot : Nat} (hslot : slot ∈ worker.usedSlots) : slot ≠ k.val :=
    fun heq => hfree (heq ▸ hslot)
  have hwait : (worker.withDatagram i k payload).waiting i =
      worker.waiting i ++ [⟨true, payload, worker.serial⟩] := by
    rw [waiting, hqueue, map_append, map_singleton, datagramAt_withDatagram_self]
    congr 1
    exact map_congr_left fun slot hslot =>
      datagramAt_withDatagram (hne (h.used_of_queued hslot))
  have hnew : (⟨true, payload, worker.serial⟩ : OutboundDatagram) ∉ (worker.flows i).accepted :=
    fun hmem => lt_irrefl _ (hflow.serial_lt _ hmem)
  refine h.of_write (fun j hji => update_of_ne hji ..) ?_ ?_
    (fun slot _ hold => datagramAt_withDatagram (hne hold)) (fun slot hslot hold => ?_) ?_
    (Nat.le_succ _) h.ended
  · rw [hqueue, usedSlots_withDatagram]
    exact h.shares.append i hfree
  · rw [usedSlots_withDatagram, Finset.card_insert_of_notMem hfree, ← h.count]
    rfl
  · rw [usedSlots_withDatagram] at hslot
    obtain rfl := (Finset.mem_insert.mp hslot).resolve_right hold
    rw [datagramAt_withDatagram_self]
    exact hsize
  · refine .of_entry hself hocc ?_ hplace ?_ ?_ ⟨fun hclosed => ?_, fun _ => ?_⟩
    · rw [length_set]
      exact hflow.slots_length
    · rw [hwait]
      exact hflow.ordered.accept (hflow.tidy.open_discarded hopen) hnew
    · intro datagram hdatagram
      rcases mem_append.mp hdatagram with hold | hlast
      · exact (hflow.serial_lt datagram hold).trans (Nat.lt_succ_self _)
      · rw [mem_singleton.mp hlast]
        exact Nat.lt_succ_self _
    · exact absurd (hopen.symm.trans hclosed) (by decide)
    · exact hflow.tidy.open_discarded hopen

end WithDatagram

/-! ## A prefix is retired -/

/-- Shifting moves what is behind a prefix to the front. -/
theorem shiftSlots_eq {count remaining : Nat} (h : count + remaining ≤ slots.length) :
    shiftSlots slots count remaining = (slots.drop count).take remaining ++ slots.drop remaining := by
  induction remaining with
  | zero => simp [shiftSlots]
  | succ n ih =>
    have hshift : shiftSlots slots count (n + 1) =
        (shiftSlots slots count n).set n ((shiftSlots slots count n).getD (n + count) 0) := by
      rw [shiftSlots, range_succ, foldl_concat]
      rfl
    have hlen : ((slots.drop count).take n).length = n := by
      rw [length_take, length_drop]
      omega
    have hn : n < slots.length := by omega
    have hcount : n + count < slots.length := by omega
    have hread : ((slots.drop count).take n ++ slots.drop n).getD (n + count) 0 =
        slots[n + count] := by
      rw [getD_eq_getElem?_getD, getElem?_append_right (by omega), hlen,
        getElem?_drop, Nat.add_sub_cancel_left, getElem?_eq_getElem hcount]
      rfl
    have hlast : (slots.drop count)[n]? = some slots[n + count] := by
      rw [getElem?_drop, Nat.add_comm count n, getElem?_eq_getElem hcount]
    rw [hshift, ih (by omega), hread, set_append_right _ _ (by omega), hlen, Nat.sub_self,
      drop_eq_getElem_cons hn, set_cons_zero, take_add_one, hlast]
    simp

private theorem shiftSlots_length {count remaining : Nat} (h : count + remaining ≤ slots.length) :
    (shiftSlots slots count remaining).length = slots.length := by
  rw [shiftSlots_eq h, length_append, length_take, length_drop, length_drop]
  omega

/-- The slots of the queue behind a retired prefix. -/
theorem shiftSlots_take {count queued : Nat} (hcount : count ≤ queued)
    (hqueued : queued ≤ slots.length) :
    (shiftSlots slots count (queued - count)).take (queued - count) =
      (slots.take queued).drop count := by
  have hlen : ((slots.drop count).take (queued - count)).length = queued - count := by
    rw [length_take, length_drop]
    omega
  rw [shiftSlots_eq (by omega), take_append_of_le_length hlen.ge, take_take, min_self,
    drop_take]

/-- Retiring a reported prefix of the queue of an open flow. -/
theorem Stored.retireQueuedOutboundPrefix (h : worker.Stored)
    {reported : List (OutboundDatagram × ProtocolStatus)}
    (hcount : count ≤ (worker.flows i).submission.queued)
    (hreported : reported.map Prod.fst = (worker.waiting i).take count)
    (hsuccess : ∀ entry ∈ reported, entry.2 = .success) (hocc : (worker.flows i).occupied)
    (hopen : (worker.flows i).submission.closed = false) :
    Ensures (worker.retireQueuedOutboundPrefix i count reported) fun after =>
      after.Stored ∧ after.flows = update worker.flows i { worker.flows i with
        outboundSlots := shiftSlots (worker.flows i).outboundSlots count
          ((worker.flows i).submission.queued - count)
        submission := (worker.flows i).submission.retire count
        retired := (worker.flows i).retired ++ reported } ∧
      after.outboundDatagramCount + count ≤ worker.outboundDatagramCount := by
  have hflow := h.flows i
  have hle : (worker.flows i).submission.queued ≤ (worker.flows i).outboundSlots.length :=
    hflow.slots_length ▸ hflow.queued_le
  have htaken : (worker.flows i).outboundSlots.take count =
      (worker.flows i).queuedSlots.take count := by
    rw [FlowEntry.queuedSlots, take_take, min_eq_left hcount]
  rw [TunnelFlowWorker.retireQueuedOutboundPrefix, if_pos hcount, htaken, h.emptySlots_take i count,
    Option.map_some]
  refine .of_some ⟨?_, rfl, ?_⟩
  · refine h.remove (i := i) count rfl rfl (shiftSlots_take hcount hle) rfl rfl rfl
      (fun hwait => ?_) h.ended
    refine .of_entry (update_self ..) hocc ?_ ((Nat.sub_le ..).trans hflow.queued_le) ?_
      hflow.serial_lt ⟨fun hclosed => ?_, fun _ => hflow.tidy.open_discarded hopen⟩
    · rw [shiftSlots_length (by omega)]
      exact hflow.slots_length
    · rw [hwait]
      exact hflow.ordered.retire hreported hsuccess
    · exact absurd (hopen.symm.trans hclosed) (by decide)
  · have hused : ((worker.flows i).queuedSlots.take count).length = count := by
      rw [length_take, hflow.queuedSlots_length]
      exact min_eq_left hcount
    have htotal : (worker.flows i).submission.queued ≤ worker.outboundDatagramCount := by
      rw [h.count, h.shares.card_eq, ← hflow.queuedSlots_length]
      exact le_sum_slots (fun queue => length queue) (fun j => (worker.flows j).queuedSlots) i
    change worker.outboundDatagramCount - ((worker.flows i).queuedSlots.take count).length + count ≤ _
    omega

/-! ## Flows that stay occupied -/

/-- The invariant, with a flow that stays occupied. -/
structure StoredAt (i : Fin maximumSockets) (worker : TunnelFlowWorker) : Prop where
  stored : worker.Stored
  occupied : (worker.flows i).occupied = true

namespace StoredAt

/-- An occupied entry is written. -/
theorem of_update (hstored : after.Stored) (hflows : after.flows = update worker.flows i entry)
    (hocc : entry.occupied) : StoredAt i after := by
  refine ⟨hstored, ?_⟩
  rw [hflows, update_self]
  exact hocc

theorem setFlow (h : worker.StoredAt i) (hsame : entry.SameStorage (worker.flows i))
    (hocc : entry.occupied) : StoredAt i (worker.setFlow i entry) :=
  of_update (h.stored.setFlow hsame hocc) rfl hocc

theorem terminate (h : worker.StoredAt i) :
    Ensures (worker.terminate i) fun after => StoredAt i after ∧
      after.outboundDatagramCount ≤ worker.outboundDatagramCount :=
  (h.stored.terminate h.occupied).mono fun _ hafter =>
    ⟨of_update hafter.1 hafter.2.1 h.occupied, hafter.2.2⟩

end StoredAt

/-- A reported client failure does not concern the storage. -/
theorem Stored.reportTunnelClientFailure (h : worker.Stored) :
    worker.reportTunnelClientFailure.Stored :=
  h.of_eq rfl rfl rfl rfl rfl

theorem StoredAt.reportTunnelClientFailure (h : worker.StoredAt i) :
    worker.reportTunnelClientFailure.StoredAt i :=
  ⟨h.stored.reportTunnelClientFailure, h.occupied⟩

/-- A selection of the flows is reset. -/
theorem Stored.resetSelected (h : worker.Stored) (selected : FlowEntry → Bool) :
    Ensures ((finRange maximumSockets).foldlM (fun worker i =>
      if selected (worker.flows i) then worker.resetFlow i true else some worker) worker)
      Stored := by
  refine .foldlM (fun worker i _ hworker => ?_) h
  split
  · exact hworker.resetFlow i true
  · exact .of_some hworker

/-! ## Batches -/

/-- Building a batch of datagrams in use, of which there is place for as many as there are, does not
abort. -/
theorem Stored.buildBatch_eq (h : worker.Stored) {payloadSize : Nat}
    (hused : ∀ slot ∈ slots, slot ∈ worker.usedSlots)
    (hplace : payloadSize + slots.length * maximumQueuedOutboundPayloadBytes ≤
      batchPayloadCapacity) :
    worker.buildBatch payloadSize slots = some (slots.map worker.datagramAt) := by
  induction slots generalizing payloadSize with
  | nil => rfl
  | cons slot slots ih =>
    have hslot := hused slot mem_cons_self
    obtain ⟨hlt, hocc⟩ := mem_usedSlots.mp hslot
    have hdatagram : worker.datagramAt slot = worker.outboundDatagrams ⟨slot, hlt⟩ := dif_pos hlt
    have hsize := hdatagram ▸ h.sized slot hslot
    rw [length_cons, Nat.succ_mul] at hplace
    rw [buildBatch, dif_pos hlt, if_pos ⟨hocc, by omega⟩,
      ih (fun other hother => hused other (mem_cons_of_mem _ hother)) (by omega), map_cons,
      hdatagram]
    rfl

/-- The accepted entries are a prefix of the batch, all of them reported accepted; as long as
nothing else was reported they are the whole batch. -/
structure BatchVerdict.Fits (verdict : BatchVerdict) (statuses : List ProtocolStatus) : Prop where
  count_le : verdict.acceptedCount ≤ statuses.length
  success : ∀ status ∈ statuses.take verdict.acceptedCount, status = .success
  whole : verdict.queueFull = false → verdict.terminalFailure = false →
    verdict.acceptedCount = statuses.length

theorem BatchVerdict.Fits.note {verdict : BatchVerdict} (h : verdict.Fits statuses)
    (status : ProtocolStatus) : (verdict.note status).Fits (statuses ++ [status]) := by
  have hsame : ∀ s ∈ (statuses ++ [status]).take verdict.acceptedCount, s = .success := by
    rw [take_append_of_le_length h.count_le]
    exact h.success
  have hle : verdict.acceptedCount ≤ (statuses ++ [status]).length := by
    have hcount := h.count_le
    rw [length_append]
    omega
  unfold BatchVerdict.note
  split
  · rename_i hsuccess
    obtain ⟨hstatus, hfull, hterminal⟩ := hsuccess
    have hwhole := h.whole hfull hterminal
    refine ⟨?_, ?_, ?_⟩
    · simp [hwhole]
    · intro s hs
      rcases mem_append.mp (mem_of_mem_take hs) with hold | hnew
      · exact h.success s (by rwa [hwhole, take_length])
      · rw [mem_singleton.mp hnew, hstatus]
    · intro _ _
      simp [hwhole]
  · split
    · exact ⟨hle, hsame, nofun⟩
    · exact ⟨hle, hsame, nofun⟩

theorem BatchVerdict.fits_of : (BatchVerdict.of statuses).Fits statuses := by
  induction statuses using reverseRecOn with
  | nil => exact ⟨le_rfl, by simp, fun _ _ => rfl⟩
  | append_singleton statuses status ih =>
    rw [BatchVerdict.of, foldl_concat]
    exact ih.note status

/-- What a step of the submission keeps; a datagram leaves when there is progress. -/
structure Submitted (before : TunnelFlowWorker) (result : Bool × TunnelFlowWorker) : Prop where
  stored : result.2.Stored
  count_le : result.2.outboundDatagramCount + result.1.toNat ≤ before.outboundDatagramCount

/-- The entries of a batch with what was reported for them. -/
theorem map_fst_zip_take {α β : Type*} {batch : List α} {statuses : List β}
    (hcount : count ≤ statuses.length) :
    ((batch.zip statuses).take count).map Prod.fst = batch.take count := by
  rw [zip_eq_zipWith, take_zipWith, ← zip_eq_zipWith, map_fst_zip]
  simp only [length_take]
  omega

private theorem snd_mem_of_mem_zip_take {α β : Type*} {batch : List α} {statuses : List β}
    {entry : α × β}
    (h : entry ∈ (batch.zip statuses).take count) : entry.2 ∈ statuses.take count := by
  rw [zip_eq_zipWith, take_zipWith, ← zip_eq_zipWith] at h
  exact (of_mem_zip h).2

/-- What follows the loop over the dispositions of a batch. -/
theorem StoredAt.applyVerdict (h : worker.StoredAt i) {batch : List OutboundDatagram}
    {verdict : BatchVerdict} (hfits : verdict.Fits statuses)
    (hbatch : batch = (worker.waiting i).take statuses.length)
    (hlength : statuses.length ≤ (worker.flows i).submission.queued)
    (hopen : (worker.flows i).submission.closed = false) :
    Ensures (worker.applyVerdict i (batch.zip statuses) verdict) (Submitted worker) := by
  have hretired : Ensures
      (if verdict.acceptedCount ≠ 0 then
        worker.retireQueuedOutboundPrefix i verdict.acceptedCount
          ((batch.zip statuses).take verdict.acceptedCount)
      else some worker) fun after =>
        StoredAt i after ∧
          after.outboundDatagramCount + (decide (verdict.acceptedCount ≠ 0)).toNat ≤
            worker.outboundDatagramCount := by
    split
    · rename_i hsome
      have htaken : ((batch.zip statuses).take verdict.acceptedCount).map Prod.fst =
          (worker.waiting i).take verdict.acceptedCount := by
        rw [map_fst_zip_take hfits.count_le, hbatch, take_take, min_eq_left hfits.count_le]
      refine (h.stored.retireQueuedOutboundPrefix (hfits.count_le.trans hlength) htaken
        (fun entry hentry => hfits.success _ (snd_mem_of_mem_zip_take hentry)) h.occupied hopen).mono ?_
      rintro after ⟨hstored, hflows, hcount⟩
      refine ⟨of_update hstored hflows h.occupied, ?_⟩
      rw [decide_eq_true hsome, Bool.toNat_true]
      omega
    · rename_i hnone
      refine .of_some ⟨h, ?_⟩
      rw [decide_eq_false hnone, Bool.toNat_false, Nat.add_zero]
  refine hretired.bind ?_
  rintro after ⟨hafter, hcount⟩
  simp only
  split
  · refine hafter.terminate.map ?_
    rintro final ⟨hfinal, hless⟩
    exact ⟨hfinal.stored, by simp only; omega⟩
  · split
    · have hfull : StoredAt i (after.setSubmission i (after.flows i).submission.noteQueueFull) :=
        hafter.setFlow ⟨rfl, rfl, rfl, rfl⟩ hafter.occupied
      exact .of_some ⟨hfull.stored, hcount⟩
    · exact .of_some ⟨hafter.stored, hcount⟩

/-- The submission for one flow. -/
theorem Stored.submitFlow (h : worker.Stored) (i : Fin maximumSockets) (response : BatchResponse) :
    Ensures (worker.submitFlow i response) (Submitted worker) := by
  unfold TunnelFlowWorker.submitFlow
  simp only
  split
  · rename_i hready
    simp only [TunnelFlowSubmissionState.canSubmit, Bool.and_eq_true, Bool.not_eq_true'] at hready
    obtain ⟨hocc, ⟨hopen, -⟩, -⟩ := hready
    have hi : StoredAt i worker := ⟨h, hocc⟩
    have hflow := h.flows i
    have hle := hflow.queued_le
    have hentries : min (worker.flows i).submission.queued maximumBatchEntriesPerSubmission =
        (worker.flows i).submission.queued := min_eq_left hle
    have hbatch : worker.buildBatch 0 (worker.flows i).queuedSlots = some (worker.waiting i) := by
      refine h.buildBatch_eq (fun slot => h.used_of_queued) ?_
      rw [Nat.zero_add, hflow.queuedSlots_length]
      exact Nat.mul_le_mul_right _ hle
    rw [hentries]
    change Ensures ((worker.buildBatch 0 (worker.flows i).queuedSlots).bind _) _
    rw [hbatch, Option.bind_some]
    match response with
    | none =>
      refine hi.terminate.map ?_
      rintro after ⟨hafter, hcount⟩
      exact ⟨hafter.stored.reportTunnelClientFailure, hcount⟩
    | some dispositions =>
      have hlength : ((ofFn dispositions).take (worker.flows i).submission.queued).length =
          (worker.flows i).submission.queued := by
        rw [length_take, length_ofFn]
        exact min_eq_left hle
      refine hi.applyVerdict BatchVerdict.fits_of ?_ hlength.le hopen
      rw [hlength, take_of_length_le hflow.waiting_length.le]
  · exact .of_some ⟨h, le_rfl⟩

/-- One pass over the flows. -/
theorem Stored.submitPass (h : worker.Stored) (responses : Fin maximumSockets → BatchResponse) :
    Ensures (worker.submitPass responses) (Submitted worker) := by
  refine .foldlM (fun state i _ hstate => ?_) ⟨h, le_rfl⟩
  refine (hstate.stored.submitFlow i (responses i)).map ?_
  rintro ⟨progress, after⟩ hafter
  refine ⟨hafter.stored, ?_⟩
  have hbefore := hstate.count_le
  have hless := hafter.count_le
  simp only at hless ⊢
  have hor : (state.1 || progress).toNat ≤ state.1.toNat + progress.toNat := by
    cases state.1 <;> cases progress <;> decide
  omega

/-- The passes come to their end: each one with progress takes a datagram. -/
theorem Stored.submitPasses (h : worker.Stored)
    (responses : Nat → Fin maximumSockets → BatchResponse) {passes : Nat}
    (hpasses : worker.outboundDatagramCount < passes) :
    Ensures (TunnelFlowWorker.submitPasses responses passes worker) fun result =>
      result.1 ∧ result.2.Stored := by
  induction passes generalizing worker with
  | zero => omega
  | succ passes ih =>
    obtain ⟨⟨progress, after⟩, heq, hafter⟩ := h.submitPass (responses passes)
    unfold submitPasses
    rw [heq]
    cases progress with
    | false => exact .of_some ⟨rfl, hafter.stored⟩
    | true =>
      have hless := hafter.count_le
      exact ih hafter.stored (by simp only [Bool.toNat_true] at hless; omega)

/-- `SubmitQueuedDatagrams` returns. -/
theorem Stored.submitQueuedDatagrams (h : worker.Stored)
    (responses : Nat → Fin maximumSockets → BatchResponse) :
    Ensures (worker.submitQueuedDatagrams responses) fun result => result.1 ∧ result.2.Stored := by
  have hcount : worker.outboundDatagramCount ≤ maximumQueuedOutboundDatagrams := by
    rw [h.count, usedSlots, Finset.card_map]
    exact (Finset.card_le_univ _).trans (by simp)
  exact h.submitPasses responses (Nat.lt_succ_of_le hcount)

/-! ## Completions -/

theorem noteWritable_sameStorage {entry : FlowEntry} :
    { entry with submission := entry.submission.noteWritable }.SameStorage entry := by
  have hnote : entry.submission.noteWritable.queued = entry.submission.queued ∧
      entry.submission.noteWritable.closed = entry.submission.closed := by
    unfold TunnelFlowSubmissionState.noteWritable
    split <;> exact ⟨rfl, rfl⟩
  exact ⟨hnote.1, hnote.2, rfl, rfl⟩

namespace StoredAt

theorem storeInbound (h : worker.StoredAt i) (payload : List UInt8)
    (record : CompletionRecord) : StoredAt i (worker.storeInbound i payload record) := by
  unfold TunnelFlowWorker.storeInbound
  split
  · exact h
  · exact h.setFlow ⟨rfl, rfl, rfl, rfl⟩ h.occupied

theorem receiveRecord (h : worker.StoredAt i) (payload : List UInt8) (record : CompletionRecord) :
    Ensures (worker.receiveRecord i payload record) (StoredAt i) := by
  unfold TunnelFlowWorker.receiveRecord
  simp only
  split
  · exact .of_some h
  · split
    · exact .of_some h
    · split
      · split
        · exact h.terminate.mono fun _ => And.left
        · exact .of_some h
      · exact .of_some (h.setFlow noteWritable_sameStorage h.occupied)
      · exact .of_some h
      · split
        · exact .of_some (h.storeInbound payload record)
        · exact .of_some h

theorem drainRound (h : worker.StoredAt i) (response : ReceiveResponse) :
    Ensures (worker.drainRound i response) fun result => StoredAt i result.2 := by
  cases response with
  | failed => exact h.terminate.map fun _ hafter => hafter.1.reportTunnelClientFailure
  | received status count records payload =>
    unfold TunnelFlowWorker.drainRound
    simp only
    split
    · exact .of_some h
    · split
      · exact h.terminate.map fun _ => And.left
      · split
        · exact (Ensures.foldlM (fun worker record _ hworker =>
            hworker.receiveRecord payload record) h).map fun _ hafter => hafter
        · exact h.terminate.map fun _ hafter => hafter.1.reportTunnelClientFailure

theorem drainRounds (h : worker.StoredAt i) (responses : List ReceiveResponse) :
    Ensures (worker.drainRounds i responses) (StoredAt i) := by
  induction responses generalizing worker with
  | nil => exact .of_some h
  | cons response responses ih =>
    obtain ⟨⟨again, after⟩, heq, hafter⟩ := h.drainRound response
    unfold TunnelFlowWorker.drainRounds
    rw [heq]
    cases again with
    | false => exact .of_some hafter
    | true => exact ih hafter

end StoredAt

theorem Stored.drainAllCompletions (h : worker.Stored)
    (responses : Fin maximumSockets → List ReceiveResponse) :
    Ensures (worker.drainAllCompletions responses) Stored := by
  refine .foldlM (fun worker i _ hworker => ?_) h
  split
  · rename_i hocc
    unfold drainCompletions
    split
    · exact (StoredAt.drainRounds ⟨hworker, hocc⟩ (responses i)).mono fun _ => StoredAt.stored
    · exact .of_some hworker
  · exact .of_some hworker

/-! ## Control signals and operations -/

theorem Stored.resetAllFlows (h : worker.Stored) : Ensures worker.resetAllFlows Stored :=
  h.resetSelected FlowEntry.occupied

theorem Stored.processControlSignals (h : worker.Stored) (service : Option Nat) :
    Ensures (worker.processControlSignals service) Stored := by
  have hinvalidation : Ensures worker.takeInvalidation Stored := by
    unfold takeInvalidation
    split
    · have htaken : Stored { worker with invalidationRequested := false } :=
        h.of_eq rfl rfl rfl rfl rfl
      exact htaken.resetAllFlows.map fun _ hafter => hafter.of_eq rfl rfl rfl rfl rfl
    · exact .of_some h
  refine hinvalidation.bind fun after hafter => ?_
  unfold takeDiscovery
  split
  · have htaken : Stored { after with discoveryRequested := false } :=
      hafter.of_eq rfl rfl rfl rfl rfl
    unfold discoverTunnelService
    split
    · refine htaken.resetAllFlows.map fun final hfinal => ?_
      cases service with
      | none | some maximum => exact hfinal.of_eq rfl rfl rfl rfl rfl
    · exact .of_some htaken
  · exact .of_some hafter

/-- An entry for a flow is opened or reset. -/
theorem StoredAt.openInto (h : worker.StoredAt i) (remote : TunnelFlowEndpoint)
    (response : OpenResponse) :
    Ensures (worker.openInto i remote response) fun result => result.2.Stored := by
  unfold TunnelFlowWorker.openInto
  split
  · exact (h.stored.resetFlow i false).map fun _ hafter => hafter.reportTunnelClientFailure
  · rename_i client _
    have hclient : (worker.setFlow i { worker.flows i with client := some client }).StoredAt i :=
      h.setFlow ⟨rfl, rfl, rfl, rfl⟩ h.occupied
    simp only
    generalize worker.setFlow i _ = w at hclient ⊢
    split
    · exact (hclient.stored.resetFlow i false).map fun _ hafter => hafter.reportTunnelClientFailure
    · rename_i handle _
      split
      · exact (hclient.stored.resetFlow i false).map fun _ hafter => hafter
      · have hopened : (w.setFlow i { w.flows i with flow := handle, remote := remote }).StoredAt i :=
          hclient.setFlow ⟨rfl, rfl, rfl, rfl⟩ hclient.occupied
        split
        · refine .of_some (stored (i := i) ?_)
          exact hopened.setFlow ⟨rfl, rfl, rfl, rfl⟩ hopened.occupied
        · exact (hopened.stored.resetFlow i true).map fun _ hafter =>
            hafter.reportTunnelClientFailure

private theorem findFlow_occupied {owner : UInt64} {descriptor : Int}
    (h : worker.findFlow owner descriptor = some i) : (worker.flows i).occupied := by
  have hfound := find?_some h
  simp only [Bool.and_eq_true] at hfound
  exact hfound.1.1

namespace Stored

theorem dispatchOpen (h : worker.Stored) (owner : UInt64) (descriptor : Int)
    (remote : TunnelFlowEndpoint) (response : OpenResponse) :
    Ensures (worker.dispatchOpen owner descriptor remote response)
      fun result => result.2.Stored := by
  unfold TunnelFlowWorker.dispatchOpen
  split
  · exact .of_some h
  · split
    · exact .of_some h
    · split
      · exact .of_some h.reportTunnelClientFailure
      · split
        · exact .of_some h
        · rename_i i hfree
          refine StoredAt.openInto ⟨?_, ?_⟩ remote response
          · exact h.setFlow ⟨rfl, rfl, rfl, rfl⟩ rfl
          · simp [TunnelFlowWorker.setFlow]

theorem dispatchSend (h : worker.StoredAt i) (input : List UInt8) :
    Stored (worker.dispatchSend i input).2 := by
  unfold TunnelFlowWorker.dispatchSend
  split
  · exact h.stored
  · rename_i hsize
    have hfits : input.length ≤ maximumQueuedOutboundPayloadBytes := by omega
    cases hqueue : worker.queueOutbound i input with
    | mk queued after =>
      rcases queueOutbound_cases hqueue with ⟨rfl, rfl⟩ | ⟨rfl, hadmitted, k, hfree, rfl⟩
      · exact h.stored
      · have hstored := h.stored.withDatagram (freeOutbound_not_used hfree) hfits h.occupied hadmitted
        exact hstored

theorem dispatchPoll (h : worker.Stored) (i : Fin maximumSockets) (poll : PendingPoll)
    (timeout now : Int) : Stored (worker.dispatchPoll i poll timeout now).2 := by
  unfold TunnelFlowWorker.dispatchPoll
  simp only
  split
  · exact h
  · split
    · exact h
    · split
      · exact h
      · exact h.of_eq rfl rfl rfl rfl rfl

theorem dispatchReceive (h : worker.StoredAt i) (outputSize : Nat) :
    Stored (worker.dispatchReceive i outputSize).2 := by
  unfold TunnelFlowWorker.dispatchReceive
  simp only
  split
  · exact h.stored
  · refine StoredAt.stored (i := i) ?_
    exact h.setFlow ⟨rfl, rfl, rfl, rfl⟩ h.occupied

theorem closeMatching (h : worker.Stored) (selected : FlowEntry → Bool) :
    Ensures (worker.closeMatching selected) Stored :=
  h.resetSelected fun entry => entry.occupied && selected entry

theorem withOpenFlow (h : worker.Stored) (owner : UInt64) (descriptor : Int)
    {act : Fin maximumSockets → OperationAnswer × TunnelFlowWorker}
    (hact : ∀ i, StoredAt i worker → Stored (act i).2) :
    Stored (worker.withOpenFlow owner descriptor act).2 := by
  unfold TunnelFlowWorker.withOpenFlow
  split
  · exact h
  · rename_i i hfound
    split
    · exact h
    · exact hact i ⟨h, findFlow_occupied hfound⟩

end Stored

theorem Stored.dispatch (h : worker.Stored) (response : OpenResponse) (now : Int)
    (operation : Operation) :
    Ensures (worker.dispatch response now operation) fun result => result.2.Stored := by
  cases operation with
  | openFlow owner descriptor remote =>
    exact (h.dispatchOpen owner descriptor remote response).map fun _ hafter => hafter
  | send owner descriptor input =>
    exact .of_some (h.withOpenFlow owner descriptor fun i hi => Stored.dispatchSend hi input)
  | receive owner descriptor outputSize =>
    exact .of_some (h.withOpenFlow owner descriptor fun i hi =>
      Stored.dispatchReceive hi outputSize)
  | poll owner descriptor events timeout =>
    exact .of_some (h.withOpenFlow owner descriptor fun i _ =>
      h.dispatchPoll i _ timeout now)
  | close owner descriptor | closeOwner owner =>
    exact (h.closeMatching _).map fun _ hafter => hafter

/-! ## Runs -/

/-- No step aborts, and each keeps the invariant. -/
theorem Stored.step (h : worker.Stored) (action : Action) :
    Ensures (worker.step action) Stored := by
  cases action with
  | requestForInterceptedTraffic due =>
    refine .of_some ?_
    unfold TunnelFlowWorker.requestForInterceptedTraffic
    split
    · exact h.of_eq rfl rfl rfl rfl rfl
    · exact h
  | requestTunnelInvalidation | completePendingPolls now =>
    exact .of_some (h.of_eq rfl rfl rfl rfl rfl)
  | processControlSignals service => exact h.processControlSignals service
  | drainAllCompletions responses => exact h.drainAllCompletions responses
  | dispatch operation response now =>
    exact (h.dispatch response now operation).map fun _ hafter => hafter
  | submitQueuedDatagrams responses =>
    exact (h.submitQueuedDatagrams responses).map fun _ hafter => hafter.2

private theorem stored_of_reachable (hreach : runs.Reachable worker) : worker.Stored := by
  refine Machine.Reachable.invariant ?_ ?_ hreach
  · rintro _ rfl
    exact stored_initial
  · rintro before after - hbefore ⟨action, -, haction⟩
    exact (hbefore.step action).post_of_eq haction

/-- In every run of the worker, whatever the tunnel service answers: the counter is the number of
occupied slots and the sum of what the flows have queued; each occupied slot is one entry of the
queue of one flow; no step aborts and the submission loop comes to its end; and of each socket, open
or ended, the datagrams reported accepted and retired are the first of those that were accepted, in
order and without repetition, and the rest are queued, or discarded because the flow closed. -/
theorem outbound_storage_consistent {worker : TunnelFlowWorker} (hreach : runs.Reachable worker) :
    (worker.outboundDatagramCount = slotCount OutboundDatagram.occupied worker.outboundDatagrams ∧
      worker.outboundDatagramCount = ∑ i, (worker.flows i).submission.queued) ∧
    (∀ k, (worker.outboundDatagrams k).occupied = true ↔
      ∃! i, k.val ∈ (worker.flows i).outboundSlots.take (worker.flows i).submission.queued) ∧
    (∀ i, ((worker.flows i).outboundSlots.take (worker.flows i).submission.queued).Nodup ∧
      ((worker.flows i).outboundSlots.take (worker.flows i).submission.queued).length =
        (worker.flows i).submission.queued) ∧
    (∀ action, (worker.step action).isSome = true) ∧
    (∀ responses, ∃ after, worker.submitQueuedDatagrams responses = some (true, after)) ∧
    (∀ i, ∃ lost,
      (worker.flows i).accepted =
        (worker.flows i).retired.map Prod.fst ++ worker.waiting i ++ lost ∧
      (∀ entry ∈ (worker.flows i).retired, entry.2 = .success) ∧
      (worker.flows i).accepted.Nodup ∧
      lost.length = (worker.flows i).queuedDiscarded ∧
      ((worker.flows i).submission.closed = false → lost = []) ∧
      ((worker.flows i).submission.closed = true → worker.waiting i = [])) ∧
    (∀ history ∈ worker.ended, ∃ lost,
      history.accepted = history.retired.map Prod.fst ++ lost ∧
      (∀ entry ∈ history.retired, entry.2 = .success) ∧
      history.accepted.Nodup ∧ lost.length = history.discarded) := by
  have h := stored_of_reachable hreach
  refine ⟨⟨?_, ?_⟩, fun k => ?_, fun i => ?_, fun action => ?_, fun responses => ?_, fun i => ?_,
    fun history hhistory => ?_⟩
  · rw [h.count, card_usedSlots]
  · rw [h.count, h.shares.card_eq]
    exact Finset.sum_congr rfl fun i _ => (h.flows i).queuedSlots_length
  · constructor
    · intro hk
      obtain ⟨i, hi⟩ := (h.shares.mem_iff k.val).mp (mem_usedSlots.mpr ⟨k.isLt, hk⟩)
      exact ⟨i, hi, fun j hj => h.shares.apart j i k.val hj hi⟩
    · rintro ⟨i, hi, -⟩
      obtain ⟨hlt, hocc⟩ := mem_usedSlots.mp ((h.shares.mem_iff k.val).mpr ⟨i, hi⟩)
      exact hocc
  · exact ⟨h.shares.nodup i, (h.flows i).queuedSlots_length⟩
  · obtain ⟨after, heq, -⟩ := h.step action
    rw [heq]
    rfl
  · obtain ⟨⟨done, after⟩, heq, hdone, -⟩ := h.submitQueuedDatagrams responses
    exact ⟨after, heq.trans (by rw [show done = true from hdone])⟩
  · have hordered := (h.flows i).ordered
    obtain ⟨lost, hsplit, hlost⟩ := hordered.split
    refine ⟨lost, hsplit, hordered.reported, hordered.nodup, hlost, fun hopen => ?_,
      fun hclosed => ?_⟩
    · exact eq_nil_of_length_eq_zero (hlost.trans ((h.flows i).tidy.open_discarded hopen))
    · refine eq_nil_of_length_eq_zero ?_
      rw [(h.flows i).waiting_length]
      exact (h.flows i).tidy.closed_queued hclosed
  · have hordered := h.ended history hhistory
    obtain ⟨lost, hsplit, hlost⟩ := hordered.split
    exact ⟨lost, by rw [hsplit, append_nil], hordered.reported, hordered.nodup, hlost⟩

/-- A flow is opened, two datagrams are sent, and the tunnel service takes the first and has no
place for the second. -/
def sampleActions : List Action :=
  [.requestForInterceptedTraffic true, .processControlSignals (some 1400),
    .dispatch (.openFlow 1 3 ⟨⟨[10, 0, 0, 1], rfl⟩, 53⟩)
      ⟨some ⟨0, 1⟩, some (.success, 7), true⟩ 0,
    .dispatch (.send 1 3 [1, 2]) ⟨none, none, false⟩ 0,
    .dispatch (.send 1 3 [3]) ⟨none, none, false⟩ 0,
    .submitQueuedDatagrams fun _ _ => some fun k => if k.val = 0 then .success else .queueFull]

theorem outbound_storage_consistent_sample :
    ∃ worker, runs.Reachable worker ∧ worker.outboundDatagramCount = 1 ∧
      (worker.flows 0).retired = [(⟨true, [1, 2], 0⟩, .success)] ∧
      worker.outboundDatagramCount = ∑ i, (worker.flows i).submission.queued := by
  have hrun : (Machine.runActions (fun _ _ => True) step sampleActions initial).map
      (fun worker => (worker.outboundDatagramCount, (worker.flows 0).retired)) =
        some (1, [(⟨true, [1, 2], 0⟩, .success)]) := by decide +kernel
  obtain ⟨worker, hworker, hfacts⟩ := Option.map_eq_some_iff.mp hrun
  simp only [Prod.mk.injEq] at hfacts
  have hreach : runs.Reachable worker := (Machine.Reachable.start rfl).of_runActions hworker
  exact ⟨worker, hreach, hfacts.1, hfacts.2, (outbound_storage_consistent hreach).1.2⟩

end TunnelFlowWorker

end WireguardNx.Mitm
