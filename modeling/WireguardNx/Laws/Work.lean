import WireguardNx.Lib.WorkQueue
import WireguardNx.Platform.Work
import Mathlib.Data.Fintype.Basic

/-!
# Work queues and what they stand for

The flags of the work, the links, the counters and the variable of the serving thread describe a
queue of coalescing work: the work that is linked waits, and the work that runs is to run again when
it is marked.  Every operation on the queues is a step of that queue, unless the work is rejected.
-/

namespace WireguardNx.Platform

open Function List

namespace Works

variable {Λ ι : Type} {laneOf : ι → Λ} {w : Works Λ ι} {wq : Λ} {i : ι}

/-- Whether the work that a thread runs is marked to run again. -/
def again (w : Works Λ ι) (wq : Λ) : Bool :=
  match (w.queues wq).work with
  | none => false
  | some work => (w.works work).rerun

/-- What a queue stands for. -/
def view (w : Works Λ ι) (wq : Λ) : WorkQueue ι :=
  ⟨(w.queues wq).works, (w.queues wq).work, w.again wq⟩

/-- The flags, the links and the counters agree, and every work is on its own queue. -/
structure Consistent (laneOf : ι → Λ) (w : Works Λ ι) : Prop where
  lane : ∀ wq, ∀ i ∈ (w.queues wq).works, laneOf i = wq
  nodup : ∀ wq, (w.queues wq).works.Nodup
  queued : ∀ i, (w.works i).queued = true ↔ i ∈ (w.queues (laneOf i)).works
  work : ∀ wq i, (w.queues wq).work = some i → laneOf i = wq ∧ i ∉ (w.queues wq).works
  running : ∀ i, (w.works i).running = true ↔ (w.queues (laneOf i)).work = some i
  rerun : ∀ i, (w.works i).rerun = true → (w.works i).running = true
  owner : ∀ i, (w.works i).owner = none ∨ (w.works i).owner = some (laneOf i)
  pending : ∀ wq, (w.queues wq).pendingCount = (w.queues wq).works.length + (w.again wq).toNat
  active : ∀ wq, (w.queues wq).activeCount = (w.queues wq).work.isSome.toNat
  serving : ∀ wq, (w.queues wq).stopping = false

/-- Queues on which nothing was placed. -/
theorem consistent_init {capacity : Λ → Nat} :
    Consistent laneOf ⟨fun wq => .alloc (capacity wq), fun _ : ι => .init⟩ where
  lane _ _ h := (nomatch h)
  nodup _ := nodup_nil
  queued _ := ⟨nofun, nofun⟩
  work _ _ h := (nomatch h)
  running _ := ⟨nofun, nofun⟩
  rerun _ h := (nomatch h)
  owner _ := .inl rfl
  pending _ := rfl
  active _ := rfl
  serving _ := rfl

theorem Consistent.again_eq (h : Consistent laneOf w) (hrunning : (w.works i).running) :
    w.again (laneOf i) = (w.works i).rerun := by
  unfold again
  rw [(h.running i).mp hrunning]

/-- Work is pending when one of its two flags is set. -/
theorem Consistent.pending_iff (h : Consistent laneOf w) :
    (w.view (laneOf i)).Pending i ↔ ((w.works i).queued || (w.works i).rerun) := by
  rw [Bool.or_eq_true, h.queued i]
  refine or_congr Iff.rfl ⟨fun ⟨hwork, hagain⟩ => ?_, fun hrerun => ?_⟩
  · exact (h.again_eq ((h.running i).mpr hwork)).symm.trans hagain
  · have hrunning := h.rerun i hrerun
    exact ⟨(h.running i).mp hrunning, (h.again_eq hrunning).trans hrerun⟩

/-- The work as it stands when it is not pending. -/
theorem Consistent.not_pending (h : Consistent laneOf w) (hnew : ¬(w.view (laneOf i)).Pending i) :
    i ∉ (w.queues (laneOf i)).works ∧ (w.works i).queued = false ∧ (w.works i).rerun = false := by
  rw [h.pending_iff, Bool.or_eq_true, not_or, Bool.not_eq_true, Bool.not_eq_true] at hnew
  refine ⟨fun hmem => ?_, hnew.1, hnew.2⟩
  rw [(h.queued i).mpr hmem] at hnew
  cases hnew.1

/-- A queue with one work more. -/
theorem Consistent.append (h : Consistent laneOf w) (hlane : laneOf i = wq)
    (hnew : i ∉ (w.queues wq).works) :
    (∀ k ∈ (w.queues wq).works ++ [i], laneOf k = wq) ∧ ((w.queues wq).works ++ [i]).Nodup ∧
      i ∈ (w.queues wq).works ++ [i] ∧
      ∀ k, k ≠ i → (k ∈ (w.queues wq).works ++ [i] ↔ k ∈ (w.queues wq).works) := by
  simp only [mem_append, mem_singleton]
  refine ⟨fun k hk => ?_, ?_, .inr trivial, fun k hk => ⟨fun hin => hin.resolve_right hk, .inl⟩⟩
  · rcases hk with hold | rfl
    · exact h.lane wq k hold
    · exact hlane
  · exact nodup_append_comm.mp (nodup_cons.mpr ⟨hnew, h.nodup wq⟩)

theorem Consistent.queueWorkResult_eq [DecidableEq Λ] (h : Consistent laneOf w)
    (hcapacity : 0 < (w.queues (laneOf i)).pendingCapacity) : w.queueWorkResult (laneOf i) i =
      if ((w.works i).queued || (w.works i).rerun) = true then .alreadyPending
      else if (w.queues (laneOf i)).pendingCapacity ≤ (w.queues (laneOf i)).pendingCount then
        .capacityExhausted else if (w.works i).running = true then .rerunQueued else .queued := by
  have havail : (!(w.queues (laneOf i)).stopping && (decide ((w.works i).owner = none) ||
      decide ((w.works i).owner = some (laneOf i)))) := by
    rw [h.serving, Bool.not_false, Bool.true_and, Bool.or_eq_true, decide_eq_true_eq,
      decide_eq_true_eq]
    exact h.owner i
  unfold queueWorkResult classifyQueueWorkRequest
  rw [havail, if_neg (not_or.mpr ⟨nofun, hcapacity.ne'⟩)]

section Operations

variable [DecidableEq Λ] [DecidableEq ι] {other : Works Λ ι}

def write (w : Works Λ ι) (wq : Λ) (i : ι) (queue : Workqueue ι) (work : WorkInternal Λ) :
    Works Λ ι where
  queues := Function.update w.queues wq queue
  works := Function.update w.works i work

section Write

variable {queue : Workqueue ι} {work : WorkInternal Λ}

@[simp] theorem write_queues_self : (w.write wq i queue work).queues wq = queue :=
  update_self ..

theorem write_queues_of_ne {wq' : Λ} (h : wq' ≠ wq) :
    (w.write wq i queue work).queues wq' = w.queues wq' :=
  update_of_ne h ..

@[simp] theorem write_works_self : (w.write wq i queue work).works i = work :=
  update_self ..

theorem write_works_of_ne {k : ι} (h : k ≠ i) : (w.write wq i queue work).works k = w.works k :=
  update_of_ne h ..

/-- The mark of the work that runs on the queue that is written. -/
theorem write_again_self : (w.write wq i queue work).again wq = match queue.work with
    | none => false
    | some k => if k = i then work.rerun else (w.works k).rerun := by
  unfold again
  rw [write_queues_self]
  cases queue.work with
  | none => rfl
  | some k =>
    show ((w.write wq i queue work).works k).rerun = if k = i then _ else _
    split
    · rename_i hk
      rw [hk, write_works_self]
    · rename_i hk
      rw [write_works_of_ne hk]

/-- Another queue stands for what it did. -/
theorem Consistent.view_write_of_ne (h : Consistent laneOf w) (hlane : laneOf i = wq) {wq' : Λ}
    (hne : wq' ≠ wq) : (w.write wq i queue work).view wq' = w.view wq' := by
  have hagain : (w.write wq i queue work).again wq' = w.again wq' := by
    unfold again
    rw [write_queues_of_ne hne]
    cases hwork : (w.queues wq').work with
    | none => rfl
    | some k =>
      have hk : k ≠ i := by
        rintro rfl
        exact hne ((h.work wq' k hwork).1.symm.trans hlane)
      show ((w.write wq i queue work).works k).rerun = _
      rw [write_works_of_ne hk]
  unfold view
  rw [write_queues_of_ne hne, hagain]

/-- What is written agrees with the rest when it agrees with itself. -/
theorem Consistent.write (h : Consistent laneOf w) (hlane : laneOf i = wq)
    (hworks : ∀ k ∈ queue.works, laneOf k = wq) (hnodup : queue.works.Nodup)
    (hqueued : work.queued ↔ i ∈ queue.works)
    (hothers : ∀ k, k ≠ i → (k ∈ queue.works ↔ k ∈ (w.queues wq).works))
    (hrunning : work.running ↔ queue.work = some i)
    (hrunners : ∀ k, k ≠ i → (queue.work = some k ↔ (w.queues wq).work = some k))
    (hapart : ∀ k, queue.work = some k → k ∉ queue.works) (hrerun : work.rerun → work.running)
    (howner : work.owner = none ∨ work.owner = some wq)
    (hpend : queue.pendingCount = queue.works.length +
      ((w.write wq i queue work).again wq).toNat)
    (hactive : queue.activeCount = queue.work.isSome.toNat) (hserving : queue.stopping = false) :
    Consistent laneOf (w.write wq i queue work) := by
  have hqueues {P : Λ → Workqueue ι → Prop} (hwritten : P wq queue)
      (hother : ∀ wq', wq' ≠ wq → P wq' (w.queues wq')) (wq' : Λ) :
      P wq' ((w.write wq i queue work).queues wq') :=
    (forall_update_iff w.queues P).mpr ⟨hwritten, hother⟩ wq'
  -- Work on another queue is other work.
  have helsewhere {k : ι} (hk : laneOf k ≠ wq) : k ≠ i := by
    rintro rfl
    exact hk hlane
  refine ⟨?_, ?_, fun k => ?_, ?_, fun k => ?_, ?_, ?_, fun wq' => ?_, ?_, ?_⟩
  · exact hqueues (P := fun wq' queue => ∀ k ∈ queue.works, laneOf k = wq') hworks
      fun wq' _ => h.lane wq'
  · exact hqueues (P := fun _ queue => queue.works.Nodup) hnodup fun wq' _ => h.nodup wq'
  · by_cases hk : k = i
    · subst hk
      rw [write_works_self, hlane, write_queues_self]
      exact hqueued
    · rw [write_works_of_ne hk]
      by_cases hon : laneOf k = wq
      · rw [hon, write_queues_self, hothers k hk, h.queued k, hon]
      · rw [write_queues_of_ne hon]
        exact h.queued k
  · refine hqueues (P := fun wq' queue => ∀ k, queue.work = some k → laneOf k = wq' ∧ k ∉ queue.works)
      (fun k hk => ⟨?_, hapart k hk⟩) fun wq' _ => h.work wq'
    by_cases hki : k = i
    · rw [hki, hlane]
    · exact (h.work wq k ((hrunners k hki).mp hk)).1
  · by_cases hk : k = i
    · subst hk
      rw [write_works_self, hlane, write_queues_self]
      exact hrunning
    · rw [write_works_of_ne hk]
      by_cases hon : laneOf k = wq
      · rw [hon, write_queues_self, hrunners k hk, h.running k, hon]
      · rw [write_queues_of_ne hon]
        exact h.running k
  · exact (forall_update_iff w.works fun _ work =>
      work.rerun → work.running).mpr ⟨hrerun, fun k _ => h.rerun k⟩
  · exact (forall_update_iff w.works fun k work =>
      work.owner = none ∨ work.owner = some (laneOf k)).mpr ⟨hlane ▸ howner, fun k _ => h.owner k⟩
  · by_cases hne : wq' = wq
    · subst hne
      rw [write_queues_self]
      exact hpend
    · have hview : (w.write wq i queue work).again wq' = w.again wq' :=
        congrArg WorkQueue.again (h.view_write_of_ne hlane hne)
      rw [hview, write_queues_of_ne hne]
      exact h.pending wq'
  · exact hqueues (P := fun _ queue => queue.activeCount = queue.work.isSome.toNat) hactive
      fun wq' _ => h.active wq'
  · exact hqueues (P := fun _ queue => queue.stopping = false) hserving fun wq' _ => h.serving wq'

end Write

/-! ## Requests -/

/-- What a request answers and does. -/
inductive Request (w : Works Λ ι) (wq : Λ) (i : ι) : QueueWorkResult → Works Λ ι → Prop
  | alreadyPending (h : (w.view wq).Pending i) : Request w wq i .alreadyPending w
  | capacityExhausted (hnew : ¬(w.view wq).Pending i)
      (hfull : (w.queues wq).pendingCapacity ≤ (w.queues wq).pendingCount) :
      Request w wq i .capacityExhausted w
  | rerunQueued (hnew : ¬(w.view wq).Pending i)
      (hroom : (w.queues wq).pendingCount < (w.queues wq).pendingCapacity)
      (hrunning : (w.queues wq).work = some i) :
      Request w wq i .rerunQueued (w.write wq i
        { w.queues wq with pendingCount := (w.queues wq).pendingCount + 1 }
        { w.works i with rerun := true })
  | queued (hnew : ¬(w.view wq).Pending i)
      (hroom : (w.queues wq).pendingCount < (w.queues wq).pendingCapacity)
      (hrunning : (w.queues wq).work ≠ some i) :
      Request w wq i .queued (w.write wq i
        { w.queues wq with
          works := (w.queues wq).works ++ [i]
          pendingCount := (w.queues wq).pendingCount + 1 }
        { w.works i with queued := true, owner := some wq })

theorem Consistent.queueWork_request (h : Consistent laneOf w) (hlane : laneOf i = wq)
    (hcapacity : 0 < (w.queues wq).pendingCapacity) :
    Request w wq i (w.queueWork wq i).1 (w.queueWork wq i).2 := by
  subst hlane
  unfold queueWork
  simp only
  rw [h.queueWorkResult_eq hcapacity]
  split
  · rename_i hflags
    exact .alreadyPending (h.pending_iff.mpr hflags)
  · rename_i hflags
    have hnew : ¬(w.view (laneOf i)).Pending i := fun hpend => hflags (h.pending_iff.mp hpend)
    split
    · rename_i hfull
      exact .capacityExhausted hnew hfull
    · rename_i hroom
      have hroom := Nat.lt_of_not_le hroom
      split
      · rename_i hrunning
        exact .rerunQueued hnew hroom ((h.running i).mp hrunning)
      · rename_i hrunning
        exact .queued hnew hroom fun hwork => hrunning ((h.running i).mpr hwork)

/-- The step that a request is for the queue it is placed on. -/
def requestAct (result : QueueWorkResult) (i : ι) : WorkQueue.Act ι :=
  match result with
  | .queued | .rerunQueued | .alreadyPending => .request i
  | .capacityExhausted | .unavailable => .other

theorem Consistent.request (h : Consistent laneOf w) (hlane : laneOf i = wq)
    {result : QueueWorkResult} (hreq : Request w wq i result other) :
    Consistent laneOf other ∧ WorkQueue.Step (w.view wq) (requestAct result i) (other.view wq) ∧
      ∀ wq', wq' ≠ wq → other.view wq' = w.view wq' := by
  subst hlane
  cases hreq with
  | alreadyPending hpend => exact ⟨h, .coalesce _ i hpend, fun _ _ => rfl⟩
  | capacityExhausted => exact ⟨h, .other _, fun _ _ => rfl⟩
  | rerunQueued hnew _ hrunning =>
    obtain ⟨hmem, hqueued, hrerun⟩ := h.not_pending hnew
    have hrun := (h.running i).mpr hrunning
    have hagain : w.again (laneOf i) = false := (h.again_eq hrun).trans hrerun
    have hagain' : (w.write (laneOf i) i
        { w.queues (laneOf i) with pendingCount := (w.queues (laneOf i)).pendingCount + 1 }
        { w.works i with rerun := true }).again (laneOf i) := by
      rw [write_again_self]
      simp only [hrunning, if_true]
    refine ⟨?_, ?_, fun wq' hne => h.view_write_of_ne rfl hne⟩
    · refine h.write rfl (h.lane _) (h.nodup _) ?_ (fun _ _ => Iff.rfl) ?_ (fun _ _ => Iff.rfl)
        (fun k hk => (h.work _ k hk).2) (fun _ => hrun) (h.owner i) ?_ (h.active _) (h.serving _)
      · exact h.queued i
      · exact h.running i
      · rw [hagain', h.pending, hagain]
        rfl
    · refine WorkQueue.Step.of_eq (.rerun _ i hrunning) ?_
      unfold view
      rw [hagain', write_queues_self]
  | queued hnew _ hrunning =>
    obtain ⟨hmem, hqueued, hrerun⟩ := h.not_pending hnew
    have hrun : (w.works i).running ≠ true := fun hrun => hrunning ((h.running i).mp hrun)
    have hagain' : (w.write (laneOf i) i { w.queues (laneOf i) with
          works := (w.queues (laneOf i)).works ++ [i]
          pendingCount := (w.queues (laneOf i)).pendingCount + 1 }
        { w.works i with queued := true, owner := some (laneOf i) }).again (laneOf i) =
        w.again (laneOf i) := by
      rw [write_again_self, again]
      simp only
      cases hwork : (w.queues (laneOf i)).work with
      | none => rfl
      | some k =>
        simp only
        rw [if_neg]
        rintro rfl
        exact hrunning hwork
    obtain ⟨hworks, hnodup, hlast, hothers⟩ := h.append rfl hmem
    refine ⟨?_, ?_, fun wq' hne => h.view_write_of_ne rfl hne⟩
    · refine h.write rfl hworks hnodup ⟨fun _ => hlast, fun _ => rfl⟩ hothers (h.running i)
        (fun _ _ => Iff.rfl) (fun k hk hin => ?_) (h.rerun i) (.inr rfl) ?_ (h.active _)
        (h.serving _)
      · have hne : k ≠ i := by
          rintro rfl
          exact hrunning hk
        exact (h.work _ k hk).2 ((hothers k hne).mp hin)
      · rw [hagain', h.pending, length_append]
        show _ + 1 = _ + 1 + _
        omega
    · refine WorkQueue.Step.of_eq (.enqueue _ i hmem hrunning) ?_
      unfold view
      rw [hagain', write_queues_self]

/-! ## The thread of a queue -/

/-- What taking the next work does. -/
theorem beginWork_eq (hbegin : w.beginWork wq = some other) :
    ∃ i rest, (w.queues wq).work = none ∧ (w.queues wq).works = i :: rest ∧
      other = w.write wq i
        { w.queues wq with
          works := rest
          pendingCount := (w.queues wq).pendingCount - 1
          activeCount := (w.queues wq).activeCount + 1
          work := some i }
        { w.works i with queued := false, running := true } := by
  unfold beginWork at hbegin
  split at hbegin
  · cases hbegin
  rename_i hwork
  unfold dequeueWorkLocked at hbegin
  split at hbegin
  · cases hbegin
  rename_i i rest hworks
  exact ⟨i, rest, hwork, hworks, (Option.some.inj hbegin).symm⟩

theorem Consistent.beginWork (h : Consistent laneOf w) (hbegin : w.beginWork wq = some other) :
    ∃ i, Consistent laneOf other ∧ laneOf i = wq ∧
      (w.queues wq).works.head? = some i ∧
      WorkQueue.Step (w.view wq) (.start i) (other.view wq) ∧
      ∀ wq', wq' ≠ wq → other.view wq' = w.view wq' := by
  obtain ⟨i, rest, hwork, hworks, rfl⟩ := beginWork_eq hbegin
  have hlane : laneOf i = wq := h.lane wq i (hworks ▸ mem_cons_self)
  have hmem (k : ι) : k ∈ (w.queues wq).works ↔ k = i ∨ k ∈ rest := by rw [hworks, mem_cons]
  obtain ⟨hnot, hrest⟩ := nodup_cons.mp (hworks ▸ h.nodup wq)
  have hidle : (w.works i).rerun = false := by
    by_contra hrerun
    have hrunning := (h.running i).mp (h.rerun i (Bool.not_eq_false _ ▸ hrerun))
    rw [hlane, hwork] at hrunning
    cases hrunning
  have hagain : w.again wq = false := by
    unfold again
    rw [hwork]
  have hagain' (queue : Workqueue ι) (hqueue : queue.work = some i) : (w.write wq i queue
      { w.works i with queued := false, running := true }).again wq = false := by
    rw [write_again_self, hqueue]
    simp only [if_true]
    exact hidle
  refine ⟨i, ?_, hlane, by rw [hworks]; rfl, ?_, fun wq' hne => h.view_write_of_ne hlane hne⟩
  · refine h.write hlane (fun k hk => h.lane wq k ((hmem k).mpr (.inr hk))) hrest ?_ (fun k hk => ?_)
      ⟨fun _ => rfl, fun _ => rfl⟩ (fun k hk => ?_) (fun k hk => ?_) (fun _ => rfl)
      (hlane ▸ h.owner i) ?_ ?_ (h.serving wq)
    · exact ⟨nofun, fun hin => (hnot hin).elim⟩
    · rw [hmem]
      exact ⟨.inr, fun hin => hin.resolve_left hk⟩
    · rw [hwork]
      exact ⟨fun heq => (hk (Option.some.inj heq).symm).elim, nofun⟩
    · obtain rfl := Option.some.inj hk
      exact hnot
    · rw [hagain' _ rfl]
      show _ - 1 = rest.length + 0
      rw [h.pending, hworks, hagain]
      rfl
    · show _ + 1 = 1
      rw [h.active, hwork]
      rfl
  · refine WorkQueue.Step.of_eq (.start _ i rest hworks hwork) ?_
    unfold view
    rw [hagain' _ rfl, write_queues_self]

/-- What a callback's return does: its work is done, or queued again. -/
theorem Consistent.endWork_eq (h : Consistent laneOf w) (hend : w.endWork wq = some other) :
    ∃ i, (w.queues wq).work = some i ∧
      ((w.works i).rerun = false ∧ other = w.write wq i
        { w.queues wq with activeCount := (w.queues wq).activeCount - 1, work := none }
        { w.works i with running := false } ∨
      (w.works i).rerun ∧ other = w.write wq i
        { w.queues wq with
          works := (w.queues wq).works ++ [i]
          activeCount := (w.queues wq).activeCount - 1
          work := none }
        { w.works i with running := false, rerun := false, queued := true, owner := some wq }) := by
  unfold endWork at hend
  split at hend
  · cases hend
  rename_i i hwork
  have hother := Option.some.inj hend
  refine ⟨i, hwork, ?_⟩
  cases hrerun : (w.works i).rerun with
  | false =>
    rw [if_neg (by rw [hrerun]; exact fun hboth => (nomatch hboth.1))] at hother
    exact .inl ⟨rfl, hother.symm⟩
  | true =>
    rw [if_pos ⟨hrerun, h.serving wq⟩] at hother
    refine .inr ⟨rfl, hother.symm.trans ?_⟩
    simp only [enqueueWorkLocked, endCallback, Works.write, update_self,
      update_idem, Bool.toNat_false, Nat.add_zero]

theorem Consistent.endWork (h : Consistent laneOf w) (hend : w.endWork wq = some other) :
    Consistent laneOf other ∧
      WorkQueue.Step (w.view wq) .finish (other.view wq) ∧
      ∀ wq', wq' ≠ wq → other.view wq' = w.view wq' := by
  obtain ⟨i, hwork, hother⟩ := h.endWork_eq hend
  obtain ⟨hlane, hmem⟩ := h.work wq i hwork
  have hrunner (k : ι) (hk : k ≠ i) : none = some k ↔ (w.queues wq).work = some k := by
    rw [hwork]
    exact ⟨nofun, fun heq => (hk (Option.some.inj heq).symm).elim⟩
  have hidle : none = some i ↔ false := ⟨nofun, nofun⟩
  have hactive : (w.queues wq).activeCount - 1 = 0 := by
    rw [h.active, hwork]
    rfl
  have hagain : w.again wq = (w.works i).rerun := by
    unfold again
    rw [hwork]
  have hagain' (queue : Workqueue ι) (work : WorkInternal Λ) (hqueue : queue.work = none) :
      (w.write wq i queue work).again wq = false := by
    rw [write_again_self, hqueue]
  have hqueued : (w.works i).queued ↔ i ∈ (w.queues wq).works := hlane ▸ h.queued i
  rcases hother with ⟨hrerun, rfl⟩ | ⟨hrerun, rfl⟩
  · refine ⟨?_, ?_, fun wq' hne => h.view_write_of_ne hlane hne⟩
    · refine h.write hlane (h.lane wq) (h.nodup wq) hqueued (fun _ _ => Iff.rfl) hidle.symm hrunner
        nofun (fun hmark => ?_) (hlane ▸ h.owner i) ?_ hactive (h.serving wq)
      · rw [show (w.works i).rerun = true from hmark] at hrerun
        cases hrerun
      · rw [hagain' _ _ rfl]
        show _ = _ + 0
        rw [h.pending, hagain, hrerun]
        rfl
    · refine WorkQueue.Step.of_eq (.finish _ i hwork (hagain.trans hrerun)) ?_
      unfold view
      rw [hagain' _ _ rfl, write_queues_self]
  · obtain ⟨hworks, hnodup, hlast, hothers⟩ := h.append hlane hmem
    refine ⟨?_, ?_, fun wq' hne => h.view_write_of_ne hlane hne⟩
    · refine h.write hlane hworks hnodup ⟨fun _ => hlast, fun _ => rfl⟩ hothers hidle.symm hrunner
        nofun nofun (.inr rfl) ?_ hactive (h.serving wq)
      · rw [hagain' _ _ rfl]
        show _ = ((w.queues wq).works ++ [i]).length + 0
        rw [h.pending, hagain, hrerun, length_append]
        rfl
    · refine WorkQueue.Step.of_eq (.requeue _ i hwork (hagain.trans hrerun)) ?_
      unfold view
      rw [hagain' _ _ rfl, write_queues_self]

end Operations

end Works

end WireguardNx.Platform
