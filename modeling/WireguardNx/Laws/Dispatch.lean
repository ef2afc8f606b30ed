import WireguardNx.Laws.Work
import WireguardNx.Lib.Machine
import WireguardNx.Runtime.Dispatcher

/-!
# No lost work

A lane whose queue has a place for each piece of its work never rejects any.  That is so for every
lane but the submission lane, which has two places for three pieces of work: a request there is
rejected exactly when the two other pieces are pending.  A request that is not rejected is followed
by a run of the work that starts after it, once the thread of the lane has started as many callbacks
as the lane has pieces of work.

Nothing is assumed of the order in which requests and lanes take their turns.  That a thread goes on
at all is left to the platform.
-/

namespace WireguardNx.Runtime.HorizonDispatcher

open Wireguard WireguardNx.Platform List

variable {d d' : HorizonDispatcher} {item : WorkItem} {lane : DispatcherWorkLane}

def laneItems : DispatcherWorkLane → Finset WorkItem
  | .resolve => {.resolve}
  | .submission => {.debugSubmission, .innerSubmission, .userspaceIpAdapter}
  | .transmit => {.transmit}
  | .receive => {.receive}
  | .timer => {.protocolTimer .retransmitHandshake, .protocolTimer .sendKeepalive,
      .protocolTimer .newHandshake, .protocolTimer .zeroKeyMaterial,
      .protocolTimer .persistentKeepalive, .debugTimeout}

theorem mem_laneItems {lane : DispatcherWorkLane} {item : WorkItem} :
    item ∈ laneItems lane ↔ item.lane = lane := by
  cases item with
  | protocolTimer hook => cases lane <;> cases hook <;> decide
  | _ => cases lane <;> decide

section Steps

/-- The queues agree with their work and have the places they were given. -/
structure Sound (d : HorizonDispatcher) : Prop where
  consistent : d.Consistent WorkItem.lane
  capacity : ∀ lane, (d.queues lane).pendingCapacity = workSlots lane

theorem initial_sound : Sound initial := ⟨Works.consistent_init, fun _ => rfl⟩

private theorem workSlots_pos {lane : DispatcherWorkLane} : 0 < workSlots lane := by
  cases lane <;> decide

theorem Sound.request (h : Sound d) (item : WorkItem) :
    Works.Request d item.lane item (queue d item).1 (queue d item).2 :=
  h.consistent.queueWork_request rfl (by rw [h.capacity]; exact workSlots_pos)

theorem Sound.orderly (h : Sound d) (lane : DispatcherWorkLane) :
    (d.view lane).Orderly (laneItems lane) where
  nodup := h.consistent.nodup lane
  waiting item hitem := mem_laneItems.mpr (h.consistent.lane lane item hitem)
  running item hitem := by
    obtain ⟨hlane, hnot⟩ := h.consistent.work lane item hitem
    exact ⟨mem_laneItems.mpr hlane, hnot⟩

/-- Writing one queue keeps the places. -/
theorem Sound.write_capacity (h : Sound d) {queue : Workqueue WorkItem}
    {work : WorkInternal DispatcherWorkLane}
    (hqueue : queue.pendingCapacity = (d.queues lane).pendingCapacity)
    (lane' : DispatcherWorkLane) :
    ((d.write lane item queue work).queues lane').pendingCapacity = workSlots lane' := by
  by_cases hne : lane' = lane
  · subst hne
    rw [Works.write_queues_self, hqueue]
    exact h.capacity lane'
  · rw [Works.write_queues_of_ne hne]
    exact h.capacity lane'

/-- What an action is for a lane. -/
def laneAct (d : HorizonDispatcher) (lane : DispatcherWorkLane) : Action → WorkQueue.Act WorkItem
  | .queue item => if item.lane = lane then Works.requestAct (queue d item).1 item else .other
  | .dequeue lane' =>
    if lane' = lane then
      match (d.queues lane).works with
      | [] => .other
      | item :: _ => .start item
    else .other
  | .complete lane' => if lane' = lane then .finish else .other

private theorem laneAct_within {d : HorizonDispatcher} {lane : DispatcherWorkLane}
    {action : Action} :
    (laneAct d lane action).Within (laneItems lane) := by
  unfold laneAct
  split
  · rename_i item
    split
    · rename_i hlane
      cases (queue d item).1 <;> first | exact mem_laneItems.mpr hlane | exact trivial
    · exact trivial
  · split
    · split <;> exact trivial
    · exact trivial
  · split <;> exact trivial

/-- Every action is a step of every lane. -/
theorem Sound.step (h : Sound d) {action : Action} (hstep : step d action = some d') :
    Sound d' ∧ ∀ lane, WorkQueue.Step (d.view lane) (laneAct d lane action) (d'.view lane) := by
  have hother {lane lane' : DispatcherWorkLane} (hviews : ∀ lane', lane' ≠ lane →
      d'.view lane' = d.view lane') (hne : lane ≠ lane') :
      WorkQueue.Step (d.view lane') .other (d'.view lane') := by
    rw [hviews lane' hne.symm]
    exact .other _
  cases action with
  | queue item =>
    obtain rfl : (queue d item).2 = d' := Option.some.inj hstep
    have hreq := h.request item
    obtain ⟨hconsistent, hself, hviews⟩ := h.consistent.request rfl hreq
    refine ⟨⟨hconsistent, ?_⟩, fun lane => ?_⟩
    · generalize (queue d item).1 = result at hreq
      generalize (queue d item).2 = other at hreq ⊢
      cases hreq with
      | alreadyPending | capacityExhausted => exact h.capacity
      | rerunQueued | queued => exact h.write_capacity rfl
    · unfold laneAct
      simp only
      split
      · rename_i hlane
        exact hlane ▸ hself
      · rename_i hlane
        exact hother hviews hlane
  | dequeue lane' =>
    obtain ⟨i, rest, hwork, hworks, hwrite⟩ := Works.beginWork_eq hstep
    obtain ⟨item, hconsistent, _, hhead, hself, hviews⟩ := h.consistent.beginWork hstep
    refine ⟨⟨hconsistent, ?_⟩, fun lane => ?_⟩
    · rw [hwrite]
      exact h.write_capacity rfl
    · unfold laneAct
      simp only
      split
      · rename_i hlane
        subst hlane
        rw [hworks] at hhead ⊢
        obtain rfl : i = item := Option.some.inj hhead
        exact hself
      · rename_i hlane
        exact hother hviews hlane
  | complete lane' =>
    obtain ⟨i, _, hwrite⟩ := h.consistent.endWork_eq hstep
    obtain ⟨hconsistent, hself, hviews⟩ := h.consistent.endWork hstep
    refine ⟨⟨hconsistent, ?_⟩, fun lane => ?_⟩
    · rcases hwrite with ⟨_, hwrite⟩ | ⟨_, hwrite⟩ <;> rw [hwrite] <;> exact h.write_capacity rfl
    · unfold laneAct
      simp only
      split
      · rename_i hlane
        exact hlane ▸ hself
      · rename_i hlane
        exact hother hviews hlane

end Steps

/-! ## Rejected work -/

section Rejections

def Pending (d : HorizonDispatcher) (item : WorkItem) : Prop :=
  ((d.works item).queued || (d.works item).rerun) = true

instance (d : HorizonDispatcher) (item : WorkItem) : Decidable (Pending d item) :=
  inferInstanceAs (Decidable (_ = _))

/-- Work of the submission lane is requested while all the other work of the lane is pending. -/
def Crowded (d : HorizonDispatcher) (item : WorkItem) : Prop :=
  item.lane = .submission ∧ ¬Pending d item ∧
    ∀ other, other.lane = .submission → other ≠ item → Pending d other

private theorem crowded_iff : Crowded d item ↔ item.lane = .submission ∧ ¬Pending d item ∧
    ∀ other ∈ laneItems .submission, other ≠ item → Pending d other := by
  unfold Crowded
  simp only [mem_laneItems]

instance (d : HorizonDispatcher) (item : WorkItem) : Decidable (Crowded d item) :=
  decidable_of_iff _ crowded_iff.symm

theorem Sound.pending_iff (h : Sound d) : (d.view item.lane).Pending item ↔ Pending d item :=
  h.consistent.pending_iff

/-- The counter of a lane counts its pending work. -/
theorem Sound.pendingCount_eq (h : Sound d) (lane : DispatcherWorkLane) :
    (d.queues lane).pendingCount = ((laneItems lane).filter (Pending d)).card := by
  have hsame : (laneItems lane).filter (Pending d) =
      (laneItems lane).filter (d.view lane).Pending := by
    refine Finset.filter_congr fun item hitem => ?_
    rw [← mem_laneItems.mp hitem]
    exact h.pending_iff.symm
  have hload : (d.view lane).load = (d.queues lane).pendingCount := by
    rw [h.consistent.pending]
    unfold WorkQueue.load Works.view Works.again
    cases (d.queues lane).work <;> rfl
  rw [hsame, (h.orderly lane).card_pending, hload]

/-- The other work of a lane has as many places as there is of it, but for one lane. -/
theorem card_others (hitem : item ∈ laneItems lane) :
    ((laneItems lane).erase item).card + (if lane = .submission then 0 else 1) = workSlots lane := by
  rw [Finset.card_erase_of_mem hitem]
  cases lane <;> decide

/-- Work is rejected when it comes on top of all other work of the submission lane. -/
theorem Sound.full_iff (h : Sound d) (hnew : ¬Pending d item) :
    (d.queues item.lane).pendingCapacity ≤ (d.queues item.lane).pendingCount ↔ Crowded d item := by
  have hitem : item ∈ laneItems item.lane := mem_laneItems.mpr rfl
  have hsub : (laneItems item.lane).filter (Pending d) ⊆ (laneItems item.lane).erase item := by
    intro other hother
    obtain ⟨hmem, hpend⟩ := Finset.mem_filter.mp hother
    refine Finset.mem_erase.mpr ⟨?_, hmem⟩
    rintro rfl
    exact hnew hpend
  have hcard := Finset.card_le_card hsub
  have hothers := card_others hitem
  rw [h.capacity, h.pendingCount_eq]
  constructor
  · intro hfull
    have hlane : item.lane = .submission := by
      by_contra hlane
      rw [if_neg hlane] at hothers
      omega
    rw [if_pos hlane] at hothers
    have hall := Finset.eq_of_subset_of_card_le hsub (by omega)
    refine ⟨hlane, hnew, fun other hother hne => ?_⟩
    have hmem : other ∈ (laneItems item.lane).erase item :=
      Finset.mem_erase.mpr ⟨hne, mem_laneItems.mpr (hother.trans hlane.symm)⟩
    rw [← hall] at hmem
    exact (Finset.mem_filter.mp hmem).2
  · rintro ⟨hlane, _, hall⟩
    rw [if_pos hlane] at hothers
    have hsup : (laneItems item.lane).erase item ⊆ (laneItems item.lane).filter (Pending d) := by
      intro other hother
      obtain ⟨hne, hmem⟩ := Finset.mem_erase.mp hother
      exact Finset.mem_filter.mpr ⟨hmem, hall other ((mem_laneItems.mp hmem).trans hlane) hne⟩
    have hle := Finset.card_le_card hsup
    omega

end Rejections

/-! ## Runs -/

def run (d : HorizonDispatcher) (actions : List Action) : Option HorizonDispatcher :=
  actions.foldlM step d

def startedBy (d : HorizonDispatcher) : Action → Option WorkItem
  | .dequeue lane => (d.queues lane).works.head?
  | _ => none

def started (d : HorizonDispatcher) : List Action → List WorkItem
  | [] => []
  | action :: actions =>
    match step d action with
    | none => []
    | some next => (startedBy d action).toList ++ started next actions

/-- What some actions are for a lane. -/
def laneActs (d : HorizonDispatcher) (lane : DispatcherWorkLane) :
    List Action → List (WorkQueue.Act WorkItem)
  | [] => []
  | action :: actions =>
    match step d action with
    | none => []
    | some next => laneAct d lane action :: laneActs next lane actions

def dispatches : Machine HorizonDispatcher where
  start d := d = initial
  step d d' := ∃ action, step d action = some d'

/-- Work is run after a request: until it starts, the thread of its lane can go on, and it has
started once that thread took as many callbacks as there is work for it. -/
structure Followed (item : WorkItem) (d : HorizonDispatcher) : Prop where
  progress : ∀ actions d', run d actions = some d' → item ∉ started d actions →
    (step d' (.dequeue item.lane)).isSome = true ∨ (step d' (.complete item.lane)).isSome = true
  starts : ∀ actions d', run d actions = some d' →
    (laneItems item.lane).card ≤ actions.count (.dequeue item.lane) → item ∈ started d actions

section Runs

private theorem dispatches_sound (h : dispatches.Reachable d) : Sound d := by
  refine Machine.Reachable.invariant ?_ ?_ h
  · rintro _ rfl
    exact initial_sound
  · rintro d d' _ hd ⟨action, hstep⟩
    exact (hd.step hstep).1

theorem laneAct_isStart {action : Action} (hstep : step d action = some d') :
    (laneAct d lane action).isStart = decide (action = .dequeue lane) := by
  cases action with
  | queue item =>
    rw [decide_eq_false nofun]
    unfold laneAct
    simp only
    split
    · cases (queue d item).1 <;> rfl
    · rfl
  | dequeue lane' =>
    obtain ⟨i, rest, _, hworks, _⟩ := Works.beginWork_eq hstep
    unfold laneAct
    simp only [Action.dequeue.injEq]
    split
    · rename_i hlane
      rw [← hlane, hworks, decide_eq_true rfl]
      rfl
    · rename_i hlane
      rw [decide_eq_false hlane]
      rfl
  | complete lane' =>
    rw [decide_eq_false nofun]
    unfold laneAct
    simp only
    split <;> rfl

private theorem laneAct_started (h : Sound d) {action : Action} (hstep : step d action = some d') :
    (laneAct d lane action).started.toList =
      (startedBy d action).toList.filter (·.lane = lane) := by
  cases action with
  | queue item =>
    unfold laneAct
    simp only
    split
    · cases (queue d item).1 <;> rfl
    · rfl
  | dequeue lane' =>
    obtain ⟨i, rest, _, hworks, _⟩ := Works.beginWork_eq hstep
    have hlane : i.lane = lane' :=
      h.consistent.lane lane' i (by rw [hworks]; exact mem_cons_self)
    unfold laneAct startedBy
    simp only [hworks, head?_cons, Option.toList_some, filter_cons, filter_nil, hlane,
      decide_eq_true_eq]
    split
    · rename_i hsame
      rw [← hsame, hworks]
      rfl
    · rfl
  | complete lane' =>
    unfold laneAct
    simp only
    split <;> rfl

/-- A run of the queues is a run of each lane, which starts the work of the lane in its order. -/
theorem Sound.run (h : Sound d) {actions : List Action} (hrun : run d actions = some d')
    (lane : DispatcherWorkLane) : Sound d' ∧
      WorkQueue.Run (d.view lane) (laneActs d lane actions) (d'.view lane) ∧
      (∀ act ∈ laneActs d lane actions, act.Within (laneItems lane)) ∧
      (laneActs d lane actions).countP WorkQueue.Act.isStart = actions.count (.dequeue lane) ∧
      (laneActs d lane actions).filterMap WorkQueue.Act.started =
        (started d actions).filter (·.lane = lane) := by
  induction actions generalizing d with
  | nil =>
    cases hrun
    exact ⟨h, .nil _, nofun, rfl, rfl⟩
  | cons action actions ih =>
    obtain ⟨next, hstep, hrest⟩ := Option.bind_eq_some_iff.mp hrun
    obtain ⟨hnext, hlanes⟩ := h.step hstep
    obtain ⟨hlast, hacts, hwithin, hcount, hstarts⟩ := ih hnext hrest
    have hfirst : laneActs d lane (action :: actions) =
        laneAct d lane action :: laneActs next lane actions := by
      rw [laneActs, hstep]
    have hstarted : started d (action :: actions) =
        (startedBy d action).toList ++ started next actions := by
      rw [started, hstep]
    rw [hfirst, hstarted]
    refine ⟨hlast, .cons (hlanes lane) hacts, ?_, ?_, ?_⟩
    · rw [forall_mem_cons]
      exact ⟨laneAct_within, hwithin⟩
    · rw [countP_cons, count_cons, hcount, laneAct_isStart hstep]
      simp only [decide_eq_true_eq, beq_iff_eq]
    · rw [filter_append, ← laneAct_started h hstep, ← hstarts, filterMap_cons]
      cases (laneAct d lane action).started <;> rfl

theorem mem_started_of_start {actions : List Action}
    (h : (laneActs d lane actions).filterMap WorkQueue.Act.started =
      (started d actions).filter (·.lane = lane))
    (hitem : .start item ∈ laneActs d lane actions) : item ∈ started d actions := by
  have hmem : item ∈ (laneActs d lane actions).filterMap WorkQueue.Act.started :=
    mem_filterMap.mpr ⟨_, hitem, rfl⟩
  rw [h] at hmem
  exact mem_of_mem_filter hmem

/-- Work that is pending is run. -/
theorem Sound.followed (h : Sound d) (hpend : Pending d item) : Followed item d := by
  have hview : (d.view item.lane).Pending item := h.pending_iff.mpr hpend
  refine ⟨fun actions d' hrun hnot => ?_, fun actions d' hrun hcount => ?_⟩
  · obtain ⟨hlast, hacts, hwithin, _, hstarts⟩ := h.run hrun item.lane
    have hstill := hacts.pending (h.orderly _) hwithin hview fun hmem =>
      hnot (mem_started_of_start hstarts hmem)
    show (d'.beginWork item.lane).isSome ∨ (d'.endWork item.lane).isSome
    rcases hstill.progress with ⟨other, hrunning⟩ | ⟨other, r, hstart⟩
    · right
      unfold Works.endWork
      rw [show (d'.queues item.lane).work = some other from hrunning]
      rfl
    · left
      cases hstart with
      | start _ rest hwait hidle =>
        unfold Works.beginWork Works.dequeueWorkLocked
        rw [show (d'.queues item.lane).work = none from hidle,
          show (d'.queues item.lane).works = other :: rest from hwait]
        rfl
  · obtain ⟨_, hacts, hwithin, hsame, hstarts⟩ := h.run hrun item.lane
    exact mem_started_of_start hstarts
      (hacts.start_mem (h.orderly _) hwithin hview (hsame ▸ hcount))

/-- Work is pending after a request that was not rejected. -/
theorem Sound.pending_after (h : Sound d) (hnot : ¬Crowded d item) :
    (queue d item).1 ≠ .capacityExhausted ∧ (queue d item).1 ≠ .unavailable ∧
      Pending (queue d item).2 item := by
  have hreq := h.request item
  generalize (queue d item).1 = result at hreq ⊢
  generalize (queue d item).2 = other at hreq ⊢
  cases hreq with
  | alreadyPending hpend => exact ⟨nofun, nofun, h.pending_iff.mp hpend⟩
  | capacityExhausted hnew hfull =>
    exact (hnot ((h.full_iff fun hpend => hnew (h.pending_iff.mpr hpend)).mp hfull)).elim
  | rerunQueued | queued =>
    refine ⟨nofun, nofun, ?_⟩
    unfold Pending
    rw [Works.write_works_self]
    simp only [Bool.or_true, Bool.true_or]

end Runs

/-- A request is answered and followed by a run of its work exactly when it does not come on top of
all the other work of the submission lane. -/
theorem requests_followed {d : HorizonDispatcher} (h : dispatches.Reachable d) (item : WorkItem) :
    ((queue d item).1 ≠ .capacityExhausted ∧ (queue d item).1 ≠ .unavailable ∧
      Followed item (queue d item).2) ↔ ¬Crowded d item := by
  have hsound := dispatches_sound h
  constructor
  · rintro ⟨hacc, _⟩ hcrowded
    have hnew := hcrowded.2.1
    have hfull := (hsound.full_iff hnew).mpr hcrowded
    have hreq := hsound.request item
    generalize (queue d item).1 = result at hreq hacc
    generalize (queue d item).2 = other at hreq
    cases hreq with
    | alreadyPending hpend => exact hnew (hsound.pending_iff.mp hpend)
    | capacityExhausted => exact hacc rfl
    | rerunQueued _ hroom | queued _ hroom => exact Nat.not_lt.mpr hfull hroom
  · intro hnot
    obtain ⟨hroom, hserved, hpend⟩ := hsound.pending_after hnot
    have hstep : step d (.queue item) = some (queue d item).2 := rfl
    exact ⟨hroom, hserved, (hsound.step hstep).1.followed hpend⟩

theorem run_reachable {d d' : HorizonDispatcher} (h : dispatches.Reachable d)
    {actions : List Action}
    (hrun : run d actions = some d') : dispatches.Reachable d' := by
  induction actions generalizing d with
  | nil =>
    cases hrun
    exact h
  | cons action actions ih =>
    obtain ⟨next, hstep, hrest⟩ := Option.bind_eq_some_iff.mp hrun
    exact ih (h.step ⟨action, hstep⟩) hrest

theorem requests_followed_sample : ∃ d, dispatches.Reachable d ∧ Pending d .debugSubmission ∧
    Followed .userspaceIpAdapter (queue d .userspaceIpAdapter).2 := by
  obtain ⟨d, hrun, hfacts⟩ := Option.map_eq_some_iff.mp
    (show (run initial [.queue .debugSubmission, .queue .innerSubmission, .dequeue .submission,
        .queue .debugSubmission, .complete .submission, .dequeue .submission]).map
      (fun d => (decide (Pending d .debugSubmission), decide (Pending d .innerSubmission))) =
      some (true, false) by decide)
  obtain ⟨hpend, hnot⟩ := Prod.mk.inj hfacts
  have hreach := run_reachable (.start rfl) hrun
  refine ⟨d, hreach, of_decide_eq_true hpend,
    ((requests_followed hreach .userspaceIpAdapter).mpr fun hcrowded => ?_).2.2⟩
  exact of_decide_eq_false hnot (hcrowded.2.2 .innerSubmission rfl nofun)

/-- The adapter is asked for while both other submissions wait: its work is rejected, and is not run
when they have been. -/
theorem adapter_work_lost : ∃ d, dispatches.Reachable d ∧
    (queue d .userspaceIpAdapter).1 = .capacityExhausted ∧
    started (queue d .userspaceIpAdapter).2 [.dequeue .submission, .complete .submission,
      .dequeue .submission, .complete .submission] = [.debugSubmission, .innerSubmission] := by
  obtain ⟨d, hrun, hfacts⟩ := Option.map_eq_some_iff.mp
    (show (run initial [.queue .debugSubmission, .queue .innerSubmission]).map
      (fun d => ((queue d .userspaceIpAdapter).1, started (queue d .userspaceIpAdapter).2
        [.dequeue .submission, .complete .submission, .dequeue .submission,
          .complete .submission])) =
      some (.capacityExhausted, [.debugSubmission, .innerSubmission]) by decide)
  obtain ⟨hanswer, hstarted⟩ := Prod.mk.inj hfacts
  exact ⟨d, run_reachable (.start rfl) hrun, hanswer, hstarted⟩

/-- Every lane of the dispatcher is a queue of coalescing work.  Action by action, what happens to
the lanes is a run of it; the items that start in that run are the work of the lane that its thread
took, in order, one each time it takes one; and the count of pending work is that of the items that
wait and of the one that is to run again. -/
theorem lanes_refine_queues {actions : List Action} {d : HorizonDispatcher}
    (h : run initial actions = some d) (lane : DispatcherWorkLane) :
    WorkQueue.Run ⟨[], none, false⟩ (laneActs initial lane actions) (d.view lane) ∧
    (laneActs initial lane actions).filterMap WorkQueue.Act.started =
      (started initial actions).filter (·.lane = lane) ∧
    (laneActs initial lane actions).countP WorkQueue.Act.isStart = actions.count (.dequeue lane) ∧
    (d.view lane).Orderly (laneItems lane) ∧
    (d.queues lane).pendingCount = (d.view lane).waiting.length + (d.view lane).again.toNat := by
  obtain ⟨hsound, hrun, -, hcount, hstarts⟩ := initial_sound.run h lane
  exact ⟨hrun, hstarts, hcount, hsound.orderly lane, hsound.consistent.pending lane⟩

/-- The receive lane takes its work, which is asked for again while it runs. -/
theorem lanes_refine_queues_sample : ∃ d,
    run initial [.queue .receive, .dequeue .receive, .queue .receive] = some d ∧
      WorkQueue.Run ⟨[], none, false⟩
        [.request .receive, .start .receive, .request .receive] (d.view .receive) ∧
      (d.queues .receive).pendingCount = 1 := by
  obtain ⟨d, hrun, hagain⟩ := Option.map_eq_some_iff.mp
    (show (run initial [.queue .receive, .dequeue .receive, .queue .receive]).map
      (fun d => (d.view .receive).waiting.length + (d.view .receive).again.toNat) = some 1 from rfl)
  obtain ⟨hacts, -, -, -, hcount⟩ := lanes_refine_queues hrun .receive
  exact ⟨d, hrun, hacts, hcount.trans hagain⟩

end WireguardNx.Runtime.HorizonDispatcher
