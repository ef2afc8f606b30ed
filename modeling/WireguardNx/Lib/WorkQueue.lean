import Mathlib.Data.Finset.Card

/-!
# Queues of coalescing work

One worker serves a queue of items in order.  An item that waits is not queued twice, and one that is
requested while it runs is queued again when it has run.  So an item is pending from a request on
until it starts, and the other items are served at most once before it: as many starts as there are
items are enough for it to start (`Run.start_mem`).
-/

/-- The items that wait, the item that runs, and whether it is to run again. -/
structure WorkQueue (ι : Type*) where
  waiting : List ι
  running : Option ι
  again : Bool

namespace WorkQueue

open List Finset

variable {ι : Type*}

/-- What can happen to a queue. -/
inductive Act (ι : Type*) where
  | request (i : ι)
  | start (i : ι)
  | finish
  | other

/-- An item is to be run. -/
def Pending (q : WorkQueue ι) (i : ι) : Prop :=
  i ∈ q.waiting ∨ q.running = some i ∧ q.again = true

inductive Step : WorkQueue ι → Act ι → WorkQueue ι → Prop
  | coalesce (q : WorkQueue ι) (i : ι) (h : q.Pending i) : Step q (.request i) q
  | enqueue (q : WorkQueue ι) (i : ι) (hwait : i ∉ q.waiting) (hrunning : q.running ≠ some i) :
      Step q (.request i) { q with waiting := q.waiting ++ [i] }
  | rerun (q : WorkQueue ι) (i : ι) (hrunning : q.running = some i) :
      Step q (.request i) { q with again := true }
  | start (q : WorkQueue ι) (i : ι) (rest : List ι) (hwait : q.waiting = i :: rest)
      (hrunning : q.running = none) : Step q (.start i) ⟨rest, some i, false⟩
  | finish (q : WorkQueue ι) (i : ι) (hrunning : q.running = some i) (hagain : q.again = false) :
      Step q .finish ⟨q.waiting, none, false⟩
  | requeue (q : WorkQueue ι) (i : ι) (hrunning : q.running = some i) (hagain : q.again = true) :
      Step q .finish ⟨q.waiting ++ [i], none, false⟩
  | other (q : WorkQueue ι) : Step q .other q

theorem Step.of_eq {q r s : WorkQueue ι} {act : Act ι} (h : Step q act r) (hs : s = r) :
    Step q act s := by
  rw [hs]
  exact h

inductive Run : WorkQueue ι → List (Act ι) → WorkQueue ι → Prop
  | nil (q : WorkQueue ι) : Run q [] q
  | cons {q r s : WorkQueue ι} {act : Act ι} {acts : List (Act ι)} (h : Step q act r)
      (hrest : Run r acts s) : Run q (act :: acts) s

/-- No item is queued twice, and they are all of a set. -/
structure Orderly (items : Finset ι) (q : WorkQueue ι) : Prop where
  nodup : q.waiting.Nodup
  waiting : ∀ i ∈ q.waiting, i ∈ items
  running : ∀ i, q.running = some i → i ∈ items ∧ i ∉ q.waiting

def Act.isStart : Act ι → Bool
  | .start _ => true
  | _ => false

/-- The item that starts. -/
def Act.started : Act ι → Option ι
  | .start i => some i
  | _ => none

section Steps

variable {items : Finset ι} {q r : WorkQueue ι} {act : Act ι} {i : ι}

/-- The items asked for are of the set. -/
def Act.Within (items : Finset ι) : Act ι → Prop
  | .request i => i ∈ items
  | _ => True

theorem Orderly.append (h : q.Orderly items) (hi : i ∈ items) (hnew : i ∉ q.waiting) :
    (q.waiting ++ [i]).Nodup ∧ ∀ k ∈ q.waiting ++ [i], k ∈ items := by
  refine ⟨nodup_append_comm.mp (nodup_cons.mpr ⟨hnew, h.nodup⟩), fun k hk => ?_⟩
  rcases mem_append.mp hk with hold | hnew
  · exact h.waiting k hold
  · rw [List.mem_singleton.mp hnew]
    exact hi

theorem Orderly.step (h : q.Orderly items) (hact : act.Within items) (hstep : Step q act r) :
    r.Orderly items := by
  cases hstep with
  | coalesce i hpend | other => exact h
  | enqueue i hwait hrunning =>
    obtain ⟨hnodup, hitems⟩ := h.append hact hwait
    refine ⟨hnodup, hitems, fun k hk => ⟨(h.running k hk).1, fun hmem => ?_⟩⟩
    rcases mem_append.mp hmem with hold | hnew
    · exact (h.running k hk).2 hold
    · exact hrunning (List.mem_singleton.mp hnew ▸ hk)
  | rerun i hrunning => exact ⟨h.nodup, h.waiting, h.running⟩
  | start i rest hwait hrunning =>
    have hnodup := h.nodup
    have hitems := h.waiting
    rw [hwait] at hnodup hitems
    obtain ⟨hnot, hrest⟩ := nodup_cons.mp hnodup
    refine ⟨hrest, fun k hk => hitems k (mem_cons_of_mem i hk), ?_⟩
    rintro k hk
    cases hk
    exact ⟨hitems i mem_cons_self, hnot⟩
  | finish i hrunning hagain => exact ⟨h.nodup, h.waiting, fun k hk => (nomatch hk)⟩
  | requeue i hrunning hagain =>
    obtain ⟨hmem, hnew⟩ := h.running i hrunning
    obtain ⟨hnodup, hitems⟩ := h.append hmem hnew
    exact ⟨hnodup, hitems, fun k hk => (nomatch hk)⟩

/-- While an item is pending the worker can go on: something runs, or something can start. -/
theorem Pending.progress (h : q.Pending i) :
    (∃ k, q.running = some k) ∨ ∃ k r, Step q (.start k) r := by
  cases hrunning : q.running with
  | some k => exact .inl ⟨k, rfl⟩
  | none =>
    rcases h with hmem | ⟨hrun, _⟩
    · obtain ⟨k, rest, hwait⟩ := exists_cons_of_ne_nil (ne_nil_of_mem hmem)
      exact .inr ⟨k, _, .start q k rest hwait hrunning⟩
    · rw [hrunning] at hrun
      cases hrun

end Steps

section Waiting

variable [DecidableEq ι] {items : Finset ι} {q r : WorkQueue ι} {act : Act ι} {i : ι}

instance (q : WorkQueue ι) (i : ι) : Decidable (q.Pending i) :=
  inferInstanceAs (Decidable (_ ∨ _))

/-- How many items are pending. -/
def load (q : WorkQueue ι) : ℕ := q.waiting.length + (q.running.isSome && q.again).toNat

/-- The load is the number of the items that are pending. -/
theorem Orderly.card_pending (h : q.Orderly items) : (items.filter q.Pending).card = q.load := by
  have hsplit : items.filter q.Pending = q.waiting.toFinset ∪
      items.filter fun i => q.running = some i ∧ q.again := by
    ext k
    rw [Finset.mem_filter, Finset.mem_union, Finset.mem_filter, mem_toFinset]
    constructor
    · rintro ⟨hk, hwait | hrunning⟩
      · exact .inl hwait
      · exact .inr ⟨hk, hrunning⟩
    · rintro (hwait | ⟨hk, hrunning⟩)
      · exact ⟨h.waiting k hwait, .inl hwait⟩
      · exact ⟨hk, .inr hrunning⟩
  unfold load
  rw [hsplit]
  cases hagain : q.again with
  | false =>
    rw [filter_false_of_mem fun _ _ hk => (nomatch hk.2), union_empty, Bool.and_false]
    exact toFinset_card_of_nodup h.nodup
  | true =>
    cases hrunning : q.running with
    | none =>
      rw [filter_false_of_mem fun _ _ hk => (nomatch hk.1), union_empty]
      exact toFinset_card_of_nodup h.nodup
    | some k =>
      obtain ⟨hitem, hnew⟩ := h.running k hrunning
      have hself : items.filter (fun i => some k = some i ∧ true = true) = {k} := by
        ext i
        rw [Finset.mem_filter, Finset.mem_singleton]
        refine ⟨fun hi => (Option.some.inj hi.2.1).symm, ?_⟩
        rintro rfl
        exact ⟨hitem, rfl, rfl⟩
      rw [hself, card_union_of_disjoint, toFinset_card_of_nodup h.nodup,
        card_singleton]
      · rfl
      · rw [disjoint_singleton_right, mem_toFinset]
        exact hnew

/-- How many starts an item waits for at most, its own included. -/
def delay (items : Finset ι) (q : WorkQueue ι) (i : ι) : ℕ :=
  if i ∈ q.waiting then q.waiting.idxOf i + 1 else items.card

/-- A waiting list without an item is shorter than the set. -/
theorem Orderly.length_lt (h : q.Orderly items) (hi : i ∈ items) (hnew : i ∉ q.waiting) :
    q.waiting.length < items.card := by
  rw [← toFinset_card_of_nodup h.nodup]
  refine card_lt_card ⟨fun k hk => h.waiting k (mem_toFinset.mp hk), fun hsub => ?_⟩
  exact hnew (mem_toFinset.mp (hsub hi))

theorem Orderly.delay_le (h : q.Orderly items) : q.delay items i ≤ items.card := by
  unfold delay
  split
  · rename_i hmem
    refine (Nat.succ_le_of_lt (idxOf_lt_length_of_mem hmem)).trans ?_
    rw [← toFinset_card_of_nodup h.nodup]
    exact card_le_card fun k hk => h.waiting k (mem_toFinset.mp hk)
  · exact le_rfl

theorem delay_of_mem (h : i ∈ q.waiting) : q.delay items i = q.waiting.idxOf i + 1 := if_pos h

theorem delay_of_not_mem (h : i ∉ q.waiting) : q.delay items i = items.card := if_neg h

/-- Until it starts, an item stays pending, and every start brings its own nearer. -/
theorem Pending.step (hpend : q.Pending i) (h : q.Orderly items) (hstep : Step q act r)
    (hnot : act ≠ .start i) :
    r.Pending i ∧ r.delay items i + act.isStart.toNat ≤ q.delay items i := by
  -- Items that are queued stand behind an item that waits already.
  have happend {k : ι} (hmem : i ∈ q.waiting) (running : Option ι) (again : Bool) :
      Pending ⟨q.waiting ++ [k], running, again⟩ i ∧
        delay items ⟨q.waiting ++ [k], running, again⟩ i ≤ q.delay items i := by
    have hmem' : i ∈ q.waiting ++ [k] := mem_append_left _ hmem
    refine ⟨.inl hmem', ?_⟩
    rw [delay_of_mem hmem, delay_of_mem (q := ⟨q.waiting ++ [k], running, again⟩) hmem']
    exact Nat.succ_le_succ (idxOf_append_of_mem hmem).le
  cases hstep with
  | coalesce k hk | other => exact ⟨hpend, le_rfl⟩
  | enqueue k hwait hrunning =>
    rcases hpend with hmem | ⟨hrun, hagain⟩
    · exact happend hmem q.running q.again
    · have hne : i ≠ k := by
        rintro rfl
        exact hrunning hrun
      have hnew : i ∉ q.waiting ++ [k] := by
        rw [List.mem_append, List.mem_singleton, not_or]
        exact ⟨(h.running i hrun).2, hne⟩
      refine ⟨.inr ⟨hrun, hagain⟩, ?_⟩
      rw [delay_of_not_mem (h.running i hrun).2,
        delay_of_not_mem (q := ⟨q.waiting ++ [k], q.running, q.again⟩) hnew]
      exact le_rfl
  | rerun k hrunning => exact ⟨hpend.imp_right fun hrun => ⟨hrun.1, rfl⟩, le_rfl⟩
  | start k rest hwait hrunning =>
    rcases hpend with hmem | ⟨hrun, _⟩
    · have hne : k ≠ i := by
        rintro rfl
        exact hnot rfl
      have hrest : i ∈ rest := (mem_cons.mp (hwait ▸ hmem)).resolve_left hne.symm
      refine ⟨.inl hrest, ?_⟩
      rw [delay_of_mem hmem, delay_of_mem (q := ⟨rest, some k, false⟩) hrest, hwait,
        idxOf_cons_ne _ hne]
      exact le_rfl
    · rw [hrunning] at hrun
      cases hrun
  | finish k hrunning hagain =>
    rcases hpend with hmem | ⟨_, hyes⟩
    · exact ⟨.inl hmem, le_of_eq (by
        rw [delay_of_mem hmem, delay_of_mem (q := ⟨q.waiting, none, false⟩) hmem]; rfl)⟩
    · rw [hagain] at hyes
      cases hyes
  | requeue k hrunning hagain =>
    rcases hpend with hmem | ⟨hrun, _⟩
    · exact happend hmem none false
    · obtain rfl : k = i := Option.some.inj (hrunning.symm.trans hrun)
      obtain ⟨hitem, hnew⟩ := h.running k hrunning
      have hmem : k ∈ q.waiting ++ [k] := mem_append_right _ mem_cons_self
      refine ⟨.inl hmem, ?_⟩
      rw [delay_of_not_mem hnew, delay_of_mem (q := ⟨q.waiting ++ [k], none, false⟩) hmem,
        idxOf_append_of_notMem hnew, idxOf_cons_self]
      exact h.length_lt hitem hnew

variable {acts : List (Act ι)}

/-- In a run that does not start it, an item stays pending, and comes nearer with every start. -/
theorem Run.delay_le (hrun : Run q acts r) (h : q.Orderly items)
    (hacts : ∀ act ∈ acts, act.Within items) (hpend : q.Pending i) (hnot : Act.start i ∉ acts) :
    r.Orderly items ∧ r.Pending i ∧
      r.delay items i + acts.countP Act.isStart ≤ q.delay items i := by
  induction hrun with
  | nil q => exact ⟨h, hpend, le_rfl⟩
  | @cons q s r act acts hstep hrest ih =>
    have hwithin := hacts act mem_cons_self
    obtain ⟨hpend', hdelay⟩ := hpend.step h hstep fun hstart =>
      hnot (hstart ▸ mem_cons_self)
    obtain ⟨horderly, hlast, hbound⟩ := ih (h.step hwithin hstep)
      (fun act hact => hacts act (mem_cons_of_mem _ hact)) hpend'
      fun hmem => hnot (mem_cons_of_mem _ hmem)
    refine ⟨horderly, hlast, ?_⟩
    rw [countP_cons]
    have hstart : (if act.isStart = true then 1 else 0) = act.isStart.toNat := by
      cases act.isStart <;> rfl
    omega

/-- An item that a run does not start is still pending. -/
theorem Run.pending (hrun : Run q acts r) (h : q.Orderly items)
    (hacts : ∀ act ∈ acts, act.Within items) (hpend : q.Pending i) (hnot : Act.start i ∉ acts) :
    r.Pending i :=
  (hrun.delay_le h hacts hpend hnot).2.1

/-- A pending item starts once there have been as many starts as there are items. -/
theorem Run.start_mem (hrun : Run q acts r) (h : q.Orderly items)
    (hacts : ∀ act ∈ acts, act.Within items) (hpend : q.Pending i)
    (hcount : items.card ≤ acts.countP Act.isStart) : Act.start i ∈ acts := by
  by_contra hnot
  obtain ⟨horderly, hlast, hbound⟩ := hrun.delay_le h hacts hpend hnot
  have hle : q.delay items i ≤ items.card := h.delay_le
  have hpos : 0 < r.delay items i := by
    unfold delay
    split
    · exact Nat.succ_pos _
    · rcases hlast with hmem | ⟨hrunning, _⟩
      · contradiction
      · exact card_pos.mpr ⟨i, (horderly.running i hrunning).1⟩
  omega

end Waiting

end WorkQueue
