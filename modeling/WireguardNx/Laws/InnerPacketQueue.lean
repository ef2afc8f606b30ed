import WireguardNx.Lib.Machine
import WireguardNx.Wireguard.InnerPacket
import Mathlib.Data.List.Induction
import Mathlib.Data.Nat.ModEq
import Mathlib.Order.Bounds.Basic

/-!
# The inner packet queue is a list

`InnerPacketQueue` is a ring of records.  Read head first it is a list, and its operations are those
of a list: a push appends, a pop takes the head, a clear empties it.  Every packet that leaves is
noted in `retired` under its disposition.  So over any calls the queue answers as a bounded list
does, and its statistics account for every packet it took.

The capacity is positive.  The counters are 64 bits wide and wrap, so the account is one modulo 2^64.
-/

namespace WireguardNx.Wireguard.InnerPacketQueue

variable {capacity : Nat} (queue : InnerPacketQueue capacity)

@[simp]
theorem length_toList : queue.toList.length = queue.count := by
  simp [toList]

/-- Offsets below the capacity address different slots. -/
theorem slot_inj {i j : Nat} (hi : i < capacity) (hj : j < capacity)
    (h : queue.slot i = queue.slot j) : i = j := by
  have hmod : queue.head + i ≡ queue.head + j [MOD capacity] := Fin.mk.inj h
  exact (Nat.ModEq.add_left_cancel' _ hmod).eq_of_lt_of_lt hi hj

theorem front_eq : queue.front = queue.toList.head? := by
  unfold front toList
  cases hcount : queue.count with
  | zero => rfl
  | succ n => simp [List.range_succ_eq_map]

/-- A push that is not refused appends. -/
theorem push_of_ne (packet : InnerPacketRecord) (h : queue.count ≠ capacity) :
    (queue.push packet).1 = .pushed ∧ (queue.push packet).2.toList = queue.toList ++ [packet] ∧
      (queue.push packet).2.retired = queue.retired := by
  unfold push
  rw [dif_neg h]
  refine ⟨rfl, ?_, rfl⟩
  have hlt : queue.count < capacity := Nat.lt_of_le_of_ne queue.count_le h
  unfold toList
  rw [List.range_succ, List.map_append, List.map_singleton]
  congr 1
  · refine List.map_congr_left fun i hi => ?_
    rw [List.mem_range] at hi
    refine Function.update_of_ne (fun hslot => ?_) _ _
    exact absurd (queue.slot_inj (hi.trans hlt) hlt hslot) (Nat.ne_of_lt hi)
  · simp [slot]

/-- A refused push changes nothing but the statistics. -/
theorem push_of_eq (packet : InnerPacketRecord) (h : queue.count = capacity) :
    (queue.push packet).1 = .full ∧ (queue.push packet).2.toList = queue.toList ∧
      (queue.push packet).2.retired = queue.retired := by
  unfold push
  rw [dif_pos h]
  exact ⟨rfl, rfl, rfl⟩

/-- A pop takes the head, if there is one, and notes it. -/
theorem pop_spec (disposition : QueueDisposition) :
    (queue.pop disposition).2.toList = queue.toList.tail ∧
      (queue.pop disposition).2.retired =
        queue.retired ++ queue.toList.head?.toList.map (·, disposition) := by
  unfold pop
  by_cases hcount : queue.count = 0
  · rw [if_pos hcount]
    simp [toList, hcount]
  · rw [if_neg hcount]
    obtain ⟨n, hn⟩ := Nat.exists_eq_succ_of_ne_zero hcount
    have hle : n < capacity := by
      have := queue.count_le
      omega
    constructor
    · unfold toList
      simp only [hn, Nat.succ_sub_one, List.range_succ_eq_map, List.map_cons, List.tail_cons,
        List.map_map]
      refine List.map_congr_left fun i hi => ?_
      rw [List.mem_range] at hi
      have hslot : ((queue.head + 1) % capacity + i) % capacity =
          (queue.head + (i + 1)) % capacity := by
        rw [Nat.mod_add_mod, Nat.add_assoc, Nat.add_comm 1 i]
      simp only [Function.comp_apply, slot, hslot]
      refine Function.update_of_ne (fun hsame => ?_) _ _
      exact absurd (queue.slot_inj (by omega) queue.capacity_pos hsame) (Nat.succ_ne_zero i)
    · rw [← front_eq, front, if_neg hcount]
      rfl

theorem clear_spec (disposition : QueueDisposition) : (queue.clear disposition).2.toList = [] ∧
      (queue.clear disposition).2.retired = queue.retired ++ queue.toList.map (·, disposition) :=
  ⟨rfl, rfl⟩

/-! ## Any calls -/

inductive QueueCall where
  | push (packet : InnerPacketRecord)
  | pop (disposition : QueueDisposition)
  | front
  | clear (disposition : QueueDisposition)
  deriving DecidableEq, Repr

/-- What a call returns; `Pop` fills its output with the record that was in front. -/
inductive QueueAnswer where
  | pushed (result : QueuePushResult)
  | popped (popped : Bool) (out : Option InnerPacketRecord)
  | front (record : Option InnerPacketRecord)
  | cleared (count : Nat)
  deriving DecidableEq, Repr

def respond (queue : InnerPacketQueue capacity) :
    QueueCall → QueueAnswer × InnerPacketQueue capacity
  | .push packet => (.pushed (queue.push packet).1, (queue.push packet).2)
  | .pop disposition => (.popped (queue.pop disposition).1 queue.front, (queue.pop disposition).2)
  | .front => (.front queue.front, queue)
  | .clear disposition => (.cleared (queue.clear disposition).1, (queue.clear disposition).2)

/-- The answer of a list that appends while it is shorter than the capacity. -/
def listRespond (capacity : Nat) (contents : List InnerPacketRecord) :
    QueueCall → QueueAnswer × List InnerPacketRecord
  | .push packet =>
    if contents.length < capacity then (.pushed .pushed, contents ++ [packet])
    else (.pushed .full, contents)
  | .pop _ => (.popped (!contents.isEmpty) contents.head?, contents.tail)
  | .front => (.front contents.head?, contents)
  | .clear _ => (.cleared contents.length, [])

/-- A call does to the queue's contents what it does to the list. -/
theorem respond_toList (call : QueueCall) :
    (queue.respond call).1 = (listRespond capacity queue.toList call).1 ∧
      (queue.respond call).2.toList = (listRespond capacity queue.toList call).2 := by
  cases call with
  | push packet =>
    simp only [respond, listRespond, length_toList]
    by_cases hfull : queue.count = capacity
    · obtain ⟨hresult, hlist, -⟩ := queue.push_of_eq packet hfull
      rw [if_neg (Nat.not_lt.mpr hfull.ge), hresult, hlist]
      exact ⟨rfl, rfl⟩
    · obtain ⟨hresult, hlist, -⟩ := queue.push_of_ne packet hfull
      rw [if_pos (Nat.lt_of_le_of_ne queue.count_le hfull), hresult, hlist]
      exact ⟨rfl, rfl⟩
  | pop disposition =>
    refine ⟨?_, (queue.pop_spec disposition).1⟩
    have htaken : (queue.pop disposition).1 = !queue.toList.isEmpty := by
      rw [← List.isEmpty_map (f := fun _ => ()), pop]
      split <;> simp [toList, *]
    simp only [respond, listRespond, htaken, front_eq]
  | front => exact ⟨congrArg _ queue.front_eq, rfl⟩
  | clear disposition => exact ⟨congrArg _ queue.length_toList.symm, rfl⟩

/-- The packets that left, under whatever disposition. -/
def disposed (statistics : QueueStatistics) : UInt64 :=
  statistics.dispositions .delivered + statistics.dispositions .sent +
    statistics.dispositions .stale + statistics.dispositions .unavailable +
    statistics.dispositions .sendFailed + statistics.dispositions .retryExhausted +
    statistics.dispositions .cleared

theorem disposed_recordDisposition (statistics : QueueStatistics) (disposition : QueueDisposition)
    (count : Nat) : disposed (recordDisposition statistics disposition count) =
      disposed statistics + .ofNat count := by
  cases disposition <;> simp [disposed, recordDisposition] <;> grind

/-- The statistics account for the packets in the queue and for those that left it, also when a
counter has wrapped around. -/
structure Tallied (queue : InnerPacketQueue capacity) : Prop where
  pushed : queue.statistics.pushed = queue.statistics.popped + .ofNat queue.count
  popped : queue.statistics.popped = disposed queue.statistics
  watermark : queue.count ≤ queue.statistics.highWatermark

/-- A call keeps the accounts, and raises the mark to the size it leaves. -/
theorem Tallied.respond {queue : InnerPacketQueue capacity} (h : queue.Tallied) (call : QueueCall) :
    (queue.respond call).2.Tallied ∧ (queue.respond call).2.statistics.highWatermark =
      max queue.statistics.highWatermark (queue.respond call).2.count := by
  obtain ⟨hpushed, hpopped, hmark⟩ := h
  cases call with
  | push packet =>
    simp only [InnerPacketQueue.respond, push]
    split
    · exact ⟨⟨hpushed, hpopped, hmark⟩, (max_eq_left hmark).symm⟩
    · refine ⟨⟨?_, hpopped, ?_⟩, ?_⟩ <;> dsimp only
      · rw [hpushed, UInt64.ofNat_add, ← UInt64.add_assoc]
        rfl
      all_goals split <;> omega
  | pop disposition =>
    simp only [InnerPacketQueue.respond, pop]
    split
    · exact ⟨⟨hpushed, hpopped, hmark⟩, (max_eq_left hmark).symm⟩
    · rename_i hcount
      refine ⟨⟨?_, ?_, ?_⟩, ?_⟩
      · show _ = queue.statistics.popped + .ofNat 1 + .ofNat (queue.count - 1)
        rw [UInt64.add_assoc, ← UInt64.ofNat_add, Nat.add_sub_cancel' (Nat.pos_of_ne_zero hcount)]
        exact hpushed
      · rw [disposed_recordDisposition, ← hpopped]
        rfl
      · exact (Nat.sub_le _ _).trans hmark
      · exact (max_eq_left ((Nat.sub_le _ _).trans hmark)).symm
  | front => exact ⟨⟨hpushed, hpopped, hmark⟩, (max_eq_left hmark).symm⟩
  | clear disposition =>
    refine ⟨⟨hpushed.trans (UInt64.add_zero _).symm, ?_, Nat.zero_le _⟩, (Nat.max_zero _).symm⟩
    show _ = disposed (recordDisposition _ _ _)
    rw [disposed_recordDisposition, ← hpopped]
    rfl

def run (hcapacity : 0 < capacity) (calls : List QueueCall) : InnerPacketQueue capacity :=
  calls.foldl (fun queue call => (queue.respond call).2) (empty hcapacity)

/-- The accounts hold after any calls, and the mark is the largest size on the way. -/
theorem run_tallied (hcapacity : 0 < capacity) (calls : List QueueCall) :
    (run hcapacity calls).Tallied ∧
      IsGreatest (Set.range fun n => (run hcapacity (calls.take n)).count)
        (run hcapacity calls).statistics.highWatermark := by
  -- The last call is the one that may raise the mark.
  induction calls using List.reverseRecOn with
  | nil =>
    refine ⟨⟨rfl, rfl, le_rfl⟩, ⟨0, rfl⟩, ?_⟩
    rintro _ ⟨n, rfl⟩
    simp only [List.take_nil]
    exact le_rfl
  | append_singleton calls call ih =>
    obtain ⟨htallied, ⟨n, hn⟩, hle⟩ := ih
    obtain ⟨hnext, hmark⟩ := htallied.respond call
    have hrun : run hcapacity (calls ++ [call]) = ((run hcapacity calls).respond call).2 :=
      List.foldl_concat ..
    rw [hrun, hmark]
    refine ⟨hnext, ?_, ?_⟩
    · rcases le_total ((run hcapacity calls).respond call).2.count
        (run hcapacity calls).statistics.highWatermark with hlow | hhigh
      · refine ⟨min n calls.length, ?_⟩
        simp only
        rw [List.take_append_of_le_length (Nat.min_le_right _ _), ← List.take_eq_take_min,
          max_eq_left hlow]
        exact hn
      · refine ⟨calls.length + 1, ?_⟩
        simp only
        rw [List.take_of_length_le (by simp), hrun, max_eq_right hhigh]
    · rintro _ ⟨m, rfl⟩
      rcases Nat.lt_or_ge calls.length m with hlong | hshort
      · simp only
        rw [List.take_of_length_le (by rw [List.length_append]; exact hlong), hrun]
        exact le_max_right _ _
      · simp only
        rw [List.take_append_of_le_length hshort]
        exact (hle ⟨m, rfl⟩).trans (le_max_left _ _)

/-- Over any calls the queue answers as the bounded list does and holds what the list holds; every
packet it took is in it or left under one disposition, and its mark is the largest size it had. -/
theorem queue_refines_list (hcapacity : 0 < capacity) (calls : List QueueCall) :
    Machine.answers respond (empty hcapacity) calls =
      Machine.answers (listRespond capacity) [] calls ∧
    (run hcapacity calls).toList =
      calls.foldl (fun contents call => (listRespond capacity contents call).2) [] ∧
    (run hcapacity calls).statistics.pushed =
      disposed (run hcapacity calls).statistics + .ofNat (run hcapacity calls).count ∧
    (run hcapacity calls).statistics.popped = disposed (run hcapacity calls).statistics ∧
    IsGreatest (Set.range fun n => (run hcapacity (calls.take n)).count)
      (run hcapacity calls).statistics.highWatermark := by
  obtain ⟨⟨hpushed, hpopped, -⟩, hmark⟩ := run_tallied hcapacity calls
  refine ⟨?_, ?_, hpopped ▸ hpushed, hpopped, hmark⟩
  · refine Machine.answers_eq_of_simulation (R := fun queue contents => queue.toList = contents)
      (fun queue _ call h => ?_) (fun queue _ call h => ?_) rfl calls
    · exact h ▸ (queue.respond_toList call).1
    · exact h ▸ (queue.respond_toList call).2
  · exact (List.foldl_hom toList fun queue call => (queue.respond_toList call).2.symm).symm

theorem queue_refines_list_two :
    disposed (run Nat.two_pos [.push .empty, .clear .cleared]).statistics = 1 ∧
      (run Nat.two_pos [.push .empty, .clear .cleared]).statistics.popped =
        disposed (run Nat.two_pos [.push .empty, .clear .cleared]).statistics :=
  ⟨by decide, (queue_refines_list Nat.two_pos _).2.2.2.1⟩

end WireguardNx.Wireguard.InnerPacketQueue
