import WireguardNx.Lib.BitRing
import WireguardNx.Lib.Machine
import WireguardNx.Wireguard.Session

/-!
# The replay window records what it has accepted

A `ReplayWindow` is a ring of 128 blocks of 64 bits, so the library's account of such rings says
what it knows.  `tryAdvance` accepts exactly the counters that it has not accepted before and that
are above the highest one or at most `windowSize` below it, and the window it leaves records the
accepted counter as well.  So the window answers every sequence of counters like `CounterHistory`,
which keeps all the counters it has seen and all those it has accepted.
-/

namespace WireguardNx.Wireguard.ReplayWindow

/-- The window has accepted exactly the counters `seen`, as far as it reaches back. -/
structure Records (window : ReplayWindow) (seen : Set Nat) : Prop where
  ring : BitRing.Records window.ring window.highestCounter.toNat seen
  untouched : window.initialized = false → window.highestCounter = 0

/-- A window may still take `counter`: it is above the highest one or not too far below. -/
def Reaches (window : ReplayWindow) (counter : UInt64) : Prop :=
  window.highestCounter < counter ∨
    window.highestCounter.toNat - counter.toNat ≤ windowSize

theorem records_reset : Records reset ∅ :=
  ⟨BitRing.records_empty 0, fun _ => rfl⟩

private theorem clearBlocks_eq (ring : Fin 128 → BitVec 64) (current diff : Nat) :
    clearBlocks ring current diff = BitRing.clear ring (current + 1) diff := rfl

theorem shiftRight_six (n : Nat) : n >>> 6 = n / 64 := Nat.shiftRight_eq_div_pow n 6

theorem and_sixtyThree (n : Nat) : n &&& 63 = n % 64 := Nat.and_two_pow_sub_one_eq_mod n 6

/-- Marking a covered counter: fresh exactly when it was not recorded. -/
theorem mark_spec (window : ReplayWindow) {seen : Set Nat} {counter : UInt64}
    (h : BitRing.Records window.ring window.highestCounter.toNat seen)
    (hle : counter.toNat ≤ window.highestCounter.toNat)
    (hcover : BitRing.Covers 128 64 window.highestCounter.toNat counter.toNat) :
    ((tryAdvance.mark window counter).1 ↔ counter.toNat ∉ seen) ∧
      (tryAdvance.mark window counter).2.Records (insert counter.toNat seen) ∧
      (tryAdvance.mark window counter).2.highestCounter = window.highestCounter := by
  have hring : (tryAdvance.mark window counter).2.ring =
      BitRing.mark window.ring counter.toNat := by
    unfold tryAdvance.mark BitRing.mark
    simp only [shiftRight_six, and_sixtyThree]
    rfl
  refine ⟨?_, ⟨?_, ?_⟩, rfl⟩
  · rw [← h.test_iff _ hcover]
    have hbit := BitRing.or_bit_ne_iff (x := window.ring (slot (counter.toNat / 64)))
      (Nat.mod_lt counter.toNat (by decide : 0 < 64))
    unfold tryAdvance.mark
    simp only [shiftRight_six, and_sixtyThree, bne_iff_ne, Bool.not_eq_true]
    exact hbit
  · rw [hring]
    exact h.mark (by decide) hle hcover
  · intro hinit
    exact absurd hinit (by simp [tryAdvance.mark])

/-- `TryAdvance` accepts a counter exactly when it has not accepted it before and reaches back to
it, and then records it; a refused counter leaves what is recorded as it was. -/
theorem tryAdvance_spec {window : ReplayWindow} {seen : Set Nat} (h : window.Records seen)
    (counter : UInt64) :
    ((window.tryAdvance counter).1 ↔ counter.toNat ∉ seen ∧ window.Reaches counter) ∧
      ((window.tryAdvance counter).1 →
        (window.tryAdvance counter).2.Records (insert counter.toNat seen)) ∧
      ((window.tryAdvance counter).1 = false → (window.tryAdvance counter).2.Records seen) := by
  unfold tryAdvance
  simp only [shiftRight_six, clearBlocks_eq]
  by_cases habove : window.highestCounter < counter
  · -- above the highest counter: the blocks in between are cleared first
    rw [if_pos habove]
    have hlt : window.highestCounter.toNat < counter.toNat := UInt64.lt_iff_toNat_lt.mp habove
    have hmark := mark_spec { window with
        ring := BitRing.clear window.ring (window.highestCounter.toNat / 64 + 1)
          (min (counter.toNat / 64 - window.highestCounter.toNat / 64) 128)
        highestCounter := counter } (h.ring.advance hlt) le_rfl
      (BitRing.covers_of_sub_le (by decide) le_rfl (by simp))
    have hnew : counter.toNat ∉ seen := fun hin => absurd (h.ring.le_top _ hin) (by omega)
    refine ⟨?_, fun _ => hmark.2.1, fun hfalse => ?_⟩
    · rw [hmark.1]
      exact ⟨fun hn => ⟨hn, Or.inl habove⟩, fun hn => hn.1⟩
    · rw [hmark.1.mpr hnew] at hfalse
      exact absurd hfalse (by simp)
  · rw [if_neg habove]
    have hle : counter.toNat ≤ window.highestCounter.toNat := by
      rw [UInt64.lt_iff_toNat_lt] at habove
      omega
    by_cases hold : window.initialized ∧
        windowSize < window.highestCounter.toNat - counter.toNat
    · rw [if_pos hold]
      refine ⟨?_, fun hfalse => absurd hfalse (by simp), fun _ => h⟩
      simp only [Bool.false_eq_true, false_iff, not_and]
      rintro - (hup | hnear)
      · exact habove hup
      · omega
    · rw [if_neg hold]
      have hnear : window.highestCounter.toNat - counter.toNat ≤ windowSize := by
        cases hinit : window.initialized with
        | true =>
          by_contra hfar
          exact hold ⟨hinit, by omega⟩
        | false =>
          rw [h.untouched hinit]
          simp [windowSize]
      have hmark := mark_spec window h.ring hle (BitRing.covers_of_sub_le (by decide) hle hnear)
      refine ⟨?_, fun _ => hmark.2.1, fun hfalse => ?_⟩
      · rw [hmark.1]
        exact ⟨fun hn => ⟨hn, Or.inr hnear⟩, fun hn => hn.1⟩
      · have hin : counter.toNat ∈ seen := by
          by_contra hn
          rw [hmark.1.mpr hn] at hfalse
          exact absurd hfalse (by simp)
        rw [← Set.insert_eq_of_mem hin]
        exact hmark.2.1

/-- After `TryAdvance` the highest counter is the larger one. -/
theorem tryAdvance_highestCounter (window : ReplayWindow) (counter : UInt64) :
    (window.tryAdvance counter).2.highestCounter.toNat =
      max counter.toNat window.highestCounter.toNat := by
  by_cases habove : window.highestCounter < counter
  · have hlt := UInt64.lt_iff_toNat_lt.mp habove
    have htop : (window.tryAdvance counter).2.highestCounter = counter := by
      unfold tryAdvance
      rw [if_pos habove]
      rfl
    rw [htop, max_eq_left hlt.le]
  · have hle : counter.toNat ≤ window.highestCounter.toNat :=
      not_lt.mp fun hlt => habove (UInt64.lt_iff_toNat_lt.mpr hlt)
    have htop : (window.tryAdvance counter).2.highestCounter = window.highestCounter := by
      unfold tryAdvance
      rw [if_neg habove]
      split <;> rfl
    rw [htop, max_eq_right hle]

end WireguardNx.Wireguard.ReplayWindow

namespace WireguardNx.Wireguard

/-- The reference a replay window is compared with: every counter seen and every one accepted. -/
structure CounterHistory where
  seen : List Nat
  accepted : List Nat
  deriving DecidableEq, Repr

namespace CounterHistory

def empty : CounterHistory := ⟨[], []⟩

def highest (history : CounterHistory) : Nat := history.seen.foldr max 0

/-- A counter is accepted when it was not accepted before and is above the largest one seen or not
more than a window below it. -/
def accepts (history : CounterHistory) (counter : Nat) : Bool :=
  decide (counter ∉ history.accepted ∧
    (history.highest < counter ∨ history.highest - counter ≤ ReplayWindow.windowSize))

/-- The reference's answer to a counter, and the history with it. -/
def tryAdvance (history : CounterHistory) (counter : UInt64) : Bool × CounterHistory :=
  let accepted := history.accepts counter.toNat
  (accepted,
    { seen := counter.toNat :: history.seen
      accepted := if accepted then counter.toNat :: history.accepted else history.accepted })

end CounterHistory

namespace ReplayWindow

/-- A window and a history that have accepted the same counters and seen the same largest one. -/
structure Follows (window : ReplayWindow) (history : CounterHistory) : Prop where
  records : window.Records {counter | counter ∈ history.accepted}
  highest : window.highestCounter.toNat = history.highest

private theorem follows_reset : Follows reset CounterHistory.empty where
  records := by
    have hnone : {counter | counter ∈ CounterHistory.empty.accepted} = (∅ : Set Nat) := by
      ext counter
      exact List.mem_nil_iff counter
    rw [hnone]
    exact records_reset
  highest := rfl

/-- The two answer alike. -/
theorem Follows.answer {window : ReplayWindow} {history : CounterHistory}
    (h : window.Follows history) (counter : UInt64) :
    (window.tryAdvance counter).1 = (history.tryAdvance counter).1 := by
  have hreaches : window.Reaches counter ↔ history.highest < counter.toNat ∨
      history.highest - counter.toNat ≤ windowSize := by
    rw [Reaches, UInt64.lt_iff_toNat_lt, h.highest]
  apply Bool.eq_iff_iff.mpr
  rw [(tryAdvance_spec h.records counter).1, hreaches]
  exact decide_eq_true_iff.symm

/-- And after the answer the window still follows the history. -/
theorem Follows.next {window : ReplayWindow} {history : CounterHistory}
    (h : window.Follows history) (counter : UInt64) :
    (window.tryAdvance counter).2.Follows (history.tryAdvance counter).2 where
  records := by
    obtain ⟨-, hacc, hrefused⟩ := tryAdvance_spec h.records counter
    have hanswer := h.answer counter
    cases hfresh : history.accepts counter.toNat with
    | true =>
      have hlist : (history.tryAdvance counter).2.accepted =
          counter.toNat :: history.accepted := by
        simp only [CounterHistory.tryAdvance, hfresh, if_true]
      have hset : {c | c ∈ (history.tryAdvance counter).2.accepted} =
          insert counter.toNat {c | c ∈ history.accepted} := by
        ext c
        rw [hlist]
        exact List.mem_cons
      rw [hset]
      exact hacc (hanswer.trans hfresh)
    | false =>
      have hlist : (history.tryAdvance counter).2.accepted = history.accepted := by
        simp only [CounterHistory.tryAdvance, hfresh, Bool.false_eq_true, if_false]
      rw [hlist]
      exact hrefused (hanswer.trans hfresh)
  highest := by
    rw [tryAdvance_highestCounter, h.highest]
    rfl

/-- A window run from its reset state over any counters answers as the history does: no jump
leaves a stale bit behind and none forgets a bit of the window. -/
theorem tryAdvance_answers_reference (counters : List UInt64) :
    Machine.answers tryAdvance reset counters =
      Machine.answers CounterHistory.tryAdvance CounterHistory.empty counters :=
  Machine.answers_eq_of_simulation (R := Follows) (fun _ _ counter h => h.answer counter)
    (fun _ _ counter h => h.next counter) follows_reset counters

end ReplayWindow

end WireguardNx.Wireguard
