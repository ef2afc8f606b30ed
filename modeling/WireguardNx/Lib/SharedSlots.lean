import Mathlib.Algebra.BigOperators.Group.Finset.Basic
import Mathlib.Data.Finset.Card
import Mathlib.Data.Fintype.BigOperators
import Mathlib.Logic.Function.Basic

/-!
# Queues that share slots

Several queues name slots of one pool.  `Shares` says that the queues and the slots in use agree:
every slot in use is named by exactly one queue, once.  Appending a free slot to a queue and removing
a prefix of a queue together with its slots keep that.
-/

variable {ι κ : Type*}

/-- Each slot in use is named once, by one of the queues. -/
structure Shares (queues : ι → List κ) (used : Finset κ) : Prop where
  nodup : ∀ i, (queues i).Nodup
  apart : ∀ i j k, k ∈ queues i → k ∈ queues j → i = j
  mem_iff : ∀ k, k ∈ used ↔ ∃ i, k ∈ queues i

namespace Shares

open Function Finset

variable {queues : ι → List κ} {used : Finset κ}

theorem empty : Shares (fun _ : ι => ([] : List κ)) ∅ where
  nodup _ := List.nodup_nil
  apart _ _ _ h := by simp at h
  mem_iff _ := by simp

/-- There are as many slots in use as the queues are long. -/
theorem card_eq [Fintype ι] [DecidableEq κ] (h : Shares queues used) :
    used.card = ∑ i, (queues i).length := by
  have hunion : used = univ.biUnion fun i => (queues i).toFinset := by
    ext k
    simp [h.mem_iff]
  have hdisjoint : ∀ i ∈ univ, ∀ j ∈ univ, i ≠ j →
      Disjoint (queues i).toFinset (queues j).toFinset := by
    intro i _ j _ hne
    refine disjoint_left.mpr fun k hki hkj => hne ?_
    exact h.apart i j k (List.mem_toFinset.mp hki) (List.mem_toFinset.mp hkj)
  rw [hunion, card_biUnion hdisjoint]
  exact sum_congr rfl fun i _ => List.toFinset_card_of_nodup (h.nodup i)

variable [DecidableEq ι] [DecidableEq κ]

/-- A free slot is appended to a queue. -/
theorem append (h : Shares queues used) (i : ι) {k : κ} (hk : k ∉ used) :
    Shares (update queues i (queues i ++ [k])) (insert k used) := by
  have hfree (j : ι) : k ∉ queues j := fun hj => hk ((h.mem_iff k).mpr ⟨j, hj⟩)
  have hmem (j : ι) (l : κ) : l ∈ update queues i (queues i ++ [k]) j ↔
      l ∈ queues j ∨ (j = i ∧ l = k) := by
    rcases eq_or_ne j i with rfl | hne
    · simp
    · simp [hne]
  refine ⟨fun j => ?_, fun j j' l hl hl' => ?_, fun l => ?_⟩
  · rcases eq_or_ne j i with rfl | hne
    · rw [update_self]
      exact List.nodup_append.mpr ⟨h.nodup j, List.nodup_singleton k, fun a ha b hb hab => by
        rw [List.mem_singleton] at hb
        exact hfree j (hb ▸ hab ▸ ha)⟩
    · rw [update_of_ne hne]
      exact h.nodup j
  · rcases (hmem j l).mp hl with hj | ⟨rfl, rfl⟩
    · rcases (hmem j' l).mp hl' with hj' | ⟨rfl, rfl⟩
      · exact h.apart j j' l hj hj'
      · exact absurd hj (hfree j)
    · rcases (hmem j' l).mp hl' with hj' | ⟨rfl, -⟩
      · exact absurd hj' (hfree j')
      · rfl
  · simp only [mem_insert, h.mem_iff, hmem]
    constructor
    · rintro (rfl | ⟨j, hj⟩)
      · exact ⟨i, .inr ⟨rfl, rfl⟩⟩
      · exact ⟨j, .inl hj⟩
    · rintro ⟨j, hj | ⟨-, rfl⟩⟩
      · exact .inr ⟨j, hj⟩
      · exact .inl rfl

/-- A prefix of a queue is removed, and its slots are free. -/
theorem drop (h : Shares queues used) (i : ι) (count : ℕ) :
    Shares (update queues i ((queues i).drop count))
      (used.filter fun k => k ∉ (queues i).take count) := by
  have hsplit : (queues i).take count ++ (queues i).drop count = queues i :=
    List.take_append_drop count (queues i)
  have hparts := List.nodup_append.mp (hsplit ▸ h.nodup i)
  have hsub (j : ι) (l : κ) (hl : l ∈ update queues i ((queues i).drop count) j) :
      l ∈ queues j := by
    rcases eq_or_ne j i with rfl | hne
    · rw [update_self] at hl
      exact List.mem_of_mem_drop hl
    · rwa [update_of_ne hne] at hl
  refine ⟨fun j => ?_, fun j j' l hl hl' => h.apart j j' l (hsub j l hl) (hsub j' l hl'),
    fun l => ?_⟩
  · rcases eq_or_ne j i with rfl | hne
    · rw [update_self]
      exact hparts.2.1
    · rw [update_of_ne hne]
      exact h.nodup j
  · rw [mem_filter, h.mem_iff]
    constructor
    · rintro ⟨⟨j, hj⟩, hkept⟩
      refine ⟨j, ?_⟩
      rcases eq_or_ne j i with rfl | hne
      · rw [update_self]
        rw [← hsplit, List.mem_append] at hj
        exact hj.resolve_left hkept
      · rwa [update_of_ne hne]
    · rintro ⟨j, hj⟩
      refine ⟨⟨j, hsub j l hj⟩, fun hremoved => ?_⟩
      rcases eq_or_ne j i with rfl | hne
      · rw [update_self] at hj
        exact hparts.2.2 l hremoved l hj rfl
      · rw [update_of_ne hne] at hj
        exact hne (h.apart j i l hj (List.mem_of_mem_take hremoved))

end Shares
