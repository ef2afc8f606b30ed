import Mathlib.Algebra.BigOperators.Fin
import Mathlib.Algebra.Order.BigOperators.Group.Finset
import Mathlib.Data.Fintype.BigOperators
import Mathlib.Logic.Relation

/-!
# Tables of slots

A table is a function on a finite set of indices, changed one slot at a time.  A quantity of a table
is the sum of what its slots contribute; the number of slots with a property is one.  When a slot is
written, the quantity changes by what the old and the new content contribute.

A pass over a table is a fold over its indices.  It is a sequence of the steps its rounds are, and
what each round settles for its own slot, and no later round unsettles, holds for all of them at the
end.
-/

section Sums

variable {ι α : Type*} [Fintype ι]

/-- Writing one slot exchanges its contribution. -/
theorem sum_slots_update [DecidableEq ι] (weight : α → ℕ) (table : ι → α) (i : ι) (value : α) :
    (∑ j, weight (Function.update table i value j)) + weight (table i) =
      (∑ j, weight (table j)) + weight value := by
  have hsplit (slots : ι → α) :
      ∑ j, weight (slots j) = weight (slots i) + ∑ j ∈ Finset.univ.erase i, weight (slots j) :=
    (Finset.add_sum_erase _ _ (Finset.mem_univ i)).symm
  have hothers : ∑ j ∈ Finset.univ.erase i, weight (Function.update table i value j) =
      ∑ j ∈ Finset.univ.erase i, weight (table j) :=
    Finset.sum_congr rfl fun j hj => by rw [Function.update_of_ne (Finset.ne_of_mem_erase hj)]
  rw [hsplit, hsplit table, Function.update_self, hothers]
  omega

/-- A slot contributes at most the whole. -/
theorem le_sum_slots (weight : α → ℕ) (table : ι → α) (i : ι) :
    weight (table i) ≤ ∑ j, weight (table j) :=
  Finset.single_le_sum (f := fun j => weight (table j)) (fun _ _ => Nat.zero_le _)
    (Finset.mem_univ i)

end Sums

section Counts

variable {α β : Type*} {n : ℕ}

def slotCount (p : α → Bool) (table : Fin n → α) : ℕ :=
  (List.finRange n).countP fun i => p (table i)

theorem slotCount_eq_sum (p : α → Bool) (table : Fin n → α) :
    slotCount p table = ∑ i, (p (table i)).toNat := by
  have hlist (slots : List (Fin n)) :
      slots.countP (fun i => p (table i)) = (slots.map fun i => (p (table i)).toNat).sum := by
    induction slots with
    | nil => rfl
    | cons i slots ih =>
      rw [List.countP_cons, List.map_cons, List.sum_cons, ih]
      cases p (table i) <;> simp [Nat.add_comm]
  unfold slotCount
  rw [hlist, ← List.ofFn_eq_map, List.sum_ofFn]

theorem slotCount_update (p : α → Bool) (table : Fin n → α) (i : Fin n) (value : α) :
    slotCount p (Function.update table i value) + (p (table i)).toNat =
      slotCount p table + (p value).toNat := by
  rw [slotCount_eq_sum, slotCount_eq_sum]
  exact sum_slots_update (fun a => (p a).toNat) table i value

theorem slotCount_mono {p : α → Bool} {q : β → Bool} {table : Fin n → α} {other : Fin n → β}
    (h : ∀ i, p (table i) → q (other i)) : slotCount p table ≤ slotCount q other :=
  List.countP_mono_left fun i _ => h i

theorem slotCount_pos {p : α → Bool} {table : Fin n → α} :
    0 < slotCount p table ↔ ∃ i, p (table i) := by
  unfold slotCount
  rw [List.countP_pos_iff]
  exact ⟨fun ⟨i, _, hi⟩ => ⟨i, hi⟩, fun ⟨i, hi⟩ => ⟨i, List.mem_finRange i, hi⟩⟩

theorem slotCount_of_none {p : α → Bool} {table : Fin n → α} (h : ∀ i, p (table i) = false) :
    slotCount p table = 0 := by
  unfold slotCount
  rw [List.countP_eq_zero]
  intro i _
  rw [h i]
  exact Bool.false_ne_true

end Counts

section Passes

variable {σ ι : Type*} {round : σ → ι → σ}

/-- A fold whose every round is a sequence of steps is one. -/
theorem foldl_reflTransGen {r : σ → σ → Prop}
    (h : ∀ s i, Relation.ReflTransGen r s (round s i)) (indices : List ι) (s : σ) :
    Relation.ReflTransGen r s (indices.foldl round s) := by
  induction indices generalizing s with
  | nil => exact .refl
  | cons i indices ih => exact (h s i).trans (ih _)

/-- What the round of an index settles, and the others keep, holds for every index at the end. -/
theorem foldl_settles {P : σ → Prop} {Q : ι → σ → Prop} (hkeep : ∀ s i, P s → P (round s i))
    (hsettle : ∀ s i, P s → Q i (round s i))
    (hother : ∀ s i i', P s → Q i s → Q i (round s i')) (indices : List ι) (s : σ) (hs : P s) :
    ∀ i ∈ indices, Q i (indices.foldl round s) := by
  have hlast (indices : List ι) (s : σ) (hs : P s) (i : ι) (hi : Q i s) :
      Q i (indices.foldl round s) := by
    induction indices generalizing s with
    | nil => exact hi
    | cons i' indices ih => exact ih _ (hkeep s i' hs) (hother s i i' hs hi)
  induction indices generalizing s with
  | nil => exact fun i hi => (List.not_mem_nil hi).elim
  | cons i' indices ih =>
    intro i hi
    rcases List.mem_cons.mp hi with rfl | hi
    · exact hlast indices _ (hkeep s i hs) i (hsettle s i hs)
    · exact ih _ (hkeep s i' hs) i hi

end Passes
