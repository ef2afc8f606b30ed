import Mathlib.Data.Set.Insert
import Mathlib.Data.Nat.ModEq

/-!
# A sliding set of numbers in a ring of bit blocks

A ring of `B` blocks of `w` bits holds the recent part of a growing set of numbers: number `n` is
bit `n % w` of block `n / w`, and block `b` lives in cell `b % B`.  The ring speaks for the numbers
in the last `B` blocks up to the largest one; older blocks have been given to newer numbers.

`Records` is the invariant, `Records.advance` moves the largest number up by clearing the blocks
it newly covers, and `Records.mark` adds a number.
-/

/-- `B` blocks of `w` bits, used as a ring. -/
abbrev BitRing (B w : Nat) := Fin B → BitVec w

namespace BitRing

variable {B w : Nat} [NeZero B]

def cell (B : Nat) [NeZero B] (block : Nat) : Fin B := Fin.ofNat B block

def test (ring : BitRing B w) (n : Nat) : Bool := (ring (cell B (n / w))).getLsbD (n % w)

def mark (ring : BitRing B w) (n : Nat) : BitRing B w :=
  Function.update ring (cell B (n / w)) (ring (cell B (n / w)) ||| (1#w) <<< (n % w))

def clear (ring : BitRing B w) (first count : Nat) : BitRing B w :=
  (List.range count).foldl (fun ring k => Function.update ring (cell B (first + k)) 0#w) ring

/-- The numbers the ring speaks for when the largest one recorded is `top`. -/
def Covers (B w top n : Nat) : Prop := n / w ≤ top / w ∧ top / w < n / w + B

/-- The ring records `seen`: nothing in it exceeds `top`, and each covered bit is exact. -/
structure Records (ring : BitRing B w) (top : Nat) (seen : Set Nat) : Prop where
  le_top : ∀ n ∈ seen, n ≤ top
  test_iff : ∀ n, Covers B w top n → (ring.test n = true ↔ n ∈ seen)

/-! ## Cells -/

/-- Two blocks less than `B` apart do not share a cell. -/
theorem cell_inj {a b : Nat} (hab : a ≤ b) (hlt : b < a + B) (h : cell B a = cell B b) : a = b := by
  have hmod : a % B = b % B := congrArg Fin.val h
  have hdvd : B ∣ b - a := (Nat.modEq_iff_dvd' hab).mp hmod
  have hzero : b - a = 0 := Nat.eq_zero_of_dvd_of_lt hdvd (by omega)
  omega

/-- Counting on from `first`, every later block's cell comes up within `B` steps. -/
theorem cell_add_mod (first k : Nat) : cell B (first + k % B) = cell B (first + k) := by
  apply Fin.ext
  show (first + k % B) % B = (first + k) % B
  rw [Nat.add_mod_mod]

/-! ## Bits -/

theorem test_mark_self (hw : 0 < w) (ring : BitRing B w) (n : Nat) : (ring.mark n).test n := by
  have hlt : n % w < w := Nat.mod_lt _ hw
  simp [test, mark, hlt]

private theorem test_mark_of_ne (ring : BitRing B w) {n m : Nat}
    (hblock : cell B (n / w) = cell B (m / w) →
    n / w = m / w) (hne : n ≠ m) : (ring.mark m).test n = ring.test n := by
  unfold test mark
  by_cases hcell : cell B (n / w) = cell B (m / w)
  · have hbit : n % w ≠ m % w := by
      intro hbit
      have hn := Nat.div_add_mod n w
      have hm := Nat.div_add_mod m w
      rw [hblock hcell, hbit, hm] at hn
      exact hne hn.symm
    rw [hcell, Function.update_self, BitVec.getLsbD_or, BitVec.getLsbD_shiftLeft,
      BitVec.getLsbD_one]
    have hfalse : (decide (n % w < w) && !decide (n % w < m % w) &&
        (decide (0 < w) && decide (n % w - m % w = 0))) = false := by
      simp only [Bool.and_eq_false_imp, Bool.and_eq_true, decide_eq_true_eq, Bool.not_eq_true',
        decide_eq_false_iff_not]
      omega
    rw [hfalse, Bool.or_false]
  · rw [Function.update_of_ne hcell]

/-- Setting a bit changes its block exactly when the bit was clear. -/
theorem or_bit_ne_iff {x : BitVec w} {i : Nat} (hi : i < w) :
    x ≠ x ||| (1#w) <<< i ↔ x.getLsbD i = false := by
  constructor
  · intro hne
    by_contra hset
    apply hne
    rw [Bool.not_eq_false] at hset
    apply BitVec.eq_of_getLsbD_eq
    intro j hj
    rw [BitVec.getLsbD_or, BitVec.getLsbD_shiftLeft, BitVec.getLsbD_one]
    by_cases hij : j = i
    · rw [hij, hset, Bool.true_or]
    · have hfalse : (decide (j < w) && !decide (j < i) &&
          (decide (0 < w) && decide (j - i = 0))) = false := by
        simp only [Bool.and_eq_false_imp, Bool.and_eq_true, decide_eq_true_eq, Bool.not_eq_true',
          decide_eq_false_iff_not]
        omega
      rw [hfalse, Bool.or_false]
  · intro hclear heq
    have hbit := congrArg (BitVec.getLsbD · i) heq
    rw [BitVec.getLsbD_eq_getElem hi] at hclear
    simp [hclear, hi] at hbit

/-- After clearing, a bit is clear when its block was among those cleared, and as before when
not. -/
theorem test_clear (ring : BitRing B w) (first count n : Nat) : (ring.clear first count).test n =
      if ∃ k < count, cell B (n / w) = cell B (first + k) then false else ring.test n := by
  induction count with
  | zero => simp [clear]
  | succ count ih =>
    have hsucc : ring.clear first (count + 1) =
        Function.update (ring.clear first count) (cell B (first + count)) 0#w := by
      simp only [clear, List.range_succ, List.foldl_append, List.foldl_cons, List.foldl_nil]
    rw [hsucc]
    by_cases hlast : cell B (n / w) = cell B (first + count)
    · rw [if_pos ⟨count, Nat.lt_succ_self count, hlast⟩]
      simp only [test, hlast, Function.update_self, BitVec.getLsbD_zero]
    · have hiff : (∃ k < count + 1, cell B (n / w) = cell B (first + k)) ↔
          ∃ k < count, cell B (n / w) = cell B (first + k) := by
        constructor
        · rintro ⟨k, hk, hcell⟩
          have hne : k ≠ count := fun heq => hlast (heq ▸ hcell)
          exact ⟨k, by omega, hcell⟩
        · rintro ⟨k, hk, hcell⟩
          exact ⟨k, by omega, hcell⟩
      simp only [hiff]
      rw [← ih]
      simp only [test, Function.update_of_ne hlast]

/-! ## The invariant -/

/-- An empty ring records the empty set. -/
theorem records_empty (top : Nat) : Records (fun _ => 0#w : BitRing B w) top ∅ where
  le_top _ h := h.elim
  test_iff n _ := by simp [test]

/-- Moving the largest number up clears the blocks between the old one and the new one, at most
once around. -/
theorem Records.advance {ring : BitRing B w} {top top' : Nat} {seen : Set Nat}
    (h : Records ring top seen) (hlt : top < top') :
    Records (ring.clear (top / w + 1) (min (top' / w - top / w) B)) top' seen where
  le_top n hn := (h.le_top n hn).trans hlt.le
  test_iff n hcover := by
    have hmono : top / w ≤ top' / w := Nat.div_le_div_right hlt.le
    obtain ⟨hle, hnear⟩ := hcover
    rw [test_clear]
    by_cases hold : n / w ≤ top / w
    · -- a block covered before: it is not among the cleared ones, which are all within `B` of it
      rw [if_neg, h.test_iff n ⟨hold, by omega⟩]
      rintro ⟨k, hk, hcell⟩
      have heq := cell_inj (by omega) (by omega) hcell
      omega
    · -- a block above the old largest number: cleared, and nothing recorded is that large
      rw [if_pos]
      · simp only [Bool.false_eq_true, false_iff]
        intro hn
        exact hold (Nat.div_le_div_right (h.le_top n hn))
      · refine ⟨(n / w - (top / w + 1)) % B, ?_, ?_⟩
        · have hB : (n / w - (top / w + 1)) % B < B := Nat.mod_lt _ (Nat.pos_of_neZero B)
          have hself := Nat.mod_le (n / w - (top / w + 1)) B
          omega
        · rw [cell_add_mod]
          congr 1
          omega

/-- Setting a covered bit adds its number. -/
theorem Records.mark {ring : BitRing B w} {top n : Nat} {seen : Set Nat} (hw : 0 < w)
    (h : Records ring top seen) (hle : n ≤ top) (hcover : Covers B w top n) :
    Records (ring.mark n) top (insert n seen) where
  le_top m hm := by
    rcases hm with rfl | hm
    · exact hle
    · exact h.le_top m hm
  test_iff m hm := by
    by_cases hmn : m = n
    · subst hmn
      simp [test_mark_self hw]
    · rw [test_mark_of_ne ring _ hmn, h.test_iff m hm]
      · simp [hmn]
      · intro hcell
        obtain ⟨hm₁, hm₂⟩ := hm
        obtain ⟨hn₁, hn₂⟩ := hcover
        rcases Nat.le_total (m / w) (n / w) with hord | hord
        · exact cell_inj hord (by omega) hcell
        · exact (cell_inj hord (by omega) hcell.symm).symm

/-- A number within `(B - 1) * w` of the largest one is covered. -/
theorem covers_of_sub_le (hw : 0 < w) {top n : Nat} (hle : n ≤ top)
    (hnear : top - n ≤ (B - 1) * w) :
    Covers B w top n := by
  have hB : 0 < B := Nat.pos_of_neZero B
  refine ⟨Nat.div_le_div_right hle, ?_⟩
  have htop : top ≤ n + (B - 1) * w := by omega
  have hdiv : top / w ≤ n / w + (B - 1) := by
    rw [← Nat.add_mul_div_right n (B - 1) hw]
    exact Nat.div_le_div_right htop
  omega

end BitRing
