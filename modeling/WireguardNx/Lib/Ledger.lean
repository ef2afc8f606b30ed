import Mathlib.Data.Set.Insert
import Mathlib.Logic.Function.Basic

/-!
# Holders that never use a number twice

Some slots hold live holders.  Each holder carries a name that no other holder ever has, and knows
enough about the values it has used to choose one it has not.  The ledger is the log of all uses,
each under the name of its holder.

`Ledger` is the invariant.  A step of a system either carries its holders over to possibly
different slots (`carry`), puts a newly named one into a slot (`admitNew`), or lets one use a
value (`use`); under each of them the log stays free of repetitions.
-/

variable {ι K α : Type*} {live live' : ι → K → Prop} {name : K → ℕ} {knows : K → Set α → Prop}
  {next : ℕ} {log : List (ℕ × α)}

/-- The values logged under a name. -/
def loggedBy (log : List (ℕ × α)) (n : ℕ) : Set α := { a | (n, a) ∈ log }

/-- The log of the live holders' uses is consistent: names below `next` have been given out, no
two slots hold the same name, and each holder knows the values logged under its name. -/
structure Ledger (live : ι → K → Prop) (name : K → ℕ) (knows : K → Set α → Prop) (next : ℕ)
    (log : List (ℕ × α)) : Prop where
  name_lt : ∀ i k, live i k → name k < next
  knows_logged : ∀ i k, live i k → knows k (loggedBy log (name k))
  apart : ∀ i j k l, live i k → live j l → name k = name l → i = j
  logged_lt : ∀ entry ∈ log, entry.1 < next
  nodup : log.Nodup

namespace Ledger

theorem empty (h : ∀ i k, ¬ live i k) : Ledger live name knows next ([] : List (ℕ × α)) where
  name_lt i k hk := (h i k hk).elim
  knows_logged i k hk := (h i k hk).elim
  apart i _ k _ hk _ _ := (h i k hk).elim
  logged_lt _ h := by simp at h
  nodup := List.nodup_nil

/-- Holders move between slots, each keeping its name and what it knows. -/
theorem carry (h : Ledger live name knows next log) (source : ι → ι)
    (hinj : Function.Injective source)
    (hlive : ∀ i k, live' i k → ∃ k₀, live (source i) k₀ ∧ name k = name k₀ ∧
      ∀ s, knows k₀ s → knows k s) : Ledger live' name knows next log where
  name_lt i k hk := by
    obtain ⟨k₀, hk₀, hname, -⟩ := hlive i k hk
    rw [hname]
    exact h.name_lt _ _ hk₀
  knows_logged i k hk := by
    obtain ⟨k₀, hk₀, hname, hknows⟩ := hlive i k hk
    rw [hname]
    exact hknows _ (h.knows_logged _ _ hk₀)
  apart i j k l hk hl heq := by
    obtain ⟨k₀, hk₀, hnamek, -⟩ := hlive i k hk
    obtain ⟨l₀, hl₀, hnamel, -⟩ := hlive j l hl
    rw [hnamek, hnamel] at heq
    exact hinj (h.apart _ _ _ _ hk₀ hl₀ heq)
  logged_lt := h.logged_lt
  nodup := h.nodup

/-- A name may be given up unused. -/
theorem later (h : Ledger live name knows next log) : Ledger live name knows (next + 1) log where
  name_lt i k hk := (h.name_lt i k hk).trans (Nat.lt_succ_self _)
  knows_logged := h.knows_logged
  apart := h.apart
  logged_lt entry he := (h.logged_lt entry he).trans (Nat.lt_succ_self _)
  nodup := h.nodup

/-- A holder with the next name, which has used nothing, enters slot `j`; the others move. -/
theorem admitNew (h : Ledger live name knows next log) {j : ι} {new : K} (source : ι → ι)
    (hinj : Function.Injective source) (hname : name new = next) (hnew : knows new ∅)
    (hlive : ∀ i k, live' i k → (i = j ∧ k = new) ∨ live (source i) k) :
    Ledger live' name knows (next + 1) log where
  name_lt i k hk := by
    rcases hlive i k hk with ⟨-, rfl⟩ | hk
    · omega
    · exact (h.name_lt _ _ hk).trans (Nat.lt_succ_self _)
  knows_logged i k hk := by
    rcases hlive i k hk with ⟨-, rfl⟩ | hk
    · have hempty : loggedBy log (name k) = ∅ := by
        apply Set.eq_empty_of_forall_notMem
        intro a ha
        have hlt := h.logged_lt _ ha
        rw [hname] at hlt
        exact absurd hlt (Nat.lt_irrefl _)
      rw [hempty]
      exact hnew
    · exact h.knows_logged _ _ hk
  apart i i' k l hk hl heq := by
    rcases hlive i k hk with ⟨hi, rfl⟩ | hk
    · rcases hlive i' l hl with ⟨hi', rfl⟩ | hl
      · rw [hi, hi']
      · have hlt := h.name_lt _ _ hl
        omega
    · rcases hlive i' l hl with ⟨-, rfl⟩ | hl
      · have hlt := h.name_lt _ _ hk
        omega
      · exact hinj (h.apart _ _ _ _ hk hl heq)
  logged_lt entry he := (h.logged_lt _ he).trans (Nat.lt_succ_self _)
  nodup := h.nodup

/-- The holder in slot `j` uses a value it had not used, and knows it afterwards. -/
theorem use (h : Ledger live name knows next log) {j : ι} {old : K} (used : K) {a : α}
    (hold : live j old) (hname : name used = name old) (hfresh : (name old, a) ∉ log)
    (hknows : knows used (insert a (loggedBy log (name old))))
    (hlive : ∀ i k, live' i k → (i = j ∧ k = used) ∨ (i ≠ j ∧ live i k)) :
    Ledger live' name knows next ((name old, a) :: log) where
  name_lt i k hk := by
    rcases hlive i k hk with ⟨-, rfl⟩ | ⟨-, hk⟩
    · rw [hname]
      exact h.name_lt _ _ hold
    · exact h.name_lt _ _ hk
  knows_logged i k hk := by
    have hlogged (n : ℕ) : loggedBy ((name old, a) :: log) n =
        if n = name old then insert a (loggedBy log n) else loggedBy log n := by
      ext b
      by_cases hn : n = name old <;> simp [loggedBy, hn]
    rw [hlogged]
    rcases hlive i k hk with ⟨-, rfl⟩ | ⟨hne, hk⟩
    · rw [if_pos hname, hname]
      exact hknows
    · rw [if_neg fun heq => hne (h.apart _ _ _ _ hk hold heq)]
      exact h.knows_logged _ _ hk
  apart i i' k l hk hl heq := by
    rcases hlive i k hk with ⟨hi, rfl⟩ | ⟨hne, hk⟩
    · rcases hlive i' l hl with ⟨hi', rfl⟩ | ⟨hne', hl⟩
      · rw [hi, hi']
      · exact absurd (h.apart _ _ _ _ hl hold (by rw [← heq, hname])) hne'
    · rcases hlive i' l hl with ⟨hi', rfl⟩ | ⟨hne', hl⟩
      · exact absurd (h.apart _ _ _ _ hk hold (by rw [heq, hname])) hne
      · exact h.apart _ _ _ _ hk hl heq
  logged_lt entry he := by
    rcases List.mem_cons.mp he with rfl | he
    · exact h.name_lt _ _ hold
    · exact h.logged_lt _ he
  nodup := List.nodup_cons.mpr ⟨hfresh, h.nodup⟩

end Ledger
