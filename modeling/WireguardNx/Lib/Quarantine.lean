import WireguardNx.Lib.Slots

/-!
# Keys that rest before they are used again

Holders take keys from a common space.  A key that is given up is put into a bounded table of graves
and rests there until its time has lapsed.  A holder takes a key only when no other holder has it, no
grave keeps it, and there are more free graves than holders.

The last condition is what makes the table large enough: whoever holds a key finds a free grave for
it (`Orderly.exists_free`).  So no two holders share a key, and a key that was given up is held again
only by a holder that took it after the rest (`Rests`).
-/

/-- Holders with the time since when they hold their key, and graves with the time until when they
keep theirs. -/
structure Quarantine (κ τ : Type*) (n m : ℕ) where
  holders : Fin n → Option (κ × τ)
  graves : Fin m → Option (κ × τ)

namespace Quarantine

open Function

variable {κ τ : Type*} {n m : ℕ}

def held (q : Quarantine κ τ n m) : ℕ := slotCount Option.isSome q.holders

def free (q : Quarantine κ τ n m) : ℕ := slotCount Option.isNone q.graves

/-- A holder that goes frees its place. -/
theorem held_update_none (q : Quarantine κ τ n m) (i : Fin n) :
    slotCount Option.isSome (update q.holders i none) + (q.holders i).isSome.toNat = q.held :=
  slotCount_update Option.isSome q.holders i none

section Definitions

variable [LinearOrder τ]

/-- A quarantine without the graves whose time has lapsed. -/
def expired (q : Quarantine κ τ n m) (now : τ) : Quarantine κ τ n m :=
  { q with
    graves := fun k => (q.graves k).filter fun grave => decide (now < grave.2) }

/-- One step at a time; a key given up rests until its time has lapsed. -/
inductive Step (lapse : τ → τ) (now : τ) : Quarantine κ τ n m → Quarantine κ τ n m → Prop
  | acquire (q : Quarantine κ τ n m) (i : Fin n) (key : κ) (hnone : q.holders i = none)
      (hroom : q.held < q.free) (hunheld : ∀ i' since, q.holders i' ≠ some (key, since))
      (hrested : ∀ k until_, q.graves k = some (key, until_) → until_ ≤ now) :
      Step lapse now q { q with holders := update q.holders i (some (key, now)) }
  /-- A key that was never used is given back at once. -/
  | release (q : Quarantine κ τ n m) (i : Fin n) :
      Step lapse now q { q with holders := update q.holders i none }
  | retire (q : Quarantine κ τ n m) (i : Fin n) (k : Fin m) (key : κ) (since : τ)
      (hheld : q.holders i = some (key, since)) (hfree : (q.expired now).graves k = none) :
      Step lapse now q ⟨update q.holders i none,
        update (q.expired now).graves k (some (key, lapse now))⟩
  | expire (q : Quarantine κ τ n m) : Step lapse now q (q.expired now)

/-- No key is held twice, and every holder has a free grave to itself. -/
structure Orderly (q : Quarantine κ τ n m) : Prop where
  distinct : ∀ i i' key since since', q.holders i = some (key, since) →
    q.holders i' = some (key, since') → i = i'
  room : q.held ≤ q.free

/-- A key given up at a time still rests in a grave or has rested, and who holds it took it later. -/
structure Rests (lapse : τ → τ) (now : τ) (key : κ) (t : τ) (q : Quarantine κ τ n m) : Prop where
  grave : lapse t ≤ now ∨ ∃ k, q.graves k = some (key, lapse t)
  later : ∀ i since, q.holders i = some (key, since) → lapse t ≤ since

end Definitions

section Tables

variable {ι α : Type*} [DecidableEq ι] {table : ι → Option α} {i i' : ι} {a b : α}

theorem update_some_eq_some (h : update table i (some a) i' = some b) :
    i' = i ∧ b = a ∨ table i' = some b := by
  by_cases hi : i' = i
  · subst hi
    rw [update_self] at h
    exact .inl ⟨rfl, (Option.some.inj h).symm⟩
  · rw [update_of_ne hi] at h
    exact .inr h

theorem update_none_eq_some (h : update table i none i' = some b) : i' ≠ i ∧ table i' = some b := by
  have hi : i' ≠ i := by
    rintro rfl
    rw [update_self] at h
    cases h
  rw [update_of_ne hi] at h
  exact ⟨hi, h⟩

end Tables

section Steps

variable [LinearOrder τ] {lapse : τ → τ} {now : τ} {q r : Quarantine κ τ n m}

private theorem expired_graves_eq_some {k : Fin m} {grave : κ × τ} :
    (q.expired now).graves k = some grave ↔ q.graves k = some grave ∧ now < grave.2 := by
  simp [expired, Option.filter_eq_some_iff]

theorem free_le_expired (q : Quarantine κ τ n m) (now : τ) : q.free ≤ (q.expired now).free := by
  refine slotCount_mono fun k hk => ?_
  rw [Option.isNone_iff_eq_none] at hk ⊢
  simp [expired, hk]

/-- Whoever holds a key finds a free grave for it. -/
theorem Orderly.exists_free (h : q.Orderly) (now : τ) {i : Fin n} {holder : κ × τ}
    (hheld : q.holders i = some holder) : ∃ k, (q.expired now).graves k = none := by
  have hpos : 0 < q.held := slotCount_pos.mpr ⟨i, by rw [hheld]; rfl⟩
  obtain ⟨k, hk⟩ := slotCount_pos.mp ((hpos.trans_le h.room).trans_le (free_le_expired q now))
  exact ⟨k, Option.isNone_iff_eq_none.mp hk⟩

theorem Orderly.step (hq : q.Orderly) (h : Step lapse now q r) : r.Orderly := by
  have hgone (i : Fin n) : ∀ i₁ i₂ key since since',
      update q.holders i none i₁ = some (key, since) →
      update q.holders i none i₂ = some (key, since') → i₁ = i₂ := by
    intro i₁ i₂ key since since' h₁ h₂
    exact hq.distinct i₁ i₂ key since since' (update_none_eq_some h₁).2 (update_none_eq_some h₂).2
  cases h with
  | acquire i key hnone hroom hunheld hrested =>
    constructor
    · intro i₁ i₂ key' since since' h₁ h₂
      rcases update_some_eq_some h₁ with ⟨rfl, hnew₁⟩ | hold₁ <;>
        rcases update_some_eq_some h₂ with ⟨rfl, hnew₂⟩ | hold₂
      · rfl
      · cases hnew₁
        exact (hunheld i₂ since' hold₂).elim
      · cases hnew₂
        exact (hunheld i₁ since hold₁).elim
      · exact hq.distinct i₁ i₂ key' since since' hold₁ hold₂
    · have hcount := slotCount_update Option.isSome q.holders i (some (key, now))
      rw [hnone] at hcount
      have hheld : slotCount Option.isSome (update q.holders i (some (key, now))) =
          q.held + 1 := hcount
      exact hheld.trans_le hroom
  | release i =>
    refine ⟨hgone i, ?_⟩
    have hcount := held_update_none q i
    have hroom := hq.room
    show slotCount Option.isSome (update q.holders i none) ≤ q.free
    omega
  | retire i k key since hheld hfree =>
    refine ⟨hgone i, ?_⟩
    have hcount := held_update_none q i
    rw [hheld] at hcount
    have hgraves := slotCount_update Option.isNone (q.expired now).graves k (some (key, lapse now))
    rw [hfree] at hgraves
    have hroom := hq.room.trans (free_le_expired q now)
    have hone : slotCount Option.isSome (update q.holders i none) + 1 = q.held := hcount
    have hless : slotCount Option.isNone
        (update (q.expired now).graves k (some (key, lapse now))) + 1 =
        (q.expired now).free := hgraves
    show slotCount Option.isSome (update q.holders i none) ≤ slotCount Option.isNone
      (update (q.expired now).graves k (some (key, lapse now)))
    omega
  | expire => exact ⟨hq.distinct, hq.room.trans (free_le_expired q now)⟩

/-- A key that rests goes on resting until its time has lapsed. -/
theorem Rests.step {key : κ} {t : τ} (hq : q.Rests lapse now key t) (h : Step lapse now q r) :
    r.Rests lapse now key t := by
  have hkept : lapse t ≤ now ∨ ∃ k, (q.expired now).graves k = some (key, lapse t) := by
    rcases hq.grave with hlapsed | ⟨k, hk⟩
    · exact .inl hlapsed
    · rcases le_or_gt (lapse t) now with hlapsed | hlater
      · exact .inl hlapsed
      · exact .inr ⟨k, expired_graves_eq_some.mpr ⟨hk, hlater⟩⟩
  have hgone (i i' : Fin n) (since : τ)
      (h : update q.holders i none i' = some (key, since)) : lapse t ≤ since := by
    exact hq.later i' since (update_none_eq_some h).2
  cases h with
  | acquire i key' hnone hroom hunheld hrested =>
    refine ⟨hq.grave, fun i' since h => ?_⟩
    rcases update_some_eq_some h with ⟨rfl, hnew⟩ | hold
    · cases hnew
      rcases hq.grave with hlapsed | ⟨k, hk⟩
      · exact hlapsed
      · exact hrested k _ hk
    · exact hq.later i' since hold
  | release i => exact ⟨hq.grave, hgone i⟩
  | retire i k key' since hheld hfree =>
    refine ⟨hkept.imp id fun ⟨k', hk'⟩ => ⟨k', ?_⟩, hgone i⟩
    have hne : k' ≠ k := by
      rintro rfl
      rw [hfree] at hk'
      cases hk'
    exact (update_of_ne hne ..).trans hk'
  | expire => exact ⟨hkept, hq.later⟩

/-- A key that is given up begins to rest. -/
theorem Orderly.rests_retire (hq : q.Orderly) {i : Fin n} {k : Fin m} {key : κ} {since : τ}
    (hheld : q.holders i = some (key, since)) : Rests lapse now key now (⟨update q.holders i none,
      update (q.expired now).graves k (some (key, lapse now))⟩ : Quarantine κ τ n m) := by
  refine ⟨.inr ⟨k, update_self ..⟩, fun i' since' h => ?_⟩
  obtain ⟨hne, h⟩ := update_none_eq_some h
  exact (hne (hq.distinct i' i key since' since h hheld)).elim

/-- Whoever holds a key has done so since a time that is past. -/
theorem Step.since_le (h : Step lapse now q r)
    (hq : ∀ i key since, q.holders i = some (key, since) → since ≤ now) :
    ∀ i key since, r.holders i = some (key, since) → since ≤ now := by
  intro i' key' since' hheld
  cases h with
  | acquire i key =>
    rcases update_some_eq_some hheld with ⟨rfl, hnew⟩ | hold
    · cases hnew
      exact le_rfl
    · exact hq i' key' since' hold
  | release i | retire i => exact hq i' key' since' (update_none_eq_some hheld).2
  | expire => exact hq i' key' since' hheld

/-- Time passes. -/
theorem Rests.mono {key : κ} {t later : τ} (hq : q.Rests lapse now key t) (h : now ≤ later) :
    q.Rests lapse later key t :=
  ⟨hq.grave.imp_left fun hlapsed => hlapsed.trans h, hq.later⟩

end Steps

end Quarantine
