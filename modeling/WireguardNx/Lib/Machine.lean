import Mathlib.Logic.Relation

/-!
# Transition systems and their invariants

A machine is a predicate for its initial states and a one-step relation.  An invariant is proved
once for each of the two, and then holds in every reachable state.  A partial function of states and
actions gives a machine for every condition on its actions, so a statement about the runs all of
whose steps meet the condition is an invariant of that machine; and such a run can be computed.
A function that answers each request and moves on answers a sequence of requests like another one
as soon as a relation between their states makes single answers agree and is kept.
-/

/-- A transition system over states `σ`. -/
structure Machine (σ : Type*) where
  /-- The states a run starts in. -/
  start : σ → Prop
  /-- The steps of a run. -/
  step : σ → σ → Prop

namespace Machine

variable {σ : Type*} {M : Machine σ}

/-- The states some run of the machine reaches. -/
inductive Reachable (M : Machine σ) : σ → Prop
  | start {s : σ} (h : M.start s) : Reachable M s
  | step {s t : σ} (hs : Reachable M s) (h : M.step s t) : Reachable M t

/-- What holds at the start and is kept by every step from a reachable state holds in every
reachable state. -/
theorem Reachable.invariant {P : σ → Prop} (hstart : ∀ s, M.start s → P s)
    (hstep : ∀ s t, M.Reachable s → P s → M.step s t → P t) {s : σ} (hs : M.Reachable s) : P s := by
  induction hs with
  | start h => exact hstart _ h
  | step hr h ih => exact hstep _ _ hr ih h

section Actions

variable {α : Type*}

/-- The machine whose steps are the allowed actions that have a result. -/
def ofActions (start : σ → Prop) (allowed : σ → α → Prop) (apply : σ → α → Option σ) :
    Machine σ where
  start := start
  step s t := ∃ action, allowed s action ∧ apply s action = some t

/-- The state after some actions; `none` when one was not allowed or has no result. -/
def runActions (allowed : σ → α → Prop) [∀ s action, Decidable (allowed s action)]
    (apply : σ → α → Option σ) : List α → σ → Option σ
  | [], s => some s
  | action :: actions, s =>
    if allowed s action then (apply s action).bind (runActions allowed apply actions) else none

variable {start : σ → Prop} {allowed : σ → α → Prop} [∀ s action, Decidable (allowed s action)]
  {apply : σ → α → Option σ}

theorem Reachable.of_runActions {actions : List α} {s t : σ}
    (hs : (ofActions start allowed apply).Reachable s)
    (h : runActions allowed apply actions s = some t) :
    (ofActions start allowed apply).Reachable t := by
  induction actions generalizing s with
  | nil => cases h; exact hs
  | cons action actions ih =>
    unfold runActions at h
    split at h
    · rename_i hallowed
      obtain ⟨next, hnext, hrest⟩ := Option.bind_eq_some_iff.mp h
      exact ih (hs.step ⟨action, hallowed, hnext⟩) hrest
    · cases h

end Actions

section Answers

variable {τ α β : Type*}

/-- The answers to a sequence of requests. -/
def answers (respond : σ → α → β × σ) : σ → List α → List β
  | _, [] => []
  | s, request :: requests =>
    (respond s request).1 :: answers respond (respond s request).2 requests

/-- Two responders whose related states answer alike and stay related answer every sequence of
requests alike. -/
theorem answers_eq_of_simulation {respond : σ → α → β × σ} {reference : τ → α → β × τ}
    {R : σ → τ → Prop} (hanswer : ∀ s t request, R s t →
      (respond s request).1 = (reference t request).1)
    (hnext : ∀ s t request, R s t → R (respond s request).2 (reference t request).2)
    {s : σ} {t : τ} (h : R s t) (requests : List α) :
    answers respond s requests = answers reference t requests := by
  induction requests generalizing s t with
  | nil => rfl
  | cons request requests ih =>
    simp only [answers]
    rw [hanswer s t request h, ih (hnext s t request h)]

end Answers

end Machine
