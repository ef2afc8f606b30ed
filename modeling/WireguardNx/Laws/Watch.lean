import WireguardNx.Laws.Activations

/-!
# Runs with a history

Many properties of a run are about what the peer asked for and was told earlier.  A watched run is a
peer with a history that records every event and what it led to; nothing the peer does depends on
it.

The events of such runs are those of the peer machine, with a condition that may look at the
history.
-/

namespace WireguardNx.Runtime

open Wireguard List

/-- A peer with a history of its run. -/
structure Watched (γ : Type) where
  peer : PeerRuntime
  seen : γ

section Runs

variable {γ : Type}

/-- The run after an event, which `record` adds to the history. -/
def Watched.apply (c : Crypto) (record : Watched γ → PeerEvent → PeerRuntime × EffectBatch → γ)
    (run : Watched γ) (step : Platform × PeerEvent) : Option (Watched γ) :=
  (run.peer.handle c step.1 step.2).map fun handled => ⟨handled.1, record run step.2 handled⟩

/-- A configured peer that handles events, as far as `allowed` lets it. -/
def watchedWhere (c : Crypto) (first : γ)
    (record : Watched γ → PeerEvent → PeerRuntime × EffectBatch → γ)
    (allowed : Watched γ → PeerEvent → Prop) : Machine (Watched γ) :=
  .ofActions (fun run => run.peer.Configured ∧ run.seen = first)
    (fun run step => step.2.Admissible run.peer ∧ allowed run step.2) (Watched.apply c record)

variable {c : Crypto} {first : γ} {record : Watched γ → PeerEvent → PeerRuntime × EffectBatch → γ}
  {allowed : Watched γ → PeerEvent → Prop} {run : Watched γ}

/-- Every reachable peer is sound. -/
theorem watchedWhere_sound (h : (watchedWhere c first record allowed).Reachable run) :
    run.peer.Sound c := by
  refine h.invariant (P := fun run => run.peer.Sound c) ?_ ?_
  · rintro run ⟨⟨peerIndex, config, derived, now, hconf⟩, -⟩
    exact configure_sound hconf
  · rintro run next - hs ⟨⟨p, event⟩, ⟨hevent, -⟩, hstep⟩
    obtain ⟨⟨after, batch⟩, hhandle, rfl⟩ := Option.map_eq_some_iff.mp hstep
    exact handle_sound hhandle hevent hs

theorem watchedWhere_activated (h : (watchedWhere c first record allowed).Reachable run) :
    run.peer.Activated := by
  refine h.invariant (P := fun run => run.peer.Activated) ?_ ?_
  · rintro run ⟨⟨peerIndex, config, derived, now, hconf⟩, -⟩
    exact configure_activated hconf
  · rintro run next - hs ⟨⟨p, event⟩, -, hstep⟩
    obtain ⟨⟨after, batch⟩, hhandle, rfl⟩ := Option.map_eq_some_iff.mp hstep
    exact handle_activated hhandle hs

/-- What holds of a configured peer, and is kept by every event of a sound peer, holds in every
watched run. -/
theorem watchedWhere_invariant {P : Watched γ → Prop}
    (hstart : ∀ s : PeerRuntime, s.Configured → P ⟨s, first⟩)
    (hstep : ∀ (run : Watched γ) (p : Platform) (event : PeerEvent) (after : PeerRuntime)
      (batch : EffectBatch), run.peer.Sound c → run.peer.Activated → event.Admissible run.peer →
      allowed run event → P run → run.peer.handle c p event = some (after, batch) →
      P ⟨after, record run event (after, batch)⟩)
    (h : (watchedWhere c first record allowed).Reachable run) : P run := by
  refine h.invariant ?_ ?_
  · rintro ⟨s, seen⟩ ⟨hconfigured, hseen⟩
    cases hseen
    exact hstart s hconfigured
  · rintro run next hreach hrun ⟨⟨p, event⟩, ⟨hevent, hallowed⟩, happly⟩
    obtain ⟨⟨after, batch⟩, hhandle, rfl⟩ := Option.map_eq_some_iff.mp happly
    exact hstep run p event after batch (watchedWhere_sound hreach)
      (watchedWhere_activated hreach) hevent hallowed hrun hhandle

def sampleWatched (first : γ) (record : Watched γ → PeerEvent → PeerRuntime × EffectBatch → γ)
    (allowed : Watched γ → PeerEvent → Prop) [∀ run event, Decidable (allowed run event)]
    (events : List (Platform × PeerEvent)) : Option (Watched γ) :=
  (samplePeer 0).bind fun s => Machine.runActions
    (fun run step => step.2.Admissible run.peer ∧ allowed run step.2)
    (Watched.apply .transparent record) events ⟨s, first⟩

theorem sampleWatched_reachable [∀ run event, Decidable (allowed run event)]
    {events : List (Platform × PeerEvent)}
    (h : sampleWatched first record allowed events = some run) :
    (watchedWhere .transparent first record allowed).Reachable run := by
  obtain ⟨s, hs, hrun⟩ := Option.bind_eq_some_iff.mp h
  exact .of_runActions (.start ⟨samplePeer_configured hs, rfl⟩) hrun

end Runs

/-! ## The effects of an event -/

section Effects

variable {c : Crypto} {p : Platform} {s : PeerRuntime}

private theorem finalizeTimerEffect_filter (f : RuntimeEffect → Bool)
    (hf : ∀ effect : RuntimeEffect, effect.isTimer → f effect = false) (s : PeerRuntime)
    (effect : RuntimeEffect) : [(s.finalizeTimerEffect effect).1].filter f = [effect].filter f := by
  cases effect with
  | armProtocolTimer identity hook token deadline =>
    have harm (token : TimerToken) : f (.armProtocolTimer identity hook token deadline) = false :=
      hf _ rfl
    unfold PeerRuntime.finalizeTimerEffect
    simp only
    split
    · rfl
    · rw [filter_cons, filter_cons, harm, harm]
      rfl
  | cancelProtocolTimer identity hook token =>
    have hcancel (token : TimerToken) : f (.cancelProtocolTimer identity hook token) = false :=
      hf _ rfl
    unfold PeerRuntime.finalizeTimerEffect
    simp only
    split
    · rfl
    · rw [filter_cons, filter_cons, hcancel, hcancel]
      rfl
  | _ => rfl

/-- Finishing a batch leaves every effect that is not about a timer, in order. -/
theorem finalizeTimerEffects_filter (f : RuntimeEffect → Bool)
    (hf : ∀ effect : RuntimeEffect, effect.isTimer → f effect = false)
    (effects : List RuntimeEffect) (s : PeerRuntime) :
    (PeerRuntime.finalizeTimerEffects effects s).1.filter f = effects.filter f := by
  induction effects generalizing s with
  | nil => rfl
  | cons effect effects ih =>
    have hunfold : (PeerRuntime.finalizeTimerEffects (effect :: effects) s).1 =
        [(s.finalizeTimerEffect effect).1] ++
          (PeerRuntime.finalizeTimerEffects effects (s.finalizeTimerEffect effect).2).1 := rfl
    rw [hunfold, filter_append, finalizeTimerEffect_filter f hf, ih, ← filter_append,
      singleton_append]

/-- The batch of an event has the handler's effects, but for the tokens of timers. -/
theorem handle_filter {event : PeerEvent} {after : PeerRuntime} {batch : EffectBatch}
    (h : s.handle c p event = some (after, batch)) :
    ∃ st timers intent, s.handleEvent c p event = some st ∧
      after = st.runtime.withTimers timers intent ∧
      batch.effects.length = st.effects.length ∧
      ∀ f : RuntimeEffect → Bool,
        (∀ effect : RuntimeEffect, effect.isTimer → f effect = false) →
        batch.effects.filter f = st.effects.filter f := by
  obtain ⟨st, hst, -, hfinal⟩ := handle_finalized h
  obtain ⟨timers, intent, htimers⟩ := (finalizeTimerEffects_spec st.effects st.runtime).1
  have hlen := PeerRuntime.finalizeTimerEffects_length st.effects st.runtime
  have hfilter (f : RuntimeEffect → Bool)
      (hf : ∀ effect : RuntimeEffect, effect.isTimer → f effect = false) :=
    finalizeTimerEffects_filter f hf st.effects st.runtime
  rw [hfinal] at htimers hlen hfilter
  exact ⟨st, timers, intent, hst, htimers, hlen, hfilter⟩

end Effects

end WireguardNx.Runtime
