import WireguardNx.Laws.PeerMachine

/-!
# What an activation keeps

Traffic leaves the activation alone or ends in the error state, which releases the socket and
forgets the socket that was asked for.  From this and the turns of an activation follow the facts
about generations, the path request and the endpoint that hold between two events.

The events are arbitrary and no primitive is assumed to succeed.  That an activation comes to its
end, or its requests to an answer, is not stated.
-/

namespace WireguardNx.Runtime

open Wireguard PeerRuntime HandlerState RuntimeEffect List

variable {st mid after : HandlerState} {c : Crypto} {p : Platform}

/-! ## Traffic and the activation -/

/-- Whether an effect is about the path, the endpoint or a socket. -/
def RuntimeEffect.isTransport : RuntimeEffect → Bool
  | .resolveEndpoint _ _ _ | .startNetworkPathRequest _ _ | .stopNetworkPathRequest _ _
  | .openUdpBind _ | .closeUdpSocket _ _ => true
  | _ => false

/-- The transport effects of a handler. -/
def HandlerState.transportEffects (st : HandlerState) : List RuntimeEffect :=
  st.effects.filter RuntimeEffect.isTransport

/-- The activation with its socket released, as the error state leaves it. -/
def Setup.released (setup : Setup) : Setup :=
  { setup with
    pendingSocketGeneration := 0
    socket := invalidSocket
    socketGeneration := if setup.socket = invalidSocket then setup.socketGeneration else 0 }

/-- A handler left the activation alone. -/
structure HandlerState.Kept (st after : HandlerState) : Prop where
  setup : after.runtime.setup = st.runtime.setup
  state : after.runtime.lifecycle.state = st.runtime.lifecycle.state ∨
    (st.runtime.lifecycle.state = .handshaking ∧ after.runtime.lifecycle.state = .active)
  endpoint : st.runtime.binding.hasEndpoint = true → after.runtime.binding.hasEndpoint = true
  effects : after.transportEffects = st.transportEffects

/-- A handler ended in the error state. -/
structure HandlerState.Failed (st after : HandlerState) : Prop where
  setup : after.runtime.setup = st.runtime.setup.released
  state : after.runtime.lifecycle.state = .error
  effects : after.transportEffects = st.transportEffects ++ st.runtime.closing

namespace HandlerState

theorem Kept.refl (st : HandlerState) : st.Kept st := ⟨rfl, .inl rfl, id, rfl⟩

theorem Kept.trans (h₁ : st.Kept mid) (h₂ : mid.Kept after) : st.Kept after := by
  refine ⟨h₂.setup.trans h₁.setup, ?_, h₂.endpoint ∘ h₁.endpoint, h₂.effects.trans h₁.effects⟩
  obtain hfirst | ⟨hfirst, hactive⟩ := h₁.state
  · rw [← hfirst]
    exact h₂.state
  · obtain hsecond | ⟨hsecond, -⟩ := h₂.state
    · exact .inr ⟨hfirst, hsecond.trans hactive⟩
    · rw [hactive] at hsecond; cases hsecond

private theorem closing_of_setup {s t : PeerRuntime} (h : t.setup = s.setup) :
    t.closing = s.closing := by
  have hsocket : t.binding.socket = s.binding.socket := congrArg Setup.socket h
  have hpath : t.pathRequestGeneration = s.pathRequestGeneration :=
    congrArg Setup.pathRequestGeneration h
  unfold closing
  rw [hsocket, hpath]

theorem Kept.failed (h₁ : st.Kept mid) (h₂ : mid.Failed after) : st.Failed after :=
  ⟨by rw [h₂.setup, h₁.setup], h₂.state, by
    rw [h₂.effects, h₁.effects, closing_of_setup h₁.setup]⟩

theorem Failed.kept (h₁ : st.Failed mid) (h₂ : mid.Kept after) : st.Failed after := by
  refine ⟨h₂.setup.trans h₁.setup, ?_, h₂.effects.trans h₁.effects⟩
  obtain hsame | ⟨hstate, -⟩ := h₂.state
  · exact hsame.trans h₁.state
  · rw [h₁.state] at hstate; cases hstate

/-- A second failure finds nothing to release. -/
theorem Failed.failed (h₁ : st.Failed mid) (h₂ : mid.Failed after) : st.Failed after := by
  have hsocket : mid.runtime.binding.socket = invalidSocket := congrArg Setup.socket h₁.setup
  refine ⟨?_, h₂.state, ?_⟩
  · rw [h₂.setup, h₁.setup]
    simp [Setup.released]
  · have hclosing : mid.runtime.closing = [] := if_neg (not_not.mpr hsocket)
    rw [h₂.effects, h₁.effects, hclosing, append_nil]

theorem enterActivationError_failed (st : HandlerState) (stage : PeerErrorStage)
    (code : PeerErrorCode) (now : Ktime) : st.Failed (st.enterActivationError stage code now) := by
  rw [enterActivationError_eq]
  refine ⟨?_, rfl, ?_⟩
  · unfold setup Setup.released UdpBinding.isOpen
    by_cases hsocket : st.runtime.binding.socket = invalidSocket
    · simp [hsocket]
    · simp [hsocket, UdpBinding.releaseSocket]
  · have hcancels : (if st.runtime.lifecycle.activationGeneration = 0 then []
        else timerHooks.map fun hook => cancelProtocolTimer
          ⟨st.runtime.peerIndex, st.runtime.lifecycle.activationGeneration⟩ hook .empty).filter
          isTransport = [] := by
      split
      · rfl
      · rfl
    have hclosing : (if st.runtime.binding.isOpen = true then
        [closeUdpSocket st.runtime.pathRequestGeneration st.runtime.binding.socket]
        else []).filter isTransport = st.runtime.closing := by
      unfold closing UdpBinding.isOpen
      by_cases hsocket : st.runtime.binding.socket = invalidSocket
      · simp [hsocket]
      · simp [hsocket, isTransport]
    unfold transportEffects errorEffects
    rw [filter_append, filter_append, hcancels, hclosing, append_nil]

end HandlerState

section Traffic

variable {identity : PeerIdentity} {effect : RuntimeEffect}

theorem transportEffects_append {runtime : PeerRuntime} {effects added : List RuntimeEffect}
    (h : added.filter isTransport = []) : transportEffects ⟨runtime, effects ++ added⟩ =
      effects.filter isTransport := by
  unfold transportEffects
  rw [filter_append, h, append_nil]

theorem kept_add (h : effect.isTransport = false) : st.Kept (st.add effect) := by
  refine ⟨rfl, .inl rfl, id, transportEffects_append ?_⟩
  rw [filter_cons, h]
  rfl

private theorem isTransport_of_isTraffic (h : effect.IsTraffic identity) :
    effect.isTransport = false := by
  cases effect with
  | armProtocolTimer | cancelProtocolTimer | queueInnerPacketSubmission | publishDecryptedPacket
  | sendCookieReply => rfl
  | _ => cases h

theorem isTransport_of_isTimer (h : effect.isTimer) : effect.isTransport = false := by
  cases effect with
  | armProtocolTimer | cancelProtocolTimer => rfl
  | _ => cases h

/-- One step of a handler leaves the activation alone or fails. -/
theorem WorkStep.outcome (h : TrafficStep c p identity st after) :
    st.Kept after ∨ st.Failed after := by
  cases h with
  | emit effect heffect => exact .inl (kept_add (isTransport_of_isTraffic heffect))
  | note s hsetup _ hstate hendpoint => exact .inl ⟨hsetup, hstate, hendpoint, rfl⟩
  | operate device _ | queue | free => exact .inl ⟨rfl, .inl rfl, id, rfl⟩
  | fill bytes packetId kind _ | listen | zero =>
    exact .inl ⟨rfl, .inl rfl, id, transportEffects_append rfl⟩
  | fail stage code now => exact .inr (enterActivationError_failed _ _ _ _)

theorem outcome_trans (h₁ : st.Kept mid ∨ st.Failed mid) (h₂ : mid.Kept after ∨ mid.Failed after) :
    st.Kept after ∨ st.Failed after := by
  obtain h₁ | h₁ := h₁
  · obtain h₂ | h₂ := h₂
    · exact .inl (h₁.trans h₂)
    · exact .inr (h₁.failed h₂)
  · obtain h₂ | h₂ := h₂
    · exact .inr (h₁.kept h₂)
    · exact .inr (h₁.failed h₂)

/-- Traffic leaves the activation alone or ends in the error state. -/
theorem Work.outcome (h : Traffic c p identity st after) : st.Kept after ∨ st.Failed after := by
  induction h with
  | refl st => exact .inl (.refl st)
  | step _ hstep ih => exact outcome_trans ih hstep.outcome
  | @derive st mid last device _ _ _ deadline ih ihRest =>
    have hderived : mid.Kept { mid with runtime := { mid.runtime with device } } :=
      ⟨rfl, .inl rfl, id, rfl⟩
    exact outcome_trans (outcome_trans ih (outcome_trans (.inl hderived) ihRest))
      (.inl (kept_add rfl))

end Traffic

/-! ## The path request and the endpoint -/

/-- What holds of the activation between two events. -/
structure PeerRuntime.Activated (s : PeerRuntime) : Prop where
  nextActivation : s.nextActivationGeneration ≠ 0
  nextPath : s.nextPathRequestGeneration ≠ 0
  nextSocket : s.nextSocketGeneration ≠ 0
  inactive : s.lifecycle.state = .inactive → s.lifecycle.activationGeneration = 0
  path : s.lifecycle.activationGeneration ≠ 0 → s.pathRequestGeneration ≠ 0
  resolving : s.lifecycle.state = .resolvingEndpoint →
    s.lifecycle.activationGeneration ≠ 0 ∧
      (s.pathAvailability = .available → s.endpointResolutionStarted = true)
  transport : s.isInTransportState = true →
    s.lifecycle.activationGeneration ≠ 0 ∧ s.binding.hasEndpoint = true ∧
      (s.pendingSocketGeneration ≠ 0 → s.pendingBindPurpose = .rebind)

theorem followingGeneration_ne_zero (next : UInt32) : followingGeneration next ≠ 0 := by
  unfold followingGeneration
  split
  · decide
  · assumption

variable {s : PeerRuntime}

theorem isCurrentActivation_self (h : s.lifecycle.activationGeneration ≠ 0) :
    s.isCurrentActivation s.lifecycle.activationGeneration := by
  unfold isCurrentActivation isCurrentGeneration
  simp [h]

theorem awaits_current {event : UdpBindOpenedEvent} (h : s.awaits event) :
    s.isCurrentActivation event.peer.activationGeneration := by
  unfold awaits at h
  simp only [Bool.and_eq_true] at h
  exact isCurrentActivation_of_isCurrentPathRequest h.1.1.2

theorem isCurrentActivation_of_zero (h : s.lifecycle.activationGeneration = 0)
    (generation : UInt32) : s.isCurrentActivation generation = false := by
  refine Bool.eq_false_iff.mpr fun hcur => ?_
  have heq := (eq_of_isCurrentActivation hcur).trans h
  rw [heq] at hcur
  unfold isCurrentActivation isCurrentGeneration at hcur
  simp at hcur

theorem isInTransportState_iff (s : PeerRuntime) : s.isInTransportState ↔
    s.lifecycle.state = .handshaking ∨ s.lifecycle.state = .active := by
  unfold isInTransportState
  rw [Bool.or_eq_true, decide_eq_true_eq, decide_eq_true_eq]

section Activated

variable {s t : PeerRuntime}

theorem HandlerState.Kept.transport (h : st.Kept after) :
    after.runtime.isInTransportState = st.runtime.isInTransportState := by
  unfold isInTransportState
  obtain hsame | ⟨hbefore, hafter⟩ := h.state
  · rw [hsame]
  · rw [hbefore, hafter]; rfl

/-- The counters of an activation are part of its setup. -/
theorem PeerRuntime.Activated.of_setup (hs : s.Activated)
    (h : t.setup = s.setup ∨ t.setup = s.setup.released) :
    t.nextActivationGeneration ≠ 0 ∧ t.nextPathRequestGeneration ≠ 0 ∧
      t.nextSocketGeneration ≠ 0 ∧
      (t.lifecycle.activationGeneration ≠ 0 → t.pathRequestGeneration ≠ 0) := by
  rcases h with h | h <;> simp only [setup, Setup.released, Setup.mk.injEq] at h <;> simp only [h]
  · exact ⟨hs.nextActivation, hs.nextPath, hs.nextSocket, hs.path⟩
  · exact ⟨hs.nextActivation, hs.nextPath, hs.nextSocket, hs.path⟩

theorem HandlerState.Kept.activated (h : st.Kept after) (hs : st.runtime.Activated) :
    after.runtime.Activated := by
  have hstate {state : PeerRuntimeState} (hne : state ≠ .active)
      (hafter : after.runtime.lifecycle.state = state) :
      st.runtime.lifecycle.state = state := by
    obtain hsame | ⟨-, hactive⟩ := h.state
    · exact hsame.symm.trans hafter
    · exact absurd (hafter.symm.trans hactive) hne
  have hact : after.runtime.lifecycle.activationGeneration =
      st.runtime.lifecycle.activationGeneration := congrArg Setup.activationGeneration h.setup
  obtain ⟨hnextActivation, hnextPath, hnextSocket, hpath⟩ := hs.of_setup (.inl h.setup)
  refine ⟨hnextActivation, hnextPath, hnextSocket, fun hinactive => ?_, hpath,
    fun hresolving => ?_, fun htrans => ?_⟩
  · exact hact.trans (hs.inactive (hstate (by decide) hinactive))
  · obtain ⟨hcur, hstarted⟩ := hs.resolving (hstate (by decide) hresolving)
    refine ⟨hact ▸ hcur, fun havail => ?_⟩
    rw [show after.runtime.endpointResolutionStarted = st.runtime.endpointResolutionStarted from
      congrArg Setup.endpointResolutionStarted h.setup]
    exact hstarted ((congrArg Setup.pathAvailability h.setup).symm.trans havail)
  · obtain ⟨hcur, hendpoint, hpurpose⟩ := hs.transport (h.transport ▸ htrans)
    refine ⟨hact ▸ hcur, h.endpoint hendpoint, fun hpend => ?_⟩
    rw [show after.runtime.pendingBindPurpose = st.runtime.pendingBindPurpose from
      congrArg Setup.pendingBindPurpose h.setup]
    refine hpurpose ?_
    rw [← show after.runtime.pendingSocketGeneration = st.runtime.pendingSocketGeneration from
      congrArg Setup.pendingSocketGeneration h.setup]
    exact hpend

/-- What of `Activated` is left when the peer has no transport. -/
theorem activated_of_error (hstate : t.lifecycle.state = .error)
    (hnextActivation : t.nextActivationGeneration ≠ 0) (hnextPath : t.nextPathRequestGeneration ≠ 0)
    (hnextSocket : t.nextSocketGeneration ≠ 0)
    (hpath : t.lifecycle.activationGeneration ≠ 0 → t.pathRequestGeneration ≠ 0) : t.Activated := by
  refine ⟨hnextActivation, hnextPath, hnextSocket, fun h => ?_, hpath, fun h => ?_, fun h => ?_⟩
  · rw [hstate] at h; cases h
  · rw [hstate] at h; cases h
  · rw [isInTransportState_iff, hstate] at h
    rcases h with h | h
    · cases h
    · cases h

theorem HandlerState.Failed.activated (h : st.Failed after) (hs : st.runtime.Activated) :
    after.runtime.Activated := by
  obtain ⟨hnextActivation, hnextPath, hnextSocket, hpath⟩ := hs.of_setup (.inr h.setup)
  exact activated_of_error h.state hnextActivation hnextPath hnextSocket hpath

theorem Work.activated {identity : PeerIdentity} (h : Traffic c p identity st after)
    (hs : st.runtime.Activated) : after.runtime.Activated := by
  obtain hkept | hfailed := h.outcome
  · exact hkept.activated hs
  · exact hfailed.activated hs

/-- A state without a transport that is not resolving. -/
theorem not_transport_of_resolving (h : s.lifecycle.state = .resolvingEndpoint) :
    ¬ s.isInTransportState := by
  rw [isInTransportState_iff, h]
  rintro (h | h)
  · cases h
  · cases h

theorem rejectSocket_runtime (s : PeerRuntime) (event : UdpBindOpenedEvent) :
    (s.rejectSocket event).runtime = s := by
  unfold rejectSocket
  split
  · rfl
  · rfl

/-- A deactivation ends the path request and closes the socket. -/
theorem handleDeactivationRequested_transport {event : DeactivationRequestedEvent}
    (h : s.isCurrentActivation event.peer.activationGeneration) :
    (s.handleDeactivationRequested event).transportEffects = (if s.pathRequestGeneration ≠ 0 then
        [.stopNetworkPathRequest event.peer s.pathRequestGeneration] else []) ++ s.closing := by
  obtain ⟨timers, intent, cancels, heq, -, hcancels⟩ := handleDeactivationRequested_writes h
  have hnone : cancels.filter isTransport = [] := by
    rw [filter_eq_nil_iff]
    intro effect hmem
    obtain ⟨hook, token, rfl⟩ := hcancels effect hmem
    exact Bool.false_ne_true
  rw [heq, transportEffects, filter_append, hnone, append_nil]
  unfold givenUp closing UdpBinding.isOpen
  by_cases hpath : s.pathRequestGeneration = 0
  · by_cases hsocket : s.binding.socket = invalidSocket
    · simp [hpath, hsocket]
    · simp [hpath, hsocket, isTransport]
  · by_cases hsocket : s.binding.socket = invalidSocket
    · simp [hpath, hsocket, isTransport]
    · simp [hpath, hsocket, isTransport]

theorem configure_state {peerIndex : UInt32} {config : PeerConfigEntry}
    {derived : PeerConfigDerivedInfo} {now : Ktime}
    (h : empty.configure peerIndex config derived now = some s) :
    s.lifecycle.state = .inactive := by
  unfold configure at h
  rw [if_neg (by decide)] at h
  cases h
  rfl

theorem configure_activated {peerIndex : UInt32} {config : PeerConfigEntry}
    {derived : PeerConfigDerivedInfo} {now : Ktime}
    (h : empty.configure peerIndex config derived now = some s) : s.Activated := by
  unfold configure at h
  rw [if_neg (by decide)] at h
  cases h
  have hone : (1 : UInt32) ≠ 0 := by decide
  refine ⟨hone, hone, hone, fun _ => rfl, fun h => absurd rfl h, fun h => ?_, fun h => ?_⟩
  · cases h
  · cases h

/-- A path event changes flags and may ask for something. -/
theorem activated_of_flags (hs : s.Activated) (hlifecycle : t.lifecycle = s.lifecycle)
    (hact : t.nextActivationGeneration = s.nextActivationGeneration)
    (hpath : t.nextPathRequestGeneration = s.nextPathRequestGeneration)
    (hreq : t.pathRequestGeneration = s.pathRequestGeneration)
    (hsocket : t.nextSocketGeneration ≠ 0)
    (hstarted : s.lifecycle.state = .resolvingEndpoint → t.pathAvailability = .available →
      t.endpointResolutionStarted) (htrans : s.isInTransportState → s.binding.hasEndpoint →
      (s.pendingSocketGeneration ≠ 0 → s.pendingBindPurpose = .rebind) →
      t.binding.hasEndpoint ∧
        (t.pendingSocketGeneration ≠ 0 → t.pendingBindPurpose = .rebind)) : t.Activated := by
  have hstate : t.isInTransportState = s.isInTransportState := by
    unfold isInTransportState
    rw [hlifecycle]
  refine ⟨hact ▸ hs.nextActivation, hpath ▸ hs.nextPath, hsocket, ?_, ?_, ?_, ?_⟩
  · rw [hlifecycle]
    exact hs.inactive
  · rw [hlifecycle, hreq]
    exact hs.path
  · rw [hlifecycle]
    exact fun h => ⟨(hs.resolving h).1, hstarted h⟩
  · rw [hstate, hlifecycle]
    intro h
    obtain ⟨hcur, hendpoint, hpurpose⟩ := hs.transport h
    exact ⟨hcur, htrans h hendpoint hpurpose⟩

/-- `SuspendTransport` leaves all but the binding. -/
theorem losePath_runtime (s : PeerRuntime) (identity : PeerIdentity) :
    (s.losePath identity).runtime =
      { s with
        rebindOnPathConfirmation := false
        waitingForLocalPath := true
        binding := if s.binding.isOpen = true ∧ s.binding.suspended = false then
          s.binding.releaseAndSuspend else s.binding } := by
  rcases losePath_cases s identity with ⟨hclosed, heq⟩ | ⟨hopen, hsusp, heq⟩
  · rw [heq, if_neg hclosed]
  · rw [heq, if_pos ⟨hopen, hsusp⟩]

/-- `SuspendTransport` closes the socket it takes from the binding. -/
theorem losePath_transportEffects (s : PeerRuntime) (identity : PeerIdentity) :
    (s.losePath identity).transportEffects =
      if s.binding.isOpen ∧ s.binding.suspended = false then s.closing else [] := by
  rcases losePath_cases s identity with ⟨hclosed, heq⟩ | ⟨hopen, hsusp, heq⟩
  · rw [heq, if_neg hclosed]
    rfl
  · rw [heq, if_pos ⟨hopen, hsusp⟩, closing, if_pos (of_decide_eq_true hopen)]
    rfl

private theorem losePath_activated (hs : s.Activated) {identity : PeerIdentity} :
    (losePath { s with pathAvailability := .unavailable } identity).runtime.Activated := by
  rw [losePath_runtime]
  refine activated_of_flags hs rfl rfl rfl rfl hs.nextSocket (nofun)
    fun _ hendpoint hpurpose => ⟨?_, hpurpose⟩
  simp only
  split
  · exact hendpoint
  · exact hendpoint

private theorem bound_activated (hs : s.Activated) (hstate : s.lifecycle.state = .resolvingEndpoint)
    {binding : UdpBinding} (hendpoint : binding.hasEndpoint) {peer : WgPeer} {now : Ktime} :
    (s.bound binding peer now).Activated := by
  have hcur := (hs.resolving hstate).1
  refine ⟨hs.nextActivation, hs.nextPath, hs.nextSocket, fun h => ?_, fun _ => hs.path hcur,
    fun h => ?_, fun _ => ⟨hcur, hendpoint, fun h => absurd rfl h⟩⟩
  · cases h
  · cases h

/-- One event keeps what belongs to the activation. -/
theorem Turn.activated {event : PeerEvent} (h : Turn c p s event st) (hs : s.Activated) :
    st.runtime.Activated := by
  cases h with
  | idle | ignore => exact hs
  | traffic _ _ _ _ htraffic => exact htraffic.activated hs
  | refuse | unresolved => exact (enterActivationError_failed _ _ _ _).activated hs
  | activate =>
    refine ⟨followingGeneration_ne_zero _, followingGeneration_ne_zero _, hs.nextSocket,
      fun h => ?_, fun _ => hs.nextPath, fun _ => ⟨hs.nextActivation, fun h => ?_⟩, fun h => ?_⟩
    · cases h
    · cases h
    · cases h
  | deactivate event hcur =>
    have hreset := (handleDeactivationRequested_spec hcur).1
    obtain ⟨timers, intent, cancels, heq, -⟩ := handleDeactivationRequested_writes hcur
    refine ⟨heq ▸ hs.nextActivation, heq ▸ hs.nextPath, heq ▸ hs.nextSocket,
      fun _ => hreset.activation, fun h => absurd hreset.activation h, fun h => ?_, fun h => ?_⟩
    · rw [hreset.state] at h; cases h
    · rw [isInTransportState_iff, hreset.state] at h
      rcases h with h | h
      · cases h
      · cases h
  | doubt =>
    exact activated_of_flags hs rfl rfl rfl rfl hs.nextSocket
      (fun h => (hs.resolving h).2) fun _ hendpoint hpurpose => ⟨hendpoint, hpurpose⟩
  | lose event _ => exact losePath_activated hs
  | regain _ _ hresolving _ =>
    exact activated_of_flags hs rfl rfl rfl rfl hs.nextSocket
      (fun h _ => hresolving h) fun _ hendpoint hpurpose => ⟨hendpoint, hpurpose⟩
  | resolve =>
    exact activated_of_flags hs rfl rfl rfl rfl hs.nextSocket
      (fun _ _ => rfl) fun _ hendpoint hpurpose => ⟨hendpoint, hpurpose⟩
  | rebind _ _ _ _ htrans =>
    exact activated_of_flags hs rfl rfl rfl rfl
      (followingGeneration_ne_zero _)
      (fun h => absurd htrans (not_transport_of_resolving h))
      fun _ hendpoint _ => ⟨hendpoint, fun _ => rfl⟩
  | bind _ _ hstate =>
    exact activated_of_flags hs rfl rfl rfl rfl (followingGeneration_ne_zero _)
      (fun h => (hs.resolving h).2) fun h => absurd h (not_transport_of_resolving hstate)
  | stale event _ =>
    rw [rejectSocket_runtime]
    exact hs
  | drop event _ =>
    rw [rejectSocket_runtime]
    exact activated_of_flags hs rfl rfl rfl rfl hs.nextSocket (fun h => (hs.resolving h).2)
      fun _ hendpoint _ => ⟨hendpoint, fun h => absurd rfl h⟩
  | unopened event _ hstate =>
    refine (enterActivationError_failed _ _ _ _).activated ?_
    rw [rejectSocket_runtime]
    exact activated_of_flags hs rfl rfl rfl rfl hs.nextSocket (fun h => (hs.resolving h).2)
      fun h => absurd h (not_transport_of_resolving hstate)
  | rebound event binding _ _ _ htrans _ _ _ _ _ _ hendpoint _ htraffic =>
    refine htraffic.activated ?_
    exact activated_of_flags hs rfl rfl rfl rfl hs.nextSocket
      (fun h => absurd htrans (not_transport_of_resolving h))
      fun _ _ _ => ⟨hendpoint, fun h => absurd rfl h⟩
  | bound event binding peer _ _ _ hstate _ _ _ _ _ _ _ hendpoint _ _ htraffic =>
    exact htraffic.activated (bound_activated hs hstate hendpoint)
  | unkeyed event binding _ _ hstate =>
    refine (enterActivationError_failed _ _ _ _).activated ?_
    exact activated_of_flags hs rfl rfl rfl rfl hs.nextSocket (fun h => (hs.resolving h).2)
      fun h => absurd h (not_transport_of_resolving hstate)

theorem handle_activated {event : PeerEvent} {after : PeerRuntime} {batch : EffectBatch}
    (h : s.handle c p event = some (after, batch)) (hs : s.Activated) : after.Activated := by
  obtain ⟨st, timers, intent, hst, rfl, -⟩ := handle_spec h
  have hst' := (handleEvent_turn hst).activated hs
  exact ⟨hst'.nextActivation, hst'.nextPath, hst'.nextSocket, hst'.inactive, hst'.path,
    hst'.resolving, hst'.transport⟩

end Activated

end WireguardNx.Runtime
