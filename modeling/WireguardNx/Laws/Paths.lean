import WireguardNx.Laws.Watch

/-!
# Requests for endpoints and sockets

A peer asks for its endpoint to be resolved and for sockets to be opened, and is told of the result
by a later event.  A run with the requests that were not answered yet shows whether a peer can be
left waiting for an answer that nobody will give.

An answer that arrives while the local path is down is dropped.  A dropped replacement socket is
asked for again when the path is back; a dropped resolution, or the first socket of the activation,
is not, since the resolution is asked for only once in an activation.

An answer is assumed to have been asked for (`Answered`).  That a request is answered is not assumed.
-/

namespace WireguardNx.Runtime

open Wireguard PeerRuntime HandlerState RuntimeEffect List Bool

variable {s t : PeerRuntime} {c : Crypto} {p : Platform} {st : HandlerState}

/-! ## Runs with their requests -/

/-- Whether an effect is a request that an event will answer. -/
def RuntimeEffect.isRequest : RuntimeEffect → Bool
  | .resolveEndpoint _ _ _ | .openUdpBind _ => true
  | _ => false

def UdpBindOpenedEvent.answersBind (event : UdpBindOpenedEvent) (bind : OpenUdpBindEffect) : Bool :=
  decide (event.peer.activationGeneration = bind.peer.activationGeneration) &&
    decide (event.pathGeneration = bind.pathGeneration) &&
    decide (event.socketGeneration = bind.socketGeneration) && decide (event.purpose = bind.purpose)

def PeerEvent.answers : PeerEvent → RuntimeEffect → Bool
  | .endpointResolved event, .resolveEndpoint peer pathGeneration _ =>
    decide (event.peer.activationGeneration = peer.activationGeneration) &&
      decide (event.pathGeneration = pathGeneration)
  | .udpBindOpened event, .openUdpBind bind => event.answersBind bind
  | _, _ => false

def lastRebind? (requests : List RuntimeEffect) : Option OpenUdpBindEffect :=
  (requests.filterMap fun request =>
    match request with
    | .openUdpBind bind => if bind.purpose = .rebind then some bind else none
    | _ => none).getLast?

def PeerEvent.reportsFailure (event : PeerEvent) (bind : OpenUdpBindEffect) : Bool :=
  match event with
  | .udpBindOpened event => event.answersBind bind &&
      (decide (event.error ≠ .none) || decide (event.socket = invalidSocket))
  | _ => false

/-- The requests that were not answered yet, and the rebind asked for last with whether its open
reported an error. -/
structure Requests where
  outstanding : List RuntimeEffect
  lastRebind : Option (OpenUdpBindEffect × Bool)

namespace Requests

def none : Requests := ⟨[], .none⟩

/-- An answer ends its request and may report a failure; then new requests are made. -/
def next (requests : Requests) (event : PeerEvent) (made : List RuntimeEffect) : Requests where
  outstanding := requests.outstanding.eraseP event.answers ++ made
  lastRebind :=
    match lastRebind? made with
    | some bind => some (bind, false)
    | .none => requests.lastRebind.map fun (bind, failed) =>
      (bind, failed || event.reportsFailure bind)

/-- The requests after an event and its batch. -/
def record (run : Watched Requests) (event : PeerEvent) (handled : PeerRuntime × EffectBatch) :
    Requests :=
  run.seen.next event (handled.2.effects.filter RuntimeEffect.isRequest)

/-- An answer needs a request. -/
def Answered (run : Watched Requests) (event : PeerEvent) : Prop :=
  event.isAnswer = true → run.seen.outstanding.any event.answers = true

instance (run : Watched Requests) (event : PeerEvent) : Decidable (Answered run event) :=
  inferInstanceAs (Decidable (_ → _))

def rebindFailed (requests : Requests) : Bool := requests.lastRebind.any Prod.snd

end Requests

/-! ## What the peer expects -/

namespace PeerRuntime

/-- Whether a request is for the socket the peer waits for. -/
def expectsBind (s : PeerRuntime) (bind : OpenUdpBindEffect) : Bool :=
  decide (bind.socketGeneration ≠ 0) &&
    s.isCurrentPathRequest bind.peer.activationGeneration bind.pathGeneration &&
    decide (bind.socketGeneration = s.pendingSocketGeneration) &&
    decide (bind.purpose = s.pendingBindPurpose)

/-- Whether the answer to a request takes the activation on: a resolution or an activation bind of
the current path request. -/
def expects (s : PeerRuntime) : RuntimeEffect → Bool
  | .resolveEndpoint peer pathGeneration _ =>
    s.isCurrentPathRequest peer.activationGeneration pathGeneration
  | .openUdpBind bind => s.expectsBind bind && decide (bind.purpose = .activation)
  | _ => false

/-- An answer of the current path request that arrives while the local path is down, before the
activation has its socket. -/
def loses (s : PeerRuntime) : PeerEvent → Bool
  | .endpointResolved event =>
    s.isCurrentPathRequest event.peer.activationGeneration event.pathGeneration &&
      decide (s.lifecycle.state = .resolvingEndpoint) &&
      (s.waitingForLocalPath || decide (s.pathAvailability ≠ .available))
  | .udpBindOpened event =>
    s.awaits event && decide (event.purpose = .activation) &&
      decide (s.lifecycle.state = .resolvingEndpoint) &&
      (s.waitingForLocalPath || decide (s.pathAvailability ≠ .available))
  | _ => false

end PeerRuntime

section Expects

variable {event : UdpBindOpenedEvent} {bind : OpenUdpBindEffect}

theorem awaits_eq_expectsBind (h : event.answersBind bind) :
    s.awaits event = s.expectsBind bind := by
  unfold UdpBindOpenedEvent.answersBind at h
  simp only [and_eq_true, decide_eq_true_eq] at h
  obtain ⟨⟨⟨hact, hpath⟩, hgen⟩, hpurpose⟩ := h
  unfold awaits expectsBind
  rw [hact, hpath, hgen, hpurpose]

/-- Two sockets that the peer waits for are the same one. -/
theorem answersBind_of_expected (hawaits : s.awaits event)
    (hexpects : s.expectsBind bind) : event.answersBind bind := by
  unfold awaits at hawaits
  unfold expectsBind at hexpects
  simp only [and_eq_true, decide_eq_true_eq] at hawaits hexpects
  obtain ⟨⟨⟨-, hpath⟩, hgen⟩, hpurpose⟩ := hawaits
  obtain ⟨⟨⟨-, hpath'⟩, hgen'⟩, hpurpose'⟩ := hexpects
  have hact := eq_of_isCurrentActivation (isCurrentActivation_of_isCurrentPathRequest hpath)
  have hact' :=
    eq_of_isCurrentActivation (isCurrentActivation_of_isCurrentPathRequest hpath')
  unfold UdpBindOpenedEvent.answersBind
  simp only [and_eq_true, decide_eq_true_eq]
  exact ⟨⟨⟨hact.trans hact'.symm, (path_of_isCurrentPathRequest hpath).1.trans
    (path_of_isCurrentPathRequest hpath').1.symm⟩, hgen.trans hgen'.symm⟩,
    hpurpose.trans hpurpose'.symm⟩

/-- The part of a peer that decides what it expects. -/
def PeerRuntime.requestView (s : PeerRuntime) : UInt32 × UInt32 × UInt32 × UdpBindPurpose :=
  (s.lifecycle.activationGeneration, s.pathRequestGeneration, s.pendingSocketGeneration,
    s.pendingBindPurpose)

theorem expectsBind_of_view (h : t.requestView = s.requestView) :
    t.expectsBind bind = s.expectsBind bind := by
  simp only [requestView, Prod.mk.injEq] at h
  obtain ⟨hact, hpath, hpend, hpurpose⟩ := h
  unfold expectsBind isCurrentPathRequest isCurrentActivation
  rw [hact, hpath, hpend, hpurpose]

private theorem expects_of_view (h : t.requestView = s.requestView) {effect : RuntimeEffect} :
    t.expects effect = s.expects effect := by
  have hbind (bind : OpenUdpBindEffect) : t.expectsBind bind = s.expectsBind bind :=
    expectsBind_of_view h
  simp only [requestView, Prod.mk.injEq] at h
  obtain ⟨hact, hpath, -, -⟩ := h
  cases effect with
  | resolveEndpoint peer path endpoint =>
    unfold expects isCurrentPathRequest isCurrentActivation
    rw [hact, hpath]
  | openUdpBind bind => exact congrArg (· && decide (bind.purpose = .activation)) (hbind bind)
  | _ => rfl

private theorem isAnswer_of_answers {event : PeerEvent} {effect : RuntimeEffect}
    (h : event.answers effect) : event.isAnswer := by
  cases event with
  | endpointResolved | udpBindOpened => rfl
  | _ => cases h

theorem requestView_of_setup (h : t.setup = s.setup) : t.requestView = s.requestView := by
  unfold requestView
  rw [show t.lifecycle.activationGeneration = s.lifecycle.activationGeneration from
      congrArg Setup.activationGeneration h,
    show t.pathRequestGeneration = s.pathRequestGeneration from
      congrArg Setup.pathRequestGeneration h,
    show t.pendingSocketGeneration = s.pendingSocketGeneration from
      congrArg Setup.pendingSocketGeneration h,
    show t.pendingBindPurpose = s.pendingBindPurpose from congrArg Setup.pendingBindPurpose h]

end Expects

/-! ## No lost activation -/

section Activation

variable {event : PeerEvent} {outstanding added : List RuntimeEffect}

/-- A request that is expected and not answered stays. -/
theorem expected_of_kept (hview : t.requestView = s.requestView)
    (hother : ∀ effect, s.expects effect → event.answers effect = false)
    (h : ∃ effect ∈ outstanding, s.expects effect) :
    ∃ effect ∈ outstanding.eraseP event.answers ++ added, t.expects effect := by
  obtain ⟨effect, hmem, hexpects⟩ := h
  have hanswer : ¬ event.answers effect := by
    rw [hother effect hexpects]
    exact false_ne_true
  exact ⟨effect, mem_append_left _ ((mem_eraseP_of_neg hanswer).mpr hmem),
    (expects_of_view hview).trans hexpects⟩

theorem answers_eq_false (h : event.isAnswer = false) {effect : RuntimeEffect} :
    event.answers effect = false :=
  eq_false_iff.mpr fun hanswers =>
    Bool.noConfusion (h.symm.trans (isAnswer_of_answers hanswers))

/-- A resolution that the peer does not take up is not one it expects. -/
theorem endpointResolved_other {event : EndpointResolvedEvent}
    (h : s.isCurrentPathRequest event.peer.activationGeneration event.pathGeneration = false)
    (effect : RuntimeEffect) (hexpects : s.expects effect) :
    (PeerEvent.endpointResolved event).answers effect = false := by
  cases effect with
  | resolveEndpoint peer path endpoint =>
    refine eq_false_iff.mpr fun hanswers => ?_
    unfold PeerEvent.answers at hanswers
    simp only [and_eq_true, decide_eq_true_eq] at hanswers
    unfold expects at hexpects
    rw [hanswers.1, hanswers.2] at h
    exact Bool.noConfusion (h.symm.trans hexpects)
  | _ => rfl

/-- A socket answers an expected request only if the peer awaits it for its activation. -/
theorem udpBindOpened_other {event : UdpBindOpenedEvent}
    (h : ¬ (s.awaits event ∧ event.purpose = .activation)) (effect : RuntimeEffect)
    (hexpects : s.expects effect) : (PeerEvent.udpBindOpened event).answers effect = false := by
  cases effect with
  | openUdpBind bind =>
    refine eq_false_iff.mpr fun hanswers => h ?_
    unfold expects at hexpects
    rw [and_eq_true, decide_eq_true_eq] at hexpects
    have hanswers' : event.answersBind bind := hanswers
    refine ⟨(awaits_eq_expectsBind hanswers').trans hexpects.1, ?_⟩
    unfold UdpBindOpenedEvent.answersBind at hanswers'
    simp only [and_eq_true, decide_eq_true_eq] at hanswers'
    exact hanswers'.2.trans hexpects.2
  | _ => rfl

/-- A socket that was just asked for is expected. -/
theorem opening_expectsBind {purpose : UdpBindPurpose} {bind : OpenUdpBindEffect}
    (hcur : s.isCurrentPathRequest bind.peer.activationGeneration s.pathRequestGeneration)
    (hnext : s.nextSocketGeneration ≠ 0) (hpath : bind.pathGeneration = s.pathRequestGeneration)
    (hgen : bind.socketGeneration = s.nextSocketGeneration)
    (hpurpose : bind.purpose = purpose) : (s.opening purpose).expectsBind bind := by
  unfold expectsBind
  rw [hpath, hgen, hpurpose]
  simp only [and_eq_true, decide_eq_true_eq]
  exact ⟨⟨⟨hnext, hcur⟩, rfl⟩, rfl⟩

/-- One event leaves a started activation with a request that takes it on, unless the answer to such
a request arrives while the local path is down. -/
theorem Turn.expected (h : Turn c p s event st) (hs : s.Activated) (hkept : s.loses event = false)
    (hbefore : s.lifecycle.state = .resolvingEndpoint → s.endpointResolutionStarted →
      ∃ effect ∈ outstanding, s.expects effect)
    (hstate : st.runtime.lifecycle.state = .resolvingEndpoint)
    (hstarted : st.runtime.endpointResolutionStarted) :
    ∃ effect ∈ outstanding.eraseP event.answers ++ st.effects.filter isRequest,
      st.runtime.expects effect := by
  -- the error state and a state with a transport are no concern here
  have herror {before : HandlerState} (hfailed : before.Failed st) : False := by
    rw [hfailed.state] at hstate; cases hstate
  cases h with
  | idle event hevent =>
    exact expected_of_kept rfl (fun effect _ => answers_eq_false hevent)
      (hbefore hstate hstarted)
  | traffic event st hevent _ htraffic =>
    have hanswer := isAnswer_of_isTraffic hevent
    obtain hkept | hfailed := htraffic.outcome
    · have hresolving : s.lifecycle.state = .resolvingEndpoint := by
        obtain hsame | ⟨-, hactive⟩ := hkept.state
        · exact hsame.symm.trans hstate
        · rw [hactive] at hstate; cases hstate
      refine expected_of_kept (requestView_of_setup hkept.setup)
        (fun effect _ => answers_eq_false hanswer) (hbefore hresolving ?_)
      exact (congrArg Setup.endpointResolutionStarted hkept.setup).symm.trans hstarted
    · exact (herror hfailed).elim
  | refuse | unresolved | unopened | unkeyed =>
    exact (herror (enterActivationError_failed _ _ _ _)).elim
  | activate => cases hstarted
  | deactivate event hcur =>
    rw [(handleDeactivationRequested_spec hcur).1.state] at hstate; cases hstate
  | doubt =>
    exact expected_of_kept rfl (fun effect _ => answers_eq_false rfl)
      (hbefore hstate hstarted)
  | lose event _ =>
    rw [losePath_runtime] at hstate hstarted ⊢
    exact expected_of_kept rfl (fun effect _ => answers_eq_false rfl)
      (hbefore hstate hstarted)
  | regain event _ hresolving =>
    exact expected_of_kept rfl (fun effect _ => answers_eq_false rfl)
      (hbefore hstate (hresolving hstate))
  | resolve event hcur =>
    refine ⟨_, mem_append_right _ (mem_singleton_self _), ?_⟩
    rw [(path_of_isCurrentPathRequest hcur).1] at hcur
    exact hcur
  | rebind _ _ _ _ htrans => exact absurd htrans (not_transport_of_resolving hstate)
  | ignore event hdown =>
    refine expected_of_kept rfl (endpointResolved_other (eq_false_iff.mpr fun hcur => ?_))
      (hbefore hstate hstarted)
    have hlost : s.loses (.endpointResolved event) := by
      unfold loses
      simp only [and_eq_true, or_eq_true, decide_eq_true_eq]
      exact ⟨⟨hcur, hstate⟩, hdown hcur hstate⟩
    exact Bool.noConfusion (hkept.symm.trans hlost)
  | bind event hcur =>
    refine ⟨_, mem_append_right _ (mem_singleton_self _), ?_⟩
    rw [(path_of_isCurrentPathRequest hcur).1] at hcur
    exact (and_eq_true _ _).mpr
      ⟨opening_expectsBind hcur hs.nextSocket rfl rfl rfl, decide_eq_true rfl⟩
  | stale event hawaits =>
    rw [rejectSocket_runtime] at hstate hstarted ⊢
    refine expected_of_kept rfl (udpBindOpened_other fun h => ?_) (hbefore hstate hstarted)
    exact Bool.noConfusion (hawaits.symm.trans h.1)
  | drop event hawaits _ hact =>
    rw [rejectSocket_runtime] at hstate hstarted ⊢
    have hpurpose : ¬ (s.awaits event ∧ event.purpose = .activation) := by
      rintro ⟨-, hpurpose⟩
      have hlost : s.loses (.udpBindOpened event) := by
        unfold loses
        simp only [and_eq_true, or_eq_true, decide_eq_true_eq]
        exact ⟨⟨⟨hawaits, hpurpose⟩, hstate⟩, hact hpurpose hstate⟩
      exact Bool.noConfusion (hkept.symm.trans hlost)
    obtain ⟨effect, hmem, hexpects⟩ := hbefore hstate hstarted
    have hanswer : ¬ (PeerEvent.udpBindOpened event).answers effect := by
      rw [udpBindOpened_other hpurpose effect hexpects]
      exact false_ne_true
    refine ⟨effect, mem_append_left _ ((mem_eraseP_of_neg hanswer).mpr hmem), ?_⟩
    -- the socket that was asked for last is not an activation bind, so a resolution is expected
    cases effect with
    | resolveEndpoint => exact hexpects
    | openUdpBind bind =>
      refine absurd ?_ hpurpose
      unfold expects at hexpects
      rw [and_eq_true, decide_eq_true_eq] at hexpects
      have hanswers := answersBind_of_expected hawaits hexpects.1
      exact absurd hanswers hanswer
    | _ => cases hexpects
  | rebound event binding st _ _ htrans _ _ _ _ _ _ _ _ htraffic =>
    obtain hkept | hfailed := htraffic.outcome
    · have htrans' : st.runtime.isInTransportState := hkept.transport.trans htrans
      exact absurd htrans' (not_transport_of_resolving hstate)
    · have hfailed' := hfailed.state
      rw [show st.runtime.lifecycle.state = .resolvingEndpoint from hstate] at hfailed'
      cases hfailed'
  | bound event binding peer st _ _ _ _ _ _ _ _ _ _ _ _ _ htraffic =>
    obtain hkept | hfailed := htraffic.outcome
    · have htrans : st.runtime.isInTransportState := hkept.transport.trans rfl
      exact absurd htrans (not_transport_of_resolving hstate)
    · exact (herror hfailed).elim

theorem isRequest_of_isTimer {effect : RuntimeEffect} (h : effect.isTimer) :
    effect.isRequest = false := by
  cases effect with
  | armProtocolTimer | cancelProtocolTimer => rfl
  | _ => cases h

/-- In a run in which no answer arrives while the local path is down, a peer that resolves its
endpoint over an available path has a request outstanding that takes it on. -/
theorem no_lost_activation {run : Watched Requests}
    (h : (watchedWhere c .none Requests.record fun run event =>
      Requests.Answered run event ∧ run.peer.loses event = false).Reachable run)
    (hstate : run.peer.lifecycle.state = .resolvingEndpoint)
    (havail : run.peer.pathAvailability = .available)
    (_hwait : run.peer.waitingForLocalPath = false) :
    ∃ effect ∈ run.seen.outstanding, run.peer.expects effect = true := by
  refine watchedWhere_invariant (P := fun run => run.peer.lifecycle.state = .resolvingEndpoint →
    run.peer.endpointResolutionStarted = true →
    ∃ effect ∈ run.seen.outstanding, run.peer.expects effect = true) ?_ ?_ h hstate
    (((watchedWhere_activated h).resolving hstate).2 havail)
  · rintro s ⟨peerIndex, config, derived, now, hconf⟩ hstate
    rw [configure_state hconf] at hstate
    cases hstate
  · rintro run p event after batch - hactivated - ⟨-, hkept⟩ hrun hhandle hstate hstarted
    obtain ⟨st, timers, intent, hst, rfl, -, hbatch⟩ := handle_filter hhandle
    unfold Requests.record
    rw [hbatch isRequest fun _ => isRequest_of_isTimer]
    exact (handleEvent_turn hst).expected hactivated hkept hrun hstate hstarted

/-- The sample peer that waits for the resolution of its endpoint. -/
theorem no_lost_activation_sample :
    ∃ run, (watchedWhere .transparent .none Requests.record fun run event =>
        Requests.Answered run event ∧ run.peer.loses event = false).Reachable run ∧
      run.peer.lifecycle.state = .resolvingEndpoint ∧
      ∃ effect ∈ run.seen.outstanding, run.peer.expects effect = true := by
  have hrun : (sampleWatched .none Requests.record (fun run event =>
      Requests.Answered run event ∧ run.peer.loses event = false)
      ((sampleActivation (seconds 10)).take 2)).map (fun run => (run.peer.lifecycle.state,
        run.peer.pathAvailability, run.peer.waitingForLocalPath)) =
      some (.resolvingEndpoint, .available, false) := by
    decide +kernel
  obtain ⟨run, hrun, hfacts⟩ := Option.map_eq_some_iff.mp hrun
  simp only [Prod.mk.injEq] at hfacts
  have hreach := sampleWatched_reachable hrun
  exact ⟨run, hreach, hfacts.1, no_lost_activation hreach hfacts.1 hfacts.2.1 hfacts.2.2⟩

/-- The resolution arrives while the local path is down, and the path comes back: nothing is
outstanding, and the peer stays in `ResolvingEndpoint`. -/
theorem activation_lost :
    ∃ run, (watchedWhere .transparent .none Requests.record Requests.Answered).Reachable run ∧
      run.peer.lifecycle.state = .resolvingEndpoint ∧ run.peer.pathAvailability = .available ∧
      run.peer.waitingForLocalPath = false ∧ run.seen.outstanding = [] := by
  have hrun : (sampleWatched .none Requests.record Requests.Answered
      ((sampleActivation (seconds 10)).take 2 ++
        [(.constant (seconds 11) 8, .networkPathAvailabilityChanged
            ⟨sampleIdentity, 1, .unavailable, seconds 11⟩),
          (.constant (seconds 12) 8, .endpointResolved
            ⟨sampleIdentity, 1, ⟨true, .none, .none, sampleEndpoint, []⟩, seconds 12⟩),
          (.constant (seconds 13) 8, .networkPathAvailabilityChanged
            ⟨sampleIdentity, 1, .available, seconds 13⟩)])).map (fun run =>
        (run.peer.lifecycle.state, run.peer.pathAvailability, run.peer.waitingForLocalPath,
          run.seen.outstanding.isEmpty)) = some (.resolvingEndpoint, .available, false, true) := by
    decide +kernel
  obtain ⟨run, hrun, hfacts⟩ := Option.map_eq_some_iff.mp hrun
  simp only [Prod.mk.injEq, List.isEmpty_iff] at hfacts
  exact ⟨run, sampleWatched_reachable hrun, hfacts⟩

end Activation

/-! ## No lost recovery -/

/-- The rebind that a peer waits for was asked for last and is outstanding, and a suspended binding
is waited for or the last rebind failed. -/
structure Requests.Recovers (run : Watched Requests) : Prop where
  pending : run.peer.isInTransportState = true → run.peer.pendingSocketGeneration ≠ 0 →
    ∃ bind failed, .openUdpBind bind ∈ run.seen.outstanding ∧
      run.seen.lastRebind = some (bind, failed) ∧ run.peer.expectsBind bind = true
  suspended : run.peer.isInTransportState = true → run.peer.binding.suspended = true →
    run.peer.pathAvailability = .available → run.peer.waitingForLocalPath = false →
    run.peer.pendingSocketGeneration ≠ 0 ∨ run.seen.rebindFailed = true

section Recovery

variable {event : PeerEvent} {seen : Requests}

theorem recovers_of_no_transport {seen : Requests} (h : ¬ t.isInTransportState) :
    Requests.Recovers ⟨t, seen⟩ :=
  ⟨fun htrans => absurd htrans h, fun htrans => absurd htrans h⟩

theorem recovers_of_open {seen : Requests} (hpend : t.pendingSocketGeneration = 0)
    (hsusp : t.binding.suspended = false) : Requests.Recovers ⟨t, seen⟩ :=
  ⟨fun _ h => absurd hpend h, fun _ h => Bool.noConfusion (hsusp.symm.trans h)⟩

private theorem next_rebindFailed (h : seen.rebindFailed) : (seen.next event []).rebindFailed := by
  unfold Requests.rebindFailed at h ⊢
  obtain ⟨⟨bind, failed⟩, hlast, hfailed⟩ := (Option.any_eq_true _ _).mp h
  refine (Option.any_eq_true _ _).mpr ⟨(bind, failed || event.reportsFailure bind), ?_, ?_⟩
  · exact congrArg (Option.map _) hlast
  · exact (or_eq_true _ _).mpr (.inl hfailed)

/-- An event that neither answers the rebind nor asks for another. -/
theorem recovers_of_kept (hrun : Requests.Recovers ⟨s, seen⟩)
    (hview : t.requestView = s.requestView)
    (htrans : t.isInTransportState → s.isInTransportState)
    (hother : ∀ bind, s.expectsBind bind → event.answers (.openUdpBind bind) = false)
    (hsusp : t.isInTransportState → t.binding.suspended →
      t.pathAvailability = .available → t.waitingForLocalPath = false →
      t.pendingSocketGeneration ≠ 0 ∨ (s.binding.suspended ∧
        s.pathAvailability = .available ∧ s.waitingForLocalPath = false)) :
    Requests.Recovers ⟨t, seen.next event []⟩ := by
  have hpend : t.pendingSocketGeneration = s.pendingSocketGeneration :=
    congrArg (fun view => view.2.2.1) hview
  refine ⟨fun ht hne => ?_, fun ht hsusp' havail hwait => ?_⟩
  · obtain ⟨bind, failed, hmem, hlast, hexpects⟩ :=
      hrun.pending (htrans ht) (hpend ▸ hne : s.pendingSocketGeneration ≠ 0)
    have hanswer : ¬ event.answers (.openUdpBind bind) := by
      rw [hother bind hexpects]
      exact false_ne_true
    exact ⟨bind, failed || event.reportsFailure bind,
      mem_append_left _ ((mem_eraseP_of_neg hanswer).mpr hmem),
      congrArg (Option.map _) hlast, (expectsBind_of_view hview).trans hexpects⟩
  · obtain hne | ⟨hbefore, havail', hwait'⟩ := hsusp ht hsusp' havail hwait
    · exact .inl hne
    · obtain hne | hfailed := hrun.suspended (htrans ht) hbefore havail' hwait'
      · exact .inl (hpend ▸ hne : t.pendingSocketGeneration ≠ 0)
      · exact .inr (next_rebindFailed hfailed)

private theorem filter_isRequest_of_isTransport {effects : List RuntimeEffect}
    (h : effects.filter isTransport = []) : effects.filter isRequest = [] := by
  rw [filter_eq_nil_iff] at h ⊢
  intro effect hmem hreq
  refine h effect hmem ?_
  cases effect with
  | resolveEndpoint | openUdpBind => rfl
  | _ => cases hreq

theorem rejectSocket_requests (s : PeerRuntime) (event : UdpBindOpenedEvent) :
    (s.rejectSocket event).effects.filter isRequest = [] := by
  unfold rejectSocket
  split
  · rfl
  · rfl

private theorem losePath_requests (s : PeerRuntime) (identity : PeerIdentity) :
    (s.losePath identity).effects.filter isRequest = [] := by
  have hfilter : (s.losePath identity).effects.filter isRequest =
      (s.losePath identity).transportEffects.filter isRequest := by
    unfold transportEffects
    rw [filter_filter]
    refine filter_congr fun effect _ => ?_
    cases effect <;> rfl
  rw [hfilter, losePath_transportEffects]
  unfold closing
  split
  · split
    · rfl
    · rfl
  · rfl

/-- One event keeps the rebind that a peer waits for outstanding, and leaves a suspended binding
over an available path only if it waits for one or the last rebind failed. -/
theorem Turn.recovers (h : Turn c p s event st) (hs : s.Activated)
    (hrun : Requests.Recovers ⟨s, seen⟩) : Requests.Recovers
      ⟨st.runtime, seen.next event (st.effects.filter isRequest)⟩ := by
  have herror {before : HandlerState} (hfailed : before.Failed st) :
      ¬ st.runtime.isInTransportState := by
    rw [isInTransportState_iff, hfailed.state]
    rintro (h | h)
    · cases h
    · cases h
  cases h with
  | idle event hevent =>
    exact recovers_of_kept hrun rfl id (fun bind _ => answers_eq_false hevent)
      fun _ hsusp havail hwait => .inr ⟨hsusp, havail, hwait⟩
  | traffic event st hevent _ htraffic =>
    have hanswer := isAnswer_of_isTraffic hevent
    obtain hkept | hfailed := htraffic.outcome
    · rw [filter_isRequest_of_isTransport hkept.effects]
      refine recovers_of_kept hrun (requestView_of_setup hkept.setup)
        (fun htrans => hkept.transport ▸ htrans) (fun bind _ => answers_eq_false hanswer)
        fun _ hsusp havail hwait => .inr ?_
      exact ⟨(congrArg Setup.suspended hkept.setup).symm.trans hsusp,
        (congrArg Setup.pathAvailability hkept.setup).symm.trans havail,
        (congrArg Setup.waitingForLocalPath hkept.setup).symm.trans hwait⟩
    · exact recovers_of_no_transport (herror hfailed)
  | refuse | unresolved | unopened | unkeyed =>
    exact recovers_of_no_transport (herror (enterActivationError_failed ..))
  | activate => exact recovers_of_no_transport false_ne_true
  | deactivate event hcur =>
    refine recovers_of_no_transport ?_
    rw [isInTransportState_iff, (handleDeactivationRequested_spec hcur).1.state]
    rintro (h | h)
    · cases h
    · cases h
  | doubt =>
    exact recovers_of_kept hrun rfl id (fun bind _ => answers_eq_false rfl)
      fun _ hsusp havail hwait => .inr ⟨hsusp, havail, hwait⟩
  | lose event _ =>
    rw [losePath_requests, losePath_runtime]
    exact recovers_of_kept hrun rfl id (fun bind _ => answers_eq_false rfl)
      fun _ _ havail => by cases havail
  | regain event _ _ hsusp =>
    exact recovers_of_kept hrun rfl id (fun bind _ => answers_eq_false rfl)
      fun htrans hsusp' _ _ =>
        .inl (hsusp hsusp' htrans (hs.transport htrans).2.1)
  | resolve event _ hstate | bind event _ hstate =>
    exact recovers_of_no_transport (not_transport_of_resolving hstate)
  | rebind event flag hevent hcur htrans hendpoint hpath hpend =>
    refine ⟨fun _ _ => ?_, fun _ _ _ _ => .inl hs.nextSocket⟩
    refine ⟨_, false, mem_append_right _ (mem_singleton_self _), rfl,
      opening_expectsBind ?_ hs.nextSocket rfl rfl rfl⟩
    unfold isCurrentPathRequest
    simp only [and_eq_true, decide_eq_true_eq]
    exact ⟨⟨hcur, hpath⟩, trivial⟩
  | ignore event _ =>
    exact recovers_of_kept hrun rfl id (fun bind _ => rfl)
      fun _ hsusp havail hwait => .inr ⟨hsusp, havail, hwait⟩
  | stale event hawaits =>
    rw [rejectSocket_requests, rejectSocket_runtime]
    refine recovers_of_kept hrun rfl id (fun bind hexpects => ?_)
      fun _ hsusp havail hwait => .inr ⟨hsusp, havail, hwait⟩
    refine eq_false_iff.mpr fun hanswers => ?_
    have hexpects' := (awaits_eq_expectsBind hanswers).trans hexpects
    exact Bool.noConfusion (hawaits.symm.trans hexpects')
  | drop event hawaits hrebind _ =>
    rw [rejectSocket_requests, rejectSocket_runtime]
    refine ⟨fun _ h => absurd rfl h, fun htrans hsusp havail hwait => .inr ?_⟩
    obtain ⟨-, hendpoint, hpurpose⟩ := hs.transport htrans
    have hawaits' := hawaits
    unfold awaits at hawaits'
    simp only [and_eq_true, decide_eq_true_eq] at hawaits'
    have hpend : s.pendingSocketGeneration ≠ 0 := hawaits'.1.2 ▸ hawaits'.1.1.1
    obtain ⟨bind, failed, -, hlast, hexpects⟩ := hrun.pending htrans hpend
    have hreport := hrebind (hawaits'.2.trans (hpurpose hpend)) htrans hendpoint hwait
      havail
    -- the event reports on the rebind that was asked for last
    have hfailure : (PeerEvent.udpBindOpened event).reportsFailure bind := by
      unfold PeerEvent.reportsFailure
      simp only [and_eq_true, or_eq_true, decide_eq_true_eq]
      exact ⟨answersBind_of_expected hawaits hexpects, hreport⟩
    refine (Option.any_eq_true _ _).mpr ⟨(bind, failed || _), congrArg (Option.map _) hlast, ?_⟩
    exact (or_eq_true _ _).mpr (.inr hfailure)
  | rebound event binding st _ _ _ _ _ _ _ _ hsusp _ _ htraffic =>
    obtain hkept | hfailed := htraffic.outcome
    · exact recovers_of_open (congrArg Setup.pendingSocketGeneration hkept.setup)
        ((congrArg Setup.suspended hkept.setup).trans hsusp)
    · refine recovers_of_no_transport ?_
      rw [isInTransportState_iff, show (st.add _).runtime.lifecycle.state = _ from hfailed.state]
      rintro (h | h)
      · cases h
      · cases h
  | bound event binding peer st _ _ _ _ _ _ _ _ _ hsusp _ _ _ htraffic =>
    obtain hkept | hfailed := htraffic.outcome
    · exact recovers_of_open (congrArg Setup.pendingSocketGeneration hkept.setup)
        ((congrArg Setup.suspended hkept.setup).trans hsusp)
    · exact recovers_of_no_transport (herror hfailed)

/-- A peer with a transport over an available path has an open socket, or asked for one and was not
answered, or was told that the last one it asked for could not be opened. -/
theorem no_lost_recovery {run : Watched Requests}
    (h : (watchedWhere c .none Requests.record Requests.Answered).Reachable run)
    (htrans : run.peer.lifecycle.state = .handshaking ∨ run.peer.lifecycle.state = .active)
    (havail : run.peer.pathAvailability = .available)
    (hwait : run.peer.waitingForLocalPath = false) :
    (run.peer.binding.isOpen = true ∧ run.peer.binding.suspended = false) ∨
      (∃ bind, .openUdpBind bind ∈ run.seen.outstanding ∧ bind.purpose = .rebind ∧
        bind.socketGeneration = run.peer.pendingSocketGeneration) ∨
      run.seen.rebindFailed = true := by
  have hrecovers : Requests.Recovers run := by
    refine watchedWhere_invariant ?_ ?_ h
    · rintro s ⟨peerIndex, config, derived, now, hconf⟩
      refine recovers_of_no_transport ?_
      rw [isInTransportState_iff, configure_state hconf]
      rintro (h | h)
      · cases h
      · cases h
    · rintro run p event after batch - hactivated - - hrun hhandle
      obtain ⟨st, timers, intent, hst, rfl, -, hbatch⟩ := handle_filter hhandle
      have hafter := (handleEvent_turn hst).recovers hactivated hrun
      unfold Requests.record
      rw [hbatch isRequest fun _ => isRequest_of_isTimer]
      exact ⟨hafter.pending, hafter.suspended⟩
  have htrans' := (isInTransportState_iff run.peer).mpr htrans
  by_cases hsusp : run.peer.binding.suspended = true
  · obtain hpend | hfailed :=
      hrecovers.suspended htrans' hsusp havail hwait
    · obtain ⟨bind, -, hmem, -, hexpects⟩ := hrecovers.pending htrans' hpend
      unfold expectsBind at hexpects
      simp only [and_eq_true, decide_eq_true_eq] at hexpects
      have hpurpose := ((watchedWhere_activated h).transport htrans').2.2 hpend
      exact .inr (.inl ⟨bind, hmem, hexpects.2.trans hpurpose, hexpects.1.2⟩)
    · exact .inr (.inr hfailed)
  · rw [not_eq_true] at hsusp
    exact .inl ⟨(watchedWhere_sound h).transport_open htrans' hsusp, hsusp⟩

/-- The sample peer loses its path and gains it again. -/
theorem no_lost_recovery_sample :
    ∃ run, (watchedWhere .transparent .none Requests.record Requests.Answered).Reachable run ∧
      run.peer.binding.isOpen = false ∧
      ((run.peer.binding.isOpen = true ∧ run.peer.binding.suspended = false) ∨
        (∃ bind, .openUdpBind bind ∈ run.seen.outstanding ∧ bind.purpose = .rebind ∧
          bind.socketGeneration = run.peer.pendingSocketGeneration) ∨
        run.seen.rebindFailed = true) := by
  have hrun : (sampleWatched .none Requests.record Requests.Answered
      (sampleActivation (seconds 10) ++
        [(.constant (seconds 11) 8, .networkPathAvailabilityChanged
            ⟨sampleIdentity, 1, .unavailable, seconds 11⟩),
          (.constant (seconds 13) 8, .networkPathAvailabilityChanged
            ⟨sampleIdentity, 1, .available, seconds 13⟩)])).map (fun run =>
        (run.peer.lifecycle.state, run.peer.pathAvailability, run.peer.waitingForLocalPath,
          run.peer.binding.isOpen)) = some (.handshaking, .available, false, false) := by
    decide +kernel
  obtain ⟨run, hrun, hfacts⟩ := Option.map_eq_some_iff.mp hrun
  simp only [Prod.mk.injEq] at hfacts
  have hreach := sampleWatched_reachable hrun
  exact ⟨run, hreach, hfacts.2.2.2,
    no_lost_recovery hreach (.inl hfacts.1) hfacts.2.1 hfacts.2.2.1⟩

end Recovery

end WireguardNx.Runtime
