import WireguardNx.Lib.Machine
import WireguardNx.Runtime.AdapterOwner

/-!
# Control requests of the adapter

Configurations and resets of the adapter are kept as flags, of which a reset is served first, and a
configuration that seems to be in place already is not requested again.  What the flags and the
operation of the worker will leave the adapter as is the last request, as long as no configuration
is served that waited when a reset was requested, unless another took its place since, and none is
taken to be in place while the worker is resetting the adapter.  `Initialize` is assumed to succeed.
-/

namespace WireguardNx.Runtime

open Wireguard Tunnel Ip

/-- The address and the MTU the adapter is configured with. -/
def UserspaceIpAdapter.configuredAs (adapter : UserspaceIpAdapter) :
    Option (Ipv4Address × UInt16) :=
  if adapter.netifAdded then some (adapter.localAddress, adapter.mtu) else none

namespace UserspaceIpAdapterOwner

open UserspaceIpAdapter

/-- The owner and its worker: the operation it has taken, and the result once that was executed.
`last` is history: what the last request of a configuration or a reset asked for. -/
structure ControlRun where
  owner : UserspaceIpAdapterOwner
  taken : Option (Operation × Option UserspaceIpResult)
  last : Option (Ipv4Address × UInt16)

/-- A request, or a step of the worker. -/
inductive ControlAction where
  | configure (localAddress : Ipv4Address) (mtu : UInt16)
  | reset
  | runTimeouts
  | take
  | execute (lwip : Lwip)
  | complete

namespace ControlRun

variable {s : ControlRun} {operation : Operation} {lwip : Lwip}

/-- The operation the worker has not completed. -/
def serving (s : ControlRun) : Option Operation := s.taken.map Prod.fst

/-- One request or step. -/
def step (s : ControlRun) : ControlAction → Option ControlRun
  | .configure localAddress mtu =>
    some { s with owner := s.owner.queueConfigure localAddress mtu, last := some (localAddress, mtu) }
  | .reset => some { s with owner := s.owner.queueReset, last := none }
  | .runTimeouts => some { s with owner := s.owner.queueRunTimeouts }
  | .take =>
    match s.taken with
    | none => s.owner.takeNext.map fun (operation, owner) =>
      { s with owner, taken := some (operation, none) }
    | some _ => none
  | .execute lwip =>
    match s.taken with
    | some (operation, none) =>
      let (result, owner) := s.owner.execute operation lwip
      some { s with owner, taken := some (operation, some result) }
    | _ => none
  | .complete =>
    match s.taken with
    | some (operation, some result) =>
      some { s with owner := s.owner.complete operation result, taken := none }
    | _ => none

/-- `Initialize` succeeds. -/
def initializes (s : ControlRun) : ControlAction → Bool
  | .execute lwip => s.serving.all fun operation =>
      decide (operation.kind = .configure → (s.owner.execute operation lwip).1 = .success)
  | _ => true

/-- No configuration is served after a reset that was requested last, and the one requested does not
seem to be in place while the worker resets the adapter. -/
def inOrder (s : ControlRun) : ControlAction → Bool
  | .take => s.last.isSome || s.owner.resetPending || !s.owner.configurationPending
  | .configure localAddress mtu =>
    !(s.serving.any (fun operation => operation.kind = .reset) && s.owner.configurationActive &&
      !s.owner.resetPending && !s.owner.configurationPending &&
      decide (s.owner.localAddress = localAddress) && decide (s.owner.mtu = mtu))
  | _ => true

/-- The runs of a new owner all of whose steps are `allowed`. -/
def controlRuns (allowed : ControlRun → ControlAction → Bool) : Machine ControlRun :=
  Machine.ofActions (· = ⟨.initial, none, none⟩)
    (fun s action => s.initializes action = true ∧ allowed s action = true) step

/-- What an operation leaves the adapter as. -/
def leaves (operation : Operation) (adapter : UserspaceIpAdapter) :
    Option (Ipv4Address × UInt16) :=
  match operation.kind with
  | .configure => some (operation.localAddress, operation.mtu)
  | .reset => none
  | _ => configuredAs adapter

/-- What the adapter will be configured as once the worker has drained. -/
def outcome (s : ControlRun) : Option (Ipv4Address × UInt16) :=
  if s.owner.configurationPending then some (s.owner.localAddress, s.owner.mtu)
  else if s.owner.resetPending then none
  else match s.serving with
    | none => configuredAs s.owner.adapter
    | some operation => leaves operation s.owner.adapter

/-- The flags and the worker lead to the last request, or a reset was requested last over a
configuration that waits. -/
structure Ordered (s : ControlRun) : Prop where
  last : s.last = s.outcome ∨ s.last = none ∧ s.owner.configurationPending = true
  slot : s.owner.slot.pending = false
  control : ∀ operation ∈ s.serving, operation.ticket = 0 ∧
    (operation.kind = .configure ∨ operation.kind = .reset ∨ operation.kind = .runTimeouts)
  target : ∀ operation ∈ s.serving, operation.kind = .configure →
    s.owner.configurationPending = false →
      operation.localAddress = s.owner.localAddress ∧ operation.mtu = s.owner.mtu
  executed : ∀ operation result, s.taken = some (operation, some result) →
    configuredAs s.owner.adapter = leaves operation s.owner.adapter ∧
      (operation.kind = .configure → result = .success)
  active : s.owner.configurationPending = false → s.owner.resetPending = false →
    (∀ operation ∈ s.serving, operation.kind = .runTimeouts) →
    configuredAs s.owner.adapter =
      if s.owner.configurationActive then some (s.owner.localAddress, s.owner.mtu) else none

theorem Ordered.configure (h : s.Ordered) {localAddress : Ipv4Address} {mtu : UInt16}
    (horder : s.inOrder (.configure localAddress mtu)) :
    Ordered { s with
      owner := s.owner.queueConfigure localAddress mtu, last := some (localAddress, mtu) } := by
  unfold queueConfigure
  split
  · rename_i hinPlace
    obtain ⟨hactive, hreset, hpend, rfl, rfl⟩ := hinPlace
    refine ⟨.inl ?_, h.slot, h.control, h.target, h.executed, h.active⟩
    -- the configuration is in place, or the worker is about to put it there
    have hinPlace := h.active hpend hreset
    simp only [hactive, if_true] at hinPlace
    change _ = s.outcome
    simp only [outcome, hpend, hreset, Bool.false_eq_true, if_false]
    cases hoperation : s.serving with
    | none => exact (hinPlace (by simp [hoperation])).symm
    | some operation =>
      obtain ⟨-, hkind | hkind | hkind⟩ := h.control operation hoperation
      · obtain ⟨haddress, hmtu⟩ := h.target operation hoperation hkind hpend
        simp only [leaves, hkind, haddress, hmtu]
      · simp [inOrder, hoperation, hkind, hactive, hreset, hpend] at horder
      · simp only [leaves, hkind]
        exact (hinPlace (by simpa [hoperation] using hkind)).symm
  · exact ⟨.inl (by simp [outcome]), h.slot, h.control, nofun, h.executed, nofun⟩

theorem Ordered.reset (h : s.Ordered) :
    Ordered { s with owner := s.owner.queueReset, last := none } := by
  refine ⟨?_, h.slot, h.control, h.target, h.executed, nofun⟩
  by_cases hpend : s.owner.configurationPending
  · exact .inr ⟨rfl, hpend⟩
  · exact .inl (by simp [outcome, queueReset, hpend])

theorem Ordered.runTimeouts (h : s.Ordered) :
    Ordered { s with owner := s.owner.queueRunTimeouts } := by
  unfold queueRunTimeouts
  split
  · exact ⟨h.last, h.slot, h.control, h.target, h.executed, h.active⟩
  · exact h

theorem Ordered.take (h : s.Ordered) (horder : s.inOrder .take) (hidle : s.taken = none)
    {owner : UserspaceIpAdapterOwner} (htake : s.owner.takeNext = some (operation, owner)) :
    Ordered { s with owner, taken := some (operation, none) } := by
  have hlast := h.last
  have hactive := h.active
  simp only [outcome, serving, hidle] at hlast hactive
  simp only [inOrder, Bool.or_eq_true, Option.isSome_iff_ne_none] at horder
  unfold takeNext at htake
  simp only [h.slot, Bool.false_eq_true, if_false] at htake
  -- a reset, a configuration or the timers, in this order
  split at htake
  · cases htake
    refine ⟨?_, h.slot, ?_, ?_, ?_, ?_⟩ <;>
      simp_all [outcome, serving, leaves, Operation.of]
  split at htake
  · cases htake
    refine ⟨?_, h.slot, ?_, ?_, ?_, ?_⟩ <;>
      simp_all [outcome, serving, leaves, Operation.of]
  split at htake
  · cases htake
    refine ⟨?_, h.slot, ?_, ?_, ?_, ?_⟩ <;>
      simp_all [outcome, serving, leaves, Operation.of]
  · cases htake

/-- The operation does to the adapter what it stands for, and nothing else to the owner. -/
theorem execute_control {owner : UserspaceIpAdapterOwner}
    (hkind : operation.kind = .configure ∨ operation.kind = .reset ∨
      operation.kind = .runTimeouts)
    (hdone : operation.kind = .configure → (owner.execute operation lwip).1 = .success) :
    ∃ adapter, (owner.execute operation lwip).2 = { owner with adapter } ∧
      configuredAs adapter = leaves operation owner.adapter := by
  obtain hkind | hkind | hkind := hkind
  · have hsuccess := hdone hkind
    simp only [execute, hkind] at hsuccess ⊢
    refine ⟨_, rfl, ?_⟩
    unfold initializeWith at hsuccess ⊢
    split at hsuccess
    · cases hsuccess
    rename_i hvalid
    split at hsuccess
    · cases hsuccess
    rename_i hnetif
    simp [if_neg hvalid, if_neg hnetif, configuredAs, leaves, hkind]
  · exact ⟨owner.adapter.reset, by simp [execute, hkind],
      by simp [configuredAs, UserspaceIpAdapter.reset, leaves, hkind]⟩
  · exact ⟨owner.adapter, by simp [execute, hkind], by simp [leaves, hkind]⟩

theorem Ordered.execute (h : s.Ordered) (htaken : s.taken = some (operation, none))
    (hdone : operation.kind = .configure → (s.owner.execute operation lwip).1 = .success) :
    Ordered { s with
      owner := (s.owner.execute operation lwip).2
      taken := some (operation, some (s.owner.execute operation lwip).1) } := by
  have hoperation : s.serving = some operation := by simp [serving, htaken]
  have hkind := (h.control operation hoperation).2
  obtain ⟨adapter, howner, hadapter⟩ := execute_control hkind hdone
  have hlast := h.last
  have htarget := h.target
  have hactive := h.active
  have hcontrol := h.control
  simp only [outcome, hoperation] at hlast htarget hactive hcontrol
  rw [howner]
  have hleaves : leaves operation adapter = leaves operation s.owner.adapter := by
    obtain hkind | hkind | hkind := hkind <;> simp_all [leaves]
  refine ⟨?_, h.slot, hcontrol, htarget, ?_, fun hpend hreset htimeouts => ?_⟩
  · simpa only [outcome, serving, Option.map_some, hleaves] using hlast
  · rintro _ _ hexecuted
    cases hexecuted
    exact ⟨hadapter.trans hleaves.symm, hdone⟩
  · have hsame : configuredAs adapter = configuredAs s.owner.adapter := by
      simpa [leaves, htimeouts operation rfl] using hadapter
    rw [hsame]
    exact hactive hpend hreset htimeouts

theorem Ordered.complete (h : s.Ordered) {result : UserspaceIpResult}
    (htaken : s.taken = some (operation, some result)) :
    Ordered { s with owner := s.owner.complete operation result, taken := none } := by
  have hoperation : s.serving = some operation := by simp [serving, htaken]
  obtain ⟨hticket, hkind⟩ := h.control operation hoperation
  obtain ⟨hexecuted, hresult⟩ := h.executed operation result htaken
  have hlast := h.last
  have htarget := h.target operation hoperation
  have hactive := h.active
  simp only [outcome, hoperation] at hlast hactive
  unfold UserspaceIpAdapterOwner.complete
  obtain hkind | hkind | hkind := hkind <;>
    refine ⟨?_, ?_, nofun, nofun, nofun, ?_⟩ <;>
    simp_all [outcome, serving, leaves, h.slot]

private theorem controlRuns_ordered (hs : (controlRuns inOrder).Reachable s) : s.Ordered := by
  refine hs.invariant ?_ ?_
  · rintro s rfl
    exact ⟨.inl rfl, rfl, nofun, nofun, nofun, fun _ _ _ => rfl⟩
  · rintro s next - h ⟨action, ⟨hdone, horder⟩, hstep⟩
    cases action with
    | configure localAddress mtu => cases hstep; exact h.configure horder
    | reset => cases hstep; exact h.reset
    | runTimeouts => cases hstep; exact h.runTimeouts
    | take =>
      simp only [step] at hstep
      split at hstep
      · rename_i hidle
        obtain ⟨⟨operation, owner⟩, htake, rfl⟩ := Option.map_eq_some_iff.mp hstep
        exact h.take horder hidle htake
      · cases hstep
    | execute lwip =>
      simp only [step] at hstep
      split at hstep
      · rename_i operation htaken
        cases hstep
        refine h.execute htaken fun hkind => ?_
        simpa [initializes, serving, htaken, hkind] using hdone
      · cases hstep
    | complete =>
      simp only [step] at hstep
      split at hstep
      · rename_i htaken
        cases hstep
        exact h.complete htaken
      · cases hstep

/-- Once the worker has drained, the adapter is configured exactly as the last request of a
configuration or a reset asked for, and the owner says so. -/
theorem control_requests_in_order (s : ControlRun) (hs : (controlRuns inOrder).Reachable s)
    (hidle : s.taken = none) (hdrained : s.owner.takeNext = none) :
    configuredAs s.owner.adapter = s.last ∧ s.owner.configurationActive = s.last.isSome := by
  have h := controlRuns_ordered hs
  unfold takeNext at hdrained
  simp only at hdrained
  split at hdrained
  · cases hdrained
  rename_i hreset
  split at hdrained
  · cases hdrained
  rename_i hpend
  rw [Bool.not_eq_true] at hreset hpend
  have hlast := h.last
  simp only [outcome, hpend, hreset, hidle, serving, Option.map_none,
    Bool.false_eq_true, if_false, and_false, or_false] at hlast
  have hactive := h.active hpend hreset (by simp [hidle, serving])
  rw [hlast]
  refine ⟨rfl, ?_⟩
  rw [hactive]
  cases s.owner.configurationActive <;> rfl

/-- The steps of a worker that serves one operation, with an lwIP that has an interface. -/
def sampleServes : List ControlAction :=
  [.take, .execute ⟨true, true, true, true, .ok, [], [], false, false⟩, .complete]

/-- A new owner after some requests and steps. -/
def sampleControl (allowed : ControlRun → ControlAction → Bool) (actions : List ControlAction) :
    Option ControlRun :=
  Machine.runActions (fun s action => s.initializes action = true ∧ allowed s action = true) step
    actions ⟨.initial, none, none⟩

/-- A reset over a waiting configuration whose place another takes. -/
theorem control_requests_in_order_sample :
    ∃ s, (controlRuns inOrder).Reachable s ∧ s.taken = none ∧ s.owner.takeNext = none ∧
      s.last = some (Bytes.zero 4, 1500) ∧ configuredAs s.owner.adapter = s.last := by
  have hrun : (sampleControl inOrder ([.configure (Bytes.zero 4) 1420, .reset,
      .configure (Bytes.zero 4) 1500] ++ sampleServes ++ sampleServes)).map
        (fun s => (s.taken.isNone, s.owner.takeNext.isNone, s.last)) =
        some (true, true, some (Bytes.zero 4, 1500)) := by
    decide +kernel
  obtain ⟨s, hs, hfacts⟩ := Option.map_eq_some_iff.mp hrun
  simp only [Prod.mk.injEq, Option.isNone_iff_eq_none] at hfacts
  obtain ⟨hidle, hdrained, hlast⟩ := hfacts
  have hreach : (controlRuns inOrder).Reachable s := .of_runActions (.start rfl) hs
  exact ⟨s, hreach, hidle, hdrained, hlast, (control_requests_in_order s hreach hidle hdrained).1⟩

/-- A reset that is requested over a waiting configuration is served before it and undone by it. -/
theorem reset_undone :
    ∃ s, (controlRuns fun _ _ => true).Reachable s ∧ s.taken = none ∧ s.owner.takeNext = none ∧
      s.last = none ∧ (configuredAs s.owner.adapter).isSome = true := by
  have hrun : (sampleControl (fun _ _ => true) ([.configure (Bytes.zero 4) 1420, .reset] ++
      sampleServes ++ sampleServes)).map (fun s => (s.taken.isNone, s.owner.takeNext.isNone,
        s.last.isNone, (configuredAs s.owner.adapter).isSome)) = some (true, true, true, true) := by
    decide +kernel
  obtain ⟨s, hs, hfacts⟩ := Option.map_eq_some_iff.mp hrun
  simp only [Prod.mk.injEq, Option.isNone_iff_eq_none] at hfacts
  exact ⟨s, .of_runActions (.start rfl) hs, hfacts⟩

end ControlRun

end UserspaceIpAdapterOwner

end WireguardNx.Runtime
