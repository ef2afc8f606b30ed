import WireguardNx.Runtime.Handle

/-!
# The peers of the daemon

`PeerRegistry` owns the eight peer slots, says which of them are configured and which one is active,
and hands an event to the peer it names.  The queries of `RuntimeCoordinator` ask whether an identity
is still that of the active peer; the executor asks them under the state mutex before it acts on an
effect.
-/

namespace WireguardNx.Runtime

open Wireguard

/-- `IsValidPeerSelection`; `-1` selects no peer. -/
def isValidPeerSelection (peerIndex : Int) (peerCount : Nat) : Bool :=
  decide (-1 ≤ peerIndex) && decide (peerIndex < peerCount)

abbrev peerSlots : Nat := 8

structure PeerRegistry where
  slots : List PeerRuntime
  count : Nat
  activePeerIndex : Int
  autoStartPeerIndex : Int
  slots_length : slots.length = peerSlots
  count_le : count ≤ peerSlots
  active_valid : isValidPeerSelection activePeerIndex count = true
  autoStart_valid : isValidPeerSelection autoStartPeerIndex count = true

/-- `PeerRuntime::ClearConfiguration`, with the socket it releases. -/
def PeerRuntime.clearConfiguration (s : PeerRuntime) (now : Ktime) : SocketHandle × PeerRuntime :=
  let socket := s.binding.socket
  let s := { s with binding := s.binding.releaseSocket.clearEndpoint }.deactivate now
  (socket, { s with
    config := .empty, derived := ⟨.clear, .clear, false, false⟩, peerIndex := 0 })

namespace PeerRegistry

theorem noSelection_valid (count : Nat) : isValidPeerSelection (-1) count := by
  unfold isValidPeerSelection
  simp only [le_refl, decide_true, Bool.true_and, decide_eq_true_eq]
  omega

/-- A default-constructed registry. -/
def empty : PeerRegistry where
  slots := List.replicate peerSlots .empty
  count := 0
  activePeerIndex := -1
  autoStartPeerIndex := -1
  slots_length := List.length_replicate
  count_le := Nat.zero_le _
  active_valid := noSelection_valid 0
  autoStart_valid := noSelection_valid 0

/-! ## Configuration -/

/-- `ClearConfiguration`; `none` is the abort of a full batch. -/
def clearConfiguration (r : PeerRegistry) (now : Ktime) : Option (PeerRegistry × EffectBatch) :=
  let closes := (r.slots.take r.count).filterMap fun s =>
    if s.binding.socket ≠ invalidSocket then
      some (RuntimeEffect.closeUdpSocket 0 s.binding.socket)
    else none
  (EffectBatch.collect closes).map fun effects =>
    ({ slots := (r.slots.take r.count).map (fun s => (s.clearConfiguration now).2) ++
          r.slots.drop r.count
       count := 0
       activePeerIndex := -1
       autoStartPeerIndex := -1
       slots_length := by
         rw [List.length_append, List.length_map, ← List.length_append, List.take_append_drop]
         exact r.slots_length
       count_le := Nat.zero_le _
       active_valid := noSelection_valid 0
       autoStart_valid := noSelection_valid 0 }, effects)

/-- The loop of `Configure` over the slots from `index` on. -/
def configureSlots (now : Ktime) : Nat → List PeerConfigEntry → List PeerConfigDerivedInfo →
    List PeerRuntime → Option (List PeerRuntime)
  | index, config :: configs, derived :: deriveds, s :: slots =>
    match s.configure (UInt32.ofNat index) config derived now,
        configureSlots now (index + 1) configs deriveds slots with
    | some s, some slots => some (s :: slots)
    | _, _ => none
  | _, _, _, slots => some slots

theorem configureSlots_length {now : Ktime} {configs : List PeerConfigEntry}
    {deriveds : List PeerConfigDerivedInfo} {slots after : List PeerRuntime} {index : Nat}
    (h : configureSlots now index configs deriveds slots = some after) :
    after.length = slots.length := by
  fun_induction configureSlots now index configs deriveds slots generalizing after with
  | case1 index config configs derived deriveds s slots configured rest hslots hs ih =>
    cases h
    rw [List.length_cons, List.length_cons, ih hslots]
  | case2 => cases h
  | case3 => cases h; rfl

variable (r : PeerRegistry)

/-- `Configure`; `none` is an abort, and a refused configuration leaves the registry. -/
def configure (configs : List PeerConfigEntry) (deriveds : List PeerConfigDerivedInfo)
    (autoStart : Int) (now : Ktime) : Option (Bool × PeerRegistry) :=
  if hvalid : configs.length ≤ peerSlots ∧ deriveds.length = configs.length ∧
      isValidPeerSelection autoStart configs.length = true then
    match r.clearConfiguration now with
    | none => none
    | some (cleared, effects) =>
      if effects.effects ≠ [] then none
      else
        match hslots : configureSlots now 0 configs deriveds cleared.slots with
        | none => none
        | some slots => some (true,
            { slots
              count := configs.length
              activePeerIndex := -1
              autoStartPeerIndex := autoStart
              slots_length := (configureSlots_length hslots).trans cleared.slots_length
              count_le := hvalid.1
              active_valid := noSelection_valid _
              autoStart_valid := hvalid.2.2 })
  else some (false, r)

/-! ## Selection and dispatch -/

def isValidSelection (peerIndex : Int) : Bool :=
  isValidPeerSelection peerIndex r.count

/-- `SetActivePeerIndex`; `none` when it returns false. -/
def setActivePeerIndex (peerIndex : Int) : Option PeerRegistry :=
  if h : r.isValidSelection peerIndex = true then
    some { r with activePeerIndex := peerIndex, active_valid := h }
  else none

/-- `SetAutoStartPeerIndex`; `none` when it returns false. -/
def setAutoStartPeerIndex (peerIndex : Int) : Option PeerRegistry :=
  if h : r.isValidSelection peerIndex = true then
    some { r with autoStartPeerIndex := peerIndex, autoStart_valid := h }
  else none

def peerAt (peerIndex : UInt32) : Option PeerRuntime :=
  if peerIndex.toNat < r.count then r.slots[peerIndex.toNat]? else none

/-- A write to one slot. -/
def setPeer (peerIndex : UInt32) (s : PeerRuntime) : PeerRegistry :=
  { r with
    slots := r.slots.set peerIndex.toNat s
    slots_length := by rw [List.length_set]; exact r.slots_length }

/-- `Dispatch`; `none` is an abort of `Handle`. -/
def dispatch (c : Crypto) (p : Platform) (r : PeerRegistry) (event : PeerEvent) :
    Option (PeerRegistry × EffectBatch) :=
  match r.peerAt event.peerIndex with
  | none => some (r, .empty)
  | some s => (s.handle c p event).map fun handled =>
      (r.setPeer event.peerIndex handled.1, handled.2)

def clearStagedInnerPackets (r : PeerRegistry) (peerIndex : UInt32) : PeerRegistry :=
  match r.peerAt peerIndex with
  | none => r
  | some s => r.setPeer peerIndex s.clearStagedInnerPackets

def clearAllStagedInnerPackets : PeerRegistry :=
  { r with
    slots := (r.slots.take r.count).map PeerRuntime.clearStagedInnerPackets ++
      r.slots.drop r.count
    slots_length := by
      rw [List.length_append, List.length_map, ← List.length_append, List.take_append_drop]
      exact r.slots_length }

end PeerRegistry

end WireguardNx.Runtime
