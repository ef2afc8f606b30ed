import WireguardNx.Runtime.Registry

/-!
# Selecting the active peer

The part of `DaemonRuntime` that configures the peers and selects the active one.  What it does to
the tunnel flows, the userspace adapter, the debug probe and the packet channel adds no effect and
changes no peer, and is left out; the staged packets it clears are the peers'.
-/

namespace WireguardNx.Runtime

open Wireguard

/-- `DaemonState`. -/
structure Daemon where
  peers : PeerRegistry
  initialized : Bool

/-- The result of a command. -/
inductive CommandResult where
  | success
  | invalidArgument
  deriving DecidableEq, Repr

namespace Daemon

/-- A default-constructed daemon. -/
def empty : Daemon := ⟨.empty, false⟩

variable (c : Crypto) (p : Platform) (d : Daemon)

/-- `InitializeStateLocked` with the loaded configuration; `none` is an abort. -/
def initializeState (configs : List PeerConfigEntry) (deriveds : List PeerConfigDerivedInfo)
    (autoStart : Int) (now : Ktime) : Option Daemon :=
  if d.initialized then some d
  else if configs ≠ [] then
    match d.peers.configure configs deriveds autoStart now with
    | some (true, peers) => some ⟨peers, true⟩
    | _ => none
  else
    match d.peers.clearConfiguration now with
    | some (peers, effects) => if effects.effects ≠ [] then none else some ⟨peers, true⟩
    | none => none

/-- `SetPeerInactive`; `none` is an abort. -/
def setPeerInactive (peerIndex : UInt32) (now : Ktime) : Option (Daemon × EffectBatch) :=
  match d.peers.peerAt peerIndex with
  | none => none
  | some s =>
    let identity : PeerIdentity := ⟨peerIndex, s.lifecycle.activationGeneration⟩
    match d.peers.clearAllStagedInnerPackets.dispatch c p (.deactivationRequested ⟨identity, now⟩)
      with
    | none => none
    | some (peers, effects) =>
      (effects.add .cancelDebugProbeTimeout).map fun effects => ({ d with peers }, effects)

/-- The activation that ends `SetActivePeer`, after the effects of the old peer. -/
def activate (effects : EffectBatch) (peerIndex : Int) (now : Ktime) :
    Option (Daemon × EffectBatch) :=
  match d.peers.setActivePeerIndex peerIndex with
  | none => none
  | some peers =>
    if peerIndex < 0 then some ({ d with peers }, effects)
    else
      match peers.dispatch c p (.activationRequested ⟨UInt32.ofNat peerIndex.toNat, now⟩) with
      | none => none
      | some (peers, activation) =>
        (effects.append activation).map fun effects => ({ d with peers }, effects)

/-- `SetActivePeer`; `none` is an abort. -/
def setActivePeer (peerIndex : Int) (now : Ktime) : Option (CommandResult × Daemon × EffectBatch) :=
  if d.peers.isValidSelection peerIndex = false then some (.invalidArgument, d, .empty)
  else if peerIndex = d.peers.activePeerIndex then some (.success, d, .empty)
  else if 0 ≤ d.peers.activePeerIndex then
    match d.setPeerInactive c p (UInt32.ofNat d.peers.activePeerIndex.toNat) now with
    | none => none
    | some (d, effects) => (d.activate c p effects peerIndex now).map (.success, ·)
  else (d.activate c p .empty peerIndex now).map (.success, ·)

end Daemon

end WireguardNx.Runtime
