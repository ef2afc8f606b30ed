import WireguardNx.Wireguard.Primitives
import Mathlib.Logic.Function.Basic

/-!
# Protocol timers

Two records say which timers run.  `WgTimers` is the protocol's own intent; `TimerCoordinator`
hands out the tokens by which the runtime tells a live expiry from a stale one.
-/

namespace WireguardNx.Wireguard

inductive TimerHook where
  | retransmitHandshake
  | sendKeepalive
  | newHandshake
  | zeroKeyMaterial
  | persistentKeepalive
  deriving DecidableEq, Repr

/-- Deadlines in milliseconds. -/
abbrev TimerDeadline := Int

/-- `wg_timer_hook_state`. -/
structure WgTimerHookState where
  pending : Bool
  deadline : TimerDeadline
  deriving DecidableEq, Repr

/-- `wg_timers`; `GetHookState` is application of `hooks`. -/
structure WgTimers where
  hooks : TimerHook → WgTimerHookState
  needAnotherKeepalive : Bool

namespace WgTimers

/-- `wg_timers_init`. -/
def init : WgTimers := ⟨fun _ => ⟨false, 0⟩, false⟩

/-- `wg_timers_schedule`. -/
def schedule (timers : WgTimers) (hook : TimerHook) (deadline : TimerDeadline) : WgTimers :=
  { timers with hooks := Function.update timers.hooks hook ⟨true, deadline⟩ }

/-- `wg_timers_cancel`. -/
def cancel (timers : WgTimers) (hook : TimerHook) : WgTimers :=
  if (timers.hooks hook).pending then
    { timers with hooks := Function.update timers.hooks hook ⟨false, 0⟩ }
  else timers

end WgTimers

structure TimerOwner where
  peerIndex : UInt32
  activationGeneration : UInt32
  protocolSequence : UInt32
  deriving DecidableEq, Repr

structure TimerToken where
  hook : TimerHook
  owner : TimerOwner
  generation : UInt32
  deriving DecidableEq, Repr

/-- The default token, which `IsValid` rejects. -/
def TimerToken.empty : TimerToken := ⟨.retransmitHandshake, ⟨0, 0, 0⟩, 0⟩

structure HookState where
  token : TimerToken
  armed : Bool
  deriving DecidableEq, Repr

/-- A value-initialised hook state. -/
def HookState.empty : HookState := ⟨.empty, false⟩

structure TimerCoordinator where
  hooks : TimerHook → HookState
  nextGeneration : UInt32

namespace TimerCoordinator

/-- A value-initialised coordinator. -/
def empty : TimerCoordinator := ⟨fun _ => .empty, 1⟩

/-- `NextGeneration`: the generation handed out and the counter after it.  The counter skips zero,
and a zero counter is passed over by the recursive call. -/
def takeGeneration (next : UInt32) : UInt32 × UInt32 :=
  if next = 0 then (1, 2) else (next, if next + 1 = 0 then 1 else next + 1)

variable (timers : TimerCoordinator)

def arm (hook : TimerHook) (owner : TimerOwner) : TimerToken × TimerCoordinator :=
  let (generation, next) := takeGeneration timers.nextGeneration
  let token : TimerToken := ⟨hook, owner, generation⟩
  (token, { hooks := Function.update timers.hooks hook ⟨token, true⟩, nextGeneration := next })

/-- `Cancel`: the token that was armed, or the empty one. -/
def cancel (hook : TimerHook) : TimerToken × TimerCoordinator :=
  let state := timers.hooks hook
  (if state.armed then state.token else .empty,
    { hooks := Function.update timers.hooks hook .empty
      nextGeneration := (takeGeneration timers.nextGeneration).2 })

def cancelAll : TimerCoordinator :=
  { hooks := fun _ => .empty, nextGeneration := (takeGeneration timers.nextGeneration).2 }

def isCurrent (token : TimerToken) (currentOwner : TimerOwner) : Bool :=
  decide (token.generation ≠ 0) && decide (token.owner = currentOwner) &&
    (timers.hooks token.hook).armed && decide ((timers.hooks token.hook).token = token)

def isArmed (hook : TimerHook) : Bool := (timers.hooks hook).armed

end TimerCoordinator

/-! ## Delays -/

/-- `GetHandshakeRetryDelay`, in milliseconds. -/
def getHandshakeRetryDelay (jitterMs : UInt32) :
    TimerDeadline := 5000 + (jitterMs.toNat % 334 : Nat)

/-- `KeepaliveTimeout`, in milliseconds. -/
def keepaliveTimeout : TimerDeadline := 10000

/-- `ZeroKeyMaterialAfterTime`, in milliseconds. -/
def zeroKeyMaterialAfterTime : TimerDeadline := 540000

end WireguardNx.Wireguard
