import WireguardNx.Platform.Work
import WireguardNx.Wireguard.Timers

/-!
# The dispatcher

`HorizonDispatcher` has five queues, and with `TimerScheduler` twelve pieces of work that go onto
them (`runtime/horizon_dispatcher.cpp`, `runtime/timer_scheduler.cpp`).
-/

namespace WireguardNx.Runtime

open Wireguard WireguardNx.Platform

inductive DispatcherWorkLane where
  | resolve
  | submission
  | transmit
  | receive
  | timer
  deriving DecidableEq, Repr

/-- The work of the dispatcher and of the timer scheduler. -/
inductive WorkItem where
  | resolve
  | debugSubmission
  | innerSubmission
  | userspaceIpAdapter
  | transmit
  | receive
  | protocolTimer (hook : TimerHook)
  | debugTimeout
  deriving DecidableEq, Repr

/-- The queue that a piece of work is placed on. -/
def WorkItem.lane : WorkItem → DispatcherWorkLane
  | .resolve => .resolve
  | .debugSubmission | .innerSubmission | .userspaceIpAdapter => .submission
  | .transmit => .transmit
  | .receive => .receive
  | .protocolTimer _ | .debugTimeout => .timer

/-- `ResolveWorkSlots`, `SubmissionWorkSlots`, `TransmitWorkSlots`, `ReceiveWorkSlots` and
`TimerWorkSlots`. -/
def workSlots : DispatcherWorkLane → Nat
  | .resolve => 1
  | .submission => 2
  | .transmit => 1
  | .receive => 1
  | .timer => 6

/-- `HorizonDispatcher` and the work of `TimerScheduler`. -/
abbrev HorizonDispatcher := Works DispatcherWorkLane WorkItem

namespace HorizonDispatcher

/-- `Initialize`. -/
def initial : HorizonDispatcher := ⟨fun lane => .alloc (workSlots lane), fun _ => .init⟩

variable (dispatcher : HorizonDispatcher)

/-- `Queue`, for work that has one lane each. -/
def queue (item : WorkItem) : QueueWorkResult × HorizonDispatcher :=
  dispatcher.queueWork item.lane item

def queueResolve : HorizonDispatcher :=
  (queue dispatcher .resolve).2

def queueDebugPayloadSubmission : HorizonDispatcher :=
  (queue dispatcher .debugSubmission).2

def queueInnerPacketSubmission : HorizonDispatcher :=
  (queue dispatcher .innerSubmission).2

def queueUserspaceIpAdapter : QueueWorkResult × HorizonDispatcher :=
  queue dispatcher .userspaceIpAdapter

/-- `QueuePendingDatagramTransmit`; the sysmodule aborts when the work is rejected. -/
def queuePendingDatagramTransmit : Option HorizonDispatcher :=
  match queue dispatcher .transmit with
  | (.capacityExhausted, _) | (.unavailable, _) => none
  | (_, dispatcher) => some dispatcher

def queueReceive : HorizonDispatcher :=
  (queue dispatcher .receive).2

/-- `QueueTimerWork`, for the work of a protocol timer or of the debug timeout. -/
def queueTimerWork (hook : Option TimerHook) : HorizonDispatcher :=
  (queue dispatcher (hook.elim .debugTimeout .protocolTimer)).2

/-- Whether `FlushSubmissionWork` returns. -/
def isSubmissionFlushed : Bool :=
  dispatcher.isFlushed .submission

/-- What happens to the queues: some thread asks for work, the thread of a lane takes the next work,
or a callback of a lane returns. -/
inductive Action where
  | queue (item : WorkItem)
  | dequeue (lane : DispatcherWorkLane)
  | complete (lane : DispatcherWorkLane)
  deriving DecidableEq

/-- The queues after an action; nothing when a thread has no work, or runs no callback. -/
def step : Action → Option HorizonDispatcher
  | .queue item => some (queue dispatcher item).2
  | .dequeue lane => dispatcher.beginWork lane
  | .complete lane => dispatcher.endWork lane

end HorizonDispatcher

end WireguardNx.Runtime
