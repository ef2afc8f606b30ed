import Mathlib.Logic.Function.Basic

/-!
# Ordered work queues

`platform/horizon/work.cpp`: a queue is served by one thread, which takes the work at its head, runs
its callback without the queue's lock and then looks whether it was requested again.  Work and queues
are named by the values of two types, as the source names them by pointers; `head`, `tail` and the
links are a list, and `work` is the variable of the thread that runs a callback.
-/

namespace WireguardNx.Platform

/-- `queue_work_result`. -/
inductive QueueWorkResult where
  | queued
  | rerunQueued
  | alreadyPending
  | capacityExhausted
  | unavailable
  deriving DecidableEq, Repr

/-- `classify_queue_work_request`. -/
def classifyQueueWorkRequest (available alreadyPending running : Bool) (pending capacity : Nat) :
    QueueWorkResult :=
  if available = false ∨ capacity = 0 then .unavailable
  else if alreadyPending then .alreadyPending
  else if capacity ≤ pending then .capacityExhausted
  else if running then .rerunQueued else .queued

structure WorkInternal (Λ : Type) where
  owner : Option Λ
  queued : Bool
  running : Bool
  rerun : Bool
  deriving DecidableEq

/-- What `INIT_WORK` leaves. -/
def WorkInternal.init {Λ : Type} : WorkInternal Λ := ⟨none, false, false, false⟩

/-- `workqueue_struct`. -/
structure Workqueue (ι : Type) where
  works : List ι
  pendingCount : Nat
  pendingCapacity : Nat
  activeCount : Nat
  stopping : Bool
  work : Option ι
  deriving DecidableEq

/-- What `alloc_ordered_workqueue` leaves. -/
def Workqueue.alloc {ι : Type} (pendingCapacity : Nat) : Workqueue ι :=
  ⟨[], 0, pendingCapacity, 0, false, none⟩

/-- Queues and the work that is placed on them. -/
structure Works (Λ ι : Type) where
  queues : Λ → Workqueue ι
  works : ι → WorkInternal Λ

namespace Works

variable {Λ ι : Type} [DecidableEq Λ] [DecidableEq ι]

variable (w : Works Λ ι) (wq : Λ)

def enqueueWorkLocked (work : ι) (reserveCapacity : Bool) : Works Λ ι where
  queues := Function.update w.queues wq { w.queues wq with
    works := (w.queues wq).works ++ [work]
    pendingCount := (w.queues wq).pendingCount + reserveCapacity.toNat }
  works := Function.update w.works work { w.works work with queued := true, owner := some wq }

/-- `DequeueWorkLocked`, by the thread that serves the queue, which runs the work then. -/
def dequeueWorkLocked : Option (Works Λ ι) :=
  match (w.queues wq).works with
  | [] => none
  | work :: rest => some {
      queues := Function.update w.queues wq { w.queues wq with
        works := rest
        pendingCount := (w.queues wq).pendingCount - 1
        activeCount := (w.queues wq).activeCount + 1
        work := some work }
      works := Function.update w.works work { w.works work with queued := false, running := true } }

/-- `WorkqueueThreadMain` up to the callback; nothing when it waits or is in a callback. -/
def beginWork : Option (Works Λ ι) :=
  match (w.queues wq).work with
  | some _ => none
  | none => w.dequeueWorkLocked wq

/-- A queue and its work once a callback has returned, before the work is looked at again. -/
def endCallback (work : ι) : Works Λ ι where
  queues := Function.update w.queues wq { w.queues wq with
    activeCount := (w.queues wq).activeCount - 1
    work := none }
  works := Function.update w.works work { w.works work with running := false }

/-- `WorkqueueThreadMain` after the callback. -/
def endWork : Option (Works Λ ι) :=
  match (w.queues wq).work with
  | none => none
  | some work =>
    let ended := w.endCallback wq work
    some (if (w.works work).rerun = true ∧ (w.queues wq).stopping = false then
      { ended with
        works := Function.update ended.works work { ended.works work with rerun := false }
      }.enqueueWorkLocked wq work false
    else ended)

/-- What `queue_work` answers. -/
def queueWorkResult (work : ι) : QueueWorkResult :=
  classifyQueueWorkRequest
    (!(w.queues wq).stopping &&
      (decide ((w.works work).owner = none) || decide ((w.works work).owner = some wq)))
    ((w.works work).queued || (w.works work).rerun) (w.works work).running
    (w.queues wq).pendingCount (w.queues wq).pendingCapacity

/-- `queue_work`. -/
def queueWork (work : ι) : QueueWorkResult × Works Λ ι :=
  let result := w.queueWorkResult wq work
  (result, match result with
    | .queued => w.enqueueWorkLocked wq work true
    | .rerunQueued => {
        queues := Function.update w.queues wq { w.queues wq with
          pendingCount := (w.queues wq).pendingCount + 1 }
        works := Function.update w.works work { w.works work with rerun := true } }
    | .alreadyPending | .capacityExhausted | .unavailable => w)

/-- Whether `flush_workqueue` returns. -/
def isFlushed : Bool :=
  (w.queues wq).works.isEmpty && decide ((w.queues wq).activeCount = 0)

end Works

end WireguardNx.Platform
