import WireguardNx.Runtime.Registry

/-!
# The auto-start selection and its file

`SetAutoStartPeer` numbers a request under the state mutex, writes the name of the peer to a file
under a mutex of its own, and commits the selection under the state mutex again.  A request that a
later one has superseded is dropped before the write and again before the commit, and its call
answers success all the same.  Any number of calls are on their way at once; a call is known here by
its number in the order of the requests, and a write to the file either replaces it or fails and
leaves it.
-/

namespace WireguardNx.Runtime

/-- `sizeof(PeerInfo::name)`. -/
abbrev peerNameSize : Nat := 64

/-- The name of a configured peer: the stem of its file name, which the loader accepts when it is
not empty and fits the field with its terminator. -/
abbrev PeerName := { name : List Char // name ≠ [] ∧ name.length < peerNameSize }

structure AutoStartPersistenceRequest where
  generation : UInt32
  peerIndex : Int
  peerName : List Char
  deriving DecidableEq

/-- How far a call has come: it has its request; it has found it current and holds the persistence
mutex; it has written the file. -/
inductive AutoStartPhase where
  | requested
  | checked
  | stored
  deriving DecidableEq, Repr

/-- A call of `SetAutoStartPeer` on its way. -/
structure AutoStartCall where
  request : AutoStartPersistenceRequest
  phase : AutoStartPhase
  deriving DecidableEq

/-- A call that has returned, with its number. -/
structure AutoStartReturn where
  number : Nat
  peerIndex : Int
  succeeded : Bool
  deriving DecidableEq, Repr

/-- The part of `DaemonRuntime` that calls of `SetAutoStartPeer` share, with the file and the calls
on their way.  The last four fields are history: how many requests there were, which calls returned
what, the number of the last call whose selection was committed (zero for none), and the calls
numbered after it that have not returned an error. -/
structure AutoStartRuntime where
  names : List PeerName
  autoStartPeerIndex : Int
  file : Option (List Char)
  nextGeneration : UInt32
  currentGeneration : UInt32
  persistenceMutex : Option Nat
  calls : Nat → Option AutoStartCall
  numbered : Nat
  returned : List AutoStartReturn
  committed : Nat
  unsettled : List Nat

/-- The name a selection stands for. -/
def selectedName (names : List PeerName) (peerIndex : Int) : Option (List Char) :=
  if peerIndex < 0 then none else (names[peerIndex.toNat]?).map Subtype.val

/-- `StoreAutoStartPeerName` where no file operation fails: the file after it; `none` is the error
of a name that is too long. -/
def storeAutoStartPeerName (name : List Char) : Option (Option (List Char)) :=
  if name = [] then some none
  else if name.length < peerNameSize then some (some name)
  else none

namespace AutoStartRuntime

/-- A runtime without calls. -/
def initial (names : List PeerName) (autoStartPeerIndex : Int) (file : Option (List Char)) :
    AutoStartRuntime where
  names
  autoStartPeerIndex
  file
  nextGeneration := 1
  currentGeneration := 0
  persistenceMutex := none
  calls _ := none
  numbered := 0
  returned := []
  committed := 0
  unsettled := []

variable (s : AutoStartRuntime)

def isValidPeerIndex (peerIndex : Int) : Bool :=
  isValidPeerSelection peerIndex s.names.length

/-- `CaptureAutoStartPersistenceRequestLocked`, with `Begin`. -/
def captureAutoStartPersistenceRequest (peerIndex : Int) : Option AutoStartPersistenceRequest :=
  if s.isValidPeerIndex peerIndex = false then none
  else if peerIndex < 0 then some ⟨s.nextGeneration, peerIndex, []⟩
  else
    match s.names[peerIndex.toNat]? with
    | none => none
    | some name => some ⟨s.nextGeneration, peerIndex, name.val.take (peerNameSize - 1)⟩

/-- `IsCurrentAutoStartPersistenceRequestLocked`. -/
def isCurrentAutoStartPersistenceRequest (request : AutoStartPersistenceRequest) : Bool :=
  decide (request.generation = s.currentGeneration) && s.isValidPeerIndex request.peerIndex &&
    (decide (request.peerIndex < 0) ||
      decide ((s.names[request.peerIndex.toNat]?).map Subtype.val = some request.peerName))

/-- A call is on its way with a phase. -/
def setCall (k : Nat) (call : AutoStartCall) : AutoStartRuntime :=
  { s with calls := Function.update s.calls k (some call) }

/-- A call returns, and lets go of the persistence mutex if it holds it. -/
def finish (k : Nat) (peerIndex : Int) (succeeded : Bool) : AutoStartRuntime :=
  { s with
    persistenceMutex := if s.persistenceMutex = some k then none else s.persistenceMutex
    calls := Function.update s.calls k none
    returned := ⟨k, peerIndex, succeeded⟩ :: s.returned }

/-- The first critical section; an index that is not valid is refused and changes nothing. -/
def setAutoStartPeer (peerIndex : Int) : AutoStartRuntime :=
  match s.captureAutoStartPersistenceRequest peerIndex with
  | none => s
  | some request =>
    { s with
      nextGeneration := followingGeneration s.nextGeneration
      currentGeneration := request.generation
      numbered := s.numbered + 1
      unsettled := (s.numbered + 1) :: s.unsettled }.setCall (s.numbered + 1) ⟨request, .requested⟩

/-- The call takes the persistence mutex and looks whether its request is still current. -/
def check (k : Nat) (request : AutoStartPersistenceRequest) : AutoStartRuntime :=
  if s.isCurrentAutoStartPersistenceRequest request then
    { s with persistenceMutex := some k }.setCall k ⟨request, .checked⟩
  else s.finish k request.peerIndex true

/-- The call writes the file; `succeeds` says whether the file operations do. -/
def store (k : Nat) (request : AutoStartPersistenceRequest) (succeeds : Bool) : AutoStartRuntime :=
  let name := if request.peerIndex < 0 then [] else request.peerName
  match succeeds, storeAutoStartPeerName name with
  | true, some file => { s with file }.setCall k ⟨request, .stored⟩
  | _, _ => { s with unsettled := s.unsettled.erase k }.finish k request.peerIndex false

/-- The last critical section: the selection is committed if the request is still current.  Such a
request has a valid index, so that `SetAutoStartPeerIndex` does not refuse it. -/
def commit (k : Nat) (request : AutoStartPersistenceRequest) : AutoStartRuntime :=
  if s.isCurrentAutoStartPersistenceRequest request then
    { s with
      autoStartPeerIndex := request.peerIndex
      committed := k
      unsettled := [] }.finish k request.peerIndex true
  else s.finish k request.peerIndex true

/-- A new call, or the next step of the call with a number. -/
inductive Action where
  | setAutoStartPeer (peerIndex : Int)
  | check (k : Nat)
  | store (k : Nat) (succeeds : Bool)
  | commit (k : Nat)
  deriving DecidableEq

/-- One step of one call; `none` where the call is not there or has to wait for the mutex. -/
def step : Action → Option AutoStartRuntime
  | .setAutoStartPeer peerIndex => some (s.setAutoStartPeer peerIndex)
  | .check k =>
    match s.calls k, s.persistenceMutex with
    | some ⟨request, .requested⟩, none => some (s.check k request)
    | _, _ => none
  | .store k succeeds =>
    match s.calls k with
    | some ⟨request, .checked⟩ => some (s.store k request succeeds)
    | _ => none
  | .commit k =>
    match s.calls k with
    | some ⟨request, .stored⟩ => some (s.commit k request)
    | _ => none

/-- The file holds the name of the selected peer, or is absent when none is selected. -/
def Agrees : Prop := s.file = selectedName s.names s.autoStartPeerIndex

end AutoStartRuntime

end WireguardNx.Runtime
