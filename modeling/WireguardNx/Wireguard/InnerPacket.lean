import WireguardNx.Wireguard.Primitives
import Mathlib.Logic.Function.Basic

/-!
# Inner packets: validation and the bounded queue

The inner IP validation of `inner_packet.cpp` and `InnerPacketQueue`, a ring of a fixed number of
records with per-disposition statistics.  The queue carries the bounds of its two cursors, so a
cursor outside the array cannot be written down.

`retired` is history: every record that left the queue and the disposition it left with, oldest
first.  No function of the model reads it.
-/

namespace WireguardNx.Wireguard

/-! ## Validation -/

inductive InnerIpVersion where
  | unknown
  | ipv4
  | ipv6
  deriving DecidableEq, Repr

/-- `InnerIpValidationError`, without the success value. -/
inductive InnerIpValidationError where
  | tooShort
  | tooLarge
  | invalidVersion
  | invalidHeaderLength
  | lengthMismatch
  | invalidHeaderChecksum
  | invalidPadding
  deriving DecidableEq, Repr

def minimumIpv4HeaderSize : Nat := 20
def ipv6HeaderSize : Nat := 40
def maximumPaddingSize : Nat := 15

/-- The version nibble of a packet's first byte. -/
def innerIpVersion (firstByte : UInt8) : InnerIpVersion :=
  if firstByte >>> 4 = 4 then .ipv4 else if firstByte >>> 4 = 6 then .ipv6 else .unknown

/-- The summing loop of `HasValidInternetChecksum`, over big-endian words. -/
def internetChecksumSum : List UInt8 → Nat
  | [] => 0
  | [high] => high.toNat * 256
  | high :: low :: rest => high.toNat * 256 + low.toNat + internetChecksumSum rest

/-- The folding loop of `HasValidInternetChecksum`; the sum of a header folds in two rounds. -/
def foldChecksum : Nat → Nat → Nat
  | 0, sum => sum
  | fuel + 1, sum =>
    if sum >>> 16 = 0 then sum else foldChecksum fuel ((sum &&& 0xFFFF) + (sum >>> 16))

def hasValidInternetChecksum (bytes : List UInt8) : Bool :=
  foldChecksum 4 (internetChecksumSum bytes) == 0xFFFF

def validateInnerIpv4Packet (packet : List UInt8) : Except InnerIpValidationError Unit :=
  if packet.length < minimumIpv4HeaderSize then .error .tooShort
  else if maxInnerIpPacketSize < packet.length then .error .tooLarge
  else if packet.headD 0 >>> 4 ≠ 4 then .error .invalidVersion
  else
    let headerSize := (packet.headD 0 &&& 0x0F).toNat * 4
    if headerSize < minimumIpv4HeaderSize ∨ packet.length < headerSize then
      .error .invalidHeaderLength
    else if loadBigEndian16 packet 2 ≠ packet.length then .error .lengthMismatch
    else if hasValidInternetChecksum (packet.take headerSize) = false then
      .error .invalidHeaderChecksum
    else .ok ()

def validateInnerIpv6Packet (packet : List UInt8) : Except InnerIpValidationError Unit :=
  if packet.length < ipv6HeaderSize then .error .tooShort
  else if maxInnerIpPacketSize < packet.length then .error .tooLarge
  else if packet.headD 0 >>> 4 ≠ 6 then .error .invalidVersion
  else if ipv6HeaderSize + loadBigEndian16 packet 4 ≠ packet.length then .error .lengthMismatch
  else .ok ()

/-- `ValidateInnerIpPacket`, with the version it reports. -/
def validateInnerIpPacket : List UInt8 → Except InnerIpValidationError InnerIpVersion
  | [] => .error .tooShort
  | first :: rest =>
    match innerIpVersion first with
    | .ipv4 => (validateInnerIpv4Packet (first :: rest)).map fun _ => .ipv4
    | .ipv6 => (validateInnerIpv6Packet (first :: rest)).map fun _ => .ipv6
    | .unknown => .error .invalidVersion

def getUnpaddedPacketSize : List UInt8 → Nat
  | [] => 0
  | first :: rest =>
    match innerIpVersion first with
    | .ipv4 => if 4 ≤ (first :: rest).length then loadBigEndian16 (first :: rest) 2 else 0
    | .ipv6 =>
      if ipv6HeaderSize ≤ (first :: rest).length then
        ipv6HeaderSize + loadBigEndian16 (first :: rest) 4
      else 0
    | .unknown => 0

/-- The least size of a payload whose first byte names the version. -/
def minimumHeaderSize : InnerIpVersion → Option Nat
  | .ipv4 => some minimumIpv4HeaderSize
  | .ipv6 => some ipv6HeaderSize
  | .unknown => none

/-- `ValidatePaddedInnerIpPacket`: the unpadded packet's size and version. -/
def validatePaddedInnerIpPacket (payload : List UInt8) :
    Except InnerIpValidationError (Nat × InnerIpVersion) :=
  match payload with
  | [] => .error .tooShort
  | first :: _ =>
    match minimumHeaderSize (innerIpVersion first) with
    | none => .error .invalidVersion
    | some minimum =>
      if payload.length < minimum then .error .tooShort
      else
        let packetSize := getUnpaddedPacketSize payload
        if packetSize = 0 then .error .lengthMismatch
        else if maxInnerIpPacketSize < packetSize then .error .tooLarge
        else if payload.length < packetSize then .error .lengthMismatch
        else if maximumPaddingSize < payload.length - packetSize then .error .invalidPadding
        else if (payload.drop packetSize).any (· ≠ 0) then .error .invalidPadding
        else (validateInnerIpPacket (payload.take packetSize)).map fun version =>
          (packetSize, version)

/-! ## Records and dispositions -/

/-- `InnerPacketRecord`; the array and its used size are one list. -/
structure InnerPacketRecord where
  bytes : List UInt8
  packetId : UInt64
  activationGeneration : UInt32
  peerIndex : UInt32
  deriving DecidableEq, Repr

/-- A value-initialised record. -/
def InnerPacketRecord.empty : InnerPacketRecord := ⟨[], 0, 0, 0⟩

inductive QueuePushResult where
  | pushed
  | full
  deriving DecidableEq, Repr

inductive QueueDisposition where
  | delivered
  | sent
  | stale
  | unavailable
  | sendFailed
  | retryExhausted
  | cleared
  deriving DecidableEq, Repr

/-- `QueueStatistics`, with the seven disposition counters as one function. -/
structure QueueStatistics where
  pushed : UInt64
  popped : UInt64
  rejectedFull : UInt64
  dispositions : QueueDisposition → UInt64
  highWatermark : Nat

/-- Value-initialised statistics. -/
def QueueStatistics.empty : QueueStatistics := ⟨0, 0, 0, fun _ => 0, 0⟩

/-! ## The queue -/

/-- `InnerPacketQueue<Capacity>`. -/
structure InnerPacketQueue (capacity : Nat) where
  records : Fin capacity → InnerPacketRecord
  head : Nat
  count : Nat
  statistics : QueueStatistics
  retired : List (InnerPacketRecord × QueueDisposition)
  head_lt : head < capacity
  count_le : count ≤ capacity

namespace InnerPacketQueue

variable {capacity : Nat}

/-- A value-initialised queue. -/
def empty (h : 0 < capacity) : InnerPacketQueue capacity where
  records := fun _ => .empty
  head := 0
  count := 0
  statistics := .empty
  retired := []
  head_lt := h
  count_le := Nat.zero_le _

theorem capacity_pos (queue : InnerPacketQueue capacity) : 0 < capacity :=
  Nat.lt_of_le_of_lt (Nat.zero_le _) queue.head_lt

variable (queue : InnerPacketQueue capacity)

/-- The slot `offset` places behind the head. -/
def slot (offset : Nat) : Fin capacity :=
  ⟨(queue.head + offset) % capacity, Nat.mod_lt _ queue.capacity_pos⟩

/-- The queue's contents, head first. -/
def toList : List InnerPacketRecord :=
  (List.range queue.count).map fun offset => queue.records (queue.slot offset)

def push (packet : InnerPacketRecord) : QueuePushResult × InnerPacketQueue capacity :=
  if h : queue.count = capacity then
    (.full, { queue with
      statistics := { queue.statistics with rejectedFull := queue.statistics.rejectedFull + 1 } })
  else
    (.pushed, { queue with
      records := Function.update queue.records (queue.slot queue.count) packet
      count := queue.count + 1
      statistics := { queue.statistics with
        pushed := queue.statistics.pushed + 1
        highWatermark :=
          if queue.statistics.highWatermark < queue.count + 1 then queue.count + 1
          else queue.statistics.highWatermark }
      count_le := Nat.lt_of_le_of_ne queue.count_le h })

def front : Option InnerPacketRecord :=
  if queue.count = 0 then none else some (queue.records (queue.slot 0))

/-- `RecordDisposition` with the popped count the callers add beside it. -/
def recordDisposition (statistics : QueueStatistics) (disposition : QueueDisposition)
    (count : Nat) : QueueStatistics :=
  { statistics with
    popped := statistics.popped + .ofNat count
    dispositions := Function.update statistics.dispositions disposition
      (statistics.dispositions disposition + .ofNat count) }

/-- `Pop`, for callers that do not take the record. -/
def pop (disposition : QueueDisposition) : Bool × InnerPacketQueue capacity :=
  if queue.count = 0 then (false, queue)
  else
    (true, { queue with
      records := Function.update queue.records (queue.slot 0) .empty
      head := (queue.head + 1) % capacity
      count := queue.count - 1
      statistics := recordDisposition queue.statistics disposition 1
      retired := queue.retired ++ [(queue.records (queue.slot 0), disposition)]
      head_lt := Nat.mod_lt _ queue.capacity_pos
      count_le := Nat.le_trans (Nat.sub_le _ _) queue.count_le })

def clear (disposition : QueueDisposition) : Nat × InnerPacketQueue capacity :=
  (queue.count, { queue with
    records := (List.range queue.count).foldl
      (fun records offset => Function.update records (queue.slot offset) .empty) queue.records
    head := 0
    count := 0
    statistics := recordDisposition queue.statistics disposition queue.count
    retired := queue.retired ++ queue.toList.map (·, disposition)
    head_lt := queue.capacity_pos
    count_le := Nat.zero_le _ })

end InnerPacketQueue

end WireguardNx.Wireguard
