import WireguardNx.Lib.Quarantine
import WireguardNx.Laws.FlowChanges
import Mathlib.Data.Fintype.Pigeonhole

/-!
# Reverse tuples

What comes back from a remote endpoint is told apart by its reverse tuple: the tunnel source, the
virtual port and the remote.  The live flows and the tombstones of a plane are a quarantine of such
tuples, and every move of the plane is a step of that quarantine or none (`PlaneMove.tuples`).  So no
two live flows share a tuple, each finds a tombstone when it closes, and a tuple rests for the whole
quarantine before a flow has it again.  The search for a port cannot fail, since 16384 ports are more
than all flows and tombstones can block.

Time is assumed not to run backwards; the order of the operations is arbitrary.
-/

namespace WireguardNx.Tunnel

open Wireguard WireguardNx.Runtime Relation Function List

variable {i : Fin maximumFlows} {flow : FlowSlot} {remote : Ipv4Endpoint} {port : UInt16}

/-- What tells an inbound datagram apart. -/
structure ReverseTuple where
  source : Ipv4Address
  port : UInt16
  remoteAddress : Ipv4Address
  remotePort : UInt16
  deriving DecidableEq

def reverseTuple (source : Ipv4Address) (port : UInt16) (remote : Ipv4Endpoint) : ReverseTuple :=
  ⟨source, port, remote.address, remote.port⟩

def FlowSlot.tuple (flow : FlowSlot) : ReverseTuple :=
  reverseTuple flow.tunnelSource flow.virtualSourcePort flow.remote

def ReverseTupleTombstone.tuple (tombstone : ReverseTupleTombstone) : ReverseTuple :=
  reverseTuple tombstone.tunnelDestination tombstone.tunnelDestinationPort tombstone.remote

theorem reverseTuple_eq_iff {source source' : Ipv4Address} {port port' : UInt16}
    {remote remote' : Ipv4Endpoint} :
    reverseTuple source port remote = reverseTuple source' port' remote' ↔
      source = source' ∧ port = port' ∧ endpointEqual remote remote' := by
  unfold reverseTuple endpointEqual
  simp only [ReverseTuple.mk.injEq, Bool.and_eq_true, decide_eq_true_eq]
  tauto

namespace TunnelFlowPlane

variable {plane other : TunnelFlowPlane} {now : Ktime} {scope : MoveScope}

/-! ## The plane as a quarantine of tuples -/

/-- What a slot holds: the tuple of a live flow and the time it was reserved. -/
def holder (flow : FlowSlot) : Option (ReverseTuple × Ktime) :=
  if isLive flow then some (flow.tuple, flow.createdAt) else none

/-- What a tombstone keeps: a tuple, until it expires. -/
def grave (tombstone : ReverseTupleTombstone) : Option (ReverseTuple × Ktime) :=
  if tombstone.occupied then some (tombstone.tuple, tombstone.expiresAt) else none

/-- The quarantine that the flows and the tombstones of a plane make up. -/
def tuples (plane : TunnelFlowPlane) :
    Quarantine ReverseTuple Ktime maximumFlows reverseTupleQuarantineCapacity where
  holders i := holder (plane.flows i)
  graves k := grave (plane.tombstones k)

/-- When a tuple given up at a time has rested. -/
def rested (t : Ktime) : Ktime := t + reverseTupleQuarantineNs

section Views

theorem holder_of_live (h : isLive flow) :
    holder flow = some (flow.tuple, flow.createdAt) := if_pos h

theorem holder_of_not_live (h : isLive flow = false) : holder flow = none :=
  if_neg (by rw [h]; exact Bool.false_ne_true)

private theorem holder_isSome (flow : FlowSlot) : (holder flow).isSome = isLive flow := by
  unfold holder
  cases isLive flow <;> rfl

theorem grave_isNone (tombstone : ReverseTupleTombstone) :
    (grave tombstone).isNone = !tombstone.occupied := by
  unfold grave
  cases tombstone.occupied <;> rfl

private theorem holder_eq_some {key : ReverseTuple} {since : Ktime} :
    holder flow = some (key, since) ↔
      isLive flow ∧ flow.tuple = key ∧ flow.createdAt = since := by
  unfold holder
  cases isLive flow <;> simp

theorem grave_eq_some {tombstone : ReverseTupleTombstone} {key : ReverseTuple} {expiry : Ktime} :
    grave tombstone = some (key, expiry) ↔
      tombstone.occupied ∧ tombstone.tuple = key ∧ tombstone.expiresAt = expiry := by
  unfold grave
  cases tombstone.occupied <;> simp

theorem tuples_held (plane : TunnelFlowPlane) : plane.tuples.held = plane.liveFlows := by
  unfold Quarantine.held slotCount liveFlows
  simp only [tuples, holder_isSome]

theorem tuples_free (plane : TunnelFlowPlane) : plane.tuples.free = plane.freeTombstones := by
  unfold Quarantine.free slotCount freeTombstones
  simp only [tuples, grave_isNone]

theorem clearExpiredTombstones_tuples (plane : TunnelFlowPlane) (now : Ktime) :
    (plane.clearExpiredTombstones now).tuples = plane.tuples.expired now := by
  unfold tuples Quarantine.expired clearExpiredTombstones
  simp only [Quarantine.mk.injEq, true_and]
  funext k
  unfold grave
  cases hocc : (plane.tombstones k).occupied with
  | false => simp [hocc]
  | true =>
    by_cases hlapsed : (plane.tombstones k).expiresAt ≤ now
    · simp [hlapsed, ReverseTupleTombstone.empty, Option.filter]
    · simp [hlapsed, hocc, Option.filter, lt_of_not_ge hlapsed]

/-- Writing a flow slot writes what it holds. -/
theorem holders_update (flows : Fin maximumFlows → FlowSlot) (i : Fin maximumFlows)
    (flow : FlowSlot) : (fun i' => holder (update flows i flow i')) =
      update (fun i' => holder (flows i')) i (holder flow) := by
  funext i'
  by_cases hi : i' = i
  · subst hi
    simp only [update_self]
  · simp only [update_of_ne hi]

/-- A slot that is written holds what its flow does. -/
theorem tuples_of_update (hflows : other.flows = update plane.flows i flow)
    (htombstones : other.tombstones = plane.tombstones) : other.tuples =
      { plane.tuples with
        holders := update plane.tuples.holders i (holder flow) } := by
  unfold tuples
  rw [hflows, htombstones, holders_update]

theorem tuples_of_eq (hflows : other.flows = plane.flows)
    (htombstones : other.tombstones = plane.tombstones) : other.tuples = plane.tuples := by
  unfold tuples
  rw [hflows, htombstones]

/-- Nothing happens to the tuples when every slot holds what it held. -/
theorem tuples_congr (hflows : other.flows = update plane.flows i flow)
    (hflow : holder flow = holder (plane.flows i))
    (htombstones : other.tombstones = plane.tombstones) : other.tuples = plane.tuples := by
  rw [tuples_of_update hflows htombstones, hflow]
  show (⟨update plane.tuples.holders i (plane.tuples.holders i), _⟩ :
    Quarantine ReverseTuple Ktime _ _) = _
  rw [update_eq_self]

private theorem isPortInUse_eq_false (h : plane.isPortInUse port remote = false)
    (i : Fin maximumFlows)
    (since : Ktime) : plane.tuples.holders i ≠
      some (reverseTuple plane.policy.tunnelSource port remote, since) := by
  intro hholder
  obtain ⟨hlive, htuple, _⟩ := holder_eq_some.mp hholder
  obtain ⟨hsource, hport, hremote⟩ := reverseTuple_eq_iff.mp htuple
  have hfree := any_eq_false.mp h i (mem_finRange i)
  simp [hlive, hsource, hport, hremote] at hfree

private theorem isTombstoned_eq_false {source : Ipv4Address}
    (h : plane.isTombstoned source port remote now = false) (k : Fin reverseTupleQuarantineCapacity)
    (expiry : Ktime)
    (hgrave : plane.tuples.graves k = some (reverseTuple source port remote, expiry)) :
    expiry ≤ now := by
  obtain ⟨hocc, htuple, rfl⟩ := grave_eq_some.mp hgrave
  obtain ⟨hsource, hport, hremote⟩ := reverseTuple_eq_iff.mp htuple
  have hfree := any_eq_false.mp h k (mem_finRange k)
  simpa [hocc, hsource, hport, hremote] using hfree

/-- An open flow that closes gives its tuple to a tombstone. -/
theorem closeFlowSlot_tuples {reason : FlowTerminalReason} {notify : Bool} (hsound : plane.Sound)
    (horderly : plane.tuples.Orderly) (hopen : isOpen (plane.flows i)) :
    ∃ k, (plane.tuples.expired now).graves k = none ∧
      (plane.closeFlowSlot i reason now notify).tuples = ⟨update plane.tuples.holders i none, update
          (plane.tuples.expired now).graves k (some ((plane.flows i).tuple, rested now))⟩ := by
  have hlive := isLive_of_isOpen hopen
  have hflows : (plane.closeFlowSlot i reason now notify).flows =
      update plane.flows i (terminated (plane.flows i) reason now) := by
    rw [closeFlowSlot_of_open hopen, ← withClosed_flows]
    split
    · exact enqueueControlCompletion_flows
    · rfl
  have htombstones : (plane.closeFlowSlot i reason now notify).tombstones =
      ((plane.dropData i).quarantineTuple (plane.flows i) now).tombstones := by
    rw [closeFlowSlot_of_open hopen]
    split
    · exact enqueueControlCompletion_tombstones
    · rfl
  have hcleared : ((plane.dropData i).clearExpiredTombstones now).tombstones =
      (plane.clearExpiredTombstones now).tombstones := by
    unfold clearExpiredTombstones
    simp only [dropData_tombstones]
  have hgraves (k : Fin reverseTupleQuarantineCapacity) :
      grave (((plane.dropData i).clearExpiredTombstones now).tombstones k) =
        (plane.tuples.expired now).graves k := by
    rw [hcleared, ← clearExpiredTombstones_tuples]
    rfl
  have hport : (plane.flows i).virtualSourcePort ≠ 0 := by
    intro hzero
    have := hsound.port i hlive
    rw [hzero] at this
    exact absurd this (by decide)
  rcases quarantineTuple_cases (plane.dropData i) (plane.flows i) now with
    ⟨_, hzero⟩ | ⟨_, hfull⟩ | ⟨k, hfree, h⟩
  · exact (hport hzero).elim
  · -- There is a free tombstone for every live flow.
    obtain ⟨k, hk⟩ := horderly.exists_free now (holder_of_live hlive)
    have hnone := grave_isNone (((plane.dropData i).clearExpiredTombstones now).tombstones k)
    rw [hgraves, hk, hfull k] at hnone
    cases hnone
  · refine ⟨k, ?_, ?_⟩
    · rw [← hgraves, grave, if_neg (by rw [hfree]; exact Bool.false_ne_true)]
    · have hdead : holder (terminated (plane.flows i) reason now) = none :=
        holder_of_not_live (by simp [isLive, terminated])
      unfold tuples
      rw [hflows, htombstones, h, holders_update, hdead]
      simp only [Quarantine.mk.injEq, true_and]
      funext k'
      by_cases hk : k' = k
      · subst hk
        simp only [update_self]
        rfl
      · simp only [update_of_ne hk]
        exact hgraves k'

/-- Every move of a plane is a step of its tuples or leaves them. -/
theorem PlaneMove.tuples (h : PlaneMove now scope plane other) (hsound : plane.Sound)
    (horderly : plane.tuples.Orderly) :
    other.tuples = plane.tuples ∨ Quarantine.Step rested now plane.tuples other.tuples := by
  cases h with
  | touch i | commit i hlive hpend | store i k j payload =>
    exact .inl (tuples_congr setFlow_flows rfl rfl)
  | discard i halloc hpend =>
    have hflows : (plane.setFlow i .empty).flows = update plane.flows i .empty := rfl
    rw [tuples_of_update hflows rfl]
    exact .inr (.release plane.tuples i)
  | reserve client request i j port _ hclient hfree hquota hroom hport hunused huntombed =>
    have hflows : (plane.writeReservation client request now i port).2.flows =
        update plane.flows i (plane.reservedFlow client request now port) := rfl
    rw [tuples_of_update hflows rfl]
    exact .inr (.acquire plane.tuples i (reverseTuple plane.policy.tunnelSource port request.remote)
      (holder_of_not_live hfree) (by rw [tuples_held, tuples_free]; exact hroom)
      (isPortInUse_eq_false hunused) (isTombstoned_eq_false huntombed))
  | close i reason notify _ hopen =>
    obtain ⟨k, hfree, h⟩ := closeFlowSlot_tuples hsound horderly hopen
    rw [h]
    exact .inr (.retire plane.tuples i k _ _ (holder_of_live (isLive_of_isOpen hopen)) hfree)
  | wake i hopen =>
    exact .inl (tuples_congr enqueueControlCompletion_flows rfl enqueueControlCompletion_tombstones)
  | drain client j entry rest =>
    obtain ⟨i, occupancy, h⟩ := dropFront_flows plane client j entry rest
    refine .inl (tuples_congr h rfl ?_)
    unfold dropFront
    split
    · rfl
    · simp only
      split <;> rfl
  | announce j =>
    exact .inl (tuples_of_eq enqueueControlCompletion_flows enqueueControlCompletion_tombstones)
  | forget client j =>
    refine .inl (tuples_of_eq (forgetClient_flows plane j) ?_)
    show (plane.releaseAll _).tombstones = plane.tombstones
    rw [releaseAll_eq]
  | expire =>
    rw [clearExpiredTombstones_tuples]
    exact .inr (.expire plane.tuples)
  | setPolicy | wipe | create | advance => exact .inl rfl

end Views

/-! ## The search for a port -/

section Search

theorem firstVirtualSourcePort_le : firstVirtualSourcePort ≤ port ↔ 49152 ≤ port.toNat :=
  UInt16.le_iff_toNat_le

/-- The ports follow one another round the range of the virtual ports. -/
theorem followingPort_toNat {port : UInt16} (hport : 49152 ≤ port.toNat) :
    (followingPort port).toNat = 49152 + (port.toNat - 49152 + 1) % 16384 := by
  have hlt : port.toNat < 65536 := port.toNat_lt
  have hsucc : (port + 1).toNat = (port.toNat + 1) % 65536 := by
    rw [UInt16.toNat_add, UInt16.toNat_one]
  unfold followingPort
  by_cases hwrap : port + 1 < firstVirtualSourcePort
  · rw [if_pos hwrap]
    have hwrap : (port + 1).toNat < 49152 := UInt16.lt_iff_toNat_lt.mp hwrap
    show 49152 = _
    omega
  · rw [if_neg hwrap]
    have hstay : 49152 ≤ (port + 1).toNat := firstVirtualSourcePort_le.mp (UInt16.not_lt.mp hwrap)
    omega

theorem followingPort_iterate_toNat (port : UInt16) (hport : 49152 ≤ port.toNat) (count : Nat) :
    (followingPort^[count] port).toNat = 49152 + (port.toNat - 49152 + count) % 16384 := by
  induction count with
  | zero =>
    have hlt : port.toNat < 65536 := port.toNat_lt
    show port.toNat = _
    omega
  | succ count ih =>
    rw [Function.iterate_succ_apply', followingPort_toNat (by omega), ih]
    omega

/-- A slot or a tombstone that blocks a port for a remote. -/
theorem exists_blocker (h : ¬(plane.isPortInUse port remote = false ∧
      plane.isTombstoned plane.policy.tunnelSource port remote now = false)) :
    ∃ blocker : Fin maximumFlows ⊕ Fin reverseTupleQuarantineCapacity,
      blocker.elim (fun i => (plane.flows i).virtualSourcePort)
        (fun k => (plane.tombstones k).tunnelDestinationPort) = port := by
  rw [not_and_or, Bool.not_eq_false, Bool.not_eq_false] at h
  rcases h with h | h
  · obtain ⟨i, _, hi⟩ := any_eq_true.mp h
    simp only [Bool.and_eq_true, decide_eq_true_eq] at hi
    exact ⟨.inl i, hi.1.1.2⟩
  · obtain ⟨k, _, hk⟩ := any_eq_true.mp h
    simp only [Bool.and_eq_true, decide_eq_true_eq] at hk
    exact ⟨.inr k, hk.1.2⟩

/-- A search that fails found every port it tried blocked. -/
theorem searchPort_eq_none {tries : Nat} {next : UInt16}
    (h : (plane.searchPort remote now tries next).1 = none) (count : Nat) (hcount : count < tries) :
    ¬(plane.isPortInUse (followingPort^[count] next) remote = false ∧
      plane.isTombstoned plane.policy.tunnelSource (followingPort^[count] next) remote now =
        false) := by
  induction tries generalizing next count with
  | zero => exact (Nat.not_lt_zero _ hcount).elim
  | succ tries ih =>
    unfold searchPort at h
    split at h
    · cases h
    · rename_i hblocked
      cases count with
      | zero => exact hblocked
      | succ count => exact ih h count (Nat.lt_of_succ_lt_succ hcount)

/-- More ports are tried than flows and tombstones can block. -/
theorem searchPort_isSome (plane : TunnelFlowPlane) (remote : Ipv4Endpoint) (now : Ktime)
    (next : UInt16) (hnext : firstVirtualSourcePort ≤ next) :
    ∃ port, (plane.searchPort remote now 16384 next).1 = some port := by
  rw [← Option.isSome_iff_exists, Option.isSome_iff_ne_none]
  intro hnone
  choose blocker hblocker using fun count : Fin 16384 =>
    exists_blocker (searchPort_eq_none hnone count count.isLt)
  obtain ⟨first, second, hne, hsame⟩ := Fintype.exists_ne_map_eq_of_card_lt blocker
    (by simp only [Fintype.card_sum, Fintype.card_fin]; decide)
  have hports : followingPort^[first] next = followingPort^[second] next := by
    rw [← hblocker first, hsame, hblocker second]
  have hrange := firstVirtualSourcePort_le.mp hnext
  have hfirst := followingPort_iterate_toNat next hrange first
  rw [hports, followingPort_iterate_toNat next hrange second] at hfirst
  have hfirstLt := first.isLt
  have hsecondLt := second.isLt
  exact hne (Fin.ext (by omega))

end Search

/-! ## Runs with a clock -/

/-- A plane with the time of its last operation, and the tuples of the committed flows that were
closed with the times they were. -/
structure FlowHistory where
  plane : TunnelFlowPlane
  clock : Ktime
  closings : List (ReverseTuple × Ktime)

def closedBy (before after : TunnelFlowPlane) (now : Ktime) : List (ReverseTuple × Ktime) :=
  (List.finRange maximumFlows).filterMap fun i =>
    if isOpen (before.flows i) && (after.flows i).closed then some ((before.flows i).tuple, now)
    else none

def FlowHistory.extend (s : FlowHistory) (now : Ktime) (action : PlaneAction) : FlowHistory :=
  ⟨s.plane.apply now action, now,
    s.closings ++ closedBy s.plane (s.plane.apply now action) now⟩

/-- Operations at times that do not decrease. -/
def flowHistories : Machine FlowHistory :=
  .ofActions (fun s => s.plane = initial ∧ s.closings = [])
    (fun s (call : Ktime × PlaneAction) => s.clock ≤ call.1)
    (fun s call => some (s.extend call.1 call.2))

/-- What is kept by operations at times that do not decrease. -/
structure Ordered (now : Ktime) (closings : List (ReverseTuple × Ktime)) (plane : TunnelFlowPlane) :
    Prop where
  orderly : plane.tuples.Orderly
  since : ∀ i key since, plane.tuples.holders i = some (key, since) → since ≤ now
  rests : ∀ closing ∈ closings, plane.tuples.Rests rested now closing.1 closing.2

section Histories

variable {before : TunnelFlowPlane} {closings : List (ReverseTuple × Ktime)}

theorem Ordered.move (h : Ordered now closings plane) (hsound : plane.Sound)
    (hmove : PlaneMove now scope plane other) : Ordered now closings other := by
  rcases hmove.tuples hsound h.orderly with hsame | hstep
  · exact ⟨hsame ▸ h.orderly, hsame ▸ h.since, hsame ▸ h.rests⟩
  · exact ⟨h.orderly.step hstep, hstep.since_le h.since,
      fun closing hclosing => (h.rests closing hclosing).step hstep⟩

/-- An open flow stays open with its tuple, or its tuple begins to rest. -/
def Settled (now : Ktime) (before plane : TunnelFlowPlane) : Prop :=
  ∀ i, isOpen (before.flows i) = true →
    (isOpen (plane.flows i) = true ∧ (plane.flows i).tuple = (before.flows i).tuple) ∨
      plane.tuples.Rests rested now (before.flows i).tuple now

private theorem tuple_congr {flow flow' : FlowSlot} (h : flow'.identity = flow.identity) :
    flow'.tuple = flow.tuple := by
  obtain ⟨_, _, _, _, _, _, hremote, hsource, hport, _⟩ := FlowIdentity.mk.inj h
  unfold FlowSlot.tuple
  rw [hremote, hsource, hport]

theorem Settled.move (h : Settled now before plane) (hsound : plane.Sound)
    (horderly : plane.tuples.Orderly) (hmove : PlaneMove now scope plane other) :
    Settled now before other := by
  intro i hi
  rcases h i hi with ⟨hopen, htuple⟩ | hrests
  · rw [← htuple]
    rcases hmove.open_cases hopen with hident | ⟨reason, notify, _, hclosed⟩
    · exact .inl ⟨(isOpen_congr hident).trans hopen, tuple_congr hident⟩
    · obtain ⟨k, _, htuples⟩ := closeFlowSlot_tuples hsound horderly hopen
      rw [hclosed, htuples]
      exact .inr (horderly.rests_retire (holder_of_live (isLive_of_isOpen hopen)))
  · rcases hmove.tuples hsound horderly with hsame | hstep
    · exact .inr (hsame ▸ hrests)
    · exact .inr (hrests.step hstep)

theorem Ordered.later {later : Ktime} (h : Ordered now closings plane) (hle : now ≤ later) :
    Ordered later closings plane :=
  ⟨h.orderly, fun i key since hi => (h.since i key since hi).trans hle,
    fun closing hclosing => (h.rests closing hclosing).mono hle⟩

/-- The tuples that an operation gives up rest from its time on. -/
theorem Ordered.apply (h : Ordered now closings plane) (hsound : plane.Sound)
    (action : PlaneAction) :
    Ordered now (closings ++ closedBy plane (plane.apply now action) now)
      (plane.apply now action) := by
  have hstart : Settled now plane plane := fun i hopen => .inl ⟨hopen, rfl⟩
  obtain ⟨_, hordered, hsettled⟩ := apply_invariant
    (P := fun other => Ordered now closings other ∧ Settled now plane other)
    (fun _ _ hsound hboth hmove =>
      ⟨hboth.1.move hsound hmove, hboth.2.move hsound hboth.1.orderly hmove⟩)
    hsound ⟨h, hstart⟩
  refine ⟨hordered.orderly, hordered.since, fun closing hclosing => ?_⟩
  rcases mem_append.mp hclosing with hold | hnew
  · exact hordered.rests closing hold
  · obtain ⟨i, _, hi⟩ := mem_filterMap.mp hnew
    split at hi
    · rename_i hclosed
      obtain ⟨hopen, hclosed⟩ := Bool.and_eq_true_iff.mp hclosed
      cases hi
      rcases hsettled i hopen with ⟨hopen', _⟩ | hrests
      · have hlive := (isLive_iff.mp (isLive_of_isOpen hopen')).2
        rw [hclosed] at hlive
        cases hlive
      · exact hrests
    · cases hi

private theorem flowHistories_ordered {s : FlowHistory} (h : flowHistories.Reachable s) :
    s.plane.Sound ∧ Ordered s.clock s.closings s.plane := by
  refine Machine.Reachable.invariant
    (P := fun s => s.plane.Sound ∧ Ordered s.clock s.closings s.plane) ?_ ?_ h
  · rintro ⟨plane, clock, closings⟩ ⟨hplane, hclosings⟩
    obtain rfl : plane = initial := hplane
    obtain rfl : closings = [] := hclosings
    refine ⟨initial_sound, ⟨nofun, ?_⟩, nofun,
      nofun⟩
    rw [Quarantine.held, slotCount_of_none fun _ => rfl]
    exact Nat.zero_le _
  · rintro s _ _ ⟨hsound, hordered⟩ ⟨⟨now, action⟩, hclock, hstep⟩
    cases hstep
    have hordered := hordered.later hclock
    exact ⟨(apply_invariant (P := fun _ => True) (fun _ _ _ _ _ => trivial) hsound trivial).1,
      hordered.apply hsound action⟩

/-- A datagram that is delivered goes to the open flow of its token and to no other. -/
theorem deliverInboundUdpDatagram_delivered {peer : PeerIdentity} {policyGeneration : UInt32}
    {adapterToken : UInt64} {payload : List UInt8}
    (h : plane.deliverInboundUdpDatagram peer policyGeneration adapterToken remote payload now =
      (.delivered, other)) :
    ∃ i, isOpen (plane.flows i) ∧ makeFlowHandle i (plane.flows i) = adapterToken ∧
      endpointEqual (plane.flows i).remote remote ∧
      ∀ i', i' ≠ i → other.flows i' = plane.flows i' := by
  unfold deliverInboundUdpDatagram at h
  split at h
  · cases h
  split at h
  · cases h
  rename_i i hslot
  simp only at h
  split at h
  · cases h
  rename_i hstale
  split at h
  · cases h
  obtain ⟨halloc, htoken⟩ := slotOfHandle_spec hslot
  obtain ⟨hclosed, hpend, _, _, hremote⟩ := isStale_eq_false (Bool.not_eq_true _ ▸ hstale)
  refine ⟨i, isOpen_iff.mpr ⟨isLive_iff.mpr ⟨halloc, hclosed⟩, hpend⟩, htoken, hremote,
    fun i' hi => ?_⟩
  split at h
  · cases h
  rename_i k allocated hslab
  split at h
  · rename_i stored hstored
    obtain rfl : stored = other := (Prod.mk.inj h).2
    rcases enqueueDataCompletion_cases ((allocated.setSlab k ⟨payload, true⟩).setFlow i
      { plane.flows i with
        inboundOccupancy := (plane.flows i).inboundOccupancy + 1
        lastActivityAt := now }) i k with hdropped | ⟨j, _, _, _, hadded⟩
    · rw [hdropped] at hstored
      cases hstored
    · rw [hadded] at hstored
      obtain rfl := (Prod.mk.inj hstored).2
      have hflows : allocated.flows = plane.flows := by
        unfold allocateInboundSlab at hslab
        split at hslab
        · cases hslab
        · obtain rfl := (Prod.mk.inj hslab).2
          rfl
      simp only [setClient_flows, setFlow_flows, setSlab_flows, update_of_ne hi, hflows]
  · cases h

end Histories

/-- Reverse tuples are kept apart in a history. -/
structure TuplesIsolated (s : FlowHistory) : Prop where
  /-- No two live flows share a tuple. -/
  distinct : ∀ i i', isLive (s.plane.flows i) = true → isLive (s.plane.flows i') = true →
    (s.plane.flows i).tuple = (s.plane.flows i').tuple → i = i'
  /-- A flow with the tuple of a committed flow that was closed was reserved 60 s later at least. -/
  rested : ∀ tuple t, (tuple, t) ∈ s.closings → ∀ i, isLive (s.plane.flows i) = true →
    (s.plane.flows i).tuple = tuple →
      t + seconds 60 ≤ (s.plane.flows i).createdAt ∧ (s.plane.flows i).createdAt ≤ s.clock
  /-- Every closing found a tombstone, which it keeps for 60 s. -/
  buried : ∀ tuple t, (tuple, t) ∈ s.closings → t + seconds 60 ≤ s.clock ∨
    ∃ k, (s.plane.tombstones k).occupied = true ∧ (s.plane.tombstones k).tuple = tuple ∧
      (s.plane.tombstones k).expiresAt = t + seconds 60
  /-- There is a free tombstone for each live flow, so for whichever closes next. -/
  room : s.plane.liveFlows ≤ s.plane.freeTombstones
  /-- The search for a port that a reservation makes finds one. -/
  found : ∀ remote now, ∃ port,
    ((s.plane.clearExpiredTombstones now).allocateVirtualTuple remote now).1 = some port
  /-- A token names one flow at most. -/
  token : ∀ i i', (s.plane.flows i).allocated = true → (s.plane.flows i').allocated = true →
    makeFlowHandle i (s.plane.flows i) = makeFlowHandle i' (s.plane.flows i') → i = i'
  /-- A datagram that is delivered changes the open flow of its token, with its remote, only. -/
  delivered : ∀ peer policyGeneration adapterToken remote payload now other,
    s.plane.deliverInboundUdpDatagram peer policyGeneration adapterToken remote payload now =
      (.delivered, other) →
    ∃ i, isOpen (s.plane.flows i) = true ∧ makeFlowHandle i (s.plane.flows i) = adapterToken ∧
      endpointEqual (s.plane.flows i).remote remote = true ∧
      ∀ i', i' ≠ i → other.flows i' = s.plane.flows i'

/-- Whatever operations do at times that do not decrease, the reverse tuples are kept apart. -/
theorem reverse_tuple_isolation {s : FlowHistory} (h : flowHistories.Reachable s) :
    TuplesIsolated s := by
  obtain ⟨hsound, hordered⟩ := flowHistories_ordered h
  refine ⟨fun i i' hlive hlive' htuple => ?_, fun tuple t hclosing i hlive htuple => ?_,
    fun tuple t hclosing => ?_, ?_, fun remote now => ?_, fun i i' hi hi' htoken => ?_,
    fun _ _ _ _ _ _ _ hdelivered => deliverInboundUdpDatagram_delivered hdelivered⟩
  · exact hordered.orderly.distinct i i' _ _ _ (holder_of_live hlive)
      (htuple ▸ holder_of_live hlive')
  · have hholder := holder_of_live hlive
    rw [htuple] at hholder
    exact ⟨(hordered.rests _ hclosing).later i _ hholder, hordered.since i _ _ hholder⟩
  · rcases (hordered.rests _ hclosing).grave with hlapsed | ⟨k, hk⟩
    · exact .inl hlapsed
    · exact .inr ⟨k, grave_eq_some.mp hk⟩
  · rw [← tuples_held, ← tuples_free]
    exact hordered.orderly.room
  · exact searchPort_isSome _ remote now _ hsound.next
  · exact (makeFlowHandle_inj (hsound.flow i hi) (hsound.flow i' hi') htoken).1

/-! ### An example -/

/-- A flow is opened and closed, and another one is opened. -/
def sampleCalls : List (Ktime × PlaneAction) :=
  sampleSetup ++ [(seconds 1, sampleOpen), (seconds 2, .invalidate ⟨0, 1⟩ .peerDeactivated),
    (seconds 3, sampleOpen)]

theorem reverse_tuple_isolation_sample : ∃ s, flowHistories.Reachable s ∧
    s.closings.length = 1 ∧ isLive (s.plane.flows 0) = true ∧ TuplesIsolated s := by
  have hrun : (Machine.runActions (fun s (call : Ktime × PlaneAction) => s.clock ≤ call.1)
      (fun s call => some (FlowHistory.extend s call.1 call.2)) sampleCalls
      ⟨initial, 0, []⟩).map (fun s => (s.closings.length, isLive (s.plane.flows 0))) =
      some (1, true) := by
    decide +kernel
  obtain ⟨s, hs, hfacts⟩ := Option.map_eq_some_iff.mp hrun
  obtain ⟨hclosings, hlive⟩ := Prod.mk.inj hfacts
  have hreach : flowHistories.Reachable s := .of_runActions (.start ⟨rfl, rfl⟩) hs
  exact ⟨s, hreach, hclosings, hlive, reverse_tuple_isolation hreach⟩

end TunnelFlowPlane

end WireguardNx.Tunnel
