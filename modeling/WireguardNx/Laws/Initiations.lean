import WireguardNx.Laws.PeerMachine

/-!
# Accepted initiations

A responder accepts an initiation only when its timestamp is newer than the last one accepted.  The
record of that last timestamp is part of the handshake, which `wg_peer_zero_key_material` clears
with the rest of the key material.  Timestamps of accepted initiations therefore increase as long as
no peer that has accepted one has its key material zeroed, and an initiation can be accepted a
second time after that.  An initiator's own timestamps are rounded, and still increase with its
clock.

Nothing is assumed of the primitives.  The clock of the responder has no part in it; that of the
initiator is assumed to be normalised where its own timestamps are compared.
-/

namespace WireguardNx.Wireguard

/-! ## The order of timestamps -/

theorem lexicographicalCompare_cons {x y : UInt8} {xs ys : List UInt8} :
    lexicographicalCompare (x :: xs) (y :: ys) ↔
      x < y ∨ (x = y ∧ lexicographicalCompare xs ys) := by
  simp only [lexicographicalCompare]
  by_cases hlt : x < y
  · simp only [hlt, if_true, true_or]
  by_cases hgt : y < x
  · simp only [hlt, hgt, if_true, if_false, false_or, Bool.false_eq_true, false_iff, not_and]
    intro heq
    exact absurd (heq ▸ hgt) (UInt8.lt_irrefl _)
  · obtain rfl : x = y := UInt8.le_antisymm (UInt8.not_lt.mp hgt) (UInt8.not_lt.mp hlt)
    simp only [hlt, if_false, false_or, true_and]

/-- The number whose bytes, the most significant first, a row of bytes is. -/
def bigEndian : List UInt8 → Nat
  | [] => 0
  | byte :: bytes => byte.toNat * 256 ^ bytes.length + bigEndian bytes

theorem bigEndian_lt (bytes : List UInt8) : bigEndian bytes < 256 ^ bytes.length := by
  induction bytes with
  | nil => exact Nat.one_pos
  | cons byte bytes ih =>
    have hbyte : byte.toNat + 1 ≤ 256 := byte.toNat_lt
    calc byte.toNat * 256 ^ bytes.length + bigEndian bytes
      _ < (byte.toNat + 1) * 256 ^ bytes.length := by
        rw [Nat.succ_mul]
        exact Nat.add_lt_add_left ih _
      _ ≤ 256 * 256 ^ bytes.length := Nat.mul_le_mul_right _ hbyte
      _ = 256 ^ (bytes.length + 1) := (Nat.pow_succ').symm

/-- Rows of one length compare as the numbers they stand for. -/
theorem lexicographicalCompare_iff {xs ys : List UInt8} (h : xs.length = ys.length) :
    lexicographicalCompare xs ys ↔ bigEndian xs < bigEndian ys := by
  induction xs generalizing ys with
  | nil =>
    obtain rfl : ys = [] := List.length_eq_zero_iff.mp h.symm
    simp [lexicographicalCompare]
  | cons x xs ih =>
    obtain ⟨y, ys, rfl⟩ := List.exists_cons_of_length_eq_add_one h.symm
    have hlen : xs.length = ys.length := Nat.succ.inj h
    have hx := bigEndian_lt xs
    have hy := bigEndian_lt ys
    rw [lexicographicalCompare_cons, ih hlen, UInt8.lt_iff_toNat_lt, ← UInt8.toNat_inj]
    simp only [bigEndian, hlen] at hx ⊢
    rcases Nat.lt_trichotomy x.toNat y.toNat with hlt | heq | hgt
    · have := Nat.mul_le_mul_right (256 ^ ys.length) hlt
      rw [Nat.succ_mul] at this
      omega
    · rw [heq]
      omega
    · have := Nat.mul_le_mul_right (256 ^ ys.length) hgt
      rw [Nat.succ_mul] at this
      omega

private theorem bigEndian_storeBe64 (value : UInt64) :
    bigEndian (storeBe64 value).toList = value.toNat := by
  have hbyte (part : UInt64) : (part &&& 0xFF).toUInt8.toNat = part.toNat % 256 := by
    rw [UInt64.toNat_toUInt8, UInt64.toNat_and]
    exact (congrArg (· % 256) (Nat.and_two_pow_sub_one_eq_mod part.toNat 8)).trans (Nat.mod_mod ..)
  have hlt := value.toNat_lt
  show bigEndian [_, _, _, _, _, _, _, _] = _
  simp only [bigEndian, hbyte, UInt64.toNat_shiftRight, UInt64.reduceToNat,
    Nat.shiftRight_eq_div_pow, Nat.reduceMod, Nat.reducePow, List.length_cons, List.length_nil]
  omega

private theorem bigEndian_storeBe32 (value : UInt32) :
    bigEndian (storeBe32 value).toList = value.toNat := by
  have hlt := value.toNat_lt
  show bigEndian [_, _, _, _] = _
  simp only [bigEndian, lowByte_toNat, UInt32.toNat_shiftRight, UInt32.reduceToNat,
    Nat.shiftRight_eq_div_pow, Nat.reduceMod, Nat.reducePow, List.length_cons, List.length_nil]
  omega

private theorem bigEndian_append (xs ys : List UInt8) :
    bigEndian (xs ++ ys) = bigEndian xs * 256 ^ ys.length + bigEndian ys := by
  induction xs with
  | nil => simp [bigEndian]
  | cons x xs ih =>
    simp only [List.cons_append, bigEndian, ih, List.length_append]
    rw [Nat.pow_add, Nat.add_mul, Nat.mul_assoc, Nat.add_assoc]

def Older (first second : Bytes 12) : Prop :=
  lexicographicalCompare first.toList second.toList = true

instance (first second : Bytes 12) : Decidable (Older first second) :=
  inferInstanceAs (Decidable (_ = _))

theorem older_iff {first second : Bytes 12} :
    Older first second ↔ bigEndian first.toList < bigEndian second.toList :=
  lexicographicalCompare_iff (by rw [List.Vector.toList_length, List.Vector.toList_length])

/-- The timestamps of the initiations a peer accepted increase, and no message was accepted
twice. -/
structure WgPeer.AcceptsInOrder (peer : WgPeer) : Prop where
  increasing : (peer.acceptedInitiations.map Prod.snd).Pairwise Older
  once : (peer.acceptedInitiations.map Prod.fst).Nodup

/-! ## The timestamps of one initiator -/

/-- A reading of the real-time clock, as the kernel gives it. -/
structure Timespec64.Normal (time : Timespec64) : Prop where
  sec : 0 ≤ time.tvSec ∧ time.tvSec < 2 ^ 62
  nsec : 0 ≤ time.tvNsec ∧ time.tvNsec < 1000000000

def Timespec64.nanoseconds (time : Timespec64) : Int := time.tvSec * 1000000000 + time.tvNsec

theorem roundDownToPowerOfTwo_rate : roundDownToPowerOfTwo 20000000 = 16777216 := by decide

theorem bigEndian_tai64nNow {time : Timespec64} (h : time.Normal) :
    (bigEndian (tai64nNow time).toList : Int) =
      (0x400000000000000A + time.tvSec) * 2 ^ 32 + (time.tvNsec - time.tvNsec % 16777216) := by
  obtain ⟨⟨hsec, hsec'⟩, hnsec, hnsec'⟩ := h
  have hseconds : ((0x400000000000000A + UInt64.ofInt time.tvSec).toNat : Int) =
      0x400000000000000A + time.tvSec := by
    simp only [UInt64.toNat_add, UInt64.ofInt, UInt64.toNat_ofNat', UInt64.reduceToNat]
    omega
  have hrounded : time.tvNsec.tmod 16777216 = time.tvNsec % 16777216 :=
    Int.tmod_eq_emod_of_nonneg hnsec
  have hnanos : ((UInt32.ofInt (time.tvNsec - time.tvNsec % 16777216)).toNat : Int) =
      time.tvNsec - time.tvNsec % 16777216 := by
    rw [UInt32.ofInt, UInt32.toNat_ofNat']
    omega
  simp only [tai64nNow, roundDownToPowerOfTwo_rate]
  rw [if_pos (by decide), Bytes.toList_append, bigEndian_append, bigEndian_storeBe64,
    bigEndian_storeBe32]
  show ((_ * 256 ^ 4 + (UInt32.ofInt (time.tvNsec - time.tvNsec.tmod 16777216)).toNat : Nat) :
    Int) = _
  rw [hrounded]
  push_cast
  rw [hseconds, hnanos]

/-- The timestamps an initiator writes never decrease with its clock, and increase over a rounding
step; so an initiation that follows the recorded one by a step is taken as if nothing were recorded. -/
theorem own_timestamps_increase {a b : Timespec64} (ha : a.Normal) (hb : b.Normal) :
    (a.nanoseconds + (roundDownToPowerOfTwo 20000000).toNat ≤ b.nanoseconds →
      Older (tai64nNow a) (tai64nNow b)) ∧
    (a.nanoseconds ≤ b.nanoseconds → ¬ Older (tai64nNow b) (tai64nNow a)) ∧
    ∀ c p message (peer : WgPeer) chainingKey hash,
      a.nanoseconds + (roundDownToPowerOfTwo 20000000).toNat ≤ b.nanoseconds →
      peer.handshake.lastInitiationTimestamp = tai64nNow a →
      readInitiation c message peer = some (chainingKey, hash, tai64nNow b) →
      noiseHandshakeConsumeInitiation c p message peer =
        noiseHandshakeConsumeInitiation c p message { peer with handshake :=
          { peer.handshake with hasLastInitiationTimestamp := false } } := by
  have hstep : a.nanoseconds + (roundDownToPowerOfTwo 20000000).toNat ≤ b.nanoseconds →
      Older (tai64nNow a) (tai64nNow b) := by
    intro hspaced
    rw [older_iff, ← Int.ofNat_lt, bigEndian_tai64nNow ha, bigEndian_tai64nNow hb]
    obtain ⟨-, hnsecA⟩ := ha
    obtain ⟨-, hnsecB⟩ := hb
    rw [roundDownToPowerOfTwo_rate] at hspaced
    simp only [Timespec64.nanoseconds, UInt64.reduceToNat] at hspaced
    omega
  refine ⟨hstep, fun hle => ?_, fun c p message peer chainingKey hash hspaced hlast hread => ?_⟩
  · rw [older_iff, ← Int.ofNat_lt, bigEndian_tai64nNow ha, bigEndian_tai64nNow hb]
    obtain ⟨-, hnsecA⟩ := ha
    obtain ⟨-, hnsecB⟩ := hb
    simp only [Timespec64.nanoseconds] at hle
    omega
  · have hcompare : lexicographicalCompare _ _ = true := hstep hspaced
    have hforgot : readInitiation c message { peer with handshake :=
        { peer.handshake with hasLastInitiationTimestamp := false } } = _ := hread
    unfold noiseHandshakeConsumeInitiation
    rw [hread, hforgot]
    simp only [hlast, hcompare, Bool.true_eq_false, and_false, Bool.false_eq_true, if_false]

theorem own_timestamps_increase_step : Older (tai64nNow ⟨0, 0⟩) (tai64nNow ⟨0, 16777216⟩) :=
  (own_timestamps_increase (by constructor <;> decide) (by constructor <;> decide)).1 (by decide)

/-! ## The record of the last timestamp -/

/-- The timestamp of an initiation depends on nothing but the message and the identity of the
peer. -/
theorem readInitiation_congr {c : Crypto} {message : MessageHandshakeInitiation}
    {peer other : WgPeer} (hident : other.staticIdentity = peer.staticIdentity)
    (hprecomputed : other.handshakeMaterial.precomputedStaticStatic =
      peer.handshakeMaterial.precomputedStaticStatic) :
    readInitiation c message other = readInitiation c message peer := by
  unfold readInitiation
  rw [hident, hprecomputed]

/-- The record covers every accepted initiation: it is the newest of their timestamps, each of
which was read from its message. -/
structure WgPeer.Recorded (c : Crypto) (peer : WgPeer) : Prop where
  increasing : (peer.acceptedInitiations.map Prod.snd).Pairwise Older
  last : ∀ entry ∈ peer.acceptedInitiations,
    peer.handshake.hasLastInitiationTimestamp = true ∧
      (entry.2 = peer.handshake.lastInitiationTimestamp ∨
        Older entry.2 peer.handshake.lastInitiationTimestamp)
  read : ∀ entry ∈ peer.acceptedInitiations, ∃ chainingKey hash,
    readInitiation c entry.1 peer = some (chainingKey, hash, entry.2)

namespace WgPeer.Recorded

variable {c : Crypto} {peer after : WgPeer}

theorem of_nil (h : peer.acceptedInitiations = []) : peer.Recorded c := by
  refine ⟨?_, ?_, ?_⟩
  · rw [h]; exact List.Pairwise.nil
  · intro entry hentry; rw [h] at hentry; cases hentry
  · intro entry hentry; rw [h] at hentry; cases hentry

/-- Nothing was accepted while no timestamp is recorded. -/
theorem eq_nil (h : peer.Recorded c) (hlast : peer.handshake.hasLastInitiationTimestamp = false) :
    peer.acceptedInitiations = [] := by
  refine List.eq_nil_iff_forall_not_mem.mpr fun entry hentry => ?_
  rw [(h.last entry hentry).1] at hlast
  cases hlast

theorem of_acceptance (h : peer.Recorded c) (hident : after.staticIdentity = peer.staticIdentity)
    (hprecomputed : after.handshakeMaterial.precomputedStaticStatic =
      peer.handshakeMaterial.precomputedStaticStatic)
    (hacceptance : after.acceptance = peer.acceptance) : after.Recorded c := by
  simp only [WgPeer.acceptance, Prod.mk.injEq] at hacceptance
  obtain ⟨hacc, htimestamp, hlast⟩ := hacceptance
  refine ⟨?_, ?_, ?_⟩
  · rw [hacc]; exact h.increasing
  · rw [hacc, htimestamp, hlast]; exact h.last
  · intro entry hentry
    rw [readInitiation_congr hident hprecomputed]
    exact h.read entry (hacc ▸ hentry)

theorem accepts {message : MessageHandshakeInitiation} {timestamp : Bytes 12}
    (h : peer.Recorded c) (haccepts : peer.Accepts c after message timestamp) :
    after.Recorded c := by
  have hacceptance := haccepts.acceptance
  simp only [WgPeer.acceptance, Prod.mk.injEq] at hacceptance
  obtain ⟨hacc, htimestamp, hlast⟩ := hacceptance
  -- every earlier timestamp is at most the recorded one, which is older than the new one
  have holder : ∀ entry ∈ peer.acceptedInitiations, Older entry.2 timestamp := by
    intro entry hentry
    obtain ⟨hrecorded, heq | hold⟩ := h.last entry hentry
    · rw [heq]; exact haccepts.newer hrecorded
    · exact older_iff.mpr ((older_iff.mp hold).trans (older_iff.mp (haccepts.newer hrecorded)))
  refine ⟨?_, ?_, ?_⟩
  · rw [hacc, List.map_append, List.pairwise_append]
    refine ⟨h.increasing, List.pairwise_singleton _ _, ?_⟩
    intro old hold new hnew
    obtain ⟨entry, hentry, rfl⟩ := List.mem_map.mp hold
    obtain rfl := List.mem_singleton.mp hnew
    exact holder entry hentry
  · intro entry hentry
    rw [hacc, List.mem_append, List.mem_singleton] at hentry
    rw [htimestamp]
    refine ⟨hlast, ?_⟩
    obtain hentry | rfl := hentry
    · exact .inr (holder entry hentry)
    · exact .inl rfl
  · intro entry hentry
    rw [hacc, List.mem_append, List.mem_singleton] at hentry
    rw [readInitiation_congr haccepts.identity haccepts.precomputed]
    obtain hentry | rfl := hentry
    · exact h.read entry hentry
    · exact haccepts.read

theorem advances (h : peer.Recorded c) (hadvances : peer.Advances c after) : after.Recorded c := by
  obtain hkeeps | ⟨message, timestamp, haccepts⟩ := hadvances
  · exact h.of_acceptance hkeeps.identity hkeeps.precomputed hkeeps.acceptance
  · exact h.accepts haccepts

/-- A message has one timestamp, so increasing timestamps belong to different messages. -/
theorem acceptsInOrder (h : peer.Recorded c) : peer.AcceptsInOrder := by
  refine ⟨h.increasing, ?_⟩
  rw [List.Nodup, List.pairwise_map]
  refine (List.pairwise_map.mp h.increasing).imp_of_mem fun {a b} ha hb hold hmessage => ?_
  obtain ⟨_, _, hreadA⟩ := h.read a ha
  obtain ⟨_, _, hreadB⟩ := h.read b hb
  rw [hmessage, hreadB, Option.some.injEq, Prod.mk.injEq, Prod.mk.injEq] at hreadA
  rw [older_iff, hreadA.2.2] at hold
  exact Nat.lt_irrefl _ hold

end WgPeer.Recorded

end WireguardNx.Wireguard

namespace WireguardNx.Runtime

open Wireguard

variable {c : Crypto} {s : PeerRuntime}

/-! ## Runs of a peer -/

/-- The event zeroes the key material of a peer that has accepted an initiation. -/
def PeerEvent.ForgetsTimestamp (s : PeerRuntime) : PeerEvent → Prop
  | .protocolTimerExpired event => s.isCurrentExpiry event = true ∧ event.hook = .zeroKeyMaterial ∧
      s.device.peer.handshake.hasLastInitiationTimestamp = true
  | _ => False

instance (s : PeerRuntime) (event : PeerEvent) : Decidable (event.ForgetsTimestamp s) :=
  match event with
  | .protocolTimerExpired _ => inferInstanceAs (Decidable (_ ∧ _))
  | .activationRequested _ | .deactivationRequested _ | .networkPathRequestStarted _
  | .networkPathAvailabilityChanged _ | .transportFailure _ | .endpointResolved _
  | .udpBindOpened _ | .udpRebindRequested _ | .encryptedDatagramReceived _
  | .pendingDatagramSent _ | .innerPacketStaged _ | .innerPacketBatchStaged _
  | .processOutboundQueue _ => inferInstanceAs (Decidable False)

theorem recorded_fail {st : HandlerState} (hs : st.runtime.device.peer.Recorded c)
    {stage : PeerErrorStage} {code : PeerErrorCode} {now : Ktime} :
    (st.enterActivationError stage code now).runtime.device.peer.Recorded c := by
  rw [enterActivationError_eq]
  have hkeeps := scrubbedDevice_keeps st.runtime
  exact hs.of_acceptance hkeeps.identity hkeeps.precomputed hkeeps.acceptance

/-- What an event does before its handler goes on keeps the record, unless it forgets it. -/
theorem Entry.recorded {event : PeerEvent} {entry : HandlerState} (h : Entry c s event entry)
    (hallowed : ¬ event.ForgetsTimestamp s) (hs : s.device.peer.Recorded c) :
    entry.runtime.device.peer.Recorded c := by
  cases h with
  | stay | rebound event binding _ _ _ => exact hs
  | staged _ after _ _ _ hpush =>
    obtain ⟨queue, rfl, -⟩ := pushBatch_spec hpush
    exact hs.of_acceptance rfl rfl rfl
  | refused event record _ => exact hs.of_acceptance rfl rfl rfl
  | completed event pending _ _ _ =>
    show (s.completed _ _).device.peer.Recorded c
    unfold PeerRuntime.completed
    split
    · exact hs.of_acceptance rfl rfl rfl
    · exact hs
  | zeroed event hcur hhook =>
    -- zeroing is allowed only while no timestamp is recorded, and then nothing was accepted
    refine .of_nil ?_
    show s.device.peer.acceptedInitiations = []
    refine hs.eq_nil (Bool.not_eq_true _ ▸ fun hlast => ?_)
    exact hallowed ⟨hcur, hhook, hlast⟩
  | activated event _ => exact .of_nil rfl
  | deactivated event hact =>
    rw [(handleDeactivationRequested_spec hact).1.device]
    exact .of_nil rfl
  | bound event binding peer _ _ _ hpeer =>
    obtain ⟨_, _, _, _, hpeer⟩ := hpeer
    exact .of_nil (initializePeer_fresh hpeer).2.1
  | unbound event binding _ =>
    exact recorded_fail (.of_nil rfl)

theorem Move.recorded {identity : PeerIdentity} {st after : HandlerState}
    (h : Move c identity st after) (hs : st.runtime.device.peer.Recorded c) :
    after.runtime.device.peer.Recorded c := by
  cases h with
  | emit effect _ | fill bytes packetId kind _ _ _ _ | suspend => exact hs
  | note s hsame => exact hs.advances hsame.device.peer
  | drop disposition _ _ => exact hs.of_acceptance rfl rfl rfl
  | giveUp device hkeeps _ =>
    exact hs.of_acceptance hkeeps.peer.identity hkeeps.peer.precomputed hkeeps.peer.acceptance
  | fail stage code now => exact recorded_fail hs

/-- As long as no timestamp is forgotten, the initiations a peer accepted in its activation have
increasing timestamps and are all different. -/
theorem accepted_initiations_increase
    (h : (peersWhere c fun s event => ¬ event.ForgetsTimestamp s).Reachable s) :
    s.device.peer.AcceptsInOrder := by
  refine WgPeer.Recorded.acceptsInOrder (peersWhere_invariant
    (P := fun s => s.device.peer.Recorded c) ?_ ?_ ?_ ?_ h)
  · intro s hdev _
    exact .of_nil (congrArg (fun device => device.peer.acceptedInitiations) hdev)
  · intro s t hsame hs
    exact hs.advances hsame.device.peer
  · intro s event entry _ hallowed hentry hs
    exact hentry.recorded hallowed hs
  · intro identity st after hmove hs
    exact hmove.recorded hs

/-- The initiation that the remote peer of the sample peer sends at a time. -/
def sampleInitiation (now : Ktime) : MessageHandshakeInitiation :=
  (noiseHandshakeCreateInitiation .transparent (.constant now 9)
    (sampleDevice 2 encodedOnes 5).peer).2.lastInitiation

/-- The sample peer receives the initiation that was sent at `sent`. -/
def sampleInitiated (now sent : Ktime) : Platform × PeerEvent :=
  sampleReceived now ((serializeHandshakeInitiation (sampleInitiation sent)).toOption.getD [])

/-- The sample peer is activated and answers an initiation. -/
def sampleAnswer : List (Platform × PeerEvent) :=
  sampleActivation (seconds 10) ++
    [sampleSent (seconds 10) 1 .none,
      sampleInitiated (seconds 11) (seconds 10),
      sampleSent (seconds 11) 2 .none]

/-- After its answer the sample peer zeroes its key material and is sent the same initiation
again. -/
def sampleReplay : List (Platform × PeerEvent) :=
  sampleAnswer ++
    [sampleExpired (seconds 600) .zeroKeyMaterial 5,
      sampleInitiated (seconds 601) (seconds 10)]

/-- A later initiation is accepted too, and after it the first one is refused. -/
theorem accepted_initiations_increase_sample :
    ∃ s : PeerRuntime, s.device.peer.acceptedInitiations.map Prod.fst =
        [sampleInitiation (seconds 10), sampleInitiation (seconds 20)] ∧
      s.device.peer.AcceptsInOrder := by
  have hrun : (sampleRun .transparent (fun s event => ¬ event.ForgetsTimestamp s) 0
      (sampleAnswer ++ [sampleInitiated (seconds 21) (seconds 20), sampleSent (seconds 21) 3 .none,
        sampleInitiated (seconds 22) (seconds 10)])).map
          (fun s => s.device.peer.acceptedInitiations.map Prod.fst) =
        some [sampleInitiation (seconds 10), sampleInitiation (seconds 20)] := by
    decide +kernel
  obtain ⟨s, hs, hacc⟩ := Option.map_eq_some_iff.mp hrun
  exact ⟨s, hacc, accepted_initiations_increase (sampleRun_reachable hs)⟩

/-- Without the condition both copies of an initiation are accepted. -/
theorem accepted_initiations_repeat : ∃ s, (peers .transparent).Reachable s ∧
      s.device.peer.acceptedInitiations.map Prod.fst =
        [sampleInitiation (seconds 10), sampleInitiation (seconds 10)] ∧
      ¬ s.device.peer.AcceptsInOrder := by
  have hrun : (sampleRun .transparent (fun _ _ => True) 0 sampleReplay).map
      (fun s => s.device.peer.acceptedInitiations.map Prod.fst) =
        some [sampleInitiation (seconds 10), sampleInitiation (seconds 10)] := by
    decide +kernel
  obtain ⟨s, hs, hacc⟩ := Option.map_eq_some_iff.mp hrun
  refine ⟨s, sampleRun_reachable hs, hacc, fun horder => ?_⟩
  have honce := horder.once
  rw [hacc] at honce
  exact absurd (List.mem_singleton_self _) (List.nodup_cons.mp honce).1

/-- A responder sends nothing under a session that the initiator has not confirmed: in every run the
next keypair of a peer, which waits for a first packet, is a responder's and has not sent. -/
theorem unconfirmed_session_unused {c : Crypto} {s : PeerRuntime} (h : (peers c).Reachable s) :
    s.device.peer.nextKeypair.isInitiator = false ∧ s.device.peer.nextKeypair.sendCounter = 0 :=
  (peersWhere_sound h).nextFresh

theorem unconfirmed_session_unused_sample : ∃ s, (peers .transparent).Reachable s ∧
    s.device.peer.nextKeypair.isValid = true ∧ s.device.peer.nextKeypair.sendCounter = 0 := by
  have hrun : (sampleRun .transparent (fun _ _ => True) 0 sampleAnswer).map
      (·.device.peer.nextKeypair.isValid) = some true := by
    decide +kernel
  obtain ⟨s, hs, hvalid⟩ := Option.map_eq_some_iff.mp hrun
  have hreach := sampleRun_reachable hs
  exact ⟨s, hreach, hvalid, (unconfirmed_session_unused hreach).2⟩

end WireguardNx.Runtime
