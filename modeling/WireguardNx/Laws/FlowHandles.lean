import WireguardNx.Laws.FlowChanges

/-!
# Flow handles as names

A handle is issued for each reservation of a flow.  The generations in the handles count the
reservations, so that no handle is issued twice before the generations come round.  Two bits of a
handle belong to none of its fields: they are clear in every handle that is issued, and the decoder
does not look at them.  So a client can name a flow of its own by values that were never issued, and
the plane hands such a value on to the adapter.
-/

namespace WireguardNx.Tunnel

open Wireguard WireguardNx.Runtime List

/-! ## Generations -/

def generationCount : Nat := 2 ^ 24 - 1

private theorem followingFlowGeneration_masked {next : UInt32}
    (hnext : next &&& generationMask ≠ 0) :
    (followingFlowGeneration next &&& generationMask).toNat =
      if (next &&& generationMask).toNat = generationCount then 1
      else (next &&& generationMask).toNat + 1 := by
  have hmasked : next.toNat % 2 ^ 24 ≠ 0 := by
    rw [← and_generationMask]
    exact fun h => hnext (UInt32.toNat_inj.mp h)
  have hone : (next + 1).toNat % 2 ^ 24 = (next.toNat + 1) % 2 ^ 24 := by
    rw [UInt32.toNat_add]
    simp only [UInt32.reduceToNat]
    omega
  have htwo : (next + 2).toNat % 2 ^ 24 = (next.toNat + 2) % 2 ^ 24 := by
    rw [UInt32.toNat_add]
    simp only [UInt32.reduceToNat]
    omega
  have hzero : ((next + 1) &&& generationMask = 0) ↔ (next.toNat + 1) % 2 ^ 24 = 0 := by
    rw [← hone, ← and_generationMask]
    exact UInt32.toNat_inj.symm
  unfold followingFlowGeneration
  rw [and_generationMask next]
  unfold generationCount
  by_cases hlast : (next + 1) &&& generationMask = 0
  · rw [if_pos hlast, and_generationMask, htwo]
    rw [hzero] at hlast
    rw [if_pos (by omega)]
    omega
  · rw [if_neg hlast, and_generationMask, hone]
    rw [hzero] at hlast
    rw [if_neg (by omega)]
    omega

/-- The generation of the next reservation after `count` of them, and the counter after it. -/
theorem allocateFlowGeneration_counted {next : UInt32} {count : Nat}
    (h : (next &&& generationMask).toNat = 1 + count % generationCount) :
    (allocateFlowGeneration next).1.toNat = 1 + count % generationCount ∧
      ((allocateFlowGeneration next).2 &&& generationMask).toNat =
        1 + (count + 1) % generationCount := by
  have hnext : next &&& generationMask ≠ 0 := by
    intro hzero
    rw [hzero] at h
    simp only [UInt32.toNat_zero] at h
    omega
  unfold allocateFlowGeneration
  rw [if_neg hnext]
  refine ⟨h, ?_⟩
  show (followingFlowGeneration next &&& generationMask).toNat = _
  rw [followingFlowGeneration_masked hnext, h]
  unfold generationCount
  split <;> omega

namespace TunnelFlowPlane

variable {plane : TunnelFlowPlane} {now : Ktime}

/-! ## What a reservation issues -/

section Reserving

/-- A reservation is refused and changes no flow, or writes the flow whose handle it returns. -/
theorem reserveConnectedUdpFlow_cases {plane : TunnelFlowPlane} {client : TunnelClientId}
    {request : OpenRequest} {now : Ktime} {availability : TransportAvailability}
    {reservation : FlowReservation} {other : TunnelFlowPlane}
    (h : plane.reserveConnectedUdpFlow client request now availability = (reservation, other)) :
    (reservation.isReserved = false ∧ other.flows = plane.flows ∧
        other.nextFlowGeneration = plane.nextFlowGeneration) ∨
      ∃ i flow, flow.Sound ∧ reservation.isReserved ∧
        reservation.result.flow = makeFlowHandle i flow ∧
        reservation.adapterToken = makeFlowHandle i flow ∧
        flow.allocationGeneration = (allocateFlowGeneration plane.nextFlowGeneration).1 ∧
        other.flows = Function.update plane.flows i flow ∧
        other.nextFlowGeneration = (allocateFlowGeneration plane.nextFlowGeneration).2 := by
  unfold reserveConnectedUdpFlow at h
  split at h
  · cases h
    exact .inl ⟨rfl, rfl, rfl⟩
  rename_i hreq
  obtain ⟨j, hclient⟩ : ∃ j, plane.findClient client = some j :=
    Option.ne_none_iff_exists'.mp fun h => hreq (.inl h)
  split at h
  · cases h
    exact .inl ⟨rfl, rfl, rfl⟩
  split at h
  · cases h
    exact .inl ⟨rfl, rfl, rfl⟩
  split at h
  · cases h
    refine .inl ⟨?_, rfl, rfl⟩
    cases plane.policy.leakProtection <;> rfl
  split at h
  · cases h
    exact .inl ⟨rfl, rfl, rfl⟩
  split at h
  · cases h
    exact .inl ⟨rfl, rfl, rfl⟩
  rename_i i _
  simp only at h
  split at h
  · cases h
    exact .inl ⟨rfl, rfl, rfl⟩
  -- the port that is found is not of interest here
  unfold allocateVirtualTuple at h
  simp only at h
  generalize (searchPort _ request.remote now 16384 _) = found at h
  obtain ⟨port, next⟩ := found
  cases port with
  | none =>
    cases h
    exact .inl ⟨rfl, rfl, rfl⟩
  | some port =>
    cases h
    refine .inr ⟨i, _, reservedFlow_sound hclient, ?_, rfl, rfl, rfl, rfl, rfl⟩
    exact decide_eq_true (makeFlowHandle_ne_zero (reservedFlow_sound hclient))

/-- The handle that an operation issues: the one of the flow it reserves. -/
def issuedBy (plane : TunnelFlowPlane) (now : Ktime) : PlaneAction → List FlowHandle
  | .reserve client request availability | .openFlow client request availability =>
    let reservation := (plane.reserveConnectedUdpFlow client request now availability).1
    if reservation.isReserved then [reservation.result.flow] else []
  | _ => []

end Reserving

/-! ## Histories -/

/-- A plane and the handles that were issued until then. -/
structure HandleHistory where
  plane : TunnelFlowPlane
  issued : List FlowHandle

def HandleHistory.extend (s : HandleHistory) (now : Ktime) (action : PlaneAction) :
    HandleHistory :=
  ⟨s.plane.apply now action, s.issued ++ s.plane.issuedBy now action⟩

def handleHistories : Machine HandleHistory :=
  .ofActions (fun s => s = ⟨initial, []⟩) (fun _ _ => True)
    (fun s (call : Ktime × PlaneAction) => some (s.extend call.1 call.2))

def handleGeneration (handle : FlowHandle) : Nat := handle.toNat / 2 ^ 8 % 2 ^ 24

/-- What the issued handles have to do with the plane. -/
structure Issued (issued : List FlowHandle) (plane : TunnelFlowPlane) : Prop where
  held : ∀ i, (plane.flows i).allocated = true → makeFlowHandle i (plane.flows i) ∈ issued
  genuine : ∀ handle ∈ issued, spareBits handle = 0
  next : (plane.nextFlowGeneration &&& generationMask).toNat = 1 + issued.length % generationCount
  counted : issued.map handleGeneration =
    (List.range issued.length).map fun k => 1 + k % generationCount

section Histories

variable {other : TunnelFlowPlane} {issued : List FlowHandle} {scope : MoveScope}
  {i : Fin maximumFlows} {flow : FlowSlot}

private theorem makeFlowHandle_spareBits (h : flow.Sound) :
    spareBits (makeFlowHandle i flow) = 0 := by
  have hvalue := makeFlowHandle_toNat (i := i) h
  have hslot : flow.clientSlot.toNat < 4 := h.slot
  have hi : i.val < 16 := i.isLt
  unfold spareBits
  omega

private theorem makeFlowHandle_generation (h : flow.Sound) :
    handleGeneration (makeFlowHandle i flow) = flow.allocationGeneration.toNat := by
  have hvalue := makeFlowHandle_toNat (i := i) h
  have hslot : flow.clientSlot.toNat < 4 := h.slot
  have hgen := h.generation_lt
  have hi : i.val < 16 := i.isLt
  unfold handleGeneration
  omega

private theorem initial_issued : Issued [] initial where
  held _ h := (nomatch h)
  genuine _ h := (nomatch h)
  next := rfl
  counted := rfl

/-- A change of a slot that is no reservation brings no other handle. -/
theorem FlowChange.handle (h : FlowChange now scope plane other i flow)
    (hres : scope.reserves = false) (halloc : flow.allocated) : (plane.flows i).allocated ∧
      makeFlowHandle i flow = makeFlowHandle i (plane.flows i) := by
  cases h with
  | alike flow hident =>
    exact ⟨(allocated_congr hident).symm.trans halloc, handle_congr hident i⟩
  | commit hlive | close hopen => exact ⟨halloc, makeFlowHandle_congr rfl rfl⟩
  | discard => cases halloc
  | reserve client request j port hreserve =>
    rw [hres] at hreserve
    cases hreserve

theorem Issued.move (h : Issued issued plane) (hmove : PlaneMove now scope plane other)
    (hres : scope.reserves = false) : Issued issued other := by
  obtain ⟨i, flow, hchange, hflows⟩ := hmove.flowChange
  refine ⟨?_, h.genuine, ?_, h.counted⟩
  · rw [hflows]
    refine (Function.forall_update_iff plane.flows fun i flow =>
      flow.allocated → makeFlowHandle i flow ∈ issued).mpr ⟨fun halloc => ?_,
        fun i _ => h.held i⟩
    obtain ⟨hbefore, hhandle⟩ := hchange.handle hres halloc
    rw [hhandle]
    exact h.held i hbefore
  · rw [hmove.generation hres]
    exact h.next

theorem Issued.moves (h : Issued issued plane) (hmoves : PlaneMoves now scope plane other)
    (hres : scope.reserves = false) : Issued issued other := by
  induction hmoves with
  | refl => exact h
  | tail _ hmove ih => exact ih.move hmove hres

/-- A reservation counts one generation, and the handle it returns is of that generation. -/
theorem Issued.reserve (h : Issued issued plane) {client : TunnelClientId} {request : OpenRequest}
    {availability : TransportAvailability} {reservation : FlowReservation}
    (hreserve : plane.reserveConnectedUdpFlow client request now availability =
      (reservation, other)) :
    Issued (issued ++ if reservation.isReserved then [reservation.result.flow] else []) other := by
  rcases reserveConnectedUdpFlow_cases hreserve with
    ⟨hrefused, hflows, hnext⟩ | ⟨i, flow, hsound, hreserved, hhandle, -, hgen, hflows, hnext⟩
  · rw [hrefused]
    simp only [Bool.false_eq_true, if_false, append_nil]
    exact ⟨by rw [hflows]; exact h.held, h.genuine, by rw [hnext]; exact h.next, h.counted⟩
  · obtain ⟨hvalue, hafter⟩ := allocateFlowGeneration_counted h.next
    rw [hreserved, hhandle]
    simp only [if_true]
    refine ⟨?_, ?_, ?_, ?_⟩
    · rw [hflows]
      refine (Function.forall_update_iff plane.flows fun i flow => flow.allocated = true →
        makeFlowHandle i flow ∈ issued ++ _).mpr ⟨fun _ => ?_, fun i' _ halloc => ?_⟩
      · exact mem_append_right _ (mem_singleton_self _)
      · exact mem_append_left _ (h.held i' halloc)
    · intro handle hmem
      rcases mem_append.mp hmem with hold | hnew
      · exact h.genuine handle hold
      · rw [mem_singleton.mp hnew]
        exact makeFlowHandle_spareBits hsound
    · rw [hnext, hafter, length_append, length_singleton]
    · rw [map_append, h.counted, length_append, length_singleton, range_succ,
        map_append, map_singleton, map_singleton, makeFlowHandle_generation hsound,
        hgen, hvalue]

theorem Issued.apply (h : Issued issued plane) (hsound : plane.Sound) (action : PlaneAction) :
    Issued (issued ++ plane.issuedBy now action) (plane.apply now action) := by
  have hmoves := apply_moves now plane action hsound.next
  have hother (hres : action.scope.reserves = false)
      (hnone : plane.issuedBy now action = []) :
      Issued (issued ++ plane.issuedBy now action) (plane.apply now action) := by
    rw [hnone, append_nil]
    exact h.moves hmoves hres
  cases action with
  | reserve client request availability => exact h.reserve (Prod.mk.eta ..).symm
  | openFlow client request availability =>
    have hreserved : Issued (issued ++ plane.issuedBy now (.openFlow client request availability))
        (plane.reserveConnectedUdpFlow client request now availability).2 :=
      h.reserve (Prod.mk.eta ..).symm
    have hafter : PlaneMoves now ⟨false, false⟩
        (plane.reserveConnectedUdpFlow client request now availability).2
        (plane.openConnectedUdpFlow client request now availability).2 :=
      openConnectedUdpFlow_after plane client request availability
    exact hreserved.moves hafter rfl
  | createClient | destroyClient | refreshPolicy | commit | cancel | prepareSend | completeSend
  | notify | receive | closeFlow | deliver | invalidate => exact hother rfl rfl

private theorem handleHistories_issued {s : HandleHistory} (h : handleHistories.Reachable s) :
    s.plane.Sound ∧ Issued s.issued s.plane := by
  refine Machine.Reachable.invariant
    (P := fun s => s.plane.Sound ∧ Issued s.issued s.plane) ?_ ?_ h
  · rintro _ rfl
    exact ⟨initial_sound, initial_issued⟩
  · rintro s _ _ ⟨hsound, hissued⟩ ⟨⟨now, action⟩, -, hstep⟩
    cases hstep
    exact ⟨(apply_invariant (P := fun _ => True) (fun _ _ _ _ _ => trivial) hsound trivial).1,
      hissued.apply hsound action⟩

/-- Before the generations come round no handle is issued twice. -/
theorem Issued.nodup (h : Issued issued plane) (hfew : issued.length < generationCount) :
    issued.Nodup := by
  refine Nodup.of_map handleGeneration ?_
  rw [h.counted]
  refine Nodup.map_on (fun k hk l hl heq => ?_) nodup_range
  have hk := mem_range.mp hk
  have hl := mem_range.mp hl
  rw [Nat.mod_eq_of_lt (by omega), Nat.mod_eq_of_lt (by omega)] at heq
  omega

end Histories

/-! ## Forged handles -/

/-- A value that was not issued but decodes like the handle of a flow of the client: the handle with
something in its spare bits. -/
def Forged (plane : TunnelFlowPlane) (client : TunnelClientId) (handle : FlowHandle) : Prop :=
  plane.findClient client ≠ none ∧ ∃ i, (plane.flows i).allocated = true ∧
    (plane.flows i).client = client ∧
    ∃ bits ∈ ([0x40, 0x80, 0xC0] : List UInt64), handle = makeFlowHandle i (plane.flows i) + bits

/-- What a client may rely on when a value names a flow: the flow is its own and the value is the
handle that was issued for it, and a token that goes on to the adapter for it was issued. -/
structure NamesFlow (s : HandleHistory) (client : TunnelClientId) (handle : FlowHandle) : Prop where
  found : ∀ i, s.plane.findFlow client handle = some i →
    (s.plane.flows i).client = client ∧ handle = makeFlowHandle i (s.plane.flows i)
  closing : ∀ token, s.plane.getFlowAdapterToken client handle = some token → token ∈ s.issued
  sending : ∀ payloadSize payload availability now,
    (s.plane.prepareSend client handle payloadSize payload availability now).1.isPrepared = true →
    (s.plane.prepareSend client handle payloadSize payload availability now).1.adapterToken ∈ s.issued

section Forgeries

variable {client : TunnelClientId} {handle : FlowHandle} {i : Fin maximumFlows}

private theorem forged_toNat {flow : FlowSlot} (h : flow.Sound) {bits : UInt64}
    (hbits : bits ∈ ([0x40, 0x80, 0xC0] : List UInt64)) : ∃ spare, 0 < spare ∧ spare < 4 ∧
      (makeFlowHandle i flow + bits).toNat = (makeFlowHandle i flow).toNat + spare * 2 ^ 6 := by
  have hvalue := makeFlowHandle_toNat (i := i) h
  have hslot : flow.clientSlot.toNat < 4 := h.slot
  have hgen := h.generation_lt
  have hclient := flow.clientGeneration.toNat_lt
  have hi : i.val < 16 := i.isLt
  simp only [mem_cons, not_mem_nil, or_false] at hbits
  rcases hbits with rfl | rfl | rfl
  · refine ⟨1, by decide, by decide, ?_⟩
    rw [UInt64.toNat_add]
    simp only [UInt64.reduceToNat]
    omega
  · refine ⟨2, by decide, by decide, ?_⟩
    rw [UInt64.toNat_add]
    simp only [UInt64.reduceToNat]
    omega
  · refine ⟨3, by decide, by decide, ?_⟩
    rw [UInt64.toNat_add]
    simp only [UInt64.reduceToNat]
    omega

/-- A forged handle finds the flow it was forged from, and is not its handle. -/
theorem Forged.findFlow (hsound : plane.Sound) (h : Forged plane client handle) :
    ∃ i, plane.findFlow client handle = some i ∧ handle ≠ makeFlowHandle i (plane.flows i) := by
  obtain ⟨hclient, i, halloc, rfl, bits, hbits, rfl⟩ := h
  obtain ⟨j, hclient⟩ := Option.ne_none_iff_exists'.mp hclient
  have hflow := hsound.flow i halloc
  obtain ⟨spare, hpositive, hspare, hvalue⟩ := forged_toNat (i := i) hflow hbits
  have hdecode : decodeFlowHandle (makeFlowHandle i (plane.flows i) + bits) =
      some ⟨i, (plane.flows i).allocationGeneration, (plane.flows i).client⟩ :=
    decodeFlowHandle_of_toNat hflow hspare (hvalue.trans (by rw [makeFlowHandle_toNat hflow]))
  refine ⟨i, ?_, fun heq => ?_⟩
  · unfold TunnelFlowPlane.findFlow
    rw [hclient, hdecode]
    simp only [halloc, and_self, if_true]
  · have hsame := congrArg UInt64.toNat heq
    omega

/-- A value that finds a flow is its handle or is forged from it. -/
theorem findFlow_cases (hsound : plane.Sound) (h : plane.findFlow client handle = some i) :
    handle = makeFlowHandle i (plane.flows i) ∨ Forged plane client handle := by
  obtain ⟨⟨j, hclient⟩, halloc, howner, hdecode⟩ := findFlow_spec h
  have hflow := hsound.flow i halloc
  rw [← howner] at hdecode
  have hvalue := toNat_of_decodeFlowHandle hflow hdecode
  have hspare : spareBits handle < 4 := Nat.mod_lt _ (by decide)
  have hhandle : handle = makeFlowHandle i (plane.flows i) +
      UInt64.ofNat (spareBits handle * 2 ^ 6) := by
    apply UInt64.toNat_inj.mp
    have hsmall : (UInt64.ofNat (spareBits handle * 2 ^ 6)).toNat = spareBits handle * 2 ^ 6 :=
      UInt64.toNat_ofNat_of_lt' (lt_of_lt_of_le (by omega : spareBits handle * 2 ^ 6 < 256)
        (by decide))
    have hlt := handle.toNat_lt
    rw [UInt64.toNat_add, hsmall, ← hvalue, Nat.mod_eq_of_lt hlt]
  have hforged (bits : UInt64) (hbits : bits ∈ ([0x40, 0x80, 0xC0] : List UInt64))
      (heq : UInt64.ofNat (spareBits handle * 2 ^ 6) = bits) : Forged plane client handle :=
    ⟨hclient ▸ Option.some_ne_none j, i, halloc, howner, bits, hbits,
      hhandle.trans (by rw [heq])⟩
  have hcases : spareBits handle = 0 ∨ spareBits handle = 1 ∨ spareBits handle = 2 ∨
      spareBits handle = 3 := by omega
  rcases hcases with hbits | hbits | hbits | hbits
  · left
    apply UInt64.toNat_inj.mp
    rw [hvalue, hbits, Nat.zero_mul, Nat.add_zero]
  · exact .inr (hforged 0x40 (by decide) (by rw [hbits]; rfl))
  · exact .inr (hforged 0x80 (by decide) (by rw [hbits]; rfl))
  · exact .inr (hforged 0xC0 (by decide) (by rw [hbits]; rfl))

/-- A datagram is prepared with the handle it names its flow by. -/
theorem prepareSend_prepared {payloadSize : Nat} {payload : List UInt8}
    {availability : TransportAvailability} {now : Ktime} {prepared : PreparedDatagram}
    {other : TunnelFlowPlane}
    (h : plane.prepareSend client handle payloadSize payload availability now = (prepared, other))
    (hprepared : prepared.isPrepared) :
    (∃ i, plane.findFlow client handle = some i) ∧ prepared.adapterToken = handle := by
  unfold prepareSend at h
  simp only at h
  split at h
  · cases h
    cases hprepared
  split at h
  · cases h
    cases hprepared
  split at h
  · cases h
    cases hprepared
  rename_i i hfind
  refine ⟨⟨i, hfind⟩, ?_⟩
  split at h
  · cases h
    cases hprepared
  split at h
  · cases h
    cases hprepared
  split at h
  · cases h
    cases hprepared
  split at h
  · cases h
    cases hprepared
  · cases h
    rfl

private theorem getFlowAdapterToken_eq_some {token : UInt64}
    (h : plane.getFlowAdapterToken client handle = some token) :
    (∃ i, plane.findFlow client handle = some i) ∧ token = handle := by
  unfold getFlowAdapterToken at h
  split at h
  · cases h
  rename_i i hfind
  split at h
  · cases h
    exact ⟨⟨i, hfind⟩, rfl⟩
  · cases h

/-- A value names a flow properly unless it is forged. -/
theorem namesFlow_iff {s : HandleHistory} (hsound : s.plane.Sound)
    (hissued : Issued s.issued s.plane) (client : TunnelClientId) (handle : FlowHandle) :
    NamesFlow s client handle ↔ ¬ Forged s.plane client handle := by
  constructor
  · intro hnames hforged
    obtain ⟨i, hfind, hne⟩ := hforged.findFlow hsound
    exact hne (hnames.found i hfind).2
  · intro hgenuine
    have hexact (i : Fin maximumFlows) (hfind : s.plane.findFlow client handle = some i) :
        handle = makeFlowHandle i (s.plane.flows i) :=
      (findFlow_cases hsound hfind).resolve_right hgenuine
    have hheld (hfind : ∃ i, s.plane.findFlow client handle = some i) : handle ∈ s.issued := by
      obtain ⟨i, hfind⟩ := hfind
      rw [hexact i hfind]
      exact hissued.held i (findFlow_spec hfind).2.1
    refine ⟨fun i hfind => ⟨(findFlow_spec hfind).2.2.1, hexact i hfind⟩, fun token htoken => ?_,
      fun payloadSize payload availability now hprepared => ?_⟩
    · obtain ⟨hfind, rfl⟩ := getFlowAdapterToken_eq_some htoken
      exact hheld hfind
    · obtain ⟨hfind, htoken⟩ := prepareSend_prepared (Prod.mk.eta ..).symm hprepared
      rw [htoken]
      exact hheld hfind

private theorem mem_copyClientAdapterTokens {s : HandleHistory} (hissued : Issued s.issued s.plane)
    {token : UInt64} (h : token ∈ s.plane.copyClientAdapterTokens client) : token ∈ s.issued := by
  unfold copyClientAdapterTokens at h
  split at h
  · cases h
  · obtain ⟨i, hi, rfl⟩ := mem_map.mp h
    obtain ⟨hopen, -⟩ := Bool.and_eq_true_iff.mp (mem_filter.mp hi).2
    exact hissued.held i (isLive_iff.mp (isLive_of_isOpen hopen)).1

end Forgeries

/-- In every history a value names a flow of the client by the handle issued for it, and no other
token goes to the adapter, exactly when the value is not forged in the spare bits; no handle is
issued twice before the generations come round; and the tokens of a client that goes were issued. -/
theorem flow_handles_name_flows {s : HandleHistory} (h : handleHistories.Reachable s) :
    (∀ client handle, NamesFlow s client handle ↔ ¬ Forged s.plane client handle) ∧
      (s.issued.length < 2 ^ 24 - 1 → s.issued.Nodup) ∧
      ∀ client, ∀ token ∈ s.plane.copyClientAdapterTokens client, token ∈ s.issued := by
  obtain ⟨hsound, hissued⟩ := handleHistories_issued h
  exact ⟨namesFlow_iff hsound hissued, hissued.nodup,
    fun client token htoken => mem_copyClientAdapterTokens hissued htoken⟩

/-- The histories of some operations at given times. -/
def historyOf (calls : List (Ktime × PlaneAction)) : HandleHistory :=
  calls.foldl (fun s call => s.extend call.1 call.2) ⟨initial, []⟩

theorem historyOf_reachable {calls : List (Ktime × PlaneAction)} :
    handleHistories.Reachable (historyOf calls) := by
  refine foldlRecOn (motive := handleHistories.Reachable) calls _ (.start rfl) ?_
  exact fun s hs call _ => hs.step ⟨call, trivial, rfl⟩

def sampleHistory : HandleHistory := historyOf (sampleSetup ++ [(0, sampleOpen)])

/-- The handle of that flow with bit 6 set. -/
def sampleForgery : FlowHandle := sampleHistory.issued.headD 0 + 0x40

theorem flow_handles_name_flows_sample : ∃ s, handleHistories.Reachable s ∧ s.issued.length = 1 ∧
    (∀ client handle, NamesFlow s client handle ↔ ¬ Forged s.plane client handle) ∧
      (s.issued.length < 2 ^ 24 - 1 → s.issued.Nodup) ∧
      ∀ client, ∀ token ∈ s.plane.copyClientAdapterTokens client, token ∈ s.issued :=
  ⟨sampleHistory, historyOf_reachable, by decide +kernel,
    flow_handles_name_flows historyOf_reachable⟩

/-- A flow is found by a value that was never issued, and that value is handed on to the adapter. -/
theorem forged_handle_accepted : handleHistories.Reachable sampleHistory ∧
    sampleHistory.plane.findFlow sampleClient sampleForgery = some 0 ∧
    sampleForgery ≠ makeFlowHandle 0 (sampleHistory.plane.flows 0) ∧
    sampleForgery ∉ sampleHistory.issued ∧
    sampleHistory.plane.getFlowAdapterToken sampleClient sampleForgery = some sampleForgery ∧
    (sampleHistory.plane.prepareSend sampleClient sampleForgery 1 [7] ⟨true, true⟩ 0).1.adapterToken =
      sampleForgery :=
  ⟨historyOf_reachable, by decide +kernel⟩

end TunnelFlowPlane

end WireguardNx.Tunnel
