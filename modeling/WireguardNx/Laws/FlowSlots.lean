import WireguardNx.Tunnel.FlowPlane
import Mathlib.Data.List.FinRange

/-!
# Flow handles and slots

A handle packs the slot of a flow, its allocation generation and its client.  For the flows the plane
allocates nothing is lost in it: it decodes to what it was made of, so that a handle names one flow
and the lookup of a flow by its own handle finds it.

The fields are wide enough for the values that a plane gives them, client slots below 4 and
generations below 2^24, and for no more; `FlowSlot.Sound` says so of a flow.
-/

namespace WireguardNx.Tunnel

open Wireguard WireguardNx.Runtime

/-! ## Handles -/

/-- What every allocated flow meets: its client slot exists and its generations are those a handle
can carry. -/
structure FlowSlot.Sound (flow : FlowSlot) : Prop where
  slot : flow.clientSlot.toNat < maximumClientContexts
  client : flow.clientGeneration ≠ 0
  generation : flow.allocationGeneration ≠ 0
  generation_lt : flow.allocationGeneration.toNat < 2 ^ 24

theorem and_generationMask (value : UInt32) :
    (value &&& generationMask).toNat = value.toNat % 2 ^ 24 := by
  rw [UInt32.toNat_and]
  exact Nat.and_two_pow_sub_one_eq_mod _ 24

/-- A generation that is handed out fits a handle and is not zero. -/
theorem allocateFlowGeneration_sound (next : UInt32) :
    (allocateFlowGeneration next).1 ≠ 0 ∧ (allocateFlowGeneration next).1.toNat < 2 ^ 24 := by
  have hbound (value : UInt32) : (value &&& generationMask).toNat < 2 ^ 24 := by
    rw [and_generationMask]
    exact Nat.mod_lt _ (by decide)
  unfold allocateFlowGeneration
  by_cases hzero : next &&& generationMask = 0
  · rw [if_pos hzero]
    have hmod : next.toNat % 2 ^ 24 = 0 := by rw [← and_generationMask, hzero]; rfl
    have hnext : ((next + 1) &&& generationMask).toNat = 1 := by
      rw [and_generationMask, UInt32.toNat_add]
      simp only [UInt32.reduceToNat]
      omega
    have hstep : followingFlowGeneration next = next + 1 := by
      unfold followingFlowGeneration
      rw [if_neg]
      intro h
      rw [h] at hnext
      cases hnext
    rw [hstep]
    refine ⟨fun h => ?_, hbound _⟩
    rw [show (next + 1) &&& generationMask = 0 from h] at hnext
    cases hnext
  · rw [if_neg hzero]
    exact ⟨hzero, hbound _⟩

/-- A 64-bit word over a part that does not reach it. -/
theorem shiftLeft_or_toNat {low high shift : UInt64} (hshift : shift.toNat < 64)
    (hlow : low.toNat < 2 ^ shift.toNat) (hhigh : high.toNat * 2 ^ shift.toNat < 2 ^ 64) :
    ((high <<< shift) ||| low).toNat = high.toNat * 2 ^ shift.toNat + low.toNat := by
  rw [UInt64.toNat_or, UInt64.toNat_shiftLeft, Nat.mod_eq_of_lt hshift, Nat.shiftLeft_eq,
    Nat.mod_eq_of_lt hhigh, ← Nat.shiftLeft_eq, ← Nat.shiftLeft_add_eq_or_of_lt hlow]

section Handles

variable {i j : Fin maximumFlows} {flow other : FlowSlot}

/-- A handle as a number. -/
theorem makeFlowHandle_toNat (h : flow.Sound) :
    (makeFlowHandle i flow).toNat = flow.clientGeneration.toNat * 2 ^ 32 +
      (flow.allocationGeneration.toNat * 2 ^ 8 + (flow.clientSlot.toNat * 2 ^ 4 + i.val)) := by
  have hslot : flow.clientSlot.toNat < 4 := h.slot
  have hgen := h.generation_lt
  have hclient := flow.clientGeneration.toNat_lt
  have hi : i.val < 16 := i.isLt
  have hmask : flow.allocationGeneration &&& generationMask = flow.allocationGeneration := by
    apply UInt32.toNat_inj.mp
    rw [and_generationMask, Nat.mod_eq_of_lt hgen]
  have hindex : (UInt64.ofNat i.val).toNat = i.val :=
    UInt64.toNat_ofNat_of_lt' (lt_trans hi (by decide))
  have hlow : ((flow.clientSlot.toUInt64 <<< 4) ||| UInt64.ofNat i.val).toNat =
      flow.clientSlot.toNat * 2 ^ 4 + i.val := by
    rw [shiftLeft_or_toNat (by decide) (by rw [hindex]; exact hi)
      (by simp only [UInt8.toNat_toUInt64, UInt64.reduceToNat]; omega), hindex]
    rfl
  have hmiddle : ((flow.allocationGeneration.toUInt64 <<< 8) |||
      ((flow.clientSlot.toUInt64 <<< 4) ||| UInt64.ofNat i.val)).toNat =
      flow.allocationGeneration.toNat * 2 ^ 8 + (flow.clientSlot.toNat * 2 ^ 4 + i.val) := by
    rw [shiftLeft_or_toNat (by decide) (by rw [hlow]; simp only [UInt64.reduceToNat]; omega)
      (by simp only [UInt32.toNat_toUInt64, UInt64.reduceToNat]; omega), hlow]
    rfl
  unfold makeFlowHandle
  simp only [hmask, UInt64.or_assoc]
  rw [shiftLeft_or_toNat (by decide) (by rw [hmiddle]; simp only [UInt64.reduceToNat]; omega)
    (by simp only [UInt32.toNat_toUInt64, UInt64.reduceToNat]; omega), hmiddle]
  rfl

theorem shiftRight_toNat64 {handle shift : UInt64} (hshift : shift.toNat < 64) :
    (handle >>> shift).toNat = handle.toNat / 2 ^ shift.toNat := by
  rw [UInt64.toNat_shiftRight, Nat.mod_eq_of_lt hshift, Nat.shiftRight_eq_div_pow]

/-- The fields that a handle decodes to, as parts of its number. -/
theorem handleFields_toNat (handle : FlowHandle) :
    ((handle >>> 8) &&& 0x00FFFFFF).toUInt32.toNat = handle.toNat / 2 ^ 8 % 2 ^ 24 ∧
      (handle >>> 32).toUInt32.toNat = handle.toNat / 2 ^ 32 ∧
      ((handle >>> 4) &&& 0x03).toUInt8.toNat = handle.toNat / 2 ^ 4 % 4 ∧
      (Fin.ofNat maximumFlows (handle &&& 0x0F).toNat).val = handle.toNat % 16 := by
  have hlt := handle.toNat_lt
  refine ⟨?_, ?_, ?_, ?_⟩
  · have hmask (value : Nat) : value &&& 16777215 = value % 2 ^ 24 :=
      Nat.and_two_pow_sub_one_eq_mod _ 24
    rw [UInt64.toNat_toUInt32, UInt64.toNat_and, shiftRight_toNat64 (by decide)]
    simp only [UInt64.reduceToNat, hmask]
    omega
  · rw [UInt64.toNat_toUInt32, shiftRight_toNat64 (by decide)]
    simp only [UInt64.reduceToNat]
    omega
  · have hmask (value : Nat) : value &&& 3 = value % 2 ^ 2 := Nat.and_two_pow_sub_one_eq_mod _ 2
    rw [UInt64.toNat_toUInt8, UInt64.toNat_and, shiftRight_toNat64 (by decide)]
    simp only [UInt64.reduceToNat, hmask]
    omega
  · have hmask (value : Nat) : value &&& 15 = value % 2 ^ 4 := Nat.and_two_pow_sub_one_eq_mod _ 4
    show (handle &&& 0x0F).toNat % 16 = handle.toNat % 16
    rw [UInt64.toNat_and]
    simp only [UInt64.reduceToNat, hmask]
    omega

/-- The bits 6 and 7 of a handle, which no field uses. -/
def spareBits (handle : FlowHandle) : Nat := handle.toNat / 2 ^ 6 % 4

/-- A handle with anything in its spare bits decodes to the fields of a flow. -/
theorem decodeFlowHandle_of_toNat (h : flow.Sound) {handle : FlowHandle} {spare : Nat}
    (hspare : spare < 4) (hvalue : handle.toNat = flow.clientGeneration.toNat * 2 ^ 32 +
      (flow.allocationGeneration.toNat * 2 ^ 8 +
        (flow.clientSlot.toNat * 2 ^ 4 + i.val)) + spare * 2 ^ 6) :
    decodeFlowHandle handle = some ⟨i, flow.allocationGeneration, flow.client⟩ := by
  have hslot : flow.clientSlot.toNat < 4 := h.slot
  have hgen := h.generation_lt
  have hclient := flow.clientGeneration.toNat_lt
  have hi : i.val < 16 := i.isLt
  have hpositive : flow.clientGeneration.toNat ≠ 0 := fun hzero =>
    h.client (UInt32.toNat_inj.mp hzero)
  have hnonzero : handle ≠ 0 := by
    rintro rfl
    simp only [UInt64.toNat_zero] at hvalue
    omega
  obtain ⟨hgenerationOf, hclientOf, hslotOf, hindexOf⟩ := handleFields_toNat handle
  replace hgenerationOf : ((handle >>> 8) &&& 0x00FFFFFF).toUInt32 = flow.allocationGeneration :=
    UInt32.toNat_inj.mp (by omega)
  replace hclientOf : (handle >>> 32).toUInt32 = flow.clientGeneration :=
    UInt32.toNat_inj.mp (by omega)
  replace hslotOf : ((handle >>> 4) &&& 0x03).toUInt8 = flow.clientSlot :=
    UInt8.toNat_inj.mp (by omega)
  replace hindexOf : Fin.ofNat maximumFlows (handle &&& 0x0F).toNat = i :=
    Fin.ext (by omega)
  unfold decodeFlowHandle
  simp only [hgenerationOf, hclientOf, hslotOf, hindexOf]
  rw [if_neg (by simp only [not_or]; exact ⟨hnonzero, h.generation, h.client⟩)]
  rfl

/-- A handle decodes to what it was made of. -/
theorem decodeFlowHandle_makeFlowHandle (h : flow.Sound) :
    decodeFlowHandle (makeFlowHandle i flow) = some ⟨i, flow.allocationGeneration, flow.client⟩ :=
  decodeFlowHandle_of_toNat h (by decide : 0 < 4)
    (by rw [makeFlowHandle_toNat h, Nat.zero_mul, Nat.add_zero])

/-- A value that decodes to the fields of a flow is the flow's handle but for the spare bits. -/
theorem toNat_of_decodeFlowHandle (h : flow.Sound) {handle : FlowHandle}
    (hdecode : decodeFlowHandle handle = some ⟨i, flow.allocationGeneration, flow.client⟩) :
    handle.toNat = (makeFlowHandle i flow).toNat + spareBits handle * 2 ^ 6 := by
  unfold decodeFlowHandle at hdecode
  simp only at hdecode
  split at hdecode
  · cases hdecode
  obtain ⟨hgenerationOf, hclientOf, hslotOf, hindexOf⟩ := handleFields_toNat handle
  obtain ⟨hindex, hgen, hclient⟩ := DecodedFlowHandle.mk.inj (Option.some.inj hdecode)
  obtain ⟨hslot, hclient⟩ := TunnelClientId.mk.inj hclient
  rw [hindex] at hindexOf
  rw [hgen] at hgenerationOf
  rw [hslot] at hslotOf
  rw [hclient] at hclientOf
  have hspare : spareBits handle = handle.toNat / 2 ^ 6 % 4 := rfl
  rw [makeFlowHandle_toNat h]
  omega

theorem makeFlowHandle_ne_zero (h : flow.Sound) : makeFlowHandle i flow ≠ 0 := by
  intro hzero
  have hdecode := decodeFlowHandle_makeFlowHandle (i := i) h
  rw [hzero] at hdecode
  cases hdecode

/-- A handle names one flow. -/
theorem makeFlowHandle_inj (hflow : flow.Sound) (hother : other.Sound)
    (h : makeFlowHandle i flow = makeFlowHandle j other) :
    i = j ∧ flow.allocationGeneration = other.allocationGeneration ∧
    flow.client = other.client := by
  have hdecode := decodeFlowHandle_makeFlowHandle (i := i) hflow
  rw [h, decodeFlowHandle_makeFlowHandle hother, Option.some.injEq,
    DecodedFlowHandle.mk.injEq] at hdecode
  exact ⟨hdecode.1.symm, hdecode.2.1.symm, hdecode.2.2.symm⟩

/-- The handle of a flow depends on who it is only. -/
theorem makeFlowHandle_congr (hclient : flow.client = other.client)
    (hgen : flow.allocationGeneration = other.allocationGeneration) :
    makeFlowHandle i flow = makeFlowHandle i other := by
  obtain ⟨hslot, hclient⟩ := TunnelClientId.mk.inj hclient
  unfold makeFlowHandle
  rw [hslot, hclient, hgen]

end Handles

namespace TunnelFlowPlane

variable {plane : TunnelFlowPlane}

/-! ## Slots -/

section Slots

variable {i i' : Fin maximumFlows} {j j' : Fin maximumClientContexts}
  {k k' : Fin inboundPacketSlabCount} {flow : FlowSlot} {client : ClientSlot} {slab : InboundSlab}

@[simp] theorem setFlow_clients : (plane.setFlow i flow).clients = plane.clients := rfl
@[simp] theorem setFlow_flows :
    (plane.setFlow i flow).flows = Function.update plane.flows i flow := rfl
@[simp] theorem setClient_clients :
    (plane.setClient j client).clients = Function.update plane.clients j client := rfl
@[simp] theorem setClient_flows : (plane.setClient j client).flows = plane.flows := rfl
@[simp] theorem setSlab_flows : (plane.setSlab k slab).flows = plane.flows := rfl
@[simp] theorem setSlab_inboundSlabs :
    (plane.setSlab k slab).inboundSlabs = Function.update plane.inboundSlabs k slab := rfl
end Slots

/-! ## Lookups -/

section Lookups

variable {client : TunnelClientId} {handle : FlowHandle} {i : Fin maximumFlows}
  {j : Fin maximumClientContexts}

theorem findClient_eq_some : plane.findClient client = some j ↔
    client.slot.toNat = j.val ∧ client.generation ≠ 0 ∧ (plane.clients j).allocated ∧
      (plane.clients j).generation = client.generation := by
  unfold findClient
  constructor
  · intro h
    split at h
    · split at h
      · rename_i hbound hclient
        cases h
        exact ⟨rfl, hclient⟩
      · cases h
    · cases h
  · rintro ⟨hslot, hclient⟩
    obtain ⟨index, hindex⟩ := j
    subst hslot
    rw [dif_pos hindex, if_pos hclient]

/-- Only who the clients are matters for finding one. -/
theorem findClient_congr {other : TunnelFlowPlane}
    (h : ∀ j, (other.clients j).allocated = (plane.clients j).allocated ∧
      (other.clients j).generation = (plane.clients j).generation) :
    other.findClient client = plane.findClient client := by
  ext j
  rw [findClient_eq_some, findClient_eq_some, (h j).1, (h j).2]

theorem findFlow_spec (h : plane.findFlow client handle = some i) :
    (∃ j, plane.findClient client = some j) ∧ (plane.flows i).allocated ∧
      (plane.flows i).client = client ∧
      decodeFlowHandle handle = some ⟨i, (plane.flows i).allocationGeneration, client⟩ := by
  unfold findFlow at h
  split at h
  · rename_i decoded hclient hdecode
    split at h
    · rename_i hflow
      obtain ⟨hdecoded, halloc, hgen, howner⟩ := hflow
      cases h
      refine ⟨⟨_, hclient⟩, halloc, howner, ?_⟩
      rw [hdecode, hgen, ← hdecoded]
    · cases h
  · cases h

/-- The lookup of an allocated flow by its own handle finds it. -/
theorem findFlow_makeFlowHandle (halloc : (plane.flows i).allocated)
    (hsound : (plane.flows i).Sound) (hclient : plane.findClient (plane.flows i).client = some j) :
    plane.findFlow (plane.flows i).client (makeFlowHandle i (plane.flows i)) = some i := by
  unfold findFlow
  rw [hclient, decodeFlowHandle_makeFlowHandle hsound]
  simp only [halloc, and_self, if_true]

theorem slotOfHandle_spec (h : plane.slotOfHandle handle = some i) :
    (plane.flows i).allocated ∧ makeFlowHandle i (plane.flows i) = handle := by
  have hfound := List.find?_some h
  simpa using hfound

end Lookups

variable {flow : FlowSlot}

theorem isLive_iff : isLive flow ↔ flow.allocated ∧ flow.closed = false := by
  unfold isLive
  simp

theorem isOpen_iff : isOpen flow ↔ isLive flow ∧ flow.pending = false := by
  unfold isOpen isLive
  simp

theorem not_isLive_iff : isLive flow = false ↔ flow.allocated = false ∨ flow.closed := by
  unfold isLive
  cases flow.allocated <;> simp

/-- A slot holds an open flow, a reservation, or no live flow. -/
theorem flow_cases (flow : FlowSlot) : isOpen flow ∨
    (isLive flow ∧ flow.pending) ∨ isLive flow = false := by
  rw [isOpen_iff]
  cases isLive flow <;> cases flow.pending <;> simp

theorem isLive_of_isOpen (h : isOpen flow) : isLive flow :=
  (isOpen_iff.mp h).1

end TunnelFlowPlane

end WireguardNx.Tunnel
