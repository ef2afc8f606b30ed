import WireguardNx.Lib.Machine
import WireguardNx.Runtime.AutoStart

/-!
# The auto-start selection agrees with its file

The call with the last number is the only one whose request is current, so nothing is decided while
it is on its way.  When it commits, the file holds its name.  When its write fails, what counts is
whether it has superseded another call: that call has answered or will answer success without having
taken effect, and it may have left its name in the file.  As long as a write of the current request
fails only where it has superseded nobody, the selection and the file agree whenever no call is on
its way, and every successful call has taken effect unless a later one was successful.
-/

namespace WireguardNx.Runtime.AutoStartRuntime

open Function List

variable {peerIndex : Int} {names : List PeerName} {k' : Nat}

variable {s t : AutoStartRuntime} {k : Nat} {request : AutoStartPersistenceRequest}
  {call : AutoStartCall}

/-! ## Requests -/

/-- A request is for a valid selection and has its name. -/
structure Fits (s : AutoStartRuntime) (request : AutoStartPersistenceRequest) : Prop where
  valid : s.isValidPeerIndex request.peerIndex = true
  name : request.peerName = (selectedName s.names request.peerIndex).getD []

theorem selectedName_of_valid (h : isValidPeerSelection peerIndex names.length) :
    (peerIndex < 0 ∧ selectedName names peerIndex = none) ∨
      ∃ name : PeerName, ¬ peerIndex < 0 ∧ names[peerIndex.toNat]? = some name ∧
        selectedName names peerIndex = some name.val := by
  unfold selectedName
  by_cases hnone : peerIndex < 0
  · exact .inl ⟨hnone, if_pos hnone⟩
  · have hlt : peerIndex.toNat < names.length := by
      unfold isValidPeerSelection at h
      simp only [Bool.and_eq_true, decide_eq_true_eq] at h
      omega
    have hname : names[peerIndex.toNat]? = some names[peerIndex.toNat] :=
      getElem?_eq_getElem hlt
    exact .inr ⟨_, hnone, hname, by rw [if_neg hnone, hname, Option.map_some]⟩

private theorem captureAutoStartPersistenceRequest_spec
    (h : s.captureAutoStartPersistenceRequest peerIndex = some request) :
    request.generation = s.nextGeneration ∧ request.peerIndex = peerIndex ∧ s.Fits request := by
  unfold captureAutoStartPersistenceRequest at h
  split at h
  · cases h
  rename_i hvalid
  have hvalid : s.isValidPeerIndex peerIndex := eq_true_of_ne_false hvalid
  rcases selectedName_of_valid hvalid with ⟨hnone, hname⟩ | ⟨name, hsome, hfound, hname⟩
  · rw [if_pos hnone] at h
    cases h
    exact ⟨rfl, rfl, hvalid, by rw [hname]; rfl⟩
  · rw [if_neg hsome, hfound] at h
    cases h
    refine ⟨rfl, rfl, hvalid, ?_⟩
    have hshort := name.property.2
    simp only [hname, Option.getD_some]
    exact take_of_length_le (by unfold peerNameSize at *; omega)

theorem isCurrent_iff (h : s.Fits request) : s.isCurrentAutoStartPersistenceRequest request ↔
      request.generation = s.currentGeneration := by
  unfold isCurrentAutoStartPersistenceRequest
  rw [h.valid, Bool.and_true, Bool.and_eq_true, decide_eq_true_eq]
  refine ⟨fun hboth => hboth.1, fun hgen => ⟨hgen, ?_⟩⟩
  rw [h.name]
  rcases selectedName_of_valid h.valid with ⟨hnone, -⟩ | ⟨name, -, hfound, hname⟩
  · simp only [hnone, decide_true, Bool.true_or]
  · simp only [hfound, hname, Option.map_some, Option.getD_some, decide_true, Bool.or_true]

/-- A write that no file operation spoils leaves the name of the selection. -/
theorem storeAutoStartPeerName_of_fits (h : s.Fits request) :
    storeAutoStartPeerName (if request.peerIndex < 0 then [] else request.peerName) =
      some (selectedName s.names request.peerIndex) := by
  rcases selectedName_of_valid h.valid with ⟨hnone, hname⟩ | ⟨name, hsome, -, hname⟩
  · rw [if_pos hnone, hname]
    rfl
  · rw [if_neg hsome, h.name, hname, Option.getD_some]
    unfold storeAutoStartPeerName
    rw [if_neg name.property.1, if_pos name.property.2]

/-! ## What a step can do -/

/-- A step is safe when the number it gives out is of no call on its way, and when a write of the
current request fails only where no other call was numbered since the last committed one that has
not returned an error. -/
def FailsAlone (s : AutoStartRuntime) : Action → Prop
  | .setAutoStartPeer _ => ∀ k < s.numbered + 1, ∀ call ∈ s.calls k,
      call.request.generation ≠ s.nextGeneration
  | .store k false => ∀ call ∈ s.calls k,
      s.isCurrentAutoStartPersistenceRequest call.request = true → s.unsettled = [k]
  | _ => True

instance (s : AutoStartRuntime) : (action : Action) → Decidable (s.FailsAlone action)
  | .setAutoStartPeer _ => inferInstanceAs (Decidable (∀ k < s.numbered + 1, ∀ call ∈ s.calls k,
      call.request.generation ≠ s.nextGeneration))
  | .store k false => inferInstanceAs (Decidable (∀ call ∈ s.calls k,
      s.isCurrentAutoStartPersistenceRequest call.request = true → s.unsettled = [k]))
  | .store _ true | .check _ | .commit _ => instDecidableTrue

/-! ## Calls on their way -/

/-- The calls on their way have numbers that were given out, requests for valid selections, and only
the last of them is current; the mutex is with the one that has passed its check. -/
structure Numbered (s : AutoStartRuntime) : Prop where
  bound : ∀ k call, s.calls k = some call → 0 < k ∧ k ≤ s.numbered
  fits : ∀ k call, s.calls k = some call → s.Fits call.request
  current : ∀ k call, s.calls k = some call →
    (call.request.generation = s.currentGeneration ↔ k = s.numbered)
  mutex : ∀ k call, s.calls k = some call →
    (call.phase ≠ .requested ↔ s.persistenceMutex = some k)
  held : ∀ k, s.persistenceMutex = some k → ∃ call, s.calls k = some call

/-- A call stays what it is while another one changes. -/
theorem of_update {entry : Option AutoStartCall} (h : update s.calls k entry k' = some call) :
    (k' = k ∧ entry = some call) ∨ (k' ≠ k ∧ s.calls k' = some call) := by
  by_cases hk : k' = k
  · subst hk
    rw [update_self] at h
    exact .inl ⟨rfl, h⟩
  · rw [update_of_ne hk] at h
    exact .inr ⟨hk, h⟩

/-- The calls that are left when one returns. -/
theorem of_finish (h : update s.calls k none k' = some call) : k' ≠ k ∧ s.calls k' = some call := by
  rcases of_update h with ⟨-, hnone⟩ | hkept
  · cases hnone
  · exact hkept

theorem finish_none (h : s.calls k' = none) : update s.calls k none k' = none := by
  by_cases hk : k' = k
  · rw [hk, update_self]
  · rw [update_of_ne hk, h]

theorem Numbered.isCurrent_iff (h : s.Numbered) (hcall : s.calls k = some call) :
    s.isCurrentAutoStartPersistenceRequest call.request ↔ k = s.numbered :=
  (AutoStartRuntime.isCurrent_iff (h.fits k call hcall)).trans (h.current k call hcall)

/-- Only the call with the mutex has passed its check. -/
theorem Numbered.requested_of_ne (h : s.Numbered) {call' : AutoStartCall}
    (hcall : s.calls k = some call) (hchecked : call.phase ≠ .requested) (hne : k' ≠ k)
    (hcall' : s.calls k' = some call') : call'.phase = .requested := by
  by_contra hphase
  have hheld := (h.mutex k call hcall).mp hchecked
  have hheld' := (h.mutex k' call' hcall').mp hphase
  rw [hheld] at hheld'
  exact hne (Option.some.inj hheld').symm

/-- A call that has passed its check goes on with the same request. -/
theorem Numbered.setCall (h : s.Numbered) (hcall : s.calls k = some call) {phase : AutoStartPhase}
    (hphase : phase ≠ .requested) (hmutex : s.persistenceMutex = none ∨ call.phase ≠ .requested) :
    Numbered ({ s with persistenceMutex := some k }.setCall k ⟨call.request, phase⟩) where
  bound k' call' hcall' := by
    rcases of_update hcall' with ⟨rfl, -⟩ | ⟨-, hold⟩
    · exact h.bound k' call hcall
    · exact h.bound k' call' hold
  fits k' call' hcall' := by
    rcases of_update hcall' with ⟨rfl, hnew⟩ | ⟨-, hold⟩
    · cases hnew
      exact ⟨(h.fits k' call hcall).valid, (h.fits k' call hcall).name⟩
    · exact ⟨(h.fits k' call' hold).valid, (h.fits k' call' hold).name⟩
  current k' call' hcall' := by
    rcases of_update hcall' with ⟨rfl, hnew⟩ | ⟨-, hold⟩
    · cases hnew
      exact h.current k' call hcall
    · exact h.current k' call' hold
  mutex k' call' hcall' := by
    rcases of_update hcall' with ⟨rfl, hnew⟩ | ⟨hne, hold⟩
    · cases hnew
      exact ⟨fun _ => rfl, fun _ => hphase⟩
    · have hrequested : call'.phase = .requested := by
        rcases hmutex with hfree | hchecked
        · by_contra hheld
          have := (h.mutex k' call' hold).mp hheld
          rw [hfree] at this
          cases this
        · exact h.requested_of_ne hcall hchecked hne hold
      exact ⟨fun hheld => absurd hrequested hheld, fun heq => absurd (Option.some.inj heq).symm hne⟩
  held k' hheld := by
    cases hheld
    exact ⟨_, update_self ..⟩

/-- A call returns; what it leaves behind in the selection and in the history is left open. -/
theorem Numbered.finish (h : s.Numbered) (k : Nat) (peerIndex : Int) (succeeded : Bool)
    (hsame : t.names = s.names ∧ t.currentGeneration = s.currentGeneration ∧
      t.persistenceMutex = s.persistenceMutex ∧ t.calls = s.calls ∧ t.numbered = s.numbered) :
    (t.finish k peerIndex succeeded).Numbered := by
  obtain ⟨hnames, hgen, hmutex, hcalls, hnumbered⟩ := hsame
  have hkept {k' : Nat} {call' : AutoStartCall}
      (hcall' : (t.finish k peerIndex succeeded).calls k' = some call') :
      k' ≠ k ∧ s.calls k' = some call' := hcalls ▸ of_finish hcall'
  refine ⟨fun k' call' hcall' => ?_, fun k' call' hcall' => ?_, fun k' call' hcall' => ?_,
    fun k' call' hcall' => ?_, fun k' hheld => ?_⟩
  · exact hnumbered ▸ h.bound k' call' (hkept hcall').2
  · obtain ⟨hvalid, hname⟩ := h.fits k' call' (hkept hcall').2
    refine ⟨?_, ?_⟩
    · show isValidPeerSelection _ t.names.length
      rw [hnames]
      exact hvalid
    · show _ = (selectedName t.names _).getD []
      rw [hnames]
      exact hname
  · show _ = t.currentGeneration ↔ k' = t.numbered
    rw [hgen, hnumbered]
    exact h.current k' call' (hkept hcall').2
  · obtain ⟨hne, hold⟩ := hkept hcall'
    show _ ↔ (if t.persistenceMutex = some k then none else t.persistenceMutex) = some k'
    rw [hmutex, h.mutex k' call' hold]
    split
    · rename_i hheld
      rw [hheld]
      exact ⟨fun heq => absurd (Option.some.inj heq).symm hne, nofun⟩
    · exact Iff.rfl
  · replace hheld : (if t.persistenceMutex = some k then none else t.persistenceMutex) = some k' :=
      hheld
    rw [hmutex] at hheld
    split at hheld
    · cases hheld
    · rename_i hother
      have hne : k' ≠ k := by
        rintro rfl
        exact hother hheld
      show ∃ call, update t.calls k none k' = some call
      rw [update_of_ne hne, hcalls]
      exact h.held k' hheld

/-! ## What is settled -/

/-- What the selection, the file and the calls that returned have to do with the calls on their
way. -/
structure Settled (s : AutoStartRuntime) : Prop where
  after : ∀ k ∈ s.unsettled, s.committed < k
  pending : ∀ k call, s.calls k = some call → s.committed < k → k ∈ s.unsettled
  leader : s.unsettled ≠ [] → s.calls s.numbered ≠ none
  holder : ∀ k, s.persistenceMutex = some k → s.committed < k
  gone : s.committed ≤ s.numbered ∧ s.calls s.committed = none
  stored : ∀ k call, s.calls k = some call → call.phase = .stored →
    s.file = selectedName s.names call.request.peerIndex
  agrees : s.Agrees ∨ (∃ k call, s.calls k = some call ∧ call.phase = .stored) ∨
    ∃ r ∈ s.returned, r.succeeded = true ∧ r.number ∈ s.unsettled
  returned : ∀ r ∈ s.returned, r.number ≤ s.numbered ∧ s.calls r.number = none
  success : ∀ r ∈ s.returned, r.succeeded = true → r.number ≤ s.committed ∨ r.number ∈ s.unsettled
  effect : s.committed = 0 ∨ ∃ r ∈ s.returned, r.number = s.committed ∧ r.succeeded = true
  selected : ∀ r ∈ s.returned, r.number = s.committed → s.autoStartPeerIndex = r.peerIndex

/-- Both together are kept by every step. -/
structure Kept (s : AutoStartRuntime) : Prop where
  numbered : s.Numbered
  settled : s.Settled

theorem Kept.not_committed (h : s.Kept) (hcall : s.calls k = some call) : k ≠ s.committed := by
  rintro rfl
  rw [h.settled.gone.2] at hcall
  cases hcall

theorem Kept.not_returned (h : s.Kept) (hcall : s.calls k = some call) {r : AutoStartReturn}
    (hr : r ∈ s.returned) : r.number ≠ k := by
  rintro rfl
  rw [(h.settled.returned r hr).2] at hcall
  cases hcall

/-- The current call was numbered after the committed one. -/
theorem Kept.committed_lt (h : s.Kept) (hcall : s.calls k = some call) (hlast : k = s.numbered) :
    s.committed < k :=
  lt_of_le_of_ne (hlast ▸ h.settled.gone.1) (h.not_committed hcall).symm

theorem Kept.setAutoStartPeer (h : s.Kept) (peerIndex : Int)
    (hfresh : s.FailsAlone (.setAutoStartPeer peerIndex)) :
    (s.setAutoStartPeer peerIndex).Kept := by
  unfold AutoStartRuntime.setAutoStartPeer
  split
  · exact h
  rename_i request hreq
  obtain ⟨hgen, -, hfits⟩ := captureAutoStartPersistenceRequest_spec hreq
  have hnew (k : Nat) (call : AutoStartCall) (hcall : s.calls k = some call) :
      k < s.numbered + 1 ∧ call.request.generation ≠ request.generation := by
    have hlt : k < s.numbered + 1 := Nat.lt_succ_of_le (h.numbered.bound k call hcall).2
    exact ⟨hlt, hgen ▸ hfresh k hlt call hcall⟩
  have hfree (k : Nat) (hk : k ≤ s.numbered) :
      update s.calls (s.numbered + 1) (some ⟨request, .requested⟩) k = s.calls k :=
    update_of_ne (by omega) ..
  refine ⟨⟨fun k call hcall => ?_, fun k call hcall => ?_, fun k call hcall => ?_,
    fun k call hcall => ?_, fun k hheld => ?_⟩, ⟨fun k hk => ?_, fun k call hcall hlt => ?_,
      fun _ => ?_, h.settled.holder, ⟨?_, ?_⟩, fun k call hcall hphase => ?_, ?_, fun r hr => ?_,
      fun r hr hsuccess => ?_, h.settled.effect, h.settled.selected⟩⟩
  · rcases of_update hcall with ⟨rfl, -⟩ | ⟨-, hold⟩
    · exact ⟨Nat.succ_pos _, le_rfl⟩
    · exact ⟨(h.numbered.bound k call hold).1, Nat.le_of_lt (hnew k call hold).1⟩
  · rcases of_update hcall with ⟨-, hentry⟩ | ⟨-, hold⟩
    · cases hentry
      exact ⟨hfits.valid, hfits.name⟩
    · exact ⟨(h.numbered.fits k call hold).valid, (h.numbered.fits k call hold).name⟩
  · rcases of_update hcall with ⟨rfl, hentry⟩ | ⟨-, hold⟩
    · cases hentry
      exact ⟨fun _ => rfl, fun _ => rfl⟩
    · have hne := (hnew k call hold).1.ne
      exact ⟨fun heq => absurd heq (hnew k call hold).2, fun heq => absurd heq hne⟩
  · rcases of_update hcall with ⟨rfl, hentry⟩ | ⟨-, hold⟩
    · cases hentry
      refine ⟨fun hphase => absurd rfl hphase, fun hheld => ?_⟩
      obtain ⟨other, hother⟩ := h.numbered.held _ hheld
      exact absurd (hnew _ other hother).1 (lt_irrefl _)
    · exact h.numbered.mutex k call hold
  · obtain ⟨call, hcall⟩ := h.numbered.held k hheld
    exact ⟨call, (hfree k (Nat.le_of_lt_succ (hnew k call hcall).1)).trans hcall⟩
  · rcases mem_cons.mp hk with rfl | hk
    · exact Nat.lt_succ_of_le h.settled.gone.1
    · exact h.settled.after k hk
  · rcases of_update hcall with ⟨rfl, -⟩ | ⟨-, hold⟩
    · exact mem_cons_self
    · exact mem_cons_of_mem _ (h.settled.pending k call hold hlt)
  · show update s.calls (s.numbered + 1) _ (s.numbered + 1) ≠ none
    rw [update_self]
    exact nofun
  · exact Nat.le_succ_of_le h.settled.gone.1
  · exact (hfree _ h.settled.gone.1).trans h.settled.gone.2
  · rcases of_update hcall with ⟨-, hentry⟩ | ⟨-, hold⟩
    · cases hentry
      cases hphase
    · exact h.settled.stored k call hold hphase
  · rcases h.settled.agrees with hagrees | ⟨k, call, hcall, hphase⟩ | ⟨r, hr, hsuccess, hmem⟩
    · exact .inl hagrees
    · exact .inr (.inl ⟨k, call, (hfree k (Nat.le_of_lt_succ (hnew k call hcall).1)).trans hcall,
        hphase⟩)
    · exact .inr (.inr ⟨r, hr, hsuccess, mem_cons_of_mem _ hmem⟩)
  · obtain ⟨hle, hnone⟩ := h.settled.returned r hr
    exact ⟨Nat.le_succ_of_le hle, (hfree _ hle).trans hnone⟩
  · rcases h.settled.success r hr hsuccess with hle | hmem
    · exact .inl hle
    · exact .inr (mem_cons_of_mem _ hmem)

/-- A call goes on: it takes the free mutex, or it writes the file. -/
theorem Kept.goOn (h : s.Kept) (hcall : s.calls k = some call) {phase : AutoStartPhase}
    (hlt : s.committed < k) {file : Option (List Char)}
    (hfile : (phase = .checked ∧ s.persistenceMutex = none ∧ file = s.file) ∨
      (phase = .stored ∧ call.phase = .checked ∧
        file = selectedName s.names call.request.peerIndex)) :
    Kept ({ s with file, persistenceMutex := some k }.setCall k ⟨call.request, phase⟩) := by
  have hkept : ∀ {k'}, s.calls k' = none →
      update s.calls k (some ⟨call.request, phase⟩) k' = none := by
    intro k' hnone
    have hne : k' ≠ k := by
      rintro rfl
      rw [hcall] at hnone
      cases hnone
    rw [update_of_ne hne, hnone]
  have hnumbered : Numbered
      ({ s with persistenceMutex := some k }.setCall k ⟨call.request, phase⟩) := by
    rcases hfile with ⟨rfl, hfree, -⟩ | ⟨rfl, hchecked, -⟩
    · exact h.numbered.setCall hcall nofun (.inl hfree)
    · exact h.numbered.setCall hcall nofun (.inr (hchecked ▸ nofun))
  refine ⟨⟨hnumbered.bound, fun k' call' hcall' => ?_, hnumbered.current, hnumbered.mutex,
    hnumbered.held⟩, ⟨h.settled.after, fun k' call' hcall' hlt' => ?_, fun hne => ?_,
      fun k' hheld => ?_, ⟨h.settled.gone.1, hkept h.settled.gone.2⟩,
      fun k' call' hcall' hstored => ?_, ?_, fun r hr => ?_, h.settled.success, h.settled.effect,
      h.settled.selected⟩⟩
  · exact ⟨(hnumbered.fits k' call' hcall').valid, (hnumbered.fits k' call' hcall').name⟩
  · rcases of_update hcall' with ⟨rfl, -⟩ | ⟨-, hold⟩
    · exact h.settled.pending k' call hcall hlt
    · exact h.settled.pending k' call' hold hlt'
  · show update s.calls k _ s.numbered ≠ none
    by_cases hk : s.numbered = k
    · rw [hk, update_self]
      exact nofun
    · rw [update_of_ne hk]
      exact h.settled.leader hne
  · cases hheld
    exact hlt
  · rcases hfile with ⟨rfl, -, rfl⟩ | ⟨rfl, hchecked, rfl⟩
    · rcases of_update hcall' with ⟨-, hentry⟩ | ⟨-, hold⟩
      · cases hentry
        cases hstored
      · exact h.settled.stored k' call' hold hstored
    · rcases of_update hcall' with ⟨-, hentry⟩ | ⟨hne, hold⟩
      · cases hentry
        rfl
      · rw [h.numbered.requested_of_ne hcall (hchecked ▸ nofun) hne hold] at hstored
        cases hstored
  · rcases hfile with ⟨rfl, hfree, rfl⟩ | ⟨rfl, -, -⟩
    · rcases h.settled.agrees with hagrees | ⟨k', call', hcall', hstored⟩ | hreturned
      · exact .inl hagrees
      · have hheld := (h.numbered.mutex k' call' hcall').mp (hstored ▸ nofun)
        rw [hfree] at hheld
        cases hheld
      · exact .inr (.inr hreturned)
    · exact .inr (.inl ⟨k, _, update_self .., rfl⟩)
  · exact ⟨(h.settled.returned r hr).1, hkept (h.settled.returned r hr).2⟩

section Finish

variable {r : AutoStartReturn} {peerIndex : Int} {succeeded : Bool}

/-- A call that returns gives the mutex back. -/
theorem Kept.holder_finish (h : s.Kept)
    (hheld : (if s.persistenceMutex = some k then none else s.persistenceMutex) = some k') :
    s.committed < k' := by
  split at hheld
  · cases hheld
  · exact h.settled.holder k' hheld

theorem Kept.returned_finish (h : s.Kept) (hcall : s.calls k = some call)
    (hr : r ∈ ⟨k, peerIndex, succeeded⟩ :: s.returned) :
    r.number ≤ s.numbered ∧ update s.calls k none r.number = none := by
  rcases mem_cons.mp hr with rfl | hr
  · exact ⟨(h.numbered.bound k call hcall).2, update_self ..⟩
  · exact ⟨(h.settled.returned r hr).1, finish_none (h.settled.returned r hr).2⟩

theorem Kept.selected_finish (h : s.Kept) (hcall : s.calls k = some call)
    (hr : r ∈ ⟨k, peerIndex, succeeded⟩ :: s.returned) (hcommitted : r.number = s.committed) :
    s.autoStartPeerIndex = r.peerIndex := by
  rcases mem_cons.mp hr with rfl | hr
  · exact absurd hcommitted (h.not_committed hcall)
  · exact h.settled.selected r hr hcommitted

end Finish

/-- A call that was superseded answers success. -/
theorem Kept.discard (h : s.Kept) (hcall : s.calls k = some call) (hstale : k ≠ s.numbered) :
    (s.finish k call.request.peerIndex true).Kept := by
  refine ⟨h.numbered.finish k _ _ ⟨rfl, rfl, rfl, rfl, rfl⟩, ⟨h.settled.after,
    fun k' call' hcall' => h.settled.pending k' call' (of_finish hcall').2, fun hne => ?_,
    fun k' hheld => h.holder_finish hheld, ⟨h.settled.gone.1, finish_none h.settled.gone.2⟩,
    fun k' call' hcall' => h.settled.stored k' call' (of_finish hcall').2, ?_,
    fun r hr => h.returned_finish hcall hr, fun r hr hsuccess => ?_,
    h.settled.effect.imp_right fun ⟨r, hr, heffect⟩ => ⟨r, mem_cons_of_mem _ hr, heffect⟩,
    fun r hr => h.selected_finish hcall hr⟩⟩
  · show update s.calls k none s.numbered ≠ none
    rw [update_of_ne hstale.symm]
    exact h.settled.leader hne
  · rcases h.settled.agrees with hagrees | ⟨k', call', hcall', hstored⟩ | ⟨r, hr, hreturned⟩
    · exact .inl hagrees
    · by_cases hk : k' = k
      · -- the call itself had written its name, and the file keeps it
        subst hk
        have hlt := h.settled.holder k' ((h.numbered.mutex k' call' hcall').mp (hstored ▸ nofun))
        exact .inr (.inr ⟨_, mem_cons_self, rfl, h.settled.pending k' call' hcall' hlt⟩)
      · exact .inr (.inl ⟨k', call', (update_of_ne hk ..).trans hcall', hstored⟩)
    · exact .inr (.inr ⟨r, mem_cons_of_mem _ hr, hreturned⟩)
  · rcases mem_cons.mp hr with rfl | hr
    · by_cases hlt : s.committed < k
      · exact .inr (h.settled.pending k call hcall hlt)
      · exact .inl (Nat.le_of_not_lt hlt)
    · exact h.settled.success r hr hsuccess

/-- A call whose write failed answers with an error; where its request is still current it has
superseded nobody. -/
theorem Kept.fail (h : s.Kept) (hcall : s.calls k = some call) (hchecked : call.phase = .checked)
    (halone : k = s.numbered → s.unsettled = [k]) :
    ({ s with unsettled := s.unsettled.erase k }.finish k call.request.peerIndex false).Kept := by
  have hrest {k' : Nat} (hk : k' ∈ s.unsettled) (hne : k' ≠ k) : k' ∈ s.unsettled.erase k :=
    (mem_erase_of_ne hne).mpr hk
  refine ⟨h.numbered.finish k _ _ ⟨rfl, rfl, rfl, rfl, rfl⟩, ⟨fun k' hk => ?_,
    fun k' call' hcall' hlt => ?_, fun hne => ?_, fun k' hheld => h.holder_finish hheld,
    ⟨h.settled.gone.1, finish_none h.settled.gone.2⟩,
    fun k' call' hcall' => h.settled.stored k' call' (of_finish hcall').2, ?_,
    fun r hr => h.returned_finish hcall hr, fun r hr hsuccess => ?_,
    h.settled.effect.imp_right fun ⟨r, hr, heffect⟩ => ⟨r, mem_cons_of_mem _ hr, heffect⟩,
    fun r hr => h.selected_finish hcall hr⟩⟩
  · exact h.settled.after k' (mem_of_mem_erase hk)
  · obtain ⟨hne, hold⟩ := of_finish hcall'
    exact hrest (h.settled.pending k' call' hold hlt) hne
  · show update s.calls k none s.numbered ≠ none
    by_cases hlast : k = s.numbered
    · refine absurd ?_ hne
      show s.unsettled.erase k = []
      rw [halone hlast, erase_cons_head]
    · rw [update_of_ne (Ne.symm hlast)]
      exact h.settled.leader fun hnil => hne (by show s.unsettled.erase k = []; rw [hnil]; rfl)
  · rcases h.settled.agrees with hagrees | ⟨k', call', hcall', hstored⟩ | ⟨r, hr, hsuccess, hmem⟩
    · exact .inl hagrees
    · -- the mutex is with the failing call, so no other has written
      have hne : k' ≠ k := by
        rintro rfl
        rw [hcall] at hcall'
        cases hcall'
        rw [hchecked] at hstored
        cases hstored
      rw [h.numbered.requested_of_ne hcall (hchecked ▸ nofun) hne hcall'] at hstored
      cases hstored
    · exact .inr (.inr ⟨r, mem_cons_of_mem _ hr, hsuccess,
        hrest hmem (h.not_returned hcall hr)⟩)
  · rcases mem_cons.mp hr with rfl | hr
    · cases hsuccess
    · exact (h.settled.success r hr hsuccess).imp_right fun hmem =>
        hrest hmem (h.not_returned hcall hr)

/-- The current call commits the selection whose name it has written. -/
theorem Kept.take (h : s.Kept) (hcall : s.calls k = some call) (hstored : call.phase = .stored)
    (hlast : k = s.numbered) :
    ({ s with
      autoStartPeerIndex := call.request.peerIndex
      committed := k
      unsettled := [] }.finish k call.request.peerIndex true).Kept := by
  have hmutex : s.persistenceMutex = some k :=
    (h.numbered.mutex k call hcall).mp (hstored ▸ nofun)
  refine ⟨h.numbered.finish k _ _ ⟨rfl, rfl, rfl, rfl, rfl⟩, ⟨nofun,
    fun k' call' hcall' hlt => ?_, fun hne => absurd rfl hne, fun k' hheld => ?_,
    ⟨hlast.le, update_self ..⟩, fun k' call' hcall' hphase => ?_, .inl ?_,
    fun r hr => h.returned_finish hcall hr, fun r hr _ => .inl ?_,
      .inr ⟨_, mem_cons_self, rfl, rfl⟩, fun r hr hcommitted => ?_⟩⟩
  · have hle := (h.numbered.bound k' call' (of_finish hcall').2).2
    exact absurd (hlast ▸ hlt : s.numbered < k') (Nat.not_lt.mpr hle)
  · replace hheld : (if s.persistenceMutex = some k then none else s.persistenceMutex) = some k' :=
      hheld
    rw [if_pos hmutex] at hheld
    cases hheld
  · obtain ⟨hne, hold⟩ := of_finish hcall'
    rw [h.numbered.requested_of_ne hcall (hstored ▸ nofun) hne hold] at hphase
    cases hphase
  · exact h.settled.stored k call hcall hstored
  · rcases mem_cons.mp hr with rfl | hr
    · exact le_rfl
    · exact hlast ▸ (h.settled.returned r hr).1
  · rcases mem_cons.mp hr with rfl | hr
    · rfl
    · exact absurd hcommitted (h.not_returned hcall hr)

/-! ## Runs -/

theorem Kept.step (h : s.Kept) {action : Action} (hsafe : s.FailsAlone action)
    (hstep : s.step action = some t) : t.Kept := by
  cases action with
  | setAutoStartPeer peerIndex =>
    cases hstep
    exact h.setAutoStartPeer peerIndex hsafe
  | check k =>
    simp only [AutoStartRuntime.step] at hstep
    split at hstep
    · rename_i request hcall hfree
      cases hstep
      unfold AutoStartRuntime.check
      have hcur := h.numbered.isCurrent_iff hcall
      split
      · rename_i hpass
        exact h.goOn hcall (h.committed_lt hcall (hcur.mp hpass)) (.inl ⟨rfl, hfree, rfl⟩)
      · rename_i hstale
        exact h.discard hcall fun hlast => hstale (hcur.mpr hlast)
    · cases hstep
  | store k succeeds =>
    simp only [AutoStartRuntime.step] at hstep
    split at hstep
    · rename_i request hcall
      cases hstep
      have hmutex : s.persistenceMutex = some k := (h.numbered.mutex k _ hcall).mp nofun
      have hname : storeAutoStartPeerName
          (if request.peerIndex < 0 then [] else request.peerName) =
            some (selectedName s.names request.peerIndex) :=
        storeAutoStartPeerName_of_fits (h.numbered.fits k _ hcall)
      simp only [store, hname]
      cases succeeds with
      | true =>
        have hgone := h.goOn hcall (h.settled.holder k hmutex) (.inr ⟨rfl, rfl, rfl⟩)
        rw [← hmutex] at hgone
        exact hgone
      | false =>
        refine h.fail hcall rfl fun hlast => ?_
        exact hsafe _ hcall ((h.numbered.isCurrent_iff hcall).mpr hlast)
    · cases hstep
  | commit k =>
    simp only [AutoStartRuntime.step] at hstep
    split at hstep
    · rename_i request hcall
      cases hstep
      unfold AutoStartRuntime.commit
      have hcur := h.numbered.isCurrent_iff hcall
      split
      · rename_i hpass
        exact h.take hcall rfl (hcur.mp hpass)
      · rename_i hstale
        exact h.discard hcall fun hlast => hstale (hcur.mpr hlast)
    · cases hstep

private theorem initial_kept {file : Option (List Char)}
    (hagrees : file = selectedName names peerIndex) :
    (initial names peerIndex file).Kept where
  numbered := ⟨nofun, nofun, nofun,
    nofun, nofun⟩
  settled := ⟨nofun, nofun, fun h => absurd rfl h,
    nofun, ⟨le_rfl, rfl⟩, nofun, .inl hagrees,
    nofun, nofun, .inl rfl, nofun⟩

/-- The runs from an agreeing start in which writes fail as `FailsAlone` says. -/
def selections (names : List PeerName) : Machine AutoStartRuntime :=
  .ofActions (fun s => ∃ peerIndex file, file = selectedName names peerIndex ∧
    s = initial names peerIndex file) FailsAlone step

/-- When no call is on its way the selection and the file agree.  A call that has answered success
has taken effect unless a later one was successful or may still be. -/
structure SelectionKept (s : AutoStartRuntime) : Prop where
  agrees : (∀ k, s.calls k = none) → s.Agrees
  effect : ∀ r ∈ s.returned, r.succeeded = true →
    (∀ r' ∈ s.returned, r.number < r'.number → r'.succeeded = false) →
    (∀ k, r.number < k → s.calls k = none) → s.autoStartPeerIndex = r.peerIndex ∧ s.Agrees

theorem Kept.selectionKept (h : s.Kept) : s.SelectionKept := by
  constructor
  · intro hidle
    have hnil : s.unsettled = [] := by
      by_contra hne
      exact h.settled.leader hne (hidle _)
    rcases h.settled.agrees with hagrees | ⟨k, call, hcall, -⟩ | ⟨r, -, -, hmem⟩
    · exact hagrees
    · rw [hidle k] at hcall
      cases hcall
    · rw [hnil] at hmem
      cases hmem
  · intro r hr hsuccess hnone hidle
    -- the last call is on its way while something is unsettled, and `r` has returned
    have hsettled {k : Nat} (hk : k ∈ s.unsettled) (hle : r.number ≤ k) (hkr : k ≤ s.numbered) :
        False := by
      have hleader := h.settled.leader (ne_nil_of_mem hk)
      rcases Nat.lt_or_ge r.number s.numbered with hlt | hge
      · exact hleader (hidle _ hlt)
      · have hlast : s.numbered = r.number := by omega
        exact hleader (hlast ▸ (h.settled.returned r hr).2)
    have hle : r.number ≤ s.committed := by
      rcases h.settled.success r hr hsuccess with hle | hmem
      · exact hle
      · exact (hsettled hmem le_rfl (h.settled.returned r hr).1).elim
    have hcommitted : r.number = s.committed := by
      rcases h.settled.effect with hzero | ⟨r', hr', hnumber, hsuccess'⟩
      · omega
      · by_contra hne
        have hlater := hnone r' hr' (by omega)
        rw [hsuccess'] at hlater
        cases hlater
    refine ⟨h.settled.selected r hr hcommitted, ?_⟩
    rcases h.settled.agrees with hagrees | ⟨k, call, hcall, hstored⟩ | ⟨r', hr', hsuccess', hmem⟩
    · exact hagrees
    · have hlt := h.settled.holder k ((h.numbered.mutex k call hcall).mp (hstored ▸ nofun))
      rw [hidle k (hcommitted ▸ hlt)] at hcall
      cases hcall
    · have hlater := hnone r' hr' (hcommitted ▸ h.settled.after _ hmem)
      rw [hsuccess'] at hlater
      cases hlater

/-- The selection and the file agree in every run from an agreeing start in which a write of the
current request fails only where it has superseded nobody. -/
theorem auto_start_selection_kept {names : List PeerName} (h : (selections names).Reachable s) :
    s.SelectionKept := by
  have hkept : s.Kept := by
    refine Machine.Reachable.invariant (P := Kept) ?_ ?_ h
    · rintro _ ⟨peerIndex, file, hagrees, rfl⟩
      exact initial_kept hagrees
    · rintro s t _ hs ⟨action, hsafe, hstep⟩
      exact hs.step hsafe hstep
  exact hkept.selectionKept

/-! ### An example -/

def sampleNames : List PeerName := [⟨['a'], by decide⟩, ⟨['b'], by decide⟩]

/-- The first peer is selected, then the second one; the write for the latter fails. -/
def sampleSerial : List Action :=
  [.setAutoStartPeer 0, .check 1, .store 1 true, .commit 1, .setAutoStartPeer 1, .check 2,
    .store 2 false]

/-- The same calls, but the second one begins while the first one is about to commit. -/
def sampleOverlap : List Action :=
  [.setAutoStartPeer 0, .check 1, .store 1 true, .setAutoStartPeer 1, .commit 1, .check 2,
    .store 2 false]

def after (actions : List Action) : AutoStartRuntime :=
  actions.foldl (fun s action => (s.step action).getD s) (initial sampleNames (-1) none)

theorem auto_start_selection_kept_sample : ∃ s, (selections sampleNames).Reachable s ∧
    (s.autoStartPeerIndex = 0 ∧ s.file = some ['a'] ∧ s.returned.length = 2) ∧
      s.SelectionKept := by
  have hrun : (Machine.runActions FailsAlone step sampleSerial
      (initial sampleNames (-1) none)).map (fun s =>
        (s.autoStartPeerIndex, s.file, s.returned.length)) = some (0, some ['a'], 2) := by
    decide +kernel
  obtain ⟨s, hs, hfacts⟩ := Option.map_eq_some_iff.mp hrun
  have hreach : (selections sampleNames).Reachable s :=
    .of_runActions (.start ⟨-1, none, rfl, rfl⟩) hs
  exact ⟨s, hreach, by simpa only [Prod.mk.injEq] using hfacts,
    auto_start_selection_kept hreach⟩

/-- The first call has written its name and is superseded before it commits; then the second one
fails.  Both have returned, and the file names a peer that is not selected. -/
theorem auto_start_selection_lost :
    Machine.runActions (fun _ _ => True) step sampleOverlap
      (initial sampleNames (-1) none) = some (after sampleOverlap) ∧
    (initial sampleNames (-1) none).Agrees ∧ (∀ k, (after sampleOverlap).calls k = none) ∧
    (after sampleOverlap).file = some ['a'] ∧ (after sampleOverlap).autoStartPeerIndex = -1 ∧
    (after sampleOverlap).returned = [⟨2, 1, false⟩, ⟨1, 0, true⟩] ∧
    ¬ (after sampleOverlap).SelectionKept := by
  have hidle (k : Nat) : (after sampleOverlap).calls k = none := by
    match k with
    | 0 => rfl
    | 1 => rfl
    | 2 => rfl
    | k + 3 => rfl
  refine ⟨rfl, rfl, hidle, rfl, rfl, rfl, fun h => ?_⟩
  have hagrees : some ['a'] = none := h.agrees hidle
  cases hagrees

end WireguardNx.Runtime.AutoStartRuntime
