import WireguardNx.Laws.Timers
import Mathlib.Data.List.Induction

/-!
# The log of a coordinator

A coordinator keeps one token for each hook.  Its log lists what it was asked to do, in order, and
the retry sequences that began in between; the log explains the coordinator when the token of every
hook is the one the log leaves it, and when the generations were issued in the order of the log, to
requests of the retry sequence that the log was in.  A token is then live exactly if nothing that
concerns its hook comes after the request that was granted it.
-/

namespace WireguardNx.Wireguard

open List

/-- What happens to a coordinator. -/
inductive TimerOp where
  | arm (token : TimerToken)
  | cancel (hook : TimerHook)
  | deactivate
  /-- A new activation, which finds no timer armed and issues no generation. -/
  | activate
  /-- The retry sequence of the handshakes is another one.  It takes no token from a hook. -/
  | sequence (count : UInt32)
  deriving DecidableEq, Repr

namespace TimerOp

/-- Whether an operation ends the token that a hook had before it. -/
def concerns (hook : TimerHook) : TimerOp → Bool
  | .arm token => decide (token.hook = hook)
  | .cancel which => decide (which = hook)
  | .deactivate | .activate => true
  | .sequence _ => false

/-- The token a hook is left with. -/
def leave (hook : TimerHook) (live : Option TimerToken) (op : TimerOp) : Option TimerToken :=
  if op.concerns hook = false then live
  else match op with
    | .arm token => some token
    | _ => none

def issues : TimerOp → Bool
  | .activate | .sequence _ => false
  | _ => true

def follow (sequence : UInt32) : TimerOp → UInt32
  | .sequence count => count
  | _ => sequence

end TimerOp

def liveAfter (log : List TimerOp) (hook : TimerHook) : Option TimerToken :=
  log.foldl (TimerOp.leave hook) none

def issued (log : List TimerOp) : Nat := log.countP TimerOp.issues

/-- The retry sequence that a log is in; a new peer has begun none. -/
def sequenceAfter (log : List TimerOp) : UInt32 := log.foldl TimerOp.follow 0

/-- A coordinator that has come to its state by the operations of a log.  Configuring a peer takes
the first generation, before the log begins. -/
structure TimerCoordinator.Explained (timers : TimerCoordinator) (log : List TimerOp) : Prop where
  live : ∀ hook, timers.live hook = liveAfter log hook
  next : 2 + issued log < 2 ^ 32 → timers.nextGeneration.toNat = 2 + issued log
  dated : ∀ before token after, log = before ++ .arm token :: after →
    (2 + issued before < 2 ^ 32 → token.generation.toNat = 2 + issued before) ∧
      (token.hook = .retransmitHandshake →
        token.owner.protocolSequence = sequenceAfter before)

section Logs

variable {log : List TimerOp} {hook : TimerHook} {token : TimerToken}

theorem liveAfter_append (log ops : List TimerOp) (hook : TimerHook) :
    liveAfter (log ++ ops) hook = ops.foldl (TimerOp.leave hook) (liveAfter log hook) :=
  foldl_append

private theorem foldl_leave_of_concerns {ops : List TimerOp} {live : Option TimerToken}
    (h : ∀ op ∈ ops, op.concerns hook = false) : ops.foldl (TimerOp.leave hook) live = live := by
  induction ops with
  | nil => rfl
  | cons op ops ih =>
    have hkept : TimerOp.leave hook live op = live := if_pos (h op mem_cons_self)
    rw [foldl_cons, hkept]
    exact ih fun other hmem => h other (mem_cons_of_mem _ hmem)

/-- A live token was granted by the last operation that concerns its hook. -/
theorem exists_of_liveAfter (h : liveAfter log hook = some token) :
    ∃ before after, log = before ++ .arm token :: after ∧ token.hook = hook ∧
      ∀ op ∈ after, op.concerns hook = false := by
  induction log using reverseRecOn with
  | nil => cases h
  | append_singleton log op ih =>
    rw [liveAfter_append, foldl_cons, foldl_nil] at h
    unfold TimerOp.leave at h
    by_cases hop : op.concerns hook = false
    · rw [if_pos hop] at h
      obtain ⟨before, after, rfl, hhook, hafter⟩ := ih h
      refine ⟨before, after ++ [op], by simp, hhook, fun other hmem => ?_⟩
      rcases mem_append.mp hmem with hmem | hmem
      · exact hafter other hmem
      · rw [mem_singleton.mp hmem]
        exact hop
    · rw [if_neg hop] at h
      cases op with
      | arm armed =>
        have hhook : armed.hook = hook := of_decide_eq_true (Bool.not_eq_false _ ▸ hop)
        cases h
        exact ⟨log, [], rfl, hhook, nofun⟩
      | cancel which | deactivate | activate => cases h
      | sequence count => exact absurd rfl hop

theorem issued_append (log ops : List TimerOp) : issued (log ++ ops) = issued log + issued ops :=
  countP_append

theorem sequenceAfter_concat (log : List TimerOp) (op : TimerOp) :
    sequenceAfter (log ++ [op]) = op.follow (sequenceAfter log) :=
  foldl_concat ..

/-- Operations of a log that issue the same generation are the same one. -/
theorem append_cancel_of_issued {before before' after after' : List TimerOp} {op op' : TimerOp}
    (h : before ++ op :: after = before' ++ op' :: after') (hop : op.issues)
    (hop' : op'.issues) (hissued : issued before = issued before') :
    before = before' ∧ after = after' := by
  have hone {op : TimerOp} (hop : op.issues) (log : List TimerOp) :
      issued (op :: log) = issued log + 1 := countP_cons_of_pos hop
  rcases append_eq_append_iff.mp h with ⟨gap, rfl, hgap⟩ | ⟨gap, rfl, hgap⟩
  · cases gap with
    | nil =>
      rw [nil_append, cons.injEq] at hgap
      exact ⟨(append_nil _).symm, hgap.2⟩
    | cons first gap =>
      -- the first operation of the gap is the one that issues the generation
      rw [cons_append, cons.injEq] at hgap
      rw [issued_append, ← hgap.1, hone hop] at hissued
      omega
  · cases gap with
    | nil =>
      rw [nil_append, cons.injEq] at hgap
      exact ⟨append_nil _, hgap.2.symm⟩
    | cons first gap =>
      rw [cons_append, cons.injEq] at hgap
      rw [issued_append, ← hgap.1, hone hop'] at hissued
      omega

end Logs

/-! ## Operations of the coordinator -/

namespace TimerCoordinator

section Operations

variable {timers : TimerCoordinator} {log : List TimerOp}

private theorem takeGeneration_succ {next : UInt32} (hzero : next ≠ 0)
    (h : next.toNat + 1 < 2 ^ 32) :
    (takeGeneration next).2.toNat = next.toNat + 1 := by
  have hsucc : (next + 1).toNat = next.toNat + 1 := by
    rw [UInt32.toNat_add, UInt32.toNat_one]
    exact Nat.mod_eq_of_lt h
  have hne : next + 1 ≠ 0 := fun heq => by
    rw [heq] at hsucc
    exact Nat.noConfusion hsucc
  unfold takeGeneration
  rw [if_neg hzero, if_neg hne]
  exact hsucc

/-- An operation that takes a generation, and leaves the hooks as its entry in the log says. -/
theorem Explained.issue (h : timers.Explained log) {after : TimerCoordinator} {op : TimerOp}
    (hlive : ∀ hook, after.live hook = op.leave hook (timers.live hook))
    (hnext : after.nextGeneration = (takeGeneration timers.nextGeneration).2) (hop : op.issues)
    (harm : ∀ token, op = .arm token →
      token.generation = (takeGeneration timers.nextGeneration).1 ∧
        (token.hook = .retransmitHandshake →
          token.owner.protocolSequence = sequenceAfter log)) :
    after.Explained (log ++ [op]) := by
  have hissued : issued (log ++ [op]) = issued log + 1 := by
    rw [issued_append]
    exact congrArg (issued log + ·) (countP_cons_of_pos hop)
  have hzero (hfew : 2 + issued log < 2 ^ 32) : timers.nextGeneration ≠ 0 := by
    intro heq
    have hcount := h.next hfew
    rw [heq] at hcount
    exact absurd (hcount.symm.trans UInt32.toNat_zero) (by omega)
  refine ⟨fun hook => ?_, fun hfew => ?_, fun before token rest hsplit => ?_⟩
  · rw [hlive, h.live, liveAfter_append]
    rfl
  · rw [hissued] at hfew ⊢
    have hcount := h.next (by omega)
    rw [hnext, takeGeneration_succ (hzero (by omega)) (by omega), hcount]
    omega
  · -- the request is the new one, or one of the log
    rcases eq_nil_or_concat rest with rfl | ⟨rest, last, rfl⟩
    · obtain ⟨rfl, hlast⟩ := append_inj' hsplit rfl
      obtain ⟨hgen, hsequence⟩ := harm token (head_eq_of_cons_eq hlast)
      refine ⟨fun hfew => ?_, hsequence⟩
      rw [hgen]
      unfold takeGeneration
      rw [if_neg (hzero hfew)]
      exact h.next hfew
    · rw [concat_eq_append, ← cons_append, ← append_assoc] at hsplit
      exact h.dated before token rest (append_inj_left' hsplit rfl)

theorem Explained.arm (h : timers.Explained log) (hook : TimerHook) (owner : TimerOwner)
    (hsequence : hook = .retransmitHandshake → owner.protocolSequence = sequenceAfter log) :
    (timers.arm hook owner).2.Explained (log ++ [.arm (timers.arm hook owner).1]) := by
  refine h.issue (fun other => ?_) rfl rfl fun token heq => ?_
  · rw [live_arm]
    simp only [TimerOp.leave, TimerOp.concerns, decide_eq_false_iff_not, ite_not]
    exact if_congr eq_comm rfl rfl
  · cases heq
    exact ⟨rfl, hsequence⟩

theorem Explained.cancel (h : timers.Explained log) (hook : TimerHook) :
    (timers.cancel hook).2.Explained (log ++ [.cancel hook]) := by
  refine h.issue (fun other => ?_) rfl rfl nofun
  rw [live_cancel]
  simp only [TimerOp.leave, TimerOp.concerns, decide_eq_false_iff_not, ite_not]
  exact if_congr eq_comm rfl rfl

theorem Explained.cancelAll (h : timers.Explained log) :
    timers.cancelAll.Explained (log ++ [.deactivate]) :=
  h.issue (fun _ => rfl) rfl rfl nofun

/-- An operation that takes no generation. -/
theorem Explained.pass (h : timers.Explained log) {op : TimerOp} (hop : op.issues = false)
    (hlive : ∀ hook, timers.live hook = op.leave hook (timers.live hook)) :
    timers.Explained (log ++ [op]) := by
  have hissued : issued (log ++ [op]) = issued log := by
    rw [issued_append]
    exact congrArg (issued log + ·) (countP_cons_of_neg (by rw [hop]; decide))
  refine ⟨fun hook => ?_, fun hfew => ?_, fun before token rest hsplit => ?_⟩
  · rw [hlive, h.live, liveAfter_append]
    rfl
  · rw [hissued] at hfew ⊢
    exact h.next hfew
  · rcases eq_nil_or_concat rest with rfl | ⟨rest, last, rfl⟩
    · rw [head_eq_of_cons_eq (append_inj' hsplit rfl).2] at hop
      cases hop
    · rw [concat_eq_append, ← cons_append, ← append_assoc] at hsplit
      exact h.dated before token rest (append_inj_left' hsplit rfl)

theorem Explained.activate (h : timers.Explained log)
    (hunarmed : ∀ hook, timers.isArmed hook = false) : timers.Explained (log ++ [.activate]) :=
  h.pass rfl fun hook => live_eq_none_iff.mpr (hunarmed hook)

theorem explained_nil (hunarmed : ∀ hook, timers.isArmed hook = false)
    (hnext : timers.nextGeneration = 2) : timers.Explained [] := by
  refine ⟨fun hook => live_eq_none_iff.mpr (hunarmed hook), fun _ => ?_,
    fun before _ _ hsplit => ?_⟩
  · rw [hnext]
    rfl
  · exact absurd hsplit (by simp)

/-! ## Live tokens -/

/-- As long as the generations last, a token is live exactly if nothing that concerns its hook
comes after the request that was granted it. -/
theorem Explained.live_iff (h : timers.Explained log) {token : TimerToken}
    {before after : List TimerOp} (hlog : log = before ++ .arm token :: after)
    (hfew : 1 + issued log < 2 ^ 32 - 1) :
    timers.live token.hook = some token ↔ ∀ op ∈ after, op.concerns token.hook = false := by
  have hcount : issued before ≤ issued log := by
    rw [hlog, issued_append]
    exact Nat.le_add_right _ _
  rw [h.live]
  refine ⟨fun hlive => ?_, fun hafter => ?_⟩
  · obtain ⟨before', after', hlog', -, hafter'⟩ := exists_of_liveAfter hlive
    have hcount' : issued before' ≤ issued log := by
      rw [hlog', issued_append]
      exact Nat.le_add_right _ _
    have hgen := (h.dated before token after hlog).1 (by omega)
    have hgen' := (h.dated before' token after' hlog').1 (by omega)
    obtain ⟨-, rfl⟩ := append_cancel_of_issued (hlog.symm.trans hlog') rfl rfl (by omega)
    exact hafter'
  · rw [hlog, liveAfter_append, foldl_cons, foldl_leave_of_concerns hafter]
    unfold TimerOp.leave TimerOp.concerns
    rw [if_neg (by rw [decide_eq_false_iff_not, not_not])]

/-- A token that was never granted is not live. -/
theorem Explained.not_live (h : timers.Explained log) {token : TimerToken}
    (hlog : .arm token ∉ log) (hook : TimerHook) : timers.live hook ≠ some token := by
  rw [h.live]
  intro hlive
  obtain ⟨before, after, rfl, -, -⟩ := exists_of_liveAfter hlive
  exact hlog (by simp)

end Operations

end TimerCoordinator

end WireguardNx.Wireguard
