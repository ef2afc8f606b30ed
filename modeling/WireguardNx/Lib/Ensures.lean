import Mathlib.Logic.Basic

/-!
# Programs that may abort

A program that may abort answers an option, and `none` is the abort.  `Ensures` says that it does not
abort and that its result meets a postcondition.  The rules are those of the ways such programs are
put together; the one for a fold is the rule for loops, with an invariant.
-/

variable {σ τ α : Type*}

/-- The program does not abort, and its result meets the postcondition. -/
def Ensures (program : Option σ) (post : σ → Prop) : Prop := ∃ s, program = some s ∧ post s

namespace Ensures

variable {program : Option σ} {post : σ → Prop}

theorem of_some {s : σ} (h : post s) : Ensures (some s) post := ⟨s, rfl, h⟩

theorem mono (h : Ensures program post) {post' : σ → Prop} (himp : ∀ s, post s → post' s) :
    Ensures program post' := by
  obtain ⟨s, heq, hpost⟩ := h
  exact ⟨s, heq, himp s hpost⟩

theorem map (h : Ensures program post) {f : σ → τ} {post' : τ → Prop}
    (himp : ∀ s, post s → post' (f s)) : Ensures (program.map f) post' := by
  obtain ⟨s, rfl, hpost⟩ := h
  exact ⟨f s, rfl, himp s hpost⟩

theorem bind (h : Ensures program post) {f : σ → Option τ} {post' : τ → Prop}
    (himp : ∀ s, post s → Ensures (f s) post') : Ensures (program.bind f) post' := by
  obtain ⟨s, rfl, hpost⟩ := h
  exact himp s hpost

/-- What every round of a loop keeps holds after the loop. -/
theorem foldlM {round : σ → α → Option σ} {inv : σ → Prop} {items : List α}
    (hround : ∀ s, ∀ a ∈ items, inv s → Ensures (round s a) inv) {s : σ} (hs : inv s) :
    Ensures (items.foldlM round s) inv := by
  induction items generalizing s with
  | nil => exact of_some hs
  | cons a items ih =>
    rw [List.foldlM_cons]
    exact (hround s a List.mem_cons_self hs).bind fun t ht =>
      ih (fun s a ha => hround s a (List.mem_cons_of_mem _ ha)) ht

/-- A result that is known meets the postcondition. -/
theorem post_of_eq (h : Ensures program post) {s : σ} (heq : program = some s) : post s := by
  obtain ⟨t, ht, hpost⟩ := h
  rw [heq, Option.some.injEq] at ht
  exact ht ▸ hpost

end Ensures
