import Mathlib.Logic.Equiv.Defs

/-!
# Layouts of fixed width

A layout says how the values of a type stand in a row of words: a writer, and a reader that takes
a value off the front and leaves the rest.  The two undo each other and the width is the same for
every value, so a row that is long enough can always be read.  Layouts are put one behind the other
with `pair` and carried along a bijection with `map`.
-/

/-- Values of `α` as `width` words of `β`. -/
structure Layout (β α : Type*) where
  width : Nat
  write : α → List β
  read : List β → Option (α × List β)
  length_write (a : α) : (write a).length = width
  read_write (a : α) (rest : List β) : read (write a ++ rest) = some (a, rest)
  write_read {input rest : List β} {a : α} : read input = some (a, rest) → write a ++ rest = input
  read_of_le {input : List β} : width ≤ input.length → ∃ a rest, read input = some (a, rest)

namespace Layout

open Option

variable {α β γ : Type*}

/-- Two values, one behind the other. -/
def pair (first : Layout β α) (second : Layout β γ) : Layout β (α × γ) where
  width := first.width + second.width
  write v := first.write v.1 ++ second.write v.2
  read input :=
    (first.read input).bind fun (a, rest) =>
      (second.read rest).map fun (c, rest) => ((a, c), rest)
  length_write v := by rw [List.length_append, first.length_write, second.length_write]
  read_write v rest := by
    rw [List.append_assoc, first.read_write, bind_some]
    simp only [second.read_write, map_some]
  write_read {input rest v} h := by
    obtain ⟨⟨a, middle⟩, hfirst, hsecond⟩ := bind_eq_some_iff.mp h
    obtain ⟨⟨c, tail⟩, htail, hv⟩ := map_eq_some_iff.mp hsecond
    cases hv
    rw [List.append_assoc, second.write_read htail, first.write_read hfirst]
  read_of_le {input} hle := by
    have hle : first.width + second.width ≤ input.length := hle
    obtain ⟨a, middle, hfirst⟩ := first.read_of_le (by omega : first.width ≤ input.length)
    have hsplit := congrArg List.length (first.write_read hfirst)
    rw [List.length_append, first.length_write] at hsplit
    obtain ⟨c, rest, hsecond⟩ := second.read_of_le (by omega : second.width ≤ middle.length)
    exact ⟨(a, c), rest, by simp only [hfirst, bind_some, hsecond, map_some]⟩

/-- The same words for the values of another type. -/
def map (layout : Layout β α) (e : α ≃ γ) : Layout β γ where
  width := layout.width
  write c := layout.write (e.symm c)
  read input := (layout.read input).map fun (a, rest) => (e a, rest)
  length_write c := layout.length_write _
  read_write c rest := by
    simp only [layout.read_write, map_some, e.apply_symm_apply]
  write_read {input rest c} h := by
    obtain ⟨⟨a, tail⟩, hread, hc⟩ := map_eq_some_iff.mp h
    cases hc
    rw [e.symm_apply_apply, layout.write_read hread]
  read_of_le {input} hle := by
    obtain ⟨a, rest, hread⟩ := layout.read_of_le hle
    exact ⟨e a, rest, by rw [hread]; rfl⟩

/-! ## Reading field by field

How a reader that takes its fields one after the other goes on after a composed layout. -/

theorem pair_read_bind (first : Layout β α) (second : Layout β γ) (input : List β)
    {δ : Type*} (next : (α × γ) × List β → Option δ) : ((first.pair second).read input).bind next =
      (first.read input).bind fun v => (second.read v.2).bind fun w => next ((v.1, w.1), w.2) := by
  simp only [pair, bind_assoc, bind_map]
  rfl

theorem map_read_bind (layout : Layout β α) (e : α ≃ γ) (input : List β)
    {δ : Type*} (next : γ × List β → Option δ) : ((layout.map e).read input).bind next =
      (layout.read input).bind fun v => next (e v.1, v.2) := by
  simp only [map, bind_map]
  rfl

/-! ## The value at the front -/

variable (layout : Layout β α)

/-- The value at the front of a row. -/
def value (input : List β) : Option α := (layout.read input).map Prod.fst

theorem value_eq_bind (input : List β) :
    layout.value input = (layout.read input).bind fun v => some v.1 := by
  rw [value]
  exact map_eq_bind ..

theorem value_write (a : α) (rest : List β) : layout.value (layout.write a ++ rest) = some a := by
  rw [value, layout.read_write, map_some]

variable {input : List β}

theorem value_eq_some_of_le (hle : layout.width ≤ input.length) :
    ∃ a, layout.value input = some a := by
  obtain ⟨a, rest, hread⟩ := layout.read_of_le hle
  exact ⟨a, by rw [value, hread, map_some]⟩

/-- Writing a value that was read gives the words it was read from. -/
theorem write_of_value {a : α} (h : layout.value input = some a) :
    layout.write a = input.take layout.width := by
  obtain ⟨⟨b, rest⟩, hread, hb⟩ := map_eq_some_iff.mp h
  cases hb
  rw [← layout.write_read hread, ← layout.length_write b, List.take_left]

theorem value_map (e : α ≃ γ) (input : List β) :
    (layout.map e).value input = (layout.value input).map e := by
  simp only [value, map, map_map]
  rfl

/-- In a pair the first value stands at the front. -/
theorem value_pair_fst {first : Layout β α} {second : Layout β γ} {v : α × γ}
    (h : (first.pair second).value input = some v) : first.value input = some v.1 := by
  obtain ⟨⟨w, rest⟩, hread, hw⟩ := map_eq_some_iff.mp h
  cases hw
  have hrow := (first.pair second).write_read hread
  rw [← hrow]
  show first.value ((first.write w.1 ++ second.write w.2) ++ rest) = some w.1
  rw [List.append_assoc, first.value_write]

end Layout
