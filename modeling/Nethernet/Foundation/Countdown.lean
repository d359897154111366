import Mathlib.Data.List.Basic

/-! Cutting a list into pieces and numbering the pieces down to zero.

`chunksOf` cuts after every `size` elements; `countdown` labels each piece with
the number of pieces that follow it, so that a reader of the labels alone knows
where the sequence ends. -/

set_option autoImplicit false

namespace Nethernet.Foundation

variable {A : Type}

/-- Pieces of `size` elements each, the last one possibly shorter and never empty. -/
def chunksOf (size : Nat) (values : List A) : List (List A) :=
  if 0 < size ∧ size < values.length then
    values.take size :: chunksOf size (values.drop size)
  else [values]
termination_by values.length

variable {values : List A} {size : Nat}

theorem chunksOf_of_le (fits : values.length ≤ size) : chunksOf size values = [values] := by
  rw [chunksOf, if_neg (by omega)]

theorem chunksOf_of_lt (positive : 0 < size) (longer : size < values.length) :
    chunksOf size values = values.take size :: chunksOf size (values.drop size) := by
  rw [chunksOf, if_pos ⟨positive, longer⟩]

theorem chunksOf_ne_nil (size : Nat) (values : List A) : chunksOf size values ≠ [] := by
  rw [chunksOf]
  split <;> simp

theorem flatten_chunksOf (size : Nat) (values : List A) : (chunksOf size values).flatten = values := by
  fun_induction chunksOf size values with
  | case1 values _ ih => rw [List.flatten_cons, ih, List.take_append_drop]
  | case2 values _ => simp

theorem nil_not_mem_chunksOf (nonempty : values ≠ []) : [] ∉ chunksOf size values := by
  fun_induction chunksOf size values with
  | case1 values longer ih =>
    have rest : values.drop size ≠ [] := by simp [longer.2]
    have first : values.take size ≠ [] := by
      simp only [ne_eq, List.take_eq_nil_iff, not_or]
      exact ⟨by omega, nonempty⟩
    simp only [List.mem_cons, not_or]
    exact ⟨fun same => first same.symm, ih rest⟩
  | case2 values _ => simpa using nonempty

/-- The number of pieces is the length divided by the piece size, rounded up. -/
theorem length_chunksOf (size : Nat) (positive : 0 < size) (nonempty : values ≠ []) :
    (chunksOf size values).length = (values.length + size - 1) / size := by
  fun_induction chunksOf size values with
  | case1 values longer ih =>
    have rest : values.drop size ≠ [] := by simp [longer.2]
    have shift : values.length + size - 1 = (values.length - size + size - 1) + size := by omega
    rw [List.length_cons, ih rest, List.length_drop, shift, Nat.add_div_right _ positive]
  | case2 values short =>
    have bound : 0 < values.length := List.length_pos_iff.mpr nonempty
    have shift : values.length + size - 1 = (values.length - 1) + size := by omega
    rw [shift, Nat.add_div_right _ positive, Nat.div_eq_of_lt (by omega)]
    rfl

theorem length_le_of_mem_chunksOf {piece : List A} (positive : 0 < size) (member : piece ∈ chunksOf size values) :
    piece.length ≤ size := by
  fun_induction chunksOf size values with
  | case1 values longer ih =>
    rcases List.mem_cons.mp member with first | rest
    · rw [first]
      exact List.length_take_le _ _
    · exact ih rest
  | case2 values short =>
    rw [List.mem_singleton.mp member]
    omega

/-- Label every entry with the number of entries after it. -/
def countdown : List A → List (Nat × A)
  | [] => []
  | first :: rest => (rest.length, first) :: countdown rest

@[simp] theorem length_countdown (values : List A) : (countdown values).length = values.length := by
  induction values with
  | nil => rfl
  | cons first rest ih => simp [countdown, ih]

theorem mem_countdown {entry : Nat × A} (member : entry ∈ countdown values) :
    entry.1 < values.length ∧ entry.2 ∈ values := by
  induction values with
  | nil => cases member
  | cons first rest ih =>
    rcases List.mem_cons.mp member with same | member
    · subst same
      simp
    · obtain ⟨bound, inside⟩ := ih member
      exact ⟨Nat.lt_succ_of_lt bound, List.mem_cons_of_mem first inside⟩

end Nethernet.Foundation
