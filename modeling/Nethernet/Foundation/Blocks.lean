import Mathlib.Data.Fintype.EquivFin
import Mathlib.Data.Fintype.Vector
import Mathlib.Data.List.Basic
import Mathlib.Logic.Equiv.Basic

/-! Applying a function to fixed-size blocks, as a block cipher does without chaining. -/

set_option autoImplicit false

namespace Nethernet.Foundation

variable {A : Type}

def mapBlocks (size : Nat) (apply : List A → List A) : Nat → List A → List A
  | 0, _ => []
  | count + 1, values => apply (values.take size) ++ mapBlocks size apply count (values.drop size)

variable {size : Nat} {values : List A} {count : Nat}

/-- The first of several blocks, and the others. -/
theorem length_first_block (length : values.length = (count + 1) * size) :
    (values.take size).length = size ∧ (values.drop size).length = count * size := by
  rw [Nat.add_mul, Nat.one_mul] at length
  rw [List.length_take, List.length_drop]
  omega

variable {apply : List A → List A}

theorem length_mapBlocks (length : values.length = count * size)
    (keeps : ∀ block, block.length = size → (apply block).length = size) :
    (mapBlocks size apply count values).length = count * size := by
  induction count generalizing values with
  | zero => simp [mapBlocks]
  | succ count ih =>
    obtain ⟨first, rest⟩ := length_first_block length
    rw [mapBlocks, List.length_append, keeps _ first, ih rest, Nat.add_mul, Nat.one_mul, Nat.add_comm]

variable {undo : List A → List A}

/-- A function that undoes another on each block undoes it on whole blocks. -/
theorem mapBlocks_inverse (length : values.length = count * size)
    (keeps : ∀ block, block.length = size → (apply block).length = size)
    (inverse : ∀ block, block.length = size → undo (apply block) = block) :
    mapBlocks size undo count (mapBlocks size apply count values) = values := by
  induction count generalizing values with
  | zero =>
    rw [Nat.zero_mul] at length
    rw [List.length_eq_zero_iff.mp length]
    rfl
  | succ count ih =>
    obtain ⟨first, rest⟩ := length_first_block length
    have cut := keeps _ first
    rw [mapBlocks, mapBlocks, List.take_left' cut, List.drop_left' cut, inverse _ first, ih rest,
      List.take_append_drop]

/-- There are finitely many blocks over a finite alphabet, so what undoes a function on them is undone by it. -/
theorem inverse_of_finite [Finite A] (keeps : ∀ block, block.length = size → (apply block).length = size)
    (inverse : ∀ block, block.length = size → undo (apply block) = block) {block : List A}
    (whole : block.length = size) : (undo block).length = size ∧ apply (undo block) = block := by
  let onBlocks (vector : List.Vector A size) : List.Vector A size := ⟨apply vector.1, keeps vector.1 vector.2⟩
  have injective : Function.Injective onBlocks := by
    intro first second same
    have undone := congrArg (fun vector : List.Vector A size => undo vector.1) same
    simp only [onBlocks, inverse _ first.2, inverse _ second.2] at undone
    exact Subtype.ext undone
  obtain ⟨vector, image⟩ := Finite.surjective_of_injective injective ⟨block, whole⟩
  have applied : apply vector.1 = block := congrArg Subtype.val image
  rw [← applied, inverse _ vector.2]
  exact ⟨vector.2, rfl⟩

section
variable [DecidableEq A]

/-- The permutation that exchanges the two values of each pair, one pair after another. -/
def swaps (pairs : List (A × A)) : Equiv.Perm A :=
  pairs.foldr (fun pair rest => (Equiv.swap pair.1 pair.2).trans rest) (Equiv.refl A)

theorem swaps_closed (good : A → Prop) {pairs : List (A × A)} {value : A}
    (closed : ∀ pair ∈ pairs, good pair.1 ∧ good pair.2) (start : good value) : good (swaps pairs value) := by
  induction pairs generalizing value with
  | nil => exact start
  | cons pair pairs ih =>
    obtain ⟨first, second⟩ := closed pair List.mem_cons_self
    apply ih fun other member => closed other (List.mem_cons_of_mem _ member)
    rw [Equiv.swap_apply_def]
    split
    · exact second
    · split
      · exact first
      · exact start

end

end Nethernet.Foundation
