import Mathlib.Data.List.Basic

/-! Results of code that can return a value, return an error, or abort. -/

set_option autoImplicit false

namespace Nethernet.Foundation

inductive Outcome (E A : Type) where
  | ok (value : A)
  | err (error : E)
  | aborted
  deriving DecidableEq, Repr

namespace Outcome

variable {E A B : Type}

def bind (first : Outcome E A) (next : A → Outcome E B) : Outcome E B :=
  match first with
  | .ok value => next value
  | .err error => .err error
  | .aborted => .aborted

-- also for values that cannot be compared
instance : (outcome : Outcome E A) → Decidable (outcome = .aborted)
  | .ok _ => .isFalse nofun
  | .err _ => .isFalse nofun
  | .aborted => .isTrue rfl

instance : Monad (Outcome E) where
  pure := .ok
  bind := bind

def ofExcept : Except E A → Outcome E A
  | .ok value => .ok value
  | .error error => .err error

-- the panicking form of an operation whose checked form returns an option
def orAbort : Option A → Outcome E A
  | some value => .ok value
  | none => .aborted

@[simp] theorem ok_bind (value : A) (next : A → Outcome E B) : (ok value >>= next) = next value := rfl

@[simp] theorem err_bind (error : E) (next : A → Outcome E B) : (err error >>= next) = err error := rfl

@[simp] theorem aborted_bind (next : A → Outcome E B) : (aborted >>= next) = aborted := rfl

@[simp] theorem pure_ne_aborted (value : A) : (pure value : Outcome E A) ≠ .aborted :=
  fun same => nomatch same

theorem ofExcept_ne_aborted (result : Except E A) : ofExcept result ≠ .aborted := by
  cases result <;> exact fun same => nomatch same

/-- A sequence aborts when its first part does, or when the part after a
returned value does. -/
theorem bind_eq_aborted {first : Outcome E A} {next : A → Outcome E B} :
    (first >>= next) = .aborted ↔
      first = .aborted ∨ ∃ value, first = .ok value ∧ next value = .aborted := by
  cases first <;> simp

theorem bind_eq_ok {first : Outcome E A} {next : A → Outcome E B} {result : B} :
    (first >>= next) = .ok result ↔ ∃ value, first = .ok value ∧ next value = .ok result := by
  cases first <;> simp

end Outcome

namespace Except

variable {E A B : Type}

theorem toOption_eq_some {result : Except E A} {value : A} :
    result.toOption = some value ↔ result = .ok value := by
  cases result <;> simp [Except.toOption]

theorem bind_eq_ok {first : Except E A} {next : A → Except E B} {result : B} :
    (first >>= next) = .ok result ↔ ∃ value, first = .ok value ∧ next value = .ok result := by
  cases first <;> simp [bind, Except.bind]

theorem ite_error_eq_ok {refused : Prop} [Decidable refused] {error : E} {next : Except E A} {result : A} :
    (if refused then .error error else next) = .ok result ↔ ¬ refused ∧ next = .ok result := by
  by_cases holds : refused <;> simp [holds]

theorem mem_of_mapM_eq_ok {read : A → Except E B} {inputs : List A} {results : List B}
    (all : inputs.mapM read = .ok results) {input : A} {result : B} (member : input ∈ inputs)
    (value : read input = .ok result) : result ∈ results := by
  induction inputs generalizing results with
  | nil => cases member
  | cons first rest ih =>
    rw [List.mapM_cons, bind_eq_ok] at all
    obtain ⟨head, headValue, all⟩ := all
    rw [bind_eq_ok] at all
    obtain ⟨tail, tailValues, built⟩ := all
    cases built
    rcases List.mem_cons.mp member with rfl | member
    · rw [headValue] at value
      cases value
      exact List.mem_cons_self
    · exact List.mem_cons_of_mem _ (ih tailValues member)

end Except

end Nethernet.Foundation
