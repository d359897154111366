import Mathlib.Data.List.Basic

/-! Input-driven machines: a state, an input, and the outputs of one step.

`run` feeds a list of inputs; `Along` says that every step of such a run meets
a condition on the state before the step and the input. -/

set_option autoImplicit false

namespace Nethernet.Foundation

section
variable {S I O : Type} (step : S → I → S × O)

def run (state : S) : List I → S × List O
  | [] => (state, [])
  | input :: rest =>
    let (next, output) := step state input
    let (final, outputs) := run next rest
    (final, output :: outputs)

@[simp] theorem run_nil (state : S) : run step state [] = (state, []) := rfl

theorem run_cons (state : S) (input : I) (rest : List I) :
    run step state (input :: rest) =
      ((run step (step state input).1 rest).1,
        (step state input).2 :: (run step (step state input).1 rest).2) := rfl

theorem run_append (state : S) (first rest : List I) :
    run step state (first ++ rest) =
      ((run step (run step state first).1 rest).1,
        (run step state first).2 ++ (run step (run step state first).1 rest).2) := by
  induction first generalizing state with
  | nil => rfl
  | cons input first ih => simp only [List.cons_append, run_cons, ih]

/-- Every step of the run from `state` meets `condition`. -/
def Along (condition : S → I → Prop) (state : S) : List I → Prop
  | [] => True
  | input :: rest => condition state input ∧ Along condition (step state input).1 rest

instance decidableAlong (condition : S → I → Prop) [∀ state input, Decidable (condition state input)] (state : S) :
    (inputs : List I) → Decidable (Along step condition state inputs)
  | [] => .isTrue trivial
  | input :: rest =>
    have := decidableAlong condition (step state input).1 rest
    inferInstanceAs (Decidable (condition state input ∧ Along step condition (step state input).1 rest))

variable {good : S → Prop} {condition : S → I → Prop}

/-- What every step that meets the condition preserves holds at the end of a
run whose steps all meet it. -/
theorem Along.invariant (keeps : ∀ state input, good state → condition state input → good (step state input).1)
    {state : S} (start : good state) {inputs : List I} (along : Along step condition state inputs) :
    good (run step state inputs).1 := by
  induction inputs generalizing state with
  | nil => exact start
  | cons input rest ih => exact ih (keeps state input start along.1) along.2

/-- Two conditions that agree in the states a run reaches under one of them hold along the same runs. -/
theorem along_congr {first second : S → I → Prop}
    (agree : ∀ state input, good state → (first state input ↔ second state input))
    (keeps : ∀ state input, good state → second state input → good (step state input).1) {state : S}
    (start : good state) (inputs : List I) : Along step first state inputs ↔ Along step second state inputs := by
  induction inputs generalizing state with
  | nil => exact Iff.rfl
  | cons input rest ih =>
    constructor
    · rintro ⟨met, along⟩
      have met := (agree state input start).mp met
      exact ⟨met, (ih (keeps state input start met)).mp along⟩
    · rintro ⟨met, along⟩
      exact ⟨(agree state input start).mpr met, (ih (keeps state input start met)).mpr along⟩

/-- What every step preserves holds at the end of every run. -/
theorem run_invariant (keeps : ∀ state input, good state → good (step state input).1) {state : S} (start : good state)
    (inputs : List I) : good (run step state inputs).1 := by
  induction inputs generalizing state with
  | nil => exact start
  | cons input rest ih => exact ih (keeps state input start)

/-- What every step's output meets, all outputs of a run meet. -/
theorem run_outputs {good : O → Prop} (each : ∀ state input, good (step state input).2) (state : S) (inputs : List I) :
    ∀ output ∈ (run step state inputs).2, good output := by
  induction inputs generalizing state with
  | nil => simp
  | cons input rest ih =>
    intro output member
    rcases List.mem_cons.mp member with rfl | later
    · exact each state input
    · exact ih _ output later

/-! ## Runs that differ by dropped inputs -/

/-- The inputs of a run that are not dropped, each with its output in that run. -/
def keep (drop : S → I → Bool) (state : S) : List I → List (I × O)
  | [] => []
  | input :: rest =>
    let (next, output) := step state input
    if drop state input then keep drop next rest else (input, output) :: keep drop next rest

-- what is dropped may depend on the input alone
theorem keep_inputs (drop : I → Bool) (state : S) (inputs : List I) :
    (keep step (fun _ => drop) state inputs).map Prod.fst = inputs.filter fun input => !drop input := by
  induction inputs generalizing state with
  | nil => rfl
  | cons input rest ih => cases decision : drop input <;> simp [keep, decision, ih]

theorem run_map {J : Type} (read : J → I) (state : S) (inputs : List J) :
    run (fun state input => step state (read input)) state inputs = run step state (inputs.map read) := by
  induction inputs generalizing state with
  | nil => rfl
  | cons input rest ih => simp only [List.map_cons, run_cons, ih]

/-- If dropped inputs lead to states alike and kept inputs are answered alike, then the run without
the dropped inputs ends alike and gives the outputs that the kept inputs have in the whole run. -/
theorem run_keep (drop : S → I → Bool) (alike : S → S → Prop)
    (dropped : ∀ a b input, alike a b → condition a input → drop a input = true → alike (step a input).1 b)
    (kept : ∀ a b input, alike a b → condition a input → drop a input = false →
      alike (step a input).1 (step b input).1 ∧ (step a input).2 = (step b input).2) {a b : S} (start : alike a b)
    {inputs : List I} (along : Along step condition a inputs) :
    alike (run step a inputs).1 (run step b ((keep step drop a inputs).map Prod.fst)).1 ∧
      (keep step drop a inputs).map Prod.snd = (run step b ((keep step drop a inputs).map Prod.fst)).2 := by
  induction inputs generalizing a b with
  | nil => exact ⟨start, rfl⟩
  | cons input rest ih =>
    obtain ⟨met, along⟩ := along
    cases decision : drop a input with
    | true =>
      simp only [keep, decision, if_true, run_cons]
      exact ih (dropped a b input start met decision) along
    | false =>
      obtain ⟨next, same⟩ := kept a b input start met decision
      simp only [keep, decision, Bool.false_eq_true, if_false, run_cons, List.map_cons, same]
      exact ⟨(ih next along).1, congrArg _ (ih next along).2⟩

end

end Nethernet.Foundation
