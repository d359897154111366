import Mathlib.Data.List.Basic
import Mathlib.Order.Defs.Unbundled

/-! Programs on a state that may fail and keep what they changed before they failed.

`Triple` gives such a program a precondition, a postcondition for its value and one
for its error; `Obeys` relates the state it leaves to the one it was given, failed or not. -/

set_option autoImplicit false

namespace Nethernet.Foundation

def Fallible (S E A : Type) : Type := S → S × Except E A

namespace Fallible

section
variable {S E A B : Type}

def pure (value : A) : Fallible S E A := fun state => (state, .ok value)

def bind (first : Fallible S E A) (next : A → Fallible S E B) : Fallible S E B := fun state =>
  match first state with
  | (state, .ok value) => next value state
  | (state, .error error) => (state, .error error)

instance : Monad (Fallible S E) where
  pure := pure
  bind := bind

def get : Fallible S E S := fun state => (state, .ok state)

def modify (change : S → S) : Fallible S E Unit := fun state => (change state, .ok ())

def ofExcept (result : Except E A) : Fallible S E A := fun state => (state, result)

/-- Runs a program for each item in order, until one fails. -/
def each : List A → (A → Fallible S E Unit) → Fallible S E Unit
  | [], _ => pure ()
  | item :: rest, program => bind (program item) fun _ => each rest program

variable {next : A → Fallible S E B} {first : Fallible S E A} {state after : S} {value : A}

theorem bind_of_ok (outcome : first state = (after, .ok value)) : (first >>= next) state = next value after := by
  show bind first next state = _
  rw [bind, outcome]

theorem bind_of_error {error : E} (outcome : first state = (after, .error error)) :
    (first >>= next) state = (after, .error error) := by
  show bind first next state = _
  rw [bind, outcome]

theorem bind_get (next : S → Fallible S E B) (state : S) : (get >>= next) state = next state state := rfl

theorem bind_modify (change : S → S) (next : Unit → Fallible S E B) (state : S) :
    (modify change >>= next) state = next () (change state) := rfl

theorem bind_assoc {C : Type} (first : Fallible S E A) (second : A → Fallible S E B) (third : B → Fallible S E C) :
    (first >>= second) >>= third = first >>= fun value => second value >>= third := by
  funext state
  show bind (bind first second) third state = bind first (fun value => bind (second value) third) state
  unfold bind
  cases first state with
  | mk after value => cases value <;> rfl

theorem bind_ok_iff {value : B} :
    (first >>= next) state = (after, .ok value) ↔
      ∃ middle item, first state = (middle, .ok item) ∧ next item middle = (after, .ok value) := by
  cases outcome : first state with
  | mk middle result =>
    cases result with
    | error error => simp [bind_of_error outcome]
    | ok item => simp [bind_of_ok outcome]

def Succeeds (program : Fallible S E A) (state : S) : Prop := ∃ value, (program state).2 = .ok value

theorem succeeds_bind_of_ok (outcome : first state = (after, .ok value)) :
    Succeeds (first >>= next) state ↔ Succeeds (next value) after := by
  unfold Succeeds
  rw [bind_of_ok outcome]

theorem not_succeeds_bind {error : E} (outcome : first state = (after, .error error)) :
    ¬ Succeeds (first >>= next) state := by
  unfold Succeeds
  rw [bind_of_error outcome]
  rintro ⟨value, impossible⟩
  cases impossible

theorem succeeds_bind :
    Succeeds (first >>= next) state ↔ ∃ value, (first state).2 = .ok value ∧ Succeeds (next value) (first state).1 := by
  cases outcome : first state with
  | mk after value =>
    cases value with
    | error error => simp [not_succeeds_bind outcome]
    | ok value => simp [succeeds_bind_of_ok outcome]

theorem succeeds_seq {next : Fallible S E B} :
    Succeeds (first >>= fun _ => next) state ↔ Succeeds first state ∧ Succeeds next (first state).1 := by
  rw [succeeds_bind]
  exact exists_and_right

-- what follows cannot fail
theorem succeeds_bind_total (total : ∀ value after, Succeeds (next value) after) :
    Succeeds (first >>= next) state ↔ Succeeds first state := by
  rw [succeeds_bind]
  exact exists_congr fun value => and_iff_left (total value _)

/-- What each turn of a loop asks of the state it begins in. -/
def EachTurn (program : A → Fallible S E Unit) (turn : A → S → Prop) : List A → S → Prop
  | [], _ => True
  | item :: rest, state => turn item state ∧ EachTurn program turn rest (program item state).1

theorem succeeds_each {program : A → Fallible S E Unit} {turn : A → S → Prop}
    (succeeds : ∀ item state, Succeeds (program item) state ↔ turn item state) (items : List A) (state : S) :
    Succeeds (each items program) state ↔ EachTurn program turn items state := by
  induction items generalizing state with
  | nil => exact ⟨fun _ => trivial, fun _ => ⟨(), rfl⟩⟩
  | cons item rest ih =>
    show Succeeds (program item >>= fun _ => each rest program) state ↔ turn item state ∧ _
    rw [succeeds_seq, succeeds, ih]

/-- Before a program `before` holds; after it `onOk` holds of its value and state, or `onError`
of the state in which it failed. -/
def Triple (before : S → Prop) (program : Fallible S E A) (onOk : A → S → Prop) (onError : S → Prop) : Prop :=
  ∀ state, before state →
    match program state with
    | (after, .ok value) => onOk value after
    | (after, .error _) => onError after

variable {before middle : S → Prop} {onError : S → Prop} {onOk : A → S → Prop} {program : Fallible S E A}

theorem Triple.ok (triple : Triple before program onOk onError) (start : before state)
    (outcome : program state = (after, .ok value)) : onOk value after := by
  have result := triple state start
  rwa [outcome] at result

-- what holds in either case holds of the state that is left
theorem Triple.left {after : S → Prop} (triple : Triple before program (fun _ => after) after) (start : before state) :
    after (program state).1 := by
  have result := triple state start
  cases outcome : program state with
  | mk next value =>
    rw [outcome] at result
    cases value <;> exact result

theorem Triple.pure (holds : ∀ state, before state → onOk value state) :
    Triple before (Pure.pure value : Fallible S E A) onOk onError :=
  holds

theorem Triple.bind {onFirst : A → S → Prop} {onOk : B → S → Prop} (begins : Triple before first onFirst onError)
    (continues : ∀ value, Triple (onFirst value) (next value) onOk onError) :
    Triple before (first >>= next) onOk onError := by
  intro state start
  have result := begins state start
  show match Fallible.bind first next state with
    | (after, .ok value) => onOk value after
    | (after, .error _) => onError after
  unfold Fallible.bind
  cases outcome : first state with
  | mk after value =>
    rw [outcome] at result
    cases value with
    | error e => exact result
    | ok value => exact continues value after result

/-- The state that is read is the one the program goes on with. -/
theorem Triple.get :
    Triple before (Fallible.get : Fallible S E S) (fun value state => value = state ∧ before state) onError :=
  fun _ holds => ⟨rfl, holds⟩

-- when what was read does not matter to the proof
theorem Triple.read {next : S → Fallible S E A} (continues : ∀ value, Triple before (next value) onOk onError) :
    Triple before (Fallible.get >>= next) onOk onError :=
  fun state start => continues state state start

theorem Triple.modify {change : S → S} {onOk : Unit → S → Prop}
    (holds : ∀ state, before state → onOk () (change state)) :
    Triple before (Fallible.modify change : Fallible S E Unit) onOk onError :=
  holds

theorem Triple.ofExcept {result : Except E A}
    (holds : ∀ state, before state → ∀ value, result = .ok value → onOk value state)
    (fails : ∀ state, before state → ∀ error, result = .error error → onError state) :
    Triple before (Fallible.ofExcept result : Fallible S E A) onOk onError := by
  intro state start
  unfold Fallible.ofExcept
  cases result with
  | ok value => exact holds state start value rfl
  | error e => exact fails state start e rfl

theorem Triple.weaken {onOk' : A → S → Prop} {before' onError' : S → Prop}
    (triple : Triple before program onOk onError) (stronger : ∀ state, before' state → before state)
    (okWeaker : ∀ value state, onOk value state → onOk' value state)
    (errorWeaker : ∀ state, onError state → onError' state) : Triple before' program onOk' onError' := by
  intro state start
  have result := triple state (stronger state start)
  cases outcome : program state with
  | mk after value =>
    rw [outcome] at result
    cases value with
    | ok value => exact okWeaker value after result
    | error e => exact errorWeaker after result

-- begun in a known state, where what follows may use how the program ended from there
theorem Triple.remember (triple : Triple before program onOk onError) (start : before state) :
    Triple (· = state) program (fun value after => onOk value after ∧ program state = (after, .ok value)) onError := by
  intro _ same
  subst same
  have result := triple _ start
  cases outcome : program _ with
  | mk after value =>
    rw [outcome] at result
    cases value with
    | ok value => exact ⟨result, rfl⟩
    | error e => exact result

theorem Triple.any (program : Fallible S E A) :
    Triple before program (fun _ _ => True) (fun _ => True) := by
  intro state _
  cases program state with
  | mk after value => cases value <;> trivial

/-- A loop keeps what every turn of it keeps. -/
theorem Triple.each {items : List A} {program : A → Fallible S E Unit} {invariant : S → Prop}
    (turn : ∀ item ∈ items, Triple invariant (program item) (fun _ => invariant) onError) :
    Triple invariant (Fallible.each items program) (fun _ => invariant) onError := by
  induction items with
  | nil => exact fun _ holds => holds
  | cons item rest ih =>
    apply Triple.bind (turn item List.mem_cons_self)
    intro _
    exact ih fun other member => turn other (List.mem_cons_of_mem _ member)

end

section
variable {S E A B : Type}

def Obeys (relation : S → S → Prop) (program : Fallible S E A) : Prop :=
  ∀ state, relation state (program state).1

variable {relation : S → S → Prop} {program : Fallible S E A}

theorem Obeys.weaken {wider : S → S → Prop} (obeys : Obeys relation program)
    (implied : ∀ before after, relation before after → wider before after) : Obeys wider program :=
  fun state => implied _ _ (obeys state)

theorem Obeys.triple {holds : S → Prop} (obeys : Obeys relation program)
    (kept : ∀ before after, relation before after → holds before → holds after) :
    Triple holds program (fun _ => holds) holds := by
  intro state start
  have result := kept _ _ (obeys state) start
  cases outcome : program state with
  | mk after value =>
    rw [outcome] at result
    cases value <;> exact result

theorem Obeys.modify {change : S → S} (holds : ∀ state, relation state (change state)) :
    Obeys relation (Fallible.modify change : Fallible S E Unit) :=
  holds

variable [IsPreorder S relation]

theorem Obeys.pure (value : A) : Obeys relation (Pure.pure value : Fallible S E A) :=
  fun state => refl_of relation state

theorem Obeys.ofExcept (result : Except E A) : Obeys relation (Fallible.ofExcept result : Fallible S E A) :=
  fun state => refl_of relation state

variable {next : A → Fallible S E B}

theorem Obeys.bind {first : Fallible S E A} (begins : Obeys relation first)
    (continues : ∀ value, Obeys relation (next value)) : Obeys relation (first >>= next) := by
  intro state
  have begun := begins state
  show relation state (Fallible.bind first next state).1
  unfold Fallible.bind
  cases outcome : first state with
  | mk after value =>
    rw [outcome] at begun
    cases value with
    | error e => exact begun
    | ok value => exact trans_of relation begun (continues value after)

-- what the rest of a program does to the state that its first part leaves
theorem Obeys.rest (continues : ∀ value, Obeys relation (next value)) (first : Fallible S E A) (state : S) :
    relation (first state).1 ((first >>= next) state).1 := by
  show relation (first state).1 (Fallible.bind first next state).1
  unfold Fallible.bind
  cases first state with
  | mk after value =>
    cases value with
    | error e => exact refl_of relation after
    | ok value => exact continues value after

theorem Obeys.get : Obeys relation (Fallible.get : Fallible S E S) :=
  fun state => refl_of relation state

theorem Obeys.each {items : List A} {program : A → Fallible S E Unit}
    (turn : ∀ item ∈ items, Obeys relation (program item)) : Obeys relation (Fallible.each items program) := by
  induction items with
  | nil => exact .pure ()
  | cons item rest ih =>
    apply Obeys.bind (turn item List.mem_cons_self)
    intro _
    exact ih fun other member => turn other (List.mem_cons_of_mem _ member)

end

section
variable {S E A B : Type} {change : S → S}

/-- From this state the program does not see a change of the state, and does not undo it. -/
def IgnoresAt (change : S → S) (program : Fallible S E A) (state : S) : Prop :=
  program (change state) = (change (program state).1, (program state).2)

variable {next : A → Fallible S E B} {first : Fallible S E A}

theorem IgnoresAt.bind {state : S} (begins : IgnoresAt change first state)
    (continues : ∀ value after, first state = (after, .ok value) → IgnoresAt change (next value) after) :
    IgnoresAt change (first >>= next) state := by
  show Fallible.bind first next (change state) =
    (change (Fallible.bind first next state).1, (Fallible.bind first next state).2)
  unfold Fallible.bind
  rw [begins]
  cases outcome : first state with
  | mk after value =>
    cases value with
    | error e => rfl
    | ok value => exact continues value after outcome

-- what was read decides how to go on, but not through what changed
theorem IgnoresAt.read {next : S → Fallible S E A} {state : S} (unseen : next (change state) = next state)
    (continues : IgnoresAt change (next state) state) : IgnoresAt change (Fallible.get >>= next) state := by
  show next (change state) (change state) = _
  rw [unseen]
  exact continues

def Ignores (change : S → S) (program : Fallible S E A) : Prop := ∀ state, IgnoresAt change program state

theorem Ignores.pure (value : A) : Ignores change (Pure.pure value : Fallible S E A) := fun _ => rfl

theorem Ignores.ofExcept (result : Except E A) : Ignores change (Fallible.ofExcept result : Fallible S E A) :=
  fun _ => rfl

theorem Ignores.modify {update : S → S} (commutes : ∀ state, update (change state) = change (update state)) :
    Ignores change (Fallible.modify update : Fallible S E Unit) :=
  fun state => congrArg (·, Except.ok ()) (commutes state)

theorem Ignores.bind (begins : Ignores change first) (continues : ∀ value, Ignores change (next value)) :
    Ignores change (first >>= next) :=
  fun state => (begins state).bind fun value after _ => continues value after

theorem Ignores.read {next : S → Fallible S E A} (unseen : ∀ state, next (change state) = next state)
    (continues : ∀ value, Ignores change (next value)) : Ignores change (Fallible.get >>= next) :=
  fun state => .read (unseen state) (continues state state)

/-- A property that a program has if its parts have it and it reads only what `change` keeps. -/
structure Compositional (change : S → S) (property : (A : Type) → Fallible S E A → Prop) : Prop where
  ofExcept : ∀ {A : Type} (result : Except E A), property A (Fallible.ofExcept result)
  bind : ∀ {A B : Type} {first : Fallible S E A} {next : A → Fallible S E B},
    property A first → (∀ value, property B (next value)) → property B (first >>= next)
  read : ∀ {A : Type} {next : S → Fallible S E A}, (∀ state, next (change state) = next state) →
    (∀ state, property A (next state)) → property A (Fallible.get >>= next)

theorem compositional_obeys {relation : S → S → Prop} [IsPreorder S relation] :
    Compositional (E := E) change fun _ => Obeys relation :=
  ⟨.ofExcept, .bind, fun _ continues => Obeys.get.bind continues⟩

theorem compositional_ignores : Compositional (E := E) change fun _ => Ignores change :=
  ⟨.ofExcept, .bind, .read⟩

section
variable {property : (A : Type) → Fallible S E A → Prop} (parts : Compositional change property)
include parts

theorem Compositional.pure (value : A) : property A (Fallible.pure value) := parts.ofExcept (.ok value)

theorem Compositional.each {items : List A} {program : A → Fallible S E Unit} (turn : ∀ item, property Unit (program item)) :
    property Unit (Fallible.each items program) := by
  induction items with
  | nil => exact parts.pure ()
  | cons item rest ih => exact parts.bind (turn item) fun _ => ih

end

end

end Fallible

end Nethernet.Foundation
