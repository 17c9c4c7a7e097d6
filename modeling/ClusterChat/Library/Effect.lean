import Mathlib.Tactic.Common

/-!
# Computations with a state that survives exceptions

An effect reads and updates a state and ends with a value or an exception. What
it changed before an exception stays changed: nothing is rolled back, so the
absence of effects before a throw is a fact to be proved of a computation, not a
property of this type.

`Within relation` says that the computation moves the state only along a
relation, whatever value or exception it ends with. For the equality of one
component it is the frame rule of that component; for a growth order it says
that the component only grows. The rules below follow the constructs a
computation is written with. They need the relation to be reflexive and
transitive and nothing else.
-/

universe u v

/-- A computation over a state, ending in a value or in an exception. -/
def Effect (ε : Type v) (σ : Type u) (α : Type u) := σ → Except ε α × σ

namespace Effect

variable {ε : Type v} {σ α β : Type u}

/-- Stop with a value, leaving the state alone. -/
def value (result : α) : Effect ε σ α := fun state => (.ok result, state)

/-- Continue with the value, or leave with the exception and the state so far. -/
def bind (first : Effect ε σ α) (following : α → Effect ε σ β) : Effect ε σ β :=
  fun state =>
    match first state with
    | (.ok result, next) => following result next
    | (.error raised, next) => (.error raised, next)

instance : Monad (Effect ε σ) where
  pure := value
  bind := bind

/-- Leave with an exception. -/
def raise (raised : ε) : Effect ε σ α := fun state => (.error raised, state)

/-- Leave with the exception of a failed conversion, if it failed. -/
def lift : Except ε α → Effect ε σ α
  | .ok result => value result
  | .error raised => raise raised

/-- The current state. -/
def read : Effect ε σ σ := fun state => (.ok state, state)

/-- Update the state. -/
def update (change : σ → σ) : Effect ε σ PUnit := fun state => (.ok ⟨⟩, change state)

/-- A result leaves the state. -/
@[simp] theorem pure_apply (result : α) (state : σ) :
    (pure result : Effect ε σ α) state = (.ok result, state) := rfl

/-- An exception leaves the state. -/
@[simp] theorem raise_apply (raised : ε) (state : σ) :
    (raise raised : Effect ε σ α) state = (.error raised, state) := rfl

/-- A value that was converted is a result. -/
@[simp] theorem lift_ok (result : α) (state : σ) :
    (lift (.ok result) : Effect ε σ α) state = (.ok result, state) := rfl

/-- A conversion that failed is an exception. -/
@[simp] theorem lift_error (raised : ε) (state : σ) :
    (lift (.error raised) : Effect ε σ α) state = (.error raised, state) := rfl

/-- Reading the state leaves it. -/
@[simp] theorem read_apply (state : σ) : (read : Effect ε σ σ) state = (.ok state, state) := rfl

/-- Changing the state has no result. -/
@[simp] theorem update_apply (change : σ → σ) (state : σ) :
    (update change : Effect ε σ PUnit) state = (.ok ⟨⟩, change state) := rfl

/-- What follows starts with the result and the state that were left, unless an exception
was. -/
theorem bind_apply (first : Effect ε σ α) (following : α → Effect ε σ β) (state : σ) :
    (first >>= following) state =
      match first state with
      | (.ok result, next) => following result next
      | (.error raised, next) => (.error raised, next) := rfl

/-- A computation that ends with a value hands it and its state on. -/
theorem bind_ok (first : Effect ε σ α) (following : α → Effect ε σ β) (state next : σ)
    (result : α) (ended : first state = (.ok result, next)) :
    (first >>= following) state = following result next := by
  rw [bind_apply, ended]

/-- A computation that raises skips everything that follows it. -/
theorem bind_error (first : Effect ε σ α) (following : α → Effect ε σ β) (state next : σ)
    (raised : ε) (ended : first state = (.error raised, next)) :
    (first >>= following) state = (.error raised, next) := by
  rw [bind_apply, ended]

/-- The state moves only along the relation. -/
def Within (relation : σ → σ → Prop) (computation : Effect ε σ α) : Prop :=
  ∀ state, relation state (computation state).2

section Rules

variable (relation : σ → σ → Prop)

/-- A result stays within every reflexive relation. -/
theorem within_pure [Std.Refl relation] (result : α) :
    Within relation (pure result : Effect ε σ α) :=
  fun state => refl_of relation state

/-- So does an exception. -/
theorem within_raise [Std.Refl relation] (raised : ε) :
    Within relation (raise raised : Effect ε σ α) :=
  fun state => refl_of relation state

/-- So does a conversion. -/
theorem within_lift [Std.Refl relation] (converted : Except ε α) :
    Within relation (lift converted : Effect ε σ α) := by
  cases converted with
  | ok result => exact within_pure relation result
  | error raised => exact within_raise relation raised

/-- Steps within a transitive relation stay within it together. -/
theorem within_bind [IsTrans σ relation] (first : Effect ε σ α) (following : α → Effect ε σ β)
    (start : Within relation first) (rest : ∀ result, Within relation (following result)) :
    Within relation (first >>= following) := by
  intro state
  have moved : relation state (first state).2 := start state
  rw [bind_apply]
  cases ended : first state with
  | mk outcome next =>
    rw [ended] at moved
    cases outcome with
    | ok result => exact trans_of relation moved (rest result next)
    | error raised => exact moved

end Rules

end Effect
