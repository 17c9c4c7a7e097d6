import Mathlib.Tactic.Common

/-!
# Properties of whole runs

A run folds a step function over its events. `Always` asks a property of every
state the run visits, the first and the last included. `Guarded` asks a
condition of every event in the state the event starts from.

The two central laws reduce a property of runs to one step. Where each guarded
step preserves the property, a guarded run has it always. Where a step preserves
the property exactly when its guard holds, a run has the property always if and
only if all its steps are guarded. An auxiliary invariant that every step
preserves may be assumed of the states in question.
-/

universe u v

namespace Runs

variable {State : Type u} {Event : Type v} (step : State → Event → State)

/-- The state after a sequence of events. -/
def run (state : State) (events : List Event) : State := events.foldl step state

/-- A run of no events stays where it is. -/
@[simp] theorem run_nil (state : State) : run step state [] = state := rfl

/-- A run goes on from its first step. -/
@[simp] theorem run_cons (state : State) (event : Event) (events : List Event) :
    run step state (event :: events) = run step (step state event) events := rfl

/-- The property holds in every visited state. -/
def Always (property : State → Prop) : State → List Event → Prop
  | state, [] => property state
  | state, event :: events => property state ∧ Always property (step state event) events

/-- Every event satisfies the guard in the state it starts from. -/
def Guarded (guard : State → Event → Prop) : State → List Event → Prop
  | _, [] => True
  | state, event :: events => guard state event ∧ Guarded guard (step state event) events

variable (property invariant : State → Prop) (guard : State → Event → Prop)

/-- What the events of a run keep holds at its end. -/
theorem run_holds (state : State) (events : List Event)
    (kept : ∀ state, ∀ event ∈ events, property state → property (step state event))
    (holds : property state) : property (run step state events) :=
  List.foldlRecOn events step holds fun state holds event member => kept state event member holds

/-- What holds along a run holds at its start. -/
theorem always_start (state : State) (events : List Event)
    (always : Always step property state events) : property state := by
  cases events with
  | nil => exact always
  | cons event events => exact always.1

/-- What holds always holds at the end. -/
theorem always_end (state : State) (events : List Event)
    (always : Always step property state events) : property (run step state events) := by
  induction events generalizing state with
  | nil => exact always
  | cons event events inductionHypothesis => exact inductionHypothesis _ always.2

/-- What follows from a property in every state follows always. -/
theorem always_mono (weaker : State → Prop) (follows : ∀ state, property state → weaker state)
    (state : State) (events : List Event) (always : Always step property state events) :
    Always step weaker state events := by
  induction events generalizing state with
  | nil => exact follows state always
  | cons event events inductionHypothesis =>
    exact ⟨follows state always.1, inductionHypothesis _ always.2⟩

/-- Two properties hold along a run together. -/
theorem always_and (other : State → Prop) (state : State) (events : List Event)
    (first : Always step property state events) (second : Always step other state events) :
    Always step (fun state => property state ∧ other state) state events := by
  induction events generalizing state with
  | nil => exact ⟨first, second⟩
  | cons event events inductionHypothesis =>
    exact ⟨⟨first.1, second.1⟩, inductionHypothesis _ first.2 second.2⟩

/-- A step invariant holds in every state of every run that starts in it. -/
theorem always_of_step (kept : ∀ state event, invariant state → invariant (step state event))
    (state : State) (events : List Event) (holds : invariant state) :
    Always step invariant state events := by
  induction events generalizing state with
  | nil => exact holds
  | cons event events inductionHypothesis =>
    exact ⟨holds, inductionHypothesis _ (kept state event holds)⟩

/-- Where guarded steps preserve the property, guarded runs have it always. -/
theorem always_of_guarded
    (kept : ∀ state event, property state → guard state event → property (step state event))
    (state : State) (events : List Event) (holds : property state)
    (guarded : Guarded step guard state events) : Always step property state events := by
  induction events generalizing state with
  | nil => exact holds
  | cons event events inductionHypothesis =>
    exact ⟨holds, inductionHypothesis _ (kept state event holds guarded.1) guarded.2⟩

/-- Where a step preserves the property exactly when its guard holds, the guard
of every step is exactly what the property needs to hold always. -/
theorem always_iff_guarded
    (kept : ∀ state event, invariant state → invariant (step state event))
    (exact : ∀ state event, invariant state → property state →
      (property (step state event) ↔ guard state event))
    (state : State) (events : List Event) (start : invariant state) (holds : property state) :
    Always step property state events ↔ Guarded step guard state events := by
  induction events generalizing state with
  | nil => exact ⟨fun _ => trivial, fun _ => holds⟩
  | cons event events inductionHypothesis =>
    have following := exact state event start holds
    constructor
    · rintro ⟨_, rest⟩
      have next : property (step state event) := always_start step property _ _ rest
      exact ⟨following.mp next,
        (inductionHypothesis _ (kept state event start) next).mp rest⟩
    · rintro ⟨guarded, rest⟩
      have next : property (step state event) := following.mpr guarded
      exact ⟨holds, (inductionHypothesis _ (kept state event start) next).mpr rest⟩

/-- A guard that every event satisfies in the states of an invariant is met by a whole
run. -/
theorem guarded_of_invariant
    (kept : ∀ state event, invariant state → invariant (step state event))
    (every : ∀ state event, invariant state → guard state event)
    (state : State) (events : List Event) (start : invariant state) :
    Guarded step guard state events := by
  induction events generalizing state with
  | nil => exact trivial
  | cons event events inductionHypothesis =>
    exact ⟨every state event start, inductionHypothesis _ (kept state event start)⟩

/-- Two guards that agree in the states of an invariant agree on a whole run, when
steps that satisfy the second keep the invariant. -/
theorem guarded_iff (other : State → Event → Prop)
    (same : ∀ state event, invariant state → (guard state event ↔ other state event))
    (kept : ∀ state event, invariant state → other state event → invariant (step state event))
    (state : State) (events : List Event) (start : invariant state) :
    Guarded step guard state events ↔ Guarded step other state events := by
  induction events generalizing state with
  | nil => exact Iff.rfl
  | cons event events inductionHypothesis =>
    have here := same state event start
    constructor
    · rintro ⟨first, rest⟩
      have next := kept state event start (here.mp first)
      exact ⟨here.mp first, (inductionHypothesis _ next).mp rest⟩
    · rintro ⟨first, rest⟩
      have next := kept state event start first
      exact ⟨here.mpr first, (inductionHypothesis _ next).mpr rest⟩

end Runs
