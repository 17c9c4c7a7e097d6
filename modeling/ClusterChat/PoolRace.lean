import ClusterChat.Jdbc
import ClusterChat.Library.Runs

/-!
# The size test of `MySQLConnectionPool::getConnection`

`getConnection` tests the size of the deque before it takes the mutex, and takes the
front of the deque and pops it under the mutex without another test. Between the two
steps other callers may empty the deque. Taking the front of an empty deque is
undefined behaviour in C++.

`never_empty_iff` says of every run of any number of callers when no pop meets an empty
deque, however the callers that have passed their test go on: when each test passes
only while there are more connections than callers between their test and their pop.
A call is then answered with the front of the deque it found, or with `nullptr` if it
found none.

A step is atomic, as if the size could be read in one. A caller makes one call at a
time. Connections are pointers, and the deque may hold null ones, which the constructor
pushes where no connection could be made. Any connection may be released, whoever had
it before.
-/

namespace ClusterChat.PoolRace

/-- What a call of `getConnection` comes to. -/
inductive Outcome where
  | returned (conn : Option Connection)
  | undefined
deriving DecidableEq

/-- A call that is over, with the deque its last step found. -/
structure Call where
  caller : Nat
  found : List (Option Connection)
  outcome : Outcome

/-- The deque, the callers between their size test and their pop, and the calls that
are over. -/
structure State where
  connections : List (Option Connection)
  passed : List Nat
  calls : List Call

/-- A caller tests the queue, takes from it, or gives a connection back. -/
inductive Event where
  | test (caller : Nat)
  | pop (caller : Nat)
  | release (caller : Nat) (conn : Option Connection)

/-- The pool with these connections, and nobody inside. -/
def start (connections : List (Option Connection)) : State := ⟨connections, [], []⟩

/-- The size test: a caller that finds the deque empty returns `nullptr`. -/
def test (caller : Nat) (s : State) : State :=
  if s.connections.isEmpty then { s with calls := s.calls ++ [⟨caller, [], .returned none⟩] }
  else { s with passed := caller :: s.passed }

/-- The locked part of `getConnection`. -/
def pop (caller : Nat) (s : State) : State :=
  match s.connections with
  | [] => { s with
      passed := s.passed.erase caller
      calls := s.calls ++ [⟨caller, [], .undefined⟩] }
  | conn :: rest => { s with
      connections := rest
      passed := s.passed.erase caller
      calls := s.calls ++ [⟨caller, conn :: rest, .returned conn⟩] }

/-- `releaseConnection`, which ignores a null pointer. -/
def release (conn : Option Connection) (s : State) : State :=
  match conn with
  | none => s
  | some conn => { s with connections := s.connections ++ [some conn] }

/-- A caller between its test and its pop makes no other call, and only such a caller
pops. -/
def step (s : State) : Event → State
  | .test caller => if caller ∈ s.passed then s else test caller s
  | .pop caller => if caller ∈ s.passed then pop caller s else s
  | .release caller conn => if caller ∈ s.passed then s else release conn s

/-- The call returned the front of the deque it found, and `nullptr` if there was none. -/
def Call.Answered (call : Call) : Prop :=
  match call.found with
  | [] => call.outcome = .returned none
  | conn :: _ => call.outcome = .returned conn

/-- No call has popped an empty deque, and each that is over was answered. -/
def Safe (s : State) : Prop := ∀ call ∈ s.calls, call.Answered

/-- However callers that have passed their test pop next, all calls are answered. -/
def Sound (s : State) : Prop := ∀ callers : List Nat, Safe (Runs.run step s (callers.map .pop))

/-- A test passes only while there are more connections than callers between their
test and their pop. -/
def Room (s : State) : Event → Prop
  | .test caller => caller ∉ s.passed → s.connections ≠ [] →
      s.passed.length < s.connections.length
  | .pop _ | .release _ _ => True

/-- The connections suffice for the callers that have passed their test. -/
def Enough (s : State) : Prop := s.passed.length ≤ s.connections.length

/-- The calls are safe if those before are and the new one is. -/
theorem safe_snoc (calls : List Call) (call : Call) :
    (∀ ended ∈ calls ++ [call], ended.Answered) ↔
      (∀ ended ∈ calls, ended.Answered) ∧ call.Answered := by
  rw [List.forall_mem_append, List.forall_mem_singleton]

/-- A caller that has passed its test and a sufficient deque: its pop is answered. -/
theorem safe_pop (s : State) (caller : Nat) (safe : Safe s) (inside : caller ∈ s.passed)
    (enough : Enough s) : Safe (pop caller s) := by
  obtain ⟨connections, passed, calls⟩ := s
  cases connections with
  | nil =>
    have waiting : 0 < passed.length := List.length_pos_of_mem inside
    have none : passed.length ≤ 0 := enough
    omega
  | cons conn rest => exact (safe_snoc calls _).mpr ⟨safe, rfl⟩

/-- Taking from a queue with enough connections leaves enough. -/
theorem enough_pop (s : State) (caller : Nat) (inside : caller ∈ s.passed) (enough : Enough s) :
    Enough (pop caller s) := by
  obtain ⟨connections, passed, calls⟩ := s
  have fewer : (passed.erase caller).length = passed.length - 1 := List.length_erase_of_mem inside
  have before : passed.length ≤ connections.length := enough
  cases connections with
  | nil =>
    change (passed.erase caller).length ≤ 0
    rw [List.length_nil] at before
    omega
  | cons conn rest =>
    change (passed.erase caller).length ≤ rest.length
    rw [List.length_cons] at before
    omega

/-- No step takes back an answer. -/
theorem safe_of_step (s : State) (event : Event) (safe : Safe (step s event)) : Safe s := by
  obtain ⟨connections, passed, calls⟩ := s
  cases event with
  | test caller =>
    simp only [step, test] at safe
    split_ifs at safe with inside empty
    · exact safe
    · exact ((safe_snoc calls _).mp safe).1
    · exact safe
  | pop caller =>
    simp only [step, pop] at safe
    split_ifs at safe with inside
    · cases connections with
      | nil => exact ((safe_snoc calls _).mp safe).1
      | cons conn rest => exact ((safe_snoc calls _).mp safe).1
    · exact safe
  | release caller conn =>
    simp only [step, release] at safe
    split_ifs at safe with inside
    · exact safe
    · cases conn <;> exact safe

/-- A run that is safe in the end was safe at its beginning. -/
theorem safe_of_run (s : State) (events : List Event) (safe : Safe (Runs.run step s events)) :
    Safe s := by
  induction events generalizing s with
  | nil => exact safe
  | cons event events inductionHypothesis =>
    exact safe_of_step s event (inductionHypothesis (step s event) safe)

/-- From a state with enough connections, a step is safe, and leaves enough exactly when
it does not let one caller too many pass. -/
theorem safe_enough_step (s : State) (event : Event) (safe : Safe s) (enough : Enough s) :
    (Safe (step s event) ∧ Enough (step s event)) ↔ Room s event := by
  cases event with
  | test caller =>
    simp only [step, Room]
    by_cases inside : caller ∈ s.passed
    · rw [if_pos inside]
      exact iff_of_true ⟨safe, enough⟩ fun outside => absurd inside outside
    · rw [if_neg inside, test]
      by_cases empty : s.connections.isEmpty = true
      · rw [if_pos empty]
        refine iff_of_true ⟨(safe_snoc s.calls _).mpr ⟨safe, rfl⟩, enough⟩ ?_
        exact fun _ nonempty => absurd (List.isEmpty_iff.mp empty) nonempty
      · rw [if_neg empty]
        have nonempty : s.connections ≠ [] := fun none => empty (List.isEmpty_iff.mpr none)
        constructor
        · exact fun both _ _ => both.2
        · exact fun room => ⟨safe, room inside nonempty⟩
  | pop caller =>
    refine iff_of_true ?_ trivial
    simp only [step]
    split_ifs with inside
    · exact ⟨safe_pop s caller safe inside enough, enough_pop s caller inside enough⟩
    · exact ⟨safe, enough⟩
  | release caller conn =>
    refine iff_of_true ?_ trivial
    simp only [step, release]
    split_ifs with inside
    · exact ⟨safe, enough⟩
    · cases conn with
      | none => exact ⟨safe, enough⟩
      | some conn =>
        refine ⟨safe, ?_⟩
        have before : s.passed.length ≤ s.connections.length := enough
        change s.passed.length ≤ (s.connections ++ [some conn]).length
        rw [List.length_append]
        omega

/-- With more callers than connections, the callers that passed pop one after another
until one of them meets an empty deque. -/
theorem not_safe_pops (passed : List Nat) (connections : List (Option Connection))
    (calls : List Call) (short : connections.length < passed.length) :
    ¬ Safe (Runs.run step ⟨connections, passed, calls⟩ (passed.map .pop)) := by
  induction passed generalizing connections calls with
  | nil => exact absurd short (Nat.not_lt_zero _)
  | cons caller rest inductionHypothesis =>
    have popped : step ⟨connections, caller :: rest, calls⟩ (.pop caller) =
        pop caller ⟨connections, caller :: rest, calls⟩ := if_pos List.mem_cons_self
    rw [List.map_cons, Runs.run_cons, popped]
    cases connections with
    | nil =>
      intro safe
      have answered := ((safe_snoc calls _).mp (safe_of_run _ _ safe)).2
      cases answered
    | cons conn others =>
      have left : pop caller ⟨conn :: others, caller :: rest, calls⟩ = ⟨others, rest,
          calls ++ [⟨caller, conn :: others, .returned conn⟩]⟩ := by
        simp only [pop, List.erase_cons_head]
      rw [left]
      apply inductionHypothesis
      rw [List.length_cons, List.length_cons] at short
      omega

/-- The pops under way are answered exactly when the connections suffice for them. -/
theorem sound_iff (s : State) : Sound s ↔ Safe s ∧ Enough s := by
  constructor
  · intro sound
    refine ⟨sound [], ?_⟩
    by_contra tooMany
    exact not_safe_pops s.passed s.connections s.calls (Nat.lt_of_not_le tooMany)
      (sound s.passed)
  · intro both callers
    induction callers generalizing s with
    | nil => exact both.1
    | cons caller rest inductionHypothesis =>
      exact inductionHypothesis _ ((safe_enough_step s (.pop caller) both.1 both.2).mpr trivial)

/-- If every test passes only while there are more connections than callers between
their test and their pop, no pop ever meets an empty deque and every call is answered.
That is also needed, for the pops that are then under way to be answered. -/
theorem never_empty_iff (connections : List (Option Connection)) (events : List Event) :
    (Runs.Guarded step Room (start connections) events →
      Runs.Always step Safe (start connections) events) ∧
    (Runs.Always step Sound (start connections) events ↔
      Runs.Guarded step Room (start connections) events) := by
  have begun : Safe (start connections) ∧ Enough (start connections) :=
    ⟨fun _ none => absurd none List.not_mem_nil, Nat.zero_le _⟩
  have kept := Runs.always_iff_guarded step (fun s => Safe s ∧ Enough s) (fun _ => True) Room
    (fun _ _ _ => trivial) (fun s event _ both => safe_enough_step s event both.1 both.2)
    (start connections) events trivial begun
  have sound : Runs.Always step Sound (start connections) events ↔
      Runs.Always step (fun s => Safe s ∧ Enough s) (start connections) events :=
    ⟨Runs.always_mono step _ _ (fun s => (sound_iff s).mp) _ _,
      Runs.always_mono step _ _ (fun s => (sound_iff s).mpr) _ _⟩
  refine ⟨fun guarded => ?_, sound.trans kept⟩
  exact Runs.always_mono step _ _ (fun _ both => both.1) _ _ (kept.mpr guarded)

/-- Two callers test a deque of one connection before either pops it. -/
theorem second_pop_of_last : ¬ ∀ connections events,
    Runs.Always step Safe (start connections) events := by
  intro safe
  have final := Runs.always_end step Safe _ _
    (safe [some 0] [.test 1, .test 2, .pop 1, .pop 2])
  have answered := final ⟨2, [], .undefined⟩ (List.mem_cons_of_mem _ List.mem_cons_self)
  cases answered

/-- A caller alone: its two steps are `getConnection` of the pool that operations run
one after another see. -/
theorem test_pop_alone (pool : Pool) (caller : Nat) (calls : List Call) :
    ∃ call, call.outcome = .returned pool.getConnection.1 ∧
      (Runs.run step ⟨pool.connections.map some, [], calls⟩ [.test caller, .pop caller]) =
        ⟨pool.getConnection.2.connections.map some, [], calls ++ [call]⟩ := by
  obtain ⟨connections, database, throws⟩ := pool
  cases connections with
  | nil => exact ⟨⟨caller, [], .returned none⟩, rfl, rfl⟩
  | cons conn rest =>
    refine ⟨⟨caller, some conn :: rest.map some, .returned (some conn)⟩, rfl, ?_⟩
    simp [Runs.run, step, test, pop, Pool.getConnection]

end ClusterChat.PoolRace
