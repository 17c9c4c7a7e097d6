import ClusterChat.Library.Custody
import ClusterChat.Library.Runs

/-!
# The pool of Redis connections

`RedisConnectionPool` keeps its connections in a queue under one mutex. `acquire`
gives the mutex up only where it waits on the condition variable, so a call is one
step, or a step in which it begins to wait and later steps in which it is woken, by
a notification or for no reason, or reaches its timeout. Whenever it has the mutex
again it looks at the queue and at `stopped_` anew. `release` and `stop` are one step
each; whom they notify does not matter, since a waiting call may be woken at any
time.

The queue and what the callers hold are a `Custody` of connections. `never_shared`
collects what every order of steps of any number of callers keeps: a connection is
in one place at most, none that `init` created is lost before `stop`, and no call
returns one after it, whether it began before or after. A connection that is
released after `stop` waits in the queue for good.

A caller releases a connection only while it holds it. The run begins after one call
of `init`, which skips the connections that could not be made.
-/

namespace ClusterChat

/-- The connections and their callers, `stopped_`, and the `timeout_ms` of the call
of `acquire` each caller waits in. -/
structure RedisConnectionPool where
  connections : Custody Nat Nat
  stopped : Bool
  waiting : Nat → Option Int

namespace RedisConnectionPool

/-- What a call of `acquire` has come to after a step. -/
inductive Reply where
  | waits
  | nullptr
  | conn (conn : Nat)
deriving DecidableEq

/-- The connections `init` makes, by the iteration that makes them. -/
def created (poolSize : Int) (connects : Nat → Bool) : List Nat :=
  (List.range poolSize.toNat).filter connects

/-- `RedisConnectionPool::init`. -/
def init (poolSize : Int) (connects : Nat → Bool) : RedisConnectionPool :=
  ⟨Custody.stocked (created poolSize connects), false, fun _ => none⟩

/-- The predicate of the wait. -/
def ready (pool : RedisConnectionPool) : Bool :=
  !pool.connections.queue.isEmpty || pool.stopped

/-- The last part of `acquire`, after the wait if there was one. -/
def pop (caller : Nat) (pool : RedisConnectionPool) : Reply × RedisConnectionPool :=
  if pool.stopped then (.nullptr, pool)
  else match pool.connections.queue with
    | [] => (.nullptr, pool)
    | conn :: _ => (.conn conn, { pool with connections := pool.connections.take caller })

/-- `acquire`, up to its first wait. -/
def acquire (caller : Nat) (timeoutMs : Int) (pool : RedisConnectionPool) :
    Reply × RedisConnectionPool :=
  if pool.stopped then (.nullptr, pool)
  else if pool.connections.queue.isEmpty then
    (.waits, { pool with waiting := Function.update pool.waiting caller (some timeoutMs) })
  else pop caller pool

/-- The call leaves the wait. -/
def leaveWait (caller : Nat) (pool : RedisConnectionPool) : RedisConnectionPool :=
  { pool with waiting := Function.update pool.waiting caller none }

/-- The wait wakes and evaluates its predicate. -/
def wake (caller : Nat) (pool : RedisConnectionPool) : Reply × RedisConnectionPool :=
  if pool.ready then pop caller (pool.leaveWait caller) else (.waits, pool)

/-- `wait_for` reaches its timeout and returns the value of its predicate. -/
def timeout (caller : Nat) (pool : RedisConnectionPool) : Reply × RedisConnectionPool :=
  if pool.ready then pop caller (pool.leaveWait caller) else (.nullptr, pool.leaveWait caller)

/-- `release`. -/
def release (caller conn : Nat) (pool : RedisConnectionPool) : RedisConnectionPool :=
  { pool with connections := pool.connections.giveBack caller conn }

/-- `stop`, which discards the queued connections. -/
def stop (pool : RedisConnectionPool) : RedisConnectionPool :=
  if pool.stopped then pool
  else { pool with stopped := true, connections := pool.connections.discard }

/-- The steps of the callers. A call that waits without a timeout cannot reach it. -/
inductive Event where
  | acquire (caller : Nat) (timeoutMs : Int)
  | wake (caller : Nat)
  | timeout (caller : Nat)
  | release (caller conn : Nat)
  | stop
deriving DecidableEq

/-- A caller that waits makes no other call, and only a timed wait reaches its
timeout. -/
def permits (pool : RedisConnectionPool) : Event → Bool
  | .acquire caller _ | .release caller _ => (pool.waiting caller).isNone
  | .wake caller => (pool.waiting caller).isSome
  | .timeout caller => (pool.waiting caller).any (fun timeoutMs => 0 < timeoutMs)
  | .stop => true

/-- A step, with the reply of the call of `acquire` it belongs to, if any. -/
def perform (pool : RedisConnectionPool) (event : Event) : Option Reply × RedisConnectionPool :=
  if pool.permits event then
    match event with
    | .acquire caller timeoutMs => (pool.acquire caller timeoutMs).map some id
    | .wake caller => (pool.wake caller).map some id
    | .timeout caller => (pool.timeout caller).map some id
    | .release caller conn => (none, pool.release caller conn)
    | .stop => (none, pool.stop)
  else (none, pool)

/-- The pool after the event. -/
def step (pool : RedisConnectionPool) (event : Event) : RedisConnectionPool :=
  (pool.perform event).2

/-- What a step can do to the connections: nothing, a caller takes the front of the
queue of a running pool and is handed it, a caller gives one back, or the pool is
stopped. -/
inductive Moves (pool : RedisConnectionPool) : Event → Option Reply → RedisConnectionPool → Prop
  | still (event : Event) (reply : Option Reply) (next : RedisConnectionPool)
      (same : next.connections = pool.connections) (running : next.stopped = pool.stopped)
      (handed : ∀ conn, reply ≠ some (.conn conn)) (stays : event = .stop → pool.stopped = true) :
      Moves pool event reply next
  | take (event : Event) (caller conn : Nat) (rest : List Nat) (next : RedisConnectionPool)
      (front : pool.connections.queue = conn :: rest) (running : pool.stopped = false)
      (taken : next.connections = pool.connections.take caller) (still : next.stopped = false)
      (other : event ≠ .stop) : Moves pool event (some (.conn conn)) next
  | giveBack (caller conn : Nat) (next : RedisConnectionPool)
      (given : next.connections = pool.connections.giveBack caller conn)
      (same : next.stopped = pool.stopped) : Moves pool (.release caller conn) none next
  | stop (next : RedisConnectionPool) (dropped : next.connections = pool.connections.discard)
      (stopped : next.stopped = true) : Moves pool .stop none next

section Movement

variable (pool : RedisConnectionPool) (event : Event) (other : event ≠ .stop)

include other

/-- Nothing happens to the connections. -/
theorem moves_still (reply : Reply) (next : RedisConnectionPool)
    (same : next.connections = pool.connections) (running : next.stopped = pool.stopped)
    (handed : ∀ conn, reply ≠ .conn conn) : Moves pool event (some reply) next :=
  .still event _ next same running (fun conn isConn => handed conn (Option.some.inj isConn))
    (fun isStop => absurd isStop other)

/-- The last part of an acquisition hands out the front of the queue, or nothing. -/
theorem moves_pop (caller : Nat) (waiter : RedisConnectionPool)
    (connections : waiter.connections = pool.connections)
    (stopped : waiter.stopped = pool.stopped) :
    Moves pool event (some (waiter.pop caller).1) (waiter.pop caller).2 := by
  unfold pop
  by_cases ended : waiter.stopped = true
  · rw [if_pos ended]
    exact moves_still pool event other _ waiter connections stopped (by simp)
  · rw [if_neg ended]
    have running : pool.stopped = false := by
      rw [← stopped]
      simpa using ended
    cases front : waiter.connections.queue with
    | nil => exact moves_still pool event other _ waiter connections stopped (by simp)
    | cons conn rest =>
      exact .take event caller conn rest _ (connections ▸ front) running (by rw [connections])
        (stopped.trans running) other

/-- A first attempt moves the connections as `Moves` says. -/
theorem moves_acquire (caller : Nat) (timeoutMs : Int) : Moves pool event
    (some (pool.acquire caller timeoutMs).1) (pool.acquire caller timeoutMs).2 := by
  unfold acquire
  by_cases ended : pool.stopped = true
  · rw [if_pos ended]
    exact moves_still pool event other _ pool rfl rfl (by simp)
  · rw [if_neg ended]
    by_cases empty : pool.connections.queue.isEmpty = true
    · rw [if_pos empty]
      exact moves_still pool event other _ _ rfl rfl (by simp)
    · rw [if_neg empty]
      exact moves_pop pool event other caller pool rfl rfl

/-- So does a woken call. -/
theorem moves_wake (caller : Nat) :
    Moves pool event (some (pool.wake caller).1) (pool.wake caller).2 := by
  unfold wake
  by_cases ready : pool.ready = true
  · rw [if_pos ready]
    exact moves_pop pool event other caller (pool.leaveWait caller) rfl rfl
  · rw [if_neg ready]
    exact moves_still pool event other _ pool rfl rfl (by simp)

/-- So does one whose time is over. -/
theorem moves_timeout (caller : Nat) :
    Moves pool event (some (pool.timeout caller).1) (pool.timeout caller).2 := by
  unfold timeout
  by_cases ready : pool.ready = true
  · rw [if_pos ready]
    exact moves_pop pool event other caller (pool.leaveWait caller) rfl rfl
  · rw [if_neg ready]
    exact moves_still pool event other _ _ rfl rfl (by simp)

end Movement

/-- Every event moves the connections as `Moves` says. -/
theorem moves (pool : RedisConnectionPool) (event : Event) :
    Moves pool event (pool.perform event).1 (pool.perform event).2 := by
  unfold perform
  by_cases permitted : pool.permits event = true
  · rw [if_pos permitted]
    cases event with
    | acquire caller timeoutMs => exact moves_acquire pool _ (by simp) caller timeoutMs
    | wake caller => exact moves_wake pool _ (by simp) caller
    | timeout caller => exact moves_timeout pool _ (by simp) caller
    | release caller conn => exact .giveBack caller conn (pool.release caller conn) rfl rfl
    | stop =>
      change Moves pool .stop none pool.stop
      unfold stop
      by_cases ended : pool.stopped = true
      · rw [if_pos ended]
        exact .still _ _ pool rfl rfl (by simp) (fun _ => ended)
      · rw [if_neg ended]
        exact .stop _ rfl rfl
  · rw [if_neg permitted]
    refine .still event none pool rfl rfl (by simp) ?_
    rintro rfl
    exact absurd rfl permitted

/-- What every step keeps: connections are in one place at most and are those `init`
created. -/
structure Sound (tokens : List Nat) (pool : RedisConnectionPool) : Prop where
  exclusive : pool.connections.Exclusive
  origin : ∀ conn, pool.connections.Present conn → conn ∈ tokens

/-- Before `stop`, every connection that was created is somewhere. -/
def Complete (tokens : List Nat) (pool : RedisConnectionPool) : Prop :=
  pool.stopped = false → ∀ conn ∈ tokens, pool.connections.Present conn

/-- Every step moves the connections as `Moves` says. -/
theorem step_moves (pool : RedisConnectionPool) (event : Event) :
    ∃ reply, Moves pool event reply (pool.step event) := ⟨_, moves pool event⟩

/-- Every step keeps what every step keeps. -/
theorem sound_step (tokens : List Nat) (pool : RedisConnectionPool) (event : Event)
    (sound : Sound tokens pool) : Sound tokens (pool.step event) := by
  obtain ⟨reply, moved⟩ := step_moves pool event
  generalize pool.step event = next at moved ⊢
  cases moved with
  | still _ _ _ same running handed stays =>
    exact ⟨same ▸ sound.exclusive, fun conn present => sound.origin conn (same ▸ present)⟩
  | take _ caller conn rest _ front running taken still other =>
    refine ⟨taken ▸ sound.exclusive.take caller, fun held present => sound.origin held ?_⟩
    rw [taken] at present
    exact (Custody.present_take caller pool.connections held).mp present
  | giveBack caller conn _ given same =>
    refine ⟨given ▸ sound.exclusive.giveBack caller conn, fun held present => sound.origin held ?_⟩
    rw [given] at present
    exact (Custody.present_giveBack caller pool.connections conn held).mp present
  | stop _ dropped stopped =>
    refine ⟨dropped ▸ sound.exclusive.discard, fun held present => sound.origin held ?_⟩
    rw [dropped] at present
    exact Custody.present_discard pool.connections held present

/-- A step before `stop` loses no connection. -/
theorem complete_step (tokens : List Nat) (pool : RedisConnectionPool) (event : Event)
    (complete : Complete tokens pool) : Complete tokens (pool.step event) := by
  obtain ⟨reply, moved⟩ := step_moves pool event
  generalize pool.step event = next at moved ⊢
  cases moved with
  | still _ _ _ same running handed stays =>
    intro unstopped conn created
    rw [same]
    exact complete (running ▸ unstopped) conn created
  | take _ caller conn rest _ front running taken still other =>
    intro _ held created
    rw [taken]
    exact (Custody.present_take caller pool.connections held).mpr (complete running held created)
  | giveBack caller conn _ given same =>
    intro unstopped held created
    rw [given]
    exact (Custody.present_giveBack caller pool.connections conn held).mpr
      (complete (same ▸ unstopped) held created)
  | stop _ dropped stopped =>
    intro unstopped
    rw [stopped] at unstopped
    cases unstopped

/-- `stopped_` is set by `stop` and by nothing else, and never reset. -/
theorem stopped_step (pool : RedisConnectionPool) (event : Event) :
    (pool.step event).stopped = true ↔ event = .stop ∨ pool.stopped = true := by
  obtain ⟨reply, moved⟩ := step_moves pool event
  generalize pool.step event = next at moved ⊢
  cases moved with
  | still _ _ _ same running handed stays =>
    rw [running]
    exact ⟨Or.inr, fun either => either.elim stays id⟩
  | take _ caller conn rest _ front running taken still other => simp [running, still, other]
  | giveBack caller conn _ given same => simp [same]
  | stop _ dropped stopped => simp [stopped]

/-- The pool is stopped once `stop` has been called, and stays so. -/
theorem stopped_run (pool : RedisConnectionPool) (events : List Event) :
    (Runs.run step pool events).stopped = true ↔ Event.stop ∈ events ∨ pool.stopped = true := by
  induction events generalizing pool with
  | nil => simp
  | cons event events inductionHypothesis =>
    rw [Runs.run_cons, inductionHypothesis, stopped_step, List.mem_cons]
    constructor
    · rintro (later | now | before)
      · exact Or.inl (Or.inr later)
      · exact Or.inl (Or.inl now.symm)
      · exact Or.inr before
    · rintro ((now | later) | before)
      · exact Or.inr (Or.inl now.symm)
      · exact Or.inl later
      · exact Or.inr (Or.inr before)

/-- A call that returns a connection runs before `stop`, and its caller has the
connection then, which was in the queue. -/
theorem handed_out (pool : RedisConnectionPool) (event : Event) (conn : Nat)
    (handed : (pool.perform event).1 = some (.conn conn)) : pool.stopped = false ∧
      conn ∈ pool.connections.queue ∧
      ∃ caller, conn ∈ (pool.step event).connections.held caller := by
  have moved := moves pool event
  rw [step]
  rw [handed] at moved
  generalize (pool.perform event).2 = next at moved ⊢
  cases moved with
  | still _ _ _ same running handed stays => exact absurd rfl (handed conn)
  | take _ caller _ rest _ front running taken still other =>
    refine ⟨running, by rw [front]; exact List.mem_cons_self, caller, ?_⟩
    rw [taken, Custody.take, front]
    simp

/-- In every order of steps of any number of callers after `init`, every connection
is in at most one place; before `stop` each that was created is in one; after it no
call of `acquire` returns a connection. -/
theorem never_shared (poolSize : Int) (connects : Nat → Bool) (events : List Event) :
    let pool := Runs.run step (init poolSize connects) events
    pool.connections.Exclusive ∧
      (∀ conn, pool.connections.Present conn → conn ∈ created poolSize connects) ∧
      (Event.stop ∉ events →
        ∀ conn ∈ created poolSize connects, pool.connections.Present conn) ∧
      (Event.stop ∈ events → ∀ event conn, (pool.perform event).1 ≠ some (.conn conn)) := by
  intro pool
  have distinct : (created poolSize connects).Nodup := List.nodup_range.filter _
  have sound : Sound (created poolSize connects) pool :=
    Runs.run_holds step (Sound (created poolSize connects)) (init poolSize connects) events
      (fun pool event _ => sound_step _ pool event)
      ⟨Custody.exclusive_stocked _ distinct, fun conn => (Custody.present_stocked _ conn).mp⟩
  have complete : Complete (created poolSize connects) pool :=
    Runs.run_holds step (Complete (created poolSize connects)) (init poolSize connects) events
      (fun pool event _ => complete_step _ pool event)
      (fun _ conn => (Custody.present_stocked _ conn).mpr)
  have stopped : pool.stopped = true ↔ Event.stop ∈ events := by
    rw [stopped_run]
    simp [init]
  refine ⟨sound.exclusive, sound.origin, ?_, ?_⟩
  · intro never
    apply complete
    simpa using fun ended => never (stopped.mp ended)
  · intro ended event conn handed
    have running := (handed_out pool event conn handed).1
    rw [stopped.mpr ended] at running
    cases running

end RedisConnectionPool

end ClusterChat
