import ClusterChat.Library.Waiters
import ClusterChat.RedisPool

/-!
# The condition variable of the Redis pool

`RedisPool` lets a waiting call be woken at any time. Here the calls sleep on `cond_` until
they are notified, reach their timeout or are roused for no reason, and have the mutex
again some time after that. `release` notifies one of them under the mutex, whichever it
is, and `stop` all of them when it has given the mutex up.

`never_asleep` says of every run after `init` that it is a run of that pool with the same
replies, and that no notification is lost: a connection that lies in the queue while a
call sleeps has a woken call coming for it, and once the woken calls have had the mutex, in
whatever order, no call sleeps beside a connection, nor in a stopped pool that has notified
all.

A caller releases a connection it holds. `init` is over before the first call, since it
notifies nobody.
-/

namespace ClusterChat.PoolWakeups

open RedisConnectionPool (Reply)

/-- The pool, its waiting calls by their callers, and whether `stop` has yet to notify. -/
structure Monitor where
  pool : RedisConnectionPool
  cond : Waiters Nat := {}
  notifying : Bool := false

/-- The events of the pool, with those the condition variable has of its own. -/
inductive Event where
  | acquire (caller : Nat) (timeoutMs : Int)
  | rouse (caller : Nat)
  | wake (caller : Nat)
  | timeout (caller : Nat)
  | release (caller conn notified : Nat)
  | stop
  | notifyAll

/-- A call that waits after its step sleeps. -/
def answer (caller : Nat) (m : Monitor) (cond : Waiters Nat)
    (result : Reply × RedisConnectionPool) : Option Reply × Monitor :=
  (some result.1,
    { m with
      pool := result.2
      cond := if result.1 = .waits then cond.sleep caller else cond })

/-- The woken call of a caller goes on. -/
def resumed (caller : Nat) (m : Monitor) (result : Reply × RedisConnectionPool) :
    Option Reply × Monitor :=
  answer caller m (m.cond.resume caller) result

/-- What a caller may do. A release notifies a call that sleeps, if there is one. -/
def permits (m : Monitor) : Event → Bool
  | .acquire caller timeoutMs => m.pool.permits (.acquire caller timeoutMs)
  | .rouse _ => true
  | .wake caller => caller ∈ m.cond.woken
  | .timeout caller => caller ∈ m.cond.woken && m.pool.permits (.timeout caller)
  | .release caller conn notified => m.pool.permits (.release caller conn) &&
      (decide (conn ∈ m.pool.connections.held caller) &&
        (m.cond.asleep.isEmpty || decide (notified ∈ m.cond.asleep)))
  | .stop => !m.pool.stopped
  | .notifyAll => m.notifying

/-- A step, with the reply of the call of `acquire` it belongs to, if any. -/
def perform (m : Monitor) (event : Event) : Option Reply × Monitor :=
  if permits m event then
    match event with
    | .acquire caller timeoutMs => answer caller m m.cond (m.pool.acquire caller timeoutMs)
    | .rouse caller => (none, { m with cond := m.cond.rouse caller })
    | .wake caller => resumed caller m (m.pool.wake caller)
    | .timeout caller => resumed caller m (m.pool.timeout caller)
    | .release caller conn notified =>
        (none, { m with pool := m.pool.release caller conn, cond := m.cond.rouse notified })
    | .stop => (none, { m with pool := m.pool.stop, notifying := true })
    | .notifyAll => (none, { m with cond := m.cond.rouseAll, notifying := false })
  else (none, m)

/-- The monitor after the event. -/
def step (m : Monitor) (event : Event) : Monitor := (perform m event).2

/-- The monitor after `init`. -/
def init (poolSize : Int) (connects : Nat → Bool) : Monitor :=
  { pool := RedisConnectionPool.init poolSize connects }

/-- The step of the pool without a condition variable. -/
def plain : Event → List RedisConnectionPool.Event
  | .acquire caller timeoutMs => [.acquire caller timeoutMs]
  | .wake caller => [.wake caller]
  | .timeout caller => [.timeout caller]
  | .release caller conn _ => [.release caller conn]
  | .stop => [.stop]
  | .rouse _ | .notifyAll => []

/-- The replies of a run, in order. -/
def replies {State Event : Type} (perform : State → Event → Option Reply × State) :
    State → List Event → List Reply
  | _, [] => []
  | state, event :: rest =>
      (perform state event).1.toList ++ replies perform (perform state event).2 rest

/-!
## What the calls of the pool do
-/

/-- The connections in the queue. -/
def stock (pool : RedisConnectionPool) : Nat := pool.connections.queue.length

/-- A call waits beside an empty queue, or is over and has taken a connection if the pool
runs and there was one. -/
inductive Answered (pool : RedisConnectionPool) (caller : Nat) :
    Reply × RedisConnectionPool → Prop
  | waits (next : RedisConnectionPool) (running : pool.stopped = false) (empty : stock next = 0)
      (still : next.stopped = pool.stopped)
      (waiting : ∀ other, (next.waiting other).isSome = true ↔
        other = caller ∨ (pool.waiting other).isSome = true) :
      Answered pool caller (.waits, next)
  | done (reply : Reply) (next : RedisConnectionPool) (ended : reply ≠ .waits)
      (taken : pool.stopped = false → stock next = stock pool - 1)
      (still : next.stopped = pool.stopped)
      (waiting : ∀ other, (next.waiting other).isSome = true ↔
        other ≠ caller ∧ (pool.waiting other).isSome = true) :
      Answered pool caller (reply, next)

section Calls

variable (pool : RedisConnectionPool) (caller : Nat)

/-- A caller that leaves is the only one that waits no longer. -/
theorem waiting_leaveWait (other : Nat) : ((pool.leaveWait caller).waiting other).isSome = true ↔
    other ≠ caller ∧ (pool.waiting other).isSome = true := by
  rw [RedisConnectionPool.leaveWait]
  by_cases same : other = caller
  · subst same
    simp
  · simp [same]

/-- The last part of a call ends it. -/
theorem answered_pop (next : RedisConnectionPool) (same : next.connections = pool.connections)
    (still : next.stopped = pool.stopped)
    (waiting : ∀ other, (next.waiting other).isSome = true ↔
      other ≠ caller ∧ (pool.waiting other).isSome = true) :
    Answered pool caller (next.pop caller) := by
  unfold RedisConnectionPool.pop
  by_cases ended : next.stopped = true
  · rw [if_pos ended]
    refine .done _ next nofun (fun running => ?_) still waiting
    rw [still, running] at ended
    cases ended
  · rw [if_neg ended]
    cases front : next.connections.queue with
    | nil =>
      refine .done _ next nofun (fun _ => ?_) still waiting
      rw [stock, stock, ← same, front]
      rfl
    | cons conn rest =>
      refine .done _ _ nofun (fun _ => ?_) still waiting
      rw [stock, stock, ← same, Custody.take, front]
      rfl

/-- A first attempt answers its caller. -/
theorem answered_acquire (timeoutMs : Int) (free : (pool.waiting caller).isSome = false) :
    Answered pool caller (pool.acquire caller timeoutMs) := by
  have kept : ∀ other, (pool.waiting other).isSome = true ↔
      other ≠ caller ∧ (pool.waiting other).isSome = true := by
    intro other
    refine ⟨fun waits => ⟨?_, waits⟩, And.right⟩
    rintro rfl
    rw [free] at waits
    cases waits
  unfold RedisConnectionPool.acquire
  by_cases ended : pool.stopped = true
  · rw [if_pos ended]
    refine .done _ pool nofun (fun running => ?_) rfl kept
    rw [running] at ended
    cases ended
  · rw [if_neg ended]
    by_cases empty : pool.connections.queue.isEmpty = true
    · rw [if_pos empty]
      refine .waits _ (by simpa using ended) ?_ rfl fun other => ?_
      · exact List.length_eq_zero_iff.mpr (List.isEmpty_iff.mp empty)
      · by_cases same : other = caller
        · subst same
          simp
        · simp [same]
    · rw [if_neg empty]
      exact answered_pop pool caller pool rfl rfl kept

/-- A woken call answers its caller. -/
theorem answered_wake (waits : (pool.waiting caller).isSome = true) :
    Answered pool caller (pool.wake caller) := by
  unfold RedisConnectionPool.wake
  by_cases ready : pool.ready = true
  · rw [if_pos ready]
    exact answered_pop pool caller _ rfl rfl (waiting_leaveWait pool caller)
  · rw [if_neg ready]
    have idle : pool.connections.queue = [] ∧ pool.stopped = false := by
      simpa [RedisConnectionPool.ready] using ready
    refine .waits pool idle.2 ?_ rfl fun other => ⟨Or.inr, ?_⟩
    · rw [stock, idle.1]
      rfl
    · rintro (rfl | waiting)
      · exact waits
      · exact waiting

/-- So does one whose time is over. -/
theorem answered_timeout : Answered pool caller (pool.timeout caller) := by
  unfold RedisConnectionPool.timeout
  by_cases ready : pool.ready = true
  · rw [if_pos ready]
    exact answered_pop pool caller _ rfl rfl (waiting_leaveWait pool caller)
  · rw [if_neg ready]
    have idle : pool.connections.queue = [] ∧ pool.stopped = false := by
      simpa [RedisConnectionPool.ready] using ready
    refine .done _ _ nofun (fun _ => ?_) rfl (waiting_leaveWait pool caller)
    rw [stock, stock, idle.1]
    exact List.length_eq_zero_iff.mpr idle.1

end Calls

/-!
## What every step keeps
-/

/-- The calls that wait are those on the condition variable. In a running pool the woken
ones suffice for the queue; a stopped one has notified all, or is about to. -/
structure Sound (m : Monitor) : Prop where
  distinct : m.cond.Distinct
  waiting : ∀ caller, (m.pool.waiting caller).isSome = true ↔ m.cond.Waiting caller
  attended : m.pool.stopped = false → m.cond.Attended (stock m.pool)
  notified : m.pool.stopped = true → m.notifying = true ∨ m.cond.asleep = []

/-- A call that goes on keeps what every step keeps. -/
theorem sound_answer (m : Monitor) (sound : Sound m) (caller : Nat) (cond : Waiters Nat)
    (result : Reply × RedisConnectionPool) (answered : Answered m.pool caller result)
    (distinct : cond.Distinct) (same : cond.asleep = m.cond.asleep)
    (others : ∀ other, cond.Waiting other ↔ other ≠ caller ∧ m.cond.Waiting other)
    (attended : m.pool.stopped = false → cond.Attended (stock m.pool - 1)) :
    Sound (answer caller m cond result).2 := by
  cases answered with
  | waits next running empty still waiting =>
    rw [answer, if_pos rfl]
    refine ⟨?_, ?_, ?_, ?_⟩
    · exact distinct.sleep caller fun waits => ((others caller).mp waits).1 rfl
    · intro other
      rw [waiting, sound.waiting, Waiters.waiting_sleep, others]
      by_cases own : other = caller <;> simp [own]
    · intro _
      change (cond.sleep caller).Attended (stock next)
      rw [empty]
      exact Waiters.attended_zero _
    · intro ended
      change next.stopped = true at ended
      rw [still, running] at ended
      cases ended
  | done reply next ended taken still waiting =>
    rw [answer, if_neg ended]
    refine ⟨distinct, ?_, ?_, ?_⟩
    · intro other
      rw [waiting, sound.waiting, others]
    · intro running
      change next.stopped = false at running
      rw [still] at running
      change cond.Attended (stock next)
      rw [taken running]
      exact attended running
    · intro stopped
      change next.stopped = true at stopped
      rw [still] at stopped
      rw [same]
      exact sound.notified stopped

/-- A woken call that goes on keeps what every step keeps. -/
theorem sound_resumed (m : Monitor) (sound : Sound m) (caller : Nat)
    (result : Reply × RedisConnectionPool) (answered : Answered m.pool caller result)
    (woken : caller ∈ m.cond.woken) : Sound (resumed caller m result).2 :=
  sound_answer m sound caller _ result answered (sound.distinct.resume caller) rfl
    (Waiters.waiting_resume _ sound.distinct caller woken)
    fun running => Waiters.attended_resume _ _ caller woken (sound.attended running)

/-- Every event keeps it. -/
theorem sound_step (m : Monitor) (event : Event) (sound : Sound m) : Sound (step m event) := by
  unfold step perform
  by_cases permitted : permits m event = true
  · rw [if_pos permitted]
    cases event with
    | acquire caller timeoutMs =>
      have free : (m.pool.waiting caller).isSome = false := by
        simpa [permits, RedisConnectionPool.permits] using permitted
      have absent : ¬ m.cond.Waiting caller := by
        rw [← sound.waiting, free]
        exact Bool.false_ne_true
      refine sound_answer m sound caller m.cond _ (answered_acquire m.pool caller timeoutMs free)
        sound.distinct rfl (fun other => ⟨fun waits => ⟨?_, waits⟩, And.right⟩)
        fun running => Waiters.attended_mono _ _ _ (Nat.sub_le _ 1) (sound.attended running)
      rintro rfl
      exact absent waits
    | rouse caller =>
      refine ⟨sound.distinct.rouse caller, ?_, ?_, ?_⟩
      · intro other
        rw [sound.waiting]
        exact (Waiters.waiting_rouse m.cond caller other).symm
      · exact fun running => Waiters.attended_rouse _ _ caller (sound.attended running)
      · intro stopped
        refine (sound.notified stopped).imp_right fun none => ?_
        simp [Waiters.rouse, none]
    | wake caller =>
      have woken : caller ∈ m.cond.woken := by simpa [permits] using permitted
      exact sound_resumed m sound caller _
        (answered_wake m.pool caller ((sound.waiting caller).mpr (Or.inr woken))) woken
    | timeout caller =>
      have woken : caller ∈ m.cond.woken := by
        have both := permitted
        rw [permits, Bool.and_eq_true] at both
        exact of_decide_eq_true both.1
      exact sound_resumed m sound caller _ (answered_timeout m.pool caller) woken
    | release caller conn notified =>
      rw [permits, Bool.and_eq_true, Bool.and_eq_true, Bool.or_eq_true, decide_eq_true_eq,
        decide_eq_true_eq, List.isEmpty_iff] at permitted
      obtain ⟨_, owned, chosen⟩ := permitted
      have stocked : stock (m.pool.release caller conn) = stock m.pool + 1 := by
        rw [stock, RedisConnectionPool.release, Custody.giveBack, if_pos owned]
        exact List.length_append
      refine ⟨sound.distinct.rouse notified, ?_, ?_, ?_⟩
      · intro other
        change (m.pool.waiting other).isSome = true ↔ _
        rw [sound.waiting]
        exact (Waiters.waiting_rouse m.cond notified other).symm
      · intro running
        change (m.cond.rouse notified).Attended (stock (m.pool.release caller conn))
        rw [stocked]
        exact Waiters.attended_notify _ _ notified chosen (sound.attended running)
      · intro stopped
        refine (sound.notified stopped).imp_right fun none => ?_
        simp [Waiters.rouse, none]
    | stop =>
      have running : ¬ m.pool.stopped = true := by simpa [permits] using permitted
      refine ⟨sound.distinct, ?_, ?_, fun _ => Or.inl rfl⟩
      · intro other
        simp only [RedisConnectionPool.stop, if_neg running]
        exact sound.waiting other
      · intro again
        simp only [RedisConnectionPool.stop, if_neg running] at again
        cases again
    | notifyAll =>
      refine ⟨sound.distinct.rouseAll, ?_, fun _ => Waiters.attended_rouseAll _ _,
        fun _ => Or.inr rfl⟩
      intro other
      rw [sound.waiting]
      exact (Waiters.waiting_rouseAll m.cond other).symm
  · rw [if_neg permitted]
    exact sound

/-- It holds after `init`. -/
theorem sound_init (poolSize : Int) (connects : Nat → Bool) : Sound (init poolSize connects) where
  distinct := ⟨List.nodup_nil, List.nodup_nil, nofun⟩
  waiting := fun _ => ⟨nofun, fun waits => waits.elim nofun nofun⟩
  attended := fun _ => Or.inl rfl
  notified := nofun

/-!
## The pool without a condition variable
-/

/-- A step is one of the pool, or none of it. -/
theorem plain_step (m : Monitor) (event : Event) (sound : Sound m) : ∃ events,
    Runs.run RedisConnectionPool.step m.pool events = (step m event).pool ∧
      replies RedisConnectionPool.perform m.pool events = (perform m event).1.toList := by
  unfold step perform
  by_cases permitted : permits m event = true
  · rw [if_pos permitted]
    refine ⟨plain event, ?_⟩
    cases event with
    | acquire caller timeoutMs =>
      have allowed : m.pool.permits (.acquire caller timeoutMs) = true := permitted
      simp [plain, replies, RedisConnectionPool.step, RedisConnectionPool.perform, allowed, answer]
    | rouse caller => exact ⟨rfl, rfl⟩
    | wake caller =>
      have woken : caller ∈ m.cond.woken := by simpa [permits] using permitted
      have allowed : m.pool.permits (.wake caller) = true :=
        (sound.waiting caller).mpr (Or.inr woken)
      simp [plain, replies, RedisConnectionPool.step, RedisConnectionPool.perform, allowed, answer,
        resumed]
    | timeout caller =>
      have allowed : m.pool.permits (.timeout caller) = true := by
        rw [permits, Bool.and_eq_true] at permitted
        exact permitted.2
      simp [plain, replies, RedisConnectionPool.step, RedisConnectionPool.perform, allowed, answer,
        resumed]
    | release caller conn notified =>
      have allowed : m.pool.permits (.release caller conn) = true := by
        rw [permits, Bool.and_eq_true] at permitted
        exact permitted.1
      simp [plain, replies, RedisConnectionPool.step, RedisConnectionPool.perform, allowed]
    | stop =>
      have allowed : m.pool.permits .stop = true := rfl
      simp [plain, replies, RedisConnectionPool.step, RedisConnectionPool.perform, allowed]
    | notifyAll => exact ⟨rfl, rfl⟩
  · rw [if_neg permitted]
    exact ⟨[], rfl, rfl⟩

/-- The replies of a longer run are those of its parts. -/
theorem replies_append {State Event : Type} (perform : State → Event → Option Reply × State)
    (state : State) (first second : List Event) :
    replies perform state (first ++ second) = replies perform state first ++
      replies perform (Runs.run (fun state event => (perform state event).2) state first)
        second := by
  induction first generalizing state with
  | nil => rfl
  | cons event rest inductionHypothesis =>
    rw [List.cons_append, replies, replies, inductionHypothesis, Runs.run_cons, List.append_assoc]

/-- A run of the monitor is a run of the pool, with the same replies. -/
theorem plain_run (m : Monitor) (events : List Event) (sound : Sound m) : ∃ same,
    Runs.run RedisConnectionPool.step m.pool same = (Runs.run step m events).pool ∧
      replies RedisConnectionPool.perform m.pool same = replies perform m events := by
  induction events generalizing m with
  | nil => exact ⟨[], rfl, rfl⟩
  | cons event rest inductionHypothesis =>
    obtain ⟨first, moved, replied⟩ := plain_step m event sound
    obtain ⟨later, ended, answered⟩ := inductionHypothesis (step m event) (sound_step m event sound)
    refine ⟨first ++ later, ?_, ?_⟩
    · rw [Runs.run, List.foldl_append]
      change Runs.run _ (Runs.run _ m.pool first) later = _
      rw [moved, ended, Runs.run_cons]
    · rw [replies_append, replied, replies]
      change _ ++ replies _ (Runs.run RedisConnectionPool.step m.pool first) later = _
      rw [moved, answered]
      rfl

/-!
## The turns of the woken calls
-/

/-- A woken call that has the mutex is not woken any more. -/
theorem woken_wake (m : Monitor) (caller : Nat) :
    (step m (.wake caller)).cond.woken = m.cond.woken.erase caller := by
  unfold step perform
  by_cases woken : permits m (.wake caller) = true
  · rw [if_pos woken]
    simp only [resumed, answer]
    split <;> rfl
  · rw [if_neg woken]
    have absent : caller ∉ m.cond.woken := by simpa [permits] using woken
    exact (List.erase_of_not_mem absent).symm

/-- The calls of the order have had their turn. -/
theorem woken_turns (m : Monitor) (order : List Nat) :
    (Runs.run step m (order.map .wake)).cond.woken = m.cond.woken.diff order := by
  induction order generalizing m with
  | nil => rfl
  | cons caller rest inductionHypothesis =>
    rw [List.map_cons, Runs.run_cons, inductionHypothesis, woken_wake, List.diff_cons]

/-- The woken call of a caller is handed the front of the queue of a running pool. -/
theorem wake_handed (m : Monitor) (caller conn : Nat) (rest : List Nat)
    (woken : caller ∈ m.cond.woken) (front : m.pool.connections.queue = conn :: rest)
    (running : m.pool.stopped = false) : (perform m (.wake caller)).1 = some (.conn conn) := by
  have permitted : permits m (.wake caller) = true := decide_eq_true woken
  have ready : m.pool.ready = true := by simp [RedisConnectionPool.ready, front]
  have still : (m.pool.leaveWait caller).stopped = false := running
  have same : (m.pool.leaveWait caller).connections.queue = conn :: rest := front
  rw [perform, if_pos permitted]
  simp [resumed, answer, RedisConnectionPool.wake, ready, RedisConnectionPool.pop, still, same]

/-- In every run after `init`, however calls are notified, roused and given the mutex: the
pool is the one without a condition variable, in a run of its own with the same replies;
while a call sleeps in a running pool, there are at least as many woken calls as connections
in the queue, each of which is handed one; and once the woken calls have had the mutex, in
any order, either no call sleeps, or `stop` has yet to notify, or the queue is empty. -/
theorem never_asleep (poolSize : Int) (connects : Nat → Bool) (events : List Event) :
    let m := Runs.run step (init poolSize connects) events
    (∃ same, Runs.run RedisConnectionPool.step (RedisConnectionPool.init poolSize connects) same =
        m.pool ∧
      replies RedisConnectionPool.perform (RedisConnectionPool.init poolSize connects) same =
        replies perform (init poolSize connects) events) ∧
    (m.pool.stopped = false → m.cond.asleep ≠ [] →
      m.pool.connections.queue.length ≤ m.cond.woken.length ∧
        ∀ caller ∈ m.cond.woken, ∀ conn rest, m.pool.connections.queue = conn :: rest →
          (perform m (.wake caller)).1 = some (.conn conn)) ∧
    ∀ order : List Nat, order.Perm m.cond.woken →
      let settled := Runs.run step m (order.map .wake)
      settled.cond.asleep = [] ∨ settled.notifying = true ∨
        (settled.pool.stopped = false ∧ settled.pool.connections.queue = []) := by
  intro m
  have kept : ∀ (state : Monitor) (events : List Event), Sound state →
      Sound (Runs.run step state events) := fun state events sound =>
    Runs.run_holds step Sound state events (fun state event _ => sound_step state event) sound
  have sound : Sound m := kept _ _ (sound_init poolSize connects)
  refine ⟨plain_run _ events (sound_init poolSize connects), ?_, ?_⟩
  · intro running sleeps
    refine ⟨(sound.attended running).resolve_left sleeps, fun caller woken conn rest front => ?_⟩
    exact wake_handed m caller conn rest woken front running
  · intro order turns settled
    have ended : Sound settled := kept m _ sound
    have idle : settled.cond.woken = [] := by
      rw [woken_turns, List.eq_nil_iff_forall_not_mem]
      intro caller left
      obtain ⟨woken, missed⟩ := sound.distinct.woken.mem_sdiff_iff.mp left
      exact missed (turns.mem_iff.mpr woken)
    cases stopped : settled.pool.stopped with
    | true => exact (ended.notified stopped).elim (Or.inr ∘ Or.inl) Or.inl
    | false =>
      rcases ended.attended stopped with none | enough
      · exact Or.inl none
      · rw [idle] at enough
        exact Or.inr (Or.inr ⟨rfl, List.length_eq_zero_iff.mp (Nat.le_zero.mp enough)⟩)

/-- Of two calls that sleep, one is notified of a connection; while the other sleeps beside
it, the first is handed it. -/
example :
    let m := Runs.run step (init 1 fun _ => true)
      [.acquire 0 100, .acquire 1 100, .acquire 2 100, .release 0 0 1]
    m.pool.stopped = false ∧ m.cond.asleep = [2] ∧ m.pool.connections.queue = [0] ∧
      m.cond.woken = [1] ∧ (perform m (.wake 1)).1 = some (.conn 0) := by
  decide

end ClusterChat.PoolWakeups
