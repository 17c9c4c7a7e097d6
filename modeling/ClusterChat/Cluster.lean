import ClusterChat.ServiceRuns
import Mathlib.Logic.Function.Basic

/-!
# Nodes that share a database and a Redis

Any number of nodes run the service against one database and one Redis. The
handlers of a login and of the end of a session are cut into parts, and the parts
of handlers in progress on any threads and nodes follow one another in any order.
Each part is a handler of its own, executed without interruption. It meets faults
of its own: acquisitions that fail and statements and commands that throw.

A part leaves the phase the rest of its handler is in. `Phase.finish` is that
rest, and the parts of a handler, one after another, are the handler.

A crash takes the maps of a node and its handlers in progress with it. What they
wrote to the database and to Redis stays. A restart runs `ChatService::reset`.
-/

namespace ClusterChat

open ChatService

/-- What is left of a handler: of a login that was let in, before its insertion
into the map, its presence write and its answer, or of the end of a session,
before the removal of the presence record and before the member sets are left. -/
inductive Phase where
  | admitted (userQuery : User)
  | recorded (userQuery : User)
  | announced (userQuery : User)
  | forgotten
  | removed

namespace Phase

/-- The next part, and the phase it leaves, if anything is left. -/
def proceed (conn : Conn) (id : Int) : Phase → Handler (Option Phase)
  | .admitted userQuery => do
      onNode (Node.record id conn)
      return some (.recorded userQuery)
  | .recorded userQuery => do
      announce conn id
      return some (.announced userQuery)
  | .announced userQuery => do
      answerLogin conn id userQuery
      return none
  | .forgotten => do
      redis (RedisClient.setUserOffline id)
      return some .removed
  | .removed => do
      onNode (Node.leaveGroups id)
      return none

/-- Everything that is left. -/
def finish (conn : Conn) (id : Int) : Phase → Handler Unit
  | .admitted userQuery => acceptLogin conn id userQuery
  | .recorded userQuery => do
      announce conn id
      answerLogin conn id userQuery
  | .announced userQuery => answerLogin conn id userQuery
  | .forgotten => do
      redis (RedisClient.setUserOffline id)
      onNode (Node.leaveGroups id)
  | .removed => onNode (Node.leaveGroups id)

end Phase

/-- The rest of a handler after its first part. -/
def rest (conn : Conn) : Option (Int × Phase) → Handler Unit
  | none => return ()
  | some (id, phase) => phase.finish conn id

/-- A login up to and including the presence read. -/
def beginLogin (conn : Conn) (js : Json) : Handler (Option (Int × Phase)) := do
  let id ← convert (js.int "id")
  let pwd ← convert (js.str "password")
  let userQuery ← sql (UserModel.query id)
  if userQuery.id = id ∧ userQuery.password = pwd then
    if ← redis (RedisClient.isUserOnline id) then
      send conn alreadyOnline
      return none
    else return some (id, .admitted userQuery)
  else
    send conn wrongPassword
    return none

/-- A logout up to and including the removal from the map. -/
def beginLoginOut (js : Json) : Handler (Option (Int × Phase)) := do
  let id ← convert (js.int "id")
  onNode (Node.forget id)
  return some (id, .forgotten)

/-- The search for the entry of a closed connection, and its removal. -/
def beginQuit (hint : Int) (conn : Conn) : Handler (Option (Int × Phase)) := do
  let node ← currentNode
  match node.entryOf conn hint with
  | none => return none
  | some id =>
      onNode (Node.forget id)
      return if id ≠ -1 then some (id, .forgotten) else none

/-!
## The parts are the handlers
-/

/-- Sequencing is associative, at a world. -/
theorem bind_assoc_apply {α β γ : Type} (first : Handler α) (second : α → Handler β)
    (third : β → Handler γ) (w : World) :
    (first >>= second >>= third) w = (first >>= fun value => second value >>= third) w := by
  simp only [Effect.bind_apply]
  cases first w with
  | mk outcome next => cases outcome <;> rfl

/-- A phase is finished by its next part and whatever phase that leaves. -/
theorem Phase.finish_proceed (conn : Conn) (id : Int) (phase : Phase) (w : World) :
    phase.finish conn id w = (phase.proceed conn id >>= fun following =>
      rest conn (following.map fun next => (id, next))) w := by
  cases phase with
  | admitted userQuery => rfl
  | recorded userQuery =>
    rw [proceed, bind_assoc_apply]
    rfl
  | announced userQuery =>
    rw [proceed, bind_assoc_apply, Effect.bind_apply, finish]
    cases answerLogin conn id userQuery w with
    | mk outcome next => cases outcome <;> rfl
  | forgotten => rfl
  | removed => rfl

/-- A login is its beginning and its other parts in order. -/
theorem login_parts (conn : Conn) (js : Json) (w : World) :
    login conn js w = (beginLogin conn js >>= rest conn) w := by
  rw [login, beginLogin]
  cases js.int "id" with
  | error exception => rfl
  | ok id =>
    cases js.str "password" with
    | error exception => rfl
    | ok pwd =>
      simp only [convert_ok_bind]
      rw [bind_assoc_apply, Effect.bind_ok _ _ _ _ _ (sql_run _ w),
        Effect.bind_ok _ _ _ _ _ (sql_run _ w)]
      split
      · rw [bind_assoc_apply, Effect.bind_ok _ _ _ _ _ (redis_run _ _),
          Effect.bind_ok _ _ _ _ _ (redis_run _ _)]
        split <;> rfl
      · rfl

/-- So is a logout. -/
theorem loginOut_parts (conn : Conn) (js : Json) (w : World) :
    loginOut conn js w = (beginLoginOut js >>= rest conn) w := by
  rw [loginOut, beginLoginOut]
  cases js.int "id" <;> rfl

/-- So is a closed connection. -/
theorem clientQuit_parts (hint : Int) (conn : Conn) (w : World) :
    clientQuitEcption hint conn w = (beginQuit hint conn >>= rest conn) w := by
  rw [clientQuitEcption, beginQuit, bind_assoc_apply]
  change (match w.node.entryOf conn hint with | none => _ | some id => _ : Handler Unit) w =
    ((match w.node.entryOf conn hint with | none => _ | some id => _ : Handler _) >>= rest conn) w
  cases w.node.entryOf conn hint with
  | none => rfl
  | some id =>
    by_cases default : id = -1
    · subst default
      rfl
    · simp only [ne_eq, default, not_false_eq_true, if_true]
      rfl

/-!
## The cluster
-/

/-- The scripts one part meets. -/
structure Faults where
  grants : List (Option Connection) := []
  throws : List Bool := []
  redisGrants : List (Option Nat) := []
  redisThrows : List Bool := []

/-- A handler in progress, on a node, for a connection and a user. -/
structure Task where
  node : Nat
  conn : Conn
  id : Int
  phase : Phase

/-- The running nodes, what they share, the handlers in progress, and everything
sent so far. -/
structure Cluster where
  nodes : Nat → Option Node
  database : Database
  redis : Redis
  tasks : Nat → Option Task
  sent : List Output

namespace Cluster

/-- No node is running yet. -/
def start (database : Database) (redis : Redis) : Cluster :=
  ⟨fun _ => none, database, redis, fun _ => none, []⟩

/-- Redis as a part meets it. -/
def reach (c : Cluster) (faults : Faults) : RedisAccess :=
  ⟨c.redis, faults.redisGrants, faults.redisThrows⟩

/-- The world a part is executed in. -/
def world (c : Cluster) (node : Node) (faults : Faults) : World :=
  ⟨node, ⟨c.database, faults.grants, faults.throws⟩, c.reach faults, c.sent⟩

/-- The cluster after a part ended in this world. -/
def absorb (c : Cluster) (n : Nat) (w : World) : Cluster :=
  { c with
    nodes := Function.update c.nodes n (some w.node)
    database := w.mysql.database
    redis := w.redis.store
    sent := w.sent }

/-- Call `i` is at this task, or over. -/
def hold (c : Cluster) (i : Nat) (task : Option Task) : Cluster :=
  { c with tasks := Function.update c.tasks i task }

/-- Execute a part on a node and hold what it leaves. A part that raises leaves
nothing. -/
def perform (c : Cluster) (i n : Nat) (node : Node) (conn : Conn) (faults : Faults)
    (part : Handler (Option (Int × Phase))) : Cluster :=
  match part (c.world node faults) with
  | (.ok (some (id, phase)), w) => (c.absorb n w).hold i (some ⟨n, conn, id, phase⟩)
  | (_, w) => (c.absorb n w).hold i none

/-- Begin a handler on a running node, under an identifier that is not in use. -/
def begin (c : Cluster) (i n : Nat) (conn : Conn) (faults : Faults)
    (part : Handler (Option (Int × Phase))) : Cluster :=
  match c.tasks i, c.nodes n with
  | none, some node => c.perform i n node conn faults part
  | _, _ => c

/-- The next part of a handler in progress. -/
def advance (c : Cluster) (i : Nat) (faults : Faults) : Cluster :=
  match c.tasks i with
  | none => c
  | some task =>
      match c.nodes task.node with
      | none => c
      | some node => c.perform i task.node node task.conn faults do
          let following ← task.phase.proceed task.conn task.id
          return following.map fun next => (task.id, next)

/-- Node `n` stops; its calls and its maps are gone. -/
def crash (c : Cluster) (n : Nat) : Cluster :=
  { c with
    nodes := Function.update c.nodes n none
    tasks := fun i => (c.tasks i).filter (fun task => task.node ≠ n) }

/-- A stopped node starts with empty maps and runs `reset`. -/
def restart (c : Cluster) (n : Nat) (localNodeId : String) (faults : Faults) : Cluster :=
  match c.nodes n with
  | some _ => c
  | none => c.absorb n (reset (c.world (Node.fresh localNodeId) faults)).2

/-- Time passes for Redis. -/
def pass (c : Cluster) (duration : Nat) : Cluster := { c with redis := c.redis.advance duration }

/-- One step of a cluster: the first part of a handler, the next part of one in
progress, a crash, a restart, or time. -/
inductive Event where
  | login (i n : Nat) (conn : Conn) (js : Json) (faults : Faults)
  | loginOut (i n : Nat) (conn : Conn) (js : Json)
  | disconnect (i n : Nat) (hint : Int) (conn : Conn)
  | advance (i : Nat) (faults : Faults)
  | crash (n : Nat)
  | restart (n : Nat) (localNodeId : String) (faults : Faults)
  | pass (duration : Nat)

/-- The cluster after the event. -/
def step (c : Cluster) : Event → Cluster
  | .login i n conn js faults => c.begin i n conn faults (beginLogin conn js)
  | .loginOut i n conn js => c.begin i n conn {} (beginLoginOut js)
  | .disconnect i n hint conn => c.begin i n conn {} (beginQuit hint conn)
  | .advance i faults => c.advance i faults
  | .crash n => c.crash n
  | .restart n localNodeId faults => c.restart n localNodeId faults
  | .pass duration => c.pass duration

/-- The user has a connection on this running node. -/
def Connected (c : Cluster) (n : Nat) (id : Int) : Prop :=
  ∃ node, c.nodes n = some node ∧ node.Connected id

/-- The user has a connection on some running node. -/
def Mapped (c : Cluster) (id : Int) : Prop := ∃ n, c.Connected n id

/-- The user has a connection on a running node other than this one. -/
def Elsewhere (c : Cluster) (n : Nat) (id : Int) : Prop := ∃ other ≠ n, c.Connected other id

/-- No handler is in progress. -/
def Quiescent (c : Cluster) : Prop := ∀ i, c.tasks i = none

/-- A user is mapped on this node or on another. -/
theorem mapped_iff (c : Cluster) (n : Nat) (id : Int) :
    c.Mapped id ↔ c.Connected n id ∨ c.Elsewhere n id := by
  constructor
  · rintro ⟨other, connected⟩
    by_cases same : other = n
    · exact Or.inl (same ▸ connected)
    · exact Or.inr ⟨other, same, connected⟩
  · rintro (connected | ⟨other, _, connected⟩)
    · exact ⟨n, connected⟩
    · exact ⟨other, connected⟩

/-- Only the changed node can differ in whom it connects. -/
theorem connected_update (c next : Cluster) (n : Nat) (changed : Option Node)
    (nodes : next.nodes = Function.update c.nodes n changed) (other : Nat) (id : Int) :
    next.Connected other id ↔
      if other = n then ∃ node, changed = some node ∧ node.Connected id
      else c.Connected other id := by
  unfold Connected
  rw [nodes]
  by_cases same : other = n
  · subst same
    simp
  · simp [same]

/-- A change of one node changes nothing elsewhere. -/
theorem elsewhere_update (c next : Cluster) (n : Nat) (changed : Option Node)
    (nodes : next.nodes = Function.update c.nodes n changed) (id : Int) :
    next.Elsewhere n id ↔ c.Elsewhere n id := by
  unfold Elsewhere
  constructor
  · rintro ⟨other, distinct, connected⟩
    rw [connected_update c next n changed nodes, if_neg distinct] at connected
    exact ⟨other, distinct, connected⟩
  · rintro ⟨other, distinct, connected⟩
    refine ⟨other, distinct, ?_⟩
    rw [connected_update c next n changed nodes, if_neg distinct]
    exact connected

/-- A node that is replaced makes no difference to a user whose connection it keeps. -/
theorem mapped_same (c next : Cluster) (n : Nat) (node changed : Node)
    (running : c.nodes n = some node)
    (nodes : next.nodes = Function.update c.nodes n (some changed)) (id : Int)
    (same : changed.Connected id ↔ node.Connected id) : next.Mapped id ↔ c.Mapped id := by
  rw [mapped_iff next n, mapped_iff c n, elsewhere_update c next n _ nodes,
    connected_update c next n _ nodes, if_pos rfl]
  refine or_congr_left ?_
  constructor
  · rintro ⟨found, replaced, connected⟩
    cases replaced
    exact ⟨node, running, same.mp connected⟩
  · rintro ⟨found, running', connected⟩
    rw [running, Option.some.injEq] at running'
    subst running'
    exact ⟨changed, rfl, same.mpr connected⟩

/-!
## What a step does
-/

section Steps

variable (c : Cluster) (i n : Nat) (conn : Conn) (id : Int) (node : Node) (faults : Faults)

/-- The cluster takes the world the part ended in and holds the phase it left. -/
theorem perform_runs (part : Handler (Option (Int × Phase)))
    (outcome : Except Escape (Option (Int × Phase))) (w : World)
    (ended : part (c.world node faults) = (outcome, w)) : c.perform i n node conn faults part =
      (c.absorb n w).hold i (outcome.toOption.join.map fun left => ⟨n, conn, left.1, left.2⟩) := by
  rw [perform, ended]
  cases outcome with
  | error escape => rfl
  | ok left => cases left <;> rfl

/-- On a running node a free call number starts the call. -/
theorem begin_free (part : Handler (Option (Int × Phase))) (free : c.tasks i = none)
    (running : c.nodes n = some node) :
    c.begin i n conn faults part = c.perform i n node conn faults part := by
  rw [begin, free, running]

/-- Nothing begins under an identifier in use, or on a node that does not run. -/
theorem begin_idle (part : Handler (Option (Int × Phase)))
    (idle : ¬ (c.tasks i = none ∧ (c.nodes n).isSome)) : c.begin i n conn faults part = c := by
  unfold begin
  split
  · rename_i node free running
    exact absurd ⟨free, by rw [running]; rfl⟩ idle
  · rfl

/-- A call that is under way performs its next part. -/
theorem advance_runs (phase : Phase) (following : Option Phase) (w : World)
    (held : c.tasks i = some ⟨n, conn, id, phase⟩) (running : c.nodes n = some node)
    (ended : phase.proceed conn id (c.world node faults) = (.ok following, w)) :
    c.advance i faults =
      (c.absorb n w).hold i (following.map fun next => ⟨n, conn, id, next⟩) := by
  rw [advance, held]
  simp only [running]
  have left : (phase.proceed conn id >>= fun following =>
      pure (following.map fun next => (id, next)) : Handler (Option (Int × Phase)))
        (c.world node faults) = (.ok (following.map fun next => (id, next)), w) :=
    Effect.bind_ok _ _ _ _ _ ended
  refine (perform_runs c i n conn node faults _ _ w left).trans ?_
  cases following <;> rfl

/-- Nothing is left to do, or the node of the handler does not run. -/
theorem advance_idle (idle : ∀ task, c.tasks i = some task → c.nodes task.node = none) :
    c.advance i faults = c := by
  unfold advance
  cases held : c.tasks i with
  | none => rfl
  | some task => simp only [idle task held]

end Steps

end Cluster

namespace Phase

variable (conn : Conn) (id : Int) (userQuery : User) (w : World)

/-- The part of a login that records the user on the node. -/
theorem proceed_admitted : (admitted userQuery).proceed conn id w =
    (.ok (some (.recorded userQuery)), { w with node := w.node.record id conn }) := rfl

/-- The presence write. The record of no other user is touched. -/
theorem proceed_recorded : ∃ m, (recorded userQuery).proceed conn id w =
      (.ok (some (.announced userQuery)), { w with redis := m }) ∧
    m.store.online id = (Announced w.redis id || w.redis.store.online id) ∧
    ∀ other ≠ id, m.store.online other = w.redis.store.online other := by
  obtain ⟨m, ended, kept, written⟩ := announce_runs conn id w
  refine ⟨m, ?_, written, ?_⟩
  · rw [proceed, Effect.bind_ok _ _ _ _ _ ended]
    rfl
  · intro other distinct
    rw [Redis.online, kept.entries _ (by simpa using distinct)]
    rfl

/-- The answer. Connections and presence are as before. -/
theorem proceed_announced : ∃ node mysql m output, (announced userQuery).proceed conn id w =
      (.ok none, ⟨node, mysql, m, w.sent ++ [output]⟩) ∧
    node.userConnMap = w.node.userConnMap ∧ output.errno = some 0 ∧
    ∀ other, m.store.online other = w.redis.store.online other := by
  obtain ⟨output, groups, mysql, m, ended, _, welcomes, found, _, kept, _⟩ :=
    answerLogin_runs conn id userQuery w
  refine ⟨enterGroups id groups w.node, mysql, m, output, ?_,
    (enterGroups_memberless id groups w.node found.1).1, welcomes.errno, ?_⟩
  · rw [proceed, Effect.bind_ok _ _ _ _ _ ended]
    rfl
  · intro other
    rw [Redis.online, kept.entries _ (by simp)]
    rfl

/-- The removal of the presence record. -/
theorem proceed_forgotten : ∃ m, forgotten.proceed conn id w =
      (.ok (some .removed), { w with redis := m }) ∧
    m.store.online id = (!w.redis.answers && w.redis.store.online id) ∧
    ∀ other ≠ id, m.store.online other = w.redis.store.online other := by
  have kept := RedisAccess.kept_run _ _ (RedisClient.setUserOffline_writes id) w.redis
  refine ⟨_, rfl, RedisClient.setUserOffline_online id w.redis, ?_⟩
  intro other distinct
  rw [Redis.online, kept.entries _ (by simpa using distinct)]
  rfl

/-- The part of a logout that leaves the groups. -/
theorem proceed_removed : removed.proceed conn id w =
    (.ok none, { w with node := w.node.leaveGroups id }) := rfl

end Phase

/-- What the search of `clientQuitEcption` finds decides its first part. -/
theorem beginQuit_runs (hint : Int) (conn : Conn) (w : World) : beginQuit hint conn w =
    match w.node.entryOf conn hint with
    | none => (.ok none, w)
    | some id => (.ok (if id ≠ -1 then some (id, .forgotten) else none),
        { w with node := w.node.forget id }) := by
  rw [beginQuit]
  change (match w.node.entryOf conn hint with | none => _ | some id => _ : Handler _) w = _
  cases w.node.entryOf conn hint <;> rfl

/-- The first part of a login sends nothing that says errno 0, writes nothing, and
goes on only if the presence record was not seen. -/
theorem beginLogin_runs (conn : Conn) (js : Json) (w : World) : ∃ outcome mysql m replies,
    beginLogin conn js w = (outcome, ⟨w.node, mysql, m, w.sent ++ replies⟩) ∧
    m.store = w.redis.store ∧ (∀ output ∈ replies, output.errno ≠ some 0) ∧
    (outcome.toOption.join = none ∨ ∃ id userQuery, js.int "id" = .ok id ∧
      outcome = .ok (some (id, .admitted userQuery)) ∧ ¬ SeenOnline w id) := by
  rw [beginLogin]
  cases named : js.int "id" with
  | error exception =>
    exact ⟨_, w.mysql, w.redis, [], by rw [List.append_nil]; rfl, rfl, by simp, Or.inl rfl⟩
  | ok id =>
    cases given : js.str "password" with
    | error exception =>
      exact ⟨_, w.mysql, w.redis, [], by rw [List.append_nil]; rfl, rfl, by simp, Or.inl rfl⟩
    | ok pwd =>
      have read := RedisAccess.kept_run _ _ (RedisClient.isUserOnline_writes id) w.redis
      simp only [convert_ok_bind]
      rw [Effect.bind_ok _ _ _ _ _ (sql_run _ w)]
      split
      · rw [Effect.bind_ok _ _ _ _ _ (redis_run _ _)]
        by_cases seen : SeenOnline w id
        · have refusal : (alreadyOnline.member "errno").getInt.toOption ≠ some 0 := by decide
          refine ⟨.ok none, (w.mysql.run (UserModel.query id)).2,
            (w.redis.run (RedisClient.isUserOnline id)).2, [⟨conn, alreadyOnline, false⟩], ?_,
            read.store, List.forall_mem_singleton.mpr refusal, Or.inl rfl⟩
          have reply : (w.redis.run (RedisClient.isUserOnline id)).1 = true := seen
          simp only [reply, if_true]
          rfl
        · refine ⟨.ok (some (id, .admitted (w.mysql.run (UserModel.query id)).1)),
            (w.mysql.run (UserModel.query id)).2, (w.redis.run (RedisClient.isUserOnline id)).2, [],
            ?_, read.store, by simp, Or.inr ⟨id, _, rfl, rfl, seen⟩⟩
          have reply : (w.redis.run (RedisClient.isUserOnline id)).1 = false :=
            eq_false_of_ne_true seen
          simp only [reply, Bool.false_eq_true, if_false, List.append_nil]
          rfl
      · have refusal : (wrongPassword.member "errno").getInt.toOption ≠ some 0 := by decide
        exact ⟨.ok none, (w.mysql.run (UserModel.query id)).2, w.redis,
          [⟨conn, wrongPassword, false⟩], rfl, rfl, List.forall_mem_singleton.mpr refusal,
          Or.inl rfl⟩

namespace Cluster

/-- User 1 with password "a". -/
def account : Database :=
  { Database.empty with
    user := [⟨1, "ann", "a", "offline"⟩]
    nextUserId := 2 }

/-- A node starts and serves a login of the user up to its answer. -/
def attempt : List Event :=
  [.restart 0 "node-1" {}, .login 0 0 ⟨"c"⟩ (loginRequest 1 "a") {}, .advance 0 {}, .advance 0 {},
    .advance 0 {}]

end Cluster

end ClusterChat
