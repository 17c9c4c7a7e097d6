import ClusterChat.Library.Runs
import ClusterChat.Redis
import Mathlib.Data.List.Perm.Basic

/-!
# The connections of the operations of `RedisClient`

The operations give their connection back in two ways. Those that write do it once,
after the `try` block and its `catch`. Those that read do it inside the block, after
the command, and once more in the `catch`. `withConnInside` is the second way;
`withConnInside_eq` says that it releases on the same paths as the first, so that the
operations of this kind that other modules run are the ones listed here.

`Balanced` says of a program, whatever the replies are, that the connections it
releases are those it acquired, one at most. `gives_back` says it of every operation,
and of every sequence of calls that each call leaves a rearrangement of the idle
connections it found.

The sequence of calls has the pool to itself. Any command may throw and any
acquisition may return `nullptr`, with or without a connection in the queue. A release
pushes whatever it is given, so giving a connection back twice would show.
-/

namespace ClusterChat

namespace RedisClient

/-- The shape of the operations that return what they read. The release is the last
call inside the `try` block and the first of the `catch`. -/
def withConnInside {α β : Type} (refused caught : β) (commands : RedisCommands α)
    (result : α → β) : RedisProgram β := do
  match ← (Program.issue RedisCommand.acquire : RedisProgram _) with
  | none => return refused
  | some conn =>
      let block : RedisCommands β := do
        let val ← commands
        ExceptT.lift (Program.issue (RedisCommand.release conn) : RedisProgram _)
        return result val
      match ← block.run with
      | .error _ =>
          (Program.issue (RedisCommand.release conn) : RedisProgram _)
          return caught
      | .ok value => return value

/-- Both ways release the connection on the same paths. -/
theorem withConnInside_eq {α β : Type} (refused caught : β) (commands : RedisCommands α)
    (result : α → β) : withConnInside refused caught commands result =
      withConn refused caught (do
        let val ← commands
        return result val) := by
  unfold withConnInside withConn
  congr 1
  funext grant
  cases grant with
  | none => rfl
  | some conn =>
    simp only [ExceptT.run_bind, bind_assoc]
    congr 1
    funext outcome
    cases outcome with
    | error exception => rfl
    | ok value => rfl

/-!
## The operations that no request uses
-/

/-- `RedisClient::hdel`. -/
def hdel (key : Key) (field : String) : RedisProgram Unit :=
  withConn () () (onKey key (.hdel field))

/-- `RedisClient::del`. -/
def del (key : Key) : RedisProgram Unit := withConn () () (onKey key .del)

/-- `RedisClient::publishNodeInbox`. -/
def publishNodeInbox (destNode : String) (msg : Json) : RedisProgram Unit :=
  withConn () () (ExceptT.mk (Program.issue (RedisCommand.publish (.nodeInbox destNode) msg)))

/-- `RedisClient::getUserConnId`. -/
def getUserConnId (userId : Int) : RedisProgram String :=
  withConnInside "" "" (onKey (.user userId) (.hget "conn")) fun val => val.getD ""

/-- `RedisClient::hget`. -/
def hget (key : Key) (field : String) : RedisProgram (Option String) :=
  withConnInside none none (onKey key (.hget field)) fun opt => opt

/-- `RedisClient::sismember`. -/
def sismember (key : Key) (member : String) : RedisProgram Bool :=
  withConnInside false false (onKey key (.sismember member)) fun res => res

end RedisClient

namespace RedisOperations

open RedisClient

/-- A call of an operation of `RedisClient`. -/
inductive Operation where
  | setUserOnline (localNodeId : String) (userId : Int) (connId : String)
  | isUserOnline (userId : Int)
  | getUserConnId (userId : Int)
  | getUserNode (userId : Int)
  | setUserOffline (userId : Int)
  | pushOfflineMessage (userId : Int) (msg : Json)
  | popOfflineMessages (userId : Int)
  | hset (key : Key) (field value : String)
  | hget (key : Key) (field : String)
  | hdel (key : Key) (field : String)
  | set (key : Key) (value : String) (ttl : Nat)
  | get (key : Key)
  | del (key : Key)
  | expire (key : Key) (ttl : Nat)
  | sadd (key : Key) (member : String)
  | sismember (key : Key) (member : String)
  | publishGroupMessage (groupId : Int) (msg : Json)
  | publishNodeInbox (destNode : String) (msg : Json)

namespace Operation

/-- What a call returns. -/
@[reducible] def Result : Operation → Type
  | .isUserOnline _ | .sismember _ _ => Bool
  | .getUserConnId _ | .getUserNode _ => String
  | .popOfflineMessages _ => List String
  | .hget _ _ | .get _ => Option String
  | _ => Unit

/-- The calls on the pool and on Redis, with each release where the source has it. -/
def program : (operation : Operation) → RedisProgram operation.Result
  | .setUserOnline localNodeId userId connId => RedisClient.setUserOnline localNodeId userId connId
  | .isUserOnline userId =>
      withConnInside false false (onKey (.user userId) (.hget "online")) fun val => val = some "1"
  | .getUserConnId userId => RedisClient.getUserConnId userId
  | .getUserNode userId =>
      withConnInside "" "" (onKey (.user userId) (.hget "node")) fun val => val.getD ""
  | .setUserOffline userId => RedisClient.setUserOffline userId
  | .pushOfflineMessage userId msg => RedisClient.pushOfflineMessage userId msg
  | .popOfflineMessages userId => RedisClient.popOfflineMessages userId
  | .hset key field value => RedisClient.hset key field value
  | .hget key field => RedisClient.hget key field
  | .hdel key field => RedisClient.hdel key field
  | .set key value ttl => RedisClient.set key value ttl
  | .get key => withConnInside none none (onKey key .get) fun val => val
  | .del key => RedisClient.del key
  | .expire key ttl => RedisClient.expire key ttl
  | .sadd key member => RedisClient.sadd key member
  | .sismember key member => RedisClient.sismember key member
  | .publishGroupMessage groupId msg => RedisClient.publishGroupMessage groupId msg
  | .publishNodeInbox destNode msg => RedisClient.publishNodeInbox destNode msg

/-- The three reads that requests use are the operations listed here. -/
theorem program_reads (userId : Int) (key : Key) :
    program (.isUserOnline userId) = RedisClient.isUserOnline userId ∧
      program (.getUserNode userId) = RedisClient.getUserNode userId ∧
      program (.get key) = RedisClient.get key := by
  refine ⟨withConnInside_eq _ _ _ _, withConnInside_eq _ _ _ _, ?_⟩
  rw [program, withConnInside_eq, bind_pure]
  rfl

end Operation

/-!
## One operation
-/

/-- The connection a command acquired. -/
def acquiredBy : Sigma RedisReply → Option Nat
  | ⟨.acquire, grant⟩ => grant
  | _ => none

/-- The connection a command released. -/
def releasedBy : Sigma RedisReply → Option Nat
  | ⟨.release conn, _⟩ => some conn
  | _ => none

/-- The connections are released that were acquired, and that is one at most. -/
structure Settled (exchanges : List (Sigma RedisReply)) : Prop where
  same : exchanges.filterMap releasedBy = exchanges.filterMap acquiredBy
  single : (exchanges.filterMap acquiredBy).length ≤ 1

/-- Whatever the replies are, the program settles its connections. -/
def Balanced {α : Type} (program : RedisProgram α) : Prop :=
  ∀ (σ : Type) (answer : (command : RedisCommand) → σ → RedisReply command × σ) (state : σ),
    Settled (program.exchanges answer state)

/-- The command is not a call on the pool. -/
def Plain : RedisCommand → Prop
  | .onKey _ _ | .publish _ _ => True
  | .acquire | .release _ => False

/-- Commands on Redis concern no connection. -/
theorem plain_unsettled (exchanges : List (Sigma RedisReply))
    (plain : ∀ exchange ∈ exchanges, Plain exchange.1) :
    exchanges.filterMap releasedBy = [] ∧ exchanges.filterMap acquiredBy = [] := by
  simp only [List.filterMap_eq_nil_iff]
  constructor
  · rintro ⟨command, reply⟩ member
    cases command with
    | release conn => exact (plain _ member).elim
    | _ => rfl
  · rintro ⟨command, reply⟩ member
    cases command with
    | acquire => exact (plain _ member).elim
    | _ => rfl

/-- A connection is acquired, used and released. -/
theorem settled_once (conn : Nat) (used : List (Sigma RedisReply))
    (plain : ∀ exchange ∈ used, Plain exchange.1) :
    Settled (⟨.acquire, some conn⟩ :: (used ++ [⟨.release conn, ()⟩])) := by
  obtain ⟨unreleased, unacquired⟩ := plain_unsettled used plain
  have acquired : (⟨.acquire, some conn⟩ :: (used ++ [⟨.release conn, ()⟩]) :
      List (Sigma RedisReply)).filterMap acquiredBy = [conn] := by
    change conn :: (used ++ _).filterMap acquiredBy = [conn]
    rw [List.filterMap_append, unacquired]
    rfl
  have released : (⟨.acquire, some conn⟩ :: (used ++ [⟨.release conn, ()⟩]) :
      List (Sigma RedisReply)).filterMap releasedBy = [conn] := by
    change (used ++ _).filterMap releasedBy = [conn]
    rw [List.filterMap_append, unreleased]
    rfl
  exact ⟨released.trans acquired.symm, by rw [acquired]; exact Nat.le_refl 1⟩

/-- The one release of an operation is of the connection it acquired. -/
theorem balanced_withConn {α : Type} (refused caught : α) (commands : RedisCommands α)
    (plain : Program.Issues Plain commands.run) : Balanced (withConn refused caught commands) := by
  intro σ answer state
  rw [withConn, Program.exchanges_bind]
  change Settled (⟨.acquire, (answer .acquire state).1⟩ :: Program.exchanges answer
    (match (answer .acquire state).1 with | none => _ | some conn => _) (answer .acquire state).2)
  generalize (answer .acquire state).2 = next
  cases (answer .acquire state).1 with
  | none => exact ⟨rfl, Nat.zero_le 1⟩
  | some conn =>
    have settled := settled_once conn _
      (Program.issues_exchanges answer Plain commands.run plain next)
    simp only [Program.exchanges_bind]
    cases (commands.run.run answer next).1 with
    | error exception => exact settled
    | ok value => exact settled

/-- A call that acquires its connection inside the block gives it back. -/
theorem balanced_withConnInside {α β : Type} (refused caught : β) (commands : RedisCommands α)
    (result : α → β) (plain : Program.Issues Plain commands.run) :
    Balanced (withConnInside refused caught commands result) := by
  rw [withConnInside_eq]
  exact balanced_withConn refused caught _
    (Program.issues_try_bind Plain commands (fun val => pure (result val)) plain fun _ => trivial)

/-- A command on a key acquires and releases nothing. -/
theorem plain_onKey (key : Key) (command : KeyCommand) :
    Program.Issues Plain (onKey key command).run := Program.issues_issue _ _ trivial

/-- Nor does a publication. -/
theorem plain_publish (channel : Channel) (msg : Json) : Program.Issues Plain
    (ExceptT.mk (Program.issue (RedisCommand.publish channel msg)) : RedisCommands Unit).run :=
  Program.issues_issue _ _ trivial

/-- Every operation settles its connections. -/
theorem balanced_program (operation : Operation) : Balanced operation.program := by
  cases operation with
  | setUserOnline localNodeId userId connId =>
    apply balanced_withConn
    exact Program.issues_try_bind _ _ _ (plain_onKey _ _) fun _ =>
      Program.issues_try_bind _ _ _ (plain_onKey _ _) fun _ =>
      Program.issues_try_bind _ _ _ (plain_onKey _ _) fun _ => plain_onKey _ _
  | isUserOnline userId => exact balanced_withConnInside _ _ _ _ (plain_onKey _ _)
  | getUserConnId userId => exact balanced_withConnInside _ _ _ _ (plain_onKey _ _)
  | getUserNode userId => exact balanced_withConnInside _ _ _ _ (plain_onKey _ _)
  | setUserOffline userId =>
    apply balanced_withConn
    exact Program.issues_try_bind _ _ _ (plain_onKey _ _) fun _ =>
      Program.issues_try_bind _ _ _ (plain_onKey _ _) fun _ => plain_onKey _ _
  | pushOfflineMessage userId msg => exact balanced_withConn _ _ _ (plain_onKey _ _)
  | popOfflineMessages userId =>
    apply balanced_withConn
    refine Program.issues_try_bind _ _ _ (plain_onKey _ _) fun _ => ?_
    refine Program.issues_try_bind _ _ _ ?_ fun _ => trivial
    exact Program.issues_bind _ _ _ (plain_onKey _ _) fun _ => trivial
  | hset key field value => exact balanced_withConn _ _ _ (plain_onKey _ _)
  | hget key field => exact balanced_withConnInside _ _ _ _ (plain_onKey _ _)
  | hdel key field => exact balanced_withConn _ _ _ (plain_onKey _ _)
  | set key value ttl => exact balanced_withConn _ _ _ (plain_onKey _ _)
  | get key => exact balanced_withConnInside _ _ _ _ (plain_onKey _ _)
  | del key => exact balanced_withConn _ _ _ (plain_onKey _ _)
  | expire key ttl => exact balanced_withConn _ _ _ (plain_onKey _ _)
  | sadd key member => exact balanced_withConn _ _ _ (plain_onKey _ _)
  | sismember key member => exact balanced_withConnInside _ _ _ _ (plain_onKey _ _)
  | publishGroupMessage groupId msg => exact balanced_withConn _ _ _ (plain_publish _ _)
  | publishNodeInbox destNode msg => exact balanced_withConn _ _ _ (plain_publish _ _)

/-!
## Calls one after another
-/

/-- The pool as calls made one after another see it: the idle connections, the front
first, which acquisitions return `nullptr` all the same, Redis, and which commands
throw. -/
structure SerialPool where
  connections : List Nat
  refusals : List Bool
  store : Redis
  throws : List Bool

namespace SerialPool

/-- One command. A release pushes the connection it is given. -/
def answer : (command : RedisCommand) → SerialPool → RedisReply command × SerialPool
  | .acquire, pool =>
      let left := { pool with refusals := pool.refusals.tail }
      if pool.refusals.headD false then (none, left)
      else match pool.connections with
        | [] => (none, left)
        | conn :: rest => (some conn, { left with connections := rest })
  | .release conn, pool => ((), { pool with connections := pool.connections ++ [conn] })
  | command, pool =>
      let (reply, m) := RedisAccess.answer command ⟨pool.store, [], pool.throws⟩
      (reply, { pool with store := m.store, throws := m.throws })

/-- An acquisition takes the front of the queue or nothing. -/
theorem acquire_ends (pool : SerialPool) :
    ((answer .acquire pool).1 = none ∧
      (answer .acquire pool).2.connections = pool.connections) ∨
    ∃ conn, (answer .acquire pool).1 = some conn ∧
      pool.connections = conn :: (answer .acquire pool).2.connections := by
  simp only [answer]
  split
  · exact Or.inl ⟨rfl, rfl⟩
  · cases idle : pool.connections with
    | nil => exact Or.inl ⟨rfl, rfl⟩
    | cons conn rest => exact Or.inr ⟨conn, rfl, rfl⟩

/-- The connections that left the idle ones are those acquired, the ones that joined
them those released. -/
theorem accounts {α : Type} (program : RedisProgram α) (pool : SerialPool) :
    ((program.run answer pool).2.connections ++
      (program.exchanges answer pool).filterMap acquiredBy).Perm
      (pool.connections ++ (program.exchanges answer pool).filterMap releasedBy) := by
  induction program generalizing pool with
  | done value => exact List.Perm.refl _
  | call command next inductionHypothesis =>
    have later := inductionHypothesis (answer command pool).1 (answer command pool).2
    cases command with
    | acquire =>
      rw [Program.run_call, Program.exchanges]
      rcases acquire_ends pool with ⟨refused, kept⟩ | ⟨conn, granted, taken⟩
      · rw [refused] at later ⊢
        rw [kept] at later
        exact later
      · rw [granted] at later ⊢
        rw [taken]
        exact List.perm_middle.trans (later.cons conn)
    | release conn =>
      have released : (answer (.release conn) pool).2.connections = pool.connections ++ [conn] :=
        rfl
      rw [released, List.append_assoc] at later
      exact later
    | onKey key command => exact later
    | publish channel msg => exact later

end SerialPool

/-- A call, run to completion. -/
def step (pool : SerialPool) (operation : Operation) : SerialPool :=
  (operation.program.run SerialPool.answer pool).2

/-- Every call releases the connection it acquired exactly once, and nothing else, and
in a sequence of calls each leaves the idle connections of the beginning. -/
theorem gives_back : (∀ operation : Operation, Balanced operation.program) ∧
    ∀ (pool : SerialPool) (operations : List Operation),
      Runs.Always step (fun left => left.connections.Perm pool.connections) pool operations := by
  refine ⟨balanced_program, fun pool operations => ?_⟩
  apply Runs.always_of_step step _ _ pool operations (List.Perm.refl _)
  intro left operation same
  have settled := balanced_program operation SerialPool SerialPool.answer left
  have accounted := SerialPool.accounts operation.program left
  rw [settled.same] at accounted
  exact ((List.perm_append_right_iff _).mp accounted).trans same

end RedisOperations

end ClusterChat
