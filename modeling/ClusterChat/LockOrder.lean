import ClusterChat.Library.Locking
import ClusterChat.NodeRuns

/-!
# The order of the locks

Seven mutexes guard the server: `callback_mutex_`, the two shared mutexes of
`ChatService`, `sub_mutex_`, `queueMutex_` and the mutexes of the two pools. This
module follows every function that an IO thread or the subscriber thread runs and
keeps what it does to them: which it holds while it calls what. Branches and loops
stay, their conditions do not.

The callback holds `callback_mutex_` all along, and inside it either
`user_conn_mutex_` while it reaches MySQL, `failedQueue_` and Redis, or
`group_mutex_` while it looks up one connection after another. The end of a session
and the fallback of `groupChat` ask for subscriptions under `group_mutex_`. The
other four mutexes are leaves. `rank` is the order all of them respect, so threads
that run these scripts, any number of them, never wait in a cycle.

`groupChat` gives its shared lock up before it takes the exclusive one. The signal
handler is left out, and muduo, Redis and MySQL are taken to lock none of the
seven.
-/

namespace ClusterChat.LockOrder

open Locking Script

/-- The mutexes of the server. -/
inductive Mutex where
  | callback
  | group
  | userConn
  | sub
  | queue
  | mysqlPool
  | redisPool
deriving DecidableEq

/-- The place of each mutex in the order. The leaves are never held together. -/
def rank : Mutex → Nat
  | .callback => 0
  | .group => 1
  | .userConn => 2
  | .sub | .queue | .mysqlPool | .redisPool => 3

/-- A `lock_guard` or `unique_lock` around a block. -/
def locked (mutex : Mutex) (block : Script Mutex) : Script Mutex := holding mutex .exclusive block

/-- A `shared_lock` around a block. -/
def sharing (mutex : Mutex) (block : Script Mutex) : Script Mutex := holding mutex .shared block

/-!
## The pools and the model classes
-/

namespace MySQLConnectionPool

/-- The mutex is taken only while there seems to be no instance. -/
def getInstance : Script Mutex := optional (locked .mysqlPool skip)

/-- An empty pool is noticed before the mutex is taken. -/
def getConnection : Script Mutex := optional (locked .mysqlPool skip)

/-- A connection is given back to the MySQL pool. -/
def releaseConnection : Script Mutex := locked .mysqlPool skip

end MySQLConnectionPool

/-- A function of a model class: it may get no connection, and need not give one
back. -/
def modelCall : Script Mutex :=
  all [MySQLConnectionPool.getInstance, MySQLConnectionPool.getConnection,
    attempt (optional MySQLConnectionPool.releaseConnection)]

/-- `OfflineMessage::insert`: attempts that drain the queue under its mutex, and at
last a failed message is queued. -/
def offlineInsert : Script Mutex :=
  all [
    loop (all [MySQLConnectionPool.getInstance, MySQLConnectionPool.getConnection,
      optional (all [attempt (locked .queue skip), MySQLConnectionPool.releaseConnection])]),
    optional (locked .queue skip)]

namespace RedisConnectionPool

/-- The wait on the condition variable may wake any number of times. -/
def acquire : Script Mutex := locked .redisPool (loop (wait .redisPool))

/-- A connection is given back to the Redis pool. -/
def release : Script Mutex := locked .redisPool skip

end RedisConnectionPool

/-- An operation of `RedisClient`: the connection is released inside the `try` block
or after it. -/
def redisCall : Script Mutex :=
  all [RedisConnectionPool.acquire,
    optional (all [attempt (optional RedisConnectionPool.release),
      optional RedisConnectionPool.release])]

/-- A subscription is queued. -/
def subscribeGroupChannel : Script Mutex := locked .sub skip

/-- So is its end. -/
def unsubscribeGroupChannel : Script Mutex := locked .sub skip

/-!
## The handlers
-/

/-- The locks of a login. -/
def login : Script Mutex :=
  all [modelCall, optional (all [redisCall, optional (all [
    locked .userConn skip, redisCall, redisCall, redisCall,
    redisCall, optional (all [modelCall, loop redisCall, optional redisCall]),
    modelCall, loop (all [loop redisCall, locked .group skip, subscribeGroupChannel])])])]

/-- The locks of a logout, which ends subscriptions inside a section. -/
def loginOut : Script Mutex :=
  all [locked .userConn skip, redisCall, locked .group (loop unsubscribeGroupChannel)]

/-- Those of a closed connection, which does the same. -/
def clientQuitEcption : Script Mutex :=
  all [locked .userConn skip,
    optional (all [redisCall, locked .group (loop unsubscribeGroupChannel)])]

/-- Those of a registration. -/
def reg : Script Mutex := all [modelCall, optional (all [redisCall, redisCall])]

/-- Those of a private message. -/
def oneChat : Script Mutex :=
  optional (all [modelCall, optional (all [locked .userConn skip, optional offlineInsert])])

/-- Those of a new friend. -/
def addFriend : Script Mutex := modelCall

/-- Those of a new group. -/
def createGroup : Script Mutex :=
  all [modelCall, modelCall, locked .group skip, redisCall, redisCall, subscribeGroupChannel]

/-- Those of joining a group. -/
def joinGroup : Script Mutex :=
  all [modelCall, locked .group skip, redisCall, redisCall, subscribeGroupChannel]

/-- The shared lock is given up before the members are loaded. -/
def groupChat : Script Mutex :=
  optional (all [sharing .group skip,
    optional (all [modelCall, locked .group subscribeGroupChannel]), redisCall])

/-- The lambda given to `setInboxCallback`. -/
def inboxCallback : Script Mutex :=
  any [
    sharing .userConn (optional (all [offlineInsert, redisCall])),
    sharing .group (loop (sharing .userConn skip))]

/-- What a handler locks. -/
def handler : Request → Script Mutex
  | .login => login
  | .loginOut => loginOut
  | .reg => reg
  | .oneChat => oneChat
  | .addFriend => addFriend
  | .createGroup => createGroup
  | .joinGroup => joinGroup
  | .groupChat => groupChat

/-!
## The threads
-/

/-- The requests an IO thread handles. -/
def requests : List Request :=
  [.login, .loginOut, .reg, .oneChat, .addFriend, .createGroup, .joinGroup, .groupChat]

/-- An IO thread handles requests and closed connections in any order. -/
def ioThread : Script Mutex :=
  loop (choice clientQuitEcption
    (any (requests.map (fun request => attempt (handler request)))))

/-- A published message is handled inside a section. -/
def dispatchMessageToLocal : Script Mutex := locked .callback inboxCallback

/-- The body of `sub_thread_`. -/
def subscriberThread : Script Mutex :=
  all [RedisConnectionPool.acquire, optional (all [
    attempt (all [
      locked .sub skip,
      loop (all [
        attempt (loop (attempt dispatchMessageToLocal)),
        locked .sub skip,
        loop (attempt (locked .sub skip))]),
      attempt (locked .sub skip)]),
    RedisConnectionPool.release])]

/-- What a thread is for. -/
inductive Role where
  | io
  | subscriber
deriving DecidableEq

/-- The script of each role. -/
def script : Role → Script Mutex
  | .io => ioThread
  | .subscriber => subscriberThread

/-- No script asks for a lock below one it has. -/
theorem script_ascending (role : Role) : (script role).Ascending rank [] := by
  cases role <;> decide

/-- In every interleaving of any number of threads no thread waits, over others, for
itself, and none asks for a lock it has. -/
theorem no_wait_cycle {ι : Type} [DecidableEq ι] (roles : ι → Role)
    (executions : ∀ thread, Execution (script (roles thread))) (threads : ι → Thread Mutex)
    (reachable : Relation.ReflTransGen Step (begin executions) threads) (thread : ι) :
    ¬ Relation.TransGen (Waits threads) thread thread ∧
      ∀ lock mode rest, (threads thread).todo = .acquire lock mode :: rest →
        ∀ held, (lock, held) ∉ (threads thread).held := by
  have acyclic := no_cycle rank (fun thread => script_ascending (roles thread)) executions threads
    reachable thread
  refine ⟨acyclic, ?_⟩
  intro lock mode rest next held has
  exact acyclic (Relation.TransGen.single ⟨lock, mode, rest, next, held, has⟩)

/-- A thread that locks `user_conn_mutex_` for a closed connection and does no more. -/
def closing : Execution ioThread where
  actions := [.acquire .userConn .exclusive, .release .userConn .exclusive]
  returned := false
  emitted := .loopLeft (.left (.seq (.holding .skip) (.throws _)))

/-- Two such threads, of which the first has the mutex. -/
def contended : Bool → Thread Mutex :=
  Function.update (begin (fun _ : Bool => closing)) false
    ⟨[.release .userConn .exclusive], [(.userConn, .exclusive)]⟩

/-- The second thread waits for the first and for nobody else. -/
theorem no_wait_cycle_contended : Waits contended true false ∧
    ¬ Relation.TransGen (Waits contended) true true := by
  refine ⟨⟨Mutex.userConn, .exclusive, _, rfl, .exclusive, List.mem_cons_self⟩, ?_⟩
  have step : Step (begin (fun _ : Bool => closing)) contended :=
    .acquire false Mutex.userConn .exclusive [.release .userConn .exclusive] rfl
      (fun _ _ => List.not_mem_nil)
  exact (no_wait_cycle (fun _ => .io) (fun _ => closing) contended
    (Relation.ReflTransGen.single step) true).1

end ClusterChat.LockOrder
