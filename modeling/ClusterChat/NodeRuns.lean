import ClusterChat.Cluster
import ClusterChat.Library.Runs
import ClusterChat.Requests

/-!
# Runs of one node

One node handles requests, closed connections and published messages, one after
another, in surroundings that change: other nodes write the database and Redis,
time passes, and the subscriber thread moves on by itself. Each request meets
faults of its own.

A run may begin in any world. What it can do to the connections is collected here:
only a login that is let in adds an entry, only a logout and a closed connection
remove one, and no event changes the connection of an entry that stays.
-/

namespace ClusterChat

open ChatService

/-- The requests, by their handlers. -/
inductive Request where
  | login
  | loginOut
  | reg
  | oneChat
  | addFriend
  | createGroup
  | joinGroup
  | groupChat
deriving DecidableEq

namespace Request

/-- The handler of the request. -/
def handler : Request → Conn → Json → Handler Unit
  | .login => ChatService.login
  | .loginOut => ChatService.loginOut
  | .reg => ChatService.reg
  | .oneChat => ChatService.oneChat
  | .addFriend => ChatService.addFriend
  | .createGroup => ChatService.createGroup
  | .joinGroup => ChatService.joinGroup
  | .groupChat => ChatService.groupChat

/-- The message type of the request. -/
def type : Request → MsgType
  | .login => .loginMsg
  | .loginOut => .loginOutMsg
  | .reg => .regMsg
  | .oneChat => .oneChatMsg
  | .addFriend => .addFriendMsg
  | .createGroup => .createGroupMsg
  | .joinGroup => .joinGroupMsg
  | .groupChat => .groupChatMsg

/-- A request is dispatched by the code of its type. -/
theorem getHandler_type (request : Request) :
    getHandler request.type.code = some request.handler := by
  cases request <;> rfl

/-- A message of the request's type is handed to its handler. -/
theorem dispatch_type (request : Request) (conn : Conn) (js : Json) (w : World)
    (type : js.int "msgid" = .ok request.type.code) :
    dispatch conn js w = request.handler conn js w := by
  rw [dispatch, type]
  simp only [convert_ok_bind, getHandler_type]

end Request

/-- The world as a request with these faults meets it. -/
def World.meet (w : World) (faults : Faults) : World :=
  { w with
    mysql := ⟨w.mysql.database, faults.grants, faults.throws⟩
    redis := ⟨w.redis.store, faults.redisGrants, faults.redisThrows⟩ }

namespace NodeRuns

/-- What can happen to a node: a request on a connection, the closing of a
connection, a published message, a move of the subscriber thread, a change others
make to the database and to Redis, and time. -/
inductive Event where
  | request (request : Request) (conn : Conn) (js : Json) (faults : Faults)
  | disconnect (hint : Int) (conn : Conn) (faults : Faults)
  | inbox (js : Json) (faults : Faults)
  | listen (subscriber : Subscriber)
  | surroundings (database : Database) (store : Redis)
  | pass (duration : Nat)

/-- The world after the event, with the faults it met. -/
def step (w : World) : Event → World
  | .request request conn js faults => (request.handler conn js (w.meet faults)).2
  | .disconnect hint conn faults => (clientQuitEcption hint conn (w.meet faults)).2
  | .inbox js faults => (inboxCallback js (w.meet faults)).2
  | .listen subscriber => { w with node := { w.node with subscriber } }
  | .surroundings database store =>
      { w with mysql := { w.mysql with database }, redis := { w.redis with store } }
  | .pass duration => { w with redis := { w.redis with store := w.redis.store.advance duration } }

/-- Everything sent by the step. -/
def replies (before after : World) : List Output := after.sent.drop before.sent.length

/-- The step answers with errno 0. -/
def Answered (before after : World) : Prop :=
  ∃ output ∈ replies before after, output.errno = some 0

/-- What has been appended is the replies. -/
theorem replies_append (w after : World) (outputs : List Output)
    (sent : after.sent = w.sent ++ outputs) : replies w after = outputs := by
  rw [replies, sent, List.drop_left]

/-- The node has the connections it had. -/
def SameConnections (before after : World) : Prop :=
  after.node.userConnMap = before.node.userConnMap

/-- The same connections map every user to the same one. -/
theorem SameConnections.connOf {before after : World} (same : SameConnections before after)
    (id : Int) : after.node.connOf id = before.node.connOf id := by
  rw [Node.connOf, Node.connOf, same]

/-- A request other than a login or a logout leaves the connections. -/
theorem request_connections (request : Request) (conn : Conn) (js : Json) (w : World)
    (notLogin : request ≠ .login) (notLogout : request ≠ .loginOut) :
    SameConnections w (request.handler conn js w).2 := by
  cases request with
  | login => exact absurd rfl notLogin
  | loginOut => exact absurd rfl notLogout
  | reg =>
    have ends := reg_ends conn js w
    change SameConnections w (reg conn js w).2
    generalize reg conn js w = result at ends ⊢
    cases ends <;> rfl
  | oneChat =>
    have ends := oneChat_ends conn js w
    change SameConnections w (oneChat conn js w).2
    generalize oneChat conn js w = result at ends ⊢
    cases ends <;> rfl
  | addFriend =>
    change SameConnections w (addFriend conn js w).2
    rcases addFriend_ends conn js w with ⟨outcome, ended⟩ | ⟨userid, friendid, _, _, ended⟩ <;>
      rw [ended] <;> rfl
  | createGroup =>
    change SameConnections w (createGroup conn js w).2
    rcases createGroup_ends conn js w with
      ⟨outcome, ended⟩ | ⟨userid, groupname, groupdesc, m, _, _, _, ended, _⟩ <;>
      rw [ended] <;> rfl
  | joinGroup =>
    change SameConnections w (joinGroup conn js w).2
    rcases joinGroup_ends conn js w with ⟨outcome, ended⟩ | ⟨userid, groupid, m, _, _, ended, _⟩ <;>
      rw [ended] <;> rfl
  | groupChat =>
    change SameConnections w (groupChat conn js w).2
    rcases groupChat_ends conn js w with
      ⟨outcome, ended⟩ | ⟨userid, groupid, mysql, _, _, _, ended, _⟩
    · rw [ended]
      rfl
    · rw [ended]
      change (if w.node.Cached groupid then w.node else load groupid _ w.node).userConnMap = _
      split
      · rfl
      · exact (Node.addMembers_frame _ groupid w.node).1

/-- A message from the inbox connects and disconnects nobody. -/
theorem inbox_connections (js : Json) (w : World) : SameConnections w (inboxCallback js w).2 := by
  obtain ⟨outcome, failedQueue, mysql, m, ended, _⟩ := inboxCallback_runs js w
  rw [ended]
  rfl

/-- A login that is let in keeps the connections and adds the user if there is no
entry; any other login keeps them. -/
theorem letIn_connOf {conn : Conn} {id : Int} {w after : World} {output : Output}
    {groups : List Group} (letIn : LetIn conn id w output groups after) (other : Int) :
    after.node.connOf other =
      if other = id ∧ w.node.connOf id = none then some conn else w.node.connOf other := by
  have entered := (enterGroups_memberless id groups (w.node.record id conn) letIn.found.1).1
  rw [letIn.node, ← Node.connOf_record, Node.connOf, entered]
  rfl

/-- The end of a session removes the entry of its user and no other. -/
theorem leave_connOf (id other : Int) (node : Node) :
    (leave id node).connOf other = if other = id then none else node.connOf other :=
  Node.connOf_forget node id other

/-- The closing of a connection removes the entry it stops at and no other. -/
theorem clientQuit_removes (conn : Conn) (hint id : Int) (w : World)
    (found : w.node.entryOf conn hint = some id) : ∀ other,
    (clientQuitEcption hint conn w).2.node.connOf other =
      if other = id then none else w.node.connOf other := by
  intro other
  by_cases default : id = -1
  · subst default
    rw [clientQuit_default conn hint w found]
    exact Node.connOf_forget w.node (-1) other
  · obtain ⟨m, ended, _⟩ := clientQuit_runs conn hint id w found default
    rw [ended]
    exact leave_connOf id other w.node

end NodeRuns

end ClusterChat
