import ClusterChat.Library.Effect
import ClusterChat.Library.MapValues
import ClusterChat.Models
import ClusterChat.Redis
import ClusterChat.Subscriber

/-!
# The chat service of one node

`ChatService`, handler by handler, over a world that holds the node's own maps,
the database and Redis as this request reaches them, and everything sent on
connections so far. A handler may leave with an exception, which `onMessage`
catches; what it did before stays done.

`login` is cut where other threads can act between its parts: the presence read,
the insertion into the connection map, the presence write, and the answer with
the friend and group lists. The parts are named so that an interleaved account
can run them one by one.

`std::unordered_map` iterates in an unspecified order. The order matters to
`clientQuitEcption`, which stops at the first match, so it receives a hint that
stands for that order. A connection is identified by its name.

Nothing here retries or times out except the loop of `OfflineMessage::insert`,
which is followed until its surroundings have stopped changing; a loop that has
not ended by then never ends, and the request hangs in it.
-/

namespace ClusterChat

/-- `EnMsgType`. -/
inductive MsgType where
  | loginMsg
  | loginMsgAck
  | loginOutMsg
  | regMsg
  | regMsgAck
  | oneChatMsg
  | addFriendMsg
  | createGroupMsg
  | joinGroupMsg
  | groupChatMsg
  | oneChatMsgAck
deriving DecidableEq

/-- The number a message type has in `public.hpp`. -/
def MsgType.code : MsgType → Int
  | .loginMsg => 1
  | .loginMsgAck => 2
  | .loginOutMsg => 3
  | .regMsg => 4
  | .regMsgAck => 5
  | .oneChatMsg => 6
  | .addFriendMsg => 7
  | .createGroupMsg => 8
  | .joinGroupMsg => 9
  | .groupChatMsg => 10
  | .oneChatMsgAck => 11

/-- A `TcpConnectionPtr`, by the name the server gives the connection. -/
structure Conn where
  name : String
deriving DecidableEq

/-- One `send` on a connection: the dumped value, and whether a newline follows. -/
structure Output where
  conn : Conn
  body : Json
  newline : Bool

/-- The error number of a reply, if it has one. -/
def Output.errno (output : Output) : Option Int := (output.body.member "errno").getInt.toOption

/-- The offline messages a login reply carries. -/
def Output.offlineMessages (output : Output) : List String :=
  (output.body.member "offlinemessage").strings

/-- The state of `ChatService` and of its `RedisClient`. -/
structure Node where
  localNodeId : String
  userConnMap : AList (fun _ : Int => Conn)
  groupMembers : AList (fun _ : Int => OrderedSet Int)
  failedQueue : OfflineMessage.FailedQueue
  subscriber : Subscriber

namespace Node

/-- A node that has just started. -/
def fresh (localNodeId : String) : Node := ⟨localNodeId, ∅, ∅, [], {}⟩

/-- The connection recorded for a user. -/
def connOf (node : Node) (id : Int) : Option Conn := node.userConnMap.lookup id

/-- The cached members of a group, none if it has no entry. -/
def members (node : Node) (groupid : Int) : OrderedSet Int :=
  (node.groupMembers.lookup groupid).getD ∅

/-- `userConnMap_.insert({id, conn})`, which keeps an existing entry. -/
def record (id : Int) (conn : Conn) (node : Node) : Node :=
  if id ∈ node.userConnMap then node
  else { node with userConnMap := node.userConnMap.insert id conn }

/-- `_userConnMap.erase(id)`. -/
def forget (id : Int) (node : Node) : Node :=
  { node with userConnMap := node.userConnMap.erase id }

/-- `groupMembers_[groupid]`, which creates an empty entry if there is none. -/
def touchGroup (groupid : Int) (node : Node) : Node :=
  if groupid ∈ node.groupMembers then node
  else { node with groupMembers := node.groupMembers.insert groupid ∅ }

/-- `groupMembers_[groupid].insert(id)`. -/
def addMember (groupid id : Int) (node : Node) : Node :=
  { node with groupMembers := node.groupMembers.insert groupid ((node.members groupid).insert id) }

/-- `_redis.subscribeGroupChannel(groupid)`. -/
def subscribeGroupChannel (groupid : Int) (node : Node) : Node :=
  { node with subscriber := node.subscriber.subscribeGroupChannel groupid }

/-- The loop over `groupMembers_` at the end of a session: the user leaves every
set, and a group whose set is then empty is unsubscribed. -/
def leaveGroups (id : Int) (node : Node) : Node :=
  { node with
    groupMembers := node.groupMembers.mapValues (fun _ set => set.erase id)
    subscriber := node.groupMembers.entries.foldl (fun subscriber entry =>
      if (entry.2.erase id).isEmpty then subscriber.unsubscribeGroupChannel entry.1
      else subscriber) node.subscriber }

/-- The entry `clientQuitEcption` stops at: one whose connection is the closed
one. The hint says which, when there are several. -/
def entryOf (conn : Conn) (hint : Int) (node : Node) : Option Int :=
  if node.connOf hint = some conn then some hint
  else (node.userConnMap.entries.find? (fun entry => entry.2 = conn)).map (fun entry => entry.1)

end Node

/-- A node with the database and Redis as one request reaches them, and what has
been sent. -/
structure World where
  node : Node
  mysql : Access
  redis : RedisAccess
  sent : List Output

/-- A fresh node over a database and a Redis that nothing disturbs. -/
def World.start (localNodeId : String) (database : Database) (store : Redis) : World :=
  ⟨Node.fresh localNodeId, Access.undisturbed database, RedisAccess.reliable store, []⟩

/-- How a handler can end without returning: an exception of a conversion, or a
loop that does not end. -/
inductive Escape where
  | json (exception : JsonError)
  | hangs
deriving DecidableEq

/-- A handler: a step over the world that may be left by an exception. -/
abbrev Handler := Effect Escape World

/-- A conversion of a field, which throws what the JSON library throws. -/
def convert {α : Type} (converted : Except JsonError α) : Handler α :=
  Effect.lift (converted.mapError Escape.json)

/-- A call of a model class. -/
def sql {α : Type} (program : Jdbc α) : Handler α := fun w =>
  (.ok (w.mysql.run program).1, { w with mysql := (w.mysql.run program).2 })

/-- A call of the Redis client. -/
def redis {α : Type} (program : RedisProgram α) : Handler α := fun w =>
  (.ok (w.redis.run program).1, { w with redis := (w.redis.run program).2 })

/-- A change of the node's own maps. -/
def onNode (change : Node → Node) : Handler Unit := fun w =>
  (.ok (), { w with node := change w.node })

/-- A reading of the node's own maps. -/
def currentNode : Handler Node := fun w => (.ok w.node, w)

/-- `conn->send` of a dumped body, with or without the newline after it. -/
def sendLine (conn : Conn) (body : Json) (newline : Bool) : Handler Unit := fun w =>
  (.ok (), { w with sent := w.sent ++ [⟨conn, body, newline⟩] })

/-- `conn->send(response.dump())`, without a newline. -/
def send (conn : Conn) (body : Json) : Handler Unit := sendLine conn body false

/-- `offlineMsgModel_.insert`. Once the scripts are used up every iteration is
like the one before, so a loop still running then does not end. The node behind such a
loop stands for nothing: its queue is the one before the call, although rows that the loop
has stored have left the real one. -/
def insertOffline (userId : Int) (message : String) : Handler Bool := fun w =>
  match w.mysql.run
      (OfflineMessage.insert (w.mysql.disturbances + 1) userId message w.node.failedQueue) with
  | (some (failedQueue, success), mysql) =>
      (.ok success, { w with mysql, node := { w.node with failedQueue } })
  | (none, mysql) => (.error .hangs, { w with mysql })

namespace ChatService

/-- A response with its message type. -/
def response (type : MsgType) (errno : Int) : Json :=
  (Json.null.set "msgid" (.integer type.code)).set "errno" (.integer errno)

/-- Hours in milliseconds. -/
def hours (count : Nat) : Nat := count * 60 * 60 * 1000

/-- `ChatService::reset`, called when the server is interrupted. -/
def reset : Handler Unit := sql UserModel.resetState

/-!
## Login
-/

/-- The text of the field `state`. -/
def stateOf (online : Bool) : Json := .string (if online then "online" else "offline")

/-- The object of a friend in the answer to a login. -/
def friendJson (user : User) (online : Bool) : Json :=
  ((Json.null.set "id" (.integer user.id)).set "name" (.string user.name)).set "state"
    (stateOf online)

/-- The object of a group member in the answer to a login. -/
def memberJson (user : GroupUser) (online : Bool) : Json :=
  (((Json.null.set "id" (.integer user.id)).set "name" (.string user.name)).set "state"
    (stateOf online)).set "role" (.string user.role)

/-- The object of a group in the answer to a login; its members are texts. -/
def groupJson (group : Group) (users : List String) : Json :=
  (((Json.null.set "id" (.integer group.id)).set "groupname" (.string group.name)).set "groupdesc"
    (.string group.desc)).set "users" (Json.ofStrings users)

/-- The loop over the friends. -/
def friendTexts : List User → Handler (List String)
  | [] => return []
  | user :: rest => do
      let online ← redis (RedisClient.isUserOnline user.id)
      let texts ← friendTexts rest
      return (friendJson user online).dump :: texts

/-- The friend list of the answer. A cached list is parsed and then not used. -/
def addFriendList (id : Int) (answer : Json) : Handler Json := do
  match ← redis (RedisClient.get (.friends id)) with
  | some _ => return answer
  | none =>
      let vFriendList ← sql (FriendModel.query id)
      if vFriendList.isEmpty then return answer
      let tempFriendList ← friendTexts vFriendList
      redis (RedisClient.set (.friends id) (Json.ofStrings tempFriendList).dump (hours 1))
      return answer.set "friends" (Json.ofStrings tempFriendList)

/-- The loop over the members of a group. -/
def memberTexts : List GroupUser → Handler (List String)
  | [] => return []
  | user :: rest => do
      let online ← redis (RedisClient.isUserOnline user.id)
      let texts ← memberTexts rest
      return (memberJson user online).dump :: texts

/-- The member set of the group, with the user added if the group lists it. -/
def enterGroup (id : Int) (group : Group) (node : Node) : Node :=
  if group.users.any (fun user => user.id = id) then node.addMember group.id id
  else node.touchGroup group.id

/-- The loop over the groups: the text of each, its member set and its channel. -/
def groupTexts (id : Int) : List Group → Handler (List String)
  | [] => return []
  | group :: rest => do
      let vGroupUser ← memberTexts group.users
      onNode (enterGroup id group)
      onNode (Node.subscribeGroupChannel group.id)
      let texts ← groupTexts id rest
      return (groupJson group vGroupUser).dump :: texts

/-- The group part of a login, which adds `groups` to the answer if there are any. -/
def addGroupList (id : Int) (answer : Json) : Handler Json := do
  let vGroupList ← sql (GroupModel.queryGroups id)
  if vGroupList.isEmpty then return answer
  let groupV ← groupTexts id vGroupList
  return answer.set "groups" (Json.ofStrings groupV)

/-- The last part of a login: everything after the presence is written. -/
def answerLogin (conn : Conn) (id : Int) (userQuery : User) : Handler Unit := do
  let answer := ((response .loginMsgAck 0).set "id" (.integer userQuery.id)).set "name"
    (.string userQuery.name)
  let offlineMsgs ← redis (RedisClient.popOfflineMessages id)
  let answer := if offlineMsgs.isEmpty then answer
    else answer.set "offlinemessage" (Json.ofStrings offlineMsgs)
  let answer ← addFriendList id answer
  let answer ← addGroupList id answer
  send conn answer

/-- Write presence, after the log line that reads the node of the record. -/
def announce (conn : Conn) (id : Int) : Handler Unit := do
  let _node ← redis (RedisClient.getUserNode id)
  let node ← currentNode
  redis (RedisClient.setUserOnline node.localNodeId id conn.name)

/-- The path of a login that was let in. -/
def acceptLogin (conn : Conn) (id : Int) (userQuery : User) : Handler Unit := do
  onNode (Node.record id conn)
  announce conn id
  answerLogin conn id userQuery

/-- The answer to a login of a user whose record says online. -/
def alreadyOnline : Json :=
  (response .loginMsgAck 2).set "errormsg" (.string "该账号已经登陆，请重新输入账号")

/-- The answer to a login without a matching row. -/
def wrongPassword : Json :=
  (response .loginMsgAck 1).set "errormsg" (.string "账号或密码输入错误")

/-- `ChatService::login`. -/
def login (conn : Conn) (js : Json) : Handler Unit := do
  let id ← convert (js.int "id")
  let pwd ← convert (js.str "password")
  let userQuery ← sql (UserModel.query id)
  if userQuery.id = id ∧ userQuery.password = pwd then
    if ← redis (RedisClient.isUserOnline id) then send conn alreadyOnline
    else acceptLogin conn id userQuery
  else send conn wrongPassword

/-!
## Registration and the end of a session
-/

/-- The id of the reply is the one of the local object, which `insert` does not
set. -/
def reg (conn : Conn) (js : Json) : Handler Unit := do
  let name ← convert (js.str "name")
  let password ← convert (js.str "password")
  let user : User := { name, password }
  if ← sql (UserModel.insert user) then
    redis (RedisClient.hset (.userInfo user.id) "name" name)
    redis (RedisClient.expire (.userInfo user.id) (hours 24))
    send conn ((response .regMsgAck 0).set "id" (.integer user.id))
  else send conn (response .regMsgAck 1)

/-- `ChatService::loginOut`. It sends no answer. -/
def loginOut (_conn : Conn) (js : Json) : Handler Unit := do
  let id ← convert (js.int "id")
  onNode (Node.forget id)
  redis (RedisClient.setUserOffline id)
  onNode (Node.leaveGroups id)

/-- The user object starts with id -1, so a mapped user of that id is erased from
the map and nothing else is done for it. -/
def clientQuitEcption (hint : Int) (conn : Conn) : Handler Unit := do
  let node ← currentNode
  match node.entryOf conn hint with
  | none => return ()
  | some id =>
      onNode (Node.forget id)
      if id ≠ -1 then
        redis (RedisClient.setUserOffline id)
        onNode (Node.leaveGroups id)

/-!
## Messages and groups
-/

/-- The message is missing, null or empty. One that is not a string throws. -/
def emptyMessage (js : Json) : Except JsonError Bool := do
  let msg ← js.field "msg"
  if msg.isNull then return true
  let text ← msg.getString
  return text.isEmpty

/-- The friend check of `oneChat`, over the list `FriendModel::query` returns. -/
def friendCheck (id toId : Int) : Handler Bool := do
  let vFriendList ← sql (FriendModel.query id)
  return vFriendList.any (fun user => user.id = toId)

/-- The answer to a private message without `id` or `to`. -/
def missingFields : Json :=
  (response .oneChatMsgAck 1).set "errormsg" (.string "Missing required fields")

/-- The answer to a private message whose sender is no friend. -/
def noSuchFriend : Json :=
  (response .oneChatMsgAck 1).set "errormsg" (.string "No this friend")

/-- The acknowledgement of a message sent to a connection of this node. -/
def sentMessage : Json := (response .oneChatMsgAck 0).set "msg" (.string "MSG have sent")

/-- The acknowledgement of a message left to the offline table. -/
def storedMessage : Json := (response .oneChatMsgAck 0).set "msg" (.string "Send offline MSG")

/-- The last part of `oneChat`, for a friend. -/
def deliver (conn : Conn) (js : Json) (toId : Int) : Handler Unit := do
  let node ← currentNode
  match node.connOf toId with
  | some toConn =>
      send conn sentMessage
      send toConn js
  | none =>
      let _stored ← insertOffline toId js.dump
      send conn storedMessage

/-- `ChatService::oneChat`. -/
def oneChat (conn : Conn) (js : Json) : Handler Unit := do
  if ← convert (emptyMessage js) then return ()
  if js.contains "id" = false ∨ js.contains "to" = false then send conn missingFields
  else
    let id ← convert (js.int "id")
    let toId ← convert (js.int "to")
    if ← friendCheck id toId then deliver conn js toId
    else send conn noSuchFriend

/-- `ChatService::addFriend`. It sends no answer. -/
def addFriend (_conn : Conn) (js : Json) : Handler Unit := do
  let userid ← convert (js.int "id")
  let friendid ← convert (js.int "friendid")
  sql (FriendModel.insert userid friendid)

/-- The common end of `createGroup` and `joinGroup`. -/
def enterMembership (groupid userid : Int) : Handler Unit := do
  onNode (Node.addMember groupid userid)
  redis (RedisClient.sadd (.groupMembers groupid) (toString userid))
  redis (RedisClient.expire (.groupMembers groupid) (hours 1))
  onNode (Node.subscribeGroupChannel groupid)

/-- `ChatService::createGroup`. It sends no answer. -/
def createGroup (_conn : Conn) (js : Json) : Handler Unit := do
  let userid ← convert (js.int "id")
  let groupname ← convert (js.str "groupname")
  let groupdesc ← convert (js.str "groupdesc")
  let group ← sql (GroupModel.createGroup { name := groupname, desc := groupdesc })
  sql (GroupModel.joinGroup userid group.id "creator")
  enterMembership group.id userid

/-- `ChatService::joinGroup`. It sends no answer. -/
def joinGroup (_conn : Conn) (js : Json) : Handler Unit := do
  let userid ← convert (js.int "id")
  let groupid ← convert (js.int "groupid")
  sql (GroupModel.joinGroup userid groupid "normal")
  enterMembership groupid userid

/-- The fallback of `groupChat`: the other members of the group, from the
database. A group without other members gets no entry. -/
def loadMembers (userid groupid : Int) : Handler Unit := do
  let groupUsers ← sql (GroupModel.queryGroupUsers userid groupid)
  onNode (fun node => groupUsers.foldl (fun node id => node.addMember groupid id) node)
  onNode (Node.subscribeGroupChannel groupid)

/-- `ChatService::groupChat`. -/
def groupChat (_conn : Conn) (js : Json) : Handler Unit := do
  if ← convert (emptyMessage js) then return ()
  let userid ← convert (js.int "id")
  let groupid ← convert (js.int "groupid")
  let node ← currentNode
  if groupid ∉ node.groupMembers then loadMembers userid groupid
  redis (RedisClient.publishGroupMessage groupid js)

/-- Send to the members that are connected here, in the order of the set. -/
def fanOut (js : Json) : List Int → Handler Unit
  | [] => return ()
  | uid :: rest => do
      let node ← currentNode
      match node.connOf uid with
      | some conn => sendLine conn js true
      | none => pure ()
      fanOut js rest

/-- The callback for messages published to this node or to one of its groups. -/
def inboxCallback (js : Json) : Handler Unit := do
  if js.contains "to" then
    let toId ← convert (js.int "to")
    let node ← currentNode
    match node.connOf toId with
    | some conn => sendLine conn js true
    | none =>
        let _stored ← insertOffline toId js.dump
        redis (RedisClient.pushOfflineMessage toId js)
  else if js.contains "groupid" then
    let groupid ← convert (js.int "groupid")
    let node ← currentNode
    match node.groupMembers.lookup groupid with
    | some members => fanOut js members.elements
    | none => return ()

/-!
## Dispatch
-/

/-- `msgHandlerMap_`. An unknown message type has no handler and is logged. -/
def getHandler (msgid : Int) : Option (Conn → Json → Handler Unit) :=
  if msgid = MsgType.loginMsg.code then some login
  else if msgid = MsgType.loginOutMsg.code then some loginOut
  else if msgid = MsgType.regMsg.code then some reg
  else if msgid = MsgType.oneChatMsg.code then some oneChat
  else if msgid = MsgType.addFriendMsg.code then some addFriend
  else if msgid = MsgType.createGroupMsg.code then some createGroup
  else if msgid = MsgType.joinGroupMsg.code then some joinGroup
  else if msgid = MsgType.groupChatMsg.code then some groupChat
  else none

/-- The request the client writes to log in. -/
def loginRequest (id : Int) (pwd : String) : Json :=
  .object
    [("id", .integer id), ("msgid", .integer MsgType.loginMsg.code), ("password", .string pwd)]

/-- The `try` block of `ChatServer::onMessage`, after parsing. -/
def dispatch (conn : Conn) (js : Json) : Handler Unit := do
  let msgid ← convert (js.int "msgid")
  match getHandler msgid with
  | some handler => handler conn js
  | none => return ()

end ChatService

end ClusterChat
