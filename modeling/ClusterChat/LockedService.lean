import ClusterChat.Library.Sections
import ClusterChat.NodeRuns
import ClusterChat.RedisOperations

/-!
# The chat service with its locks

The handlers, the callback and the task loop of the subscriber thread as the source has
them, scope by scope: which mutex is taken in which mode, which single operations on the
containers are made under it, and where it is given up. `callback_mutex_` guards
`inbox_callback_`, the two shared mutexes of `ChatService` guard `userConnMap_` and
`groupMembers_`, and `sub_mutex_` guards `sub_tasks_` and `sub_group_set_`.

`locked` is a scope as it is written, `whole` the scope with its changes to the container
made at once; `text` gives each handler by its scopes, once for both. A range loop reads
the container at every position.

A call of a model class, of `RedisClient` or of a connection is one step; what these do
under their own mutexes is not followed here. An insertion that never returns keeps the
locks that are held around it. `surroundings` stands for everything other nodes, time and
failures do to the database and to Redis.
-/

namespace ClusterChat.LockedService

open Locking (Mode)
open ChatService (response alreadyOnline wrongPassword missingFields noSuchFriend sentMessage
  storedMessage friendJson memberJson groupJson emptyMessage hours)

/-!
## The containers
-/

/-- The mutexes of a node. -/
inductive Lock where
  | callback
  | group
  | userConn
  | sub
deriving DecidableEq

/-- The members of `RedisClient` that `sub_mutex_` guards. -/
structure Queue where
  subTasks : List SubTask := []
  subGroupSet : OrderedSet Int := ∅

/-- The container of the connections. -/
abbrev ConnMap := AList (fun _ : Int => Conn)

/-- The container of the member sets. -/
abbrev MemberMap := AList (fun _ : Int => OrderedSet Int)

/-- What each mutex guards. Of `inbox_callback_` it is whether it has been set. -/
@[reducible] def Datum : Lock → Type
  | .callback => Bool
  | .group => MemberMap
  | .userConn => ConnMap
  | .sub => Queue

/-- The operations on the callback. -/
inductive CallbackOperation where
  | test
  | assign

/-- The operations on `userConnMap_`. An iterator is a position in the order its hint gives.
-/
inductive ConnOperation where
  | find (id : Int)
  | insert (id : Int) (conn : Conn)
  | erase (id : Int)
  | size
  | entryAt (hint : Int) (position : Nat)

/-- The operations on `groupMembers_`. -/
inductive GroupOperation where
  | find (groupid : Int)
  | subscript (groupid : Int)
  | insert (groupid id : Int)
  | size
  | keyAt (position : Nat)
  | erase (groupid id : Int)
  | empty (groupid : Int)
  | memberCount (groupid : Int)
  | memberAt (groupid : Int) (position : Nat)

/-- The operations on what the subscriber shares. -/
inductive QueueOperation where
  | count (groupId : Int)
  | push (task : SubTask)
  | swap
  | insert (groupId : Int)
  | erase (groupId : Int)

/-- The single operations on what a mutex guards. -/
@[reducible] def Operation : Lock → Type
  | .callback => CallbackOperation
  | .group => GroupOperation
  | .userConn => ConnOperation
  | .sub => QueueOperation

/-- What an operation returns. -/
@[reducible] def Result : (lock : Lock) → Operation lock → Type
  | .callback, .test => Bool
  | .callback, .assign => Unit
  | .userConn, .find _ => Option Conn
  | .userConn, .size => Nat
  | .userConn, .entryAt _ _ => Option (Int × Conn)
  | .userConn, _ => Unit
  | .group, .find _ | .group, .empty _ => Bool
  | .group, .size | .group, .memberCount _ => Nat
  | .group, .keyAt _ | .group, .memberAt _ _ => Option Int
  | .group, _ => Unit
  | .sub, .count _ => Bool
  | .sub, .swap => List SubTask
  | .sub, _ => Unit

/-- The cached members of a group, none if it has no entry. -/
def membersIn (map : MemberMap) (groupid : Int) : OrderedSet Int := (map.lookup groupid).getD ∅

/-- The entries in an order of iteration: the hinted one comes first. -/
def arranged (hint : Int) (map : ConnMap) : List (Int × Conn) :=
  let pairs := fun entry : (_ : Int) × Conn => (entry.1, entry.2)
  match map.lookup hint with
  | some conn => (hint, conn) :: (map.erase hint).entries.map pairs
  | none => map.entries.map pairs

/-- What an operation returns and leaves. -/
def operate : (lock : Lock) → (operation : Operation lock) → Datum lock →
    Result lock operation × Datum lock
  | .callback, .test, set => (set, set)
  | .callback, .assign, _ => ((), true)
  | .userConn, .find id, map => (map.lookup id, map)
  | .userConn, .insert id conn, map => ((), if id ∈ map then map else map.insert id conn)
  | .userConn, .erase id, map => ((), map.erase id)
  | .userConn, .size, map => (map.entries.length, map)
  | .userConn, .entryAt hint position, map => ((arranged hint map)[position]?, map)
  | .group, .find groupid, map => (decide (groupid ∈ map), map)
  | .group, .subscript groupid, map => ((), if groupid ∈ map then map else map.insert groupid ∅)
  | .group, .insert groupid id, map =>
      ((), map.insert groupid ((membersIn map groupid).insert id))
  | .group, .size, map => (map.entries.length, map)
  | .group, .keyAt position, map => (map.entries[position]?.map (fun entry => entry.1), map)
  | .group, .erase groupid id, map =>
      ((), map.mapValues fun other set => if other = groupid then set.erase id else set)
  | .group, .empty groupid, map => ((membersIn map groupid).isEmpty, map)
  | .group, .memberCount groupid, map => ((membersIn map groupid).elements.length, map)
  | .group, .memberAt groupid position, map => ((membersIn map groupid).elements[position]?, map)
  | .sub, .count groupId, queue => (decide (groupId ∈ queue.subGroupSet), queue)
  | .sub, .push task, queue => ((), { queue with subTasks := queue.subTasks ++ [task] })
  | .sub, .swap, queue => (queue.subTasks, { queue with subTasks := [] })
  | .sub, .insert groupId, queue =>
      ((), { queue with subGroupSet := queue.subGroupSet.insert groupId })
  | .sub, .erase groupId, queue =>
      ((), { queue with subGroupSet := queue.subGroupSet.erase groupId })

/-!
## What the scopes do to the containers
-/

/-- The sections of the callback's mutex. -/
inductive CallbackSection where
  | test
  | assign

/-- The sections of `userConnMap_`'s mutex. -/
inductive ConnSection where
  | connOf (id : Int)
  | record (id : Int) (conn : Conn)
  | forget (id : Int)
  | takeEntry (hint : Int) (conn : Conn)

/-- The sections of `groupMembers_`'s mutex. -/
inductive GroupSection where
  | cached (groupid : Int)
  | enter (id : Int) (group : Group)
  | leave (id : Int)
  | addMember (groupid id : Int)
  | addMembers (groupid : Int) (groupUsers : List Int)
  | membersOf (groupid : Int)

/-- The sections of the subscriber's mutex. -/
inductive QueueSection where
  | subscribe (groupId : Int)
  | unsubscribe (groupId : Int)
  | swap
  | settle (task : SubTask)

/-- The sections of each mutex. -/
@[reducible] def Section : Lock → Type
  | .callback => CallbackSection
  | .group => GroupSection
  | .userConn => ConnSection
  | .sub => QueueSection

/-- What a section has found out when it is left. -/
@[reducible] def Value : (lock : Lock) → Section lock → Type
  | .callback, .test => Bool
  | .callback, .assign => Unit
  | .userConn, .connOf _ => Option Conn
  | .userConn, .takeEntry _ _ => Option Int
  | .userConn, _ => Unit
  | .group, .cached _ => Bool
  | .group, .leave _ => List Int
  | .group, .membersOf _ => Option (List Int)
  | .group, _ => Unit
  | .sub, .swap => List SubTask
  | .sub, _ => Unit

/-- `groupMembers_[groupid].insert(id)`. -/
def withMember (groupid id : Int) (map : MemberMap) : MemberMap :=
  map.insert groupid ((membersIn map groupid).insert id)

/-- The entry of the closed connection that an iteration in the hinted order meets. -/
def entryIn (conn : Conn) (hint : Int) (map : ConnMap) : Option Int :=
  ((arranged hint map).find? (fun entry => entry.2 = conn)).map (fun entry => entry.1)

/-- The groups that have no member but this one. -/
def emptied (id : Int) (map : MemberMap) : List Int :=
  (map.entries.filter (fun entry => (entry.2.erase id).isEmpty)).map (fun entry => entry.1)

/-- The queue of `sub_mutex_` with the rest of a subscriber that is not in a batch. -/
def Queue.after (queue : Queue) (change : Subscriber → Subscriber) : Queue :=
  let s := change { subTasks := queue.subTasks, subGroupSet := queue.subGroupSet }
  ⟨s.subTasks, s.subGroupSet⟩

/-- What a section finds out and leaves in its container. -/
def change : (lock : Lock) → (part : Section lock) → Datum lock → Value lock part × Datum lock
  | .callback, .test, set => (set, set)
  | .callback, .assign, _ => ((), true)
  | .userConn, .connOf id, map => (map.lookup id, map)
  | .userConn, .record id conn, map => ((), if id ∈ map then map else map.insert id conn)
  | .userConn, .forget id, map => ((), map.erase id)
  | .userConn, .takeEntry hint conn, map =>
      match entryIn conn hint map with
      | some id => (some id, map.erase id)
      | none => (none, map)
  | .group, .cached groupid, map => (decide (groupid ∈ map), map)
  | .group, .enter id group, map =>
      ((), if group.users.any (fun user => user.id = id) then withMember group.id id map
        else if group.id ∈ map then map else map.insert group.id ∅)
  | .group, .leave id, map => (emptied id map, map.mapValues fun _ set => set.erase id)
  | .group, .addMember groupid id, map => ((), withMember groupid id map)
  | .group, .addMembers groupid groupUsers, map =>
      ((), groupUsers.foldl (fun map id => withMember groupid id map) map)
  | .group, .membersOf groupid, map => ((map.lookup groupid).map OrderedSet.elements, map)
  | .sub, .subscribe groupId, queue =>
      ((), queue.after (Subscriber.subscribeGroupChannel groupId))
  | .sub, .unsubscribe groupId, queue =>
      ((), queue.after (Subscriber.unsubscribeGroupChannel groupId))
  | .sub, .swap, queue => (queue.subTasks, { queue with subTasks := [] })
  | .sub, .settle task, queue =>
      ((), queue.after fun s => { s with executed := some task }.settle)

/-!
## The calls
-/

/-- What a thread does besides. -/
inductive Call where
  | redis (operation : RedisOperations.Operation)
  | userQuery (id : Int)
  | userInsert (user : User)
  | friendQuery (userid : Int)
  | friendInsert (userid friendid : Int)
  | createGroup (group : Group)
  | joinGroup (userid groupid : Int) (role : String)
  | queryGroups (userid : Int)
  | queryGroupUsers (userid groupid : Int)
  | insertOffline (userId : Int) (message : String)
  | send (conn : Conn) (body : Json) (newline : Bool)
  | localNodeId
  | channel (task : SubTask) (fails : Bool)
  | stopped
  | stop
  | surroundings (mysql : Access) (redis : RedisAccess)

/-- An insertion that never returns has no result, and the queue that it leaves stands for
nothing: `perform` keeps the one before the call. -/
@[reducible] def Call.Reply : Call → Type
  | .redis operation => operation.Result
  | .userQuery _ => User
  | .userInsert _ => Bool
  | .friendQuery _ => List User
  | .createGroup _ => Group
  | .queryGroups _ => List Group
  | .queryGroupUsers _ _ => List Int
  | .insertOffline _ _ => Option Bool
  | .localNodeId => String
  | .channel _ _ | .stopped => Bool
  | _ => Unit

/-- Everything the four mutexes do not guard. -/
structure Rest where
  localNodeId : String
  failedQueue : OfflineMessage.FailedQueue
  tasks : List SubTask
  executed : Option SubTask
  channels : OrderedSet Int
  stopped : Bool
  mysql : Access
  redis : RedisAccess
  sent : List Output

namespace Rest

/-- A request to the database, which its connection answers. -/
def sql {α : Type} (program : Jdbc α) (rest : Rest) : α × Rest :=
  ((rest.mysql.run program).1, { rest with mysql := (rest.mysql.run program).2 })

/-- A call, which touches no container. -/
def perform : (call : Call) → Rest → call.Reply × Rest
  | .redis operation, rest => ((rest.redis.run operation.program).1,
      { rest with redis := (rest.redis.run operation.program).2 })
  | .userQuery id, rest => rest.sql (UserModel.query id)
  | .userInsert user, rest => rest.sql (UserModel.insert user)
  | .friendQuery userid, rest => rest.sql (FriendModel.query userid)
  | .friendInsert userid friendid, rest => rest.sql (FriendModel.insert userid friendid)
  | .createGroup group, rest => rest.sql (GroupModel.createGroup group)
  | .joinGroup userid groupid role, rest => rest.sql (GroupModel.joinGroup userid groupid role)
  | .queryGroups userid, rest => rest.sql (GroupModel.queryGroups userid)
  | .queryGroupUsers userid groupid, rest =>
      rest.sql (GroupModel.queryGroupUsers userid groupid)
  | .insertOffline userId message, rest =>
      match rest.mysql.run (OfflineMessage.insert (rest.mysql.disturbances + 1) userId message
          rest.failedQueue) with
      | (some (failedQueue, success), mysql) =>
          (some success, { rest with mysql, failedQueue })
      | (none, mysql) => (none, { rest with mysql })
  | .send conn body newline, rest => ((), { rest with sent := rest.sent ++ [⟨conn, body, newline⟩] })
  | .localNodeId, rest => (rest.localNodeId, rest)
  | .channel task fails, rest =>
      (!fails, { rest with channels :=
        match fails, task with
        | false, .subscribe groupId => rest.channels.insert groupId
        | false, .unsubscribe groupId => rest.channels.erase groupId
        | _, _ => rest.channels })
  | .stopped, rest => (rest.stopped, rest)
  | .stop, rest => ((), { rest with stopped := true })
  | .surroundings mysql redis, rest => ((), { rest with mysql, redis })

end Rest

/-- The containers, the scopes and the calls. -/
@[reducible] def service : Sections where
  Lock := Lock
  Datum := Datum
  Operation := Operation
  Result := Result
  operate := operate
  Section := Section
  Value := Value
  change := change
  Call := Call
  Reply := Call.Reply

/-!
## The scopes
-/

/-- A program that takes and gives back locks. -/
abbrev Locked := service.Locked

/-- A program of whole sections. -/
abbrev Whole := service.Whole

/-- One acquisition of a lock. -/
def acquire (lock : Lock) (mode : Mode) : Locked Unit :=
  Program.issue (Sections.Action.acquire (S := service) lock mode)

/-- One release. -/
def release (lock : Lock) : Locked Unit :=
  Program.issue (Sections.Action.release (S := service) lock)

/-- One operation on a container. -/
def apply (lock : Lock) (operation : Operation lock) : Locked (Result lock operation) :=
  Program.issue (Sections.Action.operate (S := service) lock operation)

/-- One call. -/
def make (call : Call) : Locked call.Reply :=
  Program.issue (Sections.Action.outside (S := service) call)

/-- A section in one step. -/
def atOnce (lock : Lock) (part : Section lock) : Whole (Value lock part) :=
  Program.issue (Sections.Atom.whole (S := service) lock part)

/-- The same call in a program of sections. -/
def makeAtOnce (call : Call) : Whole call.Reply :=
  Program.issue (Sections.Atom.outside (S := service) call)

/-- Queue a task for a group unless `sub_group_set_` says that it is not needed. -/
def enqueue (needless : Bool) (task : SubTask) (groupId : Int) : Locked Unit := do
  acquire .sub .exclusive
  let counted ← apply .sub (.count groupId)
  if counted = needless then release .sub
  else
    apply .sub (.push task)
    release .sub

/-- `RedisClient::subscribeGroupChannel`. -/
def subscribeGroupChannel (groupId : Int) : Locked Unit :=
  enqueue true (.subscribe groupId) groupId

/-- `RedisClient::unsubscribeGroupChannel`. -/
def unsubscribeGroupChannel (groupId : Int) : Locked Unit :=
  enqueue false (.unsubscribe groupId) groupId

/-- The loop of `clientQuitEcption`, with the number of positions left. -/
def seek (hint : Int) (conn : Conn) : Nat → Nat → Locked (Option Int)
  | 0, _ => return none
  | left + 1, position => do
      match ← apply .userConn (.entryAt hint position) with
      | some (id, other) =>
          if other = conn then
            apply .userConn (.erase id)
            return some id
          else seek hint conn left (position + 1)
      | none => return none

/-- The loop of `login` over the members of a group. -/
def enterAll (id groupid : Int) : List GroupUser → Locked Unit
  | [] => return ()
  | user :: rest => do
      if user.id = id then apply .group (.insert groupid id)
      enterAll id groupid rest

/-- The loop over `groupMembers_` at the end of a session. -/
def leaveAll (id : Int) : Nat → Nat → Locked Unit
  | 0, _ => return ()
  | left + 1, position => do
      match ← apply .group (.keyAt position) with
      | some groupid =>
          apply .group (.erase groupid id)
          if ← apply .group (.empty groupid) then unsubscribeGroupChannel groupid
          leaveAll id left (position + 1)
      | none => return ()

/-- The loop of `groupChat` over the ids from the database. -/
def insertAll (groupid : Int) : List Int → Locked Unit
  | [] => return ()
  | id :: rest => do
      apply .group (.insert groupid id)
      insertAll groupid rest

/-- A step of a handler: a scope that locks, or a call. -/
inductive Scope where
  | record (id : Int) (conn : Conn)
  | forget (id : Int)
  | takeEntry (hint : Int) (conn : Conn)
  | relay (conn : Conn) (toId : Int) (js : Json)
  | enter (id : Int) (group : Group)
  | leave (id : Int)
  | addMember (groupid id : Int)
  | cached (groupid : Int)
  | addMembers (groupid : Int) (groupUsers : List Int)
  | subscribe (groupid : Int)
  | make (call : Call)

/-- What a step of a handler returns. -/
@[reducible] def Scope.Value : Scope → Type
  | .takeEntry _ _ => Option Int
  | .relay _ _ _ | .cached _ => Bool
  | .make call => call.Reply
  | _ => Unit

/-- The scopes as they are written. -/
def Scope.locked : (scope : Scope) → Locked scope.Value
  | .record id conn => do
      acquire .userConn .exclusive
      apply .userConn (.insert id conn)
      release .userConn
  | .forget id => do
      acquire .userConn .exclusive
      apply .userConn (.erase id)
      release .userConn
  | .takeEntry hint conn => do
      acquire .userConn .exclusive
      let size ← apply .userConn .size
      let found ← seek hint conn size 0
      release .userConn
      return found
  | .relay conn toId js => do
      acquire .userConn .exclusive
      match ← apply .userConn (.find toId) with
      | some toConn =>
          LockedService.make (.send conn sentMessage false)
          LockedService.make (.send toConn js false)
          release .userConn
          return true
      | none =>
          release .userConn
          return false
  | .enter id group => do
      acquire .group .exclusive
      apply .group (.subscript group.id)
      enterAll id group.id group.users
      release .group
  | .leave id => do
      acquire .group .exclusive
      let size ← apply .group .size
      leaveAll id size 0
      release .group
  | .addMember groupid id => do
      acquire .group .exclusive
      apply .group (.insert groupid id)
      release .group
  | .cached groupid => do
      acquire .group .shared
      let found ← apply .group (.find groupid)
      release .group
      return found
  | .addMembers groupid groupUsers => do
      acquire .group .exclusive
      insertAll groupid groupUsers
      subscribeGroupChannel groupid
      release .group
  | .subscribe groupid => subscribeGroupChannel groupid
  | .make call => LockedService.make call

/-- Unsubscribe one group after another. -/
def unsubscribeAll : List Int → Whole Unit
  | [] => return ()
  | groupid :: rest => do
      atOnce .sub (.unsubscribe groupid)
      unsubscribeAll rest

/-- The scopes with what they do to a container done at once. -/
def Scope.whole : (scope : Scope) → Whole scope.Value
  | .record id conn => atOnce .userConn (.record id conn)
  | .forget id => atOnce .userConn (.forget id)
  | .takeEntry hint conn => atOnce .userConn (.takeEntry hint conn)
  | .relay conn toId js => do
      match ← atOnce .userConn (.connOf toId) with
      | some toConn =>
          makeAtOnce (.send conn sentMessage false)
          makeAtOnce (.send toConn js false)
          return true
      | none => return false
  | .enter id group => atOnce .group (.enter id group)
  | .leave id => do
      let groupids ← atOnce .group (.leave id)
      unsubscribeAll groupids
  | .addMember groupid id => atOnce .group (.addMember groupid id)
  | .cached groupid => atOnce .group (.cached groupid)
  | .addMembers groupid groupUsers => do
      atOnce .group (.addMembers groupid groupUsers)
      atOnce .sub (.subscribe groupid)
  | .subscribe groupid => atOnce .sub (.subscribe groupid)
  | .make call => makeAtOnce call

/-!
## The handlers
-/

/-- A handler by its scopes. It may leave with an exception between two of them. -/
abbrev Scoped := ExceptT Escape (Program Scope Scope.Value)

/-- One step of a handler. -/
def scope (step : Scope) : Scoped step.Value := ExceptT.lift (Program.issue step)

/-- A step that is one call. -/
def call (each : Call) : Scoped each.Reply := scope (.make each)

/-- A call to Redis. -/
def redis (operation : RedisOperations.Operation) : Scoped operation.Result :=
  call (.redis operation)

/-- A call that sends a line without a newline. -/
def send (conn : Conn) (body : Json) : Scoped Unit := call (.send conn body false)

/-- A conversion, whose exception ends the handler. -/
def convert {α : Type} (converted : Except JsonError α) : Scoped α :=
  ExceptT.mk (pure (converted.mapError Escape.json))

/-- The texts of friends, each with its presence. -/
def friendTexts : List User → Scoped (List String)
  | [] => return []
  | user :: rest => do
      let online ← redis (.isUserOnline user.id)
      let texts ← friendTexts rest
      return (friendJson user online).dump :: texts

/-- The friends in the answer to a login, unless a cached list was found. -/
def addFriendList (id : Int) (answer : Json) : Scoped Json := do
  match ← redis (.get (.friends id)) with
  | some _ => return answer
  | none =>
      let vFriendList ← call (.friendQuery id)
      if vFriendList.isEmpty then return answer
      let tempFriendList ← friendTexts vFriendList
      redis (.set (.friends id) (Json.ofStrings tempFriendList).dump (hours 1))
      return answer.set "friends" (Json.ofStrings tempFriendList)

/-- The texts of the members of a group, each with its presence. -/
def memberTexts : List GroupUser → Scoped (List String)
  | [] => return []
  | user :: rest => do
      let online ← redis (.isUserOnline user.id)
      let texts ← memberTexts rest
      return (memberJson user online).dump :: texts

/-- The texts of groups. The user's entries and subscriptions are made on the way. -/
def groupTexts (id : Int) : List Group → Scoped (List String)
  | [] => return []
  | group :: rest => do
      let vGroupUser ← memberTexts group.users
      scope (.enter id group)
      scope (.subscribe group.id)
      let texts ← groupTexts id rest
      return (groupJson group vGroupUser).dump :: texts

/-- The groups in the answer to a login. -/
def addGroupList (id : Int) (answer : Json) : Scoped Json := do
  let vGroupList ← call (.queryGroups id)
  if vGroupList.isEmpty then return answer
  let groupV ← groupTexts id vGroupList
  return answer.set "groups" (Json.ofStrings groupV)

/-- Everything after the presence is written. -/
def answerLogin (conn : Conn) (id : Int) (userQuery : User) : Scoped Unit := do
  let answer := ((response .loginMsgAck 0).set "id" (.integer userQuery.id)).set "name"
    (.string userQuery.name)
  let offlineMsgs ← redis (.popOfflineMessages id)
  let answer := if offlineMsgs.isEmpty then answer
    else answer.set "offlinemessage" (Json.ofStrings offlineMsgs)
  let answer ← addFriendList id answer
  let answer ← addGroupList id answer
  send conn answer

/-- The presence record of a login. -/
def announce (conn : Conn) (id : Int) : Scoped Unit := do
  let _node ← redis (.getUserNode id)
  let localNodeId ← call .localNodeId
  redis (.setUserOnline localNodeId id conn.name)

/-- A login that was let in. -/
def acceptLogin (conn : Conn) (id : Int) (userQuery : User) : Scoped Unit := do
  scope (.record id conn)
  announce conn id
  answerLogin conn id userQuery

/-- The handler of a login. -/
def login (conn : Conn) (js : Json) : Scoped Unit := do
  let id ← convert (js.int "id")
  let pwd ← convert (js.str "password")
  let userQuery ← call (.userQuery id)
  if userQuery.id = id ∧ userQuery.password = pwd then
    if ← redis (.isUserOnline id) then send conn alreadyOnline
    else acceptLogin conn id userQuery
  else send conn wrongPassword

/-- The handler of a registration. -/
def reg (conn : Conn) (js : Json) : Scoped Unit := do
  let name ← convert (js.str "name")
  let password ← convert (js.str "password")
  let user : User := { name, password }
  if ← call (.userInsert user) then
    redis (.hset (.userInfo user.id) "name" name)
    redis (.expire (.userInfo user.id) (hours 24))
    send conn ((response .regMsgAck 0).set "id" (.integer user.id))
  else send conn (response .regMsgAck 1)

/-- The handler of a logout. -/
def loginOut (_conn : Conn) (js : Json) : Scoped Unit := do
  let id ← convert (js.int "id")
  scope (.forget id)
  redis (.setUserOffline id)
  scope (.leave id)

/-- The handler of a closed connection. -/
def clientQuitEcption (hint : Int) (conn : Conn) : Scoped Unit := do
  match ← scope (.takeEntry hint conn) with
  | none => return ()
  | some id =>
      if id ≠ -1 then
        redis (.setUserOffline id)
        scope (.leave id)

/-- `offlineMsgModel_.insert`, which may never return. -/
def insertOffline (userId : Int) (message : String) : Scoped Bool := do
  match ← call (.insertOffline userId message) with
  | some success => return success
  | none => throw .hangs

/-- Whether the first user lists the second. -/
def friendCheck (id toId : Int) : Scoped Bool := do
  let vFriendList ← call (.friendQuery id)
  return vFriendList.any (fun user => user.id = toId)

/-- The last part of `oneChat`, for a friend. -/
def deliver (conn : Conn) (js : Json) (toId : Int) : Scoped Unit := do
  if ← scope (.relay conn toId js) then return ()
  else
    let _stored ← insertOffline toId js.dump
    send conn storedMessage

/-- The handler of a private message. -/
def oneChat (conn : Conn) (js : Json) : Scoped Unit := do
  if ← convert (emptyMessage js) then return ()
  if js.contains "id" = false ∨ js.contains "to" = false then send conn missingFields
  else
    let id ← convert (js.int "id")
    let toId ← convert (js.int "to")
    if ← friendCheck id toId then deliver conn js toId
    else send conn noSuchFriend

/-- The handler of a new friend. -/
def addFriend (_conn : Conn) (js : Json) : Scoped Unit := do
  let userid ← convert (js.int "id")
  let friendid ← convert (js.int "friendid")
  call (.friendInsert userid friendid)

/-- The common end of `createGroup` and `joinGroup`. -/
def enterMembership (groupid userid : Int) : Scoped Unit := do
  scope (.addMember groupid userid)
  redis (.sadd (.groupMembers groupid) (toString userid))
  redis (.expire (.groupMembers groupid) (hours 1))
  scope (.subscribe groupid)

/-- The handler of a new group. -/
def createGroup (_conn : Conn) (js : Json) : Scoped Unit := do
  let userid ← convert (js.int "id")
  let groupname ← convert (js.str "groupname")
  let groupdesc ← convert (js.str "groupdesc")
  let group ← call (.createGroup { name := groupname, desc := groupdesc })
  call (.joinGroup userid group.id "creator")
  enterMembership group.id userid

/-- The handler of joining a group. -/
def joinGroup (_conn : Conn) (js : Json) : Scoped Unit := do
  let userid ← convert (js.int "id")
  let groupid ← convert (js.int "groupid")
  call (.joinGroup userid groupid "normal")
  enterMembership groupid userid

/-- The members from the database, read while no lock is held. -/
def loadMembers (userid groupid : Int) : Scoped Unit := do
  let groupUsers ← call (.queryGroupUsers userid groupid)
  scope (.addMembers groupid groupUsers)

/-- The handler of a message to a group. -/
def groupChat (_conn : Conn) (js : Json) : Scoped Unit := do
  if ← convert (emptyMessage js) then return ()
  let userid ← convert (js.int "id")
  let groupid ← convert (js.int "groupid")
  if (← scope (.cached groupid)) = false then loadMembers userid groupid
  redis (.publishGroupMessage groupid js)

/-- The handler of each request. -/
def handler : Request → Conn → Json → Scoped Unit
  | .login => login
  | .loginOut => loginOut
  | .reg => reg
  | .oneChat => oneChat
  | .addFriend => addFriend
  | .createGroup => createGroup
  | .joinGroup => joinGroup
  | .groupChat => groupChat

/-!
## The subscriber thread
-/

/-- The loop over the members of a group that are connected here, with the number of
positions left. -/
def fanOut (js : Json) (groupid : Int) : Nat → Nat → Locked Unit
  | 0, _ => return ()
  | left + 1, position => do
      match ← apply .group (.memberAt groupid position) with
      | some uid =>
          acquire .userConn .shared
          match ← apply .userConn (.find uid) with
          | some conn => make (.send conn js true)
          | none => pure ()
          release .userConn
          fanOut js groupid left (position + 1)
      | none => return ()

/-- The lambda given to `setInboxCallback`. -/
def inboxCallback (js : Json) : Locked (Except Escape Unit) :=
  if js.contains "to" then
    match js.int "to" with
    | .error exception => return .error (.json exception)
    | .ok toId => do
        acquire .userConn .shared
        match ← apply .userConn (.find toId) with
        | some conn =>
            make (.send conn js true)
            release .userConn
            return .ok ()
        | none =>
            match ← make (.insertOffline toId js.dump) with
            | some _ =>
                make (.redis (.pushOfflineMessage toId js))
                release .userConn
                return .ok ()
            | none => return .error .hangs
  else if js.contains "groupid" then
    match js.int "groupid" with
    | .error exception => return .error (.json exception)
    | .ok groupid => do
        acquire .group .shared
        if ← apply .group (.find groupid) then
          let size ← apply .group (.memberCount groupid)
          fanOut js groupid size 0
        release .group
        return .ok ()
  else return .ok ()

/-- The callback is called under its mutex, which a callback that never returns keeps. -/
def dispatchMessageToLocal (js : Json) : Locked (Except Escape Unit) := do
  acquire .callback .exclusive
  if ← apply .callback .test then
    match ← inboxCallback js with
    | .error .hangs => return .error .hangs
    | outcome =>
        release .callback
        return outcome
  else
    release .callback
    return .ok ()

/-- The callback is set under its mutex. -/
def setInboxCallback : Locked Unit := do
  acquire .callback .exclusive
  apply .callback .assign
  release .callback

/-- Record a task whose command succeeded. -/
def settle : SubTask → Locked Unit
  | .subscribe groupId => do
      acquire .sub .exclusive
      apply .sub (.insert groupId)
      release .sub
  | .unsubscribe groupId => do
      acquire .sub .exclusive
      apply .sub (.erase groupId)
      release .sub
  | .stop => return ()

/-- The loop over the tasks of a batch. Commands may throw; a `Stop` leaves the rest. -/
def process : List Bool → List SubTask → Locked Unit
  | _, [] => return ()
  | _, .stop :: _ => make .stop
  | fails, task :: tasks => do
      if ← make (.channel task (fails.headD false)) then settle task
      process fails.tail tasks

/-- One round of the loop of the subscriber thread, after `consume`. -/
def batch (fails : List Bool) : Locked Unit := do
  if ← make .stopped then return ()
  acquire .sub .exclusive
  let tasks ← apply .sub .swap
  release .sub
  process fails tasks

/-- A published message goes to the members it finds connected. -/
def fanOutWhole (js : Json) : List Int → Whole Unit
  | [] => return ()
  | uid :: rest => do
      match ← atOnce .userConn (.connOf uid) with
      | some conn => makeAtOnce (.send conn js true)
      | none => pure ()
      fanOutWhole js rest

/-- A published message whose receiver is not connected is stored. -/
def storeWhole (toId : Int) (js : Json) : Whole (Except Escape Unit) := do
  match ← makeAtOnce (.insertOffline toId js.dump) with
  | some _ =>
      makeAtOnce (.redis (.pushOfflineMessage toId js))
      return .ok ()
  | none => return .error .hangs

/-- The callback, with a section for each lookup. -/
def inboxCallbackWhole (js : Json) : Whole (Except Escape Unit) :=
  if js.contains "to" then
    match js.int "to" with
    | .error exception => return .error (.json exception)
    | .ok toId => do
        match ← atOnce .userConn (.connOf toId) with
        | some conn =>
            makeAtOnce (.send conn js true)
            return .ok ()
        | none => storeWhole toId js
  else if js.contains "groupid" then
    match js.int "groupid" with
    | .error exception => return .error (.json exception)
    | .ok groupid => do
        match ← atOnce .group (.membersOf groupid) with
        | some members =>
            fanOutWhole js members
            return .ok ()
        | none => return .ok ()
  else return .ok ()

/-- A published message goes to the callback once it is set. -/
def dispatchWhole (js : Json) : Whole (Except Escape Unit) := do
  if ← atOnce .callback .test then inboxCallbackWhole js else return .ok ()

/-- A task that has succeeded is recorded, unless it ends the thread. -/
def settleWhole (task : SubTask) : Whole Unit :=
  if task = .stop then return () else atOnce .sub (.settle task)

/-- The tasks of a batch, up to one that ends the thread. -/
def processWhole : List Bool → List SubTask → Whole Unit
  | _, [] => return ()
  | _, .stop :: _ => makeAtOnce .stop
  | fails, task :: tasks => do
      if ← makeAtOnce (.channel task (fails.headD false)) then settleWhole task
      processWhole fails.tail tasks

/-- A round of the subscriber thread: the batch is taken from the queue and processed. -/
def batchWhole (fails : List Bool) : Whole Unit := do
  if ← makeAtOnce .stopped then return ()
  let tasks ← atOnce .sub .swap
  processWhole fails tasks

/-!
## What the threads do
-/

/-- What a thread of the node can do: handle a request or a closed connection, set the
callback or call it for a published message, and process the queued tasks. The last is what
others do to the database and to Redis. -/
inductive Activity where
  | request (request : Request) (conn : Conn) (js : Json)
  | quit (hint : Int) (conn : Conn)
  | setInboxCallback
  | dispatch (js : Json)
  | batch (fails : List Bool)
  | surroundings (mysql : Access) (redis : RedisAccess)

namespace Activity

/-- As it is written. -/
def locked : Activity → Locked (Except Escape Unit)
  | .request asked conn js => (handler asked conn js).run.expand Scope.locked
  | .quit hint conn => (clientQuitEcption hint conn).run.expand Scope.locked
  | .setInboxCallback => .ok <$> LockedService.setInboxCallback
  | .dispatch js => dispatchMessageToLocal js
  | .batch fails => .ok <$> LockedService.batch fails
  | .surroundings mysql redis => .ok <$> make (.surroundings mysql redis)

/-- With every section in one step. -/
def whole : Activity → Whole (Except Escape Unit)
  | .request asked conn js => (handler asked conn js).run.expand Scope.whole
  | .quit hint conn => (clientQuitEcption hint conn).run.expand Scope.whole
  | .setInboxCallback => .ok <$> atOnce .callback .assign
  | .dispatch js => dispatchWhole js
  | .batch fails => .ok <$> batchWhole fails
  | .surroundings mysql redis => .ok <$> makeAtOnce (.surroundings mysql redis)

end Activity

end ClusterChat.LockedService
