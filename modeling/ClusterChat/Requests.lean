import ClusterChat.Friendship

/-!
# How the requests end

The ends of a login are in `LoginEnds`. This module gives the ends of the other
requests in the same way: each end with the condition that leads to it, and with
the world it leaves. A chat message has seven. A registration has three, and a
request about friends or groups two, since those send nothing.

Database and Redis are as a request meets them, disturbed or not. What a request
leaves of a database is said through the statements it attempted and not through
the rows they touch.
-/

namespace ClusterChat.ChatService

open Friendship

/-- The handlers a message type can have. -/
theorem getHandler_cases (msgid : Int) (handler : Conn → Json → Handler Unit)
    (found : getHandler msgid = some handler) :
    handler = login ∨ handler = loginOut ∨ handler = reg ∨ handler = oneChat ∨
      handler = addFriend ∨ handler = createGroup ∨ handler = joinGroup ∨ handler = groupChat := by
  unfold getHandler at found
  split_ifs at found <;> cases found <;> simp

/-!
## Chat messages
-/

/-- The friend check reads the friend list and changes no row. -/
theorem friendCheck_run (id toId : Int) (w : World) : ∃ known,
    friendCheck id toId w =
      (.ok known, { w with mysql := (w.mysql.run (FriendModel.query id)).2 }) ∧
      (known = true ↔ Lists w id toId) := by
  refine ⟨(w.mysql.run (FriendModel.query id)).1.any (fun user => user.id = toId), rfl, ?_⟩
  simp [Friendship.Lists]

/-- Storing an offline message returns, unless its loop does not end. -/
theorem insertOffline_ends (userId : Int) (message : String) (w : World) :
    (∃ success failedQueue mysql, insertOffline userId message w = (.ok success,
      { w with node := { w.node with failedQueue := failedQueue }, mysql := mysql })) ∨
    ∃ mysql, insertOffline userId message w = (.error .hangs, { w with mysql := mysql }) := by
  unfold insertOffline
  cases w.mysql.run (OfflineMessage.insert (w.mysql.disturbances + 1) userId message
      w.node.failedQueue) with
  | mk result mysql =>
    cases result with
    | none => exact Or.inr ⟨mysql, rfl⟩
    | some inserted => exact Or.inl ⟨inserted.2, inserted.1, mysql, rfl⟩

/-- The request has a text, a sender and a recipient. -/
structure Addressed (js : Json) (id toId : Int) : Prop where
  spoken : emptyMessage js = .ok false
  named : js.int "id" = .ok id
  directed : js.int "to" = .ok toId

/-- A message names one sender and one receiver. -/
theorem Addressed.unique {js : Json} {id toId other otherTo : Int} (first : Addressed js id toId)
    (second : Addressed js other otherTo) : id = other ∧ toId = otherTo := by
  have sender := first.named
  have recipient := first.directed
  rw [second.named] at sender
  rw [second.directed] at recipient
  cases sender
  cases recipient
  exact ⟨rfl, rfl⟩

/-- A member that is read as a number is there. -/
theorem contains_of_int (js : Json) (key : String) (value : Int) (read : js.int key = .ok value) :
    js.contains key = true := by
  cases js with
  | object members =>
    rw [Json.contains]
    rw [Json.int, Json.field] at read
    cases found : members.lookup key with
    | none =>
      rw [found] at read
      cases read
    | some item => rfl
  | _ => cases read

/-- The ends of a private message: an exception, the silent drop, the two
refusals, the message sent on, the message stored, and a storing that hangs. -/
inductive OneChatEnds (conn : Conn) (js : Json) (w : World) : Except Escape Unit × World → Prop
  | malformed (exception : JsonError) (unread : ∀ id toId, ¬ Addressed js id toId) :
      OneChatEnds conn js w (.error (.json exception), w)
  | silent (empty : emptyMessage js = .ok true) : OneChatEnds conn js w (.ok (), w)
  | incomplete (unread : ∀ id toId, ¬ Addressed js id toId) : OneChatEnds conn js w
      (.ok (), { w with sent := w.sent ++ [⟨conn, missingFields, false⟩] })
  | stranger (id toId : Int) (addressed : Addressed js id toId) (unlisted : ¬ Lists w id toId)
      (mysql : Access) (kept : Access.Kept w.mysql mysql) : OneChatEnds conn js w
      (.ok (), { w with mysql := mysql, sent := w.sent ++ [⟨conn, noSuchFriend, false⟩] })
  | relayed (id toId : Int) (addressed : Addressed js id toId) (listed : Lists w id toId)
      (mysql : Access) (kept : Access.Kept w.mysql mysql) (toConn : Conn)
      (connected : w.node.connOf toId = some toConn) : OneChatEnds conn js w
      (.ok (), { w with
        mysql := mysql
        sent := w.sent ++ [⟨conn, sentMessage, false⟩, ⟨toConn, js, false⟩] })
  | stored (id toId : Int) (addressed : Addressed js id toId) (listed : Lists w id toId)
      (absent : w.node.connOf toId = none) (failedQueue : OfflineMessage.FailedQueue)
      (mysql : Access) : OneChatEnds conn js w
      (.ok (), { w with
        node := { w.node with failedQueue := failedQueue }
        mysql := mysql
        sent := w.sent ++ [⟨conn, storedMessage, false⟩] })
  | hung (id toId : Int) (addressed : Addressed js id toId) (listed : Lists w id toId)
      (absent : w.node.connOf toId = none) (mysql : Access) :
      OneChatEnds conn js w (.error .hangs, { w with mysql := mysql })

/-- The last part of `oneChat` sends the message on or stores it. -/
theorem deliver_ends (conn : Conn) (js : Json) (id toId : Int) (w : World) (mysql : Access)
    (addressed : Addressed js id toId) (listed : Lists w id toId)
    (kept : Access.Kept w.mysql mysql) :
    OneChatEnds conn js w (deliver conn js toId { w with mysql := mysql }) := by
  rw [deliver, Effect.bind_ok _ _ _ _ _ (currentNode_run _)]
  cases connected : w.node.connOf toId with
  | some toConn =>
    have relayed : OneChatEnds conn js w _ :=
      .relayed id toId addressed listed mysql kept toConn connected
    rw [← List.singleton_append, ← List.append_assoc] at relayed
    exact relayed
  | none =>
    rcases insertOffline_ends toId js.dump { w with mysql := mysql } with
      ⟨success, failedQueue, left, stored⟩ | ⟨left, hung⟩
    · simp only
      rw [Effect.bind_ok _ _ _ _ _ stored]
      exact .stored id toId addressed listed connected failedQueue left
    · simp only
      rw [Effect.bind_error _ _ _ _ _ hung]
      exact .hung id toId addressed listed connected left

/-- An addressed message is checked against the friend list, and then goes to the last
part or is refused. -/
theorem oneChat_addressed (conn : Conn) (js : Json) (id toId : Int) (w : World)
    (addressed : Addressed js id toId) : ∃ known, (known = true ↔ Lists w id toId) ∧
    oneChat conn js w = (if known = true then deliver conn js toId else send conn noSuchFriend)
      { w with mysql := (w.mysql.run (FriendModel.query id)).2 } := by
  obtain ⟨known, checked, lists⟩ := friendCheck_run id toId w
  have complete : ¬ (js.contains "id" = false ∨ js.contains "to" = false) := by
    rw [contains_of_int js "id" id addressed.named, contains_of_int js "to" toId addressed.directed]
    simp
  refine ⟨known, lists, ?_⟩
  rw [oneChat, addressed.spoken]
  simp only [convert_ok_bind, Bool.false_eq_true, if_false]
  rw [if_neg complete, addressed.named, addressed.directed]
  simp only [convert_ok_bind]
  rw [Effect.bind_ok _ _ _ _ _ checked]

/-- A message to a user of the sender's friend list comes to the last part. -/
theorem oneChat_listed (conn : Conn) (js : Json) (id toId : Int) (w : World)
    (addressed : Addressed js id toId) (listed : Lists w id toId) :
    oneChat conn js w =
      deliver conn js toId { w with mysql := (w.mysql.run (FriendModel.query id)).2 } := by
  obtain ⟨known, lists, ended⟩ := oneChat_addressed conn js id toId w addressed
  rw [ended, if_pos (lists.mpr listed)]

/-- Every private message ends in one of these ways. -/
theorem oneChat_ends (conn : Conn) (js : Json) (w : World) :
    OneChatEnds conn js w (oneChat conn js w) := by
  by_cases given : ∃ id toId, Addressed js id toId
  · obtain ⟨id, toId, addressed⟩ := given
    have kept := Access.kept_run w.mysql _ (FriendModel.query_reads id)
    obtain ⟨known, lists, ended⟩ := oneChat_addressed conn js id toId w addressed
    rw [ended]
    by_cases listed : known = true
    · rw [if_pos listed]
      exact deliver_ends conn js id toId w _ addressed (lists.mp listed) kept
    · rw [if_neg listed]
      exact .stranger id toId addressed (fun found => listed (lists.mpr found)) _ kept
  · have unread : ∀ id toId, ¬ Addressed js id toId :=
      fun id toId addressed => given ⟨id, toId, addressed⟩
    rw [oneChat]
    cases spoken : emptyMessage js with
    | error exception => exact .malformed exception unread
    | ok empty =>
      cases empty with
      | true => exact .silent spoken
      | false =>
        simp only [convert_ok_bind, Bool.false_eq_true, if_false]
        split
        · exact .incomplete unread
        · cases named : js.int "id" with
          | error exception => exact .malformed exception unread
          | ok id =>
            cases directed : js.int "to" with
            | error exception => exact .malformed exception unread
            | ok toId => exact absurd ⟨spoken, named, directed⟩ (unread id toId)

/-- A private message leaves Redis alone. -/
theorem sameRedis_oneChat (conn : Conn) (js : Json) :
    Effect.Within SameRedis (oneChat conn js) := by
  intro w
  have ends := oneChat_ends conn js w
  generalize oneChat conn js w = result at ends ⊢
  cases ends <;> rfl

/-- A message from a friend to a connected user is acknowledged and sent on. -/
theorem oneChat_connected (conn : Conn) (js : Json) (id toId : Int) (toConn : Conn) (w : World)
    (addressed : Addressed js id toId) (listed : Lists w id toId)
    (connected : w.node.connOf toId = some toConn) :
    (oneChat conn js w).2.sent =
      w.sent ++ [⟨conn, sentMessage, false⟩, ⟨toConn, js, false⟩] := by
  have ends := oneChat_ends conn js w
  generalize oneChat conn js w = result at ends ⊢
  cases ends with
  | malformed exception unread => exact absurd addressed (unread id toId)
  | silent empty =>
    have spoken := addressed.spoken
    rw [empty] at spoken
    cases spoken
  | incomplete unread => exact absurd addressed (unread id toId)
  | stranger id' toId' addressed' unlisted mysql kept =>
    obtain ⟨rfl, rfl⟩ := addressed.unique addressed'
    exact absurd listed unlisted
  | relayed id' toId' addressed' listed' mysql kept toConn' connected' =>
    obtain ⟨rfl, rfl⟩ := addressed.unique addressed'
    rw [connected] at connected'
    cases connected'
    rfl
  | stored id' toId' addressed' listed' absent failedQueue mysql =>
    obtain ⟨rfl, rfl⟩ := addressed.unique addressed'
    rw [connected] at absent
    cases absent
  | hung id' toId' addressed' listed' absent mysql =>
    obtain ⟨rfl, rfl⟩ := addressed.unique addressed'
    rw [connected] at absent
    cases absent

/-!
## Registration
-/

/-- The answer to a registration that was inserted. It carries the id of the user
object, which is still the default one. -/
def registered : Json := (response .regMsgAck 0).set "id" (.integer (-1))

/-- The ends of a registration. The row is attempted with the default state. -/
inductive RegEnds (conn : Conn) (js : Json) (w : World) : Except Escape Unit × World → Prop
  | malformed (exception : JsonError)
      (unread : ∀ name password, js.str "name" = .ok name → js.str "password" ≠ .ok password) :
      RegEnds conn js w (.error (.json exception), w)
  | refused (name password : String) (named : js.str "name" = .ok name)
      (given : js.str "password" = .ok password) (mysql : Access)
      (kept : mysql.database = w.mysql.database) : RegEnds conn js w
      (.ok (), { w with
        mysql := mysql
        sent := w.sent ++ [⟨conn, response .regMsgAck 1, false⟩] })
  | inserted (name password : String) (named : js.str "name" = .ok name)
      (given : js.str "password" = .ok password) (mysql : Access) (m : RedisAccess)
      (accepted : ∃ connection, w.mysql.database.update connection
        (.insertUser name password "offline") = .ok mysql.database)
      (kept : RedisAccess.Kept (· = .userInfo (-1)) w.redis m) : RegEnds conn js w
      (.ok (), { w with
        mysql := mysql
        redis := m
        sent := w.sent ++ [⟨conn, registered, false⟩] })

/-- Every registration ends in one of these ways. -/
theorem reg_ends (conn : Conn) (js : Json) (w : World) : RegEnds conn js w (reg conn js w) := by
  rw [reg]
  cases named : js.str "name" with
  | error exception =>
    exact .malformed exception (fun name _ given => by rw [named] at given; cases given)
  | ok name =>
    cases given : js.str "password" with
    | error exception =>
      exact .malformed exception (fun _ password _ given' => by rw [given] at given'; cases given')
    | ok password =>
      simp only [convert_ok_bind]
      rw [Effect.bind_ok _ _ _ _ _ (sql_run _ w)]
      rcases UserModel.insert_ends w.mysql { name, password } with
        ⟨refused, kept⟩ | ⟨accepted, row⟩
      · rw [refused]
        exact .refused name password named given _ kept
      · rw [accepted]
        simp only [if_true]
        have written := RedisAccess.kept_run _ _
          (RedisClient.hset_writes (.userInfo (-1)) "name" name) w.redis
        have timed := RedisAccess.kept_run _ _
          (RedisClient.expire_writes (.userInfo (-1)) (hours 24))
          (w.redis.run (RedisClient.hset (.userInfo (-1)) "name" name)).2
        exact .inserted name password named given _ _ row (written.trans timed)

/-!
## Friends and groups
-/

/-- A friend request changes nothing, or performs its statement. -/
theorem addFriend_ends (conn : Conn) (js : Json) (w : World) :
    (∃ outcome, addFriend conn js w = (outcome, w)) ∨
    ∃ userid friendid, js.int "id" = .ok userid ∧ js.int "friendid" = .ok friendid ∧
      addFriend conn js w = (.ok (),
        { w with mysql := (w.mysql.run (FriendModel.insert userid friendid)).2 }) := by
  rw [addFriend]
  cases named : js.int "id" with
  | error exception => exact Or.inl ⟨_, rfl⟩
  | ok userid =>
    cases befriended : js.int "friendid" with
    | error exception => exact Or.inl ⟨_, rfl⟩
    | ok friendid => exact Or.inr ⟨userid, friendid, rfl, rfl, rfl⟩

/-- A request to join attempts the row, and enters the user whatever came of it. -/
theorem joinGroup_enters (conn : Conn) (js : Json) (userid groupid : Int) (w : World)
    (named : js.int "id" = .ok userid) (grouped : js.int "groupid" = .ok groupid) :
    joinGroup conn js w = enterMembership groupid userid { w with
      mysql := (w.mysql.run (GroupModel.joinGroup userid groupid "normal")).2 } := by
  rw [joinGroup, named, grouped]
  simp only [convert_ok_bind]
  rw [Effect.bind_ok _ _ _ _ _ (sql_run _ w)]

/-- A join changes nothing, or performs its statement and joins on the node. -/
theorem joinGroup_ends (conn : Conn) (js : Json) (w : World) :
    (∃ outcome, joinGroup conn js w = (outcome, w)) ∨
    ∃ userid groupid m, js.int "id" = .ok userid ∧ js.int "groupid" = .ok groupid ∧
      joinGroup conn js w = (.ok (), { w with
        node := join groupid userid w.node
        mysql := (w.mysql.run (GroupModel.joinGroup userid groupid "normal")).2
        redis := m }) ∧
      RedisAccess.Kept (· = .groupMembers groupid) w.redis m := by
  rcases Json.given_or_malformed (js.int "id") (js.int "groupid") with
    ⟨userid, groupid, named, grouped⟩ | unread
  · obtain ⟨m, ended, kept⟩ := enterMembership_runs groupid userid { w with
      mysql := (w.mysql.run (GroupModel.joinGroup userid groupid "normal")).2 }
    refine Or.inr ⟨userid, groupid, m, named, grouped, ?_, kept⟩
    exact (joinGroup_enters conn js userid groupid w named grouped).trans ended
  · exact Or.inl (joinGroup_malformed conn js w unread)

/-- What a group creation leaves of the database, and the id it goes on with. -/
def createdBy (userid : Int) (groupname groupdesc : String) (mysql : Access) : Int × Access :=
  let created := mysql.run (GroupModel.createGroup { name := groupname, desc := groupdesc })
  (created.1.id, (created.2.run (GroupModel.joinGroup userid created.1.id "creator")).2)

/-- A request to create a group attempts both rows, and enters the user whatever came of
them. -/
theorem createGroup_enters (conn : Conn) (js : Json) (userid : Int) (groupname groupdesc : String)
    (w : World) (named : js.int "id" = .ok userid) (titled : js.str "groupname" = .ok groupname)
    (described : js.str "groupdesc" = .ok groupdesc) :
    createGroup conn js w = enterMembership (createdBy userid groupname groupdesc w.mysql).1 userid
      { w with mysql := (createdBy userid groupname groupdesc w.mysql).2 } := by
  rw [createGroup, named, titled, described]
  simp only [convert_ok_bind]
  rw [Effect.bind_ok _ _ _ _ _ (sql_run _ w), Effect.bind_ok _ _ _ _ _ (sql_run _ _)]
  rfl

/-- A creation changes nothing, or performs its statements and the founder joins on the
node. -/
theorem createGroup_ends (conn : Conn) (js : Json) (w : World) :
    (∃ outcome, createGroup conn js w = (outcome, w)) ∨
    ∃ userid groupname groupdesc m, js.int "id" = .ok userid ∧
      js.str "groupname" = .ok groupname ∧ js.str "groupdesc" = .ok groupdesc ∧
      createGroup conn js w = (.ok (), { w with
        node := join (createdBy userid groupname groupdesc w.mysql).1 userid w.node
        mysql := (createdBy userid groupname groupdesc w.mysql).2
        redis := m }) ∧
      RedisAccess.Kept (· = .groupMembers (createdBy userid groupname groupdesc w.mysql).1)
        w.redis m := by
  rcases Json.given_three_or_malformed (js.int "id") (js.str "groupname") (js.str "groupdesc") with
    ⟨userid, groupname, groupdesc, named, titled, described⟩ | unread
  · obtain ⟨m, ended, kept⟩ := enterMembership_runs
      (createdBy userid groupname groupdesc w.mysql).1 userid
      { w with mysql := (createdBy userid groupname groupdesc w.mysql).2 }
    refine Or.inr ⟨userid, groupname, groupdesc, m, named, titled, described, ?_, kept⟩
    exact (createGroup_enters conn js userid groupname groupdesc w named titled described).trans
      ended
  · exact Or.inl (createGroup_malformed conn js w unread)

end ClusterChat.ChatService
