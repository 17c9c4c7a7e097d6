import ClusterChat.NodeRuns
import ClusterChat.RetryBuffer

/-!
# For whom a request acts

No handler compares the connection a request arrives on with the one recorded for
the user the request names. `acts_for_named` says what is left of an authorisation:
a logout, a chat message, a request about friends or groups acts for the user in its
`id` field, whatever connection it arrives on and in whatever state the node is.

Sessions, presence records, friendships and memberships of other users stay as they
are, up to the members `groupChat` reads from the database for a group without an
entry. A message reaches or is stored for a user of the named user's friend list, and
is published to the group it names; what was waiting in the retry buffer may be stored
with it. What a connection receives otherwise are the acknowledgements of its own
requests.

Database and Redis are as the request meets them, disturbed or not. Whether the
named user is connected anywhere plays no part, and nothing is said about requests
that name nobody.
-/

namespace ClusterChat.ActingUser

open ChatService Friendship
open RetryBuffer (Message)

/-!
## The rows of one user
-/

/-- An update of the friendships or memberships of this user, the creation of a group,
or the insertion of a message with the property. -/
def Own (u : Int) (wanted : Message → Prop) : Update → Prop
  | .insertFriend userid friendid => userid = u ∨ friendid = u
  | .insertAllGroup _ _ => True
  | .insertGroupUser _ userid _ => userid = u
  | .insertOfflineMessage userid message => wanted (userid, message)
  | _ => False

/-- The users and the rows of other users are as before, and the messages added have
the property. -/
structure OwnRows (u : Int) (wanted : Message → Prop) (before after : Database) : Prop where
  user : after.user = before.user
  friend : ∀ row, row.userid ≠ u → row.friendid ≠ u → (row ∈ after.friend ↔ row ∈ before.friend)
  groupUser : ∀ row, row.userid ≠ u → (row ∈ after.groupUser ↔ row ∈ before.groupUser)
  offlineMessage : ∀ row ∈ after.offlineMessage,
    row ∈ before.offlineMessage ∨ wanted (row.userid, row.message)

section Rows

variable (u : Int) (wanted : Message → Prop)

/-- Doing nothing touches no row of another user. -/
theorem ownRows_refl (db : Database) : OwnRows u wanted db db :=
  ⟨rfl, fun _ _ _ => Iff.rfl, fun _ _ => Iff.rfl, fun _ => Or.inl⟩

instance : Std.Refl (OwnRows u wanted) := ⟨ownRows_refl u wanted⟩

instance : IsTrans Database (OwnRows u wanted) where
  trans := by
    intro first second third start rest
    refine ⟨rest.user.trans start.user, ?_, ?_, ?_⟩
    · intro row notUser notFriend
      exact (rest.friend row notUser notFriend).trans (start.friend row notUser notFriend)
    · intro row notUser
      exact (rest.groupUser row notUser).trans (start.groupUser row notUser)
    · intro row member
      rcases rest.offlineMessage row member with earlier | new
      · exact start.offlineMessage row earlier
      · exact Or.inr new

/-- A row added at the end of a table that is not among the rows in question. -/
theorem mem_snoc_other {α : Type} (rows : List α) (added row : α) (other : row ≠ added) :
    row ∈ rows ++ [added] ↔ row ∈ rows := by
  simp [other]

/-- An accepted statement of the user's own touches no row of another user. -/
theorem ownRows_update (db : Database) (conn : Connection) (statement : Update)
    (next : Database) (own : Own u wanted statement)
    (accepted : db.update conn statement = .ok next) : OwnRows u wanted db next := by
  have same := ownRows_refl u wanted db
  cases statement with
  | insertFriend userid friendid =>
    simp only [Database.update] at accepted
    split at accepted
    · cases accepted
    · cases accepted
      refine ⟨rfl, ?_, same.groupUser, same.offlineMessage⟩
      intro row notUser notFriend
      refine mem_snoc_other db.friend ⟨userid, friendid⟩ row ?_
      rintro rfl
      exact own.elim notUser notFriend
  | insertAllGroup groupname groupdesc =>
    simp only [Database.update] at accepted
    split at accepted
    · cases accepted
    · cases accepted
      exact ⟨rfl, same.friend, same.groupUser, same.offlineMessage⟩
  | insertGroupUser groupid userid grouprole =>
    simp only [Database.update] at accepted
    split at accepted
    · cases accepted
    · cases accepted
      refine ⟨rfl, same.friend, ?_, same.offlineMessage⟩
      intro row notUser
      refine mem_snoc_other db.groupUser ⟨groupid, userid, grouprole⟩ row ?_
      rintro rfl
      exact notUser own
  | insertOfflineMessage userid message =>
    rw [RetryBuffer.update_insertOfflineMessage db next conn (userid, message) accepted]
    refine ⟨rfl, same.friend, same.groupUser, ?_⟩
    intro row member
    rcases List.mem_append.mp member with old | new
    · exact Or.inl old
    · rw [List.mem_singleton.mp new]
      exact Or.inr own
  | _ => exact own.elim

/-- A program of own updates leaves the rows of other users. -/
theorem ownRows_run {α : Type} (m : Access) (program : Jdbc α)
    (updates : UpdatesOnly (Own u wanted) program) :
    OwnRows u wanted m.database (m.run program).2.database :=
  Access.run_updatesOnly (Own u wanted) (OwnRows u wanted) (ownRows_update u wanted) program
    updates m

/-- Storing a friendship updates rows of the two users it is about only. -/
theorem friendInsert_own (friendid : Int) :
    UpdatesOnly (Own u wanted) (FriendModel.insert u friendid) := by
  refine updatesOnly_borrowing _ _ _ _ fun conn => ?_
  refine Program.issues_try_bind _ _ _ (Program.issues_issue _ _ trivial) fun _ => ?_
  split
  · exact Program.issues_issue _ _ (Or.inl rfl)
  · exact Program.issues_issue _ _ (Or.inr rfl)

/-- Joining a group updates the membership rows of the joining user only. -/
theorem joinGroup_own (groupid : Int) (role : String) :
    UpdatesOnly (Own u wanted) (GroupModel.joinGroup u groupid role) :=
  updatesOnly_borrowing _ _ _ _ fun conn => updatesOnly_update _ conn _ rfl

/-- Creating a group updates no user's rows. -/
theorem createGroup_own (group : Group) :
    UpdatesOnly (Own u wanted) (GroupModel.createGroup group) := by
  refine updatesOnly_borrowing _ _ _ _ fun conn => ?_
  refine Program.issues_try_bind _ _ _ (Program.issues_issue _ _ trivial) fun _ => ?_
  refine Program.issues_try_bind _ _ _ (Program.issues_issue _ _ trivial) fun _ => ?_
  refine Program.issues_try_bind _ _ _ (Program.issues_issue _ _ trivial) fun _ => ?_
  refine Program.issues_try_bind _ _ _ (Program.issues_issue _ _ trivial) fun res => ?_
  cases res <;> exact trivial

end Rows

/-!
## Stored messages
-/

section Storing

variable (u : Int) (wanted : Message → Prop)

/-- If the messages waiting in the retry buffer have the property, then so do those
added to the table and those waiting afterwards. -/
def Stores (before after : World) : Prop :=
  (∀ message ∈ before.node.failedQueue, wanted message) →
    OwnRows u wanted before.mysql.database after.mysql.database ∧
      ∀ message ∈ after.node.failedQueue, wanted message

/-- Storing a wanted message adds that message, in the table or in the queue, and nothing
else. -/
theorem stores_insertOffline (userId : Int) (text : String) (own : wanted (userId, text)) :
    Effect.Within (Stores u wanted) (insertOffline userId text) := by
  intro w every
  obtain ⟨updates, leaves⟩ := RetryBuffer.insert_only wanted (userId, text) own
    (w.mysql.disturbances + 1) w.node.failedQueue every
  have rows := Access.run_updatesOnly (RetryBuffer.Inserts wanted) (OwnRows u wanted)
    (fun db conn statement next inserts accepted => by
      refine ownRows_update u wanted db conn statement next ?_ accepted
      cases statement <;> first | exact inserts | exact inserts.elim) _ updates w.mysql
  have left := Program.run_yields Access.answer _ _ leaves w.mysql
  change OwnRows u wanted w.mysql.database (w.mysql.run (OfflineMessage.insert
    (w.mysql.disturbances + 1) userId text w.node.failedQueue)).2.database at rows
  change ∀ result, (w.mysql.run (OfflineMessage.insert (w.mysql.disturbances + 1) userId text
    w.node.failedQueue)).1 = some result → ∀ message ∈ result.1, wanted message at left
  unfold insertOffline
  cases ended : w.mysql.run (OfflineMessage.insert (w.mysql.disturbances + 1) userId text
      w.node.failedQueue) with
  | mk result mysql =>
    rw [ended] at rows left
    cases result with
    | none => exact ⟨rows, every⟩
    | some inserted => exact ⟨rows, left inserted rfl⟩

instance : Std.Refl (Stores u wanted) := ⟨fun _ every => ⟨ownRows_refl u wanted _, every⟩⟩

instance : IsTrans World (Stores u wanted) where
  trans := by
    intro first second third start rest every
    obtain ⟨rows, waiting⟩ := start every
    obtain ⟨moreRows, stillWaiting⟩ := rest waiting
    exact ⟨IsTrans.trans _ _ _ rows moreRows, stillWaiting⟩

/-- Sending stores nothing. -/
theorem stores_send (conn : Conn) (body : Json) :
    Effect.Within (Stores u wanted) (send conn body) :=
  fun _ every => ⟨ownRows_refl u wanted _, every⟩

/-- The last part of `oneChat` stores at most the message for its recipient. -/
theorem stores_deliver (conn : Conn) (js : Json) (toId : Int) (own : wanted (toId, js.dump)) :
    Effect.Within (Stores u wanted) (deliver conn js toId) := by
  refine Effect.within_bind _ _ _ (fun _ every => ⟨ownRows_refl u wanted _, every⟩) ?_
  intro node
  cases node.connOf toId with
  | some toConn =>
    exact Effect.within_bind _ _ _ (stores_send u wanted _ _) fun _ => stores_send u wanted _ _
  | none =>
    refine Effect.within_bind _ _ _ (stores_insertOffline u wanted toId js.dump own) ?_
    exact fun _ => stores_send u wanted _ _

end Storing

/-!
## The sets of members in Redis
-/

/-- A command on the set of a group that adds this user, or one that changes no set. -/
def AddsUser (u : Int) : RedisCommand → Prop
  | .acquire | .release _ => True
  | .onKey _ (.sadd member) => member = toString u
  | .onKey _ (.expire _) => True
  | _ => False

/-- The sets hold the same other users. -/
def SameMembers (u : Int) (before after : RedisAccess) : Prop :=
  ∀ key member, member ≠ toString u →
    (member ∈ (after.store.entries key).set ↔ member ∈ (before.store.entries key).set)

instance (u : Int) : Std.Refl (SameMembers u) := ⟨fun _ _ _ _ => Iff.rfl⟩

instance (u : Int) : IsTrans RedisAccess (SameMembers u) where
  trans := fun _ _ _ start rest key member other =>
    (rest key member other).trans (start key member other)

/-- A command changes no other entry, and of its own the set by at most this user. -/
theorem sameMembers_answer (u : Int) (command : RedisCommand) (m : RedisAccess)
    (own : AddsUser u command) : SameMembers u m (RedisAccess.answer command m).2 := by
  obtain ⟨store, grants, throws⟩ := m
  intro other member notOwn
  cases command with
  | acquire => cases grants <;> exact Iff.rfl
  | release conn => exact Iff.rfl
  | publish channel msg => exact own.elim
  | onKey key command =>
    simp only [RedisAccess.answer, RedisAccess.attempt]
    split
    · exact Iff.rfl
    · simp only [Redis.execute]
      by_cases same : other = key
      · subst same
        rw [if_pos rfl]
        cases command with
        | sadd added =>
          have distinct : member ≠ added := fun equal => notOwn (equal.trans own)
          simp only [KeyCommand.execute]
          split
          · exact Iff.rfl
          · simp [distinct]
        | expire ttl =>
          simp only [KeyCommand.execute]
          split <;> exact Iff.rfl
        | _ => exact own.elim
      · rw [if_neg same]

/-- A command that adds the user alone leaves every other member of a set alone. -/
theorem sameMembers_run (u : Int) (key : Key) (command : KeyCommand)
    (refused caught : command.Reply) (own : AddsUser u (.onKey key command)) (m : RedisAccess) :
    SameMembers u m
      (m.run (RedisClient.withConn refused caught (RedisClient.onKey key command))).2 := by
  refine Program.issues_moves RedisAccess.answer (AddsUser u) (SameMembers u)
    (fun command m => sameMembers_answer u command m) _ ?_ m
  exact issues_withConn _ trivial (fun _ => trivial) refused caught _
    (Program.issues_issue _ _ own)

/-- The relation on worlds that speaks of Redis alone. -/
def SameSets (u : Int) (before after : World) : Prop := SameMembers u before.redis after.redis

instance (u : Int) : Std.Refl (SameSets u) := ⟨fun _ _ _ _ => Iff.rfl⟩

instance (u : Int) : IsTrans World (SameSets u) where
  trans := fun _ _ _ start rest => IsTrans.trans (r := SameMembers u) _ _ _ start rest

/-- Entering a membership adds the entering user alone. -/
theorem sameSets_enterMembership (groupid u : Int) :
    Effect.Within (SameSets u) (enterMembership groupid u) := by
  refine Effect.within_bind _ _ _ (fun _ _ _ _ => Iff.rfl) fun _ => ?_
  refine Effect.within_bind _ _ _ (fun w => sameMembers_run u (.groupMembers groupid)
    (.sadd (toString u)) () () rfl w.redis) fun _ => ?_
  refine Effect.within_bind _ _ _ (fun w => sameMembers_run u (.groupMembers groupid)
    (.expire (hours 1)) () () trivial w.redis) fun _ => ?_
  exact fun _ _ _ _ => Iff.rfl

/-- So does a join request, for the user it names. -/
theorem sameSets_joinGroup (conn : Conn) (js : Json) (u : Int) (named : js.int "id" = .ok u) :
    Effect.Within (SameSets u) (joinGroup conn js) := by
  intro w
  rw [joinGroup, named, convert_ok_bind]
  refine Effect.within_bind _ _ _ (within_convert (SameSets u) _) (fun groupid => ?_) w
  refine Effect.within_bind _ _ _ (fun _ _ _ _ => Iff.rfl) fun _ => ?_
  exact sameSets_enterMembership groupid u

/-- And the creation of a group, for its founder. -/
theorem sameSets_createGroup (conn : Conn) (js : Json) (u : Int) (named : js.int "id" = .ok u) :
    Effect.Within (SameSets u) (createGroup conn js) := by
  intro w
  rw [createGroup, named, convert_ok_bind]
  refine Effect.within_bind _ _ _ (within_convert (SameSets u) _) (fun groupname => ?_) w
  refine Effect.within_bind _ _ _ (within_convert (SameSets u) _) fun groupdesc => ?_
  refine Effect.within_bind _ _ _ (fun _ _ _ _ => Iff.rfl) fun group => ?_
  refine Effect.within_bind _ _ _ (fun _ _ _ _ => Iff.rfl) fun _ => ?_
  exact sameSets_enterMembership group.id u

/-!
## What a request may do
-/

/-- A private message of the user to the recipient it names, who is the user's friend
in the table. -/
def Writes (request : Request) (u : Int) (js : Json) (w : World) (v : Int) : Prop :=
  request = .oneChat ∧ js.int "to" = .ok v ∧ ⟨u, v⟩ ∈ w.mysql.database.friend

/-- The message was waiting in the retry buffer, or it is what the user writes to its
recipient. -/
def Storable (request : Request) (u : Int) (js : Json) (w : World) (message : Message) : Prop :=
  message ∈ w.node.failedQueue ∨ (Writes request u js w message.1 ∧ message.2 = js.dump)

/-- A member whom `groupChat` reads from the database, for a group without an entry. -/
def Loads (request : Request) (js : Json) (w : World) (groupid v : Int) : Prop :=
  request = .groupChat ∧ js.int "groupid" = .ok groupid ∧ ¬ w.node.Cached groupid ∧
    w.mysql.database.hasMember groupid v = true

/-- An acknowledgement of a private message on the connection it came on. -/
def Acknowledges (request : Request) (conn : Conn) (output : Output) : Prop :=
  request = .oneChat ∧ output.conn = conn ∧
    output.body ∈ [missingFields, noSuchFriend, sentMessage, storedMessage]

/-- Sessions, presence records, waiting lists and memberships of other users are as
before, up to the members that were loaded. -/
structure Spares (u : Int) (loads : Int → Int → Prop) (before after : World) : Prop where
  sessions : ∀ v, v ≠ u → after.node.connOf v = before.node.connOf v
  entries : ∀ key, key ≠ .user u → (∀ groupid, key ≠ .groupMembers groupid) →
    after.redis.store.entries key = before.redis.store.entries key
  sets : ∀ groupid member, member ≠ toString u →
    (member ∈ (after.redis.store.entries (.groupMembers groupid)).set ↔
      member ∈ (before.redis.store.entries (.groupMembers groupid)).set)
  kept : ∀ groupid v, v ≠ u → v ∈ before.node.members groupid → v ∈ after.node.members groupid
  added : ∀ groupid v, v ≠ u → v ∈ after.node.members groupid →
    v ∈ before.node.members groupid ∨ loads groupid v

/-- All the request does is done for this user. -/
structure ActsFor (request : Request) (u : Int) (conn : Conn) (js : Json) (w after : World) :
    Prop where
  spares : Spares u (Loads request js w) w after
  rows : OwnRows u (Storable request u js w) w.mysql.database after.mysql.database
  waiting : ∀ message ∈ after.node.failedQueue, Storable request u js w message
  sent : ∀ output ∈ NodeRuns.replies w after, Acknowledges request conn output ∨
    (output.body = js ∧ ∃ v, Writes request u js w v ∧ w.node.connOf v = some output.conn)
  published : after.redis.store.published = w.redis.store.published ∨
    (request = .groupChat ∧ ∃ groupid, js.int "groupid" = .ok groupid ∧
      after.redis.store.published = w.redis.store.published ++ [(.group groupid, js)])

section Requests

variable (request : Request) (u : Int) (conn : Conn) (js : Json) (w after : World)

/-- Where the maps of the node and Redis are the same, every user is spared. -/
theorem spares_same (loads : Int → Int → Prop)
    (connections : after.node.userConnMap = w.node.userConnMap)
    (groups : after.node.groupMembers = w.node.groupMembers) (redis : after.redis = w.redis) :
    Spares u loads w after := by
  have members (groupid : Int) : after.node.members groupid = w.node.members groupid := by
    rw [Node.members, Node.members, groups]
  refine ⟨?_, ?_, ?_, ?_, ?_⟩
  · intro v _
    rw [Node.connOf, Node.connOf, connections]
  · intro key _ _
    rw [redis]
  · intro groupid member _
    rw [redis]
  · intro groupid v _ member
    rw [members]
    exact member
  · intro groupid v _ member
    rw [members] at member
    exact Or.inl member

/-- A request that sends, stores and publishes nothing acts for the user if it spares
the others. -/
theorem acts_silently (spares : Spares u (Loads request js w) w after)
    (rows : OwnRows u (Storable request u js w) w.mysql.database after.mysql.database)
    (queue : after.node.failedQueue = w.node.failedQueue) (sent : after.sent = w.sent)
    (published : after.redis.store.published = w.redis.store.published) :
    ActsFor request u conn js w after := by
  refine ⟨spares, rows, ?_, ?_, Or.inl published⟩
  · intro message member
    rw [queue] at member
    exact Or.inl member
  · intro output member
    simp [NodeRuns.replies, sent] at member

/-- A request that changes nothing acts for anybody. -/
theorem acts_nothing : ActsFor request u conn js w w :=
  acts_silently request u conn js w w (spares_same u w w _ rfl rfl rfl) (ownRows_refl u _ _)
    rfl rfl rfl

/-- A logout acts for the user it names. -/
theorem acts_loginOut (named : js.int "id" = .ok u) :
    ActsFor .loginOut u conn js w (loginOut conn js w).2 := by
  obtain ⟨m, ended, kept⟩ := loginOut_runs conn js u w named
  rw [ended]
  refine acts_silently _ _ _ _ _ _ ?_ (ownRows_refl u _ _) rfl rfl kept.published
  refine ⟨?_, ?_, ?_, ?_, ?_⟩
  · intro v other
    exact (NodeRuns.leave_connOf u v w.node).trans (if_neg other)
  · exact fun key other _ => kept.entries key other
  · intro groupid member _
    rw [kept.entries (.groupMembers groupid) (by simp)]
  · intro groupid v other member
    exact (Node.mem_leaveGroups (w.node.forget u) groupid u v).mpr ⟨other, member⟩
  · intro groupid v _ member
    exact Or.inl ((Node.mem_leaveGroups (w.node.forget u) groupid u v).mp member).2

/-- A friend request acts for the user it names. -/
theorem acts_addFriend (named : js.int "id" = .ok u) :
    ActsFor .addFriend u conn js w (addFriend conn js w).2 := by
  rcases addFriend_ends conn js w with ⟨outcome, ended⟩ | ⟨userid, friendid, first, _, ended⟩
  · rw [ended]
    exact acts_nothing _ _ _ _ _
  · rw [named] at first
    cases first
    rw [ended]
    exact acts_silently _ _ _ _ _ _ (spares_same u _ _ _ rfl rfl rfl)
      (ownRows_run u _ w.mysql _ (friendInsert_own u _ friendid)) rfl rfl rfl

/-- Entering the user into a group spares the others. -/
theorem spares_join (loads : Int → Int → Prop) (groupid : Int) (mysql : Access) (m : RedisAccess)
    (keys : RedisAccess.Kept (· = .groupMembers groupid) w.redis m)
    (sets : SameMembers u w.redis m) :
    Spares u loads w { w with node := join groupid u w.node, mysql := mysql, redis := m } := by
  refine ⟨fun _ _ => rfl, ?_, ?_, ?_, ?_⟩
  · exact fun key _ outside => keys.entries key (outside groupid)
  · exact fun other member notOwn => sets (.groupMembers other) member notOwn
  · intro other v _ member
    exact (Node.mem_addMember w.node groupid other u v).mpr (Or.inr member)
  · intro other v notOwn member
    rcases (Node.mem_addMember w.node groupid other u v).mp member with ⟨_, own⟩ | old
    · exact absurd own notOwn
    · exact Or.inl old

/-- A join acts for the user it names. -/
theorem acts_joinGroup (named : js.int "id" = .ok u) :
    ActsFor .joinGroup u conn js w (joinGroup conn js w).2 := by
  have sets := sameSets_joinGroup conn js u named w
  rcases joinGroup_ends conn js w with
    ⟨outcome, ended⟩ | ⟨userid, groupid, m, first, _, ended, keys⟩
  · rw [ended]
    exact acts_nothing _ _ _ _ _
  · rw [named] at first
    cases first
    rw [ended] at sets ⊢
    exact acts_silently _ _ _ _ _ _ (spares_join u w _ groupid _ m keys sets)
      (ownRows_run u _ w.mysql _ (joinGroup_own u _ groupid "normal")) rfl rfl keys.published

/-- The creation of a group acts for the user it names. -/
theorem acts_createGroup (named : js.int "id" = .ok u) :
    ActsFor .createGroup u conn js w (createGroup conn js w).2 := by
  have sets := sameSets_createGroup conn js u named w
  rcases createGroup_ends conn js w with
    ⟨outcome, ended⟩ | ⟨userid, groupname, groupdesc, m, first, _, _, ended, keys⟩
  · rw [ended]
    exact acts_nothing _ _ _ _ _
  · rw [named] at first
    cases first
    rw [ended] at sets ⊢
    refine acts_silently _ _ _ _ _ _ (spares_join u w _ _ _ m keys sets) ?_ rfl rfl keys.published
    have created := ownRows_run u (Storable .createGroup u js w) w.mysql _
      (createGroup_own u _ { name := groupname, desc := groupdesc })
    have entered := joinGroup_own u (Storable .createGroup u js w)
      (createdBy u groupname groupdesc w.mysql).1 "creator"
    exact IsTrans.trans _ _ _ created (ownRows_run u _ _ _ entered)

/-- Publishing to the group spares everybody, whatever members the node has loaded. -/
theorem acts_publishing (groupid : Int) (node : Node) (mysql : Access)
    (grouped : js.int "groupid" = .ok groupid) (tables : Access.Kept w.mysql mysql)
    (connections : node.userConnMap = w.node.userConnMap)
    (queue : node.failedQueue = w.node.failedQueue)
    (keeps : ∀ other v, v ∈ w.node.members other → v ∈ node.members other)
    (adds : ∀ other v, v ∈ node.members other →
      v ∈ w.node.members other ∨ Loads .groupChat js w other v) :
    ActsFor .groupChat u conn js w { w with
      node := node
      mysql := mysql
      redis := (w.redis.run (RedisClient.publishGroupMessage groupid js)).2 } := by
  have published := RedisClient.publishGroupMessage_runs groupid js w.redis
  have entries := RedisClient.publishGroupMessage_entries groupid js w.redis
  refine ⟨⟨?_, ?_, ?_, ?_, ?_⟩, ?_, ?_, ?_, ?_⟩
  · intro v _
    change node.userConnMap.lookup v = _
    rw [connections]
    rfl
  · exact fun key _ _ => congrFun entries key
  · intro other member _
    rw [entries]
  · exact fun other v _ member => keeps other v member
  · exact fun other v _ member => adds other v member
  · change OwnRows u _ w.mysql.database mysql.database
    rw [tables.database]
    exact ownRows_refl u _ _
  · intro message member
    change message ∈ node.failedQueue at member
    rw [queue] at member
    exact Or.inl member
  · intro output member
    simp [NodeRuns.replies] at member
  · split at published
    · exact Or.inr ⟨rfl, groupid, grouped, published⟩
    · exact Or.inl published

/-- A group message loads members for a group without an entry, and is published. -/
theorem acts_groupChat (named : js.int "id" = .ok u) :
    ActsFor .groupChat u conn js w (groupChat conn js w).2 := by
  rcases groupChat_ends conn js w with
    ⟨outcome, ended⟩ | ⟨userid, groupid, mysql, _, first, grouped, ended, tables⟩
  · rw [ended]
    exact acts_nothing _ _ _ _ _
  · rw [named] at first
    cases first
    rw [ended]
    by_cases cached : w.node.Cached groupid
    · rw [if_pos cached]
      exact acts_publishing u conn js w groupid w.node mysql grouped tables rfl rfl
        (fun _ _ => id) (fun _ _ => Or.inl)
    · rw [if_neg cached]
      have members := Node.mem_addMembers
        (w.mysql.run (GroupModel.queryGroupUsers u groupid)).1 groupid
      refine acts_publishing u conn js w groupid _ mysql grouped tables
        (Node.addMembers_frame _ groupid w.node).1 (Node.addMembers_queue _ groupid w.node) ?_ ?_
      · exact fun other v member => (members other v w.node).mpr (Or.inr member)
      · intro other v member
        rcases (members other v w.node).mp member with ⟨rfl, loaded⟩ | old
        · exact Or.inr ⟨rfl, grouped, cached,
            GroupModel.queryGroupUsers_members w.mysql u other v loaded⟩
        · exact Or.inl old

/-- A listed recipient is a friend in the table. -/
theorem writes_of_listed (toId : Int) (addressed : Addressed js u toId) (listed : Lists w u toId) :
    Writes .oneChat u js w toId := by
  obtain ⟨user, found, rfl⟩ := listed
  exact ⟨rfl, addressed.directed, FriendModel.query_rows w.mysql u user found⟩

/-- What a private message stores is its own for its recipient. -/
theorem stores_oneChat (toId : Int) (addressed : Addressed js u toId) (listed : Lists w u toId) :
    Stores u (Storable .oneChat u js w) w (oneChat conn js w).2 := by
  have wanted : Storable .oneChat u js w (toId, js.dump) :=
    Or.inr ⟨writes_of_listed u js w toId addressed listed, rfl⟩
  have read := Access.kept_run w.mysql _ (FriendModel.query_reads u)
  have checked : Stores u (Storable .oneChat u js w) w
      { w with mysql := (w.mysql.run (FriendModel.query u)).2 } := by
    intro every
    change OwnRows u _ w.mysql.database (w.mysql.run (FriendModel.query u)).2.database ∧ _
    rw [read.database]
    exact ⟨ownRows_refl u _ _, every⟩
  rw [oneChat_listed conn js u toId w addressed listed]
  exact IsTrans.trans _ _ _ checked (stores_deliver u _ conn js toId wanted _)

/-- A private message that stores what is its own, and sends acknowledgements and
itself, acts for its sender. -/
theorem acts_sending (failedQueue : OfflineMessage.FailedQueue) (mysql : Access)
    (outputs : List Output)
    (rows : OwnRows u (Storable .oneChat u js w) w.mysql.database mysql.database)
    (waiting : ∀ message ∈ failedQueue, Storable .oneChat u js w message)
    (proper : ∀ output ∈ outputs, Acknowledges .oneChat conn output ∨
      (output.body = js ∧ ∃ v, Writes .oneChat u js w v ∧ w.node.connOf v = some output.conn)) :
    ActsFor .oneChat u conn js w { w with
      node := { w.node with failedQueue := failedQueue }
      mysql := mysql
      sent := w.sent ++ outputs } := by
  refine ⟨spares_same u w _ _ rfl rfl rfl, rows, waiting, ?_, Or.inl rfl⟩
  intro output member
  rw [NodeRuns.replies_append w _ outputs rfl] at member
  exact proper output member

/-- A private message that only answers its sender, or stores a message on the way, acts for
the user it names. -/
theorem acts_acknowledging (failedQueue : OfflineMessage.FailedQueue) (mysql : Access)
    (body : Json) (known : body ∈ [missingFields, noSuchFriend, sentMessage, storedMessage])
    (rows : OwnRows u (Storable .oneChat u js w) w.mysql.database mysql.database)
    (waiting : ∀ message ∈ failedQueue, Storable .oneChat u js w message) :
    ActsFor .oneChat u conn js w { w with
      node := { w.node with failedQueue := failedQueue }
      mysql := mysql
      sent := w.sent ++ [⟨conn, body, false⟩] } := by
  refine acts_sending u conn js w failedQueue mysql _ rows waiting ?_
  intro output member
  rw [List.mem_singleton.mp member]
  exact Or.inl ⟨rfl, rfl, known⟩

/-- A private message acts for the user it names. -/
theorem acts_oneChat (named : js.int "id" = .ok u) :
    ActsFor .oneChat u conn js w (oneChat conn js w).2 := by
  have own (id toId : Int) (addressed : Addressed js id toId) : id = u := by
    have sender := addressed.named
    rw [named] at sender
    cases sender
    rfl
  have stores (toId : Int) (addressed : Addressed js u toId) (listed : Lists w u toId) :=
    stores_oneChat u conn js w toId addressed listed
  have queued : ∀ message ∈ w.node.failedQueue, Storable .oneChat u js w message :=
    fun _ => Or.inl
  have ends := oneChat_ends conn js w
  generalize oneChat conn js w = result at ends stores ⊢
  cases ends with
  | malformed exception unread => exact acts_nothing _ _ _ _ _
  | silent empty => exact acts_nothing _ _ _ _ _
  | incomplete unread =>
    exact acts_acknowledging u conn js w _ w.mysql missingFields (by simp) (ownRows_refl u _ _)
      queued
  | stranger id toId addressed unlisted mysql kept =>
    have rows : OwnRows u (Storable .oneChat u js w) w.mysql.database mysql.database := by
      rw [kept.database]
      exact ownRows_refl u _ _
    exact acts_acknowledging u conn js w _ mysql noSuchFriend (by simp) rows queued
  | relayed id toId addressed listed mysql kept toConn connected =>
    obtain rfl := own id toId addressed
    have rows := (stores toId addressed listed queued).1
    refine acts_sending id conn js w _ mysql [_, _] rows queued ?_
    intro output member
    rcases List.mem_pair.mp member with rfl | rfl
    · exact Or.inl ⟨rfl, rfl, by simp⟩
    · exact Or.inr ⟨rfl, toId, writes_of_listed id js w toId addressed listed, connected⟩
  | stored id toId addressed listed absent failedQueue mysql =>
    obtain rfl := own id toId addressed
    obtain ⟨rows, waiting⟩ := stores toId addressed listed queued
    exact acts_acknowledging id conn js w failedQueue mysql storedMessage (by simp) rows waiting
  | hung id toId addressed listed absent mysql =>
    obtain rfl := own id toId addressed
    have rows := (stores toId addressed listed queued).1
    exact acts_silently _ _ _ _ _ _ (spares_same id w _ _ rfl rfl rfl) rows rfl rfl rfl

end Requests

/-- Whatever connection it arrives on, a request acts only for the user it names. -/
theorem acts_for_named (request : Request) (conn : Conn) (js : Json) (u : Int) (w : World)
    (acting : request ≠ .login ∧ request ≠ .reg) (named : js.int "id" = .ok u) :
    ActsFor request u conn js w (request.handler conn js w).2 := by
  cases request with
  | login => exact absurd rfl acting.1
  | reg => exact absurd rfl acting.2
  | loginOut => exact acts_loginOut u conn js w named
  | oneChat => exact acts_oneChat u conn js w named
  | addFriend => exact acts_addFriend u conn js w named
  | createGroup => exact acts_createGroup u conn js w named
  | joinGroup => exact acts_joinGroup u conn js w named
  | groupChat => exact acts_groupChat u conn js w named

/-!
## A stranger
-/

/-- No session, presence record, row or member set has changed, nothing was sent but
on the connection of the request, and nothing was stored or published. -/
structure Untouched (conn : Conn) (before after : World) : Prop where
  sessions : ∀ v, after.node.connOf v = before.node.connOf v
  entries : after.redis.store.entries = before.redis.store.entries
  rows : after.mysql.database = before.mysql.database
  members : ∀ groupid, after.node.members groupid = before.node.members groupid
  queue : after.node.failedQueue = before.node.failedQueue
  sent : ∀ output ∈ NodeRuns.replies before after, output.conn = conn
  published : after.redis.store.published = before.redis.store.published

/-- Users 1 and 2, of whom the first lists the second. -/
def twoFriends : Database :=
  { Database.empty with
    user := [⟨1, "ann", "a", "offline"⟩, ⟨2, "bob", "b", "offline"⟩]
    friend := [⟨1, 2⟩]
    nextUserId := 3 }

/-- Of the two only user 2 has logged in. -/
def bobPresent : World :=
  Runs.run NodeRuns.step (World.start "node-1" twoFriends Redis.empty)
    [.request .login ⟨"d"⟩ (loginRequest 2 "b") {}]

/-- A message to user 2 in the name of user 1. -/
def asAnn : Json :=
  .object [("id", .integer 1), ("msg", .string "hi"), ("msgid", .integer 6), ("to", .integer 2)]

/-- Ann's message to Bob, who is present, acts for her. -/
theorem acts_for_named_ann :
    (Request.oneChat ≠ .login ∧ Request.oneChat ≠ .reg) ∧ asAnn.int "id" = .ok 1 ∧
      ActsFor .oneChat 1 ⟨"x"⟩ asAnn bobPresent (oneChat ⟨"x"⟩ asAnn bobPresent).2 :=
  ⟨by decide, rfl, acts_for_named .oneChat ⟨"x"⟩ asAnn 1 bobPresent (by decide) rfl⟩

/-- Nobody has logged in on the connection, and its message reaches user 2. -/
theorem stranger_speaks : ¬ ∀ localNodeId database store events request conn js u faults,
    request ≠ .login ∧ request ≠ .reg → js.int "id" = .ok u →
    let before := Runs.run NodeRuns.step (World.start localNodeId database store) events
    before.node.connOf u ≠ some conn →
    Untouched conn before (NodeRuns.step before (.request request conn js faults)) := by
  intro untouched
  have untouched := untouched "node-1" twoFriends Redis.empty
    [.request .login ⟨"d"⟩ (loginRequest 2 "b") {}] .oneChat ⟨"x"⟩ asAnn 1 {} (by decide) rfl
    (by decide)
  have sent := untouched.sent ⟨⟨"d"⟩, asAnn, false⟩
    (List.mem_cons_of_mem _ (List.mem_singleton.mpr rfl))
  exact absurd sent (by decide)

end ClusterChat.ActingUser
