import Mathlib.Data.List.Nodup

/-!
# The MySQL tables and the statements the server issues

The tables are those of `init_chat.sql`, each a list of rows in insertion order.
A statement of the server is one constructor with its parameters; an update is
rejected, leaving every table as it was, when it breaks a primary, unique or
foreign key, a column size or an enumeration. The `CHECK` of the `Friend` table
is not enforced: the MySQL version named in the README parses and ignores it.

Three things MySQL does are left out. Its collation also takes names that differ only
in case for one name; such a refusal is one of the exceptions a connection may throw.
It cuts spaces off the end of a value that is too long with them, where the value is
refused here. And an `INSERT` that is refused can use up a key.

`Keys` collects what the schema promises of a database. Every accepted update
keeps it, so it may be assumed of any database the server has only reached
through its own statements.

Row order without `ORDER BY` is MySQL's choice. No result here depends on it
beyond the multiset of rows a query returns.
-/

namespace ClusterChat

/-- The identity of a server connection, which owns its `LAST_INSERT_ID()`. -/
abbrev Connection := Nat

/-- `sql::SQLException`. Its text and code are only logged. -/
inductive SqlException where
  | raised
deriving DecidableEq

/-- A row of `User`. -/
structure UserRow where
  id : Int
  name : String
  password : String
  state : String
deriving DecidableEq

/-- A row of `Friend`. -/
structure FriendRow where
  userid : Int
  friendid : Int
deriving DecidableEq

/-- A row of `AllGroup`. -/
structure AllGroupRow where
  id : Int
  groupname : String
  groupdesc : String
deriving DecidableEq

/-- A row of `GroupUser`. -/
structure GroupUserRow where
  groupid : Int
  userid : Int
  grouprole : String
deriving DecidableEq

/-- A row of `OfflineMessage`, whose own key nothing reads. -/
structure OfflineMessageRow where
  userid : Int
  message : String
deriving DecidableEq

/-- The five tables, the next value of the two `AUTO_INCREMENT` keys that are
read back, and the last inserted key of each connection. -/
structure Database where
  user : List UserRow
  friend : List FriendRow
  allGroup : List AllGroupRow
  groupUser : List GroupUserRow
  offlineMessage : List OfflineMessageRow
  nextUserId : Int
  nextGroupId : Int
  lastInsertId : Connection → Int

/-- A database as `init_chat.sql` creates it. -/
def Database.empty : Database := ⟨[], [], [], [], [], 1, 1, fun _ => 0⟩

/-- The statements that change a table. -/
inductive Update where
  | insertUser (name password state : String)
  | updateUserState (state : String) (id : Int)
  | resetUserStates
  | insertFriend (userid friendid : Int)
  | insertAllGroup (groupname groupdesc : String)
  | insertGroupUser (groupid userid : Int) (grouprole : String)
  | insertOfflineMessage (userid : Int) (message : String)
  | deleteOfflineMessages (userid : Int)

/-- The statements that read. -/
inductive Query where
  | userById (id : Int)
  | friendsOf (userid : Int)
  | lastInsertId
  | groupsOf (userid : Int)
  | usersOfGroup (groupid : Int)
  | otherUsersOfGroup (groupid userid : Int)
  | offlineMessagesOf (userid : Int)

/-- The columns a query returns. -/
def Query.Row : Query → Type
  | .userById _ | .friendsOf _ => UserRow
  | .lastInsertId | .otherUsersOfGroup _ _ => Int
  | .groupsOf _ => AllGroupRow
  | .usersOfGroup _ => UserRow × String
  | .offlineMessagesOf _ => String

namespace Database

/-- `User` has a row of this id. -/
def hasUser (db : Database) (id : Int) : Bool := db.user.any (fun row => row.id = id)

/-- `AllGroup` has a row of this id. -/
def hasGroup (db : Database) (id : Int) : Bool := db.allGroup.any (fun row => row.id = id)

/-- `grouprole` has a row of the group `groupid` for the user `userid`. -/
def hasMember (db : Database) (groupid userid : Int) : Bool :=
  db.groupUser.any (fun row => row.groupid = groupid ∧ row.userid = userid)

/-- The values of the column `state`. -/
def validState (state : String) : Bool := state = "online" ∨ state = "offline"

/-- The values of the column `grouprole`. -/
def validRole (role : String) : Bool := role = "creator" ∨ role = "normal"

/-- Apply an accepted update. A rejected one leaves no database behind. -/
def update (db : Database) (conn : Connection) : Update → Except SqlException Database
  | .insertUser name password state =>
      if db.user.any (fun row => row.name = name) ∨ 50 < name.length ∨ 100 < password.length ∨
          validState state = false then .error .raised
      else .ok { db with
        user := db.user ++ [⟨db.nextUserId, name, password, state⟩]
        nextUserId := db.nextUserId + 1
        lastInsertId := fun other => if other = conn then db.nextUserId else db.lastInsertId other }
  | .updateUserState state id =>
      if validState state = false then .error .raised
      else .ok { db with
        user := db.user.map (fun row => if row.id = id then { row with state } else row) }
  | .resetUserStates =>
      .ok { db with user := db.user.map (fun row =>
        if row.state = "online" then { row with state := "offline" } else row) }
  | .insertFriend userid friendid =>
      if ⟨userid, friendid⟩ ∈ db.friend ∨ db.hasUser userid = false ∨
          db.hasUser friendid = false then .error .raised
      else .ok { db with friend := db.friend ++ [⟨userid, friendid⟩] }
  | .insertAllGroup groupname groupdesc =>
      if db.allGroup.any (fun row => row.groupname = groupname) ∨ 50 < groupname.length ∨
          200 < groupdesc.length then .error .raised
      else .ok { db with
        allGroup := db.allGroup ++ [⟨db.nextGroupId, groupname, groupdesc⟩]
        nextGroupId := db.nextGroupId + 1
        lastInsertId := fun other =>
          if other = conn then db.nextGroupId else db.lastInsertId other }
  | .insertGroupUser groupid userid grouprole =>
      if db.hasMember groupid userid ∨ db.hasGroup groupid = false ∨ db.hasUser userid = false ∨
          validRole grouprole = false then .error .raised
      else .ok { db with groupUser := db.groupUser ++ [⟨groupid, userid, grouprole⟩] }
  | .insertOfflineMessage userid message =>
      if db.hasUser userid = false ∨ 500 < message.length then .error .raised
      else .ok { db with offlineMessage := db.offlineMessage ++ [⟨userid, message⟩] }
  | .deleteOfflineMessages userid =>
      .ok { db with offlineMessage := db.offlineMessage.filter (fun row => row.userid ≠ userid) }

/-- The database after an attempted update. A rejected one changes nothing. -/
def apply (db : Database) (conn : Connection) (statement : Update) : Database :=
  match db.update conn statement with
  | .ok next => next
  | .error _ => db

/-- The rows a query returns. -/
def select (db : Database) (conn : Connection) : (query : Query) → List query.Row
  | .userById id => db.user.filter (fun row => row.id = id)
  | .friendsOf userid =>
      (db.friend.filter (fun row => row.userid = userid)).flatMap
        (fun row => db.user.filter (fun user => user.id = row.friendid))
  | .lastInsertId => [db.lastInsertId conn]
  | .groupsOf userid =>
      (db.groupUser.filter (fun row => row.userid = userid)).flatMap
        (fun row => db.allGroup.filter (fun group => group.id = row.groupid))
  | .usersOfGroup groupid =>
      (db.groupUser.filter (fun row => row.groupid = groupid)).flatMap
        (fun row => (db.user.filter (fun user => user.id = row.userid)).map
          (fun user => (user, row.grouprole)))
  | .otherUsersOfGroup groupid userid =>
      (db.groupUser.filter (fun row => row.groupid = groupid ∧ row.userid ≠ userid)).map
        (fun row => row.userid)
  | .offlineMessagesOf userid =>
      (db.offlineMessage.filter (fun row => row.userid = userid)).map (fun row => row.message)

/-- What the primary, unique and foreign keys of the schema promise, and that
the two counters are ahead of the keys they have handed out and began above
zero. -/
structure Keys (db : Database) : Prop where
  userIds : (db.user.map UserRow.id).Nodup
  userNames : (db.user.map UserRow.name).Nodup
  friends : db.friend.Nodup
  friendUsers : ∀ row ∈ db.friend, db.hasUser row.userid ∧ db.hasUser row.friendid
  groupIds : (db.allGroup.map AllGroupRow.id).Nodup
  groupNames : (db.allGroup.map AllGroupRow.groupname).Nodup
  members : (db.groupUser.map (fun row => (row.groupid, row.userid))).Nodup
  memberGroups : ∀ row ∈ db.groupUser, db.hasGroup row.groupid
  memberUsers : ∀ row ∈ db.groupUser, db.hasUser row.userid
  offlineUsers : ∀ row ∈ db.offlineMessage, db.hasUser row.userid
  freshUser : ∀ row ∈ db.user, row.id < db.nextUserId
  freshGroup : ∀ row ∈ db.allGroup, row.id < db.nextGroupId
  positiveGroup : 0 < db.nextGroupId ∧ ∀ row ∈ db.allGroup, 0 < row.id

/-- The test looks through all rows. -/
theorem hasUser_iff (db : Database) (id : Int) :
    db.hasUser id = true ↔ ∃ row ∈ db.user, row.id = id := by
  simp [hasUser]

/-- So does the one for groups. -/
theorem hasGroup_iff (db : Database) (id : Int) :
    db.hasGroup id = true ↔ ∃ row ∈ db.allGroup, row.id = id := by
  simp [hasGroup]

/-- So does the one for members. -/
theorem hasMember_iff (db : Database) (groupid userid : Int) :
    db.hasMember groupid userid = true ↔
      ∃ row ∈ db.groupUser, row.groupid = groupid ∧ row.userid = userid := by
  simp [hasMember]

/-- Empty tables keep all keys. -/
theorem keys_empty : Database.empty.Keys := by
  constructor <;> decide

/-- What holds of every old row and of the appended one holds of every row. -/
theorem forall_snoc {Row : Type} {holds : Row → Prop} {rows : List Row} {row : Row}
    (stored : ∀ old ∈ rows, holds old) (new : holds row) :
    ∀ other ∈ rows ++ [row], holds other :=
  List.forall_mem_append.mpr ⟨stored, List.forall_mem_singleton.mpr new⟩

/-- Appending a row whose key no old row has keeps the keys distinct. -/
theorem nodup_snoc_absent {Row Value : Type} (key : Row → Value) (rows : List Row) (row : Row)
    (distinct : (rows.map key).Nodup) (absent : ∀ old ∈ rows, key old ≠ key row) :
    ((rows ++ [row]).map key).Nodup := by
  rw [List.map_append, List.nodup_append]
  refine ⟨distinct, by simp, ?_⟩
  intro first member last single same
  obtain ⟨old, stored, rfl⟩ := List.mem_map.mp member
  have isRow : last = key row := by simpa using single
  exact absent old stored (same.trans isRow)

/-- Appending a key above every old one keeps the keys distinct. -/
theorem nodup_snoc_fresh {Row : Type} (key : Row → Int) (rows : List Row) (row : Row)
    (distinct : (rows.map key).Nodup) (fresh : ∀ old ∈ rows, key old < key row) :
    ((rows ++ [row]).map key).Nodup := by
  apply nodup_snoc_absent key rows row distinct
  intro old stored
  have below : key old < key row := fresh old stored
  omega

/-- Rewriting states changes no user's identity. -/
theorem hasUser_map (db : Database) (change : UserRow → UserRow)
    (same : ∀ row, (change row).id = row.id) (id : Int) :
    ({ db with user := db.user.map change } : Database).hasUser id = db.hasUser id := by
  simp only [hasUser, List.any_map]
  congr 1
  funext row
  simp [same row]

/-- Changing users without their ids and names keeps the keys. -/
theorem Keys.mapUsers {db : Database} (keys : db.Keys) (change : UserRow → UserRow)
    (ids : ∀ row, (change row).id = row.id) (names : ∀ row, (change row).name = row.name) :
    ({ db with user := db.user.map change } : Database).Keys := by
  have sameIds : (db.user.map change).map UserRow.id = db.user.map UserRow.id := by
    simp [Function.comp_def, ids]
  have sameNames : (db.user.map change).map UserRow.name = db.user.map UserRow.name := by
    simp [Function.comp_def, names]
  exact {
    userIds := sameIds ▸ keys.userIds
    userNames := sameNames ▸ keys.userNames
    friends := keys.friends
    friendUsers := fun row member => by
      simpa only [hasUser_map db change ids] using keys.friendUsers row member
    groupIds := keys.groupIds
    groupNames := keys.groupNames
    members := keys.members
    memberGroups := keys.memberGroups
    memberUsers := fun row member => by
      simpa only [hasUser_map db change ids] using keys.memberUsers row member
    offlineUsers := fun row member => by
      simpa only [hasUser_map db change ids] using keys.offlineUsers row member
    freshUser := fun row member => by
      obtain ⟨old, stored, rfl⟩ := List.mem_map.mp member
      exact (ids old).symm ▸ keys.freshUser old stored
    freshGroup := keys.freshGroup
    positiveGroup := keys.positiveGroup }

/-- A user that is accepted has a new id and a new name. -/
theorem Keys.insertUser {db next : Database} (keys : db.Keys) (conn : Connection)
    (name password state : String)
    (accepted : db.update conn (.insertUser name password state) = .ok next) : next.Keys := by
  simp only [update] at accepted
  split at accepted
  · cases accepted
  · rename_i valid
    cases accepted
    simp only [not_or, List.any_eq_true, decide_eq_true_eq, not_exists, not_and] at valid
    have kept : ∀ id, db.hasUser id = true →
        (db.user ++ [(⟨db.nextUserId, name, password, state⟩ : UserRow)]).any
          (fun row => row.id = id) = true := by
      intro id present
      rw [List.any_append, Bool.or_eq_true]
      exact Or.inl present
    exact {
      userIds := nodup_snoc_fresh UserRow.id _ _ keys.userIds keys.freshUser
      userNames := nodup_snoc_absent UserRow.name _ _ keys.userNames valid.1
      friends := keys.friends
      friendUsers := fun row member =>
        ⟨kept _ (keys.friendUsers row member).1, kept _ (keys.friendUsers row member).2⟩
      groupIds := keys.groupIds
      groupNames := keys.groupNames
      members := keys.members
      memberGroups := keys.memberGroups
      memberUsers := fun row member => kept _ (keys.memberUsers row member)
      offlineUsers := fun row member => kept _ (keys.offlineUsers row member)
      freshUser := forall_snoc
        (fun row stored => Int.lt_trans (keys.freshUser row stored) (Int.lt_succ _))
        (Int.lt_succ _)
      freshGroup := keys.freshGroup
      positiveGroup := keys.positiveGroup }

/-- So has a group. -/
theorem Keys.insertAllGroup {db next : Database} (keys : db.Keys) (conn : Connection)
    (groupname groupdesc : String)
    (accepted : db.update conn (.insertAllGroup groupname groupdesc) = .ok next) : next.Keys := by
  simp only [update] at accepted
  split at accepted
  · cases accepted
  · rename_i valid
    cases accepted
    simp only [not_or, List.any_eq_true, decide_eq_true_eq, not_exists, not_and] at valid
    exact { keys with
      groupIds := nodup_snoc_fresh AllGroupRow.id _ _ keys.groupIds keys.freshGroup
      groupNames := nodup_snoc_absent AllGroupRow.groupname _ _ keys.groupNames valid.1
      memberGroups := fun row member => by
        have present : db.hasGroup row.groupid = true := keys.memberGroups row member
        simp only [hasGroup, List.any_append, Bool.or_eq_true]
        exact Or.inl present
      freshGroup := forall_snoc
        (fun row stored => Int.lt_trans (keys.freshGroup row stored) (Int.lt_succ _))
        (Int.lt_succ _)
      positiveGroup := by
        obtain ⟨positive, stored⟩ := keys.positiveGroup
        exact ⟨by simp only; omega, forall_snoc stored positive⟩ }

/-- A friendship that is accepted is new and between users. -/
theorem Keys.insertFriend {db next : Database} (keys : db.Keys) (conn : Connection)
    (userid friendid : Int)
    (accepted : db.update conn (.insertFriend userid friendid) = .ok next) : next.Keys := by
  simp only [update] at accepted
  split at accepted
  · cases accepted
  · rename_i valid
    cases accepted
    simp only [not_or, Bool.not_eq_false] at valid
    exact { keys with
      friends := by
        rw [List.nodup_append]
        refine ⟨keys.friends, by simp, ?_⟩
        intro row member other single same
        have isNew : other = ⟨userid, friendid⟩ := by simpa using single
        exact valid.1 (isNew ▸ same ▸ member)
      friendUsers := forall_snoc keys.friendUsers valid.2 }

/-- A member that is accepted is new, a user, and in a group. -/
theorem Keys.insertGroupUser {db next : Database} (keys : db.Keys) (conn : Connection)
    (groupid userid : Int) (grouprole : String)
    (accepted : db.update conn (.insertGroupUser groupid userid grouprole) = .ok next) :
    next.Keys := by
  simp only [update] at accepted
  split at accepted
  · cases accepted
  · rename_i valid
    cases accepted
    simp only [not_or, Bool.not_eq_false, hasMember_iff, not_exists, not_and] at valid
    exact { keys with
      members := nodup_snoc_absent (fun row => (row.groupid, row.userid)) _ _ keys.members
        (fun old stored same => valid.1 old stored (Prod.mk.inj same).1 (Prod.mk.inj same).2)
      memberGroups := forall_snoc keys.memberGroups valid.2.1
      memberUsers := forall_snoc keys.memberUsers valid.2.2.1 }

/-- A message that is accepted is for a user. -/
theorem Keys.insertOfflineMessage {db next : Database} (keys : db.Keys) (conn : Connection)
    (userid : Int) (message : String)
    (accepted : db.update conn (.insertOfflineMessage userid message) = .ok next) :
    next.Keys := by
  simp only [update] at accepted
  split at accepted
  · cases accepted
  · rename_i valid
    cases accepted
    simp only [not_or, Bool.not_eq_false] at valid
    exact { keys with
      offlineUsers := forall_snoc keys.offlineUsers valid.1 }

/-- Every accepted statement of the server keeps the keys of the schema. -/
theorem Keys.update {db next : Database} (keys : db.Keys) (conn : Connection)
    (statement : Update) (accepted : db.update conn statement = .ok next) : next.Keys := by
  cases statement with
  | insertUser name password state => exact keys.insertUser conn name password state accepted
  | updateUserState state id =>
    simp only [Database.update] at accepted
    split at accepted
    · cases accepted
    · cases accepted
      exact keys.mapUsers _ (fun row => by split <;> rfl) (fun row => by split <;> rfl)
  | resetUserStates =>
    cases accepted
    exact keys.mapUsers _ (fun row => by split <;> rfl) (fun row => by split <;> rfl)
  | insertFriend userid friendid => exact keys.insertFriend conn userid friendid accepted
  | insertAllGroup groupname groupdesc =>
    exact keys.insertAllGroup conn groupname groupdesc accepted
  | insertGroupUser groupid userid grouprole =>
    exact keys.insertGroupUser conn groupid userid grouprole accepted
  | insertOfflineMessage userid message =>
    exact keys.insertOfflineMessage conn userid message accepted
  | deleteOfflineMessages userid =>
    cases accepted
    exact { keys with
      offlineUsers := fun row member => keys.offlineUsers row (List.mem_filter.mp member).1 }

/-- Attempted updates keep the keys as well. -/
theorem Keys.apply {db : Database} (keys : db.Keys) (conn : Connection) (statement : Update) :
    (db.apply conn statement).Keys := by
  unfold Database.apply
  cases accepted : db.update conn statement with
  | ok next => exact keys.update conn statement accepted
  | error exception => exact keys

end Database

end ClusterChat
