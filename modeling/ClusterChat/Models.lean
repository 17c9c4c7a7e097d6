import ClusterChat.Jdbc

/-!
# The model classes over JDBC

`UserModel`, `FriendModel`, `GroupModel` and `OfflineMessage`, function by
function. All but two share the shape of `borrowing`. `FriendModel::query` never
gives its connection back. `OfflineMessage::insert` acquires a connection for
each attempt, catches inside the attempt and gives the connection back after it.

Two C++ details decide results. `UserModel::query` returns `false` when it has no
connection, which the one-argument constructor turns into a user of id 0. The
second loop of `GroupModel::queryGroups` iterates over copies, so the members it
reads are set on groups that are then discarded.

The retry loop of `OfflineMessage::insert` counts only failed acquisitions, so it
need not end. It is given a number of iterations and reports running out of them.
-/

namespace ClusterChat

/-- `User`, with the defaults of its constructor. -/
structure User where
  id : Int := -1
  name : String := ""
  password : String := ""
  state : String := "offline"
deriving DecidableEq

/-- The implicit conversion `return false;` performs in a function returning
`User`: `false` is the integer 0 and becomes the id. -/
def User.ofBool (value : Bool) : User := { id := if value then 1 else 0 }

/-- `GroupUser`: a user with a role in a group. -/
structure GroupUser extends User where
  role : String := ""
deriving DecidableEq

/-- `Group`, with the defaults of its constructor. -/
structure Group where
  id : Int := -1
  name : String := ""
  desc : String := ""
  users : List GroupUser := []
deriving DecidableEq

/-- `Group::setUsers`, which replaces the member list as a whole. -/
def Group.setUsers (group : Group) (users : List GroupUser) : Group := { group with users }

namespace UserModel

/-- `UserModel::insert`. The generated id is not read back. -/
def insert (user : User) : Jdbc Bool :=
  borrowing false false fun conn => do
    prepareStatement conn
    executeUpdate conn (.insertUser user.name user.password user.state)
    return true

/-- The user object the first row of the result gives. Without a row it stays
the default one. -/
def ofRows : List UserRow → User
  | row :: _ => ⟨row.id, row.name, row.password, row.state⟩
  | [] => {}

/-- `UserModel::query`, by primary key. -/
def query (id : Int) : Jdbc User :=
  borrowing (User.ofBool false) {} fun conn => do
    prepareStatement conn
    let res ← executeQuery conn (.userById id)
    return ofRows res

/-- `UserModel::updateState`. -/
def updateState (user : User) : Jdbc Unit :=
  borrowing () () fun conn => do
    prepareStatement conn
    executeUpdate conn (.updateUserState user.state user.id)

/-- `UserModel::resetState`: one statement over all users. -/
def resetState : Jdbc Unit :=
  borrowing () () fun conn => do
    prepareStatement conn
    executeUpdate conn .resetUserStates

end UserModel

namespace FriendModel

/-- The row is stored once, the smaller id first. -/
def insert (userid friendid : Int) : Jdbc Unit :=
  borrowing () () fun conn => do
    prepareStatement conn
    if userid < friendid then executeUpdate conn (.insertFriend userid friendid)
    else executeUpdate conn (.insertFriend friendid userid)

/-- The columns `a.id, a.name, a.state` of a row; the password is not selected. -/
def ofRow (row : UserRow) : User := { id := row.id, name := row.name, state := row.state }

/-- The statements of `FriendModel::query`, without the connection handling around them. -/
def statements (userid : Int) (conn : Connection) : Statements (List User) := do
  prepareStatement conn
  let res ← executeQuery conn (.friendsOf userid)
  return res.map ofRow

/-- The connection is not released on any path. -/
def query (userid : Int) : Jdbc (List User) := do
  match ← getConnection with
  | none => return []
  | some conn =>
      match ← (statements userid conn).run with
      | .error _ => return []
      | .ok v => return v

end FriendModel

namespace GroupModel

/-- The id is set only if both statements succeed; the row may have been inserted
all the same when the second one throws. -/
def createGroup (group : Group) : Jdbc Group :=
  borrowing group group fun conn => do
    prepareStatement conn
    executeUpdate conn (.insertAllGroup group.name group.desc)
    prepareStatement conn
    let res ← executeQuery conn .lastInsertId
    match res with
    | last :: _ => return { group with id := last }
    | [] => return group

/-- `GroupModel::joinGroup`. An exception is logged and swallowed, so the caller never
learns of it. -/
def joinGroup (userid groupid : Int) (role : String) : Jdbc Unit :=
  borrowing () () fun conn => do
    prepareStatement conn
    executeUpdate conn (.insertGroupUser groupid userid role)

/-- The group a row of `AllGroup` gives, without members. -/
def ofRow (row : AllGroupRow) : Group :=
  { id := row.id, name := row.groupname, desc := row.groupdesc }

/-- The member a row of the join gives; the password is not selected. -/
def memberOfRow (row : UserRow × String) : GroupUser :=
  { id := row.1.id, name := row.1.name, state := row.1.state, role := row.2 }

/-- One iteration of the loop over `vGroup`: `it` is a copy of the group. -/
def readMembers (conn : Connection) (it : Group) : Statements Group := do
  let res ← executeQuery conn (.usersOfGroup it.id)
  return it.setUsers (res.map memberOfRow)

/-- The loop over `vGroup`. The copy an iteration fills is dropped at its end. -/
def readAllMembers (conn : Connection) : List Group → Statements Unit
  | [] => return ()
  | group :: rest => do
      let _it ← readMembers conn group
      readAllMembers conn rest

/-- The groups are returned as the first query filled them. -/
def queryGroups (userid : Int) : Jdbc (List Group) :=
  borrowing [] [] fun conn => do
    prepareStatement conn
    let res ← executeQuery conn (.groupsOf userid)
    let vGroup := res.map ofRow
    readAllMembers conn vGroup
    return vGroup

/-- `GroupModel::queryGroupUsers`: the members of the group other than the user. -/
def queryGroupUsers (userid groupid : Int) : Jdbc (List Int) :=
  borrowing [] [] fun conn => do
    prepareStatement conn
    executeQuery conn (.otherUsersOfGroup groupid userid)

end GroupModel

namespace OfflineMessage

/-- `failedQueue_`, front first. -/
abbrev FailedQueue := List (Int × String)

/-- The statements of one attempt of `OfflineMessage::insert`. -/
def insertRow (conn : Connection) (item : Int × String) : Statements Unit := do
  prepareStatement conn
  executeUpdate conn (.insertOfflineMessage item.1 item.2)

/-- The drain loop: an item leaves the queue once its row is inserted. The queue
that is left comes back together with whether the loop reached its end. -/
def drain (conn : Connection) : FailedQueue → Jdbc (FailedQueue × Bool)
  | [] => return ([], true)
  | item :: rest => do
      match ← (insertRow conn item).run with
      | .error _ => return (item :: rest, false)
      | .ok _ => drain conn rest

/-- The `try` block of one attempt, with both `catch` clauses: the queue it
leaves, and `success`. -/
def attempt (conn : Connection) (userId : Int) (message : String) (failedQueue : FailedQueue) :
    Jdbc (FailedQueue × Bool) := do
  match ← drain conn failedQueue with
  | (failedQueue, false) => return (failedQueue, false)
  | (failedQueue, true) =>
      match ← (insertRow conn (userId, message)).run with
      | .error _ => return (failedQueue, false)
      | .ok _ => return (failedQueue, true)

/-- `maxRetries` of `OfflineMessage::insert`. -/
def maxRetries : Nat := 3

/-- The retry loop. `retryCount` grows only when no connection was available. -/
def insertLoop (userId : Int) (message : String) :
    Nat → Nat → Bool → FailedQueue → Jdbc (Option (FailedQueue × Bool))
  | iterations, retryCount, success, failedQueue =>
      if retryCount < maxRetries ∧ success = false then
        match iterations with
        | 0 => return none
        | iterations + 1 => do
            match ← getConnection with
            | none => insertLoop userId message iterations (retryCount + 1) success failedQueue
            | some conn =>
                let (failedQueue, success) ← attempt conn userId message failedQueue
                releaseConnection conn
                insertLoop userId message iterations retryCount success failedQueue
      else return some (failedQueue, success)

/-- The queue afterwards and the value returned, or nothing, not even the queue, if the loop
is still running after the given number of iterations. -/
def insert (iterations : Nat) (userId : Int) (message : String) (failedQueue : FailedQueue) :
    Jdbc (Option (FailedQueue × Bool)) := do
  match ← insertLoop userId message iterations 0 false failedQueue with
  | none => return none
  | some (failedQueue, true) => return some (failedQueue, true)
  | some (failedQueue, false) => return some (failedQueue ++ [(userId, message)], false)

/-- `OfflineMessage::remove`: all messages of the user, whoever wrote them. -/
def remove (userId : Int) : Jdbc Bool :=
  borrowing false false fun conn => do
    prepareStatement conn
    executeUpdate conn (.deleteOfflineMessages userId)
    return true

/-- `OfflineMessage::query`. The statement has no `ORDER BY`. -/
def query (userId : Int) : Jdbc (List String) :=
  borrowing [] [] fun conn => do
    prepareStatement conn
    executeQuery conn (.offlineMessagesOf userId)

end OfflineMessage

/-!
## Undisturbed results

With a connection for every acquisition and no statement made to throw, each
function returns what its query selects, or attempts its update and returns.
-/

open Access

/-- Undisturbed, `UserModel::query` reads the row of the id and changes nothing. -/
theorem UserModel.query_undisturbed (db : Database) (id : Int) :
    (undisturbed db).run (UserModel.query id) =
      (UserModel.ofRows (db.select 0 (.userById id)), undisturbed db) := rfl

/-- Undisturbed, `FriendModel::query` reads the friends' rows and changes nothing. -/
theorem FriendModel.query_undisturbed (db : Database) (userid : Int) :
    (undisturbed db).run (FriendModel.query userid) =
      ((db.select 0 (.friendsOf userid)).map FriendModel.ofRow, undisturbed db) := rfl

/-- Undisturbed, `queryGroupUsers` reads the other members and changes nothing. -/
theorem GroupModel.queryGroupUsers_undisturbed (db : Database) (userid groupid : Int) :
    (undisturbed db).run (GroupModel.queryGroupUsers userid groupid) =
      (db.select 0 (.otherUsersOfGroup groupid userid), undisturbed db) := rfl

/-- A single update inside the common shape leaves the attempted database. -/
theorem borrowing_update_undisturbed (db : Database) (statement : Update) :
    (undisturbed db).run (borrowing () () fun conn => do
      prepareStatement conn
      executeUpdate conn statement) = ((), undisturbed (db.apply 0 statement)) := by
  simp only [Access.run, run_borrowing, undisturbed_getConnection, Program.run_try_bind,
    run_prepareStatement, undisturbed_prepareStatement, run_executeUpdate,
    undisturbed_executeUpdate]
  cases db.update 0 statement <;> rfl

/-- Undisturbed, `joinGroup` performs its one statement. -/
theorem GroupModel.joinGroup_undisturbed (db : Database) (userid groupid : Int) (role : String) :
    (undisturbed db).run (GroupModel.joinGroup userid groupid role) =
      ((), undisturbed (db.apply 0 (.insertGroupUser groupid userid role))) :=
  borrowing_update_undisturbed db (.insertGroupUser groupid userid role)

/-- A single update inside the common shape takes effect and returns, or leaves
the tables and returns a default. -/
theorem run_borrowing_update {α : Type} (m : Access) (refused caught value : α)
    (statement : Update) :
    let ended := m.run (borrowing refused caught fun conn => do
      prepareStatement conn
      executeUpdate conn statement
      return value)
    ((ended.1 = refused ∨ ended.1 = caught) ∧ ended.2.database = m.database) ∨
      ended.1 = value ∧ ∃ conn, m.database.update conn statement = .ok ended.2.database := by
  simp only [Access.run, run_borrowing]
  cases granted : answer .getConnection m with
  | mk grant left =>
    have same : left.database = m.database := by
      rw [answer] at granted
      cases granted
      rfl
    cases grant with
    | none => exact Or.inl ⟨Or.inl rfl, same⟩
    | some conn =>
      simp only [Program.run_try_bind, run_prepareStatement, run_executeUpdate]
      rcases left.prepareStatement_ends conn with
        ⟨exception, next, prepared, kept⟩ | ⟨next, prepared, kept⟩
      · rw [prepared]
        exact Or.inl ⟨Or.inr rfl, kept.trans same⟩
      · rw [prepared]
        simp only
        rcases next.executeUpdate_ends conn statement with
          ⟨exception, last, executed, unchanged⟩ | ⟨last, executed, accepted⟩
        · rw [executed]
          exact Or.inl ⟨Or.inr rfl, unchanged.trans (kept.trans same)⟩
        · rw [executed]
          rw [kept, same] at accepted
          exact Or.inr ⟨rfl, conn, accepted⟩

/-- An insertion reports whether the row is in the table. -/
theorem UserModel.insert_ends (m : Access) (user : User) :
    ((m.run (UserModel.insert user)).1 = false ∧
      (m.run (UserModel.insert user)).2.database = m.database) ∨
    ((m.run (UserModel.insert user)).1 = true ∧ ∃ conn,
      m.database.update conn (.insertUser user.name user.password user.state) =
        .ok (m.run (UserModel.insert user)).2.database) := by
  rcases run_borrowing_update m false false true
    (.insertUser user.name user.password user.state) with ⟨refused | caught, kept⟩ | inserted
  · exact Or.inl ⟨refused, kept⟩
  · exact Or.inl ⟨caught, kept⟩
  · exact Or.inr inserted

/-- The row that records a friendship, whichever way round it is requested. -/
def FriendModel.rowOf (userid friendid : Int) : FriendRow :=
  if userid < friendid then ⟨userid, friendid⟩ else ⟨friendid, userid⟩

/-- Undisturbed, `FriendModel::insert` performs its statement on the ordered pair. -/
theorem FriendModel.insert_undisturbed (db : Database) (userid friendid : Int) :
    (undisturbed db).run (FriendModel.insert userid friendid) =
      ((), undisturbed (db.apply 0 (.insertFriend (FriendModel.rowOf userid friendid).userid
        (FriendModel.rowOf userid friendid).friendid))) := by
  unfold FriendModel.insert FriendModel.rowOf
  split
  · exact borrowing_update_undisturbed db (.insertFriend userid friendid)
  · exact borrowing_update_undisturbed db (.insertFriend friendid userid)

/-- The second loop of `queryGroups` has no effect. -/
theorem GroupModel.readAllMembers_undisturbed (db : Database) (conn : Connection)
    (vGroup : List Group) :
    (GroupModel.readAllMembers conn vGroup).run.run answer (undisturbed db) =
      (.ok (), undisturbed db) := by
  induction vGroup with
  | nil => rfl
  | cons group rest inductionHypothesis =>
    simp only [readAllMembers, readMembers, Program.run_try_bind, run_executeQuery,
      undisturbed_executeQuery, Program.run_try_pure, inductionHypothesis]

/-- The groups carry no members: the copies that did are gone. -/
theorem GroupModel.queryGroups_undisturbed (db : Database) (userid : Int) :
    (undisturbed db).run (GroupModel.queryGroups userid) =
      ((db.select 0 (.groupsOf userid)).map GroupModel.ofRow, undisturbed db) := by
  simp only [Access.run, queryGroups, run_borrowing, undisturbed_getConnection,
    Program.run_try_bind, run_prepareStatement, undisturbed_prepareStatement, run_executeQuery,
    undisturbed_executeQuery, readAllMembers_undisturbed, Program.run_try_pure,
    undisturbed_releaseConnection]

/-- The group keeps its fields and receives the key of the row it inserted. A
rejected insertion leaves it as it was. -/
theorem GroupModel.createGroup_undisturbed (db : Database) (group : Group) :
    (undisturbed db).run (GroupModel.createGroup group) =
      (match db.update 0 (.insertAllGroup group.name group.desc) with
        | .ok _ => { group with id := db.nextGroupId }
        | .error _ => group,
        undisturbed (db.apply 0 (.insertAllGroup group.name group.desc))) := by
  simp only [Access.run, createGroup, run_borrowing, undisturbed_getConnection,
    Program.run_try_bind, run_prepareStatement, undisturbed_prepareStatement, run_executeUpdate,
    undisturbed_executeUpdate]
  unfold Database.apply
  simp only [Database.update]
  split_ifs <;> rfl

/-!
## What the queries leave alone and return
-/

/-- `UserModel::query` changes no row. -/
theorem UserModel.query_reads (id : Int) : ReadsOnly (UserModel.query id) :=
  readsOnly_borrowing _ _ _ (fun conn => Program.issues_try_bind _ _ _
    (readsOnly_prepareStatement conn) fun _ => Program.issues_try_bind _ _ _
      (readsOnly_executeQuery conn _) fun _ => trivial)

/-- Nor does `FriendModel::query`. -/
theorem FriendModel.query_reads (userid : Int) : ReadsOnly (FriendModel.query userid) := by
  refine Program.issues_bind _ _ _ (Program.issues_issue _ _ trivial) ?_
  intro grant
  cases grant with
  | none => exact trivial
  | some conn =>
    refine Program.issues_bind _ _ _ (Program.issues_try_bind _ _ _
      (readsOnly_prepareStatement conn) fun _ => Program.issues_try_bind _ _ _
        (readsOnly_executeQuery conn _) fun _ => trivial) ?_
    intro outcome
    cases outcome <;> exact trivial

/-- Nor does the loop that reads the members. -/
theorem GroupModel.readAllMembers_reads (conn : Connection) (vGroup : List Group) :
    ReadsOnly (GroupModel.readAllMembers conn vGroup).run := by
  induction vGroup with
  | nil => exact trivial
  | cons group rest inductionHypothesis =>
    refine Program.issues_try_bind _ _ _ ?_ (fun _ => inductionHypothesis)
    exact Program.issues_try_bind _ _ _ (readsOnly_executeQuery conn _) fun _ => trivial

/-- Nor does `queryGroups`, with that loop. -/
theorem GroupModel.queryGroups_reads (userid : Int) : ReadsOnly (GroupModel.queryGroups userid) :=
  readsOnly_borrowing _ _ _ (fun conn => Program.issues_try_bind _ _ _
    (readsOnly_prepareStatement conn) fun _ => Program.issues_try_bind _ _ _
      (readsOnly_executeQuery conn _) fun _ => Program.issues_try_bind _ _ _
        (GroupModel.readAllMembers_reads conn _) fun _ => trivial)

/-- A single query inside the common shape returns a default or what it selects. -/
theorem run_borrowing_query (m : Access) (query : Query) (refused caught : List query.Row) :
    let found := (m.run (borrowing refused caught fun conn => do
      prepareStatement conn
      executeQuery conn query)).1
    found = refused ∨ found = caught ∨ ∃ conn, found = m.database.select conn query := by
  simp only [Access.run, run_borrowing]
  cases granted : answer .getConnection m with
  | mk grant left =>
    have same : left.database = m.database := by
      rw [answer] at granted
      cases granted
      rfl
    cases grant with
    | none => exact Or.inl rfl
    | some conn =>
      simp only [Program.run_try_bind, run_prepareStatement, run_executeQuery]
      rcases left.prepareStatement_ends conn with
        ⟨exception, next, prepared, _⟩ | ⟨next, prepared, kept⟩
      · rw [prepared]
        exact Or.inr (Or.inl rfl)
      · rw [prepared]
        simp only
        rcases next.executeQuery_ends conn query with
          ⟨exception, last, executed, _⟩ | ⟨last, executed, _⟩
        · rw [executed]
          exact Or.inr (Or.inl rfl)
        · rw [executed, kept, same]
          exact Or.inr (Or.inr ⟨conn, rfl⟩)

/-- Every user found is the second of a row with the user asked for. -/
theorem FriendModel.query_rows (m : Access) (userid : Int) (user : User)
    (found : user ∈ (m.run (FriendModel.query userid)).1) :
    (⟨userid, user.id⟩ : FriendRow) ∈ m.database.friend := by
  rw [Access.run, FriendModel.query, Program.run_bind] at found
  change user ∈ ((match (answer .getConnection m).1 with
    | none => _ | some conn => _ : Jdbc (List User)).run answer
      (answer .getConnection m).2).1 at found
  have same : (answer .getConnection m).2.database = m.database := rfl
  rw [← same]
  generalize (answer .getConnection m).2 = next at found ⊢
  cases granted : (answer .getConnection m).1 with
  | none =>
    rw [granted] at found
    exact absurd found List.not_mem_nil
  | some conn =>
    rw [granted] at found
    simp only [Program.run_bind, FriendModel.statements, Program.run_try_bind,
      run_prepareStatement, run_executeQuery] at found
    rcases next.prepareStatement_ends conn with
      ⟨exception, left, prepared, _⟩ | ⟨left, prepared, kept⟩
    · rw [prepared] at found
      exact absurd found List.not_mem_nil
    · rw [prepared] at found
      simp only at found
      rcases left.executeQuery_ends conn (.friendsOf userid) with
        ⟨exception, last, executed, _⟩ | ⟨last, executed, _⟩
      · rw [executed] at found
        exact absurd found List.not_mem_nil
      · rw [executed, kept] at found
        have listed : user ∈ (next.database.select conn (.friendsOf userid)).map ofRow := found
        obtain ⟨row, chosen, rfl⟩ := List.mem_map.mp listed
        obtain ⟨friendship, selected, named⟩ := List.mem_flatMap.mp chosen
        obtain ⟨stored, own⟩ := List.mem_filter.mp selected
        have second : row.id = friendship.friendid := by
          simpa using (List.mem_filter.mp named).2
        have first : friendship.userid = userid := by simpa using own
        rw [← first]
        change (⟨friendship.userid, row.id⟩ : FriendRow) ∈ _
        rw [second]
        exact stored

/-- Every user found is another member of the group. -/
theorem GroupModel.queryGroupUsers_members (m : Access) (userid groupid id : Int)
    (found : id ∈ (m.run (GroupModel.queryGroupUsers userid groupid)).1) :
    m.database.hasMember groupid id = true := by
  rcases run_borrowing_query m (.otherUsersOfGroup groupid userid) [] [] with
    none | none | ⟨conn, selected⟩
  · exact absurd (none ▸ found) List.not_mem_nil
  · exact absurd (none ▸ found) List.not_mem_nil
  · have listed : id ∈ m.database.select conn (.otherUsersOfGroup groupid userid) :=
      selected ▸ found
    obtain ⟨row, member, rfl⟩ := List.mem_map.mp listed
    obtain ⟨stored, own⟩ := List.mem_filter.mp member
    have inGroup : row.groupid = groupid := (of_decide_eq_true own).1
    exact List.any_eq_true.mpr ⟨row, stored, by simp [inGroup]⟩

/-- `queryGroupUsers` changes no row. -/
theorem GroupModel.queryGroupUsers_reads (userid groupid : Int) :
    ReadsOnly (GroupModel.queryGroupUsers userid groupid) :=
  readsOnly_borrowing _ _ _ (fun conn => Program.issues_try_bind _ _ _
    (readsOnly_prepareStatement conn) fun _ => readsOnly_executeQuery conn _)

/-- No group that `queryGroups` returns carries a member, whatever throws. -/
theorem GroupModel.queryGroups_memberless (userid : Int) :
    Program.Yields (fun vGroup : List Group => ∀ group ∈ vGroup, group.users = [])
      (GroupModel.queryGroups userid) := by
  refine yields_borrowing _ _ _ _ (by simp) (by simp) ?_
  intro conn
  refine Program.yields_bind (fun _ => True) _ _ _ (Program.yields_any _) ?_
  rintro (exception | prepared) _
  · simp [ExceptT.bindCont, Program.Yields]
  refine Program.yields_bind (fun _ => True) _ _ _ (Program.yields_any _) ?_
  rintro (exception | res) _
  · simp [ExceptT.bindCont, Program.Yields]
  refine Program.yields_bind (fun _ => True) _ _ _ (Program.yields_any _) ?_
  rintro (exception | read) _
  · simp [ExceptT.bindCont, Program.Yields]
  rintro value returned group member
  cases returned
  obtain ⟨row, _, rfl⟩ := List.mem_map.mp member
  rfl

end ClusterChat
