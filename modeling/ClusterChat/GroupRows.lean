import ClusterChat.Requests

/-!
# What the group requests leave of the tables

A request about groups goes through one or two model functions, and each of them
swallows every failure. This module says exactly when a row is inserted: a connection
has to be found, no statement may be made to throw, and the tables have to accept the
row.

The creation of a group is two insertions on separately acquired connections. It has
three ends. The row of the group is refused, and the handler goes on with the group -1,
which no table has. The row is inserted and the creator's is not, because the new id is
not read back or because the second insertion fails. Or both rows are inserted.

The keys of the schema are assumed. Nothing is said here about the maps of a node.
-/

namespace ClusterChat.GroupRows

open ChatService

/-!
## Scripts
-/

/-- None of the next statements is made to throw. -/
def Smooth (count : Nat) (throws : List Bool) : Prop := true ∉ throws.take count

/-- The next function finds a connection, and none of its first statements is made to
throw. -/
structure Serves (count : Nat) (m : Access) : Prop where
  granted : m.grants.head? ≠ some none
  smooth : Smooth count m.throws

instance (count : Nat) (throws : List Bool) : Decidable (Smooth count throws) :=
  inferInstanceAs (Decidable (true ∉ throws.take count))

/-- One statement more is smooth if it is not made to throw. -/
theorem smooth_succ (count : Nat) (throws : List Bool) :
    Smooth (count + 1) throws ↔ throws.head? ≠ some true ∧ Smooth count throws.tail := by
  cases throws with
  | nil => simp [Smooth]
  | cons throw rest =>
    cases throw <;> simp [Smooth]

/-- Two parts are smooth together if both are. -/
theorem smooth_add (first second : Nat) (throws : List Bool) :
    Smooth (first + second) throws ↔ Smooth first throws ∧ Smooth second (throws.drop first) := by
  rw [Smooth, Smooth, Smooth, List.take_add, List.mem_append, not_or]

/-- A statement that is not made to throw is executed. -/
theorem attempt_smooth {α : Type} (m : Access)
    (execute : Database → Except SqlException (α × Database))
    (smooth : m.throws.head? ≠ some true) :
    m.attempt execute = match execute m.database with
      | .error exception => (.error exception, { m with throws := m.throws.tail })
      | .ok (value, database) => (.ok value, ⟨database, m.grants, m.throws.tail⟩) := by
  obtain ⟨database, grants, throws⟩ := m
  rcases throws with _ | ⟨_ | _, rest⟩
  · rfl
  · rfl
  · exact absurd rfl smooth

/-- A statement that is made to throw throws. -/
theorem attempt_thrown {α : Type} (m : Access)
    (execute : Database → Except SqlException (α × Database))
    (thrown : m.throws.head? = some true) :
    m.attempt execute = (.error .raised, { m with throws := m.throws.tail }) := by
  obtain ⟨database, grants, throws⟩ := m
  rcases throws with _ | ⟨_ | _, rest⟩
  · cases thrown
  · cases thrown
  · rfl

/-- A prepared update is executed when neither statement is made to throw. -/
theorem update_ends (m : Access) (conn : Connection) (statement : Update) :
    let ended := (prepareStatement conn >>= fun _ =>
      executeUpdate conn statement).run.run Access.answer m
    (∃ next, Smooth 2 m.throws ∧ m.database.update conn statement = .ok next ∧
      ended = (.ok (), ⟨next, m.grants, m.throws.drop 2⟩)) ∨
    (¬ (Smooth 2 m.throws ∧ ∃ next, m.database.update conn statement = .ok next) ∧
      ∃ exception left, ended = (.error exception, left) ∧ left.database = m.database) := by
  simp only [Program.run_try_bind, run_prepareStatement, run_executeUpdate]
  rw [smooth_succ, smooth_succ]
  by_cases prepared : m.throws.head? = some true
  · refine Or.inr ⟨fun both => both.1.1 prepared, .raised,
      { m with throws := m.throws.tail }, ?_, rfl⟩
    rw [Access.answer, attempt_thrown m _ prepared]
  · rw [Access.answer, attempt_smooth m _ prepared]
    simp only
    by_cases executed : m.throws.tail.head? = some true
    · refine Or.inr ⟨fun both => both.1.2.1 executed, .raised,
        { m with throws := m.throws.tail.tail }, ?_, rfl⟩
      rw [Access.answer, attempt_thrown _ _ executed]
    · rw [Access.answer, attempt_smooth _ _ executed]
      cases accepted : m.database.update conn statement with
      | error exception =>
        refine Or.inr ⟨?_, exception, _, rfl, rfl⟩
        rintro ⟨_, next, wrong⟩
        cases wrong
      | ok next =>
        refine Or.inl ⟨next, ⟨prepared, executed, by simp [Smooth]⟩, rfl, ?_⟩
        rw [← List.drop_one, ← List.drop_one, List.drop_drop]
        rfl

/-- A prepared query is executed when neither statement is made to throw. -/
theorem query_ends (m : Access) (conn : Connection) (query : Query) :
    let ended := (prepareStatement conn >>= fun _ =>
      executeQuery conn query).run.run Access.answer m
    (Smooth 2 m.throws ∧ ended = (.ok (m.database.select conn query),
      { m with throws := m.throws.drop 2 })) ∨
    (¬ Smooth 2 m.throws ∧
      ∃ exception left, ended = (.error exception, left) ∧ left.database = m.database) := by
  simp only [Program.run_try_bind, run_prepareStatement, run_executeQuery]
  rw [smooth_succ, smooth_succ]
  by_cases prepared : m.throws.head? = some true
  · refine Or.inr ⟨fun smooth => smooth.1 prepared, .raised,
      { m with throws := m.throws.tail }, ?_, rfl⟩
    rw [Access.answer, attempt_thrown m _ prepared]
  · rw [Access.answer, attempt_smooth m _ prepared]
    simp only
    by_cases executed : m.throws.tail.head? = some true
    · refine Or.inr ⟨fun smooth => smooth.2.1 executed, .raised,
        { m with throws := m.throws.tail.tail }, ?_, rfl⟩
      rw [Access.answer, attempt_thrown _ _ executed]
    · rw [Access.answer, attempt_smooth _ _ executed]
      refine Or.inl ⟨⟨prepared, executed, by simp [Smooth]⟩, ?_⟩
      rw [← List.drop_one, ← List.drop_one, List.drop_drop]

/-- The pool has no connection, or gives one and goes on in its script. -/
theorem getConnection_ends (m : Access) :
    (m.grants.head? = some none ∧ ∃ left, Access.answer .getConnection m = (none, left) ∧
      left.database = m.database) ∨
    (m.grants.head? ≠ some none ∧ ∃ conn, Access.answer .getConnection m =
      (some conn, { m with grants := m.grants.tail })) := by
  obtain ⟨database, grants, throws⟩ := m
  rcases grants with _ | ⟨_ | conn, rest⟩
  · exact Or.inr ⟨by simp, 0, rfl⟩
  · exact Or.inl ⟨rfl, _, rfl, rfl⟩
  · exact Or.inr ⟨by simp, conn, rfl⟩

/-!
## Rows
-/

/-- The tables accept a row of this group and user. -/
structure Admissible (db : Database) (groupid userid : Int) : Prop where
  vacant : db.hasMember groupid userid = false
  group : db.hasGroup groupid = true
  user : db.hasUser userid = true

/-- The tables with a row of this group and user. -/
def enrolled (db : Database) (groupid userid : Int) (role : String) : Database :=
  { db with groupUser := db.groupUser ++ [⟨groupid, userid, role⟩] }

/-- A row of a group and a user is inserted if and only if the tables admit it. -/
theorem update_insertGroupUser (db next : Database) (conn : Connection) (groupid userid : Int)
    (role : String) (valid : Database.validRole role = true) :
    db.update conn (.insertGroupUser groupid userid role) = .ok next ↔
      Admissible db groupid userid ∧ next = enrolled db groupid userid role := by
  simp only [Database.update]
  split
  · rename_i rejected
    refine iff_of_false (fun wrong => by cases wrong) ?_
    rintro ⟨⟨vacant, group, user⟩, _⟩
    simp [vacant, group, user, valid] at rejected
  · rename_i accepted
    simp only [not_or, Bool.not_eq_true, Bool.not_eq_false] at accepted
    constructor
    · intro same
      cases same
      exact ⟨⟨accepted.1, accepted.2.1, accepted.2.2.1⟩, rfl⟩
    · rintro ⟨_, rfl⟩
      rfl

/-- The tables accept a group of this name and description. -/
structure Free (db : Database) (groupname groupdesc : String) : Prop where
  unused : ∀ row ∈ db.allGroup, row.groupname ≠ groupname
  name : groupname.length ≤ 50
  desc : groupdesc.length ≤ 200

/-- The tables with a row of the new group, whose id this connection reads back. -/
def founded (db : Database) (conn : Connection) (groupname groupdesc : String) : Database :=
  { db with
    allGroup := db.allGroup ++ [⟨db.nextGroupId, groupname, groupdesc⟩]
    nextGroupId := db.nextGroupId + 1
    lastInsertId := fun other => if other = conn then db.nextGroupId else db.lastInsertId other }

/-- A group is inserted if and only if its name is free. -/
theorem update_insertAllGroup (db next : Database) (conn : Connection)
    (groupname groupdesc : String) :
    db.update conn (.insertAllGroup groupname groupdesc) = .ok next ↔
      Free db groupname groupdesc ∧ next = founded db conn groupname groupdesc := by
  simp only [Database.update]
  split
  · rename_i rejected
    refine iff_of_false (fun wrong => by cases wrong) ?_
    rintro ⟨⟨unused, name, desc⟩, _⟩
    rcases rejected with taken | long | long
    · obtain ⟨row, stored, same⟩ := List.any_eq_true.mp taken
      exact unused row stored (of_decide_eq_true same)
    · omega
    · omega
  · rename_i accepted
    simp only [not_or, List.any_eq_true, decide_eq_true_eq, not_exists, not_and] at accepted
    constructor
    · intro same
      cases same
      exact ⟨⟨accepted.1, not_lt.mp accepted.2.1, not_lt.mp accepted.2.2⟩, rfl⟩
    · rintro ⟨_, rfl⟩
      rfl

/-- No table that keeps its keys has the group of a failed creation, or one that is
still to be created. -/
theorem hasGroup_unused (db : Database) (keys : db.Keys) (groupid : Int)
    (unused : groupid = -1 ∨ groupid = db.nextGroupId) : db.hasGroup groupid = false := by
  rw [Bool.eq_false_iff]
  intro present
  obtain ⟨row, stored, rfl⟩ := (Database.hasGroup_iff db groupid).mp present
  have positive : 0 < row.id := keys.positiveGroup.2 row stored
  have below : row.id < db.nextGroupId := keys.freshGroup row stored
  omega

/-- Neither has members. -/
theorem hasMember_unused (db : Database) (keys : db.Keys) (groupid userid : Int)
    (unused : groupid = -1 ∨ groupid = db.nextGroupId) : db.hasMember groupid userid = false := by
  rw [Bool.eq_false_iff]
  intro present
  obtain ⟨row, stored, rfl, _⟩ := (Database.hasMember_iff db groupid userid).mp present
  have exists_ : db.hasGroup row.groupid = true := keys.memberGroups row stored
  rw [hasGroup_unused db keys row.groupid unused] at exists_
  cases exists_

/-!
## The model functions
-/

/-- The row of a member is inserted. -/
structure Enrols (m : Access) (groupid userid : Int) : Prop where
  serves : Serves 2 m
  admissible : Admissible m.database groupid userid

/-- Joining inserts the row if the connection and the statements serve it, and the script
goes on behind them. -/
theorem joinGroup_leaves (m : Access) (userid groupid : Int) (role : String)
    (valid : Database.validRole role = true) :
    let left := (m.run (GroupModel.joinGroup userid groupid role)).2
    (Enrols m groupid userid ∧ left.database = enrolled m.database groupid userid role) ∨
      (¬ Enrols m groupid userid ∧ left.database = m.database) := by
  simp only [Access.run, GroupModel.joinGroup, run_borrowing]
  rcases getConnection_ends m with ⟨refused, left, ended, same⟩ | ⟨granted, conn, ended⟩
  · rw [ended]
    exact Or.inr ⟨fun enrols => enrols.serves.granted refused, same⟩
  · rw [ended]
    simp only
    rcases update_ends { m with grants := m.grants.tail } conn
        (.insertGroupUser groupid userid role) with
      ⟨next, smooth, accepted, executed⟩ | ⟨rejected, exception, left, executed, same⟩
    · obtain ⟨admissible, rfl⟩ :=
        (update_insertGroupUser m.database next conn groupid userid role valid).mp accepted
      rw [executed]
      exact Or.inl ⟨⟨⟨granted, smooth⟩, admissible⟩, rfl⟩
    · rw [executed]
      refine Or.inr ⟨?_, same⟩
      rintro ⟨⟨_, smooth⟩, admissible⟩
      exact rejected ⟨smooth, _, (update_insertGroupUser m.database _ conn groupid userid role
        valid).mpr ⟨admissible, rfl⟩⟩

/-- The row of a new group is inserted. -/
structure Founds (m : Access) (groupname groupdesc : String) : Prop where
  serves : Serves 2 m
  free : Free m.database groupname groupdesc

/-- The insertion of a group has three ends: the row is refused, the new id is not read
back, or it is. -/
theorem createGroup_leaves (m : Access) (group : Group) :
    let ended := m.run (GroupModel.createGroup group)
    (¬ Founds m group.name group.desc ∧ ended.1 = group ∧ ended.2.database = m.database) ∨
    ∃ conn, Founds m group.name group.desc ∧
      ended.2.database = founded m.database conn group.name group.desc ∧
      ((¬ Smooth 2 (m.throws.drop 2) ∧ ended.1 = group) ∨
        (Smooth 2 (m.throws.drop 2) ∧ ended.1 = { group with id := m.database.nextGroupId } ∧
          ended.2.grants = m.grants.tail ∧ ended.2.throws = m.throws.drop 4)) := by
  simp only [Access.run, GroupModel.createGroup, run_borrowing]
  rcases getConnection_ends m with ⟨refused, left, acquired, same⟩ | ⟨granted, conn, acquired⟩
  · rw [acquired]
    exact Or.inl ⟨fun founds => founds.serves.granted refused, rfl, same⟩
  · rw [acquired]
    simp only
    rw [Program.run_try_assoc, Program.run_try_bind]
    rcases update_ends { m with grants := m.grants.tail } conn
        (.insertAllGroup group.name group.desc) with
      ⟨next, smooth, accepted, executed⟩ | ⟨rejected, exception, left, executed, same⟩
    · obtain ⟨free, rfl⟩ :=
        (update_insertAllGroup m.database next conn group.name group.desc).mp accepted
      rw [executed]
      simp only
      rw [Program.run_try_assoc, Program.run_try_bind]
      refine Or.inr ⟨conn, ⟨⟨granted, smooth⟩, free⟩, ?_⟩
      rcases query_ends ⟨founded m.database conn group.name group.desc, m.grants.tail,
          m.throws.drop 2⟩ conn .lastInsertId with
        ⟨read, selected⟩ | ⟨unread, exception, left, selected, same⟩
      · rw [selected]
        have last : (founded m.database conn group.name group.desc).lastInsertId conn =
            m.database.nextGroupId := if_pos rfl
        simp only [Database.select, last]
        refine ⟨rfl, Or.inr ⟨read, rfl, rfl, ?_⟩⟩
        exact List.drop_drop
      · rw [selected]
        exact ⟨same, Or.inl ⟨unread, rfl⟩⟩
    · rw [executed]
      refine Or.inl ⟨?_, rfl, same⟩
      rintro ⟨⟨_, smooth⟩, free⟩
      exact rejected ⟨smooth, _, (update_insertAllGroup m.database _ conn group.name
        group.desc).mpr ⟨free, rfl⟩⟩

/-!
## The creation of a group
-/

/-- A group of a new name keeps the keys. -/
theorem keys_founded (db : Database) (keys : db.Keys) (conn : Connection)
    (groupname groupdesc : String) (free : Free db groupname groupdesc) :
    (founded db conn groupname groupdesc).Keys :=
  keys.insertAllGroup conn groupname groupdesc
    ((update_insertAllGroup db _ conn groupname groupdesc).mpr ⟨free, rfl⟩)

/-- The group is there afterwards. -/
theorem hasGroup_founded (db : Database) (conn : Connection) (groupname groupdesc : String) :
    (founded db conn groupname groupdesc).hasGroup db.nextGroupId = true :=
  (Database.hasGroup_iff _ _).mpr
    ⟨_, List.mem_append_right _ (List.mem_singleton_self _), rfl⟩

/-- After the row of the group, the id is read back and the creator's row inserted. -/
structure Completes (m : Access) (userid : Int) : Prop where
  smooth : Smooth 4 (m.throws.drop 2)
  granted : m.grants.tail.head? ≠ some none
  user : m.database.hasUser userid = true

instance (count : Nat) (m : Access) : Decidable (Serves count m) :=
  decidable_of_iff (m.grants.head? ≠ some none ∧ Smooth count m.throws)
    ⟨fun both => ⟨both.1, both.2⟩, fun serves => ⟨serves.granted, serves.smooth⟩⟩

instance (db : Database) (groupname groupdesc : String) : Decidable (Free db groupname groupdesc) :=
  decidable_of_iff ((∀ row ∈ db.allGroup, row.groupname ≠ groupname) ∧ groupname.length ≤ 50 ∧
      groupdesc.length ≤ 200)
    ⟨fun all => ⟨all.1, all.2.1, all.2.2⟩, fun free => ⟨free.unused, free.name, free.desc⟩⟩

instance (m : Access) (groupname groupdesc : String) : Decidable (Founds m groupname groupdesc) :=
  decidable_of_iff (Serves 2 m ∧ Free m.database groupname groupdesc)
    ⟨fun both => ⟨both.1, both.2⟩, fun founds => ⟨founds.serves, founds.free⟩⟩

/-- The id a creation goes on with: the new one if it was read back. -/
def assigned (m : Access) (groupname groupdesc : String) : Int :=
  if Founds m groupname groupdesc ∧ Smooth 2 (m.throws.drop 2) then m.database.nextGroupId else -1

/-- The id a creation goes on with is no id of a group, or the new one. -/
theorem assigned_unused (m : Access) (groupname groupdesc : String) :
    assigned m groupname groupdesc = -1 ∨
      assigned m groupname groupdesc = m.database.nextGroupId := by
  unfold assigned
  split
  · exact Or.inr rfl
  · exact Or.inl rfl

/-- It is the new one if the creation completes. -/
theorem assigned_completes (m : Access) (userid : Int) (groupname groupdesc : String)
    (founds : Founds m groupname groupdesc) (completes : Completes m userid) :
    assigned m groupname groupdesc = m.database.nextGroupId :=
  if_pos ⟨founds, ((smooth_add 2 2 _).mp completes.smooth).1⟩

/-- What a creation leaves of the tables: nothing new, the row of the group alone, or
the rows of the group and of its creator. -/
theorem createdBy_ends (m : Access) (keys : m.database.Keys) (userid : Int)
    (groupname groupdesc : String) :
    let created := createdBy userid groupname groupdesc m
    created.1 = assigned m groupname groupdesc ∧
    ((¬ Founds m groupname groupdesc ∧ created.2.database = m.database) ∨
    ∃ conn, Founds m groupname groupdesc ∧
      ((¬ Completes m userid ∧
          created.2.database = founded m.database conn groupname groupdesc) ∨
        (Completes m userid ∧
          created.2.database = enrolled (founded m.database conn groupname groupdesc)
            m.database.nextGroupId userid "creator"))) := by
  have first := createGroup_leaves m { name := groupname, desc := groupdesc }
  simp only [createdBy]
  generalize m.run (GroupModel.createGroup { name := groupname, desc := groupdesc }) = ended
    at first ⊢
  have second := joinGroup_leaves ended.2 userid ended.1.id "creator" rfl
  simp only at first second
  rcases first with ⟨unfounded, same, tables⟩ | ⟨conn, founds, tables, lost | read⟩
  · have failed : ended.1.id = -1 := congrArg Group.id same
    have missing := hasGroup_unused m.database keys (-1) (Or.inl rfl)
    rw [failed] at second ⊢
    refine ⟨(if_neg fun both => unfounded both.1).symm, Or.inl ⟨unfounded, ?_⟩⟩
    rcases second with ⟨enrols, _⟩ | ⟨_, kept⟩
    · have group := enrols.admissible.group
      rw [tables, missing] at group
      cases group
    · exact kept.trans tables
  · obtain ⟨unread, same⟩ := lost
    have failed : ended.1.id = -1 := congrArg Group.id same
    have foundedKeys := keys_founded m.database keys conn groupname groupdesc founds.free
    have missing := hasGroup_unused _ foundedKeys (-1) (Or.inl rfl)
    rw [failed] at second ⊢
    refine ⟨(if_neg fun both => unread both.2).symm, Or.inr ⟨conn, founds, Or.inl ⟨?_, ?_⟩⟩⟩
    · exact fun completes => unread ((smooth_add 2 2 _).mp completes.smooth).1
    · rcases second with ⟨enrols, _⟩ | ⟨_, kept⟩
      · have group := enrols.admissible.group
        rw [tables, missing] at group
        cases group
      · exact kept.trans tables
  · obtain ⟨read, same, grants, throws⟩ := read
    have new : ended.1.id = m.database.nextGroupId := congrArg Group.id same
    rw [new] at second ⊢
    refine ⟨(if_pos ⟨founds, read⟩).symm, Or.inr ⟨conn, founds, ?_⟩⟩
    rcases second with ⟨enrols, added⟩ | ⟨refused, kept⟩
    · obtain ⟨⟨granted, smooth⟩, admissible⟩ := enrols
      rw [tables] at added admissible
      rw [grants] at granted
      rw [throws] at smooth
      refine Or.inr ⟨⟨(smooth_add 2 2 _).mpr ⟨read, ?_⟩, granted, admissible.user⟩, added⟩
      rw [List.drop_drop]
      exact smooth
    · refine Or.inl ⟨fun completes => refused ?_, kept.trans tables⟩
      have later := ((smooth_add 2 2 _).mp completes.smooth).2
      rw [List.drop_drop] at later
      refine ⟨⟨?_, ?_⟩, ?_⟩
      · rw [grants]
        exact completes.granted
      · rw [throws]
        exact later
      · rw [tables]
        exact ⟨hasMember_unused m.database keys _ userid (Or.inr rfl),
          hasGroup_founded m.database conn groupname groupdesc, completes.user⟩

end ClusterChat.GroupRows
