import ClusterChat.GroupRows
import ClusterChat.TableMoves

/-!
# One creator for every group

A group is created in two insertions: the row of the group, and the row that makes its
creator a member. A record kept beside the state notes, for each row a run adds to
`AllGroup`, the user whose request added it. `Sole` asks that each of these groups has
one row with the role of a creator and that it is that user's.

`founder_sole_iff` states for whole runs that this holds after every request exactly as
long as no creation stops between its two rows. The second insertion needs a connection
of its own, and the foreign key asks for a user that exists, which the first does not.

Nothing a request does changes the role of a member. Requests follow one another, on
whatever connections and with whatever faults; the schema enforces its keys.
-/

namespace ClusterChat.GroupCreator

open ChatService GroupRows TableMoves

/-- A request to create or to join a group. -/
inductive Event where
  | create (conn : Conn) (js : Json) (faults : Faults)
  | join (conn : Conn) (js : Json) (faults : Faults)

namespace Event

/-- The request of the event. -/
def js : Event → Json
  | .create _ js _ | .join _ js _ => js

/-- The world after the event. -/
def handled (w : World) : Event → World
  | .create conn js faults => (createGroup conn js (w.meet faults)).2
  | .join conn js faults => (joinGroup conn js (w.meet faults)).2

end Event

/-- A world, and the groups created so far with the users who created them. -/
structure State where
  world : World
  founders : List (Int × Int)

namespace State

/-- The tables of the state. -/
def tables (s : State) : Database := s.world.mysql.database

end State

/-- The groups whose rows were added, with the user the request names. -/
def foundedBy (js : Json) (before after : Database) : List (Int × Int) :=
  match js.int "id" with
  | .ok userid => (after.allGroup.drop before.allGroup.length).map (fun row => (row.id, userid))
  | .error _ => []

/-- The state after the event, with the founders it records. -/
def step (s : State) (event : Event) : State where
  world := event.handled s.world
  founders := s.founders ++
    foundedBy event.js s.tables (event.handled s.world).mysql.database

/-- A run begins before any group is created. -/
def begin (w : World) : State := ⟨w, []⟩

/-- The rows of the group with the role of a creator. -/
def creators (db : Database) (groupid : Int) : List GroupUserRow :=
  db.groupUser.filter (fun row => row.groupid = groupid ∧ row.grouprole = "creator")

/-- Every group that was created has one creator, the user who created it. -/
def Sole (s : State) : Prop :=
  ∀ groupid userid, (groupid, userid) ∈ s.founders →
    creators s.tables groupid = [⟨groupid, userid, "creator"⟩]

/-- The role of a member of a group. -/
def roleOf (db : Database) (groupid userid : Int) : Option String :=
  (db.groupUser.find? (fun row => row.groupid = groupid ∧ row.userid = userid)).map
    GroupUserRow.grouprole

/-- The event leaves every member the role it has. -/
def KeepsRoles (s : State) (event : Event) : Prop :=
  ∀ groupid userid role, roleOf s.tables groupid userid = some role →
    roleOf (step s event).tables groupid userid = some role

/-- A creation that inserts the row of the group reads its id back and inserts the row of
the creator. -/
def Whole (s : State) : Event → Prop
  | .create _ js faults => ∀ userid groupname groupdesc,
      js.int "id" = .ok userid → js.str "groupname" = .ok groupname →
      js.str "groupdesc" = .ok groupdesc →
      Founds (s.world.meet faults).mysql groupname groupdesc →
      Completes (s.world.meet faults).mysql userid
  | .join _ _ _ => True

/-!
## Steps
-/

/-- What a request comes to: no row of a group is added and at most one normal member, or
the row of a group alone, or with the row of its creator. -/
inductive Ends (s : State) (event : Event) : Prop
  | silent (rows : (step s event).tables = s.tables)
      (founders : (step s event).founders = s.founders) (whole : Whole s event)
  | joined (groupid userid : Int)
      (rows : (step s event).tables = enrolled s.tables groupid userid "normal")
      (founders : (step s event).founders = s.founders) (whole : Whole s event)
  | orphaned (conn : Connection) (userid : Int) (groupname groupdesc : String)
      (rows : (step s event).tables = founded s.tables conn groupname groupdesc)
      (founders : (step s event).founders = s.founders ++ [(s.tables.nextGroupId, userid)])
      (broken : ¬ Whole s event)
  | created (conn : Connection) (userid : Int) (groupname groupdesc : String)
      (rows : (step s event).tables = enrolled (founded s.tables conn groupname groupdesc)
        s.tables.nextGroupId userid "creator")
      (founders : (step s event).founders = s.founders ++ [(s.tables.nextGroupId, userid)])
      (whole : Whole s event)

/-- Without a new row of a group nobody is noted. -/
theorem founders_same (s : State) (event : Event)
    (same : (step s event).tables.allGroup = s.tables.allGroup) :
    (step s event).founders = s.founders := by
  change s.founders ++ foundedBy event.js s.tables (step s event).tables = s.founders
  unfold foundedBy
  rw [same, List.drop_length]
  cases event.js.int "id" <;> exact List.append_nil s.founders

/-- The row of a new group is noted for the user the request names. -/
theorem founders_founded (s : State) (event : Event) (userid : Int) (conn : Connection)
    (groupname groupdesc : String) (named : event.js.int "id" = .ok userid)
    (rows : (step s event).tables.allGroup =
      (founded s.tables conn groupname groupdesc).allGroup) :
    (step s event).founders = s.founders ++ [(s.tables.nextGroupId, userid)] := by
  change s.founders ++ foundedBy event.js s.tables (step s event).tables = _
  unfold foundedBy
  rw [named, rows, founded]
  simp

/-- A creation ends in one of these ways. -/
theorem create_ends (s : State) (conn : Conn) (js : Json) (faults : Faults)
    (keys : s.tables.Keys) : Ends s (.create conn js faults) := by
  rcases Json.given_three_or_malformed (js.int "id") (js.str "groupname") (js.str "groupdesc") with
    ⟨userid, groupname, groupdesc, named, titled, described⟩ | malformed
  · have tables : (step s (.create conn js faults)).tables =
        (createdBy userid groupname groupdesc (s.world.meet faults).mysql).2.database := by
      change (createGroup conn js (s.world.meet faults)).2.mysql.database = _
      rw [createGroup_enters conn js userid groupname groupdesc _ named titled described]
      rfl
    have whole : Whole s (.create conn js faults) ↔
        (Founds (s.world.meet faults).mysql groupname groupdesc →
          Completes (s.world.meet faults).mysql userid) := by
      simp [Whole, named, titled, described]
    rcases (createdBy_ends (s.world.meet faults).mysql keys userid groupname groupdesc).2 with
      ⟨unfounded, rows⟩ | ⟨connection, founds, ⟨lost, rows⟩ | ⟨completes, rows⟩⟩
    · rw [rows] at tables
      exact .silent tables (founders_same s _ (congrArg Database.allGroup tables))
        (whole.mpr fun founds => absurd founds unfounded)
    · rw [rows] at tables
      have noted := founders_founded s (.create conn js faults) userid connection groupname
        groupdesc named (by rw [tables]; rfl)
      exact .orphaned connection userid groupname groupdesc tables noted
        fun held => lost (whole.mp held founds)
    · rw [rows] at tables
      have noted := founders_founded s (.create conn js faults) userid connection groupname
        groupdesc named (by rw [tables]; rfl)
      exact .created connection userid groupname groupdesc tables noted
        (whole.mpr fun _ => completes)
  · obtain ⟨outcome, ended⟩ := createGroup_malformed conn js (s.world.meet faults) malformed
    have rows : (step s (.create conn js faults)).tables = s.tables := by
      change (createGroup conn js (s.world.meet faults)).2.mysql.database = _
      rw [ended]
      rfl
    exact .silent rows (founders_same s _ (congrArg Database.allGroup rows))
      fun userid groupname groupdesc named titled described =>
        absurd described (malformed userid groupname groupdesc named titled)

/-- So does a join. -/
theorem join_ends (s : State) (conn : Conn) (js : Json) (faults : Faults) :
    Ends s (.join conn js faults) := by
  rcases Json.given_or_malformed (js.int "id") (js.int "groupid") with
    ⟨userid, groupid, named, grouped⟩ | unread
  · have tables : (step s (.join conn js faults)).tables = ((s.world.meet faults).mysql.run
        (GroupModel.joinGroup userid groupid "normal")).2.database := by
      change (joinGroup conn js (s.world.meet faults)).2.mysql.database = _
      rw [joinGroup_enters conn js userid groupid _ named grouped]
      rfl
    rcases joinGroup_leaves (s.world.meet faults).mysql userid groupid "normal" rfl with
      ⟨_, rows⟩ | ⟨_, rows⟩
    · rw [rows] at tables
      exact .joined groupid userid tables (founders_same s _ (by rw [tables]; rfl)) trivial
    · rw [rows] at tables
      exact .silent tables (founders_same s _ (congrArg Database.allGroup tables)) trivial
  · obtain ⟨outcome, ended⟩ := joinGroup_malformed conn js (s.world.meet faults) unread
    have rows : (step s (.join conn js faults)).tables = s.tables := by
      change (joinGroup conn js (s.world.meet faults)).2.mysql.database = _
      rw [ended]
      rfl
    exact .silent rows (founders_same s _ (congrArg Database.allGroup rows)) trivial

/-- So does every event. -/
theorem step_ends (s : State) (event : Event) (keys : s.tables.Keys) : Ends s event := by
  cases event with
  | create conn js faults => exact create_ends s conn js faults keys
  | join conn js faults => exact join_ends s conn js faults

/-!
## Roles
-/

/-- A normal member is no creator. -/
theorem creators_normal (db : Database) (groupid userid other : Int) :
    creators (enrolled db groupid userid "normal") other = creators db other := by
  simp [creators, enrolled]

/-- A creator's row adds a creator to its group. -/
theorem creators_creator (db : Database) (groupid userid other : Int) :
    creators (enrolled db groupid userid "creator") other =
      creators db other ++ if other = groupid then [⟨groupid, userid, "creator"⟩] else [] := by
  by_cases own : other = groupid
  · simp [creators, enrolled, own]
  · simp [creators, enrolled, own, Ne.symm own]

/-- A group that is still to be created has no creator. -/
theorem creators_unused (db : Database) (keys : db.Keys) : creators db db.nextGroupId = [] := by
  refine List.filter_eq_nil_iff.mpr ?_
  intro row stored own
  have same : row.groupid = db.nextGroupId := (of_decide_eq_true own).1
  have exists_ : db.hasGroup row.groupid = true := keys.memberGroups row stored
  rw [hasGroup_unused db keys row.groupid (Or.inr same)] at exists_
  cases exists_

/-- A row added at the end changes no role. -/
theorem roleOf_enrolled (db : Database) (groupid userid other id : Int) (added role : String)
    (held : roleOf db other id = some role) :
    roleOf (enrolled db groupid userid added) other id = some role := by
  unfold roleOf at held ⊢
  obtain ⟨row, found, named⟩ := Option.map_eq_some_iff.mp held
  rw [enrolled, List.find?_append, found]
  exact congrArg some named

/-- No request changes the role of a member. -/
theorem keepsRoles_step (s : State) (event : Event) (keys : s.tables.Keys) :
    KeepsRoles s event := by
  intro groupid userid role held
  cases step_ends s event keys with
  | silent rows founders whole =>
    rw [rows]
    exact held
  | joined other id rows founders whole =>
    rw [rows]
    exact roleOf_enrolled s.tables other id groupid userid "normal" role held
  | orphaned conn id groupname groupdesc rows founders broken =>
    rw [rows]
    exact held
  | created conn id groupname groupdesc rows founders whole =>
    rw [rows]
    exact roleOf_enrolled (founded s.tables conn groupname groupdesc) s.tables.nextGroupId id
      groupid userid "creator" role held

/-!
## Runs
-/

/-- The tables obey the schema, and the groups that were created exist. -/
structure Tracked (s : State) : Prop where
  keys : s.tables.Keys
  groups : ∀ entry ∈ s.founders, s.tables.hasGroup entry.1 = true

/-- Every event keeps the keys. -/
theorem keys_step (s : State) (event : Event) (keys : s.tables.Keys) :
    (step s event).tables.Keys := by
  cases event with
  | create conn js faults =>
    exact (moved_createGroup Enlarged enlarged_update conn js (s.world.meet faults)).keys keys
  | join conn js faults =>
    exact (moved_joinGroup Enlarged enlarged_update conn js (s.world.meet faults)).keys keys

/-- The groups there were are still there, with the new one. -/
theorem hasGroup_old (db : Database) (conn : Connection) (groupname groupdesc : String)
    (groupid : Int) (present : db.hasGroup groupid = true) :
    (founded db conn groupname groupdesc).hasGroup groupid = true := by
  simp only [Database.hasGroup, founded, List.any_append, Bool.or_eq_true] at present ⊢
  exact Or.inl present

/-- A new group is noted with its row. -/
theorem groups_noted (s : State) (tracked : Tracked s) (conn : Connection) (userid : Int)
    (groupname groupdesc : String) :
    ∀ entry ∈ s.founders ++ [(s.tables.nextGroupId, userid)],
      (founded s.tables conn groupname groupdesc).hasGroup entry.1 = true := by
  intro entry member
  rcases List.mem_append.mp member with old | new
  · exact hasGroup_old s.tables conn groupname groupdesc entry.1 (tracked.groups entry old)
  · rw [List.mem_singleton.mp new]
    exact hasGroup_founded s.tables conn groupname groupdesc

/-- Every event keeps track of the founders. -/
theorem tracked_step (s : State) (event : Event) (tracked : Tracked s) :
    Tracked (step s event) := by
  refine ⟨keys_step s event tracked.keys, ?_⟩
  cases step_ends s event tracked.keys with
  | silent rows founders whole =>
    rw [rows, founders]
    exact tracked.groups
  | joined groupid userid rows founders whole =>
    rw [rows, founders]
    exact tracked.groups
  | orphaned conn userid groupname groupdesc rows founders broken =>
    rw [rows, founders]
    exact groups_noted s tracked conn userid groupname groupdesc
  | created conn userid groupname groupdesc rows founders whole =>
    rw [rows, founders]
    exact groups_noted s tracked conn userid groupname groupdesc

/-- A group that was created is none that is still to be created. -/
theorem noted_ne (s : State) (tracked : Tracked s) (groupid userid : Int)
    (noted : (groupid, userid) ∈ s.founders) : groupid ≠ s.tables.nextGroupId := by
  rintro rfl
  have present : s.tables.hasGroup s.tables.nextGroupId = true := tracked.groups _ noted
  rw [hasGroup_unused s.tables tracked.keys _ (Or.inr rfl)] at present
  cases present

/-- Groups that have one creator keep having one, and a new one gets it, exactly when the
event is whole. -/
theorem sole_step_iff (s : State) (event : Event) (tracked : Tracked s) (sole : Sole s) :
    Sole (step s event) ↔ Whole s event := by
  cases step_ends s event tracked.keys with
  | silent rows founders whole =>
    refine iff_of_true ?_ whole
    rw [Sole, rows, founders]
    exact sole
  | joined groupid userid rows founders whole =>
    refine iff_of_true ?_ whole
    intro other id noted
    rw [founders] at noted
    rw [rows, creators_normal]
    exact sole other id noted
  | orphaned conn userid groupname groupdesc rows founders broken =>
    refine iff_of_false ?_ broken
    intro soleAfter
    have created := soleAfter s.tables.nextGroupId userid (by simp [founders])
    have none : creators (step s event).tables s.tables.nextGroupId = [] := by
      rw [rows]
      exact creators_unused s.tables tracked.keys
    rw [none] at created
    cases created
  | created conn userid groupname groupdesc rows founders whole =>
    refine iff_of_true ?_ whole
    intro other id noted
    rw [founders] at noted
    rw [rows, creators_creator]
    have before : creators (founded s.tables conn groupname groupdesc) other =
        creators s.tables other := rfl
    rw [before]
    rcases List.mem_append.mp noted with old | new
    · rw [if_neg (noted_ne s tracked other id old), List.append_nil]
      exact sole other id old
    · cases List.mem_singleton.mp new
      rw [if_pos rfl, creators_unused s.tables tracked.keys]
      rfl

/-- From tables that obey the schema, every group the run has created has one creator
after each request, the user who created it, and no request changes a role, in exactly
the runs in which every creation that inserts the row of a group inserts the row of its
creator too. -/
theorem founder_sole_iff (w : World) (keys : w.mysql.database.Keys) (events : List Event) :
    Runs.Always step Sole (begin w) events ∧ Runs.Guarded step KeepsRoles (begin w) events ↔
      Runs.Guarded step Whole (begin w) events := by
  have start : Tracked (begin w) := ⟨keys, fun _ member => absurd member List.not_mem_nil⟩
  have holds : Sole (begin w) := fun _ _ member => absurd member List.not_mem_nil
  have roles : Runs.Guarded step KeepsRoles (begin w) events :=
    Runs.guarded_of_invariant step Tracked KeepsRoles tracked_step
      (fun s event tracked => keepsRoles_step s event tracked.keys) (begin w) events start
  rw [and_iff_left roles]
  exact Runs.always_iff_guarded step Sole Tracked Whole tracked_step sole_step_iff (begin w)
    events start holds

/-- A world without users, and the request of user 1 to create a group in it. -/
def unpeopled : World := World.start "node-1" Database.empty Redis.empty

/-- The example: user 1, who has no row, creates a group. -/
def opening : List Event :=
  [.create ⟨"c"⟩ (.object [("groupdesc", .string ""), ("groupname", .string "club"),
    ("id", .integer 1), ("msgid", .integer 8)]) {}]

/-- A creation whose founder's row the tables refuse. -/
theorem founder_sole_iff_opening :
    Runs.Always step Sole (begin unpeopled) opening ∧
        Runs.Guarded step KeepsRoles (begin unpeopled) opening ↔
      Runs.Guarded step Whole (begin unpeopled) opening :=
  founder_sole_iff unpeopled Database.keys_empty opening

/-- A user without an account creates a group that has no creator. -/
theorem founder_missing : ¬ ∀ w : World, w.mysql.database.Keys → ∀ events,
    Runs.Always step Sole (begin w) events ∧
      Runs.Guarded step KeepsRoles (begin w) events := by
  intro sole
  have final := Runs.always_end step _ _ _ (sole unpeopled Database.keys_empty opening).1
  have noted : (Runs.run step (begin unpeopled) opening).founders = [(1, 1)] := by
    decide +kernel
  have none : creators (Runs.run step (begin unpeopled) opening).tables 1 = [] := by
    decide +kernel
  have created := final 1 1 (by rw [noted]; exact List.mem_singleton_self _)
  rw [none] at created
  cases created

end ClusterChat.GroupCreator
