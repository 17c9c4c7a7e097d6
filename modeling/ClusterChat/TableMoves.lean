import ClusterChat.NodeRuns

/-!
# What the handlers do to the tables

A handler reaches the database through statements alone, and a statement that throws
leaves the tables as they were. So the tables move along every relation that accepted
updates move them along, whatever the handler is and whatever faults it meets.

Two uses of this rule are stated here: the keys of the schema are kept, and no row of a
member is ever lost. Which rows a handler adds is not said.
-/

namespace ClusterChat.TableMoves

open ChatService

section Moves

variable (relation : Database → Database → Prop) [Std.Refl relation] [IsTrans Database relation]
  (moves : ∀ db conn statement next, db.update conn statement = .ok next → relation db next)

/-- The relation on worlds that speaks of the tables alone. -/
def OnTables (before after : World) : Prop := relation before.mysql.database after.mysql.database

instance : Std.Refl (OnTables relation) := ⟨fun w => refl_of relation w.mysql.database⟩

instance : IsTrans World (OnTables relation) where
  trans := fun _ _ _ start rest => trans_of relation start rest

omit [IsTrans Database relation] in
/-- The same tables are related. -/
theorem onTables_same (before after : World)
    (same : after.mysql.database = before.mysql.database) : OnTables relation before after := by
  rw [OnTables, same]
  exact refl_of relation _

omit [IsTrans Database relation] in
/-- Sending to the members of a group moves no table. -/
theorem sent_fanOut (js : Json) (users : List Int) :
    Effect.Within (OnTables relation) (fanOut js users) := by
  intro w
  rw [fanOut_runs]
  exact onTables_same relation _ _ rfl

include moves

/-- Every request to the database moves the tables as its updates do. -/
theorem moved_run {α : Type} (m : Access) (program : Jdbc α) :
    relation m.database (m.run program).2.database := by
  refine Access.run_updatesOnly (fun _ => True) relation
    (fun db conn statement next _ accepted => moves db conn statement next accepted) program
    (Program.issues_any _ ?_ program) m
  intro command
  cases command <;> exact trivial

/-- A handler moves the tables by the requests it makes. -/
theorem moved_sql {α : Type} (program : Jdbc α) :
    Effect.Within (OnTables relation) (sql program) :=
  fun w => moved_run relation moves w.mysql program

/-- Storing a message moves them by the insertions of its retry loop. -/
theorem moved_insertOffline (userId : Int) (message : String) :
    Effect.Within (OnTables relation) (insertOffline userId message) := by
  intro w
  have moved := moved_run relation moves w.mysql
    (OfflineMessage.insert (w.mysql.disturbances + 1) userId message w.node.failedQueue)
  unfold insertOffline
  split <;> rename_i ended <;> rw [ended] at moved <;> exact moved

omit [IsTrans Database relation] in
/-- A registration moves them as its insertion does. -/
theorem moved_reg (conn : Conn) (js : Json) : Effect.Within (OnTables relation) (reg conn js) := by
  intro w
  have ends := reg_ends conn js w
  generalize reg conn js w = result at ends ⊢
  cases ends with
  | malformed exception unread => exact refl_of (OnTables relation) _
  | refused name password named given mysql kept => exact onTables_same relation _ _ kept
  | inserted name password named given mysql m accepted kept =>
    obtain ⟨connection, row⟩ := accepted
    exact moves _ connection _ _ row

/-- The creation of a group moves them as its insertions do. -/
theorem moved_createGroup (conn : Conn) (js : Json) :
    Effect.Within (OnTables relation) (createGroup conn js) := by
  intro w
  rcases createGroup_ends conn js w with
    ⟨outcome, ended⟩ | ⟨userid, groupname, groupdesc, m, _, _, _, ended, _⟩
  · rw [ended]
    exact refl_of (OnTables relation) _
  · rw [ended]
    exact trans_of relation (moved_run relation moves w.mysql _) (moved_run relation moves _ _)

/-- Joining a group moves them as its insertion does. -/
theorem moved_joinGroup (conn : Conn) (js : Json) :
    Effect.Within (OnTables relation) (joinGroup conn js) := by
  intro w
  rcases joinGroup_ends conn js w with ⟨outcome, ended⟩ | ⟨userid, groupid, m, _, _, ended, _⟩
  · rw [ended]
    exact refl_of (OnTables relation) _
  · rw [ended]
    exact moved_run relation moves w.mysql _

/-- Adding a friend moves them as its insertion does. -/
theorem moved_addFriend (conn : Conn) (js : Json) :
    Effect.Within (OnTables relation) (addFriend conn js) := by
  intro w
  rcases addFriend_ends conn js w with ⟨outcome, ended⟩ | ⟨userid, friendid, _, _, ended⟩
  · rw [ended]
    exact refl_of (OnTables relation) _
  · rw [ended]
    exact moved_run relation moves w.mysql _

/-- A private message moves them as storing it does. -/
theorem moved_oneChat (conn : Conn) (js : Json) :
    Effect.Within (OnTables relation) (oneChat conn js) :=
  within_oneChat (OnTables relation) (fun _ => moved_sql relation moves _)
    (moved_insertOffline relation moves) (fun _ _ _ _ => refl_of (OnTables relation) _) conn js

/-- So does a published message that reaches the callback. -/
theorem moved_inbox (js : Json) : Effect.Within (OnTables relation) (inboxCallback js) := by
  intro w
  rw [inboxCallback]
  split
  · refine Effect.within_bind _ _ _ (within_convert (OnTables relation) _) (fun toId => ?_) w
    refine Effect.within_bind _ _ _ (fun _ => refl_of (OnTables relation) _) fun node => ?_
    cases node.connOf toId with
    | some conn => exact fun _ => refl_of (OnTables relation) _
    | none =>
      refine Effect.within_bind _ _ _ (moved_insertOffline relation moves _ _) fun stored => ?_
      exact fun _ => refl_of (OnTables relation) _
  · split
    · refine Effect.within_bind _ _ _ (within_convert (OnTables relation) _) (fun groupid => ?_) w
      refine Effect.within_bind _ _ _ (fun _ => refl_of (OnTables relation) _) fun node => ?_
      cases node.groupMembers.lookup groupid with
      | some members => exact sent_fanOut relation js members.elements
      | none => exact fun _ => refl_of (OnTables relation) _
    · exact refl_of (OnTables relation) w

omit [Std.Refl relation] [IsTrans Database relation] moves in
/-- A login only reads the tables. -/
theorem kept_login (conn : Conn) (js : Json) (w : World) :
    (login conn js w).2.mysql.database = w.mysql.database := by
  obtain ⟨result, ended, ends⟩ := login_ends conn js w
  rw [ended]
  cases ends with
  | malformed escape unread => rfl
  | refused id pwd output mysql m named given seen rejected tables entries => exact tables.database
  | admitted id pwd output groups after named given account absent letIn =>
    exact letIn.mysql.database

omit [Std.Refl relation] [IsTrans Database relation] moves in
/-- A group message only reads them. -/
theorem kept_groupChat (conn : Conn) (js : Json) (w : World) :
    (groupChat conn js w).2.mysql.database = w.mysql.database := by
  rcases groupChat_ends conn js w with ⟨outcome, ended⟩ | ⟨_, _, mysql, _, _, _, ended, kept⟩
  · rw [ended]
  · rw [ended]
    exact kept.database

/-- Every handler moves the tables along the relation. -/
theorem moved_request (request : Request) (conn : Conn) (js : Json) :
    Effect.Within (OnTables relation) (request.handler conn js) := by
  cases request with
  | login => exact fun w => onTables_same relation _ _ (kept_login conn js w)
  | loginOut =>
    intro w
    change OnTables relation w (loginOut conn js w).2
    rcases loginOut_ends conn js w with ⟨outcome, ended⟩ | ⟨id, m, _, ended, _⟩
    · rw [ended]
      exact refl_of (OnTables relation) w
    · rw [ended]
      exact onTables_same relation _ _ rfl
  | reg => exact moved_reg relation moves conn js
  | oneChat => exact moved_oneChat relation moves conn js
  | addFriend => exact moved_addFriend relation moves conn js
  | createGroup => exact moved_createGroup relation moves conn js
  | joinGroup => exact moved_joinGroup relation moves conn js
  | groupChat => exact fun w => onTables_same relation _ _ (kept_groupChat conn js w)

end Moves

/-- The closing of a connection leaves the tables. -/
theorem kept_clientQuit (hint : Int) (conn : Conn) (w : World) :
    (clientQuitEcption hint conn w).2.mysql = w.mysql := by
  rcases clientQuit_ends conn hint w with ended | ended | ⟨id, m, ended, _⟩
  · rw [ended]
  · rw [ended]
  · rw [ended]

/-- The schema's promises hold on, and no row of a member is lost. -/
structure Enlarged (before after : Database) : Prop where
  keys : before.Keys → after.Keys
  members : ∀ groupid id, before.hasMember groupid id = true → after.hasMember groupid id = true

instance : Std.Refl Enlarged := ⟨fun _ => ⟨id, fun _ _ => id⟩⟩

instance : IsTrans Database Enlarged where
  trans := fun _ _ _ start rest => ⟨fun keys => rest.keys (start.keys keys),
    fun groupid id member => rest.members groupid id (start.members groupid id member)⟩

/-- Every update that is accepted keeps the keys and the members that were there. -/
theorem enlarged_update (db : Database) (conn : Connection) (statement : Update)
    (next : Database) (accepted : db.update conn statement = .ok next) : Enlarged db next := by
  refine ⟨fun keys => keys.update conn statement accepted, ?_⟩
  intro groupid id member
  cases statement with
  | insertGroupUser other userid role =>
    simp only [Database.update] at accepted
    split at accepted
    · cases accepted
    · cases accepted
      simp only [Database.hasMember, List.any_append, Bool.or_eq_true] at member ⊢
      exact Or.inl member
  | resetUserStates | deleteOfflineMessages userid =>
    cases accepted
    exact member
  | _ =>
    simp only [Database.update] at accepted
    split at accepted
    · cases accepted
    · cases accepted
      exact member

/-- So does every update that is tried. -/
theorem enlarged_apply (db : Database) (conn : Connection) (statement : Update) :
    Enlarged db (db.apply conn statement) := by
  unfold Database.apply
  cases accepted : db.update conn statement with
  | ok next => exact enlarged_update db conn statement next accepted
  | error exception => exact refl_of Enlarged db

end ClusterChat.TableMoves
