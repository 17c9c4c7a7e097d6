import ClusterChat.Library.Runs
import ClusterChat.Models

/-!
# The ids of groups created at the same time

`GroupModel::createGroup` inserts its row with one statement and reads the id with
another, `SELECT LAST_INSERT_ID()`, on the same connection. MySQL keeps the last id of
each connection, whatever inserted it, so the id is the right one if nobody else uses
the connection in between and the insertion did not fail.

Any number of calls run interleaved, one command at a time. A call takes a connection
from the front of the deque and gives it back at the end, unless a statement throws:
then the connection is gone. What a call inserted, and whether a statement of it threw,
is recorded beside it. `created_id` says of every reached state what each finished call
returns: its group with the id of the row it inserted, or its group as it was, with
id -1, if a statement threw or no connection was free; and no two calls inserted rows
of the same id.

The connections in the deque are distinct in the beginning, so calls hold different
ones. Their last ids in the beginning are arbitrary, and calls use connections that
earlier calls gave back. Statements throw as a script says, or when the tables reject
them. The size test of `getConnection` and its pop are one step here.
-/

namespace ClusterChat.GroupIds

/-- A call of `createGroup`: the group it was given, what is left of it, the row it
inserted and whether a statement threw. -/
structure Call where
  group : Group
  left : Jdbc Group
  inserted : Option AllGroupRow
  threw : Bool

/-- The group of a request, as `ChatService::createGroup` makes it. -/
def request (groupname groupdesc : String) : Group :=
  { id := -1, name := groupname, desc := groupdesc }

/-- A call at its beginning: nothing inserted, nothing thrown. -/
def begin (groupname groupdesc : String) : Call :=
  ⟨request groupname groupdesc, GroupModel.createGroup (request groupname groupdesc), none, false⟩

/-- The row a command inserted, seen as the last row of the table after it. -/
def insertedBy (command : JdbcCommand) (reply : JdbcReply command) (after : Database)
    (before : Option AllGroupRow) : Option AllGroupRow :=
  match command, reply with
  | .executeUpdate _ _, .ok () => after.allGroup.getLast?
  | _, _ => before

/-- The answer is an exception, from which the call does not return normally. -/
def thrownBy (command : JdbcCommand) (reply : JdbcReply command) : Bool :=
  match command, reply with
  | .prepareStatement _, .error _ => true
  | .executeUpdate _ _, .error _ => true
  | .executeQuery _ _, .error _ => true
  | _, _ => false

/-- The call after one command was answered. -/
def Call.advance (call : Call) (command : JdbcCommand) (next : JdbcReply command → Jdbc Group)
    (reply : JdbcReply command) (after : Database) : Call :=
  ⟨call.group, next reply, insertedBy command reply after call.inserted,
    call.threw || thrownBy command reply⟩

/-- The pool with the tables, and the calls, those that are over included. -/
structure State where
  pool : Pool
  calls : List Call

/-- A call is started, or one of them issues its next command. -/
inductive Event where
  | start (groupname groupdesc : String)
  | advance (i : Nat)

/-- The pool and the calls after the event. -/
def step (s : State) : Event → State
  | .start groupname groupdesc => { s with calls := s.calls ++ [begin groupname groupdesc] }
  | .advance i =>
      match s.calls[i]? with
      | some call =>
          match call.left with
          | .done _ => s
          | .call command next =>
              let (reply, pool) := Pool.answer command s.pool
              ⟨pool, s.calls.set i (call.advance command next reply pool.database)⟩
      | none => s

/-!
## What is left of a call
-/

/-- What is left when the value is known: the connection is given back. -/
def releasing (conn : Connection) (value : Group) : Jdbc Group :=
  .call (.releaseConnection conn) fun _ => .done value

/-- What is left when `LAST_INSERT_ID()` is asked. -/
def reading (group : Group) (conn : Connection) : Jdbc Group :=
  .call (.executeQuery conn .lastInsertId) fun
    | .error _ => .done group
    | .ok (last :: _) => releasing conn { group with id := last }
    | .ok [] => releasing conn group

/-- What is left before that statement is prepared. -/
def asking (group : Group) (conn : Connection) : Jdbc Group :=
  .call (.prepareStatement conn) fun
    | .error _ => .done group
    | .ok () => reading group conn

/-- What is left when the insertion is executed. -/
def inserting (group : Group) (conn : Connection) : Jdbc Group :=
  .call (.executeUpdate conn (.insertAllGroup group.name group.desc)) fun
    | .error _ => .done group
    | .ok () => asking group conn

/-- What is left when the insertion is prepared. -/
def preparing (group : Group) (conn : Connection) : Jdbc Group :=
  .call (.prepareStatement conn) fun
    | .error _ => .done group
    | .ok () => inserting group conn

/-- The whole of `createGroup`. -/
def requesting (group : Group) : Jdbc Group :=
  .call .getConnection fun
    | none => .done group
    | some conn => preparing group conn

/-- `createGroup` is these steps in order. -/
theorem createGroup_eq (group : Group) : GroupModel.createGroup group = requesting group := by
  rw [GroupModel.createGroup, borrowing, requesting]
  refine congrArg (Program.call _) (funext fun grant => ?_)
  cases grant with
  | none => rfl
  | some conn =>
    refine congrArg (Program.call _) (funext fun prepared => ?_)
    cases prepared with
    | error exception => rfl
    | ok _ =>
      refine congrArg (Program.call _) (funext fun executed => ?_)
      cases executed with
      | error exception => rfl
      | ok _ =>
        refine congrArg (Program.call _) (funext fun asked => ?_)
        cases asked with
        | error exception => rfl
        | ok _ =>
          refine congrArg (Program.call _) (funext fun read => ?_)
          cases read with
          | error exception => rfl
          | ok res => cases res <;> rfl

/-- The connection a program uses next, which its call then holds. -/
def holding : Jdbc Group → Option Connection
  | .call (.prepareStatement conn) _ => some conn
  | .call (.executeUpdate conn _) _ => some conn
  | .call (.executeQuery conn _) _ => some conn
  | .call (.releaseConnection conn) _ => some conn
  | _ => none

/-- The connection the call has. -/
def Call.held (call : Call) : Option Connection := holding call.left

/-- How far a call is: between its statements the last id of its connection is the one
it inserted, and in the end its group has that id, or is as it was. -/
inductive Staged (db : Database) : Call → Prop
  | requesting (group : Group) : Staged db ⟨group, requesting group, none, false⟩
  | preparing (group : Group) (conn : Connection) :
      Staged db ⟨group, preparing group conn, none, false⟩
  | inserting (group : Group) (conn : Connection) :
      Staged db ⟨group, inserting group conn, none, false⟩
  | asking (group : Group) (conn : Connection) (row : AllGroupRow)
      (own : db.lastInsertId conn = row.id) : Staged db ⟨group, asking group conn, some row, false⟩
  | reading (group : Group) (conn : Connection) (row : AllGroupRow)
      (own : db.lastInsertId conn = row.id) : Staged db ⟨group, reading group conn, some row, false⟩
  | releasing (group : Group) (conn : Connection) (row : AllGroupRow) :
      Staged db ⟨group, releasing conn { group with id := row.id }, some row, false⟩
  | created (group : Group) (row : AllGroupRow) :
      Staged db ⟨group, .done { group with id := row.id }, some row, false⟩
  | refused (group : Group) : Staged db ⟨group, .done group, none, false⟩
  | failed (group : Group) (inserted : Option AllGroupRow) :
      Staged db ⟨group, .done group, inserted, true⟩

/-!
## One command
-/

/-- A command puts the row of the call into the table. -/
structure Inserts (before after : Database) (call : Call) (row : AllGroupRow) : Prop where
  first : call.inserted = none
  fields : row = ⟨before.nextGroupId, call.group.name, call.group.desc⟩
  stored : after.allGroup = before.allGroup ++ [row]
  counted : after.nextGroupId = before.nextGroupId + 1
  others : ∀ conn, call.held ≠ some conn → after.lastInsertId conn = before.lastInsertId conn

/-- What the answer to one command of a call does. -/
structure Moves (before after : Pool) (call next : Call) : Prop where
  group : next.group = call.group
  staged : Staged after.database next
  exclusive : ∀ others, (before.connections ++ (call.held.toList ++ others)).Nodup →
    (after.connections ++ (next.held.toList ++ others)).Nodup
  tables : (next.inserted = call.inserted ∧ after.database = before.database) ∨
    ∃ row, next.inserted = some row ∧ Inserts before.database after.database call row

/-- The pool as a statement meets it. -/
def served (pool : Pool) : Access := ⟨pool.database, [], pool.throws⟩

/-- The pool after a statement. -/
def settle (pool : Pool) (left : Access) : Pool :=
  { pool with database := left.database, throws := left.throws }

/-- Preparing touches neither the connections nor the tables. -/
theorem answer_prepareStatement (pool : Pool) (conn : Connection) : ∃ reply after,
    Pool.answer (.prepareStatement conn) pool = (reply, after) ∧
      after.connections = pool.connections ∧ after.database = pool.database := by
  have answered : Pool.answer (.prepareStatement conn) pool =
      ((Access.answer (.prepareStatement conn) (served pool)).1,
        settle pool (Access.answer (.prepareStatement conn) (served pool)).2) := rfl
  rw [answered]
  rcases (served pool).prepareStatement_ends conn with
    ⟨exception, left, thrown, kept⟩ | ⟨left, prepared, kept⟩
  · rw [thrown]
    exact ⟨_, _, rfl, rfl, kept⟩
  · rw [prepared]
    exact ⟨_, _, rfl, rfl, kept⟩

/-- A query reads the tables on its connection and touches nothing. -/
theorem answer_executeQuery (pool : Pool) (conn : Connection) (query : Query) :
    ∃ reply after, Pool.answer (.executeQuery conn query) pool = (reply, after) ∧
      after.connections = pool.connections ∧ after.database = pool.database ∧
      ∀ rows, reply = .ok rows → rows = pool.database.select conn query := by
  have answered : Pool.answer (.executeQuery conn query) pool =
      ((Access.answer (.executeQuery conn query) (served pool)).1,
        settle pool (Access.answer (.executeQuery conn query) (served pool)).2) := rfl
  rw [answered]
  rcases (served pool).executeQuery_ends conn query with
    ⟨exception, left, thrown, kept⟩ | ⟨left, executed, kept⟩
  · rw [thrown]
    exact ⟨_, _, rfl, rfl, kept, fun rows isOk => by cases isOk⟩
  · rw [executed]
    exact ⟨_, _, rfl, rfl, kept, fun rows isOk => (Except.ok.inj isOk).symm⟩

/-- An update is refused and changes no row, or performed on the tables. -/
theorem answer_executeUpdate (pool : Pool) (conn : Connection) (statement : Update) :
    ∃ reply after, Pool.answer (.executeUpdate conn statement) pool = (reply, after) ∧
      after.connections = pool.connections ∧
      ((∃ exception, reply = .error exception ∧ after.database = pool.database) ∨
        reply = .ok () ∧ pool.database.update conn statement = .ok after.database) := by
  have answered : Pool.answer (.executeUpdate conn statement) pool =
      ((Access.answer (.executeUpdate conn statement) (served pool)).1,
        settle pool (Access.answer (.executeUpdate conn statement) (served pool)).2) := rfl
  rw [answered]
  rcases (served pool).executeUpdate_ends conn statement with
    ⟨exception, left, thrown, kept⟩ | ⟨left, executed, accepted⟩
  · rw [thrown]
    exact ⟨_, _, rfl, rfl, Or.inl ⟨exception, rfl, kept⟩⟩
  · rw [executed]
    exact ⟨_, _, rfl, rfl, Or.inr ⟨rfl, accepted⟩⟩

/-- An accepted insertion of the group of a call. -/
theorem inserts_update (before after : Database) (group : Group) (conn : Connection)
    (accepted : before.update conn (.insertAllGroup group.name group.desc) = .ok after) :
    Inserts before after ⟨group, inserting group conn, none, false⟩
      ⟨before.nextGroupId, group.name, group.desc⟩ ∧
    after.lastInsertId conn = before.nextGroupId := by
  simp only [Database.update] at accepted
  split at accepted
  · cases accepted
  · cases accepted
    refine ⟨⟨rfl, rfl, rfl, rfl, ?_⟩, if_pos rfl⟩
    intro other unheld
    have distinct : other ≠ conn := fun same => unheld (congrArg some same.symm)
    exact if_neg distinct

/-- A call that ends after an exception no longer holds its connection. -/
theorem nodup_dropped (connections others : List Connection) (held : Option Connection)
    (distinct : (connections ++ (held.toList ++ others)).Nodup) :
    (connections ++ others).Nodup :=
  distinct.sublist ((List.sublist_append_right _ _).append_left connections)

/-- After a statement that threw the call is over and has inserted nothing more. -/
theorem moves_failed (before after : Pool) (call : Call)
    (idle : after.connections = before.connections) (kept : after.database = before.database) :
    Moves before after call ⟨call.group, .done call.group, call.inserted, true⟩ where
  group := rfl
  staged := .failed call.group call.inserted
  exclusive := fun _ distinct => idle ▸ nodup_dropped _ _ _ distinct
  tables := Or.inl ⟨rfl, kept⟩

/-- The answer to any command of a call moves the call as `Moves` says. -/
theorem moves_answer (pool : Pool) (call : Call) (command : JdbcCommand)
    (next : JdbcReply command → Jdbc Group) (left : call.left = .call command next)
    (staged : Staged pool.database call) :
    Moves pool (Pool.answer command pool).2 call (call.advance command next
      (Pool.answer command pool).1 (Pool.answer command pool).2.database) := by
  cases staged with
  | requesting group =>
    cases left
    obtain ⟨connections, database, throws⟩ := pool
    cases connections with
    | nil => exact ⟨rfl, .refused group, fun _ distinct => distinct, Or.inl ⟨rfl, rfl⟩⟩
    | cons conn rest =>
      refine ⟨rfl, .preparing group conn, fun others distinct => ?_, Or.inl ⟨rfl, rfl⟩⟩
      exact (List.perm_middle.symm.nodup_iff).mp distinct
  | preparing group conn =>
    cases left
    obtain ⟨reply, after, answered, idle, kept⟩ := answer_prepareStatement pool conn
    rw [answered]
    cases reply with
    | error exception => exact moves_failed pool after _ idle kept
    | ok _ =>
      exact ⟨rfl, .inserting group conn, fun others distinct => idle ▸ distinct,
        Or.inl ⟨rfl, kept⟩⟩
  | inserting group conn =>
    cases left
    obtain ⟨reply, after, answered, idle, ended⟩ :=
      answer_executeUpdate pool conn (.insertAllGroup group.name group.desc)
    rw [answered]
    rcases ended with ⟨exception, thrown, kept⟩ | ⟨executed, accepted⟩
    · subst thrown
      exact moves_failed pool after _ idle kept
    · subst executed
      obtain ⟨inserts, own⟩ := inserts_update pool.database after.database group conn accepted
      have last : after.database.allGroup.getLast? =
          some ⟨pool.database.nextGroupId, group.name, group.desc⟩ := by
        rw [inserts.stored, List.getLast?_append, List.getLast?_singleton]
        rfl
      refine ⟨rfl, ?_, fun others distinct => idle ▸ distinct, Or.inr ⟨_, last, inserts⟩⟩
      change Staged after.database ⟨group, asking group conn, after.database.allGroup.getLast?, _⟩
      rw [last]
      exact .asking group conn _ own
  | asking group conn row own =>
    cases left
    obtain ⟨reply, after, answered, idle, kept⟩ := answer_prepareStatement pool conn
    rw [answered]
    cases reply with
    | error exception => exact moves_failed pool after _ idle kept
    | ok _ =>
      exact ⟨rfl, .reading group conn row (kept ▸ own), fun others distinct => idle ▸ distinct,
        Or.inl ⟨rfl, kept⟩⟩
  | reading group conn row own =>
    cases left
    obtain ⟨reply, after, answered, idle, kept, selected⟩ :=
      answer_executeQuery pool conn .lastInsertId
    rw [answered]
    cases reply with
    | error exception => exact moves_failed pool after _ idle kept
    | ok rows =>
      have read : rows = [row.id] := (selected rows rfl).trans (congrArg (fun id => [id]) own)
      rw [read]
      exact ⟨rfl, .releasing group conn row, fun others distinct => idle ▸ distinct,
        Or.inl ⟨rfl, kept⟩⟩
  | releasing group conn row =>
    cases left
    refine ⟨rfl, .created group row, fun others distinct => ?_, Or.inl ⟨rfl, rfl⟩⟩
    change ((pool.connections ++ [conn]) ++ others).Nodup
    rw [List.append_assoc]
    exact distinct
  | created group row => cases left
  | refused group => cases left
  | failed group inserted => cases left

/-!
## Whole runs
-/

/-- The row is in the table, with the fields of the call's group and an id that will
not be given again. -/
structure Recorded (db : Database) (call : Call) (row : AllGroupRow) : Prop where
  stored : row ∈ db.allGroup
  name : row.groupname = call.group.name
  desc : row.groupdesc = call.group.desc
  past : row.id < db.nextGroupId

/-- What every step keeps. -/
structure Inv (s : State) : Prop where
  exclusive : (s.pool.connections ++ s.calls.filterMap Call.held).Nodup
  staged : ∀ call ∈ s.calls, Staged s.pool.database call
  recorded : ∀ call ∈ s.calls, ∀ row, call.inserted = some row →
    Recorded s.pool.database call row
  distinct : ((s.calls.filterMap Call.inserted).map AllGroupRow.id).Nodup
  unnamed : ∀ call ∈ s.calls, call.group.id = -1

/-- The step starts a call, does nothing, or answers one command of one call. -/
theorem step_cases (s : State) (event : Event) :
    (∃ groupname groupdesc,
      step s event = { s with calls := s.calls ++ [begin groupname groupdesc] }) ∨
    step s event = s ∨
    ∃ before call after command next, s.calls = before ++ call :: after ∧
      call.left = .call command next ∧
      step s event = ⟨(Pool.answer command s.pool).2, before ++ call.advance command next
        (Pool.answer command s.pool).1 (Pool.answer command s.pool).2.database :: after⟩ := by
  cases event with
  | start groupname groupdesc => exact Or.inl ⟨groupname, groupdesc, rfl⟩
  | advance i =>
    right
    cases found : s.calls[i]? with
    | none =>
      left
      simp only [step, found]
    | some call =>
      cases left : call.left with
      | done value =>
        left
        simp only [step, found, left]
      | call command next =>
        right
        obtain ⟨within, isCall⟩ := List.getElem?_eq_some_iff.mp found
        refine ⟨s.calls.take i, call, s.calls.drop (i + 1), command, next, ?_, left, ?_⟩
        · rw [← isCall, ← List.drop_eq_getElem_cons within, List.take_append_drop]
        · simp only [step, found, left]
          rw [List.set_eq_take_append_cons_drop, if_pos within]

/-- What one call has, and what the others have. -/
theorem filterMap_middle {α β : Type} (f : α → Option β) (before after : List α) (item : α) :
    ((before ++ item :: after).filterMap f).Perm
      ((f item).toList ++ (before ++ after).filterMap f) := by
  have split : (before ++ item :: after).filterMap f =
      before.filterMap f ++ ((f item).toList ++ after.filterMap f) := by
    rw [List.filterMap_append, List.filterMap_cons]
    cases f item <;> rfl
  rw [split, List.filterMap_append]
  exact List.perm_append_comm_assoc _ _ _

/-- A call stays where it is while others insert on other connections. -/
theorem Staged.other {before after : Database} {call : Call} (staged : Staged before call)
    (kept : ∀ conn, call.held = some conn → after.lastInsertId conn = before.lastInsertId conn) :
    Staged after call := by
  cases staged with
  | requesting group => exact .requesting group
  | preparing group conn => exact .preparing group conn
  | inserting group conn => exact .inserting group conn
  | asking group conn row own => exact .asking group conn row ((kept conn rfl).trans own)
  | reading group conn row own => exact .reading group conn row ((kept conn rfl).trans own)
  | releasing group conn row => exact .releasing group conn row
  | created group row => exact .created group row
  | refused group => exact .refused group
  | failed group inserted => exact .failed group inserted

/-- A call that starts keeps the invariant. -/
theorem inv_start (s : State) (groupname groupdesc : String) (inv : Inv s) :
    Inv { s with calls := s.calls ++ [begin groupname groupdesc] } := by
  have unheld : (s.calls ++ [begin groupname groupdesc]).filterMap Call.held =
      s.calls.filterMap Call.held := by
    rw [List.filterMap_append]
    exact List.append_nil _
  have uninserted : (s.calls ++ [begin groupname groupdesc]).filterMap Call.inserted =
      s.calls.filterMap Call.inserted := by
    rw [List.filterMap_append]
    exact List.append_nil _
  constructor
  · rw [unheld]
    exact inv.exclusive
  · refine List.forall_mem_append.mpr ⟨inv.staged, List.forall_mem_singleton.mpr ?_⟩
    rw [begin, createGroup_eq]
    exact .requesting _
  · refine List.forall_mem_append.mpr ⟨inv.recorded, List.forall_mem_singleton.mpr ?_⟩
    intro row none
    cases none
  · rw [uninserted]
    exact inv.distinct
  · exact List.forall_mem_append.mpr ⟨inv.unnamed, List.forall_mem_singleton.mpr rfl⟩

/-- A property of every item is that of one and of the others. -/
theorem forall_middle {α : Type} (property : α → Prop) (before after : List α) (item : α) :
    (∀ other ∈ before ++ item :: after, property other) ↔
      property item ∧ ∀ other ∈ before ++ after, property other := by
  rw [List.forall_mem_append, List.forall_mem_cons, List.forall_mem_append]
  exact and_left_comm

/-- A recorded row stays recorded. -/
theorem Recorded.moved {pool after : Pool} {call next other : Call} {row : AllGroupRow}
    (recorded : Recorded pool.database other row) (moves : Moves pool after call next) :
    Recorded after.database other row := by
  rcases moves.tables with ⟨_, same⟩ | ⟨new, _, inserts⟩
  · rw [same]
    exact recorded
  · obtain ⟨stored, name, desc, past⟩ := recorded
    refine ⟨?_, name, desc, ?_⟩
    · rw [inserts.stored]
      exact List.mem_append_left _ stored
    · rw [inserts.counted]
      omega

/-- The row that a command inserts is recorded. -/
theorem recorded_inserted {pool after : Pool} {call next : Call} {row : AllGroupRow}
    (group : next.group = call.group)
    (inserts : Inserts pool.database after.database call row) :
    Recorded after.database next row := by
  have fields := inserts.fields
  constructor
  · rw [inserts.stored]
    exact List.mem_append_right _ List.mem_cons_self
  · rw [fields, group]
  · rw [fields, group]
  · rw [inserts.counted, fields]
    exact Int.lt_succ _

/-- An answer to one call keeps the invariant of all. -/
theorem inv_moves (pool after : Pool) (before later : List Call) (call next : Call)
    (inv : Inv ⟨pool, before ++ call :: later⟩) (moves : Moves pool after call next) :
    Inv ⟨after, before ++ next :: later⟩ := by
  obtain ⟨exclusive, staged, recorded, distinct, unnamed⟩ := inv
  simp only [forall_middle] at staged recorded unnamed
  have apart : (pool.connections ++
      (call.held.toList ++ (before ++ later).filterMap Call.held)).Nodup :=
    ((filterMap_middle Call.held before later call).append_left _).nodup_iff.mp exclusive
  constructor
  · exact ((filterMap_middle Call.held before later next).append_left _).nodup_iff.mpr
      (moves.exclusive _ apart)
  · refine (forall_middle _ before later next).mpr ⟨moves.staged, fun other member => ?_⟩
    rcases moves.tables with ⟨_, same⟩ | ⟨row, _, inserts⟩
    · change Staged after.database other
      rw [same]
      exact staged.2 other member
    · refine (staged.2 other member).other fun conn held => inserts.others conn fun own => ?_
      have first : conn ∈ call.held.toList := Option.mem_toList.mpr own
      have second : conn ∈ (before ++ later).filterMap Call.held :=
        List.mem_filterMap.mpr ⟨other, member, held⟩
      exact (List.nodup_append.mp (List.nodup_append.mp apart).2.1).2.2 conn first conn second rfl
  · refine (forall_middle _ before later next).mpr ⟨?_, fun other member row inserted =>
      (recorded.2 other member row inserted).moved moves⟩
    intro row inserted
    rcases moves.tables with ⟨same, _⟩ | ⟨new, own, inserts⟩
    · have old := (recorded.1 row (same ▸ inserted)).moved moves
      exact ⟨old.stored, old.name.trans (congrArg Group.name moves.group.symm),
        old.desc.trans (congrArg Group.desc moves.group.symm), old.past⟩
    · rw [own] at inserted
      cases inserted
      exact recorded_inserted moves.group inserts
  · have old := ((filterMap_middle Call.inserted before later call).map
      AllGroupRow.id).nodup_iff.mp distinct
    apply ((filterMap_middle Call.inserted before later next).map AllGroupRow.id).nodup_iff.mpr
    rcases moves.tables with ⟨same, _⟩ | ⟨row, own, inserts⟩
    · rw [same]
      exact old
    · rw [inserts.first] at old
      rw [own]
      refine List.nodup_cons.mpr ⟨fun used => ?_, old⟩
      obtain ⟨other, listed, same⟩ := List.mem_map.mp used
      obtain ⟨holder, member, inserted⟩ := List.mem_filterMap.mp listed
      have past := (recorded.2 holder member other inserted).past
      have new : row.id = pool.database.nextGroupId := by rw [inserts.fields]
      omega
  · refine (forall_middle _ before later next).mpr ⟨?_, unnamed.2⟩
    rw [moves.group]
    exact unnamed.1

/-- Every event keeps the invariant. -/
theorem inv_step (s : State) (event : Event) (inv : Inv s) : Inv (step s event) := by
  rcases step_cases s event with ⟨groupname, groupdesc, stepped⟩ | stepped |
    ⟨before, call, after, command, next, calls, left, stepped⟩
  · rw [stepped]
    exact inv_start s groupname groupdesc inv
  · rw [stepped]
    exact inv
  · rw [stepped]
    obtain ⟨pool, all⟩ := s
    simp only at calls
    subst calls
    have staged := inv.staged call (List.mem_append_right _ List.mem_cons_self)
    exact inv_moves pool _ before after call _ inv
      (moves_answer pool call command next left staged)

/-- What the calls that are over have returned, and what all of them have inserted. -/
structure Right (s : State) : Prop where
  own : ∀ call ∈ s.calls, ∀ row value, call.inserted = some row → call.threw = false →
    call.left = .done value → value.id = row.id
  unset : ∀ call ∈ s.calls, ∀ value, call.inserted = none ∨ call.threw = true →
    call.left = .done value → value.id = -1
  stored : ∀ call ∈ s.calls, ∀ row, call.inserted = some row → row ∈ s.pool.database.allGroup ∧
    row.groupname = call.group.name ∧ row.groupdesc = call.group.desc
  distinct : ((s.calls.filterMap Call.inserted).map AllGroupRow.id).Nodup

/-- The invariant gives what the calls return. -/
theorem right_of_inv (s : State) (inv : Inv s) : Right s := by
  constructor
  · intro call member row value inserted quiet left
    have staged := inv.staged call member
    cases staged with
    | created group own =>
      cases left
      cases inserted
      rfl
    | refused group => cases inserted
    | failed group own => cases quiet
    | _ => cases left
  · intro call member value ended left
    have staged := inv.staged call member
    have unnamed := inv.unnamed call member
    cases staged with
    | created group own => rcases ended with none | threw <;> contradiction
    | refused group =>
      cases left
      exact unnamed
    | failed group own =>
      cases left
      exact unnamed
    | _ => cases left
  · intro call member row inserted
    have recorded := inv.recorded call member row inserted
    exact ⟨recorded.stored, recorded.name, recorded.desc⟩
  · exact inv.distinct

/-- In every order of the commands of any number of calls, a call that inserted its row
and met no exception returns its group with the id of that row, one whose insertion
failed returns it with id -1, and no two calls have inserted rows of one id. -/
theorem created_id (pool : Pool) (events : List Event) (distinct : pool.connections.Nodup) :
    Runs.Always step Right ⟨pool, []⟩ events := by
  have begun : Inv ⟨pool, []⟩ := by
    constructor
    · change (pool.connections ++ []).Nodup
      rw [List.append_nil]
      exact distinct
    · exact fun _ none => absurd none List.not_mem_nil
    · exact fun _ none => absurd none List.not_mem_nil
    · exact List.nodup_nil
    · exact fun _ none => absurd none List.not_mem_nil
  exact Runs.always_mono step Inv Right right_of_inv _ _
    (Runs.always_of_step step Inv inv_step _ _ begun)

/-- What the calls that are over have returned. -/
def returned (s : State) : List Group :=
  s.calls.filterMap fun call =>
    match call.left with
    | .done group => some group
    | .call _ _ => none

/-- Two calls insert before either reads its id. -/
def overlap : List Event :=
  [.start "a" "", .start "b" "", .advance 0, .advance 1, .advance 0, .advance 1, .advance 0,
    .advance 1, .advance 1, .advance 0, .advance 1, .advance 0, .advance 0, .advance 1]

/-- Each of the two returns the id of its own group. -/
theorem created_id_overlap :
    Runs.Always step Right ⟨⟨[4, 7], Database.empty, []⟩, []⟩ overlap ∧
      (returned (Runs.run step ⟨⟨[4, 7], Database.empty, []⟩, []⟩ overlap)).map
        (fun group => (group.name, group.id)) = [("a", 1), ("b", 2)] :=
  ⟨created_id ⟨[4, 7], Database.empty, []⟩ overlap (by decide), by decide⟩

end ClusterChat.GroupIds
