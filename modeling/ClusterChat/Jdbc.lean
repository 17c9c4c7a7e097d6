import ClusterChat.Library.Program
import ClusterChat.Tables

/-!
# JDBC commands and the two ways they are answered

A model function acquires a connection from the pool, prepares and executes
statements on it and gives it back. Each of these is one command here, so the
exits of a function are the replies it can receive: no connection, a statement
that throws, a result.

`Access` answers the commands for one request whose surroundings are arbitrary:
a script says which acquisitions find a connection and which statements throw,
since other threads take and return connections in between. `Pool` answers them
for operations run one after another: its deque decides the acquisitions. Both
execute statements against the same tables. A statement throws when the script
says so or when the tables reject it.

Reading a result row by row is part of the query: an exception while rows are
read leaves through the same `catch` as one the execution raises.
-/

namespace ClusterChat

/-- The calls a model function makes on the pool and on its connection. -/
inductive JdbcCommand where
  | getConnection
  | releaseConnection (conn : Connection)
  | prepareStatement (conn : Connection)
  | executeUpdate (conn : Connection) (statement : Update)
  | executeQuery (conn : Connection) (query : Query)

/-- What each call returns. `getConnection` returns `nullptr` or a connection;
everything executed on a connection may throw. -/
@[reducible] def JdbcReply : JdbcCommand → Type
  | .getConnection => Option Connection
  | .releaseConnection _ => Unit
  | .prepareStatement _ => Except SqlException Unit
  | .executeUpdate _ _ => Except SqlException Unit
  | .executeQuery _ query => Except SqlException (List query.Row)

/-- A program over a JDBC connection. -/
abbrev Jdbc := Program JdbcCommand JdbcReply

/-- The statements inside a `try` block: the first exception leaves it. -/
abbrev Statements := ExceptT SqlException Jdbc

/-- `ConnectionPool::getConnection`, which may return no connection. -/
def getConnection : Jdbc (Option Connection) := Program.issue JdbcCommand.getConnection

/-- `ConnectionPool::releaseConnection`. -/
def releaseConnection (conn : Connection) : Jdbc Unit :=
  Program.issue (JdbcCommand.releaseConnection conn)

/-- `createStatement` or `prepareStatement`, with the parameters it is given. -/
def prepareStatement (conn : Connection) : Statements Unit :=
  ExceptT.mk (Program.issue (JdbcCommand.prepareStatement conn))

/-- `executeUpdate` of the prepared statement. -/
def executeUpdate (conn : Connection) (statement : Update) : Statements Unit :=
  ExceptT.mk (Program.issue (JdbcCommand.executeUpdate conn statement))

/-- `executeQuery` of the prepared statement, with the rows it returns. -/
def executeQuery (conn : Connection) (query : Query) : Statements (List query.Row) :=
  ExceptT.mk (Program.issue (JdbcCommand.executeQuery conn query))

section Execution

variable {σ : Type} (answer : (command : JdbcCommand) → σ → JdbcReply command × σ)

/-- Preparing a statement is one step of the answering machine. -/
@[simp] theorem run_prepareStatement (conn : Connection) (state : σ) :
    (prepareStatement conn).run.run answer state =
      answer (.prepareStatement conn) state := rfl

/-- So is an update. -/
@[simp] theorem run_executeUpdate (conn : Connection) (statement : Update) (state : σ) :
    (executeUpdate conn statement).run.run answer state =
      answer (.executeUpdate conn statement) state := rfl

/-- So is a query. -/
@[simp] theorem run_executeQuery (conn : Connection) (query : Query) (state : σ) :
    (executeQuery conn query).run.run answer state =
      answer (.executeQuery conn query) state := rfl

end Execution

/-- The shape nearly every model function has. Without a connection it returns
one default. An exception is caught and logged, and another default returned,
without giving the connection back: `releaseConnection` is the last call inside
the `try` block. -/
def borrowing {α : Type} (refused caught : α) (statements : Connection → Statements α) :
    Jdbc α := do
  match ← getConnection with
  | none => return refused
  | some conn =>
      match ← (statements conn).run with
      | .error _ => return caught
      | .ok value =>
          releaseConnection conn
          return value

section Borrowing

variable {σ α : Type} (answer : (command : JdbcCommand) → σ → JdbcReply command × σ)
  (refused caught : α) (statements : Connection → Statements α) (state : σ)

/-- The exits of the common shape: the reply of the pool and the outcome of the
`try` block decide. -/
theorem run_borrowing : (borrowing refused caught statements).run answer state =
    match answer .getConnection state with
    | (none, next) => (refused, next)
    | (some conn, next) =>
        match (statements conn).run.run answer next with
        | (.error _, left) => (caught, left)
        | (.ok value, left) => (value, (answer (.releaseConnection conn) left).2) := by
  rw [borrowing, Program.run_bind]
  change (match (answer .getConnection state).1 with | none => _ | some conn => _ : Jdbc α).run
    answer (answer .getConnection state).2 = _
  cases got : answer .getConnection state with
  | mk grant next =>
    cases grant with
    | none => rfl
    | some conn =>
      simp only [Program.run_bind]
      cases ended : (statements conn).run.run answer next with
      | mk outcome left => cases outcome <;> rfl

/-- What the common shape exchanges beyond its connection is what its block
exchanges. -/
theorem along_borrowing (property : (command : JdbcCommand) → JdbcReply command → Prop)
    (acquired : ∀ reply, property .getConnection reply)
    (released : ∀ conn reply, property (.releaseConnection conn) reply) :
    (borrowing refused caught statements).Along answer property state ↔
      match answer .getConnection state with
      | (none, _) => True
      | (some conn, next) => (statements conn).run.Along answer property next := by
  rw [borrowing, Program.along_bind, and_iff_right ⟨acquired _, trivial⟩]
  change (match (answer .getConnection state).1 with | none => _ | some conn => _ : Jdbc α).Along
    answer property (answer .getConnection state).2 ↔ _
  cases got : answer .getConnection state with
  | mk grant next =>
    cases grant with
    | none => rfl
    | some conn =>
      simp only [Program.along_bind, and_iff_left_iff_imp]
      intro _
      cases ended : (statements conn).run.run answer next with
      | mk outcome left =>
        cases outcome with
        | error exception => trivial
        | ok value =>
          change Program.Along answer property (releaseConnection conn >>= fun _ => pure value) left
          exact (Program.along_bind answer property _ _ _).mpr
            ⟨⟨released conn _, trivial⟩, trivial⟩

end Borrowing

/-- The command changes no table. -/
def JdbcCommand.Reads : JdbcCommand → Prop
  | .executeUpdate _ _ => False
  | _ => True

/-- The common shape issues what its block issues, beside taking a connection and giving
it back. -/
theorem issues_borrowing {α : Type} (allowed : JdbcCommand → Prop)
    (acquires : allowed .getConnection) (releases : ∀ conn, allowed (.releaseConnection conn))
    (refused caught : α) (statements : Connection → Statements α)
    (issues : ∀ conn, Program.Issues allowed (statements conn).run) :
    Program.Issues allowed (borrowing refused caught statements) := by
  refine Program.issues_bind _ _ _ (Program.issues_issue _ _ acquires) ?_
  intro grant
  cases grant with
  | none => exact trivial
  | some conn =>
    refine Program.issues_bind _ _ _ (issues conn) ?_
    intro outcome
    cases outcome with
    | error exception => exact trivial
    | ok value =>
      exact Program.issues_bind _ _ _ (Program.issues_issue _ _ (releases conn)) (fun _ => trivial)

/-- Whatever the replies are, the program executes no update. -/
abbrev ReadsOnly {α : Type} (program : Jdbc α) : Prop := Program.Issues JdbcCommand.Reads program

/-- Borrowing a connection for reading statements changes no row. -/
theorem readsOnly_borrowing {α : Type} (refused caught : α) (statements : Connection → Statements α)
    (reads : ∀ conn, ReadsOnly (statements conn).run) :
    ReadsOnly (borrowing refused caught statements) :=
  issues_borrowing _ trivial (fun _ => trivial) refused caught statements reads

/-- Preparing a statement changes no row. -/
theorem readsOnly_prepareStatement (conn : Connection) : ReadsOnly (prepareStatement conn).run :=
  Program.issues_issue _ _ trivial

/-- A query changes no row. -/
theorem readsOnly_executeQuery (conn : Connection) (query : Query) :
    ReadsOnly (executeQuery conn query).run :=
  Program.issues_issue _ _ trivial

/-- Every update of the program is a permitted one, whatever the replies are. -/
def JdbcCommand.Permits (permitted : Update → Prop) : JdbcCommand → Prop
  | .executeUpdate _ statement => permitted statement
  | _ => True

/-- The program issues no update outside the permitted ones. -/
abbrev UpdatesOnly {α : Type} (permitted : Update → Prop) (program : Jdbc α) : Prop :=
  Program.Issues (JdbcCommand.Permits permitted) program

section Updates

variable (permitted : Update → Prop)

/-- Borrowing a connection keeps to the permitted updates. -/
theorem updatesOnly_borrowing {α : Type} (refused caught : α)
    (statements : Connection → Statements α)
    (updates : ∀ conn, UpdatesOnly permitted (statements conn).run) :
    UpdatesOnly permitted (borrowing refused caught statements) :=
  issues_borrowing _ trivial (fun _ => trivial) refused caught statements updates

/-- A prepared update. -/
theorem updatesOnly_update (conn : Connection) (statement : Update) (own : permitted statement) :
    UpdatesOnly permitted (prepareStatement conn >>= fun _ => executeUpdate conn statement).run :=
  Program.issues_try_bind _ _ _ (Program.issues_issue _ _ trivial)
    (fun _ => Program.issues_issue _ _ own)

end Updates

/-- A property of both defaults and of what the block returns is a property of
the result. -/
theorem yields_borrowing {α : Type} (wanted : α → Prop) (refused caught : α)
    (statements : Connection → Statements α) (onRefused : wanted refused) (onCaught : wanted caught)
    (returned : ∀ conn, Program.Yields (fun outcome => ∀ value, outcome = .ok value → wanted value)
      (statements conn).run) : Program.Yields wanted (borrowing refused caught statements) := by
  refine Program.yields_bind (fun _ => True) _ _ _ (Program.yields_any _) ?_
  intro grant _
  cases grant with
  | none => exact onRefused
  | some conn =>
    refine Program.yields_bind _ _ _ _ (returned conn) ?_
    intro outcome holds
    cases outcome with
    | error exception => exact onCaught
    | ok value =>
      exact Program.yields_bind (fun _ => True) _ _ _ (Program.yields_any _)
        (fun _ _ => holds value rfl)

/-- Take the next entry of a script; an exhausted script says nothing happens. -/
def nextOf {α : Type} (usual : α) : List α → α × List α
  | [] => (usual, [])
  | entry :: rest => (entry, rest)

/-- A database reached by one request among others. `grants` says what each
`getConnection` finds, `throws` whether each statement raises an exception. Both
scripts end in undisturbed success. -/
structure Access where
  database : Database
  grants : List (Option Connection)
  throws : List Bool

namespace Access

/-- Execute a statement against the tables unless the script makes it throw. -/
def attempt {α : Type} (m : Access)
    (execute : Database → Except SqlException (α × Database)) : Except SqlException α × Access :=
  let (throw, throws) := nextOf false m.throws
  let m := { m with throws }
  if throw then (.error .raised, m)
  else match execute m.database with
    | .error exception => (.error exception, m)
    | .ok (value, database) => (.ok value, { m with database })

/-- One command of a request. -/
def answer : (command : JdbcCommand) → Access → JdbcReply command × Access
  | .getConnection, m =>
      let (grant, grants) := nextOf (some 0) m.grants
      (grant, { m with grants })
  | .releaseConnection _, m => ((), m)
  | .prepareStatement _, m => m.attempt (fun db => .ok ((), db))
  | .executeUpdate conn statement, m =>
      m.attempt (fun db => (db.update conn statement).map (fun next => ((), next)))
  | .executeQuery conn query, m => m.attempt (fun db => .ok (db.select conn query, db))

/-- A statement that throws leaves the tables, whether the script or the tables
made it throw. One that does not leaves what its execution returned. -/
theorem attempt_ends {α : Type} (m : Access)
    (execute : Database → Except SqlException (α × Database)) :
    (∃ exception left, m.attempt execute = (.error exception, left) ∧
      left.database = m.database) ∨
    ∃ value left, m.attempt execute = (.ok value, left) ∧
      execute m.database = .ok (value, left.database) := by
  unfold attempt
  by_cases thrown : (nextOf false m.throws).1 = true
  · left
    simp only [thrown, if_true]
    exact ⟨_, _, rfl, rfl⟩
  · simp only [thrown, Bool.false_eq_true, if_false]
    cases execute m.database with
    | error exception => exact Or.inl ⟨_, _, rfl, rfl⟩
    | ok result => exact Or.inr ⟨_, _, rfl, rfl⟩

/-- Preparing a statement leaves the tables. -/
theorem prepareStatement_ends (m : Access) (conn : Connection) :
    (∃ exception left, answer (.prepareStatement conn) m = (.error exception, left) ∧
      left.database = m.database) ∨
    ∃ left, answer (.prepareStatement conn) m = (.ok (), left) ∧ left.database = m.database := by
  rcases m.attempt_ends (fun db => .ok ((), db)) with thrown | ⟨_, left, prepared, kept⟩
  · exact Or.inl thrown
  · exact Or.inr ⟨left, prepared, (Prod.mk.inj (Except.ok.inj kept)).2.symm⟩

/-- A query that does not throw returns what it selects, and leaves the tables. -/
theorem executeQuery_ends (m : Access) (conn : Connection) (query : Query) :
    (∃ exception left, answer (.executeQuery conn query) m = (.error exception, left) ∧
      left.database = m.database) ∨
    ∃ left, answer (.executeQuery conn query) m = (.ok (m.database.select conn query), left) ∧
      left.database = m.database := by
  rcases m.attempt_ends (fun db => .ok (db.select conn query, db)) with
    thrown | ⟨rows, left, executed, kept⟩
  · exact Or.inl thrown
  · obtain ⟨selected, same⟩ := Prod.mk.inj (Except.ok.inj kept)
    rw [selected]
    exact Or.inr ⟨left, executed, same.symm⟩

/-- An update that does not throw was accepted by the tables. -/
theorem executeUpdate_ends (m : Access) (conn : Connection) (statement : Update) :
    (∃ exception left, answer (.executeUpdate conn statement) m = (.error exception, left) ∧
      left.database = m.database) ∨
    ∃ left, answer (.executeUpdate conn statement) m = (.ok (), left) ∧
      m.database.update conn statement = .ok left.database := by
  rcases m.attempt_ends (fun db => (db.update conn statement).map (fun next => ((), next))) with
    thrown | ⟨_, left, executed, changed⟩
  · exact Or.inl thrown
  · refine Or.inr ⟨left, executed, ?_⟩
    cases accepted : m.database.update conn statement with
    | error exception => simp [accepted, Except.map] at changed
    | ok next =>
      simp only [accepted, Except.map, Except.ok.injEq, Prod.mk.injEq, true_and] at changed
      rw [changed]

/-- Every acquisition finds a connection and no statement is made to throw. -/
def undisturbed (database : Database) : Access := ⟨database, [], []⟩

/-- Undisturbed, a connection is there. -/
@[simp] theorem undisturbed_getConnection (db : Database) :
    answer .getConnection (undisturbed db) = (some 0, undisturbed db) := rfl

/-- Undisturbed, giving it back changes nothing. -/
@[simp] theorem undisturbed_releaseConnection (db : Database) (conn : Connection) :
    answer (.releaseConnection conn) (undisturbed db) = ((), undisturbed db) := rfl

/-- Undisturbed, preparing succeeds. -/
@[simp] theorem undisturbed_prepareStatement (db : Database) (conn : Connection) :
    answer (.prepareStatement conn) (undisturbed db) = (.ok (), undisturbed db) := rfl

/-- Undisturbed, a query returns the rows of the tables. -/
@[simp] theorem undisturbed_executeQuery (db : Database) (conn : Connection) (query : Query) :
    answer (.executeQuery conn query) (undisturbed db) =
      (.ok (db.select conn query), undisturbed db) := rfl

/-- An undisturbed update throws exactly when the tables reject it. -/
@[simp] theorem undisturbed_executeUpdate (db : Database) (conn : Connection)
    (statement : Update) : answer (.executeUpdate conn statement) (undisturbed db) =
      ((db.update conn statement).map (fun _ => ()), undisturbed (db.apply conn statement)) := by
  unfold Database.apply
  cases accepted : db.update conn statement <;>
    simp [answer, attempt, undisturbed, nextOf, accepted, Except.map]

/-- The length of what is left of the scripts. -/
def disturbances (m : Access) : Nat := m.grants.length + m.throws.length

/-- The run of a program over the tables. -/
def run {α : Type} (m : Access) (program : Jdbc α) : α × Access := program.run answer m

/-- Nothing is left in the scripts. -/
def Undisturbed (m : Access) : Prop := m.grants = [] ∧ m.throws = []

/-- An undisturbed access is determined by its tables. -/
theorem undisturbed_iff (m : Access) : m.Undisturbed ↔ m = undisturbed m.database := by
  obtain ⟨database, grants, throws⟩ := m
  simp [Undisturbed, undisturbed]

/-- A statement leaves an undisturbed access undisturbed. -/
theorem attempt_undisturbed {α : Type} (m : Access)
    (execute : Database → Except SqlException (α × Database)) (quiet : m.Undisturbed) :
    (m.attempt execute).2.Undisturbed := by
  obtain ⟨database, grants, throws⟩ := m
  obtain ⟨noGrants, noThrows⟩ := quiet
  simp only at noGrants noThrows
  subst noGrants noThrows
  cases executed : execute database with
  | error exception => simp [attempt, nextOf, executed, Undisturbed]
  | ok result => simp [attempt, nextOf, executed, Undisturbed]

/-- Programs use up scripts and never refill them. -/
theorem run_undisturbed {α : Type} (m : Access) (program : Jdbc α) (quiet : m.Undisturbed) :
    (m.run program).2.Undisturbed := by
  refine Program.run_preserves answer Undisturbed ?_ program m quiet
  intro command m quiet
  cases command with
  | getConnection =>
    obtain ⟨database, grants, throws⟩ := m
    obtain ⟨noGrants, noThrows⟩ := quiet
    simp only at noGrants noThrows
    subst noGrants noThrows
    exact ⟨rfl, rfl⟩
  | releaseConnection conn => exact quiet
  | prepareStatement conn => exact attempt_undisturbed m _ quiet
  | executeUpdate conn statement => exact attempt_undisturbed m _ quiet
  | executeQuery conn query => exact attempt_undisturbed m _ quiet

/-- Every acquisition finds a connection, whichever it is, and no statement is made to
throw. -/
structure Serves (m : Access) : Prop where
  grants : ∀ grant ∈ m.grants, grant ≠ none
  throws : ∀ thrown ∈ m.throws, thrown = false

/-- An undisturbed access serves every acquisition. -/
theorem serves_undisturbed (db : Database) : (undisturbed db).Serves :=
  ⟨fun _ member => absurd member List.not_mem_nil, fun _ member => absurd member List.not_mem_nil⟩

/-- A statement then ends as the tables decide. -/
theorem attempt_serves {α : Type} (m : Access)
    (execute : Database → Except SqlException (α × Database)) (serves : m.Serves) :
    m.attempt execute = match execute m.database with
      | .error exception => (.error exception, { m with throws := m.throws.tail })
      | .ok (value, database) => (.ok value, { m with database, throws := m.throws.tail }) := by
  obtain ⟨database, grants, throws⟩ := m
  cases throws with
  | nil => rfl
  | cons thrown rest =>
    have quiet : thrown = false := serves.throws thrown List.mem_cons_self
    rw [quiet]
    rfl

/-- An access that serves goes on serving. -/
theorem Serves.tail {m : Access} (serves : m.Serves) (database : Database) :
    Serves { m with database, throws := m.throws.tail } :=
  ⟨serves.grants, fun thrown member => serves.throws thrown (List.mem_of_mem_tail member)⟩

/-- An access that serves has a connection and keeps its tables. -/
theorem serves_getConnection (m : Access) (serves : m.Serves) : ∃ conn left,
    answer .getConnection m = (some conn, left) ∧ left.database = m.database ∧ left.Serves := by
  obtain ⟨database, grants, throws⟩ := m
  cases grants with
  | nil => exact ⟨0, _, rfl, rfl, serves⟩
  | cons grant rest =>
    cases grant with
    | none => exact absurd rfl (serves.grants none List.mem_cons_self)
    | some conn =>
      exact ⟨conn, _, rfl, rfl,
        fun other member => serves.grants other (List.mem_cons_of_mem _ member), serves.throws⟩

/-- It prepares every statement. -/
theorem serves_prepareStatement (m : Access) (conn : Connection) (serves : m.Serves) : ∃ left,
    answer (.prepareStatement conn) m = (.ok (), left) ∧ left.database = m.database ∧
      left.Serves :=
  ⟨{ m with throws := m.throws.tail }, m.attempt_serves (fun db => .ok ((), db)) serves, rfl,
    serves.tail m.database⟩

/-- It answers a query from its tables. -/
theorem serves_executeQuery (m : Access) (conn : Connection) (query : Query)
    (serves : m.Serves) : ∃ left,
    answer (.executeQuery conn query) m = (.ok (m.database.select conn query), left) ∧
      left.database = m.database ∧ left.Serves :=
  ⟨{ m with throws := m.throws.tail },
    m.attempt_serves (fun db => .ok (db.select conn query, db)) serves, rfl,
    serves.tail m.database⟩

/-- An update throws exactly when the tables reject it. -/
theorem serves_executeUpdate (m : Access) (conn : Connection) (statement : Update)
    (serves : m.Serves) : ∃ left, answer (.executeUpdate conn statement) m =
        ((m.database.update conn statement).map (fun _ => ()), left) ∧
      left.database = m.database.apply conn statement ∧ left.Serves := by
  have ended := m.attempt_serves
    (fun db => (db.update conn statement).map (fun next => ((), next))) serves
  unfold Database.apply
  cases accepted : m.database.update conn statement with
  | error exception =>
    rw [accepted] at ended
    exact ⟨_, ended, rfl, serves.tail m.database⟩
  | ok next =>
    rw [accepted] at ended
    exact ⟨_, ended, rfl, serves.tail next⟩

/-- An access that serves goes on serving after any program. -/
theorem run_serves {α : Type} (m : Access) (program : Jdbc α) (serves : m.Serves) :
    (m.run program).2.Serves := by
  refine Program.run_preserves answer Serves ?_ program m serves
  intro command m serves
  cases command with
  | getConnection =>
    obtain ⟨conn, left, granted, _, still⟩ := m.serves_getConnection serves
    rw [granted]
    exact still
  | releaseConnection conn => exact serves
  | prepareStatement conn =>
    obtain ⟨left, prepared, _, still⟩ := m.serves_prepareStatement conn serves
    rw [prepared]
    exact still
  | executeUpdate conn statement =>
    obtain ⟨left, executed, _, still⟩ := m.serves_executeUpdate conn statement serves
    rw [executed]
    exact still
  | executeQuery conn query =>
    obtain ⟨left, executed, _, still⟩ := m.serves_executeQuery conn query serves
    rw [executed]
    exact still

/-- A program without updates leaves every table as it was. -/
theorem run_readsOnly {α : Type} (m : Access) (program : Jdbc α) (reads : ReadsOnly program) :
    (m.run program).2.database = m.database := by
  refine Program.issues_keeps answer JdbcCommand.Reads Access.database ?_ program reads m
  intro command m permitted
  cases command with
  | getConnection => rfl
  | releaseConnection conn => rfl
  | executeUpdate conn statement => exact permitted.elim
  | prepareStatement conn =>
    simp only [answer, attempt]
    split <;> rfl
  | executeQuery conn query =>
    simp only [answer, attempt]
    split <;> rfl

/-- A program moves the tables along a relation that every permitted update it
executes successfully moves them along. -/
theorem run_updatesOnly {α : Type} (permitted : Update → Prop)
    (relation : Database → Database → Prop) [Std.Refl relation] [IsTrans Database relation]
    (moves : ∀ db conn statement next, permitted statement →
      db.update conn statement = .ok next → relation db next)
    (program : Jdbc α) (updates : UpdatesOnly permitted program) (m : Access) :
    relation m.database (m.run program).2.database := by
  have refl : Std.Refl (fun before after : Access => relation before.database after.database) :=
    ⟨fun before => Std.Refl.refl before.database⟩
  have trans : IsTrans Access (fun before after => relation before.database after.database) :=
    ⟨fun _ _ _ start rest => IsTrans.trans _ _ _ start rest⟩
  have unmoved : ∀ before after : Database, after = before → relation before after := by
    intro before after same
    rw [same]
    exact Std.Refl.refl before
  refine Program.issues_moves answer (JdbcCommand.Permits permitted)
    (fun before after => relation before.database after.database) ?_ program updates m
  intro command m own
  cases command with
  | getConnection => exact unmoved _ _ rfl
  | releaseConnection conn => exact unmoved _ _ rfl
  | prepareStatement conn =>
    rcases m.prepareStatement_ends conn with
      ⟨exception, left, prepared, kept⟩ | ⟨left, prepared, kept⟩
    · rw [prepared]
      exact unmoved _ _ kept
    · rw [prepared]
      exact unmoved _ _ kept
  | executeQuery conn query =>
    rcases m.executeQuery_ends conn query with
      ⟨exception, left, selected, kept⟩ | ⟨left, selected, kept⟩
    · rw [selected]
      exact unmoved _ _ kept
    · rw [selected]
      exact unmoved _ _ kept
  | executeUpdate conn statement =>
    rcases m.executeUpdate_ends conn statement with
      ⟨exception, left, executed, kept⟩ | ⟨left, executed, accepted⟩
    · rw [executed]
      exact unmoved _ _ kept
    · rw [executed]
      exact moves m.database conn statement left.database own accepted

/-- The tables are as before and the scripts were not refilled. -/
structure Kept (before after : Access) : Prop where
  database : after.database = before.database
  undisturbed : before.Undisturbed → after.Undisturbed

/-- A reading program changes no row. -/
theorem kept_run {α : Type} (m : Access) (program : Jdbc α) (reads : ReadsOnly program) :
    Kept m (m.run program).2 :=
  ⟨run_readsOnly m program reads, run_undisturbed m program⟩

/-- Doing nothing changes no row. -/
theorem kept_refl (m : Access) : Kept m m := ⟨rfl, id⟩

/-- Two steps that change no row change none together. -/
theorem Kept.trans {first second third : Access} (start : Kept first second)
    (rest : Kept second third) : Kept first third :=
  ⟨rest.database.trans start.database, fun quiet => rest.undisturbed (start.undisturbed quiet)⟩

end Access

/-- The pool of one process as operations run to completion one after another
see it: the deque of idle connections, the tables, and the pattern of statements
that throw. -/
structure Pool where
  connections : List Connection
  database : Database
  throws : List Bool

namespace Pool

/-- `MySQLConnectionPool::getConnection`: the front of the deque, or `nullptr`. -/
def getConnection (pool : Pool) : Option Connection × Pool :=
  match pool.connections with
  | [] => (none, pool)
  | conn :: rest => (some conn, { pool with connections := rest })

/-- `MySQLConnectionPool::releaseConnection`: to the back of the deque. -/
def releaseConnection (pool : Pool) (conn : Connection) : Pool :=
  { pool with connections := pool.connections ++ [conn] }

/-- One command. Statements are executed as a request executes them; they do not
touch the deque. -/
def answer : (command : JdbcCommand) → Pool → JdbcReply command × Pool
  | .getConnection, pool => pool.getConnection
  | .releaseConnection conn, pool => ((), pool.releaseConnection conn)
  | command, pool =>
      let (reply, access) := Access.answer command ⟨pool.database, [], pool.throws⟩
      (reply, { pool with database := access.database, throws := access.throws })

/-- The run of a program over the pool. -/
def run {α : Type} (pool : Pool) (program : Jdbc α) : α × Pool := program.run answer pool

end Pool

end ClusterChat
