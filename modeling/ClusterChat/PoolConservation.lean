import ClusterChat.Models
import ClusterChat.Library.Runs

/-!
# What the model operations do to the connection pool

Operations run to completion one after another against the deque of the pool. An
operation conserves the pool when the deque afterwards is a rearrangement of the
deque before.

A `try` block of statements touches no connection and ends normally exactly when
none of its calls throws; both facts hold of the single calls and are closed
under sequencing, so they hold of every block in the model classes. The common
shape then loses its connection exactly when it got one and a call threw.
`FriendModel::query` loses it whenever it got one, and the attempts of
`OfflineMessage::insert` never do.

The deque is the only part of the pool that matters here. Whether other threads
leave any connection in it is not a question about sequential operations.
-/

namespace ClusterChat.PoolConservation

/-- A call on a connection returned without an exception. -/
def Completes : (command : JdbcCommand) → JdbcReply command → Prop
  | .prepareStatement _, reply => reply.isOk
  | .executeUpdate _ _, reply => reply.isOk
  | .executeQuery _ _, reply => reply.isOk
  | .getConnection, _ | .releaseConnection _, _ => True

/-- None of the calls a program makes on this pool throws. -/
abbrev Quiet {α : Type} (program : Jdbc α) (pool : Pool) : Prop :=
  Program.Along Pool.answer Completes program pool

/-- A block of statements that leaves the deque alone and ends normally exactly
when no call in it throws. -/
def Plain {α : Type} (statements : Statements α) : Prop :=
  ∀ pool : Pool, (pool.run statements.run).2.connections = pool.connections ∧
    ((pool.run statements.run).1.isOk = true ↔ Quiet statements.run pool)

/-- A value touches no connection. -/
theorem plain_pure {α : Type} (value : α) : Plain (pure value : Statements α) :=
  fun _ => ⟨rfl, by simp [Pool.run, Except.isOk, Except.toBool, Quiet]⟩

/-- Nor does preparing a statement. -/
theorem plain_prepareStatement (conn : Connection) : Plain (prepareStatement conn) := by
  intro pool
  refine ⟨rfl, ?_⟩
  change _ ↔ (Pool.answer (.prepareStatement conn) pool).1.isOk = true ∧ True
  rw [and_true]
  rfl

/-- Nor does an update. -/
theorem plain_executeUpdate (conn : Connection) (statement : Update) :
    Plain (executeUpdate conn statement) := by
  intro pool
  refine ⟨rfl, ?_⟩
  change _ ↔ (Pool.answer (.executeUpdate conn statement) pool).1.isOk = true ∧ True
  rw [and_true]
  rfl

/-- Nor does a query. -/
theorem plain_executeQuery (conn : Connection) (query : Query) :
    Plain (executeQuery conn query) := by
  intro pool
  refine ⟨rfl, ?_⟩
  change _ ↔ (Pool.answer (.executeQuery conn query) pool).1.isOk = true ∧ True
  rw [and_true]
  rfl

/-- Sequencing keeps a block plain. A throwing first part ends the block, and
its throw is then the one the exchanges record. -/
theorem plain_bind {α β : Type} {first : Statements α} {following : α → Statements β}
    (start : Plain first) (rest : ∀ value, Plain (following value)) :
    Plain (first >>= following) := by
  intro pool
  obtain ⟨kept, ended⟩ := start pool
  simp only [Pool.run] at kept ended ⊢
  rw [Program.run_try_bind, Quiet, Program.along_try_bind]
  cases outcome : first.run.run Pool.answer pool with
  | mk result next =>
    rw [outcome] at kept ended
    cases result with
    | ok value =>
      obtain ⟨keptRest, endedRest⟩ := rest value next
      have quiet : Quiet first.run pool := ended.mp rfl
      exact ⟨keptRest.trans kept, endedRest.trans (and_iff_right quiet).symm⟩
    | error exception =>
      have thrown : ¬ Quiet first.run pool := fun quiet => Bool.noConfusion (ended.mpr quiet)
      exact ⟨kept, iff_of_false Bool.noConfusion (fun both => thrown both.1)⟩

/-- The common shape loses its connection exactly when it received one and a
statement threw. With an empty deque it changes nothing. -/
theorem borrowing_conserves {α : Type} (refused caught : α)
    (statements : Connection → Statements α) (plain : ∀ conn, Plain (statements conn))
    (pool : Pool) :
    (pool.run (borrowing refused caught statements)).2.connections.Perm pool.connections ↔
      pool.connections = [] ∨ Quiet (borrowing refused caught statements) pool := by
  obtain ⟨connections, database, throws⟩ := pool
  cases connections with
  | nil => simp [Pool.run, run_borrowing, Pool.answer, Pool.getConnection]
  | cons conn rest =>
    obtain ⟨kept, ended⟩ := plain conn ⟨rest, database, throws⟩
    have exchanges : Quiet (borrowing refused caught statements) ⟨conn :: rest, database, throws⟩ ↔
        Quiet (statements conn).run ⟨rest, database, throws⟩ := by
      rw [Quiet, along_borrowing _ _ _ _ _ _ (fun _ => trivial) (fun _ _ => trivial)]
      rfl
    rw [exchanges, ← ended]
    simp only [Pool.run] at kept ⊢
    rw [run_borrowing]
    simp only [Pool.answer, Pool.getConnection]
    cases outcome : (statements conn).run.run Pool.answer ⟨rest, database, throws⟩ with
    | mk result left =>
      rw [outcome] at kept
      cases result with
      | ok value =>
        have returned : left.connections ++ [conn] = rest ++ [conn] := congrArg (· ++ [conn]) kept
        simp [Pool.releaseConnection, returned, Except.isOk, Except.toBool]
      | error exception =>
        have remaining : left.connections = rest := kept
        have shorter : ¬ rest.Perm (conn :: rest) := fun same => by
          have lengths := same.length_eq
          simp at lengths
        simp [remaining, shorter, Except.isOk, Except.toBool]

/-- `FriendModel::query` loses every connection it receives: no path gives one
back. -/
theorem friendQuery_conserves (userid : Int) (pool : Pool) :
    (pool.run (FriendModel.query userid)).2.connections.Perm pool.connections ↔
      pool.connections = [] := by
  obtain ⟨connections, database, throws⟩ := pool
  cases connections with
  | nil => exact iff_of_true (List.Perm.refl _) rfl
  | cons conn rest =>
    have plain : Plain (FriendModel.statements userid conn) :=
      plain_bind (plain_prepareStatement conn) fun _ =>
        plain_bind (plain_executeQuery conn _) fun _ => plain_pure _
    have kept := (plain ⟨rest, database, throws⟩).1
    have lost : (Pool.run ⟨conn :: rest, database, throws⟩
        (FriendModel.query userid)).2.connections = rest := by
      simp only [Pool.run] at kept ⊢
      rw [FriendModel.query, Program.run_bind]
      change (Program.run Pool.answer (_ >>= _) (⟨rest, database, throws⟩ : Pool)).2.connections = _
      rw [Program.run_bind]
      cases outcome : (FriendModel.statements userid conn).run.run Pool.answer
          ⟨rest, database, throws⟩ with
      | mk result left =>
        rw [outcome] at kept
        cases result <;> exact kept
    rw [lost]
    refine iff_of_false ?_ (List.cons_ne_nil conn rest)
    intro same
    have lengths := same.length_eq
    simp at lengths

/-- The program leaves the deque as it finds it. -/
def Untouching {α : Type} (program : Jdbc α) : Prop :=
  ∀ pool : Pool, (pool.run program).2.connections = pool.connections

/-- Sequencing touches no connection that its parts do not touch. -/
theorem untouching_bind {α β : Type} {first : Jdbc α} {following : α → Jdbc β}
    (start : Untouching first) (rest : ∀ value, Untouching (following value)) :
    Untouching (first >>= following) := by
  intro pool
  simp only [Pool.run, Program.run_bind]
  exact (rest _ _).trans (start pool)

/-- The statements of an insertion take no connection. -/
theorem insertRow_untouching (conn : Connection) (item : Int × String) :
    Untouching (OfflineMessage.insertRow conn item).run := fun pool =>
  (plain_bind (plain_prepareStatement conn) (fun _ => plain_executeUpdate conn _) pool).1

/-- Nor does the loop over the queue. -/
theorem drain_untouching (conn : Connection) (failedQueue : OfflineMessage.FailedQueue) :
    Untouching (OfflineMessage.drain conn failedQueue) := by
  induction failedQueue with
  | nil => exact fun _ => rfl
  | cons item rest inductionHypothesis =>
    refine untouching_bind (insertRow_untouching conn item) ?_
    intro outcome
    cases outcome with
    | error exception => exact fun _ => rfl
    | ok value => exact inductionHypothesis

/-- Nor does an attempt with the connection it was given. -/
theorem attempt_untouching (conn : Connection) (userId : Int) (message : String)
    (failedQueue : OfflineMessage.FailedQueue) :
    Untouching (OfflineMessage.attempt conn userId message failedQueue) := by
  refine untouching_bind (drain_untouching conn failedQueue) ?_
  rintro ⟨remaining, drained⟩
  cases drained with
  | false => exact fun _ => rfl
  | true =>
    refine untouching_bind (insertRow_untouching conn (userId, message)) ?_
    intro outcome
    cases outcome <;> exact fun _ => rfl

/-- Every iteration of the retry loop gives back the connection it took, at the
other end of the deque. -/
theorem insertLoop_conserves (userId : Int) (message : String) (iterations : Nat) :
    ∀ (retryCount : Nat) (success : Bool) (failedQueue : OfflineMessage.FailedQueue)
      (pool : Pool),
      (pool.run (OfflineMessage.insertLoop userId message iterations retryCount success
        failedQueue)).2.connections.Perm pool.connections := by
  induction iterations with
  | zero =>
    intro retryCount success failedQueue pool
    unfold OfflineMessage.insertLoop
    split <;> exact List.Perm.refl _
  | succ iterations inductionHypothesis =>
    intro retryCount success failedQueue pool
    obtain ⟨connections, database, throws⟩ := pool
    unfold OfflineMessage.insertLoop
    split
    · simp only [Pool.run, Program.run_bind]
      cases connections with
      | nil => exact inductionHypothesis (retryCount + 1) success failedQueue ⟨[], database, throws⟩
      | cons conn rest =>
        change (Program.run Pool.answer (_ >>= _)
          (⟨rest, database, throws⟩ : Pool)).2.connections.Perm _
        have kept := attempt_untouching conn userId message failedQueue ⟨rest, database, throws⟩
        simp only [Pool.run, Program.run_bind] at kept ⊢
        have following := inductionHypothesis retryCount
          (Program.run Pool.answer (OfflineMessage.attempt conn userId message failedQueue)
            (⟨rest, database, throws⟩ : Pool)).1.2
          (Program.run Pool.answer (OfflineMessage.attempt conn userId message failedQueue)
            (⟨rest, database, throws⟩ : Pool)).1.1
          ((Program.run Pool.answer (OfflineMessage.attempt conn userId message failedQueue)
            (⟨rest, database, throws⟩ : Pool)).2.releaseConnection conn)
        refine following.trans ?_
        simp only [Pool.releaseConnection, kept]
        exact List.perm_append_singleton conn rest
    · exact List.Perm.refl _

/-- The loop that reads the members touches no connection. -/
theorem readAllMembers_plain (conn : Connection) (vGroup : List Group) :
    Plain (GroupModel.readAllMembers conn vGroup) := by
  induction vGroup with
  | nil => exact plain_pure ()
  | cons group rest inductionHypothesis =>
    refine plain_bind ?_ fun _ => inductionHypothesis
    exact plain_bind (plain_executeQuery conn _) fun _ => plain_pure _

/-- One call of a model function, with its arguments. An insertion of an offline
message also says for how many iterations its loop is followed. -/
inductive Operation where
  | userInsert (user : User)
  | userQuery (id : Int)
  | userUpdateState (user : User)
  | userResetState
  | friendInsert (userid friendid : Int)
  | friendQuery (userid : Int)
  | createGroup (group : Group)
  | joinGroup (userid groupid : Int) (role : String)
  | queryGroups (userid : Int)
  | queryGroupUsers (userid groupid : Int)
  | offlineInsert (iterations : Nat) (userId : Int) (message : String)
  | offlineRemove (userId : Int)
  | offlineQuery (userId : Int)

/-- The pool and the queue of the one object that carries state between calls. -/
structure Server where
  pool : Pool
  failedQueue : OfflineMessage.FailedQueue

/-- A call that keeps the queue and always returns. -/
def keeping {α : Type} (failedQueue : OfflineMessage.FailedQueue) (program : Jdbc α) :
    Jdbc (Option OfflineMessage.FailedQueue) := program >>= fun _ => pure (some failedQueue)

/-- The calls an operation makes, ending with the queue it leaves if it returns. -/
def Operation.program (failedQueue : OfflineMessage.FailedQueue) :
    Operation → Jdbc (Option OfflineMessage.FailedQueue)
  | .userInsert user => keeping failedQueue (UserModel.insert user)
  | .userQuery id => keeping failedQueue (UserModel.query id)
  | .userUpdateState user => keeping failedQueue (UserModel.updateState user)
  | .userResetState => keeping failedQueue UserModel.resetState
  | .friendInsert userid friendid => keeping failedQueue (FriendModel.insert userid friendid)
  | .friendQuery userid => keeping failedQueue (FriendModel.query userid)
  | .createGroup group => keeping failedQueue (GroupModel.createGroup group)
  | .joinGroup userid groupid role => keeping failedQueue (GroupModel.joinGroup userid groupid role)
  | .queryGroups userid => keeping failedQueue (GroupModel.queryGroups userid)
  | .queryGroupUsers userid groupid =>
      keeping failedQueue (GroupModel.queryGroupUsers userid groupid)
  | .offlineInsert iterations userId message => do
      let ended ← OfflineMessage.insert iterations userId message failedQueue
      return ended.map Prod.fst
  | .offlineRemove userId => keeping failedQueue (OfflineMessage.remove userId)
  | .offlineQuery userId => keeping failedQueue (OfflineMessage.query userId)

/-- One operation after another. Nothing follows an operation that has not
returned. -/
def step : Option Server → Operation → Option Server
  | none, _ => none
  | some server, operation =>
      match server.pool.run (operation.program server.failedQueue) with
      | (some failedQueue, pool) => some ⟨pool, failedQueue⟩
      | (none, _) => none

/-- The deque holds these connections, in some order. -/
def Holds (connections : List Connection) : Option Server → Prop
  | none => True
  | some server => server.pool.connections.Perm connections

/-- The operation gets no connection, or gives back what it gets: it is an
insertion of an offline message, or neither `FriendModel::query` nor cut short
by an exception. -/
def GivesBack : Option Server → Operation → Prop
  | none, _ => True
  | some server, operation =>
      server.pool.connections = [] ∨
        match operation with
        | .offlineInsert _ _ _ => True
        | .friendQuery _ => False
        | _ => Quiet (operation.program server.failedQueue) server.pool

/-- A borrowing that hands the queue on gives its connection back if and only if nothing in it
throws. -/
theorem keeping_conserves {α : Type} (failedQueue : OfflineMessage.FailedQueue) (refused caught : α)
    (statements : Connection → Statements α) (plain : ∀ conn, Plain (statements conn))
    (pool : Pool) :
    (pool.run (keeping failedQueue (borrowing refused caught statements))).2.connections.Perm
        pool.connections ↔
      pool.connections = [] ∨
        Quiet (keeping failedQueue (borrowing refused caught statements)) pool := by
  have exchanges : Quiet (keeping failedQueue (borrowing refused caught statements)) pool ↔
      Quiet (borrowing refused caught statements) pool := by
    rw [Quiet, keeping, Program.along_bind]
    exact and_iff_left trivial
  rw [exchanges, ← borrowing_conserves refused caught statements plain pool]
  simp only [Pool.run, keeping, Program.run_bind]
  rfl

/-- A single operation conserves the deque exactly when it gives back what it
gets. -/
theorem program_conserves (server : Server) (operation : Operation) :
    (server.pool.run (operation.program server.failedQueue)).2.connections.Perm
        server.pool.connections ↔ GivesBack (some server) operation := by
  cases operation with
  | userInsert user =>
    exact keeping_conserves _ _ _ _ (fun conn => plain_bind (plain_prepareStatement conn) fun _ =>
      plain_bind (plain_executeUpdate conn _) fun _ => plain_pure true) _
  | userQuery id =>
    exact keeping_conserves _ _ _ _ (fun conn => plain_bind (plain_prepareStatement conn) fun _ =>
      plain_bind (plain_executeQuery conn _) fun _ => plain_pure _) _
  | userUpdateState user =>
    exact keeping_conserves _ _ _ _ (fun conn => plain_bind (plain_prepareStatement conn) fun _ =>
      plain_executeUpdate conn _) _
  | userResetState =>
    exact keeping_conserves _ _ _ _ (fun conn => plain_bind (plain_prepareStatement conn) fun _ =>
      plain_executeUpdate conn _) _
  | friendInsert userid friendid =>
    refine keeping_conserves _ _ _ _ (fun conn => plain_bind (plain_prepareStatement conn) ?_) _
    intro _
    split <;> exact plain_executeUpdate conn _
  | friendQuery userid =>
    have kept := friendQuery_conserves userid server.pool
    simp only [GivesBack, or_false]
    rw [← kept]
    simp only [Operation.program, keeping, Pool.run, Program.run_bind]
    rfl
  | createGroup group =>
    refine keeping_conserves _ _ _ _ (fun conn => plain_bind (plain_prepareStatement conn) fun _ =>
      plain_bind (plain_executeUpdate conn _) fun _ =>
      plain_bind (plain_prepareStatement conn) fun _ =>
      plain_bind (plain_executeQuery conn _) ?_) _
    intro res
    cases res <;> exact plain_pure _
  | joinGroup userid groupid role =>
    exact keeping_conserves _ _ _ _ (fun conn => plain_bind (plain_prepareStatement conn) fun _ =>
      plain_executeUpdate conn _) _
  | queryGroups userid =>
    exact keeping_conserves _ _ _ _ (fun conn => plain_bind (plain_prepareStatement conn) fun _ =>
      plain_bind (plain_executeQuery conn _) fun _ =>
      plain_bind (readAllMembers_plain conn _) fun _ => plain_pure _) _
  | queryGroupUsers userid groupid =>
    exact keeping_conserves _ ([] : List Int) [] _ (fun conn =>
      plain_bind (plain_prepareStatement conn) fun _ =>
      plain_executeQuery conn (.otherUsersOfGroup groupid userid)) _
  | offlineInsert iterations userId message =>
    refine iff_of_true ?_ (Or.inr trivial)
    have kept := insertLoop_conserves userId message iterations 0 false server.failedQueue
      server.pool
    simp only [Operation.program, OfflineMessage.insert, Pool.run, Program.run_bind] at kept ⊢
    cases ended : (Program.run Pool.answer (OfflineMessage.insertLoop userId message iterations 0
        false server.failedQueue) server.pool).1 with
    | none => exact kept
    | some result =>
      obtain ⟨failedQueue, success⟩ := result
      cases success <;> exact kept
  | offlineRemove userId =>
    exact keeping_conserves _ _ _ _ (fun conn => plain_bind (plain_prepareStatement conn) fun _ =>
      plain_bind (plain_executeUpdate conn _) fun _ => plain_pure true) _
  | offlineQuery userId =>
    exact keeping_conserves _ ([] : List String) [] _ (fun conn =>
      plain_bind (plain_prepareStatement conn) fun _ =>
      plain_executeQuery conn (.offlineMessagesOf userId)) _

/-- Only an insertion of an offline message can fail to return. -/
theorem givesBack_of_pending (server : Server) (operation : Operation)
    (pending : step (some server) operation = none) : GivesBack (some server) operation := by
  cases operation with
  | offlineInsert iterations userId message => exact Or.inr trivial
  | _ => simp [step, Operation.program, keeping, Pool.run] at pending

/-- One step keeps the deque up to order exactly when it gives back what it gets. -/
theorem step_holds (connections : List Connection) (state : Option Server)
    (operation : Operation) (held : Holds connections state) :
    Holds connections (step state operation) ↔ GivesBack state operation := by
  cases state with
  | none => exact Iff.rfl
  | some server =>
    have kept := program_conserves server operation
    cases ended : server.pool.run (operation.program server.failedQueue) with
    | mk returned pool =>
      rw [ended] at kept
      cases returned with
      | none =>
        have pending : step (some server) operation = none := by simp only [step, ended]
        rw [pending]
        exact iff_of_true trivial (givesBack_of_pending server operation pending)
      | some failedQueue =>
        have returned : step (some server) operation = some ⟨pool, failedQueue⟩ := by
          simp only [step, ended]
        rw [returned, ← kept]
        exact ⟨fun same => same.trans held.symm, fun same => same.trans held⟩

/-- A history of operations keeps every connection exactly when each operation
finds the deque empty, or inserts an offline message, or is not
`FriendModel::query` and meets no exception. -/
theorem connections_conserved_iff (server : Server) (operations : List Operation) :
    Runs.Always step (Holds server.pool.connections) (some server) operations ↔
      Runs.Guarded step GivesBack (some server) operations :=
  Runs.always_iff_guarded step (Holds server.pool.connections) (fun _ => True) GivesBack
    (fun _ _ _ => trivial) (fun state operation _ => step_holds _ state operation)
    (some server) operations trivial (List.Perm.refl _)

/-- A server with a pool of one connection, on which no statement throws. -/
def singleConnection : Server := ⟨⟨[0], Database.empty, []⟩, []⟩

/-- One friend query empties the pool of one connection. -/
theorem friendQuery_drains_pool :
    ¬ Runs.Always step (Holds [0]) (some singleConnection) [.friendQuery 1] := by
  intro always
  have held : List.Perm [] [0] := Runs.always_end step (Holds [0]) _ _ always
  exact absurd held (by decide)

end ClusterChat.PoolConservation
