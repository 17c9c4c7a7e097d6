import ClusterChat.Library.Interleaving
import ClusterChat.Library.Runs
import ClusterChat.Redis
import Mathlib.Data.List.Perm.Basic
import Mathlib.Logic.Function.Basic

/-!
# The offline list of a user under interleaving

`pushOfflineMessage` is one `LPUSH`. `popOfflineMessages` is an `LRANGE` followed by
a `DEL`, and nothing holds the list still in between: what is pushed after the
`LRANGE` is deleted unread, and what another pop has read is returned twice.

Any number of pushes and pops run as threads, for any users, with every connection
found and every command answered. `pushed` records, beside Redis, the messages whose
`LPUSH` has been executed and the ones that were there in the beginning. What is
left of a thread determines what it has taken: nothing until its `DEL`, and then the
list it is going to return.

`balanced_iff_isolated` says exactly which interleavings keep the messages taken and
those stored in balance with the ones pushed: those in which every `DEL` finds the
list its own pop has read. `conserved_of_isolated` draws the conclusion for the lists
returned. Order within a list is not spoken of, and nothing expires.
-/

namespace ClusterChat.OfflineList

open Interleaving

/-- A call of one of the two operations. -/
inductive Operation where
  | push (userId : Int) (msg : Json)
  | pop (userId : Int)

/-- The user whose list the operation is on. -/
def Operation.user : Operation → Int
  | .push userId _ | .pop userId => userId

/-- The commands of a call, and the messages it returns. -/
def Operation.program : Operation → RedisProgram (List String)
  | .push userId msg => do
      RedisClient.pushOfflineMessage userId msg
      return []
  | .pop userId => RedisClient.popOfflineMessages userId

/-- Redis, and the messages pushed for each user so far. -/
structure Shared where
  store : Redis
  pushed : Int → List String

/-- The pushes seen so far, the newest first. -/
def record : RedisCommand → (Int → List String) → Int → List String
  | .onKey (.offline userId) (.lpush text), pushed =>
      Function.update pushed userId (text :: pushed userId)
  | _, pushed => pushed

/-- One command, atomic and successful. -/
def answer (command : RedisCommand) (shared : Shared) : RedisReply command × Shared :=
  let (reply, next) := RedisAccess.answer command (RedisAccess.reliable shared.store)
  (reply, ⟨next.store, record command shared.pushed⟩)

/-- The calls under way over the shared list. -/
abbrev Threads := State RedisReply (List String) Shared Operation

/-- The state after the event. -/
def step : Threads → Event Operation → Threads :=
  Interleaving.step answer Operation.program

/-- Nothing is running. What is stored counts as pushed. -/
def begin (store : Redis) : Threads := ⟨⟨store, store.waiting⟩, []⟩

/-- What a program has taken: the list it is going to return, once only releases are
left to do. -/
def taken : RedisProgram (List String) → List String
  | .done messages => messages
  | .call (.release _) next => taken (next ())
  | .call _ _ => []

/-- The messages these threads, finished or not, have taken for a user. -/
def takenBy (threads : List (Thread RedisReply (List String) Operation)) (userId : Int) :
    List String :=
  threads.flatMap (fun thread => if thread.tag.user = userId then taken thread.program else [])

/-- The lists the completed pops of a user have returned. -/
def returned (s : Threads) (userId : Int) : List String :=
  s.threads.flatMap (fun thread =>
    match thread.tag, thread.program with
    | .pop user, .done messages => if user = userId then messages else []
    | _, _ => [])

/-- No pop of the user is in progress. -/
def Idle (s : Threads) (userId : Int) : Prop :=
  ∀ thread ∈ s.threads, thread.tag = .pop userId → ∃ messages, thread.program = .done messages

/-- While no pop of a user is in progress, every message pushed for the user is
returned or stored, and is so once. -/
def Conserved (s : Threads) : Prop :=
  ∀ userId, Idle s userId →
    (returned s userId ++ s.shared.store.waiting userId).Perm (s.shared.pushed userId)

/-- At any moment, what was pushed for a user is taken or stored. -/
def Balanced (s : Threads) : Prop :=
  ∀ userId, (takenBy s.threads userId ++ s.shared.store.waiting userId).Perm
    (s.shared.pushed userId)

/-- A `DEL` finds under its key the list that its own pop has read and is going to
return. -/
def Isolated (s : Threads) : Event Operation → Prop
  | .advance i =>
      match s.threads[i]? with
      | some ⟨_, .call (.onKey (.offline userId) .del) next⟩ =>
          (taken (next (.ok ()))).Perm (s.shared.store.waiting userId)
      | _ => True
  | .start _ => True

/-!
## What a thread can still do
-/

/-- The commands of the two operations. -/
def ListCommand (userId : Int) : RedisCommand → Prop
  | .onKey key command => key = .offline userId ∧
      (command = .lrange ∨ command = .del ∨ ∃ text, command = .lpush text)
  | .publish _ _ => False
  | .acquire | .release _ => True

/-- Nothing but a `DEL` changes what a program has taken. -/
def TakesByDel : RedisProgram (List String) → Prop
  | .done _ => True
  | .call (.onKey _ .del) next => ∀ reply, TakesByDel (next reply)
  | .call command next => ∀ reply,
      taken (next reply) = taken (.call command next) ∧ TakesByDel (next reply)

/-- What is left of a call keeps to its key, takes messages by its `DEL`, and takes
none if it is a push. -/
structure Left (operation : Operation) (program : RedisProgram (List String)) : Prop where
  commands : Program.Issues (ListCommand operation.user) program
  takes : TakesByDel program
  pushes : ∀ userId msg, operation = .push userId msg →
    Program.Yields (fun messages => messages = []) program

/-- A program that can only return nothing has taken nothing. -/
theorem taken_of_yields (program : RedisProgram (List String))
    (yields : Program.Yields (fun messages => messages = []) program) : taken program = [] := by
  induction program with
  | done messages => exact yields
  | call command next inductionHypothesis =>
    cases command with
    | release conn => exact inductionHypothesis () (yields ())
    | acquire => rfl
    | onKey key command => rfl
    | publish channel msg => rfl

/-- A push is an `LPUSH` between two calls on the pool, and returns nothing. -/
theorem left_push (userId : Int) (msg : Json) :
    Left (.push userId msg) (Operation.program (.push userId msg)) := by
  constructor
  · refine ⟨trivial, fun grant => ?_⟩
    cases grant with
    | none => exact trivial
    | some conn =>
      refine ⟨⟨rfl, Or.inr (Or.inr ⟨msg.dump, rfl⟩)⟩, fun outcome => ⟨trivial, fun _ => ?_⟩⟩
      cases outcome <;> exact trivial
  · intro grant
    cases grant with
    | none => exact ⟨rfl, trivial⟩
    | some conn =>
      refine ⟨rfl, fun outcome => ?_⟩
      cases outcome <;> exact ⟨rfl, fun _ => ⟨rfl, trivial⟩⟩
  · intro _ _ _ grant
    cases grant with
    | none => exact rfl
    | some conn =>
      intro outcome _
      cases outcome <;> exact rfl

/-- A pop reads and then deletes, whatever the replies are. -/
theorem left_pop (userId : Int) : Left (.pop userId) (Operation.program (.pop userId)) := by
  constructor
  · refine ⟨trivial, fun grant => ?_⟩
    cases grant with
    | none => exact trivial
    | some conn =>
      refine ⟨⟨rfl, Or.inl rfl⟩, fun read => ?_⟩
      cases read with
      | error exception => exact ⟨trivial, fun _ => trivial⟩
      | ok messages =>
        exact ⟨⟨rfl, Or.inr (Or.inl rfl)⟩, fun deleted => ⟨trivial, fun _ => trivial⟩⟩
  · intro grant
    cases grant with
    | none => exact ⟨rfl, trivial⟩
    | some conn =>
      refine ⟨rfl, fun read => ?_⟩
      cases read with
      | error exception => exact ⟨rfl, fun _ => ⟨rfl, trivial⟩⟩
      | ok messages => exact ⟨rfl, fun deleted => fun _ => ⟨rfl, trivial⟩⟩
  · rintro _ _ ⟨⟩

/-- A call that has begun has all its commands left. -/
theorem left_program (operation : Operation) : Left operation operation.program := by
  cases operation with
  | push userId msg => exact left_push userId msg
  | pop userId => exact left_pop userId

/-- What is left stays so after any reply. -/
theorem left_next (operation : Operation) (command : RedisCommand)
    (next : RedisReply command → RedisProgram (List String)) (reply : RedisReply command)
    (left : Left operation (.call command next)) : Left operation (next reply) where
  commands := left.commands.2 reply
  takes := by
    have takes := left.takes
    cases command with
    | onKey key command =>
      cases command with
      | del => exact takes reply
      | _ => exact (takes reply).2
    | _ => exact (takes reply).2
  pushes := fun userId msg isPush => left.pushes userId msg isPush reply

/-- Every thread is what is left of its call. -/
theorem left_step (s : Threads) (event : Event Operation) (every : Every Left s) :
    Every Left (step s event) :=
  every_step answer Operation.program Left left_program left_next s event every

/-!
## The balance
-/

/-- What the calls have taken is what one of them has and what the others have. -/
theorem count_takenBy (before after : List (Thread RedisReply (List String) Operation))
    (operation : Operation) (program : RedisProgram (List String)) (userId : Int) (text : String) :
    (takenBy (before ++ ⟨operation, program⟩ :: after) userId).count text =
      (takenBy (before ++ after) userId).count text +
        if operation.user = userId then (taken program).count text else 0 := by
  simp only [takenBy, List.flatMap_append, List.flatMap_cons, List.count_append]
  split
  · omega
  · simp

/-- The balance, counted for each text. -/
theorem balanced_iff (s : Threads) : Balanced s ↔ ∀ userId text,
    (takenBy s.threads userId).count text + (s.shared.store.waiting userId).count text =
      (s.shared.pushed userId).count text := by
  refine forall_congr' fun userId => ?_
  rw [List.perm_iff_count]
  refine forall_congr' fun text => ?_
  rw [List.count_append]

/-- A command on the list of one user changes that list only. -/
theorem waiting_execute (store : Redis) (userId : Int) (command : KeyCommand) :
    (store.execute (.offline userId) command).2.waiting = Function.update store.waiting userId
      (command.execute store.now (store.entries (.offline userId))).2.list := by
  funext other
  by_cases own : other = userId
  · subst own
    simp [Redis.execute, Redis.waiting]
  · simp [Redis.execute, Redis.waiting, own]

/-- What a command makes of the lists stored and pushed: an `LPUSH` adds to both, a
`DEL` empties the one stored, and the others change neither. -/
theorem answer_lists (userId : Int) (command : RedisCommand) (shared : Shared)
    (permitted : ListCommand userId command) :
    (∃ text, command = .onKey (.offline userId) (.lpush text) ∧
      (answer command shared).2.store.waiting =
        Function.update shared.store.waiting userId (text :: shared.store.waiting userId) ∧
      (answer command shared).2.pushed =
        Function.update shared.pushed userId (text :: shared.pushed userId)) ∨
    (command = .onKey (.offline userId) .del ∧
      (answer command shared).2.store.waiting = Function.update shared.store.waiting userId [] ∧
      (answer command shared).2.pushed = shared.pushed) ∨
    ((∀ key, command ≠ .onKey key .del) ∧
      (answer command shared).2.store.waiting = shared.store.waiting ∧
      (answer command shared).2.pushed = shared.pushed) := by
  cases command with
  | acquire => exact Or.inr (Or.inr ⟨by simp, rfl, rfl⟩)
  | release conn => exact Or.inr (Or.inr ⟨by simp, rfl, rfl⟩)
  | publish channel msg => exact permitted.elim
  | onKey key command =>
    obtain ⟨rfl, rfl | rfl | ⟨text, rfl⟩⟩ := permitted
    · refine Or.inr (Or.inr ⟨by simp, ?_, rfl⟩)
      exact (waiting_execute shared.store userId .lrange).trans (Function.update_eq_self userId _)
    · exact Or.inr (Or.inl ⟨rfl, waiting_execute shared.store userId .del, rfl⟩)
    · exact Or.inl ⟨text, rfl, waiting_execute shared.store userId (.lpush text), rfl⟩

/-- A command other than a `DEL` leaves what its thread has taken. -/
theorem taken_next (command : RedisCommand)
    (next : RedisReply command → RedisProgram (List String)) (reply : RedisReply command)
    (takes : TakesByDel (.call command next)) (notDel : ∀ key, command ≠ .onKey key .del) :
    taken (next reply) = taken (.call command next) := by
  cases command with
  | onKey key command =>
    cases command with
    | del => exact absurd rfl (notDel key)
    | _ => exact (takes reply).1
  | _ => exact (takes reply).1

/-- The next step deletes nothing. -/
theorem isolated_of_notDel (s : Threads) (i : Nat)
    (harmless : ∀ operation key next,
      s.threads[i]? ≠ some ⟨operation, .call (.onKey key .del) next⟩) :
    Isolated s (.advance i) := by
  simp only [Isolated]
  split
  · rename_i found
    exact absurd found (harmless _ _ _)
  · trivial

/-- The balance survives a step exactly when a deletion in it is of the list its own
pop has read. -/
theorem balanced_step_iff (s : Threads) (event : Event Operation) (every : Every Left s)
    (balanced : Balanced s) : Balanced (step s event) ↔ Isolated s event := by
  rw [balanced_iff] at balanced ⊢
  rcases step_cases answer Operation.program s event with
    ⟨operation, rfl, stepped⟩ | ⟨i, rfl, stepped, idle⟩ |
      ⟨i, operation, command, next, before, after, rfl, found, threads, stepped⟩
  · refine iff_of_true ?_ trivial
    have nothing : taken operation.program = [] := by cases operation <;> rfl
    intro userId text
    have fresh := count_takenBy s.threads [] operation operation.program userId text
    rw [nothing, List.count_nil, ite_self, List.append_nil] at fresh
    rw [step, stepped]
    have before := balanced userId text
    simp only
    omega
  · refine iff_of_true ?_ (isolated_of_notDel s i fun operation key next => idle _ _ _)
    rw [step, stepped]
    exact balanced
  · have left : Left operation (.call command next) :=
      every _ (List.mem_of_getElem? found)
    have counted (userId : Int) (text : String) := balanced userId text
    simp only [threads, count_takenBy] at counted
    rw [step, stepped]
    simp only [count_takenBy]
    rcases answer_lists operation.user command s.shared left.commands.1 with
      ⟨text, rfl, stored, pushed⟩ | ⟨rfl, stored, pushed⟩ | ⟨notDel, stored, pushed⟩
    · refine iff_of_true ?_ (isolated_of_notDel s i fun operation' key next' other => ?_)
      · intro userId other
        have before := counted userId other
        rw [taken_next _ next _ left.takes (by simp), stored, pushed]
        by_cases own : userId = operation.user
        · subst own
          rw [Function.update_self, Function.update_self, List.count_cons, List.count_cons]
          omega
        · rw [Function.update_of_ne own, Function.update_of_ne own]
          exact before
      · rw [found] at other
        cases other
    · have deletes : Isolated s (.advance i) ↔
          (taken (next (.ok ()))).Perm (s.shared.store.waiting operation.user) := by
        simp only [Isolated, found]
      rw [deletes, List.perm_iff_count]
      have nothing : taken (.call (.onKey (.offline operation.user) .del) next) = [] := rfl
      simp only [nothing, List.count_nil, ite_self] at counted
      have replied : (answer (.onKey (.offline operation.user) .del) s.shared).1 = .ok () := rfl
      simp only [replied, stored, pushed]
      constructor
      · intro after text
        have before := counted operation.user text
        have own := after operation.user text
        simp only [if_true, Function.update_self, List.count_nil] at own
        omega
      · intro same userId text
        have before := counted userId text
        by_cases own : userId = operation.user
        · subst own
          have read := same text
          simp only [if_true, Function.update_self, List.count_nil]
          omega
        · simp only [Ne.symm own, if_false, Function.update_of_ne own]
          omega
    · refine iff_of_true ?_ (isolated_of_notDel s i fun operation' key next' other => ?_)
      · intro userId other
        rw [taken_next _ next _ left.takes notDel, stored, pushed]
        exact counted userId other
      · rw [found] at other
        cases other
        exact notDel key rfl

/-- The balance holds at the beginning. -/
theorem balanced_begin (store : Redis) : Balanced (begin store) := fun _ => List.Perm.refl _

/-- From any Redis, what was pushed stays in balance with what is taken and stored,
at every moment, if and only if every `DEL` finds the list its own pop has read. -/
theorem balanced_iff_isolated (store : Redis) (events : List (Event Operation)) :
    Runs.Always step Balanced (begin store) events ↔
      Runs.Guarded step Isolated (begin store) events :=
  Runs.always_iff_guarded step Balanced (Every Left) Isolated left_step
    (fun s event every balanced => balanced_step_iff s event every balanced) (begin store) events
    (fun _ member => by cases member) (balanced_begin store)

/-- Without a pop in progress, what is taken is what was returned. -/
theorem returned_of_idle (s : Threads) (userId : Int) (every : Every Left s)
    (idle : Idle s userId) : returned s userId = takenBy s.threads userId := by
  refine List.flatMap_congr fun thread member => ?_
  have left := every thread member
  obtain ⟨operation, program⟩ := thread
  cases operation with
  | push user msg =>
    have nothing : taken program = [] := taken_of_yields program (left.pushes user msg rfl)
    simp [nothing]
  | pop user =>
    by_cases own : user = userId
    · subst own
      obtain ⟨messages, rfl⟩ := idle _ member rfl
      rfl
    · cases program <;> simp [Operation.user, own]

/-- An interleaving in which every `DEL` finds the list its own pop has read returns
and stores every message once, at every moment without a pop in progress. -/
theorem conserved_of_isolated (store : Redis) (events : List (Event Operation))
    (isolated : Runs.Guarded step Isolated (begin store) events) :
    Runs.Always step Conserved (begin store) events := by
  have balanced := (balanced_iff_isolated store events).mpr isolated
  have every := Runs.always_of_step step (Every Left) left_step (begin store) events
    (fun _ member => by cases member)
  refine Runs.always_mono step (fun s => Balanced s ∧ Every Left s) Conserved ?_ (begin store)
    events (Runs.always_and step Balanced (Every Left) (begin store) events balanced every)
  rintro s ⟨balanced, every⟩ userId idle
  rw [returned_of_idle s userId every idle]
  exact balanced userId

/-- The text of the example. -/
def hello : Json := .string "hi"

/-- A push and then a pop. -/
theorem conserved_in_turn :
    Runs.Always step Conserved (begin Redis.empty) [.start (.push 1 hello), .advance 0, .advance 0,
      .advance 0, .start (.pop 1), .advance 1, .advance 1, .advance 1, .advance 1] :=
  conserved_of_isolated Redis.empty _
    ⟨trivial, trivial, trivial, trivial, trivial, trivial, trivial, List.Perm.refl _, trivial,
      trivial⟩

/-- A push between the two commands of a pop, and both calls to their ends. -/
def interrupted : List (Event Operation) :=
  [.start (.pop 1), .advance 0, .advance 0, .start (.push 1 hello), .advance 1, .advance 1,
    .advance 1, .advance 0, .advance 0]

/-- The message is neither returned nor stored. -/
theorem conserved_interrupted :
    ¬ ∀ store events, Runs.Always step Conserved (begin store) events := by
  intro conserved
  have final := Runs.always_end step Conserved _ _ (conserved Redis.empty interrupted)
  have idle : Idle (Runs.run step (begin Redis.empty) interrupted) 1 := by
    intro thread member _
    change thread ∈ [⟨.pop 1, .done []⟩, ⟨.push 1 hello, .done []⟩] at member
    simp only [List.mem_cons, List.not_mem_nil, or_false] at member
    rcases member with rfl | rfl <;> exact ⟨[], rfl⟩
  have counted := (final 1 idle).length_eq
  exact absurd counted (by decide)

end ClusterChat.OfflineList
