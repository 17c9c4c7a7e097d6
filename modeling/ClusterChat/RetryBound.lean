import ClusterChat.RetryBuffer

/-!
# How long a call of `OfflineMessage::insert` takes

The loop of `OfflineMessage::insert` is bounded by `maxRetries`, and `retryCount`
grows where no connection was available. An attempt that got a connection and left
its `try` block by an exception counts nothing, so a message that the table always
rejects keeps the loop going, and so does any queued message of that kind, whoever
the call is for.

`returns_iff` says when a call returns within `maxRetries` iterations. It looks at
the surroundings only: what the first three requests for a connection find, which
statements are made to throw, and which messages the tables accept. Each granted
request may be spent on one statement that throws; what is inserted before it stays
inserted.

The tables are those the call begins with, changed by its own insertions. Sleeping
between attempts takes no iteration.
-/

namespace ClusterChat.RetryBound

open OfflineMessage RetryBuffer

open Access (answer)

/-- The table takes a row for the message: the user exists and the text fits. -/
def Accepts (db : Database) (message : Message) : Prop :=
  db.hasUser message.1 = true ∧ message.2.length ≤ 500

instance (db : Database) (message : Message) : Decidable (Accepts db message) :=
  inferInstanceAs (Decidable (_ ∧ _))

/-- The messages are inserted in so many attempts, when the statements throw as
scripted: each message takes two statements in a row, and a statement that throws
takes an attempt. -/
def Finishes : Nat → Nat → List Bool → Prop
  | _, 0, _ => True
  | 0, _ + 1, _ => False
  | attempts + 1, messages + 1, true :: throws => Finishes attempts (messages + 1) throws
  | attempts + 1, messages + 1, false :: true :: throws =>
      Finishes attempts (messages + 1) throws
  | attempts + 1, messages + 1, false :: false :: throws =>
      Finishes (attempts + 1) messages throws
  | _ + 1, _ + 1, [] => True
  | _ + 1, _ + 1, [false] => True

/-- How many of the next requests find a connection. -/
def granted : Nat → List (Option Connection) → Nat
  | 0, _ => 0
  | requests + 1, [] => requests + 1
  | requests + 1, some _ :: grants => granted requests grants + 1
  | requests + 1, none :: grants => granted requests grants

/-- Without a script every acquisition is granted. -/
theorem granted_quiet (requests : Nat) : granted requests [] = requests := by
  cases requests <;> rfl

/-- The tables take the messages, and the attempts suffice. -/
structure Deliverable (attempts : Nat) (messages : List Message) (m : Access) : Prop where
  accepted : ∀ message ∈ messages, Accepts m.database message
  finishes : Finishes attempts messages.length m.throws

/-- No messages are inserted in any number of attempts. -/
theorem finishes_none (attempts : Nat) (throws : List Bool) : Finishes attempts 0 throws := by
  unfold Finishes
  exact trivial

/-- Without an attempt no message is inserted. -/
theorem not_finishes_zero (messages : Nat) (throws : List Bool) :
    ¬ Finishes 0 (messages + 1) throws := by
  unfold Finishes
  exact not_false

/-- Once scripts are used up, one attempt is enough. -/
theorem finishes_quiet (attempts messages : Nat) : Finishes (attempts + 1) messages [] := by
  cases messages <;> exact trivial

/-- The acquisitions and the users are as before. -/
structure Unmoved (before after : Access) : Prop where
  grants : after.grants = before.grants
  user : after.database.user = before.database.user

/-- Two steps that leave acquisitions and users alone do so together. -/
theorem Unmoved.trans {first second third : Access} (start : Unmoved first second)
    (rest : Unmoved second third) : Unmoved first third :=
  ⟨rest.grants.trans start.grants, rest.user.trans start.user⟩

/-- Such a step changes nothing about which messages the tables accept. -/
theorem Unmoved.accepts {before after : Access} (unmoved : Unmoved before after)
    (message : Message) : Accepts after.database message ↔ Accepts before.database message := by
  rw [Accepts, Accepts, Database.hasUser, Database.hasUser, unmoved.user]

/-- The tables after an accepted insertion. -/
def inserted (db : Database) (message : Message) : Database :=
  { db with offlineMessage := db.offlineMessage ++ [rowOf message] }

/-- The insertion of a message is performed if and only if the tables accept it. -/
theorem update_accepts (db : Database) (conn : Connection) (message : Message) :
    db.update conn (.insertOfflineMessage message.1 message.2) =
      if Accepts db message then .ok (inserted db message) else .error .raised := by
  simp only [Database.update, Accepts]
  by_cases present : db.hasUser message.1 = true
  · by_cases fits : message.2.length ≤ 500
    · have short : ¬ 500 < message.2.length := by omega
      simp [present, fits, short, inserted, rowOf]
    · have long : 500 < message.2.length := by omega
      simp [present, fits, long]
  · simp [present]

/-- The insertion takes effect when it is not made to throw and the tables take the
row. -/
theorem executeRow (conn : Connection) (message : Message) (db : Database)
    (grants : List (Option Connection)) (throws : List Bool) :
    answer (.executeUpdate conn (.insertOfflineMessage message.1 message.2))
        ⟨db, grants, throws⟩ =
      if throws.head? ≠ some true ∧ Accepts db message then
        (.ok (), ⟨inserted db message, grants, throws.tail⟩)
      else (.error .raised, ⟨db, grants, throws.tail⟩) := by
  simp only [answer, Access.attempt, update_accepts]
  by_cases accepted : Accepts db message
  · rcases throws with _ | ⟨_ | _, throws⟩ <;>
      simp [nextOf, accepted, Except.map]
  · rcases throws with _ | ⟨_ | _, throws⟩ <;>
      simp [nextOf, accepted, Except.map]

/-- The row of a message is inserted, or a statement throws. In either case the
script says what is left to do. -/
theorem insertRow_settles (conn : Connection) (message : Message) (m : Access) :
    (∃ left, (insertRow conn message).run.run answer m = (.ok (), left) ∧ Unmoved m left ∧
      Accepts m.database message ∧ ∀ attempts messages,
        Finishes (attempts + 1) (messages + 1) m.throws ↔
          Finishes (attempts + 1) messages left.throws) ∨
    ∃ exception left, (insertRow conn message).run.run answer m = (.error exception, left) ∧
      Unmoved m left ∧ (Accepts m.database message → ∀ attempts messages,
        Finishes (attempts + 1) (messages + 1) m.throws ↔
          Finishes attempts (messages + 1) left.throws) := by
  obtain ⟨db, grants, throws⟩ := m
  rw [insertRow, Program.run_try_bind]
  simp only [run_prepareStatement, run_executeUpdate]
  have unmoved (rest : List Bool) :
      Unmoved ⟨db, grants, throws⟩ ⟨inserted db message, grants, rest⟩ := ⟨rfl, rfl⟩
  have unchanged (rest : List Bool) : Unmoved ⟨db, grants, throws⟩ ⟨db, grants, rest⟩ := ⟨rfl, rfl⟩
  rcases throws with _ | ⟨_ | _, rest⟩
  · change (∃ left, answer _ ⟨db, grants, []⟩ = _ ∧ _) ∨ ∃ exception left, answer _ _ = _ ∧ _
    rw [executeRow]
    by_cases accepted : Accepts db message
    · rw [if_pos ⟨by simp, accepted⟩]
      exact Or.inl ⟨_, rfl, unmoved _, accepted, fun attempts messages =>
        iff_of_true trivial (finishes_quiet attempts messages)⟩
    · rw [if_neg (fun taken => accepted taken.2)]
      exact Or.inr ⟨_, _, rfl, unchanged _, fun taken => absurd taken accepted⟩
  · change (∃ left, answer _ ⟨db, grants, rest⟩ = _ ∧ _) ∨ ∃ exception left, answer _ _ = _ ∧ _
    rw [executeRow]
    by_cases accepted : Accepts db message
    · rcases rest with _ | ⟨_ | _, rest⟩
      · rw [if_pos ⟨by simp, accepted⟩]
        exact Or.inl ⟨_, rfl, unmoved _, accepted, fun attempts messages =>
          iff_of_true trivial (finishes_quiet attempts messages)⟩
      · rw [if_pos ⟨by simp, accepted⟩]
        exact Or.inl ⟨_, rfl, unmoved _, accepted, fun _ _ => Iff.rfl⟩
      · rw [if_neg (fun taken => taken.1 rfl)]
        exact Or.inr ⟨_, _, rfl, unchanged _, fun _ _ _ => Iff.rfl⟩
    · rw [if_neg (fun taken => accepted taken.2)]
      exact Or.inr ⟨_, _, rfl, unchanged _, fun taken => absurd taken accepted⟩
  · exact Or.inr ⟨_, _, rfl, unchanged rest, fun _ _ _ => Iff.rfl⟩

section Deliverable

variable {m left : Access} {message : Message} (unmoved : Unmoved m left) (attempts : Nat)
  (messages : List Message)

include unmoved

/-- An inserted message is done with. -/
theorem deliverable_inserted (accepted : Accepts m.database message)
    (finishes : ∀ attempts messages, Finishes (attempts + 1) (messages + 1) m.throws ↔
      Finishes (attempts + 1) messages left.throws) :
    Deliverable (attempts + 1) (message :: messages) m ↔
      Deliverable (attempts + 1) messages left := by
  constructor
  · intro deliverable
    refine ⟨?_, (finishes attempts messages.length).mp deliverable.finishes⟩
    intro other member
    exact (unmoved.accepts other).mpr
      (deliverable.accepted other (List.mem_cons_of_mem _ member))
  · intro deliverable
    refine ⟨?_, (finishes attempts messages.length).mpr deliverable.finishes⟩
    intro other member
    rcases List.mem_cons.mp member with rfl | later
    · exact accepted
    · exact (unmoved.accepts other).mp (deliverable.accepted other later)

/-- A statement that throws costs an attempt. -/
theorem deliverable_thrown (finishes : Accepts m.database message → ∀ attempts messages,
      Finishes (attempts + 1) (messages + 1) m.throws ↔
        Finishes attempts (messages + 1) left.throws) :
    Deliverable (attempts + 1) (message :: messages) m ↔
      Deliverable attempts (message :: messages) left := by
  constructor
  · intro deliverable
    have own := deliverable.accepted message List.mem_cons_self
    refine ⟨?_, (finishes own attempts messages.length).mp deliverable.finishes⟩
    exact fun other member => (unmoved.accepts other).mpr (deliverable.accepted other member)
  · intro deliverable
    have own := (unmoved.accepts message).mp (deliverable.accepted message List.mem_cons_self)
    refine ⟨?_, (finishes own attempts messages.length).mpr deliverable.finishes⟩
    exact fun other member => (unmoved.accepts other).mp (deliverable.accepted other member)

end Deliverable

/-- The drain loop empties the queue, or leaves what one attempt fewer has to do. -/
theorem drain_settles (conn : Connection) (failedQueue : FailedQueue) (m : Access) :
    ∃ remaining drained left, (drain conn failedQueue).run answer m = ((remaining, drained), left) ∧
      Unmoved m left ∧
      (drained = true → remaining = [] ∧ ∀ attempts tail,
        Deliverable (attempts + 1) (failedQueue ++ tail) m ↔
          Deliverable (attempts + 1) tail left) ∧
      (drained = false → ∀ attempts tail, Deliverable (attempts + 1) (failedQueue ++ tail) m ↔
        Deliverable attempts (remaining ++ tail) left) := by
  induction failedQueue generalizing m with
  | nil => exact ⟨[], true, m, rfl, ⟨rfl, rfl⟩, fun _ => ⟨rfl, fun _ _ => Iff.rfl⟩, by simp⟩
  | cons message rest inductionHypothesis =>
    rw [drain, Program.run_bind]
    rcases insertRow_settles conn message m with
      ⟨left, returned, unmoved, accepted, finishes⟩ | ⟨exception, left, thrown, unmoved, finishes⟩
    · obtain ⟨remaining, drained, last, ended, still, all, some⟩ := inductionHypothesis left
      have first (attempts : Nat) (tail : List Message) :=
        deliverable_inserted unmoved attempts (rest ++ tail) accepted finishes
      rw [returned]
      refine ⟨remaining, drained, last, ended, unmoved.trans still, ?_, ?_⟩
      · intro finished
        obtain ⟨empty, same⟩ := all finished
        exact ⟨empty, fun attempts tail => (first attempts tail).trans (same attempts tail)⟩
      · intro stopped attempts tail
        exact (first attempts tail).trans (some stopped attempts tail)
    · rw [thrown]
      refine ⟨message :: rest, false, left, rfl, unmoved, by simp, ?_⟩
      intro _ attempts tail
      exact deliverable_thrown unmoved attempts (rest ++ tail) finishes

/-- An attempt succeeds, or leaves what one attempt fewer has to do. -/
theorem attempt_settles (conn : Connection) (message : Message) (failedQueue : FailedQueue)
    (m : Access) : ∃ remaining success left,
      (attempt conn message.1 message.2 failedQueue).run answer m =
        ((remaining, success), left) ∧ Unmoved m left ∧
      (success = true → ∀ attempts, Deliverable (attempts + 1) (failedQueue ++ [message]) m) ∧
      (success = false → ∀ attempts, Deliverable (attempts + 1) (failedQueue ++ [message]) m ↔
        Deliverable attempts (remaining ++ [message]) left) := by
  obtain ⟨remaining, drained, left, ended, unmoved, all, some⟩ := drain_settles conn failedQueue m
  rw [attempt, Program.run_bind, ended]
  cases drained with
  | false =>
    refine ⟨remaining, false, left, rfl, unmoved, by simp, ?_⟩
    exact fun _ attempts => some rfl attempts [message]
  | true =>
    obtain ⟨rfl, same⟩ := all rfl
    simp only [Program.run_bind]
    rcases insertRow_settles conn message left with
      ⟨last, returned, still, accepted, finishes⟩ | ⟨exception, last, thrown, still, finishes⟩
    · rw [returned]
      refine ⟨[], true, last, rfl, unmoved.trans still, ?_, by simp⟩
      intro _ attempts
      rw [same, deliverable_inserted still attempts [] accepted finishes]
      exact ⟨by simp, finishes_none _ _⟩
    · rw [thrown]
      refine ⟨[], false, last, rfl, unmoved.trans still, by simp, ?_⟩
      intro _ attempts
      rw [same]
      exact deliverable_thrown still attempts [] finishes

/-- Without an attempt nothing is delivered. -/
theorem not_deliverable_zero (failedQueue : FailedQueue) (message : Message) (m : Access) :
    ¬ Deliverable 0 (failedQueue ++ [message]) m := by
  intro deliverable
  have finishes := deliverable.finishes
  rw [List.length_append] at finishes
  exact not_finishes_zero failedQueue.length m.throws finishes

/-- What is deliverable does not depend on the acquisitions. -/
theorem deliverable_congr {attempts : Nat} {messages : List Message} {m other : Access}
    (database : other.database = m.database) (throws : other.throws = m.throws) :
    Deliverable attempts messages other ↔ Deliverable attempts messages m := by
  constructor
  · exact fun held => ⟨database ▸ held.accepted, throws ▸ held.finishes⟩
  · exact fun held => ⟨database.symm ▸ held.accepted, throws.symm ▸ held.finishes⟩

/-- An iteration with a connection: when the loop returns from what an unsuccessful
attempt leaves is known, it is known with one attempt more. -/
theorem attempted_returns (message : Message) (conn : Connection) (iterations retryCount : Nat)
    (further : ∀ failedQueue m, ((insertLoop message.1 message.2 iterations retryCount false
        failedQueue).run answer m).1.isSome = true ↔
      Deliverable (granted iterations m.grants) (failedQueue ++ [message]) m)
    (failedQueue : FailedQueue) (m : Access) :
    ((do
      let (failedQueue, success) ← attempt conn message.1 message.2 failedQueue
      releaseConnection conn
      insertLoop message.1 message.2 iterations retryCount success failedQueue :
        Jdbc (Option (FailedQueue × Bool))).run answer m).1.isSome = true ↔
      Deliverable (granted iterations m.grants + 1) (failedQueue ++ [message]) m := by
  obtain ⟨remaining, success, left, ended, unmoved, succeeded, failed⟩ :=
    attempt_settles conn message failedQueue m
  rw [Program.run_bind, ended]
  cases success with
  | true =>
    refine iff_of_true ?_ (succeeded rfl _)
    unfold insertLoop
    simp only [Bool.true_eq_false, and_false, if_false]
    rfl
  | false =>
    rw [failed rfl, ← unmoved.grants]
    exact further remaining left

/-- The loop returns within its iterations when all of them find no connection and
that exhausts the retries, or when the granted attempts deliver every message. -/
theorem insertLoop_returns (message : Message) (iterations : Nat) :
    ∀ (retryCount : Nat) (failedQueue : FailedQueue) (m : Access),
      retryCount + iterations ≤ maxRetries →
      (((insertLoop message.1 message.2 iterations retryCount false failedQueue).run answer
          m).1.isSome = true ↔
        (retryCount + iterations = maxRetries ∧ granted iterations m.grants = 0) ∨
          Deliverable (granted iterations m.grants) (failedQueue ++ [message]) m) := by
  induction iterations with
  | zero =>
    intro retryCount failedQueue m bounded
    have none := not_deliverable_zero failedQueue message m
    unfold insertLoop
    by_cases more : retryCount < maxRetries
    · rw [if_pos ⟨more, rfl⟩]
      refine iff_of_false (by simp) ?_
      rintro (⟨exhausted, _⟩ | deliverable)
      · omega
      · exact none deliverable
    · rw [if_neg (fun goesOn => more goesOn.1)]
      refine iff_of_true rfl (Or.inl ⟨?_, rfl⟩)
      omega
  | succ iterations inductionHypothesis =>
    intro retryCount failedQueue m bounded
    have more : retryCount < maxRetries := by omega
    unfold insertLoop
    rw [if_pos ⟨more, rfl⟩, Program.run_bind]
    obtain ⟨database, grants, throws⟩ := m
    have further (failedQueue : FailedQueue) (m : Access) :
        ((insertLoop message.1 message.2 iterations retryCount false failedQueue).run answer
          m).1.isSome = true ↔
        Deliverable (granted iterations m.grants) (failedQueue ++ [message]) m := by
      rw [inductionHypothesis retryCount failedQueue m (by omega)]
      refine or_iff_right ?_
      rintro ⟨exhausted, _⟩
      omega
    have unlimited : ∀ count, ¬ (retryCount + (iterations + 1) = maxRetries ∧ count + 1 = 0) := by
      rintro count ⟨_, impossible⟩
      omega
    rcases grants with _ | ⟨_ | conn, grants⟩
    · refine (attempted_returns message 0 iterations retryCount further failedQueue
        ⟨database, [], throws⟩).trans ?_
      rw [granted_quiet, granted, or_iff_right (unlimited _)]
    · refine (inductionHypothesis (retryCount + 1) failedQueue ⟨database, grants, throws⟩
        (by omega)).trans ?_
      rw [granted, Nat.add_right_comm, Nat.add_assoc]
      exact or_congr Iff.rfl (deliverable_congr rfl rfl)
    · refine (attempted_returns message conn iterations retryCount further failedQueue
        ⟨database, grants, throws⟩).trans ?_
      rw [granted, or_iff_right (unlimited _)]
      exact deliverable_congr rfl rfl

/-- A call returns within `maxRetries` iterations if and only if none of the first
requests finds a connection, or the tables take every queued message and its own,
and the granted requests outnumber the statements that throw meanwhile. -/
theorem returns_iff (userId : Int) (message : String) (failedQueue : FailedQueue) (m : Access) :
    (m.run (OfflineMessage.insert maxRetries userId message failedQueue)).1.isSome = true ↔
      granted maxRetries m.grants = 0 ∨
        Deliverable (granted maxRetries m.grants) (failedQueue ++ [(userId, message)]) m := by
  have looped := insertLoop_returns (userId, message) maxRetries 0 failedQueue m (by omega)
  rw [Nat.zero_add, eq_self_iff_true, true_and] at looped
  rw [← looped, Access.run, OfflineMessage.insert, Program.run_bind]
  cases (insertLoop userId message maxRetries 0 false failedQueue).run answer m with
  | mk result left =>
    rcases result with _ | ⟨queue, _ | _⟩ <;> exact Iff.rfl

/-- While connections are to be had, a message the tables reject keeps the loop going
for ever. -/
theorem insertLoop_hangs (message : Message) (iterations retryCount : Nat)
    (retries : retryCount < maxRetries) : ∀ (failedQueue : FailedQueue) (m : Access),
      m.grants = [] → (∀ attempts, ¬ Deliverable attempts (failedQueue ++ [message]) m) →
      ((insertLoop message.1 message.2 iterations retryCount false failedQueue).run answer m).1 =
        none := by
  induction iterations with
  | zero =>
    intro failedQueue m quiet stuck
    unfold insertLoop
    rw [if_pos ⟨retries, rfl⟩]
    rfl
  | succ iterations inductionHypothesis =>
    intro failedQueue m quiet stuck
    obtain ⟨database, grants, throws⟩ := m
    simp only at quiet
    subst quiet
    obtain ⟨remaining, success, left, ended, unmoved, succeeded, failed⟩ :=
      attempt_settles 0 message failedQueue ⟨database, [], throws⟩
    unfold insertLoop
    rw [if_pos ⟨retries, rfl⟩, Program.run_bind]
    change ((do
      let (failedQueue, success) ← attempt 0 message.1 message.2 failedQueue
      releaseConnection 0
      insertLoop message.1 message.2 iterations retryCount success failedQueue :
        Jdbc (Option (FailedQueue × Bool))).run answer ⟨database, [], throws⟩).1 = none
    rw [Program.run_bind, ended]
    cases success with
    | true => exact absurd (succeeded rfl 0) (stuck 1)
    | false =>
      refine inductionHypothesis remaining left unmoved.grants ?_
      exact fun attempts deliverable => stuck (attempts + 1) ((failed rfl attempts).mpr deliverable)

/-- So does one that is rejected out of the queue, whomever the call is for. -/
theorem hangs_of_rejected (userId : Int) (message : String) (failedQueue : FailedQueue)
    (m : Access) (rejected : ∃ item ∈ failedQueue ++ [(userId, message)],
      ¬ Accepts m.database item) (available : m.grants = []) (iterations : Nat) :
    (m.run (OfflineMessage.insert iterations userId message failedQueue)).1 = none := by
  obtain ⟨item, member, refused⟩ := rejected
  have looped := insertLoop_hangs (userId, message) iterations 0 (by decide) failedQueue m available
    (fun _ deliverable => refused (deliverable.accepted item member))
  rw [Access.run, OfflineMessage.insert, Program.run_bind]
  simp only at looped
  rw [looped]
  rfl

/-- A message for a user who does not exist, over a database that works. -/
theorem returns_unknown : ¬ ∀ (userId : Int) (message : String) (failedQueue : FailedQueue)
    (m : Access),
    (m.run (OfflineMessage.insert maxRetries userId message failedQueue)).1.isSome = true := by
  intro returns
  have returned := returns 9 "hello" [] (Access.undisturbed Database.empty)
  rw [hangs_of_rejected 9 "hello" [] _ ⟨(9, "hello"), by simp, by decide⟩ rfl] at returned
  cases returned

end ClusterChat.RetryBound
