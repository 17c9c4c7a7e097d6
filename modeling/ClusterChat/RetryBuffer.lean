import ClusterChat.Models

/-!
# The retry buffer of offline messages

`OfflineMessage::insert` first drains `failedQueue_` and then inserts its own
message, inside one `try` block that may be left at any statement and entered
again by the next attempt. Whatever was inserted before the exception has left the
queue, and whatever was not is still at its front.

The balance of one statement, of the drain loop, of an attempt, of the retry loop
and of a call is stated over the rows it added to the table. `conserved` is the
balance of a run: the rows inserted so far, followed by the queue, are the messages
passed so far in the order of the calls.

A call meets any tables, any acquisitions and any exceptions; a statement that
throws has inserted nothing. Calls follow one another, and each returns.
-/

namespace ClusterChat.RetryBuffer

open OfflineMessage

open Access (answer)

/-- The user and the text of a message, as the arguments of a call give them. -/
abbrev Message := Int × String

/-- The row of a message. -/
def rowOf (message : Message) : OfflineMessageRow := ⟨message.1, message.2⟩

/-- These rows were added to the table, in this order, and nothing else changed. -/
def Inserted (before after : Access) (messages : List Message) : Prop :=
  after.database = { before.database with
    offlineMessage := before.database.offlineMessage ++ messages.map rowOf }

/-- Reading statements insert nothing. -/
theorem inserted_none (before after : Access) (same : after.database = before.database) :
    Inserted before after [] := by
  rw [Inserted, same, List.map_nil, List.append_nil]

/-- Two steps insert their messages in order. -/
theorem Inserted.trans {first second third : Access} {earlier later : List Message}
    (start : Inserted first second earlier) (rest : Inserted second third later) :
    Inserted first third (earlier ++ later) := by
  rw [Inserted] at *
  rw [rest, start, List.map_append, List.append_assoc]

/-- Statements that insert nothing may come before. -/
theorem Inserted.after {first second third : Access} {messages : List Message}
    (rest : Inserted second third messages) (same : second.database = first.database) :
    Inserted first third messages :=
  (inserted_none first second same).trans rest

/-- An accepted insertion adds its row at the end. -/
theorem update_insertOfflineMessage (db next : Database) (conn : Connection) (message : Message)
    (accepted : db.update conn (.insertOfflineMessage message.1 message.2) = .ok next) :
    next = { db with offlineMessage := db.offlineMessage ++ [rowOf message] } := by
  simp only [Database.update] at accepted
  split at accepted
  · cases accepted
  · cases accepted
    rfl

/-- The insertion of a row adds it and returns, or throws and adds nothing. -/
theorem insertRow_ends (conn : Connection) (message : Message) (m : Access) :
    (∃ exception left, (insertRow conn message).run.run answer m = (.error exception, left) ∧
      Inserted m left []) ∨
    ∃ left, (insertRow conn message).run.run answer m = (.ok (), left) ∧
      Inserted m left [message] := by
  rw [insertRow, Program.run_try_bind]
  simp only [run_prepareStatement, run_executeUpdate]
  rcases m.prepareStatement_ends conn with
    ⟨exception, left, prepared, same⟩ | ⟨left, prepared, same⟩
  · rw [prepared]
    exact Or.inl ⟨exception, left, rfl, inserted_none m left same⟩
  · rw [prepared]
    simp only
    rcases left.executeUpdate_ends conn (.insertOfflineMessage message.1 message.2) with
      ⟨exception, last, executed, unchanged⟩ | ⟨last, executed, accepted⟩
    · rw [executed]
      exact Or.inl ⟨exception, last, rfl, inserted_none m last (unchanged.trans same)⟩
    · rw [executed]
      rw [same] at accepted
      exact Or.inr ⟨last, rfl, update_insertOfflineMessage m.database last.database conn message
        accepted⟩

/-- The drain loop inserts a front part of the queue and leaves the rest. -/
theorem drain_ends (conn : Connection) (failedQueue : FailedQueue) (m : Access) :
    ∃ flushed remaining drained left,
      (drain conn failedQueue).run answer m = ((remaining, drained), left) ∧
      Inserted m left flushed ∧ flushed ++ remaining = failedQueue ∧
      (drained = true → remaining = []) := by
  induction failedQueue generalizing m with
  | nil => exact ⟨[], [], true, m, rfl, inserted_none m m rfl, rfl, fun _ => rfl⟩
  | cons message rest inductionHypothesis =>
    rw [drain, Program.run_bind]
    rcases insertRow_ends conn message m with
      ⟨exception, left, thrown, unchanged⟩ | ⟨left, returned, added⟩
    · rw [thrown]
      exact ⟨[], message :: rest, false, left, rfl, unchanged, rfl, by simp⟩
    · obtain ⟨flushed, remaining, drained, last, ended, more, split, finished⟩ :=
        inductionHypothesis left
      rw [returned]
      refine ⟨message :: flushed, remaining, drained, last, ended, added.trans more, ?_, finished⟩
      rw [List.cons_append, split]

/-- What one attempt, and after it the whole loop, makes of the queue and of its
own message: everything was inserted, or a front part of the queue was. -/
def Progress (failedQueue : FailedQueue) (message : Message) (inserted : List Message)
    (remaining : FailedQueue) : Bool → Prop
  | true => inserted = failedQueue ++ [message] ∧ remaining = []
  | false => inserted ++ remaining = failedQueue

/-- An attempt inserts what leaves the queue, and its own message if it succeeds. -/
theorem attempt_ends (conn : Connection) (message : Message) (failedQueue : FailedQueue)
    (m : Access) : ∃ inserted remaining success left,
      (attempt conn message.1 message.2 failedQueue).run answer m =
        ((remaining, success), left) ∧
      Inserted m left inserted ∧ Progress failedQueue message inserted remaining success := by
  obtain ⟨flushed, remaining, drained, left, ended, added, split, finished⟩ :=
    drain_ends conn failedQueue m
  rw [attempt, Program.run_bind, ended]
  cases drained with
  | false => exact ⟨flushed, remaining, false, left, rfl, added, split⟩
  | true =>
    have empty : remaining = [] := finished rfl
    subst empty
    rw [List.append_nil] at split
    subst split
    simp only [Program.run_bind]
    rcases insertRow_ends conn message left with
      ⟨exception, last, thrown, unchanged⟩ | ⟨last, returned, more⟩
    · rw [thrown]
      exact ⟨flushed ++ [], [], false, last, rfl, added.trans unchanged, by simp [Progress]⟩
    · rw [returned]
      exact ⟨flushed ++ [message], [], true, last, rfl, added.trans more, rfl, rfl⟩

/-- The attempts of the loop add up: what one leaves in the queue is what the next
begins with. -/
theorem insertLoop_ends (message : Message) (iterations : Nat) :
    ∀ (retryCount : Nat) (failedQueue remaining : FailedQueue) (success : Bool) (m left : Access),
      (insertLoop message.1 message.2 iterations retryCount false failedQueue).run answer m =
        (some (remaining, success), left) →
      ∃ inserted, Inserted m left inserted ∧
        Progress failedQueue message inserted remaining success := by
  induction iterations with
  | zero =>
    intro retryCount failedQueue remaining success m left returned
    unfold insertLoop at returned
    split at returned
    · cases returned
    · cases returned
      exact ⟨[], inserted_none m m rfl, rfl⟩
  | succ iterations inductionHypothesis =>
    intro retryCount failedQueue remaining success m left returned
    unfold insertLoop at returned
    split at returned
    · rw [Program.run_bind, getConnection, Program.run_issue] at returned
      have same : (answer .getConnection m).2.database = m.database := rfl
      cases acquired : (answer .getConnection m).1 with
      | none =>
        rw [acquired] at returned
        obtain ⟨inserted, added, progress⟩ :=
          inductionHypothesis (retryCount + 1) failedQueue remaining success _ left returned
        exact ⟨inserted, added.after same, progress⟩
      | some conn =>
        rw [acquired] at returned
        obtain ⟨inserted, queue, succeeded, last, ended, added, progress⟩ :=
          attempt_ends conn message failedQueue (answer .getConnection m).2
        simp only [Program.run_bind, ended] at returned
        cases succeeded with
        | true =>
          unfold insertLoop at returned
          simp only [Bool.true_eq_false, and_false, if_false] at returned
          cases returned
          exact ⟨inserted, added.after same, progress⟩
        | false =>
          obtain ⟨more, addedMore, progressMore⟩ :=
            inductionHypothesis retryCount queue remaining success _ left returned
          refine ⟨inserted ++ more, (added.trans (addedMore.after rfl)).after same, ?_⟩
          rw [Progress] at progress
          cases success with
          | true =>
            obtain ⟨rfl, rfl⟩ := progressMore
            exact ⟨by rw [← progress, List.append_assoc], rfl⟩
          | false =>
            rw [Progress] at progressMore ⊢
            rw [List.append_assoc, progressMore, progress]
    · cases returned
      exact ⟨[], inserted_none m m rfl, rfl⟩

/-- A call that returns inserts a front part of the queue with its own message at
the end, and leaves the rest; it reports whether nothing was left. -/
theorem insert_ends (message : Message) (iterations : Nat) (failedQueue remaining : FailedQueue)
    (success : Bool) (m left : Access)
    (returned : m.run (OfflineMessage.insert iterations message.1 message.2 failedQueue) =
      (some (remaining, success), left)) :
    ∃ inserted, Inserted m left inserted ∧ inserted ++ remaining = failedQueue ++ [message] ∧
      (success = true ↔ remaining = []) := by
  rw [Access.run, OfflineMessage.insert, Program.run_bind] at returned
  cases looped : (insertLoop message.1 message.2 iterations 0 false failedQueue).run answer m with
  | mk result last =>
    rw [looped] at returned
    cases result with
    | none => cases returned
    | some ended =>
      obtain ⟨queue, succeeded⟩ := ended
      obtain ⟨inserted, added, progress⟩ :=
        insertLoop_ends message iterations 0 failedQueue queue succeeded m last looped
      cases succeeded with
      | true =>
        obtain ⟨all, rfl⟩ := progress
        cases returned
        exact ⟨inserted, added, by rw [all, List.append_nil], by simp⟩
      | false =>
        rw [Progress] at progress
        cases returned
        exact ⟨inserted, added, by rw [← List.append_assoc, progress], by simp⟩

/-!
## Whose messages are inserted
-/

/-- The statement inserts a message with the property. -/
def Inserts (wanted : Message → Prop) : Update → Prop
  | .insertOfflineMessage userid message => wanted (userid, message)
  | _ => False

section Wanted

variable (wanted : Message → Prop)

/-- An insertion inserts its own message and no other. -/
theorem insertRow_only (conn : Connection) (message : Message) (own : wanted message) :
    UpdatesOnly (Inserts wanted) (insertRow conn message).run :=
  updatesOnly_update (Inserts wanted) conn _ own

/-- The drain loop inserts messages of the queue and leaves messages of the queue. -/
theorem drain_only (conn : Connection) (failedQueue : FailedQueue)
    (every : ∀ message ∈ failedQueue, wanted message) :
    UpdatesOnly (Inserts wanted) (drain conn failedQueue) ∧
      Program.Yields (fun ended => ∀ message ∈ ended.1, wanted message)
        (drain conn failedQueue) := by
  induction failedQueue with
  | nil => exact ⟨trivial, fun _ member => absurd member List.not_mem_nil⟩
  | cons message rest inductionHypothesis =>
    have own := every message List.mem_cons_self
    obtain ⟨updates, leaves⟩ :=
      inductionHypothesis (fun other member => every other (List.mem_cons_of_mem _ member))
    constructor
    · refine Program.issues_bind _ _ _ (insertRow_only wanted conn message own) ?_
      intro outcome
      cases outcome with
      | error exception => exact trivial
      | ok value => exact updates
    · refine Program.yields_bind (fun _ => True) _ _ _ (Program.yields_any _) ?_
      intro outcome _
      cases outcome with
      | error exception => exact every
      | ok value => exact leaves

/-- An attempt with a queue inserts its own message and those of the queue. -/
theorem attempt_only (conn : Connection) (message : Message) (failedQueue : FailedQueue)
    (own : wanted message) (every : ∀ message ∈ failedQueue, wanted message) :
    UpdatesOnly (Inserts wanted) (attempt conn message.1 message.2 failedQueue) ∧
      Program.Yields (fun ended => ∀ message ∈ ended.1, wanted message)
        (attempt conn message.1 message.2 failedQueue) := by
  obtain ⟨updates, leaves⟩ := drain_only wanted conn failedQueue every
  constructor
  · refine Program.issues_bind _ _ _ updates ?_
    rintro ⟨remaining, drained⟩
    cases drained with
    | false => exact trivial
    | true =>
      refine Program.issues_bind _ _ _ (insertRow_only wanted conn message own) ?_
      intro outcome
      cases outcome <;> exact trivial
  · refine Program.yields_bind _ _ _ _ leaves ?_
    rintro ⟨remaining, drained⟩ left
    cases drained with
    | false => exact left
    | true =>
      refine Program.yields_bind (fun _ => True) _ _ _ (Program.yields_any _) ?_
      intro outcome _
      cases outcome <;> exact left

/-- The loop inserts messages of the queue and its own, and leaves such messages. -/
theorem insertLoop_only (message : Message) (own : wanted message) (iterations : Nat) :
    ∀ (retryCount : Nat) (success : Bool) (failedQueue : FailedQueue),
      (∀ message ∈ failedQueue, wanted message) →
      UpdatesOnly (Inserts wanted)
        (insertLoop message.1 message.2 iterations retryCount success failedQueue) ∧
      Program.Yields (fun ended => ∀ result, ended = some result →
          ∀ message ∈ result.1, wanted message)
        (insertLoop message.1 message.2 iterations retryCount success failedQueue) := by
  induction iterations with
  | zero =>
    intro retryCount success failedQueue every
    unfold insertLoop
    split
    · exact ⟨trivial, fun result impossible => by cases impossible⟩
    · exact ⟨trivial, fun result ended => by cases ended; exact every⟩
  | succ iterations inductionHypothesis =>
    intro retryCount success failedQueue every
    unfold insertLoop
    split
    · constructor
      · refine Program.issues_bind _ _ _ (Program.issues_issue _ _ trivial) ?_
        intro grant
        cases grant with
        | none => exact (inductionHypothesis _ _ _ every).1
        | some conn =>
          obtain ⟨updates, leaves⟩ := attempt_only wanted conn message failedQueue own every
          refine Program.issues_bind_yields _ _ _ _ updates leaves ?_
          intro ended left
          exact Program.issues_bind _ _ _ (Program.issues_issue _ _ trivial)
            (fun _ => (inductionHypothesis _ _ _ left).1)
      · refine Program.yields_bind (fun _ => True) _ _ _ (Program.yields_any _) ?_
        intro grant _
        cases grant with
        | none => exact (inductionHypothesis _ _ _ every).2
        | some conn =>
          obtain ⟨_, leaves⟩ := attempt_only wanted conn message failedQueue own every
          refine Program.yields_bind _ _ _ _ leaves ?_
          intro ended left
          exact Program.yields_bind (fun _ => True) _ _ _ (Program.yields_any _)
            (fun _ _ => (inductionHypothesis _ _ _ left).2)
    · exact ⟨trivial, fun result ended => by cases ended; exact every⟩

/-- A call inserts messages of the queue and its own, whether it returns or not, and
leaves such messages in the queue. -/
theorem insert_only (message : Message) (own : wanted message) (iterations : Nat)
    (failedQueue : FailedQueue) (every : ∀ message ∈ failedQueue, wanted message) :
    UpdatesOnly (Inserts wanted)
        (OfflineMessage.insert iterations message.1 message.2 failedQueue) ∧
      Program.Yields (fun ended => ∀ result, ended = some result →
          ∀ message ∈ result.1, wanted message)
        (OfflineMessage.insert iterations message.1 message.2 failedQueue) := by
  obtain ⟨updates, leaves⟩ :=
    insertLoop_only wanted message own iterations 0 false failedQueue every
  constructor
  · refine Program.issues_bind _ _ _ updates ?_
    rintro (_ | ⟨remaining, _ | _⟩) <;> exact trivial
  · refine Program.yields_bind _ _ _ _ leaves ?_
    rintro (_ | ⟨remaining, success⟩) left
    · exact fun result impossible => by cases impossible
    · have kept := left (remaining, success) rfl
      cases success with
      | true => exact fun result ended => by cases ended; exact kept
      | false =>
        intro result ended other member
        cases ended
        rcases List.mem_append.mp member with old | new
        · exact kept other old
        · rw [List.mem_singleton.mp new]
          exact own

end Wanted

/-!
## Runs of calls
-/

/-- One call: its arguments, the tables, acquisitions and exceptions it meets, and
for how many iterations its loop is followed. -/
structure Call where
  message : Message
  mysql : Access
  iterations : Nat

/-- The messages the calls have inserted so far, and `failedQueue_`. -/
structure Buffer where
  inserted : List Message
  failedQueue : FailedQueue

/-- Nothing queued and nothing added. -/
def Buffer.empty : Buffer := ⟨[], []⟩

/-- The messages in the rows a call has added to the table. -/
def addedRows (before after : Access) : List Message :=
  (after.database.offlineMessage.drop before.database.offlineMessage.length).map
    (fun row => (row.userid, row.message))

/-- The buffer after a call, and what the call returns, if it returns. -/
def Buffer.call (buffer : Buffer) (call : Call) : Option (Buffer × Bool) :=
  match call.mysql.run (OfflineMessage.insert call.iterations call.message.1 call.message.2
      buffer.failedQueue) with
  | (some (failedQueue, success), mysql) =>
      some (⟨buffer.inserted ++ addedRows call.mysql mysql, failedQueue⟩, success)
  | (none, _) => none

/-- The buffer after successive calls that all return. -/
def Buffer.run (buffer : Buffer) : List Call → Option Buffer
  | [] => some buffer
  | call :: rest =>
      match buffer.call call with
      | some (next, _) => next.run rest
      | none => none

/-- The rows that were added are the inserted messages. -/
theorem addedRows_inserted (before after : Access) (messages : List Message)
    (added : Inserted before after messages) : addedRows before after = messages := by
  rw [addedRows, added]
  simp [rowOf, Function.comp_def]

/-- One call appends its message to the balance. -/
theorem Buffer.call_balance (buffer next : Buffer) (call : Call) (success : Bool)
    (returned : buffer.call call = some (next, success)) :
    next.inserted ++ next.failedQueue =
        buffer.inserted ++ buffer.failedQueue ++ [call.message] ∧
      (success = true ↔ next.failedQueue = []) := by
  rw [Buffer.call] at returned
  cases ended : call.mysql.run (OfflineMessage.insert call.iterations call.message.1
      call.message.2 buffer.failedQueue) with
  | mk result mysql =>
    rw [ended] at returned
    cases result with
    | none => cases returned
    | some left =>
      obtain ⟨failedQueue, succeeded⟩ := left
      cases returned
      obtain ⟨inserted, added, balance, complete⟩ :=
        insert_ends call.message call.iterations buffer.failedQueue failedQueue success
          call.mysql mysql ended
      refine ⟨?_, complete⟩
      rw [addedRows_inserted call.mysql mysql inserted added]
      simp only [List.append_assoc, balance]

/-- A run appends the messages of its calls to the balance. -/
theorem Buffer.run_balance (buffer next : Buffer) (calls : List Call)
    (ran : buffer.run calls = some next) : next.inserted ++ next.failedQueue =
      buffer.inserted ++ buffer.failedQueue ++ calls.map Call.message := by
  induction calls generalizing buffer with
  | nil =>
    cases ran
    rw [List.map_nil, List.append_nil]
  | cons call rest inductionHypothesis =>
    rw [Buffer.run] at ran
    cases returned : buffer.call call with
    | none =>
      rw [returned] at ran
      cases ran
    | some ended =>
      obtain ⟨following, success⟩ := ended
      rw [returned] at ran
      rw [inductionHypothesis following ran, (buffer.call_balance following call success
        returned).1, List.map_cons, List.append_assoc, List.singleton_append]

/-- After every call of a run the messages inserted so far, followed by the queue,
are the messages passed so far in call order. The call returns true exactly when
its own message, by its place in that order, is among the inserted ones, and then
the queue is empty. -/
theorem conserved (calls : List Call) (call : Call) (before after : Buffer) (success : Bool)
    (ran : Buffer.empty.run calls = some before)
    (returned : before.call call = some (after, success)) :
    after.inserted ++ after.failedQueue = (calls ++ [call]).map Call.message ∧
      (success = true ↔ after.inserted[calls.length]? = some call.message) ∧
      (success = true → after.failedQueue = []) := by
  obtain ⟨balance, complete⟩ := before.call_balance after call success returned
  rw [Buffer.run_balance Buffer.empty before calls ran] at balance
  have all : after.inserted ++ after.failedQueue = (calls ++ [call]).map Call.message := by
    rw [balance, List.map_append]
    rfl
  refine ⟨all, ?_, complete.mp⟩
  rw [complete]
  constructor
  · intro empty
    rw [empty, List.append_nil] at all
    rw [all, List.map_append, List.getElem?_append_right (by simp)]
    simp
  · intro own
    obtain ⟨within, _⟩ := List.getElem?_eq_some_iff.mp own
    have lengths := congrArg List.length all
    simp only [List.length_append, List.length_map, List.length_singleton] at lengths
    have none : after.failedQueue.length = 0 := by omega
    exact List.length_eq_zero_iff.mp none

/-- A database with one user, as the two calls below meet it. -/
def registeredUser : Database :=
  { Database.empty with user := [⟨1, "a", "a", "offline"⟩], nextUserId := 2 }

/-- The first call finds no connection three times. The second drains the queue,
its own insertion throws, and its next attempt succeeds. -/
theorem conserved_resumed :
    let calls : List Call := [⟨(1, "first"), ⟨registeredUser, [none, none, none], []⟩, 4⟩]
    let call : Call := ⟨(1, "second"), ⟨registeredUser, [], [false, false, true]⟩, 3⟩
    let after : Buffer := ⟨[(1, "first"), (1, "second")], []⟩
    after.inserted ++ after.failedQueue = (calls ++ [call]).map Call.message ∧
      (true = true ↔ after.inserted[calls.length]? = some call.message) ∧
      (true = true → after.failedQueue = []) :=
  conserved [⟨(1, "first"), ⟨registeredUser, [none, none, none], []⟩, 4⟩]
    ⟨(1, "second"), ⟨registeredUser, [], [false, false, true]⟩, 3⟩ ⟨[], [(1, "first")]⟩
    ⟨[(1, "first"), (1, "second")], []⟩ true rfl rfl

end ClusterChat.RetryBuffer
