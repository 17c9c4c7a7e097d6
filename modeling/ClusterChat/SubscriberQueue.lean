import ClusterChat.Subscriber

/-!
# The task queue of the subscriber thread and the end of its loop

The thread tests `stopped_`, waits in `consume`, swaps `sub_tasks_` out and works the
batch off; a task is a command and, if the command did not throw, a record of the group.
Requests append tasks at any time. The destructor sets `stopped_` and then appends a
`Stop`, which ends the loop when its turn comes; but so does the flag alone, if the
thread tests it first.

What was enqueued and what was processed are recorded beside the state. `tasks_processed`
says what every run keeps: the processed and the pending tasks together are the enqueued
ones in their order, up to the first `Stop` once one is processed; the recorded groups are
the subscribed ones while the thread is in its loop; and while nobody set the flag the
thread works off every task up to the first `Stop`, whatever commands fail. With the flag
set it may leave tasks behind that were enqueued before the `Stop`
(`flag_overtakes_tasks`).

The thread has its connection and has subscribed to the inbox. Waiting ends at some time
and changes nothing here. The destructor's two statements may come at any time, any
number of times and apart.
-/

namespace ClusterChat.SubscriberQueue

open Subscriber (Mirrored Request)

/-- Where the thread is: at the test of its loop, in `consume`, in a batch, or behind the
loop with the groups it has yet to unsubscribe from. -/
inductive Place where
  | testing
  | consuming
  | working
  | leaving (groups : List Int)
deriving DecidableEq

/-- The client and its thread, with the tasks enqueued and processed so far. -/
structure State where
  client : Subscriber := {}
  place : Place := .testing
  enqueued : List SubTask := []
  processed : List SubTask := []
deriving DecidableEq

/-- A task is put on the queue, the flag is set, a `Stop` is pushed, or the thread executes
its next statement. -/
inductive Event where
  | request (request : Request) (groupId : Int)
  | setStopped
  | pushStop
  | thread (fails : Bool)
deriving DecidableEq

/-- A call leaves the client; what it appended to the queue is enqueued. -/
def called (s : State) (client : Subscriber) : State :=
  { s with
    client
    enqueued := s.enqueued ++ client.subTasks.drop s.client.subTasks.length }

/-- One statement of the loop over the batch. A task whose command throws, and a `Stop`,
are processed at once, the others when their group is recorded. -/
def work (fails : Bool) (s : State) : State :=
  match s.client.executed, s.client.tasks with
  | some task, _ => { s with client := s.client.settle, processed := s.processed ++ [task] }
  | none, task :: _ =>
      { s with
        client := s.client.command fails
        processed := if fails = true ∨ task = .stop then s.processed ++ [task] else s.processed }
  | none, [] => { s with place := .testing }

/-- The next statement of the thread. Behind the loop an exception ends the clean-up. -/
def thread (fails : Bool) (s : State) : State :=
  match s.place with
  | .testing =>
      if s.client.stopped then { s with place := .leaving s.client.subGroupSet.elements }
      else { s with place := .consuming }
  | .consuming =>
      { s with
        client := { s.client with tasks := s.client.subTasks, subTasks := [] }
        place := .working }
  | .working => work fails s
  | .leaving [] => s
  | .leaving (groupId :: rest) =>
      if fails then { s with place := .leaving [] }
      else { s with
        client := { s.client with channels := s.client.channels.erase groupId }
        place := .leaving rest }

/-- The state after the event. -/
def step (s : State) : Event → State
  | .request request groupId => called s (s.client.request groupId request)
  | .setStopped => { s with client := { s.client with stopped := true } }
  | .pushStop => called s { s.client with subTasks := s.client.subTasks ++ [.stop] }
  | .thread fails => thread fails s

/-- The tasks up to the first `Stop`, which is the last of them. -/
def upToStop : List SubTask → List SubTask
  | [] => []
  | .stop :: _ => [.stop]
  | task :: rest => task :: upToStop rest

/-- Every enqueued task is processed or pending, once and in its place, until a `Stop` is
processed. Then those up to the first `Stop` are, and no other will be. -/
structure Ordered (s : State) : Prop where
  running : .stop ∉ s.processed → s.processed ++ s.client.pending = s.enqueued
  ended : .stop ∈ s.processed → s.processed = upToStop s.enqueued ∧
    ∀ events, (Runs.run step s events).processed = s.processed

/-- With no task half-processed the recorded groups are the subscribed ones. -/
def Mirrors (s : State) : Prop :=
  s.client.executed = none →
    ∀ groupId, groupId ∈ s.client.channels ↔ groupId ∈ s.client.subGroupSet

/-- The thread alone processes every task up to the first `Stop`, whatever commands fail. -/
def WorksOff (s : State) : Prop :=
  ∃ n, ∀ fails : List Bool, n ≤ fails.length →
    (Runs.run step s (fails.map .thread)).processed = upToStop s.enqueued

/-- The thread has not left its loop. -/
def InLoop (s : State) : Prop := ∀ groups, s.place ≠ .leaving groups

/-!
## Tasks up to a stop
-/

/-- A task that is no `Stop` is among them. -/
theorem upToStop_cons (task : SubTask) (rest : List SubTask) (notStop : task ≠ .stop) :
    upToStop (task :: rest) = task :: upToStop rest := by
  cases task with
  | subscribe groupId => rfl
  | unsubscribe groupId => rfl
  | stop => exact absurd rfl notStop

/-- So are all tasks before one. -/
theorem upToStop_append (before after : List SubTask) (unstopped : .stop ∉ before) :
    upToStop (before ++ after) = before ++ upToStop after := by
  induction before with
  | nil => rfl
  | cons task rest inductionHypothesis =>
    rw [List.mem_cons, not_or] at unstopped
    rw [List.cons_append, upToStop_cons task _ (Ne.symm unstopped.1),
      inductionHypothesis unstopped.2, List.cons_append]

/-- What follows a `Stop` makes no difference. -/
theorem upToStop_append_stopped (before after : List SubTask)
    (stopped : .stop ∈ upToStop before) : upToStop (before ++ after) = upToStop before := by
  induction before with
  | nil => cases stopped
  | cons task rest inductionHypothesis =>
    by_cases isStop : task = .stop
    · subst isStop
      rfl
    · rw [upToStop_cons task rest isStop, List.mem_cons] at stopped
      have later : .stop ∈ upToStop rest := stopped.resolve_left (Ne.symm isStop)
      rw [List.cons_append, upToStop_cons task _ isStop, upToStop_cons task rest isStop,
        inductionHypothesis later]

/-!
## One step
-/

/-- What is left once a `Stop` was processed. -/
structure Ended (s : State) : Prop where
  processed : s.processed = upToStop s.enqueued
  stopped : s.client.stopped = true
  tasks : s.client.tasks = []
  executed : s.client.executed = none
  waiting : s.place ≠ .consuming

/-- What every step keeps. -/
structure Sound (s : State) : Prop where
  mirrored : InLoop s → Mirrored s.client
  notStop : s.client.executed ≠ some .stop
  resting : s.place ≠ .working → s.client.tasks = [] ∧ s.client.executed = none
  left : ¬ InLoop s → s.client.stopped = true
  running : .stop ∉ s.processed → s.processed ++ s.client.pending = s.enqueued
  ended : .stop ∈ s.processed → Ended s

/-- The invariant holds at the start. -/
theorem sound_start : Sound {} where
  mirrored := fun _ _ => rfl
  notStop := by simp
  resting := fun _ => ⟨rfl, rfl⟩
  left := fun outside => absurd (fun groups => by simp) outside
  running := fun _ => rfl
  ended := fun processed => by cases processed

/-- Appending to the queue is enqueueing. -/
theorem sound_appended (s : State) (added : List SubTask) (sound : Sound s) :
    Sound { s with
      client := { s.client with subTasks := s.client.subTasks ++ added }
      enqueued := s.enqueued ++ added } where
  mirrored := sound.mirrored
  notStop := sound.notStop
  resting := sound.resting
  left := sound.left
  running := by
    intro unstopped
    rw [← sound.running unstopped]
    simp only [Subscriber.pending, List.append_assoc]
  ended := by
    intro processed
    have ended := sound.ended processed
    refine { ended with processed := ?_ }
    rw [ended.processed] at processed
    exact ended.processed.trans (upToStop_append_stopped _ _ processed).symm

/-- A call that appends tasks enqueues just these. -/
theorem called_appended (s : State) (added : List SubTask) :
    called s { s.client with subTasks := s.client.subTasks ++ added } =
      { s with
        client := { s.client with subTasks := s.client.subTasks ++ added }
        enqueued := s.enqueued ++ added } := by
  rw [called, List.drop_left]

/-- A request appends one task or none. -/
theorem request_appended (s : State) (request : Request) (groupId : Int) : ∃ added,
    s.client.request groupId request =
      { s.client with subTasks := s.client.subTasks ++ added } := by
  rcases Subscriber.request_cases s.client groupId request with
    ⟨skipped, _⟩ | ⟨_, task, appended, _, _⟩
  · exact ⟨[], by rw [skipped, List.append_nil]⟩
  · exact ⟨[task], appended⟩

/-- Appending tasks keeps the invariant. -/
theorem sound_called (s : State) (client : Subscriber) (added : List SubTask) (sound : Sound s)
    (appended : client = { s.client with subTasks := s.client.subTasks ++ added }) :
    Sound (called s client) := by
  rw [appended, called_appended]
  exact sound_appended s added sound

/-- A task whose group is recorded is processed. -/
theorem sound_settle (s : State) (task : SubTask) (sound : Sound s) (working : s.place = .working)
    (executed : s.client.executed = some task) :
    Sound { s with client := s.client.settle, processed := s.processed ++ [task] } where
  mirrored := fun inLoop =>
    Subscriber.mirrored_settle s.client sound.notStop (sound.mirrored inLoop)
  notStop := by
    rw [Subscriber.settle_eq s.client sound.notStop]
    simp
  resting := fun resting => absurd working resting
  left := fun outside => absurd (fun groups => by simp [working]) outside
  running := by
    intro unstopped
    rw [List.mem_append, not_or] at unstopped
    rw [Subscriber.pending_settle s.client sound.notStop, ← sound.running unstopped.1,
      Subscriber.pending, executed]
    simp
  ended := by
    intro processed
    have isTask : task ≠ .stop := by
      rintro rfl
      exact sound.notStop executed
    rw [List.mem_append, List.mem_singleton] at processed
    have ended := sound.ended (processed.resolve_right (Ne.symm isTask))
    rw [ended.executed] at executed
    cases executed

/-- The command of a task that is not a `Stop`. -/
theorem command_task (fails : Bool) (s : Subscriber) (task : SubTask) (rest : List SubTask)
    (idle : s.executed = none) (next : s.tasks = task :: rest) (isTask : task ≠ .stop) :
    (s.command fails).tasks = rest ∧ (s.command fails).subTasks = s.subTasks ∧
      (s.command fails).stopped = s.stopped ∧
      (s.command fails).executed = if fails then none else some task := by
  obtain ⟨subTasks, subGroupSet, tasks, executed, channels, stopped⟩ := s
  cases idle
  cases next
  cases task with
  | subscribe groupId => cases fails <;> exact ⟨rfl, rfl, rfl, rfl⟩
  | unsubscribe groupId => cases fails <;> exact ⟨rfl, rfl, rfl, rfl⟩
  | stop => exact absurd rfl isTask

/-- A `Stop` drops the rest of the batch and sets the flag. -/
theorem command_stop (fails : Bool) (s : Subscriber) (rest : List SubTask)
    (idle : s.executed = none) (next : s.tasks = .stop :: rest) :
    s.command fails = { s with tasks := [], stopped := true } := by
  obtain ⟨subTasks, subGroupSet, tasks, executed, channels, stopped⟩ := s
  cases idle
  cases next
  rfl

/-- A task of the batch, while no `Stop` was processed. -/
theorem sound_command (fails : Bool) (s : State) (task : SubTask) (rest : List SubTask)
    (sound : Sound s) (working : s.place = .working) (idle : s.client.executed = none)
    (next : s.client.tasks = task :: rest) :
    Sound { s with
      client := s.client.command fails
      processed :=
        if fails = true ∨ task = .stop then s.processed ++ [task] else s.processed } := by
  have unstopped : .stop ∉ s.processed := by
    intro processed
    have ended := sound.ended processed
    rw [ended.tasks] at next
    cases next
  have account : s.processed ++ task :: (rest ++ s.client.subTasks) = s.enqueued := by
    rw [← sound.running unstopped, Subscriber.pending, idle, next]
    rfl
  have inLoop : InLoop s := fun groups => by simp [working]
  have mirrored := Subscriber.mirrored_command fails s.client (sound.mirrored inLoop)
  by_cases isStop : task = .stop
  · subst isStop
    rw [if_pos (Or.inr rfl)]
    have commanded := command_stop fails s.client rest idle next
    rw [commanded] at mirrored ⊢
    refine ⟨fun _ => mirrored, sound.notStop, fun resting => absurd working resting, fun _ => rfl,
      fun absent => absurd (List.mem_append_right _ List.mem_cons_self) absent, fun _ => ?_⟩
    refine ⟨?_, rfl, rfl, idle, by simp [working]⟩
    rw [← account, upToStop_append _ _ unstopped]
    rfl
  · obtain ⟨batch, queue, flag, executed⟩ := command_task fails s.client task rest idle next isStop
    refine ⟨fun _ => mirrored, ?_, fun resting => absurd working resting,
      fun outside => absurd inLoop outside, fun _ => ?_, fun processed => ?_⟩
    · rw [executed]
      cases fails with
      | true => simp
      | false => simpa using isStop
    · rw [Subscriber.pending, batch, queue, executed, ← account]
      cases fails <;> simp [isStop]
    · refine absurd processed ?_
      split
      · simpa [unstopped] using Ne.symm isStop
      · exact unstopped

/-- The loop over the batch keeps the invariant. -/
theorem sound_work (fails : Bool) (s : State) (sound : Sound s) (working : s.place = .working) :
    Sound (work fails s) := by
  unfold work
  split
  · rename_i task executed
    exact sound_settle s task sound working executed
  · rename_i task rest executed next
    exact sound_command fails s task rest sound working executed next
  · rename_i executed next
    refine ⟨fun _ => sound.mirrored (fun groups => by simp [working]), sound.notStop,
      fun _ => ⟨next, executed⟩, fun outside => absurd (fun groups => by simp) outside,
      sound.running, fun processed => ?_⟩
    have ended := sound.ended processed
    exact { ended with waiting := by simp }

/-- Behind the loop only the place and the channels change. -/
theorem sound_leaving (s : State) (channels : OrderedSet Int) (groups : List Int)
    (sound : Sound s) (resting : s.client.tasks = [] ∧ s.client.executed = none)
    (stopped : s.client.stopped = true) :
    Sound { s with
      client := { s.client with channels }
      place := .leaving groups } where
  mirrored := fun inLoop => absurd rfl (inLoop groups)
  notStop := sound.notStop
  resting := fun _ => resting
  left := fun _ => stopped
  running := sound.running
  ended := fun processed => { sound.ended processed with waiting := by simp }

/-- Every statement of the thread keeps it. -/
theorem sound_thread (fails : Bool) (s : State) (sound : Sound s) : Sound (thread fails s) := by
  unfold thread
  split
  · rename_i place
    have resting := sound.resting (by simp [place])
    split
    · rename_i stopped
      exact sound_leaving s s.client.channels _ sound resting stopped
    · rename_i unstopped
      refine ⟨fun _ => sound.mirrored (fun groups => by simp [place]), sound.notStop,
        fun _ => resting, fun outside => absurd (fun groups => by simp) outside, sound.running,
        fun processed => absurd (sound.ended processed).stopped unstopped⟩
  · rename_i place
    have resting := sound.resting (by simp [place])
    have unprocessed : .stop ∉ s.processed :=
      fun processed => absurd place (sound.ended processed).waiting
    refine ⟨fun _ => sound.mirrored (fun groups => by simp [place]), sound.notStop,
      fun working => absurd rfl working, fun outside => absurd (fun groups => by simp) outside,
      fun _ => ?_, fun processed => absurd processed unprocessed⟩
    rw [← sound.running unprocessed, Subscriber.pending, Subscriber.pending, resting.1]
    simp
  · rename_i place
    exact sound_work fails s sound place
  · exact sound
  · rename_i groupId rest place
    have outside : ¬ InLoop s := fun inLoop => inLoop _ place
    have resting := sound.resting (by simp [place])
    split
    · exact sound_leaving s s.client.channels [] sound resting (sound.left outside)
    · exact sound_leaving s _ rest sound resting (sound.left outside)

/-- Every event keeps it. -/
theorem sound_step (s : State) (event : Event) (sound : Sound s) : Sound (step s event) := by
  cases event with
  | request request groupId =>
    obtain ⟨added, appended⟩ := request_appended s request groupId
    exact sound_called s _ added sound appended
  | setStopped =>
    exact { sound with
      left := fun _ => rfl
      ended := fun processed => { sound.ended processed with stopped := rfl } }
  | pushStop => exact sound_called s _ [.stop] sound rfl
  | thread fails => exact sound_thread fails s sound

/-- It holds along every run. -/
theorem sound_run (s : State) (events : List Event) (sound : Sound s) :
    Sound (Runs.run step s events) :=
  Runs.run_holds step Sound s events (fun s event _ => sound_step s event) sound

/-!
## What a step processes
-/

/-- A step processes at most one task more, and none after a `Stop`. -/
theorem processed_step (s : State) (event : Event) (sound : Sound s) :
    s.processed <+: (step s event).processed ∧
      (.stop ∈ s.processed → (step s event).processed = s.processed) := by
  cases event with
  | request request groupId => exact ⟨List.prefix_rfl, fun _ => rfl⟩
  | setStopped => exact ⟨List.prefix_rfl, fun _ => rfl⟩
  | pushStop => exact ⟨List.prefix_rfl, fun _ => rfl⟩
  | thread fails =>
    simp only [step, thread]
    split
    · split <;> exact ⟨List.prefix_rfl, fun _ => rfl⟩
    · exact ⟨List.prefix_rfl, fun _ => rfl⟩
    · unfold work
      split
      · rename_i task executed
        refine ⟨List.prefix_append _ _, fun processed => ?_⟩
        rw [(sound.ended processed).executed] at executed
        cases executed
      · rename_i task rest executed next
        refine ⟨?_, fun processed => ?_⟩
        · simp only
          split
          · exact List.prefix_append _ _
          · exact List.prefix_rfl
        · rw [(sound.ended processed).tasks] at next
          cases next
      · exact ⟨List.prefix_rfl, fun _ => rfl⟩
    · exact ⟨List.prefix_rfl, fun _ => rfl⟩
    · split <;> exact ⟨List.prefix_rfl, fun _ => rfl⟩

/-- After a `Stop` nothing is processed any more. -/
theorem processed_ended (s : State) (events : List Event) (sound : Sound s)
    (ended : .stop ∈ s.processed) : (Runs.run step s events).processed = s.processed := by
  refine (Runs.run_holds step (fun left => Sound left ∧ left.processed = s.processed) s events ?_
    ⟨sound, rfl⟩).2
  intro left event _ held
  have same := (processed_step left event held.1).2 (held.2 ▸ ended)
  exact ⟨sound_step left event held.1, same.trans held.2⟩

/-- The invariant gives the order of the tasks. -/
theorem ordered_of_sound (s : State) (sound : Sound s) : Ordered s where
  running := sound.running
  ended := fun ended =>
    ⟨(sound.ended ended).processed, fun events => processed_ended s events sound ended⟩

/-- Within the loop the invariant gives that the recorded groups are the subscribed ones. -/
theorem mirrors_of_sound (s : State) (sound : Sound s) (inLoop : InLoop s) : Mirrors s := by
  intro executed groupId
  have mirrored := sound.mirrored inLoop groupId
  rw [executed] at mirrored
  exact decide_eq_decide.mp mirrored

/-!
## Working off
-/

/-- Every task up to the first `Stop` is processed. -/
def Completed (s : State) : Prop := s.processed = upToStop s.enqueued

/-- The flag has not been set, except by a `Stop` that was processed. -/
def Unset (s : State) : Prop := s.client.stopped = true → .stop ∈ s.processed

/-- The processed tasks are the first ones of those up to the `Stop`. -/
theorem processed_prefix (s : State) (sound : Sound s) : s.processed <+: upToStop s.enqueued := by
  by_cases ended : .stop ∈ s.processed
  · exact ⟨[], (List.append_nil _).trans (sound.ended ended).processed⟩
  · rw [← sound.running ended, upToStop_append _ _ ended]
    exact List.prefix_append _ _

/-- While no `Stop` was processed, nothing pending means that all is processed. -/
theorem completed_of_idle (s : State) (sound : Sound s) (idle : s.client.pending = []) :
    Completed s := by
  by_cases ended : .stop ∈ s.processed
  · exact (sound.ended ended).processed
  · have account := sound.running ended
    rw [idle, List.append_nil] at account
    have whole := upToStop_append s.processed [] ended
    rw [List.append_nil, upToStop, List.append_nil] at whole
    rw [Completed, ← account, whole]

/-- The thread enqueues nothing. -/
theorem thread_enqueued (fails : Bool) (s : State) :
    (thread fails s).enqueued = s.enqueued := by
  unfold thread work
  repeat' split
  all_goals rfl

/-- A thread that has processed everything goes on having done so. -/
theorem completed_thread (fails : Bool) (s : State) (sound : Sound s) (completed : Completed s) :
    Completed (thread fails s) := by
  have further := (processed_step s (.thread fails) sound).1
  have bounded := processed_prefix (thread fails s) (sound_thread fails s sound)
  rw [thread_enqueued, ← completed] at bounded
  rw [Completed, thread_enqueued, ← completed]
  exact bounded.eq_of_length (le_antisymm bounded.length_le further.length_le)

/-- The statements that the queued tasks will take, if there are any. -/
def queued (s : State) (lead : Nat) : Nat :=
  if s.client.subTasks = [] then 0 else 2 * s.client.subTasks.length + lead

/-- The statements of the thread until the tasks at hand are processed, at most. -/
def statements (s : State) : Nat :=
  match s.place with
  | .testing => queued s 2
  | .consuming => queued s 1
  | .working => 2 * s.client.tasks.length + s.client.executed.toList.length + queued s 3
  | .leaving _ => 0

/-- A statement of the batch brings its end nearer. -/
theorem statements_work (fails : Bool) (s : State) (sound : Sound s)
    (working : s.place = .working) (incomplete : ¬ Completed s) :
    statements (work fails s) < statements s := by
  unfold work
  split
  · rename_i task executed
    rw [Subscriber.settle_eq s.client sound.notStop]
    simp [statements, queued, working, executed]
  · rename_i task rest executed next
    by_cases isStop : task = .stop
    · subst isStop
      rw [command_stop fails s.client rest executed next]
      simp [statements, queued, working, executed, next]
    · obtain ⟨batch, queue, _, left⟩ :=
        command_task fails s.client task rest executed next isStop
      cases fails with
      | true => simp [statements, queued, working, executed, next, batch, queue, left]
      | false =>
        simp only [statements, queued, working, executed, next, batch, queue, left]
        simp
        omega
  · rename_i executed next
    have waiting : s.client.subTasks ≠ [] := by
      intro none
      exact incomplete (completed_of_idle s sound (by simp [Subscriber.pending, *]))
    simp [statements, queued, working, executed, next, waiting]

/-- While a task up to the first `Stop` is not processed, each statement of the thread
brings it nearer. -/
theorem statements_thread (fails : Bool) (s : State) (sound : Sound s) (unset : Unset s)
    (incomplete : ¬ Completed s) : statements (thread fails s) < statements s := by
  have unprocessed : .stop ∉ s.processed :=
    fun processed => incomplete (sound.ended processed).processed
  have running : ¬ s.client.stopped = true := fun stopped => unprocessed (unset stopped)
  have inLoop : InLoop s := by
    by_contra outside
    exact running (sound.left outside)
  have waiting (rested : s.client.tasks = [] ∧ s.client.executed = none) :
      s.client.subTasks ≠ [] := by
    intro none
    exact incomplete (completed_of_idle s sound (by
      rw [Subscriber.pending, rested.1, rested.2, none]
      rfl))
  unfold thread
  split
  · rename_i place
    have queue := waiting (sound.resting (by simp [place]))
    rw [if_neg running]
    simp [statements, queued, place, queue]
  · rename_i place
    have rested := sound.resting (by simp [place])
    have queue := waiting rested
    simp [statements, queued, place, queue, rested.2]
  · rename_i place
    exact statements_work fails s sound place incomplete
  · rename_i place
    exact absurd place (inLoop _)
  · rename_i place
    exact absurd place (inLoop _)

/-- The thread sets the flag at a `Stop` and nowhere else. -/
theorem unset_thread (fails : Bool) (s : State) (sound : Sound s) (unset : Unset s) :
    Unset (thread fails s) := by
  have further := (processed_step s (.thread fails) sound).1
  have kept : (thread fails s).client.stopped = s.client.stopped → Unset (thread fails s) :=
    fun same stopped => further.subset (unset (same ▸ stopped))
  revert kept
  unfold thread
  split
  · split <;> exact fun kept => kept rfl
  · exact fun kept => kept rfl
  · unfold work
    split
    · exact fun kept => kept (by rw [Subscriber.settle_eq s.client sound.notStop])
    · rename_i task rest executed next
      by_cases isStop : task = .stop
      · intro _ _
        simp [isStop]
      · exact fun kept => kept (command_task fails s.client task rest executed next isStop).2.2.1
    · exact fun kept => kept rfl
  · exact fun kept => kept rfl
  · split <;> exact fun kept => kept rfl

/-- Only setting the flag sets it before a `Stop` is processed. -/
theorem unset_step (s : State) (event : Event) (sound : Sound s) (other : event ≠ .setStopped)
    (unset : Unset s) : Unset (step s event) := by
  cases event with
  | request request groupId =>
    obtain ⟨added, appended⟩ := request_appended s request groupId
    rw [step, appended, called_appended]
    exact unset
  | setStopped => exact absurd rfl other
  | pushStop => exact unset
  | thread fails => exact unset_thread fails s sound unset

/-- So does every run without it. -/
theorem unset_run (s : State) (events : List Event) (sound : Sound s) (unset : Unset s)
    (others : .setStopped ∉ events) : Unset (Runs.run step s events) := by
  refine (Runs.run_holds step (fun left => Sound left ∧ Unset left) s events ?_
    ⟨sound, unset⟩).2
  intro left event member held
  have other : event ≠ .setStopped := fun same => others (same ▸ member)
  exact ⟨sound_step left event held.1, unset_step left event held.1 other held.2⟩

/-- Once everything is processed, the thread alone leaves it so. -/
theorem completed_run (s : State) (fails : List Bool) (sound : Sound s)
    (completed : Completed s) : Completed (Runs.run step s (fails.map .thread)) := by
  refine (Runs.run_holds step (fun left => Sound left ∧ Completed left) s _ ?_
    ⟨sound, completed⟩).2
  intro left event member held
  obtain ⟨fails, _, rfl⟩ := List.mem_map.mp member
  exact ⟨sound_thread fails left held.1, completed_thread fails left held.1 held.2⟩

/-- Given enough statements the thread completes the tasks at hand. -/
theorem completed_of_statements (s : State) (fails : List Bool) (sound : Sound s)
    (unset : Unset s) (enough : statements s ≤ fails.length) :
    Completed (Runs.run step s (fails.map .thread)) := by
  induction fails generalizing s with
  | nil =>
    by_contra incomplete
    have nearer := statements_thread false s sound unset incomplete
    have none : statements s = 0 := Nat.le_zero.mp enough
    omega
  | cons fails rest inductionHypothesis =>
    by_cases completed : Completed s
    · exact completed_run s (fails :: rest) sound completed
    · have nearer := statements_thread fails s sound unset completed
      rw [List.length_cons] at enough
      apply inductionHypothesis (thread fails s) (sound_thread fails s sound)
        (unset_thread fails s sound unset)
      omega

/-- The thread alone enqueues nothing. -/
theorem enqueued_run (s : State) (fails : List Bool) :
    (Runs.run step s (fails.map .thread)).enqueued = s.enqueued := by
  refine Runs.run_holds step (fun left => left.enqueued = s.enqueued) s _ ?_ rfl
  intro left event member same
  obtain ⟨fails, _, rfl⟩ := List.mem_map.mp member
  exact (thread_enqueued fails left).trans same

/-- With the flag unset, the thread processes every task. -/
theorem worksOff_of_unset (s : State) (sound : Sound s) (unset : Unset s) : WorksOff s := by
  refine ⟨statements s, fun fails enough => ?_⟩
  rw [← enqueued_run s fails]
  exact completed_of_statements s fails sound unset enough

/-!
## Whole runs
-/

/-- In every run the processed and the pending tasks are the enqueued ones, in their
order, until a `Stop` is processed; then those up to the first `Stop` were, and nothing
is processed any more. While the thread is in its loop and no task is half-processed, the
recorded groups are the subscribed ones. While nobody else set the flag, the thread is in
its loop until it processes a `Stop`, and works off every task up to the first. -/
theorem tasks_processed (events : List Event) :
    Ordered (Runs.run step {} events) ∧
    (InLoop (Runs.run step {} events) → Mirrors (Runs.run step {} events)) ∧
    (.setStopped ∉ events →
      (.stop ∉ (Runs.run step {} events).processed → InLoop (Runs.run step {} events)) ∧
      WorksOff (Runs.run step {} events)) := by
  have sound := sound_run {} events sound_start
  refine ⟨ordered_of_sound _ sound, mirrors_of_sound _ sound, fun others => ?_⟩
  have unset : Unset (Runs.run step {} events) :=
    unset_run {} events sound_start (fun stopped => by cases stopped) others
  refine ⟨fun unprocessed => ?_, worksOff_of_unset _ sound unset⟩
  by_contra outside
  exact unprocessed (unset (sound.left outside))

/-- A request, and a destructor whose flag the thread tests before the `Stop` is there. -/
def overtaken : List Event :=
  [.request .subscribe 1, .setStopped, .thread false, .pushStop]

/-- Behind the loop, with its clean-up done, the thread does nothing. -/
theorem run_left (s : State) (fails : List Bool) (place : s.place = .leaving []) :
    Runs.run step s (fails.map .thread) = s := by
  refine Runs.run_holds step (fun left => left = s) s _ ?_ rfl
  intro left event member same
  obtain ⟨fails, _, rfl⟩ := List.mem_map.mp member
  rw [same, step, thread, place]

/-- With the flag the thread stops before tasks enqueued earlier. -/
theorem flag_overtakes_tasks :
    ¬ ∀ events, Ordered (Runs.run step {} events) ∧
      (.stop ∉ (Runs.run step {} events).processed → Mirrors (Runs.run step {} events)) ∧
      WorksOff (Runs.run step {} events) := by
  intro holds
  obtain ⟨_, _, n, worksOff⟩ := holds overtaken
  have processed := worksOff (List.replicate n false) (List.length_replicate).ge
  rw [run_left _ _ rfl] at processed
  exact absurd processed (by decide)

end ClusterChat.SubscriberQueue
