import ClusterChat.Library.OrderedSet
import ClusterChat.Library.Runs
import Mathlib.Data.Int.Order.Basic

/-!
# The subscriber thread and its task queue

A node asks for subscriptions by appending to `sub_tasks_`. The subscriber
thread swaps the queue out, executes the tasks of the batch one by one, and
records each success in `sub_group_set_` after the command. Both callers skip
a request when `sub_group_set_` already agrees with it, although that set lags
behind the tasks that are queued, in the batch, or executed and not yet recorded.

`pending` lists those tasks in the order they will take effect, and `eventual`
is what they make of the present set. Thread steps keep it, and a request changes
it only when it is appended, so the last request for a group decides the channel
exactly when it was appended or agreed with what was pending.

The commands may be made to fail and a batch may end with a `Stop`; the theorem
about requests is for commands that succeed and a thread that is not stopped.
-/

namespace ClusterChat

/-- `SubTask`, with the group of the two types that have one. -/
inductive SubTask where
  | subscribe (groupId : Int)
  | unsubscribe (groupId : Int)
  | stop
deriving DecidableEq

/-- The subscription state of a `RedisClient`. `tasks` is what is left of the
batch the thread has swapped out, `executed` a task whose command has succeeded
but whose group is not yet recorded, and `channels` the group channels the
dedicated connection is subscribed to. -/
structure Subscriber where
  subTasks : List SubTask := []
  subGroupSet : OrderedSet Int := ∅
  tasks : List SubTask := []
  executed : Option SubTask := none
  channels : OrderedSet Int := ∅
  stopped : Bool := false
deriving DecidableEq

namespace Subscriber

/-- `subscribeGroupChannel`, which drops a request for a recorded group. -/
def subscribeGroupChannel (groupId : Int) (s : Subscriber) : Subscriber :=
  if groupId ∈ s.subGroupSet then s
  else { s with subTasks := s.subTasks ++ [.subscribe groupId] }

/-- `unsubscribeGroupChannel`, which drops a request for an unrecorded one. -/
def unsubscribeGroupChannel (groupId : Int) (s : Subscriber) : Subscriber :=
  if groupId ∉ s.subGroupSet then s
  else { s with subTasks := s.subTasks ++ [.unsubscribe groupId] }

/-- `tasks.swap(sub_tasks_)`, between two batches. -/
def swap (s : Subscriber) : Subscriber :=
  if s.stopped ∨ s.tasks ≠ [] ∨ s.executed ≠ none then s
  else { s with tasks := s.subTasks, subTasks := [] }

/-- The command of the next task of the batch. One that throws is logged and the
task dropped. A `Stop` leaves the rest of the batch unprocessed. -/
def command (fails : Bool) (s : Subscriber) : Subscriber :=
  match s.executed, s.tasks with
  | none, .subscribe groupId :: rest =>
      if fails then { s with tasks := rest }
      else { s with
        tasks := rest
        executed := some (.subscribe groupId)
        channels := s.channels.insert groupId }
  | none, .unsubscribe groupId :: rest =>
      if fails then { s with tasks := rest }
      else { s with
        tasks := rest
        executed := some (.unsubscribe groupId)
        channels := s.channels.erase groupId }
  | none, .stop :: _ => { s with tasks := [], stopped := true }
  | _, _ => s

/-- Record the task just executed in `sub_group_set_`. -/
def settle (s : Subscriber) : Subscriber :=
  match s.executed with
  | some (.subscribe groupId) =>
      { s with executed := none, subGroupSet := s.subGroupSet.insert groupId }
  | some (.unsubscribe groupId) =>
      { s with executed := none, subGroupSet := s.subGroupSet.erase groupId }
  | _ => s

/-- No task is queued and no batch is being processed. -/
def Idle (s : Subscriber) : Prop := s.subTasks = [] ∧ s.tasks = [] ∧ s.executed = none

/-- The tasks that have not reached `sub_group_set_`, the next one first. -/
def pending (s : Subscriber) : List SubTask := s.executed.toList ++ s.tasks ++ s.subTasks

end Subscriber

namespace SubTask

/-- What a task makes of the presence of a group. -/
def after (groupId : Int) (present : Bool) : SubTask → Bool
  | .subscribe other => if other = groupId then true else present
  | .unsubscribe other => if other = groupId then false else present
  | .stop => present

end SubTask

namespace Subscriber

/-- Whether the group will be recorded once every pending task has been. -/
def eventual (groupId : Int) (s : Subscriber) : Bool :=
  s.pending.foldl (SubTask.after groupId) (decide (groupId ∈ s.subGroupSet))

/-- `sub_group_set_` is the set of subscribed channels, up to the executed task. -/
def Mirrored (s : Subscriber) : Prop :=
  ∀ groupId, decide (groupId ∈ s.channels) =
    s.executed.toList.foldl (SubTask.after groupId) (decide (groupId ∈ s.subGroupSet))

/-- A request made by some thread, for one group. -/
inductive Request where
  | subscribe
  | unsubscribe
deriving DecidableEq

/-- One step of a run: a request by any thread, or a step of the subscriber
thread whose command succeeds. -/
inductive Event where
  | request (request : Request) (groupId : Int)
  | swap
  | command
  | settle

/-- The method the request calls. -/
def request (s : Subscriber) (groupId : Int) : Request → Subscriber
  | .subscribe => s.subscribeGroupChannel groupId
  | .unsubscribe => s.unsubscribeGroupChannel groupId

/-- The subscriber after the event. -/
def step (s : Subscriber) : Event → Subscriber
  | .request request groupId => s.request groupId request
  | .swap => s.swap
  | .command => s.command false
  | .settle => s.settle

/-- What the request asks for. -/
def Request.wants : Request → Bool
  | .subscribe => true
  | .unsubscribe => false

/-- The request an event makes for the group, with the state it is made in. -/
def made (groupId : Int) (s : Subscriber) : Event → Option (Request × Subscriber)
  | .request request other => if other = groupId then some (request, s) else none
  | .swap | .command | .settle => none

/-- The last request a run makes for the group, with the state it is made in. -/
def lastRequest (groupId : Int) : Subscriber → List Event → Option (Request × Subscriber)
  | _, [] => none
  | s, event :: events => (lastRequest groupId (s.step event) events).or (made groupId s event)

/-- The request is appended, or the pending tasks lead to what it asks for. -/
def Effective (groupId : Int) (request : Request) (s : Subscriber) : Prop :=
  decide (groupId ∈ s.subGroupSet) = request.wants → s.eventual groupId = request.wants

/-- What every run without `Stop` keeps: no pending task is a `Stop`, and the
recorded groups follow the channels. -/
structure Consistent (s : Subscriber) : Prop where
  unstopped : SubTask.stop ∉ s.pending
  mirrored : Mirrored s

/-- The invariant holds at the start. -/
theorem consistent_start : Consistent {} where
  unstopped := List.not_mem_nil
  mirrored := fun _ => rfl

/-- Taking the batch over leaves the same tasks pending. -/
theorem pending_swap (s : Subscriber) : s.swap.pending = s.pending := by
  unfold swap
  split
  · rfl
  · rename_i between
    simp only [not_or, not_not] at between
    simp [pending, between.2.1, between.2.2]

/-- It records no group and removes none. -/
theorem subGroupSet_swap (s : Subscriber) : s.swap.subGroupSet = s.subGroupSet := by
  unfold swap
  split <;> rfl

/-- It keeps the invariant. -/
theorem consistent_swap (s : Subscriber) (consistent : Consistent s) : Consistent s.swap where
  unstopped := pending_swap s ▸ consistent.unstopped
  mirrored := by
    have mirrored := consistent.mirrored
    unfold swap
    split <;> exact mirrored

/-- A command that succeeds moves its task from the batch to the executed one. -/
theorem pending_command (s : Subscriber) (unstopped : SubTask.stop ∉ s.pending) :
    (s.command false).pending = s.pending ∧ (s.command false).subGroupSet = s.subGroupSet := by
  obtain ⟨subTasks, subGroupSet, tasks, executed, channels, stopped⟩ := s
  cases executed with
  | some task => exact ⟨rfl, rfl⟩
  | none =>
    cases tasks with
    | nil => exact ⟨rfl, rfl⟩
    | cons task rest =>
      cases task with
      | subscribe groupId => exact ⟨rfl, rfl⟩
      | unsubscribe groupId => exact ⟨rfl, rfl⟩
      | stop => simp [pending] at unstopped

/-- A command changes the channels as the task it leaves executed will change the set,
and one that fails changes neither. -/
theorem mirrored_command (fails : Bool) (s : Subscriber) (mirrored : Mirrored s) :
    Mirrored (s.command fails) := by
  obtain ⟨subTasks, subGroupSet, tasks, executed, channels, stopped⟩ := s
  cases executed with
  | some task => exact mirrored
  | none =>
    cases tasks with
    | nil => exact mirrored
    | cons task rest =>
      cases fails with
      | true => cases task <;> exact mirrored
      | false =>
        intro wanted
        have same : decide (wanted ∈ channels) = decide (wanted ∈ subGroupSet) := mirrored wanted
        cases task with
        | subscribe groupId =>
          by_cases own : groupId = wanted
          · simp [command, SubTask.after, own]
          · simpa [command, SubTask.after, own, Ne.symm own] using same
        | unsubscribe groupId =>
          by_cases own : groupId = wanted
          · simp [command, SubTask.after, own]
          · simpa [command, SubTask.after, own, Ne.symm own] using same
        | stop => exact same

/-- Sending a command keeps the invariant. -/
theorem consistent_command (s : Subscriber) (consistent : Consistent s) :
    Consistent (s.command false) where
  unstopped := (pending_command s consistent.unstopped).1 ▸ consistent.unstopped
  mirrored := mirrored_command false s consistent.mirrored

/-- Recording the executed task is its effect on the present set. -/
theorem recorded_settle (s : Subscriber) (notStop : s.executed ≠ some .stop) (groupId : Int) :
    decide (groupId ∈ s.settle.subGroupSet) =
      s.executed.toList.foldl (SubTask.after groupId) (decide (groupId ∈ s.subGroupSet)) := by
  obtain ⟨subTasks, subGroupSet, tasks, executed, channels, stopped⟩ := s
  cases executed with
  | none => rfl
  | some task =>
    cases task with
    | subscribe other =>
      by_cases own : other = groupId
      · simp [settle, SubTask.after, own]
      · simp [settle, SubTask.after, own, Ne.symm own]
    | unsubscribe other =>
      by_cases own : other = groupId
      · simp [settle, SubTask.after, own]
      · simp [settle, SubTask.after, own, Ne.symm own]
    | stop => exact absurd rfl notStop

/-- Nothing else changes when the executed task is recorded. -/
theorem settle_eq (s : Subscriber) (notStop : s.executed ≠ some .stop) :
    s.settle = { s with executed := none, subGroupSet := s.settle.subGroupSet } := by
  obtain ⟨subTasks, subGroupSet, tasks, executed, channels, stopped⟩ := s
  cases executed with
  | none => rfl
  | some task =>
    cases task with
    | subscribe other => rfl
    | unsubscribe other => rfl
    | stop => exact absurd rfl notStop

/-- Recording the group brings the recorded groups back to the subscribed ones. -/
theorem mirrored_settle (s : Subscriber) (notStop : s.executed ≠ some .stop)
    (mirrored : Mirrored s) : Mirrored s.settle := by
  intro groupId
  have recorded := recorded_settle s notStop groupId
  rw [settle_eq s notStop]
  exact (mirrored groupId).trans recorded.symm

/-- No executed task is a `Stop` while no pending one is. -/
theorem executed_notStop (s : Subscriber) (unstopped : SubTask.stop ∉ s.pending) :
    s.executed ≠ some .stop := by
  intro executed
  exact unstopped (by simp [pending, executed])

/-- Recording the group leaves no task half-processed. -/
theorem pending_settle (s : Subscriber) (notStop : s.executed ≠ some .stop) :
    s.settle.pending = s.tasks ++ s.subTasks := by
  rw [settle_eq s notStop]
  rfl

/-- It keeps the invariant. -/
theorem consistent_settle (s : Subscriber) (consistent : Consistent s) : Consistent s.settle where
  unstopped := by
    have unstopped := consistent.unstopped
    rw [pending_settle s (executed_notStop s unstopped)]
    intro member
    exact unstopped (by
      rw [pending, List.append_assoc]
      exact List.mem_append_right _ member)
  mirrored := mirrored_settle s (executed_notStop s consistent.unstopped) consistent.mirrored

/-- A request appends its own task or nothing. -/
theorem request_cases (s : Subscriber) (groupId : Int) (request : Request) :
    s.request groupId request = s ∧ decide (groupId ∈ s.subGroupSet) = request.wants ∨
      decide (groupId ∈ s.subGroupSet) ≠ request.wants ∧ ∃ task,
        s.request groupId request = { s with subTasks := s.subTasks ++ [task] } ∧
        task ≠ SubTask.stop ∧
        ∀ wanted present, task.after wanted present =
          if groupId = wanted then request.wants else present := by
  cases request with
  | subscribe =>
    by_cases recorded : groupId ∈ s.subGroupSet
    · exact Or.inl ⟨by simp [Subscriber.request, subscribeGroupChannel, recorded],
        by simp [recorded, Request.wants]⟩
    · refine Or.inr ⟨by simp [recorded, Request.wants], .subscribe groupId, ?_, by simp, ?_⟩
      · simp [Subscriber.request, subscribeGroupChannel, recorded]
      · exact fun _ _ => rfl
  | unsubscribe =>
    by_cases recorded : groupId ∈ s.subGroupSet
    · refine Or.inr ⟨by simp [recorded, Request.wants], .unsubscribe groupId, ?_, by simp, ?_⟩
      · simp [Subscriber.request, unsubscribeGroupChannel, recorded]
      · exact fun _ _ => rfl
    · exact Or.inl ⟨by simp [Subscriber.request, unsubscribeGroupChannel, recorded],
        by simp [recorded, Request.wants]⟩

/-- A request keeps the invariant. -/
theorem consistent_request (s : Subscriber) (groupId : Int) (request : Request)
    (consistent : Consistent s) : Consistent (s.request groupId request) := by
  rcases request_cases s groupId request with ⟨skipped, _⟩ | ⟨_, task, appended, notStop, _⟩
  · rw [skipped]
    exact consistent
  · rw [appended]
    refine ⟨?_, consistent.mirrored⟩
    have unstopped := consistent.unstopped
    simp only [pending, List.mem_append, List.mem_singleton, not_or] at unstopped ⊢
    exact ⟨unstopped.1, unstopped.2, Ne.symm notStop⟩

/-- Every event keeps the invariant. -/
theorem consistent_step (s : Subscriber) (event : Event) (consistent : Consistent s) :
    Consistent (s.step event) := by
  cases event with
  | request request groupId => exact consistent_request s groupId request consistent
  | swap => exact consistent_swap s consistent
  | command => exact consistent_command s consistent
  | settle => exact consistent_settle s consistent

/-- A request settles what becomes of its own group if it is appended, and is
without effect otherwise. -/
theorem eventual_request (s : Subscriber) (groupId wanted : Int) (request : Request) :
    (s.request groupId request).eventual wanted =
      if groupId = wanted ∧ decide (groupId ∈ s.subGroupSet) ≠ request.wants then request.wants
      else s.eventual wanted := by
  rcases request_cases s groupId request with
    ⟨skipped, agrees⟩ | ⟨differs, task, appended, _, effect⟩
  · rw [skipped]
    simp [agrees]
  · rw [appended]
    simp only [eventual, pending, ← List.append_assoc, List.foldl_append, List.foldl_cons,
      List.foldl_nil, effect, differs, ne_eq, not_false_eq_true, and_true]

/-- Thread steps and requests for other groups leave the outcome for a group. -/
theorem eventual_step (s : Subscriber) (event : Event) (groupId : Int) (consistent : Consistent s)
    (elsewhere : ∀ request, event ≠ .request request groupId) :
    (s.step event).eventual groupId = s.eventual groupId := by
  cases event with
  | request request other =>
    have distinct : other ≠ groupId := fun same => elsewhere request (same ▸ rfl)
    simp only [step, eventual_request, distinct, false_and, if_false]
  | swap => simp only [step, eventual, pending_swap, subGroupSet_swap]
  | command =>
    obtain ⟨samePending, sameSet⟩ := pending_command s consistent.unstopped
    simp only [step, eventual, samePending, sameSet]
  | settle =>
    have notStop := executed_notStop s consistent.unstopped
    have recorded := recorded_settle s notStop groupId
    have rest := pending_settle s notStop
    change List.foldl _ (decide (groupId ∈ s.settle.subGroupSet)) s.settle.pending = _
    rw [recorded, rest, ← List.foldl_append, eventual, pending, List.append_assoc]

/-- The outcome for a group is the one its last request left. -/
theorem eventual_run (groupId : Int) (events : List Event) (s : Subscriber)
    (consistent : Consistent s) :
    (Runs.run step s events).eventual groupId =
      match lastRequest groupId s events with
      | none => s.eventual groupId
      | some (request, before) => (before.request groupId request).eventual groupId := by
  induction events generalizing s with
  | nil => rfl
  | cons event events inductionHypothesis =>
    rw [Runs.run_cons, inductionHypothesis _ (consistent_step s event consistent)]
    change _ = match (lastRequest groupId (s.step event) events).or (made groupId s event) with
      | none => s.eventual groupId
      | some (request, before) => (before.request groupId request).eventual groupId
    cases later : lastRequest groupId (s.step event) events with
    | some last => rfl
    | none =>
      rw [Option.none_or]
      cases event with
      | request request other =>
        by_cases own : other = groupId
        · subst own
          simp only [made, if_true, step]
        · simp only [made, own, if_false]
          exact eventual_step s _ groupId consistent (fun _ same => own (by injection same))
      | swap => exact eventual_step s _ groupId consistent (by simp)
      | command => exact eventual_step s _ groupId consistent (by simp)
      | settle => exact eventual_step s _ groupId consistent (by simp)

/-- The invariant holds along every run. -/
theorem consistent_run (events : List Event) (s : Subscriber) (consistent : Consistent s) :
    Consistent (Runs.run step s events) :=
  Runs.run_holds step Consistent s events (fun s event _ => consistent_step s event) consistent

/-- With nothing pending the channel is what the pending tasks made of it. -/
theorem channel_of_idle (s : Subscriber) (consistent : Consistent s) (idle : s.Idle)
    (groupId : Int) : decide (groupId ∈ s.channels) = s.eventual groupId := by
  obtain ⟨noQueue, noBatch, noExecuted⟩ := idle
  rw [consistent.mirrored groupId, eventual, pending, noQueue, noBatch, noExecuted]
  rfl

/-- Some thread asked for the group, and its last request was to subscribe. -/
def LastSubscribes (groupId : Int) (events : List Event) : Prop :=
  (lastRequest groupId {} events).map Prod.fst = some .subscribe

/-- Once nothing is pending the channel is as the last request for the group
asked, exactly when that request was effective when it was made. -/
theorem last_request_wins_iff (groupId : Int) (events : List Event)
    (idle : (Runs.run step {} events).Idle) :
    (groupId ∈ (Runs.run step {} events).channels ↔ LastSubscribes groupId events) ↔
      ∀ request before, lastRequest groupId {} events = some (request, before) →
        Effective groupId request before := by
  have channel := channel_of_idle _ (consistent_run events {} consistent_start) idle groupId
  rw [eventual_run groupId events {} consistent_start] at channel
  rw [LastSubscribes]
  cases last : lastRequest groupId {} events with
  | none =>
    rw [last] at channel
    have absent : groupId ∉ (Runs.run step {} events).channels := of_decide_eq_false channel
    simp [absent]
  | some made =>
    obtain ⟨request, before⟩ := made
    rw [last] at channel
    simp only [eventual_request, true_and] at channel
    have present : (groupId ∈ (Runs.run step {} events).channels) ↔
        decide (groupId ∈ (Runs.run step {} events).channels) = true := by simp
    rw [present, channel]
    simp only [Option.map_some, Option.some.injEq, Prod.mk.injEq, and_imp, Effective]
    constructor
    · rintro wins _ _ rfl rfl agrees
      rw [if_neg (not_not.mpr agrees)] at wins
      cases request with
      | subscribe => exact wins.mpr rfl
      | unsubscribe => simpa [Request.wants] using wins
    · intro effective
      have effect := effective request before rfl rfl
      by_cases agrees : decide (groupId ∈ before.subGroupSet) = request.wants
      · rw [if_neg (not_not.mpr agrees), effect agrees]
        cases request <;> simp [Request.wants]
      · rw [if_pos agrees]
        cases request <;> simp [Request.wants]

/-- A subscription carried to its end. -/
theorem last_request_wins_subscribe :
    (Runs.run step {} [.request .subscribe 1, .swap, .command, .settle]).Idle ∧
      ((1 ∈ (Runs.run step {} [.request .subscribe 1, .swap, .command, .settle]).channels ↔
        LastSubscribes 1 [.request .subscribe 1, .swap, .command, .settle]) ↔
      ∀ request before,
        lastRequest 1 {} [.request .subscribe 1, .swap, .command, .settle] =
            some (request, before) →
          Effective 1 request before) :=
  ⟨⟨rfl, rfl, rfl⟩, last_request_wins_iff 1 _ ⟨rfl, rfl, rfl⟩⟩

/-- Subscribe, then unsubscribe before the subscription is recorded: the second
request is skipped and the channel stays subscribed. -/
def overtaken : List Event :=
  [.request .subscribe 1, .request .unsubscribe 1, .swap, .command, .settle]

/-- A request dropped while an earlier task waits is lost. -/
theorem overtaken_stays_subscribed :
    ¬ ∀ events groupId, (Runs.run step {} events).Idle →
      (groupId ∈ (Runs.run step {} events).channels ↔ LastSubscribes groupId events) := by
  intro wins
  have final := wins overtaken 1 ⟨rfl, rfl, rfl⟩
  have subscribed : LastSubscribes 1 overtaken := final.mp (by decide)
  unfold LastSubscribes at subscribed
  exact absurd subscribed (by decide)

end Subscriber

end ClusterChat
