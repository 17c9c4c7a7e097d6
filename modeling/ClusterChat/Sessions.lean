import ClusterChat.Cluster
import ClusterChat.Library.Runs

/-!
# One session at a time

A login reads the presence record, and only later, after its insertion into the
local map, writes it. Between the two anything can happen: another attempt for
the same user can read the same absent record, on this node or another.

`answers` counts, for each user, the logins answered with errno 0 since the
user's presence was last removed by a logout or a closed connection. Mutual
exclusion is that no count ever exceeds one.

`answers_le_one` gives the order under which this holds: every presence write
finds the record still absent, and no session end removes the record between the
write of a login and its answer. Then a record is present whenever an answer is
counted or due, and a login that reads it is turned away.

Redis is available and no presence record expires. Nodes may crash and restart,
and the database may fail.
-/

namespace ClusterChat.Sessions

open ChatService Cluster

/-- The cluster with the number of successful logins of each user since the
user's session last ended. -/
structure State where
  cluster : Cluster
  answers : Int → Nat

/-- Something sent by the step says errno 0. -/
def answered (before after : Cluster) : Bool :=
  (after.sent.drop before.sent.length).any (fun output => output.errno = some 0)

/-- The user whose login the step belongs to. -/
def attempting (c : Cluster) : Event → Option Int
  | .login _ _ _ js _ => (js.int "id").toOption
  | .advance i _ =>
      match c.tasks i with
      | some ⟨_, _, id, .admitted _⟩ | some ⟨_, _, id, .recorded _⟩
      | some ⟨_, _, id, .announced _⟩ => some id
      | _ => none
  | _ => none

/-- The user whose session the step ends: the removal of the presence record. -/
def ending (c : Cluster) : Event → Option Int
  | .advance i _ =>
      match c.tasks i with
      | some ⟨n, _, id, .forgotten⟩ => if (c.nodes n).isSome then some id else none
      | _ => none
  | _ => none

/-- The accepted logins since the user's session ended last. -/
def count (answers : Int → Nat) (before after : Cluster) (event : Event) (id : Int) : Nat :=
  (if ending before event = some id then 0 else answers id) +
    if attempting before event = some id ∧ answered before after then 1 else 0

/-- The cluster and the counts after the event. -/
def step (s : State) (event : Event) : State :=
  ⟨s.cluster.step event, count s.answers s.cluster (s.cluster.step event) event⟩

/-- Nothing is counted at the beginning. -/
def begin (c : Cluster) : State := ⟨c, fun _ => 0⟩

/-- The commands of the step reach Redis. -/
def Available : Event → Prop
  | .login _ _ _ _ faults | .advance _ faults | .restart _ _ faults =>
      faults.redisGrants = [] ∧ faults.redisThrows = []
  | .loginOut _ _ _ _ | .disconnect _ _ _ _ | .crash _ | .pass _ => True

/-- No presence record expires. -/
def Lasting (s : State) : Event → Prop
  | .pass duration => ∀ id, s.cluster.redis.online id = true →
      Redis.expired (s.cluster.redis.now + duration) (s.cluster.redis.entries (.user id)) = false
  | _ => True

/-- The user's presence is written and the login not answered yet. -/
def Due (c : Cluster) (i : Nat) (id : Int) : Prop :=
  ∃ n conn userQuery, c.tasks i = some ⟨n, conn, id, .announced userQuery⟩

/-- A presence write finds no record, and a removal finds no login between its
write and its answer. -/
def Exclusive (s : State) : Event → Prop
  | .advance i _ => ∀ n conn id, (s.cluster.nodes n).isSome →
      (∀ userQuery, s.cluster.tasks i = some ⟨n, conn, id, .recorded userQuery⟩ →
        s.cluster.redis.online id = false) ∧
      (s.cluster.tasks i = some ⟨n, conn, id, .forgotten⟩ → ∀ j, ¬ Due s.cluster j id)
  | _ => True

/-- An answer that is counted or due has its presence record, at most one is due
for a user, and none while one is counted. -/
structure Orderly (s : State) : Prop where
  counted : ∀ id, s.answers id ≠ 0 → s.cluster.redis.online id = true
  due : ∀ i id, Due s.cluster i id →
    s.cluster.redis.online id = true ∧ s.answers id = 0
  unique : ∀ i j id, Due s.cluster i id → Due s.cluster j id → i = j
  bounded : ∀ id, s.answers id ≤ 1

/-- A step that removes no record, makes no answer due, and leaves the counts. -/
theorem orderly_quiet (s : State) (event : Event) (orderly : Orderly s)
    (online : ∀ id, s.cluster.redis.online id = true →
      (s.cluster.step event).redis.online id = true)
    (due : ∀ i id, Due (s.cluster.step event) i id → Due s.cluster i id)
    (same : (step s event).answers = s.answers) : Orderly (step s event) where
  counted id positive := online id (orderly.counted id (same ▸ positive))
  due i id isDue := by
    have before := orderly.due i id (due i id isDue)
    exact ⟨online id before.1, by rw [same]; exact before.2⟩
  unique i j id first second := orderly.unique i j id (due i id first) (due j id second)
  bounded id := by
    rw [same]
    exact orderly.bounded id

/-- What a step counts when it ends no session and sends no errno 0. -/
theorem answers_same (s : State) (event : Event) (unended : ending s.cluster event = none)
    (replies : List Output) (sent : (s.cluster.step event).sent = s.cluster.sent ++ replies)
    (refused : ∀ output ∈ replies, output.errno ≠ some 0) :
    (step s event).answers = s.answers := by
  have silent : answered s.cluster (s.cluster.step event) = false := by
    rw [answered, sent, List.drop_left, List.any_eq_false]
    intro output member
    simpa using refused output member
  funext id
  simp [step, count, unended, silent]

/-- Only a handler that is held in the announced phase becomes due. -/
theorem due_hold (c next : Cluster) (i : Nat) (following : Option Task)
    (tasks : next.tasks = Function.update c.tasks i following)
    (unannounced : ∀ task userQuery, following = some task → task.phase ≠ .announced userQuery)
    (j : Nat) (id : Int) (isDue : Due next j id) : j ≠ i ∧ Due c j id := by
  obtain ⟨n, conn, userQuery, held⟩ := isDue
  rw [tasks] at held
  by_cases same : j = i
  · subst same
    rw [Function.update_self] at held
    exact absurd rfl (unannounced _ userQuery held)
  · rw [Function.update_of_ne same] at held
    exact ⟨same, n, conn, userQuery, held⟩

/-- A handler held in the announced phase adds only itself to those due. -/
theorem due_announced (c next : Cluster) (i n : Nat) (conn : Conn) (id : Int) (userQuery : User)
    (tasks : next.tasks = Function.update c.tasks i (some ⟨n, conn, id, .announced userQuery⟩))
    (j : Nat) (other : Int) (isDue : Due next j other) :
    (j = i ∧ other = id) ∨ (j ≠ i ∧ Due c j other) := by
  obtain ⟨m, conn', userQuery', held⟩ := isDue
  rw [tasks] at held
  by_cases own : j = i
  · subst own
    rw [Function.update_self] at held
    cases held
    exact Or.inl ⟨rfl, rfl⟩
  · rw [Function.update_of_ne own] at held
    exact Or.inr ⟨own, m, conn', userQuery', held⟩

/-- A first part that sends no errno 0 and leaves the presence records. -/
theorem orderly_begin (s : State) (event : Event) (i n : Nat) (conn : Conn) (faults : Faults)
    (part : Handler (Option (Int × Phase))) (orderly : Orderly s)
    (stepped : s.cluster.step event = s.cluster.begin i n conn faults part)
    (unended : ending s.cluster event = none)
    (runs : ∀ node, ∃ outcome w replies, part (s.cluster.world node faults) = (outcome, w) ∧
      w.redis.store = s.cluster.redis ∧ w.sent = s.cluster.sent ++ replies ∧
      (∀ output ∈ replies, output.errno ≠ some 0) ∧
      ∀ id userQuery, outcome.toOption.join ≠ some (id, .announced userQuery)) :
    Orderly (step s event) := by
  by_cases ready : s.cluster.tasks i = none ∧ (s.cluster.nodes n).isSome
  · obtain ⟨node, running⟩ := Option.isSome_iff_exists.mp ready.2
    obtain ⟨outcome, w, replies, ended, store, sent, refused, unannounced⟩ := runs node
    have next : s.cluster.step event = (s.cluster.absorb n w).hold i
        (outcome.toOption.join.map fun left => ⟨n, conn, left.1, left.2⟩) := by
      rw [stepped, begin_free s.cluster i n conn node faults part ready.1 running,
        perform_runs s.cluster i n conn node faults part outcome w ended]
    refine orderly_quiet s event orderly ?_ ?_ ?_
    · intro id present
      rw [next]
      exact (congrArg (fun redis : Redis => redis.online id) store).trans present
    · intro j id isDue
      rw [next] at isDue
      refine (due_hold s.cluster _ i _ rfl ?_ j id isDue).2
      intro task userQuery held phase
      obtain ⟨left, found, rfl⟩ := Option.map_eq_some_iff.mp held
      exact unannounced left.1 userQuery (by rw [found, ← phase])
    · exact answers_same s event unended replies (by rw [next]; exact sent) refused
  · have idle : s.cluster.step event = s.cluster := by
      rw [stepped, begin_idle s.cluster i n conn faults part ready]
    refine orderly_quiet s event orderly ?_ ?_ ?_
    · exact fun id present => by rw [idle]; exact present
    · exact fun j id isDue => by rw [idle] at isDue; exact isDue
    · exact answers_same s event unended [] (by rw [idle, List.append_nil]) (by simp)

/-- A login that starts keeps the order. -/
theorem orderly_login (s : State) (i n : Nat) (conn : Conn) (js : Json) (faults : Faults)
    (orderly : Orderly s) : Orderly (step s (.login i n conn js faults)) := by
  refine orderly_begin s _ i n conn faults _ orderly rfl rfl ?_
  intro node
  obtain ⟨outcome, mysql, m, replies, ended, store, refused, left⟩ :=
    beginLogin_runs conn js (s.cluster.world node faults)
  refine ⟨outcome, _, replies, ended, store, rfl, refused, ?_⟩
  intro id userQuery announced
  rcases left with none | ⟨other, found, _, admitted, _⟩
  · rw [none] at announced
    cases announced
  · rw [admitted] at announced
    cases announced

/-- So does a logout that starts. -/
theorem orderly_loginOut (s : State) (i n : Nat) (conn : Conn) (js : Json) (orderly : Orderly s) :
    Orderly (step s (.loginOut i n conn js)) := by
  refine orderly_begin s _ i n conn {} _ orderly rfl rfl ?_
  intro node
  rw [beginLoginOut]
  cases js.int "id" with
  | error exception =>
    exact ⟨_, s.cluster.world node {}, [], rfl, rfl, (List.append_nil _).symm, by simp,
      fun _ _ => by rintro ⟨⟩⟩
  | ok id =>
    exact ⟨_, { s.cluster.world node {} with node := node.forget id }, [], rfl, rfl,
      (List.append_nil _).symm, by simp, fun _ _ => by rintro ⟨⟩⟩

/-- So does a closed connection. -/
theorem orderly_disconnect (s : State) (i n : Nat) (hint : Int) (conn : Conn)
    (orderly : Orderly s) : Orderly (step s (.disconnect i n hint conn)) := by
  refine orderly_begin s _ i n conn {} _ orderly rfl rfl ?_
  intro node
  rw [beginQuit_runs]
  cases (s.cluster.world node {}).node.entryOf conn hint with
  | none =>
    exact ⟨_, s.cluster.world node {}, [], rfl, rfl, (List.append_nil _).symm, by simp,
      fun _ _ => by rintro ⟨⟩⟩
  | some id =>
    refine ⟨_, { s.cluster.world node {} with node := node.forget id }, [], rfl, rfl,
      (List.append_nil _).symm, by simp, ?_⟩
    intro other userQuery announced
    by_cases default : id = -1
    · simp [default, Except.toOption] at announced
    · simp [default, Except.toOption] at announced

section Advance

variable (s : State) (i n : Nat) (conn : Conn) (id : Int) (node : Node) (faults : Faults)

/-- A next part that neither writes nor removes a record nor answers. -/
theorem orderly_advance_quiet (phase : Phase) (following : Option Phase) (changed : Node)
    (orderly : Orderly s) (held : s.cluster.tasks i = some ⟨n, conn, id, phase⟩)
    (running : s.cluster.nodes n = some node) (unending : phase ≠ .forgotten)
    (unannounced : ∀ userQuery, following ≠ some (.announced userQuery))
    (ended : phase.proceed conn id (s.cluster.world node faults) =
      (.ok following, { s.cluster.world node faults with node := changed })) :
    Orderly (step s (.advance i faults)) := by
  have next : s.cluster.step (.advance i faults) = (s.cluster.absorb n
      { s.cluster.world node faults with node := changed }).hold i
        (following.map fun left => ⟨n, conn, id, left⟩) :=
    advance_runs s.cluster i n conn id node faults phase following _ held running ended
  refine orderly_quiet s _ orderly ?_ ?_ ?_
  · intro other present
    rw [next]
    exact present
  · intro j other isDue
    rw [next] at isDue
    refine (due_hold s.cluster _ i _ rfl ?_ j other isDue).2
    intro task userQuery left phase
    obtain ⟨found, isLeft, rfl⟩ := Option.map_eq_some_iff.mp left
    exact unannounced userQuery (isLeft.trans (congrArg some phase))
  · refine answers_same s _ ?_ [] (by rw [next, List.append_nil]; rfl) (by simp)
    rw [ending, held]
    cases phase with
    | forgotten => exact absurd rfl unending
    | _ => rfl

/-- A presence write that finds no record makes the first answer due. -/
theorem orderly_recorded (userQuery : User) (orderly : Orderly s)
    (held : s.cluster.tasks i = some ⟨n, conn, id, .recorded userQuery⟩)
    (running : s.cluster.nodes n = some node) (reliable : (s.cluster.reach faults).Reliable)
    (absent : s.cluster.redis.online id = false) : Orderly (step s (.advance i faults)) := by
  obtain ⟨m, ended, written, others⟩ :=
    Phase.proceed_recorded conn id userQuery (s.cluster.world node faults)
  have next : s.cluster.step (.advance i faults) = (s.cluster.absorb n
      { s.cluster.world node faults with redis := m }).hold i
        (some ⟨n, conn, id, .announced userQuery⟩) :=
    advance_runs s.cluster i n conn id node faults _ _ _ held running ended
  have announced : ChatService.Announced (s.cluster.reach faults) id = true :=
    RedisAccess.answers_of_reliable _ (RedisAccess.run_reliable _ _ reliable)
  have present : m.store.online id = true := by
    rw [written]
    change (ChatService.Announced (s.cluster.reach faults) id || s.cluster.redis.online id) = true
    rw [announced]
    rfl
  have same : (step s (.advance i faults)).answers = s.answers := by
    refine answers_same s _ ?_ [] (by rw [next, List.append_nil]; rfl) (by simp)
    rw [ending, held]
  have uncounted : s.answers id = 0 := by
    by_contra counted
    rw [orderly.counted id counted] at absent
    cases absent
  have online (other : Int) (before : s.cluster.redis.online other = true) :
      m.store.online other = true := by
    by_cases own : other = id
    · exact own ▸ present
    · exact (others other own).trans before
  have due_cases (j : Nat) (other : Int)
      (isDue : Due (step s (.advance i faults)).cluster j other) :
      (j = i ∧ other = id) ∨ (j ≠ i ∧ other ≠ id ∧ Due s.cluster j other) := by
    change Due (s.cluster.step (.advance i faults)) j other at isDue
    rw [next] at isDue
    rcases due_announced s.cluster _ i n conn id userQuery rfl j other isDue with
      own | ⟨distinct, before⟩
    · exact Or.inl own
    · refine Or.inr ⟨distinct, ?_, before⟩
      rintro rfl
      rw [(orderly.due j other before).1] at absent
      cases absent
  have stored (other : Int) : (step s (.advance i faults)).cluster.redis.online other =
      m.store.online other := by
    change (s.cluster.step (.advance i faults)).redis.online other = _
    rw [next]
    rfl
  constructor
  · intro other counted
    rw [stored]
    exact online other (orderly.counted other (same ▸ counted))
  · intro j other isDue
    rw [stored, same]
    rcases due_cases j other isDue with ⟨_, rfl⟩ | ⟨_, _, before⟩
    · exact ⟨present, uncounted⟩
    · exact ⟨online other (orderly.due j other before).1, (orderly.due j other before).2⟩
  · intro j k other first second
    rcases due_cases j other first with ⟨rfl, rfl⟩ | ⟨_, distinct, firstBefore⟩
    · rcases due_cases k other second with ⟨rfl, _⟩ | ⟨_, distinct, _⟩
      · rfl
      · exact absurd rfl distinct
    · rcases due_cases k other second with ⟨_, rfl⟩ | ⟨_, _, secondBefore⟩
      · exact absurd rfl distinct
      · exact orderly.unique j k other firstBefore secondBefore
  · intro other
    rw [same]
    exact orderly.bounded other

/-- The answer that was due is counted. -/
theorem orderly_announced (userQuery : User) (orderly : Orderly s)
    (held : s.cluster.tasks i = some ⟨n, conn, id, .announced userQuery⟩)
    (running : s.cluster.nodes n = some node) : Orderly (step s (.advance i faults)) := by
  obtain ⟨changed, mysql, m, output, ended, _, success, online⟩ :=
    Phase.proceed_announced conn id userQuery (s.cluster.world node faults)
  have next : s.cluster.step (.advance i faults) = (s.cluster.absorb n
      ⟨changed, mysql, m, s.cluster.sent ++ [output]⟩).hold i none :=
    advance_runs s.cluster i n conn id node faults _ _ _ held running ended
  have wasDue : Due s.cluster i id := ⟨n, conn, userQuery, held⟩
  obtain ⟨present, uncounted⟩ := orderly.due i id wasDue
  have counted (other : Int) : (step s (.advance i faults)).answers other =
      if other = id then 1 else s.answers other := by
    have isAnswered : answered s.cluster (s.cluster.step (.advance i faults)) = true := by
      rw [next]
      change ((s.cluster.sent ++ [output]).drop s.cluster.sent.length).any _ = true
      rw [List.drop_left]
      simp [success]
    simp only [step, count, ending, attempting, held, isAnswered]
    by_cases own : other = id
    · subst own
      simp [uncounted]
    · simp [own, Ne.symm own]
  have stored (other : Int) : (step s (.advance i faults)).cluster.redis.online other =
      s.cluster.redis.online other := by
    change (s.cluster.step (.advance i faults)).redis.online other = _
    rw [next]
    exact online other
  have due_before (j : Nat) (other : Int)
      (isDue : Due (step s (.advance i faults)).cluster j other) :
      Due s.cluster j other ∧ other ≠ id := by
    change Due (s.cluster.step (.advance i faults)) j other at isDue
    rw [next] at isDue
    obtain ⟨distinct, before⟩ :=
      due_hold s.cluster _ i none rfl (by rintro _ _ ⟨⟩) j other isDue
    refine ⟨before, ?_⟩
    rintro rfl
    exact distinct (orderly.unique j i other before wasDue)
  constructor
  · intro other positive
    rw [stored]
    by_cases own : other = id
    · exact own ▸ present
    · rw [counted, if_neg own] at positive
      exact orderly.counted other positive
  · intro j other isDue
    obtain ⟨before, distinct⟩ := due_before j other isDue
    rw [stored, counted, if_neg distinct]
    exact orderly.due j other before
  · intro j k other first second
    exact orderly.unique j k other (due_before j other first).1 (due_before k other second).1
  · intro other
    rw [counted]
    split
    · exact le_refl 1
    · exact orderly.bounded other

/-- The removal of a record when no answer is due for its user. -/
theorem orderly_forgotten (orderly : Orderly s)
    (held : s.cluster.tasks i = some ⟨n, conn, id, .forgotten⟩)
    (running : s.cluster.nodes n = some node) (none : ∀ j, ¬ Due s.cluster j id) :
    Orderly (step s (.advance i faults)) := by
  obtain ⟨m, ended, _, others⟩ := Phase.proceed_forgotten conn id (s.cluster.world node faults)
  have next : s.cluster.step (.advance i faults) = (s.cluster.absorb n
      { s.cluster.world node faults with redis := m }).hold i (some ⟨n, conn, id, .removed⟩) :=
    advance_runs s.cluster i n conn id node faults _ _ _ held running ended
  have counted (other : Int) : (step s (.advance i faults)).answers other =
      if other = id then 0 else s.answers other := by
    have isSome : (s.cluster.nodes n).isSome = true := by
      rw [running]
      rfl
    simp only [step, count, ending, attempting, held, isSome]
    by_cases own : other = id
    · simp [own]
    · simp [own, Ne.symm own]
  have stored (other : Int) (distinct : other ≠ id) :
      (step s (.advance i faults)).cluster.redis.online other =
        s.cluster.redis.online other := by
    change (s.cluster.step (.advance i faults)).redis.online other = _
    rw [next]
    exact others other distinct
  have due_before (j : Nat) (other : Int)
      (isDue : Due (step s (.advance i faults)).cluster j other) : Due s.cluster j other := by
    change Due (s.cluster.step (.advance i faults)) j other at isDue
    rw [next] at isDue
    exact (due_hold s.cluster _ i _ rfl (by rintro _ _ ⟨⟩ ⟨⟩) j other isDue).2
  constructor
  · intro other positive
    by_cases own : other = id
    · rw [counted, if_pos own] at positive
      exact absurd rfl positive
    · rw [counted, if_neg own] at positive
      rw [stored other own]
      exact orderly.counted other positive
  · intro j other isDue
    have before := due_before j other isDue
    have distinct : other ≠ id := by
      rintro rfl
      exact none j before
    rw [stored other distinct, counted, if_neg distinct]
    exact orderly.due j other before
  · intro j k other first second
    exact orderly.unique j k other (due_before j other first) (due_before k other second)
  · intro other
    rw [counted]
    split
    · exact Nat.zero_le 1
    · exact orderly.bounded other

end Advance

/-- So does a command of one of them that excludes the others of its user. -/
theorem orderly_advance (s : State) (i : Nat) (faults : Faults) (orderly : Orderly s)
    (available : Available (.advance i faults)) (exclusive : Exclusive s (.advance i faults)) :
    Orderly (step s (.advance i faults)) := by
  by_cases active : ∃ task node, s.cluster.tasks i = some task ∧
      s.cluster.nodes task.node = some node
  · obtain ⟨⟨n, conn, id, phase⟩, node, held, running⟩ := active
    have isRunning : (s.cluster.nodes n).isSome = true := by
      simp only [running, Option.isSome_some]
    obtain ⟨absent, free⟩ := exclusive n conn id isRunning
    cases phase with
    | admitted userQuery =>
      exact orderly_advance_quiet s i n conn id node faults _ _ _ orderly held running
        (by rintro ⟨⟩) (by rintro _ ⟨⟩) (Phase.proceed_admitted conn id userQuery _)
    | recorded userQuery =>
      exact orderly_recorded s i n conn id node faults userQuery orderly held running available
        (absent userQuery held)
    | announced userQuery =>
      exact orderly_announced s i n conn id node faults userQuery orderly held running
    | forgotten =>
      exact orderly_forgotten s i n conn id node faults orderly held running (free held)
    | removed =>
      exact orderly_advance_quiet s i n conn id node faults _ _ _ orderly held running
        (by rintro ⟨⟩) (by rintro _ ⟨⟩) (Phase.proceed_removed conn id _)
  · have idle (task : Task) (held : s.cluster.tasks i = some task) :
        s.cluster.nodes task.node = none := by
      by_contra running
      obtain ⟨node, found⟩ := Option.ne_none_iff_exists'.mp running
      exact active ⟨task, node, held, found⟩
    have same : s.cluster.step (.advance i faults) = s.cluster :=
      advance_idle s.cluster i faults idle
    refine orderly_quiet s _ orderly ?_ ?_ ?_
    · exact fun id present => by rw [same]; exact present
    · exact fun j id isDue => by rw [same] at isDue; exact isDue
    · refine answers_same s _ ?_ [] (by rw [same, List.append_nil]) (by simp)
      rw [ending]
      split
      · rename_i n conn id held
        have stopped : s.cluster.nodes n = none := idle _ held
        simp [stopped]
      · rfl

/-- A crash drops handlers and writes nothing. -/
theorem orderly_crash (s : State) (n : Nat) (orderly : Orderly s) :
    Orderly (step s (.crash n)) := by
  refine orderly_quiet s _ orderly (fun _ present => present) ?_ ?_
  · rintro i id ⟨other, conn, userQuery, held⟩
    have kept : (s.cluster.tasks i).filter (fun task => task.node ≠ n) =
        some ⟨other, conn, id, .announced userQuery⟩ := held
    exact ⟨other, conn, userQuery, (Option.filter_eq_some_iff.mp kept).1⟩
  · exact answers_same s _ rfl [] (List.append_nil _).symm (by simp)

/-- A restart keeps the order. -/
theorem orderly_restart (s : State) (n : Nat) (localNodeId : String) (faults : Faults)
    (orderly : Orderly s) : Orderly (step s (.restart n localNodeId faults)) := by
  cases running : s.cluster.nodes n with
  | some node =>
    have same : s.cluster.step (.restart n localNodeId faults) = s.cluster := by
      rw [Cluster.step, restart, running]
    refine orderly_quiet s _ orderly ?_ ?_ ?_
    · exact fun id present => by rw [same]; exact present
    · exact fun j id isDue => by rw [same] at isDue; exact isDue
    · exact answers_same s _ rfl [] (by rw [same, List.append_nil]) (by simp)
  | none =>
    have next : s.cluster.step (.restart n localNodeId faults) = s.cluster.absorb n
        (reset (s.cluster.world (Node.fresh localNodeId) faults)).2 := by
      rw [Cluster.step, restart, running]
    refine orderly_quiet s _ orderly ?_ ?_ ?_
    · exact fun id present => by rw [next]; exact present
    · exact fun j id isDue => by rw [next] at isDue; exact isDue
    · exact answers_same s _ rfl [] (by rw [next, List.append_nil]; rfl) (by simp)

/-- So does time that lets no record expire. -/
theorem orderly_pass (s : State) (duration : Nat) (orderly : Orderly s)
    (lasting : Lasting s (.pass duration)) : Orderly (step s (.pass duration)) := by
  refine orderly_quiet s _ orderly ?_ (fun _ _ isDue => isDue) ?_
  · intro id present
    change (s.cluster.redis.advance duration).online id = true
    rw [Redis.online_advance, lasting id present, present]
    rfl
  · exact answers_same s _ rfl [] (List.append_nil _).symm (by simp)

/-- The step reaches Redis, lets no record expire, and is exclusive. -/
def Permitted (s : State) (event : Event) : Prop :=
  Available event ∧ Lasting s event ∧ Exclusive s event

/-- Every permitted event keeps the order. -/
theorem orderly_step (s : State) (event : Event) (orderly : Orderly s)
    (permitted : Permitted s event) : Orderly (step s event) := by
  obtain ⟨available, lasting, exclusive⟩ := permitted
  cases event with
  | login i n conn js faults => exact orderly_login s i n conn js faults orderly
  | loginOut i n conn js => exact orderly_loginOut s i n conn js orderly
  | disconnect i n hint conn => exact orderly_disconnect s i n hint conn orderly
  | advance i faults => exact orderly_advance s i faults orderly available exclusive
  | crash n => exact orderly_crash s n orderly
  | restart n localNodeId faults => exact orderly_restart s n localNodeId faults orderly
  | pass duration => exact orderly_pass s duration orderly lasting

/-- A quiescent cluster is in order. -/
theorem orderly_begin_run (c : Cluster) (quiescent : c.Quiescent) : Orderly (begin c) where
  counted id positive := absurd rfl positive
  due i id isDue := by
    obtain ⟨n, conn, userQuery, held⟩ := isDue
    rw [begin, quiescent i] at held
    cases held
  unique i j id first := by
    obtain ⟨n, conn, userQuery, held⟩ := first
    rw [begin, quiescent i] at held
    cases held
  bounded id := Nat.zero_le 1

/-- From any state without a handler in progress, under available Redis, lasting
records and exclusive steps, no user's login is answered with errno 0 twice
without an end of the user's session between the two. -/
theorem answers_le_one (c : Cluster) (events : List Event) (quiescent : c.Quiescent)
    (permitted : Runs.Guarded step Permitted (begin c) events) :
    Runs.Always step (fun s => ∀ id, s.answers id ≤ 1) (begin c) events := by
  have orderly := Runs.always_of_guarded step Orderly Permitted orderly_step (begin c) events
    (orderly_begin_run c quiescent) permitted
  exact Runs.always_mono step Orderly _ (fun _ orderly => orderly.bounded) _ _ orderly

/-- What a handler that goes on is asked: of a presence write and of a removal. -/
theorem exclusive_advance (s : State) (i n : Nat) (conn : Conn) (id : Int) (phase : Phase)
    (faults : Faults) (held : s.cluster.tasks i = some ⟨n, conn, id, phase⟩)
    (write : ∀ userQuery, phase = .recorded userQuery → s.cluster.redis.online id = false)
    (removal : phase = .forgotten → ∀ j, ¬ Due s.cluster j id) :
    Exclusive s (.advance i faults) := by
  intro _ _ _ _
  rw [held]
  constructor
  · intro userQuery same
    cases same
    exact write userQuery rfl
  · intro same
    cases same
    exact removal rfl

/-- User 1 logs in on one node, is refused on the other, logs out, and logs in on the other. -/
def attempts : List Event :=
  [.restart 0 "node-1" {}, .restart 1 "node-2" {}, .login 0 0 ⟨"c"⟩ (loginRequest 1 "a") {},
    .advance 0 {}, .advance 0 {}, .advance 0 {}, .login 1 1 ⟨"d"⟩ (loginRequest 1 "a") {},
    .loginOut 2 0 ⟨"c"⟩ (.object [("id", .integer 1)]), .advance 2 {}, .advance 2 {},
    .login 3 1 ⟨"d"⟩ (loginRequest 1 "a") {}, .advance 3 {}, .advance 3 {}, .advance 3 {}]

/-- Each presence write finds no record, and the record is removed when no answer is due. -/
theorem permitted_attempts :
    Runs.Guarded step Permitted (begin (start account Redis.empty)) attempts := by
  refine ⟨⟨⟨rfl, rfl⟩, trivial, trivial⟩, ⟨⟨rfl, rfl⟩, trivial, trivial⟩,
    ⟨⟨rfl, rfl⟩, trivial, trivial⟩, ⟨⟨rfl, rfl⟩, trivial, ?_⟩, ⟨⟨rfl, rfl⟩, trivial, ?_⟩,
    ⟨⟨rfl, rfl⟩, trivial, ?_⟩, ⟨⟨rfl, rfl⟩, trivial, trivial⟩, ⟨trivial, trivial, trivial⟩,
    ⟨⟨rfl, rfl⟩, trivial, ?_⟩, ⟨⟨rfl, rfl⟩, trivial, ?_⟩, ⟨⟨rfl, rfl⟩, trivial, trivial⟩,
    ⟨⟨rfl, rfl⟩, trivial, ?_⟩, ⟨⟨rfl, rfl⟩, trivial, ?_⟩, ⟨⟨rfl, rfl⟩, trivial, ?_⟩, trivial⟩
  · exact exclusive_advance _ _ _ _ _ _ _ rfl (by rintro _ ⟨⟩) (by rintro ⟨⟩)
  · exact exclusive_advance _ _ _ _ _ _ _ rfl (fun _ _ => by decide) (by rintro ⟨⟩)
  · exact exclusive_advance _ _ _ _ _ _ _ rfl (by rintro _ ⟨⟩) (by rintro ⟨⟩)
  · refine exclusive_advance _ _ _ _ _ _ _ rfl (by rintro _ ⟨⟩) ?_
    rintro - j ⟨n, conn, userQuery, held⟩
    rcases j with _ | _ | _ | j <;> cases held
  · exact exclusive_advance _ _ _ _ _ _ _ rfl (by rintro _ ⟨⟩) (by rintro ⟨⟩)
  · exact exclusive_advance _ _ _ _ _ _ _ rfl (by rintro _ ⟨⟩) (by rintro ⟨⟩)
  · exact exclusive_advance _ _ _ _ _ _ _ rfl (fun _ _ => by decide) (by rintro ⟨⟩)
  · exact exclusive_advance _ _ _ _ _ _ _ rfl (by rintro _ ⟨⟩) (by rintro ⟨⟩)

/-- The three logins are answered with success, a refusal, and success again. -/
theorem answers_le_one_attempts : (start account Redis.empty).Quiescent ∧
    Runs.Guarded step Permitted (begin (start account Redis.empty)) attempts ∧
    (Runs.run step (begin (start account Redis.empty)) attempts).cluster.sent.map Output.errno =
      [some 0, some 2, some 0] ∧
    Runs.Always step (fun s => ∀ id, s.answers id ≤ 1) (begin (start account Redis.empty))
      attempts :=
  ⟨fun _ => rfl, permitted_attempts, by decide,
    answers_le_one (start account Redis.empty) attempts (fun _ => rfl) permitted_attempts⟩

/-- Two nodes read the absent record of user 1 before either writes it. -/
def overlapping : List Event :=
  [.restart 0 "node-1" {}, .restart 1 "node-2" {}, .login 0 0 ⟨"c"⟩ (loginRequest 1 "a") {},
    .login 1 1 ⟨"d"⟩ (loginRequest 1 "a") {}, .advance 0 {}, .advance 0 {}, .advance 0 {},
    .advance 1 {}, .advance 1 {}, .advance 1 {}]

/-- Two logins of a user that overlap are both accepted. -/
theorem overlapping_logins_both_succeed : ¬ ∀ c events, c.Quiescent →
    Runs.Guarded step (fun s event => Available event ∧ Lasting s event) (begin c) events →
    Runs.Always step (fun s => ∀ id, s.answers id ≤ 1) (begin c) events := by
  intro exclusive
  have always := exclusive (start account Redis.empty) overlapping (fun _ => rfl)
    (by simp [overlapping, Runs.Guarded, Available, Lasting])
  have final := Runs.always_end step _ _ _ always
  exact absurd (final 1) (by decide)

end ClusterChat.Sessions
