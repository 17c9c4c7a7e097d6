import ClusterChat.Cluster
import ClusterChat.Library.Runs

/-!
# Presence records and connection maps

A user is present twice: in the map of the node that serves the user, and in a
Redis record that expires after two minutes. A handler changes the map first and
the record after, so between the two parts the user is unsettled, and agreement
can only be asked of settled users. When no handler is in progress every user is
settled.

`coherent_iff_careful` says which steps keep the agreement, and it is exact: the
last pending write of a user must leave what the maps then say, a closed
connection of user -1 writes nothing and needs another node, the users of a
crashing node must be served elsewhere, and no record may expire while a running
node still serves its user. `presence_agrees` is the consequence for states in
which no handler is in progress.

Nothing renews a record, so the last condition limits every session to two
minutes. Faults of the database and of Redis are allowed everywhere; a presence
write that does not take effect is one of the ways to break the agreement.
-/

namespace ClusterChat.Presence

open ChatService Cluster

/-- The map of the node is changed and the presence record is not yet. -/
def Unsettled : Phase → Prop
  | .recorded _ | .forgotten => True
  | .admitted _ | .announced _ | .removed => False

/-- The handler has still to write the presence record of the user. -/
def Pending (c : Cluster) (i : Nat) (id : Int) : Prop :=
  ∃ task, c.tasks i = some task ∧ task.id = id ∧ Unsettled task.phase

/-- No call of the user is under way. -/
def Settled (c : Cluster) (id : Int) : Prop := ∀ i, ¬ Pending c i id

/-- No other handler has still to write the presence record of the user. -/
def Last (c : Cluster) (i : Nat) (id : Int) : Prop := ∀ j ≠ i, ¬ Pending c j id

/-- Asked reliably, Redis says that the user is online if and only if some running
node has a connection of the user. -/
def Agrees (c : Cluster) (id : Int) : Prop :=
  ((RedisAccess.reliable c.redis).run (RedisClient.isUserOnline id)).1 = true ↔ c.Mapped id

/-- For users without calls under way, Redis agrees with the nodes. -/
def Coherent (c : Cluster) : Prop := ∀ id, Settled c id → Agrees c id

/-- The next part leaves the presence record as the maps want it. -/
def Rightful (c : Cluster) (faults : Faults) (id : Int) : Phase → Prop
  | .recorded _ => c.Mapped id ↔ Announced (c.reach faults) id = true ∨ c.redis.online id = true
  | .forgotten => c.Mapped id ↔ (c.reach faults).answers = false ∧ c.redis.online id = true
  | .admitted _ | .announced _ | .removed => True

/-- What keeps the agreement, for each step. -/
def Careful (c : Cluster) : Event → Prop
  | .advance i faults => ∀ task, c.tasks i = some task → (c.nodes task.node).isSome →
      Last c i task.id → Rightful c faults task.id task.phase
  | .disconnect i n hint conn => ∀ node, c.tasks i = none → c.nodes n = some node →
      node.entryOf conn hint = some (-1) → Settled c (-1) → c.Elsewhere n (-1)
  | .crash n => ∀ id, (∀ i task, c.tasks i = some task → task.id = id → Unsettled task.phase →
      task.node = n) → (c.redis.online id = true ↔ c.Elsewhere n id)
  | .pass duration => ∀ id, Settled c id → c.Mapped id →
      Redis.expired (c.redis.now + duration) (c.redis.entries (.user id)) = false
  | .login _ _ _ _ _ | .loginOut _ _ _ _ | .restart _ _ _ => True

/-- Redis says online if and only if some node has the user. -/
theorem agrees_iff (c : Cluster) (id : Int) :
    Agrees c id ↔ (c.redis.online id = true ↔ c.Mapped id) := by
  rw [Agrees, RedisClient.isUserOnline_reliable]

section Frames

variable (c next : Cluster) (i : Nat) (id : Int)

/-- What a changed table of handlers says is pending. -/
theorem pending_hold (following : Option Task)
    (tasks : next.tasks = Function.update c.tasks i following) (j : Nat) (other : Int) :
    Pending next j other ↔ if j = i then ∃ task, following = some task ∧ task.id = other ∧
      Unsettled task.phase else Pending c j other := by
  unfold Pending
  rw [tasks]
  by_cases same : j = i
  · subst same
    simp
  · simp [same]

/-- A handler of one user settles and unsettles nobody else. -/
theorem settled_others (following : Option Task)
    (tasks : next.tasks = Function.update c.tasks i following)
    (before : ∀ task, c.tasks i = some task → task.id = id)
    (after : ∀ task, following = some task → task.id = id) (other : Int) (distinct : other ≠ id) :
    Settled next other ↔ Settled c other := by
  unfold Settled
  refine forall_congr' fun j => not_congr ?_
  rw [pending_hold c next i following tasks]
  by_cases same : j = i
  · rw [if_pos same]
    constructor
    · rintro ⟨task, held, owner, _⟩
      exact absurd ((after task held).symm.trans owner) (Ne.symm distinct)
    · rintro ⟨task, held, owner, _⟩
      exact absurd ((before task (same ▸ held)).symm.trans owner) (Ne.symm distinct)
  · rw [if_neg same]

/-- Once its own handler writes nothing more, a user is settled if it was the last. -/
theorem settled_iff_last (following : Option Task)
    (tasks : next.tasks = Function.update c.tasks i following)
    (written : ∀ task, following = some task → ¬ Unsettled task.phase) :
    Settled next id ↔ Last c i id := by
  unfold Settled Last
  refine forall_congr' fun j => ?_
  rw [pending_hold c next i following tasks]
  by_cases same : j = i
  · rw [if_pos same]
    constructor
    · exact fun _ distinct => absurd same distinct
    · rintro _ ⟨task, held, _, unsettled⟩
      exact written task held unsettled
  · rw [if_neg same]
    exact ⟨fun settled _ => settled, fun last => last same⟩

/-- A step that concerns one user leaves everybody else's agreement. -/
theorem coherent_touch (coherent : Coherent c)
    (online : ∀ other ≠ id, next.redis.online other = c.redis.online other)
    (mapped : ∀ other ≠ id, next.Mapped other ↔ c.Mapped other)
    (settled : ∀ other ≠ id, Settled next other ↔ Settled c other) :
    Coherent next ↔ (Settled next id → Agrees next id) := by
  constructor
  · exact fun kept => kept id
  · intro own other isSettled
    by_cases same : other = id
    · exact same ▸ own (same ▸ isSettled)
    · have before := coherent other ((settled other same).mp isSettled)
      rw [agrees_iff] at before ⊢
      rw [online other same, mapped other same]
      exact before

/-- A step that concerns nobody keeps every agreement. -/
theorem coherent_same (coherent : Coherent c)
    (online : ∀ other, next.redis.online other = c.redis.online other)
    (mapped : ∀ other, next.Mapped other ↔ c.Mapped other)
    (settled : ∀ other, Settled next other → Settled c other) : Coherent next := by
  intro other isSettled
  have before := coherent other (settled other isSettled)
  rw [agrees_iff] at before ⊢
  rw [online other, mapped other]
  exact before

end Frames

section Frames

variable (c next : Cluster) (i : Nat)

/-- A handler that had nothing to write leaves everybody as settled as before. -/
theorem settled_kept (following : Option Task)
    (tasks : next.tasks = Function.update c.tasks i following)
    (before : ∀ task, c.tasks i = some task → ¬ Unsettled task.phase) (other : Int)
    (settled : Settled next other) : Settled c other := by
  intro j
  by_cases same : j = i
  · subst same
    rintro ⟨task, held, _, unsettled⟩
    exact before task held unsettled
  · have elsewhere := settled j
    rw [pending_hold c next i following tasks, if_neg same] at elsewhere
    exact elsewhere

/-- A user whose handler has still to write is not settled. -/
theorem not_settled (id : Int) (task : Task)
    (tasks : next.tasks = Function.update c.tasks i (some task)) (owner : task.id = id)
    (unsettled : Unsettled task.phase) : ¬ Settled next id := by
  intro settled
  refine settled i ?_
  rw [pending_hold c next i (some task) tasks, if_pos rfl]
  exact ⟨task, rfl, owner, unsettled⟩

end Frames

/-!
## The steps
-/

section Parts

variable (c : Cluster) (i n : Nat) (conn : Conn) (id : Int) (node : Node) (faults : Faults)
  (phase : Phase)

/-- The user of the handler that takes the part. -/
theorem owner_of_held (held : c.tasks i = some ⟨n, conn, id, phase⟩) (task : Task)
    (held' : c.tasks i = some task) : task.id = id := by
  rw [held, Option.some.injEq] at held'
  exact held' ▸ rfl

/-- A part that enters the user into the map leaves the user unsettled. -/
theorem coherent_admitted (userQuery : User) (coherent : Coherent c)
    (held : c.tasks i = some ⟨n, conn, id, .admitted userQuery⟩)
    (running : c.nodes n = some node) : Coherent (c.advance i faults) := by
  rw [advance_runs c i n conn id node faults _ _ _ held running
    (Phase.proceed_admitted conn id userQuery _)]
  refine (coherent_touch c _ id coherent ?_ ?_ ?_).mpr ?_
  · exact fun _ _ => rfl
  · intro other distinct
    refine mapped_same c _ n node _ running rfl other ?_
    exact (Node.connected_record node id other conn).trans (or_iff_right distinct)
  · exact settled_others c _ i id _ rfl (owner_of_held c i n conn id _ held)
      (by rintro _ ⟨⟩; rfl)
  · intro settled
    exact absurd settled (not_settled c _ i id _ rfl rfl trivial)

/-- A part that writes the record of its user decides the agreement of that user,
if no other write is pending. -/
theorem coherent_written (following : Phase) (m : RedisAccess) (coherent : Coherent c)
    (held : c.tasks i = some ⟨n, conn, id, phase⟩) (running : c.nodes n = some node)
    (ended : phase.proceed conn id (c.world node faults) =
      (.ok (some following), { c.world node faults with redis := m }))
    (written : ¬ Unsettled following)
    (others : ∀ other ≠ id, m.store.online other = c.redis.online other) :
    Coherent (c.advance i faults) ↔
      (Last c i id → (m.store.online id = true ↔ c.Mapped id)) := by
  rw [advance_runs c i n conn id node faults _ _ _ held running ended]
  refine (coherent_touch c _ id coherent others ?_ ?_).trans ?_
  · intro other _
    exact mapped_same c _ n node node running rfl other Iff.rfl
  · exact settled_others c _ i id _ rfl (owner_of_held c i n conn id phase held)
      (by rintro _ ⟨⟩; rfl)
  · rw [settled_iff_last c _ i id _ rfl (by rintro _ ⟨⟩; exact written), agrees_iff,
      mapped_same c _ n node node running rfl id Iff.rfl]
    rfl

/-- A last part, which changes neither the map nor a record, leaves every agreement. -/
theorem coherent_last (w : World) (coherent : Coherent c)
    (held : c.tasks i = some ⟨n, conn, id, phase⟩) (running : c.nodes n = some node)
    (ended : phase.proceed conn id (c.world node faults) = (.ok none, w))
    (written : ¬ Unsettled phase) (maps : w.node.userConnMap = node.userConnMap)
    (online : ∀ other, w.redis.store.online other = c.redis.online other) :
    Coherent (c.advance i faults) := by
  rw [advance_runs c i n conn id node faults _ _ _ held running ended]
  refine coherent_same c _ coherent online ?_ ?_
  · intro other
    refine mapped_same c _ n node w.node running rfl other ?_
    rw [Node.Connected, Node.Connected, maps]
  · refine settled_kept c _ i _ rfl (fun task held' => ?_)
    rw [held, Option.some.injEq] at held'
    subst held'
    exact written

end Parts

/-- A part of a call keeps the agreement if and only if it is careful. -/
theorem coherent_advance (c : Cluster) (i : Nat) (faults : Faults) (coherent : Coherent c) :
    Coherent (c.advance i faults) ↔ Careful c (.advance i faults) := by
  by_cases active : ∃ task node, c.tasks i = some task ∧ c.nodes task.node = some node
  · obtain ⟨⟨n, conn, id, phase⟩, node, held, running⟩ := active
    have careful_iff : Careful c (.advance i faults) ↔
        (Last c i id → Rightful c faults id phase) := by
      constructor
      · intro careful
        exact careful _ held (by simp only [running, Option.isSome_some])
      · intro rightful task held' _
        rw [held, Option.some.injEq] at held'
        subst held'
        exact rightful
    rw [careful_iff]
    cases phase with
    | admitted userQuery =>
      exact iff_of_true
        (coherent_admitted c i n conn id node faults userQuery coherent held running)
        (fun _ => trivial)
    | recorded userQuery =>
      obtain ⟨m, ended, written, others⟩ :=
        Phase.proceed_recorded conn id userQuery (c.world node faults)
      have stored : m.store.online id = (Announced (c.reach faults) id || c.redis.online id) :=
        written
      rw [coherent_written c i n conn id node faults _ _ m coherent held running ended
        not_false others, stored, Bool.or_eq_true]
      exact imp_congr_right fun _ => iff_comm
    | announced userQuery =>
      obtain ⟨changed, mysql, m, output, ended, maps, _, online⟩ :=
        Phase.proceed_announced conn id userQuery (c.world node faults)
      exact iff_of_true
        (coherent_last c i n conn id node faults _ _ coherent held running ended not_false maps
          online)
        (fun _ => trivial)
    | forgotten =>
      obtain ⟨m, ended, written, others⟩ := Phase.proceed_forgotten conn id (c.world node faults)
      have stored : m.store.online id = (!(c.reach faults).answers && c.redis.online id) := written
      rw [coherent_written c i n conn id node faults _ _ m coherent held running ended
        not_false others, stored, Bool.and_eq_true, Bool.not_eq_true']
      exact imp_congr_right fun _ => iff_comm
    | removed =>
      exact iff_of_true
        (coherent_last c i n conn id node faults _ _ coherent held running
          (Phase.proceed_removed conn id _) not_false rfl (fun _ => rfl))
        (fun _ => trivial)
  · have idle (task : Task) (held : c.tasks i = some task) : c.nodes task.node = none := by
      by_contra running
      obtain ⟨node, found⟩ := Option.ne_none_iff_exists'.mp running
      exact active ⟨task, node, held, found⟩
    rw [advance_idle c i faults idle]
    refine iff_of_true coherent ?_
    intro task held running
    rw [idle task held] at running
    exact absurd running Bool.false_ne_true

/-- A first part that only reads keeps every agreement. -/
theorem coherent_begin_same (c : Cluster) (i n : Nat) (conn : Conn) (node : Node) (faults : Faults)
    (part : Handler (Option (Int × Phase))) (outcome : Except Escape (Option (Int × Phase)))
    (w : World) (coherent : Coherent c) (free : c.tasks i = none)
    (running : c.nodes n = some node) (ended : part (c.world node faults) = (outcome, w))
    (sameNode : w.node = node) (sameRedis : w.redis.store = c.redis) :
    Coherent (c.begin i n conn faults part) := by
  rw [begin_free c i n conn node faults part free running,
    perform_runs c i n conn node faults part outcome w ended]
  refine coherent_same c _ coherent ?_ ?_ ?_
  · intro other
    exact congrArg (fun redis : Redis => redis.online other) sameRedis
  · intro other
    exact mapped_same c _ n node w.node running rfl other (by rw [sameNode])
  · exact settled_kept c _ i _ rfl (fun task held => by rw [free] at held; cases held)

/-- A first part that takes a user out of the map leaves the user unsettled. -/
theorem coherent_begin_forget (c : Cluster) (i n : Nat) (conn : Conn) (node : Node) (id : Int)
    (part : Handler (Option (Int × Phase))) (coherent : Coherent c) (free : c.tasks i = none)
    (running : c.nodes n = some node) (ended : part (c.world node {}) =
      (.ok (some (id, .forgotten)), { c.world node {} with node := node.forget id })) :
    Coherent (c.begin i n conn {} part) := by
  rw [begin_free c i n conn node {} part free running,
    perform_runs c i n conn node {} part _ _ ended]
  refine (coherent_touch c _ id coherent ?_ ?_ ?_).mpr ?_
  · exact fun _ _ => rfl
  · intro other distinct
    refine mapped_same c _ n node (node.forget id) running rfl other ?_
    rw [Node.connected_forget, and_iff_right distinct]
  · refine settled_others c _ i id _ rfl ?_ (by rintro _ ⟨⟩; rfl)
    intro task held
    rw [free] at held
    cases held
  · intro settled
    exact absurd settled (not_settled c _ i id _ rfl rfl trivial)

/-- A login that starts keeps it. -/
theorem coherent_login (c : Cluster) (i n : Nat) (conn : Conn) (js : Json) (faults : Faults)
    (coherent : Coherent c) : Coherent (c.begin i n conn faults (beginLogin conn js)) := by
  by_cases ready : c.tasks i = none ∧ (c.nodes n).isSome
  · obtain ⟨node, running⟩ := Option.isSome_iff_exists.mp ready.2
    obtain ⟨outcome, mysql, m, replies, ended, store, _⟩ :=
      beginLogin_runs conn js (c.world node faults)
    exact coherent_begin_same c i n conn node faults _ outcome _ coherent ready.1 running ended rfl
      store
  · rw [begin_idle c i n conn faults _ ready]
    exact coherent

/-- So does a logout that starts. -/
theorem coherent_loginOut (c : Cluster) (i n : Nat) (conn : Conn) (js : Json)
    (coherent : Coherent c) : Coherent (c.begin i n conn {} (beginLoginOut js)) := by
  by_cases ready : c.tasks i = none ∧ (c.nodes n).isSome
  · obtain ⟨node, running⟩ := Option.isSome_iff_exists.mp ready.2
    cases named : js.int "id" with
    | error exception =>
      have ended : beginLoginOut js (c.world node {}) =
          (.error (.json exception), c.world node {}) := by
        rw [beginLoginOut, named]
        rfl
      exact coherent_begin_same c i n conn node {} _ _ _ coherent ready.1 running ended rfl rfl
    | ok id =>
      refine coherent_begin_forget c i n conn node id _ coherent ready.1 running ?_
      rw [beginLoginOut, named]
      rfl
  · rw [begin_idle c i n conn {} _ ready]
    exact coherent

/-- The closed connection of user -1 changes the map only, which is right only if
the user is mapped elsewhere too. -/
theorem coherent_begin_default (c : Cluster) (i n : Nat) (hint : Int) (conn : Conn) (node : Node)
    (coherent : Coherent c) (free : c.tasks i = none) (running : c.nodes n = some node)
    (found : node.entryOf conn hint = some (-1))
    (ended : beginQuit hint conn (c.world node {}) =
      (.ok none, { c.world node {} with node := node.forget (-1) })) :
    Coherent (c.begin i n conn {} (beginQuit hint conn)) ↔
      (Settled c (-1) → c.Elsewhere n (-1)) := by
  have connected : c.Connected n (-1) :=
    ⟨node, running, (node.connected_iff (-1)).mpr
      ⟨conn, connOf_of_entryOf node conn hint (-1) found⟩⟩
  rw [begin_free c i n conn node {} _ free running,
    perform_runs c i n conn node {} _ _ _ ended]
  refine (coherent_touch c _ (-1) coherent ?_ ?_ ?_).trans ?_
  · exact fun _ _ => rfl
  · intro other distinct
    refine mapped_same c _ n node (node.forget (-1)) running rfl other ?_
    rw [Node.connected_forget, and_iff_right distinct]
  · refine settled_others c _ i (-1) _ rfl ?_ (by rintro _ ⟨⟩)
    intro task held
    rw [free] at held
    cases held
  have settled_iff : Settled c (-1) ↔ Last c i (-1) := by
    refine settled_iff_last c c i (-1) none ?_ (by rintro _ ⟨⟩)
    rw [← free, Function.update_eq_self]
  rw [settled_iff_last c _ i (-1) _ rfl (by rintro _ ⟨⟩), ← settled_iff]
  refine forall_congr' fun settled => ?_
  have before := (agrees_iff c (-1)).mp (coherent (-1) settled)
  rw [agrees_iff, mapped_iff _ n, elsewhere_update c _ n _ rfl, connected_update c _ n _ rfl,
    if_pos rfl]
  constructor
  · intro agrees
    rcases agrees.mp (before.mpr ⟨n, connected⟩) with ⟨changed, replaced, still⟩ | elsewhere
    · cases replaced
      exact absurd rfl ((Node.connected_forget node (-1) (-1)).mp still).1
    · exact elsewhere
  · intro elsewhere
    exact iff_of_true (before.mpr ⟨n, connected⟩) (Or.inr elsewhere)

/-- A closed connection keeps it if and only if it is careful. -/
theorem coherent_disconnect (c : Cluster) (i n : Nat) (hint : Int) (conn : Conn)
    (coherent : Coherent c) : Coherent (c.begin i n conn {} (beginQuit hint conn)) ↔
      Careful c (.disconnect i n hint conn) := by
  by_cases ready : c.tasks i = none ∧ (c.nodes n).isSome
  · obtain ⟨free, isRunning⟩ := ready
    obtain ⟨node, running⟩ := Option.isSome_iff_exists.mp isRunning
    have careful_iff : Careful c (.disconnect i n hint conn) ↔
        (node.entryOf conn hint = some (-1) → Settled c (-1) → c.Elsewhere n (-1)) := by
      constructor
      · exact fun careful => careful node free running
      · intro elsewhere other _ running'
        rw [running, Option.some.injEq] at running'
        exact running' ▸ elsewhere
    have ended := beginQuit_runs hint conn (c.world node {})
    have own : (c.world node {}).node = node := rfl
    rw [own] at ended
    rw [careful_iff]
    cases found : node.entryOf conn hint with
    | none =>
      rw [found] at ended
      refine iff_of_true ?_ (by simp)
      exact coherent_begin_same c i n conn node {} _ _ _ coherent free running ended rfl rfl
    | some id =>
      rw [found] at ended
      by_cases default : id = -1
      · subst default
        refine (coherent_begin_default c i n hint conn node coherent free running found ended).trans
          ?_
        exact ⟨fun elsewhere _ => elsewhere, fun elsewhere => elsewhere rfl⟩
      · refine iff_of_true ?_ (fun same => absurd (Option.some.inj same) default)
        refine coherent_begin_forget c i n conn node id _ coherent free running ?_
        simp only [ne_eq, default, not_false_eq_true, if_true] at ended
        exact ended
  · rw [begin_idle c i n conn {} _ ready]
    refine iff_of_true coherent ?_
    intro node free running
    exact absurd ⟨free, by rw [running]; rfl⟩ ready

/-- A crash settles the users whose pending handlers were all on the node, and
leaves the connections elsewhere. -/
theorem coherent_crash (c : Cluster) (n : Nat) :
    Coherent (c.crash n) ↔ Careful c (.crash n) := by
  refine forall_congr' fun id => ?_
  have settled_iff : Settled (c.crash n) id ↔ ∀ i task, c.tasks i = some task → task.id = id →
      Unsettled task.phase → task.node = n := by
    have pending_iff (i : Nat) : Pending (c.crash n) i id ↔
        ∃ task, c.tasks i = some task ∧ task.node ≠ n ∧ task.id = id ∧ Unsettled task.phase := by
      refine exists_congr fun task => ?_
      change (c.tasks i).filter _ = some task ∧ _ ↔ _
      rw [Option.filter_eq_some_iff, and_assoc, decide_eq_true_eq]
    unfold Settled
    refine forall_congr' fun i => ?_
    rw [pending_iff]
    constructor
    · intro none task held owner unsettled
      by_contra elsewhere
      exact none ⟨task, held, elsewhere, owner, unsettled⟩
    · rintro all ⟨task, held, elsewhere, owner, unsettled⟩
      exact elsewhere (all task held owner unsettled)
  rw [settled_iff, agrees_iff, mapped_iff _ n, elsewhere_update c _ n _ rfl,
    connected_update c _ n _ rfl, if_pos rfl]
  refine forall_congr' fun _ => iff_congr Iff.rfl (or_iff_right ?_)
  rintro ⟨node, stopped, _⟩
  cases stopped

/-- A node starts without connections, and `reset` does not reach Redis. -/
theorem coherent_restart (c : Cluster) (n : Nat) (localNodeId : String) (faults : Faults)
    (coherent : Coherent c) : Coherent (c.restart n localNodeId faults) := by
  unfold restart
  cases stopped : c.nodes n with
  | some node => exact coherent
  | none =>
    refine coherent_same c _ coherent ?_ ?_ ?_
    · exact fun _ => rfl
    · intro other
      rw [mapped_iff _ n, mapped_iff c n, elsewhere_update c _ n _ rfl,
        connected_update c _ n _ rfl, if_pos rfl]
      refine or_congr_left (iff_of_false ?_ ?_)
      · rintro ⟨node, started, connected⟩
        cases started
        exact AList.notMem_empty other connected
      · rintro ⟨node, running, _⟩
        rw [stopped] at running
        cases running
    · exact fun _ settled => settled

/-- Time keeps it if and only if it is careful. -/
theorem coherent_pass (c : Cluster) (duration : Nat) (coherent : Coherent c) :
    Coherent (c.pass duration) ↔ Careful c (.pass duration) := by
  refine forall_congr' fun id => ?_
  change (Settled c id → _) ↔ (Settled c id → _)
  refine forall_congr' fun settled => ?_
  have before := (agrees_iff c id).mp (coherent id settled)
  rw [agrees_iff]
  change ((c.redis.advance duration).online id = true ↔ c.Mapped id) ↔ _
  rw [Redis.online_advance, Bool.and_eq_true, Bool.not_eq_true', before, and_iff_right_iff_imp]

/-- A step keeps the agreement exactly when it is careful. -/
theorem coherent_step_iff (c : Cluster) (event : Event) (coherent : Coherent c) :
    Coherent (c.step event) ↔ Careful c event := by
  cases event with
  | login i n conn js faults =>
    exact iff_of_true (coherent_login c i n conn js faults coherent) trivial
  | loginOut i n conn js => exact iff_of_true (coherent_loginOut c i n conn js coherent) trivial
  | disconnect i n hint conn => exact coherent_disconnect c i n hint conn coherent
  | advance i faults => exact coherent_advance c i faults coherent
  | crash n => exact coherent_crash c n
  | restart n localNodeId faults =>
    exact iff_of_true (coherent_restart c n localNodeId faults coherent) trivial
  | pass duration => exact coherent_pass c duration coherent

/-- In every run the settled users agree at every moment exactly when every step is
careful. -/
theorem coherent_iff_careful (c : Cluster) (events : List Event) (coherent : Coherent c) :
    Runs.Always step Coherent c events ↔ Runs.Guarded step Careful c events :=
  Runs.always_iff_guarded step Coherent (fun _ => True) Careful (fun _ _ _ => trivial)
    (fun c event _ coherent => coherent_step_iff c event coherent) c events trivial coherent

/-- An empty cluster agrees with a Redis that has nobody online. -/
theorem coherent_start (database : Database) (redis : Redis)
    (absent : ∀ id, redis.online id = false) : Coherent (start database redis) := by
  intro id _
  rw [agrees_iff]
  refine iff_of_false ?_ ?_
  · rw [start, absent id]
    exact Bool.false_ne_true
  · rintro ⟨n, node, running, _⟩
    cases running

/-- In every careful run, from no running node and no presence record, whenever no
handler is in progress every presence record agrees with the maps. -/
theorem presence_agrees (database : Database) (redis : Redis) (events : List Event)
    (absent : ∀ id, redis.online id = false)
    (careful : Runs.Guarded step Careful (start database redis) events) :
    Runs.Always step (fun c => c.Quiescent → ∀ id, Agrees c id) (start database redis) events := by
  have coherent := (coherent_iff_careful (start database redis) events
    (coherent_start database redis absent)).mpr careful
  refine Runs.always_mono step Coherent _ ?_ _ _ coherent
  intro c agrees quiescent id
  refine agrees id ?_
  rintro i ⟨task, held, _⟩
  rw [quiescent i] at held
  cases held

/-- The presence write of the attempt takes effect while the user is connected. -/
theorem careful_attempt : Runs.Guarded step Careful (start account Redis.empty) attempt := by
  refine ⟨trivial, trivial, ?_, ?_, ?_, trivial⟩
  · intro task held _ _
    cases Option.some.inj held
    trivial
  · intro task held _ _
    cases Option.some.inj held
    exact iff_of_true ⟨0, _, rfl, by decide⟩ (Or.inl (by decide))
  · intro task held _ _
    cases Option.some.inj held
    trivial

/-- A login with a wrong password. -/
theorem presence_agrees_attempt : (∀ id, Redis.empty.online id = false) ∧
    Runs.Guarded step Careful (start account Redis.empty) attempt ∧
    Runs.Always step (fun c => c.Quiescent → ∀ id, Agrees c id) (start account Redis.empty)
      attempt :=
  ⟨fun _ => rfl, careful_attempt,
    presence_agrees account Redis.empty attempt (fun _ => rfl) careful_attempt⟩

/-- Two minutes after a login the record is gone and the user is still connected. -/
theorem record_expires_under_session : ¬ ∀ database events,
    Runs.Always step (fun c => c.Quiescent → ∀ id, Agrees c id) (start database Redis.empty)
      events := by
  intro agrees
  have final := Runs.always_end step _ _ _ (agrees account (attempt ++ [.pass 120000]))
  have quiescent :
      (Runs.run step (start account Redis.empty) (attempt ++ [.pass 120000])).Quiescent := by
    intro i
    cases i <;> rfl
  have agreed := (agrees_iff _ _).mp (final quiescent 1)
  have mapped :
      (Runs.run step (start account Redis.empty) (attempt ++ [.pass 120000])).Mapped 1 := by
    refine ⟨0, _, rfl, ?_⟩
    decide
  exact absurd (agreed.mpr mapped) (by decide)

end ClusterChat.Presence
