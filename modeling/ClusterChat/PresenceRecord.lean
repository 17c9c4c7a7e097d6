import ClusterChat.Library.Runs
import ClusterChat.Redis

/-!
# Whole presence records

A presence record is written by four commands and removed by three, one after another,
with one `catch` around them. The first command that throws leaves what the earlier ones
have done. `Whole` asks that a record has all its fields and a time at which it expires,
or none of the fields.

`whole_iff_steady` states for every sequence of calls, each with failures of its own and
with time in between, that all records are whole after each call exactly as long as every
call that meets an absent record writes all of it or nothing, and every call that meets a
complete record removes all of it or nothing. A complete record can be written again in
part without harm, since its fields and its deadline are kept.

A record that was written without its deadline stays, and its user is online for good.
What a login makes of such a record is the presence read, which is modelled elsewhere.
-/

namespace ClusterChat.PresenceRecord

/-!
## Records
-/

/-- All three fields, and a time at which they disappear. -/
structure Complete (entry : Entry) : Prop where
  online : (entry.hash.lookup "online").isSome = true
  node : (entry.hash.lookup "node").isSome = true
  conn : (entry.hash.lookup "conn").isSome = true
  timed : entry.deadline.isSome = true

/-- None of the three fields. -/
structure Absent (entry : Entry) : Prop where
  online : entry.hash.lookup "online" = none
  node : entry.hash.lookup "node" = none
  conn : entry.hash.lookup "conn" = none

/-- An entry with all its fields, or none. -/
def Whole (entry : Entry) : Prop := Complete entry ∨ Absent entry

/-- Every presence record is whole. -/
def AllOrNothing (store : Redis) : Prop := ∀ id, Whole (store.entries (.user id))

/-- Nobody is online for good: without further calls the record disappears in time. -/
def Mortal (store : Redis) : Prop :=
  ∀ id, ∃ duration, (store.advance duration).online id = false

/-- A call of one of the two operations with its failures, or time. -/
inductive Event where
  | setUserOnline (localNodeId : String) (userId : Int) (connId : String)
      (grants : List (Option Nat)) (throws : List Bool)
  | setUserOffline (userId : Int) (grants : List (Option Nat)) (throws : List Bool)
  | pass (duration : Nat)

/-- Redis after the event. -/
def step (store : Redis) : Event → Redis
  | .setUserOnline localNodeId userId connId grants throws =>
      ((⟨store, grants, throws⟩ : RedisAccess).run
        (RedisClient.setUserOnline localNodeId userId connId)).2.store
  | .setUserOffline userId grants throws =>
      ((⟨store, grants, throws⟩ : RedisAccess).run (RedisClient.setUserOffline userId)).2.store
  | .pass duration => store.advance duration

/-- How many commands of a block take effect: the first that throws ends it. -/
def taken : Nat → List Bool → Nat
  | 0, _ => 0
  | _ + 1, true :: _ => 0
  | count + 1, [] => count + 1
  | count + 1, false :: throws => taken count throws + 1

/-- A call that gets a connection and would break a whole record takes effect as a whole
or not at all. An absent record that has a deadline of its own does without the last
command. -/
def Steady (store : Redis) : Event → Prop
  | .setUserOnline _ userId _ grants throws => grants.head? ≠ some none →
      Complete (store.entries (.user userId)) ∨ taken 4 throws = 0 ∨ taken 4 throws = 4 ∨
        (taken 4 throws = 3 ∧ (store.entries (.user userId)).deadline.isSome = true)
  | .setUserOffline userId grants throws => grants.head? ≠ some none →
      Absent (store.entries (.user userId)) ∨ taken 3 throws = 0 ∨ taken 3 throws = 3
  | .pass _ => True

/-!
## Blocks of commands
-/

/-- No more commands are executed than there are. -/
theorem taken_le (count : Nat) (throws : List Bool) : taken count throws ≤ count := by
  induction count generalizing throws with
  | zero => exact Nat.le_refl 0
  | succ count inductionHypothesis =>
    rcases throws with _ | ⟨_ | _, rest⟩
    · exact Nat.le_refl _
    · exact Nat.succ_le_succ (inductionHypothesis rest)
    · exact Nat.zero_le _

/-- The store after commands on one key. -/
def executed (store : Redis) (key : Key) (commands : List KeyCommand) : Redis :=
  commands.foldl (fun store command => (store.execute key command).2) store

/-- The entry after commands on it. -/
def changed (now : Nat) (commands : List KeyCommand) (entry : Entry) : Entry :=
  commands.foldl (fun entry command => (command.execute now entry).2) entry

/-- Commands on a key change its entry one after another, and no other entry. -/
theorem executed_entries (store : Redis) (key other : Key) (commands : List KeyCommand) :
    (executed store key commands).entries other =
      if other = key then changed store.now commands (store.entries key)
      else store.entries other := by
  induction commands generalizing store with
  | nil =>
    split
    · rename_i own
      rw [own]
      rfl
    · rfl
  | cons command rest inductionHypothesis =>
    refine (inductionHypothesis (store.execute key command).2).trans ?_
    split
    · rw [Redis.execute]
      simp only [if_true]
      rfl
    · rename_i different
      exact if_neg different

/-- The commands that write a record, in order. -/
def presented (localNodeId connId : String) : List KeyCommand :=
  [.hset "online" "1", .hset "node" localNodeId, .hset "conn" connId,
    .expire RedisClient.presenceTtl]

/-- The commands that remove one, in order. -/
def withdrawn : List KeyCommand := [.hdel "online", .hdel "conn", .hdel "node"]

/-- `setUserOnline` executes a prefix of its commands, if it has a connection. -/
theorem setUserOnline_runs (localNodeId : String) (userId : Int) (connId : String)
    (m : RedisAccess) : (m.run (RedisClient.setUserOnline localNodeId userId connId)).2.store =
      if m.grants.head? = some none then m.store
      else executed m.store (.user userId)
        ((presented localNodeId connId).take (taken 4 m.throws)) := by
  obtain ⟨store, grants, throws⟩ := m
  rcases grants with _ | ⟨_ | conn, grants⟩
  · rcases throws with _ | ⟨_ | _, _ | ⟨_ | _, _ | ⟨_ | _, _ | ⟨_ | _, rest⟩⟩⟩⟩ <;> rfl
  · rfl
  · rcases throws with _ | ⟨_ | _, _ | ⟨_ | _, _ | ⟨_ | _, _ | ⟨_ | _, rest⟩⟩⟩⟩ <;> rfl

/-- So does `setUserOffline`, of its own. -/
theorem setUserOffline_runs (userId : Int) (m : RedisAccess) :
    (m.run (RedisClient.setUserOffline userId)).2.store =
      if m.grants.head? = some none then m.store
      else executed m.store (.user userId) (withdrawn.take (taken 3 m.throws)) := by
  obtain ⟨store, grants, throws⟩ := m
  rcases grants with _ | ⟨_ | conn, grants⟩
  · rcases throws with _ | ⟨_ | _, _ | ⟨_ | _, _ | ⟨_ | _, rest⟩⟩⟩ <;> rfl
  · rfl
  · rcases throws with _ | ⟨_ | _, _ | ⟨_ | _, _ | ⟨_ | _, rest⟩⟩⟩ <;> rfl

/-!
## Prefixes of the two blocks
-/

/-- A hash with a field is there. -/
theorem vacant_of_field (entry : Entry) (field value : String)
    (present : entry.hash.lookup field = some value) : entry.vacant = false := by
  rw [Bool.eq_false_iff]
  intro vacant
  simp only [Entry.vacant, Bool.and_eq_true, List.isEmpty_iff] at vacant
  have empty : entry.hash = ∅ := AList.ext vacant.1.1.1
  rw [empty] at present
  cases present

/-- An entry with all its fields is not one with none. -/
theorem complete_absent (entry : Entry) (complete : Complete entry) : ¬ Absent entry := by
  intro absent
  have there := complete.online
  rw [absent.online] at there
  cases there

/-- What was there is there after it may have been overwritten. -/
theorem isSome_overwritten {α : Type} (written : Prop) [Decidable written] (value : α)
    (before : Option α) (there : before.isSome = true) :
    (if written then some value else before).isSome = true := by
  split
  · rfl
  · exact there

/-- What was missing is missing after it may have been erased. -/
theorem none_erased {α : Type} (erased : Prop) [Decidable erased] (before : Option α)
    (missing : before = none) : (if erased then none else before) = none := by
  split
  · rfl
  · exact missing

/-- The fields and the deadline after the first commands of a presence write. -/
structure Presented (now count : Nat) (localNodeId connId : String) (before after : Entry) :
    Prop where
  online : after.hash.lookup "online" =
    if 1 ≤ count then some "1" else before.hash.lookup "online"
  node : after.hash.lookup "node" =
    if 2 ≤ count then some localNodeId else before.hash.lookup "node"
  conn : after.hash.lookup "conn" = if 3 ≤ count then some connId else before.hash.lookup "conn"
  deadline : after.deadline =
    if 4 ≤ count then some (now + RedisClient.presenceTtl) else before.deadline

/-- What a prefix of the commands of `setUserOnline` leaves of an entry. -/
theorem changed_presented (now count : Nat) (localNodeId connId : String) (entry : Entry)
    (bound : count ≤ 4) : Presented now count localNodeId connId entry
      (changed now ((presented localNodeId connId).take count) entry) := by
  have counted : count = 0 ∨ count = 1 ∨ count = 2 ∨ count = 3 ∨ count = 4 := by omega
  rcases counted with rfl | rfl | rfl | rfl | rfl
  · exact ⟨rfl, rfl, rfl, rfl⟩
  · constructor <;> simp [changed, presented, KeyCommand.execute]
  · constructor <;> simp [changed, presented, KeyCommand.execute]
  · constructor <;> simp [changed, presented, KeyCommand.execute]
  · have written : ((changed now ((presented localNodeId connId).take 3) entry).hash.lookup
        "conn") = some connId := by simp [changed, presented, KeyCommand.execute]
    have there := vacant_of_field _ "conn" connId written
    have last : changed now ((presented localNodeId connId).take 4) entry =
        ((KeyCommand.expire RedisClient.presenceTtl).execute now
          (changed now ((presented localNodeId connId).take 3) entry)).2 := rfl
    rw [last]
    simp only [KeyCommand.execute, there]
    constructor <;> simp [changed, presented, KeyCommand.execute]

/-- The first commands of a presence write keep a complete record complete, and make a
whole record of an absent one when they are none, all, or all but a deadline that is set. -/
theorem whole_presented (now count : Nat) (localNodeId connId : String) (entry after : Entry)
    (bound : count ≤ 4) (written : Presented now count localNodeId connId entry after)
    (whole : Whole entry) : Whole after ↔ Complete entry ∨ count = 0 ∨ count = 4 ∨
      (count = 3 ∧ entry.deadline.isSome = true) := by
  obtain ⟨online, node, conn, deadline⟩ := written
  rcases whole with complete | absent
  · refine iff_of_true (Or.inl ⟨?_, ?_, ?_, ?_⟩) (Or.inl complete)
    · rw [online]
      exact isSome_overwritten _ _ _ complete.online
    · rw [node]
      exact isSome_overwritten _ _ _ complete.node
    · rw [conn]
      exact isSome_overwritten _ _ _ complete.conn
    · rw [deadline]
      exact isSome_overwritten _ _ _ complete.timed
  · rw [or_iff_right fun complete => complete_absent entry complete absent]
    constructor
    · rintro (complete | none)
      · have inserted := complete.conn
        have timed := complete.timed
        rw [conn] at inserted
        rw [deadline] at timed
        by_cases last : 3 ≤ count
        · by_cases full : 4 ≤ count
          · omega
          · rw [if_neg full] at timed
            exact Or.inr (Or.inr ⟨by omega, timed⟩)
        · rw [if_neg last, absent.conn] at inserted
          cases inserted
      · have missing := none.online
        rw [online] at missing
        by_cases first : 1 ≤ count
        · rw [if_pos first] at missing
          cases missing
        · omega
    · rintro (nothing | full | ⟨all, timed⟩)
      · subst nothing
        exact Or.inr ⟨online.trans absent.online, node.trans absent.node, conn.trans absent.conn⟩
      · subst full
        refine Or.inl ⟨?_, ?_, ?_, ?_⟩
        · rw [online]
          rfl
        · rw [node]
          rfl
        · rw [conn]
          rfl
        · rw [deadline]
          rfl
      · subst all
        refine Or.inl ⟨?_, ?_, ?_, ?_⟩
        · rw [online]
          rfl
        · rw [node]
          rfl
        · rw [conn]
          rfl
        · rw [deadline]
          exact timed

/-- The fields after the first commands of a removal. -/
structure Withdrawn (count : Nat) (before after : Entry) : Prop where
  online : after.hash.lookup "online" = if 1 ≤ count then none else before.hash.lookup "online"
  conn : after.hash.lookup "conn" = if 2 ≤ count then none else before.hash.lookup "conn"
  node : after.hash.lookup "node" = if 3 ≤ count then none else before.hash.lookup "node"

/-- What a prefix of those of `setUserOffline` leaves. -/
theorem changed_withdrawn (now count : Nat) (entry : Entry) (bound : count ≤ 3) :
    Withdrawn count entry (changed now (withdrawn.take count) entry) := by
  have counted : count = 0 ∨ count = 1 ∨ count = 2 ∨ count = 3 := by omega
  rcases counted with rfl | rfl | rfl | rfl
  · exact ⟨rfl, rfl, rfl⟩
  · constructor <;> simp [changed, withdrawn, KeyCommand.execute, settle_lookup]
  · constructor <;> simp [changed, withdrawn, KeyCommand.execute, settle_lookup]
  · constructor <;> simp [changed, withdrawn, KeyCommand.execute, settle_lookup]

/-- The first commands of a removal leave an absent record absent, and make a whole record
of a complete one when they are none or all. -/
theorem whole_withdrawn (count : Nat) (entry after : Entry) (bound : count ≤ 3)
    (unchanged : count = 0 → after = entry) (removed : Withdrawn count entry after)
    (whole : Whole entry) :
    Whole after ↔ Absent entry ∨ count = 0 ∨ count = 3 := by
  obtain ⟨online, conn, node⟩ := removed
  rcases whole with complete | absent
  · rw [or_iff_right (complete_absent entry complete)]
    constructor
    · rintro (still | none)
      · have there := still.online
        rw [online] at there
        by_cases first : 1 ≤ count
        · rw [if_pos first] at there
          cases there
        · omega
      · have missing := none.node
        rw [node] at missing
        by_cases last : 3 ≤ count
        · omega
        · have there := complete.node
          rw [if_neg last] at missing
          rw [missing] at there
          cases there
    · rintro (nothing | all)
      · rw [unchanged nothing]
        exact Or.inl complete
      · subst all
        exact Or.inr ⟨online, node, conn⟩
  · refine iff_of_true (Or.inr ⟨?_, ?_, ?_⟩) (Or.inl absent)
    · rw [online]
      exact none_erased _ _ absent.online
    · rw [node]
      exact none_erased _ _ absent.node
    · rw [conn]
      exact none_erased _ _ absent.conn

/-!
## Calls
-/

/-- Where one record may change, all are whole afterwards exactly when that one is. -/
theorem allOrNothing_iff (store after : Redis) (userId : Int) (start : AllOrNothing store)
    (others : ∀ id, id ≠ userId → after.entries (.user id) = store.entries (.user id)) :
    AllOrNothing after ↔ Whole (after.entries (.user userId)) := by
  constructor
  · exact fun all => all userId
  · intro own id
    by_cases same : id = userId
    · rw [same]
      exact own
    · rw [others id same]
      exact start id

/-- The commands leave the records of other users alone. -/
theorem executed_others (store : Redis) (userId : Int) (commands : List KeyCommand) :
    ∀ id, id ≠ userId → (executed store (.user userId) commands).entries (.user id) =
      store.entries (.user id) := by
  intro id other
  rw [executed_entries, if_neg fun same => other (Key.user.inj same)]

/-- They change the user's record one by one. -/
theorem executed_own (store : Redis) (userId : Int) (commands : List KeyCommand) :
    (executed store (.user userId) commands).entries (.user userId) =
      changed store.now commands (store.entries (.user userId)) := by
  rw [executed_entries, if_pos rfl]

/-- Time removes records as a whole. -/
theorem allOrNothing_advance (store : Redis) (duration : Nat) (start : AllOrNothing store) :
    AllOrNothing (store.advance duration) := by
  intro id
  simp only [Redis.advance]
  split
  · exact Or.inr ⟨rfl, rfl, rfl⟩
  · exact start id

/-- A call keeps all records whole exactly when it is steady. -/
theorem allOrNothing_step_iff (store : Redis) (event : Event) (start : AllOrNothing store) :
    AllOrNothing (step store event) ↔ Steady store event := by
  cases event with
  | setUserOnline localNodeId userId connId grants throws =>
    rw [step, setUserOnline_runs, Steady]
    by_cases refused : grants.head? = some none
    · rw [if_pos refused]
      exact iff_of_true start fun granted => absurd refused granted
    · rw [if_neg refused, allOrNothing_iff store _ userId start (executed_others store userId _),
        executed_own]
      have bound := taken_le 4 throws
      have written := changed_presented store.now (taken 4 throws) localNodeId connId
        (store.entries (.user userId)) bound
      rw [whole_presented store.now (taken 4 throws) localNodeId connId _ _ bound written
        (start userId)]
      exact ⟨fun held _ => held, fun held => held refused⟩
  | setUserOffline userId grants throws =>
    rw [step, setUserOffline_runs, Steady]
    by_cases refused : grants.head? = some none
    · rw [if_pos refused]
      exact iff_of_true start fun granted => absurd refused granted
    · rw [if_neg refused, allOrNothing_iff store _ userId start (executed_others store userId _),
        executed_own]
      have bound := taken_le 3 throws
      have removed := changed_withdrawn store.now (taken 3 throws)
        (store.entries (.user userId)) bound
      have unchanged : taken 3 throws = 0 → changed store.now (withdrawn.take (taken 3 throws))
          (store.entries (.user userId)) = store.entries (.user userId) := by
        intro nothing
        rw [nothing]
        rfl
      rw [whole_withdrawn (taken 3 throws) _ _ bound unchanged removed (start userId)]
      exact ⟨fun held _ => held, fun held => held refused⟩
  | pass duration => exact iff_of_true (allOrNothing_advance store duration start) trivial

/-- A whole record does not keep its user online for good. -/
theorem mortal_of_allOrNothing (store : Redis) (all : AllOrNothing store) : Mortal store := by
  intro id
  rcases all id with complete | absent
  · obtain ⟨deadline, timed⟩ := Option.isSome_iff_exists.mp complete.timed
    refine ⟨deadline, ?_⟩
    have reached : Redis.expired (store.now + deadline) (store.entries (.user id)) = true := by
      simp [Redis.expired, timed]
    rw [Redis.online_advance, reached]
    rfl
  · refine ⟨0, ?_⟩
    have offline : store.online id = false := by simp [Redis.online, absent.online]
    rw [Redis.online_advance, offline, Bool.and_false]

/-- From whole records, all records are whole and nobody is online for good after each
call, in exactly the runs whose calls are all steady. -/
theorem whole_iff_steady (store : Redis) (start : AllOrNothing store) (events : List Event) :
    Runs.Always step (fun store => AllOrNothing store ∧ Mortal store) store events ↔
      Runs.Guarded step Steady store events := by
  refine Runs.always_iff_guarded step _ (fun _ => True) Steady (fun _ _ _ => trivial) ?_ store
    events trivial ⟨start, mortal_of_allOrNothing store start⟩
  intro store event _ whole
  rw [and_iff_left_of_imp (mortal_of_allOrNothing (step store event))]
  exact allOrNothing_step_iff store event whole.1

/-- User 1 comes online, and the last command of the call throws. -/
def untimed : List Event := [.setUserOnline "node-1" 1 "c" [] [false, false, false, true]]

/-- An empty Redis has no records. -/
theorem allOrNothing_empty : AllOrNothing Redis.empty := fun _ => Or.inr ⟨rfl, rfl, rfl⟩

/-- A run whose `EXPIRE` fails. -/
theorem whole_iff_steady_untimed :
    Runs.Always step (fun store => AllOrNothing store ∧ Mortal store) Redis.empty untimed ↔
      Runs.Guarded step Steady Redis.empty untimed :=
  whole_iff_steady Redis.empty allOrNothing_empty untimed

/-- The record has its fields and no deadline, and the user stays online. -/
theorem whole_broken_untimed : AllOrNothing Redis.empty ∧
    ¬ AllOrNothing (Runs.run step Redis.empty untimed) ∧
    ∀ duration, ((Runs.run step Redis.empty untimed).advance duration).online 1 = true := by
  refine ⟨allOrNothing_empty, ?_, ?_⟩
  · intro all
    rcases all 1 with complete | absent
    · exact absurd complete.timed (by decide)
    · exact absurd absent.online (by decide)
  · intro duration
    have online : (Runs.run step Redis.empty untimed).online 1 = true := by decide
    have noDeadline : ((Runs.run step Redis.empty untimed).entries (.user 1)).deadline = none := by
      decide
    rw [Redis.online_advance, online, Redis.expired, noDeadline]
    rfl

end ClusterChat.PresenceRecord
