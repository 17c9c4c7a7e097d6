import ClusterChat.Library.Program
import ClusterChat.Json
import Mathlib.Data.List.AList

/-!
# Redis and the operations of `RedisClient`

Redis is a map from keys to entries, a clock and the sequence of published
messages. An entry whose deadline has passed is gone. A command on a key touches
the entry of that key only, and the keys are the prefixes of the source with a
decimal id, so two constructors or two ids never name the same key.

Every operation of `RedisClient` has one shape: acquire a connection or return a
default, run the commands inside a `try` block, release the connection on every
path. An exception leaves the commands already executed in effect.

`RedisAccess` answers the commands for a request among others: a script says
which acquisitions fail and which commands throw without effect. With both
scripts empty Redis is reliable.

A published text is the dump of a request and is parsed back by the subscriber,
so a channel carries the JSON value itself.
-/

namespace ClusterChat

/-- The keys the server uses. -/
inductive Key where
  | user (id : Int)
  | offline (id : Int)
  | friends (id : Int)
  | userInfo (id : Int)
  | groupMembers (id : Int)
deriving DecidableEq

/-- The channels the server uses. -/
inductive Channel where
  | nodeInbox (node : String)
  | group (id : Int)
deriving DecidableEq

/-- The fields of a hash with their values. -/
abbrev Hash := AList (fun _ : String => String)

/-- What is stored under one key, with the time at which it expires. No key of
the server is used with two types of value. -/
structure Entry where
  hash : Hash := ∅
  list : List String := []
  string : Option String := none
  set : List String := []
  deadline : Option Nat := none

/-- The key does not exist. -/
def Entry.vacant (entry : Entry) : Bool :=
  entry.hash.entries.isEmpty && entry.list.isEmpty && entry.string.isNone && entry.set.isEmpty

/-- A key that has lost its last field does not exist and has no deadline. -/
def Entry.settle (entry : Entry) : Entry :=
  if entry.vacant then {} else entry

/-- Settling an entry changes no field. -/
theorem settle_lookup (entry : Entry) (field : String) :
    entry.settle.hash.lookup field = entry.hash.lookup field := by
  unfold Entry.settle
  split
  · rename_i vacant
    have none : entry.hash.entries = [] := by
      simp only [Entry.vacant, Bool.and_eq_true, List.isEmpty_iff] at vacant
      exact vacant.1.1.1
    have empty : entry.hash = ∅ := AList.ext none
    rw [empty]
  · rfl

/-- `std::exception` out of a Redis command. Its text is only logged. -/
inductive RedisException where
  | raised
deriving DecidableEq

/-- The commands on one key. -/
inductive KeyCommand where
  | hset (field value : String)
  | hget (field : String)
  | hdel (field : String)
  | expire (ttl : Nat)
  | lpush (value : String)
  | lrange
  | del
  | set (value : String) (ttl : Option Nat)
  | get
  | sadd (member : String)
  | sismember (member : String)

/-- What Redis replies to a command. -/
@[reducible] def KeyCommand.Reply : KeyCommand → Type
  | .hget _ | .get => Option String
  | .lrange => List String
  | .sismember _ => Bool
  | _ => Unit

/-- One command on the entry of its key, at a time in milliseconds. `LPUSH` puts
the new element in front and `LRANGE` 0 -1 lists front to back. -/
def KeyCommand.execute (now : Nat) : (command : KeyCommand) → Entry → command.Reply × Entry
  | .hset field value, entry => ((), { entry with hash := entry.hash.insert field value })
  | .hget field, entry => (entry.hash.lookup field, entry)
  | .hdel field, entry => ((), Entry.settle { entry with hash := entry.hash.erase field })
  | .expire ttl, entry =>
      ((), if entry.vacant then entry else { entry with deadline := some (now + ttl) })
  | .lpush value, entry => ((), { entry with list := value :: entry.list })
  | .lrange, entry => (entry.list, entry)
  | .del, _ => ((), {})
  | .set value ttl, _ => ((), { string := some value, deadline := ttl.map (now + ·) })
  | .get, entry => (entry.string, entry)
  | .sadd member, entry =>
      ((), if member ∈ entry.set then entry else { entry with set := member :: entry.set })
  | .sismember member, entry => (member ∈ entry.set, entry)

/-- The entries, the clock and the messages published so far. -/
structure Redis where
  entries : Key → Entry
  now : Nat
  published : List (Channel × Json)

namespace Redis

/-- A Redis without entries and messages. -/
def empty : Redis := ⟨fun _ => {}, 0, []⟩

/-- A command changes the entry of its key alone. -/
def execute (redis : Redis) (key : Key) (command : KeyCommand) : command.Reply × Redis :=
  let (reply, entry) := command.execute redis.now (redis.entries key)
  (reply, { redis with entries := fun other => if other = key then entry else redis.entries other })

/-- An entry whose deadline has come is removed. -/
def expired (now : Nat) (entry : Entry) : Bool :=
  entry.deadline.any (fun deadline => deadline ≤ now)

/-- Time passes: every entry whose deadline is reached disappears. -/
def advance (redis : Redis) (duration : Nat) : Redis :=
  let now := redis.now + duration
  { redis with
    now
    entries := fun key => if expired now (redis.entries key) then {} else redis.entries key }

/-- The presence record of the user says `online`. -/
def online (redis : Redis) (id : Int) : Bool :=
  (redis.entries (.user id)).hash.lookup "online" = some "1"

/-- The list of messages waiting under the offline key of the user, newest first. -/
def waiting (redis : Redis) (id : Int) : List String := (redis.entries (.offline id)).list

end Redis

/-- The calls an operation of `RedisClient` makes on the pool and on Redis. -/
inductive RedisCommand where
  | acquire
  | release (conn : Nat)
  | onKey (key : Key) (command : KeyCommand)
  | publish (channel : Channel) (msg : Json)

/-- `acquire` returns `nullptr` or a connection; every Redis command may throw. -/
@[reducible] def RedisReply : RedisCommand → Type
  | .acquire => Option Nat
  | .release _ => Unit
  | .onKey _ command => Except RedisException command.Reply
  | .publish _ _ => Except RedisException Unit

/-- A sequence of commands that depend on the replies before. -/
abbrev RedisProgram := Program RedisCommand RedisReply

/-- The commands inside a `try` block. -/
abbrev RedisCommands := ExceptT RedisException RedisProgram

namespace RedisClient

/-- One command, which may throw. -/
def onKey (key : Key) (command : KeyCommand) : RedisCommands command.Reply :=
  ExceptT.mk (Program.issue (RedisCommand.onKey key command))

/-- The shape of every operation. The connection is released on every path, and
an exception makes the operation return the second default. -/
def withConn {α : Type} (refused caught : α) (commands : RedisCommands α) : RedisProgram α := do
  match ← (Program.issue RedisCommand.acquire : RedisProgram _) with
  | none => return refused
  | some conn =>
      let outcome ← commands.run
      (Program.issue (RedisCommand.release conn) : RedisProgram _)
      match outcome with
      | .error _ => return caught
      | .ok value => return value

/-- Two minutes, in milliseconds. -/
def presenceTtl : Nat := 120 * 1000

/-- The presence record of a login, which expires. -/
def setUserOnline (localNodeId : String) (userId : Int) (connId : String) : RedisProgram Unit :=
  withConn () () do
    onKey (.user userId) (.hset "online" "1")
    onKey (.user userId) (.hset "node" localNodeId)
    onKey (.user userId) (.hset "conn" connId)
    onKey (.user userId) (.expire presenceTtl)

/-- The record is read by its field `online`. -/
def isUserOnline (userId : Int) : RedisProgram Bool :=
  withConn false false do
    let val ← onKey (.user userId) (.hget "online")
    return val = some "1"

/-- The node of the record. -/
def getUserNode (userId : Int) : RedisProgram String :=
  withConn "" "" do
    let val ← onKey (.user userId) (.hget "node")
    return val.getD ""

/-- The three fields are removed one by one. -/
def setUserOffline (userId : Int) : RedisProgram Unit :=
  withConn () () do
    onKey (.user userId) (.hdel "online")
    onKey (.user userId) (.hdel "conn")
    onKey (.user userId) (.hdel "node")

/-- A message is added to the user's list. -/
def pushOfflineMessage (userId : Int) (msg : Json) : RedisProgram Unit :=
  withConn () () (onKey (.offline userId) (.lpush msg.dump))

/-- The list is read before it is deleted, and an exception of the deletion does
not take it back. -/
def popOfflineMessages (userId : Int) : RedisProgram (List String) :=
  withConn [] [] do
    let messages ← onKey (.offline userId) .lrange
    let _ ← ExceptT.lift (onKey (.offline userId) .del).run
    return messages

/-- One field of a hash. -/
def hset (key : Key) (field value : String) : RedisProgram Unit :=
  withConn () () (onKey key (.hset field value))

/-- A value, which expires if it is given a time. -/
def set (key : Key) (value : String) (ttl : Nat) : RedisProgram Unit :=
  withConn () () (onKey key (.set value (if 0 < ttl then some ttl else none)))

/-- A value, if there is one. -/
def get (key : Key) : RedisProgram (Option String) :=
  withConn none none (onKey key .get)

/-- The time a key has left. -/
def expire (key : Key) (ttl : Nat) : RedisProgram Unit :=
  withConn () () (onKey key (.expire ttl))

/-- A member of a set. -/
def sadd (key : Key) (member : String) : RedisProgram Unit :=
  withConn () () (onKey key (.sadd member))

/-- A message on the channel of a group. -/
def publishGroupMessage (groupId : Int) (msg : Json) : RedisProgram Unit :=
  withConn () () (ExceptT.mk (Program.issue (RedisCommand.publish (.group groupId) msg)))

end RedisClient

/-- Redis reached by one request among others. `grants` says what each `acquire`
finds, `throws` whether each command raises an exception. Both scripts end in
undisturbed success. -/
structure RedisAccess where
  store : Redis
  grants : List (Option Nat)
  throws : List Bool

namespace RedisAccess

/-- Take the next entry of a script; an exhausted script says nothing happens. -/
def attempt {α : Type} (m : RedisAccess) (reply : α) (next : Redis) :
    Except RedisException α × RedisAccess :=
  match m.throws with
  | true :: throws => (.error .raised, { m with throws })
  | _ => (.ok reply, { m with store := next, throws := m.throws.tail })

/-- How Redis answers a command under the scripts. -/
def answer : (command : RedisCommand) → RedisAccess → RedisReply command × RedisAccess
  | .acquire, m =>
      match m.grants with
      | [] => (some 0, m)
      | grant :: grants => (grant, { m with grants })
  | .release _, m => ((), m)
  | .onKey key command, m =>
      let (reply, next) := m.store.execute key command
      m.attempt reply next
  | .publish channel msg, m =>
      m.attempt () { m.store with published := m.store.published ++ [(channel, msg)] }

/-- A whole operation under the scripts. -/
def run {α : Type} (m : RedisAccess) (program : RedisProgram α) : α × RedisAccess :=
  program.run answer m

/-- Every acquisition finds a connection and no command throws. -/
def reliable (store : Redis) : RedisAccess := ⟨store, [], []⟩

/-- Nothing is left in the scripts. -/
def Reliable (m : RedisAccess) : Prop := m.grants = [] ∧ m.throws = []

/-- Without scripts nothing goes wrong. -/
theorem reliable_iff (m : RedisAccess) : m.Reliable ↔ m = reliable m.store := by
  obtain ⟨store, grants, throws⟩ := m
  simp [Reliable, reliable]

/-- An operation takes a connection, gives it back, and hides an exception. -/
theorem run_withConn {α : Type} (m : RedisAccess) (refused caught : α)
    (commands : RedisCommands α) : m.run (RedisClient.withConn refused caught commands) =
      match answer .acquire m with
      | (none, next) => (refused, next)
      | (some _, next) =>
          match commands.run.run answer next with
          | (.ok value, left) => (value, left)
          | (.error _, left) => (caught, left) := by
  rw [run, RedisClient.withConn, Program.run_bind]
  change (match (answer .acquire m).1 with | none => _ | some conn => _ : RedisProgram α).run
    answer (answer .acquire m).2 = _
  cases got : answer .acquire m with
  | mk grant next =>
    cases grant with
    | none => rfl
    | some conn =>
      simp only [Program.run_bind]
      cases ended : commands.run.run answer next with
      | mk outcome left => cases outcome <;> rfl

/-- The next operation gets a connection and its first command takes effect. -/
def answers (m : RedisAccess) : Bool := m.grants.head? ≠ some none ∧ m.throws.head? ≠ some true

/-- A Redis without scripts answers. -/
theorem answers_of_reliable (m : RedisAccess) (reliable : m.Reliable) : m.answers = true := by
  rw [answers, reliable.1, reliable.2]
  rfl

/-- Programs use up scripts and never refill them. -/
theorem run_reliable {α : Type} (m : RedisAccess) (program : RedisProgram α)
    (reliable : m.Reliable) : (m.run program).2.Reliable := by
  refine Program.run_preserves answer Reliable ?_ program m reliable
  rintro command ⟨store, grants, throws⟩ ⟨noGrants, noThrows⟩
  simp only at noGrants noThrows
  subst noGrants noThrows
  cases command <;> exact ⟨rfl, rfl⟩

end RedisAccess

/-!
## What the operations write

A program writes only the keys of a set when every command it can issue, whatever
the replies, is a read or a command on a key of that set.
-/

/-- The commands that change nothing. -/
def KeyCommand.Reads : KeyCommand → Prop
  | .hget _ | .lrange | .get | .sismember _ => True
  | _ => False

/-- An operation issues what its commands issue, beside taking a connection and giving
it back. -/
theorem issues_withConn {α : Type} (allowed : RedisCommand → Prop) (acquires : allowed .acquire)
    (releases : ∀ conn, allowed (.release conn)) (refused caught : α) (commands : RedisCommands α)
    (issues : Program.Issues allowed commands.run) :
    Program.Issues allowed (RedisClient.withConn refused caught commands) := by
  refine Program.issues_bind _ _ _ (Program.issues_issue _ _ acquires) ?_
  intro grant
  cases grant with
  | none => exact trivial
  | some conn =>
    refine Program.issues_bind _ _ _ issues ?_
    intro outcome
    refine Program.issues_bind _ _ _ (Program.issues_issue _ _ (releases conn)) ?_
    intro _
    cases outcome <;> exact trivial

/-- The command can only change the entry of a key in the set. -/
def RedisCommand.WritesOnly (keys : Key → Prop) : RedisCommand → Prop
  | .onKey key command => command.Reads ∨ keys key
  | .publish _ _ => False
  | .acquire | .release _ => True

/-- The program publishes nothing and writes only keys of the set. -/
abbrev WritesOnly {α : Type} (keys : Key → Prop) (program : RedisProgram α) : Prop :=
  Program.Issues (RedisCommand.WritesOnly keys) program

/-- Taking a connection and giving it back writes nothing. -/
theorem writesOnly_withConn {α : Type} (keys : Key → Prop) (refused caught : α)
    (commands : RedisCommands α) (writes : WritesOnly keys commands.run) :
    WritesOnly keys (RedisClient.withConn refused caught commands) :=
  issues_withConn _ trivial (fun _ => trivial) refused caught commands writes

/-- A command writes its own key at most. -/
theorem writesOnly_onKey (keys : Key → Prop) (key : Key) (command : KeyCommand)
    (permitted : command.Reads ∨ keys key) :
    WritesOnly keys (RedisClient.onKey key command).run :=
  Program.issues_issue _ _ permitted

/-- Entries outside the set are as before, and so are the clock and the published
messages. -/
theorem RedisAccess.run_writesOnly {α : Type} (keys : Key → Prop) (program : RedisProgram α)
    (writes : WritesOnly keys program) (m : RedisAccess) :
    (∀ key, ¬ keys key → (m.run program).2.store.entries key = m.store.entries key) ∧
      (m.run program).2.store.now = m.store.now ∧
      (m.run program).2.store.published = m.store.published := by
  have kept := Program.issues_keeps RedisAccess.answer (RedisCommand.WritesOnly keys)
    (fun m => (fun key : { key // ¬ keys key } => m.store.entries key.1, m.store.now,
      m.store.published)) ?_ program writes m
  · simp only [Prod.mk.injEq] at kept
    exact ⟨fun key outside => congrFun kept.1 ⟨key, outside⟩, kept.2.1, kept.2.2⟩
  · rintro command ⟨store, grants, throws⟩ permitted
    cases command with
    | acquire => cases grants <;> rfl
    | release conn => rfl
    | publish channel msg => exact permitted.elim
    | onKey key command =>
      have elsewhere : ∀ other, ¬ keys other →
          (store.execute key command).2.entries other = store.entries other := by
        intro other outside
        simp only [Redis.execute]
        split
        · rename_i same
          subst same
          rcases permitted with reads | inside
          · cases command <;> first | rfl | exact reads.elim
          · exact absurd inside outside
        · rfl
      have attempted : ∀ (reply : command.Reply), (RedisAccess.attempt ⟨store, grants, throws⟩ reply
          (store.execute key command).2).2.store = store ∨ (RedisAccess.attempt
          ⟨store, grants, throws⟩ reply (store.execute key command).2).2.store =
          (store.execute key command).2 := by
        intro reply
        unfold RedisAccess.attempt
        split <;> simp
      simp only [RedisAccess.answer, Prod.mk.injEq]
      rcases attempted (store.execute key command).1 with same | moved
      · simp [same]
      · rw [moved]
        exact ⟨funext fun other => elsewhere other.1 other.2, rfl, rfl⟩

namespace RedisAccess

/-- Nothing outside the set of keys has changed, no time has passed, nothing was
published, and the scripts were not refilled. -/
structure Kept (keys : Key → Prop) (before after : RedisAccess) : Prop where
  entries : ∀ key, ¬ keys key → after.store.entries key = before.store.entries key
  now : after.store.now = before.store.now
  published : after.store.published = before.store.published
  reliable : before.Reliable → after.Reliable

/-- An operation that writes only some keys keeps the others. -/
theorem kept_run {α : Type} (keys : Key → Prop) (program : RedisProgram α)
    (writes : WritesOnly keys program) (m : RedisAccess) : Kept keys m (m.run program).2 :=
  have same := run_writesOnly keys program writes m
  ⟨same.1, same.2.1, same.2.2, run_reliable m program⟩

/-- What is left alone is kept. -/
theorem kept_refl (keys : Key → Prop) (m : RedisAccess) : Kept keys m m :=
  ⟨fun _ _ => rfl, rfl, rfl, id⟩

variable {keys wider : Key → Prop} {first second third : RedisAccess}

/-- What is kept outside fewer keys is kept outside more. -/
theorem Kept.mono (kept : Kept keys first second) (within : ∀ key, keys key → wider key) :
    Kept wider first second :=
  ⟨fun key outside => kept.entries key (fun inside => outside (within key inside)), kept.now,
    kept.published, kept.reliable⟩

/-- Where no key may change, the whole store is as before. -/
theorem Kept.store (kept : Kept (fun _ => False) first second) : second.store = first.store := by
  obtain ⟨⟨entries, now, published⟩, _, _⟩ := first
  obtain ⟨⟨entries', now', published'⟩, _, _⟩ := second
  have sameEntries : entries' = entries := funext fun key => kept.entries key id
  have sameNow : now' = now := kept.now
  have samePublished : published' = published := kept.published
  rw [sameEntries, sameNow, samePublished]

/-- What is kept twice is kept. -/
theorem Kept.trans (start : Kept keys first second) (rest : Kept keys second third) :
    Kept keys first third :=
  ⟨fun key outside => (rest.entries key outside).trans (start.entries key outside),
    rest.now.trans start.now, rest.published.trans start.published,
    fun reliable => rest.reliable (start.reliable reliable)⟩

end RedisAccess

namespace RedisClient

/-- Reading the presence writes nothing. -/
theorem isUserOnline_writes (userId : Int) :
    WritesOnly (fun _ => False) (isUserOnline userId) :=
  writesOnly_withConn _ _ _ _ (Program.issues_try_bind _ _ _
    (writesOnly_onKey _ _ _ (Or.inl trivial)) (fun _ => trivial))

/-- Nor does reading the node. -/
theorem getUserNode_writes (userId : Int) :
    WritesOnly (fun _ => False) (getUserNode userId) :=
  writesOnly_withConn _ _ _ _ (Program.issues_try_bind _ _ _
    (writesOnly_onKey _ _ _ (Or.inl trivial)) (fun _ => trivial))

/-- Nor does reading a value. -/
theorem get_writes (key : Key) : WritesOnly (fun _ => False) (get key) :=
  writesOnly_withConn _ _ _ _ (writesOnly_onKey _ _ _ (Or.inl trivial))

/-- A value is written under its key alone. -/
theorem set_writes (key : Key) (value : String) (ttl : Nat) :
    WritesOnly (· = key) (set key value ttl) :=
  writesOnly_withConn _ _ _ _ (writesOnly_onKey _ _ _ (Or.inr rfl))

/-- So is a field. -/
theorem hset_writes (key : Key) (field value : String) :
    WritesOnly (· = key) (hset key field value) :=
  writesOnly_withConn _ _ _ _ (writesOnly_onKey _ _ _ (Or.inr rfl))

/-- So is a time. -/
theorem expire_writes (key : Key) (ttl : Nat) : WritesOnly (· = key) (expire key ttl) :=
  writesOnly_withConn _ _ _ _ (writesOnly_onKey _ _ _ (Or.inr rfl))

/-- So is a member. -/
theorem sadd_writes (key : Key) (member : String) : WritesOnly (· = key) (sadd key member) :=
  writesOnly_withConn _ _ _ _ (writesOnly_onKey _ _ _ (Or.inr rfl))

/-- A message is added to its user's list alone. -/
theorem pushOfflineMessage_writes (userId : Int) (msg : Json) :
    WritesOnly (· = .offline userId) (pushOfflineMessage userId msg) :=
  writesOnly_withConn _ _ _ _ (writesOnly_onKey _ _ _ (Or.inr rfl))

/-- Messages are taken from their user's list alone. -/
theorem popOfflineMessages_writes (userId : Int) :
    WritesOnly (· = .offline userId) (popOfflineMessages userId) := by
  refine writesOnly_withConn _ _ _ _ (Program.issues_try_bind _ _ _
    (writesOnly_onKey _ _ _ (Or.inl trivial)) ?_)
  intro messages
  refine Program.issues_try_bind _ _ _ ?_ (fun _ => trivial)
  exact Program.issues_bind _ _ _ (writesOnly_onKey _ _ _ (Or.inr rfl)) (fun _ => trivial)

/-- A presence is written for its user alone. -/
theorem setUserOnline_writes (localNodeId : String) (userId : Int) (connId : String) :
    WritesOnly (· = .user userId) (setUserOnline localNodeId userId connId) := by
  have own (command : KeyCommand) : WritesOnly (· = .user userId)
      (onKey (.user userId) command).run := writesOnly_onKey _ _ _ (Or.inr rfl)
  exact writesOnly_withConn _ _ _ _ (Program.issues_try_bind _ _ _ (own _) fun _ =>
    Program.issues_try_bind _ _ _ (own _) fun _ =>
    Program.issues_try_bind _ _ _ (own _) fun _ => own _)

/-- It is removed for its user alone. -/
theorem setUserOffline_writes (userId : Int) :
    WritesOnly (· = .user userId) (setUserOffline userId) := by
  have own (command : KeyCommand) : WritesOnly (· = .user userId)
      (onKey (.user userId) command).run := writesOnly_onKey _ _ _ (Or.inr rfl)
  exact writesOnly_withConn _ _ _ _ (Program.issues_try_bind _ _ _ (own _) fun _ =>
    Program.issues_try_bind _ _ _ (own _) fun _ => own _)

end RedisClient

/-!
## Presence

The `online` field is written by the first command of `setUserOnline` and of
`setUserOffline`. What becomes of the later commands does not matter to it.
-/

/-- The command does not write an `online` field or remove a key. -/
def RedisCommand.SparesPresence : RedisCommand → Prop
  | .onKey _ (.hset field _) | .onKey _ (.hdel field) => field ≠ "online"
  | .onKey _ (.expire _) => True
  | .onKey _ _ | .publish _ _ => False
  | .acquire | .release _ => True

/-- A command changes the presence of the user whose record it is given. -/
theorem Redis.online_execute (store : Redis) (key : Key) (command : KeyCommand) (id : Int) :
    (store.execute key command).2.online id =
      decide ((if key = .user id then (command.execute store.now (store.entries (.user id))).2.hash
        else (store.entries (.user id)).hash).lookup "online" = some "1") := by
  by_cases own : key = .user id
  · subst own
    simp [Redis.online, Redis.execute]
  · simp [Redis.online, Redis.execute, own, Ne.symm own]

/-- Time removes the records whose deadline it reaches. -/
theorem Redis.online_advance (redis : Redis) (duration : Nat) (id : Int) :
    (redis.advance duration).online id =
      (!Redis.expired (redis.now + duration) (redis.entries (.user id)) && redis.online id) := by
  by_cases reached : Redis.expired (redis.now + duration) (redis.entries (.user id)) = true
  · simp [Redis.advance, Redis.online, reached]
  · simp [Redis.advance, Redis.online, reached]

/-- A command that spares the record leaves its field. -/
theorem lookup_spared (key : Key) (command : KeyCommand) (now : Nat) (entry : Entry)
    (spares : (RedisCommand.onKey key command).SparesPresence) :
    (command.execute now entry).2.hash.lookup "online" = entry.hash.lookup "online" := by
  cases command with
  | hset field value =>
    simp only [KeyCommand.execute]
    exact AList.lookup_insert_ne (Ne.symm spares)
  | hdel field =>
    simp only [KeyCommand.execute, settle_lookup]
    exact AList.lookup_erase_ne (Ne.symm spares)
  | expire ttl =>
    simp only [KeyCommand.execute]
    split <;> rfl
  | hget field => exact spares.elim
  | lpush value => exact spares.elim
  | lrange => exact spares.elim
  | del => exact spares.elim
  | set value ttl => exact spares.elim
  | get => exact spares.elim
  | sadd member => exact spares.elim
  | sismember member => exact spares.elim

/-- So does an operation whose commands do. -/
theorem online_spared {α : Type} (id : Int) (program : RedisProgram α)
    (spares : Program.Issues RedisCommand.SparesPresence program) (m : RedisAccess) :
    (program.run RedisAccess.answer m).2.store.online id = m.store.online id := by
  refine Program.issues_keeps RedisAccess.answer RedisCommand.SparesPresence
    (fun m => m.store.online id) ?_ program spares m
  rintro command ⟨store, grants, throws⟩ spares
  cases command with
  | acquire => cases grants <;> rfl
  | release conn => rfl
  | publish channel msg => exact spares.elim
  | onKey key command =>
    have field := lookup_spared key command store.now (store.entries (.user id)) spares
    have same : (store.execute key command).2.online id = store.online id := by
      rw [Redis.online_execute]
      split
      · simp only [field, Redis.online]
      · rfl
    simp only [RedisAccess.answer, RedisAccess.attempt]
    split
    · rfl
    · exact same

/-- Where only the first command of an operation concerns the `online` field, the
field afterwards is what that command makes of it, if it takes effect. -/
theorem online_first {α : Type} (id : Int) (refused caught : α) (command : KeyCommand)
    (rest : command.Reply → RedisCommands α)
    (spares : ∀ reply, Program.Issues RedisCommand.SparesPresence (rest reply).run)
    (m : RedisAccess) :
    (m.run (RedisClient.withConn refused caught
        (RedisClient.onKey (.user id) command >>= rest))).2.store.online id =
      if m.answers then (m.store.execute (.user id) command).2.online id
      else m.store.online id := by
  obtain ⟨store, grants, throws⟩ := m
  have block (left : List (Option Nat)) :
      ((RedisClient.onKey (.user id) command >>= rest).run.run RedisAccess.answer
        ⟨store, left, throws⟩).2.store.online id =
        if throws.head? ≠ some true then (store.execute (.user id) command).2.online id
        else store.online id := by
    rw [Program.run_try_bind]
    rcases throws with _ | ⟨_ | _, more⟩
    · exact online_spared id _ (spares _) _
    · exact online_spared id _ (spares _) _
    · rfl
  have finished (left : List (Option Nat)) :
      (match (RedisClient.onKey (.user id) command >>= rest).run.run RedisAccess.answer
          ⟨store, left, throws⟩ with
        | (.ok value, next) => (value, next)
        | (.error _, next) => (caught, next)).2.store.online id =
        if throws.head? ≠ some true then (store.execute (.user id) command).2.online id
        else store.online id := by
    rw [← block left]
    cases (RedisClient.onKey (.user id) command >>= rest).run.run RedisAccess.answer
      ⟨store, left, throws⟩ with
    | mk outcome next => cases outcome <;> rfl
  rw [RedisAccess.run_withConn]
  rcases grants with _ | ⟨_ | conn, more⟩
  · exact (finished []).trans (by simp [RedisAccess.answers])
  · rfl
  · exact (finished more).trans (by simp [RedisAccess.answers])

namespace RedisClient

/-- Presence is written exactly when the first command of the operation takes
effect. -/
theorem setUserOnline_online (localNodeId : String) (userId : Int) (connId : String)
    (m : RedisAccess) : (m.run (setUserOnline localNodeId userId connId)).2.store.online userId =
      (m.answers || m.store.online userId) := by
  rw [setUserOnline, online_first]
  · have written :
        (m.store.execute (.user userId) (.hset "online" "1")).2.online userId = true := by
      rw [Redis.online_execute, if_pos rfl]
      simp only [KeyCommand.execute, AList.lookup_insert, decide_true]
    rw [written]
    cases m.answers <;> rfl
  · intro _
    have node : "node" ≠ "online" := by decide
    have conn : "conn" ≠ "online" := by decide
    refine Program.issues_try_bind _ _ _ (Program.issues_issue _ _ node) fun _ => ?_
    refine Program.issues_try_bind _ _ _ (Program.issues_issue _ _ conn) fun _ => ?_
    exact Program.issues_issue _ _ trivial

/-- A user is offline afterwards, if Redis answers. -/
theorem setUserOffline_online (userId : Int) (m : RedisAccess) :
    (m.run (setUserOffline userId)).2.store.online userId =
      (!m.answers && m.store.online userId) := by
  rw [setUserOffline, online_first]
  · have removed : (m.store.execute (.user userId) (.hdel "online")).2.online userId = false := by
      rw [Redis.online_execute, if_pos rfl]
      simp [KeyCommand.execute, settle_lookup]
    rw [removed]
    cases m.answers <;> rfl
  · intro _
    have conn : "conn" ≠ "online" := by decide
    have node : "node" ≠ "online" := by decide
    refine Program.issues_try_bind _ _ _ (Program.issues_issue _ _ conn) fun _ => ?_
    exact Program.issues_issue _ _ node

/-- An operation that makes one attempt takes effect, and returns what was attempted,
exactly when it is answered. -/
theorem attempt_runs {α : Type} (missed value : α) (commands : RedisCommands α) (next : Redis)
    (m : RedisAccess) (once : ∀ left : RedisAccess, left.store = m.store →
      commands.run.run RedisAccess.answer left = left.attempt value next) :
    (m.run (withConn missed missed commands)).1 = (if m.answers then value else missed) ∧
      (m.run (withConn missed missed commands)).2.store = if m.answers then next else m.store := by
  obtain ⟨store, grants, throws⟩ := m
  rw [RedisAccess.run_withConn]
  rcases grants with _ | ⟨_ | conn, grants⟩
  · simp only [RedisAccess.answer]
    rw [once ⟨store, [], throws⟩ rfl]
    rcases throws with _ | ⟨_ | _, throws⟩ <;> exact ⟨rfl, rfl⟩
  · exact ⟨rfl, rfl⟩
  · simp only [RedisAccess.answer]
    rw [once ⟨store, grants, throws⟩ rfl]
    rcases throws with _ | ⟨_ | _, throws⟩ <;> exact ⟨rfl, rfl⟩

/-- An operation of one command takes effect exactly when it is answered. -/
theorem single_runs (key : Key) (command : KeyCommand) (missed : command.Reply)
    (m : RedisAccess) :
    (m.run (withConn missed missed (onKey key command))).1 =
        (if m.answers then (m.store.execute key command).1 else missed) ∧
      (m.run (withConn missed missed (onKey key command))).2.store =
        if m.answers then (m.store.execute key command).2 else m.store := by
  apply attempt_runs
  intro left same
  rw [← same]
  rfl

/-- A message is published, if Redis answers. -/
theorem publishGroupMessage_attempt (groupId : Int) (msg : Json) (m : RedisAccess) :
    (m.run (publishGroupMessage groupId msg)).2.store = if m.answers then
      { m.store with published := m.store.published ++ [(.group groupId, msg)] } else m.store := by
  refine (attempt_runs () () _ _ m ?_).2
  intro left same
  rw [← same]
  rfl

/-- A message is published exactly when the operation takes effect. -/
theorem publishGroupMessage_runs (groupId : Int) (msg : Json) (m : RedisAccess) :
    (m.run (publishGroupMessage groupId msg)).2.store.published =
      if m.answers then m.store.published ++ [(.group groupId, msg)] else m.store.published := by
  rw [publishGroupMessage_attempt]
  split <;> rfl

/-- A publication writes no key. -/
theorem publishGroupMessage_entries (groupId : Int) (msg : Json) (m : RedisAccess) :
    (m.run (publishGroupMessage groupId msg)).2.store.entries = m.store.entries := by
  rw [publishGroupMessage_attempt]
  split <;> rfl

open RedisAccess

/-- A reliable read of presence tells the record and changes nothing. -/
theorem isUserOnline_reliable (store : Redis) (userId : Int) :
    (reliable store).run (isUserOnline userId) = (store.online userId, reliable store) := by
  have read := kept_run _ _ (isUserOnline_writes userId) (reliable store)
  have still := (reliable_iff _).mp (read.reliable ⟨rfl, rfl⟩)
  rw [read.store] at still
  exact Prod.ext rfl still

/-- A pop returns what is waiting and leaves nothing. -/
theorem popOfflineMessages_reliable (store : Redis) (userId : Int) :
    (reliable store).run (popOfflineMessages userId) =
      (store.waiting userId, reliable ((store.execute (.offline userId) .lrange).2.execute
        (.offline userId) .del).2) := rfl

/-- A list that was read and removed is empty. -/
theorem waiting_popped (store : Redis) (userId : Int) :
    ((store.execute (.offline userId) .lrange).2.execute (.offline userId) .del).2.waiting userId =
      [] := by
  simp [Redis.waiting, Redis.execute, KeyCommand.execute]

end RedisClient

end ClusterChat
