import ClusterChat.GroupDelivery
import ClusterChat.NodeRuns

/-!
# Private messages between nodes

Nodes share one database and one Redis and serve requests, closed connections and
published messages in any order. Every send is recorded with the request it goes
back to: the handler's own sends, and those of a callback that takes a message the
handler published. Subscriber threads may move at any time, so the runs here include
those of the real threads.

A user on one node writes to a friend on another, both with live presence, and the
message is acknowledged. `never_delivered` says that in no such run, however it goes
on, the message is sent on the friend's connection. `oneChat` looks for the
recipient in the node's own connections and otherwise writes the message to the
table of offline messages; it publishes nothing, and no login reads that table.

What a request leaves in the database is not tracked here.
-/

namespace ClusterChat.PrivateChat

open ChatService
open GroupDelivery.State (receives)

/-- A send, with the request it goes back to and the node that made it. -/
structure Sent where
  origin : Nat
  node : Nat
  output : Output

/-- The nodes, what they share, the messages queued for each node with the request
that published them, the number of requests so far, and the sends. -/
structure State where
  nodes : Nat → Node
  database : Database
  redis : Redis
  inbox : Nat → List (Nat × Json)
  served : Nat
  sends : List Sent

/-- All nodes have just started. -/
def begin (names : Nat → String) (database : Database) (redis : Redis) : State :=
  ⟨fun n => Node.fresh (names n), database, redis, fun _ => [], 0, []⟩

namespace State

/-- A node as a handler meets it, with the faults of the call. -/
def world (s : State) (n : Nat) (faults : Faults) : World :=
  ⟨s.nodes n, ⟨s.database, faults.grants, faults.throws⟩,
    ⟨s.redis, faults.redisGrants, faults.redisThrows⟩, []⟩

/-- The state after a node has worked on a request. What it published is queued for
the nodes that receive it. -/
def absorb (s : State) (n origin : Nat) (w : World) : State :=
  { s with
    nodes := Function.update s.nodes n w.node
    database := w.mysql.database
    redis := w.redis.store
    inbox := fun m => s.inbox m ++
      ((w.redis.store.published.drop s.redis.published.length).filter (fun message =>
        receives (Function.update s.nodes n w.node m) message.1)).map (fun message =>
          (origin, message.2))
    sends := s.sends ++ w.sent.map (fun output => ⟨origin, n, output⟩) }

/-- A node serves a request of its own number. -/
def serve (s : State) (n : Nat) (w : World) : State :=
  { s.absorb n s.served w with served := s.served + 1 }

/-- The subscriber thread takes the first queued message and runs the callback. -/
def take (s : State) (n : Nat) (faults : Faults) : State :=
  match s.inbox n with
  | [] => s
  | (origin, js) :: rest =>
      { s with inbox := Function.update s.inbox n rest }.absorb n origin
        (inboxCallback js (s.world n faults)).2

end State

/-- A request received by a node, a closed connection, a published message taken by
a node, a move of a subscriber thread, and time. -/
inductive Event where
  | request (n : Nat) (request : Request) (conn : Conn) (js : Json) (faults : Faults)
  | disconnect (n : Nat) (hint : Int) (conn : Conn) (faults : Faults)
  | take (n : Nat) (faults : Faults)
  | listen (n : Nat) (subscriber : Subscriber)
  | pass (duration : Nat)

/-- The cluster after the event. -/
def step (s : State) : Event → State
  | .request n request conn js faults => s.serve n (request.handler conn js (s.world n faults)).2
  | .disconnect n hint conn faults => s.serve n (clientQuitEcption hint conn (s.world n faults)).2
  | .take n faults => s.take n faults
  | .listen n subscriber =>
      { s with nodes := Function.update s.nodes n { s.nodes n with subscriber } }
  | .pass duration => { s with redis := s.redis.advance duration }

/-- User `a` is connected on node `n` and writes to the friend `b`, who is connected
on another node. Both are present, and the message is acknowledged. -/
structure Crosses (s : State) (a b : Int) (n m : Nat) (conn there : Conn) (js : Json)
    (faults : Faults) : Prop where
  apart : n ≠ m
  sender : (s.nodes n).connOf a = some conn
  recipient : (s.nodes m).connOf b = some there
  senderPresent : s.redis.online a = true
  recipientPresent : s.redis.online b = true
  friends : ⟨a, b⟩ ∈ s.database.friend ∨ ⟨b, a⟩ ∈ s.database.friend
  addressed : Addressed js a b
  acknowledged : ∃ output ∈ (oneChat conn js (s.world n faults)).2.sent,
    output.conn = conn ∧ output.errno = some 0

/-- The sends a request has led to on a connection of a node. -/
def deliveries (s : State) (origin m : Nat) (conn : Conn) : Nat :=
  s.sends.countP (fun sent => sent.origin = origin ∧ sent.node = m ∧ sent.output.conn = conn)

/-- Everything published has been taken. -/
def Consumed (s : State) : Prop := ∀ m, s.inbox m = []

/-!
## Where sends come from
-/

/-- Working on a request adds sends of that request on that node, and messages of
that request. -/
theorem absorb_origins (s : State) (n origin : Nat) (w : World) :
    (∀ sent ∈ (s.absorb n origin w).sends,
      sent ∈ s.sends ∨ (sent.origin = origin ∧ sent.node = n)) ∧
    ∀ m, ∀ entry ∈ (s.absorb n origin w).inbox m, entry ∈ s.inbox m ∨ entry.1 = origin := by
  constructor
  · intro sent member
    rcases List.mem_append.mp member with old | new
    · exact Or.inl old
    · obtain ⟨output, _, rfl⟩ := List.mem_map.mp new
      exact Or.inr ⟨rfl, rfl⟩
  · intro m entry member
    rcases List.mem_append.mp member with old | new
    · exact Or.inl old
    · obtain ⟨message, _, rfl⟩ := List.mem_map.mp new
      exact Or.inr rfl

/-- A request that publishes nothing leaves the queues. -/
theorem inbox_serve (s : State) (n m : Nat) (w : World)
    (unpublished : w.redis.store.published = s.redis.published) :
    (s.serve n w).inbox m = s.inbox m := by
  change s.inbox m ++ ((w.redis.store.published.drop s.redis.published.length).filter _).map _ = _
  rw [unpublished, List.drop_length]
  exact List.append_nil _

/-- A private message puts nothing in any node's inbox. -/
theorem inbox_oneChat (s : State) (n m : Nat) (conn : Conn) (js : Json) (faults : Faults) :
    (step s (.request n .oneChat conn js faults)).inbox m = s.inbox m := by
  have kept := congrArg (fun redis => redis.store.published)
    (sameRedis_oneChat conn js (s.world n faults))
  exact inbox_serve s n m _ kept

/-- Nor does a login. -/
theorem inbox_login (s : State) (n m : Nat) (conn : Conn) (js : Json) (faults : Faults) :
    (step s (.request n .login conn js faults)).inbox m = s.inbox m := by
  have kept := samePublished_login conn js (s.world n faults)
  exact inbox_serve s n m _ kept

/-- Sends and queued messages go back to requests served before. -/
structure Dated (s : State) : Prop where
  sends : ∀ sent ∈ s.sends, sent.origin < s.served
  inbox : ∀ m, ∀ entry ∈ s.inbox m, entry.1 < s.served

/-- Serving a request dates its sends. -/
theorem dated_serve (s : State) (n : Nat) (w : World) (dated : Dated s) : Dated (s.serve n w) := by
  obtain ⟨sends, inbox⟩ := absorb_origins s n s.served w
  constructor
  · intro sent member
    change sent.origin < s.served + 1
    rcases sends sent member with old | ⟨own, _⟩
    · have earlier := dated.sends sent old
      omega
    · omega
  · intro m entry member
    change entry.1 < s.served + 1
    rcases inbox m entry member with old | own
    · have earlier := dated.inbox m entry old
      omega
    · omega

/-- The message a node takes was queued, and the rest stays queued. -/
theorem take_cases (s : State) (n : Nat) (faults : Faults) :
    s.take n faults = s ∨ ∃ origin js rest, s.inbox n = (origin, js) :: rest ∧
      s.take n faults = { s with inbox := Function.update s.inbox n rest }.absorb n origin
        (inboxCallback js (s.world n faults)).2 := by
  unfold State.take
  cases queue : s.inbox n with
  | nil => exact Or.inl rfl
  | cons entry rest =>
    obtain ⟨origin, js⟩ := entry
    exact Or.inr ⟨origin, js, rest, rfl, rfl⟩

/-- What is left of an inbox was in it. -/
theorem mem_of_rest (s : State) (n : Nat) (first : Nat × Json) (rest : List (Nat × Json))
    (queue : s.inbox n = first :: rest) (m : Nat) (entry : Nat × Json)
    (member : entry ∈ Function.update s.inbox n rest m) : entry ∈ s.inbox m := by
  by_cases same : m = n
  · subst same
    rw [Function.update_self] at member
    rw [queue]
    exact List.mem_cons_of_mem _ member
  · rwa [Function.update_of_ne same] at member

/-- Every event keeps the dates. -/
theorem dated_step (s : State) (event : Event) (dated : Dated s) : Dated (step s event) := by
  cases event with
  | request n request conn js faults => exact dated_serve s n _ dated
  | disconnect n hint conn faults => exact dated_serve s n _ dated
  | take n faults =>
    change Dated (s.take n faults)
    rcases take_cases s n faults with same | ⟨origin, js, rest, queue, taken⟩
    · rw [same]
      exact dated
    · have first : origin < s.served :=
        dated.inbox n (origin, js) (queue ▸ List.mem_cons_self)
      rw [taken]
      obtain ⟨sends, inbox⟩ := absorb_origins
        { s with inbox := Function.update s.inbox n rest } n origin
        (inboxCallback js (s.world n faults)).2
      constructor
      · intro sent member
        rcases sends sent member with old | ⟨own, _⟩
        · exact dated.sends sent old
        · exact own ▸ first
      · intro m entry member
        rcases inbox m entry member with old | own
        · exact dated.inbox m entry (mem_of_rest s n _ rest queue m entry old)
        · exact own ▸ first
  | listen n subscriber => exact ⟨dated.sends, dated.inbox⟩
  | pass duration => exact ⟨dated.sends, dated.inbox⟩

/-- The request has led to sends on its own node only, and nothing of it is queued. -/
structure Settled (origin n : Nat) (s : State) : Prop where
  past : origin < s.served
  sends : ∀ sent ∈ s.sends, sent.origin = origin → sent.node = n
  inbox : ∀ m, ∀ entry ∈ s.inbox m, entry.1 ≠ origin

/-- Serving another request adds nothing to this one. -/
theorem settled_serve (origin n m : Nat) (s : State) (w : World) (settled : Settled origin n s) :
    Settled origin n (s.serve m w) := by
  obtain ⟨sends, inbox⟩ := absorb_origins s m s.served w
  have later : s.served ≠ origin := Nat.ne_of_gt settled.past
  refine ⟨Nat.lt_succ_of_lt settled.past, ?_, ?_⟩
  · intro sent member own
    rcases sends sent member with old | ⟨other, _⟩
    · exact settled.sends sent old own
    · exact absurd (other.symm.trans own) later
  · intro k entry member
    rcases inbox k entry member with old | other
    · exact settled.inbox k entry old
    · rw [other]
      exact later

/-- Nor does any event. -/
theorem settled_step (origin n : Nat) (s : State) (event : Event) (settled : Settled origin n s) :
    Settled origin n (step s event) := by
  cases event with
  | request m request conn js faults => exact settled_serve origin n m s _ settled
  | disconnect m hint conn faults => exact settled_serve origin n m s _ settled
  | take m faults =>
    change Settled origin n (s.take m faults)
    rcases take_cases s m faults with same | ⟨other, js, rest, queue, taken⟩
    · rw [same]
      exact settled
    · have foreign : other ≠ origin :=
        settled.inbox m (other, js) (queue ▸ List.mem_cons_self)
      rw [taken]
      obtain ⟨sends, inbox⟩ := absorb_origins
        { s with inbox := Function.update s.inbox m rest } m other
        (inboxCallback js (s.world m faults)).2
      refine ⟨settled.past, ?_, ?_⟩
      · intro sent member own
        rcases sends sent member with old | ⟨same, _⟩
        · exact settled.sends sent old own
        · exact absurd (same.symm.trans own) foreign
      · intro k entry member
        rcases inbox k entry member with old | same
        · exact settled.inbox k entry (mem_of_rest s m _ rest queue k entry old)
        · rw [same]
          exact foreign
  | listen m subscriber => exact ⟨settled.past, settled.sends, settled.inbox⟩
  | pass duration => exact ⟨settled.past, settled.sends, settled.inbox⟩

/-- A private message is settled as soon as it is handled: nothing of it is
published. -/
theorem settled_oneChat (s : State) (n : Nat) (conn : Conn) (js : Json) (faults : Faults)
    (dated : Dated s) :
    Settled s.served n (step s (.request n .oneChat conn js faults)) := by
  refine ⟨Nat.lt_succ_self s.served, ?_, ?_⟩
  · intro sent member own
    rcases (absorb_origins s n s.served _).1 sent member with old | ⟨_, here⟩
    · exact absurd own (Nat.ne_of_lt (dated.sends sent old))
    · exact here
  · intro m entry member
    rw [inbox_oneChat] at member
    exact Nat.ne_of_lt (dated.inbox m entry member)

/-!
## Messages across nodes
-/

section Runs

variable (names : Nat → String) (database : Database) (redis : Redis)

/-- The state after events from fresh nodes. -/
def reached (events : List Event) : State := Runs.run step (begin names database redis) events

/-- The dates hold in every reached state. -/
theorem dated_reached (events : List Event) : Dated (reached names database redis events) := by
  have start : Dated (begin names database redis) :=
    ⟨fun _ member => absurd member List.not_mem_nil,
      fun _ _ member => absurd member List.not_mem_nil⟩
  exact Runs.run_holds step Dated _ events (fun s event _ => dated_step s event) start

/-- A longer run goes on from where a shorter one ended. -/
theorem reached_append (before after : List Event) :
    reached names database redis (before ++ after) =
      Runs.run step (reached names database redis before) after :=
  List.foldl_append

/-- In every run a private message leads to no send on another node. -/
theorem deliveries_elsewhere (before after : List Event) (n m : Nat) (conn there : Conn)
    (js : Json) (faults : Faults) (apart : n ≠ m) :
    deliveries (reached names database redis
      (before ++ .request n .oneChat conn js faults :: after))
      (reached names database redis before).served m there = 0 := by
  have dated := dated_reached names database redis before
  rw [reached_append, Runs.run_cons]
  have settled := Runs.run_holds step _ _ after
    (fun s event _ => settled_step (reached names database redis before).served n s event)
    (settled_oneChat _ n conn js faults dated)
  rw [deliveries, List.countP_eq_zero]
  intro sent member counted
  obtain ⟨origin, node, _⟩ := of_decide_eq_true counted
  exact apart ((settled.sends sent member origin).symm.trans node)

/-- A private message to a friend on another node that was acknowledged is never sent
on the friend's connection, however the run goes on. -/
theorem never_delivered (before after : List Event) (a b : Int) (n m : Nat) (conn there : Conn)
    (js : Json) (faults : Faults)
    (crosses : Crosses (reached names database redis before) a b n m conn there js faults) :
    deliveries (reached names database redis
      (before ++ .request n .oneChat conn js faults :: after))
      (reached names database redis before).served m there ≠ 1 := by
  rw [deliveries_elsewhere names database redis before after n m conn there js faults
    crosses.apart]
  decide

end Runs

/-- Users 1 and 2, of whom the first lists the second. -/
def friends : Database :=
  { Database.empty with
    user := [⟨1, "ann", "a", "offline"⟩, ⟨2, "bob", "b", "offline"⟩]
    friend := [⟨1, 2⟩]
    nextUserId := 3 }

/-- The names of the example's nodes. -/
def names (n : Nat) : String := if n = 0 then "node-1" else "node-2"

/-- Each user logs in on a node of their own. -/
def logins : List Event :=
  [.request 0 .login ⟨"c"⟩ (loginRequest 1 "a") {},
    .request 1 .login ⟨"d"⟩ (loginRequest 2 "b") {}]

/-- What user 1 writes to user 2. -/
def hi : Json :=
  .object [("id", .integer 1), ("msg", .string "hi"), ("msgid", .integer 6),
    ("name", .string "ann"), ("time", .string "2024-01-01 12:00:00"), ("to", .integer 2)]

/-- The example's message crosses from node to node. -/
theorem crosses_hi :
    Crosses (reached names friends Redis.empty logins) 1 2 0 1 ⟨"c"⟩ ⟨"d"⟩ hi {} where
  apart := by decide
  sender := by decide +kernel
  recipient := by decide +kernel
  senderPresent := by decide +kernel
  recipientPresent := by decide +kernel
  friends := by decide +kernel
  addressed := ⟨rfl, rfl, rfl⟩
  acknowledged := by decide +kernel

/-- Nothing is published on the way. -/
theorem consumed_hi : Consumed (reached names friends Redis.empty
    (logins ++ [.request 0 .oneChat ⟨"c"⟩ hi {}])) := by
  intro m
  simp only [reached, logins, List.cons_append, List.nil_append, Runs.run_cons, Runs.run_nil]
  rw [inbox_oneChat, inbox_login, inbox_login]
  rfl

/-- The message to a friend on the other node is not delivered there. -/
theorem never_delivered_hi :
    Crosses (reached names friends Redis.empty logins) 1 2 0 1 ⟨"c"⟩ ⟨"d"⟩ hi {} ∧
      deliveries (reached names friends Redis.empty
        (logins ++ [.request 0 .oneChat ⟨"c"⟩ hi {}]))
        (reached names friends Redis.empty logins).served 1 ⟨"d"⟩ ≠ 1 :=
  ⟨crosses_hi, never_delivered names friends Redis.empty logins [] 1 2 0 1 ⟨"c"⟩ ⟨"d"⟩ hi {}
    crosses_hi⟩

/-- Nothing is left to be taken, and user 2 has received nothing. -/
theorem chat_never_arrives : ¬ ∀ names database redis before after a b n m conn there js faults,
    Crosses (reached names database redis before) a b n m conn there js faults →
    Consumed (reached names database redis
      (before ++ .request n .oneChat conn js faults :: after)) →
    deliveries (reached names database redis
      (before ++ .request n .oneChat conn js faults :: after))
      (reached names database redis before).served m there = 1 := by
  intro arrives
  have once := arrives names friends Redis.empty logins [] 1 2 0 1 ⟨"c"⟩ ⟨"d"⟩ hi {}
    crosses_hi consumed_hi
  rw [deliveries_elsewhere names friends Redis.empty logins [] 0 1 ⟨"c"⟩ ⟨"d"⟩ hi {}
    (by decide)] at once
  cases once

end ClusterChat.PrivateChat
