import ClusterChat.Cluster
import ClusterChat.Library.Runs

/-!
# Delivery of group messages

Nodes that share one database and one Redis exchange group messages through
Redis. A published message is queued once for every node whose connection is
subscribed to the channel at that moment, and each node's subscriber thread
takes its queued messages in order, between two batches of subscription tasks,
and sends them to the addressed users connected there.

A publication by a member is observed: it awaits every other member who is
connected somewhere, for as long as the user keeps the connection. Every send is
receipted with the users whose connection it reached. A state is balanced when,
for each awaited user, queued copies and receipts together make exactly one, and
no send has reached the connection of a user outside the group.

`balanced_iff_careful` is exact: a publication must find every node of an awaited
user subscribed, and a taken message must find, for each user still awaited,
exactly one addressed user on the user's connection, and no outsider on the
connection of an addressed user. `delivered_once` draws the conclusion for
messages that are no longer queued. The database and Redis may fail anywhere; a
message that Redis does not accept is not published.
-/

namespace ClusterChat.GroupDelivery

open ChatService

/-- A publication by a member of the group, with the connections on which it is
awaited. -/
structure Post where
  groupid : Int
  awaited : Nat → Int → Option Conn

/-- A send of a publication on a node, with the users on the connection it was
sent on, and those of them who are not members. -/
structure Receipt where
  publication : Nat
  node : Nat
  users : List Int
  strangers : List Int

/-- The nodes, what they share, the messages queued for each node with the index
of their publication, and what is observed. -/
structure State where
  nodes : Nat → Node
  database : Database
  redis : Redis
  inbox : Nat → List (Nat × Json)
  posts : Nat → Option Post
  receipts : List Receipt

/-- A run begins with nothing queued. -/
def begin (nodes : Nat → Node) (database : Database) (redis : Redis) : State :=
  ⟨nodes, database, redis, fun _ => [], fun _ => none, []⟩

namespace State

/-- A node as a handler meets it, with the faults of the call. -/
def world (s : State) (n : Nat) (faults : Faults) : World :=
  ⟨s.nodes n, ⟨s.database, faults.grants, faults.throws⟩,
    ⟨s.redis, faults.redisGrants, faults.redisThrows⟩, []⟩

/-- What the handler leaves behind goes back to the node, the database and Redis. -/
def absorb (s : State) (n : Nat) (w : World) : State :=
  { s with
    nodes := Function.update s.nodes n w.node
    database := w.mysql.database
    redis := w.redis.store }

/-- A user who has lost the connection is no longer awaited. -/
def track (s : State) : State :=
  { s with posts := fun k => (s.posts k).map fun post =>
      { post with awaited := fun m u =>
          (post.awaited m u).filter (fun conn => (s.nodes m).connOf u = some conn) } }

/-- The channels a node receives: its own inbox, and the subscribed groups. -/
def receives (node : Node) : Channel → Bool
  | .nodeInbox name => name = node.localNodeId
  | .group groupid => groupid ∈ node.subscriber.channels

/-- A publication is observed if its sender is a member of the group. -/
def postOf (s : State) (channel : Channel) (js : Json) : Option Post :=
  match channel, js.int "id" with
  | .group groupid, .ok sender =>
      if s.database.hasMember groupid sender then
        some ⟨groupid, fun m u =>
          if u ≠ sender ∧ s.database.hasMember groupid u then (s.nodes m).connOf u else none⟩
      else none
  | _, _ => none

/-- Redis queues a publication for every node that receives its channel. -/
def deliver (s : State) (k : Nat) (channel : Channel) (js : Json) : State :=
  { s with
    inbox := fun m =>
      if receives (s.nodes m) channel then s.inbox m ++ [(k, js)] else s.inbox m
    posts := Function.update s.posts k (s.postOf channel js) }

/-- The messages published by one call, delivered in order. -/
def deliverAll (k : Nat) : List (Channel × Json) → State → State
  | [], s => s
  | (channel, js) :: rest, s => deliverAll (k + 1) rest (s.deliver k channel js)

/-- Queue everything published since. -/
def spread (s : State) (before : Redis) : State :=
  deliverAll before.published.length (s.redis.published.drop before.published.length) s

/-- The users whose connection this is. -/
def usersOf (node : Node) (conn : Conn) : List Int :=
  (node.userConnMap.entries.filter (fun entry => entry.2 = conn)).map (fun entry => entry.1)

/-- What is noted of a copy: which publication it is of, and whom it reached. -/
def receiptOf (s : State) (k n : Nat) (output : Output) : Receipt :=
  let users := usersOf (s.nodes n) output.conn
  { publication := k
    node := n
    users
    strangers := match s.posts k with
      | none => []
      | some post => users.filter (fun u => !s.database.hasMember post.groupid u) }

/-- The subscriber thread takes the first queued message and runs the callback. -/
def take (s : State) (n : Nat) (faults : Faults) : State :=
  match s.inbox n with
  | [] => s
  | (k, js) :: rest =>
      if (s.nodes n).subscriber.tasks ≠ [] ∨ (s.nodes n).subscriber.executed ≠ none then s
      else
        let w := (inboxCallback js (s.world n faults)).2
        let next := { s.absorb n w with
          inbox := Function.update s.inbox n rest
          receipts := s.receipts ++ w.sent.map (s.receiptOf k n) }
        next.track.spread s.redis

/-- A change of a node's Redis client. -/
def onSubscriber (s : State) (n : Nat) (change : Subscriber → Subscriber) : State :=
  let node := s.nodes n
  let changed := { node with subscriber := change node.subscriber }
  { s with nodes := Function.update s.nodes n changed }

end State

/-- The requests of a run. -/
inductive Kind where
  | login
  | loginOut
  | createGroup
  | joinGroup
  | groupChat
deriving DecidableEq

/-- The handler of the request. -/
def Kind.handler : Kind → Conn → Json → Handler Unit
  | .login => ChatService.login
  | .loginOut => ChatService.loginOut
  | .createGroup => ChatService.createGroup
  | .joinGroup => ChatService.joinGroup
  | .groupChat => ChatService.groupChat

/-- A request received by a node, or a step of a node's subscriber thread. -/
inductive Event where
  | request (kind : Kind) (n : Nat) (conn : Conn) (js : Json) (faults : Faults)
  | swap (n : Nat)
  | command (n : Nat) (fails : Bool)
  | settle (n : Nat)
  | take (n : Nat) (faults : Faults)

/-- The cluster after the event. -/
def step (s : State) : Event → State
  | .request kind n conn js faults =>
      (s.absorb n (kind.handler conn js (s.world n faults)).2).track.spread s.redis
  | .swap n => s.onSubscriber n Subscriber.swap
  | .command n fails => s.onSubscriber n (Subscriber.command fails)
  | .settle n => s.onSubscriber n Subscriber.settle
  | .take n faults => s.take n faults

/-- The copies of a publication queued for a node. -/
def queued (s : State) (k m : Nat) : Nat := (s.inbox m).countP (fun entry => entry.1 = k)

/-- The sends of a publication on a node that reached a user's connection. -/
def received (s : State) (k m : Nat) (u : Int) : Nat :=
  s.receipts.countP (fun receipt => receipt.publication = k ∧ receipt.node = m ∧ u ∈ receipt.users)

/-- Every awaited user has a copy queued or one receipt, and no send reached an
outsider. -/
structure Balanced (s : State) : Prop where
  once : ∀ k post, s.posts k = some post → ∀ m u conn, post.awaited m u = some conn →
    queued s k m + received s k m u = 1
  known : ∀ receipt ∈ s.receipts, receipt.strangers = []

/-- The node that takes the message reaches each user still awaited there exactly
once, and nobody outside the group. -/
def Reaches (s : State) (n : Nat) (js : Json) (post : Post) : Prop :=
  (∀ u conn, post.awaited n u = some conn →
    (addressed js (s.nodes n)).countP (fun x => (s.nodes n).connOf x = some conn) = 1) ∧
  ∀ x ∈ addressed js (s.nodes n), ∀ conn, (s.nodes n).connOf x = some conn →
    ∀ y, (s.nodes n).connOf y = some conn → s.database.hasMember post.groupid y = true

/-- What keeps the balance, for each event. -/
def Careful (s : State) : Event → Prop
  | .request .groupChat n _ js faults => emptyMessage js = .ok false →
      ∀ sender groupid, js.int "id" = .ok sender → js.int "groupid" = .ok groupid →
        s.database.hasMember groupid sender = true → (s.world n faults).redis.answers = true →
        ∀ m u conn, u ≠ sender → s.database.hasMember groupid u = true →
          (s.nodes m).connOf u = some conn → groupid ∈ (s.nodes m).subscriber.channels
  | .take n _ => (s.nodes n).subscriber.tasks = [] → (s.nodes n).subscriber.executed = none →
      ∀ k js rest, s.inbox n = (k, js) :: rest → ∀ post, s.posts k = some post →
        Reaches s n js post
  | _ => True

/-- Indexes are those of published messages, and an awaited user has kept the
connection. -/
structure Indexed (s : State) : Prop where
  posted : ∀ k post, s.posts k = some post → k < s.redis.published.length
  queue : ∀ m, ∀ entry ∈ s.inbox m, entry.1 < s.redis.published.length
  receipted : ∀ receipt ∈ s.receipts, receipt.publication < s.redis.published.length
  held : ∀ k post, s.posts k = some post → ∀ m u conn, post.awaited m u = some conn →
    (s.nodes m).connOf u = some conn

/-- A connection has the users mapped to it. -/
theorem mem_usersOf (node : Node) (conn : Conn) (u : Int) :
    u ∈ State.usersOf node conn ↔ node.connOf u = some conn := by
  rw [State.usersOf, List.mem_map]
  constructor
  · rintro ⟨entry, member, rfl⟩
    obtain ⟨stored, same⟩ := List.mem_filter.mp member
    have isConn : entry.2 = conn := by simpa using same
    exact isConn ▸ AList.mem_lookup_iff.mpr stored
  · intro mapped
    exact ⟨⟨u, conn⟩, List.mem_filter.mpr ⟨AList.mem_lookup_iff.mp mapped, by simp⟩, rfl⟩

/-!
## Publications
-/

/-- A call that publishes nothing spreads nothing. -/
theorem spread_same (s : State) (before : Redis) (same : s.redis.published = before.published) :
    s.spread before = s := by
  rw [State.spread, same, List.drop_length]
  rfl

/-- A call that publishes one message delivers it. -/
theorem spread_one (s : State) (before : Redis) (channel : Channel) (js : Json)
    (published : s.redis.published = before.published ++ [(channel, js)]) :
    s.spread before = s.deliver before.published.length channel js := by
  rw [State.spread, published, List.drop_left]
  rfl

/-- What is awaited after the connections were looked at. -/
theorem track_posts (s : State) (k : Nat) (post : Post) (tracked : s.track.posts k = some post) :
    ∃ old, s.posts k = some old ∧ ∀ m u conn, post.awaited m u = some conn →
      old.awaited m u = some conn ∧ (s.nodes m).connOf u = some conn := by
  obtain ⟨old, found, rfl⟩ := Option.map_eq_some_iff.mp tracked
  refine ⟨old, found, ?_⟩
  intro m u conn awaited
  simpa [Option.filter_eq_some_iff] using awaited

/-- Nobody has lost a connection. -/
theorem track_of_held (s : State) (held : ∀ k post, s.posts k = some post → ∀ m u conn,
    post.awaited m u = some conn → (s.nodes m).connOf u = some conn) : s.track = s := by
  have same : s.track.posts = s.posts := by
    funext k
    change (s.posts k).map _ = s.posts k
    cases found : s.posts k with
    | none => rfl
    | some post =>
      rw [Option.map_some, Option.some.injEq]
      have kept : (fun m u => (post.awaited m u).filter
          (fun conn => (s.nodes m).connOf u = some conn)) = post.awaited := by
        funext m u
        cases awaited : post.awaited m u with
        | none => rfl
        | some conn => simp [held k post found m u conn awaited]
      rw [kept]
  change ({ s with posts := s.track.posts } : State) = s
  rw [same]

/-- Noting the memberships keeps the numbers of the publications right. -/
theorem indexed_track (s : State) (posted : ∀ k post, s.posts k = some post →
      k < s.redis.published.length)
    (queue : ∀ m, ∀ entry ∈ s.inbox m, entry.1 < s.redis.published.length)
    (receipted : ∀ receipt ∈ s.receipts, receipt.publication < s.redis.published.length) :
    Indexed s.track where
  posted k post tracked := by
    obtain ⟨old, found, _⟩ := track_posts s k post tracked
    exact posted k old found
  queue := queue
  receipted := receipted
  held k post tracked m u conn awaited := by
    obtain ⟨old, _, both⟩ := track_posts s k post tracked
    exact (both m u conn awaited).2

/-- Fewer users are awaited. -/
theorem balanced_track (s : State) (balanced : Balanced s) : Balanced s.track where
  once k post tracked m u conn awaited := by
    obtain ⟨old, found, both⟩ := track_posts s k post tracked
    exact balanced.once k old found m u conn (both m u conn awaited).1
  known := balanced.known

/-- A delivery queues one copy on each node that receives the channel. -/
theorem queued_deliver (s : State) (k : Nat) (channel : Channel) (js : Json) (other m : Nat) :
    queued (s.deliver k channel js) other m = queued s other m +
      if k = other ∧ State.receives (s.nodes m) channel = true then 1 else 0 := by
  rw [queued, State.deliver]
  by_cases receives : State.receives (s.nodes m) channel = true
  · simp only [receives, if_true, List.countP_append, List.countP_singleton, and_true,
      decide_eq_true_eq]
    rfl
  · simp [receives, queued]

/-- A fresh publication keeps the balance exactly when every node of an awaited
user receives it. -/
theorem balanced_deliver_iff (s : State) (k : Nat) (channel : Channel) (js : Json)
    (balanced : Balanced s) (unposted : s.posts k = none)
    (unqueued : ∀ m, ∀ entry ∈ s.inbox m, entry.1 ≠ k)
    (unreceipted : ∀ receipt ∈ s.receipts, receipt.publication ≠ k) :
    Balanced (s.deliver k channel js) ↔ ∀ post, s.postOf channel js = some post →
      ∀ m u conn, post.awaited m u = some conn → State.receives (s.nodes m) channel = true := by
  have noCopy (m : Nat) : queued s k m = 0 := by
    rw [queued, List.countP_eq_zero]
    intro entry member
    simpa using unqueued m entry member
  have noReceipt (m : Nat) (u : Int) : received s k m u = 0 := by
    rw [received, List.countP_eq_zero]
    intro receipt member
    simp [unreceipted receipt member]
  constructor
  · intro kept post posted m u conn awaited
    have one := kept.once k post ((Function.update_self k _ s.posts).trans posted) m u conn awaited
    rw [queued_deliver] at one
    change _ + received s k m u = 1 at one
    rw [noCopy, noReceipt] at one
    by_contra unreceived
    rw [if_neg (fun both => unreceived both.2)] at one
    omega
  · intro subscribed
    refine ⟨?_, balanced.known⟩
    intro other post posted m u conn awaited
    rw [queued_deliver]
    change _ + received s other m u = 1
    by_cases own : other = k
    · subst own
      have isPost : s.postOf channel js = some post :=
        (Function.update_self other _ s.posts).symm.trans posted
      rw [noCopy, noReceipt, if_pos ⟨rfl, subscribed post isPost m u conn awaited⟩]
    · have old : s.posts other = some post :=
        (Function.update_of_ne own _ s.posts).symm.trans posted
      rw [if_neg (fun both => own both.1.symm)]
      exact balanced.once other post old m u conn awaited

/-- A delivery keeps the numbers of the publications right. -/
theorem indexed_deliver (s : State) (k : Nat) (channel : Channel) (js : Json) (indexed : Indexed s)
    (published : k < s.redis.published.length) : Indexed (s.deliver k channel js) where
  posted other post posted := by
    by_cases own : other = k
    · exact own ▸ published
    · exact indexed.posted other post ((Function.update_of_ne own _ s.posts).symm.trans posted)
  queue m entry member := by
    have cases : entry ∈ s.inbox m ∨ entry = (k, js) := by
      change entry ∈ (if State.receives (s.nodes m) channel then s.inbox m ++ [(k, js)]
        else s.inbox m) at member
      split at member
      · simpa using member
      · exact Or.inl member
    rcases cases with old | rfl
    · exact indexed.queue m entry old
    · exact published
  receipted := indexed.receipted
  held other post posted m u conn awaited := by
    by_cases own : other = k
    · subst own
      have isPost : s.postOf channel js = some post :=
        (Function.update_self other _ s.posts).symm.trans posted
      unfold State.postOf at isPost
      split at isPost
      · split at isPost
        · cases isPost
          simp only at awaited
          split at awaited
          · exact awaited
          · cases awaited
        · cases isPost
      · cases isPost
    · exact indexed.held other post ((Function.update_of_ne own _ s.posts).symm.trans posted) m u
        conn awaited

/-!
## The steps
-/

/-- A step keeps the indexes, and the balance exactly when it is careful. -/
def Sound (s : State) (event : Event) : Prop :=
  Indexed (step s event) ∧ (Balanced s → (Balanced (step s event) ↔ Careful s event))

/-- A step of the subscriber thread touches neither connections nor queues. -/
theorem sound_onSubscriber (s : State) (n : Nat) (change : Subscriber → Subscriber)
    (indexed : Indexed s) : Indexed (s.onSubscriber n change) ∧
      (Balanced s → Balanced (s.onSubscriber n change)) := by
  refine ⟨⟨indexed.posted, indexed.queue, indexed.receipted, ?_⟩,
    fun balanced => ⟨balanced.once, balanced.known⟩⟩
  intro k post posted m u conn awaited
  have before := indexed.held k post posted m u conn awaited
  by_cases own : m = n
  · subst own
    change (Function.update s.nodes m _ m).connOf u = some conn
    rw [Function.update_self]
    exact before
  · change (Function.update s.nodes n _ m).connOf u = some conn
    rw [Function.update_of_ne own]
    exact before

/-- A request that publishes nothing. -/
theorem sound_unpublished (s : State) (n : Nat) (w : World) (indexed : Indexed s)
    (same : w.redis.store.published = s.redis.published) :
    Indexed ((s.absorb n w).track.spread s.redis) ∧
      (Balanced s → Balanced ((s.absorb n w).track.spread s.redis)) := by
  rw [spread_same (s.absorb n w).track s.redis same]
  refine ⟨indexed_track (s.absorb n w) ?_ ?_ ?_, ?_⟩
  · intro k post posted
    exact same ▸ indexed.posted k post posted
  · intro m entry member
    exact same ▸ indexed.queue m entry member
  · intro receipt member
    exact same ▸ indexed.receipted receipt member
  · intro balanced
    exact balanced_track (s.absorb n w) ⟨balanced.once, balanced.known⟩

/-- What a publishing request leaves: nobody's connections and no node's channels
have changed, and the message is queued. -/
theorem groupChat_published (s : State) (n : Nat) (conn : Conn) (js : Json) (faults : Faults)
    (sender groupid : Int) (indexed : Indexed s) (spoken : emptyMessage js = .ok false)
    (named : js.int "id" = .ok sender) (grouped : js.int "groupid" = .ok groupid)
    (answers : (s.world n faults).redis.answers = true) :
    ∃ after : State, step s (.request .groupChat n conn js faults) =
        after.deliver s.redis.published.length (.group groupid) js ∧
      after.redis.published = s.redis.published ++ [(.group groupid, js)] ∧
      after.database = s.database ∧ after.inbox = s.inbox ∧ after.posts = s.posts ∧
      after.receipts = s.receipts ∧ (∀ m u, (after.nodes m).connOf u = (s.nodes m).connOf u) ∧
      ∀ m, (after.nodes m).subscriber.channels = (s.nodes m).subscriber.channels := by
  obtain ⟨mysql, ended, kept⟩ := groupChat_runs conn js sender groupid (s.world n faults) spoken
    named grouped
  have published := RedisClient.publishGroupMessage_runs groupid js (s.world n faults).redis
  rw [if_pos answers] at published
  have frame (users : List Int) :
      (load groupid users (s.nodes n)).userConnMap = (s.nodes n).userConnMap ∧
        (load groupid users (s.nodes n)).subscriber.channels = (s.nodes n).subscriber.channels := by
    obtain ⟨maps, subscriber⟩ := Node.addMembers_frame users groupid (s.nodes n)
    refine ⟨maps, ?_⟩
    change (Subscriber.subscribeGroupChannel groupid _).channels = _
    rw [subscriber, Subscriber.subscribeGroupChannel]
    split <;> rfl
  have same : ((groupChat conn js (s.world n faults)).2.node.userConnMap =
        (s.nodes n).userConnMap) ∧
      (groupChat conn js (s.world n faults)).2.node.subscriber.channels =
        (s.nodes n).subscriber.channels := by
    rw [ended]
    simp only
    split
    · exact ⟨rfl, rfl⟩
    · exact frame _
  have connOf (m : Nat) (u : Int) : ((s.absorb n (groupChat conn js (s.world n faults)).2).nodes
      m).connOf u = (s.nodes m).connOf u := by
    by_cases own : m = n
    · subst own
      change (Function.update s.nodes m _ m).connOf u = _
      rw [Function.update_self, Node.connOf, same.1]
      rfl
    · change (Function.update s.nodes n _ m).connOf u = _
      rw [Function.update_of_ne own]
  have redis : (s.absorb n (groupChat conn js (s.world n faults)).2).redis.published =
      s.redis.published ++ [(.group groupid, js)] := by
    change (groupChat conn js (s.world n faults)).2.redis.store.published = _
    rw [ended]
    exact published
  refine ⟨s.absorb n (groupChat conn js (s.world n faults)).2, ?_, redis, ?_, rfl, rfl, rfl, connOf,
    ?_⟩
  · change ((s.absorb n (groupChat conn js (s.world n faults)).2).track.spread s.redis) = _
    rw [track_of_held, spread_one _ s.redis (.group groupid) js redis]
    intro k post posted m u held awaited
    rw [connOf]
    exact indexed.held k post posted m u held awaited
  · change (groupChat conn js (s.world n faults)).2.mysql.database = _
    rw [ended]
    exact kept.database
  · intro m
    by_cases own : m = n
    · subst own
      change (Function.update s.nodes m _ m).subscriber.channels = _
      rw [Function.update_self]
      exact same.2
    · change (Function.update s.nodes n _ m).subscriber.channels = _
      rw [Function.update_of_ne own]

/-- A publication keeps the balance exactly when the awaited users' nodes are
subscribed. -/
theorem sound_published (s : State) (n : Nat) (conn : Conn) (js : Json) (faults : Faults)
    (sender groupid : Int) (indexed : Indexed s) (spoken : emptyMessage js = .ok false)
    (named : js.int "id" = .ok sender) (grouped : js.int "groupid" = .ok groupid)
    (answers : (s.world n faults).redis.answers = true) :
    Sound s (.request .groupChat n conn js faults) := by
  obtain ⟨after, stepped, published, database, inbox, posts, receipts, connOf, channels⟩ :=
    groupChat_published s n conn js faults sender groupid indexed spoken named grouped answers
  have longer : s.redis.published.length < after.redis.published.length := by
    rw [published, List.length_append, List.length_singleton]
    omega
  have indexedAfter : Indexed after := by
    refine ⟨?_, ?_, ?_, ?_⟩
    · intro k post posted
      exact lt_trans (indexed.posted k post (posts ▸ posted)) longer
    · intro m entry member
      exact lt_trans (indexed.queue m entry (inbox ▸ member)) longer
    · intro receipt member
      exact lt_trans (indexed.receipted receipt (receipts ▸ member)) longer
    · intro k post posted m u held awaited
      rw [connOf]
      exact indexed.held k post (posts ▸ posted) m u held awaited
  rw [Sound, stepped]
  refine ⟨indexed_deliver after _ _ js indexedAfter longer, fun balanced => ?_⟩
  have balancedAfter : Balanced after := by
    refine ⟨?_, ?_⟩
    · intro k post posted m u held awaited
      have one := balanced.once k post (posts ▸ posted) m u held awaited
      rw [queued, received, inbox, receipts]
      exact one
    · rw [receipts]
      exact balanced.known
  refine (balanced_deliver_iff after _ (.group groupid) js balancedAfter ?_ ?_ ?_).trans ?_
  · rw [posts]
    cases posted : s.posts s.redis.published.length with
    | none => rfl
    | some post => exact absurd (indexed.posted _ post posted) (lt_irrefl _)
  · intro m entry member
    rw [inbox] at member
    exact ne_of_lt (indexed.queue m entry member)
  · intro receipt member
    rw [receipts] at member
    exact ne_of_lt (indexed.receipted receipt member)
  · have observed : after.postOf (.group groupid) js =
        if s.database.hasMember groupid sender then
          some ⟨groupid, fun m u => if u ≠ sender ∧ s.database.hasMember groupid u then
            (s.nodes m).connOf u else none⟩
        else none := by
      unfold State.postOf
      simp only [named, database, connOf]
    rw [observed]
    refine Iff.trans ?_ ((forall_prop_of_true spoken).trans (Json.forall_given named grouped)).symm
    constructor
    · intro subscribed member _ m u held other isMember mapped
      rw [if_pos member] at subscribed
      have receives := subscribed _ rfl m u held ((if_pos ⟨other, isMember⟩).trans mapped)
      rw [State.receives, channels, decide_eq_true_eq] at receives
      exact receives
    · intro careful post posted m u held awaited
      split at posted
      · rename_i member
        cases posted
        simp only at awaited
        split at awaited
        · rename_i both
          have subscribed := careful member answers m u held both.1 both.2 awaited
          rw [State.receives, channels, decide_eq_true_eq]
          exact subscribed
        · cases awaited
      · cases posted

/-- A group message is sound. -/
theorem sound_groupChat (s : State) (n : Nat) (conn : Conn) (js : Json) (faults : Faults)
    (indexed : Indexed s) : Sound s (.request .groupChat n conn js faults) := by
  by_cases publishes : emptyMessage js = .ok false ∧
      (∃ sender groupid, js.int "id" = .ok sender ∧ js.int "groupid" = .ok groupid) ∧
      (s.world n faults).redis.answers = true
  · obtain ⟨spoken, ⟨sender, groupid, named, grouped⟩, answers⟩ := publishes
    exact sound_published s n conn js faults sender groupid indexed spoken named grouped answers
  · have same : (groupChat conn js (s.world n faults)).2.redis.store.published =
        s.redis.published := by
      rcases groupChat_ends conn js (s.world n faults) with
        ⟨outcome, ended⟩ | ⟨sender, groupid, mysql, spoken, named, grouped, ended, _⟩
      · rw [ended]
        rfl
      · have unanswered : (s.world n faults).redis.answers ≠ true :=
          fun answers => publishes ⟨spoken, ⟨sender, groupid, named, grouped⟩, answers⟩
        have published := RedisClient.publishGroupMessage_runs groupid js (s.world n faults).redis
        rw [if_neg unanswered] at published
        rw [ended]
        exact published
    have sound := sound_unpublished s n _ indexed same
    refine ⟨sound.1, fun balanced => iff_of_true (sound.2 balanced) ?_⟩
    intro spoken sender groupid named grouped _ answers
    exact absurd ⟨spoken, ⟨sender, groupid, named, grouped⟩, answers⟩ publishes

/-- The other requests publish nothing. -/
theorem samePublished_handler (kind : Kind) (other : kind ≠ .groupChat) (conn : Conn) (js : Json) :
    Effect.Within SamePublished (kind.handler conn js) := by
  cases kind with
  | login => exact samePublished_login conn js
  | loginOut => exact samePublished_loginOut conn js
  | createGroup => exact samePublished_createGroup conn js
  | joinGroup => exact samePublished_joinGroup conn js
  | groupChat => exact absurd rfl other

/-- Every request is sound. -/
theorem sound_request (s : State) (kind : Kind) (n : Nat) (conn : Conn) (js : Json)
    (faults : Faults) (indexed : Indexed s) : Sound s (.request kind n conn js faults) := by
  by_cases chat : kind = .groupChat
  · subst chat
    exact sound_groupChat s n conn js faults indexed
  · have sound := sound_unpublished s n (kind.handler conn js (s.world n faults)).2 indexed
      (samePublished_handler kind chat conn js (s.world n faults))
    refine ⟨sound.1, fun balanced => iff_of_true (sound.2 balanced) ?_⟩
    cases kind with
    | groupChat => exact absurd rfl chat
    | _ => exact trivial

/-- The receipts of the copies sent to the addressed users. -/
def sends (s : State) (n k : Nat) (js : Json) : List Receipt :=
  (copies js (s.nodes n) (addressed js (s.nodes n))).map (s.receiptOf k n)

/-- How often the copies reach a user's connection. -/
theorem countP_sends (s : State) (n k : Nat) (js : Json) (u : Int) (conn : Conn)
    (mapped : (s.nodes n).connOf u = some conn) (other m : Nat) :
    (sends s n k js).countP
        (fun receipt => receipt.publication = other ∧ receipt.node = m ∧ u ∈ receipt.users) =
      if k = other ∧ n = m then
        (addressed js (s.nodes n)).countP (fun x => (s.nodes n).connOf x = some conn)
      else 0 := by
  unfold sends copies
  induction addressed js (s.nodes n) with
  | nil => simp
  | cons x users inductionHypothesis =>
    cases found : (s.nodes n).connOf x with
    | none =>
      rw [List.filterMap_cons_none (by rw [found]; rfl), inductionHypothesis, List.countP_cons]
      simp [found]
    | some held =>
      rw [List.filterMap_cons_some (by rw [found]; rfl), List.map_cons, List.countP_cons,
        inductionHypothesis, List.countP_cons]
      have reached : u ∈ (s.receiptOf k n ⟨held, js, true⟩).users ↔ held = conn := by
        change u ∈ State.usersOf (s.nodes n) held ↔ _
        rw [mem_usersOf, mapped, Option.some.injEq]
        exact eq_comm
      have ofSend : (s.receiptOf k n ⟨held, js, true⟩).publication = k ∧
          (s.receiptOf k n ⟨held, js, true⟩).node = n := ⟨rfl, rfl⟩
      simp only [ofSend, reached, found, Option.some.injEq, decide_eq_true_eq]
      by_cases own : k = other ∧ n = m
      · simp [own]
      · have apart : ¬ (k = other ∧ n = m ∧ held = conn) := fun all => own ⟨all.1, all.2.1⟩
        simp [own, apart]

/-- No copy reaches an outsider exactly when the users on the connections of the
addressed users are members. -/
theorem strangers_sends (s : State) (n k : Nat) (js : Json) (post : Post)
    (posted : s.posts k = some post) :
    (∀ receipt ∈ sends s n k js, receipt.strangers = []) ↔
      ∀ x ∈ addressed js (s.nodes n), ∀ conn, (s.nodes n).connOf x = some conn →
        ∀ y, (s.nodes n).connOf y = some conn → s.database.hasMember post.groupid y = true := by
  have strangers_iff (held : Conn) : (s.receiptOf k n ⟨held, js, true⟩).strangers = [] ↔
      ∀ y, (s.nodes n).connOf y = some held → s.database.hasMember post.groupid y = true := by
    simp only [State.receiptOf, posted]
    rw [List.filter_eq_nil_iff]
    refine forall_congr' fun y => ?_
    rw [mem_usersOf, Bool.not_eq_true', Bool.not_eq_false]
  constructor
  · intro none x member conn mapped y
    refine (strangers_iff conn).mp (none _ ?_) y
    refine List.mem_map_of_mem (List.mem_filterMap.mpr ⟨x, member, ?_⟩)
    rw [mapped]
    rfl
  · intro members receipt member
    obtain ⟨output, isCopy, rfl⟩ := List.mem_map.mp member
    obtain ⟨x, inUsers, found⟩ := List.mem_filterMap.mp isCopy
    obtain ⟨conn, mapped, rfl⟩ := Option.map_eq_some_iff.mp found
    exact (strangers_iff conn).mpr (members x inUsers conn mapped)

/-- Copies of an unobserved publication have no strangers to report. -/
theorem strangers_unposted (s : State) (n k : Nat) (js : Json) (unposted : s.posts k = none) :
    ∀ receipt ∈ sends s n k js, receipt.strangers = [] := by
  intro receipt member
  obtain ⟨output, _, rfl⟩ := List.mem_map.mp member
  simp only [State.receiptOf, unposted]

/-- Taking a message removes it from the queue and adds the receipts of its
copies. Connections and publications are as before. -/
theorem take_runs (s : State) (n : Nat) (faults : Faults) (k : Nat) (js : Json)
    (rest : List (Nat × Json)) (indexed : Indexed s) (waiting : s.inbox n = (k, js) :: rest)
    (between : (s.nodes n).subscriber.tasks = [] ∧ (s.nodes n).subscriber.executed = none) :
    (s.take n faults).inbox = Function.update s.inbox n rest ∧
      (s.take n faults).receipts = s.receipts ++ sends s n k js ∧
      (s.take n faults).redis.published = s.redis.published ∧
      (s.take n faults).posts = s.posts ∧
      ∀ m u, ((s.take n faults).nodes m).connOf u = (s.nodes m).connOf u := by
  obtain ⟨outcome, failedQueue, mysql, m, ended, published⟩ :=
    inboxCallback_runs js (s.world n faults)
  have idle : ¬ ((s.nodes n).subscriber.tasks ≠ [] ∨ (s.nodes n).subscriber.executed ≠ none) := by
    rw [between.1, between.2]
    simp
  have connOf (other : Nat) (u : Int) : ((s.absorb n (inboxCallback js (s.world n faults)).2).nodes
      other).connOf u = (s.nodes other).connOf u := by
    rw [ended]
    by_cases own : other = n
    · subst own
      change (Function.update s.nodes other _ other).connOf u = _
      rw [Function.update_self]
      rfl
    · change (Function.update s.nodes n _ other).connOf u = _
      rw [Function.update_of_ne own]
  have sent : (inboxCallback js (s.world n faults)).2.sent.map (s.receiptOf k n) =
      sends s n k js := by
    rw [ended]
    rfl
  have stored : (inboxCallback js (s.world n faults)).2.redis.store.published =
      s.redis.published := by
    rw [ended]
    exact published
  have taken : s.take n faults = { s.absorb n (inboxCallback js (s.world n faults)).2 with
      inbox := Function.update s.inbox n rest
      receipts := s.receipts ++ sends s n k js } := by
    unfold State.take
    rw [waiting]
    simp only
    rw [if_neg idle, track_of_held, spread_same]
    · rw [sent]
    · exact stored
    · intro other post posted m u conn awaited
      exact (connOf m u).trans (indexed.held other post posted m u conn awaited)
  rw [taken]
  exact ⟨rfl, rfl, stored, rfl, connOf⟩

section Taken

variable (s next : State) (n k : Nat) (js : Json) (rest : List (Nat × Json))
  (waiting : s.inbox n = (k, js) :: rest)
  (inbox : next.inbox = Function.update s.inbox n rest)
  (receipts : next.receipts = s.receipts ++ sends s n k js)

include waiting inbox in
/-- One copy fewer is queued. -/
theorem queued_taken (other m : Nat) : queued s other m =
    queued next other m + if k = other ∧ m = n then 1 else 0 := by
  rw [queued, queued, inbox]
  by_cases own : m = n
  · subst own
    rw [Function.update_self, waiting, List.countP_cons]
    simp
  · rw [Function.update_of_ne own]
    simp [own]

include receipts in
/-- A node that takes a message up sends one copy for each connected addressee. -/
theorem received_taken (other m : Nat) (u : Int) (conn : Conn)
    (mapped : (s.nodes n).connOf u = some conn) : received next other m u =
      received s other m u + if k = other ∧ n = m then
        (addressed js (s.nodes n)).countP (fun x => (s.nodes n).connOf x = some conn) else 0 := by
  rw [received, receipts, List.countP_append, countP_sends s n k js u conn mapped]
  rfl

end Taken

/-- Only the node that takes a message adds receipts. -/
theorem received_elsewhere (s next : State) (n k : Nat) (js : Json)
    (receipts : next.receipts = s.receipts ++ sends s n k js) (other m : Nat) (u : Int)
    (apart : ¬ (k = other ∧ n = m)) : received next other m u = received s other m u := by
  have none : (sends s n k js).countP
      (fun receipt => receipt.publication = other ∧ receipt.node = m ∧ u ∈ receipt.users) = 0 := by
    rw [List.countP_eq_zero]
    intro receipt member
    obtain ⟨output, _, rfl⟩ := List.mem_map.mp member
    intro reached
    have all := of_decide_eq_true reached
    exact apart ⟨all.1, all.2.1⟩
  rw [received, receipts, List.countP_append, none, Nat.add_zero]
  rfl

section Taken

variable (s next : State) (n k : Nat) (js : Json) (rest : List (Nat × Json))
  (waiting : s.inbox n = (k, js) :: rest)
  (inbox : next.inbox = Function.update s.inbox n rest)
  (receipts : next.receipts = s.receipts ++ sends s n k js) (posts : next.posts = s.posts)
  (indexed : Indexed s)

include waiting inbox receipts posts indexed

/-- Taking a message up keeps the numbers of the publications right. -/
theorem indexed_taken (published : next.redis.published = s.redis.published)
    (connOf : ∀ m u, (next.nodes m).connOf u = (s.nodes m).connOf u) : Indexed next := by
  refine ⟨?_, ?_, ?_, ?_⟩
  · intro other post posted
    exact published ▸ indexed.posted other post (posts ▸ posted)
  · intro m entry member
    rw [inbox] at member
    rw [published]
    by_cases own : m = n
    · subst own
      rw [Function.update_self] at member
      exact indexed.queue m entry (waiting ▸ List.mem_cons_of_mem _ member)
    · rw [Function.update_of_ne own] at member
      exact indexed.queue m entry member
  · intro receipt member
    rw [published]
    rw [receipts] at member
    rcases List.mem_append.mp member with old | new
    · exact indexed.receipted receipt old
    · obtain ⟨output, _, rfl⟩ := List.mem_map.mp new
      exact indexed.queue n (k, js) (waiting ▸ List.mem_cons_self)
  · intro other post posted m u conn awaited
    exact (connOf m u).trans (indexed.held other post (posts ▸ posted) m u conn awaited)

/-- The copy that left the queue must be the one copy every awaited user gets. -/
theorem reaches_of_balanced (balanced : Balanced s) (kept : Balanced next) (post : Post)
    (posted : s.posts k = some post) : Reaches s n js post := by
  constructor
  · intro u conn awaited
    have mapped := indexed.held k post posted n u conn awaited
    have before := balanced.once k post posted n u conn awaited
    have one := kept.once k post (posts.symm ▸ posted) n u conn awaited
    rw [queued_taken s next n k js rest waiting inbox k n, if_pos ⟨rfl, rfl⟩] at before
    rw [received_taken s next n k js receipts k n u conn mapped, if_pos ⟨rfl, rfl⟩] at one
    omega
  · refine (strangers_sends s n k js post posted).mp ?_
    intro receipt member
    exact kept.known receipt (receipts ▸ List.mem_append_right _ member)

/-- A message taken up where it reaches its addressees keeps the balance. -/
theorem balanced_of_reaches (balanced : Balanced s)
    (reaches : ∀ post, s.posts k = some post → Reaches s n js post) : Balanced next := by
  constructor
  · intro other post posted m u conn awaited
    have isPost : s.posts other = some post := posts ▸ posted
    have before := balanced.once other post isPost m u conn awaited
    have mapped := indexed.held other post isPost m u conn awaited
    rw [queued_taken s next n k js rest waiting inbox other m] at before
    by_cases own : k = other ∧ n = m
    · obtain ⟨rfl, rfl⟩ := own
      rw [if_pos ⟨rfl, rfl⟩] at before
      rw [received_taken s next n k js receipts k n u conn mapped, if_pos ⟨rfl, rfl⟩,
        (reaches post isPost).1 u conn awaited]
      omega
    · rw [if_neg (fun both => own ⟨both.1, both.2.symm⟩)] at before
      rw [received_elsewhere s next n k js receipts other m u own]
      exact before
  · intro receipt member
    rw [receipts] at member
    rcases List.mem_append.mp member with old | new
    · exact balanced.known receipt old
    · cases posted : s.posts k with
      | none => exact strangers_unposted s n k js posted receipt new
      | some post =>
        exact (strangers_sends s n k js post posted).mpr (reaches post posted).2 receipt new

end Taken

/-- Nothing is taken from an empty queue, or while the tasks are being processed. -/
theorem take_idle (s : State) (n : Nat) (faults : Faults)
    (idle : ¬ ∃ k js rest, s.inbox n = (k, js) :: rest ∧
      ((s.nodes n).subscriber.tasks = [] ∧ (s.nodes n).subscriber.executed = none)) :
    s.take n faults = s := by
  unfold State.take
  cases waiting : s.inbox n with
  | nil => rfl
  | cons entry rest =>
    simp only
    rw [if_pos]
    by_contra free
    simp only [not_or, not_not] at free
    exact idle ⟨entry.1, entry.2, rest, waiting, free⟩

/-- Taking a message up is sound. -/
theorem sound_take (s : State) (n : Nat) (faults : Faults) (indexed : Indexed s) :
    Sound s (.take n faults) := by
  by_cases ready : ∃ k js rest, s.inbox n = (k, js) :: rest ∧
      ((s.nodes n).subscriber.tasks = [] ∧ (s.nodes n).subscriber.executed = none)
  · obtain ⟨k, js, rest, waiting, between⟩ := ready
    obtain ⟨inbox, receipts, published, posts, connOf⟩ :=
      take_runs s n faults k js rest indexed waiting between
    have careful_iff : Careful s (.take n faults) ↔
        ∀ post, s.posts k = some post → Reaches s n js post := by
      constructor
      · intro careful
        exact careful between.1 between.2 k js rest waiting
      · intro reaches _ _ k' js' rest' waiting'
        rw [waiting, List.cons.injEq, Prod.mk.injEq] at waiting'
        obtain ⟨⟨rfl, rfl⟩, rfl⟩ := waiting'
        exact reaches
    rw [Sound, careful_iff]
    change Indexed (s.take n faults) ∧ (Balanced s → (Balanced (s.take n faults) ↔ _))
    refine ⟨?_, fun balanced => ⟨?_, ?_⟩⟩
    · exact indexed_taken s _ n k js rest waiting inbox receipts posts indexed published connOf
    · exact reaches_of_balanced s _ n k js rest waiting inbox receipts posts indexed balanced
    · exact balanced_of_reaches s _ n k js rest waiting inbox receipts posts indexed balanced
  · change Indexed (s.take n faults) ∧ (Balanced s → (Balanced (s.take n faults) ↔ _))
    rw [take_idle s n faults ready]
    refine ⟨indexed, fun balanced => iff_of_true balanced ?_⟩
    intro tasks executed k js rest waiting
    exact absurd ⟨k, js, rest, waiting, tasks, executed⟩ ready

/-- Every event is sound. -/
theorem sound_step (s : State) (event : Event) (indexed : Indexed s) : Sound s event := by
  cases event with
  | request kind n conn js faults => exact sound_request s kind n conn js faults indexed
  | take n faults => exact sound_take s n faults indexed
  | swap n =>
    have kept := sound_onSubscriber s n Subscriber.swap indexed
    exact ⟨kept.1, fun balanced => iff_of_true (kept.2 balanced) trivial⟩
  | command n fails =>
    have kept := sound_onSubscriber s n (Subscriber.command fails) indexed
    exact ⟨kept.1, fun balanced => iff_of_true (kept.2 balanced) trivial⟩
  | settle n =>
    have kept := sound_onSubscriber s n Subscriber.settle indexed
    exact ⟨kept.1, fun balanced => iff_of_true (kept.2 balanced) trivial⟩

/-- For every observed publication: no user still awaited has received it twice,
each has received it once the user's node has no copy left, and no user outside
the group has. -/
def Delivered (s : State) : Prop := ∀ k post, s.posts k = some post →
  (∀ m u conn, post.awaited m u = some conn → received s k m u ≤ 1 ∧
    ((∀ entry ∈ s.inbox m, entry.1 ≠ k) → received s k m u = 1)) ∧
  ∀ receipt ∈ s.receipts, receipt.publication = k → receipt.strangers = []

/-- The balance gives that every awaited user receives one copy. -/
theorem delivered_of_balanced (s : State) (balanced : Balanced s) : Delivered s := by
  intro k post posted
  refine ⟨?_, fun receipt member _ => balanced.known receipt member⟩
  intro m u conn awaited
  have one := balanced.once k post posted m u conn awaited
  refine ⟨by omega, ?_⟩
  intro noCopy
  have none : queued s k m = 0 := by
    rw [queued, List.countP_eq_zero]
    intro entry member
    simpa using noCopy entry member
  omega

section Runs

variable (nodes : Nat → Node) (database : Database) (redis : Redis) (events : List Event)

/-- Nothing is numbered at the beginning. -/
theorem indexed_begin : Indexed (begin nodes database redis) := by
  refine ⟨?_, ?_, ?_, ?_⟩
  · rintro k post ⟨⟩
  · rintro m entry ⟨⟩
  · rintro receipt ⟨⟩
  · rintro k post ⟨⟩

/-- In every run the state is balanced at every moment exactly when every event is
careful. -/
theorem balanced_iff_careful :
    Runs.Always step Balanced (begin nodes database redis) events ↔
      Runs.Guarded step Careful (begin nodes database redis) events := by
  refine Runs.always_iff_guarded step Balanced Indexed Careful
    (fun s event indexed => (sound_step s event indexed).1)
    (fun s event indexed balanced => (sound_step s event indexed).2 balanced) _ events
    (indexed_begin nodes database redis) ?_
  refine ⟨?_, ?_⟩
  · rintro k post ⟨⟩
  · rintro receipt ⟨⟩

/-- In every run whose events are careful, every message published for a group by
a member reaches the connection of every other member who is connected throughout
exactly once, and no connected user outside the group. -/
theorem delivered_once (careful : Runs.Guarded step Careful (begin nodes database redis) events) :
    Runs.Always step Delivered (begin nodes database redis) events :=
  Runs.always_mono step Balanced Delivered delivered_of_balanced _ events
    ((balanced_iff_careful nodes database redis events).mpr careful)

end Runs

/-- Group 1 with its members 1 and 2. -/
def club : Database :=
  { Database.empty with
    user := [⟨1, "ann", "a", "offline"⟩, ⟨2, "bob", "b", "offline"⟩]
    allGroup := [⟨1, "club", ""⟩]
    groupUser := [⟨1, 1, "creator"⟩, ⟨1, 2, "normal"⟩]
    nextUserId := 3
    nextGroupId := 2 }

/-- A message of user 1 to group 1. -/
def hello : Json :=
  .object [("groupid", .integer 1), ("id", .integer 1), ("msg", .string "hi"),
    ("msgid", .integer 10)]

/-- Node 0 connects, caches and is subscribed for both members. -/
def meeting (n : Nat) : Node :=
  if n = 0 then
    { Node.fresh "node-1" with
      userConnMap := ((∅ : AList (fun _ : Int => Conn)).insert 1 ⟨"c"⟩).insert 2 ⟨"d"⟩
      groupMembers := (∅ : AList (fun _ : Int => OrderedSet Int)).insert 1
        ((OrderedSet.empty.insert 1).insert 2)
      subscriber := { subGroupSet := OrderedSet.empty.insert 1
                      channels := OrderedSet.empty.insert 1 } }
  else Node.fresh "node-2"

/-- The users of the example and their connections. -/
theorem connOf_meeting (n : Nat) (u : Int) (conn : Conn)
    (mapped : (meeting n).connOf u = some conn) :
    n = 0 ∧ ((u = 1 ∧ conn = ⟨"c"⟩) ∨ (u = 2 ∧ conn = ⟨"d"⟩)) := by
  by_cases first : n = 0
  · subst first
    refine ⟨rfl, ?_⟩
    change (((∅ : AList (fun _ : Int => Conn)).insert 1 ⟨"c"⟩).insert 2 ⟨"d"⟩).lookup u =
      some conn at mapped
    by_cases second : u = 2
    · subst second
      rw [AList.lookup_insert] at mapped
      exact Or.inr ⟨rfl, (Option.some.inj mapped).symm⟩
    · rw [AList.lookup_insert_ne second] at mapped
      by_cases ann : u = 1
      · subst ann
        rw [AList.lookup_insert] at mapped
        exact Or.inl ⟨rfl, (Option.some.inj mapped).symm⟩
      · rw [AList.lookup_insert_ne ann] at mapped
        cases mapped
  · unfold meeting at mapped
    rw [if_neg first] at mapped
    cases mapped

/-- User 1 writes to the group, and node 0 takes the message. -/
def greeting : List Event := [.request .groupChat 0 ⟨"c"⟩ hello {}, .take 0 {}]

/-- The example's run is careful. -/
theorem careful_greeting :
    Runs.Guarded step Careful (begin meeting club Redis.empty) greeting := by
  refine ⟨?_, ?_, trivial⟩
  · intro _ sender groupid _ grouped _ _ m u conn _ _ mapped
    cases grouped
    obtain ⟨rfl, _⟩ := connOf_meeting m u conn mapped
    decide
  · intro _ _ k js rest waiting post posted
    cases waiting
    have indexed := (sound_step (begin meeting club Redis.empty)
      (.request .groupChat 0 ⟨"c"⟩ hello {}) (indexed_begin meeting club Redis.empty)).1
    refine ⟨?_, ?_⟩
    · intro u conn awaited
      have mapped : (meeting 0).connOf u = some conn :=
        indexed.held 0 post posted 0 u conn awaited
      obtain ⟨_, ⟨rfl, rfl⟩ | ⟨rfl, rfl⟩⟩ := connOf_meeting 0 u conn mapped
      · decide
      · decide
    · intro x _ conn _ y mapped
      cases posted
      obtain ⟨_, ⟨rfl, _⟩ | ⟨rfl, _⟩⟩ := connOf_meeting 0 y conn mapped
      · decide
      · decide

/-- The example's message is delivered once to each. -/
theorem delivered_once_greeting :
    Runs.Guarded step Careful (begin meeting club Redis.empty) greeting ∧
      Runs.Always step Delivered (begin meeting club Redis.empty) greeting :=
  ⟨careful_greeting, delivered_once meeting club Redis.empty greeting careful_greeting⟩

/-- Both members log in, their node subscribes, and user 1 writes to the group. -/
def evening : List Event :=
  [.request .login 0 ⟨"c"⟩ (loginRequest 1 "a") {}, .request .login 0 ⟨"d"⟩ (loginRequest 2 "b") {},
    .swap 0, .command 0 false, .settle 0, .command 0 false, .settle 0,
    .request .groupChat 0 ⟨"c"⟩ hello {}, .take 0 {}]

/-- User 2 is a connected member throughout and receives nothing. -/
theorem hello_reaches_nobody : ¬ ∀ database events, Runs.Always step Delivered
    (begin (fun _ => Node.fresh "node-1") database Redis.empty) events := by
  intro delivered
  have final := Runs.always_end step _ _ _ (delivered club evening)
  have observed : ((Runs.run step (begin (fun _ => Node.fresh "node-1") club Redis.empty)
      evening).posts 0).map (fun post => post.awaited 0 2) = some (some ⟨"d"⟩) := by
    decide +kernel
  obtain ⟨post, posted, awaited⟩ := Option.map_eq_some_iff.mp observed
  have one := ((final 0 post posted).1 0 2 ⟨"d"⟩ awaited).2 (by decide +kernel)
  exact absurd one (by decide +kernel)

end ClusterChat.GroupDelivery
