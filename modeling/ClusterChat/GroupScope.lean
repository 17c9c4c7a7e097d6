import ClusterChat.NodeRuns

/-!
# Whom a group message reaches

`groupChat` publishes the request as the client wrote it. The callback that takes a
published object decides by its fields what it is: one with a `to` field is a
message for a single user, and only one without is looked up in the member sets.
Nothing between the two removes a `to` field from a group message.

A published message stays in its group when the callback sends it only on
connections of cached members of the group and stores it for nobody. `scoped_iff`
is exact for each published object and each node: the object has no `to` field that
reads as an id, or the user it names is connected there on a connection of a
member. The database and Redis are those the node meets; an object that leaves its
group does so over some of them, for instance where the pool is exhausted and the
offline list is reached.

The theorem speaks of one callback on one node. Which nodes receive the object is
the concern of the subscriptions.
-/

namespace ClusterChat.GroupScope

open ChatService NodeRuns

/-- `groupChat` publishes the object on the channel of the group. -/
def Published (js : Json) (groupid : Int) : Prop := ∃ conn w,
  (groupChat conn js w).2.redis.store.published =
    w.redis.store.published ++ [(.group groupid, js)]

/-- The object is accepted when it has a text to send, a sender and a group, and a
connection to Redis is all it takes then. -/
theorem published_iff (js : Json) (groupid : Int) : Published js groupid ↔
    emptyMessage js = .ok false ∧ (∃ userid, js.int "id" = .ok userid) ∧
      js.int "groupid" = .ok groupid := by
  constructor
  · rintro ⟨conn, w, published⟩
    rcases groupChat_ends conn js w with
      ⟨outcome, ended⟩ | ⟨userid, other, mysql, spoken, named, grouped, ended, _⟩
    · rw [ended] at published
      have lengths := congrArg List.length published
      simp at lengths
    · rw [ended] at published
      simp only [RedisClient.publishGroupMessage_runs] at published
      split at published
      · have same := List.append_cancel_left published
        simp only [List.cons.injEq, Prod.mk.injEq, Channel.group.injEq, and_true] at same
        exact ⟨spoken, ⟨userid, named⟩, same ▸ grouped⟩
      · have lengths := congrArg List.length published
        simp at lengths
  · rintro ⟨spoken, ⟨userid, named⟩, grouped⟩
    let w := World.start "node-1" Database.empty Redis.empty
    obtain ⟨mysql, ended, _⟩ := groupChat_runs ⟨"c"⟩ js userid groupid w spoken named grouped
    refine ⟨⟨"c"⟩, w, ?_⟩
    rw [ended]
    exact RedisClient.publishGroupMessage_runs groupid js w.redis

/-- The callback sends only on connections of cached members of the group, and
stores nothing for anyone. -/
structure Scoped (groupid : Int) (js : Json) (w : World) : Prop where
  sent : ∀ output ∈ replies w (inboxCallback js w).2,
    ∃ member ∈ w.node.members groupid, w.node.connOf member = some output.conn
  rows : (inboxCallback js w).2.mysql.database.offlineMessage =
    w.mysql.database.offlineMessage
  lists : ∀ id, (inboxCallback js w).2.redis.store.waiting id = w.redis.store.waiting id

/-- The node has the user on a connection which a cached member of the group is on. -/
def Shared (node : Node) (groupid toId : Int) : Prop :=
  ∃ conn, node.connOf toId = some conn ∧
    ∃ member ∈ node.members groupid, node.connOf member = some conn

/-- A step that only sends these is scoped when their connections are members'. -/
theorem scoped_sends (groupid : Int) (js : Json) (w : World) (outcome : Except Escape Unit)
    (outputs : List Output)
    (ended : inboxCallback js w = (outcome, { w with sent := w.sent ++ outputs }))
    (members : ∀ output ∈ outputs,
      ∃ member ∈ w.node.members groupid, w.node.connOf member = some output.conn) :
    Scoped groupid js w := by
  refine ⟨?_, ?_, ?_⟩
  · rw [ended, replies_append w _ outputs rfl]
    exact members
  · rw [ended]
  · rw [ended]
    exact fun _ => rfl

/-- A copy goes to the connection of one of the users. -/
theorem mem_copies (js : Json) (node : Node) (users : List Int) (output : Output)
    (copied : output ∈ copies js node users) :
    ∃ uid ∈ users, node.connOf uid = some output.conn := by
  obtain ⟨uid, listed, sent⟩ := List.mem_filterMap.mp copied
  obtain ⟨conn, found, rfl⟩ := Option.map_eq_some_iff.mp sent
  exact ⟨uid, listed, found⟩

/-- Without a recipient that reads as an id, the callback only sends, and only to
the members of the group. -/
theorem inboxCallback_grouped (groupid : Int) (js : Json) (w : World)
    (grouped : js.int "groupid" = .ok groupid)
    (unaddressed : ∀ toId, js.contains "to" = true → js.int "to" ≠ .ok toId) :
    ∃ outcome users, inboxCallback js w =
        (outcome, { w with sent := w.sent ++ copies js w.node users }) ∧
      ∀ uid ∈ users, uid ∈ w.node.members groupid := by
  have unchanged : w = { w with sent := w.sent ++ copies js w.node [] } := by
    rw [copies, List.filterMap_nil, List.append_nil]
  rw [inboxCallback]
  by_cases single : js.contains "to" = true
  · rw [if_pos single]
    cases named : js.int "to" with
    | error exception =>
      exact ⟨_, [], congrArg (Prod.mk _) unchanged, fun _ none => absurd none List.not_mem_nil⟩
    | ok toId => exact absurd named (unaddressed toId single)
  · rw [if_neg single]
    by_cases present : js.contains "groupid" = true
    · rw [if_pos present, grouped]
      simp only [convert_ok_bind]
      rw [Effect.bind_ok _ _ _ _ _ (currentNode_run w), Node.members]
      cases w.node.groupMembers.lookup groupid with
      | none =>
        exact ⟨_, [], congrArg (Prod.mk _) unchanged, fun _ none => absurd none List.not_mem_nil⟩
      | some members =>
        exact ⟨_, members.elements, fanOut_runs js members.elements w, fun _ => id⟩
    · rw [if_neg present]
      exact ⟨_, [], congrArg (Prod.mk _) unchanged, fun _ none => absurd none List.not_mem_nil⟩

/-- A recipient who is connected here is sent the object. -/
theorem inboxCallback_connected (js : Json) (toId : Int) (conn : Conn) (w : World)
    (single : js.contains "to" = true) (named : js.int "to" = .ok toId)
    (found : w.node.connOf toId = some conn) :
    inboxCallback js w = (.ok (), { w with sent := w.sent ++ [⟨conn, js, true⟩] }) := by
  rw [inboxCallback, if_pos single, named]
  simp only [convert_ok_bind]
  rw [Effect.bind_ok _ _ _ _ _ (currentNode_run w), found]
  rfl

/-- A Redis that answers and a pool that has no connection for three attempts. -/
def exhausted (node : Node) : World :=
  ⟨node, ⟨Database.empty, [none, none, none], []⟩, RedisAccess.reliable Redis.empty, []⟩

/-- A recipient who is not connected here is left the object on the offline list. -/
theorem inboxCallback_absent (js : Json) (toId : Int) (node : Node)
    (single : js.contains "to" = true) (named : js.int "to" = .ok toId)
    (missing : node.connOf toId = none) :
    (inboxCallback js (exhausted node)).2.redis.store.waiting toId = [js.dump] := by
  rw [inboxCallback, if_pos single, named]
  simp only [convert_ok_bind]
  rw [Effect.bind_ok _ _ _ _ _ (currentNode_run (exhausted node))]
  have absent : (exhausted node).node.connOf toId = none := missing
  rw [absent]
  have stored : ∃ left, insertOffline toId js.dump (exhausted node) = (.ok false, left) ∧
      left.redis = RedisAccess.reliable Redis.empty := ⟨_, rfl, rfl⟩
  obtain ⟨left, inserted, untouched⟩ := stored
  refine (congrArg (fun ended : Except Escape Unit × World => ended.2.redis.store.waiting toId)
    (Effect.bind_ok _ _ _ _ _ inserted)).trans ?_
  change (left.redis.run (RedisClient.pushOfflineMessage toId js)).2.store.waiting toId = _
  rw [untouched]
  have pushed : ((RedisAccess.reliable Redis.empty).run
      (RedisClient.pushOfflineMessage toId js)).2.store =
      (Redis.empty.execute (.offline toId) (.lpush js.dump)).2 := rfl
  rw [pushed]
  simp [Redis.waiting, Redis.execute, KeyCommand.execute, Redis.empty]

/-- A published object stays in its group on a node, whatever database and Redis the
node meets, exactly when it has no `to` field that reads as an id, or the user named
there is connected on the node on a connection of a cached member. -/
theorem scoped_iff (js : Json) (groupid : Int) (node : Node) (published : Published js groupid) :
    (∀ mysql redis sent, Scoped groupid js ⟨node, mysql, redis, sent⟩) ↔
      ∀ toId, js.contains "to" = true → js.int "to" = .ok toId → Shared node groupid toId := by
  have grouped := ((published_iff js groupid).mp published).2.2
  constructor
  · intro inside toId single named
    have here : Scoped groupid js (exhausted node) := inside _ _ _
    cases found : node.connOf toId with
    | none =>
      have stored := inboxCallback_absent js toId node single named found
      have kept := here.lists toId
      rw [stored] at kept
      cases kept
    | some conn =>
      have ended := inboxCallback_connected js toId conn (exhausted node) single named found
      obtain ⟨member, listed, same⟩ := here.sent ⟨conn, js, true⟩ (by
        rw [ended, replies_append (exhausted node) _ [⟨conn, js, true⟩] rfl]
        exact List.mem_singleton_self _)
      exact ⟨conn, found, member, listed, same⟩
  · intro shared mysql redis sent
    by_cases addressed : ∃ toId, js.contains "to" = true ∧ js.int "to" = .ok toId
    · obtain ⟨toId, single, named⟩ := addressed
      obtain ⟨conn, found, member, listed, same⟩ := shared toId single named
      refine scoped_sends groupid js _ _ _
        (inboxCallback_connected js toId conn ⟨node, mysql, redis, sent⟩ single named found) ?_
      intro output only
      rw [List.mem_singleton.mp only]
      exact ⟨member, listed, same⟩
    · have unaddressed : ∀ toId, js.contains "to" = true → js.int "to" ≠ .ok toId :=
        fun toId single named => addressed ⟨toId, single, named⟩
      obtain ⟨outcome, users, ended, members⟩ :=
        inboxCallback_grouped groupid js ⟨node, mysql, redis, sent⟩ grouped unaddressed
      refine scoped_sends groupid js _ _ _ ended ?_
      intro output copied
      obtain ⟨uid, user, found⟩ := mem_copies js node users output copied
      exact ⟨uid, members uid user, found⟩

/-- A message to group 5 that also names user 9. -/
def forwarded : Json := .object [("groupid", .integer 5), ("id", .integer 7),
  ("msg", .string "hello"), ("to", .integer 9)]

/-- A node that receives group 5, of which it knows no member. -/
def subscribed : Node :=
  { Node.fresh "node-1" with subscriber := { channels := (∅ : OrderedSet Int).insert 5 } }

/-- Without the field the message stays in the group on that node. -/
theorem scoped_iff_plain :
    Scoped 5 (.object [("groupid", .integer 5), ("id", .integer 7), ("msg", .string "hello")])
      (exhausted subscribed) :=
  (scoped_iff _ 5 subscribed ((published_iff _ 5).mpr ⟨by decide, ⟨7, by decide⟩, by decide⟩)).mpr
    (fun _ single => absurd single (by decide)) _ _ _

/-- The message that names user 9 is stored for that user. -/
theorem scoped_forwarded : ¬ ∀ (js : Json) (groupid : Int), Published js groupid →
    ∀ w : World, groupid ∈ w.node.subscriber.channels → Scoped groupid js w := by
  intro inside
  have published : Published forwarded 5 :=
    (published_iff forwarded 5).mpr ⟨by decide, ⟨7, by decide⟩, by decide⟩
  have kept := (inside forwarded 5 published (exhausted subscribed) (by decide)).lists 9
  rw [inboxCallback_absent forwarded 9 subscribed (by decide) (by decide) (by decide)] at kept
  cases kept

end ClusterChat.GroupScope
