import ClusterChat.Registration

/-!
# The friend list of a login and its cache

A login that is let in looks for a friend list under `friends:u` in Redis. Only
when it finds none does it query the `Friend` table, put the list in the answer and
store it for an hour. A list it does find is parsed into a local vector, and the
answer is sent without it.

So the cache is not transparent. `transparent_iff_unlisted` says of every run which
logins answer with what `FriendModel::query` would return then: those that find no
list, because there is none or because Redis does not answer the lookup, and those
of users the query returns no friend for. `addFriend` changes the table and not the
cache, which does not show, since no cached list is ever sent.

A run begins anywhere and meets any faults; other requests, other nodes and time go
by in between. What a friend's text says beyond id and name is not compared.
-/

namespace ClusterChat.FriendCache

open ChatService NodeRuns Registration

/-- The texts are those of these users, in this order, each with some state. -/
def Listing (texts : List String) (friends : List User) : Prop :=
  List.Forall₂ (fun text user => ∃ online, text = (friendJson user online).dump) texts friends

/-- The friend list of a reply. -/
def listed (output : Output) : List String := (output.body.member "friends").strings

/-- A listing of no text is one of no friend. -/
theorem listing_empty (friends : List User) : Listing [] friends ↔ friends = [] :=
  List.forall₂_nil_left_iff

/-- The loop over the friends lists each of them. -/
theorem friendTexts_listing (users : List User) (w : World) : ∃ texts after,
    friendTexts users w = (.ok texts, after) ∧ Listing texts users := by
  induction users generalizing w with
  | nil => exact ⟨[], w, rfl, List.Forall₂.nil⟩
  | cons user rest inductionHypothesis =>
    obtain ⟨texts, after, ended, listing⟩ := inductionHypothesis
      { w with redis := (w.redis.run (RedisClient.isUserOnline user.id)).2 }
    refine ⟨(friendJson user (w.redis.run (RedisClient.isUserOnline user.id)).1).dump :: texts,
      after, ?_, List.Forall₂.cons ⟨_, rfl⟩ listing⟩
    rw [friendTexts, Effect.bind_ok _ _ _ _ _ (redis_run _ w), Effect.bind_ok _ _ _ _ _ ended]
    rfl

/-- The friends the answer gets: none if the lookup finds a list, else those of the
query. -/
theorem addFriendList_listing (id : Int) (answer : Json) (w : World)
    (unlisted : answer.member "friends" = .null) : ∃ extended after,
    addFriendList id answer w = (.ok extended, after) ∧
      Listing (extended.member "friends").strings
        (if (w.redis.run (RedisClient.get (.friends id))).1.isSome then []
          else (w.mysql.run (FriendModel.query id)).1) := by
  have none : Listing (answer.member "friends").strings [] := by
    rw [unlisted, Json.strings_null]
    exact List.Forall₂.nil
  rw [addFriendList, Effect.bind_ok _ _ _ _ _ (redis_run _ w)]
  cases cached : (w.redis.run (RedisClient.get (.friends id))).1 with
  | some text => exact ⟨answer, _, rfl, none⟩
  | none =>
    simp only
    rw [Effect.bind_ok _ _ _ _ _ (sql_run _ _)]
    by_cases friendless : (w.mysql.run (FriendModel.query id)).1.isEmpty = true
    · rw [if_pos friendless, List.isEmpty_iff.mp friendless]
      exact ⟨answer, _, rfl, none⟩
    · rw [if_neg friendless]
      obtain ⟨texts, after, ended, listing⟩ :=
        friendTexts_listing (w.mysql.run (FriendModel.query id)).1 { w with
          mysql := (w.mysql.run (FriendModel.query id)).2
          redis := (w.redis.run (RedisClient.get (.friends id))).2 }
      refine ⟨answer.set "friends" (Json.ofStrings texts), { after with
        redis := (after.redis.run (RedisClient.set (.friends id) (Json.ofStrings texts).dump
          (hours 1))).2 }, ?_, ?_⟩
      · rw [Effect.bind_ok _ _ _ _ _ ended]
        rfl
      · rw [Json.member_set, if_pos rfl, Json.strings_ofStrings]
        exact listing

/-- What the lookup of a login finds, and the friends it would query, once presence
is written. -/
theorem answerLogin_listing (conn : Conn) (id : Int) (userQuery : User) (w : World) :
    ∃ output, (answerLogin conn id userQuery w).2.sent = w.sent ++ [output] ∧
      Listing (listed output)
        (if ((w.redis.run (RedisClient.popOfflineMessages id)).2.run
            (RedisClient.get (.friends id))).1.isSome then []
          else (w.mysql.run (FriendModel.query id)).1) := by
  have begun : ∃ answer, answer.member "friends" = .null ∧ answerLogin conn id userQuery w =
      (do
        let answer ← addFriendList id answer
        let answer ← addGroupList id answer
        send conn answer : Handler Unit)
      { w with redis := (w.redis.run (RedisClient.popOfflineMessages id)).2 } := by
    rw [answerLogin, Effect.bind_ok _ _ _ _ _ (redis_run _ w)]
    refine ⟨_, ?_, rfl⟩
    split <;> simp [Json.member_set, response]
  obtain ⟨answer, unlisted, started⟩ := begun
  obtain ⟨friends, mysql, m, ended, _, _, _⟩ := addFriendList_runs id answer
    { w with redis := (w.redis.run (RedisClient.popOfflineMessages id)).2 }
  obtain ⟨friends', after, endedToo, listing⟩ := addFriendList_listing id answer
    { w with redis := (w.redis.run (RedisClient.popOfflineMessages id)).2 } unlisted
  rw [ended] at endedToo
  cases endedToo
  obtain ⟨extended, groups, mysqlGroups, left, endedGroups, _, _, _, addedGroups⟩ :=
    addGroupList_runs id friends { w with mysql := mysql, redis := m }
  refine ⟨⟨conn, extended, false⟩, ?_, ?_⟩
  · rw [started, Effect.bind_ok _ _ _ _ _ ended, Effect.bind_ok _ _ _ _ _ endedGroups]
    rfl
  · rw [listed, member_extended friends extended "groups" "friends" (by decide) addedGroups]
    exact listing

/-- Redis as a login that is let in finds it when it looks for the friend list:
after the presence read, the node of the record, the presence write and the offline
messages. -/
def atLookup (conn : Conn) (id : Int) (w : World) : RedisAccess :=
  let read := (w.redis.run (RedisClient.isUserOnline id)).2
  let named := (read.run (RedisClient.getUserNode id)).2
  let written := (named.run (RedisClient.setUserOnline w.node.localNodeId id conn.name)).2
  (written.run (RedisClient.popOfflineMessages id)).2

/-- What `FriendModel::query` returns once the account has been queried. -/
def queried (id : Int) (w : World) : List User :=
  ((w.mysql.run (UserModel.query id)).2.run (FriendModel.query id)).1

/-- A list is stored for the user, and Redis answers the lookup. -/
def Hit (conn : Conn) (id : Int) (w : World) : Prop :=
  (w.redis.store.entries (.friends id)).string.isSome = true ∧ (atLookup conn id w).answers = true

instance (conn : Conn) (id : Int) (w : World) : Decidable (Hit conn id w) :=
  inferInstanceAs (Decidable (_ ∧ _))

/-- A lookup finds what is stored if it is answered. -/
theorem get_run (key : Key) (m : RedisAccess) : (m.run (RedisClient.get key)).1 =
    if m.answers then (m.store.entries key).string else none :=
  (RedisClient.single_runs key .get none m).1

/-- Nothing a login does before the lookup touches the stored list. -/
theorem hit_iff (conn : Conn) (id : Int) (w : World) : Hit conn id w ↔
    ((atLookup conn id w).run (RedisClient.get (.friends id))).1.isSome = true := by
  have read := RedisAccess.kept_run _ _ (RedisClient.isUserOnline_writes id) w.redis
  have named := RedisAccess.kept_run _ _ (RedisClient.getUserNode_writes id)
    (w.redis.run (RedisClient.isUserOnline id)).2
  have written := RedisAccess.kept_run _ _
    (RedisClient.setUserOnline_writes w.node.localNodeId id conn.name)
    ((w.redis.run (RedisClient.isUserOnline id)).2.run (RedisClient.getUserNode id)).2
  have popped := RedisAccess.kept_run _ _ (RedisClient.popOfflineMessages_writes id)
    (((w.redis.run (RedisClient.isUserOnline id)).2.run (RedisClient.getUserNode id)).2.run
      (RedisClient.setUserOnline w.node.localNodeId id conn.name)).2
  have same : (atLookup conn id w).store.entries (.friends id) =
      w.redis.store.entries (.friends id) := by
    rw [atLookup, popped.entries _ (by simp), written.entries _ (by simp),
      named.entries _ not_false, read.entries _ not_false]
  rw [get_run, Hit, same]
  cases (atLookup conn id w).answers <;> simp

/-- The friends in the reply of a login that is let in. -/
theorem login_listing (conn : Conn) (js : Json) (id : Int) (pwd : String) (w : World)
    (named : js.int "id" = .ok id) (given : js.str "password" = .ok pwd)
    (account : Matches w id pwd) (absent : ¬ SeenOnline w id) : ∃ output,
    (login conn js w).2.sent = w.sent ++ [output] ∧
      Listing (listed output) (if Hit conn id w then [] else queried id w) := by
  have accepted := login_run conn js id pwd w named given
  rw [if_pos account, if_neg absent] at accepted
  obtain ⟨output, sent, listing⟩ := answerLogin_listing conn id
    (w.mysql.run (UserModel.query id)).1
    { w with
      node := w.node.record id conn
      mysql := (w.mysql.run (UserModel.query id)).2
      redis := (((w.redis.run (RedisClient.isUserOnline id)).2.run
        (RedisClient.getUserNode id)).2.run
        (RedisClient.setUserOnline (w.node.record id conn).localNodeId id conn.name)).2 }
  refine ⟨output, ?_, ?_⟩
  · rw [accepted]
    exact sent
  · have home : (w.node.record id conn).localNodeId = w.node.localNodeId := by
      unfold Node.record
      split <;> rfl
    rw [home] at listing
    have shown : Listing (listed output) (if ((atLookup conn id w).run
        (RedisClient.get (.friends id))).1.isSome = true then [] else queried id w) := listing
    by_cases hit : Hit conn id w
    · rw [if_pos hit]
      rw [if_pos ((hit_iff conn id w).mp hit)] at shown
      exact shown
    · rw [if_neg hit]
      rw [if_neg (hit ∘ (hit_iff conn id w).mpr)] at shown
      exact shown

/-!
## Runs
-/

/-- A login that is let in answers with the friends the query would return. -/
def Transparent (w : World) : NodeRuns.Event → Prop
  | .request .login conn js faults => ∀ id, js.int "id" = .ok id →
      ∀ output ∈ replies w (NodeRuns.step w (.request .login conn js faults)),
        output.errno = some 0 → Listing (listed output) (queried id (w.meet faults))
  | _ => True

/-- A login that is let in finds no list, or has no friend to find. -/
def Unlisted (w : World) : NodeRuns.Event → Prop
  | .request .login conn js faults => ∀ id pwd, js.int "id" = .ok id →
      js.str "password" = .ok pwd → Matches (w.meet faults) id pwd →
      ¬ SeenOnline (w.meet faults) id →
        ¬ Hit conn id (w.meet faults) ∨ queried id (w.meet faults) = []
  | _ => True

/-- Only a login that is let in is answered with errno 0. -/
theorem transparent_login_iff (w : World) (conn : Conn) (js : Json) (faults : Faults) :
    Transparent w (.request .login conn js faults) ↔
      Unlisted w (.request .login conn js faults) := by
  have step : NodeRuns.step w (.request .login conn js faults) =
      (login conn js (w.meet faults)).2 := rfl
  rw [Transparent, Unlisted, step]
  obtain ⟨result, ended, ends⟩ := login_ends conn js (w.meet faults)
  cases ends with
  | malformed escape unread =>
    refine iff_of_true ?_ (fun id pwd named given => absurd given (unread id pwd named))
    intro id named output sent
    rw [ended, replies_append w (w.meet faults) [] (List.append_nil _).symm] at sent
    exact absurd sent List.not_mem_nil
  | refused id pwd output mysql m named given seen rejected tables entries =>
    refine iff_of_true ?_ ?_
    · intro other _ reply sent welcomed
      rw [ended, replies_append w _ [output] rfl, List.mem_singleton] at sent
      exact absurd (sent ▸ welcomed) rejected
    · intro other pwd' namedToo givenToo account absent
      rw [named] at namedToo
      rw [given] at givenToo
      cases namedToo
      cases givenToo
      exact absurd (seen account) absent
  | admitted id pwd output groups after named given account absent letIn =>
    obtain ⟨reply, sent, listing⟩ :=
      login_listing conn js id pwd (w.meet faults) named given account absent
    have isReply : output = reply := by
      rw [ended, letIn.sent] at sent
      simpa using sent
    subst isReply
    have only : replies w after = [output] := replies_append w after [output] letIn.sent
    rw [ended]
    simp only [only, List.mem_singleton, forall_eq]
    have asked : (∀ other pwd', js.int "id" = .ok other → js.str "password" = .ok pwd' →
        Matches (w.meet faults) other pwd' → ¬ SeenOnline (w.meet faults) other →
          ¬ Hit conn other (w.meet faults) ∨ queried other (w.meet faults) = []) ↔
        (¬ Hit conn id (w.meet faults) ∨ queried id (w.meet faults) = []) := by
      rw [Json.forall_given named given]
      exact ⟨fun permitted => permitted account absent, fun permitted _ _ => permitted⟩
    rw [asked]
    constructor
    · intro transparent
      by_cases hit : Hit conn id (w.meet faults)
      · rw [if_pos hit] at listing
        have same := transparent id named letIn.errno
        rw [List.forall₂_nil_right_iff.mp listing, listing_empty] at same
        exact Or.inr same
      · exact Or.inl hit
    · intro permitted other namedToo _
      rw [named] at namedToo
      cases namedToo
      by_cases hit : Hit conn id (w.meet faults)
      · rw [if_pos hit] at listing
        rw [permitted.resolve_left (not_not.mpr hit)]
        exact listing
      · rw [if_neg hit] at listing
        exact listing

/-- The events other than logins are not asked anything. -/
theorem transparent_event_iff (w : World) (event : NodeRuns.Event) :
    Transparent w event ↔ Unlisted w event := by
  cases event with
  | request request conn js faults =>
    cases request with
    | login => exact transparent_login_iff w conn js faults
    | _ => exact Iff.rfl
  | _ => exact Iff.rfl

/-- In every run the logins that are let in answer with what the query would return
if and only if each finds no cached list or has no friend. -/
theorem transparent_iff_unlisted (w : World) (events : List NodeRuns.Event) :
    Runs.Guarded NodeRuns.step Transparent w events ↔
      Runs.Guarded NodeRuns.step Unlisted w events :=
  Runs.guarded_iff NodeRuns.step (fun _ => True) Transparent Unlisted
    (fun w event _ => transparent_event_iff w event) (fun _ _ _ _ => trivial) w events trivial

/-- Two accounts, the first with the second as a friend. -/
def befriended : Database :=
  { Database.empty with
    user := [⟨1, "a", "a", "offline"⟩, ⟨2, "b", "b", "offline"⟩]
    friend := [⟨1, 2⟩]
    nextUserId := 3 }

/-- The second login of a user within the hour, when the presence record is gone, is
answered without the friend. -/
theorem transparent_again : ¬ ∀ w events, Runs.Guarded NodeRuns.step Transparent w events := by
  intro transparent
  have run := transparent (World.start "node-1" befriended Redis.empty)
    [.request .login ⟨"c"⟩ (loginRequest 1 "a") {}, .pass 120000,
      .request .login ⟨"d"⟩ (loginRequest 1 "a") {}]
  have again := (transparent_event_iff _ _).mp run.2.2.1
  have second := again 1 "a" (by decide) (by decide) (by decide) (by decide)
  exact absurd second (by decide)

end ClusterChat.FriendCache
