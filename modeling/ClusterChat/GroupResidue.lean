import ClusterChat.GroupRows
import ClusterChat.TableMoves

/-!
# What a failed group request leaves behind

`createGroup` and `joinGroup` of the model return nothing, and the handlers do not ask
whether a row was inserted. They enter the user into the member cache, into the set of
the group in Redis and into the queue of subscriptions whatever came of the insertion.
A failed creation does all this for the group -1.

`traceless_iff` says for every state which requests leave nothing behind: those whose row
is there afterwards, and those that find everything already as they would leave it.
The first of these is what keeps the cache behind the table: `backed_iff_lands` states
for whole runs, with every handler of the node, other nodes writing the database and
Redis in between, that each cached member has a row exactly as long as the rows of all
group requests are there afterwards.

Database and Redis fail in any way. The keys of the schema are assumed, and that the
nodes write the database through the statements of the server.
-/

namespace ClusterChat.GroupResidue

open ChatService GroupRows TableMoves

/-!
## Runs
-/

/-- What can happen to a node and to what it shares: a request, the closing of a
connection, a published message, a move of the subscriber thread, a statement or a
change of Redis by another node, and time. -/
inductive Event where
  | request (request : Request) (conn : Conn) (js : Json) (faults : Faults)
  | disconnect (hint : Int) (conn : Conn) (faults : Faults)
  | inbox (js : Json) (faults : Faults)
  | listen (subscriber : Subscriber)
  | statement (connection : Connection) (statement : Update)
  | redis (store : Redis)
  | pass (duration : Nat)

/-- The event as the node sees it. A statement is applied to the tables as they are. -/
def seen (w : World) : Event → NodeRuns.Event
  | .request request conn js faults => .request request conn js faults
  | .disconnect hint conn faults => .disconnect hint conn faults
  | .inbox js faults => .inbox js faults
  | .listen subscriber => .listen subscriber
  | .statement connection statement =>
      .surroundings (w.mysql.database.apply connection statement) w.redis.store
  | .redis store => .surroundings w.mysql.database store
  | .pass duration => .pass duration

/-- The world after the event. -/
def step (w : World) (event : Event) : World := NodeRuns.step w (seen w event)

/-- Every cached member of a group has its row. -/
def Backed (w : World) : Prop :=
  ∀ groupid id, id ∈ w.node.members groupid → w.mysql.database.hasMember groupid id = true

/-- The member cache, the sets of the groups in Redis and the pending subscription tasks
are as before. -/
structure SameGroups (before after : World) : Prop where
  members : ∀ groupid, after.node.groupMembers.lookup groupid =
    before.node.groupMembers.lookup groupid
  sets : ∀ groupid, after.redis.store.entries (.groupMembers groupid) =
    before.redis.store.entries (.groupMembers groupid)
  tasks : after.node.subscriber.subTasks = before.node.subscriber.subTasks

/-- A group request that inserts no member leaves nothing behind, unless it was to insert
a row that was there. A group that is being created has no such row. -/
def Traceless (w : World) (event : Event) : Prop :=
  (step w event).mysql.database.groupUser = w.mysql.database.groupUser →
  match event with
  | .request .createGroup _ _ _ => SameGroups w (step w event)
  | .request .joinGroup _ js _ =>
      (∃ userid groupid, js.int "id" = .ok userid ∧ js.int "groupid" = .ok groupid ∧
        w.mysql.database.hasMember groupid userid = true) ∨ SameGroups w (step w event)
  | _ => True

/-- The row a group request is about is there afterwards. -/
def Lands (w : World) : Event → Prop
  | .request .createGroup _ js faults => ∀ userid groupname groupdesc,
      js.int "id" = .ok userid → js.str "groupname" = .ok groupname →
      js.str "groupdesc" = .ok groupdesc →
      Founds (w.meet faults).mysql groupname groupdesc ∧ Completes (w.meet faults).mysql userid
  | .request .joinGroup _ js faults => ∀ userid groupid,
      js.int "id" = .ok userid → js.int "groupid" = .ok groupid →
      w.mysql.database.hasMember groupid userid = true ∨
        Enrols (w.meet faults).mysql groupid userid
  | _ => True

/-- What the end of a group request writes is there already, or cannot be written. -/
structure Settled (w : World) (groupid userid : Int) : Prop where
  member : userid ∈ w.node.members groupid
  subscribed : groupid ∈ w.node.subscriber.subGroupSet
  listed : w.redis.answers = true →
    toString userid ∈ (w.redis.store.entries (.groupMembers groupid)).set
  timed : (w.redis.run
      (RedisClient.sadd (.groupMembers groupid) (toString userid))).2.answers = true →
    (w.redis.store.entries (.groupMembers groupid)).vacant = true ∨
      (w.redis.store.entries (.groupMembers groupid)).deadline =
        some (w.redis.store.now + hours 1)

/-- A group request finds its user entered into the group it goes on with. -/
def Repeats (w : World) : Event → Prop
  | .request .createGroup _ js faults => ∀ userid groupname groupdesc,
      js.int "id" = .ok userid → js.str "groupname" = .ok groupname →
      js.str "groupdesc" = .ok groupdesc →
      Settled (w.meet faults) (assigned (w.meet faults).mysql groupname groupdesc) userid
  | .request .joinGroup _ js faults => ∀ userid groupid,
      js.int "id" = .ok userid → js.int "groupid" = .ok groupid →
      Settled (w.meet faults) groupid userid
  | _ => True

/-!
## Handlers that enter nobody
-/

/-- The cached members were cached before, or have their rows. -/
def Loaded (before after : World) : Prop := ∀ groupid id, id ∈ after.node.members groupid →
  id ∈ before.node.members groupid ∨ before.mysql.database.hasMember groupid id = true

/-- Where the member cache is the same, nobody was added to it. -/
theorem loaded_same (before after : World)
    (same : after.node.groupMembers = before.node.groupMembers) : Loaded before after := by
  intro groupid id member
  rw [Node.members, same] at member
  exact Or.inl member

/-- A user who leaves a node adds nobody to the cache. -/
theorem loaded_leave (w after : World) (id : Int) (node : after.node = leave id w.node) :
    Loaded w after := by
  intro groupid member cached
  rw [node] at cached
  exact Or.inl ((Node.mem_leaveGroups (w.node.forget id) groupid id member).mp cached).2

/-- A login caches nobody without a row. -/
theorem loaded_login (conn : Conn) (js : Json) (w : World) :
    Loaded w (login conn js w).2 := by
  obtain ⟨result, ended, ends⟩ := login_ends conn js w
  rw [ended]
  cases ends with
  | malformed escape unread => exact loaded_same w w rfl
  | refused id pwd output mysql m named given seen rejected tables entries =>
    exact loaded_same w _ rfl
  | admitted id pwd output groups after named given account absent letIn =>
    intro groupid member cached
    have entered := (enterGroups_memberless id groups (w.node.record id conn) letIn.found.1).2.1
    rw [letIn.node, entered groupid, Node.members, Node.groupMembers_record] at cached
    exact Or.inl cached

/-- A message to a group without an entry loads members the table lists. -/
theorem loaded_groupChat (conn : Conn) (js : Json) (w : World) :
    Loaded w (groupChat conn js w).2 := by
  rcases groupChat_ends conn js w with
    ⟨outcome, ended⟩ | ⟨userid, groupid, mysql, _, _, _, ended, _⟩
  · rw [ended]
    exact loaded_same w w rfl
  · rw [ended]
    by_cases cached : w.node.Cached groupid
    · rw [if_pos cached]
      exact loaded_same w _ rfl
    · rw [if_neg cached]
      intro other id member
      rcases (Node.mem_addMembers _ groupid other id w.node).mp member with ⟨rfl, loaded⟩ | old
      · exact Or.inr (GroupModel.queryGroupUsers_members w.mysql userid other id loaded)
      · exact Or.inl old

/-- A logout caches nobody. -/
theorem loaded_loginOut (conn : Conn) (js : Json) (w : World) :
    Loaded w (loginOut conn js w).2 := by
  rcases loginOut_ends conn js w with ⟨outcome, ended⟩ | ⟨id, m, _, ended, _⟩
  · rw [ended]
    exact loaded_same w w rfl
  · rw [ended]
    exact loaded_leave w _ id rfl

/-- Nor does a closed connection. -/
theorem loaded_clientQuit (hint : Int) (conn : Conn) (w : World) :
    Loaded w (clientQuitEcption hint conn w).2 := by
  rcases clientQuit_ends conn hint w with ended | ended | ⟨id, m, ended, _⟩
  · rw [ended]
    exact loaded_same w w rfl
  · rw [ended]
    exact loaded_same w _ rfl
  · rw [ended]
    exact loaded_leave w _ id rfl

/-- Nor does any request but a creation and a join. -/
theorem loaded_request (request : Request) (conn : Conn) (js : Json) (w : World)
    (notCreate : request ≠ .createGroup) (notJoin : request ≠ .joinGroup) :
    Loaded w (request.handler conn js w).2 := by
  cases request with
  | login => exact loaded_login conn js w
  | loginOut => exact loaded_loginOut conn js w
  | reg =>
    have ends := reg_ends conn js w
    change Loaded w (reg conn js w).2
    generalize reg conn js w = result at ends ⊢
    cases ends <;> exact loaded_same w _ rfl
  | oneChat =>
    have ends := oneChat_ends conn js w
    change Loaded w (oneChat conn js w).2
    generalize oneChat conn js w = result at ends ⊢
    cases ends <;> exact loaded_same w _ rfl
  | addFriend =>
    change Loaded w (addFriend conn js w).2
    rcases addFriend_ends conn js w with ⟨outcome, ended⟩ | ⟨userid, friendid, _, _, ended⟩ <;>
      rw [ended] <;> exact loaded_same w _ rfl
  | createGroup => exact absurd rfl notCreate
  | joinGroup => exact absurd rfl notJoin
  | groupChat => exact loaded_groupChat conn js w

/-- A step that loads nobody without a row, over tables that lose none, leaves every
cached member its row. -/
theorem backed_loaded (w after : World) (backed : Backed w) (loaded : Loaded w after)
    (tables : Enlarged w.mysql.database after.mysql.database) : Backed after := by
  intro groupid id member
  rcases loaded groupid id member with old | row
  · exact tables.members groupid id (backed groupid id old)
  · exact tables.members groupid id row

/-- Every event keeps the rows and the keys of the tables. -/
theorem enlarged_step (w : World) (event : Event) :
    Enlarged w.mysql.database (step w event).mysql.database := by
  cases event with
  | request request conn js faults =>
    exact moved_request Enlarged enlarged_update request conn js (w.meet faults)
  | disconnect hint conn faults =>
    have same := kept_clientQuit hint conn (w.meet faults)
    change Enlarged w.mysql.database
      (clientQuitEcption hint conn (w.meet faults)).2.mysql.database
    rw [same]
    exact refl_of Enlarged w.mysql.database
  | inbox js faults => exact moved_inbox Enlarged enlarged_update js (w.meet faults)
  | listen subscriber => exact refl_of Enlarged w.mysql.database
  | statement connection statement => exact enlarged_apply w.mysql.database connection statement
  | redis store => exact refl_of Enlarged w.mysql.database
  | pass duration => exact refl_of Enlarged w.mysql.database

/-!
## What a group request writes
-/

/-- The entry of a group after the two commands of a membership request, those that are
answered. -/
def written (listing timing : Bool) (now : Nat) (member : String) (entry : Entry) : Entry :=
  let listed := if listing then ((KeyCommand.sadd member).execute now entry).2 else entry
  if timing then ((KeyCommand.expire (hours 1)).execute now listed).2 else listed

/-- The commands leave the entry when each is not answered or repeats what is there. -/
theorem written_iff (listing timing : Bool) (now : Nat) (member : String) (entry : Entry) :
    written listing timing now member entry = entry ↔
      (listing = true → member ∈ entry.set) ∧
        (timing = true → entry.vacant = true ∨ entry.deadline = some (now + hours 1)) := by
  unfold written
  by_cases listed : listing = true → member ∈ entry.set
  · have same : (if listing then ((KeyCommand.sadd member).execute now entry).2 else entry) =
        entry := by
      split
      · rename_i answered
        simp only [KeyCommand.execute, if_pos (listed answered)]
      · rfl
    simp only [same]
    rw [and_iff_right listed]
    cases timing with
    | false => simp
    | true =>
      simp only [if_true, KeyCommand.execute, forall_const]
      by_cases vacant : entry.vacant = true
      · simp [vacant]
      · rw [if_neg vacant, or_iff_right vacant]
        obtain ⟨hash, list, string, set, deadline⟩ := entry
        simp only [Entry.mk.injEq, true_and]
        exact eq_comm
  · refine iff_of_false ?_ (fun both => listed both.1)
    obtain ⟨answered, absent⟩ := Classical.not_imp.mp listed
    intro same
    have longer := congrArg (fun entry : Entry => entry.set.length) same
    simp only [answered, if_true, KeyCommand.execute, if_neg absent] at longer
    split at longer
    · split at longer <;> simp at longer
    · simp at longer

/-- A world after the end of a group request. -/
def entered (w : World) (mysql : Access) (groupid userid : Int) : World :=
  (enterMembership groupid userid { w with mysql }).2

/-- An entered membership is on the node. -/
theorem entered_node (w : World) (mysql : Access) (groupid userid : Int) :
    (entered w mysql groupid userid).node = join groupid userid w.node := rfl

/-- It does not touch the tables again. -/
theorem entered_mysql (w : World) (mysql : Access) (groupid userid : Int) :
    (entered w mysql groupid userid).mysql = mysql := rfl

/-- Only the entry of the group is written. -/
theorem entered_entries (w : World) (mysql : Access) (groupid userid other : Int) :
    (entered w mysql groupid userid).redis.store.entries (.groupMembers other) =
      if other = groupid then
        written w.redis.answers
          (w.redis.run (RedisClient.sadd (.groupMembers groupid) (toString userid))).2.answers
          w.redis.store.now (toString userid) (w.redis.store.entries (.groupMembers groupid))
      else w.redis.store.entries (.groupMembers other) := by
  have listed := (RedisClient.single_runs (.groupMembers groupid) (.sadd (toString userid)) ()
    w.redis).2
  have timed := (RedisClient.single_runs (.groupMembers groupid) (.expire (hours 1)) ()
    (w.redis.run (RedisClient.sadd (.groupMembers groupid) (toString userid))).2).2
  change ((w.redis.run (RedisClient.sadd (.groupMembers groupid) (toString userid))).2.run
    (RedisClient.expire (.groupMembers groupid) (hours 1))).2.store.entries _ = _
  change (w.redis.run (RedisClient.sadd _ _)).2.store = _ at listed
  change ((w.redis.run (RedisClient.sadd _ _)).2.run (RedisClient.expire _ _)).2.store = _ at timed
  rw [timed, listed]
  by_cases own : other = groupid
  · subst own
    rw [if_pos rfl, written]
    cases w.redis.answers <;>
      cases (w.redis.run (RedisClient.sadd (.groupMembers other) (toString userid))).2.answers <;>
      simp [Redis.execute]
  · rw [if_neg own]
    cases w.redis.answers <;>
      cases (w.redis.run (RedisClient.sadd (.groupMembers groupid) (toString userid))).2.answers <;>
      simp [Redis.execute, own]

/-- Entering a user leaves nothing behind exactly when it repeats what is there. -/
theorem sameGroups_iff (w : World) (mysql : Access) (groupid userid : Int) :
    SameGroups w (entered w mysql groupid userid) ↔ Settled w groupid userid := by
  have node := entered_node w mysql groupid userid
  constructor
  · rintro ⟨members, sets, tasks⟩
    have own := sets groupid
    rw [entered_entries, if_pos rfl, written_iff] at own
    refine ⟨?_, ?_, own.1, own.2⟩
    · have there : userid ∈ (entered w mysql groupid userid).node.members groupid := by
        rw [node]
        exact (Node.mem_addMember w.node groupid groupid userid userid).mpr (Or.inl ⟨rfl, rfl⟩)
      rw [Node.members, members groupid] at there
      exact there
    · by_contra unsubscribed
      rw [node] at tasks
      have queued : (join groupid userid w.node).subscriber.subTasks =
          w.node.subscriber.subTasks ++ [.subscribe groupid] := by
        change (w.node.subscriber.subscribeGroupChannel groupid).subTasks = _
        rw [Subscriber.subscribeGroupChannel, if_neg unsubscribed]
      rw [queued] at tasks
      have longer := congrArg List.length tasks
      simp at longer
  · rintro ⟨member, subscribed, listed, timed⟩
    refine ⟨?_, ?_, ?_⟩
    · intro other
      rw [node]
      change (w.node.groupMembers.insert groupid ((w.node.members groupid).insert userid)).lookup
        other = _
      by_cases own : other = groupid
      · subst own
        have cached := Node.cached_of_mem w.node other userid member
        obtain ⟨set, found⟩ := Option.isSome_iff_exists.mp (AList.lookup_isSome.mpr cached)
        have same : w.node.members other = set := by rw [Node.members, found, Option.getD_some]
        rw [AList.lookup_insert, OrderedSet.insert_of_mem userid _ member, same, found]
      · rw [AList.lookup_insert_ne own]
    · intro other
      rw [entered_entries]
      split
      · rename_i own
        rw [(written_iff _ _ _ _ _).mpr ⟨listed, timed⟩, own]
      · rfl
    · rw [node]
      change (w.node.subscriber.subscribeGroupChannel groupid).subTasks = _
      rw [Subscriber.subscribeGroupChannel, if_pos subscribed]

/-- Entering a user keeps the cached members backed exactly when the user's row is
there afterwards. -/
theorem backed_entered (w : World) (mysql : Access) (groupid userid : Int) (backed : Backed w)
    (tables : Enlarged w.mysql.database mysql.database) :
    Backed (entered w mysql groupid userid) ↔
      mysql.database.hasMember groupid userid = true := by
  have members (other id : Int) : id ∈ (entered w mysql groupid userid).node.members other ↔
      (other = groupid ∧ id = userid) ∨ id ∈ w.node.members other :=
    Node.mem_addMember w.node groupid other userid id
  constructor
  · intro backedAfter
    exact backedAfter groupid userid ((members groupid userid).mpr (Or.inl ⟨rfl, rfl⟩))
  · intro row other id member
    rcases (members other id).mp member with ⟨rfl, rfl⟩ | old
    · exact row
    · exact tables.members other id (backed other id old)

/-- A row of a member is there after its insertion. -/
theorem hasMember_enrolled (db : Database) (groupid userid : Int) (role : String) :
    (enrolled db groupid userid role).hasMember groupid userid = true :=
  (Database.hasMember_iff _ _ _).mpr
    ⟨_, List.mem_append_right _ (List.mem_singleton_self _), rfl, rfl⟩

/-- An inserted row makes the table longer. -/
theorem groupUser_enrolled (db : Database) (groupid userid : Int) (role : String) :
    (enrolled db groupid userid role).groupUser ≠ db.groupUser := by
  intro same
  have longer := congrArg List.length same
  simp [enrolled] at longer

/-- What a request to join comes to: the row is inserted, or the table is as before. -/
theorem joinGroup_cases (conn : Conn) (js : Json) (userid groupid : Int) (w : World)
    (named : js.int "id" = .ok userid) (grouped : js.int "groupid" = .ok groupid) : ∃ mysql,
    (joinGroup conn js w).2 = entered w mysql groupid userid ∧
      (mysql.database.groupUser = w.mysql.database.groupUser ↔
        ¬ Enrols w.mysql groupid userid) ∧
      (mysql.database.hasMember groupid userid = true ↔
        w.mysql.database.hasMember groupid userid = true ∨ Enrols w.mysql groupid userid) := by
  refine ⟨_, congrArg Prod.snd (joinGroup_enters conn js userid groupid w named grouped), ?_⟩
  rcases joinGroup_leaves w.mysql userid groupid "normal" rfl with ⟨enrols, rows⟩ | ⟨refused, rows⟩
  · rw [rows]
    exact ⟨iff_of_false (groupUser_enrolled _ _ _ _) (not_not.mpr enrols),
      iff_of_true (hasMember_enrolled _ _ _ _) (Or.inr enrols)⟩
  · rw [rows]
    exact ⟨iff_of_true rfl refused, (or_iff_left refused).symm⟩

/-- What a creation comes to: the creator's row is inserted, or the table is as before. -/
theorem createGroup_cases (conn : Conn) (js : Json) (userid : Int) (groupname groupdesc : String)
    (w : World) (keys : w.mysql.database.Keys) (named : js.int "id" = .ok userid)
    (titled : js.str "groupname" = .ok groupname) (described : js.str "groupdesc" = .ok groupdesc) :
    ∃ mysql, (createGroup conn js w).2 =
        entered w mysql (assigned w.mysql groupname groupdesc) userid ∧
      (mysql.database.groupUser = w.mysql.database.groupUser ↔
        ¬ (Founds w.mysql groupname groupdesc ∧ Completes w.mysql userid)) ∧
      (mysql.database.hasMember (assigned w.mysql groupname groupdesc) userid = true ↔
        Founds w.mysql groupname groupdesc ∧ Completes w.mysql userid) := by
  obtain ⟨id, ends⟩ := createdBy_ends w.mysql keys userid groupname groupdesc
  have enters := createGroup_enters conn js userid groupname groupdesc w named titled described
  rw [id] at enters
  have vacant := hasMember_unused w.mysql.database keys
    (assigned w.mysql groupname groupdesc) userid (assigned_unused w.mysql groupname groupdesc)
  refine ⟨_, congrArg Prod.snd enters, ?_⟩
  rcases ends with ⟨unfounded, rows⟩ | ⟨connection, founds, ⟨lost, rows⟩ | ⟨completes, rows⟩⟩
  · rw [rows]
    exact ⟨iff_of_true rfl fun both => unfounded both.1,
      iff_of_false (Bool.eq_false_iff.mp vacant) fun both => unfounded both.1⟩
  · rw [rows]
    exact ⟨iff_of_true rfl fun both => lost both.2,
      iff_of_false (Bool.eq_false_iff.mp vacant) fun both => lost both.2⟩
  · rw [rows, assigned_completes w.mysql userid groupname groupdesc founds completes]
    exact ⟨iff_of_false (groupUser_enrolled _ _ _ _) (not_not.mpr ⟨founds, completes⟩),
      iff_of_true (hasMember_enrolled _ _ _ _) ⟨founds, completes⟩⟩

/-!
## Steps
-/

/-- Using up scripts changes nothing about the groups. -/
theorem sameGroups_meet (w after : World) (faults : Faults) :
    SameGroups (w.meet faults) after ↔ SameGroups w after :=
  ⟨fun same => ⟨same.members, same.sets, same.tasks⟩,
    fun same => ⟨same.members, same.sets, same.tasks⟩⟩

/-- The faults a handler meets change no group. -/
theorem sameGroups_unchanged (w : World) (faults : Faults) : SameGroups w (w.meet faults) :=
  ⟨fun _ => rfl, fun _ => rfl, rfl⟩

/-- A request to join with its fields is traceless exactly when its row is there, or it
repeats what is there. -/
theorem traceless_joinGroup (w : World) (conn : Conn) (js : Json) (faults : Faults) :
    Traceless w (.request .joinGroup conn js faults) ↔
      Lands w (.request .joinGroup conn js faults) ∨
        Repeats w (.request .joinGroup conn js faults) := by
  rcases Json.given_or_malformed (js.int "id") (js.int "groupid") with
    ⟨userid, groupid, named, grouped⟩ | unread
  · obtain ⟨mysql, ended, failed, _⟩ :=
      joinGroup_cases conn js userid groupid (w.meet faults) named grouped
    have reached : step w (.request .joinGroup conn js faults) =
      entered (w.meet faults) mysql groupid userid := ended
    have target : (∃ user group, js.int "id" = .ok user ∧ js.int "groupid" = .ok group ∧
        w.mysql.database.hasMember group user = true) ↔
        w.mysql.database.hasMember groupid userid = true := by
      simp only [named, grouped, Except.ok.injEq]
      constructor
      · rintro ⟨_, _, rfl, rfl, row⟩
        exact row
      · exact fun row => ⟨userid, groupid, rfl, rfl, row⟩
    rw [Lands, Repeats, Json.forall_given named grouped, Json.forall_given named grouped,
      Traceless, reached, ← sameGroups_meet w _ faults, sameGroups_iff]
    change (mysql.database.groupUser = w.mysql.database.groupUser → _) ↔ _
    change (mysql.database.groupUser = w.mysql.database.groupUser ↔ _) at failed
    rw [failed, target]
    by_cases enrols : Enrols (w.meet faults).mysql groupid userid
    · exact iff_of_true (fun refused => absurd enrols refused) (Or.inl (Or.inr enrols))
    · rw [or_iff_left enrols]
      exact ⟨fun traceless => traceless enrols, fun held _ => held⟩
  · obtain ⟨outcome, ended⟩ := joinGroup_malformed conn js (w.meet faults) unread
    have reached : step w (.request .joinGroup conn js faults) = w.meet faults :=
      congrArg Prod.snd ended
    refine iff_of_true (fun _ => Or.inr ?_) (Or.inl ?_)
    · rw [reached]
      exact sameGroups_unchanged w faults
    · exact fun userid groupid named grouped => absurd grouped (unread userid groupid named)

/-- The row of a creation with its fields is there afterwards exactly when both insertions
go through. -/
theorem lands_createGroup (w : World) (conn : Conn) (js : Json) (faults : Faults) (userid : Int)
    (groupname groupdesc : String) (named : js.int "id" = .ok userid)
    (titled : js.str "groupname" = .ok groupname)
    (described : js.str "groupdesc" = .ok groupdesc) :
    Lands w (.request .createGroup conn js faults) ↔
      Founds (w.meet faults).mysql groupname groupdesc ∧
        Completes (w.meet faults).mysql userid := by
  simp [Lands, named, titled, described]

/-- A creation is traceless exactly when its rows are inserted, or it repeats what is
there. -/
theorem traceless_createGroup (w : World) (keys : w.mysql.database.Keys) (conn : Conn)
    (js : Json) (faults : Faults) : Traceless w (.request .createGroup conn js faults) ↔
      Lands w (.request .createGroup conn js faults) ∨
        Repeats w (.request .createGroup conn js faults) := by
  rcases Json.given_three_or_malformed (js.int "id") (js.str "groupname") (js.str "groupdesc") with
    ⟨userid, groupname, groupdesc, named, titled, described⟩ | malformed
  · obtain ⟨mysql, ended, failed, _⟩ := createGroup_cases conn js userid groupname groupdesc
      (w.meet faults) keys named titled described
    have reached : step w (.request .createGroup conn js faults) =
      entered (w.meet faults) mysql (assigned (w.meet faults).mysql groupname groupdesc)
        userid := ended
    have lands := lands_createGroup w conn js faults userid groupname groupdesc named titled
      described
    have repeats : Repeats w (.request .createGroup conn js faults) ↔ Settled (w.meet faults)
        (assigned (w.meet faults).mysql groupname groupdesc) userid := by
      simp [Repeats, named, titled, described]
    rw [lands, repeats, Traceless, reached, ← sameGroups_meet w _ faults, sameGroups_iff]
    change (mysql.database.groupUser = w.mysql.database.groupUser → _) ↔ _
    change (mysql.database.groupUser = w.mysql.database.groupUser ↔ _) at failed
    rw [failed]
    exact or_iff_not_imp_left.symm
  · obtain ⟨outcome, ended⟩ := createGroup_malformed conn js (w.meet faults) malformed
    have reached : step w (.request .createGroup conn js faults) = w.meet faults :=
      congrArg Prod.snd ended
    refine iff_of_true (fun _ => ?_) (Or.inl ?_)
    · rw [reached]
      exact sameGroups_unchanged w faults
    · exact fun userid groupname groupdesc named titled described =>
        absurd described (malformed userid groupname groupdesc named titled)

/-- An event is traceless exactly when its row is there afterwards, or it repeats what is
there. -/
theorem traceless_iff (w : World) (keys : w.mysql.database.Keys) (event : Event) :
    Traceless w event ↔ Lands w event ∨ Repeats w event := by
  cases event with
  | request request conn js faults =>
    cases request with
    | createGroup => exact traceless_createGroup w keys conn js faults
    | joinGroup => exact traceless_joinGroup w conn js faults
    | _ => exact iff_of_true (fun _ => trivial) (Or.inl trivial)
  | _ => exact iff_of_true (fun _ => trivial) (Or.inl trivial)

/-- A request to join keeps the cached members backed exactly when its row is there
afterwards. -/
theorem backed_joinGroup (w : World) (backed : Backed w) (conn : Conn) (js : Json)
    (faults : Faults) : Backed (step w (.request .joinGroup conn js faults)) ↔
      Lands w (.request .joinGroup conn js faults) := by
  have tables := enlarged_step w (.request .joinGroup conn js faults)
  rcases Json.given_or_malformed (js.int "id") (js.int "groupid") with
    ⟨userid, groupid, named, grouped⟩ | unread
  · obtain ⟨mysql, ended, _, row⟩ :=
      joinGroup_cases conn js userid groupid (w.meet faults) named grouped
    have reached : step w (.request .joinGroup conn js faults) =
      entered (w.meet faults) mysql groupid userid := ended
    rw [Lands, Json.forall_given named grouped, reached]
    rw [reached, entered_mysql] at tables
    exact (backed_entered (w.meet faults) mysql groupid userid backed tables).trans row
  · obtain ⟨outcome, ended⟩ := joinGroup_malformed conn js (w.meet faults) unread
    have reached : step w (.request .joinGroup conn js faults) = w.meet faults :=
      congrArg Prod.snd ended
    rw [reached]
    exact iff_of_true backed
      (fun userid groupid named grouped => absurd grouped (unread userid groupid named))

/-- A creation keeps the cached members backed exactly when its rows are inserted. -/
theorem backed_createGroup (w : World) (keys : w.mysql.database.Keys) (backed : Backed w)
    (conn : Conn) (js : Json) (faults : Faults) :
    Backed (step w (.request .createGroup conn js faults)) ↔
      Lands w (.request .createGroup conn js faults) := by
  have tables := enlarged_step w (.request .createGroup conn js faults)
  rcases Json.given_three_or_malformed (js.int "id") (js.str "groupname") (js.str "groupdesc") with
    ⟨userid, groupname, groupdesc, named, titled, described⟩ | malformed
  · obtain ⟨mysql, ended, _, row⟩ := createGroup_cases conn js userid groupname groupdesc
      (w.meet faults) keys named titled described
    have reached : step w (.request .createGroup conn js faults) =
      entered (w.meet faults) mysql (assigned (w.meet faults).mysql groupname groupdesc)
        userid := ended
    rw [lands_createGroup w conn js faults userid groupname groupdesc named titled described,
      reached]
    rw [reached, entered_mysql] at tables
    exact (backed_entered (w.meet faults) mysql _ userid backed tables).trans row
  · obtain ⟨outcome, ended⟩ := createGroup_malformed conn js (w.meet faults) malformed
    have reached : step w (.request .createGroup conn js faults) = w.meet faults :=
      congrArg Prod.snd ended
    rw [reached]
    exact iff_of_true backed (fun userid groupname groupdesc named titled described =>
      absurd described (malformed userid groupname groupdesc named titled))

/-- An event keeps the cached members backed exactly when the row of its request is there
afterwards. -/
theorem backed_step_iff (w : World) (event : Event) (keys : w.mysql.database.Keys)
    (backed : Backed w) : Backed (step w event) ↔ Lands w event := by
  have tables := enlarged_step w event
  cases event with
  | request request conn js faults =>
    by_cases create : request = .createGroup
    · subst create
      exact backed_createGroup w keys backed conn js faults
    · by_cases join : request = .joinGroup
      · subst join
        exact backed_joinGroup w backed conn js faults
      · have loaded := loaded_request request conn js (w.meet faults) create join
        refine iff_of_true (backed_loaded (w.meet faults) _ backed loaded tables) ?_
        cases request with
        | createGroup => exact absurd rfl create
        | joinGroup => exact absurd rfl join
        | _ => exact trivial
  | disconnect hint conn faults =>
    have loaded := loaded_clientQuit hint conn (w.meet faults)
    exact iff_of_true (backed_loaded (w.meet faults) _ backed loaded tables) trivial
  | inbox js faults =>
    obtain ⟨outcome, failedQueue, mysql, m, ended, _⟩ := inboxCallback_runs js (w.meet faults)
    have same : (step w (.inbox js faults)).node.groupMembers = w.node.groupMembers := by
      change (inboxCallback js (w.meet faults)).2.node.groupMembers = _
      rw [ended]
      rfl
    exact iff_of_true (backed_loaded w _ backed (loaded_same w _ same) tables) trivial
  | listen subscriber =>
    exact iff_of_true (backed_loaded w _ backed (loaded_same w _ rfl) tables) trivial
  | statement connection statement =>
    exact iff_of_true (backed_loaded w _ backed (loaded_same w _ rfl) tables) trivial
  | redis store =>
    exact iff_of_true (backed_loaded w _ backed (loaded_same w _ rfl) tables) trivial
  | pass duration =>
    exact iff_of_true (backed_loaded w _ backed (loaded_same w _ rfl) tables) trivial

/-- In every state whose tables obey the schema, a request leaves nothing behind exactly
when its row is there afterwards or it repeats what is there. From a state in which every
cached member has a row, that stays so in exactly the runs in which the rows of all group
requests are there afterwards. -/
theorem residue_iff (w : World) (keys : w.mysql.database.Keys) :
    (∀ event, Traceless w event ↔ Lands w event ∨ Repeats w event) ∧
      (Backed w → ∀ events,
        Runs.Always step Backed w events ↔ Runs.Guarded step Lands w events) := by
  refine ⟨traceless_iff w keys, fun backed events => ?_⟩
  exact Runs.always_iff_guarded step Backed (fun w => w.mysql.database.Keys) Lands
    (fun w event keys => (enlarged_step w event).keys keys) backed_step_iff w events keys backed

/-- A node that has just started, over tables without rows. -/
def started : World := World.start "node-1" Database.empty Redis.empty

/-- User 1 asks to join the group 7. -/
def joining : Event :=
  .request .joinGroup ⟨"c"⟩ (.object [("groupid", .integer 7), ("id", .integer 1),
    ("msgid", .integer 9)]) {}

/-- The example's node, at its start. -/
theorem residue_iff_started :
    (∀ event, Traceless started event ↔ Lands started event ∨ Repeats started event) ∧
      (Backed started → ∀ events,
        Runs.Always step Backed started events ↔ Runs.Guarded step Lands started events) :=
  residue_iff started Database.keys_empty

/-- A request to join a group that does not exist enters its user all the same. -/
theorem residue_unknown : Backed started ∧ ¬ Traceless started joining ∧
    ¬ Runs.Always step Backed started [joining] := by
  have vacant : Backed started := fun groupid id member => absurd member List.not_mem_nil
  have refused : ¬ Lands started joining := by
    intro lands
    rcases lands 1 7 rfl rfl with row | enrols
    · cases row
    · exact Bool.false_ne_true enrols.admissible.group
  have unsettled : ¬ Repeats started joining := by
    intro repeats
    exact absurd (repeats 1 7 rfl rfl).subscribed List.not_mem_nil
  refine ⟨vacant, ?_, ?_⟩
  · rw [traceless_iff started Database.keys_empty]
    exact not_or.mpr ⟨refused, unsettled⟩
  · intro always
    have after := Runs.always_end step _ _ _ always
    exact refused ((backed_step_iff started joining Database.keys_empty vacant).mp after)

end ClusterChat.GroupResidue
