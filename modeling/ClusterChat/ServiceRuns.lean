import ClusterChat.NodeMaps

/-!
# What the parts of the handlers do

Each part is executed once, here, on an arbitrary world. A result names every
component that can differ from the world it started in, so what a part leaves
alone is visible in its statement, and later arguments do not open the handlers
again.

The scripts of the database and of Redis are arbitrary unless a statement says
otherwise. No part of an answer fails: the only exceptions of a handler come from
converting the request, before anything is changed.
-/

namespace ClusterChat

/-- A conversion that succeeds leaves no trace. -/
theorem convert_ok_bind {α β : Type} (result : α) (following : α → Handler β) :
    convert (.ok result) >>= following = following result := rfl

/-- A Redis program changes the Redis part of the world only, and throws nothing. -/
theorem redis_run {α : Type} (program : RedisProgram α) (w : World) :
    redis program w = (.ok (w.redis.run program).1, { w with redis := (w.redis.run program).2 }) :=
  rfl

/-- A JDBC program changes the MySQL part of the world only, and throws nothing. -/
theorem sql_run {α : Type} (program : Jdbc α) (w : World) :
    sql program w = (.ok (w.mysql.run program).1, { w with mysql := (w.mysql.run program).2 }) :=
  rfl

/-- A change of the node leaves the rest of the world alone. -/
theorem onNode_run (change : Node → Node) (w : World) :
    onNode change w = (.ok (), { w with node := change w.node }) := rfl

/-- Reading the node changes nothing. -/
theorem currentNode_run (w : World) : currentNode w = (.ok w.node, w) := rfl

namespace ChatService

/-- A loop that reads the presence of each user of a list changes nothing else. -/
theorem presenceLoop_runs {α : Type} (loop : List α → Handler (List String)) (idOf : α → Int)
    (textOf : α → Bool → String) (stops : loop [] = return [])
    (goesOn : ∀ user rest, loop (user :: rest) = do
      let online ← redis (RedisClient.isUserOnline (idOf user))
      let texts ← loop rest
      return textOf user online :: texts)
    (users : List α) (w : World) : ∃ texts m,
    loop users w = (.ok texts, { w with redis := m }) ∧
      RedisAccess.Kept (fun _ => False) w.redis m := by
  induction users generalizing w with
  | nil =>
    rw [stops]
    exact ⟨[], w.redis, rfl, RedisAccess.kept_refl _ _⟩
  | cons user rest inductionHypothesis =>
    have read := RedisAccess.kept_run _ _ (RedisClient.isUserOnline_writes (idOf user)) w.redis
    obtain ⟨texts, m, ended, kept⟩ := inductionHypothesis
      { w with redis := (w.redis.run (RedisClient.isUserOnline (idOf user))).2 }
    refine ⟨textOf user (w.redis.run (RedisClient.isUserOnline (idOf user))).1 :: texts, m,
      ?_, read.trans kept⟩
    rw [goesOn, Effect.bind_ok _ _ _ _ _ (redis_run _ w), Effect.bind_ok _ _ _ _ _ ended]
    rfl

/-- The loop over the friends ends well and touches Redis only, whose data it does not
change. -/
theorem friendTexts_runs (users : List User) (w : World) : ∃ texts m,
    friendTexts users w = (.ok texts, { w with redis := m }) ∧
      RedisAccess.Kept (fun _ => False) w.redis m :=
  presenceLoop_runs friendTexts User.id (fun user online => (friendJson user online).dump) rfl
    (fun _ _ => rfl) users w

/-- The loop over a group's members ends the same way. -/
theorem memberTexts_runs (users : List GroupUser) (w : World) : ∃ texts m,
    memberTexts users w = (.ok texts, { w with redis := m }) ∧
      RedisAccess.Kept (fun _ => False) w.redis m :=
  presenceLoop_runs memberTexts (fun user => user.id)
    (fun user online => (memberJson user online).dump) rfl (fun _ _ => rfl) users w

/-- The friend list may be added to the answer and cached. -/
theorem addFriendList_runs (id : Int) (answer : Json) (w : World) : ∃ extended mysql m,
    addFriendList id answer w = (.ok extended, { w with mysql := mysql, redis := m }) ∧
      Access.Kept w.mysql mysql ∧ RedisAccess.Kept (· = .friends id) w.redis m ∧
      (extended = answer ∨ ∃ texts, extended = answer.set "friends" (Json.ofStrings texts)) := by
  have looked := RedisAccess.kept_run _ _ (RedisClient.get_writes (.friends id)) w.redis
  have lookedUp : RedisAccess.Kept (· = .friends id) w.redis
      (w.redis.run (RedisClient.get (.friends id))).2 :=
    looked.mono (fun _ impossible => impossible.elim)
  rw [addFriendList, Effect.bind_ok _ _ _ _ _ (redis_run _ w)]
  cases cached : (w.redis.run (RedisClient.get (.friends id))).1 with
  | some text => exact ⟨answer, w.mysql, _, rfl, Access.kept_refl _, lookedUp, Or.inl rfl⟩
  | none =>
    have queried := Access.kept_run w.mysql _ (FriendModel.query_reads id)
    simp only
    rw [Effect.bind_ok _ _ _ _ _ (sql_run _ _)]
    by_cases none : (w.mysql.run (FriendModel.query id)).1.isEmpty = true
    · rw [if_pos none]
      exact ⟨answer, _, _, rfl, queried, lookedUp, Or.inl rfl⟩
    · rw [if_neg none]
      obtain ⟨texts, m, ended, kept⟩ := friendTexts_runs (w.mysql.run (FriendModel.query id)).1
        { w with
          mysql := (w.mysql.run (FriendModel.query id)).2
          redis := (w.redis.run (RedisClient.get (.friends id))).2 }
      have stored := RedisAccess.kept_run _ _ (RedisClient.set_writes (.friends id)
        (Json.ofStrings texts).dump (hours 1)) m
      refine ⟨answer.set "friends" (Json.ofStrings texts), _, _, ?_, queried,
        (lookedUp.trans (kept.mono (fun _ impossible => impossible.elim))).trans stored,
        Or.inr ⟨texts, rfl⟩⟩
      rw [Effect.bind_ok _ _ _ _ _ ended]
      rfl

/-- The member sets and the subscriptions after the loop over the groups. -/
def enterGroups (id : Int) (groups : List Group) (node : Node) : Node :=
  groups.foldl (fun node group => (enterGroup id group node).subscribeGroupChannel group.id) node

/-- The loop over the groups enters the user in each of them and touches Redis besides. -/
theorem groupTexts_runs (id : Int) (groups : List Group) (w : World) : ∃ texts m,
    groupTexts id groups w =
        (.ok texts, { w with node := enterGroups id groups w.node, redis := m }) ∧
      RedisAccess.Kept (fun _ => False) w.redis m := by
  induction groups generalizing w with
  | nil => exact ⟨[], w.redis, rfl, RedisAccess.kept_refl _ _⟩
  | cons group rest inductionHypothesis =>
    obtain ⟨users, read, readUsers, keptRead⟩ := memberTexts_runs group.users w
    obtain ⟨texts, m, ended, kept⟩ := inductionHypothesis { w with
      node := (enterGroup id group w.node).subscribeGroupChannel group.id
      redis := read }
    refine ⟨(groupJson group users).dump :: texts, m, ?_, keptRead.trans kept⟩
    rw [groupTexts, Effect.bind_ok _ _ _ _ _ readUsers, Effect.bind_ok _ _ _ _ _ (onNode_run _ _),
      Effect.bind_ok _ _ _ _ _ (onNode_run _ _), Effect.bind_ok _ _ _ _ _ ended]
    rfl

/-- The groups a login works on: memberless, and those of the database when
nothing disturbs the query. -/
def GroupsOf (id : Int) (mysql : Access) (groups : List Group) : Prop :=
  (∀ group ∈ groups, group.users = []) ∧
    (mysql.Undisturbed → groups = (mysql.database.select 0 (.groupsOf id)).map GroupModel.ofRow)

/-- The group part of a login does the same, for the groups the query found. -/
theorem addGroupList_runs (id : Int) (answer : Json) (w : World) : ∃ extended groups mysql m,
    addGroupList id answer w = (.ok extended,
      { w with node := enterGroups id groups w.node, mysql := mysql, redis := m }) ∧
      GroupsOf id w.mysql groups ∧ Access.Kept w.mysql mysql ∧
      RedisAccess.Kept (fun _ => False) w.redis m ∧
      (extended = answer ∨ ∃ texts, extended = answer.set "groups" (Json.ofStrings texts)) := by
  have queried := Access.kept_run w.mysql _ (GroupModel.queryGroups_reads id)
  have found : GroupsOf id w.mysql (w.mysql.run (GroupModel.queryGroups id)).1 := by
    refine ⟨Program.run_yields _ _ _ (GroupModel.queryGroups_memberless id) _, ?_⟩
    intro quiet
    rw [(Access.undisturbed_iff _).mp quiet, GroupModel.queryGroups_undisturbed]
    rfl
  rw [addGroupList, Effect.bind_ok _ _ _ _ _ (sql_run _ w)]
  by_cases none : (w.mysql.run (GroupModel.queryGroups id)).1.isEmpty = true
  · rw [if_pos none]
    have empty := List.isEmpty_iff.mp none
    rw [empty] at found
    exact ⟨answer, [], _, _, rfl, found, queried, RedisAccess.kept_refl _ _, Or.inl rfl⟩
  · rw [if_neg none]
    obtain ⟨texts, m, ended, kept⟩ := groupTexts_runs id (w.mysql.run (GroupModel.queryGroups id)).1
      { w with mysql := (w.mysql.run (GroupModel.queryGroups id)).2 }
    refine ⟨answer.set "groups" (Json.ofStrings texts), _, _, m, ?_, found, queried, kept,
      Or.inr ⟨texts, rfl⟩⟩
    rw [Effect.bind_ok _ _ _ _ _ ended]
    rfl

/-- Groups found after reads that changed nothing are groups found before them. -/
theorem GroupsOf.kept {id : Int} {before after : Access} {groups : List Group}
    (found : GroupsOf id after groups) (kept : Access.Kept before after) :
    GroupsOf id before groups :=
  ⟨found.1, fun quiet => kept.database ▸ found.2 (kept.undisturbed quiet)⟩

/-- A reply to a login that was let in, with the offline messages it carries. -/
structure Welcomes (output : Output) (offlineMsgs : List String) : Prop where
  errno : output.errno = some 0
  offlineMessages : output.offlineMessages = offlineMsgs

/-- Members other than the two the checks read may be added to a reply. -/
theorem Welcomes.extended {conn : Conn} {answer extended : Json} {key : String}
    {offlineMsgs : List String} (welcomes : Welcomes ⟨conn, answer, false⟩ offlineMsgs)
    (notErrno : key ≠ "errno") (notMessages : key ≠ "offlinemessage")
    (added : extended = answer ∨ ∃ texts, extended = answer.set key (Json.ofStrings texts)) :
    Welcomes ⟨conn, extended, false⟩ offlineMsgs := by
  rcases added with rfl | ⟨texts, rfl⟩
  · exact welcomes
  · constructor
    · simpa [Output.errno, Json.member_set, Ne.symm notErrno] using welcomes.errno
    · simpa [Output.offlineMessages, Json.member_set, Ne.symm notMessages] using
        welcomes.offlineMessages

/-- The reply before the lists are added. -/
theorem welcomes_answer (conn : Conn) (userQuery : User) (offlineMsgs : List String) :
    Welcomes ⟨conn, if offlineMsgs.isEmpty then ((response .loginMsgAck 0).set "id"
        (.integer userQuery.id)).set "name" (.string userQuery.name)
      else (((response .loginMsgAck 0).set "id" (.integer userQuery.id)).set "name"
        (.string userQuery.name)).set "offlinemessage" (Json.ofStrings offlineMsgs), false⟩
      offlineMsgs := by
  cases offlineMsgs with
  | nil => exact ⟨by simp [Output.errno, response, Json.member_set, Json.getInt, toInt,
      Except.toOption], by simp [Output.offlineMessages, response, Json.member_set]⟩
  | cons text rest => exact ⟨by simp [Output.errno, response, Json.member_set, Json.getInt, toInt,
      Except.toOption], by simp [Output.offlineMessages, Json.member_set]⟩

/-- What is left of a login once presence is written. -/
theorem answerLogin_runs (conn : Conn) (id : Int) (userQuery : User) (w : World) :
    ∃ output groups mysql m, answerLogin conn id userQuery w = (.ok (),
        { node := enterGroups id groups w.node, mysql := mysql, redis := m,
          sent := w.sent ++ [output] }) ∧
      output.conn = conn ∧
      Welcomes output (w.redis.run (RedisClient.popOfflineMessages id)).1 ∧
      GroupsOf id w.mysql groups ∧ Access.Kept w.mysql mysql ∧
      RedisAccess.Kept (fun key => key = .offline id ∨ key = .friends id) w.redis m ∧
      (w.redis.Reliable → m.store.waiting id = []) := by
  have popped := RedisAccess.kept_run _ _ (RedisClient.popOfflineMessages_writes id) w.redis
  have welcomes := welcomes_answer conn userQuery
    (w.redis.run (RedisClient.popOfflineMessages id)).1
  obtain ⟨friends, mysql, listed, endedFriends, keptFriends, keptListed, addedFriends⟩ :=
    addFriendList_runs id (if (w.redis.run (RedisClient.popOfflineMessages id)).1.isEmpty then
        ((response .loginMsgAck 0).set "id" (.integer userQuery.id)).set "name"
          (.string userQuery.name)
      else (((response .loginMsgAck 0).set "id" (.integer userQuery.id)).set "name"
        (.string userQuery.name)).set "offlinemessage"
          (Json.ofStrings (w.redis.run (RedisClient.popOfflineMessages id)).1))
      { w with redis := (w.redis.run (RedisClient.popOfflineMessages id)).2 }
  obtain ⟨answer, groups, mysqlGroups, m, endedGroups, found, keptGroups, keptMembers,
      addedGroups⟩ :=
    addGroupList_runs id friends { w with mysql := mysql, redis := listed }
  refine ⟨⟨conn, answer, false⟩, groups, mysqlGroups, m, ?_, rfl, ?_, ?_, ?_, ?_, ?_⟩
  · rw [answerLogin, Effect.bind_ok _ _ _ _ _ (redis_run _ w)]
    rw [Effect.bind_ok _ _ _ _ _ endedFriends, Effect.bind_ok _ _ _ _ _ endedGroups]
    rfl
  · exact (welcomes.extended (by decide) (by decide) addedFriends).extended (by decide) (by decide)
      addedGroups
  · exact found.kept keptFriends
  · exact keptFriends.trans keptGroups
  · exact ((popped.mono (fun _ own => Or.inl own)).trans
      (keptListed.mono (fun _ own => Or.inr own))).trans
      (keptMembers.mono (fun _ impossible => impossible.elim))
  · intro reliable
    have emptied : (w.redis.run (RedisClient.popOfflineMessages id)).2.store.waiting id = [] := by
      rw [(RedisAccess.reliable_iff _).mp reliable, RedisClient.popOfflineMessages_reliable]
      exact RedisClient.waiting_popped _ id
    have later : listed.store.entries (.offline id) =
        (w.redis.run (RedisClient.popOfflineMessages id)).2.store.entries (.offline id) :=
      keptListed.entries _ (by simp)
    rw [Redis.waiting, keptMembers.entries _ not_false, later]
    exact emptied

/-- The presence write of a login takes effect, after the node of the record was
read for the log. -/
def Announced (m : RedisAccess) (id : Int) : Bool := (m.run (RedisClient.getUserNode id)).2.answers

/-- The announcement of a login ends well and touches Redis only. -/
theorem announce_runs (conn : Conn) (id : Int) (w : World) : ∃ m,
    announce conn id w = (.ok (), { w with redis := m }) ∧
      RedisAccess.Kept (· = .user id) w.redis m ∧
      m.store.online id = (Announced w.redis id || w.redis.store.online id) := by
  have read := RedisAccess.kept_run _ _ (RedisClient.getUserNode_writes id) w.redis
  have written := RedisAccess.kept_run _ _
    (RedisClient.setUserOnline_writes w.node.localNodeId id conn.name)
    (w.redis.run (RedisClient.getUserNode id)).2
  refine ⟨_, rfl, (read.mono (fun _ impossible => impossible.elim)).trans written, ?_⟩
  rw [RedisClient.setUserOnline_online, read.store]
  rfl

/-- The keys a login that is let in can write. -/
def LoginKeys (id : Int) (key : Key) : Prop :=
  key = .user id ∨ key = .offline id ∨ key = .friends id

/-- What a login that is let in does, with its reply and the groups it found. -/
structure LetIn (conn : Conn) (id : Int) (w : World) (output : Output) (groups : List Group)
    (after : World) : Prop where
  node : after.node = enterGroups id groups (w.node.record id conn)
  sent : after.sent = w.sent ++ [output]
  replied : output.conn = conn
  errno : output.errno = some 0
  found : GroupsOf id w.mysql groups
  mysql : Access.Kept w.mysql after.mysql
  redis : RedisAccess.Kept (LoginKeys id) w.redis after.redis
  delivered : w.redis.Reliable → output.offlineMessages = w.redis.store.waiting id ∧
    after.redis.store.waiting id = []

/-- The accepted branch of a login ends well and lets the user in. -/
theorem acceptLogin_runs (conn : Conn) (id : Int) (userQuery : User) (w : World) :
    ∃ output groups after, acceptLogin conn id userQuery w = (.ok (), after) ∧
      LetIn conn id w output groups after := by
  obtain ⟨written, announced, keptPresence, _⟩ :=
    announce_runs conn id { w with node := w.node.record id conn }
  obtain ⟨output, groups, mysql, m, answered, replied, welcomes, found, keptTables, keptEntries,
      emptied⟩ := answerLogin_runs conn id userQuery
    { w with node := w.node.record id conn, redis := written }
  refine ⟨output, groups,
    ⟨enterGroups id groups (w.node.record id conn), mysql, m, w.sent ++ [output]⟩, ?_, rfl, rfl,
    replied, welcomes.errno, found, keptTables, ?_, ?_⟩
  · rw [acceptLogin, Effect.bind_ok _ _ _ _ _ (onNode_run _ w),
      Effect.bind_ok _ _ _ _ _ announced, answered]
  · exact (keptPresence.mono (fun _ own => Or.inl own)).trans
      (keptEntries.mono (fun _ own => Or.inr own))
  · intro reliable
    have still := keptPresence.reliable reliable
    refine ⟨?_, emptied still⟩
    have waiting : written.store.waiting id = w.redis.store.waiting id := by
      rw [Redis.waiting, keptPresence.entries _ (by simp)]
      rfl
    rw [welcomes.offlineMessages, ← waiting]
    simp only
    rw [(RedisAccess.reliable_iff _).mp still, RedisClient.popOfflineMessages_reliable]
    rfl

/-- The account read from the database is the requested one with its password. -/
def Matches (w : World) (id : Int) (pwd : String) : Prop :=
  (w.mysql.run (UserModel.query id)).1.id = id ∧ (w.mysql.run (UserModel.query id)).1.password = pwd

instance (w : World) (id : Int) (pwd : String) : Decidable (Matches w id pwd) :=
  inferInstanceAs (Decidable (_ ∧ _))

/-- The presence read of a login. -/
def SeenOnline (w : World) (id : Int) : Prop :=
  (w.redis.run (RedisClient.isUserOnline id)).1 = true

instance (w : World) (id : Int) : Decidable (SeenOnline w id) :=
  inferInstanceAs (Decidable (_ = true))

/-- With the fields of the request at hand, the account and the presence decide. -/
theorem login_run (conn : Conn) (js : Json) (id : Int) (pwd : String) (w : World)
    (named : js.int "id" = .ok id) (given : js.str "password" = .ok pwd) :
    login conn js w =
      if Matches w id pwd then
        if SeenOnline w id then send conn alreadyOnline { w with
          mysql := (w.mysql.run (UserModel.query id)).2
          redis := (w.redis.run (RedisClient.isUserOnline id)).2 }
        else acceptLogin conn id (w.mysql.run (UserModel.query id)).1 { w with
          mysql := (w.mysql.run (UserModel.query id)).2
          redis := (w.redis.run (RedisClient.isUserOnline id)).2 }
      else send conn wrongPassword { w with mysql := (w.mysql.run (UserModel.query id)).2 } := by
  rw [login, named, given]
  change (if Matches w id pwd then _ else _ : Handler Unit) _ = _
  split
  · change (if SeenOnline w id then _ else _ : Handler Unit) _ = _
    split <;> rfl
  · rfl

/-- A request without a numeric id or a textual password changes nothing. -/
theorem login_malformed (conn : Conn) (js : Json) (w : World)
    (malformed : ∀ id pwd, js.int "id" = .ok id → js.str "password" ≠ .ok pwd) :
    ∃ escape, login conn js w = (.error escape, w) := by
  rw [login]
  cases named : js.int "id" with
  | error exception => exact ⟨_, rfl⟩
  | ok id =>
    cases given : js.str "password" with
    | error exception => exact ⟨_, rfl⟩
    | ok pwd => exact absurd given (malformed id pwd named)

/-- A login that is not let in sends one reply and only uses up scripts. -/
theorem login_refused (conn : Conn) (js : Json) (id : Int) (pwd : String) (w : World)
    (named : js.int "id" = .ok id) (given : js.str "password" = .ok pwd)
    (refused : Matches w id pwd → SeenOnline w id) : ∃ output mysql m,
      login conn js w =
          (.ok (), { w with mysql := mysql, redis := m, sent := w.sent ++ [output] }) ∧
      output.errno ≠ some 0 ∧ Access.Kept w.mysql mysql ∧
      RedisAccess.Kept (fun _ => False) w.redis m := by
  have queried := Access.kept_run w.mysql _ (UserModel.query_reads id)
  have read := RedisAccess.kept_run _ _ (RedisClient.isUserOnline_writes id) w.redis
  rw [login_run conn js id pwd w named given]
  by_cases account : Matches w id pwd
  · rw [if_pos account, if_pos (refused account)]
    have refusal : (alreadyOnline.member "errno").getInt.toOption ≠ some 0 := by decide
    exact ⟨⟨conn, alreadyOnline, false⟩, _, _, rfl, refusal, queried, read⟩
  · rw [if_neg account]
    have refusal : (wrongPassword.member "errno").getInt.toOption ≠ some 0 := by decide
    exact ⟨⟨conn, wrongPassword, false⟩, _, _, rfl, refusal, queried, RedisAccess.kept_refl _ _⟩

/-- A login with the right password, of a user not seen online, lets the user in. -/
theorem login_admitted (conn : Conn) (js : Json) (id : Int) (pwd : String) (w : World)
    (named : js.int "id" = .ok id) (given : js.str "password" = .ok pwd)
    (account : Matches w id pwd) (absent : ¬ SeenOnline w id) : ∃ output groups after,
      login conn js w = (.ok (), after) ∧ LetIn conn id w output groups after := by
  have queried := Access.kept_run w.mysql _ (UserModel.query_reads id)
  have read := RedisAccess.kept_run _ _ (RedisClient.isUserOnline_writes id) w.redis
  obtain ⟨output, groups, after, accepted, letIn⟩ := acceptLogin_runs conn id
    (w.mysql.run (UserModel.query id)).1 { w with
      mysql := (w.mysql.run (UserModel.query id)).2
      redis := (w.redis.run (RedisClient.isUserOnline id)).2 }
  refine ⟨output, groups, after, ?_, letIn.node, letIn.sent, letIn.replied, letIn.errno,
    letIn.found.kept queried, queried.trans letIn.mysql,
    (read.mono (fun _ impossible => impossible.elim)).trans letIn.redis, ?_⟩
  · rw [login_run conn js id pwd w named given, if_pos account, if_neg absent, accepted]
  · intro reliable
    have delivered := letIn.delivered (read.reliable reliable)
    simp only [read.store] at delivered
    exact delivered

/-- The three ends of a login. -/
inductive LoginEnds (conn : Conn) (js : Json) (w : World) : Except Escape Unit × World → Prop
  | malformed (escape : Escape)
      (unread : ∀ id pwd, js.int "id" = .ok id → js.str "password" ≠ .ok pwd) :
      LoginEnds conn js w (.error escape, w)
  | refused (id : Int) (pwd : String) (output : Output) (mysql : Access) (m : RedisAccess)
      (named : js.int "id" = .ok id) (given : js.str "password" = .ok pwd)
      (seen : Matches w id pwd → SeenOnline w id) (rejected : output.errno ≠ some 0)
      (tables : Access.Kept w.mysql mysql)
      (entries : RedisAccess.Kept (fun _ => False) w.redis m) :
      LoginEnds conn js w
        (.ok (), { w with mysql := mysql, redis := m, sent := w.sent ++ [output] })
  | admitted (id : Int) (pwd : String) (output : Output) (groups : List Group) (after : World)
      (named : js.int "id" = .ok id) (given : js.str "password" = .ok pwd)
      (account : Matches w id pwd) (absent : ¬ SeenOnline w id)
      (letIn : LetIn conn id w output groups after) : LoginEnds conn js w (.ok (), after)

/-- Every login ends in one of the three ways. -/
theorem login_ends (conn : Conn) (js : Json) (w : World) :
    ∃ result, login conn js w = result ∧ LoginEnds conn js w result := by
  rcases Json.given_or_malformed (js.int "id") (js.str "password") with
    ⟨id, pwd, named, given⟩ | unread
  · by_cases seen : Matches w id pwd → SeenOnline w id
    · obtain ⟨output, mysql, m, ended, rejected, tables, entries⟩ :=
        login_refused conn js id pwd w named given seen
      exact ⟨_, ended, .refused id pwd output mysql m named given seen rejected tables entries⟩
    · obtain ⟨account, absent⟩ := Classical.not_imp.mp seen
      obtain ⟨output, groups, after, ended, letIn⟩ :=
        login_admitted conn js id pwd w named given account absent
      exact ⟨_, ended, .admitted id pwd output groups after named given account absent letIn⟩
  · obtain ⟨escape, ended⟩ := login_malformed conn js w unread
    exact ⟨_, ended, .malformed escape unread⟩

/-!
## The end of a session
-/

/-- What the end of a session leaves of a node. -/
def leave (id : Int) (node : Node) : Node := (node.forget id).leaveGroups id

/-- A logout with an id makes the user leave the node and touches Redis besides. -/
theorem loginOut_runs (conn : Conn) (js : Json) (id : Int) (w : World)
    (named : js.int "id" = .ok id) : ∃ m,
    loginOut conn js w = (.ok (), { w with node := leave id w.node, redis := m }) ∧
      RedisAccess.Kept (· = .user id) w.redis m := by
  have written := RedisAccess.kept_run _ _ (RedisClient.setUserOffline_writes id) w.redis
  refine ⟨_, ?_, written⟩
  rw [loginOut, named]
  rfl

/-- A logout whose id cannot be read throws before it changes anything. -/
theorem loginOut_malformed (conn : Conn) (js : Json) (exception : JsonError) (w : World)
    (unnamed : js.int "id" = .error exception) :
    loginOut conn js w = (.error (.json exception), w) := by
  rw [loginOut, unnamed]
  rfl

/-- A logout ends a session, or nothing happens. -/
theorem loginOut_ends (conn : Conn) (js : Json) (w : World) :
    (∃ outcome, loginOut conn js w = (outcome, w)) ∨
    ∃ id m, js.int "id" = .ok id ∧
      loginOut conn js w = (.ok (), { w with node := leave id w.node, redis := m }) ∧
      RedisAccess.Kept (· = .user id) w.redis m := by
  cases named : js.int "id" with
  | error exception => exact Or.inl ⟨_, loginOut_malformed conn js exception w named⟩
  | ok id =>
    obtain ⟨m, ended, kept⟩ := loginOut_runs conn js id w named
    exact Or.inr ⟨id, m, rfl, ended, kept⟩

/-- The entry found is one of the closed connection. -/
theorem connOf_of_entryOf (node : Node) (conn : Conn) (hint id : Int)
    (found : node.entryOf conn hint = some id) : node.connOf id = some conn := by
  unfold Node.entryOf at found
  split at found
  · rename_i hinted
    cases found
    exact hinted
  · obtain ⟨entry, picked, rfl⟩ := Option.map_eq_some_iff.mp found
    have stored : entry ∈ node.userConnMap.entries := List.mem_of_find?_eq_some picked
    have same : entry.2 = conn := by simpa using List.find?_some picked
    rw [← same]
    exact AList.mem_lookup_iff.mpr stored

/-- A closed connection that no user is on changes nothing. -/
theorem clientQuit_unmapped (conn : Conn) (hint : Int) (w : World)
    (missing : w.node.entryOf conn hint = none) :
    clientQuitEcption hint conn w = (.ok (), w) := by
  rw [clientQuitEcption, Effect.bind_ok _ _ _ _ _ (currentNode_run w), missing]
  rfl

/-- The user of id -1 leaves the map and nothing else. -/
theorem clientQuit_default (conn : Conn) (hint : Int) (w : World)
    (found : w.node.entryOf conn hint = some (-1)) :
    clientQuitEcption hint conn w = (.ok (), { w with node := w.node.forget (-1) }) := by
  rw [clientQuitEcption, Effect.bind_ok _ _ _ _ _ (currentNode_run w), found]
  rfl

/-- Any other user found is taken through the end of a session. -/
theorem clientQuit_ended (conn : Conn) (hint id : Int) (w : World)
    (found : w.node.entryOf conn hint = some id) (named : id ≠ -1) :
    clientQuitEcption hint conn w = (.ok (), { w with
      node := leave id w.node
      redis := (w.redis.run (RedisClient.setUserOffline id)).2 }) := by
  rw [clientQuitEcption, Effect.bind_ok _ _ _ _ _ (currentNode_run w), found]
  simp only [if_pos named]
  rfl

/-- A closed connection makes the user found on it leave the node. -/
theorem clientQuit_runs (conn : Conn) (hint id : Int) (w : World)
    (found : w.node.entryOf conn hint = some id) (named : id ≠ -1) : ∃ m,
    clientQuitEcption hint conn w = (.ok (), { w with node := leave id w.node, redis := m }) ∧
      RedisAccess.Kept (· = .user id) w.redis m :=
  ⟨_, clientQuit_ended conn hint id w found named,
    RedisAccess.kept_run _ _ (RedisClient.setUserOffline_writes id) w.redis⟩

/-- The closing of a connection that holds nobody changes nothing; otherwise it takes the
user of id -1 out of the map, or ends the session of another user. -/
theorem clientQuit_ends (conn : Conn) (hint : Int) (w : World) :
    clientQuitEcption hint conn w = (.ok (), w) ∨
    clientQuitEcption hint conn w = (.ok (), { w with node := w.node.forget (-1) }) ∨
    ∃ id m,
      clientQuitEcption hint conn w = (.ok (), { w with node := leave id w.node, redis := m }) ∧
      RedisAccess.Kept (· = .user id) w.redis m := by
  cases found : w.node.entryOf conn hint with
  | none => exact Or.inl (clientQuit_unmapped conn hint w found)
  | some id =>
    by_cases default : id = -1
    · subst default
      exact Or.inr (Or.inl (clientQuit_default conn hint w found))
    · obtain ⟨m, ended, kept⟩ := clientQuit_runs conn hint id w found default
      exact Or.inr (Or.inr ⟨id, m, ended, kept⟩)

/-!
## Groups
-/

/-- Entering memberless groups creates their entries and changes nobody's
membership, and nothing about the connections. -/
theorem enterGroups_memberless (id : Int) (groups : List Group) (node : Node)
    (memberless : ∀ group ∈ groups, group.users = []) :
    (enterGroups id groups node).userConnMap = node.userConnMap ∧
      (∀ groupid, (enterGroups id groups node).members groupid = node.members groupid) ∧
      ∀ groupid, (enterGroups id groups node).Cached groupid ↔
        groupid ∈ groups.map Group.id ∨ node.Cached groupid := by
  induction groups generalizing node with
  | nil => exact ⟨rfl, fun _ => rfl, by simp [enterGroups]⟩
  | cons group rest inductionHypothesis =>
    have touched : enterGroup id group node = node.touchGroup group.id := by
      rw [enterGroup, memberless group List.mem_cons_self]
      rfl
    obtain ⟨connections, members, cached⟩ := inductionHypothesis
      ((node.touchGroup group.id).subscribeGroupChannel group.id)
      (fun other member => memberless other (List.mem_cons_of_mem _ member))
    have unfolded : enterGroups id (group :: rest) node =
        enterGroups id rest ((node.touchGroup group.id).subscribeGroupChannel group.id) := by
      rw [← touched]
      rfl
    rw [unfolded]
    refine ⟨connections.trans (Node.userConnMap_touchGroup node group.id), ?_, ?_⟩
    · intro groupid
      exact (members groupid).trans (Node.members_touchGroup node group.id groupid)
    · intro groupid
      rw [cached groupid, List.map_cons, List.mem_cons]
      have first := Node.cached_touchGroup node group.id groupid
      constructor
      · rintro (later | here)
        · exact Or.inl (Or.inr later)
        · exact (first.mp here).imp_left Or.inl
      · rintro ((here | later) | old)
        · exact Or.inr (first.mpr (Or.inl here))
        · exact Or.inl later
        · exact Or.inr (first.mpr (Or.inr old))

/-- The node after a membership request: the user is in the entry of the group,
and the group's channel is asked for. -/
def join (groupid userid : Int) (node : Node) : Node :=
  (node.addMember groupid userid).subscribeGroupChannel groupid

/-- Entering a membership ends well and joins the user to the group on the node. -/
theorem enterMembership_runs (groupid userid : Int) (w : World) : ∃ m,
    enterMembership groupid userid w =
      (.ok (), { w with node := join groupid userid w.node, redis := m }) ∧
      RedisAccess.Kept (· = .groupMembers groupid) w.redis m := by
  have added := RedisAccess.kept_run _ _
    (RedisClient.sadd_writes (.groupMembers groupid) (toString userid)) w.redis
  have timed := RedisAccess.kept_run _ _ (RedisClient.expire_writes (.groupMembers groupid)
    (hours 1)) (w.redis.run (RedisClient.sadd (.groupMembers groupid) (toString userid))).2
  exact ⟨_, rfl, added.trans timed⟩

/-- The id a created group gets and the tables after its row is inserted. -/
def createdGroup (db : Database) (groupname groupdesc : String) : Int × Database :=
  match db.update 0 (.insertAllGroup groupname groupdesc) with
  | .ok next => (db.nextGroupId, next)
  | .error _ => (-1, db)

/-- Undisturbed, creating a group stores the founder's row and joins the founder on the node,
under the id the statements returned. -/
theorem createGroup_runs (conn : Conn) (js : Json) (userid : Int) (groupname groupdesc : String)
    (w : World) (named : js.int "id" = .ok userid) (titled : js.str "groupname" = .ok groupname)
    (described : js.str "groupdesc" = .ok groupdesc) (quiet : w.mysql.Undisturbed) : ∃ m,
    let created := createdGroup w.mysql.database groupname groupdesc
    createGroup conn js w = (.ok (), { w with
      node := join created.1 userid w.node
      mysql := Access.undisturbed
        (created.2.apply 0 (.insertGroupUser created.1 userid "creator"))
      redis := m }) ∧
      RedisAccess.Kept (· = .groupMembers created.1) w.redis m := by
  have inserted : w.mysql.run (GroupModel.createGroup { name := groupname, desc := groupdesc }) =
      (({ id := (createdGroup w.mysql.database groupname groupdesc).1, name := groupname,
          desc := groupdesc } : Group),
        Access.undisturbed (createdGroup w.mysql.database groupname groupdesc).2) := by
    rw [(Access.undisturbed_iff _).mp quiet, GroupModel.createGroup_undisturbed]
    simp only [createdGroup, Database.apply, Access.undisturbed]
    cases w.mysql.database.update 0 (.insertAllGroup groupname groupdesc) <;> rfl
  obtain ⟨m, ended, kept⟩ := enterMembership_runs
    (createdGroup w.mysql.database groupname groupdesc).1 userid { w with
      mysql := Access.undisturbed ((createdGroup w.mysql.database groupname groupdesc).2.apply 0
        (.insertGroupUser (createdGroup w.mysql.database groupname groupdesc).1 userid "creator")) }
  refine ⟨m, ?_, kept⟩
  rw [createGroup, named, titled, described]
  simp only [convert_ok_bind]
  rw [Effect.bind_ok _ _ _ _ _ (sql_run _ w), inserted, Effect.bind_ok _ _ _ _ _ (sql_run _ _)]
  simp only [GroupModel.joinGroup_undisturbed]
  exact ended

/-- Undisturbed, joining a group joins it on the node as well. -/
theorem joinGroup_runs (conn : Conn) (js : Json) (userid groupid : Int) (w : World)
    (named : js.int "id" = .ok userid) (grouped : js.int "groupid" = .ok groupid)
    (quiet : w.mysql.Undisturbed) : ∃ m,
    joinGroup conn js w = (.ok (), { w with
      node := join groupid userid w.node
      mysql := Access.undisturbed
        (w.mysql.database.apply 0 (.insertGroupUser groupid userid "normal"))
      redis := m }) ∧
      RedisAccess.Kept (· = .groupMembers groupid) w.redis m := by
  obtain ⟨m, ended, kept⟩ := enterMembership_runs groupid userid { w with
    mysql := Access.undisturbed
      (w.mysql.database.apply 0 (.insertGroupUser groupid userid "normal")) }
  refine ⟨m, ?_, kept⟩
  have inserted := GroupModel.joinGroup_undisturbed w.mysql.database userid groupid "normal"
  rw [← (Access.undisturbed_iff _).mp quiet] at inserted
  rw [joinGroup, named, grouped]
  simp only [convert_ok_bind]
  rw [Effect.bind_ok _ _ _ _ _ (sql_run _ w), inserted]
  exact ended

/-- The node after the fallback of `groupChat` has loaded these members. -/
def load (groupid : Int) (users : List Int) (node : Node) : Node :=
  (users.foldl (fun node id => node.addMember groupid id) node).subscribeGroupChannel groupid

/-- A request with no text to send changes nothing, whatever else it holds. -/
theorem groupChat_silent (conn : Conn) (js : Json) (w : World)
    (silent : emptyMessage js ≠ .ok false) : ∃ outcome, groupChat conn js w = (outcome, w) := by
  rw [groupChat]
  cases checked : emptyMessage js with
  | error exception => exact ⟨_, rfl⟩
  | ok empty =>
    cases empty with
    | true => exact ⟨_, rfl⟩
    | false => exact absurd checked silent

/-- A message with its sender and group is published, after the members were
loaded if the group had no entry. -/
theorem groupChat_runs (conn : Conn) (js : Json) (userid groupid : Int) (w : World)
    (spoken : emptyMessage js = .ok false) (named : js.int "id" = .ok userid)
    (grouped : js.int "groupid" = .ok groupid) : ∃ mysql,
    groupChat conn js w = (.ok (), { w with
      node := if w.node.Cached groupid then w.node
        else load groupid (w.mysql.run (GroupModel.queryGroupUsers userid groupid)).1 w.node
      mysql := mysql
      redis := (w.redis.run (RedisClient.publishGroupMessage groupid js)).2 }) ∧
      Access.Kept w.mysql mysql := by
  by_cases cached : w.node.Cached groupid
  · refine ⟨w.mysql, ?_, Access.kept_refl _⟩
    rw [groupChat, spoken, named, grouped, if_pos cached]
    simp only [convert_ok_bind, Bool.false_eq_true, if_false]
    change (if groupid ∉ w.node.groupMembers then _ else _ : Handler Unit) w = _
    have entry : groupid ∈ w.node.groupMembers := cached
    rw [if_neg (not_not.mpr entry)]
    rfl
  · refine ⟨(w.mysql.run (GroupModel.queryGroupUsers userid groupid)).2, ?_,
      Access.kept_run _ _ (GroupModel.queryGroupUsers_reads userid groupid)⟩
    rw [groupChat, spoken, named, grouped, if_neg cached]
    simp only [convert_ok_bind, Bool.false_eq_true, if_false]
    change (if groupid ∉ w.node.groupMembers then _ else _ : Handler Unit) w = _
    have missing : groupid ∉ w.node.groupMembers := cached
    rw [if_pos missing]
    rfl

/-- Without a numeric sender or group nothing happens. -/
theorem groupChat_malformed (conn : Conn) (js : Json) (w : World)
    (malformed : ∀ userid groupid, js.int "id" = .ok userid → js.int "groupid" ≠ .ok groupid) :
    ∃ outcome, groupChat conn js w = (outcome, w) := by
  by_cases spoken : emptyMessage js = .ok false
  · rw [groupChat, spoken]
    cases named : js.int "id" with
    | error exception => exact ⟨_, rfl⟩
    | ok userid =>
      cases grouped : js.int "groupid" with
      | error exception => exact ⟨_, rfl⟩
      | ok groupid => exact absurd grouped (malformed userid groupid named)
  · exact groupChat_silent conn js w spoken

/-- A group message is published, or nothing happens. -/
theorem groupChat_ends (conn : Conn) (js : Json) (w : World) :
    (∃ outcome, groupChat conn js w = (outcome, w)) ∨
    ∃ userid groupid mysql, emptyMessage js = .ok false ∧ js.int "id" = .ok userid ∧
      js.int "groupid" = .ok groupid ∧
      groupChat conn js w = (.ok (), { w with
        node := if w.node.Cached groupid then w.node
          else load groupid (w.mysql.run (GroupModel.queryGroupUsers userid groupid)).1 w.node
        mysql := mysql
        redis := (w.redis.run (RedisClient.publishGroupMessage groupid js)).2 }) ∧
      Access.Kept w.mysql mysql := by
  by_cases spoken : emptyMessage js = .ok false
  · rcases Json.given_or_malformed (js.int "id") (js.int "groupid") with
      ⟨userid, groupid, named, grouped⟩ | unread
    · obtain ⟨mysql, ended, kept⟩ := groupChat_runs conn js userid groupid w spoken named grouped
      exact Or.inr ⟨userid, groupid, mysql, spoken, named, grouped, ended, kept⟩
    · exact Or.inl (groupChat_malformed conn js w unread)
  · exact Or.inl (groupChat_silent conn js w spoken)

/-- A join without both ids throws before it changes anything. -/
theorem joinGroup_malformed (conn : Conn) (js : Json) (w : World)
    (malformed : ∀ userid groupid, js.int "id" = .ok userid → js.int "groupid" ≠ .ok groupid) :
    ∃ outcome, joinGroup conn js w = (outcome, w) := by
  rw [joinGroup]
  cases named : js.int "id" with
  | error exception => exact ⟨_, rfl⟩
  | ok userid =>
    cases grouped : js.int "groupid" with
    | error exception => exact ⟨_, rfl⟩
    | ok groupid => exact absurd grouped (malformed userid groupid named)

/-- A creation that misses a field throws before it changes anything. -/
theorem createGroup_malformed (conn : Conn) (js : Json) (w : World)
    (malformed : ∀ userid groupname groupdesc, js.int "id" = .ok userid →
      js.str "groupname" = .ok groupname → js.str "groupdesc" ≠ .ok groupdesc) :
    ∃ outcome, createGroup conn js w = (outcome, w) := by
  rw [createGroup]
  cases named : js.int "id" with
  | error exception => exact ⟨_, rfl⟩
  | ok userid =>
    cases titled : js.str "groupname" with
    | error exception => exact ⟨_, rfl⟩
    | ok groupname =>
      cases described : js.str "groupdesc" with
      | error exception => exact ⟨_, rfl⟩
      | ok groupdesc => exact absurd described (malformed userid groupname groupdesc named titled)

/-!
## Quiet worlds

Every handler is made of reads of the node, changes of the node, sends, calls on
the database and calls on Redis. None of them puts a disturbance back into the
scripts, and only the calls themselves change the database and Redis.
-/

/-- Nothing disturbs the database or Redis. -/
structure Quiet (w : World) : Prop where
  undisturbed : w.mysql.Undisturbed
  reliable : w.redis.Reliable

/-- A conversion changes nothing, whether it throws or not. -/
theorem within_convert {α : Type} (relation : World → World → Prop) [Std.Refl relation]
    (converted : Except JsonError α) : Effect.Within relation (convert converted) :=
  Effect.within_lift relation (converted.mapError Escape.json)

/-- A step to a quiet world if it starts in one. -/
def Calm (before after : World) : Prop := Quiet before → Quiet after

instance : Std.Refl Calm := ⟨fun _ => id⟩

instance : IsTrans World Calm := ⟨fun _ _ _ first second quiet => second (first quiet)⟩

/-- A JDBC program keeps an undisturbed database undisturbed. -/
theorem calm_sql {α : Type} (program : Jdbc α) : Effect.Within Calm (sql program) :=
  fun w quiet => ⟨w.mysql.run_undisturbed program quiet.undisturbed, quiet.reliable⟩

/-- Sending touches no database. -/
theorem calm_sendLine (conn : Conn) (body : Json) (newline : Bool) :
    Effect.Within Calm (sendLine conn body newline) :=
  fun _ quiet => ⟨quiet.undisturbed, quiet.reliable⟩

/-- Storing an offline message keeps the database undisturbed, on each of its ways out. -/
theorem calm_insertOffline (userId : Int) (message : String) :
    Effect.Within Calm (insertOffline userId message) := by
  intro w quiet
  have kept := w.mysql.run_undisturbed
    (OfflineMessage.insert (w.mysql.disturbances + 1) userId message w.node.failedQueue)
    quiet.undisturbed
  unfold insertOffline
  split <;> rename_i ended <;> rw [ended] at kept <;> exact ⟨kept, quiet.reliable⟩

/-!
## The inbox
-/

/-- The users a published message is for: its recipient if it names one, else the
cached members of its group. -/
def addressed (js : Json) (node : Node) : List Int :=
  if js.contains "to" then
    match js.int "to" with
    | .ok toId => [toId]
    | .error _ => []
  else if js.contains "groupid" then
    match js.int "groupid" with
    | .ok groupid => (node.members groupid).elements
    | .error _ => []
  else []

/-- The sends to those of the users who are connected on the node. -/
def copies (js : Json) (node : Node) (users : List Int) : List Output :=
  users.filterMap (fun uid => (node.connOf uid).map (fun conn => ⟨conn, js, true⟩))

/-- The loop over the other members sends one copy to each of them that is connected. -/
theorem fanOut_runs (js : Json) (users : List Int) (w : World) :
    fanOut js users w = (.ok (), { w with sent := w.sent ++ copies js w.node users }) := by
  induction users generalizing w with
  | nil =>
    rw [copies, List.filterMap_nil, List.append_nil]
    rfl
  | cons uid rest inductionHypothesis =>
    rw [fanOut, Effect.bind_ok _ _ _ _ _ (currentNode_run w)]
    cases found : w.node.connOf uid with
    | none =>
      refine (inductionHypothesis w).trans ?_
      simp [copies, found]
    | some conn =>
      refine (inductionHypothesis { w with sent := w.sent ++ [⟨conn, js, true⟩] }).trans ?_
      simp [copies, found]

/-- Storing an offline message sends nothing and leaves the maps and Redis. -/
theorem insertOffline_runs (userId : Int) (message : String) (w : World) :
    ∃ outcome failedQueue mysql, insertOffline userId message w =
      (outcome, { w with node := { w.node with failedQueue := failedQueue }, mysql := mysql }) := by
  unfold insertOffline
  cases w.mysql.run (OfflineMessage.insert (w.mysql.disturbances + 1) userId message
      w.node.failedQueue) with
  | mk result mysql =>
    cases result with
    | none => exact ⟨_, w.node.failedQueue, mysql, rfl⟩
    | some inserted => exact ⟨_, inserted.1, mysql, rfl⟩

/-- The callback sends to the addressed users who are connected, whatever fails,
and leaves the maps and the published messages. -/
theorem inboxCallback_runs (js : Json) (w : World) : ∃ outcome failedQueue mysql m,
    inboxCallback js w = (outcome, ⟨{ w.node with failedQueue := failedQueue }, mysql, m,
      w.sent ++ copies js w.node (addressed js w.node)⟩) ∧
    m.store.published = w.redis.store.published := by
  have unsent : w = ⟨{ w.node with failedQueue := w.node.failedQueue }, w.mysql, w.redis,
      w.sent ++ []⟩ := by rw [List.append_nil]
  rw [inboxCallback, addressed]
  by_cases private_ : js.contains "to" = true
  · rw [if_pos private_, if_pos private_]
    cases named : js.int "to" with
    | error exception => exact ⟨_, _, _, _, congrArg (Prod.mk _) unsent, rfl⟩
    | ok toId =>
      simp only [convert_ok_bind]
      rw [Effect.bind_ok _ _ _ _ _ (currentNode_run w)]
      cases found : w.node.connOf toId with
      | some conn =>
        refine ⟨.ok (), w.node.failedQueue, w.mysql, w.redis, ?_, rfl⟩
        simp only [copies, List.filterMap_cons, found, Option.map_some, List.filterMap_nil]
        rfl
      | none =>
        obtain ⟨stored, failedQueue, mysql, inserted⟩ := insertOffline_runs toId js.dump w
        have none : copies js w.node [toId] = [] := by simp [copies, found]
        rw [none]
        cases stored with
        | error escape =>
          refine ⟨.error escape, failedQueue, mysql, w.redis, ?_, rfl⟩
          rw [List.append_nil]
          exact Effect.bind_error _ _ _ _ _ inserted
        | ok success =>
          have pushed := RedisAccess.kept_run _ _
            (RedisClient.pushOfflineMessage_writes toId js) w.redis
          refine ⟨.ok (), failedQueue, mysql, _, ?_, pushed.published⟩
          rw [List.append_nil]
          exact (Effect.bind_ok _ _ _ _ _ inserted).trans rfl
  · rw [if_neg private_, if_neg private_]
    by_cases grouped : js.contains "groupid" = true
    · rw [if_pos grouped, if_pos grouped]
      cases named : js.int "groupid" with
      | error exception => exact ⟨_, _, _, _, congrArg (Prod.mk _) unsent, rfl⟩
      | ok groupid =>
        simp only [convert_ok_bind]
        rw [Effect.bind_ok _ _ _ _ _ (currentNode_run w), Node.members]
        cases w.node.groupMembers.lookup groupid with
        | none => exact ⟨_, _, _, _, congrArg (Prod.mk _) unsent, rfl⟩
        | some members =>
          exact ⟨.ok (), w.node.failedQueue, w.mysql, w.redis,
            fanOut_runs js members.elements w, rfl⟩
    · rw [if_neg grouped, if_neg grouped]
      exact ⟨_, _, _, _, congrArg (Prod.mk _) unsent, rfl⟩

/-!
## Publication
-/

/-- Nothing is published. -/
def SamePublished (before after : World) : Prop :=
  after.redis.store.published = before.redis.store.published

instance : Std.Refl SamePublished := ⟨fun _ => rfl⟩

instance : IsTrans World SamePublished := ⟨fun _ _ _ first second => second.trans first⟩

/-- Entering a membership publishes nothing. -/
theorem samePublished_enterMembership (groupid userid : Int) :
    Effect.Within SamePublished (enterMembership groupid userid) := by
  intro w
  obtain ⟨m, ended, kept⟩ := enterMembership_runs groupid userid w
  rw [SamePublished, ended]
  exact kept.published

/-- Creating a group publishes nothing. -/
theorem samePublished_createGroup (conn : Conn) (js : Json) :
    Effect.Within SamePublished (createGroup conn js) := by
  refine Effect.within_bind _ _ _ (within_convert SamePublished _) fun userid => ?_
  refine Effect.within_bind _ _ _ (within_convert SamePublished _) fun groupname => ?_
  refine Effect.within_bind _ _ _ (within_convert SamePublished _) fun groupdesc => ?_
  refine Effect.within_bind _ _ _ (fun _ => rfl) fun group => ?_
  exact Effect.within_bind _ _ _ (fun _ => rfl) fun _ => samePublished_enterMembership _ _

/-- Joining a group publishes nothing. -/
theorem samePublished_joinGroup (conn : Conn) (js : Json) :
    Effect.Within SamePublished (joinGroup conn js) := by
  refine Effect.within_bind _ _ _ (within_convert SamePublished _) fun userid => ?_
  refine Effect.within_bind _ _ _ (within_convert SamePublished _) fun groupid => ?_
  exact Effect.within_bind _ _ _ (fun _ => rfl) fun _ => samePublished_enterMembership _ _

/-- A logout publishes nothing. -/
theorem samePublished_loginOut (conn : Conn) (js : Json) :
    Effect.Within SamePublished (loginOut conn js) := by
  intro w
  rcases loginOut_ends conn js w with ⟨outcome, ended⟩ | ⟨id, m, _, ended, kept⟩
  · rw [SamePublished, ended]
  · rw [SamePublished, ended]
    exact kept.published

/-- A login publishes nothing. -/
theorem samePublished_login (conn : Conn) (js : Json) :
    Effect.Within SamePublished (login conn js) := by
  intro w
  obtain ⟨result, ended, ends⟩ := login_ends conn js w
  rw [SamePublished, ended]
  cases ends with
  | malformed escape unread => rfl
  | refused id pwd output mysql m named given seen rejected tables entries =>
    exact entries.published
  | admitted id pwd output groups after named given account absent letIn =>
    exact letIn.redis.published

/-- Redis is left alone. -/
def SameRedis (before after : World) : Prop := after.redis = before.redis

/-- A private message moves the world along any relation that its query, the storing
of a message and the sends move it along. -/
theorem within_oneChat (relation : World → World → Prop) [Std.Refl relation]
    [IsTrans World relation] (queries : ∀ id, Effect.Within relation (sql (FriendModel.query id)))
    (stores : ∀ userId message, Effect.Within relation (insertOffline userId message))
    (sends : ∀ conn body newline, Effect.Within relation (sendLine conn body newline))
    (conn : Conn) (js : Json) : Effect.Within relation (oneChat conn js) := by
  refine Effect.within_bind _ _ _ (within_convert relation _) ?_
  intro empty
  cases empty with
  | true => exact fun _ => Std.Refl.refl _
  | false =>
    simp only [Bool.false_eq_true, if_false]
    split
    · exact sends _ _ _
    · refine Effect.within_bind _ _ _ (within_convert relation _) fun id => ?_
      refine Effect.within_bind _ _ _ (within_convert relation _) fun toId => ?_
      refine Effect.within_bind _ _ _ (Effect.within_bind _ _ _ (queries id)
        (fun _ _ => Std.Refl.refl _)) fun friends => ?_
      cases friends with
      | true =>
        refine Effect.within_bind _ _ _ (fun _ => Std.Refl.refl _) ?_
        intro node
        cases node.connOf toId with
        | some toConn => exact Effect.within_bind _ _ _ (sends _ _ _) (fun _ => sends _ _ _)
        | none => exact Effect.within_bind _ _ _ (stores _ _) (fun _ => sends _ _ _)
      | false => exact sends _ _ _

/-- A private message keeps the database undisturbed. -/
theorem calm_oneChat (conn : Conn) (js : Json) : Effect.Within Calm (oneChat conn js) :=
  within_oneChat Calm (fun _ => calm_sql _) calm_insertOffline calm_sendLine conn js

end ChatService

end ClusterChat
