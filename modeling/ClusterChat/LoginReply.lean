import ClusterChat.NodeRuns

/-!
# The lists in the reply to a login

A login that is let in puts two lists into its reply: the friends that
`FriendModel::query` returned and the groups that `GroupModel::queryGroups` returned,
each group with its members. An entry is the dump of an object, inside an array of
strings; the states in it are what Redis says of each user at that moment. An empty
list is not put in at all.

`composeReply` is that part of the login for any two lists, and `answerLogin_reply`
says that every reply of a login that is let in is composed of the lists its queries
return, with no friends where a cached list was found. `composeReply_shows` gives the
reply itself: the opening with the texts of the users and groups as they are shown.

Redis may refuse and fail throughout; a user whose presence is not read is shown as
offline. What the queries return is a matter of the tables.
-/

namespace ClusterChat.LoginReply

open ChatService NodeRuns

/-- The part of a login after the query of the friends. -/
def withFriends (id : Int) (answer : Json) (vFriendList : List User) : Handler Json := do
  if vFriendList.isEmpty then return answer
  let tempFriendList ← friendTexts vFriendList
  redis (RedisClient.set (.friends id) (Json.ofStrings tempFriendList).dump (hours 1))
  return answer.set "friends" (Json.ofStrings tempFriendList)

/-- The part of a login after the query of the groups. -/
def withGroups (id : Int) (answer : Json) (vGroupList : List Group) : Handler Json := do
  if vGroupList.isEmpty then return answer
  let groupV ← groupTexts id vGroupList
  return answer.set "groups" (Json.ofStrings groupV)

/-- The reply before the lists are added. -/
def opening (userQuery : User) (offlineMsgs : List String) : Json :=
  let answer := ((response .loginMsgAck 0).set "id" (.integer userQuery.id)).set "name"
    (.string userQuery.name)
  if offlineMsgs.isEmpty then answer
  else answer.set "offlinemessage" (Json.ofStrings offlineMsgs)

/-- The reply of a login of the user, from any friend list and any group list. -/
def composeReply (id : Int) (userQuery : User) (offlineMsgs : List String)
    (vFriendList : List User) (vGroupList : List Group) : Handler Json := do
  let answer ← withFriends id (opening userQuery offlineMsgs) vFriendList
  withGroups id answer vGroupList

/-- A friend list that is cached leaves the answer alone; one that is not is queried and
added. -/
theorem addFriendList_eq (id : Int) (answer : Json) : addFriendList id answer = (do
    match ← redis (RedisClient.get (.friends id)) with
    | some _ => return answer
    | none => sql (FriendModel.query id) >>= withFriends id answer) := rfl

/-- The groups are queried and added. -/
theorem addGroupList_eq (id : Int) (answer : Json) :
    addGroupList id answer = sql (GroupModel.queryGroups id) >>= withGroups id answer := rfl

/-!
## What a reply shows
-/

/-- A user as a reply shows one, with the presence that was read. -/
def shownUser (user : User) (online : Bool) : User :=
  { id := user.id, name := user.name, state := if online then "online" else "offline" }

/-- A group member as the answer shows it. -/
def shownMember (user : GroupUser) (online : Bool) : GroupUser :=
  { shownUser user.toUser online with role := user.role }

/-- The users are those of the list, in its order, each with some presence. -/
def ShowsUsers (shown users : List User) : Prop :=
  List.Forall₂ (fun shown user => ∃ online, shown = shownUser user online) shown users

/-- The members of a group as the answer shows them. -/
def ShowsMembers (shown users : List GroupUser) : Prop :=
  List.Forall₂ (fun shown user => ∃ online, shown = shownMember user online) shown users

/-- A group as a reply shows one. -/
structure ShowsGroup (shown group : Group) : Prop where
  id : shown.id = group.id
  name : shown.name = group.name
  desc : shown.desc = group.desc
  users : ShowsMembers shown.users group.users

/-- The groups as the answer shows them. -/
def ShowsGroups (shown groups : List Group) : Prop := List.Forall₂ ShowsGroup shown groups

/-- The object of a friend. -/
def friendValue (user : User) : Json :=
  ((Json.null.set "id" (.integer user.id)).set "name" (.string user.name)).set "state"
    (.string user.state)

/-- The object of a member of a group. -/
def memberValue (user : GroupUser) : Json :=
  (friendValue user.toUser).set "role" (.string user.role)

/-- The object of a group, its members as texts. -/
def groupValue (group : Group) : Json :=
  groupJson group (group.users.map (fun user => (memberValue user).dump))

/-- The answer with the lists that are not empty. -/
def withLists (answer : Json) (friends : List User) (groups : List Group) : Json :=
  let answer := if friends.isEmpty then answer
    else answer.set "friends" (Json.ofStrings (friends.map (fun user => (friendValue user).dump)))
  if groups.isEmpty then answer
  else answer.set "groups" (Json.ofStrings (groups.map (fun group => (groupValue group).dump)))

/-- The groups of a reply are the texts of the groups it was given. -/
theorem groups_withLists (userQuery : User) (offlineMsgs : List String) (friends : List User)
    (groups : List Group) :
    ((withLists (opening userQuery offlineMsgs) friends groups).member "groups").strings =
      groups.map (fun group => (groupValue group).dump) := by
  have absent : (opening userQuery offlineMsgs).member "groups" = .null := by
    unfold opening
    split <;> simp [response, Json.member_set]
  have stillAbsent : (withLists (opening userQuery offlineMsgs) friends []).member "groups" =
      .null := by
    cases friends with
    | nil => exact absent
    | cons user rest => exact (Json.member_set _ _ _ _).trans absent
  cases groups with
  | nil =>
    rw [stillAbsent]
    rfl
  | cons group rest =>
    change (((withLists (opening userQuery offlineMsgs) friends []).set "groups"
      (Json.ofStrings _)).member "groups").strings = _
    rw [Json.member_set, if_pos rfl, Json.strings_ofStrings]

/-- The loop over the friends reads Redis and nothing else. -/
theorem friendTexts_shows (users : List User) (m : RedisAccess) : ∃ shown left,
    ShowsUsers shown users ∧ ∀ node mysql sent,
      friendTexts users ⟨node, mysql, m, sent⟩ =
        (.ok (shown.map (fun user => (friendValue user).dump)), ⟨node, mysql, left, sent⟩) := by
  induction users generalizing m with
  | nil => exact ⟨[], m, .nil, fun _ _ _ => rfl⟩
  | cons user rest inductionHypothesis =>
    obtain ⟨shown, left, shows, ended⟩ :=
      inductionHypothesis (m.run (RedisClient.isUserOnline user.id)).2
    refine ⟨shownUser user (m.run (RedisClient.isUserOnline user.id)).1 :: shown, left,
      .cons ⟨_, rfl⟩ shows, fun node mysql sent => ?_⟩
    rw [friendTexts, Effect.bind_ok _ _ _ _ _ (redis_run _ _),
      Effect.bind_ok _ _ _ _ _ (ended node mysql sent)]
    rfl

/-- The loop over the members shows each of them, whatever Redis answers. -/
theorem memberTexts_shows (users : List GroupUser) (m : RedisAccess) : ∃ shown left,
    ShowsMembers shown users ∧ ∀ node mysql sent,
      memberTexts users ⟨node, mysql, m, sent⟩ =
        (.ok (shown.map (fun user => (memberValue user).dump)), ⟨node, mysql, left, sent⟩) := by
  induction users generalizing m with
  | nil => exact ⟨[], m, .nil, fun _ _ _ => rfl⟩
  | cons user rest inductionHypothesis =>
    obtain ⟨shown, left, shows, ended⟩ :=
      inductionHypothesis (m.run (RedisClient.isUserOnline user.id)).2
    refine ⟨shownMember user (m.run (RedisClient.isUserOnline user.id)).1 :: shown, left,
      .cons ⟨_, rfl⟩ shows, fun node mysql sent => ?_⟩
    rw [memberTexts, Effect.bind_ok _ _ _ _ _ (redis_run _ _),
      Effect.bind_ok _ _ _ _ _ (ended node mysql sent)]
    rfl

/-- The loop over the groups shows each with its members. -/
theorem groupTexts_shows (id : Int) (groups : List Group) (m : RedisAccess) : ∃ shown left,
    ShowsGroups shown groups ∧ ∀ node mysql sent,
      groupTexts id groups ⟨node, mysql, m, sent⟩ =
        (.ok (shown.map (fun group => (groupValue group).dump)),
          ⟨enterGroups id groups node, mysql, left, sent⟩) := by
  induction groups generalizing m with
  | nil => exact ⟨[], m, .nil, fun _ _ _ => rfl⟩
  | cons group rest inductionHypothesis =>
    obtain ⟨members, read, showsMembers, endedMembers⟩ := memberTexts_shows group.users m
    obtain ⟨shown, left, shows, ended⟩ := inductionHypothesis read
    refine ⟨{ group with users := members } :: shown, left,
      .cons ⟨rfl, rfl, rfl, showsMembers⟩ shows, fun node mysql sent => ?_⟩
    rw [groupTexts, Effect.bind_ok _ _ _ _ _ (endedMembers node mysql sent),
      Effect.bind_ok _ _ _ _ _ (onNode_run _ _), Effect.bind_ok _ _ _ _ _ (onNode_run _ _),
      Effect.bind_ok _ _ _ _ _ (ended _ mysql sent)]
    rfl

/-- The friend part of the answer shows the friends it was given. -/
theorem withFriends_shows (id : Int) (answer : Json) (vFriendList : List User)
    (m : RedisAccess) : ∃ shown left, ShowsUsers shown vFriendList ∧ ∀ node mysql sent,
      withFriends id answer vFriendList ⟨node, mysql, m, sent⟩ =
        (.ok (withLists answer shown []), ⟨node, mysql, left, sent⟩) := by
  cases vFriendList with
  | nil => exact ⟨[], m, .nil, fun _ _ _ => rfl⟩
  | cons user rest =>
    obtain ⟨shown, read, shows, ended⟩ := friendTexts_shows (user :: rest) m
    cases shows with
    | cons first others =>
      rename_i firstShown othersShown
      refine ⟨firstShown :: othersShown, (read.run (RedisClient.set (.friends id)
        (Json.ofStrings ((firstShown :: othersShown).map fun user =>
          (friendValue user).dump)).dump (hours 1))).2, .cons first others,
        fun node mysql sent => ?_⟩
      change (friendTexts (user :: rest) >>= fun tempFriendList => do
        redis (RedisClient.set (.friends id) (Json.ofStrings tempFriendList).dump (hours 1))
        return answer.set "friends" (Json.ofStrings tempFriendList)) _ = _
      rw [Effect.bind_ok _ _ _ _ _ (ended node mysql sent)]
      rfl

/-- The group part shows the groups it was given. -/
theorem withGroups_shows (id : Int) (answer : Json) (vGroupList : List Group)
    (m : RedisAccess) : ∃ shown left, ShowsGroups shown vGroupList ∧ ∀ node mysql sent,
      withGroups id answer vGroupList ⟨node, mysql, m, sent⟩ =
        (.ok (withLists answer [] shown),
          ⟨enterGroups id vGroupList node, mysql, left, sent⟩) := by
  cases vGroupList with
  | nil => exact ⟨[], m, .nil, fun _ _ _ => rfl⟩
  | cons group rest =>
    obtain ⟨shown, left, shows, ended⟩ := groupTexts_shows id (group :: rest) m
    cases shows with
    | cons first others =>
      rename_i firstShown othersShown
      refine ⟨firstShown :: othersShown, left, .cons first others, fun node mysql sent => ?_⟩
      change (groupTexts id (group :: rest) >>= fun groupV =>
        return answer.set "groups" (Json.ofStrings groupV)) _ = _
      rw [Effect.bind_ok _ _ _ _ _ (ended node mysql sent)]
      rfl

/-- The reply shows the users and the groups of the two lists, whatever Redis does. -/
theorem composeReply_shows (id : Int) (userQuery : User) (offlineMsgs : List String)
    (vFriendList : List User) (vGroupList : List Group) (m : RedisAccess) :
    ∃ shownFriends shownGroups left,
      ShowsUsers shownFriends vFriendList ∧ ShowsGroups shownGroups vGroupList ∧
      ∀ node mysql sent,
        composeReply id userQuery offlineMsgs vFriendList vGroupList ⟨node, mysql, m, sent⟩ =
          (.ok (withLists (opening userQuery offlineMsgs) shownFriends shownGroups),
            ⟨enterGroups id vGroupList node, mysql, left, sent⟩) := by
  obtain ⟨shownFriends, read, friends, endedFriends⟩ :=
    withFriends_shows id (opening userQuery offlineMsgs) vFriendList m
  obtain ⟨shownGroups, left, groups, endedGroups⟩ := withGroups_shows id
    (withLists (opening userQuery offlineMsgs) shownFriends []) vGroupList read
  refine ⟨shownFriends, shownGroups, left, friends, groups, fun node mysql sent => ?_⟩
  rw [composeReply, Effect.bind_ok _ _ _ _ _ (endedFriends node mysql sent), endedGroups]
  rfl

/-!
## The replies of the logins that are let in
-/

/-- The friends a login puts into its reply: none when a cached list is found. -/
def friendsFound (id : Int) (w : World) : List User :=
  match (w.redis.run (RedisClient.get (.friends id))).1 with
  | some _ => []
  | none => (w.mysql.run (FriendModel.query id)).1

/-- The database once the friends were looked for. -/
def friendsAsked (id : Int) (w : World) : Access :=
  match (w.redis.run (RedisClient.get (.friends id))).1 with
  | some _ => w.mysql
  | none => (w.mysql.run (FriendModel.query id)).2

/-- The groups a login puts into its reply. -/
def groupsFound (id : Int) (w : World) : List Group :=
  ((friendsAsked id w).run (GroupModel.queryGroups id)).1

/-- Without a cached list the answer shows the friends the query found. -/
theorem addFriendList_found (id : Int) (answer : Json) (w : World) :
    addFriendList id answer w = withFriends id answer (friendsFound id w) { w with
      mysql := friendsAsked id w
      redis := (w.redis.run (RedisClient.get (.friends id))).2 } := by
  rw [addFriendList_eq, Effect.bind_ok _ _ _ _ _ (redis_run _ w), friendsFound, friendsAsked]
  cases (w.redis.run (RedisClient.get (.friends id))).1 with
  | some text => rfl
  | none => rfl

/-- The world in which a login looks for the lists: the waiting messages are taken. -/
def popped (id : Int) (w : World) : World :=
  { w with redis := (w.redis.run (RedisClient.popOfflineMessages id)).2 }

/-- What is left of a login sends the reply that is composed of the lists it found. -/
theorem answerLogin_reply (conn : Conn) (id : Int) (userQuery : User) (w : World) :
    ∃ reply after,
      (composeReply id userQuery (w.redis.run (RedisClient.popOfflineMessages id)).1
        (friendsFound id (popped id w)) (groupsFound id (popped id w)) { popped id w with
          redis := ((popped id w).redis.run (RedisClient.get (.friends id))).2 }).1 = .ok reply ∧
      answerLogin conn id userQuery w = (.ok (), after) ∧
      after.sent = w.sent ++ [⟨conn, reply, false⟩] := by
  have answered : answerLogin conn id userQuery w = (do
      let answer ← addFriendList id (opening userQuery
        (w.redis.run (RedisClient.popOfflineMessages id)).1)
      let answer ← addGroupList id answer
      send conn answer) (popped id w) := rfl
  rw [answered]
  generalize (w.redis.run (RedisClient.popOfflineMessages id)).1 = offlineMsgs
  have sent : (popped id w).sent = w.sent := rfl
  rw [← sent]
  generalize popped id w = asked
  generalize looked : (asked.redis.run (RedisClient.get (.friends id))).2 = m
  obtain ⟨shownFriends, read, friends, endedFriends⟩ :=
    withFriends_shows id (opening userQuery offlineMsgs) (friendsFound id asked) m
  obtain ⟨shownGroups, left, groups, endedGroups⟩ := withGroups_shows id
    (withLists (opening userQuery offlineMsgs) shownFriends []) (groupsFound id asked) read
  refine ⟨withLists (withLists (opening userQuery offlineMsgs) shownFriends []) [] shownGroups,
    ⟨enterGroups id (groupsFound id asked) asked.node,
      ((friendsAsked id asked).run (GroupModel.queryGroups id)).2, left, asked.sent ++ [⟨conn,
        withLists (withLists (opening userQuery offlineMsgs) shownFriends []) [] shownGroups,
        false⟩]⟩, ?_, ?_, rfl⟩
  · rw [composeReply, Effect.bind_ok _ _ _ _ _ (endedFriends asked.node asked.mysql asked.sent),
      endedGroups]
  · have foundFriends : addFriendList id (opening userQuery offlineMsgs) asked =
        (.ok (withLists (opening userQuery offlineMsgs) shownFriends []),
          ⟨asked.node, friendsAsked id asked, read, asked.sent⟩) := by
      rw [addFriendList_found, looked]
      exact endedFriends asked.node (friendsAsked id asked) asked.sent
    have foundGroups := endedGroups asked.node
      ((friendsAsked id asked).run (GroupModel.queryGroups id)).2 asked.sent
    rw [Effect.bind_ok _ _ _ _ _ foundFriends, addGroupList_eq]
    change ((withGroups id _ (groupsFound id asked)) >>= send conn) ⟨asked.node, _, read, _⟩ = _
    rw [Effect.bind_ok _ _ _ _ _ foundGroups]
    rfl

/-- A login sends no reply of errno 0, or one: the reply that is composed of the lists
of the user it lets in. -/
theorem login_replies (conn : Conn) (js : Json) (w : World) :
    (∀ output ∈ replies w (login conn js w).2, output.errno ≠ some 0) ∨
    ∃ id userQuery offlineMsgs asked left reply, js.int "id" = .ok id ∧
      asked.mysql = (w.mysql.run (UserModel.query id)).2 ∧
      (composeReply id userQuery offlineMsgs (friendsFound id asked) (groupsFound id asked)
        left).1 = .ok reply ∧
      replies w (login conn js w).2 = [⟨conn, reply, false⟩] := by
  rcases Json.given_or_malformed (js.int "id") (js.str "password") with
    ⟨id, pwd, named, given⟩ | unread
  · by_cases seen : Matches w id pwd → SeenOnline w id
    · left
      obtain ⟨output, mysql, m, ended, rejected, _, _⟩ :=
        login_refused conn js id pwd w named given seen
      rw [ended, replies_append w _ [output] rfl]
      intro other member
      rw [List.mem_singleton.mp member]
      exact rejected
    · right
      obtain ⟨account, absent⟩ := Classical.not_imp.mp seen
      obtain ⟨m, announced, _, _⟩ := announce_runs conn id { w with
        node := w.node.record id conn
        mysql := (w.mysql.run (UserModel.query id)).2
        redis := (w.redis.run (RedisClient.isUserOnline id)).2 }
      obtain ⟨reply, after, composed, answered, sent⟩ := answerLogin_reply conn id
        (w.mysql.run (UserModel.query id)).1 { w with
          node := w.node.record id conn
          mysql := (w.mysql.run (UserModel.query id)).2
          redis := m }
      refine ⟨id, _, _, _, _, reply, named, rfl, composed, ?_⟩
      rw [login_run conn js id pwd w named given, if_pos account, if_neg absent, acceptLogin,
        Effect.bind_ok _ _ _ _ _ (onNode_run _ _), Effect.bind_ok _ _ _ _ _ announced, answered]
      exact replies_append w after [⟨conn, reply, false⟩] sent
  · left
    obtain ⟨escape, ended⟩ := login_malformed conn js w unread
    rw [ended, replies_append w w [] (List.append_nil _).symm]
    intro output member
    exact absurd member List.not_mem_nil

end ClusterChat.LoginReply
