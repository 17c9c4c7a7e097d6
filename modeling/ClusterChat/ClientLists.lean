import ClusterChat.ClientDecoding
import ClusterChat.LoginReply

/-!
# The lists of the client after a login

A login puts its friends and groups into the reply as texts inside a JSON value, the
members of a group as texts inside the text of the group. `doLoginResponse` replaces
the list the client had by the texts it reads. A list that is empty is not in the
reply, and the client then keeps the list of the login before.

`mirrors_iff` says for any two lists, any client and any reply composed of the lists
when the client has them afterwards: when each list is not empty or the client had
none of its kind, and every offline message can be printed, since the client does not
survive one that cannot.

The states of users are those the reply shows. Ids are C++ ints, and parsing the text
of a user or a group gives back its value. Of other texts nothing is assumed.
-/

namespace ClusterChat.ClientLists

open Client ChatService LoginReply
open Except (Returns)

/-- Parsing the texts of these users and groups gives their values back, with any
presence that is shown. -/
structure ReadsBack (parse : String → Option Json) (friends : List User) (groups : List Group) :
    Prop where
  users : ∀ user ∈ friends, ∀ online,
    parse (friendValue (shownUser user online)).dump = some (friendValue (shownUser user online))
  members : ∀ group ∈ groups, ∀ user ∈ group.users, ∀ online,
    parse (memberValue (shownMember user online)).dump =
      some (memberValue (shownMember user online))
  lists : ∀ group ∈ groups, ∀ shown, ShowsGroup shown group →
    parse (groupValue shown).dump = some (groupValue shown)

/-- The ids are ints. -/
structure Ints (userQuery : User) (friends : List User) (groups : List Group) : Prop where
  own : toInt userQuery.id = userQuery.id
  users : ∀ user ∈ friends, toInt user.id = user.id
  lists : ∀ group ∈ groups, toInt group.id = group.id
  members : ∀ group ∈ groups, ∀ user ∈ group.users, toInt user.id = user.id

/-- The reply shows the two lists, and the client survives it and then has exactly
them. -/
def Mirrors (parse : String → Option Json) (client : Client) (reply : Json) (userQuery : User)
    (offlineMsgs : List String) (friends : List User) (groups : List Group) : Prop :=
  ∃ shownFriends shownGroups after,
    ShowsUsers shownFriends friends ∧ ShowsGroups shownGroups groups ∧
    reply = withLists (opening userQuery offlineMsgs) shownFriends shownGroups ∧
    client.doLoginResponse parse reply = .ok after ∧
    after.currentUser.id = userQuery.id ∧
    after.currentUserFriendList = shownFriends ∧ after.currentUserGroupList = shownGroups

/-- No list of the reply is empty while the client still has one of its kind, and the
client can print every offline message. -/
structure Replaces (parse : String → Option Json) (client : Client) (offlineMsgs : List String)
    (friends : List User) (groups : List Group) : Prop where
  users : friends ≠ [] ∨ client.currentUserFriendList = []
  lists : groups ≠ [] ∨ client.currentUserGroupList = []
  offline : ∀ text ∈ offlineMsgs, Returns (offlineLine parse text)

/-!
## The texts of users and groups
-/

section Texts

variable (parse : String → Option Json)

/-- A friend is read back from its entry of the list. -/
theorem readFriend_shown (user : User) (online : Bool) (int : toInt user.id = user.id)
    (readsBack : parse (friendValue (shownUser user online)).dump =
      some (friendValue (shownUser user online))) :
    readFriend parse (friendValue (shownUser user online)).dump = .ok (shownUser user online) := by
  have named : (friendValue (shownUser user online)).int "id" = .ok user.id := by
    rw [friendValue, Json.int, Json.field_of_set]
    simp [Json.member_set, Json.getInt, shownUser, int, bind, Except.bind]
  have called : (friendValue (shownUser user online)).str "name" = .ok user.name := by
    rw [friendValue, Json.str, Json.field_of_set]
    simp [Json.member_set, Json.getString, shownUser, bind, Except.bind]
  have seen : (friendValue (shownUser user online)).str "state" =
      .ok (shownUser user online).state := by
    rw [friendValue, Json.str, Json.field_of_set]
    simp [Json.member_set, Json.getString, bind, Except.bind]
  simp only [readFriend, readsBack, parsed, bind, Except.bind, Client.convert, named, called, seen,
    Except.mapError]
  rfl

/-- So is a group member. -/
theorem readMember_shown (user : GroupUser) (online : Bool) (int : toInt user.id = user.id)
    (readsBack : parse (memberValue (shownMember user online)).dump =
      some (memberValue (shownMember user online))) :
    readMember parse (memberValue (shownMember user online)).dump =
      .ok (shownMember user online) := by
  have named : (memberValue (shownMember user online)).int "id" = .ok user.id := by
    rw [memberValue, Json.int, Json.field_of_set]
    simp [friendValue, Json.member_set, Json.getInt, shownMember, shownUser, int, bind,
      Except.bind]
  have called : (memberValue (shownMember user online)).str "name" = .ok user.name := by
    rw [memberValue, Json.str, Json.field_of_set]
    simp [friendValue, Json.member_set, Json.getString, shownMember, shownUser, bind, Except.bind]
  have seen : (memberValue (shownMember user online)).str "state" =
      .ok (shownMember user online).state := by
    rw [memberValue, Json.str, Json.field_of_set]
    simp [friendValue, Json.member_set, Json.getString, bind, Except.bind]
  have acting : (memberValue (shownMember user online)).str "role" = .ok user.role := by
    rw [memberValue, Json.str, Json.field_of_set]
    simp [Json.member_set, Json.getString, shownMember, bind, Except.bind]
  simp only [readMember, readFriend, readsBack, parsed, bind, Except.bind, Client.convert, named,
    called, seen, acting, Except.mapError]
  rfl

/-- A group is read with its members. -/
theorem readGroup_shown (group shown : Group) (shows : ShowsGroup shown group)
    (int : toInt group.id = group.id) (ids : ∀ user ∈ group.users, toInt user.id = user.id)
    (readsMembers : ∀ user ∈ group.users, ∀ online,
      parse (memberValue (shownMember user online)).dump =
        some (memberValue (shownMember user online)))
    (readsBack : parse (groupValue shown).dump = some (groupValue shown)) :
    readGroup parse (groupValue shown).dump = .ok shown := by
  have named : (groupValue shown).int "id" = .ok shown.id := by
    rw [groupValue, groupJson, Json.int, Json.field_of_set]
    simp [Json.member_set, Json.getInt, shows.id, int, bind, Except.bind]
  have called : (groupValue shown).str "groupname" = .ok shown.name := by
    rw [groupValue, groupJson, Json.str, Json.field_of_set]
    simp [Json.member_set, Json.getString, bind, Except.bind]
  have described : (groupValue shown).str "groupdesc" = .ok shown.desc := by
    rw [groupValue, groupJson, Json.str, Json.field_of_set]
    simp [Json.member_set, Json.getString, bind, Except.bind]
  have peopled : (groupValue shown).field "users" =
      .ok (Json.ofStrings (shown.users.map (fun user => (memberValue user).dump))) := by
    rw [groupValue, groupJson, Json.field_of_set, Json.member_set, if_pos rfl]
  have users : (shown.users.map (fun user => (memberValue user).dump)).mapM (readMember parse) =
      .ok shown.users := by
    apply Except.mapM_map_ok _ _ _ _ shows.users
    rintro _ member belongs ⟨online, rfl⟩
    exact readMember_shown parse member online (ids member belongs)
      (readsMembers member belongs online)
  simp only [readGroup, readsBack, parsed, bind, Except.bind, Client.convert, named, called,
    described, peopled, Except.mapError, ClientDecoding.getStrings_ofStrings]
  change (List.mapM (readMember parse) _ >>= fun users => pure _) = _
  rw [users]
  rfl

end Texts

/-!
## The lists of a reply
-/

/-- Another member of the reply does not change how a list is read. -/
theorem readList_set {α : Type} (read : String → Except Uncaught α) (js value : Json)
    (key other : String) (had : List α) (distinct : other ≠ key) :
    readList read (js.set key value) other had = readList read js other had := by
  unfold readList
  rw [Json.contains_set, if_neg distinct]
  cases js with
  | object members => rw [Json.field_set, if_neg distinct]
  | _ => rfl

/-- A list that the reply carries is read text by text. -/
theorem readList_set_self {α : Type} (read : String → Except Uncaught α) (js : Json)
    (key : String) (texts : List String) (had : List α) :
    readList read (js.set key (Json.ofStrings texts)) key had = texts.mapM read := by
  unfold readList
  rw [Json.contains_set, if_pos rfl, if_pos rfl, Json.field_of_set, Json.member_set, if_pos rfl]
  change (getStrings (Json.ofStrings texts) >>= fun vec => vec.mapM read) = _
  rw [ClientDecoding.getStrings_ofStrings]
  rfl

/-- A list the answer does not carry leaves the client's own. -/
theorem readList_absent {α : Type} (read : String → Except Uncaught α) (js : Json)
    (key : String) (had : List α) (absent : js.contains key = false) :
    readList read js key had = .ok had := by
  rw [readList, absent]
  rfl

section Reply

variable (parse : String → Option Json) (userQuery : User) (offlineMsgs : List String)
  (friends : List User) (groups : List Group)

/-- The first fields of the answer are not a list. -/
theorem contains_opening (key : String) (notMsgid : key ≠ "msgid") (notErrno : key ≠ "errno")
    (notId : key ≠ "id") (notName : key ≠ "name") (notOffline : key ≠ "offlinemessage") :
    (opening userQuery offlineMsgs).contains key = false := by
  unfold opening
  split <;> simp [response, Json.contains_set, notMsgid, notErrno, notId, notName, notOffline]

/-- The members of the reply other than the lists are those it was opened with. -/
theorem field_reply (key : String) (notFriends : key ≠ "friends") (notGroups : key ≠ "groups") :
    (withLists (opening userQuery offlineMsgs) friends groups).field key =
      .ok ((opening userQuery offlineMsgs).member key) := by
  have same : (withLists (opening userQuery offlineMsgs) friends groups).member key =
      (opening userQuery offlineMsgs).member key := by
    unfold withLists
    simp only
    split_ifs <;> simp [Json.member_set, notFriends, notGroups]
  have made : ∃ (js : Json) (last : String) (value : Json),
      withLists (opening userQuery offlineMsgs) friends groups = js.set last value := by
    unfold withLists opening
    simp only
    split_ifs <;> exact ⟨_, _, _, rfl⟩
  obtain ⟨js, last, value, built⟩ := made
  rw [← same, built]
  exact Json.field_of_set js last key value

/-- The friend list is read back from the answer. -/
theorem readList_friends (had : List User)
    (back : (friends.map (fun user => (friendValue user).dump)).mapM (readFriend parse) =
      .ok friends) :
    readList (readFriend parse) (withLists (opening userQuery offlineMsgs) friends groups)
      "friends" had = .ok (if friends.isEmpty then had else friends) := by
  have alone : readList (readFriend parse)
      (withLists (opening userQuery offlineMsgs) friends groups) "friends" had =
      readList (readFriend parse) (withLists (opening userQuery offlineMsgs) friends [])
        "friends" had := by
    cases groups with
    | nil => rfl
    | cons group rest => exact readList_set _ _ _ "groups" "friends" had (by decide)
  rw [alone]
  cases friends with
  | nil =>
    exact readList_absent _ _ _ _ (contains_opening userQuery offlineMsgs "friends" (by decide)
      (by decide) (by decide) (by decide) (by decide))
  | cons user rest => exact (readList_set_self _ _ "friends" _ had).trans back

/-- So is the group list. -/
theorem readList_groups (had : List Group)
    (back : (groups.map (fun group => (groupValue group).dump)).mapM (readGroup parse) =
      .ok groups) :
    readList (readGroup parse) (withLists (opening userQuery offlineMsgs) friends groups)
      "groups" had = .ok (if groups.isEmpty then had else groups) := by
  cases groups with
  | cons group rest => exact (readList_set_self _ _ "groups" _ had).trans back
  | nil =>
    have absent := contains_opening userQuery offlineMsgs "groups" (by decide) (by decide)
      (by decide) (by decide) (by decide)
    cases friends with
    | nil => exact readList_absent _ _ _ _ absent
    | cons user rest =>
      exact (readList_set _ _ _ "friends" "groups" had (by decide)).trans
        (readList_absent _ _ _ _ absent)

/-- The offline messages are read as they are waiting. -/
theorem readList_offline {α : Type} (read : String → Except Uncaught α) :
    readList read (withLists (opening userQuery offlineMsgs) friends groups) "offlinemessage" [] =
      offlineMsgs.mapM read := by
  have alone : readList read (withLists (opening userQuery offlineMsgs) friends groups)
      "offlinemessage" [] = readList read (opening userQuery offlineMsgs) "offlinemessage" [] := by
    unfold withLists
    simp only
    split_ifs <;> simp [readList_set]
  rw [alone]
  cases offlineMsgs with
  | nil => rfl
  | cons text rest =>
    exact readList_set_self read (((response .loginMsgAck 0).set "id" (.integer userQuery.id)).set
      "name" (.string userQuery.name)) "offlinemessage" (text :: rest) []

/-- The client a reply leaves, once its texts are read. -/
theorem doLoginResponse_reply (client : Client) (int : toInt userQuery.id = userQuery.id)
    (readFriends : (friends.map (fun user => (friendValue user).dump)).mapM (readFriend parse) =
      .ok friends)
    (readGroups : (groups.map (fun group => (groupValue group).dump)).mapM (readGroup parse) =
      .ok groups) :
    client.doLoginResponse parse (withLists (opening userQuery offlineMsgs) friends groups) =
      (offlineMsgs.mapM (offlineLine parse) >>= fun lines =>
        .ok { (showCurrentUserData { client with
          currentUser := { client.currentUser with id := userQuery.id }
          currentUserFriendList :=
            if friends.isEmpty then client.currentUserFriendList else friends
          currentUserGroupList :=
            if groups.isEmpty then client.currentUserGroupList else groups }).print lines with
          isLoginSuccess := true }) := by
  have errno : (opening userQuery offlineMsgs).member "errno" = .integer 0 := by
    unfold opening
    split <;> simp [response, Json.member_set]
  have named : (opening userQuery offlineMsgs).member "id" = .integer userQuery.id := by
    unfold opening
    split <;> simp [Json.member_set]
  have read : (withLists (opening userQuery offlineMsgs) friends groups).int "id" =
      .ok userQuery.id := by
    rw [Json.int, field_reply _ _ _ _ "id" (by decide) (by decide), named]
    exact congrArg Except.ok int
  rw [doLoginResponse, field_reply _ _ _ _ "errno" (by decide) (by decide), errno]
  change (enter parse client _ >>= _) = _
  rw [enter, read, readList_friends parse _ _ _ _ _ readFriends,
    readList_groups parse _ _ _ _ _ readGroups, readList_offline]
  rfl

end Reply

/-!
## The client and the server
-/

/-- The texts of shown users and groups are read as they are shown. -/
theorem reads_shown {parse : String → Option Json} {userQuery : User} {friends : List User}
    {groups : List Group} (readsBack : ReadsBack parse friends groups)
    (ints : Ints userQuery friends groups) {shownFriends : List User}
    {shownGroups : List Group} (showsFriends : ShowsUsers shownFriends friends)
    (showsGroups : ShowsGroups shownGroups groups) :
    (shownFriends.map (fun user => (friendValue user).dump)).mapM (readFriend parse) =
        .ok shownFriends ∧
      (shownGroups.map (fun group => (groupValue group).dump)).mapM (readGroup parse) =
        .ok shownGroups := by
  constructor
  · apply Except.mapM_map_ok _ _ _ _ showsFriends
    rintro _ user listed ⟨online, rfl⟩
    exact readFriend_shown parse user online (ints.users user listed)
      (readsBack.users user listed online)
  · apply Except.mapM_map_ok _ _ _ _ showsGroups
    intro shown group listed shows
    exact readGroup_shown parse group shown shows (ints.lists group listed)
      (ints.members group listed) (readsBack.members group listed)
      (readsBack.lists group listed shown shows)

/-- A list that replaces another where it is not empty is the list afterwards exactly
when it is not empty or there was none. -/
theorem replaced_iff {α : Type} (shown had : List α) :
    (if shown.isEmpty then had else shown) = shown ↔ shown ≠ [] ∨ had = [] := by
  cases shown with
  | nil => simp
  | cons item rest => simp

/-- Lists that correspond are empty together. -/
theorem nonempty_iff {α β : Type} {relation : α → β → Prop} {shown items : List _}
    (each : List.Forall₂ relation shown items) : shown ≠ [] ↔ items ≠ [] := by
  cases each <;> simp

/-- After a reply composed of any two lists the client has these lists exactly when
each is not empty or the client had none of its kind, and the offline messages can be
printed. -/
theorem mirrors_iff (parse : String → Option Json) (id : Int) (userQuery : User)
    (offlineMsgs : List String) (friends : List User) (groups : List Group) (w : World)
    (reply : Json) (client : Client)
    (composed : (composeReply id userQuery offlineMsgs friends groups w).1 = .ok reply)
    (readsBack : ReadsBack parse friends groups) (ints : Ints userQuery friends groups) :
    Mirrors parse client reply userQuery offlineMsgs friends groups ↔
      Replaces parse client offlineMsgs friends groups := by
  constructor
  · rintro ⟨shownFriends, shownGroups, after, showsFriends, showsGroups, rfl, ended, _,
      sameFriends, sameGroups⟩
    obtain ⟨readFriends, readGroups⟩ := reads_shown readsBack ints showsFriends showsGroups
    rw [doLoginResponse_reply parse userQuery offlineMsgs shownFriends shownGroups client ints.own
      readFriends readGroups] at ended
    obtain ⟨lines, printed, finished⟩ := (Except.bind_eq_ok _ _ _).mp ended
    cases finished
    refine ⟨?_, ?_, (Except.returns_mapM _ _).mp ⟨lines, printed⟩⟩
    · rw [← nonempty_iff showsFriends]
      exact (replaced_iff _ _).mp sameFriends
    · rw [← nonempty_iff showsGroups]
      exact (replaced_iff _ _).mp sameGroups
  · intro replaces
    obtain ⟨shownFriends, shownGroups, left, showsFriends, showsGroups, shown⟩ :=
      composeReply_shows id userQuery offlineMsgs friends groups w.redis
    have built : reply = withLists (opening userQuery offlineMsgs) shownFriends shownGroups :=
      Except.ok.inj (composed.symm.trans (congrArg Prod.fst (shown w.node w.mysql w.sent)))
    obtain ⟨readFriends, readGroups⟩ := reads_shown readsBack ints showsFriends showsGroups
    obtain ⟨lines, printed⟩ := (Except.returns_mapM _ _).mpr replaces.offline
    have ended := doLoginResponse_reply parse userQuery offlineMsgs shownFriends shownGroups
      client ints.own readFriends readGroups
    rw [printed] at ended
    refine ⟨shownFriends, shownGroups, _, showsFriends, showsGroups, built, built ▸ ended, rfl,
      (replaced_iff _ _).mpr ?_, (replaced_iff _ _).mpr ?_⟩
    · rw [nonempty_iff showsFriends]
      exact replaces.users
    · rw [nonempty_iff showsGroups]
      exact replaces.lists

/-- The friend of the example. -/
def bob : User := { id := 2, name := "bob" }

/-- The group member of the example. -/
def ann : GroupUser := { id := 3, name := "ann", role := "creator" }

/-- The group of the example. -/
def club : Group := { id := 1, name := "club", users := [ann] }

/-- The values whose texts a reply with this friend and this group can hold. -/
def values : List Json :=
  [true, false].flatMap fun online =>
    [friendValue (shownUser bob online), memberValue (shownMember ann online),
      groupValue { club with users := [shownMember ann online] }]

/-- A parser of their texts. -/
def parseValues (text : String) : Option Json := values.find? (fun value => value.dump = text)

/-- Each of the values has a text of its own. -/
theorem parseValues_dump : ∀ value ∈ values, parseValues value.dump = some value := by
  have distinct : (values.map Json.dump).Nodup := by decide +kernel
  unfold parseValues
  generalize values = listed at distinct ⊢
  induction listed with
  | nil => exact fun value none => absurd none List.not_mem_nil
  | cons first rest inductionHypothesis =>
    rw [List.map_cons, List.nodup_cons] at distinct
    intro value member
    rcases List.mem_cons.mp member with rfl | later
    · exact List.find?_cons_of_pos (decide_eq_true rfl)
    · have other : first.dump ≠ value.dump :=
        fun same => distinct.1 (same ▸ List.mem_map_of_mem later)
      rw [List.find?_cons_of_neg (by simpa using other)]
      exact inductionHypothesis distinct.2 value later

/-- The example's parser reads the entries back. -/
theorem readsBack_values : ReadsBack parseValues [bob] [club] := by
  constructor
  · intro user listed online
    rw [List.mem_singleton.mp listed]
    exact parseValues_dump _ (by cases online <;> simp [values])
  · intro group listed user member online
    rw [List.mem_singleton.mp listed] at member
    rw [List.mem_singleton.mp member]
    exact parseValues_dump _ (by cases online <;> simp [values])
  · rintro group listed shown ⟨sameId, sameName, sameDesc, shows⟩
    rw [List.mem_singleton.mp listed] at sameId sameName sameDesc shows
    obtain ⟨id, name, desc, users⟩ := shown
    simp only at sameId sameName sameDesc shows
    cases shows with
    | cons first rest =>
      obtain ⟨online, rfl⟩ := first
      cases rest
      rw [sameId, sameName, sameDesc]
      exact parseValues_dump _ (by cases online <;> simp [values])

/-- A client that was logged in as a user with a friend and a group gets the lists of
the next user. -/
theorem mirrors_iff_values : ∃ reply, ReadsBack parseValues [bob] [club] ∧
    (Mirrors parseValues { currentUserFriendList := [ann.toUser], currentUserGroupList := [club] }
        reply { id := 1 } [] [bob] [club] ↔
      Replaces parseValues
        { currentUserFriendList := [ann.toUser], currentUserGroupList := [club] } []
        [bob] [club]) :=
  ⟨_, readsBack_values, mirrors_iff parseValues 1 { id := 1 } [] [bob] [club]
    (World.start "node-1" Database.empty Redis.empty) _ _ rfl readsBack_values
    (by constructor <;> decide)⟩

/-- A user without friends logs in and keeps the friend of the user before. -/
theorem friends_of_last_login : ¬ ∀ parse id userQuery friends groups w reply client,
    (composeReply id userQuery [] friends groups w).1 = .ok reply →
    ReadsBack parse friends groups → Ints userQuery friends groups →
    Mirrors parse client reply userQuery [] friends groups := by
  intro mirrors
  have none {α : Type} {property : α → Prop} : ∀ item ∈ ([] : List α), property item :=
    fun _ impossible => absurd impossible List.not_mem_nil
  obtain ⟨shownFriends, shownGroups, after, showsFriends, _, _, ended, _, sameFriends, _⟩ :=
    mirrors (fun _ => Option.none) 1 { id := 1 } [] []
      (World.start "node-1" Database.empty Redis.empty) (opening { id := 1 } [])
      { currentUserFriendList := [bob] } rfl ⟨none, none, none⟩ ⟨rfl, none, none, none⟩
  cases showsFriends
  cases ended
  cases sameFriends

end ClusterChat.ClientLists
