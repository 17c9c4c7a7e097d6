import ClusterChat.Framing
import ClusterChat.Requests

/-!
# A rejected request changes nothing

Received bytes can be turned away in four ways: they are no JSON text, or a
conversion throws while they are read; their message type has no handler; they are
a chat message without a text; or the reply carries an error number. In each case
everything the service keeps is as before: the connections and the member sets of
the node, its subscriptions, the tables, and Redis with all that was published.

A handler either leaves all of this alone or goes on to an end that is none of the
four. `rejected_unchanged` puts the eight handlers together behind the dispatch of
`ChatServer::onMessage`, for any parser and any disturbances of the database and
of Redis. Acquisitions and thrown statements are used up all the same, and what is
sent in a rejection is not its subject.
-/

namespace ClusterChat.Rejection

open ChatService Framing

/-- What the service keeps is as before. -/
structure Unchanged (before after : World) : Prop where
  userConnMap : after.node.userConnMap = before.node.userConnMap
  groupMembers : after.node.groupMembers = before.node.groupMembers
  subscriber : after.node.subscriber = before.node.subscriber
  tables : after.mysql.database = before.mysql.database
  redis : after.redis.store = before.redis.store

/-- Nothing is changed by doing nothing. -/
theorem unchanged_refl (w : World) : Unchanged w w := ⟨rfl, rfl, rfl, rfl, rfl⟩

/-- The request ended in an exception. -/
def Raised (result : Except Escape Unit × World) : Prop :=
  ∃ exception, result.1 = .error (.json exception)

/-- Something sent in answer to the request has an error number other than 0. -/
def AnsweredWithError (before after : World) : Prop :=
  ∃ output ∈ after.sent.drop before.sent.length, ∃ code, output.errno = some code ∧ code ≠ 0

/-- A chat message without a text, which its handler drops. -/
def Dropped (js : Json) (msgid : Int) : Prop :=
  (msgid = MsgType.oneChatMsg.code ∨ msgid = MsgType.groupChatMsg.code) ∧
    emptyMessage js = .ok true

/-- The received bytes are turned away. -/
def Rejected (parse : List UInt8 → Option Json) (conn : Conn) (w : World) (buf : List UInt8) :
    Prop :=
  match parse buf with
  | none => True
  | some js =>
      Raised (dispatch conn js w) ∨
      (∃ msgid, js.int "msgid" = .ok msgid ∧ (getHandler msgid = none ∨ Dropped js msgid)) ∨
      AnsweredWithError w (dispatch conn js w).2

/-- An end that is no rejection. -/
def Completed (w : World) (result : Except Escape Unit × World) : Prop :=
  ¬ Raised result ∧ ¬ AnsweredWithError w result.2

/-- A request that ends without an exception and sends these completes when none of
them has an error number. -/
theorem completed_of_sent (w : World) (result : Except Escape Unit × World)
    (outputs : List Output) (unraised : ∀ exception, result.1 ≠ .error (.json exception))
    (sent : result.2.sent = w.sent ++ outputs)
    (faultless : ∀ output ∈ outputs, ∀ code, output.errno = some code → code = 0) :
    Completed w result := by
  constructor
  · rintro ⟨exception, raised⟩
    exact unraised exception raised
  · rintro ⟨output, member, code, errno, nonzero⟩
    rw [sent, List.drop_left] at member
    exact nonzero (faultless output member code errno)

/-- The request sends nothing and returns. -/
theorem completed_silent (w after : World) (sent : after.sent = w.sent) :
    Completed w (.ok (), after) :=
  completed_of_sent w (.ok (), after) [] (by simp) (by rw [sent, List.append_nil]) (by simp)

/-- The request changes nothing or completes. -/
def Settled (handler : Handler Unit) : Prop :=
  ∀ w, Unchanged w (handler w).2 ∨ Completed w (handler w)

/-- A login changes nothing or completes. -/
theorem settled_login (conn : Conn) (js : Json) : Settled (login conn js) := by
  intro w
  obtain ⟨result, ended, ends⟩ := login_ends conn js w
  rw [ended]
  cases ends with
  | malformed escape unread => exact Or.inl (unchanged_refl w)
  | refused id pwd output mysql m named given seen rejected tables entries =>
    exact Or.inl ⟨rfl, rfl, rfl, tables.database, entries.store⟩
  | admitted id pwd output groups after named given account absent letIn =>
    refine Or.inr (completed_of_sent w _ [output] (by simp) letIn.sent ?_)
    intro reply isReply code errno
    rw [List.mem_singleton.mp isReply, letIn.errno] at errno
    exact (Option.some.inj errno).symm

/-- So does a registration. -/
theorem settled_reg (conn : Conn) (js : Json) : Settled (reg conn js) := by
  intro w
  have ends := reg_ends conn js w
  generalize reg conn js w = result at ends ⊢
  cases ends with
  | malformed exception unread => exact Or.inl (unchanged_refl w)
  | refused name password named given mysql kept => exact Or.inl ⟨rfl, rfl, rfl, kept, rfl⟩
  | inserted name password named given mysql m accepted kept =>
    refine Or.inr (completed_of_sent w _ [⟨conn, registered, false⟩] (by simp) rfl ?_)
    intro reply isReply code errno
    rw [List.mem_singleton.mp isReply] at errno
    have zero : (registered.member "errno").getInt.toOption = some 0 := by decide
    exact Option.some.inj (errno.symm.trans zero)

/-- So does a logout. -/
theorem settled_loginOut (conn : Conn) (js : Json) : Settled (loginOut conn js) := by
  intro w
  rcases loginOut_ends conn js w with ⟨outcome, ended⟩ | ⟨id, m, _, ended, _⟩
  · rw [ended]
    exact Or.inl (unchanged_refl w)
  · rw [ended]
    exact Or.inr (completed_silent w _ rfl)

/-- So does a private message. -/
theorem settled_oneChat (conn : Conn) (js : Json) : Settled (oneChat conn js) := by
  intro w
  have ends := oneChat_ends conn js w
  generalize oneChat conn js w = result at ends ⊢
  cases ends with
  | malformed exception unread => exact Or.inl (unchanged_refl w)
  | silent empty => exact Or.inl (unchanged_refl w)
  | incomplete unread => exact Or.inl ⟨rfl, rfl, rfl, rfl, rfl⟩
  | stranger id toId addressed unlisted mysql kept =>
    exact Or.inl ⟨rfl, rfl, rfl, kept.database, rfl⟩
  | relayed id toId addressed listed mysql kept toConn connected =>
    exact Or.inl ⟨rfl, rfl, rfl, kept.database, rfl⟩
  | stored id toId addressed listed absent failedQueue mysql =>
    refine Or.inr (completed_of_sent w _ [⟨conn, storedMessage, false⟩] (by simp) rfl ?_)
    intro reply isReply code errno
    rw [List.mem_singleton.mp isReply] at errno
    have zero : (storedMessage.member "errno").getInt.toOption = some 0 := by decide
    exact Option.some.inj (errno.symm.trans zero)
  | hung id toId addressed listed absent mysql =>
    exact Or.inr (completed_of_sent w _ [] (by simp) (List.append_nil _).symm (by simp))

/-- So does a friend request. -/
theorem settled_addFriend (conn : Conn) (js : Json) : Settled (addFriend conn js) := by
  intro w
  rcases addFriend_ends conn js w with ⟨outcome, ended⟩ | ⟨userid, friendid, _, _, ended⟩
  · rw [ended]
    exact Or.inl (unchanged_refl w)
  · rw [ended]
    exact Or.inr (completed_silent w _ rfl)

/-- So does the creation of a group. -/
theorem settled_createGroup (conn : Conn) (js : Json) : Settled (createGroup conn js) := by
  intro w
  rcases createGroup_ends conn js w with
    ⟨outcome, ended⟩ | ⟨userid, groupname, groupdesc, m, _, _, _, ended, _⟩
  · rw [ended]
    exact Or.inl (unchanged_refl w)
  · rw [ended]
    exact Or.inr (completed_silent w _ rfl)

/-- So does joining one. -/
theorem settled_joinGroup (conn : Conn) (js : Json) : Settled (joinGroup conn js) := by
  intro w
  rcases joinGroup_ends conn js w with ⟨outcome, ended⟩ | ⟨userid, groupid, m, _, _, ended, _⟩
  · rw [ended]
    exact Or.inl (unchanged_refl w)
  · rw [ended]
    exact Or.inr (completed_silent w _ rfl)

/-- So does a group message. -/
theorem settled_groupChat (conn : Conn) (js : Json) : Settled (groupChat conn js) := by
  intro w
  rcases groupChat_ends conn js w with ⟨outcome, ended⟩ | ⟨_, _, mysql, _, _, _, ended, _⟩
  · rw [ended]
    exact Or.inl (unchanged_refl w)
  · rw [ended]
    exact Or.inr (completed_silent w _ rfl)

/-- Every handler changes nothing or completes. -/
theorem settled_handler (msgid : Int) (handler : Conn → Json → Handler Unit) (conn : Conn)
    (js : Json) (found : getHandler msgid = some handler) : Settled (handler conn js) := by
  rcases getHandler_cases msgid handler found with
    rfl | rfl | rfl | rfl | rfl | rfl | rfl | rfl
  · exact settled_login conn js
  · exact settled_loginOut conn js
  · exact settled_reg conn js
  · exact settled_oneChat conn js
  · exact settled_addFriend conn js
  · exact settled_createGroup conn js
  · exact settled_joinGroup conn js
  · exact settled_groupChat conn js

/-- A dropped message changes nothing. -/
theorem dropped_unchanged (conn : Conn) (js : Json) (msgid : Int) (w : World)
    (handler : Conn → Json → Handler Unit) (found : getHandler msgid = some handler)
    (dropped : Dropped js msgid) : Unchanged w (handler conn js w).2 := by
  obtain ⟨rfl | rfl, empty⟩ := dropped
  · cases found
    rw [oneChat, empty]
    exact unchanged_refl w
  · cases found
    obtain ⟨outcome, ended⟩ := groupChat_silent conn js w (by rw [empty]; simp)
    rw [ended]
    exact unchanged_refl w

/-- Received bytes that are rejected leave everything the service keeps. -/
theorem rejected_unchanged (parse : List UInt8 → Option Json) (conn : Conn) (w : World)
    (buf : List UInt8) (rejected : Rejected parse conn w buf) :
    Unchanged w (ChatServer.onMessage parse conn w buf) := by
  unfold ChatServer.onMessage
  unfold Rejected at rejected
  cases parsed : parse buf with
  | none => exact unchanged_refl w
  | some js =>
    simp only [parsed] at rejected ⊢
    unfold dispatch at rejected ⊢
    cases named : js.int "msgid" with
    | error exception => exact unchanged_refl w
    | ok msgid =>
      simp only [named, convert_ok_bind] at rejected ⊢
      cases found : getHandler msgid with
      | none => exact unchanged_refl w
      | some handler =>
        simp only [found] at rejected ⊢
        rcases settled_handler msgid handler conn js found w with unchanged | completed
        · exact unchanged
        · rcases rejected with raised | ⟨_, same, none | dropped⟩ | answered
          · exact absurd raised completed.1
          · cases same
            rw [found] at none
            cases none
          · cases same
            exact dropped_unchanged conn js msgid w handler found dropped
          · exact absurd answered completed.2

/-- A node with the session of user 2, who is present in Redis and in a cached group; the
tables have two users, a friendship and the group. -/
def busy : World :=
  { World.start "node-1"
      { Database.empty with
        user := [⟨1, "ann", "a", "offline"⟩, ⟨2, "bob", "b", "online"⟩]
        friend := [⟨1, 2⟩]
        allGroup := [⟨7, "talk", "daily"⟩]
        groupUser := [⟨7, 2, "creator"⟩]
        nextUserId := 3
        nextGroupId := 8 }
      (Redis.empty.execute (.user 2) (.hset "online" "1")).2 with
    node := ((Node.fresh "node-1").addMember 7 2).record 2 ⟨"d"⟩ }

/-- A login with a password that is not the user's. -/
def guess : Json := loginRequest 1 "b"

/-- A parser that reads the login from its own text. -/
def parseGuess (buf : List UInt8) : Option Json :=
  if Chunks.trim 0 buf = ascii guess then some guess else none

/-- The login is answered with errno 1. -/
theorem rejected_unchanged_login :
    Unchanged busy (ChatServer.onMessage parseGuess ⟨"c"⟩ busy (ascii guess ++ [0])) :=
  rejected_unchanged parseGuess ⟨"c"⟩ busy (ascii guess ++ [0])
    (Or.inr (Or.inr ⟨⟨⟨"c"⟩, wrongPassword, false⟩, List.mem_singleton.mpr rfl, 1, by decide,
      by decide⟩))

end ClusterChat.Rejection
