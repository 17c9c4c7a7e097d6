import ClusterChat.Client
import ClusterChat.Library.Returns
import ClusterChat.NodeRuns

/-!
# Forwarded messages in the receiving client

`oneChat` and `groupChat` check the text, the sender and the addressee of a chat
message and send the message on as it came. The client that receives it reads more:
the time and the name of the sender, both as strings. This module says for which
accepted messages every client survives every way of receiving them.

A message is received live, from the handler of the sender's node, through the
callback for published messages, or as one text of the offline messages in the
reply to a login. In the last case the rest of the reply is taken to be in order.
The parser of the client is assumed to read back the message from its own text and
is otherwise arbitrary.

`handled_iff_printable` is about whole messages. What becomes of a message whose
bytes are cut or merged on the way is not part of it.
-/

namespace ClusterChat.ClientDecoding

open Client ChatService
open Except (Returns returns_pure returns_bind returns_mapM returns_mapError)

/-- The client handles the message without an uncaught exception, in whatever state
it is. -/
def Handles (parse : String → Option Json) (message : Json) : Prop :=
  ∀ client, ∃ next, handle parse client message = .ok next

/-- The message has a time and the name of its sender, both strings. -/
structure Printable (js : Json) : Prop where
  timed : ∃ time, js.str "time" = .ok time
  signed : ∃ name, js.str "name" = .ok name

/-- The messages the server accepts and forwards. A group message that names a
recipient is sent on to that recipient, who must be given as a number. -/
inductive Accepted (js : Json) : Prop
  | oneChat (id toId : Int) (type : js.int "msgid" = .ok MsgType.oneChatMsg.code)
      (addressed : Addressed js id toId)
  | groupChat (userid groupid : Int) (type : js.int "msgid" = .ok MsgType.groupChatMsg.code)
      (spoken : emptyMessage js = .ok false) (named : js.int "id" = .ok userid)
      (grouped : js.int "groupid" = .ok groupid)
      (routed : js.contains "to" = true → ∃ toId, js.int "to" = .ok toId)

/-!
## The line of a message
-/

/-- A message with a text is an object, and the text is a string. -/
theorem spoken_object (js : Json) (spoken : emptyMessage js = .ok false) :
    (∃ members, js = .object members) ∧ Returns (js.str "msg") := by
  cases js with
  | object members =>
    refine ⟨⟨members, rfl⟩, ?_⟩
    rw [Json.str]
    unfold emptyMessage at spoken
    cases read : (Json.object members).field "msg" with
    | error exception =>
      rw [read] at spoken
      cases spoken
    | ok msg =>
      rw [read] at spoken
      cases msg with
      | string text => exact ⟨text, rfl⟩
      | _ => cases spoken
  | _ => cases spoken

/-- An object has every field, if only as `null`. -/
theorem returns_field (members : List (String × Json)) (key : String) :
    Returns ((Json.object members).field key) := ⟨_, rfl⟩

/-- A private message is shown if and only if it is printable. -/
theorem oneChatLine_returns (js : Json) (spoken : emptyMessage js = .ok false) :
    Returns (oneChatLine js) ↔ Printable js := by
  obtain ⟨⟨members, rfl⟩, text, told⟩ := spoken_object js spoken
  obtain ⟨id, sender⟩ := returns_field members "id"
  rw [oneChatLine, returns_bind]
  constructor
  · rintro ⟨time, timed, later⟩
    obtain ⟨_, _, later⟩ := (returns_bind _ _).mp later
    obtain ⟨name, signed, _⟩ := (returns_bind _ _).mp later
    exact ⟨⟨time, timed⟩, ⟨name, signed⟩⟩
  · rintro ⟨⟨time, timed⟩, ⟨name, signed⟩⟩
    refine ⟨time, timed, ?_⟩
    rw [sender, signed, told]
    exact returns_pure _

/-- So is a group message. -/
theorem groupChatLine_returns (js : Json) (spoken : emptyMessage js = .ok false) :
    Returns (groupChatLine js) ↔ Printable js := by
  obtain ⟨⟨members, rfl⟩, _⟩ := spoken_object js spoken
  obtain ⟨groupid, grouped⟩ := returns_field members "groupid"
  rw [groupChatLine, returns_bind, ← oneChatLine_returns _ spoken]
  constructor
  · rintro ⟨_, _, later⟩
    obtain ⟨line, printed, _⟩ := (returns_bind _ _).mp later
    exact ⟨line, printed⟩
  · rintro ⟨line, printed⟩
    exact ⟨groupid, grouped, (returns_bind _ _).mpr ⟨line, printed, returns_pure _⟩⟩

/-- A client that prints a line for a message handles it when the line is there. -/
theorem handles_line (parse : String → Option Json) (js : Json) (line : Except JsonError String)
    (printed : ∀ client, handle parse client js =
      Client.convert line >>= fun text => pure (client.print [text])) :
    Handles parse js ↔ Returns line := by
  rw [← returns_mapError Uncaught.json]
  constructor
  · intro handled
    obtain ⟨next, ended⟩ := handled {}
    rw [printed] at ended
    obtain ⟨text, read, _⟩ := (returns_bind _ _).mp ⟨next, ended⟩
    exact ⟨text, read⟩
  · rintro ⟨text, read⟩ client
    rw [printed]
    exact (returns_bind _ _).mpr ⟨text, read, returns_pure _⟩

/-- A message received live is handled when its line can be printed. -/
theorem handles_iff (parse : String → Option Json) (js : Json) (accepted : Accepted js) :
    Handles parse js ↔ Printable js := by
  cases accepted with
  | oneChat id toId type addressed =>
    rw [← oneChatLine_returns js addressed.spoken]
    refine handles_line parse js _ fun client => ?_
    rw [handle, type]
    rfl
  | groupChat userid groupid type spoken named grouped routed =>
    rw [← groupChatLine_returns js spoken]
    refine handles_line parse js _ fun client => ?_
    rw [handle, type]
    rfl

/-- A message among the offline messages is handled under the same condition. -/
theorem offlineLine_returns (parse : String → Option Json) (js : Json) (accepted : Accepted js)
    (readBack : parse js.dump = some js) :
    Returns (offlineLine parse js.dump) ↔ Printable js := by
  have opened : offlineLine parse js.dump = (do
      let msgid ← Client.convert (js.int "msgid")
      if msgid = MsgType.oneChatMsg.code then Client.convert (oneChatLine js)
      else Client.convert (groupChatLine js)) := by
    rw [offlineLine, readBack]
    rfl
  rw [opened]
  cases accepted with
  | oneChat id toId type addressed =>
    rw [type, ← oneChatLine_returns js addressed.spoken]
    exact returns_mapError Uncaught.json _
  | groupChat userid groupid type spoken named grouped routed =>
    rw [type, ← groupChatLine_returns js spoken]
    exact returns_mapError Uncaught.json _

/-!
## The reply to a login
-/

/-- A list of texts is read back. -/
theorem getStrings_ofStrings (texts : List String) :
    getStrings (Json.ofStrings texts) = .ok texts := by
  unfold getStrings Json.ofStrings
  induction texts with
  | nil => rfl
  | cons text rest inductionHypothesis =>
    simp only [List.map_cons, List.mapM_cons] at inductionHypothesis ⊢
    rw [inductionHypothesis]
    rfl

/-- A list of texts that is there is read text by text. -/
theorem readList_returns {α : Type} (read : String → Except Uncaught α)
    (members : List (String × Json)) (key : String) (texts : List String) (had : List α)
    (carried : (Json.object members).member key = Json.ofStrings texts) :
    Returns (readList read (.object members) key had) ↔ ∀ text ∈ texts, Returns (read text) := by
  have present : (Json.object members).contains key = true := by
    rw [Json.member] at carried
    rw [Json.contains]
    cases found : members.lookup key with
    | none =>
      rw [found] at carried
      cases carried
    | some item => rfl
  rw [readList, if_pos present, Json.field_object, carried, ← returns_mapM]
  change Returns (getStrings (Json.ofStrings texts) >>= fun vec => vec.mapM read) ↔ _
  rw [getStrings_ofStrings]
  exact Iff.rfl

section Replies

variable (parse : String → Option Json) (client : Client) (members : List (String × Json))
  (value : Json)

/-- The part of a reply before the offline messages does not depend on them. -/
theorem enter_set : enter parse client ((Json.object members).set "offlinemessage" value) =
    enter parse client (.object members) := by
  simp only [enter, readList, Json.int, Json.field_set, Json.contains_set]
  simp

/-- A login reply is handled when its offline messages are, and the rest is. -/
theorem doLoginResponse_returns (texts rest : List String)
    (carried : (Json.object members).member "offlinemessage" = Json.ofStrings texts)
    (printed : ∀ text ∈ texts, text ∉ rest → Returns (offlineLine parse text))
    (inOrder : Returns (doLoginResponse parse client
      ((Json.object members).set "offlinemessage" (Json.ofStrings rest)))) :
    Returns (doLoginResponse parse client (.object members)) := by
  have replaced : ((Json.object members).set "offlinemessage"
      (Json.ofStrings rest)).member "offlinemessage" = Json.ofStrings rest := by
    rw [Json.member_set, if_pos rfl]
  unfold doLoginResponse at inOrder ⊢
  simp only [enter_set, Json.field_set] at inOrder
  rw [returns_bind] at inOrder ⊢
  obtain ⟨errno, read, later⟩ := inOrder
  refine ⟨errno, read, ?_⟩
  split at later
  · rename_i zero
    rw [if_pos zero]
    obtain ⟨entered, lists, later⟩ := (returns_bind _ _).mp later
    obtain ⟨lines, remaining, _⟩ := (returns_bind _ _).mp later
    have others := (readList_returns _ _ _ rest _ replaced).mp ⟨lines, remaining⟩
    have every : ∀ text ∈ texts, Returns (offlineLine parse text) := by
      intro text member
      by_cases kept : text ∈ rest
      · exact others text kept
      · exact printed text member kept
    obtain ⟨all, told⟩ := (readList_returns _ members "offlinemessage" texts [] carried).mpr every
    exact (returns_bind _ _).mpr ⟨entered, lists,
      (returns_bind _ _).mpr ⟨all, told, returns_pure _⟩⟩
  · rename_i nonzero
    rw [if_neg nonzero]
    exact later

end Replies

/-- A reply whose other texts are in order is handled when the remaining ones are
printed. -/
theorem handles_reply (parse : String → Option Json) (reply : Json) (texts rest : List String)
    (carried : reply.member "offlinemessage" = Json.ofStrings texts)
    (printed : ∀ text ∈ texts, text ∉ rest → Returns (offlineLine parse text))
    (inOrder : Handles parse (reply.set "offlinemessage" (Json.ofStrings rest))) :
    Handles parse reply := by
  cases reply with
  | object members =>
    intro client
    have handled : Returns (handle parse client ((Json.object members).set "offlinemessage"
      (Json.ofStrings rest))) := inOrder client
    change Returns _
    unfold handle at handled ⊢
    simp only [Json.int, oneChatLine, groupChatLine, doRegResponse, Json.str, Json.field_set,
      String.reduceEq, if_false] at handled ⊢
    rw [returns_bind] at handled ⊢
    obtain ⟨msgType, typed, later⟩ := handled
    refine ⟨msgType, typed, ?_⟩
    split_ifs at later ⊢ with private_ group login
    · exact later
    · exact later
    · exact doLoginResponse_returns parse client members texts rest carried printed later
    · exact later
    · exact later
  | _ => cases carried

/-!
## Deliveries
-/

/-- What a client receives on account of an accepted message: what its handler
sends, what the callback sends for it, and a login reply that carries its text. -/
inductive Delivery (parse : String → Option Json) (js : Json) : Json → Prop
  | live (conn : Conn) (w : World) (output : Output)
      (sent : output ∈ NodeRuns.replies w (dispatch conn js w).2) : Delivery parse js output.body
  | inbox (w : World) (output : Output)
      (sent : output ∈ NodeRuns.replies w (inboxCallback js w).2) : Delivery parse js output.body
  | waiting (conn : Conn) (request : Json) (w : World) (output : Output) (texts : List String)
      (sent : output ∈ NodeRuns.replies w (login conn request w).2)
      (carried : output.body.member "offlinemessage" = Json.ofStrings texts)
      (listed : js.dump ∈ texts)
      (inOrder : Handles parse (output.body.set "offlinemessage"
        (Json.ofStrings (texts.filter (· ≠ js.dump))))) : Delivery parse js output.body

/-- A value of another type than the client knows is ignored. -/
theorem handles_ack (parse : String → Option Json) (body : Json)
    (type : body.int "msgid" = .ok MsgType.oneChatMsgAck.code) : Handles parse body := by
  intro client
  refine ⟨client, ?_⟩
  rw [handle, type]
  rfl

/-- A handler sends the message and acknowledgements, and nothing else. -/
theorem live_bodies (conn : Conn) (js : Json) (w : World) (accepted : Accepted js) :
    ∀ output ∈ NodeRuns.replies w (dispatch conn js w).2,
      output.body = js ∨ output.body.int "msgid" = .ok MsgType.oneChatMsgAck.code := by
  cases accepted with
  | oneChat id toId type addressed =>
    have dispatched : dispatch conn js w = oneChat conn js w :=
      Request.dispatch_type .oneChat conn js w type
    rw [dispatched]
    have ends := oneChat_ends conn js w
    generalize oneChat conn js w = result at ends ⊢
    cases ends with
    | malformed exception unread => exact absurd addressed (unread id toId)
    | silent empty => simp [NodeRuns.replies]
    | incomplete unread => exact absurd addressed (unread id toId)
    | stranger id toId addressed unlisted mysql kept =>
      rw [NodeRuns.replies_append w _ _ rfl]
      rintro output member
      rw [List.mem_singleton.mp member]
      exact Or.inr rfl
    | relayed id toId addressed listed mysql kept toConn connected =>
      rw [NodeRuns.replies_append w _ _ rfl]
      rintro output member
      rcases List.mem_pair.mp member with rfl | rfl
      · exact Or.inr rfl
      · exact Or.inl rfl
    | stored id toId addressed listed absent failedQueue mysql =>
      rw [NodeRuns.replies_append w _ _ rfl]
      rintro output member
      rw [List.mem_singleton.mp member]
      exact Or.inr rfl
    | hung id toId addressed listed absent mysql => simp [NodeRuns.replies]
  | groupChat userid groupid type spoken named grouped routed =>
    have dispatched : dispatch conn js w = groupChat conn js w :=
      Request.dispatch_type .groupChat conn js w type
    obtain ⟨mysql, ended, _⟩ := groupChat_runs conn js userid groupid w spoken named grouped
    rw [dispatched, ended]
    simp [NodeRuns.replies]

/-- The callback sends the message. -/
theorem inbox_bodies (js : Json) (w : World) :
    NodeRuns.replies w (inboxCallback js w).2 = copies js w.node (addressed js w.node) := by
  obtain ⟨outcome, failedQueue, mysql, m, ended, _⟩ := inboxCallback_runs js w
  rw [ended]
  exact NodeRuns.replies_append w _ _ rfl

/-- What `oneChat` answers with errno 0 is an accepted message. -/
theorem accepted_of_answered (conn : Conn) (js : Json) (w : World)
    (type : js.int "msgid" = .ok MsgType.oneChatMsg.code)
    (answered : NodeRuns.Answered w (dispatch conn js w).2) : Accepted js := by
  have dispatched : dispatch conn js w = oneChat conn js w :=
    Request.dispatch_type .oneChat conn js w type
  rw [dispatched] at answered
  obtain ⟨output, sent, errno⟩ := answered
  have ends := oneChat_ends conn js w
  generalize oneChat conn js w = result at ends sent
  cases ends with
  | relayed id toId addressed listed mysql kept toConn connected =>
    exact .oneChat id toId type addressed
  | stored id toId addressed listed absent failedQueue mysql =>
    exact .oneChat id toId type addressed
  | malformed exception unread => simp [NodeRuns.replies] at sent
  | silent empty => simp [NodeRuns.replies] at sent
  | hung id toId addressed listed absent mysql => simp [NodeRuns.replies] at sent
  | incomplete unread =>
    rw [NodeRuns.replies_append w _ _ rfl, List.mem_singleton] at sent
    have refused : (missingFields.member "errno").getInt.toOption ≠ some 0 := by decide
    rw [sent] at errno
    exact absurd errno refused
  | stranger id toId addressed unlisted mysql kept =>
    rw [NodeRuns.replies_append w _ _ rfl, List.mem_singleton] at sent
    have refused : (noSuchFriend.member "errno").getInt.toOption ≠ some 0 := by decide
    rw [sent] at errno
    exact absurd errno refused

/-- What `groupChat` publishes and the callback sends to anyone is an accepted
message. -/
theorem accepted_of_published (conn : Conn) (js : Json) (w there : World)
    (type : js.int "msgid" = .ok MsgType.groupChatMsg.code)
    (published : ¬ SamePublished w (dispatch conn js w).2)
    (reached : NodeRuns.replies there (inboxCallback js there).2 ≠ []) : Accepted js := by
  have dispatched : dispatch conn js w = groupChat conn js w :=
    Request.dispatch_type .groupChat conn js w type
  rw [dispatched] at published
  rcases groupChat_ends conn js w with
    ⟨outcome, ended⟩ | ⟨userid, groupid, _, spoken, named, grouped, _, _⟩
  · rw [ended] at published
    exact absurd rfl published
  · refine .groupChat userid groupid type spoken named grouped fun private_ => ?_
    rw [inbox_bodies, addressed, if_pos private_] at reached
    cases directed : js.int "to" with
    | ok toId => exact ⟨toId, rfl⟩
    | error exception =>
      rw [directed] at reached
      exact absurd rfl reached

/-- A printable message is handled however it is received. -/
theorem handles_delivery (parse : String → Option Json) (js message : Json)
    (accepted : Accepted js) (readBack : parse js.dump = some js) (printable : Printable js)
    (delivery : Delivery parse js message) : Handles parse message := by
  have handled := (handles_iff parse js accepted).mpr printable
  cases delivery with
  | live conn w output sent =>
    rcases live_bodies conn js w accepted output sent with same | type
    · rw [same]
      exact handled
    · exact handles_ack parse output.body type
  | inbox w output sent =>
    rw [inbox_bodies] at sent
    obtain ⟨uid, _, reached⟩ := List.mem_filterMap.mp sent
    obtain ⟨conn, _, rfl⟩ := Option.map_eq_some_iff.mp reached
    exact handled
  | waiting conn request w output texts sent carried listed inOrder =>
    refine handles_reply parse output.body texts _ carried ?_ inOrder
    intro text member missing
    have own : text = js.dump := by
      by_contra other
      exact missing (List.mem_filter.mpr ⟨member, by simpa using other⟩)
    rw [own]
    exact (offlineLine_returns parse js accepted readBack).mpr printable

/-- A node where one user is connected and is the one member of a group. -/
def oneUser (uid groupid : Int) : Node :=
  ((Node.fresh "node-1").addMember groupid uid).record uid ⟨"d"⟩

/-- The example's user is connected. -/
theorem connOf_oneUser (uid groupid : Int) : (oneUser uid groupid).connOf uid = some ⟨"d"⟩ := by
  rw [oneUser, Node.connOf_record, if_pos ⟨rfl, rfl⟩]

/-- Users of whom the first lists the second. -/
def acquaintance (id toId : Int) : Database :=
  { Database.empty with user := [⟨toId, "", "", "offline"⟩], friend := [⟨id, toId⟩] }

/-- The example's users are friends. -/
theorem lists_acquaintance (w : World) (id toId : Int)
    (mysql : w.mysql = Access.undisturbed (acquaintance id toId)) : Friendship.Lists w id toId := by
  rw [Friendship.Lists, mysql, FriendModel.query_undisturbed]
  change ∃ user ∈ (([⟨id, toId⟩].filter (fun row : FriendRow => row.userid = id)).flatMap
    (fun row => [⟨toId, "", "", "offline"⟩].filter (fun user : UserRow =>
      user.id = row.friendid))).map FriendModel.ofRow, user.id = toId
  simp [FriendModel.ofRow]

/-- Every accepted message reaches a client in some circumstances. -/
theorem delivered_live (parse : String → Option Json) (js : Json) (accepted : Accepted js) :
    Delivery parse js js := by
  cases accepted with
  | oneChat id toId type addressed =>
    let w : World := ⟨oneUser toId 1, Access.undisturbed (acquaintance id toId),
      RedisAccess.reliable Redis.empty, []⟩
    have dispatched : dispatch ⟨"c"⟩ js w = oneChat ⟨"c"⟩ js w :=
      Request.dispatch_type .oneChat ⟨"c"⟩ js w type
    have relayed := oneChat_connected ⟨"c"⟩ js id toId ⟨"d"⟩ w addressed
      (lists_acquaintance w id toId rfl) (connOf_oneUser toId 1)
    rw [← dispatched] at relayed
    refine .live ⟨"c"⟩ w ⟨⟨"d"⟩, js, false⟩ ?_
    rw [NodeRuns.replies_append w _ _ relayed]
    exact List.mem_cons_of_mem _ List.mem_cons_self
  | groupChat userid groupid type spoken named grouped routed =>
    by_cases private_ : js.contains "to" = true
    · obtain ⟨toId, directed⟩ := routed private_
      let w : World := ⟨oneUser toId groupid, Access.undisturbed Database.empty,
        RedisAccess.reliable Redis.empty, []⟩
      refine .inbox w ⟨⟨"d"⟩, js, true⟩ ?_
      have reached : addressed js w.node = [toId] := by
        rw [addressed, if_pos private_, directed]
      rw [inbox_bodies, reached]
      exact List.mem_filterMap.mpr ⟨toId, List.mem_singleton.mpr rfl, by
        rw [connOf_oneUser]
        rfl⟩
    · let w : World := ⟨oneUser userid groupid, Access.undisturbed Database.empty,
        RedisAccess.reliable Redis.empty, []⟩
      refine .inbox w ⟨⟨"d"⟩, js, true⟩ ?_
      have reached : addressed js w.node = (w.node.members groupid).elements := by
        rw [addressed, if_neg private_, if_pos (contains_of_int js "groupid" groupid grouped),
          grouped]
      have member : userid ∈ w.node.members groupid := by
        have entered : userid ∈ ((Node.fresh "node-1").addMember groupid userid).members groupid :=
          (Node.mem_addMember _ _ _ _ _).mpr (Or.inl ⟨rfl, rfl⟩)
        rw [Node.members] at entered
        change userid ∈ (oneUser userid groupid).members groupid
        rwa [oneUser, Node.members, Node.groupMembers_record]
      rw [inbox_bodies, reached]
      exact List.mem_filterMap.mpr ⟨userid, member, by
        rw [connOf_oneUser]
        rfl⟩

/-- Every client handles an accepted message in every way it can arrive exactly when
the message has a time and the name of its sender as strings. -/
theorem handled_iff_printable (parse : String → Option Json) (js : Json) (accepted : Accepted js)
    (readBack : parse js.dump = some js) :
    (∀ message, Delivery parse js message → Handles parse message) ↔ Printable js := by
  constructor
  · intro handled
    exact (handles_iff parse js accepted).mp (handled js (delivered_live parse js accepted))
  · intro printable message delivery
    exact handles_delivery parse js message accepted readBack printable delivery

/-- The message the client writes. -/
def chat : Json :=
  .object [("id", .integer 1), ("msg", .string "hello"), ("msgid", .integer 6),
    ("name", .string "ann"), ("time", .string "2024-01-01 12:00:00"), ("to", .integer 2)]

/-- The example's message is one the server accepts. -/
theorem accepted_chat : Accepted chat := .oneChat 1 2 rfl ⟨rfl, rfl, rfl⟩

/-- A message with all its fields. -/
theorem handled_iff_printable_chat :
    (∀ message, Delivery (fun text => if text = chat.dump then some chat else none) chat message →
      Handles (fun text => if text = chat.dump then some chat else none) message) ↔
    Printable chat :=
  handled_iff_printable _ chat accepted_chat (if_pos rfl)

/-- The message of the pressure test, without a name and a time. -/
def hello : Json :=
  .object [("id", .integer 1), ("msg", .string "hello"), ("msgid", .integer 6), ("to", .integer 2)]

/-- The message of the pressure test ends the client that receives it. -/
theorem hello_ends_client : ¬ ∀ parse js, Accepted js → parse js.dump = some js →
    ∀ message, Delivery parse js message → Handles parse message := by
  intro survives
  have accepted : Accepted hello := .oneChat 1 2 rfl ⟨rfl, rfl, rfl⟩
  have handled := survives (fun text => if text = hello.dump then some hello else none) hello
    accepted (if_pos rfl) hello (delivered_live _ hello accepted)
  obtain ⟨time, timed⟩ := ((handles_iff _ hello accepted).mp handled).timed
  cases timed

end ClusterChat.ClientDecoding
