import ClusterChat.ClientLists
import ClusterChat.Requests

/-!
# Which messages answer a request

A client waits after a login and after a registration, until it receives a message of the
answering type. `request_spoken` says what any request makes the server send: nothing that
is such an answer, or one answer of the matching type on the connection of the request and
nothing else. `event_spoken` says the same of everything else that happens to a node.

The body of a chat message is the client's own. That it is no answer either is a matter of
its message type, which is the one the request was dispatched by.
-/

namespace ClusterChat

open ChatService NodeRuns

/-- What a client waits for an answer to. -/
inductive Question where
  | login
  | register
deriving DecidableEq

namespace Question

/-- The question of a request. -/
def asked (js : Json) : Option Question :=
  match js.int "msgid" with
  | .ok msgid =>
      if msgid = MsgType.loginMsg.code then some .login
      else if msgid = MsgType.regMsg.code then some .register
      else none
  | .error _ => none

/-- The question a message answers. -/
def answered (js : Json) : Option Question :=
  match js.int "msgid" with
  | .ok msgid =>
      if msgid = MsgType.loginMsgAck.code then some .login
      else if msgid = MsgType.regMsgAck.code then some .register
      else none
  | .error _ => none

/-- A request asks if it is a login or a registration. -/
theorem asked_type (js : Json) (type : MsgType) (typed : js.int "msgid" = .ok type.code) :
    asked js = if type = .loginMsg then some .login
      else if type = .regMsg then some .register else none := by
  rw [asked, typed]
  cases type <;> rfl

/-- A reply answers if it is an acknowledgement of one. -/
theorem answered_type (js : Json) (type : MsgType) (typed : js.int "msgid" = .ok type.code) :
    answered js = if type = .loginMsgAck then some .login
      else if type = .regMsgAck then some .register else none := by
  rw [answered, typed]
  cases type <;> rfl

/-- No message is a question and an answer. -/
theorem answered_none (js : Json) (type : MsgType) (typed : js.int "msgid" = .ok type.code)
    (other : type ≠ .loginMsgAck ∧ type ≠ .regMsgAck) : answered js = none := by
  rw [answered_type js type typed, if_neg other.1, if_neg other.2]

end Question

open Question

/-- What is sent for a request of a connection: no answer, or one to the question that the
request asks. -/
inductive Spoken (conn : Conn) (question : Option Question) : List Output → Prop
  | plain (outputs : List Output) (none : ∀ output ∈ outputs, answered output.body = none) :
      Spoken conn question outputs
  | answer (body : Json) (own : question = answered body) (answers : (answered body).isSome = true) :
      Spoken conn question [⟨conn, body, false⟩]

/-- Saying nothing answers nobody. -/
theorem spoken_nothing (conn : Conn) (question : Option Question) : Spoken conn question [] :=
  .plain [] (List.forall_mem_nil _)

/-- Nothing is sent when what was sent stays. -/
theorem spoken_silent (conn : Conn) (question : Option Question) (w after : World)
    (same : after.sent = w.sent) : Spoken conn question (replies w after) := by
  rw [replies_append w after [] (same.trans (List.append_nil _).symm)]
  exact spoken_nothing conn question

/-- The reply of an accepted login answers it, with whatever lists. -/
theorem reply_answers (userQuery : User) (offlineMsgs : List String) (friends : List User)
    (groups : List Group) :
    answered (LoginReply.withLists (LoginReply.opening userQuery offlineMsgs) friends groups) =
      some .login := by
  have code : (LoginReply.opening userQuery offlineMsgs).member "msgid" =
      .integer MsgType.loginMsgAck.code := by
    unfold LoginReply.opening
    simp only
    split_ifs <;> simp [Json.member_set, response]
  have typed : (LoginReply.withLists (LoginReply.opening userQuery offlineMsgs) friends
      groups).int "msgid" = .ok MsgType.loginMsgAck.code := by
    rw [Json.int, ClientLists.field_reply _ _ _ _ "msgid" (by decide) (by decide), code]
    rfl
  rw [answered_type _ _ typed]
  rfl

section Requests

variable (conn : Conn) (js : Json) (w : World)

/-- A login is answered once, or not at all. -/
theorem login_spoken : Spoken conn (some .login) (replies w (login conn js w).2) := by
  rcases Json.given_or_malformed (js.int "id") (js.str "password") with
    ⟨id, pwd, named, given⟩ | unread
  · rw [login_run conn js id pwd w named given]
    by_cases account : Matches w id pwd
    · rw [if_pos account]
      by_cases seen : SeenOnline w id
      · rw [if_pos seen]
        have sent := replies_append w (send conn alreadyOnline { w with
          mysql := (w.mysql.run (UserModel.query id)).2
          redis := (w.redis.run (RedisClient.isUserOnline id)).2 }).2 [⟨conn, _, false⟩] rfl
        rw [sent]
        exact .answer alreadyOnline rfl rfl
      · rw [if_neg seen, acceptLogin, Effect.bind_ok _ _ _ _ _ (onNode_run _ _)]
        obtain ⟨m, announced, _⟩ := announce_runs conn id { w with
          node := w.node.record id conn
          mysql := (w.mysql.run (UserModel.query id)).2
          redis := (w.redis.run (RedisClient.isUserOnline id)).2 }
        rw [Effect.bind_ok _ _ _ _ _ announced]
        obtain ⟨reply, after, composed, ended, sent⟩ := LoginReply.answerLogin_reply conn id
          (w.mysql.run (UserModel.query id)).1 { w with
            node := w.node.record id conn
            mysql := (w.mysql.run (UserModel.query id)).2
            redis := m }
        rw [ended, replies_append w after _ sent]
        obtain ⟨friends, groups, _, _, _, shows⟩ := LoginReply.composeReply_shows id
          (w.mysql.run (UserModel.query id)).1 _ _ _ _
        rw [shows] at composed
        cases composed
        exact .answer _ (reply_answers _ _ _ _).symm (by rw [reply_answers]; rfl)
    · rw [if_neg account]
      have sent := replies_append w (send conn wrongPassword { w with
        mysql := (w.mysql.run (UserModel.query id)).2 }).2 [⟨conn, _, false⟩] rfl
      rw [sent]
      exact .answer wrongPassword rfl rfl
  · obtain ⟨escape, ended⟩ := login_malformed conn js w unread
    rw [ended]
    exact spoken_silent conn _ w w rfl

/-- A registration is answered to its own connection alone. -/
theorem reg_spoken : Spoken conn (some .register) (replies w (reg conn js w).2) := by
  have ends := reg_ends conn js w
  generalize reg conn js w = result at ends ⊢
  cases ends with
  | malformed exception unread => exact spoken_silent conn _ w w rfl
  | refused name password named given mysql kept =>
    rw [replies_append w _ [_] rfl]
    exact .answer _ rfl rfl
  | inserted name password named given mysql m accepted kept =>
    rw [replies_append w _ [_] rfl]
    exact .answer _ rfl rfl

/-- A private message brings no answer to anybody. -/
theorem oneChat_spoken (question : Option Question)
    (typed : js.int "msgid" = .ok MsgType.oneChatMsg.code) :
    Spoken conn question (replies w (oneChat conn js w).2) := by
  have own : answered js = none := answered_none js _ typed (by decide)
  have ends := oneChat_ends conn js w
  generalize oneChat conn js w = result at ends ⊢
  cases ends with
  | malformed exception unread => exact spoken_silent conn _ w w rfl
  | silent empty => exact spoken_silent conn _ w w rfl
  | incomplete unread =>
    rw [replies_append w _ [_] rfl]
    exact .plain _ (List.forall_mem_singleton.mpr rfl)
  | stranger id toId addressed unlisted mysql kept =>
    rw [replies_append w _ [_] rfl]
    exact .plain _ (List.forall_mem_singleton.mpr rfl)
  | relayed id toId addressed listed mysql kept toConn connected =>
    rw [replies_append w _ [_, _] rfl]
    exact .plain _ (List.forall_mem_cons.mpr ⟨rfl, List.forall_mem_singleton.mpr own⟩)
  | stored id toId addressed listed absent failedQueue mysql =>
    rw [replies_append w _ [_] rfl]
    exact .plain _ (List.forall_mem_singleton.mpr rfl)
  | hung id toId addressed listed absent mysql => exact spoken_silent conn _ w _ rfl

/-- The other requests send nothing. -/
theorem silent_requests (request : Request)
    (other : request ≠ .login ∧ request ≠ .reg ∧ request ≠ .oneChat) :
    (request.handler conn js w).2.sent = w.sent := by
  cases request with
  | login => exact absurd rfl other.1
  | reg => exact absurd rfl other.2.1
  | oneChat => exact absurd rfl other.2.2
  | loginOut =>
    rcases loginOut_ends conn js w with ⟨outcome, ended⟩ | ⟨id, m, _, ended, _⟩ <;>
      · rw [Request.handler, ended]
  | addFriend =>
    rcases addFriend_ends conn js w with ⟨outcome, ended⟩ | ⟨userid, friendid, _, _, ended⟩ <;>
      · rw [Request.handler, ended]
  | createGroup =>
    rcases createGroup_ends conn js w with ⟨outcome, ended⟩ | ⟨_, _, _, _, _, _, _, ended, _⟩ <;>
      · rw [Request.handler, ended]
  | joinGroup =>
    rcases joinGroup_ends conn js w with ⟨outcome, ended⟩ | ⟨_, _, _, _, _, ended, _⟩ <;>
      · rw [Request.handler, ended]
  | groupChat =>
    rcases groupChat_ends conn js w with ⟨outcome, ended⟩ | ⟨_, _, _, _, _, _, ended, _⟩ <;>
      · rw [Request.handler, ended]

/-- A request is answered on its connection if it asks, and brings no answer otherwise. -/
theorem request_spoken (request : Request) (typed : js.int "msgid" = .ok request.type.code) :
    Spoken conn (asked js) (replies w (request.handler conn js w).2) := by
  rw [asked_type js _ typed]
  cases request with
  | login => exact login_spoken conn js w
  | reg => exact reg_spoken conn js w
  | oneChat => exact oneChat_spoken conn js w _ typed
  | loginOut => exact spoken_silent conn _ w _ (silent_requests conn js w .loginOut (by decide))
  | addFriend => exact spoken_silent conn _ w _ (silent_requests conn js w .addFriend (by decide))
  | createGroup =>
    exact spoken_silent conn _ w _ (silent_requests conn js w .createGroup (by decide))
  | joinGroup => exact spoken_silent conn _ w _ (silent_requests conn js w .joinGroup (by decide))
  | groupChat => exact spoken_silent conn _ w _ (silent_requests conn js w .groupChat (by decide))

/-- The same for whatever value a connection brings. -/
theorem dispatch_spoken : Spoken conn (asked js) (replies w (dispatch conn js w).2) := by
  cases named : js.int "msgid" with
  | error exception =>
    rw [dispatch, named]
    exact spoken_silent conn _ w w rfl
  | ok msgid =>
    by_cases known : ∃ request : Request, msgid = request.type.code
    · obtain ⟨request, rfl⟩ := known
      rw [Request.dispatch_type request conn js w named]
      exact request_spoken conn js w request named
    · have unknown : getHandler msgid = none := by
        cases found : getHandler msgid with
        | none => rfl
        | some handler =>
          unfold getHandler at found
          split_ifs at found with login loginOut reg oneChat addFriend createGroup joinGroup groupChat
          · exact absurd ⟨.login, login⟩ known
          · exact absurd ⟨.loginOut, loginOut⟩ known
          · exact absurd ⟨.reg, reg⟩ known
          · exact absurd ⟨.oneChat, oneChat⟩ known
          · exact absurd ⟨.addFriend, addFriend⟩ known
          · exact absurd ⟨.createGroup, createGroup⟩ known
          · exact absurd ⟨.joinGroup, joinGroup⟩ known
          · exact absurd ⟨.groupChat, groupChat⟩ known
      rw [dispatch, named]
      simp only [convert_ok_bind, unknown]
      exact spoken_silent conn _ w w rfl

end Requests

/-- What else happens to a node than requests of the connection: requests of the types
they are dispatched by, closings, and messages published by `groupChat`. -/
def Foreign (conn : Conn) : Event → Prop
  | .request request other js _ => other ≠ conn ∧ js.int "msgid" = .ok request.type.code
  | .inbox js _ => js.int "msgid" = .ok MsgType.groupChatMsg.code
  | .disconnect _ _ _ | .listen _ | .surroundings _ _ | .pass _ => True

/-- What happens elsewhere sends no answer on a connection. -/
theorem event_spoken (conn : Conn) (w : World) (event : Event) (foreign : Foreign conn event) :
    ∀ output ∈ replies w (NodeRuns.step w event), output.conn = conn →
      answered output.body = none := by
  intro output member own
  have nothing : (NodeRuns.step w event).sent = w.sent → answered output.body = none := by
    intro silent
    rw [replies_append w _ [] (silent.trans (List.append_nil _).symm)] at member
    cases member
  cases event with
  | request request other js faults =>
    have spoken := request_spoken other js (w.meet faults) request foreign.2
    have same : replies (w.meet faults) (request.handler other js (w.meet faults)).2 =
      replies w (NodeRuns.step w (.request request other js faults)) := rfl
    rw [← same] at member
    generalize replies (w.meet faults) _ = outputs at spoken member
    cases spoken with
    | plain _ none => exact none output member
    | answer body question answers =>
      rw [List.mem_singleton.mp member] at own
      exact absurd own foreign.1
  | inbox js faults =>
    have bodies := ClientDecoding.inbox_bodies js (w.meet faults)
    have same : replies (w.meet faults) (inboxCallback js (w.meet faults)).2 =
      replies w (NodeRuns.step w (.inbox js faults)) := rfl
    rw [← same, bodies] at member
    obtain ⟨uid, _, sent⟩ := List.mem_filterMap.mp member
    obtain ⟨there, _, rfl⟩ := Option.map_eq_some_iff.mp sent
    exact answered_none js _ foreign (by decide)
  | disconnect hint other faults =>
    have silent : (NodeRuns.step w (.disconnect hint other faults)).sent = w.sent := by
      rcases clientQuit_ends other hint (w.meet faults) with ended | ended | ⟨id, m, ended, _⟩ <;>
        · rw [NodeRuns.step, ended]
          rfl
    exact nothing silent
  | listen subscriber => exact nothing rfl
  | surroundings database store => exact nothing rfl
  | pass duration => exact nothing rfl

end ClusterChat
