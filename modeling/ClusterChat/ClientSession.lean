import ClusterChat.Answers
import ClusterChat.ChatPath

/-!
# One client and the server

The foreground thread of the client, its receiving thread, the connection and the server
in one system. The foreground thread writes a request, and after a login or a registration
it waits on `rwSem` and then reads `isLoginSuccess`. The receiving thread takes the
messages, writes the user's data on an answer to a login, and posts. The server works on
the requests of the connection one after another, and on whatever else happens to the node.

`answers_match` says of every interleaving that a wait ends with the answer to its own
question: the logins enter `mainmenu` exactly as the server has answered them, one by one
and in order, and while the foreground thread does not wait, no answer is on its way, so
that nothing changes the user's data in `mainmenu`. Between its calls the thread is in a
state of the two loops by themselves.

Requests and messages are whole, and their order is that of the connection. A failed `send`
loses its request. An exception in the receiving thread ends the client. When the foreground
thread has ended it, the receiving thread goes on here, which only adds to the runs.
-/

namespace ClusterChat.ClientSession

open Question (asked answered)

/-- Where the foreground thread is: in its loops, in `sem_wait`, or behind it. -/
inductive Place where
  | running
  | waiting (question : Question)
  | woken (question : Question)
deriving DecidableEq

/-- The client, the messages on the connection in both directions, and the server. What the
server has answered to logins and what the foreground thread has read is kept. -/
structure Session where
  world : World
  up : List Json := []
  down : List Json := []
  terminal : Terminal
  client : Client := {}
  place : Place := .running
  rwSem : Nat := 0
  posting : Bool := false
  crashed : Bool := false
  verdicts : List Bool := []
  decisions : List Bool := []

/-- The answer to a login, if it is one. -/
def verdict (js : Json) : Option Bool :=
  if answered js = some .login then some (js.member "errno").isZero else none

/-- What an iteration of the foreground thread will wait for, if it comes to its wait. -/
def question (t : Terminal) : Option Question :=
  if t.ended ∨ t.isMainMenuRunning then none
  else if (t.input.readInt 0).1 = 1 then some .login
  else if (t.input.readInt 0).1 = 2 then some .register
  else none

/-- What the thread waits for behind the iteration from one state to the next. One that
`dump` has ended does not come to its wait. -/
def awaited (t next : Terminal) : Option Question := if next.ended then none else question t

namespace Session

/-- An iteration of the foreground thread, up to its wait if it has one. `isLoginSuccess` is
cleared before a login is sent. -/
def iterate (delivered : Bool) (time : String) (s : Session) : Session :=
  let terminal := s.terminal.step ⟨delivered, false, s.client.currentUser, time⟩
  let made := (terminal.requests.drop s.terminal.requests.length).map ChatPath.onWire
  { s with
    terminal
    up := if delivered then s.up ++ made else s.up
    place := match awaited s.terminal terminal with
      | none => .running
      | some asked => .waiting asked
    client := if awaited s.terminal terminal = some .login then
        { s.client with isLoginSuccess := false }
      else s.client }

/-- `sem_wait`, which goes on when the semaphore is positive. -/
def semWait (asked : Question) (s : Session) : Session :=
  if s.rwSem = 0 then s else { s with rwSem := s.rwSem - 1, place := .woken asked }

/-- Behind the wait: a login that has succeeded enters `mainmenu`. -/
def goOn (asked : Question) (s : Session) : Session :=
  match asked with
  | .login => { s with
      place := .running
      decisions := s.decisions ++ [s.client.isLoginSuccess]
      terminal := if s.client.isLoginSuccess then { s.terminal with isMainMenuRunning := true }
        else s.terminal }
  | .register => { s with place := .running }

/-- The foreground thread. -/
def foreground (delivered : Bool) (time : String) (s : Session) : Session :=
  match s.place with
  | .running => s.iterate delivered time
  | .waiting asked => s.semWait asked
  | .woken asked => s.goOn asked

/-- The receiving thread: the next message, or the `sem_post` it owes. -/
def receive (parse : String → Option Json) (s : Session) : Session :=
  if s.posting then { s with rwSem := s.rwSem + 1, posting := false }
  else match s.down with
    | [] => s
    | js :: rest =>
        match Client.handle parse s.client js with
        | .ok client => { s with down := rest, client, posting := (answered js).isSome }
        | .error _ => { s with crashed := true }

/-- The server has gone on, and what it has sent to the client is on its way. -/
def serve (conn : Conn) (w : World) (s : Session) : Session :=
  let heard := ChatPath.sentOn conn s.world w
  { s with world := w, down := s.down ++ heard, verdicts := s.verdicts ++ heard.filterMap verdict }

end Session

/-- What can happen: either thread goes on, the server takes the next request, or something
else happens to the node. -/
inductive Event (conn : Conn) where
  | foreground (delivered : Bool) (time : String)
  | receive
  | request (faults : Faults)
  | elsewhere (event : NodeRuns.Event) (foreign : Foreign conn event)

/-- One step of a thread of the client or of the node. An exception in the client ends both
its threads. -/
def step (parse : String → Option Json) (conn : Conn) (s : Session) : Event conn → Session
  | .foreground delivered time => if s.crashed then s else s.foreground delivered time
  | .receive => if s.crashed then s else s.receive parse
  | .request faults =>
      match s.up with
      | [] => s
      | js :: rest =>
          { s with up := rest }.serve conn (ChatService.dispatch conn js (s.world.meet faults)).2
  | .elsewhere event _ => s.serve conn (NodeRuns.step s.world event)

/-!
## The requests of an iteration
-/

section Requests

variable (around : Surroundings)

/-- Nothing was asked between the two states. -/
def Unasked (t next : Terminal) : Prop :=
  ∃ made, next.requests = t.requests ++ made ∧ ∀ js ∈ made, asked (ChatPath.onWire js) = none

/-- Sending nothing asks nothing. -/
theorem unasked_same (t next : Terminal) (same : next.requests = t.requests) : Unasked t next :=
  ⟨[], same.trans (List.append_nil _).symm, List.forall_mem_nil _⟩

/-- Nor does sending a request that needs no answer. -/
theorem unasked_send (t next : Terminal) (js : Json) (failure : String)
    (sent : t.send around js failure = some next) (plain : asked (ChatPath.onWire js) = none) :
    Unasked t next :=
  ⟨[js], (Terminal.send_some around js failure t next sent).1,
    List.forall_mem_singleton.mpr plain⟩

/-- A handler of a command asks nothing. -/
def AsksNothing (handler : List Char → Terminal → Option Terminal) : Prop :=
  ∀ str t next, handler str t = some next → Unasked t next

/-- Cutting the text at the colon asks nothing if what follows asks nothing. -/
theorem asksNothing_cutting (invalid : String)
    (handle : List Char → List Char → Terminal → Option Terminal)
    (plain : ∀ first, AsksNothing (handle first)) :
    AsksNothing (Terminal.cutting invalid handle) := by
  intro str t next ended
  rw [Terminal.cutting] at ended
  change (if Terminal.colon str = -1 then _ else _) = _ at ended
  split at ended
  · cases ended
    exact unasked_same t _ rfl
  · simp only [Option.bind_eq_bind, Option.bind_eq_some_iff] at ended
    obtain ⟨first, _, second, _, handled⟩ := ended
    exact plain first second t next handled

/-- Sending a message asks nothing. -/
theorem asksNothing_talking (type : MsgType) (key empty failure : String) (number : List Char)
    (names : (type = .oneChatMsg ∧ key = "to") ∨ (type = .groupChatMsg ∧ key = "groupid")) :
    AsksNothing (Terminal.talking around type key empty failure number) := by
  intro message t next ended
  unfold Terminal.talking at ended
  split at ended
  · cases ended
    exact unasked_same t _ rfl
  · refine unasked_send around t next _ failure ended ?_
    rcases names with ⟨rfl, rfl⟩ | ⟨rfl, rfl⟩ <;> rfl

/-- Naming a friend or a group asks nothing. -/
theorem asksNothing_naming (type : MsgType) (key failure : String)
    (names : (type = .addFriendMsg ∧ key = "friendid") ∨
      (type = .joinGroupMsg ∧ key = "groupid")) :
    AsksNothing (Terminal.naming around type key failure) := by
  intro str t next ended
  refine unasked_send around t next _ failure ended ?_
  rcases names with ⟨rfl, rfl⟩ | ⟨rfl, rfl⟩ <;> rfl

/-- Creating a group asks nothing. -/
theorem asksNothing_describing (groupName : List Char) :
    AsksNothing (Terminal.describing around groupName) :=
  fun _ t next ended => unasked_send around t next _ _ ended rfl

/-- Logging out asks nothing. -/
theorem asksNothing_loginout : AsksNothing (Terminal.loginout around) := by
  intro str t next ended
  unfold Terminal.loginout at ended
  simp only at ended
  obtain ⟨left, sent, same⟩ := Option.map_eq_some_iff.mp ended
  obtain ⟨made, requests, plain⟩ := unasked_send around t left _ _ sent rfl
  refine ⟨made, ?_, plain⟩
  rw [← same]
  split <;> exact requests

/-- No command of the menu asks. -/
theorem asksNothing_known (command : List Char) (handler : List Char → Terminal → Option Terminal)
    (known : Terminal.commandHandlerMap around command = some handler) : AsksNothing handler := by
  obtain ⟨before, after, entries, _⟩ := List.lookup_eq_some_iff.mp known
  have listed : (String.ofList command, handler) ∈ before ++ (String.ofList command, handler) ::
      after := List.mem_append_right _ List.mem_cons_self
  rw [← entries] at listed
  simp only [List.mem_cons, Prod.mk.injEq, List.not_mem_nil, or_false] at listed
  rcases listed with ⟨_, rfl⟩ | ⟨_, rfl⟩ | ⟨_, rfl⟩ | ⟨_, rfl⟩ | ⟨_, rfl⟩ | ⟨_, rfl⟩ | ⟨_, rfl⟩
  · intro str t next ended
    cases ended
    exact unasked_same t t rfl
  · exact asksNothing_cutting _ _ fun number =>
      asksNothing_talking around _ _ _ _ number (Or.inl ⟨rfl, rfl⟩)
  · exact asksNothing_naming around _ _ _ (Or.inl ⟨rfl, rfl⟩)
  · exact asksNothing_cutting _ _ (asksNothing_describing around)
  · exact asksNothing_naming around _ _ _ (Or.inr ⟨rfl, rfl⟩)
  · exact asksNothing_cutting _ _ fun number =>
      asksNothing_talking around _ _ _ _ number (Or.inr ⟨rfl, rfl⟩)
  · exact asksNothing_loginout around

/-- No command of the main menu asks anything. -/
theorem unasked_obey (commandBuffer : List Char) (t next : Terminal)
    (obeyed : Terminal.obey around commandBuffer t = some next) : Unasked t next := by
  simp only [Terminal.obey, Option.bind_eq_bind, Option.bind_eq_some_iff] at obeyed
  obtain ⟨command, _, handled⟩ := obeyed
  cases known : Terminal.commandHandlerMap around command with
  | none =>
    rw [known] at handled
    cases handled
    exact unasked_same t _ rfl
  | some handler =>
    rw [known] at handled
    obtain ⟨str, _, ended⟩ := Option.bind_eq_some_iff.mp handled
    exact asksNothing_known around command handler known str t next ended

/-- A choice that sends asks its question, or an exception ends it. -/
def AsksOr (own : Question) (t next : Terminal) : Prop :=
  (∃ js, next.requests = t.requests ++ [js] ∧ asked (ChatPath.onWire js) = some own ∧
      next.ended = t.ended) ∨
    (next.requests = t.requests ∧ next.ended = true)

/-- A send of a request that needs an answer asks for it, or `dump` ends the client. -/
theorem asks_send (own : Question) (t before : Terminal) (js : Json) (failure : String)
    (asks : asked (ChatPath.onWire js) = some own) (requests : before.requests = t.requests)
    (ended : before.ended = t.ended) :
    AsksOr own t ((before.send around js failure).getD before.terminate) := by
  cases sent : before.send around js failure with
  | none => exact Or.inr ⟨requests, rfl⟩
  | some next =>
    obtain ⟨made, _, same⟩ := Terminal.send_some around js failure before next sent
    exact Or.inl ⟨js, made.trans (by rw [requests]), asks, same.trans ended⟩

/-- Choosing to log in asks for the answer to the login. -/
theorem asks_login (t before : Terminal) (requests : before.requests = t.requests)
    (ended : before.ended = t.ended) (unread : around.isLoginSuccess = false) :
    AsksOr .login t (before.login around) := by
  unfold Terminal.login
  simp only [unread, Bool.false_eq_true, if_false, Option.map_id']
  exact asks_send around .login t _ _ _ rfl requests ended

/-- Choosing to register asks for the answer to the registration. -/
theorem asks_register (t before : Terminal) (requests : before.requests = t.requests)
    (ended : before.ended = t.ended) : AsksOr .register t (before.register around) :=
  asks_send around .register t _ _ _ rfl requests ended

/-- An iteration has asked nothing and waits for nothing, or it has asked one question and
waits for its answer. -/
inductive Iterated (t next : Terminal) : Prop
  | plain (none : awaited t next = none) (unasked : Unasked t next)
  | asking (own : Question) (js : Json) (waits : awaited t next = some own)
      (requests : next.requests = t.requests ++ [js]) (asks : asked (ChatPath.onWire js) = some own)

/-- An iteration that was to ask nothing, and asked nothing, waits for nothing. -/
theorem iterated_plain (t next : Terminal) (none : question t = none) (unasked : Unasked t next) :
    Iterated t next :=
  .plain (by rw [awaited, none, ite_self]) unasked

/-- An iteration that asked its question waits for that answer. -/
theorem iterated_asks (own : Question) (t next : Terminal) (asks : question t = some own)
    (going : ¬ t.ended = true) (sent : AsksOr own t next) : Iterated t next := by
  rcases sent with ⟨js, requests, question, same⟩ | ⟨same, ended⟩
  · exact .asking own js (by rw [awaited, same, if_neg going, asks]) requests question
  · exact .plain (if_pos ended) (unasked_same t next same)

/-- An iteration asks what it will wait for. -/
theorem iterated_step (t : Terminal) (unread : around.isLoginSuccess = false) :
    Iterated t (t.step around) := by
  rw [Terminal.step]
  by_cases ended : t.ended = true
  · rw [if_pos ended]
    exact iterated_plain t t (if_pos (Or.inl ended)) (unasked_same t t rfl)
  rw [if_neg ended]
  by_cases running : t.isMainMenuRunning = true
  · rw [if_pos running, Terminal.mainmenu]
    refine iterated_plain t _ (if_pos (Or.inr running)) ?_
    cases obeyed : Terminal.obey around (Terminal.cString (t.input.getline 1024).1)
        { t with input := (t.input.getline 1024).2 } with
    | none =>
      refine unasked_same t _ ?_
      simp only [obeyed]
      rfl
    | some next =>
      obtain ⟨made, requests, plain⟩ := unasked_obey around _ _ _ obeyed
      refine ⟨made, ?_, plain⟩
      simp only [obeyed]
      exact requests
  · have going : ¬ (t.ended = true ∨ t.isMainMenuRunning = true) := by simp [ended, running]
    rw [if_neg running, Terminal.mainLoop]
    simp only
    by_cases login : (t.input.readInt 0).1 = 1
    · rw [if_pos login]
      have asks : question t = some .login := by rw [question, if_neg going, if_pos login]
      exact iterated_asks .login t _ asks ended (asks_login around t _ rfl rfl unread)
    · rw [if_neg login]
      by_cases register : (t.input.readInt 0).1 = 2
      · rw [if_pos register]
        have asks : question t = some .register := by
          rw [question, if_neg going, if_neg login, if_pos register]
        exact iterated_asks .register t _ asks ended (asks_register around t _ rfl rfl)
      · rw [if_neg register]
        have none : question t = none := by
          rw [question, if_neg going, if_neg login, if_neg register]
        refine iterated_plain t _ none (unasked_same t _ ?_)
        split <;> rfl

end Requests

/-!
## The messages the client handles
-/

/-- A field that could be read is a member. -/
theorem member_of_field (js value : Json) (key : String) (read : js.field key = .ok value) :
    js.member key = value := by
  cases js <;> first | (cases read; rfl) | cases read

/-- A conversion that threw nothing has a value. -/
theorem converted_ok {α : Type} (converted : Except JsonError α) (value : α)
    (ended : Client.convert converted = .ok value) : converted = .ok value := by
  cases converted with
  | error exception => cases ended
  | ok given =>
    cases ended
    rfl

/-- An answer to a login sets `isLoginSuccess` to what it says. -/
theorem loginResponse_flag (parse : String → Option Json) (client next : Client) (js : Json)
    (handled : Client.doLoginResponse parse client js = .ok next) :
    next.isLoginSuccess = (js.member "errno").isZero := by
  obtain ⟨errno, read, later⟩ := (Except.bind_eq_ok _ _ _).mp handled
  rw [member_of_field js errno "errno" (converted_ok _ _ read)]
  cases zero : errno.isZero with
  | true =>
    rw [zero, if_pos rfl] at later
    obtain ⟨entered, _, rest⟩ := (Except.bind_eq_ok _ _ _).mp later
    obtain ⟨lines, _, ended⟩ := (Except.bind_eq_ok _ _ _).mp rest
    cases ended
    rfl
  | false =>
    rw [zero, if_neg Bool.false_ne_true] at later
    obtain ⟨errormsg, _, ended⟩ := (Except.bind_eq_ok _ _ _).mp later
    cases ended
    rfl

/-- The answer to a registration does not touch the flag of the login. -/
theorem regResponse_flag (client next : Client) (js : Json)
    (handled : Client.doRegResponse client js = .ok next) :
    next.isLoginSuccess = client.isLoginSuccess := by
  obtain ⟨errno, _, later⟩ := (Except.bind_eq_ok _ _ _).mp handled
  split at later
  · obtain ⟨id, _, ended⟩ := (Except.bind_eq_ok _ _ _).mp later
    cases ended
    rfl
  · cases later
    rfl

/-- Nothing but an answer to a login touches `isLoginSuccess`. -/
theorem handled_flag (parse : String → Option Json) (client next : Client) (js : Json)
    (handled : Client.handle parse client js = .ok next) :
    next.isLoginSuccess =
      if answered js = some .login then (js.member "errno").isZero else client.isLoginSuccess := by
  obtain ⟨msgid, named, later⟩ := (Except.bind_eq_ok _ _ _).mp handled
  have typed := converted_ok _ _ named
  have printing : ∀ line : Except JsonError String,
      (Client.convert line >>= fun text => pure (client.print [text])) =
        (.ok next : Except Uncaught Client) → next.isLoginSuccess = client.isLoginSuccess := by
    intro line ended
    obtain ⟨text, _, same⟩ := (Except.bind_eq_ok _ _ _).mp ended
    cases same
    rfl
  rw [answered, typed]
  by_cases private_ : msgid = MsgType.oneChatMsg.code
  · rw [if_pos private_] at later
    rw [private_]
    exact printing _ later
  · rw [if_neg private_] at later
    by_cases group : msgid = MsgType.groupChatMsg.code
    · rw [if_pos group] at later
      rw [group]
      exact printing _ later
    · rw [if_neg group] at later
      by_cases login : msgid = MsgType.loginMsgAck.code
      · rw [if_pos login] at later
        rw [login]
        exact loginResponse_flag parse client next js later
      · rw [if_neg login] at later
        by_cases register : msgid = MsgType.regMsgAck.code
        · rw [if_pos register] at later
          rw [register]
          exact regResponse_flag client next js later
        · rw [if_neg register] at later
          cases later
          simp only [if_neg login, if_neg register, reduceCtorEq, if_false]

/-!
## Questions and answers
-/

/-- The signals the foreground thread will find. -/
def signals (s : Session) : Nat := s.rwSem + if s.posting then 1 else 0

/-- What is under way: the questions, the answers and the signals. -/
structure UnderWay (s : Session) (questions answers : List Question) (posted : Nat) : Prop where
  questions : s.up.filterMap asked = questions
  answers : s.down.filterMap answered = answers
  posted : signals s = posted

/-- Nothing is under way, or one question, its answer or its signal, and the foreground
thread waits for it. -/
inductive Stage (s : Session) : Prop
  | idle (none : UnderWay s [] [] 0)
  | question (own : Question) (waits : s.place = .waiting own) (one : UnderWay s [own] [] 0)
  | answer (own : Question) (waits : s.place = .waiting own) (one : UnderWay s [] [own] 0)
  | signal (own : Question) (waits : s.place = .waiting own) (one : UnderWay s [] [] 1)

/-- The answer that was handled and has not been read. -/
def due (s : Session) : List Bool :=
  match s.place with
  | .woken .login => [s.client.isLoginSuccess]
  | .waiting .login => if signals s = 0 then [] else [s.client.isLoginSuccess]
  | _ => []

/-- The answers to logins have been read, are due, or are on their way. -/
def Judged (s : Session) : Prop := s.verdicts = s.decisions ++ (due s ++ s.down.filterMap verdict)

/-- The stage is seen in the place of the foreground, the two wires and the signals alone.
-/
theorem stage_same (s next : Session) (stage : Stage s) (place : next.place = s.place)
    (questions : next.up.filterMap asked = s.up.filterMap asked)
    (answers : next.down.filterMap answered = s.down.filterMap answered)
    (posted : signals next = signals s) : Stage next := by
  have carried : ∀ asks replies posts, UnderWay s asks replies posts →
      UnderWay next asks replies posts := fun _ _ _ way =>
    ⟨questions.trans way.questions, answers.trans way.answers, posted.trans way.posted⟩
  cases stage with
  | idle none => exact .idle (carried _ _ _ none)
  | question own waits one => exact .question own (place.trans waits) (carried _ _ _ one)
  | answer own waits one => exact .answer own (place.trans waits) (carried _ _ _ one)
  | signal own waits one => exact .signal own (place.trans waits) (carried _ _ _ one)

/-- Who does not wait has nothing under way. -/
theorem stage_idle (s : Session) (stage : Stage s) (going : ∀ own, s.place ≠ .waiting own) :
    UnderWay s [] [] 0 := by
  cases stage with
  | idle none => exact none
  | question own waits one => exact absurd waits (going own)
  | answer own waits one => exact absurd waits (going own)
  | signal own waits one => exact absurd waits (going own)

/-- A positive semaphore is the only signal, and nothing else is under way. -/
theorem stage_posted (s : Session) (stage : Stage s) (positive : 0 < signals s) :
    UnderWay s [] [] 1 := by
  cases stage with
  | idle none => exact absurd none.posted (Nat.ne_of_gt positive)
  | question own waits one => exact absurd one.posted (Nat.ne_of_gt positive)
  | answer own waits one => exact absurd one.posted (Nat.ne_of_gt positive)
  | signal own waits one => exact one

/-!
## The foreground thread
-/

section Foreground

variable (s : Session) (stage : Stage s) (judged : Judged s)

include stage judged

/-- An iteration takes up a question at most. -/
theorem kept_iterate (delivered : Bool) (time : String) (running : s.place = .running) :
    Stage (s.iterate delivered time) ∧ Judged (s.iterate delivered time) := by
  have none := stage_idle s stage (fun own waits => by rw [running] at waits; cases waits)
  have iterated := iterated_step ⟨delivered, false, s.client.currentUser, time⟩ s.terminal rfl
  have posted : signals (s.iterate delivered time) = 0 := none.posted
  have settled : s.verdicts = s.decisions ++ s.down.filterMap verdict := by
    rw [judged, due, running, List.nil_append]
  rw [Session.iterate] at posted ⊢
  generalize s.terminal.step ⟨delivered, false, s.client.currentUser, time⟩ = next
    at iterated posted ⊢
  cases iterated with
  | plain waits unasked =>
    obtain ⟨made, requests, asks⟩ := unasked
    have plain : (made.map ChatPath.onWire).filterMap asked = [] := by
      rw [List.filterMap_eq_nil_iff]
      exact List.forall_mem_map.mpr asks
    simp only [waits, requests, List.drop_left] at posted ⊢
    refine ⟨.idle ⟨?_, none.answers, posted⟩, settled⟩
    cases delivered with
    | true =>
      change (s.up ++ _).filterMap asked = []
      rw [List.filterMap_append, none.questions, plain]
      rfl
    | false => exact none.questions
  | asking own js waits requests asks =>
    simp only [waits, requests, List.drop_left] at posted ⊢
    constructor
    · cases delivered with
      | true =>
        refine .question own rfl ⟨?_, none.answers, posted⟩
        change (s.up ++ [ChatPath.onWire js]).filterMap asked = [own]
        rw [List.filterMap_append, none.questions, List.filterMap_cons, asks]
        rfl
      | false => exact .idle ⟨none.questions, none.answers, posted⟩
    · cases own with
      | login =>
        change s.verdicts = s.decisions ++ ((if signals _ = 0 then [] else _) ++ _)
        rw [if_pos posted]
        exact settled
      | register => exact settled

/-- Waiting leaves the stage alone, or takes the signal there is. -/
theorem kept_semWait (own : Question) (waits : s.place = .waiting own) :
    Stage (s.semWait own) ∧ Judged (s.semWait own) := by
  unfold Session.semWait
  by_cases zero : s.rwSem = 0
  · rw [if_pos zero]
    exact ⟨stage, judged⟩
  · rw [if_neg zero]
    have positive : 0 < signals s := by
      rw [signals]
      omega
    have one := stage_posted s stage positive
    have taken : signals { s with rwSem := s.rwSem - 1, place := .woken own } = 0 := by
      have single := one.posted
      rw [signals] at single
      simp only [signals]
      omega
    refine ⟨.idle ⟨one.questions, one.answers, taken⟩, ?_⟩
    rw [Judged, due, waits] at judged
    rw [Judged, due]
    cases own with
    | login =>
      simp only [if_neg (Nat.ne_of_gt positive)] at judged
      exact judged
    | register => exact judged

/-- Reading the flag uses the answer up. -/
theorem kept_goOn (own : Question) (woken : s.place = .woken own) :
    Stage (s.goOn own) ∧ Judged (s.goOn own) := by
  have none := stage_idle s stage (fun other waits => by rw [woken] at waits; cases waits)
  rw [Judged, due, woken] at judged
  cases own with
  | login =>
    refine ⟨.idle ⟨none.questions, none.answers, none.posted⟩, ?_⟩
    change s.verdicts = (s.decisions ++ [_]) ++ ([] ++ s.down.filterMap verdict)
    rw [judged, List.append_assoc, List.nil_append]
  | register => exact ⟨.idle ⟨none.questions, none.answers, none.posted⟩, judged⟩

/-- Whatever the foreground thread does keeps the stage and the verdicts. -/
theorem kept_foreground (delivered : Bool) (time : String) :
    Stage (s.foreground delivered time) ∧ Judged (s.foreground delivered time) := by
  unfold Session.foreground
  cases place : s.place with
  | running => exact kept_iterate s stage judged delivered time place
  | waiting own => exact kept_semWait s stage judged own place
  | woken own => exact kept_goOn s stage judged own place

end Foreground

/-!
## The receiving thread and the server
-/

/-- What the receiving thread does: nothing, the post it owes, the end of the client, or a
message. -/
inductive Received (parse : String → Option Json) (s : Session) : Session → Prop
  | idle : Received parse s s
  | post (posting : s.posting = true) :
      Received parse s { s with rwSem := s.rwSem + 1, posting := false }
  | crash : Received parse s { s with crashed := true }
  | message (js : Json) (rest : List Json) (client : Client) (free : s.posting = false)
      (first : s.down = js :: rest) (handled : Client.handle parse s.client js = .ok client) :
      Received parse s { s with
        down := rest
        client := client
        posting := (answered js).isSome }

/-- The receiving thread does one of these. -/
theorem received (parse : String → Option Json) (s : Session) :
    Received parse s (s.receive parse) := by
  unfold Session.receive
  by_cases posting : s.posting = true
  · rw [if_pos posting]
    exact .post posting
  · rw [if_neg posting]
    have free : s.posting = false := by simpa using posting
    split
    · exact .idle
    · rename_i js rest first
      split
      · rename_i client handled
        exact .message js rest client free first handled
      · exact .crash

section Others

variable (s : Session) (stage : Stage s) (judged : Judged s)

include stage judged

/-- An answer is the one the foreground thread waits for, and becomes its signal. -/
theorem kept_answer (parse : String → Option Json) (js : Json) (rest : List Json) (client : Client)
    (own : Question) (free : s.posting = false) (first : s.down = js :: rest)
    (handled : Client.handle parse s.client js = .ok client) (replied : answered js = some own) :
    Stage { s with down := rest, client := client, posting := true } ∧
      Judged { s with down := rest, client := client, posting := true } := by
  have flag := handled_flag parse s.client client js handled
  have down : s.down.filterMap answered = own :: rest.filterMap answered := by
    rw [first, List.filterMap_cons, replied]
  have waiting : s.place = .waiting own ∧ UnderWay s [] [own] 0 ∧ rest.filterMap answered = [] := by
    cases stage with
    | idle none =>
      rw [none.answers] at down
      cases down
    | question other waits one =>
      rw [one.answers] at down
      cases down
    | answer other waits one =>
      have same := down
      rw [one.answers] at same
      obtain ⟨rfl, none⟩ := List.cons.inj same
      exact ⟨waits, one, none.symm⟩
    | signal other waits one =>
      rw [one.answers] at down
      cases down
  obtain ⟨waits, one, none⟩ := waiting
  have zero : s.rwSem = 0 := by
    have posted := one.posted
    rw [signals, free] at posted
    simpa using posted
  have single : signals { s with down := rest, client := client, posting := true } = 1 := by
    simp [signals, zero]
  refine ⟨.signal own waits ⟨one.questions, none, single⟩, ?_⟩
  have silent : rest.filterMap verdict = [] := by
    rw [List.filterMap_eq_nil_iff] at none ⊢
    intro other member
    rw [verdict, none other member, if_neg nofun]
  rw [Judged, due, waits, first, List.filterMap_cons, silent] at judged
  rw [Judged, due, single]
  simp only [waits, silent]
  cases own with
  | login =>
    rw [replied, if_pos rfl] at flag
    simp only [one.posted, verdict, replied, if_true] at judged
    simp only [flag]
    exact judged
  | register =>
    have plain : verdict js = Option.none := by rw [verdict, replied, if_neg (by decide)]
    rw [plain] at judged
    exact judged

/-- Whatever the receiving thread does keeps the stage and the verdicts. -/
theorem kept_receive (parse : String → Option Json) :
    Stage (s.receive parse) ∧ Judged (s.receive parse) := by
  have taken := received parse s
  generalize s.receive parse = next at taken ⊢
  cases taken with
  | idle => exact ⟨stage, judged⟩
  | post posting =>
    have same : signals { s with rwSem := s.rwSem + 1, posting := false } = signals s := by
      simp [signals, posting]
    refine ⟨stage_same s _ stage rfl rfl rfl same, ?_⟩
    rw [Judged, due] at judged ⊢
    rw [same]
    exact judged
  | crash => exact ⟨stage_same s _ stage rfl rfl rfl rfl, judged⟩
  | message js rest client free first handled =>
    cases replied : answered js with
    | some own => exact kept_answer s stage judged parse js rest client own free first handled replied
    | none =>
      have flag := handled_flag parse s.client client js handled
      have plain : verdict js = none := by rw [verdict, replied, if_neg nofun]
      have same : signals { s with down := rest, client := client, posting := false } =
          signals s := by simp [signals, free]
      have down : rest.filterMap answered = s.down.filterMap answered := by
        rw [first, List.filterMap_cons, replied]
      refine ⟨stage_same s _ stage rfl rfl down same, ?_⟩
      rw [Judged, first, List.filterMap_cons, plain] at judged
      rw [replied, if_neg nofun] at flag
      have kept : due { s with down := rest, client := client, posting := false } = due s := by
        unfold due
        rw [same]
        simp only [flag]
      rw [Option.isSome_none, Judged, kept]
      exact judged

omit stage in
/-- Whatever the server sends is on its way. -/
theorem judged_serve (conn : Conn) (w : World) : Judged (s.serve conn w) := by
  rw [Judged] at judged ⊢
  have same : due (s.serve conn w) = due s := rfl
  rw [same]
  simp only [Session.serve]
  rw [judged, List.filterMap_append, List.append_assoc, List.append_assoc]

omit judged in
/-- A request whose answers the client does not wait for keeps the stage. -/
theorem stage_quiet (conn : Conn) (w : World) (none : ∀ output ∈ NodeRuns.replies s.world w,
    output.conn = conn → answered output.body = none) : Stage (s.serve conn w) := by
  have silent : (ChatPath.sentOn conn s.world w).filterMap answered = [] := by
    rw [List.filterMap_eq_nil_iff]
    intro body member
    obtain ⟨output, sent, rfl⟩ := List.mem_map.mp member
    obtain ⟨inside, own⟩ := List.mem_filter.mp sent
    exact none output inside (of_decide_eq_true own)
  refine stage_same s _ stage rfl rfl ?_ rfl
  rw [Session.serve, List.filterMap_append, silent, List.append_nil]

omit judged in
/-- The server takes the question that is under way, or a request that asks nothing. -/
theorem stage_taken (js : Json) (rest : List Json) (first : s.up = js :: rest) :
    Stage { s with up := rest } ∧ ∀ own, asked js = some own →
      s.place = .waiting own ∧ UnderWay { s with up := rest } [] [] 0 := by
  cases asks : asked js with
  | none =>
    have same : rest.filterMap asked = s.up.filterMap asked := by
      rw [first, List.filterMap_cons, asks]
    exact ⟨stage_same s _ stage rfl same rfl rfl, nofun⟩
  | some own =>
    have up : s.up.filterMap asked = own :: rest.filterMap asked := by
      rw [first, List.filterMap_cons, asks]
    have waiting : s.place = .waiting own ∧ UnderWay { s with up := rest } [] [] 0 := by
      cases stage with
      | idle none =>
        rw [none.questions] at up
        cases up
      | question other waits one =>
        rw [one.questions] at up
        obtain ⟨rfl, none⟩ := List.cons.inj up
        exact ⟨waits, none.symm, one.answers, one.posted⟩
      | answer other waits one =>
        rw [one.questions] at up
        cases up
      | signal other waits one =>
        rw [one.questions] at up
        cases up
    refine ⟨.idle waiting.2, fun other same => ?_⟩
    cases same
    exact waiting

/-- Serving a request keeps the stage and the verdicts: it is answered once if the client waits for
it. -/
theorem kept_request (conn : Conn) (js : Json) (rest : List Json) (faults : Faults)
    (first : s.up = js :: rest) :
    let next := { s with up := rest }.serve conn
      (ChatService.dispatch conn js (s.world.meet faults)).2
    Stage next ∧ Judged next := by
  intro next
  obtain ⟨taken, asking⟩ := stage_taken s stage js rest first
  have kept : Judged { s with up := rest } := judged
  refine ⟨?_, judged_serve _ kept conn _⟩
  have spoken := dispatch_spoken conn js (s.world.meet faults)
  have same : NodeRuns.replies (s.world.meet faults)
      (ChatService.dispatch conn js (s.world.meet faults)).2 =
    NodeRuns.replies s.world (ChatService.dispatch conn js (s.world.meet faults)).2 := rfl
  rw [same] at spoken
  generalize outputs : NodeRuns.replies s.world
    (ChatService.dispatch conn js (s.world.meet faults)).2 = sent at spoken
  cases spoken with
  | plain _ none =>
    refine stage_quiet _ taken conn _ fun output member _ => none output ?_
    rw [← outputs]
    exact member
  | answer body own answers =>
    obtain ⟨question, replied⟩ := Option.isSome_iff_exists.mp answers
    obtain ⟨waits, none⟩ := asking question (own.trans replied)
    have heard : ChatPath.sentOn conn s.world
        (ChatService.dispatch conn js (s.world.meet faults)).2 = [body] := by
      rw [ChatPath.sentOn, outputs]
      simp
    refine .answer question waits ⟨none.questions, ?_, none.posted⟩
    change (s.down ++ ChatPath.sentOn conn s.world _).filterMap answered = [question]
    rw [heard, List.filterMap_append, none.answers, List.filterMap_cons, replied]
    rfl

end Others

/-!
## The runs
-/

/-- Every step keeps the stage and the verdicts. -/
theorem kept_step (parse : String → Option Json) (conn : Conn) (s : Session) (event : Event conn)
    (kept : Stage s ∧ Judged s) :
    Stage (step parse conn s event) ∧ Judged (step parse conn s event) := by
  obtain ⟨stage, judged⟩ := kept
  cases event with
  | foreground delivered time =>
    rw [step]
    split
    · exact ⟨stage, judged⟩
    · exact kept_foreground s stage judged delivered time
  | receive =>
    rw [step]
    split
    · exact ⟨stage, judged⟩
    · exact kept_receive s stage judged parse
  | request faults =>
    rw [step]
    split
    · exact ⟨stage, judged⟩
    · rename_i js rest first
      exact kept_request s stage judged conn js rest faults first
  | elsewhere event foreign =>
    exact ⟨stage_quiet s stage conn _ (event_spoken conn s.world event foreign),
      judged_serve s judged conn _⟩

/-- Between its calls the foreground thread is in a state of its two loops; while it waits,
it is in one whose last iteration has not entered `mainmenu` yet. -/
def Reached (start : Terminal) (s : Session) : Prop :=
  ∃ surroundings, match s.place with
    | .running => s.terminal = Runs.run Terminal.step start surroundings
    | .waiting own | .woken own => ∃ around : Surroundings, around.isLoginSuccess = false ∧
        awaited (Runs.run Terminal.step start surroundings) s.terminal = some own ∧
        s.terminal = (Runs.run Terminal.step start surroundings).step around

/-- A login whose wait has found success is the iteration that does. -/
theorem step_admitted (t : Terminal) (around : Surroundings) (unread : around.isLoginSuccess = false)
    (waits : awaited t (t.step around) = some .login) :
    t.step { around with isLoginSuccess := true } =
      { t.step around with isMainMenuRunning := true } := by
  have alive : ¬ (t.step around).ended = true := by
    intro ended
    rw [awaited, if_pos ended] at waits
    cases waits
  have asks : question t = some .login := by rwa [awaited, if_neg alive] at waits
  have going : ¬ (t.ended = true ∨ t.isMainMenuRunning = true) := by
    intro either
    rw [question, if_pos either] at asks
    cases asks
  have login : (t.input.readInt 0).1 = 1 := by
    rw [question, if_neg going] at asks
    by_contra other
    rw [if_neg other] at asks
    split at asks <;> cases asks
  have same : ∀ js failure t, Terminal.send { around with isLoginSuccess := true } js failure t =
      Terminal.send around js failure t := fun _ _ _ => rfl
  rw [Terminal.step, if_neg (not_or.mp going).1, if_neg (not_or.mp going).2, Terminal.mainLoop]
    at alive ⊢
  rw [Terminal.step, if_neg (not_or.mp going).1, if_neg (not_or.mp going).2, Terminal.mainLoop]
  simp only [if_pos login, Terminal.login, same, unread, Bool.false_eq_true, if_false, if_true]
    at alive ⊢
  generalize Terminal.send around _ _ _ = sent at alive ⊢
  cases sent with
  | none => exact absurd rfl alive
  | some next => rfl

/-- A step that leaves the foreground thread alone leaves it where it can be. -/
theorem reached_same (start : Terminal) (s next : Session) (reached : Reached start s)
    (terminal : next.terminal = s.terminal) (place : next.place = s.place) :
    Reached start next := by
  rw [Reached, terminal, place]
  exact reached

/-- One iteration more is the last of a run. -/
theorem run_snoc (start : Terminal) (surroundings : List Surroundings) (around : Surroundings) :
    Runs.run Terminal.step start (surroundings ++ [around]) =
      (Runs.run Terminal.step start surroundings).step around := by
  rw [Runs.run, List.foldl_append]
  rfl

/-- The foreground thread goes from one state of its loops to another. -/
theorem reached_foreground (start : Terminal) (s : Session) (delivered : Bool) (time : String)
    (reached : Reached start s) : Reached start (s.foreground delivered time) := by
  obtain ⟨surroundings, reached⟩ := reached
  unfold Session.foreground
  cases place : s.place with
  | running =>
    rw [place] at reached
    cases waits : awaited s.terminal
        (s.terminal.step ⟨delivered, false, s.client.currentUser, time⟩) with
    | none =>
      refine ⟨surroundings ++ [⟨delivered, false, s.client.currentUser, time⟩], ?_⟩
      simp only [Session.iterate, waits]
      rw [run_snoc, ← reached]
    | some own =>
      refine ⟨surroundings, ?_⟩
      simp only [Session.iterate, waits]
      exact ⟨_, rfl, reached ▸ waits, by rw [← reached]⟩
  | waiting own =>
    rw [place] at reached
    simp only [Session.semWait]
    split
    · refine ⟨surroundings, ?_⟩
      rw [place]
      exact reached
    · exact ⟨surroundings, reached⟩
  | woken own =>
    rw [place] at reached
    obtain ⟨around, unread, waits, stepped⟩ := reached
    cases own with
    | register =>
      refine ⟨surroundings ++ [around], ?_⟩
      simp only [Session.goOn]
      rw [run_snoc, stepped]
    | login =>
      simp only [Session.goOn]
      cases s.client.isLoginSuccess with
      | true =>
        refine ⟨surroundings ++ [{ around with isLoginSuccess := true }], ?_⟩
        simp only [if_true]
        rw [run_snoc, step_admitted _ around unread (stepped ▸ waits), stepped]
      | false =>
        refine ⟨surroundings ++ [around], ?_⟩
        simp only [Bool.false_eq_true, if_false]
        rw [run_snoc, stepped]

/-- So it does whatever the other steps are. -/
theorem reached_step (parse : String → Option Json) (conn : Conn) (start : Terminal) (s : Session)
    (event : Event conn) (reached : Reached start s) : Reached start (step parse conn s event) := by
  cases event with
  | foreground delivered time =>
    rw [step]
    split
    · exact reached
    · exact reached_foreground start s delivered time reached
  | receive =>
    rw [step]
    split
    · exact reached
    · have taken := received parse s
      generalize s.receive parse = next at taken ⊢
      cases taken <;> exact reached_same start s _ reached rfl rfl
  | request faults =>
    rw [step]
    split
    · exact reached
    · exact reached_same start s _ reached rfl rfl
  | elsewhere event foreign => exact reached_same start s _ reached rfl rfl

/-- In every run of the client, its connection and the server, whatever else the server does:
the foreground thread reads the server's answers to its logins one by one and in order. While
it does not wait, it has read them all, no question, answer or signal is under way, and it is
in a state of its two loops. There is never more than one signal. -/
theorem answers_match (parse : String → Option Json) (conn : Conn) (world : World)
    (start : Terminal) (events : List (Event conn)) :
    let s := Runs.run (step parse conn) { world := world, terminal := start } events
    s.decisions <+: s.verdicts ∧ signals s ≤ 1 ∧
      (s.place = .running → s.decisions = s.verdicts ∧ UnderWay s [] [] 0 ∧
        ∃ surroundings, s.terminal = Runs.run Terminal.step start surroundings) := by
  intro s
  have kept : Stage s ∧ Judged s :=
    Runs.run_holds _ (fun s => Stage s ∧ Judged s) _ events
      (fun s event _ => kept_step parse conn s event) ⟨.idle ⟨rfl, rfl, rfl⟩, rfl⟩
  have reached : Reached start s :=
    Runs.run_holds _ (Reached start) _ events
      (fun s event _ => reached_step parse conn start s event) ⟨[], rfl⟩
  obtain ⟨stage, judged⟩ := kept
  refine ⟨⟨_, judged.symm⟩, ?_, fun running => ?_⟩
  · cases stage with
    | idle none => exact none.posted.le.trans (Nat.zero_le 1)
    | question own waits one => exact one.posted.le.trans (Nat.zero_le 1)
    | answer own waits one => exact one.posted.le.trans (Nat.zero_le 1)
    | signal own waits one => exact one.posted.le
  · have none := stage_idle s stage fun own waits => by rw [running] at waits; cases waits
    obtain ⟨surroundings, same⟩ := reached
    rw [running] at same
    refine ⟨?_, none, surroundings, same⟩
    have silent : s.down.filterMap verdict = [] := by
      have answers := none.answers
      rw [List.filterMap_eq_nil_iff] at answers ⊢
      intro js member
      rw [verdict, answers js member, if_neg nofun]
    rw [Judged, due, running, silent, List.append_nil, List.append_nil] at judged
    exact judged.symm

end ClusterChat.ClientSession
