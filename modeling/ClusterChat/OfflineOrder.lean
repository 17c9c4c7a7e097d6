import ClusterChat.Client
import ClusterChat.Library.Returns
import ClusterChat.NodeRuns

/-!
# The order of offline messages

`pushOfflineMessage` puts a message at the head of the list under `offline:u`, and
`popOfflineMessages` reads the list from its head, so the newest message comes
first. A login puts the list into its reply as it is, and the client prints the
reply's list front to back: neither of them turns the order round.

`in_order_iff` says of every sequential run of pushes and pops, for any users, when
the lists returned for each user, one after another, are a prefix of the messages
pushed: when every pop finds a list that reads the same from both ends, as a list of
one message does. After the first other list no later one can put the order right.
What login and client contribute holds of every login and every reply.

Every connection is found and every command answered. What waits in the beginning
counts as pushed, the oldest first, and nothing expires.
-/

namespace ClusterChat.OfflineOrder

open ChatService NodeRuns

/-- A call of one of the two operations. -/
inductive Event where
  | push (userId : Int) (msg : Json)
  | pop (userId : Int)

/-- Redis, the messages pushed for each user, and those the pops have returned. -/
structure State where
  store : Redis
  pushed : Int → List String
  popped : Int → List String

/-- What waits in Redis has been pushed, and nothing has been returned. -/
def begin (store : Redis) : State := ⟨store, fun id => (store.waiting id).reverse, fun _ => []⟩

/-- The state after the event. -/
def step (s : State) : Event → State
  | .push userId msg =>
      { s with
        store := ((RedisAccess.reliable s.store).run
          (RedisClient.pushOfflineMessage userId msg)).2.store
        pushed := Function.update s.pushed userId (s.pushed userId ++ [msg.dump]) }
  | .pop userId =>
      let (messages, m) := (RedisAccess.reliable s.store).run
        (RedisClient.popOfflineMessages userId)
      { s with
        store := m.store
        popped := Function.update s.popped userId (s.popped userId ++ messages) }

/-- What was returned for a user is a prefix of what was pushed. -/
def InOrder (s : State) : Prop := ∀ userId, s.popped userId <+: s.pushed userId

/-- A pop finds a list that reads the same from both ends. -/
def Symmetric (s : State) : Event → Prop
  | .push _ _ => True
  | .pop userId => (s.store.waiting userId).reverse = s.store.waiting userId

/-- What was pushed is what was returned, and what waits from its end to its head. -/
def Balanced (s : State) : Prop :=
  ∀ userId, s.pushed userId = s.popped userId ++ (s.store.waiting userId).reverse

/-- The balance holds at the beginning. -/
theorem balanced_begin (store : Redis) : Balanced (begin store) := fun _ => rfl

/-- A push puts the message at the head. -/
theorem waiting_push (s : State) (userId other : Int) (msg : Json) :
    (step s (.push userId msg)).store.waiting other =
      if other = userId then msg.dump :: s.store.waiting userId else s.store.waiting other := by
  change ((s.store.execute (.offline userId) (.lpush msg.dump)).2.entries (.offline other)).list = _
  simp only [Redis.execute, Redis.waiting, KeyCommand.execute, Key.offline.injEq]
  split <;> rfl

/-- A pop empties the list. -/
theorem waiting_pop (s : State) (userId other : Int) :
    (step s (.pop userId)).store.waiting other =
      if other = userId then [] else s.store.waiting other := by
  change (((s.store.execute (.offline userId) .lrange).2.execute (.offline userId) .del).2.entries
    (.offline other)).list = _
  simp only [Redis.execute, Redis.waiting, KeyCommand.execute, Key.offline.injEq]
  split <;> rfl

/-- A pop returns the list from its head. -/
theorem popped_pop (s : State) (userId : Int) : (step s (.pop userId)).popped =
    Function.update s.popped userId (s.popped userId ++ s.store.waiting userId) := rfl

/-- A push keeps it. -/
theorem balanced_push (s : State) (userId : Int) (msg : Json) (balanced : Balanced s) :
    Balanced (step s (.push userId msg)) := by
  intro other
  change Function.update s.pushed userId (s.pushed userId ++ [msg.dump]) other =
    s.popped other ++ _
  rw [waiting_push]
  by_cases own : other = userId
  · subst own
    rw [Function.update_self, if_pos rfl, balanced other, List.reverse_cons, List.append_assoc]
  · rw [Function.update_of_ne own, if_neg own]
    exact balanced other

/-- A list that reads the same from both ends is returned in order. -/
theorem balanced_pop (s : State) (userId : Int) (balanced : Balanced s)
    (symmetric : (s.store.waiting userId).reverse = s.store.waiting userId) :
    Balanced (step s (.pop userId)) := by
  intro other
  rw [waiting_pop, popped_pop]
  change s.pushed other = _
  by_cases own : other = userId
  · subst own
    rw [Function.update_self, if_pos rfl, List.reverse_nil, List.append_nil, balanced other,
      symmetric]
  · rw [Function.update_of_ne own, if_neg own]
    exact balanced other

/-- Nothing pushed or returned is forgotten. -/
theorem run_extends (s : State) (events : List Event) (userId : Int) :
    s.pushed userId <+: (Runs.run step s events).pushed userId ∧
      s.popped userId <+: (Runs.run step s events).popped userId := by
  have extends_update (lists : Int → List String) (own other : Int) (more : List String) :
      lists other <+: Function.update lists own (lists own ++ more) other := by
    by_cases same : other = own
    · subst same
      rw [Function.update_self]
      exact List.prefix_append _ _
    · have kept : Function.update lists own (lists own ++ more) other = lists other :=
        Function.update_of_ne same _ lists
      exact kept.symm ▸ List.prefix_rfl
  induction events generalizing s with
  | nil => exact ⟨List.prefix_rfl, List.prefix_rfl⟩
  | cons event events inductionHypothesis =>
    obtain ⟨pushed, popped⟩ := inductionHypothesis (step s event)
    rw [Runs.run_cons]
    cases event with
    | push own msg => exact ⟨(extends_update s.pushed own userId [msg.dump]).trans pushed, popped⟩
    | pop own =>
      exact ⟨pushed, (extends_update s.popped own userId (s.store.waiting own)).trans popped⟩

/-- Two lists of one length of which one begins as the other are equal. -/
theorem eq_of_prefixes {first second whole : List String} (same : first.length = second.length)
    (one : first <+: whole) (other : second <+: whole) : first = second :=
  (List.prefix_of_prefix_length_le one other same.le).eq_of_length same

/-- A list returned against the order stays against it. -/
theorem not_inOrder_pop (s : State) (userId : Int) (events : List Event) (balanced : Balanced s)
    (inOrder : InOrder (Runs.run step (step s (.pop userId)) events)) :
    (s.store.waiting userId).reverse = s.store.waiting userId := by
  obtain ⟨pushed, popped⟩ := run_extends (step s (.pop userId)) events userId
  rw [popped_pop, Function.update_self] at popped
  have asPushed : s.popped userId ++ (s.store.waiting userId).reverse <+:
      (Runs.run step (step s (.pop userId)) events).pushed userId := by
    rw [← balanced userId]
    exact pushed
  have same := eq_of_prefixes (by simp) asPushed (popped.trans (inOrder userId))
  exact List.append_cancel_left same

/-- From a balanced state, the lists come in order when every pop is symmetric. -/
theorem inOrder_iff (s : State) (events : List Event) (balanced : Balanced s) :
    InOrder (Runs.run step s events) ↔ Runs.Guarded step Symmetric s events := by
  induction events generalizing s with
  | nil =>
    refine iff_of_true ?_ trivial
    intro userId
    rw [Runs.run_nil, balanced userId]
    exact List.prefix_append _ _
  | cons event events inductionHypothesis =>
    rw [Runs.run_cons]
    cases event with
    | push userId msg =>
      rw [inductionHypothesis _ (balanced_push s userId msg balanced)]
      exact ⟨fun rest => ⟨trivial, rest⟩, fun guarded => guarded.2⟩
    | pop userId =>
      constructor
      · intro inOrder
        have symmetric := not_inOrder_pop s userId events balanced inOrder
        exact ⟨symmetric,
          (inductionHypothesis _ (balanced_pop s userId balanced symmetric)).mp inOrder⟩
      · rintro ⟨symmetric, rest⟩
        exact (inductionHypothesis _ (balanced_pop s userId balanced symmetric)).mpr rest

/-!
## Login and client
-/

/-- The reply to a login that is let in carries what `popOfflineMessages` returns. -/
def Delivered (conn : Conn) (js : Json) (id : Int) (w : World) : Prop :=
  ∀ output ∈ replies w (login conn js w).2, output.errno = some 0 →
    output.offlineMessages = (w.redis.run (RedisClient.popOfflineMessages id)).1

/-- A login delivers what waits, in order. -/
theorem delivered (conn : Conn) (js : Json) (id : Int) (w : World) (named : js.int "id" = .ok id)
    (reliable : w.redis.Reliable) : Delivered conn js id w := by
  intro output sent welcomed
  obtain ⟨result, ended, ends⟩ := login_ends conn js w
  rw [ended] at sent
  cases ends with
  | malformed escape unread =>
    rw [replies_append w w [] (List.append_nil _).symm] at sent
    exact absurd sent List.not_mem_nil
  | refused other pwd reply mysql m namedToo given seen rejected tables entries =>
    rw [replies_append w _ [reply] rfl, List.mem_singleton] at sent
    rw [sent] at welcomed
    exact absurd welcomed rejected
  | admitted other pwd reply groups after namedToo given account absent letIn =>
    rw [named] at namedToo
    cases namedToo
    rw [replies_append w after [reply] letIn.sent, List.mem_singleton] at sent
    rw [sent, (letIn.delivered reliable).1, (RedisAccess.reliable_iff w.redis).mp reliable,
      RedisClient.popOfflineMessages_reliable]
    rfl

/-- The client ends what it prints for a successful reply with a line for each
offline message, in the order of the reply. -/
def Printed (parse : String → Option Json) (client : Client) (js : Json) : Prop :=
  ∀ errno after, js.field "errno" = .ok errno → errno.isZero = true →
    client.doLoginResponse parse js = .ok after → ∃ before lines,
      after.printed = before ++ lines ∧
      List.Forall₂ (fun text line => Client.offlineLine parse text = .ok line)
        (js.member "offlinemessage").strings lines

/-- An array read as strings consists of them. -/
theorem getStrings_strings (js : Json) (texts : List String)
    (read : Client.getStrings js = .ok texts) : js.strings = texts := by
  cases js with
  | array items =>
    have each := Except.forall₂_of_mapM _ items texts read
    clear read
    induction each with
    | nil => rfl
    | @cons item text rest more first _ inductionHypothesis =>
      cases item with
      | string value =>
        cases first
        rw [← inductionHypothesis]
        rfl
      | _ => cases first
  | _ => cases read

/-- A list of the reply is read text by text. -/
theorem readList_lines {α : Type} (read : String → Except Uncaught α) (js : Json) (key : String)
    (values : List α) (ended : Client.readList read js key [] = .ok values) :
    List.Forall₂ (fun text value => read text = .ok value) (js.member key).strings values := by
  unfold Client.readList at ended
  cases js with
  | object members =>
    by_cases present : (Json.object members).contains key = true
    · rw [if_pos present] at ended
      obtain ⟨value, given, later⟩ := (Except.bind_eq_ok _ _ _).mp ended
      cases given
      obtain ⟨texts, readTexts, each⟩ := (Except.bind_eq_ok _ _ _).mp later
      have listed : ((Json.object members).member key).strings = texts :=
        getStrings_strings _ texts readTexts
      rw [listed]
      exact Except.forall₂_of_mapM read texts values each
    · rw [if_neg present] at ended
      cases ended
      have missing : (Json.object members).member key = .null := by
        simp only [Json.contains, Option.isSome_iff_ne_none, ne_eq, not_not] at present
        simp [Json.member, present]
      rw [missing]
      exact List.Forall₂.nil
  | _ =>
    cases ended
    exact List.Forall₂.nil

/-- The client prints what the answer carries, in order. -/
theorem printed (parse : String → Option Json) (client : Client) (js : Json) :
    Printed parse client js := by
  intro errno after read zero handled
  unfold Client.doLoginResponse at handled
  rw [read] at handled
  change (if errno.isZero = true then _ else _) = _ at handled
  rw [if_pos zero] at handled
  obtain ⟨entered, _, later⟩ := (Except.bind_eq_ok _ _ _).mp handled
  obtain ⟨lines, readLines, finished⟩ := (Except.bind_eq_ok _ _ _).mp later
  cases finished
  exact ⟨entered.printed, lines, rfl, readList_lines _ js "offlinemessage" lines readLines⟩

/-- The lists returned come in the order of the pushes, and login and client keep the
order, if and only if every pop finds a list that reads the same from both ends. -/
theorem in_order_iff (store : Redis) (events : List Event) (parse : String → Option Json) :
    (InOrder (Runs.run step (begin store) events) ∧
      (∀ conn js id w, js.int "id" = .ok id → w.redis.Reliable → Delivered conn js id w) ∧
      ∀ client js, Printed parse client js) ↔
    Runs.Guarded step Symmetric (begin store) events := by
  rw [← inOrder_iff (begin store) events (balanced_begin store)]
  constructor
  · exact fun claimed => claimed.1
  · exact fun inOrder => ⟨inOrder, delivered, printed parse⟩

/-- Two messages for one user come back the other way round. -/
theorem in_order_two : ¬ ∀ store events, InOrder (Runs.run step (begin store) events) := by
  intro inOrder
  have run := (inOrder_iff _ _ (balanced_begin Redis.empty)).mp (inOrder Redis.empty
    [.push 1 (.string "first"), .push 1 (.string "second"), .pop 1])
  have symmetric : ["\"first\"", "\"second\""] = ["\"second\"", "\"first\""] := run.2.2.1
  exact absurd symmetric (by decide)

end ClusterChat.OfflineOrder
