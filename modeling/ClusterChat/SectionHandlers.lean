import ClusterChat.ServiceSections

/-!
# Interleaved handlers and the sequential model

Two results tie the server's threads to the handlers of the sequential model. `sections_run`
takes any interleaving of the actions of any number of handlers, callbacks and rounds of the
subscriber thread to a run of whole sections. `handlers_alone` says what the sections of one
of them do with nothing in between: exactly what its sequential handler does.

`assemble` makes a world of the containers and the rest. A section is compared with its
sequential counterpart once, by `perform_whole`; a handler is compared by its text, along
which `Denotes` is carried from scope to scope.

Between two sections of a handler anything may happen, so the two results together do not say
that handlers are atomic. They are not.
-/

namespace ClusterChat.LockedService

open Sections

/-- The world of the sequential model that the containers and the rest make up. -/
def assemble (s : service.Shared Rest) : World where
  node := {
    localNodeId := s.rest.localNodeId
    userConnMap := s.data .userConn
    groupMembers := s.data .group
    failedQueue := s.rest.failedQueue
    subscriber := {
      subTasks := (s.data .sub).subTasks
      subGroupSet := (s.data .sub).subGroupSet
      tasks := s.rest.tasks
      executed := s.rest.executed
      channels := s.rest.channels
      stopped := s.rest.stopped } }
  mysql := s.rest.mysql
  redis := s.rest.redis
  sent := s.rest.sent

/-- What the four mutexes do not guard. -/
def restOf (w : World) : Rest where
  localNodeId := w.node.localNodeId
  failedQueue := w.node.failedQueue
  tasks := w.node.subscriber.tasks
  executed := w.node.subscriber.executed
  channels := w.node.subscriber.channels
  stopped := w.node.subscriber.stopped
  mysql := w.mysql
  redis := w.redis
  sent := w.sent

/-- What the four mutexes guard. The callback has been set. -/
def dataOf (w : World) : (lock : Lock) → Datum lock
  | .callback => true
  | .group => w.node.groupMembers
  | .userConn => w.node.userConnMap
  | .sub => ⟨w.node.subscriber.subTasks, w.node.subscriber.subGroupSet⟩

/-- Make a call in the world of the sequential model. -/
def makeIn (call : Call) (w : World) : call.Reply × World :=
  let (reply, rest) := (restOf w).perform call
  (reply, assemble ⟨dataOf w, rest⟩)

/-- The scopes as the sequential model has them. -/
def Scope.perform : (scope : Scope) → World → scope.Value × World
  | .record id conn, w => ((), { w with node := w.node.record id conn })
  | .forget id, w => ((), { w with node := w.node.forget id })
  | .takeEntry hint conn, w =>
      match w.node.entryOf conn hint with
      | some id => (some id, { w with node := w.node.forget id })
      | none => (none, w)
  | .relay conn toId js, w =>
      match w.node.connOf toId with
      | some toConn => (true, { w with
          sent := w.sent ++ [⟨conn, ChatService.sentMessage, false⟩, ⟨toConn, js, false⟩] })
      | none => (false, w)
  | .enter id group, w => ((), { w with node := ChatService.enterGroup id group w.node })
  | .leave id, w => ((), { w with node := w.node.leaveGroups id })
  | .addMember groupid id, w => ((), { w with node := w.node.addMember groupid id })
  | .cached groupid, w => (decide (groupid ∈ w.node.groupMembers), w)
  | .addMembers groupid groupUsers, w => ((), { w with
      node := (groupUsers.foldl (fun node id => node.addMember groupid id)
        w.node).subscribeGroupChannel groupid })
  | .subscribe groupid, w => ((), { w with node := w.node.subscribeGroupChannel groupid })
  | .make call, w => makeIn call w

/-- The value and the state a program of sections ends with when nothing comes between them.
-/
abbrev runWhole {α : Type} (whole : Whole α) (s : service.Shared Rest) :
    α × service.Shared Rest :=
  whole.run (answerWhole (S := service) fun call rest => rest.perform call) s

/-- An entry of another connection is not looked for. -/
theorem find_kerase (conn other : Conn) (hint : Int) (entries : List ((_ : Int) × Conn))
    (found : entries.dlookup hint = some other) (differs : other ≠ conn) :
    (entries.kerase hint).find? (fun entry => entry.2 = conn) =
      entries.find? (fun entry => entry.2 = conn) := by
  induction entries with
  | nil => rfl
  | cons entry rest inductionHypothesis =>
    by_cases same : hint = entry.1
    · obtain ⟨key, value⟩ := entry
      subst same
      rw [List.dlookup_cons_eq] at found
      cases found
      have erased : List.kerase hint ((⟨hint, other⟩ : (_ : Int) × Conn) :: rest) = rest :=
        List.kerase_cons_eq rfl
      rw [erased, List.find?_cons_of_neg (by simpa using differs)]
    · obtain ⟨key, value⟩ := entry
      rw [List.dlookup_cons_ne _ _ same] at found
      rw [List.kerase_cons_ne same, List.find?_cons, List.find?_cons, inductionHypothesis found]

/-- The entry an iteration in the hinted order meets is the one of the sequential model. -/
theorem entryIn_eq (conn : Conn) (hint : Int) (node : Node) :
    entryIn conn hint node.userConnMap = node.entryOf conn hint := by
  have pairs : ∀ listed : List ((_ : Int) × Conn),
      ((listed.map (fun entry => (entry.1, entry.2))).find? (fun entry => entry.2 = conn)).map
        (fun entry => entry.1) =
      (listed.find? (fun entry => entry.2 = conn)).map (fun entry => entry.1) := by
    intro listed
    rw [List.find?_map, Option.map_map]
    rfl
  rw [entryIn, arranged, Node.entryOf, Node.connOf]
  cases found : node.userConnMap.lookup hint with
  | none =>
    rw [if_neg (Option.some_ne_none conn).symm]
    exact pairs _
  | some other =>
    dsimp only
    by_cases same : other = conn
    · simp [same]
    · rw [if_neg (fun equal => same (Option.some.inj equal)),
        List.find?_cons_of_neg (by simpa using same), pairs]
      exact congrArg _ (find_kerase conn other hint _ found same)

/-- The containers with one changed. -/
def put (s : service.Shared Rest) (lock : Lock) (datum : Datum lock) : service.Shared Rest :=
  { s with data := Function.update s.data lock datum }

/-- Putting back what was there changes nothing. -/
theorem put_same (s : service.Shared Rest) (lock : Lock) : put s lock (s.data lock) = s :=
  congrArg (fun data => (⟨data, s.rest⟩ : service.Shared Rest))
    (Function.update_eq_self (f := s.data) lock)

/-- The last value put is the one that stays. -/
theorem put_put (s : service.Shared Rest) (lock : Lock) (first second : Datum lock) :
    put (put s lock first) lock second = put s lock second :=
  congrArg (fun data => (⟨data, s.rest⟩ : service.Shared Rest)) (Function.update_idem ..)

/-- What was put is there. -/
theorem data_put (s : service.Shared Rest) (lock : Lock) (datum : Datum lock) :
    (put s lock datum).data lock = datum := Function.update_self ..

/-- A section changes its own container and nothing else. -/
theorem atOnce_run (s : service.Shared Rest) (lock : Lock) (part : Section lock) :
    runWhole (atOnce lock part) s =
      ((change lock part (s.data lock)).1, put s lock (change lock part (s.data lock)).2) := rfl

/-- A section that only reads. -/
theorem atOnce_reads (s : service.Shared Rest) (lock : Lock) (part : Section lock)
    (reads : (change lock part (s.data lock)).2 = s.data lock) :
    runWhole (atOnce lock part) s = ((change lock part (s.data lock)).1, s) := by
  rw [atOnce_run, reads, put_same]

/-- Sections one after another run one after another. -/
theorem runWhole_bind {α β : Type} (first : Whole α) (following : α → Whole β)
    (s : service.Shared Rest) : runWhole (first >>= following) s =
      runWhole (following (runWhole first s).1) (runWhole first s).2 :=
  Program.run_bind _ first following s

/-- The change concerns the members under `sub_mutex_` only. -/
def Queued (change : Subscriber → Subscriber) : Prop := ∀ subscriber : Subscriber,
  change subscriber = { subscriber with
    subTasks := ((⟨subscriber.subTasks, subscriber.subGroupSet⟩ : Queue).after change).subTasks
    subGroupSet :=
      ((⟨subscriber.subTasks, subscriber.subGroupSet⟩ : Queue).after change).subGroupSet }

/-- A subscription only adds to the queue. -/
theorem queued_subscribe (groupId : Int) :
    Queued (Subscriber.subscribeGroupChannel groupId) := by
  intro subscriber
  by_cases listed : groupId ∈ subscriber.subGroupSet <;>
    simp [Queue.after, Subscriber.subscribeGroupChannel, listed]

/-- So does its end. -/
theorem queued_unsubscribe (groupId : Int) :
    Queued (Subscriber.unsubscribeGroupChannel groupId) := by
  intro subscriber
  by_cases listed : groupId ∈ subscriber.subGroupSet <;>
    simp [Queue.after, Subscriber.unsubscribeGroupChannel, listed]

/-- What is queued first is queued before. -/
theorem after_after (queue : Queue) (first second : Subscriber → Subscriber)
    (queued : Queued first) :
    (queue.after first).after second = queue.after fun subscriber => second (first subscriber) := by
  have moved := queued { subTasks := queue.subTasks, subGroupSet := queue.subGroupSet }
  simp only [Queue.after] at moved ⊢
  rw [moved]

/-- Two changes of the queue one after another are a change of the queue. -/
theorem queued_comp (first second : Subscriber → Subscriber) (queuedFirst : Queued first)
    (queuedSecond : Queued second) : Queued fun subscriber => second (first subscriber) := by
  intro subscriber
  rw [← after_after _ first second queuedFirst]
  refine (queuedSecond (first subscriber)).trans ?_
  rw [queuedFirst subscriber]

/-- So are the ends of any number of subscriptions. -/
theorem queued_unsubscribeAll (groupids : List Int) : Queued fun subscriber =>
    groupids.foldl (fun subscriber groupid => subscriber.unsubscribeGroupChannel groupid)
      subscriber := by
  induction groupids with
  | nil => exact fun subscriber => rfl
  | cons groupid rest inductionHypothesis =>
    exact queued_comp _ _ (queued_unsubscribe groupid) inductionHypothesis

/-- Ending them section by section queues what ending them at once queues. -/
theorem unsubscribeAll_run (groupids : List Int) (s : service.Shared Rest) :
    (runWhole (unsubscribeAll groupids) s).2 = put s .sub ((s.data .sub).after fun subscriber =>
      groupids.foldl (fun subscriber groupid => subscriber.unsubscribeGroupChannel groupid)
        subscriber) := by
  induction groupids generalizing s with
  | nil => exact (put_same s .sub).symm
  | cons groupid rest inductionHypothesis =>
    rw [unsubscribeAll, runWhole, Program.run_bind]
    refine (inductionHypothesis (put s .sub ((s.data .sub).after
      (Subscriber.unsubscribeGroupChannel groupid)))).trans ?_
    rw [put_put, data_put, after_after _ _ _ (queued_unsubscribe groupid)]
    rfl

/-- A change of the queue is one of the subscriber of the world. -/
theorem assemble_after (s : service.Shared Rest) (change : Subscriber → Subscriber)
    (queued : Queued change) : assemble (put s .sub ((s.data .sub).after change)) =
      { assemble s with node := { (assemble s).node with
        subscriber := change (assemble s).node.subscriber } } := by
  rw [queued (assemble s).node.subscriber]
  rfl

/-- Members that are added one by one end up in the one map. -/
theorem addMembers_eq (groupid : Int) (groupUsers : List Int) (node : Node) :
    groupUsers.foldl (fun node id => node.addMember groupid id) node = { node with
      groupMembers :=
        groupUsers.foldl (fun map id => withMember groupid id map) node.groupMembers } := by
  induction groupUsers generalizing node with
  | nil => rfl
  | cons id rest inductionHypothesis => exact inductionHypothesis (node.addMember groupid id)

/-- A scope does to the containers what it does to the world they make up. -/
theorem perform_whole (scope : Scope) (s : service.Shared Rest) :
    scope.perform (assemble s) =
      ((runWhole scope.whole s).1, assemble (runWhole scope.whole s).2) := by
  cases scope with
  | record id conn =>
    change ((), ({ assemble s with node := (assemble s).node.record id conn } : World)) =
      ((), assemble (put s .userConn (if id ∈ s.data .userConn then s.data .userConn
        else (s.data .userConn).insert id conn)))
    by_cases present : id ∈ s.data .userConn
    · have kept : (assemble s).node.record id conn = (assemble s).node := if_pos present
      rw [if_pos present, put_same, kept]
    · have added : (assemble s).node.record id conn = { (assemble s).node with
          userConnMap := (s.data .userConn).insert id conn } := if_neg present
      rw [if_neg present, added]
      rfl
  | forget id => rfl
  | takeEntry hint conn =>
    have entry : (assemble s).node.entryOf conn hint = entryIn conn hint (s.data .userConn) :=
      (entryIn_eq conn hint (assemble s).node).symm
    rw [Scope.whole, atOnce_run, Scope.perform, entry, change]
    cases entryIn conn hint (s.data .userConn) with
    | none => exact congrArg (fun each => ((none : Option Int), assemble each)) (put_same s _).symm
    | some id => rfl
  | relay conn toId js =>
    have known : (assemble s).node.connOf toId = (s.data .userConn).lookup toId := rfl
    rw [Scope.perform, known, Scope.whole, runWhole_bind, atOnce_reads s _ _ rfl, change]
    cases (s.data .userConn).lookup toId with
    | none => rfl
    | some toConn =>
      have both := List.append_cons (assemble s).sent ⟨conn, ChatService.sentMessage, false⟩
        [⟨toConn, js, false⟩]
      exact congrArg (fun sent => (true, ({ assemble s with sent := sent } : World))) both
  | enter id group =>
    rw [Scope.whole, atOnce_run, Scope.perform, ChatService.enterGroup, change]
    split
    · rfl
    · by_cases present : group.id ∈ s.data .group
      · have kept : (assemble s).node.touchGroup group.id = (assemble s).node := if_pos present
        rw [if_pos present, put_same, kept]
      · have added : (assemble s).node.touchGroup group.id = { (assemble s).node with
            groupMembers := (s.data .group).insert group.id ∅ } := if_neg present
        rw [if_neg present, added]
        rfl
  | leave id =>
    refine Prod.ext rfl ?_
    rw [Scope.whole, runWhole_bind, unsubscribeAll_run, atOnce_run,
      assemble_after _ _ (queued_unsubscribeAll _), Scope.perform, Node.leaveGroups]
    change _ = ({ assemble s with node := { (assemble s).node with
      groupMembers := (s.data .group).mapValues fun _ set => set.erase id
      subscriber := (emptied id (s.data .group)).foldl
        (fun subscriber groupid => subscriber.unsubscribeGroupChannel groupid)
          (assemble s).node.subscriber } } : World)
    rw [emptied, List.foldl_map, List.foldl_filter]
    rfl
  | addMember groupid id => rfl
  | cached groupid => rfl
  | addMembers groupid groupUsers =>
    refine Prod.ext rfl ?_
    have subscribed : (runWhole (Scope.addMembers groupid groupUsers).whole s).2 =
        put (put s .group (change .group (.addMembers groupid groupUsers) (s.data .group)).2) .sub
          ((s.data .sub).after (Subscriber.subscribeGroupChannel groupid)) := rfl
    have entered := assemble_after
      (put s .group (change .group (.addMembers groupid groupUsers) (s.data .group)).2) _
        (queued_subscribe groupid)
    rw [subscribed, Scope.perform, addMembers_eq]
    exact entered.symm
  | subscribe groupid =>
    exact congrArg (Prod.mk ()) (assemble_after s _ (queued_subscribe groupid)).symm
  | make call => rfl

/-!
## The texts of the handlers
-/

/-- Executed alone, the text does what the handler of the sequential model does. -/
def Denotes {α : Type} (text : Scoped α) (sequential : Handler α) : Prop :=
  ∀ w, text.run.run Scope.perform w = sequential w

section Rules

variable {α β : Type}

/-- A part that does nothing denotes a handler that does nothing. -/
theorem denotes_pure (value : α) : Denotes (pure value) (pure value) := fun _ => rfl

/-- Parts one after another denote handlers one after another. -/
theorem denotes_bind {text : Scoped α} {sequential : Handler α} {next : α → Scoped β}
    {following : α → Handler β} (first : Denotes text sequential)
    (rest : ∀ value, Denotes (next value) (following value)) :
    Denotes (text >>= next) (sequential >>= following) := by
  intro w
  rw [Program.run_try_bind, Effect.bind_apply, first w]
  cases sequential w with
  | mk outcome left =>
    cases outcome with
    | ok value => exact rest value left
    | error exception => rfl

/-- A choice between two parts denotes the choice between their handlers. -/
theorem denotes_ite (condition : Prop) [Decidable condition] {text other : Scoped α}
    {sequential alternative : Handler α} (first : Denotes text sequential)
    (second : Denotes other alternative) :
    Denotes (if condition then text else other)
      (if condition then sequential else alternative) := by
  split
  · exact first
  · exact second

/-- A conversion throws what it throws in the handler. -/
theorem denotes_convert (converted : Except JsonError α) :
    Denotes (convert converted) (ClusterChat.convert converted) := by
  cases converted <;> exact fun _ => rfl

/-- A step denotes a handler that always comes to its end with the same result. -/
theorem denotes_scope (step : Scope) (sequential : Handler step.Value)
    (same : ∀ w, sequential w = (.ok (step.perform w).1, (step.perform w).2)) :
    Denotes (scope step) sequential := fun w => (same w).symm

/-- What follows a step starts with its result. -/
theorem scope_bind (step : Scope) (next : step.Value → Scoped α) (w : World) :
    (scope step >>= next).run.run Scope.perform w =
      (next (step.perform w).1).run.run Scope.perform (step.perform w).2 := rfl

/-- A call to Redis denotes the operation of the client. -/
theorem denotes_redis (operation : RedisOperations.Operation)
    (program : RedisProgram operation.Result) (same : operation.program = program) :
    Denotes (redis operation) (ClusterChat.redis program) := by
  subst same
  exact fun _ => rfl

end Rules

/-- The read of presence, released inside its `try` block. -/
theorem denotes_isUserOnline (userId : Int) :
    Denotes (redis (.isUserOnline userId)) (ClusterChat.redis (RedisClient.isUserOnline userId)) :=
  denotes_redis _ _ (RedisClient.withConnInside_eq false false _ _)

/-- The lookup of a user's node is one of them. -/
theorem denotes_getUserNode (userId : Int) :
    Denotes (redis (.getUserNode userId)) (ClusterChat.redis (RedisClient.getUserNode userId)) :=
  denotes_redis _ _ (RedisClient.withConnInside_eq "" "" _ _)

/-- So is the lookup of a cached list. -/
theorem denotes_get (key : Key) :
    Denotes (redis (.get key)) (ClusterChat.redis (RedisClient.get key)) := by
  refine denotes_redis _ _ ((RedisClient.withConnInside_eq none none _ _).trans ?_)
  rw [bind_pure]
  rfl

/-- The texts of friends are those of the sequential model. -/
theorem denotes_friendTexts (users : List User) :
    Denotes (friendTexts users) (ChatService.friendTexts users) := by
  induction users with
  | nil => exact denotes_pure []
  | cons user rest inductionHypothesis =>
    exact denotes_bind (denotes_isUserOnline user.id) fun online =>
      denotes_bind inductionHypothesis fun texts => denotes_pure _

/-- So are the texts of the members of a group. -/
theorem denotes_memberTexts (users : List GroupUser) :
    Denotes (memberTexts users) (ChatService.memberTexts users) := by
  induction users with
  | nil => exact denotes_pure []
  | cons user rest inductionHypothesis =>
    exact denotes_bind (denotes_isUserOnline user.id) fun online =>
      denotes_bind inductionHypothesis fun texts => denotes_pure _

/-- So is the list of friends in the answer to a login. -/
theorem denotes_addFriendList (id : Int) (answer : Json) :
    Denotes (addFriendList id answer) (ChatService.addFriendList id answer) := by
  refine denotes_bind (denotes_get _) fun cachedFriends => ?_
  cases cachedFriends with
  | some text => exact denotes_pure answer
  | none =>
    refine denotes_bind (fun _ => rfl) fun vFriendList => ?_
    refine denotes_ite _ (denotes_pure answer) ?_
    refine denotes_bind (denotes_friendTexts vFriendList) fun tempFriendList => ?_
    exact denotes_bind (denotes_redis _ _ rfl) fun _ => denotes_pure _

/-- So are the texts of groups, with the entries and subscriptions they leave. -/
theorem denotes_groupTexts (id : Int) (groups : List Group) :
    Denotes (groupTexts id groups) (ChatService.groupTexts id groups) := by
  induction groups with
  | nil => exact denotes_pure []
  | cons group rest inductionHypothesis =>
    exact denotes_bind (denotes_memberTexts group.users) fun vGroupUser =>
      denotes_bind (denotes_scope (.enter id group) _ fun _ => rfl) fun _ =>
        denotes_bind (denotes_scope (.subscribe group.id) _ fun _ => rfl) fun _ =>
          denotes_bind inductionHypothesis fun texts => denotes_pure _

/-- So is the list of groups in the answer to a login. -/
theorem denotes_addGroupList (id : Int) (answer : Json) :
    Denotes (addGroupList id answer) (ChatService.addGroupList id answer) := by
  refine denotes_bind (fun _ => rfl) fun vGroupList => ?_
  refine denotes_ite _ (denotes_pure answer) ?_
  exact denotes_bind (denotes_groupTexts id vGroupList) fun groupV => denotes_pure _

/-- What is sent is sent. -/
theorem denotes_send (conn : Conn) (body : Json) :
    Denotes (send conn body) (ClusterChat.send conn body) := fun _ => rfl

/-- The presence record is written alike. -/
theorem denotes_announce (conn : Conn) (id : Int) :
    Denotes (announce conn id) (ChatService.announce conn id) := by
  refine denotes_bind (denotes_getUserNode id) fun _ w => ?_
  exact denotes_redis (.setUserOnline w.node.localNodeId id conn.name) _ rfl w

/-- A login is the login of the sequential model. -/
theorem denotes_login (conn : Conn) (js : Json) :
    Denotes (login conn js) (ChatService.login conn js) := by
  refine denotes_bind (denotes_convert _) fun id => denotes_bind (denotes_convert _) fun pwd => ?_
  refine denotes_bind (fun _ => rfl) fun userQuery => ?_
  refine denotes_ite _ ?_ (denotes_send conn _)
  refine denotes_bind (denotes_isUserOnline id) fun online => ?_
  refine denotes_ite _ (denotes_send conn _) ?_
  refine denotes_bind (denotes_scope (.record id conn) _ fun _ => rfl) fun _ => ?_
  refine denotes_bind (denotes_announce conn id) fun _ => ?_
  refine denotes_bind (denotes_redis _ _ rfl) fun offlineMsgs => ?_
  refine denotes_bind (denotes_addFriendList id _) fun answer => ?_
  exact denotes_bind (denotes_addGroupList id answer) fun answer => denotes_send conn answer

/-- So is a registration. -/
theorem denotes_reg (conn : Conn) (js : Json) :
    Denotes (reg conn js) (ChatService.reg conn js) := by
  refine denotes_bind (denotes_convert _) fun name => ?_
  refine denotes_bind (denotes_convert _) fun password => ?_
  refine denotes_bind (fun _ => rfl) fun isInsert => ?_
  refine denotes_ite _ ?_ (denotes_send conn _)
  exact denotes_bind (denotes_redis _ _ rfl) fun _ =>
    denotes_bind (denotes_redis _ _ rfl) fun _ => denotes_send conn _

/-- So is a logout. -/
theorem denotes_loginOut (conn : Conn) (js : Json) :
    Denotes (loginOut conn js) (ChatService.loginOut conn js) :=
  denotes_bind (denotes_convert _) fun id =>
    denotes_bind (denotes_scope (.forget id) _ fun _ => rfl) fun _ =>
      denotes_bind (denotes_redis _ _ rfl) fun _ => denotes_scope (.leave id) _ fun _ => rfl

/-- What follows a look at the node starts with it. -/
theorem currentNode_bind (next : Node → Handler α) (w : World) :
    (currentNode >>= next) w = next w.node w := rfl

/-- A closed connection is that of the sequential model. -/
theorem denotes_clientQuit (hint : Int) (conn : Conn) :
    Denotes (clientQuitEcption hint conn) (ChatService.clientQuitEcption hint conn) := by
  intro w
  have ends : ∀ id : Int, Denotes
      (if id ≠ -1 then redis (.setUserOffline id) >>= fun _ => scope (.leave id) else pure ())
      (if id ≠ -1 then ClusterChat.redis (RedisClient.setUserOffline id) >>= fun _ =>
        onNode (Node.leaveGroups id) else pure ()) := fun id =>
    denotes_ite _ (denotes_bind (denotes_redis _ _ rfl) fun _ =>
      denotes_scope (.leave id) _ fun _ => rfl) (denotes_pure ())
  rw [ChatService.clientQuitEcption, currentNode_bind, clientQuitEcption, scope_bind,
    Scope.perform]
  cases w.node.entryOf conn hint with
  | none => rfl
  | some id => exact ends id _

/-- The insertion as one call. An insertion that never returns ends the handler. -/
theorem insertOffline_made (userId : Int) (message : String) (w : World) :
    ClusterChat.insertOffline userId message w =
      ((makeIn (.insertOffline userId message) w).1.elim (.error .hangs) .ok,
        (makeIn (.insertOffline userId message) w).2) := by
  cases stored : w.mysql.run (OfflineMessage.insert (w.mysql.disturbances + 1) userId message
      w.node.failedQueue) with
  | mk inserted mysql =>
    cases inserted with
    | none =>
      simp only [makeIn, Rest.perform, restOf, ClusterChat.insertOffline, stored]
      rfl
    | some queued =>
      simp only [makeIn, Rest.perform, restOf, ClusterChat.insertOffline, stored]
      rfl

/-- An insertion that never returns ends its handler the same way. -/
theorem denotes_insertOffline (userId : Int) (message : String) :
    Denotes (insertOffline userId message) (ClusterChat.insertOffline userId message) := by
  intro w
  have made : Scope.perform (.make (.insertOffline userId message)) w =
      makeIn (.insertOffline userId message) w := rfl
  rw [insertOffline, call, scope_bind, made, insertOffline_made]
  generalize makeIn (.insertOffline userId message) w = result
  obtain ⟨inserted, left⟩ := result
  cases inserted with
  | none => rfl
  | some success => rfl

/-- The check of the friend list is that of the sequential model. -/
theorem denotes_friendCheck (id toId : Int) :
    Denotes (friendCheck id toId) (ChatService.friendCheck id toId) :=
  denotes_bind (fun _ => rfl) fun _ => denotes_pure _

/-- So is the last part of a private message. -/
theorem denotes_deliver (conn : Conn) (js : Json) (toId : Int) :
    Denotes (deliver conn js toId) (ChatService.deliver conn js toId) := by
  intro w
  rw [ChatService.deliver, currentNode_bind, deliver, scope_bind, Scope.perform]
  cases w.node.connOf toId with
  | none =>
    exact denotes_bind (denotes_insertOffline toId js.dump) (fun _ => denotes_send conn _) w
  | some toConn =>
    have both := List.append_cons w.sent ⟨conn, ChatService.sentMessage, false⟩ [⟨toConn, js, false⟩]
    exact congrArg (fun sent => ((.ok () : Except Escape Unit), ({ w with sent } : World))) both

/-- So is a private message. -/
theorem denotes_oneChat (conn : Conn) (js : Json) :
    Denotes (oneChat conn js) (ChatService.oneChat conn js) := by
  refine denotes_bind (denotes_convert _) fun empty => denotes_ite _ (denotes_pure ()) ?_
  refine denotes_ite _ (denotes_send conn _) ?_
  refine denotes_bind (denotes_convert _) fun id => denotes_bind (denotes_convert _) fun toId => ?_
  refine denotes_bind (denotes_friendCheck id toId) fun isFriend => ?_
  exact denotes_ite _ (denotes_deliver conn js toId) (denotes_send conn _)

/-- So is the entry of a user into a group. -/
theorem denotes_enterMembership (groupid userid : Int) :
    Denotes (enterMembership groupid userid) (ChatService.enterMembership groupid userid) :=
  denotes_bind (denotes_scope (.addMember groupid userid) _ fun _ => rfl) fun _ =>
    denotes_bind (denotes_redis _ _ rfl) fun _ => denotes_bind (denotes_redis _ _ rfl) fun _ =>
      denotes_scope (.subscribe groupid) _ fun _ => rfl

/-- So is the creation of a group. -/
theorem denotes_createGroup (conn : Conn) (js : Json) :
    Denotes (createGroup conn js) (ChatService.createGroup conn js) := by
  refine denotes_bind (denotes_convert _) fun userid => ?_
  refine denotes_bind (denotes_convert _) fun groupname => ?_
  refine denotes_bind (denotes_convert _) fun groupdesc => ?_
  refine denotes_bind (fun _ => rfl) fun group => denotes_bind (fun _ => rfl) fun _ => ?_
  exact denotes_enterMembership group.id userid

/-- So is joining one. -/
theorem denotes_joinGroup (conn : Conn) (js : Json) :
    Denotes (joinGroup conn js) (ChatService.joinGroup conn js) := by
  refine denotes_bind (denotes_convert _) fun userid => ?_
  refine denotes_bind (denotes_convert _) fun groupid => denotes_bind (fun _ => rfl) fun _ => ?_
  exact denotes_enterMembership groupid userid

/-- So is loading the members of a group that has no entry. -/
theorem denotes_loadMembers (userid groupid : Int) :
    Denotes (loadMembers userid groupid) (ChatService.loadMembers userid groupid) :=
  denotes_bind (fun _ => rfl) fun _ _ => rfl

/-- So is a message to a group. -/
theorem denotes_groupChat (conn : Conn) (js : Json) :
    Denotes (groupChat conn js) (ChatService.groupChat conn js) := by
  refine denotes_bind (denotes_convert _) fun empty => denotes_ite _ (denotes_pure ()) ?_
  refine denotes_bind (denotes_convert _) fun userid => ?_
  refine denotes_bind (denotes_convert _) fun groupid w => ?_
  have publishes : Denotes (redis (.publishGroupMessage groupid js))
      (ClusterChat.redis (RedisClient.publishGroupMessage groupid js)) := denotes_redis _ _ rfl
  have sequential : ∀ known : Bool, known = decide (groupid ∈ w.node.groupMembers) →
      (if known = false then
          ChatService.loadMembers userid groupid >>= fun _ =>
            ClusterChat.redis (RedisClient.publishGroupMessage groupid js)
        else ClusterChat.redis (RedisClient.publishGroupMessage groupid js)) w =
      ((if groupid ∉ w.node.groupMembers then
          ChatService.loadMembers userid groupid >>= fun _ =>
            ClusterChat.redis (RedisClient.publishGroupMessage groupid js)
        else ClusterChat.redis (RedisClient.publishGroupMessage groupid js)) : Handler Unit) w := by
    rintro known rfl
    simp only [decide_eq_false_iff_not]
  rw [scope_bind, Scope.perform]
  exact (denotes_ite _ (denotes_bind (denotes_loadMembers userid groupid) fun _ => publishes)
    publishes w).trans (sequential _ rfl)

/-- The handlers of the sequential model, one scope after another. -/
theorem denotes_handler (request : Request) (conn : Conn) (js : Json) :
    Denotes (handler request conn js) (request.handler conn js) := by
  cases request with
  | login => exact denotes_login conn js
  | loginOut => exact denotes_loginOut conn js
  | reg => exact denotes_reg conn js
  | oneChat => exact denotes_oneChat conn js
  | addFriend =>
    exact denotes_bind (denotes_convert _) fun userid =>
      denotes_bind (denotes_convert _) fun friendid _ => rfl
  | createGroup => exact denotes_createGroup conn js
  | joinGroup => exact denotes_joinGroup conn js
  | groupChat => exact denotes_groupChat conn js

/-!
## The subscriber thread
-/

/-- Executed alone, the sections do to the containers what the handler of the sequential
model does to the world they make up. -/
def Means (whole : Whole (Except Escape Unit)) (sequential : Handler Unit) : Prop :=
  ∀ s, sequential (assemble s) = ((runWhole whole s).1, assemble (runWhole whole s).2)

/-- The sections of the steps of a handler do what the handler does. -/
theorem means_expand (text : Scoped Unit) (sequential : Handler Unit)
    (denotes : Denotes text sequential) :
    Means (text.run.expand Scope.whole) sequential := fun s =>
  (denotes (assemble s)).symm.trans
    (Program.run_expand Scope.perform Scope.whole _ assemble perform_whole text.run s)

/-- A message is sent to the members of a group one by one. -/
theorem means_fanOut (js : Json) (members : List Int) :
    Means (fanOutWhole js members >>= fun _ => pure (.ok ())) (ChatService.fanOut js members) := by
  induction members with
  | nil => exact fun _ => rfl
  | cons uid rest inductionHypothesis =>
    intro s
    have sequential : ChatService.fanOut js (uid :: rest) (assemble s) =
        (match (s.data .userConn).lookup uid with
          | some conn => sendLine conn js true >>= fun _ => ChatService.fanOut js rest
          | none => pure () >>= fun _ => ChatService.fanOut js rest) (assemble s) := rfl
    rw [sequential, fanOutWhole, bind_assoc, runWhole_bind, atOnce_reads s _ _ rfl, change]
    cases (s.data .userConn).lookup uid with
    | none => exact inductionHypothesis s
    | some conn =>
      exact inductionHypothesis
        ⟨s.data, { s.rest with sent := s.rest.sent ++ [⟨conn, js, true⟩] }⟩

/-- A call touches no container. -/
theorem makeAtOnce_run (call : Call) (s : service.Shared Rest) :
    runWhole (makeAtOnce call) s = ((s.rest.perform call).1, ⟨s.data, (s.rest.perform call).2⟩) :=
  rfl

/-- A message for a user who is not connected here is stored and queued in Redis. -/
theorem means_store (toId : Int) (js : Json) : Means (storeWhole toId js)
    (ClusterChat.insertOffline toId js.dump >>= fun _ =>
      ClusterChat.redis (RedisClient.pushOfflineMessage toId js)) := by
  intro s
  have made : makeIn (.insertOffline toId js.dump) (assemble s) =
      ((s.rest.perform (.insertOffline toId js.dump)).1,
        assemble ⟨s.data, (s.rest.perform (.insertOffline toId js.dump)).2⟩) := rfl
  rw [Effect.bind_apply, storeWhole, runWhole_bind, makeAtOnce_run, insertOffline_made, made]
  generalize s.rest.perform (.insertOffline toId js.dump) = result
  obtain ⟨inserted, rest⟩ := result
  cases inserted with
  | none => rfl
  | some success => rfl

/-- The sections of the callback do what the callback does. -/
theorem means_inboxCallback (js : Json) :
    Means (inboxCallbackWhole js) (ChatService.inboxCallback js) := by
  intro s
  rw [ChatService.inboxCallback, inboxCallbackWhole]
  split
  · cases js.int "to" with
    | error exception => rfl
    | ok toId =>
      have found : (assemble s).node.connOf toId = (s.data .userConn).lookup toId := rfl
      rw [convert_ok_bind, currentNode_bind, found]
      dsimp only
      rw [runWhole_bind, atOnce_reads s _ _ rfl, change]
      cases (s.data .userConn).lookup toId with
      | some conn => rfl
      | none =>
        exact means_store toId js s
  · split
    · cases js.int "groupid" with
      | error exception => rfl
      | ok groupid =>
        have found : (assemble s).node.groupMembers.lookup groupid =
            (s.data .group).lookup groupid := rfl
        rw [convert_ok_bind, currentNode_bind, found]
        dsimp only
        rw [runWhole_bind, atOnce_reads s _ _ rfl, change]
        cases (s.data .group).lookup groupid with
        | none => rfl
        | some members => exact means_fanOut js members.elements s
    · rfl

/-- So many tasks of a batch, each executed and recorded. -/
def works : Nat → List Bool → Subscriber → Subscriber
  | 0, _, subscriber => subscriber
  | count + 1, fails, subscriber =>
      works count fails.tail (subscriber.command (fails.headD false)).settle

/-- Without a task there is nothing to do. -/
theorem works_idle (count : Nat) (fails : List Bool) (subscriber : Subscriber)
    (none_ : subscriber.tasks = []) (settled : subscriber.executed = none) :
    works count fails subscriber = subscriber := by
  induction count generalizing fails with
  | zero => rfl
  | succ count inductionHypothesis =>
    have still : (subscriber.command (fails.headD false)).settle = subscriber := by
      simp only [Subscriber.command, none_, settled, Subscriber.settle]
    rw [works, still]
    exact inductionHypothesis fails.tail

/-- The world with another subscriber. -/
def listening (w : World) (subscriber : Subscriber) : World :=
  { w with node := { w.node with subscriber } }

/-- A task that is not a `Stop`: its command and, if that does not throw, its record. -/
theorem process_step (task : SubTask) (rest : List SubTask) (fails : List Bool)
    (s : service.Shared Rest) (notStop : task ≠ .stop) (kept : s.rest.tasks = [])
    (settled : s.rest.executed = none) : ∃ next : service.Shared Rest,
      next.rest.tasks = [] ∧ next.rest.executed = none ∧
      (runWhole (processWhole fails (task :: rest)) s).2 =
        (runWhole (processWhole fails.tail rest) next).2 ∧
      listening (assemble next) { (assemble next).node.subscriber with tasks := rest } =
        listening (assemble s) ((Subscriber.command (fails.headD false)
          { (assemble s).node.subscriber with tasks := task :: rest }).settle) := by
  rw [processWhole_cons fails task rest notStop, runWhole_bind, makeAtOnce_run]
  obtain ⟨data, localNodeId, failedQueue, tasks, executed, channels, stopped, mysql, redis, sent⟩ :=
    s
  subst kept settled
  cases fails.headD false with
  | true =>
    refine ⟨⟨data, _⟩, rfl, rfl, rfl, ?_⟩
    cases task with
    | stop => exact absurd rfl notStop
    | subscribe groupId => rfl
    | unsubscribe groupId => rfl
  | false =>
    cases task with
    | stop => exact absurd rfl notStop
    | subscribe groupId =>
      exact ⟨put ⟨data, _⟩ .sub ((data .sub).after fun s =>
        { s with executed := some (.subscribe groupId) }.settle), rfl, rfl, rfl, rfl⟩
    | unsubscribe groupId =>
      exact ⟨put ⟨data, _⟩ .sub ((data .sub).after fun s =>
        { s with executed := some (.unsubscribe groupId) }.settle), rfl, rfl, rfl, rfl⟩

/-- Between two tasks the thread has nothing executed that is not recorded. -/
theorem process_alone (tasks : List SubTask) (fails : List Bool) (s : service.Shared Rest)
    (kept : s.rest.tasks = []) (settled : s.rest.executed = none) :
    assemble (runWhole (processWhole fails tasks) s).2 = listening (assemble s)
      (works tasks.length fails { (assemble s).node.subscriber with tasks := tasks }) := by
  induction tasks generalizing fails s with
  | nil =>
    obtain ⟨data, rest⟩ := s
    obtain ⟨localNodeId, failedQueue, tasks, executed, channels, stopped, mysql, redis, sent⟩ :=
      rest
    subst kept
    rfl
  | cons task rest inductionHypothesis =>
    by_cases stops : task = .stop
    · subst stops
      obtain ⟨data, others⟩ := s
      obtain ⟨localNodeId, failedQueue, tasks, executed, channels, stopped, mysql, redis, sent⟩ :=
        others
      subst kept settled
      have idle := works_idle rest.length fails.tail
        ⟨(data .sub).subTasks, (data .sub).subGroupSet, [], none, channels, true⟩ rfl rfl
      exact congrArg (listening (assemble ⟨data, ⟨localNodeId, failedQueue, [], none, channels,
        stopped, mysql, redis, sent⟩⟩)) idle.symm
    · obtain ⟨next, keptNext, settledNext, ran, same⟩ :=
        process_step task rest fails s stops kept settled
      rw [ran, inductionHypothesis fails.tail next keptNext settledNext]
      exact congrArg (fun w => listening w (works rest.length fails.tail w.node.subscriber)) same

/-- A round of the loop, executed alone, swaps the queue out and executes and records its
tasks, unless the thread has been stopped. -/
theorem batch_alone (fails : List Bool) (s : service.Shared Rest) (kept : s.rest.tasks = [])
    (settled : s.rest.executed = none) :
    assemble (runWhole (batchWhole fails) s).2 = listening (assemble s)
      (if s.rest.stopped then (assemble s).node.subscriber
        else works (s.data .sub).subTasks.length fails (assemble s).node.subscriber.swap) := by
  rw [batchWhole, runWhole_bind, makeAtOnce_run]
  cases stopped : s.rest.stopped with
  | true =>
    simp only [Rest.perform, stopped]
    rfl
  | false =>
    have swapped : (assemble s).node.subscriber.swap = { (assemble s).node.subscriber with
        tasks := (s.data .sub).subTasks, subTasks := [] } := by
      rw [Subscriber.swap, if_neg (by simp [assemble, stopped, kept, settled])]
      rfl
    have processed := process_alone (s.data .sub).subTasks fails
      (put s .sub { s.data .sub with subTasks := [] }) kept settled
    simp only [Rest.perform, stopped]
    rw [swapped]
    exact processed

/-!
## Whole runs
-/

/-- What a call does to everything the four mutexes do not guard. -/
abbrev performed : (call : Call) → Rest → call.Reply × Rest := fun call rest => rest.perform call

/-- The containers and the rest of a world, and whether the callback has been set. -/
def begin (w : World) (isSet : Bool) : service.Shared Rest :=
  put ⟨dataOf w, restOf w⟩ .callback isSet

/-- However the activities of a node are interleaved, action by action, there is a run of
whole sections with the same calls, the same replies and the same outcomes, in which every
container is the same once nobody has its lock exclusively. No two threads are ever about
to use one container while one of them would change it. -/
theorem sections_run (w : World) (isSet : Bool) (events : List (Interleaving.Event Activity)) :
    ∃ sections : List (Interleaving.Event Activity),
      let s := Runs.run (step performed Activity.locked)
        ⟨(begin w isSet).data, (begin w isSet).rest, []⟩ events
      let t := Runs.run (wholeStep performed Activity.whole) ⟨begin w isSet, []⟩ sections
      s.rest = t.shared.rest ∧
      (∀ (i : Nat) activity outcome holds, s.threads[i]? = some ⟨activity, .done outcome, holds⟩ →
        t.threads[i]? = some ⟨activity, .done outcome⟩) ∧
      (∀ lock, (∀ thread ∈ s.threads, thread.holds lock ≠ some .exclusive) →
        s.data lock = t.shared.data lock) ∧
      ∀ (i j : Nat) (lock : Lock) (first second : Operation lock) (activity other : Activity) next
        following holds others, i ≠ j →
        s.threads[i]? = some ⟨activity, .call (.operate lock first) next, holds⟩ →
        s.threads[j]? = some ⟨other, .call (.operate lock second) following, others⟩ →
          (operate lock first (s.data lock)).2 = s.data lock := by
  obtain ⟨sections, linked⟩ := linked_run performed Activity.locked activity_matches _ _
    (linked_start (begin w isSet).data (begin w isSet).rest) events
  refine ⟨sections, linked.rest, ?_, linked.free, ?_⟩
  · exact fun i activity outcome holds found =>
      linked_done linked i activity outcome holds found
  · exact fun i j lock first second activity other next following holds others differs found
      foundOther => no_race linked i j differs lock first second activity other next following
        holds others found foundOther

/-- The sections of an activity, executed with nothing in between, are the handler of the
sequential model: of every request, of a closed connection, of a published message once the
callback is set, and of a round of the subscriber thread. -/
theorem handlers_alone (s : service.Shared Rest) :
    (∀ request conn js, (runWhole (Activity.request request conn js).whole s).map id assemble =
      request.handler conn js (assemble s)) ∧
    (∀ hint conn, (runWhole (Activity.quit hint conn).whole s).map id assemble =
      ChatService.clientQuitEcption hint conn (assemble s)) ∧
    (s.data .callback = true → ∀ js, (runWhole (Activity.dispatch js).whole s).map id assemble =
      ChatService.inboxCallback js (assemble s)) ∧
    (s.rest.tasks = [] → s.rest.executed = none → ∀ fails,
      assemble (runWhole (Activity.batch fails).whole s).2 = listening (assemble s)
        (if s.rest.stopped then (assemble s).node.subscriber
          else works (s.data .sub).subTasks.length fails (assemble s).node.subscriber.swap)) := by
  refine ⟨fun request conn js => ?_, fun hint conn => ?_, fun isSet js => ?_,
    fun kept settled fails => ?_⟩
  · exact (means_expand _ _ (denotes_handler request conn js) s).symm
  · exact (means_expand _ _ (denotes_clientQuit hint conn) s).symm
  · have called : runWhole (Activity.dispatch js).whole s = runWhole (inboxCallbackWhole js) s := by
      rw [Activity.whole, dispatchWhole, runWhole_bind, atOnce_reads s _ _ rfl, change, isSet]
      rfl
    rw [called]
    exact (means_inboxCallback js s).symm
  · rw [← batch_alone fails s kept settled, Activity.whole, ← bind_pure_comp, runWhole_bind]
    rfl

/-- A node with a connected user, whose callback is set and whose subscriber has yet to
subscribe to a group. -/
def listener : service.Shared Rest :=
  begin
    { World.start "node-1" Database.empty Redis.empty with
      node := ((Node.fresh "node-1").record 2 ⟨"d"⟩).subscribeGroupChannel 7 }
    true

/-- The sections there deliver a published message, and subscribe. -/
example : listener.data .callback = true ∧ listener.rest.tasks = [] ∧
    listener.rest.executed = none ∧
    (assemble (runWhole (Activity.dispatch (.object [("to", .integer 2)])).whole
      listener).2).sent.map Output.conn = [⟨"d"⟩] ∧
    7 ∈ (assemble (runWhole (Activity.batch []).whole listener).2).node.subscriber.channels := by
  decide

end ClusterChat.LockedService
