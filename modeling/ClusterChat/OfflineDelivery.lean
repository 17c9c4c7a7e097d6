import ClusterChat.Library.Runs
import ClusterChat.Requests
import Mathlib.Logic.Function.Basic

/-!
# Where a message to an absent user ends up

`oneChat` stores a message for an absent friend in the MySQL table
`OfflineMessage` and acknowledges it. A login takes its offline messages from the
Redis list `offline:<id>`. The callback for messages of other nodes stores in both
places; here the two never meet.

A run of one node is observed through a ledger. It records which messages were
acknowledged for which absent user, and which messages each user's logins have
delivered. At a login everything acknowledged for the user so far falls due,
after what was already waiting in Redis when the run began. A run settles its
ledger when every user has always been delivered exactly what was due, counted
with multiplicity.

`settled_iff_timely` says that it does so exactly when nobody logs in after a
message was acknowledged for them. The database and Redis are undisturbed.
-/

namespace ClusterChat.OfflineDelivery

open ChatService

/-- What can happen to one node: three kinds of request, each received on some
connection, and the closing of a connection. -/
inductive Event where
  | login (conn : Conn) (js : Json)
  | loginOut (conn : Conn) (js : Json)
  | disconnect (hint : Int) (conn : Conn)
  | oneChat (conn : Conn) (js : Json)

/-- The handler of the event. -/
def Event.handler : Event → Handler Unit
  | .login conn js => ChatService.login conn js
  | .loginOut conn js => ChatService.loginOut conn js
  | .disconnect hint conn => clientQuitEcption hint conn
  | .oneChat conn js => ChatService.oneChat conn js

/-- For each user: what was waiting in Redis at the beginning, the messages
acknowledged while the user was absent, the messages due at the last login, and
those the logins have delivered. -/
structure Ledger where
  waited : Int → List String
  acknowledged : Int → List String
  due : Int → List String
  delivered : Int → List String

/-- A node and what has been observed of it. -/
structure State where
  world : World
  ledger : Ledger

/-- The first reply with errno 0 among the sends of one event. -/
def success (before after : World) : Option Output :=
  (after.sent.drop before.sent.length).find? (fun output => output.errno = some 0)

/-- A message for an absent user that was answered with errno 0. -/
def Ledger.acknowledge (ledger : Ledger) (before after : World) (js : Json) : Ledger :=
  match js.int "to" with
  | .error _ => ledger
  | .ok toId =>
      if before.node.connOf toId = none ∧ (success before after).isSome then
        { ledger with
          acknowledged := Function.update ledger.acknowledged toId
            (ledger.acknowledged toId ++ [js.dump]) }
      else ledger

/-- A login answered with errno 0. -/
def Ledger.settle (ledger : Ledger) (before after : World) (js : Json) : Ledger :=
  match js.int "id", success before after with
  | .ok id, some reply =>
      { ledger with
        due := Function.update ledger.due id (ledger.waited id ++ ledger.acknowledged id)
        delivered := Function.update ledger.delivered id
          (ledger.delivered id ++ reply.offlineMessages) }
  | _, _ => ledger

/-- The ledger after the event, from the worlds around it. -/
def Ledger.observe (ledger : Ledger) (before after : World) : Event → Ledger
  | .login _ js => ledger.settle before after js
  | .oneChat _ js => ledger.acknowledge before after js
  | .loginOut _ _ | .disconnect _ _ => ledger

/-- The state after the event. -/
def step (s : State) (event : Event) : State :=
  let after := (event.handler s.world).2
  ⟨after, s.ledger.observe s.world after event⟩

/-- The ledger of a run that begins in this world. -/
def begin (w : World) : State := ⟨w, ⟨w.redis.store.waiting, fun _ => [], fun _ => [], fun _ => []⟩⟩

/-- Every user has been delivered exactly what was due at the last login. -/
def Settled (s : State) : Prop := ∀ id, (s.ledger.delivered id).Perm (s.ledger.due id)

/-- The event is not a login that is let in of a user for whom a message was
acknowledged before. -/
def Timely (s : State) : Event → Prop
  | .login _ js => ∀ id pwd, js.int "id" = .ok id → js.str "password" = .ok pwd →
      Matches s.world id pwd → ¬ SeenOnline s.world id → s.ledger.acknowledged id = []
  | _ => True

/-- Nothing disturbs the node, and what was waiting for a user in the beginning
has been delivered or is waiting still. -/
structure Accounted (s : State) : Prop where
  quiet : Quiet s.world
  balance : ∀ id, s.ledger.delivered id ++ s.world.redis.store.waiting id = s.ledger.waited id

/-- The lists waiting in Redis are out of reach of everything but a login. -/
theorem waiting_kept {id : Int} {before after : RedisAccess}
    (kept : RedisAccess.Kept (· = .user id) before after) :
    after.store.waiting = before.store.waiting := by
  funext other
  rw [Redis.waiting, kept.entries _ (by simp)]
  rfl

/-- What changes neither the lists in Redis nor the ledger keeps the balance. -/
theorem accounted_same (s : State) (after : World) (ledger : Ledger) (accounted : Accounted s)
    (quiet : Quiet after) (waiting : after.redis.store.waiting = s.world.redis.store.waiting)
    (delivered : ledger.delivered = s.ledger.delivered) (waited : ledger.waited = s.ledger.waited) :
    Accounted ⟨after, ledger⟩ := by
  refine ⟨quiet, ?_⟩
  intro id
  simp only [delivered, waiting, waited]
  exact accounted.balance id

/-- A reply to a refused login settles nothing. -/
theorem settle_refused (ledger : Ledger) (w after : World) (js : Json) (output : Output)
    (sent : after.sent = w.sent ++ [output]) (refused : output.errno ≠ some 0) :
    ledger.settle w after js = ledger := by
  have none : success w after = none := by
    simp [success, sent, refused]
  unfold Ledger.settle
  rw [none]
  split <;> simp_all

/-- A login that is let in makes what was acknowledged due and delivers what its answer
carries. -/
theorem settle_admitted (ledger : Ledger) (w after : World) (js : Json) (id : Int)
    (output : Output) (named : js.int "id" = .ok id) (sent : after.sent = w.sent ++ [output])
    (errno : output.errno = some 0) : ledger.settle w after js =
      { ledger with
        due := Function.update ledger.due id (ledger.waited id ++ ledger.acknowledged id)
        delivered := Function.update ledger.delivered id
          (ledger.delivered id ++ output.offlineMessages) } := by
  have found : success w after = some output := by
    simp [success, sent, errno]
  unfold Ledger.settle
  rw [named, found]

/-- A login that changes nothing settles nothing. -/
theorem settle_silent (ledger : Ledger) (w : World) (js : Json) :
    ledger.settle w w js = ledger := by
  have none : success w w = none := by simp [success]
  unfold Ledger.settle
  rw [none]
  split <;> simp_all

/-- What one login does to the account: nothing, or it delivers what is waiting
and lets everything acknowledged fall due. -/
theorem login_cases (s : State) (conn : Conn) (js : Json) (accounted : Accounted s) :
    Accounted (step s (.login conn js)) ∧
      (((step s (.login conn js)).ledger = s.ledger ∧ Timely s (.login conn js)) ∨
        ∃ id, (step s (.login conn js)).ledger = { s.ledger with
          due := Function.update s.ledger.due id (s.ledger.waited id ++ s.ledger.acknowledged id)
          delivered := Function.update s.ledger.delivered id (s.ledger.waited id) } ∧
          (Timely s (.login conn js) ↔ s.ledger.acknowledged id = [])) := by
  obtain ⟨result, ended, ends⟩ := login_ends conn js s.world
  have reached : step s (.login conn js) =
      ⟨result.2, s.ledger.settle s.world result.2 js⟩ := by
    rw [← ended]
    rfl
  rw [reached]
  cases ends with
  | malformed escape unread =>
    rw [settle_silent]
    refine ⟨accounted, Or.inl ⟨rfl, ?_⟩⟩
    exact fun id pwd named given _ _ => absurd given (unread id pwd named)
  | refused id pwd output mysql m named given seen rejected tables entries =>
    rw [settle_refused _ _ _ _ output rfl rejected]
    refine ⟨?_, Or.inl ⟨rfl, ?_⟩⟩
    · refine accounted_same s _ _ accounted ⟨tables.undisturbed accounted.quiet.undisturbed,
        entries.reliable accounted.quiet.reliable⟩ ?_ rfl rfl
      simp only [entries.store]
    · exact (Json.forall_given named given).mpr
        (fun account absent => absurd (seen account) absent)
  | admitted id pwd output groups after named given account absent letIn =>
    obtain ⟨carried, emptied⟩ := letIn.delivered accounted.quiet.reliable
    have balance := accounted.balance id
    rw [← carried] at balance
    rw [settle_admitted _ _ _ _ id output named letIn.sent letIn.errno, balance]
    refine ⟨⟨?_, ?_⟩, Or.inr ⟨id, rfl, ?_⟩⟩
    · exact ⟨letIn.mysql.undisturbed accounted.quiet.undisturbed,
        letIn.redis.reliable accounted.quiet.reliable⟩
    · intro other
      by_cases own : other = id
      · subst own
        simp [emptied]
      · have elsewhere : after.redis.store.waiting other = s.world.redis.store.waiting other := by
          rw [Redis.waiting, letIn.redis.entries _ (by simp [LoginKeys, own])]
          rfl
        simp only [Function.update_of_ne own, elsewhere]
        exact accounted.balance other
    · refine (Json.forall_given named given).trans ?_
      exact ⟨fun timely => timely account absent, fun nothing _ _ => nothing⟩

/-- The end of a session leaves the ledger and what is waiting. -/
theorem accounted_left (s : State) (id : Int) (node : Node) (m : RedisAccess)
    (accounted : Accounted s) (kept : RedisAccess.Kept (· = .user id) s.world.redis m) :
    Accounted ⟨{ s.world with node := node, redis := m }, s.ledger⟩ :=
  accounted_same s _ _ accounted
    ⟨accounted.quiet.undisturbed, kept.reliable accounted.quiet.reliable⟩ (waiting_kept kept)
    rfl rfl

/-- A logout keeps the balance. -/
theorem accounted_loginOut (s : State) (conn : Conn) (js : Json) (accounted : Accounted s) :
    Accounted (step s (.loginOut conn js)) := by
  change Accounted ⟨(loginOut conn js s.world).2, s.ledger⟩
  rcases loginOut_ends conn js s.world with ⟨outcome, ended⟩ | ⟨id, m, _, ended, kept⟩
  · rw [ended]
    exact accounted
  · rw [ended]
    exact accounted_left s id _ m accounted kept

/-- A closed connection keeps it. -/
theorem accounted_disconnect (s : State) (hint : Int) (conn : Conn) (accounted : Accounted s) :
    Accounted (step s (.disconnect hint conn)) := by
  change Accounted ⟨(clientQuitEcption hint conn s.world).2, s.ledger⟩
  rcases clientQuit_ends conn hint s.world with ended | ended | ⟨id, m, ended, kept⟩
  · rw [ended]
    exact accounted
  · rw [ended]
    exact accounted_left s (-1) _ s.world.redis accounted (RedisAccess.kept_refl _ _)
  · rw [ended]
    exact accounted_left s id _ m accounted kept

/-- A message can only be acknowledged, which delivers nothing and makes nothing due. -/
theorem acknowledge_kept (ledger : Ledger) (before after : World) (js : Json) :
    (ledger.acknowledge before after js).delivered = ledger.delivered ∧
      (ledger.acknowledge before after js).due = ledger.due ∧
      (ledger.acknowledge before after js).waited = ledger.waited := by
  unfold Ledger.acknowledge
  split
  · exact ⟨rfl, rfl, rfl⟩
  · split <;> exact ⟨rfl, rfl, rfl⟩

/-- A private message keeps it. -/
theorem accounted_oneChat (s : State) (conn : Conn) (js : Json) (accounted : Accounted s) :
    Accounted (step s (.oneChat conn js)) := by
  obtain ⟨delivered, _, waited⟩ :=
    acknowledge_kept s.ledger s.world (ChatService.oneChat conn js s.world).2 js
  have redis : (ChatService.oneChat conn js s.world).2.redis = s.world.redis :=
    sameRedis_oneChat conn js s.world
  exact accounted_same s _ _ accounted (calm_oneChat conn js s.world accounted.quiet)
    (congrArg (fun m => m.store.waiting) redis) delivered waited

/-- Deliveries fall due in order exactly for a timely event. -/
theorem settled_step_iff (s : State) (event : Event) (accounted : Accounted s)
    (settled : Settled s) : Settled (step s event) ↔ Timely s event := by
  cases event with
  | login conn js =>
    rcases (login_cases s conn js accounted).2 with ⟨unchanged, timely⟩ | ⟨id, ledger, timely⟩
    · refine iff_of_true ?_ timely
      rw [Settled, unchanged]
      exact settled
    · rw [timely, Settled, ledger]
      constructor
      · intro allSettled
        have own := (allSettled id).length_eq
        simpa using own
      · intro nothing other
        by_cases own : other = id
        · subst own
          simp [nothing]
        · simp only [Function.update_of_ne own]
          exact settled other
  | loginOut conn js => exact iff_of_true settled trivial
  | disconnect hint conn => exact iff_of_true settled trivial
  | oneChat conn js =>
    obtain ⟨delivered, due, _⟩ :=
      acknowledge_kept s.ledger s.world (ChatService.oneChat conn js s.world).2 js
    refine iff_of_true (fun id => ?_) trivial
    change ((s.ledger.acknowledge s.world (ChatService.oneChat conn js s.world).2 js).delivered
      id).Perm ((s.ledger.acknowledge s.world (ChatService.oneChat conn js s.world).2 js).due id)
    rw [delivered, due]
    exact settled id

/-- Every event keeps it. -/
theorem accounted_step (s : State) (event : Event) (accounted : Accounted s) :
    Accounted (step s event) := by
  cases event with
  | login conn js => exact (login_cases s conn js accounted).1
  | loginOut conn js => exact accounted_loginOut s conn js accounted
  | disconnect hint conn => exact accounted_disconnect s hint conn accounted
  | oneChat conn js => exact accounted_oneChat s conn js accounted

/-- In an undisturbed run every message acknowledged for an absent user is
delivered exactly once by the user's next login, at every moment of the run,
exactly when no login that is let in follows such an acknowledgement. -/
theorem settled_iff_timely (w : World) (events : List Event) (quiet : Quiet w) :
    Runs.Always step Settled (begin w) events ↔ Runs.Guarded step Timely (begin w) events :=
  Runs.always_iff_guarded step Settled Accounted Timely accounted_step settled_step_iff (begin w)
    events ⟨quiet, fun _ => rfl⟩ (fun _ => List.Perm.refl _)

/-- Two users who are friends, as far as the first is concerned. -/
def friends : Database :=
  { Database.empty with
    user := [⟨1, "ann", "a", "offline"⟩, ⟨2, "bob", "b", "offline"⟩]
    friend := [⟨1, 2⟩]
    nextUserId := 3 }

/-- A message of the example. -/
def hello : Json :=
  .object [("id", .integer 1), ("msg", .string "hi"), ("msgid", .integer 6), ("to", .integer 2)]

/-- A login of user 2, for whom nothing was acknowledged. -/
theorem settled_iff_timely_login :
    Quiet (World.start "node-1" friends Redis.empty) ∧
      (Runs.Always step Settled (begin (World.start "node-1" friends Redis.empty))
        [.login ⟨"c"⟩ (loginRequest 2 "b")] ↔
      Runs.Guarded step Timely (begin (World.start "node-1" friends Redis.empty))
        [.login ⟨"c"⟩ (loginRequest 2 "b")]) :=
  ⟨⟨⟨rfl, rfl⟩, ⟨rfl, rfl⟩⟩, settled_iff_timely (World.start "node-1" friends Redis.empty)
    [.login ⟨"c"⟩ (loginRequest 2 "b")] ⟨⟨rfl, rfl⟩, ⟨rfl, rfl⟩⟩⟩

/-- A message for the absent user 2 is acknowledged, and the next login of user 2
does not deliver it. -/
theorem hello_is_lost : ¬ ∀ w events, Quiet w → Runs.Always step Settled (begin w) events := by
  intro settled
  have final := Runs.always_end step Settled _ _
    (settled (World.start "node-1" friends Redis.empty)
      [.oneChat ⟨"c"⟩ hello, .login ⟨"d"⟩ (loginRequest 2 "b")] ⟨⟨rfl, rfl⟩, ⟨rfl, rfl⟩⟩)
  have counted := (final 2).length_eq
  exact absurd counted (by decide)

end ClusterChat.OfflineDelivery
