import ClusterChat.NodeRuns
import Mathlib.Logic.Function.Basic

/-!
# Registering and then logging in

A registration answers with the id of its own user object, and a user logs in with
the id that was answered. `UserModel::insert` stores the row under the next
`AUTO_INCREMENT` value and leaves the object alone, whose id is still the default
one. So every registration is answered with id -1.

A registration is cut between its insertion and its answer, so any number of them
run interleaved, on any nodes: the maps of a node play no part. Between the parts
other requests execute statements and write Redis. `answered` collects what each
answer with errno 0 promised: a name, a password and an id.

`usable_iff_blank` says in which runs the promises are kept, that is, every account
can log in whenever it has no session, under its own name, and no two have one id:
those in which at most one registration is answered, for an account with an empty
name and an empty password. Such a login is let in because a missing row reads as
the default user. The keys of the schema hold in the beginning and the counter of
the ids is positive, as MySQL has it; the database is available to the logins.
-/

namespace ClusterChat.Registration

open ChatService Database

/-!
## The reply of a login
-/

/-- The login takes its success path and returns the name. -/
def Welcomed (conn : Conn) (js : Json) (w : World) (name : String) : Prop :=
  ∃ output, (login conn js w).2.sent = w.sent ++ [output] ∧ output.errno = some 0 ∧
    output.body.member "name" = .string name

/-- A member of another key makes no difference. -/
theorem member_extended (answer extended : Json) (key wanted : String) (other : wanted ≠ key)
    (added : extended = answer ∨ ∃ texts, extended = answer.set key (Json.ofStrings texts)) :
    extended.member wanted = answer.member wanted := by
  rcases added with rfl | ⟨texts, rfl⟩
  · rfl
  · rw [Json.member_set, if_neg other]

/-- The answer to a login carries the name of the row. -/
theorem answerLogin_name (conn : Conn) (id : Int) (userQuery : User) (w : World) : ∃ output,
    (answerLogin conn id userQuery w).2.sent = w.sent ++ [output] ∧
      output.body.member "name" = .string userQuery.name := by
  obtain ⟨offlineMsgs, m, popped⟩ : ∃ offlineMsgs m,
      redis (RedisClient.popOfflineMessages id) w = (.ok offlineMsgs, { w with redis := m }) :=
    ⟨_, _, redis_run _ w⟩
  have begun : ∃ answer, answer.member "name" = .string userQuery.name ∧
      answerLogin conn id userQuery w =
        (do
          let answer ← addFriendList id answer
          let answer ← addGroupList id answer
          send conn answer : Handler Unit) { w with redis := m } := by
    rw [answerLogin, Effect.bind_ok _ _ _ _ _ popped]
    refine ⟨_, ?_, rfl⟩
    cases offlineMsgs with
    | nil => simp [Json.member_set]
    | cons text rest => simp [Json.member_set]
  obtain ⟨answer, named, started⟩ := begun
  obtain ⟨friends, mysql, listed, endedFriends, _, _, addedFriends⟩ :=
    addFriendList_runs id answer { w with redis := m }
  obtain ⟨extended, groups, mysqlGroups, left, endedGroups, _, _, _, addedGroups⟩ :=
    addGroupList_runs id friends { w with mysql := mysql, redis := listed }
  refine ⟨⟨conn, extended, false⟩, ?_, ?_⟩
  · rw [started, Effect.bind_ok _ _ _ _ _ endedFriends, Effect.bind_ok _ _ _ _ _ endedGroups]
    rfl
  · rw [← named]
    exact (member_extended friends extended "groups" "name" (by decide) addedGroups).trans
      (member_extended answer friends "friends" "name" (by decide) addedFriends)

/-- So does the accepted branch as a whole. -/
theorem acceptLogin_name (conn : Conn) (id : Int) (userQuery : User) (w : World) : ∃ output,
    (acceptLogin conn id userQuery w).2.sent = w.sent ++ [output] ∧
      output.body.member "name" = .string userQuery.name := by
  obtain ⟨m, announced, _, _⟩ := announce_runs conn id { w with node := w.node.record id conn }
  rw [acceptLogin, Effect.bind_ok _ _ _ _ _ (onNode_run _ w),
    Effect.bind_ok _ _ _ _ _ announced]
  exact answerLogin_name conn id userQuery _

/-- A login is welcomed under the name of the queried account, and when it is let in. -/
theorem welcomed_iff (conn : Conn) (js : Json) (id : Int) (pwd : String) (w : World)
    (name : String) (named : js.int "id" = .ok id) (given : js.str "password" = .ok pwd) :
    Welcomed conn js w name ↔ Matches w id pwd ∧ ¬ SeenOnline w id ∧
      (w.mysql.run (UserModel.query id)).1.name = name := by
  by_cases letIn : Matches w id pwd ∧ ¬ SeenOnline w id
  · obtain ⟨account, absent⟩ := letIn
    obtain ⟨output, groups, after, ended, letIn⟩ :=
      login_admitted conn js id pwd w named given account absent
    obtain ⟨reply, replied, own⟩ : ∃ reply, (login conn js w).2.sent = w.sent ++ [reply] ∧
        reply.body.member "name" = .string (w.mysql.run (UserModel.query id)).1.name := by
      rw [login_run conn js id pwd w named given, if_pos account, if_neg absent]
      exact acceptLogin_name conn id _ _
    have same : output = reply := by
      rw [ended, letIn.sent] at replied
      simpa using replied
    subst same
    constructor
    · rintro ⟨other, sent, _, called⟩
      have isReply : other = output := by
        rw [replied] at sent
        simpa using sent.symm
      rw [isReply, own] at called
      exact ⟨account, absent, by simpa using called⟩
    · rintro ⟨_, _, rfl⟩
      exact ⟨output, replied, letIn.errno, own⟩
  · refine iff_of_false ?_ (fun ⟨account, absent, _⟩ => letIn ⟨account, absent⟩)
    rintro ⟨output, sent, errno, _⟩
    obtain ⟨reply, mysql, m, ended, rejected, _, _⟩ := login_refused conn js id pwd w named given
      (fun account => by_contra fun absent => letIn ⟨account, absent⟩)
    have isReply : output = reply := by
      rw [ended] at sent
      simpa using sent.symm
    exact rejected (isReply ▸ errno)

/-!
## Registrations in parts
-/

/-- A registration up to and including its insertion. One that is refused is
answered. -/
def beginReg (conn : Conn) (js : Json) : Handler (Option User) := do
  let name ← convert (js.str "name")
  let password ← convert (js.str "password")
  let user : User := { name, password }
  if ← sql (UserModel.insert user) then return some user
  else
    send conn (response .regMsgAck 1)
    return none

/-- The rest of a registration that was inserted. -/
def finishReg (conn : Conn) (user : User) : Handler Unit := do
  redis (RedisClient.hset (.userInfo user.id) "name" user.name)
  redis (RedisClient.expire (.userInfo user.id) (hours 24))
  send conn ((response .regMsgAck 0).set "id" (.integer user.id))

/-- The parts, one after the other, are the handler. -/
theorem reg_parts (conn : Conn) (js : Json) (w : World) :
    reg conn js w = (do
      match ← beginReg conn js with
      | none => return ()
      | some user => finishReg conn user : Handler Unit) w := by
  rw [reg, beginReg]
  cases js.str "name" with
  | error exception => rfl
  | ok name =>
    cases js.str "password" with
    | error exception => rfl
    | ok password =>
      simp only [convert_ok_bind]
      rw [bind_assoc_apply, Effect.bind_ok _ _ _ _ _ (sql_run _ w),
        Effect.bind_ok _ _ _ _ _ (sql_run _ w)]
      split <;> rfl

/-- What an answer with errno 0 promised. -/
structure Account where
  name : String
  password : String
  id : Int

/-- The world of the requests, the registrations between their parts, and what was
answered so far. -/
structure State where
  world : World
  tasks : Nat → Option (Conn × User)
  answered : List Account

/-- The id a reply carries. -/
def repliedId (output : Output) : Option Int := (output.body.member "id").getInt.toOption

/-- The accounts among the replies with errno 0 of a part, for this user. -/
def promised (before after : World) (user : User) : List Account :=
  (after.sent.drop before.sent.length).filterMap (fun output =>
    if output.errno = some 0 then (repliedId output).map (⟨user.name, user.password, ·⟩) else none)

/-- The first part of a registration, its second part, a statement another request
executes, and what other requests make of a node and of Redis. -/
inductive Event where
  | insert (i : Nat) (conn : Conn) (js : Json) (faults : Faults)
  | answer (i : Nat) (faults : Faults)
  | statement (connection : Connection) (update : Update)
  | others (node : Node) (store : Redis)

/-- The state after the event. -/
def step (s : State) : Event → State
  | .insert i conn js faults =>
      match s.tasks i, beginReg conn js (World.meet s.world faults) with
      | none, (.ok (some user), w) =>
          { s with world := w, tasks := Function.update s.tasks i (some (conn, user)) }
      | none, (_, w) => { s with world := w }
      | some _, _ => s
  | .answer i faults =>
      match s.tasks i with
      | none => s
      | some (conn, user) =>
          let w := (finishReg conn user (World.meet s.world faults)).2
          ⟨w, Function.update s.tasks i none, s.answered ++ promised s.world w user⟩
  | .statement connection update =>
      { s with world := { s.world with
          mysql := { s.world.mysql with
            database := s.world.mysql.database.apply connection update } } }
  | .others node store =>
      { s with world := { s.world with node, redis := { s.world.redis with store } } }

/-- No registration has begun. -/
def begin (w : World) : State := ⟨w, fun _ => none, []⟩

/-- The tables as a state has them. -/
def State.tables (s : State) : Database := s.world.mysql.database

/-- With the database available and no session, on any node and connection, the
account can log in and is given its name. -/
def CanLogIn (db : Database) (account : Account) : Prop :=
  ∀ conn js node store sent, js.int "id" = .ok account.id →
    js.str "password" = .ok account.password → store.online account.id = false →
    Welcomed conn js ⟨node, Access.undisturbed db, RedisAccess.reliable store, sent⟩ account.name

/-- What the answers promised is kept: the accounts can log in and have different ids. -/
def Kept (s : State) : Prop :=
  (∀ account ∈ s.answered, CanLogIn s.tables account) ∧ (s.answered.map Account.id).Nodup

/-- A registration that is answered is the first one, of an empty name and an empty
password, and no row has the id -1. -/
def Blank (s : State) : Event → Prop
  | .answer i _ => ∀ conn user, s.tasks i = some (conn, user) →
      s.answered = [] ∧ user.name = "" ∧ user.password = "" ∧ s.tables.hasUser (-1) = false
  | _ => True

/-!
## The User table
-/

/-- A statement rewrites states, or adds one row under the next id. -/
theorem update_user (db next : Database) (connection : Connection) (statement : Update)
    (accepted : db.update connection statement = .ok next) :
    ((∃ change : UserRow → UserRow, (∀ row, (change row).id = row.id ∧
        (change row).name = row.name) ∧ next.user = db.user.map change) ∧
      next.nextUserId = db.nextUserId) ∨
    (∃ name password state, next.user = db.user ++ [⟨db.nextUserId, name, password, state⟩]) ∧
      next.nextUserId = db.nextUserId + 1 := by
  have same (next : Database) (user : next.user = db.user)
      (counter : next.nextUserId = db.nextUserId) :
      (∃ change : UserRow → UserRow, (∀ row, (change row).id = row.id ∧
        (change row).name = row.name) ∧ next.user = db.user.map change) ∧
      next.nextUserId = db.nextUserId :=
    ⟨⟨id, fun _ => ⟨rfl, rfl⟩, user.trans (List.map_id _).symm⟩, counter⟩
  cases statement with
  | insertUser name password state =>
    simp only [Database.update] at accepted
    split at accepted
    · cases accepted
    · cases accepted
      exact Or.inr ⟨⟨name, password, state, rfl⟩, rfl⟩
  | updateUserState state id =>
    simp only [Database.update] at accepted
    split at accepted
    · cases accepted
    · cases accepted
      refine Or.inl ⟨⟨_, fun row => ?_, rfl⟩, rfl⟩
      split <;> exact ⟨rfl, rfl⟩
  | resetUserStates =>
    cases accepted
    refine Or.inl ⟨⟨_, fun row => ?_, rfl⟩, rfl⟩
    split <;> exact ⟨rfl, rfl⟩
  | deleteOfflineMessages userid =>
    cases accepted
    exact Or.inl (same _ rfl rfl)
  | _ =>
    simp only [Database.update] at accepted
    split at accepted
    · cases accepted
    · cases accepted
      exact Or.inl (same _ rfl rfl)

/-- A row has this name, and it is not the row of id -1. -/
def Stored (db : Database) (name : String) : Prop :=
  ∃ row ∈ db.user, row.name = name ∧ row.id ≠ -1

/-- What a statement keeps of the names, of the id -1 and of the counter. -/
structure Grown (before after : Database) : Prop where
  keys : before.Keys → after.Keys
  counting : 0 < before.nextUserId → 0 < after.nextUserId
  default : 0 < before.nextUserId → after.hasUser (-1) = before.hasUser (-1)
  stored : ∀ name, Stored before name → Stored after name

/-- Tables that stay as they are have grown. -/
theorem grown_refl (db : Database) : Grown db db := ⟨id, id, fun _ => rfl, fun _ => id⟩

/-- An accepted statement lets the tables grow. -/
theorem grown_update (db next : Database) (connection : Connection) (statement : Update)
    (accepted : db.update connection statement = .ok next) : Grown db next := by
  have keys (held : db.Keys) : next.Keys := held.update connection statement accepted
  rcases update_user db next connection statement accepted with
    ⟨⟨change, same, rows⟩, counter⟩ | ⟨⟨name, password, state, rows⟩, counter⟩
  · refine ⟨keys, fun positive => counter ▸ positive, fun _ => ?_, ?_⟩
    · simp only [hasUser, rows, List.any_map]
      congr 1
      funext row
      simp [(same row).1]
    · rintro name ⟨row, member, named, other⟩
      refine ⟨change row, ?_, (same row).2.trans named, ?_⟩
      · rw [rows]
        exact List.mem_map_of_mem member
      · rw [(same row).1]
        exact other
  · refine ⟨keys, fun positive => ?_, fun positive => ?_, ?_⟩
    · omega
    · have fresh : db.nextUserId ≠ -1 := by omega
      simp [hasUser, rows, fresh]
    · rintro other ⟨row, member, named, distinct⟩
      exact ⟨row, by rw [rows]; exact List.mem_append_left _ member, named, distinct⟩

/-- So does a statement, accepted or not. -/
theorem grown_apply (db : Database) (connection : Connection) (statement : Update) :
    Grown db (db.apply connection statement) := by
  unfold Database.apply
  cases accepted : db.update connection statement with
  | error exception => exact grown_refl db
  | ok next => exact grown_update db next connection statement accepted

/-- An inserted name is stored, under a positive id. -/
theorem stored_insertUser (db next : Database) (connection : Connection)
    (name password state : String) (counting : 0 < db.nextUserId)
    (accepted : db.update connection (.insertUser name password state) = .ok next) :
    Stored next name := by
  simp only [Database.update] at accepted
  split at accepted
  · cases accepted
  · cases accepted
    refine ⟨⟨db.nextUserId, name, password, state⟩, ?_, rfl, ?_⟩
    · exact List.mem_append_right _ (List.mem_singleton_self _)
    · simp only
      omega

/-!
## What an account of id -1 can do
-/

/-- An account of id -1 can log in exactly when that is the account the tables give
for the id, the default user if there is no row. -/
theorem canLogIn_iff (db : Database) (name password : String) :
    CanLogIn db ⟨name, password, -1⟩ ↔
      (UserModel.ofRows (db.select 0 (.userById (-1)))).password = password ∧
      (UserModel.ofRows (db.select 0 (.userById (-1)))).name = name := by
  have queried (node : Node) (store : Redis) (sent : List Output) :
      ((⟨node, Access.undisturbed db, RedisAccess.reliable store, sent⟩ : World).mysql.run
        (UserModel.query (-1))).1 = UserModel.ofRows (db.select 0 (.userById (-1))) := by
    simp only [UserModel.query_undisturbed]
  have own : (UserModel.ofRows (db.select 0 (.userById (-1)))).id = -1 := by
    cases found : db.select 0 (.userById (-1)) with
    | nil => rfl
    | cons row rest =>
      have member : row ∈ db.user.filter (fun row => row.id = -1) := by
        rw [show db.user.filter (fun row => row.id = -1) = row :: rest from found]
        exact List.mem_cons_self
      change row.id = -1
      simpa using (List.mem_filter.mp member).2
  constructor
  · intro canLogIn
    have welcomed := canLogIn ⟨"c"⟩ (loginRequest (-1) password) (Node.fresh "node-1") Redis.empty
      [] rfl rfl rfl
    rw [welcomed_iff ⟨"c"⟩ (loginRequest (-1) password) (-1) password _ name rfl rfl, Matches,
      queried] at welcomed
    exact ⟨welcomed.1.2, welcomed.2.2⟩
  · rintro ⟨samePassword, sameName⟩ conn js node store sent named given offline
    rw [welcomed_iff conn js (-1) password _ name named given, Matches, queried]
    refine ⟨⟨own, samePassword⟩, ?_, sameName⟩
    simp only [SeenOnline, RedisClient.isUserOnline_reliable]
    simpa using offline

/-- Of a stored name, an account of id -1 can log in only as the default user. -/
theorem canLogIn_default (db : Database) (name password : String) (keys : db.Keys)
    (stored : Stored db name) : CanLogIn db ⟨name, password, -1⟩ ↔
      name = "" ∧ password = "" ∧ db.hasUser (-1) = false := by
  rw [canLogIn_iff]
  cases present : db.hasUser (-1) with
  | false =>
    have none : db.select 0 (.userById (-1)) = [] := by
      change db.user.filter (fun row => row.id = -1) = []
      rw [List.filter_eq_nil_iff]
      simpa [hasUser] using present
    rw [none]
    simp only [UserModel.ofRows, and_true]
    constructor
    · rintro ⟨samePassword, sameName⟩
      exact ⟨sameName.symm, samePassword.symm⟩
    · rintro ⟨rfl, rfl⟩
      exact ⟨rfl, rfl⟩
  | true =>
    refine iff_of_false ?_ (by simp)
    rintro ⟨_, sameName⟩
    obtain ⟨other, inserted, named, distinct⟩ := stored
    cases found : db.user.filter (fun row => row.id = -1) with
    | nil =>
      obtain ⟨row, member, own⟩ := (hasUser_iff db (-1)).mp present
      have missing := List.filter_eq_nil_iff.mp found row member
      simp [own] at missing
    | cons row rest =>
      have member : row ∈ db.user.filter (fun row => row.id = -1) :=
        found ▸ List.mem_cons_self
      obtain ⟨listed, own⟩ := List.mem_filter.mp member
      change (UserModel.ofRows (db.user.filter (fun row => row.id = -1))).name = name at sameName
      rw [found] at sameName
      have same : row = other :=
        List.inj_on_of_nodup_map keys.userNames listed inserted (sameName.trans named.symm)
      rw [same] at own
      exact distinct (of_decide_eq_true own)

/-!
## Runs
-/

/-- The schema's promises hold, and the names of the registrations that were inserted
are stored, for accounts that are all of the default id. -/
structure Tracked (s : State) : Prop where
  keys : s.tables.Keys
  counting : 0 < s.tables.nextUserId
  tasks : ∀ i conn user, s.tasks i = some (conn, user) → user.id = -1 ∧ Stored s.tables user.name
  answered : ∀ account ∈ s.answered, account.id = -1 ∧ Stored s.tables account.name

/-- What has been answered stays right while the tables grow. -/
theorem Tracked.grown {s next : State} (tracked : Tracked s) (grown : Grown s.tables next.tables)
    (tasks : next.tasks = s.tasks) (answered : next.answered = s.answered) : Tracked next where
  keys := grown.keys tracked.keys
  counting := grown.counting tracked.counting
  tasks := by
    intro i conn user held
    rw [tasks] at held
    obtain ⟨default, stored⟩ := tracked.tasks i conn user held
    exact ⟨default, grown.stored user.name stored⟩
  answered := by
    intro account member
    rw [answered] at member
    obtain ⟨default, stored⟩ := tracked.answered account member
    exact ⟨default, grown.stored account.name stored⟩

/-- What statements do to the tables does not break a promise. -/
theorem kept_grown {s next : State} (tracked : Tracked s) (grown : Grown s.tables next.tables)
    (answered : next.answered = s.answered) (kept : Kept s) : Kept next := by
  constructor
  · intro account member
    rw [answered] at member
    obtain ⟨default, stored⟩ := tracked.answered account member
    have before := kept.1 account member
    obtain ⟨name, password, id⟩ := account
    subst default
    obtain ⟨noName, noPassword, missing⟩ :=
      (canLogIn_default s.tables name password tracked.keys stored).mp before
    refine (canLogIn_default next.tables name password (grown.keys tracked.keys)
      (grown.stored name stored)).mpr ⟨noName, noPassword, ?_⟩
    rw [grown.default tracked.counting]
    exact missing
  · rw [answered]
    exact kept.2

/-- The first part of a registration either leaves the tables, or inserts the row of
the user object it goes on with, whose id is the default one. -/
theorem beginReg_ends (conn : Conn) (js : Json) (w : World) :
    (∃ outcome left, beginReg conn js w = (outcome, left) ∧
      (∀ user, outcome ≠ .ok (some user)) ∧ left.mysql.database = w.mysql.database) ∨
    ∃ user left, beginReg conn js w = (.ok (some user), left) ∧ user.id = -1 ∧
      ∃ connection, w.mysql.database.update connection
        (.insertUser user.name user.password user.state) = .ok left.mysql.database := by
  rw [beginReg]
  cases js.str "name" with
  | error exception => exact Or.inl ⟨_, w, rfl, by simp, rfl⟩
  | ok name =>
    cases js.str "password" with
    | error exception => exact Or.inl ⟨_, w, rfl, by simp, rfl⟩
    | ok password =>
      simp only [convert_ok_bind]
      rw [Effect.bind_ok _ _ _ _ _ (sql_run _ w)]
      rcases UserModel.insert_ends w.mysql { name, password } with
        ⟨refused, kept⟩ | ⟨accepted, row⟩
      · rw [refused]
        exact Or.inl ⟨.ok none, _, rfl, by simp, kept⟩
      · rw [accepted]
        exact Or.inr ⟨{ name, password }, _, rfl, rfl, row⟩

/-- The second part answers with errno 0 and the id of the user object. -/
theorem promised_finishReg (conn : Conn) (user : User) (w : World) (default : user.id = -1) :
    (finishReg conn user w).2.mysql = w.mysql ∧
      promised w (finishReg conn user w).2 user = [⟨user.name, user.password, -1⟩] := by
  refine ⟨rfl, ?_⟩
  have sent : (finishReg conn user w).2.sent = w.sent ++
      [⟨conn, (response .regMsgAck 0).set "id" (.integer user.id), false⟩] := rfl
  rw [promised, sent, List.drop_left, default]
  rfl

/-- The first part of a registration adds to the tables, and keeps the user object it
inserted for the second part. -/
theorem insert_cases (s : State) (i : Nat) (conn : Conn) (js : Json) (faults : Faults)
    (counting : 0 < s.tables.nextUserId) :
    Grown s.tables (step s (.insert i conn js faults)).tables ∧
      (step s (.insert i conn js faults)).answered = s.answered ∧
      ((step s (.insert i conn js faults)).tasks = s.tasks ∨
        ∃ user, user.id = -1 ∧
          Stored (step s (.insert i conn js faults)).tables user.name ∧
          (step s (.insert i conn js faults)).tasks =
            Function.update s.tasks i (some (conn, user))) := by
  simp only [step]
  cases held : s.tasks i with
  | some task => exact ⟨grown_refl s.tables, rfl, Or.inl rfl⟩
  | none =>
    rcases beginReg_ends conn js (World.meet s.world faults) with
      ⟨outcome, left, ended, refused, same⟩ | ⟨user, left, ended, default, connection, inserted⟩
    · have unmoved : Grown s.tables left.mysql.database := by
        rw [same]
        exact grown_refl s.tables
      rw [ended]
      cases outcome with
      | error escape => exact ⟨unmoved, rfl, Or.inl rfl⟩
      | ok given =>
        cases given with
        | none => exact ⟨unmoved, rfl, Or.inl rfl⟩
        | some user => exact absurd rfl (refused user)
    · rw [ended]
      exact ⟨grown_update s.tables left.mysql.database connection _ inserted, rfl,
        Or.inr ⟨user, default,
          stored_insertUser s.tables left.mysql.database connection _ _ _ counting inserted, rfl⟩⟩

/-- The second part leaves the tables and answers for the user object, if there is one. -/
theorem answer_cases (s : State) (i : Nat) (faults : Faults) (tracked : Tracked s) :
    (s.tasks i = none ∧ step s (.answer i faults) = s) ∨
    ∃ conn user, s.tasks i = some (conn, user) ∧ user.id = -1 ∧ Stored s.tables user.name ∧
      (step s (.answer i faults)).tables = s.tables ∧
      (step s (.answer i faults)).tasks = Function.update s.tasks i none ∧
      (step s (.answer i faults)).answered = s.answered ++ [⟨user.name, user.password, -1⟩] := by
  simp only [step]
  cases held : s.tasks i with
  | none => exact Or.inl ⟨rfl, rfl⟩
  | some task =>
    obtain ⟨conn, user⟩ := task
    obtain ⟨default, stored⟩ := tracked.tasks i conn user held
    obtain ⟨tables, replied⟩ :=
      promised_finishReg conn user (World.meet s.world faults) default
    refine Or.inr ⟨conn, user, rfl, default, stored, ?_, rfl, ?_⟩
    · have same := congrArg Access.database tables
      exact same
    · have added := congrArg (s.answered ++ ·) replied
      exact added

/-- Every event keeps track of the answers. -/
theorem tracked_step (s : State) (event : Event) (tracked : Tracked s) :
    Tracked (step s event) := by
  cases event with
  | insert i conn js faults =>
    obtain ⟨grown, answered, same | ⟨user, default, stored, added⟩⟩ :=
      insert_cases s i conn js faults tracked.counting
    · exact tracked.grown grown same answered
    · have others : Tracked { step s (.insert i conn js faults) with tasks := s.tasks } :=
        tracked.grown grown rfl answered
      refine ⟨others.keys, others.counting, ?_, others.answered⟩
      intro j other task held
      rw [added] at held
      by_cases own : j = i
      · subst own
        rw [Function.update_self] at held
        cases held
        exact ⟨default, stored⟩
      · rw [Function.update_of_ne own] at held
        exact others.tasks j other task held
  | answer i faults =>
    rcases answer_cases s i faults tracked with
      ⟨_, same⟩ | ⟨conn, user, held, default, stored, tables, tasks, answered⟩
    · rw [same]
      exact tracked
    · refine ⟨tables ▸ tracked.keys, tables ▸ tracked.counting, ?_, ?_⟩
      · intro j other task later
        rw [tasks] at later
        rw [tables]
        by_cases own : j = i
        · subst own
          rw [Function.update_self] at later
          cases later
        · rw [Function.update_of_ne own] at later
          exact tracked.tasks j other task later
      · intro account member
        rw [answered] at member
        rw [tables]
        rcases List.mem_append.mp member with old | new
        · exact tracked.answered account old
        · rw [List.mem_singleton.mp new]
          exact ⟨rfl, stored⟩
  | statement connection update =>
    exact tracked.grown (grown_apply s.tables connection update) rfl rfl
  | others node store => exact tracked.grown (grown_refl s.tables) rfl rfl

/-- Under what is tracked, an event keeps the promises exactly when it is no answer or
the blank one. -/
theorem kept_step_iff (s : State) (event : Event) (tracked : Tracked s) (kept : Kept s) :
    Kept (step s event) ↔ Blank s event := by
  cases event with
  | insert i conn js faults =>
    obtain ⟨grown, answered, _⟩ := insert_cases s i conn js faults tracked.counting
    exact iff_of_true (kept_grown tracked grown answered kept) trivial
  | statement connection update =>
    exact iff_of_true (kept_grown tracked (grown_apply s.tables connection update) rfl kept) trivial
  | others node store =>
    exact iff_of_true (kept_grown tracked (grown_refl s.tables) rfl kept) trivial
  | answer i faults =>
    rcases answer_cases s i faults tracked with
      ⟨idle, same⟩ | ⟨conn, user, held, default, stored, tables, _, answered⟩
    · rw [same]
      refine iff_of_true kept fun conn user held => ?_
      rw [idle] at held
      cases held
    · have own := canLogIn_default s.tables user.name user.password tracked.keys stored
      constructor
      · rintro ⟨usable, distinct⟩ conn' user' held'
        rw [held] at held'
        cases held'
        rw [answered] at usable distinct
        rw [tables] at usable
        refine ⟨?_, own.mp (usable _ (List.mem_append_right _ List.mem_cons_self))⟩
        cases earlier : s.answered with
        | nil => rfl
        | cons account rest =>
          have first := (tracked.answered account (earlier ▸ List.mem_cons_self)).1
          rw [earlier] at distinct
          simp [first] at distinct
      · intro blank
        obtain ⟨first, usable⟩ := blank conn user held
        rw [first, List.nil_append] at answered
        rw [Kept, answered, tables]
        refine ⟨?_, List.nodup_singleton _⟩
        intro account member
        rw [List.mem_singleton.mp member]
        exact own.mpr usable

/-- From tables that obey the schema every answered account can log in under its own
name, and no two have one id, in exactly the runs in which at most one registration is
answered, for an empty name and password and with no row of id -1. -/
theorem usable_iff_blank (w : World) (events : List Event) (keys : w.mysql.database.Keys)
    (counting : 0 < w.mysql.database.nextUserId) :
    Runs.Always step Kept (begin w) events ↔ Runs.Guarded step Blank (begin w) events := by
  have start : Tracked (begin w) :=
    ⟨keys, counting, by simp [begin], fun _ member => absurd member List.not_mem_nil⟩
  have holds : Kept (begin w) :=
    ⟨fun _ member => absurd member List.not_mem_nil, List.nodup_nil⟩
  exact Runs.always_iff_guarded step Kept Tracked Blank tracked_step kept_step_iff (begin w)
    events start holds

/-- A world without users, and one registration. -/
def vacant : World := World.start "node-1" Database.empty Redis.empty

/-- The example: one registration, and its answer. -/
def signUp : List Event :=
  [.insert 0 ⟨"c"⟩ (.object [("msgid", .integer 4), ("name", .string "ann"),
    ("password", .string "a")]) {}, .answer 0 {}]

/-- The empty tables have their keys. -/
theorem keys_vacant : vacant.mysql.database.Keys := Database.keys_empty

/-- A registration in empty tables. -/
theorem usable_iff_blank_ann :
    Runs.Always step Kept (begin vacant) signUp ↔ Runs.Guarded step Blank (begin vacant) signUp :=
  usable_iff_blank vacant signUp keys_vacant (by decide)

/-- The first user to register cannot log in with the answered id. -/
theorem usable_ann : ¬ ∀ w events, w.mysql.database.Keys → 0 < w.mysql.database.nextUserId →
    Runs.Always step Kept (begin w) events := by
  intro usable
  have final := Runs.always_end step _ _ _ (usable vacant signUp keys_vacant (by decide))
  have answered : (Runs.run step (begin vacant) signUp).answered = [⟨"ann", "a", -1⟩] := rfl
  have canLogIn := final.1 ⟨"ann", "a", -1⟩ (answered ▸ List.mem_cons_self)
  have default := ((canLogIn_iff _ _ _).mp canLogIn).1
  exact absurd default (by decide)

end ClusterChat.Registration
