import ClusterChat.NodeRuns
import Mathlib.Logic.Function.Basic

/-!
# The connection a login binds

`oneChat` sends to the connection `userConnMap_` records for the recipient, and a
login answered with errno 0 is expected to have recorded its own. `insert` keeps
an entry that exists. What should have removed the entry is a logout or a closed
connection, but what a login looks at is the presence record in Redis, which also
disappears by itself after two minutes and is not seen while Redis is out of reach.

`bound` is the connection of the last login of a user that was answered with errno
0, until the user logs out, that connection closes, or the user logs in again. An
event binds when a login so answered is recorded under its own connection, and when
a message for a bound user is sent on the connection bound and on no other.

`binds_iff_free` says which runs bind throughout: those in which every login that
is let in finds no entry for its user, or one of its own connection. A run begins
in any world, and the presence of a user and the reach of Redis are arbitrary.
-/

namespace ClusterChat.Binding

open ChatService NodeRuns Friendship

/-- A node, and the connection each user's last successful login came on while
nothing has ended that session. -/
structure State where
  world : World
  bound : Int → Option Conn

instance (before after : World) : Decidable (Answered before after) :=
  inferInstanceAs (Decidable (∃ output ∈ replies before after, output.errno = some 0))

/-- A login answered with errno 0 binds its connection. A logout of the user and
the closing of the connection end that. -/
def rebind (before after : World) (bound : Int → Option Conn) : Event → Int → Option Conn
  | .request .login conn js _ =>
      match js.int "id" with
      | .ok id => if Answered before after then Function.update bound id (some conn) else bound
      | .error _ => bound
  | .request .loginOut _ js _ =>
      match js.int "id" with
      | .ok id => Function.update bound id none
      | .error _ => bound
  | .disconnect _ conn _ => fun id => if bound id = some conn then none else bound id
  | _ => bound

/-- The world after the event, with the bound connections. -/
def step (s : State) (event : Event) : State :=
  ⟨NodeRuns.step s.world event, rebind s.world (NodeRuns.step s.world event) s.bound event⟩

/-- Nobody is bound yet. -/
def begin (w : World) : State := ⟨w, fun _ => none⟩

/-- A login answered with errno 0 is recorded under its connection. A message from
a friend to a bound user is acknowledged and sent on the connection bound, and
nothing else is sent. -/
def Binds (s : State) : Event → Prop
  | .request .login conn js faults => ∀ id, js.int "id" = .ok id →
      Answered s.world (NodeRuns.step s.world (.request .login conn js faults)) →
      (NodeRuns.step s.world (.request .login conn js faults)).node.connOf id = some conn
  | .request .oneChat conn js faults => ∀ id toId toConn, Addressed js id toId →
      Lists (s.world.meet faults) id toId → s.bound toId = some toConn →
      replies s.world (NodeRuns.step s.world (.request .oneChat conn js faults)) =
        [⟨conn, sentMessage, false⟩, ⟨toConn, js, false⟩]
  | _ => True

/-- A login that is let in finds its user without an entry, or with one of its own
connection. -/
def Free (s : State) : Event → Prop
  | .request .login conn js faults =>
      ∀ id pwd, js.int "id" = .ok id → js.str "password" = .ok pwd →
        Matches (s.world.meet faults) id pwd → ¬ SeenOnline (s.world.meet faults) id →
        s.world.node.connOf id = none ∨ s.world.node.connOf id = some conn
  | _ => True

/-- Whoever is bound is recorded under the connection bound. -/
def Recorded (s : State) : Prop :=
  ∀ id conn, s.bound id = some conn → s.world.node.connOf id = some conn

/-- A login is not let in, answers no errno 0 and leaves the connections, or is let
in and answers errno 0. -/
theorem login_cases (w : World) (conn : Conn) (js : Json) (faults : Faults) :
    ∃ after, NodeRuns.step w (.request .login conn js faults) = after ∧
    ((¬ Answered w after ∧ SameConnections w after ∧
      ∀ id pwd, js.int "id" = .ok id → js.str "password" = .ok pwd →
        Matches (w.meet faults) id pwd → SeenOnline (w.meet faults) id) ∨
    ∃ id pwd output groups, js.int "id" = .ok id ∧ js.str "password" = .ok pwd ∧
      Matches (w.meet faults) id pwd ∧ ¬ SeenOnline (w.meet faults) id ∧
      LetIn conn id (w.meet faults) output groups after ∧ Answered w after) := by
  obtain ⟨result, ended, ends⟩ := login_ends conn js (w.meet faults)
  refine ⟨result.2, congrArg Prod.snd ended, ?_⟩
  cases ends with
  | malformed escape unread =>
    refine Or.inl ⟨?_, rfl, fun id pwd named given => absurd given (unread id pwd named)⟩
    rintro ⟨output, member, _⟩
    rw [replies_append w (w.meet faults) [] (List.append_nil _).symm] at member
    cases member
  | refused id pwd output mysql m named given seen rejected tables entries =>
    refine Or.inl ⟨?_, rfl, ?_⟩
    · rintro ⟨reply, member, errno⟩
      rw [replies_append w _ [output] rfl] at member
      exact rejected (List.mem_singleton.mp member ▸ errno)
    · intro other word named' given'
      rw [named] at named'
      rw [given] at given'
      cases named'
      cases given'
      exact seen
  | admitted id pwd output groups after named given account absent letIn =>
    refine Or.inr ⟨id, pwd, output, groups, named, given, account, absent, letIn, output, ?_,
      letIn.errno⟩
    rw [replies_append w after [output] letIn.sent]
    exact List.mem_singleton_self output

/-- A login is recorded under its connection exactly when it finds the place free. -/
theorem binds_login_iff (s : State) (conn : Conn) (js : Json) (faults : Faults) :
    Binds s (.request .login conn js faults) ↔ Free s (.request .login conn js faults) := by
  obtain ⟨after, stepped, ends⟩ := login_cases s.world conn js faults
  rw [Binds, stepped]
  rcases ends with
    ⟨unanswered, _, seen⟩ |
    ⟨id, pwd, output, groups, named, given, account, absent, letIn, answered⟩
  · refine iff_of_true (fun _ _ answered => absurd answered unanswered) ?_
    exact fun id pwd named given account absent => absurd (seen id pwd named given account) absent
  · have recorded : after.node.connOf id =
        if id = id ∧ s.world.node.connOf id = none then some conn else s.world.node.connOf id :=
      letIn_connOf letIn id
    have freely : Free s (.request .login conn js faults) ↔
        s.world.node.connOf id = none ∨ s.world.node.connOf id = some conn := by
      refine (Json.forall_given named given).trans ?_
      exact ⟨fun free => free account absent, fun free _ _ => free⟩
    rw [freely]
    constructor
    · intro binds
      have own := binds id named answered
      rw [recorded] at own
      split at own
      · rename_i missing
        exact Or.inl missing.2
      · exact Or.inr own
    · intro free other named' _
      rw [named] at named'
      cases named'
      rw [recorded]
      rcases free with missing | own
      · rw [if_pos ⟨rfl, missing⟩]
      · split
        · rfl
        · exact own

/-- A message to a user who is recorded as bound goes to the connection bound. -/
theorem binds_oneChat (s : State) (conn : Conn) (js : Json) (faults : Faults)
    (recorded : Recorded s) : Binds s (.request .oneChat conn js faults) := by
  intro id toId toConn addressed listed bound
  have connected : (s.world.meet faults).node.connOf toId = some toConn :=
    recorded toId toConn bound
  exact replies_append s.world _ _
    (oneChat_connected conn js id toId toConn (s.world.meet faults) addressed listed connected)

/-- Events without a part in the sessions leave the connections. -/
theorem recorded_same (s : State) (event : Event) (recorded : Recorded s)
    (connections : SameConnections s.world (NodeRuns.step s.world event))
    (bound : (step s event).bound = s.bound) : Recorded (step s event) := by
  intro id conn isBound
  rw [bound] at isBound
  exact (connections.connOf id).trans (recorded id conn isBound)

/-- A login on a free connection keeps the record. -/
theorem recorded_login (s : State) (conn : Conn) (js : Json) (faults : Faults)
    (recorded : Recorded s) (free : Free s (.request .login conn js faults)) :
    Recorded (step s (.request .login conn js faults)) := by
  have binds := (binds_login_iff s conn js faults).mpr free
  obtain ⟨after, stepped, ends⟩ := login_cases s.world conn js faults
  have rebound : step s (.request .login conn js faults) =
      ⟨after, rebind s.world after s.bound (.request .login conn js faults)⟩ := by
    rw [step, stepped]
  rw [Binds, stepped] at binds
  rw [rebound]
  rcases ends with
    ⟨unanswered, same, _⟩ | ⟨id, pwd, output, groups, named, given, _, _, letIn, answered⟩
  · intro id other isBound
    have kept : rebind s.world after s.bound (.request .login conn js faults) = s.bound := by
      simp only [rebind, unanswered, if_false]
      cases js.int "id" <;> rfl
    rw [kept] at isBound
    exact (same.connOf id).trans (recorded id other isBound)
  · intro user other isBound
    simp only [rebind, named, answered, if_true] at isBound
    by_cases own : user = id
    · subst own
      rw [Function.update_self] at isBound
      cases isBound
      exact binds user named answered
    · rw [Function.update_of_ne own] at isBound
      have kept := letIn_connOf letIn user
      rw [if_neg (fun same => own same.1)] at kept
      exact kept.trans (recorded user other isBound)

/-- A logout keeps it. -/
theorem recorded_loginOut (s : State) (conn : Conn) (js : Json) (faults : Faults)
    (recorded : Recorded s) : Recorded (step s (.request .loginOut conn js faults)) := by
  cases named : js.int "id" with
  | error exception =>
    refine recorded_same s _ recorded ?_ ?_
    · change SameConnections s.world (loginOut conn js (s.world.meet faults)).2
      rw [loginOut_malformed conn js exception _ named]
      rfl
    · simp only [step, rebind, named]
  | ok id =>
    obtain ⟨m, ended, _⟩ := loginOut_runs conn js id (s.world.meet faults) named
    intro user other isBound
    simp only [step, rebind, named] at isBound
    have left : (step s (.request .loginOut conn js faults)).world.node =
        leave id s.world.node := by
      change (loginOut conn js (s.world.meet faults)).2.node = _
      rw [ended]
      rfl
    rw [left, leave_connOf]
    by_cases own : user = id
    · subst own
      rw [Function.update_self] at isBound
      cases isBound
    · rw [Function.update_of_ne own] at isBound
      rw [if_neg own]
      exact recorded user other isBound

/-- A closed connection loses one entry of its own, and nobody is bound to it any
more. -/
theorem recorded_disconnect (s : State) (hint : Int) (conn : Conn) (faults : Faults)
    (recorded : Recorded s) : Recorded (step s (.disconnect hint conn faults)) := by
  intro user other isBound
  simp only [step, rebind] at isBound
  split at isBound
  · cases isBound
  · rename_i elsewhere
    have before := recorded user other isBound
    change (clientQuitEcption hint conn (s.world.meet faults)).2.node.connOf user = some other
    cases found : (s.world.meet faults).node.entryOf conn hint with
    | none =>
      rw [clientQuit_unmapped conn hint _ found]
      exact before
    | some id =>
      have own : s.world.node.connOf id = some conn :=
        connOf_of_entryOf _ conn hint id found
      have distinct : user ≠ id := by
        rintro rfl
        rw [before] at own
        cases own
        exact elsewhere isBound
      rw [clientQuit_removes conn hint id (s.world.meet faults) found, if_neg distinct]
      exact before

/-- A free step keeps whoever is bound recorded. -/
theorem recorded_step (s : State) (event : Event) (recorded : Recorded s) (free : Free s event) :
    Recorded (step s event) := by
  cases event with
  | request request conn js faults =>
    by_cases login : request = .login
    · subst login
      exact recorded_login s conn js faults recorded free
    · by_cases logout : request = .loginOut
      · subst logout
        exact recorded_loginOut s conn js faults recorded
      · have same := request_connections request conn js (s.world.meet faults) login logout
        refine recorded_same s _ recorded same ?_
        cases request with
        | login => exact absurd rfl login
        | loginOut => exact absurd rfl logout
        | _ => rfl
  | disconnect hint conn faults => exact recorded_disconnect s hint conn faults recorded
  | inbox js faults =>
    exact recorded_same s _ recorded (inbox_connections js (s.world.meet faults)) rfl
  | listen subscriber => exact recorded
  | surroundings database store => exact recorded
  | pass duration => exact recorded

/-- While whoever is bound is recorded, an event binds exactly when it is free. -/
theorem binds_event_iff (s : State) (event : Event) (recorded : Recorded s) :
    Binds s event ↔ Free s event := by
  cases event with
  | request request conn js faults =>
    cases request with
    | login => exact binds_login_iff s conn js faults
    | oneChat => exact iff_of_true (binds_oneChat s conn js faults recorded) trivial
    | _ => exact Iff.rfl
  | _ => exact Iff.rfl

/-- Whatever world a run begins in, every successful login is recorded under its own
connection and every later message to its user goes there, if and only if every
login that is let in finds its user without an entry or with one of its own. -/
theorem binds_iff_free (w : World) (events : List Event) :
    Runs.Guarded step Binds (begin w) events ↔ Runs.Guarded step Free (begin w) events :=
  Runs.guarded_iff step Recorded Binds Free binds_event_iff recorded_step (begin w) events
    (fun _ _ bound => by cases bound)

/-- A database with one account. -/
def oneAccount : Database :=
  { Database.empty with user := [⟨1, "a", "a", "offline"⟩], nextUserId := 2 }

/-- The user logs in, the presence record expires, and the user logs in again on
another connection: the answer is errno 0 and the entry still the first one. -/
theorem binds_expired : ¬ ∀ w events, Runs.Guarded step Binds (begin w) events := by
  intro bound
  have run := bound (World.start "node-1" oneAccount Redis.empty)
    [.request .login ⟨"c"⟩ (loginRequest 1 "a") {}, .pass 120000,
      .request .login ⟨"d"⟩ (loginRequest 1 "a") {}]
  have recorded := run.2.2.1 1 rfl (by decide)
  exact absurd recorded (by decide)

end ClusterChat.Binding
