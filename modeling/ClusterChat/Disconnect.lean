import ClusterChat.NodeRuns

/-!
# What a closed connection leaves behind

`clientQuitEcption` looks through `userConnMap_` for an entry of the closed
connection, erases the first one it meets, and then ends that user's session: the
presence record goes, and the user leaves every member set. It does not look
further. The user it works on is a local object that starts with id -1, and an id
of -1 after the search is taken for a connection that had no entry.

Nothing in `login` keeps a connection from holding several users, or a user of id
-1. `clears_iff_sole` says exactly when nothing is left: when the connection holds
at most one user and, should that be the user of id -1, that user is offline and in
no member set already.

The order in which the map is searched is arbitrary. A run begins in any world; the
commands of the disconnect reach Redis, those of other events may fail.
-/

namespace ClusterChat.Disconnect

open ChatService NodeRuns

/-- The user is offline in Redis and absent from every member set. -/
def Gone (w : World) (id : Int) : Prop :=
  w.redis.store.online id = false ∧ ∀ groupid, id ∉ w.node.members groupid

/-- The commands of the event reach Redis. -/
def Reaches (faults : Faults) : Prop := faults.redisGrants = [] ∧ faults.redisThrows = []

/-- A closed connection has no entry afterwards, and everyone it held is gone. -/
def Clears (w : World) : Event → Prop
  | .disconnect hint conn faults => Reaches faults →
      ∀ id, (NodeRuns.step w (.disconnect hint conn faults)).node.connOf id ≠ some conn ∧
        (w.node.connOf id = some conn →
          Gone (NodeRuns.step w (.disconnect hint conn faults)) id)
  | _ => True

/-- A connection that closes holds at most one user, and the user of id -1 only if
that user is gone already. -/
def Sole (w : World) : Event → Prop
  | .disconnect _ conn faults => Reaches faults →
      (∀ id other, w.node.connOf id = some conn → w.node.connOf other = some conn → id = other) ∧
        (w.node.connOf (-1) = some conn → Gone w (-1))
  | _ => True

/-- The search finds an entry whenever there is one. -/
theorem entryOf_none (node : Node) (conn : Conn) (hint : Int)
    (missing : node.entryOf conn hint = none) (id : Int) : node.connOf id ≠ some conn := by
  intro held
  unfold Node.entryOf at missing
  split at missing
  · cases missing
  · have none := Option.map_eq_none_iff.mp missing
    rw [List.find?_eq_none] at none
    have stored : (⟨id, conn⟩ : Sigma fun _ : Int => Conn) ∈ node.userConnMap.entries :=
      AList.mem_lookup_iff.mp held
    exact none ⟨id, conn⟩ stored (by simp)

/-- A user whose session is ended is gone, and the others are as they were. -/
theorem gone_leave (w : World) (hint id : Int) (conn : Conn) (reliable : w.redis.Reliable)
    (found : w.node.entryOf conn hint = some id) (named : id ≠ -1) :
    Gone (clientQuitEcption hint conn w).2 id := by
  rw [clientQuit_ended conn hint id w found named]
  constructor
  · change (w.redis.run (RedisClient.setUserOffline id)).2.store.online id = false
    rw [RedisClient.setUserOffline_online, RedisAccess.answers_of_reliable _ reliable]
    rfl
  · intro groupid member
    exact ((Node.mem_leaveGroups (w.node.forget id) groupid id id).mp member).1 rfl

/-- Nothing is left by a closed connection exactly when it held one user at most,
other than one of id -1 who is still to be found somewhere. -/
theorem clears_event_iff (w : World) (event : Event) : Clears w event ↔ Sole w event := by
  cases event with
  | disconnect hint conn faults =>
    refine imp_congr_right fun reaches => ?_
    have reliable : (w.meet faults).redis.Reliable := reaches
    change (∀ id, (clientQuitEcption hint conn (w.meet faults)).2.node.connOf id ≠ some conn ∧
      (w.node.connOf id = some conn → Gone (clientQuitEcption hint conn (w.meet faults)).2 id)) ↔ _
    cases found : (w.meet faults).node.entryOf conn hint with
    | none =>
      have missing : ∀ id, w.node.connOf id ≠ some conn := entryOf_none w.node conn hint found
      rw [clientQuit_unmapped conn hint _ found]
      exact iff_of_true (fun id => ⟨missing id, fun held => absurd held (missing id)⟩)
        ⟨fun id _ held => absurd held (missing id), fun held => absurd held (missing (-1))⟩
    | some user =>
      have held : w.node.connOf user = some conn := connOf_of_entryOf _ conn hint user found
      have removed := clientQuit_removes conn hint user (w.meet faults) found
      constructor
      · intro clears
        have sole : ∀ id, w.node.connOf id = some conn → id = user := by
          intro id heldToo
          by_contra other
          have left := (clears id).1
          rw [removed id, if_neg other] at left
          exact left heldToo
        refine ⟨fun id other first second => (sole id first).trans (sole other second).symm, ?_⟩
        intro default
        have isUser := sole (-1) default
        subst isUser
        have gone := (clears (-1)).2 held
        rw [clientQuit_default conn hint _ found] at gone
        exact gone
      · rintro ⟨sole, default⟩ id
        constructor
        · rw [removed id]
          by_cases own : id = user
          · rw [if_pos own]
            exact Option.some_ne_none conn ∘ Eq.symm
          · rw [if_neg own]
            exact fun heldToo => own (sole id user heldToo held)
        · intro heldToo
          have isUser := sole id user heldToo held
          subst isUser
          by_cases named : id = -1
          · subst named
            rw [clientQuit_default conn hint _ found]
            exact default held
          · exact gone_leave (w.meet faults) hint id conn reliable found named
  | _ => exact Iff.rfl

/-- In a run that begins in any world, every closed connection leaves nothing behind
if and only if every connection holds at most one user when it closes, and holds
the user of id -1 only when that user is gone already. -/
theorem clears_iff_sole (w : World) (events : List Event) :
    Runs.Guarded NodeRuns.step Clears w events ↔ Runs.Guarded NodeRuns.step Sole w events :=
  Runs.guarded_iff NodeRuns.step (fun _ => True) Clears Sole
    (fun w event _ => clears_event_iff w event) (fun _ _ _ _ => trivial) w events trivial

/-- Two accounts. -/
def twoAccounts : Database :=
  { Database.empty with
    user := [⟨1, "a", "a", "offline"⟩, ⟨2, "b", "b", "offline"⟩]
    nextUserId := 3 }

/-- Two users log in on one connection, and only one of them leaves the map when it
closes. -/
theorem clears_two : ¬ ∀ w events, Runs.Guarded NodeRuns.step Clears w events := by
  intro clears
  have run := clears (World.start "node-1" twoAccounts Redis.empty)
    [.request .login ⟨"c"⟩ (loginRequest 1 "a") {}, .request .login ⟨"c"⟩ (loginRequest 2 "b") {},
      .disconnect 1 ⟨"c"⟩ {}]
  have left := (run.2.2.1 ⟨rfl, rfl⟩ 2).1
  exact left (by decide)

end ClusterChat.Disconnect
