import ClusterChat.Disconnect
import Mathlib.Data.List.Sigma

/-!
# The two ends of a session

A user leaves a node by a logout or because the connection closes. `loginOut` is
told the user and erases the entry by its key; `clientQuitEcption` searches the map
for the connection. From there on each does the same: the presence record loses
its fields, the user leaves every member set, and for each set that is then empty
the channel of the group is given up, which appends a task when the channel is
recorded.

Where the closed connection holds exactly one user, of an id other than -1, the two
handlers therefore end in one world. `Ended` says what that world is, part by
part. A set that was empty before the session ended counts as empty afterwards, so
its channel is given up again.

The logout is not bound to the connection it arrives on, and nothing is said about
connections that hold several users: `clientQuitEcption` ends one session only.
-/

namespace ClusterChat

namespace Subscriber

/-- Giving up the channels of some entries of a map appends one task for each that
is recorded. -/
theorem unsubscribe_entries (given : OrderedSet Int → Bool)
    (entries : List (Sigma fun _ : Int => OrderedSet Int)) (s : Subscriber) :
    entries.foldl (fun s entry => if given entry.2 then s.unsubscribeGroupChannel entry.1
      else s) s =
    { s with subTasks := s.subTasks ++ ((entries.filter fun entry =>
        given entry.2 && decide (entry.1 ∈ s.subGroupSet)).map Sigma.fst).map .unsubscribe } := by
  induction entries generalizing s with
  | nil => simp
  | cons entry rest inductionHypothesis =>
    rw [List.foldl_cons]
    by_cases empty : given entry.2 = true
    · by_cases recorded : entry.1 ∈ s.subGroupSet
      · rw [if_pos empty, unsubscribeGroupChannel, if_neg (not_not.mpr recorded),
          inductionHypothesis]
        simp [empty, recorded]
      · rw [if_pos empty, unsubscribeGroupChannel, if_pos recorded, inductionHypothesis]
        simp [recorded]
    · rw [if_neg empty, inductionHypothesis]
      simp [empty]

end Subscriber

namespace SessionEnd

open ChatService NodeRuns

/-- The group has a member set, and it is empty. -/
def Emptied (node : Node) (groupid : Int) : Prop :=
  node.Cached groupid ∧ ∀ member, member ∉ node.members groupid

/-- The set of such a group is found and has no element. -/
theorem emptied_iff (node : Node) (groupid : Int) : Emptied node groupid ↔
    ∃ set, node.groupMembers.lookup groupid = some set ∧ set.isEmpty = true := by
  unfold Emptied Node.Cached Node.members
  rw [← AList.lookup_isSome, Option.isSome_iff_exists]
  constructor
  · rintro ⟨⟨set, found⟩, none⟩
    rw [found] at none
    exact ⟨set, found, (OrderedSet.isEmpty_iff set).mpr none⟩
  · rintro ⟨set, found, empty⟩
    refine ⟨⟨set, found⟩, ?_⟩
    rw [found]
    exact (OrderedSet.isEmpty_iff set).mp empty

/-- The tasks appended when a user leaves the groups: one for each group whose set
is then empty and whose channel is recorded. -/
theorem leaveGroups_tasks (id : Int) (node : Node) : ∃ groups : List Int, groups.Nodup ∧
    (node.leaveGroups id).subscriber = { node.subscriber with
      subTasks := node.subscriber.subTasks ++ groups.map .unsubscribe } ∧
    ∀ groupid, groupid ∈ groups ↔
      Emptied (node.leaveGroups id) groupid ∧ groupid ∈ node.subscriber.subGroupSet := by
  have appended := Subscriber.unsubscribe_entries (fun set => (set.erase id).isEmpty)
    node.groupMembers.entries node.subscriber
  refine ⟨_, ?_, appended, ?_⟩
  · have distinct : node.groupMembers.entries.keys.Nodup := node.groupMembers.nodupKeys
    exact (List.Sublist.map Sigma.fst List.filter_sublist).nodup distinct
  · intro groupid
    rw [emptied_iff]
    have lookup : (node.leaveGroups id).groupMembers.lookup groupid =
        (node.groupMembers.lookup groupid).map (fun set => set.erase id) :=
      AList.lookup_mapValues _ node.groupMembers groupid
    simp only [lookup, Option.map_eq_some_iff, List.mem_map, List.mem_filter, Bool.and_eq_true,
      decide_eq_true_eq]
    constructor
    · rintro ⟨entry, ⟨stored, empty, recorded⟩, rfl⟩
      exact ⟨⟨_, ⟨entry.2, AList.mem_lookup_iff.mpr stored, rfl⟩, empty⟩, recorded⟩
    · rintro ⟨⟨_, ⟨set, found, rfl⟩, empty⟩, recorded⟩
      exact ⟨⟨groupid, set⟩, ⟨AList.mem_lookup_iff.mp found, empty, recorded⟩, rfl⟩

/-- What the end of a session makes of a world whose Redis answers. -/
structure Ended (id : Int) (before after : World) : Prop where
  unmapped : after.node.connOf id = none
  connections : ∀ other, other ≠ id → after.node.connOf other = before.node.connOf other
  offline : ∀ field ∈ ["online", "node", "conn"],
    (after.redis.store.entries (.user id)).hash.lookup field = none
  presence : ∀ key, key ≠ .user id →
    after.redis.store.entries key = before.redis.store.entries key
  cached : ∀ groupid, after.node.Cached groupid ↔ before.node.Cached groupid
  members : ∀ groupid member, member ∈ after.node.members groupid ↔
    member ≠ id ∧ member ∈ before.node.members groupid
  tasks : ∃ groups : List Int, groups.Nodup ∧
    after.node.subscriber = { before.node.subscriber with
      subTasks := before.node.subscriber.subTasks ++ groups.map .unsubscribe } ∧
    ∀ groupid, groupid ∈ groups ↔
      Emptied after.node groupid ∧ groupid ∈ before.node.subscriber.subGroupSet

/-- The three fields of presence are gone when the commands take effect. -/
theorem setUserOffline_fields (store : Redis) (id : Int) (field : String)
    (presence : field ∈ ["online", "node", "conn"]) :
    ((((RedisAccess.reliable store).run (RedisClient.setUserOffline id)).2.store.entries
      (.user id)).hash.lookup field) = none := by
  have executed : ((RedisAccess.reliable store).run (RedisClient.setUserOffline id)).2.store =
      (((store.execute (.user id) (.hdel "online")).2.execute (.user id) (.hdel "conn")).2.execute
        (.user id) (.hdel "node")).2 := rfl
  rw [executed]
  simp only [Redis.execute, KeyCommand.execute, if_true, settle_lookup]
  simp only [List.mem_cons, List.not_mem_nil, or_false] at presence
  rcases presence with rfl | rfl | rfl
  · rw [AList.lookup_erase_ne (by decide), settle_lookup, AList.lookup_erase_ne (by decide),
      settle_lookup, AList.lookup_erase]
  · rw [AList.lookup_erase]
  · rw [AList.lookup_erase_ne (by decide), settle_lookup, AList.lookup_erase]

/-- The end of a session over a Redis that answers. -/
theorem ended_leave (id : Int) (w : World) (reliable : w.redis.Reliable) :
    Ended id w { w with
      node := leave id w.node
      redis := (w.redis.run (RedisClient.setUserOffline id)).2 } := by
  have kept := RedisAccess.kept_run _ _ (RedisClient.setUserOffline_writes id) w.redis
  refine ⟨?_, ?_, ?_, fun key other => kept.entries key other, ?_, ?_, ?_⟩
  · exact (leave_connOf id id w.node).trans (if_pos rfl)
  · intro other different
    exact (leave_connOf id other w.node).trans (if_neg different)
  · intro field presence
    have fields := setUserOffline_fields w.redis.store id field presence
    rw [← (RedisAccess.reliable_iff w.redis).mp reliable] at fields
    exact fields
  · exact fun groupid => Node.cached_leaveGroups (w.node.forget id) groupid id
  · exact fun groupid member => Node.mem_leaveGroups (w.node.forget id) groupid id member
  · exact leaveGroups_tasks id (w.node.forget id)

/-- A logout is the end of the session of the user it names. -/
theorem loginOut_ended (conn : Conn) (js : Json) (id : Int) (w : World)
    (named : js.int "id" = .ok id) : loginOut conn js w = (.ok (), { w with
      node := leave id w.node
      redis := (w.redis.run (RedisClient.setUserOffline id)).2 }) := by
  rw [loginOut, named]
  rfl

/-- The search stops at the only entry of the connection, in whatever order it
goes. -/
theorem entryOf_sole (node : Node) (conn : Conn) (hint id : Int)
    (sole : ∀ other, node.connOf other = some conn ↔ other = id) :
    node.entryOf conn hint = some id := by
  cases found : node.entryOf conn hint with
  | none => exact absurd ((sole id).mpr rfl) (Disconnect.entryOf_none node conn hint found id)
  | some other =>
    have held : node.connOf other = some conn := connOf_of_entryOf node conn hint other found
    rw [(sole other).mp held]

/-- A logout of the only user of a connection and the closing of that connection end
in one world, and where Redis answers it is the world the session is ended in. -/
theorem loginOut_clientQuit (w : World) (conn requester : Conn) (hint id : Int) (js : Json)
    (sole : ∀ other, w.node.connOf other = some conn ↔ other = id) (mapped : id ≠ -1)
    (named : js.int "id" = .ok id) :
    loginOut requester js w = clientQuitEcption hint conn w ∧
      (w.redis.Reliable → Ended id w (loginOut requester js w).2) := by
  have logout := loginOut_ended requester js id w named
  have quit := clientQuit_ended conn hint id w (entryOf_sole w.node conn hint id sole) mapped
  constructor
  · rw [logout, quit]
  · intro reliable
    rw [logout]
    exact ended_leave id w reliable

/-- One user on a connection, the only member of the recorded group 5. -/
def oneSession : World :=
  { World.start "node-1" Database.empty Redis.empty with
    node := { Node.fresh "node-1" with
      userConnMap := (∅ : AList fun _ : Int => Conn).insert 7 ⟨"c"⟩
      groupMembers :=
        (∅ : AList fun _ : Int => OrderedSet Int).insert 5 ((∅ : OrderedSet Int).insert 7)
      subscriber := { subGroupSet := (∅ : OrderedSet Int).insert 5 } } }

/-- User 7 is the only one on the connection. -/
theorem oneSession_sole (other : Int) : oneSession.node.connOf other = some ⟨"c"⟩ ↔ other = 7 := by
  by_cases own : other = 7
  · subst own
    exact iff_of_true rfl rfl
  · refine iff_of_false ?_ own
    have missing : oneSession.node.connOf other = none := by
      change AList.lookup other ((∅ : AList fun _ : Int => Conn).insert 7 ⟨"c"⟩) = none
      rw [AList.lookup_insert_ne own, AList.lookup_empty]
    rw [missing]
    exact Option.some_ne_none _ ∘ Eq.symm

/-- Both ways out of the session append the task for group 5. -/
theorem loginOut_clientQuit_one :
    loginOut ⟨"c"⟩ (.object [("id", .integer 7)]) oneSession =
        clientQuitEcption 7 ⟨"c"⟩ oneSession ∧
      Ended 7 oneSession (loginOut ⟨"c"⟩ (.object [("id", .integer 7)]) oneSession).2 :=
  have ended := loginOut_clientQuit oneSession ⟨"c"⟩ ⟨"c"⟩ 7 7 (.object [("id", .integer 7)])
    oneSession_sole (by decide) (by decide)
  ⟨ended.1, ended.2 ⟨rfl, rfl⟩⟩

end SessionEnd

end ClusterChat
