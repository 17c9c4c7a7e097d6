import ClusterChat.Library.Runs
import ClusterChat.ServiceRuns

/-!
# Completeness of the group member cache

The cache of a node should list, for every group it has an entry for, the
connected users of the node that belong to the group. Four handlers write
entries. A login means to add its user to the entry of each of the user's
groups, but it looks for the user in the member lists `queryGroups` was to fill,
which are empty. A request to join a group, and the first message to a group
without an entry, create an entry that says nothing of the other connected
members, or of the sender.

`complete_iff_careful` states for whole runs which steps keep the cache complete:
a login must find its user in the entries of all the user's groups already, a
request to join must find an entry or no other connected member, and a message
must find an entry, or no other member, or a sender who is not a connected member.
The end of a session and the creation of a group always keep it.

The database is undisturbed and keeps its keys. Redis may fail in any way.
-/

namespace ClusterChat.GroupCache

open ChatService

/-- The requests and callbacks that concern groups and sessions. -/
inductive Event where
  | login (conn : Conn) (js : Json)
  | loginOut (conn : Conn) (js : Json)
  | disconnect (hint : Int) (conn : Conn)
  | createGroup (conn : Conn) (js : Json)
  | joinGroup (conn : Conn) (js : Json)
  | groupChat (conn : Conn) (js : Json)

/-- The handler of the event. -/
def Event.handler : Event → Handler Unit
  | .login conn js => ChatService.login conn js
  | .loginOut conn js => ChatService.loginOut conn js
  | .disconnect hint conn => clientQuitEcption hint conn
  | .createGroup conn js => ChatService.createGroup conn js
  | .joinGroup conn js => ChatService.joinGroup conn js
  | .groupChat conn js => ChatService.groupChat conn js

/-- The world after the event, however its handler ends. -/
def step (w : World) (event : Event) : World := (event.handler w).2

/-- The `GroupUser` table has a row of this group and user. -/
def Belongs (w : World) (groupid id : Int) : Prop := w.mysql.database.hasMember groupid id = true

instance (w : World) (groupid id : Int) : Decidable (Belongs w groupid id) :=
  inferInstanceAs (Decidable (_ = true))

/-- Every connected user is in the entry, if there is one, of every group the
user belongs to. -/
def Complete (w : World) : Prop :=
  ∀ id groupid, w.node.Connected id → w.node.Cached groupid → Belongs w groupid id →
    id ∈ w.node.members groupid

/-- The database answers undisturbed and keeps its keys. -/
structure Served (w : World) : Prop where
  undisturbed : w.mysql.Undisturbed
  keys : w.mysql.database.Keys

/-- The step does not create an entry that lacks a connected member, and does
not connect a member that an entry lacks. -/
def Careful (w : World) : Event → Prop
  | .login _ js => ∀ id pwd, js.int "id" = .ok id → js.str "password" = .ok pwd →
      Matches w id pwd → ¬ SeenOnline w id →
      ∀ groupid, Belongs w groupid id → id ∈ w.node.members groupid
  | .joinGroup _ js => ∀ userid groupid, js.int "id" = .ok userid → js.int "groupid" = .ok groupid →
      w.node.Cached groupid ∨
        ∀ id, w.node.Connected id → Belongs w groupid id → id = userid
  | .groupChat _ js => emptyMessage js = .ok false →
      ∀ userid groupid, js.int "id" = .ok userid → js.int "groupid" = .ok groupid →
        w.node.Cached groupid ∨ (∀ id, Belongs w groupid id → id = userid) ∨
          ¬ (w.node.Connected userid ∧ Belongs w groupid userid)
  | .loginOut _ _ | .disconnect _ _ | .createGroup _ _ => True

/-- With the same tables, completeness depends on the maps alone. -/
theorem belongs_congr {before after : World}
    (tables : after.mysql.database = before.mysql.database) (groupid id : Int) :
    Belongs after groupid id ↔ Belongs before groupid id := by
  rw [Belongs, Belongs, tables]

/-- The groups a login finds are those the user belongs to. -/
theorem mem_groupsOf (w : World) (id groupid : Int) (groups : List Group) (served : Served w)
    (found : GroupsOf id w.mysql groups) :
    groupid ∈ groups.map Group.id ↔ Belongs w groupid id := by
  rw [found.2 served.undisturbed, Belongs, Database.hasMember_iff]
  change groupid ∈ (((w.mysql.database.groupUser.filter (fun row => row.userid = id)).flatMap
    (fun row => w.mysql.database.allGroup.filter (fun group => group.id = row.groupid))).map
      GroupModel.ofRow).map Group.id ↔ _
  rw [List.map_map]
  simp only [List.mem_map, List.mem_flatMap, List.mem_filter, decide_eq_true_eq]
  constructor
  · rintro ⟨group, ⟨row, ⟨stored, owner⟩, _, same⟩, named⟩
    exact ⟨row, stored, same.symm.trans named, owner⟩
  · rintro ⟨row, stored, sameGroup, owner⟩
    obtain ⟨group, exists_, named⟩ :=
      (Database.hasGroup_iff _ _).mp (served.keys.memberGroups row stored)
    exact ⟨group, ⟨row, ⟨stored, owner⟩, exists_, named⟩, named.trans sameGroup⟩

/-- A login that is let in keeps the cache complete exactly when its user is
already in the entries of all the user's groups. -/
theorem complete_letIn (w after : World) (conn : Conn) (id : Int) (output : Output)
    (groups : List Group) (served : Served w) (complete : Complete w)
    (letIn : LetIn conn id w output groups after) :
    Complete after ↔ ∀ groupid, Belongs w groupid id → id ∈ w.node.members groupid := by
  obtain ⟨connections, members, cached⟩ :=
    enterGroups_memberless id groups (w.node.record id conn) letIn.found.1
  have belongs := fun groupid id => belongs_congr letIn.mysql.database groupid id
  have connected (other : Int) : after.node.Connected other ↔
      other = id ∨ w.node.Connected other := by
    rw [letIn.node, Node.Connected, connections]
    exact Node.connected_record w.node id other conn
  have sameMembers (groupid : Int) : after.node.members groupid = w.node.members groupid := by
    rw [letIn.node, members groupid, Node.members, Node.members, Node.groupMembers_record]
  have cachedAfter (groupid : Int) : after.node.Cached groupid ↔
      Belongs w groupid id ∨ w.node.Cached groupid := by
    rw [letIn.node, cached groupid, mem_groupsOf w id groupid groups served letIn.found,
      Node.Cached, Node.Cached, Node.groupMembers_record]
  constructor
  · intro completeAfter groupid member
    rw [← sameMembers groupid]
    exact completeAfter id groupid ((connected id).mpr (Or.inl rfl))
      ((cachedAfter groupid).mpr (Or.inl member)) ((belongs groupid id).mpr member)
  · intro already other groupid isConnected isCached member
    rw [belongs] at member
    rw [sameMembers]
    rcases (connected other).mp isConnected with rfl | wasConnected
    · exact already groupid member
    · rcases (cachedAfter groupid).mp isCached with owned | wasCached
      · have entry := Node.cached_of_mem w.node groupid id (already groupid owned)
        exact complete other groupid wasConnected entry member
      · exact complete other groupid wasConnected wasCached member

/-- The end of a session takes its user out of the map and of every entry. -/
theorem complete_leave (w after : World) (id : Int) (complete : Complete w)
    (node : after.node = leave id w.node) (tables : after.mysql.database = w.mysql.database) :
    Complete after := by
  intro other groupid isConnected isCached member
  rw [node] at isConnected isCached ⊢
  have remains : other ≠ id ∧ w.node.Connected other :=
    (Node.connected_forget w.node id other).mp isConnected
  have entry : w.node.Cached groupid := (Node.cached_leaveGroups _ groupid id).mp isCached
  exact (Node.mem_leaveGroups _ groupid id other).mpr ⟨remains.1,
    complete other groupid remains.2 entry ((belongs_congr tables groupid other).mp member)⟩

/-- Taking a user out of the map alone keeps the cache complete. -/
theorem complete_forget (w after : World) (id : Int) (complete : Complete w)
    (node : after.node = w.node.forget id) (tables : after.mysql.database = w.mysql.database) :
    Complete after := by
  intro other groupid isConnected isCached member
  rw [node] at isConnected isCached ⊢
  have remains : other ≠ id ∧ w.node.Connected other :=
    (Node.connected_forget w.node id other).mp isConnected
  exact complete other groupid remains.2 isCached ((belongs_congr tables groupid other).mp member)

/-- Inserting a membership row adds at most that membership. -/
theorem hasMember_apply (db : Database) (groupid userid : Int) (role : String) (other id : Int) :
    (db.apply 0 (.insertGroupUser groupid userid role)).hasMember other id = true →
      db.hasMember other id = true ∨ (other = groupid ∧ id = userid) := by
  unfold Database.apply
  simp only [Database.update]
  split_ifs with rejected
  · exact Or.inl
  · simp only [Database.hasMember, List.any_append, Bool.or_eq_true]
    rintro (old | new)
    · exact Or.inl old
    · right
      have same : groupid = other ∧ userid = id := by simpa using new
      exact ⟨same.1.symm, same.2.symm⟩

/-- Inserting a membership row removes none. -/
theorem hasMember_apply_of_old (db : Database) (groupid userid : Int) (role : String)
    (other id : Int) (old : db.hasMember other id = true) :
    (db.apply 0 (.insertGroupUser groupid userid role)).hasMember other id = true := by
  unfold Database.apply
  simp only [Database.update]
  split_ifs with rejected
  · exact old
  · simp only [Database.hasMember, List.any_append, Bool.or_eq_true] at old ⊢
    exact Or.inl old

/-- A membership request keeps the cache complete exactly when it finds an entry
of the group or no other connected member. -/
theorem complete_join (w after : World) (groupid userid : Int) (complete : Complete w)
    (node : after.node = join groupid userid w.node)
    (grown : ∀ other id, Belongs after other id →
      Belongs w other id ∨ (other = groupid ∧ id = userid))
    (kept : ∀ other id, Belongs w other id → Belongs after other id) :
    Complete after ↔ w.node.Cached groupid ∨
      ∀ id, w.node.Connected id → Belongs w groupid id → id = userid := by
  have cached (other : Int) : after.node.Cached other ↔ other = groupid ∨ w.node.Cached other := by
    rw [node]
    exact Node.cached_addMember w.node groupid other userid
  have members (other id : Int) : id ∈ after.node.members other ↔
      (other = groupid ∧ id = userid) ∨ id ∈ w.node.members other := by
    rw [node]
    exact Node.mem_addMember w.node groupid other userid id
  have connected (id : Int) : after.node.Connected id ↔ w.node.Connected id := by
    rw [node]
    exact Iff.rfl
  constructor
  · intro completeAfter
    by_cases entry : w.node.Cached groupid
    · exact Or.inl entry
    · right
      intro id isConnected member
      have listed := completeAfter id groupid ((connected id).mpr isConnected)
        ((cached groupid).mpr (Or.inl rfl)) (kept groupid id member)
      rcases (members groupid id).mp listed with ⟨_, same⟩ | old
      · exact same
      · exact absurd (Node.cached_of_mem w.node groupid id old) entry
  · intro careful id other isConnected isCached member
    rw [members]
    rcases grown other id member with old | new
    · rcases (cached other).mp isCached with rfl | entry
      · rcases careful with entry | alone
        · exact Or.inr (complete id other ((connected id).mp isConnected) entry old)
        · exact Or.inl ⟨rfl, alone id ((connected id).mp isConnected) old⟩
      · exact Or.inr (complete id other ((connected id).mp isConnected) entry old)
    · exact Or.inl new

/-- The group a request creates, or the group -1 of a failed creation, has no
member yet. -/
theorem createdGroup_vacant (db : Database) (keys : db.Keys) (groupname groupdesc : String)
    (id : Int) :
    db.hasMember (createdGroup db groupname groupdesc).1 id = false ∧
      (createdGroup db groupname groupdesc).2.groupUser = db.groupUser ∧
      (createdGroup db groupname groupdesc).2.Keys := by
  have vacant (groupid : Int) (absent : ∀ row ∈ db.allGroup, row.id ≠ groupid) :
      db.hasMember groupid id = false := by
    by_contra present
    obtain ⟨row, stored, same, _⟩ := (Database.hasMember_iff _ _ _).mp (by simpa using present)
    obtain ⟨group, exists_, named⟩ := (Database.hasGroup_iff _ _).mp (keys.memberGroups row stored)
    exact absent group exists_ (named.trans same)
  unfold createdGroup
  cases accepted : db.update 0 (.insertAllGroup groupname groupdesc) with
  | ok next =>
    refine ⟨vacant _ fun row stored => ne_of_lt (keys.freshGroup row stored), ?_,
      keys.update 0 _ accepted⟩
    simp only [Database.update] at accepted
    split at accepted
    · cases accepted
    · cases accepted
      rfl
  | error exception =>
    refine ⟨vacant _ fun row stored same => ?_, rfl, keys⟩
    have positive : 0 < row.id := keys.positiveGroup.2 row stored
    have negative : row.id = -1 := same
    omega

/-- The members loaded for a message are the others, so the entry lacks a sender
who is a connected member. -/
theorem complete_load (w after : World) (groupid userid : Int) (users : List Int)
    (complete : Complete w) (fresh : ¬ w.node.Cached groupid)
    (others : ∀ id, id ∈ users ↔ Belongs w groupid id ∧ id ≠ userid)
    (node : after.node = load groupid users w.node)
    (tables : after.mysql.database = w.mysql.database) :
    Complete after ↔ (∀ id, Belongs w groupid id → id = userid) ∨
      ¬ (w.node.Connected userid ∧ Belongs w groupid userid) := by
  have cached (other : Int) : after.node.Cached other ↔
      (other = groupid ∧ users ≠ []) ∨ w.node.Cached other := by
    rw [node]
    exact Node.cached_addMembers users groupid other w.node
  have members (other id : Int) : id ∈ after.node.members other ↔
      (other = groupid ∧ id ∈ users) ∨ id ∈ w.node.members other := by
    rw [node]
    exact Node.mem_addMembers users groupid other id w.node
  have connected (id : Int) : after.node.Connected id ↔ w.node.Connected id := by
    rw [node, Node.Connected, Node.Connected, ← (Node.addMembers_frame users groupid w.node).1]
    rfl
  have belongs := fun other id => belongs_congr tables other id
  constructor
  · intro completeAfter
    by_cases alone : ∀ id, Belongs w groupid id → id = userid
    · exact Or.inl alone
    · right
      rintro ⟨isConnected, member⟩
      obtain ⟨id, other⟩ := not_forall.mp alone
      have loaded : id ∈ users := (others id).mpr (Classical.not_imp.mp other)
      have listed := completeAfter userid groupid ((connected userid).mpr isConnected)
        ((cached groupid).mpr (Or.inl ⟨rfl, List.ne_nil_of_mem loaded⟩))
        ((belongs groupid userid).mpr member)
      rcases (members groupid userid).mp listed with ⟨_, sender⟩ | old
      · exact ((others userid).mp sender).2 rfl
      · exact fresh (Node.cached_of_mem w.node groupid userid old)
  · intro careful id other isConnected isCached member
    rw [members]
    rw [belongs] at member
    rw [connected] at isConnected
    rcases (cached other).mp isCached with ⟨rfl, nonempty⟩ | entry
    · obtain ⟨loaded, inUsers⟩ := List.exists_mem_of_ne_nil users nonempty
      have another := (others loaded).mp inUsers
      rcases careful with alone | outsider
      · exact absurd (alone loaded another.1) another.2
      · refine Or.inl ⟨rfl, (others id).mpr ⟨member, ?_⟩⟩
        rintro rfl
        exact outsider ⟨isConnected, member⟩
    · exact Or.inr (complete id other isConnected entry member)

/-!
## The steps
-/

/-- Reading statements leave the database served. -/
theorem served_kept (w after : World) (served : Served w)
    (kept : Access.Kept w.mysql after.mysql) : Served after :=
  ⟨kept.undisturbed served.undisturbed, kept.database ▸ served.keys⟩

/-- A step keeps the database served, and the cache complete exactly when it is
careful. -/
def Sound (w : World) (event : Event) : Prop :=
  Served (step w event) ∧ (Complete w → (Complete (step w event) ↔ Careful w event))

/-- A step that changes nothing is careful in name only. -/
theorem sound_unchanged (w : World) (event : Event) (served : Served w)
    (same : step w event = w) (careful : Careful w event) : Sound w event := by
  rw [Sound, same]
  exact ⟨served, fun complete => iff_of_true complete careful⟩

/-- A login keeps the cache right if it is careful. -/
theorem sound_login (w : World) (conn : Conn) (js : Json) (served : Served w) :
    Sound w (.login conn js) := by
  obtain ⟨result, ended, ends⟩ := login_ends conn js w
  have reached : step w (.login conn js) = result.2 := congrArg Prod.snd ended
  cases ends with
  | malformed escape unread =>
    exact sound_unchanged w _ served reached
      (fun id pwd named given _ _ => absurd given (unread id pwd named))
  | refused id pwd output mysql m named given seen rejected tables entries =>
    rw [Sound, reached]
    refine ⟨served_kept w _ served tables, fun complete => iff_of_true ?_ ?_⟩
    · intro other groupid isConnected isCached member
      exact complete other groupid isConnected isCached
        ((belongs_congr tables.database groupid other).mp member)
    · exact (Json.forall_given named given).mpr
        (fun account absent => absurd (seen account) absent)
  | admitted id pwd output groups after named given account absent letIn =>
    rw [Sound, reached]
    refine ⟨served_kept w after served letIn.mysql, fun complete => ?_⟩
    rw [complete_letIn w after conn id output groups served complete letIn]
    refine Iff.trans ?_ (Json.forall_given named given).symm
    exact ⟨fun already _ _ => already, fun already => already account absent⟩

/-- A logout keeps it right. -/
theorem sound_loginOut (w : World) (conn : Conn) (js : Json) (served : Served w) :
    Sound w (.loginOut conn js) := by
  rcases loginOut_ends conn js w with ⟨outcome, ended⟩ | ⟨id, m, _, ended, _⟩
  · exact sound_unchanged w _ served (congrArg Prod.snd ended) trivial
  · have after : step w (.loginOut conn js) = { w with node := leave id w.node, redis := m } :=
      congrArg Prod.snd ended
    rw [Sound, after]
    exact ⟨⟨served.undisturbed, served.keys⟩,
      fun complete => iff_of_true (complete_leave w _ id complete rfl rfl) trivial⟩

/-- A closed connection keeps it right. -/
theorem sound_disconnect (w : World) (hint : Int) (conn : Conn) (served : Served w) :
    Sound w (.disconnect hint conn) := by
  rcases clientQuit_ends conn hint w with ended | ended | ⟨id, m, ended, _⟩
  · exact sound_unchanged w _ served (congrArg Prod.snd ended) trivial
  · have after : step w (.disconnect hint conn) = { w with node := w.node.forget (-1) } :=
      congrArg Prod.snd ended
    rw [Sound, after]
    exact ⟨⟨served.undisturbed, served.keys⟩,
      fun complete => iff_of_true (complete_forget w _ (-1) complete rfl rfl) trivial⟩
  · have after : step w (.disconnect hint conn) =
        { w with node := leave id w.node, redis := m } := congrArg Prod.snd ended
    rw [Sound, after]
    exact ⟨⟨served.undisturbed, served.keys⟩,
      fun complete => iff_of_true (complete_leave w _ id complete rfl rfl) trivial⟩

/-- A creation keeps it right. -/
theorem sound_createGroup (w : World) (conn : Conn) (js : Json) (served : Served w) :
    Sound w (.createGroup conn js) := by
  rcases Json.given_three_or_malformed (js.int "id") (js.str "groupname") (js.str "groupdesc") with
    ⟨userid, groupname, groupdesc, named, titled, described⟩ | malformed
  · obtain ⟨m, ended, _⟩ := createGroup_runs conn js userid groupname groupdesc w named titled
      described served.undisturbed
    have after := congrArg Prod.snd ended
    simp only at after
    have vacant (id : Int) :=
      createdGroup_vacant w.mysql.database served.keys groupname groupdesc id
    have sameRows (groupid id : Int) :
        (createdGroup w.mysql.database groupname groupdesc).2.hasMember groupid id =
          w.mysql.database.hasMember groupid id := by
      rw [Database.hasMember, (vacant 0).2.1]
      rfl
    rw [Sound, step, Event.handler, after]
    refine ⟨⟨⟨rfl, rfl⟩, (vacant 0).2.2.apply 0 _⟩, fun complete => ?_⟩
    rw [complete_join w _ _ userid complete rfl]
    · refine iff_of_true (Or.inr ?_) trivial
      intro id _ member
      exact absurd member (by rw [Belongs, (vacant id).1]; exact Bool.false_ne_true)
    · intro other id member
      rcases hasMember_apply _ _ _ _ other id member with old | new
      · exact Or.inl ((sameRows other id).symm.trans old)
      · exact Or.inr new
    · intro other id member
      exact hasMember_apply_of_old _ _ _ _ other id ((sameRows other id).trans member)
  · obtain ⟨outcome, ended⟩ := createGroup_malformed conn js w malformed
    exact sound_unchanged w _ served (congrArg Prod.snd ended) trivial

/-- A join keeps it right if it is careful. -/
theorem sound_joinGroup (w : World) (conn : Conn) (js : Json) (served : Served w) :
    Sound w (.joinGroup conn js) := by
  rcases Json.given_or_malformed (js.int "id") (js.int "groupid") with
    ⟨userid, groupid, named, grouped⟩ | malformed
  · obtain ⟨m, ended, _⟩ := joinGroup_runs conn js userid groupid w named grouped served.undisturbed
    have after := congrArg Prod.snd ended
    have careful_iff : Careful w (.joinGroup conn js) ↔ (w.node.Cached groupid ∨
        ∀ id, w.node.Connected id → Belongs w groupid id → id = userid) :=
      Json.forall_given named grouped
    rw [Sound, careful_iff, step, Event.handler, after]
    refine ⟨⟨⟨rfl, rfl⟩, served.keys.apply 0 _⟩, fun complete => ?_⟩
    exact complete_join w _ groupid userid complete rfl
      (fun other id => hasMember_apply _ _ _ _ other id)
      (fun other id => hasMember_apply_of_old _ _ _ _ other id)
  · obtain ⟨outcome, ended⟩ := joinGroup_malformed conn js w malformed
    exact sound_unchanged w _ served (congrArg Prod.snd ended)
      (fun userid groupid named grouped => absurd grouped (malformed userid groupid named))

/-- The fallback reads the other members. -/
theorem mem_otherUsers (w : World) (served : Served w) (groupid userid id : Int) :
    id ∈ (w.mysql.run (GroupModel.queryGroupUsers userid groupid)).1 ↔
      Belongs w groupid id ∧ id ≠ userid := by
  rw [(Access.undisturbed_iff _).mp served.undisturbed, GroupModel.queryGroupUsers_undisturbed,
    Belongs, Database.hasMember_iff]
  change id ∈ (w.mysql.database.groupUser.filter
    (fun row => row.groupid = groupid ∧ row.userid ≠ userid)).map (fun row => row.userid) ↔ _
  simp only [List.mem_map, List.mem_filter, decide_eq_true_eq]
  constructor
  · rintro ⟨row, ⟨stored, sameGroup, another⟩, rfl⟩
    exact ⟨⟨row, stored, sameGroup, rfl⟩, another⟩
  · rintro ⟨⟨row, stored, sameGroup, rfl⟩, another⟩
    exact ⟨row, ⟨stored, sameGroup, another⟩, rfl⟩

/-- A group message keeps it right if it is careful. -/
theorem sound_groupChat (w : World) (conn : Conn) (js : Json) (served : Served w) :
    Sound w (.groupChat conn js) := by
  by_cases spoken : emptyMessage js = .ok false
  · rcases Json.given_or_malformed (js.int "id") (js.int "groupid") with
      ⟨userid, groupid, named, grouped⟩ | malformed
    · obtain ⟨mysql, ended, kept⟩ := groupChat_runs conn js userid groupid w spoken named grouped
      have after := congrArg Prod.snd ended
      have careful_iff : Careful w (.groupChat conn js) ↔ (w.node.Cached groupid ∨
          (∀ id, Belongs w groupid id → id = userid) ∨
            ¬ (w.node.Connected userid ∧ Belongs w groupid userid)) :=
        (forall_prop_of_true spoken).trans (Json.forall_given named grouped)
      rw [Sound, careful_iff, step, Event.handler, after]
      refine ⟨served_kept w _ served kept, fun complete => ?_⟩
      by_cases cached : w.node.Cached groupid
      · refine iff_of_true ?_ (Or.inl cached)
        intro id other isConnected isCached member
        simp only [if_pos cached] at isConnected isCached ⊢
        exact complete id other isConnected isCached
          ((belongs_congr kept.database other id).mp member)
      · rw [or_iff_right cached]
        exact complete_load w _ groupid userid _ complete cached
          (mem_otherUsers w served groupid userid) (if_neg cached) kept.database
    · obtain ⟨outcome, ended⟩ := groupChat_malformed conn js w malformed
      exact sound_unchanged w _ served (congrArg Prod.snd ended)
        (fun _ userid groupid named grouped => absurd grouped (malformed userid groupid named))
  · obtain ⟨outcome, ended⟩ := groupChat_silent conn js w spoken
    exact sound_unchanged w _ served (congrArg Prod.snd ended)
      (fun nonempty => absurd nonempty spoken)

/-- Every event is sound in this sense. -/
theorem sound_step (w : World) (event : Event) (served : Served w) : Sound w event := by
  cases event with
  | login conn js => exact sound_login w conn js served
  | loginOut conn js => exact sound_loginOut w conn js served
  | disconnect hint conn => exact sound_disconnect w hint conn served
  | createGroup conn js => exact sound_createGroup w conn js served
  | joinGroup conn js => exact sound_joinGroup w conn js served
  | groupChat conn js => exact sound_groupChat w conn js served

/-- In every run the cache is complete at every moment exactly when every step is
careful in the state it starts from. -/
theorem complete_iff_careful (localNodeId : String) (database : Database) (redis : RedisAccess)
    (events : List Event) (keys : database.Keys) :
    Runs.Always step Complete ⟨Node.fresh localNodeId, Access.undisturbed database, redis, []⟩
        events ↔
      Runs.Guarded step Careful ⟨Node.fresh localNodeId, Access.undisturbed database, redis, []⟩
        events := by
  refine Runs.always_iff_guarded step Complete Served Careful ?_ ?_ _ events ⟨⟨rfl, rfl⟩, keys⟩ ?_
  · exact fun w event served => (sound_step w event served).1
  · exact fun w event served complete => (sound_step w event served).2 complete
  · intro id groupid isConnected
    exact absurd isConnected (AList.notMem_empty id)

/-- Group 1 with its only member 1. -/
def club : Database :=
  { Database.empty with
    user := [⟨1, "ann", "a", "offline"⟩]
    allGroup := [⟨1, "club", ""⟩]
    groupUser := [⟨1, 1, "creator"⟩]
    nextUserId := 2
    nextGroupId := 2 }

/-- The example's tables have their keys. -/
theorem keys_club : club.Keys := by
  constructor <;> decide

/-- The login of user 1, a member of a group with nobody else in it. -/
theorem complete_iff_careful_club :
    club.Keys ∧ (Runs.Always step Complete ⟨Node.fresh "node-1", Access.undisturbed club,
        RedisAccess.reliable Redis.empty, []⟩ [.login ⟨"c"⟩ (loginRequest 1 "a")] ↔
      Runs.Guarded step Careful ⟨Node.fresh "node-1", Access.undisturbed club,
        RedisAccess.reliable Redis.empty, []⟩ [.login ⟨"c"⟩ (loginRequest 1 "a")]) :=
  ⟨keys_club, complete_iff_careful "node-1" club (RedisAccess.reliable Redis.empty)
    [.login ⟨"c"⟩ (loginRequest 1 "a")] keys_club⟩

/-- The only member logs in, and the entry of the group is empty. -/
theorem login_leaves_entry_empty : ¬ ∀ localNodeId database events, database.Keys →
    Runs.Always step Complete (World.start localNodeId database Redis.empty) events := by
  intro complete
  have final := Runs.always_end step Complete _ _
    (complete "node-1" club [.login ⟨"c"⟩ (loginRequest 1 "a")] keys_club)
  exact absurd (final 1 1 (by decide +kernel) (by decide +kernel) (by decide +kernel))
    (by decide +kernel)

end ClusterChat.GroupCache
