import ClusterChat.GroupCache
import ClusterChat.LoginReply

/-!
# The members of the groups of a user

`GroupModel::queryGroups` selects the groups of a user, then selects the members of
each and sets them on it. The second loop ranges over copies, so the groups that are
returned have no members, and the reply to a login shows every group without users.

`Complete` is what the function is for: each group of the user once and no other, with
the fields of its row, and with exactly its members. `complete_iff_memberless` says
that the function and the replies built from it are complete for the users without a
group and for no one else. The selection of the groups itself is right
(`lists_queryGroups`).

The tables keep their keys and every statement succeeds. Redis may do anything; the
states a reply shows are those it reports.
-/

namespace ClusterChat.GroupMembers

open ChatService NodeRuns LoginReply

/-- The user is a member of the group, with the fields and the role of its rows. -/
def IsMember (db : Database) (groupid : Int) (user : GroupUser) : Prop :=
  ∃ row ∈ db.groupUser, ∃ account ∈ db.user, row.groupid = groupid ∧ account.id = row.userid ∧
    user = GroupModel.memberOfRow (account, row.grouprole)

/-- The groups of the user, each once, with their fields. -/
structure Lists (db : Database) (userid : Int) (groups : List Group) : Prop where
  once : (groups.map Group.id).Nodup
  listed : ∀ groupid, groupid ∈ groups.map Group.id ↔ db.hasMember groupid userid = true
  named : ∀ group ∈ groups, ⟨group.id, group.name, group.desc⟩ ∈ db.allGroup

/-- The group carries its members, each once, and no one else. -/
structure Carries (db : Database) (group : Group) : Prop where
  once : group.users.Nodup
  members : ∀ user, user ∈ group.users ↔ IsMember db group.id user

/-- The groups of the user, each with its members. -/
structure Complete (db : Database) (userid : Int) (groups : List Group) : Prop where
  lists : Lists db userid groups
  carries : ∀ group ∈ groups, Carries db group

/-- The query returns the groups of the user with their members, whichever connections
it is given. -/
def QueriesComplete (db : Database) (userid : Int) : Prop :=
  ∀ m : Access, m.database = db → m.Serves →
    Complete db userid (m.run (GroupModel.queryGroups userid)).1

/-- The `groups` of every reply to a login of the user that is let in are the texts of
the groups of the user with their members, in any world over these tables. -/
def RepliesComplete (db : Database) (userid : Int) : Prop :=
  ∀ conn js w, w.mysql.database = db → w.mysql.Serves → js.int "id" = .ok userid →
    ∀ output ∈ replies w (login conn js w).2, output.errno = some 0 →
      ∃ groups shown, Complete db userid groups ∧ ShowsGroups shown groups ∧
        (output.body.member "groups").strings = shown.map (fun group => (groupValue group).dump)

/-!
## What the query returns
-/

/-- The second loop of the query changes nothing. -/
theorem readAllMembers_serves (conn : Connection) (vGroup : List Group) (m : Access)
    (serves : m.Serves) : ∃ left,
    (GroupModel.readAllMembers conn vGroup).run.run Access.answer m = (.ok (), left) ∧
      left.database = m.database ∧ left.Serves := by
  induction vGroup generalizing m with
  | nil => exact ⟨m, rfl, rfl, serves⟩
  | cons group rest inductionHypothesis =>
    obtain ⟨read, executed, same, still⟩ :=
      m.serves_executeQuery conn (.usersOfGroup group.id) serves
    obtain ⟨left, ended, kept, served⟩ := inductionHypothesis read still
    refine ⟨left, ?_, kept.trans same, served⟩
    simp only [GroupModel.readAllMembers, GroupModel.readMembers, Program.run_try_bind,
      run_executeQuery, executed, Program.run_try_pure, ended]

/-- The rows the first query selects. -/
def groupRows (db : Database) (userid : Int) : List AllGroupRow :=
  (db.groupUser.filter (fun row => row.userid = userid)).flatMap
    (fun row => db.allGroup.filter (fun group => group.id = row.groupid))

/-- The groups of the first query, without members. -/
theorem queryGroups_serves (m : Access) (userid : Int) (serves : m.Serves) :
    (m.run (GroupModel.queryGroups userid)).1 =
      (groupRows m.database userid).map GroupModel.ofRow := by
  obtain ⟨conn, granted, acquired, same, still⟩ := m.serves_getConnection serves
  obtain ⟨prepared, preparing, kept, served⟩ := granted.serves_prepareStatement conn still
  obtain ⟨selected, executing, stored, serving⟩ :=
    prepared.serves_executeQuery conn (.groupsOf userid) served
  obtain ⟨left, reading, _, _⟩ := readAllMembers_serves conn
    ((prepared.database.select conn (.groupsOf userid)).map GroupModel.ofRow) selected serving
  simp only [Access.run, GroupModel.queryGroups, run_borrowing, acquired, Program.run_try_bind,
    run_prepareStatement, preparing, run_executeQuery, executing, reading, Program.run_try_pure]
  rw [kept, same]
  rfl

/-- A group that exists has one row. -/
theorem ids_ofGroup (db : Database) (keys : db.Keys) (groupid : Int)
    (stored : db.hasGroup groupid = true) :
    (db.allGroup.filter (fun group => group.id = groupid)).map AllGroupRow.id = [groupid] := by
  have listed : groupid ∈ db.allGroup.map AllGroupRow.id :=
    List.mem_map.mpr ((Database.hasGroup_iff db groupid).mp stored)
  have picked : (db.allGroup.filter (fun group => group.id = groupid)).map AllGroupRow.id =
      (db.allGroup.map AllGroupRow.id).filter (· = groupid) := by
    rw [List.filter_map]
    rfl
  rw [picked, List.filter_eq, List.count_eq_one_of_mem keys.groupIds listed, List.replicate_one]

/-- The groups the query selects are those of the rows of the user. -/
theorem ids_groupRows (db : Database) (keys : db.Keys) (userid : Int) :
    (groupRows db userid).map AllGroupRow.id =
      (db.groupUser.filter (fun row => row.userid = userid)).map GroupUserRow.groupid := by
  have exist : ∀ row ∈ db.groupUser.filter (fun row => row.userid = userid),
      db.hasGroup row.groupid = true :=
    fun row member => keys.memberGroups row (List.mem_filter.mp member).1
  rw [groupRows, List.map_flatMap]
  generalize db.groupUser.filter (fun row => row.userid = userid) = rows at exist ⊢
  induction rows with
  | nil => rfl
  | cons row rest inductionHypothesis =>
    rw [List.flatMap_cons, ids_ofGroup db keys row.groupid (exist row List.mem_cons_self),
      inductionHypothesis fun other member => exist other (List.mem_cons_of_mem _ member)]
    rfl

/-- Two rows of one user are of different groups. -/
theorem nodup_groupids (db : Database) (keys : db.Keys) (userid : Int) :
    ((db.groupUser.filter (fun row => row.userid = userid)).map GroupUserRow.groupid).Nodup := by
  have rows : (db.groupUser.filter (fun row => row.userid = userid)).Nodup :=
    (List.Nodup.of_map _ keys.members).filter _
  refine rows.map_on ?_
  intro first member second other same
  obtain ⟨stored, own⟩ := List.mem_filter.mp member
  obtain ⟨alsoStored, alsoOwn⟩ := List.mem_filter.mp other
  have sameUser : first.userid = second.userid :=
    (of_decide_eq_true own).trans (of_decide_eq_true alsoOwn).symm
  exact List.inj_on_of_nodup_map keys.members stored alsoStored (Prod.ext same sameUser)

/-- The query selects the groups of the user, each once, and gives none of them a
member. -/
theorem lists_queryGroups (m : Access) (userid : Int) (keys : m.database.Keys)
    (serves : m.Serves) :
    Lists m.database userid (m.run (GroupModel.queryGroups userid)).1 ∧
      ∀ group ∈ (m.run (GroupModel.queryGroups userid)).1, group.users = [] := by
  have ids : (m.run (GroupModel.queryGroups userid)).1.map Group.id =
      (m.database.groupUser.filter (fun row => row.userid = userid)).map
        GroupUserRow.groupid := by
    rw [queryGroups_serves m userid serves, List.map_map,
      ← ids_groupRows m.database keys userid]
    rfl
  refine ⟨⟨?_, ?_, ?_⟩, ?_⟩
  · rw [ids]
    exact nodup_groupids m.database keys userid
  · intro groupid
    rw [ids, Database.hasMember_iff]
    simp only [List.mem_map, List.mem_filter, decide_eq_true_eq]
    constructor
    · rintro ⟨row, ⟨stored, own⟩, same⟩
      exact ⟨row, stored, same, own⟩
    · rintro ⟨row, stored, same, own⟩
      exact ⟨row, ⟨stored, own⟩, same⟩
  · intro group member
    rw [queryGroups_serves m userid serves] at member
    obtain ⟨row, selected, rfl⟩ := List.mem_map.mp member
    obtain ⟨owner, _, picked⟩ := List.mem_flatMap.mp selected
    exact (List.mem_filter.mp picked).1
  · exact Program.run_yields _ _ _ (GroupModel.queryGroups_memberless userid) m

/-!
## Completeness
-/

/-- Who has a row of a group is a member of it, with the fields of the account. -/
theorem isMember_of_hasMember (db : Database) (keys : db.Keys) (groupid userid : Int)
    (member : db.hasMember groupid userid = true) : ∃ user, IsMember db groupid user := by
  obtain ⟨row, stored, ofGroup, _⟩ := (Database.hasMember_iff db groupid userid).mp member
  obtain ⟨account, registered, same⟩ :=
    (Database.hasUser_iff db row.userid).mp (keys.memberUsers row stored)
  exact ⟨_, row, stored, account, registered, ofGroup, same, rfl⟩

/-- The groups of a user without their members are complete only if there are none. -/
theorem complete_iff_none (db : Database) (userid : Int) (groups : List Group) (keys : db.Keys)
    (lists : Lists db userid groups) (bare : ∀ group ∈ groups, group.users = []) :
    Complete db userid groups ↔ ∀ groupid, db.hasMember groupid userid = false := by
  constructor
  · intro complete groupid
    by_contra isMember
    have member : db.hasMember groupid userid = true := by simpa using isMember
    obtain ⟨group, returned, rfl⟩ := List.mem_map.mp ((lists.listed groupid).mpr member)
    obtain ⟨user, known⟩ := isMember_of_hasMember db keys group.id userid member
    have carried : user ∈ group.users := ((complete.carries group returned).members user).mpr known
    rw [bare group returned] at carried
    exact absurd carried List.not_mem_nil
  · intro memberless
    refine ⟨lists, fun group returned => ?_⟩
    have member := (lists.listed group.id).mp (List.mem_map_of_mem returned)
    rw [memberless group.id] at member
    cases member

/-- Looking for the friends leaves the tables, and the statements succeed after it. -/
theorem friendsAsked_serves (id : Int) (w : World) (serves : w.mysql.Serves) :
    (friendsAsked id w).database = w.mysql.database ∧ (friendsAsked id w).Serves := by
  unfold friendsAsked
  cases (w.redis.run (RedisClient.get (.friends id))).1 with
  | some text => exact ⟨rfl, serves⟩
  | none =>
    exact ⟨w.mysql.run_readsOnly _ (FriendModel.query_reads id), w.mysql.run_serves _ serves⟩

/-- A login finds the groups of its user, without members. -/
theorem lists_groupsFound (id : Int) (w asked : World) (keys : w.mysql.database.Keys)
    (serves : w.mysql.Serves) (queried : asked.mysql = (w.mysql.run (UserModel.query id)).2) :
    Lists w.mysql.database id (groupsFound id asked) ∧
      ∀ group ∈ groupsFound id asked, group.users = [] := by
  have tables : asked.mysql.database = w.mysql.database := by
    rw [queried]
    exact w.mysql.run_readsOnly _ (UserModel.query_reads id)
  have serving : asked.mysql.Serves := by
    rw [queried]
    exact w.mysql.run_serves _ serves
  obtain ⟨same, still⟩ := friendsAsked_serves id asked serving
  rw [← tables, ← same]
  rw [← tables, ← same] at keys
  exact lists_queryGroups (friendsAsked id asked) id keys still

/-- The query and the replies built from it are complete for the users of no group and
for no one else. -/
theorem complete_iff_memberless (db : Database) (userid : Int) (keys : db.Keys) :
    (QueriesComplete db userid ∧ RepliesComplete db userid) ↔
      ∀ groupid, db.hasMember groupid userid = false := by
  constructor
  · rintro ⟨queries, _⟩
    have serves := Access.serves_undisturbed db
    obtain ⟨lists, bare⟩ := lists_queryGroups (Access.undisturbed db) userid keys serves
    exact (complete_iff_none db userid _ keys lists bare).mp
      (queries (Access.undisturbed db) rfl serves)
  · intro memberless
    constructor
    · rintro m rfl serves
      obtain ⟨lists, bare⟩ := lists_queryGroups m userid keys serves
      exact (complete_iff_none m.database userid _ keys lists bare).mpr memberless
    · rintro conn js w rfl serves named output sent accepted
      rcases login_replies conn js w with
        refused | ⟨id, userQuery, offlineMsgs, asked, left, reply, given, queried, composed,
          replied⟩
      · exact absurd accepted (refused output sent)
      · have same : id = userid := Except.ok.inj (given.symm.trans named)
        subst same
        obtain ⟨lists, bare⟩ := lists_groupsFound id w asked keys serves queried
        obtain ⟨shownFriends, shownGroups, read, _, shows, ended⟩ :=
          composeReply_shows id userQuery offlineMsgs (friendsFound id asked)
            (groupsFound id asked) left.redis
        have texts : reply = withLists (opening userQuery offlineMsgs) shownFriends shownGroups :=
          Except.ok.inj (composed.symm.trans (congrArg Prod.fst
            (ended left.node left.mysql left.sent)))
        refine ⟨groupsFound id asked, shownGroups, ?_, shows, ?_⟩
        · exact (complete_iff_none w.mysql.database id _ keys lists bare).mpr memberless
        · rw [replied] at sent
          rw [List.mem_singleton.mp sent]
          simp only
          rw [texts, groups_withLists]

/-- The only member of a group, whose group is returned without members. -/
theorem complete_iff_memberless_club : GroupCache.club.Keys ∧
    ((QueriesComplete GroupCache.club 1 ∧ RepliesComplete GroupCache.club 1) ↔
      ∀ groupid, GroupCache.club.hasMember groupid 1 = false) :=
  ⟨GroupCache.keys_club, complete_iff_memberless GroupCache.club 1 GroupCache.keys_club⟩

/-- The group of the only member comes back empty. -/
theorem queryGroups_drops_member : ¬ ∀ db userid, db.Keys →
    QueriesComplete db userid ∧ RepliesComplete db userid := by
  intro complete
  have returned := (complete GroupCache.club 1 GroupCache.keys_club).1
    (Access.undisturbed GroupCache.club) rfl (Access.serves_undisturbed GroupCache.club)
  rw [GroupModel.queryGroups_undisturbed] at returned
  have carried := (returned.carries ⟨1, "club", "", []⟩ List.mem_cons_self).members
    (GroupModel.memberOfRow (⟨1, "ann", "a", "offline"⟩, "creator"))
  exact absurd (carried.mpr ⟨⟨1, 1, "creator"⟩, by decide, ⟨1, "ann", "a", "offline"⟩, by decide,
    rfl, rfl, rfl⟩) List.not_mem_nil

end ClusterChat.GroupMembers
