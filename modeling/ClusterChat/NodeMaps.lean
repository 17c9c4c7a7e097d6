import ClusterChat.Service

/-!
# The maps of a node

What each small change of a node does to the three things the rest of the
development asks about: who is connected and where, which groups have an entry
in the member cache, and who is in the entry.

A group without an entry has no cached member, so creating an empty entry changes
which groups are cached and nothing about their members.
-/

namespace ClusterChat.Node

/-- The user has a connection on this node. -/
def Connected (node : Node) (id : Int) : Prop := id ∈ node.userConnMap

/-- The group has an entry in the member cache. -/
def Cached (node : Node) (groupid : Int) : Prop := groupid ∈ node.groupMembers

instance (node : Node) (id : Int) : Decidable (node.Connected id) :=
  inferInstanceAs (Decidable (id ∈ node.userConnMap))

instance (node : Node) (groupid : Int) : Decidable (node.Cached groupid) :=
  inferInstanceAs (Decidable (groupid ∈ node.groupMembers))

/-- A user is connected exactly when the map has a connection for it. -/
theorem connected_iff (node : Node) (id : Int) :
    node.Connected id ↔ ∃ conn, node.connOf id = some conn := by
  rw [Connected, ← AList.lookup_isSome, Option.isSome_iff_exists]
  rfl

/-- Only a group with an entry has cached members. -/
theorem cached_of_mem (node : Node) (groupid id : Int) (member : id ∈ node.members groupid) :
    node.Cached groupid := by
  by_contra absent
  have empty : node.groupMembers.lookup groupid = none := AList.lookup_eq_none.mpr absent
  simp [members, empty] at member

section Record

variable (node : Node) (id other : Int) (conn : Conn)

/-- Recording a session connects its user and nobody else. -/
theorem connected_record : (node.record id conn).Connected other ↔
    other = id ∨ node.Connected other := by
  unfold record Connected
  by_cases present : id ∈ node.userConnMap
  · rw [if_pos present]
    constructor
    · exact Or.inr
    · rintro (rfl | already)
      · exact present
      · exact already
  · rw [if_neg present]
    exact AList.mem_insert _

/-- An entry that exists is kept. -/
theorem connOf_record : (node.record id conn).connOf other =
    if other = id ∧ node.connOf id = none then some conn else node.connOf other := by
  unfold record connOf
  by_cases present : id ∈ node.userConnMap
  · rw [if_pos present, if_neg]
    rintro ⟨_, missing⟩
    exact AList.lookup_eq_none.mp missing present
  · have missing : node.userConnMap.lookup id = none := AList.lookup_eq_none.mpr present
    rw [if_neg present]
    by_cases own : other = id
    · subst own
      simp [missing]
    · simp [own]

/-- Forgetting a session removes the connection of its user only. -/
theorem connOf_forget : (node.forget id).connOf other =
    if other = id then none else node.connOf other := by
  unfold forget connOf
  by_cases own : other = id
  · subst own
    simp
  · simp [own]

/-- Recording a session touches no member set. -/
@[simp] theorem groupMembers_record : (node.record id conn).groupMembers = node.groupMembers := by
  unfold record
  split <;> rfl

/-- Forgetting a session disconnects its user and nobody else. -/
theorem connected_forget : (node.forget id).Connected other ↔
    other ≠ id ∧ node.Connected other := AList.mem_erase

end Record

section Groups

variable (node : Node) (groupid other id : Int)

/-- Touching a group leaves the sessions. -/
@[simp] theorem userConnMap_touchGroup :
    (node.touchGroup groupid).userConnMap = node.userConnMap := by
  unfold touchGroup
  split <;> rfl

/-- A group that is touched has an entry afterwards, if only an empty one. -/
theorem cached_touchGroup : (node.touchGroup groupid).Cached other ↔
    other = groupid ∨ node.Cached other := by
  unfold touchGroup Cached
  by_cases present : groupid ∈ node.groupMembers
  · rw [if_pos present]
    constructor
    · exact Or.inr
    · rintro (rfl | already)
      · exact present
      · exact already
  · rw [if_neg present]
    exact AList.mem_insert _

/-- An entry that a lookup creates has no members. -/
@[simp] theorem members_touchGroup :
    (node.touchGroup groupid).members other = node.members other := by
  unfold touchGroup members
  by_cases present : groupid ∈ node.groupMembers
  · rw [if_pos present]
  · rw [if_neg present]
    by_cases same : other = groupid
    · subst same
      have empty : node.groupMembers.lookup other = none := AList.lookup_eq_none.mpr present
      simp [empty]
    · simp [same]

/-- A group that is given a member has an entry afterwards. -/
theorem cached_addMember : (node.addMember groupid id).Cached other ↔
    other = groupid ∨ node.Cached other := AList.mem_insert _

/-- Adding a member to a group adds nothing else. -/
theorem mem_addMember (member : Int) : member ∈ (node.addMember groupid id).members other ↔
    (other = groupid ∧ member = id) ∨ member ∈ node.members other := by
  unfold addMember
  by_cases same : other = groupid
  · subst same
    simp [members]
  · simp [members, same]

/-- A user who leaves its groups leaves their entries behind. -/
theorem cached_leaveGroups : (node.leaveGroups id).Cached other ↔ node.Cached other := by
  rw [Cached, Cached, ← AList.lookup_isSome, ← AList.lookup_isSome]
  simp [leaveGroups]

/-- A user who leaves its groups is in none of them, and the others stay. -/
theorem mem_leaveGroups (member : Int) : member ∈ (node.leaveGroups id).members other ↔
    member ≠ id ∧ member ∈ node.members other := by
  unfold leaveGroups members
  simp only [AList.lookup_mapValues]
  cases node.groupMembers.lookup other with
  | none => simp
  | some set => simp

end Groups

/-- Adding a list of users to one entry. -/
theorem mem_addMembers (users : List Int) (groupid other member : Int) (node : Node) :
    member ∈ (users.foldl (fun node id => node.addMember groupid id) node).members other ↔
      (other = groupid ∧ member ∈ users) ∨ member ∈ node.members other := by
  induction users generalizing node with
  | nil => simp
  | cons id rest inductionHypothesis =>
    rw [List.foldl_cons, inductionHypothesis, mem_addMember, List.mem_cons]
    constructor
    · rintro (⟨own, inRest⟩ | ⟨own, first⟩ | old)
      · exact Or.inl ⟨own, Or.inr inRest⟩
      · exact Or.inl ⟨own, Or.inl first⟩
      · exact Or.inr old
    · rintro (⟨own, first | inRest⟩ | old)
      · exact Or.inr (Or.inl ⟨own, first⟩)
      · exact Or.inl ⟨own, inRest⟩
      · exact Or.inr (Or.inr old)

/-- Only a group that was given someone gets an entry. -/
theorem cached_addMembers (users : List Int) (groupid other : Int) (node : Node) :
    (users.foldl (fun node id => node.addMember groupid id) node).Cached other ↔
      (other = groupid ∧ users ≠ []) ∨ node.Cached other := by
  induction users generalizing node with
  | nil => simp
  | cons id rest inductionHypothesis =>
    rw [List.foldl_cons, inductionHypothesis, cached_addMember]
    constructor
    · rintro (⟨own, _⟩ | own | old)
      · exact Or.inl ⟨own, by simp⟩
      · exact Or.inl ⟨own, by simp⟩
      · exact Or.inr old
    · rintro (⟨own, _⟩ | old)
      · exact Or.inr (Or.inl own)
      · exact Or.inr (Or.inr old)

/-- The members of a group are no sessions and no channels. -/
theorem addMembers_frame (users : List Int) (groupid : Int) (node : Node) :
    (users.foldl (fun node id => node.addMember groupid id) node).userConnMap = node.userConnMap ∧
      (users.foldl (fun node id => node.addMember groupid id) node).subscriber =
        node.subscriber := by
  induction users generalizing node with
  | nil => exact ⟨rfl, rfl⟩
  | cons id rest inductionHypothesis => exact inductionHypothesis (node.addMember groupid id)

/-- The members of a group are no messages. -/
theorem addMembers_queue (users : List Int) (groupid : Int) (node : Node) :
    (users.foldl (fun node id => node.addMember groupid id) node).failedQueue =
      node.failedQueue := by
  induction users generalizing node with
  | nil => rfl
  | cons id rest inductionHypothesis => exact inductionHypothesis (node.addMember groupid id)

end ClusterChat.Node
