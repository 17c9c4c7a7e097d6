import ClusterChat.LockedService
import Mathlib.Data.List.Sigma

/-!
# Handlers as sequences of critical sections

Whatever the threads of a node do between one another's operations, each scope of the
handlers, of the callback and of the subscriber thread acts on its container as if it were
one step, at the moment it gets its lock. `scope_matches` says so of every scope, and
`sections_run` of all runs of any number of threads. A handler whose scopes are executed
one after another with nothing in between is the handler of the sequential model:
`denotes_handler`.

Where a scope calls another one or sends, only its own container changes at once. So the
groups a user leaves are emptied together and unsubscribed one after another, and a
published message goes to the members a group had at one moment and to the connections
each of them had at another.

Nothing is claimed about what the calls do to one another, nor that a thread ever gets a
lock.
-/

namespace ClusterChat.LockedService

open Sections

/-- The body computes this value and leaves this datum. -/
abbrev Does {α : Type} (lock : Lock) (body : Locked α) (datum : Datum lock) (value : α)
    (final : Datum lock) : Prop := Sections.Computes (S := service) lock body datum value final

/-- What is left to do when nothing is. -/
theorem does_pure {α : Type} (lock : Lock) (value : α) (datum : Datum lock) :
    Does lock (pure value) datum value datum :=
  Sections.Computes.done (S := service) value datum

/-- An operation and what follows it. -/
theorem does_apply {α : Type} (lock : Lock) (operation : Operation lock)
    (next : Result lock operation → Locked α) (datum final : Datum lock) (value : α)
    (rest : Does lock (next (operate lock operation datum).1) (operate lock operation datum).2 value
      final) : Does lock (apply lock operation >>= next) datum value final :=
  Sections.Computes.operate (S := service) operation next datum final value rest

/-- An operation that changes nothing is its reply. -/
theorem does_read {α : Type} (lock : Lock) (operation : Operation lock)
    (next : Result lock operation → Locked α) (datum final : Datum lock) (value : α)
    {reply : Result lock operation} (read : operate lock operation datum = (reply, datum))
    (rest : Does lock (next reply) datum value final) :
    Does lock (apply lock operation >>= next) datum value final := by
  apply does_apply
  rw [read]
  exact rest

/-!
## Connections
-/

/-- The order of iteration lists every entry once. -/
theorem length_arranged (hint : Int) (map : ConnMap) :
    (arranged hint map).length = map.entries.length := by
  unfold arranged
  cases found : map.lookup hint with
  | none => rw [List.length_map]
  | some conn =>
    have here : hint ∈ map.keys := AList.lookup_isSome.mp (by rw [found]; rfl)
    have shorter : (map.erase hint).keys.length + 1 = map.keys.length := by
      rw [AList.keys_erase]
      exact List.length_erase_add_one here
    simp only [AList.keys, List.keys, List.length_map] at shorter
    rw [List.length_cons, List.length_map, shorter]

/-- The first entry of the connection from a position on. -/
def entryFrom (conn : Conn) (listed : List (Int × Conn)) : Option Int :=
  (listed.find? (fun entry => entry.2 = conn)).map (fun entry => entry.1)

/-- The map without the entry that was found. -/
def without (map : ConnMap) : Option Int → ConnMap
  | some id => map.erase id
  | none => map

/-- The loop stops at the first entry of the closed connection. -/
theorem does_seek (hint : Int) (conn : Conn) (map : ConnMap) (left position : Nat)
    (remaining : left + position = (arranged hint map).length) :
    Does .userConn (seek hint conn left position) map
      (entryFrom conn ((arranged hint map).drop position))
      (without map (entryFrom conn ((arranged hint map).drop position))) := by
  induction left generalizing position with
  | zero =>
    rw [List.drop_eq_nil_of_le (by omega)]
    exact does_pure .userConn none map
  | succ left inductionHypothesis =>
    have within : position < (arranged hint map).length := by omega
    have read : operate .userConn (.entryAt hint position) map =
        (some (arranged hint map)[position], map) :=
      Prod.ext (List.getElem?_eq_getElem within) rfl
    have later := inductionHypothesis (position + 1) (by omega)
    rw [List.drop_eq_getElem_cons within]
    refine does_read .userConn _ _ map _ _ read ?_
    generalize (arranged hint map)[position] = entry
    obtain ⟨id, other⟩ := entry
    dsimp only
    by_cases same : other = conn
    · have first : entryFrom conn ((id, other) :: (arranged hint map).drop (position + 1)) =
          some id := by simp [entryFrom, same]
      rw [first]
      simp only [if_pos same]
      exact does_apply .userConn (.erase id) _ map _ _ (does_pure .userConn (some id) _)
    · have next : entryFrom conn ((id, other) :: (arranged hint map).drop (position + 1)) =
          entryFrom conn ((arranged hint map).drop (position + 1)) := by simp [entryFrom, same]
      rw [next]
      simp only [if_neg same]
      exact later

/-- The search for a connection ends with the entry it finds, and removes it. -/
theorem does_takeEntry (hint : Int) (conn : Conn) (map : ConnMap) :
    Does .userConn (apply .userConn .size >>= fun size => seek hint conn size 0) map
      (change .userConn (.takeEntry hint conn) map).1
      (change .userConn (.takeEntry hint conn) map).2 := by
  have found := does_seek hint conn map map.entries.length 0
    (by rw [length_arranged, Nat.add_zero])
  rw [List.drop_zero] at found
  apply does_apply
  rw [change, entryIn, ← entryFrom]
  cases known : entryFrom conn (arranged hint map) <;> rw [known] at found <;> exact found

/-!
## Members
-/

/-- A member that is added is in the set afterwards. -/
theorem lookup_withMember (groupid id : Int) (map : MemberMap) :
    membersIn (withMember groupid id map) groupid = (membersIn map groupid).insert id := by
  rw [membersIn, withMember, AList.lookup_insert, Option.getD_some]

/-- A member is inserted once. -/
theorem withMember_twice (groupid id : Int) (map : MemberMap) :
    withMember groupid id (withMember groupid id map) = withMember groupid id map := by
  conv_lhs => rw [withMember, lookup_withMember, withMember]
  rw [AList.insert_insert, OrderedSet.insert_of_mem _ _ (by simp), withMember]

/-- A subscript before an insertion adds nothing to it. -/
theorem withMember_subscript (groupid id : Int) (map : MemberMap) :
    withMember groupid id (operate .group (.subscript groupid) map).2 =
      withMember groupid id map := by
  change withMember groupid id (if groupid ∈ map then map else map.insert groupid ∅) = _
  split
  · rfl
  · rename_i absent
    rw [withMember, membersIn, AList.lookup_insert, AList.insert_insert, withMember, membersIn,
      AList.lookup_eq_none.mpr absent]
    rfl

/-- Once the user is in, the loop of `login` changes nothing more. -/
theorem does_enterAll (id groupid : Int) (users : List GroupUser) (map : MemberMap) :
    Does .group (enterAll id groupid users) map ()
      (if users.any (fun user => user.id = id) then withMember groupid id map else map) := by
  induction users generalizing map with
  | nil => exact does_pure .group () map
  | cons user rest inductionHypothesis =>
    rw [enterAll]
    by_cases same : user.id = id
    · have whole : (if (user :: rest).any (fun user => user.id = id) then withMember groupid id map
          else map) = if rest.any (fun user => user.id = id) then
            withMember groupid id (withMember groupid id map) else withMember groupid id map := by
        rw [withMember_twice, ite_self]
        simp [same]
      rw [whole, if_pos same]
      exact does_apply .group (.insert groupid id) _ map _ () (inductionHypothesis _)
    · have whole : (user :: rest).any (fun user => user.id = id) =
          rest.any (fun user => user.id = id) := by simp [same]
      rw [whole, if_neg same]
      exact inductionHypothesis map

/-- The members of a group are entered one by one. -/
theorem does_enter (id : Int) (group : Group) (map : MemberMap) :
    Does .group (apply .group (.subscript group.id) >>= fun _ => enterAll id group.id group.users)
      map () (change .group (.enter id group) map).2 := by
  apply does_apply
  have entered := does_enterAll id group.id group.users (operate .group (.subscript group.id) map).2
  rw [withMember_subscript] at entered
  exact entered

/-- So are those of a group that is loaded. -/
theorem does_insertAll (groupid : Int) (groupUsers : List Int) (map : MemberMap) :
    Does .group (insertAll groupid groupUsers) map ()
      (groupUsers.foldl (fun map id => withMember groupid id map) map) := by
  induction groupUsers generalizing map with
  | nil => exact does_pure .group () map
  | cons id rest inductionHypothesis =>
    exact does_apply .group (.insert groupid id) _ map _ () (inductionHypothesis _)

/-!
## Groups that are left
-/

/-- The entry without the user. -/
def left (id : Int) (entry : (_ : Int) × OrderedSet Int) : (_ : Int) × OrderedSet Int :=
  ⟨entry.1, entry.2.erase id⟩

/-- With these locks in hand, the scope is the sections and gives back what it took. -/
abbrev Is {α : Type} (held : service.Held) (locked : Locked α) (whole : Whole α) : Prop :=
  Sections.Matches (S := service) (Returns held) held locked whole

/-- A scope of an exclusive lock is one section, if that is what its body does. -/
theorem scope_is {α : Type} (held : service.Held) (lock : Lock) (part : Section lock)
    (body : Locked α) (result : α → Value lock part) (free : held lock = none)
    (does : ∀ datum, ∃ value, Does lock body datum value (change lock part datum).2 ∧
      result value = (change lock part datum).1) :
    Is held (do
      acquire lock .exclusive
      let value ← body
      release lock
      return result value) (atOnce lock part) :=
  matches_exclusive (S := service) held lock part body result free does

/-- So is a scope that makes one operation. -/
theorem operation_is (held : service.Held) (lock : Lock) (part : Section lock)
    (operation : Operation lock) (result : Result lock operation → Value lock part)
    (free : held lock = none) (same : ∀ datum,
      (operate lock operation datum).2 = (change lock part datum).2 ∧
        result (operate lock operation datum).1 = (change lock part datum).1) :
    Is held (do
      acquire lock .exclusive
      let value ← apply lock operation
      release lock
      return result value) (atOnce lock part) := by
  refine scope_is held lock part (apply lock operation) result free fun datum =>
    ⟨_, ?_, (same datum).2⟩
  rw [← (same datum).1]
  exact does_apply lock operation pure datum _ _ (does_pure _ _ _)

/-- A request for a channel is one section, whichever it is. -/
theorem enqueue_is (needless : Bool) (task : SubTask) (groupId : Int) (part : QueueSection)
    (result : Unit → Value .sub part) (held : service.Held) (free : held .sub = none)
    (same : ∀ queue, result () = (change .sub part queue).1)
    (queued : ∀ queue, (change .sub part queue).2 =
      if decide (groupId ∈ queue.subGroupSet) = needless then queue
      else (operate .sub (.push task) queue).2) :
    Is held (enqueue needless task groupId >>= fun value => pure (result value))
      (atOnce .sub part) := by
  have shape : (enqueue needless task groupId >>= fun value => pure (result value)) = (do
      acquire .sub .exclusive
      let value ← (do
        let counted ← apply .sub (.count groupId)
        if counted = needless then return () else apply .sub (.push task))
      release .sub
      return result value) := by
    simp only [enqueue, bind_assoc]
    congr 1
    funext _
    congr 1
    funext counted
    split <;> rfl
  rw [shape]
  refine scope_is held .sub part _ result free fun queue => ⟨(), ?_, same queue⟩
  apply does_apply
  rw [queued queue]
  change Does .sub (if decide (groupId ∈ queue.subGroupSet) = needless then _ else _) queue _ _
  split
  · exact does_pure .sub () queue
  · exact does_apply .sub (.push task) pure queue _ () (does_pure .sub () _)

/-- A subscription is one section. -/
theorem subscribe_is (groupId : Int) (held : service.Held) (free : held .sub = none) :
    Is held (subscribeGroupChannel groupId) (atOnce .sub (.subscribe groupId)) := by
  have inOne := enqueue_is true (.subscribe groupId) groupId (.subscribe groupId) id held free
    (fun _ => rfl) (fun queue => by
      by_cases listed : groupId ∈ queue.subGroupSet <;>
        simp [change, operate, Queue.after, Subscriber.subscribeGroupChannel, listed])
  rw [bind_pure] at inOne
  exact inOne

/-- So is its end. -/
theorem unsubscribe_is (groupId : Int) (held : service.Held) (free : held .sub = none) :
    Is held (unsubscribeGroupChannel groupId) (atOnce .sub (.unsubscribe groupId)) := by
  have inOne := enqueue_is false (.unsubscribe groupId) groupId (.unsubscribe groupId) id held free
    (fun _ => rfl) (fun queue => by
      by_cases listed : groupId ∈ queue.subGroupSet <;>
        simp [change, operate, Queue.after, Subscriber.unsubscribeGroupChannel, listed])
  rw [bind_pure] at inOne
  exact inOne

section Steps

variable {α β : Type} {ends : service.Held → α → β → Prop}

/-- An operation under a lock is part of the section that the lock began. -/
theorem apply_matches (held : service.Held) (lock : Lock) (hold : service.Hold lock)
    (operation : Operation lock) (next : Result lock operation → Locked α) (whole : Whole β)
    (has : held lock = some hold)
    (reads : hold.mode = .shared → (operate lock operation hold.now).2 = hold.now)
    (rest : Sections.Matches (S := service) ends
      (held.set lock (some { hold with now := (operate lock operation hold.now).2 }))
      (next (operate lock operation hold.now).1) whole) :
    Sections.Matches (S := service) ends held (apply lock operation >>= next) whole :=
  Matches.operate (S := service) held lock hold operation next whole has reads rest

/-- An operation that only reads leaves everything in hand as it is. -/
theorem read_matches (held : service.Held) (lock : Lock) (hold : service.Hold lock)
    (operation : Operation lock) (next : Result lock operation → Locked α) (whole : Whole β)
    (has : held lock = some hold) (reads : (operate lock operation hold.now).2 = hold.now)
    (rest : Sections.Matches (S := service) ends held (next (operate lock operation hold.now).1)
      whole) :
    Sections.Matches (S := service) ends held (apply lock operation >>= next) whole := by
  refine apply_matches held lock hold operation next whole has (fun _ => reads) ?_
  rw [reads, Held.set_same _ _ _ has]
  exact rest

/-- A call is made in both programs. -/
theorem make_matches (held : service.Held) (call : Call) (next : call.Reply → Locked α)
    (following : call.Reply → Whole β)
    (rest : ∀ reply, Sections.Matches (S := service) ends held (next reply) (following reply)) :
    Sections.Matches (S := service) ends held (make call >>= next)
      (makeAtOnce call >>= following) :=
  Matches.outside (S := service) held call next following rest

/-- The acquisition of a lock is where its section happens. -/
theorem acquire_matches (held : service.Held) (lock : Lock) (mode : Locking.Mode)
    (part : Section lock) (next : Locked α) (following : Value lock part → Whole β)
    (free : held lock = none) (reads : mode = .shared → ∀ datum, (change lock part datum).2 = datum)
    (rest : ∀ datum, Sections.Matches (S := service) ends
      (held.set lock (some ⟨mode, datum, (change lock part datum).2⟩)) next
      (following (change lock part datum).1)) :
    Sections.Matches (S := service) ends held (acquire lock mode >>= fun _ => next)
      (atOnce lock part >>= following) :=
  Matches.acquire (S := service) held lock mode part _ following free reads rest

/-- A lock is given back when its section has come to its end. -/
theorem release_matches (held : service.Held) (lock : Lock) (hold : service.Hold lock)
    (next : Locked α) (whole : Whole β) (has : held lock = some hold)
    (settled : hold.now = hold.final)
    (rest : Sections.Matches (S := service) ends (held.set lock none) next whole) :
    Sections.Matches (S := service) ends held (release lock >>= fun _ => next) whole :=
  Matches.release (S := service) held lock hold _ whole has settled rest

/-- A lock whose datum is finished is given back, and with it the last thing in hand. -/
theorem release_returns (held : service.Held) (lock : Lock) (mode : Locking.Mode)
    (datum : Datum lock) (value : α) (free : held lock = none) :
    Sections.Matches (S := service) (Returns held) (held.set lock (some ⟨mode, datum, datum⟩))
      (release lock >>= fun _ => pure value) (pure value) := by
  refine release_matches _ lock _ _ _ (Held.set_self ..) rfl ?_
  rw [Held.set_set, Held.set_same _ _ _ free]
  exact Matches.done _ _ _ ⟨rfl, rfl⟩

end Steps

/-- Removing a user from the set at one key changes that entry alone. -/
theorem entries_erase (id : Int) (map : MemberMap) (done todo : List ((_ : Int) × OrderedSet Int))
    (entry : (_ : Int) × OrderedSet Int) (entries : map.entries = done ++ entry :: todo) :
    (operate .group (.erase entry.1 id) map).2.entries = done ++ left id entry :: todo := by
  have distinct := map.nodupKeys
  rw [List.NodupKeys, List.keys, entries, List.map_append, List.map_cons,
    List.nodup_append] at distinct
  obtain ⟨_, later, apart⟩ := distinct
  rw [List.nodup_cons] at later
  have others : ∀ listed : List ((_ : Int) × OrderedSet Int), entry.1 ∉ listed.map Sigma.fst →
      listed.map (fun each => (⟨each.1, if each.1 = entry.1 then each.2.erase id else each.2⟩ :
        (_ : Int) × OrderedSet Int)) = listed := by
    intro listed absent
    refine (List.map_congr_left fun each member => ?_).trans (List.map_id listed)
    have differs : each.1 ≠ entry.1 := fun same => absent (same ▸ List.mem_map_of_mem member)
    rw [if_neg differs]
    rfl
  change (map.entries.map _) = _
  rw [entries, List.map_append, List.map_cons]
  rw [others done (fun member => apart _ member _ List.mem_cons_self rfl), others todo later.1]
  dsimp only
  rw [if_pos rfl]
  rfl

/-- The set at the key of an entry. -/
theorem membersIn_entry (map : MemberMap) (entry : (_ : Int) × OrderedSet Int)
    (member : entry ∈ map.entries) : membersIn map entry.1 = entry.2 := by
  rw [membersIn, AList.mem_lookup_iff.mpr member, Option.getD_some]

/-- From a position on, the loop removes the user from the sets one after another and asks
for the groups it empties. -/
theorem leaveAll_matches (id : Int) (todo done : List ((_ : Int) × OrderedSet Int))
    (map final : MemberMap) (held : service.Held) (entries : map.entries = done ++ todo)
    (finalEntries : final.entries = done ++ todo.map (left id))
    (has : held .group = some ⟨.exclusive, map, final⟩) (free : held .sub = none) :
    Sections.Matches (S := service)
      (fun ended _ _ => ended = held.set .group (some ⟨.exclusive, final, final⟩)) held
      (leaveAll id todo.length done.length)
      (unsubscribeAll ((todo.filter (fun entry => (entry.2.erase id).isEmpty)).map
        (fun entry => entry.1))) := by
  induction todo generalizing done map held with
  | nil =>
    have same : map = final := AList.ext (entries.trans finalEntries.symm)
    subst same
    exact Matches.done _ _ _ (Held.set_same _ _ _ has).symm
  | cons entry rest inductionHypothesis =>
    have atKey : (operate .group (.keyAt done.length) map).1 = some entry.1 := by
      change (map.entries[done.length]?).map _ = _
      rw [entries, List.getElem?_append_right (Nat.le_refl _), Nat.sub_self]
      rfl
    rw [List.length_cons, leaveAll]
    refine read_matches held .group _ (.keyAt done.length) _ _ has rfl ?_
    rw [atKey]
    refine apply_matches held .group _ (.erase entry.1 id) _ _ has nofun ?_
    have erased := entries_erase id map done rest entry entries
    generalize (operate .group (.erase entry.1 id) map).2 = next at erased ⊢
    have hasNext := Held.set_self held Lock.group (some ⟨.exclusive, next, final⟩)
    have freeNext : held.set .group (some ⟨.exclusive, next, final⟩) .sub = none := by
      rw [Held.set_other _ (by decide)]
      exact free
    have later := inductionHypothesis (done ++ [left id entry]) next
      (held.set .group (some ⟨.exclusive, next, final⟩)) (by rw [erased]; simp)
      (by rw [finalEntries]; simp) hasNext freeNext
    rw [Held.set_set, List.length_append] at later
    have emptied : (operate .group (.empty entry.1) next).1 = (entry.2.erase id).isEmpty := by
      have member : left id entry ∈ next.entries := by rw [erased]; simp
      exact congrArg OrderedSet.isEmpty (membersIn_entry next (left id entry) member)
    refine read_matches _ .group _ (.empty entry.1) _ _ hasNext rfl ?_
    rw [emptied]
    cases vacant : (entry.2.erase id).isEmpty with
    | false =>
      rw [List.filter_cons, vacant]
      exact later
    | true =>
      rw [List.filter_cons, vacant]
      refine matches_bind (unsubscribe_is entry.1 _ freeNext) _ _ ?_
      rintro ended _ _ ⟨rfl, _⟩
      exact later

/-- A user leaves its groups in one section and ends its subscriptions in one each. -/
theorem leave_is (id : Int) : Is emptyHanded (Scope.leave id).locked (Scope.leave id).whole := by
  refine acquire_matches emptyHanded .group .exclusive (.leave id) _ _ rfl nofun fun map => ?_
  have has := Held.set_self (S := service) emptyHanded Lock.group
    (some ⟨.exclusive, map, (change .group (.leave id) map).2⟩)
  refine read_matches _ .group _ .size _ _ has rfl ?_
  have leaving := leaveAll_matches id map.entries [] map (change .group (.leave id) map).2 _ rfl rfl
    has rfl
  refine matches_bind_pure leaving _ ?_
  rintro ended _ _ rfl
  rw [Held.set_set]
  exact release_returns emptyHanded .group .exclusive _ () rfl

/-!
## The other scopes
-/

/-- The search for a closed connection is one section. -/
theorem takeEntry_is (hint : Int) (conn : Conn) : Is emptyHanded
    (Scope.takeEntry hint conn).locked (Scope.takeEntry hint conn).whole := by
  have inOne := scope_is emptyHanded .userConn (.takeEntry hint conn)
    (apply .userConn .size >>= fun size => seek hint conn size 0) id rfl
    fun map => ⟨_, does_takeEntry hint conn map, rfl⟩
  simp only [bind_assoc] at inOne
  exact inOne

/-- The lookup of the scope is the value of the section. -/
theorem found_conn (id : Int) (map : ConnMap) :
    (operate .userConn (.find id) map).1 = map.lookup id ∧
      (change .userConn (.connOf id) map).1 = map.lookup id := ⟨rfl, rfl⟩

/-- A message is relayed under the lock of the connections. -/
theorem relay_is (conn : Conn) (toId : Int) (js : Json) : Is emptyHanded
    (Scope.relay conn toId js).locked (Scope.relay conn toId js).whole := by
  refine acquire_matches emptyHanded .userConn .exclusive (.connOf toId) _ _ rfl nofun
    fun map => ?_
  have has := Held.set_self (S := service) emptyHanded Lock.userConn
    (some ⟨.exclusive, map, (change .userConn (.connOf toId) map).2⟩)
  refine read_matches _ .userConn _ (.find toId) _ _ has rfl ?_
  dsimp only
  rw [(found_conn toId map).1, (found_conn toId map).2]
  cases map.lookup toId with
  | none => exact release_returns emptyHanded .userConn .exclusive map false rfl
  | some toConn =>
    exact make_matches _ _ _ _ fun _ => make_matches _ _ _ _ fun _ =>
      release_returns emptyHanded .userConn .exclusive map true rfl

/-- The lookup of a group is one section. -/
theorem cached_is (groupid : Int) : Is emptyHanded (Scope.cached groupid).locked
    (Scope.cached groupid).whole := by
  refine Matches.acquire (S := service) emptyHanded .group .shared (.cached groupid) _ _ rfl
    (fun _ _ => rfl) fun map => ?_
  have has := Held.set_self (S := service) emptyHanded Lock.group (some ⟨.shared, map, map⟩)
  refine read_matches _ .group _ (.find groupid) _ _ has rfl ?_
  exact release_returns emptyHanded .group .shared map _ rfl

/-- The members that are loaded are added in one section. -/
theorem addMembers_is (groupid : Int) (groupUsers : List Int) : Is emptyHanded
    (Scope.addMembers groupid groupUsers).locked (Scope.addMembers groupid groupUsers).whole := by
  refine acquire_matches emptyHanded .group .exclusive (.addMembers groupid groupUsers) _ _ rfl
    nofun fun map => ?_
  have has := Held.set_self (S := service) emptyHanded Lock.group
    (some ⟨.exclusive, map, (change .group (.addMembers groupid groupUsers) map).2⟩)
  refine matches_body (S := service) (does_insertAll groupid groupUsers map) _ _ has _ _ ?_
  rw [Held.set_set]
  have asked := subscribe_is groupid (emptyHanded.set Lock.group
    (some ⟨.exclusive, (change .group (.addMembers groupid groupUsers) map).2,
      (change .group (.addMembers groupid groupUsers) map).2⟩)) rfl
  refine matches_bind_pure asked _ ?_
  rintro ended _ _ ⟨rfl, _⟩
  exact release_returns emptyHanded .group .exclusive _ () rfl

/-- Every scope of a handler is its sections, and gives back the locks it takes. -/
theorem scope_matches (scope : Scope) : Is emptyHanded scope.locked scope.whole := by
  cases scope with
  | record id conn =>
    exact operation_is emptyHanded .userConn (.record id conn) (.insert id conn)
      (fun value => value) rfl fun _ => ⟨rfl, rfl⟩
  | forget id =>
    exact operation_is emptyHanded .userConn (.forget id) (.erase id) (fun value => value) rfl
      fun _ => ⟨rfl, rfl⟩
  | takeEntry hint conn => exact takeEntry_is hint conn
  | relay conn toId js => exact relay_is conn toId js
  | enter id group =>
    have inOne := scope_is emptyHanded .group (.enter id group)
      (apply .group (.subscript group.id) >>= fun _ => enterAll id group.id group.users)
      (fun value => value) rfl fun map => ⟨(), does_enter id group map, rfl⟩
    simp only [bind_assoc] at inOne
    exact inOne
  | leave id => exact leave_is id
  | addMember groupid id =>
    exact operation_is emptyHanded .group (.addMember groupid id) (.insert groupid id)
      (fun value => value) rfl fun _ => ⟨rfl, rfl⟩
  | cached groupid => exact cached_is groupid
  | addMembers groupid groupUsers => exact addMembers_is groupid groupUsers
  | subscribe groupid => exact subscribe_is groupid emptyHanded rfl
  | make call =>
    exact Matches.outside (S := service) emptyHanded call _ _ fun reply =>
      Matches.done _ _ _ ⟨rfl, rfl⟩

/-!
## The subscriber thread
-/

/-- The callback holds the group's lock while it looks up one member after another. -/
theorem fanOut_is (js : Json) (groupid : Int) (map : MemberMap) (held : service.Held)
    (has : held .group = some ⟨.shared, map, map⟩) (free : held .userConn = none)
    (left position : Nat)
    (remaining : left + position = (membersIn map groupid).elements.length) :
    Is held (fanOut js groupid left position)
      (fanOutWhole js ((membersIn map groupid).elements.drop position)) := by
  induction left generalizing position with
  | zero =>
    rw [List.drop_eq_nil_of_le (by omega)]
    exact Matches.done _ _ _ ⟨rfl, rfl⟩
  | succ left inductionHypothesis =>
    have within : position < (membersIn map groupid).elements.length := by omega
    have atPosition : (operate .group (.memberAt groupid position) map).1 =
        some (membersIn map groupid).elements[position] := List.getElem?_eq_getElem within
    have later := inductionHypothesis (position + 1) (by omega)
    rw [List.drop_eq_getElem_cons within, fanOut, fanOutWhole]
    refine read_matches held .group _ (.memberAt groupid position) _ _ has rfl ?_
    rw [atPosition]
    generalize (membersIn map groupid).elements[position] = uid
    refine acquire_matches held .userConn .shared (.connOf uid) _ _ free (fun _ _ => rfl)
      fun conns => ?_
    refine read_matches _ .userConn _ (.find uid) _ _ (Held.set_self ..) rfl ?_
    have after : ∀ value : Unit, Sections.Matches (S := service) (Returns held)
        (held.set .userConn (some ⟨.shared, conns, conns⟩))
        (release .userConn >>= fun _ => fanOut js groupid left (position + 1))
        (fanOutWhole js ((membersIn map groupid).elements.drop (position + 1))) := by
      intro _
      refine release_matches _ .userConn _ _ _ (Held.set_self ..) rfl ?_
      rw [Held.set_set, Held.set_same _ _ _ free]
      exact later
    dsimp only
    rw [(found_conn uid conns).1, (found_conn uid conns).2]
    cases conns.lookup uid with
    | none => exact after ()
    | some conn => exact make_matches _ _ _ _ fun _ => after ()

/-- A callback that returns has given its own locks back. One that hangs has changed no
container. -/
def CalledBack (held ended : service.Held) (value other : Except Escape Unit) : Prop :=
  value = other ∧ (value ≠ .error .hangs → ended = held) ∧
    ∀ lock hold, ended lock = some hold → hold.now = hold.final

/-- The callback leaves the locks of its caller as they are. -/
theorem calledBack_returns (held : service.Held)
    (settled : ∀ lock hold, held lock = some hold → hold.now = hold.final)
    (value : Except Escape Unit) : CalledBack held held value value :=
  ⟨rfl, fun _ => rfl, settled⟩

/-- What returns so has left them. -/
theorem calledBack_mono (held : service.Held)
    (settled : ∀ lock hold, held lock = some hold → hold.now = hold.final)
    (ended : service.Held) (value other : Except Escape Unit)
    (returned : Returns held ended value other) : CalledBack held ended value other := by
  obtain ⟨rfl, rfl⟩ := returned
  exact calledBack_returns ended settled value

/-- The callback does its sections under whatever its caller holds. -/
theorem inboxCallback_matches (js : Json) (held : service.Held)
    (settled : ∀ lock hold, held lock = some hold → hold.now = hold.final)
    (freeConn : held .userConn = none) (freeGroup : held .group = none) :
    Sections.Matches (S := service) (CalledBack held) held (inboxCallback js)
      (inboxCallbackWhole js) := by
  have ends := calledBack_mono held settled
  rw [inboxCallback, inboxCallbackWhole]
  split
  · cases js.int "to" with
    | error exception => exact Matches.done _ _ _ (calledBack_returns held settled _)
    | ok toId =>
      refine acquire_matches held .userConn .shared (.connOf toId) _ _ freeConn (fun _ _ => rfl)
        fun conns => ?_
      refine read_matches _ .userConn _ (.find toId) _ _ (Held.set_self ..) rfl ?_
      have returns := matches_mono
        (release_returns held .userConn .shared conns (.ok () : Except Escape Unit) freeConn) ends
      dsimp only
      rw [(found_conn toId conns).1, (found_conn toId conns).2]
      cases conns.lookup toId with
      | some conn => exact make_matches _ _ _ _ fun _ => returns
      | none =>
        refine make_matches _ _ _ _ fun stored => ?_
        cases stored with
        | some success => exact make_matches _ _ _ _ fun _ => returns
        | none =>
          exact Matches.done _ _ _ ⟨rfl, fun returned => absurd rfl returned,
            finished_set settled .userConn .shared conns⟩
  · split
    · cases js.int "groupid" with
      | error exception => exact Matches.done _ _ _ (calledBack_returns held settled _)
      | ok groupid =>
        refine acquire_matches held .group .shared (.membersOf groupid) _ _ freeGroup
          (fun _ _ => rfl) fun map => ?_
        have has := Held.set_self (S := service) held Lock.group (some ⟨.shared, map, map⟩)
        have free : (held.set .group (some ⟨.shared, map, map⟩)) .userConn = none := by
          rw [Held.set_other _ (by decide)]
          exact freeConn
        have returns := matches_mono
          (release_returns held .group .shared map (.ok () : Except Escape Unit) freeGroup) ends
        refine read_matches _ .group _ (.find groupid) _ _ has rfl ?_
        dsimp only
        cases found : map.lookup groupid with
        | none =>
          have absent : groupid ∉ map := AList.lookup_eq_none.mp found
          have asLocked : (operate .group (.find groupid) map).1 = false := decide_eq_false absent
          have asWhole : (change .group (.membersOf groupid) map).1 = none := by
            simp only [change, found, Option.map_none]
          rw [asLocked, asWhole]
          exact returns
        | some members =>
          have present : groupid ∈ map := AList.lookup_isSome.mp (by rw [found]; rfl)
          have asLocked : (operate .group (.find groupid) map).1 = true := decide_eq_true present
          have asWhole : (change .group (.membersOf groupid) map).1 = some members.elements := by
            simp only [change, found, Option.map_some]
          have listed : membersIn map groupid = members := by
            rw [membersIn, found, Option.getD_some]
          rw [asLocked, asWhole]
          refine read_matches _ .group _ (.memberCount groupid) _ _ has rfl ?_
          have sent := fanOut_is js groupid map _ has free members.elements.length 0
            (by rw [listed, Nat.add_zero])
          rw [listed, List.drop_zero] at sent
          have counted : (operate .group (.memberCount groupid) map).1 =
              members.elements.length := congrArg (fun set => set.elements.length) listed
          rw [counted]
          refine matches_bind sent _ _ ?_
          rintro ended _ _ ⟨rfl, _⟩
          exact returns
    · exact Matches.done _ _ _ (calledBack_returns held settled _)

/-- A published message is handed over under the lock of the callback. -/
theorem dispatch_matches (js : Json) :
    Sections.Matches (S := service) Settled emptyHanded (dispatchMessageToLocal js)
      (dispatchWhole js) := by
  refine acquire_matches emptyHanded .callback .exclusive .test _ _ rfl nofun fun isSet => ?_
  have has := Held.set_self (S := service) emptyHanded Lock.callback
    (some ⟨.exclusive, isSet, isSet⟩)
  have nothing : ∀ (lock : Lock) (hold : service.Hold lock),
      emptyHanded (S := service) lock = some hold → hold.now = hold.final := nofun
  have returns : ∀ value : Except Escape Unit, Sections.Matches (S := service) Settled
      (emptyHanded.set .callback (some ⟨.exclusive, isSet, isSet⟩))
      (release .callback >>= fun _ => pure value) (pure value) := fun value =>
    matches_mono (release_returns emptyHanded .callback .exclusive isSet value rfl)
      settled_of_returns
  refine read_matches _ .callback _ .test _ _ has rfl ?_
  change Sections.Matches (S := service) Settled _ (if isSet = true then _ else _)
    (if isSet = true then _ else _)
  split
  · have called := inboxCallback_matches js _
      (finished_set (S := service) nothing .callback .exclusive isSet) rfl rfl
    refine matches_bind_pure called _ ?_
    rintro ended value other ⟨rfl, returned, settled⟩
    cases value with
    | error escape =>
      cases escape with
      | hangs => exact Matches.done _ _ _ ⟨rfl, settled⟩
      | json exception =>
        rw [returned nofun]
        exact returns _
    | ok value =>
      rw [returned nofun]
      exact returns _
  · exact returns _

/-- A task is recorded in one section. -/
theorem settle_is (task : SubTask) : Is emptyHanded (settle task) (settleWhole task) := by
  cases task with
  | subscribe groupId =>
    exact operation_is emptyHanded .sub (.settle (.subscribe groupId)) (.insert groupId)
      (fun value => value) rfl fun _ => ⟨rfl, rfl⟩
  | unsubscribe groupId =>
    exact operation_is emptyHanded .sub (.settle (.unsubscribe groupId)) (.erase groupId)
      (fun value => value) rfl fun _ => ⟨rfl, rfl⟩
  | stop => exact Matches.done _ _ _ ⟨rfl, rfl⟩

/-- The first task of a batch, and then the others. -/
theorem process_cons (fails : List Bool) (task : SubTask) (rest : List SubTask)
    (notStop : task ≠ .stop) : process fails (task :: rest) =
      make (.channel task (fails.headD false)) >>= fun done =>
        (if done = true then settle task else pure ()) >>= fun _ => process fails.tail rest := by
  cases task with
  | stop => exact absurd rfl notStop
  | _ =>
    rw [process]
    · congr 1
      funext done
      cases done <;> rfl
    · exact nofun

/-- The same in whole sections. -/
theorem processWhole_cons (fails : List Bool) (task : SubTask) (rest : List SubTask)
    (notStop : task ≠ .stop) : processWhole fails (task :: rest) =
      makeAtOnce (.channel task (fails.headD false)) >>= fun done =>
        (if done = true then settleWhole task else pure ()) >>= fun _ =>
          processWhole fails.tail rest := by
  cases task with
  | stop => exact absurd rfl notStop
  | _ =>
    rw [processWhole]
    · congr 1
      funext done
      cases done <;> rfl
    · exact nofun

/-- The tasks of a batch are done in sections. -/
theorem process_is (tasks : List SubTask) : ∀ fails : List Bool,
    Is emptyHanded (process fails tasks) (processWhole fails tasks) := by
  induction tasks with
  | nil => exact fun fails => Matches.done _ _ _ ⟨rfl, rfl⟩
  | cons task rest inductionHypothesis =>
    intro fails
    by_cases stops : task = .stop
    · subst stops
      exact Matches.outside (S := service) emptyHanded .stop _ _ fun _ =>
        Matches.done _ _ _ ⟨rfl, rfl⟩
    · rw [process_cons fails task rest stops, processWhole_cons fails task rest stops]
      refine make_matches _ _ _ _ fun done => ?_
      have settled : Is emptyHanded (if done = true then settle task else pure ())
          (if done = true then settleWhole task else pure ()) := by
        split
        · exact settle_is task
        · exact Matches.done _ _ _ ⟨rfl, rfl⟩
      refine matches_bind settled _ _ ?_
      rintro ended _ _ ⟨rfl, _⟩
      exact inductionHypothesis fails.tail

/-- So is a round of the thread. -/
theorem batch_is (fails : List Bool) : Is emptyHanded (batch fails) (batchWhole fails) := by
  refine make_matches _ _ _ _ fun stopped => ?_
  cases stopped with
  | true => exact Matches.done _ _ _ ⟨rfl, rfl⟩
  | false =>
    refine acquire_matches emptyHanded .sub .exclusive .swap _ _ rfl nofun fun queue => ?_
    refine apply_matches _ .sub _ .swap _ _ (Held.set_self ..) nofun ?_
    refine release_matches _ .sub _ _ _ (Held.set_self ..) rfl ?_
    rw [Held.set_set, Held.set_set, Held.set_same (S := service) emptyHanded Lock.sub none rfl]
    exact process_is queue.subTasks fails

/-!
## All activities
-/

/-- Whatever scopes a handler consists of, it is the sequence of their sections. -/
theorem expand_is {α : Type} (text : Program Scope Scope.Value α) :
    Is emptyHanded (text.expand Scope.locked) (text.expand Scope.whole) := by
  induction text with
  | done value => exact Matches.done _ _ _ ⟨rfl, rfl⟩
  | call step next inductionHypothesis =>
    refine matches_bind (scope_matches step) _ _ ?_
    rintro ended value _ ⟨rfl, rfl⟩
    exact inductionHypothesis value

/-- A result that is only renamed is found by the same sections. -/
theorem map_is {α β : Type} (f : α → β) {locked : Locked α} {whole : Whole α}
    (same : Is emptyHanded locked whole) : Is emptyHanded (f <$> locked) (f <$> whole) := by
  rw [← bind_pure_comp, ← bind_pure_comp]
  refine matches_bind same _ _ ?_
  rintro ended value _ ⟨rfl, rfl⟩
  exact Matches.done _ _ _ ⟨rfl, rfl⟩

/-- Whatever a thread does, it does in the sections of its activity. -/
theorem activity_matches (activity : Activity) :
    Sections.Matches (S := service) Settled emptyHanded activity.locked activity.whole := by
  cases activity with
  | request request conn js => exact matches_mono (expand_is _) settled_of_returns
  | quit hint conn => exact matches_mono (expand_is _) settled_of_returns
  | setInboxCallback =>
    have assigned := operation_is emptyHanded .callback .assign .assign (fun value => value) rfl
      fun _ => ⟨rfl, rfl⟩
    exact matches_mono (map_is Except.ok assigned) settled_of_returns
  | dispatch js => exact dispatch_matches js
  | batch fails => exact matches_mono (map_is Except.ok (batch_is fails)) settled_of_returns
  | surroundings mysql redis =>
    exact Matches.outside (S := service) emptyHanded (.surroundings mysql redis) _ _ fun _ =>
      Matches.done _ _ _ (settled_of_returns _ _ _ ⟨rfl, rfl⟩)

end ClusterChat.LockedService
