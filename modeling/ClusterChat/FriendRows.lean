import ClusterChat.Friendship
import Mathlib.Data.Set.Basic
import Mathlib.Logic.Relation

/-!
# The rows that requests to add friends leave

`FriendModel::insert` puts the smaller id first, and the table rejects a row it has, or
one of a user that does not exist. The rows after any requests are therefore those from
before and one row for each unordered pair of existing users that was requested: which
request of a pair came first, how often it came and which of the two users sent it does
not show in them.

`friend_rows` says so of the rows that relate distinct users, and `Rearranged` is what
may be done to the requests without a difference. A request may be malformed, name users
who do not exist, or name one user twice; a row of one user with itself is not looked at.
Each request finds a connection, and a statement throws only when the tables reject it.
-/

namespace ClusterChat.FriendRows

open ChatService Friendship

/-- The tables after the requests. -/
def tablesAfter (w : World) (requests : List (Conn × Json)) : Database :=
  (Runs.run step w requests).mysql.database

/-- The rows that relate distinct users. -/
def relating (db : Database) : Set FriendRow :=
  {row | row ∈ db.friend ∧ row.userid ≠ row.friendid}

/-- One row, the smaller id first, for each unordered pair of distinct existing users
that some request names. -/
def requestedRows (db : Database) (requests : List (Conn × Json)) : Set FriendRow :=
  {row | row.userid < row.friendid ∧ db.hasUser row.userid = true ∧
    db.hasUser row.friendid = true ∧ Requested requests row.userid row.friendid}

/-- A request moves elsewhere, comes once more, or names its two users the other way
round. The connections may be others. -/
inductive Rearranges : List (Conn × Json) → List (Conn × Json) → Prop
  | reordered (requests others : List (Conn × Json)) (same : requests.Perm others) :
      Rearranges requests others
  | repeated (requests : List (Conn × Json)) (request again : Conn × Json)
      (member : request ∈ requests) (same : pairOf again.2 = pairOf request.2) :
      Rearranges requests (again :: requests)
  | swapped (before after : List (Conn × Json)) (request turned : Conn × Json) (a b : Int)
      (named : pairOf request.2 = some (a, b)) (reversed : pairOf turned.2 = some (b, a)) :
      Rearranges (before ++ request :: after) (before ++ turned :: after)

/-- Any number of these changes, in both directions. -/
def Rearranged : List (Conn × Json) → List (Conn × Json) → Prop := Relation.EqvGen Rearranges

/-!
## The requested pairs
-/

/-- A pair is requested in a list if it is in one of its parts. -/
theorem requested_append (requests others : List (Conn × Json)) (a b : Int) :
    Requested (requests ++ others) a b ↔ Requested requests a b ∨ Requested others a b := by
  simp only [Requested, List.mem_append, or_and_right, exists_or]

/-- A single request asks for its pair, in either order. -/
theorem requested_singleton (request : Conn × Json) (a b : Int) :
    Requested [request] a b ↔
      pairOf request.2 = some (a, b) ∨ pairOf request.2 = some (b, a) := by
  simp [Requested]

/-- A pair is requested by the first request or by a later one. -/
theorem requested_cons (request : Conn × Json) (requests : List (Conn × Json)) (a b : Int) :
    Requested (request :: requests) a b ↔ Requested [request] a b ∨ Requested requests a b :=
  requested_append [request] requests a b

/-- No change of the kind makes a difference to the pairs. -/
theorem requested_rearranges (requests others : List (Conn × Json))
    (rearranges : Rearranges requests others) (a b : Int) :
    Requested requests a b ↔ Requested others a b := by
  cases rearranges with
  | reordered _ _ same => simp only [Requested, same.mem_iff]
  | repeated _ request again member same =>
    have known : Requested [again] a b → Requested requests a b := by
      rw [requested_singleton, same]
      intro named
      exact ⟨request, member, named⟩
    rw [requested_cons again]
    exact (or_iff_right_of_imp known).symm
  | swapped before after request turned c d named reversed =>
    have turning : Requested [request] a b ↔ Requested [turned] a b := by
      rw [requested_singleton, requested_singleton, named, reversed]
      simp only [Option.some.injEq, Prod.mk.injEq]
      tauto
    rw [requested_append, requested_append, requested_cons request, requested_cons turned, turning]

/-- Rearranging requests does not change the pairs they ask for. -/
theorem requested_rearranged (requests others : List (Conn × Json))
    (rearranged : Rearranged requests others) (a b : Int) :
    Requested requests a b ↔ Requested others a b := by
  induction rearranged with
  | rel requests others rearranges => exact requested_rearranges requests others rearranges a b
  | refl requests => exact Iff.rfl
  | symm requests others _ inductionHypothesis => exact inductionHypothesis.symm
  | trans requests others last _ _ first second => exact first.trans second

/-!
## One request
-/

/-- The row of a pair of users relates distinct users if they are distinct, and is then
the pair's row. -/
theorem rowOf_relating (a b : Int) (row : FriendRow) (distinct : row.userid ≠ row.friendid) :
    row = FriendModel.rowOf a b ↔ row.userid < row.friendid ∧
      ((a = row.userid ∧ b = row.friendid) ∨ (a = row.friendid ∧ b = row.userid)) := by
  obtain ⟨first, second⟩ := row
  simp only [FriendModel.rowOf] at distinct ⊢
  split <;> simp only [FriendRow.mk.injEq] <;> omega

/-- A row goes into the table, or it is there or lacks a user. -/
theorem mem_apply_insertFriend (db : Database) (conn : Connection) (a b : Int) (row : FriendRow) :
    row ∈ (db.apply conn (.insertFriend a b)).friend ↔
      row ∈ db.friend ∨ row = ⟨a, b⟩ ∧ db.hasUser a = true ∧ db.hasUser b = true := by
  simp only [Database.apply, Database.update]
  split
  · rename_i next accepted
    split at accepted
    · cases accepted
    · rename_i valid
      cases accepted
      simp only [not_or, Bool.not_eq_false] at valid
      simp [valid.2.1, valid.2.2]
  · rename_i exception refused
    split at refused
    · rename_i invalid
      constructor
      · exact Or.inl
      · rintro (old | ⟨rfl, first, second⟩)
        · exact old
        · rcases invalid with stored | absent | absent
          · exact stored
          · rw [first] at absent
            cases absent
          · rw [second] at absent
            cases absent
    · cases refused

/-- With a connection an update is attempted once. -/
theorem borrowing_update_serves (m : Access) (statement : Update) (serves : m.Serves) : ∃ conn,
    (m.run (borrowing () () fun conn => do
      prepareStatement conn
      executeUpdate conn statement)).2.database = m.database.apply conn statement := by
  obtain ⟨conn, granted, acquired, same, still⟩ := m.serves_getConnection serves
  obtain ⟨prepared, preparing, kept, served⟩ := granted.serves_prepareStatement conn still
  obtain ⟨executed, executing, applied, _⟩ := prepared.serves_executeUpdate conn statement served
  refine ⟨conn, ?_⟩
  rw [kept, same] at applied
  simp only [Access.run, run_borrowing, acquired, Program.run_try_bind, run_prepareStatement,
    preparing, run_executeUpdate, executing]
  cases ended : prepared.database.update conn statement with
  | error exception => exact applied
  | ok next => exact applied

/-- With the database serving, `insert` performs its statement on the ordered pair. -/
theorem insert_serves (m : Access) (a b : Int) (serves : m.Serves) : ∃ conn,
    (m.run (FriendModel.insert a b)).2.database = m.database.apply conn
      (.insertFriend (FriendModel.rowOf a b).userid (FriendModel.rowOf a b).friendid) := by
  unfold FriendModel.insert FriendModel.rowOf
  split
  · exact borrowing_update_serves m (.insertFriend a b) serves
  · exact borrowing_update_serves m (.insertFriend b a) serves

/-- What one request does to the tables. -/
structure Adds (before after : Access) (request : Conn × Json) : Prop where
  serves : after.Serves
  keys : after.database.Keys
  users : after.database.user = before.database.user
  rows : relating after.database =
    relating before.database ∪ requestedRows before.database [request]

/-- A request that does not name two users adds nothing. -/
theorem adds_malformed (w : World) (request : Conn × Json) (serves : w.mysql.Serves)
    (keys : w.mysql.database.Keys) (unnamed : pairOf request.2 = none) :
    Adds w.mysql (step w request).mysql request := by
  have unchanged : (step w request).mysql = w.mysql := by
    unfold pairOf at unnamed
    rw [step, addFriend]
    cases first : request.2.int "id" with
    | error exception => rfl
    | ok userid =>
      cases second : request.2.int "friendid" with
      | error exception => rfl
      | ok friendid => simp [first, second] at unnamed
  have none : requestedRows w.mysql.database [request] = ∅ := by
    refine Set.eq_empty_iff_forall_notMem.mpr ?_
    rintro row ⟨_, _, _, requested⟩
    rw [requested_singleton, unnamed] at requested
    rcases requested with named | named <;> cases named
  rw [unchanged]
  exact ⟨serves, keys, rfl, by rw [none, Set.union_empty]⟩

/-- The row of a pair that names existing users is the requested one. -/
theorem requestedRows_named (db : Database) (request : Conn × Json) (a b : Int)
    (named : pairOf request.2 = some (a, b)) (row : FriendRow)
    (distinct : row.userid ≠ row.friendid) :
    row ∈ requestedRows db [request] ↔ row = FriendModel.rowOf a b ∧
      db.hasUser (FriendModel.rowOf a b).userid = true ∧
      db.hasUser (FriendModel.rowOf a b).friendid = true := by
  have ofPair : Requested [request] row.userid row.friendid ↔
      (a = row.userid ∧ b = row.friendid) ∨ (a = row.friendid ∧ b = row.userid) := by
    rw [requested_singleton, named]
    simp only [Option.some.injEq, Prod.mk.injEq]
  constructor
  · rintro ⟨below, first, second, requested⟩
    have isRow : row = FriendModel.rowOf a b :=
      (rowOf_relating a b row distinct).mpr ⟨below, ofPair.mp requested⟩
    exact ⟨isRow, isRow ▸ first, isRow ▸ second⟩
  · rintro ⟨isRow, first, second⟩
    obtain ⟨below, pair⟩ := (rowOf_relating a b row distinct).mp isRow
    exact ⟨below, isRow ▸ first, isRow ▸ second, ofPair.mpr pair⟩

/-- A request with both ids adds the row of its pair. -/
theorem adds_named (w : World) (request : Conn × Json) (a b : Int) (serves : w.mysql.Serves)
    (keys : w.mysql.database.Keys) (named : pairOf request.2 = some (a, b)) :
    Adds w.mysql (step w request).mysql request := by
  rw [step_named w request a b named]
  obtain ⟨conn, applied⟩ := insert_serves w.mysql a b serves
  refine ⟨w.mysql.run_serves _ serves, ?_, ?_, ?_⟩
  · rw [applied]
    exact keys.apply conn _
  · rw [applied]
    exact apply_insertFriend_users w.mysql.database _ _
  · rw [applied]
    ext row
    by_cases distinct : row.userid ≠ row.friendid
    · have inserted := mem_apply_insertFriend w.mysql.database conn
        (FriendModel.rowOf a b).userid (FriendModel.rowOf a b).friendid row
      have requested := requestedRows_named w.mysql.database request a b named row distinct
      rw [Set.mem_union, requested]
      exact (and_iff_left distinct).trans
        (inserted.trans (or_congr_left (and_iff_left distinct).symm))
    · have same : row.userid = row.friendid := not_not.mp distinct
      constructor
      · exact fun related => absurd related.2 distinct
      · rintro (related | requested)
        · exact absurd related.2 distinct
        · exact absurd same (ne_of_lt requested.1)

/-- Every request adds the rows of its pair, if it has one. -/
theorem adds_step (w : World) (request : Conn × Json) (serves : w.mysql.Serves)
    (keys : w.mysql.database.Keys) : Adds w.mysql (step w request).mysql request := by
  cases named : pairOf request.2 with
  | none => exact adds_malformed w request serves keys named
  | some pair => exact adds_named w request pair.1 pair.2 serves keys named

/-!
## All of them
-/

/-- Only the users of the tables decide which rows are requested. -/
theorem requestedRows_users (before after : Database) (requests : List (Conn × Json))
    (users : after.user = before.user) :
    requestedRows after requests = requestedRows before requests := by
  simp only [requestedRows, Database.hasUser, users]

/-- The rows of a list are those of its first request and of the rest. -/
theorem requestedRows_cons (db : Database) (request : Conn × Json)
    (requests : List (Conn × Json)) :
    requestedRows db (request :: requests) =
      requestedRows db [request] ∪ requestedRows db requests := by
  ext row
  simp only [requestedRows, Set.mem_union, Set.mem_ofPred_eq, requested_cons request requests]
  tauto

/-- After the requests the rows are the old and the requested ones, and the keys hold. -/
theorem relating_run (w : World) (requests : List (Conn × Json)) (serves : w.mysql.Serves)
    (keys : w.mysql.database.Keys) : (tablesAfter w requests).Keys ∧
      relating (tablesAfter w requests) =
        relating w.mysql.database ∪ requestedRows w.mysql.database requests := by
  induction requests generalizing w with
  | nil =>
    have none : requestedRows w.mysql.database [] = ∅ := by simp [requestedRows, Requested]
    rw [none, Set.union_empty]
    exact ⟨keys, rfl⟩
  | cons request rest inductionHypothesis =>
    have adds := adds_step w request serves keys
    obtain ⟨distinct, rows⟩ := inductionHypothesis (step w request) adds.serves adds.keys
    refine ⟨distinct, ?_⟩
    calc relating (tablesAfter w (request :: rest))
        = relating (step w request).mysql.database ∪
            requestedRows (step w request).mysql.database rest := rows
      _ = relating w.mysql.database ∪ requestedRows w.mysql.database (request :: rest) := by
          rw [adds.rows, requestedRows_users _ _ rest adds.users,
            requestedRows_cons _ request rest, Set.union_assoc]

/-- After any requests the table has no row twice, its rows of distinct users are those
from before and one row for each unordered pair of distinct existing users that was
requested, the smaller id first, and the same rows are there after the requests in
another order, with repetitions or with the users of a pair exchanged. -/
theorem friend_rows (w : World) (requests : List (Conn × Json)) (serves : w.mysql.Serves)
    (keys : w.mysql.database.Keys) :
    (tablesAfter w requests).friend.Nodup ∧
    relating (tablesAfter w requests) =
      relating w.mysql.database ∪ requestedRows w.mysql.database requests ∧
    ∀ others, Rearranged requests others →
      relating (tablesAfter w others) = relating (tablesAfter w requests) := by
  obtain ⟨distinct, rows⟩ := relating_run w requests serves keys
  refine ⟨distinct.friends, rows, ?_⟩
  intro others rearranged
  have same : requestedRows w.mysql.database others = requestedRows w.mysql.database requests := by
    simp only [requestedRows, requested_rearranged requests others rearranged]
  rw [rows, (relating_run w others serves keys).2, same]

/-- Each of the users of `pair` asks for the other. -/
def bothWays : List (Conn × Json) := [(⟨"c"⟩, request 2 1), (⟨"d"⟩, request 1 2)]

/-- Two users who request each other. -/
theorem friend_rows_pair :
    (tablesAfter (World.start "node-1" pair Redis.empty) bothWays).friend.Nodup ∧
    relating (tablesAfter (World.start "node-1" pair Redis.empty) bothWays) =
      relating pair ∪ requestedRows pair bothWays ∧
    ∀ others, Rearranged bothWays others →
      relating (tablesAfter (World.start "node-1" pair Redis.empty) others) =
        relating (tablesAfter (World.start "node-1" pair Redis.empty) bothWays) :=
  friend_rows (World.start "node-1" pair Redis.empty) bothWays (Access.serves_undisturbed pair)
    pair_keys

example : (tablesAfter (World.start "node-1" pair Redis.empty) bothWays).friend = [⟨1, 2⟩] := by
  decide

end ClusterChat.FriendRows
