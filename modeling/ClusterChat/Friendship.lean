import ClusterChat.ServiceRuns

/-!
# Friend rows, the friend list and the friend check

`FriendModel::insert` stores one row for a pair of users, the smaller id first.
`FriendModel::query` reads the rows by their first column only, and `oneChat`
checks a recipient against that list. A run of `addFriend` requests therefore
leaves exactly one canonical row for each requested pair, and lists it for the
smaller of the two users alone.

`friendship_mutual_iff` says when the list is symmetric all the same: exactly for
the pairs that are not friends. The runs are of requests between existing
distinct users, over tables whose keys hold and whose rows are canonical, as the
schema demands; an insertion may be rejected for a row that exists.
-/

namespace ClusterChat.Friendship

open ChatService

/-- The two users an `addFriend` request names. -/
def pairOf (js : Json) : Option (Int × Int) :=
  match js.int "id", js.int "friendid" with
  | .ok userid, .ok friendid => some (userid, friendid)
  | _, _ => none

/-- One request handled on some connection. -/
def step (w : World) (request : Conn × Json) : World := (addFriend request.1 request.2 w).2

/-- The request names two existing distinct users. -/
def Admissible (db : Database) (request : Conn × Json) : Prop :=
  ∃ userid friendid, pairOf request.2 = some (userid, friendid) ∧ userid ≠ friendid ∧
    db.hasUser userid = true ∧ db.hasUser friendid = true

/-- Some request names the two users, in one order or the other. -/
def Requested (requests : List (Conn × Json)) (a b : Int) : Prop :=
  ∃ request ∈ requests, pairOf request.2 = some (a, b) ∨ pairOf request.2 = some (b, a)

/-- Every row has the smaller id first. -/
def Canonical (db : Database) : Prop := ∀ row ∈ db.friend, row.userid < row.friendid

/-- `FriendModel::query` lists the second user for the first. -/
def Lists (w : World) (a b : Int) : Prop :=
  ∃ user ∈ (w.mysql.run (FriendModel.query a)).1, user.id = b

/-- The friend check of `oneChat` lets the first user write to the second. -/
def Accepts (w : World) (a b : Int) : Prop := (friendCheck a b w).1 = .ok true

/-- The law a friendship should obey in the world after the requests. -/
def Mutual (w : World) (requests : List (Conn × Json)) (a b : Int) : Prop :=
  (Lists w a b ↔ Lists w b a) ∧ (Requested requests a b → Lists w a b ∧ Lists w b a) ∧
    (Accepts w a b ↔ Accepts w b a)

/-- The check of `oneChat` accepts the friends the query lists. -/
theorem accepts_iff (w : World) (a b : Int) : Accepts w a b ↔ Lists w a b := by
  rw [Accepts, friendCheck, Effect.bind_ok _ _ _ _ _ (sql_run _ w)]
  change (Except.ok ((w.mysql.run (FriendModel.query a)).1.any (fun user => user.id = b)) :
    Except Escape Bool) = Except.ok true ↔ _
  simp [Lists]

/-- The row of a pair does not depend on the order of its users. -/
theorem rowOf_comm (a b : Int) : FriendModel.rowOf a b = FriendModel.rowOf b a := by
  unfold FriendModel.rowOf
  split
  · rename_i below
    rw [if_neg (not_lt.mpr (le_of_lt below))]
  · rename_i notBelow
    split
    · rfl
    · rename_i notAbove
      have same : a = b := le_antisymm (not_lt.mp notAbove) (not_lt.mp notBelow)
      rw [same]

/-- The row of two different ids has the smaller first. -/
theorem rowOf_canonical (a b : Int) (distinct : a ≠ b) :
    (FriendModel.rowOf a b).userid < (FriendModel.rowOf a b).friendid := by
  unfold FriendModel.rowOf
  split
  · assumption
  · rename_i notBelow
    exact lt_of_le_of_ne (not_lt.mp notBelow) (Ne.symm distinct)

/-- The rows of two pairs agree only for the same two users. -/
theorem rowOf_eq_iff (a b : Int) (row : FriendRow) (canonical : row.userid < row.friendid) :
    row = FriendModel.rowOf a b ↔
      (row.userid = a ∧ row.friendid = b) ∨ (row.userid = b ∧ row.friendid = a) := by
  obtain ⟨first, second⟩ := row
  simp only [FriendModel.rowOf] at canonical ⊢
  split <;> simp only [FriendRow.mk.injEq] <;> omega

/-- An accepted or rejected insertion of an admissible pair leaves its row in the
table, and every other row as it was. -/
theorem apply_insertFriend (db : Database) (a b : Int) (first : db.hasUser a = true)
    (second : db.hasUser b = true) (row : FriendRow) :
    row ∈ (db.apply 0 (.insertFriend (FriendModel.rowOf a b).userid
        (FriendModel.rowOf a b).friendid)).friend ↔
      row ∈ db.friend ∨ row = FriendModel.rowOf a b := by
  have users : db.hasUser (FriendModel.rowOf a b).userid = true ∧
      db.hasUser (FriendModel.rowOf a b).friendid = true := by
    unfold FriendModel.rowOf
    split
    · exact ⟨first, second⟩
    · exact ⟨second, first⟩
  unfold Database.apply
  by_cases stored : FriendModel.rowOf a b ∈ db.friend
  · have rejected : (⟨(FriendModel.rowOf a b).userid, (FriendModel.rowOf a b).friendid⟩ :
      FriendRow) ∈ db.friend := stored
    simp only [Database.update, rejected, true_or, if_true]
    constructor
    · exact Or.inl
    · rintro (old | new)
      · exact old
      · exact new ▸ stored
  · have absent : (⟨(FriendModel.rowOf a b).userid, (FriendModel.rowOf a b).friendid⟩ :
      FriendRow) ∉ db.friend := stored
    simp [Database.update, absent, users.1, users.2]

/-- Inserting a friendship adds no user. -/
theorem apply_insertFriend_users (db : Database) (a b : Int) :
    (db.apply 0 (.insertFriend a b)).user = db.user := by
  unfold Database.apply
  simp only [Database.update]
  split_ifs <;> rfl

/-- What a run knows of its tables: nothing disturbs them, the users are those it
started with, the keys hold, and the rows are the old and the requested ones. -/
structure Recorded (start : Database) (requests : List (Conn × Json)) (w : World) : Prop where
  quiet : w.mysql.Undisturbed
  keys : w.mysql.database.Keys
  users : w.mysql.database.user = start.user
  rows : ∀ row, row ∈ w.mysql.database.friend ↔ row ∈ start.friend ∨
    ∃ request ∈ requests, ∃ a b, pairOf request.2 = some (a, b) ∧ row = FriendModel.rowOf a b

/-- A request that names two users attempts the row of the pair. -/
theorem step_named (w : World) (request : Conn × Json) (a b : Int)
    (named : pairOf request.2 = some (a, b)) :
    (step w request).mysql = (w.mysql.run (FriendModel.insert a b)).2 := by
  unfold pairOf at named
  cases first : request.2.int "id" with
  | error exception => simp [first] at named
  | ok userid =>
    cases second : request.2.int "friendid" with
    | error exception => simp [first, second] at named
    | ok friendid =>
      simp only [first, second, Option.some.injEq, Prod.mk.injEq] at named
      obtain ⟨rfl, rfl⟩ := named
      rw [step, addFriend, first, second]
      rfl

/-- Undisturbed, a request with both ids performs its one statement. -/
theorem step_run (w : World) (request : Conn × Json) (a b : Int) (quiet : w.mysql.Undisturbed)
    (named : pairOf request.2 = some (a, b)) : (step w request).mysql =
      Access.undisturbed (w.mysql.database.apply 0 (.insertFriend
        (FriendModel.rowOf a b).userid (FriendModel.rowOf a b).friendid)) := by
  rw [step_named w request a b named, (Access.undisturbed_iff _).mp quiet,
    FriendModel.insert_undisturbed]
  rfl

/-- One request adds the row of its pair to what is recorded. -/
theorem recorded_step (start : Database) (requests : List (Conn × Json)) (request : Conn × Json)
    (w : World) (recorded : Recorded start requests w) (admissible : Admissible start request) :
    Recorded start (requests ++ [request]) (step w request) := by
  obtain ⟨a, b, named, _, first, second⟩ := admissible
  have ended := step_run w request a b recorded.quiet named
  have present (id : Int) (known : start.hasUser id = true) :
      w.mysql.database.hasUser id = true := by
    rw [Database.hasUser, recorded.users]
    exact known
  refine ⟨?_, ?_, ?_, ?_⟩
  · rw [ended]
    exact ⟨rfl, rfl⟩
  · rw [ended]
    exact recorded.keys.apply 0 _
  · rw [ended]
    exact (apply_insertFriend_users _ _ _).trans recorded.users
  · intro row
    rw [ended]
    change row ∈ (w.mysql.database.apply 0 _).friend ↔ _
    rw [apply_insertFriend _ a b (present a first) (present b second), recorded.rows, or_assoc]
    refine or_congr_right ?_
    simp only [List.mem_append, List.mem_singleton]
    constructor
    · rintro (⟨earlier, member, c, d, pair, same⟩ | same)
      · exact ⟨earlier, Or.inl member, c, d, pair, same⟩
      · exact ⟨request, Or.inr rfl, a, b, named, same⟩
    · rintro ⟨earlier, member | rfl, c, d, pair, same⟩
      · exact Or.inl ⟨earlier, member, c, d, pair, same⟩
      · rw [named, Option.some.injEq, Prod.mk.injEq] at pair
        exact Or.inr (pair.1 ▸ pair.2 ▸ same)

/-- The rows of the requests so far are recorded along a run. -/
theorem recorded_run (start : Database) (before requests : List (Conn × Json)) (w : World)
    (recorded : Recorded start before w)
    (admissible : ∀ request ∈ requests, Admissible start request) :
    Recorded start (before ++ requests) (Runs.run step w requests) := by
  induction requests generalizing before w with
  | nil => simpa using recorded
  | cons request rest inductionHypothesis =>
    have next := recorded_step start before request w recorded
      (admissible request List.mem_cons_self)
    have following := inductionHypothesis (before ++ [request]) (step w request) next
      (fun other member => admissible other (List.mem_cons_of_mem _ member))
    rwa [List.append_assoc] at following

/-- The list of a user is read off the rows that name the user first. -/
theorem lists_iff (w : World) (a b : Int) (quiet : w.mysql.Undisturbed)
    (keys : w.mysql.database.Keys) : Lists w a b ↔ ⟨a, b⟩ ∈ w.mysql.database.friend := by
  rw [Lists, (Access.undisturbed_iff _).mp quiet, FriendModel.query_undisturbed]
  change (∃ user ∈ ((w.mysql.database.friend.filter (fun row => row.userid = a)).flatMap
    (fun row => w.mysql.database.user.filter (fun user => user.id = row.friendid))).map
      FriendModel.ofRow, user.id = b) ↔ _
  simp only [List.mem_map, List.mem_flatMap, List.mem_filter, decide_eq_true_eq]
  constructor
  · rintro ⟨_, ⟨user, ⟨row, ⟨stored, owner⟩, _, friend⟩, rfl⟩, named⟩
    have isRow : row = ⟨a, b⟩ := by
      obtain ⟨userid, friendid⟩ := row
      simp only [FriendRow.mk.injEq]
      exact ⟨owner, friend.symm.trans named⟩
    exact isRow ▸ stored
  · intro stored
    obtain ⟨user, known, named⟩ :=
      (Database.hasUser_iff _ _).mp (keys.friendUsers ⟨a, b⟩ stored).2
    exact ⟨FriendModel.ofRow user, ⟨user, ⟨⟨a, b⟩, ⟨stored, rfl⟩, known, named⟩, rfl⟩, named⟩

/-- After the requests one user lists another exactly when the pair is stored or
requested and the first id is the smaller one. -/
theorem lists_run_iff (w : World) (requests : List (Conn × Json)) (a b : Int)
    (quiet : w.mysql.Undisturbed) (keys : w.mysql.database.Keys)
    (canonical : Canonical w.mysql.database)
    (admissible : ∀ request ∈ requests, Admissible w.mysql.database request) :
    Lists (Runs.run step w requests) a b ↔
      a < b ∧ (FriendModel.rowOf a b ∈ w.mysql.database.friend ∨ Requested requests a b) := by
  have start : Recorded w.mysql.database [] w := ⟨quiet, keys, rfl, by simp⟩
  have recorded := recorded_run w.mysql.database [] requests w start admissible
  rw [List.nil_append] at recorded
  rw [lists_iff _ a b recorded.quiet recorded.keys, recorded.rows]
  constructor
  · rintro (old | ⟨request, member, c, d, named, same⟩)
    · have below : a < b := canonical _ old
      refine ⟨below, Or.inl ?_⟩
      rw [FriendModel.rowOf, if_pos below]
      exact old
    · obtain ⟨c', d', named', distinct, _⟩ := admissible request member
      rw [named, Option.some.injEq, Prod.mk.injEq] at named'
      obtain ⟨rfl, rfl⟩ := named'
      have below : a < b := by
        have ordered := rowOf_canonical c d distinct
        rw [← same] at ordered
        exact ordered
      refine ⟨below, Or.inr ⟨request, member, ?_⟩⟩
      rcases (rowOf_eq_iff c d ⟨a, b⟩ below).mp same with ⟨rfl, rfl⟩ | ⟨rfl, rfl⟩
      · exact Or.inl named
      · exact Or.inr named
  · rintro ⟨below, old | ⟨request, member, named | named⟩⟩
    · rw [FriendModel.rowOf, if_pos below] at old
      exact Or.inl old
    · exact Or.inr ⟨request, member, a, b, named,
        (rowOf_eq_iff a b ⟨a, b⟩ below).mpr (Or.inl ⟨rfl, rfl⟩)⟩
    · exact Or.inr ⟨request, member, b, a, named,
        (rowOf_eq_iff b a ⟨a, b⟩ below).mpr (Or.inr ⟨rfl, rfl⟩)⟩

/-- Requested is symmetric. -/
theorem requested_comm (requests : List (Conn × Json)) (a b : Int) :
    Requested requests a b ↔ Requested requests b a := by
  simp only [Requested, or_comm]

/-- After any requests between existing distinct users the friend list and the
friend check are symmetric for two users, and list every requested friendship
on both sides, exactly when the two are not friends: neither stored before nor
requested. -/
theorem friendship_mutual_iff (w : World) (requests : List (Conn × Json)) (a b : Int)
    (quiet : w.mysql.Undisturbed) (keys : w.mysql.database.Keys)
    (canonical : Canonical w.mysql.database)
    (admissible : ∀ request ∈ requests, Admissible w.mysql.database request) :
    Mutual (Runs.run step w requests) requests a b ↔
      FriendModel.rowOf a b ∉ w.mysql.database.friend ∧ ¬ Requested requests a b := by
  have forward := lists_run_iff w requests a b quiet keys canonical admissible
  have backward := lists_run_iff w requests b a quiet keys canonical admissible
  rw [rowOf_comm b a, requested_comm requests b a] at backward
  rw [Mutual, accepts_iff, accepts_iff, forward, backward, ← not_or]
  constructor
  · rintro ⟨symmetric, _, _⟩ related
    have distinct : a ≠ b := by
      rintro rfl
      rcases related with old | ⟨request, member, named⟩
      · have below := canonical _ old
        simp [FriendModel.rowOf] at below
      · obtain ⟨c, d, named', differ, _⟩ := admissible request member
        rw [or_self, named', Option.some.injEq, Prod.mk.injEq] at named
        exact differ (named.1.trans named.2.symm)
    rcases lt_or_gt_of_ne distinct with below | above
    · exact lt_asymm below (symmetric.mp ⟨below, related⟩).1
    · exact lt_asymm above (symmetric.mpr ⟨above, related⟩).1
  · intro unrelated
    have never (c d : Int) : ¬ (c < d ∧ (FriendModel.rowOf a b ∈ w.mysql.database.friend ∨
        Requested requests a b)) := fun both => unrelated both.2
    refine ⟨iff_of_false (never a b) (never b a), ?_, iff_of_false (never a b) (never b a)⟩
    exact fun requested => absurd (Or.inr requested) unrelated

/-- Two users, not yet friends. -/
def pair : Database :=
  { Database.empty with
    user := [⟨1, "ann", "a", "offline"⟩, ⟨2, "bob", "b", "offline"⟩]
    nextUserId := 3 }

/-- The example's tables have their keys. -/
theorem pair_keys : pair.Keys := by
  constructor <;> decide

/-- The request the client sends. -/
def request (userid friendid : Int) : Json :=
  .object [("friendid", .integer friendid), ("id", .integer userid), ("msgid", .integer 7)]

/-- The example's tables have no row whose order could be wrong. -/
theorem pair_canonical : Canonical pair := by simp [Canonical, pair, Database.empty]

/-- The example's request names two users. -/
theorem pair_admissible : ∀ asked ∈ [(⟨"c"⟩, request 1 2)], Admissible pair asked := by
  intro asked member
  rw [List.mem_singleton.mp member]
  exact ⟨1, 2, rfl, by decide, by decide, by decide⟩

/-- One request between two users. -/
theorem friendship_mutual_pair :
    Mutual (Runs.run step (World.start "node-1" pair Redis.empty) [(⟨"c"⟩, request 1 2)])
        [(⟨"c"⟩, request 1 2)] 1 2 ↔
      FriendModel.rowOf 1 2 ∉ pair.friend ∧ ¬ Requested [(⟨"c"⟩, request 1 2)] 1 2 :=
  friendship_mutual_iff (World.start "node-1" pair Redis.empty) [(⟨"c"⟩, request 1 2)] 1 2
    ⟨rfl, rfl⟩ pair_keys pair_canonical pair_admissible

/-- After user 1 adds user 2, user 1 may write to user 2 and not the other way. -/
theorem addFriend_one_way : ¬ ∀ w requests a b, w.mysql.Undisturbed → w.mysql.database.Keys →
    Canonical w.mysql.database → (∀ request ∈ requests, Admissible w.mysql.database request) →
    Mutual (Runs.run step w requests) requests a b := by
  intro symmetric
  have law := symmetric (World.start "node-1" pair Redis.empty) [(⟨"c"⟩, request 1 2)] 1 2
    ⟨rfl, rfl⟩ pair_keys pair_canonical pair_admissible
  have requested : Requested [(⟨"c"⟩, request 1 2)] 1 2 :=
    ⟨_, List.mem_singleton.mpr rfl, Or.inl rfl⟩
  obtain ⟨user, listed, _⟩ := (law.2.1 requested).2
  exact absurd listed List.not_mem_nil

end ClusterChat.Friendship
