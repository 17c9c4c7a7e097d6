import ClusterChat.ServiceRuns

/-!
# Who is let in by a login

A login compares its request with the user object `UserModel::query` returns.
The object is a row only on one of the four exits of the query. Without a
connection it has id 0, after an exception or an empty result id -1, and both
have the empty password; and the id of the request was narrowed to 32 bits
before. A request can match each of these without any account.

`login_sound_iff` says these are the only ways in without an account. It speaks
of one login in an arbitrary world: any tables, any pattern of acquisitions and
exceptions, any presence records. Whether an account should be shared by two
sessions is not its subject.
-/

namespace ClusterChat.Authentication

open ChatService

/-- The table has a row with exactly this id and password. -/
def HasAccount (db : Database) (id : Int) (pwd : String) : Prop :=
  ∃ row ∈ db.user, row.id = id ∧ row.password = pwd

/-- The pool gives the query no connection. -/
def Unconnected (mysql : Access) : Prop := (nextOf (some 0) mysql.grants).1 = none

/-- One of the two calls on the connection throws. -/
def Throws (mysql : Access) : Prop :=
  (nextOf false mysql.throws).1 = true ∨ (nextOf false (nextOf false mysql.throws).2).1 = true

instance (mysql : Access) : Decidable (Unconnected mysql) := inferInstanceAs (Decidable (_ = none))

instance (mysql : Access) : Decidable (Throws mysql) := inferInstanceAs (Decidable (_ ∨ _))

/-- The four exits of `UserModel::query`. -/
theorem query_exits (mysql : Access) (id : Int) : (mysql.run (UserModel.query id)).1 =
    if Unconnected mysql then User.ofBool false
    else if Throws mysql then {}
    else UserModel.ofRows (mysql.database.user.filter (fun row => row.id = id)) := by
  obtain ⟨grant, grants, taken⟩ : ∃ grant grants,
      nextOf (some 0) mysql.grants = (grant, grants) := ⟨_, _, rfl⟩
  have acquired : Access.answer .getConnection mysql = (grant, { mysql with grants }) := by
    simp only [Access.answer, taken]
  rw [Access.run, UserModel.query, run_borrowing, acquired]
  cases grant with
  | none =>
    have unconnected : Unconnected mysql := by rw [Unconnected, taken]
    rw [if_pos unconnected]
  | some conn =>
    have connected : ¬ Unconnected mysql := by simp [Unconnected, taken]
    rw [if_neg connected]
    simp only [Program.run_try_bind, run_prepareStatement, run_executeQuery, Program.run_try_pure,
      Access.answer, Access.attempt]
    by_cases first : (nextOf false mysql.throws).1 = true
    · have throws : Throws mysql := Or.inl first
      simp [throws, first]
    · by_cases second : (nextOf false (nextOf false mysql.throws).2).1 = true
      · have throws : Throws mysql := Or.inr second
        simp [throws, first, second]
      · have returns : ¬ Throws mysql := not_or.mpr ⟨first, second⟩
        simp [returns, first, second, Database.select]
        rfl

/-- The request has no account and yet equals what the query returns: the object
of an unconnected query, the default object, or the row of another id. -/
def Impostor (w : World) (id : Int) (pwd : String) : Prop :=
  ¬ HasAccount w.mysql.database id pwd ∧
    if Unconnected w.mysql then toInt id = 0 ∧ pwd = ""
    else if Throws w.mysql then toInt id = -1 ∧ pwd = ""
    else match w.mysql.database.user.filter (fun row => row.id = toInt id) with
      | [] => toInt id = -1 ∧ pwd = ""
      | row :: _ => toInt id ≠ id ∧ row.password = pwd

/-- The login takes its success path: it answers with errno 0. -/
def Succeeds (conn : Conn) (js : Json) (w : World) : Prop :=
  ∃ output, (login conn js w).2.sent = w.sent ++ [output] ∧ output.errno = some 0

/-- The account read from the database and the presence record decide. -/
theorem succeeds_iff (conn : Conn) (js : Json) (id : Int) (pwd : String) (w : World)
    (named : js.int "id" = .ok id) (given : js.str "password" = .ok pwd) :
    Succeeds conn js w ↔ Matches w id pwd ∧ ¬ SeenOnline w id := by
  constructor
  · rintro ⟨output, sent, errno⟩
    by_contra refused
    have seen : Matches w id pwd → SeenOnline w id :=
      fun account => not_not.mp (fun absent => refused ⟨account, absent⟩)
    obtain ⟨other, mysql, m, ended, rejected, _⟩ := login_refused conn js id pwd w named given seen
    rw [ended] at sent
    have same : other = output := by simpa using sent
    exact rejected (same ▸ errno)
  · rintro ⟨account, absent⟩
    obtain ⟨output, groups, after, ended, letIn⟩ :=
      login_admitted conn js id pwd w named given account absent
    exact ⟨output, by rw [ended]; exact letIn.sent, letIn.errno⟩

/-- Without an account of its own, a request that matches is an impostor, and an
impostor matches. -/
theorem matches_iff_impostor (w : World) (id : Int) (pwd : String)
    (missing : ¬ HasAccount w.mysql.database id pwd) :
    Matches w (toInt id) pwd ↔ Impostor w id pwd := by
  rw [Impostor, and_iff_right missing, Matches, query_exits]
  by_cases unconnected : Unconnected w.mysql
  · simp only [if_pos unconnected, User.ofBool, Bool.false_eq_true, if_false]
    exact and_congr eq_comm eq_comm
  by_cases throws : Throws w.mysql
  · simp only [if_neg unconnected, if_pos throws]
    exact and_congr eq_comm eq_comm
  simp only [if_neg unconnected, if_neg throws]
  cases rows : w.mysql.database.user.filter (fun row => row.id = toInt id) with
  | nil => exact and_congr eq_comm eq_comm
  | cons row rest =>
    have found : row ∈ w.mysql.database.user.filter (fun row => row.id = toInt id) := by
      rw [rows]
      exact List.mem_cons_self
    obtain ⟨stored, keyed⟩ := List.mem_filter.mp found
    have hasId : row.id = toInt id := of_decide_eq_true keyed
    simp only [UserModel.ofRows]
    constructor
    · rintro ⟨_, password⟩
      refine ⟨fun same => missing ⟨row, stored, hasId.trans same, password⟩, password⟩
    · rintro ⟨_, password⟩
      exact ⟨hasId, password⟩

/-- A login succeeds only on an account of its own, exactly when it is not an
impostor that finds the id offline. -/
theorem login_sound_iff (conn : Conn) (js : Json) (id : Int) (pwd : String) (w : World)
    (named : js.field "id" = .ok (.integer id)) (given : js.field "password" = .ok (.string pwd)) :
    (Succeeds conn js w → HasAccount w.mysql.database id pwd) ↔
      (Impostor w id pwd → SeenOnline w (toInt id)) := by
  have narrowed : js.int "id" = .ok (toInt id) := by rw [Json.int, named]; rfl
  have text : js.str "password" = .ok pwd := by rw [Json.str, given]; rfl
  rw [succeeds_iff conn js (toInt id) pwd w narrowed text]
  constructor
  · intro sound impostor
    by_contra absent
    have account : Matches w (toInt id) pwd :=
      (matches_iff_impostor w id pwd impostor.1).mpr impostor
    exact impostor.1 (sound ⟨account, absent⟩)
  · rintro turnedAway ⟨account, absent⟩
    by_contra missing
    exact absent (turnedAway ((matches_iff_impostor w id pwd missing).mp account))

/-- A server whose pool has no connection left and whose tables are empty. -/
def drained : World :=
  { World.start "node-1" Database.empty Redis.empty with mysql := ⟨Database.empty, [none], []⟩ }

/-- A login to which the pool gives no connection. -/
theorem login_sound_drained : (loginRequest 7 "secret").field "id" = .ok (.integer 7) ∧
    (loginRequest 7 "secret").field "password" = .ok (.string "secret") ∧
    ((Succeeds ⟨"c"⟩ (loginRequest 7 "secret") drained →
        HasAccount drained.mysql.database 7 "secret") ↔
      (Impostor drained 7 "secret" → SeenOnline drained (toInt 7))) :=
  ⟨rfl, rfl, login_sound_iff ⟨"c"⟩ (loginRequest 7 "secret") 7 "secret" drained rfl rfl⟩

/-- With no connection left, user 0 logs in with an empty password. -/
theorem nobody_logs_in : ¬ ∀ conn js id pwd w, Json.field "id" js = .ok (.integer id) →
    Json.field "password" js = .ok (.string pwd) → Succeeds conn js w →
    HasAccount w.mysql.database id pwd := by
  intro sound
  have succeeds : Succeeds ⟨"c"⟩ (loginRequest 0 "") drained :=
    (succeeds_iff ⟨"c"⟩ (loginRequest 0 "") 0 "" drained rfl rfl).mpr ⟨by decide, by decide⟩
  obtain ⟨row, stored, _⟩ := sound ⟨"c"⟩ (loginRequest 0 "") 0 "" drained rfl rfl succeeds
  exact absurd stored List.not_mem_nil

end ClusterChat.Authentication
