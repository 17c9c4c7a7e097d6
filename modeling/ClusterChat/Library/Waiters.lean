import Mathlib.Data.List.Nodup

/-!
# Callers at a condition variable

A caller that waits gives up the mutex and sleeps. A notification, its timeout or nothing
at all rouses it, and some time later it has the mutex again and resumes. Between the two
it is woken but has not looked at the shared state.

What a notification is for is a supply that each caller can use up by one. The waiters are
`Attended` when nobody sleeps or the woken callers suffice for the supply. Notifying one
caller for each unit added keeps that, and so does a caller that resumes and takes one, or
that finds nothing and sleeps again.

Nothing is said about the order in which callers are roused or resume.
-/

universe u

/-- The callers that sleep, and those that were roused since. -/
structure Waiters (Caller : Type u) where
  asleep : List Caller := []
  woken : List Caller := []

namespace Waiters

variable {Caller : Type u}

/-- The caller has begun to wait and has not gone on since. -/
def Waiting (waiters : Waiters Caller) (caller : Caller) : Prop :=
  caller ∈ waiters.asleep ∨ caller ∈ waiters.woken

/-- Every caller waits at most once. -/
structure Distinct (waiters : Waiters Caller) : Prop where
  asleep : waiters.asleep.Nodup
  woken : waiters.woken.Nodup
  apart : ∀ caller ∈ waiters.asleep, caller ∉ waiters.woken

/-- Nobody sleeps, or the woken callers suffice for the supply. -/
def Attended (supply : Nat) (waiters : Waiters Caller) : Prop :=
  waiters.asleep = [] ∨ supply ≤ waiters.woken.length

/-- A caller begins to sleep. -/
def sleep (caller : Caller) (waiters : Waiters Caller) : Waiters Caller :=
  { waiters with asleep := caller :: waiters.asleep }

/-- `notify_all`. -/
def rouseAll (waiters : Waiters Caller) : Waiters Caller :=
  ⟨[], waiters.asleep ++ waiters.woken⟩

/-- Who attends to more attends to less. -/
theorem attended_mono (waiters : Waiters Caller) (less more : Nat) (fewer : less ≤ more)
    (attended : waiters.Attended more) : waiters.Attended less :=
  attended.imp_right (Nat.le_trans fewer)

/-- Whoever finds nothing may sleep. -/
theorem attended_zero (waiters : Waiters Caller) : waiters.Attended 0 := Or.inr (Nat.zero_le _)

/-- When all are woken nobody sleeps beside a supply. -/
theorem attended_rouseAll (supply : Nat) (waiters : Waiters Caller) :
    waiters.rouseAll.Attended supply := Or.inl rfl

/-- Who sleeps waits, and so do those who waited. -/
theorem waiting_sleep (waiters : Waiters Caller) (caller other : Caller) :
    (waiters.sleep caller).Waiting other ↔ other = caller ∨ waiters.Waiting other := by
  rw [Waiting, sleep, List.mem_cons, or_assoc]
  rfl

/-- Waking everybody ends no wait. -/
theorem waiting_rouseAll (waiters : Waiters Caller) (caller : Caller) :
    waiters.rouseAll.Waiting caller ↔ waiters.Waiting caller := by
  rw [Waiting, rouseAll, List.mem_append]
  exact ⟨fun waits => waits.elim nofun id, Or.inr⟩

/-- A new caller is in one place. -/
theorem Distinct.sleep {waiters : Waiters Caller} (distinct : waiters.Distinct) (caller : Caller)
    (new : ¬ waiters.Waiting caller) : (waiters.sleep caller).Distinct where
  asleep := List.nodup_cons.mpr ⟨fun old => new (Or.inl old), distinct.asleep⟩
  woken := distinct.woken
  apart := List.forall_mem_cons.mpr ⟨fun old => new (Or.inr old), distinct.apart⟩

/-- Woken callers are in one place. -/
theorem Distinct.rouseAll {waiters : Waiters Caller} (distinct : waiters.Distinct) :
    waiters.rouseAll.Distinct where
  asleep := List.nodup_nil
  woken := List.nodup_append.mpr ⟨distinct.asleep, distinct.woken, fun caller sleeps _ woken
    same => distinct.apart caller sleeps (same ▸ woken)⟩
  apart := nofun

section Moves

variable [DecidableEq Caller]

/-- A caller that sleeps is woken. -/
def rouse (caller : Caller) (waiters : Waiters Caller) : Waiters Caller :=
  if caller ∈ waiters.asleep then
    ⟨waiters.asleep.erase caller, caller :: waiters.woken⟩
  else waiters

/-- A woken caller has the mutex again. -/
def resume (caller : Caller) (waiters : Waiters Caller) : Waiters Caller :=
  { waiters with woken := waiters.woken.erase caller }

/-- Waking one ends no wait. -/
theorem waiting_rouse (waiters : Waiters Caller) (caller other : Caller) :
    (waiters.rouse caller).Waiting other ↔ waiters.Waiting other := by
  unfold rouse
  split
  · rename_i sleeps
    by_cases same : other = caller
    · subst same
      exact ⟨fun _ => Or.inl sleeps, fun _ => Or.inr List.mem_cons_self⟩
    · simp [Waiting, List.mem_erase_of_ne same, same]
  · exact Iff.rfl

/-- A woken caller that goes on waits no more. -/
theorem waiting_resume (waiters : Waiters Caller) (distinct : waiters.Distinct) (caller : Caller)
    (woken : caller ∈ waiters.woken) (other : Caller) :
    (waiters.resume caller).Waiting other ↔ other ≠ caller ∧ waiters.Waiting other := by
  rw [Waiting, resume, distinct.woken.mem_erase_iff, Waiting]
  constructor
  · rintro (sleeps | ⟨differs, still⟩)
    · refine ⟨?_, Or.inl sleeps⟩
      rintro rfl
      exact distinct.apart other sleeps woken
    · exact ⟨differs, Or.inr still⟩
  · rintro ⟨differs, sleeps | still⟩
    · exact Or.inl sleeps
    · exact Or.inr ⟨differs, still⟩

/-- A caller that is woken leaves the place of the sleepers. -/
theorem Distinct.rouse {waiters : Waiters Caller} (distinct : waiters.Distinct) (caller : Caller) :
    (waiters.rouse caller).Distinct := by
  unfold Waiters.rouse
  split
  · rename_i sleeps
    refine ⟨distinct.asleep.erase caller,
      List.nodup_cons.mpr ⟨distinct.apart caller sleeps, distinct.woken⟩, ?_⟩
    intro other left member
    obtain ⟨differs, old⟩ := distinct.asleep.mem_erase_iff.mp left
    rcases List.mem_cons.mp member with same | woken
    · exact differs same
    · exact distinct.apart other old woken
  · exact distinct

/-- A caller that goes on leaves the place of the woken. -/
theorem Distinct.resume {waiters : Waiters Caller} (distinct : waiters.Distinct) (caller : Caller) :
    (waiters.resume caller).Distinct where
  asleep := distinct.asleep
  woken := distinct.woken.erase caller
  apart := fun other sleeps still => distinct.apart other sleeps (List.mem_of_mem_erase still)

/-- Rousing leaves the woken callers and may add one. -/
theorem attended_rouse (supply : Nat) (waiters : Waiters Caller) (caller : Caller)
    (attended : waiters.Attended supply) : (waiters.rouse caller).Attended supply := by
  unfold rouse
  split
  · rcases attended with none | enough
    · rename_i sleeps
      rw [none] at sleeps
      cases sleeps
    · exact Or.inr (Nat.le_succ_of_le enough)
  · exact attended

/-- One notification attends to one unit more. -/
theorem attended_notify (supply : Nat) (waiters : Waiters Caller) (caller : Caller)
    (chosen : waiters.asleep = [] ∨ caller ∈ waiters.asleep)
    (attended : waiters.Attended supply) : (waiters.rouse caller).Attended (supply + 1) := by
  rcases chosen with none | sleeps
  · have idle : waiters.rouse caller = waiters := by
      rw [rouse, if_neg]
      rw [none]
      exact List.not_mem_nil
    rw [idle]
    exact Or.inl none
  · rw [rouse, if_pos sleeps]
    rcases attended with none | enough
    · rw [none] at sleeps
      cases sleeps
    · exact Or.inr (Nat.succ_le_succ enough)

/-- A woken caller that resumes leaves enough others for one unit less. -/
theorem attended_resume (supply : Nat) (waiters : Waiters Caller) (caller : Caller)
    (woken : caller ∈ waiters.woken) (attended : waiters.Attended supply) :
    (waiters.resume caller).Attended (supply - 1) := by
  rcases attended with none | enough
  · exact Or.inl none
  · refine Or.inr ?_
    rw [resume, List.length_erase_of_mem woken]
    omega

end Moves

end Waiters
