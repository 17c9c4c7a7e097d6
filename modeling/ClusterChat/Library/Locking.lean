import Mathlib.Logic.Function.Basic
import Mathlib.Logic.Relation

/-!
# Locks taken in ascending order

A script is what is left of a program when only its locking is looked at: scopes
that hold a lock, waits on a condition variable, choices and loops. What it emits
is a sequence of acquisitions and releases. A scope releases its lock however it
is left, and an exception may leave any part of a script at any point, so a script
emits more than the program does and never less.

Threads run emitted sequences one action at a time. A lock is granted exclusively
to a thread when no thread has it, and shared when no thread has it exclusively.
A thread waits for another when its next action acquires a lock the other has, in
whatever mode.

`Ascending` is the discipline: with locks ranked, a scope is entered only with
locks of a smaller rank in hand. Each script of the discipline emits only safe
sequences, every step keeps what is left of them safe, and no state reached has a
cycle of waiting threads, a thread that waits for itself included. That some thread
can always go on is not claimed.
-/

universe u v

namespace Locking

/-- A lock is held by several readers, or by one writer. -/
inductive Mode where
  | shared
  | exclusive
deriving DecidableEq

/-- What a script does to a lock. -/
inductive Action (Lock : Type u) where
  | acquire (lock : Lock) (mode : Mode)
  | release (lock : Lock) (mode : Mode)

/-- The locking of a program. `wait` gives up the lock of the innermost scope, which
holds it exclusively, and takes it again; `attempt` catches what leaves its body. -/
inductive Script (Lock : Type u) where
  | skip
  | seq (first rest : Script Lock)
  | choice (left right : Script Lock)
  | loop (body : Script Lock)
  | holding (lock : Lock) (mode : Mode) (body : Script Lock)
  | wait (lock : Lock)
  | attempt (body : Script Lock)

variable {Lock : Type u}

namespace Script

/-- The body may be left out. -/
def optional (body : Script Lock) : Script Lock := .choice .skip body

/-- The parts one after another. -/
def all : List (Script Lock) → Script Lock
  | [] => .skip
  | first :: rest => .seq first (all rest)

/-- One of the alternatives, or none. -/
def any : List (Script Lock) → Script Lock
  | [] => .skip
  | first :: rest => .choice first (any rest)

/-- The sequences a script emits, each with whether it returns or is left by an
exception. -/
inductive Emits : Script Lock → List (Action Lock) → Bool → Prop
  | throws (script : Script Lock) : Emits script [] false
  | skip : Emits .skip [] true
  | seq {first rest : Script Lock} {actions more : List (Action Lock)} {returned : Bool}
      (start : Emits first actions true) (following : Emits rest more returned) :
      Emits (.seq first rest) (actions ++ more) returned
  | seqLeft {first rest : Script Lock} {actions : List (Action Lock)}
      (start : Emits first actions false) : Emits (.seq first rest) actions false
  | left {left right : Script Lock} {actions : List (Action Lock)} {returned : Bool}
      (chosen : Emits left actions returned) : Emits (.choice left right) actions returned
  | right {left right : Script Lock} {actions : List (Action Lock)} {returned : Bool}
      (chosen : Emits right actions returned) : Emits (.choice left right) actions returned
  | loopEnds {body : Script Lock} : Emits (.loop body) [] true
  | loopAgain {body : Script Lock} {actions more : List (Action Lock)} {returned : Bool}
      (once : Emits body actions true) (again : Emits (.loop body) more returned) :
      Emits (.loop body) (actions ++ more) returned
  | loopLeft {body : Script Lock} {actions : List (Action Lock)}
      (once : Emits body actions false) : Emits (.loop body) actions false
  | holding {lock : Lock} {mode : Mode} {body : Script Lock} {actions : List (Action Lock)}
      {returned : Bool} (inside : Emits body actions returned) :
      Emits (.holding lock mode body)
        (.acquire lock mode :: actions ++ [.release lock mode]) returned
  | wait {lock : Lock} :
      Emits (.wait lock) [.release lock .exclusive, .acquire lock .exclusive] true
  | attempt {body : Script Lock} {actions : List (Action Lock)} {returned : Bool}
      (inside : Emits body actions returned) : Emits (.attempt body) actions true

end Script

/-- A lock in hand, with its mode. -/
abbrev Holding (Lock : Type u) := Lock × Mode

section Ranked

variable (rank : Lock → Nat)

/-- Every lock in hand ranks below this one. -/
def Above (lock : Lock) (held : List (Holding Lock)) : Prop :=
  ∀ holding ∈ held, rank holding.1 < rank lock

instance (lock : Lock) (held : List (Holding Lock)) : Decidable (Above rank lock held) :=
  inferInstanceAs (Decidable (∀ holding ∈ held, _))

variable [DecidableEq Lock]

/-- The discipline of a script that starts with these locks in hand, the innermost
first. -/
def Script.Ascending : Script Lock → List (Holding Lock) → Prop
  | .skip, _ => True
  | .seq first rest, held => first.Ascending held ∧ rest.Ascending held
  | .choice left right, held => left.Ascending held ∧ right.Ascending held
  | .loop body, held => body.Ascending held
  | .holding lock mode body, held =>
      Above rank lock held ∧ body.Ascending ((lock, mode) :: held)
  | .wait lock, held =>
      match held with
      | [] => False
      | inner :: outer => inner = (lock, .exclusive) ∧ Above rank lock outer
  | .attempt body, held => body.Ascending held

/-- Whether a script is ascending is computed along its structure. -/
instance Script.decidableAscending : (script : Script Lock) → (held : List (Holding Lock)) →
    Decidable (script.Ascending rank held)
  | .skip, _ => inferInstanceAs (Decidable True)
  | .seq first rest, held =>
      have := decidableAscending first held
      have := decidableAscending rest held
      inferInstanceAs (Decidable (first.Ascending rank held ∧ rest.Ascending rank held))
  | .choice left right, held =>
      have := decidableAscending left held
      have := decidableAscending right held
      inferInstanceAs (Decidable (left.Ascending rank held ∧ right.Ascending rank held))
  | .loop body, held => decidableAscending body held
  | .holding lock mode body, held =>
      have := decidableAscending body ((lock, mode) :: held)
      inferInstanceAs (Decidable
        (Above rank lock held ∧ body.Ascending rank ((lock, mode) :: held)))
  | .wait _, [] => inferInstanceAs (Decidable False)
  | .wait lock, inner :: outer =>
      inferInstanceAs (Decidable (inner = (lock, .exclusive) ∧ Above rank lock outer))
  | .attempt body, held => decidableAscending body held

/-- Every acquisition left in the sequence finds only locks of a smaller rank in
hand. -/
def Safe : List (Holding Lock) → List (Action Lock) → Prop
  | _, [] => True
  | held, .acquire lock mode :: rest => Above rank lock held ∧ Safe ((lock, mode) :: held) rest
  | held, .release lock mode :: rest => Safe (held.erase (lock, mode)) rest

/-- What an ascending script emits is safe, and leaves the locks in hand as they
were. -/
theorem safe_of_emits {script : Script Lock} {actions : List (Action Lock)} {returned : Bool}
    (emitted : script.Emits actions returned) : ∀ (held : List (Holding Lock))
      (rest : List (Action Lock)), script.Ascending rank held → Safe rank held rest →
        Safe rank held (actions ++ rest) := by
  induction emitted with
  | throws script => exact fun _ _ _ safe => safe
  | skip => exact fun _ _ _ safe => safe
  | seq start following first second =>
    intro held rest ascending safe
    rw [List.append_assoc]
    exact first held _ ascending.1 (second held rest ascending.2 safe)
  | seqLeft start first => exact fun held rest ascending => first held rest ascending.1
  | left chosen inside => exact fun held rest ascending => inside held rest ascending.1
  | right chosen inside => exact fun held rest ascending => inside held rest ascending.2
  | loopEnds => exact fun _ _ _ safe => safe
  | loopAgain once again first second =>
    intro held rest ascending safe
    rw [List.append_assoc]
    exact first held _ ascending (second held rest ascending safe)
  | loopLeft once first => exact fun held rest ascending => first held rest ascending
  | @holding lock mode body actions returned inside body =>
    intro held rest ascending safe
    rw [List.cons_append, List.cons_append, List.append_assoc]
    refine ⟨ascending.1, body ((lock, mode) :: held) _ ascending.2 ?_⟩
    rw [List.singleton_append, Safe, List.erase_cons_head]
    exact safe
  | @wait lock =>
    intro held rest ascending safe
    cases held with
    | nil => exact ascending.elim
    | cons inner outer =>
      obtain ⟨rfl, above⟩ := ascending
      simp only [List.cons_append, List.nil_append, Safe, List.erase_cons_head]
      exact ⟨above, safe⟩
  | attempt inside body => exact fun held rest ascending => body held rest ascending

end Ranked

/-!
## Threads
-/

/-- A thread: the actions it has left, and the locks it has. -/
structure Thread (Lock : Type u) where
  todo : List (Action Lock)
  held : List (Holding Lock)

/-- A sequence that a script emits. -/
structure Execution (script : Script Lock) where
  actions : List (Action Lock)
  returned : Bool
  emitted : script.Emits actions returned

section Threads

variable {ι : Type v} [DecidableEq ι] [DecidableEq Lock]

/-- The lock can be granted. -/
def Grants (threads : ι → Thread Lock) (lock : Lock) : Mode → Prop
  | .exclusive => ∀ thread mode, (lock, mode) ∉ (threads thread).held
  | .shared => ∀ thread, (lock, Mode.exclusive) ∉ (threads thread).held

/-- One thread executes its next action. -/
inductive Step (threads : ι → Thread Lock) : (ι → Thread Lock) → Prop
  | acquire (thread : ι) (lock : Lock) (mode : Mode) (rest : List (Action Lock))
      (next : (threads thread).todo = .acquire lock mode :: rest)
      (granted : Grants threads lock mode) :
      Step threads (Function.update threads thread
        ⟨rest, (lock, mode) :: (threads thread).held⟩)
  | release (thread : ι) (lock : Lock) (mode : Mode) (rest : List (Action Lock))
      (next : (threads thread).todo = .release lock mode :: rest) :
      Step threads (Function.update threads thread
        ⟨rest, (threads thread).held.erase (lock, mode)⟩)

/-- The next action of the thread acquires a lock the other thread has. -/
def Waits (threads : ι → Thread Lock) (thread other : ι) : Prop :=
  ∃ lock mode rest, (threads thread).todo = .acquire lock mode :: rest ∧
    ∃ held, (lock, held) ∈ (threads other).held

/-- Threads that begin to run these executions, with no lock in hand. -/
def begin {scripts : ι → Script Lock} (executions : ∀ thread, Execution (scripts thread)) :
    ι → Thread Lock := fun thread => ⟨(executions thread).actions, []⟩

variable (rank : Lock → Nat)

/-- What every thread has left is safe with the locks it has. -/
def AllSafe (threads : ι → Thread Lock) : Prop :=
  ∀ thread, Safe rank (threads thread).held (threads thread).todo

omit [DecidableEq ι] in
/-- Threads at the beginning of ascending scripts are safe. -/
theorem allSafe_begin {scripts : ι → Script Lock}
    (ascending : ∀ thread, (scripts thread).Ascending rank [])
    (executions : ∀ thread, Execution (scripts thread)) : AllSafe rank (begin executions) := by
  intro thread
  have safe := safe_of_emits rank (executions thread).emitted [] [] (ascending thread) trivial
  rw [List.append_nil] at safe
  exact safe

/-- Every step keeps them safe. -/
theorem allSafe_step {threads next : ι → Thread Lock} (step : Step threads next)
    (safe : AllSafe rank threads) : AllSafe rank next := by
  have others (thread : ι) (moved : Thread Lock) (own : Safe rank moved.held moved.todo) :
      AllSafe rank (Function.update threads thread moved) := by
    intro other
    by_cases same : other = thread
    · subst same
      rw [Function.update_self]
      exact own
    · rw [Function.update_of_ne same]
      exact safe other
  cases step with
  | acquire thread lock mode rest next granted =>
    have before := safe thread
    rw [next] at before
    exact others thread _ before.2
  | release thread lock mode rest next =>
    have before := safe thread
    rw [next] at before
    exact others thread _ before

/-- They are safe in every reachable state. -/
theorem allSafe_reachable {start threads : ι → Thread Lock}
    (reachable : Relation.ReflTransGen Step start threads) (safe : AllSafe rank start) :
    AllSafe rank threads := by
  induction reachable with
  | refl => exact safe
  | tail _ step inductionHypothesis => exact allSafe_step rank step inductionHypothesis

omit [DecidableEq ι] in
/-- Along a chain of waiting threads the locks waited for rise in rank. -/
theorem rank_lt_of_waits {threads : ι → Thread Lock} (safe : AllSafe rank threads)
    {thread last : ι} (chain : Relation.TransGen (Waits threads) thread last) :
    ∀ lock mode rest, (threads last).todo = .acquire lock mode :: rest →
      ∃ first mode rest, (threads thread).todo = .acquire first mode :: rest ∧
        rank first < rank lock := by
  have below : ∀ {waiting other : ι}, Waits threads waiting other → ∀ lock mode rest,
      (threads other).todo = .acquire lock mode :: rest →
        ∃ first mode rest, (threads waiting).todo = .acquire first mode :: rest ∧
          rank first < rank lock := by
    rintro waiting other ⟨first, mode, rest, next, held, has⟩ lock otherMode otherRest otherNext
    have above := safe other
    rw [otherNext] at above
    exact ⟨first, mode, rest, next, above.1 (first, held) has⟩
  induction chain with
  | single waits => exact below waits
  | tail _ waits inductionHypothesis =>
    intro lock mode rest next
    obtain ⟨middle, middleMode, middleRest, middleNext, lower⟩ := below waits lock mode rest next
    obtain ⟨first, firstMode, firstRest, firstNext, lowest⟩ :=
      inductionHypothesis middle middleMode middleRest middleNext
    exact ⟨first, firstMode, firstRest, firstNext, Nat.lt_trans lowest lower⟩

/-- Threads that run ascending scripts never wait in a cycle. -/
theorem no_cycle {scripts : ι → Script Lock}
    (ascending : ∀ thread, (scripts thread).Ascending rank [])
    (executions : ∀ thread, Execution (scripts thread)) (threads : ι → Thread Lock)
    (reachable : Relation.ReflTransGen Step (begin executions) threads) (thread : ι) :
    ¬ Relation.TransGen (Waits threads) thread thread := by
  intro cycle
  have safe := allSafe_reachable rank reachable (allSafe_begin rank ascending executions)
  obtain ⟨_, waits, _⟩ := Relation.TransGen.head'_iff.mp cycle
  obtain ⟨lock, mode, rest, next, _⟩ := waits
  obtain ⟨first, firstMode, firstRest, firstNext, lower⟩ :=
    rank_lt_of_waits rank safe cycle lock mode rest next
  rw [next] at firstNext
  cases firstNext
  exact Nat.lt_irrefl _ lower

end Threads

end Locking
