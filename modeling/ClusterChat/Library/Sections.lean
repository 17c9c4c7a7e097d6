import ClusterChat.Library.Interleaving
import ClusterChat.Library.Locking
import ClusterChat.Library.Runs

/-!
# Critical sections as single steps

Each lock guards a datum. Threads acquire and release locks, apply single operations to
the data and make calls to the rest of the system, and any other threads may act between
two such actions. A lock is granted exclusively when no thread has it, and shared when no
thread has it exclusively; until then a thread that asks for it stays where it is.

`Matches` compares such a program with one in which a whole section, from its acquisition
to its release, is a single change of the datum. The change happens when the lock is
acquired. What the section still has to do is kept as the datum the thread sees and the
datum it will leave, and the two agree at the release. Sections of different locks may be
nested, and calls may be made inside them: only the datum of a section changes at once.

`linked_run` says that every run of the threads has a run of whole sections with the same
calls, replies and results, in which every datum is the same as soon as no thread has its
lock exclusively. `no_race` says that no two threads are ever about to apply operations to
one datum of which one writes. Nothing is said about progress, and a thread that ends with
a lock in hand keeps it.
-/

universe u v

open Locking (Mode)

/-- The data of some locks, with the single operations on them, the whole sections that
programs are compared with, and the calls to everything else. -/
structure Sections where
  Lock : Type u
  [decLock : DecidableEq Lock]
  Datum : Lock → Type u
  Operation : Lock → Type u
  Result : (lock : Lock) → Operation lock → Type u
  operate : (lock : Lock) → (operation : Operation lock) → Datum lock →
    Result lock operation × Datum lock
  Section : Lock → Type u
  Value : (lock : Lock) → Section lock → Type u
  change : (lock : Lock) → (part : Section lock) → Datum lock → Value lock part × Datum lock
  Call : Type u
  Reply : Call → Type u

namespace Sections

attribute [instance] decLock

variable (S : Sections.{u})

/-- What a thread does next. -/
inductive Action where
  | acquire (lock : S.Lock) (mode : Mode)
  | release (lock : S.Lock)
  | operate (lock : S.Lock) (operation : S.Operation lock)
  | outside (call : S.Call)

/-- What an action of the split program replies. -/
@[reducible] def ActionReply : S.Action → Type u
  | .acquire _ _ | .release _ => PUnit
  | .operate lock operation => S.Result lock operation
  | .outside call => S.Reply call

/-- What a thread does next where sections are single steps. -/
inductive Atom where
  | whole (lock : S.Lock) (part : S.Section lock)
  | outside (call : S.Call)

/-- What an atom of the whole program replies. -/
@[reducible] def AtomReply : S.Atom → Type u
  | .whole lock part => S.Value lock part
  | .outside call => S.Reply call

/-- A program that locks. -/
abbrev Locked := Program S.Action S.ActionReply

/-- A program whose sections are single steps. -/
abbrev Whole := Program S.Atom S.AtomReply

/-- A lock in hand: its datum as the thread sees it now, and as it will leave it. -/
structure Hold (lock : S.Lock) where
  mode : Mode
  now : S.Datum lock
  final : S.Datum lock

/-- The locks in hand. -/
abbrev Held := (lock : S.Lock) → Option (S.Hold lock)

variable {S} {α β α' β' : Type u}

/-- No lock is in hand. -/
def emptyHanded : S.Held := fun _ => none

/-- The locks in hand with one changed. -/
def Held.set (held : S.Held) (lock : S.Lock) (hold : Option (S.Hold lock)) : S.Held :=
  Function.update held lock hold

/-- The changed lock has the new hold. -/
@[simp] theorem Held.set_self (held : S.Held) (lock : S.Lock) (hold : Option (S.Hold lock)) :
    held.set lock hold lock = hold := Function.update_self ..

/-- Other locks keep theirs. -/
theorem Held.set_other (held : S.Held) {lock other : S.Lock} (differs : other ≠ lock)
    (hold : Option (S.Hold lock)) : held.set lock hold other = held other :=
  Function.update_of_ne differs ..

/-- The later of two changes counts. -/
theorem Held.set_set (held : S.Held) (lock : S.Lock) (first second : Option (S.Hold lock)) :
    (held.set lock first).set lock second = held.set lock second := Function.update_idem ..

/-- Setting the hold there is changes nothing. -/
theorem Held.set_same (held : S.Held) (lock : S.Lock) (hold : Option (S.Hold lock))
    (has : held lock = hold) : held.set lock hold = held := by
  rw [Held.set, ← has]
  exact Function.update_eq_self lock held

/-- With these locks in hand, the program that locks does what the other one does and ends
as asked for. -/
inductive Matches (ends : S.Held → α → β → Prop) : S.Held → S.Locked α → S.Whole β → Prop
  | done (held : S.Held) (value : α) (other : β) (ended : ends held value other) :
      Matches ends held (.done value) (.done other)
  | acquire (held : S.Held) (lock : S.Lock) (mode : Mode) (part : S.Section lock)
      (next : PUnit → S.Locked α) (following : S.Value lock part → S.Whole β)
      (free : held lock = none)
      (reads : mode = .shared → ∀ datum, (S.change lock part datum).2 = datum)
      (body : ∀ datum, Matches ends
        (held.set lock (some ⟨mode, datum, (S.change lock part datum).2⟩)) (next ⟨⟩)
        (following (S.change lock part datum).1)) :
      Matches ends held (.call (.acquire lock mode) next) (.call (.whole lock part) following)
  | release (held : S.Held) (lock : S.Lock) (hold : S.Hold lock) (next : PUnit → S.Locked α)
      (whole : S.Whole β) (has : held lock = some hold) (settled : hold.now = hold.final)
      (body : Matches ends (held.set lock none) (next ⟨⟩) whole) :
      Matches ends held (.call (.release lock) next) whole
  | operate (held : S.Held) (lock : S.Lock) (hold : S.Hold lock) (operation : S.Operation lock)
      (next : S.Result lock operation → S.Locked α) (whole : S.Whole β)
      (has : held lock = some hold)
      (reads : hold.mode = .shared → (S.operate lock operation hold.now).2 = hold.now)
      (body : Matches ends
        (held.set lock (some { hold with now := (S.operate lock operation hold.now).2 }))
        (next (S.operate lock operation hold.now).1) whole) :
      Matches ends held (.call (.operate lock operation) next) whole
  | outside (held : S.Held) (call : S.Call) (next : S.Reply call → S.Locked α)
      (following : S.Reply call → S.Whole β)
      (body : ∀ reply, Matches ends held (next reply) (following reply)) :
      Matches ends held (.call (.outside call) next) (.call (.outside call) following)

variable {ends : S.Held → α → β → Prop} {ended : S.Held → α' → β' → Prop}

/-- Programs that match may be followed by programs that match where they end. -/
theorem matches_bind {held : S.Held} {locked : S.Locked α} {whole : S.Whole β}
    (first : Matches ends held locked whole) (next : α → S.Locked α') (following : β → S.Whole β')
    (rest : ∀ held value other, ends held value other →
      Matches ended held (next value) (following other)) :
    Matches ended held (locked >>= next) (whole >>= following) := by
  induction first with
  | done held value other ended => exact rest held value other ended
  | acquire held lock mode part next following free reads body inductionHypothesis =>
    exact .acquire held lock mode part _ _ free reads inductionHypothesis
  | release held lock hold next whole has settled body inductionHypothesis =>
    exact .release held lock hold _ _ has settled inductionHypothesis
  | operate held lock hold operation next whole has reads body inductionHypothesis =>
    exact .operate held lock hold operation _ _ has reads inductionHypothesis
  | outside held call next following body inductionHypothesis =>
    exact .outside held call _ _ inductionHypothesis

/-- What follows may add nothing to the whole program. -/
theorem matches_bind_pure {held : S.Held} {locked : S.Locked α} {whole : S.Whole β}
    {final : S.Held → α' → β → Prop} (first : Matches ends held locked whole)
    (next : α → S.Locked α') (rest : ∀ held value other, ends held value other →
      Matches final held (next value) (pure other)) :
    Matches final held (locked >>= next) whole := by
  have followed := matches_bind first next pure rest
  rw [bind_pure] at followed
  exact followed

/-- More may be asked of the end if all ends have it. -/
theorem matches_mono {ended : S.Held → α → β → Prop} {held : S.Held} {locked : S.Locked α}
    {whole : S.Whole β} (first : Matches ends held locked whole)
    (follows : ∀ held value other, ends held value other → ended held value other) :
    Matches ended held locked whole := by
  have followed := matches_bind_pure first pure
    fun held value other ended => Matches.done held value other (follows held value other ended)
  rw [bind_pure] at followed
  exact followed

/-- The same value, with the same locks in hand. -/
def Returns (start : S.Held) (held : S.Held) (value other : α) : Prop :=
  held = start ∧ value = other

/-- The same value, and no datum left unfinished. -/
def Settled (held : S.Held) (value other : α) : Prop :=
  value = other ∧ ∀ lock hold, held lock = some hold → hold.now = hold.final

/-- A program that has returned with empty hands has settled. -/
theorem settled_of_returns (held : S.Held) (value other : α)
    (returned : Returns emptyHanded held value other) : Settled held value other := by
  obtain ⟨rfl, same⟩ := returned
  exact ⟨same, fun _ _ has => nomatch has⟩

/-- A lock taken with nothing left to do leaves nothing unfinished. -/
theorem finished_set {held : S.Held}
    (finished : ∀ lock hold, held lock = some hold → hold.now = hold.final) (lock : S.Lock)
    (mode : Mode) (datum : S.Datum lock) (each : S.Lock) (hold : S.Hold each)
    (has : held.set lock (some ⟨mode, datum, datum⟩) each = some hold) : hold.now = hold.final := by
  by_cases same : each = lock
  · subst same
    rw [Held.set_self] at has
    cases has
    rfl
  · rw [Held.set_other _ same] at has
    exact finished each hold has

/-!
## The bodies of sections
-/

/-- The body applies operations to the datum of one lock and does nothing else. It comes
from the first datum to this value and the second datum. -/
inductive Computes (lock : S.Lock) : S.Locked α → S.Datum lock → α → S.Datum lock → Prop
  | done (value : α) (datum : S.Datum lock) : Computes lock (.done value) datum value datum
  | operate (operation : S.Operation lock) (next : S.Result lock operation → S.Locked α)
      (datum final : S.Datum lock) (value : α)
      (rest : Computes lock (next (S.operate lock operation datum).1)
        (S.operate lock operation datum).2 value final) :
      Computes lock (.call (.operate lock operation) next) datum value final

/-- What a body under an exclusive lock computes is done to the datum the thread sees. -/
theorem matches_body {lock : S.Lock} {body : S.Locked α} {datum after : S.Datum lock} {value : α}
    (computes : Computes lock body datum value after) (held : S.Held) (final : S.Datum lock)
    (has : held lock = some ⟨.exclusive, datum, final⟩) (next : α → S.Locked α')
    (whole : S.Whole β')
    (rest : Matches ended (held.set lock (some ⟨.exclusive, after, final⟩)) (next value) whole) :
    Matches ended held (body >>= next) whole := by
  induction computes generalizing held with
  | done value datum =>
    rw [Held.set_same _ _ _ has] at rest
    exact rest
  | operate operation following datum after value computed inductionHypothesis =>
    refine .operate held lock _ operation _ whole has nofun ?_
    refine inductionHypothesis _ (Held.set_self ..) ?_
    rw [Held.set_set]
    exact rest

/-- A scope with an exclusive lock is the section its body computes. -/
theorem matches_exclusive (held : S.Held) (lock : S.Lock) (part : S.Section lock)
    (body : S.Locked α) (result : α → S.Value lock part) (free : held lock = none)
    (computes : ∀ datum, ∃ value, Computes lock body datum value (S.change lock part datum).2 ∧
      result value = (S.change lock part datum).1) :
    Matches (Returns held) held (do
      Program.issue (Action.acquire lock .exclusive)
      let value ← body
      Program.issue (Action.release lock)
      return result value) (Program.issue (Atom.whole lock part)) := by
  refine .acquire held lock .exclusive part _ _ free nofun fun datum => ?_
  obtain ⟨value, computed, same⟩ := computes datum
  refine matches_body computed _ _ (Held.set_self ..) _ _ ?_
  refine .release _ lock _ _ _ (Held.set_self ..) rfl ?_
  rw [Held.set_set, Held.set_set, Held.set_same _ _ _ free, ← same]
  exact .done _ _ _ ⟨rfl, rfl⟩

/-!
## Threads
-/

variable (S)

/-- A thread: what it executes, what is left of it, and the locks it has. -/
structure Thread (α Tag : Type u) where
  tag : Tag
  program : S.Locked α
  holds : S.Lock → Option Mode

/-- The data behind each lock, the rest of the state, and the threads. -/
structure State (α : Type u) (σ : Type v) (Tag : Type u) where
  data : (lock : S.Lock) → S.Datum lock
  rest : σ
  threads : List (Thread S α Tag)

/-- What the threads share where sections are single steps. -/
structure Shared (σ : Type v) where
  data : (lock : S.Lock) → S.Datum lock
  rest : σ

variable {S} {σ : Type v} {Tag : Type u}

/-- The lock can be granted. -/
def Grants (threads : List (Thread S α Tag)) (lock : S.Lock) : Mode → Prop
  | .exclusive => ∀ thread ∈ threads, thread.holds lock = none
  | .shared => ∀ thread ∈ threads, thread.holds lock ≠ some .exclusive

instance (threads : List (Thread S α Tag)) (lock : S.Lock) (mode : Mode) :
    Decidable (Grants threads lock mode) := by
  cases mode <;> exact inferInstanceAs (Decidable (∀ thread ∈ threads, _))

variable (answer : (call : S.Call) → σ → S.Reply call × σ) (text : Tag → S.Locked α)

/-- One thread starts, or takes its next action if that is possible. -/
def step (s : State S α σ Tag) : Interleaving.Event Tag → State S α σ Tag
  | .start tag => { s with threads := s.threads ++ [⟨tag, text tag, fun _ => none⟩] }
  | .advance i =>
      match s.threads[i]? with
      | some ⟨tag, .call (.acquire lock mode) next, holds⟩ =>
          if Grants s.threads lock mode then { s with
            threads := s.threads.set i
              ⟨tag, next ⟨⟩, Function.update holds lock (some mode)⟩ }
          else s
      | some ⟨tag, .call (.release lock) next, holds⟩ => { s with
          threads := s.threads.set i ⟨tag, next ⟨⟩, Function.update holds lock none⟩ }
      | some ⟨tag, .call (.operate lock operation) next, holds⟩ => { s with
          data := Function.update s.data lock (S.operate lock operation (s.data lock)).2
          threads := s.threads.set i
            ⟨tag, next (S.operate lock operation (s.data lock)).1, holds⟩ }
      | some ⟨tag, .call (.outside call) next, holds⟩ => { s with
          rest := (answer call s.rest).2
          threads := s.threads.set i ⟨tag, next (answer call s.rest).1, holds⟩ }
      | some ⟨_, .done _, _⟩ | none => s

/-- A section changes its datum at once. -/
def answerWhole : (atom : S.Atom) → Shared S σ → S.AtomReply atom × Shared S σ
  | .whole lock part, s => ((S.change lock part (s.data lock)).1,
      { s with data := Function.update s.data lock (S.change lock part (s.data lock)).2 })
  | .outside call, s => ((answer call s.rest).1, { s with rest := (answer call s.rest).2 })

variable (texts : Tag → S.Whole β)

/-- One thread starts, or executes a section or makes a call. -/
abbrev wholeStep : Interleaving.State S.AtomReply β (Shared S σ) Tag → Interleaving.Event Tag →
    Interleaving.State S.AtomReply β (Shared S σ) Tag :=
  Interleaving.step (answerWhole answer) texts

/-!
## The threads of both machines
-/

/-- The threads execute the same text, and the first has yet to do to its data what the
second has done already. -/
def Related (data changed : (lock : S.Lock) → S.Datum lock) (thread : Thread S α Tag)
    (other : Interleaving.Thread S.AtomReply α Tag) : Prop :=
  thread.tag = other.tag ∧ ∃ held : S.Held,
    (∀ lock, thread.holds lock = (held lock).map Hold.mode) ∧
    (∀ lock hold, held lock = some hold → hold.now = data lock ∧ hold.final = changed lock) ∧
    Matches Settled held thread.program other.program

/-- A thread is not concerned with data it has not locked. -/
theorem related_frame {data changed left leftChanged : (lock : S.Lock) → S.Datum lock}
    {thread : Thread S α Tag} {other : Interleaving.Thread S.AtomReply α Tag}
    (related : Related data changed thread other)
    (same : ∀ lock, thread.holds lock ≠ none →
      left lock = data lock ∧ leftChanged lock = changed lock) :
    Related left leftChanged thread other := by
  obtain ⟨tags, held, modes, values, doing⟩ := related
  refine ⟨tags, held, modes, ?_, doing⟩
  intro lock hold has
  have locked : thread.holds lock ≠ none := by simp [modes lock, has]
  rw [(same lock locked).1, (same lock locked).2]
  exact values lock hold has

/-- The state of the threads that lock, and one of the threads with whole sections. -/
structure Linked (s : State S α σ Tag)
    (w : Interleaving.State S.AtomReply α (Shared S σ) Tag) : Prop where
  rest : s.rest = w.shared.rest
  length : s.threads.length = w.threads.length
  related : ∀ (i : Nat) (thread : Thread S α Tag) (other : Interleaving.Thread S.AtomReply α Tag),
    s.threads[i]? = some thread → w.threads[i]? = some other →
      Related s.data w.shared.data thread other
  exclusive : ∀ (i j : Nat) (first second : Thread S α Tag) (lock : S.Lock), i ≠ j →
    s.threads[i]? = some first → s.threads[j]? = some second →
      first.holds lock = some .exclusive → second.holds lock = none
  free : ∀ lock, (∀ thread ∈ s.threads, thread.holds lock ≠ some .exclusive) →
    s.data lock = w.shared.data lock

/-- Nobody has begun. -/
theorem linked_start (data : (lock : S.Lock) → S.Datum lock) (rest : σ) :
    Linked (⟨data, rest, []⟩ : State S α σ Tag) ⟨⟨data, rest⟩, []⟩ where
  rest := rfl
  length := rfl
  related := fun i _ _ found => by simp at found
  exclusive := fun i _ _ _ _ _ found => by simp at found
  free := fun _ _ => rfl

/-- A thread that starts has nothing. -/
theorem linked_new {s : State S α σ Tag}
    {w : Interleaving.State S.AtomReply α (Shared S σ) Tag} (linked : Linked s w) (tag : Tag)
    (locked : S.Locked α) (whole : S.Whole α) (does : Matches Settled emptyHanded locked whole) :
    Linked { s with threads := s.threads ++ [⟨tag, locked, fun _ => none⟩] }
      { w with threads := w.threads ++ [⟨tag, whole⟩] } where
  rest := linked.rest
  length := by simp [linked.length]
  related := by
    intro i thread other found foundOther
    rw [List.getElem?_append] at found foundOther
    rw [← linked.length] at foundOther
    split at found
    · rename_i within
      rw [if_pos within] at foundOther
      exact linked.related i thread other found foundOther
    · rename_i beyond
      rw [if_neg beyond] at foundOther
      rw [List.getElem?_singleton] at found foundOther
      split at found
      · rename_i last
        rw [if_pos last] at foundOther
        cases found
        cases foundOther
        exact ⟨rfl, emptyHanded, fun _ => rfl, fun _ _ has => (nomatch has), does⟩
      · cases found
  exclusive := by
    intro i j first second lock differs found foundSecond has
    rw [List.getElem?_append] at found foundSecond
    split at found
    · split at foundSecond
      · exact linked.exclusive i j first second lock differs found foundSecond has
      · rw [List.getElem?_singleton] at foundSecond
        split at foundSecond
        · cases foundSecond
          rfl
        · cases foundSecond
    · rw [List.getElem?_singleton] at found
      split at found
      · cases found
        cases has
      · cases found
  free := fun lock nobody => linked.free lock fun thread member =>
    nobody thread (List.mem_append_left _ member)

/-- A thread moves on, with what it does to the data. -/
theorem linked_set {s : State S α σ Tag}
    {w : Interleaving.State S.AtomReply α (Shared S σ) Tag} (linked : Linked s w) (i : Nat)
    (thread : Thread S α Tag) (other : Interleaving.Thread S.AtomReply α Tag)
    (data changed : (lock : S.Lock) → S.Datum lock) (rest : σ)
    (own : Related data changed thread other)
    (frame : ∀ (j : Nat) (stays : Thread S α Tag), j ≠ i → s.threads[j]? = some stays →
      ∀ lock, stays.holds lock ≠ none →
        data lock = s.data lock ∧ changed lock = w.shared.data lock)
    (apart : ∀ (j : Nat) (stays : Thread S α Tag) (lock : S.Lock), j ≠ i →
      s.threads[j]? = some stays →
        (thread.holds lock = some .exclusive → stays.holds lock = none) ∧
          (stays.holds lock = some .exclusive → thread.holds lock = none))
    (free : ∀ lock, (∀ each ∈ s.threads.set i thread, each.holds lock ≠ some .exclusive) →
      data lock = changed lock) :
    Linked ⟨data, rest, s.threads.set i thread⟩ ⟨⟨changed, rest⟩, w.threads.set i other⟩ where
  rest := rfl
  length := by simp [linked.length]
  related := by
    intro j first second found foundSecond
    rw [List.getElem?_set] at found foundSecond
    by_cases same : i = j
    · rw [if_pos same] at found foundSecond
      rw [← linked.length] at foundSecond
      split at found
      · rename_i within
        rw [if_pos within] at foundSecond
        cases found
        cases foundSecond
        exact own
      · cases found
    · rw [if_neg same] at found foundSecond
      exact related_frame (linked.related j first second found foundSecond)
        (frame j first (Ne.symm same) found)
  exclusive := by
    intro j k first second lock differs found foundSecond has
    rw [List.getElem?_set] at found foundSecond
    by_cases moved : i = j
    · rw [if_pos moved] at found
      rw [if_neg (fun same => differs (moved.symm.trans same))] at foundSecond
      split at found
      · cases found
        exact (apart k second lock (fun same => differs (moved.symm.trans same.symm))
          foundSecond).1 has
      · cases found
    · rw [if_neg moved] at found
      by_cases movedSecond : i = k
      · rw [if_pos movedSecond] at foundSecond
        split at foundSecond
        · cases foundSecond
          exact (apart j first lock (Ne.symm moved) found).2 has
        · cases foundSecond
      · rw [if_neg movedSecond] at foundSecond
        exact linked.exclusive j k first second lock differs found foundSecond has
  free := free

/-- The holds of a thread after one of its locks is granted or given back. -/
theorem modes_set {held : S.Held} {holds : S.Lock → Option Mode}
    (modes : ∀ lock, holds lock = (held lock).map Hold.mode) (lock : S.Lock)
    (hold : Option (S.Hold lock)) : ∀ each,
    Function.update holds lock (hold.map Hold.mode) each =
      (held.set lock hold each).map Hold.mode := by
  intro each
  by_cases same : each = lock
  · subst same
    rw [Function.update_self, Held.set_self]
  · rw [Function.update_of_ne same, Held.set_other _ same, modes each]

/-- What a thread has in hand agrees with the data after one of its locks changed. -/
theorem values_set {held : S.Held} {data changed left leftChanged : (lock : S.Lock) → S.Datum lock}
    (values : ∀ lock hold, held lock = some hold →
      hold.now = data lock ∧ hold.final = changed lock)
    (lock : S.Lock) (hold : Option (S.Hold lock))
    (own : ∀ new, hold = some new → new.now = left lock ∧ new.final = leftChanged lock)
    (others : ∀ each, each ≠ lock → left each = data each ∧ leftChanged each = changed each)
    (each : S.Lock) (new : S.Hold each) (has : held.set lock hold each = some new) :
    new.now = left each ∧ new.final = leftChanged each := by
  by_cases same : each = lock
  · subst same
    rw [Held.set_self] at has
    exact own new has
  · rw [Held.set_other _ same] at has
    rw [(others each same).1, (others each same).2]
    exact values each new has

/-- Whoever has the lock exclusively after a thread moved had it before, if that thread
did not give it up. -/
theorem nobody_before {threads : List (Thread S α Tag)} {i : Nat} {old : Thread S α Tag}
    (found : threads[i]? = some old) (new : Thread S α Tag) (lock : S.Lock)
    (nobody : ∀ each ∈ threads.set i new, each.holds lock ≠ some .exclusive)
    (kept : old.holds lock = some .exclusive → new.holds lock = some .exclusive) :
    ∀ each ∈ threads, each.holds lock ≠ some .exclusive := by
  intro each member has
  obtain ⟨j, hasEach⟩ := List.mem_iff_getElem?.mp member
  by_cases same : i = j
  · subst same
    rw [found] at hasEach
    cases hasEach
    exact nobody new (List.mem_set (List.getElem?_eq_some_iff.mp found).1 _) (kept has)
  · refine nobody each (List.mem_iff_getElem?.mpr ⟨j, ?_⟩) has
    rw [List.getElem?_set, if_neg same]
    exact hasEach

section Actions

variable {s : State S α σ Tag} {w : Interleaving.State S.AtomReply α (Shared S σ) Tag}
  {i : Nat} {tag otherTag : Tag} {program : S.Locked α} {holds : S.Lock → Option Mode}

/-- Which locks the others have, beside those a thread keeps. -/
theorem exclusive_apart (linked : Linked s w) (found : s.threads[i]? = some ⟨tag, program, holds⟩)
    (j : Nat) (stays : Thread S α Tag) (lock : S.Lock) (differs : j ≠ i)
    (foundStays : s.threads[j]? = some stays) :
    (holds lock = some .exclusive → stays.holds lock = none) ∧
      (stays.holds lock = some .exclusive → holds lock = none) :=
  ⟨linked.exclusive i j _ stays lock (Ne.symm differs) found foundStays,
    linked.exclusive j i stays _ lock differs foundStays found⟩

/-- A thread that changes nothing stays where it is in the list. -/
theorem set_found {τ : Type v} (listed : List τ) (i : Nat) (each : τ)
    (found : listed[i]? = some each) : listed.set i each = listed := by
  obtain ⟨inside, rfl⟩ := List.getElem?_eq_some_iff.mp found
  exact List.set_getElem_self inside

/-- A call outside the locks keeps the two states linked. -/
theorem linked_outside (linked : Linked s w) (call : S.Call)
    (next : S.Reply call → S.Locked α) (following : S.Reply call → S.Whole α)
    (found : s.threads[i]? = some ⟨tag, .call (.outside call) next, holds⟩)
    (foundOther : w.threads[i]? = some ⟨otherTag, .call (.outside call) following⟩)
    (held : S.Held) (tags : tag = otherTag)
    (modes : ∀ lock, holds lock = (held lock).map Hold.mode)
    (values : ∀ lock hold, held lock = some hold →
      hold.now = s.data lock ∧ hold.final = w.shared.data lock)
    (body : ∀ reply, Matches Settled held (next reply) (following reply))
    (texts : Tag → S.Whole α) :
    Linked (step answer text s (.advance i)) (wholeStep answer texts w (.advance i)) := by
  simp only [step, found, wholeStep, Interleaving.step, foundOther, answerWhole]
  rw [← linked.rest]
  exact linked_set linked i _ _ s.data w.shared.data _
    ⟨tags, held, modes, values, body _⟩ (fun _ _ _ _ _ _ => ⟨rfl, rfl⟩)
    (fun j stays lock differs stayed => exclusive_apart linked found j stays lock differs stayed)
    (fun lock nobody => linked.free lock (nobody_before found _ lock nobody id))

/-- A thread that has the lock changes its datum for itself alone. -/
theorem linked_operate (linked : Linked s w) (lock : S.Lock) (operation : S.Operation lock)
    (next : S.Result lock operation → S.Locked α) (whole : S.Whole α)
    (found : s.threads[i]? = some ⟨tag, .call (.operate lock operation) next, holds⟩)
    (foundOther : w.threads[i]? = some ⟨otherTag, whole⟩)
    (held : S.Held) (hold : S.Hold lock) (tags : tag = otherTag)
    (modes : ∀ lock, holds lock = (held lock).map Hold.mode)
    (values : ∀ lock hold, held lock = some hold →
      hold.now = s.data lock ∧ hold.final = w.shared.data lock)
    (has : held lock = some hold)
    (reads : hold.mode = .shared → (S.operate lock operation hold.now).2 = hold.now)
    (body : Matches Settled
      (held.set lock (some { hold with now := (S.operate lock operation hold.now).2 }))
      (next (S.operate lock operation hold.now).1) whole) :
    Linked (step answer text s (.advance i)) w := by
  have now : hold.now = s.data lock := (values lock hold has).1
  have mode : holds lock = some hold.mode := by rw [modes lock, has]; rfl
  -- A thread that does not have the lock exclusively leaves the datum as it is.
  have reading : hold.mode ≠ .exclusive →
      (S.operate lock operation hold.now).2 = s.data lock := by
    intro other
    have shared : hold.mode = .shared := by
      cases is : hold.mode with
      | shared => rfl
      | exclusive => exact absurd is other
    rw [reads shared, now]
  simp only [step, found]
  rw [← now]
  have moved := linked_set linked i ⟨tag, next (S.operate lock operation hold.now).1, holds⟩
    ⟨otherTag, whole⟩ (Function.update s.data lock (S.operate lock operation hold.now).2)
    w.shared.data s.rest ?_ ?_ ?_ ?_
  · rw [set_found _ _ _ foundOther, linked.rest] at moved
    rw [linked.rest]
    exact moved
  · refine ⟨tags, _, ?_, ?_, body⟩
    · intro each
      by_cases same : each = lock
      · subst same
        rw [Held.set_self]
        exact mode
      · rw [Held.set_other _ same]
        exact modes each
    · refine values_set values lock _ ?_ fun each differs => ⟨Function.update_of_ne differs .., rfl⟩
      rintro new ⟨⟩
      exact ⟨(Function.update_self ..).symm, (values lock hold has).2⟩
  · intro j stays differs stayed each locked
    refine ⟨?_, rfl⟩
    by_cases same : each = lock
    · subst same
      rw [Function.update_self]
      refine reading fun exclusively => locked ?_
      exact (exclusive_apart linked found j stays each differs stayed).1 (mode.trans
        (congrArg some exclusively))
    · rw [Function.update_of_ne same]
  · exact fun j stays each differs stayed =>
      exclusive_apart linked found j stays each differs stayed
  · intro each nobody
    have before := nobody_before found _ each nobody id
    by_cases same : each = lock
    · subst same
      rw [Function.update_self]
      refine (reading fun exclusively => ?_).trans (linked.free each before)
      exact before _ (List.mem_iff_getElem?.mpr ⟨i, found⟩) (mode.trans
        (congrArg some exclusively))
    · rw [Function.update_of_ne same]
      exact linked.free each before

/-- A thread gives back a lock whose datum it has finished with. -/
theorem linked_release (linked : Linked s w) (lock : S.Lock) (next : PUnit → S.Locked α)
    (whole : S.Whole α)
    (found : s.threads[i]? = some ⟨tag, .call (.release lock) next, holds⟩)
    (foundOther : w.threads[i]? = some ⟨otherTag, whole⟩)
    (held : S.Held) (hold : S.Hold lock) (tags : tag = otherTag)
    (modes : ∀ lock, holds lock = (held lock).map Hold.mode)
    (values : ∀ lock hold, held lock = some hold →
      hold.now = s.data lock ∧ hold.final = w.shared.data lock)
    (has : held lock = some hold) (settled : hold.now = hold.final)
    (body : Matches Settled (held.set lock none) (next ⟨⟩) whole) :
    Linked (step answer text s (.advance i)) w := by
  simp only [step, found]
  have moved := linked_set linked i ⟨tag, next ⟨⟩, Function.update holds lock none⟩
    ⟨otherTag, whole⟩ s.data w.shared.data s.rest ?_ (fun _ _ _ _ _ _ => ⟨rfl, rfl⟩) ?_ ?_
  · rw [set_found _ _ _ foundOther, linked.rest] at moved
    rw [linked.rest]
    exact moved
  · exact ⟨tags, _, modes_set modes lock none,
      values_set values lock none nofun fun _ _ => ⟨rfl, rfl⟩, body⟩
  · intro j stays each differs stayed
    have apart := exclusive_apart linked found j stays each differs stayed
    by_cases same : each = lock
    · subst same
      exact ⟨fun has => by simp at has, fun _ => Function.update_self ..⟩
    · dsimp only
      rw [Function.update_of_ne same]
      exact apart
  · intro each nobody
    by_cases same : each = lock
    · subst same
      obtain ⟨now, final⟩ := values each hold has
      rw [← now, ← final, settled]
    · refine linked.free each (nobody_before found _ each nobody fun exclusively => ?_)
      dsimp only
      rw [Function.update_of_ne same]
      exact exclusively

/-- A granted lock: the machine of whole sections executes the section. -/
theorem linked_acquire (linked : Linked s w) (lock : S.Lock) (mode : Mode)
    (part : S.Section lock) (next : PUnit → S.Locked α)
    (following : S.Value lock part → S.Whole α)
    (found : s.threads[i]? = some ⟨tag, .call (.acquire lock mode) next, holds⟩)
    (foundOther : w.threads[i]? = some ⟨otherTag, .call (.whole lock part) following⟩)
    (granted : Grants s.threads lock mode) (held : S.Held) (tags : tag = otherTag)
    (modes : ∀ lock, holds lock = (held lock).map Hold.mode)
    (values : ∀ lock hold, held lock = some hold →
      hold.now = s.data lock ∧ hold.final = w.shared.data lock)
    (reads : mode = .shared → ∀ datum, (S.change lock part datum).2 = datum)
    (body : ∀ datum, Matches Settled
      (held.set lock (some ⟨mode, datum, (S.change lock part datum).2⟩)) (next ⟨⟩)
      (following (S.change lock part datum).1)) (texts : Tag → S.Whole α) :
    Linked (step answer text s (.advance i)) (wholeStep answer texts w (.advance i)) := by
  have unlocked : ∀ thread ∈ s.threads, thread.holds lock ≠ some .exclusive := by
    intro thread member has
    cases mode with
    | shared => exact granted thread member has
    | exclusive => exact absurd (granted thread member) (by rw [has]; nofun)
  have datum : s.data lock = w.shared.data lock := linked.free lock unlocked
  simp only [step, found, if_pos granted, wholeStep, Interleaving.step, foundOther, answerWhole]
  rw [← datum, linked.rest]
  refine linked_set linked i _ _ s.data _ _ ?_ ?_ ?_ ?_
  · refine ⟨tags, _, modes_set modes lock (some ⟨mode, s.data lock, _⟩), ?_, body (s.data lock)⟩
    refine values_set values lock _ ?_ fun each differs => ⟨rfl, Function.update_of_ne differs ..⟩
    rintro new ⟨⟩
    exact ⟨rfl, (Function.update_self ..).symm⟩
  · intro j stays differs stayed each locked
    refine ⟨rfl, ?_⟩
    by_cases same : each = lock
    · subst same
      rw [Function.update_self]
      cases mode with
      | shared => rw [reads rfl, datum]
      | exclusive =>
        exact absurd (granted stays (List.mem_iff_getElem?.mpr ⟨j, stayed⟩)) locked
    · rw [Function.update_of_ne same]
  · intro j stays each differs stayed
    by_cases same : each = lock
    · subst same
      have member := List.mem_iff_getElem?.mpr ⟨j, stayed⟩
      dsimp only
      rw [Function.update_self]
      refine ⟨fun exclusively => ?_, fun has => absurd has (unlocked stays member)⟩
      cases exclusively
      exact granted stays member
    · dsimp only
      rw [Function.update_of_ne same]
      exact exclusive_apart linked found j stays each differs stayed
  · intro each nobody
    by_cases same : each = lock
    · subst same
      cases mode with
      | shared => rw [Function.update_self, reads rfl]
      | exclusive =>
        have member : (⟨tag, next ⟨⟩, Function.update holds each (some .exclusive)⟩ :
            Thread S α Tag) ∈ s.threads.set i _ :=
          List.mem_set (List.getElem?_eq_some_iff.mp found).1 _
        exact absurd (Function.update_self ..) (nobody _ member)
    · rw [Function.update_of_ne same]
      refine linked.free each (nobody_before found _ each nobody fun exclusively => ?_)
      dsimp only
      rw [Function.update_of_ne same]
      exact exclusively

end Actions

variable {texts : Tag → S.Whole α}

/-- What one thread does next is matched by the machine of whole sections, in one step or
in none. -/
theorem linked_step (matched : ∀ tag, Matches Settled emptyHanded (text tag) (texts tag))
    {s : State S α σ Tag} {w : Interleaving.State S.AtomReply α (Shared S σ) Tag}
    (linked : Linked s w) (event : Interleaving.Event Tag) :
    ∃ events, Linked (step answer text s event) (Runs.run (wholeStep answer texts) w events) := by
  cases event with
  | start tag => exact ⟨[.start tag], linked_new linked tag _ _ (matched tag)⟩
  | advance i =>
    cases found : s.threads[i]? with
    | none =>
      refine ⟨[], ?_⟩
      simp only [step, found]
      exact linked
    | some thread =>
      obtain ⟨tag, program, holds⟩ := thread
      obtain ⟨inside, isThread⟩ := List.getElem?_eq_some_iff.mp found
      obtain ⟨⟨otherTag, whole⟩, foundOther⟩ : ∃ other, w.threads[i]? = some other :=
        ⟨_, List.getElem?_eq_getElem (linked.length ▸ inside)⟩
      obtain ⟨tags, held, modes, values, doing⟩ := linked.related i _ _ found foundOther
      cases doing with
      | done _ value other ended =>
        refine ⟨[], ?_⟩
        simp only [step, found]
        exact linked
      | acquire _ lock mode part next following notHeld reads body =>
        by_cases granted : Grants s.threads lock mode
        · exact ⟨[.advance i], linked_acquire answer text linked lock mode part next following found
            foundOther granted held tags modes values reads body texts⟩
        · refine ⟨[], ?_⟩
          simp only [step, found, if_neg granted]
          exact linked
      | release _ lock hold next _ has settled body =>
        exact ⟨[], linked_release answer text linked lock next whole found foundOther held hold tags
          modes values has settled body⟩
      | operate _ lock hold operation next _ has reads body =>
        exact ⟨[], linked_operate answer text linked lock operation next whole found foundOther held
          hold tags modes values has reads body⟩
      | outside _ call next following body =>
        exact ⟨[.advance i], linked_outside answer text linked call next following found foundOther
          held tags modes values body texts⟩

/-- Every run of threads that lock has a run of whole sections it is linked to. -/
theorem linked_run (matched : ∀ tag, Matches Settled emptyHanded (text tag) (texts tag))
    (s : State S α σ Tag) (w : Interleaving.State S.AtomReply α (Shared S σ) Tag)
    (linked : Linked s w) (events : List (Interleaving.Event Tag)) :
    ∃ sections, Linked (Runs.run (step answer text) s events)
      (Runs.run (wholeStep answer texts) w sections) := by
  induction events generalizing s w with
  | nil => exact ⟨[], linked⟩
  | cons event events inductionHypothesis =>
    obtain ⟨first, next⟩ := linked_step answer text matched linked event
    obtain ⟨sections, last⟩ := inductionHypothesis _ _ next
    refine ⟨first ++ sections, ?_⟩
    rw [Runs.run, Runs.run, List.foldl_append]
    exact last

/-- A thread of linked machines has ended in both or in neither, with the same value. -/
theorem linked_done {s : State S α σ Tag}
    {w : Interleaving.State S.AtomReply α (Shared S σ) Tag} (linked : Linked s w) (i : Nat)
    (tag : Tag) (value : α) (holds : S.Lock → Option Mode)
    (found : s.threads[i]? = some ⟨tag, .done value, holds⟩) :
    w.threads[i]? = some ⟨tag, .done value⟩ := by
  obtain ⟨inside, _⟩ := List.getElem?_eq_some_iff.mp found
  obtain ⟨⟨otherTag, whole⟩, foundOther⟩ : ∃ other, w.threads[i]? = some other :=
    ⟨_, List.getElem?_eq_getElem (linked.length ▸ inside)⟩
  obtain ⟨tags, held, _, _, doing⟩ := linked.related i _ _ found foundOther
  cases doing with
  | done _ _ other ended =>
    rw [foundOther]
    exact congrArg some (by rw [show tag = otherTag from tags, ended.1])

/-- Of two threads that are about to apply an operation to one datum, neither writes. -/
theorem no_race {s : State S α σ Tag}
    {w : Interleaving.State S.AtomReply α (Shared S σ) Tag} (linked : Linked s w) (i j : Nat)
    (differs : i ≠ j) (lock : S.Lock) (first second : S.Operation lock)
    (tag other : Tag) (next : S.Result lock first → S.Locked α)
    (following : S.Result lock second → S.Locked α) (holds others : S.Lock → Option Mode)
    (found : s.threads[i]? = some ⟨tag, .call (.operate lock first) next, holds⟩)
    (foundOther : s.threads[j]? = some ⟨other, .call (.operate lock second) following, others⟩) :
    (S.operate lock first (s.data lock)).2 = s.data lock := by
  have permitted : ∀ (i : Nat) (tag : Tag) (operation : S.Operation lock)
      (next : S.Result lock operation → S.Locked α) (holds : S.Lock → Option Mode),
      s.threads[i]? = some ⟨tag, .call (.operate lock operation) next, holds⟩ →
        holds lock ≠ none ∧ (holds lock ≠ some .exclusive →
          (S.operate lock operation (s.data lock)).2 = s.data lock) := by
    intro i tag operation next holds found
    obtain ⟨inside, _⟩ := List.getElem?_eq_some_iff.mp found
    obtain ⟨whole, foundWhole⟩ : ∃ whole, w.threads[i]? = some whole :=
      ⟨_, List.getElem?_eq_getElem (linked.length ▸ inside)⟩
    obtain ⟨_, held, modes, values, doing⟩ := linked.related i _ _ found foundWhole
    generalize whole.program = doneElsewhere at doing
    cases doing with
    | operate _ _ hold _ _ _ has reads body =>
      have mode : holds lock = some hold.mode := by
        rw [show holds lock = _ from modes lock, has]
        rfl
      rw [mode, ← (values lock hold has).1]
      refine ⟨nofun, fun unlocked => reads ?_⟩
      cases known : hold.mode with
      | shared => rfl
      | exclusive => exact absurd (by rw [known]) unlocked
  obtain ⟨locked, reads⟩ := permitted i tag first next holds found
  obtain ⟨otherLocked, _⟩ := permitted j other second following others foundOther
  exact reads fun exclusively =>
    otherLocked (linked.exclusive i j _ _ lock differs found foundOther exclusively)

end Sections
