import ClusterChat.Library.Program

/-!
# Interleavings of programs

Any number of threads execute programs over one shared state. A step starts a
thread or lets one thread issue its next command, which the state answers at once;
between two commands of a thread any others may run. A thread that has stopped
stays in the list with its value.

A thread carries a tag, which says what it is executing and determines its text.
`step_cases` is the only place where a step is opened. `every_step` turns a property
of programs that survives every reply into one of all threads, whoever moves.

Commands are atomic and always answered. Nothing is said about fairness, and a
thread may be left alone for ever.
-/

universe u v

namespace Interleaving

variable {Command : Type u} {Reply : Command → Type u} {α : Type u} {σ : Type v} {Tag : Type u}

/-- A thread: what it executes, and what is left of it. -/
structure Thread (Reply : Command → Type u) (α Tag : Type u) where
  tag : Tag
  program : Program Command Reply α

/-- The shared state and the threads over it. -/
structure State (Reply : Command → Type u) (α : Type u) (σ : Type v) (Tag : Type u) where
  shared : σ
  threads : List (Thread Reply α Tag)

/-- A thread starts, or one of them takes its next step. -/
inductive Event (Tag : Type u) where
  | start (tag : Tag)
  | advance (i : Nat)

variable (answer : (command : Command) → σ → Reply command × σ)
  (text : Tag → Program Command Reply α)

/-- A step answers one command of one thread from the shared state. -/
def step (s : State Reply α σ Tag) : Event Tag → State Reply α σ Tag
  | .start tag => { s with threads := s.threads ++ [⟨tag, text tag⟩] }
  | .advance i =>
      match s.threads[i]? with
      | some ⟨tag, .call command next⟩ =>
          ⟨(answer command s.shared).2, s.threads.set i ⟨tag, next (answer command s.shared).1⟩⟩
      | _ => s

/-- A step starts a thread, does nothing, or answers one command of one thread. -/
theorem step_cases (s : State Reply α σ Tag) (event : Event Tag) :
    (∃ tag, event = .start tag ∧
      step answer text s event = { s with threads := s.threads ++ [⟨tag, text tag⟩] }) ∨
    (∃ i, event = .advance i ∧ step answer text s event = s ∧
      ∀ tag command next, s.threads[i]? ≠ some ⟨tag, .call command next⟩) ∨
    ∃ i tag command next before after, event = .advance i ∧
      s.threads[i]? = some ⟨tag, .call command next⟩ ∧
      s.threads = before ++ ⟨tag, .call command next⟩ :: after ∧
      step answer text s event = ⟨(answer command s.shared).2,
        before ++ ⟨tag, next (answer command s.shared).1⟩ :: after⟩ := by
  cases event with
  | start tag => exact Or.inl ⟨tag, rfl, rfl⟩
  | advance i =>
    cases found : s.threads[i]? with
    | none =>
      refine Or.inr (Or.inl ⟨i, rfl, ?_, fun _ _ _ other => by simp [found] at other⟩)
      simp only [step, found]
    | some thread =>
      obtain ⟨tag, program⟩ := thread
      cases program with
      | done value =>
        refine Or.inr (Or.inl ⟨i, rfl, ?_, fun _ _ _ other => by simp [found] at other⟩)
        simp only [step, found]
      | call command next =>
        obtain ⟨within, isThread⟩ := List.getElem?_eq_some_iff.mp found
        refine Or.inr (Or.inr ⟨i, tag, command, next, s.threads.take i, s.threads.drop (i + 1), rfl,
          found, ?_, ?_⟩)
        · rw [← isThread, ← List.drop_eq_getElem_cons within, List.take_append_drop]
        · simp only [step, found]
          rw [List.set_eq_take_append_cons_drop, if_pos within]

/-- The property holds of what is left of every thread. -/
def Every (property : Tag → Program Command Reply α → Prop) (s : State Reply α σ Tag) : Prop :=
  ∀ thread ∈ s.threads, property thread.tag thread.program

/-- A property that every text has and every reply leaves holds of every thread. -/
theorem every_step (property : Tag → Program Command Reply α → Prop)
    (starts : ∀ tag, property tag (text tag))
    (kept : ∀ tag command next reply, property tag (.call command next) →
      property tag (next reply))
    (s : State Reply α σ Tag) (event : Event Tag) (every : Every property s) :
    Every property (step answer text s event) := by
  rcases step_cases answer text s event with
    ⟨tag, _, stepped⟩ | ⟨i, _, stepped, _⟩ |
      ⟨i, tag, command, next, before, after, _, _, threads, stepped⟩
  · rw [stepped]
    intro thread member
    rcases List.mem_append.mp member with old | new
    · exact every thread old
    · rw [List.mem_singleton.mp new]
      exact starts tag
  · rw [stepped]
    exact every
  · rw [stepped]
    rw [Every, threads] at every
    intro thread member
    rcases List.mem_append.mp member with first | moved
    · exact every thread (List.mem_append_left _ first)
    · rcases List.mem_cons.mp moved with rfl | last
      · exact kept tag command next _ (every _ (List.mem_append_right _ List.mem_cons_self))
      · exact every thread (List.mem_append_right _ (List.mem_cons_of_mem _ last))

end Interleaving
