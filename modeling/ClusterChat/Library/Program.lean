import Mathlib.Tactic.Common

/-!
# Programs over atomic commands

A program is a finite tree: it stops with a value, or issues one command and
continues with whatever reply that command receives. The command signature is a
parameter, so one program text can be executed against several environments:
a state that answers commands one after another, a scripted oracle of failures,
or an interleaving in which other parties act between two commands.

`run` executes a program against an answering state. `Along` states a property
of every command and reply that execution actually exchanges; it does not speak
of replies that never occur. `Issues` bounds the commands a program can issue
whatever the replies are.

Nothing here assumes that a reply reports success, and a loop without a bound
has no tree: such a loop is given its number of iterations by its user.
-/

universe u v

/-- A finite interaction with an environment that answers commands. -/
inductive Program (Command : Type u) (Reply : Command → Type u) (α : Type u) : Type u where
  | done (value : α) : Program Command Reply α
  | call (command : Command) (next : Reply command → Program Command Reply α) :
      Program Command Reply α

namespace Program

variable {Command : Type u} {Reply : Command → Type u} {α β γ : Type u} {σ : Type v}

/-- Continue with the value of the first program. -/
def bind : Program Command Reply α → (α → Program Command Reply β) → Program Command Reply β
  | .done value, following => following value
  | .call command next, following => .call command (fun reply => (next reply).bind following)

instance : Monad (Program Command Reply) where
  pure := .done
  bind := bind

/-- Issue one command and stop with its reply. -/
def issue (command : Command) : Program Command Reply (Reply command) :=
  .call command .done

/-- A finished program hands its value on. -/
@[simp] theorem done_bind (value : α) (following : α → Program Command Reply β) :
    (Program.done value : Program Command Reply α) >>= following = following value := rfl

/-- A program that issues a command issues it first when sequenced. -/
@[simp] theorem call_bind (command : Command) (next : Reply command → Program Command Reply α)
    (following : α → Program Command Reply β) :
    Program.call command next >>= following =
      Program.call command (fun reply => next reply >>= following) := rfl

/-- `pure` is the finished program. -/
@[simp] theorem pure_eq_done (value : α) :
    (pure value : Program Command Reply α) = Program.done value := rfl

instance : LawfulMonad (Program Command Reply) :=
  LawfulMonad.mk' _
    (by
      intro α program
      change program.bind Program.done = program
      induction program with
      | done value => rfl
      | call command next inductionHypothesis =>
        exact congrArg (Program.call command) (funext inductionHypothesis))
    (fun _ _ => rfl)
    (by
      intro α β γ program second third
      change (program.bind second).bind third = program.bind fun value => (second value).bind third
      induction program with
      | done value => rfl
      | call command next inductionHypothesis =>
        exact congrArg (Program.call command) (funext inductionHypothesis))

/-- Execute a program against a state that answers each command in turn. -/
def run (answer : (command : Command) → σ → Reply command × σ) :
    Program Command Reply α → σ → α × σ
  | .done value, state => (value, state)
  | .call command next, state =>
      run answer (next (answer command state).1) (answer command state).2

variable (answer : (command : Command) → σ → Reply command × σ)

/-- A finished program leaves the state alone. -/
@[simp] theorem run_done (value : α) (state : σ) :
    run answer (Program.done value : Program Command Reply α) state = (value, state) := rfl

/-- A command is answered, and the program goes on with the reply. -/
@[simp] theorem run_call (command : Command) (next : Reply command → Program Command Reply α)
    (state : σ) : run answer (Program.call command next) state =
      run answer (next (answer command state).1) (answer command state).2 := rfl

/-- Issuing a command is one step of the answering machine. -/
@[simp] theorem run_issue (command : Command) (state : σ) :
    run answer (issue command : Program Command Reply (Reply command)) state =
      answer command state := rfl

/-- Sequential composition runs the first program and hands its value and state
to the second. -/
@[simp] theorem run_bind (program : Program Command Reply α)
    (following : α → Program Command Reply β) (state : σ) :
    run answer (program >>= following) state =
      run answer (following (run answer program state).1) (run answer program state).2 := by
  induction program generalizing state with
  | done value => rfl
  | call command next inductionHypothesis =>
    simp only [call_bind, run_call, inductionHypothesis]

/-- Every command the execution issues, with the reply it receives, satisfies
the property. -/
def Along (property : (command : Command) → Reply command → Prop) :
    Program Command Reply α → σ → Prop
  | .done _, _ => True
  | .call command next, state =>
      property command (answer command state).1 ∧
        Along property (next (answer command state).1) (answer command state).2

variable (property : (command : Command) → Reply command → Prop)

/-- A finished program issues nothing that could break the property. -/
@[simp] theorem along_done (value : α) (state : σ) :
    Along answer property (Program.done value : Program Command Reply α) state := trivial

/-- Along a command, the property holds of it and along what follows. -/
@[simp] theorem along_call (command : Command) (next : Reply command → Program Command Reply α)
    (state : σ) : Along answer property (Program.call command next) state ↔
      property command (answer command state).1 ∧
        Along answer property (next (answer command state).1) (answer command state).2 := Iff.rfl

/-- The exchanges of a composition are those of its parts. -/
@[simp] theorem along_bind (program : Program Command Reply α)
    (following : α → Program Command Reply β) (state : σ) :
    Along answer property (program >>= following) state ↔
      Along answer property program state ∧
        Along answer property (following (run answer program state).1)
          (run answer program state).2 := by
  induction program generalizing state with
  | done value => simp
  | call command next inductionHypothesis =>
    simp only [call_bind, along_call, run_call, inductionHypothesis, and_assoc]

/-- The commands the execution issues, in order, with the replies they receive. -/
def exchanges : Program Command Reply α → σ → List (Sigma Reply)
  | .done _, _ => []
  | .call command next, state =>
      ⟨command, (answer command state).1⟩ ::
        exchanges (next (answer command state).1) (answer command state).2

/-- The exchanges of a sequence are those of its parts in order. -/
@[simp] theorem exchanges_bind (program : Program Command Reply α)
    (following : α → Program Command Reply β) (state : σ) :
    exchanges answer (program >>= following) state = exchanges answer program state ++
      exchanges answer (following (run answer program state).1) (run answer program state).2 := by
  induction program generalizing state with
  | done value => rfl
  | call command next inductionHypothesis =>
    simp only [call_bind, exchanges, run_call, inductionHypothesis, List.cons_append]

section Exceptions

variable {ε : Type u}

/-- A block that may throw goes on after a call that returns and is left by one
that throws. -/
theorem run_try_bind (first : ExceptT ε (Program Command Reply) α)
    (following : α → ExceptT ε (Program Command Reply) β) (state : σ) :
    (first >>= following).run.run answer state =
      match first.run.run answer state with
      | (.ok value, next) => (following value).run.run answer next
      | (.error exception, next) => (.error exception, next) := by
  rw [ExceptT.run_bind, run_bind]
  cases ended : first.run.run answer state with
  | mk outcome next => cases outcome <;> rfl

/-- The parts of a block may be grouped either way. -/
theorem run_try_assoc {γ : Type u} (first : ExceptT ε (Program Command Reply) α)
    (second : α → ExceptT ε (Program Command Reply) β)
    (third : β → ExceptT ε (Program Command Reply) γ) (state : σ) :
    (first >>= fun value => second value >>= third).run.run answer state =
      (first >>= second >>= third).run.run answer state := by
  simp only [run_try_bind]
  cases first.run.run answer state with
  | mk outcome next => cases outcome <;> rfl

/-- The exchanges of a block are those of its first part and, if that returned,
those of the rest. -/
theorem along_try_bind (first : ExceptT ε (Program Command Reply) α)
    (following : α → ExceptT ε (Program Command Reply) β) (state : σ) :
    (first >>= following).run.Along answer property state ↔
      first.run.Along answer property state ∧
        match first.run.run answer state with
        | (.ok value, next) => (following value).run.Along answer property next
        | (.error _, _) => True := by
  rw [ExceptT.run_bind, along_bind]
  cases ended : first.run.run answer state with
  | mk outcome next => cases outcome <;> rfl

/-- A block that succeeds at once leaves the state alone. -/
@[simp] theorem run_try_pure (value : α) (state : σ) :
    (pure value : ExceptT ε (Program Command Reply) α).run.run answer state =
      (.ok value, state) := rfl

end Exceptions

/-- Whatever the replies are, the program issues only the allowed commands. -/
def Issues (allowed : Command → Prop) : Program Command Reply α → Prop
  | .done _ => True
  | .call command next => allowed command ∧ ∀ reply, Issues allowed (next reply)

variable (allowed : Command → Prop)

/-- A permitted command issues permitted commands only. -/
theorem issues_issue (command : Command) (permitted : allowed command) :
    Issues allowed (issue command : Program Command Reply (Reply command)) :=
  ⟨permitted, fun _ => trivial⟩

/-- A program issues only commands that are all allowed. -/
theorem issues_any (every : ∀ command, allowed command) (program : Program Command Reply α) :
    Issues allowed program := by
  induction program with
  | done value => exact trivial
  | call command next inductionHypothesis => exact ⟨every command, inductionHypothesis⟩

/-- Sequencing keeps to the permitted commands. -/
theorem issues_bind (program : Program Command Reply α)
    (following : α → Program Command Reply β) (first : Issues allowed program)
    (rest : ∀ value, Issues allowed (following value)) :
    Issues allowed (program >>= following) := by
  induction program with
  | done value => exact rest value
  | call command next inductionHypothesis =>
    exact ⟨first.1, fun reply => inductionHypothesis reply (first.2 reply)⟩

/-- Sequencing in a block that can throw keeps to them too. -/
theorem issues_try_bind {ε : Type u} (first : ExceptT ε (Program Command Reply) α)
    (following : α → ExceptT ε (Program Command Reply) β) (start : Issues allowed first.run)
    (rest : ∀ value, Issues allowed (following value).run) :
    Issues allowed (first >>= following).run := by
  rw [ExceptT.run_bind]
  refine issues_bind allowed _ _ start ?_
  intro outcome
  cases outcome with
  | ok value => exact rest value
  | error exception => exact trivial

/-- Only allowed commands are exchanged. -/
theorem issues_exchanges (program : Program Command Reply α) (issues : Issues allowed program)
    (state : σ) : ∀ exchange ∈ exchanges answer program state, allowed exchange.1 := by
  induction program generalizing state with
  | done value => exact fun _ none => absurd none List.not_mem_nil
  | call command next inductionHypothesis =>
    intro exchange member
    rcases List.mem_cons.mp member with rfl | later
    · exact issues.1
    · exact inductionHypothesis _ (issues.2 _) _ exchange later

/-- A projection of the state that every allowed command leaves alone is left
alone by the whole execution. -/
theorem issues_keeps {δ : Type*} (view : σ → δ)
    (kept : ∀ command state, allowed command → view (answer command state).2 = view state)
    (program : Program Command Reply α) (issues : Issues allowed program) (state : σ) :
    view (run answer program state).2 = view state := by
  induction program generalizing state with
  | done value => rfl
  | call command next inductionHypothesis =>
    rw [run_call, inductionHypothesis _ (issues.2 _), kept command state issues.1]

/-- Where every allowed command moves the state along a relation, so does the whole
execution. -/
theorem issues_moves (relation : σ → σ → Prop) [Std.Refl relation] [IsTrans σ relation]
    (moves : ∀ command state, allowed command → relation state (answer command state).2)
    (program : Program Command Reply α) (issues : Issues allowed program) (state : σ) :
    relation state (run answer program state).2 := by
  induction program generalizing state with
  | done value => exact Std.Refl.refl state
  | call command next inductionHypothesis =>
    exact IsTrans.trans _ _ _ (moves command state issues.1)
      (inductionHypothesis _ (issues.2 _) _)

/-- An invariant that every command preserves holds after the execution. -/
theorem run_preserves (invariant : σ → Prop)
    (kept : ∀ command state, invariant state → invariant (answer command state).2)
    (program : Program Command Reply α) (state : σ) (holds : invariant state) :
    invariant (run answer program state).2 := by
  induction program generalizing state with
  | done value => exact holds
  | call command next inductionHypothesis =>
    exact inductionHypothesis _ _ (kept command state holds)

/-- Whatever the replies are, the program stops with a value of the property. -/
def Yields (wanted : α → Prop) : Program Command Reply α → Prop
  | .done value => wanted value
  | .call _ next => ∀ reply, Yields wanted (next reply)

/-- Every program yields a value. -/
theorem yields_any (program : Program Command Reply α) : Yields (fun _ => True) program := by
  induction program with
  | done value => exact trivial
  | call command next inductionHypothesis => exact inductionHypothesis

/-- What a sequence yields is found from what its first part yields. -/
theorem yields_bind (between : α → Prop) (wanted : β → Prop) (program : Program Command Reply α)
    (following : α → Program Command Reply β) (first : Yields between program)
    (rest : ∀ value, between value → Yields wanted (following value)) :
    Yields wanted (program >>= following) := by
  induction program with
  | done value => exact rest value first
  | call command next inductionHypothesis =>
    exact fun reply => inductionHypothesis reply (first reply)

/-- The rest of a program may rely on what its first part can stop with. -/
theorem issues_bind_yields (between : α → Prop) (program : Program Command Reply α)
    (following : α → Program Command Reply β) (first : Issues allowed program)
    (yields : Yields between program)
    (rest : ∀ value, between value → Issues allowed (following value)) :
    Issues allowed (program >>= following) := by
  induction program with
  | done value => exact rest value yields
  | call command next inductionHypothesis =>
    exact ⟨first.1, fun reply => inductionHypothesis reply (first.2 reply) (yields reply)⟩

/-- A property of every value a program can stop with holds of the value of an
execution. -/
theorem run_yields (wanted : α → Prop) (program : Program Command Reply α)
    (yields : Yields wanted program) (state : σ) : wanted (run answer program state).1 := by
  induction program generalizing state with
  | done value => exact yields
  | call command next inductionHypothesis => exact inductionHypothesis _ (yields _) _

section Expansion

variable {Other : Type u} {OtherReply : Other → Type u} {τ : Type*}
  (meaning : (command : Command) → Program Other OtherReply (Reply command))

/-- Replace every command by a program that returns its reply. -/
def expand : Program Command Reply α → Program Other OtherReply α
  | .done value => .done value
  | .call command next => meaning command >>= fun reply => expand (next reply)

/-- A finished program has nothing to expand. -/
@[simp] theorem expand_done (value : α) :
    expand meaning (.done value : Program Command Reply α) = .done value := rfl

/-- A command is expanded in place, and so is what follows it. -/
@[simp] theorem expand_call (command : Command) (next : Reply command → Program Command Reply α) :
    expand meaning (.call command next) =
      meaning command >>= fun reply => expand meaning (next reply) := rfl

/-- Where a command's program does to a state what the command does to a view of it, so does
the whole expansion. -/
theorem run_expand (answers : (command : Other) → τ → OtherReply command × τ) (view : τ → σ)
    (does : ∀ command state, answer command (view state) =
      ((run answers (meaning command) state).1, view (run answers (meaning command) state).2))
    (program : Program Command Reply α) (state : τ) :
    run answer program (view state) =
      ((run answers (expand meaning program) state).1,
        view (run answers (expand meaning program) state).2) := by
  induction program generalizing state with
  | done value => rfl
  | call command next inductionHypothesis =>
    rw [expand_call, run_call, run_bind, does command state, inductionHypothesis]

end Expansion

end Program
