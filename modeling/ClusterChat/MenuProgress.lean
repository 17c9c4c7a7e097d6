import ClusterChat.Library.Runs
import ClusterChat.Terminal

/-!
# Whether the menus of the client make progress

A read that fails sets `failbit`, nothing in the client clears it, and no loop looks at
it. From then on every read of either loop gets nothing: `main` takes the choice for 0
and complains of it, `mainmenu` takes the command for an empty one and complains of that,
for ever.

`menus_progress_iff` says which runs escape this. An iteration consumes a character or
ends the program exactly when its first read finds what it wants: in `mainmenu` a good
stream with anything unread, in `main` a good stream that goes on with whitespace, a sign
or a digit. A run whose iterations all do so ends the program within as many iterations
as there are characters; one iteration that does not is followed by no other that does
(`stuck_run`).

The answers of the server and whether `send` succeeds are arbitrary in every iteration. A
wait for an answer that does not come is no iteration.
-/

namespace ClusterChat.MenuProgress

open Terminal InputStream

/-- The client before its first choice, with a finite input. -/
def start (text : List Char) : Terminal := { input := { rest := text } }

/-- The iteration consumes a character or ends the program. -/
def Progress (t : Terminal) (around : Surroundings) : Prop :=
  (t.step around).input.rest.length < t.input.rest.length ∨ (t.step around).ended = true

/-- The first read of the next iteration finds something it can take. -/
def Readable (t : Terminal) : Prop :=
  t.ended = true ∨
    if t.isMainMenuRunning then t.input.Good ∧ t.input.rest ≠ [] else t.input.BeginsInt

/-!
## What handlers leave of the input
-/

section Handlers

variable (around : Surroundings)

/-- A `send` reads nothing, whether it comes to its end or ends the program. -/
theorem input_sent (js : Json) (failure : String) (t : Terminal) :
    ((t.send around js failure).getD t.terminate).input = t.input := by
  cases sent : t.send around js failure with
  | none => rfl
  | some next => exact (send_some around js failure t next sent).2.1

/-- A handler reads nothing. -/
def KeepsInput (handler : List Char → Terminal → Option Terminal) : Prop :=
  ∀ str t next, handler str t = some next → next.input = t.input

/-- Cutting the text at the colon reads nothing if what follows reads nothing. -/
theorem keepsInput_cutting (invalid : String)
    (handle : List Char → List Char → Terminal → Option Terminal)
    (keeps : ∀ first, KeepsInput (handle first)) : KeepsInput (cutting invalid handle) := by
  intro str t next handled
  unfold cutting at handled
  simp only at handled
  split at handled
  · cases handled
    rfl
  · simp only [Option.bind_eq_bind, Option.bind_eq_some_iff] at handled
    obtain ⟨first, _, second, _, made⟩ := handled
    exact keeps first second t next made

/-- Sending a message reads nothing. -/
theorem keepsInput_talking (invalid : String) (type : MsgType) (key empty failure : String) :
    KeepsInput (cutting invalid (talking around type key empty failure)) := by
  apply keepsInput_cutting
  intro number message t next talked
  unfold talking at talked
  split at talked
  · cases talked
    rfl
  · exact (send_some around _ failure t next talked).2.1

/-- Naming a friend or a group reads nothing. -/
theorem keepsInput_naming (type : MsgType) (key failure : String) :
    KeepsInput (naming around type key failure) :=
  fun _ t next handled => (send_some around _ failure t next handled).2.1

/-- Creating a group reads nothing. -/
theorem keepsInput_describing (groupName : List Char) :
    KeepsInput (describing around groupName) :=
  fun _ t next handled => (send_some around _ _ t next handled).2.1

/-- Logging out reads nothing. -/
theorem keepsInput_loginout : KeepsInput (loginout around) := by
  intro str t next handled
  unfold loginout at handled
  simp only at handled
  obtain ⟨left, sent, made⟩ := Option.map_eq_some_iff.mp handled
  have kept := (send_some around _ _ t left sent).2.1
  rw [← made]
  split <;> exact kept

/-- No command of the main menu reads anything. -/
theorem keepsInput_known (command : List Char)
    (handler : List Char → Terminal → Option Terminal)
    (known : commandHandlerMap around command = some handler) : KeepsInput handler := by
  obtain ⟨before, after, entries, _⟩ := List.lookup_eq_some_iff.mp known
  have member : (String.ofList command, handler) ∈ before ++ (String.ofList command, handler) ::
      after := List.mem_append_right _ List.mem_cons_self
  rw [← entries] at member
  simp only [List.mem_cons, Prod.mk.injEq, List.not_mem_nil, or_false] at member
  rcases member with ⟨_, rfl⟩ | ⟨_, rfl⟩ | ⟨_, rfl⟩ | ⟨_, rfl⟩ | ⟨_, rfl⟩ | ⟨_, rfl⟩ | ⟨_, rfl⟩
  · intro str t next handled
    cases handled
    rfl
  · exact keepsInput_talking around _ _ _ _ _
  · exact keepsInput_naming around _ _ _
  · exact keepsInput_cutting _ _ (keepsInput_describing around)
  · exact keepsInput_naming around _ _ _
  · exact keepsInput_talking around _ _ _ _ _
  · exact keepsInput_loginout around

/-- Obeying a line reads nothing beyond it. -/
theorem input_obey (commandBuffer : List Char) (t next : Terminal)
    (obeyed : obey around commandBuffer t = some next) : next.input = t.input := by
  unfold obey at obeyed
  obtain ⟨command, _, handled⟩ := Option.bind_eq_some_iff.mp obeyed
  split at handled
  · cases handled
    rfl
  · rename_i handler known
    obtain ⟨str, _, made⟩ := Option.bind_eq_some_iff.mp handled
    exact keepsInput_known around command handler known str t next made

/-!
## One iteration
-/

/-- `mainmenu` reads one line. -/
theorem input_mainmenu (t : Terminal) :
    (t.mainmenu around).input = (t.input.getline 1024).2 := by
  unfold mainmenu
  simp only
  cases obeyed : obey around (cString (t.input.getline 1024).1)
      { t with input := (t.input.getline 1024).2 } with
  | none => rfl
  | some next => exact input_obey around _ _ next obeyed

/-- An empty line is no command. -/
theorem mainmenu_empty (t : Terminal) (empty : (t.input.getline 1024).1 = []) :
    t.mainmenu around = complain "输入了不合法的命令"
      { t with input := (t.input.getline 1024).2 } := by
  unfold mainmenu
  simp only [empty]
  rfl

/-- A login reads the id, the end of its line and the password. -/
theorem input_login (t : Terminal) : (t.login around).input =
    ((t.input.readInt 0).2.get.2.getline 20).2 := by
  unfold login
  simp only
  generalize request : Terminal.send around _ _ _ = sent
  cases sent with
  | none => rfl
  | some next =>
    have kept := (send_some around _ _ _ next request).2.1
    rw [Option.map_some, Option.getD_some]
    split <;> exact kept

/-- A login leaves no more input than there was. -/
theorem length_login (t : Terminal) :
    (t.login around).input.rest.length ≤ t.input.rest.length := by
  have named := length_readInt 0 t.input
  have ended := length_get (t.input.readInt 0).2
  have given := length_getline 20 (t.input.readInt 0).2.get.2
  rw [input_login]
  omega

/-- A registration reads the name and the password. -/
theorem input_register (t : Terminal) :
    (t.register around).input = ((t.input.getline 50).2.getline 50).2 :=
  input_sent around _ _ { t with input := ((t.input.getline 50).2.getline 50).2 }

/-- A registration leaves no more input than there was. -/
theorem length_register (t : Terminal) :
    (t.register around).input.rest.length ≤ t.input.rest.length := by
  have named := length_getline 50 t.input
  have given := length_getline 50 (t.input.getline 50).2
  rw [input_register]
  omega

/-- Whatever the choice is, what was read for it stays read. -/
theorem length_mainLoop (t : Terminal) :
    (t.mainLoop around).input.rest.length ≤ (t.input.readInt 0).2.rest.length := by
  have chosen := length_get (t.input.readInt 0).2
  unfold mainLoop
  simp only
  split
  · exact (length_login around _).trans chosen
  · split
    · exact (length_register around _).trans chosen
    · split <;> exact chosen

/-- Without a number the choice is 0, which is none. -/
theorem mainLoop_stuck (t : Terminal) (stuck : ¬ t.input.BeginsInt) : ∃ input,
    t.mainLoop around = complain "Invalid input!!" { t with input := input } ∧
      input.rest = t.input.rest ∧ ¬ input.Good := by
  obtain ⟨zero, same, bad⟩ := readInt_stuck t.input stuck
  have gone := get_refused _ bad
  refine ⟨(t.input.readInt 0).2.get.2, ?_, ?_, ?_⟩
  · unfold mainLoop
    simp only [zero]
    rfl
  · rw [gone]
    exact same
  · rw [gone]
    simp [refused, Good]

/-- An iteration makes progress exactly when its first read finds something to take. -/
theorem progress_iff (t : Terminal) : Progress t around ↔ Readable t := by
  unfold Progress Readable step
  by_cases ended : t.ended = true
  · rw [if_pos ended]
    exact iff_of_true (Or.inr ended) (Or.inl ended)
  rw [if_neg ended]
  by_cases running : t.isMainMenuRunning = true
  · rw [if_pos running, if_pos running]
    constructor
    · intro progress
      by_contra stuck
      rw [not_or] at stuck
      obtain ⟨empty, same, _⟩ := getline_stuck 1024 t.input stuck.2
      rw [mainmenu_empty around t empty] at progress
      rcases progress with shorter | finished
      · exact absurd same (fun same => absurd (congrArg List.length same) (ne_of_lt shorter))
      · exact ended finished
    · rintro (finished | ⟨good, unread⟩)
      · exact absurd finished ended
      · left
        rw [input_mainmenu]
        exact getline_shrinks 1024 t.input good unread (by decide)
  · rw [if_neg running, if_neg running]
    constructor
    · intro progress
      by_contra stuck
      rw [not_or] at stuck
      obtain ⟨input, complained, same, _⟩ := mainLoop_stuck around t stuck.2
      rw [complained] at progress
      rcases progress with shorter | finished
      · exact absurd (congrArg List.length same) (ne_of_lt shorter)
      · exact ended finished
    · rintro (finished | begins)
      · exact absurd finished ended
      · left
        exact lt_of_le_of_lt (length_mainLoop around t) (readInt_shrinks 0 t.input begins)

/-- What an iteration without progress leaves is read by no other. -/
theorem stuck_step (t : Terminal) (stuck : ¬ Readable t) :
    (t.step around).input.rest = t.input.rest ∧ ¬ Readable (t.step around) := by
  unfold Readable at stuck ⊢
  rw [not_or] at stuck
  obtain ⟨going, unreadable⟩ := stuck
  rw [step, if_neg going]
  by_cases running : t.isMainMenuRunning = true
  · rw [if_pos running] at unreadable
    obtain ⟨empty, same, bad⟩ := getline_stuck 1024 t.input unreadable
    rw [if_pos running, mainmenu_empty around t empty]
    refine ⟨same, ?_⟩
    rintro (finished | readable)
    · exact going finished
    · change (if t.isMainMenuRunning = true then _ else _) at readable
      rw [if_pos running] at readable
      exact bad readable.1
  · rw [if_neg running] at unreadable
    obtain ⟨input, complained, same, bad⟩ := mainLoop_stuck around t unreadable
    rw [if_neg running, complained]
    refine ⟨same, ?_⟩
    rintro (finished | readable)
    · exact going finished
    · change (if t.isMainMenuRunning = true then _ else _) at readable
      rw [if_neg running] at readable
      exact bad readable.1

end Handlers

/-!
## Whole runs
-/

/-- A loop that once makes no progress spins for ever. -/
theorem stuck_run (t : Terminal) (arounds : List Surroundings) (stuck : ¬ Readable t) :
    (Runs.run step t arounds).input.rest = t.input.rest ∧
      ¬ Readable (Runs.run step t arounds) := by
  refine Runs.run_holds step
    (fun left => left.input.rest = t.input.rest ∧ ¬ Readable left) t arounds ?_ ⟨rfl, stuck⟩
  intro left around _ held
  obtain ⟨same, still⟩ := stuck_step around left held.2
  exact ⟨same.trans held.1, still⟩

/-- A client that has ended stays ended. -/
theorem ended_run (t : Terminal) (arounds : List Surroundings) (ended : t.ended = true) :
    (Runs.run step t arounds).ended = true := by
  refine Runs.run_holds step (fun left => left.ended = true) t arounds ?_ ended
  intro left around _ finished
  rw [step, if_pos finished]
  exact finished

/-- Iterations that make progress end the program before the input is used up. -/
theorem ended_of_progress (t : Terminal) (arounds : List Surroundings)
    (progress : Runs.Guarded step Progress t arounds) :
    (Runs.run step t arounds).ended = true ∨ arounds.length ≤ t.input.rest.length := by
  induction arounds generalizing t with
  | nil => exact Or.inr (Nat.zero_le _)
  | cons around rest inductionHypothesis =>
    obtain ⟨first, later⟩ := progress
    rcases first with shorter | ended
    · rcases inductionHypothesis (t.step around) later with ended | bounded
      · exact Or.inl ended
      · right
        rw [List.length_cons]
        omega
    · exact Or.inl (ended_run (t.step around) rest ended)

/-- For every finite input and every run of the menus on it, each iteration consumes a
character or ends the program exactly when the first read of each finds something it can
take, and the program then ends within as many iterations as the input has characters. -/
theorem menus_progress_iff (input : List Char) (arounds : List Surroundings) :
    (Runs.Guarded step Progress (start input) arounds ↔
      Runs.Guarded step (fun t _ => Readable t) (start input) arounds) ∧
    (Runs.Guarded step (fun t _ => Readable t) (start input) arounds →
      (Runs.run step (start input) arounds).ended = true ∨ arounds.length ≤ input.length) := by
  have same := Runs.guarded_iff step (fun _ => True) Progress (fun t _ => Readable t)
    (fun t around _ => progress_iff around t) (fun _ _ _ _ => trivial) (start input) arounds
    trivial
  refine ⟨same, fun readable => ?_⟩
  exact ended_of_progress (start input) arounds (same.mpr readable)

/-- A choice that is no number. -/
def wordy : List Char := ['x', '\n']

/-- A letter where a number is expected makes the start menu spin. -/
theorem menus_spin : ¬ ∀ input arounds, Runs.Guarded step Progress (start input) arounds := by
  intro progress
  have first := (progress wordy [⟨true, true, {}, "2024-01-01 00:00:00"⟩]).1
  rw [progress_iff] at first
  rcases first with ended | ⟨_, c, begins, readable⟩
  · cases ended
  · cases begins
    exact absurd readable (by decide)

end ClusterChat.MenuProgress
