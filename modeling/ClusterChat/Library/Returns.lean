import Mathlib.Data.List.Forall2

/-!
# Computations that return

Of a computation that may throw it is often enough to know whether it returns, and
not what. A sequence returns when its first part does and the rest does on that
value, and a list is read when each of its items is.

Nothing is said here about which exception ends a computation that does not return.
-/

universe u v

namespace Except

variable {ε : Type u} {α β : Type v}

/-- The computation returns. -/
def Returns (result : Except ε α) : Prop := ∃ value, result = .ok value

/-- A value returns. -/
theorem returns_pure (value : α) : Returns (pure value : Except ε α) := ⟨value, rfl⟩

/-- An exception does not. -/
theorem not_returns_error (exception : ε) : ¬ Returns (.error exception : Except ε α) := by
  rintro ⟨value, impossible⟩
  cases impossible

/-- A sequence returns a value when its first part returns one from which the rest
leads to that value. -/
theorem bind_eq_ok (first : Except ε α) (following : α → Except ε β) (result : β) :
    first >>= following = .ok result ↔
      ∃ value, first = .ok value ∧ following value = .ok result := by
  cases first with
  | ok value =>
    constructor
    · exact fun ended => ⟨value, rfl, ended⟩
    · rintro ⟨other, same, ended⟩
      cases same
      exact ended
  | error exception =>
    constructor
    · intro impossible
      cases impossible
    · rintro ⟨value, impossible, _⟩
      cases impossible

/-- A sequence returns if and only if both its parts do. -/
theorem returns_bind (first : Except ε α) (following : α → Except ε β) :
    Returns (first >>= following) ↔ ∃ value, first = .ok value ∧ Returns (following value) := by
  unfold Returns
  constructor
  · rintro ⟨result, ended⟩
    obtain ⟨value, started, later⟩ := (bind_eq_ok first following result).mp ended
    exact ⟨value, started, result, later⟩
  · rintro ⟨value, started, result, later⟩
    exact ⟨result, (bind_eq_ok first following result).mpr ⟨value, started, later⟩⟩

/-- Another exception in place of the one thrown does not make it return. -/
theorem returns_mapError {δ : Type u} (change : ε → δ) (result : Except ε α) :
    Returns (result.mapError change) ↔ Returns result := by
  cases result with
  | ok value => exact iff_of_true ⟨value, rfl⟩ ⟨value, rfl⟩
  | error exception =>
    exact iff_of_false (not_returns_error (change exception)) (not_returns_error exception)

/-- A list is read when each of its items is. -/
theorem returns_mapM (read : α → Except ε β) (items : List α) :
    Returns (items.mapM read) ↔ ∀ item ∈ items, Returns (read item) := by
  induction items with
  | nil => exact iff_of_true (returns_pure []) (by simp)
  | cons item rest inductionHypothesis =>
    rw [List.mapM_cons, returns_bind, List.forall_mem_cons, ← inductionHypothesis]
    constructor
    · rintro ⟨value, first, later⟩
      obtain ⟨values, read, _⟩ := (returns_bind _ _).mp later
      exact ⟨⟨value, first⟩, ⟨values, read⟩⟩
    · rintro ⟨⟨value, first⟩, ⟨values, later⟩⟩
      exact ⟨value, first, (returns_bind _ _).mpr ⟨values, later, returns_pure _⟩⟩

/-- What is read from a list is read from its items one by one, in order. -/
theorem forall₂_of_mapM (read : α → Except ε β) (items : List α) (values : List β)
    (ended : items.mapM read = .ok values) :
    List.Forall₂ (fun item value => read item = .ok value) items values := by
  induction items generalizing values with
  | nil =>
    rw [List.mapM_nil] at ended
    cases ended
    exact List.Forall₂.nil
  | cons item rest inductionHypothesis =>
    rw [List.mapM_cons] at ended
    obtain ⟨value, first, later⟩ := (bind_eq_ok _ _ _).mp ended
    obtain ⟨more, read, finished⟩ := (bind_eq_ok _ _ _).mp later
    cases finished
    exact List.Forall₂.cons first (inductionHypothesis more read)

/-- Items written one by one are read back when each is, whatever list they stand for. -/
theorem mapM_map_ok {γ : Type v} {relation : β → γ → Prop} (write : β → α)
    (read : α → Except ε β) (items : List β) (origins : List γ)
    (each : List.Forall₂ relation items origins)
    (back : ∀ item, ∀ origin ∈ origins, relation item origin → read (write item) = .ok item) :
    (items.map write).mapM read = .ok items := by
  induction each with
  | nil => rfl
  | @cons item origin rest others first _ inductionHypothesis =>
    rw [List.map_cons, List.mapM_cons, back item origin List.mem_cons_self first]
    change List.mapM read (rest.map write) >>= _ = _
    rw [inductionHypothesis fun item origin member =>
      back item origin (List.mem_cons_of_mem _ member)]
    rfl

end Except
