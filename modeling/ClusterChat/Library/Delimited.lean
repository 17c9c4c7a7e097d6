import ClusterChat.Library.Chunks

/-!
# Reading chunks that must each hold one text

The stream is the one of `Chunks`, with a separator after some of the texts. The
reader takes every chunk whole: it ignores separators around a text and rejects a
chunk that holds no text, part of one, or more than one.

`reads_iff_wrapped` says that such a reader recovers the written values exactly
when every chunk is the next text with nothing but separators around it. The texts
must end by themselves, as those of bracketed values do. Nothing is assumed of the
reader on chunks that begin with anything else than a written text.
-/

universe u v

namespace Chunks

variable {α : Type u} {β : Type v}

/-- The chunk is the text with nothing but separators around it. -/
def Wraps (separator : α) (text chunk : List α) : Prop :=
  ∃ before after,
    chunk = List.replicate before separator ++ text ++ List.replicate after separator

/-- Every chunk is the next text, with nothing but separators around it. -/
def Wrapped (separator : α) (write : β → List α) (values : List β) (chunks : List (List α)) :
    Prop :=
  List.Forall₂ (fun chunk value => Wraps separator (write value) chunk) chunks values

/-- What is assumed of a reader on the values in question. `opens` holds of the
symbols a text can begin with. -/
structure Delimits (separator : α) (opens : α → Prop) (write : β → List α)
    (read : List α → Option β) (values : List β) : Prop where
  silent : ∀ count, read (List.replicate count separator) = none
  back : ∀ value ∈ values, ∀ chunk, Wraps separator (write value) chunk → read chunk = some value
  begins : ∀ value ∈ values, ∃ symbol rest, write value = symbol :: rest ∧ opens symbol
  unfinished : ∀ value ∈ values, ∀ before part missing, write value = part ++ missing →
    missing ≠ [] → read (List.replicate before separator ++ part) = none
  overfull : ∀ value ∈ values, ∀ chunk, Wraps separator (write value) chunk →
    ∀ symbol rest, opens symbol → read (chunk ++ symbol :: rest) = none

section Delimited

variable {separator : α} {opens : α → Prop} {write : β → List α} {read : List α → Option β}

/-- What delimits values delimits the later ones. -/
theorem Delimits.tail {value : β} {values : List β}
    (delimits : Delimits separator opens write read (value :: values)) :
    Delimits separator opens write read values where
  silent := delimits.silent
  back := fun other member => delimits.back other (List.mem_cons_of_mem _ member)
  begins := fun other member => delimits.begins other (List.mem_cons_of_mem _ member)
  unfinished := fun other member => delimits.unfinished other (List.mem_cons_of_mem _ member)
  overfull := fun other member => delimits.overfull other (List.mem_cons_of_mem _ member)

/-- The separators after one text. -/
def gap (followed : Bool) : Nat := if followed then 1 else 0

/-- A stream begins with its first value and the gap behind it. -/
theorem stream_cons (value : β) (followed : Bool) (rest : List (β × Bool)) :
    stream separator write ((value, followed) :: rest) =
      write value ++ (List.replicate (gap followed) separator ++ stream separator write rest) := by
  rw [stream, List.flatMap_cons, List.append_assoc]
  cases followed <;> rfl

/-- Both parts of a run of separators are separators. -/
theorem separators_split (count : Nat) (first second : List α)
    (split : List.replicate count separator = first ++ second) :
    first = List.replicate first.length separator ∧
      second = List.replicate second.length separator := by
  obtain ⟨_, first', second'⟩ := List.append_eq_replicate_iff.mp split.symm
  exact ⟨first', second'⟩

/-- A stream that goes on begins with a symbol a text can begin with. -/
theorem stream_opens (frames : List (β × Bool))
    (delimits : Delimits separator opens write read (frames.map Prod.fst)) (symbol : α)
    (first rest : List α) (goes : stream separator write frames = (symbol :: first) ++ rest) :
    opens symbol := by
  cases frames with
  | nil => cases goes
  | cons frame others =>
    obtain ⟨value, followed⟩ := frame
    obtain ⟨head, tail, text, allowed⟩ := delimits.begins value List.mem_cons_self
    rw [stream_cons, text] at goes
    injection goes with same
    exact same ▸ allowed

/-- A chunk that is read holds the next text, and leaves separators at most before
the text after it. -/
theorem wraps_of_read (value : β) (followed : Bool) (others : List (β × Bool))
    (delimits : Delimits separator opens write read (value :: others.map Prod.fst))
    (ahead : Nat) (chunk rest : List α)
    (cut : chunk ++ rest = List.replicate ahead separator ++
      stream separator write ((value, followed) :: others))
    (known : read chunk ≠ none) : Wraps separator (write value) chunk ∧
      ∃ left, rest = List.replicate left separator ++ stream separator write others := by
  rw [stream_cons] at cut
  rcases List.append_eq_append_iff.mp cut with ⟨unread, separators, _⟩ | ⟨part, begun, following⟩
  · obtain ⟨only, _⟩ := separators_split ahead chunk unread separators
    rw [only] at known
    exact absurd (delimits.silent _) known
  · subst begun
    rcases List.append_eq_append_iff.mp following with
      ⟨beyond, whole, left⟩ | ⟨missing, text, left⟩
    · -- The text is complete, so what follows it in the chunk can only be separators.
      subst whole
      rcases List.append_eq_append_iff.mp left.symm with
        ⟨unread, separators, remaining⟩ | ⟨next, passed, remaining⟩
      · obtain ⟨after, later⟩ := separators_split _ beyond unread separators
        refine ⟨⟨ahead, beyond.length, ?_⟩, unread.length, ?_⟩
        · rw [List.append_assoc, ← after]
        · rw [← later]
          exact remaining
      · subst passed
        cases next with
        | nil =>
          refine ⟨⟨ahead, gap followed, by rw [List.append_nil, List.append_assoc]⟩, 0, ?_⟩
          exact remaining.symm
        | cons symbol others' =>
          have allowed := stream_opens others delimits.tail symbol others' rest remaining
          have refused := delimits.overfull value List.mem_cons_self _
            ⟨ahead, gap followed, rfl⟩ symbol others' allowed
          rw [List.append_assoc, List.append_assoc] at refused
          exact absurd refused known
    · cases missing with
      | nil =>
        rw [List.append_nil] at text
        refine ⟨⟨ahead, 0, by rw [text, List.replicate_zero, List.append_nil]⟩, gap followed, ?_⟩
        exact left
      | cons symbol others' =>
        have refused := delimits.unfinished value List.mem_cons_self ahead part _ text
          (List.cons_ne_nil symbol others')
        exact absurd refused known

/-- If every chunk is read then every chunk holds the next text. -/
theorem wrapped_of_read (frames : List (β × Bool)) (chunks : List (List α)) (ahead : Nat)
    (delimits : Delimits separator opens write read (frames.map Prod.fst))
    (cut : chunks.flatten = List.replicate ahead separator ++ stream separator write frames)
    (known : ∀ chunk ∈ chunks, read chunk ≠ none) :
    Wrapped separator write (frames.map Prod.fst) chunks := by
  induction chunks generalizing frames ahead with
  | nil =>
    cases frames with
    | nil => exact .nil
    | cons frame others =>
      obtain ⟨value, followed⟩ := frame
      obtain ⟨symbol, rest, text, _⟩ := delimits.begins value List.mem_cons_self
      rw [stream_cons, text] at cut
      simp at cut
  | cons chunk rest inductionHypothesis =>
    have first := known chunk List.mem_cons_self
    have later := fun other member => known other (List.mem_cons_of_mem _ member)
    rw [List.flatten_cons] at cut
    cases frames with
    | nil =>
      rw [stream, List.flatMap_nil, List.append_nil] at cut
      obtain ⟨only, _⟩ := separators_split ahead chunk rest.flatten cut.symm
      rw [only] at first
      exact absurd (delimits.silent _) first
    | cons frame others =>
      obtain ⟨value, followed⟩ := frame
      obtain ⟨wraps, left, remaining⟩ :=
        wraps_of_read value followed others delimits ahead chunk rest.flatten cut first
      exact .cons wraps (inductionHypothesis others left delimits.tail remaining later)

/-- Chunks that hold the texts are read as the values. -/
theorem reads_of_wrapped (values : List β) (chunks : List (List α))
    (delimits : Delimits separator opens write read values)
    (wrapped : Wrapped separator write values chunks) : chunks.map read = values.map some := by
  induction wrapped with
  | nil => rfl
  | cons wraps rest inductionHypothesis =>
    rw [List.map_cons, List.map_cons, delimits.back _ List.mem_cons_self _ wraps,
      inductionHypothesis delimits.tail]

/-- The chunks are read as the values of the stream exactly when each of them holds
the next text and no more. -/
theorem reads_iff_wrapped (frames : List (β × Bool)) (chunks : List (List α))
    (delimits : Delimits separator opens write read (frames.map Prod.fst))
    (cut : chunks.flatten = stream separator write frames) :
    chunks.map read = (frames.map Prod.fst).map some ↔
      Wrapped separator write (frames.map Prod.fst) chunks := by
  constructor
  · intro reads
    refine wrapped_of_read frames chunks 0 delimits cut fun chunk member unread => ?_
    have listed : read chunk ∈ (frames.map Prod.fst).map some :=
      reads ▸ List.mem_map_of_mem member
    rw [unread] at listed
    obtain ⟨value, _, impossible⟩ := List.mem_map.mp listed
    cases impossible
  · exact reads_of_wrapped _ chunks delimits

end Delimited

end Chunks
