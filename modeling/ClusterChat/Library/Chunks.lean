import Mathlib.Algebra.Order.BigOperators.Group.List
import Mathlib.Algebra.Order.Ring.Nat
import Mathlib.Data.List.TakeWhile

/-!
# Reading a cut stream one chunk at a time

Values are written one after another, each possibly followed by a stop symbol,
and the stream is cut into chunks anywhere. A reader that treats every chunk on
its own, up to its first stop, yields at most one value a chunk.

`yields_iff_aligned` says that such a reader recovers exactly the written values
when the cuts fall between them, and only then: each chunk, up to its first stop,
is empty or exactly the next text. Only the texts' lengths are used for the
converse. No text of a value may be shorter than the one written for it, so a
reader that recovers every value has no symbol to spare.
-/

universe u v

namespace Chunks

variable {α : Type u} {β : Type v} [DecidableEq α]

/-- The part of a chunk before its first stop. -/
def trim (stop : α) (chunk : List α) : List α := chunk.takeWhile (· ≠ stop)

/-- The symbols of a chunk that are not stops. -/
def solid (stop : α) (chunk : List α) : List α := chunk.filter (· ≠ stop)

/-- The values read from the chunks, one at most from each. -/
def readEach (read : List α → Option β) (chunks : List (List α)) : List β := chunks.filterMap read

/-- The stream of the values, each followed by a stop where its flag says so. -/
def stream (stop : α) (write : β → List α) (frames : List (β × Bool)) : List α :=
  frames.flatMap (fun frame => write frame.1 ++ if frame.2 then [stop] else [])

/-- Every chunk, up to its first stop, is empty or the next text. -/
def Aligned (stop : α) (write : β → List α) (values : List β) (chunks : List (List α)) : Prop :=
  (chunks.map (trim stop)).filter (· ≠ []) = values.map write

variable (stop : α) (write : β → List α)

omit [DecidableEq α] in
/-- Two sums of pointwise ordered terms agree only term by term. -/
theorem eq_of_sum_le {γ : Type*} (small large : γ → Nat) (items : List γ)
    (ordered : ∀ item ∈ items, small item ≤ large item)
    (total : (items.map large).sum ≤ (items.map small).sum) :
    ∀ item ∈ items, small item = large item := by
  induction items with
  | nil => simp
  | cons item rest inductionHypothesis =>
    have first := ordered item List.mem_cons_self
    have later : (rest.map small).sum ≤ (rest.map large).sum :=
      List.sum_le_sum (fun other member => ordered other (List.mem_cons_of_mem _ member))
    simp only [List.map_cons, List.sum_cons] at total
    intro other member
    rcases List.mem_cons.mp member with rfl | inRest
    · omega
    · exact inductionHypothesis
        (fun other inside => ordered other (List.mem_cons_of_mem _ inside)) (by omega) other inRest

/-- Stops added to a chunk add nothing before its first stop. -/
theorem trim_padded (chunk : List α) (count : Nat) :
    trim stop (chunk ++ List.replicate count stop) = trim stop chunk := by
  induction chunk with
  | nil => cases count <;> simp [trim, List.replicate_succ]
  | cons first rest inductionHypothesis =>
    unfold trim at inductionHypothesis ⊢
    rw [List.cons_append, List.takeWhile_cons, List.takeWhile_cons, inductionHypothesis]

/-- A trimmed chunk is no longer than what is solid in it. -/
theorem trim_length_le (chunk : List α) : (trim stop chunk).length ≤ (solid stop chunk).length := by
  induction chunk with
  | nil => exact Nat.le_refl 0
  | cons first rest inductionHypothesis =>
    by_cases stops : first = stop
    · simp [trim, stops]
    · simp only [trim, solid, List.takeWhile_cons, List.filter_cons, ne_eq, stops,
        not_false_eq_true, decide_true, if_true, List.length_cons] at inductionHypothesis ⊢
      exact Nat.succ_le_succ inductionHypothesis

/-- A chunk that loses nothing to its stops is its own solid part. -/
theorem trim_eq_solid (chunk : List α)
    (whole : (trim stop chunk).length = (solid stop chunk).length) :
    trim stop chunk = solid stop chunk := by
  have prefixed : List.Sublist (trim stop chunk) (solid stop chunk) := by
    have taken :=
      (List.takeWhile_sublist (l := chunk) (fun symbol => decide (symbol ≠ stop))).filter
        (fun symbol => decide (symbol ≠ stop))
    have same : (trim stop chunk).filter (fun symbol => decide (symbol ≠ stop)) =
        trim stop chunk := by
      rw [List.filter_eq_self]
      intro symbol member
      have passes := List.mem_takeWhile_imp (p := fun symbol => decide (symbol ≠ stop)) member
      exact passes
    rw [← same]
    exact taken
  exact prefixed.eq_of_length whole

/-- Without its stops the stream is the texts. -/
theorem solid_stream (frames : List (β × Bool))
    (free : ∀ frame ∈ frames, stop ∉ write frame.1) :
    solid stop (stream stop write frames) = (frames.map (fun frame => write frame.1)).flatten := by
  induction frames with
  | nil => rfl
  | cons frame rest inductionHypothesis =>
    have own : solid stop (write frame.1) = write frame.1 := by
      rw [solid, List.filter_eq_self]
      intro symbol member
      have differs : symbol ≠ stop := fun same => free frame List.mem_cons_self (same ▸ member)
      simpa using differs
    have tail :=
      inductionHypothesis (fun other member => free other (List.mem_cons_of_mem _ member))
    simp only [solid] at own tail
    simp only [stream, solid, List.flatMap_cons, List.filter_append, List.map_cons,
      List.flatten_cons, own] at tail ⊢
    rw [tail]
    cases frame.2 <;> simp

/-- What is assumed of a reader on the values in question: it stops at the first
stop, reads nothing from nothing, reads back what was written, and needs a text
at least as long as the written one. -/
structure Reads (read : List α → Option β) (values : List β) : Prop where
  stops : ∀ chunk, read chunk = read (trim stop chunk)
  nothing : read [] = none
  back : ∀ value ∈ values, read (write value) = some value
  free : ∀ value ∈ values, stop ∉ write value
  inhabited : ∀ value ∈ values, write value ≠ []
  shortest : ∀ value ∈ values, ∀ chunk, read chunk = some value →
    (write value).length ≤ (trim stop chunk).length

variable (read : List α → Option β)

/-- Aligned chunks are read as the values. -/
theorem yields_of_aligned (values : List β) (chunks : List (List α))
    (reads : Reads stop write read values) (aligned : Aligned stop write values chunks) :
    readEach read chunks = values := by
  induction chunks generalizing values with
  | nil =>
    have empty : values = [] := by simpa [Aligned] using aligned.symm
    rw [empty]
    rfl
  | cons chunk rest inductionHypothesis =>
    by_cases silent : trim stop chunk = []
    · have ended : read chunk = none := by rw [reads.stops, silent, reads.nothing]
      have later : Aligned stop write values rest := by
        simpa [Aligned, List.filter_cons, silent] using aligned
      have yields := inductionHypothesis values reads later
      simpa [readEach, List.filterMap_cons, ended] using yields
    · cases values with
      | nil => simp [Aligned, silent] at aligned
      | cons value others =>
        have both : trim stop chunk = write value ∧ Aligned stop write others rest := by
          simpa [Aligned, List.filter_cons, silent] using aligned
        have ended : read chunk = some value := by
          rw [reads.stops, both.1, reads.back value List.mem_cons_self]
        have fewer : Reads stop write read others :=
          ⟨reads.stops, reads.nothing,
            fun other member => reads.back other (List.mem_cons_of_mem _ member),
            fun other member => reads.free other (List.mem_cons_of_mem _ member),
            fun other member => reads.inhabited other (List.mem_cons_of_mem _ member),
            fun other member => reads.shortest other (List.mem_cons_of_mem _ member)⟩
        have yields := inductionHypothesis others fewer both.2
        rw [readEach, List.filterMap_cons, ended]
        exact congrArg (value :: ·) yields

/-- The length a chunk must have for what is read from it. -/
def need (chunk : List α) : Nat := ((read chunk).map (fun value => (write value).length)).getD 0

omit [DecidableEq α] in
/-- What the chunks need is what the values read from them are written in. -/
theorem sum_need (chunks : List (List α)) : (chunks.map (need write read)).sum =
    ((readEach read chunks).map (fun value => (write value).length)).sum := by
  induction chunks with
  | nil => rfl
  | cons chunk rest inductionHypothesis =>
    rw [List.map_cons, List.sum_cons, inductionHypothesis]
    cases ended : read chunk with
    | none => simp [readEach, need, ended]
    | some value => simp [readEach, need, ended]

/-- The solid parts of the chunks are those of the whole. -/
theorem sum_solid (chunks : List (List α)) :
    (chunks.map (fun chunk => (solid stop chunk).length)).sum =
      (solid stop chunks.flatten).length := by
  simp [solid, List.filter_flatten, List.length_flatten, Function.comp_def]

/-- A reader that recovers every value of a stream has used every symbol of it:
each chunk is, without loss, the text of the value read from it. -/
theorem chunk_spent (frames : List (β × Bool)) (chunks : List (List α))
    (reads : Reads stop write read (frames.map Prod.fst))
    (cut : chunks.flatten = stream stop write frames)
    (yields : readEach read chunks = frames.map Prod.fst) : ∀ chunk ∈ chunks,
      need write read chunk = (trim stop chunk).length ∧ trim stop chunk = solid stop chunk := by
  have bounded : ∀ chunk ∈ chunks, need write read chunk ≤ (trim stop chunk).length := by
    intro chunk member
    cases ended : read chunk with
    | none => simp [need, ended]
    | some value =>
      have recovered : value ∈ frames.map Prod.fst := by
        rw [← yields]
        exact List.mem_filterMap.mpr ⟨chunk, member, ended⟩
      simpa [need, ended] using reads.shortest value recovered chunk ended
  have free : ∀ frame ∈ frames, stop ∉ write frame.1 :=
    fun frame member => reads.free frame.1 (List.mem_map.mpr ⟨frame, member, rfl⟩)
  have total : (chunks.map (fun chunk => (solid stop chunk).length)).sum ≤
      (chunks.map (need write read)).sum := by
    rw [sum_solid, cut, solid_stream stop write frames free, sum_need, yields]
    simp [List.length_flatten, Function.comp_def]
  have spent := eq_of_sum_le (need write read) (fun chunk => (solid stop chunk).length) chunks
    (fun chunk member => (bounded chunk member).trans (trim_length_le stop chunk)) total
  intro chunk member
  have upper := trim_length_le stop chunk
  have lower := bounded chunk member
  have exactly := spent chunk member
  exact ⟨by omega, trim_eq_solid stop chunk (by omega)⟩

/-- The chunks that are not silent have the lengths of the texts read. -/
theorem lengths_of_spent (values : List β) (chunks : List (List α))
    (inhabited : ∀ value ∈ values, write value ≠ [])
    (spent : ∀ chunk ∈ chunks, need write read chunk = (trim stop chunk).length)
    (yields : readEach read chunks = values) :
    ((chunks.map (trim stop)).filter (· ≠ [])).map List.length =
      (values.map write).map List.length := by
  induction chunks generalizing values with
  | nil =>
    have empty : values = [] := by simpa [readEach] using yields.symm
    simp [empty]
  | cons chunk rest inductionHypothesis =>
    have here := spent chunk List.mem_cons_self
    have later := fun other member => spent other (List.mem_cons_of_mem _ member)
    cases ended : read chunk with
    | none =>
      have silent : trim stop chunk = [] := by
        rw [← List.length_eq_zero_iff, ← here]
        simp [need, ended]
      have tail : readEach read rest = values := by
        simpa [readEach, List.filterMap_cons, ended] using yields
      simpa [List.filter_cons, silent] using inductionHypothesis values inhabited later tail
    | some value =>
      have tail : value :: readEach read rest = values := by
        simpa [readEach, List.filterMap_cons, ended] using yields
      subst tail
      have length : (trim stop chunk).length = (write value).length := by
        rw [← here]
        simp [need, ended]
      have present : trim stop chunk ≠ [] := by
        intro silent
        have absent : write value = [] := by
          rw [← List.length_eq_zero_iff, ← length, silent]
          rfl
        exact inhabited value List.mem_cons_self absent
      have following := inductionHypothesis (readEach read rest)
        (fun other member => inhabited other (List.mem_cons_of_mem _ member)) later rfl
      simp only [List.map_cons, List.filter_cons, ne_eq, present, not_false_eq_true, decide_true,
        if_true, length]
      exact congrArg ((write value).length :: ·) following

/-- Reading each chunk on its own recovers exactly the values of the stream when
the chunks are aligned with their texts, and only then. -/
theorem yields_iff_aligned (frames : List (β × Bool)) (chunks : List (List α))
    (reads : Reads stop write read (frames.map Prod.fst))
    (cut : chunks.flatten = stream stop write frames) :
    readEach read chunks = frames.map Prod.fst ↔
      Aligned stop write (frames.map Prod.fst) chunks := by
  constructor
  · intro yields
    have spent := chunk_spent stop write read frames chunks reads cut yields
    rw [Aligned, List.eq_iff_flatten_eq]
    refine ⟨?_, lengths_of_spent stop write read _ chunks reads.inhabited
      (fun chunk member => (spent chunk member).1) yields⟩
    have solids : chunks.map (trim stop) = chunks.map (solid stop) :=
      List.map_congr_left (fun chunk member => (spent chunk member).2)
    have free : ∀ frame ∈ frames, stop ∉ write frame.1 :=
      fun frame member => reads.free frame.1 (List.mem_map.mpr ⟨frame, member, rfl⟩)
    have whole : (chunks.map (solid stop)).flatten = solid stop chunks.flatten := by
      simp only [solid, List.filter_flatten]
      rfl
    rw [List.flatten_filter_ne_nil, solids, whole, cut, List.map_map]
    exact solid_stream stop write frames free
  · exact yields_of_aligned stop write read _ chunks reads

end Chunks
