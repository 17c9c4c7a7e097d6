import Mathlib.Data.List.Basic
import Mathlib.Order.Lattice

/-!
# Ordered sets

A finite set kept as its ascending sequence of elements. The order is part of
the type, so a traversal visits every element once, in ascending order.

Insertion of a present element and removal of an absent one change nothing. The
membership laws below are all a user needs; the sequence itself matters only to
a traversal.
-/

universe u

/-- A finite set listed in strictly ascending order. -/
structure OrderedSet (α : Type u) [LinearOrder α] where
  elements : List α
  ascending : elements.Pairwise (· < ·)

namespace OrderedSet

variable {α : Type u} [LinearOrder α]

/-- Two sets are equal when their elements are. -/
instance : DecidableEq (OrderedSet α) := fun first second =>
  decidable_of_iff (first.elements = second.elements) (by
    obtain ⟨_, _⟩ := first
    obtain ⟨_, _⟩ := second
    simp)

instance : Membership α (OrderedSet α) := ⟨fun set element => element ∈ set.elements⟩

instance (element : α) (set : OrderedSet α) : Decidable (element ∈ set) :=
  inferInstanceAs (Decidable (element ∈ set.elements))

/-- The set without elements. -/
def empty : OrderedSet α := ⟨[], List.Pairwise.nil⟩

instance : EmptyCollection (OrderedSet α) := ⟨empty⟩

instance : Inhabited (OrderedSet α) := ⟨empty⟩

/-- The elements of a set are listed in it. -/
theorem mem_elements (element : α) (set : OrderedSet α) :
    element ∈ set.elements ↔ element ∈ set := Iff.rfl

/-- The empty set has no elements. -/
@[simp] theorem notMem_empty (element : α) : element ∉ (∅ : OrderedSet α) := List.not_mem_nil

/-- No element is listed twice. -/
theorem nodup (set : OrderedSet α) : set.elements.Nodup :=
  set.ascending.imp (fun below => ne_of_lt below)

/-- Put an element in its place unless it is there already. -/
def place (element : α) : List α → List α
  | [] => [element]
  | first :: rest =>
      if element < first then element :: first :: rest
      else if first < element then first :: place element rest
      else first :: rest

/-- Placing an element in order adds it and nothing else. -/
theorem mem_place (element other : α) (listed : List α) :
    other ∈ place element listed ↔ other = element ∨ other ∈ listed := by
  induction listed with
  | nil => simp [place]
  | cons first rest inductionHypothesis =>
    unfold place
    split
    · simp
    · rename_i notBelow
      split
      · simp only [List.mem_cons, inductionHypothesis]
        exact or_left_comm
      · rename_i notAbove
        have same : element = first := le_antisymm (not_lt.mp notAbove) (not_lt.mp notBelow)
        simp [same]

/-- Placing an element in order keeps the order. -/
theorem place_ascending (element : α) (listed : List α) (ascending : listed.Pairwise (· < ·)) :
    (place element listed).Pairwise (· < ·) := by
  induction listed with
  | nil => simp [place]
  | cons first rest inductionHypothesis =>
    obtain ⟨below, ascendingRest⟩ := List.pairwise_cons.mp ascending
    unfold place
    split
    · rename_i before
      refine List.pairwise_cons.mpr ⟨?_, ascending⟩
      intro other member
      rcases List.mem_cons.mp member with same | later
      · exact same ▸ before
      · exact lt_trans before (below other later)
    · split
      · rename_i after
        refine List.pairwise_cons.mpr ⟨?_, inductionHypothesis ascendingRest⟩
        intro other member
        rcases (mem_place element other rest).mp member with same | later
        · exact same ▸ after
        · exact below other later
      · exact ascending

/-- The set with one more element, which changes nothing if it was there. -/
def insert (element : α) (set : OrderedSet α) : OrderedSet α :=
  ⟨place element set.elements, place_ascending element set.elements set.ascending⟩

/-- The set without one element, whether it was there or not. -/
def erase (element : α) (set : OrderedSet α) : OrderedSet α :=
  ⟨set.elements.filter (· ≠ element), set.ascending.filter _⟩

/-- Inserting an element adds it and nothing else. -/
@[simp] theorem mem_insert (element other : α) (set : OrderedSet α) :
    other ∈ set.insert element ↔ other = element ∨ other ∈ set :=
  mem_place element other set.elements

/-- Erasing an element removes it and nothing else. -/
@[simp] theorem mem_erase (element other : α) (set : OrderedSet α) :
    other ∈ set.erase element ↔ other ≠ element ∧ other ∈ set := by
  rw [← mem_elements, erase, List.mem_filter, decide_eq_true_eq]
  exact and_comm

/-- Nothing is put before or among elements that already list it. -/
theorem place_of_mem (element : α) (listed : List α) (ascending : listed.Pairwise (· < ·))
    (member : element ∈ listed) : place element listed = listed := by
  induction listed with
  | nil => exact absurd member List.not_mem_nil
  | cons first rest inductionHypothesis =>
    obtain ⟨below, ascendingRest⟩ := List.pairwise_cons.mp ascending
    unfold place
    rcases List.mem_cons.mp member with rfl | later
    · rw [if_neg (lt_irrefl _), if_neg (lt_irrefl _)]
    · have above : first < element := below element later
      rw [if_neg (lt_asymm above), if_pos above, inductionHypothesis ascendingRest later]

/-- Inserting a present element changes nothing. -/
theorem insert_of_mem (element : α) (set : OrderedSet α) (member : element ∈ set) :
    set.insert element = set := by
  obtain ⟨elements, ascending⟩ := set
  have same : place element elements = elements := place_of_mem element elements ascending member
  simp only [insert, same]

/-- Whether a set has no elements. -/
def isEmpty (set : OrderedSet α) : Bool := set.elements.isEmpty

/-- A set is empty when nothing is in it. -/
theorem isEmpty_iff (set : OrderedSet α) : set.isEmpty = true ↔ ∀ element, element ∉ set := by
  rw [isEmpty, List.isEmpty_iff]
  exact List.eq_nil_iff_forall_not_mem

end OrderedSet
