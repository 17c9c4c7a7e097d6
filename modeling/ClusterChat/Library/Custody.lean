import Mathlib.Data.List.Nodup
import Mathlib.Logic.Function.Basic

/-!
# Tokens in a queue and in the hands of holders

A fixed supply of tokens circulates between a queue and any number of holders. A
holder takes the front of the queue and gives a token of its own back to the end;
the queue can also be discarded as a whole.

The supply is exclusive when every token is in at most one place: once in the queue,
or once with one holder. Every movement keeps the supply exclusive. Taking and giving
back also keep every token present, which discarding does not.

A holder that gives back what it does not have changes nothing. There is no claim
about who gets a token next, or that a holder ever gives one back.
-/

universe u v

/-- The tokens that wait in the queue, the front first, and those each holder has. -/
structure Custody (Token : Type u) (Holder : Type v) where
  queue : List Token
  held : Holder → List Token

namespace Custody

variable {Token : Type u} {Holder : Type v}

/-- All tokens wait in the queue. -/
def stocked (tokens : List Token) : Custody Token Holder := ⟨tokens, fun _ => []⟩

/-- Every token is in at most one place. -/
structure Exclusive (custody : Custody Token Holder) : Prop where
  queue : custody.queue.Nodup
  held : ∀ holder, (custody.held holder).Nodup
  apart : ∀ holder token, token ∈ custody.held holder → token ∉ custody.queue
  sole : ∀ holder other token, token ∈ custody.held holder → token ∈ custody.held other →
    holder = other

/-- The token is in some place. -/
def Present (custody : Custody Token Holder) (token : Token) : Prop :=
  token ∈ custody.queue ∨ ∃ holder, token ∈ custody.held holder

/-- Distinct tokens are in one place each when they are stocked. -/
theorem exclusive_stocked (tokens : List Token) (distinct : tokens.Nodup) :
    (stocked tokens : Custody Token Holder).Exclusive where
  queue := distinct
  held := fun _ => List.nodup_nil
  apart := fun _ _ none => absurd none List.not_mem_nil
  sole := fun _ _ _ none => absurd none List.not_mem_nil

/-- The stocked tokens are there, and no other. -/
theorem present_stocked (tokens : List Token) (token : Token) :
    (stocked tokens : Custody Token Holder).Present token ↔ token ∈ tokens := by
  constructor
  · rintro (queued | ⟨holder, none⟩)
    · exact queued
    · exact absurd none List.not_mem_nil
  · exact Or.inl

/-- The queue is dropped. -/
def discard (custody : Custody Token Holder) : Custody Token Holder :=
  { custody with queue := [] }

/-- Discarding the queue puts no token in two places. -/
theorem Exclusive.discard {custody : Custody Token Holder} (exclusive : custody.Exclusive) :
    custody.discard.Exclusive where
  queue := List.nodup_nil
  held := exclusive.held
  apart := fun _ _ _ => List.not_mem_nil
  sole := exclusive.sole

/-- Only a token that was present is present after the queue is dropped. -/
theorem present_discard (custody : Custody Token Holder) (token : Token)
    (present : custody.discard.Present token) : custody.Present token := by
  rcases present with none | held
  · exact absurd none List.not_mem_nil
  · exact Or.inr held

section Movement

variable [DecidableEq Holder] (holder : Holder)

/-- The holder takes the front of the queue, if there is one. -/
def take (custody : Custody Token Holder) : Custody Token Holder :=
  match custody.queue with
  | [] => custody
  | token :: rest =>
      ⟨rest, Function.update custody.held holder (token :: custody.held holder)⟩

/-- Taking the front of the queue puts no token in two places. -/
theorem Exclusive.take {custody : Custody Token Holder} (exclusive : custody.Exclusive) :
    (custody.take holder).Exclusive := by
  obtain ⟨queue, held⟩ := custody
  cases queue with
  | nil => exact exclusive
  | cons token rest =>
    obtain ⟨absent, distinct⟩ := List.nodup_cons.mp exclusive.queue
    have free : ∀ other, token ∉ held other := fun other taken =>
      exclusive.apart other token taken List.mem_cons_self
    have elsewhere : ∀ other member, member ∈ Function.update held holder
        (token :: held holder) other → (other = holder ∧ member = token) ∨
          member ∈ held other := by
      intro other member taken
      by_cases own : other = holder
      · subst own
        rw [Function.update_self] at taken
        exact (List.mem_cons.mp taken).imp_left (fun same => ⟨rfl, same⟩)
      · rw [Function.update_of_ne own] at taken
        exact Or.inr taken
    refine ⟨distinct, ?_, ?_, ?_⟩
    · intro other
      by_cases own : other = holder
      · subst own
        simpa [Custody.take] using ⟨free other, exclusive.held other⟩
      · simpa [Custody.take, own] using exclusive.held other
    · intro other member taken
      rcases elsewhere other member taken with ⟨_, rfl⟩ | old
      · exact absent
      · exact fun queued => exclusive.apart other member old (List.mem_cons_of_mem _ queued)
    · intro first second member one another
      rcases elsewhere first member one with ⟨rfl, rfl⟩ | old
      · rcases elsewhere second member another with ⟨rfl, _⟩ | oldToo
        · rfl
        · exact absurd oldToo (free second)
      · rcases elsewhere second member another with ⟨rfl, rfl⟩ | oldToo
        · exact absurd old (free first)
        · exact exclusive.sole first second member old oldToo

/-- Taking moves a token and loses none. -/
theorem present_take (custody : Custody Token Holder) (token : Token) :
    (custody.take holder).Present token ↔ custody.Present token := by
  obtain ⟨queue, held⟩ := custody
  cases queue with
  | nil => exact Iff.rfl
  | cons first rest =>
    constructor
    · rintro (queued | ⟨other, taken⟩)
      · exact Or.inl (List.mem_cons_of_mem _ queued)
      · by_cases own : other = holder
        · subst own
          simp only [Custody.take, Function.update_self, List.mem_cons] at taken
          rcases taken with rfl | old
          · exact Or.inl List.mem_cons_self
          · exact Or.inr ⟨other, old⟩
        · simp only [Custody.take, Function.update_of_ne own] at taken
          exact Or.inr ⟨other, taken⟩
    · rintro (queued | ⟨other, taken⟩)
      · rcases List.mem_cons.mp queued with rfl | later
        · exact Or.inr ⟨holder, by simp [Custody.take]⟩
        · exact Or.inl later
      · refine Or.inr ⟨other, ?_⟩
        by_cases own : other = holder
        · subst own
          simp [Custody.take, taken]
        · simpa [Custody.take, own] using taken

variable [DecidableEq Token]

/-- The holder gives the token back, if it has it. -/
def giveBack (token : Token) (custody : Custody Token Holder) : Custody Token Holder :=
  if token ∈ custody.held holder then
    ⟨custody.queue ++ [token],
      Function.update custody.held holder ((custody.held holder).erase token)⟩
  else custody

/-- Giving a token back puts no token in two places. -/
theorem Exclusive.giveBack {custody : Custody Token Holder} (token : Token)
    (exclusive : custody.Exclusive) : (custody.giveBack holder token).Exclusive := by
  by_cases owned : token ∈ custody.held holder
  · rw [Custody.giveBack, if_pos owned]
    have kept : ∀ other member, member ∈ Function.update custody.held holder
        ((custody.held holder).erase token) other → member ≠ token ∧
          member ∈ custody.held other := by
      intro other member left
      by_cases own : other = holder
      · subst own
        rw [Function.update_self] at left
        exact (exclusive.held other).mem_erase_iff.mp left
      · rw [Function.update_of_ne own] at left
        refine ⟨?_, left⟩
        rintro rfl
        exact own (exclusive.sole other holder member left owned)
    refine ⟨?_, ?_, ?_, ?_⟩
    · have absent := exclusive.apart holder token owned
      rw [List.nodup_append]
      refine ⟨exclusive.queue, List.nodup_singleton token, ?_⟩
      intro member queued last single same
      rw [List.mem_singleton.mp single] at same
      exact absent (same ▸ queued)
    · intro other
      by_cases own : other = holder
      · subst own
        simp only [Function.update_self]
        exact (exclusive.held other).erase token
      · simp only [Function.update_of_ne own]
        exact exclusive.held other
    · intro other member left queued
      obtain ⟨different, old⟩ := kept other member left
      rcases List.mem_append.mp queued with before | new
      · exact exclusive.apart other member old before
      · exact different (List.mem_singleton.mp new)
    · intro first second member one another
      exact exclusive.sole first second member (kept first member one).2
        (kept second member another).2
  · rw [Custody.giveBack, if_neg owned]
    exact exclusive

/-- Giving back moves a token and loses none. -/
theorem present_giveBack (custody : Custody Token Holder) (given token : Token) :
    (custody.giveBack holder given).Present token ↔ custody.Present token := by
  by_cases owned : given ∈ custody.held holder
  · rw [Custody.giveBack, if_pos owned]
    constructor
    · rintro (queued | ⟨other, left⟩)
      · rcases List.mem_append.mp queued with before | new
        · exact Or.inl before
        · rw [List.mem_singleton.mp new]
          exact Or.inr ⟨holder, owned⟩
      · refine Or.inr ⟨other, ?_⟩
        by_cases own : other = holder
        · subst own
          simp only [Function.update_self] at left
          exact List.mem_of_mem_erase left
        · simp only [Function.update_of_ne own] at left
          exact left
    · rintro (queued | ⟨other, old⟩)
      · exact Or.inl (List.mem_append_left _ queued)
      · by_cases same : token = given
        · exact Or.inl (List.mem_append_right _ (List.mem_singleton.mpr same))
        · refine Or.inr ⟨other, ?_⟩
          by_cases own : other = holder
          · subst own
            simp only [Function.update_self]
            exact (List.mem_erase_of_ne same).mpr old
          · simp only [Function.update_of_ne own]
            exact old
  · rw [Custody.giveBack, if_neg owned]

end Movement

end Custody
