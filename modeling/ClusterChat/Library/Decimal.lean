import Mathlib.Algebra.Group.Nat.Defs
import Mathlib.Algebra.Ring.Int.Defs
import Mathlib.Data.Int.Order.Basic
import Mathlib.Data.List.Basic

/-!
# Decimal numerals at the front of a text

`read` takes an optional sign and the longest run of digits off a text, and keeps what
follows. `value` is what the numeral stands for, and a reader of fixed width saturates
it. Readers of this kind skip whitespace first.

`read_toString` is the law a user needs: the numeral of a number, followed by anything
that does not go on with a digit, is read back as that number, and what follows is left.
-/

namespace Decimal

/-- A numeral and the text behind it. -/
structure Numeral where
  negative : Bool
  digits : List Char
  rest : List Char

/-- The blank and the control characters from the tab to the carriage return. -/
def isSpace (c : Char) : Bool := c.toNat = 32 ∨ (9 ≤ c.toNat ∧ c.toNat ≤ 13)

/-- The digits of a numeral whose sign is known. -/
def readDigits (negative : Bool) (text : List Char) : Numeral :=
  ⟨negative, text.takeWhile Char.isDigit, text.dropWhile Char.isDigit⟩

/-- The numeral at the beginning of a text, with its sign. -/
def read : List Char → Numeral
  | '-' :: text => readDigits true text
  | '+' :: text => readDigits false text
  | text => readDigits false text

namespace Numeral

/-- The number its digits make. -/
def magnitude (numeral : Numeral) : Nat := Nat.ofDigitChars 10 numeral.digits 0

/-- The number itself. -/
def value (numeral : Numeral) : Int :=
  if numeral.negative then -(numeral.magnitude : Int) else numeral.magnitude

end Numeral

/-- The nearest value a signed integer of the width has. -/
def saturate (width : Nat) (value : Int) : Int :=
  max (-2 ^ (width - 1)) (min (2 ^ (width - 1) - 1) value)

/-- `strtol` with base 10, where `long` has 64 bits. -/
def strtol (text : List Char) : Int := saturate 64 (read (text.dropWhile isSpace)).value

/-- What follows a numeral does not go on with a digit. -/
def Ends (rest : List Char) : Prop := ∀ c, rest.head? = some c → c.isDigit = false

/-- A text that ends has no more digits. -/
theorem ends_nil : Ends [] := fun _ member => by cases member

/-- All digits are read, and nothing behind them. -/
theorem readDigits_append (negative : Bool) (digits rest : List Char)
    (all : ∀ c ∈ digits, c.isDigit = true) (ends : Ends rest) :
    readDigits negative (digits ++ rest) = ⟨negative, digits, rest⟩ := by
  have none : rest.takeWhile Char.isDigit = [] ∧ rest.dropWhile Char.isDigit = rest := by
    cases rest with
    | nil => exact ⟨rfl, rfl⟩
    | cons c rest =>
      have other := ends c rfl
      simp [other]
  rw [readDigits, List.takeWhile_append_of_pos all, List.dropWhile_append_of_pos all, none.1,
    none.2, List.append_nil]

/-- A text that begins with neither sign. -/
theorem read_unsigned (c : Char) (text : List Char) (unsigned : c ≠ '-' ∧ c ≠ '+') :
    read (c :: text) = readDigits false (c :: text) := by
  rw [read]
  · rintro _ isMinus
    exact unsigned.1 (List.cons.inj isMinus).1
  · rintro _ isPlus
    exact unsigned.2 (List.cons.inj isPlus).1

/-- A digit is no sign. -/
theorem digit_unsigned (c : Char) (digit : c.isDigit = true) : c ≠ '-' ∧ c ≠ '+' := by
  constructor
  · rintro rfl
    cases digit
  · rintro rfl
    cases digit

/-- A text that begins with a digit has no sign. -/
theorem read_digits (digits rest : List Char) (some : digits ≠ [])
    (all : ∀ c ∈ digits, c.isDigit = true) (ends : Ends rest) :
    read (digits ++ rest) = ⟨false, digits, rest⟩ := by
  rw [← readDigits_append false digits rest all ends]
  cases digits with
  | nil => exact absurd rfl some
  | cons c digits =>
    exact read_unsigned c (digits ++ rest) (digit_unsigned c (all c List.mem_cons_self))

/-- The digits of a number are digits. -/
theorem digits_toDigits (n : Nat) : ∀ c ∈ Nat.toDigits 10 n, c.isDigit = true :=
  fun _ member => Nat.isDigit_of_mem_toDigits (by decide) (by decide) member

/-- The characters a numeral may begin with. -/
def Begins (c : Char) : Prop := c = '-' ∨ c = '+' ∨ c.isDigit = true

instance (c : Char) : Decidable (Begins c) :=
  inferInstanceAs (Decidable (c = '-' ∨ c = '+' ∨ c.isDigit = true))

/-- What is left of a text is no longer than the text. -/
theorem length_readDigits (negative : Bool) (text : List Char) :
    (readDigits negative text).rest.length ≤ text.length :=
  (List.dropWhile_suffix _).length_le

/-- The same holds when a sign is read first. -/
theorem length_read (text : List Char) : (read text).rest.length ≤ text.length := by
  unfold read
  split
  · exact Nat.le_succ_of_le (length_readDigits true _)
  · exact Nat.le_succ_of_le (length_readDigits false _)
  · exact length_readDigits false _

/-- A text that begins like a numeral is read in part, and another one not at all. -/
theorem length_read_begins (c : Char) (text : List Char) (begins : Begins c) :
    (read (c :: text)).rest.length < (c :: text).length := by
  rcases begins with rfl | rfl | digit
  · exact Nat.lt_succ_of_le (length_readDigits true text)
  · exact Nat.lt_succ_of_le (length_readDigits false text)
  · rw [read_unsigned c text (digit_unsigned c digit)]
    have taken : (readDigits false (c :: text)).rest = text.dropWhile Char.isDigit := by
      simp [readDigits, digit]
    rw [taken]
    exact Nat.lt_succ_of_le (length_readDigits false text)

/-- A text that begins with something else has no digits. -/
theorem read_other (c : Char) (text : List Char) (other : ¬ Begins c) :
    read (c :: text) = ⟨false, [], c :: text⟩ := by
  simp only [Begins, not_or, Bool.not_eq_true] at other
  rw [read_unsigned c text ⟨other.1, other.2.1⟩]
  simp [readDigits, other.2.2]

/-- The numeral of a number. -/
theorem toList_toString (n : Int) : (toString n).toList =
    if n < 0 then '-' :: Nat.toDigits 10 n.natAbs else Nat.toDigits 10 n.natAbs := by
  rw [Int.toString_eq_repr, Int.repr_eq_if]
  by_cases negative : n < 0
  · have magnitude : (-n).toNat = n.natAbs := by omega
    rw [if_pos negative, if_neg (not_le.mpr negative), String.toList_append, Nat.toList_repr,
      magnitude]
    rfl
  · have magnitude : n.toNat = n.natAbs := by omega
    rw [if_neg negative, if_pos (not_lt.mp negative), Nat.toList_repr, magnitude]

/-- A number is written with a sign and digits. -/
theorem mem_toString (n : Int) (c : Char) (member : c ∈ (toString n).toList) :
    c = '-' ∨ c.isDigit = true := by
  rw [toList_toString] at member
  split at member
  · rcases List.mem_cons.mp member with minus | digit
    · exact Or.inl minus
    · exact Or.inr (digits_toDigits _ c digit)
  · exact Or.inr (digits_toDigits _ c member)

/-- The numeral of a number that is written is the number's. -/
theorem read_toString (n : Int) (rest : List Char) (ends : Ends rest) :
    read ((toString n).toList ++ rest) =
      ⟨decide (n < 0), Nat.toDigits 10 n.natAbs, rest⟩ := by
  rw [toList_toString]
  by_cases negative : n < 0
  · rw [if_pos negative, List.cons_append, read, readDigits_append true _ rest
      (digits_toDigits _) ends, decide_eq_true negative]
  · rw [if_neg negative, read_digits _ rest Nat.toDigits_ne_nil (digits_toDigits _) ends,
      decide_eq_false negative]

/-- A number that is written is read back. -/
theorem value_toString (n : Int) (rest : List Char) (ends : Ends rest) :
    (read ((toString n).toList ++ rest)).value = n := by
  rw [read_toString n rest ends, Numeral.value, Numeral.magnitude]
  simp only [Nat.ofDigitChars_ten_toDigits, decide_eq_true_eq]
  split <;> omega

/-- Digits make a number of so many digits. -/
theorem ofDigitChars_lt (digits : List Char) (start : Nat)
    (all : ∀ c ∈ digits, c.isDigit = true) :
    Nat.ofDigitChars 10 digits start < (start + 1) * 10 ^ digits.length := by
  induction digits generalizing start with
  | nil => simp [Nat.ofDigitChars]
  | cons c digits inductionHypothesis =>
    have range : 48 ≤ c.toNat ∧ c.toNat ≤ 57 :=
      Char.isDigit_iff_toNat.mp (all c List.mem_cons_self)
    have zero : '0'.toNat = 48 := rfl
    have later := inductionHypothesis (10 * start + (c.toNat - '0'.toNat)) fun other member =>
      all other (List.mem_cons_of_mem _ member)
    have bound : 10 * start + (c.toNat - '0'.toNat) + 1 ≤ (start + 1) * 10 := by omega
    have step : Nat.ofDigitChars 10 (c :: digits) start =
        Nat.ofDigitChars 10 digits (10 * start + (c.toNat - '0'.toNat)) := rfl
    rw [step, List.length_cons, Nat.pow_succ, Nat.mul_comm (10 ^ digits.length) 10,
      ← Nat.mul_assoc]
    exact Nat.lt_of_lt_of_le later (Nat.mul_le_mul_right _ bound)

/-- The digits found in front of a text are no fewer than its number needs. -/
theorem length_magnitude_le (negative : Bool) (text : List Char) :
    (Nat.toDigits 10 (readDigits negative text).magnitude).length ≤ max 1 text.length ∧
      (text = [] → (readDigits negative text).magnitude = 0) := by
  have all : ∀ c ∈ text.takeWhile Char.isDigit, c.isDigit = true :=
    fun c member => (List.all_eq_true.mp (List.all_takeWhile)) c member
  have bound := ofDigitChars_lt _ 0 all
  have taken : (text.takeWhile Char.isDigit).length ≤ text.length :=
    (List.takeWhile_prefix _).length_le
  constructor
  · rw [Nat.length_toDigits_le_iff (by decide) (by omega)]
    rw [Nat.zero_add, Nat.one_mul] at bound
    exact Nat.lt_of_lt_of_le bound (Nat.pow_le_pow_right (by decide) (by omega))
  · rintro rfl
    rfl

/-- No text is shorter than the numeral of the number it begins with. -/
theorem length_toString_le (text : List Char) (inhabited : text ≠ []) :
    (toString (read text).value).toList.length ≤ text.length := by
  have positive : 1 ≤ text.length := List.length_pos_iff.mpr inhabited
  have unsigned : ∀ left : List Char, left.length ≤ text.length →
      (toString (readDigits false left).value).toList.length ≤ text.length := by
    intro left shorter
    have digits := (length_magnitude_le false left).1
    have value : (readDigits false left).value = ((readDigits false left).magnitude : Int) := rfl
    rw [value, toList_toString, if_neg (by omega), Int.natAbs_natCast]
    omega
  unfold read
  split
  · rename_i left
    obtain ⟨digits, none⟩ := length_magnitude_le true left
    have value : (readDigits true left).value = -((readDigits true left).magnitude : Int) := rfl
    rw [value, toList_toString, Int.natAbs_neg, Int.natAbs_natCast]
    rw [List.length_cons] at positive ⊢
    split
    · rename_i negative
      have some : left ≠ [] := fun empty => by
        rw [none empty] at negative
        omega
      have longer := List.length_pos_iff.mpr some
      rw [List.length_cons]
      omega
    · omega
  · exact unsigned _ (Nat.le_succ _)
  · exact unsigned _ (Nat.le_refl _)

/-- A digit is no whitespace. -/
theorem isSpace_digit (c : Char) (digit : c.isDigit = true) : isSpace c = false := by
  have range : 48 ≤ c.toNat ∧ c.toNat ≤ 57 := Char.isDigit_iff_toNat.mp digit
  simp only [isSpace, decide_eq_false_iff_not]
  omega

/-- A numeral does not begin with whitespace. -/
theorem dropWhile_toString (n : Int) :
    (toString n).toList.dropWhile isSpace = (toString n).toList := by
  rw [toList_toString]
  split
  · rfl
  · cases digits : Nat.toDigits 10 n.natAbs with
    | nil => rfl
    | cons c rest =>
      have member : c ∈ Nat.toDigits 10 n.natAbs := by simp [digits]
      have first := isSpace_digit c (digits_toDigits _ c member)
      simp [first]

/-- A number that fits is read back by `strtol`. -/
theorem strtol_toString (n : Int) (fits : saturate 64 n = n) :
    strtol (toString n).toList = n := by
  have whole := value_toString n [] ends_nil
  rw [List.append_nil] at whole
  rw [strtol, dropWhile_toString, whole, fits]

end Decimal
