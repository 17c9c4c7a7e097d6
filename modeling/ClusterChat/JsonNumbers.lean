import ClusterChat.JsonLexer

/-!
# The numbers of a JSON text

The automaton of `scan_number` accepts the numbers of the grammar it was made from: an
optional minus sign, a whole part without leading zeros, and at most one fraction and
one exponent. `accepts_number` is proved label by label, from the last to the first.

Behind a number the automaton stops at the first byte that none of its labels goes on
with. `scanNumber_split` and `scanNumber_number` say so of the scanner. Which of the three
types a number has depends on its text alone.

Nothing is said about the value of a floating-point number.
-/

namespace ClusterChat.Json.Lexer

/-- Any number of digits. -/
def Digits (text : List UInt8) : Prop := ∀ byte ∈ text, isDigit byte = true

/-- The whole part: a zero, or digits that do not begin with one. -/
def Whole (text : List UInt8) : Prop :=
  text = [0x30] ∨
    ∃ first digits, text = first :: digits ∧ isDigit first = true ∧ first ≠ 0x30 ∧ Digits digits

/-- A point and at least one digit, or nothing. -/
def Fraction (text : List UInt8) : Prop :=
  text = [] ∨ ∃ first digits, text = 0x2E :: first :: digits ∧ isDigit first = true ∧ Digits digits

/-- The sign of an exponent. -/
def Sign (text : List UInt8) : Prop := text = [] ∨ text = [0x2B] ∨ text = [0x2D]

/-- A letter, a sign if there is one, and at least one digit, or nothing. -/
def Exponent (text : List UInt8) : Prop :=
  text = [] ∨ ∃ letter sign first digits, text = letter :: (sign ++ first :: digits) ∧
    isExponent letter = true ∧ Sign sign ∧ isDigit first = true ∧ Digits digits

/-- A number of the grammar. -/
def Number (text : List UInt8) : Prop :=
  ∃ minus whole fraction exponent, text = minus ++ (whole ++ (fraction ++ exponent)) ∧
    (minus = [] ∨ minus = [0x2D]) ∧ Whole whole ∧ Fraction fraction ∧ Exponent exponent

/-- The automaton accepts a text from a label if the number may end behind it. -/
def NumberState.accepts : NumberState → List UInt8 → Bool
  | state, [] => state.done
  | state, byte :: text =>
      match state.next byte with
      | some next => next.accepts text
      | none => false

/-- Digits begin with a digit. -/
theorem digits_cons (byte : UInt8) (text : List UInt8) :
    Digits (byte :: text) ↔ isDigit byte = true ∧ Digits text := List.forall_mem_cons

/-- A number may end where its state is final. -/
theorem accepts_nil (state : NumberState) : state.accepts [] = state.done := by
  rw [NumberState.accepts]

/-- A number goes on with a byte its state goes on with. -/
theorem accepts_cons (state : NumberState) (byte : UInt8) (text : List UInt8) :
    state.accepts (byte :: text) = true ↔
      ∃ next, state.next byte = some next ∧ next.accepts text = true := by
  rw [NumberState.accepts]
  cases followed : state.next byte with
  | none => simp
  | some next => simp

/-- Behind a digit of the exponent there are only digits. -/
theorem accepts_any2 (text : List UInt8) : NumberState.any2.accepts text = true ↔ Digits text := by
  induction text with
  | nil => simp [accepts_nil, NumberState.done, Digits]
  | cons byte text inductionHypothesis =>
    rw [accepts_cons, digits_cons, ← inductionHypothesis, NumberState.next]
    by_cases digit : isDigit byte = true <;> simp [digit]

/-- Behind the sign of the exponent there is at least one. -/
theorem accepts_sign (text : List UInt8) : NumberState.sign.accepts text = true ↔
    ∃ first digits, text = first :: digits ∧ isDigit first = true ∧ Digits digits := by
  cases text with
  | nil => simp [accepts_nil, NumberState.done]
  | cons byte text =>
    rw [accepts_cons, NumberState.next]
    by_cases digit : isDigit byte = true <;> simp [digit, accepts_any2]

/-- What may follow the letter of an exponent. -/
theorem accepts_exponent (text : List UInt8) : NumberState.exponent.accepts text = true ↔
    ∃ sign first digits, text = sign ++ first :: digits ∧ Sign sign ∧ isDigit first = true ∧
      Digits digits := by
  cases text with
  | nil => simp [accepts_nil, NumberState.done]
  | cons byte text =>
    rw [accepts_cons, NumberState.next]
    by_cases signed : byte = 0x2B ∨ byte = 0x2D
    · simp only [signed, if_true, Option.some.injEq, exists_eq_left', accepts_sign]
      constructor
      · rintro ⟨first, digits, rfl, digit, rest⟩
        refine ⟨[byte], first, digits, rfl, ?_, digit, rest⟩
        rcases signed with rfl | rfl
        · exact Or.inr (Or.inl rfl)
        · exact Or.inr (Or.inr rfl)
      · rintro ⟨sign, first, digits, split, shape, digit, rest⟩
        rcases shape with rfl | rfl | rfl
        · obtain ⟨rfl, rfl⟩ := List.cons.inj split
          rcases signed with rfl | rfl <;> exact absurd digit (by decide)
        · exact ⟨first, digits, (List.cons.inj split).2, digit, rest⟩
        · exact ⟨first, digits, (List.cons.inj split).2, digit, rest⟩
    · simp only [signed, if_false]
      constructor
      · rintro ⟨next, followed, accepted⟩
        split at followed
        · rename_i digit
          cases followed
          exact ⟨[], byte, text, rfl, Or.inl rfl, digit, (accepts_any2 text).mp accepted⟩
        · cases followed
      · rintro ⟨sign, first, digits, split, shape, digit, rest⟩
        rcases shape with rfl | rfl | rfl
        · obtain ⟨rfl, rfl⟩ := List.cons.inj split
          exact ⟨.any2, by simp [digit], (accepts_any2 _).mpr rest⟩
        · exact absurd (Or.inl (List.cons.inj split).1) signed
        · exact absurd (Or.inr (List.cons.inj split).1) signed

/-- An exponent begins with its letter. -/
theorem exponent_cons (byte : UInt8) (text : List UInt8) : Exponent (byte :: text) ↔
    isExponent byte = true ∧ NumberState.exponent.accepts text = true := by
  rw [accepts_exponent]
  constructor
  · rintro (absent | ⟨letter, sign, first, digits, split, isLetter, shape, digit, rest⟩)
    · cases absent
    · obtain ⟨rfl, rfl⟩ := List.cons.inj split
      exact ⟨isLetter, sign, first, digits, rfl, shape, digit, rest⟩
  · rintro ⟨isLetter, sign, first, digits, rfl, shape, digit, rest⟩
    exact Or.inr ⟨byte, sign, first, digits, rfl, isLetter, shape, digit, rest⟩

/-- No byte has two meanings to the automaton. -/
theorem digit_apart (byte : UInt8) (digit : isDigit byte = true) :
    byte ≠ 0x2E ∧ isExponent byte = false ∧ byte ≠ 0x2D := by
  refine ⟨?_, ?_, ?_⟩
  · rintro rfl
    cases digit
  · rw [isExponent, decide_eq_false_iff_not]
    rintro (rfl | rfl) <;> cases digit
  · rintro rfl
    cases digit

/-- Behind a digit of the fraction there are digits and then the exponent. -/
theorem accepts_decimal2 (text : List UInt8) : NumberState.decimal2.accepts text = true ↔
    ∃ digits exponent, text = digits ++ exponent ∧ Digits digits ∧ Exponent exponent := by
  induction text with
  | nil =>
    simp only [accepts_nil, NumberState.done, true_iff]
    exact ⟨[], [], rfl, List.forall_mem_nil _, Or.inl rfl⟩
  | cons byte text inductionHypothesis =>
    rw [accepts_cons, NumberState.next]
    by_cases digit : isDigit byte = true
    · simp only [digit, if_true, Option.some.injEq, exists_eq_left', inductionHypothesis]
      constructor
      · rintro ⟨digits, exponent, rfl, all, last⟩
        exact ⟨byte :: digits, exponent, rfl, (digits_cons _ _).mpr ⟨digit, all⟩, last⟩
      · rintro ⟨digits, exponent, split, all, last⟩
        cases digits with
        | nil =>
          rw [List.nil_append] at split
          rw [← split, exponent_cons, (digit_apart byte digit).2.1] at last
          cases last.1
        | cons other digits =>
          obtain ⟨_, rest⟩ := List.cons.inj split
          exact ⟨digits, exponent, rest, ((digits_cons _ _).mp all).2, last⟩
    · simp only [digit, if_false, Bool.false_eq_true]
      constructor
      · rintro ⟨next, followed, accepted⟩
        split at followed
        · rename_i letter
          cases followed
          exact ⟨[], byte :: text, rfl, List.forall_mem_nil _,
            (exponent_cons _ _).mpr ⟨letter, accepted⟩⟩
        · cases followed
      · rintro ⟨digits, exponent, split, all, last⟩
        cases digits with
        | nil =>
          rw [List.nil_append] at split
          rw [← split, exponent_cons] at last
          exact ⟨.exponent, by simp [last.1], last.2⟩
        | cons other digits =>
          obtain ⟨rfl, _⟩ := List.cons.inj split
          exact absurd ((digits_cons _ _).mp all).1 digit

/-- A fraction begins with its point. -/
theorem fraction_cons (byte : UInt8) (text : List UInt8) : Fraction (byte :: text) ↔
    byte = 0x2E ∧ ∃ first digits, text = first :: digits ∧ isDigit first = true ∧ Digits digits := by
  constructor
  · rintro (absent | ⟨first, digits, split, digit, all⟩)
    · cases absent
    · obtain ⟨rfl, rfl⟩ := List.cons.inj split
      exact ⟨rfl, first, digits, rfl, digit, all⟩
  · rintro ⟨rfl, first, digits, rfl, digit, all⟩
    exact Or.inr ⟨first, digits, rfl, digit, all⟩

/-- What may follow the point. -/
theorem accepts_decimal1 (text : List UInt8) : NumberState.decimal1.accepts text = true ↔
    ∃ first digits exponent, text = first :: (digits ++ exponent) ∧ isDigit first = true ∧
      Digits digits ∧ Exponent exponent := by
  cases text with
  | nil => simp [accepts_nil, NumberState.done]
  | cons byte text =>
    rw [accepts_cons, NumberState.next]
    by_cases digit : isDigit byte = true <;> simp [digit, accepts_decimal2]

/-- What may follow the whole part. -/
theorem accepts_zero (text : List UInt8) : NumberState.zero.accepts text = true ↔
    ∃ fraction exponent, text = fraction ++ exponent ∧ Fraction fraction ∧ Exponent exponent := by
  cases text with
  | nil =>
    simp only [accepts_nil, NumberState.done, true_iff]
    exact ⟨[], [], rfl, Or.inl rfl, Or.inl rfl⟩
  | cons byte text =>
    rw [accepts_cons, NumberState.next]
    constructor
    · rintro ⟨next, followed, accepted⟩
      split at followed
      · rename_i point
        cases followed
        obtain ⟨first, digits, exponent, rfl, digit, all, last⟩ := (accepts_decimal1 text).mp accepted
        exact ⟨byte :: first :: digits, exponent, rfl,
          (fraction_cons _ _).mpr ⟨point, first, digits, rfl, digit, all⟩, last⟩
      · split at followed
        · rename_i letter
          cases followed
          exact ⟨[], byte :: text, rfl, Or.inl rfl, (exponent_cons _ _).mpr ⟨letter, accepted⟩⟩
        · cases followed
    · rintro ⟨fraction, exponent, split, fractional, last⟩
      cases fraction with
      | nil =>
        rw [List.nil_append] at split
        rw [← split, exponent_cons] at last
        have letter : byte ≠ 0x2E := fun point => by
          rw [point] at last
          cases last.1
        exact ⟨.exponent, by simp [last.1, letter], last.2⟩
      | cons other fraction =>
        obtain ⟨rfl, rfl⟩ := List.cons.inj split
        obtain ⟨point, first, digits, rfl, digit, all⟩ := (fraction_cons _ _).mp fractional
        exact ⟨.decimal1, by simp [point],
          (accepts_decimal1 _).mpr ⟨first, digits, exponent, rfl, digit, all, last⟩⟩

/-- Behind a digit that is not zero there are digits, and then what follows a zero. -/
theorem accepts_any1 (text : List UInt8) : NumberState.any1.accepts text = true ↔
    ∃ digits rest, text = digits ++ rest ∧ Digits digits ∧
      NumberState.zero.accepts rest = true := by
  induction text with
  | nil =>
    simp only [accepts_nil, NumberState.done, true_iff]
    exact ⟨[], [], rfl, List.forall_mem_nil _, rfl⟩
  | cons byte text inductionHypothesis =>
    by_cases digit : isDigit byte = true
    · rw [accepts_cons, NumberState.next]
      simp only [digit, if_true, Option.some.injEq, exists_eq_left', inductionHypothesis]
      constructor
      · rintro ⟨digits, rest, rfl, all, last⟩
        exact ⟨byte :: digits, rest, rfl, (digits_cons _ _).mpr ⟨digit, all⟩, last⟩
      · rintro ⟨digits, rest, split, all, last⟩
        cases digits with
        | nil =>
          rw [List.nil_append] at split
          rw [← split, accepts_cons, NumberState.next] at last
          obtain ⟨point, letter, _⟩ := digit_apart byte digit
          simp [point, letter] at last
        | cons other digits =>
          obtain ⟨_, split⟩ := List.cons.inj split
          exact ⟨digits, rest, split, ((digits_cons _ _).mp all).2, last⟩
    · have same : NumberState.any1.accepts (byte :: text) =
          NumberState.zero.accepts (byte :: text) := by
        rw [NumberState.accepts, NumberState.accepts, NumberState.next, NumberState.next,
          if_neg digit]
      rw [same]
      constructor
      · intro accepted
        exact ⟨[], byte :: text, rfl, List.forall_mem_nil _, accepted⟩
      · rintro ⟨digits, rest, split, all, last⟩
        cases digits with
        | nil =>
          rw [List.nil_append] at split
          rw [split]
          exact last
        | cons other digits =>
          obtain ⟨rfl, _⟩ := List.cons.inj split
          exact absurd ((digits_cons _ _).mp all).1 digit

/-- What may follow the sign: a whole part, a fraction and an exponent. -/
def Unsigned (text : List UInt8) : Prop :=
  ∃ whole rest, text = whole ++ rest ∧ Whole whole ∧ NumberState.zero.accepts rest = true

/-- A number without a sign begins with a zero, or with another digit and any more. -/
theorem unsigned_cons (byte : UInt8) (text : List UInt8) : Unsigned (byte :: text) ↔
    byte = 0x30 ∧ NumberState.zero.accepts text = true ∨
      byte ≠ 0x30 ∧ isDigit byte = true ∧ NumberState.any1.accepts text = true := by
  rw [accepts_any1]
  constructor
  · rintro ⟨whole, rest, split, rfl | ⟨first, digits, rfl, digit, solid, all⟩, last⟩
    · obtain ⟨rfl, rfl⟩ := List.cons.inj split
      exact Or.inl ⟨rfl, last⟩
    · obtain ⟨rfl, rfl⟩ := List.cons.inj split
      exact Or.inr ⟨solid, digit, digits, rest, rfl, all, last⟩
  · rintro (⟨rfl, last⟩ | ⟨solid, digit, digits, rest, rfl, all, last⟩)
    · exact ⟨[0x30], text, rfl, Or.inl rfl, last⟩
    · exact ⟨byte :: digits, rest, rfl, Or.inr ⟨byte, digits, rfl, digit, solid, all⟩, last⟩

/-- Behind a minus there is a number without a sign. -/
theorem accepts_minus (text : List UInt8) :
    NumberState.minus.accepts text = true ↔ Unsigned text := by
  cases text with
  | nil =>
    simp only [accepts_nil, NumberState.done, Bool.false_eq_true, false_iff]
    rintro ⟨whole, rest, split, part, _⟩
    obtain ⟨rfl, _⟩ := List.append_eq_nil_iff.mp split.symm
    rcases part with impossible | ⟨_, _, impossible, _⟩ <;> cases impossible
  | cons byte text =>
    rw [accepts_cons, unsigned_cons, NumberState.next]
    by_cases zero : byte = 0x30
    · simp [zero]
    · by_cases digit : isDigit byte = true <;> simp [zero, digit]

/-- A number is one without a sign, behind a minus if there is one. -/
theorem number_iff_unsigned (text : List UInt8) : Number text ↔
    ∃ minus unsigned, text = minus ++ unsigned ∧ (minus = [] ∨ minus = [0x2D]) ∧
      Unsigned unsigned := by
  constructor
  · rintro ⟨minus, whole, fraction, exponent, rfl, signed, part, fractional, last⟩
    exact ⟨minus, whole ++ (fraction ++ exponent), rfl, signed, whole, fraction ++ exponent, rfl,
      part, (accepts_zero _).mpr ⟨fraction, exponent, rfl, fractional, last⟩⟩
  · rintro ⟨minus, _, rfl, signed, whole, rest, rfl, part, accepted⟩
    obtain ⟨fraction, exponent, rfl, fractional, last⟩ := (accepts_zero rest).mp accepted
    exact ⟨minus, whole, fraction, exponent, rfl, signed, part, fractional, last⟩

/-- From its first byte on, the automaton accepts exactly the numbers. -/
theorem accepts_number (byte : UInt8) (text : List UInt8) : Number (byte :: text) ↔
    ∃ state, NumberState.init byte = some state ∧ state.accepts text = true := by
  rw [number_iff_unsigned, NumberState.init]
  constructor
  · rintro ⟨minus, unsigned, split, rfl | rfl, part⟩
    · rw [List.nil_append] at split
      rw [← split, unsigned_cons] at part
      rcases part with ⟨rfl, last⟩ | ⟨solid, digit, last⟩
      · exact ⟨.zero, rfl, last⟩
      · exact ⟨.any1, by simp [solid, digit, (digit_apart byte digit).2.2], last⟩
    · obtain ⟨rfl, rfl⟩ := List.cons.inj split
      exact ⟨.minus, rfl, (accepts_minus _).mpr part⟩
  · rintro ⟨state, started, accepted⟩
    split at started
    · rename_i minus
      cases started
      exact ⟨[byte], text, rfl, Or.inr (by rw [minus]), (accepts_minus text).mp accepted⟩
    · split at started
      · rename_i zero
        cases started
        exact ⟨[], byte :: text, rfl, Or.inl rfl, (unsigned_cons _ _).mpr (Or.inl ⟨zero, accepted⟩)⟩
      · rename_i zero
        split at started
        · rename_i digit
          cases started
          exact ⟨[], byte :: text, rfl, Or.inl rfl,
            (unsigned_cons _ _).mpr (Or.inr ⟨zero, digit, accepted⟩)⟩
        · cases started

/-!
## The scanner
-/

/-- The type of a number: that of a floating-point number if it has a point or an
exponent, else that of its sign. -/
def numberType (text : List UInt8) : NumberType :=
  if text.any (fun byte => byte = 0x2E ∨ isExponent byte) then .float
  else if text.head? = some 0x2D then .integer
  else .unsigned

/-- A digit or a sign leaves the type of a number. -/
theorem numberType_whole (buffer : List UInt8) (byte : UInt8) (started : buffer ≠ [])
    (point : byte ≠ 0x2E) (letter : isExponent byte = false) :
    numberType (buffer ++ [byte]) = numberType buffer := by
  have head : (buffer ++ [byte]).head? = buffer.head? := List.head?_append_of_ne_nil _ started
  have last : ([byte].any fun byte => decide (byte = 0x2E ∨ isExponent byte)) = false := by
    simp [point, letter]
  rw [numberType, numberType, List.any_append, last, Bool.or_false, head]

/-- A point or an exponent makes it one of floating point. -/
theorem numberType_float (buffer : List UInt8) (byte : UInt8)
    (marked : byte = 0x2E ∨ isExponent byte = true) :
    numberType (buffer ++ [byte]) = .float := by
  have last : ([byte].any fun byte => decide (byte = 0x2E ∨ isExponent byte)) = true := by
    rcases marked with point | letter
    · simp [point]
    · simp [letter]
  rw [numberType, List.any_append, last, Bool.or_true, if_pos rfl]

/-- At every label `number_type` is the type of what is in the buffer. -/
theorem assign_next (state next : NumberState) (buffer : List UInt8) (byte : UInt8)
    (started : buffer ≠ []) (followed : state.next byte = some next) :
    next.assign (numberType buffer) = numberType (buffer ++ [byte]) := by
  have plain : isDigit byte = true → numberType (buffer ++ [byte]) = numberType buffer :=
    fun digit => numberType_whole buffer byte started (digit_apart byte digit).1
      (digit_apart byte digit).2.1
  have float := numberType_float buffer byte
  cases state <;> simp only [NumberState.next] at followed
  case minus =>
    split at followed
    · rename_i zero
      cases followed
      exact (plain (by rw [zero]; rfl)).symm
    · split at followed
      · rename_i digit
        cases followed
        exact (plain digit).symm
      · cases followed
  case exponent =>
    split at followed
    · rename_i signed
      cases followed
      symm
      rcases signed with rfl | rfl <;>
        exact numberType_whole buffer _ started (by decide) (by decide)
    · split at followed
      · rename_i digit
        cases followed
        exact (plain digit).symm
      · cases followed
  case zero =>
    split at followed
    · rename_i point
      cases followed
      exact (float (Or.inl point)).symm
    · split at followed
      · rename_i letter
        cases followed
        exact (float (Or.inr letter)).symm
      · cases followed
  case any1 =>
    split at followed
    · rename_i digit
      cases followed
      exact (plain digit).symm
    · split at followed
      · rename_i point
        cases followed
        exact (float (Or.inl point)).symm
      · split at followed
        · rename_i letter
          cases followed
          exact (float (Or.inr letter)).symm
        · cases followed
  case decimal2 =>
    split at followed
    · rename_i digit
      cases followed
      exact (plain digit).symm
    · split at followed
      · rename_i letter
        cases followed
        exact (float (Or.inr letter)).symm
      · cases followed
  all_goals
    split at followed
    · rename_i digit
      cases followed
      exact (plain digit).symm
    · cases followed

/-- No number goes on with what follows. -/
def Ends (rest : List UInt8) : Prop :=
  ∀ byte, rest.head? = some byte → isDigit byte = false ∧ byte ≠ 0x2E ∧ isExponent byte = false

/-- A number that may end does so before a byte that ends numbers. -/
theorem next_ends (state : NumberState) (byte : UInt8) (rest : List UInt8) (final : state.done = true)
    (ends : Ends (byte :: rest)) : state.next byte = none := by
  obtain ⟨digit, point, letter⟩ := ends byte rfl
  cases state <;> simp_all [NumberState.next, NumberState.done]

/-- Where the automaton stops, it adds nothing. -/
theorem accepts_stopped (state : NumberState) (last : NumberType) (buffer left text rest : List UInt8)
    (stopped : (if state.done then some (numberType buffer, buffer, left) else none) =
      some (last, text, rest)) :
    ∃ taken, text = buffer ++ taken ∧ left = taken ++ rest ∧ state.accepts taken = true ∧
      last = numberType text := by
  split at stopped
  · rename_i final
    cases stopped
    exact ⟨[], (List.append_nil _).symm, rfl, by rw [accepts_nil, final], rfl⟩
  · cases stopped

/-- What the scanner takes of a number is accepted from its state. -/
theorem scanNumberFrom_accepts (state : NumberState) (last : NumberType)
    (buffer input text rest : List UInt8) (started : buffer ≠ [])
    (read : scanNumberFrom state (numberType buffer) buffer input = some (last, text, rest)) :
    ∃ taken, text = buffer ++ taken ∧ input = taken ++ rest ∧ state.accepts taken = true ∧
      last = numberType text := by
  induction input generalizing state buffer with
  | nil => exact accepts_stopped state last buffer [] text rest read
  | cons byte input inductionHypothesis =>
    rw [scanNumberFrom] at read
    split at read
    · rename_i next followed
      rw [assign_next state next buffer byte started followed] at read
      obtain ⟨taken, whole, split, accepted, typed⟩ :=
        inductionHypothesis next (buffer ++ [byte]) (by simp) read
      refine ⟨byte :: taken, ?_, ?_, (accepts_cons _ _ _).mpr ⟨next, followed, accepted⟩, typed⟩
      · rw [whole, List.append_assoc, List.singleton_append]
      · rw [split, List.cons_append]
    · exact accepts_stopped state last buffer (byte :: input) text rest read

/-- What is accepted from its state the scanner takes, and nothing behind it. -/
theorem scanNumberFrom_append (state : NumberState) (buffer taken rest : List UInt8)
    (started : buffer ≠ []) (accepted : state.accepts taken = true) (ends : Ends rest) :
    scanNumberFrom state (numberType buffer) buffer (taken ++ rest) =
      some (numberType (buffer ++ taken), buffer ++ taken, rest) := by
  induction taken generalizing state buffer with
  | nil =>
    rw [accepts_nil] at accepted
    rw [List.nil_append, List.append_nil]
    cases rest with
    | nil => rw [scanNumberFrom, if_pos accepted]
    | cons byte rest =>
      rw [scanNumberFrom, next_ends state byte rest accepted ends]
      exact if_pos accepted
  | cons byte taken inductionHypothesis =>
    obtain ⟨next, followed, later⟩ := (accepts_cons _ _ _).mp accepted
    rw [List.cons_append, scanNumberFrom, followed]
    simp only
    rw [assign_next state next buffer byte started followed,
      inductionHypothesis next (buffer ++ [byte]) (by simp) later, List.append_assoc,
      List.singleton_append]

/-- The first byte decides between a signed and an unsigned number. -/
theorem assign_init (byte : UInt8) (state : NumberState)
    (begun : NumberState.init byte = some state) :
    state.assign .unsigned = numberType [byte] := by
  rw [NumberState.init] at begun
  split at begun
  · rename_i minus
    cases begun
    rw [minus]
    rfl
  · rename_i unsigned
    split at begun
    · rename_i zero
      cases begun
      rw [zero]
      rfl
    · split at begun
      · rename_i digit
        cases begun
        obtain ⟨point, letter, _⟩ := digit_apart byte digit
        simp [numberType, NumberState.assign, point, letter, unsigned]
      · cases begun

/-- What the scanner takes for a number is one. -/
theorem scanNumber_split (byte : UInt8) (input rest : List UInt8) (token : Token)
    (read : scanNumber byte input = some (token, rest)) :
    ∃ taken, input = taken ++ rest ∧ Number (byte :: taken) ∧
      token = numberToken (numberType (byte :: taken)) (byte :: taken) := by
  simp only [scanNumber, Option.bind_eq_bind, Option.bind_eq_some_iff] at read
  obtain ⟨state, begun, ⟨number_type, buffer, left⟩, followed, ended⟩ := read
  cases ended
  rw [assign_init byte state begun] at followed
  obtain ⟨taken, rfl, split, accepted, rfl⟩ :=
    scanNumberFrom_accepts state number_type [byte] input buffer left (by simp) followed
  exact ⟨taken, split, (accepts_number byte taken).mpr ⟨state, begun, accepted⟩, rfl⟩

/-- A number is scanned whole, whatever ends it. -/
theorem scanNumber_number (byte : UInt8) (taken rest : List UInt8) (number : Number (byte :: taken))
    (ends : Ends rest) : scanNumber byte (taken ++ rest) =
      some (numberToken (numberType (byte :: taken)) (byte :: taken), rest) := by
  obtain ⟨state, begun, accepted⟩ := (accepts_number byte taken).mp number
  have scanned := scanNumberFrom_append state [byte] taken rest (by simp) accepted ends
  rw [List.singleton_append] at scanned
  rw [scanNumber, begun]
  simp only [Option.bind_eq_bind, Option.bind_some]
  rw [assign_init byte state begun, scanned, Option.bind_some]

end ClusterChat.Json.Lexer
