import ClusterChat.JsonRoundTrip

/-!
# The shortest text of a value

A value has many texts: whitespace, escapes, leading signs and members assigned twice
make them longer. `least_le` bounds them all from below, and `length_dump` says that the
printed text has just this length, so `dump` prints a shortest text.

A floating-point number may have a shorter text than the printed one. The bound counts
one byte for it, and the printed text is only compared for values without any.
-/

namespace ClusterChat.Json

open Lexer
open Utf8 (bytes encode)

mutual

/-- The bytes that every text of a value has at least. -/
def least : Json → Nat
  | .null => 4
  | .boolean value => if value then 4 else 5
  | .integer value => (bytes (toString value)).length
  | .float _ _ => 1
  | .string value => (bytes (quote value)).length
  | .array items => 1 + max 1 (leastItems items)
  | .object members => 1 + max 1 (leastMembers members)

/-- Each item with the comma or bracket behind it. -/
def leastItems : List Json → Nat
  | [] => 0
  | item :: rest => least item + 1 + leastItems rest

/-- Each member with the comma or brace behind it. -/
def leastMembers : List (String × Json) → Nat
  | [] => 0
  | (key, item) :: rest =>
      (bytes (quote key)).length + 1 + least item + 1 + leastMembers rest

end

/-- A value without floating-point numbers that is read back from its text. -/
abbrev Exact (js : Json) : Prop := Stable (fun _ _ => False) js

/-- A weaker demand on floating-point numbers is met by the same values. -/
theorem Stable.mono {float other : Int → String → Prop} {js : Json}
    (implies : ∀ whole text, float whole text → other whole text) (stable : Stable float js) :
    Stable other js := by
  induction stable with
  | null => exact Stable.null
  | boolean value => exact Stable.boolean value
  | integer value fits => exact Stable.integer value fits
  | float whole text printed => exact Stable.float whole text (implies whole text printed)
  | string value => exact Stable.string value
  | array items _ each => exact Stable.array items each
  | object members sorted _ each => exact Stable.object members sorted each

/-- A value without floating-point numbers meets every demand on them. -/
theorem Exact.stable {js : Json} (exact_ : Exact js) (float : Int → String → Prop) :
    Stable float js := exact_.mono fun _ _ impossible => impossible.elim

/-!
## The printed text
-/

/-- Items are printed with a comma between any two. -/
theorem length_dumpItems (items : List Json)
    (each : ∀ item ∈ items, (bytes (dump item)).length = least item) :
    (bytes (dumpItems items)).length + 1 = max 1 (leastItems items) := by
  induction items with
  | nil => rfl
  | cons item rest inductionHypothesis =>
    have own := each item List.mem_cons_self
    have later := inductionHypothesis fun other member => each other (List.mem_cons_of_mem _ member)
    rw [dumpItems, leastItems, Utf8.bytes_append, Utf8.bytes_append, List.length_append,
      List.length_append, own]
    cases rest with
    | nil =>
      rw [List.isEmpty_nil, if_pos rfl, dumpItems, leastItems, Utf8.bytes_empty, List.length_nil]
      omega
    | cons second rest =>
      have comma : (bytes ",").length = 1 := rfl
      rw [List.isEmpty_cons, if_neg (by decide), comma]
      have positive : 1 ≤ leastItems (second :: rest) := by
        rw [leastItems]
        omega
      omega

/-- Members are printed with a comma between any two. -/
theorem length_dumpMembers (members : List (String × Json))
    (each : ∀ member ∈ members, (bytes (dump member.2)).length = least member.2) :
    (bytes (dumpMembers members)).length + 1 = max 1 (leastMembers members) := by
  induction members with
  | nil => rfl
  | cons member rest inductionHypothesis =>
    obtain ⟨key, item⟩ := member
    have own := each (key, item) List.mem_cons_self
    have later := inductionHypothesis fun other inside => each other (List.mem_cons_of_mem _ inside)
    have colon : (bytes ":").length = 1 := rfl
    simp only [dumpMembers, leastMembers, Utf8.bytes_append, List.length_append, colon] at own ⊢
    cases rest with
    | nil =>
      rw [List.isEmpty_nil, if_pos rfl, dumpMembers, leastMembers, Utf8.bytes_empty,
        List.length_nil]
      omega
    | cons second rest =>
      have comma : (bytes ",").length = 1 := rfl
      rw [List.isEmpty_cons, if_neg (by decide), comma]
      have positive : 1 ≤ leastMembers (second :: rest) := by
        rw [leastMembers]
        omega
      omega

/-- A value without floating-point numbers is printed at its least length. -/
theorem length_dump (js : Json) (exact_ : Exact js) : (bytes (dump js)).length = least js := by
  induction exact_ with
  | null => rfl
  | boolean value => cases value <;> rfl
  | integer value _ => rfl
  | float whole text impossible => exact impossible.elim
  | string value => rfl
  | array items _ each =>
    have opened : (bytes "[").length = 1 := rfl
    have closed : (bytes "]").length = 1 := rfl
    have inner := length_dumpItems items each
    rw [dump, least, Utf8.bytes_append, Utf8.bytes_append, List.length_append, List.length_append,
      opened, closed]
    omega
  | object members sorted _ each =>
    have opened : (bytes "\x7b").length = 1 := rfl
    have closed : (bytes "\x7d").length = 1 := rfl
    have inner := length_dumpMembers members each
    rw [dump, least, Utf8.bytes_append, Utf8.bytes_append, List.length_append, List.length_append,
      opened, closed]
    omega

/-!
## Any text
-/

/-- A code point is given by four digits. -/
theorem hex_length (codepoint : Nat) (digits : List UInt8) (hex : Hex codepoint digits) :
    digits.length = 4 := by
  cases hex
  rfl

/-- A character that stands for itself is printed so. -/
theorem escape_plain (c : Char) (solid : 32 ≤ c.toNat) (quote : c.toNat ≠ 34)
    (solidus : c.toNat ≠ 92) : escape c = String.singleton c := by
  simp only [escape]
  rw [if_neg quote, if_neg solidus, if_neg (by omega), if_neg (by omega), if_neg (by omega),
    if_neg (by omega), if_neg (by omega), if_neg (by omega)]

/-- A text of one character has the bytes of that character. -/
theorem length_singleton (c : Char) : (bytes (String.singleton c)).length = (encode c).length := by
  rw [bytes, String.toList_singleton, Utf8.encodeAll_cons, Utf8.encodeAll_nil, List.append_nil]

/-- No character is printed with more than six bytes. -/
theorem length_escape_six (c : Char) : (bytes (escape c)).length ≤ 6 := by
  have low : ∀ n < 128, (bytes (escape (Char.ofNat n))).length ≤ 6 := by
    decide +kernel
  by_cases ascii : c.toNat < 128
  · have bound := low c.toNat ascii
    rw [Char.ofNat_toNat] at bound
    exact bound
  · have four := c.utf8Size_le_four
    rw [escape_plain c (by omega) (by omega) (by omega), length_singleton, encode,
      String.length_utf8EncodeChar]
    omega

/-- No text of a character is shorter than the printed one. -/
theorem length_escape_le (c : Char) (text : List UInt8) (shape : CharText c text) :
    (bytes (escape c)).length ≤ text.length := by
  have six := length_escape_six c
  cases shape with
  | plain solid quote solidus => rw [escape_plain c solid quote solidus, length_singleton]
  | letter name byte found same =>
    have code : c = Char.ofNat byte.toNat := by rw [← same, Char.ofNat_toNat]
    unfold escaped at found
    rw [code, List.length_cons, List.length_singleton]
    split_ifs at found <;> cases found <;> decide
  | unicode digits hex =>
    rw [List.length_cons, List.length_cons, hex_length _ digits hex]
    exact six
  | surrogates high low first second upper lower isHigh isLow pair =>
    simp only [List.length_append, List.length_cons, hex_length _ _ upper, hex_length _ _ lower]
    omega

/-- Printed characters are never longer than a text of them. -/
theorem length_chars_le (chars : List Char) (text : List UInt8) (shape : Chars chars text) :
    (bytes (String.join (chars.map escape))).length ≤ text.length := by
  induction shape with
  | nil => exact Nat.le_refl _
  | cons c chars text rest first _ inductionHypothesis =>
    have own := length_escape_le c text first
    rw [List.map_cons, String.join_cons, Utf8.bytes_append, List.length_append, List.length_append]
    omega

/-- A printed string is never longer than a text of it. -/
theorem length_quote_le (key : String) (text : List UInt8) (quoted : Quoted key text) :
    (bytes (quote key)).length ≤ text.length := by
  obtain ⟨inner, shape, rfl⟩ := quoted
  have own := length_chars_le key.toList inner shape
  have mark : (bytes "\"").length = 1 := rfl
  rw [quote, Utf8.bytes_append, Utf8.bytes_append]
  simp only [List.length_append, List.length_cons, List.length_nil, mark]
  omega

/-- A number has a digit. -/
theorem number_inhabited (text : List UInt8) (number : Number text) : text ≠ [] := by
  rintro rfl
  obtain ⟨byte, _, impossible, _⟩ := scanToken_lexeme _ [] [] (Lexeme.number [] number)
    fun _ _ head => by cases head
  cases impossible

/-- A printed integer is never longer than a text of it: it has no leading zeros. -/
theorem length_integer_le (text : List UInt8) (number : Number text) :
    (bytes (toString (decimal text))).length ≤ text.length := by
  rw [bytes, encodeAll_ascii _ (toString_ascii _), List.length_map, decimal]
  refine (Decimal.length_toString_le _ ?_).trans_eq (List.length_map _)
  simpa using number_inhabited text number

section Texts

variable {strtod : List UInt8 → Option (Int × String)}

/-- The bytes that every text of a part has at least. -/
def leastPart : Phrase → Nat
  | .value js => least js
  | .member key js => (bytes (quote key)).length + 1 + least js
  | .items more => leastItems more + 1
  | .members more => leastMembers more + 1

/-- A mark is no value. -/
theorem scalar_mark (token : Token) (byte : UInt8) (single : token.mark = some byte) :
    scalar strtod token = none := by
  cases token <;> first | rfl | cases single

/-- The token of a number stands for a number. -/
theorem scalar_number (token : Token) (js : Json) (number : token.isNumber = true)
    (single : scalar strtod token = some js) :
    (∃ value, js = .integer value) ∨ ∃ whole printed, js = .float whole printed := by
  cases token with
  | valueUnsigned value => exact Or.inl ⟨value, (Option.some.inj single).symm⟩
  | valueInteger value => exact Or.inl ⟨value, (Option.some.inj single).symm⟩
  | valueFloat text =>
    obtain ⟨⟨whole, printed⟩, _, ended⟩ := Option.map_eq_some_iff.mp single
    exact Or.inr ⟨whole, printed, ended.symm⟩
  | _ => cases number

/-- The text of a value that is one token is at least as long as its least length. -/
theorem least_scalar (token : Token) (js : Json) (text : List UInt8) (lexeme : Lexeme token text)
    (single : scalar strtod token = some js) : least js ≤ text.length := by
  cases lexeme with
  | mark _ byte found more =>
    rw [scalar_mark token byte (punctuation_mark byte token found more)] at single
    cases single
  | word _ byte letters named =>
    unfold literal at named
    split_ifs at named <;> cases named <;> cases single <;> exact Nat.le_refl _
  | string value text quoted =>
    cases single
    exact length_quote_le value text quoted
  | number text number =>
    rcases scalar_number _ js (numberToken_isNumber _ _) single with
      ⟨value, rfl⟩ | ⟨whole, printed, rfl⟩
    · obtain ⟨rfl, _⟩ := numberToken_fits text number value single
      exact length_integer_le text number
    · exact List.length_pos_iff.mpr (number_inhabited text number)

/-- A member that replaces another of its key makes the object no longer. -/
theorem leastMembers_insertMember (key : String) (value : Json) (members : List (String × Json)) :
    leastMembers (insertMember key value members) ≤
      leastMembers members + ((bytes (quote key)).length + 1 + least value + 1) := by
  induction members with
  | nil => simp [insertMember, leastMembers]
  | cons member rest inductionHypothesis =>
    obtain ⟨other, item⟩ := member
    rw [insertMember]
    split
    · simp only [leastMembers]
      omega
    split
    · simp only [leastMembers]
      omega
    · simp only [leastMembers]
      omega

/-- Assigning a member twice makes no object longer than its text. -/
theorem leastMembers_assigned (members pairs : List (String × Json)) :
    leastMembers (assigned members pairs) ≤ leastMembers members + leastMembers pairs := by
  induction pairs generalizing members with
  | nil => exact Nat.le_refl _
  | cons pair pairs inductionHypothesis =>
    obtain ⟨key, value⟩ := pair
    have step : assigned members ((key, value) :: pairs) =
        assigned (insertMember key value members) pairs := rfl
    have later := inductionHypothesis (insertMember key value members)
    have own := leastMembers_insertMember key value members
    rw [step, leastMembers]
    omega

/-- The text of a value is at least as long as its least length, and the same holds of
members and items. -/
theorem least_le (part : Phrase) (text : List UInt8) (writes : Writes strtod part text) :
    leastPart part ≤ text.length := by
  induction writes with
  | scalar token js gap text blank lexeme single =>
    have own := least_scalar token js text lexeme single
    rw [leastPart, List.length_append]
    omega
  | emptyArray gap inner blank hollow =>
    simp only [leastPart, least, leastItems, List.length_append, List.length_cons]
    omega
  | array gap text tail first more blank _ _ head later =>
    simp only [leastPart, least, leastItems, List.length_append, List.length_cons] at head later ⊢
    omega
  | emptyObject gap inner blank hollow =>
    simp only [leastPart, least, leastMembers, List.length_append, List.length_cons]
    omega
  | object gap text tail key first more blank _ _ head later =>
    have whole := leastMembers_assigned [] ((key, first) :: more)
    simp only [leastPart, least, leastMembers, List.length_append, List.length_cons]
      at head later whole ⊢
    omega
  | member before name behind text key js blank quoted spaced _ value =>
    have own := length_quote_le key name quoted
    simp only [leastPart, List.length_append, List.length_cons] at value ⊢
    omega
  | endItems gap blank =>
    simp only [leastPart, leastItems, List.length_append, List.length_cons]
    omega
  | nextItem gap text tail first more blank _ _ head later =>
    simp only [leastPart, leastItems, List.length_append, List.length_cons] at head later ⊢
    omega
  | endMembers gap blank =>
    simp only [leastPart, leastMembers, List.length_append, List.length_cons]
    omega
  | nextMember gap text tail key first more blank _ _ head later =>
    simp only [leastPart, leastMembers, List.length_append, List.length_cons] at head later ⊢
    omega

end Texts

end ClusterChat.Json
