import ClusterChat.JsonLexer

/-!
# The strings of a JSON text

A string is a sequence of characters between quotes. A character stands for itself, is
named by one letter behind a backslash, or is given by its code point in hexadecimal
digits, one beyond four digits as a pair of surrogates. `scanString_split` and
`scanString_chars` say that the scanner takes exactly these texts and adds the bytes of
the characters to its buffer. So a buffer always holds a text, and the scanner rejects
ill-formed bytes, lone surrogates and bare control characters.

The escapes by one letter are those the scanner knows.
-/

namespace ClusterChat.Json.Lexer

open Utf8 (encode encodeAll)

/-- Four hexadecimal digits and the number they make. -/
inductive Hex : Nat → List UInt8 → Prop
  | digits (a b c d : UInt8) (w x y z : Nat) (first : hexValue a = some w)
      (second : hexValue b = some x) (third : hexValue c = some y) (fourth : hexValue d = some z) :
      Hex (4096 * w + 256 * x + 16 * y + z) [a, b, c, d]

/-- The texts of one character. -/
inductive CharText (c : Char) : List UInt8 → Prop
  | plain (solid : 32 ≤ c.toNat) (quote : c.toNat ≠ 34) (solidus : c.toNat ≠ 92) :
      CharText c (encode c)
  | letter (letter byte : UInt8) (named : escaped letter = some byte)
      (same : c.toNat = byte.toNat) : CharText c [0x5C, letter]
  | unicode (digits : List UInt8) (hex : Hex c.toNat digits) :
      CharText c (0x5C :: 0x75 :: digits)
  | surrogates (high low : Nat) (first second : List UInt8) (upper : Hex high first)
      (lower : Hex low second) (isHigh : 0xD800 ≤ high ∧ high ≤ 0xDBFF)
      (isLow : 0xDC00 ≤ low ∧ low ≤ 0xDFFF)
      (pair : c.toNat = 0x10000 + (high - 0xD800) * 1024 + (low - 0xDC00)) :
      CharText c (0x5C :: 0x75 :: first ++ 0x5C :: 0x75 :: second)

/-- The texts of the characters between the quotes. -/
inductive Chars : List Char → List UInt8 → Prop
  | nil : Chars [] []
  | cons (c : Char) (chars : List Char) (text rest : List UInt8) (first : CharText c text)
      (later : Chars chars rest) : Chars (c :: chars) (text ++ rest)

/-- The texts of a string, with its quotes. -/
def Quoted (value : String) (text : List UInt8) : Prop :=
  ∃ inner, Chars value.toList inner ∧ text = 0x22 :: (inner ++ [0x22])

/-!
## Code points
-/

/-- Joining bits above and below a position is adding. -/
theorem or_eq_add (high low width : Nat) (small : low < 2 ^ width) :
    2 ^ width * high ||| low = 2 ^ width * high + low :=
  (Nat.two_pow_add_eq_or_of_lt small high).symm

/-- Masking the low six bits takes the remainder. -/
theorem and_eq_mod (n : Nat) : n &&& 0x3F = n % 64 := Nat.and_two_pow_sub_one_eq_mod n 6

/-- The byte that goes on with a character has six bits of its number. -/
theorem tail_eq (n : Nat) : 0x80 ||| (n &&& 0x3F) = n % 64 + 128 := by
  have small : n % 64 < 2 ^ 6 := Nat.mod_lt _ (by decide)
  rw [and_eq_mod]
  exact (or_eq_add 2 (n % 64) 6 small).trans (Nat.add_comm _ _)

/-- The scanner adds the bytes of the character. -/
theorem encodeCodepoint_toNat (c : Char) : encodeCodepoint c.toNat = encode c := by
  have valid := Utf8.toNat_valid c
  unfold encodeCodepoint
  split
  · rw [Utf8.encode_one c (by omega)]
  split
  · have small : c.toNat >>> 6 < 2 ^ 5 := by
      rw [Nat.shiftRight_eq_div_pow]
      omega
    have first : 0xC0 ||| c.toNat >>> 6 = c.toNat / 64 % 32 + 192 := by
      have joined : 0xC0 ||| c.toNat >>> 6 = 2 ^ 5 * 6 + c.toNat >>> 6 :=
        or_eq_add 6 (c.toNat >>> 6) 5 small
      rw [joined, Nat.shiftRight_eq_div_pow]
      omega
    rw [Utf8.encode_two c (by omega), tail_eq, first]
  split
  · have small : c.toNat >>> 12 < 2 ^ 4 := by
      rw [Nat.shiftRight_eq_div_pow]
      omega
    have first : 0xE0 ||| c.toNat >>> 12 = c.toNat / 4096 % 16 + 224 := by
      have joined : 0xE0 ||| c.toNat >>> 12 = 2 ^ 4 * 14 + c.toNat >>> 12 :=
        or_eq_add 14 (c.toNat >>> 12) 4 small
      rw [joined, Nat.shiftRight_eq_div_pow]
      omega
    rw [Utf8.encode_three c (by omega), tail_eq, tail_eq, first, Nat.shiftRight_eq_div_pow]
  · have small : c.toNat >>> 18 < 2 ^ 3 := by
      rw [Nat.shiftRight_eq_div_pow]
      omega
    have first : 0xF0 ||| c.toNat >>> 18 = c.toNat / 262144 % 8 + 240 := by
      have joined : 0xF0 ||| c.toNat >>> 18 = 2 ^ 3 * 30 + c.toNat >>> 18 :=
        or_eq_add 30 (c.toNat >>> 18) 3 small
      rw [joined, Nat.shiftRight_eq_div_pow]
      omega
    rw [Utf8.encode_four c (by omega), tail_eq, tail_eq, tail_eq, first,
      Nat.shiftRight_eq_div_pow, Nat.shiftRight_eq_div_pow]

/-- A hexadecimal digit is below 16. -/
theorem hexValue_lt (byte : UInt8) (value : Nat) (digit : hexValue byte = some value) :
    value < 16 := by
  unfold hexValue at digit
  split_ifs at digit <;> cases digit <;> omega

/-- Four of them make a number of 16 bits. -/
theorem hex_lt (codepoint : Nat) (digits : List UInt8) (hex : Hex codepoint digits) :
    codepoint < 65536 := by
  cases hex with
  | digits a b c d w x y z first second third fourth =>
    have := hexValue_lt a w first
    have := hexValue_lt b x second
    have := hexValue_lt c y third
    have := hexValue_lt d z fourth
    omega

/-- The scanner joins the four digits to that number. -/
theorem shifted_eq (w x y z : Nat) :
    w <<< 12 + x <<< 8 + y <<< 4 + z = 4096 * w + 256 * x + 16 * y + z := by
  simp only [Nat.shiftLeft_eq]
  omega

/-- A code point that is read was written with four digits. -/
theorem getCodepoint_split (input rest : List UInt8) (codepoint : Nat)
    (read : getCodepoint input = some (codepoint, rest)) :
    ∃ digits, input = digits ++ rest ∧ Hex codepoint digits := by
  unfold getCodepoint at read
  split at read
  · rename_i a b c d behind
    simp only [Option.bind_eq_bind, Option.bind_eq_some_iff] at read
    obtain ⟨w, first, x, second, y, third, z, fourth, ended⟩ := read
    cases ended
    exact ⟨[a, b, c, d], rfl,
      shifted_eq w x y z ▸ Hex.digits a b c d w x y z first second third fourth⟩
  · cases read

/-- Four digits are read as their code point. -/
theorem getCodepoint_hex (codepoint : Nat) (digits rest : List UInt8) (hex : Hex codepoint digits) :
    getCodepoint (digits ++ rest) = some (codepoint, rest) := by
  cases hex with
  | digits a b c d w x y z first second third fourth =>
    simp [getCodepoint, first, second, third, fourth, shifted_eq]

/-!
## Characters
-/

/-- An escape by code points that is read is that of one character. -/
theorem scanUnicode_split (input rest added : List UInt8)
    (read : scanUnicode input = some (added, rest)) :
    ∃ c text, CharText c (0x5C :: 0x75 :: text) ∧ input = text ++ rest ∧ added = encode c := by
  unfold scanUnicode at read
  obtain ⟨⟨high, behind⟩, opened, read⟩ := Option.bind_eq_some_iff.mp read
  obtain ⟨first, split, upper⟩ := getCodepoint_split input behind high opened
  have highBound := hex_lt high first upper
  dsimp only at read
  split at read
  · rename_i isHigh
    split at read
    · rename_i solidus letter following
      split at read
      · rename_i escape
        obtain ⟨⟨low, left⟩, closed, read⟩ := Option.bind_eq_some_iff.mp read
        obtain ⟨second, last, lower⟩ := getCodepoint_split following left low closed
        dsimp only at read
        split at read
        · rename_i isLow
          obtain ⟨bytes, rfl⟩ := Prod.mk.inj (Option.some.inj read)
          have pair : high <<< 10 + low - 0x35FDC00 =
              0x10000 + (high - 0xD800) * 1024 + (low - 0xDC00) := by
            rw [Nat.shiftLeft_eq]
            omega
          have number := Utf8.toNat_ofNat (high <<< 10 + low - 0x35FDC00) (by omega)
          refine ⟨Char.ofNat (high <<< 10 + low - 0x35FDC00), first ++ 0x5C :: 0x75 :: second,
            CharText.surrogates high low first second upper lower isHigh isLow
              (number.trans pair), ?_, ?_⟩
          · rw [split, escape.1, escape.2, last, List.append_assoc]
            rfl
          · rw [← bytes, ← encodeCodepoint_toNat, number]
        · cases read
      · cases read
    · cases read
  · rename_i notHigh
    split at read
    · cases read
    · rename_i notLow
      obtain ⟨bytes, rfl⟩ := Prod.mk.inj (Option.some.inj read)
      have number := Utf8.toNat_ofNat high (by omega)
      refine ⟨Char.ofNat high, first, CharText.unicode first (number.symm ▸ upper), split, ?_⟩
      rw [← bytes, ← encodeCodepoint_toNat, number]

/-- The byte a letter stands for is a character of its own. -/
theorem escaped_low (letter byte : UInt8) (named : escaped letter = some byte) :
    byte.toNat ≤ 127 ∧ letter ≠ 0x75 := by
  unfold escaped at named
  split_ifs at named with a b c d e f g h <;> cases named <;> refine ⟨by decide, ?_⟩ <;>
    rintro rfl <;> contradiction

/-- An escape that was read stood for one character. -/
theorem scanEscape_split (input rest added : List UInt8)
    (read : scanEscape input = some (added, rest)) :
    ∃ c text, CharText c (0x5C :: text) ∧ input = text ++ rest ∧ added = encode c := by
  cases input with
  | nil => cases read
  | cons letter input =>
    rw [scanEscape] at read
    split at read
    · rename_i unicode
      obtain ⟨c, text, shape, split, bytes⟩ := scanUnicode_split input rest added read
      exact ⟨c, 0x75 :: text, shape, by rw [unicode, split, List.cons_append], bytes⟩
    · obtain ⟨byte, named, ended⟩ := Option.map_eq_some_iff.mp read
      cases ended
      obtain ⟨low, _⟩ := escaped_low letter byte named
      have number := Utf8.toNat_ofNat byte.toNat (by omega)
      refine ⟨Char.ofNat byte.toNat, [letter], CharText.letter letter byte named number, rfl, ?_⟩
      rw [Utf8.encode_one _ (by omega), Utf8.toUInt8_eq _ byte number]

/-- The bytes the ranges admit behind a first byte. -/
theorem nextByteInRange_forall (bounds : List (Nat × Nat)) (input rest added : List UInt8) :
    nextByteInRange bounds input = some (added, rest) ↔ input = added ++ rest ∧
      List.Forall₂ (fun byte bound => bound.1 ≤ byte.toNat ∧ byte.toNat ≤ bound.2) added bounds := by
  induction bounds generalizing input added with
  | nil =>
    rw [nextByteInRange]
    constructor
    · intro ended
      cases ended
      exact ⟨rfl, List.Forall₂.nil⟩
    · rintro ⟨split, admitted⟩
      cases admitted
      exact congrArg (fun left => some ([], left)) split
  | cons bound bounds inductionHypothesis =>
    cases input with
    | nil =>
      rw [nextByteInRange]
      constructor
      · intro impossible
        cases impossible
      · rintro ⟨split, admitted⟩
        cases admitted
        cases split
    | cons byte input =>
      rw [nextByteInRange]
      constructor
      · intro read
        split at read
        · rename_i inside
          obtain ⟨⟨others, left⟩, later, ended⟩ := Option.map_eq_some_iff.mp read
          cases ended
          obtain ⟨rfl, admitted⟩ := (inductionHypothesis input others).mp later
          exact ⟨rfl, List.Forall₂.cons inside admitted⟩
        · cases read
      · rintro ⟨split, admitted⟩
        cases admitted with
        | @cons first _ others _ inside admitted =>
          obtain ⟨rfl, later⟩ := List.cons.inj split
          rw [if_pos inside, (inductionHypothesis input others).mpr ⟨later, admitted⟩]
          rfl

/-- Within a range. -/
abbrev Within (byte : UInt8) (bound : Nat × Nat) : Prop :=
  bound.1 ≤ byte.toNat ∧ byte.toNat ≤ bound.2

/-- A byte that is a character asks for nothing more. -/
theorem ranges_one (byte : UInt8) (low : 32 ≤ byte.toNat ∧ byte.toNat ≤ 127) :
    ranges byte = some [] := by
  unfold ranges
  rw [if_neg (by omega), if_pos low.2]

/-- The first byte of two asks for one that goes on. -/
theorem ranges_two (byte : UInt8) (first : 194 ≤ byte.toNat ∧ byte.toNat ≤ 223) :
    ranges byte = some [(0x80, 0xBF)] := by
  unfold ranges
  rw [if_neg (by omega), if_neg (by omega), if_pos first]

/-- The second byte keeps out longer texts than needed, and the surrogates. -/
theorem ranges_three (byte : UInt8) (first : 224 ≤ byte.toNat ∧ byte.toNat ≤ 239) :
    ranges byte = some [(if byte.toNat = 224 then 160 else 128,
      if byte.toNat = 237 then 159 else 191), (0x80, 0xBF)] := by
  unfold ranges
  rw [if_neg (by omega), if_neg (by omega), if_neg (by omega)]
  by_cases low : byte.toNat = 224
  · rw [if_pos low, if_pos low, if_neg (by omega)]
  rw [if_neg low, if_neg low]
  by_cases scalar : byte.toNat = 237
  · rw [if_neg (by omega), if_pos scalar, if_pos scalar]
  · rw [if_pos (by omega), if_neg scalar]

/-- The second byte keeps out longer texts than needed, and numbers of no character. -/
theorem ranges_four (byte : UInt8) (first : 240 ≤ byte.toNat ∧ byte.toNat ≤ 244) :
    ranges byte = some [(if byte.toNat = 240 then 144 else 128,
      if byte.toNat = 244 then 143 else 191), (0x80, 0xBF), (0x80, 0xBF)] := by
  unfold ranges
  rw [if_neg (by omega), if_neg (by omega), if_neg (by omega), if_neg (by omega),
    if_neg (by omega), if_neg (by omega)]
  by_cases low : byte.toNat = 240
  · rw [if_pos low, if_pos low, if_neg (by omega)]
  rw [if_neg low, if_neg low]
  by_cases high : byte.toNat = 244
  · rw [if_neg (by omega), if_pos high, if_pos high]
  · rw [if_pos (by omega), if_neg high]

/-- The other bytes begin no character. -/
theorem ranges_none (byte : UInt8) (outside : byte.toNat ≤ 31 ∨
    (128 ≤ byte.toNat ∧ byte.toNat ≤ 193) ∨ 245 ≤ byte.toNat) : ranges byte = none := by
  unfold ranges
  by_cases control : byte.toNat ≤ 31
  · rw [if_pos control]
  · rw [if_neg control, if_neg (by omega), if_neg (by omega), if_neg (by omega), if_neg (by omega),
      if_neg (by omega), if_neg (by omega), if_neg (by omega), if_neg (by omega)]

/-- The ranges asked for behind a byte make it a character. -/
theorem sequence_of_ranges (byte : UInt8) (added : List UInt8) (bounds : List (Nat × Nat))
    (asked : ranges byte = some bounds) (admitted : List.Forall₂ Within added bounds) :
    32 ≤ byte.toNat ∧ Utf8.Sequence (byte :: added) := by
  by_cases begins : byte.toNat ≤ 31 ∨ (128 ≤ byte.toNat ∧ byte.toNat ≤ 193) ∨ 245 ≤ byte.toNat
  · rw [ranges_none byte begins] at asked
    cases asked
  refine ⟨by omega, ?_⟩
  by_cases one : byte.toNat ≤ 127
  · rw [ranges_one byte ⟨by omega, one⟩] at asked
    cases asked
    cases admitted
    exact Utf8.Sequence.one byte one
  by_cases two : byte.toNat ≤ 223
  · rw [ranges_two byte ⟨by omega, two⟩] at asked
    cases asked
    rcases admitted with _ | ⟨second, _ | _⟩
    exact Utf8.Sequence.two _ _ ⟨by omega, two⟩ second
  by_cases three : byte.toNat ≤ 239
  · rw [ranges_three byte ⟨by omega, three⟩] at asked
    cases asked
    rcases admitted with _ | ⟨⟨above, below⟩, _ | ⟨third, _ | _⟩⟩
    refine Utf8.Sequence.three _ _ _ ⟨by omega, three⟩ ⟨?_, ?_⟩ third ?_ ?_
    all_goals
      dsimp only at above below
      split_ifs at above below <;> omega
  · rw [ranges_four byte ⟨by omega, by omega⟩] at asked
    cases asked
    rcases admitted with _ | ⟨⟨above, below⟩, _ | ⟨third, _ | ⟨fourth, _ | _⟩⟩⟩
    refine Utf8.Sequence.four _ _ _ _ ⟨by omega, by omega⟩ ⟨?_, ?_⟩ third fourth ?_ ?_
    all_goals
      dsimp only at above below
      split_ifs at above below <;> omega

/-- The bytes behind the first byte of a character are those asked for. -/
theorem ranges_of_sequence (byte : UInt8) (added : List UInt8) (solid : 32 ≤ byte.toNat)
    (sequence : Utf8.Sequence (byte :: added)) :
    ∃ bounds, ranges byte = some bounds ∧ List.Forall₂ Within added bounds := by
  cases sequence with
  | one byte low => exact ⟨_, ranges_one byte ⟨solid, low⟩, List.Forall₂.nil⟩
  | two byte b first tail =>
    exact ⟨_, ranges_two byte first, List.Forall₂.cons tail List.Forall₂.nil⟩
  | three byte b c first tail last needed scalar =>
    refine ⟨_, ranges_three byte first, List.Forall₂.cons ⟨?_, ?_⟩
      (List.Forall₂.cons last List.Forall₂.nil)⟩
    · dsimp only
      split_ifs with low
      · exact needed low
      · exact tail.1
    · dsimp only
      split_ifs with high
      · exact scalar high
      · exact tail.2
  | four byte b c d first tail third last needed bounded =>
    refine ⟨_, ranges_four byte first, List.Forall₂.cons ⟨?_, ?_⟩
      (List.Forall₂.cons third (List.Forall₂.cons last List.Forall₂.nil))⟩
    · dsimp only
      split_ifs with low
      · exact needed low
      · exact tail.1
    · dsimp only
      split_ifs with high
      · exact bounded high
      · exact tail.2

/-- A character that is read adds its bytes. -/
theorem scanCharacter_split (byte : UInt8) (input rest added : List UInt8) (quote : byte ≠ 0x22)
    (read : scanCharacter byte input = some (added, rest)) :
    ∃ c text, CharText c text ∧ byte :: input = text ++ rest ∧ added = encode c := by
  unfold scanCharacter at read
  split at read
  · rename_i solidus
    obtain ⟨c, text, shape, split, bytes⟩ := scanEscape_split input rest added read
    exact ⟨c, 0x5C :: text, shape, by rw [solidus, split, List.cons_append], bytes⟩
  · rename_i solidus
    simp only [Option.bind_eq_bind, Option.bind_eq_some_iff] at read
    obtain ⟨bounds, asked, ⟨others, left⟩, later, ended⟩ := read
    cases ended
    obtain ⟨rfl, admitted⟩ := (nextByteInRange_forall bounds input left others).mp later
    obtain ⟨solid, sequence⟩ := sequence_of_ranges byte others bounds asked admitted
    obtain ⟨c, bytes⟩ := (Utf8.encoded_iff _).mpr sequence
    have own : ∀ other : UInt8, other.toNat ≤ 127 → byte ≠ other → c.toNat ≠ other.toNat := by
      intro other low differs same
      have single : encode c = [other] := by
        rw [Utf8.encode_one c (by omega), Utf8.toUInt8_eq _ other same]
      rw [single] at bytes
      exact differs (List.cons.inj bytes).1.symm
    have above : 32 ≤ c.toNat := by
      by_contra control
      have single : encode c = [c.toNat.toUInt8] := Utf8.encode_one c (by omega)
      rw [single] at bytes
      have first := (List.cons.inj bytes).1
      rw [← first, Utf8.toNat_toUInt8 _ (by omega)] at solid
      exact control solid
    refine ⟨c, encode c, CharText.plain above (own 0x22 (by decide) quote)
      (own 0x5C (by decide) solidus), ?_, bytes.symm⟩
    rw [bytes, List.cons_append]

/-- The text of a character is read whole in one turn of the loop. -/
theorem scanCharacter_text (c : Char) (text rest : List UInt8) (shape : CharText c text) :
    ∃ byte behind, text = byte :: behind ∧ byte ≠ 0x22 ∧
      scanCharacter byte (behind ++ rest) = some (encode c, rest) := by
  cases shape with
  | plain solid quote solidus =>
    have sequence := Utf8.sequence_encode c
    have apart : ∀ byte ∈ encode c, byte ≠ 0x22 ∧ byte ≠ 0x5C := by
      intro byte member
      constructor
      · rintro rfl
        exact quote ((Utf8.mem_encode c 0x22 (by decide)).mp member)
      · rintro rfl
        exact solidus ((Utf8.mem_encode c 0x5C (by decide)).mp member)
    have started : ∀ byte ∈ encode c, 32 ≤ byte.toNat := by
      intro byte member
      by_contra control
      have same := (Utf8.mem_encode c byte (by omega)).mp member
      omega
    cases bytes : encode c with
    | nil =>
      rw [bytes] at sequence
      cases sequence
    | cons byte behind =>
      have first : byte ∈ encode c := bytes ▸ List.mem_cons_self
      rw [bytes] at sequence
      obtain ⟨bounds, asked, admitted⟩ :=
        ranges_of_sequence byte behind (started byte first) sequence
      have later := (nextByteInRange_forall bounds (behind ++ rest) rest behind).mpr
        ⟨rfl, admitted⟩
      refine ⟨byte, behind, rfl, (apart byte first).1, ?_⟩
      rw [scanCharacter, if_neg (apart byte first).2, asked]
      simp only [Option.bind_eq_bind, Option.bind_some, later]
  | letter letter byte named same =>
    obtain ⟨low, unicode⟩ := escaped_low letter byte named
    refine ⟨0x5C, [letter], rfl, by decide, ?_⟩
    rw [scanCharacter, if_pos rfl, List.singleton_append, scanEscape, if_neg unicode, named,
      Utf8.encode_one c (by omega), Utf8.toUInt8_eq _ byte same]
    rfl
  | unicode digits hex =>
    have valid := Utf8.toNat_valid c
    refine ⟨0x5C, 0x75 :: digits, rfl, by decide, ?_⟩
    rw [scanCharacter, if_pos rfl, List.cons_append, scanEscape, if_pos rfl, scanUnicode,
      getCodepoint_hex _ digits rest hex]
    simp only [Option.bind_eq_bind, Option.bind_some]
    rw [if_neg (by omega), if_neg (by omega), encodeCodepoint_toNat]
  | surrogates high low first second upper lower isHigh isLow pair =>
    have joined : high <<< 10 + low - 0x35FDC00 = c.toNat := by
      rw [pair, Nat.shiftLeft_eq]
      omega
    refine ⟨0x5C, 0x75 :: first ++ 0x5C :: 0x75 :: second, rfl, by decide, ?_⟩
    rw [scanCharacter, if_pos rfl, List.append_assoc, List.cons_append, scanEscape, if_pos rfl,
      scanUnicode, getCodepoint_hex high first _ upper]
    simp only [Option.bind_eq_bind, Option.bind_some, List.cons_append]
    rw [if_pos isHigh]
    simp only [and_self, if_true, getCodepoint_hex low second rest lower, Option.bind_some]
    rw [if_pos isLow, joined, encodeCodepoint_toNat]

/-!
## The loop
-/

/-- The buffer always holds the bytes of characters. -/
theorem scanString_split (buffer input text rest : List UInt8)
    (read : scanString buffer input = some (text, rest)) :
    ∃ chars inner, Chars chars inner ∧ input = inner ++ 0x22 :: rest ∧
      text = buffer ++ encodeAll chars := by
  fun_induction scanString buffer input with
  | case1 => cases read
  | case2 buffer input =>
    cases read
    exact ⟨[], [], Chars.nil, rfl, (List.append_nil _).symm⟩
  | case3 => cases read
  | case4 buffer byte input quote added behind turn inductionHypothesis =>
    obtain ⟨c, first, shape, split, rfl⟩ := scanCharacter_split byte input behind added quote turn
    obtain ⟨chars, inner, later, rfl, whole⟩ := inductionHypothesis read
    refine ⟨c :: chars, first ++ inner, Chars.cons c chars first inner shape later, ?_, ?_⟩
    · rw [split, List.append_assoc]
    · rw [whole, Utf8.encodeAll_cons, List.append_assoc]

/-- The texts of characters up to a quote are read as their bytes. -/
theorem scanString_chars (chars : List Char) (inner buffer rest : List UInt8)
    (shape : Chars chars inner) :
    scanString buffer (inner ++ 0x22 :: rest) = some (buffer ++ encodeAll chars, rest) := by
  induction shape generalizing buffer with
  | nil =>
    rw [List.nil_append, scanString, if_pos rfl, Utf8.encodeAll_nil, List.append_nil]
  | cons c chars text later first _ inductionHypothesis =>
    obtain ⟨byte, behind, rfl, quote, turn⟩ :=
      scanCharacter_text c text (later ++ 0x22 :: rest) first
    rw [List.append_assoc, List.cons_append, scanString, if_neg quote]
    split
    · rename_i failed
      rw [turn] at failed
      cases failed
    · rename_i added left followed
      rw [turn] at followed
      cases followed
      rw [inductionHypothesis, Utf8.encodeAll_cons, List.append_assoc]

end ClusterChat.Json.Lexer
