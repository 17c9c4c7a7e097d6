import Mathlib.Data.List.Basic

/-!
# Texts as bytes

The bytes of a text are those of its characters one after another. `decode_bytes` reads
a text back from them, so two texts with the same bytes are the same text.

`encoded_iff` characterises the bytes of one character by the ranges they lie in: the
surrogates and the numbers behind the last character have no bytes, and no character has
longer bytes than it needs. A reader that checks only these ranges accepts exactly the
bytes of texts.
-/

namespace Utf8

/-- The bytes of a character. -/
abbrev encode (c : Char) : List UInt8 := String.utf8EncodeChar c

/-- The bytes of a list of characters. -/
def encodeAll (chars : List Char) : List UInt8 := chars.flatMap encode

/-- The bytes of a text. -/
def bytes (text : String) : List UInt8 := encodeAll text.toList

/-- The text with these bytes, if there is one. -/
def decode (content : List UInt8) : Option String := String.fromUTF8? content.toByteArray

/-- No characters have no bytes. -/
@[simp] theorem encodeAll_nil : encodeAll [] = [] := rfl

/-- The bytes of the first character come first. -/
@[simp] theorem encodeAll_cons (c : Char) (chars : List Char) :
    encodeAll (c :: chars) = encode c ++ encodeAll chars := rfl

/-- Characters joined have their bytes joined. -/
@[simp] theorem encodeAll_append (first second : List Char) :
    encodeAll (first ++ second) = encodeAll first ++ encodeAll second :=
  List.flatMap_append

/-- Texts joined have their bytes joined. -/
@[simp] theorem bytes_append (first second : String) :
    bytes (first ++ second) = bytes first ++ bytes second := by
  rw [bytes, String.toList_append, encodeAll_append, bytes, bytes]

/-- The empty text has no bytes. -/
@[simp] theorem bytes_empty : bytes "" = [] := rfl

/-- The bytes of characters are those of the text they make. -/
theorem decode_encodeAll (chars : List Char) :
    decode (encodeAll chars) = some (String.ofList chars) := by
  have whole : (encodeAll chars).toByteArray = (String.ofList chars).toByteArray := by
    rw [String.toByteArray_ofList]
    rfl
  have valid : (String.ofList chars).toByteArray.IsValidUTF8 := (String.ofList chars).isValidUTF8
  rw [decode, whole, String.fromUTF8?, dif_pos valid]
  exact congrArg some (String.toByteArray_inj.mp rfl)

/-- A byte that goes on with a character. -/
def Tail (byte : UInt8) : Prop := 128 ≤ byte.toNat ∧ byte.toNat ≤ 191

/-- The ranges the bytes of one character lie in. -/
inductive Sequence : List UInt8 → Prop
  | one (a : UInt8) (low : a.toNat ≤ 127) : Sequence [a]
  | two (a b : UInt8) (first : 194 ≤ a.toNat ∧ a.toNat ≤ 223) (tail : Tail b) : Sequence [a, b]
  | three (a b c : UInt8) (first : 224 ≤ a.toNat ∧ a.toNat ≤ 239) (tail : Tail b) (last : Tail c)
      (needed : a.toNat = 224 → 160 ≤ b.toNat) (scalar : a.toNat = 237 → b.toNat ≤ 159) :
      Sequence [a, b, c]
  | four (a b c d : UInt8) (first : 240 ≤ a.toNat ∧ a.toNat ≤ 244) (tail : Tail b) (third : Tail c)
      (last : Tail d) (needed : a.toNat = 240 → 144 ≤ b.toNat)
      (bounded : a.toNat = 244 → b.toNat ≤ 143) : Sequence [a, b, c, d]

/-- A number that is no surrogate and not too large is that of its character. -/
theorem toNat_ofNat (n : Nat) (valid : n < 55296 ∨ 57343 < n ∧ n < 1114112) :
    (Char.ofNat n).toNat = n := by
  have isValid : n.isValidChar := valid
  have made : Char.ofNat n = Char.ofNatAux n isValid := dif_pos isValid
  rw [made]
  rfl

/-- A character is no surrogate. -/
theorem toNat_valid (c : Char) :
    c.toNat < 55296 ∨ 57343 < c.toNat ∧ c.toNat < 1114112 := c.valid

/-- The characters of one byte. -/
theorem encode_one (c : Char) (low : c.toNat ≤ 127) : encode c = [c.toNat.toUInt8] := by
  have bound : c.val.toNat ≤ 127 := low
  rw [encode, String.utf8EncodeChar]
  simp only [bound, if_true]
  rfl

/-- The characters of two bytes. -/
theorem encode_two (c : Char) (range : 127 < c.toNat ∧ c.toNat ≤ 2047) :
    encode c = [(c.toNat / 64 % 32 + 192).toUInt8, (c.toNat % 64 + 128).toUInt8] := by
  have above : ¬ c.val.toNat ≤ 127 := Nat.not_le.mpr range.1
  have bound : c.val.toNat ≤ 2047 := range.2
  rw [encode, String.utf8EncodeChar]
  simp only [above, bound, if_true, if_false]
  rfl

/-- The characters of three bytes. -/
theorem encode_three (c : Char) (range : 2047 < c.toNat ∧ c.toNat ≤ 65535) :
    encode c = [(c.toNat / 4096 % 16 + 224).toUInt8, (c.toNat / 64 % 64 + 128).toUInt8,
      (c.toNat % 64 + 128).toUInt8] := by
  have first : ¬ c.val.toNat ≤ 127 := Nat.not_le.mpr (Nat.lt_trans (by decide) range.1)
  have above : ¬ c.val.toNat ≤ 2047 := Nat.not_le.mpr range.1
  have bound : c.val.toNat ≤ 65535 := range.2
  rw [encode, String.utf8EncodeChar]
  simp only [first, above, bound, if_true, if_false]
  rfl

/-- The characters of four bytes. -/
theorem encode_four (c : Char) (above : 65535 < c.toNat) :
    encode c = [(c.toNat / 262144 % 8 + 240).toUInt8, (c.toNat / 4096 % 64 + 128).toUInt8,
      (c.toNat / 64 % 64 + 128).toUInt8, (c.toNat % 64 + 128).toUInt8] := by
  have first : ¬ c.val.toNat ≤ 127 := Nat.not_le.mpr (Nat.lt_trans (by decide) above)
  have second : ¬ c.val.toNat ≤ 2047 := Nat.not_le.mpr (Nat.lt_trans (by decide) above)
  have third : ¬ c.val.toNat ≤ 65535 := Nat.not_le.mpr above
  rw [encode, String.utf8EncodeChar]
  simp only [first, second, third, if_false]
  rfl

/-- A small number is the number of its byte. -/
theorem toNat_toUInt8 (n : Nat) (small : n < 256) : n.toUInt8.toNat = n := by
  rw [Nat.toUInt8, UInt8.toNat_ofNat', Nat.mod_eq_of_lt small]

/-- The byte of a number is determined by it. -/
theorem toUInt8_eq (n : Nat) (byte : UInt8) (same : n = byte.toNat) : n.toUInt8 = byte := by
  rw [same]
  exact UInt8.ofNat_toNat

/-- The bytes of a character lie in the ranges. -/
theorem sequence_encode (c : Char) : Sequence (encode c) := by
  have valid := toNat_valid c
  by_cases one : c.toNat ≤ 127
  · rw [encode_one c one]
    exact Sequence.one _ (by rw [toNat_toUInt8 _ (by omega)]; exact one)
  by_cases two : c.toNat ≤ 2047
  · rw [encode_two c ⟨by omega, two⟩]
    refine Sequence.two _ _ ?_ ?_
    · rw [toNat_toUInt8 _ (by omega)]
      omega
    · rw [Tail, toNat_toUInt8 _ (by omega)]
      omega
  by_cases three : c.toNat ≤ 65535
  · rw [encode_three c ⟨by omega, three⟩]
    refine Sequence.three _ _ _ ?_ ?_ ?_ ?_ ?_ <;>
      simp only [Tail, toNat_toUInt8 _ (show c.toNat / 4096 % 16 + 224 < 256 by omega),
        toNat_toUInt8 _ (show c.toNat / 64 % 64 + 128 < 256 by omega),
        toNat_toUInt8 _ (show c.toNat % 64 + 128 < 256 by omega)] <;> omega
  · rw [encode_four c (by omega)]
    refine Sequence.four _ _ _ _ ?_ ?_ ?_ ?_ ?_ ?_ <;>
      simp only [Tail, toNat_toUInt8 _ (show c.toNat / 262144 % 8 + 240 < 256 by omega),
        toNat_toUInt8 _ (show c.toNat / 4096 % 64 + 128 < 256 by omega),
        toNat_toUInt8 _ (show c.toNat / 64 % 64 + 128 < 256 by omega),
        toNat_toUInt8 _ (show c.toNat % 64 + 128 < 256 by omega)] <;> omega

/-- Bytes in the ranges are those of a character. -/
theorem encoded_of_sequence (content : List UInt8) (ranges : Sequence content) :
    ∃ c, encode c = content := by
  cases ranges with
  | one a low =>
    have number := toNat_ofNat a.toNat (by omega)
    refine ⟨Char.ofNat a.toNat, ?_⟩
    rw [encode_one _ (by omega), toUInt8_eq _ a number]
  | two a b first tail =>
    unfold Tail at tail
    have number := toNat_ofNat ((a.toNat - 192) * 64 + (b.toNat - 128)) (by omega)
    refine ⟨Char.ofNat ((a.toNat - 192) * 64 + (b.toNat - 128)), ?_⟩
    rw [encode_two _ (by omega), toUInt8_eq _ a (by omega), toUInt8_eq _ b (by omega)]
  | three a b c first tail last needed scalar =>
    unfold Tail at tail last
    have number := toNat_ofNat
      ((a.toNat - 224) * 4096 + (b.toNat - 128) * 64 + (c.toNat - 128)) (by omega)
    refine ⟨Char.ofNat ((a.toNat - 224) * 4096 + (b.toNat - 128) * 64 + (c.toNat - 128)), ?_⟩
    rw [encode_three _ (by omega), toUInt8_eq _ a (by omega), toUInt8_eq _ b (by omega),
      toUInt8_eq _ c (by omega)]
  | four a b c d first tail third last needed bounded =>
    unfold Tail at tail third last
    have number := toNat_ofNat ((a.toNat - 240) * 262144 + (b.toNat - 128) * 4096 +
      (c.toNat - 128) * 64 + (d.toNat - 128)) (by omega)
    refine ⟨Char.ofNat ((a.toNat - 240) * 262144 + (b.toNat - 128) * 4096 +
      (c.toNat - 128) * 64 + (d.toNat - 128)), ?_⟩
    rw [encode_four _ (by omega), toUInt8_eq _ a (by omega), toUInt8_eq _ b (by omega),
      toUInt8_eq _ c (by omega), toUInt8_eq _ d (by omega)]

/-- The ranges are exactly those of characters. -/
theorem encoded_iff (content : List UInt8) : (∃ c, encode c = content) ↔ Sequence content := by
  constructor
  · rintro ⟨c, rfl⟩
    exact sequence_encode c
  · exact encoded_of_sequence content

/-- The bytes of a character that needs more than one are all above 127. -/
theorem tail_encode (c : Char) (above : 127 < c.toNat) (byte : UInt8) (member : byte ∈ encode c) :
    127 < byte.toNat := by
  have ranges := sequence_encode c
  cases shape : encode c with
  | nil => simp [shape] at member
  | cons a rest =>
    rw [shape] at ranges member
    cases ranges with
    | one a low =>
      have length : (encode c).length = c.utf8Size := String.length_utf8EncodeChar c
      rw [shape] at length
      have small := Char.utf8Size_eq_one_iff.mp length.symm
      have bound : c.toNat ≤ 127 := small
      omega
    | two a b first tail =>
      simp only [List.mem_cons, List.not_mem_nil, or_false] at member
      unfold Tail at tail
      rcases member with rfl | rfl <;> omega
    | three a b d first tail last needed scalar =>
      simp only [List.mem_cons, List.not_mem_nil, or_false] at member
      unfold Tail at tail last
      rcases member with rfl | rfl | rfl <;> omega
    | four a b d e first tail third last needed bounded =>
      simp only [List.mem_cons, List.not_mem_nil, or_false] at member
      unfold Tail at tail third last
      rcases member with rfl | rfl | rfl | rfl <;> omega

/-- A character below the first that needs two bytes is its own byte, and no byte of
another is that small. -/
theorem mem_encode (c : Char) (byte : UInt8) (low : byte.toNat ≤ 127) :
    byte ∈ encode c ↔ c.toNat = byte.toNat := by
  by_cases one : c.toNat ≤ 127
  · rw [encode_one c one, List.mem_singleton]
    constructor
    · rintro rfl
      exact (toNat_toUInt8 _ (by omega)).symm
    · exact fun same => (toUInt8_eq _ byte same).symm
  · constructor
    · intro member
      have high := tail_encode c (by omega) byte member
      omega
    · intro same
      omega

/-!
## Bytes held as characters
-/

/-- The bytes of a text, each held as a character of its own. -/
def octets (text : String) : List Char := (bytes text).map fun byte => Char.ofNat byte.toNat

/-- The bytes that characters hold. -/
def ofOctets (chars : List Char) : List UInt8 := chars.map fun c => c.toNat.toUInt8

/-- The characters hold the bytes of a text. -/
def IsText (chars : List Char) : Prop := ∃ text, bytes text = ofOctets chars

/-- A character that holds a byte has the number of the byte. -/
theorem toNat_octet (byte : UInt8) : (Char.ofNat byte.toNat).toNat = byte.toNat :=
  toNat_ofNat byte.toNat (Or.inl (by have bound := byte.toNat_lt; omega))

/-- The bytes of a text are found in the characters that hold them. -/
theorem ofOctets_octets (text : String) : ofOctets (octets text) = bytes text := by
  rw [ofOctets, octets, List.map_map]
  apply List.map_id''
  intro byte
  rw [Function.comp_apply, toNat_octet]
  exact toUInt8_eq _ byte rfl

/-- So these characters hold a text. -/
theorem isText_octets (text : String) : IsText (octets text) := ⟨text, (ofOctets_octets text).symm⟩

/-- Characters hold a text when their bytes are those of letters. -/
theorem isText_iff (chars : List Char) :
    IsText chars ↔ ∃ letters, encodeAll letters = ofOctets chars := by
  constructor
  · rintro ⟨text, same⟩
    exact ⟨text.toList, same⟩
  · rintro ⟨letters, same⟩
    refine ⟨String.ofList letters, ?_⟩
    rw [bytes, String.toList_ofList, same]

end Utf8
