import ClusterChat.JsonGrammar

/-!
# Printing and parsing

`dump` prints a text of the grammar, so the parser reads every printed value back.
`writes_dump` needs of the value what `Stable` says: keys in strict order, as the map of
the library keeps them, integers that fit 64 bits, and floating-point numbers whose text
is converted back to them. `stable_of_writes` says that a parsed value is like that, if
the conversion is.

`least_le` measures texts: none of the texts of a value is shorter than the printed one,
unless the value has floating-point numbers, whose shortest text is not known here.
-/

namespace ClusterChat.Json

open Lexer
open Utf8 (bytes encode encodeAll)

/-- What is needed of a value to be read back from its text. -/
inductive Stable (float : Int → String → Prop) : Json → Prop
  | null : Stable float .null
  | boolean (value : Bool) : Stable float (.boolean value)
  | integer (value : Int) (fits : -2 ^ 63 ≤ value ∧ value < 2 ^ 64) : Stable float (.integer value)
  | float (whole : Int) (text : String) (printed : float whole text) :
      Stable float (.float whole text)
  | string (value : String) : Stable float (.string value)
  | array (items : List Json) (each : ∀ item ∈ items, Stable float item) :
      Stable float (.array items)
  | object (members : List (String × Json)) (sorted : members.Pairwise fun a b => a.1 < b.1)
      (each : ∀ member ∈ members, Stable float member.2) : Stable float (.object members)

/-- The conversion reads the text of a floating-point number back. -/
def ReadBack (strtod : List UInt8 → Option (Int × String)) (whole : Int) (text : String) : Prop :=
  Number (bytes text) ∧ numberType (bytes text) = .float ∧
    strtod (bytes text) = some (whole, text)

/-!
## Members in order
-/

/-- Of two different keys one comes first. -/
theorem string_trichotomy (first second : String) (different : first ≠ second)
    (unordered : ¬ first < second) : second < first := by
  by_contra other
  exact different (String.le_antisymm (String.not_lt.mp other) (String.not_lt.mp unordered))

/-- A key behind all others goes to the end. -/
theorem insertMember_last (key : String) (value : Json) (members : List (String × Json))
    (last : ∀ member ∈ members, member.1 < key) :
    insertMember key value members = members ++ [(key, value)] := by
  induction members with
  | nil => rfl
  | cons member rest inductionHypothesis =>
    obtain ⟨other, item⟩ := member
    have before := last (other, item) List.mem_cons_self
    have differs : key ≠ other := by
      rintro rfl
      exact String.lt_irrefl _ before
    rw [insertMember, if_neg differs, if_neg (String.lt_asymm before),
      inductionHypothesis fun member inside => last member (List.mem_cons_of_mem _ inside),
      List.cons_append]

/-- Assigning members in order is appending them. -/
theorem assigned_sorted (members pairs : List (String × Json))
    (sorted : (members ++ pairs).Pairwise fun a b => a.1 < b.1) :
    assigned members pairs = members ++ pairs := by
  induction pairs generalizing members with
  | nil => exact (List.append_nil _).symm
  | cons pair pairs inductionHypothesis =>
    have last : ∀ member ∈ members, member.1 < pair.1 := fun member inside =>
      (List.pairwise_append.mp sorted).2.2 member inside pair List.mem_cons_self
    have step : assigned members (pair :: pairs) =
        assigned (insertMember pair.1 pair.2 members) pairs := rfl
    have joined : members ++ pair :: pairs = (members ++ [pair]) ++ pairs := by simp
    rw [step, insertMember_last pair.1 pair.2 members last, joined]
    rw [joined] at sorted
    exact inductionHypothesis (members ++ [pair]) sorted

/-- A member of an object is the one assigned last or was there before. -/
theorem mem_insertMember (key : String) (value : Json) (members : List (String × Json))
    (member : String × Json) (inside : member ∈ insertMember key value members) :
    member = (key, value) ∨ member ∈ members := by
  induction members with
  | nil => exact Or.inl (List.mem_singleton.mp inside)
  | cons first rest inductionHypothesis =>
    obtain ⟨other, item⟩ := first
    rw [insertMember] at inside
    split at inside
    · rcases List.mem_cons.mp inside with own | later
      · exact Or.inl own
      · exact Or.inr (List.mem_cons_of_mem _ later)
    split at inside
    · rcases List.mem_cons.mp inside with own | later
      · exact Or.inl own
      · exact Or.inr later
    · rcases List.mem_cons.mp inside with own | later
      · exact Or.inr (own ▸ List.mem_cons_self)
      · rcases inductionHypothesis later with own | later
        · exact Or.inl own
        · exact Or.inr (List.mem_cons_of_mem _ later)

/-- Assigning a member keeps the order of the keys. -/
theorem insertMember_sorted (key : String) (value : Json) (members : List (String × Json))
    (sorted : members.Pairwise fun a b => a.1 < b.1) :
    (insertMember key value members).Pairwise fun a b => a.1 < b.1 := by
  induction members with
  | nil => exact List.pairwise_singleton _ _
  | cons first rest inductionHypothesis =>
    obtain ⟨other, item⟩ := first
    obtain ⟨head, tail⟩ := List.pairwise_cons.mp sorted
    rw [insertMember]
    split
    · rename_i same
      subst same
      exact List.pairwise_cons.mpr ⟨head, tail⟩
    split
    · rename_i before
      refine List.pairwise_cons.mpr ⟨?_, sorted⟩
      intro member inside
      rcases List.mem_cons.mp inside with rfl | later
      · exact before
      · exact String.lt_trans before (head member later)
    · rename_i different unordered
      refine List.pairwise_cons.mpr ⟨?_, inductionHypothesis tail⟩
      intro member inside
      rcases mem_insertMember key value rest member inside with rfl | later
      · exact string_trichotomy key other different unordered
      · exact head member later

/-- An object always has its members in order, and every member is one assigned. -/
theorem assigned_stable (float : Int → String → Prop) (members pairs : List (String × Json))
    (start : Stable float (.object members)) (each : ∀ pair ∈ pairs, Stable float pair.2) :
    Stable float (.object (assigned members pairs)) := by
  induction pairs generalizing members with
  | nil => exact start
  | cons pair pairs inductionHypothesis =>
    have step : assigned members (pair :: pairs) =
        assigned (insertMember pair.1 pair.2 members) pairs := rfl
    rw [step]
    refine inductionHypothesis _ ?_ fun other inside => each other (List.mem_cons_of_mem _ inside)
    cases start with
    | object _ sorted stable =>
      refine Stable.object _ (insertMember_sorted _ _ _ sorted) ?_
      intro member inside
      rcases mem_insertMember _ _ _ member inside with rfl | old
      · exact each pair List.mem_cons_self
      · exact stable member old

/-!
## Texts of strings
-/

/-- A hexadecimal digit has one byte, which the lexer reads back. -/
theorem digit_hex (value : Nat) (small : value < 16) :
    encode (hexDigit value) = [(hexDigit value).toNat.toUInt8] ∧
      hexValue (hexDigit value).toNat.toUInt8 = some value := by
  have every : ∀ value < 16, encode (hexDigit value) = [(hexDigit value).toNat.toUInt8] ∧
      hexValue (hexDigit value).toNat.toUInt8 = some value := by decide
  exact every value small

/-- The printed text of a character is one of its texts. -/
theorem charText_escape (c : Char) : CharText c (bytes (escape c)) := by
  have letter : ∀ (name byte : UInt8) (text : String), bytes text = [0x5C, name] →
      escaped name = some byte → c.toNat = byte.toNat → CharText c (bytes text) := by
    intro name byte text shape named same
    rw [shape]
    exact CharText.letter name byte named same
  unfold escape
  split
  · exact letter 0x22 0x22 _ rfl rfl ‹_›
  split
  · exact letter 0x5C 0x5C _ rfl rfl ‹_›
  split
  · exact letter 0x62 0x08 _ rfl rfl ‹_›
  split
  · exact letter 0x74 0x09 _ rfl rfl ‹_›
  split
  · exact letter 0x6E 0x0A _ rfl rfl ‹_›
  split
  · exact letter 0x66 0x0C _ rfl rfl ‹_›
  split
  · exact letter 0x72 0x0D _ rfl rfl ‹_›
  split
  · rename_i control
    obtain ⟨highBytes, high⟩ := digit_hex (c.toNat / 16) (by omega)
    obtain ⟨lowBytes, low⟩ := digit_hex (c.toNat % 16) (by omega)
    have digits : bytes (String.ofList [hexDigit (c.toNat / 16), hexDigit (c.toNat % 16)]) =
        [(hexDigit (c.toNat / 16)).toNat.toUInt8, (hexDigit (c.toNat % 16)).toNat.toUInt8] := by
      rw [bytes, String.toList_ofList, Utf8.encodeAll_cons, Utf8.encodeAll_cons, highBytes,
        lowBytes]
      rfl
    have hex := Hex.digits 0x30 0x30 _ _ 0 0 _ _ rfl rfl high low
    have number : 4096 * 0 + 256 * 0 + 16 * (c.toNat / 16) + c.toNat % 16 = c.toNat := by omega
    rw [number] at hex
    rw [Utf8.bytes_append, digits]
    exact CharText.unicode _ hex
  · have single : bytes (String.singleton c) = encode c := by
      rw [bytes, String.toList_singleton, Utf8.encodeAll_cons, Utf8.encodeAll_nil, List.append_nil]
    rw [single]
    exact CharText.plain (by omega) ‹_› ‹_›

/-- Printed characters are texts of those characters. -/
theorem chars_quote (chars : List Char) :
    Chars chars (bytes (String.join (chars.map escape))) := by
  induction chars with
  | nil => exact Chars.nil
  | cons c chars inductionHypothesis =>
    rw [List.map_cons, String.join_cons, Utf8.bytes_append]
    exact Chars.cons c chars _ _ (charText_escape c) inductionHypothesis

/-- A printed string is a text of that string. -/
theorem quoted_quote (text : String) : Quoted text (bytes (quote text)) := by
  refine ⟨_, chars_quote text.toList, ?_⟩
  have mark : bytes "\"" = [0x22] := rfl
  rw [quote, Utf8.bytes_append, Utf8.bytes_append, mark, List.append_assoc, List.singleton_append]

/-!
## Texts of integers
-/

/-- Characters of one byte each. -/
theorem encodeAll_ascii (chars : List Char) (low : ∀ c ∈ chars, c.toNat ≤ 127) :
    encodeAll chars = chars.map fun c => c.toNat.toUInt8 := by
  induction chars with
  | nil => rfl
  | cons c chars inductionHypothesis =>
    rw [Utf8.encodeAll_cons, Utf8.encode_one c (low c List.mem_cons_self),
      inductionHypothesis fun other member => low other (List.mem_cons_of_mem _ member),
      List.map_cons, List.singleton_append]

/-- Bytes of characters of one byte, read one by one. -/
theorem ofNat_toUInt8 (chars : List Char) (low : ∀ c ∈ chars, c.toNat ≤ 127) :
    (chars.map fun c => c.toNat.toUInt8).map (fun byte => Char.ofNat byte.toNat) = chars := by
  rw [List.map_map]
  refine (List.map_congr_left fun c member => ?_).trans (List.map_id chars)
  have bound := low c member
  simp only [Function.comp_apply, id_eq, Utf8.toNat_toUInt8 c.toNat (by omega), Char.ofNat_toNat]

/-- The digits are next to each other. -/
theorem digit_range (c : Char) (digit : c.isDigit = true) : 48 ≤ c.toNat ∧ c.toNat ≤ 57 :=
  Char.isDigit_iff_toNat.mp digit

/-- A printed integer has ASCII characters only. -/
theorem toString_ascii (value : Int) : ∀ c ∈ (toString value).toList, c.toNat ≤ 127 := by
  intro c member
  rcases Decimal.mem_toString value c member with rfl | digit
  · decide
  · have range := digit_range c digit
    omega

/-- A printed integer is the number it was. -/
theorem decimal_toString (value : Int) : decimal (bytes (toString value)) = value := by
  have whole := Decimal.value_toString value [] Decimal.ends_nil
  rw [List.append_nil] at whole
  rw [decimal, bytes, encodeAll_ascii _ (toString_ascii value),
    ofNat_toUInt8 _ (toString_ascii value), whole]

/-- The digits of a number do not begin with a zero, unless it is one. -/
theorem toDigits_whole (n : Nat) : Whole ((Nat.toDigits 10 n).map fun c => c.toNat.toUInt8) ∧
    (n ≠ 0 → ∃ first rest, Nat.toDigits 10 n = first :: rest ∧ first ≠ '0') := by
  have isDigits : ∀ chars : List Char, (∀ c ∈ chars, c.isDigit = true) →
      Digits (chars.map fun c => c.toNat.toUInt8) := by
    intro chars all byte member
    obtain ⟨c, inside, rfl⟩ := List.mem_map.mp member
    have range := digit_range c (all c inside)
    rw [isDigit, Utf8.toNat_toUInt8 _ (by omega), decide_eq_true_eq]
    exact range
  have leading : n ≠ 0 → ∃ first rest, Nat.toDigits 10 n = first :: rest ∧ first ≠ '0' := by
    induction n using Nat.strong_induction_on with
    | h n inductionHypothesis =>
      intro positive
      by_cases small : n < 10
      · refine ⟨n.digitChar, [], Nat.toDigits_of_lt_base small, ?_⟩
        have every : ∀ n < 10, n ≠ 0 → n.digitChar ≠ '0' := by decide
        exact every n small positive
      · obtain ⟨first, rest, shape, solid⟩ :=
          inductionHypothesis (n / 10) (by omega) (by omega)
        refine ⟨first, rest ++ [(n % 10).digitChar], ?_, solid⟩
        rw [Nat.toDigits_of_base_le (by decide) (by omega), shape, List.cons_append]
  refine ⟨?_, leading⟩
  by_cases zero : n = 0
  · subst zero
    exact Or.inl rfl
  · obtain ⟨first, rest, shape, solid⟩ := leading zero
    have all := Decimal.digits_toDigits n
    have every := isDigits _ all
    rw [shape, List.map_cons, digits_cons] at every
    rw [shape, List.map_cons]
    refine Or.inr ⟨_, _, rfl, every.1, ?_, every.2⟩
    intro same
    have range := digit_range first (all first (shape ▸ List.mem_cons_self))
    have code := congrArg UInt8.toNat same
    rw [Utf8.toNat_toUInt8 _ (by omega)] at code
    exact solid (Char.toNat_inj.mp code)

/-- A printed integer has a minus, if it needs one, and digits. -/
theorem bytes_toString (value : Int) : bytes (toString value) =
    if value < 0 then 0x2D :: (Nat.toDigits 10 value.natAbs).map (fun c => c.toNat.toUInt8)
    else (Nat.toDigits 10 value.natAbs).map fun c => c.toNat.toUInt8 := by
  rw [bytes, encodeAll_ascii _ (toString_ascii value), Decimal.toList_toString]
  split <;> rfl

/-- It is a number of the grammar. -/
theorem number_toString (value : Int) : Number (bytes (toString value)) := by
  obtain ⟨whole, _⟩ := toDigits_whole value.natAbs
  rw [bytes_toString]
  split
  · exact ⟨[0x2D], _, [], [], by simp, Or.inr rfl, whole, Or.inl rfl, Or.inl rfl⟩
  · exact ⟨[], _, [], [], by simp, Or.inl rfl, whole, Or.inl rfl, Or.inl rfl⟩

/-- It is signed when it is negative. -/
theorem numberType_toString (value : Int) : numberType (bytes (toString value)) =
    if value < 0 then .integer else .unsigned := by
  have digit : ∀ byte ∈ (Nat.toDigits 10 value.natAbs).map (fun c => c.toNat.toUInt8),
      isDigit byte = true := by
    intro byte member
    obtain ⟨c, inside, rfl⟩ := List.mem_map.mp member
    have range := digit_range c (Decimal.digits_toDigits _ c inside)
    rw [isDigit, Utf8.toNat_toUInt8 _ (by omega), decide_eq_true_eq]
    exact range
  have plain : ((Nat.toDigits 10 value.natAbs).map fun c => c.toNat.toUInt8).any
      (fun byte => byte = 0x2E ∨ isExponent byte) = false := by
    rw [List.any_eq_false]
    intro byte member
    obtain ⟨point, letter, _⟩ := digit_apart byte (digit byte member)
    simp [point, letter]
  rw [bytes_toString]
  split
  · rw [numberType, List.any_cons, plain]
    rfl
  · rw [numberType, plain, if_neg (by decide), if_neg]
    intro minus
    cases shape : Nat.toDigits 10 value.natAbs with
    | nil => exact Nat.toDigits_ne_nil shape
    | cons first rest =>
      rw [shape, List.map_cons] at minus
      have first := digit _ (by rw [shape, List.map_cons]; exact List.mem_cons_self)
      exact (digit_apart _ first).2.2 (Option.some.inj minus)

/-!
## Values
-/

section Values

variable {strtod : List UInt8 → Option (Int × String)}

/-- A printed integer that fits into 64 bits is read back. -/
theorem lexeme_integer (value : Int) (fits : -2 ^ 63 ≤ value ∧ value < 2 ^ 64) :
    ∃ token, Lexeme token (bytes (toString value)) ∧
      scalar strtod token = some (.integer value) := by
  refine ⟨_, Lexeme.number _ (number_toString value), ?_⟩
  rw [numberType_toString]
  split
  · rename_i negative
    rw [numberToken, decimal_toString, if_pos ⟨fits.1, by omega⟩]
    rfl
  · rw [numberToken, decimal_toString, if_pos fits.2]
    rfl

/-- So is a floating-point number whose conversions agree. -/
theorem lexeme_float (whole : Int) (text : String) (printed : ReadBack strtod whole text) :
    Lexeme (.valueFloat (bytes text)) (bytes text) ∧
      scalar strtod (.valueFloat (bytes text)) = some (.float whole text) := by
  obtain ⟨number, float, read⟩ := printed
  have lexeme := Lexeme.number _ number
  rw [float] at lexeme
  refine ⟨lexeme, ?_⟩
  rw [scalar, read]
  rfl

/-- A scalar without whitespace before it. -/
theorem writes_scalar (token : Token) (js : Json) (text : List UInt8) (lexeme : Lexeme token text)
    (single : scalar strtod token = some js) : Writes strtod (.value js) text :=
  Writes.scalar token js [] text (List.forall_mem_nil _) lexeme single

/-- The comma between items and members. -/
theorem bytes_comma : bytes "," = [0x2C] := rfl

/-- The colon of a member. -/
theorem bytes_colon : bytes ":" = [0x3A] := rfl

/-- Printed items are a text of them. -/
theorem writes_items (first : Json) (more : List Json)
    (each : ∀ item ∈ more, Writes strtod (.value item) (bytes (dump item))) :
    ∃ tail, Writes strtod (.items more) tail ∧
      bytes (dumpItems (first :: more)) ++ [0x5D] = bytes (dump first) ++ tail := by
  induction more generalizing first with
  | nil =>
    refine ⟨[0x5D], Writes.endItems [] (List.forall_mem_nil _), ?_⟩
    rw [dumpItems, dumpItems, List.isEmpty_nil, if_pos rfl, Utf8.bytes_append, Utf8.bytes_append,
      Utf8.bytes_empty, List.append_nil, List.append_nil]
  | cons second more inductionHypothesis =>
    obtain ⟨tail, writes, joined⟩ := inductionHypothesis second fun item member =>
      each item (List.mem_cons_of_mem _ member)
    refine ⟨0x2C :: (bytes (dump second) ++ tail), Writes.nextItem [] _ tail second more
      (List.forall_mem_nil _) (each second List.mem_cons_self) writes, ?_⟩
    rw [dumpItems, List.isEmpty_cons, if_neg (by decide), Utf8.bytes_append, Utf8.bytes_append,
      List.append_assoc, joined, List.append_assoc, bytes_comma]
    rfl

/-- The printed text of a member. -/
def memberText (key : String) (item : Json) : List UInt8 :=
  bytes (quote key) ++ 0x3A :: bytes (dump item)

/-- A printed member is a text of it. -/
theorem writes_member (key : String) (item : Json)
    (writes : Writes strtod (.value item) (bytes (dump item))) :
    Writes strtod (.member key item) (memberText key item) := by
  have text := Writes.member [] (bytes (quote key)) [] (bytes (dump item)) key item
    (List.forall_mem_nil _) (quoted_quote key) (List.forall_mem_nil _) writes
  rw [List.nil_append, List.nil_append] at text
  exact text

/-- Printed members are a text of them. -/
theorem writes_members (key : String) (first : Json) (more : List (String × Json))
    (each : ∀ member ∈ more, Writes strtod (.value member.2) (bytes (dump member.2))) :
    ∃ tail, Writes strtod (.members more) tail ∧
      bytes (dumpMembers ((key, first) :: more)) ++ [0x7D] = memberText key first ++ tail := by
  induction more generalizing key first with
  | nil =>
    refine ⟨[0x7D], Writes.endMembers [] (List.forall_mem_nil _), ?_⟩
    rw [dumpMembers, dumpMembers, List.isEmpty_nil, if_pos rfl]
    simp only [Utf8.bytes_append, memberText, List.append_assoc, bytes_colon, Utf8.bytes_empty,
      List.nil_append, List.cons_append]
  | cons second more inductionHypothesis =>
    obtain ⟨name, item⟩ := second
    obtain ⟨tail, writes, joined⟩ := inductionHypothesis name item fun member inside =>
      each member (List.mem_cons_of_mem _ inside)
    refine ⟨0x2C :: (memberText name item ++ tail), Writes.nextMember [] _ tail name item more
      (List.forall_mem_nil _) (writes_member name item (each (name, item) List.mem_cons_self))
      writes, ?_⟩
    rw [dumpMembers, List.isEmpty_cons, if_neg (by decide)]
    simp only [Utf8.bytes_append, memberText, List.append_assoc, bytes_colon, bytes_comma,
      List.nil_append, List.cons_append] at joined ⊢
    rw [joined]

/-- The printed text of a value is one of its texts. -/
theorem writes_dump (js : Json) (stable : Stable (ReadBack strtod) js) :
    Writes strtod (.value js) (bytes (dump js)) := by
  induction stable with
  | null => exact writes_scalar .literalNull _ _ (Lexeme.word _ 0x6E _ rfl) rfl
  | boolean value =>
    cases value
    · exact writes_scalar .literalFalse _ _ (Lexeme.word _ 0x66 _ rfl) rfl
    · exact writes_scalar .literalTrue _ _ (Lexeme.word _ 0x74 _ rfl) rfl
  | integer value fits =>
    obtain ⟨token, lexeme, single⟩ := lexeme_integer value fits
    exact writes_scalar token _ _ lexeme single
  | float whole text printed =>
    obtain ⟨lexeme, single⟩ := lexeme_float whole text printed
    exact writes_scalar _ _ _ lexeme single
  | string value =>
    exact writes_scalar (.valueString value) _ _ (Lexeme.string value _ (quoted_quote value)) rfl
  | array items _ each =>
    cases items with
    | nil =>
      exact Writes.emptyArray [] [] (List.forall_mem_nil _) (List.forall_mem_nil _)
    | cons first more =>
      obtain ⟨tail, later, joined⟩ := writes_items first more fun item member =>
        each item (List.mem_cons_of_mem _ member)
      have writes := Writes.array [] _ tail first more (List.forall_mem_nil _)
        (each first List.mem_cons_self) later
      have opened : bytes "[" = [0x5B] := rfl
      have closed : bytes "]" = [0x5D] := rfl
      rw [← joined, List.nil_append] at writes
      rw [dump, Utf8.bytes_append, Utf8.bytes_append, List.append_assoc, opened, closed,
        List.singleton_append]
      exact writes
  | object members sorted _ each =>
    cases members with
    | nil =>
      exact Writes.emptyObject [] [] (List.forall_mem_nil _) (List.forall_mem_nil _)
    | cons member more =>
      obtain ⟨key, first⟩ := member
      obtain ⟨tail, later, joined⟩ := writes_members key first more fun member inside =>
        each member (List.mem_cons_of_mem _ inside)
      have writes := Writes.object [] _ tail key first more (List.forall_mem_nil _)
        (writes_member key first (each (key, first) List.mem_cons_self)) later
      have opened : bytes "\x7b" = [0x7B] := rfl
      have closed : bytes "\x7d" = [0x7D] := rfl
      have ordered : assigned [] ((key, first) :: more) = (key, first) :: more :=
        assigned_sorted [] ((key, first) :: more) sorted
      rw [← joined, ordered, List.nil_append] at writes
      rw [dump, Utf8.bytes_append, Utf8.bytes_append, List.append_assoc, opened, closed,
        List.singleton_append]
      exact writes

/-- The end of the input is an end. -/
theorem finished_nil : Finished [] := ⟨[], [], List.forall_mem_nil _, rfl, Or.inl rfl⟩

/-- What is printed is read back. -/
theorem parse_dump (js : Json) (stable : Stable (ReadBack strtod) js) :
    parse strtod (bytes (dump js)) = some js := by
  rw [parse_iff]
  refine ⟨[], bytes (dump js), [], ?_, Or.inl rfl, writes_dump js stable, finished_nil⟩
  rw [List.nil_append, List.append_nil]

/-- A conversion whose results are printed so that it reads them back. -/
def Prints (strtod : List UInt8 → Option (Int × String)) : Prop :=
  ∀ text whole printed, strtod text = some (whole, printed) → ReadBack strtod whole printed

/-- What every part of a text stands for. -/
def StablePart (float : Int → String → Prop) : Phrase → Prop
  | .value js => Stable float js
  | .member _ js => Stable float js
  | .items more => ∀ item ∈ more, Stable float item
  | .members more => ∀ member ∈ more, Stable float member.2

/-- A number without a sign is not negative. -/
theorem decimal_unsigned (text : List UInt8) (number : Number text)
    (unsigned : numberType text = .unsigned) : 0 ≤ decimal text := by
  cases text with
  | nil => exact le_refl 0
  | cons byte text =>
    have digit : isDigit byte = true := by
      rcases number_first byte text number with minus | digit
      · rw [minus, numberType] at unsigned
        split at unsigned
        · cases unsigned
        · rw [if_pos (by simp)] at unsigned
          cases unsigned
      · exact digit
    have range : 48 ≤ byte.toNat ∧ byte.toNat ≤ 57 := by
      rw [isDigit, decide_eq_true_eq] at digit
      exact digit
    have code := Utf8.toNat_ofNat byte.toNat (by omega)
    have plain : (Char.ofNat byte.toNat).isDigit = true := by
      rw [Char.isDigit_iff_toNat, code]
      exact range
    rw [decimal, List.map_cons, Decimal.read_unsigned _ _ (Decimal.digit_unsigned _ plain)]
    exact Int.natCast_nonneg _

/-- The integer of a token fits 64 bits. -/
theorem numberToken_fits (text : List UInt8) (number : Number text) (value : Int)
    (single : scalar strtod (numberToken (numberType text) text) = some (.integer value)) :
    value = decimal text ∧ -2 ^ 63 ≤ value ∧ value < 2 ^ 64 := by
  cases shape : numberType text with
  | unsigned =>
    have positive := decimal_unsigned text number shape
    rw [shape, numberToken] at single
    split at single
    · cases single
      exact ⟨rfl, by omega, ‹_›⟩
    · obtain ⟨_, _, impossible⟩ := Option.map_eq_some_iff.mp single
      cases impossible
  | integer =>
    rw [shape, numberToken] at single
    split at single
    · rename_i fits
      cases single
      exact ⟨rfl, fits.1, by omega⟩
    · obtain ⟨_, _, impossible⟩ := Option.map_eq_some_iff.mp single
      cases impossible
  | float =>
    rw [shape, numberToken] at single
    obtain ⟨_, _, impossible⟩ := Option.map_eq_some_iff.mp single
    cases impossible

/-- A floating-point number comes from its conversion. -/
theorem scalar_float (token : Token) (whole : Int) (printed : String)
    (single : scalar strtod token = some (.float whole printed)) :
    ∃ text, strtod text = some (whole, printed) := by
  cases token with
  | valueFloat text =>
    obtain ⟨⟨number, shown⟩, read, ended⟩ := Option.map_eq_some_iff.mp single
    cases ended
    exact ⟨text, read⟩
  | _ => cases single

/-- Only the tokens of numbers stand for integers. -/
theorem scalar_integer (token : Token) (value : Int)
    (single : scalar strtod token = some (.integer value)) : token.isNumber = true := by
  cases token <;> first | rfl | cases single

/-- A token that is a number is the one its text makes. -/
theorem lexeme_isNumber (token : Token) (text : List UInt8) (lexeme : Lexeme token text)
    (number : token.isNumber = true) :
    Number text ∧ token = numberToken (numberType text) text := by
  cases lexeme with
  | mark _ byte single more =>
    rw [mark_apart token byte (punctuation_mark byte token single more)] at number
    cases number
  | word _ byte letters named =>
    unfold literal at named
    split_ifs at named <;> cases named <;> cases number
  | string value text quoted => cases number
  | number text whole => exact ⟨whole, rfl⟩

/-- A value of one token is read back after it is printed. -/
theorem stable_scalar (prints : Prints strtod) (token : Token) (js : Json) (text : List UInt8)
    (lexeme : Lexeme token text) (single : scalar strtod token = some js) :
    Stable (ReadBack strtod) js := by
  cases js with
  | null => exact Stable.null
  | boolean value => exact Stable.boolean value
  | integer value =>
    obtain ⟨number, rfl⟩ := lexeme_isNumber token text lexeme (scalar_integer token value single)
    exact Stable.integer value (numberToken_fits text number value single).2
  | float whole printed =>
    obtain ⟨source, read⟩ := scalar_float token whole printed single
    exact Stable.float whole printed (prints source whole printed read)
  | string value => exact Stable.string value
  | array items => exact absurd single (scalar_flat token _ (Or.inl ⟨items, rfl⟩))
  | object members => exact absurd single (scalar_flat token _ (Or.inr ⟨members, rfl⟩))

/-- So is every value the grammar has a text of, and every part of one. -/
theorem stable_of_writes (prints : Prints strtod) (part : Phrase) (text : List UInt8)
    (writes : Writes strtod part text) : StablePart (ReadBack strtod) part := by
  induction writes with
  | scalar token js gap text blank lexeme single =>
    exact stable_scalar prints token js text lexeme single
  | emptyArray gap inner blank hollow => exact Stable.array [] (List.forall_mem_nil _)
  | array gap text tail first more blank _ _ head later =>
    exact Stable.array _ (List.forall_mem_cons.mpr ⟨head, later⟩)
  | emptyObject gap inner blank hollow =>
    exact Stable.object [] List.Pairwise.nil (List.forall_mem_nil _)
  | object gap text tail key first more blank _ _ head later =>
    exact assigned_stable _ [] _ (Stable.object [] List.Pairwise.nil (List.forall_mem_nil _))
      (List.forall_mem_cons.mpr ⟨head, later⟩)
  | member before name behind text key js blank quoted spaced _ value => exact value
  | endItems gap blank => exact List.forall_mem_nil _
  | nextItem gap text tail first more blank _ _ head later =>
    exact List.forall_mem_cons.mpr ⟨head, later⟩
  | endMembers gap blank => exact List.forall_mem_nil _
  | nextMember gap text tail key first more blank _ _ head later =>
    exact List.forall_mem_cons.mpr ⟨head, later⟩

end Values

end ClusterChat.Json
