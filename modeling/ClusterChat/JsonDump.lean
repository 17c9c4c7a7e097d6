import ClusterChat.JsonStrings

/-!
# What `dump` refuses

A string of a JSON value is a sequence of bytes, and `dump_escaped` decodes it while it
writes: a table gives every byte a class, and every state and class the next state. A byte
that goes on with no character, and a string that ends inside one, are errors, and with the
default error handler an error is an exception.

`dumpEscaped_iff` says that exactly the bytes of texts are written. A state inside a
character owes bytes in certain ranges (`Owes`), which are those the scanner of the parser
asks for behind the first byte. The code point that `decode` collects on the way decides
only how it is written, which is `Json.escape`.
-/

namespace ClusterChat.Json.Serializer

open Lexer (Within ranges nextByteInRange)
open Utf8 (encode encodeAll)

/-- The table of `decode`: the classes of the bytes, then a row of next states for every
state. -/
def utf8d : List Nat :=
  [0, 0, 0, 0, 0, 0, 0, 0, 0, 0, 0, 0, 0, 0, 0, 0, 0, 0, 0, 0, 0, 0, 0, 0, 0, 0, 0, 0, 0, 0, 0, 0,
  0, 0, 0, 0, 0, 0, 0, 0, 0, 0, 0, 0, 0, 0, 0, 0, 0, 0, 0, 0, 0, 0, 0, 0, 0, 0, 0, 0, 0, 0, 0, 0,
  0, 0, 0, 0, 0, 0, 0, 0, 0, 0, 0, 0, 0, 0, 0, 0, 0, 0, 0, 0, 0, 0, 0, 0, 0, 0, 0, 0, 0, 0, 0, 0,
  0, 0, 0, 0, 0, 0, 0, 0, 0, 0, 0, 0, 0, 0, 0, 0, 0, 0, 0, 0, 0, 0, 0, 0, 0, 0, 0, 0, 0, 0, 0, 0,
  1, 1, 1, 1, 1, 1, 1, 1, 1, 1, 1, 1, 1, 1, 1, 1, 9, 9, 9, 9, 9, 9, 9, 9, 9, 9, 9, 9, 9, 9, 9, 9,
  7, 7, 7, 7, 7, 7, 7, 7, 7, 7, 7, 7, 7, 7, 7, 7, 7, 7, 7, 7, 7, 7, 7, 7, 7, 7, 7, 7, 7, 7, 7, 7,
  8, 8, 2, 2, 2, 2, 2, 2, 2, 2, 2, 2, 2, 2, 2, 2, 2, 2, 2, 2, 2, 2, 2, 2, 2, 2, 2, 2, 2, 2, 2, 2,
  0xA, 0x3, 0x3, 0x3, 0x3, 0x3, 0x3, 0x3, 0x3, 0x3, 0x3, 0x3, 0x3, 0x4, 0x3, 0x3,
  0xB, 0x6, 0x6, 0x6, 0x5, 0x8, 0x8, 0x8, 0x8, 0x8, 0x8, 0x8, 0x8, 0x8, 0x8, 0x8,
  0x0, 0x1, 0x2, 0x3, 0x5, 0x8, 0x7, 0x1, 0x1, 0x1, 0x4, 0x6, 0x1, 0x1, 0x1, 0x1,
  1, 1, 1, 1, 1, 1, 1, 1, 1, 1, 1, 1, 1, 1, 1, 1, 1, 0, 1, 1, 1, 1, 1, 0, 1, 0, 1, 1, 1, 1, 1, 1,
  1, 2, 1, 1, 1, 1, 1, 2, 1, 2, 1, 1, 1, 1, 1, 1, 1, 1, 1, 1, 1, 1, 1, 2, 1, 1, 1, 1, 1, 1, 1, 1,
  1, 2, 1, 1, 1, 1, 1, 1, 1, 2, 1, 1, 1, 1, 1, 1, 1, 1, 1, 1, 1, 1, 1, 3, 1, 3, 1, 1, 1, 1, 1, 1,
  1, 3, 1, 1, 1, 1, 1, 3, 1, 3, 1, 1, 1, 1, 1, 1, 1, 3, 1, 1, 1, 1, 1, 1, 1, 1, 1, 1, 1, 1, 1, 1]

/-- The state between two characters. -/
def UTF8_ACCEPT : Nat := 0

/-- The state from which `dump_escaped` throws. -/
def UTF8_REJECT : Nat := 1

/-- The next state of `decode`. The index lies in the table for every state that occurs. -/
def decode (state : Nat) (byte : UInt8) : Nat :=
  utf8d.getD (256 + state * 16 + utf8d.getD byte.toNat 0) UTF8_REJECT

/-- The loop of `dump_escaped` and the test behind it. It comes to its end, or throws the
type error 316 of a string that is not UTF-8. -/
def dumpEscaped (state : Nat) : List UInt8 → Bool
  | [] => state = UTF8_ACCEPT
  | byte :: rest =>
      decode state byte ≠ UTF8_REJECT ∧ dumpEscaped (decode state byte) rest = true

/-!
## What a state owes
-/

/-- The states inside a character: the range of the next byte, and the state behind it. -/
def pending : List (Nat × (Nat × Nat) × Nat) :=
  [(2, (0x80, 0xBF), 0), (3, (0x80, 0xBF), 2), (4, (0xA0, 0xBF), 2), (5, (0x80, 0x9F), 2),
    (6, (0x90, 0xBF), 3), (7, (0x80, 0xBF), 3), (8, (0x80, 0x8F), 3)]

/-- The ranges of the bytes that lead from a state to the end of a character. -/
inductive Owes : Nat → List (Nat × Nat) → Prop
  | nothing : Owes UTF8_ACCEPT []
  | next (state : Nat) (bound : Nat × Nat) (after : Nat) (bounds : List (Nat × Nat))
      (row : (state, bound, after) ∈ pending) (later : Owes after bounds) :
      Owes state (bound :: bounds)

/-- The states behind a first byte, and the ranges the parser asks for there. -/
def begun : List (Nat × List (Nat × Nat)) :=
  [(2, [(0x80, 0xBF)]), (3, [(0x80, 0xBF), (0x80, 0xBF)]), (4, [(0xA0, 0xBF), (0x80, 0xBF)]),
    (5, [(0x80, 0x9F), (0x80, 0xBF)]), (6, [(0x90, 0xBF), (0x80, 0xBF), (0x80, 0xBF)]),
    (7, [(0x80, 0xBF), (0x80, 0xBF), (0x80, 0xBF)]),
    (8, [(0x80, 0x8F), (0x80, 0xBF), (0x80, 0xBF)])]

/-- A state behind a first byte owes the ranges listed for it. -/
theorem owes_begun (state : Nat) (bounds : List (Nat × Nat))
    (listed : begun.lookup state = some bounds) : Owes state bounds := by
  have one : ∀ state, (state, (0x80, 0xBF), 0) ∈ pending → Owes state [(0x80, 0xBF)] :=
    fun state row => Owes.next _ _ _ _ row Owes.nothing
  have last : Owes 2 [(0x80, 0xBF)] := one 2 (by decide)
  have two : Owes 3 [(0x80, 0xBF), (0x80, 0xBF)] := Owes.next _ _ 2 _ (by decide) last
  obtain ⟨before, after, entries, _⟩ := List.lookup_eq_some_iff.mp listed
  have member : (state, bounds) ∈ before ++ (state, bounds) :: after :=
    List.mem_append_right _ List.mem_cons_self
  rw [← entries] at member
  simp only [begun, List.mem_cons, Prod.mk.injEq, List.not_mem_nil, or_false] at member
  rcases member with ⟨rfl, rfl⟩ | ⟨rfl, rfl⟩ | ⟨rfl, rfl⟩ | ⟨rfl, rfl⟩ | ⟨rfl, rfl⟩ | ⟨rfl, rfl⟩ |
    ⟨rfl, rfl⟩
  · exact last
  · exact two
  · exact Owes.next _ _ 2 _ (by decide) last
  · exact Owes.next _ _ 2 _ (by decide) last
  · exact Owes.next _ _ 3 _ (by decide) two
  · exact Owes.next _ _ 3 _ (by decide) two
  · exact Owes.next _ _ 3 _ (by decide) two

/-!
## The table
-/

/-- The classes of the bytes, by range. -/
def classes : List ((Nat × Nat) × Nat) :=
  [((0x00, 0x7F), 0), ((0x80, 0x8F), 1), ((0x90, 0x9F), 9), ((0xA0, 0xBF), 7), ((0xC0, 0xC1), 8),
    ((0xC2, 0xDF), 2), ((0xE0, 0xE0), 0xA), ((0xE1, 0xEC), 3), ((0xED, 0xED), 4),
    ((0xEE, 0xEF), 3), ((0xF0, 0xF0), 0xB), ((0xF1, 0xF3), 6), ((0xF4, 0xF4), 5),
    ((0xF5, 0xFF), 8)]

/-- The first part of the table gives every byte the class of its range. -/
theorem classes_listed : ∀ entry ∈ (utf8d.take 256).zipIdx, ∃ part ∈ classes,
    (part.1.1 ≤ entry.2 ∧ entry.2 ≤ part.1.2) ∧ entry.1 = part.2 := by decide +kernel

/-- A state inside a character goes on with the bytes in its range and no others. -/
theorem pending_classes : ∀ row ∈ pending, ∀ part ∈ classes,
    ((row.2.1.1 ≤ part.1.1 ∧ part.1.2 ≤ row.2.1.2) ∧
      utf8d.getD (256 + row.1 * 16 + part.2) UTF8_REJECT = row.2.2 ∧ row.2.2 ≠ UTF8_REJECT) ∨
    ((part.1.2 < row.2.1.1 ∨ row.2.1.2 < part.1.1) ∧
      utf8d.getD (256 + row.1 * 16 + part.2) UTF8_REJECT = UTF8_REJECT) := by decide +kernel

/-- Between characters the table accepts the bytes that are characters, and of the others
it refuses those that lead to no listed state. -/
theorem first_classes : ∀ part ∈ classes,
    (part.1.2 ≤ 127 ∧
      utf8d.getD (256 + UTF8_ACCEPT * 16 + part.2) UTF8_REJECT = UTF8_ACCEPT) ∨
    (127 < part.1.1 ∧
      (begun.lookup (utf8d.getD (256 + UTF8_ACCEPT * 16 + part.2) UTF8_REJECT) = none →
        utf8d.getD (256 + UTF8_ACCEPT * 16 + part.2) UTF8_REJECT = UTF8_REJECT)) := by
  decide +kernel

/-- Of the other bytes it goes on with those that the parser goes on with. -/
theorem first_ranges : ∀ part ∈ classes, ∀ n < 256, (127 < n ∧ part.1.1 ≤ n ∧ n ≤ part.1.2) →
    ranges n.toUInt8 =
      begun.lookup (utf8d.getD (256 + UTF8_ACCEPT * 16 + part.2) UTF8_REJECT) := by
  decide +kernel

/-- Every byte lies in the range of its class. -/
theorem class_within (byte : UInt8) : ∃ part ∈ classes, Within byte part.1 ∧
    ∀ state, decode state byte = utf8d.getD (256 + state * 16 + part.2) UTF8_REJECT := by
  have inside : byte.toNat < 256 := byte.toNat_lt
  have size : utf8d.length = 400 := by decide +kernel
  have long : byte.toNat < utf8d.length := by omega
  have entry : (utf8d[byte.toNat], byte.toNat) ∈ (utf8d.take 256).zipIdx := by
    rw [List.mem_zipIdx_iff_getElem?, List.getElem?_take, if_pos inside]
    exact List.getElem?_eq_getElem long
  obtain ⟨part, listed, within, same⟩ := classes_listed _ entry
  refine ⟨part, listed, within, fun state => ?_⟩
  have found : utf8d.getD byte.toNat 0 = part.2 := by
    rw [List.getD_eq_getElem?_getD, List.getElem?_eq_getElem long]
    exact same
  rw [decode, found]

/-- Inside a character, a byte of the range it owes goes on. -/
theorem decode_within (row : Nat × (Nat × Nat) × Nat) (byte : UInt8) (listed : row ∈ pending)
    (inside : Within byte row.2.1) : decode row.1 byte = row.2.2 ∧ row.2.2 ≠ UTF8_REJECT := by
  obtain ⟨part, known, within, decoded⟩ := class_within byte
  rcases pending_classes row listed part known with ⟨_, next⟩ | ⟨apart, _⟩
  · exact ⟨(decoded _).trans next.1, next.2⟩
  · omega

/-- Any other byte is rejected. -/
theorem decode_outside (row : Nat × (Nat × Nat) × Nat) (byte : UInt8) (listed : row ∈ pending)
    (outside : ¬ Within byte row.2.1) : decode row.1 byte = UTF8_REJECT := by
  obtain ⟨part, known, within, decoded⟩ := class_within byte
  rcases pending_classes row listed part known with ⟨whole, _⟩ | ⟨_, next⟩
  · omega
  · exact (decoded _).trans next

/-- A byte of ASCII is accepted as it is. -/
theorem decode_low (byte : UInt8) (low : byte.toNat ≤ 127) :
    decode UTF8_ACCEPT byte = UTF8_ACCEPT := by
  obtain ⟨part, known, within, decoded⟩ := class_within byte
  rcases first_classes part known with ⟨_, next⟩ | above
  · exact (decoded _).trans next
  · omega

/-- A byte above it that begins nothing is rejected. -/
theorem decode_unlisted (byte : UInt8) (above : 127 < byte.toNat)
    (unlisted : begun.lookup (decode UTF8_ACCEPT byte) = none) :
    decode UTF8_ACCEPT byte = UTF8_REJECT := by
  obtain ⟨part, known, within, decoded⟩ := class_within byte
  rw [decoded] at unlisted ⊢
  rcases first_classes part known with ⟨low, _⟩ | ⟨_, next⟩
  · omega
  · exact next unlisted

/-- Between characters the table goes on with the bytes that the parser goes on with, and owes
the ranges the parser asks for. -/
theorem ranges_decode (byte : UInt8) (above : 127 < byte.toNat) :
    ranges byte = begun.lookup (decode UTF8_ACCEPT byte) := by
  obtain ⟨part, known, within, decoded⟩ := class_within byte
  have same : byte.toNat.toUInt8 = byte := Utf8.toUInt8_eq _ byte rfl
  have asked := first_ranges part known byte.toNat byte.toNat_lt ⟨above, within⟩
  rw [same] at asked
  rw [asked, decoded]

/-!
## Whole strings
-/

/-- A string is accepted if its first byte is not rejected and the rest is accepted from
there. -/
theorem dumpEscaped_cons (state : Nat) (byte : UInt8) (rest : List UInt8) :
    dumpEscaped state (byte :: rest) = true ↔
      decode state byte ≠ UTF8_REJECT ∧ dumpEscaped (decode state byte) rest = true := by
  rw [dumpEscaped, decide_eq_true_iff]

/-- From a state inside a character a string is written when it goes on with the bytes the
state owes, and what follows is written. -/
theorem dumpEscaped_owes (state : Nat) (bounds : List (Nat × Nat)) (content : List UInt8)
    (owes : Owes state bounds) : dumpEscaped state content = true ↔
      ∃ added rest, nextByteInRange bounds content = some (added, rest) ∧
        dumpEscaped UTF8_ACCEPT rest = true := by
  induction owes generalizing content with
  | nothing => simp [nextByteInRange]
  | next state bound after bounds row later inductionHypothesis =>
    have inside : ∀ row ∈ pending, row.1 ≠ UTF8_ACCEPT := by decide
    cases content with
    | nil => simp [nextByteInRange, dumpEscaped, inside _ row]
    | cons byte content =>
      rw [dumpEscaped_cons, nextByteInRange]
      by_cases within : Within byte bound
      · obtain ⟨decoded, kept⟩ := decode_within _ byte row within
        rw [decoded, inductionHypothesis content, if_pos within]
        constructor
        · rintro ⟨_, added, rest, read, written⟩
          exact ⟨byte :: added, rest, by rw [read]; rfl, written⟩
        · rintro ⟨added, rest, read, written⟩
          obtain ⟨⟨others, left⟩, first, same⟩ := Option.map_eq_some_iff.mp read
          cases same
          exact ⟨kept, others, rest, first, written⟩
      · have rejected := decode_outside _ byte row within
        rw [if_neg within]
        refine iff_of_false (fun kept => kept.1 rejected) ?_
        rintro ⟨_, _, read, _⟩
        cases read

/-- Bytes of ASCII make no difference. -/
theorem dumpEscaped_low (byte : UInt8) (rest : List UInt8) (low : byte.toNat ≤ 127) :
    dumpEscaped UTF8_ACCEPT (byte :: rest) = true ↔ dumpEscaped UTF8_ACCEPT rest = true := by
  rw [dumpEscaped_cons, decode_low byte low]
  exact and_iff_right (by decide)

/-- Behind a first byte the serializer asks for what the parser asks for. -/
theorem dumpEscaped_above (byte : UInt8) (rest : List UInt8) (above : 127 < byte.toNat) :
    dumpEscaped UTF8_ACCEPT (byte :: rest) = true ↔
      ∃ bounds added left, ranges byte = some bounds ∧
        nextByteInRange bounds rest = some (added, left) ∧
        dumpEscaped UTF8_ACCEPT left = true := by
  rw [dumpEscaped_cons, ranges_decode byte above]
  cases listed : begun.lookup (decode UTF8_ACCEPT byte) with
  | none =>
    refine iff_of_false (fun kept => kept.1 (decode_unlisted byte above listed)) ?_
    rintro ⟨_, _, _, impossible, _⟩
    cases impossible
  | some bounds =>
    rw [dumpEscaped_owes _ bounds rest (owes_begun _ bounds listed)]
    constructor
    · rintro ⟨_, added, left, read, written⟩
      exact ⟨bounds, added, left, rfl, read, written⟩
    · rintro ⟨_, added, left, same, read, written⟩
      cases same
      refine ⟨?_, added, left, read, written⟩
      intro rejected
      rw [rejected] at listed
      cases listed

/-- One character is written and leaves the decoder between characters. -/
theorem dumpEscaped_encode (c : Char) (rest : List UInt8) :
    dumpEscaped UTF8_ACCEPT (encode c ++ rest) = true ↔ dumpEscaped UTF8_ACCEPT rest = true := by
  have sequence := Utf8.sequence_encode c
  generalize encode c = content at sequence
  cases content with
  | nil => cases sequence
  | cons byte behind =>
    rw [List.cons_append]
    by_cases low : byte.toNat ≤ 127
    · have alone : behind = [] := by cases sequence <;> first | rfl | omega
      rw [alone, List.nil_append, dumpEscaped_low byte rest low]
    · obtain ⟨bounds, asked, admitted⟩ :=
        Lexer.ranges_of_sequence byte behind (by omega) sequence
      have read := (Lexer.nextByteInRange_forall bounds (behind ++ rest) rest behind).mpr
        ⟨rfl, admitted⟩
      rw [dumpEscaped_above byte _ (by omega)]
      constructor
      · rintro ⟨_, added, left, same, taken, written⟩
        rw [asked] at same
        cases same
        rw [read] at taken
        cases taken
        exact written
      · exact fun written => ⟨bounds, behind, rest, asked, read, written⟩

/-- A string that is written begins with a character. -/
theorem dumpEscaped_split (byte : UInt8) (rest : List UInt8)
    (written : dumpEscaped UTF8_ACCEPT (byte :: rest) = true) :
    ∃ c left, byte :: rest = encode c ++ left ∧ dumpEscaped UTF8_ACCEPT left = true := by
  by_cases low : byte.toNat ≤ 127
  · obtain ⟨c, same⟩ := Utf8.encoded_of_sequence [byte] (Utf8.Sequence.one byte low)
    exact ⟨c, rest, by rw [same]; rfl, (dumpEscaped_low byte rest low).mp written⟩
  · obtain ⟨bounds, added, left, asked, read, later⟩ :=
      (dumpEscaped_above byte rest (by omega)).mp written
    obtain ⟨rfl, admitted⟩ := (Lexer.nextByteInRange_forall bounds rest left added).mp read
    obtain ⟨c, same⟩ := Utf8.encoded_of_sequence (byte :: added)
      (Lexer.sequence_of_ranges byte added bounds asked admitted).2
    exact ⟨c, left, by rw [same]; rfl, later⟩

/-- `dump` writes exactly the strings that are the bytes of a text. -/
theorem dumpEscaped_iff (content : List UInt8) :
    dumpEscaped UTF8_ACCEPT content = true ↔ ∃ chars, encodeAll chars = content := by
  constructor
  · intro written
    induction size : content.length using Nat.strong_induction_on generalizing content with
    | _ length inductionHypothesis =>
      cases content with
      | nil => exact ⟨[], rfl⟩
      | cons byte rest =>
        obtain ⟨c, left, split, later⟩ := dumpEscaped_split byte rest written
        have inhabited : 0 < (encode c).length := by
          rw [String.length_utf8EncodeChar]
          exact c.utf8Size_pos
        have shorter : left.length < length := by
          rw [← size, split, List.length_append]
          omega
        obtain ⟨chars, same⟩ := inductionHypothesis left.length shorter left later rfl
        exact ⟨c :: chars, by rw [Utf8.encodeAll_cons, same, split]⟩
  · rintro ⟨chars, rfl⟩
    induction chars with
    | nil => rfl
    | cons c chars inductionHypothesis =>
      rw [Utf8.encodeAll_cons]
      exact (dumpEscaped_encode c _).mpr inductionHypothesis

/-!
## Values
-/

/-- A string of the program, whose `char`s are bytes, is written. -/
def dumpableString (str : String) : Bool := dumpEscaped UTF8_ACCEPT (Utf8.ofOctets str.toList)

mutual

/-- `dump` comes to its end on a value whose strings hold bytes. Otherwise it throws. -/
def dumpable : Json → Bool
  | .string value => dumpableString value
  | .array items => dumpableItems items
  | .object members => dumpableMembers members
  | _ => true

/-- The items of an array. -/
def dumpableItems : List Json → Bool
  | [] => true
  | item :: rest => dumpable item && dumpableItems rest

/-- The members of an object, with their keys. -/
def dumpableMembers : List (String × Json) → Bool
  | [] => true
  | (key, item) :: rest => dumpableString key && dumpable item && dumpableMembers rest

end

/-- A string of bytes can be dumped if and only if it is UTF-8. -/
theorem dumpableString_iff (str : List Char) :
    dumpableString (String.ofList str) = true ↔ Utf8.IsText str := by
  rw [dumpableString, String.toList_ofList, dumpEscaped_iff, Utf8.isText_iff]

/-- A number can be dumped. -/
@[simp] theorem dumpable_integer (value : Int) : dumpable (.integer value) = true := rfl

/-- Every string of ASCII characters is written. -/
theorem dumpableString_ascii (str : String) (ascii : str.toList.all (·.toNat ≤ 127) = true) :
    dumpableString str = true := by
  have low : ∀ c ∈ str.toList, c.toNat ≤ 127 := by simpa using ascii
  rw [dumpableString, Utf8.ofOctets]
  generalize str.toList = chars at low
  induction chars with
  | nil => rfl
  | cons c chars inductionHypothesis =>
    obtain ⟨first, others⟩ := List.forall_mem_cons.mp low
    have small : c.toNat.toUInt8.toNat ≤ 127 := by rwa [Utf8.toNat_toUInt8 _ (by omega)]
    exact (dumpEscaped_low _ _ small).mpr (inductionHypothesis others)

/-- A member of a new key adds its key and its value to what is written. -/
theorem dumpable_insert (key : String) (value : Json) (members : List (String × Json))
    (fresh : members.lookup key = none) : dumpableMembers (insertMember key value members) =
      (dumpableString key && dumpable value && dumpableMembers members) := by
  induction members with
  | nil => rfl
  | cons member rest inductionHypothesis =>
    obtain ⟨other, item⟩ := member
    rw [lookup_cons] at fresh
    by_cases same : key = other
    · rw [if_pos same] at fresh
      cases fresh
    · rw [if_neg same] at fresh
      rw [insertMember, if_neg same]
      by_cases before : key < other
      · rw [if_pos before]
        simp only [dumpableMembers]
      · rw [if_neg before, dumpableMembers, dumpableMembers, inductionHypothesis fresh]
        ac_rfl

/-- An object of one member can be dumped if its key and its value can. -/
@[simp] theorem dumpable_set_null (key : String) (value : Json) :
    dumpable (Json.null.set key value) = (dumpableString key && dumpable value) :=
  Bool.and_true _

/-- A new member adds its own condition. -/
theorem dumpable_set_set (js : Json) (key other : String) (item value : Json)
    (fresh : (js.set other item).contains key = false) :
    dumpable ((js.set other item).set key value) =
      (dumpableString key && dumpable value && dumpable (js.set other item)) := by
  have made : ∃ members, js.set other item = .object members := by
    cases js <;> exact ⟨_, rfl⟩
  obtain ⟨members, made⟩ := made
  rw [made, contains, Option.isSome_eq_false_iff, Option.isNone_iff_eq_none] at fresh
  rw [made]
  exact dumpable_insert key value members fresh

end ClusterChat.Json.Serializer
