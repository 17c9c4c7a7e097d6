import ClusterChat.Json
import ClusterChat.Library.Decimal
import ClusterChat.Library.Utf8

/-!
# The tokens of a JSON text

`lexer::scan` of the JSON library, byte by byte. The functions return what is left of
the input behind what they read. They return nothing where the library makes a
`parse_error` token: every caller of `get_token` gives up then, so what is left is not
kept, and neither are the position and the message that only the exception carries.

`get` and `unget` are the front of the input. A number is scanned by the labels of the
library's automaton, with the integer conversions of the C library. A floating-point
number keeps its text, since the conversion is left to the parser.

Only what a token leaves of the input is said here, and nothing about which texts are
scanned.
-/

namespace ClusterChat.Json.Lexer

/-- `token_type`, with the value the lexer holds for it. -/
inductive Token where
  | literalTrue
  | literalFalse
  | literalNull
  | valueString (text : String)
  | valueUnsigned (value : Int)
  | valueInteger (value : Int)
  | valueFloat (text : List UInt8)
  | beginArray
  | beginObject
  | endArray
  | endObject
  | nameSeparator
  | valueSeparator
  | endOfInput
deriving DecidableEq

/-!
## Strings
-/

/-- The value `get_codepoint` adds for one digit, before the shift. -/
def hexValue (byte : UInt8) : Option Nat :=
  if 0x30 ≤ byte.toNat ∧ byte.toNat ≤ 0x39 then some (byte.toNat - 0x30)
  else if 0x41 ≤ byte.toNat ∧ byte.toNat ≤ 0x46 then some (byte.toNat - 0x37)
  else if 0x61 ≤ byte.toNat ∧ byte.toNat ≤ 0x66 then some (byte.toNat - 0x57)
  else none

/-- `get_codepoint`: the four hexadecimal digits of an escape. -/
def getCodepoint : List UInt8 → Option (Nat × List UInt8)
  | a :: b :: c :: d :: rest => do
      let a ← hexValue a
      let b ← hexValue b
      let c ← hexValue c
      let d ← hexValue d
      some (a <<< 12 + b <<< 8 + c <<< 4 + d, rest)
  | _ => none

/-- The bytes `scan_string` adds for a code point. -/
def encodeCodepoint (codepoint : Nat) : List UInt8 :=
  if codepoint < 0x80 then [codepoint.toUInt8]
  else if codepoint ≤ 0x7FF then
    [(0xC0 ||| codepoint >>> 6).toUInt8, (0x80 ||| (codepoint &&& 0x3F)).toUInt8]
  else if codepoint ≤ 0xFFFF then
    [(0xE0 ||| codepoint >>> 12).toUInt8, (0x80 ||| (codepoint >>> 6 &&& 0x3F)).toUInt8,
      (0x80 ||| (codepoint &&& 0x3F)).toUInt8]
  else
    [(0xF0 ||| codepoint >>> 18).toUInt8, (0x80 ||| (codepoint >>> 12 &&& 0x3F)).toUInt8,
      (0x80 ||| (codepoint >>> 6 &&& 0x3F)).toUInt8, (0x80 ||| (codepoint &&& 0x3F)).toUInt8]

/-- The escape `\u`: one code point, or a high surrogate and the low one behind it. -/
def scanUnicode (input : List UInt8) : Option (List UInt8 × List UInt8) := do
  let (codepoint1, rest) ← getCodepoint input
  if 0xD800 ≤ codepoint1 ∧ codepoint1 ≤ 0xDBFF then
    match rest with
    | solidus :: letter :: rest =>
        if solidus = 0x5C ∧ letter = 0x75 then do
          let (codepoint2, rest) ← getCodepoint rest
          if 0xDC00 ≤ codepoint2 ∧ codepoint2 ≤ 0xDFFF then
            some (encodeCodepoint (codepoint1 <<< 10 + codepoint2 - 0x35FDC00), rest)
          else none
        else none
    | _ => none
  else if 0xDC00 ≤ codepoint1 ∧ codepoint1 ≤ 0xDFFF then none
  else some (encodeCodepoint codepoint1, rest)

/-- The byte a one-letter escape stands for. -/
def escaped (letter : UInt8) : Option UInt8 :=
  if letter = 0x22 then some 0x22
  else if letter = 0x5C then some 0x5C
  else if letter = 0x2F then some 0x2F
  else if letter = 0x62 then some 0x08
  else if letter = 0x66 then some 0x0C
  else if letter = 0x6E then some 0x0A
  else if letter = 0x72 then some 0x0D
  else if letter = 0x74 then some 0x09
  else none

/-- What follows a backslash. -/
def scanEscape : List UInt8 → Option (List UInt8 × List UInt8)
  | [] => none
  | letter :: rest =>
      if letter = 0x75 then scanUnicode rest
      else (escaped letter).map fun byte => ([byte], rest)

/-- `next_byte_in_range`: the bytes added behind the current one. -/
def nextByteInRange : List (Nat × Nat) → List UInt8 → Option (List UInt8 × List UInt8)
  | [], input => some ([], input)
  | _ :: _, [] => none
  | (low, high) :: ranges, byte :: input =>
      if low ≤ byte.toNat ∧ byte.toNat ≤ high then
        (nextByteInRange ranges input).map fun (added, rest) => (byte :: added, rest)
      else none

/-- The ranges `scan_string` asks for behind a byte that is neither a quote nor a
backslash. Control characters and bytes that begin no character are errors. -/
def ranges (byte : UInt8) : Option (List (Nat × Nat)) :=
  if byte.toNat ≤ 0x1F then none
  else if byte.toNat ≤ 0x7F then some []
  else if 0xC2 ≤ byte.toNat ∧ byte.toNat ≤ 0xDF then some [(0x80, 0xBF)]
  else if byte.toNat = 0xE0 then some [(0xA0, 0xBF), (0x80, 0xBF)]
  else if (0xE1 ≤ byte.toNat ∧ byte.toNat ≤ 0xEC) ∨ byte.toNat = 0xEE ∨ byte.toNat = 0xEF then
    some [(0x80, 0xBF), (0x80, 0xBF)]
  else if byte.toNat = 0xED then some [(0x80, 0x9F), (0x80, 0xBF)]
  else if byte.toNat = 0xF0 then some [(0x90, 0xBF), (0x80, 0xBF), (0x80, 0xBF)]
  else if 0xF1 ≤ byte.toNat ∧ byte.toNat ≤ 0xF3 then
    some [(0x80, 0xBF), (0x80, 0xBF), (0x80, 0xBF)]
  else if byte.toNat = 0xF4 then some [(0x80, 0x8F), (0x80, 0xBF), (0x80, 0xBF)]
  else none

/-- One turn of the loop of `scan_string`, for a byte that is no quote: the bytes added
to the token. -/
def scanCharacter (byte : UInt8) (input : List UInt8) : Option (List UInt8 × List UInt8) :=
  if byte = 0x5C then scanEscape input
  else do
    let (added, rest) ← nextByteInRange (← ranges byte) input
    some (byte :: added, rest)

/-- Reading a code point takes input. -/
theorem getCodepoint_shorter (input rest : List UInt8) (codepoint : Nat)
    (read : getCodepoint input = some (codepoint, rest)) : rest.length < input.length := by
  unfold getCodepoint at read
  split at read
  · simp only [Option.bind_eq_bind, Option.bind_eq_some_iff] at read
    obtain ⟨_, _, _, _, _, _, _, _, ended⟩ := read
    cases ended
    simp only [List.length_cons]
    omega
  · cases read

/-- So does reading an escape of it. -/
theorem scanUnicode_shorter (input rest added : List UInt8)
    (read : scanUnicode input = some (added, rest)) : rest.length < input.length := by
  unfold scanUnicode at read
  obtain ⟨⟨codepoint, behind⟩, first, read⟩ := Option.bind_eq_some_iff.mp read
  have shorter := getCodepoint_shorter input behind codepoint first
  dsimp only at read
  split at read
  · split at read
    · rename_i solidus letter behind
      split at read
      · obtain ⟨⟨_, last⟩, second, read⟩ := Option.bind_eq_some_iff.mp read
        have following := getCodepoint_shorter behind last _ second
        dsimp only at read
        split at read
        · obtain ⟨_, rfl⟩ := Prod.mk.inj (Option.some.inj read)
          simp only [List.length_cons] at shorter
          omega
        · cases read
      · cases read
    · cases read
  · split at read
    · cases read
    · cases read
      exact shorter

/-- What was read in range stood at the front. -/
theorem nextByteInRange_split (bounds : List (Nat × Nat)) (input rest added : List UInt8)
    (read : nextByteInRange bounds input = some (added, rest)) :
    input = added ++ rest := by
  induction bounds generalizing input added with
  | nil =>
    cases read
    rfl
  | cons bound bounds inductionHypothesis =>
    cases input with
    | nil => cases read
    | cons byte input =>
      rw [nextByteInRange] at read
      split at read
      · obtain ⟨⟨others, left⟩, later, ended⟩ := Option.map_eq_some_iff.mp read
        cases ended
        rw [List.cons_append, ← inductionHypothesis input others later]
      · cases read

/-- A turn of the loop leaves no more than it had. -/
theorem scanCharacter_shorter (byte : UInt8) (input rest added : List UInt8)
    (read : scanCharacter byte input = some (added, rest)) : rest.length ≤ input.length := by
  unfold scanCharacter at read
  split at read
  · cases input with
    | nil => cases read
    | cons letter input =>
      rw [scanEscape] at read
      split at read
      · have shorter := scanUnicode_shorter input rest added read
        simp only [List.length_cons]
        omega
      · obtain ⟨_, _, ended⟩ := Option.map_eq_some_iff.mp read
        cases ended
        simp
  · simp only [Option.bind_eq_bind, Option.bind_eq_some_iff] at read
    obtain ⟨bounds, _, ⟨others, left⟩, later, ended⟩ := read
    cases ended
    rw [nextByteInRange_split bounds input left others later, List.length_append]
    exact Nat.le_add_left _ _

/-- `scan_string`, behind the opening quote: the token buffer and what is left. -/
def scanString (buffer : List UInt8) : List UInt8 → Option (List UInt8 × List UInt8)
  | [] => none
  | byte :: input =>
      if byte = 0x22 then some (buffer, input)
      else
        match _ : scanCharacter byte input with
        | none => none
        | some (added, rest) => scanString (buffer ++ added) rest
termination_by input => input.length
decreasing_by exact Nat.lt_succ_of_le (scanCharacter_shorter _ _ _ _ ‹_›)

/-!
## Numbers
-/

/-- `number_type`. -/
inductive NumberType where
  | unsigned
  | integer
  | float
deriving DecidableEq

/-- The labels of `scan_number`. -/
inductive NumberState where
  | minus
  | zero
  | any1
  | decimal1
  | decimal2
  | exponent
  | sign
  | any2
deriving DecidableEq

/-- A digit. -/
def isDigit (byte : UInt8) : Bool := 0x30 ≤ byte.toNat ∧ byte.toNat ≤ 0x39

/-- The letter before an exponent. -/
def isExponent (byte : UInt8) : Bool := byte = 0x65 ∨ byte = 0x45

/-- The label a number starts at. -/
def NumberState.init (byte : UInt8) : Option NumberState :=
  if byte = 0x2D then some .minus
  else if byte = 0x30 then some .zero
  else if isDigit byte then some .any1
  else none

/-- The label a byte leads to, where it leads to any. -/
def NumberState.next : NumberState → UInt8 → Option NumberState
  | .minus, byte => if byte = 0x30 then some .zero else if isDigit byte then some .any1 else none
  | .zero, byte =>
      if byte = 0x2E then some .decimal1 else if isExponent byte then some .exponent else none
  | .any1, byte =>
      if isDigit byte then some .any1
      else if byte = 0x2E then some .decimal1
      else if isExponent byte then some .exponent
      else none
  | .decimal1, byte => if isDigit byte then some .decimal2 else none
  | .decimal2, byte =>
      if isDigit byte then some .decimal2 else if isExponent byte then some .exponent else none
  | .exponent, byte =>
      if byte = 0x2B ∨ byte = 0x2D then some .sign else if isDigit byte then some .any2 else none
  | .sign, byte => if isDigit byte then some .any2 else none
  | .any2, byte => if isDigit byte then some .any2 else none

/-- Whether any other byte ends the number, rather than making it an error. -/
def NumberState.done : NumberState → Bool
  | .zero | .any1 | .decimal2 | .any2 => true
  | .minus | .decimal1 | .exponent | .sign => false

/-- The assignment to `number_type` at a label. -/
def NumberState.assign (number_type : NumberType) : NumberState → NumberType
  | .minus => .integer
  | .decimal1 | .exponent => .float
  | _ => number_type

/-- From a label of `scan_number` to the end of the number. -/
def scanNumberFrom (state : NumberState) (number_type : NumberType) (buffer : List UInt8) :
    List UInt8 → Option (NumberType × List UInt8 × List UInt8)
  | [] => if state.done then some (number_type, buffer, []) else none
  | byte :: input =>
      match state.next byte with
      | some next => scanNumberFrom next (next.assign number_type) (buffer ++ [byte]) input
      | none => if state.done then some (number_type, buffer, byte :: input) else none

/-- The number `strtoull` and `strtoll` find in the token buffer. They set `errno` where
it is outside the range of their type. -/
def decimal (buffer : List UInt8) : Int :=
  (Decimal.read (buffer.map fun byte => Char.ofNat byte.toNat)).value

/-- The conversions at the end of `scan_number`. -/
def numberToken (number_type : NumberType) (buffer : List UInt8) : Token :=
  match number_type with
  | .unsigned =>
      if decimal buffer < 2 ^ 64 then .valueUnsigned (decimal buffer) else .valueFloat buffer
  | .integer =>
      if -2 ^ 63 ≤ decimal buffer ∧ decimal buffer < 2 ^ 63 then .valueInteger (decimal buffer)
      else .valueFloat buffer
  | .float => .valueFloat buffer

/-- `scan_number`, for its first byte. -/
def scanNumber (byte : UInt8) (input : List UInt8) : Option (Token × List UInt8) := do
  let state ← NumberState.init byte
  let (number_type, buffer, rest) ← scanNumberFrom state (state.assign .unsigned) [byte] input
  some (numberToken number_type buffer, rest)

/-!
## The scanner
-/

/-- `scan_literal`, behind the first letter. -/
def scanLiteral (token : Token) : List UInt8 → List UInt8 → Option (Token × List UInt8)
  | [], input => some (token, input)
  | _ :: _, [] => none
  | letter :: letters, byte :: input =>
      if byte = letter then scanLiteral token letters input else none

/-- `skip_bom`. -/
def skipBom : List UInt8 → Option (List UInt8)
  | [] => some []
  | byte :: input =>
      if byte = 0xEF then
        match input with
        | second :: third :: rest => if second = 0xBB ∧ third = 0xBF then some rest else none
        | _ => none
      else some (byte :: input)

/-- One of the four blanks. -/
def isBlank (byte : UInt8) : Bool := byte = 0x20 ∨ byte = 0x09 ∨ byte = 0x0A ∨ byte = 0x0D

/-- The tokens of one byte: brackets, braces, colon and comma, and the NUL. -/
def punctuation (byte : UInt8) : Option Token :=
  if byte = 0x5B then some .beginArray
  else if byte = 0x5D then some .endArray
  else if byte = 0x7B then some .beginObject
  else if byte = 0x7D then some .endObject
  else if byte = 0x3A then some .nameSeparator
  else if byte = 0x2C then some .valueSeparator
  else if byte = 0x00 then some .endOfInput
  else none

/-- The literals `true`, `false` and `null`, with the letters behind the first. -/
def literal (byte : UInt8) : Option (Token × List UInt8) :=
  if byte = 0x74 then some (.literalTrue, [0x72, 0x75, 0x65])
  else if byte = 0x66 then some (.literalFalse, [0x61, 0x6C, 0x73, 0x65])
  else if byte = 0x6E then some (.literalNull, [0x75, 0x6C, 0x6C])
  else none

/-- The switch of `scan` on the byte a token begins with. -/
def scanToken (byte : UInt8) (input : List UInt8) : Option (Token × List UInt8) :=
  match punctuation byte, literal byte with
  | some token, _ => some (token, input)
  | none, some (token, letters) => scanLiteral token letters input
  | none, none =>
      if byte = 0x22 then do
        let (buffer, rest) ← scanString [] input
        let text ← Utf8.decode buffer
        some (.valueString text, rest)
      else if byte = 0x2D ∨ isDigit byte then scanNumber byte input
      else none

/-- `scan`, once the byte order mark is skipped. -/
def scan (input : List UInt8) : Option (Token × List UInt8) :=
  match input.dropWhile isBlank with
  | [] => some (.endOfInput, [])
  | byte :: rest => scanToken byte rest

/-!
## What a token leaves

A token is made of at least one byte, unless the input has ended.
-/

/-- Reading a string takes its closing quotation mark at least. -/
theorem scanString_shorter (buffer input text rest : List UInt8)
    (read : scanString buffer input = some (text, rest)) : rest.length < input.length := by
  fun_induction scanString buffer input with
  | case1 => cases read
  | case2 =>
    cases read
    exact Nat.lt_succ_self _
  | case3 => cases read
  | case4 buffer byte input _ added behind turn inductionHypothesis =>
    have left := scanCharacter_shorter byte input behind added turn
    have later := inductionHypothesis read
    simp only [List.length_cons]
    omega

/-- The automaton adds to the buffer what it takes off the input. -/
theorem scanNumberFrom_split (state : NumberState) (number_type last : NumberType)
    (buffer input text rest : List UInt8)
    (read : scanNumberFrom state number_type buffer input = some (last, text, rest)) :
    ∃ taken, text = buffer ++ taken ∧ input = taken ++ rest := by
  induction input generalizing state number_type buffer with
  | nil =>
    rw [scanNumberFrom] at read
    split at read
    · cases read
      exact ⟨[], (List.append_nil _).symm, rfl⟩
    · cases read
  | cons byte input inductionHypothesis =>
    rw [scanNumberFrom] at read
    split at read
    · obtain ⟨taken, whole, split⟩ := inductionHypothesis _ _ _ read
      refine ⟨byte :: taken, ?_, ?_⟩
      · rw [whole, List.append_assoc, List.singleton_append]
      · rw [split, List.cons_append]
    · split at read
      · cases read
        exact ⟨[], (List.append_nil _).symm, rfl⟩
      · cases read

/-- Reading a number behind its first byte adds no input. -/
theorem scanNumber_shorter (byte : UInt8) (input rest : List UInt8) (token : Token)
    (read : scanNumber byte input = some (token, rest)) : rest.length ≤ input.length := by
  simp only [scanNumber, Option.bind_eq_bind, Option.bind_eq_some_iff] at read
  obtain ⟨state, _, ⟨number_type, buffer, left⟩, followed, ended⟩ := read
  cases ended
  obtain ⟨taken, _, split⟩ := scanNumberFrom_split _ _ _ _ _ _ _ followed
  rw [split, List.length_append]
  exact Nat.le_add_left _ _

/-- A literal stood at the front. -/
theorem scanLiteral_split (token found : Token) (letters input rest : List UInt8)
    (read : scanLiteral token letters input = some (found, rest)) :
    found = token ∧ input = letters ++ rest := by
  induction letters generalizing input with
  | nil =>
    cases read
    exact ⟨rfl, rfl⟩
  | cons letter letters inductionHypothesis =>
    cases input with
    | nil => cases read
    | cons byte input =>
      rw [scanLiteral] at read
      split at read
      · rename_i same
        obtain ⟨found, split⟩ := inductionHypothesis input read
        exact ⟨found, by rw [same, split, List.cons_append]⟩
      · cases read

/-- Reading one adds no input. -/
theorem scanLiteral_shorter (token found : Token) (letters input rest : List UInt8)
    (read : scanLiteral token letters input = some (found, rest)) :
    rest.length ≤ input.length := by
  rw [(scanLiteral_split token found letters input rest read).2, List.length_append]
  exact Nat.le_add_left _ _

/-- Nor does reading any token behind its first byte. -/
theorem scanToken_shorter (byte : UInt8) (input rest : List UInt8) (token : Token)
    (read : scanToken byte input = some (token, rest)) : rest.length ≤ input.length := by
  unfold scanToken at read
  split at read
  · cases read
    exact Nat.le_refl _
  · exact scanLiteral_shorter _ _ _ _ _ read
  · split at read
    · simp only [Option.bind_eq_bind, Option.bind_eq_some_iff] at read
      obtain ⟨⟨buffer, left⟩, scanned, text, _, ended⟩ := read
      cases ended
      exact Nat.le_of_lt (scanString_shorter _ _ _ _ scanned)
    · split at read
      · exact scanNumber_shorter _ _ _ _ read
      · cases read

/-- The tokens that are left to read: none behind the end of the input. -/
def Token.remains : Token → Nat
  | .endOfInput => 0
  | _ => 1

/-- A token counts for one at most. -/
theorem Token.remains_le (token : Token) : token.remains ≤ 1 := by
  cases token <;> simp [Token.remains]

/-- A token takes input, except for the end of it. -/
theorem scan_shorter (input rest : List UInt8) (token : Token)
    (read : scan input = some (token, rest)) : rest.length + token.remains ≤ input.length := by
  have skipped : (input.dropWhile isBlank).length ≤ input.length :=
    (List.dropWhile_suffix _).length_le
  rw [scan] at read
  split at read
  · cases read
    exact Nat.zero_le _
  · rename_i byte behind solid
    have left := scanToken_shorter byte behind rest token read
    have counted := token.remains_le
    rw [solid, List.length_cons] at skipped
    omega

end ClusterChat.Json.Lexer
