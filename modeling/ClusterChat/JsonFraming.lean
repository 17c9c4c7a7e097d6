import ClusterChat.ClientFraming
import ClusterChat.JsonLength

/-!
# The JSON library on a connection

What the readers on both sides of a connection assume of the JSON library holds of its
parser and its printer. `requests_parse` is for the server, whose requests are texts in
a buffer that may hold more than one, and `messages_parse` for the client, whose messages
are objects. The parser stops at the first NUL, since no text of a value has one
(`writes_nul`). A proper beginning of an object is no text, and neither is an object
with something else behind it.

The values are those that are read back from their text, without floating-point numbers
where lengths of texts count.
-/

namespace ClusterChat.Json

open Lexer
open Utf8 (bytes)

section Bytes

variable {strtod : List UInt8 → Option (Int × String)}

/-!
## A NUL ends the input
-/

/-- A NUL is no blank. -/
theorem blank_nul (gap : List UInt8) (blank : Blank gap) : 0 ∉ gap := by
  intro member
  have impossible := blank 0 member
  cases impossible

/-- No text of a character has one. -/
theorem charText_nul (c : Char) (text : List UInt8) (shape : CharText c text) : 0 ∉ text := by
  have digits : ∀ codepoint digits, Hex codepoint digits → 0 ∉ digits := by
    intro codepoint digits hex member
    cases hex with
    | digits a b c d w x y z first second third fourth =>
      simp only [List.mem_cons, List.not_mem_nil, or_false] at member
      rcases member with rfl | rfl | rfl | rfl
      · cases first
      · cases second
      · cases third
      · cases fourth
  cases shape with
  | plain solid quote solidus =>
    intro member
    have same := (Utf8.mem_encode c 0 (by decide)).mp member
    have zero : (0 : UInt8).toNat = 0 := rfl
    omega
  | letter name byte found same =>
    intro member
    simp only [List.mem_cons, List.not_mem_nil, or_false] at member
    rcases member with impossible | rfl
    · cases impossible
    · cases found
  | unicode text hex =>
    have none := digits _ text hex
    simp [none]
  | surrogates high low first second upper lower isHigh isLow pair =>
    have before := digits _ first upper
    have after := digits _ second lower
    simp [before, after]

/-- Nor has a string, whose NUL is written as an escape. -/
theorem quoted_nul (value : String) (text : List UInt8) (quoted : Quoted value text) :
    0 ∉ text := by
  obtain ⟨inner, shape, rfl⟩ := quoted
  have none : 0 ∉ inner := by
    generalize value.toList = chars at shape
    induction shape with
    | nil => exact List.not_mem_nil
    | cons c chars text rest first _ inductionHypothesis =>
      have own := charText_nul c text first
      simp [own, inductionHypothesis]
  simp [none]

/-- Nor have digits. -/
theorem digits_nul (text : List UInt8) (digits : Digits text) : 0 ∉ text := by
  intro member
  have impossible := digits 0 member
  cases impossible

/-- Nor has a number. -/
theorem number_nul (text : List UInt8) (number : Number text) : 0 ∉ text := by
  have notDigit : ∀ byte : UInt8, isDigit byte = true → byte ≠ 0 := by
    rintro byte digit rfl
    cases digit
  obtain ⟨minus, whole, fraction, exponent, rfl, signed, part, fractional, last⟩ := number
  have inMinus : 0 ∉ minus := by rcases signed with rfl | rfl <;> decide
  have inWhole : 0 ∉ whole := by
    rcases part with rfl | ⟨first, digits, rfl, digit, _, all⟩
    · decide
    · simp [(notDigit first digit).symm, digits_nul digits all]
  have inFraction : 0 ∉ fraction := by
    rcases fractional with rfl | ⟨first, digits, rfl, digit, all⟩
    · exact List.not_mem_nil
    · simp [(notDigit first digit).symm, digits_nul digits all]
  have inExponent : 0 ∉ exponent := by
    rcases last with rfl | ⟨letter, sign, first, digits, rfl, isLetter, shape, digit, all⟩
    · exact List.not_mem_nil
    · have notLetter : letter ≠ 0 := by
        rintro rfl
        cases isLetter
      have inSign : 0 ∉ sign := by rcases shape with rfl | rfl | rfl <;> decide
      simp [notLetter.symm, inSign, (notDigit first digit).symm, digits_nul digits all]
  simp [inMinus, inWhole, inFraction, inExponent]

/-- Nor has any token. -/
theorem lexeme_nul (token : Token) (text : List UInt8) (lexeme : Lexeme token text) :
    0 ∉ text := by
  cases lexeme with
  | mark _ byte single more =>
    intro member
    rw [List.mem_singleton] at member
    exact more ((punctuation_solid byte token single).2.mp member.symm)
  | word _ byte letters named =>
    unfold literal at named
    split_ifs at named <;> cases named <;> subst_vars <;> decide
  | string value text quoted => exact quoted_nul value text quoted
  | number text number => exact number_nul text number

/-- No text of a value has a NUL. -/
theorem writes_nul (part : Phrase) (text : List UInt8) (writes : Writes strtod part text) :
    0 ∉ text := by
  induction writes with
  | scalar token js gap text blank lexeme _ =>
    simp [blank_nul gap blank, lexeme_nul token text lexeme]
  | emptyArray gap inner blank hollow => simp [blank_nul gap blank, blank_nul inner hollow]
  | array gap text tail first more blank _ _ head later => simp [blank_nul gap blank, head, later]
  | emptyObject gap inner blank hollow => simp [blank_nul gap blank, blank_nul inner hollow]
  | object gap text tail key first more blank _ _ head later =>
    simp [blank_nul gap blank, head, later]
  | member before name behind text key js blank quoted spaced _ value =>
    simp [blank_nul before blank, quoted_nul key name quoted, blank_nul behind spaced, value]
  | endItems gap blank => simp [blank_nul gap blank]
  | nextItem gap text tail first more blank _ _ head later =>
    simp [blank_nul gap blank, head, later]
  | endMembers gap blank => simp [blank_nul gap blank]
  | nextMember gap text tail key first more blank _ _ head later =>
    simp [blank_nul gap blank, head, later]

/-- What is before a text without NUL stays when the rest is trimmed. -/
theorem trim_append (text rest : List UInt8) (none : 0 ∉ text) :
    Chunks.trim 0 (text ++ rest) = text ++ Chunks.trim 0 rest := by
  rw [Chunks.trim, List.takeWhile_append_of_pos, Chunks.trim]
  intro byte member
  have differs : byte ≠ 0 := fun zero => none (zero ▸ member)
  simpa using differs

/-- An input is a document exactly when it is one up to its first NUL. -/
theorem document_trim (input : List UInt8) (js : Json) :
    Document strtod input js ↔ ∃ mark text gap, Chunks.trim 0 input = mark ++ (text ++ gap) ∧
      (mark = [] ∨ mark = [0xEF, 0xBB, 0xBF]) ∧ Writes strtod (.value js) text ∧ Blank gap := by
  have marked : ∀ mark : List UInt8, (mark = [] ∨ mark = [0xEF, 0xBB, 0xBF]) → 0 ∉ mark := by
    rintro mark (rfl | rfl) <;> decide
  constructor
  · rintro ⟨mark, text, rest, rfl, marks, writes, gap, tail, blank, rfl, ended⟩
    refine ⟨mark, text, gap, ?_, marks, writes, blank⟩
    have none : Chunks.trim 0 tail = [] := by
      rcases ended with rfl | nul
      · rfl
      · cases tail with
        | nil => rfl
        | cons byte tail =>
          cases nul
          rfl
    rw [trim_append _ _ (marked mark marks), trim_append _ _ (writes_nul _ text writes),
      trim_append _ _ (blank_nul gap blank), none, List.append_nil]
  · rintro ⟨mark, text, gap, split, marks, writes, blank⟩
    have whole : input = Chunks.trim 0 input ++ input.dropWhile (· ≠ 0) :=
      List.takeWhile_append_dropWhile.symm
    refine ⟨mark, text, gap ++ input.dropWhile (· ≠ 0), ?_, marks, writes, gap, _, blank, rfl, ?_⟩
    · rw [split] at whole
      rw [List.append_assoc, List.append_assoc] at whole
      exact whole
    · cases left : input.dropWhile (· ≠ 0) with
      | nil => exact Or.inl rfl
      | cons byte tail =>
        have stop := List.head?_dropWhile_not (fun byte : UInt8 => decide (byte ≠ 0)) input
        rw [left] at stop
        refine Or.inr (congrArg some ?_)
        simpa using stop

/-- The parser reads nothing behind the first NUL. -/
theorem parse_trim (input : List UInt8) : parse strtod input = parse strtod (Chunks.trim 0 input) := by
  refine Option.ext fun js => ?_
  rw [parse_iff, parse_iff, document_trim, document_trim, Framing.trim_trim]

/-!
## Requests
-/

/-- Every value is printed with at least one byte. -/
theorem least_pos (js : Json) : 1 ≤ least js := by
  cases js with
  | null => exact Nat.le_add_left _ _
  | boolean value => cases value <;> exact Nat.le_add_left _ _
  | integer value =>
    rw [least]
    exact List.length_pos_iff.mpr (number_inhabited _ (number_toString value))
  | float whole text => exact Nat.le_refl _
  | string value =>
    rw [least, quote, Utf8.bytes_append, List.length_append, Utf8.bytes_append, List.length_append]
    exact Nat.le_trans (Nat.le_add_right 1 _) (Nat.le_add_right _ _)
  | array items => exact Nat.le_add_right 1 _
  | object members => exact Nat.le_add_right 1 _

/-- A printed value has no NUL. -/
theorem exact_nul (js : Json) (exact_ : Exact js) : 0 ∉ bytes (dump js) := by
  have writes : Writes (fun _ => none) (.value js) (bytes (dump js)) :=
    writes_dump js (exact_.stable _)
  exact writes_nul _ _ writes

/-- A printed value is not empty. -/
theorem exact_inhabited (js : Json) (exact_ : Exact js) : bytes (dump js) ≠ [] := by
  have length := length_dump js exact_
  have positive := least_pos js
  exact List.length_pos_iff.mp (by omega)

/-- An accepted input is at least as long as the least text of its value, up to its first
NUL. -/
theorem parse_length (input : List UInt8) (js : Json) (read : parse strtod input = some js) :
    least js ≤ (Chunks.trim 0 input).length := by
  rw [parse_iff, document_trim] at read
  obtain ⟨mark, text, gap, split, _, writes, _⟩ := read
  have bound : least js ≤ text.length := least_le (.value js) text writes
  rw [split, List.length_append, List.length_append]
  omega

/-- The library parses a connection's requests as the server assumes. -/
theorem requests_parse (strtod : List UInt8 → Option (Int × String)) (requests : List Json)
    (each : ∀ js ∈ requests, Exact js) :
    Framing.Parses (parse strtod) (fun js => bytes js.dump) requests where
  endsAtNul := parse_trim
  rejectsNothing := by
    cases read : parse strtod [] with
    | none => rfl
    | some js =>
      have bound := parse_length [] js read
      have positive := least_pos js
      exact absurd (positive.trans bound) (by decide)
  roundTrip := fun js member => parse_dump js ((each js member).stable _)
  writesNoNul := fun js member => exact_nul js (each js member)
  writesSomething := fun js member => exact_inhabited js (each js member)
  compact := fun js member buf read => by
    rw [length_dump js (each js member)]
    exact parse_length buf js read

/-- Buffers that hold one request each run the handlers of the requests. -/
theorem onMessage_aligned (strtod : List UInt8 → Option (Int × String)) (conn : Conn)
    (requests : List Json) (bufs : List (List UInt8)) (w : World)
    (each : ∀ js ∈ requests, Exact js)
    (handled : ∀ js ∈ requests, (Framing.handlerOf js).isSome = true)
    (aligned : Chunks.Aligned 0 (fun js => bytes js.dump) requests bufs) :
    bufs.foldl (ChatServer.onMessage (parse strtod) conn) w =
      requests.foldl (Framing.handle conn) w := by
  have reads := Framing.reads_of_parses _ _ _ (requests_parse strtod _ each) handled
  rw [Framing.onMessage_run, Framing.invocations,
    Chunks.yields_of_aligned 0 _ _ requests bufs reads aligned]

/-!
## Messages
-/

/-- Whitespace may come before the text of a value. -/
theorem writes_gap (js : Json) (gap text : List UInt8) (blank : Blank gap)
    (writes : Writes strtod (.value js) text) : Writes strtod (.value js) (gap ++ text) := by
  have joined : ∀ inner : List UInt8, Blank inner → Blank (gap ++ inner) :=
    fun inner hollow => List.forall_mem_append.mpr ⟨blank, hollow⟩
  cases writes with
  | scalar token _ inner lexeme hollow shape single =>
    rw [← List.append_assoc]
    exact Writes.scalar token js _ lexeme (joined inner hollow) shape single
  | emptyArray inner middle hollow spaced =>
    rw [← List.append_assoc]
    exact Writes.emptyArray _ middle (joined inner hollow) spaced
  | array inner text tail first more hollow head later =>
    rw [← List.append_assoc]
    exact Writes.array _ text tail first more (joined inner hollow) head later
  | emptyObject inner middle hollow spaced =>
    rw [← List.append_assoc]
    exact Writes.emptyObject _ middle (joined inner hollow) spaced
  | object inner text tail key first more hollow head later =>
    rw [← List.append_assoc]
    exact Writes.object _ text tail key first more (joined inner hollow) head later

/-- An input that begins with a value of the grammar and goes on with something that is
not blank is rejected, and so is a blank one. -/
theorem parse_blank (gap : List UInt8) (blank : Blank gap) : parse strtod gap = none := by
  cases read : parse strtod gap with
  | none => rfl
  | some js =>
    have finished : Finished gap := ⟨gap, [], blank, (List.append_nil gap).symm, Or.inl rfl⟩
    obtain ⟨rest, ended⟩ := (scan_finished gap).mpr finished
    simp only [parse, Option.bind_eq_bind, Option.bind_eq_some_iff] at read
    obtain ⟨opened, skipped, ⟨token, left⟩, scanned, ⟨value, last⟩, parsed, _⟩ := read
    rcases (skipBom_iff gap opened).mp skipped with marked | ⟨plain, _⟩
    · have impossible := blank 0xEF (by rw [marked]; simp)
      cases impossible
    · rw [← plain, ended] at scanned
      cases scanned
      rcases saxParseInternal_cases parsed with ⟨_, impossible, _⟩ | ⟨impossible, _⟩ |
        ⟨impossible, _⟩ <;> cases impossible

/-- What the parser does behind an object. -/
theorem parse_object (members : List (String × Json)) (text rest : List UInt8) (js : Json)
    (writes : Writes strtod (.value (.object members)) text)
    (read : parse strtod (text ++ rest) = some js) :
    js = .object members ∧ Finished rest := by
  obtain ⟨token, behind, scanned, _, parsed⟩ := complete_object members text rest writes []
  simp only [parse, Option.bind_eq_bind, Option.bind_eq_some_iff] at read
  obtain ⟨opened, skipped, ⟨first, left⟩, found, ⟨value, last⟩, taken, ⟨final, tail⟩, closed,
    ended⟩ := read
  have plain : text ++ rest = opened := by
    rcases (skipBom_iff _ opened).mp skipped with marked | ⟨plain, _⟩
    · rw [marked] at scanned
      exact absurd scanned (scan_bom _ _ _)
    · exact plain
  rw [← plain, scanned] at found
  cases found
  rw [parsed, stateEvaluation] at taken
  cases taken
  have same : final = .endOfInput ∧ Json.object members = js := by
    cases final <;> first | (cases ended; exact ⟨rfl, rfl⟩) | cases ended
  obtain ⟨rfl, rfl⟩ := same
  exact ⟨rfl, (scan_finished rest).mp ⟨tail, closed⟩⟩

/-- Newlines are blanks. -/
theorem blank_newlines (count : Nat) : Blank (List.replicate count ClientFraming.newline) := by
  intro byte member
  rw [List.eq_of_mem_replicate member]
  rfl

/-- An input that goes on with a bracket is not finished. -/
theorem finished_opens (gap rest : List UInt8) (symbol : UInt8) (opens : ClientFraming.Opens symbol)
    (blank : Blank gap) : ¬ Finished (gap ++ symbol :: rest) := by
  intro finished
  have apart : symbol ≠ 9 ∧ symbol ≠ 10 ∧ symbol ≠ 13 ∧ symbol ≠ 32 ∧ symbol ≠ 0 := by
    simpa [ClientFraming.Opens] using opens
  have solid : isBlank symbol = false := by
    simp [isBlank, apart]
  obtain ⟨inner, tail, hollow, split, ended⟩ := finished
  have left := congrArg (List.dropWhile isBlank) split
  rw [dropWhile_gap gap _ blank, dropWhile_gap inner _ hollow, List.dropWhile_cons, solid] at left
  rcases ended with rfl | nul
  · cases left
  · cases tail with
    | nil => cases nul
    | cons byte tail =>
      cases nul
      have first : symbol = 0 := by simpa [isBlank] using congrArg List.head? left
      exact apart.2.2.2.2 first

/-- A printed object begins with a brace. -/
theorem dump_object (members : List (String × Json)) :
    ∃ rest, bytes (dump (.object members)) = 0x7B :: rest := by
  refine ⟨bytes (dumpMembers members) ++ bytes "\x7d", ?_⟩
  have opened : bytes "\x7b" = [0x7B] := rfl
  rw [dump, Utf8.bytes_append, Utf8.bytes_append, opened, List.append_assoc,
    List.singleton_append]

/-- A value whose text begins with a brace is an object. -/
theorem writes_brace (js : Json) (gap text rest behind : List UInt8) (blank : Blank gap)
    (writes : Writes strtod (.value js) text) (begins : text ++ rest = gap ++ 0x7B :: behind) :
    ∃ members, js = .object members := by
  have solid : isBlank 0x7B = false := rfl
  have left := congrArg (List.dropWhile isBlank) begins
  rw [dropWhile_gap gap _ blank, List.dropWhile_cons, solid] at left
  cases writes with
  | scalar token _ inner lexeme hollow shape single =>
    obtain ⟨byte, tail, rfl, other, scanned⟩ := scanToken_lexeme token lexeme [] shape
      fun _ _ head => by cases head
    rw [List.append_assoc, dropWhile_gap inner _ hollow, List.cons_append, List.dropWhile_cons,
      other] at left
    obtain ⟨rfl, _⟩ := List.cons.inj left
    have opened : scanToken 0x7B (tail ++ []) = some (.beginObject, tail ++ []) := rfl
    rw [opened] at scanned
    obtain ⟨rfl, _⟩ := Prod.mk.inj (Option.some.inj scanned)
    cases single
  | emptyArray inner middle hollow spaced =>
    rw [List.append_assoc, dropWhile_gap inner _ hollow] at left
    cases left
  | array inner text tail first more hollow head later =>
    rw [List.append_assoc, dropWhile_gap inner _ hollow] at left
    cases left
  | emptyObject inner middle hollow spaced => exact ⟨_, rfl⟩
  | object inner text tail key first more hollow head later => exact ⟨_, rfl⟩

/-- No text of an object is a beginning of another one. -/
theorem object_prefix (members others : List (String × Json)) (text other rest left : List UInt8)
    (writes : Writes strtod (.value (.object members)) text)
    (rewrites : Writes strtod (.value (.object others)) other)
    (same : text ++ rest = other ++ left) : members = others ∧ rest = left := by
  obtain ⟨token, behind, scanned, _, parsed⟩ := complete_object members text rest writes []
  obtain ⟨first, last, found, _, taken⟩ := complete_object others other left rewrites []
  rw [same, found] at scanned
  cases scanned
  rw [parsed, stateEvaluation, stateEvaluation] at taken
  cases taken
  exact ⟨rfl, rfl⟩

/-- Every text of an object begins with a brace, behind its blanks. -/
theorem object_opens (members : List (String × Json)) (text : List UInt8)
    (writes : Writes strtod (.value (.object members)) text) :
    ∃ gap behind, text = gap ++ 0x7B :: behind ∧ Blank gap := by
  cases writes with
  | scalar token _ gap lexeme blank shape single =>
    exact absurd single (scalar_flat token _ (Or.inr ⟨members, rfl⟩))
  | emptyObject gap inner blank hollow => exact ⟨gap, _, rfl, blank⟩
  | object gap text tail key first more blank head later => exact ⟨gap, _, rfl, blank⟩

/-- What is read from a piece that begins with an object, or ends inside it. -/
theorem object_cut (members : List (String × Json)) (text more first second : List UInt8)
    (other : Json) (writes : Writes strtod (.value (.object members)) text)
    (same : text ++ more = first ++ second) (read : parse strtod first = some other) :
    other = .object members ∧ ∃ rest, first = text ++ rest ∧ Finished rest := by
  obtain ⟨token, behind, scanned, _⟩ := complete_object members text more writes []
  obtain ⟨gap, shut, opened, blank⟩ := object_opens members text writes
  obtain ⟨mark, found, rest, split, marks, finds, finished⟩ := (parse_iff _ _ _).mp read
  have unmarked : mark = [] := by
    rcases marks with rfl | rfl
    · rfl
    · rw [same, split, List.append_assoc] at scanned
      exact absurd scanned (scan_bom _ _ _)
  rw [unmarked, List.nil_append] at split
  rw [split, List.append_assoc] at same
  have begins : found ++ (rest ++ second) = gap ++ 0x7B :: (shut ++ more) := by
    rw [← same, opened, List.append_assoc, List.cons_append]
  obtain ⟨others, rfl⟩ := writes_brace other gap found _ _ blank finds begins
  obtain ⟨rfl, rfl⟩ := object_prefix members others text found _ _ writes finds same
  rw [List.append_cancel_right same]
  exact ⟨rfl, rest, split, finished⟩

/-- A message with newlines around it is a text of its value and blanks. -/
theorem wraps_document (js : Json) (chunk : List UInt8) (stable : Stable (ReadBack strtod) js)
    (wraps : Chunks.Wraps ClientFraming.newline (bytes (dump js)) chunk) :
    ∃ text gap, chunk = text ++ gap ∧ Writes strtod (.value js) text ∧ Blank gap := by
  obtain ⟨before, after, rfl⟩ := wraps
  exact ⟨_, _, rfl, writes_gap js _ _ (blank_newlines before) (writes_dump js stable),
    blank_newlines after⟩

/-- The library parses a connection's messages as the client assumes. -/
theorem messages_parse (messages : List Json)
    (each : ∀ js ∈ messages, Stable (ReadBack strtod) js ∧ ∃ members, js = .object members) :
    ClientFraming.Parses (parse strtod) (fun js => bytes js.dump) messages where
  endsAtNul := parse_trim
  delimits := {
    silent := fun count => parse_blank _ (blank_newlines count)
    back := fun js member chunk wraps => by
      obtain ⟨text, gap, rfl, writes, blank⟩ := wraps_document js chunk (each js member).1 wraps
      rw [parse_iff]
      exact ⟨[], text, gap, rfl, Or.inl rfl, writes, gap, [], blank, (List.append_nil gap).symm,
        Or.inl rfl⟩
    begins := fun js member => by
      obtain ⟨_, members, rfl⟩ := each js member
      obtain ⟨rest, shape⟩ := dump_object members
      exact ⟨0x7B, rest, shape, by decide⟩
    unfinished := fun js member before part missing text cut => by
      obtain ⟨stable, members, rfl⟩ := each js member
      have writes := writes_gap _ _ _ (blank_newlines before) (writes_dump (.object members) stable)
      cases read : parse strtod (List.replicate before ClientFraming.newline ++ part) with
      | none => rfl
      | some other =>
        have same : (List.replicate before ClientFraming.newline ++ bytes (dump (.object members)))
            ++ [] = (List.replicate before ClientFraming.newline ++ part) ++ missing := by
          rw [List.append_nil, text, List.append_assoc]
        obtain ⟨_, rest, whole, _⟩ := object_cut members _ [] _ missing other writes same read
        rw [List.append_assoc] at whole
        have longer := congrArg List.length (List.append_cancel_left whole)
        have counted := congrArg List.length text
        rw [List.length_append] at longer counted
        exact absurd (List.length_eq_zero_iff.mp (by omega)) cut
    overfull := fun js member chunk wraps symbol rest opens => by
      obtain ⟨stable, members, rfl⟩ := each js member
      obtain ⟨text, gap, rfl, writes, blank⟩ := wraps_document _ chunk stable wraps
      cases read : parse strtod (text ++ gap ++ symbol :: rest) with
      | none => rfl
      | some other =>
        rw [List.append_assoc] at read
        obtain ⟨_, finished⟩ := parse_object members text _ other writes read
        exact absurd finished (finished_opens gap rest symbol opens blank) }

/-!
## The readers
-/

/-- A conversion that knows one number. -/
def half (text : List UInt8) : Option (Int × String) :=
  if text = bytes "1.5" then some (1, "1.5") else none

/-- The text of that number. -/
theorem number_half : Number (bytes "1.5") := by
  have shape : bytes "1.5" = [0x31, 0x2E, 0x35] := rfl
  rw [shape, accepts_number]
  exact ⟨.any1, rfl, rfl⟩

/-- What the conversion reads it prints. -/
theorem prints_half : Prints half := by
  intro text whole printed known
  rw [half] at known
  split_ifs at known
  obtain ⟨rfl, rfl⟩ := Prod.mk.inj (Option.some.inj known)
  exact ⟨number_half, by decide +kernel, if_pos rfl⟩

/-- The number behind a blank. -/
theorem parse_half : parse half (0x20 :: bytes "1.5") = some (.float 1 "1.5") := by
  have lexeme : Lexeme (numberToken (numberType (bytes "1.5")) (bytes "1.5")) (bytes "1.5") :=
    Lexeme.number _ number_half
  have writes : Writes half (.value (.float 1 "1.5")) ([0x20] ++ bytes "1.5") :=
    Writes.scalar _ _ [0x20] _ (by simp [Blank, isBlank]) lexeme rfl
  rw [parse_iff]
  exact ⟨[], _, [], rfl, Or.inl rfl, writes, finished_nil⟩

/-- A logout has no floating-point number. -/
theorem exact_logout : Exact Framing.logout := by
  refine Stable.object _ (by decide) ?_
  intro member inside
  have number : ∃ value : Int, member.2 = .integer value ∧ -2 ^ 63 ≤ value ∧ value < 2 ^ 64 := by
    rcases List.mem_pair.mp inside with rfl | rfl
    · exact ⟨1, rfl, by decide⟩
    · exact ⟨3, rfl, by decide⟩
  obtain ⟨value, same, fits⟩ := number
  rw [same]
  exact Stable.integer value fits

/-- The parser accepts exactly the texts of the grammar, gives each its only value and
reads nothing behind a NUL. -/
theorem grammar_decided (strtod : List UInt8 → Option (Int × String)) (input : List UInt8) :
    (∀ js, parse strtod input = some js ↔ Document strtod input js) ∧
      (∀ js other, Document strtod input js → Document strtod input other → js = other) ∧
      parse strtod (Chunks.trim 0 input) = parse strtod input := by
  refine ⟨parse_iff strtod input, fun js other first second => ?_, (parse_trim input).symm⟩
  rw [← parse_iff] at first second
  exact Option.some.inj (first.symm.trans second)

/-- Whatever was accepted is accepted again, with the same value, after it is printed. The
printed text of a value without floating-point numbers is a shortest one. -/
theorem printed_again (strtod : List UInt8 → Option (Int × String)) (prints : Prints strtod)
    (input : List UInt8) (js : Json) (read : parse strtod input = some js) :
    parse strtod (bytes (dump js)) = some js ∧
      (Exact js → (bytes (dump js)).length ≤ (Chunks.trim 0 input).length) := by
  obtain ⟨_, text, _, _, _, writes, _⟩ := (parse_iff strtod input js).mp read
  have stable : Stable (ReadBack strtod) js := stable_of_writes prints _ _ writes
  refine ⟨parse_dump js stable, fun exact_ => ?_⟩
  rw [length_dump js exact_]
  exact parse_length input js read

/-- A number with a fraction is read again. -/
theorem printed_again_half : parse half (bytes (dump (.float 1 "1.5"))) = some (.float 1 "1.5") ∧
    (Exact (.float 1 "1.5") → (bytes (dump (.float 1 "1.5"))).length ≤
      (Chunks.trim 0 (0x20 :: bytes "1.5")).length) :=
  printed_again half prints_half _ _ parse_half

/-- Of an object and what follows it, the pieces that are accepted are those that hold the
whole object and nothing else before a NUL. -/
theorem object_received (strtod : List UInt8 → Option (Int × String))
    (members : List (String × Json)) (text more first second : List UInt8)
    (writes : Writes strtod (.value (.object members)) text)
    (cut : text ++ more = first ++ second) (other : Json) :
    parse strtod first = some other ↔
      other = .object members ∧ ∃ rest, first = text ++ rest ∧ Finished rest := by
  constructor
  · exact object_cut members text more first second other writes cut
  · rintro ⟨rfl, rest, rfl, finished⟩
    rw [parse_iff]
    exact ⟨[], text, rest, rfl, Or.inl rfl, writes, finished⟩

/-- Of two requests the first is read with a blank and a NUL behind it, and not with the
second. -/
theorem object_received_merged :
    parse half (bytes Framing.logout.dump ++ [0x20, 0]) = some Framing.logout ∧
      ¬ parse half (bytes Framing.logout.dump ++ bytes Framing.logout.dump) =
        some Framing.logout := by
  have writes := writes_dump Framing.logout (exact_logout.stable (ReadBack half))
  constructor
  · refine (object_received half _ (bytes Framing.logout.dump)
      ([0x20, 0] ++ bytes Framing.logout.dump) _ (bytes Framing.logout.dump) writes
      (List.append_assoc _ _ _).symm _).mpr ⟨rfl, [0x20, 0], rfl, ?_⟩
    exact ⟨[0x20], [0], List.forall_mem_singleton.mpr rfl, rfl, Or.inr rfl⟩
  · intro read
    obtain ⟨_, rest, same, finished⟩ := (object_received half _ (bytes Framing.logout.dump)
      (bytes Framing.logout.dump) _ [] writes (List.append_nil _).symm _).mp read
    obtain ⟨behind, opened⟩ := dump_object [("id", .integer 1), ("msgid", .integer 3)]
    rw [← List.append_cancel_left same] at finished
    exact finished_opens [] behind 0x7B (by decide) (List.forall_mem_nil _) (opened ▸ finished)

/-- However a connection's requests are cut, the parser makes the server run exactly their
handlers, in order, if and only if every buffer up to its first NUL is empty or the next
request. The world is then the one those handlers lead to. -/
theorem requests_served (strtod : List UInt8 → Option (Int × String)) (conn : Conn)
    (frames : List (Json × Bool)) (bufs : List (List UInt8)) (w : World)
    (each : ∀ js ∈ frames.map Prod.fst, Exact js)
    (handled : ∀ js ∈ frames.map Prod.fst, (Framing.handlerOf js).isSome = true)
    (cut : bufs.flatten = Chunks.stream 0 (fun js => bytes js.dump) frames) :
    (Framing.invocations (parse strtod) bufs = frames.map Prod.fst ↔
        Chunks.Aligned 0 (fun js => bytes js.dump) (frames.map Prod.fst) bufs) ∧
      (Chunks.Aligned 0 (fun js => bytes js.dump) (frames.map Prod.fst) bufs →
        bufs.foldl (ChatServer.onMessage (parse strtod) conn) w =
          (frames.map Prod.fst).foldl (Framing.handle conn) w) := by
  have reads := Framing.reads_of_parses _ _ _ (requests_parse strtod _ each) handled
  exact ⟨Chunks.yields_iff_aligned 0 _ (Framing.invoked (parse strtod)) frames bufs reads cut,
    onMessage_aligned strtod conn _ bufs w each handled⟩

/-- Two logouts, one of them with a NUL behind it, are both served. -/
theorem requests_served_logout :
    (Framing.invocations (parse half) [bytes Framing.logout.dump ++ [0],
        bytes Framing.logout.dump] = [Framing.logout, Framing.logout] ↔
      Chunks.Aligned 0 (fun js => bytes js.dump) [Framing.logout, Framing.logout]
        [bytes Framing.logout.dump ++ [0], bytes Framing.logout.dump]) ∧
    (Chunks.Aligned 0 (fun js => bytes js.dump) [Framing.logout, Framing.logout]
        [bytes Framing.logout.dump ++ [0], bytes Framing.logout.dump] →
      [bytes Framing.logout.dump ++ [0], bytes Framing.logout.dump].foldl
          (ChatServer.onMessage (parse half) ⟨"conn-1"⟩)
          (World.start "node-1" Database.empty Redis.empty) =
        [Framing.logout, Framing.logout].foldl (Framing.handle ⟨"conn-1"⟩)
          (World.start "node-1" Database.empty Redis.empty)) :=
  requests_served half ⟨"conn-1"⟩ [(Framing.logout, true), (Framing.logout, false)] _ _
    (by simp [exact_logout]) (Framing.handled_logout _ (by simp)) (by simp [Chunks.stream])

/-- However the server's messages are cut, the client parses exactly them and ends without
an exception if and only if every piece is the next message with newlines around it and
each message is handled on its own. -/
theorem messages_received (strtod : List UInt8 → Option (Int × String))
    (frames : List (Json × Bool)) (pieces : List (List UInt8)) (client : Client)
    (each : ∀ js ∈ frames.map Prod.fst,
      Stable (ReadBack strtod) js ∧ ∃ members, js = .object members)
    (cut : pieces.flatten = Chunks.stream ClientFraming.newline (fun js => bytes js.dump) frames) :
    (∃ left, Client.readTaskHandler (fun text => parse strtod (bytes text)) (parse strtod) pieces
        client = .ok (frames.map Prod.fst, left)) ↔
      Chunks.Wrapped ClientFraming.newline (fun js => bytes js.dump) (frames.map Prod.fst) pieces ∧
        ∃ left, ClientFraming.handleAll (fun text => parse strtod (bytes text)) client
          (frames.map Prod.fst) = .ok left := by
  have parses : ClientFraming.Parses (parse strtod) (fun js => bytes js.dump)
      (frames.map Prod.fst) := messages_parse _ each
  have received : pieces.map (fun piece => parse strtod (Client.recvBuffer piece)) =
      pieces.map (parse strtod) :=
    List.map_congr_left fun piece _ => ClientFraming.read_recvBuffer _ parse_trim piece
  simp only [ClientFraming.readTaskHandler_ok, received,
    Chunks.reads_iff_wrapped frames pieces parses.delimits cut, exists_and_left]

/-- Two messages, one of them with a newline behind it, are both received. -/
theorem messages_received_logout :
    (∃ left, Client.readTaskHandler (fun text => parse half (bytes text)) (parse half)
        [bytes Framing.logout.dump, bytes Framing.logout.dump ++ [ClientFraming.newline]] {} =
          .ok ([Framing.logout, Framing.logout], left)) ↔
      Chunks.Wrapped ClientFraming.newline (fun js => bytes js.dump)
          [Framing.logout, Framing.logout]
          [bytes Framing.logout.dump, bytes Framing.logout.dump ++ [ClientFraming.newline]] ∧
        ∃ left, ClientFraming.handleAll (fun text => parse half (bytes text)) {}
          [Framing.logout, Framing.logout] = .ok left :=
  messages_received half [(Framing.logout, false), (Framing.logout, true)] _ {}
    (List.forall_mem_replicate.mpr (Or.inr ⟨exact_logout.stable _, _, rfl⟩) : ∀ js ∈
      List.replicate 2 Framing.logout, _) (by simp [Chunks.stream])

end Bytes

end ClusterChat.Json
