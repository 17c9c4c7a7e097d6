import ClusterChat.JsonNumbers
import ClusterChat.JsonParser
import ClusterChat.JsonStrings
import Mathlib.Data.List.TakeWhile

/-!
# What the parser accepts

The grammar of JSON text over bytes, and the parser held to it. `parse_iff` says that
the loop with its stack accepts exactly the texts of the grammar and returns their
value: whitespace and a byte order mark may come before a value, whitespace behind it,
and what follows a NUL there is not read. Of several members of one name the last one
counts.

`complete` follows the derivation of a text, `sound` the turns of the loop. Both say
what is true with any containers open: a text takes the loop from its first token to
the point behind its value.

The grammar leaves open what a floating-point number is converted to. A text is only
accepted if the conversion gives a finite number for each one.
-/

namespace ClusterChat.Json

open Lexer

/-- Spaces, tabs and ends of lines. -/
def Blank (gap : List UInt8) : Prop := ∀ byte ∈ gap, isBlank byte = true

/-- The texts of a token. -/
inductive Lexeme : Token → List UInt8 → Prop
  | mark (token : Token) (byte : UInt8) (single : punctuation byte = some token)
      (more : token ≠ .endOfInput) : Lexeme token [byte]
  | word (token : Token) (byte : UInt8) (letters : List UInt8)
      (named : literal byte = some (token, letters)) : Lexeme token (byte :: letters)
  | string (value : String) (text : List UInt8) (quoted : Quoted value text) :
      Lexeme (.valueString value) text
  | number (text : List UInt8) (number : Number text) :
      Lexeme (numberToken (numberType text) text) text

/-- Whether a token is a number, which needs something behind it to end. -/
def Lexer.Token.isNumber : Token → Bool
  | .valueUnsigned _ | .valueInteger _ | .valueFloat _ => true
  | _ => false

/-- A number ends where what follows does not go on with it. -/
def Follows (token : Token) (rest : List UInt8) : Prop := token.isNumber = true → Ends rest

/-- There is no token left. -/
def Finished (input : List UInt8) : Prop :=
  ∃ gap tail, Blank gap ∧ input = gap ++ tail ∧ (tail = [] ∨ tail.head? = some 0)

/-- The members of an object, after assigning the pairs one by one. -/
def assigned (members pairs : List (String × Json)) : List (String × Json) :=
  pairs.foldl (fun members pair => insertMember pair.1 pair.2 members) members

/-- The parts of a value: a value, a member of an object, and what follows the first
item or the first member up to the closing bracket. -/
inductive Phrase where
  | value (js : Json)
  | member (key : String) (js : Json)
  | items (rest : List Json)
  | members (rest : List (String × Json))

/-- The texts of a part, with the whitespace before it. -/
inductive Writes (strtod : List UInt8 → Option (Int × String)) : Phrase → List UInt8 → Prop
  | scalar (token : Token) (js : Json) (gap text : List UInt8) (blank : Blank gap)
      (lexeme : Lexeme token text) (single : scalar strtod token = some js) :
      Writes strtod (.value js) (gap ++ text)
  | emptyArray (gap inner : List UInt8) (blank : Blank gap) (hollow : Blank inner) :
      Writes strtod (.value (.array [])) (gap ++ 0x5B :: (inner ++ [0x5D]))
  | array (gap text tail : List UInt8) (first : Json) (more : List Json) (blank : Blank gap)
      (head : Writes strtod (.value first) text) (later : Writes strtod (.items more) tail) :
      Writes strtod (.value (.array (first :: more))) (gap ++ 0x5B :: (text ++ tail))
  | emptyObject (gap inner : List UInt8) (blank : Blank gap) (hollow : Blank inner) :
      Writes strtod (.value (.object [])) (gap ++ 0x7B :: (inner ++ [0x7D]))
  | object (gap text tail : List UInt8) (key : String) (first : Json)
      (more : List (String × Json)) (blank : Blank gap)
      (head : Writes strtod (.member key first) text)
      (later : Writes strtod (.members more) tail) :
      Writes strtod (.value (.object (assigned [] ((key, first) :: more))))
        (gap ++ 0x7B :: (text ++ tail))
  | member (before name behind text : List UInt8) (key : String) (js : Json)
      (blank : Blank before) (quoted : Quoted key name) (spaced : Blank behind)
      (assigns : Writes strtod (.value js) text) :
      Writes strtod (.member key js) (before ++ (name ++ (behind ++ 0x3A :: text)))
  | endItems (gap : List UInt8) (blank : Blank gap) : Writes strtod (.items []) (gap ++ [0x5D])
  | nextItem (gap text tail : List UInt8) (first : Json) (more : List Json) (blank : Blank gap)
      (head : Writes strtod (.value first) text) (later : Writes strtod (.items more) tail) :
      Writes strtod (.items (first :: more)) (gap ++ 0x2C :: (text ++ tail))
  | endMembers (gap : List UInt8) (blank : Blank gap) :
      Writes strtod (.members []) (gap ++ [0x7D])
  | nextMember (gap text tail : List UInt8) (key : String) (first : Json)
      (more : List (String × Json)) (blank : Blank gap)
      (head : Writes strtod (.member key first) text)
      (later : Writes strtod (.members more) tail) :
      Writes strtod (.members ((key, first) :: more)) (gap ++ 0x2C :: (text ++ tail))

/-- A whole input with its value. -/
def Document (strtod : List UInt8 → Option (Int × String)) (input : List UInt8) (js : Json) :
    Prop :=
  ∃ mark text rest, input = mark ++ (text ++ rest) ∧ (mark = [] ∨ mark = [0xEF, 0xBB, 0xBF]) ∧
    Writes strtod (.value js) text ∧ Finished rest

/-!
## Tokens
-/

/-- An input begins with all its blanks. -/
theorem blank_split (input : List UInt8) : Blank (input.takeWhile isBlank) ∧
    input = input.takeWhile isBlank ++ input.dropWhile isBlank :=
  ⟨fun _ member => List.mem_takeWhile_imp member, List.takeWhile_append_dropWhile.symm⟩

/-- Blanks in front of an input are skipped with its own. -/
theorem dropWhile_gap (gap rest : List UInt8) (blank : Blank gap) :
    (gap ++ rest).dropWhile isBlank = rest.dropWhile isBlank :=
  List.dropWhile_append_of_pos blank

/-- What a number begins with begins nothing else. -/
theorem number_apart (byte : UInt8) (begins : byte = 0x2D ∨ isDigit byte = true) :
    punctuation byte = none ∧ literal byte = none ∧ byte ≠ 0x22 ∧ isBlank byte = false := by
  rcases begins with rfl | digit
  · decide
  · have apart : ∀ other, isDigit other = false → byte ≠ other := by
      rintro other notDigit rfl
      rw [notDigit] at digit
      cases digit
    refine ⟨?_, ?_, apart _ (by decide), ?_⟩
    · simp [punctuation, apart 0x5B (by decide), apart 0x5D (by decide), apart 0x7B (by decide),
        apart 0x7D (by decide), apart 0x3A (by decide), apart 0x2C (by decide),
        apart 0x00 (by decide)]
    · simp [literal, apart 0x74 (by decide), apart 0x66 (by decide), apart 0x6E (by decide)]
    · simp [isBlank, apart 0x20 (by decide), apart 0x09 (by decide), apart 0x0A (by decide),
        apart 0x0D (by decide)]

/-- A number begins with a minus or a digit. -/
theorem number_first (byte : UInt8) (text : List UInt8) (number : Number (byte :: text)) :
    byte = 0x2D ∨ isDigit byte = true := by
  obtain ⟨state, begun, _⟩ := (accepts_number byte text).mp number
  rw [NumberState.init] at begun
  split_ifs at begun with minus zero digit
  · exact Or.inl minus
  · exact Or.inr (by rw [zero]; rfl)
  · exact Or.inr digit

/-- A mark is no blank, and the end of the input is the NUL alone. -/
theorem punctuation_solid (byte : UInt8) (token : Token) (single : punctuation byte = some token) :
    isBlank byte = false ∧ (byte = 0 ↔ token = .endOfInput) := by
  unfold punctuation at single
  split_ifs at single with a b c d e f g <;> cases single <;> subst_vars <;> decide

/-- The token of a number is one. -/
theorem numberToken_isNumber (number_type : NumberType) (text : List UInt8) :
    (numberToken number_type text).isNumber = true := by
  unfold numberToken
  split
  · split <;> rfl
  · split <;> rfl
  · rfl

/-- A word begins with a letter. -/
theorem literal_solid (byte : UInt8) (found : Token × List UInt8)
    (named : literal byte = some found) :
    punctuation byte = none ∧ isBlank byte = false := by
  unfold literal at named
  split_ifs at named with a b c <;> subst_vars <;> decide

/-- The text of a token is scanned whole. -/
theorem scanToken_lexeme (token : Token) (text rest : List UInt8) (lexeme : Lexeme token text)
    (follows : Follows token rest) : ∃ byte behind, text = byte :: behind ∧
      isBlank byte = false ∧ scanToken byte (behind ++ rest) = some (token, rest) := by
  cases lexeme with
  | mark _ byte single more =>
    refine ⟨byte, [], rfl, (punctuation_solid byte token single).1, ?_⟩
    simp only [scanToken, single, List.nil_append]
  | word _ byte letters named =>
    obtain ⟨other, solid⟩ := literal_solid byte _ named
    have spelled : ∀ letters, scanLiteral token letters (letters ++ rest) = some (token, rest) := by
      intro letters
      induction letters with
      | nil => rfl
      | cons letter letters inductionHypothesis =>
        rw [List.cons_append, scanLiteral, if_pos rfl, inductionHypothesis]
    refine ⟨byte, letters, rfl, solid, ?_⟩
    simp only [scanToken, other, named, spelled]
  | string value text quoted =>
    obtain ⟨inner, shape, rfl⟩ := quoted
    refine ⟨0x22, inner ++ [0x22], rfl, by decide, ?_⟩
    have scanned := scanString_chars value.toList inner [] rest shape
    have decoded := Utf8.decode_encodeAll value.toList
    rw [String.ofList_toList] at decoded
    rw [scanToken, show punctuation 0x22 = none from rfl, show literal 0x22 = none from rfl]
    simp only [if_true, List.append_assoc, List.singleton_append, scanned, List.nil_append,
      Option.bind_eq_bind, Option.bind_some, decoded]
  | number text number =>
    cases text with
    | nil =>
      obtain ⟨_, whole, _, _, empty, _, part, _⟩ := number
      have none := (List.append_eq_nil_iff.mp (List.append_eq_nil_iff.mp empty.symm).2).1
      rcases part with absent | ⟨_, _, absent, _⟩ <;> rw [none] at absent <;> cases absent
    | cons byte behind =>
      have begins := number_first byte behind number
      obtain ⟨other, unnamed, quote, solid⟩ := number_apart byte begins
      refine ⟨byte, behind, rfl, solid, ?_⟩
      simp only [scanToken, other, unnamed, quote, begins, if_true, if_false]
      exact scanNumber_number byte behind rest number (follows (numberToken_isNumber _ _))

/-- The text of a token is scanned as that token, and nothing behind it. -/
theorem scan_lexeme (token : Token) (gap text rest : List UInt8) (blank : Blank gap)
    (lexeme : Lexeme token text) (follows : Follows token rest) :
    scan (gap ++ (text ++ rest)) = some (token, rest) := by
  obtain ⟨byte, behind, rfl, solid, scanned⟩ := scanToken_lexeme token text rest lexeme follows
  rw [scan, dropWhile_gap gap _ blank, List.cons_append, List.dropWhile_cons, solid]
  exact scanned

/-- What is scanned is the text of a token, or the end. -/
theorem scanToken_split (byte : UInt8) (input rest : List UInt8) (token : Token)
    (read : scanToken byte input = some (token, rest)) :
    (byte = 0 ∧ token = .endOfInput) ∨
      ∃ text, Lexeme token (byte :: text) ∧ input = text ++ rest := by
  unfold scanToken at read
  split at read
  · rename_i found single
    cases read
    by_cases ended : byte = 0
    · exact Or.inl ⟨ended, (punctuation_solid byte token single).2.mp ended⟩
    · refine Or.inr ⟨[], Lexeme.mark token byte single fun final => ?_, rfl⟩
      exact ended ((punctuation_solid byte token single).2.mpr final)
  · rename_i found letters _ named
    obtain ⟨rfl, split⟩ := scanLiteral_split found token letters input rest read
    exact Or.inr ⟨letters, Lexeme.word token byte letters named, split⟩
  · split at read
    · rename_i quote
      simp only [Option.bind_eq_bind, Option.bind_eq_some_iff] at read
      obtain ⟨⟨buffer, left⟩, scanned, value, decoded, ended⟩ := read
      cases ended
      obtain ⟨chars, inner, shape, split, rfl⟩ := scanString_split [] input buffer left scanned
      rw [List.nil_append, Utf8.decode_encodeAll] at decoded
      cases decoded
      refine Or.inr ⟨inner ++ [0x22], Lexeme.string _ _ ⟨inner, ?_, by rw [quote]⟩, ?_⟩
      · rw [String.toList_ofList]
        exact shape
      · rw [split, List.append_assoc, List.singleton_append]
    · split at read
      · obtain ⟨taken, split, number, rfl⟩ := scanNumber_split byte input rest token read
        exact Or.inr ⟨taken, Lexeme.number _ number, split⟩
      · cases read

/-- What the scanner returns is the end of the input or the next token of the grammar. -/
theorem scan_split (input rest : List UInt8) (token : Token)
    (read : scan input = some (token, rest)) :
    (token = .endOfInput ∧ Finished input) ∨
      ∃ gap text, Blank gap ∧ Lexeme token text ∧ input = gap ++ (text ++ rest) := by
  obtain ⟨blank, whole⟩ := blank_split input
  rw [scan] at read
  split at read
  · rename_i silent
    cases read
    exact Or.inl ⟨rfl, _, _, blank, whole, Or.inl silent⟩
  · rename_i byte behind solid
    rcases scanToken_split byte behind rest token read with ⟨ended, final⟩ | ⟨text, lexeme, split⟩
    · refine Or.inl ⟨final, _, _, blank, whole, Or.inr ?_⟩
      rw [solid, ended]
      rfl
    · refine Or.inr ⟨_, byte :: text, blank, lexeme, ?_⟩
      rw [List.cons_append, ← split, ← solid]
      exact whole

/-- The byte of a token that has only one. -/
def Lexer.Token.mark : Token → Option UInt8
  | .beginArray => some 0x5B
  | .endArray => some 0x5D
  | .beginObject => some 0x7B
  | .endObject => some 0x7D
  | .nameSeparator => some 0x3A
  | .valueSeparator => some 0x2C
  | _ => none

/-- The byte of a mark is the mark's. -/
theorem punctuation_mark (byte : UInt8) (token : Token) (single : punctuation byte = some token)
    (more : token ≠ .endOfInput) : token.mark = some byte := by
  unfold punctuation at single
  split_ifs at single with a b c d e f g <;> cases single <;> subst_vars <;>
    first | rfl | exact absurd rfl more

/-- A mark is no number. -/
theorem mark_apart (token : Token) (byte : UInt8) (single : token.mark = some byte) :
    token.isNumber = false := by
  cases token <;> first | rfl | cases single

/-- A token of one byte has no other text. -/
theorem lexeme_mark (token : Token) (byte : UInt8) (text : List UInt8)
    (single : token.mark = some byte) (lexeme : Lexeme token text) : text = [byte] := by
  cases lexeme with
  | mark _ other found more =>
    rw [punctuation_mark other token found more] at single
    rw [Option.some.inj single]
  | word _ other letters named =>
    unfold literal at named
    split_ifs at named <;> cases named <;> cases single
  | string value text quoted => cases single
  | number text number =>
    have value := numberToken_isNumber (numberType text) text
    rw [mark_apart _ byte single] at value
    cases value

/-- The text of a string has its quotes. -/
theorem lexeme_string (value : String) (text : List UInt8)
    (lexeme : Lexeme (.valueString value) text) : Quoted value text := by
  generalize same : Token.valueString value = token at lexeme
  cases lexeme with
  | mark _ byte found more =>
    subst same
    have single := punctuation_mark byte _ found more
    cases single
  | word _ byte letters named =>
    unfold literal at named
    split_ifs at named <;> cases named <;> cases same
  | string value text quoted =>
    cases same
    exact quoted
  | number text number =>
    have value := numberToken_isNumber (numberType text) text
    rw [← same] at value
    cases value

/-- The text of a token is not the end. -/
theorem lexeme_more (token : Token) (text : List UInt8) (lexeme : Lexeme token text) :
    token ≠ .endOfInput := by
  rintro rfl
  generalize final : Token.endOfInput = token at lexeme
  cases lexeme with
  | mark _ byte single more => exact more final.symm
  | word _ byte letters named =>
    unfold literal at named
    split_ifs at named <;> cases named <;> cases final
  | string value text quoted => cases final
  | number text number =>
    have value := numberToken_isNumber (numberType text) text
    rw [← final] at value
    cases value

/-- A mark is scanned behind blanks. -/
theorem scan_mark (token : Token) (gap rest : List UInt8) (byte : UInt8) (blank : Blank gap)
    (single : punctuation byte = some token) (more : token ≠ .endOfInput) :
    scan (gap ++ byte :: rest) = some (token, rest) := by
  refine scan_lexeme token gap [byte] rest blank (Lexeme.mark token byte single more) ?_
  intro number
  rw [mark_apart token byte (punctuation_mark byte token single more)] at number
  cases number

/-- A mark that was scanned stands behind blanks. -/
theorem scan_mark_split (input rest : List UInt8) (token : Token) (byte : UInt8)
    (single : token.mark = some byte) (read : scan input = some (token, rest)) :
    ∃ gap, Blank gap ∧ input = gap ++ byte :: rest := by
  rcases scan_split input rest token read with ⟨rfl, _⟩ | ⟨gap, text, blank, lexeme, split⟩
  · cases single
  · rw [lexeme_mark token byte text single lexeme] at split
    exact ⟨gap, blank, split⟩

/-- The scanner finds the end of the input where there is no token left, and only there. -/
theorem scan_finished (input : List UInt8) :
    (∃ rest, scan input = some (.endOfInput, rest)) ↔ Finished input := by
  constructor
  · rintro ⟨rest, read⟩
    rcases scan_split input rest .endOfInput read with ⟨_, finished⟩ | ⟨_, text, _, lexeme, _⟩
    · exact finished
    · exact absurd rfl (lexeme_more _ text lexeme)
  · rintro ⟨gap, tail, blank, rfl, rfl | nul⟩
    · exact ⟨[], by rw [scan, dropWhile_gap gap [] blank]; rfl⟩
    · cases tail with
      | nil => cases nul
      | cons byte tail =>
        cases nul
        exact ⟨tail, by rw [scan, dropWhile_gap gap _ blank]; rfl⟩

/-!
## From the grammar to the loop
-/

section Loop

variable {strtod : List UInt8 → Option (Int × String)}

/-- A number ends before blanks and a mark. -/
theorem ends_gap (gap rest : List UInt8) (byte : UInt8) (blank : Blank gap)
    (other : isDigit byte = false ∧ byte ≠ 0x2E ∧ isExponent byte = false) :
    Ends (gap ++ byte :: rest) := by
  intro first head
  cases gap with
  | nil =>
    cases head
    exact other
  | cons space gap =>
    have isSpace : isBlank space = true := blank space List.mem_cons_self
    cases head
    simp only [isBlank, decide_eq_true_eq] at isSpace
    rcases isSpace with rfl | rfl | rfl | rfl <;> decide

/-- A number ends where the input does. -/
theorem ends_finished (rest : List UInt8) (finished : Finished rest) : Ends rest := by
  obtain ⟨gap, tail, blank, rfl, rfl | nul⟩ := finished
  · cases gap with
    | nil => exact fun _ head => by cases head
    | cons space gap =>
      rw [List.append_nil]
      exact ends_gap [] gap space (List.forall_mem_nil _) (by
        have isSpace : isBlank space = true := blank space List.mem_cons_self
        simp only [isBlank, decide_eq_true_eq] at isSpace
        rcases isSpace with rfl | rfl | rfl | rfl <;> decide)
  · cases tail with
    | nil => cases nul
    | cons byte tail =>
      cases nul
      exact ends_gap gap tail 0 blank (by decide)

/-- What a text does to the loop, with any containers open. -/
def Reads (strtod : List UInt8 → Option (Int × String)) : Phrase → List UInt8 → Prop
  | .value js, text => ∀ states rest, Ends rest → ∃ token behind,
      scan (text ++ rest) = some (token, behind) ∧ token ≠ .endArray ∧
        saxParseInternal strtod states token behind = stateEvaluation strtod states js rest
  | .member key js, text => ∀ states rest, Ends rest → ∃ token behind,
      parseKey (text ++ rest) = some (key, token, behind) ∧
        saxParseInternal strtod states token behind = stateEvaluation strtod states js rest
  | .items more, text => ∀ states items value rest,
      Ends (text ++ rest) ∧ stateEvaluation strtod (.array items :: states) value (text ++ rest) =
        stateEvaluation strtod states (.array (items ++ value :: more)) rest
  | .members more, text => ∀ states members key value rest,
      Ends (text ++ rest) ∧
        stateEvaluation strtod (.object members key :: states) value (text ++ rest) =
          stateEvaluation strtod states (.object (assigned members ((key, value) :: more))) rest

/-- A value of one token closes no array. -/
theorem scalar_apart (token : Token) (js : Json) (single : scalar strtod token = some js) :
    token ≠ .endArray := by
  rintro rfl
  cases single

/-- No token is a container. -/
theorem scalar_flat (token : Token) (js : Json)
    (container : (∃ items, js = .array items) ∨ ∃ members, js = .object members) :
    scalar strtod token ≠ some js := by
  intro single
  rcases container with ⟨items, rfl⟩ | ⟨members, rfl⟩
  · cases token with
    | valueFloat text =>
      obtain ⟨_, _, impossible⟩ := Option.map_eq_some_iff.mp single
      cases impossible
    | _ => cases single
  · cases token with
    | valueFloat text =>
      obtain ⟨_, _, impossible⟩ := Option.map_eq_some_iff.mp single
      cases impossible
    | _ => cases single

/-- A key with its colon is read, with blanks around it. -/
theorem parseKey_text (key : String) (before name behind rest : List UInt8) (token : Token)
    (left : List UInt8) (blank : Blank before) (quoted : Quoted key name) (spaced : Blank behind)
    (scanned : scan rest = some (token, left)) :
    parseKey (before ++ (name ++ (behind ++ 0x3A :: rest))) = some (key, token, left) := by
  have first : scan (before ++ (name ++ (behind ++ 0x3A :: rest))) =
      some (.valueString key, behind ++ 0x3A :: rest) :=
    scan_lexeme _ before name _ blank (Lexeme.string key name quoted) fun number => by cases number
  have separated : scan (behind ++ 0x3A :: rest) = some (.nameSeparator, rest) :=
    scan_mark _ behind rest 0x3A spaced rfl fun final => by cases final
  rw [parseKey, first]
  simp only [parseSeparator, separated, scanned, Option.map_some]

/-- The loop goes on from a value behind its text. -/
def ReadsOn (strtod : List UInt8 → Option (Int × String)) (js : Json) (input rest : List UInt8) :
    Prop :=
  ∀ states, ∃ token behind, scan input = some (token, behind) ∧ token ≠ .endArray ∧
    saxParseInternal strtod states token behind = stateEvaluation strtod states js rest

/-- An object ends with its brace, whatever follows it. -/
theorem reads_emptyObject (gap inner rest : List UInt8) (blank : Blank gap) (hollow : Blank inner) :
    ReadsOn strtod (.object []) (gap ++ 0x7B :: (inner ++ [0x7D]) ++ rest) rest := by
  intro states
  refine ⟨.beginObject, inner ++ 0x7D :: rest, ?_, nofun, ?_⟩
  · rw [List.append_assoc, List.cons_append, List.append_assoc, List.singleton_append]
    exact scan_mark _ gap _ 0x7B blank rfl fun final => by cases final
  · exact saxParseInternal_emptyObject
      (scan_mark _ inner rest 0x7D hollow rfl fun final => by cases final)

/-- An object is read when its first member and the others are. -/
theorem reads_object (gap text tail rest : List UInt8) (key : String) (first : Json)
    (more : List (String × Json)) (blank : Blank gap)
    (memberReads : Reads strtod (.member key first) text)
    (membersRead : Reads strtod (.members more) tail) :
    ReadsOn strtod (.object (assigned [] ((key, first) :: more)))
      (gap ++ 0x7B :: (text ++ tail) ++ rest) rest := by
  intro states
  obtain ⟨ends, evaluated⟩ := membersRead states [] key first rest
  obtain ⟨token, behind, named, parsed⟩ :=
    memberReads (.object [] key :: states) (tail ++ rest) ends
  refine ⟨.beginObject, text ++ (tail ++ rest), ?_, nofun, ?_⟩
  · rw [List.append_assoc, List.cons_append, List.append_assoc]
    exact scan_mark _ gap _ 0x7B blank rfl fun final => by cases final
  · rw [saxParseInternal_object named, parsed, evaluated]

/-- The loop takes every text of the grammar from its first token to the point behind
its value. -/
theorem complete (part : Phrase) (text : List UInt8) (writes : Writes strtod part text) :
    Reads strtod part text := by
  induction writes with
  | scalar token js gap text blank lexeme single =>
    intro states rest ends
    refine ⟨token, rest, ?_, scalar_apart token js single, saxParseInternal_scalar single⟩
    rw [List.append_assoc]
    exact scan_lexeme token gap text rest blank lexeme fun _ => ends
  | emptyArray gap inner blank hollow =>
    intro states rest _
    refine ⟨.beginArray, inner ++ 0x5D :: rest, ?_, nofun, ?_⟩
    · rw [List.append_assoc, List.cons_append, List.append_assoc, List.singleton_append]
      exact scan_mark _ gap _ 0x5B blank rfl fun final => by cases final
    · exact saxParseInternal_emptyArray
        (scan_mark _ inner rest 0x5D hollow rfl fun final => by cases final)
  | array gap text tail first more blank _ _ valueReads itemsRead =>
    intro states rest _
    obtain ⟨ends, evaluated⟩ := itemsRead states [] first rest
    obtain ⟨token, behind, scanned, other, parsed⟩ :=
      valueReads (.array [] :: states) (tail ++ rest) ends
    refine ⟨.beginArray, text ++ (tail ++ rest), ?_, nofun, ?_⟩
    · rw [List.append_assoc, List.cons_append, List.append_assoc]
      exact scan_mark _ gap _ 0x5B blank rfl fun final => by cases final
    · rw [saxParseInternal_array scanned other, parsed, evaluated, List.nil_append]
  | emptyObject gap inner blank hollow =>
    exact fun states rest _ => reads_emptyObject gap inner rest blank hollow states
  | object gap text tail key first more blank _ _ memberReads membersRead =>
    exact fun states rest _ =>
      reads_object gap text tail rest key first more blank memberReads membersRead states
  | member before name behind text key js blank quoted spaced _ valueReads =>
    intro states rest ends
    obtain ⟨token, left, scanned, _, parsed⟩ := valueReads states rest ends
    refine ⟨token, left, ?_, parsed⟩
    simp only [List.append_assoc, List.cons_append]
    exact parseKey_text key before name behind _ token left blank quoted spaced scanned
  | endItems gap blank =>
    intro states items value rest
    rw [List.append_assoc, List.singleton_append]
    exact ⟨ends_gap gap rest 0x5D blank (by decide), stateEvaluation_endArray
      (scan_mark _ gap rest 0x5D blank rfl fun final => by cases final)⟩
  | nextItem gap text tail first more blank _ _ valueReads itemsRead =>
    intro states items value rest
    obtain ⟨ends, evaluated⟩ := itemsRead states (items ++ [value]) first rest
    obtain ⟨token, behind, scanned, _, parsed⟩ :=
      valueReads (.array (items ++ [value]) :: states) (tail ++ rest) ends
    rw [List.append_assoc, List.cons_append, List.append_assoc]
    refine ⟨ends_gap gap _ 0x2C blank (by decide), ?_⟩
    have separated : scan (gap ++ 0x2C :: (text ++ (tail ++ rest))) =
        some (.valueSeparator, text ++ (tail ++ rest)) :=
      scan_mark _ gap _ 0x2C blank rfl fun final => by cases final
    rw [stateEvaluation_nextItem separated scanned, parsed, evaluated, List.append_assoc,
      List.singleton_append]
  | endMembers gap blank =>
    intro states members key value rest
    rw [List.append_assoc, List.singleton_append]
    exact ⟨ends_gap gap rest 0x7D blank (by decide), stateEvaluation_endObject
      (scan_mark _ gap rest 0x7D blank rfl fun final => by cases final)⟩
  | nextMember gap text tail key first more blank _ _ memberReads membersRead =>
    intro states members name value rest
    obtain ⟨ends, evaluated⟩ :=
      membersRead states (insertMember name value members) key first rest
    obtain ⟨token, behind, named, parsed⟩ :=
      memberReads (.object (insertMember name value members) key :: states) (tail ++ rest) ends
    rw [List.append_assoc, List.cons_append, List.append_assoc]
    refine ⟨ends_gap gap _ 0x2C blank (by decide), ?_⟩
    have separated : scan (gap ++ 0x2C :: (text ++ (tail ++ rest))) =
        some (.valueSeparator, text ++ (tail ++ rest)) :=
      scan_mark _ gap _ 0x2C blank rfl fun final => by cases final
    rw [stateEvaluation_nextMember separated named, parsed, evaluated]
    rfl

/-!
## From the loop to the grammar
-/

/-- A key that was read has its colon and blanks. -/
theorem parseKey_split (input rest : List UInt8) (key : String) (token : Token)
    (read : parseKey input = some (key, token, rest)) :
    ∃ before name behind left, Blank before ∧ Quoted key name ∧ Blank behind ∧
      input = before ++ (name ++ (behind ++ 0x3A :: left)) ∧ scan left = some (token, rest) := by
  unfold parseKey at read
  split at read
  · rename_i text following named
    obtain ⟨⟨found, last⟩, separated, ended⟩ := Option.map_eq_some_iff.mp read
    cases ended
    unfold parseSeparator at separated
    split at separated
    · rename_i left colon
      rcases scan_split input following _ named with ⟨impossible, _⟩ |
        ⟨before, name, blank, lexeme, split⟩
      · cases impossible
      obtain ⟨behind, spaced, joined⟩ := scan_mark_split following left _ 0x3A rfl colon
      exact ⟨before, name, behind, left, blank, lexeme_string key name lexeme, spaced,
        by rw [split, joined], separated⟩
    · cases separated
  · cases read

/-- A parse that goes on from a token read the token from the input before it. -/
theorem token_split (states : List Open) (input rest : List UInt8) (token : Token)
    (out : Json × List UInt8) (scanned : scan input = some (token, rest))
    (read : saxParseInternal strtod states token rest = some out) :
    ∃ gap lexeme, Blank gap ∧ Lexeme token lexeme ∧ input = gap ++ (lexeme ++ rest) := by
  rcases scan_split input rest token scanned with ⟨rfl, _⟩ | found
  · rcases saxParseInternal_cases read with ⟨_, impossible, _⟩ | ⟨impossible, _⟩ | ⟨impossible, _⟩ <;>
      cases impossible
  · exact found

/-- A successful run of the loop from a token on: there is a text of a value behind it
from which the loop goes on. -/
def Takes (strtod : List UInt8 → Option (Int × String)) (input : List UInt8) : Prop :=
  ∀ states token rest out, scan input = some (token, rest) →
    saxParseInternal strtod states token rest = some out →
    ∃ js text behind, Writes strtod (.value js) text ∧ input = text ++ behind ∧
      stateEvaluation strtod states js behind = some out

/-- The same behind the first item or member of an open container. -/
def Closes (strtod : List UInt8 → Option (Int × String)) (input : List UInt8) : Prop :=
  (∀ states items value out, stateEvaluation strtod (.array items :: states) value input = some out →
    ∃ more text behind, Writes strtod (.items more) text ∧ input = text ++ behind ∧
      stateEvaluation strtod states (.array (items ++ value :: more)) behind = some out) ∧
  ∀ states members key value out,
    stateEvaluation strtod (.object members key :: states) value input = some out →
    ∃ more text behind, Writes strtod (.members more) text ∧ input = text ++ behind ∧
      stateEvaluation strtod states (.object (assigned members ((key, value) :: more))) behind =
        some out

section Shorter

variable {input : List UInt8}
  (shorter : ∀ left : List UInt8, left.length < input.length → Takes strtod left ∧ Closes strtod left)

include shorter

/-- A member that was read has a text. -/
theorem takes_member (rest behind : List UInt8) (states : List Open) (key : String) (first : Token)
    (out : Json × List UInt8) (less : rest.length < input.length)
    (named : parseKey rest = some (key, first, behind))
    (parsed : saxParseInternal strtod states first behind = some out) :
    ∃ js text following, Writes strtod (.member key js) text ∧ rest = text ++ following ∧
      stateEvaluation strtod states js following = some out := by
  obtain ⟨before, name, middle, left, leading, quoted, spaced, joined, valued⟩ :=
    parseKey_split rest behind key first named
  have nearer : left.length < input.length := by
    rw [joined] at less
    simp only [List.length_append, List.length_cons] at less
    omega
  obtain ⟨js, text, following, writes, taken, evaluated⟩ :=
    (shorter left nearer).1 states first behind out valued parsed
  refine ⟨js, _, following,
    Writes.member before name middle text key js leading quoted spaced writes, ?_, evaluated⟩
  rw [joined, taken]
  simp

/-- So has an object, whose loop is shorter. -/
theorem takes_object (gap rest : List UInt8) (states : List Open) (out : Json × List UInt8)
    (blank : Blank gap) (split : input = gap ++ 0x7B :: rest)
    (opened : (∃ behind, scan rest = some (.endObject, behind) ∧
        stateEvaluation strtod states (.object []) behind = some out) ∨
      ∃ key first behind, parseKey rest = some (key, first, behind) ∧
        saxParseInternal strtod (.object [] key :: states) first behind = some out) :
    ∃ js text behind, Writes strtod (.value js) text ∧ input = text ++ behind ∧
      stateEvaluation strtod states js behind = some out := by
  rcases opened with ⟨behind, closed, evaluated⟩ | ⟨key, first, behind, named, parsed⟩
  · obtain ⟨inner, hollow, joined⟩ := scan_mark_split rest behind _ 0x7D rfl closed
    refine ⟨_, _, behind, Writes.emptyObject gap inner blank hollow, ?_, evaluated⟩
    rw [split, joined]
    simp
  · have less : rest.length < input.length := by
      rw [split, List.length_append, List.length_cons]
      omega
    obtain ⟨js, text, following, writes, taken, evaluated⟩ :=
      takes_member shorter rest behind _ key first out less named parsed
    have last : following.length < input.length := by
      rw [taken, List.length_append] at less
      omega
    obtain ⟨more, tail, final, later, ended, evaluated⟩ :=
      (shorter following last).2.2 states [] key js out evaluated
    refine ⟨_, _, final, Writes.object gap text tail key js more blank writes later, ?_, evaluated⟩
    rw [split, taken, ended]
    simp

/-- So has an array. -/
theorem takes_array (gap rest : List UInt8) (states : List Open) (out : Json × List UInt8)
    (blank : Blank gap) (split : input = gap ++ 0x5B :: rest)
    (opened : (∃ behind, scan rest = some (.endArray, behind) ∧
        stateEvaluation strtod states (.array []) behind = some out) ∨
      ∃ first behind, scan rest = some (first, behind) ∧
        saxParseInternal strtod (.array [] :: states) first behind = some out) :
    ∃ js text behind, Writes strtod (.value js) text ∧ input = text ++ behind ∧
      stateEvaluation strtod states js behind = some out := by
  rcases opened with ⟨behind, closed, evaluated⟩ | ⟨first, behind, valued, parsed⟩
  · obtain ⟨inner, hollow, joined⟩ := scan_mark_split rest behind _ 0x5D rfl closed
    refine ⟨_, _, behind, Writes.emptyArray gap inner blank hollow, ?_, evaluated⟩
    rw [split, joined]
    simp
  · have less : rest.length < input.length := by
      rw [split, List.length_append, List.length_cons]
      omega
    obtain ⟨js, text, following, writes, taken, evaluated⟩ :=
      (shorter rest less).1 _ first behind out valued parsed
    have last : following.length < input.length := by
      rw [taken, List.length_append] at less
      omega
    obtain ⟨more, tail, final, later, ended, evaluated⟩ :=
      (shorter following last).2.1 states [] js out evaluated
    refine ⟨_, _, final, Writes.array gap text tail js more blank writes later, ?_, evaluated⟩
    rw [split, taken, ended]
    simp

/-- So has every value. -/
theorem takes : Takes strtod input := by
  intro states token rest out scanned read
  obtain ⟨gap, lexeme, blank, shape, split⟩ := token_split states input rest token out scanned read
  rcases saxParseInternal_cases read with ⟨js, single, evaluated⟩ | ⟨rfl, opened⟩ | ⟨rfl, opened⟩
  · refine ⟨js, gap ++ lexeme, rest, Writes.scalar token js gap lexeme blank shape single, ?_,
      evaluated⟩
    rw [split, List.append_assoc]
  · rw [lexeme_mark _ 0x7B lexeme rfl shape] at split
    exact takes_object shorter gap rest states out blank split opened
  · rw [lexeme_mark _ 0x5B lexeme rfl shape] at split
    exact takes_array shorter gap rest states out blank split opened

/-- So has every rest of a container, up to its bracket. -/
theorem closes : Closes strtod input := by
  constructor
  · intro states items value out read
    rcases stateEvaluation_array_cases read with ⟨rest, first, behind, separated, valued, parsed⟩ |
      ⟨rest, closed, evaluated⟩
    · obtain ⟨gap, blank, split⟩ := scan_mark_split input rest _ 0x2C rfl separated
      have less : rest.length < input.length := by
        rw [split, List.length_append, List.length_cons]
        omega
      obtain ⟨js, text, following, writes, taken, evaluated⟩ :=
        (shorter rest less).1 _ first behind out valued parsed
      have last : following.length < input.length := by
        rw [taken, List.length_append] at less
        omega
      obtain ⟨more, tail, final, later, ended, evaluated⟩ :=
        (shorter following last).2.1 states _ js out evaluated
      refine ⟨js :: more, _, final, Writes.nextItem gap text tail js more blank writes later, ?_, ?_⟩
      · rw [split, taken, ended]
        simp
      · rw [← evaluated, List.append_assoc, List.singleton_append]
    · obtain ⟨gap, blank, split⟩ := scan_mark_split input rest _ 0x5D rfl closed
      refine ⟨[], gap ++ [0x5D], rest, Writes.endItems gap blank, ?_, evaluated⟩
      rw [split, List.append_assoc, List.singleton_append]
  · intro states members name value out read
    rcases stateEvaluation_object_cases read with
      ⟨rest, key, first, behind, separated, named, parsed⟩ | ⟨rest, closed, evaluated⟩
    · obtain ⟨gap, blank, split⟩ := scan_mark_split input rest _ 0x2C rfl separated
      have less : rest.length < input.length := by
        rw [split, List.length_append, List.length_cons]
        omega
      obtain ⟨js, text, following, writes, taken, evaluated⟩ :=
        takes_member shorter rest behind _ key first out less named parsed
      have last : following.length < input.length := by
        rw [taken, List.length_append] at less
        omega
      obtain ⟨more, tail, final, later, ended, evaluated⟩ :=
        (shorter following last).2.2 states _ key js out evaluated
      refine ⟨(key, js) :: more, _, final,
        Writes.nextMember gap text tail key js more blank writes later, ?_, evaluated⟩
      rw [split, taken, ended]
      simp
    · obtain ⟨gap, blank, split⟩ := scan_mark_split input rest _ 0x7D rfl closed
      refine ⟨[], gap ++ [0x7D], rest, Writes.endMembers gap blank, ?_, evaluated⟩
      rw [split, List.append_assoc, List.singleton_append]

end Shorter

/-- Whatever the loop takes off the input is a text of the grammar. -/
theorem sound (input : List UInt8) : Takes strtod input ∧ Closes strtod input := by
  induction length : input.length using Nat.strong_induction_on generalizing input with
  | h bound inductionHypothesis =>
    subst length
    have shorter : ∀ left : List UInt8, left.length < input.length →
        Takes strtod left ∧ Closes strtod left :=
      fun left less => inductionHypothesis left.length less left rfl
    exact ⟨takes shorter, closes shorter⟩

/-!
## Whole inputs
-/

/-- No value begins with a byte order mark. -/
theorem scan_bom (rest behind : List UInt8) (token : Token) :
    scan (0xEF :: rest) ≠ some (token, behind) := by
  intro read
  have none : scan (0xEF :: rest) = Option.none := by
    rw [scan, List.dropWhile_cons, show isBlank 0xEF = false from rfl]
    rfl
  rw [none] at read
  cases read

/-- Three bytes are skipped, and no part of them is accepted. -/
theorem skipBom_iff (input rest : List UInt8) : skipBom input = some rest ↔
    input = [0xEF, 0xBB, 0xBF] ++ rest ∨ input = rest ∧ rest.head? ≠ some 0xEF := by
  cases input with
  | nil => cases rest <;> simp [skipBom]
  | cons byte input =>
    rw [skipBom.eq_def]
    by_cases mark : byte = 0xEF
    · subst mark
      have unmarked : ¬ (0xEF :: input = rest ∧ rest.head? ≠ some 0xEF) := by
        rintro ⟨rfl, other⟩
        exact other rfl
      rw [or_iff_left unmarked]
      rcases input with _ | ⟨second, _ | ⟨third, left⟩⟩
      · simp
      · simp
      · by_cases whole : second = 0xBB ∧ third = 0xBF
        · simp [whole]
        · simp only [if_true, if_neg whole, List.cons_append, List.nil_append, List.cons.injEq,
            true_and, reduceCtorEq, false_iff]
          exact fun same => whole ⟨same.1, same.2.1⟩
    · simp only [if_neg mark]
      constructor
      · intro same
        cases same
        exact Or.inr ⟨rfl, fun head => mark (Option.some.inj head)⟩
      · rintro (same | ⟨rfl, _⟩)
        · exact absurd (List.cons.inj same).1 mark
        · rfl

/-- The parser accepts exactly the texts of the grammar and returns their value. -/
theorem parse_iff (strtod : List UInt8 → Option (Int × String)) (input : List UInt8) (js : Json) :
    parse strtod input = some js ↔ Document strtod input js := by
  constructor
  · intro read
    simp only [parse, Option.bind_eq_bind, Option.bind_eq_some_iff] at read
    obtain ⟨opened, skipped, ⟨token, rest⟩, scanned, ⟨value, left⟩, parsed, ⟨last, behind⟩, final,
      ended⟩ := read
    obtain ⟨js', text, tail, writes, split, evaluated⟩ :=
      (sound opened).1 [] token rest _ scanned parsed
    rw [stateEvaluation] at evaluated
    cases evaluated
    obtain ⟨rfl, rfl⟩ : last = .endOfInput ∧ value = js := by
      cases last <;> first | (cases ended; exact ⟨rfl, rfl⟩) | cases ended
    have finished : Finished left := (scan_finished left).mp ⟨behind, final⟩
    rcases (skipBom_iff input opened).mp skipped with marked | ⟨plain, _⟩
    · exact ⟨_, text, left, by rw [marked, split], Or.inr rfl, writes, finished⟩
    · exact ⟨[], text, left, by rw [plain, split, List.nil_append], Or.inl rfl, writes, finished⟩
  · rintro ⟨mark, text, rest, rfl, marks, writes, finished⟩
    obtain ⟨token, behind, scanned, _, parsed⟩ :=
      complete _ text writes [] rest (ends_finished rest finished)
    have skipped : skipBom (mark ++ (text ++ rest)) = some (text ++ rest) := by
      rw [skipBom_iff]
      rcases marks with rfl | rfl
      · refine Or.inr ⟨rfl, fun head => ?_⟩
        cases whole : text ++ rest with
        | nil =>
          rw [whole] at head
          cases head
        | cons byte left =>
          rw [whole] at head scanned
          cases head
          exact scan_bom left behind token scanned
      · exact Or.inl rfl
    obtain ⟨left, final⟩ := (scan_finished rest).mpr finished
    rw [stateEvaluation] at parsed
    simp only [parse, skipped, scanned, parsed, final, Option.bind_eq_bind, Option.bind_some]

/-- The text of an object is read up to its brace, whatever follows it. -/
theorem complete_object (members : List (String × Json)) (text rest : List UInt8)
    (writes : Writes strtod (.value (.object members)) text) :
    ReadsOn strtod (.object members) (text ++ rest) rest := by
  cases writes with
  | scalar token _ gap lexeme blank shape single =>
    exact absurd single (scalar_flat token _ (Or.inr ⟨members, rfl⟩))
  | emptyObject gap inner blank hollow => exact reads_emptyObject gap inner rest blank hollow
  | object gap text tail key first more blank head later =>
    exact reads_object gap text tail rest key first more blank (complete _ _ head)
      (complete _ _ later)

end Loop

end ClusterChat.Json
