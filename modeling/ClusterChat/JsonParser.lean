import ClusterChat.JsonLexer

/-!
# The parser of the JSON library

`sax_parse_internal` keeps a stack instead of calling itself, and
`json_sax_dom_parser` builds the value on the way. Here one stack stands for both: an
open container holds what it has so far, and goes to the one around it when it is
closed. Nothing reads it in between. A key assigns through `operator[]`, so the last of
several equal keys counts.

`parse` is strict, as the program calls it: behind the value there is only whitespace up
to the end of the input, which a NUL also is. Nothing is returned where the library
throws.

The conversion of floating-point numbers is a parameter. It gives the whole part and the
printed text of a finite number, and nothing where the number overflows.
-/

namespace ClusterChat.Json

open Lexer

/-- A container that is not closed yet. -/
inductive Open where
  | array (items : List Json)
  | object (members : List (String × Json)) (key : String)

/-- The container with the value `handle_value` puts into it. -/
def Open.add (value : Json) : Open → Json
  | .array items => .array (items ++ [value])
  | .object members key => .object (insertMember key value members)

section Parser

variable (strtod : List UInt8 → Option (Int × String))

/-- The value a token is by itself. -/
def scalar : Token → Option Json
  | .literalTrue => some (.boolean true)
  | .literalFalse => some (.boolean false)
  | .literalNull => some .null
  | .valueString text => some (.string text)
  | .valueUnsigned value => some (.integer value)
  | .valueInteger value => some (.integer value)
  | .valueFloat text => (strtod text).map fun (whole, printed) => .float whole printed
  | _ => none

/-- The separator behind a key, and the first token of the value. -/
def parseSeparator (input : List UInt8) : Option (Token × List UInt8) :=
  match scan input with
  | some (.nameSeparator, rest) => scan rest
  | _ => none

/-- A key, its separator and the first token of its value. -/
def parseKey (input : List UInt8) : Option (String × Token × List UInt8) :=
  match scan input with
  | some (.valueString key, rest) => (parseSeparator rest).map fun found => (key, found)
  | _ => none

/-- Reading what separates two members uses up input. -/
theorem parseSeparator_shorter (input rest : List UInt8) (token : Token)
    (read : parseSeparator input = some (token, rest)) : rest.length < input.length := by
  unfold parseSeparator at read
  split at read
  · rename_i behind separator
    have first := scan_shorter input behind _ separator
    have second := scan_shorter behind rest token read
    simp only [Token.remains] at first
    omega
  · cases read

/-- So does reading a key with its colon and what follows it. -/
theorem parseKey_shorter (input rest : List UInt8) (key : String) (token : Token)
    (read : parseKey input = some (key, token, rest)) : rest.length < input.length := by
  unfold parseKey at read
  split at read
  · rename_i text behind named
    obtain ⟨⟨found, left⟩, separated, ended⟩ := Option.map_eq_some_iff.mp read
    cases ended
    have first := scan_shorter input behind _ named
    have second := parseSeparator_shorter behind rest token separated
    omega
  · cases read

/-- A token that is a whole value opens nothing. -/
theorem scalar_remains (token : Token) (value : Json) (single : scalar strtod token = some value) :
    token.remains = 1 := by
  cases token <;> first | rfl | cases single

mutual

/-- `sax_parse_internal` at the switch on `last_token`. -/
def saxParseInternal (states : List Open) (last_token : Token) (input : List UInt8) :
    Option (Json × List UInt8) :=
  match last_token with
  | .beginObject =>
      match _ : scan input with
      | some (.endObject, rest) => stateEvaluation states (.object []) rest
      | some (.valueString key, rest) =>
          match _ : parseSeparator rest with
          | some (token, rest) => saxParseInternal (.object [] key :: states) token rest
          | none => none
      | _ => none
  | .beginArray =>
      match _ : scan input with
      | some (.endArray, rest) => stateEvaluation states (.array []) rest
      | some (token, rest) => saxParseInternal (.array [] :: states) token rest
      | none => none
  | last_token =>
      match _ : scalar strtod last_token with
      | some value => stateEvaluation states value input
      | none => none
termination_by 2 * input.length + last_token.remains
decreasing_by
  · have left := scan_shorter _ _ _ ‹_›
    simp only [Token.remains] at left ⊢
    omega
  · have first := scan_shorter _ _ _ ‹scan input = _›
    have second := parseSeparator_shorter _ _ _ ‹_›
    have counted := Token.remains_le token
    have opened : Token.beginObject.remains = 1 := rfl
    omega
  · have left := scan_shorter _ _ _ ‹_›
    simp only [Token.remains] at left ⊢
    omega
  · have left := scan_shorter _ _ _ ‹_›
    have opened : Token.beginArray.remains = 1 := rfl
    omega
  · have counted := scalar_remains strtod _ _ ‹_›
    omega

/-- `sax_parse_internal` behind a value. The loop comes here again when a container is
closed. -/
def stateEvaluation (states : List Open) (value : Json) (input : List UInt8) :
    Option (Json × List UInt8) :=
  match states with
  | [] => some (value, input)
  | .array items :: states =>
      match _ : scan input with
      | some (.valueSeparator, rest) =>
          match _ : scan rest with
          | some (token, rest) => saxParseInternal (.array (items ++ [value]) :: states) token rest
          | none => none
      | some (.endArray, rest) => stateEvaluation states (.array (items ++ [value])) rest
      | _ => none
  | .object members name :: states =>
      match _ : scan input with
      | some (.valueSeparator, rest) =>
          match _ : parseKey rest with
          | some (key, token, rest) =>
              saxParseInternal (.object (insertMember name value members) key :: states) token rest
          | none => none
      | some (.endObject, rest) =>
          stateEvaluation states (.object (insertMember name value members)) rest
      | _ => none
termination_by 2 * input.length
decreasing_by
  · have first := scan_shorter _ _ _ ‹scan input = _›
    have second := scan_shorter _ _ _ ‹scan _ = some (token, _)›
    have counted := Token.remains_le token
    simp only [Token.remains] at first
    omega
  · have left := scan_shorter _ _ _ ‹_›
    simp only [Token.remains] at left
    omega
  · have first := scan_shorter _ _ _ ‹scan input = _›
    have second := parseKey_shorter _ _ _ _ ‹_›
    have counted := Token.remains_le token
    simp only [Token.remains] at first
    omega
  · have left := scan_shorter _ _ _ ‹_›
    simp only [Token.remains] at left
    omega

end

/-- `parser::parse` in strict mode, from the first token on. -/
def parse (input : List UInt8) : Option Json := do
  let (last_token, rest) ← scan (← skipBom input)
  let (value, rest) ← saxParseInternal strtod [] last_token rest
  match ← scan rest with
  | (.endOfInput, _) => some value
  | _ => none

/-!
## One turn of the loop

Each turn once as what it does, and once as what it must have done.
-/

section Turns

variable {strtod} {states : List Open} {token : Token} {input rest : List UInt8} {value : Json}

/-- A value of one token is complete at once. -/
theorem saxParseInternal_scalar (single : scalar strtod token = some value) :
    saxParseInternal strtod states token input = stateEvaluation strtod states value input := by
  rw [saxParseInternal.eq_def]
  split
  · cases single
  · cases single
  · split
    · rename_i found same
      rw [single] at same
      cases same
      rfl
    · rename_i failed
      rw [single] at failed
      cases failed

/-- So is an object that is closed where it was opened. -/
theorem saxParseInternal_emptyObject (closed : scan input = some (.endObject, rest)) :
    saxParseInternal strtod states .beginObject input =
      stateEvaluation strtod states (.object []) rest := by
  rw [saxParseInternal, closed]

/-- Otherwise the first member of an object is read. -/
theorem saxParseInternal_object {key : String} (named : parseKey input = some (key, token, rest)) :
    saxParseInternal strtod states .beginObject input =
      saxParseInternal strtod (.object [] key :: states) token rest := by
  unfold parseKey at named
  split at named
  · rename_i text behind scanned
    obtain ⟨⟨found, left⟩, separated, ended⟩ := Option.map_eq_some_iff.mp named
    cases ended
    rw [saxParseInternal, scanned]
    dsimp only
    rw [separated]
  · cases named

/-- An array that is closed where it was opened is complete. -/
theorem saxParseInternal_emptyArray (closed : scan input = some (.endArray, rest)) :
    saxParseInternal strtod states .beginArray input =
      stateEvaluation strtod states (.array []) rest := by
  rw [saxParseInternal, closed]

/-- Otherwise the first item of an array is read. -/
theorem saxParseInternal_array (scanned : scan input = some (token, rest))
    (more : token ≠ .endArray) : saxParseInternal strtod states .beginArray input =
      saxParseInternal strtod (.array [] :: states) token rest := by
  rw [saxParseInternal, scanned]
  cases token <;> first | rfl | exact absurd rfl more

/-- Behind an item and a comma the next item is read. -/
theorem stateEvaluation_nextItem {items : List Json} {behind : List UInt8}
    (separated : scan input = some (.valueSeparator, rest))
    (scanned : scan rest = some (token, behind)) :
    stateEvaluation strtod (.array items :: states) value input =
      saxParseInternal strtod (.array (items ++ [value]) :: states) token behind := by
  rw [stateEvaluation, separated]
  dsimp only
  rw [scanned]

/-- Behind an item a bracket completes the array. -/
theorem stateEvaluation_endArray {items : List Json} (closed : scan input = some (.endArray, rest)) :
    stateEvaluation strtod (.array items :: states) value input =
      stateEvaluation strtod states (.array (items ++ [value])) rest := by
  rw [stateEvaluation, closed]

/-- Behind a member and a comma the next member is read. -/
theorem stateEvaluation_nextMember {members : List (String × Json)} {name key : String}
    {behind : List UInt8} (separated : scan input = some (.valueSeparator, rest))
    (named : parseKey rest = some (key, token, behind)) :
    stateEvaluation strtod (.object members name :: states) value input =
      saxParseInternal strtod (.object (insertMember name value members) key :: states) token
        behind := by
  rw [stateEvaluation, separated]
  dsimp only
  rw [named]

/-- Behind a member a brace completes the object. -/
theorem stateEvaluation_endObject {members : List (String × Json)} {name : String}
    (closed : scan input = some (.endObject, rest)) :
    stateEvaluation strtod (.object members name :: states) value input =
      stateEvaluation strtod states (.object (insertMember name value members)) rest := by
  rw [stateEvaluation, closed]

variable {out : Json × List UInt8}

/-- A parse that goes on from a token takes a scalar, or opens a container, or takes an
empty one. -/
theorem saxParseInternal_cases (read : saxParseInternal strtod states token input = some out) :
    (∃ value, scalar strtod token = some value ∧
        stateEvaluation strtod states value input = some out) ∨
      (token = .beginObject ∧
        ((∃ rest, scan input = some (.endObject, rest) ∧
            stateEvaluation strtod states (.object []) rest = some out) ∨
          ∃ key first rest, parseKey input = some (key, first, rest) ∧
            saxParseInternal strtod (.object [] key :: states) first rest = some out)) ∨
      (token = .beginArray ∧
        ((∃ rest, scan input = some (.endArray, rest) ∧
            stateEvaluation strtod states (.array []) rest = some out) ∨
          ∃ first rest, scan input = some (first, rest) ∧
            saxParseInternal strtod (.array [] :: states) first rest = some out)) := by
  rw [saxParseInternal.eq_def] at read
  split at read
  · refine Or.inr (Or.inl ⟨rfl, ?_⟩)
    split at read
    · rename_i rest closed
      exact Or.inl ⟨rest, closed, read⟩
    · rename_i key rest scanned
      split at read
      · rename_i first behind separated
        refine Or.inr ⟨key, first, behind, ?_, read⟩
        simp only [parseKey, scanned, separated, Option.map_some]
      · cases read
    · cases read
  · refine Or.inr (Or.inr ⟨rfl, ?_⟩)
    split at read
    · rename_i rest closed
      exact Or.inl ⟨rest, closed, read⟩
    · rename_i first rest _ scanned
      exact Or.inr ⟨first, rest, scanned, read⟩
    · cases read
  · split at read
    · rename_i value single
      exact Or.inl ⟨value, single, read⟩
    · cases read

/-- Inside an array nothing else is accepted behind an item. -/
theorem stateEvaluation_array_cases {items : List Json}
    (read : stateEvaluation strtod (.array items :: states) value input = some out) :
    (∃ rest first behind, scan input = some (.valueSeparator, rest) ∧
        scan rest = some (first, behind) ∧
        saxParseInternal strtod (.array (items ++ [value]) :: states) first behind = some out) ∨
      ∃ rest, scan input = some (.endArray, rest) ∧
        stateEvaluation strtod states (.array (items ++ [value])) rest = some out := by
  rw [stateEvaluation] at read
  split at read
  · rename_i rest separated
    split at read
    · rename_i first behind scanned
      exact Or.inl ⟨rest, first, behind, separated, scanned, read⟩
    · cases read
  · rename_i rest closed
    exact Or.inr ⟨rest, closed, read⟩
  · cases read

/-- Inside an object nothing else is accepted behind a member. -/
theorem stateEvaluation_object_cases {members : List (String × Json)} {name : String}
    (read : stateEvaluation strtod (.object members name :: states) value input = some out) :
    (∃ rest key first behind, scan input = some (.valueSeparator, rest) ∧
        parseKey rest = some (key, first, behind) ∧
        saxParseInternal strtod (.object (insertMember name value members) key :: states) first
          behind = some out) ∨
      ∃ rest, scan input = some (.endObject, rest) ∧
        stateEvaluation strtod states (.object (insertMember name value members)) rest =
          some out := by
  rw [stateEvaluation] at read
  split at read
  · rename_i rest separated
    split at read
    · rename_i key first behind named
      exact Or.inl ⟨rest, key, first, behind, separated, named, read⟩
    · cases read
  · rename_i rest closed
    exact Or.inr ⟨rest, closed, read⟩
  · cases read

end Turns

end Parser

end ClusterChat.Json
