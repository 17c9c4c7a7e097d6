import Mathlib.Algebra.Group.Nat.Defs
import Mathlib.Data.List.Basic
import Mathlib.Data.Int.DivMod

/-!
# JSON values and the conversions a handler applies to them

The values follow `nlohmann::json` with its default object type, a map sorted by
key. A floating-point number keeps only what the program can observe of it: the
`int` that `get<int>` converts it to, and the text `dump` prints. The conversion
truncates; out of the range of `int` its result is undefined, and so any number here.

The conversions are partial exactly where the library throws. `operator[]` on an
object yields `null` for a missing member, `get<int>` accepts every number and
both booleans and keeps the low 32 bits of an integer, and `get<string>` accepts
strings only. Invalid UTF-8 cannot occur in a parsed value, so `dump` is total here.

Parsing is not defined in this module; whoever reads a text states what it
assumes of the parser.
-/

namespace ClusterChat

/-- A value of `nlohmann::json`. -/
inductive Json where
  | null
  | boolean (value : Bool)
  | integer (value : Int)
  | float (whole : Int) (text : String)
  | string (value : String)
  | array (items : List Json)
  | object (members : List (String × Json))

/-- The `type_error` exceptions the conversions raise: 302 for a value of the
wrong type, 305 for `operator[]` on a value that has no members. -/
inductive JsonError where
  | mustBeNumber
  | mustBeString
  | noMembers
deriving DecidableEq

/-- `static_cast<int>` of a wider integer keeps its low 32 bits. -/
def toInt (value : Int) : Int := value.bmod (2 ^ 32)

namespace Json

/-- `js[key]` as an rvalue. A null value turns into an empty object first. -/
def field (key : String) : Json → Except JsonError Json
  | .null => .ok .null
  | .object members => .ok ((members.lookup key).getD .null)
  | _ => .error .noMembers

/-- `js.contains(key)`, equivalently `js.find(key) != js.end()`. -/
def contains (key : String) : Json → Bool
  | .object members => (members.lookup key).isSome
  | _ => false

/-- `js.is_null()`. -/
def isNull : Json → Bool
  | .null => true
  | _ => false

/-- `get<int>`. An integer keeps its low 32 bits; a floating-point number has its `int`. -/
def getInt : Json → Except JsonError Int
  | .integer value => .ok (toInt value)
  | .float whole _ => .ok whole
  | .boolean value => .ok (if value then 1 else 0)
  | _ => .error .mustBeNumber

/-- `get<string>`. -/
def getString : Json → Except JsonError String
  | .string value => .ok value
  | _ => .error .mustBeString

/-- `int x = js[key]`. -/
def int (js : Json) (key : String) : Except JsonError Int := js.field key >>= getInt

/-- `string x = js[key]`. -/
def str (js : Json) (key : String) : Except JsonError String := js.field key >>= getString

/-- Insert a member in key order, replacing the member of the same key. -/
def insertMember (key : String) (value : Json) : List (String × Json) → List (String × Json)
  | [] => [(key, value)]
  | (other, item) :: rest =>
      if key = other then (key, value) :: rest
      else if key < other then (key, value) :: (other, item) :: rest
      else (other, item) :: insertMember key value rest

/-- `js[key] = value` on a response under construction, which is null or an
object. -/
def set (js : Json) (key : String) (value : Json) : Json :=
  match js with
  | .object members => .object (insertMember key value members)
  | _ => .object [(key, value)]

/-- Looking a key up goes through the members in order. -/
theorem lookup_cons (wanted key : String) (value : Json) (rest : List (String × Json)) :
    ((key, value) :: rest).lookup wanted =
      if wanted = key then some value else rest.lookup wanted := by
  by_cases same : wanted = key
  · simp [same]
  · have distinct : (wanted == key) = false := by simpa using same
    simp [List.lookup_cons, same, distinct]

/-- Assigning one member leaves every other member as it was. -/
theorem lookup_insertMember (key wanted : String) (value : Json)
    (members : List (String × Json)) :
    (insertMember key value members).lookup wanted =
      if wanted = key then some value else members.lookup wanted := by
  induction members with
  | nil => simp only [insertMember, lookup_cons]
  | cons member rest inductionHypothesis =>
    obtain ⟨other, item⟩ := member
    by_cases equal : key = other
    · subst equal
      by_cases same : wanted = key <;> simp [insertMember, lookup_cons, same]
    · by_cases before : key < other
      · simp only [insertMember, equal, before, if_false, if_true, lookup_cons]
      · simp only [insertMember, equal, before, if_false, lookup_cons, inductionHypothesis]
        by_cases first : wanted = other
        · have distinct : wanted ≠ key := fun same => equal (same.symm.trans first)
          simp [first, Ne.symm equal]
        · simp [first]

/-- The member of an object, null where there is none. -/
def member (wanted : String) : Json → Json
  | .object members => (members.lookup wanted).getD .null
  | _ => .null

/-- `null` has no member. -/
@[simp] theorem member_null (wanted : String) : Json.null.member wanted = .null := rfl

/-- Assigning one member changes that member and no other. -/
theorem member_set (js : Json) (key wanted : String) (value : Json) :
    (js.set key value).member wanted = if wanted = key then value else js.member wanted := by
  cases js <;> simp only [set, member, lookup_insertMember, lookup_cons, List.lookup_nil] <;>
    split <;> rfl

/-- An object is read by its members. -/
theorem field_object (members : List (String × Json)) (key : String) :
    (Json.object members).field key = .ok ((Json.object members).member key) := rfl

/-- A set member is read back, and the others are as before. -/
theorem field_set (members : List (String × Json)) (key wanted : String) (value : Json) :
    ((Json.object members).set key value).field wanted =
      if wanted = key then .ok value else (Json.object members).field wanted := by
  simp only [set, field, lookup_insertMember]
  split <;> rfl

/-- `null` contains no key. -/
@[simp] theorem contains_null (wanted : String) : Json.null.contains wanted = false := rfl

/-- A set key is contained, and the others are as before. -/
theorem contains_set (js : Json) (key wanted : String) (value : Json) :
    (js.set key value).contains wanted = if wanted = key then true else js.contains wanted := by
  cases js <;> simp only [set, contains, lookup_insertMember, lookup_cons, List.lookup_nil] <;>
    split <;> rfl

/-- A response under construction is read by its members. -/
theorem field_of_set (js : Json) (key wanted : String) (value : Json) :
    (js.set key value).field wanted = .ok ((js.set key value).member wanted) := by
  cases js <;> rfl

section Readings

variable {α β : Type} {first : Except JsonError α} {second : Except JsonError β}

/-- A request gives both values a handler reads, or not both. -/
theorem given_or_malformed (first : Except JsonError α) (second : Except JsonError β) :
    (∃ a b, first = .ok a ∧ second = .ok b) ∨ ∀ a b, first = .ok a → second ≠ .ok b := by
  by_cases given : ∃ a b, first = .ok a ∧ second = .ok b
  · exact Or.inl given
  · exact Or.inr fun a b read followed => given ⟨a, b, read, followed⟩

/-- The same for a handler that reads three values. -/
theorem given_three_or_malformed {γ : Type} (first : Except JsonError α)
    (second : Except JsonError β) (third : Except JsonError γ) :
    (∃ a b c, first = .ok a ∧ second = .ok b ∧ third = .ok c) ∨
      ∀ a b c, first = .ok a → second = .ok b → third ≠ .ok c := by
  by_cases given : ∃ a b c, first = .ok a ∧ second = .ok b ∧ third = .ok c
  · exact Or.inl given
  · exact Or.inr fun a b c read followed last => given ⟨a, b, c, read, followed, last⟩

/-- What is asked of whatever a request gives is asked of the values it does give. -/
theorem forall_given {property : α → β → Prop} {a : α} {b : β} (read : first = .ok a)
    (followed : second = .ok b) :
    (∀ other next, first = .ok other → second = .ok next → property other next) ↔
      property a b := by
  subst read followed
  constructor
  · intro every
    exact every a b rfl rfl
  · intro own other next same sameNext
    cases same
    cases sameNext
    exact own

end Readings

/-- A digit of `\u` in lower case. -/
def hexDigit (value : Nat) : Char :=
  if value < 10 then Char.ofNat (48 + value) else Char.ofNat (87 + value)

/-- One code point inside a string literal, as `dump_escaped` writes it. -/
def escape (char : Char) : String :=
  if char.toNat = 34 then "\\\""
  else if char.toNat = 92 then "\\\\"
  else if char.toNat = 8 then "\\b"
  else if char.toNat = 9 then "\\t"
  else if char.toNat = 10 then "\\n"
  else if char.toNat = 12 then "\\f"
  else if char.toNat = 13 then "\\r"
  else if char.toNat < 32 then
    "\\u00" ++ String.ofList [hexDigit (char.toNat / 16), hexDigit (char.toNat % 16)]
  else String.singleton char

/-- A string with its quotation marks and escapes. -/
def quote (text : String) : String := "\"" ++ String.join (text.toList.map escape) ++ "\""

mutual

/-- `js.dump()`: the compact text, without whitespace. -/
def dump : Json → String
  | .null => "null"
  | .boolean value => if value then "true" else "false"
  | .integer value => toString value
  | .float _ text => text
  | .string value => quote value
  | .array items => "[" ++ dumpItems items ++ "]"
  | .object members => "\x7b" ++ dumpMembers members ++ "\x7d"

/-- The items of an array, with commas. -/
def dumpItems : List Json → String
  | [] => ""
  | item :: rest => dump item ++ (if rest.isEmpty then "" else ",") ++ dumpItems rest

/-- The members of an object, with colons and commas. -/
def dumpMembers : List (String × Json) → String
  | [] => ""
  | (key, item) :: rest =>
      quote key ++ ":" ++ dump item ++ (if rest.isEmpty then "" else ",") ++ dumpMembers rest

end

/-- A `vector<string>` assigned to a JSON value. -/
def ofStrings (texts : List String) : Json := .array (texts.map .string)

/-- The strings of an array. -/
def strings : Json → List String
  | .array items => items.filterMap (fun item => item.getString.toOption)
  | _ => []

/-- `null` is read as the empty list. -/
@[simp] theorem strings_null : Json.null.strings = [] := rfl

/-- A list of texts is read back. -/
@[simp] theorem strings_ofStrings (texts : List String) : (ofStrings texts).strings = texts := by
  simp [ofStrings, strings, List.filterMap_map, getString, Except.toOption]

example : (Json.null.set "msgid" (.integer 11) |>.set "errno" (.integer 0)).dump =
    "\x7b\"errno\":0,\"msgid\":11\x7d" := by decide

end Json

end ClusterChat
