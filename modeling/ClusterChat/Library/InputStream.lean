import ClusterChat.Library.Decimal
import Mathlib.Order.Basic

/-!
# A character stream with its error state

The reading operations of a C++ input stream: a number, one character, a line into a
buffer of fixed size. Each first looks at the state. A stream whose state is not good is
left as it is, with `failbit` set, and what the caller had is what it gets. Otherwise the
operation takes characters off the front and sets `eofbit` if it needed one more than
there are, `failbit` if it did not get what it wanted.

`Shrinks` and `Stuck` are the two things an operation can do to what is unread. Nothing
here ever resets a bit.
-/

/-- What is unread, and the state bits a read may set. -/
structure InputStream where
  rest : List Char
  eof : Bool := false
  fail : Bool := false
deriving DecidableEq

namespace InputStream

/-- `good()`. -/
def Good (s : InputStream) : Prop := s.eof = false ∧ s.fail = false

instance (s : InputStream) : Decidable s.Good :=
  inferInstanceAs (Decidable (s.eof = false ∧ s.fail = false))

/-- What the sentry of an operation does to a stream that is not good. -/
def refused (s : InputStream) : InputStream := { s with fail := true }

/-- `get()`. -/
def get (s : InputStream) : Option Char × InputStream :=
  if s.Good then
    match s.rest with
    | [] => (none, ⟨[], true, true⟩)
    | c :: rest => (some c, ⟨rest, false, false⟩)
  else (none, s.refused)

/-- The characters of a line, as far as there is room. The end of the input and the
newline, which is taken but not stored, are looked for before the room. -/
def scanLine : Nat → List Char → List Char × InputStream
  | _, [] => ([], ⟨[], true, false⟩)
  | 0, c :: rest => if c = '\n' then ([], ⟨rest, false, false⟩) else ([], ⟨c :: rest, false, true⟩)
  | room + 1, c :: rest =>
      if c = '\n' then ([], ⟨rest, false, false⟩)
      else (c :: (scanLine room rest).1, (scanLine room rest).2)

/-- `getline(buffer, size)`: one place is left for the NUL. A line without any character
is a failure, unless a newline was taken. -/
def getline (size : Nat) (s : InputStream) : List Char × InputStream :=
  if s.Good then
    let (line, left) := scanLine (size - 1) s.rest
    (line, { left with fail := left.fail || s.rest.isEmpty })
  else ([], s.refused)

/-- What `>>` makes of a text for an `int` that has a value. Nothing leaves the value, a
text that is no numeral makes it zero, and one out of range the nearest `int`. -/
def takeInt (initial : Int) : List Char → Int × InputStream
  | [] => (initial, ⟨[], true, true⟩)
  | c :: text =>
      let numeral := Decimal.read (c :: text)
      let value := Decimal.saturate 32 numeral.value
      if numeral.digits = [] then (0, ⟨numeral.rest, numeral.rest.isEmpty, true⟩)
      else (value, ⟨numeral.rest, numeral.rest.isEmpty, value ≠ numeral.value⟩)

/-- `>>` into an `int`. Whitespace is skipped first. -/
def readInt (initial : Int) (s : InputStream) : Int × InputStream :=
  if s.Good then takeInt initial (s.rest.dropWhile Decimal.isSpace) else (initial, s.refused)

/-!
## Lines that fit
-/

/-- A line is unread, and then a newline or the end of the input. -/
def Typed (line : List Char) (s : InputStream) : Prop :=
  s.Good ∧ ∃ after, s.rest = line ++ after ∧ (after = [] ∨ after.head? = some '\n')

/-- A line that fits is read whole. -/
theorem scanLine_line (room : Nat) (line after : List Char) (whole : '\n' ∉ line)
    (fits : line.length ≤ room) (ends : after = [] ∨ after.head? = some '\n') :
    (scanLine room (line ++ after)).1 = line := by
  induction line generalizing room with
  | nil =>
    cases after with
    | nil => cases room <;> rfl
    | cons c rest =>
      have newline : c = '\n' := by simpa using ends
      cases room <;> simp [scanLine, newline]
  | cons c line inductionHypothesis =>
    rw [List.mem_cons, not_or] at whole
    cases room with
    | zero => simp at fits
    | succ room =>
      have shorter : line.length ≤ room := Nat.le_of_succ_le_succ fits
      rw [List.cons_append, scanLine, if_neg (Ne.symm whole.1)]
      simp only [inductionHypothesis room whole.2 shorter]

/-- A line that fits into the buffer is what the buffer holds. -/
theorem getline_line (size : Nat) (line : List Char) (s : InputStream) (typed : Typed line s)
    (whole : '\n' ∉ line) (fits : line.length ≤ size - 1) : (s.getline size).1 = line := by
  obtain ⟨good, after, unread, ends⟩ := typed
  rw [getline, if_pos good, unread]
  exact scanLine_line (size - 1) line after whole fits ends

/-- A number may be read: what is unread begins with whitespace or like a numeral. -/
def BeginsInt (s : InputStream) : Prop :=
  s.Good ∧ ∃ c, s.rest.head? = some c ∧ (Decimal.isSpace c = true ∨ Decimal.Begins c)

/-- Reading a character leaves no more than there was. -/
theorem length_get (s : InputStream) : s.get.2.rest.length ≤ s.rest.length := by
  unfold get
  split
  · split
    · exact Nat.zero_le _
    · rename_i unread
      rw [unread]
      exact Nat.le_succ _
  · exact Nat.le_refl _

/-- A stream that is not good keeps everything. -/
theorem get_refused (s : InputStream) (bad : ¬ s.Good) : s.get = (none, s.refused) :=
  if_neg bad

/-- Scanning a line leaves no more than there was. -/
theorem length_scanLine (room : Nat) (text : List Char) :
    (scanLine room text).2.rest.length ≤ text.length := by
  induction text generalizing room with
  | nil => cases room <;> exact Nat.le_refl _
  | cons c rest inductionHypothesis =>
    cases room with
    | zero =>
      unfold scanLine
      split
      · exact Nat.le_succ _
      · exact Nat.le_refl _
    | succ room =>
      unfold scanLine
      split
      · exact Nat.le_succ _
      · exact Nat.le_succ_of_le (inductionHypothesis room)

/-- With room for one character, a character is taken. -/
theorem length_scanLine_succ (room : Nat) (c : Char) (rest : List Char) :
    (scanLine (room + 1) (c :: rest)).2.rest.length < (c :: rest).length := by
  unfold scanLine
  split
  · exact Nat.lt_succ_self _
  · exact Nat.lt_succ_of_le (length_scanLine room rest)

/-- Reading a line leaves no more than there was. -/
theorem length_getline (size : Nat) (s : InputStream) :
    (s.getline size).2.rest.length ≤ s.rest.length := by
  unfold getline
  split
  · exact length_scanLine _ _
  · exact Nat.le_refl _

/-- A line is read in part exactly when the stream is good and something is unread. -/
theorem getline_shrinks (size : Nat) (s : InputStream) (good : s.Good) (unread : s.rest ≠ [])
    (room : 2 ≤ size) : (s.getline size).2.rest.length < s.rest.length := by
  obtain ⟨more, rfl⟩ := Nat.exists_eq_add_of_le' room
  rw [getline, if_pos good]
  cases text : s.rest with
  | nil => exact absurd text unread
  | cons c rest => exact length_scanLine_succ more c rest

/-- Where nothing can be read, nothing is. -/
theorem getline_stuck (size : Nat) (s : InputStream) (stuck : ¬ (s.Good ∧ s.rest ≠ [])) :
    (s.getline size).1 = [] ∧ (s.getline size).2.rest = s.rest ∧ ¬ (s.getline size).2.Good := by
  unfold getline
  split
  · rename_i good
    have empty : s.rest = [] := by
      by_contra unread
      exact stuck ⟨good, unread⟩
    rw [empty]
    cases size - 1 <;> simp [scanLine, Good]
  · simp [refused, Good]

/-- Reading a number leaves no more than there was. -/
theorem length_takeInt (initial : Int) (text : List Char) :
    (takeInt initial text).2.rest.length ≤ text.length := by
  cases text with
  | nil => exact Nat.le_refl _
  | cons c text =>
    rw [takeInt]
    split <;> exact Decimal.length_read (c :: text)

/-- A number that begins takes its first character away. -/
theorem length_takeInt_begins (initial : Int) (c : Char) (text : List Char)
    (begins : Decimal.Begins c) :
    (takeInt initial (c :: text)).2.rest.length < (c :: text).length := by
  rw [takeInt]
  split <;> exact Decimal.length_read_begins c text begins

/-- Where none begins, nothing is read and the reading fails. -/
theorem takeInt_other (initial : Int) (c : Char) (text : List Char)
    (other : ¬ Decimal.Begins c) : takeInt initial (c :: text) = (0, ⟨c :: text, false, true⟩) := by
  rw [takeInt, Decimal.read_other c text other]
  rfl

/-- Skipping blanks leaves no more than there was. -/
theorem length_dropSpace (text : List Char) :
    (text.dropWhile Decimal.isSpace).length ≤ text.length :=
  (List.dropWhile_suffix _).length_le

/-- Reading a number from the stream leaves no more than there was. -/
theorem length_readInt (initial : Int) (s : InputStream) :
    (s.readInt initial).2.rest.length ≤ s.rest.length := by
  unfold readInt
  split
  · exact Nat.le_trans (length_takeInt initial _) (length_dropSpace s.rest)
  · exact Nat.le_refl _

/-- A number, or what looks like one in the beginning, is read in part. -/
theorem readInt_shrinks (initial : Int) (s : InputStream) (begins : s.BeginsInt) :
    (s.readInt initial).2.rest.length < s.rest.length := by
  obtain ⟨good, c, first, readable⟩ := begins
  rw [readInt, if_pos good]
  cases unread : s.rest with
  | nil =>
    rw [unread] at first
    cases first
  | cons d rest =>
    rw [unread] at first
    cases first
    by_cases space : Decimal.isSpace c = true
    · rw [List.dropWhile_cons_of_pos space]
      have taken := length_takeInt initial (rest.dropWhile Decimal.isSpace)
      exact Nat.lt_succ_of_le (Nat.le_trans taken (length_dropSpace rest))
    · rw [List.dropWhile_cons_of_neg space]
      exact length_takeInt_begins initial c rest (readable.resolve_left space)

/-- Otherwise nothing is read, and the value is zero. -/
theorem readInt_stuck (s : InputStream) (stuck : ¬ s.BeginsInt) :
    (s.readInt 0).1 = 0 ∧ (s.readInt 0).2.rest = s.rest ∧ ¬ (s.readInt 0).2.Good := by
  unfold readInt
  split
  · rename_i good
    cases unread : s.rest with
    | nil => exact ⟨rfl, rfl, by simp [takeInt, Good]⟩
    | cons c rest =>
      have other : ¬ Decimal.isSpace c = true ∧ ¬ Decimal.Begins c := by
        rw [← not_or]
        exact fun readable => stuck ⟨good, c, by rw [unread]; rfl, readable⟩
      rw [List.dropWhile_cons_of_neg other.1, takeInt_other 0 c rest other.2]
      exact ⟨rfl, rfl, by simp [Good]⟩
  · exact ⟨rfl, rfl, by simp [refused, Good]⟩

end InputStream
