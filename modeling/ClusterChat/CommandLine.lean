import ClusterChat.Terminal
import Mathlib.Data.List.TakeWhile

/-!
# What a command line asks for

A command line is cut twice, each time at the first colon: `mainmenu` cuts off the
command, the handler the number or the name. The index of the colon is an `int`, the
arguments of `substr` are unsigned, and the count given is one too many; the number is
read with `atoi`.

`command_read_back_iff` says when what was typed is what the request says, for every number
an `int` holds, written in decimal, and all strings without NUL and newline that fit into
the buffer with their command: when the strings are UTF-8. The strings may have colons
themselves, except the name of a group. The line ends with a newline or with the input.

A string that is not UTF-8 is cut as well as any other, but `dump` throws for it, and the
client ends without a request (`step_refused`).
-/

namespace ClusterChat.CommandLine

open Terminal
open InputStream (Typed)
open Json.Serializer

/-- The commands with arguments. -/
inductive Command where
  | chat (friendid : Int) (message : List Char)
  | groupChat (groupid : Int) (message : List Char)
  | createGroup (groupName groupDesc : List Char)
  | addFriend (friendid : Int)
  | joinGroup (groupid : Int)

/-- A number as it is typed. -/
def decimal (n : Int) : List Char := (toString n).toList

/-- Two arguments with a colon between them. -/
def joined (first second : List Char) : List Char := first ++ ':' :: second

/-- A value of type `int`. -/
def IsInt (n : Int) : Prop := -2 ^ 31 ≤ n ∧ n < 2 ^ 31

/-- Nothing that ends a line or a string. -/
def Plain (str : List Char) : Prop := nul ∉ str ∧ '\n' ∉ str

instance (str : List Char) : Decidable (Plain str) :=
  inferInstanceAs (Decidable (nul ∉ str ∧ '\n' ∉ str))

namespace Command

/-- The line that is typed for a command. -/
def line : Command → List Char
  | .chat friendid message => joined "chat".toList (joined (decimal friendid) message)
  | .groupChat groupid message => joined "groupChat".toList (joined (decimal groupid) message)
  | .createGroup groupName groupDesc => joined "createGroup".toList (joined groupName groupDesc)
  | .addFriend friendid => joined "addFriend".toList (decimal friendid)
  | .joinGroup groupid => joined "joinGroup".toList (decimal groupid)

/-- The arguments a command may have. -/
def Admissible : Command → Prop
  | .chat friendid message => IsInt friendid ∧ Plain message ∧ message ≠ []
  | .groupChat groupid message => IsInt groupid ∧ Plain message ∧ message ≠ []
  | .createGroup groupName groupDesc => Plain groupName ∧ Plain groupDesc ∧ ':' ∉ groupName
  | .addFriend friendid => IsInt friendid
  | .joinGroup groupid => IsInt groupid

/-- The strings typed with the command are UTF-8. -/
def IsUtf8 : Command → Prop
  | .chat _ message => Utf8.IsText message
  | .groupChat _ message => Utf8.IsText message
  | .createGroup groupName groupDesc => Utf8.IsText groupName ∧ Utf8.IsText groupDesc
  | .addFriend _ => True
  | .joinGroup _ => True

/-- The request says what the command does. -/
def Carries : Command → Json → Prop
  | .chat friendid message, js => js.member "msgid" = .integer MsgType.oneChatMsg.code ∧
      js.member "to" = .integer friendid ∧ js.member "msg" = text message
  | .groupChat groupid message, js => js.member "msgid" = .integer MsgType.groupChatMsg.code ∧
      js.member "groupid" = .integer groupid ∧ js.member "msg" = text message
  | .createGroup groupName groupDesc, js =>
      js.member "msgid" = .integer MsgType.createGroupMsg.code ∧
      js.member "groupname" = text groupName ∧ js.member "groupdesc" = text groupDesc
  | .addFriend friendid, js => js.member "msgid" = .integer MsgType.addFriendMsg.code ∧
      js.member "friendid" = .integer friendid
  | .joinGroup groupid, js => js.member "msgid" = .integer MsgType.joinGroupMsg.code ∧
      js.member "groupid" = .integer groupid

end Command

/-- The thread is in `mainmenu` and the line is typed. -/
structure Prompted (t : Terminal) (line : List Char) : Prop where
  running : t.isMainMenuRunning = true
  going : t.ended = false
  typed : Typed line t.input

/-- The terminal when the line was taken off its input. -/
def afterLine (t : Terminal) : Terminal := { t with input := (t.input.getline 1024).2 }

/-!
## Numbers
-/

/-- A number is spelled in digits and a sign. -/
theorem decimal_free (n : Int) (c : Char) (other : c ≠ '-') (noDigit : c.isDigit = false) :
    c ∉ decimal n := by
  intro member
  rcases Decimal.mem_toString n c member with minus | digit
  · exact other minus
  · rw [noDigit] at digit
    cases digit

/-- A string without NUL is what the array holds. -/
theorem cString_plain (str : List Char) (free : nul ∉ str) : cString str = str := by
  apply List.takeWhile_eq_self_iff.mpr
  intro c member
  have distinct : c ≠ nul := fun same => free (same ▸ member)
  exact decide_eq_true distinct

/-- An `int` is not wrapped. -/
theorem toInt_of_isInt (n : Int) (isInt : IsInt n) : toInt n = n := by
  have modulus : ((2 ^ 32 : Nat) : Int) = 4294967296 := rfl
  unfold IsInt at isInt
  apply Int.bmod_eq_of_le <;> rw [modulus] <;> omega

/-- `atoi` reads an `int` back from its digits. -/
theorem atoi_decimal (n : Int) (isInt : IsInt n) : atoi (decimal n) = n := by
  have fits : Decimal.saturate 64 n = n := by
    unfold Decimal.saturate
    unfold IsInt at isInt
    omega
  rw [atoi, cString_plain _ (decimal_free n nul (by decide) (by decide)), decimal,
    Decimal.strtol_toString n fits, toInt_of_isInt n isInt]

/-!
## Cutting a string at its first colon
-/

/-- The length of two parts and the colon between them. -/
theorem length_joined (first second : List Char) :
    (joined first second).length = first.length + 1 + second.length := by
  rw [joined, List.length_append, List.length_cons]
  omega

/-- What fits into the buffer joined fits into it apart. -/
theorem short_joined (first second : List Char) (short : (joined first second).length ≤ 1023) :
    first.length ≤ 1023 ∧ second.length ≤ 1023 := by
  rw [length_joined] at short
  omega

/-- A position is not the index of an absent colon. -/
theorem position_ne (position : Nat) : ¬ (position : Int) = -1 := by omega

/-- The index of a colon that an `int` and a `size_t` hold alike. -/
theorem colon_joined (first second : List Char) (free : ':' ∉ first)
    (short : first.length ≤ 1023) : colon (joined first second) = first.length := by
  have found : find ':' (joined first second) = first.length := by
    rw [find, joined, if_pos (by simp), List.idxOf_append_of_notMem free, List.idxOf_cons_self,
      Nat.add_zero]
  have isInt : IsInt first.length := by
    unfold IsInt
    omega
  rw [colon, found, toInt_of_isInt _ isInt]

/-- A length is not wrapped. -/
theorem toSize_natCast (n : Nat) (short : n < 2 ^ 64) : toSize n = n := by
  unfold toSize
  omega

/-- What stands before the colon is the first part. -/
theorem upTo_joined (first second : List Char) (short : first.length ≤ 1023) :
    upTo first.length (joined first second) = some first := by
  rw [upTo, substr, if_neg (Nat.not_lt_zero _), toSize_natCast _ (by omega), joined,
    List.drop_zero, List.take_left]

/-- What stands behind it is the second. -/
theorem behind_joined (first second : List Char)
    (short : (joined first second).length ≤ 1023) :
    behind first.length (joined first second) = some second := by
  have size := length_joined first second
  have start : toSize ((first.length : Int) + 1) = first.length + 1 :=
    toSize_natCast (first.length + 1) (by omega)
  have count : toSize ((joined first second).length - first.length : Int) =
      1 + second.length := by
    have whole : ((joined first second).length : Int) - first.length =
        ((1 + second.length : Nat) : Int) := by omega
    rw [whole]
    exact toSize_natCast _ (by omega)
  have rest : (joined first second).drop (first.length + 1) = second := by
    rw [joined, List.drop_append]
    simp
  rw [behind, start, count, substr, if_neg (by omega), rest]
  rw [List.take_of_length_le (by omega)]

/-- A handler gets what stands before its first colon and what stands behind it. -/
theorem cutting_joined (invalid : String)
    (handle : List Char → List Char → Terminal → Option Terminal) (first second : List Char)
    (t : Terminal) (free : ':' ∉ first) (short : (joined first second).length ≤ 1023) :
    cutting invalid handle (joined first second) t = handle first second t := by
  have inside := (short_joined first second short).1
  rw [cutting, colon_joined first second free inside, if_neg (position_ne _),
    upTo_joined first second inside, behind_joined first second short]
  rfl

section Handlers

variable (around : Surroundings)

/-- The command goes to its handler with what follows the first colon. -/
theorem obey_joined (command args : List Char) (t : Terminal)
    (handler : List Char → Terminal → Option Terminal) (free : ':' ∉ command)
    (short : (joined command args).length ≤ 1023)
    (known : commandHandlerMap around command = some handler) :
    obey around (joined command args) t = handler args t := by
  have inside := (short_joined command args short).1
  rw [obey, colon_joined command args free inside, typedCommand, if_neg (position_ne _),
    upTo_joined command args inside, Option.bind_eq_bind, Option.bind_some]
  simp only [known]
  rw [behind_joined command args short]
  rfl

/-- A typed line comes to the loop as it was typed. -/
theorem step_prompted (t : Terminal) (line : List Char) (prompted : Prompted t line)
    (plain : Plain line) (fits : line.length ≤ 1023) :
    t.step around = (obey around line (afterLine t)).getD (afterLine t).terminate := by
  have read := InputStream.getline_line 1024 line t.input prompted.typed plain.2 fits
  have going : ¬ t.ended = true := by simp [prompted.going]
  rw [step, if_neg going, if_pos prompted.running, mainmenu]
  simp only [read]
  rw [cString_plain line plain.1]
  rfl

/-- An object that can be dumped is sent. -/
theorem send_written (js : Json) (failure : String) (t : Terminal) (written : dumpable js = true) :
    ∃ next, t.send around js failure = some next := by
  rw [Terminal.send, if_pos written]
  exact ⟨_, rfl⟩

/-- One that cannot ends the client. -/
theorem send_refused (js : Json) (failure : String) (t : Terminal)
    (refused : ¬ dumpable js = true) : t.send around js failure = none := if_neg refused

/-- A command with a handler is handled there, or the handler ends the program. -/
theorem step_handled (t : Terminal) (command args : List Char)
    (handler : List Char → Terminal → Option Terminal)
    (prompted : Prompted t (joined command args)) (plain : Plain (joined command args))
    (fits : (joined command args).length ≤ 1023) (free : ':' ∉ command)
    (known : commandHandlerMap around command = some handler) :
    t.step around = (handler args (afterLine t)).getD (afterLine t).terminate := by
  rw [step_prompted around t _ prompted plain fits,
    obey_joined around command args (afterLine t) handler free fits known]

/-- A typed text can be dumped if and only if it is UTF-8. -/
@[simp] theorem dumpable_text (str : List Char) :
    dumpable (text str) = true ↔ Utf8.IsText str := dumpableString_iff str

/-- The keys of the requests are written. -/
theorem keys_written : dumpableString "msgid" = true ∧ dumpableString "id" = true ∧
    dumpableString "name" = true ∧ dumpableString "to" = true ∧ dumpableString "groupid" = true ∧
    dumpableString "msg" = true ∧ dumpableString "time" = true ∧
    dumpableString "groupname" = true ∧ dumpableString "groupdesc" = true ∧
    dumpableString "friendid" = true := by
  simp (disch := decide) only [dumpableString_ascii, and_self]

/-- A message that is not empty goes out with its number, if it is UTF-8. -/
theorem talking_sends (invalid : String) (type : MsgType) (key empty failure : String) (n : Int)
    (message : List Char) (t : Terminal) (isInt : IsInt n) (inhabited : message ≠ [])
    (names : key = "to" ∨ key = "groupid") (short : (joined (decimal n) message).length ≤ 1023) :
    ∃ js, cutting invalid (talking around type key empty failure) (joined (decimal n) message) t =
      t.send around js failure ∧ (js.member "msgid" = .integer type.code ∧
      js.member key = .integer n ∧ js.member "msg" = text message) ∧
      (dumpable js = true ↔ Utf8.IsText message) := by
  have present : ¬ message.isEmpty = true := by simpa using inhabited
  have free := decimal_free n ':' (by decide) (by decide)
  rw [cutting_joined invalid _ (decimal n) message t free short, talking, if_neg present]
  refine ⟨_, rfl, ?_, ?_⟩
  · rcases names with rfl | rfl <;>
      simp [Json.member_set, request, atoi_decimal n isInt]
  · rcases names with rfl | rfl <;>
      simp [request, userName, getCurrentTime, dumpable_set_set, Json.contains_set, keys_written,
        Utf8.isText_octets]

/-- `createGroup` sends the name and the description. -/
theorem describing_sends (groupName groupDesc : List Char) (t : Terminal)
    (free : ':' ∉ groupName) (short : (joined groupName groupDesc).length ≤ 1023) : ∃ js,
    createGroup around (joined groupName groupDesc) t =
      t.send around js "createGroup msg error!!!" ∧
      (js.member "msgid" = .integer MsgType.createGroupMsg.code ∧
        js.member "groupname" = text groupName ∧ js.member "groupdesc" = text groupDesc) ∧
      (dumpable js = true ↔ Utf8.IsText groupName ∧ Utf8.IsText groupDesc) := by
  rw [createGroup, cutting_joined _ _ groupName groupDesc t free short]
  refine ⟨_, rfl, ?_, ?_⟩
  · simp [Json.member_set, request]
  · simp [request, dumpable_set_set, Json.contains_set, keys_written, and_comm]

/-- `addFriend` and `joinGroup` send the number. -/
theorem naming_sends (type : MsgType) (key failure : String) (n : Int) (t : Terminal)
    (isInt : IsInt n) (names : key = "friendid" ∨ key = "groupid") : ∃ js,
    naming around type key failure (decimal n) t = t.send around js failure ∧
      (js.member "msgid" = .integer type.code ∧ js.member key = .integer n) ∧
      dumpable js = true := by
  refine ⟨_, rfl, ?_, ?_⟩
  · rcases names with rfl | rfl <;> simp [Json.member_set, request, atoi_decimal n isInt]
  · rcases names with rfl | rfl <;>
      simp [request, dumpable_set_set, Json.contains_set, keys_written]

/-- What a handler that sends leaves of the requests, as the loop goes on. -/
theorem requests_send (js : Json) (failure : String) (t : Terminal) :
    ((t.send around js failure).getD t.terminate).requests =
      t.requests ++ (if dumpable js = true then [js] else []) := by
  by_cases written : dumpable js = true
  · obtain ⟨next, sent⟩ := send_written around js failure t written
    rw [sent, if_pos written]
    exact (send_some around js failure t next sent).1
  · rw [send_refused around js failure t written, if_neg written, List.append_nil]
    rfl

end Handlers

/-- Nothing ends a line inside two arguments without that. -/
theorem plain_joined (first second : List Char) (before : Plain first) (after : Plain second) :
    Plain (joined first second) := by
  have colon : nul ≠ ':' ∧ '\n' ≠ ':' := by decide
  simp [Plain, joined, before.1, before.2, after.1, after.2, colon]

/-- The digits of a number are plain. -/
theorem plain_number (n : Int) : Plain (decimal n) :=
  ⟨decimal_free n nul (by decide) (by decide), decimal_free n '\n' (by decide) (by decide)⟩

/-- Every command that is typed comes to `dump` with its arguments, and `dump` writes them
when they are UTF-8. -/
theorem command_sends (around : Surroundings) (t : Terminal) (command : Command)
    (admissible : command.Admissible) (fits : command.line.length ≤ 1023)
    (prompted : Prompted t command.line) : ∃ js failure,
    t.step around = ((afterLine t).send around js failure).getD (afterLine t).terminate ∧
      command.Carries js ∧ (dumpable js = true ↔ command.IsUtf8) := by
  cases command with
  | chat friendid message =>
    obtain ⟨isInt, plain, inhabited⟩ := admissible
    have whole := plain_joined "chat".toList _ (by decide)
      (plain_joined _ _ (plain_number friendid) plain)
    obtain ⟨js, handled, carries⟩ := talking_sends around "chat command invalid" .oneChatMsg "to"
      "私聊消息不能为空！" "send chat msg error" friendid message (afterLine t) isInt
      inhabited (Or.inl rfl) (short_joined _ _ fits).2
    have stepped := step_handled around t _ _ (chat around) prompted whole fits (by decide) rfl
    exact ⟨js, _, stepped.trans (by rw [chat, handled]), carries⟩
  | groupChat groupid message =>
    obtain ⟨isInt, plain, inhabited⟩ := admissible
    have whole := plain_joined "groupChat".toList _ (by decide)
      (plain_joined _ _ (plain_number groupid) plain)
    obtain ⟨js, handled, carries⟩ := talking_sends around "groupChat command invalid!!"
      .groupChatMsg "groupid" "群聊消息不能为空！" "groupChat msg error!!" groupid message
      (afterLine t) isInt inhabited (Or.inr rfl) (short_joined _ _ fits).2
    have stepped := step_handled around t _ _ (groupChat around) prompted whole fits (by decide) rfl
    exact ⟨js, _, stepped.trans (by rw [groupChat, handled]), carries⟩
  | createGroup groupName groupDesc =>
    obtain ⟨plainName, plainDesc, free⟩ := admissible
    have whole := plain_joined "createGroup".toList _ (by decide)
      (plain_joined _ _ plainName plainDesc)
    obtain ⟨js, handled, carries⟩ := describing_sends around groupName groupDesc (afterLine t) free
      (short_joined _ _ fits).2
    have stepped := step_handled around t _ _ (createGroup around) prompted whole fits (by decide)
      rfl
    exact ⟨js, _, stepped.trans (by rw [handled]), carries⟩
  | addFriend friendid =>
    have whole := plain_joined "addFriend".toList _ (by decide) (plain_number friendid)
    obtain ⟨js, handled, carries, written⟩ := naming_sends around .addFriendMsg "friendid"
      "send addFriend msg error" friendid (afterLine t) admissible (Or.inl rfl)
    have stepped := step_handled around t _ _ (addFriend around) prompted whole fits (by decide) rfl
    exact ⟨js, _, stepped.trans (by rw [addFriend, handled]), carries, iff_of_true written trivial⟩
  | joinGroup groupid =>
    have whole := plain_joined "joinGroup".toList _ (by decide) (plain_number groupid)
    obtain ⟨js, handled, carries, written⟩ := naming_sends around .joinGroupMsg "groupid"
      "joinGroup msg error !!!" groupid (afterLine t) admissible (Or.inr rfl)
    have stepped := step_handled around t _ _ (joinGroup around) prompted whole fits (by decide) rfl
    exact ⟨js, _, stepped.trans (by rw [joinGroup, handled]), carries, iff_of_true written trivial⟩

/-- A command whose strings are not UTF-8 ends the program, and nothing is sent. -/
theorem step_refused (around : Surroundings) (t : Terminal) (command : Command)
    (admissible : command.Admissible) (fits : command.line.length ≤ 1023)
    (prompted : Prompted t command.line) (bytes : ¬ command.IsUtf8) :
    t.step around = (afterLine t).terminate := by
  obtain ⟨js, failure, stepped, _, written⟩ :=
    command_sends around t command admissible fits prompted
  rw [stepped, send_refused around js failure _ (fun all => bytes (written.mp all))]
  rfl

/-- For every command with arguments it may have, whose line fits into the buffer: the line
typed at the prompt of `mainmenu` makes one request, which carries the arguments, exactly
when the strings among them are UTF-8. -/
theorem command_read_back_iff (around : Surroundings) (t : Terminal) (command : Command)
    (admissible : command.Admissible) (fits : command.line.length ≤ 1023)
    (prompted : Prompted t command.line) :
    (∃ js, (t.step around).requests = t.requests ++ [js] ∧ command.Carries js) ↔
      command.IsUtf8 := by
  obtain ⟨js, failure, stepped, carries, written⟩ :=
    command_sends around t command admissible fits prompted
  have requests : (t.step around).requests =
      t.requests ++ (if dumpable js = true then [js] else []) := by
    rw [stepped, requests_send around js failure (afterLine t)]
    rfl
  rw [← written]
  constructor
  · rintro ⟨other, made, _⟩
    by_contra refused
    rw [requests, if_neg refused] at made
    exact absurd (List.append_cancel_left made) (by simp)
  · intro all
    rw [if_pos all] at requests
    exact ⟨js, requests, carries⟩

/-- A message with a colon, to a user with a negative id. -/
def colons : Command := .chat (-7) "a:b".toList

/-- What the iterations here meet. -/
def quiet : Surroundings := ⟨true, true, { id := 3, name := "ann" }, "2024-01-01 00:00:00"⟩

/-- The terminal at which a command is typed. -/
def typing (command : Command) : Terminal :=
  { input := { rest := command.line ++ ['\n'] }, isMainMenuRunning := true }

/-- The example's menu reads the line that was typed. -/
theorem prompted_typing (command : Command) :
    Prompted (typing command) command.line := ⟨rfl, rfl, ⟨rfl, rfl⟩, ['\n'], rfl, Or.inr rfl⟩

/-- A text with colons of its own. -/
theorem command_read_back_colons :
    ∃ js, ((typing colons).step quiet).requests = (typing colons).requests ++ [js] ∧
      colons.Carries js :=
  (command_read_back_iff quiet (typing colons) colons
    ⟨⟨by decide, by decide⟩, by decide, by decide⟩ (by decide) (prompted_typing colons)).mpr
    ⟨"a:b", by decide⟩

/-- A message of one byte that goes on with no character. -/
def noText : Command := .chat 1 [Char.ofNat 0xFF]

/-- Not every line is read back. -/
theorem byte_ends_client : ¬ ∀ (around : Surroundings) (t : Terminal) (command : Command),
    command.Admissible → command.line.length ≤ 1023 → Prompted t command.line →
    ∃ js, (t.step around).requests = t.requests ++ [js] ∧ command.Carries js := by
  intro readBack
  obtain ⟨js, requests, _⟩ := readBack quiet (typing noText) noText
    ⟨⟨by decide, by decide⟩, by decide, by decide⟩ (by decide) (prompted_typing noText)
  have refused : ¬ noText.IsUtf8 := by
    intro isText
    have written := (dumpableString_iff _).mpr isText
    revert written
    decide +kernel
  rw [step_refused quiet (typing noText) noText
    ⟨⟨by decide, by decide⟩, by decide, by decide⟩ (by decide) (prompted_typing noText) refused]
    at requests
  cases requests

end ClusterChat.CommandLine
