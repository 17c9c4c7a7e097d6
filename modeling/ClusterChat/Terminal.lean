import ClusterChat.JsonDump
import ClusterChat.Library.InputStream
import ClusterChat.Service

/-!
# The two menus of the client

The foreground thread of the client reads its input in two loops: `main` asks for a
choice and for what a login or a registration needs, and `mainmenu` reads command lines
once a login has succeeded. A command line is cut at its first colon, the handler of the
command cuts what is left again, and a number is read with `atoi`.

A `char` of the program is a `Char` here, whatever it is part of, so a text of several
bytes a letter is the sequence of its bytes. `find` and the `int` its result is put into,
`substr` and the `size_t` of its arguments are the program's. An exception of `substr` or
of `dump` is not caught and ends the program: `dump` throws for a string that is not UTF-8,
before anything is sent.

One iteration of a loop meets its `Surroundings`: whether `send` succeeds, what the
receiving thread has made of the global variables, and the time. The name of the user and
the time are texts, which the program holds as their bytes: nothing in the client assigns
the name, and the time is printed digits. A request is the value handed to `dump`. What is
printed on `cout`, the connection at the start and the wait for an answer are left out.
-/

namespace ClusterChat

/-- What an iteration finds beside its input: whether `send` succeeds, the global variables
that the receiving thread writes, and the time. -/
structure Surroundings where
  delivered : Bool
  isLoginSuccess : Bool
  currentUser : User
  time : String

/-- The foreground thread: its input, the loop it is in, the requests given to `send`
and the lines on `cerr`. -/
structure Terminal where
  input : InputStream
  isMainMenuRunning : Bool := false
  requests : List Json := []
  cerr : List String := []
  ended : Bool := false

namespace Terminal

open Utf8 (octets)

/-!
## Strings
-/

/-- The character that ends a string in an array. -/
def nul : Char := Char.ofNat 0

/-- The string a `char` array holds. -/
def cString (buffer : List Char) : List Char := buffer.takeWhile (· ≠ nul)

/-- A string assigned to a JSON value. -/
def text (str : List Char) : Json := .string (String.ofList str)

/-- The result of `find` for a character that is not there. -/
def npos : Nat := 2 ^ 64 - 1

/-- `str.find(c)`. -/
def find (c : Char) (str : List Char) : Nat := if c ∈ str then str.idxOf c else npos

/-- Conversion to `size_t`. -/
def toSize (value : Int) : Nat := (value % 2 ^ 64).toNat

/-- `str.substr(pos, count)`, or `out_of_range`. -/
def substr (pos count : Nat) (str : List Char) : Option (List Char) :=
  if str.length < pos then none else some ((str.drop pos).take count)

/-- `int idx = str.find(":")`. -/
def colon (str : List Char) : Int := toInt (find ':' str)

/-- `str.substr(0, idx)`. -/
def upTo (idx : Int) (str : List Char) : Option (List Char) := substr 0 (toSize idx) str

/-- `str.substr(idx + 1, str.size() - idx)`. -/
def behind (idx : Int) (str : List Char) : Option (List Char) :=
  substr (toSize (idx + 1)) (toSize (str.length - idx)) str

/-- `atoi(str.c_str())`: the number at the beginning, clamped to a `long` and cut to an `int`. -/
def atoi (str : List Char) : Int := toInt (Decimal.strtol (cString str))

/-!
## The handlers of the commands
-/

/-- A line printed on `cerr`. -/
def complain (line : String) (t : Terminal) : Terminal := { t with cerr := t.cerr ++ [line] }

section Handlers

variable (around : Surroundings)

/-- `dump`, which may throw, and then `send`, with the line printed when it fails. -/
def send (js : Json) (failure : String) (t : Terminal) : Option Terminal :=
  if Json.Serializer.dumpable js then
    let t := { t with requests := t.requests ++ [js] }
    some (if around.delivered then t else t.complain failure)
  else none

/-- A `send` that comes to its end adds its request and keeps what it does not print. -/
theorem send_some (js : Json) (failure : String) (t next : Terminal)
    (sent : t.send around js failure = some next) :
    next.requests = t.requests ++ [js] ∧ next.input = t.input ∧ next.ended = t.ended := by
  unfold send at sent
  split at sent
  · cases sent
    split <;> exact ⟨rfl, rfl, rfl⟩
  · cases sent

/-- A request of the user logged in. -/
def request (type : MsgType) : Json :=
  (Json.null.set "msgid" (.integer type.code)).set "id" (.integer around.currentUser.id)

/-- The name of the user logged in, as the program holds it. -/
def userName : Json := text (octets around.currentUser.name)

/-- `getCurrentTime()`. -/
def getCurrentTime : Json := text (octets around.time)

/-- A handler that cuts its string at the first colon. -/
def cutting (invalid : String) (handle : List Char → List Char → Terminal → Option Terminal)
    (str : List Char) (t : Terminal) : Option Terminal :=
  let idx := colon str
  if idx = -1 then some (t.complain invalid)
  else do
    let first ← upTo idx str
    let second ← behind idx str
    handle first second t

/-- The message a chat command carries to the user or group it names under the key. -/
def talking (type : MsgType) (key empty failure : String) (number message : List Char)
    (t : Terminal) : Option Terminal :=
  if message.isEmpty then some (t.complain empty)
  else
    let js := (((request around type).set "name" (userName around)).set key
      (.integer (atoi number))).set "msg" (text message)
    t.send around (js.set "time" (getCurrentTime around)) failure

/-- The request of a command that names a user or group under the key and nothing else. -/
def naming (type : MsgType) (key failure : String) (str : List Char) (t : Terminal) :
    Option Terminal :=
  t.send around ((request around type).set key (.integer (atoi str))) failure

/-- The first command shows the others and sends nothing. -/
def help (_ : List Char) (t : Terminal) : Option Terminal := some t

/-- A message to one user. -/
def chat : List Char → Terminal → Option Terminal :=
  cutting "chat command invalid"
    (talking around .oneChatMsg "to" "私聊消息不能为空！" "send chat msg error")

/-- A friend is added by its id. -/
def addFriend : List Char → Terminal → Option Terminal :=
  naming around .addFriendMsg "friendid" "send addFriend msg error"

/-- The request of a command that describes a new group. -/
def describing (groupName groupDesc : List Char) (t : Terminal) : Option Terminal :=
  t.send around (((request around .createGroupMsg).set "groupname" (text groupName)).set
    "groupdesc" (text groupDesc)) "createGroup msg error!!!"

/-- A group is created with its name and description. -/
def createGroup : List Char → Terminal → Option Terminal :=
  cutting "creategroup command invalid!!!" (describing around)

/-- A group is joined by its id. -/
def joinGroup : List Char → Terminal → Option Terminal :=
  naming around .joinGroupMsg "groupid" "joinGroup msg error !!!"

/-- A message to a group. -/
def groupChat : List Char → Terminal → Option Terminal :=
  cutting "groupChat command invalid!!"
    (talking around .groupChatMsg "groupid" "群聊消息不能为空！" "groupChat msg error!!")

/-- A logout that was sent ends the loop. -/
def loginout (_ : List Char) (t : Terminal) : Option Terminal :=
  let sent := t.send around ((request around .loginOutMsg).set "name" (userName around))
    "send loginmsg msg error!!"
  sent.map fun t => if around.delivered then { t with isMainMenuRunning := false } else t

/-- `commandHandlerMap`. -/
def commandHandlerMap (command : List Char) : Option (List Char → Terminal → Option Terminal) :=
  [("help", help), ("chat", chat around), ("addFriend", addFriend around),
    ("createGroup", createGroup around), ("joinGroup", joinGroup around),
    ("groupChat", groupChat around), ("loginout", loginout around)].lookup (String.ofList command)

/-!
## The two loops
-/

/-- An exception that nobody catches. -/
def terminate (t : Terminal) : Terminal := { t with ended := true }

/-- What stands before the first colon, or the whole line. -/
def typedCommand (idx : Int) (commandBuffer : List Char) : Option (List Char) :=
  if idx = -1 then some commandBuffer else upTo idx commandBuffer

/-- What `mainmenu` does with a command line. -/
def obey (commandBuffer : List Char) (t : Terminal) : Option Terminal := do
  let command ← typedCommand (colon commandBuffer) commandBuffer
  match commandHandlerMap around command with
  | none => return t.complain "输入了不合法的命令"
  | some handler =>
      let str ← behind (colon commandBuffer) commandBuffer
      handler str t

/-- An iteration of the loop of `mainmenu`. -/
def mainmenu (t : Terminal) : Terminal :=
  let (buffer, input) := t.input.getline 1024
  let t := { t with input }
  (obey around (cString buffer) t).getD t.terminate

/-- The first choice. A login that succeeds enters `mainmenu`. -/
def login (t : Terminal) : Terminal :=
  let (id, input) := t.input.readInt 0
  let (_, input) := input.get
  let (pwd, input) := input.getline 20
  let js := ((Json.null.set "msgid" (.integer MsgType.loginMsg.code)).set "id" (.integer id)).set
    "password" (text (cString pwd))
  let t := { t with input }
  let sent := t.send around js ("Send login msg error!!" ++ js.dump)
  (sent.map fun t => if around.isLoginSuccess then { t with isMainMenuRunning := true } else t).getD
    t.terminate

/-- The second choice. -/
def register (t : Terminal) : Terminal :=
  let (name, input) := t.input.getline 50
  let (pwd, input) := input.getline 50
  let js := ((Json.null.set "msgid" (.integer MsgType.regMsg.code)).set "name"
    (text (cString name))).set "password" (text (cString pwd))
  let t := { t with input }
  (t.send around js ("send reg msg error:" ++ js.dump)).getD t.terminate

/-- An iteration of the loop of `main`, up to a loop of `mainmenu` that it enters. -/
def mainLoop (t : Terminal) : Terminal :=
  let (choice, input) := t.input.readInt 0
  let (_, input) := input.get
  let t := { t with input }
  if choice = 1 then t.login around
  else if choice = 2 then t.register around
  else if choice = 3 then { t with ended := true }
  else t.complain "Invalid input!!"

end Handlers

/-- An iteration of the loop the thread is in. -/
def step (t : Terminal) (around : Surroundings) : Terminal :=
  if t.ended then t else if t.isMainMenuRunning then t.mainmenu around else t.mainLoop around

end Terminal

end ClusterChat
