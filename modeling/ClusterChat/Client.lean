import ClusterChat.Service

/-!
# The chat client

The receiving half of the client: what it keeps of the user, what it prints, and
how it takes in what the server sends. `readTaskHandler` puts every piece `recv`
returns into a zeroed buffer of 1024 bytes, parses the buffer as one JSON text and
handles the value by its message type.

Nothing here is caught. A conversion that throws, a text that is not an array of
strings where one is expected, and a text that does not parse end the process, so
a handler returns the client it leaves or what ended it. Lines printed before the
end are not kept.

The parser of the JSON library is a parameter, once for the texts inside a reply
and once for the bytes of a buffer. The sending half, with its menus, is in
`Terminal`.
-/

namespace ClusterChat

/-- The exceptions that end the client: one of a conversion, an array expected
where there is none, and a parse error. -/
inductive Uncaught where
  | json (exception : JsonError)
  | mustBeArray
  | parseError
deriving DecidableEq

/-- The global variables of the client that the receiving thread writes, and what
it has printed. -/
structure Client where
  currentUser : User := {}
  currentUserFriendList : List User := []
  currentUserGroupList : List Group := []
  isLoginSuccess : Bool := false
  printed : List String := []

namespace Json

/-- `0 == value`. The library compares numbers of both kinds and nothing else. -/
def isZero : Json → Bool
  | .integer value => value = 0
  | .float whole text => whole = 0 ∧ (text = "0.0" ∨ text = "-0.0")
  | _ => false

end Json

namespace Client

/-- A conversion of a field, whose exception nothing catches. -/
def convert {α : Type} (converted : Except JsonError α) : Except Uncaught α :=
  converted.mapError Uncaught.json

/-- `json::parse`. -/
def parsed (result : Option Json) : Except Uncaught Json :=
  match result with
  | some js => .ok js
  | none => .error .parseError

/-- `vector<string> vec = js[key]`. -/
def getStrings : Json → Except Uncaught (List String)
  | .array items => items.mapM (fun item => convert item.getString)
  | _ => .error .mustBeArray

/-- Lines written to `cout`. -/
def print (lines : List String) (client : Client) : Client :=
  { client with printed := client.printed ++ lines }

/-!
## What is printed
-/

/-- The line of a private message. -/
def oneChatLine (js : Json) : Except JsonError String := do
  let time ← js.str "time"
  let id ← js.field "id"
  let name ← js.str "name"
  let msg ← js.str "msg"
  return time ++ " [" ++ id.dump ++ "]" ++ name ++ " said: " ++ msg

/-- The line of a group message. -/
def groupChatLine (js : Json) : Except JsonError String := do
  let groupid ← js.field "groupid"
  let line ← oneChatLine js
  return "群消息[" ++ groupid.dump ++ "]:" ++ line

/-- The line of a friend. -/
def friendLine (user : User) : String :=
  toString user.id ++ " " ++ user.name ++ " " ++ user.state

/-- The line of a group member, which has the role besides. -/
def memberLine (user : GroupUser) : String := friendLine user.toUser ++ " " ++ user.role

/-- The line of a group and those of its members. -/
def groupLines (group : Group) : List String :=
  (toString group.id ++ " " ++ group.name ++ " " ++ group.desc) :: group.users.map memberLine

/-- `showCurrentUserData`. -/
def showCurrentUserData (client : Client) : Client :=
  client.print (["=============Current User=================",
      "Current User id: [ " ++ toString client.currentUser.id ++ " ] name: [ " ++
        client.currentUser.name ++ " ]",
      "-------------Friend List------------------"] ++
    client.currentUserFriendList.map friendLine ++
    ["-------------Group List-------------------"] ++
    client.currentUserGroupList.flatMap groupLines ++
    ["==========================================="])

section Receiving

variable (parse : String → Option Json)

/-!
## The reply to a login
-/

/-- One text of the friend list. -/
def readFriend (text : String) : Except Uncaught User := do
  let js ← parsed (parse text)
  let id ← convert (js.int "id")
  let name ← convert (js.str "name")
  let state ← convert (js.str "state")
  return { id, name, state }

/-- One text of the member list of a group. -/
def readMember (text : String) : Except Uncaught GroupUser := do
  let user ← readFriend parse text
  let js ← parsed (parse text)
  let role ← convert (js.str "role")
  return { user with role }

/-- One text of the group list. -/
def readGroup (text : String) : Except Uncaught Group := do
  let grpjs ← parsed (parse text)
  let id ← convert (grpjs.int "id")
  let name ← convert (grpjs.str "groupname")
  let desc ← convert (grpjs.str "groupdesc")
  let vec2 ← getStrings (← convert (grpjs.field "users"))
  let users ← vec2.mapM (readMember parse)
  return { id, name, desc, users }

/-- A list of the reply: its texts, each read by the function given. A reply
without the list leaves what the client had. -/
def readList {α : Type} (read : String → Except Uncaught α) (js : Json) (key : String)
    (had : List α) : Except Uncaught (List α) :=
  if js.contains key then do
    let vec ← getStrings (← convert (js.field key))
    vec.mapM read
  else return had

/-- The part of a successful reply before the offline messages. -/
def enter (client : Client) (js : Json) : Except Uncaught Client := do
  let id ← convert (js.int "id")
  let friends ← readList (readFriend parse) js "friends" client.currentUserFriendList
  let groups ← readList (readGroup parse) js "groups" client.currentUserGroupList
  return showCurrentUserData { client with
    currentUser := { client.currentUser with id }
    currentUserFriendList := friends
    currentUserGroupList := groups }

/-- The line of one offline message. -/
def offlineLine (text : String) : Except Uncaught String := do
  let js ← parsed (parse text)
  let msgid ← convert (js.int "msgid")
  if msgid = MsgType.oneChatMsg.code then convert (oneChatLine js) else convert (groupChatLine js)

/-- `doLoginResponse`. -/
def doLoginResponse (client : Client) (responsejs : Json) : Except Uncaught Client := do
  let errno ← convert (responsejs.field "errno")
  if errno.isZero then
    let client ← enter parse client responsejs
    let lines ← readList (offlineLine parse) responsejs "offlinemessage" []
    return { client.print lines with isLoginSuccess := true }
  else
    let errormsg ← convert (responsejs.field "errormsg")
    return { client.print [errormsg.dump] with isLoginSuccess := false }

/-- `doRegResponse`. -/
def doRegResponse (client : Client) (responsejs : Json) : Except Uncaught Client := do
  let errno ← convert (responsejs.field "errno")
  if errno.isZero then
    let id ← convert (responsejs.field "id")
    return client.print ["name register success, userid is " ++ id.dump ++ ", do not forget it"]
  else return client.print ["name is already exist, register error!"]

/-!
## The receiving thread
-/

/-- The handling of one parsed value, by its message type. -/
def handle (client : Client) (js : Json) : Except Uncaught Client := do
  let msgType ← convert (js.int "msgid")
  if msgType = MsgType.oneChatMsg.code then return client.print [← convert (oneChatLine js)]
  else if msgType = MsgType.groupChatMsg.code then
    return client.print [← convert (groupChatLine js)]
  else if msgType = MsgType.loginMsgAck.code then doLoginResponse parse client js
  else if msgType = MsgType.regMsgAck.code then doRegResponse client js
  else return client

/-- The buffer after `recv` has written one piece into it. -/
def recvBuffer (piece : List UInt8) : List UInt8 :=
  piece ++ List.replicate (1024 - piece.length) 0

/-- The loop over what `recv` returns: the values handled, in order, and the client
they leave. It ends with the connection, or with the first exception. -/
def readTaskHandler (read : List UInt8 → Option Json) : List (List UInt8) → Client →
    Except Uncaught (List Json × Client)
  | [], client => return ([], client)
  | piece :: rest, client => do
      let js ← parsed (read (recvBuffer piece))
      let next ← handle parse client js
      let (handled, left) ← readTaskHandler read rest next
      return (js :: handled, left)

end Receiving

end Client

end ClusterChat
