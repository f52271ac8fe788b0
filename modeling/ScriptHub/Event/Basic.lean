import ScriptHub.Event.Kind

/-!
# Events with their arguments

An event is of one kind and carries the arguments of that kind.  The arguments
have names and types, listed per kind in the signature; an event can be taken
apart into its arguments and put together again from them.
-/

namespace ScriptHub

/-- An event, with the arguments of its kind. -/
inductive Event
  | timer (msec : UInt64)
  | chat (nick message : String)
  | privateMessage (nick message otherNick : String)
  | search (nick query : String)
  | searchResult (nick result : String)
  | myInfo (nick : String)
  | validateNick (nick : String)
  | connectToMe (nick ip : String) (port : UInt16)
  | revConnectToMe (nick otherNick : String)
  | supports (ip message back : String)
  | userLogin (nick : String)
  | userLogout (nick : String)
  | userDisconnected (nick : String)
  | newConn (ip : String)
  | closeConn (ip : String)
  | hubCommand
      (nick command : String)
      (userClass : Int32)
      (inPm : Bool)
      (trigger : String)
  | operatorCommand
      (nick command : String)
      (userClass : Int32)
      (inPm : Bool)
  | operatorKicks (opNick nick reason : String)
  | operatorDrops (opNick nick reason : String)
  | validateTag (nick tag : String)
  | userInList (nick : String)
  | unknownMessage (nick message : String)
  | flood (nick message : String)
  deriving DecidableEq

/--
The type of an argument: any text, yes or no, an unsigned integer of 64 or of 16 bits,
or a signed integer of 32 bits.
-/
inductive FieldType
  | text
  | flag
  | uint64
  | uint16
  | int32
  deriving DecidableEq

/-- The value of an argument. -/
inductive FieldValue
  | text (value : String)
  | flag (value : Bool)
  | uint64 (value : UInt64)
  | uint16 (value : UInt16)
  | int32 (value : Int32)
  deriving DecidableEq

/-- The type a value belongs to. -/
def FieldValue.type : FieldValue → FieldType
  | .text _ => .text
  | .flag _ => .flag
  | .uint64 _ => .uint64
  | .uint16 _ => .uint16
  | .int32 _ => .int32

/-- The names and types of a kind's arguments, in order. -/
def EventKind.signature : EventKind → List (String × FieldType)
  | .timer => [("msec", .uint64)]
  | .chat => [("nick", .text), ("message", .text)]
  | .privateMessage =>
      [("nick", .text), ("message", .text), ("other_nick", .text)]
  | .search => [("nick", .text), ("query", .text)]
  | .searchResult => [("nick", .text), ("result", .text)]
  | .myInfo => [("nick", .text)]
  | .validateNick => [("nick", .text)]
  | .connectToMe => [("nick", .text), ("ip", .text), ("port", .uint16)]
  | .revConnectToMe => [("nick", .text), ("other_nick", .text)]
  | .supports => [("ip", .text), ("message", .text), ("back", .text)]
  | .userLogin => [("nick", .text)]
  | .userLogout => [("nick", .text)]
  | .userDisconnected => [("nick", .text)]
  | .newConn => [("ip", .text)]
  | .closeConn => [("ip", .text)]
  | .hubCommand =>
      [("nick", .text), ("command", .text), ("user_class", .int32),
        ("in_pm", .flag), ("prefix", .text)]
  | .operatorCommand =>
      [("nick", .text), ("command", .text), ("user_class", .int32),
        ("in_pm", .flag)]
  | .operatorKicks => [("op_nick", .text), ("nick", .text), ("reason", .text)]
  | .operatorDrops => [("op_nick", .text), ("nick", .text), ("reason", .text)]
  | .validateTag => [("nick", .text), ("tag", .text)]
  | .userInList => [("nick", .text)]
  | .unknownMessage => [("nick", .text), ("message", .text)]
  | .flood => [("nick", .text), ("message", .text)]

namespace Event

/-- The kind of an event. -/
def kind : Event → EventKind
  | timer .. => .timer
  | chat .. => .chat
  | privateMessage .. => .privateMessage
  | search .. => .search
  | searchResult .. => .searchResult
  | myInfo .. => .myInfo
  | validateNick .. => .validateNick
  | connectToMe .. => .connectToMe
  | revConnectToMe .. => .revConnectToMe
  | supports .. => .supports
  | userLogin .. => .userLogin
  | userLogout .. => .userLogout
  | userDisconnected .. => .userDisconnected
  | newConn .. => .newConn
  | closeConn .. => .closeConn
  | hubCommand .. => .hubCommand
  | operatorCommand .. => .operatorCommand
  | operatorKicks .. => .operatorKicks
  | operatorDrops .. => .operatorDrops
  | validateTag .. => .validateTag
  | userInList .. => .userInList
  | unknownMessage .. => .unknownMessage
  | flood .. => .flood

/-- The nick of the user that raised an event, if a user did. -/
def nick? : Event → Option String
  | timer .. | supports .. | newConn .. | closeConn .. => none
  | operatorKicks opNick _ _ | operatorDrops opNick _ _ => some opNick
  | chat nick _ | privateMessage nick _ _ | search nick _
  | searchResult nick _ | myInfo nick | validateNick nick
  | connectToMe nick _ _ | revConnectToMe nick _ | userLogin nick
  | userLogout nick | userDisconnected nick | hubCommand nick _ _ _ _
  | operatorCommand nick _ _ _ | validateTag nick _ | userInList nick
  | unknownMessage nick _ | flood nick _ => some nick

/-- The values of an event's arguments, in the order of its signature. -/
def values : Event → List FieldValue
  | timer msec => [.uint64 msec]
  | chat nick message => [.text nick, .text message]
  | privateMessage nick message otherNick =>
      [.text nick, .text message, .text otherNick]
  | search nick query => [.text nick, .text query]
  | searchResult nick result => [.text nick, .text result]
  | myInfo nick => [.text nick]
  | validateNick nick => [.text nick]
  | connectToMe nick ip port => [.text nick, .text ip, .uint16 port]
  | revConnectToMe nick otherNick => [.text nick, .text otherNick]
  | supports ip message back => [.text ip, .text message, .text back]
  | userLogin nick => [.text nick]
  | userLogout nick => [.text nick]
  | userDisconnected nick => [.text nick]
  | newConn ip => [.text ip]
  | closeConn ip => [.text ip]
  | hubCommand nick command userClass inPm trigger =>
      [.text nick, .text command, .int32 userClass, .flag inPm, .text trigger]
  | operatorCommand nick command userClass inPm =>
      [.text nick, .text command, .int32 userClass, .flag inPm]
  | operatorKicks opNick nick reason =>
      [.text opNick, .text nick, .text reason]
  | operatorDrops opNick nick reason =>
      [.text opNick, .text nick, .text reason]
  | validateTag nick tag => [.text nick, .text tag]
  | userInList nick => [.text nick]
  | unknownMessage nick message => [.text nick, .text message]
  | flood nick message => [.text nick, .text message]

/-- The event of a kind with the given argument values. -/
def ofValues? : EventKind → List FieldValue → Option Event
  | .timer, [.uint64 msec] => some (timer msec)
  | .chat, [.text nick, .text message] => some (chat nick message)
  | .privateMessage, [.text nick, .text message, .text otherNick] =>
      some (privateMessage nick message otherNick)
  | .search, [.text nick, .text query] => some (search nick query)
  | .searchResult, [.text nick, .text result] =>
      some (searchResult nick result)
  | .myInfo, [.text nick] => some (myInfo nick)
  | .validateNick, [.text nick] => some (validateNick nick)
  | .connectToMe, [.text nick, .text ip, .uint16 port] =>
      some (connectToMe nick ip port)
  | .revConnectToMe, [.text nick, .text otherNick] =>
      some (revConnectToMe nick otherNick)
  | .supports, [.text ip, .text message, .text back] =>
      some (supports ip message back)
  | .userLogin, [.text nick] => some (userLogin nick)
  | .userLogout, [.text nick] => some (userLogout nick)
  | .userDisconnected, [.text nick] => some (userDisconnected nick)
  | .newConn, [.text ip] => some (newConn ip)
  | .closeConn, [.text ip] => some (closeConn ip)
  | .hubCommand,
      [.text nick, .text command, .int32 userClass, .flag inPm,
        .text trigger] =>
      some (hubCommand nick command userClass inPm trigger)
  | .operatorCommand,
      [.text nick, .text command, .int32 userClass, .flag inPm] =>
      some (operatorCommand nick command userClass inPm)
  | .operatorKicks, [.text opNick, .text nick, .text reason] =>
      some (operatorKicks opNick nick reason)
  | .operatorDrops, [.text opNick, .text nick, .text reason] =>
      some (operatorDrops opNick nick reason)
  | .validateTag, [.text nick, .text tag] => some (validateTag nick tag)
  | .userInList, [.text nick] => some (userInList nick)
  | .unknownMessage, [.text nick, .text message] =>
      some (unknownMessage nick message)
  | .flood, [.text nick, .text message] => some (flood nick message)
  | _, _ => none

/-- An event's arguments by name. -/
def fields (event : Event) : List (String × FieldValue) :=
  (event.kind.signature.map Prod.fst).zip event.values

/-- The value of an argument, if the event has one of that name. -/
def field?
    (event : Event)
    (name : String) :
    Option FieldValue :=
  (event.fields.find? fun entry => entry.1 == name).map Prod.snd

/-- The values of an event have the types of its signature. -/
theorem values_type (event : Event) :
    event.values.map FieldValue.type =
      event.kind.signature.map Prod.snd := by
  cases event <;> rfl

/-- An event is put together again from its kind and its values. -/
theorem ofValues?_values (event : Event) :
    ofValues? event.kind event.values = some event := by
  cases event <;> rfl

end Event

end ScriptHub
