import ScriptHub.Script.Code

/-!
# The entry points of a hub

There is one entry point for every kind of event.  An entry point takes the arguments
of its kind and raises the event that carries them.  Hosts that call entry points by
name find the kind behind a name here.
-/

namespace ScriptHub
namespace EntryPoint

variable {P : Type}

/-- Raises a tick of the timer. -/
def onTimer (msec : UInt64) : Call P :=
  .raise (.timer msec)

/-- Raises a message in the main chat. -/
def onParsedMsgChat (nick message : String) : Call P :=
  .raise (.chat nick message)

/-- Raises a private message. -/
def onParsedMsgPm (nick message otherNick : String) : Call P :=
  .raise (.privateMessage nick message otherNick)

/-- Raises a search request. -/
def onParsedMsgSearch (nick query : String) : Call P :=
  .raise (.search nick query)

/-- Raises a search result. -/
def onParsedMsgSr (nick result : String) : Call P :=
  .raise (.searchResult nick result)

/-- Raises a user's description of itself. -/
def onParsedMsgMyInfo (nick : String) : Call P :=
  .raise (.myInfo nick)

/-- Raises a request to use a nick. -/
def onParsedMsgValidateNick (nick : String) : Call P :=
  .raise (.validateNick nick)

/-- Raises an invitation to connect. -/
def onParsedMsgConnectToMe (nick ip : String) (port : UInt16) : Call P :=
  .raise (.connectToMe nick ip port)

/-- Raises a request for an invitation to connect. -/
def onParsedMsgRevConnectToMe (nick otherNick : String) : Call P :=
  .raise (.revConnectToMe nick otherNick)

/-- Raises an exchange of capabilities. -/
def onParsedMsgSupports (ip message back : String) : Call P :=
  .raise (.supports ip message back)

/-- Raises a login. -/
def onUserLogin (nick : String) : Call P :=
  .raise (.userLogin nick)

/-- Raises a logout. -/
def onUserLogout (nick : String) : Call P :=
  .raise (.userLogout nick)

/-- Raises a disconnection. -/
def onUserDisconnected (nick : String) : Call P :=
  .raise (.userDisconnected nick)

/-- Raises a new connection. -/
def onNewConn (ip : String) : Call P :=
  .raise (.newConn ip)

/-- Raises a closed connection. -/
def onCloseConn (ip : String) : Call P :=
  .raise (.closeConn ip)

/-- Raises a hub command; the administrative surface may claim it. -/
def onHubCommand
    (nick command : String)
    (userClass : Int32)
    (inPm : Bool)
    (trigger : String) :
    Call P :=
  .raise (.hubCommand nick command userClass inPm trigger)

/-- Raises an operator command. -/
def onOperatorCommand
    (nick command : String)
    (userClass : Int32)
    (inPm : Bool) :
    Call P :=
  .raise (.operatorCommand nick command userClass inPm)

/-- Raises a kick. -/
def onOperatorKicks (opNick nick reason : String) : Call P :=
  .raise (.operatorKicks opNick nick reason)

/-- Raises a drop. -/
def onOperatorDrops (opNick nick reason : String) : Call P :=
  .raise (.operatorDrops opNick nick reason)

/-- Raises the validation of a tag. -/
def onValidateTag (nick tag : String) : Call P :=
  .raise (.validateTag nick tag)

/-- Raises an addition to the user list. -/
def onUserInList (nick : String) : Call P :=
  .raise (.userInList nick)

/-- Raises a message that was not recognised. -/
def onUnknownMsg (nick message : String) : Call P :=
  .raise (.unknownMessage nick message)

/-- Raises a flood. -/
def onFlood (nick message : String) : Call P :=
  .raise (.flood nick message)

/-- The name under which hosts call the entry point of a kind. -/
def name : EventKind → String
  | .timer => "on_timer"
  | .chat => "on_parsed_msg_chat"
  | .privateMessage => "on_parsed_msg_pm"
  | .search => "on_parsed_msg_search"
  | .searchResult => "on_parsed_msg_sr"
  | .myInfo => "on_parsed_msg_my_info"
  | .validateNick => "on_parsed_msg_validate_nick"
  | .connectToMe => "on_parsed_msg_connect_to_me"
  | .revConnectToMe => "on_parsed_msg_rev_connect_to_me"
  | .supports => "on_parsed_msg_supports"
  | .userLogin => "on_user_login"
  | .userLogout => "on_user_logout"
  | .userDisconnected => "on_user_disconnected"
  | .newConn => "on_new_conn"
  | .closeConn => "on_close_conn"
  | .hubCommand => "on_hub_command"
  | .operatorCommand => "on_operator_command"
  | .operatorKicks => "on_operator_kicks"
  | .operatorDrops => "on_operator_drops"
  | .validateTag => "on_validate_tag"
  | .userInList => "on_user_in_list"
  | .unknownMessage => "on_unknown_msg"
  | .flood => "on_flood"

/-- The kind whose entry point has a name. -/
def ofName? (text : String) : Option EventKind :=
  EventKind.all.find? fun kind => name kind == text

/-- Every entry point is found under its own name. -/
theorem ofName?_name (kind : EventKind) :
    ofName? (name kind) = some kind := by
  cases kind <;> decide

end EntryPoint
end ScriptHub
