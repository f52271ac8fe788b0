/-!
# The kinds of event a hub raises

There are 23 kinds.  Each has a name, by which scripts and configuration refer
to it, and a position in the order of declaration, by which per-kind data are
stored and listed.
-/

namespace ScriptHub

/--
The kinds of event a hub raises.

Besides the ticks of its timer these are the messages and requests of users, how users
come, go and are thrown out by operators, the connections that open and close, messages
that the hub did not recognise, and floods.
-/
inductive EventKind
  | timer
  | chat
  | privateMessage
  | search
  | searchResult
  | myInfo
  | validateNick
  | connectToMe
  | revConnectToMe
  | supports
  | userLogin
  | userLogout
  | userDisconnected
  | newConn
  | closeConn
  | hubCommand
  | operatorCommand
  | operatorKicks
  | operatorDrops
  | validateTag
  | userInList
  | unknownMessage
  | flood
  deriving DecidableEq, Inhabited

namespace EventKind

/-- All kinds, in the order of declaration. -/
def all : List EventKind :=
  [timer, chat, privateMessage, search, searchResult, myInfo, validateNick,
    connectToMe, revConnectToMe, supports, userLogin, userLogout,
    userDisconnected, newConn, closeConn, hubCommand, operatorCommand,
    operatorKicks, operatorDrops, validateTag, userInList, unknownMessage,
    flood]

/-- The number of kinds. -/
def count : Nat := 23

/-- The position of a kind in the order of declaration. -/
def index (kind : EventKind) : Nat :=
  kind.ctorIdx

/-- The name under which the hub announces a kind. -/
def name : EventKind → String
  | timer => "OnTimer"
  | chat => "OnParsedMsgChat"
  | privateMessage => "OnParsedMsgPM"
  | search => "OnParsedMsgSearch"
  | searchResult => "OnParsedMsgSR"
  | myInfo => "OnParsedMsgMyINFO"
  | validateNick => "OnParsedMsgValidateNick"
  | connectToMe => "OnParsedMsgConnectToMe"
  | revConnectToMe => "OnParsedMsgRevConnectToMe"
  | supports => "OnParsedMsgSupports"
  | userLogin => "OnUserLogin"
  | userLogout => "OnUserLogout"
  | userDisconnected => "OnUserDisconnected"
  | newConn => "OnNewConn"
  | closeConn => "OnCloseConn"
  | hubCommand => "OnHubCommand"
  | operatorCommand => "OnOperatorCommand"
  | operatorKicks => "OnOperatorKicks"
  | operatorDrops => "OnOperatorDrops"
  | validateTag => "OnValidateTag"
  | userInList => "OnUserInList"
  | unknownMessage => "OnUnknownMsg"
  | flood => "OnFlood"

instance : ToString EventKind := ⟨name⟩

/-- The kind with the given name, letter for letter. -/
def ofName? (text : String) : Option EventKind :=
  all.find? fun kind => kind.name == text

theorem index_lt (kind : EventKind) : kind.index < count := by
  cases kind <;> decide

theorem mem_all (kind : EventKind) : kind ∈ all := by
  cases kind <;> decide

theorem all_nodup : all.Nodup := by
  decide

theorem length_all : all.length = count := rfl

/-- The kind at a position is the one whose position it is. -/
theorem all_getElem?_index (kind : EventKind) :
    all[kind.index]? = some kind := by
  cases kind <;> rfl

/-- Distinct kinds have distinct positions. -/
theorem index_inj {a b : EventKind} :
    a.index = b.index ↔ a = b := by
  constructor
  · intro h
    have key :
        all[a.index]? = all[b.index]? := by
      rw [h]
    rw [all_getElem?_index, all_getElem?_index] at key
    exact Option.some.inj key
  · intro h
    rw [h]

/-- Every kind is found under its own name. -/
theorem ofName?_name (kind : EventKind) :
    ofName? kind.name = some kind := by
  cases kind <;> decide

end EventKind

/-- The refusal of a name that belongs to no kind. -/
structure UnknownEventKind where
  name : String
  deriving DecidableEq

/-- The wording of the refusal. -/
def UnknownEventKind.message (err : UnknownEventKind) : String :=
  "unknown hook name '" ++ err.name ++ "'"

/-- Reads the name of a kind. -/
def EventKind.ofName
    (text : String) :
    Except UnknownEventKind EventKind :=
  match ofName? text with
  | some kind => .ok kind
  | none => .error ⟨text⟩

end ScriptHub
