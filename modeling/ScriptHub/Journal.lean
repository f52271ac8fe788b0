import ScriptHub.Admin.Command
import ScriptHub.Dispatcher.Basic
import ScriptHub.Event.Basic
import ScriptHub.Script.Failure
import ScriptHub.Settings
import ScriptHub.Verdict

/-!
# Log records

A log record says what happened; its level, its message and its fields follow
from that.  Fields are texts, integers or flags.
-/

namespace ScriptHub

/-- The weight of a log record. -/
inductive LogLevel
  | trace
  | debug
  | info
  | warn
  | error
  deriving DecidableEq

/-- The name of a level. -/
def LogLevel.name : LogLevel → String
  | .trace => "TRACE"
  | .debug => "DEBUG"
  | .info => "INFO"
  | .warn => "WARN"
  | .error => "ERROR"

/-- The value of a field. -/
inductive LogValue
  | text (value : String)
  | integer (value : Int)
  | flag (value : Bool)
  deriving DecidableEq

/-- What a log record reports. -/
inductive LogEntry
  | bindingsInserted (script : ScriptId) (kinds : Nat)
  | bindingsRemoved (script : ScriptId) (removed : Nat)
  | scriptRegistered
      (script : ScriptId)
      (name : String)
      (priority : Int32)
      (hooks : Nat)
      (enabled : Bool)
  | unregisterUnknown (script : ScriptId)
  | cleanupFailed (script : ScriptId) (name : String) (reason : HandlerError)
  | scriptUnregistered (script : ScriptId) (name : String)
  | stateChanged (script : ScriptId) (enabled : Bool)
  | dispatching (kind : EventKind) (handlers : Nat)
  | handlerBlocked (kind : EventKind) (script : ScriptId) (name : String)
  | handlerFailed
      (kind : EventKind)
      (script : ScriptId)
      (name : String)
      (reason : HandlerError)
  | shuttingDown (scripts : Nat)
  | shutDown (removed : Nat)
  | commandRefused (nick : String) (userClass : Int32)
  | commandRunning (nick : String) (command : AdminCommand)
  | noticeDropped (nick : String) (reason : NoticeError)
  | chatSeen (nick message : String)
  | privateMessageSeen (nick otherNick message : String)
  | loginSeen (nick : String)
  | logoutSeen (nick : String)
  | messageBlocked (nick : Option String)
  | wordFilterUnloaded
  deriving DecidableEq

namespace LogEntry

/-- The level of a record. -/
def level : LogEntry → LogLevel
  | bindingsInserted .. | bindingsRemoved .. | dispatching ..
  | handlerBlocked .. | commandRunning .. | noticeDropped .. => .debug
  | unregisterUnknown .. | handlerFailed .. => .warn
  | cleanupFailed .. => .error
  | scriptRegistered .. | scriptUnregistered .. | stateChanged ..
  | shuttingDown .. | shutDown .. | commandRefused .. | chatSeen ..
  | privateMessageSeen .. | loginSeen .. | logoutSeen ..
  | messageBlocked .. | wordFilterUnloaded => .info

/-- The message of a record; a record of a chat text carries that text. -/
def message : LogEntry → String
  | bindingsInserted .. => "Hook bindings inserted"
  | bindingsRemoved .. => "Hook bindings removed"
  | scriptRegistered .. => "Script registered"
  | unregisterUnknown .. => "Unregister requested for unknown script"
  | cleanupFailed .. => "Script cleanup failed"
  | scriptUnregistered .. => "Script unregistered"
  | stateChanged .. => "Script state changed"
  | dispatching .. => "Dispatching hook"
  | handlerBlocked .. => "Handler blocked event"
  | handlerFailed .. => "Hook handler failed"
  | shuttingDown .. => "Shutting down dispatcher"
  | shutDown .. => "Dispatcher shut down"
  | commandRefused .. => "Administrative command refused"
  | commandRunning .. => "Running administrative command"
  | noticeDropped .. => "Dropping undeliverable notice"
  | chatSeen _ message | privateMessageSeen _ _ message => message
  | loginSeen .. => "login"
  | logoutSeen .. => "logout"
  | messageBlocked .. => "Message blocked by word filter"
  | wordFilterUnloaded => "Word filter unloaded"

/-- An optional nick as a record shows it. -/
def showNick? : Option String → String
  | none => "None"
  | some nick => "Some(" ++ Text.quote nick ++ ")"

/-- An id as a record shows it. -/
def idField (script : ScriptId) : String × LogValue :=
  ("script_id", .text (toString script))

/-- The fields of a record. -/
def fields : LogEntry → List (String × LogValue)
  | bindingsInserted script kinds =>
      [idField script, ("kinds", .integer kinds)]
  | bindingsRemoved script removed =>
      [idField script, ("removed", .integer removed)]
  | scriptRegistered script name priority hooks enabled =>
      [idField script, ("name", .text name),
        ("priority", .integer priority.toInt), ("hooks", .integer hooks),
        ("enabled", .flag enabled)]
  | unregisterUnknown script => [idField script]
  | cleanupFailed script name reason =>
      [idField script, ("script", .text name),
        ("error", .text reason.message)]
  | scriptUnregistered script name => [idField script, ("name", .text name)]
  | stateChanged script enabled => [idField script, ("enabled", .flag enabled)]
  | dispatching kind handlers =>
      [("hook", .text kind.name), ("handler_count", .integer handlers)]
  | handlerBlocked kind script name =>
      [("hook", .text kind.name), idField script, ("script", .text name)]
  | handlerFailed kind script name reason =>
      [("hook", .text kind.name), idField script, ("script", .text name),
        ("error", .text reason.message)]
  | shuttingDown scripts => [("scripts", .integer scripts)]
  | shutDown removed => [("removed", .integer removed)]
  | commandRefused nick userClass =>
      [("nick", .text nick), ("user_class", .integer userClass.toInt)]
  | commandRunning nick command =>
      [("nick", .text nick), ("command", .text command.describe)]
  | noticeDropped nick reason =>
      [("nick", .text nick), ("error", .text reason.message)]
  | chatSeen nick _ => [("nick", .text nick)]
  | privateMessageSeen nick otherNick _ => [("nick", .text nick), ("to", .text otherNick)]
  | loginSeen nick => [("nick", .text nick)]
  | logoutSeen nick => [("nick", .text nick)]
  | messageBlocked nick => [("nick", .text (showNick? nick))]
  | wordFilterUnloaded => []

end LogEntry

end ScriptHub
