import ScriptHub.Admin.Command
import ScriptHub.Dispatcher.Basic

/-!
# The texts of the notices that answer administrative commands
-/

namespace ScriptHub
namespace AdminReport

/-- The answer to a caller of too low a class. -/
def permissionDenied : String :=
  "Permission denied. Master class required."

/-- One line of a list. -/
def listLine (script : ScriptInfo) : String :=
  "  [" ++ (if script.enabled then "on" else "off") ++ "] ID=" ++
    toString script.id ++ ": " ++ script.name ++ " (" ++
    toString script.hooks.length ++ " hooks, priority=" ++
    toString script.priority ++ ")"

/-- The answer to a request for the list. -/
def list (scripts : List ScriptInfo) : List String :=
  ("Registered Scripts (" ++ toString scripts.length ++ "):") ::
    scripts.map listLine

/-- One line of calls. -/
def callsLine (entry : EventKind × CallCount) : String :=
  "    " ++ entry.1.name ++ ": " ++ toString entry.2.attempted ++
    " calls (" ++ toString entry.2.failed ++ " failed)"

/-- The answer to a request for the counters. -/
def stats (stats : Stats) : List String :=
  ["Dispatcher Statistics:",
    "  Total scripts: " ++ toString stats.total,
    "  Active scripts: " ++ toString stats.active,
    "  Disabled scripts: " ++ toString stats.disabled,
    "  Hook calls:"] ++
    stats.calls.map callsLine

/-- The answer to a request for help. -/
def help
    (trigger word : String) :
    List String :=
  let line (rest : String) : String := "  " ++ trigger ++ word ++ rest
  ["Dispatcher Commands:",
    line " list           - List all registered scripts",
    line " stats          - Show dispatcher statistics",
    line " enable <id>    - Enable a script",
    line " disable <id>   - Disable a script",
    line " help           - Show this help"]

/-- The reminder of how commands are written. -/
def usage
    (trigger word : String) :
    String :=
  "Usage: " ++ trigger ++ word ++
    " [list|stats|enable <id>|disable <id>|help]"

/-- The answer to a request to set a flag. -/
def toggled
    (script : ScriptId)
    (enabled found : Bool) :
    String :=
  "Script ID " ++ toString script ++
    (if found then
      if enabled then " enabled" else " disabled"
    else
      " not found")

/-- The answer to a text that is no command. -/
def rejection
    (trigger word : String) :
    AdminError → String
  | .missingSubcommand => usage trigger word
  | .missingId _ => usage trigger word
  | .invalidId _ => "Invalid script ID"
  | .unknown subcommand => "Unknown subcommand: " ++ subcommand

end AdminReport
end ScriptHub
