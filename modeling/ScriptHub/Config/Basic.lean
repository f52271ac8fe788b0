import ScriptHub.Settings

/-!
# The configuration of a hub

A configuration has three sections with seven fields in all.  A field that is missing
from what is read falls back to a value of its own, and a section that is missing to the
default section.
-/

namespace ScriptHub

/-! What the fields fall back to, each by itself. -/

namespace Fallback

/-- For the priority of a script that supplies none. -/
def priority : Int32 :=
  100

/-- For the least user class that may give administrative commands. -/
def adminClass : Int32 :=
  10

/-- For the first word of an administrative command. -/
def adminCommand : String :=
  "dispatcher"

/-- For a flag. -/
def flag : Bool :=
  true

/-- For the least level that is logged. -/
def level : String :=
  "info"

/-- For the form of log lines. -/
def format : String :=
  "pretty"

/-- For the milliseconds between ticks of the timer. -/
def timerInterval : UInt64 :=
  1000

end Fallback

/--
The section that tunes the dispatcher: the priority of a script that supplies none, the
least user class that may give administrative commands, the first word of such a command,
and whether panics are caught and counted as failures.
-/
structure DispatcherConfig where
  defaultPriority : Int32 := Fallback.priority
  adminClass : Int32 := Fallback.adminClass
  adminCommand : String := Fallback.adminCommand
  catchPanics : Bool := true
  deriving DecidableEq

/-- The section on logging: the least level that is logged, and the form of log lines. -/
structure LoggingConfig where
  level : String := Fallback.level
  format : String := Fallback.format
  deriving DecidableEq

/--
The section on the console: the milliseconds between ticks of the timer, where zero turns
the timer off.
-/
structure ConsoleConfig where
  timerIntervalMs : UInt64 := Fallback.timerInterval
  deriving DecidableEq

/-- The configuration of a hub. -/
structure Config where
  dispatcher : DispatcherConfig := {}
  logging : LoggingConfig := {}
  console : ConsoleConfig := {}
  deriving DecidableEq

/-- The settings of a dispatcher that follow from its section. -/
def Settings.ofConfig (config : DispatcherConfig) : Settings :=
  { defaultPriority := config.defaultPriority
    catchHandlerPanics := config.catchPanics
    catchCleanupPanics := config.catchPanics
    adminClass := config.adminClass
    adminWord := config.adminCommand }

end ScriptHub
