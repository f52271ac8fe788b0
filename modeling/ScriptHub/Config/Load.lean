import ScriptHub.Config.Basic
import ScriptHub.Config.Environment
import ScriptHub.Error
import ScriptHub.Toml.Reader

/-!
# Loading a configuration

The settings of a TOML text, if there is one, are overlaid by those of the
environment.  A field that is not set falls back to its own value, a section that is not
set to the default one, and settings that no field has a name for are ignored.
-/

namespace ScriptHub

/-- Reads a part of a value; a part that is missing has its default. -/
def Setting.readPart?
    {α : Type}
    (default : α)
    (read : Setting → Option α) :
    Option Setting → Option α
  | none => some default
  | some part => read part

/--
Reads a part of a value, found by its name in a table and by its position in a
list.
-/
def Setting.part?
    {α : Type}
    (setting : Setting)
    (name : String)
    (position : Nat)
    (default : α)
    (read : Setting → Option α) :
    Option α :=
  match setting with
  | .table members => readPart? default read (Named.value? name members)
  | .list items => readPart? default read items[position]?
  | _ => none

/-- The section on the dispatcher that a value stands for. -/
def DispatcherConfig.ofSetting? (setting : Setting) : Option DispatcherConfig := do
  let defaultPriority ←
    setting.part? "default_priority" 0 Fallback.priority Setting.toInt32?
  let adminClass ←
    setting.part? "admin_class" 1 Fallback.adminClass Setting.toInt32?
  let adminCommand ←
    setting.part? "admin_command" 2 Fallback.adminCommand Setting.toText?
  let catchPanics ←
    setting.part? "catch_panics" 3 Fallback.flag Setting.toFlag?
  pure { defaultPriority, adminClass, adminCommand, catchPanics }

/-- The section on logging that a value stands for. -/
def LoggingConfig.ofSetting? (setting : Setting) : Option LoggingConfig := do
  let level ← setting.part? "level" 0 Fallback.level Setting.toText?
  let format ← setting.part? "format" 1 Fallback.format Setting.toText?
  pure { level, format }

/-- The section on the console that a value stands for. -/
def ConsoleConfig.ofSetting? (setting : Setting) : Option ConsoleConfig := do
  let timerIntervalMs ←
    setting.part? "timer_interval_ms" 0 Fallback.timerInterval
      Setting.toUInt64?
  pure { timerIntervalMs }

namespace Config

/-- The configuration that a value stands for. -/
def ofSetting? (setting : Setting) : Option Config := do
  let dispatcher ← setting.part? "dispatcher" 0 {} DispatcherConfig.ofSetting?
  let logging ← setting.part? "logging" 1 {} LoggingConfig.ofSetting?
  let console ← setting.part? "console" 2 {} ConsoleConfig.ofSetting?
  pure { dispatcher, logging, console }

/--
Why a configuration does not load: the file is no TOML text, or a field has a value that
is none of its type.
-/
inductive LoadError
  | malformedFile
  | unusableValue
  deriving DecidableEq

/-- The wording of an error. -/
def LoadError.message : LoadError → String
  | .malformedFile => "the configuration file is no TOML text"
  | .unusableValue => "a setting has a value that does not fit it"

/-- The configuration error that follows. -/
def LoadError.toHubError (err : LoadError) : HubError :=
  .ofConfiguration err.message

/-- The settings of a file; its top-level keys are taken as paths. -/
def fileSetting (read : Setting) : Setting :=
  read.members.foldl
    (fun lower member => member.2.layAt (Setting.pathOf member.1.toList) lower)
    (.table [])

/--
The settings of a file, if there is one.  A mark of the byte order at the start
of the file is dropped before the text is read.
-/
def readFile? (file : Option String) : Except LoadError Setting :=
  match file with
  | none => .ok (.table [])
  | some text =>
      match Toml.read? (String.ofList (Toml.dropByteOrderMark text.toList)) with
      | none => .error .malformedFile
      | some read => .ok (fileSetting read)

/-- Loads a configuration from a file and the variables of the environment. -/
def load
    (file : Option String)
    (environment : List (String × String)) :
    Except LoadError Config := do
  let lower ← readFile? file
  match ofSetting? (Environment.overlayAll lower environment) with
  | some config => pure config
  | none => .error .unusableValue

end Config

end ScriptHub
