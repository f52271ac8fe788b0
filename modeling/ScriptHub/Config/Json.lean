import ScriptHub.Config.Basic
import ScriptHub.Json.Basic

/-!
# Configurations as JSON values

A section is read from an object whose members may come in any order, be
missing, or be unknown, but may not repeat a known name; or from an array of its
first fields in order.  A missing field falls back to its own value, and a missing
section to the default one.  Values are never converted.
-/

namespace ScriptHub

/--
Reads a field from the members of an object: its default if no member has its
name, and nothing if several have.
-/
def Json.fieldOf?
    {α : Type}
    (members : List (String × Json))
    (name : String)
    (default : α)
    (read : Json → Option α) :
    Option α :=
  match Json.valuesOf name members with
  | [] => some default
  | [json] => read json
  | _ => none

/-- Reads a field from the items of an array: its default behind the last one. -/
def Json.itemOf?
    {α : Type}
    (items : List Json)
    (position : Nat)
    (default : α)
    (read : Json → Option α) :
    Option α :=
  match items[position]? with
  | none => some default
  | some json => read json

namespace DispatcherConfig

/-- The JSON value of the section. -/
def toJson (config : DispatcherConfig) : Json :=
  .object
    [("default_priority", .ofInt config.defaultPriority.toInt),
      ("admin_class", .ofInt config.adminClass.toInt),
      ("admin_command", .text config.adminCommand),
      ("catch_panics", .bool config.catchPanics)]

/-- Reads the section. -/
def ofJson? : Json → Option DispatcherConfig
  | .object members => do
      let defaultPriority ←
        Json.fieldOf? members "default_priority" Fallback.priority Json.asInt32?
      let adminClass ←
        Json.fieldOf? members "admin_class" Fallback.adminClass Json.asInt32?
      let adminCommand ←
        Json.fieldOf? members "admin_command" Fallback.adminCommand Json.asText?
      let catchPanics ←
        Json.fieldOf? members "catch_panics" Fallback.flag Json.asFlag?
      pure { defaultPriority, adminClass, adminCommand, catchPanics }
  | .array items => do
      let defaultPriority ←
        Json.itemOf? items 0 Fallback.priority Json.asInt32?
      let adminClass ← Json.itemOf? items 1 Fallback.adminClass Json.asInt32?
      let adminCommand ←
        Json.itemOf? items 2 Fallback.adminCommand Json.asText?
      let catchPanics ← Json.itemOf? items 3 Fallback.flag Json.asFlag?
      if items.length ≤ 4 then
        pure { defaultPriority, adminClass, adminCommand, catchPanics }
      else
        none
  | _ => none

end DispatcherConfig

namespace LoggingConfig

/-- The JSON value of the section. -/
def toJson (config : LoggingConfig) : Json :=
  .object [("level", .text config.level), ("format", .text config.format)]

/-- Reads the section. -/
def ofJson? : Json → Option LoggingConfig
  | .object members => do
      let level ← Json.fieldOf? members "level" Fallback.level Json.asText?
      let format ← Json.fieldOf? members "format" Fallback.format Json.asText?
      pure { level, format }
  | .array items => do
      let level ← Json.itemOf? items 0 Fallback.level Json.asText?
      let format ← Json.itemOf? items 1 Fallback.format Json.asText?
      if items.length ≤ 2 then
        pure { level, format }
      else
        none
  | _ => none

end LoggingConfig

namespace ConsoleConfig

/-- The JSON value of the section. -/
def toJson (config : ConsoleConfig) : Json :=
  .object [("timer_interval_ms", .ofNat config.timerIntervalMs.toNat)]

/-- Reads the section. -/
def ofJson? : Json → Option ConsoleConfig
  | .object members => do
      let timerIntervalMs ←
        Json.fieldOf? members "timer_interval_ms" Fallback.timerInterval
          Json.asUInt64?
      pure { timerIntervalMs }
  | .array items => do
      let timerIntervalMs ←
        Json.itemOf? items 0 Fallback.timerInterval Json.asUInt64?
      if items.length ≤ 1 then
        pure { timerIntervalMs }
      else
        none
  | _ => none

end ConsoleConfig

namespace Config

/-- The JSON value of a configuration. -/
def toJson (config : Config) : Json :=
  .object
    [("dispatcher", config.dispatcher.toJson),
      ("logging", config.logging.toJson),
      ("console", config.console.toJson)]

/-- Reads a configuration. -/
def ofJson? : Json → Option Config
  | .object members => do
      let dispatcher ←
        Json.fieldOf? members "dispatcher" {} DispatcherConfig.ofJson?
      let logging ← Json.fieldOf? members "logging" {} LoggingConfig.ofJson?
      let console ← Json.fieldOf? members "console" {} ConsoleConfig.ofJson?
      pure { dispatcher, logging, console }
  | .array items => do
      let dispatcher ← Json.itemOf? items 0 {} DispatcherConfig.ofJson?
      let logging ← Json.itemOf? items 1 {} LoggingConfig.ofJson?
      let console ← Json.itemOf? items 2 {} ConsoleConfig.ofJson?
      if items.length ≤ 3 then
        pure { dispatcher, logging, console }
      else
        none
  | _ => none

end Config

end ScriptHub
