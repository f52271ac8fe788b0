import ScriptHub.Config.Json
import ScriptHub.Config.Load

/-!
# The fields of a configuration

A configuration has seven fields in three sections.  Here sections and fields are
things of their own, each field with the section it stands in and the type of its
values, so that what holds of every field can be said once and shown by cases.

**Results.**
* `Config.get_ofValues`: a configuration has one value for every field.
* `Config.content_eq`: a section is known by the values of its fields.
* `Config.Field.fallback_eq_default`: a field that is missing alone has the value that it
  has if its section is missing.
* `Config.Section.collect_eq_some_iff`, `Config.collect_eq_some_iff`: what is read part
  by part.
* `Config.Field.key_inj`: a field is known by its name and the name of its section.
-/

namespace ScriptHub
namespace Config

/-- A section of a configuration. -/
inductive Section
  | dispatcher
  | logging
  | console
  deriving DecidableEq

/-- A field of a configuration, by the section that it stands in. -/
inductive Field : Section → Type
  | defaultPriority : Field .dispatcher
  | adminClass : Field .dispatcher
  | adminCommand : Field .dispatcher
  | catchPanics : Field .dispatcher
  | level : Field .logging
  | format : Field .logging
  | timerIntervalMs : Field .console
  deriving DecidableEq

namespace Section

/-- What a section holds. -/
@[reducible] def Content : Section → Type
  | dispatcher => DispatcherConfig
  | logging => LoggingConfig
  | console => ConsoleConfig

/-- The name of a section. -/
def name : Section → String
  | dispatcher => "dispatcher"
  | logging => "logging"
  | console => "console"

/-- The sections, in the order in which they are written. -/
def all : List Section :=
  [dispatcher, logging, console]

/-- The fields of a section, in the order in which they are written. -/
def fields : (part : Section) → List (Field part)
  | dispatcher => [.defaultPriority, .adminClass, .adminCommand, .catchPanics]
  | logging => [.level, .format]
  | console => [.timerIntervalMs]

theorem mem_all (part : Section) : part ∈ all := by
  cases part <;> decide

theorem mem_fields {part : Section} (field : Field part) : field ∈ part.fields := by
  cases field <;> decide

theorem name_inj {part other : Section} : part.name = other.name ↔ part = other := by
  cases part <;> cases other <;> decide

end Section

variable {part : Section}

namespace Field

/-- The type of the values of a field. -/
@[reducible] def Value : {part : Section} → Field part → Type
  | _, defaultPriority => Int32
  | _, adminClass => Int32
  | _, adminCommand => String
  | _, catchPanics => Bool
  | _, level => String
  | _, format => String
  | _, timerIntervalMs => UInt64

/-- The name of a field within its section. -/
def name : {part : Section} → Field part → String
  | _, defaultPriority => "default_priority"
  | _, adminClass => "admin_class"
  | _, adminCommand => "admin_command"
  | _, catchPanics => "catch_panics"
  | _, level => "level"
  | _, format => "format"
  | _, timerIntervalMs => "timer_interval_ms"

/-- The value of a field in its section. -/
def of : {part : Section} → (field : Field part) → part.Content → field.Value
  | _, defaultPriority => DispatcherConfig.defaultPriority
  | _, adminClass => DispatcherConfig.adminClass
  | _, adminCommand => DispatcherConfig.adminCommand
  | _, catchPanics => DispatcherConfig.catchPanics
  | _, level => LoggingConfig.level
  | _, format => LoggingConfig.format
  | _, timerIntervalMs => ConsoleConfig.timerIntervalMs

theorem name_inj {field other : Field part} :
    field.name = other.name ↔ field = other := by
  cases field <;> cases other <;> decide

/-- The name of a field with the name of its section. -/
def key (field : Field part) : String × String :=
  (part.name, field.name)

/-- A field is known by its key. -/
theorem key_inj
    {other : Section}
    {field : Field part}
    {field' : Field other}
    (h : field.key = field'.key) :
    (⟨part, field⟩ : Sigma Field) = ⟨other, field'⟩ := by
  obtain ⟨hpart, hname⟩ := Prod.mk.inj h
  obtain rfl := Section.name_inj.mp hpart
  rw [name_inj.mp hname]

end Field

/-- What a configuration has in a section. -/
def content (config : Config) : (part : Section) → part.Content
  | .dispatcher => config.dispatcher
  | .logging => config.logging
  | .console => config.console

/-- The value of a field in a configuration. -/
def get (config : Config) (field : Field part) : field.Value :=
  field.of (config.content part)

/-- The value of a field in the default configuration. -/
def Field.default (field : Field part) : field.Value :=
  ({} : Config).get field

/-- The value that a field falls back to where it alone is not set. -/
def Field.fallback : {part : Section} → (field : Field part) → field.Value
  | _, defaultPriority => Fallback.priority
  | _, adminClass => Fallback.adminClass
  | _, adminCommand => Fallback.adminCommand
  | _, catchPanics => Fallback.flag
  | _, level => Fallback.level
  | _, format => Fallback.format
  | _, timerIntervalMs => Fallback.timerInterval

/-- **A field falls back to what it is where nothing is set.** -/
theorem Field.fallback_eq_default (field : Field part) :
    field.fallback = field.default := by
  cases field <;> rfl

/-- The configuration with given values. -/
def ofValues (values : {part : Section} → (field : Field part) → field.Value) : Config where
  dispatcher :=
    { defaultPriority := values .defaultPriority
      adminClass := values .adminClass
      adminCommand := values .adminCommand
      catchPanics := values .catchPanics }
  logging :=
    { level := values .level
      format := values .format }
  console :=
    { timerIntervalMs := values .timerIntervalMs }

@[simp] theorem get_ofValues
    (values : {part : Section} → (field : Field part) → field.Value)
    (field : Field part) :
    (ofValues values).get field = values field := by
  cases field <;> rfl

/-- Sections that have the same value in every field are equal. -/
theorem content_eq
    {a b : Config}
    (h : ∀ field : Field part, a.get field = b.get field) :
    a.content part = b.content part := by
  obtain ⟨⟨priority, cls, command, catches⟩, ⟨level, format⟩, ⟨interval⟩⟩ := a
  obtain ⟨⟨priority', cls', command', catches'⟩, ⟨level', format'⟩, ⟨interval'⟩⟩ := b
  cases part with
  | dispatcher =>
      obtain rfl : priority = priority' := h .defaultPriority
      obtain rfl : cls = cls' := h .adminClass
      obtain rfl : command = command' := h .adminCommand
      obtain rfl : catches = catches' := h .catchPanics
      rfl
  | logging =>
      obtain rfl : level = level' := h .level
      obtain rfl : format = format' := h .format
      rfl
  | console =>
      obtain rfl : interval = interval' := h .timerIntervalMs
      rfl

section Collecting

/-- A section is read if each of its fields is. -/
def Section.collect :
    (part : Section) →
    ((field : Field part) → Option field.Value) →
    Option part.Content
  | dispatcher, read => do
      let defaultPriority ← read .defaultPriority
      let adminClass ← read .adminClass
      let adminCommand ← read .adminCommand
      let catchPanics ← read .catchPanics
      pure { defaultPriority, adminClass, adminCommand, catchPanics }
  | logging, read => do
      let level ← read .level
      let format ← read .format
      pure { level, format }
  | console, read => do
      let timerIntervalMs ← read .timerIntervalMs
      pure { timerIntervalMs }

/-- What is read of a section is what is read of its fields. -/
theorem Section.collect_eq_some_iff
    {read : (field : Field part) → Option field.Value}
    {content : part.Content} :
    part.collect read = some content ↔
      ∀ field : Field part, read field = some (field.of content) := by
  constructor
  · intro h field
    cases part with
    | dispatcher =>
        obtain ⟨_, hpriority, h⟩ := Option.bind_eq_some_iff.mp h
        obtain ⟨_, hclass, h⟩ := Option.bind_eq_some_iff.mp h
        obtain ⟨_, hcommand, h⟩ := Option.bind_eq_some_iff.mp h
        obtain ⟨_, hcatches, h⟩ := Option.bind_eq_some_iff.mp h
        obtain rfl := Option.some.inj h
        cases field with
        | defaultPriority => exact hpriority
        | adminClass => exact hclass
        | adminCommand => exact hcommand
        | catchPanics => exact hcatches
    | logging =>
        obtain ⟨_, hlevel, h⟩ := Option.bind_eq_some_iff.mp h
        obtain ⟨_, hformat, h⟩ := Option.bind_eq_some_iff.mp h
        obtain rfl := Option.some.inj h
        cases field with
        | level => exact hlevel
        | format => exact hformat
    | console =>
        obtain ⟨_, hinterval, h⟩ := Option.bind_eq_some_iff.mp h
        obtain rfl := Option.some.inj h
        cases field with
        | timerIntervalMs => exact hinterval
  · intro h
    cases part with
    | dispatcher =>
        simp only [collect, h .defaultPriority, h .adminClass, h .adminCommand,
          h .catchPanics]
        rfl
    | logging =>
        simp only [collect, h .level, h .format]
        rfl
    | console =>
        simp only [collect, h .timerIntervalMs]
        rfl

/-- A configuration is read if each of its sections is. -/
def collect (read : (part : Section) → Option part.Content) : Option Config := do
  let dispatcher ← read .dispatcher
  let logging ← read .logging
  let console ← read .console
  pure { dispatcher, logging, console }

/-- What is read of a configuration is what is read of its sections. -/
theorem collect_eq_some_iff
    {read : (part : Section) → Option part.Content}
    {config : Config} :
    collect read = some config ↔ ∀ part : Section, read part = some (config.content part) := by
  constructor
  · intro h part
    obtain ⟨_, hdispatcher, h⟩ := Option.bind_eq_some_iff.mp h
    obtain ⟨_, hlogging, h⟩ := Option.bind_eq_some_iff.mp h
    obtain ⟨_, hconsole, h⟩ := Option.bind_eq_some_iff.mp h
    obtain rfl := Option.some.inj h
    cases part with
    | dispatcher => exact hdispatcher
    | logging => exact hlogging
    | console => exact hconsole
  · intro h
    simp only [collect, h .dispatcher, h .logging, h .console]
    rfl

end Collecting
end Config
end ScriptHub
