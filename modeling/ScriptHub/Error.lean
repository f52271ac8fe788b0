/-!
# Errors of the hub as a whole

An error has a kind, a message and possibly a cause that it was made from.  What
handlers and cleanups report never becomes such an error.
-/

namespace ScriptHub

/--
The kinds of error: an input that is not valid, a configuration that does not load, a
value that cannot be written or read, and a stream that fails.
-/
inductive ErrorKind
  | validation
  | configuration
  | serialization
  | io
  deriving DecidableEq

namespace ErrorKind

/-- All kinds. -/
def all : List ErrorKind :=
  [validation, configuration, serialization, io]

/-- The name of a kind. -/
def name : ErrorKind → String
  | validation => "Validation"
  | configuration => "Configuration"
  | serialization => "Serialization"
  | io => "Io"

/-- The name of a kind as error texts show it. -/
def label : ErrorKind → String
  | validation => "VALIDATION"
  | configuration => "CONFIGURATION"
  | serialization => "SERIALIZATION"
  | io => "IO"

/-- The kind with a name. -/
def ofName? (text : String) : Option ErrorKind :=
  all.find? fun kind => kind.name == text

end ErrorKind

/-- An error, with the text of its cause if it was made from one. -/
structure HubError where
  kind : ErrorKind
  message : String
  cause : Option String := none
  deriving DecidableEq

namespace HubError

/-- The text of an error: its kind and its message. -/
def text (err : HubError) : String :=
  err.kind.label ++ ": " ++ err.message

/-- A copy of an error, which does not keep the cause. -/
def copy (err : HubError) : HubError :=
  { err with cause := none }

/-- The error for an input that is not valid. -/
def invalid (message : String) : HubError :=
  { kind := .validation, message := message }

/-- The error made from a failure of a stream. -/
def ofStream (cause : String) : HubError :=
  { kind := .io, message := "I/O error: " ++ cause, cause := some cause }

/-- The error made from a failure to load the configuration. -/
def ofConfiguration (cause : String) : HubError :=
  { kind := .configuration
    message := "Configuration error: " ++ cause
    cause := some cause }

/-- The error made from a failure to write or read JSON. -/
def ofJson (cause : String) : HubError :=
  { kind := .serialization
    message := "JSON serialization error: " ++ cause
    cause := some cause }

/-- A copy has the same text. -/
theorem text_copy (err : HubError) :
    err.copy.text = err.text := rfl

end HubError

end ScriptHub
