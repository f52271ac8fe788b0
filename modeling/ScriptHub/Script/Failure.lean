/-!
# How user code ends

A handler or a cleanup returns a value, reports a failure, or panics.  A panic
carries a payload, whose text is kept when it has one.
-/

namespace ScriptHub

/-- What a panic carries: a text, or something that is none. -/
structure Payload where
  text? : Option String
  deriving DecidableEq

/-- The text shown for a payload. -/
def Payload.text (payload : Payload) : String :=
  payload.text?.getD "non-string panic payload"

/--
A failure of a handler or of a cleanup: the code reported it, or the code panicked and
the panic was caught.
-/
inductive HandlerError
  | failed (reason : String)
  | panicked (reason : String)
  deriving DecidableEq

/-- The wording of a failure. -/
def HandlerError.message : HandlerError → String
  | .failed reason => reason
  | .panicked reason => "handler panicked: " ++ reason

/-- The failure that a caught panic counts as. -/
def HandlerError.ofPanic (payload : Payload) : HandlerError :=
  .panicked payload.text

/-- How a piece of user code ends. -/
inductive Ending (R : Type)
  | returned (value : R)
  | failed (reason : String)
  | panicked (payload : Payload)
  deriving DecidableEq

end ScriptHub
