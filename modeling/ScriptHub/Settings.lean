/-!
# The settings of a dispatcher and the channel for its notices
-/

namespace ScriptHub

/--
The settings a dispatcher runs with: the priority of a script that supplies none,
whether panics of handlers and of cleanups are caught, the least user class that may
give administrative commands, and the word that marks a hub command as one.
-/
structure Settings where
  defaultPriority : Int32 := 100
  catchHandlerPanics : Bool := true
  catchCleanupPanics : Bool := true
  adminClass : Int32 := 10
  adminWord : String := "dispatcher"
  deriving DecidableEq

/-- The report that a notice could not be delivered. -/
structure NoticeError where
  recipient : String
  reason : String
  deriving DecidableEq

/-- The wording of the report. -/
def NoticeError.message (err : NoticeError) : String :=
  "notification to '" ++ err.recipient ++ "' failed: " ++ err.reason

/--
The channel through which a host delivers notices to its users.

Whether a notice is delivered may depend on the recipient, on the text and on
how many notices were sent before; the channel never calls the dispatcher.
-/
structure Notifier where
  deliver : (sent : Nat) → (recipient text : String) → Except NoticeError Unit

namespace Notifier

/-- The channel that takes every notice. -/
def accepting : Notifier :=
  ⟨fun _ _ _ => .ok ()⟩

/-- The channel that fails, for one reason, for some of the recipients. -/
def failingFor
    (recipients : List String)
    (reason : String) :
    Notifier :=
  ⟨fun _ recipient _ =>
    if recipient ∈ recipients then .error ⟨recipient, reason⟩ else .ok ()⟩

/-- A one-line description, which shows nothing of the host. -/
def describe (_ : Notifier) : String :=
  "Notifier"

end Notifier

end ScriptHub
