import ScriptHub.Run.Basic

/-!
# Registering, removing and toggling scripts

A registration and its bindings appear and disappear together.  A cleanup runs
when its registration is already gone, so whatever it does, the registration is
removed once and the cleanup is run once.
-/

namespace ScriptHub
namespace Run

variable {P W N : Type}

/-- Makes a registration and binds its handlers; no handler runs here. -/
def register
    (settings : Settings)
    (spec : Spec P) :
    Run P W N ScriptId := do
  let script := (← state).nextId
  let priority := spec.priority.getD settings.defaultPriority
  modifyState fun s => (s.enter spec priority).bind script priority spec
  log (.bindingsInserted script spec.kinds.length)
  modifyState fun s => s.retally fun tally => tally.registered spec.autoEnable
  log (.scriptRegistered script spec.name priority spec.kinds.length
    spec.autoEnable)
  pure script

/-- Reports a cleanup that failed. -/
def cleanupFailed
    (registration : Registration P)
    (reason : HandlerError) :
    Run P W N Unit := do
  emit (.cleanupEnded registration.id (.error reason))
  log (.cleanupFailed registration.id registration.spec.name reason)

/--
Takes account of how the cleanup of a removed registration ended.

A failure is logged.  A panic counts as a failure when panics of cleanups are
caught, and is passed on otherwise.
-/
def settleCleanup
    (settings : Settings)
    (registration : Registration P) :
    Flow (Except String Unit) → Run P W N Unit
  | .returned (.ok ()) => emit (.cleanupEnded registration.id (.ok ()))
  | .returned (.error reason) => cleanupFailed registration (.failed reason)
  | .unwinding payload =>
      if settings.catchCleanupPanics then
        cleanupFailed registration (.ofPanic payload)
      else do
        emit (.cleanupUnwound registration.id payload)
        unwind payload
  | .exhausted => exhaust

/-- Runs a cleanup that was begun. -/
def finishCleanup
    (settings : Settings)
    (scripts : Scripts P W N)
    (registration : Registration P)
    (cleanup : P) :
    Run P W N Unit := do
  let flow ← (scripts.clean cleanup).observe
  settleCleanup settings registration flow

/-- Runs the cleanup of a removed registration, if it has one. -/
def cleanUp
    (settings : Settings)
    (scripts : Scripts P W N)
    (registration : Registration P) :
    Run P W N Unit :=
  match registration.spec.cleanup with
  | none => pure ()
  | some cleanup => do
      emit (.cleanupBegan registration.id cleanup)
      finishCleanup settings scripts registration cleanup

/-- Takes a live registration and its bindings out of the dispatcher. -/
def remove (registration : Registration P) : Run P W N Unit := do
  let script := registration.id
  let removed := (← state).table.countOf script
  modifyState fun s => (s.strike script).unbind script
  log (.bindingsRemoved script removed)
  modifyState fun s =>
    s.retally fun tally => tally.unregistered registration.enabled

/--
Removes a registration with its bindings and then runs its cleanup.

The answer is false when there is no such registration.  Whether the cleanup
succeeds makes no difference to the answer.
-/
def unregister
    (settings : Settings)
    (scripts : Scripts P W N)
    (script : ScriptId) :
    Run P W N Bool := do
  match (← state).find? script with
  | none => do
      log (.unregisterUnknown script)
      pure false
  | some registration => do
      remove registration
      cleanUp settings scripts registration
      log (.scriptUnregistered script registration.spec.name)
      pure true

/--
Sets the flag of a registration, and moves the counters if the flag changes.
The answer is false when there is no such registration.
-/
def setEnabled
    (script : ScriptId)
    (enabled : Bool) :
    Run P W N Bool := do
  match (← state).find? script with
  | none => pure false
  | some registration => do
      if registration.enabled = enabled then
        pure true
      else do
        modifyState fun s =>
          (s.setFlag script enabled).retally fun tally => tally.toggled enabled
        log (.stateChanged script enabled)
        pure true

/-- Removes the listed registrations, and counts those that were still there. -/
def unregisterAll
    (settings : Settings)
    (scripts : Scripts P W N) :
    List ScriptId → Run P W N Nat
  | [] => pure 0
  | script :: rest => do
      let removed ← unregister settings scripts script
      let others ← unregisterAll settings scripts rest
      pure (others + if removed then 1 else 0)

/--
Removes every registration that is live at the start, in ascending order, and
answers how many this call removed.
-/
def shutdown
    (settings : Settings)
    (scripts : Scripts P W N) :
    Run P W N Nat := do
  let ids := (← state).ids
  log (.shuttingDown ids.length)
  let removed ← unregisterAll settings scripts ids
  log (.shutDown removed)
  pure removed

end Run
end ScriptHub
