import ScriptHub.Run.Basic

/-!
# Passing an event along its chain

The chain is read once, at the start.  Each binding is looked up again when its
turn comes: it is passed over unless its registration is live and enabled at
that moment.  A handler that blocks ends the chain.  A handler that fails is
counted and the chain goes on, so failures alone block nothing.
-/

namespace ScriptHub

namespace DispatchResult

/-- Puts a handler that let the event through in front of a report. -/
def afterAllow
    (result : DispatchResult)
    (script : ScriptId) :
    DispatchResult :=
  { result with invoked := script :: result.invoked }

/-- Puts a handler that failed in front of a report. -/
def afterFailure
    (result : DispatchResult)
    (script : ScriptId)
    (reason : HandlerError) :
    DispatchResult :=
  { result with
    invoked := script :: result.invoked
    failures := (script, reason) :: result.failures }

/-- The report that ends with a handler that blocked. -/
def blocked (script : ScriptId) : DispatchResult :=
  { verdict := .block
    invoked := [script]
    failures := []
    blockedBy := some script }

end DispatchResult

namespace Run

variable {P W N : Type}

/-- Counts a handler call that failed. -/
def failed
    (script : ScriptId)
    (kind : EventKind)
    (reason : HandlerError) :
    Run P W N (Except HandlerError Verdict) := do
  modifyState fun s => s.retally fun tally => tally.failed kind
  emit (.handlerEnded script kind (.error reason))
  pure (.error reason)

/--
Takes account of how a handler ended.

A failure is counted and answered.  A panic counts as a failure when panics of
handlers are caught, and is passed on otherwise.
-/
def settleHandler
    (settings : Settings)
    (script : ScriptId)
    (kind : EventKind) :
    Flow (Except String Verdict) →
    Run P W N (Except HandlerError Verdict)
  | .returned (.ok verdict) => do
      emit (.handlerEnded script kind (.ok verdict))
      pure (.ok verdict)
  | .returned (.error reason) => failed script kind (.failed reason)
  | .unwinding payload =>
      if settings.catchHandlerPanics then
        failed script kind (.ofPanic payload)
      else do
        emit (.handlerUnwound script kind payload)
        unwind payload
  | .exhausted => exhaust

/-- Calls the handler of a binding. -/
def invoke
    (settings : Settings)
    (scripts : Scripts P W N)
    (event : Event)
    (binding : Binding P) :
    Run P W N (Except HandlerError Verdict) := do
  emit (.handlerBegan binding.script binding.handler event)
  let flow ← (scripts.handle binding.handler event).observe
  settleHandler settings binding.script event.kind flow

/-- Passes an event along the bindings of a chain. -/
def walk
    (settings : Settings)
    (scripts : Scripts P W N)
    (event : Event) :
    List (Binding P) → Run P W N DispatchResult
  | [] => pure {}
  | binding :: rest => do
      match (← state).find? binding.script with
      | none => walk settings scripts event rest
      | some registration =>
          if registration.enabled then
            let name := registration.spec.name
            match ← invoke settings scripts event binding with
            | .ok .allow => do
                let result ← walk settings scripts event rest
                pure (result.afterAllow binding.script)
            | .ok .block => do
                log (.handlerBlocked event.kind binding.script name)
                pure (.blocked binding.script)
            | .error reason => do
                log (.handlerFailed event.kind binding.script name reason)
                let result ← walk settings scripts event rest
                pure (result.afterFailure binding.script reason)
          else
            walk settings scripts event rest

/-- Counts a dispatch and passes the event along the chain of its kind. -/
def dispatch
    (settings : Settings)
    (scripts : Scripts P W N)
    (event : Event) :
    Run P W N DispatchResult := do
  modifyState fun s => s.retally fun tally => tally.attempted event.kind
  emit (.dispatchBegan event)
  match (← state).table.get event.kind with
  | [] => pure {}
  | chain => do
      log (.dispatching event.kind chain.length)
      walk settings scripts event chain

end Run
end ScriptHub
