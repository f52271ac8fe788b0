import ScriptHub.Script.Code

/-!
# Runs of a dispatcher

A machine holds the state of a dispatcher, the store of the user code and the
trace of everything that happened, latest first.  Every entry of the trace
carries the state in which it was made, so that a trace can be asked what the
state was at each of its points.

A run changes the machine and ends in one of three ways: it returns a value, a
panic is on its way up, or the room for nested user code is used up.  In all
three the machine keeps what was done before.
-/

namespace ScriptHub

/--
What a trace records.

A dispatch is recorded as it begins, a handler or a cleanup as it begins and as it ends
or is left by a panic that is not caught, and a call of user code as it is answered or
is left by a panic.  A notice is recorded with whether it was delivered.
-/
inductive Record (P N : Type)
  | dispatchBegan (event : Event)
  | handlerBegan (script : ScriptId) (handler : P) (event : Event)
  | handlerEnded
      (script : ScriptId)
      (kind : EventKind)
      (outcome : Except HandlerError Verdict)
  | handlerUnwound (script : ScriptId) (kind : EventKind) (payload : Payload)
  | cleanupBegan (script : ScriptId) (cleanup : P)
  | cleanupEnded (script : ScriptId) (outcome : Except HandlerError Unit)
  | cleanupUnwound (script : ScriptId) (payload : Payload)
  | answered (call : Call P) (answer : call.Answer)
  | unwound (call : Call P) (payload : Payload)
  | notice (recipient text : String) (delivered : Bool)
  | log (entry : LogEntry)
  | note (what : N)

/-- An entry of a trace: a record and the state in which it was made. -/
structure Moment (P N : Type) where
  record : Record P N
  state : Dispatcher P

/--
A dispatcher with the store of its user code, the trace of what happened so far, latest
first, and the number of notices that were handed to the notifier.
-/
structure Machine (P W N : Type) where
  state : Dispatcher P
  store : W
  trace : List (Moment P N)
  sent : Nat

namespace Machine

variable {P W N : Type}

/-- A machine on which nothing has happened. -/
def fresh (store : W) : Machine P W N :=
  { state := Dispatcher.empty, store := store, trace := [], sent := 0 }

/-- Adds a record to the trace. -/
def emit
    (m : Machine P W N)
    (record : Record P N) :
    Machine P W N :=
  { m with trace := ⟨record, m.state⟩ :: m.trace }

/-- What happened, in order. -/
def history (m : Machine P W N) : List (Moment P N) :=
  m.trace.reverse

end Machine

/--
How a run ends: it returned a value, a panic is on its way up, or the room for nested
user code is used up.
-/
inductive Flow (α : Type)
  | returned (value : α)
  | unwinding (payload : Payload)
  | exhausted
  deriving DecidableEq

/-- A computation that works on a machine. -/
def Run (P W N α : Type) : Type :=
  Machine P W N → Flow α × Machine P W N

namespace Run

variable {P W N α β : Type}

/-- Returns a value and does nothing. -/
def give (value : α) : Run P W N α :=
  fun m => (.returned value, m)

/-- Goes on with the value that a run returns. -/
def andThen
    (run : Run P W N α)
    (next : α → Run P W N β) :
    Run P W N β :=
  fun m =>
    match run m with
    | (.returned value, after) => next value after
    | (.unwinding payload, after) => (.unwinding payload, after)
    | (.exhausted, after) => (.exhausted, after)

instance : Monad (Run P W N) where
  pure := give
  bind := andThen

/-- Starts a panic. -/
def unwind (payload : Payload) : Run P W N α :=
  fun m => (.unwinding payload, m)

/-- Gives up for want of room. -/
def exhaust : Run P W N α :=
  fun m => (.exhausted, m)

/-- Runs to the end, however it ends, and returns how it ended. -/
def observe (run : Run P W N α) : Run P W N (Flow α) :=
  fun m =>
    let (flow, after) := run m
    (.returned flow, after)

/-- The machine as it stands. -/
def machine : Run P W N (Machine P W N) :=
  fun m => (.returned m, m)

/-- The state of the dispatcher as it stands. -/
def state : Run P W N (Dispatcher P) :=
  fun m => (.returned m.state, m)

/-- Changes the state of the dispatcher. -/
def modifyState (f : Dispatcher P → Dispatcher P) : Run P W N Unit :=
  fun m => (.returned (), { m with state := f m.state })

/-- Adds a record to the trace. -/
def emit (record : Record P N) : Run P W N Unit :=
  fun m => (.returned (), m.emit record)

/-- Writes a log record. -/
def log (entry : LogEntry) : Run P W N Unit :=
  emit (.log entry)

/-- The store of the user code as it stands. -/
def readStore : Run P W N W :=
  fun m => (.returned m.store, m)

/-- Replaces the store of the user code. -/
def writeStore (store : W) : Run P W N Unit :=
  fun m => (.returned (), { m with store := store })

end Run

/-- What a run is given from outside. -/
structure Setup (P W N : Type) where
  settings : Settings
  notifier : Notifier
  behaviour : Behaviour P W N

/--
How procedures are run.  The answer tells a returned value from a reported
failure; a panic leaves the run as a panic.
-/
structure Scripts (P W N : Type) where
  handle : P → Event → Run P W N (Except String Verdict)
  clean : P → Run P W N (Except String Unit)

end ScriptHub
