import ScriptHub.Dispatcher.Basic
import ScriptHub.Event.Basic
import ScriptHub.Journal
import ScriptHub.Script.Failure
import ScriptHub.Verdict

/-!
# User code as data

The host, the handlers and the cleanups act on a dispatcher by calling its
operations.  A piece of such code is a tree: it makes a call and goes on as the
answer says, looks at or changes a store of its own, writes to the journal, and
in the end returns, fails or panics.  What a call does is not said here, so that
one piece of code can be run by different dispatchers and compared.

Procedures, stores and notes are of arbitrary types P, W and N.
-/

namespace ScriptHub

/--
The report of one dispatch: the verdict for the host, the registrations whose handlers
were called and those whose handlers failed, in order, and the one whose handler blocked
the event.
-/
structure DispatchResult where
  verdict : Verdict := .allow
  invoked : List ScriptId := []
  failures : List (ScriptId × HandlerError) := []
  blockedBy : Option ScriptId := none
  deriving DecidableEq

/--
The operations that a dispatcher offers.

Registrations are made, removed, toggled and shown, one by one or all at once; counters
and chains are shown; an event is passed along its chain, or raised as the hub does; and
a hub command is handed to the administrative surface.
-/
inductive Call (P : Type)
  | register (spec : Spec P)
  | unregister (script : ScriptId)
  | enable (script : ScriptId)
  | disable (script : ScriptId)
  | info (script : ScriptId)
  | list
  | ids
  | count
  | stats
  | calls (kind : EventKind)
  | bindingCounts
  | chain (kind : EventKind)
  | dispatch (event : Event)
  | raise (event : Event)
  | administer
      (nick command : String)
      (userClass : Int32)
      (trigger : String)
  | shutdown
  deriving DecidableEq

/-- The type of the answer to a call. -/
@[reducible] def Call.Answer {P : Type} : Call P → Type
  | .register _ => ScriptId
  | .unregister _ => Bool
  | .enable _ => Bool
  | .disable _ => Bool
  | .info _ => Option ScriptInfo
  | .list => List ScriptInfo
  | .ids => List ScriptId
  | .count => Nat
  | .stats => Stats
  | .calls _ => CallCount
  | .bindingCounts => List (EventKind × Nat)
  | .chain _ => List (Binding P)
  | .dispatch _ => DispatchResult
  | .raise _ => Verdict
  | .administer .. => Verdict
  | .shutdown => Nat

/--
A piece of user code that ends with a value of type R, or fails.  Before that it calls
the dispatcher and goes on with the answer, looks at the store or replaces it, writes
log records, and leaves notes in the trace.
-/
inductive Code (P W N R : Type)
  | finish (ending : Ending R)
  | call (call : Call P) (next : call.Answer → Code P W N R)
  | read (next : W → Code P W N R)
  | write (store : W) (next : Code P W N R)
  | log (entry : LogEntry) (next : Code P W N R)
  | note (what : N) (next : Code P W N R)

namespace Code

variable {P W N R S : Type}

/-- Ends with a value. -/
def done (value : R) : Code P W N R :=
  finish (.returned value)

/-- Makes one call and ends with the answer. -/
def ask (c : Call P) : Code P W N c.Answer :=
  call c done

/-- Goes on with the value that a piece of code returns. -/
def bind : Code P W N R → (R → Code P W N S) → Code P W N S
  | finish (.returned value), next => next value
  | finish (.failed reason), _ => finish (.failed reason)
  | finish (.panicked payload), _ => finish (.panicked payload)
  | call c rest, next => call c fun answer => (rest answer).bind next
  | read rest, next => read fun store => (rest store).bind next
  | write store rest, next => write store (rest.bind next)
  | log entry rest, next => log entry (rest.bind next)
  | note what rest, next => note what (rest.bind next)

instance : Monad (Code P W N) where
  pure := done
  bind := bind

end Code

/--
What the procedures do: the code that a handler runs for an event, and the code
that a cleanup runs.  The level is the number of procedures that are running
around it.
-/
structure Behaviour (P W N : Type) where
  onEvent : (level : Nat) → P → Event → Code P W N Verdict
  onRemoval : (level : Nat) → P → Code P W N Unit

end ScriptHub
