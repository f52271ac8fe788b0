import ScriptHub.Dispatcher.HookTable
import ScriptHub.Dispatcher.Tally

/-!
# The state of a dispatcher

A dispatcher knows its live registrations, the hook table and the counters.
Registrations get the ids 1, 2, 3 and so on, and no id is given twice.  The
operations here change the state and nothing else: they run no user code and
write no records.

What is shown of a registration leaves out the time of day at which it was made: it is
read off a clock, and nothing that the hub does depends on it.
-/

namespace ScriptHub

/--
A live registration: what the script supplied, the priority in force, which is the one
supplied or else the default, and whether its handlers run at present.
-/
structure Registration (P : Type) where
  id : ScriptId
  spec : Spec P
  priority : Int32
  enabled : Bool
  deriving DecidableEq

/-- What is shown of a registration. -/
structure ScriptInfo where
  id : ScriptId
  name : String
  priority : Int32
  enabled : Bool
  hooks : List EventKind
  deriving DecidableEq

/-- What is shown of a registration. -/
def Registration.info
    {P : Type}
    (registration : Registration P) :
    ScriptInfo :=
  { id := registration.id
    name := registration.spec.name
    priority := registration.priority
    enabled := registration.enabled
    hooks := registration.spec.kinds }

/--
The state of a dispatcher: the id that the next registration gets, the live
registrations in ascending order of their ids, the chains of handlers, and the counters.
-/
structure Dispatcher (P : Type) where
  nextId : ScriptId
  live : List (Registration P)
  table : HookTable P
  tally : Tally
  deriving DecidableEq

namespace Dispatcher

variable {P : Type}

/-- A dispatcher without registrations. -/
def empty : Dispatcher P :=
  { nextId := 1
    live := []
    table := HookTable.empty
    tally := Tally.zero }

/-- The live registration with an id. -/
def find?
    (state : Dispatcher P)
    (script : ScriptId) :
    Option (Registration P) :=
  state.live.find? fun registration => registration.id == script

/-- The ids of the live registrations, ascending. -/
def ids (state : Dispatcher P) : List ScriptId :=
  state.live.map Registration.id

/-- The number of live registrations. -/
def count (state : Dispatcher P) : Nat :=
  state.live.length

/-- What is shown of one registration. -/
def info?
    (state : Dispatcher P)
    (script : ScriptId) :
    Option ScriptInfo :=
  (state.find? script).map Registration.info

/-- What is shown of every registration, in ascending order of ids. -/
def list (state : Dispatcher P) : List ScriptInfo :=
  state.live.map Registration.info

/-- The counters together with the chain lengths. -/
def stats (state : Dispatcher P) : Stats :=
  state.tally.snapshot state.table.bindingCounts

/-- Enters a registration under the next id. -/
def enter
    (state : Dispatcher P)
    (spec : Spec P)
    (priority : Int32) :
    Dispatcher P :=
  { state with
    nextId := state.nextId + 1
    live := state.live ++
      [{ id := state.nextId, spec := spec, priority := priority
         enabled := spec.autoEnable }] }

/-- Binds the declared handlers of a registration. -/
def bind
    (state : Dispatcher P)
    (script : ScriptId)
    (priority : Int32)
    (spec : Spec P) :
    Dispatcher P :=
  { state with table := state.table.bind script priority spec.bindings }

/-- Strikes a registration from the live ones. -/
def strike
    (state : Dispatcher P)
    (script : ScriptId) :
    Dispatcher P :=
  { state with
    live := state.live.filter fun registration => registration.id != script }

/-- Removes the bindings of a registration. -/
def unbind
    (state : Dispatcher P)
    (script : ScriptId) :
    Dispatcher P :=
  { state with table := state.table.unbind script }

/-- Changes the counters. -/
def retally
    (state : Dispatcher P)
    (f : Tally → Tally) :
    Dispatcher P :=
  { state with tally := f state.tally }

/-- Sets the flag of a registration. -/
def setFlag
    (state : Dispatcher P)
    (script : ScriptId)
    (enabled : Bool) :
    Dispatcher P :=
  { state with
    live := state.live.map fun registration =>
      if registration.id == script then
        { registration with enabled := enabled }
      else
        registration }

end Dispatcher

/-- A one-line description of a registry with so many registrations. -/
def describeRegistry
    (count : Nat)
    (defaultPriority : Int32) :
    String :=
  "ScriptRegistry \x7b count: " ++ toString count ++
    ", default_priority: " ++ toString defaultPriority ++ ", .. \x7d"

end ScriptHub
