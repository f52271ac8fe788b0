import ScriptHub.Event.PerKind

/-!
# Counters of registrations and of calls

The counters are unsigned integers of 64 bits and wrap.  They are moved by
increments and decrements as registrations come, go and change state, and as
events are dispatched; they are never recomputed.
-/

namespace ScriptHub

/--
The calls made for one kind of event: the dispatches of the kind, those without handlers
included, and the handler calls under it that failed.
-/
structure CallCount where
  attempted : UInt64
  failed : UInt64
  deriving DecidableEq

/-- No call yet. -/
def CallCount.zero : CallCount := ⟨0, 0⟩

/--
The counters: the registrations ever made, the live ones that are enabled and those that
are disabled, and the calls per kind.
-/
structure Tally where
  total : UInt64
  active : UInt64
  disabled : UInt64
  calls : PerKind CallCount
  deriving DecidableEq

namespace Tally

/-- All counters at zero. -/
def zero : Tally :=
  { total := 0, active := 0, disabled := 0
    calls := PerKind.replicate CallCount.zero }

/-- Counts a registration that was made. -/
def registered
    (tally : Tally)
    (enabled : Bool) :
    Tally :=
  if enabled then
    { tally with total := tally.total + 1, active := tally.active + 1 }
  else
    { tally with total := tally.total + 1, disabled := tally.disabled + 1 }

/-- Counts a registration that was removed while in the given state. -/
def unregistered
    (tally : Tally)
    (enabled : Bool) :
    Tally :=
  if enabled then
    { tally with active := tally.active - 1 }
  else
    { tally with disabled := tally.disabled - 1 }

/-- Counts a live registration that moved into the given state. -/
def toggled
    (tally : Tally)
    (enabled : Bool) :
    Tally :=
  if enabled then
    { tally with
      active := tally.active + 1
      disabled := tally.disabled - 1 }
  else
    { tally with
      active := tally.active - 1
      disabled := tally.disabled + 1 }

/-- Counts a dispatch. -/
def attempted
    (tally : Tally)
    (kind : EventKind) :
    Tally :=
  { tally with
    calls := tally.calls.modify kind fun count =>
      { count with attempted := count.attempted + 1 } }

/-- Counts a handler call that failed. -/
def failed
    (tally : Tally)
    (kind : EventKind) :
    Tally :=
  { tally with
    calls := tally.calls.modify kind fun count =>
      { count with failed := count.failed + 1 } }

end Tally

/--
The counters at one moment, with the calls of the kinds dispatched at least once and the
chain lengths of the kinds that have bindings.
-/
structure Stats where
  total : UInt64
  active : UInt64
  disabled : UInt64
  calls : List (EventKind × CallCount)
  bindings : List (EventKind × Nat)
  deriving DecidableEq

/-- Reads every counter; kinds never dispatched are left out. -/
def Tally.snapshot
    (tally : Tally)
    (bindings : List (EventKind × Nat)) :
    Stats :=
  { total := tally.total
    active := tally.active
    disabled := tally.disabled
    calls := tally.calls.toList.filter fun entry => 0 < entry.2.attempted
    bindings := bindings }

/-- The calls of a kind, zero if it was never dispatched. -/
def Stats.callsFor
    (stats : Stats)
    (kind : EventKind) :
    CallCount :=
  ((stats.calls.find? fun entry => entry.1 == kind).map Prod.snd).getD
    CallCount.zero

end ScriptHub
