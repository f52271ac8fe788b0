import ScriptHub.Run.Administration
import ScriptHub.Run.Dispatch

/-!
# Running user code

A call of user code is performed by the operation it names; the operations run
the handlers and cleanups of other scripts, whose code makes calls in turn.  The
depth of this nesting is bounded by the room that a run is given.  A run that
uses up its room is told apart from every other way to end.
-/

namespace ScriptHub
namespace Run

variable {P W N R : Type}

/--
Raises an event as the hub does.  A hub command that no handler blocks is then
offered to the administrative surface.
-/
def raise
    (setup : Setup P W N)
    (scripts : Scripts P W N)
    (event : Event) :
    Run P W N Verdict := do
  let result ← dispatch setup.settings scripts event
  match event with
  | .hubCommand nick command userClass _ trigger =>
      if result.verdict.isBlock then
        pure result.verdict
      else
        administer setup.settings setup.notifier nick command userClass trigger
  | _ => pure result.verdict

/-- Performs a call. -/
def perform
    (setup : Setup P W N)
    (scripts : Scripts P W N) :
    (call : Call P) → Run P W N call.Answer
  | .register spec => register setup.settings spec
  | .unregister script => unregister setup.settings scripts script
  | .enable script => setEnabled script true
  | .disable script => setEnabled script false
  | .info script => do pure ((← state).info? script)
  | .list => do pure (← state).list
  | .ids => do pure (← state).ids
  | .count => do pure (← state).count
  | .stats => do pure (← state).stats
  | .calls kind => do pure ((← state).tally.calls.get kind)
  | .bindingCounts => do pure (← state).table.bindingCounts
  | .chain kind => do pure ((← state).table.get kind)
  | .dispatch event => dispatch setup.settings scripts event
  | .raise event => raise setup scripts event
  | .administer nick command userClass trigger =>
      administer setup.settings setup.notifier nick command userClass trigger
  | .shutdown => shutdown setup.settings scripts

/-- Performs a call of user code and records how it ended. -/
def answer
    (setup : Setup P W N)
    (scripts : Scripts P W N)
    (call : Call P) :
    Run P W N call.Answer := do
  match ← (perform setup scripts call).observe with
  | .returned value => do
      emit (.answered call value)
      pure value
  | .unwinding payload => do
      emit (.unwound call payload)
      unwind payload
  | .exhausted => exhaust

end Run

/--
Runs a piece of user code, given how its calls are answered.  The answer tells a
returned value from a reported failure.
-/
def Code.run
    {P W N R : Type}
    (answer : (call : Call P) → Run P W N call.Answer) :
    Code P W N R → Run P W N (Except String R)
  | .finish (.returned value) => pure (.ok value)
  | .finish (.failed reason) => pure (.error reason)
  | .finish (.panicked payload) => Run.unwind payload
  | .call request next => do
      let value ← answer request
      (next value).run answer
  | .read next => do
      let store ← Run.readStore
      (next store).run answer
  | .write store next => do
      Run.writeStore store
      next.run answer
  | .log entry next => do
      Run.log entry
      next.run answer
  | .note what next => do
      Run.emit (.note what)
      next.run answer

namespace Setup

variable {P W N R : Type}

/--
How procedures are run at a level, with room for so many further levels.
-/
def scripts (setup : Setup P W N) : (room level : Nat) → Scripts P W N
  | 0, _ =>
      { handle := fun _ _ => Run.exhaust
        clean := fun _ => Run.exhaust }
  | room + 1, level =>
      let inner := setup.scripts room (level + 1)
      { handle := fun procedure event =>
          (setup.behaviour.onEvent level procedure event).run
            (Run.answer setup inner)
        clean := fun procedure =>
          (setup.behaviour.onRemoval level procedure).run
            (Run.answer setup inner) }

/-- Runs code of the host, with room for so many levels of procedures. -/
def runHost
    (setup : Setup P W N)
    (room : Nat)
    (code : Code P W N R) :
    Run P W N (Except String R) :=
  code.run (Run.answer setup (setup.scripts room 0))

/--
Runs pieces of host code one after the other on a machine.  A panic that leaves
one of them ends that piece only.
-/
def runAll
    (setup : Setup P W N)
    (room : Nat) :
    List (Code P W N R) →
    Machine P W N →
    List (Flow (Except String R)) × Machine P W N
  | [], m => ([], m)
  | code :: rest, m =>
      let (flow, after) := setup.runHost room code m
      let (flows, last) := runAll setup room rest after
      (flow :: flows, last)

end Setup
end ScriptHub
