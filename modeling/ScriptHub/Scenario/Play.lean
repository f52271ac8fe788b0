import ScriptHub.Scenario.Behaviour

/-!
# Playing a scenario

The steps of a scenario are carried out one after the other.  Every step is reported
with its answer, with what happened during it and with the state it left.  A panic
that leaves a step ends that step only.
-/

namespace ScriptHub
namespace Scenario

/--
What is reported of a step: how it ended, what happened in order, and the state that it
left.
-/
structure StepReport where
  flow : Flow (Except String Reply)
  moments : List (Moment Procedure Note)
  state : Dispatcher Procedure

/-- Room for the acts of a step and everything nested in them. -/
def room : Nat := nestingLimit + 1

/-- Carries out one step. -/
def playStep
    (setup : Setup Procedure Store Note)
    (deed : Deed)
    (m : Machine Procedure Store Note) :
    StepReport × Machine Procedure Store Note :=
  let (flow, after) :=
    setup.runHost room (deed.code setup.settings) { m with trace := [] }
  ({ flow := flow, moments := after.history, state := after.state }, after)

/-- Carries out the steps of a scenario from a machine. -/
def playFrom
    (setup : Setup Procedure Store Note) :
    List Deed → Machine Procedure Store Note → List StepReport
  | [], _ => []
  | deed :: rest, m =>
      let (report, after) := playStep setup deed m
      report :: playFrom setup rest after

/-- Plays a scenario on a new dispatcher. -/
def play
    (settings : Settings)
    (notifier : Notifier)
    (steps : List Deed) :
    List StepReport :=
  playFrom
    { settings := settings
      notifier := notifier
      behaviour := behaviour settings }
    steps
    (Machine.fresh Store.empty)

end Scenario
end ScriptHub
