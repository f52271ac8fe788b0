import ScriptHub.Host.Invocation
import ScriptHub.Host.Timer

/-!
# The input of the console host as it comes

The input arrives in pieces, and between its bytes the timer ticks.  The ticks that
are due when a piece arrives are raised before the piece is read.
-/

namespace ScriptHub
namespace Host

/--
What comes to a session from outside: a tick of the timer, or a byte of the input.
-/
inductive Stimulus
  | tick
  | byte (value : UInt8)
  deriving DecidableEq

/-- The byte that comes, if one does. -/
def Stimulus.byte? : Stimulus → Option UInt8
  | tick => none
  | byte value => some value

namespace Session

/-- Takes what comes.  The interval of the timer is told to its ticks. -/
def attend
    (settings : Settings)
    (interval : UInt64)
    (session : Session) :
    Stimulus → Session × List Output
  | .tick => (session.tick settings interval, [])
  | .byte value => session.feed settings value

/-- Takes what comes, in order. -/
def attendAll
    (settings : Settings)
    (interval : UInt64)
    (session : Session) :
    List Stimulus → Session × List Output
  | [] => (session, [])
  | stimulus :: rest =>
      let (next, outputs) := session.attend settings interval stimulus
      let (last, more) := next.attendAll settings interval rest
      (last, outputs ++ more)

end Session

/--
A piece of the input that arrives, with the time in milliseconds since the start of the
timer.
-/
structure Arrival where
  elapsed : Nat
  bytes : List UInt8

/-- What comes with a piece: the ticks that are due and were not raised, and its bytes. -/
def Arrival.stimuli
    (interval : UInt64)
    (ticks : Nat)
    (arrival : Arrival) :
    List Stimulus :=
  List.replicate (ticksUntil interval.toNat arrival.elapsed - ticks) .tick ++
    arrival.bytes.map .byte

/-- What comes with pieces, given how many ticks were raised. -/
def stimuliOf (interval : UInt64) : (ticks : Nat) → List Arrival → List Stimulus
  | _, [] => []
  | ticks, arrival :: rest =>
      arrival.stimuli interval ticks ++
        stimuliOf interval (ticksUntil interval.toNat arrival.elapsed) rest

/-- A whole session to which ticks and bytes come: its exit code and what it prints. -/
def runAmid
    (config : Config)
    (blockWords : List String)
    (stimuli : List Stimulus) :
    ExitCode × List Output :=
  let settings := Settings.ofConfig config.dispatcher
  let (session, outputs) :=
    (Session.start settings blockWords).attendAll settings
      config.console.timerIntervalMs stimuli
  let (code, more) := session.finish settings
  (code, outputs ++ more)

/-- A whole session whose input arrives in pieces. -/
def runTimed
    (config : Config)
    (blockWords : List String)
    (arrivals : List Arrival) :
    ExitCode × List Output :=
  runAmid config blockWords
    (stimuliOf config.console.timerIntervalMs 0 arrivals)

end Host
end ScriptHub
