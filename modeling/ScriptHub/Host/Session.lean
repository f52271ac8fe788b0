import ScriptHub.Builtin
import ScriptHub.Config.Basic
import ScriptHub.Console.Line
import ScriptHub.Dispatcher.Json
import ScriptHub.Json.Writer
import ScriptHub.Run.Perform

/-!
# Sessions of the console host

A session reads bytes one at a time.  At the end of a line it carries out the
line and prints what follows from it: notices, then the verdict.  A line that is
not understood is complained about and changes nothing.  The session ends at a
line that asks for it, at a line that is not UTF-8, or with the last byte.

What the host does behind the end of a session is left out.  At a line that asks for the
end, or with the last byte, it removes all registrations; that prints nothing, since the
built-in scripts send no notices and what they log goes elsewhere.  Signals that end the
program from outside are left out as well.
-/

namespace ScriptHub
namespace Host

/--
What a session prints: a line for the users of the hub, or one about a malformed input.
-/
inductive Output
  | answer (text : String)
  | complaint (text : String)
  deriving DecidableEq

/--
How a host ends.  It fails if the configuration or the input could not be read, and
complains of its usage if the arguments were refused.
-/
inductive ExitCode
  | success
  | failure
  | usage
  deriving DecidableEq

/-- The number of an exit code. -/
def ExitCode.toNat : ExitCode → Nat
  | success => 0
  | failure => 1
  | usage => 2

/-- The machine of a session: only built-in scripts run on it. -/
abbrev HostMachine : Type :=
  Machine Builtin Unit Empty

/-- The code that a session runs. -/
abbrev HostCode : Type → Type :=
  Code Builtin Unit Empty

/-- What a session is given from outside. -/
def setupOf (settings : Settings) : Setup Builtin Unit Empty :=
  { settings := settings
    notifier := .accepting
    behaviour :=
      { onEvent := fun _ builtin event => builtin.onEvent event
        onRemoval := fun _ builtin => builtin.onRemoval } }

/-- Built-in scripts call nothing, so that one level of them is room enough. -/
def room : Nat := 1

/--
A session between two bytes, with the bytes of the unfinished line, latest first, and
how the session ended, if it has.
-/
structure Session where
  machine : HostMachine
  line : List UInt8 := []
  ended : Option ExitCode := none

/-- A machine with the built-in scripts. -/
def machineWith
    (settings : Settings)
    (blockWords : List String) :
    HostMachine :=
  ((setupOf settings).runHost room (Builtin.install id blockWords)
    (Machine.fresh ())).2

/-- The session at its start. -/
def Session.start
    (settings : Settings)
    (blockWords : List String) :
    Session :=
  { machine := machineWith settings blockWords }

/-- The event that a line raises, if it raises one. -/
def eventOf? : ConsoleLine → Option Event
  | .chat nick text => some (.chat nick text)
  | .privateMessage nick otherNick text => some (.privateMessage nick text otherNick)
  | .login nick => some (.userLogin nick)
  | .logout nick => some (.userLogout nick)
  | .command nick userClass text =>
      some (.hubCommand nick text userClass true "!")
  | .empty | .stats | .quit => none

/-- Raises an event on a machine whose trace is cleared before. -/
def raiseOn
    (settings : Settings)
    (event : Event)
    (m : HostMachine) :
    Flow (Except String Verdict) × HostMachine :=
  let code : HostCode Verdict := Code.ask (Call.raise event)
  (setupOf settings).runHost room code { m with trace := [] }

/-- The line that a notice prints. -/
def noticeLine? : Record Builtin Empty → Option Output
  | .notice recipient text _ =>
      some (.answer ("[pm -> " ++ recipient ++ "] " ++ text))
  | _ => none

/-- The notices of a machine, in order. -/
def noticesOf (m : HostMachine) : List Output :=
  m.history.filterMap fun moment => noticeLine? moment.record

/-- The line that a verdict prints. -/
def verdictLines : Flow (Except String Verdict) → List Output
  | .returned (.ok verdict) => [.answer verdict.name]
  | _ => []

namespace Session

/-- Raises an event and prints its notices and its verdict. -/
def raise
    (settings : Settings)
    (event : Event)
    (session : Session) :
    Session × List Output :=
  let (flow, after) := raiseOn settings event session.machine
  ({ session with machine := after }, noticesOf after ++ verdictLines flow)

/-- Raises a tick of the timer, which prints nothing. -/
def tick
    (settings : Settings)
    (msec : UInt64)
    (session : Session) :
    Session :=
  match session.ended with
  | some _ => session
  | none => (session.raise settings (.timer msec)).1

/-- Ends a session. -/
def stop (code : ExitCode) (session : Session) : Session :=
  { session with ended := some code }

/-- Carries out a line that was understood. -/
def carryOut
    (settings : Settings)
    (session : Session) :
    ConsoleLine → Session × List Output
  | .empty => (session, [])
  | .stats =>
      (session,
        [.answer session.machine.state.stats.toJson.writeLines])
  | .quit => (session.stop .success, [])
  | line =>
      match eventOf? line with
      | some event => session.raise settings event
      | none => (session, [])

/-- Carries out the text of a line. -/
def readLine
    (settings : Settings)
    (session : Session)
    (text : String) :
    Session × List Output :=
  match ConsoleLine.parse text with
  | .ok line => session.carryOut settings line
  | .error reason => (session, [.complaint reason.message])

/-- The text that bytes encode, if they encode one. -/
def decode? (bytes : List UInt8) : Option String :=
  String.fromUTF8? ⟨bytes.toArray⟩

/-- Carries out the bytes of a line, which are no longer unfinished. -/
def readBytes
    (settings : Settings)
    (session : Session)
    (bytes : List UInt8) :
    Session × List Output :=
  let session := { session with line := [] }
  match decode? bytes with
  | some text => session.readLine settings text
  | none => (session.stop .failure, [])

/-- The byte that ends a line. -/
def lineFeed : UInt8 := 10

/-- A line, latest byte first, without a carriage return at its end. -/
def dropReturn : List UInt8 → List UInt8
  | 13 :: rest => rest
  | bytes => bytes

/-- Takes a byte.  A session that has ended takes none. -/
def feed
    (settings : Settings)
    (session : Session)
    (byte : UInt8) :
    Session × List Output :=
  match session.ended with
  | some _ => (session, [])
  | none =>
      if byte = lineFeed then
        session.readBytes settings (dropReturn session.line).reverse
      else
        ({ session with line := byte :: session.line }, [])

/-- Takes bytes in order. -/
def feedAll
    (settings : Settings)
    (session : Session) :
    List UInt8 → Session × List Output
  | [] => (session, [])
  | byte :: rest =>
      let (next, outputs) := session.feed settings byte
      let (last, more) := next.feedAll settings rest
      (last, outputs ++ more)

/--
Takes the end of the input: a last line without an end is carried out, and the
session ends.
-/
def finish
    (settings : Settings)
    (session : Session) :
    ExitCode × List Output :=
  match session.ended, session.line with
  | some code, _ => (code, [])
  | none, [] => (.success, [])
  | none, line =>
      let (last, outputs) := session.readBytes settings line.reverse
      (last.ended.getD .success, outputs)

end Session

end Host
end ScriptHub
