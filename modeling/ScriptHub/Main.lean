import ScriptHub.Host.Arrival

/-!
# The console host as a program

The program reads its standard input as it comes, prints answers to the standard
output and complaints to the standard error stream, and raises the ticks of the
timer that are due before it takes further input.
-/

namespace ScriptHub
namespace Host

/-- Prints what a session prints. -/
def printAll (outputs : List Output) : IO Unit := do
  for output in outputs do
    match output with
    | .answer text => IO.println text
    | .complaint text => IO.eprintln text
  (← IO.getStdout).flush

/-- The text of a file, if there is such a file and it is text. -/
def readText? (path : String) : IO (Option String) := do
  try
    pure (some (← IO.FS.readFile path))
  catch _ =>
    pure none

/-- The name and the value of a variable. -/
def splitVariable (text : String) : String × String :=
  let name := text.toList.takeWhile (· != '=')
  (String.ofList name, String.ofList (text.toList.drop (name.length + 1)))

/-- The variables of the environment. -/
def readEnvironment : IO (List (String × String)) := do
  let text ← readText? "/proc/self/environ"
  pure ((((text.getD "").splitOn "\x00").filter (· ≠ "")).map splitVariable)

/-- The number of bytes that are asked for at a time. -/
def chunkSize : USize := 4096

/-- Reads the input until the session has ended. -/
partial def serve
    (settings : Settings)
    (interval : UInt64)
    (startedAt : Nat)
    (ticks : Nat)
    (session : Session) :
    IO ExitCode := do
  let chunk ← (← IO.getStdin).read chunkSize
  let arrival : Arrival :=
    { elapsed := (← IO.monoMsNow) - startedAt
      bytes := chunk.toList }
  let (next, outputs) :=
    session.attendAll settings interval (arrival.stimuli interval ticks)
  printAll outputs
  if chunk.isEmpty then do
    let (code, more) := next.finish settings
    printAll more
    pure code
  else
    match next.ended with
    | some code => pure code
    | none =>
        serve settings interval startedAt
          (ticksUntil interval.toNat arrival.elapsed) next

/-- Runs the host and answers its exit code. -/
def launch (arguments : List String) : IO ExitCode := do
  let path :=
    match Request.ofArguments arguments with
    | .ok (.run options) => options.configPath.getD defaultPath
    | _ => defaultPath
  let text ← readText? path
  match Invocation.begin (fun _ => text) (← readEnvironment) arguments with
  | .finished code outputs =>
      printAll outputs
      pure code
  | .running config blockWords =>
      let settings := Settings.ofConfig config.dispatcher
      serve settings config.console.timerIntervalMs (← IO.monoMsNow) 0
        (Session.start settings blockWords)

end Host
end ScriptHub

/-- Runs the host. -/
def main (arguments : List String) : IO UInt32 := do
  let code ← ScriptHub.Host.launch arguments
  pure (.ofNat code.toNat)
