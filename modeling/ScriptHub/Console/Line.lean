import ScriptHub.Decimal.Integer
import ScriptHub.Error
import ScriptHub.Text.Blank

/-!
# The grammar of console lines

A line is a verb and its arguments, separated by blanks.  Blanks around the line
do not count, and neither do those between two arguments; blanks inside the last
argument of a verb are kept as they are.
-/

namespace ScriptHub

/--
A line of the console: blanks, a message in the main chat or to one user, a login or a
logout, a hub command sent in private, a request for the counters, or the end of the
input.
-/
inductive ConsoleLine
  | empty
  | chat (nick text : String)
  | privateMessage (nick otherNick text : String)
  | login (nick : String)
  | logout (nick : String)
  | command (nick : String) (userClass : Int32) (command : String)
  | stats
  | quit
  deriving DecidableEq

/--
Why a line is not understood: an argument is missing, the word in the place of the user
class is no class, or there is no such verb.
-/
inductive ConsoleError
  | missingArgument
  | invalidClass (word : String)
  | unknownVerb (word : String)
  deriving DecidableEq

/-- The reminder of how lines are written. -/
def consoleUsage : String :=
  "expected: chat <nick> <text> | pm <nick> <to> <text> | login <nick> " ++
    "| logout <nick> | cmd <nick> <class> <command...> | stats | quit"

/-- The wording of an error. -/
def ConsoleError.message : ConsoleError → String
  | .missingArgument => "missing argument; " ++ consoleUsage
  | .invalidClass word => "invalid user class '" ++ word ++ "'"
  | .unknownVerb word =>
      "unknown console command '" ++ word ++ "'; " ++ consoleUsage

/-- The validation error that a line gives rise to. -/
def ConsoleError.toHubError (err : ConsoleError) : HubError :=
  .invalid err.message

namespace ConsoleLine

/-- An argument that must not be empty. -/
def required (word : List Char) : Except ConsoleError String :=
  match word with
  | [] => .error .missingArgument
  | _ :: _ => .ok (String.ofList word)

/-- Reads a user class. -/
def readClass (word : List Char) : Except ConsoleError Int32 :=
  match word with
  | [] => .error .missingArgument
  | _ :: _ =>
      match Decimal.readInt32 word with
      | .ok userClass => .ok userClass
      | .error _ => .error (.invalidClass (String.ofList word))

/-- Reads the arguments of a chat line. -/
def readChat (rest : List Char) : Except ConsoleError ConsoleLine := do
  let (nick, text) := Text.splitWord rest
  pure (.chat (← required nick) (String.ofList text))

/-- Reads the arguments of a private message. -/
def readPrivateMessage
    (rest : List Char) :
    Except ConsoleError ConsoleLine := do
  let (nick, rest) := Text.splitWord rest
  let (other, text) := Text.splitWord rest
  let nick ← required nick
  let otherNick ← required other
  pure (.privateMessage nick otherNick (String.ofList text))

/-- Reads the arguments of a command; its class is looked at first. -/
def readCommand (rest : List Char) : Except ConsoleError ConsoleLine := do
  let (nick, rest) := Text.splitWord rest
  let (word, text) := Text.splitWord rest
  let userClass ← readClass word
  let nick ← required nick
  pure (.command nick userClass (String.ofList text))

/-- Reads the arguments behind a verb. -/
def readVerb
    (verb : String)
    (rest : List Char) :
    Except ConsoleError ConsoleLine :=
  if verb = "" then .ok empty
  else if verb = "stats" then .ok stats
  else if verb = "quit" ∨ verb = "exit" then .ok quit
  else if verb = "login" then (required rest).map login
  else if verb = "logout" then (required rest).map logout
  else if verb = "chat" then readChat rest
  else if verb = "pm" then readPrivateMessage rest
  else if verb = "cmd" then readCommand rest
  else .error (.unknownVerb verb)

/-- Reads a line. -/
def parse (line : String) : Except ConsoleError ConsoleLine :=
  let (verb, rest) := Text.splitWord (Text.trim line.toList)
  readVerb (String.ofList verb) rest

end ConsoleLine

end ScriptHub
