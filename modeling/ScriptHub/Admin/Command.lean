import ScriptHub.Decimal.Integer
import ScriptHub.Script.Spec
import ScriptHub.Text.LowerCase

/-!
# The grammar of administrative commands

A command is the command word, a subcommand and, for two of the subcommands, the
id of a registration, separated by blanks:

  word list | stats | help | enable id | disable id

The command word is compared letter for letter; the subcommand is lower-cased
first.  Words behind those that a subcommand needs are ignored.
-/

namespace ScriptHub

/--
An administrative command: to list every registration, to show the counters, to enable
or disable a registration, or to show the commands.
-/
inductive AdminCommand
  | list
  | stats
  | enable (script : ScriptId)
  | disable (script : ScriptId)
  | help
  deriving DecidableEq

/--
Why a text that starts with the command word is no command: nothing follows the word,
the subcommand lacks its id, the word in the place of the id is none, or there is no
such subcommand.
-/
inductive AdminError
  | missingSubcommand
  | missingId (subcommand : String)
  | invalidId (word : String)
  | unknown (subcommand : String)
  deriving DecidableEq

/-- The wording of an error. -/
def AdminError.message : AdminError → String
  | .missingSubcommand => "missing subcommand"
  | .missingId subcommand => "'" ++ subcommand ++ "' requires a script id"
  | .invalidId word => "invalid script id '" ++ word ++ "'"
  | .unknown subcommand => "unknown subcommand '" ++ subcommand ++ "'"

/-- The form in which log records show an id. -/
def describeId (script : ScriptId) : String :=
  "ScriptId(" ++ toString script ++ ")"

namespace AdminCommand

/-- The form in which log records show a command. -/
def describe : AdminCommand → String
  | list => "List"
  | stats => "Stats"
  | enable script => "Enable(" ++ describeId script ++ ")"
  | disable script => "Disable(" ++ describeId script ++ ")"
  | help => "Help"

/-- Reads the id behind a subcommand that needs one. -/
def readId
    (subcommand : String)
    (rest : List (List Char)) :
    Except AdminError ScriptId :=
  match rest with
  | [] => .error (.missingId subcommand)
  | word :: _ =>
      match Decimal.readUInt64 word with
      | .ok script => .ok script
      | .error _ => .error (.invalidId (String.ofList word))

/-- Reads a lower-cased subcommand and the words behind it. -/
def readSubcommand
    (subcommand : String)
    (rest : List (List Char)) :
    Except AdminError AdminCommand :=
  if subcommand = "list" then .ok list
  else if subcommand = "stats" then .ok stats
  else if subcommand = "help" then .ok help
  else if subcommand = "enable" then (readId subcommand rest).map enable
  else if subcommand = "disable" then (readId subcommand rest).map disable
  else .error (.unknown subcommand)

/--
Reads a text as an administrative command.

The answer is none when the first word is not the command word: the text is
then meant for someone else.
-/
def parse
    (text word : String) :
    Except AdminError (Option AdminCommand) :=
  match Text.words text.toList with
  | [] => .ok none
  | first :: rest =>
      if first = word.toList then
        match rest with
        | [] => .error .missingSubcommand
        | second :: others =>
            (readSubcommand (String.ofList (Text.lower second)) others).map some
      else
        .ok none

end AdminCommand

end ScriptHub
