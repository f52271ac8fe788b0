/-!
# The arguments of the console host

The host takes the path of a configuration file at most once and any number of
words to block.  The value of an option follows in the next argument or behind
an equals sign.  Requests for the help text or the version end the reading where
they stand.
-/

namespace ScriptHub
namespace Host

/--
What a run of the host is given: the path of the configuration file, if there is one,
and the words to block, in order.
-/
structure Options where
  configPath : Option String := none
  blockWords : List String := []
  deriving DecidableEq

/-- The options that take a value. -/
inductive ValueOption
  | config
  | blockWord
  deriving DecidableEq

/-- What the arguments ask for. -/
inductive Request
  | run (options : Options)
  | showHelp
  | showVersion
  deriving DecidableEq

/--
Why arguments are refused: one stands for nothing the host knows, an option lacks its
value, an option that takes no value has one, or an option is given a second time.
-/
inductive ArgumentError
  | unexpected (argument : String)
  | missingValue
  | needlessValue (argument : String)
  | repeated
  deriving DecidableEq

/-- The wording of an error. -/
def ArgumentError.message : ArgumentError → String
  | .unexpected argument => "unexpected argument '" ++ argument ++ "'"
  | .missingValue => "an option lacks its value"
  | .needlessValue argument => "unexpected value in '" ++ argument ++ "'"
  | .repeated => "an option is given more than once"

/--
The form of an argument: two hyphens alone, behind which no options follow; a name
behind two hyphens, perhaps with a value; letters behind one hyphen; or anything else.
-/
inductive ArgumentForm
  | divider
  | long (name : List Char) (value : Option (List Char))
  | short (letter : Char)
  | word
  deriving DecidableEq

/-- The form of an argument. -/
def ArgumentForm.of : List Char → ArgumentForm
  | ['-', '-'] => divider
  | '-' :: '-' :: rest =>
      let name := rest.takeWhile (· != '=')
      match rest.drop name.length with
      | [] => long name none
      | _ :: value => long name (some value)
  | '-' :: letter :: _ => short letter
  | _ => word

/--
How far the arguments are read: the options so far, the option whose value must follow,
and whether no options follow any more.
-/
structure ArgumentState where
  options : Options := {}
  awaiting : Option ValueOption := none
  divided : Bool := false
  deriving DecidableEq

/-- Why the reading ends before the last argument. -/
inductive Interruption
  | help
  | version
  | refused (reason : ArgumentError)
  deriving DecidableEq

namespace ArgumentState

/-- Takes the value of an option. -/
def take
    (state : ArgumentState)
    (value : String) :
    ValueOption → Except Interruption ArgumentState
  | .config =>
      if state.options.configPath.isSome then
        .error (.refused .repeated)
      else
        .ok
          { state with
            options := { state.options with configPath := some value }
            awaiting := none }
  | .blockWord =>
      .ok
        { state with
          options :=
            { state.options with
              blockWords := state.options.blockWords ++ [value] }
          awaiting := none }

/-- Takes an option with a value, or waits for the value. -/
def option
    (state : ArgumentState)
    (which : ValueOption) :
    Option (List Char) → Except Interruption ArgumentState
  | some value => state.take (String.ofList value) which
  | none => .ok { state with awaiting := some which }

/-- Reads a name behind two hyphens. -/
def long
    (state : ArgumentState)
    (argument : String)
    (name : List Char)
    (value : Option (List Char)) :
    Except Interruption ArgumentState :=
  if name = "config".toList then state.option .config value
  else if name = "block-word".toList then state.option .blockWord value
  else if name = "help".toList ∨ name = "version".toList then
    if value.isSome then .error (.refused (.needlessValue argument))
    else if name = "help".toList then .error .help
    else .error .version
  else .error (.refused (.unexpected argument))

/-- Reads one argument. -/
def step
    (state : ArgumentState)
    (argument : String) :
    Except Interruption ArgumentState :=
  if state.divided then
    .error (.refused (.unexpected argument))
  else
    match ArgumentForm.of argument.toList, state.awaiting with
    | .divider, _ => .ok { state with divided := true }
    | .word, some which => state.take argument which
    | _, some _ => .error (.refused .missingValue)
    | .word, none => .error (.refused (.unexpected argument))
    | .long name value, none => state.long argument name value
    | .short letter, none =>
        if letter = 'h' then .error .help
        else if letter = 'V' then .error .version
        else .error (.refused (.unexpected argument))

/-- Reads arguments in order. -/
def steps
    (state : ArgumentState) :
    List String → Except Interruption ArgumentState
  | [] => .ok state
  | argument :: rest =>
      match state.step argument with
      | .ok next => next.steps rest
      | .error interruption => .error interruption

end ArgumentState

/-- What the arguments of a run ask for. -/
def Request.ofArguments
    (arguments : List String) :
    Except ArgumentError Request :=
  match ({} : ArgumentState).steps arguments with
  | .ok state =>
      if state.awaiting.isSome then .error .missingValue
      else .ok (.run state.options)
  | .error .help => .ok .showHelp
  | .error .version => .ok .showVersion
  | .error (.refused reason) => .error reason

end Host
end ScriptHub
