import ScriptHub.Config.Load
import ScriptHub.Host.Arguments
import ScriptHub.Host.Session

/-!
# A run of the console host from its arguments to its exit code

Arguments that are refused and a configuration that does not load end the run
before anything is read.
-/

namespace ScriptHub
namespace Host

/-- The help text. -/
def helpText : String :=
  "Console host for the hubhook dispatcher\n\n" ++
    "Usage: hubhook [OPTIONS]\n\n" ++
    "Options:\n" ++
    "      --config <CONFIG>           Configuration file (TOML) " ++
    "[default: config/default.toml]\n" ++
    "      --block-word <BLOCK_WORDS>  Word that makes the built-in word " ++
    "filter block chat and PMs\n" ++
    "  -h, --help                      Print help\n" ++
    "  -V, --version                   Print version"

/-- The name and version of the host. -/
def versionText : String :=
  "hubhook 0.1.0"

/-- The configuration file that is read when no other is given. -/
def defaultPath : String :=
  "config/default.toml"

/--
What a run of the host comes to once its arguments and settings are read: it has ended,
or a session starts.
-/
inductive Invocation
  | finished (code : ExitCode) (outputs : List Output)
  | running (config : Config) (blockWords : List String)

/--
Reads the arguments and the configuration, given the texts of files by their
paths.
-/
def Invocation.begin
    (files : String → Option String)
    (environment : List (String × String))
    (arguments : List String) :
    Invocation :=
  match Request.ofArguments arguments with
  | .error reason => finished .usage [.complaint reason.message]
  | .ok .showHelp => finished .success [.answer helpText]
  | .ok .showVersion => finished .success [.answer versionText]
  | .ok (.run options) =>
      match Config.load (files (options.configPath.getD defaultPath))
          environment with
      | .error reason =>
          finished .failure
            [.complaint
              ("Failed to load configuration: " ++ reason.toHubError.text)]
      | .ok config => running config options.blockWords

/-- A whole session: its exit code and everything it prints. -/
def runSession
    (config : Config)
    (blockWords : List String)
    (input : List UInt8) :
    ExitCode × List Output :=
  let settings := Settings.ofConfig config.dispatcher
  let (session, outputs) :=
    (Session.start settings blockWords).feedAll settings input
  let (code, more) := session.finish settings
  (code, outputs ++ more)

/-- A whole run: its exit code and everything it prints. -/
def run
    (files : String → Option String)
    (environment : List (String × String))
    (arguments : List String)
    (input : List UInt8) :
    ExitCode × List Output :=
  match Invocation.begin files environment arguments with
  | .finished code outputs => (code, outputs)
  | .running config blockWords => runSession config blockWords input

end Host
end ScriptHub
