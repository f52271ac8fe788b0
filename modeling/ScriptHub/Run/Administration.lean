import ScriptHub.Admin.Report
import ScriptHub.Run.Registration

/-!
# The administrative surface

A hub command that starts with the command word is administrative, valid or not,
and is never passed on.  Its caller is answered by notices; a caller of too low a
class learns nothing but that.  Whether a notice arrives makes no difference.
-/

namespace ScriptHub
namespace Run

variable {P W N : Type}

/-- Counts a notice. -/
def countNotice : Run P W N Unit :=
  fun m => (.returned (), { m with sent := m.sent + 1 })

/-- Hands one notice to the notifier; a failure to deliver it is only logged. -/
def send
    (notifier : Notifier)
    (nick text : String) :
    Run P W N Unit := do
  let sent := (← machine).sent
  countNotice
  match notifier.deliver sent nick text with
  | .ok () => emit (.notice nick text true)
  | .error reason => do
      emit (.notice nick text false)
      log (.noticeDropped nick reason)

/-- Hands notices to the notifier, one after the other. -/
def sendAll
    (notifier : Notifier)
    (nick : String) :
    List String → Run P W N Unit
  | [] => pure ()
  | text :: rest => do
      send notifier nick text
      sendAll notifier nick rest

/-- Carries out a command and tells the texts of its answer. -/
def execute
    (word trigger : String) :
    AdminCommand → Run P W N (List String)
  | .list => do pure (AdminReport.list (← state).list)
  | .stats => do pure (AdminReport.stats (← state).stats)
  | .enable script => do
      let found ← setEnabled script true
      pure [AdminReport.toggled script true found]
  | .disable script => do
      let found ← setEnabled script false
      pure [AdminReport.toggled script false found]
  | .help => pure (AdminReport.help trigger word)

/--
Answers the caller of an administrative command by notices.

A caller of too low a class is refused, whatever was said.
-/
def reply
    (settings : Settings)
    (notifier : Notifier)
    (nick : String)
    (userClass : Int32)
    (trigger : String)
    (parsed : Except AdminError (Option AdminCommand)) :
    Run P W N Unit :=
  if userClass < settings.adminClass then do
    log (.commandRefused nick userClass)
    send notifier nick AdminReport.permissionDenied
  else
    match parsed with
    | .ok none => pure ()
    | .ok (some command) => do
        log (.commandRunning nick command)
        let texts ← execute settings.adminWord trigger command
        sendAll notifier nick texts
    | .error reason =>
        send notifier nick
          (AdminReport.rejection trigger settings.adminWord reason)

/--
Handles a hub command.

The verdict is to allow it when its first word is not the command word, and to
block it otherwise.
-/
def administer
    (settings : Settings)
    (notifier : Notifier)
    (nick command : String)
    (userClass : Int32)
    (trigger : String) :
    Run P W N Verdict :=
  match AdminCommand.parse command settings.adminWord with
  | .ok none => pure .allow
  | parsed => do
      reply settings notifier nick userClass trigger parsed
      pure .block

end Run
end ScriptHub
