import ScriptHub.Script.Code
import ScriptHub.Text.LowerCase
import ScriptHub.Text.Occurrence

/-!
# The scripts that come with the hub

The chat logger writes chat, private messages, logins and logouts to the
journal and never blocks.  The word filter blocks chat and private messages in
whose lower-cased text one of its words occurs.
-/

namespace ScriptHub

/--
The procedures of the built-in scripts.  The words of a filter are trimmed, lower-cased
and not empty.
-/
inductive Builtin
  | chatLogger
  | wordFilter (words : List (List Char))
  deriving DecidableEq

namespace Builtin

variable {P W N : Type}

/-- The log record that the chat logger writes for an event, if any. -/
def chatRecord? : Event → Option LogEntry
  | .chat nick message => some (.chatSeen nick message)
  | .privateMessage nick message otherNick =>
      some (.privateMessageSeen nick otherNick message)
  | .userLogin nick => some (.loginSeen nick)
  | .userLogout nick => some (.logoutSeen nick)
  | _ => none

/-- The text that the word filter looks at, if it looks at the event. -/
def filteredText? : Event → Option String
  | .chat _ message | .privateMessage _ message _ => some message
  | _ => none

/-- Whether one of the words occurs in the lower-cased text of an event. -/
def offends
    (words : List (List Char))
    (event : Event) :
    Bool :=
  (filteredText? event).any fun text =>
    words.any fun word => Text.occursIn word (Text.lower text.toList)

/-- What a built-in handler does with an event. -/
def onEvent
    (builtin : Builtin)
    (event : Event) :
    Code P W N Verdict :=
  match builtin with
  | chatLogger =>
      match chatRecord? event with
      | some entry => .log entry (.done .allow)
      | none => .done .allow
  | wordFilter words =>
      if offends words event then
        .log (.messageBlocked event.nick?) (.done .block)
      else
        .done .allow

/-- What a built-in cleanup does. -/
def onRemoval : Builtin → Code P W N Unit
  | chatLogger => .done ()
  | wordFilter _ => .log .wordFilterUnloaded (.done ())

/-- The words a filter uses: trimmed, lower-cased, and without empty ones. -/
def filterWords (blockWords : List String) : List (List Char) :=
  (blockWords.map fun word => Text.lower (Text.trim word.toList)).filter
    fun word => !word.isEmpty

/-- The specification of the chat logger. -/
def chatLoggerSpec (embed : Builtin → P) : Spec P :=
  ((((Spec.named "ChatLogger").withPriority 200).hook
      .chat (embed chatLogger)).hook
      .privateMessage (embed chatLogger)).hook
      .userLogin (embed chatLogger) |>.hook
      .userLogout (embed chatLogger)

/-- The specification of a word filter. -/
def wordFilterSpec
    (embed : Builtin → P)
    (words : List (List Char)) :
    Spec P :=
  ((((Spec.named "WordFilter").withPriority 50).hook
      .chat (embed (wordFilter words))).hook
      .privateMessage (embed (wordFilter words))).withCleanup
      (embed (wordFilter words))

/--
The built-in scripts for a list of block words.  The word filter is among them
only when a word is left.
-/
def specs
    (embed : Builtin → P)
    (blockWords : List String) :
    List (Spec P) :=
  match filterWords blockWords with
  | [] => [chatLoggerSpec embed]
  | words => [chatLoggerSpec embed, wordFilterSpec embed words]

/-- Registers specifications one after the other. -/
def registerAll : List (Spec P) → Code P W N Unit
  | [] => .done ()
  | spec :: rest => .call (.register spec) fun _ => registerAll rest

/-- Registers the built-in scripts. -/
def install
    (embed : Builtin → P)
    (blockWords : List String) :
    Code P W N Unit :=
  registerAll (specs embed blockWords)

end Builtin

end ScriptHub
