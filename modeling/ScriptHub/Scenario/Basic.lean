import ScriptHub.Builtin
import ScriptHub.Event.Json
import ScriptHub.Script.Code

/-!
# Scenarios

Handlers and cleanups are described as data here.  A described handler carries out a
list of acts when it is called and then ends as its description says, which may depend
on the event and on how often the handler was called before.  Acts are the operations
of a dispatcher, so described scripts can register, remove, toggle and dispatch from
within their handlers.
-/

namespace ScriptHub
namespace Scenario

/-- How a described handler or cleanup ends. -/
inductive Outcome
  | allow
  | block
  | fail (reason : String)
  | panic (payload : Payload)
  deriving DecidableEq

/--
A value that an argument of an event is compared with; the last stands for those that no
argument equals.
-/
inductive Scalar
  | null
  | text (value : String)
  | flag (value : Bool)
  | integer (value : Int)
  | other
  deriving DecidableEq

/-- The value of an argument, or null for an argument the event lacks. -/
def Scalar.ofField? : Option FieldValue → Scalar
  | none => null
  | some (.text value) => text value
  | some (.flag value) => flag value
  | some (.uint64 value) => integer value.toNat
  | some (.uint16 value) => integer value.toNat
  | some (.int32 value) => integer value.toInt

/-- What is compared under a name: the name of the kind, or an argument. -/
def comparedValue? (event : Event) (name : String) : Option FieldValue :=
  if name = Event.tag then some (.text event.kind.name) else event.field? name

/--
A condition on events: the event was raised by the user of a nick, or by none; an
argument is a text in which another text occurs; or an argument has a value.
-/
inductive Condition
  | nick (raiser : Option String)
  | contains (field text : String)
  | equals (field : String) (value : Scalar)
  deriving DecidableEq

/-- Whether an event meets a condition. -/
def Condition.holds
    (event : Event) :
    Condition → Bool
  | .nick raiser => event.nick? == raiser
  | .contains field text =>
      match comparedValue? event field with
      | some (.text value) => Text.occursIn text.toList value.toList
      | _ => false
  | .equals field value => Scalar.ofField? (comparedValue? event field) == value

/--
Why an act is refused before it is carried out: it names a kind of event that does not
exist, it holds an event that cannot be read, or it is no act.
-/
inductive Refusal
  | unknownKind (reason : UnknownEventKind)
  | unreadableEvent
  | malformed
  deriving DecidableEq

/-- An operation that needs no specification. -/
inductive Question
  | unregister (script : ScriptId)
  | enable (script : ScriptId)
  | disable (script : ScriptId)
  | info (script : ScriptId)
  | list
  | ids
  | count
  | stats
  | callsFor (kind : EventKind)
  | calls (kind : EventKind)
  | bindingCounts
  | chain (kind : EventKind)
  | dispatch (event : Event)
  | dispatchInDetail (event : Event)
  | raise (event : Event)
  | administer
      (nick command : String)
      (userClass : Int32)
      (trigger : String)
  | shutdown
  | describeRegistry
  deriving DecidableEq

mutual

/-- What a described script does in one act. -/
inductive Deed
  | register (draft : Draft)
  | listKinds (draft : Draft)
  | describe (draft : Draft)
  | ask (question : Question)
  | installBuiltins (blockWords : List String)
  | refuse (refusal : Refusal)

/-- An act, with the word under which it is noted. -/
inductive Act
  | mk (verb : String) (deed : Deed)

/-- The description of a specification. -/
inductive Draft
  | mk
      (name : String)
      (hooks : List Hook)
      (priority : Option Int32)
      (autoEnable : Option Bool)
      (cleanup : Option Removal)

/-- A described handler with the kinds it is bound to. -/
inductive Hook
  | mk (kinds : List EventKind) (handler : Handler)

/--
The description of a handler: acts, and an outcome by condition, by turn, or else fixed;
or an integer per turn, the last one from then on.
-/
inductive Handler
  | scripted
      (label : Option String)
      (acts : Option (List Act))
      (cases : List (Condition × Outcome))
      (turns : List Outcome)
      (otherwise : Outcome)
  | coded
      (label : Option String)
      (codes : List Int32)

/-- The description of a cleanup. -/
inductive Removal
  | mk
      (label : Option String)
      (acts : Option (List Act))
      (outcome : Outcome)

end

/-- The label of a described handler. -/
def Handler.label : Handler → Option String
  | .scripted label .. => label
  | .coded label _ => label

/-- The label of a described cleanup. -/
def Removal.label : Removal → Option String
  | .mk label _ _ => label

/-- The procedures of a scenario.  The key tells apart handlers of one description. -/
inductive Procedure
  | handler (key : Nat) (description : Handler)
  | removal (description : Removal)
  | builtin (builtin : Builtin)

/-- The store of a scenario: how often each handler was called, by key. -/
structure Store where
  turns : List Nat

namespace Store

/-- The store before any handler was made. -/
def empty : Store := ⟨[]⟩

/-- The key of the next handler. -/
def nextKey (store : Store) : Nat :=
  store.turns.length

/-- Makes room for a number of handlers that were not called yet. -/
def enlarge
    (store : Store)
    (handlers : Nat) :
    Store :=
  ⟨store.turns ++ List.replicate handlers 0⟩

/-- How often a handler was called. -/
def turnsOf
    (store : Store)
    (key : Nat) :
    Nat :=
  store.turns[key]?.getD 0

/-- Counts a call of a handler. -/
def count
    (store : Store)
    (key : Nat) :
    Store :=
  ⟨store.turns.modify key (· + 1)⟩

end Store

/-- The answer to an act. -/
inductive Reply
  | nothing
  | script (script : ScriptId)
  | scripts (scripts : List ScriptId)
  | flag (value : Bool)
  | number (value : Nat)
  | text (value : String)
  | info (info : Option ScriptInfo)
  | list (infos : List ScriptInfo)
  | stats (stats : Stats)
  | calls (calls : CallCount)
  | counts (counts : List (EventKind × Nat))
  | chain (chain : List (Binding Procedure))
  | verdict (verdict : Verdict)
  | report (result : DispatchResult)
  | kinds (kinds : List EventKind)
  | refused (refusal : Refusal)

/--
What a described script notes in the trace: an act was finished, or a list of acts was
left out, being nested too deeply.
-/
inductive Note
  | acted (verb : String) (reply : Reply)
  | tooDeep

/-- Code of a scenario. -/
abbrev Program := Code Procedure Store Note

end Scenario
end ScriptHub
