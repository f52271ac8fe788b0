import ScriptHub.Run.Perform
import ScriptHub.Scenario.Basic

/-!
# What described handlers and cleanups do

A list of acts counts one level of nesting while it runs.  Lists nested more
deeply than the limit are left out, so every scenario comes to an end.
-/

namespace ScriptHub
namespace Scenario

/-- How deeply lists of acts may be nested. -/
def nestingLimit : Nat := 4

namespace Draft

/--
Declares the handlers of a list, each one under a key of its own.
A later handler replaces an earlier one of the same kind.
-/
def hookAll : Nat → List Hook → Spec Procedure → Spec Procedure
  | _, [], spec => spec
  | key, .mk kinds handler :: rest, spec =>
      hookAll (key + 1) rest
        (kinds.foldl
          (fun spec kind => spec.hook kind (.handler key handler))
          spec)

/-- The number of handlers in a description. -/
def handlerCount : Draft → Nat
  | .mk _ hooks _ _ _ => hooks.length

/-- The specification behind a description, given the key of its first handler. -/
def toSpec
    (key : Nat) :
    Draft → Spec Procedure
  | .mk name hooks priority autoEnable cleanup =>
      let hooked := hookAll key hooks (Spec.named name)
      let ordered := priority.elim hooked hooked.withPriority
      let flagged := autoEnable.elim ordered ordered.withAutoEnable
      cleanup.elim flagged fun removal =>
        flagged.withCleanup (.removal removal)

end Draft

namespace Question

/-- Carries out an operation that needs no specification. -/
def code
    (settings : Settings) :
    Question → Program Reply
  | unregister script => do pure (.flag (← .ask (.unregister script)))
  | enable script => do pure (.flag (← .ask (.enable script)))
  | disable script => do pure (.flag (← .ask (.disable script)))
  | info script => do pure (.info (← .ask (.info script)))
  | list => do pure (.list (← .ask .list))
  | ids => do pure (.scripts (← .ask .ids))
  | count => do pure (.number (← .ask .count))
  | stats => do pure (.stats (← .ask .stats))
  | callsFor kind => do
      let stats : Stats ← .ask .stats
      pure (.calls (stats.callsFor kind))
  | calls kind => do pure (.calls (← .ask (.calls kind)))
  | bindingCounts => do pure (.counts (← .ask .bindingCounts))
  | chain kind => do pure (.chain (← .ask (.chain kind)))
  | dispatch event => do
      let result : DispatchResult ← .ask (.dispatch event)
      pure (.verdict result.verdict)
  | dispatchInDetail event => do pure (.report (← .ask (.dispatch event)))
  | raise event => do pure (.verdict (← .ask (.raise event)))
  | administer nick command userClass trigger => do
      pure (.verdict (← .ask (.administer nick command userClass trigger)))
  | shutdown => do pure (.number (← .ask .shutdown))
  | describeRegistry => do
      let count : Nat ← .ask .count
      pure (.text (ScriptHub.describeRegistry count settings.defaultPriority))

end Question

namespace Deed

/-- Carries out an act. -/
def code
    (settings : Settings) :
    Deed → Program Reply
  | register draft =>
      .read fun store =>
        .write (store.enlarge draft.handlerCount) do
          pure (.script (← .ask (.register (draft.toSpec store.nextKey))))
  | listKinds draft => pure (.kinds (draft.toSpec 0).kinds)
  | describe draft => pure (.text (draft.toSpec 0).describe)
  | ask question => question.code settings
  | installBuiltins blockWords => do
      Builtin.install .builtin blockWords
      pure .nothing
  | refuse refusal => pure (.refused refusal)

end Deed

namespace Act

/-- Carries out an act and notes its answer. -/
def code
    (settings : Settings) :
    Act → Program Unit
  | .mk verb deed => do
      let reply ← deed.code settings
      .note (.acted verb reply) (pure ())

/-- Carries out acts one after the other. -/
def codeAll
    (settings : Settings) :
    List Act → Program Unit
  | [] => pure ()
  | act :: rest => do
      act.code settings
      codeAll settings rest

/--
Carries out the acts of a procedure that runs at a level, unless that would
exceed the limit.
-/
def codeAt
    (settings : Settings)
    (level : Nat) :
    Option (List Act) → Program Unit
  | none => pure ()
  | some acts =>
      if level < nestingLimit then
        codeAll settings acts
      else
        .note .tooDeep (pure ())

end Act

namespace Outcome

/-- The end of a handler. -/
def ofHandler : Outcome → Ending Verdict
  | allow => .returned .allow
  | block => .returned .block
  | fail reason => .failed reason
  | panic payload => .panicked payload

/-- The end of a cleanup, for which allowing and blocking are success. -/
def ofRemoval : Outcome → Ending Unit
  | allow => .returned ()
  | block => .returned ()
  | fail reason => .failed reason
  | panic payload => .panicked payload

end Outcome

/-- The integer of a turn: the last one stands for all later turns. -/
def codeOfTurn
    (codes : List Int32)
    (turn : Nat) :
    Int32 :=
  (codes[min turn (codes.length - 1)]?).getD 1

/-- What a described handler does. -/
def Handler.code
    (settings : Settings)
    (level key : Nat)
    (event : Event)
    (handler : Handler) :
    Program Verdict :=
  .read fun store =>
    let turn := store.turnsOf key
    .write (store.count key)
      (match handler with
      | .scripted _ acts cases turns otherwise => do
          Act.codeAt settings level acts
          let outcome :=
            match cases.find? fun entry => entry.1.holds event with
            | some entry => entry.2
            | none => turns[turn]?.getD otherwise
          .finish outcome.ofHandler
      | .coded _ codes => pure (Verdict.ofCode (codeOfTurn codes turn)))

/-- What a described cleanup does. -/
def Removal.code
    (settings : Settings)
    (level : Nat) :
    Removal → Program Unit
  | .mk _ acts outcome => do
      Act.codeAt settings level acts
      .finish outcome.ofRemoval

/-- What the procedures of a scenario do. -/
def behaviour (settings : Settings) : Behaviour Procedure Store Note where
  onEvent level procedure event :=
    match procedure with
    | .handler key handler => handler.code settings level key event
    | .removal _ => pure .allow
    | .builtin builtin => builtin.onEvent event
  onRemoval level procedure :=
    match procedure with
    | .handler _ _ => pure ()
    | .removal removal => removal.code settings level
    | .builtin builtin => builtin.onRemoval

end Scenario
end ScriptHub
