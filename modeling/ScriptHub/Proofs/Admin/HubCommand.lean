import ScriptHub.Host.EntryPoint
import ScriptHub.Proofs.Admin.Surface
import ScriptHub.Proofs.Run.Dispatches

/-!
# Hub commands

A hub command is dispatched first.  If no handler blocks it, the administrative
surface is asked, in the state that the handlers left.  Setting a flag by a text
comes to the same state as setting it by a call, since both look the registration
up when they are made.

**Results.**
* `Run.raise_hubCommand`: a hub command is a dispatch and then a question.
* `Run.raise_of_other`: any other event is a dispatch alone.
* `Run.administer_concludes`: what the surface leaves, by text and class.
* `hub_command_is_dispatched_then_administered`: both together.
-/

namespace ScriptHub

variable {P W N : Type}

open AdminCommand

/-- The call that sets the flag of a registration. -/
def Call.setFlag (script : ScriptId) (enabled : Bool) : Call P :=
  if enabled then .enable script else .disable script

/-- Setting a flag by a call changes the state as setting it by a command does. -/
theorem Run.perform_setFlag_state
    (setup : Setup P W N)
    (scripts : Scripts P W N)
    (script : ScriptId)
    (enabled : Bool)
    (m : Machine P W N) :
    (Run.perform setup scripts (Call.setFlag script enabled) m).2.state =
      m.state.flagged script enabled := by
  obtain ⟨found, after, hset, hstate, _⟩ :=
    Run.setEnabled_tells m script enabled
  have hafter : (Run.setEnabled script enabled m).2 = after :=
    congrArg Prod.snd hset
  rw [← hstate, ← hafter]
  cases enabled <;> rfl

/-- A hub command is dispatched, and the surface is asked unless it is blocked. -/
theorem Run.raise_hubCommand
    {setup : Setup P W N}
    {scripts : Scripts P W N}
    {nick command : String}
    {userClass : Int32}
    {inPm : Bool}
    {trigger : String}
    {m stop : Machine P W N}
    {result : DispatchResult}
    (dispatched :
      Run.dispatch setup.settings scripts
        (.hubCommand nick command userClass inPm trigger) m =
          (.returned result, stop)) :
    Run.perform setup scripts
        (EntryPoint.onHubCommand nick command userClass inPm trigger) m =
      if result.verdict = .block then
        (.returned .block, stop)
      else
        Run.administer setup.settings setup.notifier nick command userClass
          trigger stop := by
  show Run.raise setup scripts _ m = _
  simp only [Run.raise, bind, Run.andThen, dispatched]
  cases hverdict : result.verdict with
  | allow => rfl
  | block => rfl

/-- Any other event is only dispatched, -/
theorem Run.raise_of_other
    (setup : Setup P W N)
    (scripts : Scripts P W N)
    {event : Event}
    (hother : event.kind ≠ .hubCommand) :
    Run.raise setup scripts event =
      Run.dispatch setup.settings scripts event >>= fun result =>
        pure result.verdict := by
  cases event with
  | hubCommand nick command userClass inPm trigger => exact absurd rfl hother
  | _ => rfl

/-- and answered by the verdict of the dispatch. -/
theorem Run.raise_of_dispatched
    {setup : Setup P W N}
    {scripts : Scripts P W N}
    {event : Event}
    (hother : event.kind ≠ .hubCommand)
    {m stop : Machine P W N}
    {result : DispatchResult}
    (dispatched :
      Run.dispatch setup.settings scripts event m = (.returned result, stop)) :
    Run.raise setup scripts event m = (.returned result.verdict, stop) := by
  rw [Run.raise_of_other setup scripts hother, Run.bind_of_returned dispatched]
  rfl

/--
What the surface leaves of a text from a caller of some class.

The text is blocked exactly if it is addressed to the surface.  A caller of sufficient
class sets the flag of a registration; every other caller and every other text leave the
state as it was.  Every notice goes to the caller.
-/
structure Run.Concludes
    (settings : Settings)
    (nick text : String)
    (userClass : Int32)
    (m : Machine P W N)
    (verdict : Verdict)
    (last : Machine P W N) :
    Prop where
  blocks : verdict = .block ↔ Addressed text settings.adminWord
  toggles :
    ∀ script enabled,
      ¬ userClass < settings.adminClass →
      Toggles text settings.adminWord script enabled →
      last.state = m.state.flagged script enabled
  keeps :
    (userClass < settings.adminClass ∨
      ∀ script enabled,
        ¬ Toggles text settings.adminWord script enabled) →
    last.state = m.state
  notices :
    ∃ texts : List String,
      m.Notifies last (texts.map fun text => (nick, text))

/-- A text that sets a flag is addressed to the surface. -/
theorem AdminCommand.Toggles.addressed
    {text word : String}
    {script : ScriptId}
    {enabled : Bool}
    (h : Toggles text word script enabled) :
    Addressed text word := by
  obtain ⟨subcommand, digits, rest, hwords, _⟩ := h
  rw [addressed_iff, hwords]
  rfl

/-- **The surface returns, and changes at most the flag that the text names.** -/
theorem Run.administer_concludes
    (settings : Settings)
    (notifier : Notifier)
    (nick text : String)
    (userClass : Int32)
    (trigger : String)
    (m : Machine P W N) :
    ∃ verdict last,
      Run.administer settings notifier nick text userClass trigger m =
          (.returned verdict, last) ∧
        Run.Concludes settings nick text userClass m verdict last := by
  by_cases addressed : Addressed text settings.adminWord
  · by_cases low : userClass < settings.adminClass
    · obtain ⟨after, hrun, told⟩ :=
        Run.administer_of_refused settings notifier nick text userClass trigger m
          low addressed
      refine ⟨.block, after, hrun, by simp [addressed], ?_, ?_, ?_⟩
      · intro script enabled high _
        exact absurd low high
      · intro _
        exact told.state
      · exact ⟨[_], told.notices⟩
    · obtain ⟨texts, after, hrun, hnotices, _, hstate⟩ :=
        Run.administer_of_heard settings notifier nick text userClass trigger m
          low addressed
      refine ⟨.block, after, hrun, by simp [addressed], ?_, ?_, texts, hnotices⟩
      · intro script enabled _ toggles
        rw [hstate, parse_eq_toggle_iff.mpr toggles]
        exact effect_toggle script enabled m.state
      · rintro (hlow | hother)
        · exact absurd hlow low
        · rw [hstate]
          split
          · rename_i command hparse
            apply effect_of_not_toggle
            rintro script enabled rfl
            exact hother script enabled (parse_eq_toggle_iff.mp hparse)
          · rfl
  · refine ⟨.allow, m, ?_, by simp [addressed], ?_, ?_, [], .refl m⟩
    · exact Run.administer_of_other settings notifier nick text userClass trigger
        m addressed
    · intro script enabled _ toggles
      exact absurd toggles.addressed addressed
    · intro _
      rfl

/--
What a hub command comes to, told from the dispatch of its event.

It is blocked exactly if a handler blocked it or it is addressed.  When a handler
blocked it, nothing more happens; otherwise the surface is asked, in the state that the
dispatch left.  A text that sets a flag then does what the call does, for a sufficient
class, and in every other case the state is the one that the dispatch left.  Every
notice that follows the dispatch goes to the caller.
-/
structure DispatchCall.Concludes
    {setup : Setup P W N}
    (call : DispatchCall setup)
    (nick command : String)
    (userClass : Int32)
    (trigger : String)
    (visits : List (Visit P W N))
    (verdict : Verdict)
    (last : Machine P W N) :
    Prop where
  blocks :
    verdict = .block ↔
      (∃ visit ∈ visits, visit.IsBlock) ∨
        Addressed command setup.settings.adminWord
  blocked : (∃ visit ∈ visits, visit.IsBlock) → last = call.stop
  asked :
    (¬ ∃ visit ∈ visits, visit.IsBlock) →
    Run.administer setup.settings setup.notifier nick command userClass trigger
        call.stop =
      (.returned verdict, last)
  toggles :
    (¬ ∃ visit ∈ visits, visit.IsBlock) →
    ∀ script enabled,
      ¬ userClass < setup.settings.adminClass →
      Toggles command setup.settings.adminWord script enabled →
      last.state =
        (Run.perform setup (setup.scripts call.room call.level)
          (Call.setFlag script enabled) call.stop).2.state
  keeps :
    ((∃ visit ∈ visits, visit.IsBlock) ∨
      userClass < setup.settings.adminClass ∨
      ∀ script enabled,
        ¬ Toggles command setup.settings.adminWord script enabled) →
    last.state = call.stop.state
  notices :
    ∃ texts : List String,
      call.stop.Notifies last (texts.map fun text => (nick, text))

/--
**A hub command is dispatched, and then administered unless a handler blocks it.**

From every machine that a run can come to, if no panic leaves the dispatch: the
handlers are called as by a dispatch of the event, and the command comes to what
its dispatch and its text tell.
-/
theorem hub_command_is_dispatched_then_administered
    (setup : Setup P W N)
    (room level : Nat)
    (m : Machine P W N)
    (nick command : String)
    (userClass : Int32)
    (inPm : Bool)
    (trigger : String)
    (reached : setup.Reaches m)
    (result : DispatchResult) :
    let call : DispatchCall setup :=
      ⟨room, level, .hubCommand nick command userClass inPm trigger, m⟩
    call.flow = .returned result →
    ∃ visits verdict last,
      Run.perform setup (setup.scripts room level)
          (EntryPoint.onHubCommand nick command userClass inPm trigger) m =
          (.returned verdict, last) ∧
        call.Follows result visits ∧
        call.Concludes nick command userClass trigger visits verdict last := by
  intro call returned
  have sound : call.start.state.WellFormed := reached.wellFormed
  obtain ⟨visits, walks⟩ := call.walks sound returned
  have follows := DispatchCall.follows_of_walks sound walks
  have hverdict := walks.verdict_iff
  have dispatched :
      Run.dispatch setup.settings (setup.scripts room level)
        (.hubCommand nick command userClass inPm trigger) m =
          (.returned result, call.stop) :=
    Prod.ext returned rfl
  have hperform := Run.raise_hubCommand dispatched
  by_cases hblock : ∃ visit ∈ visits, visit.IsBlock
  · rw [if_pos (hverdict.mpr hblock)] at hperform
    refine ⟨visits, .block, call.stop, hperform, follows, ?_⟩
    constructor
    · simp [hblock]
    · intro _
      rfl
    · intro hopen
      exact absurd hblock hopen
    · intro hopen
      exact absurd hblock hopen
    · intro _
      rfl
    · exact ⟨[], .refl call.stop⟩
  · rw [if_neg (fun h => hblock (hverdict.mp h))] at hperform
    obtain ⟨verdict, last, hrun, concludes⟩ :=
      Run.administer_concludes setup.settings setup.notifier nick command
        userClass trigger call.stop
    refine ⟨visits, verdict, last, hperform.trans hrun, follows, ?_⟩
    constructor
    · rw [concludes.blocks]
      simp [hblock]
    · intro hclosed
      exact absurd hclosed hblock
    · intro _
      exact hrun
    · intro _ script enabled high toggles
      rw [concludes.toggles script enabled high toggles]
      exact (Run.perform_setFlag_state _ _ _ _ _).symm
    · rintro (hclosed | hother)
      · exact absurd hclosed hblock
      · exact concludes.keeps hother
    · exact concludes.notices

/-!
A guard whose handler disables another script whenever a hub command is given.
-/

namespace Guarded

/-- The script whose handler acts. -/
def guard : Spec Unit :=
  (Spec.named "guard").hook .hubCommand ()

/-- The script that it disables. -/
def ward : Spec Unit :=
  Spec.named "ward"

/-- What the handler does. -/
def behaviour : Behaviour Unit Unit Unit where
  onEvent := fun _ _ _ =>
    .call (.disable 2) fun _ =>
    .done .allow
  onRemoval := fun _ _ => .done ()

/-- The setup in which it runs. -/
def setup : Setup Unit Unit Unit where
  settings := {}
  notifier := .accepting
  behaviour := behaviour

/-- The host registers both scripts. -/
def host : Code Unit Unit Unit Unit :=
  .call (.register guard) fun _ =>
  .call (.register ward) fun _ =>
  .done ()

/-- The machine before the hub command. -/
def before : Machine Unit Unit Unit :=
  (setup.runAll 1 [host] (.fresh ())).2

/-- The dispatch of a hub command that enables the second script. -/
def call : DispatchCall setup where
  room := 1
  level := 0
  event := .hubCommand "op" "dispatcher Enable 2" 10 true "!"
  start := before

/-- The machine after the hub command. -/
def after : Machine Unit Unit Unit :=
  (Run.perform setup (setup.scripts 1 0)
    (EntryPoint.onHubCommand "op" "dispatcher Enable 2" 10 true "!") before).2

end Guarded

/--
The command enables the script that the handler has just disabled, as a call would
that is made after the dispatch.
-/
theorem hub_command_enables_what_handler_disabled :
    (∃ visits verdict,
      Guarded.call.Follows { invoked := [1] } visits ∧
        Guarded.call.Concludes "op" "dispatcher Enable 2" 10 "!" visits verdict
          Guarded.after) ∧
      (Guarded.call.stop.state.find? 2).map Registration.enabled =
        some false ∧
      (Guarded.after.state.find? 2).map Registration.enabled = some true := by
  have reached : Guarded.setup.Reaches Guarded.before := by
    unfold Guarded.before
    exact Setup.reaches_runAll _ _ _ _
  have returned : Guarded.call.flow = .returned { invoked := [1] } := by
    decide +kernel
  constructor
  · obtain ⟨visits, verdict, last, hrun, follows, concludes⟩ :=
      hub_command_is_dispatched_then_administered Guarded.setup 1 0
        Guarded.before "op" "dispatcher Enable 2" 10 true "!" reached
        { invoked := [1] } returned
    have hlast : Guarded.after = last := congrArg Prod.snd hrun
    refine ⟨visits, verdict, follows, ?_⟩
    rw [hlast]
    exact concludes
  · exact ⟨by decide +kernel, by decide +kernel⟩

end ScriptHub
