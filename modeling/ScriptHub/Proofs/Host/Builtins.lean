import ScriptHub.Host.Session
import ScriptHub.Proofs.Admin.HubCommand
import ScriptHub.Proofs.Run.Sparing
import ScriptHub.Proofs.Run.Toggles

/-!
# The built-in scripts at work

The machine of a session holds the chat logger and, if a word is left to filter, the
word filter.  Their handlers call nothing, so an event changes no registration and
sends no notice.  Only a hub command does either: it sets a flag at most, and answers
its caller.

**Results.**
* `Serves`: the registrations of a session, with the flag of the word filter.
* `Serves.raise`: what a session makes of an event.
* `Serves.raise_command`: what it makes of a hub command.
-/

namespace ScriptHub
namespace Host

open AdminCommand

section Deciding

/-- How a built-in handler ends on an event. -/
def outcome (builtin : Builtin) (event : Event) : Ending Verdict :=
  match builtin with
  | .chatLogger => .returned .allow
  | .wordFilter words =>
      if Builtin.offends words event then .returned .block
      else .returned .allow

/-- A built-in handler does nothing but decide. -/
theorem decides
    (settings : Settings)
    (builtin : Builtin)
    (event : Event) :
    (setupOf settings).Decides builtin event (outcome builtin event) where
  concludes := by
    intro level
    show (builtin.onEvent event).Concludes (outcome builtin event)
    cases builtin with
    | chatLogger =>
        simp only [Builtin.onEvent]
        split <;> rfl
    | wordFilter words =>
        simp only [Builtin.onEvent, outcome]
        split <;> rfl
  caught := by
    intro payload hpanic
    cases builtin with
    | chatLogger => exact absurd hpanic (by simp [outcome])
    | wordFilter words =>
        simp only [outcome] at hpanic
        split at hpanic <;> exact absurd hpanic (by simp)

theorem spares_handle
    (settings : Settings)
    (builtin : Builtin)
    (event : Event) :
    (((setupOf settings).scripts room 0).handle builtin event).Spares :=
  Code.spares_of_concludes _ ((decides settings builtin event).concludes 0)

end Deciding

section Registrations

/-- The registration of the chat logger. -/
def loggerOf (enabled : Bool) : Registration Builtin :=
  { id := 1
    spec := Builtin.chatLoggerSpec id
    priority := 200
    enabled := enabled }

/-- The registration of a word filter. -/
def filterOf (words : List (List Char)) (enabled : Bool) : Registration Builtin :=
  { id := 2
    spec := Builtin.wordFilterSpec id words
    priority := 50
    enabled := enabled }

/-- The registrations of a session, with the flags of its scripts. -/
def installed
    (words : List (List Char))
    (logging filtering : Bool) :
    List (Registration Builtin) :=
  loggerOf logging :: if words = [] then [] else [filterOf words filtering]

/--
A machine holds the built-in scripts for the words of a filter; the flag of the word
filter is as told.
-/
structure Serves
    (words : List (List Char))
    (filtering : Bool)
    (m : HostMachine) :
    Prop where
  sound : m.state.WellFormed
  live : ∃ logging, m.state.live = installed words logging filtering

/-- At the start of a session every script is enabled. -/
theorem serves_start
    (settings : Settings)
    (blockWords : List String) :
    Serves (Builtin.filterWords blockWords) true
      (machineWith settings blockWords) where
  sound := by
    have hfresh : (Machine.fresh () : HostMachine).state.WellFormed :=
      Dispatcher.wellFormed_empty
    have key :=
      (setupOf settings).spans_runHost room (Builtin.install id blockWords)
        (Machine.fresh ()) hfresh
    exact key.course.wellFormed hfresh
  live := by
    refine ⟨true, ?_⟩
    unfold machineWith Builtin.install Builtin.specs installed
    cases Builtin.filterWords blockWords with
    | nil => rfl
    | cons word rest => rfl

theorem handler?_chatLoggerSpec
    {kind : EventKind}
    {handler : Builtin}
    (h : (Builtin.chatLoggerSpec id).handler? kind = some handler) :
    handler = .chatLogger := by
  cases kind with
  | chat | privateMessage | userLogin | userLogout =>
      exact (Option.some.inj h).symm
  | _ => exact absurd (show none = some handler from h) (by simp)

theorem handler?_wordFilterSpec
    {words : List (List Char)}
    {kind : EventKind}
    {handler : Builtin}
    (h : (Builtin.wordFilterSpec id words).handler? kind = some handler) :
    handler = .wordFilter words := by
  cases kind with
  | chat | privateMessage => exact (Option.some.inj h).symm
  | _ => exact absurd (show none = some handler from h) (by simp)

/-- The word filter hears every event in which it can find a word. -/
theorem handler?_of_offends
    {words : List (List Char)}
    {event : Event}
    (h : Builtin.offends words event = true) :
    (Builtin.wordFilterSpec id words).handler? event.kind =
      some (.wordFilter words) := by
  cases event with
  | chat nick message => rfl
  | privateMessage nick message otherNick => rfl
  | _ => exact absurd h (by simp [Builtin.offends, Builtin.filteredText?])

variable {words : List (List Char)} {logging filtering : Bool}
variable {state : Dispatcher Builtin}

/-- Only the word filter vetoes, and only while it is enabled. -/
theorem vetoes_iff
    (hlive : state.live = installed words logging filtering)
    (event : Event) :
    state.Vetoes outcome event ↔
      filtering = true ∧ Builtin.offends words event = true := by
  unfold Dispatcher.Vetoes
  rw [hlive]
  constructor
  · rintro ⟨registration, hmem, henabled, handler, hhandler, hblock⟩
    rcases List.mem_cons.mp hmem with rfl | hfilter
    · rw [handler?_chatLoggerSpec hhandler] at hblock
      exact absurd hblock (by simp [outcome])
    · split_ifs at hfilter
      · exact absurd hfilter (by simp)
      · rw [List.mem_singleton] at hfilter
        subst hfilter
        rw [handler?_wordFilterSpec hhandler] at hblock
        refine ⟨henabled, ?_⟩
        by_contra hharmless
        rw [outcome, if_neg hharmless] at hblock
        exact absurd hblock (by simp)
  · rintro ⟨hfiltering, hoffends⟩
    have hwords : words ≠ [] := by
      rintro rfl
      exact absurd hoffends (by simp [Builtin.offends])
    refine
      ⟨filterOf words filtering, List.mem_cons_of_mem _ ?_, hfiltering, _,
        handler?_of_offends hoffends, ?_⟩
    · rw [if_neg hwords]
      exact List.mem_singleton_self _
    · rw [outcome, if_pos hoffends]

/-- What becomes of the registrations of a session when a flag is set. -/
theorem live_flagged
    (sound : state.WellFormed)
    (hlive : state.live = installed words logging filtering)
    (script : ScriptId)
    (enabled : Bool) :
    ∃ logging',
      (state.flagged script enabled).live =
        installed words logging'
          (if script = 2 then enabled else filtering) := by
  refine ⟨if script = 1 then enabled else logging, ?_⟩
  rw [sound.live_flagged, hlive]
  unfold installed loggerOf filterOf
  by_cases hfirst : script = 1
  · subst hfirst
    split_ifs <;> simp_all
  · by_cases hsecond : script = 2
    · subst hsecond
      split_ifs <;> simp_all
    · have hlogger : (1 == script) = false := by simpa using Ne.symm hfirst
      have hfilter : (2 == script) = false := by simpa using Ne.symm hsecond
      split_ifs <;> simp_all

end Registrations

section Raising

/-- The line that shows a notice to its recipient. -/
def noticeLine (notice : String × String) : Output :=
  .answer ("[pm -> " ++ notice.1 ++ "] " ++ notice.2)

theorem noticesOf_eq (m : HostMachine) :
    noticesOf m = (noticesIn m.trace).map noticeLine := by
  have hline :
      ∀ entry : Record Builtin Empty,
        noticeLine? entry = entry.notice?.map noticeLine := by
    intro entry
    cases entry <;> rfl
  unfold noticesOf noticesIn Machine.history
  rw [List.filterMap_reverse, List.map_reverse, List.map_filterMap]
  simp only [hline]

/-- The machine on which an event is raised. -/
def cleared (m : HostMachine) : HostMachine :=
  { m with trace := [] }

/-- What a session prints for an event is what was noticed since. -/
theorem noticesOf_of_notifies
    {m last : HostMachine}
    {notices : List (String × String)}
    (h : (cleared m).Notifies last notices) :
    noticesOf last = notices.map noticeLine := by
  obtain ⟨news, hnews, rfl⟩ := h.trace
  rw [noticesOf_eq, hnews]
  simp [cleared]

variable (settings : Settings) {event : Event} {m last : HostMachine}

/-- An event that is answered by a verdict is recorded, and nothing else is done. -/
theorem raiseOn_of_raise
    {verdict : Verdict}
    (h :
      Run.raise (setupOf settings) ((setupOf settings).scripts room 0) event
        (cleared m) =
          (.returned verdict, last)) :
    raiseOn settings event m =
      (.returned (.ok verdict), last.emit (.answered (.raise event) verdict)) := by
  unfold cleared at h
  simp only [raiseOn, Setup.runHost, Code.ask, Code.done, Code.run, Run.answer,
    Run.perform, bind, Run.andThen, Run.observe, h]
  rfl

/-- Raising an event keeps the dispatcher of a session well-formed. -/
theorem wellFormed_raiseOn
    (event : Event)
    (sound : m.state.WellFormed) :
    (raiseOn settings event m).2.state.WellFormed := by
  have hcleared : (cleared m).state.WellFormed := sound
  have key :=
    (setupOf settings).spans_runHost room
      (Code.ask (Call.raise event) : HostCode Verdict) (cleared m) hcleared
  exact key.course.wellFormed hcleared

variable {words : List (List Char)} {filtering : Bool}

/-- The handlers of a session are dispatched to, and the word filter alone can block. -/
theorem Serves.dispatch
    (h : Serves words filtering m)
    (event : Event) :
    ∃ result stop,
      Run.dispatch settings ((setupOf settings).scripts room 0) event
          (cleared m) =
          (.returned result, stop) ∧
        (cleared m).Spares stop ∧
        stop.state.WellFormed ∧
        (result.verdict = .block ↔
          filtering = true ∧ Builtin.offends words event = true) := by
  let call : DispatchCall (setupOf settings) := ⟨room, 0, event, cleared m⟩
  obtain ⟨logging, hlive⟩ := h.live
  have decided : call.IsDecided outcome :=
    fun _ _ handler _ => decides settings handler event
  obtain ⟨result, hflow, htells⟩ := decided.returns h.sound Nat.one_pos
  refine ⟨result, call.stop, Prod.ext hflow rfl, ?_, ?_, ?_⟩
  · exact Run.spares_dispatch (spares_handle settings · event) (cleared m)
  · have key :=
      Run.spans_dispatch ((setupOf settings).spans_scripts room 0) event
        (cleared m) h.sound
    exact key.course.wellFormed h.sound
  · rw [htells.verdict_iff, ← Dispatcher.vetoes_iff]
    exact vetoes_iff hlive event

/-- **What a session makes of an event** that is no hub command. -/
theorem Serves.raise
    (h : Serves words filtering m)
    (other :
      ∀ nick command userClass inPm trigger,
        event ≠ .hubCommand nick command userClass inPm trigger) :
    ∃ verdict after,
      raiseOn settings event m = (.returned (.ok verdict), after) ∧
        Serves words filtering after ∧
        noticesOf after = [] ∧
        (verdict = .block ↔
          filtering = true ∧ Builtin.offends words event = true) := by
  obtain ⟨result, stop, hdispatch, spares, _, hverdict⟩ :=
    h.dispatch settings event
  have hraise :
      Run.raise (setupOf settings) ((setupOf settings).scripts room 0) event
        (cleared m) =
          (.returned result.verdict, stop) := by
    refine Run.raise_of_dispatched ?_ hdispatch
    cases event with
    | hubCommand nick command userClass inPm trigger =>
        exact absurd rfl (other nick command userClass inPm trigger)
    | _ => simp [Event.kind]
  have hrun := raiseOn_of_raise settings hraise
  have hsound := wellFormed_raiseOn settings event h.sound
  rw [hrun] at hsound
  refine ⟨result.verdict, _, hrun, ⟨hsound, ?_⟩, ?_, hverdict⟩
  · obtain ⟨logging, hlive⟩ := h.live
    exact ⟨logging, spares.live.trans hlive⟩
  · exact noticesOf_of_notifies (spares.silent.emit rfl)

/-- **What a session makes of a hub command.** -/
theorem Serves.raise_command
    (h : Serves words filtering m)
    (nick command : String)
    (userClass : Int32) :
    ∃ verdict after, ∃ texts : List String,
      raiseOn settings (.hubCommand nick command userClass true "!") m =
          (.returned (.ok verdict), after) ∧
        noticesOf after = (texts.map fun text => noticeLine (nick, text)) ∧
        (verdict = .block ↔ Addressed command settings.adminWord) ∧
        (∀ enabled,
          ¬ userClass < settings.adminClass →
          Toggles command settings.adminWord 2 enabled →
          Serves words enabled after) ∧
        ((userClass < settings.adminClass ∨
            ∀ enabled, ¬ Toggles command settings.adminWord 2 enabled) →
          Serves words filtering after) := by
  let event : Event := .hubCommand nick command userClass true "!"
  obtain ⟨result, stop, hdispatch, spares, sound, hverdict⟩ :=
    h.dispatch settings event
  have hopen : result.verdict ≠ .block := by
    rw [Ne, hverdict]
    simp [event, Builtin.offends, Builtin.filteredText?]
  obtain ⟨verdict, last, hadminister, concludes⟩ :=
    Run.administer_concludes settings .accepting nick command userClass "!" stop
  have hraise :
      Run.raise (setupOf settings) ((setupOf settings).scripts room 0) event
        (cleared m) =
          (.returned verdict, last) := by
    have hown :
        Run.dispatch (setupOf settings).settings
            ((setupOf settings).scripts room 0) event (cleared m) =
          (.returned result, stop) :=
      hdispatch
    have key := Run.raise_hubCommand hown
    rw [if_neg hopen] at key
    exact key.trans hadminister
  have hrun := raiseOn_of_raise settings hraise
  have hsound := wellFormed_raiseOn settings event h.sound
  rw [hrun] at hsound
  obtain ⟨texts, hnotices⟩ := concludes.notices
  obtain ⟨logging, hlive⟩ := h.live
  have hstop : stop.state.live = installed words logging filtering :=
    spares.live.trans hlive
  refine ⟨verdict, _, texts, hrun, ?_, concludes.blocks, ?_, ?_⟩
  · have hall := spares.silent.trans hnotices
    rw [List.nil_append] at hall
    rw [noticesOf_of_notifies (hall.emit rfl), List.map_map]
    rfl
  · intro enabled high toggles
    obtain ⟨logging', hflagged⟩ := live_flagged sound hstop 2 enabled
    refine ⟨hsound, logging', ?_⟩
    show last.state.live = _
    rw [concludes.toggles 2 enabled high toggles, hflagged, if_pos rfl]
  · intro hkeep
    refine ⟨hsound, ?_⟩
    show ∃ logging', last.state.live = _
    by_cases hidle :
        userClass < settings.adminClass ∨
          ∀ script enabled, ¬ Toggles command settings.adminWord script enabled
    · rw [concludes.keeps hidle]
      exact ⟨logging, hstop⟩
    · -- The flag of another script is set.
      simp only [not_or, not_forall, not_not] at hidle
      obtain ⟨high, script, enabled, toggles⟩ := hidle
      have hother : script ≠ 2 := by
        rintro rfl
        rcases hkeep with low | hnone
        · exact absurd low high
        · exact hnone enabled toggles
      obtain ⟨logging', hflagged⟩ := live_flagged sound hstop script enabled
      rw [if_neg hother] at hflagged
      rw [concludes.toggles script enabled high toggles]
      exact ⟨logging', hflagged⟩

end Raising
end Host
end ScriptHub
