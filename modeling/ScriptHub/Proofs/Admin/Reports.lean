import ScriptHub.Proofs.Admin.Commands
import ScriptHub.Proofs.Run.CallHistory
import ScriptHub.Proofs.Run.Lifeline
import ScriptHub.Proofs.Run.Toggles

/-!
# The reports of the administrative surface

One command lists the live registrations and one shows the counters.  The list is taken
from the registrations themselves and the counters are kept apart, so it takes the
history of a run to see that the two agree.

**Results.**
* `Run.administer_of_report`: a command that only reports tells its texts and changes
  nothing.
* `Registration.shownAs_listLine`: what a line of the list shows.
* `Dispatcher.Called.callLines_stats`: the lines of calls.
* `reports_agree_with_state`: both reports in every machine that a run can come to.
-/

namespace ScriptHub

variable {P W N : Type}

section Lines

/-- A line that shows its registration as enabled, or as disabled. -/
def SaysFlag (enabled : Bool) (line : String) : Prop :=
  (if enabled then "  [on]" else "  [off]").toList <+: line.toList

instance (enabled : Bool) (line : String) : Decidable (SaysFlag enabled line) :=
  inferInstanceAs (Decidable (_ <+: _))

/--
A line shows the flag, the id, the name, the number of distinct declared kinds and the
priority of a registration.
-/
def Registration.ShownAs (registration : Registration P) (line : String) : Prop :=
  ∃ kinds : List EventKind,
    kinds.Nodup ∧
      (∀ kind, kind ∈ kinds ↔ (registration.spec.handler? kind).isSome) ∧
      line =
        "  [" ++ (if registration.enabled then "on" else "off") ++ "] ID=" ++
          toString registration.id ++ ": " ++ registration.spec.name ++ " (" ++
          toString kinds.length ++ " hooks, priority=" ++
          toString registration.priority ++ ")"

/-- **A line of the list shows its registration.** -/
theorem Registration.shownAs_listLine (registration : Registration P) :
    registration.ShownAs (AdminReport.listLine registration.info) := by
  refine ⟨registration.spec.kinds, ?_, fun _ => Spec.mem_kinds, rfl⟩
  have hall : EventKind.all.Nodup := by decide
  exact hall.filter _

/-- A line of the list says the flag of its registration, and not the other one. -/
theorem saysFlag_listLine_iff
    (registration : Registration P)
    (enabled : Bool) :
    SaysFlag enabled (AdminReport.listLine registration.info) ↔
      registration.enabled = enabled := by
  unfold SaysFlag AdminReport.listLine
  simp only [String.toList_append, List.append_assoc]
  cases h : registration.enabled <;> cases enabled <;>
    simp [Registration.info, h]

/-- One line for each kind of which there were calls, in the order of declaration. -/
def callLines (attempted failed : EventKind → Nat) : List String :=
  (EventKind.all.filter fun kind => 0 < attempted kind).map fun kind =>
    "    " ++ kind.name ++ ": " ++ toString (attempted kind) ++ " calls (" ++
      toString (failed kind) ++ " failed)"

/-- The lines of calls tell the numbers of the history, as far as words hold them. -/
theorem Dispatcher.Called.callLines_stats
    {state : Dispatcher P}
    {trace : List (Moment P N)}
    (h : state.Called trace) :
    state.stats.calls.map AdminReport.callsLine =
      callLines
        (fun kind => dispatchesIn kind trace % UInt64.size)
        (fun kind => failuresIn kind trace % UInt64.size) := by
  have hline :
      ∀ kind : EventKind,
        AdminReport.callsLine (kind, state.tally.calls.get kind) =
          "    " ++ kind.name ++ ": " ++
            toString (dispatchesIn kind trace % UInt64.size) ++ " calls (" ++
            toString (failuresIn kind trace % UInt64.size) ++ " failed)" := by
    intro kind
    rw [h kind]
    rfl
  have hshown :
      ∀ kind : EventKind,
        (0 < (state.tally.calls.get kind).attempted ↔
          0 < dispatchesIn kind trace % UInt64.size) := by
    intro kind
    rw [h kind]
    exact UInt64.lt_iff_toNat_lt
  have hcalls :
      state.stats.calls =
        (EventKind.all.filter fun kind => 0 < dispatchesIn kind trace % UInt64.size).map
          fun kind => (kind, state.tally.calls.get kind) := by
    unfold Dispatcher.stats Tally.snapshot PerKind.toList
    rw [List.filter_map]
    refine congrArg (List.map _) (List.filter_congr ?_)
    intro kind _
    exact decide_eq_decide.mpr (hshown kind)
  rw [hcalls, List.map_map]
  exact List.map_congr_left fun kind _ => hline kind

end Lines

section Answers

namespace AdminCommand

/--
A text asks for a report: it starts with the command word, and the word behind it names
the subcommand in any letter case.
-/
def Asks (text word subcommand : String) : Prop :=
  ∃ second rest,
    Text.words text.toList = word.toList :: second :: rest ∧
      Text.lower second = subcommand.toList

variable {text word name : String} {command : AdminCommand}

theorem parse_of_asks
    (hplain : (name, command) ∈ plainCommands)
    (h : Asks text word name) :
    parse text word = .ok (some command) := by
  obtain ⟨second, rest, hwords, hname⟩ := h
  exact parse_of_understood hwords (.plain hplain hname)

theorem addressed_of_asks (h : Asks text word name) : Addressed text word := by
  obtain ⟨second, rest, hwords, _⟩ := h
  rw [addressed_iff, hwords]
  rfl

end AdminCommand

/-- The surface blocks a text and tells its caller some texts; nothing else changes. -/
def Setup.Tells
    (setup : Setup P W N)
    (m : Machine P W N)
    (nick text : String)
    (userClass : Int32)
    (trigger : String)
    (texts : List String) :
    Prop :=
  ∃ after,
    Run.administer setup.settings setup.notifier nick text userClass trigger m =
        (.returned .block, after) ∧
      m.Told after nick texts

open AdminCommand in
/-- **A command that only reports** tells its texts and changes nothing. -/
theorem Setup.tells_of_asks
    {setup : Setup P W N}
    {m : Machine P W N}
    {nick text : String}
    {userClass : Int32}
    {trigger : String}
    {name : String}
    {command : AdminCommand}
    {texts : List String}
    (high : ¬ userClass < setup.settings.adminClass)
    (hplain : (name, command) ∈ plainCommands)
    (hasks : Asks text setup.settings.adminWord name)
    (hexecute :
      ∀ running : Machine P W N,
        running.state = m.state →
        Run.execute setup.settings.adminWord trigger command running =
          (.returned texts, running)) :
    setup.Tells m nick text userClass trigger texts := by
  let running := m.emit (.log (.commandRunning nick command))
  have logged := m.told_log nick (.commandRunning nick command)
  obtain ⟨after, hsend, told⟩ := Run.sendAll_tells setup.notifier nick running texts
  refine ⟨after, ?_, logged.trans told⟩
  rw [Run.administer_of_addressed _ _ _ _ _ _ _ (addressed_of_asks hasks),
    parse_of_asks hplain hasks]
  simp only [Run.reply, high, if_false, bind, Run.andThen]
  show
    ((do
      let texts ← Run.execute setup.settings.adminWord trigger command
      Run.sendAll setup.notifier nick texts : Run P W N Unit) >>=
        fun _ => (pure .block : Run P W N Verdict)) running = _
  simp only [bind, Run.andThen, hexecute running rfl, hsend]
  rfl

end Answers

section Reachable

variable {setup : Setup P W N} {m : Machine P W N}

/-- The counters of calls are right wherever a run can come to. -/
theorem Setup.Reaches.callsCounted (h : setup.Reaches m) : m.CallsCounted := by
  induction h with
  | fresh store => exact Machine.callsCounted_fresh store
  | step _ once ih => exact once.callsCounted ih
  | began _ event ih => exact ih.attempted event
  | reported _ event result ih => exact ih.emit _ rfl rfl

/-- No more registrations are live than were made. -/
theorem Setup.Reaches.count_le (h : setup.Reaches m) :
    m.state.count ≤ registrationsIn m.trace := by
  have hnodup : m.state.ids.Nodup :=
    (List.pairwise_map.mpr h.wellFormed.ascending).imp Nat.ne_of_lt
  have hissued : m.state.ids ⊆ m.issued := by
    intro script hscript
    obtain ⟨registration, hmem, rfl⟩ := List.mem_map.mp hscript
    cases h.lives registration.id with
    | lived hissued => exact hissued
    | unborn _ now _ =>
        rw [Dispatcher.terms?_eq_none, h.wellFormed.find?_of_mem hmem] at now
        exact absurd now (by simp)
  have hlength := (List.subperm_of_subset hnodup hissued).length_le
  rw [h.numbered.issued, List.length_range'] at hlength
  simpa [Dispatcher.ids, Dispatcher.count] using hlength

end Reachable

section Agreement

open AdminCommand (Asks)

/-- The lines of a list count the flags of the live registrations. -/
theorem countP_saysFlag (live : List (Registration P)) (enabled : Bool) :
    ((live.map fun registration =>
        AdminReport.listLine registration.info).countP fun line => SaysFlag enabled line) =
      live.countP fun registration => registration.enabled == enabled := by
  rw [List.countP_map]
  apply List.countP_congr
  intro registration _
  simp [saysFlag_listLine_iff]

/--
**The administrative reports agree with the state and with each other.**

Take any machine that a run can come to with fewer registrations than can be numbered,
and a caller of sufficient class.  There are as many lines as live registrations, each
showing one of them in strictly ascending order of ids, so that the list is sent as a
header with their number and these lines.  The counters are sent as all registrations
that were made, which are no fewer, as many active and disabled ones as the list has
lines that say so, and the lines of calls: one for each kind that was dispatched, in the
order of declaration, with the numbers of its dispatches and of the handlers that failed
under it.  The numbers of calls are words, which hold them as long as they are below
2^64.  Neither command changes anything, whether or not the other one was given before.
-/
theorem reports_agree_with_state
    (setup : Setup P W N)
    (m : Machine P W N)
    (reached : setup.Reaches m)
    (few : registrationsIn m.trace < UInt64.size - 1)
    (nick : String)
    (userClass : Int32)
    (trigger : String)
    (high : ¬ userClass < setup.settings.adminClass) :
    ∃ lines calls : List String,
      (∀ (text : String) (handling : Machine P W N),
        Asks text setup.settings.adminWord "list" →
        handling.state = m.state →
        setup.Tells handling nick text userClass trigger
          (("Registered Scripts (" ++ toString m.state.live.length ++ "):") :: lines)) ∧
      (∀ (text : String) (handling : Machine P W N),
        Asks text setup.settings.adminWord "stats" →
        handling.state = m.state →
        setup.Tells handling nick text userClass trigger
          ("Dispatcher Statistics:" ::
            ("  Total scripts: " ++ toString (registrationsIn m.trace)) ::
            ("  Active scripts: " ++
              toString (lines.countP fun line => SaysFlag true line)) ::
            ("  Disabled scripts: " ++
              toString (lines.countP fun line => SaysFlag false line)) ::
            "  Hook calls:" :: calls)) ∧
      List.Forall₂ Registration.ShownAs m.state.live lines ∧
      lines.length = m.state.live.length ∧
      (m.state.live.Pairwise fun a b => a.id < b.id) ∧
      m.state.live.length ≤ registrationsIn m.trace ∧
      calls =
        callLines
          (fun kind => dispatchesIn kind m.trace % UInt64.size)
          (fun kind => failuresIn kind m.trace % UInt64.size) ∧
      ((∀ kind, dispatchesIn kind m.trace < UInt64.size) →
        (∀ kind, failuresIn kind m.trace < UInt64.size) →
        calls =
          callLines
            (fun kind => dispatchesIn kind m.trace)
            (fun kind => failuresIn kind m.trace)) := by
  have sound := reached.wellFormed
  have agree := reached.tallied.now.countersAgree sound few
  have called := reached.callsCounted.now.callLines_stats
  let lines := m.state.live.map fun registration => AdminReport.listLine registration.info
  have hlist :
      AdminReport.list m.state.list =
        ("Registered Scripts (" ++ toString m.state.live.length ++ "):") :: lines := by
    unfold AdminReport.list Dispatcher.list
    rw [List.length_map, List.map_map]
    rfl
  have hactive :
      m.state.tally.active.toNat = lines.countP fun line => SaysFlag true line := by
    rw [countP_saysFlag, agree.active]
    simp
  have hdisabled :
      m.state.tally.disabled.toNat = lines.countP fun line => SaysFlag false line := by
    rw [countP_saysFlag, agree.disabled]
    simp
  refine ⟨lines, _, ?_, ?_, ?_, List.length_map _, sound.ascending, reached.count_le,
    rfl, ?_⟩
  · intro text handling hasks hstate
    have hplain : ("list", AdminCommand.list) ∈ AdminCommand.plainCommands := by
      simp [AdminCommand.plainCommands]
    refine Setup.tells_of_asks high hplain hasks ?_
    intro running hrunning
    rw [← hlist, ← hstate, ← hrunning]
    rfl
  · intro text handling hasks hstate
    have hplain : ("stats", AdminCommand.stats) ∈ AdminCommand.plainCommands := by
      simp [AdminCommand.plainCommands]
    refine Setup.tells_of_asks high hplain hasks ?_
    intro running hrunning
    rw [← agree.total, ← hactive, ← hdisabled, ← called, ← hstate, ← hrunning]
    rfl
  · exact List.forall₂_map_right_iff.mpr
      (List.forall₂_same.mpr fun registration _ => registration.shownAs_listLine)
  · intro fewDispatches fewFailures
    simp only [Nat.mod_eq_of_lt (fewDispatches _), Nat.mod_eq_of_lt (fewFailures _)]

/--
Three registrations were made and two are live; one event was dispatched, and one of the
subcommands is asked for in capitals.
-/
theorem reports_of_restless_scripts :
    Restless.setup.Reaches Restless.last ∧
      registrationsIn Restless.last.trace < UInt64.size - 1 ∧
      ∃ lines : List String,
        Restless.setup.Tells Restless.last "op" "dispatcher LIST" 10 "!"
            ("Registered Scripts (2):" :: lines) ∧
          lines.length = 2 ∧
          Restless.setup.Tells Restless.last "op" " dispatcher stats now" 10 "!"
            ["Dispatcher Statistics:", "  Total scripts: 3",
              "  Active scripts: " ++
                toString (lines.countP fun line => SaysFlag true line),
              "  Disabled scripts: " ++
                toString (lines.countP fun line => SaysFlag false line),
              "  Hook calls:", "    OnTimer: 1 calls (0 failed)"] := by
  have reached : Restless.setup.Reaches Restless.last := by
    unfold Restless.last
    exact Setup.reaches_runAll _ _ _ _
  have few : registrationsIn Restless.last.trace < UInt64.size - 1 := by
    decide +kernel
  have hlive : Restless.last.state.live.length = 2 := by decide +kernel
  have hmade : registrationsIn Restless.last.trace = 3 := by decide +kernel
  have hcalls :
      callLines
          (fun kind => dispatchesIn kind Restless.last.trace % UInt64.size)
          (fun kind => failuresIn kind Restless.last.trace % UInt64.size) =
        ["    OnTimer: 1 calls (0 failed)"] := by
    decide +kernel
  have hasks :
      Asks "dispatcher LIST" Restless.setup.settings.adminWord "list" ∧
        Asks " dispatcher stats now" Restless.setup.settings.adminWord "stats" :=
    ⟨⟨"LIST".toList, [], by decide +kernel, by decide +kernel⟩,
      ⟨"stats".toList, ["now".toList], by decide +kernel, by decide +kernel⟩⟩
  obtain ⟨lines, calls, hlist, hstats, _, hlength, _, _, hlines, _⟩ :=
    reports_agree_with_state Restless.setup Restless.last reached few "op" 10 "!"
      (by decide)
  rw [hcalls] at hlines
  subst hlines
  have hlisted := hlist _ Restless.last hasks.1 rfl
  have hcounted := hstats _ Restless.last hasks.2 rfl
  rw [hlive] at hlisted
  rw [hmade] at hcounted
  exact ⟨reached, few, lines, hlisted, hlength.trans hlive, hcounted⟩

end Agreement
end ScriptHub
