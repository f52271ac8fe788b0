import ScriptHub.Proofs.Admin.HubCommand
import ScriptHub.Proofs.Run.Inertness
import ScriptHub.Proofs.Run.Toggles

/-!
# Registrations that leave no trace

A registration is put in the middle of several chains and may create some of them; the
counter that it moves at its removal is that of the flag it has by then.  If nothing
but toggles of its own and inert dispatches happen while it lasts, its removal gives
back the registrations, the hook table and the counters of flags.

**Results.**
* `Dispatcher.Hosts`: a dispatcher to which one registration was added.
* `Setup.hosts_afterCalls`: it stays that way under toggles and inert dispatches.
* `Dispatcher.Hosts.undone`: removing the registration gives back the rest.
* `unregistering_undoes_registering`: all this of the calls that user code makes.
-/

namespace ScriptHub

variable {P W N : Type}

namespace Dispatcher

variable {before after : Dispatcher P} {guest : Registration P}

/-- The registrations settle the hook table. -/
theorem WellFormed.table_eq_of_live
    (h : before.WellFormed)
    (hafter : after.WellFormed)
    (live : after.live = before.live) :
    after.table = before.table := by
  have hentries : after.table.entries = before.table.entries := by
    ext1 kind
    rw [h.charted kind, hafter.charted kind, declared, declared, live]
  cases hbefore : before.table with
  | mk entries =>
      cases hlast : after.table with
      | mk others =>
          rw [hbefore, hlast] at hentries
          exact congrArg HookTable.mk hentries

/--
A dispatcher differs from an earlier one by a registration that was added, and perhaps
by the counters of calls.
-/
structure Hosts
    (before : Dispatcher P)
    (guest : Registration P)
    (after : Dispatcher P) :
    Prop where
  id : guest.id = before.nextId
  live : after.live = before.live ++ [guest]
  nextId : after.nextId = before.nextId + 1
  total : after.tally.total = before.tally.total + 1
  counter :
    ∀ flag,
      after.tally.counter flag =
        before.tally.counter flag + if flag = guest.enabled then 1 else 0
  sound : after.WellFormed

theorem WellFormed.hosts_enrolled
    (h : before.WellFormed)
    (spec : Spec P)
    (priority : Int32) :
    before.Hosts
      { id := before.nextId, spec := spec, priority := priority
        enabled := spec.autoEnable }
      ((before.enrolled spec priority).retally fun tally =>
        tally.registered spec.autoEnable) where
  id := rfl
  live := rfl
  nextId := rfl
  total := Tally.total_registered _ _
  counter := by
    intro flag
    exact Tally.counter_registered _ _ _
  sound := (h.enrolled spec priority).retally _

theorem Hosts.find?_guest (h : before.Hosts guest after) :
    after.find? guest.id = some guest := by
  apply h.sound.find?_of_mem
  rw [h.live]
  simp

/-- Counting calls leaves the guest and the others alone. -/
theorem Hosts.charged
    (h : before.Hosts guest after)
    (kind : EventKind)
    (attempts failures : Nat) :
    before.Hosts guest (after.charged kind attempts failures) :=
  ⟨h.id, h.live, h.nextId, h.total, h.counter, h.sound.retally _⟩

/-- The ids of the others are older than that of the guest. -/
theorem Hosts.ne_guest
    (h : before.Hosts guest after)
    (hwf : before.WellFormed)
    {registration : Registration P}
    (hmem : registration ∈ before.live) :
    registration.id ≠ guest.id := by
  rw [h.id]
  exact Nat.ne_of_lt (hwf.issued registration hmem)

/-- Setting the flag of the guest leaves the others alone. -/
theorem Hosts.live_flagged
    (h : before.Hosts guest after)
    (hwf : before.WellFormed)
    (flag : Bool) :
    (after.flagged guest.id flag).live =
      before.live ++ [{ guest with enabled := flag }] := by
  rw [h.sound.live_flagged, h.live, List.map_append]
  congr 1
  · apply map_eq_self
    intro registration hmem
    simp [h.ne_guest hwf hmem]
  · simp

/-- Setting the flag of the guest counts it under its new flag. -/
theorem Hosts.flagged
    (h : before.Hosts guest after)
    (hwf : before.WellFormed)
    (flag : Bool) :
    before.Hosts { guest with enabled := flag }
      (after.flagged guest.id flag) := by
  have hfind := h.find?_guest
  have hlive := h.live_flagged hwf flag
  have hsound := h.sound.flagged guest.id flag
  by_cases hsame : guest.enabled = flag
  · rw [flagged_of_same hfind hsame, ← hsame]
    exact h
  · rw [flagged_of_change hfind hsame] at hlive hsound ⊢
    refine ⟨h.id, hlive, h.nextId, ?_, ?_, hsound⟩
    · exact (Tally.total_toggled _ _).trans h.total
    · intro other
      show
        (after.tally.toggled flag).counter other = _
      rw [Tally.counter_toggled, h.counter]
      by_cases hother : other = flag
      · subst hother
        simp [Ne.symm hsame]
      · have hold : other = guest.enabled := by
          rw [Bool.eq_not_of_ne hother, Bool.eq_not_of_ne hsame]
        rw [if_neg hother, if_pos hold, if_neg hother]
        simp

/-- A dispatcher is as it was, but one more registration was made meanwhile. -/
structure Undone (before after : Dispatcher P) : Prop where
  live : after.live = before.live
  table : after.table = before.table
  active : after.tally.active = before.tally.active
  disabled : after.tally.disabled = before.tally.disabled
  nextId : after.nextId = before.nextId + 1
  total : after.tally.total = before.tally.total + 1

/-- Removing the guest gives back what was there before it. -/
theorem Hosts.undone
    (h : before.Hosts guest after)
    (hwf : before.WellFormed) :
    before.Undone
      ((after.withdrawn guest.id).retally fun tally =>
        tally.unregistered guest.enabled) := by
  have hlive : (after.withdrawn guest.id).live = before.live := by
    show
      after.live.filter _ = _
    rw [h.live, List.filter_append, List.filter_eq_self.mpr]
    · simp
    · intro registration hmem
      simpa using h.ne_guest hwf hmem
  have hcounter :
      ∀ flag,
        (after.tally.unregistered guest.enabled).counter flag =
          before.tally.counter flag := by
    intro flag
    rw [Tally.counter_unregistered, h.counter]
    simp
  constructor
  · exact hlive
  · exact hwf.table_eq_of_live ((h.sound.withdrawn guest.id).retally _) hlive
  · exact hcounter true
  · exact hcounter false
  · exact h.nextId
  · exact (Tally.total_unregistered _ _).trans h.total

end Dispatcher

section Calls

/-- The event that a call dispatches, if it does nothing else. -/
def Call.dispatched? : Call P → Option Event
  | .dispatch event => some event
  | .raise event => if event.kind = .hubCommand then none else some event
  | _ => none

/-- A call sets the flag of a script, or is a dispatch. -/
inductive Call.Concerns (script : ScriptId) : Call P → Prop
  | setFlag
      (enabled : Bool) :
      Call.Concerns script (Call.setFlag script enabled)
  | dispatch
      {call : Call P}
      {event : Event}
      (h : call.dispatched? = some event) :
      Call.Concerns script call

namespace Setup

variable (setup : Setup P W N) (room level : Nat)

/-- The machine once some calls of user code were made, however each of them ended. -/
def afterCalls : List (Call P) → Machine P W N → Machine P W N
  | [], m => m
  | call :: rest, m =>
      afterCalls rest (Run.answer setup (setup.scripts room level) call m).2

/-- The dispatches that are made by some calls. -/
def dispatchesAmong :
    List (Call P) → Machine P W N → List (DispatchCall setup)
  | [], _ => []
  | call :: rest, m =>
      let others :=
        dispatchesAmong rest
          (Run.answer setup (setup.scripts room level) call m).2
      match call.dispatched? with
      | some event => ⟨room, level, event, m⟩ :: others
      | none => others

end Setup

variable {setup : Setup P W N} {room level : Nat}

/-- How many of the listed dispatches are of a kind. -/
def attemptsOf
    (kind : EventKind)
    (calls : List (DispatchCall setup)) :
    Nat :=
  calls.countP fun call => call.event.kind = kind

theorem attemptsOf_append
    (kind : EventKind)
    (calls others : List (DispatchCall setup)) :
    attemptsOf kind (calls ++ others) =
      attemptsOf kind calls + attemptsOf kind others :=
  List.countP_append

/-- The counters of calls differ by the listed dispatches and what they count. -/
def Dispatcher.Carries
    (calls : List (DispatchCall setup))
    (before after : Dispatcher P) :
    Prop :=
  ∀ kind,
    after.tally.calls.get kind =
      ⟨(before.tally.calls.get kind).attempted +
          UInt64.ofNat (attemptsOf kind calls),
        (before.tally.calls.get kind).failed +
          UInt64.ofNat (failuresOf kind calls)⟩

theorem Dispatcher.Carries.of_same
    {before after : Dispatcher P}
    (h : after.tally.calls = before.tally.calls) :
    before.Carries ([] : List (DispatchCall setup)) after := by
  intro kind
  rw [h]
  simp [attemptsOf, failuresOf]

theorem Dispatcher.Carries.trans
    {a b c : Dispatcher P}
    {calls others : List (DispatchCall setup)}
    (first : a.Carries calls b)
    (second : b.Carries others c) :
    a.Carries (calls ++ others) c := by
  intro kind
  rw [second kind, first kind, failuresOf_append, attemptsOf_append]
  simp [UInt64.add_assoc]

theorem DispatchCall.carries_of_inert
    (call : DispatchCall setup)
    (inert : call.IsInert) :
    call.start.state.Carries [call] call.stop.state := by
  intro kind
  rw [call.stop_state_of_inert inert]
  by_cases hkind : kind = call.event.kind
  · subst hkind
    refine (Tally.get_charged_self _ _ _ _).trans ?_
    simp [attemptsOf, failuresOf]
  · refine (Tally.get_charged_of_ne _ _ hkind _ _).trans ?_
    simp [attemptsOf, failuresOf, Ne.symm hkind]

/-- A call ends as it was performed, and leaves the state that this led to. -/
theorem Run.answer_ends
    (setup : Setup P W N)
    (scripts : Scripts P W N)
    (call : Call P)
    (m : Machine P W N) :
    (answer setup scripts call m).1 = (perform setup scripts call m).1 ∧
      (answer setup scripts call m).2.state =
        (perform setup scripts call m).2.state := by
  unfold answer
  rw [bind_apply]
  unfold andThen observe
  generalize perform setup scripts call m = ending
  obtain ⟨flow, after⟩ := ending
  cases flow <;> exact ⟨rfl, rfl⟩

/-- A call that only dispatches an event leaves the machine as the dispatch does. -/
theorem Run.perform_of_dispatched
    (setup : Setup P W N)
    (scripts : Scripts P W N)
    {call : Call P}
    {event : Event}
    (h : call.dispatched? = some event)
    (m : Machine P W N) :
    (perform setup scripts call m).2 =
      (Run.dispatch setup.settings scripts event m).2 := by
  cases call with
  | dispatch other =>
      obtain rfl := Option.some.inj h
      rfl
  | raise other =>
      by_cases hother : other.kind = .hubCommand
      · exact absurd h (by simp [Call.dispatched?, hother])
      · obtain rfl := Option.some.inj ((if_neg hother).symm.trans h)
        show (raise setup scripts other m).2 = _
        rw [raise_of_other setup scripts hother, bind_pure_snd]
  | _ => exact absurd h (by simp [Call.dispatched?])

theorem Setup.dispatchesAmong_setFlag
    (script : ScriptId)
    (enabled : Bool)
    (rest : List (Call P))
    (m : Machine P W N) :
    setup.dispatchesAmong room level (Call.setFlag script enabled :: rest) m =
      setup.dispatchesAmong room level rest
        (Run.answer setup (setup.scripts room level)
          (Call.setFlag script enabled) m).2 := by
  cases enabled <;> rfl

theorem Setup.dispatchesAmong_of_dispatched
    {call : Call P}
    {event : Event}
    (h : call.dispatched? = some event)
    (rest : List (Call P))
    (m : Machine P W N) :
    setup.dispatchesAmong room level (call :: rest) m =
      ⟨room, level, event, m⟩ ::
        setup.dispatchesAmong room level rest
          (Run.answer setup (setup.scripts room level) call m).2 := by
  simp only [dispatchesAmong, h]

/--
Toggles of its own and inert dispatches leave a registration, and all the others,
where they are.
-/
theorem Setup.hosts_afterCalls
    {before : Dispatcher P}
    (hwf : before.WellFormed)
    (calls : List (Call P))
    {guest : Registration P}
    {m : Machine P W N}
    (hosts : before.Hosts guest m.state)
    (concerns : ∀ call ∈ calls, call.Concerns guest.id)
    (inert :
      ∀ call ∈ setup.dispatchesAmong room level calls m, call.IsInert) :
    ∃ flag,
      before.Hosts { guest with enabled := flag }
          (setup.afterCalls room level calls m).state ∧
        m.state.Carries (setup.dispatchesAmong room level calls m)
          (setup.afterCalls room level calls m).state := by
  induction calls generalizing guest m with
  | nil => exact ⟨guest.enabled, hosts, .of_same rfl⟩
  | cons call rest ih =>
      obtain ⟨hcall, hrest⟩ := List.forall_mem_cons.mp concerns
      let mid := (Run.answer setup (setup.scripts room level) call m).2
      have hmid :
          mid.state =
            (Run.perform setup (setup.scripts room level) call m).2.state :=
        (Run.answer_ends setup _ call m).2
      cases hcall with
      | setFlag enabled =>
          rw [Run.perform_setFlag_state] at hmid
          have hcalls : mid.state.tally.calls = m.state.tally.calls := by
            rw [hmid]
            exact (Dispatcher.flagged_fixed _ _ _).2.2.2
          have hguest := hosts.flagged hwf enabled
          rw [← hmid] at hguest
          rw [dispatchesAmong_setFlag] at inert ⊢
          obtain ⟨flag, hlast, carries⟩ := ih hguest hrest inert
          have hfirst :
              m.state.Carries ([] : List (DispatchCall setup)) mid.state :=
            .of_same hcalls
          exact ⟨flag, hlast, hfirst.trans carries⟩
      | @dispatch _ event h =>
          let dispatched : DispatchCall setup := ⟨room, level, event, m⟩
          rw [dispatchesAmong_of_dispatched h] at inert ⊢
          obtain ⟨hfirst, hothers⟩ := List.forall_mem_cons.mp inert
          have hstop : mid.state = dispatched.stop.state := by
            rw [hmid, Run.perform_of_dispatched _ _ h]
            rfl
          have hguest :
              before.Hosts guest mid.state := by
            rw [hstop, dispatched.stop_state_of_inert hfirst]
            exact hosts.charged event.kind 1 dispatched.failures
          obtain ⟨flag, hlast, carries⟩ := ih hguest hrest hothers
          have hcarries := dispatched.carries_of_inert hfirst
          rw [← hstop] at hcarries
          exact ⟨flag, hlast, hcarries.trans carries⟩

/-- A cleanup leaves the state as it was, wherever it is called. -/
def Scripts.IsCalm
    (scripts : Scripts P W N)
    (cleanup : P) :
    Prop :=
  ∀ m, (scripts.clean cleanup m).2.state = m.state

/-- A removal whose cleanup touches nothing changes what the removal changes. -/
theorem Run.unregister_state_of_calm
    (settings : Settings)
    {scripts : Scripts P W N}
    {m : Machine P W N}
    {registration : Registration P}
    (live : m.state.find? registration.id = some registration)
    (calm :
      ∀ cleanup,
        registration.spec.cleanup = some cleanup → scripts.IsCalm cleanup) :
    (unregister settings scripts registration.id m).2.state =
      (m.unregistered registration).state := by
  rw [unregister_of_live settings scripts live]
  cases hcleanup : registration.spec.cleanup with
  | none =>
      simp only [afterRemoval, runCleanup, hcleanup]
      rfl
  | some cleanup =>
      rw [afterRemoval_state_of_cleanup settings scripts hcleanup]
      exact calm cleanup hcleanup _

/-- A removal that is answered was made; without a cleanup it is answered. -/
theorem Run.unregister_fst_of_live
    (settings : Settings)
    (scripts : Scripts P W N)
    {m : Machine P W N}
    {registration : Registration P}
    (live : m.state.find? registration.id = some registration) :
    (∀ removed,
      (unregister settings scripts registration.id m).1 = .returned removed →
      removed = true) ∧
      (registration.spec.cleanup = none →
        (unregister settings scripts registration.id m).1 =
          .returned true) := by
  rw [unregister_of_live settings scripts live]
  constructor
  · intro removed hreturned
    obtain ⟨ending, hending⟩ :=
      afterRemoval_fst settings scripts registration (m.unregistered registration)
    exact eq_true_of_removalFlow (hending.symm.trans hreturned)
  · intro hcleanup
    simp only [afterRemoval, runCleanup, hcleanup]
    rfl

end Calls

/--
**Unregistering undoes registering.**

From every machine that a run can come to: a registration is made and answered by the
next id; calls set its flag and dispatch events to handlers that touch nothing, all in
any order; and it is removed, with no cleanup or one that touches nothing.  Then the
registrations, the hook table and the counters of flags are what they were before.
The next id and the total are one higher, and the counters of calls are higher by the
dispatches and by the failures of their handlers.
-/
theorem unregistering_undoes_registering
    (setup : Setup P W N)
    (room level : Nat)
    (m : Machine P W N)
    (reached : setup.Reaches m)
    (spec : Spec P)
    (calls : List (Call P)) :
    let scripts := setup.scripts room level
    let entered := Run.answer setup scripts (.register spec) m
    let during := setup.afterCalls room level calls entered.2
    let dispatches := setup.dispatchesAmong room level calls entered.2
    let left := Run.answer setup scripts (.unregister m.state.nextId) during
    (∀ call ∈ calls, call.Concerns m.state.nextId) →
    (∀ call ∈ dispatches, call.IsInert) →
    (∀ cleanup,
      spec.cleanup = some cleanup → scripts.IsCalm cleanup) →
    entered.1 = .returned m.state.nextId ∧
      (∀ removed, left.1 = .returned removed → removed = true) ∧
      (spec.cleanup = none → left.1 = .returned true) ∧
      m.state.Undone left.2.state ∧
      m.state.Carries dispatches left.2.state := by
  intro scripts entered during dispatches left concerns inert calm
  have sound := reached.wellFormed
  let guest : Registration P :=
    { id := m.state.nextId, spec := spec
      priority := spec.priority.getD setup.settings.defaultPriority
      enabled := spec.autoEnable }
  have hosts : m.state.Hosts guest entered.2.state :=
    sound.hosts_enrolled spec _
  have hcalls : entered.2.state.tally.calls = m.state.tally.calls :=
    Tally.calls_registered _ _
  obtain ⟨flag, hosting, carries⟩ :=
    Setup.hosts_afterCalls sound calls hosts concerns inert
  have live := hosting.find?_guest
  obtain ⟨hflow, hstate⟩ :=
    Run.answer_ends setup scripts (.unregister m.state.nextId) during
  obtain ⟨htrue, hnone⟩ :=
    Run.unregister_fst_of_live setup.settings scripts live
  have hleft : left.2.state = (during.unregistered _).state :=
    hstate.trans (Run.unregister_state_of_calm setup.settings live calm)
  rw [Machine.unregistered_state] at hleft
  refine ⟨rfl, ?_, ?_, ?_, ?_⟩
  · intro removed hreturned
    exact htrue removed (hflow.symm.trans hreturned)
  · intro hcleanup
    exact hflow.trans (hnone hcleanup)
  · rw [hleft]
    exact hosting.undone sound
  · have hgone : left.2.state.tally.calls = during.state.tally.calls := by
      rw [hleft]
      exact Tally.calls_unregistered _ _
    intro kind
    rw [hgone, carries kind, hcalls]

/-!
A visitor to the divided council: a script that fails whenever it is called, and that
is disabled and enabled while it stays.
-/

namespace Visiting

/-- The script that stays for a while. -/
def visitor : Spec (Ending Verdict) :=
  ((Divided.member "visitor" (.failed "lost")).withPriority 50).withCleanup
    (.returned .allow)

/-- The council before the visit. -/
def before : Machine (Ending Verdict) Unit Unit :=
  (Divided.setup.runAll 1 [Divided.host Divided.forwards] (.fresh ())).2

/-- What happens during the visit. -/
def calls (script : ScriptId) : List (Call (Ending Verdict)) :=
  [Call.setFlag script false, .dispatch (.chat "ann" "hello"),
    Call.setFlag script true, EntryPoint.onParsedMsgChat "ann" "hello"]

/-- The council once the visitor was registered. -/
def entered : Machine (Ending Verdict) Unit Unit :=
  (Run.answer Divided.setup (Divided.setup.scripts 1 0) (.register visitor)
    before).2

/-- The council at the end of the visit. -/
def during : Machine (Ending Verdict) Unit Unit :=
  Divided.setup.afterCalls 1 0 (calls before.state.nextId) entered

/-- The council after the visit. -/
def after : Machine (Ending Verdict) Unit Unit :=
  (Run.answer Divided.setup (Divided.setup.scripts 1 0)
    (.unregister before.state.nextId) during).2

theorem concerns (script : ScriptId) :
    ∀ call ∈ calls script, call.Concerns script := by
  simp only [calls, List.forall_mem_cons]
  exact ⟨.setFlag _, .dispatch rfl, .setFlag _, .dispatch rfl, by simp⟩

theorem isInert (call : DispatchCall Divided.setup) : call.IsInert := by
  intro binding _ _ m
  obtain ⟨room, level, event, start⟩ := call
  cases room with
  | zero => rfl
  | succ room => cases binding.handler <;> rfl

end Visiting

/--
The council is as it was.  The visitor failed once, when it was enabled, and the script
that crashes did so twice.
-/
theorem unregistering_undoes_visit :
    Visiting.before.state.Undone Visiting.after.state ∧
      Visiting.after.state.tally.calls.get .chat = ⟨2, 3⟩ := by
  have reached : Divided.setup.Reaches Visiting.before :=
    Divided.setup.reaches_runAll 1 [Divided.host Divided.forwards] ()
  have calm :
      ∀ cleanup,
        Visiting.visitor.cleanup = some cleanup →
        (Divided.setup.scripts 1 0).IsCalm cleanup := by
    intro cleanup _ m
    rfl
  have hcalls : Visiting.after.state.tally.calls.get .chat = ⟨2, 3⟩ := by
    decide +kernel
  obtain ⟨_, _, _, undone, _⟩ :=
    unregistering_undoes_registering Divided.setup 1 0 Visiting.before reached
      Visiting.visitor (Visiting.calls Visiting.before.state.nextId)
      (Visiting.concerns _) (fun call _ => Visiting.isInert call) calm
  refine ⟨?_, hcalls⟩
  unfold Visiting.after Visiting.during Visiting.entered
  exact undone

end ScriptHub
