import Mathlib.Tactic.SplitIfs
import ScriptHub.Proofs.Admin.Surface
import ScriptHub.Proofs.Run.Accounting
import ScriptHub.Proofs.Run.CallHistory
import ScriptHub.Proofs.Run.CounterHistory
import ScriptHub.Proofs.Run.Veto

/-!
# Toggling

A script is enabled and disabled by calls, which may repeat each other and name ids
that are not live.  Of the calls on a script only the last one counts: it tells the
flag that a sequence of calls leaves, and the flags tell the counters, which only
number them.

**Results.**
* `lastToggle`: the last call of a sequence on a script.
* `Dispatcher.WellFormed.live_flagged`: what one call makes of the registrations.
* `Dispatcher.toggled_toggledAll`: what a sequence of calls makes of a dispatcher.
* `Dispatcher.Counted.eq_of_live`: where the counters are right, they are settled.
* `toggling_is_last_write_wins`: all this of the calls that user code makes.
-/

namespace ScriptHub

variable {P W N : Type}

/-- What fixes every entry of a list fixes the list. -/
theorem map_eq_self
    {α : Type}
    {f : α → α}
    {entries : List α}
    (h : ∀ entry ∈ entries, f entry = entry) :
    entries.map f = entries :=
  (List.map_congr_left h).trans (List.map_id entries)

/-- The flag that the last of some calls sets for a script, if one is on it. -/
def lastToggle : List (ScriptId × Bool) → ScriptId → Option Bool
  | [], _ => none
  | (script, enabled) :: rest, other =>
      (lastToggle rest other).or (if script = other then some enabled else none)

/-- A registration once some calls were made on scripts. -/
def Registration.toggledBy
    (toggles : List (ScriptId × Bool))
    (registration : Registration P) :
    Registration P :=
  { registration with
    enabled :=
      (lastToggle toggles registration.id).getD registration.enabled }

/-- A call comes before the others, and sets the flag of its own script. -/
theorem Registration.toggledBy_cons
    (script : ScriptId)
    (enabled : Bool)
    (rest : List (ScriptId × Bool))
    (registration : Registration P) :
    registration.toggledBy ((script, enabled) :: rest) =
      (if registration.id == script then
        { registration with enabled := enabled }
      else
        registration).toggledBy rest := by
  by_cases hid : script = registration.id
  · subst hid
    cases hlast : lastToggle rest registration.id <;>
      simp [toggledBy, lastToggle, hlast]
  · simp [toggledBy, lastToggle, hid, Ne.symm hid]

theorem lastToggle_swap
    {script other : ScriptId}
    (hne : script ≠ other)
    (enabled flag : Bool)
    (id : ScriptId) :
    lastToggle [(script, enabled), (other, flag)] id =
      lastToggle [(other, flag), (script, enabled)] id := by
  by_cases hid : script = id
  · subst hid
    simp [lastToggle, Ne.symm hne]
  · simp [lastToggle, hid]

theorem lastToggle_replicate
    (script : ScriptId)
    (enabled : Bool)
    (times : Nat)
    (id : ScriptId) :
    lastToggle (List.replicate (times + 1) (script, enabled)) id =
      if script = id then some enabled else none := by
  induction times with
  | zero => rfl
  | succ times ih =>
      rw [List.replicate_succ, lastToggle, ih]
      split_ifs <;> rfl

theorem Registration.toggledBy_congr
    {toggles others : List (ScriptId × Bool)}
    {registration : Registration P}
    (h : lastToggle toggles registration.id = lastToggle others registration.id) :
    registration.toggledBy toggles = registration.toggledBy others := by
  unfold toggledBy
  rw [h]

namespace Dispatcher

variable {state : Dispatcher P} {script : ScriptId} {enabled : Bool}

section Flagged

theorem flagged_of_unknown (h : state.find? script = none) :
    state.flagged script enabled = state := by
  unfold flagged
  rw [h]

theorem flagged_of_same
    {registration : Registration P}
    (h : state.find? script = some registration)
    (hsame : registration.enabled = enabled) :
    state.flagged script enabled = state := by
  unfold flagged
  rw [h]
  exact if_pos hsame

theorem flagged_of_change
    {registration : Registration P}
    (h : state.find? script = some registration)
    (hchange : registration.enabled ≠ enabled) :
    state.flagged script enabled =
      (state.setFlag script enabled).retally
        fun tally => tally.toggled enabled := by
  unfold flagged
  rw [h]
  exact if_neg hchange

/-- What is so in all three cases is so of a dispatcher whose flag was set. -/
theorem flagged_induction
    (Q : Dispatcher P → Prop)
    (hsame : Q state)
    (hchange :
      ∀ registration,
        state.find? registration.id = some registration →
        registration.id = script →
        registration.enabled ≠ enabled →
        Q ((state.setFlag registration.id enabled).retally
          fun tally => tally.toggled enabled)) :
    Q (state.flagged script enabled) := by
  cases hlive : state.find? script with
  | none =>
      rw [flagged_of_unknown hlive]
      exact hsame
  | some registration =>
      by_cases h : registration.enabled = enabled
      · rw [flagged_of_same hlive h]
        exact hsame
      · have hid := find?_eq_some_id hlive
        subst hid
        rw [flagged_of_change hlive h]
        exact hchange registration hlive rfl h

theorem WellFormed.flagged
    (h : state.WellFormed)
    (script : ScriptId)
    (enabled : Bool) :
    (state.flagged script enabled).WellFormed :=
  flagged_induction _ h fun registration _ _ _ =>
    (h.setFlag registration.id enabled).retally _

theorem Counted.flagged
    {made : Nat}
    (h : state.Counted made)
    (hwf : state.WellFormed)
    (script : ScriptId)
    (enabled : Bool) :
    (state.flagged script enabled).Counted made :=
  flagged_induction (fun after => after.Counted made) h
    fun _ live _ hchange => h.toggled hwf live hchange

/-- Setting a flag sets it in the one registration that has the id. -/
theorem WellFormed.live_flagged
    (h : state.WellFormed)
    (script : ScriptId)
    (enabled : Bool) :
    (state.flagged script enabled).live =
      state.live.map fun registration =>
        if registration.id == script then
          { registration with enabled := enabled }
        else
          registration := by
  have hsame :
      (∀ registration ∈ state.live,
        registration.id = script → registration.enabled = enabled) →
      state.live =
        state.live.map fun registration =>
          if registration.id == script then
            { registration with enabled := enabled }
          else
            registration := by
    intro hflags
    refine (map_eq_self ?_).symm
    intro registration hmem
    split_ifs with hid
    · rw [← hflags registration hmem (by simpa using hid)]
    · rfl
  cases hfind : state.find? script with
  | none =>
      rw [flagged_of_unknown hfind]
      apply hsame
      intro registration hmem hid
      exact absurd hid (find?_eq_none_iff.mp hfind registration hmem)
  | some found =>
      by_cases hflag : found.enabled = enabled
      · rw [flagged_of_same hfind hflag]
        apply hsame
        rintro registration hmem rfl
        rw [h.find?_of_mem hmem] at hfind
        obtain rfl := Option.some.inj hfind
        exact hflag
      · rw [flagged_of_change hfind hflag]
        rfl

theorem isLive_flagged (other : ScriptId) :
    (state.flagged script enabled).isLive other = state.isLive other := by
  refine flagged_induction (fun after => after.isLive other = state.isLive other)
    rfl ?_
  intro registration _ _ _
  show
    ((state.setFlag registration.id enabled).find? other).isSome = _
  rw [find?_setFlag, Option.isSome_map]
  rfl

end Flagged

/-- What becomes of a dispatcher when flags are set, one after the other. -/
def toggledAll : List (ScriptId × Bool) → Dispatcher P → Dispatcher P
  | [], state => state
  | (script, enabled) :: rest, state =>
      toggledAll rest (state.flagged script enabled)

/--
A dispatcher differs from an earlier one only in the flags, which are those of the
last calls, and in the counters of flags.
-/
structure Toggled
    (toggles : List (ScriptId × Bool))
    (before after : Dispatcher P) :
    Prop where
  live : after.live = before.live.map (Registration.toggledBy toggles)
  table : after.table = before.table
  nextId : after.nextId = before.nextId
  total : after.tally.total = before.tally.total
  calls : after.tally.calls = before.tally.calls

/-- Setting one flag changes the flags and their counters alone. -/
theorem flagged_fixed
    (state : Dispatcher P)
    (script : ScriptId)
    (enabled : Bool) :
    (state.flagged script enabled).table = state.table ∧
      (state.flagged script enabled).nextId = state.nextId ∧
      (state.flagged script enabled).tally.total = state.tally.total ∧
      (state.flagged script enabled).tally.calls = state.tally.calls := by
  refine flagged_induction
    (fun after =>
      after.table = state.table ∧ after.nextId = state.nextId ∧
        after.tally.total = state.tally.total ∧
        after.tally.calls = state.tally.calls)
    ⟨rfl, rfl, rfl, rfl⟩ ?_
  intro registration _ _ _
  exact ⟨rfl, rfl, Tally.total_toggled _ _, Tally.calls_toggled _ _⟩

/-- **Of the calls on a script only the last one counts.** -/
theorem toggled_toggledAll
    (h : state.WellFormed)
    (toggles : List (ScriptId × Bool)) :
    state.Toggled toggles (state.toggledAll toggles) := by
  induction toggles generalizing state with
  | nil =>
      refine ⟨?_, rfl, rfl, rfl, rfl⟩
      exact (List.map_id state.live).symm
  | cons first rest ih =>
      obtain ⟨script, enabled⟩ := first
      have hrest := ih (h.flagged script enabled)
      obtain ⟨htable, hnext, htotal, hcalls⟩ :=
        flagged_fixed state script enabled
      refine ⟨?_, hrest.table.trans htable, hrest.nextId.trans hnext,
        hrest.total.trans htotal, hrest.calls.trans hcalls⟩
      rw [toggledAll, hrest.live, h.live_flagged, List.map_map]
      apply List.map_congr_left
      intro registration _
      exact (registration.toggledBy_cons script enabled rest).symm

/-- Enabling an enabled script leaves the registrations as they were. -/
theorem WellFormed.live_map_toggledBy
    (h : state.WellFormed)
    (henabled : state.IsEnabled script)
    (flag : Bool) :
    state.live.map (Registration.toggledBy [(script, flag), (script, true)]) =
      state.live := by
  apply map_eq_self
  intro registration hmem
  by_cases hid : script = registration.id
  · subst hid
    obtain ⟨found, hfind, hflag⟩ := henabled
    rw [h.find?_of_mem hmem, Option.some.injEq] at hfind
    subst hfind
    simp [Registration.toggledBy, lastToggle, ← hflag]
  · simp [Registration.toggledBy, lastToggle, hid]

theorem Counted.toggledAll
    {made : Nat}
    (h : state.Counted made)
    (hwf : state.WellFormed)
    (toggles : List (ScriptId × Bool)) :
    (state.toggledAll toggles).Counted made := by
  induction toggles generalizing state with
  | nil => exact h
  | cons first rest ih =>
      exact ih (h.flagged hwf first.1 first.2) (hwf.flagged first.1 first.2)

/-- Where the counters are right, the registrations settle them. -/
theorem Counted.eq_of_live
    {other : Dispatcher P}
    {made : Nat}
    (h : state.Counted made)
    (hother : other.Counted made)
    (live : state.live = other.live)
    (table : state.table = other.table)
    (calls : state.tally.calls = other.tally.calls) :
    state = other := by
  have hcounter :
      ∀ flag, state.tally.counter flag = other.tally.counter flag := by
    intro flag
    rw [h.live, hother.live, liveWith, liveWith, live]
  have hactive : state.tally.active = other.tally.active := hcounter true
  have hdisabled : state.tally.disabled = other.tally.disabled :=
    hcounter false
  have htotal := h.total.trans hother.total.symm
  have hnext := h.nextId.trans hother.nextId.symm
  cases state with
  | mk nextId live table tally =>
      cases other with
      | mk nextId' live' table' tally' =>
          cases tally
          cases tally'
          simp_all

/-- **Sequences with the same last calls on live ids lead to the same state.** -/
theorem Counted.toggledAll_congr
    {made : Nat}
    (h : state.Counted made)
    (hwf : state.WellFormed)
    {toggles others : List (ScriptId × Bool)}
    (hlast :
      ∀ registration ∈ state.live,
        lastToggle toggles registration.id =
          lastToggle others registration.id) :
    state.toggledAll toggles = state.toggledAll others := by
  have hleft := toggled_toggledAll hwf toggles
  have hright := toggled_toggledAll hwf others
  apply (h.toggledAll hwf toggles).eq_of_live (h.toggledAll hwf others)
  · rw [hleft.live, hright.live]
    apply List.map_congr_left
    intro registration hmem
    exact registration.toggledBy_congr (hlast registration hmem)
  · exact hleft.table.trans hright.table.symm
  · exact hleft.calls.trans hright.calls.symm

/-- Disabling an enabled script and enabling it again restores the state. -/
theorem Counted.toggledAll_back
    {made : Nat}
    (h : state.Counted made)
    (hwf : state.WellFormed)
    (henabled : state.IsEnabled script) :
    state.toggledAll [(script, false), (script, true)] = state := by
  have hback := toggled_toggledAll hwf [(script, false), (script, true)]
  apply (h.toggledAll hwf _).eq_of_live h
  · rw [hback.live]
    exact hwf.live_map_toggledBy henabled false
  · exact hback.table
  · exact hback.calls

end Dispatcher

namespace Run

variable (setup : Setup P W N) (scripts : Scripts P W N)

/-- Enables or disables a script by a call of user code. -/
def toggle (script : ScriptId) : Bool → Run P W N Bool
  | true => answer setup scripts (.enable script)
  | false => answer setup scripts (.disable script)

/-- Makes some such calls, one after the other, and lists the answers. -/
def toggleAll : List (ScriptId × Bool) → Run P W N (List Bool)
  | [] => pure []
  | (script, enabled) :: rest => do
      let found ← toggle setup scripts script enabled
      let others ← toggleAll rest
      pure (found :: others)

/-- Setting a flag answers whether the id is live. -/
theorem setEnabled_fst
    (script : ScriptId)
    (enabled : Bool)
    (m : Machine P W N) :
    (setEnabled script enabled m).1 = .returned (m.state.isLive script) := by
  unfold Dispatcher.isLive
  simp only [setEnabled, bind, andThen, state]
  cases m.state.find? script with
  | none => rfl
  | some registration =>
      by_cases hsame : registration.enabled = enabled
      · simp only [hsame, if_true]
        rfl
      · simp only [hsame, if_false]
        rfl

/-- A call answers whether the id is live, and changes the state alone. -/
theorem toggle_tells
    (script : ScriptId)
    (enabled : Bool)
    (m : Machine P W N) :
    ∃ after,
      toggle setup scripts script enabled m =
          (.returned (m.state.isLive script), after) ∧
        after.state = m.state.flagged script enabled ∧
        after.store = m.store ∧
        m.Notifies after [] := by
  obtain ⟨found, after, hset, hstate, hstore, hnotices⟩ :=
    setEnabled_tells m script enabled
  have hfound : found = m.state.isLive script := by
    have hfst := congrArg Prod.fst hset
    rw [setEnabled_fst] at hfst
    exact (Flow.returned.inj hfst).symm
  subst hfound
  cases enabled with
  | true =>
      refine ⟨after.emit (.answered (.enable script) (m.state.isLive script)),
        ?_, hstate, hstore, hnotices.emit rfl⟩
      simp only [toggle, answer, perform, observe, bind, andThen, hset]
      rfl
  | false =>
      refine ⟨after.emit (.answered (.disable script) (m.state.isLive script)),
        ?_, hstate, hstore, hnotices.emit rfl⟩
      simp only [toggle, answer, perform, observe, bind, andThen, hset]
      rfl

/-- Every call answers whether its id was live at the start. -/
theorem toggleAll_tells
    (toggles : List (ScriptId × Bool))
    (m : Machine P W N) :
    ∃ after,
      toggleAll setup scripts toggles m =
          (.returned (toggles.map fun toggle => m.state.isLive toggle.1),
            after) ∧
        after.state = m.state.toggledAll toggles ∧
        after.store = m.store ∧
        m.Notifies after [] := by
  induction toggles generalizing m with
  | nil => exact ⟨m, rfl, rfl, rfl, .refl m⟩
  | cons first rest ih =>
      obtain ⟨script, enabled⟩ := first
      obtain ⟨mid, hfirst, hmid, hstore, hnotices⟩ :=
        toggle_tells setup scripts script enabled m
      obtain ⟨after, hrest, hafter, hkept, hothers⟩ := ih mid
      refine ⟨after, ?_, ?_, hkept.trans hstore, hnotices.trans hothers⟩
      · rw [toggleAll, bind_of_returned hfirst, bind_of_returned hrest]
        simp only [hmid, Dispatcher.isLive_flagged, List.map_cons]
        rfl
      · rw [hafter, hmid]
        rfl

end Run

/-- The counters of registrations are right wherever a run can come to. -/
theorem Setup.Reaches.tallied
    {setup : Setup P W N}
    {m : Machine P W N}
    (h : setup.Reaches m) :
    m.Tallied := by
  induction h with
  | fresh store => exact Machine.tallied_fresh store
  | step before once ih => exact once.tallied before.wellFormed ih
  | began _ event ih =>
      apply Machine.Tallied.emit
      · exact ih.update _ (ih.now.attempted event.kind)
      · rfl
  | reported _ event result ih => exact ih.emit rfl

/--
**The last call on a script wins, and nothing else is touched.**

From every machine that a run can come to, calls that enable and disable scripts
answer whether the ids are live.  They change the flags of live registrations, each
to that of the last call on it, and the two counters of flags; no other part of the
state changes.  Sequences with the same last calls on the live registrations lead to
the same state: calls on distinct ids may be swapped, repeating a call changes
nothing, and enabling an enabled script after it was disabled restores the state.
-/
theorem toggling_is_last_write_wins
    (setup : Setup P W N)
    (room level : Nat)
    (m : Machine P W N)
    (reached : setup.Reaches m) :
    let after := fun toggles =>
      Run.toggleAll setup (setup.scripts room level) toggles m
    (∀ toggles,
      (after toggles).1 =
          .returned (toggles.map fun toggle => m.state.isLive toggle.1) ∧
        m.state.Toggled toggles (after toggles).2.state ∧
        (after toggles).2.store = m.store ∧
        m.Notifies (after toggles).2 []) ∧
      (∀ toggles others,
        (∀ registration ∈ m.state.live,
          lastToggle toggles registration.id =
            lastToggle others registration.id) →
        (after toggles).2.state = (after others).2.state) ∧
      (∀ script other enabled flag,
        script ≠ other →
        (after [(script, enabled), (other, flag)]).2.state =
          (after [(other, flag), (script, enabled)]).2.state) ∧
      (∀ script enabled times,
        (after (List.replicate (times + 1) (script, enabled))).2.state =
          (after [(script, enabled)]).2.state) ∧
      ∀ script,
        m.state.IsEnabled script →
        (after [(script, false), (script, true)]).2.state = m.state := by
  intro after
  have sound := reached.wellFormed
  have counted := reached.tallied.now
  have hstate :
      ∀ toggles, (after toggles).2.state = m.state.toggledAll toggles := by
    intro toggles
    obtain ⟨last, hrun, hlast, _⟩ :=
      Run.toggleAll_tells setup (setup.scripts room level) toggles m
    have hafter : (after toggles).2 = last := congrArg Prod.snd hrun
    rw [hafter, hlast]
  have hsame :
      ∀ toggles others,
        (∀ registration ∈ m.state.live,
          lastToggle toggles registration.id =
            lastToggle others registration.id) →
        (after toggles).2.state = (after others).2.state := by
    intro toggles others hlast
    rw [hstate, hstate]
    exact counted.toggledAll_congr sound hlast
  refine ⟨?_, hsame, ?_, ?_, ?_⟩
  · intro toggles
    obtain ⟨last, hrun, hlast, hstore, hnotices⟩ :=
      Run.toggleAll_tells setup (setup.scripts room level) toggles m
    have hafter : after toggles = (_, last) := hrun
    rw [hafter]
    refine ⟨rfl, ?_, hstore, hnotices⟩
    rw [hlast]
    exact Dispatcher.toggled_toggledAll sound toggles
  · intro script other enabled flag hne
    apply hsame
    intro registration _
    exact lastToggle_swap hne enabled flag registration.id
  · intro script enabled times
    apply hsame
    intro registration _
    rw [lastToggle_replicate]
    rfl
  · intro script henabled
    rw [hstate]
    exact counted.toggledAll_back sound henabled

/--
A script is disabled and enabled again, while a call names an id that was never
issued: the calls are answered accordingly, and in the end nothing has changed.
-/
theorem toggling_restores_quiet_script :
    let after :=
      Run.toggleAll Restless.setup (Restless.setup.scripts 2 0)
        [(2, false), (9, true), (2, true)] Restless.last
    after.1 = .returned [true, false, true] ∧
      after.2.state = Restless.last.state := by
  have reached : Restless.setup.Reaches Restless.last :=
    Restless.setup.reaches_runAll 2 [Restless.host] ()
  have hanswers :
      [(2, false), (9, true), (2, true)].map
          (fun toggle => Restless.last.state.isLive toggle.1) =
        [true, false, true] := by
    decide +kernel
  have henabled : Restless.last.state.IsEnabled 2 :=
    Dispatcher.isEnabled_iff.mp (by decide +kernel)
  have hlast :
      ∀ registration ∈ Restless.last.state.live,
        lastToggle [(2, false), (9, true), (2, true)] registration.id =
          lastToggle [(2, false), (2, true)] registration.id := by
    decide +kernel
  generalize Restless.last = m at reached hanswers henabled hlast ⊢
  obtain ⟨hall, hsame, _, _, hback⟩ :=
    toggling_is_last_write_wins Restless.setup 2 0 m reached
  obtain ⟨hfirst, _⟩ := hall [(2, false), (9, true), (2, true)]
  rw [hanswers] at hfirst
  exact ⟨hfirst, (hsame _ _ hlast).trans (hback 2 henabled)⟩

end ScriptHub
