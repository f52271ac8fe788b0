import ScriptHub.Proofs.Run.Nesting

/-!
# What a dispatch reports

The report of a dispatch is put together while its handlers change the registrations
and raise further events.  Its parts agree all the same: with each other, with how
each handler ended that was called, and with the counter of failures, which the
dispatches that are nested in the call move as well.

**Results.**
* `Walks.blockedBy_iff`, `Walks.failures`: what a walk reports of its visits.
* `DispatchCall.coherent_of_walks`: the parts of a report agree.
* `dispatch_results_are_coherent`: so do those of every dispatch that returns, and
  the counter of its kind grows by what it and the dispatches nested in it report.
-/

namespace ScriptHub

variable {P W N : Type}

section Reports

variable {settings : Settings} {scripts : Scripts P W N} {event : Event}
variable {m last : Machine P W N} {chain : List (Binding P)}
variable {visits : List (Visit P W N)} {result : DispatchResult}

/-- The failure of the handler that was called on a visit, if it failed. -/
def Visit.failure? (visit : Visit P W N) : Option (ScriptId × HandlerError) :=
  match visit.outcome with
  | some (.error reason) => some (visit.binding.script, reason)
  | _ => none

theorem Visit.failure?_eq_some
    {visit : Visit P W N}
    {script : ScriptId}
    {reason : HandlerError} :
    visit.failure? = some (script, reason) ↔
      visit.outcome = some (.error reason) ∧ visit.binding.script = script := by
  unfold failure?
  split
  · next error houtcome =>
      rw [houtcome]
      simp [and_comm]
  · next hother =>
      constructor
      · intro h
        exact absurd h (by simp)
      · rintro ⟨houtcome, _⟩
        exact absurd houtcome (hother reason)

/-- A walk reports the failures of the handlers that it called, in order. -/
theorem Walks.failures
    (walks : Walks settings scripts event m chain visits result last) :
    result.failures = visits.filterMap Visit.failure? := by
  induction walks with
  | done m => rfl
  | pass _ _ ih => exact ih
  | allow _ _ _ ih => exact ih
  | fail _ _ _ _ ih => exact congrArg (_ :: ·) ih
  | block _ _ _ => rfl

/-- The failures are reported of some of the handlers that were called. -/
theorem Walks.failures_sublist
    (walks : Walks settings scripts event m chain visits result last) :
    (result.failures.map Prod.fst).Sublist result.invoked := by
  induction walks with
  | done m => exact List.Sublist.refl _
  | pass _ _ ih => exact ih
  | allow _ _ _ ih => exact ih.cons _
  | fail _ _ _ _ ih => exact ih.cons_cons _
  | block _ _ _ => exact List.nil_sublist _

/-- The script that a walk reports to have blocked is one whose handler did. -/
theorem Walks.blockedBy_iff
    (walks : Walks settings scripts event m chain visits result last)
    {script : ScriptId} :
    result.blockedBy = some script ↔
      ∃ visit ∈ visits, visit.IsBlock ∧ visit.binding.script = script := by
  induction walks with
  | done m => simp
  | pass _ _ ih => simpa [Visit.IsBlock] using ih
  | allow _ _ _ ih =>
      simpa [Visit.IsBlock, DispatchResult.afterAllow] using ih
  | fail _ _ _ _ ih =>
      simpa [Visit.IsBlock, DispatchResult.afterFailure] using ih
  | block _ _ _ => simp [Visit.IsBlock, DispatchResult.blocked]

/-- No handler is called after the one that blocked. -/
theorem Walks.getLast?_invoked
    (walks : Walks settings scripts event m chain visits result last)
    {script : ScriptId}
    (hblocked : result.blockedBy = some script) :
    result.invoked.getLast? = some script := by
  have hafter :
      ∀ {first : ScriptId} {rest : List ScriptId},
        rest.getLast? = some script → (first :: rest).getLast? = some script := by
    intro first rest hrest
    rw [List.getLast?_cons, hrest, Option.getD_some]
  induction walks with
  | done m => exact absurd hblocked (by simp)
  | pass _ _ ih => exact ih hblocked
  | allow _ _ _ ih => exact hafter (ih hblocked)
  | fail _ _ _ _ ih => exact hafter (ih hblocked)
  | block _ _ _ => exact hblocked

/-- Along a chain that names no script twice, no script is visited twice. -/
theorem Walks.inj_on_visits
    (walks : Walks settings scripts event m chain visits result last)
    (hchain : (chain.map Binding.script).Nodup)
    {visit other : Visit P W N}
    (hvisit : visit ∈ visits)
    (hother : other ∈ visits)
    (hsame : visit.binding.script = other.binding.script) :
    visit = other := by
  have hvisited : (visits.map fun visit => visit.binding.script).Nodup := by
    have hsublist := walks.inOrder.sublist.map Binding.script
    rw [List.map_map] at hsublist
    exact hsublist.nodup hchain
  exact List.inj_on_of_nodup_map hvisited hvisit hother hsame

end Reports

namespace DispatchCall

variable {setup : Setup P W N}

/-- The call of the handler of a visited binding. -/
def calling
    (call : DispatchCall setup)
    (visit : Visit P W N) :
    HandlerCall setup :=
  ⟨call.room, call.level, visit.binding, call.event, visit.reached⟩

/--
The parts of a report agree with each other and with what was visited.

What a visit says of a handler that was called is how its code ended.  The verdict is to
block exactly if a script is named that blocked; that is the last whose handler was
called, and the only one whose handler blocked.  The failures are those of the handlers
that were called, in order, at most one to each script and none to the one that blocked.
-/
structure Coherent
    (call : DispatchCall setup)
    (result : DispatchResult)
    (visits : List (Visit P W N)) :
    Prop where
  ended :
    ∀ visit ∈ visits,
      visit.outcome ≠ none →
      visit.outcome = (call.calling visit).outcome?
  blocked_iff :
    result.verdict = .block ↔ ∃ script, result.blockedBy = some script
  last :
    ∀ script,
      result.blockedBy = some script → result.invoked.getLast? = some script
  blocker :
    ∀ script,
      result.blockedBy = some script →
      ∃ visit ∈ visits, visit.IsBlock ∧ visit.binding.script = script
  only :
    ∀ visit ∈ visits,
      visit.IsBlock → result.blockedBy = some visit.binding.script
  failures : result.failures = visits.filterMap Visit.failure?
  sublist : (result.failures.map Prod.fst).Sublist result.invoked
  nodup : (result.failures.map Prod.fst).Nodup
  spared :
    ∀ script,
      result.blockedBy = some script →
      script ∉ result.failures.map Prod.fst

/--
The counter of failures moves by what a dispatch reports and by what the dispatches
count that are nested in it.

Nested are all the dispatches that begin after this one did, in order; one that returns
counts the failures that it reports.  The counter of the kind counts the reported
failures and the nested ones, and the counters of the other kinds count the nested ones
alone.
-/
structure Charges
    (call : DispatchCall setup)
    (result : DispatchResult)
    (nested : List (DispatchCall setup)) :
    Prop where
  begun :
    beginningsIn call.stop.trace =
      (nested.map begun).reverse ++ beginningsIn call.begun
  within :
    ∀ inner ∈ nested,
      call.begun <:+ inner.start.trace ∧ inner.stop.trace <:+ call.stop.trace
  reported :
    ∀ inner ∈ nested,
      ∀ report,
        inner.flow = .returned report →
        inner.failures = report.failures.length
  failed :
    (call.stop.state.tally.calls.get call.event.kind).failed =
      (call.start.state.tally.calls.get call.event.kind).failed +
        UInt64.ofNat
          (result.failures.length + failuresOf call.event.kind nested)
  others :
    ∀ kind,
      kind ≠ call.event.kind →
      (call.stop.state.tally.calls.get kind).failed =
        (call.start.state.tally.calls.get kind).failed +
          UInt64.ofNat (failuresOf kind nested)

variable {call : DispatchCall setup}
variable {visits : List (Visit P W N)} {result : DispatchResult}

/-- A visit tells how the code of the handler ended that was called. -/
theorem ended_of_sound
    {visit : Visit P W N}
    (sound :
      visit.Sound setup.settings (setup.scripts call.room call.level) call.event)
    (hcalled : visit.outcome ≠ none) :
    visit.outcome = (call.calling visit).outcome? := by
  obtain ⟨outcome, houtcome⟩ := Option.ne_none_iff_exists'.mp hcalled
  obtain ⟨after, called, _⟩ := sound.called outcome houtcome
  have hflow :
      (Run.settleHandler setup.settings visit.binding.script call.event.kind
          (call.calling visit).flow (call.calling visit).stop).1 =
        .returned outcome :=
    congrArg Prod.fst called
  rw [houtcome]
  unfold HandlerCall.outcome?
  cases hended : (call.calling visit).flow with
  | returned value =>
      rw [hended] at hflow
      cases value with
      | ok verdict => exact congrArg some (Flow.returned.inj hflow).symm
      | error reason => exact congrArg some (Flow.returned.inj hflow).symm
  | unwinding payload =>
      rw [hended] at hflow
      simp only [Run.settleHandler] at hflow
      simp only [Flow.outcome?]
      by_cases hcatch : setup.settings.catchHandlerPanics = true
      · rw [if_pos hcatch] at hflow ⊢
        exact congrArg some (Flow.returned.inj hflow).symm
      · rw [if_neg hcatch] at hflow
        exact absurd hflow (by simp [bind, Run.andThen, Run.emit, Run.unwind])
  | exhausted =>
      rw [hended] at hflow
      exact absurd hflow (by simp [Run.settleHandler, Run.exhaust])

/-- The parts of the report agree of a dispatch that walked its chain to an end. -/
theorem coherent_of_walks
    (sound : call.start.state.WellFormed)
    (walks :
      Walks setup.settings (setup.scripts call.room call.level) call.event
        call.opened call.chain visits result call.stop) :
    call.Coherent result visits where
  ended := by
    intro visit hvisit hcalled
    exact ended_of_sound (walks.sound visit hvisit) hcalled
  blocked_iff := by
    rw [walks.verdict_iff]
    constructor
    · rintro ⟨visit, hvisit, hblock⟩
      exact ⟨_, walks.blockedBy_iff.mpr ⟨visit, hvisit, hblock, rfl⟩⟩
    · rintro ⟨script, hblocked⟩
      obtain ⟨visit, hvisit, hblock, _⟩ := walks.blockedBy_iff.mp hblocked
      exact ⟨visit, hvisit, hblock⟩
  last := by
    intro script hblocked
    exact walks.getLast?_invoked hblocked
  blocker := by
    intro script hblocked
    exact walks.blockedBy_iff.mp hblocked
  only := by
    intro visit hvisit hblock
    exact walks.blockedBy_iff.mpr ⟨visit, hvisit, hblock, rfl⟩
  failures := walks.failures
  sublist := walks.failures_sublist
  nodup :=
    walks.failures_sublist.nodup (follows_of_walks sound walks).nodup
  spared := by
    intro script hblocked hfailed
    obtain ⟨visit, hvisit, hblock, hscript⟩ := walks.blockedBy_iff.mp hblocked
    obtain ⟨⟨_, reason⟩, hfailure, rfl⟩ := List.mem_map.mp hfailed
    rw [walks.failures] at hfailure
    obtain ⟨other, hother, hsome⟩ := List.mem_filterMap.mp hfailure
    obtain ⟨herror, hsame⟩ := Visit.failure?_eq_some.mp hsome
    -- One handler cannot both have blocked and have failed.
    obtain rfl : visit = other :=
      walks.inj_on_visits (sound.nodup_scripts call.event.kind) hvisit hother
        (hscript.trans hsame.symm)
    rw [Visit.IsBlock, herror] at hblock
    exact absurd hblock (by simp)

/-- The counters of failures move by what returns and what is nested in it. -/
theorem charges
    (call : DispatchCall setup)
    {result : DispatchResult}
    (returned : call.flow = .returned result) :
    ∃ nested, call.Charges result nested := by
  obtain ⟨nested, counts⟩ := call.counts
  rw [call.failures_of_returned returned] at counts
  refine ⟨nested, counts.begun, counts.within, ?_, ?_, ?_⟩
  · intro inner _ report hreport
    exact inner.failures_of_returned hreport
  · rw [counts.failed, Machine.failed_attempted, Pi.single_eq_same]
  · intro kind hkind
    rw [counts.failed, Machine.failed_attempted, Pi.single_eq_of_ne hkind,
      Nat.zero_add]

end DispatchCall

/-!
Three scripts in one chain: the handler of the first removes its script and fails,
that of the second raises the event once more and fails when it is called for that,
and that of the third disables its script and blocks.
-/

namespace Quarrel

/-- What the three handlers do. -/
inductive Part
  | leave
  | retry
  | oppose

/-- The behaviour of the handlers, told by how deep they are called. -/
def behaviour : Behaviour Part Unit Unit where
  onEvent := fun level part event =>
    match part, level with
    | .leave, _ =>
        .call (.unregister 1) fun _ =>
        .finish (.failed "gone")
    | .retry, 0 =>
        .call (.dispatch event) fun _ =>
        .done .allow
    | .retry, _ => .finish (.failed "again")
    | .oppose, 0 =>
        .call (.disable 3) fun _ =>
        .done .block
    | .oppose, _ => .done .block
  onRemoval := fun _ _ => .done ()

/-- The setup in which they run. -/
def setup : Setup Part Unit Unit where
  settings := {}
  notifier := .accepting
  behaviour := behaviour

/-- The host registers the three scripts. -/
def host : Code Part Unit Unit Unit :=
  .call (.register ((Spec.named "first").hook .timer .leave)) fun _ =>
  .call (.register ((Spec.named "second").hook .timer .retry)) fun _ =>
  .call (.register ((Spec.named "third").hook .timer .oppose)) fun _ =>
  .done ()

/-- The dispatch that the three scripts are called for. -/
def call : DispatchCall setup where
  room := 2
  level := 0
  event := .timer 0
  start := (setup.runAll 2 [host] (.fresh ())).2

/-- What the dispatch reports. -/
def result : DispatchResult where
  verdict := .block
  invoked := [1, 2, 3]
  failures := [(1, .failed "gone")]
  blockedBy := some 3

end Quarrel

/--
**The reports of dispatches are coherent.**

Whatever the handlers of a dispatch do, a dispatch that returns blocks exactly if
it names the script that blocked, whose handler is the last that was called and the
only one that blocked.  It reports the failures of the handlers that were called,
in order, each with its own error.  The counter of failures of the kind grows by
their number and by what the dispatches count that are nested in the call.
-/
theorem dispatch_results_are_coherent
    (setup : Setup P W N)
    (call : DispatchCall setup)
    (reached : setup.Reaches call.start)
    (result : DispatchResult)
    (returned : call.flow = .returned result) :
    ∃ visits nested,
      call.Follows result visits ∧
        call.Coherent result visits ∧
        call.Charges result nested := by
  obtain ⟨visits, walks⟩ := call.walks reached.wellFormed returned
  obtain ⟨nested, charges⟩ := call.charges returned
  exact ⟨visits, nested,
    DispatchCall.follows_of_walks reached.wellFormed walks,
    DispatchCall.coherent_of_walks reached.wellFormed walks, charges⟩

/--
The third script is named to have blocked although it is disabled by then, and the
failure of the first is reported although it is gone.  A failure of the second is
counted in the dispatch that it makes itself.
-/
theorem dispatch_coherent_amid_quarrel :
    Quarrel.setup.Reaches Quarrel.call.start ∧
      Quarrel.call.flow = .returned Quarrel.result ∧
      (Quarrel.call.stop.state.tally.calls.get .timer).failed = 2 ∧
      ∃ visits nested,
        Quarrel.call.Follows Quarrel.result visits ∧
          Quarrel.call.Coherent Quarrel.result visits ∧
          Quarrel.call.Charges Quarrel.result nested := by
  have reached : Quarrel.setup.Reaches Quarrel.call.start :=
    Quarrel.setup.reaches_runAll 2 [Quarrel.host] ()
  have returned : Quarrel.call.flow = .returned Quarrel.result := by
    cbv
  have counted :
      (Quarrel.call.stop.state.tally.calls.get .timer).failed = 2 := by
    cbv
  exact ⟨reached, returned, counted,
    dispatch_results_are_coherent _ _ reached _ returned⟩

end ScriptHub
