import Mathlib.Data.List.Forall2
import ScriptHub.Proofs.Run.Equations

/-!
# Comparing runs

What is said of every run of user code, or of two runs side by side, is shown
operation by operation: the operations are put together from a few steps, and what is
said of the steps and goes on from one part of a run to the next is said of the
operations.  Here the operations are gone through once.  A comparison says from which
machines two runs start, and how their ends compare; what is said of single runs is a
comparison of a run with itself.

Removals are counted on the way: what a returned value tells of removals is part of a
comparison, for one that keeps account of them.

**Results.**
* `Comparison.Lawful`, `Comparison.Steps`, `Comparison.Visits`: what is asked of a
  comparison, in general, of the steps, and of the visits to handlers.
* `Comparison.Steps.administer`, `Comparison.Steps.unregister`,
  `Comparison.Steps.shutdown`, `Comparison.Visits.dispatch`: the operations.
* `Comparison.Steps.answer`: every call but that of a registration.
* `Comparison.Interprets.run`, `Comparison.Interprets.procedures`: user code, and all
  procedures.
* `Comparison.together`: comparisons of runs that start from one machine.
-/

namespace ScriptHub

variable {P W N R α β : Type}

section Vocabulary

/-- Whether a log record names neither a registration that changes nor user code. -/
def LogEntry.isImpersonal : LogEntry → Bool
  | .unregisterUnknown _ => true
  | .dispatching .. => true
  | .shuttingDown _ => true
  | .shutDown _ => true
  | .commandRefused .. => true
  | .commandRunning .. => true
  | _ => false

/-- Whether a record takes account of how a cleanup or a call ended. -/
def Record.isSettling : Record P N → Bool
  | .cleanupEnded .. => true
  | .cleanupUnwound .. => true
  | .unwound .. => true
  | .log (.cleanupFailed ..) => true
  | _ => false

/-- What a call tells of the state, if it only looks at it. -/
def Call.reading? : (call : Call P) → Option (Dispatcher P → call.Answer)
  | .info script => some fun s => s.info? script
  | .list => some fun s => s.list
  | .ids => some fun s => s.ids
  | .count => some fun s => s.count
  | .stats => some fun s => s.stats
  | .calls kind => some fun s => s.tally.calls.get kind
  | .bindingCounts => some fun s => s.table.bindingCounts
  | .chain kind => some fun s => s.table.get kind
  | _ => none

/-- How many removals the answer to a call tells of. -/
def Call.removals : (call : Call P) → call.Answer → Nat
  | .unregister _, removed => Bool.toNat removed
  | .shutdown, removed => removed
  | _, _ => 0

/-- What the end of a handler means for its chain: a failure lets the event through. -/
def Verdict.passed {ε : Type} : Except ε Verdict → Verdict
  | .ok verdict => verdict
  | .error _ => .allow

/-- Puts a handler that let the event through, by failing or not, in front. -/
def DispatchResult.after
    (result : DispatchResult)
    (script : ScriptId) :
    Except HandlerError Verdict → DispatchResult
  | .ok _ => result.afterAllow script
  | .error reason => result.afterFailure script reason

namespace Run

/-- Tells the journal of a handler that blocked or failed. -/
def announce
    (kind : EventKind)
    (script : ScriptId)
    (name : String) :
    Except HandlerError Verdict → Run P W N Unit
  | .ok .allow => pure ()
  | .ok .block => log (.handlerBlocked kind script name)
  | .error reason => log (.handlerFailed kind script name reason)

/-- Calls the handler of a binding and tells the journal how it ended. -/
def consult
    (settings : Settings)
    (scripts : Scripts P W N)
    (event : Event)
    (binding : Binding P)
    (name : String) :
    Run P W N (Except HandlerError Verdict) := do
  let outcome ← invoke settings scripts event binding
  announce event.kind binding.script name outcome
  pure outcome

/-- Goes on with the rest of a chain, unless the event was blocked. -/
def resume
    (rest : Run P W N DispatchResult)
    (script : ScriptId)
    (outcome : Except HandlerError Verdict) :
    Run P W N DispatchResult :=
  match Verdict.passed outcome with
  | .block => pure (.blocked script)
  | .allow => do
      let result ← rest
      pure (result.after script outcome)

/-- A live and enabled registration is consulted before the chain goes on. -/
theorem walk_cons_eq_consult
    (settings : Settings)
    (scripts : Scripts P W N)
    (event : Event)
    {m : Machine P W N}
    {binding : Binding P}
    (chain : List (Binding P))
    {registration : Registration P}
    (hfind : m.state.find? binding.script = some registration)
    (henabled : registration.enabled = true) :
    walk settings scripts event (binding :: chain) m =
      (consult settings scripts event binding registration.spec.name >>=
        resume (walk settings scripts event chain) binding.script) m := by
  rw [walk_cons_of_enabled settings scripts event chain hfind henabled]
  unfold consult
  simp only [bind, andThen]
  generalize invoke settings scripts event binding m = ending
  obtain ⟨flow, after⟩ := ending
  cases flow with
  | returned outcome =>
      cases outcome with
      | ok verdict => cases verdict <;> rfl
      | error reason => rfl
  | unwinding payload => rfl
  | exhausted => rfl

/-- A call that only looks at the state is answered from it. -/
theorem perform_of_reading
    (setup : Setup P W N)
    (scripts : Scripts P W N)
    {call : Call P}
    {read : Dispatcher P → call.Answer}
    (h : call.reading? = some read)
    (m : Machine P W N) :
    perform setup scripts call m = (.returned (read m.state), m) := by
  cases call <;> cases h <;> rfl

end Run
end Vocabulary

/--
How two runs are compared: from which machines they start and how they end.

The ends are compared by a relation on the returned values and by how many removals
a value tells of.  A comparison also says which registration stands for which, how
the texts of notices, the ends of handlers, the reports of dispatches and the answers
to calls compare, and when a handler may be called.
-/
structure Comparison (P W N : Type) where
  twin : Registration P → Registration P
  text : String → String → Prop
  outcome : Except HandlerError Verdict → Except HandlerError Verdict → Prop
  report : DispatchResult → DispatchResult → Prop
  answer : (call : Call P) → call.Answer → call.Answer → Prop
  start : Machine P W N → Machine P W N → Prop
  ready : Event → Binding P → Machine P W N → Prop
  ends :
    {α : Type} →
    (α → α → Prop) →
    (α → Nat) →
    Machine P W N →
    Machine P W N →
    Flow α × Machine P W N →
    Flow α × Machine P W N →
    Prop

namespace Comparison

/-- The relations by which a comparison compares returned values. -/
inductive Measure (c : Comparison P W N) : {α : Type} → (α → α → Prop) → Prop
  | same {α : Type} : Measure c (Eq : α → α → Prop)
  | texts : Measure c (List.Forall₂ c.text)
  | outcome : Measure c c.outcome
  | report : Measure c c.report
  | answer (call : Call P) : Measure c (c.answer call)

/-- Two runs compare, with an account of the removals that they tell of. -/
def Accounts
    (c : Comparison P W N)
    (removals : α → Nat)
    (results : α → α → Prop)
    (run other : Run P W N α) :
    Prop :=
  ∀ a b, c.start a b → c.ends results removals a b (run a) (other b)

/-- Two runs compare and tell of no removal. -/
abbrev Relates
    (c : Comparison P W N)
    (results : α → α → Prop)
    (run other : Run P W N α) :
    Prop :=
  c.Accounts (fun _ => 0) results run other

/-- Procedures compare. -/
structure RelatesScripts
    (c : Comparison P W N)
    (scripts others : Scripts P W N) :
    Prop where
  handle :
    ∀ procedure event,
      c.Relates Eq (scripts.handle procedure event)
        (others.handle procedure event)
  clean :
    ∀ procedure, c.Relates Eq (scripts.clean procedure) (others.clean procedure)

/--
What is asked of a comparison in general: that it looks at the states, the texts and
the reports in the same way all along, and goes on from one part of a run to the next.
-/
structure Lawful (c : Comparison P W N) : Prop where
  twin_id : ∀ registration, (c.twin registration).id = registration.id
  twin_enabled :
    ∀ registration, (c.twin registration).enabled = registration.enabled
  text_refl : ∀ text, c.text text text
  outcome_passed :
    ∀ {outcome other},
      c.outcome outcome other →
      Verdict.passed outcome = Verdict.passed other
  report_refl : ∀ result, c.report result result
  report_verdict :
    ∀ {result other}, c.report result other → other.verdict = result.verdict
  report_after :
    ∀ {result report outcome other} script,
      c.report result report →
      c.outcome outcome other →
      c.report (result.after script outcome) (report.after script other)
  answer_report : ∀ event, c.answer (.dispatch event) = c.report
  answer_same :
    ∀ {call : Call P},
      call.reading? = none →
      (∀ event, call ≠ .dispatch event) →
      c.answer call = Eq
  answer_list :
    ∀ {infos others : List ScriptInfo},
      c.answer .list infos others →
      List.Forall₂ c.text (AdminReport.list infos) (AdminReport.list others)
  answer_stats :
    ∀ {stats other : Stats},
      c.answer .stats stats other →
      List.Forall₂ c.text (AdminReport.stats stats) (AdminReport.stats other)
  find :
    ∀ {a b},
      c.start a b →
      ∀ script, b.state.find? script = (a.state.find? script).map c.twin
  table : ∀ {a b}, c.start a b → b.state.table = a.state.table
  ids : ∀ {a b}, c.start a b → b.state.ids = a.state.ids
  reading :
    ∀ {a b},
      c.start a b →
      ∀ {call : Call P} {read},
        call.reading? = some read →
        c.answer call (read a.state) (read b.state)
  pure :
    ∀ {α : Type} {results : α → α → Prop} {removals : α → Nat} {a b value other},
      c.Measure results →
      c.start a b →
      results value other →
      removals value = 0 →
      c.ends results removals a b (.returned value, a) (.returned other, b)
  bind :
    ∀ {α β : Type} {results : α → α → Prop} {answers : β → β → Prop}
      {removals : β → Nat} {run other : Run P W N α}
      {next onward : α → Run P W N β} {a b : Machine P W N},
      c.Measure results →
      c.start a b →
      c.ends results (fun _ => 0) a b (run a) (other b) →
      (∀ value result after later,
        results value result →
        c.start after later →
        (∀ event binding,
          c.ready event binding a → c.ready event binding after) →
        c.ends answers removals after later (next value after)
          (onward result later)) →
      c.ends answers removals a b ((run >>= next) a) ((other >>= onward) b)

variable {c : Comparison P W N}

namespace Lawful

variable (lawful : c.Lawful)
include lawful

variable {results : α → α → Prop} {answers : β → β → Prop}
variable {removals : β → Nat}

/-- What compares goes on with what compares. -/
theorem andThen
    (measure : c.Measure results)
    {run other : Run P W N α}
    {next onward : α → Run P W N β}
    (hrun : c.Relates results run other)
    (hnext :
      ∀ value result,
        results value result →
        c.Accounts removals answers (next value) (onward result)) :
    c.Accounts removals answers (run >>= next) (other >>= onward) := by
  intro a b start
  apply lawful.bind measure start (hrun a b start)
  intro value result after later hresult start' _
  exact hnext value result hresult after later start'

/-- What returns the same goes on with what compares. -/
theorem andThen_eq
    {run other : Run P W N α}
    {next onward : α → Run P W N β}
    (hrun : c.Relates Eq run other)
    (hnext : ∀ value, c.Accounts removals answers (next value) (onward value)) :
    c.Accounts removals answers (run >>= next) (other >>= onward) := by
  apply lawful.andThen .same hrun
  rintro value _ rfl
  exact hnext value

theorem give
    (measure : c.Measure results)
    {value other : α}
    (h : results value other) :
    c.Relates results (Pure.pure value) (Pure.pure other) :=
  fun _ _ start => lawful.pure measure start h rfl

theorem same (value : α) :
    c.Relates Eq (Pure.pure value) (Pure.pure value) :=
  lawful.give .same rfl

theorem texts_refl (texts : List String) : List.Forall₂ c.text texts texts :=
  List.forall₂_same.mpr fun text _ => lawful.text_refl text

/-- What is read off the states compares as the answers to the call that reads it. -/
theorem read
    (measure : c.Measure results)
    (call : Call P)
    {read : Dispatcher P → call.Answer}
    (h : call.reading? = some read)
    {f : call.Answer → α}
    (hresult :
      ∀ {answer other}, c.answer call answer other → results (f answer) (f other)) :
    c.Relates results
      (do Pure.pure (f (read (← Run.state))) : Run P W N α)
      (do Pure.pure (f (read (← Run.state)))) :=
  fun _ _ start => lawful.pure measure start (hresult (lawful.reading start h)) rfl

end Lawful

/--
What is asked of the steps: each step that an operation is made of compares.

A removal is one step with its cleanup and with the record that follows, and so is a
call with the record of its answer; for there is user code in between, and a
comparison may take account of its end.
-/
structure Steps
    (c : Comparison P W N)
    (first second : Setup P W N)
    (scripts others : Scripts P W N) :
    Prop where
  adminClass : second.settings.adminClass = first.settings.adminClass
  adminWord : second.settings.adminWord = first.settings.adminWord
  log :
    ∀ {entry},
      entry.isImpersonal = true →
      c.Relates Eq (Run.log entry) (Run.log entry)
  send :
    ∀ nick {text other},
      c.text text other →
      c.Relates Eq (Run.send first.notifier nick text)
        (Run.send second.notifier nick other)
  toggle :
    ∀ {a b registration enabled},
      c.start a b →
      a.state.find? registration.id = some registration →
      registration.enabled ≠ enabled →
      c.ends Eq (fun _ => 0) a b
        (.returned true, a.toggled registration.id enabled)
        (.returned true, b.toggled registration.id enabled)
  remove :
    ∀ {a b registration},
      c.start a b →
      a.state.find? registration.id = some registration →
      c.ends Eq Bool.toNat a b
        (Run.afterRemoval first.settings scripts registration
          (a.unregistered registration))
        (Run.afterRemoval second.settings others (c.twin registration)
          (b.unregistered (c.twin registration)))
  sweep :
    ∀ script rest,
      c.Accounts Bool.toNat Eq (Run.unregister first.settings scripts script)
        (Run.unregister second.settings others script) →
      c.Accounts id Eq (Run.unregisterAll first.settings scripts rest)
        (Run.unregisterAll second.settings others rest) →
      c.Accounts id Eq
        (Run.unregisterAll first.settings scripts (script :: rest))
        (Run.unregisterAll second.settings others (script :: rest))
  report :
    ∀ {run other : Run P W N Nat},
      c.Accounts id Eq run other →
      c.Accounts id Eq
        (do
          let removed ← run
          Run.log (.shutDown removed)
          Pure.pure removed)
        (do
          let removed ← other
          Run.log (.shutDown removed)
          Pure.pure removed)
  answer :
    ∀ {call : Call P},
      (∀ spec, call ≠ .register spec) →
      c.Accounts call.removals (c.answer call) (Run.perform first scripts call)
        (Run.perform second others call) →
      c.Relates (c.answer call) (Run.answer first scripts call)
        (Run.answer second others call)

variable {first second : Setup P W N} {scripts others : Scripts P W N}

namespace Steps

variable (lawful : c.Lawful) (steps : c.Steps first second scripts others)
include lawful steps

section Administration

theorem setEnabled
    (script : ScriptId)
    (enabled : Bool) :
    c.Relates Eq (Run.setEnabled script enabled)
      (Run.setEnabled script enabled) := by
  intro a b start
  have hfind := lawful.find start script
  cases live : a.state.find? script with
  | none =>
      rw [live] at hfind
      simp only [Run.setEnabled, Bind.bind, Run.andThen, Run.state, live, hfind,
        Option.map_none]
      exact lawful.pure .same start rfl rfl
  | some registration =>
      obtain rfl := Dispatcher.find?_eq_some_id live
      rw [live, Option.map_some] at hfind
      by_cases h : registration.enabled = enabled
      · simp only [Run.setEnabled, Bind.bind, Run.andThen, Run.state, live, hfind,
          lawful.twin_enabled, h, if_true]
        exact lawful.pure .same start rfl rfl
      · simp only [Run.setEnabled, Bind.bind, Run.andThen, Run.state, live, hfind,
          lawful.twin_enabled, h, if_false]
        exact steps.toggle start live h

theorem sendAll
    (nick : String)
    {texts others : List String}
    (htexts : List.Forall₂ c.text texts others) :
    c.Relates Eq (Run.sendAll first.notifier nick texts)
      (Run.sendAll second.notifier nick others) := by
  induction htexts with
  | nil => exact lawful.same ()
  | cons htext _ ih =>
      apply lawful.andThen_eq (steps.send nick htext)
      intro _
      exact ih

theorem execute
    (word trigger : String)
    (command : AdminCommand) :
    c.Relates (List.Forall₂ c.text)
      (Run.execute word trigger command : Run P W N (List String))
      (Run.execute word trigger command) := by
  cases command with
  | list => exact lawful.read .texts .list rfl lawful.answer_list
  | stats => exact lawful.read .texts .stats rfl lawful.answer_stats
  | enable script =>
      apply lawful.andThen_eq (steps.setEnabled lawful script true)
      intro found
      exact lawful.give .texts (lawful.texts_refl _)
  | disable script =>
      apply lawful.andThen_eq (steps.setEnabled lawful script false)
      intro found
      exact lawful.give .texts (lawful.texts_refl _)
  | help => exact lawful.give .texts (lawful.texts_refl _)

theorem reply
    (nick : String)
    (userClass : Int32)
    (trigger : String)
    (parsed : Except AdminError (Option AdminCommand)) :
    c.Relates Eq
      (Run.reply first.settings first.notifier nick userClass trigger parsed)
      (Run.reply second.settings second.notifier nick userClass trigger
        parsed) := by
  unfold Run.reply
  rw [steps.adminClass, steps.adminWord]
  by_cases hclass : userClass < first.settings.adminClass
  · rw [if_pos hclass, if_pos hclass]
    apply lawful.andThen_eq (steps.log rfl)
    intro _
    exact steps.send nick (lawful.text_refl _)
  · rw [if_neg hclass, if_neg hclass]
    rcases parsed with reason | (_ | command)
    · exact steps.send nick (lawful.text_refl _)
    · exact lawful.same ()
    · apply lawful.andThen_eq (steps.log rfl)
      intro _
      apply lawful.andThen .texts (steps.execute lawful _ _ command)
      intro texts others htexts
      exact steps.sendAll lawful nick htexts

/-- The administrative surface compares with itself. -/
theorem administer
    (nick command : String)
    (userClass : Int32)
    (trigger : String) :
    c.Relates Eq
      (Run.administer first.settings first.notifier nick command userClass
        trigger)
      (Run.administer second.settings second.notifier nick command userClass
        trigger) := by
  unfold Run.administer
  rw [steps.adminWord]
  split
  · exact lawful.same _
  · apply lawful.andThen_eq (steps.reply lawful nick userClass trigger _)
    intro _
    exact lawful.same _

end Administration

section Removal

/-- A removal compares with itself, and tells of one removal if it found any. -/
theorem unregister (script : ScriptId) :
    c.Accounts Bool.toNat Eq (Run.unregister first.settings scripts script)
      (Run.unregister second.settings others script) := by
  intro a b start
  have hfind := lawful.find start script
  cases live : a.state.find? script with
  | none =>
      rw [live, Option.map_none] at hfind
      rw [Run.unregister_of_unknown _ _ live, Run.unregister_of_unknown _ _ hfind]
      have found :
          c.Accounts Bool.toNat Eq
            (do Run.log (.unregisterUnknown script); Pure.pure false)
            (do Run.log (.unregisterUnknown script); Pure.pure false) := by
        apply lawful.andThen_eq (steps.log rfl)
        intro _ a b start
        exact lawful.pure .same start rfl rfl
      exact found a b start
  | some registration =>
      obtain rfl := Dispatcher.find?_eq_some_id live
      have htwin :
          b.state.find? (c.twin registration).id = some (c.twin registration) := by
        rw [lawful.twin_id, hfind, live, Option.map_some]
      rw [Run.unregister_of_live _ _ live, ← lawful.twin_id registration,
        Run.unregister_of_live _ _ htwin]
      exact steps.remove start live

theorem unregisterAll (ids : List ScriptId) :
    c.Accounts id Eq (Run.unregisterAll first.settings scripts ids)
      (Run.unregisterAll second.settings others ids) := by
  induction ids with
  | nil => exact fun _ _ start => lawful.pure .same start rfl rfl
  | cons script rest ih =>
      exact steps.sweep script rest (steps.unregister lawful script) ih

/-- A shutdown compares with itself, and tells of the removals that it counts. -/
theorem shutdown :
    c.Accounts id Eq (Run.shutdown first.settings scripts)
      (Run.shutdown second.settings others) := by
  have swept :
      ∀ ids : List ScriptId,
        c.Accounts id Eq
          (do
            Run.log (.shuttingDown ids.length)
            let removed ← Run.unregisterAll first.settings scripts ids
            Run.log (.shutDown removed)
            Pure.pure removed)
          (do
            Run.log (.shuttingDown ids.length)
            let removed ← Run.unregisterAll second.settings others ids
            Run.log (.shutDown removed)
            Pure.pure removed) := by
    intro ids
    apply lawful.andThen_eq (steps.log rfl)
    intro _
    exact steps.report (steps.unregisterAll lawful ids)
  intro a b start
  have key := swept a.state.ids a b start
  rw [Run.shutdown_apply, Run.shutdown_apply, lawful.ids start]
  exact key

end Removal

section Calls

variable
  (hdispatch :
    ∀ event,
      c.Relates c.report (Run.dispatch first.settings scripts event)
        (Run.dispatch second.settings others event))
include hdispatch

theorem raise (event : Event) :
    c.Relates Eq (Run.raise first scripts event)
      (Run.raise second others event) := by
  unfold Run.raise
  apply lawful.andThen .report (hdispatch event)
  intro result other hreport
  rw [lawful.report_verdict hreport]
  cases event with
  | hubCommand nick command userClass isOp trigger =>
      by_cases hblocked : result.verdict.isBlock = true
      · simp only [hblocked, if_true]
        exact lawful.same _
      · simp only [hblocked]
        exact steps.administer lawful nick command userClass trigger
  | _ => exact lawful.same _

/-- Every call but that of a registration is performed alike. -/
theorem perform
    {call : Call P}
    (hother : ∀ spec, call ≠ .register spec) :
    c.Accounts call.removals (c.answer call) (Run.perform first scripts call)
      (Run.perform second others call) := by
  cases hread : call.reading? with
  | some read =>
      intro a b start
      rw [Run.perform_of_reading first scripts hread,
        Run.perform_of_reading second others hread]
      apply lawful.pure (.answer call) start (lawful.reading start hread)
      cases call <;> cases hread <;> rfl
  | none =>
      cases call with
      | register spec => exact absurd rfl (hother spec)
      | unregister script =>
          rw [lawful.answer_same hread (by simp)]
          exact steps.unregister lawful script
      | enable script =>
          rw [lawful.answer_same hread (by simp)]
          exact steps.setEnabled lawful script true
      | disable script =>
          rw [lawful.answer_same hread (by simp)]
          exact steps.setEnabled lawful script false
      | dispatch event =>
          rw [lawful.answer_report]
          exact hdispatch event
      | raise event =>
          rw [lawful.answer_same hread (by simp)]
          exact steps.raise lawful hdispatch event
      | administer nick command userClass trigger =>
          rw [lawful.answer_same hread (by simp)]
          exact steps.administer lawful nick command userClass trigger
      | shutdown =>
          rw [lawful.answer_same hread (by simp)]
          exact steps.shutdown lawful
      | _ => cases hread

/-- **Every call but that of a registration is answered alike.** -/
theorem answers
    {call : Call P}
    (hother : ∀ spec, call ≠ .register spec) :
    c.Relates (c.answer call) (Run.answer first scripts call)
      (Run.answer second others call) :=
  steps.answer hother (steps.perform lawful hdispatch hother)

end Calls
end Steps

/--
What is asked of the visits of a walk: that a dispatch may be counted first, and that a
handler that is called compares, when it is its turn.
-/
structure Visits
    (c : Comparison P W N)
    (first second : Setup P W N)
    (scripts others : Scripts P W N) :
    Prop where
  attempt :
    ∀ {a b} (event : Event),
      c.start a b →
      c.start (a.attempted event) (b.attempted event)
  ready :
    ∀ {a b} (event : Event),
      c.start a b →
      ∀ binding ∈ a.state.table.get event.kind,
        c.ready event binding (a.attempted event)
  consult :
    ∀ {a b registration event binding},
      c.start a b →
      c.ready event binding a →
      a.state.find? binding.script = some registration →
      registration.enabled = true →
      c.ends c.outcome (fun _ => 0) a b
        (Run.consult first.settings scripts event binding
          registration.spec.name a)
        (Run.consult second.settings others event binding
          (c.twin registration).spec.name b)
  dispatch :
    ∀ {a b} event,
      c.start a b →
      c.ends c.report (fun _ => 0) (a.attempted event) (b.attempted event)
        (Run.dispatch first.settings scripts event a)
        (Run.dispatch second.settings others event b) →
      c.ends c.report (fun _ => 0) a b
        (Run.dispatch first.settings scripts event a)
        (Run.dispatch second.settings others event b)

namespace Visits

variable (lawful : c.Lawful) (visits : c.Visits first second scripts others)
include lawful visits

/-- A chain goes on alike once the outcome of a visit compares. -/
theorem walk
    (event : Event)
    (chain : List (Binding P))
    {a b : Machine P W N}
    (start : c.start a b)
    (hready : ∀ binding ∈ chain, c.ready event binding a) :
    c.ends c.report (fun _ => 0) a b
      (Run.walk first.settings scripts event chain a)
      (Run.walk second.settings others event chain b) := by
  induction chain generalizing a b with
  | nil => exact lawful.pure .report start (lawful.report_refl _) rfl
  | cons binding rest ih =>
      have hrest : ∀ other ∈ rest, c.ready event other a :=
        fun other hother => hready other (List.mem_cons_of_mem _ hother)
      have hfind := lawful.find start binding.script
      by_cases henabled : a.state.IsEnabled binding.script
      · obtain ⟨registration, live, enabled⟩ := henabled
        rw [live, Option.map_some] at hfind
        have enabled' := (lawful.twin_enabled registration).trans enabled
        rw [Run.walk_cons_eq_consult _ _ _ rest live enabled,
          Run.walk_cons_eq_consult _ _ _ rest hfind enabled']
        apply lawful.bind .outcome start
          (visits.consult start (hready binding (by simp)) live enabled)
        intro outcome other after later houtcome start' kept
        unfold Run.resume
        rw [lawful.outcome_passed houtcome]
        cases Verdict.passed other with
        | block => exact lawful.pure .report start' (lawful.report_refl _) rfl
        | allow =>
            apply lawful.bind .report start'
              (ih start' fun next hnext => kept _ _ (hrest next hnext))
            intro result report _ _ hreport start'' _
            exact lawful.pure .report start''
              (lawful.report_after binding.script hreport houtcome) rfl
      · have hidle : ¬ b.state.IsEnabled binding.script := by
          rintro ⟨twin, live, enabled⟩
          rw [hfind, Option.map_eq_some_iff] at live
          obtain ⟨registration, live, rfl⟩ := live
          rw [lawful.twin_enabled] at enabled
          exact henabled ⟨registration, live, enabled⟩
        rw [Run.walk_cons_of_idle _ _ _ rest henabled,
          Run.walk_cons_of_idle _ _ _ rest hidle]
        exact ih start hrest

variable (steps : c.Steps first second scripts others)
include steps

/-- Once they were counted, dispatches compare. -/
theorem attempted
    (event : Event)
    {a b : Machine P W N}
    (start : c.start a b) :
    c.ends c.report (fun _ => 0) (a.attempted event) (b.attempted event)
      (Run.dispatch first.settings scripts event a)
      (Run.dispatch second.settings others event b) := by
  have start' := visits.attempt event start
  have hready := visits.ready event start
  rw [Run.dispatch_apply, Run.dispatch_apply, lawful.table start]
  cases hchain : a.state.table.get event.kind with
  | nil => exact lawful.pure .report start' (lawful.report_refl _) rfl
  | cons binding rest =>
      rw [hchain] at hready
      apply lawful.bind .same start' (steps.log rfl _ _ start')
      intro _ _ after later _ start'' kept
      apply visits.walk lawful event _ start''
      intro other hother
      exact kept _ _ (hready other hother)

/-- **A dispatch compares with itself if the visits of its walk do.** -/
theorem dispatches (event : Event) :
    c.Relates c.report (Run.dispatch first.settings scripts event)
      (Run.dispatch second.settings others event) :=
  fun _ _ start =>
    visits.dispatch event start (visits.attempted lawful steps event start)

end Visits

section Observation

/--
What is asked of a comparison that looks at how a run ended, whether it returned or a
panic is on its way up: that it goes on from either, and with the records of it.
-/
structure Observes (c : Comparison P W N) : Prop where
  observe :
    ∀ {α β : Type} {results : α → α → Prop} {answers : β → β → Prop}
      {run other : Run P W N α} {next : Flow α → Run P W N β},
      c.Relates results run other →
      (∀ flow, flow ≠ .exhausted → c.Relates answers (next flow) (next flow)) →
      next .exhausted = Run.exhaust →
      c.Relates answers (run.observe >>= next) (other.observe >>= next)
  unwind :
    ∀ {α : Type} {results : α → α → Prop} payload,
      c.Relates results (Run.unwind payload) (Run.unwind payload)
  settle :
    ∀ {record},
      record.isSettling = true →
      c.Relates Eq (Run.emit record) (Run.emit record)

namespace Observes

variable (lawful : c.Lawful) (observes : c.Observes)
include lawful observes

/-- A cleanup that ended is taken account of, whether it failed or not. -/
theorem settleCleanup
    (settings : Settings)
    (registration : Registration P)
    {flow : Flow (Except String Unit)}
    (hends : flow ≠ .exhausted) :
    c.Relates Eq (Run.settleCleanup settings registration flow)
      (Run.settleCleanup settings registration flow) := by
  have hfailed :
      ∀ reason,
        c.Relates Eq (Run.cleanupFailed registration reason)
          (Run.cleanupFailed registration reason) := by
    intro reason
    apply lawful.andThen_eq (observes.settle rfl)
    intro _
    exact observes.settle rfl
  cases flow with
  | returned outcome =>
      cases outcome with
      | ok value => exact observes.settle rfl
      | error reason => exact hfailed _
  | unwinding payload =>
      simp only [Run.settleCleanup]
      split_ifs
      · exact hfailed _
      · apply lawful.andThen_eq (observes.settle rfl)
        intro _
        exact observes.unwind payload
  | exhausted => exact absurd rfl hends

/-- What is left of a cleanup that was begun compares if its code does. -/
theorem runCleanup
    (hscripts : c.RelatesScripts scripts others)
    (settings : Settings)
    (registration : Registration P) :
    c.Relates Eq (Run.runCleanup settings scripts registration)
      (Run.runCleanup settings others registration) := by
  unfold Run.runCleanup
  cases registration.spec.cleanup with
  | none => exact lawful.same ()
  | some cleanup =>
      apply observes.observe (hscripts.clean cleanup)
      · intro flow hends
        exact observes.settleCleanup lawful settings registration hends
      · rfl

/-- A call is answered alike if it is performed alike and its answer may be recorded. -/
theorem answer
    {call : Call P}
    (hanswer :
      ∀ value : call.Answer,
        c.Relates Eq (Run.emit (.answered call value))
          (Run.emit (.answered call value)))
    (hperform :
      c.Relates Eq (Run.perform first scripts call)
        (Run.perform second others call)) :
    c.Relates Eq (Run.answer first scripts call)
      (Run.answer second others call) := by
  apply observes.observe hperform
  · intro flow hends
    cases flow with
    | returned value =>
        apply lawful.andThen_eq (hanswer value)
        intro _
        exact lawful.same value
    | unwinding payload =>
        apply lawful.andThen_eq (observes.settle rfl)
        intro _
        exact observes.unwind payload
    | exhausted => exact absurd rfl hends
  · rfl

end Observes
end Observation

section UserCode

/--
What is asked of a comparison of user code with itself: that its answers are the same,
and that what code does by itself compares.
-/
structure Interprets (c : Comparison P W N) : Prop where
  store : ∀ {a b}, c.start a b → b.store = a.store
  unwind :
    ∀ {α : Type} {results : α → α → Prop} payload,
      c.Relates results (Run.unwind payload) (Run.unwind payload)
  exhaust :
    ∀ {α : Type} {results : α → α → Prop},
      c.Relates results Run.exhaust Run.exhaust
  write :
    ∀ store, c.Relates Eq (Run.writeStore store) (Run.writeStore store)
  log : ∀ entry, c.Relates Eq (Run.log entry) (Run.log entry)
  note :
    ∀ what, c.Relates Eq (Run.emit (.note what)) (Run.emit (.note what))

namespace Interprets

variable (lawful : c.Lawful) (interprets : c.Interprets)
include lawful interprets

/-- **Code compares with itself if its calls do.** -/
theorem run
    {answer other : (call : Call P) → Run P W N call.Answer}
    (hanswer : ∀ call, c.Relates Eq (answer call) (other call))
    (code : Code P W N R) :
    c.Relates Eq (code.run answer) (code.run other) := by
  induction code with
  | finish ending =>
      cases ending with
      | returned value => exact lawful.same _
      | failed reason => exact lawful.same _
      | panicked payload => exact interprets.unwind payload
  | call request next ih =>
      apply lawful.andThen_eq (hanswer request)
      intro value
      exact ih value
  | read next ih =>
      intro a b start
      have key := ih a.store a b start
      show
        c.ends Eq (fun _ => 0) a b ((next a.store).run answer a)
          ((next b.store).run other b)
      rw [interprets.store start]
      exact key
  | write store next ih =>
      apply lawful.andThen_eq (interprets.write store)
      intro _
      exact ih
  | log entry next ih =>
      apply lawful.andThen_eq (interprets.log entry)
      intro _
      exact ih
  | note what next ih =>
      apply lawful.andThen_eq (interprets.note what)
      intro _
      exact ih

/--
**All procedures compare with themselves**, by induction on the room for them, if calls
do whenever the procedures that they run compare.
-/
theorem procedures
    {first second : Setup P W N}
    (hbehaviour : second.behaviour = first.behaviour)
    (hanswer :
      ∀ room level,
        c.RelatesScripts (first.scripts room level)
          (second.scripts room level) →
        ∀ call,
          c.Relates Eq (Run.answer first (first.scripts room level) call)
            (Run.answer second (second.scripts room level) call))
    (room level : Nat) :
    c.RelatesScripts (first.scripts room level) (second.scripts room level) := by
  induction room generalizing level with
  | zero => exact ⟨fun _ _ => interprets.exhaust, fun _ => interprets.exhaust⟩
  | succ room ih =>
      have hcalls := hanswer room (level + 1) (ih (level + 1))
      unfold Setup.scripts
      rw [hbehaviour]
      constructor
      · intro procedure event
        exact interprets.run lawful hcalls _
      · intro procedure
        exact interprets.run lawful hcalls _

end Interprets
end UserCode

section Weightless

/-- A comparison keeps no account of removals. -/
def Weightless (c : Comparison P W N) : Prop :=
  ∀ {α : Type} {results : α → α → Prop} {removals others : α → Nat} {a b ending other},
    c.ends results removals a b ending other →
    c.ends results others a b ending other

variable (lawful : c.Lawful) (weightless : c.Weightless)
include lawful weightless

/-- Removals one after the other compare, where no account is kept of them. -/
theorem Lawful.sweep
    {settings policy : Settings}
    {scripts others : Scripts P W N}
    (script : ScriptId)
    (rest : List ScriptId)
    (hfirst :
      c.Accounts Bool.toNat Eq (Run.unregister settings scripts script)
        (Run.unregister policy others script))
    (hrest :
      c.Accounts id Eq (Run.unregisterAll settings scripts rest)
        (Run.unregisterAll policy others rest)) :
    c.Accounts id Eq (Run.unregisterAll settings scripts (script :: rest))
      (Run.unregisterAll policy others (script :: rest)) := by
  unfold Run.unregisterAll
  apply lawful.andThen_eq fun a b start => weightless (hfirst a b start)
  intro removed
  apply lawful.andThen_eq fun a b start => weightless (hrest a b start)
  intro count a b start
  exact weightless (lawful.same (count + if removed then 1 else 0) a b start)

theorem Lawful.report
    (hlog :
      ∀ removed,
        c.Relates Eq (Run.log (.shutDown removed)) (Run.log (.shutDown removed)))
    {run other : Run P W N Nat}
    (hrun : c.Accounts id Eq run other) :
    c.Accounts id Eq
      (do
        let removed ← run
        Run.log (.shutDown removed)
        Pure.pure removed)
      (do
        let removed ← other
        Run.log (.shutDown removed)
        Pure.pure removed) := by
  apply lawful.andThen_eq fun a b start => weightless (hrun a b start)
  intro removed
  apply lawful.andThen_eq (hlog removed)
  intro _ a b start
  exact weightless (lawful.same removed a b start)

end Weightless

section Together

variable (sound : Machine P W N → Prop)
variable (ready : Event → Binding P → Machine P W N → Prop)
variable
  (leads :
    {α : Type} →
    (α → Nat) →
    Machine P W N →
    Flow α × Machine P W N →
    Flow α × Machine P W N →
    Prop)

/--
The comparison of runs that start from one machine, by what is said of the machine and
of the ends.  A property of single runs is the comparison of a run with itself that
ignores the second end.
-/
def together : Comparison P W N where
  twin := id
  text := Eq
  outcome := Eq
  report := Eq
  answer := fun _ => Eq
  start a b := a = b ∧ sound a
  ready := ready
  ends _ removals a _ ending other := leads removals a ending other

variable {sound ready leads}

theorem Measure.eq
    {results : α → α → Prop}
    (measure : (together sound ready leads).Measure results) :
    results = Eq := by
  cases measure with
  | texts => exact List.forall₂_eq_eq_eq
  | _ => rfl

theorem together_accounts_iff
    {results : α → α → Prop}
    {removals : α → Nat}
    {run other : Run P W N α} :
    (together sound ready leads).Accounts removals results run other ↔
      ∀ m, sound m → leads removals m (run m) (other m) := by
  constructor
  · intro h m hsound
    exact h m m ⟨rfl, hsound⟩
  · rintro h m _ ⟨rfl, hsound⟩
    exact h m hsound

/-- What it takes to compare runs that start from one machine. -/
theorem together_lawful
    (keeps :
      ∀ {α : Type} {removals : α → Nat} {m ending other},
        sound m → leads removals m ending other → sound ending.2)
    (readies :
      ∀ {α : Type} {removals : α → Nat} {m ending other event binding},
        sound m →
        leads removals m ending other →
        ready event binding m →
        ready event binding ending.2)
    (stays :
      ∀ {α : Type} {removals : α → Nat} {m value},
        sound m →
        removals value = 0 →
        leads removals m (.returned value, m) (.returned value, m))
    (goesOn :
      ∀ {α β : Type} {removals : β → Nat} {run other : Run P W N α}
        {next onward : α → Run P W N β} {m : Machine P W N},
        sound m →
        leads (fun _ => 0) m (run m) (other m) →
        (∀ value mid,
          run m = (.returned value, mid) →
          leads removals mid (next value mid) (onward value mid)) →
        leads removals m ((run >>= next) m) ((other >>= onward) m)) :
    (together sound ready leads).Lawful where
  twin_id _ := rfl
  twin_enabled _ := rfl
  text_refl _ := rfl
  outcome_passed h := congrArg Verdict.passed h
  report_refl _ := rfl
  report_verdict h := congrArg DispatchResult.verdict h.symm
  report_after := by
    rintro result _ outcome _ script rfl rfl
    rfl
  answer_report _ := rfl
  answer_same _ _ := rfl
  answer_list := by
    rintro infos _ rfl
    exact List.forall₂_same.mpr fun _ _ => rfl
  answer_stats := by
    rintro stats _ rfl
    exact List.forall₂_same.mpr fun _ _ => rfl
  find := by
    rintro a _ ⟨rfl, _⟩ script
    simp [together]
  table h := congrArg (fun m => m.state.table) h.1.symm
  ids h := congrArg (fun m => m.state.ids) h.1.symm
  reading := by
    rintro a _ ⟨rfl, _⟩ call read _
    rfl
  pure := by
    rintro α results removals a _ value other measure ⟨rfl, hsound⟩ hresult hnone
    rw [measure.eq] at hresult
    subst hresult
    exact stays hsound hnone
  bind := by
    rintro α β results answers removals run other next onward a _ measure
      ⟨rfl, hsound⟩ hrun hnext
    apply goesOn hsound hrun
    intro value mid hreturned
    have hkeeps := keeps hsound hrun
    have hreadies :
        ∀ event binding, ready event binding a → ready event binding mid := by
      intro event binding h
      have later := readies hsound hrun h
      rwa [hreturned] at later
    rw [hreturned] at hkeeps
    apply hnext value value mid mid _ ⟨rfl, hkeeps⟩ hreadies
    rw [measure.eq]

/-- Runs from one machine hand a notice to one notifier alike. -/
theorem together_send
    (lawful : (together sound ready leads).Lawful)
    (notifier : Notifier)
    (nick text : String)
    (hcount :
      (together sound ready leads).Relates Eq Run.countNotice Run.countNotice)
    (hnotice :
      ∀ delivered,
        (together sound ready leads).Relates Eq
          (Run.emit (.notice nick text delivered))
          (Run.emit (.notice nick text delivered)))
    (hdropped :
      ∀ reason,
        (together sound ready leads).Relates Eq
          (Run.log (.noticeDropped nick reason))
          (Run.log (.noticeDropped nick reason))) :
    (together sound ready leads).Relates Eq (Run.send notifier nick text)
      (Run.send notifier nick text) := by
  rintro m _ ⟨rfl, hsound⟩
  cases hreceipt : notifier.deliver m.sent nick text with
  | ok value =>
      have happly :
          Run.send notifier nick text m =
            (do
              Run.countNotice
              Run.emit (.notice nick text true) : Run P W N Unit) m := by
        simp only [Run.send, Bind.bind, Run.andThen, Run.machine, Run.countNotice,
          hreceipt]
      have sent := lawful.andThen_eq hcount fun _ => hnotice true
      rw [happly]
      exact sent m m ⟨rfl, hsound⟩
  | error reason =>
      have happly :
          Run.send notifier nick text m =
            (do
              Run.countNotice
              Run.emit (.notice nick text false)
              Run.log (.noticeDropped nick reason) : Run P W N Unit) m := by
        simp only [Run.send, Bind.bind, Run.andThen, Run.machine, Run.countNotice,
          hreceipt]
      have sent :=
        lawful.andThen_eq hcount fun _ =>
          lawful.andThen_eq (hnotice false) fun _ => hdropped reason
      rw [happly]
      exact sent m m ⟨rfl, hsound⟩

end Together
end Comparison
end ScriptHub
