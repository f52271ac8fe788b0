import ScriptHub.Config.Basic
import ScriptHub.Proofs.Run.Agreement

/-!
# Catching panics

One run is performed twice: once with panics of user code caught and counted as
failures, and once with them passed on.  The two differ where a handler or a cleanup has
ended, and nowhere else; so all user code agrees with itself up to its first panic.

**Results.**
* `agrees_settleHandler`, `agrees_settleCleanup`: the two places where a panic is caught
  in the one run and passed on in the other.
* `Setup.agrees_runHost`: every piece of host code agrees with itself.
* `uncaught_run_agrees_up_to_first_panic`: the comparison for whole runs.
-/

namespace ScriptHub

variable {P W N R : Type}

/-- The settings with panics of user code either all caught or all passed on. -/
def Settings.catching (settings : Settings) (catches : Bool) : Settings :=
  { settings with
    catchHandlerPanics := catches
    catchCleanupPanics := catches }

/-- The setup with panics of user code either all caught or all passed on. -/
def Setup.catching (setup : Setup P W N) (catches : Bool) : Setup P W N :=
  { setup with settings := setup.settings.catching catches }

/-- The switch of a configuration catches or passes on all panics of user code. -/
theorem Settings.ofConfig_catching
    (config : DispatcherConfig)
    (catches : Bool) :
    Settings.ofConfig { config with catchPanics := catches } =
      (Settings.ofConfig config).catching catches := by
  rfl

open Comparison (agreeing agreeing_accounts_iff agreeing_lawful agreeing_interprets)

namespace Machine

variable (m : Machine P W N)

theorem calmTo_registered (settings : Settings) (spec : Spec P) :
    m.CalmTo (m.registered settings spec) :=
  ⟨[_, _, _], rfl, by simp [Record.isPanic]⟩

theorem calmTo_unregistered (registration : Registration P) :
    m.CalmTo (m.unregistered registration) := by
  unfold unregistered
  cases registration.spec.cleanup with
  | none => exact ⟨[_], rfl, by simp [Record.isPanic]⟩
  | some cleanup => exact ⟨[_, _], rfl, by simp [Record.isPanic]⟩

theorem calmTo_toggled (script : ScriptId) (enabled : Bool) :
    m.CalmTo (m.toggled script enabled) :=
  ⟨[_], rfl, by simp [Record.isPanic]⟩

theorem calmTo_attempted (event : Event) : m.CalmTo (m.attempted event) :=
  ⟨[_], rfl, by simp [Record.isPanic]⟩

end Machine

namespace Run

variable {caught uncaught : Scripts P W N} {settings : Settings}

section Handlers

/-- A handler that panicked is counted here, and left there. -/
theorem agrees_settleHandler
    (script : ScriptId)
    (kind : EventKind)
    (flow : Flow (Except String Verdict)) :
    Agrees
      (settleHandler (settings.catching true) script kind flow :
        Run P W N (Except HandlerError Verdict))
      (settleHandler (settings.catching false) script kind flow) := by
  cases flow with
  | returned outcome =>
      intro m
      cases outcome with
      | ok verdict => exact .inl ⟨rfl, [_], rfl, by simp [Record.isPanic]⟩
      | error reason => exact .inl ⟨rfl, [_], rfl, by simp [Record.isPanic]⟩
  | unwinding payload =>
      intro m
      exact .inr
        ⟨m, .ofHandler script kind payload, .refl m, List.suffix_refl _, rfl,
          .refl payload _⟩
  | exhausted => exact isCalm_exhaust.agrees

theorem passesOn_settleHandler
    (script : ScriptId)
    (kind : EventKind) :
    PassesOn
      (settleHandler (settings.catching false) script kind :
        _ → Run P W N (Except HandlerError Verdict)) :=
  fun _ _ _ h => ⟨rfl, h.emit rfl⟩

theorem agrees_invoke
    (hscripts : agreeing.RelatesScripts caught uncaught)
    (event : Event)
    (binding : Binding P) :
    Agrees (invoke (settings.catching true) caught event binding)
      (invoke (settings.catching false) uncaught event binding) := by
  have handled := agreeing_accounts_iff.mp (hscripts.handle binding.handler event)
  intro m
  apply ((isCalm_emit rfl).agrees m).bind
  intro _ after _
  exact handled.observe_bind (agrees_settleHandler binding.script event.kind)
    (passesOn_settleHandler binding.script event.kind) after

theorem agrees_consult
    (hscripts : agreeing.RelatesScripts caught uncaught)
    (event : Event)
    (binding : Binding P)
    (name : String) :
    Agrees (consult (settings.catching true) caught event binding name)
      (consult (settings.catching false) uncaught event binding name) := by
  apply agreeing_accounts_iff.mp
  apply agreeing_lawful.andThen_eq
    (agreeing_accounts_iff.mpr (agrees_invoke hscripts event binding))
  intro outcome
  apply agreeing_lawful.andThen_eq
  · apply agreeing_accounts_iff.mpr
    apply IsCalm.agrees
    rcases outcome with reason | verdict
    · exact isCalm_log _
    · cases verdict with
      | allow => exact fun m => .refl m
      | block => exact isCalm_log _
  · intro _
    exact agreeing_lawful.same outcome

end Handlers

section Cleanups

/-- A cleanup that panicked has failed here, and is left there. -/
theorem agrees_settleCleanup
    (registration : Registration P)
    (flow : Flow (Except String Unit)) :
    Agrees
      (settleCleanup (settings.catching true) registration flow :
        Run P W N Unit)
      (settleCleanup (settings.catching false) registration flow) := by
  cases flow with
  | returned outcome =>
      intro m
      cases outcome with
      | ok _ => exact .inl ⟨rfl, [_], rfl, by simp [Record.isPanic]⟩
      | error reason => exact .inl ⟨rfl, [_, _], rfl, by simp [Record.isPanic]⟩
  | unwinding payload =>
      intro m
      exact .inr
        ⟨m, .ofCleanup registration.id payload, .refl m, List.suffix_cons _ _,
          rfl, .refl payload _⟩
  | exhausted => exact isCalm_exhaust.agrees

theorem passesOn_settleCleanup (registration : Registration P) :
    PassesOn
      (settleCleanup (settings.catching false) registration :
        _ → Run P W N Unit) :=
  fun _ _ _ h => ⟨rfl, h.emit rfl⟩

theorem agrees_afterRemoval
    (hscripts : agreeing.RelatesScripts caught uncaught)
    (registration : Registration P) :
    Agrees (afterRemoval (settings.catching true) caught registration)
      (afterRemoval (settings.catching false) uncaught registration) := by
  apply agreeing_accounts_iff.mp
  apply agreeing_lawful.andThen_eq
  · unfold runCleanup
    cases registration.spec.cleanup with
    | none => exact agreeing_lawful.same ()
    | some cleanup =>
        apply agreeing_accounts_iff.mpr
        exact (agreeing_accounts_iff.mp (hscripts.clean cleanup)).observe_bind
          (agrees_settleCleanup registration) (passesOn_settleCleanup registration)
  · intro _
    apply agreeing_lawful.andThen_eq
      (agreeing_accounts_iff.mpr (isCalm_log _).agrees)
    intro _
    exact agreeing_lawful.same true

end Cleanups
end Run

section Calls

variable (setup : Setup P W N) {caught uncaught : Scripts P W N}
variable (hscripts : agreeing.RelatesScripts caught uncaught)
include hscripts

theorem Setup.agreeing_steps :
    agreeing.Steps (setup.catching true) (setup.catching false) caught
      uncaught where
  adminClass := rfl
  adminWord := rfl
  log _ := agreeing_accounts_iff.mpr (Run.isCalm_log _).agrees
  send := by
    rintro nick text _ rfl
    apply Comparison.together_send agreeing_lawful
    · exact agreeing_accounts_iff.mpr Run.isCalm_countNotice.agrees
    · exact fun _ => agreeing_accounts_iff.mpr (Run.isCalm_emit rfl).agrees
    · exact fun _ => agreeing_accounts_iff.mpr (Run.isCalm_log _).agrees
  toggle := by
    rintro a _ registration enabled ⟨rfl, _⟩ _ _
    exact .inl ⟨rfl, a.calmTo_toggled registration.id enabled⟩
  remove := by
    rintro a _ registration ⟨rfl, _⟩ _
    exact (Run.agrees_afterRemoval hscripts registration _).of_calm
      (a.calmTo_unregistered registration)
  sweep := agreeing_lawful.sweep fun h => h
  report :=
    agreeing_lawful.report (fun h => h) fun _ =>
      agreeing_accounts_iff.mpr (Run.isCalm_log _).agrees
  answer := by
    intro call _ hperform
    have performed := agreeing_accounts_iff.mp hperform
    apply agreeing_accounts_iff.mpr
    apply performed.observe_bind
    · intro flow
      apply Run.IsCalm.agrees
      cases flow with
      | returned value => exact fun _ => ⟨[_], rfl, by simp [Record.isPanic]⟩
      | unwinding payload => exact fun _ => ⟨[_], rfl, by simp [Record.isPanic]⟩
      | exhausted => exact Run.isCalm_exhaust
    · intro payload m later h
      exact ⟨rfl, h.emit rfl⟩

theorem Setup.agreeing_visits :
    agreeing.Visits (setup.catching true) (setup.catching false) caught
      uncaught where
  attempt _ h := ⟨congrArg (Machine.attempted · _) h.1, trivial⟩
  ready _ _ _ _ := trivial
  consult := by
    rintro a _ registration event binding ⟨rfl, _⟩ _ _ _
    exact Run.agrees_consult hscripts event binding registration.spec.name a
  dispatch := by
    rintro a _ event ⟨rfl, _⟩ h
    exact Machine.Agrees.of_calm (a.calmTo_attempted event) h

/-- Every call is answered alike up to the first panic. -/
theorem Setup.agrees_answer (call : Call P) :
    Run.Agrees (Run.answer (setup.catching true) caught call)
      (Run.answer (setup.catching false) uncaught call) := by
  by_cases hregister : ∃ spec, call = .register spec
  · obtain ⟨spec, rfl⟩ := hregister
    intro m
    rw [Run.answer_register, Run.answer_register]
    exact .inl ⟨rfl, m.calmTo_registered _ spec⟩
  · apply agreeing_accounts_iff.mp
    have steps := setup.agreeing_steps hscripts
    have visits := setup.agreeing_visits hscripts
    exact steps.answers agreeing_lawful (visits.dispatches agreeing_lawful steps)
      fun spec hcall => hregister ⟨spec, hcall⟩

end Calls

section UserCode

namespace Setup

variable (setup : Setup P W N)

/-- All procedures agree with themselves. -/
theorem agree_scripts (room level : Nat) :
    agreeing.RelatesScripts ((setup.catching true).scripts room level)
      ((setup.catching false).scripts room level) := by
  refine agreeing_interprets.procedures agreeing_lawful ?_ ?_ room level
  · rfl
  · intro room level hscripts call
    exact agreeing_accounts_iff.mpr (setup.agrees_answer hscripts call)

theorem agrees_runHost
    (room : Nat)
    (code : Code P W N R) :
    Run.Agrees ((setup.catching true).runHost room code)
      ((setup.catching false).runHost room code) := by
  apply agreeing_accounts_iff.mp
  apply agreeing_interprets.run agreeing_lawful
  intro call
  exact agreeing_accounts_iff.mpr
    (setup.agrees_answer (setup.agree_scripts room 0) call)

/-- A run of the host only adds to the trace. -/
theorem trace_suffix_runAll
    (catches : Bool)
    (room : Nat)
    (codes : List (Code P W N R))
    (m : Machine P W N) :
    m.trace <:+ ((setup.catching catches).runAll room codes m).2.trace := by
  induction codes generalizing m with
  | nil => exact List.suffix_refl _
  | cons code rest ih =>
      have first := (setup.agrees_runHost room code m).trace_suffix
      cases catches with
      | true => exact first.1.trans (ih _)
      | false => exact first.2.trans (ih _)

end Setup
end UserCode

section WholeRuns

/--
A run of the host parts at its first panic.

The pieces of host code before the one that parts return the same.  The panic reaches
the host from that piece if it is passed on, and all that the run does later stands on
what it did until then.
-/
structure Setup.PartsAt
    (setup : Setup P W N)
    (room : Nat)
    (codes : List (Code P W N R))
    (start : Machine P W N)
    (front : List (Code P W N R))
    (piece : Code P W N R)
    (before mid : Machine P W N)
    (panic : Panic) :
    Prop where
  pieces : ∃ back, codes = front ++ piece :: back
  same :
    (setup.catching true).runAll room front start =
      (setup.catching false).runAll room front start
  reached : before = ((setup.catching true).runAll room front start).2
  calm : start.CalmTo mid
  parts :
    before.PartsAt mid panic ((setup.catching true).runHost room piece before)
      ((setup.catching false).runHost room piece before)
  caught_results :
    ((setup.catching true).runAll room front start).1 ++
        [((setup.catching true).runHost room piece before).1] <+:
      ((setup.catching true).runAll room codes start).1
  uncaught_results :
    ((setup.catching false).runAll room front start).1 ++
        [.unwinding panic.payload] <+:
      ((setup.catching false).runAll room codes start).1
  caught_trace :
    ((setup.catching true).runHost room piece before).2.trace <:+
      ((setup.catching true).runAll room codes start).2.trace
  uncaught_trace :
    ((setup.catching false).runHost room piece before).2.trace <:+
      ((setup.catching false).runAll room codes start).2.trace

variable {setup : Setup P W N} {room : Nat} {codes front : List (Code P W N R)}
variable {piece : Code P W N R} {start before mid : Machine P W N}
variable {panic : Panic}

/-- A run that parts at a panic is calm in neither way to perform it. -/
theorem Setup.PartsAt.not_calm
    (h : setup.PartsAt room codes start front piece before mid panic) :
    ¬ start.CalmTo ((setup.catching true).runAll room codes start).2 ∧
      ¬ start.CalmTo ((setup.catching false).runAll room codes start).2 := by
  have hstart := h.calm.trace_suffix
  constructor
  · obtain ⟨moment, hpanic, htrace⟩ := panic.caught_trace mid
    have hcaught := h.parts.caught.trans h.caught_trace
    rw [htrace] at hcaught
    exact Machine.not_calmTo_of_suffix hpanic hstart hcaught
  · obtain ⟨moment, hpanic, htrace⟩ := panic.passed_trace mid
    obtain ⟨news, hnews, _⟩ := h.parts.unwinds.passing
    have huncaught := List.IsSuffix.trans ⟨news, hnews.symm⟩ h.uncaught_trace
    rw [htrace] at huncaught
    exact Machine.not_calmTo_of_suffix hpanic hstart huncaught

/-- A run parts after a piece that agrees calmly if the rest of it does. -/
theorem Setup.PartsAt.cons
    {code : Code P W N R}
    {after : Machine P W N}
    {flow : Flow (Except String R)}
    (hcaught : (setup.catching true).runHost room code start = (flow, after))
    (huncaught : (setup.catching false).runHost room code start = (flow, after))
    (calm : start.CalmTo after)
    (h : setup.PartsAt room codes after front piece before mid panic) :
    setup.PartsAt room (code :: codes) start (code :: front) piece before mid
      panic := by
  obtain ⟨back, hpieces⟩ := h.pieces
  constructor
  · exact ⟨back, by rw [hpieces, List.cons_append]⟩
  · simp only [runAll, hcaught, huncaught, h.same]
  · simp only [runAll, hcaught, h.reached]
  · exact calm.trans h.calm
  · exact h.parts
  · simp only [runAll, hcaught]
    exact List.cons_prefix_cons.mpr ⟨rfl, h.caught_results⟩
  · simp only [runAll, huncaught]
    exact List.cons_prefix_cons.mpr ⟨rfl, h.uncaught_results⟩
  · simp only [runAll, hcaught]
    exact h.caught_trace
  · simp only [runAll, huncaught]
    exact h.uncaught_trace

/-- A whole run is calm and does the same in both ways, or parts at its first panic. -/
theorem Setup.runAll_catching
    (setup : Setup P W N)
    (room : Nat)
    (codes : List (Code P W N R))
    (start : Machine P W N) :
    ((setup.catching true).runAll room codes start =
        (setup.catching false).runAll room codes start ∧
      start.CalmTo ((setup.catching true).runAll room codes start).2) ∨
      ∃ front piece before mid panic,
        setup.PartsAt room codes start front piece before mid panic := by
  induction codes generalizing start with
  | nil => exact .inl ⟨rfl, .refl start⟩
  | cons code rest ih =>
      rcases setup.agrees_runHost room code start with
        ⟨heq, calm⟩ | ⟨mid, panic, parts⟩
      · generalize hending :
          (setup.catching true).runHost room code start = ending at heq calm
        obtain ⟨flow, after⟩ := ending
        rcases ih after with ⟨hrest, calm'⟩ | ⟨front, piece, before, mid, panic, h⟩
        · refine .inl ⟨?_, ?_⟩
          · simp only [runAll, hending, ← heq, hrest]
          · simp only [runAll, hending]
            exact calm.trans calm'
        · exact .inr
            ⟨code :: front, piece, before, mid, panic,
              h.cons hending heq.symm calm⟩
      · refine .inr ⟨[], code, start, mid, panic, ?_⟩
        constructor
        · exact ⟨rest, rfl⟩
        · rfl
        · rfl
        · exact parts.calm
        · exact parts
        · simp only [runAll, List.nil_append]
          exact List.cons_prefix_cons.mpr ⟨rfl, List.nil_prefix⟩
        · simp only [runAll, List.nil_append]
          exact List.cons_prefix_cons.mpr ⟨parts.escaped.symm, List.nil_prefix⟩
        · exact setup.trace_suffix_runAll true room rest _
        · exact setup.trace_suffix_runAll false room rest _

end WholeRuns

/-!
Reckless scripts: the handler of the first raises an event.  The handler of the second
lets the event through; that of the third panics while it removes the fourth script,
whose cleanup panics first.  The handler of the fifth is the last of the chain.
-/

namespace Reckless

/-- What the scripts run. -/
inductive Act
  | raising
  | counting
  | removing
  | tearing
  deriving DecidableEq

/-- The script whose handler raises an event. -/
def outer : Spec Act :=
  (Spec.named "outer").hook .timer .raising

/-- A script whose handler counts the events that it hears. -/
def counter (priority : Int32) : Spec Act :=
  ((Spec.named "counter").hook .chat .counting).withPriority priority

/-- The script whose handler removes the fourth script. -/
def remover : Spec Act :=
  (Spec.named "remover").hook .chat .removing

/-- The script whose cleanup panics. -/
def brittle : Spec Act :=
  (Spec.named "brittle").withCleanup .tearing

/-- What the handlers and the cleanup do. -/
def behaviour : Behaviour Act Nat Unit where
  onEvent := fun _ act _ =>
    match act with
    | .raising =>
        .call (.dispatch (.chat "ann" "hello")) fun _ => .done .allow
    | .counting => .read fun heard => .write (heard + 1) (.done .allow)
    | _ => .call (.unregister 4) fun _ => .finish (.panicked ⟨some "lost"⟩)
  onRemoval := fun _ _ => .finish (.panicked ⟨some "torn"⟩)

/-- The setup in which they run. -/
def setup : Setup Act Nat Unit where
  settings := {}
  notifier := .accepting
  behaviour := behaviour

/-- The host registers the scripts. -/
def registering : Code Act Nat Unit Stats :=
  .call (.register outer) fun _ =>
  .call (.register (counter 10)) fun _ =>
  .call (.register remover) fun _ =>
  .call (.register brittle) fun _ =>
  .call (.register (counter 200)) fun _ =>
  .ask .stats

/-- The host raises one event for the first script. -/
def raising : Code Act Nat Unit Stats :=
  .call (.dispatch (.timer 0)) fun _ => .ask .stats

/-- The run of some pieces of host code with panics caught or passed on. -/
def ending
    (catches : Bool)
    (codes : List (Code Act Nat Unit Stats)) :
    List (Flow (Except String Stats)) × Machine Act Nat Unit :=
  (setup.catching catches).runAll 4 codes (.fresh 0)

end Reckless

end ScriptHub
