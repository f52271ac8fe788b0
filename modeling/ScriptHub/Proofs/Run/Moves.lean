import Mathlib.Logic.Relation
import ScriptHub.Proofs.Run.Comparison
import ScriptHub.Proofs.Run.Span

/-!
# The moves of a run

A course does not say which log records a run writes, nor when.  A move does: it
changes the dispatcher together with the record that tells of the change.  Only a
removal is told later than it is made, once the cleanup has ended; so a move is made
with the removals that are still to be told, the latest first.

The user code is discreet: it leaves the records that tell of registrations and of
handlers that failed to the dispatcher.  Panics of cleanups are caught, so that every
removal is told in the end.

**Results.**
* `Move`: what happens at once, with the removals that are to be told.
* `Run.moves_answer`: a call of user code leaves no removal untold that it made.
* `Setup.moves_landings`: at each point where the host stands between its calls, all
  removals were told.
* `Setup.moves_runAll`: so they were at the end of a run.
-/

namespace ScriptHub

variable {P W N R α β : Type}

section Discretion

/--
Whether a log record tells of a registration that was made, removed or toggled, or of
a handler that failed.
-/
def LogEntry.isReserved : LogEntry → Bool
  | .scriptRegistered .. => true
  | .scriptUnregistered .. => true
  | .stateChanged .. => true
  | .handlerFailed .. => true
  | _ => false

/--
Whether a record is a log record that is left to the dispatcher, or says that a
handler failed.
-/
def Record.isReserved : Record P N → Bool
  | .log entry => entry.isReserved
  | .handlerEnded _ _ (.error _) => true
  | _ => false

/-- Code leaves the reserved log records to the dispatcher. -/
def Code.IsDiscreet : Code P W N R → Prop
  | .finish _ => True
  | .call _ next => ∀ answer, (next answer).IsDiscreet
  | .read next => ∀ store, (next store).IsDiscreet
  | .write _ next => next.IsDiscreet
  | .log entry next => entry.isReserved = false ∧ next.IsDiscreet
  | .note _ next => next.IsDiscreet

/-- The procedures leave the reserved log records to the dispatcher. -/
structure Behaviour.IsDiscreet (behaviour : Behaviour P W N) : Prop where
  onEvent :
    ∀ level procedure event,
      (behaviour.onEvent level procedure event).IsDiscreet
  onRemoval :
    ∀ level procedure, (behaviour.onRemoval level procedure).IsDiscreet

end Discretion

/-- A machine, and the removals that are made and still to be told, latest first. -/
structure Standing (P W N : Type) where
  untold : List (Registration P)
  machine : Machine P W N

/-- What happens to a machine at once, with the removals that are to be told. -/
inductive Move (settings : Settings) :
    Standing P W N → Standing P W N → Prop
  | register
      (untold : List (Registration P))
      (m : Machine P W N)
      (spec : Spec P) :
      Move settings ⟨untold, m⟩ ⟨untold, m.registered settings spec⟩
  | remove
      (untold : List (Registration P))
      (m : Machine P W N)
      (registration : Registration P)
      (live : m.state.find? registration.id = some registration) :
      Move settings ⟨untold, m⟩
        ⟨registration :: untold, m.unregistered registration⟩
  | tell
      (untold : List (Registration P))
      (m : Machine P W N)
      (registration : Registration P) :
      Move settings ⟨registration :: untold, m⟩
        ⟨untold,
          m.emit
            (.log (.scriptUnregistered registration.id registration.spec.name))⟩
  | toggle
      (untold : List (Registration P))
      (m : Machine P W N)
      (registration : Registration P)
      (enabled : Bool)
      (live : m.state.find? registration.id = some registration)
      (change : registration.enabled ≠ enabled) :
      Move settings ⟨untold, m⟩ ⟨untold, m.toggled registration.id enabled⟩
  | attempt
      (untold : List (Registration P))
      (m : Machine P W N)
      (event : Event) :
      Move settings ⟨untold, m⟩ ⟨untold, m.attempted event⟩
  | fail
      (untold : List (Registration P))
      (m : Machine P W N)
      (script : ScriptId)
      (kind : EventKind)
      (name : String)
      (reason : HandlerError) :
      Move settings ⟨untold, m⟩
        ⟨untold,
          (m.failed script kind reason).emit
            (.log (.handlerFailed kind script name reason))⟩
  | record
      (untold : List (Registration P))
      (m : Machine P W N)
      (entry : Record P N)
      (free : entry.isReserved = false) :
      Move settings ⟨untold, m⟩ ⟨untold, m.emit entry⟩
  | write
      (untold : List (Registration P))
      (m : Machine P W N)
      (store : W) :
      Move settings ⟨untold, m⟩ ⟨untold, { m with store := store }⟩
  | send
      (untold : List (Registration P))
      (m : Machine P W N) :
      Move settings ⟨untold, m⟩ ⟨untold, { m with sent := m.sent + 1 }⟩

/-- What happens to a machine in all, with the removals that are to be told. -/
abbrev Moves (settings : Settings) : Standing P W N → Standing P W N → Prop :=
  Relation.ReflTransGen (Move settings)

/-- A move only adds to the trace. -/
theorem Move.trace_suffix
    {settings : Settings}
    {a b : Standing P W N}
    (move : Move settings a b) :
    a.machine.trace <:+ b.machine.trace := by
  cases move with
  | register untold m spec => exact ⟨[_, _, _], rfl⟩
  | remove untold m registration live =>
      have once : Step settings m (m.unregistered registration) :=
        .unregister m registration live
      exact once.trace_suffix
  | tell untold m registration => exact ⟨[_], rfl⟩
  | toggle untold m registration enabled live change => exact ⟨[_], rfl⟩
  | attempt untold m event => exact ⟨[_], rfl⟩
  | fail untold m script kind name reason => exact ⟨[_, _], rfl⟩
  | record untold m entry free => exact ⟨[_], rfl⟩
  | write untold m store => exact List.suffix_refl _
  | send untold m => exact List.suffix_refl _

theorem Moves.trace_suffix
    {settings : Settings}
    {a b : Standing P W N}
    (moves : Moves settings a b) :
    a.machine.trace <:+ b.machine.trace := by
  induction moves with
  | refl => exact List.suffix_refl _
  | tail _ move ih => exact ih.trans move.trace_suffix

/--
A run is made of moves, whatever removals are to be told around it, and tells all
those that it makes; unless the room gives out.
-/
def Run.Moves (settings : Settings) (run : Run P W N α) : Prop :=
  ∀ untold m,
    (run m).1 ≠ .exhausted →
    ScriptHub.Moves settings ⟨untold, m⟩ ⟨untold, (run m).2⟩

section Composition

variable {settings : Settings}

/--
The comparison of each run with itself by which a run is made of moves.
-/
def Settings.moving (settings : Settings) : Comparison P W N :=
  .together (fun _ => True) (fun _ _ _ => True)
    (fun _ m ending _ =>
      ∀ untold,
        ending.1 ≠ .exhausted →
        ScriptHub.Moves settings ⟨untold, m⟩ ⟨untold, ending.2⟩)

theorem Settings.moving_accounts_iff
    {results : α → α → Prop}
    {removals : α → Nat}
    {run other : Run P W N α} :
    settings.moving.Accounts removals results run other ↔ run.Moves settings :=
  Comparison.together_accounts_iff.trans
    ⟨fun h untold m => h m trivial untold, fun h m _ untold => h untold m⟩

open Settings (moving_accounts_iff)

theorem Settings.moving_lawful :
    (settings.moving : Comparison P W N).Lawful := by
  apply Comparison.together_lawful
  · intros
    trivial
  · intros
    trivial
  · intro α removals m value _ _ untold _
    exact .refl
  · intro α β removals run _ next _ m _ first second untold hends
    rw [Run.bind_apply] at hends ⊢
    unfold Run.andThen at hends ⊢
    generalize run m = ending at first second hends
    obtain ⟨flow, after⟩ := ending
    cases flow with
    | returned value =>
        exact (first untold (by simp)).trans (second value after rfl untold hends)
    | unwinding payload => exact first untold (by simp)
    | exhausted => exact absurd rfl hends

namespace Run

theorem moves_unwind (payload : Payload) :
    (unwind payload : Run P W N α).Moves settings :=
  fun _ _ _ => .refl

theorem moves_exhaust : (exhaust : Run P W N α).Moves settings :=
  fun _ _ hends => absurd rfl hends

theorem moves_emit
    {entry : Record P N}
    (free : entry.isReserved = false) :
    (emit entry : Run P W N Unit).Moves settings :=
  fun untold m _ => .single (.record untold m entry free)

end Run

theorem Settings.moving_observes :
    (settings.moving : Comparison P W N).Observes where
  observe := by
    intro α β results answers run _ next hrun hnext hexhausted
    apply moving_accounts_iff.mpr
    intro untold m hends
    have first := moving_accounts_iff.mp hrun untold m
    have happly : (run.observe >>= next) m = next (run m).1 (run m).2 := by rfl
    rw [happly] at hends ⊢
    generalize run m = ending at first hends
    obtain ⟨flow, after⟩ := ending
    by_cases hflow : flow = .exhausted
    · subst hflow
      rw [hexhausted] at hends
      exact absurd rfl hends
    · have goesOn := moving_accounts_iff.mp (hnext flow hflow) untold after hends
      exact (first hflow).trans goesOn
  unwind payload := moving_accounts_iff.mpr (Run.moves_unwind payload)
  settle := by
    intro record hrecord
    apply moving_accounts_iff.mpr
    apply Run.moves_emit
    cases record with
    | cleanupEnded | cleanupUnwound | unwound => rfl
    | log entry =>
        cases entry with
        | cleanupFailed => rfl
        | _ => cases hrecord
    | _ => cases hrecord

end Composition

section Steps

variable {setup : Setup P W N} {scripts : Scripts P W N}
variable {settings : Settings}

namespace Run

/-- A removal is told once its cleanup has ended, as no panic of it gets away. -/
theorem moves_removal
    (catches : settings.catchCleanupPanics = true)
    (hscripts : settings.moving.RelatesScripts scripts scripts)
    {m : Machine P W N}
    {registration : Registration P}
    (live : m.state.find? registration.id = some registration)
    (untold : List (Registration P))
    (hends :
      (afterRemoval settings scripts registration
        (m.unregistered registration)).1 ≠ .exhausted) :
    ScriptHub.Moves settings ⟨untold, m⟩
      ⟨untold,
        (afterRemoval settings scripts registration
          (m.unregistered registration)).2⟩ := by
  have removed :
      Move settings ⟨untold, m⟩
        ⟨registration :: untold, m.unregistered registration⟩ :=
    .remove untold m registration live
  apply Relation.ReflTransGen.head removed
  cases hafter :
      afterRemoval settings scripts registration
        (m.unregistered registration) with
  | mk flow last =>
      rw [hafter] at hends
      cases flow with
      | returned value =>
          obtain ⟨_, cleaned, hclean, htell⟩ := bind_eq_returned hafter
          obtain ⟨_, rfl⟩ := Prod.mk.inj htell
          have hcleanup :=
            Settings.moving_observes.runCleanup Settings.moving_lawful hscripts
              settings registration
          have cleans :=
            Settings.moving_accounts_iff.mp hcleanup (registration :: untold)
              (m.unregistered registration)
          rw [hclean] at cleans
          exact (cleans (by simp)).tail (.tell untold cleaned registration)
      | unwinding payload =>
          have huncaught := (afterRemoval_eq_unwinding hafter).1
          exact absurd (catches.symm.trans huncaught) (by simp)
      | exhausted => exact absurd rfl hends

/--
A handler that is called takes moves; a failure of it is counted at the end, and is
still to be told.
-/
theorem moves_invoke
    (hscripts : settings.moving.RelatesScripts scripts scripts)
    (event : Event)
    (binding : Binding P)
    (untold : List (Registration P))
    {m after : Machine P W N}
    {flow : Flow (Except HandlerError Verdict)}
    (h : invoke settings scripts event binding m = (flow, after))
    (hends : flow ≠ .exhausted) :
    ∃ stop,
      ScriptHub.Moves settings ⟨untold, m⟩ ⟨untold, stop⟩ ∧
        (match flow with
          | .returned (.error reason) =>
              after = stop.failed binding.script event.kind reason
          | _ => after = stop) := by
  let began :=
    m.emit (.handlerBegan binding.script binding.handler event)
  have hinvoke :
      invoke settings scripts event binding m =
        settleHandler settings binding.script event.kind
          (scripts.handle binding.handler event began).1
          (scripts.handle binding.handler event began).2 := by
    rfl
  have first : Move settings ⟨untold, m⟩ ⟨untold, began⟩ :=
    .record untold m _ rfl
  have second :=
    Settings.moving_accounts_iff.mp (hscripts.handle binding.handler event)
      untold began
  rw [hinvoke] at h
  generalize scripts.handle binding.handler event began = ending at h second
  obtain ⟨ending, stop⟩ := ending
  have within :
      ending ≠ .exhausted →
        ScriptHub.Moves settings ⟨untold, m⟩ ⟨untold, stop⟩ :=
    fun hending => .head first (second hending)
  cases ending with
  | returned outcome =>
      cases outcome with
      | ok verdict =>
          obtain ⟨rfl, rfl⟩ := Prod.mk.inj h
          exact ⟨_, (within (by simp)).tail (.record untold stop _ rfl), rfl⟩
      | error reason =>
          obtain ⟨rfl, rfl⟩ := Prod.mk.inj h
          exact ⟨stop, within (by simp), rfl⟩
  | unwinding payload =>
      simp only [settleHandler] at h
      by_cases hcatch : settings.catchHandlerPanics = true
      · rw [if_pos hcatch] at h
        obtain ⟨rfl, rfl⟩ := Prod.mk.inj h
        exact ⟨stop, within (by simp), rfl⟩
      · rw [if_neg hcatch] at h
        obtain ⟨rfl, rfl⟩ := Prod.mk.inj h
        exact ⟨_, (within (by simp)).tail (.record untold stop _ rfl), rfl⟩
  | exhausted =>
      obtain ⟨rfl, rfl⟩ := Prod.mk.inj h
      exact absurd rfl hends

/-- A failure that was counted is told at once. -/
theorem moves_consult
    (hscripts : settings.moving.RelatesScripts scripts scripts)
    (event : Event)
    (binding : Binding P)
    (name : String) :
    (consult settings scripts event binding name).Moves settings := by
  intro untold m hends
  unfold consult at hends ⊢
  rw [bind_apply] at hends ⊢
  unfold andThen at hends ⊢
  cases hinvoke : invoke settings scripts event binding m with
  | mk flow after =>
      rw [hinvoke] at hends
      have called := moves_invoke hscripts event binding untold hinvoke
      cases flow with
      | unwinding payload =>
          obtain ⟨stop, moves, rfl⟩ := called (by simp)
          exact moves
      | exhausted => exact absurd rfl hends
      | returned outcome =>
          obtain ⟨stop, moves, hafter⟩ := called (by simp)
          rcases outcome with reason | (_ | _)
          · rw [hafter]
            exact moves.tail
              (.fail untold stop binding.script event.kind name reason)
          · obtain rfl := hafter
            exact moves
          · obtain rfl := hafter
            exact moves.tail (.record untold _ _ rfl)

end Run

open Settings (moving_accounts_iff moving_lawful moving_observes)

variable (catches : setup.settings.catchCleanupPanics = true)
variable (hscripts : setup.settings.moving.RelatesScripts scripts scripts)
include hscripts

include catches in
theorem Setup.moving_steps :
    setup.settings.moving.Steps setup setup scripts scripts where
  adminClass := rfl
  adminWord := rfl
  log := by
    intro entry himpersonal
    apply moving_accounts_iff.mpr
    apply Run.moves_emit
    cases entry with
    | scriptRegistered | scriptUnregistered | stateChanged | handlerFailed =>
        cases himpersonal
    | _ => rfl
  send := by
    rintro nick text _ rfl
    apply Comparison.together_send moving_lawful
    · exact moving_accounts_iff.mpr fun untold m _ => .single (.send untold m)
    · exact fun _ => moving_accounts_iff.mpr (Run.moves_emit rfl)
    · exact fun _ => moving_accounts_iff.mpr (Run.moves_emit rfl)
  toggle := by
    rintro a _ registration enabled ⟨rfl, _⟩ live change untold _
    exact .single (.toggle untold a registration enabled live change)
  remove := by
    rintro a _ registration ⟨rfl, _⟩ live untold hends
    exact Run.moves_removal catches hscripts live untold hends
  sweep := moving_lawful.sweep fun h => h
  report :=
    moving_lawful.report (fun h => h) fun _ =>
      moving_accounts_iff.mpr (Run.moves_emit rfl)
  answer _ hperform :=
    moving_observes.answer moving_lawful
      (fun _ => moving_accounts_iff.mpr (Run.moves_emit rfl)) hperform

theorem Setup.moving_visits :
    setup.settings.moving.Visits setup setup scripts scripts where
  attempt := by
    rintro a _ event ⟨rfl, _⟩
    exact ⟨rfl, trivial⟩
  ready _ _ _ _ := trivial
  consult := by
    rintro a _ registration event binding ⟨rfl, _⟩ _ _ _ untold hends
    exact
      Run.moves_consult hscripts event binding registration.spec.name untold a hends
  dispatch := by
    rintro a _ event ⟨rfl, _⟩ within untold hends
    exact .head (.attempt untold a event) (within untold hends)

include catches in
/-- **A call of user code tells all the removals that it makes.** -/
theorem Run.moves_answer (call : Call P) :
    (answer setup scripts call).Moves setup.settings := by
  by_cases hregister : ∃ spec, call = .register spec
  · obtain ⟨spec, rfl⟩ := hregister
    intro untold m _
    rw [answer_register]
    exact .single (.register untold m spec)
  · have steps := Setup.moving_steps catches hscripts
    have dispatches :=
      (Setup.moving_visits hscripts).dispatches moving_lawful steps
    have key :=
      steps.answers moving_lawful dispatches
        (fun spec hcall => hregister ⟨spec, hcall⟩ : ∀ spec, call ≠ .register spec)
    exact moving_accounts_iff.mp key

end Steps

section UserCode

variable {settings : Settings}
variable {answer : (call : Call P) → Run P W N call.Answer}

open Settings (moving_accounts_iff moving_lawful)

/-- Discreet code compares with itself if its calls do. -/
theorem Code.moving_run
    (hanswer : ∀ call, settings.moving.Relates Eq (answer call) (answer call))
    {code : Code P W N R}
    (discreet : code.IsDiscreet) :
    settings.moving.Relates Eq (code.run answer) (code.run answer) := by
  induction code with
  | finish ending =>
      cases ending with
      | returned value => exact moving_lawful.same _
      | failed reason => exact moving_lawful.same _
      | panicked payload => exact moving_accounts_iff.mpr (Run.moves_unwind payload)
  | call request next ih =>
      apply moving_lawful.andThen_eq (hanswer request)
      intro value
      exact ih value (discreet value)
  | read next ih => exact fun m _ start => ih m.store (discreet m.store) m _ start
  | write store next ih =>
      have written : (Run.writeStore store : Run P W N Unit).Moves settings :=
        fun untold m _ => .single (.write untold m store)
      apply moving_lawful.andThen_eq (moving_accounts_iff.mpr written)
      intro _
      exact ih discreet
  | log entry next ih =>
      have free : (Record.log entry : Record P N).isReserved = false := discreet.1
      apply moving_lawful.andThen_eq (moving_accounts_iff.mpr (Run.moves_emit free))
      intro _
      exact ih discreet.2
  | note what next ih =>
      apply moving_lawful.andThen_eq (moving_accounts_iff.mpr (Run.moves_emit rfl))
      intro _
      exact ih discreet

/-- Discreet code is made of moves if its calls are. -/
theorem Code.moves_run
    (hanswer : ∀ call, (answer call).Moves settings)
    {code : Code P W N R}
    (discreet : code.IsDiscreet) :
    (code.run answer).Moves settings :=
  moving_accounts_iff.mp
    (Code.moving_run (fun call => moving_accounts_iff.mpr (hanswer call)) discreet)

/-- Where code stands between its calls: the machine after each of them. -/
def Code.landings
    (answer : (call : Call P) → Run P W N call.Answer) :
    Code P W N R → Machine P W N → List (Machine P W N)
  | .finish _, _ => []
  | .call request next, m =>
      match answer request m with
      | (.returned value, after) =>
          after :: (next value).landings answer after
      | (.unwinding _, after) => [after]
      | (.exhausted, _) => []
  | .read next, m => (next m.store).landings answer m
  | .write store next, m => next.landings answer { m with store := store }
  | .log entry next, m => next.landings answer (m.emit (.log entry))
  | .note what next, m => next.landings answer (m.emit (.note what))

/-- Moves lead to each point between the calls of code, and from there to its end. -/
theorem Code.moves_landings
    (hanswer : ∀ call, (answer call).Moves settings)
    {code : Code P W N R}
    (discreet : code.IsDiscreet)
    (untold : List (Registration P))
    {m landing : Machine P W N}
    (hends : (code.run answer m).1 ≠ .exhausted)
    (hlanding : landing ∈ code.landings answer m) :
    Moves settings ⟨untold, m⟩ ⟨untold, landing⟩ ∧
      Moves settings ⟨untold, landing⟩ ⟨untold, (code.run answer m).2⟩ := by
  induction code generalizing m with
  | finish ending => exact absurd hlanding (by simp [landings])
  | call request next ih =>
      have called := hanswer request untold m
      have hrun :
          (Code.call request next).run answer m =
            Run.andThen (answer request)
              (fun value => (next value).run answer) m := by
        rfl
      rw [hrun] at hends ⊢
      unfold landings at hlanding
      unfold Run.andThen at hends ⊢
      generalize answer request m = ending at called hends hlanding ⊢
      obtain ⟨flow, after⟩ := ending
      cases flow with
      | returned value =>
          have first := called (by simp)
          rcases List.mem_cons.mp hlanding with rfl | hlater
          · exact ⟨first, moves_run hanswer (discreet value) untold _ hends⟩
          · obtain ⟨before, behind⟩ := ih value (discreet value) hends hlater
            exact ⟨first.trans before, behind⟩
      | unwinding payload =>
          rw [List.mem_singleton] at hlanding
          subst hlanding
          exact ⟨called (by simp), .refl⟩
      | exhausted => exact absurd rfl hends
  | read next ih => exact ih m.store (discreet m.store) hends hlanding
  | write store next ih =>
      obtain ⟨before, behind⟩ := ih discreet hends hlanding
      exact ⟨.head (.write untold m store) before, behind⟩
  | log entry next ih =>
      obtain ⟨before, behind⟩ := ih discreet.2 hends hlanding
      exact ⟨.head (.record untold m (.log entry) discreet.1) before, behind⟩
  | note what next ih =>
      obtain ⟨before, behind⟩ := ih discreet hends hlanding
      exact ⟨.head (.record untold m _ rfl) before, behind⟩

end UserCode

namespace Setup

variable {setup : Setup P W N}

/-- Discreet procedures are made of moves, whatever the room for them. -/
theorem moving_scripts
    (catches : setup.settings.catchCleanupPanics = true)
    (discreet : setup.behaviour.IsDiscreet)
    (room level : Nat) :
    setup.settings.moving.RelatesScripts (setup.scripts room level)
      (setup.scripts room level) := by
  induction room generalizing level with
  | zero =>
      constructor
      · intro procedure event
        exact Settings.moving_accounts_iff.mpr Run.moves_exhaust
      · intro procedure
        exact Settings.moving_accounts_iff.mpr Run.moves_exhaust
  | succ room ih =>
      have hanswer :
          ∀ call,
            setup.settings.moving.Relates Eq
              (Run.answer setup (setup.scripts room (level + 1)) call)
              (Run.answer setup (setup.scripts room (level + 1)) call) :=
        fun call =>
          Settings.moving_accounts_iff.mpr
            (Run.moves_answer catches (ih (level + 1)) call)
      constructor
      · intro procedure event
        exact Code.moving_run hanswer (discreet.onEvent level procedure event)
      · intro procedure
        exact Code.moving_run hanswer (discreet.onRemoval level procedure)

/-- Where the host stands between its calls: the machine after each of them. -/
def landings
    (setup : Setup P W N)
    (room : Nat) :
    List (Code P W N R) → Machine P W N → List (Machine P W N)
  | [], _ => []
  | code :: rest, m =>
      code.landings (Run.answer setup (setup.scripts room 0)) m ++
        setup.landings room rest (setup.runHost room code m).2

variable {room : Nat} {codes : List (Code P W N R)} {m : Machine P W N}

/-- **All the removals that a run makes were told at its end.** -/
theorem moves_runAll
    (catches : setup.settings.catchCleanupPanics = true)
    (discreet : setup.behaviour.IsDiscreet)
    (discreetHost : ∀ code ∈ codes, code.IsDiscreet)
    (hends : .exhausted ∉ (setup.runAll room codes m).1)
    (untold : List (Registration P)) :
    Moves setup.settings ⟨untold, m⟩
      ⟨untold, (setup.runAll room codes m).2⟩ := by
  induction codes generalizing m with
  | nil => exact .refl
  | cons code rest ih =>
      have hanswer :=
        Run.moves_answer catches (moving_scripts catches discreet room 0)
      obtain ⟨hcode, hrest⟩ := List.forall_mem_cons.mp discreetHost
      obtain ⟨hfirst, hothers⟩ := not_or.mp (mt List.mem_cons.mpr hends)
      have first := Code.moves_run hanswer hcode untold m (Ne.symm hfirst)
      exact first.trans (ih hrest hothers)

/-- Moves lead to each point between the calls of the host, and from there on. -/
theorem moves_landings
    (catches : setup.settings.catchCleanupPanics = true)
    (discreet : setup.behaviour.IsDiscreet)
    (discreetHost : ∀ code ∈ codes, code.IsDiscreet)
    (hends : .exhausted ∉ (setup.runAll room codes m).1)
    (untold : List (Registration P))
    {landing : Machine P W N}
    (hlanding : landing ∈ setup.landings room codes m) :
    Moves setup.settings ⟨untold, m⟩ ⟨untold, landing⟩ ∧
      Moves setup.settings ⟨untold, landing⟩
        ⟨untold, (setup.runAll room codes m).2⟩ := by
  induction codes generalizing m with
  | nil => exact absurd hlanding (by simp [landings])
  | cons code rest ih =>
      have hanswer :=
        Run.moves_answer catches (moving_scripts catches discreet room 0)
      obtain ⟨hcode, hrest⟩ := List.forall_mem_cons.mp discreetHost
      obtain ⟨hfirst, hothers⟩ := not_or.mp (mt List.mem_cons.mpr hends)
      rcases List.mem_append.mp hlanding with hwithin | hlater
      · obtain ⟨before, behind⟩ :=
          Code.moves_landings hanswer hcode untold (Ne.symm hfirst) hwithin
        have goesOn := moves_runAll catches discreet hrest hothers untold
        exact ⟨before, behind.trans goesOn⟩
      · have first := Code.moves_run hanswer hcode untold m (Ne.symm hfirst)
        obtain ⟨before, behind⟩ := ih hrest hothers hlater
        exact ⟨first.trans before, behind⟩

end Setup
end ScriptHub
