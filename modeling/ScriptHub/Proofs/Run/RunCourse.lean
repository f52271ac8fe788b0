import ScriptHub.Proofs.Run.Comparison
import ScriptHub.Proofs.Run.Span

/-!
# Every run is made of spans

A run that is a span is one of the comparisons of runs, of the run with itself.  So the
operations of a dispatcher are spans, and so is all user code, once the steps are and
the visits to handlers; and a span takes a course.

A handler is called only while its registration is live and enabled.  That it is
still the handler which the registration declares is seen from the chain: its
bindings were declared when the chain was read, and what a registration declares
never changes.

**Results.**
* `Setup.spanning_steps`, `Setup.spanning_visits`: the steps and the visits are spans.
* `Setup.spans_scripts`: all procedures are spans and leave nothing to be answered.
* `Setup.runAll_induction`: what every span preserves is preserved by a run.
* `Setup.course_runAll`: every run takes a course, however deep its user code nests
  and however its parts end.
-/

namespace ScriptHub

variable {P W N R α β : Type}

/--
A binding is upheld: its id was issued, and its registration, if still live,
declares its handler.
-/
structure Dispatcher.Upholds
    (state : Dispatcher P)
    (kind : EventKind)
    (binding : Binding P) :
    Prop where
  issued : binding.script < state.nextId
  declared :
    ∀ {registration},
      state.find? binding.script = some registration →
      registration.spec.handler? kind = some binding.handler

/-- The bindings of a well-formed dispatcher are upheld. -/
theorem Dispatcher.WellFormed.upholds
    {state : Dispatcher P}
    (h : state.WellFormed)
    {kind : EventKind}
    {binding : Binding P}
    (hmem : binding ∈ state.table.get kind) :
    state.Upholds kind binding := by
  obtain ⟨owner, howner, hbinding⟩ := h.mem_table.mp hmem
  obtain ⟨hhandler, hid, _⟩ := Registration.binding?_eq_some.mp hbinding
  constructor
  · rw [← hid]
    exact h.issued owner howner
  · intro registration hfind
    rw [← hid, h.find?_of_mem howner, Option.some.injEq] at hfind
    rw [← hfind]
    exact hhandler

/-- A binding stays upheld while the dispatcher evolves. -/
theorem Dispatcher.Upholds.evolves
    {earlier later : Dispatcher P}
    {kind : EventKind}
    {binding : Binding P}
    (h : earlier.Upholds kind binding)
    (hevolves : earlier.Evolves later) :
    later.Upholds kind binding := by
  constructor
  · exact Nat.lt_of_lt_of_le h.issued hevolves.nextId_le
  · intro registration hfind
    obtain ⟨before, hbefore, hspec, _⟩ := hevolves.kept h.issued hfind
    rw [← hspec]
    exact h.declared hbefore

/--
A run is a span from every machine with a well-formed dispatcher.  What it returns
tells the removals that it leaves to be answered.
-/
def Run.Spans
    (setup : Setup P W N)
    (owed : α → Nat)
    (run : Run P W N α) :
    Prop :=
  ∀ m, m.state.WellFormed → Span setup m ((run m).1.owing owed) (run m).2

/--
The comparison of each run with itself by which a run is a span.  A handler may be
called if its binding is upheld and the dispatch of its event was begun.
-/
def Setup.spanning (setup : Setup P W N) : Comparison P W N :=
  .together (fun m => m.state.WellFormed)
    (fun event binding m =>
      m.state.Upholds event.kind binding ∧
        ∃ moment ∈ m.trace, moment.record = .dispatchBegan event)
    (fun owed m ending _ => Span setup m (ending.1.owing owed) ending.2)

variable {setup : Setup P W N} {scripts : Scripts P W N}

theorem Setup.spanning_accounts_iff
    {results : α → α → Prop}
    {owed : α → Nat}
    {run : Run P W N α} :
    setup.spanning.Accounts owed results run run ↔ run.Spans setup owed :=
  Comparison.together_accounts_iff

section Composition

variable {run : Run P W N α} {next : α → Run P W N β} {m : Machine P W N}
variable {owed : β → Nat}

/-- A span goes on with what follows a returned value. -/
theorem Span.bind
    (first : Span setup m ((run m).1.owing fun _ => 0) (run m).2)
    (second :
      ∀ value,
        (run m).1 = .returned value →
        Span setup (run m).2 ((next value (run m).2).1.owing owed)
          (next value (run m).2).2) :
    Span setup m (((run >>= next) m).1.owing owed) ((run >>= next) m).2 := by
  rw [Run.bind_apply]
  unfold Run.andThen
  generalize run m = ending at first second
  obtain ⟨flow, after⟩ := ending
  cases flow with
  | returned value => exact first.andThen (second value rfl)
  | unwinding payload => exact first
  | exhausted => exact first

theorem Run.Spans.bind
    (hrun : run.Spans setup fun _ => 0)
    (hnext : ∀ value, (next value).Spans setup owed) :
    (run >>= next).Spans setup owed := by
  intro m hwf
  have first := hrun m hwf
  apply first.bind
  intro value _
  exact hnext value _ (first.course.wellFormed hwf)

theorem Setup.spanning_lawful (setup : Setup P W N) : setup.spanning.Lawful := by
  apply Comparison.together_lawful
  · intro α owed m ending _ hwf span
    exact span.course.wellFormed hwf
  · rintro α owed m ending _ event binding _ span ⟨upheld, moment, hmoment, hrecord⟩
    exact ⟨upheld.evolves span.course.evolves, moment,
      span.course.trace_suffix.subset hmoment, hrecord⟩
  · intro α owed m value _ hnone
    simp only [Flow.owing, hnone]
    exact .stay m
  · intro α β owed run _ next _ m _ first second
    apply first.bind
    intro value hvalue
    exact second value (run m).2 (Prod.ext hvalue rfl)

/-- A record may follow what a run returns. -/
theorem Run.Spans.thenLog
    {owed : α → Nat}
    (hrun : run.Spans setup owed)
    (entry : α → LogEntry) :
    (do
      let value ← run
      Run.log (entry value)
      pure value).Spans setup owed := by
  intro m hwf
  have first := hrun m hwf
  show
    Span setup m ((run.andThen _ m).1.owing owed) (run.andThen _ m).2
  unfold Run.andThen
  generalize run m = ending at first
  obtain ⟨flow, after⟩ := ending
  cases flow with
  | returned value =>
      exact first.trans (.record after (.log (entry value)) rfl)
  | unwinding payload => exact first
  | exhausted => exact first

namespace Run

theorem spans_pure (value : α) :
    (pure value : Run P W N α).Spans setup fun _ => 0 :=
  fun m _ => .stay m

theorem spans_unwind (payload : Payload) :
    (unwind payload : Run P W N α).Spans setup fun _ => 0 :=
  fun m _ => .stay m

theorem spans_exhaust : (exhaust : Run P W N α).Spans setup fun _ => 0 :=
  fun m _ => .cut m

theorem spans_emit
    {entry : Record P N}
    (quiet : entry.isQuiet = true) :
    (emit entry : Run P W N Unit).Spans setup fun _ => 0 :=
  fun m _ => .record m entry quiet

theorem spans_log (entry : LogEntry) :
    (log entry : Run P W N Unit).Spans setup fun _ => 0 :=
  spans_emit rfl

theorem spans_send
    (notifier : Notifier)
    (nick text : String) :
    (send notifier nick text : Run P W N Unit).Spans setup fun _ => 0 := by
  unfold send
  have hmachine : (machine : Run P W N (Machine P W N)).Spans setup fun _ => 0 :=
    fun m _ => .stay m
  apply hmachine.bind
  intro seen
  have hcount : (countNotice : Run P W N Unit).Spans setup fun _ => 0 :=
    fun m _ => .send m
  apply hcount.bind
  intro _
  cases notifier.deliver seen.sent nick text with
  | ok _ => exact spans_emit rfl
  | error reason =>
      apply Run.Spans.bind (spans_emit rfl)
      intro _
      exact spans_log _

end Run

/-- What observes how a span ends goes on unless the room gave out. -/
theorem Setup.spanning_observes (setup : Setup P W N) : setup.spanning.Observes where
  observe := by
    intro α β results answers run _ next hrun hnext hexhausted m _ start
    obtain ⟨rfl, hwf⟩ := start
    have first : Span setup m ((run m).1.owing fun _ => 0) (run m).2 :=
      hrun m m ⟨rfl, hwf⟩
    have hwf' := first.course.wellFormed hwf
    show
      Span setup m ((next (run m).1 (run m).2).1.owing fun _ => 0)
        (next (run m).1 (run m).2).2
    generalize run m = ending at first hwf'
    obtain ⟨flow, after⟩ := ending
    have goesOn :
        flow ≠ .exhausted →
        Span setup after ((next flow after).1.owing fun _ => 0)
          (next flow after).2 :=
      fun hends => hnext flow hends after after ⟨rfl, hwf'⟩
    cases flow with
    | returned value => exact first.andThen (goesOn (by simp))
    | unwinding payload => exact first.andThen (goesOn (by simp))
    | exhausted =>
        rw [hexhausted]
        exact first
  unwind payload := Setup.spanning_accounts_iff.mpr (Run.spans_unwind payload)
  settle := by
    intro record hrecord
    apply Setup.spanning_accounts_iff.mpr
    apply Run.spans_emit
    cases record with
    | cleanupEnded | cleanupUnwound | unwound | log => rfl
    | _ => cases hrecord

end Composition

section Removal

variable {m : Machine P W N}

namespace Run

theorem spans_afterRemoval
    (hscripts : setup.spanning.RelatesScripts scripts scripts)
    (registration : Registration P) :
    (afterRemoval setup.settings scripts registration).Spans setup
      fun _ => 0 := by
  have hcleanup :=
    setup.spanning_observes.runCleanup setup.spanning_lawful hscripts
      setup.settings registration
  apply (Setup.spanning_accounts_iff.mp hcleanup).bind
  intro _
  apply (spans_log _).bind
  intro _
  exact spans_pure _

/-- A removal leaves itself to be answered, unless its cleanup panicked. -/
theorem span_removal
    (hscripts : setup.spanning.RelatesScripts scripts scripts)
    {registration : Registration P}
    (live : m.state.find? registration.id = some registration)
    (hwf : m.state.WellFormed) :
    Span setup m
      ((afterRemoval setup.settings scripts registration
        (m.unregistered registration)).1.owing Bool.toNat)
      (afterRemoval setup.settings scripts registration
        (m.unregistered registration)).2 := by
  have removed : Course setup m (m.unregistered registration) :=
    .step (.unregister m registration live)
  have within :=
    spans_afterRemoval hscripts registration _ (removed.wellFormed hwf)
  obtain ⟨ending, hending⟩ :=
    afterRemoval_fst setup.settings scripts registration
      (m.unregistered registration)
  generalize afterRemoval setup.settings scripts registration
    (m.unregistered registration) = last at within hending ⊢
  obtain ⟨flow, last⟩ := last
  have key := Span.removal m registration live within
  cases flow with
  | returned answer =>
      have htrue := eq_true_of_removalFlow hending.symm
      subst htrue
      exact key
  | unwinding payload =>
      exact .forfeit (removalFlow_eq_unwinding hending.symm).2 key
  | exhausted => exact key

theorem uncaught_of_unregisterAll
    {settings : Settings}
    {ids : List ScriptId}
    {payload : Payload}
    (h : (unregisterAll settings scripts ids m).1 = .unwinding payload) :
    settings.catchCleanupPanics = false := by
  induction ids generalizing m with
  | nil => exact absurd h (by simp [unregisterAll, pure, give])
  | cons script rest ih =>
      rcases bind_eq_unwinding (Prod.ext h rfl) with
        hfirst | ⟨removed, mid, _, hrest⟩
      · exact (unregister_eq_unwinding hfirst).1
      · rcases bind_eq_unwinding hrest with hrest | ⟨others, last, _, hsum⟩
        · exact ih (congrArg Prod.fst hrest)
        · exact absurd hsum (by simp [pure, give])

/-- Removals one after the other leave their sum to be answered. -/
theorem spans_sweep
    {script : ScriptId}
    {rest : List ScriptId}
    (hfirst : (unregister setup.settings scripts script).Spans setup Bool.toNat)
    (hrest : (unregisterAll setup.settings scripts rest).Spans setup id) :
    (unregisterAll setup.settings scripts (script :: rest)).Spans setup id := by
  intro m hwf
  have first := hfirst m hwf
  simp only [unregisterAll, bind, andThen]
  generalize unregister setup.settings scripts script m = ending at first
  obtain ⟨flow, mid⟩ := ending
  cases flow with
  | returned removed =>
      have second := hrest mid (first.course.wellFormed hwf)
      have huncaught :
          ∀ payload,
            (unregisterAll setup.settings scripts rest mid).1 =
              .unwinding payload →
            setup.settings.catchCleanupPanics = false :=
        fun _ => uncaught_of_unregisterAll
      simp only
      generalize unregisterAll setup.settings scripts rest mid = ending
        at second huncaught
      obtain ⟨flow, last⟩ := ending
      have both := first.trans second
      cases flow with
      | returned others =>
          have hsum :
              others + (if removed then 1 else 0) = removed.toNat + others := by
            cases removed <;> simp [Nat.add_comm]
          show Span setup m (some (others + if removed then 1 else 0)) last
          rw [hsum]
          exact both
      | unwinding payload => exact .forfeit (huncaught payload rfl) both
      | exhausted => exact both
  | unwinding payload => exact first
  | exhausted => exact first

end Run
end Removal

theorem HandlerCall.owing_settled
    (call : HandlerCall setup) :
    ((Run.settleHandler setup.settings call.binding.script call.event.kind
      call.flow call.stop).1.owing fun _ => 0) = call.owing := by
  unfold owing
  cases call.flow with
  | returned value => cases value <;> rfl
  | unwinding payload =>
      simp only [Run.settleHandler]
      split_ifs <;> rfl
  | exhausted => rfl

section Steps

variable {room level : Nat} {m : Machine P W N}

namespace Run

/-- The handler of a live and enabled registration may be called. -/
theorem span_invoke
    (hscripts :
      setup.spanning.RelatesScripts (setup.scripts room level)
        (setup.scripts room level))
    {event : Event}
    {binding : Binding P}
    (hwf : m.state.WellFormed)
    (due : m.state.IsDue event.kind binding)
    (begun : ∃ moment ∈ m.trace, moment.record = .dispatchBegan event) :
    Span setup m
      ((invoke setup.settings (setup.scripts room level) event binding
        m).1.owing fun _ => 0)
      (invoke setup.settings (setup.scripts room level) event binding m).2 := by
  let call : HandlerCall setup := ⟨room, level, binding, event, m⟩
  have within : Span setup call.began call.owing call.stop :=
    Setup.spanning_accounts_iff.mp (hscripts.handle binding.handler event)
      call.began hwf
  have key := Span.handler call due begun within
  rw [← call.owing_settled] at key
  exact key

/-- An answer takes account of the removals that it tells of. -/
theorem span_answered
    {call : Call P}
    (hother : ∀ spec, call ≠ .register spec)
    {after : Machine P W N}
    {value : call.Answer}
    (hwf : m.state.WellFormed)
    (hrun :
      perform setup (setup.scripts room level) call m = (.returned value, after))
    (span : Span setup m (some (call.removals value)) after) :
    Span setup m (some 0) (after.emit (.answered call value)) := by
  cases call with
  | register spec => exact absurd rfl (hother spec)
  | unregister script => exact .answerRemoval script value span
  | shutdown => exact .answerShutdown value span
  | dispatch event =>
      let call : DispatchCall setup := ⟨room, level, event, m⟩
      have hflow : call.flow = .returned value := congrArg Prod.fst hrun
      have hstop : call.stop = after := congrArg Prod.snd hrun
      have reported := Span.report call hwf value hflow
      rw [hstop] at reported
      exact span.andThen reported
  | _ => exact span.andThen (.record after _ rfl)

/-- A call is a span if what it leaves to be answered is answered by its record. -/
theorem spans_answer_of_perform
    {call : Call P}
    (hother : ∀ spec, call ≠ .register spec)
    (hperform :
      (perform setup (setup.scripts room level) call).Spans setup call.removals) :
    (answer setup (setup.scripts room level) call).Spans setup fun _ => 0 := by
  intro m hwf
  have first := hperform m hwf
  have answered :
      ∀ {after value},
        perform setup (setup.scripts room level) call m =
          (.returned value, after) →
        Span setup m (some (call.removals value)) after →
        Span setup m (some 0) (after.emit (.answered call value)) :=
    fun hrun => span_answered hother hwf hrun
  simp only [answer, bind, andThen, observe]
  generalize perform setup (setup.scripts room level) call m = ending
    at first answered
  obtain ⟨flow, after⟩ := ending
  cases flow with
  | returned value => exact answered rfl first
  | unwinding payload =>
      exact first.andThen (.record after (.unwound call payload) rfl)
  | exhausted => exact first

/-- A handler that is called is a span with the record of how it ended. -/
theorem span_consult
    (hscripts :
      setup.spanning.RelatesScripts (setup.scripts room level)
        (setup.scripts room level))
    {event : Event}
    {binding : Binding P}
    (name : String)
    (hwf : m.state.WellFormed)
    (due : m.state.IsDue event.kind binding)
    (begun : ∃ moment ∈ m.trace, moment.record = .dispatchBegan event) :
    Span setup m
      ((consult setup.settings (setup.scripts room level) event binding name
        m).1.owing fun _ => 0)
      (consult setup.settings (setup.scripts room level) event binding name
        m).2 := by
  apply (span_invoke hscripts hwf due begun).bind
  intro outcome _
  rcases outcome with reason | (_ | _)
  · exact .record _ (.log (.handlerFailed event.kind binding.script name reason)) rfl
  · exact .stay _
  · exact .record _ (.log (.handlerBlocked event.kind binding.script name)) rfl

end Run

variable
  (hscripts :
    setup.spanning.RelatesScripts (setup.scripts room level)
      (setup.scripts room level))
include hscripts

theorem Setup.spanning_steps :
    setup.spanning.Steps setup setup (setup.scripts room level)
      (setup.scripts room level) where
  adminClass := rfl
  adminWord := rfl
  log _ := Setup.spanning_accounts_iff.mpr (Run.spans_log _)
  send := by
    rintro nick text _ rfl
    exact Setup.spanning_accounts_iff.mpr (Run.spans_send setup.notifier nick text)
  toggle := by
    rintro a _ registration enabled ⟨rfl, _⟩ live change
    exact .toggle a registration enabled live change
  remove := by
    rintro a _ registration ⟨rfl, hwf⟩ live
    exact Run.span_removal hscripts live hwf
  sweep script rest hfirst hrest :=
    Setup.spanning_accounts_iff.mpr
      (Run.spans_sweep (Setup.spanning_accounts_iff.mp hfirst)
        (Setup.spanning_accounts_iff.mp hrest))
  report := by
    intro run other hrun
    have spans : run.Spans setup id := Comparison.together_accounts_iff.mp hrun
    exact Comparison.together_accounts_iff.mpr (spans.thenLog .shutDown)
  answer := by
    intro call hother hperform
    exact Setup.spanning_accounts_iff.mpr
      (Run.spans_answer_of_perform hother
        (Setup.spanning_accounts_iff.mp hperform))

theorem Setup.spanning_visits :
    setup.spanning.Visits setup setup (setup.scripts room level)
      (setup.scripts room level) where
  attempt := by
    rintro a _ event ⟨rfl, hwf⟩
    refine ⟨rfl, ?_⟩
    show (a.attempted event).state.WellFormed
    rw [Machine.attempted_state]
    exact hwf.retally _
  ready := by
    rintro a _ event ⟨rfl, hwf⟩ binding hmem
    have hevolves : a.state.Evolves (a.attempted event).state := by
      rw [Machine.attempted_state]
      exact Dispatcher.evolves_retally _ _
    exact ⟨(hwf.upholds hmem).evolves hevolves, _, List.mem_cons_self .., rfl⟩
  consult := by
    rintro a _ registration event binding ⟨rfl, hwf⟩ ⟨upheld, begun⟩ live enabled
    have due : a.state.IsDue event.kind binding :=
      ⟨registration, live, enabled, upheld.declared live⟩
    exact Run.span_consult hscripts registration.spec.name hwf due begun
  dispatch := by
    rintro a _ event ⟨rfl, hwf⟩ within
    exact .dispatch ⟨room, level, event, a⟩ hwf within

end Steps

section UserCode

theorem Setup.spanning_interprets (setup : Setup P W N) :
    setup.spanning.Interprets where
  store h := congrArg Machine.store h.1.symm
  unwind payload := Setup.spanning_accounts_iff.mpr (Run.spans_unwind payload)
  exhaust := Setup.spanning_accounts_iff.mpr Run.spans_exhaust
  write store := by
    apply Setup.spanning_accounts_iff.mpr
    intro m _
    exact .write m store
  log entry := Setup.spanning_accounts_iff.mpr (Run.spans_log entry)
  note what := Setup.spanning_accounts_iff.mpr (Run.spans_emit rfl)

namespace Run

variable {room level : Nat}
variable
  (hscripts :
    setup.spanning.RelatesScripts (setup.scripts room level)
      (setup.scripts room level))
include hscripts

/-- Once it was counted, a dispatch is a span. -/
theorem span_attempted
    (event : Event)
    {m : Machine P W N}
    (hwf : m.state.WellFormed) :
    Span setup (m.attempted event)
      ((dispatch setup.settings (setup.scripts room level) event m).1.owing
        fun _ => 0)
      (dispatch setup.settings (setup.scripts room level) event m).2 :=
  (Setup.spanning_visits hscripts).attempted setup.spanning_lawful
    (Setup.spanning_steps hscripts) event ⟨rfl, hwf⟩

theorem spans_dispatch (event : Event) :
    (dispatch setup.settings (setup.scripts room level) event).Spans setup
      fun _ => 0 :=
  Setup.spanning_accounts_iff.mp
    ((Setup.spanning_visits hscripts).dispatches setup.spanning_lawful
      (Setup.spanning_steps hscripts) event)

/-- A removal leaves itself to be answered, unless it found nothing to remove. -/
theorem spans_unregister (script : ScriptId) :
    (unregister setup.settings (setup.scripts room level) script).Spans setup
      Bool.toNat :=
  Setup.spanning_accounts_iff.mp
    ((Setup.spanning_steps hscripts).unregister setup.spanning_lawful script)

/-- A shutdown leaves as many removals to be answered as it counts. -/
theorem spans_shutdown :
    (shutdown setup.settings (setup.scripts room level)).Spans setup id :=
  Setup.spanning_accounts_iff.mp
    ((Setup.spanning_steps hscripts).shutdown setup.spanning_lawful)

/-- **A call of user code is a span and leaves nothing to be answered.** -/
theorem spans_answer (call : Call P) :
    (answer setup (setup.scripts room level) call).Spans setup fun _ => 0 := by
  by_cases hregister : ∃ spec, call = .register spec
  · obtain ⟨spec, rfl⟩ := hregister
    intro m _
    rw [answer_register]
    exact .register m spec
  · have key :=
      (Setup.spanning_steps hscripts).answers setup.spanning_lawful
        (fun event => Setup.spanning_accounts_iff.mpr (spans_dispatch hscripts event))
        (fun spec hcall => hregister ⟨spec, hcall⟩ : ∀ spec, call ≠ .register spec)
    exact Setup.spanning_accounts_iff.mp key

end Run

/-- All procedures are spans, whatever the room for them. -/
theorem Setup.spans_scripts
    (setup : Setup P W N)
    (room level : Nat) :
    setup.spanning.RelatesScripts (setup.scripts room level)
      (setup.scripts room level) := by
  apply setup.spanning_interprets.procedures setup.spanning_lawful rfl
  intro room level hscripts call
  exact Setup.spanning_accounts_iff.mpr (Run.spans_answer hscripts call)

theorem Setup.spans_handle
    (setup : Setup P W N)
    (room level : Nat)
    (procedure : P)
    (event : Event) :
    ((setup.scripts room level).handle procedure event).Spans setup fun _ => 0 :=
  Setup.spanning_accounts_iff.mp
    ((setup.spans_scripts room level).handle procedure event)

theorem Setup.spans_clean
    (setup : Setup P W N)
    (room level : Nat)
    (procedure : P) :
    ((setup.scripts room level).clean procedure).Spans setup fun _ => 0 :=
  Setup.spanning_accounts_iff.mp ((setup.spans_scripts room level).clean procedure)

theorem Setup.spans_runHost
    (setup : Setup P W N)
    (room : Nat)
    (code : Code P W N R) :
    (setup.runHost room code).Spans setup fun _ => 0 := by
  have hcalls :
      ∀ call,
        setup.spanning.Relates Eq (Run.answer setup (setup.scripts room 0) call)
          (Run.answer setup (setup.scripts room 0) call) :=
    fun call =>
      Setup.spanning_accounts_iff.mpr
        (Run.spans_answer (setup.spans_scripts room 0) call)
  exact Setup.spanning_accounts_iff.mp
    (setup.spanning_interprets.run setup.spanning_lawful hcalls code)

/--
What every span preserves is preserved by a run.  A part of the run for which the
room gave out is followed by the next part all the same, and is known by how it ended.
-/
theorem Setup.runAll_induction
    (setup : Setup P W N)
    (room : Nat)
    (I : Machine P W N → Prop)
    (codes : List (Code P W N R))
    {m : Machine P W N}
    (hspan :
      ∀ {a b owed},
        a.state.WellFormed →
        Span setup a owed b →
        (owed = none → .exhausted ∈ (setup.runAll room codes m).1) →
        I a →
        I b)
    (hwf : m.state.WellFormed)
    (h : I m) :
    I (setup.runAll room codes m).2 := by
  induction codes generalizing m with
  | nil => exact h
  | cons code rest ih =>
      have first := setup.spans_runHost room code m hwf
      have hgaveOut :
          (setup.runHost room code m).1.owing (fun _ => 0) = none →
          .exhausted ∈ (setup.runAll room (code :: rest) m).1 := by
        intro howed
        have hflow := Flow.owing_eq_none.mp howed
        exact List.mem_cons.mpr (.inl hflow.symm)
      refine ih ?_ (first.course.wellFormed hwf) (hspan hwf first hgaveOut h)
      intro a b owed hwf' span hout
      apply hspan hwf' span
      intro howed
      exact List.mem_cons_of_mem _ (hout howed)

/-- **Every run takes a course.** -/
theorem Setup.course_runAll
    (setup : Setup P W N)
    (room : Nat)
    (codes : List (Code P W N R))
    {m : Machine P W N}
    (hwf : m.state.WellFormed) :
    Course setup m (setup.runAll room codes m).2 := by
  refine
    setup.runAll_induction room (fun last => Course setup m last) codes ?_ hwf
      (.stay m)
  intro a b owed _ span _ hcourse
  exact hcourse.trans span.course

/-- A run from nothing takes a course. -/
theorem Setup.course_runAll_fresh
    (setup : Setup P W N)
    (room : Nat)
    (codes : List (Code P W N R))
    (store : W) :
    Course setup (.fresh store)
      (setup.runAll room codes (.fresh store)).2 :=
  setup.course_runAll room codes Dispatcher.wellFormed_empty

/-- A handler that began takes a course to where its end was taken account of. -/
theorem HandlerCall.course
    {setup : Setup P W N}
    (call : HandlerCall setup)
    (hwf : call.start.state.WellFormed) :
    Course setup call.began call.settled := by
  have within :=
    setup.spans_handle call.room call.level call.binding.handler call.event
      call.began hwf
  exact within.course.trans call.course_settled

end UserCode
end ScriptHub
