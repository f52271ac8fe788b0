import ScriptHub.Proofs.Run.Guise

/-!
# Runs retold

A run and the same run in another guise are led side by side.  To retell a run is a
comparison, in which every registration stands for itself under its new name: the same
registrations are looked up, the same user code is called, and the machines that are left
agree again but for their guise.  By induction on the room for nested user
code the same holds of all user code that is retold as itself.

**Results.**
* `Run.Retells`: a run that does the same in another guise.
* `Run.retells_consult`, `Run.retells_afterRemoval`, `Run.retells_send`: the steps that
  look up names, for what is logged or shown.
* `Guise.comparison_lawful`: what it takes to compare runs in two guises.
* `Run.retells_answer`: a call, with the registration that it makes renamed.
* `Setup.retells_runAll`: whole runs of the host.
-/

namespace ScriptHub

variable {P W N R S α β γ δ : Type}

/--
A run does in its own guise what another does in the other: from machines that agree
they end in the same way, and leave machines that agree.
-/
def Run.Retells
    (g : Guise W N)
    (results : α → β → Prop)
    (run : Run P W N α)
    (other : Run P W N β) :
    Prop :=
  ∀ a b : Machine P W N,
    a.Retold g b →
    (run a).1.Retold results (other b).1 ∧ (run a).2.Retold g (other b).2

/-- Procedures do the same in either guise. -/
structure Scripts.Retell
    (g : Guise W N)
    (scripts others : Scripts P W N) :
    Prop where
  handle :
    ∀ procedure event,
      (scripts.handle procedure event).Retells g Eq
        (others.handle procedure event)
  clean :
    ∀ procedure,
      (scripts.clean procedure).Retells g Eq (others.clean procedure)

section Machines

variable {g : Guise W N} {a b : Machine P W N}

namespace Machine.Retold

theorem emit_retold
    (h : a.Retold g b)
    {record other : Record P N}
    (hrecord : record.Retold g other) :
    (a.emit record).Retold g (b.emit other) :=
  ⟨h.state, h.store, .cons hrecord h.state h.trace, h.sent⟩

/-- A record that is no notice is written in either guise. -/
theorem emit
    (h : a.Retold g b)
    (record : Record P N)
    (hother : record.notice? = none) :
    (a.emit record).Retold g (b.emit (record.renamed g.names)) :=
  h.emit_retold (.renamed hother)

theorem update
    (h : a.Retold g b)
    (f k : Dispatcher P → Dispatcher P)
    (hstate : k (a.state.renamed g.names) = (f a.state).renamed g.names) :
    (a.update f).Retold g (b.update k) := by
  refine ⟨?_, h.store, h.trace, h.sent⟩
  show k b.state = (f a.state).renamed g.names
  rw [h.state, hstate]

/-- A registration is made in either guise, under the name that it has there. -/
theorem registered
    (h : a.Retold g b)
    (settings : Settings)
    (spec : Spec P) :
    (a.registered settings spec).Retold g
      (b.registered settings (spec.renamed g.names b.state.nextId)) := by
  have hnext : b.state.nextId = a.state.nextId := by
    rw [h.state, Dispatcher.renamed_nextId]
  unfold Machine.registered
  rw [hnext]
  set priority := spec.priority.getD settings.defaultPriority
  have henrolled :=
    h.update (fun s => s.enrolled spec priority)
      (fun s => s.enrolled (spec.renamed g.names a.state.nextId) priority)
      (a.state.renamed_enrolled g.names spec priority).symm
  have hbound :=
    henrolled.emit (.log (.bindingsInserted a.state.nextId spec.kinds.length)) rfl
  have hcounted :=
    (hbound.update
      (fun s => s.retally fun tally => tally.registered spec.autoEnable)
      (fun s => s.retally fun tally => tally.registered spec.autoEnable) rfl).emit
        (.log
          (.scriptRegistered a.state.nextId spec.name priority spec.kinds.length
            spec.autoEnable)) rfl
  exact hcounted.emit (.answered (.register spec) a.state.nextId) rfl

/-- A registration that is called otherwise is removed in the same way. -/
theorem unregistered
    (h : a.Retold g b)
    (registration : Registration P) :
    (a.unregistered registration).Retold g
      (b.unregistered (registration.renamed g.names)) := by
  have hwithdrawn :=
    h.update (fun s => s.withdrawn registration.id)
      (fun s => s.withdrawn registration.id)
      (a.state.renamed_withdrawn g.names registration.id).symm
  have hunbound :=
    hwithdrawn.emit
      (.log (.bindingsRemoved registration.id
        (a.state.table.countOf registration.id))) rfl
  have hcounted :=
    hunbound.update
      (fun s => s.retally fun tally => tally.unregistered registration.enabled)
      (fun s => s.retally fun tally => tally.unregistered registration.enabled) rfl
  have htable : b.state.table = a.state.table := by
    rw [h.state, Dispatcher.renamed_table]
  unfold Machine.unregistered
  rw [htable]
  have hcleanup :
      (registration.renamed g.names).spec.cleanup = registration.spec.cleanup := by
    rfl
  rw [hcleanup]
  cases registration.spec.cleanup with
  | none => exact hcounted
  | some cleanup => exact hcounted.emit (.cleanupBegan registration.id cleanup) rfl

theorem toggled
    (h : a.Retold g b)
    (script : ScriptId)
    (enabled : Bool) :
    (a.toggled script enabled).Retold g (b.toggled script enabled) := by
  have hswitched :=
    h.update
      (fun s => (s.setFlag script enabled).retally fun tally => tally.toggled enabled)
      (fun s => (s.setFlag script enabled).retally fun tally => tally.toggled enabled)
      (by rw [Dispatcher.renamed_retally, Dispatcher.renamed_setFlag])
  exact hswitched.emit (.log (.stateChanged script enabled)) rfl

theorem attempted
    (h : a.Retold g b)
    (event : Event) :
    (a.attempted event).Retold g (b.attempted event) := by
  have hcounted :=
    h.update (fun s => s.retally fun tally => tally.attempted event.kind)
      (fun s => s.retally fun tally => tally.attempted event.kind) rfl
  exact hcounted.emit (.dispatchBegan event) rfl

end Machine.Retold
end Machines

section Composition

variable {g : Guise W N} {results : α → β → Prop} {answers : γ → δ → Prop}

namespace Run

/-- What follows on ends that correspond goes on from them in the same way. -/
theorem retells_bind
    {run : Run P W N α} {other : Run P W N β}
    {next : α → Run P W N γ} {onward : β → Run P W N δ}
    {a b : Machine P W N}
    (hrun :
      (run a).1.Retold results (other b).1 ∧ (run a).2.Retold g (other b).2)
    (hnext :
      ∀ value result after later,
        results value result →
        after.Retold g later →
        (next value after).1.Retold answers (onward result later).1 ∧
          (next value after).2.Retold g (onward result later).2) :
    ((run >>= next) a).1.Retold answers ((other >>= onward) b).1 ∧
      ((run >>= next) a).2.Retold g ((other >>= onward) b).2 := by
  obtain ⟨hflow, hafter⟩ := hrun
  rw [bind_apply, bind_apply]
  unfold andThen
  generalize run a = ending at hflow hafter
  generalize other b = closing at hflow hafter
  obtain ⟨flow, after⟩ := ending
  obtain ⟨stream, later⟩ := closing
  cases hflow with
  | returned hresult => exact hnext _ _ _ _ hresult hafter
  | unwinding payload => exact ⟨.unwinding payload, hafter⟩
  | exhausted => exact ⟨.exhausted, hafter⟩

theorem Retells.bind
    {run : Run P W N α} {other : Run P W N β}
    {next : α → Run P W N γ} {onward : β → Run P W N δ}
    (hrun : run.Retells g results other)
    (hnext :
      ∀ value result, results value result →
        (next value).Retells g answers (onward result)) :
    (run >>= next).Retells g answers (other >>= onward) := by
  intro a b h
  apply retells_bind (hrun a b h)
  intro value result after later hresult hafter
  exact hnext value result hresult after later hafter

/-- A run that goes on with the same value goes on the same. -/
theorem Retells.bind_eq
    {run other : Run P W N α}
    {next : α → Run P W N γ} {onward : α → Run P W N δ}
    (hrun : run.Retells g Eq other)
    (hnext : ∀ value, (next value).Retells g answers (onward value)) :
    (run >>= next).Retells g answers (other >>= onward) := by
  apply hrun.bind
  rintro value _ rfl
  exact hnext value

/-- What observes how runs end goes on the same after corresponding ends. -/
theorem Retells.observe_bind
    {run : Run P W N α} {other : Run P W N β}
    {next : Flow α → Run P W N γ} {onward : Flow β → Run P W N δ}
    (hrun : run.Retells g results other)
    (hnext :
      ∀ flow stream, flow.Retold results stream →
        (next flow).Retells g answers (onward stream)) :
    (run.observe >>= next).Retells g answers (other.observe >>= onward) := by
  intro a b h
  obtain ⟨hflow, hafter⟩ := hrun a b h
  exact hnext _ _ hflow _ _ hafter

theorem retells_pure
    {value : α} {other : β}
    (h : results value other) :
    (pure value : Run P W N α).Retells g results (pure other) :=
  fun _ _ hm => ⟨.returned h, hm⟩

theorem retells_unwind (payload : Payload) :
    (unwind payload : Run P W N α).Retells g results (unwind payload) :=
  fun _ _ hm => ⟨.unwinding payload, hm⟩

theorem retells_exhaust :
    (exhaust : Run P W N α).Retells g results exhaust :=
  fun _ _ hm => ⟨.exhausted, hm⟩

theorem retells_emit
    (record : Record P N)
    (hother : record.notice? = none) :
    (emit record : Run P W N Unit).Retells g Eq (emit (record.renamed g.names)) :=
  fun _ _ hm => ⟨.returned rfl, hm.emit record hother⟩

theorem retells_log (entry : LogEntry) :
    (log entry : Run P W N Unit).Retells g Eq (log (entry.renamed g.names)) :=
  retells_emit (.log entry) rfl

theorem retells_retally (f : Tally → Tally) :
    (modifyState fun s => s.retally f : Run P W N Unit).Retells g Eq
      (modifyState fun s => s.retally f) :=
  fun _ _ hm =>
    ⟨.returned rfl, hm.update (fun s => s.retally f) (fun s => s.retally f) rfl⟩

end Run
end Composition

section Operations

variable {g : Guise W N} {settings : Settings} {scripts others : Scripts P W N}

namespace Run

section Notices

/-- A notice is sent in either guise, and taken by the notifier of that guise. -/
theorem retells_send
    (nick : String)
    {text other : String}
    (htext : TextsRetold g.names text other) :
    (send g.notifier nick text : Run P W N Unit).Retells g Eq
      (send g.other nick other) := by
  intro a b h
  rw [send_apply, send_apply, h.sent]
  exact ⟨.returned rfl, h.state, h.store, .notice htext h.state h.trace, rfl⟩

theorem textsRetold_refl (names : Renaming) (texts : List String) :
    List.Forall₂ (TextsRetold names) texts texts :=
  List.forall₂_same.mpr fun text _ => .same text

/-- A list shows as many scripts as before, under their new names. -/
theorem textsRetold_list (names : Renaming) (infos : List ScriptInfo) :
    List.Forall₂ (TextsRetold names) (AdminReport.list infos)
      (AdminReport.list (infos.map (ScriptInfo.renamed names))) := by
  unfold AdminReport.list
  rw [List.length_map, List.map_map]
  refine .cons (.same _) ?_
  rw [List.forall₂_map_left_iff, List.forall₂_map_right_iff, List.forall₂_same]
  intro info _
  exact .line info

end Notices

section Removal

theorem retells_cleanupFailed
    (registration : Registration P)
    (reason : HandlerError) :
    (cleanupFailed registration reason : Run P W N Unit).Retells g Eq
      (cleanupFailed (registration.renamed g.names) reason) := by
  apply (retells_emit (.cleanupEnded registration.id (.error reason)) rfl).bind_eq
  intro _
  exact retells_log (.cleanupFailed registration.id registration.spec.name reason)

theorem retells_settleCleanup
    (registration : Registration P)
    (flow : Flow (Except String Unit)) :
    (settleCleanup settings registration flow : Run P W N Unit).Retells g Eq
      (settleCleanup settings (registration.renamed g.names) flow) := by
  cases flow with
  | returned outcome =>
      cases outcome with
      | ok value => exact retells_emit (.cleanupEnded registration.id (.ok ())) rfl
      | error reason => exact retells_cleanupFailed registration _
  | unwinding payload =>
      simp only [settleCleanup]
      by_cases hcatch : settings.catchCleanupPanics = true
      · rw [if_pos hcatch, if_pos hcatch]
        exact retells_cleanupFailed registration _
      · rw [if_neg hcatch, if_neg hcatch]
        apply
          (retells_emit (.cleanupUnwound registration.id payload) rfl).bind_eq
        intro _
        exact retells_unwind payload
  | exhausted => exact retells_exhaust

theorem retells_afterRemoval
    (hscripts : scripts.Retell g others)
    (registration : Registration P) :
    (afterRemoval settings scripts registration).Retells g Eq
      (afterRemoval settings others (registration.renamed g.names)) := by
  have hcleaned :
      (runCleanup settings scripts registration).Retells g Eq
        (runCleanup settings others (registration.renamed g.names)) := by
    have hcleanup :
        (registration.renamed g.names).spec.cleanup = registration.spec.cleanup := by
      rfl
    unfold runCleanup
    rw [hcleanup]
    cases registration.spec.cleanup with
    | none => exact retells_pure rfl
    | some cleanup =>
        apply (hscripts.clean cleanup).observe_bind
        intro flow stream hflow
        cases hflow.eq
        exact retells_settleCleanup registration flow
  apply hcleaned.bind_eq
  intro _
  apply
    (retells_log
      (.scriptUnregistered registration.id registration.spec.name)).bind_eq
  intro _
  exact retells_pure rfl

end Removal

section Dispatch

theorem retells_settleHandler
    (script : ScriptId)
    (kind : EventKind)
    (flow : Flow (Except String Verdict)) :
    (settleHandler settings script kind flow :
      Run P W N (Except HandlerError Verdict)).Retells g Eq
      (settleHandler settings script kind flow) := by
  have hfailed :
      ∀ reason,
        (failed script kind reason :
          Run P W N (Except HandlerError Verdict)).Retells g Eq
          (failed script kind reason) := by
    intro reason
    apply (retells_retally _).bind_eq
    intro _
    apply (retells_emit (.handlerEnded script kind (.error reason)) rfl).bind_eq
    intro _
    exact retells_pure rfl
  cases flow with
  | returned outcome =>
      cases outcome with
      | ok verdict =>
          apply
            (retells_emit (.handlerEnded script kind (.ok verdict)) rfl).bind_eq
          intro _
          exact retells_pure rfl
      | error reason => exact hfailed _
  | unwinding payload =>
      simp only [settleHandler]
      by_cases hcatch : settings.catchHandlerPanics = true
      · rw [if_pos hcatch]
        exact hfailed _
      · rw [if_neg hcatch]
        apply
          (retells_emit (.handlerUnwound script kind payload) rfl).bind_eq
        intro _
        exact retells_unwind payload
  | exhausted => exact retells_exhaust

theorem retells_invoke
    (hscripts : scripts.Retell g others)
    (event : Event)
    (binding : Binding P) :
    (invoke settings scripts event binding).Retells g Eq
      (invoke settings others event binding) := by
  unfold invoke
  apply
    (retells_emit
      (.handlerBegan binding.script binding.handler event) rfl).bind_eq
  intro _
  apply (hscripts.handle binding.handler event).observe_bind
  intro flow stream hflow
  cases hflow.eq
  exact retells_settleHandler binding.script event.kind flow

/-- A visit goes on the same; a name is looked up only to be logged. -/
theorem retells_consult
    (hscripts : scripts.Retell g others)
    (event : Event)
    (binding : Binding P)
    (name : String) :
    (consult settings scripts event binding name).Retells g Eq
      (consult settings others event binding (g.names binding.script name)) := by
  apply (retells_invoke hscripts event binding).bind_eq
  intro outcome
  have hannounced :
      (announce event.kind binding.script name outcome :
        Run P W N Unit).Retells g Eq
        (announce event.kind binding.script (g.names binding.script name)
          outcome) := by
    rcases outcome with reason | verdict
    · exact retells_log (.handlerFailed event.kind binding.script name reason)
    · cases verdict with
      | allow => exact retells_pure rfl
      | block => exact retells_log (.handlerBlocked event.kind binding.script name)
  apply hannounced.bind_eq
  intro _
  exact retells_pure rfl

end Dispatch

end Run
end Operations

section Calls

/-- The comparison of runs in two guises. -/
def Guise.comparison (g : Guise W N) : Comparison P W N where
  twin := Registration.renamed g.names
  text := TextsRetold g.names
  outcome := Eq
  report := Eq
  answer call value renamed := call.renamedAnswer g.names value = renamed
  start := Machine.Retold g
  ready _ _ _ := True
  ends results _ _ _ ending other :=
    ending.1.Retold results other.1 ∧ ending.2.Retold g other.2

variable {g : Guise W N} {settings : Settings} {scripts others : Scripts P W N}

theorem Guise.comparison_lawful : (g.comparison : Comparison P W N).Lawful where
  twin_id _ := rfl
  twin_enabled _ := rfl
  text_refl := .same
  outcome_passed h := congrArg Verdict.passed h
  report_refl _ := rfl
  report_verdict h := congrArg DispatchResult.verdict h.symm
  report_after := by
    rintro result _ outcome _ script rfl rfl
    rfl
  answer_report _ := rfl
  answer_same := by
    intro call hread _
    cases call with
    | info | list | ids | count | stats | calls | bindingCounts | chain =>
        cases hread
    | _ => rfl
  answer_list := by
    rintro infos _ rfl
    exact Run.textsRetold_list g.names infos
  answer_stats := by
    rintro stats _ rfl
    exact Run.textsRetold_refl g.names _
  find h script := by rw [h.state, Dispatcher.find?_renamed]; rfl
  table h := by rw [h.state, Dispatcher.renamed_table]
  ids h := by rw [h.state, Dispatcher.ids_renamed]
  reading := by
    intro a b h call read hread
    rw [h.state]
    cases call <;> cases hread
    case info script => exact (a.state.info?_renamed g.names script).symm
    case list => exact (a.state.list_renamed g.names).symm
    case ids => exact (a.state.ids_renamed g.names).symm
    case count => exact (a.state.count_renamed g.names).symm
    all_goals rfl
  pure _ h hresult _ := ⟨.returned hresult, h⟩
  bind _ _ hrun hnext :=
    Run.retells_bind hrun fun value result after later hresult hafter =>
      hnext value result after later hresult hafter fun _ _ _ => trivial

variable {behaviour another : Behaviour P W N}

/-- Registrations that are the same once renamed are made alike. -/
theorem Run.retells_register
    {spec other : Spec P}
    (hspec : ∀ script, other.renamed g.names script = spec.renamed g.names script) :
    (answer ⟨settings, g.notifier, behaviour⟩ scripts (.register spec)).Retells g Eq
      (answerRenamed ⟨settings, g.other, another⟩ g.names others
        (.register other)) := by
  intro a b h
  have hrenamed :
      answerRenamed ⟨settings, g.other, another⟩ g.names others (.register other)
          b =
        (.returned b.state.nextId,
          b.registered settings (spec.renamed g.names b.state.nextId)) := by
    rw [← hspec]
    rfl
  rw [hrenamed, answer_register]
  refine ⟨.returned ?_, h.registered settings spec⟩
  rw [h.state, Dispatcher.renamed_nextId]

variable (hscripts : scripts.Retell g others)
include hscripts

theorem Guise.comparison_steps :
    g.comparison.Steps ⟨settings, g.notifier, behaviour⟩
      ⟨settings, g.other, another⟩ scripts others where
  adminClass := rfl
  adminWord := rfl
  log := by
    intro entry himpersonal
    have hlog := Run.retells_log (g := g) (P := P) (W := W) (N := N) entry
    have hsame : entry.renamed g.names = entry := by
      cases entry <;> first | rfl | cases himpersonal
    rwa [hsame] at hlog
  send nick _ _ htext := Run.retells_send nick htext
  toggle h _ _ := ⟨.returned rfl, h.toggled _ _⟩
  remove h _ := Run.retells_afterRemoval hscripts _ _ _ (h.unregistered _)
  sweep := comparison_lawful.sweep fun h => h
  report :=
    comparison_lawful.report (fun h => h) fun removed =>
      Run.retells_log (.shutDown removed)
  answer := by
    intro call hother hperform
    apply Run.Retells.observe_bind hperform
    intro flow stream hflow
    cases hflow with
    | @returned value _ hanswer =>
        subst hanswer
        have hrecord :=
          Run.retells_emit (g := g) (W := W) (.answered call value : Record P N) rfl
        rw [Record.renamed_answered g.names hother] at hrecord
        apply hrecord.bind_eq
        intro _
        exact Run.retells_pure rfl
    | unwinding payload =>
        apply (Run.retells_emit (.unwound call payload) rfl).bind_eq
        intro _
        exact Run.retells_unwind payload
    | exhausted => exact Run.retells_exhaust

theorem Guise.comparison_visits :
    g.comparison.Visits ⟨settings, g.notifier, behaviour⟩
      ⟨settings, g.other, another⟩ scripts others where
  attempt event h := h.attempted event
  ready _ _ _ _ := trivial
  consult := by
    intro a b registration event binding h _ live _
    have hname :
        (g.comparison.twin registration).spec.name =
          g.names binding.script registration.spec.name := by
      rw [← Dispatcher.find?_eq_some_id live]
      rfl
    rw [hname]
    exact Run.retells_consult hscripts event binding registration.spec.name a b h
  dispatch _ _ h := h

/-- **A call is answered the same in another guise, with its registration renamed.** -/
theorem Run.retells_answer (call : Call P) :
    (answer ⟨settings, g.notifier, behaviour⟩ scripts call).Retells g
      (fun answer renamed => call.renamedAnswer g.names answer = renamed)
      (answerRenamed ⟨settings, g.other, another⟩ g.names others call) := by
  by_cases hregister : ∃ spec, call = .register spec
  · obtain ⟨spec, rfl⟩ := hregister
    exact retells_register fun _ => rfl
  · have hother : ∀ spec, call ≠ .register spec :=
      fun spec hcall => hregister ⟨spec, hcall⟩
    have steps :
        g.comparison.Steps ⟨settings, g.notifier, behaviour⟩
          ⟨settings, g.other, another⟩ scripts others :=
      Guise.comparison_steps hscripts
    have dispatched :=
      (Guise.comparison_visits hscripts).dispatches Guise.comparison_lawful steps
    rw [answerRenamed_of_not_register _ _ _ hother]
    exact steps.answers Guise.comparison_lawful dispatched hother

end Calls

section UserCode

variable {g : Guise W N} {settings : Settings} {scripts others : Scripts P W N}
variable {behaviour another : Behaviour P W N} {results : R → S → Prop}

/-- **Code that is retold runs the same** on procedures that do the same. -/
theorem Code.retells_run
    (hscripts : scripts.Retell g others)
    {code : Code P W N R}
    {second : Code P W N S}
    (h : code.Retold g results second) :
    (code.run
      (Run.answer ⟨settings, g.notifier, behaviour⟩ scripts)).Retells g
      (OutcomesRetold results)
      (second.run
        (Run.answerRenamed ⟨settings, g.other, another⟩ g.names others)) := by
  induction h with
  | returned hresult => exact Run.retells_pure (.ok hresult)
  | failed reason => exact Run.retells_pure (.error reason)
  | panicked payload => exact Run.retells_unwind payload
  | register hspec _ ih =>
      apply (Run.retells_register hspec).bind_eq
      intro script
      exact ih script
  | call _ ih =>
      apply (Run.retells_answer hscripts _).bind
      rintro answer _ rfl
      exact ih answer
  | read _ ih =>
      intro a b hm
      exact ih a.store b.store hm.store a b hm
  | @write stored kept _ _ hstore _ ih =>
      intro a b hm
      exact
        ih { a with store := stored } { b with store := kept }
          ⟨hm.state, hstore, hm.trace, hm.sent⟩
  | log hentry _ ih =>
      intro a b hm
      exact ih _ _ (hm.emit_retold (.log hentry))
  | note hnote _ ih =>
      intro a b hm
      exact ih _ _ (hm.emit_retold (.note hnote))

/-- Procedures that are retold do the same, however deep they are nested. -/
theorem Setup.retell_scripts
    (hbehaviour : behaviour.Retold g another)
    (room level : Nat) :
    (Setup.scripts ⟨settings, g.notifier, behaviour⟩ room level).Retell g
      (renamedScripts ⟨settings, g.other, another⟩ g.names room level) := by
  induction room generalizing level with
  | zero =>
      constructor
      · intro procedure event
        exact Run.retells_exhaust
      · intro procedure
        exact Run.retells_exhaust
  | succ room ih =>
      constructor
      · intro procedure event a b hm
        obtain ⟨hends, hafter⟩ :=
          Code.retells_run (ih (level + 1))
            (hbehaviour.onEvent level procedure event) a b hm
        exact ⟨hends.imp OutcomesRetold.eq, hafter⟩
      · intro procedure a b hm
        obtain ⟨hends, hafter⟩ :=
          Code.retells_run (ih (level + 1))
            (hbehaviour.onRemoval level procedure) a b hm
        exact ⟨hends.imp OutcomesRetold.eq, hafter⟩

/--
Two runs of the host agree but for their guise: the pieces of host code ended in the
same way, and the dispatchers, the stores and the traces at the end agree.
-/
structure RunsRetold
    (g : Guise W N)
    (results : R → S → Prop)
    (run : List (Flow (Except String R)) × Machine P W N)
    (other : List (Flow (Except String S)) × Machine P W N) :
    Prop where
  flows :
    List.Forall₂ (Flow.Retold (OutcomesRetold results)) run.1 other.1
  machine : run.2.Retold g other.2

/-- **A whole run does the same in another guise.** -/
theorem Setup.retells_runAll
    (hbehaviour : behaviour.Retold g another)
    {codes : List (Code P W N R)}
    {seconds : List (Code P W N S)}
    (hcodes : List.Forall₂ (Code.Retold g results) codes seconds)
    (room : Nat)
    {a b : Machine P W N}
    (hm : a.Retold g b) :
    RunsRetold g results
      (runAll ⟨settings, g.notifier, behaviour⟩ room codes a)
      (runAllRenamed ⟨settings, g.other, another⟩ g.names room seconds b) := by
  induction hcodes generalizing a b with
  | nil => exact ⟨.nil, hm⟩
  | cons hcode _ ih =>
      obtain ⟨hends, hafter⟩ :=
        Code.retells_run (retell_scripts hbehaviour room 0) hcode a b hm
      obtain ⟨hflows, hlast⟩ := ih hafter
      exact ⟨.cons hends hflows, hlast⟩

theorem Machine.retold_fresh
    {first second : W}
    (hstore : g.store first second) :
    (fresh first : Machine P W N).Retold g (fresh second) :=
  ⟨rfl, hstore, .nil, rfl⟩

end UserCode
end ScriptHub
