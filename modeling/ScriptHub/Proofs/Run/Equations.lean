import ScriptHub.Proofs.Run.Course

/-!
# Operations told by their parts

Each operation is told here by the machine in which its user code begins and by
what is left to do after that.  The other modules reason about operations through
these equations.

**Results.**
* `bind_eq_returned`, `bind_eq_unwinding`: what returns has returned at every
  part, and a panic has left one of the parts.
* `unregister_of_live`, `unregister_of_unknown`: a removal takes a registration
  out before its cleanup begins, and there is nothing to do for an unknown id.
* `unregister_fst_of_cleanup`: how a removal ends, told from how its cleanup ends.
* `walk_cons_of_enabled`, `walk_cons_of_idle`: a walk calls the handler of a live
  and enabled registration and passes over every other binding.
* `dispatch_apply`, `answer_register`: a dispatch is counted before its chain is
  walked, and a registration is made and answered at once.
-/

namespace ScriptHub

variable {P W N α β : Type}

/-- Whether a registration is live and enabled. -/
def Dispatcher.IsEnabled
    (state : Dispatcher P)
    (script : ScriptId) :
    Prop :=
  ∃ registration,
    state.find? script = some registration ∧ registration.enabled = true

/-- Whether a handler is that of a live and enabled registration. -/
def Dispatcher.IsDue
    (state : Dispatcher P)
    (kind : EventKind)
    (binding : Binding P) :
    Prop :=
  ∃ registration,
    state.find? binding.script = some registration ∧
      registration.enabled = true ∧
      registration.spec.handler? kind = some binding.handler

theorem Dispatcher.IsDue.isEnabled
    {state : Dispatcher P}
    {kind : EventKind}
    {binding : Binding P}
    (h : state.IsDue kind binding) :
    state.IsEnabled binding.script := by
  obtain ⟨registration, hlive, henabled, _⟩ := h
  exact ⟨registration, hlive, henabled⟩

namespace Run

section Composition

theorem bind_apply
    (run : Run P W N α)
    (next : α → Run P W N β)
    (m : Machine P W N) :
    (run >>= next) m = run.andThen next m := by
  rfl

/-- A run goes on where its first part returned. -/
theorem bind_of_returned
    {run : Run P W N α}
    {next : α → Run P W N β}
    {m mid : Machine P W N}
    {value : α}
    (h : run m = (.returned value, mid)) :
    (run >>= next) m = next value mid := by
  rw [bind_apply]
  unfold andThen
  rw [h]

/-- What returns has returned at every part. -/
theorem bind_eq_returned
    {run : Run P W N α}
    {next : α → Run P W N β}
    {m last : Machine P W N}
    {value : β}
    (h : (run >>= next) m = (.returned value, last)) :
    ∃ first mid,
      run m = (.returned first, mid) ∧
        next first mid = (.returned value, last) := by
  rw [bind_apply] at h
  unfold andThen at h
  generalize hrun : run m = ending at h
  obtain ⟨flow, mid⟩ := ending
  cases flow with
  | returned first => exact ⟨first, mid, rfl, h⟩
  | unwinding payload => simp at h
  | exhausted => simp at h

/-- A panic that leaves a run has left one of its parts. -/
theorem bind_eq_unwinding
    {run : Run P W N α}
    {next : α → Run P W N β}
    {m last : Machine P W N}
    {payload : Payload}
    (h : (run >>= next) m = (.unwinding payload, last)) :
    run m = (.unwinding payload, last) ∨
      ∃ first mid,
        run m = (.returned first, mid) ∧
          next first mid = (.unwinding payload, last) := by
  rw [bind_apply] at h
  unfold andThen at h
  generalize run m = ending at h
  obtain ⟨flow, mid⟩ := ending
  cases flow with
  | returned first => exact .inr ⟨first, mid, rfl, h⟩
  | unwinding other =>
      obtain ⟨hflow, rfl⟩ := Prod.mk.inj h
      obtain rfl := Flow.unwinding.inj hflow
      exact .inl rfl
  | exhausted => exact absurd h (by simp)

/-- What holds of both parts of a run, one after the other, holds of the run. -/
theorem bind_related
    (related : Machine P W N → Machine P W N → Prop)
    (htrans : ∀ {a b c}, related a b → related b c → related a c)
    {run : Run P W N α}
    {next : α → Run P W N β}
    (hrun : ∀ m, related m (run m).2)
    (hnext : ∀ value m, related m (next value m).2)
    (m : Machine P W N) :
    related m ((run >>= next) m).2 := by
  have first := hrun m
  rw [bind_apply]
  unfold andThen
  generalize run m = ending at first
  obtain ⟨flow, after⟩ := ending
  cases flow with
  | returned value => exact htrans first (hnext value after)
  | unwinding payload => exact first
  | exhausted => exact first

end Composition

section Removal

/-- The cleanup of a removed registration, if it has one, from its start on. -/
def runCleanup
    (settings : Settings)
    (scripts : Scripts P W N)
    (registration : Registration P) :
    Run P W N Unit :=
  match registration.spec.cleanup with
  | none => pure ()
  | some cleanup => finishCleanup settings scripts registration cleanup

/-- What is left of a removal once the cleanup, if any, is to run. -/
def afterRemoval
    (settings : Settings)
    (scripts : Scripts P W N)
    (registration : Registration P) :
    Run P W N Bool := do
  runCleanup settings scripts registration
  log (.scriptUnregistered registration.id registration.spec.name)
  pure true

/-- Removing a live registration takes it out first and then cleans up. -/
theorem unregister_of_live
    (settings : Settings)
    (scripts : Scripts P W N)
    {m : Machine P W N}
    {registration : Registration P}
    (live : m.state.find? registration.id = some registration) :
    unregister settings scripts registration.id m =
      afterRemoval settings scripts registration
        (m.unregistered registration) := by
  cases hcleanup : registration.spec.cleanup with
  | none =>
      simp only [unregister, afterRemoval, cleanUp, runCleanup, remove, bind,
        andThen, state, live, modifyState, log, emit, pure, give, hcleanup,
        Machine.unregistered]
      rfl
  | some cleanup =>
      simp only [unregister, afterRemoval, cleanUp, runCleanup, remove, bind,
        andThen, state, live, modifyState, log, emit, pure, give, hcleanup,
        Machine.unregistered]
      rfl

theorem unregister_of_unknown
    (settings : Settings)
    (scripts : Scripts P W N)
    {m : Machine P W N}
    {script : ScriptId}
    (unknown : m.state.find? script = none) :
    unregister settings scripts script m =
      (.returned false, m.emit (.log (.unregisterUnknown script))) := by
  simp only [unregister, bind, andThen, state, unknown]
  rfl

/-- How a removal ends, told from how the cleanup ends. -/
def removalFlow
    (settings : Settings) :
    Flow (Except String Unit) → Flow Bool
  | .returned _ => .returned true
  | .unwinding payload =>
      if settings.catchCleanupPanics then .returned true
      else .unwinding payload
  | .exhausted => .exhausted

/-- The cleanup of a removed registration runs first, and is then taken account of. -/
theorem afterRemoval_of_cleanup
    (settings : Settings)
    (scripts : Scripts P W N)
    {registration : Registration P}
    {cleanup : P}
    (hcleanup : registration.spec.cleanup = some cleanup)
    (m : Machine P W N) :
    afterRemoval settings scripts registration m =
      (do
        settleCleanup settings registration (scripts.clean cleanup m).1
        log (.scriptUnregistered registration.id registration.spec.name)
        pure true : Run P W N Bool) (scripts.clean cleanup m).2 := by
  simp only [afterRemoval, runCleanup, hcleanup]
  rfl

theorem afterRemoval_fst_of_cleanup
    (settings : Settings)
    (scripts : Scripts P W N)
    {registration : Registration P}
    {cleanup : P}
    (hcleanup : registration.spec.cleanup = some cleanup)
    (m : Machine P W N) :
    (afterRemoval settings scripts registration m).1 =
      removalFlow settings (scripts.clean cleanup m).1 := by
  rw [afterRemoval_of_cleanup settings scripts hcleanup]
  generalize scripts.clean cleanup m = ending
  obtain ⟨flow, after⟩ := ending
  cases flow with
  | returned outcome => cases outcome <;> rfl
  | unwinding payload =>
      simp only [settleCleanup, removalFlow]
      by_cases hcatch : settings.catchCleanupPanics = true
      · simp only [hcatch, if_true]
        rfl
      · simp only [hcatch]
        rfl
  | exhausted => rfl

/-- After the cleanup a removal changes the registrations no more. -/
theorem afterRemoval_state_of_cleanup
    (settings : Settings)
    (scripts : Scripts P W N)
    {registration : Registration P}
    {cleanup : P}
    (hcleanup : registration.spec.cleanup = some cleanup)
    (m : Machine P W N) :
    (afterRemoval settings scripts registration m).2.state =
      (scripts.clean cleanup m).2.state := by
  rw [afterRemoval_of_cleanup settings scripts hcleanup]
  generalize scripts.clean cleanup m = ending
  obtain ⟨flow, after⟩ := ending
  cases flow with
  | returned outcome => cases outcome <;> rfl
  | unwinding payload =>
      simp only [settleCleanup]
      by_cases hcatch : settings.catchCleanupPanics = true
      · simp only [hcatch, if_true]
        rfl
      · simp only [hcatch]
        rfl
  | exhausted => rfl

/--
A removal returns true unless the cleanup panics and panics of cleanups are not
caught.
-/
theorem unregister_fst_of_cleanup
    (settings : Settings)
    (scripts : Scripts P W N)
    {m : Machine P W N}
    {registration : Registration P}
    {cleanup : P}
    (live : m.state.find? registration.id = some registration)
    (hcleanup : registration.spec.cleanup = some cleanup) :
    (unregister settings scripts registration.id m).1 =
      removalFlow settings
        (scripts.clean cleanup (m.unregistered registration)).1 := by
  rw [unregister_of_live settings scripts live]
  exact afterRemoval_fst_of_cleanup settings scripts hcleanup _

/-- What is left of a removal ends as the end of some cleanup tells. -/
theorem afterRemoval_fst
    (settings : Settings)
    (scripts : Scripts P W N)
    (registration : Registration P)
    (m : Machine P W N) :
    ∃ ending,
      (afterRemoval settings scripts registration m).1 =
        removalFlow settings ending := by
  cases hcleanup : registration.spec.cleanup with
  | none =>
      refine ⟨.returned (.ok ()), ?_⟩
      simp only [afterRemoval, runCleanup, hcleanup]
      rfl
  | some cleanup =>
      exact ⟨_, afterRemoval_fst_of_cleanup settings scripts hcleanup m⟩

theorem eq_true_of_removalFlow
    {settings : Settings}
    {ending : Flow (Except String Unit)}
    {removed : Bool}
    (h : removalFlow settings ending = .returned removed) :
    removed = true := by
  cases ending with
  | returned _ => exact (Flow.returned.inj h).symm
  | unwinding payload =>
      simp only [removalFlow] at h
      split at h
      · exact (Flow.returned.inj h).symm
      · exact absurd h (by simp)
  | exhausted => exact absurd h (by simp [removalFlow])

/-- Only a panic of the cleanup that is not caught leaves a removal. -/
theorem removalFlow_eq_unwinding
    {settings : Settings}
    {ending : Flow (Except String Unit)}
    {payload : Payload}
    (h : removalFlow settings ending = .unwinding payload) :
    ending = .unwinding payload ∧ settings.catchCleanupPanics = false := by
  cases ending with
  | returned _ => exact absurd h (by simp [removalFlow])
  | unwinding other =>
      cases hcatch : settings.catchCleanupPanics with
      | false =>
          have hsame : other = payload := by
            simpa [removalFlow, hcatch] using h
          exact ⟨congrArg Flow.unwinding hsame, rfl⟩
      | true => exact absurd h (by simp [removalFlow, hcatch])
  | exhausted => exact absurd h (by simp [removalFlow])

/-- The panic that leaves a removal has just left the cleanup, and is on record. -/
theorem afterRemoval_eq_unwinding
    {settings : Settings}
    {scripts : Scripts P W N}
    {registration : Registration P}
    {m last : Machine P W N}
    {payload : Payload}
    (h :
      afterRemoval settings scripts registration m =
        (.unwinding payload, last)) :
    settings.catchCleanupPanics = false ∧
      ∃ cleanup,
        registration.spec.cleanup = some cleanup ∧
          last =
            (scripts.clean cleanup m).2.emit
              (.cleanupUnwound registration.id payload) := by
  cases hcleanup : registration.spec.cleanup with
  | none =>
      simp only [afterRemoval, runCleanup, hcleanup] at h
      have hflow := congrArg Prod.fst h
      exact absurd hflow (by simp [bind, andThen, pure, give, log, emit])
  | some cleanup =>
      have hflow := congrArg Prod.fst h
      rw [afterRemoval_fst_of_cleanup settings scripts hcleanup] at hflow
      obtain ⟨hending, uncaught⟩ := removalFlow_eq_unwinding hflow
      refine ⟨uncaught, cleanup, rfl, ?_⟩
      rw [afterRemoval_of_cleanup settings scripts hcleanup, hending] at h
      simp only [settleCleanup, uncaught] at h
      exact (congrArg Prod.snd h).symm

theorem unregister_eq_unwinding
    {settings : Settings}
    {scripts : Scripts P W N}
    {script : ScriptId}
    {m last : Machine P W N}
    {payload : Payload}
    (h :
      unregister settings scripts script m = (.unwinding payload, last)) :
    settings.catchCleanupPanics = false ∧
      ∃ registration cleanup,
        m.state.find? script = some registration ∧
          registration.spec.cleanup = some cleanup ∧
          last =
            (scripts.clean cleanup (m.unregistered registration)).2.emit
              (.cleanupUnwound script payload) := by
  cases live : m.state.find? script with
  | none =>
      rw [unregister_of_unknown settings scripts live] at h
      exact absurd (congrArg Prod.fst h) (by simp)
  | some registration =>
      have hid := Dispatcher.find?_eq_some_id live
      subst hid
      rw [unregister_of_live settings scripts live] at h
      obtain ⟨uncaught, cleanup, hcleanup, hlast⟩ :=
        afterRemoval_eq_unwinding h
      exact ⟨uncaught, registration, cleanup, rfl, hcleanup, hlast⟩

/-- A shutdown sweeps over the ids that are live at its start. -/
theorem shutdown_apply
    (settings : Settings)
    (scripts : Scripts P W N)
    (m : Machine P W N) :
    shutdown settings scripts m =
      (do
        let removed ← unregisterAll settings scripts m.state.ids
        log (.shutDown removed)
        pure removed : Run P W N Nat)
        (m.emit (.log (.shuttingDown m.state.ids.length))) := by
  rfl

end Removal

/-- How a walk goes on once a handler ended. -/
def proceed
    (settings : Settings)
    (scripts : Scripts P W N)
    (event : Event)
    (binding : Binding P)
    (name : String)
    (chain : List (Binding P)) :
    Except HandlerError Verdict → Run P W N DispatchResult
  | .ok .allow => do
      let result ← walk settings scripts event chain
      pure (result.afterAllow binding.script)
  | .ok .block => do
      log (.handlerBlocked event.kind binding.script name)
      pure (.blocked binding.script)
  | .error reason => do
      log (.handlerFailed event.kind binding.script name reason)
      let result ← walk settings scripts event chain
      pure (result.afterFailure binding.script reason)

section Walk

variable (settings : Settings) (scripts : Scripts P W N) (event : Event)
variable {m : Machine P W N} {binding : Binding P}

theorem walk_cons_of_idle
    (chain : List (Binding P))
    (idle : ¬ m.state.IsEnabled binding.script) :
    walk settings scripts event (binding :: chain) m =
      walk settings scripts event chain m := by
  cases hfind : m.state.find? binding.script with
  | none =>
      simp only [walk, bind, andThen, state, hfind]
  | some registration =>
      have hdisabled : ¬ registration.enabled = true := by
        intro henabled
        exact idle ⟨registration, hfind, henabled⟩
      simp only [walk, bind, andThen, state, hfind, hdisabled]
      rfl

theorem walk_cons_of_enabled
    (chain : List (Binding P))
    {registration : Registration P}
    (hfind : m.state.find? binding.script = some registration)
    (henabled : registration.enabled = true) :
    walk settings scripts event (binding :: chain) m =
      (invoke settings scripts event binding >>=
        proceed settings scripts event binding registration.spec.name chain)
        m := by
  simp only [walk, bind, andThen, state, hfind, henabled, if_true]
  generalize invoke settings scripts event binding m = ending
  obtain ⟨flow, after⟩ := ending
  cases flow with
  | returned outcome =>
      cases outcome with
      | ok verdict => cases verdict <;> rfl
      | error reason => rfl
  | unwinding payload => rfl
  | exhausted => rfl

end Walk

/-- A dispatch, as a run, once it was counted. -/
theorem dispatch_apply
    (settings : Settings)
    (scripts : Scripts P W N)
    (event : Event)
    (m : Machine P W N) :
    dispatch settings scripts event m =
      (match m.state.table.get event.kind with
      | [] => pure {}
      | chain => do
          log (.dispatching event.kind chain.length)
          walk settings scripts event chain : Run P W N DispatchResult)
        (m.attempted event) := by
  rfl

/-- A registration is made, and its id answered, at once. -/
theorem answer_register
    (setup : Setup P W N)
    (scripts : Scripts P W N)
    (spec : Spec P)
    (m : Machine P W N) :
    answer setup scripts (.register spec) m =
      (.returned m.state.nextId, m.registered setup.settings spec) := by
  rfl

end Run
end ScriptHub
