import ScriptHub.Proofs.Run.Veil

/-!
# Runs side by side

Two runs that start from machines that are alike are led side by side.  If the user
code under them does alike, so do the runs: to compare under a veil is a comparison.
A handler that fails in one run and lets the event through in the other makes no
difference for the chain; nor does it for the removal how its cleanup ends.

**Results.**
* `Run.Matches`, `Run.Alike`: runs that do alike.
* `Run.alike_consult`: a visit goes on alike, whether its handler fails or not.
* `Veil.comparison_lawful`: what it takes to compare runs under a veil.
* `Run.alike_answer`: calls of user code are answered alike.
* `Code.alike_run`: code that is alike runs alike.
-/

namespace ScriptHub

variable {P W N R S α β γ δ : Type}

/--
Runs do alike: from machines that are alike they end alike, by a relation on their
ends, and leave machines that are alike.
-/
def Run.Matches
    (v : Veil W N)
    (ends : Flow α → Flow β → Prop)
    (run : Run P W N α)
    (other : Run P W N β) :
    Prop :=
  ∀ a b : Machine P W N,
    a.Alike v b →
    ends (run a).1 (other b).1 ∧ (run a).2.Alike v (other b).2

/-- Runs do alike and return what is related. -/
abbrev Run.Alike
    (v : Veil W N)
    (results : α → β → Prop)
    (run : Run P W N α)
    (other : Run P W N β) :
    Prop :=
  run.Matches v (Flow.Alike v results) other

/-- Procedures do alike, whatever the veil hides of their ends. -/
structure Scripts.Alike
    (v : Veil W N)
    (scripts others : Scripts P W N) :
    Prop where
  handle :
    ∀ procedure event,
      (scripts.handle procedure event).Matches v (HandlersEndAlike v)
        (others.handle procedure event)
  clean :
    ∀ procedure,
      (scripts.clean procedure).Matches v (CleanupsEndAlike v)
        (others.clean procedure)

/-- Two notifiers give receipts that are alike. -/
def Notifier.Alike (v : Veil W N) (notifier other : Notifier) : Prop :=
  ∀ sent recipient text,
    v.receipt (notifier.deliver sent recipient text)
      (other.deliver sent recipient text)

/-- What a veil hides of the ends of user code, the dispatcher must catch. -/
def Veil.Suits (v : Veil W N) (settings : Settings) : Prop :=
  (v.failures = true → settings.catchHandlerPanics = true) ∧
    (v.cleanups = true → settings.catchCleanupPanics = true)

section States

variable {v : Veil W N} {a b : Dispatcher P}

theorem Tally.Alike.registered
    {a b : Tally}
    (h : a.Alike v b)
    (enabled : Bool) :
    (a.registered enabled).Alike v (b.registered enabled) := by
  cases enabled
  · exact ⟨congrArg (· + 1) h.total, h.active, congrArg (· + 1) h.disabled,
      h.calls⟩
  · exact ⟨congrArg (· + 1) h.total, congrArg (· + 1) h.active, h.disabled,
      h.calls⟩

theorem Tally.Alike.unregistered
    {a b : Tally}
    (h : a.Alike v b)
    (enabled : Bool) :
    (a.unregistered enabled).Alike v (b.unregistered enabled) := by
  cases enabled
  · exact ⟨h.total, h.active, congrArg (· - 1) h.disabled, h.calls⟩
  · exact ⟨h.total, congrArg (· - 1) h.active, h.disabled, h.calls⟩

theorem Tally.Alike.toggled
    {a b : Tally}
    (h : a.Alike v b)
    (enabled : Bool) :
    (a.toggled enabled).Alike v (b.toggled enabled) := by
  cases enabled
  · exact ⟨h.total, congrArg (· - 1) h.active, congrArg (· + 1) h.disabled,
      h.calls⟩
  · exact ⟨h.total, congrArg (· + 1) h.active, congrArg (· - 1) h.disabled,
      h.calls⟩

/-- Counting calls of a kind alike keeps the counters alike. -/
theorem Tally.Alike.modify
    {a b : Tally}
    (h : a.Alike v b)
    (kind : EventKind)
    {f g : CallCount → CallCount}
    (hcount :
      (f (a.calls.get kind)).Alike v (g (b.calls.get kind))) :
    ({ a with calls := a.calls.modify kind f } : Tally).Alike v
      { b with calls := b.calls.modify kind g } where
  total := h.total
  active := h.active
  disabled := h.disabled
  calls := by
    intro other
    show
      ((a.calls.modify kind f).get other).Alike v
        ((b.calls.modify kind g).get other)
    rw [PerKind.get_modify, PerKind.get_modify]
    split_ifs
    · exact hcount
    · exact h.calls other

theorem Tally.Alike.attempted
    {a b : Tally}
    (h : a.Alike v b)
    (kind : EventKind) :
    (a.attempted kind).Alike v (b.attempted kind) := by
  apply h.modify kind
  have hcount := h.calls kind
  exact ⟨congrArg (· + 1) hcount.attempted, hcount.failed⟩

theorem Tally.Alike.failed
    {a b : Tally}
    (h : a.Alike v b)
    (kind : EventKind) :
    (a.failed kind).Alike v (b.failed kind) := by
  apply h.modify kind
  have hcount := h.calls kind
  exact ⟨hcount.attempted, hcount.failed.map (· + 1)⟩

/-- A veil that overlooks failures does not see one counted. -/
theorem Tally.Alike.failed_left
    {a b : Tally}
    (h : a.Alike v b)
    (blind : v.failures = true)
    (kind : EventKind) :
    (a.failed kind).Alike v b where
  total := h.total
  active := h.active
  disabled := h.disabled
  calls := by
    intro other
    show
      ((a.calls.modify kind _).get other).Alike v (b.calls.get other)
    rw [PerKind.get_modify]
    split_ifs with hkind
    · subst hkind
      exact ⟨(h.calls other).attempted, .inl blind⟩
    · exact h.calls other

theorem Tally.Alike.symm_of_blind
    {a b : Tally}
    (h : a.Alike v b)
    (blind : v.failures = true) :
    b.Alike v a :=
  ⟨h.total.symm, h.active.symm, h.disabled.symm,
    fun kind => ⟨(h.calls kind).attempted.symm, .inl blind⟩⟩

theorem Tally.Alike.failed_right
    {a b : Tally}
    (h : a.Alike v b)
    (blind : v.failures = true)
    (kind : EventKind) :
    a.Alike v (b.failed kind) :=
  ((h.symm_of_blind blind).failed_left blind kind).symm_of_blind blind

namespace Dispatcher.Alike

theorem retally
    (h : a.Alike v b)
    {f g : Tally → Tally}
    (htally : (f a.tally).Alike v (g b.tally)) :
    (a.retally f).Alike v (b.retally g) :=
  ⟨h.nextId, h.live, h.table, htally⟩

theorem enrolled
    (h : a.Alike v b)
    (spec : Spec P)
    (priority : Int32) :
    (a.enrolled spec priority).Alike v (b.enrolled spec priority) := by
  cases a
  cases b
  obtain ⟨rfl, rfl, rfl, htally⟩ := h
  exact ⟨rfl, rfl, rfl, htally⟩

theorem withdrawn
    (h : a.Alike v b)
    (script : ScriptId) :
    (a.withdrawn script).Alike v (b.withdrawn script) := by
  cases a
  cases b
  obtain ⟨rfl, rfl, rfl, htally⟩ := h
  exact ⟨rfl, rfl, rfl, htally⟩

theorem setFlag
    (h : a.Alike v b)
    (script : ScriptId)
    (enabled : Bool) :
    (a.setFlag script enabled).Alike v (b.setFlag script enabled) := by
  cases a
  cases b
  obtain ⟨rfl, rfl, rfl, htally⟩ := h
  exact ⟨rfl, rfl, rfl, htally⟩

theorem find?
    (h : a.Alike v b)
    (script : ScriptId) :
    a.find? script = b.find? script := by
  unfold Dispatcher.find?
  rw [h.live]

/-- A snapshot shows a kind in both states or in neither. -/
theorem stats (h : a.Alike v b) : a.stats.Alike v b.stats where
  total := h.tally.total
  active := h.tally.active
  disabled := h.tally.disabled
  bindings := congrArg HookTable.bindingCounts h.table
  calls := by
    have hsnapshot :
        ∀ state : Dispatcher P,
          state.stats.calls =
            (EventKind.all.filter fun kind =>
              decide (0 < (state.tally.calls.get kind).attempted)).map
              fun kind => (kind, state.tally.calls.get kind) :=
      fun state => List.filter_map
    have hkinds :
        ∀ kind ∈ EventKind.all,
          decide (0 < (a.tally.calls.get kind).attempted) =
            decide (0 < (b.tally.calls.get kind).attempted) := by
      intro kind _
      rw [(h.tally.calls kind).attempted]
    rw [hsnapshot, hsnapshot, List.filter_congr hkinds,
      List.forall₂_map_left_iff, List.forall₂_map_right_iff, List.forall₂_same]
    intro kind _
    exact ⟨rfl, h.tally.calls kind⟩

end Dispatcher.Alike
end States

section Machines

/-- The machine once the end of a cleanup was recorded, and logged if it failed. -/
def Machine.cleaned
    (m : Machine P W N)
    (registration : Registration P) :
    Except HandlerError Unit → Machine P W N
  | .ok () => m.emit (.cleanupEnded registration.id (.ok ()))
  | .error reason =>
      (m.emit (.cleanupEnded registration.id (.error reason))).emit
        (.log
          (.cleanupFailed registration.id registration.spec.name reason))

/-- The machine once a handler was warned of, if it failed. -/
def Machine.warned
    (m : Machine P W N)
    (script : ScriptId)
    (kind : EventKind)
    (name : String) :
    Except HandlerError Verdict → Machine P W N
  | .ok _ => m
  | .error reason => m.emit (.log (.handlerFailed kind script name reason))

variable {v : Veil W N} {a b : Machine P W N}

theorem DispatchResult.Alike.after
    {result report : DispatchResult}
    (h : result.Alike v report)
    (script : ScriptId)
    {outcome other : Except HandlerError Verdict}
    (houtcome : HandlerOutcomesAlike v outcome other) :
    (result.after script outcome).Alike v (report.after script other) := by
  have hinvoked : script :: result.invoked = script :: report.invoked :=
    congrArg (script :: ·) h.invoked
  rcases houtcome.excused with blind | rfl
  · cases outcome <;> cases other <;>
      exact ⟨h.verdict, hinvoked, h.blockedBy, .inl blind⟩
  · cases outcome with
    | ok verdict => exact ⟨h.verdict, hinvoked, h.blockedBy, h.failures⟩
    | error reason =>
        exact
          ⟨h.verdict, hinvoked, h.blockedBy,
            h.failures.map ((script, reason) :: ·)⟩

namespace Machine.Alike

theorem emit
    (h : a.Alike v b)
    {entry other : Record P N}
    (hrecord : entry.Alike v other) :
    (a.emit entry).Alike v (b.emit other) :=
  ⟨h.state, h.store, .cons hrecord h.state h.trace, h.sent⟩

theorem emit_left
    (h : a.Alike v b)
    {entry : Record P N}
    (hidden : entry.isOverlooked v = true) :
    (a.emit entry).Alike v b :=
  ⟨h.state, h.store, .left hidden h.trace, h.sent⟩

theorem emit_right
    (h : a.Alike v b)
    {entry : Record P N}
    (hidden : entry.isOverlooked v = true) :
    a.Alike v (b.emit entry) :=
  ⟨h.state, h.store, .right hidden h.trace, h.sent⟩

theorem update
    (h : a.Alike v b)
    {f g : Dispatcher P → Dispatcher P}
    (hstate : (f a.state).Alike v (g b.state)) :
    (a.update f).Alike v (b.update g) :=
  ⟨hstate, h.store, h.trace, h.sent⟩

theorem retally
    (h : a.Alike v b)
    {f : Tally → Tally}
    (htally : (f a.state.tally).Alike v (f b.state.tally)) :
    (a.update fun s => s.retally f).Alike v (b.update fun s => s.retally f) :=
  h.update (h.state.retally htally)

theorem registered
    (h : a.Alike v b)
    (settings : Settings)
    (spec : Spec P) :
    (a.registered settings spec).Alike v (b.registered settings spec) := by
  have henrolled :
      ∀ priority,
        (a.update fun s => s.enrolled spec priority).Alike v
          (b.update fun s => s.enrolled spec priority) :=
    fun priority => h.update (h.state.enrolled spec priority)
  have hbound :=
    (henrolled (spec.priority.getD settings.defaultPriority)).emit
      (.same (.log (.bindingsInserted b.state.nextId spec.kinds.length)))
  have hcounted :=
    hbound.retally (f := fun tally => tally.registered spec.autoEnable)
      (hbound.state.tally.registered spec.autoEnable)
  unfold Machine.registered
  rw [h.state.nextId]
  exact (hcounted.emit (.same _)).emit (.same _)

theorem unregistered
    (h : a.Alike v b)
    (registration : Registration P) :
    (a.unregistered registration).Alike v (b.unregistered registration) := by
  have hwithdrawn :
      (a.update fun s => s.withdrawn registration.id).Alike v
        (b.update fun s => s.withdrawn registration.id) :=
    h.update (h.state.withdrawn registration.id)
  have hunbound :=
    hwithdrawn.emit
      (.same (.log (.bindingsRemoved registration.id
        (b.state.table.countOf registration.id))))
  have hcounted :=
    hunbound.retally (f := fun tally => tally.unregistered registration.enabled)
      (hunbound.state.tally.unregistered registration.enabled)
  unfold Machine.unregistered
  rw [h.state.table]
  cases registration.spec.cleanup with
  | none => exact hcounted
  | some cleanup => exact hcounted.emit (.same _)

theorem toggled
    (h : a.Alike v b)
    (script : ScriptId)
    (enabled : Bool) :
    (a.toggled script enabled).Alike v (b.toggled script enabled) := by
  have hflag := h.state.setFlag script enabled
  have hswitched :
      (a.update fun s =>
        (s.setFlag script enabled).retally fun tally =>
          tally.toggled enabled).Alike v
        (b.update fun s =>
          (s.setFlag script enabled).retally fun tally =>
            tally.toggled enabled) :=
    h.update (hflag.retally (hflag.tally.toggled enabled))
  exact hswitched.emit (.same _)

theorem attempted
    (h : a.Alike v b)
    (event : Event) :
    (a.attempted event).Alike v (b.attempted event) :=
  (h.retally (h.state.tally.attempted event.kind)).emit (.same _)

/-- The end of a handler is taken account of alike, even if only one failed. -/
theorem ended
    (h : a.Alike v b)
    (script : ScriptId)
    (kind : EventKind)
    {outcome other : Except HandlerError Verdict}
    (hends : HandlerOutcomesAlike v outcome other) :
    (a.ended script kind outcome).Alike v (b.ended script kind other) := by
  have hrecord :
      Record.Alike v (P := P) (N := N)
        (.handlerEnded script kind outcome) (.handlerEnded script kind other) :=
    .handlerEnded hends
  rcases hends with (⟨⟨⟩⟩ | hexcused) | ⟨blind, _⟩
  · exact h.emit hrecord
  · exact (h.retally (h.state.tally.failed kind)).emit hrecord
  · cases outcome with
    | ok verdict =>
        cases other with
        | ok second => exact h.emit hrecord
        | error reason =>
            have hcounted :
                a.Alike v (b.update fun s => s.retally fun t => t.failed kind) :=
              ⟨⟨h.state.nextId, h.state.live, h.state.table,
                h.state.tally.failed_right blind kind⟩, h.store, h.trace, h.sent⟩
            exact hcounted.emit hrecord
    | error reason =>
        cases other with
        | ok second =>
            have hcounted :
                (a.update fun s => s.retally fun t => t.failed kind).Alike v b :=
              ⟨⟨h.state.nextId, h.state.live, h.state.table,
                h.state.tally.failed_left blind kind⟩, h.store, h.trace, h.sent⟩
            exact hcounted.emit hrecord
        | error second =>
            exact (h.retally (h.state.tally.failed kind)).emit hrecord

/-- A handler that failed may be warned of in one of the machines alone. -/
theorem warned
    (h : a.Alike v b)
    (script : ScriptId)
    (kind : EventKind)
    (name : String)
    {outcome other : Except HandlerError Verdict}
    (houtcome : HandlerOutcomesAlike v outcome other) :
    (a.warned script kind name outcome).Alike v
      (b.warned script kind name other) := by
  rcases houtcome.excused with blind | rfl
  · have hidden :
        ∀ reason,
          (Record.log (.handlerFailed kind script name reason) :
            Record P N).isOverlooked v = true :=
      fun _ => blind
    cases outcome with
    | ok verdict =>
        cases other with
        | ok second => exact h
        | error reason => exact h.emit_right (hidden reason)
    | error reason =>
        cases other with
        | ok second => exact h.emit_left (hidden reason)
        | error second =>
            exact (h.emit_left (hidden reason)).emit_right (hidden second)
  · cases outcome with
    | ok verdict => exact h
    | error reason => exact h.emit (.same _)

/-- The end of a cleanup is taken account of alike, even if only one failed. -/
theorem cleaned
    (h : a.Alike v b)
    (blind : v.cleanups = true)
    (registration : Registration P)
    (outcome other : Except HandlerError Unit) :
    (a.cleaned registration outcome).Alike v (b.cleaned registration other) := by
  have hrecord :
      Record.Alike v (P := P) (N := N)
        (.cleanupEnded registration.id outcome)
        (.cleanupEnded registration.id other) :=
    .cleanupEnded (.inl blind)
  have hended := h.emit hrecord
  have hidden :
      ∀ reason,
        (Record.log (.cleanupFailed registration.id registration.spec.name
          reason) : Record P N).isOverlooked v = true :=
    fun _ => blind
  cases outcome with
  | ok value =>
      cases other with
      | ok second => exact hended
      | error reason => exact hended.emit_right (hidden reason)
  | error reason =>
      cases other with
      | ok second => exact hended.emit_left (hidden reason)
      | error second =>
          exact (hended.emit_left (hidden reason)).emit_right (hidden second)

end Machine.Alike
end Machines

section Composition

variable {v : Veil W N} {results : α → β → Prop} {answers : γ → δ → Prop}
variable {ends : Flow α → Flow β → Prop}

namespace Run

/-- What follows on ends that are alike goes on alike. -/
theorem alike_bind
    {run : Run P W N α} {other : Run P W N β}
    {next : α → Run P W N γ} {onward : β → Run P W N δ}
    {a b : Machine P W N}
    (hrun :
      (run a).1.Alike v results (other b).1 ∧ (run a).2.Alike v (other b).2)
    (hnext :
      ∀ value result after later,
        results value result →
        after.Alike v later →
        (next value after).1.Alike v answers (onward result later).1 ∧
          (next value after).2.Alike v (onward result later).2) :
    ((run >>= next) a).1.Alike v answers ((other >>= onward) b).1 ∧
      ((run >>= next) a).2.Alike v ((other >>= onward) b).2 := by
  obtain ⟨hflow, hafter⟩ := hrun
  rw [bind_apply, bind_apply]
  unfold andThen
  generalize run a = ending at hflow hafter
  generalize other b = closing at hflow hafter
  obtain ⟨flow, after⟩ := ending
  obtain ⟨stream, later⟩ := closing
  cases hflow with
  | returned hresult => exact hnext _ _ _ _ hresult hafter
  | unwinding hpayload => exact ⟨.unwinding hpayload, hafter⟩
  | exhausted => exact ⟨.exhausted, hafter⟩

theorem Alike.bind
    {run : Run P W N α} {other : Run P W N β}
    {next : α → Run P W N γ} {onward : β → Run P W N δ}
    (hrun : run.Alike v results other)
    (hnext :
      ∀ value result, results value result →
        (next value).Alike v answers (onward result)) :
    (run >>= next).Alike v answers (other >>= onward) := by
  intro a b h
  apply alike_bind (hrun a b h)
  intro value result after later hresult hafter
  exact hnext value result hresult after later hafter

/-- What observes how runs end goes on alike after ends that are alike. -/
theorem Matches.observe_bind
    {run : Run P W N α} {other : Run P W N β}
    {next : Flow α → Run P W N γ} {onward : Flow β → Run P W N δ}
    (hrun : run.Matches v ends other)
    (hnext :
      ∀ flow stream, ends flow stream →
        (next flow).Alike v answers (onward stream)) :
    (run.observe >>= next).Alike v answers (other.observe >>= onward) := by
  intro a b h
  obtain ⟨hflow, hafter⟩ := hrun a b h
  exact hnext _ _ hflow _ _ hafter

theorem alike_pure
    {value : α} {other : β}
    (h : results value other) :
    (pure value : Run P W N α).Alike v results (pure other) :=
  fun _ _ hm => ⟨.returned h, hm⟩

theorem alike_unwind
    {payload other : Payload}
    (h : v.Excuses payload other) :
    (unwind payload : Run P W N α).Alike v results (unwind other) :=
  fun _ _ hm => ⟨.unwinding h, hm⟩

theorem alike_exhaust :
    (exhaust : Run P W N α).Alike v results exhaust :=
  fun _ _ hm => ⟨.exhausted, hm⟩

theorem alike_emit
    {entry other : Record P N}
    (h : entry.Alike v other) :
    (emit entry : Run P W N Unit).Alike v Eq (emit other) :=
  fun _ _ hm => ⟨.returned rfl, hm.emit h⟩

theorem alike_log (entry : LogEntry) :
    (log entry : Run P W N Unit).Alike v Eq (log entry) :=
  alike_emit (.same _)

end Run
end Composition

section Operations

variable {v : Veil W N} {settings : Settings} {scripts others : Scripts P W N}

namespace Run

/-- A notice is sent alike, even if its text shows failures. -/
theorem alike_send
    {notifier other : Notifier}
    (hnotifier : notifier.Alike v other)
    (nick : String)
    {text second : String}
    (htext : TextsAlike v text second) :
    (send notifier nick text : Run P W N Unit).Alike v Eq
      (send other nick second) := by
  intro a b h
  rw [send_apply, send_apply]
  refine ⟨.returned rfl, h.state, h.store, ?_, congrArg (· + 1) h.sent⟩
  apply TracesAlike.notice htext _ h.state h.trace
  rintro rfl
  rw [h.sent]
  exact hnotifier b.sent nick text

theorem textsAlike_refl (texts : List String) :
    List.Forall₂ (TextsAlike v) texts texts :=
  List.forall₂_same.mpr fun text _ => .same text

/-- Only the lines that show calls differ. -/
theorem textsAlike_stats
    {a b : Stats}
    (h : a.Alike v b) :
    List.Forall₂ (TextsAlike v) (AdminReport.stats a) (AdminReport.stats b) := by
  unfold AdminReport.stats
  rw [h.total, h.active, h.disabled]
  apply List.rel_append (textsAlike_refl _)
  rw [List.forall₂_map_left_iff, List.forall₂_map_right_iff]
  apply h.calls.imp
  rintro ⟨kind, count⟩ ⟨_, other⟩ ⟨rfl, hcount⟩
  exact .calls hcount

theorem alike_cleanupFailed
    (registration : Registration P)
    {reason other : HandlerError}
    (h : v.Excuses reason other) :
    (cleanupFailed registration reason : Run P W N Unit).Alike v Eq
      (cleanupFailed registration other) := by
  apply (alike_emit (.cleanupEnded (.inr (.error h)))).bind
  intro _ _ _
  exact alike_emit (.cleanupFailed h)

/-- Once panics are caught, a cleanup ends with some outcome that is recorded. -/
theorem settleCleanup_of_caught
    (catches : settings.catchCleanupPanics = true)
    (registration : Registration P)
    {flow : Flow (Except String Unit)}
    (hends : flow ≠ .exhausted) :
    ∃ outcome,
      ∀ m : Machine P W N,
        settleCleanup settings registration flow m =
          (.returned (), m.cleaned registration outcome) := by
  cases flow with
  | returned outcome =>
      cases outcome with
      | ok value => exact ⟨.ok (), fun m => rfl⟩
      | error reason => exact ⟨.error (.failed reason), fun m => rfl⟩
  | unwinding payload =>
      refine ⟨.error (.ofPanic payload), fun m => ?_⟩
      simp only [settleCleanup, if_pos catches]
      rfl
  | exhausted => exact absurd rfl hends

/-- A cleanup that ended is taken account of alike, even if only one failed. -/
theorem alike_settleCleanup
    (suits : v.Suits settings)
    (registration : Registration P)
    {flow other : Flow (Except String Unit)}
    (h : CleanupsEndAlike v flow other) :
    (settleCleanup settings registration flow : Run P W N Unit).Alike v Eq
      (settleCleanup settings registration other) := by
  rcases h with hstrict | ⟨blind, hflow, hother⟩
  · cases hstrict with
    | returned houtcome =>
        cases houtcome with
        | ok => exact alike_emit (.same _)
        | error hexcused =>
            exact alike_cleanupFailed registration (hexcused.map _)
    | unwinding hexcused =>
        simp only [settleCleanup]
        by_cases hcatch : settings.catchCleanupPanics = true
        · rw [if_pos hcatch, if_pos hcatch]
          exact alike_cleanupFailed registration (hexcused.map _)
        · rw [if_neg hcatch, if_neg hcatch]
          apply (alike_emit (.cleanupUnwound hexcused)).bind
          intro _ _ _
          exact alike_unwind hexcused
    | exhausted => exact alike_exhaust
  · intro a b hm
    obtain ⟨outcome, hfirst⟩ :=
      settleCleanup_of_caught (suits.2 blind) registration hflow
    obtain ⟨end_, hsecond⟩ :=
      settleCleanup_of_caught (suits.2 blind) registration hother
    rw [hfirst, hsecond]
    exact ⟨.returned rfl, hm.cleaned blind registration outcome end_⟩

theorem alike_afterRemoval
    (suits : v.Suits settings)
    (hscripts : scripts.Alike v others)
    (registration : Registration P) :
    (afterRemoval settings scripts registration).Alike v Eq
      (afterRemoval settings others registration) := by
  have hcleanup :
      (runCleanup settings scripts registration).Alike v Eq
        (runCleanup settings others registration) := by
    unfold runCleanup
    cases registration.spec.cleanup with
    | none => exact alike_pure rfl
    | some cleanup =>
        apply (hscripts.clean cleanup).observe_bind
        intro flow other hends
        exact alike_settleCleanup suits registration hends
  apply hcleanup.bind
  intro _ _ _
  apply (alike_log _).bind
  intro _ _ _
  exact alike_pure rfl

/-- A handler whose end counts is taken account of at once. -/
theorem settleHandler_of_outcome
    {flow : Flow (Except String Verdict)}
    {outcome : Except HandlerError Verdict}
    (counts : flow.outcome? settings = some outcome)
    (script : ScriptId)
    (kind : EventKind)
    (m : Machine P W N) :
    settleHandler settings script kind flow m =
      (.returned outcome, m.ended script kind outcome) := by
  cases flow with
  | returned value =>
      cases value <;> cases counts <;> rfl
  | unwinding payload =>
      simp only [Flow.outcome?] at counts
      split_ifs at counts with hcatch
      cases counts
      simp only [settleHandler, if_pos hcatch]
      rfl
  | exhausted => cases counts

/-- Once panics are caught, the end of a handler counts as what it means. -/
theorem outcome?_of_passed?
    (catches : settings.catchHandlerPanics = true)
    {flow : Flow (Except String Verdict)}
    {verdict : Verdict}
    (hpassed : flow.passed? = some verdict) :
    ∃ outcome,
      flow.outcome? settings = some outcome ∧
        Verdict.passed outcome = verdict := by
  cases flow with
  | returned value =>
      cases value <;> cases hpassed <;> exact ⟨_, rfl, rfl⟩
  | unwinding payload =>
      cases hpassed
      exact ⟨.error (.ofPanic payload), if_pos catches, rfl⟩
  | exhausted => cases hpassed

/-- Handlers that end alike count alike, unless neither counts. -/
theorem outcomes_of_handlersEndAlike
    (suits : v.Suits settings)
    {flow other : Flow (Except String Verdict)}
    (h : HandlersEndAlike v flow other) :
    (∃ outcome second,
      flow.outcome? settings = some outcome ∧
        other.outcome? settings = some second ∧
        HandlerOutcomesAlike v outcome second) ∨
      flow = other := by
  rcases h with hstrict | ⟨blind, hpassed⟩
  · cases hstrict with
    | returned houtcome =>
        cases houtcome with
        | ok heq => exact .inr (congrArg (Flow.returned ∘ Except.ok) heq)
        | error hexcused =>
            exact .inl ⟨_, _, rfl, rfl, .inl (.error (hexcused.map _))⟩
    | unwinding hexcused =>
        rcases hexcused with blind | heq
        · have catches := suits.1 blind
          exact
            .inl ⟨_, _, if_pos catches, if_pos catches, .inl (.error (.inl blind))⟩
        · exact .inr (congrArg Flow.unwinding heq)
    | exhausted => exact .inr rfl
  · have catches := suits.1 blind
    cases hverdict : flow.passed? with
    | none =>
        have hexhausted :
            ∀ {flow : Flow (Except String Verdict)},
              flow.passed? = none → flow = .exhausted := by
          intro flow hnone
          cases flow with
          | exhausted => rfl
          | _ => cases hnone
        rw [hverdict] at hpassed
        exact .inr ((hexhausted hverdict).trans (hexhausted hpassed.symm).symm)
    | some verdict =>
        rw [hverdict] at hpassed
        obtain ⟨outcome, hcounts, hmeans⟩ := outcome?_of_passed? catches hverdict
        obtain ⟨second, hcounts', hmeans'⟩ :=
          outcome?_of_passed? catches hpassed.symm
        exact
          .inl ⟨_, _, hcounts, hcounts', .inr ⟨blind, hmeans.trans hmeans'.symm⟩⟩

theorem alike_settleHandler
    (suits : v.Suits settings)
    (script : ScriptId)
    (kind : EventKind)
    {flow other : Flow (Except String Verdict)}
    (h : HandlersEndAlike v flow other) :
    (settleHandler settings script kind flow :
      Run P W N (Except HandlerError Verdict)).Alike v (HandlerOutcomesAlike v)
      (settleHandler settings script kind other) := by
  rcases outcomes_of_handlersEndAlike suits h with
    ⟨outcome, second, hcounts, hcounts', houtcomes⟩ | rfl
  · intro a b hm
    rw [settleHandler_of_outcome hcounts, settleHandler_of_outcome hcounts']
    exact ⟨.returned houtcomes, hm.ended script kind houtcomes⟩
  · cases hcounts : flow.outcome? settings with
    | some outcome =>
        intro a b hm
        rw [settleHandler_of_outcome hcounts, settleHandler_of_outcome hcounts]
        have hsame : HandlerOutcomesAlike v outcome outcome := .refl outcome
        exact ⟨.returned hsame, hm.ended script kind hsame⟩
    | none =>
        cases flow with
        | returned value => cases value <;> cases hcounts
        | unwinding payload =>
            simp only [Flow.outcome?] at hcounts
            split_ifs at hcounts with hcatch
            simp only [settleHandler, if_neg hcatch]
            apply (alike_emit (.same _)).bind
            intro _ _ _
            exact alike_unwind (.refl v payload)
        | exhausted => exact alike_exhaust

theorem alike_invoke
    (suits : v.Suits settings)
    (hscripts : scripts.Alike v others)
    (event : Event)
    (binding : Binding P) :
    (invoke settings scripts event binding).Alike v (HandlerOutcomesAlike v)
      (invoke settings others event binding) := by
  unfold invoke
  apply (alike_emit (.same _)).bind
  intro _ _ _
  apply (hscripts.handle binding.handler event).observe_bind
  intro flow other hends
  exact alike_settleHandler suits binding.script event.kind hends

/-- Outcomes that are alike are told to the journal alike. -/
theorem alike_announce
    (kind : EventKind)
    (script : ScriptId)
    (name : String)
    {outcome other : Except HandlerError Verdict}
    (h : HandlerOutcomesAlike v outcome other) :
    (announce kind script name outcome : Run P W N Unit).Alike v Eq
      (announce kind script name other) := by
  have hwarned :
      ∀ {outcome},
        Verdict.passed outcome = .allow →
        ∀ m : Machine P W N,
          announce kind script name outcome m =
            (.returned (), m.warned script kind name outcome) := by
    intro outcome passed m
    cases outcome with
    | ok verdict =>
        cases passed
        rfl
    | error reason => rfl
  have hpassed := h.passed
  cases hverdict : Verdict.passed other with
  | allow =>
      intro a b hm
      rw [hwarned (hpassed.trans hverdict), hwarned hverdict]
      exact ⟨.returned rfl, hm.warned script kind name h⟩
  | block =>
      -- Both handlers blocked: a failure lets the event through.
      cases outcome with
      | error reason =>
          exact absurd (hpassed.trans hverdict) (by simp [Verdict.passed])
      | ok verdict =>
          cases other with
          | error reason => exact absurd hverdict (by simp [Verdict.passed])
          | ok second =>
              cases hpassed
              cases hverdict
              exact alike_log _

theorem alike_consult
    (suits : v.Suits settings)
    (hscripts : scripts.Alike v others)
    (event : Event)
    (binding : Binding P)
    (name : String) :
    (consult settings scripts event binding name).Alike v
      (HandlerOutcomesAlike v)
      (consult settings others event binding name) := by
  apply (alike_invoke suits hscripts event binding).bind
  intro outcome other houtcome
  apply (alike_announce event.kind binding.script name houtcome).bind
  intro _ _ _
  exact alike_pure houtcome

end Run
end Operations

section Calls

/-- The comparison of runs under a veil. -/
def Veil.comparison (v : Veil W N) : Comparison P W N where
  twin := id
  text := TextsAlike v
  outcome := HandlerOutcomesAlike v
  report := DispatchResult.Alike v
  answer call := call.AnswersAlike v
  start := Machine.Alike v
  ready _ _ _ := True
  ends results _ _ _ ending other :=
    ending.1.Alike v results other.1 ∧ ending.2.Alike v other.2

variable {v : Veil W N} {settings : Settings} {scripts others : Scripts P W N}

theorem Veil.comparison_lawful : (v.comparison : Comparison P W N).Lawful where
  twin_id _ := rfl
  twin_enabled _ := rfl
  text_refl := .same
  outcome_passed := HandlerOutcomesAlike.passed
  report_refl := .refl
  report_verdict h := h.verdict.symm
  report_after script hreport houtcome := hreport.after script houtcome
  answer_report _ := rfl
  answer_same := by
    intro call hread hdispatch
    cases call with
    | dispatch event => exact absurd rfl (hdispatch event)
    | info | list | ids | count | stats | calls | bindingCounts | chain =>
        cases hread
    | _ => rfl
  answer_list := by
    rintro infos _ rfl
    exact Run.textsAlike_refl _
  answer_stats := Run.textsAlike_stats
  find h script := by
    simp only [comparison, Option.map_id_fun, id, h.state.find? script]
  table h := h.state.table.symm
  ids h := congrArg (List.map Registration.id) h.state.live.symm
  reading := by
    intro a b h call read hread
    cases call <;> cases hread
    case info script =>
      exact congrArg (Option.map Registration.info) (h.state.find? script)
    case list => exact congrArg (List.map Registration.info) h.state.live
    case ids => exact congrArg (List.map Registration.id) h.state.live
    case count => exact congrArg List.length h.state.live
    case stats => exact h.state.stats
    case calls kind => exact h.state.tally.calls kind
    case bindingCounts => exact congrArg HookTable.bindingCounts h.state.table
    case chain kind => exact congrArg (HookTable.get · kind) h.state.table
  pure _ h hresult _ := ⟨.returned hresult, h⟩
  bind _ _ hrun hnext :=
    Run.alike_bind hrun fun value result after later hresult hafter =>
      hnext value result after later hresult hafter fun _ _ _ => trivial

variable {notifier other : Notifier} {behaviour another : Behaviour P W N}
variable (suits : v.Suits settings) (hscripts : scripts.Alike v others)
include suits hscripts

theorem Veil.comparison_steps (hnotifier : notifier.Alike v other) :
    v.comparison.Steps ⟨settings, notifier, behaviour⟩
      ⟨settings, other, another⟩ scripts others where
  adminClass := rfl
  adminWord := rfl
  log _ := Run.alike_log _
  send nick _ _ htext := Run.alike_send hnotifier nick htext
  toggle h _ _ := ⟨.returned rfl, h.toggled _ _⟩
  remove h _ :=
    Run.alike_afterRemoval suits hscripts _ _ _ (h.unregistered _)
  sweep := comparison_lawful.sweep fun h => h
  report := comparison_lawful.report (fun h => h) fun _ => Run.alike_log _
  answer := by
    intro call _ hperform
    apply Run.Matches.observe_bind hperform
    intro flow stream hends
    cases hends with
    | returned hanswer =>
        apply (Run.alike_emit (.answered hanswer)).bind
        intro _ _ _
        exact Run.alike_pure hanswer
    | unwinding hexcused =>
        apply (Run.alike_emit (.unwound hexcused)).bind
        intro _ _ _
        exact Run.alike_unwind hexcused
    | exhausted => exact Run.alike_exhaust

theorem Veil.comparison_visits :
    v.comparison.Visits ⟨settings, notifier, behaviour⟩
      ⟨settings, other, another⟩ scripts others where
  attempt event h := h.attempted event
  ready _ _ _ _ := trivial
  consult h _ _ _ := Run.alike_consult suits hscripts _ _ _ _ _ h
  dispatch _ _ h := h

/-- **Calls of user code are answered alike.** -/
theorem Run.alike_answer
    (hnotifier : notifier.Alike v other)
    (call : Call P) :
    (answer ⟨settings, notifier, behaviour⟩ scripts call).Alike v
      (call.AnswersAlike v)
      (answer ⟨settings, other, another⟩ others call) := by
  by_cases hregister : ∃ spec, call = .register spec
  · obtain ⟨spec, rfl⟩ := hregister
    intro a b h
    rw [answer_register, answer_register]
    exact ⟨.returned h.state.nextId, h.registered settings spec⟩
  · have steps :
        v.comparison.Steps ⟨settings, notifier, behaviour⟩
          ⟨settings, other, another⟩ scripts others :=
      Veil.comparison_steps suits hscripts hnotifier
    have dispatched :=
      (Veil.comparison_visits suits hscripts).dispatches Veil.comparison_lawful
        steps
    exact steps.answers Veil.comparison_lawful dispatched
      fun spec hcall => hregister ⟨spec, hcall⟩

end Calls

section UserCode

variable {v : Veil W N} {results : R → S → Prop}
variable {answer other : (call : Call P) → Run P W N call.Answer}

/-- **Code that is alike runs alike**, if its calls are answered alike. -/
theorem Code.alike_run
    (hanswer :
      ∀ call, (answer call).Alike v (call.AnswersAlike v) (other call))
    {code : Code P W N R}
    {second : Code P W N S}
    (h : code.Alike v results second) :
    (code.run answer).Alike v (OutcomesAlike v results) (second.run other) := by
  induction h with
  | finish hending =>
      cases hending with
      | returned hresult => exact Run.alike_pure (.ok hresult)
      | failed hexcused => exact Run.alike_pure (.error hexcused)
      | panicked hexcused => exact Run.alike_unwind hexcused
  | call _ ih =>
      apply (hanswer _).bind
      intro value result hresult
      exact ih value result hresult
  | read _ ih =>
      intro a b hm
      exact ih a.store b.store hm.store a b hm
  | @write stored kept _ _ hstore _ ih =>
      intro a b hm
      exact
        ih { a with store := stored } { b with store := kept }
          ⟨hm.state, hstore, hm.trace, hm.sent⟩
  | log _ ih =>
      apply (Run.alike_log _).bind
      intro _ _ _
      exact ih
  | note hnote _ ih =>
      apply (Run.alike_emit (.note hnote)).bind
      intro _ _ _
      exact ih

end UserCode
end ScriptHub
