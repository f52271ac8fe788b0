import ScriptHub.Proofs.Admin.Surface
import ScriptHub.Proofs.Run.Veto

/-!
# Handlers that call nothing

Code that calls nothing may write to its store and to the journal, but it changes no
registration and sends no notice.  A dispatch to handlers of such code does neither.

**Results.**
* `Machine.Spares`: the registrations are left alone and nobody is told anything.
* `Code.spares_of_concludes`: code that calls nothing spares.
* `Run.spares_dispatch`: so does a dispatch to handlers that spare.
-/

namespace ScriptHub

variable {P W N R α β : Type}

/-- The registrations are left alone, and no notice is sent. -/
structure Machine.Spares (a b : Machine P W N) : Prop where
  live : b.state.live = a.state.live
  silent : a.Notifies b []

/-- A run leaves the registrations alone and sends no notice. -/
def Run.Spares (run : Run P W N α) : Prop :=
  ∀ m : Machine P W N, m.Spares (run m).2

namespace Machine

theorem Spares.refl (m : Machine P W N) : m.Spares m where
  live := rfl
  silent := .refl m

theorem Spares.trans
    {a b c : Machine P W N}
    (first : a.Spares b)
    (second : b.Spares c) :
    a.Spares c where
  live := second.live.trans first.live
  silent := first.silent.trans second.silent

theorem spares_emit
    (m : Machine P W N)
    {entry : Record P N}
    (hother : entry.notice? = none) :
    m.Spares (m.emit entry) where
  live := rfl
  silent := (Notifies.refl m).emit hother

end Machine

namespace Run

variable {run : Run P W N α} {next : α → Run P W N β}

theorem spares_bind
    (hrun : run.Spares)
    (hnext : ∀ value, (next value).Spares) :
    (run >>= next).Spares :=
  bind_related Machine.Spares Machine.Spares.trans hrun hnext

theorem spares_observe_bind
    {next : Flow α → Run P W N β}
    (hrun : run.Spares)
    (hnext : ∀ flow, (next flow).Spares) :
    (run.observe >>= next).Spares :=
  fun m => (hrun m).trans (hnext (run m).1 (run m).2)

theorem spares_pure (value : α) : (pure value : Run P W N α).Spares :=
  fun m => .refl m

theorem spares_state : (state : Run P W N (Dispatcher P)).Spares :=
  fun m => .refl m

theorem spares_emit
    {entry : Record P N}
    (hother : entry.notice? = none) :
    (emit entry : Run P W N Unit).Spares :=
  fun m => m.spares_emit hother

theorem spares_log (entry : LogEntry) : (log entry : Run P W N Unit).Spares :=
  spares_emit rfl

theorem spares_retally (f : Tally → Tally) :
    (modifyState (fun s => s.retally f) : Run P W N Unit).Spares :=
  fun _ => ⟨rfl, ⟨[], rfl, rfl⟩, rfl⟩

theorem spares_failed
    (script : ScriptId)
    (kind : EventKind)
    (reason : HandlerError) :
    (failed script kind reason :
      Run P W N (Except HandlerError Verdict)).Spares := by
  unfold failed
  apply spares_bind (spares_retally _)
  intro _
  apply spares_bind (spares_emit rfl)
  intro _
  exact spares_pure _

theorem spares_settleHandler
    (settings : Settings)
    (script : ScriptId)
    (kind : EventKind)
    (flow : Flow (Except String Verdict)) :
    (settleHandler settings script kind flow :
      Run P W N (Except HandlerError Verdict)).Spares := by
  cases flow with
  | returned outcome =>
      cases outcome with
      | ok verdict =>
          apply spares_bind (spares_emit rfl)
          intro _
          exact spares_pure _
      | error reason => exact spares_failed script kind _
  | unwinding payload =>
      simp only [settleHandler]
      split
      · exact spares_failed script kind _
      · apply spares_bind (spares_emit rfl)
        intro _
        exact fun m => .refl m
  | exhausted => exact fun m => .refl m

variable {settings : Settings} {scripts : Scripts P W N} {event : Event}

/-- A call of a handler that spares spares. -/
theorem spares_invoke
    {binding : Binding P}
    (hhandler : (scripts.handle binding.handler event).Spares) :
    (invoke settings scripts event binding).Spares := by
  apply spares_bind (spares_emit rfl)
  intro _
  exact spares_observe_bind hhandler
    (spares_settleHandler settings binding.script event.kind)

/-- A walk along handlers that spare spares. -/
theorem spares_walk
    (hscripts : ∀ procedure, (scripts.handle procedure event).Spares)
    (chain : List (Binding P)) :
    (walk settings scripts event chain).Spares := by
  induction chain with
  | nil => exact spares_pure _
  | cons binding rest ih =>
      unfold walk
      apply spares_bind spares_state
      intro before
      cases before.find? binding.script with
      | none => exact ih
      | some registration =>
          simp only
          split
          · apply spares_bind (spares_invoke (hscripts binding.handler))
            intro outcome
            rcases outcome with reason | verdict
            · apply spares_bind (spares_log _)
              intro _
              apply spares_bind ih
              intro _
              exact spares_pure _
            · cases verdict with
              | allow =>
                  apply spares_bind ih
                  intro _
                  exact spares_pure _
              | block =>
                  apply spares_bind (spares_log _)
                  intro _
                  exact spares_pure _
          · exact ih

/-- A dispatch to handlers that spare spares. -/
theorem spares_dispatch
    (hscripts : ∀ procedure, (scripts.handle procedure event).Spares) :
    (dispatch settings scripts event).Spares := by
  unfold dispatch
  apply spares_bind (spares_retally _)
  intro _
  apply spares_bind (spares_emit rfl)
  intro _
  apply spares_bind spares_state
  intro counted
  cases counted.table.get event.kind with
  | nil => exact spares_pure _
  | cons binding rest =>
      apply spares_bind (spares_log _)
      intro _
      exact spares_walk hscripts (binding :: rest)

end Run

/-- Code that calls nothing spares. -/
theorem Code.spares_of_concludes
    (answer : (call : Call P) → Run P W N call.Answer)
    {ending : Ending R}
    {code : Code P W N R}
    (h : code.Concludes ending) :
    (code.run answer).Spares := by
  induction code with
  | finish other => cases other <;> exact fun m => .refl m
  | call request next _ => exact absurd h id
  | read next ih => exact fun m => ih m.store (h m.store) m
  | write store next ih =>
      intro m
      have written : m.Spares { m with store := store } :=
        ⟨rfl, ⟨[], rfl, rfl⟩, rfl⟩
      exact written.trans (ih h _)
  | log entry next ih => exact fun m => (m.spares_emit rfl).trans (ih h _)
  | note what next ih => exact fun m => (m.spares_emit rfl).trans (ih h _)

end ScriptHub
