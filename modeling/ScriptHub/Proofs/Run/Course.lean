import ScriptHub.Proofs.Dispatcher.Counters
import ScriptHub.Run.Perform

/-!
# The course of a run

Whatever user code does, a machine changes by steps of a few sorts: a
registration is made, removed or toggled, a handler is called or fails, and
records that say nothing of these are written.  Dispatches are kept together
with all that they cause, so that the course of a run can be asked for them.

**Results.**
* `Step`: what can happen at once.
* `Course`: what can happen in all.
* `Course.preserves`: what every step preserves holds at the end of a course.
* `Setup.Reaches`: the machines that a run can come to.
-/

namespace ScriptHub

variable {P W N R : Type}

/--
Whether a record says nothing of a registration that is made, of user code that
begins, of a handler that fails, or of what a dispatch reports.
-/
def Record.isPlain : Record P N → Bool
  | .dispatchBegan _ => false
  | .handlerBegan .. => false
  | .handlerEnded _ _ (.error _) => false
  | .cleanupBegan .. => false
  | .answered (.register _) _ => false
  | .answered (.dispatch _) _ => false
  | _ => true

namespace Machine

/-- Changes the state of the dispatcher. -/
def update
    (m : Machine P W N)
    (f : Dispatcher P → Dispatcher P) :
    Machine P W N :=
  { m with state := f m.state }

/-- The machine once a registration was made and its id answered. -/
def registered
    (m : Machine P W N)
    (settings : Settings)
    (spec : Spec P) :
    Machine P W N :=
  let script := m.state.nextId
  let priority := spec.priority.getD settings.defaultPriority
  let bound :=
    (m.update fun s => s.enrolled spec priority).emit
      (.log (.bindingsInserted script spec.kinds.length))
  let counted :=
    (bound.update fun s =>
      s.retally fun tally => tally.registered spec.autoEnable).emit
        (.log (.scriptRegistered script spec.name priority spec.kinds.length
          spec.autoEnable))
  counted.emit (.answered (.register spec) script)

/-- The machine once a registration is gone and its cleanup is to run. -/
def unregistered
    (m : Machine P W N)
    (registration : Registration P) :
    Machine P W N :=
  let script := registration.id
  let unbound :=
    (m.update fun s => s.withdrawn script).emit
      (.log (.bindingsRemoved script (m.state.table.countOf script)))
  let counted :=
    unbound.update fun s =>
      s.retally fun tally => tally.unregistered registration.enabled
  match registration.spec.cleanup with
  | none => counted
  | some cleanup => counted.emit (.cleanupBegan script cleanup)

/-- The machine once the flag of a registration was changed. -/
def toggled
    (m : Machine P W N)
    (script : ScriptId)
    (enabled : Bool) :
    Machine P W N :=
  (m.update fun s =>
    (s.setFlag script enabled).retally fun tally => tally.toggled enabled).emit
      (.log (.stateChanged script enabled))

/-- The machine once a dispatch was counted. -/
def attempted
    (m : Machine P W N)
    (event : Event) :
    Machine P W N :=
  (m.update fun s =>
    s.retally fun tally => tally.attempted event.kind).emit
      (.dispatchBegan event)

/-- The machine once a handler failed and the failure was counted. -/
def failed
    (m : Machine P W N)
    (script : ScriptId)
    (kind : EventKind)
    (reason : HandlerError) :
    Machine P W N :=
  (m.update fun s => s.retally fun tally => tally.failed kind).emit
    (.handlerEnded script kind (.error reason))

section State

variable (m : Machine P W N)

@[simp] theorem emit_state (entry : Record P N) :
    (m.emit entry).state = m.state := by
  rfl

@[simp] theorem emit_trace (entry : Record P N) :
    (m.emit entry).trace = ⟨entry, m.state⟩ :: m.trace := by
  rfl

@[simp] theorem registered_state
    (settings : Settings)
    (spec : Spec P) :
    (m.registered settings spec).state =
      (m.state.enrolled spec
        (spec.priority.getD settings.defaultPriority)).retally
          fun tally => tally.registered spec.autoEnable := by
  rfl

@[simp] theorem unregistered_state (registration : Registration P) :
    (m.unregistered registration).state =
      (m.state.withdrawn registration.id).retally
        fun tally => tally.unregistered registration.enabled := by
  unfold unregistered
  cases registration.spec.cleanup <;> rfl

@[simp] theorem toggled_state
    (script : ScriptId)
    (enabled : Bool) :
    (m.toggled script enabled).state =
      (m.state.setFlag script enabled).retally
        fun tally => tally.toggled enabled := by
  rfl

@[simp] theorem attempted_state (event : Event) :
    (m.attempted event).state =
      m.state.retally fun tally => tally.attempted event.kind := by
  rfl

@[simp] theorem failed_state
    (script : ScriptId)
    (kind : EventKind)
    (reason : HandlerError) :
    (m.failed script kind reason).state =
      m.state.retally fun tally => tally.failed kind := by
  rfl

end State
end Machine

/-- What can happen to a machine at once. -/
inductive Step (settings : Settings) :
    Machine P W N → Machine P W N → Prop
  | register
      (m : Machine P W N)
      (spec : Spec P) :
      Step settings m (m.registered settings spec)
  | unregister
      (m : Machine P W N)
      (registration : Registration P)
      (live : m.state.find? registration.id = some registration) :
      Step settings m (m.unregistered registration)
  | toggle
      (m : Machine P W N)
      (registration : Registration P)
      (enabled : Bool)
      (live : m.state.find? registration.id = some registration)
      (change : registration.enabled ≠ enabled) :
      Step settings m (m.toggled registration.id enabled)
  | call
      (m : Machine P W N)
      (registration : Registration P)
      (handler : P)
      (event : Event)
      (live : m.state.find? registration.id = some registration)
      (enabled : registration.enabled = true)
      (declared : registration.spec.handler? event.kind = some handler) :
      Step settings m (m.emit (.handlerBegan registration.id handler event))
  | fail
      (m : Machine P W N)
      (script : ScriptId)
      (kind : EventKind)
      (reason : HandlerError) :
      Step settings m (m.failed script kind reason)
  | record
      (m : Machine P W N)
      (entry : Record P N)
      (plain : entry.isPlain = true) :
      Step settings m (m.emit entry)
  | write
      (m : Machine P W N)
      (store : W) :
      Step settings m { m with store := store }
  | send
      (m : Machine P W N) :
      Step settings m { m with sent := m.sent + 1 }

/-- A dispatch in a run: where it starts and how deep it is nested. -/
structure DispatchCall (setup : Setup P W N) where
  room : Nat
  level : Nat
  event : Event
  start : Machine P W N

namespace DispatchCall

variable {setup : Setup P W N}

/-- How a dispatch ends. -/
def flow (call : DispatchCall setup) : Flow DispatchResult :=
  (Run.dispatch setup.settings (setup.scripts call.room call.level)
    call.event call.start).1

/-- The machine that a dispatch leaves. -/
def stop (call : DispatchCall setup) : Machine P W N :=
  (Run.dispatch setup.settings (setup.scripts call.room call.level)
    call.event call.start).2

end DispatchCall

/-- What can happen to a machine in all. -/
inductive Course (setup : Setup P W N) :
    Machine P W N → Machine P W N → Prop
  | stay
      (m : Machine P W N) :
      Course setup m m
  | step
      {a b : Machine P W N}
      (once : Step setup.settings a b) :
      Course setup a b
  | trans
      {a b c : Machine P W N}
      (first : Course setup a b)
      (second : Course setup b c) :
      Course setup a c
  | dispatch
      (call : DispatchCall setup)
      (sound : call.start.state.WellFormed)
      (within : Course setup (call.start.attempted call.event) call.stop) :
      Course setup call.start call.stop
  | answer
      (call : DispatchCall setup)
      (sound : call.start.state.WellFormed)
      (result : DispatchResult)
      (returned : call.flow = .returned result) :
      Course setup call.stop
        (call.stop.emit (.answered (.dispatch call.event) result))

/-- What steps, dispatches and their answers preserve holds after a course. -/
theorem Course.preserves
    {setup : Setup P W N}
    (I : Machine P W N → Prop)
    (hstep : ∀ {a b}, Step setup.settings a b → I a → I b)
    (hattempt : ∀ {m} (event : Event), I m → I (m.attempted event))
    (hanswer :
      ∀ {m} (event : Event) (result : DispatchResult),
        I m → I (m.emit (.answered (.dispatch event) result)))
    {a b : Machine P W N}
    (course : Course setup a b) :
    I a → I b := by
  intro ha
  induction course with
  | stay => exact ha
  | step once => exact hstep once ha
  | trans _ _ ihfirst ihsecond => exact ihsecond (ihfirst ha)
  | dispatch call _ _ ih => exact ih (hattempt call.event ha)
  | answer call _ result _ => exact hanswer call.event result ha

/--
The machines that a run can come to, in the middle of its dispatches as well as
between them.
-/
inductive Setup.Reaches (setup : Setup P W N) : Machine P W N → Prop
  | fresh
      (store : W) :
      Setup.Reaches setup (.fresh store)
  | step
      {a b : Machine P W N}
      (before : Setup.Reaches setup a)
      (once : Step setup.settings a b) :
      Setup.Reaches setup b
  | began
      {m : Machine P W N}
      (before : Setup.Reaches setup m)
      (event : Event) :
      Setup.Reaches setup (m.attempted event)
  | reported
      {m : Machine P W N}
      (before : Setup.Reaches setup m)
      (event : Event)
      (result : DispatchResult) :
      Setup.Reaches setup (m.emit (.answered (.dispatch event) result))

/-- A course leads from machines that a run can come to only to such. -/
theorem Setup.Reaches.course
    {setup : Setup P W N}
    {a b : Machine P W N}
    (h : setup.Reaches a)
    (course : Course setup a b) :
    setup.Reaches b := by
  refine Course.preserves (fun m => setup.Reaches m) ?_ ?_ ?_ course h
  · intro a b once before
    exact .step before once
  · intro m event before
    exact .began before event
  · intro m event result before
    exact .reported before event result

/-- A step keeps a dispatcher well-formed. -/
theorem Step.wellFormed
    {settings : Settings}
    {a b : Machine P W N}
    (once : Step settings a b)
    (h : a.state.WellFormed) :
    b.state.WellFormed := by
  cases once with
  | register spec =>
      rw [Machine.registered_state]
      exact (h.enrolled _ _).retally _
  | unregister registration live =>
      rw [Machine.unregistered_state]
      exact (h.withdrawn _).retally _
  | toggle registration enabled live change =>
      rw [Machine.toggled_state]
      exact (h.setFlag _ _).retally _
  | call registration handler event live enabled declared => exact h
  | fail script kind reason =>
      rw [Machine.failed_state]
      exact h.retally _
  | record entry plain => exact h
  | write store => exact h
  | send => exact h

/-- A step evolves the dispatcher. -/
theorem Step.evolves
    {settings : Settings}
    {a b : Machine P W N}
    (once : Step settings a b) :
    a.state.Evolves b.state := by
  cases once with
  | register spec =>
      rw [Machine.registered_state]
      exact (Dispatcher.evolves_enrolled _ _ _).trans
        (Dispatcher.evolves_retally _ _)
  | unregister registration live =>
      rw [Machine.unregistered_state]
      exact (Dispatcher.evolves_withdrawn _ _).trans
        (Dispatcher.evolves_retally _ _)
  | toggle registration enabled live change =>
      rw [Machine.toggled_state]
      exact (Dispatcher.evolves_setFlag _ _ _).trans
        (Dispatcher.evolves_retally _ _)
  | call registration handler event live enabled declared =>
      exact Dispatcher.Evolves.refl _
  | fail script kind reason =>
      rw [Machine.failed_state]
      exact Dispatcher.evolves_retally _ _
  | record entry plain => exact Dispatcher.Evolves.refl _
  | write store => exact Dispatcher.Evolves.refl _
  | send => exact Dispatcher.Evolves.refl _

/-- A step only adds to the trace. -/
theorem Step.trace_suffix
    {settings : Settings}
    {a b : Machine P W N}
    (once : Step settings a b) :
    a.trace <:+ b.trace := by
  cases once with
  | register spec => exact ⟨[_, _, _], rfl⟩
  | unregister registration live =>
      unfold Machine.unregistered
      cases registration.spec.cleanup with
      | none => exact ⟨[_], rfl⟩
      | some cleanup => exact ⟨[_, _], rfl⟩
  | toggle registration enabled live change => exact ⟨[_], rfl⟩
  | call registration handler event live enabled declared => exact ⟨[_], rfl⟩
  | fail script kind reason => exact ⟨[_], rfl⟩
  | record entry plain => exact ⟨[_], rfl⟩
  | write store => exact List.suffix_refl _
  | send => exact List.suffix_refl _

section Course

variable {setup : Setup P W N} {a b : Machine P W N}

/-- A dispatcher stays well-formed all along a course. -/
theorem Course.wellFormed
    (course : Course setup a b)
    (h : a.state.WellFormed) :
    b.state.WellFormed := by
  refine Course.preserves (fun m => m.state.WellFormed) ?_ ?_ ?_ course h
  · intro a b once
    exact once.wellFormed
  · intro m event h
    rw [Machine.attempted_state]
    exact h.retally _
  · intro m event result h
    exact h

/-- A course evolves the dispatcher. -/
theorem Course.evolves
    (course : Course setup a b) :
    a.state.Evolves b.state := by
  refine
    Course.preserves (fun m => a.state.Evolves m.state) ?_ ?_ ?_ course
      (Dispatcher.Evolves.refl _)
  · intro b c once hb
    exact hb.trans once.evolves
  · intro m event hm
    rw [Machine.attempted_state]
    exact hm.trans (Dispatcher.evolves_retally _ _)
  · intro m event result hm
    exact hm

/-- A course only adds to the trace. -/
theorem Course.trace_suffix
    (course : Course setup a b) :
    a.trace <:+ b.trace := by
  refine
    Course.preserves (fun m => a.trace <:+ m.trace) ?_ ?_ ?_ course
      (List.suffix_refl _)
  · intro b c once hb
    exact hb.trans once.trace_suffix
  · intro m event hm
    exact hm.trans (List.suffix_cons _ _)
  · intro m event result hm
    exact hm.trans (List.suffix_cons _ _)

/-- A record of some sort that stands behind one of another was there before. -/
theorem suffix_of_suffix_cons
    {sort : Record P N → Bool}
    {wanted : Record P N}
    {state : Dispatcher P}
    {moment : Moment P N}
    {earlier trace : List (Moment P N)}
    (hwanted : sort wanted = true)
    (hother : sort moment.record = false)
    (h : ⟨wanted, state⟩ :: earlier <:+ moment :: trace) :
    ⟨wanted, state⟩ :: earlier <:+ trace := by
  rcases List.suffix_cons_iff.mp h with heq | hold
  · have hrecord : wanted = moment.record :=
      congrArg Moment.record (List.cons.inj heq).1
    rw [hrecord, hother] at hwanted
    exact absurd hwanted (by simp)
  · exact hold

end Course
end ScriptHub
