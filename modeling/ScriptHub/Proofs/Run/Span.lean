import ScriptHub.Proofs.Run.Equations

/-!
# Spans of a run

A course forgets which steps belong together.  A span keeps them together: what a
handler does stands between its start and its end, and what a cleanup does stands
behind the removal that began it.  A span also says how many removals were made by
the call under way and are still to be answered, or that the room for nested user
code gave out.

**Results.**
* `Span`: how a run gets from one machine to another.
* `HandlerCall.settled_cases`: how the end of a handler is taken account of.
* `Span.course`: a span takes a course.
-/

namespace ScriptHub

variable {P W N α : Type}

/--
The removals that are still to be answered when a run ends; none if the room gave
out.
-/
def Flow.owing (owed : α → Nat) : Flow α → Option Nat
  | .returned value => some (owed value)
  | .unwinding _ => some 0
  | .exhausted => none

theorem Flow.owing_eq_none
    {owed : α → Nat}
    {flow : Flow α} :
    flow.owing owed = none ↔ flow = .exhausted := by
  cases flow <;> simp [owing]

/-- What the end of a handler counts as, if the dispatch goes on after it. -/
def Flow.outcome?
    (settings : Settings) :
    Flow (Except String Verdict) → Option (Except HandlerError Verdict)
  | .returned (.ok verdict) => some (.ok verdict)
  | .returned (.error reason) => some (.error (.failed reason))
  | .unwinding payload =>
      if settings.catchHandlerPanics then some (.error (.ofPanic payload))
      else none
  | .exhausted => none

/-- The machine once the end of a handler was recorded, and counted if it failed. -/
def Machine.ended
    (m : Machine P W N)
    (script : ScriptId)
    (kind : EventKind) :
    Except HandlerError Verdict → Machine P W N
  | .ok verdict => m.emit (.handlerEnded script kind (.ok verdict))
  | .error reason => m.failed script kind reason

/--
Whether a record says nothing of a registration that is made or removed, nor of
user code that begins or ends, nor of what a dispatch reports.
-/
def Record.isQuiet : Record P N → Bool
  | .handlerEnded .. => false
  | .handlerUnwound .. => false
  | .answered (.unregister _) _ => false
  | .answered .shutdown _ => false
  | entry => entry.isPlain

theorem Record.isPlain_of_isQuiet
    {entry : Record P N}
    (quiet : entry.isQuiet = true) :
    entry.isPlain = true := by
  cases entry with
  | handlerEnded script kind outcome => exact absurd quiet (by simp [isQuiet])
  | answered call answer =>
      cases call with
      | unregister script => rfl
      | shutdown => rfl
      | _ => exact quiet
  | handlerUnwound script kind payload => rfl
  | _ => exact quiet

/-- A call of a handler in a run: where it starts and how deep it is nested. -/
structure HandlerCall (setup : Setup P W N) where
  room : Nat
  level : Nat
  binding : Binding P
  event : Event
  start : Machine P W N

namespace HandlerCall

variable {setup : Setup P W N} (call : HandlerCall setup)

/-- The machine in which a handler begins. -/
def began : Machine P W N :=
  call.start.emit
    (.handlerBegan call.binding.script call.binding.handler call.event)

/-- How the code of a handler ends. -/
def flow : Flow (Except String Verdict) :=
  ((setup.scripts call.room call.level).handle call.binding.handler call.event
    call.began).1

/-- The machine that the code of a handler leaves. -/
def stop : Machine P W N :=
  ((setup.scripts call.room call.level).handle call.binding.handler call.event
    call.began).2

/-- What the end of a handler counts as, if the dispatch goes on after it. -/
def outcome? : Option (Except HandlerError Verdict) :=
  call.flow.outcome? setup.settings

/-- The machine once the end of a handler was taken account of. -/
def settled : Machine P W N :=
  (Run.settleHandler setup.settings call.binding.script call.event.kind
    call.flow call.stop).2

/-- How many removals are to be answered at the end: none, unless it gives out. -/
def owing : Option Nat :=
  call.flow.owing fun _ => 0

/--
The end of a handler is recorded as what it counts as; otherwise a panic goes on,
or the room gave out.
-/
theorem settled_cases :
    (∃ outcome,
        call.outcome? = some outcome ∧
          call.owing = some 0 ∧
          call.settled =
            call.stop.ended call.binding.script call.event.kind outcome) ∨
      (∃ payload,
        call.outcome? = none ∧
          call.owing = some 0 ∧
          call.settled =
            call.stop.emit
              (.handlerUnwound call.binding.script call.event.kind payload)) ∨
      call.outcome? = none ∧ call.owing = none ∧ call.settled = call.stop := by
  unfold outcome? owing settled
  cases hflow : call.flow with
  | returned value =>
      cases value with
      | ok verdict => exact .inl ⟨_, rfl, rfl, rfl⟩
      | error reason => exact .inl ⟨_, rfl, rfl, rfl⟩
  | unwinding payload =>
      simp only [Flow.outcome?, Run.settleHandler]
      by_cases hcatch : setup.settings.catchHandlerPanics = true
      · rw [if_pos hcatch, if_pos hcatch]
        exact .inl ⟨_, rfl, rfl, rfl⟩
      · rw [if_neg hcatch, if_neg hcatch]
        exact .inr (.inl ⟨payload, rfl, rfl, rfl⟩)
  | exhausted => exact .inr (.inr ⟨rfl, rfl, rfl⟩)

end HandlerCall

/-- How many removals are to be answered after a dispatch: none, unless it gives out. -/
def DispatchCall.owing {setup : Setup P W N} (call : DispatchCall setup) : Option Nat :=
  call.flow.owing fun _ => 0

/--
How a run gets from one machine to another, and how many removals it leaves to be
answered; none if the room gave out on the way.
-/
inductive Span (setup : Setup P W N) :
    Machine P W N → Option Nat → Machine P W N → Prop
  | stay
      (m : Machine P W N) :
      Span setup m (some 0) m
  | cut
      (m : Machine P W N) :
      Span setup m none m
  | trans
      {a b c : Machine P W N}
      {made : Nat}
      {owed : Option Nat}
      (first : Span setup a (some made) b)
      (second : Span setup b owed c) :
      Span setup a (owed.map (made + ·)) c
  | register
      (m : Machine P W N)
      (spec : Spec P) :
      Span setup m (some 0) (m.registered setup.settings spec)
  | toggle
      (m : Machine P W N)
      (registration : Registration P)
      (enabled : Bool)
      (live : m.state.find? registration.id = some registration)
      (change : registration.enabled ≠ enabled) :
      Span setup m (some 0) (m.toggled registration.id enabled)
  | record
      (m : Machine P W N)
      (entry : Record P N)
      (quiet : entry.isQuiet = true) :
      Span setup m (some 0) (m.emit entry)
  | write
      (m : Machine P W N)
      (store : W) :
      Span setup m (some 0) { m with store := store }
  | send
      (m : Machine P W N) :
      Span setup m (some 0) { m with sent := m.sent + 1 }
  | handler
      (call : HandlerCall setup)
      (due : call.start.state.IsDue call.event.kind call.binding)
      (begun :
        ∃ moment ∈ call.start.trace, moment.record = .dispatchBegan call.event)
      (within : Span setup call.began call.owing call.stop) :
      Span setup call.start call.owing call.settled
  | dispatch
      (call : DispatchCall setup)
      (sound : call.start.state.WellFormed)
      (within :
        Span setup (call.start.attempted call.event) call.owing call.stop) :
      Span setup call.start call.owing call.stop
  | report
      (call : DispatchCall setup)
      (sound : call.start.state.WellFormed)
      (result : DispatchResult)
      (returned : call.flow = .returned result) :
      Span setup call.stop (some 0)
        (call.stop.emit (.answered (.dispatch call.event) result))
  | removal
      (m : Machine P W N)
      {last : Machine P W N}
      {owed : Option Nat}
      (registration : Registration P)
      (live : m.state.find? registration.id = some registration)
      (within : Span setup (m.unregistered registration) owed last) :
      Span setup m (owed.map (1 + ·)) last
  | answerRemoval
      {a b : Machine P W N}
      (script : ScriptId)
      (removed : Bool)
      (within : Span setup a (some removed.toNat) b) :
      Span setup a (some 0) (b.emit (.answered (.unregister script) removed))
  | answerShutdown
      {a b : Machine P W N}
      (removed : Nat)
      (within : Span setup a (some removed) b) :
      Span setup a (some 0) (b.emit (.answered .shutdown removed))
  | forfeit
      {a b : Machine P W N}
      {made : Nat}
      (uncaught : setup.settings.catchCleanupPanics = false)
      (within : Span setup a (some made) b) :
      Span setup a (some 0) b

section Course

variable {setup : Setup P W N} {a b c : Machine P W N} {owed : Option Nat}

/-- A span goes on where one ended that left nothing to be answered. -/
theorem Span.andThen
    (first : Span setup a (some 0) b)
    (second : Span setup b owed c) :
    Span setup a owed c := by
  have key := first.trans second
  have hsame : owed.map (0 + ·) = owed := by
    cases owed <;> simp
  rw [hsame] at key
  exact key

/-- The handler of a live and enabled registration may begin. -/
theorem HandlerCall.course_began
    (call : HandlerCall setup)
    (due : call.start.state.IsDue call.event.kind call.binding) :
    Course setup call.start call.began := by
  obtain ⟨registration, live, enabled, declared⟩ := due
  have hid := Dispatcher.find?_eq_some_id live
  unfold HandlerCall.began
  rw [← hid] at live ⊢
  exact .step (.call _ registration _ _ live enabled declared)

/-- The end of a handler takes a course. -/
theorem HandlerCall.course_settled
    (call : HandlerCall setup) :
    Course setup call.stop call.settled := by
  rcases call.settled_cases with
    ⟨outcome, _, _, hsettled⟩ | ⟨payload, _, _, hsettled⟩ | ⟨_, _, hsettled⟩
  · rw [hsettled]
    cases outcome with
    | ok verdict => exact .step (.record _ _ rfl)
    | error reason => exact .step (.fail _ _ _ _)
  · rw [hsettled]
    exact .step (.record _ _ rfl)
  · rw [hsettled]
    exact .stay _

/-- **A span takes a course.** -/
theorem Span.course
    (span : Span setup a owed b) :
    Course setup a b := by
  induction span with
  | stay m => exact .stay m
  | cut m => exact .stay m
  | trans _ _ ihfirst ihsecond => exact ihfirst.trans ihsecond
  | register m spec => exact .step (.register m spec)
  | toggle m registration enabled live change =>
      exact .step (.toggle m registration enabled live change)
  | record m entry quiet =>
      exact .step (.record m entry (Record.isPlain_of_isQuiet quiet))
  | write m store => exact .step (.write m store)
  | send m => exact .step (.send m)
  | handler call due begun _ ih =>
      exact ((call.course_began due).trans ih).trans call.course_settled
  | dispatch call sound _ ih => exact .dispatch call sound ih
  | report call sound result returned =>
      exact .answer call sound result returned
  | removal m registration live _ ih =>
      have removed : Course setup m (m.unregistered registration) :=
        .step (.unregister m registration live)
      exact removed.trans ih
  | answerRemoval script removed _ ih =>
      exact ih.trans (.step (.record _ _ rfl))
  | answerShutdown removed _ ih =>
      exact ih.trans (.step (.record _ _ rfl))
  | forfeit _ _ ih => exact ih

end Course
end ScriptHub
