import ScriptHub.Proofs.Run.RunCourse

/-!
# Every handler call of a run

A trace tells which handlers are running: a handler runs from the record of its
start to the record of its end.  Every record of a start or an end is found to
belong to one call, and the record of an end always closes the call that began
last among those still running.

**Results.**
* `Span.runningIn_eq`: a span that comes to an end leaves the same handlers running.
* `Span.call_of_record`: every record of a handler belongs to a call of the span.
* `HandlerCall.Within.innermost`: an end closes the innermost call.
* `Setup.tellsCall_runAll`: every record of a handler in a run belongs to a call.
-/

namespace ScriptHub

variable {P W N R : Type}

/-- Whether a record says that a handler began or ended. -/
def Record.isOfHandler : Record P N → Bool
  | .handlerBegan .. => true
  | .handlerEnded .. => true
  | .handlerUnwound .. => true
  | _ => false

@[simp] theorem Record.isOfHandler_log (note : LogEntry) :
    (log note : Record P N).isOfHandler = false := rfl

@[simp] theorem Record.isOfHandler_answered (call : Call P) (answer : call.Answer) :
    (answered call answer : Record P N).isOfHandler = false := rfl

theorem Record.isOfHandler_of_isQuiet
    {entry : Record P N}
    (quiet : entry.isQuiet = true) :
    entry.isOfHandler = false := by
  cases entry with
  | handlerBegan script handler event =>
      exact absurd quiet (by simp [isQuiet, isPlain])
  | handlerEnded script kind outcome => exact absurd quiet (by simp [isQuiet])
  | handlerUnwound script kind payload => exact absurd quiet (by simp [isQuiet])
  | _ => rfl

/-- The handlers that run after a record, innermost first. -/
def Record.running
    (running : List (ScriptId × EventKind)) :
    Record P N → List (ScriptId × EventKind)
  | .handlerBegan script _ event => (script, event.kind) :: running
  | .handlerEnded .. => running.tail
  | .handlerUnwound .. => running.tail
  | _ => running

theorem Record.running_of_not
    (running : List (ScriptId × EventKind))
    {entry : Record P N}
    (hother : entry.isOfHandler = false) :
    entry.running running = running := by
  cases entry with
  | handlerBegan script handler event =>
      exact absurd hother (by simp [isOfHandler])
  | handlerEnded script kind outcome =>
      exact absurd hother (by simp [isOfHandler])
  | handlerUnwound script kind payload =>
      exact absurd hother (by simp [isOfHandler])
  | _ => rfl

/-- The handlers that a trace leaves running, innermost first. -/
def runningIn (trace : List (Moment P N)) : List (ScriptId × EventKind) :=
  trace.foldr (fun moment running => moment.record.running running) []

theorem runningIn_cons
    (moment : Moment P N)
    (trace : List (Moment P N)) :
    runningIn (moment :: trace) =
      moment.record.running (runningIn trace) := by
  rfl

theorem runningIn_append_of_not
    {news : List (Moment P N)}
    (hnews : ∀ moment ∈ news, moment.record.isOfHandler = false)
    (trace : List (Moment P N)) :
    runningIn (news ++ trace) = runningIn trace := by
  induction news with
  | nil => rfl
  | cons moment rest ih =>
      obtain ⟨hmoment, hrest⟩ := List.forall_mem_cons.mp hnews
      rw [List.cons_append, runningIn_cons,
        Record.running_of_not _ hmoment, ih hrest]

/-- A record of some sort that stands behind others of no such sort. -/
theorem suffix_of_suffix_append
    {sort : Record P N → Bool}
    {wanted : Record P N}
    {state : Dispatcher P}
    {earlier news trace : List (Moment P N)}
    (hwanted : sort wanted = true)
    (hnews : ∀ moment ∈ news, sort moment.record = false)
    (h : ⟨wanted, state⟩ :: earlier <:+ news ++ trace) :
    ⟨wanted, state⟩ :: earlier <:+ trace := by
  induction news with
  | nil => exact h
  | cons moment rest ih =>
      obtain ⟨hmoment, hrest⟩ := List.forall_mem_cons.mp hnews
      exact ih hrest (suffix_of_suffix_cons hwanted hmoment h)

section News

variable (m : Machine P W N)

/-- A registration is made without a record of a handler. -/
theorem Machine.registered_news
    (settings : Settings)
    (spec : Spec P) :
    ∃ news,
      (m.registered settings spec).trace = news ++ m.trace ∧
        ∀ moment ∈ news, moment.record.isOfHandler = false := by
  refine ⟨[_, _, _], rfl, ?_⟩
  simp [Record.isOfHandler]

theorem Machine.unregistered_news (registration : Registration P) :
    ∃ news,
      (m.unregistered registration).trace = news ++ m.trace ∧
        ∀ moment ∈ news, moment.record.isOfHandler = false := by
  unfold Machine.unregistered
  cases registration.spec.cleanup with
  | none => exact ⟨[_], rfl, by simp [Record.isOfHandler]⟩
  | some cleanup => exact ⟨[_, _], rfl, by simp [Record.isOfHandler]⟩

theorem Machine.ended_trace
    (script : ScriptId)
    (kind : EventKind)
    (outcome : Except HandlerError Verdict) :
    (m.ended script kind outcome).trace =
      ⟨.handlerEnded script kind outcome,
        (m.ended script kind outcome).state⟩ :: m.trace := by
  cases outcome <;> rfl

end News

section Running

variable {setup : Setup P W N} {a b : Machine P W N} {owed : Option Nat}

theorem HandlerCall.runningIn_began (call : HandlerCall setup) :
    runningIn call.began.trace =
      (call.binding.script, call.event.kind) ::
        runningIn call.start.trace := by
  rfl

/--
A span leaves the handlers running that it found, and no others unless the room
gave out.
-/
theorem Span.running
    (span : Span setup a owed b) :
    (owed ≠ none → runningIn b.trace = runningIn a.trace) ∧
      runningIn a.trace <:+ runningIn b.trace := by
  have hsame :
      ∀ {x y : Machine P W N} {owed : Option Nat},
        runningIn y.trace = runningIn x.trace →
        (owed ≠ none → runningIn y.trace = runningIn x.trace) ∧
          runningIn x.trace <:+ runningIn y.trace := by
    intro x y owed h
    exact ⟨fun _ => h, h ▸ List.suffix_refl _⟩
  induction span with
  | stay m => exact hsame rfl
  | cut m => exact hsame rfl
  | trans _ _ ihfirst ihsecond =>
      have hfirst := ihfirst.1 (by simp)
      rw [← hfirst]
      constructor
      · intro howed
        apply ihsecond.1
        intro hnone
        exact howed (by rw [hnone]; rfl)
      · exact ihsecond.2
  | register m spec =>
      obtain ⟨news, htrace, hnews⟩ := m.registered_news setup.settings spec
      apply hsame
      rw [htrace, runningIn_append_of_not hnews]
  | toggle m registration enabled live change => exact hsame rfl
  | record m entry quiet =>
      apply hsame
      exact Record.running_of_not _ (Record.isOfHandler_of_isQuiet quiet)
  | write m store => exact hsame rfl
  | send m => exact hsame rfl
  | handler call due begun _ ih =>
      rw [call.runningIn_began] at ih
      rcases call.settled_cases with
        ⟨outcome, _, howing, hsettled⟩ | ⟨payload, _, howing, hsettled⟩ |
          ⟨_, howing, hsettled⟩
      · apply hsame
        rw [hsettled, Machine.ended_trace, runningIn_cons,
          ih.1 (by simp [howing])]
        rfl
      · apply hsame
        rw [hsettled, Machine.emit_trace, runningIn_cons,
          ih.1 (by simp [howing])]
        rfl
      · rw [hsettled]
        constructor
        · intro hne
          exact absurd howing hne
        · exact (List.suffix_cons _ _).trans ih.2
  | dispatch call sound _ ih => exact ih
  | report call sound result returned => exact hsame rfl
  | removal m registration live _ ih =>
      obtain ⟨news, htrace, hnews⟩ := m.unregistered_news registration
      rw [htrace, runningIn_append_of_not hnews] at ih
      constructor
      · intro howed
        apply ih.1
        intro hnone
        exact howed (by rw [hnone]; rfl)
      · exact ih.2
  | answerRemoval script removed _ ih => exact hsame (ih.1 (by simp))
  | answerShutdown removed _ ih => exact hsame (ih.1 (by simp))
  | forfeit uncaught _ ih => exact hsame (ih.1 (by simp))

theorem Span.runningIn_eq
    {made : Nat}
    (span : Span setup a (some made) b) :
    runningIn b.trace = runningIn a.trace :=
  span.running.1 (by simp)

end Running

section Calls

variable {setup : Setup P W N} {a b : Machine P W N} {owed : Option Nat}

/-- A call of a handler happened and is over, as a machine's trace tells. -/
structure HandlerCall.Within
    (call : HandlerCall setup)
    (m : Machine P W N) :
    Prop where
  sound : call.start.state.WellFormed
  due : call.start.state.IsDue call.event.kind call.binding
  begun :
    ∃ moment ∈ call.start.trace, moment.record = .dispatchBegan call.event
  spans : Span setup call.began call.owing call.stop
  recorded : call.settled.trace <:+ m.trace

/--
A stretch of a trace ends where a call of a handler began or came to its end.  If the
room gave out in the call, it did so in what the call is a part of.
-/
def Machine.TellsCall
    (setup : Setup P W N)
    (gaveOut : Prop)
    (m : Machine P W N)
    (entries : List (Moment P N)) :
    Prop :=
  ∃ call : HandlerCall setup,
    call.Within m ∧
      (call.owing = none → gaveOut) ∧
      (entries = call.began.trace ∨
        call.owing = some 0 ∧ entries = call.settled.trace)

/-- The call that comes to its end is the innermost of those still running. -/
theorem HandlerCall.Within.innermost
    {call : HandlerCall setup}
    (within : call.Within a)
    (ended : call.owing = some 0) :
    runningIn call.stop.trace =
      (call.binding.script, call.event.kind) ::
        runningIn call.start.trace := by
  have spans := within.spans
  rw [ended] at spans
  rw [spans.runningIn_eq, call.runningIn_began]

theorem Machine.TellsCall.later
    {part whole : Prop}
    {entries : List (Moment P N)}
    (h : a.TellsCall setup part entries)
    (hsuffix : a.trace <:+ b.trace)
    (hroom : part → whole) :
    b.TellsCall setup whole entries := by
  obtain ⟨call, within, hgaveOut, hplace⟩ := h
  exact
    ⟨call, { within with recorded := within.recorded.trans hsuffix },
      fun howing => hroom (hgaveOut howing), hplace⟩

/-- What a call adds to a trace ends in the call or in the calls within it. -/
theorem HandlerCall.tellsCall_of_settled
    (call : HandlerCall setup)
    (within : call.Within call.settled)
    {moment : Moment P N}
    {earlier : List (Moment P N)}
    (inner :
      moment :: earlier <:+ call.stop.trace →
      moment :: earlier <:+ call.began.trace ∨
        call.stop.TellsCall setup (call.owing = none) (moment :: earlier))
    (h : moment :: earlier <:+ call.settled.trace) :
    moment :: earlier <:+ call.start.trace ∨
      call.settled.TellsCall setup (call.owing = none) (moment :: earlier) := by
  have hin :
      moment :: earlier <:+ call.stop.trace →
      moment :: earlier <:+ call.start.trace ∨
        call.settled.TellsCall setup (call.owing = none) (moment :: earlier) := by
    intro hstop
    rcases inner hstop with hbegan | hcall
    · rcases List.suffix_cons_iff.mp hbegan with heq | hold
      · exact .inr ⟨call, within, id, .inl heq⟩
      · exact .inl hold
    · exact .inr (hcall.later call.course_settled.trace_suffix id)
  have hend :
      ∀ {last : Moment P N},
        call.owing = some 0 →
        call.settled.trace = last :: call.stop.trace →
        moment :: earlier <:+ call.start.trace ∨
          call.settled.TellsCall setup (call.owing = none) (moment :: earlier) := by
    intro last howing htrace
    rw [htrace] at h
    rcases List.suffix_cons_iff.mp h with heq | hold
    · exact .inr ⟨call, within, id, .inr ⟨howing, heq.trans htrace.symm⟩⟩
    · exact hin hold
  rcases call.settled_cases with
    ⟨outcome, _, howing, hsettled⟩ | ⟨payload, _, howing, hsettled⟩ |
      ⟨_, _, hsettled⟩
  · exact hend howing
      ((congrArg Machine.trace hsettled).trans (Machine.ended_trace _ _ _ _))
  · exact hend howing (congrArg Machine.trace hsettled)
  · rw [hsettled] at h
    exact hin h

/-- Every record of a handler in a span is that of the start or end of a call. -/
theorem Span.call_of_record
    (span : Span setup a owed b)
    (hwf : a.state.WellFormed)
    {moment : Moment P N}
    {earlier : List (Moment P N)}
    (hhandler : moment.record.isOfHandler = true)
    (h : moment :: earlier <:+ b.trace) :
    moment :: earlier <:+ a.trace ∨
      b.TellsCall setup (owed = none) (moment :: earlier) := by
  induction span with
  | stay m => exact .inl h
  | cut m => exact .inl h
  | trans first second ihfirst ihsecond =>
      rcases ihsecond (first.course.wellFormed hwf) h with hold | hcall
      · rcases ihfirst hwf hold with hold | hcall
        · exact .inl hold
        · exact .inr (hcall.later second.course.trace_suffix (by simp))
      · exact .inr (hcall.later (List.suffix_refl _) (by simp))
  | register m spec =>
      obtain ⟨news, htrace, hnews⟩ := m.registered_news setup.settings spec
      rw [htrace] at h
      exact .inl (suffix_of_suffix_append hhandler hnews h)
  | toggle m registration enabled live change =>
      exact .inl (suffix_of_suffix_cons hhandler rfl h)
  | record m entry quiet =>
      have hother := Record.isOfHandler_of_isQuiet quiet
      exact .inl (suffix_of_suffix_cons hhandler hother h)
  | write m store => exact .inl h
  | send m => exact .inl h
  | handler call due begun span ih =>
      have within : call.Within call.settled :=
        ⟨hwf, due, begun, span, List.suffix_refl _⟩
      exact call.tellsCall_of_settled within (ih hwf) h
  | dispatch call sound _ ih =>
      have hwf' : (call.start.attempted call.event).state.WellFormed := by
        rw [Machine.attempted_state]
        exact sound.retally _
      rcases ih hwf' h with hold | hcall
      · exact .inl (suffix_of_suffix_cons hhandler rfl hold)
      · exact .inr hcall
  | report call sound result returned =>
      exact .inl (suffix_of_suffix_cons hhandler rfl h)
  | removal m registration live _ ih =>
      have removed : Course setup m (m.unregistered registration) :=
        .step (.unregister m registration live)
      obtain ⟨news, htrace, hnews⟩ := m.unregistered_news registration
      rcases ih (removed.wellFormed hwf) h with hold | hcall
      · rw [htrace] at hold
        exact .inl (suffix_of_suffix_append hhandler hnews hold)
      · exact .inr (hcall.later (List.suffix_refl _) (by simp))
  | answerRemoval script removed _ ih =>
      rcases ih hwf (suffix_of_suffix_cons hhandler rfl h) with hold | hcall
      · exact .inl hold
      · exact .inr (hcall.later (List.suffix_cons _ _) (by simp))
  | answerShutdown removed _ ih =>
      rcases ih hwf (suffix_of_suffix_cons hhandler rfl h) with hold | hcall
      · exact .inl hold
      · exact .inr (hcall.later (List.suffix_cons _ _) (by simp))
  | forfeit uncaught _ ih =>
      rcases ih hwf h with hold | hcall
      · exact .inl hold
      · exact .inr (hcall.later (List.suffix_refl _) (by simp))

/-- Every record of a handler in a run is that of the start or end of a call. -/
theorem Setup.tellsCall_runAll
    (setup : Setup P W N)
    (room : Nat)
    (codes : List (Code P W N R))
    (store : W)
    {moment : Moment P N}
    {earlier : List (Moment P N)}
    (hhandler : moment.record.isOfHandler = true)
    (h :
      moment :: earlier <:+ (setup.runAll room codes (.fresh store)).2.trace) :
    (setup.runAll room codes (.fresh store)).2.TellsCall setup
      (.exhausted ∈ (setup.runAll room codes (.fresh store)).1)
      (moment :: earlier) := by
  refine
    setup.runAll_induction room
      (fun m =>
        moment :: earlier <:+ m.trace →
        m.TellsCall setup
          (.exhausted ∈ (setup.runAll room codes (.fresh store)).1)
          (moment :: earlier))
      codes ?_ Dispatcher.wellFormed_empty ?_ h
  · intro a b owed hwf span hout ih hb
    rcases span.call_of_record hwf hhandler hb with hold | hcall
    · exact (ih hold).later span.course.trace_suffix id
    · exact hcall.later (List.suffix_refl _) hout
  · intro hfresh
    exact absurd (List.suffix_nil.mp hfresh) (by simp)

end Calls
end ScriptHub
