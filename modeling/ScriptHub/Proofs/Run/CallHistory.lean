import ScriptHub.Proofs.Run.Dispatches
import ScriptHub.Proofs.Run.HandlerCalls

/-!
# The counters of calls throughout a history

A dispatch is counted when it begins and a handler that failed when it ends, each
together with its record.  As words the counters therefore equal the numbers of
such records at every moment.  As numbers they are equal too while neither the
dispatches nor the handlers of a kind outnumber the words, since a handler that
failed has begun.  A snapshot leaves out the kinds that were never dispatched,
and loses nothing by it: a handler can only fail under a dispatch of its kind.

**Results.**
* `Tally.callsFor_snapshot`: what a snapshot shows of a kind.
* `Step.callsCounted`: a step keeps the counters of calls right.
* `Span.failures_le`: no more handlers fail than begin.
* `calls_agree_with_history`: in every run, at every moment, the counters equal
  the numbers of the dispatches that began and of the handlers that failed.
-/

namespace ScriptHub

variable {P W N R : Type}

section Snapshot

theorem PerKind.mem_toList
    {α : Type}
    {table : PerKind α}
    {entry : EventKind × α} :
    entry ∈ table.toList ↔ table.get entry.1 = entry.2 := by
  unfold toList
  rw [List.mem_map]
  constructor
  · rintro ⟨kind, _, rfl⟩
    rfl
  · intro h
    exact ⟨entry.1, EventKind.mem_all _, by rw [h]⟩

namespace Tally

variable (tally : Tally)

@[simp] theorem calls_registered (enabled : Bool) :
    (tally.registered enabled).calls = tally.calls := by
  cases enabled <;> rfl

@[simp] theorem calls_unregistered (enabled : Bool) :
    (tally.unregistered enabled).calls = tally.calls := by
  cases enabled <;> rfl

@[simp] theorem calls_toggled (enabled : Bool) :
    (tally.toggled enabled).calls = tally.calls := by
  cases enabled <;> rfl

/-- A snapshot shows the calls of a kind if it was ever dispatched. -/
theorem callsFor_snapshot
    (bindings : List (EventKind × Nat))
    (kind : EventKind) :
    (tally.snapshot bindings).callsFor kind =
      if 0 < (tally.calls.get kind).attempted then tally.calls.get kind
      else CallCount.zero := by
  have hmem :
      ∀ entry : EventKind × CallCount,
        entry ∈ (tally.snapshot bindings).calls ↔
          tally.calls.get entry.1 = entry.2 ∧ 0 < entry.2.attempted := by
    intro entry
    rw [snapshot, List.mem_filter, PerKind.mem_toList, decide_eq_true_eq]
  unfold Stats.callsFor
  cases hfind :
      (tally.snapshot bindings).calls.find? fun entry => entry.1 == kind with
  | none =>
      have hnone : ¬ 0 < (tally.calls.get kind).attempted := by
        intro hpos
        have key :=
          List.find?_eq_none.mp hfind (kind, tally.calls.get kind)
            ((hmem _).mpr ⟨rfl, hpos⟩)
        exact key (beq_self_eq_true kind)
      rw [if_neg hnone]
      rfl
  | some entry =>
      have hkey : entry.1 = kind := by
        simpa using List.find?_some hfind
      obtain ⟨hvalue, hpos⟩ := (hmem entry).mp (List.mem_of_find?_eq_some hfind)
      rw [hkey] at hvalue
      rw [hvalue, if_pos hpos]
      rfl

end Tally
end Snapshot

section Counting

/-- The kind of the dispatch that a record says to have begun. -/
def Record.dispatched? : Record P N → Option EventKind
  | .dispatchBegan event => some event.kind
  | _ => none

/-- The kind under which a record says that a handler began. -/
def Record.called? : Record P N → Option EventKind
  | .handlerBegan _ _ event => some event.kind
  | _ => none

/-- The kind under which a record says that a handler failed. -/
def Record.failed? : Record P N → Option EventKind
  | .handlerEnded _ kind (.error _) => some kind
  | _ => none

/-- The number of records of some sort that a trace holds for a kind. -/
def recordsIn
    (sort : Record P N → Option EventKind)
    (kind : EventKind)
    (trace : List (Moment P N)) :
    Nat :=
  trace.countP fun moment => sort moment.record == some kind

/-- The number of dispatches of a kind that began in a trace. -/
abbrev dispatchesIn (kind : EventKind) (trace : List (Moment P N)) : Nat :=
  recordsIn Record.dispatched? kind trace

/-- The number of handlers that began under a kind in a trace. -/
abbrev handlersIn (kind : EventKind) (trace : List (Moment P N)) : Nat :=
  recordsIn Record.called? kind trace

/-- The number of handlers that failed under a kind in a trace. -/
abbrev failuresIn (kind : EventKind) (trace : List (Moment P N)) : Nat :=
  recordsIn Record.failed? kind trace

variable {sort : Record P N → Option EventKind}
variable {kind : EventKind} {moment : Moment P N} {trace : List (Moment P N)}

theorem recordsIn_cons :
    recordsIn sort kind (moment :: trace) =
      recordsIn sort kind trace +
        if sort moment.record = some kind then 1 else 0 := by
  unfold recordsIn
  rw [List.countP_cons]
  simp only [beq_iff_eq]

theorem recordsIn_cons_of_not (hother : sort moment.record = none) :
    recordsIn sort kind (moment :: trace) = recordsIn sort kind trace := by
  rw [recordsIn_cons, hother]
  simp

theorem recordsIn_append_of_not
    {news : List (Moment P N)}
    (hnews : ∀ moment ∈ news, sort moment.record = none) :
    recordsIn sort kind (news ++ trace) = recordsIn sort kind trace := by
  have hnone : recordsIn sort kind news = 0 := by
    unfold recordsIn
    rw [List.countP_eq_zero]
    intro moment hmoment
    simp [hnews moment hmoment]
  unfold recordsIn at hnone ⊢
  rw [List.countP_append, hnone, Nat.zero_add]

theorem recordsIn_le_of_suffix
    {earlier : List (Moment P N)}
    (h : earlier <:+ trace) :
    recordsIn sort kind earlier ≤ recordsIn sort kind trace :=
  h.sublist.countP_le

theorem recordsIn_pos :
    0 < recordsIn sort kind trace ↔
      ∃ moment ∈ trace, sort moment.record = some kind := by
  unfold recordsIn
  rw [List.countP_pos_iff]
  simp only [beq_iff_eq]

variable {entry : Record P N}

/-- A record that is not of a handler says nothing of one that began or failed. -/
theorem Record.called?_of_not
    (hother : entry.isOfHandler = false) :
    entry.called? = none := by
  cases entry with
  | handlerBegan script handler event =>
      exact absurd hother (by simp [isOfHandler])
  | _ => rfl

theorem Record.failed?_of_not
    (hother : entry.isOfHandler = false) :
    entry.failed? = none := by
  cases entry with
  | handlerEnded script kind outcome =>
      exact absurd hother (by simp [isOfHandler])
  | _ => rfl

theorem Record.uncounted_of_isPlain
    (plain : entry.isPlain = true) :
    entry.dispatched? = none ∧ entry.failed? = none := by
  cases entry with
  | dispatchBegan event => exact absurd plain (by simp [isPlain])
  | handlerEnded script kind outcome =>
      cases outcome with
      | ok verdict => exact ⟨rfl, rfl⟩
      | error reason => exact absurd plain (by simp [isPlain])
  | _ => exact ⟨rfl, rfl⟩

end Counting

section Words

/-- The counters of calls as words, given the trace so far. -/
def Dispatcher.Called
    (state : Dispatcher P)
    (trace : List (Moment P N)) :
    Prop :=
  ∀ kind,
    state.tally.calls.get kind =
      ⟨UInt64.ofNat (dispatchesIn kind trace),
        UInt64.ofNat (failuresIn kind trace)⟩

namespace Machine

/-- The counters of calls are right now and were right at every moment. -/
structure CallsCounted (m : Machine P W N) : Prop where
  now : m.state.Called m.trace
  throughout :
    m.Throughout fun moment earlier => moment.state.Called (moment :: earlier)

theorem callsCounted_fresh (store : W) :
    (fresh store : Machine P W N).CallsCounted where
  now := by
    intro kind
    exact PerKind.get_replicate CallCount.zero kind
  throughout := throughout_fresh store

variable {m : Machine P W N}

/-- What the counters say may change together with the record that is written. -/
theorem CallsCounted.count
    (h : m.CallsCounted)
    (f : Dispatcher P → Dispatcher P)
    (entry : Record P N)
    (hcount : (f m.state).Called (⟨entry, f m.state⟩ :: m.trace)) :
    ((m.update f).emit entry).CallsCounted where
  now := hcount
  throughout := (h.throughout.update f).emit hcount

theorem CallsCounted.emit
    (h : m.CallsCounted)
    (entry : Record P N)
    (hdispatch : entry.dispatched? = none)
    (hfail : entry.failed? = none) :
    (m.emit entry).CallsCounted := by
  apply h.count id
  intro kind
  rw [dispatchesIn, recordsIn_cons_of_not hdispatch, failuresIn,
    recordsIn_cons_of_not hfail]
  exact h.now kind

theorem CallsCounted.update
    (h : m.CallsCounted)
    (f : Dispatcher P → Dispatcher P)
    (hsame : (f m.state).tally.calls = m.state.tally.calls) :
    (m.update f).CallsCounted where
  now := by
    intro kind
    show
      (f m.state).tally.calls.get kind = _
    rw [hsame]
    exact h.now kind
  throughout := h.throughout.update f

/-- A dispatch is counted together with its record. -/
theorem CallsCounted.attempted
    (h : m.CallsCounted)
    (event : Event) :
    (m.attempted event).CallsCounted := by
  apply h.count
  intro kind
  show
    (m.state.tally.calls.modify event.kind _).get kind = _
  rw [PerKind.get_modify, dispatchesIn, recordsIn_cons, failuresIn,
    recordsIn_cons_of_not rfl, h.now event.kind, h.now kind]
  by_cases hkind : kind = event.kind
  · subst hkind
    simp [Record.dispatched?, UInt64.ofNat_add]
  · simp [Record.dispatched?, hkind, Ne.symm hkind]

/-- A handler that failed is counted together with its record. -/
theorem CallsCounted.failed
    (h : m.CallsCounted)
    (script : ScriptId)
    (under : EventKind)
    (reason : HandlerError) :
    (m.failed script under reason).CallsCounted := by
  apply h.count
  intro kind
  show
    (m.state.tally.calls.modify under _).get kind = _
  rw [PerKind.get_modify, dispatchesIn, recordsIn_cons_of_not rfl, failuresIn,
    recordsIn_cons, h.now under, h.now kind]
  by_cases hkind : kind = under
  · subst hkind
    simp [Record.failed?, UInt64.ofNat_add]
  · simp [Record.failed?, hkind, Ne.symm hkind]

end Machine

/-- A step keeps the counters of calls right. -/
theorem Step.callsCounted
    {settings : Settings}
    {a b : Machine P W N}
    (once : Step settings a b)
    (h : a.CallsCounted) :
    b.CallsCounted := by
  cases once with
  | register spec =>
      have hbound :=
        (h.update
          (fun s =>
            s.enrolled spec (spec.priority.getD settings.defaultPriority))
          rfl).emit
          (.log (.bindingsInserted a.state.nextId spec.kinds.length)) rfl rfl
      have hcounted :=
        hbound.update
          (fun s => s.retally fun tally => tally.registered spec.autoEnable)
          (Tally.calls_registered _ _)
      exact (hcounted.emit _ rfl rfl).emit _ rfl rfl
  | unregister registration live =>
      have hstruck :=
        (h.update (fun s => s.withdrawn registration.id) rfl).emit
          (.log (.bindingsRemoved registration.id
            (a.state.table.countOf registration.id)))
          rfl rfl
      have hcounted :=
        hstruck.update
          (fun s =>
            s.retally fun tally => tally.unregistered registration.enabled)
          (Tally.calls_unregistered _ _)
      unfold Machine.unregistered
      cases registration.spec.cleanup with
      | none => exact hcounted
      | some cleanup => exact hcounted.emit _ rfl rfl
  | toggle registration enabled live change =>
      apply Machine.CallsCounted.emit _ _ rfl rfl
      exact h.update _ (Tally.calls_toggled _ _)
  | call registration handler event live enabled declared =>
      exact h.emit _ rfl rfl
  | fail script kind reason => exact h.failed script kind reason
  | record entry plain =>
      obtain ⟨hdispatch, hfail⟩ := Record.uncounted_of_isPlain plain
      exact h.emit entry hdispatch hfail
  | write store => exact ⟨h.now, h.throughout⟩
  | send => exact ⟨h.now, h.throughout⟩

/-- The counters of calls stay right all along a course. -/
theorem Course.callsCounted
    {setup : Setup P W N}
    {a b : Machine P W N}
    (course : Course setup a b)
    (h : a.CallsCounted) :
    b.CallsCounted := by
  refine Course.preserves (fun m => m.CallsCounted) ?_ ?_ ?_ course h
  · intro a b once
    exact once.callsCounted
  · intro m event h
    exact h.attempted event
  · intro m event result h
    exact h.emit _ rfl rfl

end Words

section Bounds

variable {setup : Setup P W N} {a b : Machine P W N} {owed : Option Nat}

theorem Machine.handlersIn_ended
    (m : Machine P W N)
    (kind under : EventKind)
    (script : ScriptId)
    (outcome : Except HandlerError Verdict) :
    handlersIn kind (m.ended script under outcome).trace =
      handlersIn kind m.trace := by
  rw [Machine.ended_trace]
  exact recordsIn_cons_of_not rfl

theorem Machine.failuresIn_ended_le
    (m : Machine P W N)
    (kind under : EventKind)
    (script : ScriptId)
    (outcome : Except HandlerError Verdict) :
    failuresIn kind (m.ended script under outcome).trace ≤
      failuresIn kind m.trace + if under = kind then 1 else 0 := by
  rw [Machine.ended_trace, failuresIn, recordsIn_cons]
  cases outcome with
  | ok verdict => simp [Record.failed?]
  | error reason => simp [Record.failed?]

/-- What is not of a handler adds to neither number. -/
theorem handlerCounts_append_of_not
    {news : List (Moment P N)}
    (hnews : ∀ moment ∈ news, moment.record.isOfHandler = false)
    (trace : List (Moment P N))
    (kind : EventKind) :
    failuresIn kind (news ++ trace) = failuresIn kind trace ∧
      handlersIn kind (news ++ trace) = handlersIn kind trace := by
  constructor
  · apply recordsIn_append_of_not
    intro moment hmoment
    exact Record.failed?_of_not (hnews moment hmoment)
  · apply recordsIn_append_of_not
    intro moment hmoment
    exact Record.called?_of_not (hnews moment hmoment)

theorem Machine.handlerCounts_emit_of_not
    (m : Machine P W N)
    {entry : Record P N}
    (hother : entry.isOfHandler = false)
    (kind : EventKind) :
    failuresIn kind (m.emit entry).trace = failuresIn kind m.trace ∧
      handlersIn kind (m.emit entry).trace = handlersIn kind m.trace :=
  ⟨recordsIn_cons_of_not (Record.failed?_of_not hother),
    recordsIn_cons_of_not (Record.called?_of_not hother)⟩

/-- When a handler begins, it adds to the handlers of its kind alone. -/
theorem HandlerCall.handlerCounts_began
    (call : HandlerCall setup)
    (kind : EventKind) :
    failuresIn kind call.began.trace = failuresIn kind call.start.trace ∧
      handlersIn kind call.began.trace =
        handlersIn kind call.start.trace +
          if call.event.kind = kind then 1 else 0 := by
  constructor
  · exact recordsIn_cons_of_not rfl
  · unfold HandlerCall.began
    rw [Machine.emit_trace, handlersIn, recordsIn_cons]
    simp [Record.called?]

/-- When a handler ends, at most one failure is added, under its kind. -/
theorem HandlerCall.handlerCounts_settled
    (call : HandlerCall setup)
    (kind : EventKind) :
    failuresIn kind call.settled.trace ≤
        failuresIn kind call.stop.trace +
          (if call.event.kind = kind then 1 else 0) ∧
      handlersIn kind call.settled.trace = handlersIn kind call.stop.trace := by
  rcases call.settled_cases with
    ⟨outcome, _, _, hsettled⟩ | ⟨payload, _, _, hsettled⟩ | ⟨_, _, hsettled⟩
  · rw [hsettled]
    exact ⟨Machine.failuresIn_ended_le _ _ _ _ _,
      Machine.handlersIn_ended _ _ _ _ _⟩
  · have hfail :
        failuresIn kind call.settled.trace = failuresIn kind call.stop.trace := by
      rw [hsettled]
      exact recordsIn_cons_of_not rfl
    have hcall :
        handlersIn kind call.settled.trace = handlersIn kind call.stop.trace := by
      rw [hsettled]
      exact recordsIn_cons_of_not rfl
    exact ⟨hfail.le.trans (Nat.le_add_right _ _), hcall⟩
  · rw [hsettled]
    exact ⟨Nat.le_add_right _ _, rfl⟩

/-- **No more handlers fail under a kind than begin.** -/
theorem Span.failures_le
    (span : Span setup a owed b)
    (kind : EventKind) :
    failuresIn kind b.trace + handlersIn kind a.trace ≤
      failuresIn kind a.trace + handlersIn kind b.trace := by
  induction span with
  | stay m => omega
  | cut m => omega
  | trans _ _ ihfirst ihsecond => omega
  | register m spec =>
      obtain ⟨news, htrace, hnews⟩ := m.registered_news setup.settings spec
      obtain ⟨hfail, hcall⟩ := handlerCounts_append_of_not hnews m.trace kind
      rw [htrace, hfail, hcall]
  | toggle m registration enabled live change =>
      obtain ⟨hfail, hcall⟩ :=
        (m.update _).handlerCounts_emit_of_not
          (Record.isOfHandler_log (.stateChanged registration.id enabled)) kind
      exact (congrArg₂ (· + ·) hfail hcall.symm).le
  | record m entry quiet =>
      obtain ⟨hfail, hcall⟩ :=
        m.handlerCounts_emit_of_not (Record.isOfHandler_of_isQuiet quiet) kind
      omega
  | write m store => exact le_rfl
  | send m => exact le_rfl
  | handler call due begun _ ih =>
      obtain ⟨hfail, hcall⟩ := call.handlerCounts_began kind
      obtain ⟨hfails, hcalls⟩ := call.handlerCounts_settled kind
      omega
  | dispatch call sound _ ih =>
      have hfail :
          failuresIn kind (call.start.attempted call.event).trace =
            failuresIn kind call.start.trace :=
        recordsIn_cons_of_not rfl
      have hcall :
          handlersIn kind (call.start.attempted call.event).trace =
            handlersIn kind call.start.trace :=
        recordsIn_cons_of_not rfl
      omega
  | report call sound result returned =>
      obtain ⟨hfail, hcall⟩ :=
        call.stop.handlerCounts_emit_of_not
          (Record.isOfHandler_answered (.dispatch call.event) result) kind
      omega
  | removal m registration live _ ih =>
      obtain ⟨news, htrace, hnews⟩ := m.unregistered_news registration
      obtain ⟨hfail, hcall⟩ := handlerCounts_append_of_not hnews m.trace kind
      rw [htrace, hfail, hcall] at ih
      exact ih
  | @answerRemoval a b script removed _ ih =>
      obtain ⟨hfail, hcall⟩ :=
        b.handlerCounts_emit_of_not
          (Record.isOfHandler_answered (.unregister script) removed) kind
      omega
  | @answerShutdown a b removed _ ih =>
      obtain ⟨hfail, hcall⟩ :=
        b.handlerCounts_emit_of_not
          (Record.isOfHandler_answered .shutdown removed) kind
      omega
  | forfeit uncaught _ ih => exact ih

theorem Setup.failures_le_runAll
    (setup : Setup P W N)
    (room : Nat)
    (codes : List (Code P W N R))
    (store : W)
    (kind : EventKind) :
    failuresIn kind (setup.runAll room codes (.fresh store)).2.trace ≤
      handlersIn kind (setup.runAll room codes (.fresh store)).2.trace := by
  refine
    setup.runAll_induction room
      (fun m => failuresIn kind m.trace ≤ handlersIn kind m.trace)
      codes ?_ Dispatcher.wellFormed_empty le_rfl
  intro a b owed _ span _ ih
  have key := span.failures_le kind
  omega

end Bounds

section Calls

variable {setup : Setup P W N} {m : Machine P W N}

/-- A handler that began with a given record, and what is recorded if it ends. -/
structure HandlerCall.Began
    (call : HandlerCall setup)
    (script : ScriptId)
    (handler : P)
    (event : Event)
    (earlier : List (Moment P N))
    (m : Machine P W N) :
    Prop where
  within : call.Within m
  ofScript : call.binding.script = script
  ofHandler : call.binding.handler = handler
  ofEvent : call.event = event
  past : call.start.trace = earlier
  ended :
    ∀ outcome,
      call.outcome? = some outcome →
      ⟨.handlerEnded script event.kind outcome, call.settled.state⟩ ::
          call.stop.trace <:+
        m.trace

/-- A handler that ended with a given record, and was the innermost to run. -/
structure HandlerCall.Ended
    (call : HandlerCall setup)
    (script : ScriptId)
    (kind : EventKind)
    (outcome : Except HandlerError Verdict)
    (earlier : List (Moment P N))
    (m : Machine P W N) :
    Prop where
  within : call.Within m
  ofScript : call.binding.script = script
  ofKind : call.event.kind = kind
  counts : call.outcome? = some outcome
  past : call.stop.trace = earlier
  innermost :
    runningIn earlier = (script, kind) :: runningIn call.start.trace

/--
The records that are counted stand for the calls that were made; and a call that began
came to its end, unless the room gave out.
-/
structure Machine.TellsCalls
    (setup : Setup P W N)
    (gaveOut : Prop)
    (m : Machine P W N) :
    Prop where
  dispatches :
    ∀ event state earlier,
      ⟨.dispatchBegan event, state⟩ :: earlier <:+ m.trace →
      ∃ call : DispatchCall setup,
        call.Began event state earlier m ∧ (call.flow = .exhausted → gaveOut)
  handlers :
    ∀ script handler event state earlier,
      ⟨.handlerBegan script handler event, state⟩ :: earlier <:+ m.trace →
      ∃ call : HandlerCall setup,
        call.Began script handler event earlier m ∧
          (call.flow = .exhausted → gaveOut)
  ends :
    ∀ script kind outcome state earlier,
      ⟨.handlerEnded script kind outcome, state⟩ :: earlier <:+ m.trace →
      ∃ call : HandlerCall setup, call.Ended script kind outcome earlier m

/-- A call whose end counts is on record at the end. -/
theorem HandlerCall.settled_trace
    (call : HandlerCall setup)
    {outcome : Except HandlerError Verdict}
    (counts : call.outcome? = some outcome) :
    call.settled.trace =
      ⟨.handlerEnded call.binding.script call.event.kind outcome,
        call.settled.state⟩ :: call.stop.trace := by
  rcases call.settled_cases with
    ⟨other, hcounts, _, hsettled⟩ | ⟨_, hcounts, _⟩ | ⟨hcounts, _⟩
  · rw [counts, Option.some.injEq] at hcounts
    rw [hsettled, Machine.ended_trace, hcounts]
  · exact absurd (counts.symm.trans hcounts) (by simp)
  · exact absurd (counts.symm.trans hcounts) (by simp)

variable {gaveOut : Prop}

/-- The handler that a record says to have begun is a call of the run. -/
theorem Machine.TellsCall.began
    {script : ScriptId}
    {handler : P}
    {event : Event}
    {state : Dispatcher P}
    {earlier : List (Moment P N)}
    (h :
      m.TellsCall setup gaveOut
        (⟨.handlerBegan script handler event, state⟩ :: earlier)) :
    ∃ call : HandlerCall setup,
      call.Began script handler event earlier m ∧
        (call.flow = .exhausted → gaveOut) := by
  obtain ⟨call, within, hroom, hplace⟩ := h
  rcases hplace with hbegan | ⟨howing, hsettled⟩
  · obtain ⟨hmoment, hpast⟩ := List.cons.inj hbegan
    injection hmoment with hrecord _
    injection hrecord with hscript hhandler hevent
    refine
      ⟨call,
        ⟨within, hscript.symm, hhandler.symm, hevent.symm, hpast.symm, ?_⟩, ?_⟩
    · intro outcome counts
      rw [hscript, hevent, ← call.settled_trace counts]
      exact within.recorded
    · intro hflow
      exact hroom (Flow.owing_eq_none.mpr hflow)
  · -- A call does not end with the record of a start.
    rcases call.settled_cases with
      ⟨outcome, counts, _, _⟩ | ⟨payload, _, _, hunwound⟩ | ⟨_, hnone, _⟩
    · rw [call.settled_trace counts] at hsettled
      have hrecord := congrArg Moment.record (List.cons.inj hsettled).1
      exact absurd hrecord (by simp)
    · rw [hunwound, Machine.emit_trace] at hsettled
      have hrecord := congrArg Moment.record (List.cons.inj hsettled).1
      exact absurd hrecord (by simp)
    · exact absurd (howing.symm.trans hnone) (by simp)

/-- The handler that a record says to have ended is a call of the run. -/
theorem Machine.TellsCall.ended
    {script : ScriptId}
    {kind : EventKind}
    {outcome : Except HandlerError Verdict}
    {state : Dispatcher P}
    {earlier : List (Moment P N)}
    (h :
      m.TellsCall setup gaveOut
        (⟨.handlerEnded script kind outcome, state⟩ :: earlier)) :
    ∃ call : HandlerCall setup,
      call.Ended script kind outcome earlier m := by
  obtain ⟨call, within, _, hplace⟩ := h
  rcases hplace with hbegan | ⟨howing, hsettled⟩
  · have hrecord := congrArg Moment.record (List.cons.inj hbegan).1
    exact absurd hrecord (by simp)
  · rcases call.settled_cases with
      ⟨other, counts, _, _⟩ | ⟨payload, _, _, hunwound⟩ | ⟨_, hnone, _⟩
    · rw [call.settled_trace counts] at hsettled
      obtain ⟨hmoment, hpast⟩ := List.cons.inj hsettled
      injection hmoment with hrecord _
      injection hrecord with hscript hkind houtcome
      subst hscript hkind houtcome hpast
      exact ⟨call, within, rfl, rfl, counts, rfl, within.innermost howing⟩
    · rw [hunwound, Machine.emit_trace] at hsettled
      have hrecord := congrArg Moment.record (List.cons.inj hsettled).1
      exact absurd hrecord (by simp)
    · exact absurd (howing.symm.trans hnone) (by simp)

theorem Setup.tellsCalls_runAll
    (setup : Setup P W N)
    (room : Nat)
    (codes : List (Code P W N R))
    (store : W) :
    (setup.runAll room codes (.fresh store)).2.TellsCalls setup
      (.exhausted ∈ (setup.runAll room codes (.fresh store)).1) where
  dispatches := by
    intro event state earlier h
    exact setup.call_of_began room codes store h
  handlers := by
    intro script handler event state earlier h
    exact (setup.tellsCall_runAll room codes store rfl h).began
  ends := by
    intro script kind outcome state earlier h
    exact (setup.tellsCall_runAll room codes store rfl h).ended

/-- A handler fails under a kind only once a dispatch of the kind has begun. -/
theorem Machine.TellsCalls.dispatched_of_failed
    (h : m.TellsCalls setup gaveOut)
    {kind : EventKind}
    {trace : List (Moment P N)}
    (hsuffix : trace <:+ m.trace)
    (hpos : 0 < failuresIn kind trace) :
    0 < dispatchesIn kind trace := by
  obtain ⟨⟨record, state⟩, hmem, hfailed⟩ := recordsIn_pos.mp hpos
  cases record with
  | handlerEnded script under outcome =>
      obtain ⟨later, earlier, rfl⟩ := List.append_of_mem hmem
      obtain ⟨call, ended⟩ :=
        h.ends script under outcome state earlier
          ((List.suffix_append _ _).trans hsuffix)
      have hkind : under = kind := by
        cases outcome with
        | ok verdict => exact absurd hfailed (by simp [Record.failed?])
        | error reason => simpa [Record.failed?] using hfailed
      -- The dispatch that called the handler began before the handler did.
      obtain ⟨moment, hmoment, hrecord⟩ := ended.within.begun
      have hpast : call.start.trace <:+ earlier := by
        rw [← ended.past]
        have began : call.start.trace <:+ call.began.trace :=
          List.suffix_cons _ _
        exact began.trans ended.within.spans.course.trace_suffix
      refine recordsIn_pos.mpr ⟨moment, ?_, ?_⟩
      · apply List.mem_append_right
        exact List.mem_cons_of_mem _ (hpast.subset hmoment)
      · rw [hrecord, Record.dispatched?, ended.ofKind, hkind]
  | _ => exact absurd hfailed (by simp [Record.failed?])

end Calls

section Numbers

/--
The counters of the calls of a kind as numbers, and what a snapshot shows of them.
-/
structure Dispatcher.CallsAgree
    (state : Dispatcher P)
    (kind : EventKind)
    (dispatched failed : Nat) :
    Prop where
  attempted : (state.tally.calls.get kind).attempted.toNat = dispatched
  failed : (state.tally.calls.get kind).failed.toNat = failed
  shown : state.stats.callsFor kind = state.tally.calls.get kind

/-- The counters of calls do not wrap while words can number the calls. -/
theorem Dispatcher.Called.callsAgree
    {state : Dispatcher P}
    {trace : List (Moment P N)}
    (h : state.Called trace)
    {kind : EventKind}
    (fewDispatches : dispatchesIn kind trace < UInt64.size)
    (fewFailures : failuresIn kind trace < UInt64.size)
    (hcause : 0 < failuresIn kind trace → 0 < dispatchesIn kind trace) :
    state.CallsAgree kind (dispatchesIn kind trace) (failuresIn kind trace) := by
  have hattempted :
      (state.tally.calls.get kind).attempted.toNat = dispatchesIn kind trace := by
    rw [h kind]
    exact UInt64.toNat_ofNat_of_lt' fewDispatches
  have hfailed :
      (state.tally.calls.get kind).failed.toNat = failuresIn kind trace := by
    rw [h kind]
    exact UInt64.toNat_ofNat_of_lt' fewFailures
  refine ⟨hattempted, hfailed, ?_⟩
  rw [Dispatcher.stats, Tally.callsFor_snapshot]
  by_cases hpos : 0 < (state.tally.calls.get kind).attempted
  · rw [if_pos hpos]
  · -- Nothing was dispatched, so nothing failed: both counters are zero.
    rw [if_neg hpos]
    have hzero : dispatchesIn kind trace = 0 := by
      rw [← hattempted]
      rw [UInt64.lt_iff_toNat_lt] at hpos
      simpa using hpos
    have hnone : failuresIn kind trace = 0 := by
      omega
    rw [h kind, hzero, hnone]
    rfl

end Numbers

/-- A dispatch begins with one record, however it ends. -/
theorem DispatchCall.recorded
    {setup : Setup P W N}
    (call : DispatchCall setup)
    (sound : call.start.state.WellFormed) :
    (call.start.attempted call.event).trace <:+ call.stop.trace :=
  (Run.span_attempted (setup.spans_scripts call.room call.level) call.event
    sound).course.trace_suffix

/--
**The counters of calls agree with the history.**

In every run, at every moment and at the end, the counters of a kind equal the
number of the dispatches of the kind that began so far and the number of the
handlers that failed under it so far, and a snapshot shows these two numbers.  The
records that are counted are those of the dispatches and handlers that the run
made, which came to their ends unless the run gave out of room: every dispatch begins
with one, however it ends, and every handler ends with one that tells its failure if it
failed or panicked and was caught.
-/
theorem calls_agree_with_history
    (setup : Setup P W N)
    (room : Nat)
    (codes : List (Code P W N R))
    (store : W)
    (fewDispatches :
      ∀ kind,
        dispatchesIn kind (setup.runAll room codes (.fresh store)).2.trace <
          UInt64.size)
    (fewHandlers :
      ∀ kind,
        handlersIn kind (setup.runAll room codes (.fresh store)).2.trace <
          UInt64.size) :
    let run := setup.runAll room codes (.fresh store)
    let m := run.2
    (∀ kind,
      m.state.CallsAgree kind (dispatchesIn kind m.trace)
        (failuresIn kind m.trace)) ∧
      (∀ moment earlier,
        moment :: earlier <:+ m.trace →
        ∀ kind,
          moment.state.CallsAgree kind (dispatchesIn kind (moment :: earlier))
            (failuresIn kind (moment :: earlier))) ∧
      m.TellsCalls setup (.exhausted ∈ run.1) ∧
      (∀ call : DispatchCall setup,
        call.start.state.WellFormed →
        (call.start.attempted call.event).trace <:+ call.stop.trace) ∧
      ∀ (call : HandlerCall setup) (outcome : Except HandlerError Verdict),
        call.outcome? = some outcome →
        call.settled.trace =
          ⟨.handlerEnded call.binding.script call.event.kind outcome,
            call.settled.state⟩ :: call.stop.trace := by
  intro run m
  have counted : m.CallsCounted :=
    (setup.course_runAll_fresh room codes store).callsCounted
      (Machine.callsCounted_fresh store)
  have tells : m.TellsCalls setup (.exhausted ∈ run.1) :=
    setup.tellsCalls_runAll room codes store
  have agree :
      ∀ {state : Dispatcher P} {trace : List (Moment P N)},
        state.Called trace →
        trace <:+ m.trace →
        ∀ kind,
          state.CallsAgree kind (dispatchesIn kind trace)
            (failuresIn kind trace) := by
    intro state trace called hsuffix kind
    have hdispatches : dispatchesIn kind trace ≤ dispatchesIn kind m.trace :=
      recordsIn_le_of_suffix hsuffix
    have hfailures : failuresIn kind trace ≤ failuresIn kind m.trace :=
      recordsIn_le_of_suffix hsuffix
    have hbegan : failuresIn kind m.trace ≤ handlersIn kind m.trace :=
      setup.failures_le_runAll room codes store kind
    apply called.callsAgree
    · exact hdispatches.trans_lt (fewDispatches kind)
    · exact (hfailures.trans hbegan).trans_lt (fewHandlers kind)
    · exact tells.dispatched_of_failed hsuffix
  refine ⟨?_, ?_, tells, ?_, ?_⟩
  · exact agree counted.now (List.suffix_refl _)
  · intro moment earlier hsuffix
    exact agree (counted.throughout moment earlier hsuffix) hsuffix
  · intro call sound
    exact call.recorded sound
  · intro call outcome counts
    exact call.settled_trace counts

/-!
Two troubled scripts: the handler of the first raises an event and then fails, and
the handler that is called for that event panics.
-/

namespace Troubled

/-- The script whose handler raises an event. -/
def outer : Spec Bool :=
  (Spec.named "outer").hook .timer true

/-- The script whose handler panics. -/
def inner : Spec Bool :=
  (Spec.named "inner").hook .chat false

/-- What the handlers do. -/
def behaviour : Behaviour Bool Unit Unit where
  onEvent := fun _ procedure _ =>
    if procedure then
      .call (.dispatch (.chat "ann" "hello")) fun _ =>
      .finish (.failed "late")
    else
      .finish (.panicked ⟨some "lost"⟩)
  onRemoval := fun _ _ => .done ()

/-- The setup in which they run. -/
def setup : Setup Bool Unit Unit where
  settings := {}
  notifier := .accepting
  behaviour := behaviour

/-- The host registers both scripts and raises one event. -/
def host : Code Bool Unit Unit Unit :=
  .call (.register outer) fun _ =>
  .call (.register inner) fun _ =>
  .call (.dispatch (.timer 0)) fun _ =>
  .done ()

/-- The machine at the end. -/
def last : Machine Bool Unit Unit :=
  (setup.runAll 2 [host] (.fresh ())).2

end Troubled

/--
When the panic of the inner handler is caught, one failure is counted under its
kind, and none yet under the kind of the outer handler that is still running.
-/
theorem calls_agree_at_nested_failure :
    ∃ moment earlier,
      moment :: earlier <:+ Troubled.last.trace ∧
        moment.record = .handlerEnded 2 .chat (.error (.panicked "lost")) ∧
        moment.state.CallsAgree .chat 1 1 ∧
        moment.state.CallsAgree .timer 1 0 := by
  have few :
      ∀ (sort : Record Bool Unit → Option EventKind) (kind : EventKind),
        recordsIn sort kind Troubled.last.trace < UInt64.size := by
    intro sort kind
    have hlength : Troubled.last.trace.length < UInt64.size := by
      decide +kernel
    exact List.countP_le_length.trans_lt hlength
  have agrees :
      ∀ moment earlier,
        moment :: earlier <:+ Troubled.last.trace →
        ∀ kind,
          moment.state.CallsAgree kind (dispatchesIn kind (moment :: earlier))
            (failuresIn kind (moment :: earlier)) := by
    unfold Troubled.last at few ⊢
    exact (calls_agree_with_history _ _ _ _ (few _) (few _)).2.1
  have hrecord :
      Troubled.last.trace[5]?.map Moment.record =
        some (.handlerEnded 2 .chat (.error (.panicked "lost"))) := by
    cbv
  have hcounts :
      (dispatchesIn .chat (Troubled.last.trace.drop 5),
        failuresIn .chat (Troubled.last.trace.drop 5),
        dispatchesIn .timer (Troubled.last.trace.drop 5),
        failuresIn .timer (Troubled.last.trace.drop 5)) = (1, 1, 1, 0) := by
    decide +kernel
  generalize Troubled.last.trace = trace at agrees hrecord hcounts ⊢
  obtain ⟨moment, hmoment, hrecord⟩ := Option.map_eq_some_iff.mp hrecord
  have hsuffix := suffix_of_getElem? hmoment
  have hdrop : trace.drop 5 = moment :: trace.drop 6 := by
    rw [List.drop_eq_getElem?_toList_append, hmoment]
    rfl
  rw [hdrop] at hcounts
  have key := agrees _ _ hsuffix
  simp only [Prod.mk.injEq] at hcounts
  obtain ⟨hchat, hchatFailed, htimer, htimerFailed⟩ := hcounts
  have hinner := key .chat
  have houter := key .timer
  rw [hchat, hchatFailed] at hinner
  rw [htimer, htimerFailed] at houter
  exact ⟨moment, _, hsuffix, hrecord, hinner, houter⟩

end ScriptHub
