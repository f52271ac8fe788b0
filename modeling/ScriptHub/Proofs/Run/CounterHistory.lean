import ScriptHub.Proofs.Run.History

/-!
# The counters throughout a history

How many registrations were made is read from the trace: each was answered once.
The counters are moved after a registration has been entered or struck and after
the first log record of the operation, so they are asked for at the moments that
are no log records: where user code begins or ends, and where an operation ends.

**Results.**
* `Step.tallied`: a step keeps the counters right.
* `counters_agree_with_registrations`: in every run that makes fewer registrations
  than can be numbered, the counters equal what counting would give.
-/

namespace ScriptHub

variable {P W N R : Type}

/-- The registration that a record answers to have been made. -/
def Record.made? : Record P N → Option (Spec P × ScriptId)
  | .answered (.register spec) script => some (spec, script)
  | _ => none

/-- Whether a record is one of the journal. -/
def Record.isLog : Record P N → Bool
  | .log _ => true
  | _ => false

/-- The number of registrations that were made in a trace. -/
def registrationsIn (trace : List (Moment P N)) : Nat :=
  trace.countP fun moment => moment.record.made?.isSome

theorem registrationsIn_cons_of_not
    {moment : Moment P N}
    (trace : List (Moment P N))
    (hother : moment.record.made? = none) :
    registrationsIn (moment :: trace) = registrationsIn trace := by
  unfold registrationsIn
  rw [List.countP_cons_of_neg]
  simp [hother]

/-- A record that says nothing of a registration answers none. -/
theorem Record.made?_of_isPlain
    {entry : Record P N}
    (plain : entry.isPlain = true) :
    entry.made? = none := by
  cases entry with
  | answered call answer =>
      cases call with
      | register spec => exact absurd plain (by simp [isPlain])
      | _ => rfl
  | _ => rfl

namespace Machine

/-- The counters are right now, and were at every moment but those of the journal. -/
structure Tallied (m : Machine P W N) : Prop where
  now : m.state.Counted (registrationsIn m.trace)
  throughout :
    m.Throughout fun moment earlier =>
      moment.record.isLog = false →
        moment.state.Counted (registrationsIn (moment :: earlier))

theorem tallied_fresh (store : W) :
    (fresh store : Machine P W N).Tallied where
  now := Dispatcher.counted_empty
  throughout := throughout_fresh store

/-- A record that answers no registration keeps the counters right. -/
theorem Tallied.emit
    {m : Machine P W N}
    (h : m.Tallied)
    {entry : Record P N}
    (hother : entry.made? = none) :
    (m.emit entry).Tallied := by
  have hsame :
      registrationsIn (⟨entry, m.state⟩ :: m.trace) =
        registrationsIn m.trace :=
    registrationsIn_cons_of_not m.trace hother
  have hnow :
      m.state.Counted (registrationsIn (⟨entry, m.state⟩ :: m.trace)) := by
    rw [hsame]
    exact h.now
  constructor
  · exact hnow
  · apply h.throughout.emit
    intro _
    exact hnow

/-- A record of the journal asks nothing of the counters. -/
theorem Throughout.emit_log
    {m : Machine P W N}
    {Q : Moment P N → List (Moment P N) → Prop}
    (h :
      m.Throughout fun moment earlier =>
        moment.record.isLog = false → Q moment earlier)
    (entry : LogEntry) :
    (m.emit (.log entry)).Throughout fun moment earlier =>
      moment.record.isLog = false → Q moment earlier := by
  apply h.emit
  intro hlog
  exact absurd hlog (by simp [Record.isLog])

theorem Tallied.update
    {m : Machine P W N}
    (h : m.Tallied)
    (f : Dispatcher P → Dispatcher P)
    (hcounted : (f m.state).Counted (registrationsIn m.trace)) :
    (m.update f).Tallied where
  now := hcounted
  throughout := h.throughout.update f

/-- Making a registration counts it, and its answer is the one that is read. -/
theorem Tallied.registered
    {m : Machine P W N}
    (h : m.Tallied)
    (settings : Settings)
    (spec : Spec P) :
    (m.registered settings spec).Tallied := by
  let priority := spec.priority.getD settings.defaultPriority
  have hone :
      registrationsIn (m.registered settings spec).trace =
        registrationsIn m.trace + 1 := by
    simp [registrationsIn, Machine.registered, Machine.update, Record.made?]
  have hnow :
      (m.registered settings spec).state.Counted
        (registrationsIn (m.registered settings spec).trace) := by
    rw [hone, registered_state]
    exact h.now.registered spec priority
  constructor
  · exact hnow
  · have hbound :=
      (h.throughout.update fun s => s.enrolled spec priority).emit_log
        (.bindingsInserted m.state.nextId spec.kinds.length)
    have hcounted :=
      (hbound.update fun s =>
        s.retally fun tally => tally.registered spec.autoEnable).emit_log
          (.scriptRegistered m.state.nextId spec.name priority
            spec.kinds.length spec.autoEnable)
    apply hcounted.emit
    intro _
    exact hnow

/-- Removing a live registration counts it, before its cleanup begins. -/
theorem Tallied.unregistered
    {m : Machine P W N}
    (h : m.Tallied)
    (hwf : m.state.WellFormed)
    {registration : Registration P}
    (live : m.state.find? registration.id = some registration) :
    (m.unregistered registration).Tallied := by
  have hstruck :=
    (h.throughout.update fun s => s.withdrawn registration.id).emit_log
      (.bindingsRemoved registration.id
        (m.state.table.countOf registration.id))
  have hcounted :
      (((m.update fun s => s.withdrawn registration.id).emit
        (.log (.bindingsRemoved registration.id
          (m.state.table.countOf registration.id)))).update fun s =>
            s.retally fun tally =>
              tally.unregistered registration.enabled).Tallied := by
    constructor
    · show
        Dispatcher.Counted _ (registrationsIn (_ :: m.trace))
      rw [registrationsIn_cons_of_not m.trace rfl]
      exact h.now.unregistered hwf live
    · exact hstruck.update _
  unfold Machine.unregistered
  cases registration.spec.cleanup with
  | none => exact hcounted
  | some cleanup => exact hcounted.emit rfl

end Machine

/-- A step keeps the counters right. -/
theorem Step.tallied
    {settings : Settings}
    {a b : Machine P W N}
    (once : Step settings a b)
    (hwf : a.state.WellFormed)
    (h : a.Tallied) :
    b.Tallied := by
  cases once with
  | register spec => exact h.registered settings spec
  | unregister registration live => exact h.unregistered hwf live
  | toggle registration enabled live change =>
      apply Machine.Tallied.emit
      · apply h.update
        exact h.now.toggled hwf live change
      · rfl
  | call registration handler event live enabled declared => exact h.emit rfl
  | fail script kind reason =>
      apply Machine.Tallied.emit
      · exact h.update _ (h.now.failed kind)
      · rfl
  | record entry plain => exact h.emit (Record.made?_of_isPlain plain)
  | write store => exact ⟨h.now, h.throughout⟩
  | send => exact ⟨h.now, h.throughout⟩

/-- The counters stay right all along a course. -/
theorem Course.tallied
    {setup : Setup P W N}
    {a b : Machine P W N}
    (course : Course setup a b)
    (hwf : a.state.WellFormed)
    (h : a.Tallied) :
    b.Tallied := by
  have key : b.state.WellFormed ∧ b.Tallied := by
    refine
      Course.preserves (fun m => m.state.WellFormed ∧ m.Tallied) ?_ ?_ ?_
        course ⟨hwf, h⟩
    · rintro a b once ⟨hwf, h⟩
      exact ⟨once.wellFormed hwf, once.tallied hwf h⟩
    · rintro m event ⟨hwf, h⟩
      constructor
      · rw [Machine.attempted_state]
        exact hwf.retally _
      · apply Machine.Tallied.emit
        · exact h.update _ (h.now.attempted event.kind)
        · rfl
    · rintro m event result ⟨hwf, h⟩
      exact ⟨hwf, h.emit rfl⟩
  exact key.2

/-- The counters are right all along a run. -/
theorem Setup.tallied_runAll
    (setup : Setup P W N)
    (room : Nat)
    (codes : List (Code P W N R))
    (store : W) :
    (setup.runAll room codes (.fresh store)).2.Tallied :=
  (setup.course_runAll_fresh room codes store).tallied
    Dispatcher.wellFormed_empty (Machine.tallied_fresh store)

/-- At a moment that is no log record the counters are right as numbers. -/
theorem Machine.Tallied.countersAgree
    {m : Machine P W N}
    (h : m.Tallied)
    (hhistory : m.Orderly)
    (few : registrationsIn m.trace < UInt64.size - 1)
    {moment : Moment P N}
    {earlier : List (Moment P N)}
    (hsuffix : moment :: earlier <:+ m.trace)
    (hlog : moment.record.isLog = false) :
    moment.state.CountersAgree (registrationsIn (moment :: earlier)) := by
  have hcounted := h.throughout moment earlier hsuffix hlog
  have hwf := (hhistory.throughout moment earlier hsuffix).1
  have hle :
      registrationsIn (moment :: earlier) ≤ registrationsIn m.trace :=
    hsuffix.sublist.countP_le
  exact hcounted.countersAgree hwf (Nat.lt_of_le_of_lt hle few)

/--
**The counters agree with the registrations.**

In every run that makes fewer registrations than can be numbered, the counters
equal, at every moment that is no log record and at the end, the numbers of the
enabled, of the disabled and of all registrations that were made.
-/
theorem counters_agree_with_registrations
    (setup : Setup P W N)
    (room : Nat)
    (codes : List (Code P W N R))
    (store : W)
    (few :
      registrationsIn (setup.runAll room codes (.fresh store)).2.trace <
        UInt64.size - 1) :
    let m := (setup.runAll room codes (.fresh store)).2
    m.state.CountersAgree (registrationsIn m.trace) ∧
      ∀ moment earlier,
        moment :: earlier <:+ m.trace →
        moment.record.isLog = false →
        moment.state.CountersAgree (registrationsIn (moment :: earlier)) := by
  intro m
  have hhistory : m.Orderly := setup.orderly_runAll room codes store
  have h : m.Tallied := setup.tallied_runAll room codes store
  constructor
  · exact h.now.countersAgree hhistory.now few
  · intro moment earlier hsuffix hlog
    exact h.countersAgree hhistory few hsuffix hlog

/--
When the cleanup begins that a running handler caused, three registrations were
made, of which two are left and enabled.
-/
theorem counters_agree_at_nested_cleanup :
    ∃ moment earlier,
      moment :: earlier <:+ Restless.last.trace ∧
        moment.record = .cleanupBegan 1 true ∧
        moment.state.tally.active = 2 ∧
        moment.state.CountersAgree 3 := by
  have few : registrationsIn Restless.last.trace < UInt64.size - 1 := by
    decide +kernel
  have agrees :
      ∀ moment earlier,
        moment :: earlier <:+ Restless.last.trace →
        moment.record.isLog = false →
        moment.state.CountersAgree (registrationsIn (moment :: earlier)) := by
    unfold Restless.last at few ⊢
    exact (counters_agree_with_registrations _ _ _ _ few).2
  have hrecord :
      Restless.last.trace[8]?.map Moment.record =
        some (.cleanupBegan 1 true) := by
    cbv
  have hactive :
      Restless.last.trace[8]?.map (fun moment => moment.state.tally.active) =
        some 2 := by
    decide +kernel
  have hmade : registrationsIn (Restless.last.trace.drop 9) = 3 := by cbv
  generalize Restless.last.trace = trace at agrees hrecord hactive hmade ⊢
  obtain ⟨moment, hmoment, hrecord⟩ := Option.map_eq_some_iff.mp hrecord
  rw [hmoment] at hactive
  have hsuffix := suffix_of_getElem? hmoment
  refine ⟨moment, _, hsuffix, hrecord, Option.some.inj hactive, ?_⟩
  have key := agrees _ _ hsuffix (by rw [hrecord]; rfl)
  rw [registrationsIn_cons_of_not _ (by rw [hrecord]; rfl), hmade] at key
  exact key

end ScriptHub
