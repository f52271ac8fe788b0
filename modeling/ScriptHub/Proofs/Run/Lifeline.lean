import ScriptHub.Proofs.Run.CounterHistory
import ScriptHub.Proofs.Run.Sweep

/-!
# The life of an id

Ids are numbers, counted up from one in the order in which registrations are made.
The trace of a run falls into three parts for each id that was issued: before it was
live, while it was live, and since it was removed.  The life begins with the records
of the registration, and what follows on it begins with the record of the removal.
The parts do not mix, so an id that was removed is never live again.

**Results.**
* `Setup.Reaches.numbered`: the ids that were answered, in order, are 1, 2, 3 and so on.
* `Lifeline`: how a trace is divided by the life of an id.
* `Setup.Reaches.lives`: every trace of a run is so divided.
-/

namespace ScriptHub

variable {P W N R : Type}

section Numbering

/-- The id that a record answers to a registration. -/
def Record.issued? (entry : Record P N) : Option ScriptId :=
  entry.made?.map Prod.snd

/-- The ids that were answered to registrations, in order. -/
def Machine.issued (m : Machine P W N) : List ScriptId :=
  m.history.filterMap fun moment => moment.record.issued?

/-- The ids that were issued are counted up from one. -/
structure Machine.Numbered (m : Machine P W N) : Prop where
  issued : m.issued = List.range' 1 (registrationsIn m.trace)
  next : m.state.nextId = registrationsIn m.trace + 1

namespace Machine

theorem issued_emit
    (m : Machine P W N)
    (entry : Record P N) :
    (m.emit entry).issued = m.issued ++ entry.issued?.toList := by
  unfold issued history
  rw [emit_trace, List.reverse_cons, List.filterMap_append]
  cases h : entry.issued? <;> simp [h]

theorem issued_registered
    (m : Machine P W N)
    (settings : Settings)
    (spec : Spec P) :
    (m.registered settings spec).issued = m.issued ++ [m.state.nextId] := by
  simp only [Machine.registered, issued_emit]
  simp [Record.issued?, Record.made?, issued, history, update]

/-- A record that answers no registration leaves the numbering alone. -/
theorem Numbered.emit
    {m : Machine P W N}
    (h : m.Numbered)
    (entry : Record P N)
    (hother : entry.made? = none) :
    (m.emit entry).Numbered := by
  have hcount :
      registrationsIn (m.emit entry).trace = registrationsIn m.trace :=
    registrationsIn_cons_of_not m.trace hother
  constructor
  · rw [issued_emit, hcount, h.issued, Record.issued?, hother]
    exact List.append_nil _
  · rw [hcount]
    exact h.next

theorem Numbered.update
    {m : Machine P W N}
    (h : m.Numbered)
    (f : Dispatcher P → Dispatcher P)
    (hnext : (f m.state).nextId = m.state.nextId) :
    (m.update f).Numbered where
  issued := h.issued
  next := hnext.trans h.next

/-- A registration is given the next number. -/
theorem Numbered.registered
    {m : Machine P W N}
    (h : m.Numbered)
    (settings : Settings)
    (spec : Spec P) :
    (m.registered settings spec).Numbered := by
  have hone :
      registrationsIn (m.registered settings spec).trace =
        registrationsIn m.trace + 1 := by
    simp [registrationsIn, Machine.registered, Machine.update, Record.made?]
  constructor
  · rw [issued_registered, hone, h.issued, h.next, List.range'_1_concat, Nat.add_comm 1]
  · rw [hone, registered_state, ← h.next]
    rfl

end Machine

/-- A step keeps the ids counted up. -/
theorem Step.numbered
    {settings : Settings}
    {a b : Machine P W N}
    (once : Step settings a b)
    (h : a.Numbered) :
    b.Numbered := by
  cases once with
  | register spec => exact h.registered settings spec
  | unregister registration live =>
      have hcounted :=
        ((h.update (fun s => s.withdrawn registration.id) rfl).emit
          (.log (.bindingsRemoved registration.id
            (a.state.table.countOf registration.id))) rfl).update
          (fun s =>
            s.retally fun tally => tally.unregistered registration.enabled) rfl
      unfold Machine.unregistered
      cases registration.spec.cleanup with
      | none => exact hcounted
      | some cleanup => exact hcounted.emit _ rfl
  | toggle registration enabled live change =>
      apply Machine.Numbered.emit
      · exact h.update _ rfl
      · rfl
  | call registration handler event live enabled declared => exact h.emit _ rfl
  | fail script kind reason =>
      apply Machine.Numbered.emit
      · exact h.update _ rfl
      · rfl
  | record entry plain => exact h.emit entry (Record.made?_of_isPlain plain)
  | write store => exact ⟨h.issued, h.next⟩
  | send => exact ⟨h.issued, h.next⟩

/-- In every machine that a run can come to the ids are counted up. -/
theorem Setup.Reaches.numbered
    {setup : Setup P W N}
    {m : Machine P W N}
    (h : setup.Reaches m) :
    m.Numbered := by
  induction h with
  | fresh store => exact ⟨rfl, rfl⟩
  | step _ once ih => exact once.numbered ih
  | began _ event ih =>
      apply Machine.Numbered.emit
      · exact ih.update _ rfl
      · rfl
  | reported _ event result ih => exact ih.emit _ rfl

theorem Machine.Numbered.mem_issued
    {m : Machine P W N}
    (h : m.Numbered)
    {script : ScriptId} :
    script ∈ m.issued ↔ 0 < script ∧ script < m.state.nextId := by
  rw [h.issued, h.next, List.mem_range'_1, Nat.add_comm 1]
  exact Iff.rfl

end Numbering

section Terms

namespace Dispatcher

/-- What a live registration supplied, and its priority in force. -/
def terms?
    (state : Dispatcher P)
    (script : ScriptId) :
    Option (Spec P × Int32) :=
  (state.find? script).map fun registration =>
    (registration.spec, registration.priority)

variable {state : Dispatcher P} {script other : ScriptId}

theorem terms?_eq_none :
    state.terms? script = none ↔ state.find? script = none := by
  unfold terms?
  exact Option.map_eq_none_iff

/-- An id that is not yet issued is not live. -/
theorem WellFormed.terms?_of_new
    (h : state.WellFormed)
    (hnew : state.nextId ≤ script) :
    state.terms? script = none := by
  rw [terms?_eq_none, find?_eq_none_iff]
  intro registration hmem hid
  have hissued := h.issued registration hmem
  rw [hid] at hissued
  exact absurd hissued (Nat.not_lt_of_le hnew)

theorem WellFormed.terms?_enrolled
    (h : state.WellFormed)
    (spec : Spec P)
    (priority : Int32)
    (script : ScriptId) :
    (state.enrolled spec priority).terms? script =
      if state.nextId = script then some (spec, priority)
      else state.terms? script := by
  unfold terms?
  rw [find?_enrolled]
  by_cases hnew : state.nextId = script
  · subst hnew
    rw [h.find?_nextId]
    simp
  · simp [hnew]

theorem terms?_withdrawn
    (state : Dispatcher P)
    (script other : ScriptId) :
    (state.withdrawn script).terms? other =
      if other = script then none else state.terms? other := by
  unfold terms?
  rw [find?_withdrawn]
  by_cases h : other = script <;> simp [h]

theorem terms?_setFlag
    (state : Dispatcher P)
    (script other : ScriptId)
    (enabled : Bool) :
    (state.setFlag script enabled).terms? other = state.terms? other := by
  unfold terms?
  rw [find?_setFlag, Option.map_map]
  congr 1
  funext registration
  by_cases h : registration.id = script <;> simp [h]

end Dispatcher
end Terms

section Life

/--
How a trace, latest first, is divided by the life of an id: what came after it, the life
itself, and what was before it.

Before the registration the id is not live.  The life begins with the records of the
registration and with its answer.  Whatever else changes, the id is live under the same
terms at every moment of it.  What comes after it begins with the record of the removal,
and the id is not live any more.
-/
structure Lifeline
    (trace : List (Moment P N))
    (state : Dispatcher P)
    (script : ScriptId)
    (spec : Spec P)
    (priority : Int32)
    (after life before : List (Moment P N)) :
    Prop where
  split : trace = after ++ life ++ before
  unborn : ∀ moment ∈ before, moment.state.terms? script = none
  born :
    ∃ later moment logs,
      life = later ++ moment :: logs ∧
        moment.record.made? = some (spec, script) ∧
        ∀ log ∈ logs, log.record.isLog = true
  alive : ∀ moment ∈ life, moment.state.terms? script = some (spec, priority)
  removed :
    ∀ moment,
      after.getLast? = some moment →
      ∃ count, moment.record = .log (.bindingsRemoved script count)
  gone : ∀ moment ∈ after, moment.state.terms? script = none
  now :
    state.terms? script = if after = [] then some (spec, priority) else none

/--
The life of an id so far: it was not issued and is live at no moment, or it was issued
and divides the trace.
-/
inductive Machine.Life
    (settings : Settings)
    (m : Machine P W N)
    (script : ScriptId) :
    Prop
  | unborn
      (hnew : script ∉ m.issued)
      (now : m.state.terms? script = none)
      (throughout : ∀ moment ∈ m.trace, moment.state.terms? script = none)
  | lived
      (hissued : script ∈ m.issued)
      (spec : Spec P)
      (after life before : List (Moment P N))
      (lifeline :
        Lifeline m.trace m.state script spec
          (spec.priority.getD settings.defaultPriority) after life before)

variable {trace : List (Moment P N)} {state other : Dispatcher P}
variable {script : ScriptId} {spec : Spec P} {priority : Int32}
variable {after life before : List (Moment P N)}

/-- The records of a registration start the life of its id. -/
theorem Lifeline.start
    (unborn : ∀ moment ∈ trace, moment.state.terms? script = none)
    (hother : other.terms? script = some (spec, priority))
    (hstate : state.terms? script = some (spec, priority))
    (first second : LogEntry) :
    Lifeline
      (⟨.answered (.register spec) script, state⟩ :: ⟨.log second, state⟩ ::
        ⟨.log first, other⟩ :: trace)
      state script spec priority []
      [⟨.answered (.register spec) script, state⟩, ⟨.log second, state⟩,
        ⟨.log first, other⟩]
      trace where
  split := rfl
  unborn := unborn
  born := ⟨[], _, _, rfl, rfl, by simp [Record.isLog]⟩
  alive := by
    intro moment hmem
    simp only [List.mem_cons, List.not_mem_nil, or_false] at hmem
    rcases hmem with rfl | rfl | rfl
    · exact hstate
    · exact hstate
    · exact hother
  removed := by simp
  gone := by simp
  now := hstate

/-- A record lengthens the life, or what came after it. -/
theorem Lifeline.emit
    (h : Lifeline trace state script spec priority after life before)
    (entry : Record P N) :
    ∃ after' life',
      Lifeline (⟨entry, state⟩ :: trace) state script spec priority after' life'
        before := by
  obtain ⟨later, answer, logs, hlife, hanswer, hlogs⟩ := h.born
  have hnow := h.now
  cases after with
  | nil =>
      rw [if_pos rfl] at hnow
      refine ⟨[], ⟨entry, state⟩ :: life, ?_⟩
      constructor
      · rw [h.split]
        rfl
      · exact h.unborn
      · exact ⟨⟨entry, state⟩ :: later, answer, logs, by rw [hlife]; rfl, hanswer,
          hlogs⟩
      · intro moment hmem
        rcases List.mem_cons.mp hmem with rfl | hold
        · exact hnow
        · exact h.alive moment hold
      · exact h.removed
      · exact h.gone
      · rw [if_pos rfl]
        exact hnow
  | cons first rest =>
      rw [if_neg (by simp)] at hnow
      refine ⟨⟨entry, state⟩ :: first :: rest, life, ?_⟩
      constructor
      · rw [h.split]
        rfl
      · exact h.unborn
      · exact h.born
      · exact h.alive
      · intro moment hlast
        rw [List.getLast?_cons_cons] at hlast
        exact h.removed moment hlast
      · intro moment hmem
        rcases List.mem_cons.mp hmem with rfl | hold
        · exact hnow
        · exact h.gone moment hold
      · rw [if_neg (by simp)]
        exact hnow

/-- A change that leaves the terms of the id alone leaves its life alone. -/
theorem Lifeline.update
    (h : Lifeline trace state script spec priority after life before)
    (hsame : other.terms? script = state.terms? script) :
    Lifeline trace other script spec priority after life before :=
  { h with now := hsame.trans h.now }

/-- The record of the removal ends a life. -/
theorem Lifeline.remove
    (h : Lifeline trace state script spec priority after life before)
    (live : state.terms? script ≠ none)
    (hgone : other.terms? script = none)
    (count : Nat) :
    Lifeline (⟨.log (.bindingsRemoved script count), other⟩ :: trace) other
      script spec priority [⟨.log (.bindingsRemoved script count), other⟩] life
      before := by
  have hnone : after = [] := by
    by_contra hsome
    exact live (h.now.trans (if_neg hsome))
  subst hnone
  constructor
  · rw [h.split]
    rfl
  · exact h.unborn
  · exact h.born
  · exact h.alive
  · intro moment hlast
    obtain rfl := Option.some.inj hlast
    exact ⟨count, rfl⟩
  · intro moment hmem
    obtain rfl := List.mem_singleton.mp hmem
    exact hgone
  · rw [if_neg (by simp)]
    exact hgone

namespace Machine

variable {settings : Settings} {m : Machine P W N}

/-- A record goes on with the life of every id but the one that it issues. -/
theorem Life.emit_of_ne
    (h : m.Life settings script)
    (entry : Record P N)
    (hother : entry.issued? ≠ some script) :
    (m.emit entry).Life settings script := by
  have hmem : script ∈ (m.emit entry).issued ↔ script ∈ m.issued := by
    rw [issued_emit, List.mem_append, Option.mem_toList]
    exact or_iff_left hother
  cases h with
  | unborn hnew now throughout =>
      apply Life.unborn
      · rw [hmem]
        exact hnew
      · exact now
      · intro moment hmem
        rcases List.mem_cons.mp hmem with rfl | hold
        · exact now
        · exact throughout moment hold
  | lived hissued spec after life before lifeline =>
      obtain ⟨after', life', lifeline'⟩ := lifeline.emit entry
      exact .lived (hmem.mpr hissued) spec after' life' before lifeline'

/-- A record that answers no registration goes on with every life. -/
theorem Life.emit
    (h : m.Life settings script)
    (entry : Record P N)
    (hother : entry.made? = none) :
    (m.emit entry).Life settings script := by
  apply h.emit_of_ne
  rw [Record.issued?, hother]
  simp

theorem Life.update
    (h : m.Life settings script)
    (f : Dispatcher P → Dispatcher P)
    (hsame : (f m.state).terms? script = m.state.terms? script) :
    (m.update f).Life settings script := by
  cases h with
  | unborn hnew now throughout => exact .unborn hnew (hsame.trans now) throughout
  | lived hissued spec after life before lifeline =>
      exact .lived hissued spec after life before (lifeline.update hsame)

/-- The store and the notices are no part of the life of an id. -/
theorem Life.aside
    (h : m.Life settings script)
    (store : W)
    (sent : Nat) :
    ({ m with store := store, sent := sent } : Machine P W N).Life settings
      script := by
  cases h with
  | unborn hnew now throughout => exact .unborn hnew now throughout
  | lived hissued spec after life before lifeline =>
      exact .lived hissued spec after life before lifeline

/-- Making a registration starts the life of its id and goes on with every other. -/
theorem Life.registered
    (h : m.Life settings script)
    (hwf : m.state.WellFormed)
    (hnumbered : m.Numbered)
    (spec : Spec P) :
    (m.registered settings spec).Life settings script := by
  let priority := spec.priority.getD settings.defaultPriority
  have hterms :
      (m.state.enrolled spec priority).terms? script =
        if m.state.nextId = script then some (spec, priority)
        else m.state.terms? script :=
    hwf.terms?_enrolled spec priority script
  by_cases hown : m.state.nextId = script
  · rw [if_pos hown] at hterms
    cases h with
    | lived hold =>
        have hlt := (hnumbered.mem_issued.mp hold).2
        exact absurd hown (Nat.ne_of_gt hlt)
    | unborn hnew now throughout =>
        subst hown
        have hcounted :
            (m.registered settings spec).state.terms? m.state.nextId =
              some (spec, priority) :=
          hterms
        refine .lived ?_ spec [] _ m.trace
          (Lifeline.start throughout hterms hcounted _ _)
        rw [issued_registered]
        exact List.mem_append_right _ (List.mem_singleton_self _)
  · rw [if_neg hown] at hterms
    have hbound :=
      (h.update (fun s => s.enrolled spec priority) hterms).emit
        (.log (.bindingsInserted m.state.nextId spec.kinds.length)) rfl
    have hcounted :=
      (hbound.update
        (fun s => s.retally fun tally => tally.registered spec.autoEnable)
        rfl).emit
          (.log (.scriptRegistered m.state.nextId spec.name priority
            spec.kinds.length spec.autoEnable)) rfl
    apply hcounted.emit_of_ne
    intro hsame
    exact hown (Option.some.inj hsame)

/-- Removing a registration ends the life of its id and goes on with every other. -/
theorem Life.unregistered
    (h : m.Life settings script)
    {registration : Registration P}
    (live : m.state.find? registration.id = some registration) :
    (m.unregistered registration).Life settings script := by
  let count := m.state.table.countOf registration.id
  have hterms :
      (m.state.withdrawn registration.id).terms? script =
        if script = registration.id then none else m.state.terms? script :=
    m.state.terms?_withdrawn registration.id script
  have hcounted :
      (((m.update fun s => s.withdrawn registration.id).emit
        (.log (.bindingsRemoved registration.id count))).update fun s =>
          s.retally fun tally =>
            tally.unregistered registration.enabled).Life settings script := by
    apply Life.update _ _ rfl
    by_cases hown : script = registration.id
    · rw [if_pos hown] at hterms
      have hlive : m.state.terms? script ≠ none := by
        rw [Ne, Dispatcher.terms?_eq_none, hown, live]
        simp
      cases h with
      | unborn hnew now throughout => exact absurd now hlive
      | lived hissued spec after life before lifeline =>
          subst hown
          refine .lived ?_ spec _ life before (lifeline.remove hlive hterms count)
          rw [issued_emit]
          exact List.mem_append_left _ hissued
    · rw [if_neg hown] at hterms
      exact (h.update (fun s => s.withdrawn registration.id) hterms).emit _ rfl
  unfold Machine.unregistered
  cases registration.spec.cleanup with
  | none => exact hcounted
  | some cleanup => exact hcounted.emit _ rfl

end Machine

/-- A step goes on with every life, starts one or ends one. -/
theorem Step.keepsLife
    {settings : Settings}
    {a b : Machine P W N}
    (once : Step settings a b)
    (hwf : a.state.WellFormed)
    (hnumbered : a.Numbered)
    (h : a.Life settings script) :
    b.Life settings script := by
  cases once with
  | register spec => exact h.registered hwf hnumbered spec
  | unregister registration live => exact h.unregistered live
  | toggle registration enabled live change =>
      apply Machine.Life.emit
      · exact h.update _ (a.state.terms?_setFlag registration.id script enabled)
      · rfl
  | call registration handler event live enabled declared => exact h.emit _ rfl
  | fail script kind reason =>
      apply Machine.Life.emit
      · exact h.update _ rfl
      · rfl
  | record entry plain => exact h.emit entry (Record.made?_of_isPlain plain)
  | write store => exact h.aside store a.sent
  | send => exact h.aside a.store (a.sent + 1)

/-- Every id has its life in every machine that a run can come to. -/
theorem Setup.Reaches.lives
    {setup : Setup P W N}
    {m : Machine P W N}
    (h : setup.Reaches m)
    (script : ScriptId) :
    m.Life setup.settings script := by
  induction h with
  | fresh store =>
      apply Machine.Life.unborn
      · simp [Machine.issued, Machine.history, Machine.fresh]
      · rfl
      · simp [Machine.fresh]
  | step before once ih => exact once.keepsLife before.wellFormed before.numbered ih
  | began _ event ih =>
      apply Machine.Life.emit
      · exact ih.update _ rfl
      · rfl
  | reported _ event result ih => exact ih.emit _ rfl

end Life
end ScriptHub
