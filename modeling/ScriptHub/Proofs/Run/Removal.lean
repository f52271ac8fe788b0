import ScriptHub.Proofs.Run.CounterHistory

/-!
# Removing a registration

A registration and its bindings are taken out first, then its cleanup begins.
Whatever the cleanup does, the registration cannot be taken out again, so its
cleanup begins once.  A dispatch under way looks a registration up before it calls
its handler, so no handler begins once the cleanup began.

**Results.**
* `Step.fits`: handlers begin for live registrations, cleanups for removed ones.
* `Step.tended`: a step begins the cleanup of the registration that it removes and
  no other.
* `cleanup_begins_once_after_removal`: in every run a cleanup begins at most once,
  exactly once if the registration was removed, and no handler begins after it.
-/

namespace ScriptHub

variable {P W N R : Type}

/-- The cleanup of a registration that a record says to have begun. -/
def Record.cleanup?
    (script : ScriptId) :
    Record P N → Option P
  | .cleanupBegan other cleanup => if other = script then some cleanup else none
  | _ => none

/-- The cleanups of a registration that began in a trace. -/
def cleanupsIn
    (script : ScriptId)
    (trace : List (Moment P N)) :
    List P :=
  trace.filterMap fun moment => moment.record.cleanup? script

theorem cleanupsIn_cons_of_not
    {script : ScriptId}
    {moment : Moment P N}
    (trace : List (Moment P N))
    (hother : moment.record.cleanup? script = none) :
    cleanupsIn script (moment :: trace) = cleanupsIn script trace :=
  List.filterMap_cons_none hother

/-- A record that says nothing of user code that begins says none of a cleanup. -/
theorem Record.cleanup?_of_isPlain
    {entry : Record P N}
    (plain : entry.isPlain = true)
    (script : ScriptId) :
    entry.cleanup? script = none := by
  cases entry with
  | cleanupBegan other cleanup => exact absurd plain (by simp [isPlain])
  | _ => rfl

namespace Dispatcher

/-- What a live registration supplied. -/
def specOf?
    (state : Dispatcher P)
    (script : ScriptId) :
    Option (Spec P) :=
  (state.find? script).map Registration.spec

variable {state : Dispatcher P}

theorem WellFormed.specOf?_enrolled
    (h : state.WellFormed)
    (spec : Spec P)
    (priority : Int32)
    (script : ScriptId) :
    (state.enrolled spec priority).specOf? script =
      if state.nextId = script then some spec else state.specOf? script := by
  unfold specOf?
  rw [find?_enrolled]
  by_cases hnew : state.nextId = script
  · subst hnew
    rw [h.find?_nextId]
    simp
  · simp [hnew]

theorem specOf?_withdrawn
    (state : Dispatcher P)
    (script other : ScriptId) :
    (state.withdrawn script).specOf? other =
      if other = script then none else state.specOf? other := by
  unfold specOf?
  rw [find?_withdrawn]
  by_cases h : other = script <;> simp [h]

theorem specOf?_setFlag
    (state : Dispatcher P)
    (script other : ScriptId)
    (enabled : Bool) :
    (state.setFlag script enabled).specOf? other = state.specOf? other := by
  unfold specOf?
  rw [find?_setFlag, Option.map_map]
  congr 1
  funext registration
  by_cases h : registration.id = script <;> simp [h]

end Dispatcher

/--
Where user code begins, a handler belongs to a live and enabled registration that
declares it, and a cleanup to a registration that is gone.
-/
def Moment.Fits (moment : Moment P N) : Prop :=
  match moment.record with
  | .handlerBegan script handler event =>
      ∃ registration,
        moment.state.find? script = some registration ∧
          registration.enabled = true ∧
          registration.spec.handler? event.kind = some handler
  | .cleanupBegan script _ =>
      script < moment.state.nextId ∧ moment.state.find? script = none
  | _ => True

theorem Moment.fits_of_isPlain
    (state : Dispatcher P)
    {entry : Record P N}
    (plain : entry.isPlain = true) :
    Moment.Fits ⟨entry, state⟩ := by
  cases entry with
  | handlerBegan script handler event =>
      exact absurd plain (by simp [Record.isPlain])
  | cleanupBegan script cleanup =>
      exact absurd plain (by simp [Record.isPlain])
  | _ => trivial

/-- User code begins where it fits. -/
theorem Step.fits
    {settings : Settings}
    {a b : Machine P W N}
    (once : Step settings a b)
    (hwf : a.state.WellFormed)
    (h : ∀ moment ∈ a.trace, moment.Fits) :
    ∀ moment ∈ b.trace, moment.Fits := by
  have hcons :
      ∀ {moment : Moment P N} {trace : List (Moment P N)},
        moment.Fits →
        (∀ other ∈ trace, other.Fits) →
        ∀ other ∈ moment :: trace, other.Fits := by
    intro moment trace hmoment htrace
    exact List.forall_mem_cons.mpr ⟨hmoment, htrace⟩
  cases once with
  | register spec => exact hcons trivial (hcons trivial (hcons trivial h))
  | unregister registration live =>
      have hissued : registration.id < a.state.nextId :=
        hwf.issued registration (Dispatcher.mem_live_of_find? live)
      have hgone :
          (a.state.withdrawn registration.id).find? registration.id = none := by
        rw [Dispatcher.find?_withdrawn, if_pos rfl]
      unfold Machine.unregistered
      cases registration.spec.cleanup with
      | none => exact hcons trivial h
      | some cleanup => exact hcons ⟨hissued, hgone⟩ (hcons trivial h)
  | toggle registration enabled live change => exact hcons trivial h
  | call registration handler event live enabled declared =>
      exact hcons ⟨registration, live, enabled, declared⟩ h
  | fail script kind reason => exact hcons trivial h
  | record entry plain => exact hcons (Moment.fits_of_isPlain _ plain) h
  | write store => exact h
  | send => exact h

namespace Machine

/--
Every registration that was made is still live, or is gone and its cleanup, if it
has one, began once; no other cleanup began.
-/
structure Tended (m : Machine P W N) : Prop where
  fresh :
    ∀ script, m.state.nextId ≤ script → cleanupsIn script m.trace = []
  waiting :
    ∀ script spec,
      m.state.specOf? script = some spec → cleanupsIn script m.trace = []
  once : ∀ script, (cleanupsIn script m.trace).length ≤ 1
  owed :
    ∀ moment ∈ m.trace,
      ∀ spec script,
        moment.record.made? = some (spec, script) →
        script < m.state.nextId ∧
          (m.state.specOf? script = some spec ∨
            m.state.specOf? script = none ∧
              cleanupsIn script m.trace = spec.cleanup.toList)

theorem tended_fresh (store : W) :
    (fresh store : Machine P W N).Tended where
  fresh := by
    intro script _
    rfl
  waiting := by
    intro script spec _
    rfl
  once := by
    intro script
    exact Nat.zero_le 1
  owed := by
    intro moment hmoment
    exact absurd hmoment (by simp [Machine.fresh])

variable {m : Machine P W N}

/-- A record of neither a registration nor a cleanup changes nothing. -/
theorem Tended.emit
    (h : m.Tended)
    {entry : Record P N}
    (hmade : entry.made? = none)
    (hcleanup : ∀ script, entry.cleanup? script = none) :
    (m.emit entry).Tended := by
  have hsame :
      ∀ script,
        cleanupsIn script (m.emit entry).trace =
          cleanupsIn script m.trace := by
    intro script
    rw [emit_trace, cleanupsIn_cons_of_not m.trace (hcleanup script)]
  constructor
  · intro script hscript
    rw [hsame]
    exact h.fresh script hscript
  · intro script spec hspec
    rw [hsame]
    exact h.waiting script spec hspec
  · intro script
    rw [hsame]
    exact h.once script
  · intro moment hmoment spec script hmoment_made
    rw [hsame]
    rw [emit_trace, List.mem_cons] at hmoment
    rcases hmoment with rfl | hold
    · rw [hmade] at hmoment_made
      exact absurd hmoment_made (by simp)
    · exact h.owed moment hold spec script hmoment_made

/-- A change that touches no registration changes nothing. -/
theorem Tended.update
    (h : m.Tended)
    (f : Dispatcher P → Dispatcher P)
    (hnext : (f m.state).nextId = m.state.nextId)
    (hspec :
      ∀ script, (f m.state).specOf? script = m.state.specOf? script) :
    (m.update f).Tended := by
  constructor
  · intro script hscript
    rw [show (m.update f).state.nextId = m.state.nextId from hnext] at hscript
    exact h.fresh script hscript
  · intro script spec hlive
    rw [show (m.update f).state.specOf? script = m.state.specOf? script from
      hspec script] at hlive
    exact h.waiting script spec hlive
  · exact h.once
  · intro moment hmoment spec script hmade
    rw [show (m.update f).state.nextId = m.state.nextId from hnext,
      show (m.update f).state.specOf? script = m.state.specOf? script from
        hspec script]
    exact h.owed moment hmoment spec script hmade

/-- Making a registration begins no cleanup. -/
theorem Tended.registered
    (h : m.Tended)
    (hwf : m.state.WellFormed)
    (settings : Settings)
    (spec : Spec P) :
    (m.registered settings spec).Tended := by
  have hnext :
      (m.registered settings spec).state.nextId = m.state.nextId + 1 := by
    rfl
  have hspec :
      ∀ script,
        (m.registered settings spec).state.specOf? script =
          if m.state.nextId = script then some spec
          else m.state.specOf? script :=
    hwf.specOf?_enrolled spec _
  have hsame :
      ∀ script,
        cleanupsIn script (m.registered settings spec).trace =
          cleanupsIn script m.trace := by
    intro script
    rfl
  constructor
  · intro script hscript
    rw [hnext] at hscript
    rw [hsame]
    exact h.fresh script (Nat.le_of_succ_le hscript)
  · intro script other hlive
    rw [hsame]
    rw [hspec] at hlive
    split_ifs at hlive with hnew
    · exact h.fresh script (Nat.le_of_eq hnew)
    · exact h.waiting script other hlive
  · intro script
    rw [hsame]
    exact h.once script
  · intro moment hmoment other script hmade
    rw [hnext, hspec, hsame]
    rcases List.mem_cons.mp hmoment with rfl | hmoment
    · obtain ⟨rfl, rfl⟩ := Prod.mk.inj (Option.some.inj hmade)
      rw [if_pos rfl]
      exact ⟨Nat.lt_succ_self _, .inl rfl⟩
    · have hold : moment ∈ m.trace := by
        rcases List.mem_cons.mp hmoment with rfl | hmoment
        · exact absurd hmade (by simp [Record.made?])
        · rcases List.mem_cons.mp hmoment with rfl | hmoment
          · exact absurd hmade (by simp [Record.made?])
          · exact hmoment
      obtain ⟨hissued, howed⟩ := h.owed moment hold other script hmade
      rw [if_neg (Nat.ne_of_gt hissued)]
      exact ⟨Nat.lt_succ_of_lt hissued, howed⟩

/-- A removal begins the cleanup of the registration that is removed. -/
theorem cleanupsIn_unregistered
    (m : Machine P W N)
    (registration : Registration P)
    (script : ScriptId) :
    cleanupsIn script (m.unregistered registration).trace =
      (if script = registration.id then registration.spec.cleanup.toList
        else []) ++
        cleanupsIn script m.trace := by
  unfold Machine.unregistered
  cases registration.spec.cleanup with
  | none => simp [cleanupsIn, update, Record.cleanup?]
  | some cleanup =>
      by_cases hscript : script = registration.id
      · simp [cleanupsIn, update, Record.cleanup?, hscript]
      · simp [cleanupsIn, update, Record.cleanup?, hscript, Ne.symm hscript]

/-- A removal makes no registration. -/
theorem mem_trace_of_mem_unregistered
    {registration : Registration P}
    {moment : Moment P N}
    {made : Spec P × ScriptId}
    (hmoment : moment ∈ (m.unregistered registration).trace)
    (hmade : moment.record.made? = some made) :
    moment ∈ m.trace := by
  unfold Machine.unregistered at hmoment
  cases hcleanup : registration.spec.cleanup with
  | none =>
      rw [hcleanup] at hmoment
      rcases List.mem_cons.mp hmoment with rfl | hold
      · exact absurd hmade (by simp [Record.made?])
      · exact hold
  | some cleanup =>
      rw [hcleanup] at hmoment
      rcases List.mem_cons.mp hmoment with rfl | hmoment
      · exact absurd hmade (by simp [Record.made?])
      · rcases List.mem_cons.mp hmoment with rfl | hold
        · exact absurd hmade (by simp [Record.made?])
        · exact hold

/-- Removing a live registration begins its cleanup, for the first time. -/
theorem Tended.unregistered
    (h : m.Tended)
    (hwf : m.state.WellFormed)
    {registration : Registration P}
    (live : m.state.find? registration.id = some registration) :
    (m.unregistered registration).Tended := by
  have hissued : registration.id < m.state.nextId :=
    hwf.issued registration (Dispatcher.mem_live_of_find? live)
  have hown :
      m.state.specOf? registration.id = some registration.spec := by
    unfold Dispatcher.specOf?
    rw [live]
    rfl
  have hnone : cleanupsIn registration.id m.trace = [] :=
    h.waiting _ _ hown
  have hnext :
      (m.unregistered registration).state.nextId = m.state.nextId := by
    rw [unregistered_state]
    rfl
  have hspec :
      ∀ script,
        (m.unregistered registration).state.specOf? script =
          if script = registration.id then none
          else m.state.specOf? script := by
    intro script
    rw [unregistered_state]
    exact m.state.specOf?_withdrawn registration.id script
  have hcleanups := m.cleanupsIn_unregistered registration
  constructor
  · intro script hscript
    rw [hnext] at hscript
    have hid : script ≠ registration.id :=
      Nat.ne_of_gt (Nat.lt_of_lt_of_le hissued hscript)
    rw [hcleanups, if_neg hid]
    exact h.fresh script hscript
  · intro script spec hlive
    rw [hspec] at hlive
    rw [hcleanups]
    split_ifs at hlive ⊢ with hid
    exact h.waiting script spec hlive
  · intro script
    rw [hcleanups]
    split_ifs with hid
    · rw [hid, hnone]
      cases registration.spec.cleanup <;> simp
    · exact h.once script
  · intro moment hmoment spec script hmade
    have hbefore := mem_trace_of_mem_unregistered hmoment hmade
    obtain ⟨hmade_issued, howed⟩ := h.owed moment hbefore spec script hmade
    rw [hnext, hspec, hcleanups]
    refine ⟨hmade_issued, ?_⟩
    by_cases hid : script = registration.id
    · subst hid
      rcases howed with hlive | ⟨hgone, _⟩
      · rw [hown] at hlive
        have hsame := Option.some.inj hlive
        simp [hsame, hnone]
      · rw [hown] at hgone
        exact absurd hgone (by simp)
    · rw [if_neg hid, if_neg hid]
      exact howed

end Machine

/-- A step begins the cleanup of what it removes and no other. -/
theorem Step.tended
    {settings : Settings}
    {a b : Machine P W N}
    (once : Step settings a b)
    (hwf : a.state.WellFormed)
    (h : a.Tended) :
    b.Tended := by
  cases once with
  | register spec => exact h.registered hwf settings spec
  | unregister registration live => exact h.unregistered hwf live
  | toggle registration enabled live change =>
      apply Machine.Tended.emit
      · apply h.update
        · rfl
        · intro script
          exact a.state.specOf?_setFlag registration.id script enabled
      · rfl
      · intro script
        rfl
  | call registration handler event live enabled declared =>
      exact h.emit rfl fun _ => rfl
  | fail script kind reason =>
      apply Machine.Tended.emit
      · exact h.update _ rfl fun _ => rfl
      · rfl
      · intro script
        rfl
  | record entry plain =>
      exact h.emit (Record.made?_of_isPlain plain)
        (Record.cleanup?_of_isPlain plain)
  | write store => exact ⟨h.fresh, h.waiting, h.once, h.owed⟩
  | send => exact ⟨h.fresh, h.waiting, h.once, h.owed⟩

/-- All along a course user code begins where it fits, and cleanups once. -/
theorem Course.tended
    {setup : Setup P W N}
    {a b : Machine P W N}
    (course : Course setup a b)
    (hwf : a.state.WellFormed)
    (hfits : ∀ moment ∈ a.trace, moment.Fits)
    (h : a.Tended) :
    (∀ moment ∈ b.trace, moment.Fits) ∧ b.Tended := by
  have key :
      b.state.WellFormed ∧ (∀ moment ∈ b.trace, moment.Fits) ∧ b.Tended := by
    refine
      Course.preserves
        (fun m =>
          m.state.WellFormed ∧ (∀ moment ∈ m.trace, moment.Fits) ∧ m.Tended)
        ?_ ?_ ?_ course ⟨hwf, hfits, h⟩
    · rintro a b once ⟨hwf, hfits, h⟩
      exact ⟨once.wellFormed hwf, once.fits hwf hfits, once.tended hwf h⟩
    · rintro m event ⟨hwf, hfits, h⟩
      refine ⟨?_, ?_, ?_⟩
      · rw [Machine.attempted_state]
        exact hwf.retally _
      · exact List.forall_mem_cons.mpr ⟨trivial, hfits⟩
      · apply Machine.Tended.emit
        · exact h.update _ rfl fun _ => rfl
        · rfl
        · intro script
          rfl
    · rintro m event result ⟨hwf, hfits, h⟩
      refine ⟨hwf, ?_, h.emit rfl fun _ => rfl⟩
      exact List.forall_mem_cons.mpr ⟨trivial, hfits⟩
  exact key.2

section Endings

/--
However a removal ends, the cleanup has begun and the registration is gone for
good.
-/
theorem Run.unregister_snd_of_live
    (setup : Setup P W N)
    (room level : Nat)
    {m : Machine P W N}
    {registration : Registration P}
    (hwf : m.state.WellFormed)
    (live : m.state.find? registration.id = some registration) :
    let after :=
      (unregister setup.settings (setup.scripts room level) registration.id
        m).2
    (m.unregistered registration).trace <:+ after.trace ∧
      after.state.find? registration.id = none := by
  intro after
  have first : Course setup m (m.unregistered registration) :=
    .step (.unregister m registration live)
  have course : Course setup (m.unregistered registration) after := by
    have key :=
      (spans_afterRemoval (setup.spans_scripts room level) registration _
        (first.wellFormed hwf)).course
    rw [← unregister_of_live setup.settings _ live] at key
    exact key
  have hissued : registration.id < (m.unregistered registration).state.nextId :=
    Nat.lt_of_lt_of_le
      (hwf.issued registration (Dispatcher.mem_live_of_find? live))
      first.evolves.nextId_le
  have hgone :
      (m.unregistered registration).state.find? registration.id = none := by
    rw [Machine.unregistered_state]
    exact (m.state.find?_withdrawn registration.id registration.id).trans
      (if_pos rfl)
  constructor
  · exact course.trace_suffix
  · exact course.evolves.find?_eq_none hissued hgone

end Endings

/--
What a history says of cleanups.

No cleanup begins twice.  A registration that was made is live and its cleanup did not
begin, or it is gone and its cleanup, if it has one, began once.  Where a cleanup
begins, its registration is gone and not counted, and no handler of it begins from then
on.
-/
structure Machine.CleansUp (m : Machine P W N) : Prop where
  once : ∀ script, (cleanupsIn script m.trace).length ≤ 1
  owed :
    ∀ moment ∈ m.trace,
      ∀ spec script,
        moment.record.made? = some (spec, script) →
        m.state.specOf? script = some spec ∧ cleanupsIn script m.trace = [] ∨
          m.state.specOf? script = none ∧
            cleanupsIn script m.trace = spec.cleanup.toList
  gone :
    ∀ moment earlier script cleanup,
      moment :: earlier <:+ m.trace →
      moment.record = .cleanupBegan script cleanup →
      moment.state.info? script = none ∧
        (∀ kind, ∀ binding ∈ moment.state.table.get kind,
          binding.script ≠ script) ∧
        (∀ registration ∈ moment.state.live, registration.id ≠ script) ∧
        moment.state.CountersAgree (registrationsIn (moment :: earlier))
  silent :
    ∀ later moment earlier script cleanup,
      m.trace = later ++ moment :: earlier →
      moment.record = .cleanupBegan script cleanup →
      ∀ after ∈ later,
        ∀ handler event,
          after.record ≠ .handlerBegan script handler event

section Histories

variable {m : Machine P W N}

theorem Moment.Fits.of_cleanup
    {moment : Moment P N}
    {script : ScriptId}
    {cleanup : P}
    (h : moment.Fits)
    (hbegan : moment.record = .cleanupBegan script cleanup) :
    script < moment.state.nextId ∧ moment.state.find? script = none := by
  unfold Moment.Fits at h
  rw [hbegan] at h
  exact h

/-- The handler that begins belongs to a live registration. -/
theorem Moment.Fits.of_handler
    {moment : Moment P N}
    {script : ScriptId}
    {handler : P}
    {event : Event}
    (h : moment.Fits)
    (hbegan : moment.record = .handlerBegan script handler event) :
    moment.state.find? script ≠ none := by
  unfold Moment.Fits at h
  rw [hbegan] at h
  obtain ⟨registration, hlive, _⟩ := h
  simp [hlive]

/-- A registration that is gone has no binding left. -/
theorem Dispatcher.WellFormed.script_ne_of_mem
    {state : Dispatcher P}
    (h : state.WellFormed)
    {script : ScriptId}
    (hgone : state.find? script = none)
    {kind : EventKind}
    {binding : Binding P}
    (hmem : binding ∈ state.table.get kind) :
    binding.script ≠ script := by
  obtain ⟨owner, howner, hbinding⟩ := h.mem_table.mp hmem
  obtain ⟨_, hid, _⟩ := Registration.binding?_eq_some.mp hbinding
  rw [← hid]
  exact Dispatcher.find?_eq_none_iff.mp hgone owner howner

/-- No handler begins after the cleanup of its registration. -/
theorem Machine.Orderly.silent
    (h : m.Orderly)
    (hfits : ∀ moment ∈ m.trace, moment.Fits)
    {later earlier : List (Moment P N)}
    {moment after : Moment P N}
    {script : ScriptId}
    {cleanup handler : P}
    {event : Event}
    (hsplit : m.trace = later ++ moment :: earlier)
    (hcleanup : moment.record = .cleanupBegan script cleanup)
    (hafter : after ∈ later) :
    after.record ≠ .handlerBegan script handler event := by
  intro hhandler
  have hevolves := h.evolves_of_split hsplit hafter
  have hmoment : moment ∈ m.trace := by simp [hsplit]
  have hmem : after ∈ m.trace := by simp [hsplit, hafter]
  obtain ⟨hissued, hgone⟩ := (hfits moment hmoment).of_cleanup hcleanup
  exact (hfits after hmem).of_handler hhandler
    (hevolves.find?_eq_none hissued hgone)

/-- A tended history in which user code begins where it fits cleans up. -/
theorem Machine.Tended.cleansUp
    (h : m.Tended)
    (hhistory : m.Orderly)
    (hfits : ∀ moment ∈ m.trace, moment.Fits)
    (htallied : m.Tallied)
    (few : registrationsIn m.trace < UInt64.size - 1) :
    m.CleansUp where
  once := h.once
  owed := by
    intro moment hmoment spec script hmade
    obtain ⟨_, hlive | hgone⟩ := h.owed moment hmoment spec script hmade
    · exact .inl ⟨hlive, h.waiting script spec hlive⟩
    · exact .inr hgone
  gone := by
    intro moment earlier script cleanup hsuffix hbegan
    have hmem : moment ∈ m.trace := hsuffix.subset (by simp)
    have hwf := (hhistory.throughout moment earlier hsuffix).1
    obtain ⟨_, hgone⟩ := (hfits moment hmem).of_cleanup hbegan
    refine ⟨?_, ?_, ?_, ?_⟩
    · unfold Dispatcher.info?
      rw [hgone]
      rfl
    · intro kind binding hbinding
      exact hwf.script_ne_of_mem hgone hbinding
    · exact Dispatcher.find?_eq_none_iff.mp hgone
    · apply htallied.countersAgree hhistory few hsuffix
      rw [hbegan]
      rfl
  silent := by
    intro later moment earlier script cleanup hsplit hbegan after hafter _ _
    exact hhistory.silent hfits hsplit hbegan hafter

end Histories

/--
**A cleanup begins once, after the removal.**

In every run that makes fewer registrations than can be numbered, the cleanup of
a registration begins at most once, and exactly once if the registration was
removed.  It is gone when the cleanup begins, and none of its handlers begins
after that.  However a removal ends, the registration is gone and its cleanup has
begun; it returns true unless the cleanup panics and panics of cleanups are not
caught.
-/
theorem cleanup_begins_once_after_removal
    (setup : Setup P W N)
    (room : Nat)
    (codes : List (Code P W N R))
    (store : W)
    (few :
      registrationsIn (setup.runAll room codes (.fresh store)).2.trace <
        UInt64.size - 1) :
    (setup.runAll room codes (.fresh store)).2.CleansUp ∧
      ∀ (inner level : Nat)
        (before : Machine P W N)
        (registration : Registration P)
        (cleanup : P),
        before.state.WellFormed →
        before.state.find? registration.id = some registration →
        registration.spec.cleanup = some cleanup →
        let scripts := setup.scripts inner level
        let began := before.unregistered registration
        let ending :=
          Run.unregister setup.settings scripts registration.id before
        ending.1 =
            Run.removalFlow setup.settings (scripts.clean cleanup began).1 ∧
          began.trace <:+ ending.2.trace ∧
          ending.2.state.find? registration.id = none := by
  have course := setup.course_runAll_fresh room codes store
  obtain ⟨hfits, htended⟩ :=
    course.tended Dispatcher.wellFormed_empty (by simp [Machine.fresh])
      (Machine.tended_fresh store)
  constructor
  · exact htended.cleansUp (setup.orderly_runAll room codes store) hfits
      (setup.tallied_runAll room codes store) few
  · intro inner level before registration cleanup hwf live hcleanup
    constructor
    · exact Run.unregister_fst_of_cleanup _ _ live hcleanup
    · exact Run.unregister_snd_of_live setup inner level hwf live

/--
The cleanup of a script that removed itself begins once although it panics, and
removing the script where it was just registered returns true.
-/
theorem cleanup_begins_once_when_it_panics :
    cleanupsIn 1 Restless.last.trace = [true] ∧
      (Run.unregister Restless.setup.settings (Restless.setup.scripts 1 0) 1
        ((Machine.fresh ()).registered Restless.setup.settings
          Restless.restless)).1 = .returned true := by
  have few : registrationsIn Restless.last.trace < UInt64.size - 1 := by
    decide +kernel
  have hmade :
      Restless.last.trace[21]?.map (fun moment => moment.record.made?) =
        some (some (Restless.restless, 1)) := by
    decide +kernel
  have hgone : Restless.last.state.specOf? 1 = none := by
    decide +kernel
  obtain ⟨moment, hmoment, hmade⟩ := Option.map_eq_some_iff.mp hmade
  have hmem := List.mem_of_getElem? hmoment
  unfold Restless.last at few hgone hmem ⊢
  obtain ⟨hclean, hreturns⟩ :=
    cleanup_begins_once_after_removal Restless.setup 2 [Restless.host] () few
  constructor
  · rcases hclean.owed moment hmem _ _ hmade with ⟨hlive, _⟩ | ⟨_, hbegan⟩
    · rw [hgone] at hlive
      exact absurd hlive (by simp)
    · exact hbegan
  · let before : Machine Bool Unit Unit :=
      (Machine.fresh ()).registered Restless.setup.settings Restless.restless
    let registration : Registration Bool :=
      { id := 1, spec := Restless.restless, priority := 100, enabled := true }
    have hwf : before.state.WellFormed :=
      (Step.register (Machine.fresh ()) Restless.restless).wellFormed
        Dispatcher.wellFormed_empty
    obtain ⟨key, _⟩ := hreturns 1 0 before registration true hwf rfl rfl
    rw [key]
    rfl

end ScriptHub
