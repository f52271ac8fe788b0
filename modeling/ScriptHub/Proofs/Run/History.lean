import Mathlib.Data.Fin.Tuple.Take
import Mathlib.Data.List.Permutation
import ScriptHub.Proofs.Run.RunCourse

/-!
# What holds throughout a history

The trace of a machine tells every state that user code, the host or the journal
could see.  A property of a moment and of what came before it holds throughout
if it holds of every moment of the trace.

**Results.**
* `Machine.Throughout`: a property holds of every moment and of what came before it.
* `Setup.Reaches.orderly`: the history of every machine that a run can come to is
  orderly.
* `table_agrees_with_registrations`: in every run, at every moment and at the
  end, the hook table holds what sorting the declared bindings would give.
-/

namespace ScriptHub

variable {P W N R α : Type}

/-- An entry of a list stands in front of what comes after it. -/
theorem suffix_of_getElem?
    {entries : List α}
    {n : Nat}
    {entry : α}
    (h : entries[n]? = some entry) :
    entry :: entries.drop (n + 1) <:+ entries := by
  have hsplit :
      entries.drop n = entry :: entries.drop (n + 1) := by
    rw [List.drop_eq_getElem?_toList_append, h]
    rfl
  rw [← hsplit]
  exact List.drop_suffix n entries

namespace Machine

/-- A property holds of every moment of a trace and of what came before it. -/
def Throughout
    (Q : Moment P N → List (Moment P N) → Prop)
    (m : Machine P W N) :
    Prop :=
  ∀ moment earlier, moment :: earlier <:+ m.trace → Q moment earlier

variable {Q : Moment P N → List (Moment P N) → Prop} {m : Machine P W N}

theorem throughout_fresh (store : W) :
    (fresh store : Machine P W N).Throughout Q := by
  intro moment earlier h
  have hnil := List.suffix_nil.mp h
  exact absurd hnil (by simp)

/-- Writing a record adds one moment. -/
theorem Throughout.emit
    (h : m.Throughout Q)
    {entry : Record P N}
    (hnew : Q ⟨entry, m.state⟩ m.trace) :
    (m.emit entry).Throughout Q := by
  intro moment earlier hsuffix
  rw [emit_trace, List.suffix_cons_iff] at hsuffix
  rcases hsuffix with heq | hold
  · obtain ⟨rfl, rfl⟩ := List.cons.inj heq
    exact hnew
  · exact h moment earlier hold

/-- Changing the state adds no moment. -/
theorem Throughout.update
    (h : m.Throughout Q)
    (f : Dispatcher P → Dispatcher P) :
    (m.update f).Throughout Q :=
  h

/-- Every moment of a trace has a past in the trace. -/
theorem Throughout.of_mem
    (h : m.Throughout Q)
    {moment : Moment P N}
    (hmem : moment ∈ m.trace) :
    ∃ earlier, moment :: earlier <:+ m.trace ∧ Q moment earlier := by
  obtain ⟨later, earlier, hsplit⟩ := List.append_of_mem hmem
  have hsuffix : moment :: earlier <:+ m.trace := ⟨later, hsplit.symm⟩
  exact ⟨earlier, hsuffix, h moment earlier hsuffix⟩

/--
The dispatcher is well-formed at every moment and at the end, and evolves from
each moment to the later ones.
-/
structure Orderly (m : Machine P W N) : Prop where
  now : m.state.WellFormed
  throughout :
    m.Throughout fun moment earlier =>
      moment.state.WellFormed ∧
        ∀ before ∈ earlier, before.state.Evolves moment.state
  past : ∀ before ∈ m.trace, before.state.Evolves m.state

theorem orderly_fresh (store : W) :
    (fresh store : Machine P W N).Orderly where
  now := Dispatcher.wellFormed_empty
  throughout := throughout_fresh store
  past := by simp [fresh]

theorem Orderly.emit
    (h : m.Orderly)
    (entry : Record P N) :
    (m.emit entry).Orderly where
  now := h.now
  throughout := h.throughout.emit ⟨h.now, h.past⟩
  past := by
    intro before hbefore
    rw [emit_trace, List.mem_cons] at hbefore
    rcases hbefore with rfl | hold
    · exact Dispatcher.Evolves.refl _
    · exact h.past before hold

theorem Orderly.update
    (h : m.Orderly)
    (f : Dispatcher P → Dispatcher P)
    (hwf : (f m.state).WellFormed)
    (hevolves : m.state.Evolves (f m.state)) :
    (m.update f).Orderly where
  now := hwf
  throughout := h.throughout.update f
  past := by
    intro before hbefore
    exact (h.past before hbefore).trans hevolves

theorem Orderly.retally
    (h : m.Orderly)
    (f : Tally → Tally) :
    (m.update fun s => s.retally f).Orderly :=
  h.update _ (h.now.retally f) (Dispatcher.evolves_retally _ f)

/-- The dispatcher evolves from a moment to one that stands before it in the trace. -/
theorem Orderly.evolves_of_split
    (h : m.Orderly)
    {later earlier : List (Moment P N)}
    {moment after : Moment P N}
    (hsplit : m.trace = later ++ moment :: earlier)
    (hafter : after ∈ later) :
    moment.state.Evolves after.state := by
  obtain ⟨front, between, hlater⟩ := List.append_of_mem hafter
  have hsuffix : after :: (between ++ moment :: earlier) <:+ m.trace := by
    refine ⟨front, ?_⟩
    rw [hsplit, hlater, List.append_assoc]
    rfl
  exact (h.throughout _ _ hsuffix).2 moment (by simp)

/-- A dispatch that is counted keeps a history orderly. -/
theorem Orderly.attempted
    (h : m.Orderly)
    (event : Event) :
    (m.attempted event).Orderly :=
  (h.retally _).emit _

end Machine

/-- A step keeps a history orderly. -/
theorem Step.orderly
    {settings : Settings}
    {a b : Machine P W N}
    (once : Step settings a b)
    (h : a.Orderly) :
    b.Orderly := by
  cases once with
  | register spec =>
      have henrolled :=
        h.update
          (fun s =>
            s.enrolled spec (spec.priority.getD settings.defaultPriority))
          (h.now.enrolled _ _) (Dispatcher.evolves_enrolled _ _ _)
      exact (((henrolled.emit _).retally _).emit _).emit _
  | unregister registration live =>
      have hwithdrawn :=
        h.update (fun s => s.withdrawn registration.id)
          (h.now.withdrawn _) (Dispatcher.evolves_withdrawn _ _)
      have hcounted :=
        (hwithdrawn.emit
          (.log (.bindingsRemoved registration.id
            (a.state.table.countOf registration.id)))).retally
          fun tally => tally.unregistered registration.enabled
      unfold Machine.unregistered
      cases registration.spec.cleanup with
      | none => exact hcounted
      | some cleanup => exact hcounted.emit _
  | toggle registration enabled live change =>
      apply Machine.Orderly.emit
      apply h.update
      · exact (h.now.setFlag registration.id enabled).retally _
      · exact (Dispatcher.evolves_setFlag _ _ _).trans
          (Dispatcher.evolves_retally _ _)
  | call registration handler event live enabled declared => exact h.emit _
  | fail script kind reason => exact (h.retally _).emit _
  | record entry plain => exact h.emit _
  | write store => exact ⟨h.now, h.throughout, h.past⟩
  | send => exact ⟨h.now, h.throughout, h.past⟩

/-- The history of every machine that a run can come to is orderly. -/
theorem Setup.Reaches.orderly
    {setup : Setup P W N}
    {m : Machine P W N}
    (h : setup.Reaches m) :
    m.Orderly := by
  induction h with
  | fresh store => exact Machine.orderly_fresh store
  | step _ once ih => exact once.orderly ih
  | began _ event ih => exact ih.attempted event
  | reported _ event result ih => exact ih.emit _

theorem Setup.Reaches.wellFormed
    {setup : Setup P W N}
    {m : Machine P W N}
    (h : setup.Reaches m) :
    m.state.WellFormed :=
  h.orderly.now

theorem Setup.reaches_runAll
    (setup : Setup P W N)
    (room : Nat)
    (codes : List (Code P W N R))
    (store : W) :
    setup.Reaches (setup.runAll room codes (.fresh store)).2 :=
  Setup.Reaches.course (.fresh store) (setup.course_runAll_fresh room codes store)

/-- The history of a run is orderly. -/
theorem Setup.orderly_runAll
    (setup : Setup P W N)
    (room : Nat)
    (codes : List (Code P W N R))
    (store : W) :
    (setup.runAll room codes (.fresh store)).2.Orderly :=
  (setup.reaches_runAll room codes store).orderly

/-!
A script that is restless: its handler registers another script, enables a third
and removes its own, whose cleanup panics.
-/

namespace Restless

/-- The script whose handler acts and whose cleanup panics. -/
def restless : Spec Bool :=
  ((Spec.named "restless").hook .timer true).withCleanup true

/-- A script that is disabled at first. -/
def quiet : Spec Bool :=
  ((Spec.named "quiet").hook .timer false).withAutoEnable false

/-- A script that runs before the others. -/
def eager : Spec Bool :=
  ((Spec.named "eager").hook .timer false).withPriority 0

/-- What the handlers and the cleanup do. -/
def behaviour : Behaviour Bool Unit Unit where
  onEvent := fun _ procedure _ =>
    if procedure then
      .call (.register eager) fun _ =>
      .call (.enable 2) fun _ =>
      .call (.unregister 1) fun _ =>
      .done .allow
    else
      .done .allow
  onRemoval := fun _ _ => .finish (.panicked ⟨some "gone"⟩)

/-- The setup in which they run. -/
def setup : Setup Bool Unit Unit where
  settings := {}
  notifier := .accepting
  behaviour := behaviour

/-- The host registers two scripts and raises one event. -/
def host : Code Bool Unit Unit Unit :=
  .call (.register restless) fun _ =>
  .call (.register quiet) fun _ =>
  .call (.dispatch (.timer 0)) fun _ =>
  .done ()

/-- The machine at the end. -/
def last : Machine Bool Unit Unit :=
  (setup.runAll 2 [host] (.fresh ())).2

end Restless

/--
**The hook table agrees with the registrations.**

In every run the table holds what the live registrations declare, sorted from
scratch: where a handler or a cleanup is about to begin, where a call is answered
or a panic leaves it, at every other moment of the history, and at the end.
-/
theorem table_agrees_with_registrations
    (setup : Setup P W N)
    (room : Nat)
    (codes : List (Code P W N R))
    (store : W) :
    let m := (setup.runAll room codes (.fresh store)).2
    m.state.TableAgrees ∧
      ∀ moment ∈ m.trace, moment.state.TableAgrees := by
  intro m
  have h : m.Orderly := setup.orderly_runAll room codes store
  constructor
  · exact h.now.tableAgrees
  · intro moment hmem
    obtain ⟨_, _, hwf, _⟩ := h.throughout.of_mem hmem
    exact hwf.tableAgrees

/--
When the cleanup of a script begins that removed itself, the table agrees with the
registrations, of which one was made while the script ran.
-/
theorem table_agrees_at_nested_cleanup :
    ∃ moment ∈ Restless.last.trace,
      moment.record = .cleanupBegan 1 true ∧
        moment.state.table.get .timer =
          [⟨3, 0, false⟩, ⟨2, 100, false⟩] ∧
        moment.state.TableAgrees := by
  have hrecord :
      Restless.last.trace[8]?.map Moment.record =
        some (.cleanupBegan 1 true) := by
    cbv
  have hchain :
      Restless.last.trace[8]?.map
          (fun moment => moment.state.table.get .timer) =
        some [⟨3, 0, false⟩, ⟨2, 100, false⟩] := by
    cbv
  obtain ⟨moment, hmoment, hrecord⟩ := Option.map_eq_some_iff.mp hrecord
  rw [hmoment] at hchain
  have hmem := List.mem_of_getElem? hmoment
  refine ⟨moment, hmem, hrecord, Option.some.inj hchain, ?_⟩
  unfold Restless.last at hmem
  exact (table_agrees_with_registrations _ _ _ _).2 moment hmem

end ScriptHub
