import ScriptHub.Proofs.Run.Lifeline

/-!
# What ids tell

An id is the only hold that a script, a user or a host has on a registration.  Here
the life of ids is put together with the calls that take one: what they answer, and
what they change, in whatever code they are made and however deep it is nested.

**Results.**
* `Course.foretells`: what is known of an id now holds of it later.
* `Run.ignoresId`: a call about an id that is not live finds and changes nothing.
* `Setup.Reaches.answersById`: registering gives the next number, and removing a live
  registration ends its life at once.
* `ids_are_a_faithful_history`: all of this in every run.
-/

namespace ScriptHub

variable {P W N R : Type}

/--
What is known of an id in one machine holds in a later one: if it was issued and is not
live, it is not live later; if it is live, it is later under the same terms or not at
all.
-/
structure Machine.Foretells
    (m later : Machine P W N)
    (script : ScriptId) :
    Prop where
  gone :
    script ∈ m.issued →
    m.state.terms? script = none →
    later.state.terms? script = none
  kept :
    ∀ {terms},
      m.state.terms? script = some terms →
      later.state.terms? script = some terms ∨
        later.state.terms? script = none

/-- Nothing but the trace differs. -/
structure Machine.Untouched (m last : Machine P W N) : Prop where
  state : last.state = m.state
  store : last.store = m.store
  sent : last.sent = m.sent

/-- Calls about an id find nothing and change nothing. -/
structure Machine.IgnoresId
    (m : Machine P W N)
    (setup : Setup P W N)
    (scripts : Scripts P W N)
    (script : ScriptId) :
    Prop where
  unregister :
    ∃ last,
      Run.answer setup scripts (.unregister script) m = (.returned false, last) ∧
        m.Untouched last
  enable :
    ∃ last,
      Run.answer setup scripts (.enable script) m = (.returned false, last) ∧
        m.Untouched last
  disable :
    ∃ last,
      Run.answer setup scripts (.disable script) m = (.returned false, last) ∧
        m.Untouched last
  info :
    ∃ last,
      Run.answer setup scripts (.info script) m = (.returned none, last) ∧
        m.Untouched last

/--
What the calls that make, remove or name a registration do in a machine.

A registration gets the next number, and is live from then on.  A removal of a live
registration takes place before its cleanup, however that ends, and is answered so if it
is answered.  An id that is not live is good for nothing.
-/
structure Machine.AnswersById
    (m : Machine P W N)
    (setup : Setup P W N)
    (scripts : Scripts P W N) :
    Prop where
  register :
    ∀ spec,
      ∃ last,
        Run.answer setup scripts (.register spec) m =
            (.returned (registrationsIn m.trace + 1), last) ∧
          m.state.terms? (registrationsIn m.trace + 1) = none ∧
          last.state.terms? (registrationsIn m.trace + 1) =
            some (spec, spec.priority.getD setup.settings.defaultPriority)
  unregister :
    ∀ {registration},
      m.state.find? registration.id = some registration →
      let ending := Run.answer setup scripts (.unregister registration.id) m
      (m.unregistered registration).trace <:+ ending.2.trace ∧
        (m.unregistered registration).state.terms? registration.id = none ∧
        ending.2.state.terms? registration.id = none ∧
        ∀ removed, ending.1 = .returned removed → removed = true
  stale :
    ∀ {script},
      m.state.terms? script = none → m.IgnoresId setup scripts script

section Continuation

variable {setup : Setup P W N} {m later : Machine P W N}

/-- The terms of an id are kept while a dispatcher evolves, or the id is gone. -/
theorem Dispatcher.Evolves.terms?
    {earlier later : Dispatcher P}
    (h : earlier.Evolves later)
    {script : ScriptId}
    (hissued : script < earlier.nextId) :
    later.terms? script = earlier.terms? script ∨ later.terms? script = none := by
  cases hfind : later.find? script with
  | none => exact .inr (Dispatcher.terms?_eq_none.mpr hfind)
  | some registration =>
      obtain ⟨before, hbefore, hspec, hpriority⟩ := h.kept hissued hfind
      left
      rw [Dispatcher.terms?, Dispatcher.terms?, hfind, hbefore, Option.map_some,
        Option.map_some, hspec, hpriority]

/-- What is known of an id now holds of it later. -/
theorem Course.foretells
    (course : Course setup m later)
    (reached : setup.Reaches m)
    (script : ScriptId) :
    m.Foretells later script := by
  have hwf := reached.wellFormed
  have hnumbered := reached.numbered
  constructor
  · intro hissued hgone
    have hlt := (hnumbered.mem_issued.mp hissued).2
    rcases course.evolves.terms? hlt with hsame | hnone
    · exact hsame.trans hgone
    · exact hnone
  · intro terms hlive
    have hlt : script < m.state.nextId := by
      by_contra hnew
      have hnone := hwf.terms?_of_new (Nat.le_of_not_lt hnew)
      rw [hnone] at hlive
      exact absurd hlive (by simp)
    rcases course.evolves.terms? hlt with hsame | hnone
    · exact .inl (hsame.trans hlive)
    · exact .inr hnone

end Continuation

section Calls

variable (setup : Setup P W N) (scripts : Scripts P W N) {m : Machine P W N}

/-- A call about an id that is not live finds and changes nothing. -/
theorem Run.ignoresId
    {script : ScriptId}
    (stale : m.state.terms? script = none) :
    m.IgnoresId setup scripts script := by
  have unknown := Dispatcher.terms?_eq_none.mp stale
  constructor
  · refine ⟨(m.emit (.log (.unregisterUnknown script))).emit
      (.answered (.unregister script) false), ?_, ⟨rfl, rfl, rfl⟩⟩
    simp only [answer, perform, bind, andThen, observe,
      unregister_of_unknown _ _ unknown]
    rfl
  · refine ⟨m.emit (.answered (.enable script) false), ?_, ⟨rfl, rfl, rfl⟩⟩
    simp only [answer, perform, setEnabled, bind, andThen, observe, state, unknown]
    rfl
  · refine ⟨m.emit (.answered (.disable script) false), ?_, ⟨rfl, rfl, rfl⟩⟩
    simp only [answer, perform, setEnabled, bind, andThen, observe, state, unknown]
    rfl
  · refine ⟨m.emit (.answered (.info script) none), ?_, ⟨rfl, rfl, rfl⟩⟩
    have hinfo : m.state.info? script = none := by
      rw [Dispatcher.info?, unknown, Option.map_none]
    simp only [answer, perform, bind, andThen, observe, state, pure, give, hinfo]
    rfl

/-- Answering a removal ends as the removal does, and only adds its record. -/
theorem Run.answer_unregister
    (script : ScriptId)
    (m : Machine P W N) :
    let removal := unregister setup.settings scripts script m
    let ending := answer setup scripts (.unregister script) m
    ending.1 = removal.1 ∧
      ending.2.state = removal.2.state ∧
      removal.2.trace <:+ ending.2.trace := by
  simp only [answer, perform, bind, andThen, observe]
  generalize unregister setup.settings scripts script m = removal
  obtain ⟨flow, after⟩ := removal
  cases flow with
  | returned removed => exact ⟨rfl, rfl, List.suffix_cons _ _⟩
  | unwinding payload => exact ⟨rfl, rfl, List.suffix_cons _ _⟩
  | exhausted => exact ⟨rfl, rfl, List.suffix_refl _⟩

/-- What calls answer in every machine that a run can come to. -/
theorem Setup.Reaches.answersById
    {setup : Setup P W N}
    (reached : setup.Reaches m)
    (room level : Nat) :
    m.AnswersById setup (setup.scripts room level) := by
  have hwf := reached.wellFormed
  have hnext := reached.numbered.next
  constructor
  · intro spec
    refine ⟨m.registered setup.settings spec, ?_, ?_, ?_⟩
    · rw [Run.answer_register, hnext]
    · exact hwf.terms?_of_new (Nat.le_of_eq hnext)
    · rw [← hnext]
      exact (hwf.terms?_enrolled spec _ _).trans (if_pos rfl)
  · intro registration live
    obtain ⟨hflow, hstate, htrace⟩ :=
      Run.answer_unregister setup (setup.scripts room level) registration.id m
    obtain ⟨hbegan, hgone⟩ := Run.unregister_snd_of_live setup room level hwf live
    refine ⟨hbegan.trans htrace, ?_, ?_, ?_⟩
    · rw [Machine.unregistered_state]
      exact (m.state.terms?_withdrawn registration.id registration.id).trans
        (if_pos rfl)
    · rw [hstate]
      exact Dispatcher.terms?_eq_none.mpr hgone
    · intro removed hreturned
      rw [hflow] at hreturned
      have hanswer := Run.eq_isLive_of_unregister (Prod.ext hreturned rfl)
      rw [hanswer, Dispatcher.isLive, live]
      rfl
  · intro script stale
    exact Run.ignoresId setup _ stale

end Calls

/-!
A script that clings to its id: its handler removes it, and then it, its cleanup and
the host go on to use the id, which is good for nothing any more.
-/

namespace Clinging

/-- The script that clings to its id. -/
def keeper : Spec Bool :=
  ((Spec.named "keeper").hook .timer true).withCleanup false

/-- The script that is registered when the first is gone. -/
def heir : Spec Bool :=
  Spec.named "heir"

/-- What the handler and the cleanup do. -/
def behaviour : Behaviour Bool Unit Bool where
  onEvent := fun _ _ _ =>
    .call (.unregister 1) fun _ =>
    .call (.enable 1) fun found =>
    .note found <|
    .done .allow
  onRemoval := fun _ _ =>
    .call (.register heir) fun _ =>
    .call (.unregister 1) fun found =>
    .note found <|
    .done ()

/-- The setup in which it runs. -/
def setup : Setup Bool Unit Bool where
  settings := {}
  notifier := .accepting
  behaviour := behaviour

/-- The host registers it, raises an event, and registers another script. -/
def host : Code Bool Unit Bool ScriptId :=
  .call (.register keeper) fun _ =>
  .call (.dispatch (.timer 0)) fun _ =>
  .ask (.register heir)

/-- The machine at the end. -/
def last : Machine Bool Unit Bool :=
  (setup.runAll 3 [host] (.fresh ())).2

end Clinging

/--
**Ids are a faithful history.**

In every run the registrations that take effect are given the ids 1, 2, 3 and so on.
Each id that was issued divides the trace into what was before it was live, its life,
which starts with the registration, and what comes after it, which starts with the
removal; all through its life its name, its priority and its declared kinds are the
same.  Whatever the run goes on to do, an id that is gone is never live again.  As long
as an id is not live, calls about it find nothing and change nothing, in user code of
whatever depth.
-/
theorem ids_are_a_faithful_history (setup : Setup P W N) :
    (∀ (room : Nat) (codes : List (Code P W N R)) (store : W),
      setup.Reaches (setup.runAll room codes (.fresh store)).2) ∧
    ∀ m, setup.Reaches m →
      m.issued = List.range' 1 (registrationsIn m.trace) ∧
      (∀ script, m.Life setup.settings script) ∧
      (∀ later, Course setup m later → ∀ script, m.Foretells later script) ∧
      ∀ room level, m.AnswersById setup (setup.scripts room level) := by
  refine ⟨setup.reaches_runAll, ?_⟩
  intro m reached
  refine ⟨reached.numbered.issued, reached.lives, ?_, reached.answersById⟩
  intro later course script
  exact course.foretells reached script

/--
The clinging script had the id 1; what was registered in its cleanup and by the host
has others.  Its own calls were answered like those of the host at the end.
-/
theorem ids_of_clinging_script :
    Clinging.last.issued = [1, 2, 3] ∧
      Clinging.last.Life {} 1 ∧
      Clinging.last.IgnoresId Clinging.setup (Clinging.setup.scripts 3 0) 1 ∧
      (Clinging.last.trace.filterMap fun moment =>
        match moment.record with
        | .note found => some found
        | _ => none) = [false, false] := by
  obtain ⟨ends, faithful⟩ :=
    ids_are_a_faithful_history (R := ScriptId) Clinging.setup
  obtain ⟨issued, lives, _, answers⟩ := faithful _ (ends 3 [Clinging.host] ())
  refine ⟨?_, lives 1, ?_, ?_⟩
  · unfold Clinging.last
    rw [issued]
    decide +kernel
  · apply (answers 3 0).stale
    decide +kernel
  · decide +kernel

end ScriptHub
