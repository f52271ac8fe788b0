import ScriptHub.Proofs.Run.RunCourse

/-!
# How a chain is walked

The chain of an event is read once and then walked binding by binding, while the
handlers change the registrations.  A visit says what happened to one binding: in
which machine it was reached, how its handler ended if it was called, and which
machine it left.

**Results.**
* `Walks`: the walks along a chain that come to an end.
* `walks_of_walk`: a walk that returns is one of these.
* `Walks.sound`: a binding is called exactly if its registration is live and
  enabled when it is reached, and otherwise leaves the machine as it is.
-/

namespace ScriptHub

variable {P W N α β : Type}

/--
What happened to one binding of a chain: the machine in which it was reached, how its
handler ended if it was called, and the machine that was left.
-/
structure Visit (P W N : Type) where
  binding : Binding P
  reached : Machine P W N
  outcome : Option (Except HandlerError Verdict)
  left : Machine P W N

/-- The code of a handler as a visit runs it: on the event, from the record of its start. -/
def Visit.handling
    (scripts : Scripts P W N)
    (event : Event)
    (visit : Visit P W N) :
    Flow (Except String Verdict) × Machine P W N :=
  scripts.handle visit.binding.handler event
    (visit.reached.emit
      (.handlerBegan visit.binding.script visit.binding.handler event))

/-- The walks along a chain that come to an end. -/
inductive Walks
    (settings : Settings)
    (scripts : Scripts P W N)
    (event : Event) :
    Machine P W N → List (Binding P) → List (Visit P W N) →
    DispatchResult → Machine P W N → Prop
  | done
      (m : Machine P W N) :
      Walks settings scripts event m [] [] {} m
  | pass
      {m last : Machine P W N}
      {binding : Binding P}
      {chain : List (Binding P)}
      {visits : List (Visit P W N)}
      {result : DispatchResult}
      (idle : ¬ m.state.IsEnabled binding.script)
      (rest : Walks settings scripts event m chain visits result last) :
      Walks settings scripts event m (binding :: chain)
        (⟨binding, m, none, m⟩ :: visits) result last
  | allow
      {m after last : Machine P W N}
      {binding : Binding P}
      {chain : List (Binding P)}
      {visits : List (Visit P W N)}
      {result : DispatchResult}
      (due : m.state.IsDue event.kind binding)
      (called :
        Run.invoke settings scripts event binding m =
          (.returned (.ok .allow), after))
      (rest : Walks settings scripts event after chain visits result last) :
      Walks settings scripts event m (binding :: chain)
        (⟨binding, m, some (.ok .allow), after⟩ :: visits)
        (result.afterAllow binding.script) last
  | fail
      {m after last : Machine P W N}
      {binding : Binding P}
      {chain : List (Binding P)}
      {visits : List (Visit P W N)}
      {result : DispatchResult}
      {reason : HandlerError}
      (entry : LogEntry)
      (due : m.state.IsDue event.kind binding)
      (called :
        Run.invoke settings scripts event binding m =
          (.returned (.error reason), after))
      (rest :
        Walks settings scripts event (after.emit (.log entry)) chain visits
          result last) :
      Walks settings scripts event m (binding :: chain)
        (⟨binding, m, some (.error reason), after.emit (.log entry)⟩ :: visits)
        (result.afterFailure binding.script reason) last
  | block
      {m after : Machine P W N}
      {binding : Binding P}
      {chain : List (Binding P)}
      (entry : LogEntry)
      (due : m.state.IsDue event.kind binding)
      (called :
        Run.invoke settings scripts event binding m =
          (.returned (.ok .block), after)) :
      Walks settings scripts event m (binding :: chain)
        [⟨binding, m, some (.ok .block), after.emit (.log entry)⟩]
        (.blocked binding.script) (after.emit (.log entry))

namespace Run

/-- A handler that was called ran on the event, and its end was taken account of. -/
theorem handle_of_invoke
    {settings : Settings}
    {scripts : Scripts P W N}
    {event : Event}
    {binding : Binding P}
    {m after : Machine P W N}
    {outcome : Except HandlerError Verdict}
    (called :
      invoke settings scripts event binding m = (.returned outcome, after)) :
    let ending :=
      scripts.handle binding.handler event
        (m.emit (.handlerBegan binding.script binding.handler event))
    ending.1.outcome? settings = some outcome ∧
      after = ending.2.ended binding.script event.kind outcome := by
  intro ending
  have hsettled :
      settleHandler settings binding.script event.kind ending.1 ending.2 =
        (.returned outcome, after) :=
    called
  generalize ending = reached at hsettled ⊢
  obtain ⟨flow, stop⟩ := reached
  cases flow with
  | returned value =>
      cases value with
      | ok verdict =>
          cases hsettled
          exact ⟨rfl, rfl⟩
      | error reason =>
          cases hsettled
          exact ⟨rfl, rfl⟩
  | unwinding payload =>
      simp only [settleHandler] at hsettled
      split_ifs at hsettled with hcatch
      · cases hsettled
        exact ⟨if_pos hcatch, rfl⟩
      · exact absurd (congrArg Prod.fst hsettled) (by simp [unwind, emit, bind, andThen])
  | exhausted => exact absurd (congrArg Prod.fst hsettled) (by simp [settleHandler, exhaust])

variable {setup : Setup P W N} {room level : Nat}

/-- A walk along upheld bindings that returns is a walk that comes to an end. -/
theorem walks_of_walk
    {event : Event}
    {chain : List (Binding P)}
    {m last : Machine P W N}
    {result : DispatchResult}
    (hwf : m.state.WellFormed)
    (hupheld : ∀ binding ∈ chain, m.state.Upholds event.kind binding)
    (hwalk :
      walk setup.settings (setup.scripts room level) event chain m =
        (.returned result, last)) :
    ∃ visits,
      Walks setup.settings (setup.scripts room level) event m chain visits
        result last := by
  induction chain generalizing m result with
  | nil =>
      obtain ⟨hresult, rfl⟩ := Prod.mk.inj hwalk
      obtain rfl := Flow.returned.inj hresult
      exact ⟨[], .done m⟩
  | cons binding chain ih =>
      have hrest :
          ∀ {later : Machine P W N} {inner : DispatchResult},
            Course setup m later →
            walk setup.settings (setup.scripts room level) event chain later =
              (.returned inner, last) →
            ∃ visits,
              Walks setup.settings (setup.scripts room level) event later chain
                visits inner last := by
        intro later inner course hlater
        apply ih (course.wellFormed hwf) _ hlater
        intro other hother
        exact (hupheld other (List.mem_cons_of_mem _ hother)).evolves
          course.evolves
      by_cases henabled : m.state.IsEnabled binding.script
      · obtain ⟨registration, hlive, henabled⟩ := henabled
        have hown := hupheld binding (by simp)
        have due : m.state.IsDue event.kind binding :=
          ⟨registration, hlive, henabled, hown.declared hlive⟩
        rw [walk_cons_of_enabled _ _ _ chain hlive henabled] at hwalk
        obtain ⟨outcome, after, called, hproceed⟩ := bind_eq_returned hwalk
        have course : Course setup m after := by
          let call : HandlerCall setup := ⟨room, level, binding, event, m⟩
          have hafter : call.settled = after := congrArg Prod.snd called
          rw [← hafter]
          exact (call.course_began due).trans (call.course hwf)
        cases outcome with
        | error reason =>
            obtain ⟨_, logged, hlog, hproceed⟩ := bind_eq_returned hproceed
            obtain ⟨_, rfl⟩ := Prod.mk.inj hlog
            obtain ⟨inner, final, hinner, hreport⟩ := bind_eq_returned hproceed
            obtain ⟨hresult, rfl⟩ := Prod.mk.inj hreport
            obtain rfl := Flow.returned.inj hresult
            have logged := course.trans (.step (.record after
              (.log (.handlerFailed event.kind binding.script
                registration.spec.name reason)) rfl))
            obtain ⟨visits, walks⟩ := hrest logged hinner
            exact ⟨_, .fail _ due called walks⟩
        | ok verdict =>
            cases verdict with
            | allow =>
                obtain ⟨inner, final, hinner, hreport⟩ :=
                  bind_eq_returned hproceed
                obtain ⟨hresult, rfl⟩ := Prod.mk.inj hreport
                obtain rfl := Flow.returned.inj hresult
                obtain ⟨visits, walks⟩ := hrest course hinner
                exact ⟨_, .allow due called walks⟩
            | block =>
                obtain ⟨_, logged, hlog, hreport⟩ := bind_eq_returned hproceed
                obtain ⟨_, rfl⟩ := Prod.mk.inj hlog
                obtain ⟨hresult, rfl⟩ := Prod.mk.inj hreport
                obtain rfl := Flow.returned.inj hresult
                exact ⟨_, .block _ due called⟩
      · rw [walk_cons_of_idle _ _ _ chain henabled] at hwalk
        obtain ⟨visits, walks⟩ := hrest (.stay m) hwalk
        exact ⟨_, .pass henabled walks⟩

end Run

/-- Whether a visit ended with a handler that blocked. -/
def Visit.IsBlock (visit : Visit P W N) : Prop :=
  visit.outcome = some (.ok .block)

/-- The visits lead from one machine to another without a gap. -/
def Visit.Linked :
    Machine P W N → List (Visit P W N) → Machine P W N → Prop
  | m, [], last => m = last
  | m, visit :: rest, last => visit.reached = m ∧ Linked visit.left rest last

/--
The visits go on to the end of a chain or to the first handler that blocks.
-/
def Visit.Complete
    (chain : List (Binding P))
    (visits : List (Visit P W N)) :
    Prop :=
  (visits.map Visit.binding = chain ∧ ∀ visit ∈ visits, ¬ visit.IsBlock) ∨
    ∃ front final,
      visits = front ++ [final] ∧
        final.IsBlock ∧ ∀ visit ∈ front, ¬ visit.IsBlock

/-- A visit in front that does not block is followed by the others. -/
theorem Visit.Complete.cons
    {chain : List (Binding P)}
    {visits : List (Visit P W N)}
    (h : Complete chain visits)
    {visit : Visit P W N}
    (hfirst : ¬ visit.IsBlock) :
    Complete (visit.binding :: chain) (visit :: visits) := by
  rcases h with ⟨hall, hopen⟩ | ⟨front, final, rfl, hblock, hopen⟩
  · left
    constructor
    · rw [List.map_cons, hall]
    · exact List.forall_mem_cons.mpr ⟨hfirst, hopen⟩
  · right
    refine ⟨visit :: front, final, rfl, hblock, ?_⟩
    exact List.forall_mem_cons.mpr ⟨hfirst, hopen⟩

/--
What holds of a single visit.

The handler is called exactly if its registration is live and enabled, and it is then the
declared one; otherwise the machine is left as it is.  A handler that is called runs on
the event, its end is taken account of as the outcome tells, and at most a log record
follows.
-/
structure Visit.Sound
    (settings : Settings)
    (scripts : Scripts P W N)
    (event : Event)
    (visit : Visit P W N) :
    Prop where
  called_iff :
    visit.outcome ≠ none ↔
      visit.reached.state.IsEnabled visit.binding.script
  passed : visit.outcome = none → visit.left = visit.reached
  declared :
    visit.outcome ≠ none → visit.reached.state.IsDue event.kind visit.binding
  called :
    ∀ outcome,
      visit.outcome = some outcome →
      ∃ after,
        Run.invoke settings scripts event visit.binding visit.reached =
            (.returned outcome, after) ∧
          (visit.left = after ∨ ∃ entry, visit.left = after.emit (.log entry))
  handled :
    ∀ outcome,
      visit.outcome = some outcome →
      let ending := visit.handling scripts event
      let after := ending.2.ended visit.binding.script event.kind outcome
      ending.1.outcome? settings = some outcome ∧
        (visit.left = after ∨ ∃ entry, visit.left = after.emit (.log entry))

section Laws

variable {settings : Settings} {scripts : Scripts P W N} {event : Event}
variable {m last : Machine P W N} {chain : List (Binding P)}
variable {visits : List (Visit P W N)} {result : DispatchResult}

theorem Visit.sound_of_idle
    {binding : Binding P}
    (idle : ¬ m.state.IsEnabled binding.script) :
    Visit.Sound settings scripts event ⟨binding, m, none, m⟩ where
  called_iff := by
    constructor
    · intro hcalled
      exact absurd rfl hcalled
    · intro henabled
      exact absurd henabled idle
  passed := by
    intro _
    rfl
  declared := by
    intro hcalled
    exact absurd rfl hcalled
  called := by
    intro outcome houtcome
    exact absurd houtcome (by simp)
  handled := by
    intro outcome houtcome
    exact absurd houtcome (by simp)

theorem Visit.sound_of_due
    {after left : Machine P W N}
    {binding : Binding P}
    {outcome : Except HandlerError Verdict}
    (due : m.state.IsDue event.kind binding)
    (called :
      Run.invoke settings scripts event binding m =
        (.returned outcome, after))
    (hleft : left = after ∨ ∃ entry, left = after.emit (.log entry)) :
    Visit.Sound settings scripts event ⟨binding, m, some outcome, left⟩ where
  called_iff := by
    constructor
    · intro _
      exact due.isEnabled
    · intro _
      simp
  passed := by
    intro hnone
    exact absurd hnone (by simp)
  declared := by
    intro _
    exact due
  called := by
    intro other hother
    obtain rfl := Option.some.inj hother
    exact ⟨after, called, hleft⟩
  handled := by
    intro other hother
    obtain rfl := Option.some.inj hother
    obtain ⟨hends, rfl⟩ := Run.handle_of_invoke called
    exact ⟨hends, hleft⟩

/-- Every visit of a walk is sound. -/
theorem Walks.sound
    (walks : Walks settings scripts event m chain visits result last) :
    ∀ visit ∈ visits, visit.Sound settings scripts event := by
  induction walks with
  | done m => simp
  | pass idle _ ih =>
      exact List.forall_mem_cons.mpr ⟨Visit.sound_of_idle idle, ih⟩
  | allow due called _ ih =>
      exact List.forall_mem_cons.mpr
        ⟨Visit.sound_of_due due called (.inl rfl), ih⟩
  | fail entry due called _ ih =>
      exact List.forall_mem_cons.mpr
        ⟨Visit.sound_of_due due called (.inr ⟨entry, rfl⟩), ih⟩
  | block entry due called =>
      exact List.forall_mem_singleton.mpr
        (Visit.sound_of_due due called (.inr ⟨entry, rfl⟩))

/-- A walk visits the bindings in the order of the chain. -/
theorem Walks.inOrder
    (walks : Walks settings scripts event m chain visits result last) :
    visits.map Visit.binding <+: chain := by
  induction walks with
  | done m => exact List.prefix_refl _
  | pass _ _ ih => exact (List.prefix_cons_inj _).mpr ih
  | allow _ _ _ ih => exact (List.prefix_cons_inj _).mpr ih
  | fail _ _ _ _ ih => exact (List.prefix_cons_inj _).mpr ih
  | block _ _ _ => exact (List.prefix_cons_inj _).mpr List.nil_prefix

/-- A walk goes on to the end of the chain or to the first handler that blocks. -/
theorem Walks.complete
    (walks : Walks settings scripts event m chain visits result last) :
    Visit.Complete chain visits := by
  induction walks with
  | done m => exact .inl ⟨rfl, by simp⟩
  | pass _ _ ih => exact ih.cons (by simp [Visit.IsBlock])
  | allow _ _ _ ih => exact ih.cons (by simp [Visit.IsBlock])
  | fail _ _ _ _ ih => exact ih.cons (by simp [Visit.IsBlock])
  | block _ _ _ => exact .inr ⟨[], _, rfl, rfl, by simp⟩

/-- A walk has no gaps. -/
theorem Walks.linked
    (walks : Walks settings scripts event m chain visits result last) :
    Visit.Linked m visits last := by
  induction walks with
  | done m => rfl
  | pass _ _ ih => exact ⟨rfl, ih⟩
  | allow _ _ _ ih => exact ⟨rfl, ih⟩
  | fail _ _ _ _ ih => exact ⟨rfl, ih⟩
  | block _ _ _ => exact ⟨rfl, rfl⟩

/-- The verdict of a walk is to block exactly if a handler that was called blocked. -/
theorem Walks.verdict_iff
    (walks : Walks settings scripts event m chain visits result last) :
    result.verdict = .block ↔ ∃ visit ∈ visits, visit.IsBlock := by
  induction walks with
  | done m => simp
  | pass _ _ ih => simpa [Visit.IsBlock] using ih
  | allow _ _ _ ih =>
      simpa [Visit.IsBlock, DispatchResult.afterAllow] using ih
  | fail _ _ _ _ ih =>
      simpa [Visit.IsBlock, DispatchResult.afterFailure] using ih
  | block _ _ _ => simp [Visit.IsBlock, DispatchResult.blocked]

/-- The report of a walk names the registrations whose handlers were called. -/
theorem Walks.invoked
    (walks : Walks settings scripts event m chain visits result last) :
    result.invoked =
      (visits.filter fun visit => visit.outcome.isSome).map
        fun visit => visit.binding.script := by
  induction walks with
  | done m => rfl
  | pass _ _ ih => simpa using ih
  | allow _ _ _ ih => simp [DispatchResult.afterAllow, ih]
  | fail _ _ _ _ ih => simp [DispatchResult.afterFailure, ih]
  | block _ _ _ => simp [DispatchResult.blocked]

end Laws
end ScriptHub
