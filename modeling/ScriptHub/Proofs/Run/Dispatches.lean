import ScriptHub.Proofs.Run.History
import ScriptHub.Proofs.Run.Walk

/-!
# Every dispatch of a run

A dispatch is found in the trace by the record with which it began.  What is said
of it here holds however deep it is nested and whatever its handlers do to the
registrations, other dispatches included.

**Results.**
* `Span.call_of_began`, `Setup.call_of_began`: every such record belongs to a dispatch
  of the span or of the run, and what is known of its end.
* `Course.call_of_answered`: every report that was answered is that of a dispatch
  of the course.
* `DispatchCall.follows`: a dispatch that returns walked its chain.
* `dispatches_follow_their_chains`: both together, for every run.
-/

namespace ScriptHub

variable {P W N R : Type}

section Traces

variable {settings : Settings} {setup : Setup P W N} {a b : Machine P W N}

/-- Whether a record says that a dispatch began or what it reported. -/
def Record.isOfDispatch : Record P N → Bool
  | .dispatchBegan _ => true
  | .answered (.dispatch _) _ => true
  | _ => false

theorem Record.isOfDispatch_of_isPlain
    {entry : Record P N}
    (plain : entry.isPlain = true) :
    entry.isOfDispatch = false := by
  cases entry with
  | dispatchBegan event => exact absurd plain (by simp [isPlain])
  | answered call answer =>
      cases call with
      | dispatch event => exact absurd plain (by simp [isPlain])
      | _ => rfl
  | _ => rfl

variable {state : Dispatcher P} {earlier : List (Moment P N)}

/-- A step writes no record of a dispatch. -/
theorem Step.suffix_of_suffix
    (once : Step settings a b)
    {wanted : Record P N}
    (hwanted : wanted.isOfDispatch = true)
    (h : ⟨wanted, state⟩ :: earlier <:+ b.trace) :
    ⟨wanted, state⟩ :: earlier <:+ a.trace := by
  cases once with
  | register spec =>
      have hcounted := suffix_of_suffix_cons hwanted rfl h
      have hbound := suffix_of_suffix_cons hwanted rfl hcounted
      exact suffix_of_suffix_cons hwanted rfl hbound
  | unregister registration live =>
      unfold Machine.unregistered at h
      cases hcleanup : registration.spec.cleanup with
      | none =>
          rw [hcleanup] at h
          exact suffix_of_suffix_cons hwanted rfl h
      | some cleanup =>
          rw [hcleanup] at h
          have hcounted := suffix_of_suffix_cons hwanted rfl h
          exact suffix_of_suffix_cons hwanted rfl hcounted
  | toggle registration enabled live change =>
      exact suffix_of_suffix_cons hwanted rfl h
  | call registration handler event live enabled declared =>
      exact suffix_of_suffix_cons hwanted rfl h
  | fail script kind reason => exact suffix_of_suffix_cons hwanted rfl h
  | record entry plain =>
      exact suffix_of_suffix_cons hwanted
        (Record.isOfDispatch_of_isPlain plain) h
  | write store => exact h
  | send => exact h

variable {event : Event} {result : DispatchResult}

/--
A dispatch began with a given record, in a dispatcher that was well-formed, and
ended in a given machine at the latest.
-/
structure DispatchCall.Began
    (call : DispatchCall setup)
    (event : Event)
    (state : Dispatcher P)
    (earlier : List (Moment P N))
    (m : Machine P W N) :
    Prop where
  same : call.event = event
  past : call.start.trace = earlier
  counted : (call.start.attempted event).state = state
  sound : call.start.state.WellFormed
  ended : call.stop.trace <:+ m.trace

/-- A dispatch returned a report, and the answer was recorded at its end. -/
structure DispatchCall.Answered
    (call : DispatchCall setup)
    (event : Event)
    (result : DispatchResult)
    (state : Dispatcher P)
    (earlier : List (Moment P N)) :
    Prop where
  same : call.event = event
  past : call.stop.trace = earlier
  left : call.stop.state = state
  sound : call.start.state.WellFormed
  returned : call.flow = .returned result

/-- The end of a handler is no record of a dispatch. -/
theorem HandlerCall.suffix_of_settled
    (call : HandlerCall setup)
    {wanted : Record P N}
    (hwanted : wanted.isOfDispatch = true)
    (h : ⟨wanted, state⟩ :: earlier <:+ call.settled.trace) :
    ⟨wanted, state⟩ :: earlier <:+ call.stop.trace := by
  rcases call.settled_cases with
    ⟨outcome, _, _, hsettled⟩ | ⟨payload, _, _, hsettled⟩ | ⟨_, _, hsettled⟩
  · rw [hsettled] at h
    cases outcome with
    | ok verdict => exact suffix_of_suffix_cons hwanted rfl h
    | error reason => exact suffix_of_suffix_cons hwanted rfl h
  · rw [hsettled] at h
    exact suffix_of_suffix_cons hwanted rfl h
  · rwa [hsettled] at h

/--
A machine tells of a dispatch that began with a given record.  If the room gave out in
it, it did so in what the dispatch is a part of.
-/
def Machine.TellsDispatch
    (setup : Setup P W N)
    (gaveOut : Prop)
    (m : Machine P W N)
    (event : Event)
    (state : Dispatcher P)
    (earlier : List (Moment P N)) :
    Prop :=
  ∃ call : DispatchCall setup,
    call.Began event state earlier m ∧ (call.owing = none → gaveOut)

theorem Machine.TellsDispatch.later
    {part whole : Prop}
    (h : a.TellsDispatch setup part event state earlier)
    (hsuffix : a.trace <:+ b.trace)
    (hroom : part → whole) :
    b.TellsDispatch setup whole event state earlier := by
  obtain ⟨call, began, hgaveOut⟩ := h
  exact
    ⟨call, { began with ended := began.ended.trans hsuffix },
      fun howing => hroom (hgaveOut howing)⟩

/-- A dispatch that began in a span is one of its dispatches. -/
theorem Span.call_of_began
    {owed : Option Nat}
    (span : Span setup a owed b)
    (h : ⟨.dispatchBegan event, state⟩ :: earlier <:+ b.trace) :
    ⟨.dispatchBegan event, state⟩ :: earlier <:+ a.trace ∨
      b.TellsDispatch setup (owed = none) event state earlier := by
  have wanted :
      (Record.dispatchBegan event : Record P N).isOfDispatch = true := by
    rfl
  induction span with
  | stay m => exact .inl h
  | cut m => exact .inl h
  | trans _ second ihfirst ihsecond =>
      rcases ihsecond h with hold | hcall
      · rcases ihfirst hold with hold | hcall
        · exact .inl hold
        · exact .inr (hcall.later second.course.trace_suffix (by simp))
      · exact .inr (hcall.later (List.suffix_refl _) (by simp))
  | register m spec =>
      have once : Step setup.settings m (m.registered setup.settings spec) :=
        .register m spec
      exact .inl (once.suffix_of_suffix wanted h)
  | toggle m registration enabled live change =>
      exact .inl (suffix_of_suffix_cons wanted rfl h)
  | record m entry quiet =>
      have hother :=
        Record.isOfDispatch_of_isPlain (Record.isPlain_of_isQuiet quiet)
      exact .inl (suffix_of_suffix_cons wanted hother h)
  | write m store => exact .inl h
  | send m => exact .inl h
  | handler call due begun _ ih =>
      rcases ih (call.suffix_of_settled wanted h) with hold | hcall
      · exact .inl (suffix_of_suffix_cons wanted rfl hold)
      · exact .inr (hcall.later call.course_settled.trace_suffix id)
  | dispatch call sound _ ih =>
      rcases ih h with hold | hcall
      · rcases List.suffix_cons_iff.mp hold with heq | hold
        · obtain ⟨hmoment, rfl⟩ := List.cons.inj heq
          injection hmoment with hrecord hstate
          injection hrecord with hevent
          subst hevent hstate
          exact .inr ⟨call, ⟨rfl, rfl, rfl, sound, List.suffix_refl _⟩, id⟩
        · exact .inl hold
      · exact .inr hcall
  | report call sound result returned =>
      rcases List.suffix_cons_iff.mp h with heq | hold
      · have hrecord := congrArg Moment.record (List.cons.inj heq).1
        exact absurd hrecord (by simp)
      · exact .inl hold
  | removal m registration live _ ih =>
      have once : Step setup.settings m (m.unregistered registration) :=
        .unregister m registration live
      rcases ih h with hold | hcall
      · exact .inl (once.suffix_of_suffix wanted hold)
      · exact .inr (hcall.later (List.suffix_refl _) (by simp))
  | answerRemoval script removed _ ih =>
      rcases ih (suffix_of_suffix_cons wanted rfl h) with hold | hcall
      · exact .inl hold
      · exact .inr (hcall.later (List.suffix_cons _ _) (by simp))
  | answerShutdown removed _ ih =>
      rcases ih (suffix_of_suffix_cons wanted rfl h) with hold | hcall
      · exact .inl hold
      · exact .inr (hcall.later (List.suffix_cons _ _) (by simp))
  | forfeit _ _ ih =>
      rcases ih h with hold | hcall
      · exact .inl hold
      · exact .inr (hcall.later (List.suffix_refl _) (by simp))

/--
Every dispatch that began in a run is one of its dispatches, and the room gave out in it
only if it gave out in the run.
-/
theorem Setup.call_of_began
    (setup : Setup P W N)
    (room : Nat)
    (codes : List (Code P W N R))
    (store : W)
    (h :
      ⟨.dispatchBegan event, state⟩ :: earlier <:+
        (setup.runAll room codes (.fresh store)).2.trace) :
    ∃ call : DispatchCall setup,
      call.Began event state earlier
          (setup.runAll room codes (.fresh store)).2 ∧
        (call.flow = .exhausted →
          .exhausted ∈ (setup.runAll room codes (.fresh store)).1) := by
  have tells :
      (setup.runAll room codes (.fresh store)).2.TellsDispatch setup
        (.exhausted ∈ (setup.runAll room codes (.fresh store)).1)
        event state earlier := by
    refine
      setup.runAll_induction room
        (fun m =>
          ⟨.dispatchBegan event, state⟩ :: earlier <:+ m.trace →
          m.TellsDispatch setup
            (.exhausted ∈ (setup.runAll room codes (.fresh store)).1)
            event state earlier)
        codes ?_ Dispatcher.wellFormed_empty ?_ h
    · intro a b owed _ span hout ih hb
      rcases span.call_of_began hb with hold | hcall
      · exact (ih hold).later span.course.trace_suffix id
      · exact hcall.later (List.suffix_refl _) hout
    · intro hfresh
      exact absurd (List.suffix_nil.mp hfresh) (by simp)
  obtain ⟨call, began, hroom⟩ := tells
  exact ⟨call, began, fun hflow => hroom (Flow.owing_eq_none.mpr hflow)⟩

/-- A report that was answered in a course is that of one of its dispatches. -/
theorem Course.call_of_answered
    (course : Course setup a b)
    (h : ⟨.answered (.dispatch event) result, state⟩ :: earlier <:+ b.trace) :
    ⟨.answered (.dispatch event) result, state⟩ :: earlier <:+ a.trace ∨
      ∃ call : DispatchCall setup,
        call.Answered event result state earlier := by
  induction course with
  | stay m => exact .inl h
  | step once => exact .inl (once.suffix_of_suffix rfl h)
  | trans _ _ ihfirst ihsecond =>
      rcases ihsecond h with hold | hcall
      · exact ihfirst hold
      · exact .inr hcall
  | dispatch call sound _ ih =>
      rcases ih h with hold | hcall
      · rcases List.suffix_cons_iff.mp hold with heq | hold
        · have hrecord := congrArg Moment.record (List.cons.inj heq).1
          exact absurd hrecord (by simp)
        · exact .inl hold
      · exact .inr hcall
  | answer call sound result returned =>
      rcases List.suffix_cons_iff.mp h with heq | hold
      · obtain ⟨hmoment, rfl⟩ := List.cons.inj heq
        injection hmoment with hrecord hstate
        injection hrecord with hcall hanswer
        injection hcall with hevent
        subst hevent hstate
        subst hanswer
        exact .inr ⟨call, ⟨rfl, rfl, rfl, sound, returned⟩⟩
      · exact .inl hold

end Traces

section Calls

variable {setup : Setup P W N}

/-- A registration has at most one binding in a chain. -/
theorem Dispatcher.WellFormed.nodup_scripts
    {state : Dispatcher P}
    (h : state.WellFormed)
    (kind : EventKind) :
    ((state.table.get kind).map Binding.script).Nodup := by
  rw [h.get_eq_sorted kind]
  have hperm :=
    (Binding.sorted_perm (state.declared kind)).map Binding.script
  rw [hperm.nodup_iff]
  apply List.pairwise_map.mpr
  apply (h.pairwise_declared kind).imp
  intro a b hab
  exact Nat.ne_of_lt hab

/-- A handler that was called is on record, with the event. -/
theorem Walks.began
    {room level : Nat}
    {event : Event}
    {m last : Machine P W N}
    {chain : List (Binding P)}
    {visits : List (Visit P W N)}
    {result : DispatchResult}
    (walks :
      Walks setup.settings (setup.scripts room level) event m chain visits
        result last)
    (hwf : m.state.WellFormed) :
    ∀ visit ∈ visits,
      visit.outcome ≠ none →
      ⟨.handlerBegan visit.binding.script visit.binding.handler event,
        visit.reached.state⟩ :: visit.reached.trace <:+ visit.left.trace := by
  have hcall :
      ∀ {m after : Machine P W N} {binding : Binding P}
        {outcome : Except HandlerError Verdict},
        m.state.WellFormed →
        Run.invoke setup.settings (setup.scripts room level) event binding m =
          (.returned outcome, after) →
        Course setup
          (m.emit (.handlerBegan binding.script binding.handler event))
          after := by
    intro m after binding outcome hwf called
    let call : HandlerCall setup := ⟨room, level, binding, event, m⟩
    have hafter : call.settled = after := congrArg Prod.snd called
    rw [← hafter]
    exact call.course hwf
  induction walks with
  | done m => simp
  | pass idle _ ih =>
      refine List.forall_mem_cons.mpr ⟨?_, ih hwf⟩
      intro hcalled
      exact absurd rfl hcalled
  | allow due called _ ih =>
      have course := hcall hwf called
      refine List.forall_mem_cons.mpr ⟨?_, ih (course.wellFormed hwf)⟩
      intro _
      exact course.trace_suffix
  | fail entry due called _ ih =>
      have course := hcall hwf called
      refine List.forall_mem_cons.mpr ⟨?_, ih (course.wellFormed hwf)⟩
      intro _
      exact course.trace_suffix.trans (List.suffix_cons _ _)
  | block entry due called =>
      have course := hcall hwf called
      refine List.forall_mem_singleton.mpr ?_
      intro _
      exact course.trace_suffix.trans (List.suffix_cons _ _)

namespace DispatchCall

/-- The chain that a dispatch reads at its start. -/
def chain (call : DispatchCall setup) : List (Binding P) :=
  call.start.state.table.get call.event.kind

/-- The machine in which a dispatch reaches the first binding of its chain. -/
def opened (call : DispatchCall setup) : Machine P W N :=
  match call.chain with
  | [] => call.start.attempted call.event
  | chain =>
      (call.start.attempted call.event).emit
        (.log (.dispatching call.event.kind chain.length))

/--
A dispatch walked the chain that it read at its start.

The bindings are visited in the order of the chain, to its end or to the first handler
that blocks, from the start of the dispatch to its end without a gap.  A handler is
called exactly if its registration is live and enabled when the binding is reached, and
it begins with the event of the dispatch.  The report names the registrations whose
handlers were called: a part of the chain, without repetition, in ascending order of
priority and id.  Every registration that is visited declared its handler at the start.
-/
structure Follows
    (call : DispatchCall setup)
    (result : DispatchResult)
    (visits : List (Visit P W N)) :
    Prop where
  inOrder : visits.map Visit.binding <+: call.chain
  complete : Visit.Complete call.chain visits
  linked : Visit.Linked call.opened visits call.stop
  sound :
    ∀ visit ∈ visits,
      visit.Sound setup.settings (setup.scripts call.room call.level) call.event
  began :
    ∀ visit ∈ visits,
      visit.outcome ≠ none →
      ⟨.handlerBegan visit.binding.script visit.binding.handler call.event,
        visit.reached.state⟩ :: visit.reached.trace <:+ visit.left.trace
  invoked :
    result.invoked =
      (visits.filter fun visit => visit.outcome.isSome).map
        fun visit => visit.binding.script
  invoked_iff :
    ∀ binding ∈ call.chain,
      binding.script ∈ result.invoked ↔
        ∃ visit ∈ visits,
          visit.binding = binding ∧
            visit.reached.state.IsEnabled binding.script
  sublist : result.invoked.Sublist (call.chain.map Binding.script)
  nodup : result.invoked.Nodup
  ascending :
    visits.Pairwise fun a b => Binding.Precedes a.binding b.binding
  old :
    ∀ visit ∈ visits,
      ∃ registration,
        call.start.state.find? visit.binding.script = some registration ∧
          registration.priority = visit.binding.priority ∧
          registration.spec.handler? call.event.kind =
            some visit.binding.handler

/-- Counting a dispatch changes the counters and nothing else. -/
theorem opened_state (call : DispatchCall setup) :
    call.opened.state =
      call.start.state.retally
        fun tally => tally.attempted call.event.kind := by
  unfold opened
  split <;> rfl

/-- A dispatch that returns walks its chain to an end. -/
theorem walks
    (call : DispatchCall setup)
    (sound : call.start.state.WellFormed)
    {result : DispatchResult}
    (hflow : call.flow = .returned result) :
    ∃ visits,
      Walks setup.settings (setup.scripts call.room call.level) call.event
        call.opened call.chain visits result call.stop := by
  have hrun :
      Run.dispatch setup.settings (setup.scripts call.room call.level)
        call.event call.start = (.returned result, call.stop) :=
    Prod.ext hflow rfl
  have hwf : call.opened.state.WellFormed := by
    rw [opened_state]
    exact sound.retally _
  have hupheld :
      ∀ binding ∈ call.chain,
        call.opened.state.Upholds call.event.kind binding := by
    intro binding hbinding
    rw [opened_state]
    exact (sound.upholds hbinding).evolves (Dispatcher.evolves_retally _ _)
  rw [Run.dispatch_apply] at hrun
  unfold opened at hwf hupheld ⊢
  cases hchain : call.chain with
  | nil =>
      unfold chain at hchain
      rw [hchain] at hrun
      obtain ⟨hresult, hstop⟩ := Prod.mk.inj hrun
      obtain rfl := Flow.returned.inj hresult
      refine ⟨[], ?_⟩
      rw [← hstop]
      exact .done _
  | cons binding rest =>
      rw [hchain] at hwf hupheld
      unfold chain at hchain
      rw [hchain] at hrun
      obtain ⟨_, mid, hlog, hwalk⟩ := Run.bind_eq_returned hrun
      obtain ⟨_, rfl⟩ := Prod.mk.inj hlog
      exact Run.walks_of_walk hwf hupheld hwalk

variable {call : DispatchCall setup}
variable {visits : List (Visit P W N)} {result : DispatchResult}

/-- A visited binding stands in the chain. -/
theorem mem_chain_of_mem_visits
    (inOrder : visits.map Visit.binding <+: call.chain)
    {visit : Visit P W N}
    (hvisit : visit ∈ visits) :
    visit.binding ∈ call.chain :=
  inOrder.subset (List.mem_map_of_mem hvisit)

/-- The visited bindings that are called are named, and no others. -/
theorem mem_invoked_iff
    (sound : call.start.state.WellFormed)
    (walks :
      Walks setup.settings (setup.scripts call.room call.level) call.event
        call.opened call.chain visits result call.stop)
    {binding : Binding P}
    (hbinding : binding ∈ call.chain) :
    binding.script ∈ result.invoked ↔
      ∃ visit ∈ visits,
        visit.binding = binding ∧
          visit.reached.state.IsEnabled binding.script := by
  rw [walks.invoked, List.mem_map]
  constructor
  · rintro ⟨visit, hvisit, hscript⟩
    obtain ⟨hvisit, hcalled⟩ := List.mem_filter.mp hvisit
    have hsame : visit.binding = binding :=
      List.inj_on_of_nodup_map (sound.nodup_scripts call.event.kind)
        (mem_chain_of_mem_visits walks.inOrder hvisit) hbinding hscript
    have henabled :=
      (walks.sound visit hvisit).called_iff.mp
        (Option.isSome_iff_ne_none.mp hcalled)
    rw [hscript] at henabled
    exact ⟨visit, hvisit, hsame, henabled⟩
  · rintro ⟨visit, hvisit, rfl, henabled⟩
    have hcalled := (walks.sound visit hvisit).called_iff.mpr henabled
    exact ⟨visit,
      List.mem_filter.mpr ⟨hvisit, Option.isSome_iff_ne_none.mpr hcalled⟩, rfl⟩

/-- A dispatch that walked its chain to an end followed it. -/
theorem follows_of_walks
    (sound : call.start.state.WellFormed)
    (walks :
      Walks setup.settings (setup.scripts call.room call.level) call.event
        call.opened call.chain visits result call.stop) :
    call.Follows result visits := by
  have hwf : call.opened.state.WellFormed := by
    rw [opened_state]
    exact sound.retally _
  have hsublist :
      result.invoked.Sublist (call.chain.map Binding.script) := by
    have hvisited := walks.inOrder.sublist.map Binding.script
    rw [walks.invoked]
    rw [List.map_map] at hvisited
    exact (List.filter_sublist.map _).trans hvisited
  have hprecedes : (visits.map Visit.binding).Pairwise Binding.Precedes :=
    (sound.tableAgrees.precedes call.event.kind).sublist walks.inOrder.sublist
  constructor
  · exact walks.inOrder
  · exact walks.complete
  · exact walks.linked
  · exact walks.sound
  · exact walks.began hwf
  · exact walks.invoked
  · intro binding hbinding
    exact mem_invoked_iff sound walks hbinding
  · exact hsublist
  · exact hsublist.nodup (sound.nodup_scripts call.event.kind)
  · exact List.pairwise_map.mp hprecedes
  · intro visit hvisit
    obtain ⟨owner, howner, hbinding⟩ :=
      sound.mem_table.mp (mem_chain_of_mem_visits walks.inOrder hvisit)
    obtain ⟨hhandler, hid, hpriority⟩ :=
      Registration.binding?_eq_some.mp hbinding
    rw [← hid]
    exact ⟨owner, sound.find?_of_mem howner, hpriority, hhandler⟩

/-- A dispatch that returns followed its chain. -/
theorem follows
    (call : DispatchCall setup)
    (sound : call.start.state.WellFormed)
    {result : DispatchResult}
    (hflow : call.flow = .returned result) :
    ∃ visits, call.Follows result visits := by
  obtain ⟨visits, walks⟩ := call.walks sound hflow
  exact ⟨visits, follows_of_walks sound walks⟩

end DispatchCall
end Calls

/--
**Every dispatch follows its chain.**

A dispatch that no panic leaves walks the bindings that it found at its start in order,
looks each registration up when its turn comes, and calls exactly the handlers of the live
and enabled ones until one blocks.  Each record in a run that a dispatch began belongs to
such a dispatch, which ended within the run and lacked room only if the run did; and each
report that was answered belongs to a dispatch that returned it, however deep they are
nested.
-/
theorem dispatches_follow_their_chains
    (setup : Setup P W N)
    (room : Nat)
    (codes : List (Code P W N R))
    (store : W) :
    let run := setup.runAll room codes (.fresh store)
    (∀ event state earlier,
      ⟨.dispatchBegan event, state⟩ :: earlier <:+ run.2.trace →
      ∃ call : DispatchCall setup,
        call.Began event state earlier run.2 ∧
          (call.flow = .exhausted → .exhausted ∈ run.1) ∧
          ∀ result,
            call.flow = .returned result →
            ∃ visits, call.Follows result visits) ∧
      (∀ event result state earlier,
        ⟨.answered (.dispatch event) result, state⟩ :: earlier <:+ run.2.trace →
        ∃ call : DispatchCall setup,
          call.Answered event result state earlier ∧
            ∃ visits, call.Follows result visits) ∧
      ∀ call : DispatchCall setup,
        call.start.state.WellFormed →
        ∀ result,
          call.flow = .returned result →
          ∃ visits, call.Follows result visits := by
  intro run
  have course : Course setup (.fresh store) run.2 :=
    setup.course_runAll_fresh room codes store
  refine ⟨?_, ?_, ?_⟩
  · intro event state earlier hbegan
    obtain ⟨call, began, hroom⟩ := setup.call_of_began room codes store hbegan
    refine ⟨call, began, hroom, ?_⟩
    intro result hflow
    exact call.follows began.sound hflow
  · intro event result state earlier hanswered
    rcases course.call_of_answered hanswered with hnone | ⟨call, answered⟩
    · exact absurd (List.suffix_nil.mp hnone) (by simp)
    · exact ⟨call, answered, call.follows answered.sound answered.returned⟩
  · intro call sound result hflow
    exact call.follows sound hflow

/--
The handler of the first script removes its own and enables the second, which is
then called; the script that it registers is not.
-/
theorem dispatch_follows_changing_chain :
    ∃ (call : DispatchCall Restless.setup)
      (visits : List (Visit Bool Unit Unit)),
      call.event = .timer 0 ∧
        call.flow = .returned { invoked := [1, 2] } ∧
        call.Follows { invoked := [1, 2] } visits := by
  have hanswered :
      Restless.last.trace[0]?.map Moment.record =
        some (.answered (.dispatch (.timer 0))
          ({ invoked := [1, 2] } : DispatchResult)) := by
    cbv
  have hfollow :
      ∀ event result state earlier,
        ⟨.answered (.dispatch event) result, state⟩ :: earlier <:+
          Restless.last.trace →
        ∃ call : DispatchCall Restless.setup,
          call.Answered event result state earlier ∧
            ∃ visits, call.Follows result visits := by
    unfold Restless.last
    exact (dispatches_follow_their_chains _ _ _ _).2.1
  generalize Restless.last.trace = trace at hanswered hfollow
  obtain ⟨⟨record, state⟩, hmoment, rfl⟩ := Option.map_eq_some_iff.mp hanswered
  obtain ⟨call, answered, visits, follows⟩ :=
    hfollow _ _ _ _ (suffix_of_getElem? hmoment)
  exact ⟨call, visits, answered.same, answered.returned, follows⟩

end ScriptHub
