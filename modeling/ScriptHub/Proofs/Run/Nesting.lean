import Mathlib.Algebra.Group.Pi.Lemmas
import Mathlib.Algebra.GroupWithZero.Nat
import ScriptHub.Proofs.Run.CallHistory
import ScriptHub.Proofs.Run.Relations

/-!
# The dispatches that are nested in a run

A handler may raise further events, and their handlers again.  Every dispatch writes
one record when it begins, so the dispatches between two machines can be listed, and
each is charged with the failures that it counts itself.  What all of them count
together is what the counters of failures grow by.

**Results.**
* `Machine.Counts`: what was counted between two machines, and by which dispatches.
* `Run.walk_relates`: what a walk obeys, told from its handler calls.
* `Run.counts_walk`: a walk counts the handlers that it calls and that fail.
* `Setup.nests_scripts`: what a procedure counts, the dispatches nested in it count.
* `DispatchCall.counts`: a dispatch counts its own failures besides.
-/

namespace ScriptHub

variable {P W N : Type}

/-- What is done with a returned value changes the machine no more. -/
theorem Run.bind_pure_snd
    {α β : Type}
    (run : Run P W N α)
    (f : α → β)
    (m : Machine P W N) :
    ((run >>= fun value => pure (f value)) m).2 = (run m).2 := by
  rw [bind_apply]
  unfold andThen
  generalize run m = ending
  obtain ⟨flow, after⟩ := ending
  cases flow <;> rfl

section Beginnings

/-- The traces with which the dispatches of a trace began, the latest first. -/
def beginningsIn : List (Moment P N) → List (List (Moment P N))
  | [] => []
  | moment :: earlier =>
      if moment.record.dispatched?.isSome then
        (moment :: earlier) :: beginningsIn earlier
      else
        beginningsIn earlier

variable {moment : Moment P N} {trace : List (Moment P N)}

theorem beginningsIn_cons_of_not (hother : moment.record.dispatched? = none) :
    beginningsIn (moment :: trace) = beginningsIn trace := by
  simp [beginningsIn, hother]

theorem Machine.beginningsIn_attempted
    (m : Machine P W N)
    (event : Event) :
    beginningsIn (m.attempted event).trace =
      (m.attempted event).trace :: beginningsIn m.trace := by
  rfl

theorem Machine.failed_attempted
    (m : Machine P W N)
    (event : Event)
    (kind : EventKind) :
    ((m.attempted event).state.tally.calls.get kind).failed =
      (m.state.tally.calls.get kind).failed := by
  rw [attempted_state]
  by_cases hkind : kind = event.kind
  · subst hkind
    simp [Dispatcher.retally, Tally.attempted]
  · simp [Dispatcher.retally, Tally.attempted,
      PerKind.get_modify_of_ne _ _ hkind]

theorem Machine.beginningsIn_unregistered
    (m : Machine P W N)
    (registration : Registration P) :
    beginningsIn (m.unregistered registration).trace = beginningsIn m.trace := by
  unfold Machine.unregistered
  cases registration.spec.cleanup <;> rfl

end Beginnings

/-- How many failures a handler that ended adds to the counters. -/
def Flow.failures : Flow (Except HandlerError Verdict) → Nat
  | .returned (.error _) => 1
  | _ => 0

/-- How many of the handlers that a walk calls fail and are counted. -/
def Run.failuresAlong
    (settings : Settings)
    (scripts : Scripts P W N)
    (event : Event) :
    List (Binding P) → Machine P W N → Nat
  | [], _ => 0
  | binding :: rest, m =>
      match m.state.find? binding.script with
      | none => failuresAlong settings scripts event rest m
      | some registration =>
          if registration.enabled then
            let name := registration.spec.name
            match Run.invoke settings scripts event binding m with
            | (.returned (.ok .allow), after) =>
                failuresAlong settings scripts event rest after
            | (.returned (.error reason), after) =>
                failuresAlong settings scripts event rest
                    (after.emit
                      (.log (.handlerFailed event.kind binding.script name
                        reason))) + 1
            | _ => 0
          else
            failuresAlong settings scripts event rest m

section Along

variable (settings : Settings) (scripts : Scripts P W N) (event : Event)
variable {m after : Machine P W N} {binding : Binding P}

theorem Run.failuresAlong_of_idle
    (chain : List (Binding P))
    (idle : ¬ m.state.IsEnabled binding.script) :
    failuresAlong settings scripts event (binding :: chain) m =
      failuresAlong settings scripts event chain m := by
  cases hfind : m.state.find? binding.script with
  | none => simp only [failuresAlong, hfind]
  | some registration =>
      have hdisabled : ¬ registration.enabled = true := by
        intro henabled
        exact idle ⟨registration, hfind, henabled⟩
      simp only [failuresAlong, hfind, hdisabled]
      rfl

/-- A handler counts if it fails, and the walk goes on unless it blocked. -/
theorem Run.failuresAlong_of_enabled
    (chain : List (Binding P))
    {registration : Registration P}
    (hfind : m.state.find? binding.script = some registration)
    (henabled : registration.enabled = true)
    {flow : Flow (Except HandlerError Verdict)}
    (called : invoke settings scripts event binding m = (flow, after)) :
    failuresAlong settings scripts event (binding :: chain) m =
      (match flow with
        | .returned (.ok .allow) =>
            failuresAlong settings scripts event chain after
        | .returned (.error reason) =>
            failuresAlong settings scripts event chain
              (after.emit
                (.log (.handlerFailed event.kind binding.script
                  registration.spec.name reason)))
        | _ => 0) + flow.failures := by
  simp only [failuresAlong, hfind, henabled, if_true, called]
  cases flow with
  | returned outcome =>
      cases outcome with
      | ok verdict => cases verdict <;> rfl
      | error reason => rfl
  | unwinding payload => rfl
  | exhausted => rfl

/-- A walk that returns reports the failures that it counted. -/
theorem Run.length_failures_of_walk
    {chain : List (Binding P)}
    {last : Machine P W N}
    {result : DispatchResult}
    (hwalk :
      walk settings scripts event chain m = (.returned result, last)) :
    failuresAlong settings scripts event chain m = result.failures.length := by
  induction chain generalizing m result with
  | nil =>
      obtain rfl := Flow.returned.inj (Prod.mk.inj hwalk).1
      rfl
  | cons binding chain ih =>
      by_cases henabled : m.state.IsEnabled binding.script
      · obtain ⟨registration, hfind, henabled⟩ := henabled
        rw [walk_cons_of_enabled _ _ _ chain hfind henabled] at hwalk
        obtain ⟨outcome, after, called, hproceed⟩ := bind_eq_returned hwalk
        rw [failuresAlong_of_enabled _ _ _ chain hfind henabled called]
        cases outcome with
        | error reason =>
            obtain ⟨_, logged, hlog, hproceed⟩ := bind_eq_returned hproceed
            obtain ⟨_, rfl⟩ := Prod.mk.inj hlog
            obtain ⟨inner, final, hinner, hreport⟩ := bind_eq_returned hproceed
            obtain ⟨hresult, rfl⟩ := Prod.mk.inj hreport
            obtain rfl := Flow.returned.inj hresult
            simp only [Flow.failures, DispatchResult.afterFailure,
              List.length_cons, ih hinner]
        | ok verdict =>
            cases verdict with
            | allow =>
                obtain ⟨inner, final, hinner, hreport⟩ :=
                  bind_eq_returned hproceed
                obtain ⟨hresult, rfl⟩ := Prod.mk.inj hreport
                obtain rfl := Flow.returned.inj hresult
                simp only [Flow.failures, DispatchResult.afterAllow, ih hinner,
                  Nat.add_zero]
            | block =>
                obtain ⟨_, logged, _, hreport⟩ := bind_eq_returned hproceed
                obtain rfl := Flow.returned.inj (Prod.mk.inj hreport).1
                rfl
      · rw [walk_cons_of_idle _ _ _ chain henabled] at hwalk
        rw [failuresAlong_of_idle _ _ _ chain henabled]
        exact ih hwalk

/--
**What handler calls and log records obey, a walk obeys,** the failures that are
counted being added up.
-/
theorem Run.walk_relates
    (related : Nat → Machine P W N → Machine P W N → Prop)
    (hrefl : ∀ m, related 0 m m)
    (htrans :
      ∀ {n k a b c}, related n a b → related k b c → related (n + k) a c)
    (hlog : ∀ m entry, related 0 m (m.emit (.log entry)))
    (chain : List (Binding P))
    (m : Machine P W N)
    (hinvoke :
      ∀ binding ∈ chain,
        ∀ n a,
          related n m a →
          a.state.IsEnabled binding.script →
          related (invoke settings scripts event binding a).1.failures a
            (invoke settings scripts event binding a).2) :
    related (failuresAlong settings scripts event chain m) m
      (walk settings scripts event chain m).2 := by
  induction chain generalizing m with
  | nil => exact hrefl m
  | cons binding chain ih =>
      obtain ⟨hfirst, hrest⟩ := List.forall_mem_cons.mp hinvoke
      by_cases henabled : m.state.IsEnabled binding.script
      · have hcall := hfirst 0 m (hrefl m) henabled
        obtain ⟨registration, hfind, henabled⟩ := henabled
        rw [walk_cons_of_enabled _ _ _ chain hfind henabled, bind_apply]
        unfold andThen
        generalize hcalled : invoke settings scripts event binding m = ending
        rw [hcalled] at hcall
        obtain ⟨flow, after⟩ := ending
        rw [failuresAlong_of_enabled _ _ _ chain hfind henabled hcalled,
          Nat.add_comm]
        -- From wherever the walk goes on, it is the rest of the same walk.
        have hlater :
            ∀ {later}, related flow.failures m later →
              related
                (flow.failures + failuresAlong settings scripts event chain later)
                m (walk settings scripts event chain later).2 := by
          intro later hreached
          refine htrans hreached (ih later ?_)
          intro other hother n a ha
          exact hrest other hother _ a (htrans hreached ha)
        cases flow with
        | returned outcome =>
            cases outcome with
            | ok verdict =>
                cases verdict with
                | allow =>
                    simp only [proceed, bind_pure_snd]
                    exact hlater hcall
                | block => exact htrans hcall (hlog _ _)
            | error reason =>
                have hproceed :
                    (proceed settings scripts event binding
                        registration.spec.name chain (.error reason) after).2 =
                      (walk settings scripts event chain
                        (after.emit
                          (.log (.handlerFailed event.kind binding.script
                            registration.spec.name reason)))).2 :=
                  bind_pure_snd _ _ _
                rw [hproceed]
                exact hlater (htrans hcall (hlog _ _))
        | unwinding payload => exact hcall
        | exhausted => exact hcall
      · rw [walk_cons_of_idle _ _ _ chain henabled,
          failuresAlong_of_idle _ _ _ chain henabled]
        exact ih m hrest

end Along

section Calls

variable {setup : Setup P W N}

namespace DispatchCall

/-- The trace with which a dispatch begins. -/
def begun (call : DispatchCall setup) : List (Moment P N) :=
  (call.start.attempted call.event).trace

/-- How many failures of handlers a dispatch counts itself, however it ends. -/
def failures (call : DispatchCall setup) : Nat :=
  Run.failuresAlong setup.settings (setup.scripts call.room call.level)
    call.event call.chain call.opened

/-- A dispatch is a walk along the chain of its kind, once it was counted. -/
theorem dispatch_eq_walk (call : DispatchCall setup) :
    Run.dispatch setup.settings (setup.scripts call.room call.level) call.event
        call.start =
      Run.walk setup.settings (setup.scripts call.room call.level) call.event
        call.chain call.opened := by
  rw [Run.dispatch_apply]
  unfold opened
  cases hchain : call.chain with
  | nil =>
      unfold chain at hchain
      rw [hchain]
      rfl
  | cons binding rest =>
      unfold chain at hchain
      rw [hchain]
      rfl

/-- A dispatch that returns counts the failures that it reports. -/
theorem failures_of_returned
    (call : DispatchCall setup)
    {result : DispatchResult}
    (returned : call.flow = .returned result) :
    call.failures = result.failures.length := by
  have hrun :
      Run.dispatch setup.settings (setup.scripts call.room call.level)
        call.event call.start = (.returned result, call.stop) :=
    Prod.ext returned rfl
  rw [dispatch_eq_walk] at hrun
  exact Run.length_failures_of_walk _ _ _ hrun

end DispatchCall

/-- How many failures under a kind the listed dispatches count. -/
def failuresOf
    (kind : EventKind)
    (calls : List (DispatchCall setup)) :
    Nat :=
  ((calls.filter fun call => call.event.kind = kind).map
    DispatchCall.failures).sum

theorem failuresOf_append
    (kind : EventKind)
    (calls others : List (DispatchCall setup)) :
    failuresOf kind (calls ++ others) =
      failuresOf kind calls + failuresOf kind others := by
  simp [failuresOf]

theorem failuresOf_cons
    (kind : EventKind)
    (call : DispatchCall setup)
    (calls : List (DispatchCall setup)) :
    failuresOf kind (call :: calls) =
      (Pi.single call.event.kind call.failures : EventKind → Nat) kind +
        failuresOf kind calls := by
  by_cases hkind : call.event.kind = kind
  · subst hkind
    simp [failuresOf]
  · simp [failuresOf, hkind]

/--
What was counted between two machines: so many failures of each kind, besides what
the dispatches count that began in between, in this order, and all ended there.
-/
structure Machine.Counts
    (setup : Setup P W N)
    (own : EventKind → Nat)
    (nested : List (DispatchCall setup))
    (a b : Machine P W N) :
    Prop where
  grown : a.trace <:+ b.trace
  begun :
    beginningsIn b.trace =
      (nested.map DispatchCall.begun).reverse ++ beginningsIn a.trace
  within :
    ∀ call ∈ nested,
      a.trace <:+ call.start.trace ∧ call.stop.trace <:+ b.trace
  failed :
    ∀ kind,
      (b.state.tally.calls.get kind).failed =
        (a.state.tally.calls.get kind).failed +
          UInt64.ofNat (own kind + failuresOf kind nested)

namespace Machine

variable {a b c m : Machine P W N}
variable {own other : EventKind → Nat} {nested more : List (DispatchCall setup)}

theorem Counts.trans
    (first : Counts setup own nested a b)
    (second : Counts setup other more b c) :
    Counts setup (own + other) (nested ++ more) a c where
  grown := first.grown.trans second.grown
  begun := by
    rw [second.begun, first.begun, List.map_append, List.reverse_append,
      List.append_assoc]
  within := by
    intro call hcall
    rcases List.mem_append.mp hcall with hold | hnew
    · obtain ⟨hstart, hstop⟩ := first.within call hold
      exact ⟨hstart, hstop.trans second.grown⟩
    · obtain ⟨hstart, hstop⟩ := second.within call hnew
      exact ⟨first.grown.trans hstart, hstop⟩
  failed := by
    intro kind
    have hsum :
        (own + other) kind + failuresOf kind (nested ++ more) =
          own kind + failuresOf kind nested +
            (other kind + failuresOf kind more) := by
      rw [failuresOf_append, Pi.add_apply]
      omega
    rw [second.failed, first.failed, hsum, UInt64.ofNat_add (own kind + _),
      UInt64.add_assoc]

/-- What begins no dispatch and counts no failure counts nothing. -/
theorem counts_nothing
    (grown : a.trace <:+ b.trace)
    (begun : beginningsIn b.trace = beginningsIn a.trace)
    (calls :
      ∀ kind,
        (b.state.tally.calls.get kind).failed =
          (a.state.tally.calls.get kind).failed) :
    Counts setup 0 [] a b where
  grown := grown
  begun := begun
  within := by
    intro call hcall
    exact absurd hcall (by simp)
  failed := by
    intro kind
    rw [calls kind]
    simp [failuresOf]

theorem counts_emit
    {entry : Record P N}
    (hother : entry.dispatched? = none) :
    Counts setup 0 [] m (m.emit entry) :=
  counts_nothing (List.suffix_cons _ _) (beginningsIn_cons_of_not hother)
    fun _ => rfl

/-- A handler that fails is counted under its kind. -/
theorem counts_failed
    (script : ScriptId)
    (kind : EventKind)
    (reason : HandlerError) :
    Counts setup (Pi.single kind 1) [] m
      (m.failed script kind reason) where
  grown := List.suffix_cons _ _
  begun := beginningsIn_cons_of_not rfl
  within := by
    intro call hcall
    exact absurd hcall (by simp)
  failed := by
    intro under
    rw [failed_state]
    by_cases hkind : under = kind
    · subst hkind
      simp [Dispatcher.retally, Tally.failed, failuresOf]
    · simp [Dispatcher.retally, Tally.failed, failuresOf,
        PerKind.get_modify_of_ne _ _ hkind, Pi.single_eq_of_ne hkind]

/-- Only dispatches, and what is nested in them, count something. -/
def Nests
    (setup : Setup P W N)
    (a b : Machine P W N) :
    Prop :=
  ∃ nested, Counts setup 0 nested a b

theorem Nests.of_counts
    (h : Counts setup 0 [] a b) :
    Nests setup a b :=
  ⟨[], h⟩

/-- What is made outside of a dispatch counts nothing. -/
theorem permits_nests (settings : Settings) :
    Permits settings (Nests (P := P) (W := W) (N := N) setup) where
  refl m :=
    .of_counts (counts_nothing (List.suffix_refl _) rfl fun _ => rfl)
  trans := by
    rintro a b c ⟨nested, first⟩ ⟨more, second⟩
    have both := first.trans second
    rw [add_zero] at both
    exact ⟨_, both⟩
  register m spec := by
    refine .of_counts (counts_nothing ⟨[_, _, _], rfl⟩ rfl ?_)
    intro kind
    rw [registered_state]
    simp [Dispatcher.retally, Dispatcher.enrolled, Dispatcher.enter,
      Dispatcher.bind]
  remove m registration live := by
    have once : Step settings m (m.unregistered registration) :=
      .unregister m registration live
    refine .of_counts
      (counts_nothing once.trace_suffix
        (beginningsIn_unregistered m registration) ?_)
    intro kind
    rw [unregistered_state]
    simp [Dispatcher.retally, Dispatcher.withdrawn, Dispatcher.strike,
      Dispatcher.unbind]
  toggle m registration enabled _ _ := by
    refine .of_counts (counts_nothing (List.suffix_cons _ _) rfl ?_)
    intro kind
    rw [toggled_state]
    simp [Dispatcher.retally, Dispatcher.setFlag]
  record m entry plain :=
    .of_counts (counts_emit (Record.uncounted_of_isPlain plain).1)
  report m event result := .of_counts (counts_emit rfl)
  write m store :=
    .of_counts (counts_nothing (List.suffix_refl _) rfl fun _ => rfl)
  send m := .of_counts (counts_nothing (List.suffix_refl _) rfl fun _ => rfl)

end Machine

section Walks

variable {settings : Settings} {scripts : Scripts P W N}
variable {a b : Machine P W N} {nested : List (DispatchCall setup)}

/-- How the end of a handler is taken account of is counted, besides what it did. -/
theorem Machine.Counts.settled
    (h : Machine.Counts setup 0 nested a b)
    (script : ScriptId)
    (kind : EventKind)
    (flow : Flow (Except String Verdict)) :
    Machine.Counts setup
      (Pi.single kind
        (Run.settleHandler settings script kind flow b).1.failures)
      nested a (Run.settleHandler settings script kind flow b).2 := by
  have hfailed :
      ∀ reason,
        Machine.Counts setup (Pi.single kind 1) nested a
          (b.failed script kind reason) := by
    intro reason
    simpa using h.trans (Machine.counts_failed script kind reason)
  have hemit :
      ∀ entry : Record P N,
        entry.dispatched? = none →
        Machine.Counts setup (Pi.single kind 0) nested a (b.emit entry) := by
    intro entry hother
    simpa using h.trans (Machine.counts_emit hother)
  cases flow with
  | returned outcome =>
      cases outcome with
      | ok verdict => exact hemit _ rfl
      | error reason => exact hfailed _
  | unwinding payload =>
      by_cases hcatch : settings.catchHandlerPanics = true
      · simp only [Run.settleHandler, hcatch, if_true]
        exact hfailed _
      · simp only [Run.settleHandler, hcatch]
        exact hemit _ rfl
  | exhausted =>
      simp only [Run.settleHandler, Run.exhaust, Flow.failures, Pi.single_zero]
      exact h

namespace Run

variable (settings)
variable (obey : scripts.Obey (Machine.Nests setup)) (event : Event)
include obey

/-- A handler that is called counts its failure, besides what is nested in it. -/
theorem counts_invoke
    (binding : Binding P)
    (m : Machine P W N) :
    ∃ nested,
      Machine.Counts setup
        (Pi.single event.kind
          (invoke settings scripts event binding m).1.failures)
        nested m (invoke settings scripts event binding m).2 := by
  let began := m.emit (.handlerBegan binding.script binding.handler event)
  have hbegan : Machine.Counts setup 0 [] m began := Machine.counts_emit rfl
  obtain ⟨nested, within⟩ := obey.handle binding.handler event began
  have hstop := hbegan.trans within
  rw [add_zero, List.nil_append] at hstop
  exact ⟨nested, hstop.settled binding.script event.kind _⟩

/-- A walk counts the handlers that it calls and that fail. -/
theorem counts_walk
    (chain : List (Binding P))
    (m : Machine P W N) :
    ∃ nested,
      Machine.Counts setup
        (Pi.single event.kind (failuresAlong settings scripts event chain m))
        nested m (walk settings scripts event chain m).2 := by
  apply walk_relates settings scripts event fun n a b =>
    ∃ nested, Machine.Counts setup (Pi.single event.kind n) nested a b
  · intro m
    rw [Pi.single_zero]
    exact ⟨[], Machine.counts_nothing (List.suffix_refl _) rfl fun _ => rfl⟩
  · rintro n k a b c ⟨nested, first⟩ ⟨more, second⟩
    rw [Pi.single_add]
    exact ⟨nested ++ more, first.trans second⟩
  · intro m entry
    rw [Pi.single_zero]
    exact ⟨[], Machine.counts_emit rfl⟩
  · intro binding _ n a _ _
    exact counts_invoke settings obey event binding a

end Run
end Walks

section Nested

/-- A dispatch counts its own failures, besides the dispatches nested in it. -/
theorem DispatchCall.counts_of_obey
    (call : DispatchCall setup)
    (obey :
      (setup.scripts call.room call.level).Obey (Machine.Nests setup)) :
    ∃ nested,
      Machine.Counts setup (Pi.single call.event.kind call.failures) nested
        (call.start.attempted call.event) call.stop := by
  have hopened :
      Machine.Counts setup 0 [] (call.start.attempted call.event)
        call.opened := by
    unfold opened
    cases call.chain with
    | nil => exact Machine.counts_nothing (List.suffix_refl _) rfl fun _ => rfl
    | cons binding rest => exact Machine.counts_emit rfl
  obtain ⟨nested, hwalk⟩ :=
    Run.counts_walk setup.settings obey call.event call.chain call.opened
  have key := hopened.trans hwalk
  rw [zero_add, List.nil_append, ← dispatch_eq_walk] at key
  exact ⟨nested, key⟩

/-- From the outside, a dispatch comes first among the dispatches nested in it. -/
theorem DispatchCall.nests_of_counts
    {call : DispatchCall setup}
    {nested : List (DispatchCall setup)}
    (h :
      Machine.Counts setup (Pi.single call.event.kind call.failures) nested
        (call.start.attempted call.event) call.stop) :
    Machine.Counts setup 0 (call :: nested) call.start call.stop where
  grown := (List.suffix_cons _ _).trans h.grown
  begun := by
    rw [h.begun, Machine.beginningsIn_attempted, List.map_cons,
      List.reverse_cons, List.append_assoc]
    rfl
  within := by
    intro inner hinner
    rcases List.mem_cons.mp hinner with rfl | hinner
    · exact ⟨List.suffix_refl _, List.suffix_refl _⟩
    · obtain ⟨hstart, hstop⟩ := h.within inner hinner
      exact ⟨(List.suffix_cons _ _).trans hstart, hstop⟩
  failed := by
    intro kind
    rw [h.failed, failuresOf_cons, Pi.zero_apply, Nat.zero_add,
      Machine.failed_attempted]

/-- **What a procedure counts is counted by the dispatches nested in it.** -/
theorem Setup.nests_scripts
    (setup : Setup P W N)
    (room level : Nat) :
    (setup.scripts room level).Obey (Machine.Nests setup) := by
  apply setup.obey_scripts (Machine.permits_nests setup.settings)
  intro room level obey event m
  obtain ⟨nested, h⟩ :=
    DispatchCall.counts_of_obey ⟨room, level, event, m⟩ obey
  exact ⟨_, DispatchCall.nests_of_counts h⟩

/-- **A dispatch counts its own failures, besides what is nested in it.** -/
theorem DispatchCall.counts (call : DispatchCall setup) :
    ∃ nested,
      Machine.Counts setup (Pi.single call.event.kind call.failures) nested
        (call.start.attempted call.event) call.stop :=
  call.counts_of_obey (setup.nests_scripts call.room call.level)

end Nested
end Calls
end ScriptHub
