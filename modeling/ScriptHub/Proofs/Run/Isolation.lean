import ScriptHub.Proofs.Run.Parallel

/-!
# Failures are isolated

A run is mended by replacing the ends of some of its handlers that fail by ends that
let the event through, or those of some of its cleanups that fail by ends that
succeed; what they did before they ended stays.  The handlers and the cleanups are
numbered by the order in which they begin.

A mended run goes on like the run itself: a failure makes no difference but where
failures are counted, reported and shown.  This is said for user code that does not
branch on failures; for cleanups even that is not needed, since no answer tells how a
cleanup ended.

**Results.**
* `Setup.runAllMended`: a run with some of its failures mended.
* `Setup.alike_runAllMended`: two mendings of a run are alike under every veil that
  hides what was mended.
* `failures_are_isolated`: what a mending changes.
-/

namespace ScriptHub

variable {P W N R α : Type}

section Mending

/-- The handlers and the cleanups that are to be mended if they fail, by number. -/
structure Mending where
  handlers : Nat → Bool
  cleanups : Nat → Bool

/-- Mends nothing. -/
def Mending.nothing : Mending :=
  ⟨fun _ => false, fun _ => false⟩

/-- The number of handlers that began so far. -/
def Machine.handlersBegun (m : Machine P W N) : Nat :=
  m.trace.countP fun moment =>
    match moment.record with
    | .handlerBegan .. => true
    | _ => false

/-- The number of cleanups that began so far. -/
def Machine.cleanupsBegun (m : Machine P W N) : Nat :=
  m.trace.countP fun moment =>
    match moment.record with
    | .cleanupBegan .. => true
    | _ => false

/-- The end of user code with a value in the place of a failure or of a panic. -/
def Flow.mended (value : α) : Flow (Except String α) → Flow (Except String α)
  | .returned (.ok result) => .returned (.ok result)
  | .returned (.error _) => .returned (.ok value)
  | .unwinding _ => .returned (.ok value)
  | .exhausted => .exhausted

/-- Runs to the end and mends it, if the machine it started from says so. -/
def Run.mend
    (chosen : Machine P W N → Bool)
    (value : α)
    (run : Run P W N (Except String α)) :
    Run P W N (Except String α) :=
  fun m =>
    let (flow, after) := run m
    (if chosen m then flow.mended value else flow, after)

namespace Setup

variable (setup : Setup P W N) (mending : Mending)

/-- How procedures are run at a level if some of their failures are mended. -/
def mendedScripts : (room level : Nat) → Scripts P W N
  | 0, _ =>
      { handle := fun _ _ => Run.exhaust
        clean := fun _ => Run.exhaust }
  | room + 1, level =>
      let inner := mendedScripts room (level + 1)
      { handle := fun procedure event =>
          ((setup.behaviour.onEvent level procedure event).run
            (Run.answer setup inner)).mend
              (fun m => mending.handlers m.handlersBegun) .allow
        clean := fun procedure =>
          ((setup.behaviour.onRemoval level procedure).run
            (Run.answer setup inner)).mend
              (fun m => mending.cleanups m.cleanupsBegun) () }

/-- Runs pieces of host code one after the other, with some failures mended. -/
def runAllMended
    (room : Nat) :
    List (Code P W N R) →
    Machine P W N →
    List (Flow (Except String R)) × Machine P W N
  | [], m => ([], m)
  | code :: rest, m =>
      let ending :=
        code.run (Run.answer setup (setup.mendedScripts mending room 0)) m
      let others := runAllMended room rest ending.2
      (ending.1 :: others.1, others.2)

/-- To mend nothing is to run as it is. -/
theorem mendedScripts_nothing
    (room level : Nat) :
    setup.mendedScripts .nothing room level = setup.scripts room level := by
  induction room generalizing level with
  | zero => rfl
  | succ room ih =>
      unfold mendedScripts scripts
      rw [ih]
      rfl

theorem runAllMended_nothing
    (room : Nat)
    (codes : List (Code P W N R))
    (m : Machine P W N) :
    setup.runAllMended .nothing room codes m = setup.runAll room codes m := by
  induction codes generalizing m with
  | nil => rfl
  | cons code rest ih =>
      simp only [runAllMended, runAll, runHost, mendedScripts_nothing, ih]

end Setup
end Mending

section Simulation

variable {v : Veil W N} {setup : Setup P W N}

/-- A veil hides what a mending changes. -/
def Mending.IsHidden (mending : Mending) (v : Veil W N) : Prop :=
  (∀ number, mending.handlers number = true → v.failures = true) ∧
    ∀ number, mending.cleanups number = true → v.cleanups = true

theorem Mending.isHidden_nothing : Mending.nothing.IsHidden v :=
  ⟨fun _ h => absurd h (by simp [nothing]),
    fun _ h => absurd h (by simp [nothing])⟩

theorem Flow.passed?_mended (flow : Flow (Except String Verdict)) :
    (flow.mended .allow).passed? = flow.passed? := by
  cases flow with
  | returned outcome => cases outcome <;> rfl
  | unwinding payload => rfl
  | exhausted => rfl

theorem Flow.passed?_eq_of_alike
    {flow other : Flow (Except String Verdict)}
    (h : flow.Alike v (OutcomesAlike v Eq) other) :
    flow.passed? = other.passed? := by
  cases h with
  | returned houtcome =>
      cases houtcome with
      | ok heq => exact congrArg some heq
      | error _ => rfl
  | unwinding _ => rfl
  | exhausted => rfl

/-- Handlers that ended alike end alike once mended, each or only one of them. -/
theorem handlersEndAlike_mended
    {flow other : Flow (Except String Verdict)}
    (h : flow.Alike v (OutcomesAlike v Eq) other)
    {first second : Bool}
    (hidden : first = true ∨ second = true → v.failures = true) :
    HandlersEndAlike v (if first then flow.mended .allow else flow)
      (if second then other.mended .allow else other) := by
  by_cases hchosen : first = true ∨ second = true
  · refine .inr ⟨hidden hchosen, ?_⟩
    have hmended :
        ∀ (chosen : Bool) (flow : Flow (Except String Verdict)),
          (if chosen then flow.mended .allow else flow).passed? = flow.passed? := by
      intro chosen flow
      cases chosen
      · rfl
      · exact flow.passed?_mended
    rw [hmended, hmended]
    exact Flow.passed?_eq_of_alike h
  · obtain ⟨hfirst, hsecond⟩ := not_or.mp hchosen
    rw [if_neg hfirst, if_neg hsecond]
    exact .inl h

theorem Flow.mended_ne_exhausted
    {flow : Flow (Except String α)}
    (h : flow ≠ .exhausted)
    (value : α) :
    flow.mended value ≠ .exhausted := by
  cases flow with
  | returned outcome => cases outcome <;> simp [mended]
  | unwinding payload => simp [mended]
  | exhausted => exact absurd rfl h

/-- Cleanups that ended alike end alike once mended, each or only one of them. -/
theorem cleanupsEndAlike_mended
    {flow other : Flow (Except String Unit)}
    (h : flow.Alike v (OutcomesAlike v Eq) other)
    {first second : Bool}
    (hidden : first = true ∨ second = true → v.cleanups = true) :
    CleanupsEndAlike v (if first then flow.mended () else flow)
      (if second then other.mended () else other) := by
  by_cases hchosen : first = true ∨ second = true
  · cases h with
    | exhausted => exact .inl (by split_ifs <;> exact .exhausted)
    | returned houtcome =>
        refine .inr ⟨hidden hchosen, ?_, ?_⟩ <;> split_ifs <;>
          simp [Flow.mended_ne_exhausted]
    | unwinding hexcused =>
        refine .inr ⟨hidden hchosen, ?_, ?_⟩ <;> split_ifs <;>
          simp [Flow.mended_ne_exhausted]
  · obtain ⟨hfirst, hsecond⟩ := not_or.mp hchosen
    rw [if_neg hfirst, if_neg hsecond]
    exact .inl h

/--
A veil covers a setup: what it hides is caught, and the procedures do not branch on
what it hides.
-/
structure Veil.Covers (v : Veil W N) (setup : Setup P W N) : Prop where
  suits : v.Suits setup.settings
  receipt : ∀ receipt, v.receipt receipt receipt
  heedless : setup.behaviour.Alike v setup.behaviour

theorem Veil.Covers.alike_answer
    (covers : v.Covers setup)
    {scripts others : Scripts P W N}
    (hscripts : scripts.Alike v others)
    (call : Call P) :
    (Run.answer setup scripts call).Alike v (call.AnswersAlike v)
      (Run.answer setup others call) :=
  Run.alike_answer covers.suits hscripts (fun _ _ _ => covers.receipt _) call

variable {first second : Mending}

/-- Procedures do alike, whichever of their failures are mended. -/
theorem Setup.alike_mendedScripts
    (covers : v.Covers setup)
    (hfirst : first.IsHidden v)
    (hsecond : second.IsHidden v)
    (room level : Nat) :
    (setup.mendedScripts first room level).Alike v
      (setup.mendedScripts second room level) := by
  induction room generalizing level with
  | zero =>
      constructor
      · intro procedure event a b hm
        exact ⟨.inl .exhausted, hm⟩
      · intro procedure a b hm
        exact ⟨.inl .exhausted, hm⟩
  | succ room ih =>
      have hanswer := covers.alike_answer (ih (level + 1))
      constructor
      · intro procedure event a b hm
        obtain ⟨hends, hafter⟩ :=
          Code.alike_run hanswer
            (covers.heedless.onEvent level procedure event) a b hm
        refine ⟨handlersEndAlike_mended hends ?_, hafter⟩
        rintro (hchosen | hchosen)
        · exact hfirst.1 _ hchosen
        · exact hsecond.1 _ hchosen
      · intro procedure a b hm
        obtain ⟨hends, hafter⟩ :=
          Code.alike_run hanswer
            (covers.heedless.onRemoval level procedure) a b hm
        refine ⟨cleanupsEndAlike_mended hends ?_, hafter⟩
        rintro (hchosen | hchosen)
        · exact hfirst.2 _ hchosen
        · exact hsecond.2 _ hchosen

/--
Two runs of the same host agree but for what a veil hides: the pieces of host code ended
alike, and the dispatchers, the stores and the traces at the end agree.
-/
structure RunsAlike
    (v : Veil W N)
    (results : R → R → Prop)
    (run other : List (Flow (Except String R)) × Machine P W N) :
    Prop where
  flows :
    List.Forall₂ (Flow.Alike v (OutcomesAlike v results)) run.1 other.1
  machine : run.2.Alike v other.2

/-- **Two mendings of a run are alike under every veil that hides them.** -/
theorem Setup.alike_runAllMended
    (covers : v.Covers setup)
    (hfirst : first.IsHidden v)
    (hsecond : second.IsHidden v)
    {results : R → R → Prop}
    {codes : List (Code P W N R)}
    (hcodes : ∀ code ∈ codes, code.Alike v results code)
    (room : Nat)
    {a b : Machine P W N}
    (hm : a.Alike v b) :
    RunsAlike v results (setup.runAllMended first room codes a)
      (setup.runAllMended second room codes b) := by
  induction codes generalizing a b with
  | nil => exact ⟨.nil, hm⟩
  | cons code rest ih =>
      obtain ⟨hcode, hrest⟩ := List.forall_mem_cons.mp hcodes
      have hscripts := alike_mendedScripts covers hfirst hsecond room 0
      obtain ⟨hends, hafter⟩ :=
        Code.alike_run (covers.alike_answer hscripts) hcode a b hm
      obtain ⟨hflows, hlast⟩ := ih hrest hafter
      exact ⟨.cons hends hflows, hlast⟩

end Simulation

section Veils

/-- The veil that hides how handlers fail and how failures are told. -/
def Veil.overFailures
    (store : W → W → Prop)
    (note : N → N → Prop) :
    Veil W N :=
  { failures := true, cleanups := false, store := store, note := note
    receipt := Eq }

/-- The veil that hides how cleanups end. -/
def Veil.overCleanups : Veil W N :=
  { failures := false, cleanups := true, store := Eq, note := Eq
    receipt := Eq }

theorem Veil.overCleanups_covers
    (setup : Setup P W N)
    (catches : setup.settings.catchCleanupPanics = true) :
    Veil.overCleanups.Covers setup where
  suits := ⟨fun h => absurd h (by simp [overCleanups]), fun _ => catches⟩
  receipt := fun _ => rfl
  heedless :=
    { onEvent := fun _ _ _ =>
        .refl rfl (fun _ _ => Iff.rfl) (fun _ _ => Iff.rfl) _
      onRemoval := fun _ _ =>
        .refl rfl (fun _ _ => Iff.rfl) (fun _ _ => Iff.rfl) _ }

/-- A moment without what it tells of how a cleanup ended, if anything is left. -/
def Moment.withoutCleanupEnd? (moment : Moment P N) : Option (Moment P N) :=
  match moment.record with
  | .log (.cleanupFailed ..) => none
  | .cleanupEnded script _ =>
      some { moment with record := .cleanupEnded script (.ok ()) }
  | _ => some moment

/-- Machines differ at most in what their traces tell of how cleanups ended. -/
structure Machine.SameButForCleanupEnds (a b : Machine P W N) : Prop where
  state : a.state = b.state
  store : a.store = b.store
  sent : a.sent = b.sent
  trace :
    a.trace.filterMap Moment.withoutCleanupEnd? =
      b.trace.filterMap Moment.withoutCleanupEnd?

theorem Record.Alike.withoutCleanupEnd?
    {record other : Record P N}
    (h : record.Alike (Veil.overCleanups (W := W)) other)
    (state : Dispatcher P) :
    Moment.withoutCleanupEnd? ⟨record, state⟩ =
      Moment.withoutCleanupEnd? ⟨other, state⟩ := by
  cases h with
  | same => rfl
  | handlerEnded h =>
      cases h.excused.eq rfl
      rfl
  | cleanupEnded h => rfl
  | cleanupUnwound h =>
      cases h.eq rfl
      rfl
  | cleanupFailed h => rfl
  | answered h =>
      cases h.eq rfl
      rfl
  | unwound h =>
      cases h.eq rfl
      rfl
  | note h =>
      cases h
      rfl

theorem withoutCleanupEnd?_of_isOverlooked
    {moment : Moment P N}
    (hidden : moment.record.isOverlooked (Veil.overCleanups (W := W)) = true) :
    moment.withoutCleanupEnd? = none := by
  obtain ⟨record, state⟩ := moment
  cases record with
  | log entry =>
      cases entry with
      | cleanupFailed script name reason => rfl
      | handlerFailed kind script name reason =>
          exact absurd hidden (by simp [Record.isOverlooked, Veil.overCleanups])
      | _ => exact absurd hidden (by simp [Record.isOverlooked])
  | _ => exact absurd hidden (by simp [Record.isOverlooked])

theorem TracesAlike.withoutCleanupEnds
    {a b : List (Moment P N)}
    (h : TracesAlike (Veil.overCleanups (W := W)) a b) :
    a.filterMap Moment.withoutCleanupEnd? =
      b.filterMap Moment.withoutCleanupEnd? := by
  induction h with
  | nil => rfl
  | cons hrecord hstate _ ih =>
      cases hstate.eq rfl
      rw [List.filterMap_cons, List.filterMap_cons,
        hrecord.withoutCleanupEnd?, ih]
  | left hidden _ ih =>
      rw [List.filterMap_cons, withoutCleanupEnd?_of_isOverlooked hidden]
      exact ih
  | right hidden _ ih =>
      rw [List.filterMap_cons, withoutCleanupEnd?_of_isOverlooked hidden]
      exact ih
  | notice htext hreceipt hstate _ ih =>
      cases hstate.eq rfl
      have hsame := htext.eq rfl
      subst hsame
      cases hreceipt rfl
      rw [List.filterMap_append, List.filterMap_append, ih]

theorem Machine.Alike.sameButForCleanupEnds
    {a b : Machine P W N}
    (h : a.Alike Veil.overCleanups b) :
    a.SameButForCleanupEnds b :=
  ⟨h.state.eq rfl, h.store, h.sent, h.trace.withoutCleanupEnds⟩

end Veils

/--
**Failures are isolated.**

Let panics be caught.  First, if the user code does not branch on failures, then any
set of handlers that fail can be mended: the run goes on alike under a veil that hides
how handlers fail.  The same handlers and cleanups begin in the same order, the same
calls are answered alike, and the dispatchers at the end agree but for the failures
that were counted.  Second, any set of cleanups that fail can be mended, whatever the
user code does: the run changes only in what is recorded of how cleanups ended.
-/
theorem failures_are_isolated
    (setup : Setup P W N)
    (room : Nat)
    (codes : List (Code P W N R))
    (store : W)
    (catchesHandlers : setup.settings.catchHandlerPanics = true)
    (catchesCleanups : setup.settings.catchCleanupPanics = true) :
    let run := setup.runAll room codes (.fresh store)
    (∀ (stores : W → W → Prop) (notes : N → N → Prop) (results : R → R → Prop)
        (handlers : Nat → Bool),
      let v := Veil.overFailures stores notes
      let mended :=
        setup.runAllMended ⟨handlers, fun _ => false⟩ room codes (.fresh store)
      stores store store →
      setup.behaviour.Alike v setup.behaviour →
      (∀ code ∈ codes, code.Alike v results code) →
      RunsAlike v results run mended ∧
        callsIn run.2.trace = callsIn mended.2.trace ∧
        List.Forall₂ (Call.AnsweredAlike v) (answersIn run.2.trace)
          (answersIn mended.2.trace)) ∧
      ∀ cleanups : Nat → Bool,
        let mended :=
          setup.runAllMended ⟨fun _ => false, cleanups⟩ room codes (.fresh store)
        run.1 = mended.1 ∧ run.2.SameButForCleanupEnds mended.2 := by
  intro run
  have hrun : run = setup.runAllMended .nothing room codes (.fresh store) :=
    (setup.runAllMended_nothing room codes (.fresh store)).symm
  have hfresh :
      ∀ (v : Veil W N), v.store store store →
        (Machine.fresh store : Machine P W N).Alike v (.fresh store) :=
    fun v hstore => ⟨.refl _, hstore, .nil, rfl⟩
  constructor
  · intro stores notes results handlers v mended hstore heedless hcodes
    have covers : v.Covers setup :=
      ⟨⟨fun _ => catchesHandlers, fun _ => catchesCleanups⟩, fun _ => rfl,
        heedless⟩
    have alike : RunsAlike v results run mended := by
      rw [hrun]
      apply Setup.alike_runAllMended covers Mending.isHidden_nothing _ hcodes
      · exact hfresh v hstore
      · exact ⟨fun _ _ => rfl, fun _ h => absurd h (by simp)⟩
    exact ⟨alike, alike.machine.trace.calls, alike.machine.trace.answers⟩
  · intro cleanups mended
    have covers := Veil.overCleanups_covers setup catchesCleanups
    have alike : RunsAlike Veil.overCleanups Eq run mended := by
      rw [hrun]
      apply Setup.alike_runAllMended covers Mending.isHidden_nothing
      · exact ⟨fun _ h => absurd h (by simp), fun _ _ => rfl⟩
      · intro code _
        exact .refl rfl (fun _ _ => Iff.rfl) (fun _ _ => Iff.rfl) code
      · exact hfresh _ rfl
    constructor
    · rw [← List.forall₂_eq_eq_eq]
      apply alike.flows.imp
      intro flow other h
      exact h.eq rfl
    · exact alike.machine.sameButForCleanupEnds

/-!
Fragile scripts: the handler of the first raises an event for which the handler of the
second panics, keeps the number of failures that it is told, removes the third script,
whose cleanup panics, and fails itself.
-/

namespace Fragile

/-- What the scripts run. -/
inductive Act
  | raising
  | panicking
  | cleaning
  deriving DecidableEq

/-- The script whose handler raises an event and fails. -/
def outer : Spec Act :=
  (Spec.named "outer").hook .timer .raising

/-- The script whose handler panics. -/
def inner : Spec Act :=
  (Spec.named "inner").hook .chat .panicking

/-- The script whose cleanup panics. -/
def brittle : Spec Act :=
  (Spec.named "brittle").withCleanup .cleaning

/-- What the handlers and the cleanup do. -/
def behaviour : Behaviour Act Nat Unit where
  onEvent := fun _ act _ =>
    match act with
    | .raising =>
        .call (.dispatch (.chat "ann" "hello")) fun result =>
        .write result.failures.length <|
        .call (.unregister 3) fun _ =>
        .finish (.failed "late")
    | _ => .finish (.panicked ⟨some "lost"⟩)
  onRemoval := fun _ _ => .finish (.panicked ⟨some "torn"⟩)

/-- The setup in which they run. -/
def setup : Setup Act Nat Unit where
  settings := {}
  notifier := .accepting
  behaviour := behaviour

/-- The host registers the scripts, raises one event and asks for the counters. -/
def host : Code Act Nat Unit Stats :=
  .call (.register outer) fun _ =>
  .call (.register inner) fun _ =>
  .call (.register brittle) fun _ =>
  .call (.dispatch (.timer 0)) fun _ =>
  .ask .stats

/-- The machine at the end, with the handlers and cleanups of some numbers mended. -/
def last (handlers cleanups : Nat → Bool) : Machine Act Nat Unit :=
  (setup.runAllMended ⟨handlers, cleanups⟩ 3 [host] (.fresh 0)).2

/-- Stores are compared in no way: the number that is kept tells of failures. -/
abbrev veil : Veil Nat Unit :=
  .overFailures (fun _ _ => True) Eq

theorem behaviour_heedless : behaviour.Alike veil behaviour where
  onEvent := by
    intro level act event
    cases act with
    | raising =>
        apply Code.Alike.call
        intro result report _
        apply Code.Alike.write trivial
        apply Code.Alike.call
        intro _ _ _
        exact .finish (.failed (.refl _ _))
    | _ => exact .finish (.panicked (.refl _ _))
  onRemoval := fun _ _ => .finish (.panicked (.refl _ _))

theorem host_heedless :
    ∀ code ∈ [host], code.Alike veil (Stats.Alike veil) code := by
  intro code hcode
  rw [List.mem_singleton] at hcode
  subst hcode
  apply Code.Alike.call
  intro _ _ _
  apply Code.Alike.call
  intro _ _ _
  apply Code.Alike.call
  intro _ _ _
  apply Code.Alike.call
  intro _ _ _
  apply Code.Alike.call
  intro stats other hstats
  exact .finish (.returned hstats)

end Fragile

/--
If the inner handler is mended, the second to begin, one failure less is counted and
kept, and all else goes on alike; the panic of the cleanup can be mended too.
-/
theorem failures_are_isolated_in_fragile_run :
    (Fragile.setup.runAll 3 [Fragile.host] (.fresh 0)).2.store = 1 ∧
      (Fragile.last (· == 2) fun _ => false).store = 0 ∧
      (Fragile.last (· == 2) fun _ => false).state.ids = [1, 2] ∧
      RunsAlike Fragile.veil (Stats.Alike Fragile.veil)
        (Fragile.setup.runAll 3 [Fragile.host] (.fresh 0))
        (Fragile.setup.runAllMended ⟨(· == 2), fun _ => false⟩ 3 [Fragile.host]
          (.fresh 0)) ∧
      (Fragile.setup.runAll 3 [Fragile.host]
        (.fresh 0)).2.SameButForCleanupEnds
          (Fragile.last (fun _ => false) (· == 1)) := by
  obtain ⟨hhandlers, hcleanups⟩ :=
    failures_are_isolated Fragile.setup 3 [Fragile.host] 0 rfl rfl
  have mended :=
    hhandlers (fun _ _ => True) Eq (Stats.Alike Fragile.veil) (· == 2) trivial
      Fragile.behaviour_heedless Fragile.host_heedless
  refine ⟨?_, ?_, ?_, mended.1, (hcleanups (· == 1)).2⟩
  · decide +kernel
  · decide +kernel
  · decide +kernel

end ScriptHub
