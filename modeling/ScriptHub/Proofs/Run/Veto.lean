import ScriptHub.Proofs.Run.Dispatches

/-!
# The veto

A handler may do no more than decide on the event it is given: it calls nothing,
and how it ends depends on the event alone.  Where all handlers of an event are of
this sort, a dispatch blocks exactly if some enabled handler does.  A failure blocks
nothing and keeps nobody else from blocking, and the order of the chain only settles
which handlers are still called.

**Results.**
* `Code.run_of_concludes`: code that decides changes no registration.
* `Run.walk_of_decided`: such a chain is walked up to the first veto.
* `veto_is_independent_of_order`: the verdict of a dispatch, and that it is the same
  whatever the order and the priorities of the registrations.
-/

namespace ScriptHub

variable {P W N R : Type}

section Lists

variable {α β : Type}

/-- The items up to the first one with a property, and that one. -/
def throughFirst (p : α → Bool) : List α → List α
  | [] => []
  | a :: rest => if p a then [a] else a :: throughFirst p rest

theorem throughFirst_cons_of_pos
    {p : α → Bool}
    {a : α}
    (h : p a = true)
    (rest : List α) :
    throughFirst p (a :: rest) = [a] :=
  if_pos h

theorem throughFirst_cons_of_neg
    {p : α → Bool}
    {a : α}
    (h : ¬ p a = true)
    (rest : List α) :
    throughFirst p (a :: rest) = a :: throughFirst p rest :=
  if_neg h

end Lists

section Decisions

/-- How a run ends in which a piece of code ended like this. -/
def Ending.flow : Ending R → Flow (Except String R)
  | .returned value => .returned (.ok value)
  | .failed reason => .returned (.error reason)
  | .panicked payload => .unwinding payload

/-- What the end of a handler counts as where panics are caught. -/
def Ending.counted : Ending Verdict → Except HandlerError Verdict
  | .returned verdict => .ok verdict
  | .failed reason => .error (.failed reason)
  | .panicked payload => .error (.ofPanic payload)

/--
Code calls nothing and ends in one way, whatever its store holds.  It may write to
the store and leave records.
-/
def Code.Concludes (ending : Ending R) : Code P W N R → Prop
  | .finish other => other = ending
  | .call _ _ => False
  | .read next => ∀ store, (next store).Concludes ending
  | .write _ next => next.Concludes ending
  | .log _ next => next.Concludes ending
  | .note _ next => next.Concludes ending

/-- Code that calls nothing ends as it concludes and leaves the dispatcher alone. -/
theorem Code.run_of_concludes
    (answer : (call : Call P) → Run P W N call.Answer)
    {ending : Ending R}
    {code : Code P W N R}
    (h : code.Concludes ending)
    (m : Machine P W N) :
    (code.run answer m).1 = ending.flow ∧
      (code.run answer m).2.state = m.state := by
  induction code generalizing m with
  | finish other =>
      obtain rfl : other = ending := h
      cases other <;> exact ⟨rfl, rfl⟩
  | call request next _ => exact absurd h id
  | read next ih => exact ih m.store (h m.store) m
  | write store next ih => exact ih h { m with store := store }
  | log entry next ih => exact ih h (m.emit (.log entry))
  | note what next ih => exact ih h (m.emit (.note what))

/-- A handler does nothing but decide on an event, and a panic of it is caught. -/
structure Setup.Decides
    (setup : Setup P W N)
    (handler : P)
    (event : Event)
    (ending : Ending Verdict) :
    Prop where
  concludes :
    ∀ level, (setup.behaviour.onEvent level handler event).Concludes ending
  caught :
    ∀ payload,
      ending = .panicked payload → setup.settings.catchHandlerPanics = true

end Decisions

section Chains

namespace Dispatcher

/-- Whether a registration is live and enabled. -/
def isEnabled
    (state : Dispatcher P)
    (script : ScriptId) :
    Bool :=
  (state.find? script).any Registration.enabled

/--
The bindings of the enabled registrations for a kind, by priority, and by id where
priorities are equal.
-/
def enabledChain
    (state : Dispatcher P)
    (kind : EventKind) :
    List (Binding P) :=
  Binding.sorted
    ((state.live.filter Registration.enabled).filterMap
      fun registration => registration.binding? kind)

/-- Some enabled registration has a handler that blocks an event. -/
def Vetoes
    (state : Dispatcher P)
    (outcome : P → Event → Ending Verdict)
    (event : Event) :
    Prop :=
  ∃ registration ∈ state.live,
    registration.enabled = true ∧
      ∃ handler,
        registration.spec.handler? event.kind = some handler ∧
          outcome handler event = .returned .block

variable {state : Dispatcher P}

theorem isEnabled_iff {script : ScriptId} :
    state.isEnabled script = true ↔ state.IsEnabled script := by
  unfold isEnabled
  rw [Option.any_eq_true]
  rfl

theorem isEnabled_congr
    {other : Dispatcher P}
    (h : other.live = state.live) :
    other.isEnabled = state.isEnabled := by
  unfold isEnabled find?
  rw [h]

/-- The enabled bindings of a chain, in the order of the chain. -/
theorem WellFormed.filter_isEnabled
    (h : state.WellFormed)
    (kind : EventKind) :
    ((state.table.get kind).filter fun binding =>
        state.isEnabled binding.script) =
      state.enabledChain kind := by
  rw [h.get_eq_sorted kind, Binding.filter_sorted]
  unfold enabledChain declared
  congr 1
  rw [List.filter_filterMap, List.filterMap_filter]
  apply List.filterMap_congr
  intro registration hmem
  have henabled :
      state.isEnabled registration.id = registration.enabled := by
    unfold isEnabled
    rw [h.find?_of_mem hmem]
    rfl
  cases hbinding : registration.binding? kind with
  | none => simp
  | some binding =>
      have hid := (Registration.binding?_eq_some.mp hbinding).2.1
      rw [hid] at henabled
      cases hflag : registration.enabled <;>
        simp [Option.filter, henabled, hflag]

/-- An enabled chain ascends strictly in priority and id. -/
theorem WellFormed.pairwise_enabledChain
    (h : state.WellFormed)
    (kind : EventKind) :
    (state.enabledChain kind).Pairwise Binding.Precedes := by
  rw [← h.filter_isEnabled kind]
  exact (h.tableAgrees.precedes kind).filter _

theorem mem_enabledChain
    {kind : EventKind}
    {binding : Binding P} :
    binding ∈ state.enabledChain kind ↔
      ∃ registration ∈ state.live,
        registration.enabled = true ∧
          registration.binding? kind = some binding := by
  unfold enabledChain
  rw [Binding.mem_sorted, List.mem_filterMap]
  simp only [List.mem_filter, and_assoc]

end Dispatcher

/-- Whether the handler of a binding blocks an event. -/
def Binding.blocks
    (outcome : P → Event → Ending Verdict)
    (event : Event)
    (binding : Binding P) :
    Bool :=
  outcome binding.handler event == .returned .block

/-- An enabled registration vetoes exactly if an entry of the enabled chain blocks. -/
theorem Dispatcher.vetoes_iff
    {state : Dispatcher P}
    {outcome : P → Event → Ending Verdict}
    {event : Event} :
    state.Vetoes outcome event ↔
      ∃ binding ∈ state.enabledChain event.kind,
        binding.blocks outcome event = true := by
  simp only [mem_enabledChain, Binding.blocks, beq_iff_eq]
  constructor
  · rintro ⟨registration, hmem, henabled, handler, hhandler, hblocks⟩
    refine ⟨⟨registration.id, registration.priority, handler⟩, ?_, hblocks⟩
    refine ⟨registration, hmem, henabled, ?_⟩
    exact Registration.binding?_eq_some.mpr ⟨hhandler, rfl, rfl⟩
  · rintro ⟨binding, ⟨registration, hmem, henabled, hbinding⟩, hblocks⟩
    exact ⟨registration, hmem, henabled, binding.handler,
      (Registration.binding?_eq_some.mp hbinding).1, hblocks⟩

end Chains

section Reports

/-- The bindings of a chain whose registrations are live and enabled. -/
def Dispatcher.enabledIn
    (state : Dispatcher P)
    (chain : List (Binding P)) :
    List (Binding P) :=
  chain.filter fun binding => state.isEnabled binding.script

/--
What is reported once an event was decided by the handlers of some entries: the handlers
were called up to the first that blocks, and that one, and the event is blocked exactly
if some handler blocks it.
-/
structure DispatchResult.Tells
    (result : DispatchResult)
    (outcome : P → Event → Ending Verdict)
    (event : Event)
    (entries : List (Binding P)) :
    Prop where
  invoked :
    result.invoked =
      (throughFirst (Binding.blocks outcome event) entries).map Binding.script
  verdict_iff :
    result.verdict = .block ↔
      ∃ binding ∈ entries, binding.blocks outcome event = true

namespace DispatchResult

variable {outcome : P → Event → Ending Verdict} {event : Event}
variable {binding : Binding P} {entries : List (Binding P)}

theorem tells_nil : Tells {} outcome event [] where
  invoked := rfl
  verdict_iff := by simp

theorem tells_of_blocks
    (hblocks : binding.blocks outcome event = true) :
    (blocked binding.script).Tells outcome event (binding :: entries) where
  invoked := by
    rw [throughFirst_cons_of_pos hblocks]
    rfl
  verdict_iff := by simp [blocked, hblocks]

variable {result : DispatchResult}

theorem Tells.afterAllow
    (h : result.Tells outcome event entries)
    (hopen : ¬ binding.blocks outcome event = true) :
    (result.afterAllow binding.script).Tells outcome event
      (binding :: entries) where
  invoked := by
    rw [throughFirst_cons_of_neg hopen, List.map_cons, ← h.invoked]
    rfl
  verdict_iff := by
    simpa [hopen, DispatchResult.afterAllow] using h.verdict_iff

/-- A failure keeps neither the entries behind it from being called nor from blocking. -/
theorem Tells.afterFailure
    (h : result.Tells outcome event entries)
    (hopen : ¬ binding.blocks outcome event = true)
    (reason : HandlerError) :
    (result.afterFailure binding.script reason).Tells outcome event
      (binding :: entries) where
  invoked := (h.afterAllow hopen).invoked
  verdict_iff := (h.afterAllow hopen).verdict_iff

end DispatchResult
end Reports

section Walks

variable {setup : Setup P W N} (room level : Nat) {event : Event}
variable {outcome : P → Event → Ending Verdict}

namespace Run

/-- A handler that only decides returns what it decides, and nothing else changes. -/
theorem invoke_of_decides
    {binding : Binding P}
    {ending : Ending Verdict}
    (h : setup.Decides binding.handler event ending)
    (m : Machine P W N) :
    ∃ after,
      invoke setup.settings (setup.scripts (room + 1) level) event binding m =
          (.returned ending.counted, after) ∧
        after.state.live = m.state.live := by
  let inner := answer setup (setup.scripts room (level + 1))
  let began := m.emit (.handlerBegan binding.script binding.handler event)
  let code := setup.behaviour.onEvent level binding.handler event
  obtain ⟨hflow, hstate⟩ := Code.run_of_concludes inner (h.concludes level) began
  have hinvoke :
      invoke setup.settings (setup.scripts (room + 1) level) event binding m =
        settleHandler setup.settings binding.script event.kind
          (code.run inner began).1 (code.run inner began).2 := by
    rfl
  have hlive : (code.run inner began).2.state.live = m.state.live := by
    rw [hstate]
    rfl
  rw [hinvoke, hflow]
  cases ending with
  | returned verdict => exact ⟨_, rfl, hlive⟩
  | failed reason => exact ⟨_, rfl, hlive⟩
  | panicked payload =>
      simp only [Ending.flow, settleHandler, h.caught payload rfl, if_true]
      exact ⟨_, rfl, hlive⟩

/-- How the walk goes on once a handler decided. -/
theorem proceed_of_decided
    {settings : Settings}
    {scripts : Scripts P W N}
    {binding : Binding P}
    {name : String}
    {chain entries : List (Binding P)}
    (m : Machine P W N)
    (hrest :
      ∀ later : Machine P W N,
        later.state.live = m.state.live →
        ∃ result last,
          walk settings scripts event chain later = (.returned result, last) ∧
            result.Tells outcome event entries) :
    ∃ result last,
      proceed settings scripts event binding name chain
          (outcome binding.handler event).counted m =
          (.returned result, last) ∧
        result.Tells outcome event (binding :: entries) := by
  have hfailure :
      ∀ reason,
        ¬ binding.blocks outcome event = true →
        ∃ result last,
          proceed settings scripts event binding name chain (.error reason) m =
              (.returned result, last) ∧
            result.Tells outcome event (binding :: entries) := by
    intro reason hopen
    let logged :=
      m.emit (.log (.handlerFailed event.kind binding.script name reason))
    obtain ⟨result, last, hwalk, htells⟩ := hrest logged rfl
    have hlog :
        log (.handlerFailed event.kind binding.script name reason) m =
          (.returned (), logged) := by
      rfl
    refine ⟨_, last, ?_, htells.afterFailure hopen reason⟩
    rw [proceed, bind_of_returned hlog, bind_of_returned hwalk]
    rfl
  cases hending : outcome binding.handler event with
  | returned verdict =>
      cases verdict with
      | allow =>
          have hopen : ¬ binding.blocks outcome event = true := by
            simp [Binding.blocks, hending]
          obtain ⟨result, last, hwalk, htells⟩ := hrest m rfl
          refine ⟨_, last, ?_, htells.afterAllow hopen⟩
          rw [Ending.counted, proceed, bind_of_returned hwalk]
          rfl
      | block =>
          have hblocks : binding.blocks outcome event = true := by
            simp [Binding.blocks, hending]
          exact ⟨_, _, rfl, DispatchResult.tells_of_blocks hblocks⟩
  | failed reason =>
      apply hfailure
      simp [Binding.blocks, hending]
  | panicked payload =>
      apply hfailure
      simp [Binding.blocks, hending]

/-- **A chain of handlers that only decide** is walked up to the first veto. -/
theorem walk_of_decided
    (chain : List (Binding P))
    (m : Machine P W N)
    (decided :
      ∀ binding ∈ chain,
        setup.Decides binding.handler event (outcome binding.handler event)) :
    ∃ result last,
      walk setup.settings (setup.scripts (room + 1) level) event chain m =
          (.returned result, last) ∧
        result.Tells outcome event (m.state.enabledIn chain) := by
  induction chain generalizing m with
  | nil => exact ⟨{}, m, rfl, DispatchResult.tells_nil⟩
  | cons binding rest ih =>
      obtain ⟨hbinding, hrest⟩ := List.forall_mem_cons.mp decided
      unfold Dispatcher.enabledIn
      by_cases henabled : m.state.isEnabled binding.script = true
      · obtain ⟨registration, hlive, hflag⟩ :=
          Dispatcher.isEnabled_iff.mp henabled
        obtain ⟨after, hinvoke, hafter⟩ :=
          invoke_of_decides room level hbinding m
        rw [walk_cons_of_enabled _ _ _ rest hlive hflag,
          bind_of_returned hinvoke, List.filter_cons, if_pos henabled]
        apply proceed_of_decided
        intro later hlater
        -- No handler changed a flag, so the rest of the chain is as it was.
        have hsame : later.state.enabledIn rest = m.state.enabledIn rest := by
          unfold Dispatcher.enabledIn
          rw [Dispatcher.isEnabled_congr (hlater.trans hafter)]
        obtain ⟨result, last, hwalk, htells⟩ := ih later hrest
        rw [hsame] at htells
        exact ⟨result, last, hwalk, htells⟩
      · have hidle : ¬ m.state.IsEnabled binding.script :=
          fun h => henabled (Dispatcher.isEnabled_iff.mpr h)
        rw [walk_cons_of_idle _ _ _ rest hidle, List.filter_cons,
          if_neg henabled]
        exact ih m hrest

end Run
end Walks

section Dispatches

variable {setup : Setup P W N}

namespace DispatchCall

/-- The handlers that the live registrations have for an event only decide on it. -/
def IsDecided
    (call : DispatchCall setup)
    (outcome : P → Event → Ending Verdict) :
    Prop :=
  ∀ registration ∈ call.start.state.live,
    ∀ handler,
      registration.spec.handler? call.event.kind = some handler →
      setup.Decides handler call.event (outcome handler call.event)

variable {call : DispatchCall setup} {outcome : P → Event → Ending Verdict}

theorem IsDecided.of_mem_chain
    (decided : call.IsDecided outcome)
    (sound : call.start.state.WellFormed)
    {binding : Binding P}
    (hbinding : binding ∈ call.chain) :
    setup.Decides binding.handler call.event
      (outcome binding.handler call.event) := by
  obtain ⟨registration, hmem, hown⟩ := sound.mem_table.mp hbinding
  exact decided registration hmem binding.handler
    (Registration.binding?_eq_some.mp hown).1

/-- A dispatch to handlers that only decide returns, and its report tells the veto. -/
theorem IsDecided.returns
    (decided : call.IsDecided outcome)
    (sound : call.start.state.WellFormed)
    (space : 0 < call.room) :
    ∃ result,
      call.flow = .returned result ∧
        result.Tells outcome call.event
          (call.start.state.enabledChain call.event.kind) := by
  obtain ⟨room, hroom⟩ : ∃ room, call.room = room + 1 :=
    ⟨call.room - 1, by omega⟩
  have hchain :
      call.start.state.enabledIn call.chain =
        call.start.state.enabledChain call.event.kind :=
    sound.filter_isEnabled call.event.kind
  have hin :
      ∀ binding ∈ call.chain,
        setup.Decides binding.handler call.event
          (outcome binding.handler call.event) :=
    fun binding hbinding => decided.of_mem_chain sound hbinding
  unfold flow
  rw [hroom, Run.dispatch_apply, ← hchain]
  unfold chain at hin ⊢
  cases hget : call.start.state.table.get call.event.kind with
  | nil => exact ⟨{}, rfl, DispatchResult.tells_nil⟩
  | cons binding rest =>
      rw [hget] at hin
      let opened :=
        (call.start.attempted call.event).emit
          (.log (.dispatching call.event.kind (binding :: rest).length))
      obtain ⟨result, last, hwalk, htells⟩ :=
        Run.walk_of_decided room call.level (binding :: rest) opened hin
      exact ⟨result, congrArg Prod.fst hwalk, htells⟩

end DispatchCall

theorem Verdict.eq_of_block_iff
    {a b : Verdict}
    (h : a = .block ↔ b = .block) :
    a = b := by
  cases a <;> cases b <;> simp_all

/-- What a registration contributes to a verdict: its flag and its handlers. -/
def Registration.rule
    (registration : Registration P) :
    Bool × PerKind (Option P) :=
  (registration.enabled, registration.spec.hooks)

/-- Only the flags and the handlers of the registrations settle whether one vetoes. -/
theorem Dispatcher.vetoes_congr
    {state other : Dispatcher P}
    (same :
      (state.live.map Registration.rule).Perm
        (other.live.map Registration.rule))
    (outcome : P → Event → Ending Verdict)
    (event : Event) :
    state.Vetoes outcome event ↔ other.Vetoes outcome event := by
  have key :
      ∀ {a b : Dispatcher P},
        (a.live.map Registration.rule).Perm (b.live.map Registration.rule) →
        a.Vetoes outcome event →
        b.Vetoes outcome event := by
    rintro a b hperm ⟨registration, hmem, henabled, handler, hhandler, hblocks⟩
    have hrule : registration.rule ∈ b.live.map Registration.rule :=
      hperm.subset (List.mem_map_of_mem hmem)
    obtain ⟨twin, htwin, hsame⟩ := List.mem_map.mp hrule
    obtain ⟨hflag, hhooks⟩ := Prod.mk.inj hsame
    refine ⟨twin, htwin, hflag.trans henabled, handler, ?_, hblocks⟩
    unfold Spec.handler? at hhandler ⊢
    rw [hhooks]
    exact hhandler
  exact ⟨key same, key same.symm⟩

/--
**The verdict does not depend on the order of the handlers.**

Where the handlers of an event call nothing and end as the event alone settles, with
panics caught, a dispatch returns, and it blocks the event exactly if some live and
enabled registration has a handler that blocks it.  It calls the handlers of the
enabled registrations by priority and id up to the first that blocks.  So any other
dispatcher that holds the same handlers with the same flags, registered in any order
and with any priorities, gives the same verdict.
-/
theorem veto_is_independent_of_order
    {W' N' : Type}
    {other : Setup P W' N'}
    (outcome : P → Event → Ending Verdict)
    (call : DispatchCall setup)
    (twin : DispatchCall other)
    (reached : setup.Reaches call.start)
    (reachedTwin : other.Reaches twin.start)
    (space : 0 < call.room ∧ 0 < twin.room)
    (decided : call.IsDecided outcome)
    (decidedTwin : twin.IsDecided outcome)
    (sameEvent : twin.event = call.event)
    (sameRules :
      (call.start.state.live.map Registration.rule).Perm
        (twin.start.state.live.map Registration.rule)) :
    ∃ result resultTwin,
      call.flow = .returned result ∧
        twin.flow = .returned resultTwin ∧
        resultTwin.verdict = result.verdict ∧
        (result.verdict = .block ↔
          call.start.state.Vetoes outcome call.event) ∧
        result.invoked =
          (throughFirst (Binding.blocks outcome call.event)
            (call.start.state.enabledChain call.event.kind)).map
              Binding.script ∧
        (call.start.state.enabledChain call.event.kind).Pairwise
          Binding.Precedes := by
  have sound := reached.wellFormed
  obtain ⟨result, hflow, htells⟩ := decided.returns sound space.1
  obtain ⟨resultTwin, hflowTwin, htellsTwin⟩ :=
    decidedTwin.returns reachedTwin.wellFormed space.2
  have hverdict :
      result.verdict = .block ↔ call.start.state.Vetoes outcome call.event := by
    rw [htells.verdict_iff, Dispatcher.vetoes_iff]
  have hverdictTwin :
      resultTwin.verdict = .block ↔
        call.start.state.Vetoes outcome call.event := by
    rw [htellsTwin.verdict_iff, ← Dispatcher.vetoes_iff, sameEvent]
    exact (Dispatcher.vetoes_congr sameRules outcome call.event).symm
  refine ⟨result, resultTwin, hflow, hflowTwin, ?_, hverdict, ?_, ?_⟩
  · exact Verdict.eq_of_block_iff (hverdictTwin.trans hverdict.symm)
  · exact htells.invoked
  · exact sound.pairwise_enabledChain call.event.kind

end Dispatches

/-!
A divided council: one script crashes, one lets every event through, one blocks every
event, and one that would block as well is disabled.
-/

namespace Divided

/-- A script whose handler for chat messages always ends in one way. -/
def member
    (name : String)
    (ending : Ending Verdict) :
    Spec (Ending Verdict) :=
  (Spec.named name).hook .chat ending

/-- The scripts in one order, with the one that crashes in front. -/
def forwards : List (Spec (Ending Verdict)) :=
  [member "lenient" (.returned .allow),
    (member "crashing" (.panicked ⟨none⟩)).withPriority 10,
    (member "asleep" (.returned .block)).withAutoEnable false,
    member "strict" (.returned .block)]

/-- The same scripts in another order and with other priorities. -/
def backwards : List (Spec (Ending Verdict)) :=
  [member "strict" (.returned .block),
    (member "asleep" (.returned .block)).withAutoEnable false,
    member "crashing" (.panicked ⟨none⟩),
    (member "lenient" (.returned .allow)).withPriority 500]

/-- Every handler ends as its procedure says. -/
def setup : Setup (Ending Verdict) Unit Unit where
  settings := {}
  notifier := .accepting
  behaviour :=
    { onEvent := fun _ ending _ => .finish ending
      onRemoval := fun _ _ => .done () }

/-- The host registers some scripts, one after the other. -/
def host : List (Spec (Ending Verdict)) → Code (Ending Verdict) Unit Unit Unit
  | [] => .done ()
  | spec :: rest => .call (.register spec) fun _ => host rest

/-- A chat message is dispatched to some scripts. -/
def call (specs : List (Spec (Ending Verdict))) : DispatchCall setup where
  room := 1
  level := 0
  event := .chat "ann" "hello"
  start := (setup.runAll 1 [host specs] (.fresh ())).2

theorem decides (ending : Ending Verdict) (event : Event) :
    setup.Decides ending event ending :=
  ⟨fun _ => rfl, fun _ _ => rfl⟩

end Divided

/--
The message is blocked in either order, once after the script that crashes and the
one that lets it through were called, and once at the first call.
-/
theorem veto_of_divided_council :
    ∃ result resultTwin,
      (Divided.call Divided.forwards).flow = .returned result ∧
        (Divided.call Divided.backwards).flow = .returned resultTwin ∧
        result.invoked = [2, 1, 4] ∧
        resultTwin.invoked = [1] ∧
        result.verdict = .block ∧
        resultTwin.verdict = result.verdict := by
  have hrules :
      ((Divided.call Divided.forwards).start.state.live.map
          Registration.rule).Perm
        ((Divided.call Divided.backwards).start.state.live.map
          Registration.rule) := by
    decide +kernel
  have key :=
    veto_is_independent_of_order (fun ending _ => ending)
      (Divided.call Divided.forwards) (Divided.call Divided.backwards)
      (Divided.setup.reaches_runAll _ _ _) (Divided.setup.reaches_runAll _ _ _)
      ⟨Nat.one_pos, Nat.one_pos⟩
      (fun _ _ handler _ => Divided.decides handler _)
      (fun _ _ handler _ => Divided.decides handler _)
      rfl hrules
  have hforwards :
      (Divided.call Divided.forwards).flow =
        .returned
          { verdict := .block, invoked := [2, 1, 4]
            failures := [(2, .panicked "non-string panic payload")]
            blockedBy := some 4 } := by
    cbv
  have hbackwards :
      (Divided.call Divided.backwards).flow =
        .returned { verdict := .block, invoked := [1], blockedBy := some 1 } := by
    cbv
  obtain ⟨result, resultTwin, hflow, hflowTwin, hverdict, _⟩ := key
  obtain rfl := Flow.returned.inj (hforwards.symm.trans hflow)
  obtain rfl := Flow.returned.inj (hbackwards.symm.trans hflowTwin)
  exact ⟨_, _, hflow, hflowTwin, rfl, rfl, rfl, hverdict⟩

end ScriptHub
