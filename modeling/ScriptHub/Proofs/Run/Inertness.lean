import ScriptHub.Proofs.Run.Nesting

/-!
# Inert handlers

A handler is inert for an event if its code leaves the state of the dispatcher as it
was.  A dispatch that calls only inert handlers moves the counters of its kind, and
nothing else, whether it returns or a panic leaves it.

**Results.**
* `Tally.charged`: so many dispatches of a kind and so many failures under it.
* `Run.walk_state_of_inert`: a walk along inert handlers.
* `DispatchCall.stop_state_of_inert`: a dispatch to inert handlers.
-/

namespace ScriptHub

variable {P W N : Type}

section Charges

theorem PerKind.modify_modify
    {α : Type}
    (table : PerKind α)
    (kind : EventKind)
    (f g : α → α) :
    (table.modify kind f).modify kind g = table.modify kind (g ∘ f) := by
  ext other
  by_cases hkind : other = kind
  · subst hkind
    simp
  · simp [get_modify_of_ne _ _ hkind]

/-- Counts so many dispatches of a kind, and so many failures under it. -/
def Tally.charged
    (tally : Tally)
    (kind : EventKind)
    (attempts failures : Nat) :
    Tally :=
  { tally with
    calls := tally.calls.modify kind fun count =>
      ⟨count.attempted + UInt64.ofNat attempts,
        count.failed + UInt64.ofNat failures⟩ }

namespace Tally

variable (tally : Tally) (kind : EventKind)

theorem attempted_eq_charged :
    tally.attempted kind = tally.charged kind 1 0 := by
  simp [attempted, charged]

theorem failed_eq_charged : tally.failed kind = tally.charged kind 0 1 := by
  simp [failed, charged]

theorem charged_nothing : tally.charged kind 0 0 = tally := by
  have hcalls :
      (tally.calls.modify kind fun count =>
        ⟨count.attempted + UInt64.ofNat 0, count.failed + UInt64.ofNat 0⟩) =
        tally.calls := by
    ext other
    by_cases hkind : other = kind
    · subst hkind
      simp
    · rw [PerKind.get_modify_of_ne _ _ hkind]
  rw [charged, hcalls]

theorem charged_charged (attempts failures others more : Nat) :
    (tally.charged kind attempts failures).charged kind others more =
      tally.charged kind (attempts + others) (failures + more) := by
  simp [charged, PerKind.modify_modify, Function.comp_def, UInt64.add_assoc]

theorem get_charged_self (attempts failures : Nat) :
    (tally.charged kind attempts failures).calls.get kind =
      ⟨(tally.calls.get kind).attempted + UInt64.ofNat attempts,
        (tally.calls.get kind).failed + UInt64.ofNat failures⟩ := by
  simp [charged]

theorem get_charged_of_ne
    {other : EventKind}
    (h : other ≠ kind)
    (attempts failures : Nat) :
    (tally.charged kind attempts failures).calls.get other =
      tally.calls.get other :=
  PerKind.get_modify_of_ne _ _ h

end Tally

/-- Counts so many dispatches of a kind and so many failures under it. -/
def Dispatcher.charged
    (state : Dispatcher P)
    (kind : EventKind)
    (attempts failures : Nat) :
    Dispatcher P :=
  state.retally fun tally => tally.charged kind attempts failures

theorem Dispatcher.charged_charged
    (state : Dispatcher P)
    (kind : EventKind)
    (attempts failures others more : Nat) :
    (state.charged kind attempts failures).charged kind others more =
      state.charged kind (attempts + others) (failures + more) :=
  congrArg (fun tally => state.retally fun _ => tally)
    (state.tally.charged_charged kind attempts failures others more)

theorem Dispatcher.charged_nothing
    (state : Dispatcher P)
    (kind : EventKind) :
    state.charged kind 0 0 = state :=
  congrArg (fun tally => state.retally fun _ => tally)
    (state.tally.charged_nothing kind)

theorem Dispatcher.isEnabled_charged
    {state : Dispatcher P}
    {kind : EventKind}
    {attempts failures : Nat}
    {script : ScriptId} :
    (state.charged kind attempts failures).IsEnabled script ↔
      state.IsEnabled script :=
  Iff.rfl

/-- A handler that failed charges its kind. -/
theorem Machine.failed_state_eq_charged
    (m : Machine P W N)
    (script : ScriptId)
    (kind : EventKind)
    (reason : HandlerError) :
    (m.failed script kind reason).state = m.state.charged kind 0 1 :=
  congrArg (fun tally => m.state.retally fun _ => tally)
    (m.state.tally.failed_eq_charged kind)

theorem DispatchCall.opened_state_eq_charged
    {setup : Setup P W N}
    (call : DispatchCall setup) :
    call.opened.state = call.start.state.charged call.event.kind 1 0 := by
  rw [call.opened_state]
  exact congrArg (fun tally => call.start.state.retally fun _ => tally)
    (call.start.state.tally.attempted_eq_charged call.event.kind)

end Charges

section Inert

/-- A handler leaves the state as it was, wherever it is called for an event. -/
def Scripts.IsInert
    (scripts : Scripts P W N)
    (handler : P)
    (event : Event) :
    Prop :=
  ∀ m, (scripts.handle handler event m).2.state = m.state

namespace Run

variable (settings : Settings) {scripts : Scripts P W N} {event : Event}

/-- How the end of a handler is taken account of is charged if it counts. -/
theorem settleHandler_state
    (script : ScriptId)
    (kind : EventKind)
    (flow : Flow (Except String Verdict))
    (m : Machine P W N) :
    (settleHandler settings script kind flow m).2.state =
      m.state.charged kind 0
        (settleHandler settings script kind flow m).1.failures := by
  have hcalm : m.state = m.state.charged kind 0 0 :=
    (m.state.charged_nothing kind).symm
  cases flow with
  | returned outcome =>
      cases outcome with
      | ok verdict => exact hcalm
      | error reason => exact m.failed_state_eq_charged script kind _
  | unwinding payload =>
      by_cases hcatch : settings.catchHandlerPanics = true
      · simp only [settleHandler, hcatch, if_true]
        exact m.failed_state_eq_charged script kind _
      · simp only [settleHandler, hcatch]
        exact hcalm
  | exhausted => exact hcalm

/-- An inert handler that is called charges its kind if it fails. -/
theorem invoke_state_of_inert
    {binding : Binding P}
    (inert : scripts.IsInert binding.handler event)
    (m : Machine P W N) :
    (invoke settings scripts event binding m).2.state =
      m.state.charged event.kind 0
        (invoke settings scripts event binding m).1.failures := by
  let began := m.emit (.handlerBegan binding.script binding.handler event)
  have hstate :
      (scripts.handle binding.handler event began).2.state = m.state :=
    inert began
  have hsettled :=
    settleHandler_state settings binding.script event.kind
      (scripts.handle binding.handler event began).1
      (scripts.handle binding.handler event began).2
  rw [hstate] at hsettled
  exact hsettled

/-- **A walk along inert handlers** charges its kind with those that fail. -/
theorem walk_state_of_inert
    (chain : List (Binding P))
    (m : Machine P W N)
    (inert :
      ∀ binding ∈ chain,
        m.state.IsEnabled binding.script →
        scripts.IsInert binding.handler event) :
    (walk settings scripts event chain m).2.state =
      m.state.charged event.kind 0
        (failuresAlong settings scripts event chain m) := by
  apply walk_relates settings scripts event fun n a b =>
    b.state = a.state.charged event.kind 0 n
  · intro m
    exact (m.state.charged_nothing event.kind).symm
  · intro n k a b c first second
    rw [second, first, Dispatcher.charged_charged]
  · intro m entry
    exact (m.state.charged_nothing event.kind).symm
  · intro binding hbinding n a hreached henabled
    rw [hreached, Dispatcher.isEnabled_charged] at henabled
    exact invoke_state_of_inert settings (inert binding hbinding henabled) a

end Run

variable {setup : Setup P W N}

/-- The handlers that a dispatch may call are inert. -/
def DispatchCall.IsInert (call : DispatchCall setup) : Prop :=
  ∀ binding ∈ call.chain,
    call.start.state.IsEnabled binding.script →
    (setup.scripts call.room call.level).IsInert binding.handler call.event

/-- **A dispatch to inert handlers** moves the counters of its kind alone. -/
theorem DispatchCall.stop_state_of_inert
    (call : DispatchCall setup)
    (inert : call.IsInert) :
    call.stop.state =
      call.start.state.charged call.event.kind 1 call.failures := by
  have hopened :
      ∀ binding ∈ call.chain,
        call.opened.state.IsEnabled binding.script →
        (setup.scripts call.room call.level).IsInert binding.handler
          call.event := by
    intro binding hbinding henabled
    rw [opened_state_eq_charged, Dispatcher.isEnabled_charged] at henabled
    exact inert binding hbinding henabled
  unfold stop failures
  rw [dispatch_eq_walk, Run.walk_state_of_inert _ _ _ hopened,
    opened_state_eq_charged, Dispatcher.charged_charged, Nat.zero_add]

end Inert
end ScriptHub
