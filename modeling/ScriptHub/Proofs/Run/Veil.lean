import ScriptHub.Proofs.Run.Comparison
import ScriptHub.Proofs.Run.Span

/-!
# Runs compared under a veil

Two runs are compared that differ in how some of their handlers and cleanups end.  A
veil says what is overlooked in the comparison: that handlers fail, with all that is
counted, reported or shown of it, or how cleanups end.  Everything else must agree,
record by record.  What user code keeps and notes for itself is compared by relations
of its own, for it may keep what the veil hides.

**Results.**
* `Veil`, and what it takes for alike, from the counters up to whole machines.
* `Code.Alike`: code that goes on alike after answers that are alike.
* `TracesAlike.calls`, `TracesAlike.answers`: under every veil the same handlers and
  cleanups are called, and the same calls are answered alike.
-/

namespace ScriptHub

variable {P W N R S α β : Type}

/--
What is overlooked when two runs are compared: that handlers fail and how user code
fails, and how cleanups end.  Relations say which stores, which notes and which receipts
of one and the same notice are taken for alike.
-/
structure Veil (W N : Type) where
  failures : Bool
  cleanups : Bool
  store : W → W → Prop
  note : N → N → Prop
  receipt : Except NoticeError Unit → Except NoticeError Unit → Prop

/-- What tells of failures agrees, unless failures are overlooked. -/
def Veil.Excuses (v : Veil W N) (a b : α) : Prop :=
  v.failures = true ∨ a = b

theorem Veil.Excuses.refl (v : Veil W N) (a : α) : v.Excuses a a :=
  .inr rfl

theorem Veil.Excuses.map
    {v : Veil W N}
    {a b : α}
    (h : v.Excuses a b)
    (f : α → β) :
    v.Excuses (f a) (f b) :=
  h.imp_right (congrArg f)

/-- A veil that overlooks no failures. -/
theorem Veil.Excuses.eq
    {v : Veil W N}
    {a b : α}
    (h : v.Excuses a b)
    (sharp : v.failures = false) :
    a = b := by
  rcases h with hblind | heq
  · exact absurd (sharp.symm.trans hblind) (by simp)
  · exact heq

section States

variable (v : Veil W N)

/-- The calls of a kind agree but for the failures. -/
structure CallCount.Alike (a b : CallCount) : Prop where
  attempted : a.attempted = b.attempted
  failed : v.Excuses a.failed b.failed

/-- The counters agree but for the failures. -/
structure Tally.Alike (a b : Tally) : Prop where
  total : a.total = b.total
  active : a.active = b.active
  disabled : a.disabled = b.disabled
  calls : ∀ kind, (a.calls.get kind).Alike v (b.calls.get kind)

/-- The states of dispatchers agree but for the failures that were counted. -/
structure Dispatcher.Alike (a b : Dispatcher P) : Prop where
  nextId : a.nextId = b.nextId
  live : a.live = b.live
  table : a.table = b.table
  tally : a.tally.Alike v b.tally

/-- The counters as they are shown agree but for the failures. -/
structure Stats.Alike (a b : Stats) : Prop where
  total : a.total = b.total
  active : a.active = b.active
  disabled : a.disabled = b.disabled
  bindings : a.bindings = b.bindings
  calls :
    List.Forall₂
      (fun one other => one.1 = other.1 ∧ one.2.Alike v other.2)
      a.calls b.calls

/-- The reports of dispatches agree but for the failures. -/
structure DispatchResult.Alike (a b : DispatchResult) : Prop where
  verdict : a.verdict = b.verdict
  invoked : a.invoked = b.invoked
  blockedBy : a.blockedBy = b.blockedBy
  failures : v.Excuses a.failures b.failures

/-- The answers to a call agree but for the failures. -/
def Call.AnswersAlike : (call : Call P) → call.Answer → call.Answer → Prop
  | .stats, a, b => a.Alike v b
  | .calls _, a, b => CallCount.Alike v a b
  | .dispatch _, a, b => a.Alike v b
  | .register _, a, b => a = b
  | .unregister _, a, b => a = b
  | .enable _, a, b => a = b
  | .disable _, a, b => a = b
  | .info _, a, b => a = b
  | .list, a, b => a = b
  | .ids, a, b => a = b
  | .count, a, b => a = b
  | .bindingCounts, a, b => a = b
  | .chain _, a, b => a = b
  | .raise _, a, b => a = b
  | .administer .., a, b => a = b
  | .shutdown, a, b => a = b

variable {v}

section Reflexivity

theorem CallCount.Alike.refl (a : CallCount) : a.Alike v a :=
  ⟨rfl, .refl v _⟩

theorem Tally.Alike.refl (a : Tally) : a.Alike v a :=
  ⟨rfl, rfl, rfl, fun _ => .refl _⟩

theorem Dispatcher.Alike.refl (a : Dispatcher P) : a.Alike v a :=
  ⟨rfl, rfl, rfl, .refl _⟩

theorem Stats.Alike.refl (a : Stats) : a.Alike v a where
  total := rfl
  active := rfl
  disabled := rfl
  bindings := rfl
  calls := List.forall₂_same.mpr fun _ _ => ⟨rfl, .refl _⟩

theorem DispatchResult.Alike.refl (a : DispatchResult) : a.Alike v a :=
  ⟨rfl, rfl, rfl, .refl v _⟩

theorem Call.AnswersAlike.refl
    {call : Call P}
    (a : call.Answer) :
    call.AnswersAlike v a a := by
  cases call with
  | stats => exact Stats.Alike.refl a
  | calls kind => exact CallCount.Alike.refl a
  | dispatch event => exact DispatchResult.Alike.refl a
  | _ => rfl

end Reflexivity

section Sharpness

variable (sharp : v.failures = false)
include sharp

theorem CallCount.Alike.eq
    {a b : CallCount}
    (h : a.Alike v b) :
    a = b := by
  cases a
  cases b
  exact congrArg₂ CallCount.mk h.attempted (h.failed.eq sharp)

theorem Tally.Alike.eq
    {a b : Tally}
    (h : a.Alike v b) :
    a = b := by
  have hcalls : a.calls = b.calls := by
    ext kind
    exact (h.calls kind).eq sharp
  cases a
  cases b
  obtain ⟨rfl, rfl, rfl, _⟩ := h
  cases hcalls
  rfl

theorem Dispatcher.Alike.eq
    {a b : Dispatcher P}
    (h : a.Alike v b) :
    a = b := by
  cases a
  cases b
  obtain ⟨rfl, rfl, rfl, htally⟩ := h
  cases htally.eq sharp
  rfl

theorem Stats.Alike.eq
    {a b : Stats}
    (h : a.Alike v b) :
    a = b := by
  have hcalls : a.calls = b.calls := by
    rw [← List.forall₂_eq_eq_eq]
    apply h.calls.imp
    rintro one other ⟨hkind, hcount⟩
    exact Prod.ext hkind (hcount.eq sharp)
  cases a
  cases b
  obtain ⟨rfl, rfl, rfl, rfl, _⟩ := h
  cases hcalls
  rfl

theorem DispatchResult.Alike.eq
    {a b : DispatchResult}
    (h : a.Alike v b) :
    a = b := by
  cases a
  cases b
  obtain ⟨rfl, rfl, rfl, hfailures⟩ := h
  cases hfailures.eq sharp
  rfl

/-- A veil that overlooks no failures tells all answers apart. -/
theorem Call.AnswersAlike.eq
    {call : Call P}
    {a b : call.Answer}
    (h : call.AnswersAlike v a b) :
    a = b := by
  cases call with
  | stats => exact Stats.Alike.eq sharp h
  | calls kind => exact CallCount.Alike.eq sharp h
  | dispatch event => exact DispatchResult.Alike.eq sharp h
  | _ => exact h

end Sharpness
end States

section Endings

variable (v : Veil W N)

/-- User code ends alike. -/
inductive Ending.Alike (results : R → S → Prop) : Ending R → Ending S → Prop
  | returned {a b} (h : results a b) : Alike results (.returned a) (.returned b)
  | failed {a b} (h : v.Excuses a b) : Alike results (.failed a) (.failed b)
  | panicked {a b} (h : v.Excuses a b) : Alike results (.panicked a) (.panicked b)

/-- What is returned by user code, or reported as a failure, agrees. -/
inductive OutcomesAlike
    {ε : Type}
    (results : α → β → Prop) :
    Except ε α → Except ε β → Prop
  | ok {a b} (h : results a b) : OutcomesAlike results (.ok a) (.ok b)
  | error {a b} (h : v.Excuses a b) : OutcomesAlike results (.error a) (.error b)

/-- Runs end alike. -/
inductive Flow.Alike (results : α → β → Prop) : Flow α → Flow β → Prop
  | returned {a b} (h : results a b) : Alike results (.returned a) (.returned b)
  | unwinding {a b} (h : v.Excuses a b) :
      Alike results (.unwinding a) (.unwinding b)
  | exhausted : Alike results .exhausted .exhausted

theorem OutcomesAlike.eq
    {v : Veil W N}
    (sharp : v.failures = false)
    {ε : Type}
    {outcome other : Except ε α}
    (h : OutcomesAlike v Eq outcome other) :
    outcome = other := by
  cases h with
  | ok heq => exact congrArg Except.ok heq
  | error hexcused => exact congrArg Except.error (hexcused.eq sharp)

theorem Flow.Alike.eq
    {v : Veil W N}
    (sharp : v.failures = false)
    {ε : Type}
    {flow other : Flow (Except ε α)}
    (h : flow.Alike v (OutcomesAlike v Eq) other) :
    flow = other := by
  cases h with
  | returned houtcome => exact congrArg Flow.returned (houtcome.eq sharp)
  | unwinding hexcused => exact congrArg Flow.unwinding (hexcused.eq sharp)
  | exhausted => rfl

/-- What the end of a handler means for its chain, once all panics are caught. -/
def Flow.passed? : Flow (Except String Verdict) → Option Verdict
  | .returned outcome => some (Verdict.passed outcome)
  | .unwinding _ => some .allow
  | .exhausted => none

/-- The end of a handler counts alike: the same, or the same but for a failure. -/
def HandlerOutcomesAlike (a b : Except HandlerError Verdict) : Prop :=
  OutcomesAlike v Eq a b ∨
    v.failures = true ∧ Verdict.passed a = Verdict.passed b

theorem HandlerOutcomesAlike.refl
    {v : Veil W N}
    (outcome : Except HandlerError Verdict) :
    HandlerOutcomesAlike v outcome outcome := by
  cases outcome with
  | ok verdict => exact .inl (.ok rfl)
  | error reason => exact .inl (.error (.refl v _))

theorem HandlerOutcomesAlike.passed
    {v : Veil W N}
    {outcome other : Except HandlerError Verdict}
    (h : HandlerOutcomesAlike v outcome other) :
    Verdict.passed outcome = Verdict.passed other := by
  rcases h with hstrict | ⟨_, hpassed⟩
  · cases hstrict with
    | ok heq => exact heq
    | error _ => rfl
  · exact hpassed

/-- Outcomes that are alike are the same, unless failures are overlooked. -/
theorem HandlerOutcomesAlike.excused
    {v : Veil W N}
    {outcome other : Except HandlerError Verdict}
    (h : HandlerOutcomesAlike v outcome other) :
    v.Excuses outcome other := by
  rcases h with hstrict | ⟨blind, _⟩
  · cases hstrict with
    | ok heq => exact .inr (congrArg Except.ok heq)
    | error hexcused => exact hexcused.map Except.error
  · exact .inl blind

/-- Handlers end alike, or alike but for a failure. -/
def HandlersEndAlike (a b : Flow (Except String Verdict)) : Prop :=
  a.Alike v (OutcomesAlike v Eq) b ∨ v.failures = true ∧ a.passed? = b.passed?

/-- Cleanups end alike, or end somehow. -/
def CleanupsEndAlike (a b : Flow (Except String Unit)) : Prop :=
  a.Alike v (OutcomesAlike v Eq) b ∨
    v.cleanups = true ∧ a ≠ .exhausted ∧ b ≠ .exhausted

end Endings

section UserCode

variable (v : Veil W N)

/--
Code goes on alike after answers that are alike and with stores that are alike, and
ends alike.  Code that is like itself does not branch on what the veil hides.
-/
inductive Code.Alike
    (results : R → S → Prop) :
    Code P W N R → Code P W N S → Prop
  | finish
      {a b}
      (h : a.Alike v results b) :
      Alike results (.finish a) (.finish b)
  | call
      {request next other}
      (h :
        ∀ a b, request.AnswersAlike v a b →
          Alike results (next a) (other b)) :
      Alike results (.call request next) (.call request other)
  | read
      {next other}
      (h : ∀ a b, v.store a b → Alike results (next a) (other b)) :
      Alike results (.read next) (.read other)
  | write
      {a b next other}
      (hstore : v.store a b)
      (h : Alike results next other) :
      Alike results (.write a next) (.write b other)
  | log
      {entry next other}
      (h : Alike results next other) :
      Alike results (.log entry next) (.log entry other)
  | note
      {a b next other}
      (hnote : v.note a b)
      (h : Alike results next other) :
      Alike results (.note a next) (.note b other)

/-- The procedures of two behaviours do alike. -/
structure Behaviour.Alike (a b : Behaviour P W N) : Prop where
  onEvent :
    ∀ level procedure event,
      (a.onEvent level procedure event).Alike v Eq
        (b.onEvent level procedure event)
  onRemoval :
    ∀ level procedure,
      (a.onRemoval level procedure).Alike v Eq (b.onRemoval level procedure)

variable {v}

/-- A veil that overlooks nothing that code can see shows all code like itself. -/
theorem Code.Alike.refl
    (sharp : v.failures = false)
    (sharpStore : ∀ a b, v.store a b ↔ a = b)
    (sharpNote : ∀ a b, v.note a b ↔ a = b)
    (code : Code P W N R) :
    code.Alike v Eq code := by
  induction code with
  | finish ending =>
      cases ending with
      | returned value => exact .finish (.returned rfl)
      | failed reason => exact .finish (.failed (.refl v _))
      | panicked payload => exact .finish (.panicked (.refl v _))
  | call request next ih =>
      apply Alike.call
      intro a b h
      cases h.eq sharp
      exact ih a
  | read next ih =>
      apply Alike.read
      intro a b h
      cases (sharpStore a b).mp h
      exact ih a
  | write store next ih => exact .write ((sharpStore _ _).mpr rfl) ih
  | log entry next ih => exact .log ih
  | note what next ih => exact .note ((sharpNote _ _).mpr rfl) ih

end UserCode

section Traces

variable (v : Veil W N)

/-- The texts of notices agree but for the failures that they show. -/
inductive TextsAlike : String → String → Prop
  | same (text : String) : TextsAlike text text
  | calls
      {kind : EventKind}
      {a b : CallCount}
      (h : a.Alike v b) :
      TextsAlike (AdminReport.callsLine (kind, a))
        (AdminReport.callsLine (kind, b))

theorem TextsAlike.eq
    {v : Veil W N}
    (sharp : v.failures = false)
    {text other : String}
    (h : TextsAlike v text other) :
    text = other := by
  cases h with
  | same => rfl
  | calls hcount =>
      cases hcount.eq sharp
      rfl

/-- Records agree but for what the veil hides. -/
inductive Record.Alike : Record P N → Record P N → Prop
  | same (entry : Record P N) : Alike entry entry
  | handlerEnded
      {script kind a b}
      (h : HandlerOutcomesAlike v a b) :
      Alike (.handlerEnded script kind a) (.handlerEnded script kind b)
  | cleanupEnded
      {script a b}
      (h : v.cleanups = true ∨ OutcomesAlike v Eq a b) :
      Alike (.cleanupEnded script a) (.cleanupEnded script b)
  | cleanupUnwound
      {script a b}
      (h : v.Excuses a b) :
      Alike (.cleanupUnwound script a) (.cleanupUnwound script b)
  | cleanupFailed
      {script name a b}
      (h : v.Excuses a b) :
      Alike (.log (.cleanupFailed script name a))
        (.log (.cleanupFailed script name b))
  | answered
      {call a b}
      (h : call.AnswersAlike v a b) :
      Alike (.answered call a) (.answered call b)
  | unwound
      {call a b}
      (h : v.Excuses a b) :
      Alike (.unwound call a) (.unwound call b)
  | note
      {a b}
      (h : v.note a b) :
      Alike (.note a) (.note b)

/-- Whether a record may stand in one of two traces alone. -/
def Record.isOverlooked : Record P N → Bool
  | .log (.handlerFailed ..) => v.failures
  | .log (.cleanupFailed ..) => v.cleanups
  | _ => false

/-- What is recorded of a notice, latest first: whether it arrived, and why not. -/
def receiptOf
    (recipient text : String)
    (state : Dispatcher P) :
    Except NoticeError Unit → List (Moment P N)
  | .ok () => [⟨.notice recipient text true, state⟩]
  | .error reason =>
      [⟨.log (.noticeDropped recipient reason), state⟩,
        ⟨.notice recipient text false, state⟩]

/-- A notice is counted, and put on record with what became of it. -/
theorem Run.send_apply
    (notifier : Notifier)
    (nick text : String)
    (m : Machine P W N) :
    send notifier nick text m =
      (.returned (),
        { m with
          sent := m.sent + 1
          trace :=
            receiptOf nick text m.state (notifier.deliver m.sent nick text) ++
              m.trace }) := by
  simp only [send, bind, andThen, machine, countNotice]
  cases notifier.deliver m.sent nick text <;> rfl

/-- Traces agree but for what the veil hides. -/
inductive TracesAlike : List (Moment P N) → List (Moment P N) → Prop
  | nil : TracesAlike [] []
  | cons
      {record other state standing trace course}
      (hrecord : Record.Alike v record other)
      (hstate : Dispatcher.Alike v state standing)
      (h : TracesAlike trace course) :
      TracesAlike (⟨record, state⟩ :: trace) (⟨other, standing⟩ :: course)
  | left
      {moment trace course}
      (hidden : moment.record.isOverlooked v = true)
      (h : TracesAlike trace course) :
      TracesAlike (moment :: trace) course
  | right
      {moment trace course}
      (hidden : moment.record.isOverlooked v = true)
      (h : TracesAlike trace course) :
      TracesAlike trace (moment :: course)
  | notice
      {recipient text other state standing receipt response trace course}
      (htext : TextsAlike v text other)
      (hreceipt : text = other → v.receipt receipt response)
      (hstate : Dispatcher.Alike v state standing)
      (h : TracesAlike trace course) :
      TracesAlike (receiptOf recipient text state receipt ++ trace)
        (receiptOf recipient other standing response ++ course)

/-- Machines agree but for what the veil hides. -/
structure Machine.Alike (a b : Machine P W N) : Prop where
  state : a.state.Alike v b.state
  store : v.store a.store b.store
  trace : TracesAlike v a.trace b.trace
  sent : a.sent = b.sent

end Traces

section Calls

/-- The dispatch, the handler or the cleanup that a record says to have begun. -/
def Record.began? : Record P N → Option (Record P N)
  | .dispatchBegan event => some (.dispatchBegan event)
  | .handlerBegan script handler event =>
      some (.handlerBegan script handler event)
  | .cleanupBegan script cleanup => some (.cleanupBegan script cleanup)
  | _ => none

/-- The dispatches, handlers and cleanups that began in a trace, latest first. -/
def callsIn (trace : List (Moment P N)) : List (Record P N) :=
  trace.filterMap fun moment => moment.record.began?

/-- The call that a record says to have been answered, with the answer. -/
def Record.answer? : Record P N → Option ((call : Call P) × call.Answer)
  | .answered call answer => some ⟨call, answer⟩
  | _ => none

/-- The calls that were answered in a trace, with the answers, latest first. -/
def answersIn (trace : List (Moment P N)) : List ((call : Call P) × call.Answer) :=
  trace.filterMap fun moment => moment.record.answer?

variable {v : Veil W N}

/-- One and the same call was answered alike. -/
inductive Call.AnsweredAlike
    (v : Veil W N) :
    (call : Call P) × call.Answer → (call : Call P) × call.Answer → Prop
  | same
      {call : Call P}
      {a b : call.Answer}
      (h : call.AnswersAlike v a b) :
      AnsweredAlike v ⟨call, a⟩ ⟨call, b⟩

theorem Record.Alike.began?
    {a b : Record P N}
    (h : a.Alike v b) :
    a.began? = b.began? := by
  cases h <;> rfl

theorem Record.Alike.answer?
    {a b : Record P N}
    (h : a.Alike v b) :
    Option.Rel (Call.AnsweredAlike v) a.answer? b.answer? := by
  cases h with
  | same =>
      cases a with
      | answered call answer => exact .some (.same (.refl answer))
      | _ => exact .none
  | answered h => exact .some (.same h)
  | _ => exact .none

theorem Record.answer?_of_isOverlooked
    {entry : Record P N}
    (hidden : entry.isOverlooked v = true) :
    entry.answer? = none := by
  cases entry with
  | answered call answer => exact absurd hidden (by simp [isOverlooked])
  | _ => rfl

theorem Record.began?_of_isOverlooked
    {entry : Record P N}
    (hidden : entry.isOverlooked v = true) :
    entry.began? = none := by
  cases entry with
  | dispatchBegan event => exact absurd hidden (by simp [isOverlooked])
  | handlerBegan script handler event =>
      exact absurd hidden (by simp [isOverlooked])
  | cleanupBegan script cleanup => exact absurd hidden (by simp [isOverlooked])
  | _ => rfl

theorem callsIn_receiptOf_append
    (recipient text : String)
    (state : Dispatcher P)
    (receipt : Except NoticeError Unit)
    (trace : List (Moment P N)) :
    callsIn (receiptOf recipient text state receipt ++ trace) = callsIn trace := by
  cases receipt <;> rfl

theorem answersIn_receiptOf_append
    (recipient text : String)
    (state : Dispatcher P)
    (receipt : Except NoticeError Unit)
    (trace : List (Moment P N)) :
    answersIn (receiptOf recipient text state receipt ++ trace) =
      answersIn trace := by
  cases receipt <;> rfl

/-- **Under every veil the same calls are answered, in one order, and alike.** -/
theorem TracesAlike.answers
    {a b : List (Moment P N)}
    (h : TracesAlike v a b) :
    List.Forall₂ (Call.AnsweredAlike v) (answersIn a) (answersIn b) := by
  induction h with
  | nil => exact .nil
  | @cons record other _ _ _ _ hrecord _ _ ih =>
      unfold answersIn at ih ⊢
      rw [List.filterMap_cons, List.filterMap_cons]
      have key := hrecord.answer?
      generalize record.answer? = first at key
      generalize other.answer? = second at key
      cases key with
      | none => exact ih
      | some h => exact .cons h ih
  | left hidden _ ih =>
      unfold answersIn at ih ⊢
      rw [List.filterMap_cons, Record.answer?_of_isOverlooked hidden]
      exact ih
  | right hidden _ ih =>
      unfold answersIn at ih ⊢
      rw [List.filterMap_cons, Record.answer?_of_isOverlooked hidden]
      exact ih
  | notice _ _ _ _ ih =>
      rw [answersIn_receiptOf_append, answersIn_receiptOf_append]
      exact ih

/-- **Under every veil the same handlers and cleanups are called, in one order.** -/
theorem TracesAlike.calls
    {a b : List (Moment P N)}
    (h : TracesAlike v a b) :
    callsIn a = callsIn b := by
  induction h with
  | nil => rfl
  | cons hrecord _ _ ih =>
      unfold callsIn at ih ⊢
      rw [List.filterMap_cons, List.filterMap_cons, hrecord.began?, ih]
  | left hidden _ ih =>
      unfold callsIn at ih ⊢
      rw [List.filterMap_cons, Record.began?_of_isOverlooked hidden, ih]
  | right hidden _ ih =>
      unfold callsIn at ih ⊢
      rw [List.filterMap_cons, Record.began?_of_isOverlooked hidden, ih]
  | notice _ _ _ _ ih =>
      rw [callsIn_receiptOf_append, callsIn_receiptOf_append, ih]

end Calls
end ScriptHub
