import ScriptHub.Proofs.Admin.Surface
import ScriptHub.Proofs.Dispatcher.Renaming
import ScriptHub.Proofs.Run.Veil

/-!
# Runs in another guise

A run is compared with one in another guise: the registrations have other names, and
another notifier takes the notices.  Unlike under a veil nothing is overlooked here.
Every record of the one run stands in the other at the same place, under the new names,
and every notice is followed by what its own notifier makes of it.  What user code keeps,
notes and logs for itself is compared by relations of its own, for it may keep names.

**Results.**
* `Setup.runAllRenamed`: a run whose registrations are renamed as they are made.
* `Setup.runAllRenamed_respelled`: such a run as one of code with other names in it.
* `Code.Retold`: code that goes on in the same way after answers with other names.
* `Machine.Retold`: machines that agree but for their guise.
* `TracesRetold.calls`, `TracesRetold.answers`, `TracesRetold.notices`: the handlers and
  cleanups that are called, the answers and the notices of a run in another guise.
-/

namespace ScriptHub

variable {P W N R S α β : Type}

/--
How two runs that are compared differ: in the names of the second run, and in the
notifiers of the first and the second.  The stores, the notes and the log records of
user code correspond by relations of their own.
-/
structure Guise (W N : Type) where
  names : Renaming
  notifier : Notifier
  other : Notifier
  store : W → W → Prop
  note : N → N → Prop
  entry : LogEntry → LogEntry → Prop

section Renaming

variable (names : Renaming)

/-- A log record with the registration that it names renamed. -/
def LogEntry.renamed : LogEntry → LogEntry
  | .scriptRegistered script name priority hooks enabled =>
      .scriptRegistered script (names script name) priority hooks enabled
  | .cleanupFailed script name reason =>
      .cleanupFailed script (names script name) reason
  | .scriptUnregistered script name =>
      .scriptUnregistered script (names script name)
  | .handlerBlocked kind script name =>
      .handlerBlocked kind script (names script name)
  | .handlerFailed kind script name reason =>
      .handlerFailed kind script (names script name) reason
  | entry => entry

/-- An answer with the registrations that it shows renamed. -/
def Call.renamedAnswer : (call : Call P) → call.Answer → call.Answer
  | .info _, answer => Option.map (ScriptInfo.renamed names) answer
  | .list, answer => List.map (ScriptInfo.renamed names) answer
  | _, answer => answer

/-- An answered call with the registrations that are made or shown renamed. -/
def Call.renamedAnswered :
    (call : Call P) × call.Answer → (call : Call P) × call.Answer
  | ⟨.register spec, script⟩ => ⟨.register (spec.renamed names script), script⟩
  | ⟨call, answer⟩ => ⟨call, call.renamedAnswer names answer⟩

/-- A record with the registrations that it names or shows renamed. -/
def Record.renamed : Record P N → Record P N
  | .answered call answer =>
      let answered := Call.renamedAnswered names ⟨call, answer⟩
      .answered answered.1 answered.2
  | .log entry => .log (entry.renamed names)
  | record => record

/-- Unless a registration was made, the renamed record is about the same call. -/
theorem Record.renamed_answered
    {call : Call P}
    (hother : ∀ spec, call ≠ .register spec)
    (answer : call.Answer) :
    (Record.answered call answer : Record P N).renamed names =
      .answered call (call.renamedAnswer names answer) := by
  cases call with
  | register spec => exact absurd rfl (hother spec)
  | _ => rfl

theorem Record.began?_renamed (record : Record P N) :
    (record.renamed names).began? = record.began? := by
  cases record <;> rfl

theorem Record.notice?_renamed (record : Record P N) :
    (record.renamed names).notice? = record.notice? := by
  cases record <;> rfl

theorem Record.answer?_renamed (record : Record P N) :
    (record.renamed names).answer? =
      record.answer?.map (Call.renamedAnswered names) := by
  cases record <;> rfl

end Renaming

section Runs

/-- Answers a call, with the registration that it makes renamed. -/
def Run.answerRenamed
    (setup : Setup P W N)
    (names : Renaming)
    (scripts : Scripts P W N) :
    (call : Call P) → Run P W N call.Answer
  | .register spec => do
      let script := (← state).nextId
      answer setup scripts (.register (spec.renamed names script))
  | call => answer setup scripts call

theorem Run.answerRenamed_of_not_register
    (setup : Setup P W N)
    (names : Renaming)
    (scripts : Scripts P W N)
    {call : Call P}
    (hother : ∀ spec, call ≠ .register spec) :
    answerRenamed setup names scripts call = answer setup scripts call := by
  cases call with
  | register spec => exact absurd rfl (hother spec)
  | _ => rfl

namespace Setup

variable (setup : Setup P W N) (names : Renaming)

/-- How procedures are run at a level if their registrations are renamed. -/
def renamedScripts : (room level : Nat) → Scripts P W N
  | 0, _ =>
      { handle := fun _ _ => Run.exhaust
        clean := fun _ => Run.exhaust }
  | room + 1, level =>
      let inner := renamedScripts room (level + 1)
      { handle := fun procedure event =>
          (setup.behaviour.onEvent level procedure event).run
            (Run.answerRenamed setup names inner)
        clean := fun procedure =>
          (setup.behaviour.onRemoval level procedure).run
            (Run.answerRenamed setup names inner) }

/-- Runs pieces of host code one after the other, with all registrations renamed. -/
def runAllRenamed
    (room : Nat) :
    List (Code P W N R) →
    Machine P W N →
    List (Flow (Except String R)) × Machine P W N
  | [], m => ([], m)
  | code :: rest, m =>
      let ending :=
        code.run
          (Run.answerRenamed setup names (setup.renamedScripts names room 0)) m
      let others := runAllRenamed room rest ending.2
      (ending.1 :: others.1, others.2)

end Setup

/-- To keep all names is to answer as it is. -/
theorem Run.answerRenamed_keeping
    (setup : Setup P W N)
    (scripts : Scripts P W N) :
    answerRenamed setup .keeping scripts = answer setup scripts := by
  funext call
  cases call <;> rfl

theorem Setup.renamedScripts_keeping
    (setup : Setup P W N)
    (room level : Nat) :
    setup.renamedScripts .keeping room level = setup.scripts room level := by
  induction room generalizing level with
  | zero => rfl
  | succ room ih =>
      simp only [renamedScripts, scripts, ih, Run.answerRenamed_keeping]

/-- To keep all names is to run as it is. -/
theorem Setup.runAllRenamed_keeping
    (setup : Setup P W N)
    (room : Nat)
    (codes : List (Code P W N R))
    (m : Machine P W N) :
    setup.runAllRenamed .keeping room codes m = setup.runAll room codes m := by
  induction codes generalizing m with
  | nil => rfl
  | cons code rest ih =>
      simp only [runAllRenamed, runAll, runHost, renamedScripts_keeping,
        Run.answerRenamed_keeping, ih]

end Runs

section Respelling

/-- The same code with other names written in it. -/
def Code.respelled (f : String → String) : Code P W N R → Code P W N R
  | .finish ending => .finish ending
  | .call (.register spec) next =>
      .call (.register { spec with name := f spec.name }) fun script =>
        (next script).respelled f
  | .call request next => .call request fun answer => (next answer).respelled f
  | .read next => .read fun store => (next store).respelled f
  | .write store next => .write store (next.respelled f)
  | .log entry next => .log entry (next.respelled f)
  | .note what next => .note what (next.respelled f)

/-- The same setup with other names written in the code of its procedures. -/
def Setup.respelled (setup : Setup P W N) (f : String → String) : Setup P W N :=
  { setup with
    behaviour :=
      { onEvent := fun level procedure event =>
          (setup.behaviour.onEvent level procedure event).respelled f
        onRemoval := fun level procedure =>
          (setup.behaviour.onRemoval level procedure).respelled f } }

variable (setup : Setup P W N) (f : String → String)

theorem Code.run_respelled
    (scripts : Scripts P W N)
    (code : Code P W N R) :
    (code.respelled f).run (Run.answer (setup.respelled f) scripts) =
      code.run (Run.answerRenamed setup (fun _ => f) scripts) := by
  induction code with
  | finish ending => cases ending <;> rfl
  | call request next ih =>
      have hrest := funext ih
      cases request with
      | register spec =>
          funext m
          simp only [respelled, Code.run, hrest]
          rfl
      | _ =>
          simp only [respelled, Code.run, hrest]
          rfl
  | read next ih => simp only [respelled, Code.run, ih]
  | write store next ih => simp only [respelled, Code.run, ih]
  | log entry next ih => simp only [respelled, Code.run, ih]
  | note what next ih => simp only [respelled, Code.run, ih]

theorem Setup.renamedScripts_respelled (room level : Nat) :
    setup.renamedScripts (fun _ => f) room level =
      (setup.respelled f).scripts room level := by
  induction room generalizing level with
  | zero => rfl
  | succ room ih =>
      simp only [renamedScripts, scripts, ih, ← Code.run_respelled]
      rfl

/-- A renaming that looks at no id is a run of code with other names written in it. -/
theorem Setup.runAllRenamed_respelled
    (room : Nat)
    (codes : List (Code P W N R))
    (m : Machine P W N) :
    setup.runAllRenamed (fun _ => f) room codes m =
      (setup.respelled f).runAll room (codes.map (Code.respelled f)) m := by
  induction codes generalizing m with
  | nil => rfl
  | cons code rest ih =>
      simp only [runAllRenamed, List.map_cons, runAll, runHost,
        renamedScripts_respelled, Code.run_respelled, ih]

end Respelling

section UserCode

/-- What is returned by user code corresponds, and failures are the same. -/
inductive OutcomesRetold
    (results : α → β → Prop) :
    Except String α → Except String β → Prop
  | ok {a b} (h : results a b) : OutcomesRetold results (.ok a) (.ok b)
  | error (reason : String) : OutcomesRetold results (.error reason) (.error reason)

/-- Runs end in the same way, and what they return corresponds. -/
inductive Flow.Retold (results : α → β → Prop) : Flow α → Flow β → Prop
  | returned {a b} (h : results a b) : Retold results (.returned a) (.returned b)
  | unwinding (payload : Payload) :
      Retold results (.unwinding payload) (.unwinding payload)
  | exhausted : Retold results .exhausted .exhausted

theorem OutcomesRetold.eq
    {outcome other : Except String α}
    (h : OutcomesRetold Eq outcome other) :
    outcome = other := by
  cases h with
  | ok heq => exact congrArg Except.ok heq
  | error reason => rfl

theorem Flow.Retold.imp
    {results others : α → β → Prop}
    {flow : Flow α}
    {stream : Flow β}
    (h : flow.Retold results stream)
    (himp : ∀ {a b}, results a b → others a b) :
    flow.Retold others stream := by
  cases h with
  | returned hresult => exact .returned (himp hresult)
  | unwinding payload => exact .unwinding payload
  | exhausted => exact .exhausted

/-- Runs that return the same values end the same. -/
theorem Flow.Retold.eq
    {flow stream : Flow α}
    (h : flow.Retold Eq stream) :
    flow = stream := by
  cases h with
  | returned heq => exact congrArg Flow.returned heq
  | _ => rfl

variable (g : Guise W N)

/--
Code goes on in the same way after answers with other names, and makes registrations
that are the same once renamed.  Code that is retold as itself does not branch on names.
-/
inductive Code.Retold
    (results : R → S → Prop) :
    Code P W N R → Code P W N S → Prop
  | returned
      {a b}
      (h : results a b) :
      Retold results (.finish (.returned a)) (.finish (.returned b))
  | failed (reason : String) :
      Retold results (.finish (.failed reason)) (.finish (.failed reason))
  | panicked (payload : Payload) :
      Retold results (.finish (.panicked payload)) (.finish (.panicked payload))
  | register
      {spec other next onward}
      (hspec : ∀ script, other.renamed g.names script = spec.renamed g.names script)
      (h : ∀ script, Retold results (next script) (onward script)) :
      Retold results (.call (.register spec) next) (.call (.register other) onward)
  | call
      {request next onward}
      (h :
        ∀ answer,
          Retold results (next answer)
            (onward (request.renamedAnswer g.names answer))) :
      Retold results (.call request next) (.call request onward)
  | read
      {next onward}
      (h : ∀ a b, g.store a b → Retold results (next a) (onward b)) :
      Retold results (.read next) (.read onward)
  | write
      {a b next onward}
      (hstore : g.store a b)
      (h : Retold results next onward) :
      Retold results (.write a next) (.write b onward)
  | log
      {a b next onward}
      (hentry : g.entry a b)
      (h : Retold results next onward) :
      Retold results (.log a next) (.log b onward)
  | note
      {a b next onward}
      (hnote : g.note a b)
      (h : Retold results next onward) :
      Retold results (.note a next) (.note b onward)

/-- The procedures of two behaviours do the same in their guises. -/
structure Behaviour.Retold (a b : Behaviour P W N) : Prop where
  onEvent :
    ∀ level procedure event,
      (a.onEvent level procedure event).Retold g Eq
        (b.onEvent level procedure event)
  onRemoval :
    ∀ level procedure,
      (a.onRemoval level procedure).Retold g Eq (b.onRemoval level procedure)

end UserCode

section Traces

/-- The texts of notices agree but for the names in the lines of a list. -/
inductive TextsRetold (names : Renaming) : String → String → Prop
  | same (text : String) : TextsRetold names text text
  | line (info : ScriptInfo) :
      TextsRetold names (AdminReport.listLine info)
        (AdminReport.listLine (info.renamed names))

variable (g : Guise W N)

/-- Records that are no notices agree but for their guise. -/
inductive Record.Retold : Record P N → Record P N → Prop
  | renamed
      {record}
      (hother : record.notice? = none) :
      Retold record (record.renamed g.names)
  | log
      {a b}
      (h : g.entry a b) :
      Retold (.log a) (.log b)
  | note
      {a b}
      (h : g.note a b) :
      Retold (.note a) (.note b)

/--
Traces with so many notices agree but for their guise: they have the same records under
the names of each, and the same notices with the receipts of either notifier.
-/
inductive TracesRetold :
    Nat → List (Moment P N) → List (Moment P N) → Prop
  | nil : TracesRetold 0 [] []
  | cons
      {sent record other state standing trace course}
      (hrecord : Record.Retold g record other)
      (hstate : standing = state.renamed g.names)
      (h : TracesRetold sent trace course) :
      TracesRetold sent (⟨record, state⟩ :: trace) (⟨other, standing⟩ :: course)
  | notice
      {sent recipient text other state standing trace course}
      (htext : TextsRetold g.names text other)
      (hstate : standing = state.renamed g.names)
      (h : TracesRetold sent trace course) :
      TracesRetold (sent + 1)
        (receiptOf recipient text state
          (g.notifier.deliver sent recipient text) ++ trace)
        (receiptOf recipient other standing
          (g.other.deliver sent recipient other) ++ course)

/-- Machines agree but for their guise. -/
structure Machine.Retold (a b : Machine P W N) : Prop where
  state : b.state = a.state.renamed g.names
  store : g.store a.store b.store
  trace : TracesRetold g a.sent a.trace b.trace
  sent : b.sent = a.sent

variable {g}

theorem Record.Retold.began?
    {record other : Record P N}
    (h : record.Retold g other) :
    other.began? = record.began? := by
  cases h with
  | renamed _ => exact record.began?_renamed g.names
  | _ => rfl

theorem Record.Retold.notice?
    {record other : Record P N}
    (h : record.Retold g other) :
    record.notice? = none ∧ other.notice? = none := by
  cases h with
  | renamed hother => exact ⟨hother, (record.notice?_renamed g.names).trans hother⟩
  | _ => exact ⟨rfl, rfl⟩

theorem Record.Retold.answer?
    {record other : Record P N}
    (h : record.Retold g other) :
    other.answer? = record.answer?.map (Call.renamedAnswered g.names) := by
  cases h with
  | renamed _ => exact record.answer?_renamed g.names
  | _ => rfl

theorem noticesIn_receiptOf_append
    (recipient text : String)
    (state : Dispatcher P)
    (receipt : Except NoticeError Unit)
    (trace : List (Moment P N)) :
    noticesIn (receiptOf recipient text state receipt ++ trace) =
      noticesIn trace ++ [(recipient, text)] := by
  rw [noticesIn_append]
  cases receipt <;> rfl

/-- A record that is no notice leaves the notices as they are. -/
theorem noticesIn_cons
    {record : Record P N}
    (hother : record.notice? = none)
    (state : Dispatcher P)
    (trace : List (Moment P N)) :
    noticesIn (⟨record, state⟩ :: trace) = noticesIn trace := by
  unfold noticesIn
  rw [List.filterMap_cons, hother]

/-- **In every guise the same handlers and cleanups are called, in one order.** -/
theorem TracesRetold.calls
    {sent : Nat}
    {a b : List (Moment P N)}
    (h : TracesRetold g sent a b) :
    callsIn b = callsIn a := by
  induction h with
  | nil => rfl
  | cons hrecord _ _ ih =>
      unfold callsIn at ih ⊢
      rw [List.filterMap_cons, List.filterMap_cons, hrecord.began?, ih]
  | notice _ _ _ ih =>
      rw [callsIn_receiptOf_append, callsIn_receiptOf_append, ih]

/-- **In every guise the same calls are answered, in one order, but for the names.** -/
theorem TracesRetold.answers
    {sent : Nat}
    {a b : List (Moment P N)}
    (h : TracesRetold g sent a b) :
    answersIn b = (answersIn a).map (Call.renamedAnswered g.names) := by
  induction h with
  | nil => rfl
  | @cons _ record _ _ _ _ _ hrecord _ _ ih =>
      unfold answersIn at ih ⊢
      rw [List.filterMap_cons, List.filterMap_cons, hrecord.answer?, ih]
      cases record.answer? <;> rfl
  | notice _ _ _ ih =>
      rw [answersIn_receiptOf_append, answersIn_receiptOf_append]
      exact ih

/-- **In every guise the same notices are sent to the same recipients, in one order.** -/
theorem TracesRetold.notices
    {sent : Nat}
    {a b : List (Moment P N)}
    (h : TracesRetold g sent a b) :
    List.Forall₂
      (fun notice other =>
        notice.1 = other.1 ∧ TextsRetold g.names notice.2 other.2)
      (noticesIn a) (noticesIn b) := by
  induction h with
  | nil => exact .nil
  | cons hrecord _ _ ih =>
      obtain ⟨hfirst, hsecond⟩ := hrecord.notice?
      rw [noticesIn_cons hfirst, noticesIn_cons hsecond]
      exact ih
  | notice htext _ _ ih =>
      rw [noticesIn_receiptOf_append, noticesIn_receiptOf_append]
      exact List.rel_append ih (.cons ⟨rfl, htext⟩ .nil)

end Traces
end ScriptHub
