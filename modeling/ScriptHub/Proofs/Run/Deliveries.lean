import ScriptHub.Proofs.Run.Retelling

/-!
# Deliveries that fail

Whether a notice arrives is known to the notifier alone: what a dispatcher does next
does not depend on it, nor does anything that user code is told.  So a run has a course
of its own, in which no notice was dropped, and a notifier only adds to it a record of
every notice that it did not deliver.

**Results.**
* `Notifier.retell`: the course of a run as a notifier leaves it on record.
* `TracesRetold.exists_course`: runs that differ in their notifiers have one course.
* `deliveries_change_only_receipts`: any two notifiers compared over whole runs.
-/

namespace ScriptHub

variable {P W N R : Type}

section Keeping

variable {call : Call P}

theorem Call.renamedAnswer_keeping (answer : call.Answer) :
    call.renamedAnswer .keeping answer = answer := by
  cases call with
  | info script => exact congrFun Option.map_id answer
  | list => exact List.map_id answer
  | _ => rfl

theorem Call.renamedAnswered_keeping :
    Call.renamedAnswered (P := P) .keeping = id := by
  funext ⟨call, answer⟩
  cases call with
  | register spec => rfl
  | info script => exact congrArg (Sigma.mk _) (renamedAnswer_keeping answer)
  | list => exact congrArg (Sigma.mk _) (renamedAnswer_keeping answer)
  | _ => rfl

theorem Record.renamed_keeping (record : Record P N) :
    record.renamed .keeping = record := by
  cases record with
  | answered call answer =>
      exact
        congrArg
          (fun answered : (call : Call P) × call.Answer =>
            Record.answered answered.1 answered.2)
          (congrFun Call.renamedAnswered_keeping ⟨call, answer⟩)
  | log entry => cases entry <;> rfl
  | _ => rfl

theorem TextsRetold.eq_of_keeping
    {text other : String}
    (h : TextsRetold .keeping text other) :
    text = other := by
  cases h <;> rfl

end Keeping

section Courses

/--
The course of a run as a notifier leaves it on record: with the receipt of every notice
in the place of the notice.
-/
def Notifier.retell (notifier : Notifier) :
    List (Moment P N) → List (Moment P N)
  | [] => []
  | ⟨.notice recipient text _, state⟩ :: rest =>
      receiptOf recipient text state
        (notifier.deliver (noticesIn rest).length recipient text) ++
        notifier.retell rest
  | moment :: rest => moment :: notifier.retell rest

theorem Notifier.retell_cons
    (notifier : Notifier)
    {record : Record P N}
    (hother : record.notice? = none)
    (state : Dispatcher P)
    (course : List (Moment P N)) :
    notifier.retell (⟨record, state⟩ :: course) =
      ⟨record, state⟩ :: notifier.retell course := by
  cases record with
  | notice recipient text delivered => exact absurd hother (by simp [Record.notice?])
  | _ => rfl

/-- The guise in which only the notifier is another. -/
def Guise.between (first second : Notifier) : Guise W N :=
  { names := .keeping, notifier := first, other := second
    store := Eq, note := Eq, entry := Eq }

variable {first second : Notifier}

@[simp] theorem Guise.between_names :
    (between first second : Guise W N).names = .keeping := by
  rfl

/-- No code depends on the notifier. -/
theorem Code.retold_between (code : Code P W N R) :
    code.Retold (.between first second) Eq code := by
  induction code with
  | finish ending =>
      cases ending with
      | returned value => exact .returned rfl
      | failed reason => exact .failed reason
      | panicked payload => exact .panicked payload
  | call request next ih =>
      apply Retold.call
      intro answer
      show (next answer).Retold _ Eq (next (request.renamedAnswer .keeping answer))
      rw [Call.renamedAnswer_keeping]
      exact ih answer
  | read next ih =>
      apply Retold.read
      rintro store _ rfl
      exact ih store
  | write store next ih => exact .write rfl ih
  | log entry next ih => exact .log rfl ih
  | note what next ih => exact .note rfl ih

theorem Record.Retold.eq_of_between
    {record other : Record P N}
    (h : record.Retold (.between first second : Guise W N) other) :
    record = other := by
  cases h with
  | renamed _ => exact record.renamed_keeping.symm
  | log h => exact congrArg Record.log h
  | note h => exact congrArg Record.note h

/-- **Runs that differ only in their notifiers have one course.** -/
theorem TracesRetold.exists_course
    {sent : Nat}
    {a b : List (Moment P N)}
    (h : TracesRetold (.between first second : Guise W N) sent a b) :
    ∃ course : List (Moment P N),
      (noticesIn course).length = sent ∧
        a = first.retell course ∧
        b = second.retell course := by
  induction h with
  | nil => exact ⟨[], rfl, rfl, rfl⟩
  | @cons sent record other state standing trace course hrecord hstate _ ih =>
      obtain ⟨told, hsent, rfl, rfl⟩ := ih
      obtain ⟨hother, _⟩ := hrecord.notice?
      cases hrecord.eq_of_between
      have hsame : standing = state := hstate.trans state.renamed_keeping
      subst hsame
      refine ⟨⟨record, standing⟩ :: told, ?_, ?_, ?_⟩
      · rw [noticesIn_cons hother, hsent]
      · rw [first.retell_cons hother]
      · rw [second.retell_cons hother]
  | @notice sent recipient text other state standing trace course htext hstate _ ih =>
      obtain ⟨told, rfl, rfl, rfl⟩ := ih
      cases htext.eq_of_keeping
      have hsame : standing = state := hstate.trans state.renamed_keeping
      subst hsame
      refine ⟨⟨.notice recipient text true, standing⟩ :: told, ?_, rfl, rfl⟩
      simp [noticesIn, Record.notice?]

end Courses

/--
**Deliveries that fail change nothing but their receipts.**

Take the same host and the same scripts with any two notifiers.  In both runs every
piece of host code ends in the same way, the dispatchers, the counters and the stores
at the end are the same, the same handlers and cleanups are called with the same events,
all calls get the same answers, and the same notices are sent to the same recipients,
each in one order.  The two traces come from one course, state by state, and differ only
in what stands for each notice: a delivered notice leaves no other record, and a dropped
one is followed by the record that it was dropped.
-/
theorem deliveries_change_only_receipts
    (settings : Settings)
    (behaviour : Behaviour P W N)
    (first second : Notifier)
    (room : Nat)
    (codes : List (Code P W N R))
    (store : W) :
    let run := Setup.runAll ⟨settings, first, behaviour⟩ room codes (.fresh store)
    let other := Setup.runAll ⟨settings, second, behaviour⟩ room codes (.fresh store)
    run.1 = other.1 ∧
      run.2.state = other.2.state ∧
      run.2.store = other.2.store ∧
      run.2.sent = other.2.sent ∧
      callsIn run.2.trace = callsIn other.2.trace ∧
      answersIn run.2.trace = answersIn other.2.trace ∧
      noticesIn run.2.trace = noticesIn other.2.trace ∧
      ∃ course,
        run.2.trace = first.retell course ∧
          other.2.trace = second.retell course := by
  intro run other
  have hbehaviour : behaviour.Retold (.between first second) behaviour :=
    ⟨fun _ _ _ => Code.retold_between _, fun _ _ => Code.retold_between _⟩
  have hcodes :
      List.Forall₂ (Code.Retold (.between first second) Eq) codes codes :=
    List.forall₂_same.mpr fun code _ => code.retold_between
  have retold : RunsRetold (.between first second) Eq run other := by
    have key :
        RunsRetold (.between first second) Eq run
          (Setup.runAllRenamed ⟨settings, second, behaviour⟩ .keeping room codes
            (.fresh store)) :=
      Setup.retells_runAll hbehaviour hcodes room (Machine.retold_fresh rfl)
    rw [Setup.runAllRenamed_keeping] at key
    exact key
  obtain ⟨hflows, hstate, hstore, htrace, hsent⟩ := retold
  have hsame : run.1 = other.1 := by
    rw [← List.forall₂_eq_eq_eq]
    apply hflows.imp
    intro flow stream h
    exact (h.imp OutcomesRetold.eq).eq
  have hanswers : answersIn other.2.trace = answersIn run.2.trace := by
    have key := htrace.answers
    rw [Guise.between_names, Call.renamedAnswered_keeping, List.map_id] at key
    exact key
  have hnotices : noticesIn run.2.trace = noticesIn other.2.trace := by
    rw [← List.forall₂_eq_eq_eq]
    apply htrace.notices.imp
    rintro ⟨recipient, text⟩ ⟨_, second⟩ ⟨rfl, htext⟩
    exact congrArg (Prod.mk _) htext.eq_of_keeping
  obtain ⟨course, _, hrun, hother⟩ := htrace.exists_course
  exact
    ⟨hsame, (hstate.trans run.2.state.renamed_keeping).symm, hstore, hsent.symm,
      htrace.calls.symm, hanswers.symm, hnotices, course, hrun, hother⟩

end ScriptHub
