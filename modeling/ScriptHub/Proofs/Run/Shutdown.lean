import ScriptHub.Proofs.Run.Sweep

/-!
# Shutting a dispatcher down

A shutdown sweeps over the ids that are live at its start.  Cleanups may remove
some of them first, which the shutdown does not count, and may register others,
which it leaves alone.  A panic that leaves a cleanup cuts the sweep; what was not
reached is left to the next shutdown.

**Results.**
* `Course.made_of_issued`: an id that was issued was answered.
* `ShutdownCall.completes`: what a shutdown leaves that returns.
* `ShutdownCall.breaks`: what a shutdown leaves that a panic cuts.
* `shutdown_removes_registrations`: both together, from every machine that a run
  can come to.
-/

namespace ScriptHub

variable {P W N : Type}

section Issued

variable {settings : Settings} {setup : Setup P W N} {a b : Machine P W N}

/-- A step issues no id, or makes a registration. -/
theorem Step.nextId_cases (once : Step settings a b) :
    b.state.nextId = a.state.nextId ∨
      ∃ spec, b = a.registered settings spec := by
  cases once with
  | register spec => exact .inr ⟨spec, rfl⟩
  | unregister registration live =>
      left
      rw [Machine.unregistered_state]
      rfl
  | _ => exact .inl rfl

/-- A registration was made, and answered, on the way from one machine to another. -/
def Machine.Makes (a b : Machine P W N) (script : ScriptId) : Prop :=
  ∃ moment earlier spec,
    moment :: earlier <:+ b.trace ∧
      a.trace <:+ earlier ∧
      moment.record.made? = some (spec, script) ∧
      script < moment.state.nextId

theorem Machine.Makes.later
    {c : Machine P W N}
    {script : ScriptId}
    (h : a.Makes b script)
    (hlater : b.trace <:+ c.trace) :
    a.Makes c script := by
  obtain ⟨moment, earlier, spec, hsuffix, hrest⟩ := h
  exact ⟨moment, earlier, spec, hsuffix.trans hlater, hrest⟩

/-- The id that a registration is given is answered at once. -/
theorem Machine.makes_registered
    (hpast : a.trace <:+ b.trace)
    (spec : Spec P) :
    a.Makes (b.registered settings spec) b.state.nextId := by
  refine ⟨_, _, spec, List.suffix_refl _, ?_, rfl, Nat.lt_succ_self _⟩
  exact hpast.trans ⟨[_, _], rfl⟩

/-- An id that was issued in a course was answered in it. -/
theorem Course.made_of_issued
    (course : Course setup a b)
    {script : ScriptId}
    (hnew : a.state.nextId ≤ script)
    (hissued : script < b.state.nextId) :
    a.Makes b script := by
  have key :
      a.trace <:+ b.trace ∧
        (script < b.state.nextId → a.Makes b script) := by
    refine
      Course.preserves
        (fun m =>
          a.trace <:+ m.trace ∧ (script < m.state.nextId → a.Makes m script))
        ?_ ?_ ?_ course ⟨List.suffix_refl _, ?_⟩
    · rintro x y once ⟨hpast, hmade⟩
      refine ⟨hpast.trans once.trace_suffix, ?_⟩
      intro hlt
      rcases once.nextId_cases with hsame | ⟨spec, rfl⟩
      · rw [hsame] at hlt
        exact (hmade hlt).later once.trace_suffix
      · rcases Nat.lt_succ_iff_lt_or_eq.mp hlt with hold | rfl
        · exact (hmade hold).later once.trace_suffix
        · exact Machine.makes_registered hpast spec
    · rintro m event ⟨hpast, hmade⟩
      refine ⟨hpast.trans (List.suffix_cons _ _), ?_⟩
      intro hlt
      exact (hmade hlt).later (List.suffix_cons _ _)
    · rintro m event result ⟨hpast, hmade⟩
      refine ⟨hpast.trans (List.suffix_cons _ _), ?_⟩
      intro hlt
      exact (hmade hlt).later (List.suffix_cons _ _)
    · intro hlt
      exact absurd hlt (Nat.not_lt_of_le hnew)
  exact key.2 hissued

/-- What is live now was live all along since it was made. -/
theorem Machine.Orderly.isLive_of_split
    {m : Machine P W N}
    (h : m.Orderly)
    {later earlier : List (Moment P N)}
    {moment after : Moment P N}
    {script : ScriptId}
    (hsplit : m.trace = later ++ moment :: earlier)
    (hissued : script < moment.state.nextId)
    (hlive : m.state.isLive script = true)
    (hafter : after ∈ later) :
    after.state.isLive script = true := by
  have hgrows := (h.evolves_of_split hsplit hafter).nextId_le
  have hmem : after ∈ m.trace := by simp [hsplit, hafter]
  exact (h.past after hmem).isLive (Nat.lt_of_lt_of_le hissued hgrows) hlive

end Issued

/-- A shutdown in a run: where it starts and how deep it is nested. -/
structure ShutdownCall (setup : Setup P W N) where
  room : Nat
  level : Nat
  start : Machine P W N

namespace ShutdownCall

variable {setup : Setup P W N} (call : ShutdownCall setup)

/-- The procedures that a shutdown runs. -/
abbrev scripts : Scripts P W N :=
  setup.scripts call.room call.level

/-- How a shutdown ends. -/
def flow : Flow Nat :=
  (Run.shutdown setup.settings call.scripts call.start).1

/-- The machine that a shutdown leaves. -/
def stop : Machine P W N :=
  (Run.shutdown setup.settings call.scripts call.start).2

/-- The ids that are live when a shutdown starts. -/
def ids : List ScriptId :=
  call.start.state.ids

/-- The machine in which a shutdown tries its first removal. -/
def opened : Machine P W N :=
  call.start.emit (.log (.shuttingDown call.ids.length))

/-- What was recorded during a shutdown, latest first. -/
def added : List (Moment P N) :=
  call.stop.trace.take (call.stop.trace.length - call.start.trace.length)

/-- No panic leaves a cleanup during a shutdown. -/
def Calm : Prop :=
  ∀ moment ∈ call.added,
    ∀ script payload, moment.record ≠ .cleanupUnwound script payload

/--
A shutdown that returned tried every id that was live at its start, and left what was
made meanwhile.

Every id is tried once, in ascending order, by a removal like every other, one after the
other, and none is live at the end.  Live at the end is what was made during the
shutdown and was live ever since.  The answer counts the ids but those that the cleanups
removed, and the answers of all calls together count what is gone.
-/
structure Completes
    (call : ShutdownCall setup)
    (removed : Nat)
    (attempts : List (Attempt P W N)) :
    Prop where
  tried : attempts.map Attempt.script = call.ids
  ascending : call.ids.Pairwise (· < ·)
  sound : ∀ attempt ∈ attempts, attempt.Sound setup.settings call.scripts
  linked :
    ∃ last,
      Attempt.Linked call.opened attempts last ∧
        call.stop = last.emit (.log (.shutDown removed))
  gone : ∀ script ∈ call.ids, call.stop.state.isLive script = false
  survivors :
    ∀ script,
      call.stop.state.isLive script = true ↔
        ∃ later moment earlier spec,
          call.added = later ++ moment :: earlier ∧
            moment.record.made? = some (spec, script) ∧
            ∀ after ∈ later, after.state.isLive script = true
  counted :
    removed +
        (call.ids.countP fun script =>
          attempts.any fun attempt => attempt.takes call.scripts script) =
      call.ids.length
  accounted :
    removed + removalsIn call.added =
      (call.start.state.lost call.stop.state).length

/--
A shutdown was cut by a panic that left one of its removals; for panics of cleanups are
not caught.

The ids were tried in order, up to the one whose cleanup panicked.  This id and all
smaller ones are gone, and the larger ones are as they were, unless a cleanup changed
them.  A shutdown that comes later and is calm removes what is still live.
-/
structure Breaks
    (call : ShutdownCall setup)
    (payload : Payload)
    (attempts : List (Attempt P W N))
    (broken : Attempt P W N) :
    Prop where
  uncaught : setup.settings.catchCleanupPanics = false
  tried : attempts.map Attempt.script ++ [broken.script] <+: call.ids
  sound :
    ∀ attempt ∈ attempts ++ [broken],
      attempt.Sound setup.settings call.scripts
  linked : Attempt.Linked call.opened (attempts ++ [broken]) call.stop
  escaped : broken.flow = .unwinding payload
  gone :
    ∀ script ∈ call.ids,
      script ≤ broken.script → call.stop.state.isLive script = false
  kept :
    ∀ script ∈ call.ids,
      broken.script < script →
      (∀ attempt ∈ attempts ++ [broken],
        ¬ attempt.Changes call.scripts script) →
      call.stop.state.find? script = call.start.state.find? script
  later :
    ∀ later : ShutdownCall setup,
      setup.Reaches later.start →
      later.Calm →
      later.flow = .exhausted ∨
        ∃ removed,
          later.flow = .returned removed ∧
            ∀ script ∈ later.ids, later.stop.state.isLive script = false

section Course

variable {call}

theorem span (hwf : call.start.state.WellFormed) :
    Span setup call.start (call.flow.owing id) call.stop :=
  Run.spans_shutdown (setup.spans_scripts call.room call.level) call.start hwf

theorem added_append (hwf : call.start.state.WellFormed) :
    call.added ++ call.start.trace = call.stop.trace :=
  List.suffix_iff_eq_append.mp (call.span hwf).course.trace_suffix

/-- A moment of a shutdown is one that stands before its start in the trace. -/
theorem added_eq_of_suffix
    (hwf : call.start.state.WellFormed)
    {moment : Moment P N}
    {earlier : List (Moment P N)}
    (hsuffix : moment :: earlier <:+ call.stop.trace)
    (hpast : call.start.trace <:+ earlier) :
    ∃ later between,
      call.added = later ++ moment :: between ∧
        call.stop.trace = later ++ moment :: earlier := by
  obtain ⟨later, hlater⟩ := hsuffix
  obtain ⟨between, rfl⟩ := hpast
  refine ⟨later, between, ?_, hlater.symm⟩
  have hadded := call.added_append hwf
  rw [← hlater, ← List.cons_append, ← List.append_assoc] at hadded
  exact List.append_cancel_right hadded

theorem wellFormed_opened (hwf : call.start.state.WellFormed) :
    call.opened.state.WellFormed :=
  hwf

theorem issued (hwf : call.start.state.WellFormed) :
    ∀ script ∈ call.ids, script < call.opened.state.nextId := by
  intro script hscript
  exact hwf.lt_nextId_of_mem_ids hscript

end Course

section Returned

variable {call} {removed : Nat}

/-- A shutdown that returns swept over the ids that were live at its start. -/
theorem sweeps (hflow : call.flow = .returned removed) :
    ∃ attempts last,
      Sweeps setup.settings call.scripts call.opened call.ids attempts removed
          last ∧
        call.stop = last.emit (.log (.shutDown removed)) := by
  have hrun :
      Run.shutdown setup.settings call.scripts call.start =
        (.returned removed, call.stop) :=
    Prod.ext hflow rfl
  rw [Run.shutdown_apply] at hrun
  obtain ⟨first, last, hsweep, hend⟩ := Run.bind_eq_returned hrun
  obtain ⟨hfirst, hstop⟩ := Prod.mk.inj hend
  obtain rfl := Flow.returned.inj hfirst
  obtain ⟨attempts, sweeps⟩ := Run.sweeps_of_returned hsweep
  exact ⟨attempts, last, sweeps, hstop.symm⟩

/-- No id that was live when a shutdown started is live when it returns. -/
theorem gone_of_returned
    (hwf : call.start.state.WellFormed)
    (hflow : call.flow = .returned removed) :
    ∀ script ∈ call.ids, call.stop.state.isLive script = false := by
  obtain ⟨attempts, last, sweeps, hstop⟩ := call.sweeps hflow
  rw [hstop]
  exact sweeps.gone (call.wellFormed_opened hwf) (call.issued hwf)

/-- What is live when a shutdown returns was made meanwhile. -/
theorem made_of_isLive
    (reached : setup.Reaches call.start)
    (hflow : call.flow = .returned removed)
    {script : ScriptId}
    (hlive : call.stop.state.isLive script = true) :
    ∃ later moment earlier spec,
      call.added = later ++ moment :: earlier ∧
        moment.record.made? = some (spec, script) ∧
        ∀ after ∈ later, after.state.isLive script = true := by
  have hwf := reached.wellFormed
  have course := (call.span hwf).course
  have horderly : call.stop.Orderly := (reached.course course).orderly
  have hnew : call.start.state.nextId ≤ script := by
    by_contra hold
    have hbefore := course.evolves.isLive (Nat.lt_of_not_le hold) hlive
    have hgone :=
      call.gone_of_returned hwf hflow script
        (Dispatcher.isLive_iff_mem_ids.mp hbefore)
    rw [hgone] at hlive
    exact absurd hlive (by simp)
  have hissued : script < call.stop.state.nextId :=
    horderly.now.lt_nextId_of_mem_ids (Dispatcher.isLive_iff_mem_ids.mp hlive)
  obtain ⟨moment, earlier, spec, hsuffix, hpast, hmade, hmoment⟩ :=
    course.made_of_issued hnew hissued
  obtain ⟨later, between, hadded, hsplit⟩ :=
    call.added_eq_of_suffix hwf hsuffix hpast
  refine ⟨later, moment, between, spec, hadded, hmade, ?_⟩
  intro after hafter
  exact horderly.isLive_of_split hsplit hmoment hlive hafter

/-- What was made during a shutdown and was live ever since is live at its end. -/
theorem isLive_of_made
    (hwf : call.start.state.WellFormed)
    (hflow : call.flow = .returned removed)
    {script : ScriptId}
    {spec : Spec P}
    {moment : Moment P N}
    {later earlier : List (Moment P N)}
    (hadded : call.added = later ++ moment :: earlier)
    (hmade : moment.record.made? = some (spec, script))
    (hlive : ∀ after ∈ later, after.state.isLive script = true) :
    call.stop.state.isLive script = true := by
  obtain ⟨_, last, _, hstop⟩ := call.sweeps hflow
  have htrace := call.added_append hwf
  -- The last record of a shutdown tells the state in which it ends.
  rw [hadded, hstop, Machine.emit_trace] at htrace
  cases later with
  | nil =>
      have hsame := (List.cons.inj htrace).1
      rw [hsame] at hmade
      exact absurd hmade (by simp [Record.made?])
  | cons after rest =>
      have hsame := (List.cons.inj htrace).1
      have key := hlive after (List.mem_cons_self ..)
      rw [hsame] at key
      rw [hstop]
      exact key

/-- The answer of a shutdown, with what its cleanups took from it, is all there was. -/
theorem counted_of_sweeps
    (hwf : call.start.state.WellFormed)
    {attempts : List (Attempt P W N)}
    {last : Machine P W N}
    (sweeps :
      Sweeps setup.settings call.scripts call.opened call.ids attempts removed
        last) :
    removed +
        (call.ids.countP fun script =>
          attempts.any fun attempt => attempt.takes call.scripts script) =
      call.ids.length := by
  have hnodup : call.ids.Nodup := hwf.pairwise_ids.imp Nat.ne_of_lt
  have hremoved :=
    sweeps.removed_eq (call.wellFormed_opened hwf) hnodup (call.issued hwf)
  have hleft :
      removed =
        call.ids.countP fun script =>
          !attempts.any fun attempt => attempt.takes call.scripts script := by
    rw [hremoved]
    apply List.countP_congr
    intro script hscript
    have hlive : call.opened.state.isLive script = true :=
      Dispatcher.isLive_iff_mem_ids.mpr hscript
    rw [hlive, Bool.true_and]
  have hsplit :=
    List.length_eq_countP_add_countP
      (fun script =>
        attempts.any fun attempt => attempt.takes call.scripts script)
      (l := call.ids)
  have hnot :
      (call.ids.countP fun script =>
        !attempts.any fun attempt => attempt.takes call.scripts script) =
        call.ids.countP fun script =>
          decide
            ¬ (attempts.any fun attempt =>
              attempt.takes call.scripts script) = true := by
    apply List.countP_congr
    intro script _
    simp
  omega

/-- A shutdown that returns leaves what was made meanwhile and not removed again. -/
theorem completes
    (reached : setup.Reaches call.start)
    (caught : setup.settings.catchCleanupPanics = true)
    (hflow : call.flow = .returned removed) :
    ∃ attempts, call.Completes removed attempts := by
  have hwf := reached.wellFormed
  obtain ⟨attempts, last, sweeps, hstop⟩ := call.sweeps hflow
  refine ⟨attempts, ?_⟩
  constructor
  · exact sweeps.tried
  · exact hwf.pairwise_ids
  · exact sweeps.sound
  · exact ⟨last, sweeps.linked, hstop⟩
  · exact call.gone_of_returned hwf hflow
  · intro script
    constructor
    · exact call.made_of_isLive reached hflow
    · rintro ⟨later, moment, earlier, spec, hadded, hmade, hlive⟩
      exact call.isLive_of_made hwf hflow hadded hmade hlive
  · exact call.counted_of_sweeps hwf sweeps
  · have span := call.span hwf
    have hbalanced : call.start.Balanced call.stop removed :=
      span.balanced caught hwf (by rw [hflow]; rfl)
    have hlost :=
      span.course.evolves.length_lost hwf (span.course.wellFormed hwf)
    have htrace := congrArg removalsIn (call.added_append hwf)
    rw [removalsIn_append] at htrace
    unfold Machine.Balanced at hbalanced
    omega

end Returned

section Cut

variable {call} {payload : Payload}
variable {front : List ScriptId} {attempts : List (Attempt P W N)}
variable {broken : Attempt P W N}

/-- A panic cut a shutdown that had swept over some ids and tried to remove one more. -/
structure IsCut
    (call : ShutdownCall setup)
    (payload : Payload)
    (front : List ScriptId)
    (attempts : List (Attempt P W N))
    (broken : Attempt P W N) :
    Prop where
  ids : front ++ [broken.script] <+: call.ids
  sweeps :
    ∃ removed,
      Sweeps setup.settings call.scripts call.opened front attempts removed
        broken.before
  sound : broken.Sound setup.settings call.scripts
  escaped : broken.flow = .unwinding payload
  left : broken.left = call.stop

/-- A panic that leaves a shutdown has left one of its removals. -/
theorem cut (hflow : call.flow = .unwinding payload) :
    ∃ front attempts broken, call.IsCut payload front attempts broken := by
  have hrun :
      Run.shutdown setup.settings call.scripts call.start =
        (.unwinding payload, call.stop) :=
    Prod.ext hflow rfl
  rw [Run.shutdown_apply] at hrun
  rcases Run.bind_eq_unwinding hrun with hsweep | ⟨_, _, _, hend⟩
  · obtain ⟨front, script, back, attempts, removed, mid, hids, sweeps, hbroken⟩ :=
      Run.sweeps_of_unwinding hsweep
    let broken : Attempt P W N := ⟨script, mid, .unwinding payload, call.stop⟩
    refine ⟨front, attempts, broken, ?_, ⟨removed, sweeps⟩, hbroken, rfl, rfl⟩
    exact ⟨back, by rw [List.append_assoc]; exact hids.symm⟩
  · have hflow := congrArg Prod.fst hend
    exact absurd hflow (by
      simp [bind, Run.andThen, Run.log, Run.emit, pure, Run.give])

namespace IsCut

theorem unregister_eq
    (h : call.IsCut payload front attempts broken) :
    Run.unregister setup.settings call.scripts broken.script broken.before =
      (.unwinding payload, call.stop) := by
  rw [← h.escaped, ← h.left]
  exact h.sound

/-- The broken removal was tried in a machine that the shutdown came to. -/
theorem course
    (h : call.IsCut payload front attempts broken)
    (hwf : call.start.state.WellFormed) :
    Course setup call.start broken.before := by
  obtain ⟨removed, sweeps⟩ := h.sweeps
  have first : Course setup call.start call.opened :=
    .step (.record _ _ rfl)
  exact first.trans (sweeps.course (call.wellFormed_opened hwf))

/-- The ids that were swept are smaller than the broken one. -/
theorem lt_of_mem
    (h : call.IsCut payload front attempts broken)
    (hwf : call.start.state.WellFormed) :
    ∀ script ∈ front, script < broken.script := by
  intro script hscript
  have hascending := hwf.pairwise_ids.sublist h.ids.sublist
  have hcross := (List.pairwise_append.mp hascending).2.2
  exact hcross script hscript _ (List.mem_singleton_self _)

/-- An id up to the broken one was swept or is the broken one. -/
theorem mem_of_le
    (h : call.IsCut payload front attempts broken)
    (hwf : call.start.state.WellFormed)
    {script : ScriptId}
    (hscript : script ∈ call.ids)
    (hle : script ≤ broken.script) :
    script ∈ front ∨ script = broken.script := by
  have hascending : call.ids.Pairwise (· < ·) := hwf.pairwise_ids
  obtain ⟨back, hids⟩ := h.ids
  rw [← hids] at hscript hascending
  rcases List.mem_append.mp hscript with hfront | hback
  · rcases List.mem_append.mp hfront with hswept | hown
    · exact .inl hswept
    · exact .inr (List.mem_singleton.mp hown)
  · have hcross := (List.pairwise_append.mp hascending).2.2
    have hlt := hcross broken.script (by simp) script hback
    exact absurd hle (Nat.not_le_of_lt hlt)

/-- The broken id and all smaller ones are gone. -/
theorem gone
    (h : call.IsCut payload front attempts broken)
    (hwf : call.start.state.WellFormed)
    {script : ScriptId}
    (hscript : script ∈ call.ids)
    (hle : script ≤ broken.script) :
    call.stop.state.isLive script = false := by
  have hmid := (h.course hwf).wellFormed hwf
  rcases h.mem_of_le hwf hscript hle with hswept | rfl
  · obtain ⟨removed, sweeps⟩ := h.sweeps
    have hwf' := call.wellFormed_opened hwf
    have hissued : ∀ other ∈ front, other < call.opened.state.nextId := by
      intro other hother
      exact call.issued hwf other
        (h.ids.subset (List.mem_append_left _ hother))
    have hgone := sweeps.gone hwf' hissued script hswept
    have last := Run.course_of_unregister hmid h.unregister_eq
    refine last.evolves.isLive_eq_false ?_ hgone
    exact Nat.lt_of_lt_of_le (hissued script hswept)
      (sweeps.course hwf').evolves.nextId_le
  · exact Run.gone_of_unregister hmid h.unregister_eq

/-- A larger id that no cleanup changed is as it was. -/
theorem find?_stop
    (h : call.IsCut payload front attempts broken)
    (hwf : call.start.state.WellFormed)
    {script : ScriptId}
    (hlt : broken.script < script)
    (unchanged :
      ∀ attempt ∈ attempts ++ [broken],
        ¬ attempt.Changes call.scripts script) :
    call.stop.state.find? script = call.start.state.find? script := by
  obtain ⟨removed, sweeps⟩ := h.sweeps
  have hnotin : script ∉ front := by
    intro hswept
    exact absurd (h.lt_of_mem hwf script hswept) (Nat.lt_asymm hlt)
  have hswept :=
    sweeps.find?_last hnotin fun attempt hattempt =>
      unchanged attempt (List.mem_append_left _ hattempt)
  have hlast :=
    h.sound.find?_left (Nat.ne_of_gt hlt)
      (unchanged broken (List.mem_append_right _ (List.mem_singleton_self _)))
  rw [← h.left]
  exact hlast.trans hswept

end IsCut

/-- A panic that leaves a shutdown is on record as having left a cleanup. -/
theorem not_calm_of_unwinding
    (hwf : call.start.state.WellFormed)
    (hflow : call.flow = .unwinding payload) :
    ¬ call.Calm := by
  obtain ⟨front, attempts, broken, iscut⟩ := call.cut hflow
  obtain ⟨_, registration, cleanup, live, _, hstop⟩ :=
    Run.unregister_eq_unwinding iscut.unregister_eq
  rw [← Dispatcher.find?_eq_some_id live] at live
  have removed :=
    (iscut.course hwf).trans (.step (.unregister _ registration live))
  have cleaned :=
    removed.trans
      (setup.spans_clean call.room call.level cleanup _
        (removed.wellFormed hwf)).course
  let ended : Machine P W N :=
    (call.scripts.clean cleanup (broken.before.unregistered registration)).2
  let unwound : Moment P N :=
    ⟨.cleanupUnwound broken.script payload, ended.state⟩
  have hsuffix : unwound :: ended.trace <:+ call.stop.trace := by
    rw [hstop]
    exact List.suffix_refl _
  obtain ⟨later, between, hadded, _⟩ :=
    call.added_eq_of_suffix hwf hsuffix cleaned.trace_suffix
  have hmem : unwound ∈ call.added := by
    rw [hadded]
    exact List.mem_append_right _ (List.mem_cons_self ..)
  intro calm
  exact calm unwound hmem _ _ rfl

theorem returns_of_calm
    (hwf : call.start.state.WellFormed)
    (calm : call.Calm) :
    call.flow = .exhausted ∨
      ∃ removed,
        call.flow = .returned removed ∧
          ∀ script ∈ call.ids, call.stop.state.isLive script = false := by
  cases hflow : call.flow with
  | returned removed =>
      exact .inr ⟨removed, rfl, call.gone_of_returned hwf hflow⟩
  | unwinding payload => exact absurd calm (call.not_calm_of_unwinding hwf hflow)
  | exhausted => exact .inl rfl

/-- A shutdown that a panic leaves has removed all ids up to the one it failed at. -/
theorem breaks
    (reached : setup.Reaches call.start)
    (hflow : call.flow = .unwinding payload) :
    ∃ attempts broken, call.Breaks payload attempts broken := by
  have hwf := reached.wellFormed
  obtain ⟨front, attempts, broken, iscut⟩ := call.cut hflow
  obtain ⟨removed, sweeps⟩ := iscut.sweeps
  refine ⟨attempts, broken, ?_⟩
  constructor
  · exact (Run.unregister_eq_unwinding iscut.unregister_eq).1
  · rw [sweeps.tried]
    exact iscut.ids
  · intro attempt hattempt
    rcases List.mem_append.mp hattempt with hold | hnew
    · exact sweeps.sound attempt hold
    · rw [List.mem_singleton.mp hnew]
      exact iscut.sound
  · exact sweeps.linked.append ⟨rfl, iscut.left⟩
  · exact iscut.escaped
  · intro script hscript hle
    exact iscut.gone hwf hscript hle
  · intro script _ hlt unchanged
    exact iscut.find?_stop hwf hlt unchanged
  · intro later hlater calm
    exact later.returns_of_calm hlater.wellFormed calm

end Cut
end ShutdownCall

/--
**A shutdown removes every registration that was live at its start.**

From every machine that a run can come to: where panics of cleanups are caught, no
panic leaves a shutdown, and one that returns has tried every id that was live at
its start once, in ascending order.  None of them is live any more, what was made
meanwhile is left unless it was removed again, and the answer counts the ids that
no cleanup removed first, so that the answers of all calls count every removal
once.  A panic that leaves a shutdown has left the removal of one id; this id and
the smaller ones are gone, the larger ones are as the cleanups left them, and a
later shutdown that no panic cuts removes what is still live.
-/
theorem shutdown_removes_registrations
    (setup : Setup P W N)
    (call : ShutdownCall setup)
    (reached : setup.Reaches call.start) :
    (setup.settings.catchCleanupPanics = true →
      (∀ payload, call.flow ≠ .unwinding payload) ∧
        ∀ removed,
          call.flow = .returned removed →
          ∃ attempts, call.Completes removed attempts) ∧
      ∀ payload,
        call.flow = .unwinding payload →
        ∃ attempts broken, call.Breaks payload attempts broken := by
  constructor
  · intro caught
    constructor
    · intro payload hflow
      obtain ⟨attempts, broken, breaks⟩ := call.breaks reached hflow
      have uncaught := breaks.uncaught
      rw [caught] at uncaught
      exact absurd uncaught (by simp)
    · intro removed hflow
      exact call.completes reached caught hflow
  · intro payload hflow
    exact call.breaks reached hflow

/-!
Four scripts that are shut down: the cleanup of the first removes the second and
registers another script, and the cleanup of the third panics.
-/

namespace Closing

/-- The script whose cleanup removes another and registers a new one. -/
def first : Spec Bool :=
  (Spec.named "first").withCleanup true

/-- A script without a cleanup. -/
def plain : Spec Bool :=
  Spec.named "plain"

/-- The script whose cleanup panics. -/
def third : Spec Bool :=
  (Spec.named "third").withCleanup false

/-- What the cleanups do. -/
def behaviour : Behaviour Bool Unit Unit where
  onEvent := fun _ _ _ => .done .allow
  onRemoval := fun _ procedure =>
    if procedure then
      .call (.unregister 2) fun _ =>
      .call (.register plain) fun _ =>
      .done ()
    else
      .finish (.panicked ⟨some "stuck"⟩)

/-- The setup in which they run, with panics of cleanups caught or not. -/
def setup (caught : Bool) : Setup Bool Unit Unit where
  settings := { catchCleanupPanics := caught }
  notifier := .accepting
  behaviour := behaviour

/-- The host registers the scripts. -/
def host : Code Bool Unit Unit Unit :=
  .call (.register first) fun _ =>
  .call (.register plain) fun _ =>
  .call (.register third) fun _ =>
  .call (.register plain) fun _ =>
  .done ()

/-- The shutdown that follows. -/
def call (caught : Bool) : ShutdownCall (setup caught) where
  room := 2
  level := 0
  start := ((setup caught).runAll 2 [host] (.fresh ())).2

end Closing

/--
Where panics of cleanups are caught, three of the four scripts are counted, since a
cleanup removed the second, and the script that was made meanwhile is left.  Where
they are not, the panic leaves the fourth script as it was.
-/
theorem shutdown_of_four_scripts :
    (∃ attempts,
      (Closing.call true).Completes 3 attempts ∧
        (Closing.call true).stop.state.ids = [5]) ∧
      ∃ attempts broken,
        (Closing.call false).Breaks ⟨some "stuck"⟩ attempts broken ∧
          (Closing.call false).stop.state.ids = [4, 5] := by
  have hcaught : (Closing.call true).flow = .returned 3 := by
    decide +kernel
  have huncaught :
      (Closing.call false).flow = .unwinding ⟨some "stuck"⟩ := by
    decide +kernel
  have reached :
      ∀ caught, (Closing.setup caught).Reaches (Closing.call caught).start := by
    intro caught
    unfold Closing.call
    exact Setup.reaches_runAll _ _ _ _
  constructor
  · obtain ⟨attempts, completes⟩ :=
      ((shutdown_removes_registrations _ (Closing.call true)
        (reached true)).1 rfl).2 3 hcaught
    exact ⟨attempts, completes, by decide +kernel⟩
  · obtain ⟨attempts, broken, breaks⟩ :=
      (shutdown_removes_registrations _ (Closing.call false)
        (reached false)).2 _ huncaught
    exact ⟨attempts, broken, breaks, by decide +kernel⟩

end ScriptHub
