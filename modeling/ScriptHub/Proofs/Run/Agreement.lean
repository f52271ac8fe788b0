import ScriptHub.Proofs.Run.Comparison

/-!
# Agreement up to the first panic

Two runs from one machine agree if they do the same as long as no handler and no
cleanup panics.  At the first panic the one catches it and goes on.  The other is left
by the panic, and on this way nothing is done but to record that it passed.

Agreement is a comparison of runs that start from one machine.  What panics nowhere is
calm, and agrees with itself.

**Results.**
* `Machine.Agrees`, `Run.Agrees`: how a run with panics caught and one with panics
  passed on compare.
* `Comparison.agreeing_lawful`: what follows on runs that agree is compared where they
  returned.
* `Run.Agrees.observe_bind`: where a run is observed, a panic on its way up must be
  passed on by what follows.
-/

namespace ScriptHub

variable {P W N α β : Type}

section Panics

/-- A panic that leaves a handler or a cleanup. -/
inductive Panic
  | ofHandler (script : ScriptId) (kind : EventKind) (payload : Payload)
  | ofCleanup (script : ScriptId) (payload : Payload)

/-- What a panic carries. -/
def Panic.payload : Panic → Payload
  | .ofHandler _ _ payload => payload
  | .ofCleanup _ payload => payload

/-- The machine once a panic was caught: that of a handler is counted as a failure. -/
def Panic.caught : Panic → Machine P W N → Machine P W N
  | .ofHandler script kind payload, m => m.failed script kind (.ofPanic payload)
  | .ofCleanup script payload, m =>
      m.emit (.cleanupEnded script (.error (.ofPanic payload)))

/-- The machine once a panic was seen to leave its handler or its cleanup. -/
def Panic.passed : Panic → Machine P W N → Machine P W N
  | .ofHandler script kind payload, m =>
      m.emit (.handlerUnwound script kind payload)
  | .ofCleanup script payload, m => m.emit (.cleanupUnwound script payload)

/-- Whether a record tells that a handler or a cleanup panicked. -/
def Record.isPanic : Record P N → Bool
  | .handlerEnded _ _ (.error (.panicked _)) => true
  | .cleanupEnded _ (.error (.panicked _)) => true
  | .handlerUnwound .. => true
  | .cleanupUnwound .. => true
  | _ => false

/-- The payload of the panic that a record tells to be on its way up. -/
def Record.passing? : Record P N → Option Payload
  | .handlerUnwound _ _ payload => some payload
  | .cleanupUnwound _ payload => some payload
  | .unwound _ payload => some payload
  | _ => none

end Panics

namespace Machine

/-- The way to a later machine on which no handler and no cleanup panics. -/
def CalmTo (m later : Machine P W N) : Prop :=
  ∃ news,
    later.trace = news ++ m.trace ∧
      ∀ moment ∈ news, moment.record.isPanic = false

/--
The way to a later machine on which a panic passes and nothing else happens: the
dispatcher, the store and the notifier are left alone.
-/
structure Unwinds
    (payload : Payload)
    (m later : Machine P W N) :
    Prop where
  state : later.state = m.state
  store : later.store = m.store
  sent : later.sent = m.sent
  passing :
    ∃ news,
      later.trace = news ++ m.trace ∧
        ∀ moment ∈ news,
          moment.record.passing? = some payload ∧ moment.state = m.state

theorem CalmTo.refl (m : Machine P W N) : m.CalmTo m :=
  ⟨[], rfl, by simp⟩

theorem CalmTo.trans
    {a b c : Machine P W N}
    (first : a.CalmTo b)
    (second : b.CalmTo c) :
    a.CalmTo c := by
  obtain ⟨earlier, hearlier, calm⟩ := first
  obtain ⟨later, hlater, calm'⟩ := second
  refine ⟨later ++ earlier, ?_, ?_⟩
  · rw [hlater, hearlier, List.append_assoc]
  · intro moment hmem
    rcases List.mem_append.mp hmem with hnew | hold
    · exact calm' moment hnew
    · exact calm moment hold

theorem CalmTo.trace_suffix
    {a b : Machine P W N}
    (h : a.CalmTo b) :
    a.trace <:+ b.trace := by
  obtain ⟨news, hnews, _⟩ := h
  exact ⟨news, hnews.symm⟩

/-- From a fresh machine, a way is calm if the trace at its end tells of no panic. -/
theorem calmTo_of_fresh
    {store : W}
    {later : Machine P W N} :
    (fresh store : Machine P W N).CalmTo later ↔
      ∀ moment ∈ later.trace, moment.record.isPanic = false := by
  constructor
  · rintro ⟨news, hnews, calm⟩
    have hempty : later.trace = news := hnews.trans (List.append_nil news)
    rw [hempty]
    exact calm
  · intro calm
    exact ⟨later.trace, (List.append_nil _).symm, calm⟩

theorem Unwinds.refl
    (payload : Payload)
    (m : Machine P W N) :
    m.Unwinds payload m where
  state := rfl
  store := rfl
  sent := rfl
  passing := ⟨[], rfl, by simp⟩

/-- A panic that passes once more is recorded, and that is all. -/
theorem Unwinds.emit
    {payload : Payload}
    {m later : Machine P W N}
    (h : m.Unwinds payload later)
    {entry : Record P N}
    (hentry : entry.passing? = some payload) :
    m.Unwinds payload (later.emit entry) := by
  obtain ⟨news, hnews, hpassing⟩ := h.passing
  refine ⟨h.state, h.store, h.sent, ⟨entry, later.state⟩ :: news, ?_, ?_⟩
  · rw [emit_trace, hnews, List.cons_append]
  · intro moment hmem
    rcases List.mem_cons.mp hmem with rfl | hold
    · exact ⟨hentry, h.state⟩
    · exact hpassing moment hold

/-- What shows a panic among the records since then is not calm. -/
theorem not_calmTo_of_suffix
    {m later : Machine P W N}
    {moment : Moment P N}
    {earlier : List (Moment P N)}
    (hpanic : moment.record.isPanic = true)
    (hearlier : m.trace <:+ earlier)
    (h : moment :: earlier <:+ later.trace) :
    ¬ m.CalmTo later := by
  rintro ⟨news, hnews, calm⟩
  obtain ⟨past, rfl⟩ := hearlier
  obtain ⟨front, hfront⟩ := h
  have hsplit : front ++ moment :: past = news := by
    rw [hnews, ← List.cons_append, ← List.append_assoc] at hfront
    exact List.append_cancel_right hfront
  have hcalm := calm moment (hsplit ▸ by simp)
  rw [hpanic] at hcalm
  exact absurd hcalm (by simp)

end Machine

section Parting

/--
Two runs from one machine part at the first panic.

Both come to the same machine, calmly.  There the one catches the panic and goes on.
In the other the panic leaves the run, and nothing is done on its way.
-/
structure Machine.PartsAt
    (start mid : Machine P W N)
    (panic : Panic)
    (caught uncaught : Flow α × Machine P W N) :
    Prop where
  calm : start.CalmTo mid
  caught : (panic.caught mid).trace <:+ caught.2.trace
  escaped : uncaught.1 = .unwinding panic.payload
  unwinds : (panic.passed mid).Unwinds panic.payload uncaught.2

/--
The ends of two runs from one machine agree: both are calm and the same, or the runs
part at the first panic, which the one catches and the other passes on.
-/
def Machine.Agrees
    (m : Machine P W N)
    (caught uncaught : Flow α × Machine P W N) :
    Prop :=
  (caught = uncaught ∧ m.CalmTo caught.2) ∨
    ∃ mid panic, m.PartsAt mid panic caught uncaught

/-- Two runs agree from every machine. -/
def Run.Agrees (caught uncaught : Run P W N α) : Prop :=
  ∀ m : Machine P W N, m.Agrees (caught m) (uncaught m)

theorem Panic.caught_trace
    (panic : Panic)
    (m : Machine P W N) :
    ∃ moment,
      moment.record.isPanic = true ∧
        (panic.caught m).trace = moment :: m.trace := by
  cases panic with
  | ofHandler script kind payload => exact ⟨_, rfl, rfl⟩
  | ofCleanup script payload => exact ⟨_, rfl, rfl⟩

theorem Panic.passed_trace
    (panic : Panic)
    (m : Machine P W N) :
    ∃ moment,
      moment.record.isPanic = true ∧
        (panic.passed m).trace = moment :: m.trace := by
  cases panic with
  | ofHandler script kind payload => exact ⟨_, rfl, rfl⟩
  | ofCleanup script payload => exact ⟨_, rfl, rfl⟩

namespace Machine.PartsAt

variable {start mid : Machine P W N} {panic : Panic}
variable {caught uncaught : Flow α × Machine P W N}

/-- What runs had in common stays behind both of them. -/
theorem mid_suffix (h : start.PartsAt mid panic caught uncaught) :
    mid.trace <:+ caught.2.trace ∧ mid.trace <:+ uncaught.2.trace := by
  constructor
  · obtain ⟨moment, _, htrace⟩ := panic.caught_trace mid
    have hcaught := h.caught
    rw [htrace] at hcaught
    exact (List.suffix_cons _ _).trans hcaught
  · obtain ⟨moment, _, htrace⟩ := panic.passed_trace mid
    obtain ⟨news, hnews, _⟩ := h.unwinds.passing
    rw [htrace] at hnews
    exact (List.suffix_cons _ _).trans ⟨news, hnews.symm⟩

/-- Where runs part, neither of them is calm. -/
theorem not_calm (h : start.PartsAt mid panic caught uncaught) :
    ¬ start.CalmTo caught.2 ∧ ¬ start.CalmTo uncaught.2 := by
  constructor
  · obtain ⟨moment, hpanic, htrace⟩ := panic.caught_trace mid
    have hcaught := h.caught
    rw [htrace] at hcaught
    exact not_calmTo_of_suffix hpanic h.calm.trace_suffix hcaught
  · obtain ⟨moment, hpanic, htrace⟩ := panic.passed_trace mid
    obtain ⟨news, hnews, _⟩ := h.unwinds.passing
    rw [htrace] at hnews
    exact not_calmTo_of_suffix hpanic h.calm.trace_suffix ⟨news, hnews.symm⟩

end Machine.PartsAt
end Parting

section Ends

variable {m mid : Machine P W N}

/-- Ends that agree only add to the trace. -/
theorem Machine.Agrees.trace_suffix
    {caught uncaught : Flow α × Machine P W N}
    (h : m.Agrees caught uncaught) :
    m.trace <:+ caught.2.trace ∧ m.trace <:+ uncaught.2.trace := by
  rcases h with ⟨rfl, calm⟩ | ⟨mid, panic, parts⟩
  · exact ⟨calm.trace_suffix, calm.trace_suffix⟩
  · have hmid := parts.mid_suffix
    have hstart := parts.calm.trace_suffix
    exact ⟨hstart.trans hmid.1, hstart.trans hmid.2⟩

/-- Ends agree from an earlier machine if the way from there is calm. -/
theorem Machine.Agrees.of_calm
    {caught uncaught : Flow α × Machine P W N}
    (calm : m.CalmTo mid)
    (h : mid.Agrees caught uncaught) :
    m.Agrees caught uncaught := by
  rcases h with ⟨heq, calm'⟩ | ⟨parting, panic, parts⟩
  · exact .inl ⟨heq, calm.trans calm'⟩
  · exact .inr
      ⟨parting, panic, calm.trans parts.calm, parts.caught, parts.escaped,
        parts.unwinds⟩

/--
What follows on ends that agree is compared where they returned the same; once they
have parted, it only adds to what the one did, and is not reached by the other.
-/
theorem Machine.Agrees.bind
    {caught uncaught : Run P W N α}
    {next next' : α → Run P W N β}
    (hrun : m.Agrees (caught m) (uncaught m))
    (hnext :
      ∀ value after,
        caught m = (.returned value, after) →
        after.Agrees (next value after) (next' value after)) :
    m.Agrees ((caught >>= next) m) ((uncaught >>= next') m) := by
  rw [Run.bind_apply, Run.bind_apply]
  unfold Run.andThen
  rcases hrun with ⟨heq, calm⟩ | ⟨mid, panic, parts⟩
  · rw [← heq]
    generalize caught m = ending at calm hnext
    obtain ⟨flow, after⟩ := ending
    cases flow with
    | returned value => exact (hnext value after rfl).of_calm calm
    | unwinding payload => exact .inl ⟨rfl, calm⟩
    | exhausted => exact .inl ⟨rfl, calm⟩
  · refine .inr ⟨mid, panic, parts.calm, ?_, ?_, ?_⟩
    · have hcaught := parts.caught
      generalize caught m = ending at hcaught hnext
      obtain ⟨flow, after⟩ := ending
      cases flow with
      | returned value =>
          exact hcaught.trans (hnext value after rfl).trace_suffix.1
      | unwinding payload => exact hcaught
      | exhausted => exact hcaught
    · have hescaped := parts.escaped
      generalize uncaught m = ending at hescaped
      obtain ⟨flow, after⟩ := ending
      subst hescaped
      rfl
    · have hescaped := parts.escaped
      have hunwinds := parts.unwinds
      generalize uncaught m = ending at hescaped hunwinds
      obtain ⟨flow, after⟩ := ending
      subst hescaped
      exact hunwinds

end Ends

namespace Run

/-- A run is calm: no handler and no cleanup panics in it. -/
def IsCalm (run : Run P W N α) : Prop :=
  ∀ m : Machine P W N, m.CalmTo (run m).2

variable {run caught uncaught : Run P W N α}

/-- A calm run that reads no switch agrees with itself. -/
theorem IsCalm.agrees (h : run.IsCalm) : run.Agrees run :=
  fun m => .inl ⟨rfl, h m⟩

/-- A continuation that observes a run passes a panic on and does nothing else. -/
def PassesOn (next : Flow α → Run P W N β) : Prop :=
  ∀ payload (m later : Machine P W N),
    m.Unwinds payload later →
      (next (.unwinding payload) later).1 = .unwinding payload ∧
        m.Unwinds payload (next (.unwinding payload) later).2

/-- Where a run is observed, what follows must pass on a panic that is not caught. -/
theorem Agrees.observe_bind
    {next next' : Flow α → Run P W N β}
    (hrun : Agrees caught uncaught)
    (hnext : ∀ flow, Agrees (next flow) (next' flow))
    (hpasses : PassesOn next') :
    Agrees (caught.observe >>= next) (uncaught.observe >>= next') := by
  intro m
  show
    m.Agrees (next (caught m).1 (caught m).2)
      (next' (uncaught m).1 (uncaught m).2)
  rcases hrun m with ⟨heq, calm⟩ | ⟨mid, panic, parts⟩
  · rw [← heq]
    exact (hnext (caught m).1 (caught m).2).of_calm calm
  · obtain ⟨hescaped, hunwinds⟩ := hpasses _ _ _ parts.unwinds
    refine .inr ⟨mid, panic, parts.calm, ?_, ?_, ?_⟩
    · exact parts.caught.trans (hnext _ _).trace_suffix.1
    · rw [parts.escaped]
      exact hescaped
    · rw [parts.escaped]
      exact hunwinds

section Plain

theorem isCalm_unwind (payload : Payload) :
    IsCalm (unwind payload : Run P W N α) :=
  fun m => .refl m

theorem isCalm_exhaust : IsCalm (exhaust : Run P W N α) :=
  fun m => .refl m

theorem isCalm_countNotice : IsCalm (countNotice : Run P W N Unit) :=
  fun _ => ⟨[], rfl, by simp⟩

theorem isCalm_writeStore (store : W) :
    IsCalm (writeStore store : Run P W N Unit) :=
  fun _ => ⟨[], rfl, by simp⟩

theorem isCalm_emit
    {entry : Record P N}
    (h : entry.isPanic = false) :
    IsCalm (emit entry : Run P W N Unit) :=
  fun m => ⟨[⟨entry, m.state⟩], rfl, by simpa using h⟩

theorem isCalm_log (entry : LogEntry) : IsCalm (log entry : Run P W N Unit) :=
  isCalm_emit rfl

end Plain
end Run

/-- The comparison of two runs up to the first panic. -/
def Comparison.agreeing : Comparison P W N :=
  .together (fun _ => True) (fun _ _ _ => True)
    (fun _ m ending other => m.Agrees ending other)

theorem Comparison.agreeing_accounts_iff
    {results : α → α → Prop}
    {removals : α → Nat}
    {caught uncaught : Run P W N α} :
    agreeing.Accounts removals results caught uncaught ↔
      caught.Agrees uncaught :=
  together_accounts_iff.trans ⟨fun h m => h m trivial, fun h m _ => h m⟩

theorem Comparison.agreeing_lawful : (agreeing : Comparison P W N).Lawful := by
  apply together_lawful
  · intros
    trivial
  · intros
    trivial
  · intro α removals m value _ _
    exact .inl ⟨rfl, .refl m⟩
  · intro α β removals caught uncaught next next' m _ hrun hnext
    exact hrun.bind hnext

theorem Comparison.agreeing_interprets : (agreeing : Comparison P W N).Interprets where
  store h := congrArg Machine.store h.1.symm
  unwind payload := agreeing_accounts_iff.mpr (Run.isCalm_unwind payload).agrees
  exhaust := agreeing_accounts_iff.mpr Run.isCalm_exhaust.agrees
  write store := agreeing_accounts_iff.mpr (Run.isCalm_writeStore store).agrees
  log entry := agreeing_accounts_iff.mpr (Run.isCalm_log entry).agrees
  note _ := agreeing_accounts_iff.mpr (Run.isCalm_emit rfl).agrees

end ScriptHub
