import ScriptHub.Proofs.Run.CallHistory
import ScriptHub.Proofs.Run.Moves
import Mathlib.Logic.Function.Basic

/-!
# The journal as a ledger

A reader of the journal can keep a ledger of the registrations: one is entered when
it is told to be made, changed when it is told to be toggled, and struck when it is
told to be removed.  The reader takes offence at a record that contradicts the ledger.

While a cleanup runs, the ledger still shows the registration whose removal is to be
told, and shows all the others as they are.  No other record can tell of that
registration any more, so the ledger never drifts, and it is right whenever nothing
is left to be told.

**Results.**
* `Ledger.replay`: the ledger that a journal leaves, if nothing in it offends.
* `Standing.Kept`: what every move preserves.
* `journal_is_faithful`: after each call of the host the ledger shows the live
  registrations, and the warnings of failed handlers are as many as were counted.
-/

namespace ScriptHub

variable {P W N R : Type}

/-- What a ledger shows of a registration. -/
structure LedgerLine where
  name : String
  priority : Int32
  enabled : Bool
  deriving DecidableEq

/-- What a reader of the journal knows of each id. -/
abbrev Ledger : Type := ScriptId → Option LedgerLine

namespace Ledger

/-- The ledger of a reader who has read nothing. -/
def empty : Ledger :=
  fun _ => none

/--
The ledger once a record was read; none if the record offends.  An id must not be
known when it is entered, must be known when it is changed or struck, and a change
must flip the flag.
-/
def read? (ledger : Ledger) : LogEntry → Option Ledger
  | .scriptRegistered script name priority _ enabled =>
      match ledger script with
      | none =>
          some (Function.update ledger script (some ⟨name, priority, enabled⟩))
      | some _ => none
  | .stateChanged script enabled =>
      match ledger script with
      | none => none
      | some line =>
          if line.enabled = enabled then none
          else
            some
              (Function.update ledger script
                (some { line with enabled := enabled }))
  | .scriptUnregistered script name =>
      match ledger script with
      | none => none
      | some line =>
          if line.name = name then some (Function.update ledger script none)
          else none
  | _ => some ledger

/-- The ledger once a journal was read in order; none if a record offends. -/
def replay (journal : List LogEntry) : Option Ledger :=
  journal.foldlM read? empty

theorem replay_append
    (journal rest : List LogEntry) :
    replay (journal ++ rest) = (replay journal).bind (rest.foldlM read?) :=
  List.foldlM_append

/-- A record that is not reserved is of no concern to a ledger. -/
theorem read?_of_free
    (ledger : Ledger)
    {entry : LogEntry}
    (free : entry.isReserved = false) :
    ledger.read? entry = some ledger := by
  cases entry with
  | scriptRegistered script name priority hooks enabled =>
      exact absurd free (by simp [LogEntry.isReserved])
  | scriptUnregistered script name =>
      exact absurd free (by simp [LogEntry.isReserved])
  | stateChanged script enabled =>
      exact absurd free (by simp [LogEntry.isReserved])
  | _ => rfl

end Ledger

/-- What a ledger should show of a live registration. -/
def Registration.line (registration : Registration P) : LedgerLine :=
  ⟨registration.spec.name, registration.priority, registration.enabled⟩

namespace Dispatcher

variable (state : Dispatcher P)

/-- What a ledger should show: the live registrations and nothing else. -/
def ledger : Ledger :=
  fun script => (state.find? script).map Registration.line

@[simp] theorem ledger_retally (f : Tally → Tally) :
    (state.retally f).ledger = state.ledger := by
  rfl

theorem ledger_enrolled
    (hwf : state.WellFormed)
    (spec : Spec P)
    (priority : Int32) :
    (state.enrolled spec priority).ledger =
      Function.update state.ledger state.nextId
        (some ⟨spec.name, priority, spec.autoEnable⟩) := by
  funext script
  unfold ledger
  rw [find?_enrolled]
  by_cases h : script = state.nextId
  · subst h
    rw [hwf.find?_nextId, Function.update_self, if_pos rfl]
    rfl
  · rw [Function.update_of_ne h, if_neg (Ne.symm h), Option.or_none]

theorem ledger_withdrawn (script : ScriptId) :
    (state.withdrawn script).ledger =
      Function.update state.ledger script none := by
  funext other
  unfold ledger
  rw [find?_withdrawn]
  by_cases h : other = script
  · subst h
    rw [Function.update_self, if_pos rfl]
    rfl
  · rw [Function.update_of_ne h, if_neg h]

theorem ledger_setFlag
    {registration : Registration P}
    (live : state.find? registration.id = some registration)
    (enabled : Bool) :
    (state.setFlag registration.id enabled).ledger =
      Function.update state.ledger registration.id
        (some { registration.line with enabled := enabled }) := by
  funext other
  unfold ledger
  rw [find?_setFlag]
  by_cases h : other = registration.id
  · subst h
    rw [live, Function.update_self]
    simp [Registration.line]
  · rw [Function.update_of_ne h, Option.map_map]
    cases hfind : state.find? other with
    | none => rfl
    | some found =>
        have hid : found.id ≠ registration.id := by
          rw [find?_eq_some_id hfind]
          exact h
        simp [hid]

end Dispatcher

section Journal

/-- The log record that was written, if one was. -/
def Record.written? : Record P N → Option LogEntry
  | .log entry => some entry
  | _ => none

/-- The kind for which a record warns that a handler failed. -/
def Record.warned? : Record P N → Option EventKind
  | .log (.handlerFailed kind ..) => some kind
  | _ => none

/-- The number of warnings that a handler failed which a trace holds for a kind. -/
abbrev warningsIn (kind : EventKind) (trace : List (Moment P N)) : Nat :=
  recordsIn Record.warned? kind trace

namespace Machine

variable (m : Machine P W N)

/-- The log records that were written, in order. -/
def journal : List LogEntry :=
  m.history.filterMap fun moment => moment.record.written?

theorem journal_emit (entry : Record P N) :
    (m.emit entry).journal = m.journal ++ entry.written?.toList := by
  unfold journal history
  rw [emit_trace, List.reverse_cons, List.filterMap_append]
  cases h : entry.written? <;> simp [h]

/-- A removal is not told at once. -/
theorem replay_unregistered (registration : Registration P) :
    Ledger.replay (m.unregistered registration).journal =
      Ledger.replay m.journal := by
  have hsilent :
      ∀ script removed,
        Ledger.replay
            (m.journal ++ [LogEntry.bindingsRemoved script removed]) =
          Ledger.replay m.journal := by
    intro script removed
    rw [Ledger.replay_append]
    cases Ledger.replay m.journal <;> rfl
  unfold unregistered
  cases registration.spec.cleanup with
  | none =>
      show
        Ledger.replay (((m.update _).emit _).journal) = _
      rw [journal_emit]
      exact hsilent _ _
  | some cleanup =>
      rw [journal_emit]
      show
        Ledger.replay (((m.update _).emit _).journal ++ []) = _
      rw [List.append_nil, journal_emit]
      exact hsilent _ _

/--
A machine agrees with its journal: replaying it offends nobody and leaves the live
registrations, and the handlers that failed were counted as often as warned of.
-/
structure IsJournaled : Prop where
  live : Ledger.replay m.journal = some m.state.ledger
  failures :
    ∀ kind,
      (m.state.tally.calls.get kind).failed.toNat = warningsIn kind m.trace

end Machine
end Journal

/--
The failures of handlers are counted, recorded and warned of equally often; as a word
in the counter.
-/
structure Machine.Warns (m : Machine P W N) : Prop where
  counted :
    ∀ kind,
      (m.state.tally.calls.get kind).failed =
        UInt64.ofNat (failuresIn kind m.trace)
  warned : ∀ kind, warningsIn kind m.trace = failuresIn kind m.trace

/--
A ledger is kept of a machine.  It shows the registrations whose removal is to be
told, which are not live any more, and shows all others as they are.
-/
structure Standing.Kept
    (standing : Standing P W N)
    (ledger : Ledger) :
    Prop where
  told : Ledger.replay standing.machine.journal = some ledger
  shown :
    ∀ script,
      (∀ registration ∈ standing.untold, registration.id ≠ script) →
      ledger script = standing.machine.state.ledger script
  known :
    ∀ registration ∈ standing.untold,
      ∃ line,
        ledger registration.id = some line ∧
          line.name = registration.spec.name
  gone :
    ∀ registration ∈ standing.untold,
      registration.id < standing.machine.state.nextId ∧
        standing.machine.state.find? registration.id = none
  once : standing.untold.Pairwise fun a b => a.id ≠ b.id

namespace Standing.Kept

variable {untold : List (Registration P)} {m : Machine P W N} {ledger : Ledger}

/-- A live registration is not among those whose removal is to be told. -/
theorem not_untold
    (h : Kept ⟨untold, m⟩ ledger)
    {registration : Registration P}
    (live : m.state.find? registration.id = some registration) :
    ∀ other ∈ untold, other.id ≠ registration.id := by
  intro other hother heq
  have hgone := (h.gone other hother).2
  rw [heq, live] at hgone
  exact absurd hgone (by simp)

theorem ledger_of_live
    (h : Kept ⟨untold, m⟩ ledger)
    {registration : Registration P}
    (live : m.state.find? registration.id = some registration) :
    ledger registration.id = some registration.line := by
  rw [h.shown registration.id (h.not_untold live)]
  show
    (m.state.find? registration.id).map Registration.line = _
  rw [live]
  rfl

/-- A record that is of no concern to a ledger changes nothing. -/
theorem emit
    (h : Kept ⟨untold, m⟩ ledger)
    {entry : Record P N}
    (silent : ∀ written, entry.written? = some written →
      ledger.read? written = some ledger) :
    Kept ⟨untold, m.emit entry⟩ ledger where
  told := by
    show
      Ledger.replay (m.emit entry).journal = some ledger
    rw [Machine.journal_emit, Ledger.replay_append, h.told]
    cases hentry : entry.written? with
    | none => rfl
    | some written =>
        show
          (ledger.read? written).bind some = some ledger
        rw [silent written hentry]
        rfl
  shown := h.shown
  known := h.known
  gone := h.gone
  once := h.once

/-- Counting calls changes nothing. -/
theorem retally
    (h : Kept ⟨untold, m⟩ ledger)
    (f : Tally → Tally) :
    Kept ⟨untold, m.update fun s => s.retally f⟩ ledger :=
  ⟨h.told, h.shown, h.known, h.gone, h.once⟩

theorem registered
    (h : Kept ⟨untold, m⟩ ledger)
    (hwf : m.state.WellFormed)
    (settings : Settings)
    (spec : Spec P) :
    Kept ⟨untold, m.registered settings spec⟩
      (Function.update ledger m.state.nextId
        (some ⟨spec.name, spec.priority.getD settings.defaultPriority,
          spec.autoEnable⟩)) := by
  have hnew : ∀ registration ∈ untold, registration.id ≠ m.state.nextId :=
    fun registration hmem => Nat.ne_of_lt (h.gone registration hmem).1
  have hunknown : ledger m.state.nextId = none := by
    rw [h.shown _ hnew]
    show
      (m.state.find? m.state.nextId).map Registration.line = none
    rw [hwf.find?_nextId]
    rfl
  constructor
  · show
      Ledger.replay (m.registered settings spec).journal = _
    unfold Machine.registered
    rw [Machine.journal_emit, Machine.journal_emit]
    show
      Ledger.replay ((((m.update _).emit _).journal ++ _) ++ []) = _
    rw [List.append_nil, Machine.journal_emit, List.append_assoc,
      Ledger.replay_append]
    show
      (Ledger.replay m.journal).bind _ = _
    rw [h.told]
    simp [Record.written?, Ledger.read?, hunknown]
  · intro script hother
    show
      _ = (m.registered settings spec).state.ledger script
    rw [Machine.registered_state, Dispatcher.ledger_retally,
      Dispatcher.ledger_enrolled _ hwf]
    by_cases hscript : script = m.state.nextId
    · subst hscript
      rw [Function.update_self, Function.update_self]
    · rw [Function.update_of_ne hscript, Function.update_of_ne hscript]
      exact h.shown script hother
  · intro registration hmem
    rw [Function.update_of_ne (hnew registration hmem)]
    exact h.known registration hmem
  · intro registration hmem
    obtain ⟨hissued, hgone⟩ := h.gone registration hmem
    constructor
    · exact Nat.lt_succ_of_lt hissued
    · show
        (m.state.enrolled spec _).find? registration.id = none
      rw [Dispatcher.find?_enrolled, hgone,
        if_neg (Ne.symm (hnew registration hmem))]
      rfl
  · exact h.once

/-- What is removed is still shown, until its removal is told. -/
theorem unregistered
    (h : Kept ⟨untold, m⟩ ledger)
    (hwf : m.state.WellFormed)
    {registration : Registration P}
    (live : m.state.find? registration.id = some registration) :
    Kept ⟨registration :: untold, m.unregistered registration⟩ ledger where
  told := by
    show
      Ledger.replay (m.unregistered registration).journal = _
    rw [Machine.replay_unregistered]
    exact h.told
  shown := by
    intro script hother
    obtain ⟨hne, hother⟩ := List.forall_mem_cons.mp hother
    show
      _ = (m.unregistered registration).state.ledger script
    rw [Machine.unregistered_state, Dispatcher.ledger_retally,
      Dispatcher.ledger_withdrawn, Function.update_of_ne (Ne.symm hne)]
    exact h.shown script hother
  known :=
    List.forall_mem_cons.mpr ⟨⟨_, h.ledger_of_live live, rfl⟩, h.known⟩
  gone := by
    show
      ∀ other ∈ registration :: untold,
        other.id < (m.unregistered registration).state.nextId ∧
          (m.unregistered registration).state.find? other.id = none
    rw [Machine.unregistered_state]
    intro other hother
    have hissued : other.id < m.state.nextId := by
      rcases List.mem_cons.mp hother with rfl | hother
      · exact hwf.issued _ (Dispatcher.mem_live_of_find? live)
      · exact (h.gone other hother).1
    refine ⟨hissued, ?_⟩
    show
      (m.state.withdrawn registration.id).find? other.id = none
    rw [Dispatcher.find?_withdrawn]
    rcases List.mem_cons.mp hother with rfl | hother
    · rw [if_pos rfl]
    · rw [(h.gone other hother).2, ite_self]
  once := by
    apply List.pairwise_cons.mpr
    refine ⟨?_, h.once⟩
    intro other hother
    exact Ne.symm (h.not_untold live other hother)

/-- When a removal is told, the registration is struck. -/
theorem told_removal
    {registration : Registration P}
    (h : Kept ⟨registration :: untold, m⟩ ledger) :
    Kept
      ⟨untold,
        m.emit
          (.log (.scriptUnregistered registration.id registration.spec.name))⟩
      (Function.update ledger registration.id none) := by
  obtain ⟨hfirst, honce⟩ := List.pairwise_cons.mp h.once
  obtain ⟨⟨line, hline, hname⟩, hknown⟩ := List.forall_mem_cons.mp h.known
  obtain ⟨⟨_, hgone⟩, hothers⟩ := List.forall_mem_cons.mp h.gone
  constructor
  · show
      Ledger.replay (m.emit _).journal = _
    rw [Machine.journal_emit, Ledger.replay_append, h.told]
    simp [Record.written?, Ledger.read?, hline, hname]
  · intro script hother
    show
      _ = m.state.ledger script
    by_cases hscript : script = registration.id
    · subst hscript
      rw [Function.update_self]
      show
        none = (m.state.find? registration.id).map Registration.line
      rw [hgone]
      rfl
    · rw [Function.update_of_ne hscript]
      apply h.shown
      exact List.forall_mem_cons.mpr ⟨Ne.symm hscript, hother⟩
  · intro other hother
    rw [Function.update_of_ne (Ne.symm (hfirst other hother))]
    exact hknown other hother
  · exact hothers
  · exact honce

theorem toggled
    (h : Kept ⟨untold, m⟩ ledger)
    {registration : Registration P}
    {enabled : Bool}
    (live : m.state.find? registration.id = some registration)
    (change : registration.enabled ≠ enabled) :
    Kept ⟨untold, m.toggled registration.id enabled⟩
      (Function.update ledger registration.id
        (some { registration.line with enabled := enabled })) := by
  have hother := h.not_untold live
  constructor
  · show
      Ledger.replay (((m.update _).emit _).journal) = _
    rw [Machine.journal_emit, Ledger.replay_append]
    show
      (Ledger.replay m.journal).bind _ = _
    rw [h.told]
    simp [Record.written?, Ledger.read?, h.ledger_of_live live,
      Registration.line, change]
  · intro script huntold
    show
      _ = (m.toggled registration.id enabled).state.ledger script
    rw [Machine.toggled_state, Dispatcher.ledger_retally,
      Dispatcher.ledger_setFlag _ live]
    by_cases hscript : script = registration.id
    · subst hscript
      rw [Function.update_self, Function.update_self]
    · rw [Function.update_of_ne hscript, Function.update_of_ne hscript]
      exact h.shown script huntold
  · intro other hmem
    rw [Function.update_of_ne (hother other hmem)]
    exact h.known other hmem
  · intro other hmem
    obtain ⟨hissued, hgone⟩ := h.gone other hmem
    refine ⟨hissued, ?_⟩
    show
      (m.state.setFlag registration.id enabled).find? other.id = none
    rw [Dispatcher.find?_setFlag, hgone]
    rfl
  · exact h.once

end Standing.Kept

namespace Machine.Warns

variable {m : Machine P W N}

theorem fresh (store : W) : (Machine.fresh store : Machine P W N).Warns where
  counted := by
    intro kind
    exact congrArg CallCount.failed
      (PerKind.get_replicate CallCount.zero kind)
  warned := fun _ => rfl

/-- A record that neither tells nor warns of a failure changes nothing. -/
theorem emit
    (h : m.Warns)
    {entry : Record P N}
    (hfail : entry.failed? = none)
    (hwarn : entry.warned? = none) :
    (m.emit entry).Warns where
  counted := by
    intro kind
    rw [emit_trace, failuresIn, recordsIn_cons_of_not hfail]
    exact h.counted kind
  warned := by
    intro kind
    rw [emit_trace, warningsIn, recordsIn_cons_of_not hwarn, failuresIn,
      recordsIn_cons_of_not hfail]
    exact h.warned kind

theorem update
    (h : m.Warns)
    (f : Dispatcher P → Dispatcher P)
    (hsame :
      ∀ kind,
        ((f m.state).tally.calls.get kind).failed =
          (m.state.tally.calls.get kind).failed) :
    (m.update f).Warns :=
  ⟨fun kind => (hsame kind).trans (h.counted kind), h.warned⟩

theorem registered
    (h : m.Warns)
    (settings : Settings)
    (spec : Spec P) :
    (m.registered settings spec).Warns := by
  have hentered :=
    h.update
      (fun s => s.enrolled spec (spec.priority.getD settings.defaultPriority))
      (fun _ => rfl)
  have hbound :
      ((m.update _).emit
        (.log (.bindingsInserted m.state.nextId spec.kinds.length))).Warns :=
    hentered.emit rfl rfl
  have hcounted :=
    hbound.update
      (fun s => s.retally fun tally => tally.registered spec.autoEnable)
      (fun kind => congrArg CallCount.failed
        (congrArg (PerKind.get · kind) (Tally.calls_registered _ _)))
  exact (hcounted.emit rfl rfl).emit rfl rfl

theorem unregistered
    (h : m.Warns)
    (registration : Registration P) :
    (m.unregistered registration).Warns := by
  have hstruck :=
    h.update (fun s => s.withdrawn registration.id) (fun _ => rfl)
  have hunbound :
      ((m.update _).emit
        (.log (.bindingsRemoved registration.id
          (m.state.table.countOf registration.id)))).Warns :=
    hstruck.emit rfl rfl
  have hcounted :=
    hunbound.update
      (fun s => s.retally fun tally => tally.unregistered registration.enabled)
      (fun kind => congrArg CallCount.failed
        (congrArg (PerKind.get · kind) (Tally.calls_unregistered _ _)))
  unfold Machine.unregistered
  cases registration.spec.cleanup with
  | none => exact hcounted
  | some cleanup => exact hcounted.emit rfl rfl

theorem toggled
    (h : m.Warns)
    (script : ScriptId)
    (enabled : Bool) :
    (m.toggled script enabled).Warns := by
  have hcounted :=
    h.update
      (fun s =>
        (s.setFlag script enabled).retally fun tally => tally.toggled enabled)
      (fun kind => congrArg CallCount.failed
        (congrArg (PerKind.get · kind) (Tally.calls_toggled _ _)))
  exact hcounted.emit rfl rfl

theorem attempted
    (h : m.Warns)
    (event : Event) :
    (m.attempted event).Warns := by
  have hcounted :=
    h.update (fun s => s.retally fun tally => tally.attempted event.kind)
      (by
        intro kind
        show
          ((m.state.tally.calls.modify event.kind _).get kind).failed = _
        rw [PerKind.get_modify]
        split_ifs with hkind
        · rw [hkind]
        · rfl)
  exact hcounted.emit rfl rfl

/-- A failure is counted, recorded and warned of once. -/
theorem failed
    (h : m.Warns)
    (script : ScriptId)
    (under : EventKind)
    (name : String)
    (reason : HandlerError) :
    ((m.failed script under reason).emit
      (.log (.handlerFailed under script name reason))).Warns where
  counted := by
    intro kind
    show
      ((m.state.tally.calls.modify under _).get kind).failed = _
    rw [emit_trace, failuresIn, recordsIn_cons_of_not rfl]
    show
      _ = UInt64.ofNat (recordsIn Record.failed? kind (_ :: m.trace))
    rw [recordsIn_cons, PerKind.get_modify]
    by_cases hkind : kind = under
    · subst hkind
      simp [Record.failed?, UInt64.ofNat_add, h.counted kind, failuresIn]
    · simp [Record.failed?, hkind, Ne.symm hkind, h.counted kind, failuresIn]
  warned := by
    intro kind
    rw [emit_trace, warningsIn, failuresIn, recordsIn_cons,
      recordsIn_cons_of_not rfl]
    show
      recordsIn Record.warned? kind (_ :: m.trace) + _ =
        recordsIn Record.failed? kind (_ :: m.trace)
    rw [recordsIn_cons_of_not rfl, recordsIn_cons]
    exact congrArg (· + _) (h.warned kind)

end Machine.Warns

/-- What every move preserves: a ledger is kept, and failures are warned of. -/
structure Standing.Sound (standing : Standing P W N) : Prop where
  wellFormed : standing.machine.state.WellFormed
  kept : ∃ ledger, standing.Kept ledger
  warns : standing.machine.Warns

theorem Standing.sound_fresh (store : W) :
    (⟨[], .fresh store⟩ : Standing P W N).Sound where
  wellFormed := Dispatcher.wellFormed_empty
  kept := ⟨Ledger.empty, rfl, fun _ _ => rfl, by simp, by simp, .nil⟩
  warns := Machine.Warns.fresh store

theorem Record.failed?_of_free
    {entry : Record P N}
    (free : entry.isReserved = false) :
    entry.failed? = none := by
  cases entry with
  | handlerEnded script kind outcome =>
      cases outcome with
      | ok verdict => rfl
      | error reason => exact absurd free (by simp [isReserved])
  | _ => rfl

theorem Record.warned?_of_free
    {entry : Record P N}
    (free : entry.isReserved = false) :
    entry.warned? = none := by
  cases entry with
  | log written =>
      cases written with
      | handlerFailed kind script name reason =>
          exact absurd free (by simp [isReserved, LogEntry.isReserved])
      | _ => rfl
  | _ => rfl

theorem Record.free_of_written
    {entry : Record P N}
    (free : entry.isReserved = false)
    {written : LogEntry}
    (hwritten : entry.written? = some written) :
    written.isReserved = false := by
  cases entry with
  | log other =>
      obtain rfl := Option.some.inj hwritten
      exact free
  | _ => exact absurd hwritten (by simp [written?])

section Moves

variable {settings : Settings} {a b : Standing P W N}

theorem Move.wellFormed
    (move : Move settings a b)
    (h : a.machine.state.WellFormed) :
    b.machine.state.WellFormed := by
  cases move with
  | register untold m spec =>
      have once : Step settings m (m.registered settings spec) := .register m spec
      exact once.wellFormed h
  | remove untold m registration live =>
      have once : Step settings m (m.unregistered registration) :=
        .unregister m registration live
      exact once.wellFormed h
  | toggle untold m registration enabled live change =>
      have once : Step settings m (m.toggled registration.id enabled) :=
        .toggle m registration enabled live change
      exact once.wellFormed h
  | attempt untold m event =>
      have key := h.retally fun tally => tally.attempted event.kind
      exact key
  | fail untold m script kind name reason =>
      have key := h.retally fun tally => tally.failed kind
      exact key
  | _ => exact h

/-- A move keeps the warnings right. -/
theorem Move.warns
    (move : Move settings a b)
    (h : a.machine.Warns) :
    b.machine.Warns := by
  cases move with
  | register untold m spec => exact h.registered settings spec
  | remove untold m registration live => exact h.unregistered registration
  | tell untold m registration => exact h.emit rfl rfl
  | toggle untold m registration enabled live change =>
      exact h.toggled registration.id enabled
  | attempt untold m event => exact h.attempted event
  | fail untold m script kind name reason =>
      exact h.failed script kind name reason
  | record untold m entry free =>
      exact
        h.emit (Record.failed?_of_free free) (Record.warned?_of_free free)
  | write untold m store => exact ⟨h.counted, h.warned⟩
  | send untold m => exact ⟨h.counted, h.warned⟩

/-- **After a move a ledger can still be kept.** -/
theorem Move.kept
    (move : Move settings a b)
    (hwf : a.machine.state.WellFormed)
    {ledger : Ledger}
    (h : a.Kept ledger) :
    ∃ next, b.Kept next := by
  cases move with
  | register untold m spec => exact ⟨_, h.registered hwf settings spec⟩
  | remove untold m registration live => exact ⟨ledger, h.unregistered hwf live⟩
  | tell untold m registration => exact ⟨_, h.told_removal⟩
  | toggle untold m registration enabled live change =>
      exact ⟨_, h.toggled live change⟩
  | attempt untold m event =>
      have counted := h.retally fun tally => tally.attempted event.kind
      exact ⟨ledger, counted.emit (by simp [Record.written?])⟩
  | fail untold m script kind name reason =>
      have counted := h.retally fun tally => tally.failed kind
      have ended : Standing.Kept ⟨untold, m.failed script kind reason⟩ ledger :=
        counted.emit (by simp [Record.written?])
      refine ⟨ledger, ended.emit ?_⟩
      rintro _ ⟨⟩
      rfl
  | record untold m entry free =>
      refine ⟨ledger, h.emit ?_⟩
      intro written hwritten
      exact ledger.read?_of_free (Record.free_of_written free hwritten)
  | write untold m store =>
      exact ⟨ledger, h.told, h.shown, h.known, h.gone, h.once⟩
  | send untold m =>
      exact ⟨ledger, h.told, h.shown, h.known, h.gone, h.once⟩

theorem Moves.sound
    (moves : Moves settings a b)
    (h : a.Sound) :
    b.Sound := by
  induction moves with
  | refl => exact h
  | tail _ move ih =>
      obtain ⟨ledger, kept⟩ := ih.kept
      exact
        ⟨move.wellFormed ih.wellFormed, move.kept ih.wellFormed kept,
          move.warns ih.warns⟩

/-- A machine agrees with its journal once all removals are told. -/
theorem Standing.Sound.isJournaled
    {m : Machine P W N}
    (h : Sound ⟨[], m⟩)
    (few : ∀ kind, failuresIn kind m.trace < UInt64.size) :
    m.IsJournaled where
  live := by
    obtain ⟨ledger, kept⟩ := h.kept
    have hall : ledger = m.state.ledger := by
      funext script
      exact kept.shown script (by simp)
    rw [← hall]
    exact kept.told
  failures := by
    intro kind
    rw [h.warns.counted kind, h.warns.warned kind]
    exact UInt64.toNat_ofNat_of_lt' (few kind)

end Moves

/--
**The journal is faithful.**

Take a run in which panics of cleanups are caught and whose user code leaves the
records of registrations and of failed handlers to the dispatcher; the handlers and
the cleanups may call back as they like, and handlers may panic uncaught.  After each
call of the host and at the end, replaying the journal offends nowhere and leaves
exactly the live registrations with their names, priorities and flags, and the
warnings of failed handlers are as many, for each kind, as the counter says.
-/
theorem journal_is_faithful
    (setup : Setup P W N)
    (room : Nat)
    (codes : List (Code P W N R))
    (store : W)
    (catches : setup.settings.catchCleanupPanics = true)
    (discreet : setup.behaviour.IsDiscreet)
    (discreetHost : ∀ code ∈ codes, code.IsDiscreet)
    (roomy : .exhausted ∉ (setup.runAll room codes (.fresh store)).1)
    (fewHandlers :
      ∀ kind,
        handlersIn kind (setup.runAll room codes (.fresh store)).2.trace <
          UInt64.size) :
    (∀ landing ∈ setup.landings room codes (.fresh store),
      landing.IsJournaled) ∧
      (setup.runAll room codes (.fresh store)).2.IsJournaled := by
  have few :
      ∀ {m : Machine P W N},
        m.trace <:+ (setup.runAll room codes (.fresh store)).2.trace →
        ∀ kind, failuresIn kind m.trace < UInt64.size := by
    intro m hsuffix kind
    have hfailures : failuresIn kind m.trace ≤ _ := recordsIn_le_of_suffix hsuffix
    have hbegan := setup.failures_le_runAll room codes store kind
    exact (hfailures.trans hbegan).trans_lt (fewHandlers kind)
  have sound : (⟨[], .fresh store⟩ : Standing P W N).Sound :=
    Standing.sound_fresh store
  constructor
  · intro landing hlanding
    obtain ⟨before, behind⟩ :=
      Setup.moves_landings catches discreet discreetHost roomy [] hlanding
    exact (before.sound sound).isJournaled (few behind.trace_suffix)
  · have moves := Setup.moves_runAll catches discreet discreetHost roomy []
    exact (moves.sound sound).isJournaled (few (List.suffix_refl _))

/-!
A testament: the cleanup of a script appoints an heir and turns it off, and raises two
events, for which a handler fails and then panics.
-/

namespace Testament

/-- The script whose cleanup acts. -/
def testator : Spec Bool :=
  (Spec.named "testator").withCleanup true

/-- The script that the cleanup registers. -/
def heir : Spec Bool :=
  (Spec.named "heir").withPriority 7

/-- The script whose handlers fail and panic. -/
def witness : Spec Bool :=
  ((Spec.named "witness").hook .timer true).hook .chat false

/-- What the handlers and the cleanup do. -/
def behaviour : Behaviour Bool Unit Unit where
  onEvent := fun _ procedure _ =>
    if procedure then .finish (.failed "absent")
    else .finish (.panicked ⟨some "shocked"⟩)
  onRemoval := fun _ _ =>
    .call (.register heir) fun script =>
    .call (.disable script) fun _ =>
    .call (.dispatch (.timer 0)) fun _ =>
    .call (.dispatch (.chat "ann" "hello")) fun _ =>
    .done ()

/-- The setup in which they run: panics of handlers are not caught. -/
def setup : Setup Bool Unit Unit where
  settings := { catchHandlerPanics := false }
  notifier := .accepting
  behaviour := behaviour

/-- The host registers two scripts and removes the first. -/
def host : Code Bool Unit Unit Unit :=
  .call (.register testator) fun script =>
  .call (.register witness) fun _ =>
  .call (.unregister script) fun _ =>
  .done ()

/-- The machine at the end. -/
def last : Machine Bool Unit Unit :=
  (setup.runAll 2 [host] (.fresh ())).2

theorem behaviour_isDiscreet : behaviour.IsDiscreet where
  onEvent := by
    intro level procedure event
    cases procedure <;> trivial
  onRemoval := by
    intro level procedure _ _ _ _
    trivial

theorem host_isDiscreet : ∀ code ∈ [host], code.IsDiscreet := by
  intro code hcode
  rw [List.mem_singleton] at hcode
  subst hcode
  intro _ _ _
  trivial

end Testament

/--
The removal of the first script is told after the heir was entered and turned off, and
the journal leaves the heir and the witness all the same.
-/
theorem journal_is_faithful_about_testament :
    Testament.last.journal =
        [.bindingsInserted 1 0, .scriptRegistered 1 "testator" 100 0 true,
          .bindingsInserted 2 2, .scriptRegistered 2 "witness" 100 2 true,
          .bindingsRemoved 1 0,
          .bindingsInserted 3 0, .scriptRegistered 3 "heir" 7 0 true,
          .stateChanged 3 false, .dispatching .timer 1,
          .handlerFailed .timer 2 "witness" (.failed "absent"),
          .dispatching .chat 1, .cleanupFailed 1 "testator" (.panicked "shocked"),
          .scriptUnregistered 1 "testator"] ∧
      Testament.last.state.ledger 1 = none ∧
      Testament.last.state.ledger 3 = some ⟨"heir", 7, false⟩ ∧
      Testament.last.IsJournaled := by
  have roomy :
      Flow.exhausted ∉
        (Testament.setup.runAll 2 [Testament.host] (.fresh ())).1 := by
    decide +kernel
  have few :
      ∀ kind,
        handlersIn kind
            (Testament.setup.runAll 2 [Testament.host] (.fresh ())).2.trace <
          UInt64.size := by
    intro kind
    have hlength :
        (Testament.setup.runAll 2 [Testament.host]
            (.fresh ())).2.trace.length <
          UInt64.size := by
      decide +kernel
    exact List.countP_le_length.trans_lt hlength
  have faithful :=
    journal_is_faithful Testament.setup 2 [Testament.host] () rfl
      Testament.behaviour_isDiscreet Testament.host_isDiscreet roomy few
  refine ⟨?_, ?_, ?_, faithful.2⟩
  · cbv
  · cbv
  · cbv

end ScriptHub
