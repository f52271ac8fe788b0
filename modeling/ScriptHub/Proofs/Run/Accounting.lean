import Mathlib.Algebra.GroupWithZero.Nat
import ScriptHub.Proofs.Run.RunCourse

/-!
# Every removal is answered once

A removal is answered by the call that made it: `unregister` answers whether it
removed a registration, and a shutdown answers how many it removed itself.  What
the cleanups remove meanwhile is answered by their own calls.  So the answers on
record, together with what the call under way still has to answer, number the
registrations that are gone.

**Results.**
* `Dispatcher.Evolves.length_lost`: how many registrations are gone between two states.
* `Span.balanced`: where panics of cleanups are caught, a span is balanced.
-/

namespace ScriptHub

variable {P W N : Type}

namespace Dispatcher

variable {state : Dispatcher P}

/-- Whether a registration is live. -/
def isLive
    (state : Dispatcher P)
    (script : ScriptId) :
    Bool :=
  (state.find? script).isSome

theorem isLive_eq_false {script : ScriptId} :
    state.isLive script = false ↔ state.find? script = none := by
  unfold isLive
  rw [Option.isSome_eq_false_iff, Option.isNone_iff_eq_none]

theorem isLive_iff_mem_ids {script : ScriptId} :
    state.isLive script = true ↔ script ∈ state.ids := by
  unfold isLive ids
  rw [find?, List.find?_isSome, List.mem_map]
  simp only [beq_iff_eq]

/-- An id that was issued and is live later was live earlier. -/
theorem Evolves.isLive
    {earlier later : Dispatcher P}
    (h : earlier.Evolves later)
    {script : ScriptId}
    (hissued : script < earlier.nextId)
    (hlive : later.isLive script = true) :
    earlier.isLive script = true := by
  obtain ⟨registration, hfind⟩ := Option.isSome_iff_exists.mp hlive
  obtain ⟨before, hbefore, _⟩ := h.kept hissued hfind
  unfold Dispatcher.isLive
  rw [hbefore]
  rfl

/-- An id that was issued and is gone stays gone. -/
theorem Evolves.isLive_eq_false
    {earlier later : Dispatcher P}
    (h : earlier.Evolves later)
    {script : ScriptId}
    (hissued : script < earlier.nextId)
    (gone : earlier.isLive script = false) :
    later.isLive script = false := by
  rw [Dispatcher.isLive_eq_false] at gone ⊢
  exact h.find?_eq_none hissued gone

/-- The ids of the live registrations ascend. -/
theorem WellFormed.pairwise_ids (h : state.WellFormed) :
    state.ids.Pairwise (· < ·) :=
  List.pairwise_map.mpr h.ascending

theorem WellFormed.lt_nextId_of_mem_ids
    (h : state.WellFormed)
    {script : ScriptId}
    (hmem : script ∈ state.ids) :
    script < state.nextId := by
  obtain ⟨registration, hlive, rfl⟩ := List.mem_map.mp hmem
  exact h.issued registration hlive

section Count

theorem count_enrolled
    (state : Dispatcher P)
    (spec : Spec P)
    (priority : Int32) :
    (state.enrolled spec priority).count = state.count + 1 :=
  List.length_append

theorem WellFormed.count_withdrawn
    (h : state.WellFormed)
    {registration : Registration P}
    (live : state.find? registration.id = some registration) :
    (state.withdrawn registration.id).count + 1 = state.count := by
  rw [← liveWith_add, ← liveWith_add state]
  have htrue := h.liveWith_withdrawn live true
  have hfalse := h.liveWith_withdrawn live false
  cases hflag : registration.enabled <;> simp [hflag] at htrue hfalse <;> omega

theorem count_setFlag
    (state : Dispatcher P)
    (script : ScriptId)
    (enabled : Bool) :
    (state.setFlag script enabled).count = state.count :=
  List.length_map _

end Count

/--
The registrations that are gone in a later state: of those that were live earlier
and of those that were made since.
-/
def lost (earlier later : Dispatcher P) : List ScriptId :=
  (earlier.ids ++
    List.range' earlier.nextId (later.nextId - earlier.nextId)).filter
      fun script => !later.isLive script

/-- The ids that were live earlier or were issued since. -/
def known (earlier later : Dispatcher P) : List ScriptId :=
  earlier.ids ++ List.range' earlier.nextId (later.nextId - earlier.nextId)

section Known

variable {earlier later : Dispatcher P}

theorem WellFormed.nodup_known (h : earlier.WellFormed) :
    (earlier.known later).Nodup := by
  apply List.nodup_append.mpr
  refine ⟨h.pairwise_ids.imp Nat.ne_of_lt, List.nodup_range', ?_⟩
  intro script hold other hnew
  have hissued := h.lt_nextId_of_mem_ids hold
  have hbound := (List.mem_range'_1.mp hnew).1
  exact Nat.ne_of_lt (Nat.lt_of_lt_of_le hissued hbound)

theorem Evolves.length_known (evolves : earlier.Evolves later) :
    (earlier.known later).length + earlier.nextId =
      earlier.count + later.nextId := by
  have hsum :
      (earlier.known later).length =
        earlier.count + (later.nextId - earlier.nextId) := by
    simp [known, ids, count]
  rw [hsum, Nat.add_assoc, Nat.sub_add_cancel evolves.nextId_le]

/-- What is live later was live earlier or was issued since. -/
theorem Evolves.mem_known
    (evolves : earlier.Evolves later)
    (hlater : later.WellFormed)
    {script : ScriptId}
    (hlive : later.isLive script = true) :
    script ∈ earlier.known later := by
  have hissued := hlater.lt_nextId_of_mem_ids (isLive_iff_mem_ids.mp hlive)
  rcases Nat.lt_or_ge script earlier.nextId with hold | hnew
  · apply List.mem_append_left
    exact isLive_iff_mem_ids.mp (evolves.isLive hold hlive)
  · apply List.mem_append_right
    apply List.mem_range'_1.mpr
    rw [Nat.add_sub_cancel' evolves.nextId_le]
    exact ⟨hnew, hissued⟩

/-- Of the known ids the live ones are those that a later state lists. -/
theorem Evolves.perm_ids
    (evolves : earlier.Evolves later)
    (hearlier : earlier.WellFormed)
    (hlater : later.WellFormed) :
    ((earlier.known later).filter fun script => later.isLive script).Perm
      later.ids := by
  apply (List.perm_ext_iff_of_nodup (hearlier.nodup_known.filter _)
    (hlater.pairwise_ids.imp Nat.ne_of_lt)).mpr
  intro script
  rw [List.mem_filter, ← isLive_iff_mem_ids]
  constructor
  · rintro ⟨_, hlive⟩
    exact hlive
  · intro hlive
    exact ⟨evolves.mem_known hlater hlive, hlive⟩

/-- What is not gone is live. -/
theorem Evolves.length_lost
    (evolves : earlier.Evolves later)
    (hearlier : earlier.WellFormed)
    (hlater : later.WellFormed) :
    (earlier.lost later).length + later.count + earlier.nextId =
      earlier.count + later.nextId := by
  have hkept :
      ((earlier.known later).filter fun script => later.isLive script).length =
        later.count := by
    rw [(evolves.perm_ids hearlier hlater).length_eq]
    exact List.length_map _
  have hsplit :=
    List.length_eq_length_filter_add
      (l := earlier.known later) (fun script => later.isLive script)
  have hlost :
      earlier.lost later =
        (earlier.known later).filter fun script => !later.isLive script :=
    rfl
  have hknown := evolves.length_known
  rw [hlost]
  omega

end Known
end Dispatcher

/-- How many removals a record answers. -/
def Record.removals : Record P N → Nat
  | .answered (.unregister _) removed => Bool.toNat removed
  | .answered .shutdown removed => removed
  | _ => 0

/-- How many removals a trace answers. -/
def removalsIn (trace : List (Moment P N)) : Nat :=
  (trace.map fun moment => moment.record.removals).sum

@[simp] theorem removalsIn_cons
    (moment : Moment P N)
    (trace : List (Moment P N)) :
    removalsIn (moment :: trace) =
      moment.record.removals + removalsIn trace := by
  simp [removalsIn]

theorem removalsIn_append
    (news trace : List (Moment P N)) :
    removalsIn (news ++ trace) = removalsIn news + removalsIn trace := by
  simp [removalsIn]

theorem Record.removals_of_isQuiet
    {entry : Record P N}
    (quiet : entry.isQuiet = true) :
    entry.removals = 0 := by
  cases entry with
  | answered call answer =>
      cases call with
      | unregister script => exact absurd quiet (by simp [isQuiet])
      | shutdown => exact absurd quiet (by simp [isQuiet])
      | _ => rfl
  | _ => rfl

namespace Machine

/--
What is gone between two machines is what was answered in between and what is
still to be answered.
-/
def Balanced
    (a b : Machine P W N)
    (owed : Nat) :
    Prop :=
  a.state.count + b.state.nextId + removalsIn a.trace =
    b.state.count + a.state.nextId + removalsIn b.trace + owed

variable {a b c m : Machine P W N} {owed made : Nat}

theorem Balanced.refl (m : Machine P W N) : m.Balanced m 0 := by
  unfold Balanced
  omega

theorem Balanced.trans
    (first : a.Balanced b made)
    (second : b.Balanced c owed) :
    a.Balanced c (made + owed) := by
  unfold Balanced at first second ⊢
  omega

/-- A record answers what was to be answered. -/
theorem Balanced.emit
    {entry : Record P N}
    (h : a.Balanced b (owed + entry.removals)) :
    a.Balanced (b.emit entry) owed := by
  have hanswered :
      removalsIn (b.emit entry).trace = entry.removals + removalsIn b.trace :=
    removalsIn_cons _ _
  unfold Balanced at h ⊢
  rw [hanswered, emit_state]
  omega

/-- A change that touches no registration is balanced. -/
theorem Balanced.update
    (h : a.Balanced b owed)
    (f : Dispatcher P → Dispatcher P)
    (hcount : (f b.state).count = b.state.count)
    (hnext : (f b.state).nextId = b.state.nextId) :
    a.Balanced (b.update f) owed := by
  unfold Balanced at h ⊢
  show
    a.state.count + (f b.state).nextId + removalsIn a.trace =
      (f b.state).count + a.state.nextId + removalsIn b.trace + owed
  rw [hcount, hnext]
  exact h

/-- A record that answers no removal leaves a balance. -/
theorem balanced_emit
    (m : Machine P W N)
    {entry : Record P N}
    (hnone : entry.removals = 0) :
    m.Balanced (m.emit entry) 0 := by
  apply Balanced.emit
  rw [hnone]
  exact .refl m

theorem balanced_attempted
    (m : Machine P W N)
    (event : Event) :
    m.Balanced (m.attempted event) 0 := by
  apply Balanced.emit
  exact (Balanced.refl m).update _ rfl rfl

theorem balanced_registered
    (m : Machine P W N)
    (settings : Settings)
    (spec : Spec P) :
    m.Balanced (m.registered settings spec) 0 := by
  have hcount := m.state.count_enrolled spec
    (spec.priority.getD settings.defaultPriority)
  show
    m.state.count + (m.state.nextId + 1) + removalsIn m.trace =
      (m.state.enrolled spec _).count + m.state.nextId +
        removalsIn (_ :: _ :: _ :: m.trace) + 0
  rw [hcount]
  simp only [removalsIn_cons, Record.removals]
  omega

/-- A removal is still to be answered when the cleanup begins. -/
theorem balanced_unregistered
    (hwf : m.state.WellFormed)
    {registration : Registration P}
    (live : m.state.find? registration.id = some registration) :
    m.Balanced (m.unregistered registration) 1 := by
  have hcount := hwf.count_withdrawn live
  have htrace :
      removalsIn (m.unregistered registration).trace = removalsIn m.trace := by
    unfold unregistered
    cases registration.spec.cleanup <;>
      simp [update, Record.removals]
  unfold Balanced
  rw [htrace, unregistered_state]
  show
    m.state.count + m.state.nextId + _ =
      (m.state.withdrawn registration.id).count + m.state.nextId + _ + 1
  omega

end Machine

/-- The account of a handler's end leaves a balance. -/
theorem HandlerCall.balanced_settled
    {setup : Setup P W N}
    (call : HandlerCall setup)
    {a : Machine P W N}
    {owed : Nat}
    (h : a.Balanced call.stop owed) :
    a.Balanced call.settled owed := by
  rcases call.settled_cases with
    ⟨outcome, _, _, hsettled⟩ | ⟨payload, _, _, hsettled⟩ | ⟨_, _, hsettled⟩
  · rw [hsettled]
    cases outcome with
    | ok verdict => exact Machine.Balanced.emit h
    | error reason =>
        apply Machine.Balanced.emit
        exact h.update _ rfl rfl
  · rw [hsettled]
    exact Machine.Balanced.emit h
  · rw [hsettled]
    exact h

/-- **Every removal is answered once**, where panics of cleanups are caught. -/
theorem Span.balanced
    {setup : Setup P W N}
    {a b : Machine P W N}
    {owed : Option Nat}
    (span : Span setup a owed b)
    (caught : setup.settings.catchCleanupPanics = true)
    (hwf : a.state.WellFormed)
    {made : Nat}
    (howed : owed = some made) :
    a.Balanced b made := by
  induction span generalizing made with
  | stay m =>
      obtain rfl := Option.some.inj howed
      exact .refl m
  | cut m => exact absurd howed (by simp)
  | trans first _ ihfirst ihsecond =>
      obtain ⟨others, hothers, rfl⟩ := Option.map_eq_some_iff.mp howed
      exact (ihfirst hwf rfl).trans
        (ihsecond (first.course.wellFormed hwf) hothers)
  | register m spec =>
      obtain rfl := Option.some.inj howed
      exact m.balanced_registered setup.settings spec
  | toggle m registration enabled live change =>
      obtain rfl := Option.some.inj howed
      apply Machine.Balanced.emit
      exact (Machine.Balanced.refl m).update _ (Dispatcher.count_setFlag _ _ _) rfl
  | record m entry quiet =>
      obtain rfl := Option.some.inj howed
      exact m.balanced_emit (Record.removals_of_isQuiet quiet)
  | write m store =>
      obtain rfl := Option.some.inj howed
      exact .refl m
  | send m =>
      obtain rfl := Option.some.inj howed
      exact .refl m
  | handler call due begun _ ih =>
      have hbegan : call.start.Balanced call.began 0 :=
        call.start.balanced_emit rfl
      have key := hbegan.trans (ih hwf howed)
      rw [Nat.zero_add] at key
      exact call.balanced_settled key
  | dispatch call sound _ ih =>
      have hwf' : (call.start.attempted call.event).state.WellFormed := by
        rw [Machine.attempted_state]
        exact sound.retally _
      have key :=
        (call.start.balanced_attempted call.event).trans (ih hwf' howed)
      rw [Nat.zero_add] at key
      exact key
  | report call sound result returned =>
      obtain rfl := Option.some.inj howed
      exact call.stop.balanced_emit rfl
  | removal m registration live _ ih =>
      obtain ⟨others, hothers, rfl⟩ := Option.map_eq_some_iff.mp howed
      have removed : Course setup m (m.unregistered registration) :=
        .step (.unregister m registration live)
      exact (Machine.balanced_unregistered hwf live).trans
        (ih (removed.wellFormed hwf) hothers)
  | answerRemoval script removed _ ih =>
      obtain rfl := Option.some.inj howed
      apply Machine.Balanced.emit
      rw [Nat.zero_add]
      exact ih hwf rfl
  | answerShutdown removed _ ih =>
      obtain rfl := Option.some.inj howed
      apply Machine.Balanced.emit
      rw [Nat.zero_add]
      exact ih hwf rfl
  | forfeit uncaught _ ih =>
      rw [caught] at uncaught
      exact absurd uncaught (by simp)

end ScriptHub
