import ScriptHub.Proofs.Run.Accounting
import ScriptHub.Proofs.Run.Removal

/-!
# Sweeping over ids

A sweep goes through a list of ids and removes what is still live, while the
cleanups remove and register others.  An attempt says what happened to one id: in
which machine its removal was tried and which machine it left.  What becomes of
another id during an attempt is the work of the cleanup that ran in it.

**Results.**
* `Attempt.Sound.find?_left`: only a cleanup changes another registration.
* `Sweeps`: the sweeps that come to an end.
* `Sweeps.gone`: every id that is swept is gone.
* `Sweeps.removed_eq`: a sweep counts the ids that no cleanup took from it.
-/

namespace ScriptHub

variable {P W N : Type}

/--
One removal that a sweep tries: the machine in which it is tried, how it ends, and the
machine that it leaves.
-/
structure Attempt (P W N : Type) where
  script : ScriptId
  before : Machine P W N
  flow : Flow Bool
  left : Machine P W N

namespace Attempt

/-- An attempt is a removal like every other. -/
def Sound
    (settings : Settings)
    (scripts : Scripts P W N)
    (attempt : Attempt P W N) :
    Prop :=
  Run.unregister settings scripts attempt.script attempt.before =
    (attempt.flow, attempt.left)

/-- The attempts lead from one machine to another without a gap. -/
def Linked :
    Machine P W N → List (Attempt P W N) → Machine P W N → Prop
  | m, [], last => m = last
  | m, attempt :: rest, last =>
      attempt.before = m ∧ Linked attempt.left rest last

theorem Linked.append
    {m mid last : Machine P W N}
    {front back : List (Attempt P W N)}
    (first : Linked m front mid)
    (second : Linked mid back last) :
    Linked m (front ++ back) last := by
  induction front generalizing m with
  | nil =>
      have hsame : m = mid := first
      rw [hsame]
      exact second
  | cons attempt rest ih => exact ⟨first.1, ih first.2⟩

/-- The machines in which the cleanup of an attempt begins and ends, if it runs. -/
def cleanup?
    (scripts : Scripts P W N)
    (attempt : Attempt P W N) :
    Option (Machine P W N × Machine P W N) :=
  (attempt.before.state.find? attempt.script).bind fun registration =>
    registration.spec.cleanup.map fun cleanup =>
      (attempt.before.unregistered registration,
        (scripts.clean cleanup (attempt.before.unregistered registration)).2)

/-- The cleanup of an attempt changes a registration. -/
def Changes
    (scripts : Scripts P W N)
    (attempt : Attempt P W N)
    (script : ScriptId) :
    Prop :=
  ∃ began ended,
    attempt.cleanup? scripts = some (began, ended) ∧
      ended.state.find? script ≠ began.state.find? script

/-- Whether the cleanup of an attempt removes a registration. -/
def takes
    (scripts : Scripts P W N)
    (attempt : Attempt P W N)
    (script : ScriptId) :
    Bool :=
  match attempt.cleanup? scripts with
  | none => false
  | some (began, ended) =>
      began.state.isLive script && !ended.state.isLive script

section Laws

variable {settings : Settings} {scripts : Scripts P W N}
variable {attempt : Attempt P W N}

/-- When the cleanup of an attempt begins, the id is gone and all else is there. -/
theorem find?_began
    {began ended : Machine P W N}
    (hcleanup : attempt.cleanup? scripts = some (began, ended))
    (script : ScriptId) :
    began.state.find? script =
      if script = attempt.script then none
      else attempt.before.state.find? script := by
  obtain ⟨registration, live, hmap⟩ := Option.bind_eq_some_iff.mp hcleanup
  obtain ⟨cleanup, _, hpair⟩ := Option.map_eq_some_iff.mp hmap
  obtain ⟨rfl, _⟩ := Prod.mk.inj hpair
  have hid := Dispatcher.find?_eq_some_id live
  rw [Machine.unregistered_state, ← hid]
  exact Dispatcher.find?_withdrawn _ _ _

/-- What becomes of another registration in an attempt, its cleanup apart. -/
theorem Sound.frame
    (sound : attempt.Sound settings scripts)
    {script : ScriptId}
    (hother : script ≠ attempt.script) :
    (attempt.cleanup? scripts = none ∧
        attempt.left.state.find? script =
          attempt.before.state.find? script) ∨
      ∃ began ended,
        attempt.cleanup? scripts = some (began, ended) ∧
          attempt.left.state.find? script = ended.state.find? script := by
  have hleft :
      (Run.unregister settings scripts attempt.script attempt.before).2 =
        attempt.left :=
    congrArg Prod.snd sound
  unfold cleanup?
  rw [← hleft]
  cases live : attempt.before.state.find? attempt.script with
  | none =>
      rw [Run.unregister_of_unknown settings scripts live]
      exact .inl ⟨rfl, rfl⟩
  | some registration =>
      have hid := Dispatcher.find?_eq_some_id live
      rw [← hid] at live hother ⊢
      rw [Run.unregister_of_live settings scripts live, Option.bind_some]
      cases hcleanup : registration.spec.cleanup with
      | none =>
          have hbegan :
              (attempt.before.unregistered registration).state.find? script =
                attempt.before.state.find? script := by
            rw [Machine.unregistered_state]
            exact (Dispatcher.find?_withdrawn _ _ _).trans (if_neg hother)
          refine .inl ⟨rfl, ?_⟩
          rw [← hbegan]
          simp only [Run.afterRemoval, Run.runCleanup, hcleanup]
          rfl
      | some cleanup =>
          refine .inr ⟨_, _, rfl, ?_⟩
          rw [Run.afterRemoval_state_of_cleanup settings scripts hcleanup]

/-- Only a cleanup changes another registration. -/
theorem Sound.find?_left
    (sound : attempt.Sound settings scripts)
    {script : ScriptId}
    (hother : script ≠ attempt.script)
    (unchanged : ¬ attempt.Changes scripts script) :
    attempt.left.state.find? script = attempt.before.state.find? script := by
  rcases sound.frame hother with ⟨_, hsame⟩ | ⟨began, ended, hcleanup, hended⟩
  · exact hsame
  · have hbegan := find?_began hcleanup script
    rw [if_neg hother] at hbegan
    rw [hended, ← hbegan]
    by_contra hne
    exact unchanged ⟨began, ended, hcleanup, hne⟩

/-- What is gone after an attempt but the id itself was taken by the cleanup. -/
theorem Sound.takes_eq
    (sound : attempt.Sound settings scripts)
    {script : ScriptId}
    (hother : script ≠ attempt.script) :
    attempt.takes scripts script =
      (attempt.before.state.isLive script &&
        !attempt.left.state.isLive script) := by
  unfold takes Dispatcher.isLive
  rcases sound.frame hother with
    ⟨hcleanup, hsame⟩ | ⟨began, ended, hcleanup, hended⟩
  · rw [hcleanup, hsame]
    simp
  · have hbegan := find?_began hcleanup script
    rw [if_neg hother] at hbegan
    rw [hcleanup, hended, ← hbegan]

/-- What is gone when the cleanup of an attempt begins is not taken by it. -/
theorem takes_eq_false
    {script : ScriptId}
    (gone :
      script ≠ attempt.script →
      attempt.before.state.find? script = none) :
    attempt.takes scripts script = false := by
  unfold takes
  cases hcleanup : attempt.cleanup? scripts with
  | none => rfl
  | some pair =>
      obtain ⟨began, ended⟩ := pair
      have hbegan : began.state.find? script = none := by
        rw [find?_began hcleanup]
        split_ifs with hown
        · rfl
        · exact gone hown
      simp [Dispatcher.isLive, hbegan]

end Laws
end Attempt

/-- The sweeps over a list of ids that come to an end. -/
inductive Sweeps
    (settings : Settings)
    (scripts : Scripts P W N) :
    Machine P W N → List ScriptId → List (Attempt P W N) → Nat →
    Machine P W N → Prop
  | done
      (m : Machine P W N) :
      Sweeps settings scripts m [] [] 0 m
  | next
      {m after last : Machine P W N}
      {script : ScriptId}
      {removed : Bool}
      {ids : List ScriptId}
      {attempts : List (Attempt P W N)}
      {others : Nat}
      (tried :
        Run.unregister settings scripts script m = (.returned removed, after))
      (rest : Sweeps settings scripts after ids attempts others last) :
      Sweeps settings scripts m (script :: ids)
        (⟨script, m, .returned removed, after⟩ :: attempts)
        (others + if removed then 1 else 0) last

namespace Run

variable {settings : Settings} {scripts : Scripts P W N}
variable {ids : List ScriptId} {m last : Machine P W N}

theorem sweeps_of_returned
    {removed : Nat}
    (h : unregisterAll settings scripts ids m = (.returned removed, last)) :
    ∃ attempts, Sweeps settings scripts m ids attempts removed last := by
  induction ids generalizing m removed with
  | nil =>
      obtain ⟨hremoved, rfl⟩ := Prod.mk.inj h
      obtain rfl := Flow.returned.inj hremoved
      exact ⟨[], .done m⟩
  | cons script rest ih =>
      obtain ⟨own, after, tried, hrest⟩ := bind_eq_returned h
      obtain ⟨others, final, hothers, hsum⟩ := bind_eq_returned hrest
      obtain ⟨hremoved, rfl⟩ := Prod.mk.inj hsum
      obtain rfl := Flow.returned.inj hremoved
      obtain ⟨attempts, sweeps⟩ := ih hothers
      exact ⟨_, .next tried sweeps⟩

/-- A panic that leaves a sweep has left one of its attempts. -/
theorem sweeps_of_unwinding
    {payload : Payload}
    (h : unregisterAll settings scripts ids m = (.unwinding payload, last)) :
    ∃ front script back attempts removed mid,
      ids = front ++ script :: back ∧
        Sweeps settings scripts m front attempts removed mid ∧
        unregister settings scripts script mid =
          (.unwinding payload, last) := by
  induction ids generalizing m with
  | nil => exact absurd (congrArg Prod.fst h) (by simp [unregisterAll, pure, give])
  | cons script rest ih =>
      rcases bind_eq_unwinding h with hfirst | ⟨own, after, tried, hrest⟩
      · exact ⟨[], script, rest, [], 0, m, rfl, .done m, hfirst⟩
      · rcases bind_eq_unwinding hrest with hrest | ⟨_, _, _, hsum⟩
        · obtain
            ⟨front, broken, back, attempts, removed, mid, rfl, sweeps, hbroken⟩ :=
            ih hrest
          exact ⟨script :: front, broken, back, _, _, mid, rfl,
            .next tried sweeps, hbroken⟩
        · exact absurd (congrArg Prod.fst hsum) (by simp [pure, give])

/-- What a removal answers is whether the registration was live. -/
theorem eq_isLive_of_unregister
    {script : ScriptId}
    {removed : Bool}
    (h :
      unregister settings scripts script m = (.returned removed, last)) :
    removed = m.state.isLive script := by
  unfold Dispatcher.isLive
  cases live : m.state.find? script with
  | none =>
      rw [unregister_of_unknown settings scripts live] at h
      exact (Flow.returned.inj (congrArg Prod.fst h)).symm
  | some registration =>
      have hid := Dispatcher.find?_eq_some_id live
      subst hid
      rw [unregister_of_live settings scripts live] at h
      obtain ⟨ending, hending⟩ :=
        afterRemoval_fst settings scripts registration
          (m.unregistered registration)
      rw [h] at hending
      exact eq_true_of_removalFlow hending.symm

end Run

section Removals

variable {setup : Setup P W N} {room level : Nat} {m after : Machine P W N}
variable {script : ScriptId} {flow : Flow Bool}

theorem Run.course_of_unregister
    (hwf : m.state.WellFormed)
    (tried :
      Run.unregister setup.settings (setup.scripts room level) script m =
        (flow, after)) :
    Course setup m after := by
  have span :=
    Run.spans_unregister (setup.spans_scripts room level) script m hwf
  rw [tried] at span
  exact span.course

/-- However a removal ends, the registration is gone. -/
theorem Run.gone_of_unregister
    (hwf : m.state.WellFormed)
    (tried :
      Run.unregister setup.settings (setup.scripts room level) script m =
        (flow, after)) :
    after.state.isLive script = false := by
  have hafter :
      (Run.unregister setup.settings (setup.scripts room level) script m).2 =
        after :=
    congrArg Prod.snd tried
  rw [Dispatcher.isLive_eq_false, ← hafter]
  cases live : m.state.find? script with
  | none =>
      rw [Run.unregister_of_unknown _ _ live]
      exact live
  | some registration =>
      have hid := Dispatcher.find?_eq_some_id live
      subst hid
      exact (Run.unregister_snd_of_live setup room level hwf live).2

end Removals

namespace Sweeps

section Shape

variable {settings : Settings} {scripts : Scripts P W N}
variable {m last : Machine P W N} {ids : List ScriptId}
variable {attempts : List (Attempt P W N)} {removed : Nat}

theorem tried
    (sweeps : Sweeps settings scripts m ids attempts removed last) :
    attempts.map Attempt.script = ids := by
  induction sweeps with
  | done m => rfl
  | next _ _ ih => exact congrArg (List.cons _) ih

theorem linked
    (sweeps : Sweeps settings scripts m ids attempts removed last) :
    Attempt.Linked m attempts last := by
  induction sweeps with
  | done m => rfl
  | next _ _ ih => exact ⟨rfl, ih⟩

theorem sound
    (sweeps : Sweeps settings scripts m ids attempts removed last) :
    ∀ attempt ∈ attempts, attempt.Sound settings scripts := by
  induction sweeps with
  | done m => simp
  | next tried _ ih => exact List.forall_mem_cons.mpr ⟨tried, ih⟩

/-- A registration that is not swept changes only through cleanups. -/
theorem find?_last
    (sweeps : Sweeps settings scripts m ids attempts removed last)
    {script : ScriptId}
    (hother : script ∉ ids)
    (unchanged : ∀ attempt ∈ attempts, ¬ attempt.Changes scripts script) :
    last.state.find? script = m.state.find? script := by
  induction sweeps with
  | done m => rfl
  | @next m after last own removed ids attempts others tried rest ih =>
      rw [List.mem_cons, not_or] at hother
      obtain ⟨hfirst, hrest⟩ := List.forall_mem_cons.mp unchanged
      have sound :
          Attempt.Sound settings scripts ⟨own, m, .returned removed, after⟩ :=
        tried
      rw [ih hother.2 hrest]
      exact sound.find?_left hother.1 hfirst

end Shape

section Removed

variable {setup : Setup P W N} {room level : Nat}
variable {m last : Machine P W N} {ids : List ScriptId}
variable {attempts : List (Attempt P W N)} {removed : Nat}

theorem course
    (sweeps :
      Sweeps setup.settings (setup.scripts room level) m ids attempts removed
        last)
    (hwf : m.state.WellFormed) :
    Course setup m last := by
  induction sweeps with
  | done m => exact .stay m
  | @next m after last own removed ids attempts others tried rest ih =>
      have first := Run.course_of_unregister hwf tried
      exact first.trans (ih (first.wellFormed hwf))

/-- A registration that is gone is taken by no attempt. -/
theorem takes_of_gone
    (sweeps :
      Sweeps setup.settings (setup.scripts room level) m ids attempts removed
        last)
    (hwf : m.state.WellFormed)
    {script : ScriptId}
    (hissued : script < m.state.nextId)
    (gone : m.state.isLive script = false) :
    (attempts.any fun attempt =>
      attempt.takes (setup.scripts room level) script) = false := by
  induction sweeps with
  | done m => rfl
  | @next m after last own removed ids attempts others tried rest ih =>
      have first := Run.course_of_unregister hwf tried
      have hgone := first.evolves.isLive_eq_false hissued gone
      have hrest :=
        ih (first.wellFormed hwf)
          (Nat.lt_of_lt_of_le hissued first.evolves.nextId_le) hgone
      rw [List.any_cons, hrest, Bool.or_false]
      exact Attempt.takes_eq_false fun _ => Dispatcher.isLive_eq_false.mp gone

/-- Every id that is swept is gone. -/
theorem gone
    (sweeps :
      Sweeps setup.settings (setup.scripts room level) m ids attempts removed
        last)
    (hwf : m.state.WellFormed)
    (hissued : ∀ script ∈ ids, script < m.state.nextId) :
    ∀ script ∈ ids, last.state.isLive script = false := by
  induction sweeps with
  | done m => simp
  | @next m after last own removed ids attempts others tried rest ih =>
      have first := Run.course_of_unregister hwf tried
      have hwf' := first.wellFormed hwf
      have hissued' : ∀ script ∈ own :: ids, script < after.state.nextId := by
        intro script hscript
        exact Nat.lt_of_lt_of_le (hissued script hscript) first.evolves.nextId_le
      obtain ⟨hown, hids⟩ := List.forall_mem_cons.mp hissued'
      refine List.forall_mem_cons.mpr ⟨?_, ih hwf' hids⟩
      have hgone := Run.gone_of_unregister hwf tried
      exact (rest.course hwf').evolves.isLive_eq_false hown hgone

/-- **A sweep counts the live ids that no cleanup took from it.** -/
theorem removed_eq
    (sweeps :
      Sweeps setup.settings (setup.scripts room level) m ids attempts removed
        last)
    (hwf : m.state.WellFormed)
    (hnodup : ids.Nodup)
    (hissued : ∀ script ∈ ids, script < m.state.nextId) :
    removed =
      ids.countP fun script =>
        m.state.isLive script &&
          !attempts.any fun attempt =>
            attempt.takes (setup.scripts room level) script := by
  induction sweeps with
  | done m => rfl
  | @next m after last own removed ids attempts others tried rest ih =>
      have first := Run.course_of_unregister hwf tried
      have hwf' := first.wellFormed hwf
      obtain ⟨hown, hids⟩ := List.forall_mem_cons.mp hissued
      obtain ⟨hnotin, hnodup⟩ := List.nodup_cons.mp hnodup
      have hgrows := first.evolves.nextId_le
      have hgone := Run.gone_of_unregister hwf tried
      let attempt : Attempt P W N := ⟨own, m, .returned removed, after⟩
      have sound :
          attempt.Sound setup.settings (setup.scripts room level) :=
        tried
      -- The id of this attempt counts if it was live.
      have hfirst :
          (m.state.isLive own &&
            !(attempt :: attempts).any fun attempt =>
              attempt.takes (setup.scripts room level) own) = removed := by
        have hself :
            attempt.takes (setup.scripts room level) own = false :=
          Attempt.takes_eq_false fun hne => absurd rfl hne
        have hlater :=
          rest.takes_of_gone hwf' (Nat.lt_of_lt_of_le hown hgrows) hgone
        rw [List.any_cons, hself, hlater, Run.eq_isLive_of_unregister tried]
        simp
      -- The others count if this attempt left them and no later one took them.
      have hothers :
          (ids.countP fun script =>
            m.state.isLive script &&
              !(attempt :: attempts).any fun attempt =>
                attempt.takes (setup.scripts room level) script) =
            others := by
        rw [ih hwf' hnodup fun script hscript =>
          Nat.lt_of_lt_of_le (hids script hscript) hgrows]
        apply List.countP_congr
        intro script hscript
        have hother : script ≠ own := by
          rintro rfl
          exact hnotin hscript
        have hback := first.evolves.isLive (hids script hscript)
        have htakes := sound.takes_eq hother
        rw [List.any_cons, htakes]
        show
          (m.state.isLive script &&
              !(m.state.isLive script && !after.state.isLive script || _)) =
                true ↔
            _
        cases hbefore : m.state.isLive script <;>
          cases hleft : after.state.isLive script <;>
            simp_all
      rw [List.countP_cons, hothers, hfirst]

end Removed
end Sweeps

end ScriptHub
