import ScriptHub.Proofs.Dispatcher.WellFormed

/-!
# How the registrations evolve

Ids are issued in ascending order and never a second time.  So an id that was
issued earlier is live later only if it was live earlier, and what a
registration supplied never changes while it is live.

The relation `Evolves` says this of an earlier and a later dispatcher.  Every
operation evolves a dispatcher, and evolving is reflexive and transitive.
-/

namespace ScriptHub
namespace Dispatcher

variable {P : Type}

section Lookup

variable (state : Dispatcher P) (script other : ScriptId)

theorem find?_enrolled
    (spec : Spec P)
    (priority : Int32) :
    (state.enrolled spec priority).find? other =
      (state.find? other).or
        (if state.nextId = other then
          some
            { id := state.nextId, spec := spec, priority := priority
              enabled := spec.autoEnable }
        else
          none) := by
  show
    List.find? _ (state.live ++ [_]) = _
  rw [List.find?_append]
  by_cases h : state.nextId = other <;> simp [h, find?]

theorem find?_withdrawn :
    (state.withdrawn script).find? other =
      if other = script then none else state.find? other := by
  show
    List.find? _ (state.live.filter _) = _
  rw [List.find?_filter]
  by_cases h : other = script
  · subst h
    rw [if_pos rfl, List.find?_eq_none]
    intro registration _
    simp
  · rw [if_neg h]
    unfold find?
    congr 1
    funext registration
    by_cases hid : registration.id = other <;> simp [hid, h]

theorem find?_setFlag (enabled : Bool) :
    (state.setFlag script enabled).find? other =
      (state.find? other).map fun registration =>
        if registration.id == script then
          { registration with enabled := enabled }
        else
          registration := by
  show
    List.find? _ (state.live.map _) = _
  rw [List.find?_map]
  unfold find?
  congr 2
  funext registration
  by_cases hid : registration.id = script <;> simp [hid]

end Lookup

/-- An earlier and a later dispatcher, as far as ids tell. -/
structure Evolves (earlier later : Dispatcher P) : Prop where
  nextId_le : earlier.nextId ≤ later.nextId
  kept :
    ∀ {script registration},
      script < earlier.nextId →
      later.find? script = some registration →
      ∃ before,
        earlier.find? script = some before ∧
          before.spec = registration.spec ∧
          before.priority = registration.priority

variable {a b c : Dispatcher P}

theorem Evolves.refl (state : Dispatcher P) : Evolves state state where
  nextId_le := Nat.le_refl _
  kept := by
    intro script registration _ hfind
    exact ⟨registration, hfind, rfl, rfl⟩

theorem Evolves.trans
    (hab : Evolves a b)
    (hbc : Evolves b c) :
    Evolves a c where
  nextId_le := Nat.le_trans hab.nextId_le hbc.nextId_le
  kept := by
    intro script registration hissued hfind
    obtain ⟨middle, hmiddle, hspec, hpriority⟩ :=
      hbc.kept (Nat.lt_of_lt_of_le hissued hab.nextId_le) hfind
    obtain ⟨before, hbefore, hspec', hpriority'⟩ :=
      hab.kept hissued hmiddle
    exact ⟨before, hbefore, hspec'.trans hspec,
      hpriority'.trans hpriority⟩

/-- An id that was issued and is gone stays gone. -/
theorem Evolves.find?_eq_none
    (h : Evolves a b)
    {script : ScriptId}
    (hissued : script < a.nextId)
    (hgone : a.find? script = none) :
    b.find? script = none := by
  cases hfind : b.find? script with
  | none => rfl
  | some registration =>
      obtain ⟨before, hbefore, _⟩ := h.kept hissued hfind
      rw [hgone] at hbefore
      exact absurd hbefore (by simp)

theorem evolves_enrolled
    (state : Dispatcher P)
    (spec : Spec P)
    (priority : Int32) :
    Evolves state (state.enrolled spec priority) where
  nextId_le := Nat.le_succ _
  kept := by
    intro script registration hissued hfind
    have hne : state.nextId ≠ script := (Nat.ne_of_lt hissued).symm
    rw [find?_enrolled, if_neg hne, Option.or_none] at hfind
    exact ⟨registration, hfind, rfl, rfl⟩

theorem evolves_withdrawn
    (state : Dispatcher P)
    (script : ScriptId) :
    Evolves state (state.withdrawn script) where
  nextId_le := Nat.le_refl _
  kept := by
    intro other registration _ hfind
    rw [find?_withdrawn] at hfind
    by_cases h : other = script
    · rw [if_pos h] at hfind
      exact absurd hfind (by simp)
    · rw [if_neg h] at hfind
      exact ⟨registration, hfind, rfl, rfl⟩

theorem evolves_setFlag
    (state : Dispatcher P)
    (script : ScriptId)
    (enabled : Bool) :
    Evolves state (state.setFlag script enabled) where
  nextId_le := Nat.le_refl _
  kept := by
    intro other registration _ hfind
    rw [find?_setFlag, Option.map_eq_some_iff] at hfind
    obtain ⟨before, hbefore, rfl⟩ := hfind
    refine ⟨before, hbefore, ?_, ?_⟩ <;> split_ifs <;> rfl

theorem evolves_retally
    (state : Dispatcher P)
    (f : Tally → Tally) :
    Evolves state (state.retally f) :=
  ⟨Nat.le_refl _, (Evolves.refl state).kept⟩

end Dispatcher
end ScriptHub
