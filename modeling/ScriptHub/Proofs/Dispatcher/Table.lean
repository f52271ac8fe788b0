import ScriptHub.Dispatcher.HookTable

/-!
# What binding and unbinding do to a kind

Binding a specification places its handlers in the chains of the kinds that it
declares and leaves the other kinds alone.  Unbinding filters every chain and
drops the entries of the kinds that are left without bindings.
-/

namespace ScriptHub

variable {P : Type}

namespace HookTable

/-- The entry of a kind with a given chain: none if the chain is empty. -/
def entryFor : List (Binding P) → Option (List (Binding P))
  | [] => none
  | binding :: chain => some (binding :: chain)

@[simp] theorem entryFor_getD (chain : List (Binding P)) :
    (entryFor chain).getD [] = chain := by
  cases chain <;> rfl

theorem entryFor_of_ne_nil
    {chain : List (Binding P)}
    (h : chain ≠ []) :
    entryFor chain = some chain := by
  cases chain with
  | nil => exact absurd rfl h
  | cons binding chain => rfl

/-- Removing bindings from an entry keeps it the entry of its chain. -/
theorem entryFor_filter
    (p : Binding P → Bool)
    (chain : List (Binding P)) :
    ((entryFor chain).map fun chain => chain.filter p).filter
        (fun chain => !chain.isEmpty) =
      entryFor (chain.filter p) := by
  cases chain with
  | nil => rfl
  | cons binding chain =>
      cases h : (binding :: chain).filter p <;> simp [entryFor, h]

/-- Inserting a binding leaves the other kinds as they were. -/
theorem insert_entries_get_of_ne
    (table : HookTable P)
    {kind other : EventKind}
    (binding : Binding P)
    (h : other ≠ kind) :
    (table.insert kind binding).entries.get other =
      table.entries.get other :=
  PerKind.get_modify_of_ne _ _ h

/-- Binding leaves the kinds that are not declared as they were. -/
theorem bind_entries_get_of_notMem
    (table : HookTable P)
    (script : ScriptId)
    (priority : Int32)
    {hooks : List (EventKind × P)}
    {kind : EventKind}
    (h : kind ∉ hooks.map Prod.fst) :
    (table.bind script priority hooks).entries.get kind =
      table.entries.get kind := by
  induction hooks generalizing table with
  | nil => rfl
  | cons entry hooks ih =>
      rw [List.map_cons, List.mem_cons, not_or] at h
      obtain ⟨hne, hrest⟩ := h
      rw [bind, ih _ hrest, insert_entries_get_of_ne _ _ hne]

/-- Binding places one binding in the chain of a declared kind. -/
theorem bind_entries_get_of_mem
    (table : HookTable P)
    (script : ScriptId)
    (priority : Int32)
    {hooks : List (EventKind × P)}
    {kind : EventKind}
    {handler : P}
    (hnodup : (hooks.map Prod.fst).Nodup)
    (h : (kind, handler) ∈ hooks) :
    (table.bind script priority hooks).entries.get kind =
      some (place ⟨script, priority, handler⟩ (table.get kind)) := by
  induction hooks generalizing table with
  | nil => simp at h
  | cons entry hooks ih =>
      rw [List.map_cons, List.nodup_cons] at hnodup
      obtain ⟨hnew, hrest⟩ := hnodup
      rcases List.mem_cons.mp h with rfl | hmem
      · rw [bind, bind_entries_get_of_notMem _ _ _ hnew]
        exact PerKind.get_modify_self _ _ _
      · have hne : kind ≠ entry.1 := by
          rintro rfl
          exact hnew (List.mem_map.mpr ⟨_, hmem, rfl⟩)
        rw [bind, ih _ hrest hmem]
        unfold HookTable.get
        rw [insert_entries_get_of_ne _ _ hne]

end HookTable

namespace Spec

theorem mem_bindings
    {spec : Spec P}
    {kind : EventKind}
    {handler : P} :
    (kind, handler) ∈ spec.bindings ↔ spec.handler? kind = some handler := by
  unfold bindings
  simp only [List.mem_filterMap, Option.map_eq_some_iff, Prod.mk.injEq]
  constructor
  · rintro ⟨_, _, _, hhandler, rfl, rfl⟩
    exact hhandler
  · intro h
    exact ⟨kind, EventKind.mem_all kind, handler, h, rfl, rfl⟩

theorem bindings_map_fst_nodup (spec : Spec P) :
    (spec.bindings.map Prod.fst).Nodup := by
  rw [bindings_map_fst]
  exact EventKind.all_nodup.filter _

/-- Binding a specification places its handler in the chain of each kind. -/
theorem bind_entries_get
    (table : HookTable P)
    (script : ScriptId)
    (priority : Int32)
    (spec : Spec P)
    (kind : EventKind) :
    (table.bind script priority spec.bindings).entries.get kind =
      match spec.handler? kind with
      | none => table.entries.get kind
      | some handler =>
          some (HookTable.place ⟨script, priority, handler⟩
            (table.get kind)) := by
  cases h : spec.handler? kind with
  | none =>
      apply HookTable.bind_entries_get_of_notMem
      rw [bindings_map_fst, mem_kinds, h]
      simp
  | some handler =>
      exact HookTable.bind_entries_get_of_mem _ _ _
        spec.bindings_map_fst_nodup (mem_bindings.mpr h)

end Spec
end ScriptHub
