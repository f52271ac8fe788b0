import ScriptHub.Dispatcher.Basic
import ScriptHub.Proofs.Dispatcher.Chain
import ScriptHub.Proofs.Dispatcher.Table

/-!
# Well-formed dispatchers

In a well-formed dispatcher the live registrations stand in ascending order of
ids, every id was issued, and the hook table holds for every kind what sorting
the declared bindings from scratch would give.

The operations on a dispatcher come in pairs: a registration is entered and
bound together, and struck and unbound together.  Either pair, a change of a
flag and a change of the counters lead from one well-formed dispatcher to
another.
-/

namespace ScriptHub

variable {P : Type}

/-- The binding of a registration for a kind, if it declares the kind. -/
def Registration.binding?
    (registration : Registration P)
    (kind : EventKind) :
    Option (Binding P) :=
  (registration.spec.handler? kind).map fun handler =>
    ⟨registration.id, registration.priority, handler⟩

theorem Registration.binding?_eq_some
    {registration : Registration P}
    {kind : EventKind}
    {binding : Binding P} :
    registration.binding? kind = some binding ↔
      registration.spec.handler? kind = some binding.handler ∧
        registration.id = binding.script ∧
        registration.priority = binding.priority := by
  cases binding with
  | mk script priority handler =>
      unfold Registration.binding?
      cases h : registration.spec.handler? kind with
      | none => simp
      | some own =>
          simp only [Option.map_some, Option.some.injEq, Binding.mk.injEq]
          constructor
          · rintro ⟨hid, hpriority, rfl⟩
            exact ⟨rfl, hid, hpriority⟩
          · rintro ⟨rfl, hid, hpriority⟩
            exact ⟨hid, hpriority, rfl⟩

namespace Dispatcher

/-- The bindings that the live registrations declare for a kind, by id. -/
def declared
    (state : Dispatcher P)
    (kind : EventKind) :
    List (Binding P) :=
  state.live.filterMap fun registration => registration.binding? kind

/-- A new registration is entered and its handlers are bound. -/
def enrolled
    (state : Dispatcher P)
    (spec : Spec P)
    (priority : Int32) :
    Dispatcher P :=
  (state.enter spec priority).bind state.nextId priority spec

/-- A registration is struck and its handlers are unbound. -/
def withdrawn
    (state : Dispatcher P)
    (script : ScriptId) :
    Dispatcher P :=
  (state.strike script).unbind script

/--
The live registrations are in order, and the hook table agrees with them.
-/
structure WellFormed (state : Dispatcher P) : Prop where
  ascending : state.live.Pairwise fun a b => a.id < b.id
  issued : ∀ registration ∈ state.live, registration.id < state.nextId
  charted :
    ∀ kind,
      state.table.entries.get kind =
        HookTable.entryFor (Binding.sorted (state.declared kind))

/-- A dispatcher without registrations is well-formed. -/
theorem wellFormed_empty : (empty : Dispatcher P).WellFormed where
  ascending := List.Pairwise.nil
  issued := by simp [empty]
  charted := by
    intro kind
    simp [empty, HookTable.empty, declared, Binding.sorted, HookTable.entryFor]

section Lookup

variable {state : Dispatcher P} {script : ScriptId}

theorem find?_eq_some_id
    {registration : Registration P}
    (h : state.find? script = some registration) :
    registration.id = script := by
  have key := List.find?_some h
  simpa using key

theorem mem_live_of_find?
    {registration : Registration P}
    (h : state.find? script = some registration) :
    registration ∈ state.live :=
  List.mem_of_find?_eq_some h

theorem find?_eq_none_iff :
    state.find? script = none ↔
      ∀ registration ∈ state.live, registration.id ≠ script := by
  unfold find?
  simp

/-- In a well-formed dispatcher a live registration is found by its id. -/
theorem WellFormed.find?_of_mem
    (h : state.WellFormed)
    {registration : Registration P}
    (hmem : registration ∈ state.live) :
    state.find? registration.id = some registration := by
  have hascending := h.ascending
  unfold find?
  generalize state.live = live at hmem hascending
  induction live with
  | nil => simp at hmem
  | cons first rest ih =>
      obtain ⟨hfirst, hrest⟩ := List.pairwise_cons.mp hascending
      rcases List.mem_cons.mp hmem with rfl | hmem
      · simp
      · have hne : first.id ≠ registration.id :=
          Nat.ne_of_lt (hfirst registration hmem)
        simp [hne, ih hmem hrest]

/-- The next id is not in use. -/
theorem WellFormed.find?_nextId
    (h : state.WellFormed) :
    state.find? state.nextId = none := by
  rw [find?_eq_none_iff]
  intro registration hmem
  exact Nat.ne_of_lt (h.issued registration hmem)

end Lookup

section Preservation

variable {state : Dispatcher P}

theorem declared_enrolled
    (state : Dispatcher P)
    (spec : Spec P)
    (priority : Int32)
    (kind : EventKind) :
    (state.enrolled spec priority).declared kind =
      state.declared kind ++
        ((spec.handler? kind).map fun handler =>
          ⟨state.nextId, priority, handler⟩).toList := by
  show
    (state.live ++ [_]).filterMap _ = _
  rw [List.filterMap_append]
  congr 1

theorem declared_withdrawn
    (state : Dispatcher P)
    (script : ScriptId)
    (kind : EventKind) :
    (state.withdrawn script).declared kind =
      (state.declared kind).filter fun binding => binding.script != script := by
  show
    (state.live.filter _).filterMap _ = _
  unfold declared
  rw [List.filter_filterMap, List.filterMap_filter]
  apply List.filterMap_congr
  intro registration _
  cases h : registration.spec.handler? kind with
  | none => simp [Registration.binding?, h]
  | some handler =>
      by_cases hid : registration.id = script <;>
        simp [Registration.binding?, h, hid, Option.filter]

theorem declared_setFlag
    (state : Dispatcher P)
    (script : ScriptId)
    (enabled : Bool)
    (kind : EventKind) :
    (state.setFlag script enabled).declared kind = state.declared kind := by
  show
    (state.live.map _).filterMap _ = _
  rw [List.filterMap_map]
  apply List.filterMap_congr
  intro registration _
  by_cases hid : registration.id = script <;>
    simp [Registration.binding?, hid]

/-- Entering and binding a registration keeps a dispatcher well-formed. -/
theorem WellFormed.enrolled
    (h : state.WellFormed)
    (spec : Spec P)
    (priority : Int32) :
    (state.enrolled spec priority).WellFormed where
  ascending := by
    apply List.pairwise_append.mpr
    refine ⟨h.ascending, List.pairwise_singleton _ _, ?_⟩
    intro registration hmem new hnew
    rw [List.mem_singleton] at hnew
    subst hnew
    exact h.issued registration hmem
  issued := by
    intro registration hmem
    rcases List.mem_append.mp hmem with hold | hnew
    · exact Nat.lt_succ_of_lt (h.issued registration hold)
    · rw [List.mem_singleton] at hnew
      subst hnew
      exact Nat.lt_succ_self _
  charted := by
    intro kind
    have htable :
        (state.enrolled spec priority).table.entries.get kind = _ :=
      spec.bind_entries_get state.table state.nextId priority kind
    have hchain :
        state.table.get kind = Binding.sorted (state.declared kind) := by
      unfold HookTable.get
      rw [h.charted kind, HookTable.entryFor_getD]
    rw [htable, declared_enrolled]
    cases hhandler : spec.handler? kind with
    | none => simp [h.charted kind]
    | some handler =>
        have hne :
            Binding.sorted
              (state.declared kind ++ [⟨state.nextId, priority, handler⟩]) ≠
                [] := by
          intro hnil
          have hperm := Binding.sorted_perm
            (state.declared kind ++ [⟨state.nextId, priority, handler⟩])
          rw [hnil] at hperm
          simpa using hperm.length_eq
        simp only [Option.map_some, Option.toList_some]
        rw [HookTable.entryFor_of_ne_nil hne, hchain, Binding.place_sorted]

/-- Striking and unbinding a registration keeps a dispatcher well-formed. -/
theorem WellFormed.withdrawn
    (h : state.WellFormed)
    (script : ScriptId) :
    (state.withdrawn script).WellFormed where
  ascending := h.ascending.filter _
  issued := by
    intro registration hmem
    exact h.issued registration (List.mem_filter.mp hmem).1
  charted := by
    intro kind
    show
      (state.table.unbind script).entries.get kind = _
    unfold HookTable.unbind
    rw [PerKind.get_map, h.charted kind, HookTable.entryFor_filter,
      declared_withdrawn, Binding.filter_sorted]

/-- Changing a flag keeps a dispatcher well-formed. -/
theorem WellFormed.setFlag
    (h : state.WellFormed)
    (script : ScriptId)
    (enabled : Bool) :
    (state.setFlag script enabled).WellFormed where
  ascending := by
    apply List.pairwise_map.mpr
    apply h.ascending.imp
    intro a b hab
    split_ifs <;> exact hab
  issued := by
    intro registration hmem
    obtain ⟨before, hbefore, rfl⟩ := List.mem_map.mp hmem
    have hlt := h.issued before hbefore
    split_ifs <;> exact hlt
  charted := by
    intro kind
    rw [declared_setFlag]
    exact h.charted kind

/-- Changing the counters keeps a dispatcher well-formed. -/
theorem WellFormed.retally
    (h : state.WellFormed)
    (f : Tally → Tally) :
    (state.retally f).WellFormed :=
  ⟨h.ascending, h.issued, h.charted⟩

end Preservation

/--
The hook table shows, for every kind, what can be worked out from the live registrations
alone.

The live registrations are listed in ascending order of ids.  A chain is what a stable
sort makes of the declared bindings: a binding stands in it exactly if a live
registration declares it, and the chain ascends strictly in priority and id.  A kind is
counted exactly if it has bindings, once and with their number.
-/
structure TableAgrees (state : Dispatcher P) : Prop where
  ascending : state.ids.Pairwise (· < ·)
  chain :
    ∀ kind,
      state.table.get kind =
        (state.declared kind).mergeSort
          fun a b => decide (a.priority ≤ b.priority)
  present :
    ∀ kind binding,
      binding ∈ state.table.get kind ↔
        ∃ registration ∈ state.live,
          registration.spec.handler? kind = some binding.handler ∧
            registration.id = binding.script ∧
            registration.priority = binding.priority
  precedes : ∀ kind, (state.table.get kind).Pairwise Binding.Precedes
  counts :
    ∀ kind n,
      (kind, n) ∈ state.table.bindingCounts ↔
        state.table.get kind ≠ [] ∧ n = (state.table.get kind).length
  countsOnce : (state.table.bindingCounts.map Prod.fst).Nodup

section Agreement

variable {state : Dispatcher P} (h : state.WellFormed)
include h

theorem WellFormed.get_eq_sorted (kind : EventKind) :
    state.table.get kind = Binding.sorted (state.declared kind) := by
  unfold HookTable.get
  rw [h.charted kind, HookTable.entryFor_getD]

theorem WellFormed.entries_get_eq_entryFor (kind : EventKind) :
    state.table.entries.get kind =
      HookTable.entryFor (state.table.get kind) := by
  rw [h.get_eq_sorted kind, h.charted kind]

theorem WellFormed.pairwise_declared (kind : EventKind) :
    (state.declared kind).Pairwise fun a b => a.script < b.script := by
  unfold declared
  rw [List.pairwise_filterMap]
  apply h.ascending.imp
  intro a b hab x hx y hy
  rw [← (Registration.binding?_eq_some.mp hx).2.1,
    ← (Registration.binding?_eq_some.mp hy).2.1]
  exact hab

theorem WellFormed.mem_table
    {kind : EventKind}
    {binding : Binding P} :
    binding ∈ state.table.get kind ↔
      ∃ registration ∈ state.live,
        registration.binding? kind = some binding := by
  rw [h.get_eq_sorted kind, Binding.mem_sorted]
  exact List.mem_filterMap

theorem WellFormed.mem_bindingCounts
    {kind : EventKind}
    {n : Nat} :
    (kind, n) ∈ state.table.bindingCounts ↔
      state.table.get kind ≠ [] ∧ n = (state.table.get kind).length := by
  unfold HookTable.bindingCounts
  simp only [List.mem_filterMap, h.entries_get_eq_entryFor,
    Option.map_eq_some_iff, Prod.mk.injEq]
  constructor
  · rintro ⟨other, _, chain, hchain, hkind, hlength⟩
    subst hkind hlength
    cases hget : state.table.get other with
    | nil =>
        rw [hget] at hchain
        simp [HookTable.entryFor] at hchain
    | cons binding rest =>
        rw [hget] at hchain
        simp only [HookTable.entryFor, Option.some.injEq] at hchain
        subst hchain
        simp
  · rintro ⟨hne, rfl⟩
    exact ⟨kind, EventKind.mem_all kind, state.table.get kind,
      HookTable.entryFor_of_ne_nil hne, rfl, rfl⟩

/-- The table of a well-formed dispatcher agrees with its registrations. -/
theorem WellFormed.tableAgrees : state.TableAgrees where
  ascending := by
    exact List.pairwise_map.mpr h.ascending
  chain := h.get_eq_sorted
  present := by
    intro kind binding
    rw [h.mem_table]
    simp only [Registration.binding?_eq_some]
  precedes := by
    intro kind
    rw [h.get_eq_sorted kind]
    exact Binding.pairwise_precedes_sorted (h.pairwise_declared kind)
  counts := fun _ _ => h.mem_bindingCounts
  countsOnce := by
    unfold HookTable.bindingCounts List.Nodup
    rw [List.map_filterMap, List.pairwise_filterMap]
    apply EventKind.all_nodup.imp
    intro a b hab x hx y hy
    simp only [Option.map_map, Option.map_eq_some_iff,
      Function.comp_apply] at hx hy
    obtain ⟨_, _, rfl⟩ := hx
    obtain ⟨_, _, rfl⟩ := hy
    exact hab

end Agreement
end Dispatcher
end ScriptHub
