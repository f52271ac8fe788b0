import ScriptHub.Event.Kind

/-!
# Data kept for every kind of event

A table holds one value per kind.  Two tables are equal exactly when they agree
on every kind, and changing the value of one kind leaves the others alone.
-/

namespace ScriptHub

universe u v

/-- One value for every kind of event. -/
structure PerKind (α : Type u) where
  cells : Vector α EventKind.count
  deriving DecidableEq

namespace PerKind

variable {α : Type u} {β : Type v}

/-- The value kept for a kind. -/
def get
    (table : PerKind α)
    (kind : EventKind) :
    α :=
  have := kind.index_lt
  table.cells[kind.index]

/-- The table with the same value for every kind. -/
def replicate (a : α) : PerKind α :=
  ⟨Vector.replicate EventKind.count a⟩

/-- Changes the value of one kind. -/
def modify
    (table : PerKind α)
    (kind : EventKind)
    (f : α → α) :
    PerKind α :=
  ⟨table.cells.set kind.index (f (table.get kind)) kind.index_lt⟩

/-- Replaces the value of one kind. -/
def set
    (table : PerKind α)
    (kind : EventKind)
    (a : α) :
    PerKind α :=
  table.modify kind fun _ => a

/-- Changes the values of all kinds alike. -/
def map
    (f : α → β)
    (table : PerKind α) :
    PerKind β :=
  ⟨table.cells.map f⟩

/-- The kinds with their values, in the order of declaration. -/
def toList (table : PerKind α) : List (EventKind × α) :=
  EventKind.all.map fun kind => (kind, table.get kind)

@[simp] theorem get_replicate
    (a : α)
    (kind : EventKind) :
    (replicate a).get kind = a := by
  simp [replicate, get]

@[simp] theorem get_map
    (f : α → β)
    (table : PerKind α)
    (kind : EventKind) :
    (table.map f).get kind = f (table.get kind) := by
  simp [map, get]

@[simp] theorem get_modify_self
    (table : PerKind α)
    (kind : EventKind)
    (f : α → α) :
    (table.modify kind f).get kind = f (table.get kind) := by
  simp [modify, get]

theorem get_modify_of_ne
    (table : PerKind α)
    {kind other : EventKind}
    (f : α → α)
    (h : other ≠ kind) :
    (table.modify kind f).get other = table.get other := by
  have hindex : kind.index ≠ other.index := by
    intro same
    exact h (EventKind.index_inj.mp same).symm
  simp only [modify, get]
  exact Vector.getElem_set_ne _ _ hindex

theorem get_modify
    (table : PerKind α)
    (kind other : EventKind)
    (f : α → α) :
    (table.modify kind f).get other =
      if other = kind then f (table.get kind) else table.get other := by
  by_cases h : other = kind
  · subst h
    simp
  · rw [get_modify_of_ne table f h, if_neg h]

@[simp] theorem get_set_self
    (table : PerKind α)
    (kind : EventKind)
    (a : α) :
    (table.set kind a).get kind = a := by
  simp [set]

theorem get_set_of_ne
    (table : PerKind α)
    {kind other : EventKind}
    (a : α)
    (h : other ≠ kind) :
    (table.set kind a).get other = table.get other :=
  get_modify_of_ne table _ h

/-- Every position belongs to a kind. -/
theorem exists_index
    {i : Nat}
    (h : i < EventKind.count) :
    ∃ kind : EventKind, kind.index = i := by
  have key :
      ∀ j : Fin EventKind.count,
        ∃ kind ∈ EventKind.all, kind.index = j.val := by
    decide
  obtain ⟨kind, _, hkind⟩ := key ⟨i, h⟩
  exact ⟨kind, hkind⟩

/-- Tables that agree on every kind are equal. -/
@[ext] theorem ext
    {a b : PerKind α}
    (h : ∀ kind, a.get kind = b.get kind) :
    a = b := by
  cases a with
  | mk left =>
      cases b with
      | mk right =>
          congr 1
          apply Vector.ext
          intro i hi
          obtain ⟨kind, rfl⟩ := exists_index hi
          exact h kind

end PerKind

end ScriptHub
