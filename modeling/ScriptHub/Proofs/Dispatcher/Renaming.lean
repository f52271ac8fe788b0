import ScriptHub.Proofs.Dispatcher.WellFormed

/-!
# Registrations by other names

The names of registrations are replaced, each as the id and the name supplied say; the
new names may be empty and need not differ.  Nothing else of a dispatcher is touched.
Renaming commutes with every change of a dispatcher and with everything that is asked
of it, so no name is a key anywhere.

**Results.**
* `Dispatcher.renamed`: a dispatcher with its registrations renamed.
* `renamed_enrolled`, `renamed_withdrawn`, `renamed_setFlag`, `renamed_retally`: renaming
  commutes with the changes of a dispatcher.
* `find?_renamed`, `info?_renamed`, `list_renamed`: what is found and shown is renamed.
-/

namespace ScriptHub

variable {P : Type}

/-- What registrations are called instead, by their ids and the names supplied. -/
abbrev Renaming : Type := ScriptId → String → String

/-- Every registration keeps its name. -/
def Renaming.keeping : Renaming :=
  fun _ name => name

/-- A specification as it is renamed for the id that it gets. -/
def Spec.renamed
    (spec : Spec P)
    (names : Renaming)
    (script : ScriptId) :
    Spec P :=
  { spec with name := names script spec.name }

/-- A registration under its new name. -/
def Registration.renamed
    (names : Renaming)
    (registration : Registration P) :
    Registration P :=
  { registration with spec := registration.spec.renamed names registration.id }

/-- What is shown of a registration, under its new name. -/
def ScriptInfo.renamed
    (names : Renaming)
    (info : ScriptInfo) :
    ScriptInfo :=
  { info with name := names info.id info.name }

/-- A dispatcher with its registrations renamed. -/
def Dispatcher.renamed
    (state : Dispatcher P)
    (names : Renaming) :
    Dispatcher P :=
  { state with live := state.live.map (Registration.renamed names) }

namespace Dispatcher

variable (state : Dispatcher P) (names : Renaming) (script : ScriptId)

@[simp] theorem renamed_keeping : state.renamed .keeping = state := by
  have hmap : state.live.map (Registration.renamed .keeping) = state.live :=
    List.map_id state.live
  unfold renamed
  rw [hmap]

@[simp] theorem renamed_nextId : (state.renamed names).nextId = state.nextId := by
  rfl

@[simp] theorem renamed_table : (state.renamed names).table = state.table := by
  rfl

section Changes

theorem renamed_retally (f : Tally → Tally) :
    (state.retally f).renamed names = (state.renamed names).retally f := by
  rfl

theorem renamed_enrolled
    (spec : Spec P)
    (priority : Int32) :
    (state.enrolled spec priority).renamed names =
      (state.renamed names).enrolled (spec.renamed names state.nextId)
        priority := by
  simp only [enrolled, enter, bind, renamed, List.map_append, List.map_cons,
    List.map_nil]
  rfl

theorem renamed_withdrawn :
    (state.withdrawn script).renamed names =
      (state.renamed names).withdrawn script := by
  simp only [withdrawn, strike, unbind, renamed, List.filter_map]
  rfl

theorem renamed_setFlag (enabled : Bool) :
    (state.setFlag script enabled).renamed names =
      (state.renamed names).setFlag script enabled := by
  simp only [setFlag, renamed, List.map_map, Dispatcher.mk.injEq, true_and,
    and_true]
  apply List.map_congr_left
  intro registration _
  exact
    apply_ite (Registration.renamed names) (registration.id == script)
      { registration with enabled := enabled } registration

end Changes

section Queries

theorem find?_renamed :
    (state.renamed names).find? script =
      (state.find? script).map (Registration.renamed names) := by
  simp only [find?, renamed, List.find?_map]
  rfl

theorem info?_renamed :
    (state.renamed names).info? script =
      (state.info? script).map (ScriptInfo.renamed names) := by
  unfold info?
  rw [find?_renamed, Option.map_map, Option.map_map]
  rfl

theorem list_renamed :
    (state.renamed names).list = state.list.map (ScriptInfo.renamed names) := by
  simp only [list, renamed, List.map_map]
  rfl

theorem ids_renamed : (state.renamed names).ids = state.ids := by
  simp only [ids, renamed, List.map_map]
  rfl

theorem count_renamed : (state.renamed names).count = state.count := by
  simp only [count, renamed, List.length_map]

end Queries
end Dispatcher
end ScriptHub
