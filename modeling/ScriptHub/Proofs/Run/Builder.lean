import ScriptHub.Proofs.Run.History

/-!
# Specifications built step by step

A specification is built by any number of choices in any order: of a handler for a kind,
of a priority, of a flag, of a cleanup.  Of the choices that settle the same thing the
last one counts, so a built specification is a map from kinds to handlers, with a
priority, a flag and a cleanup.  Registering it puts one binding into the chain of each
kind in that map, and none into any other.

**Results.**
* `Spec.last?`: the last choice of one sort.
* `Spec.handler?_build`, `Spec.build_eq_iff`: what was built, told by the last choices.
* `HookTable.filter_place`: what placing a binding adds to a chain.
* `builder_is_last_wins_map`: what registering a built specification does.
-/

namespace ScriptHub

variable {P W N α : Type}

namespace Spec

section Choices

/--
One step in the building of a specification.  A handler is given for a kind, whether it
is a closure, shared with others or neither.
-/
inductive Choice (P : Type)
  | hook (kind : EventKind) (handler : P)
  | priority (priority : Int32)
  | autoEnable (enabled : Bool)
  | cleanup (cleanup : P)

namespace Choice

/-- What a choice does to the specification that was built so far. -/
def apply (spec : Spec P) : Choice P → Spec P
  | hook kind handler => spec.hook kind handler
  | priority value => spec.withPriority value
  | autoEnable enabled => spec.withAutoEnable enabled
  | cleanup procedure => spec.withCleanup procedure

/-- The handler that is chosen for a kind. -/
def handler? (kind : EventKind) : Choice P → Option P
  | hook other handler => if other = kind then some handler else none
  | _ => none

/-- The priority that is chosen. -/
def priority? : Choice P → Option Int32
  | priority value => some value
  | _ => none

/-- The flag that is chosen. -/
def flag? : Choice P → Option Bool
  | autoEnable enabled => some enabled
  | _ => none

/-- The cleanup that is chosen. -/
def cleanup? : Choice P → Option P
  | cleanup procedure => some procedure
  | _ => none

end Choice

/-- The specification that is built by some choices, made in order. -/
def build (name : String) (choices : List (Choice P)) : Spec P :=
  choices.foldl Choice.apply (Spec.named name)

/-- What the last choice of one sort chose, if there was any. -/
def last? (sort : Choice P → Option α) (choices : List (Choice P)) : Option α :=
  (choices.filterMap sort).getLast?

/-- Choices settle the same things in the same way, last choices against last choices. -/
structure Agree (choices others : List (Choice P)) : Prop where
  handler : ∀ kind, last? (·.handler? kind) choices = last? (·.handler? kind) others
  priority : last? Choice.priority? choices = last? Choice.priority? others
  flag : last? Choice.flag? choices = last? Choice.flag? others
  cleanup : last? Choice.cleanup? choices = last? Choice.cleanup? others

@[simp] theorem last?_nil (sort : Choice P → Option α) : last? sort [] = none := by
  rfl

/-- One more choice counts if it is of the sort, and else the last one before it. -/
theorem last?_concat
    (sort : Choice P → Option α)
    (choices : List (Choice P))
    (choice : Choice P) :
    last? sort (choices ++ [choice]) = (sort choice).or (last? sort choices) := by
  unfold last?
  rw [List.filterMap_append]
  cases h : sort choice <;> simp [h]

theorem last?_isSome_iff
    {sort : Choice P → Option α}
    {choices : List (Choice P)} :
    (last? sort choices).isSome = true ↔
      ∃ choice ∈ choices, (sort choice).isSome = true := by
  unfold last?
  rw [List.getLast?_isSome, ne_eq, List.filterMap_eq_nil_iff]
  simp only [not_forall, Option.isSome_iff_ne_none, exists_prop]

end Choices

section Building

variable (name : String) (choices : List (Choice P))

@[simp] theorem build_nil : build (P := P) name [] = Spec.named name := by
  rfl

@[simp] theorem build_concat (choice : Choice P) :
    build name (choices ++ [choice]) = choice.apply (build name choices) := by
  simp [build]

theorem name_build : (build name choices).name = name := by
  induction choices using List.reverseRecOn with
  | nil => rfl
  | append_singleton before choice ih =>
      rw [build_concat]
      cases choice <;> exact ih

/-- The handler for a kind is the one that was chosen last for it. -/
theorem handler?_build (kind : EventKind) :
    (build name choices).handler? kind = last? (·.handler? kind) choices := by
  induction choices using List.reverseRecOn with
  | nil => simp [Spec.named, handler?]
  | append_singleton before choice ih =>
      rw [build_concat, last?_concat, ← ih]
      cases choice with
      | hook other handler =>
          by_cases h : other = kind
          · subst h
            simp [Choice.apply, Choice.handler?, hook, handler?]
          · simp [Choice.apply, Choice.handler?, hook, handler?, h,
              PerKind.get_set_of_ne _ _ (Ne.symm h)]
      | _ => rfl

theorem priority_build :
    (build name choices).priority = last? Choice.priority? choices := by
  induction choices using List.reverseRecOn with
  | nil => rfl
  | append_singleton before choice ih =>
      rw [build_concat, last?_concat, ← ih]
      cases choice <;> rfl

theorem autoEnable_build :
    (build name choices).autoEnable = (last? Choice.flag? choices).getD true := by
  induction choices using List.reverseRecOn with
  | nil => rfl
  | append_singleton before choice ih =>
      rw [build_concat, last?_concat]
      cases choice with
      | autoEnable enabled => rfl
      | _ => exact ih

theorem cleanup_build :
    (build name choices).cleanup = last? Choice.cleanup? choices := by
  induction choices using List.reverseRecOn with
  | nil => rfl
  | append_singleton before choice ih =>
      rw [build_concat, last?_concat, ← ih]
      cases choice <;> rfl

/-- Specifications are equal if they declare the same. -/
theorem eq_of_handler?
    {a b : Spec P}
    (hname : a.name = b.name)
    (hhandler : ∀ kind, a.handler? kind = b.handler? kind)
    (hpriority : a.priority = b.priority)
    (hflag : a.autoEnable = b.autoEnable)
    (hcleanup : a.cleanup = b.cleanup) :
    a = b := by
  have hhooks : a.hooks = b.hooks := PerKind.ext hhandler
  cases a
  cases b
  simp_all

/-- **Choices that agree build the same specification**, whatever their order. -/
theorem Agree.build_eq
    {choices others : List (Choice P)}
    (h : Agree choices others)
    (name : String) :
    build name choices = build name others := by
  apply eq_of_handler?
  · rw [name_build, name_build]
  · intro kind
    rw [handler?_build, handler?_build, h.handler]
  · rw [priority_build, priority_build, h.priority]
  · rw [autoEnable_build, autoEnable_build, h.flag]
  · rw [cleanup_build, cleanup_build, h.cleanup]

/-- The declared kinds are those for which a handler was chosen at least once. -/
theorem mem_kinds_build
    {kind : EventKind} :
    kind ∈ (build name choices).kinds ↔
      ∃ handler, Choice.hook kind handler ∈ choices := by
  rw [mem_kinds, handler?_build, last?_isSome_iff]
  constructor
  · rintro ⟨choice, hmem, hsome⟩
    cases choice with
    | hook other handler =>
        by_cases h : other = kind
        · subst h
          exact ⟨handler, hmem⟩
        · exact absurd hsome (by simp [Choice.handler?, h])
    | _ => exact absurd hsome (by simp [Choice.handler?])
  · rintro ⟨handler, hmem⟩
    exact ⟨_, hmem, by simp [Choice.handler?]⟩

/-- Kinds are listed in the order of declaration, each one once. -/
theorem pairwise_kinds (spec : Spec P) :
    spec.kinds.Pairwise fun a b => a.index < b.index := by
  have hall : EventKind.all.Pairwise fun a b => a.index < b.index := by
    decide
  exact hall.filter _

end Building
end Spec

namespace HookTable

/-- Placing a binding adds it to those of its script and leaves all others as they are. -/
theorem filter_place
    (p : Binding P → Bool)
    (binding : Binding P)
    (chain : List (Binding P)) :
    (p binding = false → (place binding chain).filter p = chain.filter p) ∧
      (p binding = true →
        (∀ other ∈ chain, p other = false) →
        (place binding chain).filter p = [binding]) := by
  unfold place
  constructor
  · intro hout
    rw [List.filter_append, List.filter_cons_of_neg (by simp [hout]),
      ← List.filter_append, List.take_append_drop]
  · intro hin hothers
    have hnone : ∀ part : List (Binding P), part ⊆ chain → part.filter p = [] := by
      intro part hpart
      rw [List.filter_eq_nil_iff]
      intro other hother
      simp [hothers other (hpart hother)]
    rw [List.filter_append, List.filter_cons_of_pos hin,
      hnone _ (List.take_subset _ _), hnone _ (List.drop_subset _ _)]
    rfl

end HookTable

namespace Dispatcher

variable {state : Dispatcher P} (h : state.WellFormed)
include h

/-- What a new registration adds to a chain: its own binding, if it declares the kind. -/
theorem WellFormed.chain_enrolled
    (spec : Spec P)
    (priority : Int32)
    (kind : EventKind) :
    let chain := (state.enrolled spec priority).table.get kind
    (chain.filter fun binding => binding.script == state.nextId) =
        ((spec.handler? kind).map fun handler =>
          ⟨state.nextId, priority, handler⟩).toList ∧
      (chain.filter fun binding => binding.script != state.nextId) =
        state.table.get kind := by
  have hissued :
      ∀ binding ∈ state.table.get kind, binding.script ≠ state.nextId := by
    intro binding hmem
    obtain ⟨registration, hlive, hbinding⟩ := h.mem_table.mp hmem
    rw [← (Registration.binding?_eq_some.mp hbinding).2.1]
    exact Nat.ne_of_lt (h.issued registration hlive)
  have hkept :
      ((state.table.get kind).filter fun binding =>
        binding.script != state.nextId) = state.table.get kind := by
    rw [List.filter_eq_self]
    intro binding hmem
    simp [hissued binding hmem]
  have hnone :
      ((state.table.get kind).filter fun binding =>
        binding.script == state.nextId) = [] := by
    rw [List.filter_eq_nil_iff]
    intro binding hmem
    simp [hissued binding hmem]
  have hentry :
      (state.enrolled spec priority).table.entries.get kind = _ :=
    spec.bind_entries_get state.table state.nextId priority kind
  intro chain
  have hchain :
      chain = ((state.enrolled spec priority).table.entries.get kind).getD [] := rfl
  rw [hchain, hentry]
  cases spec.handler? kind with
  | none => exact ⟨hnone, hkept⟩
  | some handler =>
      obtain ⟨_, hown⟩ :=
        HookTable.filter_place (fun binding => binding.script == state.nextId)
          ⟨state.nextId, priority, handler⟩ (state.table.get kind)
      obtain ⟨hothers, _⟩ :=
        HookTable.filter_place (fun binding => binding.script != state.nextId)
          ⟨state.nextId, priority, handler⟩ (state.table.get kind)
      constructor
      · apply hown (by simp)
        intro binding hmem
        simp [hissued binding hmem]
      · exact (hothers (by simp)).trans hkept

/-- A new registration is found under the id that it got. -/
theorem WellFormed.find?_enrolled_nextId
    (spec : Spec P)
    (priority : Int32) :
    (state.enrolled spec priority).find? state.nextId =
      some
        { id := state.nextId, spec := spec, priority := priority
          enabled := spec.autoEnable } := by
  rw [find?_enrolled, h.find?_nextId]
  simp

end Dispatcher

/--
**The builder is a last-wins map.**

A specification is built by any choices in any order, and registered in any machine that
a run can come to.  It declares the kinds for which a handler was chosen, each one once
and in the order of declaration, and these are shown of the registration; its priority,
flag and cleanup are those chosen last, or else the default priority, enabled and none.
A chain gets one binding of this script, with the handler that was chosen last for its
kind, if one was chosen, and else none; all other bindings stay as they were.  Choices
that agree with these, last against last, are registered in the very same way.
-/
theorem builder_is_last_wins_map
    (setup : Setup P W N)
    (room level : Nat)
    (m : Machine P W N)
    (reached : setup.Reaches m)
    (name : String)
    (choices : List (Spec.Choice P)) :
    let spec := Spec.build name choices
    let script := m.state.nextId
    let priority :=
      (Spec.last? Spec.Choice.priority? choices).getD setup.settings.defaultPriority
    let register : Spec P → Flow ScriptId × Machine P W N := fun spec =>
      Run.answer setup (setup.scripts room level) (.register spec) m
    let entered := (register spec).2.state
    (register spec).1 = .returned script ∧
      (∀ kind,
        kind ∈ spec.kinds ↔ ∃ handler, Spec.Choice.hook kind handler ∈ choices) ∧
      (spec.kinds.Pairwise fun a b => a.index < b.index) ∧
      entered.info? script =
        some
          { id := script, name := name, priority := priority
            enabled := (Spec.last? Spec.Choice.flag? choices).getD true
            hooks := spec.kinds } ∧
      ((entered.find? script).bind fun registration => registration.spec.cleanup) =
        Spec.last? Spec.Choice.cleanup? choices ∧
      (∀ kind,
        ((entered.table.get kind).filter fun binding => binding.script == script) =
            ((Spec.last? (·.handler? kind) choices).map fun handler =>
              ⟨script, priority, handler⟩).toList ∧
          ((entered.table.get kind).filter fun binding => binding.script != script) =
            m.state.table.get kind) ∧
      ∀ others,
        Spec.Agree choices others →
        register (Spec.build name others) = register spec := by
  intro spec script priority register entered
  have sound := reached.wellFormed
  have hpriority : spec.priority.getD setup.settings.defaultPriority = priority :=
    congrArg (Option.getD · _) (Spec.priority_build name choices)
  have hstate :
      entered =
        (m.state.enrolled spec priority).retally fun tally =>
          tally.registered spec.autoEnable := by
    rw [← hpriority]
    rfl
  have hfind :
      entered.find? script =
        some
          { id := script, spec := spec, priority := priority
            enabled := spec.autoEnable } := by
    rw [hstate]
    exact sound.find?_enrolled_nextId spec priority
  refine ⟨rfl, ?_, Spec.pairwise_kinds spec, ?_, ?_, ?_, ?_⟩
  · intro kind
    exact Spec.mem_kinds_build name choices
  · unfold Dispatcher.info?
    rw [hfind, ← Spec.autoEnable_build name choices]
    simp only [Option.map_some, Registration.info]
    rw [Spec.name_build]
  · rw [hfind]
    exact Spec.cleanup_build name choices
  · intro kind
    rw [hstate, ← Spec.handler?_build name choices]
    exact sound.chain_enrolled spec priority kind
  · intro others agree
    exact congrArg register (agree.build_eq name).symm

/-!
A specification whose choices are revised: the handler for one kind and the flag are
chosen twice.  It is registered behind another script of the same priority.
-/

namespace Revised

/-- The choices as they were made. -/
def choices : List (Spec.Choice Nat) :=
  [.hook .flood 1, .autoEnable false, .hook .timer 3, .priority 5, .hook .flood 2,
    .cleanup 4, .autoEnable true]

/-- Other choices, which agree with them in the end. -/
def others : List (Spec.Choice Nat) :=
  [.cleanup 9, .hook .timer 8, .priority 7, .cleanup 4, .autoEnable true, .hook .flood 2,
    .hook .timer 3, .priority 5]

/-- The setup of the run; no procedure does anything. -/
def setup : Setup Nat Unit Unit where
  settings := {}
  notifier := .accepting
  behaviour :=
    { onEvent := fun _ _ _ => .done .allow
      onRemoval := fun _ _ => .done () }

/-- The machine in which one script is registered. -/
def before : Machine Nat Unit Unit :=
  (setup.runAll 1
    [(.ask (.register (((Spec.named "first").hook .flood 0).withPriority 5)) :
      Code Nat Unit Unit ScriptId)] (.fresh ())).2

theorem agree : Spec.Agree choices others where
  handler := by
    intro kind
    cases kind <;> rfl
  priority := rfl
  flag := rfl
  cleanup := rfl

end Revised

/--
The last handler for the kind chosen twice stands behind that of the other script, and
the other choices are registered in the same way.
-/
theorem builder_settles_revised_choices :
    let spec := Spec.build "revised" Revised.choices
    let register : Spec Nat → Flow ScriptId × Machine Nat Unit Unit := fun spec =>
      Run.answer Revised.setup (Revised.setup.scripts 1 0) (.register spec)
        Revised.before
    Revised.setup.Reaches Revised.before ∧
      spec.kinds = [.timer, .flood] ∧
      (register spec).2.state.table.get .flood = [⟨1, 5, 0⟩, ⟨2, 5, 2⟩] ∧
      (register spec).2.state.info? 2 =
        some
          { id := 2, name := "revised", priority := 5, enabled := true
            hooks := [.timer, .flood] } ∧
      register (Spec.build "revised" Revised.others) = register spec := by
  intro spec register
  have reached : Revised.setup.Reaches Revised.before :=
    Revised.setup.reaches_runAll 1 _ ()
  obtain ⟨_, _, _, hinfo, _, _, hsame⟩ :=
    builder_is_last_wins_map Revised.setup 1 0 Revised.before reached "revised"
      Revised.choices
  refine ⟨reached, ?_, ?_, ?_, hsame Revised.others Revised.agree⟩
  · decide +kernel
  · decide +kernel
  · exact hinfo.trans (by decide +kernel)

end ScriptHub
