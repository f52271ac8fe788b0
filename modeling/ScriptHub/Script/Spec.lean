import ScriptHub.Event.PerKind
import ScriptHub.Text.Quoted

/-!
# What a script supplies when it registers

A specification has a name, at most one handler per kind of event, and
optionally a cleanup, a priority and the wish to start disabled.  It is built up
step by step; where a step repeats an earlier one, the later step counts.

Handlers and cleanups are named by procedures of an arbitrary type.  What a
procedure does is said elsewhere, so that specifications can be compared.
-/

namespace ScriptHub

/--
The number by which a registration is known.

Numbers are unbounded here, where the hub has words of 64 bits.  Every registration takes
a new number, so only 2^64 registrations use up the words, and at one in each nanosecond
these take more than five centuries.  What is said of the counters, which are words and
wrap at the same point, assumes that fewer registrations were made.
-/
abbrev ScriptId := Nat

/--
What a script supplies when it registers: a label, which need not be unique; the handler
for each kind that it declares; the procedure to run once the registration is removed;
the ordering key, lower runs earlier; and whether the registration starts enabled.
-/
structure Spec (P : Type) where
  name : String
  hooks : PerKind (Option P) := PerKind.replicate none
  cleanup : Option P := none
  priority : Option Int32 := none
  autoEnable : Bool := true
  deriving DecidableEq

namespace Spec

variable {P : Type}

/-- A specification that declares nothing yet. -/
def named (name : String) : Spec P :=
  { name := name }

/-- Declares a kind, or replaces the handler declared for it earlier. -/
def hook
    (spec : Spec P)
    (kind : EventKind)
    (handler : P) :
    Spec P :=
  { spec with hooks := spec.hooks.set kind (some handler) }

/-- Sets the cleanup. -/
def withCleanup
    (spec : Spec P)
    (cleanup : P) :
    Spec P :=
  { spec with cleanup := some cleanup }

/-- Sets the priority. -/
def withPriority
    (spec : Spec P)
    (priority : Int32) :
    Spec P :=
  { spec with priority := some priority }

/-- Sets whether the registration starts enabled. -/
def withAutoEnable
    (spec : Spec P)
    (enabled : Bool) :
    Spec P :=
  { spec with autoEnable := enabled }

/-- The handler declared for a kind. -/
def handler?
    (spec : Spec P)
    (kind : EventKind) :
    Option P :=
  spec.hooks.get kind

/-- The declared kinds, in the order of declaration. -/
def kinds (spec : Spec P) : List EventKind :=
  EventKind.all.filter fun kind => (spec.handler? kind).isSome

/-- The declared kinds with their handlers, in the order of declaration. -/
def bindings (spec : Spec P) : List (EventKind × P) :=
  EventKind.all.filterMap fun kind =>
    (spec.handler? kind).map fun handler => (kind, handler)

/-- A kind is listed exactly when it has a handler. -/
theorem mem_kinds
    {spec : Spec P}
    {kind : EventKind} :
    kind ∈ spec.kinds ↔ (spec.handler? kind).isSome := by
  simp [kinds, EventKind.mem_all]

/-- The list of bindings names the declared kinds. -/
theorem bindings_map_fst (spec : Spec P) :
    spec.bindings.map Prod.fst = spec.kinds := by
  unfold bindings kinds
  induction EventKind.all with
  | nil => rfl
  | cons kind rest ih =>
      cases h : spec.handler? kind with
      | none => simp [h, ih]
      | some handler => simp [h, ih]

/-- The priority as a description shows it. -/
def describePriority : Option Int32 → String
  | none => "None"
  | some priority => "Some(" ++ toString priority ++ ")"

/-- A one-line description of a specification. -/
def describe (spec : Spec P) : String :=
  "ScriptSpec \x7b name: " ++ Text.quote spec.name ++
    ", hooks: [" ++ ", ".intercalate (spec.kinds.map EventKind.name) ++
    "], has_cleanup: " ++ toString spec.cleanup.isSome ++
    ", priority: " ++ describePriority spec.priority ++
    ", auto_enable: " ++ toString spec.autoEnable ++ " \x7d"

end Spec

end ScriptHub
