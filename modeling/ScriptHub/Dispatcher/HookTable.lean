import ScriptHub.Script.Spec

/-!
# The hook table

For every kind of event the table has the handlers to call, in order.  The bindings of
a kind form its chain.  A chain is sorted by ascending priority, and bindings of one
priority stand in the order in which they came.  A new binding is therefore placed
behind every binding whose priority is not greater.  That place is found by bisection,
which relies on the chain being sorted.

The table has an entry only for the kinds that have bindings.
-/

namespace ScriptHub

/-- A handler bound to a kind on behalf of a registration. -/
structure Binding (P : Type) where
  script : ScriptId
  priority : Int32
  handler : P
  deriving DecidableEq

/-- A one-line description of a binding, its handler left out. -/
def Binding.describe {P : Type} (binding : Binding P) : String :=
  "HookBinding \x7b script_id: ScriptId(" ++ toString binding.script ++
    "), priority: " ++ toString binding.priority ++ ", .. \x7d"

/-- The chain of every kind that has bindings. -/
structure HookTable (P : Type) where
  entries : PerKind (Option (List (Binding P)))
  deriving DecidableEq

/--
Goes up from a position by ever smaller powers of two, as long as the property
still holds just before the position that is reached.
-/
def ascend
    {α : Type}
    (p : α → Bool)
    (items : List α) :
    (digits position : Nat) → Nat
  | 0, position => position
  | digits + 1, position =>
      let next := position + (1 <<< digits)
      if items[next - 1]?.any p then
        ascend p items digits next
      else
        ascend p items digits position

/--
The number of items in front that have a property, for a list in which no item
with the property stands behind one without it.
-/
def partitionPoint
    {α : Type}
    (p : α → Bool)
    (items : List α) :
    Nat :=
  ascend p items (items.length.log2 + 1) 0

theorem ascend_append
    {α : Type}
    {p : α → Bool}
    {front back : List α}
    (hfront : ∀ a ∈ front, p a = true)
    (hback : ∀ a ∈ back, p a = false)
    (digits position : Nat)
    (low : position ≤ front.length)
    (high : front.length < position + (1 <<< digits)) :
    ascend p (front ++ back) digits position = front.length := by
  induction digits generalizing position with
  | zero =>
      simp only [ascend]
      simp at high
      omega
  | succ digits ih =>
      have hpos : 0 < 1 <<< digits := by
        rw [Nat.one_shiftLeft]
        exact Nat.two_pow_pos digits
      have htwo : 1 <<< (digits + 1) = 2 * (1 <<< digits) :=
        Nat.shiftLeft_succ 1 digits
      simp only [ascend]
      by_cases hnext : position + (1 <<< digits) ≤ front.length
      · have hin : position + (1 <<< digits) - 1 < front.length := by omega
        have hhas :
            (front ++ back)[position + (1 <<< digits) - 1]?.any p = true := by
          rw [List.getElem?_append_left hin, List.getElem?_eq_getElem hin]
          exact hfront _ (List.getElem_mem hin)
        rw [if_pos hhas]
        exact ih _ hnext (by omega)
      · have hout : front.length ≤ position + (1 <<< digits) - 1 := by omega
        have hlacks :
            (front ++ back)[position + (1 <<< digits) - 1]?.any p = false := by
          rw [List.getElem?_append_right hout]
          cases h : back[position + (1 <<< digits) - 1 - front.length]? with
          | none => rfl
          | some a => exact hback a (List.mem_of_getElem? h)
        rw [hlacks]
        exact ih _ low (by omega)

/-- Bisection finds the border between the items with and without a property. -/
theorem partitionPoint_append
    {α : Type}
    {p : α → Bool}
    {front back : List α}
    (hfront : ∀ a ∈ front, p a = true)
    (hback : ∀ a ∈ back, p a = false) :
    partitionPoint p (front ++ back) = front.length := by
  have hlength :
      (front ++ back).length < 1 <<< ((front ++ back).length.log2 + 1) := by
    rw [Nat.one_shiftLeft]
    exact Nat.lt_log2_self
  apply ascend_append hfront hback
  · exact Nat.zero_le _
  · simp only [List.length_append] at hlength ⊢
    omega

namespace HookTable

variable {P : Type}

/-- The table without bindings. -/
def empty : HookTable P :=
  ⟨PerKind.replicate none⟩

/-- The chain of a kind. -/
def get
    (table : HookTable P)
    (kind : EventKind) :
    List (Binding P) :=
  (table.entries.get kind).getD []

/-- Places a binding behind every binding whose priority is not greater. -/
def place
    (binding : Binding P)
    (chain : List (Binding P)) :
    List (Binding P) :=
  let position :=
    partitionPoint (fun other => other.priority ≤ binding.priority) chain
  chain.take position ++ binding :: chain.drop position

/-- Places a binding in the chain of a kind. -/
def insert
    (table : HookTable P)
    (kind : EventKind)
    (binding : Binding P) :
    HookTable P :=
  ⟨table.entries.modify kind fun chain? =>
    some (place binding (chain?.getD []))⟩

/-- Places one binding for every declared kind. -/
def bind
    (table : HookTable P)
    (script : ScriptId)
    (priority : Int32) :
    List (EventKind × P) → HookTable P
  | [] => table
  | (kind, handler) :: hooks =>
      (table.insert kind ⟨script, priority, handler⟩).bind script priority hooks

/--
Removes every binding of a registration, and the entries of the kinds that are
left without bindings.
-/
def unbind
    (table : HookTable P)
    (script : ScriptId) :
    HookTable P :=
  ⟨table.entries.map fun chain? =>
    (chain?.map fun chain =>
      chain.filter fun binding => binding.script != script).filter
        fun chain => !chain.isEmpty⟩

/-- The number of bindings of a registration. -/
def countOf
    (table : HookTable P)
    (script : ScriptId) :
    Nat :=
  (EventKind.all.flatMap fun kind =>
    (table.get kind).filter fun binding => binding.script == script).length

/-- The length of every chain that has an entry, in the order of declaration. -/
def bindingCounts (table : HookTable P) : List (EventKind × Nat) :=
  EventKind.all.filterMap fun kind =>
    (table.entries.get kind).map fun chain => (kind, chain.length)

end HookTable

end ScriptHub
