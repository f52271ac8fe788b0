/-!
# Lists of named values

A list of named values keeps the order in which its names were first put.
-/

namespace ScriptHub

/-- Values with names, in order. -/
abbrev Named (α : Type) : Type :=
  List (String × α)

namespace Named

variable {α : Type}

/-- The value of the first member with a name. -/
def value? (name : String) : Named α → Option α
  | [] => none
  | member :: rest => if member.1 = name then some member.2 else value? name rest

/-- Replaces the value of a member, or adds the member at the end. -/
def put (name : String) (value : α) : Named α → Named α
  | [] => [(name, value)]
  | member :: rest =>
      if member.1 = name then (name, value) :: rest
      else member :: put name value rest

/-- A name that was put has the value it was given. -/
theorem value?_put_self (name : String) (value : α) (members : Named α) :
    value? name (put name value members) = some value := by
  induction members with
  | nil => simp [put, value?]
  | cons member rest ih =>
      by_cases h : member.1 = name
      · simp [put, value?, h]
      · simp [put, value?, h, ih]

/-- Putting a name leaves every other name as it was. -/
theorem value?_put_of_ne
    {name other : String}
    (h : other ≠ name)
    (value : α)
    (members : Named α) :
    value? other (put name value members) = value? other members := by
  induction members with
  | nil => simp [put, value?, h.symm]
  | cons member rest ih =>
      by_cases hm : member.1 = name
      · simp [put, value?, hm, h.symm]
      · by_cases ho : member.1 = other
        · simp [put, value?, ho, h]
        · simp [put, value?, hm, ho, ih]

end Named
end ScriptHub
