import ScriptHub.Config.Setting
import ScriptHub.Named

/-!
# Paths into configuration values

A path is a name followed by further names behind dots and by positions in
brackets; negative positions count from the end of a list.  A value laid over
another at the end of a path replaces what is there; a table is laid over it
member by member.
-/

namespace ScriptHub
namespace Setting

/-- The members of a table; other values have none. -/
def members : Setting → Named Setting
  | table members => members
  | _ => []

/-- The items of a list; other values have none. -/
def items : Setting → List Setting
  | list items => items
  | _ => []

mutual

/-- Lays a value over another. -/
def layOver : Setting → Setting → Setting
  | table upper, lower => table (layMembers upper lower.members)
  | nothing, _ => nothing
  | flag value, _ => flag value
  | integer value, _ => integer value
  | real value, _ => real value
  | text value, _ => text value
  | list items, _ => list items

/-- Lays members over members. -/
def layMembers : Named Setting → Named Setting → Named Setting
  | [], lower => lower
  | member :: rest, lower => layMembers rest (layMember member lower)

/-- Lays a single member over members. -/
def layMember : String × Setting → Named Setting → Named Setting
  | (name, value), lower =>
      lower.put name (layOver value ((lower.value? name).getD nothing))

end

/-- A step of a path into a value. -/
inductive Step
  | member (name : String)
  | item (position : Int)
  deriving DecidableEq

/--
Items with room for one at a position, and its index among them.  The list is
filled up at its end for a position behind it, and at its start for a position
before it.
-/
def makeRoom
    (items : List Setting) :
    Int → List Setting × Nat
  | .ofNat index =>
      (items ++ List.replicate (index + 1 - items.length) nothing, index)
  | .negSucc before =>
      let missing := before + 1 - items.length
      (List.replicate missing nothing ++ items,
        items.length + missing - (before + 1))

/--
Lays a value over what is at the end of a path.  What stands in the way is
replaced by a table or a list, as the path needs it.
-/
def layAt
    (value : Setting) :
    List Step → Setting → Setting
  | [], lower => value.layOver lower
  | .member name :: rest, lower =>
      table
        (lower.members.put name
          (layAt value rest ((lower.members.value? name).getD nothing)))
  | .item position :: rest, lower =>
      let (items, index) := makeRoom lower.items position
      list
        (items.set index (layAt value rest (items[index]?.getD nothing)))

/-- Whether a character may stand in a name of a path. -/
def isNameChar (c : Char) : Bool :=
  c.isAlphanum || c == '_' || c == '-'

/-- Whether a character may stand around a position in brackets. -/
def isBlankChar (c : Char) : Bool :=
  c == ' ' || c == '\t'

/-- A position that fits into 64 bits. -/
def position? (value : Int) : Option Int :=
  if Int64.minValue.toInt ≤ value ∧ value ≤ Int64.maxValue.toInt then
    some value
  else
    none

/-- Reads digits and the closing bracket behind them. -/
def readMagnitude? (cs : List Char) : Option (Nat × List Char) :=
  let (digits, rest) := Double.spanDigits cs
  match digits, rest.dropWhile isBlankChar with
  | _ :: _, ']' :: after => some (Double.digitsValue digits, after)
  | _, _ => none

/-- Reads a position behind its opening bracket. -/
def readPosition? (cs : List Char) : Option (Int × List Char) := do
  let (value, after) ←
    match cs.dropWhile isBlankChar with
    | '-' :: rest =>
        (readMagnitude? rest).map fun (value, after) => (-(value : Int), after)
    | rest => (readMagnitude? rest).map fun (value, after) => ((value : Int), after)
  pure (← position? value, after)

/--
Reads the steps of a path.  Inside a name, the characters read so far are given,
latest first; otherwise a position or a dot is expected.  The fuel bounds the
number of moves.
-/
def readSteps : Nat → Option (List Char) → List Char → Option (List Step)
  | 0, _, _ => none
  | _ + 1, none, [] => some []
  | fuel + 1, none, '[' :: rest =>
      match readPosition? rest with
      | some (position, after) =>
          (readSteps fuel none after).map (Step.item position :: ·)
      | none => none
  | fuel + 1, none, '.' :: rest => readSteps fuel (some []) rest
  | _ + 1, none, _ => none
  | _ + 1, some [], [] => none
  | _ + 1, some (c :: cs), [] =>
      some [.member (String.ofList (c :: cs).reverse)]
  | fuel + 1, some name, c :: rest =>
      if isNameChar c then
        readSteps fuel (some (c :: name)) rest
      else if name.isEmpty then
        none
      else
        (readSteps fuel none (c :: rest)).map
          (Step.member (String.ofList name.reverse) :: ·)

/-- The path that a text writes; a text that writes none is a single name. -/
def pathOf (cs : List Char) : List Step :=
  (readSteps (2 * cs.length + 1) (some []) cs).getD [.member (String.ofList cs)]

end Setting
end ScriptHub
