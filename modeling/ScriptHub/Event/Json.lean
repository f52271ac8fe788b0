import ScriptHub.Event.Basic
import ScriptHub.Json.Basic

/-!
# Events as JSON values

An event is written as an object: first the name of its kind under the tag, then
its arguments by name.  It is read back from such an object with its members in
any order and other members among them, and also from the array of the kind's
name and the arguments in the order of the signature.  The tag and every argument
must be there exactly once, and values are never converted.
-/

namespace ScriptHub

/-- The JSON value of an argument. -/
def FieldValue.toJson : FieldValue → Json
  | .text value => .text value
  | .flag value => .bool value
  | .uint64 value => .ofNat value.toNat
  | .uint16 value => .ofNat value.toNat
  | .int32 value => .ofInt value.toInt

/-- Reads an argument of a type. -/
def FieldType.ofJson? : FieldType → Json → Option FieldValue
  | .text, json => json.asText?.map .text
  | .flag, json => json.asFlag?.map .flag
  | .uint64, json => json.asUInt64?.map .uint64
  | .uint16, json => json.asUInt16?.map .uint16
  | .int32, json => json.asInt32?.map .int32

namespace Event

/-- The name of the member that tells the kind. -/
def tag : String := "hook"

/-- The JSON value of an event. -/
def toJson (event : Event) : Json :=
  .object
    ((tag, .text event.kind.name) ::
      event.fields.map fun field => (field.1, field.2.toJson))

/-- The kind that a tag names. -/
def kindOfTag? : Json → Option EventKind
  | .text name => EventKind.ofName? name
  | _ => none

/-- The only one of a list. -/
def single? {α : Type} : List α → Option α
  | [a] => some a
  | _ => none

/-- Reads the arguments of a signature from members. -/
def readMembers? (members : List (String × Json)) :
    List (String × FieldType) → Option (List FieldValue)
  | [] => some []
  | (name, type) :: rest => do
      let json ← single? (Json.valuesOf name members)
      let value ← type.ofJson? json
      let values ← readMembers? members rest
      pure (value :: values)

/-- Reads the arguments of a signature from items. -/
def readItems? : List (String × FieldType) → List Json → Option (List FieldValue)
  | [], [] => some []
  | (_, type) :: rest, json :: items => do
      let value ← type.ofJson? json
      let values ← readItems? rest items
      pure (value :: values)
  | _, _ => none

/-- Reads an event from the members of an object. -/
def ofMembers? (members : List (String × Json)) : Option Event := do
  let name ← single? (Json.valuesOf tag members)
  let kind ← kindOfTag? name
  let values ← readMembers? members kind.signature
  ofValues? kind values

/-- Reads an event from the items of an array. -/
def ofItems? : List Json → Option Event
  | [] => none
  | name :: items => do
      let kind ← kindOfTag? name
      let values ← readItems? kind.signature items
      ofValues? kind values

/-- Reads an event. -/
def ofJson? (json : Json) : Option Event :=
  if json.isPlain then
    match json with
    | .object members => ofMembers? members
    | .array items => ofItems? items
    | _ => none
  else
    none

end Event

end ScriptHub
