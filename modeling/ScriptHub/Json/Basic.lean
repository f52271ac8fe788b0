import ScriptHub.Decimal.Double

/-!
# JSON values

A number keeps the way it was written, because an integer is only taken where it
was written without fraction and exponent.  A string that escapes one half of a
surrogate pair without the other stands for no text and is kept as such, and so
is an object that has such a string as a name.  The members of other objects keep
their order and may repeat a name.
-/

namespace ScriptHub

/--
A number as it was written: an optional minus sign and digits, or a number with a
fraction or an exponent, as the digits in front of the point and behind it and the
exponent.
-/
inductive Numeral
  | integer (negative : Bool) (magnitude : Nat)
  | decimal (negative : Bool) (whole places : List Char) (exponent : Int)
  deriving DecidableEq

namespace Numeral

/-- The integer that was written; minus zero counts as no integer. -/
def toInt? : Numeral → Option Int
  | integer false magnitude => some magnitude
  | integer true 0 => none
  | integer true (magnitude + 1) => some (-(magnitude + 1 : Nat))
  | decimal .. => none

/--
Takes digits from the front as long as the number they make fits into 64 bits.
The answer is that number and the digits that are left.
-/
def keepDigits (kept : Nat) : List Char → Nat × List Char
  | [] => (kept, [])
  | digit :: rest =>
      let next := kept * 10 + (Decimal.digitValue? digit).getD 0
      if next < UInt64.size then keepDigits next rest else (kept, digit :: rest)

/--
The number that the leading digits make and the power of ten that it is scaled
by.  Digits that are not kept count as zeros in front of the point and not at all
behind it.
-/
def scaled
    (whole places : List Char)
    (exponent : Int) :
    Nat × Int :=
  let (kept, left) := keepDigits 0 whole
  let (kept, dropped) := keepDigits kept places
  (kept, exponent + left.length - (places.length - dropped.length : Nat))

/-- The greatest power of ten in double precision. -/
def greatestPower : Nat := 308

/-- Whether a number scaled by a power of ten is finite in double precision. -/
def scalesFinite (kept : Nat) : Int → Bool
  | .ofNat power =>
      kept == 0 ||
        (decide (power ≤ greatestPower) &&
          (Double.timesPower kept power).isFinite)
  | .negSucc _ => true

/-- Whether a number is finite in double precision. -/
def isFinite : Numeral → Bool
  | integer _ magnitude =>
      let (kept, power) := scaled (Nat.toDigits 10 magnitude) [] 0
      scalesFinite kept power
  | decimal _ whole places exponent =>
      let (kept, power) := scaled whole places exponent
      scalesFinite kept power

end Numeral

/--
A JSON value.  Nothing is kept of a string, or an object with a name, that has an
unpaired surrogate.
-/
inductive Json
  | null
  | bool (value : Bool)
  | number (numeral : Numeral)
  | text (value : String)
  | unpaired
  | array (items : List Json)
  | object (members : List (String × Json))

namespace Json

/-- The value of a natural number. -/
def ofNat (n : Nat) : Json :=
  number (.integer false n)

/-- The value of an integer. -/
def ofInt : Int → Json
  | .ofNat n => number (.integer false n)
  | .negSucc n => number (.integer true (n + 1))

mutual

/-- How deeply arrays and objects are nested. -/
def depth : Json → Nat
  | .array items => depthOfItems items + 1
  | .object members => depthOfMembers members + 1
  | _ => 0
termination_by structural json => json

/-- The greatest depth among items. -/
def depthOfItems : List Json → Nat
  | [] => 0
  | item :: rest => max item.depth (depthOfItems rest)
termination_by structural items => items

/-- The greatest depth among members. -/
def depthOfMembers : List (String × Json) → Nat
  | [] => 0
  | member :: rest => max (depthOfMember member) (depthOfMembers rest)
termination_by structural members => members

/-- The depth of a member's value. -/
def depthOfMember : String × Json → Nat
  | (_, value) => value.depth
termination_by structural member => member

end

mutual

/-- Whether every string is a text and every number finite. -/
def isSound : Json → Bool
  | .number numeral => numeral.isFinite
  | .unpaired => false
  | .array items => areSound items
  | .object members => areSoundMembers members
  | _ => true
termination_by structural json => json

/-- Whether all items are sound. -/
def areSound : List Json → Bool
  | [] => true
  | item :: rest => item.isSound && areSound rest
termination_by structural items => items

/-- Whether the values of all members are sound. -/
def areSoundMembers : List (String × Json) → Bool
  | [] => true
  | member :: rest => isSoundMember member && areSoundMembers rest
termination_by structural members => members

/-- Whether the value of a member is sound. -/
def isSoundMember : String × Json → Bool
  | (_, value) => value.isSound
termination_by structural member => member

end

/-- How deeply a value that is taken in whole may be nested. -/
def depthLimit : Nat := 127

/-- Whether a value can be taken in whole. -/
def isPlain (json : Json) : Bool :=
  json.isSound && decide (json.depth ≤ depthLimit)

/-- The text of a string. -/
def asText? : Json → Option String
  | text value => some value
  | _ => none

/-- The flag behind true or false. -/
def asFlag? : Json → Option Bool
  | bool value => some value
  | _ => none

/-- The integer behind a number that is written as one. -/
def asInt? : Json → Option Int
  | number numeral => numeral.toInt?
  | _ => none

/--
The word that a choice without arguments is written with: a text, or an object
whose only member has the word as its name and null as its value.
-/
def asWord? : Json → Option String
  | text word => some word
  | object [(word, null)] => some word
  | _ => none

/-- An integer from a range. -/
def asIntBetween?
    (low high : Int)
    (json : Json) :
    Option Int :=
  json.asInt?.filter fun value =>
    decide (low ≤ value) && decide (value ≤ high)

/-- An unsigned integer of 64 bits. -/
def asUInt64? (json : Json) : Option UInt64 :=
  (json.asIntBetween? 0 (UInt64.size - 1)).map fun value => .ofNat value.toNat

/-- An unsigned integer of 16 bits. -/
def asUInt16? (json : Json) : Option UInt16 :=
  (json.asIntBetween? 0 (UInt16.size - 1)).map fun value => .ofNat value.toNat

/-- A signed integer of 32 bits. -/
def asInt32? (json : Json) : Option Int32 :=
  (json.asIntBetween? Int32.minValue.toInt Int32.maxValue.toInt).map
    Int32.ofInt

/-- The values of the members with a name, in order. -/
def valuesOf
    (name : String)
    (members : List (String × Json)) :
    List Json :=
  (members.filter fun member => member.1 == name).map Prod.snd

end Json

end ScriptHub
