import ScriptHub.Decimal.Double
import ScriptHub.Text.LowerCase

/-!
# Values that configuration sources give

The values are taken here as they are before their types are known.  A source gives
flags, integers, numbers in double precision, texts, lists and tables.  A field of the
configuration takes a value in its own type, and some values of other types are
converted: flags count as one and zero, numbers are rounded, and texts are read as
integers or as the usual words for yes and no.
-/

namespace ScriptHub

/-- A value from a configuration source, or none. -/
inductive Setting
  | nothing
  | flag (value : Bool)
  | integer (value : Int)
  | real (value : Double)
  | text (value : String)
  | list (items : List Setting)
  | table (members : List (String × Setting))

namespace Setting

/-- The flag that a lower-cased word stands for. -/
def wordFlag? (word : String) : Option Bool :=
  if word = "true" ∨ word = "on" ∨ word = "yes" then some true
  else if word = "false" ∨ word = "off" ∨ word = "no" then some false
  else none

/-- A text in lower case. -/
def lowered (value : String) : String :=
  String.ofList (Text.lower value.toList)

/-- One for yes and zero for no. -/
def flagValue (value : Bool) : Int :=
  if value then 1 else 0

/-- The integer that a word or the digits of a text stand for. -/
def textInt?
    (read : List Char → Except Decimal.IntegerError Int)
    (word : String) :
    Option Int :=
  match wordFlag? (lowered word) with
  | some value => some (flagValue value)
  | none => (read word.toList).toOption

/-- A value as an integer of a range, given how texts are read. -/
def toIntWithin?
    (low high : Int)
    (read : List Char → Except Decimal.IntegerError Int)
    (setting : Setting) :
    Option Int :=
  let value? : Option Int :=
    match setting with
    | flag value => some (flagValue value)
    | integer value => some value
    | real value => some (value.toIntWithin low high)
    | text value => textInt? read value
    | nothing | list _ | table _ => none
  value?.filter fun value => decide (low ≤ value) && decide (value ≤ high)

/-- A value as a signed integer of 64 bits. -/
def toInt64? (setting : Setting) : Option Int :=
  setting.toIntWithin? Int64.minValue.toInt Int64.maxValue.toInt
    Decimal.readInt64

/-- A value as a signed integer of 32 bits. -/
def toInt32? (setting : Setting) : Option Int32 :=
  (setting.toInt64?.filter fun value =>
    decide (Int32.minValue.toInt ≤ value) &&
      decide (value ≤ Int32.maxValue.toInt)).map Int32.ofInt

/-- A value as an unsigned integer of 64 bits. -/
def toUInt64? (setting : Setting) : Option UInt64 :=
  (setting.toIntWithin? 0 (UInt64.size - 1) fun cs =>
    (Decimal.readUInt64 cs).map Int.ofNat).map fun value => .ofNat value.toNat

/-- A value as a flag. -/
def toFlag? : Setting → Option Bool
  | flag value => some value
  | integer value => some (value != 0)
  | real value => some (!value.isZero)
  | text value =>
      let word := lowered value
      if word = "1" then some true
      else if word = "0" then some false
      else wordFlag? word
  | nothing | list _ | table _ => none

/-- A value as a text. -/
def toText? : Setting → Option String
  | flag value => some (if value then "true" else "false")
  | integer value => some (toString value)
  | real value => some value.text
  | text value => some value
  | nothing | list _ | table _ => none

end Setting

end ScriptHub
