/-!
# Reading integers from decimal text

A written integer is an optional sign and one or more ASCII digits; leading
zeros are allowed, blanks and separators are not.  Digits are taken from left
to right, and the first of them that is no digit, or that carries the value out
of its range, decides which error is reported.
-/

namespace ScriptHub
namespace Decimal

/-- Why a text is not an integer of the wanted range. -/
inductive IntegerError
  | empty
  | invalidDigit
  | tooLarge
  | tooSmall
  deriving DecidableEq

/-- The wording of an error. -/
def IntegerError.message : IntegerError → String
  | .empty => "cannot parse integer from empty string"
  | .invalidDigit => "invalid digit found in string"
  | .tooLarge => "number too large to fit in target type"
  | .tooSmall => "number too small to fit in target type"

/-- The value of an ASCII digit. -/
def digitValue? (c : Char) : Option Nat :=
  if '0' ≤ c ∧ c ≤ '9' then some (c.toNat - '0'.toNat) else none

/--
Reads digits behind a value already read, refusing to go beyond a limit.
-/
def readDigits
    (limit : Nat)
    (beyond : IntegerError) :
    Nat → List Char → Except IntegerError Nat
  | value, [] => .ok value
  | value, c :: cs =>
      match digitValue? c with
      | none => .error .invalidDigit
      | some digit =>
          let next := value * 10 + digit
          if limit < next then .error beyond
          else readDigits limit beyond next cs

/-- Reads a non-negative integer up to a limit, with an optional plus sign. -/
def readNat
    (limit : Nat) :
    List Char → Except IntegerError Nat
  | [] => .error .empty
  | ['+'] => .error .invalidDigit
  | '+' :: cs => readDigits limit .tooLarge 0 cs
  | cs => readDigits limit .tooLarge 0 cs

/--
Reads an integer between the negation of the first bound and the second bound,
with an optional sign.
-/
def readInt
    (below above : Nat) :
    List Char → Except IntegerError Int
  | [] => .error .empty
  | ['+'] => .error .invalidDigit
  | ['-'] => .error .invalidDigit
  | '+' :: cs => (readDigits above .tooLarge 0 cs).map Int.ofNat
  | '-' :: cs => (readDigits below .tooSmall 0 cs).map fun n => -Int.ofNat n
  | cs => (readDigits above .tooLarge 0 cs).map Int.ofNat

/-- Reads an unsigned integer of 64 bits. -/
def readUInt64 (cs : List Char) : Except IntegerError Nat :=
  readNat (UInt64.size - 1) cs

/-- Reads a signed integer of 64 bits. -/
def readInt64 (cs : List Char) : Except IntegerError Int :=
  readInt (Int64.size / 2) (Int64.size / 2 - 1) cs

/-- Reads a signed integer of 32 bits. -/
def readInt32 (cs : List Char) : Except IntegerError Int32 :=
  (readInt (Int32.size / 2) (Int32.size / 2 - 1) cs).map Int32.ofInt

end Decimal
end ScriptHub
