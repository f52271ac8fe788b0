import ScriptHub.Config.Setting
import ScriptHub.Json.Reader

/-!
# Numbers of TOML texts

Integers are decimal, or hexadecimal, octal or binary behind a mark; numbers with
a fraction or an exponent are taken in double precision.  An underscore may stand
between two digits.  Decimal numbers have no leading zeros.
-/

namespace ScriptHub
namespace Toml

/-- Digits without the underscores between them, if these are placed well. -/
def plainDigits?
    (isDigit : Char → Bool) :
    List Char → Option (List Char)
  | [] => none
  | [c] => if isDigit c then some [c] else none
  | c :: '_' :: rest =>
      if isDigit c then (plainDigits? isDigit rest).map (c :: ·) else none
  | c :: d :: rest =>
      if isDigit c then (plainDigits? isDigit (d :: rest)).map (c :: ·) else none

/-- Whether a character is a digit of a base. -/
def isDigitOf (base : Nat) (c : Char) : Bool :=
  (Json.hexValue? c).any fun value => decide (value < base)

/-- The value of digits in a base. -/
def valueIn (base : Nat) (digits : List Char) : Nat :=
  digits.foldl (fun value c => value * base + (Json.hexValue? c).getD 0) 0

/-- An integer, if it fits into 64 bits. -/
def integer? (value : Int) : Option Setting :=
  if Int64.minValue.toInt ≤ value ∧ value ≤ Int64.maxValue.toInt then
    some (.integer value)
  else
    none

/-- Reads the digits of an integer in a base behind its mark. -/
def readBased? (base : Nat) (cs : List Char) : Option Setting :=
  (plainDigits? (isDigitOf base) cs).bind fun digits =>
    integer? (valueIn base digits)

/-- Decimal digits without a leading zero. -/
def wholeDigits? (cs : List Char) : Option (List Char) :=
  match plainDigits? (isDigitOf 10) cs with
  | some ('0' :: _ :: _) => none
  | digits => digits

/-- Reads digits as a whole number. -/
def readWhole? (cs : List Char) : Option Int :=
  (plainDigits? (isDigitOf 10) cs).map fun digits => Int.ofNat (valueIn 10 digits)

/-- Reads an exponent behind its letter. -/
def readExponent? : List Char → Option Int
  | '+' :: rest => readWhole? rest
  | '-' :: rest => (readWhole? rest).map fun value => -value
  | rest => readWhole? rest

/-- A text cut at the first character of a kind, which is dropped. -/
def cutAt
    (isCut : Char → Bool)
    (cs : List Char) :
    List Char × Option (List Char) :=
  match cs.dropWhile fun c => !isCut c with
  | [] => (cs, none)
  | _ :: rest => (cs.takeWhile fun c => !isCut c, some rest)

/-- A number in double precision, unless it is too large for that. -/
def real? (value : Double) : Option Setting :=
  match value with
  | .infinite _ => none
  | _ => some (.real value)

/-- Reads a decimal number behind its sign. -/
def readDecimal? (negative : Bool) (cs : List Char) : Option Setting := do
  let (front, exponent) := cutAt (fun c => c == 'e' || c == 'E') cs
  let (whole, places) := cutAt (· == '.') front
  let digits ← wholeDigits? whole
  match places, exponent with
  | none, none =>
      let value : Int := valueIn 10 digits
      integer? (if negative then -value else value)
  | _, _ =>
      let places ←
        match places with
        | none => some []
        | some places => plainDigits? (isDigitOf 10) places
      let exponent ←
        match exponent with
        | none => some 0
        | some digits => readExponent? digits
      real?
        (Double.ofDecimal negative (valueIn 10 (digits ++ places))
          (exponent - places.length))

/-- Reads a number behind its sign. -/
def readSigned? (negative : Bool) (cs : List Char) : Option Setting :=
  if cs = ['i', 'n', 'f'] then some (.real (.infinite negative))
  else if cs = ['n', 'a', 'n'] then some (.real .notANumber)
  else readDecimal? negative cs

/-- Reads a number that makes up a whole text. -/
def readNumber? : List Char → Option Setting
  | '0' :: 'x' :: rest => readBased? 16 rest
  | '0' :: 'o' :: rest => readBased? 8 rest
  | '0' :: 'b' :: rest => readBased? 2 rest
  | '+' :: rest => readSigned? false rest
  | '-' :: rest => readSigned? true rest
  | cs => readSigned? false cs

end Toml
end ScriptHub
