import ScriptHub.Decimal.Integer

/-!
# Numbers in double precision

A finite number is a mantissa below 2^53 scaled by a power of two, the exponent
being as small as the format allows.  Decimal text is read to the nearest such
number, a tie going to the even mantissa, and a number is shown by the fewest
digits that are read back as the same number, always in positional notation.
-/

namespace ScriptHub

/--
A number in double precision.  A finite one is its mantissa times two to the exponent,
with a sign.
-/
inductive Double
  | finite (negative : Bool) (mantissa : Nat) (exponent : Int)
  | infinite (negative : Bool)
  | notANumber
  deriving DecidableEq

namespace Double

/-- The least exponent of the format. -/
def minExponent : Int := -1074

/-- The greatest exponent of the format. -/
def maxExponent : Int := 971

/-- The integer nearest to a ratio; a tie goes to the even one. -/
def roundRatio (numerator denominator : Nat) : Nat :=
  let quotient := numerator / denominator
  let twice := 2 * (numerator % denominator)
  if denominator < twice then quotient + 1
  else if twice = denominator ∧ quotient % 2 = 1 then quotient + 1
  else quotient

/-- A ratio divided by a power of a base. -/
def scaleDown
    (base numerator denominator : Nat) :
    Int → Nat × Nat
  | .ofNat up => (numerator, denominator * base.pow up)
  | .negSucc down => (numerator * base.pow (down + 1), denominator)

/-- The exponent at which a positive ratio has a mantissa of 53 bits. -/
def exponentFor (numerator denominator : Nat) : Int :=
  let low : Int := (Nat.log2 numerator : Int) - Nat.log2 denominator - 53
  let (n, d) := scaleDown 2 numerator denominator low
  if n / d < Nat.pow 2 53 then low else low + 1

/-- The number nearest to a ratio. -/
def ofRatio
    (negative : Bool)
    (numerator denominator : Nat) :
    Double :=
  if numerator = 0 then
    finite negative 0 minExponent
  else
    let exponent := max (exponentFor numerator denominator) minExponent
    let (n, d) := scaleDown 2 numerator denominator exponent
    let mantissa := roundRatio n d
    let (mantissa, exponent) :=
      if mantissa = Nat.pow 2 53 then (Nat.pow 2 52, exponent + 1)
      else (mantissa, exponent)
    if maxExponent < exponent then infinite negative
    else finite negative mantissa exponent

/-- The number of decimal digits of a number. -/
def digitCount (digits : Nat) : Nat :=
  (Nat.toDigits 10 digits).length

/-- The number nearest to digits scaled by a power of ten. -/
def ofDecimal
    (negative : Bool)
    (digits : Nat)
    (exponent : Int) :
    Double :=
  let top := exponent + digitCount digits
  if digits = 0 ∨ top < -400 then
    finite negative 0 minExponent
  else if 400 < top then
    infinite negative
  else
    let (denominator, numerator) := scaleDown 10 1 digits exponent
    ofRatio negative numerator denominator

/-- The absolute value of a finite number as a ratio. -/
def toRatio
    (mantissa : Nat) :
    Int → Nat × Nat
  | .ofNat up => (mantissa * Nat.pow 2 up, 1)
  | .negSucc down => (mantissa, Nat.pow 2 (down + 1))

/-- Whether a number is finite. -/
def isFinite : Double → Bool
  | finite .. => true
  | _ => false

/-- The product of two finite numbers; other numbers have none here. -/
def times? : Double → Double → Option Double
  | finite negative mantissa exponent, finite negative' mantissa' exponent' =>
      let (n, d) := toRatio mantissa exponent
      let (n', d') := toRatio mantissa' exponent'
      some (ofRatio (negative != negative') (n * n') (d * d'))
  | _, _ => none

/--
A number scaled by a power of ten in three steps: both are rounded to double
precision, and so is their product.
-/
def timesPower (value power : Nat) : Double :=
  ((ofRatio false value 1).times? (ofDecimal false 1 power)).getD
    (infinite false)

/-- Whether a ratio is at least a power of ten. -/
def reaches
    (numerator denominator : Nat)
    (power : Int) :
    Bool :=
  let (n, d) := scaleDown 10 numerator denominator power
  decide (d ≤ n)

/-- Raises an exponent, at most so many times, while the ratio reaches the next one. -/
def raise
    (numerator denominator : Nat) :
    Nat → Int → Int
  | 0, power => power
  | steps + 1, power =>
      if reaches numerator denominator (power + 1) then
        raise numerator denominator steps (power + 1)
      else
        power

/-- The exponent of the leading decimal digit of a positive ratio. -/
def leadingPower (numerator denominator : Nat) : Int :=
  let bits : Int := (Nat.log2 numerator : Int) - Nat.log2 denominator
  raise numerator denominator 4 (bits * 30103 / 100000 - 2)

/--
Of the two numbers of so many digits around a ratio, the nearer one that is read
back as the given number.
-/
def candidate?
    (target : Double)
    (numerator denominator : Nat)
    (power : Int) :
    Option Nat :=
  let (n, d) := scaleDown 10 numerator denominator power
  let below := n / d
  let readsBack (digits : Nat) : Bool :=
    ofDecimal false digits power == target
  let nearest := if 2 * (n % d) < d then below else below + 1
  let farther := if 2 * (n % d) < d then below + 1 else below
  if readsBack nearest then some nearest
  else if readsBack farther then some farther
  else none

/-- The fewest digits that are read back, from a number of digits on. -/
def shortestFrom
    (target : Double)
    (numerator denominator : Nat)
    (leading : Int) :
    Nat → Nat → Nat × Int
  | 0, count =>
      let power := leading - count
      let (n, d) := scaleDown 10 numerator denominator power
      (roundRatio n d, power)
  | more + 1, count =>
      let power := leading - count
      match candidate? target numerator denominator power with
      | some digits => (digits, power)
      | none => shortestFrom target numerator denominator leading more (count + 1)

/-- Removes zeros at the end of digits, at most so many. -/
def dropZeros : Nat → Nat → Int → Nat × Int
  | 0, digits, power => (digits, power)
  | steps + 1, digits, power =>
      if digits ≠ 0 ∧ digits % 10 = 0 then
        dropZeros steps (digits / 10) (power + 1)
      else
        (digits, power)

/-- The fewest digits of a positive finite number, with the power of the last one. -/
def shortest
    (mantissa : Nat)
    (exponent : Int) :
    Nat × Int :=
  let (n, d) := toRatio mantissa exponent
  let (digits, power) :=
    shortestFrom (finite false mantissa exponent) n d (leadingPower n d) 17 0
  dropZeros 20 digits power

/-- Digits and a power of ten in positional notation. -/
def positional (digits : Nat) : Int → String
  | .ofNat up => toString digits ++ String.ofList (List.replicate up '0')
  | .negSucc down =>
      let places := down + 1
      let text := Nat.toDigits 10 digits
      let padded := List.replicate (places + 1 - text.length) '0' ++ text
      String.ofList (padded.take (padded.length - places)) ++ "." ++
        String.ofList (padded.drop (padded.length - places))

/-- The text of a number. -/
def text : Double → String
  | finite negative mantissa exponent =>
      (if negative then "-" else "") ++
        if mantissa = 0 then "0"
        else
          let (digits, power) := shortest mantissa exponent
          positional digits power
  | infinite negative => if negative then "-inf" else "inf"
  | notANumber => "NaN"

/-- The integer nearest to the absolute value; a tie goes away from zero. -/
def roundMagnitude
    (mantissa : Nat) :
    Int → Nat
  | .ofNat up => mantissa * Nat.pow 2 up
  | .negSucc down => (2 * mantissa + Nat.pow 2 (down + 1)) / Nat.pow 2 (down + 2)

/--
The nearest integer within a range, a tie going away from zero.  What lies
beyond the range is taken to its end, and what is no number to zero.
-/
def toIntWithin
    (low high : Int) :
    Double → Int
  | finite negative mantissa exponent =>
      let magnitude : Int := roundMagnitude mantissa exponent
      max low (min high (if negative then -magnitude else magnitude))
  | infinite negative => if negative then low else high
  | notANumber => 0

/-- Whether a number equals zero. -/
def isZero : Double → Bool
  | finite _ mantissa _ => mantissa == 0
  | _ => false

/-- The digits at the start of a text and what follows them. -/
def spanDigits (cs : List Char) : List Char × List Char :=
  (cs.takeWhile fun c => (Decimal.digitValue? c).isSome,
    cs.dropWhile fun c => (Decimal.digitValue? c).isSome)

/-- The number that digits write. -/
def digitsValue (digits : List Char) : Nat :=
  digits.foldl (fun value c => value * 10 + (Decimal.digitValue? c).getD 0) 0

/-- Reads the digits of an exponent up to the end, given its sign. -/
def readExponentDigits
    (negative : Bool)
    (cs : List Char) :
    Option Int :=
  match spanDigits cs with
  | (digits@(_ :: _), []) =>
      let value : Int := digitsValue digits
      some (if negative then -value else value)
  | _ => none

/-- Reads an exponent up to the end: nothing, or the letter e and an integer. -/
def readExponent? : List Char → Option Int
  | [] => some 0
  | c :: rest =>
      if c = 'e' ∨ c = 'E' then
        match rest with
        | '+' :: after => readExponentDigits false after
        | '-' :: after => readExponentDigits true after
        | _ => readExponentDigits false rest
      else
        none

/-- Reads a number of digits, point and exponent behind its sign. -/
def readDecimal?
    (negative : Bool)
    (cs : List Char) :
    Option Double :=
  let (whole, rest) := spanDigits cs
  let (places, rest) :=
    match rest with
    | '.' :: after => spanDigits after
    | _ => ([], rest)
  if whole.isEmpty && places.isEmpty then
    none
  else
    (readExponent? rest).map fun exponent =>
      ofDecimal negative (digitsValue (whole ++ places))
        (exponent - places.length)

/-- A text with its ASCII letters in lower case. -/
def lowerAscii (cs : List Char) : List Char :=
  cs.map fun c =>
    if 'A' ≤ c ∧ c ≤ 'Z' then Char.ofNat (c.toNat + 32) else c

/-- Reads a number behind its sign. -/
def readUnsigned?
    (negative : Bool)
    (cs : List Char) :
    Option Double :=
  let word := String.ofList (lowerAscii cs)
  if word = "inf" ∨ word = "infinity" then some (infinite negative)
  else if word = "nan" then some notANumber
  else readDecimal? negative cs

/--
Reads a number: an optional sign, then digits with an optional point among or
around them and an optional exponent, or a word for infinity or for no number.
-/
def read? : List Char → Option Double
  | '-' :: cs => readUnsigned? true cs
  | '+' :: cs => readUnsigned? false cs
  | cs => readUnsigned? false cs

end Double

end ScriptHub
