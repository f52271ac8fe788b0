import ScriptHub.Toml.Number

/-!
# Dates and times of TOML texts

A date, a time of day, or both with an optional offset are taken as their usual
text: with the letter between date and time in upper case, with at most nine
places of a second and no zeros at their end but for a zero alone, and with the
letter for no offset in upper case.  Seconds may be left out.
-/

namespace ScriptHub
namespace Toml

/-- A text that was read in its full form, and the rest. -/
abbrev Written := Option (List Char × List Char)

/-- Whether digits write a number of a range. -/
def inRange (low high : Nat) (digits : List Char) : Bool :=
  digits.all (isDigitOf 10) && decide (low ≤ valueIn 10 digits) &&
    decide (valueIn 10 digits ≤ high)

/-- Whether a year has a leap day. -/
def isLeapYear (year : Nat) : Bool :=
  year % 4 == 0 && (year % 100 != 0 || year % 400 == 0)

/-- The number of days of a month. -/
def daysOfMonth (year month : Nat) : Nat :=
  if month = 2 then
    if isLeapYear year then 29 else 28
  else if month = 4 ∨ month = 6 ∨ month = 9 ∨ month = 11 then 30
  else 31

/-- Reads a date. -/
def readDate? : List Char → Written
  | a :: b :: c :: d :: '-' :: e :: f :: '-' :: g :: h :: rest =>
      let year := [a, b, c, d]
      let month := [e, f]
      let days := daysOfMonth (valueIn 10 year) (valueIn 10 month)
      if inRange 0 9999 year && inRange 1 12 month && inRange 1 days [g, h] then
        some ([a, b, c, d, '-', e, f, '-', g, h], rest)
      else
        none
  | _ => none

/-- A text without the zeros at its end. -/
def dropLastZeros (digits : List Char) : List Char :=
  (digits.reverse.dropWhile (· == '0')).reverse

/-- Reads the fraction of a second, of which nine digits count. -/
def readFraction? : List Char → Written
  | '.' :: rest =>
      let digits := rest.takeWhile (isDigitOf 10)
      let after := rest.drop digits.length
      if digits.isEmpty then none
      else
        match dropLastZeros (digits.take 9) with
        | [] => some (['.', '0'], after)
        | kept => some ('.' :: kept, after)
  | rest => some ([], rest)

/-- Reads the seconds of a time with their fraction; they may be missing. -/
def readSeconds? : List Char → Written
  | ':' :: a :: b :: rest =>
      if inRange 0 60 [a, b] then
        (readFraction? rest).map fun (fraction, after) =>
          (':' :: a :: b :: fraction, after)
      else
        none
  | ':' :: _ => none
  | rest => some ([], rest)

/-- Reads a time of day. -/
def readTime? : List Char → Written
  | a :: b :: ':' :: c :: d :: rest =>
      if inRange 0 23 [a, b] && inRange 0 59 [c, d] then
        (readSeconds? rest).map fun (seconds, after) =>
          ([a, b, ':', c, d] ++ seconds, after)
      else
        none
  | _ => none

/-- Reads an offset; no offset at all is fine. -/
def readOffset? : List Char → Written
  | [] => some ([], [])
  | 'Z' :: rest | 'z' :: rest => some (['Z'], rest)
  | sign :: a :: b :: ':' :: c :: d :: rest =>
      if (sign == '+' || sign == '-') && inRange 0 23 [a, b] &&
          inRange 0 59 [c, d] then
        let zero := valueIn 10 [a, b, c, d] == 0
        some ([if zero then '+' else sign, a, b, ':', c, d], rest)
      else
        none
  | _ => none

/-- Whether a character may stand between a date and a time. -/
def isDateTimeMark (c : Char) : Bool :=
  c == 'T' || c == 't' || c == ' '

/-- Reads a date, a time, or both, that make up a whole text. -/
def readDateTime? (cs : List Char) : Option Setting := do
  let (written, rest) ←
    match readDate? cs with
    | none => readTime? cs
    | some (date, []) => some (date, [])
    | some (date, mark :: after) =>
        if isDateTimeMark mark then do
          let (time, behind) ← readTime? after
          let (offset, rest) ← readOffset? behind
          pure (date ++ 'T' :: time ++ offset, rest)
        else
          none
  if rest.isEmpty then
    pure (.text (String.ofList written))
  else
    none

end Toml
end ScriptHub
