import ScriptHub.Json.Basic

/-!
# Reading JSON texts

The reader is strict: it takes exactly the texts of the JSON grammar, with
blanks before and after the value and nothing else around it.  Control
characters inside strings must be escaped, and numbers have no leading zeros.
-/

namespace ScriptHub
namespace Json

/-- The four blank characters of JSON. -/
def isSpace (c : Char) : Bool :=
  c == ' ' || c == '\n' || c == '\t' || c == '\r'

/-- The text without the blanks at its start. -/
def skipSpace (cs : List Char) : List Char :=
  cs.dropWhile isSpace

/-- The value of a hexadecimal digit. -/
def hexValue? (c : Char) : Option Nat :=
  if '0' ≤ c ∧ c ≤ '9' then some (c.toNat - '0'.toNat)
  else if 'a' ≤ c ∧ c ≤ 'f' then some (c.toNat - 'a'.toNat + 10)
  else if 'A' ≤ c ∧ c ≤ 'F' then some (c.toNat - 'A'.toNat + 10)
  else none

/-- The code unit written by four hexadecimal digits. -/
def unitOf? (a b c d : Char) : Option Nat := do
  let a ← hexValue? a
  let b ← hexValue? b
  let c ← hexValue? c
  let d ← hexValue? d
  pure (((a * 16 + b) * 16 + c) * 16 + d)

/-- The character behind a one-letter escape. -/
def escaped? : Char → Option Char
  | '"' => some '"'
  | '\\' => some '\\'
  | '/' => some '/'
  | 'b' => some '\x08'
  | 'f' => some '\x0c'
  | 'n' => some '\n'
  | 'r' => some '\r'
  | 't' => some '\t'
  | _ => none

/--
Reads a string behind its opening quote.  The answer is the code points that it
stands for, latest first, where halves of surrogate pairs count singly.
-/
def readUnits
    (units : List Nat) :
    List Char → Option (List Nat × List Char)
  | [] => none
  | '"' :: rest => some (units, rest)
  | '\\' :: 'u' :: a :: b :: c :: d :: rest =>
      match unitOf? a b c d with
      | some unit => readUnits (unit :: units) rest
      | none => none
  | '\\' :: c :: rest =>
      match escaped? c with
      | some unit => readUnits (unit.toNat :: units) rest
      | none => none
  | c :: rest =>
      if c.toNat < 0x20 then none
      else if c = '\\' then none
      else readUnits (c.toNat :: units) rest

/-- Whether a code unit is the first half of a surrogate pair. -/
def isHighHalf (unit : Nat) : Bool :=
  decide (0xD800 ≤ unit) && decide (unit ≤ 0xDBFF)

/-- Whether a code unit is the second half of a surrogate pair. -/
def isLowHalf (unit : Nat) : Bool :=
  decide (0xDC00 ≤ unit) && decide (unit ≤ 0xDFFF)

/--
Joins surrogate pairs, given code points latest first; there is no answer when
a half is left over.
-/
def joinUnits
    (text : List Char) :
    List Nat → Option (List Char)
  | [] => some text
  | low :: high :: rest =>
      if isLowHalf low then
        if isHighHalf high then
          joinUnits
            (Char.ofNat (0x10000 + (high - 0xD800) * 0x400 + (low - 0xDC00)) ::
              text)
            rest
        else none
      else if isHighHalf low then none
      else joinUnits (Char.ofNat low :: text) (high :: rest)
  | [last] =>
      if isLowHalf last || isHighHalf last then none
      else some (Char.ofNat last :: text)

/-- Reads a string behind its opening quote. -/
def readString (cs : List Char) : Option (Option String × List Char) :=
  match readUnits [] cs with
  | some (units, rest) => some ((joinUnits [] units).map String.ofList, rest)
  | none => none

/-- Whether a character is an ASCII digit. -/
def isDigit (c : Char) : Bool :=
  decide ('0' ≤ c) && decide (c ≤ '9')

/-- The number that digits write. -/
def digitsValue (digits : List Char) : Nat :=
  digits.foldl (fun value c => value * 10 + (c.toNat - '0'.toNat)) 0

/-- Splits off the digits at the start. -/
def spanDigits (cs : List Char) : List Char × List Char :=
  (cs.takeWhile isDigit, cs.dropWhile isDigit)

/-- Reads the fraction of a number: nothing, or a point and digits. -/
def readFraction : List Char → Option (Option (List Char) × List Char)
  | '.' :: rest =>
      match spanDigits rest with
      | ([], _) => none
      | (digits, after) => some (some digits, after)
  | cs => some (none, cs)

/-- Reads the digits of an exponent, given its sign. -/
def readExponentDigits
    (negative : Bool)
    (cs : List Char) :
    Option (Option Int × List Char) :=
  match spanDigits cs with
  | ([], _) => none
  | (digits, after) =>
      let value : Int := digitsValue digits
      some (some (if negative then -value else value), after)

/-- Reads the exponent of a number: nothing, or the letter e and an integer. -/
def readExponent : List Char → Option (Option Int × List Char)
  | c :: rest =>
      if c = 'e' ∨ c = 'E' then
        match rest with
        | '+' :: after => readExponentDigits false after
        | '-' :: after => readExponentDigits true after
        | _ => readExponentDigits false rest
      else
        some (none, c :: rest)
  | [] => some (none, [])

/-- Reads the digits before the point: a zero alone, or no zero first. -/
def readWhole (cs : List Char) : Option (List Char × List Char) :=
  match spanDigits cs with
  | ([], _) => none
  | ('0' :: _ :: _, _) => none
  | (digits, after) => some (digits, after)

/-- Reads a number behind its sign. -/
def readUnsigned
    (negative : Bool)
    (cs : List Char) :
    Option (Numeral × List Char) := do
  let (whole, cs) ← readWhole cs
  let (fraction, cs) ← readFraction cs
  let (exponent, cs) ← readExponent cs
  match fraction, exponent with
  | none, none => pure (.integer negative (digitsValue whole), cs)
  | _, _ =>
      pure
        (.decimal negative whole (fraction.getD []) (exponent.getD 0), cs)

/-- Reads a number. -/
def readNumeral : List Char → Option (Numeral × List Char)
  | '-' :: cs => readUnsigned true cs
  | cs => readUnsigned false cs

/-- The text behind a word that it starts with. -/
def afterWord? : List Char → List Char → Option (List Char)
  | [], cs => some cs
  | w :: ws, c :: cs => if w = c then afterWord? ws cs else none
  | _ :: _, [] => none

mutual

/--
Reads a value at the very start of a text.  The fuel bounds the number of
values and separators to be read.
-/
def readValue : Nat → List Char → Option (Json × List Char)
  | 0, _ => none
  | fuel + 1, cs =>
      match cs with
      | [] => none
      | '"' :: rest =>
          match readString rest with
          | some (some value, after) => some (.text value, after)
          | some (none, after) => some (.unpaired, after)
          | none => none
      | '[' :: rest =>
          match skipSpace rest with
          | ']' :: after => some (.array [], after)
          | items => readItems fuel [] items
      | '\x7b' :: rest =>
          match skipSpace rest with
          | '\x7d' :: after => some (.object [], after)
          | members => readMembers fuel true [] members
      | 't' :: rest =>
          (afterWord? ['r', 'u', 'e'] rest).map fun after =>
            (.bool true, after)
      | 'f' :: rest =>
          (afterWord? ['a', 'l', 's', 'e'] rest).map fun after =>
            (.bool false, after)
      | 'n' :: rest =>
          (afterWord? ['u', 'l', 'l'] rest).map fun after => (.null, after)
      | _ =>
          (readNumeral cs).map fun (numeral, after) => (.number numeral, after)

/-- Reads items up to the closing bracket, given the earlier ones latest first. -/
def readItems : Nat → List Json → List Char → Option (Json × List Char)
  | 0, _, _ => none
  | fuel + 1, items, cs =>
      match readValue fuel cs with
      | none => none
      | some (item, after) =>
          match skipSpace after with
          | ',' :: rest => readItems fuel (item :: items) (skipSpace rest)
          | ']' :: rest => some (.array (item :: items).reverse, rest)
          | _ => none

/--
Reads members up to the closing brace, given the earlier ones latest first and
whether every name so far is a text.
-/
def readMembers :
    Nat →
    (named : Bool) →
    List (String × Json) →
    List Char →
    Option (Json × List Char)
  | 0, _, _, _ => none
  | fuel + 1, named, members, cs =>
      match cs with
      | '"' :: rest =>
          match readString rest with
          | none => none
          | some (name, after) =>
              match skipSpace after with
              | ':' :: body =>
                  match readValue fuel (skipSpace body) with
                  | none => none
                  | some (value, behind) =>
                      let named := named && name.isSome
                      let members := (name.getD "", value) :: members
                      match skipSpace behind with
                      | ',' :: rest =>
                          readMembers fuel named members (skipSpace rest)
                      | '\x7d' :: rest =>
                          some
                            (if named then .object members.reverse else .unpaired,
                              rest)
                      | _ => none
              | _ => none
      | _ => none

end

/-- Reads a JSON text. -/
def read? (text : String) : Option Json :=
  let cs := skipSpace text.toList
  match readValue (2 * cs.length + 2) cs with
  | some (json, rest) =>
      match skipSpace rest with
      | [] => some json
      | _ :: _ => none
  | none => none

end Json
end ScriptHub
