import ScriptHub.Json.Basic

/-!
# Writing JSON values

There are two forms: one without any blank, and one that puts every item and
every member on a line of its own, indented by two blanks per level.  In both,
an array or object without content is written as its two brackets.
-/

namespace ScriptHub

namespace Numeral

/-- A minus sign for a negative number. -/
def sign (negative : Bool) : String :=
  if negative then "-" else ""

/-- The text of a number. -/
def write : Numeral → String
  | integer negative magnitude => sign negative ++ toString magnitude
  | decimal negative whole places exponent =>
      let point := if places.isEmpty then "" else "."
      sign negative ++ String.ofList whole ++ point ++ String.ofList places ++
        "e" ++ toString exponent

end Numeral

namespace Json

/-- The hexadecimal digit of a value below sixteen. -/
def hexDigit (value : Nat) : Char :=
  if value < 10 then Char.ofNat ('0'.toNat + value)
  else Char.ofNat ('a'.toNat + (value - 10))

/-- The written form of one character of a string. -/
def writeChar (c : Char) : List Char :=
  if c = '"' then ['\\', '"']
  else if c = '\\' then ['\\', '\\']
  else if c = '\n' then ['\\', 'n']
  else if c = '\r' then ['\\', 'r']
  else if c = '\t' then ['\\', 't']
  else if c = '\x08' then ['\\', 'b']
  else if c = '\x0c' then ['\\', 'f']
  else if c.toNat < 0x20 then
    ['\\', 'u', '0', '0', hexDigit (c.toNat / 16), hexDigit (c.toNat % 16)]
  else [c]

/-- The written form of a string. -/
def writeText (value : String) : String :=
  String.ofList ('"' :: value.toList.flatMap writeChar ++ ['"'])

/-- A line break and the blanks of a level, in the form with lines. -/
def lineBreak : Option Nat → String
  | none => ""
  | some level => "\n" ++ String.ofList (List.replicate (2 * level) ' ')

/-- The text between the name and the value of a member. -/
def colon : Option Nat → String
  | none => ":"
  | some _ => ": "

mutual

/-- Writes a value; with a level, in the form with lines. -/
def writeAt : Option Nat → Json → String
  | _, .null => "null"
  | _, .bool true => "true"
  | _, .bool false => "false"
  | _, .number numeral => numeral.write
  | _, .text value => writeText value
  | _, .unpaired => "null"
  | _, .array [] => "[]"
  | level, .array (item :: rest) =>
      "[" ++ lineBreak (level.map (· + 1)) ++
        writeAt (level.map (· + 1)) item ++
        writeItems (level.map (· + 1)) rest ++ lineBreak level ++ "]"
  | _, .object [] => "\x7b\x7d"
  | level, .object (member :: rest) =>
      "\x7b" ++ lineBreak (level.map (· + 1)) ++
        writeMember (level.map (· + 1)) member ++
        writeMembers (level.map (· + 1)) rest ++ lineBreak level ++ "\x7d"
termination_by structural _ json => json

/-- Writes the items behind the first one. -/
def writeItems : Option Nat → List Json → String
  | _, [] => ""
  | level, item :: rest =>
      "," ++ lineBreak level ++ writeAt level item ++ writeItems level rest
termination_by structural _ items => items

/-- Writes the members behind the first one. -/
def writeMembers : Option Nat → List (String × Json) → String
  | _, [] => ""
  | level, member :: rest =>
      "," ++ lineBreak level ++ writeMember level member ++
        writeMembers level rest
termination_by structural _ members => members

/-- Writes one member. -/
def writeMember : Option Nat → String × Json → String
  | level, (name, value) => writeText name ++ colon level ++ writeAt level value
termination_by structural _ member => member

end

/-- The form without blanks. -/
def write (json : Json) : String :=
  json.writeAt none

/-- The form with lines. -/
def writeLines (json : Json) : String :=
  json.writeAt (some 0)

end Json
end ScriptHub
