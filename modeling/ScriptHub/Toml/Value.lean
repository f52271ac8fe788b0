import ScriptHub.Toml.DateTime
import ScriptHub.Toml.Text
import ScriptHub.Toml.Tree

/-!
# Keys and values of TOML texts

A key is a sequence of names separated by dots.  A value is a string, a flag, a
number, a date or time, an array, or a table in braces.  Between the parts of an
array or of a table in braces there may be line ends and comments, and a comma
may follow the last part.
-/

namespace ScriptHub
namespace Toml

/-- Whether a character may stand in a name without quotes. -/
def isBareChar (c : Char) : Bool :=
  c.isAlphanum || c == '_' || c == '-'

/-- Reads a name of a key. -/
def readName? (cs : List Char) : Option (String × List Char) :=
  let bare := cs.takeWhile isBareChar
  if bare.isEmpty then
    (readLine? cs).map fun (name, rest) => (String.ofList name, rest)
  else
    some (String.ofList bare, cs.drop bare.length)

/-- How many names a key may have, and how deeply values may be nested. -/
def nestingLimit : Nat := 80

/--
Reads a key of at most so many names.  The answer holds the text behind the key
and the blanks that follow it.
-/
def readKey? : Nat → List Char → Option (List String × List Char)
  | 0, _ => none
  | fuel + 1, cs =>
      match readName? cs with
      | none => none
      | some (name, rest) =>
          match skipSpace rest with
          | '.' :: more =>
              (readKey? fuel (skipSpace more)).map fun (names, after) =>
                (name :: names, after)
          | after => some ([name], after)

/-- Whether a character ends a value that stands without quotes. -/
def endsScalar (c : Char) : Bool :=
  isSpace c || c == '\n' || c == '\r' || c == ',' || c == ']' ||
    c == '\x7d' || c == '#'

/--
How much of a text belongs to a value without quotes.  A blank between a date
and a time belongs to the value.
-/
def scalarLength (cs : List Char) : Nat :=
  let first := cs.takeWhile fun c => !endsScalar c
  match cs.drop first.length with
  | ' ' :: rest =>
      let second := rest.takeWhile fun c => !endsScalar c
      if (readDate? first).any (fun read => read.2.isEmpty) &&
          second.head?.any (isDigitOf 10) then
        first.length + 1 + second.length
      else
        first.length
  | _ => first.length

/-- The flag, number, date or time that makes up a text. -/
def scalar? (cs : List Char) : Option Setting :=
  if cs = "true".toList then some (.flag true)
  else if cs = "false".toList then some (.flag false)
  else
    match readNumber? cs with
    | some setting => some setting
    | none => readDateTime? cs

mutual

/--
Reads a value that may be nested so deeply.  The fuel bounds the number of
characters that are left.
-/
def readValue? :
    Nat → (room : Nat) → List Char → Option (Setting × List Char)
  | 0, _, _ => none
  | fuel + 1, room, cs =>
      match cs, room with
      | '"' :: _, _ | '\'' :: _, _ =>
          (readText? cs).map fun (text, rest) =>
            (.text (String.ofList text), rest)
      | '[' :: _, 0 | '\x7b' :: _, 0 => none
      | '[' :: rest, room + 1 => readItems? fuel room [] rest
      | '\x7b' :: rest, room + 1 => readMembers? fuel room [] rest
      | _, _ =>
          let length := scalarLength cs
          (scalar? (cs.take length)).map fun setting =>
            (setting, cs.drop length)

/-- Reads the items of an array, given the earlier ones latest first. -/
def readItems? :
    Nat →
    (room : Nat) →
    List Setting →
    List Char →
    Option (Setting × List Char)
  | 0, _, _, _ => none
  | fuel + 1, room, items, cs =>
      match skipAll? cs with
      | none => none
      | some (']' :: rest) => some (.list items.reverse, rest)
      | some body =>
          match readValue? fuel room body with
          | none => none
          | some (item, behind) =>
              match skipAll? behind with
              | some (',' :: rest) => readItems? fuel room (item :: items) rest
              | some (']' :: rest) => some (.list (item :: items).reverse, rest)
              | _ => none

/-- Reads the members of a table in braces, given the earlier ones. -/
def readMembers? :
    Nat →
    (room : Nat) →
    Named Node →
    List Char →
    Option (Setting × List Char)
  | 0, _, _, _ => none
  | fuel + 1, room, members, cs =>
      match skipAll? cs with
      | none => none
      | some ('\x7d' :: rest) => some (.table (Node.closeAll members), rest)
      | some body =>
          match readAssignment? fuel room body with
          | none => none
          | some (key, setting, behind) =>
              match Node.assign? setting key members, skipAll? behind with
              | some members, some (',' :: rest) =>
                  readMembers? fuel room members rest
              | some members, some ('\x7d' :: rest) =>
                  some (.table (Node.closeAll members), rest)
              | _, _ => none

/-- Reads a key and its value inside braces. -/
def readAssignment? :
    Nat →
    (room : Nat) →
    List Char →
    Option (List String × Setting × List Char)
  | 0, _, _ => none
  | fuel + 1, room, cs =>
      match readKey? nestingLimit cs with
      | none => none
      | some (key, behind) =>
          match skipAll? behind with
          | some ('=' :: rest) =>
              match skipAll? rest with
              | none => none
              | some body =>
                  (readValue? fuel room body).map fun (setting, after) =>
                    (key, setting, after)
          | _ => none

end

end Toml
end ScriptHub
