import ScriptHub.Json.Reader
import ScriptHub.Toml.Basic

/-!
# Strings of TOML texts

Strings stand between double quotes, with escapes, or between single quotes,
without.  Three quotes on each side allow line ends inside; a line end right
behind the opening quotes is dropped, and every other one is kept as it is.
-/

namespace ScriptHub
namespace Toml

/-- The number that hexadecimal digits write. -/
def hexNumber? (digits : List Char) : Option Nat :=
  digits.foldl
    (fun value c => do pure ((← value) * 16 + (← Json.hexValue? c)))
    (some 0)

/-- The character with a code, if the code belongs to one. -/
def charOf? (code : Nat) : Option Char :=
  if h : code.isValidChar then some (Char.ofNatAux code h) else none

/-- The character behind a one-letter escape. -/
def escaped? : Char → Option Char
  | 'b' => some '\x08'
  | 'e' => some '\x1b'
  | 't' => some '\t'
  | 'n' => some '\n'
  | 'f' => some '\x0c'
  | 'r' => some '\r'
  | '"' => some '"'
  | '\\' => some '\\'
  | _ => none

/-- Reads an escape behind its backslash. -/
def readEscape? : List Char → Option (Char × List Char)
  | 'x' :: a :: b :: rest => do
      pure (← charOf? (← hexNumber? [a, b]), rest)
  | 'u' :: a :: b :: c :: d :: rest => do
      pure (← charOf? (← hexNumber? [a, b, c, d]), rest)
  | 'U' :: a :: b :: c :: d :: e :: f :: g :: h :: rest => do
      pure (← charOf? (← hexNumber? [a, b, c, d, e, f, g, h]), rest)
  | c :: rest => (escaped? c).map fun c => (c, rest)
  | [] => none

/-- The blanks and line ends that a backslash at the end of a line skips. -/
def skipBroken : List Char → List Char
  | '\r' :: '\n' :: rest => skipBroken rest
  | c :: rest => if isSpace c || c == '\n' then skipBroken rest else c :: rest
  | [] => []

/-- The text behind a line break that a backslash hides. -/
def afterHiddenBreak? (cs : List Char) : Option (List Char) :=
  (afterLineEnd? (skipSpace cs)).map skipBroken

/-- A string that was read: its characters and the rest of the text. -/
abbrev Reading := Option (List Char × List Char)

/--
Reads a string with escapes behind its opening quote, given the characters read
so far, latest first.
-/
def readBasic :
    Nat → List Char → List Char → Reading
  | 0, _, _ => none
  | _ + 1, _, [] => none
  | _ + 1, seen, '"' :: rest => some (seen.reverse, rest)
  | fuel + 1, seen, '\\' :: rest =>
      match readEscape? rest with
      | some (c, after) => readBasic fuel (c :: seen) after
      | none => none
  | fuel + 1, seen, c :: rest =>
      if isPlainChar c then readBasic fuel (c :: seen) rest else none

/-- Reads a string without escapes behind its opening quote. -/
def readLiteral (cs : List Char) : Reading :=
  let body := cs.takeWhile fun c => isPlainChar c && c != '\''
  match cs.drop body.length with
  | '\'' :: rest => some (body, rest)
  | _ => none

/--
The quotes that close a string of several lines, with up to two quotes in front
of them that belong to the string.
-/
def closing? (quote : Char) (cs : List Char) : Option (Nat × List Char) :=
  let run := (cs.takeWhile (· == quote)).length
  if run < 3 then none
  else
    let inside := min (run - 3) 2
    some (inside, cs.drop (inside + 3))

/--
Reads a string of several lines behind its opening quotes, given the characters
read so far, latest first.
-/
def readBlock
    (quote : Char)
    (escapes : Bool) :
    Nat → List Char → List Char → Reading
  | 0, _, _ => none
  | _ + 1, _, [] => none
  | fuel + 1, seen, '\r' :: '\n' :: rest =>
      readBlock quote escapes fuel ('\n' :: '\r' :: seen) rest
  | fuel + 1, seen, c :: rest =>
      match closing? quote (c :: rest) with
      | some (inside, after) =>
          some ((List.replicate inside quote ++ seen).reverse, after)
      | none =>
          if escapes && c == '\\' then
            match afterHiddenBreak? rest with
            | some after => readBlock quote escapes fuel seen after
            | none =>
                match readEscape? rest with
                | some (c, after) =>
                    readBlock quote escapes fuel (c :: seen) after
                | none => none
          else if isPlainChar c || c == '\n' then
            readBlock quote escapes fuel (c :: seen) rest
          else
            none

/-- Reads a string of several lines; a line end at its start is dropped. -/
def readLines
    (quote : Char)
    (escapes : Bool)
    (cs : List Char) :
    Reading :=
  readBlock quote escapes (cs.length + 1) [] ((afterLineEnd? cs).getD cs)

/-- Reads a string of one line. -/
def readLine? : List Char → Reading
  | '"' :: rest => readBasic (rest.length + 1) [] rest
  | '\'' :: rest => readLiteral rest
  | _ => none

/-- Reads any string. -/
def readText? : List Char → Reading
  | '"' :: '"' :: '"' :: rest => readLines '"' true rest
  | '\'' :: '\'' :: '\'' :: rest => readLines '\'' false rest
  | cs => readLine? cs

end Toml
end ScriptHub
