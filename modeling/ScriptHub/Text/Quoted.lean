import ScriptHub.Text.Blank
import ScriptHub.Text.Quoted.Table

/-!
# Quoted texts, as log records and descriptions show them

A text is written between double quotes.  Quotes and backslashes get a backslash
in front, the common control characters have letters of their own, and a
character that cannot be seen is shown by its code.
-/

namespace ScriptHub
namespace Text

/-- A hexadecimal code in braces, as it follows a backslash and the letter u. -/
def bracedCode (code : Nat) : List Char :=
  '\x7b' :: Nat.toDigits 16 code ++ ['\x7d']

/-- The quoted form of one character. -/
def quoteChar (c : Char) : List Char :=
  if c = '\x00' then ['\\', '0']
  else if c = '\t' then ['\\', 't']
  else if c = '\r' then ['\\', 'r']
  else if c = '\n' then ['\\', 'n']
  else if c = '\\' then ['\\', '\\']
  else if c = '"' then ['\\', '"']
  else if inRanges hiddenRanges c.toNat then
    '\\' :: 'u' :: bracedCode c.toNat
  else [c]

/-- The quoted form of a text. -/
def quote (s : String) : String :=
  String.ofList ('"' :: s.toList.flatMap quoteChar ++ ['"'])

end Text
end ScriptHub
