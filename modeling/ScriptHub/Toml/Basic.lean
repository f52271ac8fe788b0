/-!
# Blanks, line ends and comments of TOML texts

Every reader takes a text and answers, if it succeeds, what it read and the rest
of the text.
-/

namespace ScriptHub
namespace Toml

/-- The two blank characters inside a line. -/
def isSpace (c : Char) : Bool :=
  c == ' ' || c == '\t'

/-- The text without the blanks at its start. -/
def skipSpace (cs : List Char) : List Char :=
  cs.dropWhile isSpace

/-- Whether a character may stand in a comment or a literal string. -/
def isPlainChar (c : Char) : Bool :=
  c == '\t' || (decide (0x20 ≤ c.toNat) && c.toNat != 0x7F)

/-- The text behind a line end. -/
def afterLineEnd? : List Char → Option (List Char)
  | '\n' :: rest => some rest
  | '\r' :: '\n' :: rest => some rest
  | _ => none

/-- Skips a comment, if one starts here. -/
def skipComment : List Char → List Char
  | '#' :: rest => rest.dropWhile isPlainChar
  | cs => cs

/--
The text behind the rest of a line that holds only blanks and a comment.  The
end of the text counts as the end of the line.
-/
def finishLine? (cs : List Char) : Option (List Char) :=
  match skipComment (skipSpace cs) with
  | [] => some []
  | rest => afterLineEnd? rest

/--
Skips blanks, comments and line ends.  The fuel bounds the number of lines; there
is no answer if a comment holds a character that it must not.
-/
def skipLines? : Nat → List Char → Option (List Char)
  | 0, _ => none
  | fuel + 1, cs =>
      match skipSpace cs with
      | '#' :: rest =>
          match skipComment ('#' :: rest) with
          | [] => some []
          | after =>
              match afterLineEnd? after with
              | some next => skipLines? fuel next
              | none => none
      | rest =>
          match afterLineEnd? rest with
          | some next => skipLines? fuel next
          | none => some rest

/-- Skips blanks, comments and line ends. -/
def skipAll? (cs : List Char) : Option (List Char) :=
  skipLines? (cs.length + 1) cs

end Toml
end ScriptHub
