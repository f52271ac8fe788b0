import ScriptHub.Toml.Value

/-!
# Reading TOML texts

A text is a sequence of statements, one on each line: headers of tables, headers
of tables of an array, and keys with values.  Lines may be blank or hold only a
comment.  The answer is the table of the whole text.
-/

namespace ScriptHub
namespace Toml

/-- A key as the path of a table and the name of a last step. -/
def splitLast? : List String → Option (List String × String)
  | [] => none
  | [name] => some ([], name)
  | name :: next :: rest =>
      (splitLast? (next :: rest)).map fun (path, last) => (name :: path, last)

/-- Reads the path of a header, up to its closing brackets. -/
def readHeader?
    (closing : List Char)
    (make : List String → String → Statement)
    (cs : List Char) :
    Option (Statement × List Char) :=
  match readKey? nestingLimit (skipSpace cs) with
  | none => none
  | some (key, after) =>
      match splitLast? key, closing.isPrefixOf after with
      | some (path, name), true =>
          some (make path name, after.drop closing.length)
      | _, _ => none

/-- Reads a statement, without the rest of its line. -/
def readStatement? : List Char → Option (Statement × List Char)
  | '[' :: '[' :: rest => readHeader? [']', ']'] .itemHeader rest
  | '[' :: rest => readHeader? [']'] .header rest
  | cs =>
      match readKey? nestingLimit cs with
      | some (key, '=' :: body) =>
          (readValue? (3 * body.length + 3) nestingLimit (skipSpace body)).map
            fun (value, after) => (.assignment key value, after)
      | _ => none

/-- Reads statements up to the end.  The fuel bounds their number. -/
def readStatements? : Nat → List Char → Option (List Statement)
  | 0, _ => none
  | fuel + 1, cs =>
      match skipAll? cs with
      | none => none
      | some [] => some []
      | some body =>
          match readStatement? body with
          | none => none
          | some (statement, after) =>
              (finishLine? after).bind fun next =>
                (readStatements? fuel next).map (statement :: ·)

/-- A text without the mark of its byte order. -/
def dropByteOrderMark : List Char → List Char
  | '\uFEFF' :: rest => rest
  | cs => cs

/-- Reads a text. -/
def read? (text : String) : Option Setting :=
  let cs := dropByteOrderMark text.toList
  match readStatements? (cs.length + 1) cs with
  | none => none
  | some statements => (({} : Tree).addAll? statements).map Tree.close

end Toml
end ScriptHub
