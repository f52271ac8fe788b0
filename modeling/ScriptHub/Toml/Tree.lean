import ScriptHub.Config.Setting
import ScriptHub.Named

/-!
# The tables of a TOML text while it is read

A table is implied by the header of a table inside it, has a header of its own,
or comes from a dotted key; an array of tables grows by headers.  What may still
be added where depends on how a table came about: a header opens a table at most
once, and only if no dotted key made it or led through it; a dotted key adds to
no table that has a header of its own.
-/

namespace ScriptHub
namespace Toml

/--
How a table came about: from the header of a table inside it, from its own header, or
from a dotted key that ends in it or leads through it.
-/
inductive Origin
  | implied
  | headed
  | dotted
  deriving DecidableEq

/--
A value of a TOML text, a table that is still open, or an array of tables: the complete
ones and the members of the last one.
-/
inductive Node
  | value (value : Setting)
  | table (origin : Origin) (members : List (String × Node))
  | tables (earlier : List Setting) (members : List (String × Node))

namespace Node

mutual

/-- The value of a node once the text is read. -/
def close : Node → Setting
  | value setting => setting
  | table _ members => .table (closeAll members)
  | tables earlier members => .list (earlier ++ [.table (closeAll members)])

/-- The values of members once the text is read. -/
def closeAll : List (String × Node) → List (String × Setting)
  | [] => []
  | member :: rest => closeMember member :: closeAll rest

/-- The value of a member once the text is read. -/
def closeMember : String × Node → String × Setting
  | (name, node) => (name, close node)

end

/--
Changes the table at the end of a path of a header, which leads through tables
of every origin and through the last tables of arrays.
-/
def changeAt?
    (change : Named Node → Option (Named Node)) :
    List String → Named Node → Option (Named Node)
  | [], members => change members
  | name :: rest, members =>
      match members.value? name with
      | none =>
          (changeAt? change rest []).map fun inner =>
            members.put name (table .implied inner)
      | some (table origin inner) =>
          (changeAt? change rest inner).map fun inner =>
            members.put name (table origin inner)
      | some (tables earlier inner) =>
          (changeAt? change rest inner).map fun inner =>
            members.put name (tables earlier inner)
      | some (value _) => none

/-- Opens a table by its header, unless it is complete. -/
def openTable? (name : String) (members : Named Node) : Option (Named Node) :=
  match members.value? name with
  | none => some (members.put name (table .headed []))
  | some (table .implied inner) => some (members.put name (table .headed inner))
  | some _ => none

/-- Opens a further table of an array by its header. -/
def openItem? (name : String) (members : Named Node) : Option (Named Node) :=
  match members.value? name with
  | none => some (members.put name (tables [] []))
  | some (tables earlier inner) =>
      some
        (members.put name (tables (earlier ++ [.table (closeAll inner)]) []))
  | some _ => none

/--
Adds a value under a key.  A dotted key leads through implied tables, tables of
other dotted keys and the last tables of arrays, but its value goes into no table
of an array.  The tables it leads through count as made by it, so that no header
opens them later.
-/
def assign?
    (setting : Setting) :
    List String → Named Node → Option (Named Node)
  | [], _ => none
  | [name], members =>
      match members.value? name with
      | none => some (members.put name (value setting))
      | some _ => none
  | name :: next :: rest, members =>
      match members.value? name with
      | none =>
          (assign? setting (next :: rest) []).map fun inner =>
            members.put name (table .dotted inner)
      | some (table origin inner) =>
          if origin = .headed then
            none
          else
            (assign? setting (next :: rest) inner).map fun inner =>
              members.put name (table .dotted inner)
      | some (tables earlier inner) =>
          if rest = [] then
            none
          else
            (assign? setting (next :: rest) inner).map fun inner =>
              members.put name (tables earlier inner)
      | some (value _) => none

end Node

/--
A statement of a TOML text: the header of a table or of a further table of an array, or
a key and its value.
-/
inductive Statement
  | header (path : List String) (name : String)
  | itemHeader (path : List String) (name : String)
  | assignment (key : List String) (value : Setting)

/-- The tables so far, and the path of the open one. -/
structure Tree where
  root : Named Node := []
  path : List String := []

namespace Tree

/-- Carries out a statement. -/
def add? (tree : Tree) : Statement → Option Tree
  | .header path name =>
      (Node.changeAt? (Node.openTable? name) path tree.root).map fun root =>
        { root, path := path ++ [name] }
  | .itemHeader path name =>
      (Node.changeAt? (Node.openItem? name) path tree.root).map fun root =>
        { root, path := path ++ [name] }
  | .assignment key value =>
      (Node.changeAt? (Node.assign? value key) tree.path tree.root).map
        fun root => { tree with root }

/-- Carries out statements in order. -/
def addAll? (tree : Tree) : List Statement → Option Tree
  | [] => some tree
  | statement :: rest => (tree.add? statement).bind fun next => next.addAll? rest

/-- The value of the whole text. -/
def close (tree : Tree) : Setting :=
  .table (Node.closeAll tree.root)

end Tree

end Toml
end ScriptHub
