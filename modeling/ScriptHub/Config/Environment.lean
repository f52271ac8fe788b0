import ScriptHub.Config.Path

/-!
# Settings from environment variables

A variable counts when its lower-cased name starts with the mark of the hub; the
rest of the name is a path whose steps are separated by two underscores.  The
text of a variable is taken as a flag, an integer or a number where it reads as
one, and as a text otherwise.
-/

namespace ScriptHub
namespace Environment

/-- What the lower-cased name of a variable starts with if it counts. -/
def mark : List Char := "hubhook__".toList

/-- The text behind a start, if the text starts so. -/
def behind? : List Char → List Char → Option (List Char)
  | [], cs => some cs
  | w :: ws, c :: cs => if w = c then behind? ws cs else none
  | _ :: _, [] => none

/-- A text with a dot in the place of every two underscores. -/
def dotted : List Char → List Char
  | '_' :: '_' :: rest => '.' :: dotted rest
  | c :: rest => c :: dotted rest
  | [] => []

/-- The path that the name of a variable stands for, if the variable counts. -/
def pathOf? (name : String) : Option (List Setting.Step) :=
  (behind? mark (Text.lower name.toList)).map fun rest =>
    Setting.pathOf (dotted rest)

/-- The value that the text of a variable stands for. -/
def valueOf (text : String) : Setting :=
  let word := Setting.lowered text
  if word = "true" then .flag true
  else if word = "false" then .flag false
  else
    match Decimal.readInt64 text.toList with
    | .ok value => .integer value
    | .error _ =>
        match Double.read? text.toList with
        | some value => .real value
        | none => .text text

/-- Lays a variable over a value, if the variable counts. -/
def overlay
    (lower : Setting)
    (entry : String × String) :
    Setting :=
  match pathOf? entry.1 with
  | some path => (valueOf entry.2).layAt path lower
  | none => lower

/-- Lays variables over a value, one after the other. -/
def overlayAll
    (lower : Setting)
    (entries : List (String × String)) :
    Setting :=
  entries.foldl overlay lower

end Environment
end ScriptHub
