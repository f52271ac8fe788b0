import ScriptHub.Json.Basic
import ScriptHub.Verdict

/-!
# Verdicts as JSON values

A verdict is written as its word.  It is read from its word, and also from the
object whose only member has the word as its name and null as its value.
-/

namespace ScriptHub
namespace Verdict

/-- The verdict with the given word. -/
def ofName? (text : String) : Option Verdict :=
  if text = "allow" then some allow
  else if text = "block" then some block
  else none

/-- The JSON value of a verdict. -/
def toJson (verdict : Verdict) : Json :=
  .text verdict.name

/-- Reads a verdict. -/
def ofJson? (json : Json) : Option Verdict :=
  json.asWord?.bind ofName?

end Verdict
end ScriptHub
