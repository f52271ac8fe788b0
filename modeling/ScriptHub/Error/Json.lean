import ScriptHub.Error
import ScriptHub.Json.Basic

/-!
# Kinds of error as JSON values
-/

namespace ScriptHub
namespace ErrorKind

/-- Reads a kind from its name. -/
def ofJson? (json : Json) : Option ErrorKind :=
  json.asWord?.bind ofName?

end ErrorKind
end ScriptHub
