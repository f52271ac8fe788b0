import ScriptHub.Dispatcher.Tally
import ScriptHub.Json.Basic

/-!
# Counters as JSON values
-/

namespace ScriptHub

/-- The JSON value of the calls of a kind. -/
def CallCount.toJson (count : CallCount) : Json :=
  .object
    [("attempted", .ofNat count.attempted.toNat),
      ("failed", .ofNat count.failed.toNat)]

namespace Stats

/-- The JSON value of chain lengths. -/
def countsToJson (counts : List (EventKind × Nat)) : Json :=
  .object (counts.map fun entry => (entry.1.name, .ofNat entry.2))

/-- The JSON value of counters with the chain lengths. -/
def toJson (stats : Stats) : Json :=
  .object
    [("total_scripts", .ofNat stats.total.toNat),
      ("active_scripts", .ofNat stats.active.toNat),
      ("disabled_scripts", .ofNat stats.disabled.toNat),
      ("calls", .object (stats.calls.map fun entry =>
        (entry.1.name, entry.2.toJson))),
      ("bindings", countsToJson stats.bindings)]

end Stats

end ScriptHub
