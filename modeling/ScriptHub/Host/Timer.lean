/-!
# The timer of the console host

The timer ticks as soon as it is started and then once in every interval.  Ticks
that were missed are made up for.
-/

namespace ScriptHub
namespace Host

/--
How many ticks are due at a time, given in milliseconds since the start of the
timer.  A timer whose interval is zero never ticks.
-/
def ticksUntil (interval elapsed : Nat) : Nat :=
  if interval = 0 then 0 else elapsed / interval + 1

/-- No tick is taken back. -/
theorem ticksUntil_mono
    (interval : Nat)
    {earlier later : Nat}
    (h : earlier ≤ later) :
    ticksUntil interval earlier ≤ ticksUntil interval later := by
  unfold ticksUntil
  split
  · exact Nat.le_refl 0
  · exact Nat.succ_le_succ (Nat.div_le_div_right h)

end Host
end ScriptHub
