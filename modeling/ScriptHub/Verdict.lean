/-!
# Verdicts on events

A verdict says whether the hub lets an event through.  Hosts that speak in
integers write 0 for a blocked event and read every other number as permission.
-/

namespace ScriptHub

/-- Whether the hub lets an event through. -/
inductive Verdict
  | allow
  | block
  deriving DecidableEq, Inhabited

namespace Verdict

/-- The verdict behind an integer: 0 blocks, anything else allows. -/
def ofCode (code : Int32) : Verdict :=
  if code = 0 then block else allow

/-- The integer a verdict is written as. -/
def code : Verdict → Int32
  | allow => 1
  | block => 0

/-- Whether a verdict blocks. -/
def isBlock : Verdict → Bool
  | allow => false
  | block => true

/-- The word for a verdict. -/
def name : Verdict → String
  | allow => "allow"
  | block => "block"

instance : ToString Verdict := ⟨name⟩

@[simp] theorem ofCode_code (verdict : Verdict) :
    ofCode verdict.code = verdict := by
  cases verdict <;> rfl

end Verdict

end ScriptHub
