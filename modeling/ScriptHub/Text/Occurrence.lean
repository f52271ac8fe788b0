/-!
# Occurrences of one text in another
-/

namespace ScriptHub
namespace Text

/-- Whether a text occurs in another one, at any place. -/
def occursIn (needle : List Char) : List Char → Bool
  | [] => needle.isEmpty
  | c :: cs => needle.isPrefixOf (c :: cs) || occursIn needle cs

/-- A text occurs exactly where it is cut out. -/
theorem occursIn_iff
    {needle text : List Char} :
    occursIn needle text = true ↔ needle <:+: text := by
  induction text with
  | nil =>
      simp [occursIn]
  | cons c cs ih =>
      simp [occursIn, ih, List.infix_cons_iff]

end Text
end ScriptHub
