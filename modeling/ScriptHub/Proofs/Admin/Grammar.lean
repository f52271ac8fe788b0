import Mathlib.Tactic.SplitIfs
import ScriptHub.Admin.Command
import ScriptHub.Proofs.Text.Words

/-!
# What the administrative grammar accepts

A text is addressed to the administrative surface if its first word is the command
word, whatever follows.  Of the texts that are addressed, those that toggle a
registration name the subcommand and an id.

**Results.**
* `AdminCommand.parse_eq_none_iff`: texts that are not addressed are passed over.
* `AdminCommand.parse_eq_toggle_iff`: the texts that toggle a registration.
-/

namespace ScriptHub

namespace AdminCommand

/-- A text is addressed to the administrative surface. -/
def Addressed (text word : String) : Prop :=
  Text.StartsWith text.toList word.toList

theorem addressed_iff
    {text word : String} :
    Addressed text word ↔
      (Text.words text.toList).head? = some word.toList :=
  Text.head?_words_eq_some_iff.symm

instance (text word : String) : Decidable (Addressed text word) :=
  decidable_of_iff _ addressed_iff.symm

/-- The command that sets the flag of a registration. -/
def toggle (script : ScriptId) (enabled : Bool) : AdminCommand :=
  if enabled then .enable script else .disable script

/-- The subcommand that sets the flag of a registration. -/
def toggleWord (enabled : Bool) : String :=
  if enabled then "enable" else "disable"

/-- A text is a well-formed command that sets the flag of a registration. -/
def Toggles
    (text word : String)
    (script : ScriptId)
    (enabled : Bool) :
    Prop :=
  ∃ subcommand digits rest,
    Text.words text.toList = word.toList :: subcommand :: digits :: rest ∧
      String.ofList (Text.lower subcommand) = toggleWord enabled ∧
      Decimal.readUInt64 digits = .ok script

/-- Texts that are not addressed are passed over, and no others. -/
theorem parse_eq_none_iff
    {text word : String} :
    parse text word = .ok none ↔ ¬ Addressed text word := by
  rw [addressed_iff]
  unfold parse
  cases Text.words text.toList with
  | nil => simp
  | cons first rest =>
      by_cases hfirst : first = word.toList
      · cases rest with
        | nil => simp [hfirst]
        | cons second others =>
            cases hread : readSubcommand (String.ofList (Text.lower second)) others <;>
              simp [hfirst, hread, Except.map]
      · simp [hfirst]

/-- The id behind a subcommand is read from the next word. -/
theorem readId_eq_ok_iff
    {subcommand : String}
    {rest : List (List Char)}
    {script : ScriptId} :
    readId subcommand rest = .ok script ↔
      ∃ digits others,
        rest = digits :: others ∧ Decimal.readUInt64 digits = .ok script := by
  cases rest with
  | nil => simp [readId]
  | cons digits others =>
      cases hread : Decimal.readUInt64 digits <;> simp [readId, hread]

/-- The subcommands that set a flag are the two that are named so. -/
theorem readSubcommand_eq_toggle_iff
    {subcommand : String}
    {rest : List (List Char)}
    {script : ScriptId}
    {enabled : Bool} :
    readSubcommand subcommand rest = .ok (toggle script enabled) ↔
      subcommand = toggleWord enabled ∧
        readId subcommand rest = .ok script := by
  unfold readSubcommand
  split_ifs with hlist hstats hhelp henable hdisable
  · cases enabled <;> simp [toggle, toggleWord, hlist]
  · cases enabled <;> simp [toggle, toggleWord, hstats]
  · cases enabled <;> simp [toggle, toggleWord, hhelp]
  · cases hread : readId subcommand rest <;>
      cases enabled <;> simp [toggle, toggleWord, henable, Except.map]
  · cases hread : readId subcommand rest <;>
      cases enabled <;> simp [toggle, toggleWord, hdisable, Except.map]
  · cases enabled <;> simp [toggleWord, henable, hdisable]

/-- **The texts that set the flag of a registration.** -/
theorem parse_eq_toggle_iff
    {text word : String}
    {script : ScriptId}
    {enabled : Bool} :
    parse text word = .ok (some (toggle script enabled)) ↔
      Toggles text word script enabled := by
  have hmap :
      ∀ parsed : Except AdminError AdminCommand,
        parsed.map some = .ok (some (toggle script enabled)) ↔
          parsed = .ok (toggle script enabled) := by
    intro parsed
    cases parsed <;> simp [Except.map]
  unfold parse Toggles
  cases Text.words text.toList with
  | nil => simp
  | cons first rest =>
      by_cases hfirst : first = word.toList
      · cases rest with
        | nil => simp [hfirst]
        | cons second others =>
            simp only [hfirst, if_true, hmap, readSubcommand_eq_toggle_iff,
              readId_eq_ok_iff]
            constructor
            · rintro ⟨hword, digits, rest, rfl, hread⟩
              exact ⟨second, digits, rest, rfl, hword, hread⟩
            · rintro ⟨subcommand, digits, rest, hwords, hword, hread⟩
              injection hwords with _ hbehind
              injection hbehind with hsecond hothers
              subst hsecond hothers
              exact ⟨hword, digits, rest, rfl, hread⟩
      · simp [hfirst]

end AdminCommand
end ScriptHub
