import ScriptHub.Proofs.Admin.Commands
import ScriptHub.Proofs.Text.LetterCase

/-!
# Look-alikes of subcommands

A subcommand is lower-cased before it is compared, and lower-casing is that of Unicode:
it looks at the neighbours of some characters, writes some characters as two, and gives
ASCII letters to some characters that are none.  Yet no such character completes a
subcommand.  What is taken for a subcommand consists of ASCII letters, and is that
subcommand but for their case.

**Results.**
* `lower_eq_iff_isVariant`: the words whose lower-case form is a subcommand.
* `Understood.recognised_iff`: a text is recognised by its second word.
* `subcommands_have_no_lookalikes`: both together, with what becomes of look-alikes.
-/

namespace ScriptHub
namespace AdminCommand

section Variants

/-- A word consists of ASCII letters and is a subcommand but for their case. -/
def IsVariant (token : List Char) (name : String) : Prop :=
  (∀ c ∈ token, c.isAlpha = true) ∧ token.map Char.toLower = name.toList

instance (token : List Char) (name : String) : Decidable (IsVariant token name) :=
  decidable_of_iff
    (token.all Char.isAlpha = true ∧ token.map Char.toLower = name.toList)
    (and_congr List.all_eq_true Iff.rfl)

/--
A text was recognised by its subcommand: it is a command, or would be one but for the
id behind it.
-/
def Recognised : Except AdminError (Option AdminCommand) → Prop
  | .ok (some _) => True
  | .error (.missingId _) => True
  | .error (.invalidId _) => True
  | _ => False

/-- Only ASCII letters have plain letters as their small letters. -/
theorem isAlpha_of_isPlainLetter_toLower
    {c : Char}
    (h : Text.isPlainLetter c.toLower = true) :
    c.isAlpha = true := by
  by_cases hascii : c.toNat < 128
  · have key :
        ∀ n : Fin 128,
          Text.isPlainLetter (Char.ofNat n).toLower = true →
            (Char.ofNat n).isAlpha = true := by
      decide +kernel
    have hc := key ⟨c.toNat, hascii⟩
    rw [Char.ofNat_toNat] at hc
    exact hc h
  · have hcode : 128 ≤ c.toNat := Nat.le_of_not_lt hascii
    rw [Text.toLower_of_not_ascii hcode, Text.isPlainLetter_of_lt (by omega)] at h
    exact absurd h (by simp)

theorem isPlainLetter_of_subcommand
    {name : String}
    (h : name ∈ subcommands) :
    ∀ c ∈ name.toList, Text.isPlainLetter c = true := by
  have key : ∀ name ∈ subcommands, name.toList.all Text.isPlainLetter = true := by
    decide +kernel
  exact List.all_eq_true.mp (key name h)

/-- **The words whose lower-case form is a subcommand** are its ASCII variants. -/
theorem lower_eq_iff_isVariant
    {name : String}
    (h : name ∈ subcommands)
    (token : List Char) :
    Text.lower token = name.toList ↔ IsVariant token name := by
  have plain := isPlainLetter_of_subcommand h
  rw [Text.lower_eq_iff plain]
  constructor
  · intro hsame
    refine ⟨?_, hsame⟩
    intro c hc
    apply isAlpha_of_isPlainLetter_toLower
    apply plain
    rw [← hsame]
    exact List.mem_map_of_mem hc
  · exact And.right

/-- A letter of ASCII has a code point below 128. -/
theorem toNat_lt_of_isAlpha
    {c : Char}
    (h : c.isAlpha = true) :
    c.toNat < 128 := by
  rcases Bool.or_eq_true_iff.mp h with hupper | hlower
  · have hle : c.toNat ≤ 90 :=
      UInt32.le_iff_toNat_le.mp (of_decide_eq_true hupper).2
    omega
  · have hle : c.toNat ≤ 122 :=
      UInt32.le_iff_toNat_le.mp
        (of_decide_eq_true (Bool.and_eq_true_iff.mp hlower).2)
    omega

end Variants

section Recognition

variable {text word : String} {token : List Char} {rest : List (List Char)}

theorem mem_subcommands_of_plain
    {name : String}
    {command : AdminCommand}
    (h : (name, command) ∈ plainCommands) :
    name ∈ subcommands :=
  List.mem_append_left _ (List.mem_map_of_mem h)

theorem toggleWord_mem_subcommands (enabled : Bool) :
    toggleWord enabled ∈ subcommands := by
  cases enabled <;> decide

/-- A text is recognised exactly if its second word is lower-cased to a subcommand. -/
theorem Understood.recognised_iff
    {tokens : List (List Char)}
    {answer : Except AdminError (Option AdminCommand)}
    (h : Understood word tokens answer) :
    Recognised answer ↔
      ∃ token rest,
        tokens = word.toList :: token :: rest ∧
          ∃ name ∈ subcommands, Text.lower token = name.toList := by
  cases h with
  | blank => simp [Recognised]
  | foreign hfirst => simp [Recognised, hfirst]
  | missingSubcommand => simp [Recognised]
  | plain hplain hname =>
      have hmem := mem_subcommands_of_plain hplain
      exact iff_of_true trivial ⟨_, _, rfl, _, hmem, hname⟩
  | toggle hname _ _ =>
      exact iff_of_true trivial
        ⟨_, _, rfl, _, toggleWord_mem_subcommands _, hname⟩
  | missingId hname =>
      exact iff_of_true trivial
        ⟨_, _, rfl, _, toggleWord_mem_subcommands _, hname⟩
  | invalidId hname _ =>
      exact iff_of_true trivial
        ⟨_, _, rfl, _, toggleWord_mem_subcommands _, hname⟩
  | @unknown second _ name hname hunknown =>
      apply iff_of_false not_false
      rintro ⟨token, rest, htokens, other, hmem, hother⟩
      injection htokens with _ hbehind
      injection hbehind with hsecond _
      rw [← hsecond, hname] at hother
      exact hunknown (String.toList_injective hother ▸ hmem)

/-- What is understood of a variant is what is understood of the subcommand itself. -/
theorem Understood.of_isVariant
    {name : String}
    {answer : Except AdminError (Option AdminCommand)}
    (hmem : name ∈ subcommands)
    (hvariant : IsVariant token name)
    (h : Understood word (word.toList :: name.toList :: rest) answer) :
    Understood word (word.toList :: token :: rest) answer := by
  have hlower : Text.lower token = name.toList :=
    (lower_eq_iff_isVariant hmem token).mpr hvariant
  have hown : Text.lower name.toList = name.toList := by
    have key :
        ∀ name ∈ subcommands, Text.lower name.toList = name.toList := by
      decide +kernel
    exact key name hmem
  have hsame : Text.lower token = Text.lower name.toList := hlower.trans hown.symm
  cases h with
  | foreign hfirst => exact absurd rfl hfirst
  | plain hplain hname => exact .plain hplain (hsame.trans hname)
  | toggle hname hwrites hfits => exact .toggle (hsame.trans hname) hwrites hfits
  | missingId hname => exact .missingId (hsame.trans hname)
  | invalidId hname hlarge => exact .invalidId (hsame.trans hname) hlarge
  | unknown hname hunknown => exact .unknown (hsame.trans hname) hunknown

end Recognition

/--
**Subcommands have no look-alikes.**

A text is recognised exactly if its first word is the command word and its second word
consists of ASCII letters and is a subcommand but for their case.  It is then understood
as if the subcommand were written in small letters.  A second word with a character that
is not ASCII is an unknown subcommand, whatever its lower-case form.
-/
theorem subcommands_have_no_lookalikes (text word : String) :
    (Recognised (parse text word) ↔
      ∃ token rest,
        Text.HasWords text.toList (word.toList :: token :: rest) ∧
          ∃ name ∈ subcommands, IsVariant token name) ∧
      ∀ token rest,
        Text.HasWords text.toList (word.toList :: token :: rest) →
        (∀ name ∈ subcommands,
          IsVariant token name →
          ∀ answer,
            Understood word (word.toList :: name.toList :: rest) answer →
            parse text word = answer) ∧
          ((∃ c ∈ token, 128 ≤ c.toNat) →
            parse text word =
              .error (.unknown (String.ofList (Text.lower token)))) := by
  have hvariant :
      ∀ token,
        (∃ name ∈ subcommands, Text.lower token = name.toList) ↔
          ∃ name ∈ subcommands, IsVariant token name := by
    intro token
    constructor <;> rintro ⟨name, hmem, h⟩
    · exact ⟨name, hmem, (lower_eq_iff_isVariant hmem token).mp h⟩
    · exact ⟨name, hmem, (lower_eq_iff_isVariant hmem token).mpr h⟩
  refine ⟨?_, ?_⟩
  · rw [understood_parse.recognised_iff]
    constructor
    · rintro ⟨token, rest, hwords, hname⟩
      exact ⟨token, rest, Text.words_eq_iff.mp hwords, (hvariant token).mp hname⟩
    · rintro ⟨token, rest, hwords, hname⟩
      exact ⟨token, rest, Text.words_eq_iff.mpr hwords, (hvariant token).mpr hname⟩
  · intro token rest hwords
    have htokens := Text.words_eq_iff.mpr hwords
    constructor
    · intro name hmem h answer hunderstood
      exact parse_of_understood htokens (hunderstood.of_isVariant hmem h)
    · rintro ⟨c, hc, hcode⟩
      apply parse_of_understood htokens
      refine .unknown (String.toList_ofList).symm ?_
      intro hmem
      have hforms : Text.lower token = (String.ofList (Text.lower token)).toList :=
        String.toList_ofList.symm
      have hletters := ((lower_eq_iff_isVariant hmem token).mp hforms).1
      have hascii := toNat_lt_of_isAlpha (hletters c hc)
      omega

/--
Letter case does not matter.  The dotted capital I, which is lower-cased to an i and a
dot, stands for no letter of a subcommand, and neither does the long s.
-/
theorem lookalikes_of_disable_are_unknown :
    parse "hub DiSaBlE 2" "hub" = .ok (some (.disable 2)) ∧
      parse "hub D\u0130SABLE 2" "hub" = .error (.unknown "di\u0307sable") ∧
      parse "hub di\u017Fable 2" "hub" = .error (.unknown "di\u017Fable") := by
  have hwords :
      ∀ {text : String} {token : List Char},
        Text.words text.toList = ["hub".toList, token, "2".toList] →
        Text.HasWords text.toList ["hub".toList, token, "2".toList] :=
    Text.words_eq_iff.mp
  refine ⟨?_, ?_, ?_⟩
  · have hunderstood :
        Understood "hub" ["hub".toList, "disable".toList, "2".toList]
          (.ok (some (.disable 2))) :=
      .toggle (lower_toggleWord false) (Decimal.writesNat_toString 2) (by decide)
    exact
      ((subcommands_have_no_lookalikes _ _).2 "DiSaBlE".toList _
        (hwords (by decide +kernel))).1 "disable" (by decide) (by decide +kernel) _
        hunderstood
  · exact
      ((subcommands_have_no_lookalikes _ _).2 "D\u0130SABLE".toList _
        (hwords (by decide +kernel))).2 ⟨'\u0130', by decide +kernel, by decide⟩
  · exact
      ((subcommands_have_no_lookalikes _ _).2 "di\u017Fable".toList _
        (hwords (by decide +kernel))).2 ⟨'\u017F', by decide +kernel, by decide⟩

end AdminCommand
end ScriptHub
