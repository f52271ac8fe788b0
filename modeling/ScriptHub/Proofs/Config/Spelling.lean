import ScriptHub.Proofs.Admin.Grammar
import ScriptHub.Proofs.Config.Layers
import ScriptHub.Proofs.Decimal.Double

/-!
# Texts from the environment are spelled anew

The text of a variable is taken as a flag, an integer or a number before it is known
which field it is for.  A field that holds a text gets the text of that value, which is
the text of the variable only if the value was written as it is shown.

**Results.**
* `Environment.toText?_valueOf_iff`: what a text field gets from the text of a variable.
* `Environment.respells_self_iff`: the texts that are taken as written.
* `text_variables_are_respelled`: the configuration that follows, and the hub commands
  that its command word recognises.
-/

namespace ScriptHub

open Config (Section Field)
open Decimal (WritesInt)

namespace Environment

variable {text shown : String} {lower : Setting}

section Spelling

/-- A text is the word of a flag, in any letter case. -/
def SpellsFlag (text : String) (value : Bool) : Prop :=
  text.toList.map Char.toLower = (toString value).toList

/-- A text writes an integer of 64 bits. -/
def SpellsInt (text : String) (i : Int) : Prop :=
  WritesInt text.toList i ∧ Int64.minValue.toInt ≤ i ∧ i ≤ Int64.maxValue.toInt

/-- A text writes a number, and no integer of 64 bits. -/
def SpellsNumber (text : String) (value : Double) : Prop :=
  Double.Writes text.toList value ∧ ∀ i, ¬ SpellsInt text i

/-- A text is neither the word of a flag nor a number. -/
def IsPlain (text : String) : Prop :=
  (∀ value, ¬ SpellsFlag text value) ∧ ∀ value, ¬ Double.Writes text.toList value

/-- The text that a field gets from the text of its variable. -/
inductive Respells (text : String) : String → Prop
  | flag {value : Bool} : SpellsFlag text value → Respells text (toString value)
  | integer {i : Int} : SpellsInt text i → Respells text (toString i)
  | number {value : Double} : SpellsNumber text value → Respells text value.text
  | plain : IsPlain text → Respells text text

theorem lowered_eq_iff (value : Bool) :
    Setting.lowered text = toString value ↔ SpellsFlag text value := by
  have hall : (toString value).toList.all Text.isPlainLetter = true := by
    cases value <;> decide
  have hplain : ∀ c ∈ (toString value).toList, Text.isPlainLetter c = true :=
    List.all_eq_true.mp hall
  rw [Setting.lowered, ← String.toList_inj, String.toList_ofList, Text.lower_eq_iff hplain]
  rfl

theorem readInt64_eq_ok_iff {i : Int} :
    Decimal.readInt64 text.toList = .ok i ↔ SpellsInt text i := by
  have hmin : Int64.minValue.toInt = -(Int64.size / 2 : Nat) := by decide
  have hmax : Int64.maxValue.toInt = (Int64.size / 2 - 1 : Nat) := by decide
  rw [Decimal.readInt64, Decimal.readInt_eq_ok_iff, SpellsInt, hmin, hmax]

/-- The word of a flag writes no number. -/
theorem SpellsFlag.not_writes
    {value : Bool}
    {number : Double}
    (h : SpellsFlag text value) :
    ¬ Double.Writes text.toList number := by
  unfold SpellsFlag at h
  have hsign :
      ∀ {sign : Char} {rest : List Char},
        text.toList = sign :: rest →
          (toString value).toList.head? = some sign.toLower := by
    intro sign rest htext
    rw [← h, htext]
    rfl
  intro hwrites
  cases hwrites with
  | plus htext =>
      have hhead := hsign htext
      cases value <;> exact absurd hhead (by decide)
  | minus htext =>
      have hhead := hsign htext
      cases value <;> exact absurd hhead (by decide)
  | unsigned hwrites =>
      cases hwrites with
      | infinity hword => rw [h] at hword; cases value <;> exact absurd hword (by decide)
      | notANumber hword => rw [h] at hword; cases value <;> exact absurd hword (by decide)
      | decimal htext hdigits =>
          rw [htext] at h
          cases value <;> exact hdigits.ne_word (by decide) h

theorem SpellsInt.exists_writes
    {i : Int}
    (h : SpellsInt text i) :
    ∃ value, Double.Writes text.toList value :=
  Double.exists_writes_of_writesInt h.1

theorem valueOf_of_spellsFlag
    {value : Bool}
    (h : SpellsFlag text value) :
    valueOf text = .flag value := by
  have hword := (lowered_eq_iff value).mpr h
  unfold valueOf
  cases value with
  | true => exact if_pos hword
  | false =>
      have hother : Setting.lowered text ≠ "true" := by
        rw [hword]
        decide
      exact (if_neg hother).trans (if_pos hword)

/-- What is no word of a flag is read as an integer first, and then as a number. -/
theorem valueOf_of_not_spellsFlag (h : ∀ value, ¬ SpellsFlag text value) :
    valueOf text =
      match Decimal.readInt64 text.toList with
      | .ok value => .integer value
      | .error _ =>
          match Double.read? text.toList with
          | some value => .real value
          | none => .text text := by
  have htrue : Setting.lowered text ≠ "true" :=
    fun hword => h true ((lowered_eq_iff _).mp hword)
  have hfalse : Setting.lowered text ≠ "false" :=
    fun hword => h false ((lowered_eq_iff _).mp hword)
  exact (if_neg htrue).trans (if_neg hfalse)

theorem valueOf_of_spellsInt
    {i : Int}
    (h : SpellsInt text i) :
    valueOf text = .integer i := by
  obtain ⟨_, hwrites⟩ := h.exists_writes
  rw [valueOf_of_not_spellsFlag fun _ hflag => hflag.not_writes hwrites,
    readInt64_eq_ok_iff.mpr h]

/-- What writes no integer of 64 bits is not read as one. -/
theorem exists_readInt64_eq_error (h : ∀ i, ¬ SpellsInt text i) :
    ∃ err, Decimal.readInt64 text.toList = .error err := by
  cases hread : Decimal.readInt64 text.toList with
  | error err => exact ⟨err, rfl⟩
  | ok i => exact absurd (readInt64_eq_ok_iff.mp hread) (h i)

theorem valueOf_of_spellsNumber
    {value : Double}
    (h : SpellsNumber text value) :
    valueOf text = .real value := by
  obtain ⟨err, herr⟩ := exists_readInt64_eq_error h.2
  rw [valueOf_of_not_spellsFlag fun _ hflag => hflag.not_writes h.1, herr]
  dsimp only
  rw [Double.read?_eq_some_iff.mpr h.1]

theorem valueOf_of_isPlain (h : IsPlain text) : valueOf text = .text text := by
  have hint : ∀ i, ¬ SpellsInt text i := by
    intro i hi
    obtain ⟨value, hwrites⟩ := hi.exists_writes
    exact h.2 value hwrites
  have hread : Double.read? text.toList = none := by
    rw [Option.eq_none_iff_forall_ne_some]
    exact fun value hvalue => h.2 value (Double.read?_eq_some_iff.mp hvalue)
  obtain ⟨err, herr⟩ := exists_readInt64_eq_error hint
  rw [valueOf_of_not_spellsFlag h.1, herr]
  dsimp only
  rw [hread]

/-- Every text is of one of the four kinds. -/
theorem exists_respells (text : String) : ∃ shown, Respells text shown := by
  by_cases hflag : ∃ value, SpellsFlag text value
  · obtain ⟨value, h⟩ := hflag
    exact ⟨_, .flag h⟩
  · by_cases hint : ∃ i, SpellsInt text i
    · obtain ⟨i, h⟩ := hint
      exact ⟨_, .integer h⟩
    · by_cases hnumber : ∃ value, Double.Writes text.toList value
      · obtain ⟨value, h⟩ := hnumber
        exact ⟨_, .number ⟨h, fun i hi => hint ⟨i, hi⟩⟩⟩
      · refine ⟨_, .plain ⟨?_, ?_⟩⟩
        · exact fun value h => hflag ⟨value, h⟩
        · exact fun value h => hnumber ⟨value, h⟩

theorem Respells.toText?_valueOf (h : Respells text shown) :
    (valueOf text).toText? = some shown := by
  cases h with
  | @flag value h =>
      rw [valueOf_of_spellsFlag h]
      cases value <;> rfl
  | integer h => rw [valueOf_of_spellsInt h]; rfl
  | number h => rw [valueOf_of_spellsNumber h]; rfl
  | plain h => rw [valueOf_of_isPlain h]; rfl

/-- **What a text field gets** from the text of its variable. -/
theorem toText?_valueOf_iff :
    (valueOf text).toText? = some shown ↔ Respells text shown := by
  constructor
  · intro h
    obtain ⟨other, hother⟩ := exists_respells text
    rw [hother.toText?_valueOf] at h
    rwa [← Option.some.inj h]
  · exact Respells.toText?_valueOf

/--
A text is taken as written if it is plain, or if it is the very text in which the flag,
the integer or the number is shown that it writes.
-/
inductive IsShown (text : String) : Prop
  | plain : IsPlain text → IsShown text
  | flag {value : Bool} : text = toString value → IsShown text
  | integer {i : Int} :
      text = toString i →
      Int64.minValue.toInt ≤ i →
      i ≤ Int64.maxValue.toInt →
      IsShown text
  | number {value : Double} : SpellsNumber text value → text = value.text → IsShown text

/-- **The texts that are taken as written.** -/
theorem respells_self_iff : Respells text text ↔ IsShown text := by
  have hshown : ∀ {shown : String}, Respells text shown → text = shown → IsShown text := by
    intro shown h hsame
    cases h with
    | flag h => exact .flag hsame
    | integer h => exact .integer hsame h.2.1 h.2.2
    | number h => exact .number h hsame
    | plain h => exact .plain h
  constructor
  · exact fun h => hshown h rfl
  · intro h
    cases h with
    | plain h => exact .plain h
    | @flag value hsame =>
        have hspells : SpellsFlag text value := by
          rw [hsame]
          cases value <;> rfl
        have hrespells := Respells.flag hspells
        rwa [← hsame] at hrespells
    | @integer i hsame hlow hhigh =>
        have hspells : SpellsInt text i := by
          rw [hsame]
          exact ⟨Decimal.writesInt_toString i, hlow, hhigh⟩
        have hrespells := Respells.integer hspells
        rwa [← hsame] at hrespells
    | number hspells hsame =>
        have hrespells := Respells.number hspells
        rwa [← hsame] at hrespells

end Spelling

section Alone

variable {entry : String × String} {before after environment : List (String × String)}

theorem overlayAll_of_not_counts
    (h : ∀ entry ∈ environment, ¬ Counts entry.1) :
    overlayAll lower environment = lower := by
  induction environment with
  | nil => rfl
  | cons entry rest ih =>
      obtain ⟨hentry, hrest⟩ := List.forall_mem_cons.mp h
      calc overlayAll (overlay lower entry) rest
        _ = overlayAll lower rest := by rw [overlay_of_not_counts hentry]
        _ = lower := ih hrest

/-- Among variables that do not count, one variable is laid over as if it were alone. -/
theorem overlayAll_alone
    (hbefore : ∀ entry ∈ before, ¬ Counts entry.1)
    (hafter : ∀ entry ∈ after, ¬ Counts entry.1) :
    overlayAll lower (before ++ entry :: after) = overlay lower entry := by
  calc overlayAll lower (before ++ entry :: after)
    _ = overlayAll (overlayAll lower before) (entry :: after) := List.foldl_append
    _ = overlayAll (overlay lower entry) after := by
      rw [overlayAll_of_not_counts hbefore]
      rfl
    _ = overlay lower entry := overlayAll_of_not_counts hafter

end Alone

end Environment

namespace Config

/-- A field that holds a text. -/
inductive TextField
  | adminCommand
  | level
  | format
  deriving DecidableEq

namespace TextField

/-- The section of a field. -/
def part : TextField → Section
  | adminCommand => .dispatcher
  | level => .logging
  | format => .logging

/-- The field among all fields. -/
def field : (field : TextField) → Field field.part
  | adminCommand => .adminCommand
  | level => .level
  | format => .format

/-- The default configuration with a text in a field. -/
def config : TextField → String → Config
  | adminCommand, text => { dispatcher := { adminCommand := text } }
  | level, text => { logging := { level := text } }
  | format, text => { logging := { format := text } }

open Environment (Sets Counts IsKnown Respells overlayAll valueOf)

/-- A text in the field is all that the configuration has beyond the defaults. -/
theorem readPart?_eq_some_iff
    {lower : Setting}
    {text shown : String}
    {field : TextField}
    (hself : lower.given? field.field = some (valueOf text))
    (hothers :
      ∀ {part : Section} (other : Field part),
        other.key ≠ field.field.key →
        lower.given? other = none) :
    (∀ {part : Section} (other : Field part),
        Setting.readPart? other.default other.ofSetting? (lower.given? other) =
          some ((field.config shown).get other)) ↔
      Respells text shown := by
  rw [← Environment.toText?_valueOf_iff]
  constructor
  · intro h
    have hread := h field.field
    rw [hself] at hread
    cases field <;> exact hread
  · intro h part other
    by_cases hkey : other.key = field.field.key
    · obtain ⟨rfl, hother⟩ := Sigma.mk.inj (Field.key_inj hkey)
      obtain rfl := eq_of_heq hother
      rw [hself]
      cases field <;> exact h
    · rw [hothers other hkey]
      cases field <;> cases other <;> first | rfl | exact absurd rfl hkey

/-- **A variable that is the only one to count is respelled into its field.** -/
theorem load_eq_ok_iff
    {field : TextField}
    {name text shown : String}
    {before after : List (String × String)}
    (hname : Sets name field.field)
    (hbefore : ∀ entry ∈ before, ¬ Counts entry.1)
    (hafter : ∀ entry ∈ after, ¬ Counts entry.1) :
    load none (before ++ (name, text) :: after) = .ok (field.config shown) ↔
      Respells text shown := by
  have hknown : IsKnown name := fun _ => ⟨_, field.field, hname⟩
  have hsectioned : (Environment.overlay (.table []) (name, text)).IsSectioned :=
    Environment.isSectioned_overlay hknown Setting.isSectioned_empty
  rw [Config.load_eq_ok_iff rfl, Environment.overlayAll_alone hbefore hafter,
    ofSetting?_eq_some_iff hsectioned]
  apply readPart?_eq_some_iff
  · exact Environment.given?_overlay_of_sets hname
  · intro part other hkey
    have hunset : ¬ Sets name other :=
      fun hother => hkey (Environment.key_eq_of_sets hname hother)
    rw [Environment.given?_overlay_of_not_sets hknown hunset]
    rfl

end TextField
end Config

open Config Environment in
/--
**A text setting given through the environment is spelled anew.**

If the variable of a text field is the only one that counts, the configuration loads,
and it is the default but for this field.  The field gets the text in which the flag, the
64-bit integer or the number is shown that the variable writes, and the text of the
variable itself if it writes none of them; so the text is taken as written exactly if it
is plain, or is shown like this.

Of the hub commands that start with the word in the variable, all are recognised if the
word is taken as written, and none otherwise.
-/
theorem text_variables_are_respelled
    (field : TextField)
    (name text : String)
    (before after : List (String × String))
    (hname : Sets name field.field)
    (hbefore : ∀ entry ∈ before, ¬ Counts entry.1)
    (hafter : ∀ entry ∈ after, ¬ Counts entry.1) :
    ∃ shown,
      Respells text shown ∧
        Config.load none (before ++ (name, text) :: after) = .ok (field.config shown) ∧
        (shown = text ↔ IsShown text) ∧
        (field = .adminCommand →
          ∀ line : String,
            (AdminCommand.parse line
                  (Settings.ofConfig (field.config shown).dispatcher).adminWord ≠
                .ok none ↔
              AdminCommand.Addressed line shown) ∧
            (AdminCommand.Addressed line text →
              (AdminCommand.Addressed line shown ↔ shown = text))) := by
  obtain ⟨shown, hshown⟩ := exists_respells text
  refine ⟨shown, hshown, (TextField.load_eq_ok_iff hname hbefore hafter).mpr hshown, ?_, ?_⟩
  · rw [← respells_self_iff]
    constructor
    · rintro rfl
      exact hshown
    · intro hself
      have hread := hself.toText?_valueOf
      rw [hshown.toText?_valueOf] at hread
      exact Option.some.inj hread
  · rintro rfl line
    constructor
    · rw [ne_eq, AdminCommand.parse_eq_none_iff, not_not]
      rfl
    · intro haddressed
      constructor
      · intro hother
        have hsame :=
          (AdminCommand.addressed_iff.mp hother).symm.trans
            (AdminCommand.addressed_iff.mp haddressed)
        exact String.toList_inj.mp (Option.some.inj hsame)
      · rintro rfl
        exact haddressed

open Config Environment in
/-- The level is a number in another form than the one it is shown in. -/
theorem exponent_is_respelled :
    ∃ shown,
      Respells "1e3" shown ∧
        Config.load none [("PATH", "/bin"), ("Hubhook__Logging__Level", "1e3")] =
          .ok { logging := { level := shown } } ∧
        shown = "1000" := by
  obtain ⟨shown, hshown, hload, _⟩ :=
    text_variables_are_respelled .level "Hubhook__Logging__Level" "1e3" [("PATH", "/bin")] []
      (by decide +kernel) (by decide +kernel) (by decide +kernel)
  have hvalue :
      Config.load none [("PATH", "/bin"), ("Hubhook__Logging__Level", "1e3")] =
        .ok { logging := { level := "1000" } } := by
    decide +kernel
  refine ⟨shown, hshown, hload, ?_⟩
  have hconfig : TextField.level.config shown = { logging := { level := "1000" } } :=
    Except.ok.inj (hload.symm.trans hvalue)
  exact congrArg (fun config : Config => config.logging.level) hconfig

/--
A command word that reads as infinity loads in its short form, and commands with the word
in the variable are recognised no longer; so not every text is taken as written.
-/
theorem infinity_is_not_taken_as_written :
    Config.load none [("HUBHOOK__DISPATCHER__ADMIN_COMMAND", "infinity")] =
        .ok { dispatcher := { adminCommand := "inf" } } ∧
      AdminCommand.parse "infinity help" "inf" = .ok none ∧
      ¬ ∀ text : String,
        Config.load none [("HUBHOOK__DISPATCHER__ADMIN_COMMAND", text)] =
          .ok { dispatcher := { adminCommand := text } } := by
  have hload :
      Config.load none [("HUBHOOK__DISPATCHER__ADMIN_COMMAND", "infinity")] =
        .ok { dispatcher := { adminCommand := "inf" } } := by
    decide +kernel
  refine ⟨hload, by decide +kernel, ?_⟩
  intro h
  exact absurd (hload.symm.trans (h "infinity")) (by decide)

end ScriptHub
