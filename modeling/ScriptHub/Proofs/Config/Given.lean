import ScriptHub.Proofs.Config.Fields
import ScriptHub.Proofs.Toml.Tables

/-!
# What a value gives to the fields of a configuration

A value gives something to a field if it has a table for the section of the field and
in this table a member for the field.  If every section that a value has is a table, a
configuration is read from it field by field.  What is laid at the path of one field
gives this field its value and leaves every other field what it was given.

**Results.**
* `Config.ofSetting?_eq_some_iff`: a configuration is read field by field.
* `Setting.given?_layAt_self`, `Setting.given?_layAt_of_ne`: laying a value at a field.
* `Config.fileSetting_of_isRegular`: a table with plain names is taken from a file as it is.
-/

namespace ScriptHub

open Config (Section Field)

namespace Setting

variable {part : Section} {setting value lower : Setting} {name other : String}

/-- A member of a table, by its name. -/
def member? (setting : Setting) (name : String) : Option Setting :=
  setting.members.value? name

/-- What a value gives to a field. -/
def given? (setting : Setting) (field : Field part) : Option Setting :=
  (setting.member? part.name).bind fun inner => inner.member? field.name

/-- A value is a table, and so is every section that it has. -/
structure IsSectioned (setting : Setting) : Prop where
  whole : setting.isTable = true
  sections :
    ∀ {part : Section} {inner : Setting},
      setting.member? part.name = some inner →
      inner.isTable = true

theorem isSectioned_empty : (table []).IsSectioned :=
  ⟨rfl, fun h => absurd h (by simp [member?, members, Named.value?])⟩

theorem given?_empty (field : Field part) : (table []).given? field = none := by
  rfl

/-- The part of a table with a name. -/
theorem part?_of_isTable
    {α : Type}
    (h : setting.isTable = true)
    (name : String)
    (position : Nat)
    (default : α)
    (read : Setting → Option α) :
    setting.part? name position default read =
      readPart? default read (setting.member? name) := by
  cases setting with
  | table => rfl
  | nothing | flag | integer | real | text | list => exact absurd h Bool.false_ne_true

section Laying

variable {rest : List Step}

theorem member?_getD_nothing (setting : Option Setting) (name : String) :
    (setting.getD nothing).member? name =
      setting.bind fun inner => inner.member? name := by
  cases setting <;> rfl

theorem member?_layAt_self :
    (layAt value (.member name :: rest) lower).member? name =
      some (layAt value rest ((lower.member? name).getD nothing)) := by
  rw [layAt, member?, members, Named.value?_put_self]
  rfl

theorem member?_layAt_of_ne (h : other ≠ name) :
    (layAt value (.member name :: rest) lower).member? other = lower.member? other := by
  rw [layAt, member?, members, Named.value?_put_of_ne h]
  rfl

theorem isTable_layAt_member :
    (layAt value (.member name :: rest) lower).isTable = true := by
  rw [layAt]
  rfl

/-- The path of a field. -/
def pathTo (field : Field part) : List Step :=
  [.member part.name, .member field.name]

/-- A plain value at the path of a field is what the field is given. -/
theorem given?_layAt_self
    (h : value.isTable = false)
    (field : Field part) :
    (value.layAt (pathTo field) lower).given? field = some value := by
  rw [given?, pathTo, member?_layAt_self, Option.bind_some, member?_layAt_self, layAt,
    layOver_of_plain h]

/-- A value at the path of a field leaves the other fields what they were given. -/
theorem given?_layAt_of_ne
    {section' : Section}
    {field : Field part}
    {field' : Field section'}
    (h : field'.key ≠ field.key) :
    (value.layAt (pathTo field) lower).given? field' = lower.given? field' := by
  unfold given? pathTo
  by_cases hpart : section'.name = part.name
  · have hfield : field'.name ≠ field.name := fun hname => h (Prod.ext hpart hname)
    rw [hpart, member?_layAt_self, Option.bind_some, member?_layAt_of_ne hfield,
      member?_getD_nothing]
  · rw [member?_layAt_of_ne hpart]

/-- A value at the path of a field leaves every section a table. -/
theorem IsSectioned.layAt
    (h : lower.IsSectioned)
    (field : Field part) :
    (value.layAt (pathTo field) lower).IsSectioned := by
  refine ⟨isTable_layAt_member, ?_⟩
  intro section' inner hinner
  by_cases hpart : section'.name = part.name
  · rw [hpart, pathTo, member?_layAt_self] at hinner
    obtain rfl := Option.some.inj hinner
    exact isTable_layAt_member
  · rw [pathTo, member?_layAt_of_ne hpart] at hinner
    exact h.sections hinner

end Laying

section Paths

/-- A text without dots and brackets leads only to the member that it names. -/
theorem readSteps_of_plain
    {cs : List Char}
    (h : ∀ c ∈ cs, c ≠ '.' ∧ c ≠ '[')
    (fuel : Nat)
    (before : List Char) :
    readSteps fuel (some before) cs = none ∨
      readSteps fuel (some before) cs =
        some [.member (String.ofList (before.reverse ++ cs))] := by
  induction cs generalizing fuel before with
  | nil =>
      cases fuel with
      | zero => exact .inl rfl
      | succ fuel =>
          cases before with
          | nil => exact .inl rfl
          | cons => exact .inr (by rw [readSteps, List.append_nil])
  | cons c rest ih =>
      obtain ⟨⟨hdot, hbracket⟩, hrest⟩ := List.forall_mem_cons.mp h
      cases fuel with
      | zero => exact .inl rfl
      | succ fuel =>
          rw [readSteps]
          split
          · have hread := ih hrest fuel (c :: before)
            rwa [List.reverse_cons, List.append_assoc] at hread
          · split
            · exact .inl rfl
            · have hnone : readSteps fuel none (c :: rest) = none := by
                cases fuel with
                | zero => rfl
                | succ => simp [readSteps, hdot, hbracket]
              rw [hnone]
              exact .inl rfl

/-- Whether a name leads only to the member with this name. -/
def IsPlainName (name : String) : Prop :=
  ∀ c ∈ name.toList, c ≠ '.' ∧ c ≠ '['

theorem pathOf_of_isPlainName (h : IsPlainName name) :
    pathOf name.toList = [.member name] := by
  unfold pathOf
  rcases readSteps_of_plain h (2 * name.toList.length + 1) [] with hread | hread <;>
    simp [hread]

end Paths

section Integers

/-- An integer of 32 bits is taken as it is. -/
theorem toInt32?_integer (value : Int32) : (integer value.toInt).toInt32? = some value := by
  have hmin : Int32.minValue.toInt = -2 ^ 31 := by decide
  have hmax : Int32.maxValue.toInt = 2 ^ 31 - 1 := by decide
  have hmin64 : Int64.minValue.toInt = -2 ^ 63 := by decide
  have hmax64 : Int64.maxValue.toInt = 2 ^ 63 - 1 := by decide
  have hlow := value.minValue_le_toInt
  have hhigh := value.toInt_le
  have hwide : (integer value.toInt).toInt64? = some value.toInt := by
    rw [toInt64?, toIntWithin?, Option.filter_some, if_pos]
    rw [Bool.and_eq_true, decide_eq_true_eq, decide_eq_true_eq]
    omega
  rw [toInt32?, hwide, Option.filter_some, if_pos]
  · rw [Option.map_some, Int32.ofInt_toInt]
  · rw [Bool.and_eq_true, decide_eq_true_eq, decide_eq_true_eq]
    exact ⟨hlow, hhigh⟩

/-- An unsigned integer of 64 bits is taken as it is. -/
theorem toUInt64?_integer (value : UInt64) :
    (integer value.toNat).toUInt64? = some value := by
  have hbound := value.toNat_lt
  rw [toUInt64?, toIntWithin?, Option.filter_some, if_pos]
  · rw [Option.map_some, Int.toNat_natCast, UInt64.ofNat_toNat]
  · rw [Bool.and_eq_true, decide_eq_true_eq, decide_eq_true_eq, UInt64.size]
    omega

end Integers
end Setting

namespace Config

variable {part : Section} {setting : Setting} {config : Config}

open Setting (readPart?)

/-- Reads a field. -/
def Field.ofSetting? :
    {part : Section} → (field : Field part) → Setting → Option field.Value
  | _, defaultPriority => Setting.toInt32?
  | _, adminClass => Setting.toInt32?
  | _, adminCommand => Setting.toText?
  | _, catchPanics => Setting.toFlag?
  | _, level => Setting.toText?
  | _, format => Setting.toText?
  | _, timerIntervalMs => Setting.toUInt64?

/-- Reads a section. -/
def Section.ofSetting? : (part : Section) → Setting → Option part.Content
  | dispatcher => DispatcherConfig.ofSetting?
  | logging => LoggingConfig.ofSetting?
  | console => ConsoleConfig.ofSetting?

/-- A table is read as a section exactly if each of its fields is read. -/
theorem Section.ofSetting?_eq_some_iff
    {content : part.Content}
    (h : setting.isTable = true) :
    part.ofSetting? setting = some content ↔
      ∀ field : Field part,
        readPart? field.default field.ofSetting? (setting.member? field.name) =
          some (field.of content) := by
  have hcollect :
      part.ofSetting? setting =
        part.collect fun field =>
          readPart? field.fallback field.ofSetting? (setting.member? field.name) := by
    cases part with
    | dispatcher =>
        simp only [ofSetting?, DispatcherConfig.ofSetting?, Setting.part?_of_isTable h]
        rfl
    | logging =>
        simp only [ofSetting?, LoggingConfig.ofSetting?, Setting.part?_of_isTable h]
        rfl
    | console =>
        simp only [ofSetting?, ConsoleConfig.ofSetting?, Setting.part?_of_isTable h]
        rfl
  simp only [hcollect, Section.collect_eq_some_iff, Field.fallback_eq_default]

/-- A table is read as a configuration exactly if each of its sections is read. -/
theorem ofSetting?_eq_some_iff_sections (h : setting.isTable = true) :
    ofSetting? setting = some config ↔
      ∀ part : Section,
        readPart? (({} : Config).content part) part.ofSetting?
            (setting.member? part.name) =
          some (config.content part) := by
  have hcollect :
      ofSetting? setting =
        collect fun part =>
          readPart? (({} : Config).content part) part.ofSetting?
            (setting.member? part.name) := by
    simp only [ofSetting?, Setting.part?_of_isTable h]
    rfl
  rw [hcollect, collect_eq_some_iff]

/-- **A configuration is read field by field** from a value whose sections are tables. -/
theorem ofSetting?_eq_some_iff (h : setting.IsSectioned) :
    ofSetting? setting = some config ↔
      ∀ {part : Section} (field : Field part),
        readPart? field.default field.ofSetting? (setting.given? field) =
          some (config.get field) := by
  have hsection :
      ∀ part : Section,
        readPart? (({} : Config).content part) part.ofSetting?
              (setting.member? part.name) =
            some (config.content part) ↔
          ∀ field : Field part,
            readPart? field.default field.ofSetting? (setting.given? field) =
              some (config.get field) := by
    intro part
    unfold Setting.given?
    cases hinner : setting.member? part.name with
    | none =>
        simp only [readPart?, Option.bind_none, Option.some.injEq]
        constructor
        · intro hcontent field
          unfold get Field.default
          rw [← hcontent]
          rfl
        · intro hfields
          exact content_eq hfields
    | some inner =>
        rw [readPart?, Section.ofSetting?_eq_some_iff (h.sections hinner)]
        rfl
  rw [ofSetting?_eq_some_iff_sections h.whole]
  exact forall_congr' hsection

/-- A value of a field, as a source gives it in the type of the field. -/
def Field.toSetting : {part : Section} → (field : Field part) → field.Value → Setting
  | _, defaultPriority => fun value => .integer value.toInt
  | _, adminClass => fun value => .integer value.toInt
  | _, adminCommand => .text
  | _, catchPanics => .flag
  | _, level => .text
  | _, format => .text
  | _, timerIntervalMs => fun value => .integer value.toNat

/-- A value in the type of its field is read. -/
theorem Field.ofSetting?_toSetting
    (field : Field part)
    (value : field.Value) :
    field.ofSetting? (field.toSetting value) = some value := by
  cases field with
  | defaultPriority | adminClass => exact Setting.toInt32?_integer value
  | adminCommand | level | format => rfl
  | catchPanics => rfl
  | timerIntervalMs => exact Setting.toUInt64?_integer value

/-- **A table with distinct and plain names is taken from a file as it is.** -/
theorem fileSetting_of_isRegular
    {members : Named Setting}
    (hregular : (Setting.table members).IsRegular)
    (hplain : ∀ member ∈ members, Setting.IsPlainName member.1) :
    fileSetting (.table members) = .table members := by
  have hlaid :
      ∀ (upper lower : Named Setting),
        (∀ member ∈ upper, Setting.IsPlainName member.1) →
          upper.foldl
              (fun lower member => member.2.layAt (Setting.pathOf member.1.toList) lower)
              (.table lower) =
            .table (Setting.layMembers upper lower) := by
    intro upper
    induction upper with
    | nil => intro lower _; rfl
    | cons member rest ih =>
        intro lower hnames
        obtain ⟨name, value⟩ := member
        obtain ⟨hname, hrest⟩ := List.forall_mem_cons.mp hnames
        rw [List.foldl_cons, Setting.pathOf_of_isPlainName hname]
        exact ih (Setting.layMember (name, value) lower) hrest
  calc fileSetting (.table members)
    _ = .table (Setting.layMembers members []) := hlaid members [] hplain
    _ = (Setting.table members).layOver .nothing := rfl
    _ = .table members := Setting.layOver_nothing hregular

/-- **A text whose top-level names are plain is read from a file as TOML has it.** -/
theorem readFile?_of_read?
    {text : String}
    {tree : Setting}
    (hread : Toml.read? (String.ofList (Toml.dropByteOrderMark text.toList)) = some tree)
    (hplain : ∀ member ∈ tree.members, Setting.IsPlainName member.1) :
    readFile? (some text) = .ok tree := by
  obtain ⟨hregular, members, rfl⟩ := Toml.isRegular_read? hread
  rw [readFile?, hread]
  dsimp only
  rw [fileSetting_of_isRegular hregular hplain]

end Config
end ScriptHub
