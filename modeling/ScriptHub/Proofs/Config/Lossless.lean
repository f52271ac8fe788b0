import ScriptHub.Proofs.Config.Fields
import ScriptHub.Proofs.Event.Codec

/-!
# The JSON form of a configuration is lossless

A configuration is written as an object of three objects.  Whatever is taken out of
these objects, and whatever is added under names that they do not know, reading gives
the configuration back, with the default in every field that was taken out.  The order
of the members is of no account.

What a field falls back to where it alone is missing, and what it is in the default
section, are defined apart; that they agree is shown with the fields.

**Results.**
* `Config.ofJson?_edited`: what is read of a section whose object was edited.
* `config_json_is_lossless`: the same of whole configurations, of values and of texts.
-/

namespace ScriptHub

namespace Json

section Edits

variable {known : List String} {kept edited members : List (String × Json)}
variable {name : String} {json : Json} {α : Type}

/-- A value without parts: null, a flag or a text. -/
def isBare : Json → Bool
  | .null => true
  | .bool _ => true
  | .text _ => true
  | _ => false

/--
An object is edited: only the kept members stay, values without parts are added under
names that are not known, and the order may change.
-/
def Edits
    (known : List String)
    (kept edited : List (String × Json)) :
    Prop :=
  ∃ added : List (String × Json),
    (∀ member ∈ added, member.1 ∉ known ∧ member.2.isBare = true) ∧
      edited.Perm (kept ++ added)

/-- A member that stays is still the only one of its name. -/
theorem Edits.hasOnly
    (h : Edits known kept edited)
    (hnodup : (kept.map Prod.fst).Nodup)
    (hknown : name ∈ known)
    (hmem : (name, json) ∈ kept) :
    HasOnly edited name json := by
  obtain ⟨added, hadded, hperm⟩ := h
  have honly := hasOnly_of_nodup hnodup hmem
  have hnone : (added.map Prod.fst).count name = 0 := by
    rw [List.count_eq_zero]
    intro hname
    obtain ⟨member, hmember, rfl⟩ := List.mem_map.mp hname
    exact (hadded member hmember).1 hknown
  apply HasOnly.perm hperm
  constructor
  · rw [List.map_append, List.count_append, honly.1, hnone]
  · exact List.mem_append_left _ hmem

/-- A known name that does not stay is the name of no member. -/
theorem Edits.not_mem
    (h : Edits known kept edited)
    (hknown : name ∈ known)
    (hgone : name ∉ kept.map Prod.fst) :
    name ∉ edited.map Prod.fst := by
  obtain ⟨added, hadded, hperm⟩ := h
  rw [(hperm.map Prod.fst).mem_iff, List.map_append, List.mem_append]
  rintro (hmem | hmem)
  · exact hgone hmem
  · obtain ⟨member, hmember, rfl⟩ := List.mem_map.mp hmem
    exact (hadded member hmember).1 hknown

theorem fieldOf?_of_hasOnly
    (h : HasOnly members name json)
    (default : α)
    (read : Json → Option α) :
    fieldOf? members name default read = read json := by
  rw [fieldOf?, hasOnly_iff.mp h]

theorem fieldOf?_of_not_mem
    (h : name ∉ members.map Prod.fst)
    (default : α)
    (read : Json → Option α) :
    fieldOf? members name default read = some default := by
  have hvalues : valuesOf name members = [] := by
    rw [← List.length_eq_zero_iff, length_valuesOf, List.count_eq_zero]
    exact h
  rw [fieldOf?, hvalues]

theorem isIntegral_object_iff :
    (Json.object members).isIntegral = true ↔
      ∀ member ∈ members, member.2.isIntegral = true := by
  rw [isIntegral, areIntegralMembers_iff]

theorem isIntegral_ofInt (n : Int) : (ofInt n).isIntegral = true := by
  cases n <;> rfl

/-- An edit leaves values that can be written. -/
theorem Edits.isIntegral
    (h : Edits known kept edited)
    (hkept : ∀ member ∈ kept, member.2.isIntegral = true) :
    (Json.object edited).isIntegral = true := by
  obtain ⟨added, hadded, hperm⟩ := h
  rw [isIntegral_object_iff]
  intro member hmember
  rcases List.mem_append.mp (hperm.mem_iff.mp hmember) with hmem | hmem
  · exact hkept member hmem
  · have hbare := (hadded member hmem).2
    cases hjson : member.2 with
    | null | bool | text => rfl
    | number | unpaired | array | object =>
        rw [hjson] at hbare
        exact absurd hbare Bool.false_ne_true

end Edits
end Json

namespace Config

variable {part : Section}

section Reading

/-- Reads a section. -/
def Section.ofJson? : (part : Section) → Json → Option part.Content
  | dispatcher => DispatcherConfig.ofJson?
  | logging => LoggingConfig.ofJson?
  | console => ConsoleConfig.ofJson?

/-- Reads a field. -/
def Field.ofJson? : {part : Section} → (field : Field part) → Json → Option field.Value
  | _, defaultPriority => Json.asInt32?
  | _, adminClass => Json.asInt32?
  | _, adminCommand => Json.asText?
  | _, catchPanics => Json.asFlag?
  | _, level => Json.asText?
  | _, format => Json.asText?
  | _, timerIntervalMs => Json.asUInt64?

/-- The JSON value of a field. -/
def Field.toJson : {part : Section} → (field : Field part) → field.Value → Json
  | _, defaultPriority => fun value => .ofInt value.toInt
  | _, adminClass => fun value => .ofInt value.toInt
  | _, adminCommand => .text
  | _, catchPanics => .bool
  | _, level => .text
  | _, format => .text
  | _, timerIntervalMs => fun value => .ofNat value.toNat

theorem Field.ofJson?_toJson
    (field : Field part)
    (value : field.Value) :
    field.ofJson? (field.toJson value) = some value := by
  cases field with
  | defaultPriority | adminClass => exact Json.asInt32?_eq_some_iff.mpr rfl
  | adminCommand | level | format => rfl
  | catchPanics => rfl
  | timerIntervalMs => exact Json.holdsBelow_uint64.read_eq_some_iff.mpr rfl

theorem Field.isIntegral_toJson
    (field : Field part)
    (value : field.Value) :
    (field.toJson value).isIntegral = true := by
  cases field with
  | defaultPriority | adminClass => exact Json.isIntegral_ofInt _
  | adminCommand | level | format => rfl
  | catchPanics => rfl
  | timerIntervalMs => rfl

/-- A section is read from an object if each of its fields is. -/
theorem Section.ofJson?_object
    {members : List (String × Json)}
    {content : part.Content}
    (h :
      ∀ field : Field part,
        Json.fieldOf? members field.name field.default field.ofJson? =
          some (field.of content)) :
    part.ofJson? (.object members) = some content := by
  have hcollect :
      part.ofJson? (.object members) =
        part.collect fun field =>
          Json.fieldOf? members field.name field.fallback field.ofJson? := by
    cases part <;> rfl
  simp only [hcollect, Field.fallback_eq_default]
  exact Section.collect_eq_some_iff.mpr h

/-- What is read of a section among the members of a whole configuration. -/
def Section.among? (part : Section) (members : List (String × Json)) : Option part.Content :=
  Json.fieldOf? members part.name (({} : Config).content part) part.ofJson?

/-- A configuration is read from an object section by section. -/
theorem ofJson?_object (members : List (String × Json)) :
    ofJson? (.object members) = collect fun part => part.among? members := by
  rfl

theorem ofJson?_of_sections
    {members : List (String × Json)}
    {config : Config}
    (h : ∀ part, Section.among? part members = some (config.content part)) :
    ofJson? (.object members) = some config := by
  rw [ofJson?_object]
  exact collect_eq_some_iff.mpr h

theorem ofJson?_congr
    {members others : List (String × Json)}
    (h : ∀ part, Section.among? part members = Section.among? part others) :
    ofJson? (.object members) = ofJson? (.object others) := by
  rw [ofJson?_object, ofJson?_object]
  exact congrArg collect (funext h)

end Reading

section Edited

variable {config : Config} {holds : Section → Bool}
variable {keeps : {part : Section} → Field part → Bool}
variable {members : List (String × Json)}

/-- A configuration with the default in every field that does not stay. -/
def reset
    (config : Config)
    (stays : {part : Section} → Field part → Bool) :
    Config :=
  ofValues fun field => if stays field then config.get field else field.default

/-- The members of a section of which only some fields are kept. -/
def keptMembers
    (config : Config)
    (keeps : {part : Section} → Field part → Bool)
    (part : Section) :
    List (String × Json) :=
  (part.fields.filter fun field => keeps field).map fun field =>
    (field.name, field.toJson (config.get field))

/-- The names of the fields of a section. -/
def Section.names (part : Section) : List String :=
  part.fields.map Field.name

/-- The names of the sections. -/
def sectionNames : List String :=
  Section.all.map Section.name

/--
What can become of the JSON form of a configuration: the sections that are not held are
taken out, and in every other section the fields that are not kept; values without
parts are added under unknown names, and the members change their order.
-/
def Edited
    (config : Config)
    (holds : Section → Bool)
    (keeps : {part : Section} → Field part → Bool)
    (members : List (String × Json)) :
    Prop :=
  ∃ inner : Section → List (String × Json),
    (∀ part, Json.Edits part.names (config.keptMembers keeps part) (inner part)) ∧
      Json.Edits sectionNames
        ((Section.all.filter holds).map fun part => (part.name, .object (inner part)))
        members

/-- Nothing is taken out of the JSON form itself. -/
theorem edited_toJson (config : Config) :
    ∃ members,
      config.toJson = .object members ∧
        config.Edited (fun _ => true) (fun _ => true) members := by
  have hedits :
      ∀ (known : List String) (members : List (String × Json)),
        Json.Edits known members members := by
    intro known members
    refine ⟨[], ?_, ?_⟩
    · simp
    · rw [List.append_nil]
  refine ⟨_, rfl, config.keptMembers fun _ => true, ?_, hedits sectionNames _⟩
  intro part
  exact hedits part.names _

theorem Section.nodup_names (part : Section) : part.names.Nodup := by
  cases part <;> decide

/-- **A section is read from its edited object**, with the default for what is gone. -/
theorem Section.ofJson?_edited
    (h : Json.Edits part.names (config.keptMembers keeps part) members) :
    part.ofJson? (.object members) = some ((config.reset keeps).content part) := by
  have hnames :
      (config.keptMembers keeps part).map Prod.fst =
        (part.fields.filter fun field => keeps field).map Field.name := by
    simp [keptMembers]
  have hnodup : ((config.keptMembers keeps part).map Prod.fst).Nodup := by
    rw [hnames]
    exact part.nodup_names.sublist (List.filter_sublist.map _)
  apply Section.ofJson?_object
  intro field
  have hknown : field.name ∈ part.names := List.mem_map_of_mem (mem_fields field)
  have hvalue :
      field.of ((config.reset keeps).content part) = (config.reset keeps).get field :=
    rfl
  rw [hvalue, reset, get_ofValues]
  by_cases hkeeps : keeps field = true
  · have hmem :
        (field.name, field.toJson (config.get field)) ∈ config.keptMembers keeps part := by
      apply List.mem_map_of_mem
      exact List.mem_filter.mpr ⟨mem_fields field, hkeeps⟩
    rw [if_pos hkeeps, Json.fieldOf?_of_hasOnly (h.hasOnly hnodup hknown hmem),
      Field.ofJson?_toJson]
  · have hgone : field.name ∉ (config.keptMembers keeps part).map Prod.fst := by
      rw [hnames]
      intro hmem
      obtain ⟨other, hother, hname⟩ := List.mem_map.mp hmem
      rw [Field.name_inj] at hname
      subst hname
      exact hkeeps (List.mem_filter.mp hother).2
    rw [if_neg hkeeps, Json.fieldOf?_of_not_mem (h.not_mem hknown hgone)]

/-- **A configuration is read from its edited form**, with the default for what is gone. -/
theorem ofJson?_edited
    (h : config.Edited holds keeps members) :
    ofJson? (.object members) =
      some (config.reset fun {part} field => holds part && keeps field) := by
  obtain ⟨inner, hinner, hmembers⟩ := h
  have hnames :
      ((Section.all.filter holds).map fun part =>
          (part.name, Json.object (inner part))).map Prod.fst =
        (Section.all.filter holds).map Section.name := by
    simp
  have hnodup : ((Section.all.filter holds).map Section.name).Nodup := by
    have hall : (Section.all.map Section.name).Nodup := by decide
    exact hall.sublist (List.filter_sublist.map _)
  apply ofJson?_of_sections
  intro part
  have hknown : part.name ∈ sectionNames := List.mem_map_of_mem part.mem_all
  unfold Section.among?
  by_cases hholds : holds part = true
  · have hmem :
        (part.name, Json.object (inner part)) ∈
          (Section.all.filter holds).map fun part =>
            (part.name, Json.object (inner part)) := by
      apply List.mem_map_of_mem
      exact List.mem_filter.mpr ⟨part.mem_all, hholds⟩
    rw [Json.fieldOf?_of_hasOnly (hmembers.hasOnly (hnames ▸ hnodup) hknown hmem),
      Section.ofJson?_edited (hinner part)]
    congr 1
    apply content_eq
    intro field
    simp [reset, hholds]
  · have hgone :
        part.name ∉
          ((Section.all.filter holds).map fun part =>
            (part.name, Json.object (inner part))).map Prod.fst := by
      rw [hnames]
      intro hmem
      obtain ⟨other, hother, hname⟩ := List.mem_map.mp hmem
      rw [Section.name_inj] at hname
      subst hname
      exact hholds (List.mem_filter.mp hother).2
    rw [Json.fieldOf?_of_not_mem (hmembers.not_mem hknown hgone)]
    congr 1
    apply content_eq
    intro field
    simp [reset, hholds, Field.default]

/-- An edited form can be written, and is read back from its text. -/
theorem Edited.read?_write (h : config.Edited holds keeps members) :
    Json.read? (Json.object members).write = some (.object members) := by
  obtain ⟨inner, hinner, hmembers⟩ := h
  apply Json.read?_write
  apply hmembers.isIntegral
  intro member hmember
  obtain ⟨part, _, rfl⟩ := List.mem_map.mp hmember
  apply (hinner part).isIntegral
  intro member hmember
  obtain ⟨field, _, rfl⟩ := List.mem_map.mp hmember
  exact field.isIntegral_toJson _

/-- A section without members is read like one that is missing. -/
theorem ofJson?_empty_section
    {before after : List (String × Json)}
    (hgone : part.name ∉ (before ++ after).map Prod.fst) :
    ofJson? (.object (before ++ (part.name, .object []) :: after)) =
      ofJson? (.object (before ++ after)) := by
  have hempty : part.ofJson? (.object []) = some (({} : Config).content part) :=
    Section.ofJson?_object fun _ => rfl
  apply ofJson?_congr
  intro other
  unfold Section.among?
  by_cases hsame : other = part
  · subst hsame
    have honly :
        Json.HasOnly (before ++ (other.name, .object []) :: after) other.name
          (.object []) := by
      have hperm :
          (before ++ (other.name, Json.object []) :: after).Perm
            ((other.name, .object []) :: (before ++ after)) :=
        List.perm_middle
      refine Json.HasOnly.perm hperm ⟨?_, List.mem_cons_self⟩
      rw [List.map_cons, List.count_cons_self, List.count_eq_zero.mpr hgone]
    rw [Json.fieldOf?_of_hasOnly honly, Json.fieldOf?_of_not_mem hgone, hempty]
  · have hname : part.name ≠ other.name := fun h => hsame (Section.name_inj.mp h).symm
    simp [Json.fieldOf?, Json.valuesOf, hname]

end Edited
end Config

open Config in
/--
**The JSON form of a configuration is lossless, and defaults fill exactly the gaps.**

Whatever is taken out of the JSON form of a configuration, however its members are
ordered and whatever plain members are added under unknown names: it is read, as a value
and from its text, and every field has its value, or its default if the field or its
section was taken out.  The JSON form itself is such a form, so it is read back.  To
take a section out is the same as to leave it empty, and the empty object gives the
default configuration.
-/
theorem config_json_is_lossless :
    (∀ (config : Config)
        (holds : Section → Bool)
        (keeps : {part : Section} → Field part → Bool)
        (members : List (String × Json)),
        config.Edited holds keeps members →
        ∃ result,
          Config.ofJson? (.object members) = some result ∧
            (Json.read? (Json.object members).write).bind Config.ofJson? =
              some result ∧
            ∀ {part : Section} (field : Field part),
              result.get field =
                if holds part && keeps field then config.get field
                else field.default) ∧
      (∀ config : Config,
        (∃ members,
          config.toJson = .object members ∧
            config.Edited (fun _ => true) (fun _ => true) members) ∧
          (Json.read? config.toJson.write).bind Config.ofJson? = some config) ∧
      (∀ (part : Section) (before after : List (String × Json)),
        part.name ∉ (before ++ after).map Prod.fst →
        Config.ofJson? (.object (before ++ (part.name, .object []) :: after)) =
          Config.ofJson? (.object (before ++ after))) ∧
      Config.ofJson? (.object []) = some {} := by
  have hedited :
      ∀ (config : Config)
        (holds : Section → Bool)
        (keeps : {part : Section} → Field part → Bool)
        (members : List (String × Json)),
        config.Edited holds keeps members →
        (Json.read? (Json.object members).write).bind Config.ofJson? =
          some (config.reset fun {part} field => holds part && keeps field) := by
    intro config holds keeps members h
    rw [h.read?_write, Option.bind_some, ofJson?_edited h]
  refine ⟨?_, ?_, ?_, rfl⟩
  · intro config holds keeps members h
    refine ⟨_, ofJson?_edited h, hedited config holds keeps members h, ?_⟩
    intro part field
    exact get_ofValues _ field
  · intro config
    obtain ⟨members, hmembers, h⟩ := config.edited_toJson
    refine ⟨⟨members, hmembers, h⟩, ?_⟩
    rw [hmembers, hedited config _ _ members h]
    rfl
  · intro part before after hgone
    exact ofJson?_empty_section hgone

namespace GappyForm

/-- A configuration that differs from the default in every section. -/
def config : Config where
  dispatcher := { defaultPriority := -2147483648, adminCommand := "say \"\\\"" }
  logging := { level := "debug" }
  console := { timerIntervalMs := 18446744073709551615 }

/-- The section on the console is taken out. -/
def holds (part : Config.Section) : Bool :=
  part != .console

/-- Two fields of the first section are kept, and one of the second. -/
def keeps : {part : Config.Section} → Config.Field part → Bool
  | _, .defaultPriority => true
  | _, .adminCommand => true
  | _, .format => true
  | _, _ => false

/-- What is left of a section, shuffled, among other members. -/
def inner : Config.Section → List (String × Json)
  | .dispatcher =>
      [("admin_command", .text "say \"\\\""), ("level", .null),
        ("default_priority", .number (.integer true 2147483648))]
  | .logging => [("format", .text "pretty")]
  | .console => []

/-- What is left of the whole, shuffled, among other members of which two share a name. -/
def members : List (String × Json) :=
  [("extra", .bool true), ("extra", .text ""), ("logging", .object (inner .logging)),
    ("dispatcher", .object (inner .dispatcher))]

theorem edited : config.Edited holds keeps members := by
  refine ⟨inner, ?_, ?_⟩
  · intro part
    cases part with
    | dispatcher =>
        refine ⟨[("level", .null)], by decide, ?_⟩
        show
          List.Perm ([("admin_command", _), ("level", _)] ++ [("default_priority", _)])
            ([("default_priority", _)] ++ [("admin_command", _), ("level", _)])
        exact List.perm_append_comm
    | logging => exact ⟨[], by simp, .refl _⟩
    | console => exact ⟨[], by simp, .refl _⟩
  · refine ⟨[("extra", .bool true), ("extra", .text "")], by decide, ?_⟩
    show
      List.Perm ([("extra", _), ("extra", _)] ++ [("logging", _), ("dispatcher", _)])
        [("dispatcher", _), ("logging", _), ("extra", _), ("extra", _)]
    exact List.perm_append_comm.trans (.swap _ _ _)

end GappyForm

open GappyForm in
/--
The section that was taken out has its default, and so has a field that was taken out of
another section; the lowest priority and the quoted word are read back.
-/
theorem gappy_form_is_filled :
    config.Edited holds keeps members ∧
      ∃ result,
        (Json.read? (Json.object members).write).bind Config.ofJson? = some result ∧
          result.get .timerIntervalMs = 1000 ∧
          result.get .level = "info" ∧
          result.get .defaultPriority = -2147483648 ∧
          result.get .adminCommand = "say \"\\\"" := by
  refine ⟨edited, ?_⟩
  obtain ⟨result, _, hresult, hfields⟩ :=
    config_json_is_lossless.1 config holds keeps members edited
  refine ⟨result, hresult, ?_, ?_, ?_, ?_⟩
  · exact hfields .timerIntervalMs
  · exact hfields .level
  · exact hfields .defaultPriority
  · exact hfields .adminCommand

end ScriptHub
