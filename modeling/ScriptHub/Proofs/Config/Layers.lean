import ScriptHub.Proofs.Config.Given

/-!
# The sources of a configuration are merged field by field

Every field of a configuration has a variable of its own in the environment.  Laying a
variable over the settings of a file changes what one field is given and nothing else,
so after all variables a field is given what its variable says, or what the file says,
or nothing.

**Results.**
* `Environment.given?_overlayAll_of_mem`, `Environment.given?_overlayAll_of_not_set`:
  what a field is given after all variables.
* `layers_are_merged_per_field`: each field of a loaded configuration is settled by its
  own variable, its own member of the file and its own default.
-/

namespace ScriptHub

open Config (Section Field)

namespace Environment

variable {part : Section} {field : Field part} {lower : Setting} {name : String}
variable {entry : String × String} {environment : List (String × String)}

/-- The lower-cased name of the variable of a field. -/
def nameOf (field : Field part) : List Char :=
  mark ++ part.name.toList ++ "__".toList ++ field.name.toList

/-- A name is that of the variable of a field, in any letter case. -/
def Sets (name : String) (field : Field part) : Prop :=
  Text.lower name.toList = nameOf field

/-- A name starts with the mark of the hub, in any letter case. -/
def Counts (name : String) : Prop :=
  mark <+: Text.lower name.toList

instance (name : String) (field : Field part) : Decidable (Sets name field) :=
  inferInstanceAs (Decidable (_ = _))

instance (name : String) : Decidable (Counts name) :=
  inferInstanceAs (Decidable (_ <+: _))

/-- A variable that counts is the one of a field. -/
def IsKnown (name : String) : Prop :=
  Counts name → ∃ (part : Section) (field : Field part), Sets name field

section Names

theorem behind?_eq_none_iff {start cs : List Char} :
    behind? start cs = none ↔ ¬ start <+: cs := by
  induction start generalizing cs with
  | nil => simp [behind?]
  | cons w ws ih =>
      cases cs with
      | nil => simp [behind?]
      | cons c cs =>
          by_cases h : w = c
          · simp [behind?, h, ih]
          · simp [behind?, h]

theorem pathOf?_of_not_counts (h : ¬ Counts name) : pathOf? name = none := by
  rw [pathOf?, behind?_eq_none_iff.mpr h]
  rfl

/-- The variable of a field leads to the field. -/
theorem pathOf?_of_sets (h : Sets name field) :
    pathOf? name = some (Setting.pathTo field) := by
  rw [pathOf?, h]
  cases field <;> decide

/-- A variable is that of at most one field. -/
theorem key_eq_of_sets
    {part' : Section}
    {field' : Field part'}
    (h : Sets name field)
    (h' : Sets name field') :
    field'.key = field.key := by
  have hpath : Setting.pathTo field' = Setting.pathTo field := by
    rw [← Option.some_inj, ← pathOf?_of_sets h, ← pathOf?_of_sets h']
  obtain ⟨hpart, hfield⟩ := List.cons_eq_cons.mp hpath
  obtain ⟨hfield, _⟩ := List.cons_eq_cons.mp hfield
  exact Prod.ext (Setting.Step.member.inj hpart) (Setting.Step.member.inj hfield)

theorem counts_of_sets (h : Sets name field) : Counts name := by
  unfold Counts
  rw [h, nameOf, List.append_assoc, List.append_assoc]
  exact List.prefix_append _ _

end Names

section Overlay

/-- The text of a variable stands for no table. -/
theorem isTable_valueOf (text : String) : (valueOf text).isTable = false := by
  unfold valueOf
  dsimp only
  split
  · rfl
  · split
    · rfl
    · split
      · rfl
      · split <;> rfl

theorem overlay_of_not_counts (h : ¬ Counts entry.1) : overlay lower entry = lower := by
  rw [overlay, pathOf?_of_not_counts h]

theorem overlay_of_sets (h : Sets entry.1 field) :
    overlay lower entry = (valueOf entry.2).layAt (Setting.pathTo field) lower := by
  rw [overlay, pathOf?_of_sets h]

/-- The variable of a field gives the field its value. -/
theorem given?_overlay_of_sets (h : Sets entry.1 field) :
    (overlay lower entry).given? field = some (valueOf entry.2) := by
  rw [overlay_of_sets h, Setting.given?_layAt_self (isTable_valueOf entry.2)]

/-- Any other variable leaves the field what it was given. -/
theorem given?_overlay_of_not_sets
    (hknown : IsKnown entry.1)
    (h : ¬ Sets entry.1 field) :
    (overlay lower entry).given? field = lower.given? field := by
  by_cases hcounts : Counts entry.1
  · obtain ⟨other, field', hsets⟩ := hknown hcounts
    have hkey : field.key ≠ field'.key := by
      intro hkey
      obtain ⟨rfl, hfield⟩ := Sigma.mk.inj (Field.key_inj hkey)
      exact h (eq_of_heq hfield ▸ hsets)
    rw [overlay_of_sets hsets, Setting.given?_layAt_of_ne hkey]
  · rw [overlay_of_not_counts hcounts]

theorem isSectioned_overlay
    (hknown : IsKnown entry.1)
    (h : lower.IsSectioned) :
    (overlay lower entry).IsSectioned := by
  by_cases hcounts : Counts entry.1
  · obtain ⟨_, field, hsets⟩ := hknown hcounts
    rw [overlay_of_sets hsets]
    exact h.layAt field
  · rwa [overlay_of_not_counts hcounts]

theorem isSectioned_overlayAll
    (hknown : ∀ entry ∈ environment, IsKnown entry.1)
    (h : lower.IsSectioned) :
    (overlayAll lower environment).IsSectioned := by
  induction environment generalizing lower with
  | nil => exact h
  | cons entry rest ih =>
      obtain ⟨hentry, hrest⟩ := List.forall_mem_cons.mp hknown
      exact ih hrest (isSectioned_overlay hentry h)

/-- Without a variable of its own a field is left what it was given. -/
theorem given?_overlayAll_of_not_set
    (hknown : ∀ entry ∈ environment, IsKnown entry.1)
    (h : ∀ entry ∈ environment, ¬ Sets entry.1 field) :
    (overlayAll lower environment).given? field = lower.given? field := by
  induction environment generalizing lower with
  | nil => rfl
  | cons entry rest ih =>
      obtain ⟨hentry, hrest⟩ := List.forall_mem_cons.mp hknown
      obtain ⟨hunset, hothers⟩ := List.forall_mem_cons.mp h
      calc (overlayAll (overlay lower entry) rest).given? field
        _ = (overlay lower entry).given? field := ih hrest hothers
        _ = lower.given? field := given?_overlay_of_not_sets hentry hunset

/-- The only variable of a field gives the field its value. -/
theorem given?_overlayAll_of_mem
    (hknown : ∀ entry ∈ environment, IsKnown entry.1)
    (honce : environment.Pairwise fun a b => Sets a.1 field → ¬ Sets b.1 field)
    (hmem : entry ∈ environment)
    (h : Sets entry.1 field) :
    (overlayAll lower environment).given? field = some (valueOf entry.2) := by
  induction environment generalizing lower with
  | nil => exact absurd hmem List.not_mem_nil
  | cons first rest ih =>
      obtain ⟨_, hrest⟩ := List.forall_mem_cons.mp hknown
      obtain ⟨hfirst, hlater⟩ := List.pairwise_cons.mp honce
      rcases List.mem_cons.mp hmem with rfl | hmem
      · have hunset : ∀ other ∈ rest, ¬ Sets other.1 field :=
          fun other hother => hfirst other hother h
        calc (overlayAll (overlay lower entry) rest).given? field
          _ = (overlay lower entry).given? field := given?_overlayAll_of_not_set hrest hunset
          _ = some (valueOf entry.2) := given?_overlay_of_sets h
      · exact ih hrest hlater hmem

end Overlay
end Environment

namespace Config

open Environment (Sets Counts IsKnown overlayAll valueOf)

variable {part : Section} {field : Field part}
variable {file : Option String} {lower : Setting} {config alone : Config}
variable {entry : String × String} {environment : List (String × String)}

/-- Loading reads what the variables make of the settings of the file. -/
theorem load_eq_ok_iff (h : readFile? file = .ok lower) :
    load file environment = .ok config ↔
      ofSetting? (overlayAll lower environment) = some config := by
  unfold load
  rw [h]
  simp only [bind, Except.bind]
  cases ofSetting? (overlayAll lower environment) with
  | none => simp
  | some loaded => simp [pure, Except.pure]

/-- A variable that is the only setting gives its field its value. -/
theorem get_of_load_alone
    (hload : load none [entry] = .ok alone)
    (h : Sets entry.1 field) :
    field.ofSetting? (valueOf entry.2) = some (alone.get field) := by
  have hknown : ∀ other ∈ [entry], IsKnown other.1 := by
    intro other hother _
    obtain rfl := List.mem_singleton.mp hother
    exact ⟨_, field, h⟩
  have hsectioned := Environment.isSectioned_overlayAll hknown Setting.isSectioned_empty
  have hread := (ofSetting?_eq_some_iff hsectioned).mp ((load_eq_ok_iff rfl).mp hload) field
  have hgiven :
      (overlayAll (.table []) [entry]).given? field = some (valueOf entry.2) :=
    Environment.given?_overlay_of_sets h
  rwa [hgiven] at hread

/--
The sources of a configuration: a file that gives some fields values of their own types,
and an environment whose variables, as far as they count, are those of fields.  No field
has two variables, and each variable that counts loads as the only setting.
-/
structure Layered
    (file : Option String)
    (lower : Setting)
    (environment : List (String × String)) :
    Prop where
  reads : readFile? file = .ok lower
  sectioned : lower.IsSectioned
  typed :
    ∀ {part : Section} (field : Field part) {given : Setting},
      lower.given? field = some given →
      ∃ value, given = field.toSetting value
  known : ∀ entry ∈ environment, IsKnown entry.1
  once :
    ∀ {part : Section} (field : Field part),
      environment.Pairwise fun a b => Sets a.1 field → ¬ Sets b.1 field
  loads :
    ∀ entry ∈ environment,
      Counts entry.1 →
      ∃ alone, load none [entry] = .ok alone

/--
The value that the sources settle on for a field: the one that its variable has as the
only setting; without a variable, the one that the file gives; and without both, the
default.
-/
inductive Settles
    (lower : Setting)
    (environment : List (String × String))
    (field : Field part) :
    field.Value → Prop
  | fromVariable {entry : String × String} {alone : Config} :
      entry ∈ environment →
      Sets entry.1 field →
      load none [entry] = .ok alone →
      Settles lower environment field (alone.get field)
  | fromFile {value : field.Value} :
      (∀ entry ∈ environment, ¬ Sets entry.1 field) →
      lower.given? field = some (field.toSetting value) →
      Settles lower environment field value
  | byDefault :
      (∀ entry ∈ environment, ¬ Sets entry.1 field) →
      lower.given? field = none →
      Settles lower environment field field.default

/-- The sources settle on the value that is read for the field. -/
theorem Layered.exists_settles
    (h : Layered file lower environment)
    (field : Field part) :
    ∃ value,
      Settles lower environment field value ∧
        Setting.readPart? field.default field.ofSetting?
            ((overlayAll lower environment).given? field) =
          some value := by
  by_cases hset : ∃ entry ∈ environment, Sets entry.1 field
  · obtain ⟨entry, hmem, hsets⟩ := hset
    obtain ⟨alone, halone⟩ := h.loads entry hmem (Environment.counts_of_sets hsets)
    refine ⟨alone.get field, .fromVariable hmem hsets halone, ?_⟩
    rw [Environment.given?_overlayAll_of_mem h.known (h.once field) hmem hsets]
    exact get_of_load_alone halone hsets
  · have hunset : ∀ entry ∈ environment, ¬ Sets entry.1 field :=
      fun entry hmem hsets => hset ⟨entry, hmem, hsets⟩
    rw [Environment.given?_overlayAll_of_not_set h.known hunset]
    cases hgiven : lower.given? field with
    | none => exact ⟨field.default, .byDefault hunset hgiven, rfl⟩
    | some given =>
        obtain ⟨value, rfl⟩ := h.typed field hgiven
        exact ⟨value, .fromFile hunset hgiven, field.ofSetting?_toSetting value⟩

/-- **Layered sources load**, and each field has the value that they settle on. -/
theorem Layered.exists_load (h : Layered file lower environment) :
    ∃ config,
      load file environment = .ok config ∧
        ∀ {part : Section} (field : Field part),
          Settles lower environment field (config.get field) := by
  choose value hsettles hread using
    fun (part : Section) (field : Field part) => h.exists_settles field
  have hsectioned := Environment.isSectioned_overlayAll h.known h.sectioned
  refine ⟨ofValues fun {part} field => value part field, ?_, ?_⟩
  · rw [load_eq_ok_iff h.reads, ofSetting?_eq_some_iff hsectioned]
    intro part field
    rw [get_ofValues]
    exact hread part field
  · intro part field
    rw [get_ofValues]
    exact hsettles part field

/-- Two pairs of a file and an environment give a field the same. -/
structure GiveSame
    (lower lower' : Setting)
    (environment environment' : List (String × String))
    (field : Field part) :
    Prop where
  inFile : lower.given? field = lower'.given? field
  inEnvironment :
    ∀ text : String,
      (∃ name, (name, text) ∈ environment ∧ Sets name field) ↔
        ∃ name, (name, text) ∈ environment' ∧ Sets name field

/-- After all variables the field is given the same, too. -/
theorem GiveSame.overlayAll
    {file' : Option String}
    {lower' : Setting}
    {environment' : List (String × String)}
    (hsame : GiveSame lower lower' environment environment' field)
    (h : Layered file lower environment)
    (h' : Layered file' lower' environment') :
    (overlayAll lower environment).given? field =
      (overlayAll lower' environment').given? field := by
  by_cases hset : ∃ entry ∈ environment, Sets entry.1 field
  · obtain ⟨⟨name, text⟩, hmem, hsets⟩ := hset
    obtain ⟨name', hmem', hsets'⟩ := (hsame.inEnvironment text).mp ⟨name, hmem, hsets⟩
    rw [Environment.given?_overlayAll_of_mem h.known (h.once field) hmem hsets,
      Environment.given?_overlayAll_of_mem h'.known (h'.once field) hmem' hsets']
  · have hunset : ∀ entry ∈ environment, ¬ Sets entry.1 field :=
      fun entry hmem hsets => hset ⟨entry, hmem, hsets⟩
    have hunset' : ∀ entry ∈ environment', ¬ Sets entry.1 field := by
      rintro ⟨name, text⟩ hmem hsets
      obtain ⟨_, hmem, hsets⟩ := (hsame.inEnvironment text).mpr ⟨name, hmem, hsets⟩
      exact hunset _ hmem hsets
    rw [Environment.given?_overlayAll_of_not_set h.known hunset, hsame.inFile,
      Environment.given?_overlayAll_of_not_set h'.known hunset']

/-- The value of a field depends only on what the field itself is given. -/
theorem Layered.get_congr
    {file' : Option String}
    {lower' : Setting}
    {environment' : List (String × String)}
    {config' : Config}
    (h : Layered file lower environment)
    (h' : Layered file' lower' environment')
    (hload : load file environment = .ok config)
    (hload' : load file' environment' = .ok config')
    (hsame : GiveSame lower lower' environment environment' field) :
    config.get field = config'.get field := by
  have hsectioned := Environment.isSectioned_overlayAll h.known h.sectioned
  have hsectioned' := Environment.isSectioned_overlayAll h'.known h'.sectioned
  have hread :=
    (ofSetting?_eq_some_iff hsectioned).mp ((load_eq_ok_iff h.reads).mp hload) field
  have hread' :=
    (ofSetting?_eq_some_iff hsectioned').mp ((load_eq_ok_iff h'.reads).mp hload') field
  rw [hsame.overlayAll h h', hread'] at hread
  exact (Option.some.inj hread).symm

end Config

open Config in
/--
**The sources of a configuration are merged field by field.**

If a file gives some of the fields values of their own types, and the variables that
count are those of fields, one for each at most and each fit to be the only setting,
then the configuration loads, and every field has the value of its variable; or the
value that the file gives it, if it has no variable; or its default, if it has neither.
So two loaded configurations have the same value in a field whenever the field itself is
given the same, whatever becomes of the other fields, those of its section included.

Without a file, no field is given anything; and a text whose top-level names hold neither
dots nor brackets gives the fields what it says as TOML.
-/
theorem layers_are_merged_per_field :
    (∀ (file : Option String) (lower : Setting) (environment : List (String × String)),
        Layered file lower environment →
        ∃ config,
          Config.load file environment = .ok config ∧
            ∀ {part : Section} (field : Field part),
              Settles lower environment field (config.get field)) ∧
      (∀ (file file' : Option String)
          (lower lower' : Setting)
          (environment environment' : List (String × String))
          (config config' : Config),
          Layered file lower environment →
          Layered file' lower' environment' →
          Config.load file environment = .ok config →
          Config.load file' environment' = .ok config' →
          ∀ {part : Section} (field : Field part),
            GiveSame lower lower' environment environment' field →
            config.get field = config'.get field) ∧
      (readFile? none = .ok (.table []) ∧
        ∀ {part : Section} (field : Field part), (Setting.table []).given? field = none) ∧
      ∀ (text : String) (tree : Setting),
        Toml.read? (String.ofList (Toml.dropByteOrderMark text.toList)) = some tree →
        (∀ member ∈ tree.members, Setting.IsPlainName member.1) →
        readFile? (some text) = .ok tree := by
  refine ⟨?_, ?_, ⟨rfl, Setting.given?_empty⟩, ?_⟩
  · intro file lower environment h
    exact h.exists_load
  · intro file file' lower lower' environment environment' config config' h h' hload hload'
      part field hsame
    exact h.get_congr h' hload hload' hsame
  · intro text tree hread hplain
    exact readFile?_of_read? hread hplain

namespace TwoLayers

/-- A file with two fields of the dispatcher. -/
def text : String :=
  "[dispatcher]\nadmin_class = 7\ncatch_panics = false\n"

/-- What the file gives. -/
def tree : Setting :=
  .table
    [("dispatcher", .table [("admin_class", .integer 7), ("catch_panics", .flag false)])]

/-- A test for what the file gives, since settings have no decidable equality. -/
def isTree : Setting → Bool
  | .table [(part, .table [(first, .integer number), (second, .flag caught)])] =>
      part == "dispatcher" && first == "admin_class" && number == 7 &&
        second == "catch_panics" && !caught
  | _ => false

theorem eq_tree_of_isTree {setting : Setting} (h : isTree setting = true) : setting = tree := by
  unfold isTree at h
  split at h
  · simp only [Bool.and_eq_true, beq_iff_eq, Bool.not_eq_true'] at h
    obtain ⟨⟨⟨⟨rfl, rfl⟩, rfl⟩, rfl⟩, rfl⟩ := h
    rfl
  · cases h

/-- Variables of two fields, one of which the file has, and a variable of no field. -/
def environment : List (String × String) :=
  [("HUBHOOK__DISPATCHER__ADMIN_CLASS", "3"), ("PATH", "/bin"),
    ("hubhook__LOGGING__level", "debug")]

theorem layered : Config.Layered (some text) tree environment := by
  have hread :
      Toml.read? (String.ofList (Toml.dropByteOrderMark text.toList)) = some tree := by
    have hany :
        (Toml.read? (String.ofList (Toml.dropByteOrderMark text.toList))).any isTree =
          true := by
      decide +kernel
    obtain ⟨setting, hsetting, htree⟩ := (Option.any_eq_true _ _).mp hany
    rw [hsetting, eq_tree_of_isTree htree]
  have hplain : ∀ member ∈ tree.members, Setting.IsPlainName member.1 := by
    simp [tree, Setting.members, Setting.IsPlainName]
  have hpath : ¬ Environment.Counts "PATH" := by decide +kernel
  have hclass :
      Config.load none [("HUBHOOK__DISPATCHER__ADMIN_CLASS", "3")] =
        .ok { dispatcher := { adminClass := 3 } } := by
    decide +kernel
  have hlevel :
      Config.load none [("hubhook__LOGGING__level", "debug")] =
        .ok { logging := { level := "debug" } } := by
    decide +kernel
  constructor
  · exact Config.readFile?_of_read? hread hplain
  · refine ⟨rfl, ?_⟩
    intro part inner hinner
    cases part with
    | dispatcher =>
        obtain rfl := Option.some.inj hinner
        rfl
    | logging | console => cases (show none = some inner from hinner)
  · intro part field given hgiven
    cases field with
    | adminClass =>
        obtain rfl := Option.some.inj hgiven
        exact ⟨7, rfl⟩
    | catchPanics =>
        obtain rfl := Option.some.inj hgiven
        exact ⟨false, rfl⟩
    | defaultPriority | adminCommand | level | format | timerIntervalMs =>
        cases (show none = some given from hgiven)
  · simp only [environment, List.forall_mem_cons]
    refine ⟨?_, ?_, ?_, ?_⟩
    · exact fun _ => ⟨_, .adminClass, by decide +kernel⟩
    · exact fun hcounts => absurd hcounts hpath
    · exact fun _ => ⟨_, .level, by decide +kernel⟩
    · exact fun _ hmem => absurd hmem List.not_mem_nil
  · intro part field
    cases field <;> decide +kernel
  · simp only [environment, List.forall_mem_cons]
    refine ⟨?_, ?_, ?_, ?_⟩
    · exact fun _ => ⟨_, hclass⟩
    · exact fun hcounts => absurd hcounts hpath
    · exact fun _ => ⟨_, hlevel⟩
    · exact fun _ hmem => absurd hmem List.not_mem_nil

end TwoLayers

open TwoLayers in
/--
The class has the value of its variable and not that of the file, its neighbour in the
section has that of the file, and the level has that of its variable; the other
neighbours have their defaults.
-/
theorem two_layers_are_merged :
    Config.Layered (some text) tree environment ∧
      ∃ config,
        Config.load (some text) environment = .ok config ∧
          Config.Settles tree environment .adminClass (config.get .adminClass) ∧
          config =
            { dispatcher := { adminClass := 3, catchPanics := false }
              logging := { level := "debug" } } := by
  refine ⟨layered, ?_⟩
  obtain ⟨config, hload, hsettles⟩ := layers_are_merged_per_field.1 _ _ _ layered
  refine ⟨config, hload, hsettles .adminClass, ?_⟩
  have hvalue :
      Config.load (some text) environment =
        .ok
          { dispatcher := { adminClass := 3, catchPanics := false }
            logging := { level := "debug" } } := by
    decide +kernel
  rw [hload] at hvalue
  exact Except.ok.inj hvalue

end ScriptHub
