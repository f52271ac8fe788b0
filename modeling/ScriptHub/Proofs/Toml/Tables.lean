import Mathlib.Data.List.Nodup
import ScriptHub.Config.Path
import ScriptHub.Toml.Reader

/-!
# The tables of a TOML text have distinct names

While a TOML text is read, a name is put into a table only in the place of the member
that already has it, or behind all members if there is none.  So in the value of a text,
and in every table inside its tables, no name stands twice; a value like that is what
laying it over nothing gives.

**Results.**
* `Setting.layOver_nothing`: a value with distinct names is laid over nothing unchanged.
* `Toml.readsRegular`: the values in a text have distinct names.
* `Toml.isRegular_read?`: the value of a text is a table with distinct names.
-/

namespace ScriptHub

namespace Named

variable {α : Type} {name : String} {members : Named α}

theorem value?_eq_none_iff :
    members.value? name = none ↔ name ∉ members.map Prod.fst := by
  induction members with
  | nil => simp [value?]
  | cons member rest ih =>
      by_cases h : member.1 = name
      · simp [value?, h]
      · simp [value?, h, ih, Ne.symm h]

theorem mem_of_value?
    {value : α}
    (h : members.value? name = some value) :
    (name, value) ∈ members := by
  induction members with
  | nil => exact absurd h (by simp [value?])
  | cons member rest ih =>
      by_cases hname : member.1 = name
      · rw [value?, if_pos hname] at h
        obtain rfl := Option.some.inj h
        rw [← hname]
        exact List.mem_cons_self
      · rw [value?, if_neg hname] at h
        exact List.mem_cons_of_mem _ (ih h)

/-- A new name is put at the end. -/
theorem put_of_not_mem
    (h : name ∉ members.map Prod.fst)
    (value : α) :
    members.put name value = members ++ [(name, value)] := by
  induction members with
  | nil => rfl
  | cons member rest ih =>
      rw [List.map_cons, List.mem_cons, not_or] at h
      rw [put, if_neg (Ne.symm h.1), ih h.2, List.cons_append]

/-- A name that is there keeps its place. -/
theorem map_fst_put_of_mem
    (h : name ∈ members.map Prod.fst)
    (value : α) :
    (members.put name value).map Prod.fst = members.map Prod.fst := by
  induction members with
  | nil => exact absurd h List.not_mem_nil
  | cons member rest ih =>
      by_cases hname : member.1 = name
      · rw [put, if_pos hname, List.map_cons, List.map_cons, hname]
      · rw [List.map_cons, List.mem_cons] at h
        rw [put, if_neg hname, List.map_cons, List.map_cons,
          ih (h.resolve_left (Ne.symm hname))]

/-- Putting a member keeps names distinct. -/
theorem nodup_put
    (h : (members.map Prod.fst).Nodup)
    (value : α) :
    ((members.put name value).map Prod.fst).Nodup := by
  by_cases hmem : name ∈ members.map Prod.fst
  · rw [map_fst_put_of_mem hmem]
    exact h
  · rw [put_of_not_mem hmem, List.map_append, List.nodup_append_comm]
    exact List.nodup_cons.mpr ⟨hmem, h⟩

theorem mem_put
    {value : α}
    {member : String × α}
    (h : member ∈ members.put name value) :
    member = (name, value) ∨ member ∈ members := by
  induction members with
  | nil => exact .inl (List.mem_singleton.mp h)
  | cons first rest ih =>
      by_cases hname : first.1 = name
      · rw [put, if_pos hname, List.mem_cons] at h
        exact h.imp_right (List.mem_cons_of_mem _)
      · rw [put, if_neg hname, List.mem_cons] at h
        rcases h with rfl | h
        · exact .inr List.mem_cons_self
        · exact (ih h).imp_right (List.mem_cons_of_mem _)

end Named

namespace Setting

/-- Whether a value is a table. -/
def isTable : Setting → Bool
  | table _ => true
  | _ => false

/-- In a value and in every table inside its tables, no name stands twice. -/
inductive IsRegular : Setting → Prop
  | table {members : Named Setting} :
      (members.map Prod.fst).Nodup →
      (∀ member ∈ members, IsRegular member.2) →
      IsRegular (.table members)
  | plain {value : Setting} :
      value.isTable = false →
      IsRegular value

/-- A value that is no table replaces what it is laid over. -/
theorem layOver_of_plain
    {value : Setting}
    (h : value.isTable = false)
    (lower : Setting) :
    value.layOver lower = value := by
  cases value with
  | table => exact absurd h (by simp [isTable])
  | nothing | flag | integer | real | text | list => rfl

/-- Members with new names are laid behind the others. -/
theorem layMembers_of_nodup
    {upper lower : Named Setting}
    (hnodup : ((lower ++ upper).map Prod.fst).Nodup)
    (hsame : ∀ member ∈ upper, member.2.layOver nothing = member.2) :
    layMembers upper lower = lower ++ upper := by
  induction upper generalizing lower with
  | nil => rw [layMembers, List.append_nil]
  | cons member rest ih =>
      obtain ⟨name, value⟩ := member
      obtain ⟨hvalue, hrest⟩ := List.forall_mem_cons.mp hsame
      have hnew : name ∉ lower.map Prod.fst := by
        rw [List.map_append, List.map_cons] at hnodup
        intro hmem
        exact (List.nodup_append.mp hnodup).2.2 name hmem name List.mem_cons_self rfl
      have hlaid : layMember (name, value) lower = lower ++ [(name, value)] := by
        rw [layMember, Named.value?_eq_none_iff.mpr hnew, Option.getD_none, hvalue,
          Named.put_of_not_mem hnew]
      have hsplit : lower ++ (name, value) :: rest = lower ++ [(name, value)] ++ rest := by
        rw [List.append_assoc, List.singleton_append]
      rw [hsplit] at hnodup ⊢
      rw [layMembers, hlaid, ih hnodup hrest]

/-- **A value with distinct names is laid over nothing unchanged.** -/
theorem layOver_nothing
    {value : Setting}
    (h : value.IsRegular) :
    value.layOver nothing = value := by
  induction h with
  | plain hplain => exact layOver_of_plain hplain _
  | @table upper hnodup _ ih =>
      have hnames : (([] ++ upper).map Prod.fst).Nodup := hnodup
      calc (Setting.table upper).layOver nothing
        _ = .table (layMembers upper []) := rfl
        _ = .table upper := by rw [layMembers_of_nodup hnames ih, List.nil_append]

end Setting

namespace Toml

open Setting (IsRegular)

namespace Node

/-- The value that a node is closed to has distinct names. -/
inductive Regular : Node → Prop
  | value {setting : Setting} :
      setting.IsRegular →
      Regular (.value setting)
  | table {origin : Origin} {members : Named Node} :
      (members.map Prod.fst).Nodup →
      (∀ member ∈ members, Regular member.2) →
      Regular (.table origin members)
  | tables {earlier : List Setting} {members : Named Node} :
      Regular (.tables earlier members)

/-- Members have distinct names, and so has what they are closed to. -/
def AllRegular (members : Named Node) : Prop :=
  (members.map Prod.fst).Nodup ∧ ∀ member ∈ members, member.2.Regular

variable {members changed : Named Node} {name : String} {node : Node}

theorem closeAll_eq_map (members : Named Node) :
    closeAll members = members.map fun member => (member.1, member.2.close) := by
  induction members with
  | nil => rfl
  | cons member rest ih => rw [closeAll, ih, List.map_cons, closeMember]

theorem map_fst_closeAll (members : Named Node) :
    (closeAll members).map Prod.fst = members.map Prod.fst := by
  rw [closeAll_eq_map, List.map_map]
  rfl

theorem Regular.close (h : node.Regular) : node.close.IsRegular := by
  induction h with
  | value hsetting => exact hsetting
  | tables => exact .plain rfl
  | @table origin members hnodup _ ih =>
      have hnames := map_fst_closeAll members
      refine .table (by rwa [hnames]) ?_
      rw [closeAll_eq_map]
      intro member hmember
      obtain ⟨node, hnode, rfl⟩ := List.mem_map.mp hmember
      exact ih node hnode

theorem AllRegular.table
    (h : AllRegular members)
    (origin : Origin) :
    (table origin members).Regular :=
  .table h.1 h.2

theorem AllRegular.closeAll (h : AllRegular members) :
    (Setting.table (closeAll members)).IsRegular :=
  (h.table .headed).close

theorem allRegular_nil : AllRegular [] :=
  ⟨List.nodup_nil, fun _ h => absurd h List.not_mem_nil⟩

theorem AllRegular.put
    (h : AllRegular members)
    (hnode : node.Regular) :
    AllRegular (members.put name node) := by
  refine ⟨Named.nodup_put h.1 node, ?_⟩
  intro member hmember
  rcases Named.mem_put hmember with rfl | hmem
  · exact hnode
  · exact h.2 member hmem

/-- The members of a table that stands among members with distinct names. -/
theorem AllRegular.of_value?
    {origin : Origin}
    {inner : Named Node}
    (h : AllRegular members)
    (hvalue : members.value? name = some (.table origin inner)) :
    AllRegular inner := by
  cases h.2 _ (Named.mem_of_value? hvalue) with
  | table hnodup hinner => exact ⟨hnodup, hinner⟩

/-- What keeps names distinct in a table does so at the end of a path. -/
theorem allRegular_changeAt?
    {change : Named Node → Option (Named Node)}
    (hchange :
      ∀ {members changed},
        AllRegular members →
        change members = some changed →
        AllRegular changed)
    {path : List String}
    (h : AllRegular members)
    (hchanged : changeAt? change path members = some changed) :
    AllRegular changed := by
  induction path generalizing members changed with
  | nil => exact hchange h hchanged
  | cons name rest ih =>
      unfold changeAt? at hchanged
      split at hchanged
      · obtain ⟨inner, hinner, rfl⟩ := Option.map_eq_some_iff.mp hchanged
        exact h.put ((ih allRegular_nil hinner).table _)
      · rename_i hvalue
        obtain ⟨inner, hinner, rfl⟩ := Option.map_eq_some_iff.mp hchanged
        exact h.put ((ih (h.of_value? hvalue) hinner).table _)
      · obtain ⟨inner, hinner, rfl⟩ := Option.map_eq_some_iff.mp hchanged
        exact h.put .tables
      · exact absurd hchanged (by simp)

theorem allRegular_openTable?
    (h : AllRegular members)
    (hchanged : openTable? name members = some changed) :
    AllRegular changed := by
  unfold openTable? at hchanged
  split at hchanged
  · obtain rfl := Option.some.inj hchanged
    exact h.put (allRegular_nil.table _)
  · rename_i hvalue
    obtain rfl := Option.some.inj hchanged
    exact h.put ((h.of_value? hvalue).table _)
  · exact absurd hchanged (by simp)

theorem allRegular_openItem?
    (h : AllRegular members)
    (hchanged : openItem? name members = some changed) :
    AllRegular changed := by
  unfold openItem? at hchanged
  split at hchanged
  · obtain rfl := Option.some.inj hchanged
    exact h.put .tables
  · obtain rfl := Option.some.inj hchanged
    exact h.put .tables
  · exact absurd hchanged (by simp)

theorem allRegular_assign?
    {setting : Setting}
    (hsetting : setting.IsRegular)
    {key : List String}
    (h : AllRegular members)
    (hchanged : assign? setting key members = some changed) :
    AllRegular changed := by
  induction key generalizing members changed with
  | nil => exact absurd hchanged (by simp [assign?])
  | cons name rest ih =>
      cases rest with
      | nil =>
          unfold assign? at hchanged
          split at hchanged
          · obtain rfl := Option.some.inj hchanged
            exact h.put (.value hsetting)
          · exact absurd hchanged (by simp)
      | cons next rest =>
          unfold assign? at hchanged
          split at hchanged
          · obtain ⟨inner, hinner, rfl⟩ := Option.map_eq_some_iff.mp hchanged
            exact h.put ((ih allRegular_nil hinner).table _)
          · rename_i hvalue
            split at hchanged
            · exact absurd hchanged (by simp)
            · obtain ⟨inner, hinner, rfl⟩ := Option.map_eq_some_iff.mp hchanged
              exact h.put ((ih (h.of_value? hvalue) hinner).table _)
          · split at hchanged
            · exact absurd hchanged (by simp)
            · obtain ⟨inner, _, rfl⟩ := Option.map_eq_some_iff.mp hchanged
              exact h.put .tables
          · exact absurd hchanged (by simp)

end Node

section Values

variable {cs rest : List Char} {setting : Setting}

theorem integer?_isTable
    {value : Int}
    (h : integer? value = some setting) :
    setting.isTable = false := by
  unfold integer? at h
  split at h
  · obtain rfl := Option.some.inj h
    rfl
  · exact absurd h (by simp)

theorem real?_isTable
    {value : Double}
    (h : real? value = some setting) :
    setting.isTable = false := by
  unfold real? at h
  split at h
  · exact absurd h (by simp)
  · obtain rfl := Option.some.inj h
    rfl

theorem readBased?_isTable
    {base : Nat}
    (h : readBased? base cs = some setting) :
    setting.isTable = false := by
  obtain ⟨digits, _, hvalue⟩ := Option.bind_eq_some_iff.mp h
  exact integer?_isTable hvalue

theorem readDecimal?_isTable
    {negative : Bool}
    (h : readDecimal? negative cs = some setting) :
    setting.isTable = false := by
  unfold readDecimal? at h
  obtain ⟨digits, _, h⟩ := Option.bind_eq_some_iff.mp h
  split at h
  · exact integer?_isTable h
  · dsimp only at h
    split at h <;> obtain ⟨places, _, h⟩ := Option.bind_eq_some_iff.mp h
    all_goals
      split at h <;> obtain ⟨exponent, _, h⟩ := Option.bind_eq_some_iff.mp h
      all_goals exact real?_isTable h

theorem readSigned?_isTable
    {negative : Bool}
    (h : readSigned? negative cs = some setting) :
    setting.isTable = false := by
  unfold readSigned? at h
  split at h
  · obtain rfl := Option.some.inj h
    rfl
  · split at h
    · obtain rfl := Option.some.inj h
      rfl
    · exact readDecimal?_isTable h

theorem readNumber?_isTable
    (h : readNumber? cs = some setting) :
    setting.isTable = false := by
  unfold readNumber? at h
  split at h
  · exact readBased?_isTable h
  · exact readBased?_isTable h
  · exact readBased?_isTable h
  · exact readSigned?_isTable h
  · exact readSigned?_isTable h
  · exact readSigned?_isTable h

theorem readDateTime?_isTable
    (h : readDateTime? cs = some setting) :
    setting.isTable = false := by
  have htext :
      ∀ {written rest : List Char},
        (if rest.isEmpty then pure (.text (String.ofList written)) else none) =
            some setting →
          setting.isTable = false := by
    intro written rest hwritten
    split at hwritten
    · obtain rfl := Option.some.inj hwritten
      rfl
    · exact absurd hwritten (by simp)
  unfold readDateTime? at h
  dsimp only at h
  split at h
  · obtain ⟨_, _, h⟩ := Option.bind_eq_some_iff.mp h
    exact htext h
  · obtain ⟨_, _, h⟩ := Option.bind_eq_some_iff.mp h
    exact htext h
  · split at h
    · obtain ⟨_, _, h⟩ := Option.bind_eq_some_iff.mp h
      obtain ⟨_, _, h⟩ := Option.bind_eq_some_iff.mp h
      obtain ⟨_, _, h⟩ := Option.bind_eq_some_iff.mp h
      exact htext h
    · exact absurd h (by simp)

/-- A value that stands without quotes and brackets is no table. -/
theorem scalar?_isTable
    (h : scalar? cs = some setting) :
    setting.isTable = false := by
  unfold scalar? at h
  split at h
  · obtain rfl := Option.some.inj h
    rfl
  · split at h
    · obtain rfl := Option.some.inj h
      rfl
    · split at h
      · rename_i hnumber
        obtain rfl := Option.some.inj h
        exact readNumber?_isTable hnumber
      · exact readDateTime?_isTable h

/-- An array is no table. -/
theorem readItems?_isTable
    {fuel room : Nat}
    {items : List Setting}
    (h : readItems? fuel room items cs = some (setting, rest)) :
    setting.isTable = false := by
  induction fuel generalizing items cs with
  | zero => exact absurd h (by simp [readItems?])
  | succ fuel ih =>
      unfold readItems? at h
      split at h
      · exact absurd h (by simp)
      · obtain ⟨rfl, _⟩ := Prod.mk.inj (Option.some.inj h)
        rfl
      · split at h
        · exact absurd h (by simp)
        · split at h
          · exact ih h
          · obtain ⟨rfl, _⟩ := Prod.mk.inj (Option.some.inj h)
            rfl
          · exact absurd h (by simp)

/--
The values that are read with so much fuel have distinct names: values, tables in
braces, and the values of keys inside braces.
-/
structure ReadsRegular (fuel : Nat) : Prop where
  value :
    ∀ {room : Nat} {cs rest : List Char} {setting : Setting},
      readValue? fuel room cs = some (setting, rest) →
      setting.IsRegular
  members :
    ∀ {room : Nat} {members : Named Node} {cs rest : List Char} {setting : Setting},
      Node.AllRegular members →
      readMembers? fuel room members cs = some (setting, rest) →
      setting.IsRegular
  assignment :
    ∀ {room : Nat} {cs rest : List Char} {key : List String} {setting : Setting},
      readAssignment? fuel room cs = some (key, setting, rest) →
      setting.IsRegular

/-- The readers of values call each other with less fuel. -/
theorem readsRegular (fuel : Nat) : ReadsRegular fuel := by
  induction fuel with
  | zero =>
      constructor
      · intro room cs rest setting h
        exact absurd h (by simp [readValue?])
      · intro room members cs rest setting _ h
        exact absurd h (by simp [readMembers?])
      · intro room cs rest key setting h
        exact absurd h (by simp [readAssignment?])
  | succ fuel ih =>
      constructor
      · intro room cs rest setting h
        unfold readValue? at h
        split at h
        · obtain ⟨_, _, h⟩ := Option.map_eq_some_iff.mp h
          obtain ⟨rfl, _⟩ := Prod.mk.inj h
          exact .plain rfl
        · obtain ⟨_, _, h⟩ := Option.map_eq_some_iff.mp h
          obtain ⟨rfl, _⟩ := Prod.mk.inj h
          exact .plain rfl
        · exact absurd h (by simp)
        · exact absurd h (by simp)
        · exact .plain (readItems?_isTable h)
        · exact ih.members Node.allRegular_nil h
        · obtain ⟨value, hvalue, h⟩ := Option.map_eq_some_iff.mp h
          obtain ⟨rfl, _⟩ := Prod.mk.inj h
          exact .plain (scalar?_isTable hvalue)
      · intro room members cs rest setting hmembers h
        unfold readMembers? at h
        split at h
        · exact absurd h (by simp)
        · obtain ⟨rfl, _⟩ := Prod.mk.inj (Option.some.inj h)
          exact hmembers.closeAll
        · split at h
          · exact absurd h (by simp)
          · rename_i hassignment
            have hsetting := ih.assignment hassignment
            split at h
            · rename_i hassigned _
              exact ih.members (Node.allRegular_assign? hsetting hmembers hassigned) h
            · rename_i hassigned _
              obtain ⟨rfl, _⟩ := Prod.mk.inj (Option.some.inj h)
              exact (Node.allRegular_assign? hsetting hmembers hassigned).closeAll
            · exact absurd h (by simp)
      · intro room cs rest key setting h
        unfold readAssignment? at h
        split at h
        · exact absurd h (by simp)
        · split at h
          · split at h
            · exact absurd h (by simp)
            · obtain ⟨⟨value, after⟩, hvalue, h⟩ := Option.map_eq_some_iff.mp h
              obtain ⟨_, h⟩ := Prod.mk.inj h
              obtain ⟨rfl, _⟩ := Prod.mk.inj h
              exact ih.value hvalue
          · exact absurd h (by simp)

/-- The value of a statement has distinct names. -/
theorem isRegular_of_readStatement?
    {key : List String}
    (h : readStatement? cs = some (.assignment key setting, rest)) :
    setting.IsRegular := by
  have hheader :
      ∀ {closing : List Char} {make : List String → String → Statement} {cs : List Char},
        (∀ path name, make path name ≠ .assignment key setting) →
          readHeader? closing make cs ≠ some (.assignment key setting, rest) := by
    intro closing make cs hmake hread
    unfold readHeader? at hread
    split at hread
    · exact absurd hread (by simp)
    · split at hread
      · exact hmake _ _ (Prod.mk.inj (Option.some.inj hread)).1
      · exact absurd hread (by simp)
  unfold readStatement? at h
  split at h
  · exact absurd h (hheader (by simp))
  · exact absurd h (hheader (by simp))
  · split at h
    · obtain ⟨⟨value, after⟩, hvalue, h⟩ := Option.map_eq_some_iff.mp h
      obtain ⟨h, _⟩ := Prod.mk.inj h
      obtain ⟨_, rfl⟩ := Statement.assignment.inj h
      exact (readsRegular _).value hvalue
    · exact absurd h (by simp)

theorem isRegular_of_readStatements?
    {fuel : Nat}
    {statements : List Statement}
    (h : readStatements? fuel cs = some statements) :
    ∀ {key setting}, .assignment key setting ∈ statements → setting.IsRegular := by
  induction fuel generalizing cs statements with
  | zero => exact absurd h (by simp [readStatements?])
  | succ fuel ih =>
      unfold readStatements? at h
      split at h
      · exact absurd h (by simp)
      · obtain rfl := Option.some.inj h
        intro key setting hmem
        exact absurd hmem List.not_mem_nil
      · split at h
        · exact absurd h (by simp)
        · rename_i hstatement
          obtain ⟨next, _, h⟩ := Option.bind_eq_some_iff.mp h
          obtain ⟨later, hlater, rfl⟩ := Option.map_eq_some_iff.mp h
          intro key setting hmem
          rcases List.mem_cons.mp hmem with rfl | hmem
          · exact isRegular_of_readStatement? hstatement
          · exact ih hlater hmem

end Values

/-- Statements keep the names of all tables distinct. -/
theorem Tree.allRegular_addAll?
    {tree final : Tree}
    {statements : List Statement}
    (hvalues : ∀ {key setting}, .assignment key setting ∈ statements → setting.IsRegular)
    (htree : Node.AllRegular tree.root)
    (h : tree.addAll? statements = some final) :
    Node.AllRegular final.root := by
  induction statements generalizing tree with
  | nil =>
      obtain rfl := Option.some.inj h
      exact htree
  | cons statement rest ih =>
      obtain ⟨next, hnext, hrest⟩ := Option.bind_eq_some_iff.mp h
      have hregular : Node.AllRegular next.root := by
        cases statement with
        | header path name =>
            obtain ⟨root, hroot, rfl⟩ := Option.map_eq_some_iff.mp hnext
            exact Node.allRegular_changeAt? Node.allRegular_openTable? htree hroot
        | itemHeader path name =>
            obtain ⟨root, hroot, rfl⟩ := Option.map_eq_some_iff.mp hnext
            exact Node.allRegular_changeAt? Node.allRegular_openItem? htree hroot
        | assignment key value =>
            obtain ⟨root, hroot, rfl⟩ := Option.map_eq_some_iff.mp hnext
            have hvalue := hvalues List.mem_cons_self
            exact Node.allRegular_changeAt? (Node.allRegular_assign? hvalue) htree hroot
      exact ih (fun hmem => hvalues (List.mem_cons_of_mem _ hmem)) hregular hrest

/-- **The value of a text is a table, and its tables have distinct names.** -/
theorem isRegular_read?
    {text : String}
    {tree : Setting}
    (h : read? text = some tree) :
    tree.IsRegular ∧ ∃ members, tree = .table members := by
  unfold read? at h
  dsimp only at h
  split at h
  · exact absurd h (by simp)
  · rename_i hstatements
    obtain ⟨final, hfinal, rfl⟩ := Option.map_eq_some_iff.mp h
    have hregular :=
      Tree.allRegular_addAll? (isRegular_of_readStatements? hstatements)
        Node.allRegular_nil hfinal
    exact ⟨hregular.closeAll, _, rfl⟩

end Toml
end ScriptHub
