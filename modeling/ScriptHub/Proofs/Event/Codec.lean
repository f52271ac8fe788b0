import Mathlib.Data.List.Nodup
import ScriptHub.Event.Json
import ScriptHub.Proofs.Json.Plain
import ScriptHub.Proofs.Json.RoundTrip

/-!
# The codec of events is exact

An event is read from an object exactly if the object has one tag, which names a kind,
and exactly one member for every argument of that kind, with a value of the argument's
type.  Nothing is converted, the order of the members is of no account, and other
members are passed over, however often their names repeat.

Each reader is described by an equivalence: reading a type, the members of a
signature, the items of a signature, and an event from its values.  The written form
of an event satisfies the description because the names of a signature and the tag
are all different.

**Results.**
* `Event.ofMembers?_eq_some_iff`: which event an object's members make.
* `Event.isSome_ofMembers?_iff`: which members make an event at all.
* `event_codec_is_exact`: the same of JSON values, and the ways back from text.
-/

namespace ScriptHub

namespace Json

section Members

variable {members : List (String × Json)} {name : String} {value : Json}

/-- A name stands for exactly one member, which has a value. -/
def HasOnly
    (members : List (String × Json))
    (name : String)
    (value : Json) :
    Prop :=
  (members.map Prod.fst).count name = 1 ∧ (name, value) ∈ members

theorem length_valuesOf
    (name : String)
    (members : List (String × Json)) :
    (valuesOf name members).length = (members.map Prod.fst).count name := by
  simp only [valuesOf, List.length_map, ← List.countP_eq_length_filter, List.count,
    List.countP_map]
  rfl

theorem mem_valuesOf :
    value ∈ valuesOf name members ↔ (name, value) ∈ members := by
  simp [valuesOf]

/-- A name stands for exactly one member if only one value is found. -/
theorem hasOnly_iff :
    HasOnly members name value ↔ valuesOf name members = [value] := by
  constructor
  · rintro ⟨hcount, hmem⟩
    obtain ⟨only, honly⟩ :=
      List.length_eq_one_iff.mp ((length_valuesOf name members).trans hcount)
    have hvalue := mem_valuesOf.mpr hmem
    rw [honly, List.mem_singleton] at hvalue
    rw [honly, hvalue]
  · intro hvalues
    have hlength := length_valuesOf name members
    rw [hvalues] at hlength
    exact ⟨hlength.symm, mem_valuesOf.mp (hvalues ▸ List.mem_cons_self)⟩

/-- The only value of a name is the value of every member with that name. -/
theorem HasOnly.eq_of_mem
    {other : Json}
    (h : HasOnly members name value)
    (hmem : (name, other) ∈ members) :
    other = value := by
  have hother := mem_valuesOf.mpr hmem
  rw [hasOnly_iff.mp h] at hother
  exact List.mem_singleton.mp hother

/-- The order of the members is of no account. -/
theorem HasOnly.perm
    {permuted : List (String × Json)}
    (hperm : permuted.Perm members)
    (h : HasOnly members name value) :
    HasOnly permuted name value :=
  ⟨((hperm.map Prod.fst).count_eq name).trans h.1, hperm.mem_iff.mpr h.2⟩

/-- Where all names differ, every member is the only one of its name. -/
theorem hasOnly_of_nodup
    (hnodup : (members.map Prod.fst).Nodup)
    (hmem : (name, value) ∈ members) :
    HasOnly members name value :=
  ⟨List.count_eq_one_of_mem hnodup (List.mem_map_of_mem hmem), hmem⟩

end Members

/-- A scalar is a text, an integer or a word. -/
theorem isIntegral_of_isScalar
    {json : Json}
    (h : json.isScalar = true) :
    json.isIntegral = true := by
  cases json with
  | null | bool | text => rfl
  | number numeral =>
      cases numeral with
      | integer => rfl
      | decimal => exact absurd h Bool.false_ne_true
  | unpaired | array | object => exact absurd h Bool.false_ne_true

theorem isIntegral_object
    {members : List (String × Json)}
    (h : ∀ member ∈ members, member.2.isScalar = true) :
    (Json.object members).isIntegral = true := by
  rw [isIntegral, areIntegralMembers_iff]
  exact fun member hmem => isIntegral_of_isScalar (h member hmem)

theorem isIntegral_array
    {items : List Json}
    (h : ∀ item ∈ items, item.isScalar = true) :
    (Json.array items).isIntegral = true := by
  rw [isIntegral, areIntegral_iff]
  exact fun item hmem => isIntegral_of_isScalar (h item hmem)

section Integers

/-- A JSON value is read as an integer exactly if it is how the integer is written. -/
theorem asInt?_eq_some_iff
    {json : Json}
    {n : Int} :
    json.asInt? = some n ↔ json = ofInt n := by
  cases json with
  | number numeral =>
      cases numeral with
      | integer negative magnitude =>
          cases negative <;> cases magnitude <;> cases n <;>
            simp [asInt?, Numeral.toInt?, ofInt] <;> omega
      | decimal => cases n <;> simp [asInt?, Numeral.toInt?, ofInt]
  | null | bool | text | unpaired | array | object => cases n <;> simp [asInt?, ofInt]

theorem asIntBetween?_eq_some_iff
    {low high n : Int}
    {json : Json} :
    json.asIntBetween? low high = some n ↔
      (low ≤ n ∧ n ≤ high) ∧ json = ofInt n := by
  simp [asIntBetween?, Option.filter_eq_some_iff, asInt?_eq_some_iff, and_comm]

/-- A type holds the unsigned integers below a size. -/
structure HoldsBelow
    {α : Type}
    (size : Nat)
    (make : Nat → α)
    (code : α → Nat) :
    Prop where
  lt : ∀ a, code a < size
  code_make : ∀ n, n < size → code (make n) = n
  make_code : ∀ a, make (code a) = a

theorem holdsBelow_uint64 : HoldsBelow UInt64.size UInt64.ofNat UInt64.toNat :=
  ⟨UInt64.toNat_lt, fun _ => UInt64.toNat_ofNat_of_lt', fun _ => UInt64.ofNat_toNat⟩

theorem holdsBelow_uint16 : HoldsBelow UInt16.size UInt16.ofNat UInt16.toNat :=
  ⟨UInt16.toNat_lt, fun _ => UInt16.toNat_ofNat_of_lt', fun _ => UInt16.ofNat_toNat⟩

section Unsigned

variable {α : Type} {size : Nat} {make : Nat → α} {code : α → Nat} {json : Json}

/-- **Unsigned integers** are read from how they are written. -/
theorem HoldsBelow.read_eq_some_iff
    (h : HoldsBelow size make code)
    {a : α} :
    ((json.asIntBetween? 0 (size - 1)).map fun n => make n.toNat) = some a ↔
      json = ofNat (code a) := by
  simp only [Option.map_eq_some_iff, asIntBetween?_eq_some_iff]
  constructor
  · rintro ⟨n, ⟨⟨hlow, hhigh⟩, rfl⟩, rfl⟩
    obtain ⟨n, rfl⟩ := Int.eq_ofNat_of_zero_le hlow
    rw [Int.toNat_natCast, h.code_make n (by omega)]
    rfl
  · rintro rfl
    have hlt := h.lt a
    exact ⟨code a, ⟨⟨by omega, by omega⟩, rfl⟩, h.make_code a⟩

theorem HoldsBelow.exists_lt_iff (h : HoldsBelow size make code) :
    (∃ n, n < size ∧ json = .number (.integer false n)) ↔
      ∃ a, json = ofNat (code a) := by
  constructor
  · rintro ⟨n, hn, rfl⟩
    refine ⟨make n, ?_⟩
    rw [h.code_make n hn]
    rfl
  · rintro ⟨a, rfl⟩
    exact ⟨code a, h.lt a, rfl⟩

end Unsigned

/-- **Signed integers of 32 bits** are read from how they are written. -/
theorem asInt32?_eq_some_iff
    {json : Json}
    {value : Int32} :
    json.asInt32? = some value ↔ json = ofInt value.toInt := by
  have hmin : Int32.minValue.toInt = -2 ^ 31 := by decide
  have hmax : Int32.maxValue.toInt = 2 ^ 31 - 1 := by decide
  simp only [asInt32?, Option.map_eq_some_iff, asIntBetween?_eq_some_iff]
  constructor
  · rintro ⟨n, ⟨⟨hlow, hhigh⟩, rfl⟩, rfl⟩
    rw [Int32.toInt_ofInt_of_le (by omega) (by omega)]
  · rintro rfl
    exact ⟨value.toInt, ⟨⟨value.minValue_le_toInt, value.toInt_le⟩, rfl⟩,
      Int32.ofInt_toInt value⟩

end Integers
end Json

/--
Which JSON values a type takes.  An integer is written without fraction and
exponent, minus zero is none, and it lies in the range of the type.
-/
def FieldType.Admits : FieldType → Json → Prop
  | .text, json => ∃ value, json = .text value
  | .flag, json => ∃ value, json = .bool value
  | .uint64, json => ∃ n, n < UInt64.size ∧ json = .number (.integer false n)
  | .uint16, json => ∃ n, n < UInt16.size ∧ json = .number (.integer false n)
  | .int32, json =>
      (∃ n, n < Int32.size / 2 ∧ json = .number (.integer false n)) ∨
        ∃ n, 0 < n ∧ n ≤ Int32.size / 2 ∧ json = .number (.integer true n)

namespace FieldValue

/-! Values by their type. -/

theorem type_eq_text {value : FieldValue} :
    value.type = .text ↔ ∃ content, value = .text content := by
  cases value <;> simp [type]

theorem type_eq_flag {value : FieldValue} :
    value.type = .flag ↔ ∃ content, value = .flag content := by
  cases value <;> simp [type]

theorem type_eq_uint64 {value : FieldValue} :
    value.type = .uint64 ↔ ∃ content, value = .uint64 content := by
  cases value <;> simp [type]

theorem type_eq_uint16 {value : FieldValue} :
    value.type = .uint16 ↔ ∃ content, value = .uint16 content := by
  cases value <;> simp [type]

theorem type_eq_int32 {value : FieldValue} :
    value.type = .int32 ↔ ∃ content, value = .int32 content := by
  cases value <;> simp [type]

/-- An argument is written as a scalar. -/
theorem isScalar_toJson (value : FieldValue) :
    value.toJson.isScalar = true := by
  cases value with
  | text | flag => rfl
  | uint64 value => exact decide_eq_true value.toNat_lt
  | uint16 value =>
      have hlt := value.toNat_lt
      exact decide_eq_true (Nat.lt_trans hlt (by decide))
  | int32 value =>
      have hlow := value.le_toInt
      have hhigh := value.toInt_lt
      rw [toJson]
      cases hvalue : value.toInt with
      | ofNat n =>
          rw [hvalue, Int.ofNat_eq_natCast] at hhigh
          exact decide_eq_true (Nat.lt_trans (Int.ofNat_lt.mp hhigh) (by decide))
      | negSucc n =>
          have hn : n + 1 ≤ 2 ^ 31 := by omega
          exact decide_eq_true (Nat.lt_of_le_of_lt hn (by decide))

end FieldValue

namespace FieldType

/-- **An argument is read from the value it is written as, and from no other.** -/
theorem ofJson?_eq_some_iff
    {type : FieldType}
    {json : Json}
    {value : FieldValue} :
    type.ofJson? json = some value ↔ value.type = type ∧ json = value.toJson := by
  cases type with
  | text =>
      have htext : ∀ content, json.asText? = some content ↔ json = .text content := by
        cases json <;> simp [Json.asText?]
      cases value <;> simp [ofJson?, htext, FieldValue.type, FieldValue.toJson]
  | flag =>
      have hflag : ∀ content, json.asFlag? = some content ↔ json = .bool content := by
        cases json <;> simp [Json.asFlag?]
      cases value <;> simp [ofJson?, hflag, FieldValue.type, FieldValue.toJson]
  | uint64 =>
      have hread :
          ∀ content, json.asUInt64? = some content ↔ json = .ofNat content.toNat :=
        fun _ => Json.holdsBelow_uint64.read_eq_some_iff
      cases value <;> simp [ofJson?, hread, FieldValue.type, FieldValue.toJson]
  | uint16 =>
      have hread :
          ∀ content, json.asUInt16? = some content ↔ json = .ofNat content.toNat :=
        fun _ => Json.holdsBelow_uint16.read_eq_some_iff
      cases value <;> simp [ofJson?, hread, FieldValue.type, FieldValue.toJson]
  | int32 =>
      cases value <;>
        simp [ofJson?, Json.asInt32?_eq_some_iff, FieldValue.type, FieldValue.toJson]

/-- **A type takes what its values are written as.** -/
theorem admits_iff
    {type : FieldType}
    {json : Json} :
    type.Admits json ↔ ∃ value : FieldValue, value.type = type ∧ json = value.toJson := by
  cases type with
  | text => simp [Admits, FieldValue.type_eq_text, FieldValue.toJson]
  | flag => simp [Admits, FieldValue.type_eq_flag, FieldValue.toJson]
  | uint64 =>
      simpa [Admits, FieldValue.type_eq_uint64, FieldValue.toJson] using
        Json.holdsBelow_uint64.exists_lt_iff
  | uint16 =>
      simpa [Admits, FieldValue.type_eq_uint16, FieldValue.toJson] using
        Json.holdsBelow_uint16.exists_lt_iff
  | int32 =>
      simp only [Admits, FieldValue.type_eq_int32, Int32.size]
      constructor
      · rintro (⟨n, hn, rfl⟩ | ⟨n, hpos, hn, rfl⟩)
        · refine ⟨.int32 (.ofInt n), ⟨_, rfl⟩, ?_⟩
          rw [FieldValue.toJson, Int32.toInt_ofInt_of_le (by omega) (by omega)]
          rfl
        · obtain ⟨n, rfl⟩ := Nat.exists_eq_succ_of_ne_zero (Nat.pos_iff_ne_zero.mp hpos)
          refine ⟨.int32 (.ofInt (.negSucc n)), ⟨_, rfl⟩, ?_⟩
          rw [FieldValue.toJson, Int32.toInt_ofInt_of_le (by omega) (by omega)]
          rfl
      · rintro ⟨_, ⟨content, rfl⟩, rfl⟩
        have hlow := content.le_toInt
        have hhigh := content.toInt_lt
        rw [FieldValue.toJson]
        cases hcontent : content.toInt with
        | ofNat n =>
            rw [hcontent, Int.ofNat_eq_natCast] at hhigh
            exact .inl ⟨n, by omega, rfl⟩
        | negSucc n => exact .inr ⟨n + 1, by omega, by omega, rfl⟩

end FieldType

namespace Event

section Readers

variable {members : List (String × Json)}

theorem single?_eq_some_iff
    {α : Type}
    {items : List α}
    {a : α} :
    single? items = some a ↔ items = [a] := by
  match items with
  | [] => simp [single?]
  | [only] => simp [single?]
  | _ :: _ :: _ => simp [single?]

theorem kindOfTag?_eq_some_iff
    {json : Json}
    {kind : EventKind} :
    kindOfTag? json = some kind ↔ json = .text kind.name := by
  constructor
  · intro h
    cases json with
    | text name =>
        have hname := List.find?_some (h : EventKind.ofName? name = some kind)
        rw [beq_iff_eq.mp hname]
    | null | bool | number | unpaired | array | object => simp [kindOfTag?] at h
  · rintro rfl
    exact EventKind.ofName?_name kind

/-- **The arguments of a signature are read from members**, each from the only one. -/
theorem readMembers?_eq_some_iff
    {signature : List (String × FieldType)}
    {values : List FieldValue} :
    readMembers? members signature = some values ↔
      values.map FieldValue.type = signature.map Prod.snd ∧
        ∀ field ∈ (signature.map Prod.fst).zip values,
          Json.HasOnly members field.1 field.2.toJson := by
  induction signature generalizing values with
  | nil => simp [readMembers?, eq_comm]
  | cons argument signature ih =>
      obtain ⟨name, type⟩ := argument
      simp only [readMembers?, Option.bind_eq_bind, Option.bind_eq_some_iff,
        single?_eq_some_iff, ← Json.hasOnly_iff, FieldType.ofJson?_eq_some_iff, ih]
      constructor
      · rintro ⟨_, honly, value, ⟨rfl, rfl⟩, values', ⟨htypes, hfields⟩, hvalues⟩
        obtain rfl := Option.some.inj hvalues
        simp only [List.map_cons, List.zip_cons_cons, List.forall_mem_cons]
        exact ⟨congrArg _ htypes, honly, hfields⟩
      · rintro ⟨htypes, hfields⟩
        cases values with
        | nil => simp at htypes
        | cons value values =>
            simp only [List.map_cons, List.zip_cons_cons, List.forall_mem_cons,
              List.cons.injEq] at htypes hfields
            exact ⟨_, hfields.1, value, ⟨htypes.1, rfl⟩, values,
              ⟨htypes.2, hfields.2⟩, rfl⟩

/-- The arguments are read if each of them has one member that its type takes. -/
theorem isSome_readMembers?
    {signature : List (String × FieldType)}
    (h : ∀ argument ∈ signature,
      ∃ json, Json.HasOnly members argument.1 json ∧ argument.2.Admits json) :
    ∃ values, readMembers? members signature = some values := by
  induction signature with
  | nil => exact ⟨[], rfl⟩
  | cons argument signature ih =>
      obtain ⟨name, type⟩ := argument
      obtain ⟨⟨json, honly, hadmits⟩, hsignature⟩ := List.forall_mem_cons.mp h
      obtain ⟨value, hvalue⟩ := FieldType.admits_iff.mp hadmits
      obtain ⟨values, hvalues⟩ := ih hsignature
      refine ⟨value :: values, ?_⟩
      simp [readMembers?, Json.hasOnly_iff.mp honly, single?,
        FieldType.ofJson?_eq_some_iff.mpr hvalue, hvalues]

/-- **The arguments of a signature are read from items**, in order. -/
theorem readItems?_eq_some_iff
    {signature : List (String × FieldType)}
    {items : List Json}
    {values : List FieldValue} :
    readItems? signature items = some values ↔
      values.map FieldValue.type = signature.map Prod.snd ∧
        items = values.map FieldValue.toJson := by
  induction signature generalizing items values with
  | nil =>
      cases items with
      | nil => simp [readItems?, eq_comm]
      | cons item items =>
          simp only [readItems?, List.map_nil, List.map_eq_nil_iff]
          constructor
          · exact fun h => absurd h (by simp)
          · rintro ⟨rfl, h⟩
            exact absurd h (by simp)
  | cons argument signature ih =>
      obtain ⟨name, type⟩ := argument
      cases items with
      | nil =>
          simp only [readItems?]
          constructor
          · exact fun h => absurd h (by simp)
          · rintro ⟨htypes, hitems⟩
            rw [List.map_eq_nil_iff.mp hitems.symm] at htypes
            exact absurd htypes (by simp)
      | cons item items =>
          simp only [readItems?, Option.bind_eq_bind, Option.bind_eq_some_iff,
            FieldType.ofJson?_eq_some_iff, ih]
          constructor
          · rintro ⟨value, ⟨rfl, rfl⟩, values', ⟨htypes, rfl⟩, hvalues⟩
            obtain rfl := Option.some.inj hvalues
            exact ⟨congrArg _ htypes, rfl⟩
          · rintro ⟨htypes, hitems⟩
            cases values with
            | nil => simp at htypes
            | cons value values =>
                simp only [List.map_cons, List.cons.injEq] at htypes hitems
                exact ⟨value, ⟨htypes.1, hitems.1⟩, values, ⟨htypes.2, hitems.2⟩, rfl⟩

end Readers

section Values

/-- An event is made of its kind and its values, and no other event is. -/
theorem ofValues?_eq_some_iff
    {kind : EventKind}
    {values : List FieldValue}
    {event : Event} :
    ofValues? kind values = some event ↔ event.kind = kind ∧ event.values = values := by
  constructor
  · intro h
    unfold ofValues? at h
    split at h <;> cases h <;> exact ⟨rfl, rfl⟩
  · rintro ⟨rfl, rfl⟩
    exact ofValues?_values event

theorem forall_types_nil {P : List FieldValue → Prop} :
    (∀ values, values.map FieldValue.type = [] → P values) ↔ P [] := by
  simp

theorem forall_types_cons
    {P : List FieldValue → Prop}
    {type : FieldType}
    {types : List FieldType} :
    (∀ values, values.map FieldValue.type = type :: types → P values) ↔
      ∀ value : FieldValue, value.type = type →
        ∀ values, values.map FieldValue.type = types → P (value :: values) := by
  constructor
  · intro h value htype values htypes
    exact h (value :: values) (by rw [List.map_cons, htype, htypes])
  · intro h values htypes
    obtain ⟨value, values, rfl, htype, hrest⟩ := List.map_eq_cons_iff.mp htypes
    exact h value htype values hrest

/-- Values of the types of a signature make an event. -/
theorem isSome_ofValues?
    (kind : EventKind) :
    ∀ values : List FieldValue,
      values.map FieldValue.type = kind.signature.map Prod.snd →
        (ofValues? kind values).isSome = true := by
  -- The values of each signature are listed, and then the event is there.
  cases kind <;>
    simp only [EventKind.signature, List.map_cons, List.map_nil, forall_types_cons,
      forall_types_nil, FieldValue.type_eq_text, FieldValue.type_eq_flag,
      FieldValue.type_eq_uint64, FieldValue.type_eq_uint16, FieldValue.type_eq_int32,
      forall_exists_index, forall_eq_apply_imp_iff] <;>
    intros <;>
    rfl

end Values

/-- The members of an event's object. -/
def members (event : Event) : List (String × Json) :=
  (tag, .text event.kind.name) ::
    event.fields.map fun field => (field.1, field.2.toJson)

/-- The items of an event's array: the name of its kind and its arguments in order. -/
def items (event : Event) : List Json :=
  .text event.kind.name :: event.values.map FieldValue.toJson

theorem toJson_eq (event : Event) : event.toJson = .object event.members := rfl

section Objects

/-- **Which event an object's members make.** -/
theorem ofMembers?_eq_some_iff
    {members : List (String × Json)}
    {event : Event} :
    ofMembers? members = some event ↔
      Json.HasOnly members tag (.text event.kind.name) ∧
        ∀ field ∈ event.fields, Json.HasOnly members field.1 field.2.toJson := by
  simp only [ofMembers?, Option.bind_eq_bind, Option.bind_eq_some_iff,
    single?_eq_some_iff, ← Json.hasOnly_iff, kindOfTag?_eq_some_iff,
    readMembers?_eq_some_iff, ofValues?_eq_some_iff]
  constructor
  · rintro ⟨_, htag, _, rfl, _, ⟨_, hfields⟩, rfl, rfl⟩
    exact ⟨htag, hfields⟩
  · rintro ⟨htag, hfields⟩
    exact ⟨_, htag, event.kind, rfl, event.values,
      ⟨event.values_type, hfields⟩, rfl, rfl⟩

/-- Every argument of a signature is among an event's arguments, and with its type. -/
theorem mem_fields
    {event : Event}
    {argument : String × FieldType}
    (h : argument ∈ event.kind.signature) :
    ∃ value, (argument.1, value) ∈ event.fields ∧ value.type = argument.2 := by
  have key :
      ∀ (signature : List (String × FieldType)) (values : List FieldValue),
        values.map FieldValue.type = signature.map Prod.snd →
          argument ∈ signature →
            ∃ value, (argument.1, value) ∈ (signature.map Prod.fst).zip values ∧
              value.type = argument.2 := by
    intro signature
    induction signature with
    | nil => exact fun _ _ h => absurd h List.not_mem_nil
    | cons first signature ih =>
        intro values htypes hmem
        cases values with
        | nil => simp at htypes
        | cons value values =>
            simp only [List.map_cons, List.cons.injEq] at htypes
            rcases List.mem_cons.mp hmem with rfl | hmem
            · exact ⟨value, List.mem_cons_self, htypes.1⟩
            · obtain ⟨found, hfound, htype⟩ := ih values htypes.2 hmem
              exact ⟨found, List.mem_cons_of_mem _ hfound, htype⟩
  exact key event.kind.signature event.values event.values_type h

/-- **Which members make an event at all.** -/
theorem isSome_ofMembers?_iff {members : List (String × Json)} :
    (∃ event, ofMembers? members = some event) ↔
      ∃ kind : EventKind,
        Json.HasOnly members tag (.text kind.name) ∧
          ∀ argument ∈ kind.signature,
            ∃ json, Json.HasOnly members argument.1 json ∧ argument.2.Admits json := by
  constructor
  · rintro ⟨event, hevent⟩
    obtain ⟨htag, hfields⟩ := ofMembers?_eq_some_iff.mp hevent
    refine ⟨event.kind, htag, ?_⟩
    intro argument hargument
    obtain ⟨value, hvalue, htype⟩ := mem_fields hargument
    exact ⟨value.toJson, hfields _ hvalue, FieldType.admits_iff.mpr ⟨value, htype, rfl⟩⟩
  · rintro ⟨kind, htag, harguments⟩
    obtain ⟨values, hvalues⟩ := isSome_readMembers? harguments
    have htypes := (readMembers?_eq_some_iff.mp hvalues).1
    obtain ⟨event, hevent⟩ :=
      Option.isSome_iff_exists.mp (isSome_ofValues? kind values htypes)
    refine ⟨event, ?_⟩
    simp [ofMembers?, Json.hasOnly_iff.mp htag, single?,
      kindOfTag?_eq_some_iff.mpr rfl, hvalues, hevent]

/--
A name is foreign to an object if it is neither the tag nor the name of an argument
of a kind that the object is tagged with.
-/
def Foreign
    (members : List (String × Json))
    (name : String) :
    Prop :=
  name ≠ tag ∧
    ∀ kind : EventKind,
      (tag, .text kind.name) ∈ members →
        name ∉ kind.signature.map Prod.fst

/-- Members that make an event can be taken in whole if the foreign ones are scalars. -/
theorem isPlain_of_ofMembers?
    {members : List (String × Json)}
    {event : Event}
    (hforeign : ∀ member ∈ members,
      Foreign members member.1 → member.2.isScalar = true)
    (h : ofMembers? members = some event) :
    (Json.object members).isPlain = true := by
  obtain ⟨htag, hfields⟩ := ofMembers?_eq_some_iff.mp h
  apply Json.isPlain_object
  rintro ⟨name, json⟩ hmem
  by_cases hname : name = tag
  · subst hname
    rw [htag.eq_of_mem hmem]
    rfl
  · by_cases hargument : name ∈ event.kind.signature.map Prod.fst
    · obtain ⟨argument, hsignature, rfl⟩ := List.mem_map.mp hargument
      obtain ⟨value, hvalue, _⟩ := mem_fields hsignature
      rw [(hfields _ hvalue).eq_of_mem hmem]
      exact value.isScalar_toJson
    · -- The object has one tag only, so no other kind claims the name.
      apply hforeign _ hmem
      refine ⟨hname, ?_⟩
      intro kind hkind
      have hsame := htag.eq_of_mem hkind
      have hkinds : EventKind.ofName? kind.name = EventKind.ofName? event.kind.name :=
        congrArg EventKind.ofName? (Json.text.inj hsame)
      rw [EventKind.ofName?_name, EventKind.ofName?_name] at hkinds
      rwa [Option.some.inj hkinds]

/-- **Which event an object makes**, if its foreign members are scalars. -/
theorem ofJson?_object_eq_some_iff
    {members : List (String × Json)}
    (hforeign : ∀ member ∈ members,
      Foreign members member.1 → member.2.isScalar = true)
    {event : Event} :
    ofJson? (.object members) = some event ↔ ofMembers? members = some event := by
  by_cases hplain : (Json.object members).isPlain = true
  · rw [ofJson?, if_pos hplain]
  · rw [ofJson?, if_neg hplain]
    constructor
    · exact fun h => absurd h (by simp)
    · exact fun h => absurd (isPlain_of_ofMembers? hforeign h) hplain

end Objects
section RoundTrips

/-- The tag and the names of a kind's arguments are all different. -/
theorem names_nodup (kind : EventKind) :
    (tag :: kind.signature.map Prod.fst).Nodup := by
  cases kind <;> decide

theorem names_members (event : Event) :
    event.members.map Prod.fst = tag :: event.kind.signature.map Prod.fst := by
  have hlength : (event.kind.signature.map Prod.fst).length ≤ event.values.length := by
    have htypes := congrArg List.length event.values_type
    simp only [List.length_map] at htypes ⊢
    omega
  have hnames :
      (event.fields.map fun field => (field.1, field.2.toJson)).map Prod.fst =
        event.fields.map Prod.fst := by
    rw [List.map_map]
    rfl
  rw [members, List.map_cons, hnames, fields, List.map_fst_zip hlength]

/-- **The members of an event make the event**, in any order. -/
theorem ofMembers?_of_perm
    {event : Event}
    {members : List (String × Json)}
    (hperm : members.Perm event.members) :
    ofMembers? members = some event := by
  have hnodup : (event.members.map Prod.fst).Nodup := by
    rw [names_members]
    exact names_nodup event.kind
  apply ofMembers?_eq_some_iff.mpr
  constructor
  · exact (Json.hasOnly_of_nodup hnodup List.mem_cons_self).perm hperm
  · intro field hfield
    have hmem : (field.1, field.2.toJson) ∈ event.members :=
      List.mem_cons_of_mem _ (List.mem_map_of_mem hfield)
    exact (Json.hasOnly_of_nodup hnodup hmem).perm hperm

theorem ofItems?_items (event : Event) :
    ofItems? event.items = some event := by
  have hvalues :
      readItems? event.kind.signature (event.values.map FieldValue.toJson) =
        some event.values :=
    readItems?_eq_some_iff.mpr ⟨event.values_type, rfl⟩
  simp [ofItems?, items, kindOfTag?_eq_some_iff.mpr rfl, hvalues, ofValues?_values]

theorem isScalar_of_mem_members
    {event : Event}
    {member : String × Json}
    (h : member ∈ event.members) :
    member.2.isScalar = true := by
  rcases List.mem_cons.mp h with rfl | h
  · rfl
  · obtain ⟨field, _, rfl⟩ := List.mem_map.mp h
    exact field.2.isScalar_toJson

theorem isScalar_of_mem_items
    {event : Event}
    {item : Json}
    (h : item ∈ event.items) :
    item.isScalar = true := by
  rcases List.mem_cons.mp h with rfl | h
  · rfl
  · obtain ⟨value, _, rfl⟩ := List.mem_map.mp h
    exact value.isScalar_toJson

/-- **The text of an event's members is read as the event**, in any order. -/
theorem read_write_members
    {event : Event}
    {members : List (String × Json)}
    (hperm : members.Perm event.members) :
    (Json.read? (Json.object members).write).bind ofJson? = some event := by
  have hscalar : ∀ member ∈ members, member.2.isScalar = true :=
    fun member hmem => isScalar_of_mem_members (hperm.mem_iff.mp hmem)
  rw [Json.read?_write (Json.isIntegral_object hscalar), Option.bind_some,
    ofJson?_object_eq_some_iff fun member hmem _ => hscalar member hmem]
  exact ofMembers?_of_perm hperm

/-- **The text of an event's items is read as the event.** -/
theorem read_write_items (event : Event) :
    (Json.read? (Json.array event.items).write).bind ofJson? = some event := by
  have hscalar : ∀ item ∈ event.items, item.isScalar = true :=
    fun item hmem => isScalar_of_mem_items hmem
  rw [Json.read?_write (Json.isIntegral_array hscalar), Option.bind_some, ofJson?,
    if_pos (Json.isPlain_array hscalar)]
  exact ofItems?_items event

end RoundTrips
end Event

/--
**The codec of events is exact.**  Take an object whose foreign members, which are
neither the tag nor an argument of the tagged kind, are scalars.  An event is read
from it if and only if there is exactly one tag, which names a kind, and exactly one
member for every argument of that kind, with a value of the argument's type; and the
event is then the one of that kind with those values.  Every event is therefore read
back from its text, from the text of its members in any order, and from the text of
the array of its kind's name and its arguments.
-/
theorem event_codec_is_exact :
    (∀ members : List (String × Json),
      (∀ member ∈ members, Event.Foreign members member.1 → member.2.isScalar = true) →
        ((∃ event, Event.ofJson? (.object members) = some event) ↔
          ∃ kind : EventKind,
            Json.HasOnly members Event.tag (.text kind.name) ∧
              ∀ argument ∈ kind.signature,
                ∃ json,
                  Json.HasOnly members argument.1 json ∧ argument.2.Admits json) ∧
        ∀ event : Event,
          Event.ofJson? (.object members) = some event ↔
            Json.HasOnly members Event.tag (.text event.kind.name) ∧
              ∀ field ∈ event.fields,
                Json.HasOnly members field.1 field.2.toJson) ∧
      ∀ event : Event,
        (Json.read? event.toJson.write).bind Event.ofJson? = some event ∧
          (∀ members : List (String × Json), members.Perm event.members →
            (Json.read? (Json.object members).write).bind Event.ofJson? =
              some event) ∧
          (Json.read? (Json.array event.items).write).bind Event.ofJson? =
            some event := by
  constructor
  · intro members hforeign
    constructor
    · simp only [Event.ofJson?_object_eq_some_iff hforeign]
      exact Event.isSome_ofMembers?_iff
    · intro event
      rw [Event.ofJson?_object_eq_some_iff hforeign]
      exact Event.ofMembers?_eq_some_iff
  · intro event
    rw [Event.toJson_eq]
    exact ⟨Event.read_write_members (.refl _), fun _ => Event.read_write_members,
      Event.read_write_items event⟩

namespace ShuffledCommand

/-- A command of the lowest class, with characters that need escapes. -/
def command : Event :=
  .hubCommand "𝄞\x01" "say \"\\\"" (-2147483648) true "+"

/-- Its members, shuffled, among others of which two share a name. -/
def shuffled : List (String × Json) :=
  [("extra", .null), ("user_class", .number (.integer true 2147483648)),
    ("prefix", .text "+"), (Event.tag, .text "OnHubCommand"),
    ("extra", .number (.integer false 18446744073709551615)),
    ("nick", .text "𝄞\x01"), ("in_pm", .bool true),
    ("command", .text "say \"\\\"")]

/-- The same with a second nick in front. -/
def doubled : List (String × Json) :=
  ("nick", .null) :: shuffled

theorem isScalar_of_mem_doubled :
    ∀ member ∈ doubled, member.2.isScalar = true := by
  decide

end ShuffledCommand

open ShuffledCommand in
/--
The shuffled members make the command; with a second nick they make no event; and the
command is read back from its text.
-/
theorem codec_of_shuffled_command :
    Event.ofJson? (.object shuffled) = some command ∧
      (¬ ∃ event, Event.ofJson? (.object doubled) = some event) ∧
      (Json.read? command.toJson.write).bind Event.ofJson? = some command := by
  have hscalar := isScalar_of_mem_doubled
  refine ⟨?_, ?_, (event_codec_is_exact.2 command).1⟩
  · have hforeign :
        ∀ member ∈ shuffled, Event.Foreign shuffled member.1 →
          member.2.isScalar = true :=
      fun member hmem _ => hscalar member (List.mem_cons_of_mem _ hmem)
    apply ((event_codec_is_exact.1 shuffled hforeign).2 command).mpr
    have hnodup : ∀ name ∈ Event.tag :: command.kind.signature.map Prod.fst,
        (shuffled.map Prod.fst).count name = 1 := by
      decide
    have hmembers : command.members ⊆ shuffled := by
      have hlist :
          command.members =
            [(Event.tag, .text "OnHubCommand"), ("nick", .text "𝄞\x01"),
              ("command", .text "say \"\\\""),
              ("user_class", .number (.integer true 2147483648)),
              ("in_pm", .bool true), ("prefix", .text "+")] :=
        rfl
      rw [hlist]
      simp [shuffled]
    refine ⟨⟨hnodup _ List.mem_cons_self, hmembers List.mem_cons_self⟩, ?_⟩
    intro field hfield
    have hname := (List.of_mem_zip (a := field.1) (b := field.2) hfield).1
    exact ⟨hnodup _ (List.mem_cons_of_mem _ hname),
      hmembers (List.mem_cons_of_mem _ (List.mem_map_of_mem hfield))⟩
  · intro hread
    obtain ⟨kind, htag, harguments⟩ :=
      (event_codec_is_exact.1 doubled fun member hmem _ => hscalar member hmem).1.mp hread
    have hkind : kind = .hubCommand := by
      cases kind <;>
        simp [doubled, shuffled, Event.tag, Json.HasOnly, EventKind.name] at htag ⊢
    subst hkind
    obtain ⟨json, honly, -⟩ := harguments ("nick", .text) List.mem_cons_self
    exact absurd honly.1 (by decide)

end ScriptHub
