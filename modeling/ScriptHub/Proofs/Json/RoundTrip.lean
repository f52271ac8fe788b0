import Mathlib.Data.List.TakeWhile
import Mathlib.Tactic.SplitIfs
import ScriptHub.Json.Reader
import ScriptHub.Json.Writer

/-!
# Reading what was written

A JSON value is read back from its written form, in the form without blanks.  The
values are those that programs build: every string is a text and every number an
integer; arrays and objects may be nested and names may repeat.

A string is read character by character, and each character is written so that it is
read as itself.  A number must be followed by something that cannot belong to it,
which in a written form is a comma, a bracket, a brace or the end.

**Results.**
* `Json.readString_written`: a string is read back.
* `Json.readNumeral_written`: an integer is read back.
* `Json.readValue_written`: a value is read back, whatever follows it.
* `Json.read?_write`: the text of a value is read as that value.
-/

namespace ScriptHub
namespace Json

section Strings

/-- The two hexadecimal digits of a control character are read as its code. -/
theorem unitOf?_control
    {code : Nat}
    (h : code < 0x20) :
    unitOf? '0' '0' (hexDigit (code / 16)) (hexDigit (code % 16)) = some code := by
  have key :
      ∀ code : Fin 0x20,
        unitOf? '0' '0' (hexDigit (code.val / 16)) (hexDigit (code.val % 16)) =
          some code.val := by
    decide
  exact key ⟨code, h⟩

/-- A character that needs no escape is read as itself. -/
theorem readUnits_of_plain
    (units : List Nat)
    {c : Char}
    (hquote : c ≠ '"')
    (hslash : c ≠ '\\')
    (hprinted : ¬ c.toNat < 0x20)
    (rest : List Char) :
    readUnits units (c :: rest) = readUnits (c.toNat :: units) rest := by
  rw [readUnits]
  · rw [if_neg hprinted, if_neg hslash]
  · intro h
    exact hquote h
  · intro _ _ _ _ _ h _
    exact hslash h
  · intro _ _ h _
    exact hslash h

/-- **A character is read from its written form.** -/
theorem readUnits_writeChar
    (units : List Nat)
    (c : Char)
    (rest : List Char) :
    readUnits units (writeChar c ++ rest) = readUnits (c.toNat :: units) rest := by
  unfold writeChar
  split_ifs with hquote hslash hline hreturn htab hback hfeed hcontrol
  · subst hquote
    rfl
  · subst hslash
    rfl
  · subst hline
    rfl
  · subst hreturn
    rfl
  · subst htab
    rfl
  · subst hback
    rfl
  · subst hfeed
    rfl
  · simp only [List.cons_append, List.nil_append, readUnits,
      unitOf?_control hcontrol]
  · exact readUnits_of_plain units hquote hslash hcontrol rest

theorem readUnits_written
    (units : List Nat)
    (cs rest : List Char) :
    readUnits units (cs.flatMap writeChar ++ '"' :: rest) =
      some ((cs.map Char.toNat).reverse ++ units, rest) := by
  induction cs generalizing units with
  | nil => rfl
  | cons c cs ih =>
      rw [List.flatMap_cons, List.append_assoc, readUnits_writeChar, ih]
      simp

/-- The code of a character is no half of a surrogate pair. -/
theorem not_isHalf (c : Char) :
    isLowHalf c.toNat = false ∧ isHighHalf c.toNat = false := by
  have hvalid : c.toNat < 0xD800 ∨ 0xDFFF < c.toNat ∧ c.toNat < 0x110000 :=
    c.valid
  unfold isLowHalf isHighHalf
  simp only [Bool.and_eq_false_iff, decide_eq_false_iff_not]
  omega

/-- The codes of characters are joined to the characters. -/
theorem joinUnits_codes
    (text cs : List Char) :
    joinUnits text (cs.map Char.toNat) = some (cs.reverse ++ text) := by
  induction cs generalizing text with
  | nil => rfl
  | cons c cs ih =>
      obtain ⟨hlow, hhigh⟩ := not_isHalf c
      cases cs with
      | nil =>
          simp [joinUnits, hlow, hhigh]
      | cons d ds =>
          have step := ih (c :: text)
          simp only [List.map_cons] at step ⊢
          rw [joinUnits, hlow, hhigh]
          simp only [Bool.false_eq_true, if_false, Char.ofNat_toNat]
          rw [step]
          simp

/-- **A string is read back.** -/
theorem readString_written
    (value : String)
    (rest : List Char) :
    readString (value.toList.flatMap writeChar ++ '"' :: rest) =
      some (some value, rest) := by
  unfold readString
  rw [readUnits_written, List.append_nil, ← List.map_reverse]
  simp only [joinUnits_codes, List.reverse_reverse, List.append_nil,
    Option.map_some, String.ofList_toList]

end Strings

section Numbers

/-- What follows a number in a written form: nothing that could belong to it. -/
def Delimits (rest : List Char) : Prop :=
  ∀ c ∈ rest.head?, c = ',' ∨ c = ']' ∨ c = '\x7d'

theorem delimits_nil : Delimits [] := by
  intro c hc
  exact absurd hc (by simp)

theorem delimits_cons
    {c : Char}
    (h : c = ',' ∨ c = ']' ∨ c = '\x7d')
    (rest : List Char) :
    Delimits (c :: rest) := by
  intro d hd
  obtain rfl := Option.some.inj hd
  exact h

theorem isDigit_of_mem_toDigits
    {n : Nat}
    {c : Char}
    (h : c ∈ Nat.toDigits 10 n) :
    isDigit c = true := by
  have hdigit := Nat.isDigit_of_mem_toDigits (by decide) (by decide) h
  unfold isDigit
  simpa [Char.isDigit, Char.le_def] using hdigit

/-- Only zero is written with a zero in front. -/
theorem head?_toDigits_ne_zero
    {n : Nat}
    (h : 0 < n) :
    (Nat.toDigits 10 n).head? ≠ some '0' := by
  induction n using Nat.strongRecOn with
  | ind n ih =>
      by_cases hsmall : n < 10
      · rw [Nat.toDigits_of_lt_base hsmall]
        simp
        omega
      · rw [Nat.toDigits_of_base_le (by decide) (Nat.le_of_not_lt hsmall)]
        have hrest := ih (n / 10) (by omega) (by omega)
        obtain ⟨c, cs, hdigits⟩ :=
          List.exists_cons_of_ne_nil (Nat.toDigits_ne_nil (b := 10) (n := n / 10))
        rw [hdigits] at hrest ⊢
        exact hrest

theorem digitsValue_toDigits (n : Nat) :
    digitsValue (Nat.toDigits 10 n) = n := by
  have hvalue :
      digitsValue (Nat.toDigits 10 n) =
        Nat.ofDigitChars 10 (Nat.toDigits 10 n) 0 := by
    unfold digitsValue
    rw [Nat.ofDigitChars_eq_foldl]
    congr 1
    funext value c
    rw [Nat.mul_comm]
  rw [hvalue, Nat.ofDigitChars_ten_toDigits]

theorem spanDigits_toDigits
    (n : Nat)
    {rest : List Char}
    (h : Delimits rest) :
    spanDigits (Nat.toDigits 10 n ++ rest) = (Nat.toDigits 10 n, rest) := by
  have hdigits : ∀ c ∈ Nat.toDigits 10 n, isDigit c = true :=
    fun c hc => isDigit_of_mem_toDigits hc
  have hrest : ∀ c ∈ rest.head?, isDigit c = false := by
    intro c hc
    rcases h c hc with rfl | rfl | rfl <;> decide
  unfold spanDigits
  cases rest with
  | nil =>
      rw [List.append_nil, List.takeWhile_eq_self_iff.mpr hdigits,
        List.dropWhile_eq_nil_iff.mpr hdigits]
  | cons c tail =>
      have hstop := hrest c rfl
      rw [List.takeWhile_append_of_pos hdigits, List.dropWhile_append_of_pos hdigits,
        List.takeWhile_cons_of_neg (by simp [hstop]),
        List.dropWhile_cons_of_neg (by simp [hstop]), List.append_nil]

theorem readWhole_toDigits
    (n : Nat)
    {rest : List Char}
    (h : Delimits rest) :
    readWhole (Nat.toDigits 10 n ++ rest) = some (Nat.toDigits 10 n, rest) := by
  unfold readWhole
  rw [spanDigits_toDigits n h]
  split
  · rename_i heq
    exact absurd (Prod.mk.inj heq).1 Nat.toDigits_ne_nil
  · rename_i c cs _ heq
    have hdigits := (Prod.mk.inj heq).1
    rcases Nat.eq_zero_or_pos n with rfl | hpos
    · rw [Nat.toDigits_zero] at hdigits
      exact absurd hdigits (by simp)
    · exact absurd (congrArg List.head? hdigits) (head?_toDigits_ne_zero hpos)
  · rename_i heq
    obtain ⟨rfl, rfl⟩ := Prod.mk.inj heq
    rfl

/-- What cannot belong to a number starts neither a fraction nor an exponent. -/
theorem readFraction_of_delimits
    {rest : List Char}
    (h : Delimits rest) :
    readFraction rest = some (none, rest) ∧ readExponent rest = some (none, rest) := by
  cases rest with
  | nil => exact ⟨rfl, rfl⟩
  | cons c tail => rcases h c rfl with rfl | rfl | rfl <;> exact ⟨rfl, rfl⟩

theorem readUnsigned_toDigits
    (negative : Bool)
    (n : Nat)
    {rest : List Char}
    (h : Delimits rest) :
    readUnsigned negative (Nat.toDigits 10 n ++ rest) =
      some (.integer negative n, rest) := by
  obtain ⟨hfraction, hexponent⟩ := readFraction_of_delimits h
  simp only [readUnsigned, readWhole_toDigits n h, hfraction, hexponent, bind,
    Option.bind_some, pure, digitsValue_toDigits]

/-- The written form of an integer. -/
theorem toList_write_integer
    (negative : Bool)
    (magnitude : Nat) :
    (Numeral.integer negative magnitude).write.toList =
      (if negative then ['-'] else []) ++ Nat.toDigits 10 magnitude := by
  cases negative <;> simp [Numeral.write, Numeral.sign]

/-- A digit is no minus sign. -/
theorem exists_toDigits_eq_cons (n : Nat) :
    ∃ c cs, Nat.toDigits 10 n = c :: cs ∧ isDigit c = true := by
  cases hdigits : Nat.toDigits 10 n with
  | nil => exact absurd hdigits Nat.toDigits_ne_nil
  | cons c cs =>
      refine ⟨c, cs, rfl, isDigit_of_mem_toDigits (n := n) ?_⟩
      rw [hdigits]
      exact List.mem_cons_self

/-- A character that a written number may start with. -/
def StartsNumber (c : Char) : Prop :=
  c = '-' ∨ isDigit c = true

/-- A number starts with nothing else. -/
theorem StartsNumber.ne
    {c other : Char}
    (h : StartsNumber c)
    (hother : ¬ StartsNumber other) :
    c ≠ other := by
  rintro rfl
  exact hother h

instance (c : Char) : Decidable (StartsNumber c) :=
  inferInstanceAs (Decidable (_ ∨ _))

theorem StartsNumber.not_isSpace
    {c : Char}
    (h : StartsNumber c) :
    isSpace c = false := by
  simp only [isSpace, Bool.or_eq_false_iff, beq_eq_false_iff_ne]
  exact ⟨⟨⟨h.ne (by decide), h.ne (by decide)⟩, h.ne (by decide)⟩, h.ne (by decide)⟩

/-- What starts as a number is read as one. -/
theorem readValue_of_startsNumber
    {c : Char}
    (h : StartsNumber c)
    (fuel : Nat)
    (cs : List Char) :
    readValue (fuel + 1) (c :: cs) =
      (readNumeral (c :: cs)).map fun found => (.number found.1, found.2) := by
  have hother :
      ∀ other, ¬ StartsNumber other → ∀ rest, c :: cs = other :: rest → False :=
    fun other hother rest heq => h.ne hother (List.cons.inj heq).1
  rw [readValue]
  · exact List.cons_ne_nil c cs
  · exact hother '"' (by decide)
  · exact hother '[' (by decide)
  · exact hother '\x7b' (by decide)
  · exact hother 't' (by decide)
  · exact hother 'f' (by decide)
  · exact hother 'n' (by decide)

/-- A written integer starts as a number. -/
theorem exists_write_integer_eq_cons
    (negative : Bool)
    (magnitude : Nat) :
    ∃ c cs,
      (Numeral.integer negative magnitude).write.toList = c :: cs ∧
        StartsNumber c := by
  rw [toList_write_integer]
  cases negative with
  | true => exact ⟨'-', _, rfl, .inl rfl⟩
  | false =>
      obtain ⟨c, cs, hdigits, hdigit⟩ := exists_toDigits_eq_cons magnitude
      exact ⟨c, cs, hdigits, .inr hdigit⟩

/-- **An integer is read back**, if nothing follows that could belong to it. -/
theorem readNumeral_written
    (negative : Bool)
    (magnitude : Nat)
    {rest : List Char}
    (h : Delimits rest) :
    readNumeral ((Numeral.integer negative magnitude).write.toList ++ rest) =
      some (.integer negative magnitude, rest) := by
  rw [toList_write_integer]
  cases negative with
  | true => exact readUnsigned_toDigits true magnitude h
  | false =>
      have hread := readUnsigned_toDigits false magnitude h
      obtain ⟨c, cs, hdigits, hdigit⟩ := exists_toDigits_eq_cons magnitude
      have hminus : c ≠ '-' := by
        rintro rfl
        exact absurd hdigit (by decide)
      simp only [Bool.false_eq_true, if_false, List.nil_append]
      rw [hdigits, List.cons_append] at hread ⊢
      rw [readNumeral]
      · exact hread
      · exact fun _ h => hminus (List.cons.inj h).1

end Numbers

mutual

/-- Whether every string is a text and every number an integer. -/
def isIntegral : Json → Bool
  | .number (.integer ..) => true
  | .number (.decimal ..) => false
  | .unpaired => false
  | .array items => areIntegral items
  | .object members => areIntegralMembers members
  | _ => true
termination_by structural json => json

/-- Whether all items are made of texts and integers. -/
def areIntegral : List Json → Bool
  | [] => true
  | item :: rest => item.isIntegral && areIntegral rest
termination_by structural items => items

/-- Whether the values of all members are made of texts and integers. -/
def areIntegralMembers : List (String × Json) → Bool
  | [] => true
  | member :: rest => isIntegralMember member && areIntegralMembers rest
termination_by structural members => members

/-- Whether the value of a member is made of texts and integers. -/
def isIntegralMember : String × Json → Bool
  | (_, value) => value.isIntegral
termination_by structural member => member

end

section Values

/-- The characters of a value's written form. -/
def written (json : Json) : List Char :=
  (json.writeAt none).toList

/-- The characters of a name's written form, with the colon. -/
def writtenName (name : String) : List Char :=
  '"' :: (name.toList.flatMap writeChar ++ ['"', ':'])

theorem written_text (value : String) :
    written (.text value) = '"' :: (value.toList.flatMap writeChar ++ ['"']) := by
  simp [written, writeAt, writeText]

theorem written_array
    (first : Json)
    (items : List Json) :
    written (.array (first :: items)) =
      '[' :: (written first ++ items.flatMap (fun item => ',' :: written item) ++
        [']']) := by
  have hitems :
      (writeItems none items).toList =
        items.flatMap fun item => ',' :: written item := by
    induction items with
    | nil => rfl
    | cons item items ih => simp [writeItems, lineBreak, ih, written]
  simp [written, writeAt, lineBreak, hitems]

theorem toList_writeMember (member : String × Json) :
    (writeMember none member).toList =
      writtenName member.1 ++ written member.2 := by
  obtain ⟨name, value⟩ := member
  simp [writeMember, writeText, colon, written, writtenName]

theorem written_object
    (first : String × Json)
    (members : List (String × Json)) :
    written (.object (first :: members)) =
      '\x7b' :: (writtenName first.1 ++ written first.2 ++
        members.flatMap (fun member =>
          ',' :: (writtenName member.1 ++ written member.2)) ++ ['\x7d']) := by
  have hmembers :
      (writeMembers none members).toList =
        members.flatMap fun member =>
          ',' :: (writtenName member.1 ++ written member.2) := by
    induction members with
    | nil => rfl
    | cons member members ih =>
        simp [writeMembers, lineBreak, ih, toList_writeMember]
  simp [written, writeAt, lineBreak, hmembers, toList_writeMember]

/-- How a written value starts: no blank and no closing bracket stands there. -/
theorem exists_written_eq_cons
    {json : Json}
    (h : json.isIntegral = true) :
    ∃ c cs, written json = c :: cs ∧ isSpace c = false ∧ c ≠ ']' := by
  cases json with
  | null => exact ⟨'n', ['u', 'l', 'l'], rfl, rfl, by decide⟩
  | bool value =>
      cases value with
      | false => exact ⟨'f', ['a', 'l', 's', 'e'], rfl, rfl, by decide⟩
      | true => exact ⟨'t', ['r', 'u', 'e'], rfl, rfl, by decide⟩
  | number numeral =>
      cases numeral with
      | integer negative magnitude =>
          obtain ⟨c, cs, hwritten, hstart⟩ :=
            exists_write_integer_eq_cons negative magnitude
          refine ⟨c, cs, by simpa [written, writeAt] using hwritten, ?_⟩
          exact ⟨hstart.not_isSpace, hstart.ne (by decide)⟩
      | decimal => simp [isIntegral] at h
  | text value => exact ⟨_, _, written_text value, rfl, by decide⟩
  | unpaired => simp [isIntegral] at h
  | array items =>
      cases items with
      | nil => exact ⟨'[', [']'], rfl, rfl, by decide⟩
      | cons first items => exact ⟨_, _, written_array first items, rfl, by decide⟩
  | object members =>
      cases members with
      | nil => exact ⟨'\x7b', ['\x7d'], rfl, rfl, by decide⟩
      | cons first members =>
          exact ⟨_, _, written_object first members, rfl, by decide⟩

theorem skipSpace_cons
    {c : Char}
    (h : isSpace c = false)
    (cs : List Char) :
    skipSpace (c :: cs) = c :: cs :=
  List.dropWhile_cons_of_neg (by simp [h])

theorem skipSpace_written
    {json : Json}
    (h : json.isIntegral = true)
    (rest : List Char) :
    skipSpace (written json ++ rest) = written json ++ rest := by
  obtain ⟨c, cs, hwritten, hspace, -⟩ := exists_written_eq_cons h
  rw [hwritten]
  exact skipSpace_cons hspace _

/--
A value is read from its written form, whatever follows it, by a reader with as
much fuel as the form has characters.
-/
def ReadsBack (json : Json) : Prop :=
  ∀ fuel rest,
    (written json).length ≤ fuel →
      Delimits rest →
        readValue fuel (written json ++ rest) = some (json, rest)

theorem readsBack_text (value : String) : ReadsBack (.text value) := by
  intro fuel rest hfuel _
  rw [written_text] at hfuel ⊢
  cases fuel with
  | zero => exact absurd hfuel (by simp)
  | succ fuel => simp [readValue, readString_written]

theorem readsBack_number
    (negative : Bool)
    (magnitude : Nat) :
    ReadsBack (.number (.integer negative magnitude)) := by
  intro fuel rest hfuel hrest
  have hread := readNumeral_written negative magnitude hrest
  obtain ⟨c, cs, hwritten, hstart⟩ := exists_write_integer_eq_cons negative magnitude
  have hform : written (.number (.integer negative magnitude)) = c :: cs := by
    simpa [written, writeAt] using hwritten
  rw [hwritten] at hread
  rw [hform] at hfuel ⊢
  cases fuel with
  | zero => exact absurd hfuel (by simp)
  | succ fuel =>
      rw [List.cons_append] at hread ⊢
      rw [readValue_of_startsNumber hstart, hread]
      rfl

/-- **Items are read back**, up to the closing bracket. -/
theorem readItems_written
    (first : Json)
    {items : List Json}
    (hreads : ∀ item ∈ first :: items, ReadsBack item)
    (hintegral : ∀ item ∈ items, item.isIntegral = true)
    (fuel : Nat)
    (hfuel :
      (written first ++ items.flatMap (fun item => ',' :: written item)).length + 1 ≤
        fuel)
    (earlier : List Json)
    (rest : List Char) :
    readItems fuel earlier
        (written first ++
          (items.flatMap (fun item => ',' :: written item) ++ ']' :: rest)) =
      some (.array (earlier.reverse ++ first :: items), rest) := by
  induction items generalizing first fuel earlier with
  | nil =>
      cases fuel with
      | zero => exact absurd hfuel (by simp)
      | succ fuel =>
          have hfirst :=
            hreads first List.mem_cons_self fuel (']' :: rest)
              (by simpa using hfuel) (delimits_cons (by decide) rest)
          simp [readItems, hfirst, skipSpace_cons (c := ']') rfl]
  | cons item items ih =>
      cases fuel with
      | zero => exact absurd hfuel (by simp)
      | succ fuel =>
          -- One unit of fuel goes to an item with its comma, and those are characters too.
          simp only [List.flatMap_cons, List.cons_append, List.append_assoc,
            List.length_append, List.length_cons] at hfuel ⊢
          have hfirst :=
            hreads first List.mem_cons_self fuel
              (',' :: (written item ++
                (items.flatMap (fun item => ',' :: written item) ++ ']' :: rest)))
              (by omega) (delimits_cons (by decide) _)
          have hitems :=
            ih item
              (fun other hother => hreads other (List.mem_cons_of_mem _ hother))
              (fun other hother => hintegral other (List.mem_cons_of_mem _ hother))
              fuel (by simp only [List.length_append]; omega)
              (first :: earlier)
          simp only [readItems, hfirst, skipSpace_cons (c := ',') rfl,
            skipSpace_written (hintegral item List.mem_cons_self), hitems]
          simp

theorem writtenName_append
    (name : String)
    (rest : List Char) :
    writtenName name ++ rest =
      '"' :: (name.toList.flatMap writeChar ++ '"' :: ':' :: rest) := by
  simp [writtenName]

theorem skipSpace_writtenName
    (name : String)
    (rest : List Char) :
    skipSpace (writtenName name ++ rest) = writtenName name ++ rest :=
  skipSpace_cons (c := '"') rfl _

/-- A member is read, and the reader goes on behind the comma. -/
theorem readMembers_of_comma
    {value : Json}
    (hvalue : value.isIntegral = true)
    {fuel : Nat}
    {rest : List Char}
    (hread :
      readValue fuel (written value ++ ',' :: rest) = some (value, ',' :: rest))
    (earlier : List (String × Json))
    (name : String) :
    readMembers (fuel + 1) true earlier
        (writtenName name ++ (written value ++ ',' :: rest)) =
      readMembers fuel true ((name, value) :: earlier) (skipSpace rest) := by
  rw [writtenName_append, readMembers, readString_written]
  simp [skipSpace_cons (c := ':') rfl, skipSpace_cons (c := ',') rfl,
    skipSpace_written hvalue, hread]

/-- The last member is read, and the object ends. -/
theorem readMembers_of_brace
    {value : Json}
    (hvalue : value.isIntegral = true)
    {fuel : Nat}
    {rest : List Char}
    (hread :
      readValue fuel (written value ++ '\x7d' :: rest) = some (value, '\x7d' :: rest))
    (earlier : List (String × Json))
    (name : String) :
    readMembers (fuel + 1) true earlier
        (writtenName name ++ (written value ++ '\x7d' :: rest)) =
      some (.object ((name, value) :: earlier).reverse, rest) := by
  rw [writtenName_append, readMembers, readString_written]
  simp [skipSpace_cons (c := ':') rfl, skipSpace_cons (c := '\x7d') rfl,
    skipSpace_written hvalue, hread]

/-- **Members are read back**, up to the closing brace. -/
theorem readMembers_written
    (first : String × Json)
    {members : List (String × Json)}
    (hreads : ∀ member ∈ first :: members, ReadsBack member.2)
    (hintegral : ∀ member ∈ first :: members, member.2.isIntegral = true)
    (fuel : Nat)
    (hfuel :
      (writtenName first.1 ++ written first.2 ++
        members.flatMap (fun member =>
          ',' :: (writtenName member.1 ++ written member.2))).length + 1 ≤ fuel)
    (earlier : List (String × Json))
    (rest : List Char) :
    readMembers fuel true earlier
        (writtenName first.1 ++ (written first.2 ++
          (members.flatMap (fun member =>
            ',' :: (writtenName member.1 ++ written member.2)) ++ '\x7d' :: rest))) =
      some (.object (earlier.reverse ++ first :: members), rest) := by
  induction members generalizing first fuel earlier with
  | nil =>
      cases fuel with
      | zero => exact absurd hfuel (by simp)
      | succ fuel =>
          simp only [List.length_append, List.flatMap_nil, List.length_nil] at hfuel
          have hfirst :=
            hreads first List.mem_cons_self fuel ('\x7d' :: rest)
              (by omega) (delimits_cons (by decide) rest)
          rw [List.flatMap_nil, List.nil_append,
            readMembers_of_brace (hintegral first List.mem_cons_self) hfirst]
          simp
  | cons member members ih =>
      cases fuel with
      | zero => exact absurd hfuel (by simp)
      | succ fuel =>
          simp only [List.flatMap_cons, List.cons_append, List.append_assoc,
            List.length_append, List.length_cons] at hfuel ⊢
          have hfirst :=
            hreads first List.mem_cons_self fuel
              (',' :: (writtenName member.1 ++ (written member.2 ++
                (members.flatMap (fun member =>
                  ',' :: (writtenName member.1 ++ written member.2)) ++
                    '\x7d' :: rest))))
              (by omega) (delimits_cons (by decide) _)
          have hmembers :=
            ih member
              (fun other hother => hreads other (List.mem_cons_of_mem _ hother))
              (fun other hother => hintegral other (List.mem_cons_of_mem _ hother))
              fuel (by simp only [List.length_append]; omega)
              (first :: earlier)
          rw [readMembers_of_comma (hintegral first List.mem_cons_self) hfirst,
            skipSpace_writtenName, hmembers]
          simp

/-- **An array is read back** if its items are. -/
theorem readsBack_array
    {items : List Json}
    (hreads : ∀ item ∈ items, ReadsBack item)
    (hintegral : ∀ item ∈ items, item.isIntegral = true) :
    ReadsBack (.array items) := by
  intro fuel rest hfuel _
  cases items with
  | nil =>
      cases fuel with
      | zero => exact absurd hfuel (by simp [written, writeAt])
      | succ fuel => rfl
  | cons first items =>
      rw [written_array] at hfuel ⊢
      cases fuel with
      | zero => exact absurd hfuel (by simp)
      | succ fuel =>
          simp only [List.length_cons, List.length_append, List.length_nil] at hfuel
          have hfirst := hintegral first List.mem_cons_self
          have hitems :=
            readItems_written first hreads
              (fun item hitem => hintegral item (List.mem_cons_of_mem _ hitem))
              fuel (by simp only [List.length_append]; omega) [] rest
          have hskip :=
            skipSpace_written hfirst
              (items.flatMap (fun item => ',' :: written item) ++ ']' :: rest)
          obtain ⟨c, cs, hwritten, -, hclose⟩ := exists_written_eq_cons hfirst
          simp only [hwritten, List.cons_append, List.append_assoc, List.nil_append]
            at hitems hskip ⊢
          rw [readValue]
          simp only [hskip]
          split
          · rename_i heq
            exact absurd (List.cons.inj heq).1 hclose
          · exact hitems

/-- **An object is read back** if the values of its members are. -/
theorem readsBack_object
    {members : List (String × Json)}
    (hreads : ∀ member ∈ members, ReadsBack member.2)
    (hintegral : ∀ member ∈ members, member.2.isIntegral = true) :
    ReadsBack (.object members) := by
  intro fuel rest hfuel _
  cases members with
  | nil =>
      cases fuel with
      | zero => exact absurd hfuel (by simp [written, writeAt])
      | succ fuel => rfl
  | cons first members =>
      rw [written_object] at hfuel ⊢
      cases fuel with
      | zero => exact absurd hfuel (by simp)
      | succ fuel =>
          simp only [List.length_cons, List.length_append, List.length_nil] at hfuel
          have hmembers :=
            readMembers_written first hreads hintegral fuel
              (by simp only [List.length_append]; omega) [] rest
          simp only [List.cons_append, List.append_assoc, List.nil_append]
          rw [readValue]
          simp only [skipSpace_writtenName]
          split
          · rename_i heq
            exact absurd (List.cons.inj heq).1 (by decide)
          · exact hmembers

theorem areIntegral_iff {items : List Json} :
    areIntegral items = true ↔ ∀ item ∈ items, item.isIntegral = true := by
  induction items with
  | nil => simp [areIntegral]
  | cons first items ih =>
      rw [areIntegral, Bool.and_eq_true, ih, List.forall_mem_cons]

theorem areIntegralMembers_iff {members : List (String × Json)} :
    areIntegralMembers members = true ↔
      ∀ member ∈ members, member.2.isIntegral = true := by
  induction members with
  | nil => simp [areIntegralMembers]
  | cons first members ih =>
      obtain ⟨name, value⟩ := first
      rw [areIntegralMembers, isIntegralMember, Bool.and_eq_true, ih,
        List.forall_mem_cons]

mutual

/-- **A value is read back.** -/
theorem readsBack : (json : Json) → json.isIntegral = true → ReadsBack json
  | .null, _ => by
      intro fuel rest hfuel _
      cases fuel with
      | zero => exact absurd hfuel (by simp [written, writeAt])
      | succ fuel => rfl
  | .bool value, _ => by
      intro fuel rest hfuel _
      cases fuel with
      | zero => cases value <;> exact absurd hfuel (by simp [written, writeAt])
      | succ fuel => cases value <;> rfl
  | .number (.integer negative magnitude), _ => readsBack_number negative magnitude
  | .text value, _ => readsBack_text value
  | .array items, h => readsBack_array (itemsReadBack items h) (areIntegral_iff.mp h)
  | .object members, h =>
      readsBack_object (membersReadBack members h) (areIntegralMembers_iff.mp h)
termination_by structural json => json

/-- All items are read back. -/
theorem itemsReadBack :
    (items : List Json) →
    areIntegral items = true →
    ∀ item ∈ items, ReadsBack item
  | [], _ => fun _ hmem => absurd hmem List.not_mem_nil
  | first :: items, h => by
      have hfirst := readsBack first (Bool.and_eq_true_iff.mp h).1
      have hitems := itemsReadBack items (Bool.and_eq_true_iff.mp h).2
      exact List.forall_mem_cons.mpr ⟨hfirst, hitems⟩
termination_by structural items => items

/-- The values of all members are read back. -/
theorem membersReadBack :
    (members : List (String × Json)) →
    areIntegralMembers members = true →
    ∀ member ∈ members, ReadsBack member.2
  | [], _ => fun _ hmem => absurd hmem List.not_mem_nil
  | first :: members, h => by
      have hfirst := memberReadsBack first (Bool.and_eq_true_iff.mp h).1
      have hmembers := membersReadBack members (Bool.and_eq_true_iff.mp h).2
      exact List.forall_mem_cons.mpr ⟨hfirst, hmembers⟩
termination_by structural members => members

/-- The value of a member is read back. -/
theorem memberReadsBack :
    (member : String × Json) → isIntegralMember member = true → ReadsBack member.2
  | (_, value), h => readsBack value h
termination_by structural member => member

end

/-- **The text of a value is read as that value.** -/
theorem read?_write
    {json : Json}
    (h : json.isIntegral = true) :
    read? json.write = some json := by
  have hskip := skipSpace_written h []
  have hread :=
    readsBack json h (2 * (written json).length + 2) [] (by omega) delimits_nil
  rw [List.append_nil] at hskip hread
  have hchars : json.write.toList = written json := rfl
  simp only [read?, hchars, hskip, hread]
  rfl

end Values
end Json
end ScriptHub
