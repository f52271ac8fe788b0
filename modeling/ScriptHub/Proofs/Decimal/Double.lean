import ScriptHub.Decimal.Double
import ScriptHub.Proofs.Decimal.Integer
import ScriptHub.Proofs.Text.LetterCase

/-!
# Which texts are numbers in double precision

A text is read as a number in double precision if it is an optional sign and then digits
with an optional point and an optional exponent, or a word for infinity or for no number
in any letter case.  Digits write the number nearest to their value.

**Results.**
* `Double.readExponent?_eq_some_iff`, `Double.readDecimal?_eq_some_iff`: the parts of a
  number.
* `Double.read?_eq_some_iff`: which texts are read as numbers.
* `Double.exists_writes_of_writesInt`: integers are such texts.
-/

namespace ScriptHub
namespace Double

open Decimal (IsDigits WritesInt valueOf)

section Definitions

/-- The end of a number: nothing, or the letter e and an integer. -/
def WritesExponent (tail : List Char) (power : Int) : Prop :=
  (tail = [] ∧ power = 0) ∨
    ∃ mark word,
      tail = mark :: word ∧
        (mark = 'e' ∨ mark = 'E') ∧
        WritesInt word power

/-- Digits with an optional point before, among or behind them. -/
def HasDigits (front whole places : List Char) : Prop :=
  (front = whole ∧ places = [] ∨ front = whole ++ '.' :: places) ∧
    IsDigits (whole ++ places)

/-- A text without a sign writes a number. -/
inductive WritesUnsigned (negative : Bool) (text : List Char) : Double → Prop
  | infinity :
      (text.map Char.toLower = "inf".toList ∨ text.map Char.toLower = "infinity".toList) →
      WritesUnsigned negative text (.infinite negative)
  | notANumber :
      text.map Char.toLower = "nan".toList →
      WritesUnsigned negative text .notANumber
  | decimal {front whole places tail : List Char} {power : Int} :
      text = front ++ tail →
      HasDigits front whole places →
      WritesExponent tail power →
      WritesUnsigned negative text
        (ofDecimal negative (valueOf (whole ++ places)) (power - places.length))

/-- A text writes a number. -/
inductive Writes (text : List Char) (value : Double) : Prop
  | unsigned : WritesUnsigned false text value → Writes text value
  | plus {rest : List Char} :
      text = '+' :: rest →
      WritesUnsigned false rest value →
      Writes text value
  | minus {rest : List Char} :
      text = '-' :: rest →
      WritesUnsigned true rest value →
      Writes text value

end Definitions

variable {cs text digits rest front whole places tail : List Char}
variable {negative : Bool} {value : Double} {power : Int}

section Digits

theorem isSome_digitValue? (c : Char) : (Decimal.digitValue? c).isSome = c.isDigit := by
  cases h : c.isDigit with
  | true => rw [Decimal.digitValue?_of_isDigit h, Option.isSome_some]
  | false => rw [Decimal.digitValue?_of_not_isDigit h, Option.isSome_none]

theorem spanDigits_eq (cs : List Char) :
    spanDigits cs = (cs.takeWhile Char.isDigit, cs.dropWhile Char.isDigit) := by
  unfold spanDigits
  simp only [isSome_digitValue?]

/-- Digits at the start of a text are taken up to the first other character. -/
theorem spanDigits_append
    (hdigits : ∀ c ∈ digits, c.isDigit = true)
    (hrest : ∀ c ∈ rest.head?, c.isDigit = false) :
    spanDigits (digits ++ rest) = (digits, rest) := by
  have hstops : rest.takeWhile Char.isDigit = [] ∧ rest.dropWhile Char.isDigit = rest := by
    cases rest with
    | nil => exact ⟨rfl, rfl⟩
    | cons c cs =>
        have hc : ¬ c.isDigit = true := by
          rw [hrest c rfl]
          exact Bool.false_ne_true
        exact ⟨List.takeWhile_cons_of_neg hc, List.dropWhile_cons_of_neg hc⟩
  rw [spanDigits_eq, List.takeWhile_append_of_pos hdigits,
    List.dropWhile_append_of_pos hdigits, hstops.1, hstops.2, List.append_nil]

/-- What is taken are digits, and the rest starts with no digit. -/
theorem of_spanDigits (h : spanDigits cs = (digits, rest)) :
    cs = digits ++ rest ∧
      (∀ c ∈ digits, c.isDigit = true) ∧
      ∀ c ∈ rest.head?, c.isDigit = false := by
  rw [spanDigits_eq] at h
  obtain ⟨rfl, rfl⟩ := Prod.mk.inj h
  refine ⟨List.takeWhile_append_dropWhile.symm, ?_, ?_⟩
  · exact fun c hc => List.mem_takeWhile_imp hc
  · intro c hc
    have hhead := List.head?_dropWhile_not Char.isDigit cs
    rw [Option.mem_def.mp hc] at hhead
    simpa using hhead

/-- Digits have the value that the standard library gives to them. -/
theorem digitsValue_eq (h : ∀ c ∈ digits, c.isDigit = true) :
    digitsValue digits = valueOf digits := by
  have hfold :
      ∀ (kept : Nat),
        digits.foldl (fun value c => value * 10 + (Decimal.digitValue? c).getD 0) kept =
          Nat.ofDigitChars 10 digits kept := by
    induction digits with
    | nil => exact fun _ => Nat.ofDigitChars_nil.symm
    | cons c rest ih =>
        obtain ⟨hc, hrest⟩ := List.forall_mem_cons.mp h
        intro kept
        rw [List.foldl_cons, ih hrest, Nat.ofDigitChars_cons,
          Decimal.digitValue?_of_isDigit hc, Option.getD_some, Nat.mul_comm]
  exact hfold 0

end Digits

section Exponents

/-- The digits of an exponent make up the whole rest of the text. -/
theorem readExponentDigits_eq_some_iff :
    readExponentDigits negative cs = some power ↔
      IsDigits cs ∧ power = if negative then -(valueOf cs : Int) else valueOf cs := by
  unfold readExponentDigits
  constructor
  · intro h
    split at h
    · next digits c others hspan =>
        obtain ⟨rfl, hdigits, _⟩ := of_spanDigits hspan
        rw [List.append_nil]
        rw [digitsValue_eq hdigits] at h
        exact ⟨⟨List.cons_ne_nil _ _, hdigits⟩, (Option.some.inj h).symm⟩
    · exact absurd h (by simp)
  · rintro ⟨⟨hne, hdigits⟩, rfl⟩
    have hspan : spanDigits cs = (cs, []) := by
      have happend : spanDigits (cs ++ []) = (cs, []) :=
        spanDigits_append hdigits (by simp)
      rwa [List.append_nil] at happend
    obtain ⟨c, others, rfl⟩ := List.exists_cons_of_ne_nil hne
    rw [hspan]
    simp only [digitsValue_eq hdigits]

/-- Behind the letter of an exponent stands an integer. -/
theorem readExponent?_cons_eq_some_iff
    {mark : Char}
    {word : List Char}
    (hmark : mark = 'e' ∨ mark = 'E') :
    readExponent? (mark :: word) = some power ↔ WritesInt word power := by
  unfold readExponent?
  dsimp only
  rw [if_pos hmark]
  split
  · rw [readExponentDigits_eq_some_iff, Decimal.writesInt_iff_of_ne (by simp)]
    simp [Decimal.writesNat_plus_iff, and_assoc]
  · rw [readExponentDigits_eq_some_iff, Decimal.writesInt_minus_iff]
    simp
  · next hplus hminus =>
      have hhead : word.head? ≠ some '-' := by
        intro hhead
        obtain ⟨after, rfl⟩ := List.head?_eq_some_iff.mp hhead
        exact hminus after rfl
      rw [readExponentDigits_eq_some_iff, Decimal.writesInt_iff_of_ne hhead]
      cases word with
      | nil => simp [IsDigits, Decimal.not_writesNat_nil]
      | cons c after =>
          have hc : c ≠ '+' := by
            rintro rfl
            exact hplus after rfl
          simp [Decimal.writesNat_cons_iff hc, and_assoc]

/-- **Which ends of a text are exponents.** -/
theorem readExponent?_eq_some_iff :
    readExponent? tail = some power ↔ WritesExponent tail power := by
  cases tail with
  | nil => simp [readExponent?, WritesExponent, eq_comm]
  | cons mark word =>
      by_cases hmark : mark = 'e' ∨ mark = 'E'
      · rw [readExponent?_cons_eq_some_iff hmark]
        simp [WritesExponent, hmark]
      · have hnone : readExponent? (mark :: word) = none := if_neg hmark
        rw [hnone]
        simp [WritesExponent, hmark]

end Exponents

section Decimals

/-- Behind the digits of a number stands no digit and no point. -/
theorem WritesExponent.head?_eq
    (h : WritesExponent tail power) :
    ∀ c ∈ tail.head?, c.isDigit = false ∧ c ≠ '.' := by
  obtain ⟨rfl, _⟩ | ⟨mark, word, rfl, hmark, _⟩ := h
  · simp
  · intro c hc
    obtain rfl : mark = c := Option.some.inj hc
    rcases hmark with rfl | rfl <;> decide

/-- A number starts with a digit or with its point. -/
theorem HasDigits.exists_head (h : HasDigits front whole places) :
    ∃ c others, front = c :: others ∧ (c.isDigit = true ∨ c = '.') := by
  obtain ⟨hfront, hne, hdigits⟩ := h
  cases whole with
  | nil =>
      rcases hfront with ⟨rfl, rfl⟩ | rfl
      · exact absurd rfl hne
      · exact ⟨'.', places, rfl, .inr rfl⟩
  | cons c others =>
      have hc : c.isDigit = true := hdigits c List.mem_cons_self
      rcases hfront with ⟨rfl, _⟩ | rfl
      · exact ⟨c, others, rfl, .inl hc⟩
      · exact ⟨c, others ++ '.' :: places, rfl, .inl hc⟩

/-- The digits before the point, those behind it, and the rest of a text. -/
def parts (cs : List Char) : List Char × List Char × List Char :=
  match spanDigits cs with
  | (whole, '.' :: after) => (whole, spanDigits after)
  | (whole, rest) => (whole, [], rest)

theorem readDecimal?_eq (negative : Bool) (cs : List Char) :
    readDecimal? negative cs =
      let (whole, places, tail) := parts cs
      if whole.isEmpty && places.isEmpty then
        none
      else
        (readExponent? tail).map fun exponent =>
          ofDecimal negative (digitsValue (whole ++ places))
            (exponent - places.length) := by
  unfold readDecimal? parts
  obtain ⟨whole, rest⟩ := spanDigits cs
  dsimp only
  split <;> split <;> simp_all

/-- Digits with an optional point are taken apart into their parts. -/
theorem parts_append
    (hdigits : HasDigits front whole places)
    (htail : ∀ c ∈ tail.head?, c.isDigit = false ∧ c ≠ '.') :
    parts (front ++ tail) = (whole, places, tail) := by
  obtain ⟨hfront, _, hall⟩ := hdigits
  obtain ⟨hwhole, hplaces⟩ := List.forall_mem_append.mp hall
  have hstop : ∀ c ∈ tail.head?, c.isDigit = false := fun c hc => (htail c hc).1
  unfold parts
  rcases hfront with ⟨rfl, rfl⟩ | rfl
  · rw [spanDigits_append hwhole hstop]
    split
    · next heq =>
        obtain ⟨_, rfl⟩ := Prod.mk.inj heq
        exact absurd rfl (htail '.' rfl).2
    · next heq =>
        obtain ⟨rfl, rfl⟩ := Prod.mk.inj heq
        rfl
  · have hpoint : ∀ c ∈ ('.' :: (places ++ tail)).head?, c.isDigit = false := by
      intro c hc
      obtain rfl := Option.some.inj hc
      rfl
    rw [List.append_assoc, List.cons_append, spanDigits_append hwhole hpoint]
    simp only [spanDigits_append hplaces hstop]

/-- The parts of a text make it up again, and they hold digits only. -/
theorem of_parts (h : parts cs = (whole, places, tail)) :
    ∃ front,
      cs = front ++ tail ∧
        (front = whole ∧ places = [] ∨ front = whole ++ '.' :: places) ∧
        ∀ c ∈ whole ++ places, c.isDigit = true := by
  unfold parts at h
  split at h
  · next after hspan =>
      obtain ⟨rfl, hplaces⟩ := Prod.mk.inj h
      obtain ⟨rfl, hdigits, _⟩ := of_spanDigits hspan
      obtain ⟨rfl, hdigits', _⟩ := of_spanDigits hplaces
      refine ⟨_ ++ '.' :: places, ?_, .inr rfl, ?_⟩
      · rw [List.append_assoc, List.cons_append]
      · exact List.forall_mem_append.mpr ⟨hdigits, hdigits'⟩
  · next hspan =>
      obtain ⟨rfl, hrest⟩ := Prod.mk.inj h
      obtain ⟨rfl, rfl⟩ := Prod.mk.inj hrest
      obtain ⟨rfl, hdigits, _⟩ := of_spanDigits hspan
      refine ⟨_, rfl, .inl ⟨rfl, rfl⟩, ?_⟩
      rwa [List.append_nil]

/-- **Which texts without a sign are decimal numbers.** -/
theorem readDecimal?_eq_some_iff :
    readDecimal? negative cs = some value ↔
      ∃ front whole places tail power,
        cs = front ++ tail ∧
          HasDigits front whole places ∧
          WritesExponent tail power ∧
          value =
            ofDecimal negative (valueOf (whole ++ places)) (power - places.length) := by
  rw [readDecimal?_eq]
  constructor
  · intro h
    obtain ⟨whole, places, tail, hparts⟩ :
        ∃ whole places tail, parts cs = (whole, places, tail) :=
      ⟨_, _, _, rfl⟩
    obtain ⟨front, rfl, hfront, hdigits⟩ := of_parts hparts
    rw [hparts] at h
    dsimp only at h
    split at h
    · exact absurd h (by simp)
    · next hsome =>
        obtain ⟨power, hpower, rfl⟩ := Option.map_eq_some_iff.mp h
        have hne : whole ++ places ≠ [] := by
          intro hnil
          obtain ⟨rfl, rfl⟩ := List.append_eq_nil_iff.mp hnil
          exact hsome rfl
        refine ⟨front, whole, places, tail, power, rfl, ⟨hfront, hne, hdigits⟩,
          readExponent?_eq_some_iff.mp hpower, ?_⟩
        rw [digitsValue_eq hdigits]
  · rintro ⟨front, whole, places, tail, power, rfl, hdigits, hexponent, rfl⟩
    have hsome : ¬ (whole.isEmpty && places.isEmpty) = true := by
      intro hempty
      rw [Bool.and_eq_true, List.isEmpty_iff, List.isEmpty_iff] at hempty
      exact hdigits.2.1 (List.append_eq_nil_iff.mpr hempty)
    rw [parts_append hdigits hexponent.head?_eq]
    dsimp only
    rw [if_neg hsome, readExponent?_eq_some_iff.mpr hexponent, Option.map_some,
      digitsValue_eq hdigits.2.2]

end Decimals

section Words

theorem lowerAscii_eq (cs : List Char) : lowerAscii cs = cs.map Char.toLower := by
  have hascii :
      ∀ n : Fin 128,
        (if 'A' ≤ Char.ofNat n ∧ Char.ofNat n ≤ 'Z' then
            Char.ofNat ((Char.ofNat n).toNat + 32)
          else
            Char.ofNat n) =
          (Char.ofNat n).toLower := by
    decide +kernel
  apply List.map_congr_left
  intro c _
  by_cases hc : c.toNat < 128
  · have hlower := hascii ⟨c.toNat, hc⟩
    rwa [Char.ofNat_toNat] at hlower
  · have hcode : 128 ≤ c.toNat := Nat.le_of_not_lt hc
    have hupper : ¬ ('A' ≤ c ∧ c ≤ 'Z') := by
      rintro ⟨_, hle⟩
      have hnat : c.toNat ≤ 90 := UInt32.le_iff_toNat_le.mp hle
      omega
    rw [if_neg hupper, Text.toLower_of_not_ascii hcode]

/-- A decimal number is no word: it starts with a digit or with its point. -/
theorem HasDigits.ne_word
    (h : HasDigits front whole places)
    {word : List Char}
    (hword : word.head?.any Char.isAlpha = true) :
    (front ++ tail).map Char.toLower ≠ word := by
  have hletters :
      ∀ n : Fin 128,
        (Char.ofNat n).toLower.isAlpha = true →
          (Char.ofNat n).isDigit = false ∧ Char.ofNat n ≠ '.' := by
    decide +kernel
  obtain ⟨c, others, rfl, hc⟩ := h.exists_head
  rintro rfl
  have hascii : c.toNat < 128 := by
    rcases hc with hc | rfl
    · simp only [Char.isDigit, Bool.and_eq_true, decide_eq_true_eq] at hc
      have hhigh : c.toNat ≤ 57 := UInt32.le_iff_toNat_le.mp hc.2
      omega
    · decide
  have hletter := hletters ⟨c.toNat, hascii⟩
  rw [Char.ofNat_toNat] at hletter
  obtain ⟨hdigit, hpoint⟩ := hletter hword
  rcases hc with hc | hc
  · rw [hc] at hdigit
    exact absurd hdigit (by decide)
  · exact hpoint hc

/-- A number starts with a letter, a digit or its point, and never with a sign. -/
theorem WritesUnsigned.exists_head (h : WritesUnsigned negative text value) :
    ∃ c others, text = c :: others ∧ c ≠ '+' ∧ c ≠ '-' := by
  have hword :
      (text.map Char.toLower).head?.any Char.isAlpha = true →
        ∃ c others, text = c :: others ∧ c ≠ '+' ∧ c ≠ '-' := by
    intro hletter
    cases text with
    | nil => exact absurd hletter (by decide)
    | cons c others =>
        have halpha : c.toLower.isAlpha = true := hletter
        refine ⟨c, others, rfl, ?_, ?_⟩
        · rintro rfl
          exact absurd halpha (by decide)
        · rintro rfl
          exact absurd halpha (by decide)
  cases h with
  | infinity h =>
      apply hword
      rcases h with h | h <;> rw [h] <;> decide
  | notANumber h =>
      apply hword
      rw [h]
      decide
  | decimal htext hdigits =>
      obtain ⟨c, others, rfl, hc⟩ := hdigits.exists_head
      refine ⟨c, others ++ _, htext, ?_, ?_⟩
      · rintro rfl
        exact absurd hc (by decide)
      · rintro rfl
        exact absurd hc (by decide)

/-- **Which texts without a sign are numbers.** -/
theorem readUnsigned?_eq_some_iff :
    readUnsigned? negative cs = some value ↔ WritesUnsigned negative cs value := by
  have hword :
      ∀ word : String,
        String.ofList (lowerAscii cs) = word ↔ cs.map Char.toLower = word.toList := by
    intro word
    rw [← String.toList_inj, String.toList_ofList, lowerAscii_eq]
  unfold readUnsigned?
  simp only [hword]
  constructor
  · intro h
    split at h
    · next hinfinity =>
        obtain rfl := Option.some.inj h
        exact .infinity hinfinity
    · split at h
      · next hnan =>
          obtain rfl := Option.some.inj h
          exact .notANumber hnan
      · obtain ⟨front, whole, places, tail, power, hcs, hdigits, hexponent, rfl⟩ :=
          readDecimal?_eq_some_iff.mp h
        exact .decimal hcs hdigits hexponent
  · intro h
    cases h with
    | infinity h => rw [if_pos h]
    | notANumber h =>
        rw [if_neg, if_pos h]
        rw [h]
        decide
    | @decimal front whole places tail power htext hdigits hexponent =>
        subst htext
        have hshort : (front ++ tail).map Char.toLower ≠ "inf".toList :=
          hdigits.ne_word (by decide)
        have hlong : (front ++ tail).map Char.toLower ≠ "infinity".toList :=
          hdigits.ne_word (by decide)
        have hnan : (front ++ tail).map Char.toLower ≠ "nan".toList :=
          hdigits.ne_word (by decide)
        rw [if_neg (not_or.mpr ⟨hshort, hlong⟩), if_neg hnan]
        exact readDecimal?_eq_some_iff.mpr
          ⟨front, whole, places, tail, power, rfl, hdigits, hexponent, rfl⟩

end Words

/-- **Which texts are numbers in double precision.** -/
theorem read?_eq_some_iff : read? text = some value ↔ Writes text value := by
  constructor
  · intro h
    unfold read? at h
    split at h
    · exact .minus rfl (readUnsigned?_eq_some_iff.mp h)
    · exact .plus rfl (readUnsigned?_eq_some_iff.mp h)
    · exact .unsigned (readUnsigned?_eq_some_iff.mp h)
  · intro h
    cases h with
    | plus htext h =>
        subst htext
        exact readUnsigned?_eq_some_iff.mpr h
    | minus htext h =>
        subst htext
        exact readUnsigned?_eq_some_iff.mpr h
    | unsigned h =>
        obtain ⟨c, others, rfl, hplus, hminus⟩ := h.exists_head
        have hread : read? (c :: others) = readUnsigned? false (c :: others) := by
          unfold read?
          split
          · next heq => exact absurd (List.cons.inj heq).1 hminus
          · next heq => exact absurd (List.cons.inj heq).1 hplus
          · rfl
        rw [hread]
        exact readUnsigned?_eq_some_iff.mpr h

/-- Integers are numbers. -/
theorem exists_writes_of_writesInt
    {i : Int}
    (h : WritesInt text i) :
    ∃ value, Writes text value := by
  have hdigits :
      ∀ {negative : Bool} {digits : List Char},
        IsDigits digits → ∃ value, WritesUnsigned negative digits value := by
    intro negative digits hdigits
    have hparts : HasDigits digits digits [] := by
      refine ⟨.inl ⟨rfl, rfl⟩, ?_⟩
      rwa [List.append_nil]
    exact ⟨_, .decimal (List.append_nil digits).symm hparts (.inl ⟨rfl, rfl⟩)⟩
  obtain ⟨n, ⟨digits, rfl | rfl, h, _⟩, _⟩ | ⟨digits, rfl, h, _⟩ := h
  · obtain ⟨value, hvalue⟩ := hdigits h
    exact ⟨value, .unsigned hvalue⟩
  · obtain ⟨value, hvalue⟩ := hdigits h
    exact ⟨value, .plus rfl hvalue⟩
  · obtain ⟨value, hvalue⟩ := hdigits h
    exact ⟨value, .minus rfl hvalue⟩

end Double
end ScriptHub
