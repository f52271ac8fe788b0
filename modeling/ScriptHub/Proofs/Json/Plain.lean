import Mathlib.Tactic.SplitIfs
import ScriptHub.Json.Basic
import ScriptHub.Proofs.Decimal.Integer

/-!
# Flat values are plain

A value is taken in whole only if every number in it is finite in double precision
and nothing is nested too deeply.  Here both are shown of the values that matter for
events: integers of 64 bits, signed or not, are finite although they may lie beyond
the 53 bits of a mantissa, and arrays and objects of scalars are nested once.

A whole number is scaled by the power of ten zero, but this still takes two roundings:
the number is rounded, multiplied by one, and the product rounded again.  Crude bounds
on mantissa and exponent carry the finiteness through both.

**Results.**
* `Numeral.isFinite_integer`: integers of 64 bits are finite.
* `Json.isPlain_array`, `Json.isPlain_object`: what consists of scalars is plain.
-/

namespace ScriptHub
namespace Double

theorem exponentFor_le (numerator denominator : Nat) :
    exponentFor numerator denominator ≤ (Nat.log2 numerator : Int) - 52 := by
  simp only [exponentFor]
  split_ifs <;> omega

theorem le_exponentFor (numerator : Nat) :
    -53 ≤ exponentFor numerator 1 := by
  have hone : Nat.log2 1 = 0 := by decide
  simp only [exponentFor, hone]
  split_ifs <;> omega

theorem roundRatio_le (numerator denominator : Nat) :
    roundRatio numerator denominator ≤ numerator + 1 := by
  have hquotient := Nat.div_le_self numerator denominator
  simp only [roundRatio]
  split_ifs <;> omega

/--
The number nearest to a positive ratio: its exponent is at most one more than the
ratio asks for, and its mantissa is no more than a rounding away from the ratio.
-/
theorem exists_ofRatio
    (negative : Bool)
    {numerator : Nat}
    (denominator : Nat)
    (hpos : 0 < numerator) :
    ∃ mantissa exponent,
      ofRatio negative numerator denominator =
          (if maxExponent < exponent then infinite negative
          else finite negative mantissa exponent) ∧
        exponent ≤ max (exponentFor numerator denominator) minExponent + 1 ∧
        mantissa ≤
          max (Nat.pow 2 52)
            ((scaleDown 2 numerator denominator
              (max (exponentFor numerator denominator) minExponent)).1 + 1) := by
  unfold ofRatio
  rw [if_neg (Nat.pos_iff_ne_zero.mp hpos)]
  dsimp only
  generalize max (exponentFor numerator denominator) minExponent = bound
  generalize scaleDown 2 numerator denominator bound = scaled
  by_cases hmantissa : roundRatio scaled.1 scaled.2 = Nat.pow 2 53
  · rw [if_pos hmantissa]
    exact ⟨_, _, rfl, Int.le_refl _, Nat.le_max_left _ _⟩
  · rw [if_neg hmantissa]
    have hround :=
      Nat.le_trans (roundRatio_le scaled.1 scaled.2) (Nat.le_max_right (Nat.pow 2 52) _)
    exact ⟨_, bound, rfl, by omega, hround⟩

/-- A ratio whose numerator is not too great is finite. -/
theorem isFinite_ofRatio
    (negative : Bool)
    {numerator : Nat}
    (denominator : Nat)
    (h : numerator < Nat.pow 2 200) :
    (ofRatio negative numerator denominator).isFinite = true := by
  rcases Nat.eq_zero_or_pos numerator with rfl | hpos
  · rfl
  · obtain ⟨mantissa, exponent, hratio, hexponent, -⟩ :=
      exists_ofRatio negative denominator hpos
    have hlog := (Nat.log2_lt (k := 200) (Nat.pos_iff_ne_zero.mp hpos)).mpr h
    have hfor := exponentFor_le numerator denominator
    have hrange : ¬ maxExponent < exponent := by
      simp only [minExponent] at hexponent
      simp only [maxExponent]
      omega
    rw [hratio, if_neg hrange]
    rfl

theorem scaleDown_le
    (numerator denominator : Nat)
    {exponent : Int}
    (h : -53 ≤ exponent) :
    (scaleDown 2 numerator denominator exponent).1 ≤ numerator * Nat.pow 2 53 := by
  cases exponent with
  | ofNat up => exact Nat.le_mul_of_pos_right numerator (by decide)
  | negSucc down =>
      have hdown : down + 1 ≤ 53 := by omega
      exact Nat.mul_le_mul_left numerator (Nat.pow_le_pow_right (by decide) hdown)

theorem toRatio_le
    {mantissa : Nat}
    {exponent : Int}
    (hmantissa : mantissa ≤ Nat.pow 2 118)
    (hexponent : exponent ≤ 12) :
    (toRatio mantissa exponent).1 ≤ Nat.pow 2 130 := by
  cases exponent with
  | ofNat up =>
      have hup : up ≤ 12 := Int.ofNat_le.mp hexponent
      calc mantissa * Nat.pow 2 up
          ≤ Nat.pow 2 118 * Nat.pow 2 12 :=
            Nat.mul_le_mul hmantissa (Nat.pow_le_pow_right (by decide) hup)
        _ = Nat.pow 2 130 := by decide
  | negSucc down => exact Nat.le_trans hmantissa (by decide)

/-- A whole number of 64 bits, as a ratio after it was rounded. -/
theorem exists_ofRatio_whole
    {n : Nat}
    (hpos : 0 < n)
    (h : n < UInt64.size) :
    ∃ mantissa exponent,
      ofRatio false n 1 = finite false mantissa exponent ∧
        (toRatio mantissa exponent).1 ≤ Nat.pow 2 130 := by
  obtain ⟨mantissa, exponent, hratio, hexponent, hmantissa⟩ :=
    exists_ofRatio false 1 hpos
  have hlog := (Nat.log2_lt (k := 64) (Nat.pos_iff_ne_zero.mp hpos)).mpr h
  have hle := exponentFor_le n 1
  have hge := le_exponentFor n
  have hmax : max (exponentFor n 1) minExponent = exponentFor n 1 := by
    simp only [minExponent]
    omega
  rw [hmax] at hexponent hmantissa
  refine ⟨mantissa, exponent, ?_, toRatio_le ?_ (by omega)⟩
  · rw [hratio, if_neg]
    simp only [maxExponent]
    omega
  · have hscaled := scaleDown_le n 1 hge
    have hn : n * Nat.pow 2 53 < UInt64.size * Nat.pow 2 53 :=
      Nat.mul_lt_mul_of_pos_right h (by decide)
    have hsize : UInt64.size * Nat.pow 2 53 + 1 ≤ Nat.pow 2 118 := by decide
    have hsmall : Nat.pow 2 52 ≤ Nat.pow 2 118 := by decide
    omega

/-- One as a power of ten, as a ratio. -/
theorem exists_ofDecimal_one :
    ∃ mantissa exponent,
      ofDecimal false 1 0 = finite false mantissa exponent ∧
        (toRatio mantissa exponent).1 ≤ Nat.pow 2 52 := by
  have hratio : ofRatio false 1 1 = finite false (Nat.pow 2 52) (-52) := by
    decide +kernel
  refine ⟨Nat.pow 2 52, -52, ?_, Nat.le_refl _⟩
  simp [ofDecimal, digitCount, scaleDown, Nat.toDigits_of_lt_base, hratio]

/-- **A whole number of 64 bits is finite** when it is scaled by no power of ten. -/
theorem isFinite_timesPower
    {n : Nat}
    (hpos : 0 < n)
    (h : n < UInt64.size) :
    (timesPower n 0).isFinite = true := by
  obtain ⟨mantissa, exponent, hratio, hbound⟩ := exists_ofRatio_whole hpos h
  obtain ⟨one, exponent', hone, hbound'⟩ := exists_ofDecimal_one
  simp only [timesPower, hratio, Int.natCast_zero, hone, times?, Option.getD_some]
  apply isFinite_ofRatio
  calc (toRatio mantissa exponent).1 * (toRatio one exponent').1
      ≤ Nat.pow 2 130 * Nat.pow 2 52 := Nat.mul_le_mul hbound hbound'
    _ < Nat.pow 2 200 := by decide

end Double

namespace Numeral

/-- All digits are kept while the number they make fits into 64 bits. -/
theorem keepDigits_eq
    (kept : Nat)
    {digits : List Char}
    (hdigits : ∀ c ∈ digits, c.isDigit = true)
    (h : Nat.ofDigitChars 10 digits kept < UInt64.size) :
    keepDigits kept digits = (Nat.ofDigitChars 10 digits kept, []) := by
  induction digits generalizing kept with
  | nil => rw [keepDigits, Nat.ofDigitChars_nil]
  | cons digit rest ih =>
      rw [Nat.ofDigitChars_cons] at h ⊢
      have hrest := Decimal.le_ofDigitChars (10 * kept + (digit.toNat - '0'.toNat)) rest
      have hdigit := hdigits digit List.mem_cons_self
      have hvalue :
          kept * 10 + (Decimal.digitValue? digit).getD 0 =
            10 * kept + (digit.toNat - '0'.toNat) := by
        rw [Decimal.digitValue?_of_isDigit hdigit, Option.getD_some, Nat.mul_comm]
      simp only [keepDigits, hvalue]
      rw [if_pos (by omega)]
      exact ih _ (fun c hc => hdigits c (List.mem_cons_of_mem _ hc)) h

/-- **Integers of 64 bits are finite.** -/
theorem isFinite_integer
    (negative : Bool)
    {magnitude : Nat}
    (h : magnitude < UInt64.size) :
    (integer negative magnitude).isFinite = true := by
  have hkept : keepDigits 0 (Nat.toDigits 10 magnitude) = (magnitude, []) := by
    rw [keepDigits_eq 0 (fun c hc =>
        Nat.isDigit_of_mem_toDigits (by decide) (by decide) hc)] <;>
      rw [Nat.ofDigitChars_ten_toDigits]
    exact h
  have hscaled : scaled (Nat.toDigits 10 magnitude) [] 0 = (magnitude, 0) := by
    simp [scaled, hkept, keepDigits]
  rw [isFinite, hscaled]
  rcases Nat.eq_zero_or_pos magnitude with rfl | hpos
  · rfl
  · change
      (magnitude == 0 || (decide (0 ≤ greatestPower) &&
        (Double.timesPower magnitude 0).isFinite)) = true
    rw [Double.isFinite_timesPower hpos h]
    simp

end Numeral

namespace Json

/--
Whether a value is a scalar: null, a flag, a text, or an integer whose magnitude has
64 bits, as every signed and every unsigned integer of 64 bits does.
-/
def isScalar : Json → Bool
  | .null => true
  | .bool _ => true
  | .text _ => true
  | .number (.integer _ magnitude) => decide (magnitude < UInt64.size)
  | _ => false

/-- A scalar is sound and has no depth. -/
theorem isSound_of_isScalar
    {json : Json}
    (h : json.isScalar = true) :
    json.isSound = true ∧ json.depth = 0 := by
  cases json with
  | null => exact ⟨rfl, rfl⟩
  | bool value => exact ⟨rfl, rfl⟩
  | text value => exact ⟨rfl, rfl⟩
  | number numeral =>
      cases numeral with
      | integer negative magnitude =>
          exact ⟨Numeral.isFinite_integer negative (of_decide_eq_true h), rfl⟩
      | decimal => exact absurd h Bool.false_ne_true
  | unpaired => exact absurd h Bool.false_ne_true
  | array items => exact absurd h Bool.false_ne_true
  | object members => exact absurd h Bool.false_ne_true

/-- **An array of scalars is plain.** -/
theorem isPlain_array
    {items : List Json}
    (h : ∀ item ∈ items, item.isScalar = true) :
    (Json.array items).isPlain = true := by
  have hparts : areSound items = true ∧ depthOfItems items = 0 := by
    induction items with
    | nil => exact ⟨rfl, rfl⟩
    | cons item rest ih =>
        obtain ⟨hitem, hrest⟩ := List.forall_mem_cons.mp h
        obtain ⟨hsound, hdepth⟩ := isSound_of_isScalar hitem
        obtain ⟨hsounds, hdepths⟩ := ih hrest
        simp [areSound, depthOfItems, hsound, hdepth, hsounds, hdepths]
  simp [isPlain, isSound, depth, hparts, depthLimit]

/-- **An object of scalars is plain.** -/
theorem isPlain_object
    {members : List (String × Json)}
    (h : ∀ member ∈ members, member.2.isScalar = true) :
    (Json.object members).isPlain = true := by
  have hparts : areSoundMembers members = true ∧ depthOfMembers members = 0 := by
    induction members with
    | nil => exact ⟨rfl, rfl⟩
    | cons member rest ih =>
        obtain ⟨hmember, hrest⟩ := List.forall_mem_cons.mp h
        obtain ⟨name, value⟩ := member
        obtain ⟨hsound, hdepth⟩ := isSound_of_isScalar hmember
        obtain ⟨hsounds, hdepths⟩ := ih hrest
        simp [areSoundMembers, isSoundMember, depthOfMembers, depthOfMember, hsound,
          hdepth, hsounds, hdepths]
  simp [isPlain, isSound, depth, hparts, depthLimit]

end Json
end ScriptHub
