import Mathlib.Data.List.Basic
import ScriptHub.Decimal.Integer
import ScriptHub.Proofs.Text.Trimming

/-!
# Which texts are integers

A text is read as an integer of some width exactly if it is an optional sign and one or
more digits whose value fits.  The value of digits is the one that the standard library
gives to them, and so is the text in which a number is shown.

**Results.**
* `readUInt64_eq_ok_iff`, `readInt32_eq_ok_iff`: which texts are read as integers.
* `WritesInt.isWord`: an integer is written without blanks.
* `writesNat_toString`, `writesInt_toString`: a number is written by the text that shows it.
-/

namespace ScriptHub
namespace Decimal

section Definitions

/-- One or more ASCII digits. -/
def IsDigits (cs : List Char) : Prop :=
  cs ≠ [] ∧ ∀ c ∈ cs, c.isDigit = true

/-- The value of digits, the first of which counts most. -/
def valueOf (digits : List Char) : Nat :=
  Nat.ofDigitChars 10 digits 0

/-- A word is digits with the value of a number, and possibly a plus sign before them. -/
def WritesNat (word : List Char) (n : Nat) : Prop :=
  ∃ digits,
    (word = digits ∨ word = '+' :: digits) ∧
      IsDigits digits ∧
      valueOf digits = n

/-- A word is digits with an optional sign, which have the value of an integer. -/
def WritesInt (word : List Char) (i : Int) : Prop :=
  (∃ n : Nat, WritesNat word n ∧ i = n) ∨
    ∃ digits,
      word = '-' :: digits ∧
        IsDigits digits ∧
        i = -(valueOf digits : Int)

end Definitions

section Digits

theorem le_ofDigitChars
    (kept : Nat)
    (digits : List Char) :
    kept ≤ Nat.ofDigitChars 10 digits kept := by
  induction digits generalizing kept with
  | nil => exact Nat.le_of_eq Nat.ofDigitChars_nil.symm
  | cons digit rest ih =>
      rw [Nat.ofDigitChars_cons]
      have hrest := ih (10 * kept + (digit.toNat - '0'.toNat))
      omega

theorem digitValue?_of_isDigit
    {c : Char}
    (h : c.isDigit = true) :
    digitValue? c = some (c.toNat - '0'.toNat) := by
  have hrange : '0' ≤ c ∧ c ≤ '9' := by
    simpa [Char.isDigit, Char.le_def] using h
  rw [digitValue?, if_pos hrange]

theorem digitValue?_of_not_isDigit
    {c : Char}
    (h : c.isDigit = false) :
    digitValue? c = none := by
  have hrange : ¬ ('0' ≤ c ∧ c ≤ '9') := by
    simpa [Char.isDigit, Char.le_def] using h
  rw [digitValue?, if_neg hrange]

/-- Digits are read up to the limit, and other characters are not. -/
theorem readDigits_eq_ok_iff
    {limit value n : Nat}
    {beyond : IntegerError}
    {cs : List Char}
    (h : value ≤ limit) :
    readDigits limit beyond value cs = .ok n ↔
      (∀ c ∈ cs, c.isDigit = true) ∧
        Nat.ofDigitChars 10 cs value = n ∧
        n ≤ limit := by
  induction cs generalizing value with
  | nil =>
      simp only [readDigits, Except.ok.injEq, Nat.ofDigitChars_nil]
      constructor
      · rintro rfl
        simp [h]
      · rintro ⟨_, rfl, _⟩
        rfl
  | cons c cs ih =>
      cases hdigit : c.isDigit with
      | false => simp [readDigits, digitValue?_of_not_isDigit hdigit, hdigit]
      | true =>
          have hvalue :
              value * 10 + (c.toNat - '0'.toNat) =
                10 * value + (c.toNat - '0'.toNat) := by
            omega
          simp only [readDigits, digitValue?_of_isDigit hdigit, hvalue,
            Nat.ofDigitChars_cons, List.forall_mem_cons, hdigit, true_and]
          split
          · next hbeyond =>
              -- What is read so far can only grow.
              have hgrows :=
                le_ofDigitChars (10 * value + (c.toNat - '0'.toNat)) cs
              simp only [reduceCtorEq, false_iff, not_and]
              omega
          · next hwithin => exact ih (Nat.le_of_not_lt hwithin)

/-- One or more characters are read exactly if they are digits whose value fits. -/
theorem readDigits_zero_eq_ok_iff
    {limit n : Nat}
    {beyond : IntegerError}
    {cs : List Char}
    (h : cs ≠ []) :
    readDigits limit beyond 0 cs = .ok n ↔
      IsDigits cs ∧ valueOf cs = n ∧ n ≤ limit := by
  rw [readDigits_eq_ok_iff (Nat.zero_le limit)]
  simp [IsDigits, valueOf, h]

end Digits

section Signs

variable {n : Nat} {c : Char} {cs : List Char}

theorem not_writesNat_nil : ¬ WritesNat [] n := by
  rintro ⟨digits, rfl | hplus, ⟨hne, _⟩, _⟩
  · exact hne rfl
  · exact absurd hplus (by simp)

/-- A sign is no digit, so that digits stand behind it. -/
theorem writesNat_plus_iff :
    WritesNat ('+' :: cs) n ↔ IsDigits cs ∧ valueOf cs = n := by
  constructor
  · rintro ⟨digits, rfl | hplus, hdigits, hvalue⟩
    · exact absurd (hdigits.2 '+' List.mem_cons_self) (by decide)
    · obtain ⟨_, rfl⟩ := List.cons.inj hplus
      exact ⟨hdigits, hvalue⟩
  · rintro ⟨hdigits, hvalue⟩
    exact ⟨cs, .inr rfl, hdigits, hvalue⟩

theorem writesNat_cons_iff
    (h : c ≠ '+') :
    WritesNat (c :: cs) n ↔ IsDigits (c :: cs) ∧ valueOf (c :: cs) = n := by
  constructor
  · rintro ⟨digits, rfl | hplus, hdigits, hvalue⟩
    · exact ⟨hdigits, hvalue⟩
    · exact absurd (List.cons.inj hplus).1 h
  · rintro ⟨hdigits, hvalue⟩
    exact ⟨_, .inl rfl, hdigits, hvalue⟩

theorem writesInt_minus_iff {i : Int} :
    WritesInt ('-' :: cs) i ↔ IsDigits cs ∧ i = -(valueOf cs : Int) := by
  constructor
  · rintro (⟨n, hwrites, _⟩ | ⟨digits, hminus, hdigits, hvalue⟩)
    · have hdigits := ((writesNat_cons_iff (by decide)).mp hwrites).1
      exact absurd (hdigits.2 '-' List.mem_cons_self) (by decide)
    · obtain ⟨_, rfl⟩ := List.cons.inj hminus
      exact ⟨hdigits, hvalue⟩
  · rintro ⟨hdigits, hvalue⟩
    exact .inr ⟨cs, rfl, hdigits, hvalue⟩

theorem writesInt_iff_of_ne
    {word : List Char}
    {i : Int}
    (h : word.head? ≠ some '-') :
    WritesInt word i ↔ ∃ n : Nat, WritesNat word n ∧ i = n := by
  constructor
  · rintro (hnat | ⟨digits, rfl, _⟩)
    · exact hnat
    · exact absurd rfl h
  · exact .inl

end Signs

section Integers

variable {limit below above n : Nat} {word : List Char}

theorem map_eq_ok_iff
    {ε α β : Type}
    {f : α → β}
    {result : Except ε α}
    {b : β} :
    result.map f = .ok b ↔ ∃ a, result = .ok a ∧ f a = b := by
  cases result <;> simp [Except.map]

/-- Which texts are read as natural numbers up to a limit. -/
theorem readNat_eq_ok_iff :
    readNat limit word = .ok n ↔ WritesNat word n ∧ n ≤ limit := by
  unfold readNat
  split
  · simp [not_writesNat_nil]
  · simp [writesNat_plus_iff, IsDigits]
  · next cs hne =>
      have hcs : cs ≠ [] := by
        rintro rfl
        exact hne rfl
      rw [readDigits_zero_eq_ok_iff hcs, writesNat_plus_iff, and_assoc]
  · next hnil _ hplus =>
      obtain ⟨c, cs, rfl⟩ := List.exists_cons_of_ne_nil hnil
      have hc : c ≠ '+' := by
        rintro rfl
        exact hplus cs rfl
      rw [readDigits_zero_eq_ok_iff (by simp), writesNat_cons_iff hc, and_assoc]

/-- Digits behind a plus sign, or without a sign, are read up to the upper bound. -/
theorem readDigits_map_eq_ok_iff
    {cs : List Char}
    {i : Int}
    (hcs : cs ≠ [])
    (hwrites : ∀ n, WritesNat word n ↔ IsDigits cs ∧ valueOf cs = n)
    (hhead : word.head? ≠ some '-') :
    (readDigits above .tooLarge 0 cs).map Int.ofNat = .ok i ↔
      WritesInt word i ∧ -(below : Int) ≤ i ∧ i ≤ above := by
  rw [writesInt_iff_of_ne hhead, map_eq_ok_iff]
  simp only [readDigits_zero_eq_ok_iff hcs, hwrites]
  constructor
  · rintro ⟨n, ⟨hdigits, hvalue, hfits⟩, rfl⟩
    refine ⟨⟨n, ⟨hdigits, hvalue⟩, rfl⟩, ?_, ?_⟩ <;>
      simp only [Int.ofNat_eq_natCast] <;> omega
  · rintro ⟨⟨n, ⟨hdigits, hvalue⟩, rfl⟩, _, hfits⟩
    exact ⟨n, ⟨hdigits, hvalue, by omega⟩, rfl⟩

/-- Which texts are read as integers between two bounds. -/
theorem readInt_eq_ok_iff {i : Int} :
    readInt below above word = .ok i ↔
      WritesInt word i ∧ -(below : Int) ≤ i ∧ i ≤ above := by
  unfold readInt
  split
  · rw [writesInt_iff_of_ne (by simp)]
    simp [not_writesNat_nil]
  · rw [writesInt_iff_of_ne (by simp)]
    simp [writesNat_plus_iff, IsDigits]
  · simp [writesInt_minus_iff, IsDigits]
  · next cs hne =>
      have hcs : cs ≠ [] := by
        rintro rfl
        exact hne rfl
      exact readDigits_map_eq_ok_iff hcs (fun n => writesNat_plus_iff) (by simp)
  · next cs hne =>
      have hcs : cs ≠ [] := by
        rintro rfl
        exact hne rfl
      rw [map_eq_ok_iff, writesInt_minus_iff]
      simp only [readDigits_zero_eq_ok_iff hcs]
      constructor
      · rintro ⟨n, ⟨hdigits, rfl, hfits⟩, rfl⟩
        refine ⟨⟨hdigits, rfl⟩, ?_, ?_⟩ <;>
          simp only [Int.ofNat_eq_natCast] <;> omega
      · rintro ⟨⟨hdigits, rfl⟩, hfits, _⟩
        exact ⟨_, ⟨hdigits, rfl, by omega⟩, rfl⟩
  · next hnil _ _ hplus hminus =>
      obtain ⟨c, cs, rfl⟩ := List.exists_cons_of_ne_nil hnil
      have hc : c ≠ '+' := by
        rintro rfl
        exact hplus cs rfl
      have hc' : c ≠ '-' := by
        rintro rfl
        exact hminus cs rfl
      exact
        readDigits_map_eq_ok_iff (by simp) (fun n => writesNat_cons_iff hc)
          (by simpa using hc')

/-- **Which texts are read as integers of 64 bits** without a sign. -/
theorem readUInt64_eq_ok_iff :
    readUInt64 word = .ok n ↔ WritesNat word n ∧ n < UInt64.size := by
  unfold readUInt64
  rw [readNat_eq_ok_iff]
  have hsize : n ≤ UInt64.size - 1 ↔ n < UInt64.size := by
    simp only [UInt64.size]
    omega
  rw [hsize]

/-- **Which texts are read as integers of 32 bits.** -/
theorem readInt32_eq_ok_iff {value : Int32} :
    readInt32 word = .ok value ↔ WritesInt word value.toInt := by
  unfold readInt32
  rw [map_eq_ok_iff]
  simp only [readInt_eq_ok_iff, Int32.size]
  constructor
  · rintro ⟨i, ⟨hwrites, hlow, hhigh⟩, rfl⟩
    rwa [Int32.toInt_ofInt_of_le (by omega) (by omega)]
  · intro hwrites
    have hlow := value.le_toInt
    have hhigh := value.toInt_lt
    exact ⟨value.toInt, ⟨hwrites, by omega, by omega⟩, value.ofInt_toInt⟩

end Integers

section Words

variable {n : Nat} {i : Int} {word digits : List Char}

theorem IsDigits.isWord (h : IsDigits digits) : Text.IsWord digits := by
  refine ⟨h.1, ?_⟩
  intro c hc
  have hdigit := h.2 c hc
  simp only [Char.isDigit, Bool.and_eq_true, decide_eq_true_eq] at hdigit
  have hlow : 48 ≤ c.toNat := UInt32.le_iff_toNat_le.mp hdigit.1
  have hhigh : c.toNat ≤ 57 := UInt32.le_iff_toNat_le.mp hdigit.2
  exact Text.not_isBlank_of_printable (by omega) (by omega)

theorem WritesNat.isWord (h : WritesNat word n) : Text.IsWord word := by
  obtain ⟨digits, rfl | rfl, hdigits, _⟩ := h
  · exact hdigits.isWord
  · exact hdigits.isWord.cons (by decide)

theorem WritesInt.isWord (h : WritesInt word i) : Text.IsWord word := by
  obtain ⟨n, hnat, _⟩ | ⟨digits, rfl, hdigits, _⟩ := h
  · exact hnat.isWord
  · exact hdigits.isWord.cons (by decide)

end Words

section Showing

theorem isDigits_toDigits (n : Nat) : IsDigits (Nat.toDigits 10 n) :=
  ⟨Nat.toDigits_ne_nil,
    fun _ hc => Nat.isDigit_of_mem_toDigits (by decide) (by decide) hc⟩

/-- A number is written by the text that shows it. -/
theorem writesNat_toString (n : Nat) : WritesNat (toString n).toList n := by
  refine ⟨Nat.toDigits 10 n, .inl ?_, isDigits_toDigits n, ?_⟩
  · exact Nat.toList_repr
  · exact Nat.ofDigitChars_ten_toDigits

theorem writesInt_toString (i : Int) : WritesInt (toString i).toList i := by
  cases i with
  | ofNat n => exact .inl ⟨n, writesNat_toString n, rfl⟩
  | negSucc n =>
      refine .inr ⟨Nat.toDigits 10 (n + 1), ?_, isDigits_toDigits _, ?_⟩
      · have hshown : toString (Int.negSucc n) = "-" ++ (n + 1).repr := rfl
        rw [hshown, String.toList_append, Nat.toList_repr]
        rfl
      · rw [valueOf, Nat.ofDigitChars_ten_toDigits]
        rfl

end Showing

end Decimal
end ScriptHub
