import Mathlib.Tactic.SplitIfs
import ScriptHub.Text.LowerCase

/-!
# Words in any letter case

A text whose lower-case form is a plain word, one of ASCII letters, is that word in any
letter case, and nothing else is: no other character has such a letter as its lower-case
form.  The letter k is left out, since the sign for kelvins has it.

**Results.**
* `lowerAfter_cons`: a text is lower-cased character by character.
* `lower_eq_iff`: which texts have a plain word as their lower-case form.
-/

namespace ScriptHub
namespace Text

/-- Whether a character is a small ASCII letter other than k. -/
def isPlainLetter (c : Char) : Bool :=
  decide (97 ≤ c.toNat) && decide (c.toNat ≤ 122) && c != 'k'

/-- The lower-case form of a character amid its neighbours. -/
def lowerAmid (before : List Char) (c : Char) (after : List Char) : List Char :=
  if c = capitalSigma then
    [if isWordFinal before after then finalSigma else smallSigma]
  else
    lowerChar c

theorem lowerAfter_cons
    (before : List Char)
    (c : Char)
    (rest : List Char) :
    lowerAfter before (c :: rest) =
      lowerAmid before c rest ++ lowerAfter (c :: before) rest := by
  rfl

section Characters

theorem lowerChar_of_ascii
    {c : Char}
    (h : c.toNat < 128) :
    lowerChar c = [c.toLower] := by
  have key :
      ∀ n : Fin 128,
        lowerChar (Char.ofNat n) = [(Char.ofNat n).toLower] := by
    decide +kernel
  have hc := key ⟨c.toNat, h⟩
  rw [Char.ofNat_toNat] at hc
  exact hc

theorem isPlainLetter_of_lt
    {c : Char}
    (h : 122 < c.toNat) :
    isPlainLetter c = false := by
  have hhigh : ¬ c.toNat ≤ 122 := by omega
  simp [isPlainLetter, hhigh]

/-- A code point that is no small ASCII letter names no plain letter. -/
theorem isPlainLetter_ofNat
    {code : Nat}
    (h : 122 < code) :
    isPlainLetter (Char.ofNat code) = false := by
  by_cases hvalid : code.isValidChar
  · have hchar : Char.ofNat code = Char.ofNatAux code hvalid := dif_pos hvalid
    rw [hchar]
    exact isPlainLetter_of_lt h
  · have hchar : Char.ofNat code = '\x00' := dif_neg hvalid
    rw [hchar]
    rfl

/-- A range gives no plain letter to characters that are not ASCII. -/
theorem isPlainLetter_apply
    {range : CaseRange}
    (hmem : range ∈ caseRanges)
    {code : Nat}
    (hcovers : range.covers code = true)
    (hcode : 128 ≤ code) :
    isPlainLetter (Char.ofNat (range.apply code)) = false := by
  have key :
      ∀ range ∈ caseRanges,
        122 < range.target ∨ range.last < 128 ∨
          range.first = range.last ∧ range.target = 107 := by
    decide +kernel
  simp only [CaseRange.covers, Bool.and_eq_true, decide_eq_true_eq] at hcovers
  obtain ⟨⟨hfirst, hlast⟩, _⟩ := hcovers
  rcases key range hmem with htarget | hascii | ⟨hsingle, hkelvin⟩
  · apply isPlainLetter_ofNat
    unfold CaseRange.apply
    omega
  · omega
  · have hletter : range.apply code = 107 := by
      unfold CaseRange.apply
      omega
    rw [hletter]
    rfl

/-- The lower-case form of a character that is not ASCII holds no plain letter alone. -/
theorem exists_not_isPlainLetter
    {c : Char}
    (h : 128 ≤ c.toNat)
    (before after : List Char) :
    ∃ d ∈ lowerAmid before c after, isPlainLetter d = false := by
  unfold lowerAmid lowerChar
  split_ifs with hsigma hfinal hdotted
  · exact ⟨finalSigma, by simp, by decide⟩
  · exact ⟨smallSigma, by simp, by decide⟩
  · exact ⟨'\u0307', by simp, by decide⟩
  · cases hfind : caseRanges.find? (·.covers c.toNat) with
    | none => exact ⟨c, by simp, isPlainLetter_of_lt (by omega)⟩
    | some range =>
        refine ⟨Char.ofNat (range.apply c.toNat), by simp, ?_⟩
        have hcovers : range.covers c.toNat = true := by
          simpa using List.find?_some hfind
        exact isPlainLetter_apply (List.mem_of_find?_eq_some hfind) hcovers h

theorem toLower_of_not_ascii
    {c : Char}
    (h : 128 ≤ c.toNat) :
    c.toLower = c := by
  have hupper : ¬ (c.val ≥ 'A'.val ∧ c.val ≤ 'Z'.val) := by
    rintro ⟨_, hle⟩
    have hnat : c.toNat ≤ 90 := UInt32.le_iff_toNat_le.mp hle
    omega
  unfold Char.toLower
  rw [dif_neg hupper]

theorem lowerAmid_of_ascii
    {c : Char}
    (h : c.toNat < 128)
    (before after : List Char) :
    lowerAmid before c after = [c.toLower] := by
  have hsigma : c ≠ capitalSigma := by
    rintro rfl
    exact absurd h (by decide)
  rw [lowerAmid, if_neg hsigma, lowerChar_of_ascii h]

end Characters

/-- The texts whose lower-case form is a plain word, amid other characters. -/
theorem lowerAfter_eq_iff
    {word : List Char}
    (plain : ∀ c ∈ word, isPlainLetter c = true)
    (before text : List Char) :
    lowerAfter before text = word ↔ text.map Char.toLower = word := by
  induction text generalizing before word with
  | nil => exact Iff.rfl
  | cons c rest ih =>
      rw [lowerAfter_cons, List.map_cons]
      by_cases hascii : c.toNat < 128
      · rw [lowerAmid_of_ascii hascii, List.singleton_append]
        cases word with
        | nil => simp
        | cons d others =>
            obtain ⟨_, hothers⟩ := List.forall_mem_cons.mp plain
            rw [List.cons.injEq, List.cons.injEq, ih hothers]
      · have hcode : 128 ≤ c.toNat := Nat.le_of_not_lt hascii
        constructor
        · rintro rfl
          obtain ⟨d, hd, hplain⟩ :=
            exists_not_isPlainLetter hcode before rest
          rw [plain d (List.mem_append_left _ hd)] at hplain
          exact absurd hplain (by simp)
        · rintro rfl
          have hplain := plain c.toLower (by simp)
          rw [toLower_of_not_ascii hcode, isPlainLetter_of_lt (by omega)]
            at hplain
          exact absurd hplain (by simp)

/-- Lower-casing leaves no character without a form. -/
theorem lower_eq_nil_iff {text : List Char} : lower text = [] ↔ text = [] := by
  cases text with
  | nil => simp [lower, lowerAfter]
  | cons c rest =>
      have hform : lowerAmid [] c rest ≠ [] := by
        unfold lowerAmid lowerChar
        split
        · simp
        · split
          · simp
          · split <;> simp
      unfold lower
      rw [lowerAfter_cons]
      simp [hform]

/-- **The texts whose lower-case form is a plain word** are that word in any case. -/
theorem lower_eq_iff
    {word : List Char}
    (plain : ∀ c ∈ word, isPlainLetter c = true)
    (text : List Char) :
    lower text = word ↔ text.map Char.toLower = word :=
  lowerAfter_eq_iff plain [] text

end Text
end ScriptHub
