import Mathlib.Data.List.TakeWhile
import ScriptHub.Text.Blank

/-!
# Trimmed texts

Trimming takes the blanks at the ends of a text and nothing else.

**Results.**
* `exists_eq_trimStart`, `exists_eq_trimEnd`: what is taken at either end are blanks.
* `isTrimmed_trim`: what is left neither starts nor ends with a blank.
* `trim_of_isTrimmed`: such a text is left as it is.
* `trim_eq_nil_iff`: nothing is left exactly of a text of blanks.
-/

namespace ScriptHub
namespace Text

section Parts

/-- A text of blanks only; it may be empty. -/
def AllBlank (cs : List Char) : Prop :=
  ∀ c ∈ cs, isBlank c = true

/-- A word is not empty and has no blanks. -/
def IsWord (cs : List Char) : Prop :=
  cs ≠ [] ∧ ∀ c ∈ cs, isBlank c = false

/-- A text is empty or starts with a blank, so that a word in front of it is over. -/
def EndsWord (cs : List Char) : Prop :=
  ∀ c ∈ cs.head?, isBlank c = true

/-- A text neither starts nor ends with a blank; it may be empty. -/
def IsTrimmed (cs : List Char) : Prop :=
  (∀ c ∈ cs.head?, isBlank c = false) ∧
    ∀ c ∈ cs.getLast?, isBlank c = false

instance (cs : List Char) : Decidable (AllBlank cs) :=
  decidable_of_iff (cs.all isBlank = true) List.all_eq_true

instance (cs : List Char) : Decidable (IsWord cs) :=
  decidable_of_iff (cs ≠ [] ∧ cs.any isBlank = false) (by simp [IsWord])

instance (cs : List Char) : Decidable (EndsWord cs) :=
  decidable_of_iff (cs.head?.all isBlank = true) (Option.all_eq_true _ _)

instance (cs : List Char) : Decidable (IsTrimmed cs) :=
  decidable_of_iff
    ((cs.head?.all fun c => !isBlank c) = true ∧
      (cs.getLast?.all fun c => !isBlank c) = true)
    (by simp [IsTrimmed, Option.all_eq_true])

theorem allBlank_nil : AllBlank [] := by
  intro c hc
  exact absurd hc (by simp)

theorem isTrimmed_nil : IsTrimmed [] := by
  constructor <;> intro c hc <;> exact absurd hc (by simp)

theorem AllBlank.endsWord {cs : List Char} (h : AllBlank cs) : EndsWord cs := by
  intro c hc
  exact h c (List.mem_of_mem_head? hc)

theorem AllBlank.append
    {front back : List Char}
    (hfront : AllBlank front)
    (hback : AllBlank back) :
    AllBlank (front ++ back) := by
  intro c hc
  rcases List.mem_append.mp hc with hc | hc
  · exact hfront c hc
  · exact hback c hc

theorem EndsWord.append
    {rest behind : List Char}
    (hrest : EndsWord rest)
    (hbehind : AllBlank behind) :
    EndsWord (rest ++ behind) := by
  cases rest with
  | nil => exact hbehind.endsWord
  | cons c rest => exact hrest

/-- A gap ends a word, since some blank is in it. -/
theorem AllBlank.endsWord_append
    {gap : List Char}
    (hgap : AllBlank gap)
    (hne : gap ≠ [])
    (rest : List Char) :
    EndsWord (gap ++ rest) := by
  cases gap with
  | nil => exact absurd rfl hne
  | cons c gap =>
      intro d hd
      obtain rfl := Option.some.inj hd
      exact hgap c List.mem_cons_self

theorem IsWord.cons
    {c : Char}
    {word : List Char}
    (h : IsWord word)
    (hc : isBlank c = false) :
    IsWord (c :: word) :=
  ⟨by simp, List.forall_mem_cons.mpr ⟨hc, h.2⟩⟩

theorem IsWord.head?_append
    {word : List Char}
    (h : IsWord word)
    (rest : List Char) :
    ∀ c ∈ (word ++ rest).head?, isBlank c = false := by
  obtain ⟨hne, hsolid⟩ := h
  cases word with
  | nil => exact absurd rfl hne
  | cons d word =>
      intro c hc
      obtain rfl := Option.some.inj hc
      exact hsolid d List.mem_cons_self

theorem IsWord.isTrimmed {cs : List Char} (h : IsWord cs) : IsTrimmed cs :=
  ⟨fun c hc => h.2 c (List.mem_of_mem_head? hc),
    fun c hc => h.2 c (List.mem_of_mem_getLast? hc)⟩

end Parts

section Trimming

theorem trimStart_append_of_blank
    {before : List Char}
    (h : AllBlank before)
    (cs : List Char) :
    trimStart (before ++ cs) = trimStart cs :=
  List.dropWhile_append_of_pos h

theorem head?_trimStart (cs : List Char) :
    ∀ c ∈ (trimStart cs).head?, isBlank c = false := by
  intro c hc
  have key := List.head?_dropWhile_not isBlank cs
  unfold trimStart at hc
  rw [hc] at key
  exact key

theorem trimStart_of_head?
    {cs : List Char}
    (h : ∀ c ∈ cs.head?, isBlank c = false) :
    trimStart cs = cs := by
  cases cs with
  | nil => rfl
  | cons c cs =>
      have hc := h c rfl
      exact List.dropWhile_cons_of_neg (by simp [hc])

theorem exists_eq_trimStart (cs : List Char) :
    ∃ before, AllBlank before ∧ cs = before ++ trimStart cs := by
  refine ⟨cs.takeWhile isBlank, ?_, List.takeWhile_append_dropWhile.symm⟩
  intro c hc
  exact List.mem_takeWhile_imp hc

/-- The end of a text is the start of its reverse. -/
theorem trimEnd_eq (cs : List Char) :
    trimEnd cs = (trimStart cs.reverse).reverse := by
  rfl

theorem getLast?_trimEnd (cs : List Char) :
    ∀ c ∈ (trimEnd cs).getLast?, isBlank c = false := by
  intro c hc
  rw [trimEnd_eq, List.getLast?_reverse] at hc
  exact head?_trimStart cs.reverse c hc

theorem trimEnd_of_getLast?
    {cs : List Char}
    (h : ∀ c ∈ cs.getLast?, isBlank c = false) :
    trimEnd cs = cs := by
  rw [trimEnd_eq, trimStart_of_head?, List.reverse_reverse]
  rw [List.head?_reverse]
  exact h

theorem exists_eq_trimEnd (cs : List Char) :
    ∃ behind, AllBlank behind ∧ cs = trimEnd cs ++ behind := by
  obtain ⟨before, hbefore, heq⟩ := exists_eq_trimStart cs.reverse
  refine ⟨before.reverse, ?_, ?_⟩
  · intro c hc
    exact hbefore c (List.mem_reverse.mp hc)
  · rw [trimEnd_eq, ← List.reverse_append, ← heq, List.reverse_reverse]

theorem trimEnd_of_blank
    {cs : List Char}
    (h : AllBlank cs) :
    trimEnd cs = [] := by
  rw [trimEnd_eq, List.reverse_eq_nil_iff]
  apply List.dropWhile_eq_nil_iff.mpr
  intro c hc
  exact h c (List.mem_reverse.mp hc)

/-- Blanks are removed from the end up to the last character that is none. -/
theorem trimEnd_append_of_ne_nil
    {back : List Char}
    (h : trimEnd back ≠ [])
    (front : List Char) :
    trimEnd (front ++ back) = front ++ trimEnd back := by
  rw [trimEnd_eq, Ne, List.reverse_eq_nil_iff] at h
  simp only [trimEnd_eq, trimStart, List.reverse_append, List.dropWhile_append]
  rw [if_neg (by simpa [trimStart] using h)]
  simp

theorem trimEnd_append_of_blank
    {back : List Char}
    (h : AllBlank back)
    (front : List Char) :
    trimEnd (front ++ back) = trimEnd front := by
  have hreverse : AllBlank back.reverse :=
    fun c hc => h c (List.mem_reverse.mp hc)
  rw [trimEnd_eq, List.reverse_append, trimStart_append_of_blank hreverse,
    ← trimEnd_eq]

theorem trim_of_isTrimmed
    {cs : List Char}
    (h : IsTrimmed cs) :
    trim cs = cs := by
  unfold trim
  rw [trimStart_of_head? h.1, trimEnd_of_getLast? h.2]

theorem isTrimmed_trim (cs : List Char) : IsTrimmed (trim cs) := by
  refine ⟨?_, getLast?_trimEnd _⟩
  intro c hc
  obtain ⟨behind, _, heq⟩ := exists_eq_trimEnd (trimStart cs)
  apply head?_trimStart cs c
  rw [heq]
  cases hnil : trimEnd (trimStart cs) with
  | nil => simp [trim, hnil] at hc
  | cons d ds => simpa [trim, hnil] using hc

/-- A blank at the end of a text is trimmed. -/
theorem trim_append_of_blank
    {c : Char}
    (h : isBlank c = true)
    (cs : List Char) :
    trim (cs ++ [c]) = trim cs := by
  have hend : ∀ text : List Char, trimEnd (text ++ [c]) = trimEnd text := by
    intro text
    unfold trimEnd
    rw [List.reverse_append, List.reverse_singleton, List.singleton_append,
      List.dropWhile_cons_of_pos h]
  unfold trim trimStart
  rw [List.dropWhile_append]
  split
  · next hnil =>
      have hempty : cs.dropWhile isBlank = [] := by simpa using hnil
      rw [hempty, List.dropWhile_cons_of_pos h, List.dropWhile_nil]
  · exact hend _

/-- Nothing is left of a text exactly if it is all blanks. -/
theorem trim_eq_nil_iff
    {cs : List Char} :
    trim cs = [] ↔ ∀ c ∈ cs, isBlank c = true := by
  constructor
  · intro h
    obtain ⟨before, hbefore, hstart⟩ := exists_eq_trimStart cs
    obtain ⟨behind, hbehind, hend⟩ := exists_eq_trimEnd (trimStart cs)
    have htrim : trimEnd (trimStart cs) = [] := h
    rw [htrim, List.nil_append] at hend
    rw [hend] at hstart
    rw [hstart]
    exact hbefore.append hbehind
  · intro hblank
    have hstart : trimStart cs = [] := List.dropWhile_eq_nil_iff.mpr hblank
    rw [trim, hstart]
    rfl

end Trimming

end Text
end ScriptHub
