import ScriptHub.Proofs.Text.LetterCase

/-!
# Lower-casing a part of a text

A part of a text is lower-cased amid what stands around it.  Only its capital sigmas look
around: each of them becomes a final sigma or not, according to the letters next to it.
Where these tell the same of the part alone, the part is lower-cased as it is alone.

**Results.**
* `lowerAfter_append`: a text is lower-cased part by part.
* `KeepsSigmas`: the capital sigmas of a part end words in the text as in the part alone.
* `lower_isInfix`: the lower-case form of such a part occurs in that of the text.
-/

namespace ScriptHub
namespace Text

/-- The lower-case form of a part, given what stands before it, nearest first, and after. -/
def lowerWithin : List Char → List Char → List Char → List Char
  | _, [], _ => []
  | before, c :: part, after =>
      lowerAmid before c (part ++ after) ++ lowerWithin (c :: before) part after

/--
A part of a text keeps its sigmas: where a capital sigma stands in the part, it ends a
word of the text exactly if it ends a word of the part alone.
-/
def KeepsSigmas (before part after : List Char) : Prop :=
  ∀ front back,
    part = front ++ capitalSigma :: back →
    isWordFinal (before ++ front).reverse (back ++ after) =
      isWordFinal front.reverse back

instance (before part after : List Char) :
    Decidable (KeepsSigmas before part after) :=
  decidable_of_iff
    (∀ i < part.length,
      part[i]? = some capitalSigma →
      isWordFinal (before ++ part.take i).reverse (part.drop (i + 1) ++ after) =
        isWordFinal (part.take i).reverse (part.drop (i + 1))) <| by
    constructor
    · rintro h front back rfl
      have hdrop : (front ++ capitalSigma :: back).drop (front.length + 1) = back := by
        rw [← List.drop_drop, List.drop_left]
        rfl
      have key := h front.length (by simp) (by simp)
      rwa [List.take_left, hdrop] at key
    · intro h i hi hsigma
      apply h
      have hget : part[i] = capitalSigma := by
        rw [List.getElem?_eq_getElem hi] at hsigma
        exact Option.some.inj hsigma
      rw [← hget, ← List.drop_eq_getElem_cons hi, List.take_append_drop]

/-- A text is lower-cased part by part. -/
theorem lowerAfter_append
    (before part after : List Char) :
    lowerAfter before (part ++ after) =
      lowerWithin before part after ++ lowerAfter (part.reverse ++ before) after := by
  induction part generalizing before with
  | nil => rfl
  | cons c part ih =>
      rw [List.cons_append, lowerAfter_cons, ih, lowerWithin, List.append_assoc]
      simp

/-- A text is a part of itself. -/
theorem lower_eq_lowerWithin (text : List Char) :
    lower text = lowerWithin [] text [] := by
  have key := lowerAfter_append [] text []
  rw [List.append_nil] at key
  unfold lower
  rw [key]
  simp [lowerAfter]

/-- Only capital sigmas look around. -/
theorem lowerAmid_congr
    {before after before' after' : List Char}
    {c : Char}
    (h : c = capitalSigma → isWordFinal before after = isWordFinal before' after') :
    lowerAmid before c after = lowerAmid before' c after' := by
  unfold lowerAmid
  split
  · next hsigma => rw [h hsigma]
  · rfl

/-- A part is lower-cased alike wherever its capital sigmas end words alike. -/
theorem lowerWithin_congr
    {part before after before' after' : List Char}
    (h :
      ∀ front back,
        part = front ++ capitalSigma :: back →
        isWordFinal (front.reverse ++ before) (back ++ after) =
          isWordFinal (front.reverse ++ before') (back ++ after')) :
    lowerWithin before part after = lowerWithin before' part after' := by
  induction part generalizing before before' with
  | nil => rfl
  | cons c part ih =>
      have hfirst :
          lowerAmid before c (part ++ after) = lowerAmid before' c (part ++ after') := by
        apply lowerAmid_congr
        rintro rfl
        exact h [] part rfl
      have hrest : lowerWithin (c :: before) part after =
          lowerWithin (c :: before') part after' := by
        apply ih
        intro front back hpart
        have key := h (c :: front) back (by rw [hpart]; rfl)
        simpa using key
      rw [lowerWithin, lowerWithin, hfirst, hrest]

/-- **A part that keeps its sigmas** is lower-cased as it is alone. -/
theorem lower_isInfix
    {before part after : List Char}
    (h : KeepsSigmas before part after) :
    lower part <:+: lower (before ++ (part ++ after)) := by
  have hwithin : lowerWithin before.reverse part after = lower part := by
    rw [lower_eq_lowerWithin]
    apply lowerWithin_congr
    intro front back hpart
    have key := h front back hpart
    simpa using key
  refine ⟨lowerWithin [] before (part ++ after),
    lowerAfter (part.reverse ++ before.reverse) after, ?_⟩
  have hfront := lowerAfter_append [] before (part ++ after)
  have hmiddle := lowerAfter_append before.reverse part after
  rw [List.append_nil, hmiddle, hwithin] at hfront
  show _ = lowerAfter [] (before ++ (part ++ after))
  rw [hfront, List.append_assoc]

end Text
end ScriptHub
