/-!
# Blank characters and the words between them

A character is blank exactly when Unicode gives it the property White_Space.
Words are the maximal runs of characters that are not blank; trimming removes
blank characters from the ends of a text and from nowhere else.
-/

namespace ScriptHub
namespace Text

/-- The 25 code points with the property White_Space, as ranges. -/
def blankRanges : List (Nat × Nat) :=
  [(0x9, 0xD), (0x20, 0x20), (0x85, 0x85), (0xA0, 0xA0), (0x1680, 0x1680),
    (0x2000, 0x200A), (0x2028, 0x2029), (0x202F, 0x202F), (0x205F, 0x205F),
    (0x3000, 0x3000)]

/-- Membership of a code point in a list of closed ranges. -/
def inRanges
    (ranges : List (Nat × Nat))
    (code : Nat) :
    Bool :=
  ranges.any fun range =>
    decide (range.1 ≤ code) && decide (code ≤ range.2)

/-- Whether a character is blank. -/
def isBlank (c : Char) : Bool :=
  inRanges blankRanges c.toNat

/-- Whether a character belongs to a word. -/
def isSolid (c : Char) : Bool :=
  !isBlank c

/-- Removes the blank characters at the start. -/
def trimStart (cs : List Char) : List Char :=
  cs.dropWhile isBlank

/-- Removes the blank characters at the end. -/
def trimEnd (cs : List Char) : List Char :=
  (cs.reverse.dropWhile isBlank).reverse

/-- Removes the blank characters at both ends. -/
def trim (cs : List Char) : List Char :=
  trimEnd (trimStart cs)

/--
The maximal runs of characters that are not blank, from left to right.

A character extends the run that starts right behind it, and is a run of its
own when a blank character or the end follows.
-/
def words : List Char → List (List Char)
  | [] => []
  | c :: cs =>
      if isBlank c then
        words cs
      else if cs.head?.all isBlank then
        [c] :: words cs
      else
        match words cs with
        | [] => [[c]]
        | w :: ws => (c :: w) :: ws

/--
The first word of a text and what follows it, both without the blank
characters before them.
-/
def splitWord (cs : List Char) : List Char × List Char :=
  let start := trimStart cs
  (start.takeWhile isSolid, trimStart (start.dropWhile isSolid))

@[simp] theorem words_nil : words [] = [] := rfl

/-- A blank character in front changes no word. -/
theorem words_cons_of_blank
    {c : Char}
    (h : isBlank c = true)
    (cs : List Char) :
    words (c :: cs) = words cs := by
  simp [words, h]

/-- No blank character is counted among the ASCII letters, digits or signs. -/
theorem not_isBlank_of_printable
    {c : Char}
    (low : 0x21 ≤ c.toNat)
    (high : c.toNat ≤ 0x7E) :
    isBlank c = false := by
  simp only [isBlank, inRanges, blankRanges, List.any_cons, List.any_nil,
    Bool.or_false, Bool.or_eq_false_iff, Bool.and_eq_false_iff,
    decide_eq_false_iff_not]
  omega

end Text
end ScriptHub
