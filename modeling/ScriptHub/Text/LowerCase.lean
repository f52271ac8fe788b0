import ScriptHub.Text.Blank
import ScriptHub.Text.LowerCase.Table

/-!
# Lower-casing of texts

Every character is replaced by its lower-case form.  Two characters need more
than a table of single characters: the capital I with a dot becomes an i and a
combining dot, and a capital sigma is written as a final sigma exactly at the
end of a word.
-/

namespace ScriptHub
namespace Text

/-- The capital sigma, whose lower-case form depends on its neighbours. -/
def capitalSigma : Char := '\u03A3'

/-- The lower-case sigma inside a word. -/
def smallSigma : Char := '\u03C3'

/-- The lower-case sigma at the end of a word. -/
def finalSigma : Char := '\u03C2'

/-- The capital I with a dot above. -/
def dottedCapitalI : Char := '\u0130'

/-- Whether a character counts as a letter next to a sigma. -/
def isCased (c : Char) : Bool :=
  inRanges casedRanges c.toNat

/-- Whether the search for the letter next to a sigma passes over a character. -/
def isCaseIgnorable (c : Char) : Bool :=
  inRanges caseIgnorableRanges c.toNat

/-- The lower-case form of one character, away from the sigma rule. -/
def lowerChar (c : Char) : List Char :=
  if c = dottedCapitalI then
    ['i', '\u0307']
  else
    match caseRanges.find? (·.covers c.toNat) with
    | some range => [Char.ofNat (range.apply c.toNat)]
    | none => [c]

/-- Whether the nearest character that the search does not pass over is a letter. -/
def meetsLetter (cs : List Char) : Bool :=
  (cs.dropWhile isCaseIgnorable).head?.any isCased

/--
Whether a sigma ends a word: a letter stands before it and none behind it.
The characters before it are given nearest first.
-/
def isWordFinal
    (before after : List Char) :
    Bool :=
  meetsLetter before && !meetsLetter after

/-- Lower-cases a text whose preceding characters are given nearest first. -/
def lowerAfter : List Char → List Char → List Char
  | _, [] => []
  | before, c :: rest =>
      (if c = capitalSigma then
        [if isWordFinal before rest then finalSigma else smallSigma]
      else
        lowerChar c) ++
        lowerAfter (c :: before) rest

/-- Lower-cases a text. -/
def lower (cs : List Char) : List Char :=
  lowerAfter [] cs

@[simp] theorem lower_nil : lower [] = [] := rfl

end Text
end ScriptHub
