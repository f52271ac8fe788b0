import ScriptHub.Proofs.Text.Trimming

/-!
# The words of a text

Texts are cut into words in two ways: all at once, and word by word with a last part
that is kept as it stands.  Both are told here without cutting, by how a text is put
together from words and blanks.

**Results.**
* `LaidOut`: a text is put together from words and a last part, amid blanks.
* `words_eq_iff`: the words of a text are those it is put together from.
* `laidOut_cons_iff`: the first of them is the word that is split off.
* `head?_words_eq_some_iff`: the first word of a text, told without splitting.
-/

namespace ScriptHub
namespace Text

section Definitions

/--
A text starts with a word: blanks, if any, come before it, and a blank or the end
comes behind it.
-/
def StartsWith (text word : List Char) : Prop :=
  ∃ blanks rest,
    text = blanks ++ (word ++ rest) ∧
      (∀ c ∈ blanks, isBlank c = true) ∧
      word ≠ [] ∧
      (∀ c ∈ word, isBlank c = false) ∧
      ∀ c ∈ rest.head?, isBlank c = true

/--
A line is put together from words and a last part, which may have blanks inside.  Any
blanks come before the first of them and behind the last, and some blank comes between
any two that are not empty.
-/
inductive LaidOut : List (List Char) → List Char → List Char → Prop
  | last {before last behind : List Char} :
      AllBlank before →
      IsTrimmed last →
      AllBlank behind →
      LaidOut [] last (before ++ (last ++ behind))
  | word {before word rest : List Char} {others : List (List Char)} {last : List Char} :
      AllBlank before →
      IsWord word →
      EndsWord rest →
      LaidOut others last rest →
      LaidOut (word :: others) last (before ++ (word ++ rest))

/-- A text consists of words amid blanks. -/
def HasWords (text : List Char) (tokens : List (List Char)) : Prop :=
  LaidOut tokens [] text

end Definitions

section Layout

variable {line last : List Char} {tokens : List (List Char)}

theorem LaidOut.isWord_of_mem
    (h : LaidOut tokens last line) :
    ∀ word ∈ tokens, IsWord word := by
  induction h with
  | last _ _ _ => simp
  | word _ hword _ _ ih => exact List.forall_mem_cons.mpr ⟨hword, ih⟩

theorem LaidOut.isTrimmed
    (h : LaidOut tokens last line) :
    IsTrimmed last := by
  induction h with
  | last _ hlast _ => exact hlast
  | word _ _ _ _ ih => exact ih

/-- Blanks around a line do not matter to how it is put together. -/
theorem LaidOut.append_blank
    (h : LaidOut tokens last line)
    {behind : List Char}
    (hbehind : AllBlank behind) :
    LaidOut tokens last (line ++ behind) := by
  induction h with
  | last hbefore hlast hend =>
      rw [List.append_assoc, List.append_assoc]
      exact .last hbefore hlast (hend.append hbehind)
  | word hbefore hword hrest _ ih =>
      rw [List.append_assoc, List.append_assoc]
      exact .word hbefore hword (hrest.append hbehind) ih

theorem LaidOut.blank_append
    (h : LaidOut tokens last line)
    {before : List Char}
    (hbefore : AllBlank before) :
    LaidOut tokens last (before ++ line) := by
  cases h with
  | last hstart hlast hend =>
      rw [← List.append_assoc]
      exact .last (hbefore.append hstart) hlast hend
  | word hstart hword hrest hothers =>
      rw [← List.append_assoc]
      exact .word (hbefore.append hstart) hword hrest hothers

theorem LaidOut.trimStart
    (h : LaidOut tokens last line) :
    LaidOut tokens last (trimStart line) := by
  cases h with
  | @last before _ behind hbefore hlast hbehind =>
      rw [trimStart_append_of_blank hbefore]
      cases last with
      | nil =>
          have hnil : Text.trimStart ([] ++ behind) = [] :=
            List.dropWhile_eq_nil_iff.mpr hbehind
          rw [hnil]
          exact .last allBlank_nil isTrimmed_nil allBlank_nil
      | cons c cs =>
          have hhead : ∀ d ∈ (c :: cs ++ behind).head?, isBlank d = false := hlast.1
          rw [trimStart_of_head? hhead]
          exact .last allBlank_nil hlast hbehind
  | @word before word rest others _ hbefore hword hrest hothers =>
      rw [trimStart_append_of_blank hbefore,
        trimStart_of_head? (hword.head?_append rest)]
      exact .word allBlank_nil hword hrest hothers

theorem LaidOut.trimEnd
    (h : LaidOut tokens last line) :
    LaidOut tokens last (trimEnd line) := by
  induction h with
  | @last before last behind hbefore hlast hbehind =>
      have hend : Text.trimEnd (last ++ behind) = last := by
        rw [trimEnd_append_of_blank hbehind, trimEnd_of_getLast? hlast.2]
      cases last with
      | nil =>
          rw [List.nil_append, trimEnd_of_blank (hbefore.append hbehind)]
          exact .last allBlank_nil isTrimmed_nil allBlank_nil
      | cons c cs =>
          have hne : Text.trimEnd (c :: cs ++ behind) ≠ [] := by
            rw [hend]
            simp
          rw [trimEnd_append_of_ne_nil hne, hend]
          have key := LaidOut.last hbefore hlast allBlank_nil
          rwa [List.append_nil] at key
  | @word before word rest others last hbefore hword hrest _ ih =>
      have hword' : Text.trimEnd word = word :=
        trimEnd_of_getLast? hword.isTrimmed.2
      have hend : Text.trimEnd (word ++ rest) = word ++ Text.trimEnd rest := by
        by_cases hnil : Text.trimEnd rest = []
        · obtain ⟨behind, hbehind, heq⟩ := exists_eq_trimEnd rest
          rw [hnil, List.nil_append] at heq
          rw [hnil, List.append_nil, heq, trimEnd_append_of_blank hbehind, hword']
        · exact trimEnd_append_of_ne_nil hnil word
      have hne : Text.trimEnd (word ++ rest) ≠ [] := by
        simp [hend, hword.1]
      rw [trimEnd_append_of_ne_nil hne, hend]
      refine .word hbefore hword ?_ ih
      intro c hc
      obtain ⟨behind, _, heq⟩ := exists_eq_trimEnd rest
      apply hrest c
      rw [heq, List.head?_append, hc]
      rfl

/-- A line may be trimmed before it is taken apart. -/
theorem laidOut_trim_iff :
    LaidOut tokens last (trim line) ↔ LaidOut tokens last line := by
  constructor
  · intro h
    obtain ⟨before, hbefore, hstart⟩ := exists_eq_trimStart line
    obtain ⟨behind, hbehind, hend⟩ := exists_eq_trimEnd (Text.trimStart line)
    rw [hstart, hend]
    exact (h.append_blank hbehind).blank_append hbefore
  · intro h
    exact h.trimStart.trimEnd

/-- A last part that is a word is the last of the words. -/
theorem laidOut_concat_iff
    {word : List Char} :
    LaidOut (tokens ++ [word]) [] line ↔ IsWord word ∧ LaidOut tokens word line := by
  induction tokens generalizing line with
  | nil =>
      constructor
      · intro h
        cases h with
        | word hbefore hword _ hothers =>
            cases hothers with
            | last hgap _ hbehind =>
                exact ⟨hword, .last hbefore hword.isTrimmed (hgap.append hbehind)⟩
      · rintro ⟨hword, h⟩
        cases h with
        | @last before _ behind hbefore _ hbehind =>
            have hnothing := LaidOut.last hbehind isTrimmed_nil allBlank_nil
            rw [List.append_nil, List.append_nil] at hnothing
            exact .word hbefore hword hbehind.endsWord hnothing
  | cons first tokens ih =>
      constructor
      · intro h
        cases h with
        | word hbefore hfirst hrest hothers =>
            obtain ⟨hword, hlaid⟩ := ih.mp hothers
            exact ⟨hword, .word hbefore hfirst hrest hlaid⟩
      · rintro ⟨hword, h⟩
        cases h with
        | word hbefore hfirst hrest hothers =>
            exact .word hbefore hfirst hrest (ih.mpr ⟨hword, hothers⟩)

/-- The words behind some others are part of what is kept as it stands. -/
theorem LaidOut.exists_last
    {behind : List (List Char)}
    (h : LaidOut (tokens ++ behind) last line) :
    ∃ kept, LaidOut tokens kept line := by
  induction tokens generalizing line with
  | nil =>
      refine ⟨trim line, laidOut_trim_iff.mp ?_⟩
      have key := LaidOut.last allBlank_nil (isTrimmed_trim line) allBlank_nil
      rwa [List.append_nil, List.nil_append] at key
  | cons word tokens ih =>
      cases h with
      | word hbefore hword hrest hothers =>
          obtain ⟨kept, hkept⟩ := ih hothers
          exact ⟨kept, .word hbefore hword hrest hkept⟩

/-- Any words and any last part can be put together to a line. -/
theorem exists_laidOut
    (hwords : ∀ word ∈ tokens, IsWord word)
    (hlast : IsTrimmed last) :
    ∃ line, LaidOut tokens last line := by
  induction tokens with
  | nil => exact ⟨_, .last allBlank_nil hlast allBlank_nil⟩
  | cons word tokens ih =>
      obtain ⟨hword, hwords⟩ := List.forall_mem_cons.mp hwords
      obtain ⟨rest, hrest⟩ := ih hwords
      have hgap : AllBlank [' '] := by decide
      exact
        ⟨_, .word allBlank_nil hword (hgap.endsWord_append (by simp) rest)
          (hrest.blank_append hgap)⟩

end Layout

section Splitting

variable {line last : List Char} {tokens : List (List Char)}

theorem splitWord_of_blank
    (h : AllBlank line) :
    splitWord line = ([], []) := by
  have hnil : trimStart line = [] := List.dropWhile_eq_nil_iff.mpr h
  unfold splitWord
  rw [hnil]
  rfl

/-- A word is split off where it ends. -/
theorem splitWord_append
    {before word rest : List Char}
    (hbefore : AllBlank before)
    (hword : IsWord word)
    (hrest : EndsWord rest) :
    splitWord (before ++ (word ++ rest)) = (word, trimStart rest) := by
  have hsolid : ∀ c ∈ word, isSolid c = true := by
    intro c hc
    simp [isSolid, hword.2 c hc]
  have htake : rest.takeWhile isSolid = [] := by
    cases rest with
    | nil => rfl
    | cons c rest => simp [isSolid, hrest c rfl]
  have hdrop : rest.dropWhile isSolid = rest := by
    cases rest with
    | nil => rfl
    | cons c rest => simp [isSolid, hrest c rfl]
  unfold splitWord
  rw [trimStart_append_of_blank hbefore,
    trimStart_of_head? (hword.head?_append rest)]
  simp only [List.takeWhile_append_of_pos hsolid,
    List.dropWhile_append_of_pos hsolid, htake, hdrop, List.append_nil]

/-- What stands behind the first word of a trimmed line is trimmed. -/
theorem isTrimmed_splitWord
    (h : IsTrimmed line) :
    IsTrimmed (splitWord line).2 := by
  refine ⟨head?_trimStart _, ?_⟩
  intro c hc
  have hsuffix : (splitWord line).2 <:+ line :=
    ((List.dropWhile_suffix isBlank).trans (List.dropWhile_suffix isSolid)).trans
      (List.dropWhile_suffix isBlank)
  obtain ⟨front, heq⟩ := hsuffix
  apply h.2 c
  rw [← heq, List.getLast?_append, hc]
  rfl

/-- A text of more than blanks starts with a word. -/
theorem exists_startsWith
    {text : List Char}
    (hsome : ¬ ∀ c ∈ text, isBlank c = true) :
    ∃ word, StartsWith text word := by
  let start := text.dropWhile isBlank
  have hstart : start ≠ [] := by
    intro hnil
    exact hsome (List.dropWhile_eq_nil_iff.mp hnil)
  have hhead : isBlank (start.head hstart) = false := by
    have key := List.head_dropWhile_not isBlank hstart
    simpa using key
  refine ⟨start.takeWhile isSolid, text.takeWhile isBlank,
    start.dropWhile isSolid, ?_, ?_, ?_, ?_, ?_⟩
  · rw [List.takeWhile_append_dropWhile, List.takeWhile_append_dropWhile]
  · intro c hc
    exact List.mem_takeWhile_imp hc
  · obtain ⟨c, rest, hcons⟩ := List.exists_cons_of_ne_nil hstart
    have hc : isBlank c = false := by
      simpa [hcons] using hhead
    rw [hcons, List.takeWhile_cons_of_pos (by simp [isSolid, hc])]
    simp
  · intro c hc
    have key := List.mem_takeWhile_imp hc
    simpa [isSolid] using key
  · intro c hc
    have key := List.head?_dropWhile_not isSolid start
    rw [hc] at key
    simpa [isSolid] using key

/-- What is left of a line without words is its last part, trimmed. -/
theorem trim_of_laidOut
    (h : LaidOut [] last line) :
    trim line = last := by
  cases h with
  | @last before _ behind hbefore hlast hbehind =>
      cases last with
      | nil =>
          rw [List.nil_append]
          exact trim_eq_nil_iff.mpr (hbefore.append hbehind)
      | cons c cs =>
          have hhead : ∀ d ∈ (c :: cs ++ behind).head?, isBlank d = false := hlast.1
          unfold trim
          rw [trimStart_append_of_blank hbefore, trimStart_of_head? hhead,
            trimEnd_append_of_blank hbehind, trimEnd_of_getLast? hlast.2]

/-- A trimmed line without words is its last part. -/
theorem laidOut_nil_iff
    (h : IsTrimmed line) :
    LaidOut [] last line ↔ line = last := by
  constructor
  · intro hlaid
    rw [← trim_of_laidOut hlaid, trim_of_isTrimmed h]
  · rintro rfl
    have key := LaidOut.last allBlank_nil h allBlank_nil
    simpa using key

/-- **The first word of a line** is the one that is split off. -/
theorem laidOut_cons_iff
    {word : List Char} :
    LaidOut (word :: tokens) last line ↔
      word ≠ [] ∧
        ∃ rest, splitWord line = (word, rest) ∧ LaidOut tokens last rest := by
  constructor
  · intro h
    cases h with
    | word hbefore hword hrest hothers =>
        exact
          ⟨hword.1, _, splitWord_append hbefore hword hrest, hothers.trimStart⟩
  · rintro ⟨hne, rest, hsplit, hlaid⟩
    have hsome : ¬ AllBlank line := by
      intro hblank
      rw [splitWord_of_blank hblank] at hsplit
      exact hne (congrArg Prod.fst hsplit).symm
    obtain ⟨first, before, behind, rfl, hbefore, hfirst, hsolid, hbehind⟩ :=
      exists_startsWith hsome
    rw [splitWord_append hbefore ⟨hfirst, hsolid⟩ hbehind] at hsplit
    obtain ⟨rfl, rfl⟩ := Prod.mk.inj hsplit
    obtain ⟨gap, hgap, heq⟩ := exists_eq_trimStart behind
    have hothers := hlaid.blank_append hgap
    rw [← heq] at hothers
    exact .word hbefore ⟨hfirst, hsolid⟩ hbehind hothers

end Splitting

section Cutting

theorem words_append_of_blank
    {blanks : List Char}
    (hblanks : ∀ c ∈ blanks, isBlank c = true)
    (rest : List Char) :
    words (blanks ++ rest) = words rest := by
  induction blanks with
  | nil => rfl
  | cons c blanks ih =>
      obtain ⟨hc, hblanks⟩ := List.forall_mem_cons.mp hblanks
      rw [List.cons_append, words_cons_of_blank hc, ih hblanks]

/-- A run of characters that are not blank is a word where it ends. -/
theorem words_append_of_solid
    {word rest : List Char}
    (hne : word ≠ [])
    (hword : ∀ c ∈ word, isBlank c = false)
    (hrest : ∀ c ∈ rest.head?, isBlank c = true) :
    words (word ++ rest) = word :: words rest := by
  induction word with
  | nil => exact absurd rfl hne
  | cons c word ih =>
      obtain ⟨hc, hword⟩ := List.forall_mem_cons.mp hword
      cases word with
      | nil =>
          have hend : rest.head?.all isBlank = true := by
            cases rest with
            | nil => rfl
            | cons d rest => exact hrest d rfl
          simp [words, hc, hend]
      | cons d word =>
          have hnext := ih (by simp) hword
          have hd := (List.forall_mem_cons.mp hword).1
          rw [List.cons_append, List.cons_append] at *
          simp [words, hc, hd] at hnext ⊢
          rw [hnext]

theorem words_of_blank
    {text : List Char}
    (h : AllBlank text) :
    words text = [] := by
  have key := words_append_of_blank h []
  rwa [List.append_nil] at key

theorem head?_words_of_startsWith
    {text word : List Char}
    (h : StartsWith text word) :
    (words text).head? = some word := by
  obtain ⟨blanks, rest, rfl, hblanks, hne, hword, hrest⟩ := h
  rw [words_append_of_blank hblanks, words_append_of_solid hne hword hrest]
  rfl

/-- **The first word of a text.** -/
theorem head?_words_eq_some_iff
    {text word : List Char} :
    (words text).head? = some word ↔ StartsWith text word := by
  constructor
  · intro h
    have hsome : ¬ ∀ c ∈ text, isBlank c = true := by
      intro hblank
      rw [words_of_blank hblank] at h
      exact absurd h (by simp)
    obtain ⟨first, hstarts⟩ := exists_startsWith hsome
    have hfirst := head?_words_of_startsWith hstarts
    rw [h, Option.some.injEq] at hfirst
    rw [hfirst]
    exact hstarts
  · exact head?_words_of_startsWith

/-- A text has the words that it is put together from. -/
theorem words_of_laidOut
    {text : List Char}
    {tokens : List (List Char)}
    (h : HasWords text tokens) :
    words text = tokens := by
  unfold HasWords at h
  generalize hlast : ([] : List Char) = last at h
  induction h with
  | last hbefore hlast hbehind =>
      subst hlast
      exact words_of_blank (hbefore.append hbehind)
  | word hbefore hword hrest _ ih =>
      rw [words_append_of_blank hbefore, words_append_of_solid hword.1 hword.2 hrest,
        ih hlast]

/-- Every text consists of words amid blanks. -/
theorem hasWords_words (text : List Char) : HasWords text (words text) := by
  by_cases hblank : AllBlank text
  · rw [words_of_blank hblank]
    have key := LaidOut.last hblank isTrimmed_nil allBlank_nil
    rwa [List.append_nil, List.append_nil] at key
  · obtain ⟨word, before, rest, heq, hbefore, hne, hsolid, hrest⟩ :=
      exists_startsWith hblank
    have hshorter : rest.length < text.length := by
      have hlength := List.length_pos_iff.mpr hne
      simp only [heq, List.length_append]
      omega
    have hothers := hasWords_words rest
    rw [heq, words_append_of_blank hbefore, words_append_of_solid hne hsolid hrest]
    exact .word hbefore ⟨hne, hsolid⟩ hrest hothers
termination_by text.length

/-- **The words of a text** are those from which it is put together. -/
theorem words_eq_iff
    {text : List Char}
    {tokens : List (List Char)} :
    words text = tokens ↔ HasWords text tokens := by
  constructor
  · rintro rfl
    exact hasWords_words text
  · exact words_of_laidOut

/-- A text has its words in one way. -/
theorem HasWords.eq
    {text : List Char}
    {tokens others : List (List Char)}
    (h : HasWords text tokens)
    (hothers : HasWords text others) :
    tokens = others := by
  rw [← words_eq_iff.mpr h, words_eq_iff.mpr hothers]

/-- A text starts with the first of its words. -/
theorem startsWith_iff_exists_hasWords
    {text word : List Char} :
    StartsWith text word ↔ ∃ others, HasWords text (word :: others) := by
  rw [← head?_words_eq_some_iff]
  constructor
  · intro h
    obtain ⟨others, hwords⟩ := List.head?_eq_some_iff.mp h
    exact ⟨others, words_eq_iff.mp hwords⟩
  · rintro ⟨others, h⟩
    rw [words_eq_iff.mpr h]
    rfl

end Cutting
end Text
end ScriptHub
