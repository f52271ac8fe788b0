import ScriptHub.Proofs.Admin.Grammar
import ScriptHub.Proofs.Decimal.Integer

/-!
# Which texts are which commands

What a text is understood as is told by its words alone: by the first three of them, to
be precise.  A subcommand counts in any letter case, since it is lower-cased first; an id
is digits with a value of 64 bits.

**Results.**
* `Understood`: what the words of a text are understood as.
* `understood_parse`, `parse_of_understood`: a text is understood as its words are.
* `texts_are_understood_by_grammar`: both, with the ways in which commands can be written.
-/

namespace ScriptHub
namespace AdminCommand

section Rules

/-- The subcommands that need no id. -/
def plainCommands : List (String × AdminCommand) :=
  [("list", list), ("stats", stats), ("help", help)]

/-- The subcommands that there are. -/
def subcommands : List String :=
  plainCommands.map Prod.fst ++ [toggleWord true, toggleWord false]

/--
What words are understood as when a command word is given.  A text with another first
word is meant for someone else.
-/
inductive Understood (word : String) :
    List (List Char) → Except AdminError (Option AdminCommand) → Prop
  | blank :
      Understood word [] (.ok none)
  | foreign {first : List Char} {rest : List (List Char)} :
      first ≠ word.toList →
      Understood word (first :: rest) (.ok none)
  | missingSubcommand :
      Understood word [word.toList] (.error .missingSubcommand)
  | plain {second : List Char} {rest : List (List Char)}
      {name : String} {command : AdminCommand} :
      (name, command) ∈ plainCommands →
      Text.lower second = name.toList →
      Understood word (word.toList :: second :: rest) (.ok (some command))
  | toggle {second third : List Char} {rest : List (List Char)}
      {script : ScriptId} {enabled : Bool} :
      Text.lower second = (toggleWord enabled).toList →
      Decimal.WritesNat third script →
      script < UInt64.size →
      Understood word (word.toList :: second :: third :: rest)
        (.ok (some (AdminCommand.toggle script enabled)))
  | missingId {second : List Char} {enabled : Bool} :
      Text.lower second = (toggleWord enabled).toList →
      Understood word [word.toList, second]
        (.error (.missingId (toggleWord enabled)))
  | invalidId {second third : List Char} {rest : List (List Char)} {enabled : Bool} :
      Text.lower second = (toggleWord enabled).toList →
      (∀ n, Decimal.WritesNat third n → UInt64.size ≤ n) →
      Understood word (word.toList :: second :: third :: rest)
        (.error (.invalidId (String.ofList third)))
  | unknown {second : List Char} {rest : List (List Char)} {name : String} :
      Text.lower second = name.toList →
      name ∉ subcommands →
      Understood word (word.toList :: second :: rest) (.error (.unknown name))

end Rules

section Reading

variable {text word : String} {second : List Char} {others : List (List Char)}

/-- What is understood of the words behind a subcommand that sets a flag. -/
theorem understood_readId
    {enabled : Bool}
    (h : Text.lower second = (toggleWord enabled).toList) :
    Understood word (word.toList :: second :: others)
      (((readId (toggleWord enabled) others).map fun script =>
        toggle script enabled).map some) := by
  cases others with
  | nil => exact .missingId h
  | cons third rest =>
      cases hread : Decimal.readUInt64 third with
      | ok script =>
          obtain ⟨hwrites, hfits⟩ := Decimal.readUInt64_eq_ok_iff.mp hread
          have hid : readId (toggleWord enabled) (third :: rest) = .ok script :=
            readId_eq_ok_iff.mpr ⟨third, rest, rfl, hread⟩
          rw [hid]
          exact .toggle h hwrites hfits
      | error reason =>
          have hid :
              readId (toggleWord enabled) (third :: rest) =
                .error (.invalidId (String.ofList third)) := by
            simp [readId, hread]
          rw [hid]
          refine .invalidId h ?_
          intro n hwrites
          by_contra hfits
          have hok :=
            Decimal.readUInt64_eq_ok_iff.mpr ⟨hwrites, Nat.lt_of_not_le hfits⟩
          rw [hread] at hok
          exact absurd hok (by simp)

/-- What is understood of the words behind the command word. -/
theorem understood_readSubcommand :
    Understood word (word.toList :: second :: others)
      ((readSubcommand (String.ofList (Text.lower second)) others).map some) := by
  generalize hname : String.ofList (Text.lower second) = name
  have hlower : Text.lower second = name.toList := by
    rw [← hname, String.toList_ofList]
  unfold readSubcommand
  split_ifs with hlist hstats hhelp henable hdisable
  · subst hlist
    exact .plain (by simp [plainCommands]) hlower
  · subst hstats
    exact .plain (by simp [plainCommands]) hlower
  · subst hhelp
    exact .plain (by simp [plainCommands]) hlower
  · subst henable
    have henabled : Text.lower second = (toggleWord true).toList := hlower
    exact understood_readId henabled
  · subst hdisable
    have hdisabled : Text.lower second = (toggleWord false).toList := hlower
    exact understood_readId hdisabled
  · refine .unknown hlower ?_
    simp [subcommands, plainCommands, toggleWord, hlist, hstats, hhelp, henable,
      hdisable]

/-- A text is understood as its words are. -/
theorem understood_parse :
    Understood word (Text.words text.toList) (parse text word) := by
  unfold parse
  cases Text.words text.toList with
  | nil => exact .blank
  | cons first rest =>
      by_cases hfirst : first = word.toList
      · subst hfirst
        cases rest with
        | nil =>
            simp only [if_true]
            exact .missingSubcommand
        | cons second others =>
            simp only [if_true]
            exact understood_readSubcommand
      · simp only [hfirst, if_false]
        exact .foreign hfirst

theorem readSubcommand_plain
    {name : String}
    {command : AdminCommand}
    (h : (name, command) ∈ plainCommands) :
    readSubcommand name others = .ok command := by
  simp only [plainCommands, List.mem_cons, Prod.mk.injEq, List.not_mem_nil,
    or_false] at h
  rcases h with ⟨rfl, rfl⟩ | ⟨rfl, rfl⟩ | ⟨rfl, rfl⟩ <;> rfl

theorem readSubcommand_toggleWord (enabled : Bool) :
    readSubcommand (toggleWord enabled) others =
      (readId (toggleWord enabled) others).map fun script =>
        toggle script enabled := by
  cases enabled <;> rfl

theorem readSubcommand_unknown
    {name : String}
    (h : name ∉ subcommands) :
    readSubcommand name others = .error (.unknown name) := by
  simp only [subcommands, plainCommands, toggleWord, List.map_cons, List.map_nil,
    List.mem_append, List.mem_cons, List.not_mem_nil, or_false, if_true,
    Bool.false_eq_true, if_false, not_or] at h
  obtain ⟨⟨hlist, hstats, hhelp⟩, henable, hdisable⟩ := h
  simp [readSubcommand, hlist, hstats, hhelp, henable, hdisable]

/-- The words behind the command word are read as a subcommand. -/
theorem parse_of_words
    {name : String}
    (hwords : Text.words text.toList = word.toList :: second :: others)
    (hname : Text.lower second = name.toList) :
    parse text word = (readSubcommand name others).map some := by
  unfold parse
  rw [hwords]
  simp only [if_true]
  rw [hname, String.ofList_toList]

/-- Nothing else is understood of the words of a text. -/
theorem parse_of_understood
    {tokens : List (List Char)}
    {answer : Except AdminError (Option AdminCommand)}
    (hwords : Text.words text.toList = tokens)
    (h : Understood word tokens answer) :
    parse text word = answer := by
  cases h with
  | blank => simp [parse, hwords]
  | foreign hfirst => simp [parse, hwords, hfirst]
  | missingSubcommand => simp [parse, hwords]
  | plain hplain hname =>
      rw [parse_of_words hwords hname, readSubcommand_plain hplain]
      rfl
  | toggle hname hwrites hfits =>
      rw [parse_of_words hwords hname, readSubcommand_toggleWord]
      have hread := Decimal.readUInt64_eq_ok_iff.mpr ⟨hwrites, hfits⟩
      simp [readId, hread, Except.map]
  | missingId hname =>
      rw [parse_of_words hwords hname, readSubcommand_toggleWord]
      rfl
  | @invalidId _ third rest _ hname hlarge =>
      rw [parse_of_words hwords hname, readSubcommand_toggleWord]
      cases hread : Decimal.readUInt64 third with
      | ok n =>
          obtain ⟨hwrites, hfits⟩ := Decimal.readUInt64_eq_ok_iff.mp hread
          exact absurd (hlarge n hwrites) (Nat.not_le_of_lt hfits)
      | error reason => simp [readId, hread, Except.map]
  | unknown hname hunknown =>
      rw [parse_of_words hwords hname, readSubcommand_unknown hunknown]
      rfl

/-- Words behind a command do not matter. -/
theorem Understood.append
    {tokens : List (List Char)}
    {command : AdminCommand}
    (h : Understood word tokens (.ok (some command)))
    (extra : List (List Char)) :
    Understood word (tokens ++ extra) (.ok (some command)) := by
  cases h with
  | plain hplain hname => exact .plain hplain hname
  | toggle hname hwrites hfits => exact .toggle hname hwrites hfits

/-- A subcommand is its own lower-case form. -/
theorem lower_toggleWord (enabled : Bool) :
    Text.lower (toggleWord enabled).toList = (toggleWord enabled).toList := by
  cases enabled <;> decide +kernel

theorem isWord_toggleWord (enabled : Bool) :
    Text.IsWord (toggleWord enabled).toList := by
  cases enabled <;> decide +kernel

end Reading

section Writing

variable {text word : String}

/--
**Texts are understood by the grammar.**  What a text is understood as is what the
grammar says of its words, so nothing is if the command word is no word.  Words behind a
command are ignored.  A command that sets the flag of a registration is understood
wherever its words stand in this order, whatever blanks come between them.
-/
theorem texts_are_understood_by_grammar (text word : String) :
    (∀ answer,
        parse text word = answer ↔
          ∃ tokens,
            Text.HasWords text.toList tokens ∧ Understood word tokens answer) ∧
      (¬ Text.IsWord word.toList → parse text word = .ok none) ∧
      (∀ other tokens extra command,
        Text.HasWords text.toList tokens →
        Text.HasWords other.toList (tokens ++ extra) →
        parse text word = .ok (some command) →
        parse other word = .ok (some command)) ∧
      ∀ before gap gap' rest script enabled,
        Text.IsWord word.toList →
        Text.AllBlank before →
        Text.AllBlank gap ∧ gap ≠ [] →
        Text.AllBlank gap' ∧ gap' ≠ [] →
        Text.EndsWord rest →
        script < UInt64.size →
        text.toList =
          before ++ (word.toList ++ (gap ++ ((toggleWord enabled).toList ++
            (gap' ++ ((toString script).toList ++ rest))))) →
        parse text word = .ok (some (toggle script enabled)) := by
  have hgrammar :
      ∀ text answer,
        parse text word = answer ↔
          ∃ tokens,
            Text.HasWords text.toList tokens ∧ Understood word tokens answer := by
    intro text answer
    constructor
    · rintro rfl
      exact ⟨_, Text.hasWords_words text.toList, understood_parse⟩
    · rintro ⟨tokens, hwords, hunderstood⟩
      exact parse_of_understood (Text.words_eq_iff.mpr hwords) hunderstood
  refine ⟨hgrammar text, ?_, ?_, ?_⟩
  · intro hword
    rw [parse_eq_none_iff]
    rintro ⟨_, _, _, _, hne, hsolid, _⟩
    exact hword ⟨hne, hsolid⟩
  · intro other tokens extra command hwords hother hparse
    obtain ⟨tokens', hwords', hunderstood⟩ := (hgrammar text _).mp hparse
    obtain rfl := hwords.eq hwords'
    exact (hgrammar other _).mpr ⟨_, hother, hunderstood.append extra⟩
  · rintro before gap gap' rest script enabled hword hbefore ⟨hgap, hne⟩ ⟨hgap', hne'⟩
      hrest hfits htext
    have hscript := Decimal.writesNat_toString script
    have hid : Text.HasWords _ _ :=
      .word hgap' hscript.isWord hrest (Text.hasWords_words rest)
    have hsubcommand : Text.HasWords _ _ :=
      .word hgap (isWord_toggleWord enabled) (hgap'.endsWord_append hne' _) hid
    have hall : Text.HasWords _ _ :=
      .word hbefore hword (hgap.endsWord_append hne _) hsubcommand
    rw [← htext] at hall
    exact
      (hgrammar text _).mpr
        ⟨_, hall, .toggle (lower_toggleWord enabled) hscript hfits⟩

/-- The largest id is understood amid blanks of other scripts, and an empty word is not. -/
theorem toggle_amid_wide_blanks :
    parse "\u3000hub\u2003enable\u00A0\t18446744073709551615 now" "hub" =
        .ok (some (.enable 18446744073709551615)) ∧
      parse "enable 7" "" = .ok none := by
  constructor
  · exact
      (texts_are_understood_by_grammar _ _).2.2.2 "\u3000".toList "\u2003".toList
        "\u00A0\t".toList " now".toList 18446744073709551615 true
        (by decide +kernel) (by decide +kernel) (by decide +kernel)
        (by decide +kernel) (by decide +kernel) (by decide +kernel)
        (by decide +kernel)
  · exact (texts_are_understood_by_grammar _ _).2.1 (by decide +kernel)

end Writing

end AdminCommand
end ScriptHub
