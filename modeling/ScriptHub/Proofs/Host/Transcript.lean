import ScriptHub.Proofs.Host.Builtins
import ScriptHub.Proofs.Host.Lines
import ScriptHub.Proofs.Text.LetterCase

/-!
# What a session is to print

What a session prints for a line is told by the line, by the words of the filter and by
the flag of the word filter.  The flag is that of the latest command before the line that
sets it; no state of the machine has to be known.

**Results.**
* `toggleOf`: the flag that a line gives to the word filter, if it gives one.
* `Prints`: what is printed for a line.
* `Transcribes`: what is printed for lines, one after the other.
* `toggleIn_eq_some_iff`, `offends_iff`: the rules are those of the grammar and the filter.
-/

namespace ScriptHub
namespace Host

open AdminCommand

section Rules

/-- The flag that a subcommand gives, which is told by its name. -/
def flagNamed (name : List Char) : Option Bool :=
  if name = "enable".toList then some true
  else if name = "disable".toList then some false
  else none

/--
The flag that a command gives to the word filter, if it gives one: its first words are
the command word, a subcommand in any letter case and the id of the word filter.
-/
def toggleIn
    (settings : Settings)
    (userClass : Int32)
    (command : String) :
    Option Bool :=
  match Text.words command.toList with
  | word :: subcommand :: digits :: _ =>
      if settings.adminClass ≤ userClass ∧
          word = settings.adminWord.toList ∧
          Decimal.readUInt64 digits = .ok 2 then
        flagNamed (subcommand.map Char.toLower)
      else
        none
  | _ => none

/-- The flag that a line gives to the word filter, if it gives one. -/
def toggleOf (settings : Settings) (text : String) : Option Bool :=
  match ConsoleLine.parse text with
  | .ok (.command _ userClass command) => toggleIn settings userClass command
  | _ => none

/-- The flag of the word filter after lines: that of the latest line that gives one. -/
def flagAfter
    (settings : Settings)
    (filtering : Bool)
    (texts : List String) :
    Bool :=
  (texts.filterMap (toggleOf settings)).getLast?.getD filtering

/-- A word, trimmed and lower-cased, is not empty and occurs in the lower-cased message. -/
def Offends (blockWords : List String) (message : String) : Prop :=
  ∃ word ∈ blockWords,
    Text.lower (Text.trim word.toList) ≠ [] ∧
      Text.lower (Text.trim word.toList) <:+: Text.lower message.toList

/-- Some word is more than blanks. -/
def hasWord (blockWords : List String) : Bool :=
  blockWords.any fun word => word.toList.any fun c => !Text.isBlank c

/-- The notices are printed, then one verdict. -/
def PrintsVerdict
    (notices : List Output)
    (blocked : Prop)
    (printed : List Output) :
    Prop :=
  ∃ verdict : Verdict,
    printed = notices ++ [.answer verdict.name] ∧
      (verdict = .block ↔ blocked)

/-- What is printed for a line while the flag of the word filter is as told. -/
inductive Prints
    (settings : Settings)
    (blockWords : List String)
    (filtering : Bool)
    (text : String) :
    List Output → Prop
  | malformed (reason : ConsoleError) :
      ConsoleLine.parse text = .error reason →
      Prints settings blockWords filtering text [.complaint reason.message]
  | empty :
      ConsoleLine.parse text = .ok .empty →
      Prints settings blockWords filtering text []
  | stats (counters : String) :
      ConsoleLine.parse text = .ok .stats →
      Prints settings blockWords filtering text [.answer counters]
  | chat (nick message : String) (printed : List Output) :
      ConsoleLine.parse text = .ok (.chat nick message) →
      PrintsVerdict [] (filtering = true ∧ Offends blockWords message) printed →
      Prints settings blockWords filtering text printed
  | privateMessage (nick otherNick message : String) (printed : List Output) :
      ConsoleLine.parse text = .ok (.privateMessage nick otherNick message) →
      PrintsVerdict [] (filtering = true ∧ Offends blockWords message) printed →
      Prints settings blockWords filtering text printed
  | login (nick : String) :
      ConsoleLine.parse text = .ok (.login nick) →
      Prints settings blockWords filtering text [.answer "allow"]
  | logout (nick : String) :
      ConsoleLine.parse text = .ok (.logout nick) →
      Prints settings blockWords filtering text [.answer "allow"]
  | command
      (nick : String)
      (userClass : Int32)
      (command : String)
      (notices : List String)
      (printed : List Output) :
      ConsoleLine.parse text = .ok (.command nick userClass command) →
      PrintsVerdict (notices.map fun notice => noticeLine (nick, notice))
        ((Text.words command.toList).head? = some settings.adminWord.toList)
        printed →
      Prints settings blockWords filtering text printed

/-- The lines before the first one that ends the session. -/
def beforeQuit (texts : List String) : List String :=
  texts.takeWhile fun text => ConsoleLine.parse text ≠ .ok .quit

/-- What is printed for lines, line by line; the flag follows from the earlier lines. -/
def Transcribes
    (settings : Settings)
    (blockWords : List String)
    (filtering : Bool)
    (texts : List String)
    (printed : List (List Output)) :
    Prop :=
  printed.length = texts.length ∧
    ∀ earlier text later,
      texts = earlier ++ text :: later →
      ∃ outputs,
        printed[earlier.length]? = some outputs ∧
          Prints settings blockWords (flagAfter settings filtering earlier) text
            outputs

end Rules

section Meaning

variable {settings : Settings} {blockWords : List String} {filtering : Bool}

theorem PrintsVerdict.allow
    {blocked : Prop}
    {printed : List Output}
    (h : PrintsVerdict [] blocked printed)
    (harmless : ¬ blocked) :
    printed = [.answer "allow"] := by
  obtain ⟨verdict, rfl, hverdict⟩ := h
  cases verdict with
  | allow => rfl
  | block => exact absurd (hverdict.mp rfl) harmless

theorem isPlainLetter_of_toggleWord (enabled : Bool) :
    ∀ c ∈ (toggleWord enabled).toList, Text.isPlainLetter c = true := by
  have key : (toggleWord enabled).toList.all Text.isPlainLetter = true := by
    cases enabled <;> decide +kernel
  exact List.all_eq_true.mp key

theorem flagNamed_eq_some_iff
    {name : List Char}
    {enabled : Bool} :
    flagNamed name = some enabled ↔ name = (toggleWord enabled).toList := by
  unfold flagNamed toggleWord
  cases enabled <;> split_ifs <;> simp_all

theorem toggleIn_eq_some_iff
    {userClass : Int32}
    {command : String}
    {enabled : Bool} :
    toggleIn settings userClass command = some enabled ↔
      ¬ userClass < settings.adminClass ∧
        Toggles command settings.adminWord 2 enabled := by
  have hword :
      ∀ subcommand : List Char,
        String.ofList (Text.lower subcommand) = toggleWord enabled ↔
          subcommand.map Char.toLower = (toggleWord enabled).toList := by
    intro subcommand
    rw [← Text.lower_eq_iff (isPlainLetter_of_toggleWord enabled)]
    constructor
    · intro h
      rw [← h, String.toList_ofList]
    · intro h
      rw [h, String.ofList_toList]
  unfold toggleIn Toggles
  simp only [hword, Int32.not_lt]
  match Text.words command.toList with
  | [] => simp
  | [word] => simp
  | [word, subcommand] => simp
  | word :: subcommand :: digits :: rest =>
      simp only [List.cons.injEq]
      split_ifs with heard
      · obtain ⟨high, rfl, hread⟩ := heard
        simp [flagNamed_eq_some_iff, high, hread]
      · simp only [not_and] at heard
        constructor
        · intro h
          exact absurd h (by simp)
        · rintro ⟨high, _, _, _, ⟨rfl, rfl, rfl, _⟩, _, hread⟩
          exact absurd hread (heard high rfl)

theorem flagAfter_cons (text : String) (texts : List String) :
    flagAfter settings filtering (text :: texts) =
      flagAfter settings ((toggleOf settings text).getD filtering) texts := by
  unfold flagAfter
  cases htoggle : toggleOf settings text with
  | none => rw [List.filterMap_cons_none htoggle]; rfl
  | some enabled =>
      rw [List.filterMap_cons_some htoggle, List.getLast?_cons]
      rfl

/-- The words that a filter uses are those that are not empty when they are plain. -/
theorem offends_iff
    {event : Event}
    {message : String}
    (h : Builtin.filteredText? event = some message) :
    Builtin.offends (Builtin.filterWords blockWords) event = true ↔
      Offends blockWords message := by
  simp only [Builtin.offends, h, Option.any_some, List.any_eq_true,
    Builtin.filterWords, List.mem_filter, List.mem_map, Text.occursIn_iff, Offends]
  constructor
  · rintro ⟨plain, ⟨⟨word, hmem, rfl⟩, hne⟩, hinfix⟩
    exact ⟨word, hmem, by simpa using hne, hinfix⟩
  · rintro ⟨word, hmem, hne, hinfix⟩
    exact ⟨_, ⟨⟨word, hmem, rfl⟩, by simpa using hne⟩, hinfix⟩

/-- A filter has words exactly if some word is more than blanks. -/
theorem filterWords_eq_nil_iff :
    Builtin.filterWords blockWords = [] ↔ hasWord blockWords = false := by
  rw [Builtin.filterWords, List.filter_eq_nil_iff]
  simp only [hasWord, List.any_eq_false, List.mem_map, forall_exists_index,
    and_imp, forall_apply_eq_imp_iff₂, Bool.not_eq_true, Bool.not_eq_false',
    List.isEmpty_iff, Text.lower_eq_nil_iff, Text.trim_eq_nil_iff]

end Meaning

section Transcripts

variable {settings : Settings} {blockWords : List String} {filtering : Bool}
variable {text : String} {texts : List String}

theorem beforeQuit_of_quit
    (quits : ConsoleLine.parse text = .ok .quit) :
    beforeQuit (text :: texts) = [] :=
  List.takeWhile_cons_of_neg (by simpa using quits)

theorem beforeQuit_cons
    (stays : ConsoleLine.parse text ≠ .ok .quit) :
    beforeQuit (text :: texts) = text :: beforeQuit texts :=
  List.takeWhile_cons_of_pos (by simpa using stays)

theorem transcribes_nil : Transcribes settings blockWords filtering [] [] := by
  refine ⟨rfl, ?_⟩
  intro earlier text later h
  exact absurd h (by simp)

/-- A transcript is continued by its first line. -/
theorem Transcribes.cons
    {outputs : List Output}
    {printed : List (List Output)}
    (first : Prints settings blockWords filtering text outputs)
    (rest :
      Transcribes settings blockWords
        ((toggleOf settings text).getD filtering) texts printed) :
    Transcribes settings blockWords filtering (text :: texts)
      (outputs :: printed) := by
  refine ⟨congrArg (· + 1) rest.1, ?_⟩
  intro earlier current later hsplit
  cases earlier with
  | nil =>
      obtain ⟨rfl, _⟩ := List.cons.inj hsplit
      exact ⟨outputs, rfl, first⟩
  | cons head earlier =>
      obtain ⟨rfl, htexts⟩ := List.cons.inj hsplit
      rw [flagAfter_cons]
      exact rest.2 earlier current later htexts

end Transcripts

end Host
end ScriptHub
