import ScriptHub.Proofs.Console.Grammar

/-!
# The users that lines name

A user can be named in every kind of line exactly if its name is a word.  The names that
are read from a line are words, unless too many arguments come with a login or a logout:
then all of them together are taken for the name.

**Results.**
* `nameable_iff`: which users can be named in messages and commands.
* `users_are_words_unless_crowded`: the names that a line is parsed to.
-/

namespace ScriptHub
namespace ConsoleLine

open Text (IsWord IsTrimmed LaidOut)

section Users

/-- The users that a line names, apart from what its text says. -/
def users : ConsoleLine → List String
  | .chat nick _ => [nick]
  | .privateMessage nick otherNick _ => [nick, otherNick]
  | .login nick => [nick]
  | .logout nick => [nick]
  | .command nick _ _ => [nick]
  | .empty | .stats | .quit => []

/-- A user can send and receive messages, and give commands, whatever they say. -/
structure Nameable (name : String) : Prop where
  chats :
    ∀ text : String, IsTrimmed text.toList →
      ∃ line, parse line = .ok (.chat name text)
  sends :
    ∀ otherNick text : String, IsWord otherNick.toList → IsTrimmed text.toList →
      ∃ line, parse line = .ok (.privateMessage name otherNick text)
  receives :
    ∀ nick text : String, IsWord nick.toList → IsTrimmed text.toList →
      ∃ line, parse line = .ok (.privateMessage nick name text)
  commands :
    ∀ (userClass : Int32) (text : String), IsTrimmed text.toList →
      ∃ line, parse line = .ok (.command name userClass text)

end Users

section Names

variable {line name : String} {result : ConsoleLine}

/-- Any verb, any arguments and any text can be put together to a line. -/
theorem exists_line
    {verb text : String}
    {arguments : List (List Char)}
    (hverb : IsWord verb.toList)
    (harguments : ∀ word ∈ arguments, IsWord word)
    (htext : IsTrimmed text.toList) :
    ∃ line : String, LaidOut (verb.toList :: arguments) text.toList line.toList := by
  obtain ⟨cs, hlaid⟩ :=
    Text.exists_laidOut (List.forall_mem_cons.mpr ⟨hverb, harguments⟩) htext
  obtain ⟨line, rfl⟩ := exists_toList_eq cs
  exact ⟨line, hlaid⟩

theorem exists_chat
    {nick text : String}
    (hnick : IsWord nick.toList)
    (htext : IsTrimmed text.toList) :
    ∃ line, parse line = .ok (.chat nick text) := by
  have hverb : IsWord "chat".toList := by decide +kernel
  have harguments : ∀ word ∈ [nick.toList], IsWord word := by
    simpa using hnick
  obtain ⟨line, hlaid⟩ := exists_line hverb harguments htext
  exact ⟨line, parse_of_chat hlaid⟩

theorem exists_privateMessage
    {nick otherNick text : String}
    (hnick : IsWord nick.toList)
    (hother : IsWord otherNick.toList)
    (htext : IsTrimmed text.toList) :
    ∃ line, parse line = .ok (.privateMessage nick otherNick text) := by
  have hverb : IsWord "pm".toList := by decide +kernel
  have harguments : ∀ word ∈ [nick.toList, otherNick.toList], IsWord word := by
    simpa using ⟨hnick, hother⟩
  obtain ⟨line, hlaid⟩ := exists_line hverb harguments htext
  exact ⟨line, parse_of_privateMessage hlaid⟩

theorem exists_command
    {nick text : String}
    (hnick : IsWord nick.toList)
    (userClass : Int32)
    (htext : IsTrimmed text.toList) :
    ∃ line, parse line = .ok (.command nick userClass text) := by
  have hclass := Decimal.writesInt_toString userClass.toInt
  have hverb : IsWord "cmd".toList := by decide +kernel
  have harguments :
      ∀ word ∈ [nick.toList, (toString userClass.toInt).toList], IsWord word := by
    simpa using ⟨hnick, hclass.isWord⟩
  obtain ⟨line, hlaid⟩ := exists_line hverb harguments htext
  exact ⟨line, parse_of_command hlaid hclass⟩

/-- The names in a line that says something are among its words. -/
theorem isWord_of_renders
    (h : Renders line result) :
    ∀ name ∈ result.users, IsWord name.toList := by
  cases h with
  | empty _ => simp [users]
  | request hrequest _ =>
      rcases mem_requests_iff.mp hrequest with
        ⟨_, rfl⟩ | ⟨_, rfl⟩ | ⟨_, rfl⟩ <;> simp [users]
  | @visit verb nick _ hvisit hwords =>
      have hnick : IsWord nick.toList := hwords.isWord_of_mem _ (by simp)
      rcases mem_visits_iff.mp hvisit with ⟨_, rfl⟩ | ⟨_, rfl⟩ <;> simpa [users] using hnick
  | @chat nick _ hlaid =>
      have hnick : IsWord nick.toList := hlaid.isWord_of_mem _ (by simp)
      simpa [users] using hnick
  | @privateMessage nick otherNick _ hlaid =>
      have hnick : IsWord nick.toList := hlaid.isWord_of_mem _ (by simp)
      have hother : IsWord otherNick.toList := hlaid.isWord_of_mem _ (by simp)
      simpa [users] using ⟨hnick, hother⟩
  | @command nick _ _ _ hlaid _ =>
      have hnick : IsWord nick.toList := hlaid.isWord_of_mem _ (by simp)
      simpa [users] using hnick

/-- **The users that can be named everywhere** are those whose name is a word. -/
theorem nameable_iff : Nameable name ↔ IsWord name.toList := by
  constructor
  · intro h
    obtain ⟨line, hparse⟩ := h.chats "" Text.isTrimmed_nil
    have hrenders := renders_of_parse (by simp) hparse
    exact isWord_of_renders hrenders name (by simp [users])
  · intro hname
    exact
      { chats := fun _ htext => exists_chat hname htext
        sends := fun _ _ hother htext => exists_privateMessage hname hother htext
        receives := fun _ _ hnick htext => exists_privateMessage hnick hname htext
        commands := fun userClass _ htext => exists_command hname userClass htext }

/-- A crowded line names one user, whose name is no word. -/
theorem exists_user_of_crowded
    (hparse : parse line = .ok result)
    (h : Crowded line) :
    ∃ name : String,
      result.users = [name] ∧
        name.toList ≠ [] ∧
        IsTrimmed name.toList ∧
        ¬ IsWord name.toList := by
  obtain ⟨verb, visit, nick, hvisit, hnick, hsome, htrimmed, hword⟩ :=
    exists_parse_of_crowded h
  rw [hnick] at hparse
  obtain rfl := Except.ok.inj hparse
  refine ⟨nick, ?_, hsome, htrimmed, hword⟩
  rcases mem_visits_iff.mp hvisit with ⟨_, rfl⟩ | ⟨_, rfl⟩ <;> rfl

/--
**The users of a line are words unless it is crowded.**  A name is never empty, and it
neither starts nor ends with a blank; with it a user can be named elsewhere exactly if it
is a word.  All names are words exactly in the lines that are not crowded, which are those
other than a login or a logout with more than one argument.
-/
theorem users_are_words_unless_crowded
    (h : parse line = .ok result) :
    (∀ name ∈ result.users,
        name.toList ≠ [] ∧
          IsTrimmed name.toList ∧
          (Nameable name ↔ IsWord name.toList)) ∧
      ((∀ name ∈ result.users, IsWord name.toList) ↔ ¬ Crowded line) := by
  by_cases hcrowded : Crowded line
  · obtain ⟨user, husers, hsome, htrimmed, hword⟩ := exists_user_of_crowded h hcrowded
    rw [husers]
    constructor
    · intro name hname
      obtain rfl := List.mem_singleton.mp hname
      exact ⟨hsome, htrimmed, nameable_iff⟩
    · simp [hcrowded, hword]
  · have hrenders := (renders_or_crowded h).resolve_right hcrowded
    have hwords := isWord_of_renders hrenders
    constructor
    · intro name hname
      have hname' := hwords name hname
      exact ⟨hname'.1, hname'.isTrimmed, nameable_iff⟩
    · exact iff_of_true hwords hcrowded

/-- A login of one word, which can be named in messages. -/
theorem login_of_one_word :
    parse " login\u2003ann " = .ok (.login "ann") ∧ Nameable "ann" := by
  have hparse : parse " login\u2003ann " = .ok (.login "ann") := by decide +kernel
  obtain ⟨hnames, _⟩ := users_are_words_unless_crowded hparse
  obtain ⟨_, _, hnameable⟩ := hnames "ann" (by simp [users])
  exact ⟨hparse, hnameable.mpr (by decide +kernel)⟩

/-- Two words behind a login are taken for one name, which no message can have. -/
theorem login_of_two_words :
    parse "login ann lee" = .ok (.login "ann lee") ∧
      ¬ IsWord "ann lee".toList ∧
      ¬ Nameable "ann lee" := by
  have hblank : ¬ IsWord "ann lee".toList := by decide +kernel
  exact ⟨by decide +kernel, hblank, fun h => hblank (nameable_iff.mp h)⟩

end Names
end ConsoleLine
end ScriptHub
