import Mathlib.Tactic.SplitIfs
import ScriptHub.Console.Line
import ScriptHub.Proofs.Decimal.Integer
import ScriptHub.Proofs.Text.Words

/-!
# Which lines of the console say what

A line is its verb, its arguments and, behind these, a text that is kept as it stands.
The rules say how a line is put together for each of its meanings, and which lines have
none.  A login or a logout with more than one argument is left aside: it is crowded.

**Results.**
* `Renders`: which lines say something, and what.
* `Refuses`: which lines are refused, and why.
* `renders_or_refuses`: every other line is crowded.
* `parse_of_renders`, `parse_of_refuses`: lines are parsed by these rules.
* `lines_follow_their_grammar`: a line is parsed as something exactly if it renders it.
-/

namespace ScriptHub
namespace ConsoleLine

open Text (AllBlank IsWord IsTrimmed LaidOut HasWords StartsWith splitWord)

section Rules

/-- The verbs that need no arguments. -/
def requests : List (String × ConsoleLine) :=
  [("stats", stats), ("quit", quit), ("exit", quit)]

/-- The verbs that tell who comes and goes. -/
def visits : List (String × (String → ConsoleLine)) :=
  [("login", login), ("logout", logout)]

/-- The verbs that need arguments, and how many. -/
def needs : List (String × Nat) :=
  [("login", 1), ("logout", 1), ("chat", 1), ("pm", 2), ("cmd", 2)]

/-- The verbs that there are. -/
def verbs : List String :=
  requests.map Prod.fst ++ needs.map Prod.fst

/-- A line says something.  Words behind the verb of a request do not matter. -/
inductive Renders (line : String) : ConsoleLine → Prop
  | empty :
      AllBlank line.toList →
      Renders line .empty
  | request {verb : String} {result : ConsoleLine} :
      (verb, result) ∈ requests →
      StartsWith line.toList verb.toList →
      Renders line result
  | visit {verb nick : String} {result : String → ConsoleLine} :
      (verb, result) ∈ visits →
      HasWords line.toList [verb.toList, nick.toList] →
      Renders line (result nick)
  | chat {nick text : String} :
      LaidOut ["chat".toList, nick.toList] text.toList line.toList →
      Renders line (.chat nick text)
  | privateMessage {nick otherNick text : String} :
      LaidOut ["pm".toList, nick.toList, otherNick.toList] text.toList line.toList →
      Renders line (.privateMessage nick otherNick text)
  | command {nick text : String} {word : List Char} {userClass : Int32} :
      LaidOut ["cmd".toList, nick.toList, word] text.toList line.toList →
      Decimal.WritesInt word userClass.toInt →
      Renders line (.command nick userClass text)

/-- A line is refused for a reason. -/
inductive Refuses (line : String) : ConsoleError → Prop
  | missingArgument {verb : String} {count : Nat} {arguments : List (List Char)} :
      (verb, count) ∈ needs →
      HasWords line.toList (verb.toList :: arguments) →
      arguments.length < count →
      Refuses line .missingArgument
  | invalidClass {nick word : List Char} {rest : List (List Char)} :
      HasWords line.toList ("cmd".toList :: nick :: word :: rest) →
      (∀ userClass : Int32, ¬ Decimal.WritesInt word userClass.toInt) →
      Refuses line (.invalidClass (String.ofList word))
  | unknownVerb {verb : String} :
      StartsWith line.toList verb.toList →
      verb ∉ verbs →
      Refuses line (.unknownVerb verb)

/-- A line tells of a visit with more than one argument. -/
def Crowded (line : String) : Prop :=
  ∃ verb result, (verb, result) ∈ visits ∧
    ∃ nick second rest,
      HasWords line.toList (verb.toList :: nick :: second :: rest)

theorem mem_requests_iff {verb : String} {result : ConsoleLine} :
    (verb, result) ∈ requests ↔
      (verb = "stats" ∧ result = stats) ∨
        (verb = "quit" ∧ result = quit) ∨
        (verb = "exit" ∧ result = quit) := by
  simp [requests]

theorem mem_visits_iff {verb : String} {result : String → ConsoleLine} :
    (verb, result) ∈ visits ↔
      (verb = "login" ∧ result = login) ∨ (verb = "logout" ∧ result = logout) := by
  simp [visits]

theorem mem_needs_iff {verb : String} {count : Nat} :
    (verb, count) ∈ needs ↔
      (verb = "login" ∧ count = 1) ∨
        (verb = "logout" ∧ count = 1) ∨
        (verb = "chat" ∧ count = 1) ∨
        (verb = "pm" ∧ count = 2) ∨
        (verb = "cmd" ∧ count = 2) := by
  simp [needs]

/-- No verb needs more than two arguments. -/
theorem le_two_of_mem_needs
    {verb : String}
    {count : Nat}
    (h : (verb, count) ∈ needs) :
    count ≤ 2 := by
  have hcases := mem_needs_iff.mp h
  omega

end Rules

section Classes

variable {line verb : String} {count : Nat} {arguments : List (List Char)}

/-- Every list of characters is that of a string. -/
theorem exists_toList_eq (cs : List Char) : ∃ text : String, cs = text.toList :=
  ⟨String.ofList cs, String.toList_ofList.symm⟩

/-- A line either lacks an argument or has as many as it needs, and a text behind them. -/
theorem refuses_or_laidOut
    (hneeds : (verb, count) ∈ needs)
    (h : HasWords line.toList (verb.toList :: arguments)) :
    Refuses line .missingArgument ∨
      ∃ front rest, ∃ text : String,
        arguments = front ++ rest ∧
          front.length = count ∧
          LaidOut (verb.toList :: front) text.toList line.toList := by
  by_cases hmissing : arguments.length < count
  · exact .inl (.missingArgument hneeds h hmissing)
  · have hall :
        LaidOut (verb.toList :: arguments.take count ++ arguments.drop count) []
          line.toList := by
      rw [List.cons_append, List.take_append_drop]
      exact h
    obtain ⟨kept, hkept⟩ := hall.exists_last
    obtain ⟨text, rfl⟩ := exists_toList_eq kept
    refine .inr ⟨_, _, text, (List.take_append_drop count arguments).symm, ?_, hkept⟩
    rw [List.length_take]
    omega

/-- The words of a line say what it is, unless too many come or go. -/
def Classified (line : String) : Prop :=
  (∃ result, Renders line result) ∨ (∃ reason, Refuses line reason) ∨ Crowded line

theorem classified_of_visit
    {result : String → ConsoleLine}
    (hvisit : (verb, result) ∈ visits)
    (hneeds : (verb, 1) ∈ needs)
    (h : HasWords line.toList (verb.toList :: arguments)) :
    Classified line := by
  match arguments with
  | [] => exact .inr (.inl ⟨_, .missingArgument hneeds h Nat.one_pos⟩)
  | [nick] =>
      obtain ⟨nick, rfl⟩ := exists_toList_eq nick
      exact .inl ⟨_, .visit hvisit h⟩
  | nick :: second :: rest =>
      exact .inr (.inr ⟨verb, result, hvisit, nick, second, rest, h⟩)

theorem classified_of_chat
    (h : HasWords line.toList ("chat".toList :: arguments)) :
    Classified line := by
  have hneeds : ("chat", 1) ∈ needs := by simp [needs]
  rcases refuses_or_laidOut hneeds h with hmissing | ⟨front, _, text, _, hlength, hlaid⟩
  · exact .inr (.inl ⟨_, hmissing⟩)
  · obtain ⟨nick, rfl⟩ := List.length_eq_one_iff.mp hlength
    obtain ⟨nick, rfl⟩ := exists_toList_eq nick
    exact .inl ⟨_, .chat hlaid⟩

theorem classified_of_privateMessage
    (h : HasWords line.toList ("pm".toList :: arguments)) :
    Classified line := by
  have hneeds : ("pm", 2) ∈ needs := by simp [needs]
  rcases refuses_or_laidOut hneeds h with hmissing | ⟨front, _, text, _, hlength, hlaid⟩
  · exact .inr (.inl ⟨_, hmissing⟩)
  · obtain ⟨nick, otherNick, rfl⟩ := List.length_eq_two.mp hlength
    obtain ⟨nick, rfl⟩ := exists_toList_eq nick
    obtain ⟨otherNick, rfl⟩ := exists_toList_eq otherNick
    exact .inl ⟨_, .privateMessage hlaid⟩

theorem classified_of_command
    (h : HasWords line.toList ("cmd".toList :: arguments)) :
    Classified line := by
  have hneeds : ("cmd", 2) ∈ needs := by simp [needs]
  rcases refuses_or_laidOut hneeds h with
    hmissing | ⟨front, rest, text, rfl, hlength, hlaid⟩
  · exact .inr (.inl ⟨_, hmissing⟩)
  · obtain ⟨nick, word, rfl⟩ := List.length_eq_two.mp hlength
    by_cases hclass : ∃ userClass : Int32, Decimal.WritesInt word userClass.toInt
    · obtain ⟨userClass, hwrites⟩ := hclass
      obtain ⟨nick, rfl⟩ := exists_toList_eq nick
      exact .inl ⟨_, .command hlaid hwrites⟩
    · exact .inr (.inl ⟨_, .invalidClass h (not_exists.mp hclass)⟩)

/-- **Every line is of one of the kinds.** -/
theorem classified (line : String) : Classified line := by
  have hwords := Text.hasWords_words line.toList
  cases htokens : Text.words line.toList with
  | nil =>
      rw [htokens] at hwords
      exact .inl ⟨_, .empty (Text.trim_eq_nil_iff.mp (Text.trim_of_laidOut hwords))⟩
  | cons verb arguments =>
      rw [htokens] at hwords
      obtain ⟨verb, rfl⟩ := exists_toList_eq verb
      have hstarts : StartsWith line.toList verb.toList :=
        Text.startsWith_iff_exists_hasWords.mpr ⟨arguments, hwords⟩
      by_cases hverb : verb ∈ verbs
      · simp only [verbs, requests, needs, List.map_cons, List.map_nil,
          List.mem_append, List.mem_cons, List.not_mem_nil, or_false] at hverb
        rcases hverb with (rfl | rfl | rfl) | rfl | rfl | rfl | rfl | rfl
        · exact .inl ⟨stats, .request (by simp [requests]) hstarts⟩
        · exact .inl ⟨quit, .request (by simp [requests]) hstarts⟩
        · exact .inl ⟨quit, .request (by simp [requests]) hstarts⟩
        · have hvisit : ("login", login) ∈ visits := by simp [visits]
          exact classified_of_visit hvisit (by simp [needs]) hwords
        · have hvisit : ("logout", logout) ∈ visits := by simp [visits]
          exact classified_of_visit hvisit (by simp [needs]) hwords
        · exact classified_of_chat hwords
        · exact classified_of_privateMessage hwords
        · exact classified_of_command hwords
      · exact .inr (.inl ⟨_, .unknownVerb hstarts hverb⟩)

end Classes

section Parsing

variable {line verb : String} {last rest : List Char} {tokens : List (List Char)}

/-- The words of a trimmed text are split off one by one, and what is left is trimmed. -/
theorem exists_splitWord
    {word : List Char}
    (htrimmed : IsTrimmed rest)
    (h : LaidOut (word :: tokens) last rest) :
    word ≠ [] ∧
      ∃ behind,
        splitWord rest = (word, behind) ∧
          IsTrimmed behind ∧
          LaidOut tokens last behind := by
  obtain ⟨hne, behind, hsplit, hlaid⟩ := Text.laidOut_cons_iff.mp h
  have hbehind := Text.isTrimmed_splitWord htrimmed
  rw [hsplit] at hbehind
  exact ⟨hne, behind, hsplit, hbehind, hlaid⟩

/-- A line is read by its verb. -/
theorem exists_parse_eq
    (h : LaidOut (verb.toList :: tokens) last line.toList) :
    ∃ rest,
      parse line = readVerb verb rest ∧
        IsTrimmed rest ∧
        LaidOut tokens last rest := by
  obtain ⟨_, rest, hsplit, htrimmed, hlaid⟩ :=
    exists_splitWord (Text.isTrimmed_trim line.toList) (Text.laidOut_trim_iff.mpr h)
  refine ⟨rest, ?_, htrimmed, hlaid⟩
  unfold parse
  rw [hsplit]
  simp only [String.ofList_toList]

theorem required_toList
    {name : String}
    (h : name.toList ≠ []) :
    required name.toList = .ok name := by
  have key : ∀ cs : List Char, cs ≠ [] → required cs = .ok (String.ofList cs) := by
    intro cs hne
    cases cs with
    | nil => exact absurd rfl hne
    | cons c cs => rfl
  rw [key _ h, String.ofList_toList]

theorem readVerb_request
    {result : ConsoleLine}
    (h : (verb, result) ∈ requests) :
    readVerb verb rest = .ok result := by
  rcases mem_requests_iff.mp h with ⟨rfl, rfl⟩ | ⟨rfl, rfl⟩ | ⟨rfl, rfl⟩ <;> rfl

theorem readVerb_visit
    {result : String → ConsoleLine}
    (h : (verb, result) ∈ visits) :
    readVerb verb rest = (required rest).map result := by
  rcases mem_visits_iff.mp h with ⟨rfl, rfl⟩ | ⟨rfl, rfl⟩ <;> rfl

theorem readVerb_unknown
    (hne : verb ≠ "")
    (h : verb ∉ verbs) :
    readVerb verb rest = .error (.unknownVerb verb) := by
  simp only [verbs, requests, needs, List.map_cons, List.map_nil, List.mem_append,
    List.mem_cons, List.not_mem_nil, or_false, not_or] at h
  simp [readVerb, hne, h]

theorem readClass_of_writes
    {word : List Char}
    {userClass : Int32}
    (h : Decimal.WritesInt word userClass.toInt) :
    readClass word = .ok userClass := by
  have hread := Decimal.readInt32_eq_ok_iff.mpr h
  obtain ⟨c, cs, rfl⟩ := List.exists_cons_of_ne_nil h.isWord.1
  simp [readClass, hread]

theorem readClass_of_not_writes
    {word : List Char}
    (hne : word ≠ [])
    (h : ∀ userClass : Int32, ¬ Decimal.WritesInt word userClass.toInt) :
    readClass word = .error (.invalidClass (String.ofList word)) := by
  obtain ⟨c, cs, rfl⟩ := List.exists_cons_of_ne_nil hne
  cases hread : Decimal.readInt32 (c :: cs) with
  | ok userClass => exact absurd (Decimal.readInt32_eq_ok_iff.mp hread) (h userClass)
  | error reason => simp [readClass, hread]

/-- What stands behind the verb of a visit is the nick, as it stands. -/
theorem parse_of_visit
    {nick : String}
    {result : String → ConsoleLine}
    (hvisit : (verb, result) ∈ visits)
    (hne : nick.toList ≠ [])
    (h : LaidOut [verb.toList] nick.toList line.toList) :
    parse line = .ok (result nick) := by
  obtain ⟨rest, hparse, htrimmed, hlaid⟩ := exists_parse_eq h
  obtain rfl := (Text.laidOut_nil_iff htrimmed).mp hlaid
  rw [hparse, readVerb_visit hvisit, required_toList hne]
  rfl

theorem parse_of_request
    {result : ConsoleLine}
    (hrequest : (verb, result) ∈ requests)
    (h : StartsWith line.toList verb.toList) :
    parse line = .ok result := by
  obtain ⟨others, hwords⟩ := Text.startsWith_iff_exists_hasWords.mp h
  obtain ⟨rest, hparse, _⟩ := exists_parse_eq hwords
  rw [hparse, readVerb_request hrequest]

theorem parse_of_chat
    {nick text : String}
    (h : LaidOut ["chat".toList, nick.toList] text.toList line.toList) :
    parse line = .ok (.chat nick text) := by
  obtain ⟨rest, hparse, htrimmed, hlaid⟩ := exists_parse_eq h
  obtain ⟨hnick, behind, hsplit, htrimmed', hlaid'⟩ := exists_splitWord htrimmed hlaid
  obtain rfl := (Text.laidOut_nil_iff htrimmed').mp hlaid'
  have hread : readVerb "chat" rest = readChat rest := rfl
  rw [hparse, hread]
  simp [readChat, hsplit, required_toList hnick, bind, Except.bind, pure, Except.pure]

theorem parse_of_privateMessage
    {nick otherNick text : String}
    (h :
      LaidOut ["pm".toList, nick.toList, otherNick.toList] text.toList
        line.toList) :
    parse line = .ok (.privateMessage nick otherNick text) := by
  obtain ⟨rest, hparse, htrimmed, hlaid⟩ := exists_parse_eq h
  obtain ⟨hnick, rest', hsplit, htrimmed', hlaid'⟩ := exists_splitWord htrimmed hlaid
  obtain ⟨hother, behind, hsplit', htrimmed'', hlaid''⟩ :=
    exists_splitWord htrimmed' hlaid'
  obtain rfl := (Text.laidOut_nil_iff htrimmed'').mp hlaid''
  have hread : readVerb "pm" rest = readPrivateMessage rest := rfl
  rw [hparse, hread]
  simp [readPrivateMessage, hsplit, hsplit', required_toList hnick,
    required_toList hother, bind, Except.bind, pure, Except.pure]

theorem parse_of_command
    {nick text : String}
    {word : List Char}
    {userClass : Int32}
    (h : LaidOut ["cmd".toList, nick.toList, word] text.toList line.toList)
    (hclass : Decimal.WritesInt word userClass.toInt) :
    parse line = .ok (.command nick userClass text) := by
  obtain ⟨rest, hparse, htrimmed, hlaid⟩ := exists_parse_eq h
  obtain ⟨hnick, rest', hsplit, htrimmed', hlaid'⟩ := exists_splitWord htrimmed hlaid
  obtain ⟨_, behind, hsplit', htrimmed'', hlaid''⟩ := exists_splitWord htrimmed' hlaid'
  obtain rfl := (Text.laidOut_nil_iff htrimmed'').mp hlaid''
  have hread : readVerb "cmd" rest = readCommand rest := rfl
  rw [hparse, hread]
  simp [readCommand, hsplit, hsplit', readClass_of_writes hclass,
    required_toList hnick, bind, Except.bind, pure, Except.pure]

/-- **A line is parsed as what it says.** -/
theorem parse_of_renders
    {result : ConsoleLine}
    (h : Renders line result) :
    parse line = .ok result := by
  cases h with
  | empty hblank =>
      unfold parse
      rw [Text.trim_eq_nil_iff.mpr hblank]
      rfl
  | request hrequest hstarts => exact parse_of_request hrequest hstarts
  | @visit verb nick _ hvisit hwords =>
      have hlaid : LaidOut ([verb.toList] ++ [nick.toList]) [] line.toList := hwords
      obtain ⟨hword, hlaid⟩ := Text.laidOut_concat_iff.mp hlaid
      exact parse_of_visit hvisit hword.1 hlaid
  | chat hlaid => exact parse_of_chat hlaid
  | privateMessage hlaid => exact parse_of_privateMessage hlaid
  | command hlaid hclass => exact parse_of_command hlaid hclass

/-- A verb that needs arguments is refused without any. -/
theorem readVerb_nil
    {count : Nat}
    (h : (verb, count) ∈ needs) :
    readVerb verb [] = .error .missingArgument := by
  rcases mem_needs_iff.mp h with
    ⟨rfl, _⟩ | ⟨rfl, _⟩ | ⟨rfl, _⟩ | ⟨rfl, _⟩ | ⟨rfl, _⟩ <;> rfl

/-- A verb that needs two arguments is refused with one. -/
theorem readVerb_of_splitWord
    {nick : List Char}
    (h : (verb, 2) ∈ needs)
    (hne : nick ≠ [])
    (hsplit : splitWord rest = (nick, [])) :
    readVerb verb rest = .error .missingArgument := by
  obtain ⟨name, rfl⟩ := exists_toList_eq nick
  have hnothing : splitWord [] = ([], []) := rfl
  have hmissing : required [] = .error .missingArgument := rfl
  have hverb : verb = "pm" ∨ verb = "cmd" := by simpa [needs] using h
  rcases hverb with rfl | rfl
  · have hread : readVerb "pm" rest = readPrivateMessage rest := rfl
    rw [hread]
    simp [readPrivateMessage, hsplit, hnothing, required_toList hne, hmissing, bind,
      Except.bind]
  · have hread : readVerb "cmd" rest = readCommand rest := rfl
    rw [hread]
    simp [readCommand, hsplit, hnothing, readClass, bind, Except.bind]

theorem parse_of_missingArgument
    {count : Nat}
    {arguments : List (List Char)}
    (hneeds : (verb, count) ∈ needs)
    (hwords : HasWords line.toList (verb.toList :: arguments))
    (hmissing : arguments.length < count) :
    parse line = .error .missingArgument := by
  obtain ⟨rest, hparse, htrimmed, hlaid⟩ := exists_parse_eq hwords
  rw [hparse]
  match arguments with
  | [] =>
      obtain rfl := (Text.laidOut_nil_iff htrimmed).mp hlaid
      exact readVerb_nil hneeds
  | [nick] =>
      obtain ⟨hne, behind, hsplit, htrimmed', hlaid'⟩ := exists_splitWord htrimmed hlaid
      obtain rfl := (Text.laidOut_nil_iff htrimmed').mp hlaid'
      have htwo : count = 2 := by
        have hle := le_two_of_mem_needs hneeds
        simp only [List.length_singleton] at hmissing
        omega
      subst htwo
      exact readVerb_of_splitWord hneeds hne hsplit
  | first :: second :: others =>
      have hle := le_two_of_mem_needs hneeds
      simp only [List.length_cons] at hmissing
      omega

theorem parse_of_invalidClass
    {nick word : List Char}
    (hwords : HasWords line.toList ("cmd".toList :: nick :: word :: tokens))
    (hclass : ∀ userClass : Int32, ¬ Decimal.WritesInt word userClass.toInt) :
    parse line = .error (.invalidClass (String.ofList word)) := by
  obtain ⟨rest, hparse, htrimmed, hlaid⟩ := exists_parse_eq hwords
  obtain ⟨_, rest', hsplit, htrimmed', hlaid'⟩ := exists_splitWord htrimmed hlaid
  obtain ⟨hne, behind, hsplit', _⟩ := exists_splitWord htrimmed' hlaid'
  have hread : readVerb "cmd" rest = readCommand rest := rfl
  rw [hparse, hread]
  simp [readCommand, hsplit, hsplit', readClass_of_not_writes hne hclass, bind,
    Except.bind]

/-- **A line is refused for the reason that it gives.** -/
theorem parse_of_refuses
    {reason : ConsoleError}
    (h : Refuses line reason) :
    parse line = .error reason := by
  cases h with
  | missingArgument hneeds hwords hmissing =>
      exact parse_of_missingArgument hneeds hwords hmissing
  | invalidClass hwords hclass => exact parse_of_invalidClass hwords hclass
  | @unknownVerb verb hstarts hunknown =>
      obtain ⟨others, hwords⟩ := Text.startsWith_iff_exists_hasWords.mp hstarts
      obtain ⟨rest, hparse, _⟩ := exists_parse_eq hwords
      have hne : verb ≠ "" := by
        rintro rfl
        exact (hwords.isWord_of_mem _ List.mem_cons_self).1 rfl
      rw [hparse, readVerb_unknown hne hunknown]

/-- A crowded line is a visit of a nick that is no word. -/
theorem exists_parse_of_crowded
    (h : Crowded line) :
    ∃ verb result, ∃ nick : String,
      (verb, result) ∈ visits ∧
        parse line = .ok (result nick) ∧
        nick.toList ≠ [] ∧
        IsTrimmed nick.toList ∧
        ¬ IsWord nick.toList := by
  obtain ⟨verb, result, hvisit, first, second, rest, hwords⟩ := h
  have hall :
      LaidOut ([verb.toList] ++ first :: second :: rest) [] line.toList := hwords
  obtain ⟨kept, hkept⟩ := hall.exists_last
  obtain ⟨nick, rfl⟩ := exists_toList_eq kept
  have hsome : nick.toList ≠ [] := by
    intro hnil
    rw [hnil] at hkept
    exact absurd (hwords.eq hkept) (by simp)
  refine
    ⟨verb, result, nick, hvisit, parse_of_visit hvisit hsome hkept, hsome,
      hkept.isTrimmed, ?_⟩
  intro hword
  have hpair : HasWords line.toList ([verb.toList] ++ [nick.toList]) :=
    Text.laidOut_concat_iff.mpr ⟨hword, hkept⟩
  exact absurd (hwords.eq hpair) (by simp)

/-- What is no visit is parsed only from lines that say it. -/
theorem renders_or_crowded
    {result : ConsoleLine}
    (h : parse line = .ok result) :
    Renders line result ∨ Crowded line := by
  rcases classified line with ⟨other, hrenders⟩ | ⟨reason, hrefuses⟩ | hcrowded
  · rw [parse_of_renders hrenders] at h
    obtain rfl := Except.ok.inj h
    exact .inl hrenders
  · rw [parse_of_refuses hrefuses] at h
    exact absurd h (by simp)
  · exact .inr hcrowded

theorem renders_of_parse
    {result : ConsoleLine}
    (hother : ∀ nick, result ≠ .login nick ∧ result ≠ .logout nick)
    (h : parse line = .ok result) :
    Renders line result := by
  rcases renders_or_crowded h with hrenders | hcrowded
  · exact hrenders
  · obtain ⟨verb, visit, nick, hvisit, hparse, _⟩ := exists_parse_of_crowded hcrowded
    rw [hparse] at h
    obtain rfl := Except.ok.inj h
    rcases mem_visits_iff.mp hvisit with ⟨_, rfl⟩ | ⟨_, rfl⟩
    · exact absurd rfl (hother nick).1
    · exact absurd rfl (hother nick).2

theorem refuses_of_parse
    {reason : ConsoleError}
    (h : parse line = .error reason) :
    Refuses line reason := by
  rcases classified line with ⟨result, hrenders⟩ | ⟨other, hrefuses⟩ | hcrowded
  · rw [parse_of_renders hrenders] at h
    exact absurd h (by simp)
  · rw [parse_of_refuses hrefuses] at h
    obtain rfl := Except.error.inj h
    exact hrefuses
  · obtain ⟨verb, visit, nick, _, hparse, _⟩ := exists_parse_of_crowded hcrowded
    rw [hparse] at h
    exact absurd h (by simp)

end Parsing

section Grammar

/--
**Lines follow their grammar.**  What is no login or logout is parsed exactly from the
lines that render it, and so are a login and a logout of one word from theirs.  A line is
refused exactly for the reasons of the rules, as an input that is not valid.  Of the lines
that are not crowded, each renders something or is refused; and every user class can be
written.
-/
theorem lines_follow_their_grammar (line : String) :
    (∀ result,
        (∀ nick, result ≠ .login nick ∧ result ≠ .logout nick) →
        (parse line = .ok result ↔ Renders line result)) ∧
      (∀ result, Renders line result → parse line = .ok result) ∧
      (∀ reason, parse line = .error reason ↔ Refuses line reason) ∧
      (¬ Crowded line →
        (∃ result, Renders line result) ∨
          ∃ reason, Refuses line reason ∧ reason.toHubError.kind = .validation) ∧
      ∀ userClass : Int32,
        Decimal.WritesInt (toString userClass.toInt).toList userClass.toInt := by
  refine ⟨?_, fun result => parse_of_renders, ?_, ?_, ?_⟩
  · intro result hother
    exact ⟨renders_of_parse hother, parse_of_renders⟩
  · intro reason
    exact ⟨refuses_of_parse, parse_of_refuses⟩
  · intro hroom
    rcases classified line with hrenders | ⟨reason, hrefuses⟩ | hcrowded
    · exact .inl hrenders
    · exact .inr ⟨reason, hrefuses, rfl⟩
    · exact absurd hcrowded hroom
  · intro userClass
    exact Decimal.writesInt_toString userClass.toInt

/-- The blanks around the arguments do not matter, and those in the text are kept. -/
theorem private_message_keeps_its_blanks :
    parse " pm\u2003ann bob  two  words " =
      .ok (.privateMessage "ann" "bob" "two  words") := by
  have hline :
      " pm\u2003ann bob  two  words ".toList =
        [' '] ++ ("pm".toList ++ (['\u2003'] ++ ("ann".toList ++ ([' '] ++
          ("bob".toList ++ ([' ', ' '] ++ ("two  words".toList ++ [' ']))))))) := by
    decide +kernel
  have hlaid :
      LaidOut ["pm".toList, "ann".toList, "bob".toList] "two  words".toList
        " pm\u2003ann bob  two  words ".toList := by
    rw [hline]
    refine .word ?_ ?_ ?_ (.word ?_ ?_ ?_ (.word ?_ ?_ ?_ (.last ?_ ?_ ?_))) <;>
      decide +kernel
  exact (lines_follow_their_grammar _).2.1 _ (.privateMessage hlaid)

end Grammar

end ConsoleLine
end ScriptHub
