import ScriptHub.Host.Arrival
import ScriptHub.Proofs.Host.Transcript

/-!
# The verdicts of a session

A session carries out its lines one after the other, whenever ticks come between their
bytes.  What it prints is what the lines tell, and the flag that they tell is that of the
word filter.

**Results.**
* `Serves.readLine`: a session carries out a line.
* `yields_attendAll`: it carries out lines, one after the other, amid ticks.
* `verdicts_follow_words_and_toggles`: what a whole session prints.
-/

namespace ScriptHub
namespace Host

open AdminCommand

section Lines

variable {settings : Settings} {blockWords : List String} {filtering : Bool}
variable {machine : HostMachine}

/-- What is looked up under the id of the word filter. -/
theorem Serves.filter
    {words : List (List Char)}
    (h : Serves words filtering machine) :
    machine.state.find? 2 =
      if words = [] then none else some (filterOf words filtering) := by
  obtain ⟨logging, hlive⟩ := h.live
  unfold Dispatcher.find?
  rw [hlive]
  unfold installed
  split <;> rfl

/-- A line that raises an event is carried out by raising it. -/
theorem readLine_of_event
    {text : String}
    {line : ConsoleLine}
    {event : Event}
    (hparse : ConsoleLine.parse text = .ok line)
    (hevent : eventOf? line = some event)
    (session : Session) :
    session.readLine settings text = session.raise settings event := by
  simp only [Session.readLine, hparse]
  cases line with
  | empty | stats | quit => exact absurd hevent (by simp [eventOf?])
  | _ => simp only [Session.carryOut, hevent]

/-- What is printed for an event that is answered by a verdict. -/
theorem raise_of_raiseOn
    {event : Event}
    {verdict : Verdict}
    {after : HostMachine}
    (h : raiseOn settings event machine = (.returned (.ok verdict), after)) :
    ({ machine := machine } : Session).raise settings event =
      ({ machine := after }, noticesOf after ++ [.answer verdict.name]) := by
  simp only [Session.raise, h, verdictLines]

/-- A line that raises another event than a hub command prints a verdict. -/
theorem Serves.readLine_of_event
    (h : Serves (Builtin.filterWords blockWords) filtering machine)
    (settings : Settings)
    {text : String}
    {line : ConsoleLine}
    {event : Event}
    (hparse : ConsoleLine.parse text = .ok line)
    (hevent : eventOf? line = some event)
    (other :
      ∀ nick command userClass inPm trigger,
        event ≠ .hubCommand nick command userClass inPm trigger) :
    ∃ after printed,
      ({ machine := machine } : Session).readLine settings text =
          ({ machine := after }, printed) ∧
        Serves (Builtin.filterWords blockWords) filtering after ∧
        PrintsVerdict []
          (filtering = true ∧
            Builtin.offends (Builtin.filterWords blockWords) event = true)
          printed := by
  obtain ⟨verdict, after, hraise, serves, hsilent, hverdict⟩ :=
    h.raise settings other
  refine ⟨after, [.answer verdict.name], ?_, serves, verdict, rfl, hverdict⟩
  rw [Host.readLine_of_event hparse hevent, raise_of_raiseOn hraise, hsilent,
    List.nil_append]

/-- A hub command gives the word filter the flag that it names, and prints a verdict. -/
theorem Serves.readLine_of_command
    (h : Serves (Builtin.filterWords blockWords) filtering machine)
    (settings : Settings)
    {text nick command : String}
    {userClass : Int32}
    (hparse : ConsoleLine.parse text = .ok (.command nick userClass command)) :
    ∃ after printed,
      ({ machine := machine } : Session).readLine settings text =
          ({ machine := after }, printed) ∧
        Serves (Builtin.filterWords blockWords)
          ((toggleIn settings userClass command).getD filtering) after ∧
        ∃ notices : List String,
          PrintsVerdict (notices.map fun notice => noticeLine (nick, notice))
            ((Text.words command.toList).head? = some settings.adminWord.toList)
            printed := by
  obtain
    ⟨verdict, after, notices, hraise, hnotices, hverdict, htoggles, hkeeps⟩ :=
    h.raise_command settings nick command userClass
  rw [addressed_iff] at hverdict
  refine
    ⟨after, noticesOf after ++ [.answer verdict.name], ?_, ?_, notices, verdict,
      ?_, hverdict⟩
  · rw [Host.readLine_of_event hparse rfl, raise_of_raiseOn hraise]
  · cases htoggle : toggleIn settings userClass command with
    | some enabled =>
        obtain ⟨high, toggles⟩ := toggleIn_eq_some_iff.mp htoggle
        exact htoggles enabled high toggles
    | none =>
        apply hkeeps
        by_contra hother
        simp only [not_or, not_forall, not_not] at hother
        obtain ⟨high, enabled, toggles⟩ := hother
        rw [toggleIn_eq_some_iff.mpr ⟨high, toggles⟩] at htoggle
        exact absurd htoggle (by simp)
  · rw [hnotices]

/-- **A session carries out a line** that does not end it. -/
theorem Serves.readLine
    (h : Serves (Builtin.filterWords blockWords) filtering machine)
    (settings : Settings)
    {text : String}
    (stays : ConsoleLine.parse text ≠ .ok .quit) :
    ∃ after printed,
      ({ machine := machine } : Session).readLine settings text =
          ({ machine := after }, printed) ∧
        Serves (Builtin.filterWords blockWords)
          ((toggleOf settings text).getD filtering) after ∧
        Prints settings blockWords filtering text printed := by
  unfold toggleOf
  cases hparse : ConsoleLine.parse text with
  | error reason =>
      refine ⟨machine, _, ?_, h, .malformed reason hparse⟩
      simp only [Session.readLine, hparse]
  | ok line =>
      have carriesOut (session : Session) :
          session.readLine settings text = session.carryOut settings line := by
        simp only [Session.readLine, hparse]
      cases line with
      | empty => exact ⟨machine, _, carriesOut _, h, .empty hparse⟩
      | stats => exact ⟨machine, _, carriesOut _, h, .stats _ hparse⟩
      | quit => exact absurd hparse stays
      | chat nick message =>
          obtain ⟨after, printed, hline, serves, hprints⟩ :=
            h.readLine_of_event settings hparse rfl (by simp)
          rw [offends_iff rfl] at hprints
          exact ⟨after, printed, hline, serves, .chat _ _ _ hparse hprints⟩
      | privateMessage nick otherNick message =>
          obtain ⟨after, printed, hline, serves, hprints⟩ :=
            h.readLine_of_event settings hparse rfl (by simp)
          rw [offends_iff rfl] at hprints
          exact
            ⟨after, printed, hline, serves,
              .privateMessage _ _ _ _ hparse hprints⟩
      | login nick =>
          obtain ⟨after, printed, hline, serves, hprints⟩ :=
            h.readLine_of_event settings hparse rfl (by simp)
          obtain rfl := hprints.allow (by simp [Builtin.offends, Builtin.filteredText?])
          exact ⟨after, _, hline, serves, .login nick hparse⟩
      | logout nick =>
          obtain ⟨after, printed, hline, serves, hprints⟩ :=
            h.readLine_of_event settings hparse rfl (by simp)
          obtain rfl := hprints.allow (by simp [Builtin.offends, Builtin.filteredText?])
          exact ⟨after, _, hline, serves, .logout nick hparse⟩
      | command nick userClass command =>
          obtain ⟨after, printed, hline, serves, notices, hprints⟩ :=
            h.readLine_of_command settings hparse
          exact
            ⟨after, printed, hline, serves,
              .command _ _ _ notices _ hparse hprints⟩

end Lines

section Runs

open Session

variable {settings : Settings} {blockWords : List String} {filtering : Bool}
variable {interval : UInt64} {machine : HostMachine}
variable {text : String} {texts : List String}

/-- An input ends where a line ends. -/
def Complete (input : List UInt8) : Prop :=
  input = [] ∨ input.getLast? = some lineFeed

/--
What a session comes to that takes an input, of which the lines are texts.

What is printed, also at the end of the input, is printed line by line.  Between two
lines the flag of the word filter is that of the lines.
-/
structure Yields
    (settings : Settings)
    (blockWords : List String)
    (filtering : Bool)
    (input : List UInt8)
    (texts : List String)
    (ending : Session × List Output) :
    Prop where
  prints :
    ∃ printed more,
      ending.1.finish settings = (.success, more) ∧
        ending.2 ++ more = printed.flatten ∧
        Transcribes settings blockWords filtering (beforeQuit texts) printed
  serves :
    Complete input →
    (∀ text ∈ texts, ConsoleLine.parse text ≠ .ok .quit) →
    ∃ machine,
      ending.1 = { machine := machine } ∧
        Serves (Builtin.filterWords blockWords)
          (flagAfter settings filtering texts) machine

/-- Without an input nothing is printed. -/
theorem yields_nothing
    (h : Serves (Builtin.filterWords blockWords) filtering machine) :
    Yields settings blockWords filtering [] [] ({ machine := machine }, []) where
  prints := ⟨[], [], rfl, rfl, transcribes_nil⟩
  serves := fun _ _ => ⟨machine, rfl, h⟩

/-- Nothing is read behind a line that ends the session. -/
theorem yields_of_quit
    (quits : ConsoleLine.parse text = .ok .quit)
    (input : List UInt8)
    (session : Session) :
    Yields settings blockWords filtering input (text :: texts)
      (session.stop .success, []) where
  prints := by
    refine ⟨[], [], rfl, rfl, ?_⟩
    rw [beforeQuit_of_quit quits]
    exact transcribes_nil
  serves := by
    intro _ stays
    exact absurd quits (stays text List.mem_cons_self)

/-- What is printed for a line comes before what is printed for the rest. -/
theorem Yields.cons
    {input : List UInt8}
    {outputs : List Output}
    {ending : Session × List Output}
    (stays : ConsoleLine.parse text ≠ .ok .quit)
    (first : Prints settings blockWords filtering text outputs)
    (rest :
      Yields settings blockWords ((toggleOf settings text).getD filtering)
        input texts ending)
    (front : List UInt8) :
    Yields settings blockWords filtering
      (front ++ lineFeed :: input) (text :: texts)
      (ending.1, outputs ++ ending.2) where
  prints := by
    obtain ⟨printed, more, hfinish, hprinted, htranscribes⟩ := rest.prints
    refine ⟨outputs :: printed, more, hfinish, ?_, ?_⟩
    · rw [List.append_assoc, hprinted, List.flatten_cons]
    · rw [beforeQuit_cons stays]
      exact htranscribes.cons first
  serves := by
    intro complete hstays
    rw [flagAfter_cons]
    apply rest.serves
    · cases input with
      | nil => exact .inl rfl
      | cons byte input =>
          right
          simpa [Complete] using complete
    · intro other hmem
      exact hstays other (List.mem_cons_of_mem _ hmem)

theorem readBytes_of_decode
    {line : List UInt8}
    (decoded : decode? line = some text) :
    ({ machine := machine } : Session).readBytes settings line =
      ({ machine := machine } : Session).readLine settings text := by
  simp only [Session.readBytes, decoded]

theorem readLine_of_quit
    (quits : ConsoleLine.parse text = .ok .quit)
    (session : Session) :
    session.readLine settings text = (session.stop .success, []) := by
  simp only [Session.readLine, quits]
  rfl

/-- A last line without an end is carried out at the end of the input. -/
theorem yields_of_pending
    {pending : List UInt8}
    (h : Serves (Builtin.filterWords blockWords) filtering machine)
    (unfinished : lineFeed ∉ pending.reverse)
    (hne : pending ≠ [])
    (decoded : decode? pending.reverse = some text) :
    Yields settings blockWords filtering pending.reverse [text]
      ({ machine := machine, line := pending }, []) where
  prints := by
    have hfinish :
        ({ machine := machine, line := pending } : Session).finish settings = _ :=
      finish_of_pending machine hne
    rw [readBytes_of_decode decoded] at hfinish
    by_cases quits : ConsoleLine.parse text = .ok .quit
    · rw [readLine_of_quit quits] at hfinish
      refine ⟨[], [], hfinish, rfl, ?_⟩
      rw [beforeQuit_of_quit quits]
      exact transcribes_nil
    · obtain ⟨after, outputs, hline, _, prints⟩ := h.readLine settings quits
      rw [hline] at hfinish
      refine ⟨[outputs], outputs, hfinish, by simp, ?_⟩
      rw [beforeQuit_cons quits]
      exact transcribes_nil.cons prints
  serves := by
    intro complete
    rcases complete with hnil | hlast
    · exact absurd hnil (by simpa using hne)
    · exact absurd (List.mem_of_getLast? hlast) unfinished

/-- A tick leaves the word filter as it is. -/
theorem Serves.tick
    (h : Serves (Builtin.filterWords blockWords) filtering machine)
    (settings : Settings)
    (interval : UInt64)
    (pending : List UInt8) :
    ∃ after,
      ({ machine := machine, line := pending } : Session).tick settings interval =
          { machine := after, line := pending } ∧
        Serves (Builtin.filterWords blockWords) filtering after := by
  have other :
      ∀ nick command userClass inPm trigger,
        Event.timer interval ≠
          .hubCommand nick command userClass inPm trigger := by
    simp
  obtain ⟨verdict, after, hraise, serves, _⟩ := h.raise settings other
  refine ⟨after, ?_, serves⟩
  simp only [Session.tick, Session.raise, hraise]

theorem attendAll_of_ended
    {session : Session}
    {code : ExitCode}
    (h : session.ended = some code)
    (stimuli : List Stimulus) :
    session.attendAll settings interval stimuli = (session, []) := by
  induction stimuli with
  | nil => rfl
  | cons stimulus rest ih =>
      cases stimulus <;>
        simp only [Session.attendAll, Session.attend, Session.tick, Session.feed,
          h, ih, List.append_nil]

/-- The end of a line has the line carried out before the rest is taken. -/
theorem yields_of_lineFeed
    {pending input : List UInt8}
    {stimuli : List Stimulus}
    (h : Serves (Builtin.filterWords blockWords) filtering machine)
    (decoded : decode? pending.reverse = some text)
    (behind :
      ∀ after flag,
        Serves (Builtin.filterWords blockWords) flag after →
        Yields settings blockWords flag input texts
          (({ machine := after } : Session).attendAll settings interval
            stimuli)) :
    Yields settings blockWords filtering (pending.reverse ++ lineFeed :: input)
      (text :: texts)
      (({ machine := machine, line := pending } : Session).attendAll settings
        interval (.byte lineFeed :: stimuli)) := by
  simp only [attendAll, attend, feed_lineFeed, readBytes_of_decode decoded]
  by_cases quits : ConsoleLine.parse text = .ok .quit
  · rw [readLine_of_quit quits, attendAll_of_ended rfl]
    exact yields_of_quit quits _ _
  · obtain ⟨after, outputs, hline, serves, prints⟩ :=
      h.readLine settings quits
    rw [hline]
    exact (behind after _ serves).cons quits prints _

/-- **A session carries out the lines of its input**, one after the other. -/
theorem yields_attendAll
    (stimuli : List Stimulus)
    (pending : List UInt8)
    (h : Serves (Builtin.filterWords blockWords) filtering machine)
    (unfinished : lineFeed ∉ pending.reverse)
    (decoded :
      (linesOf (pending.reverse ++ stimuli.filterMap Stimulus.byte?)).map
          decode? =
        texts.map some) :
    Yields settings blockWords filtering
      (pending.reverse ++ stimuli.filterMap Stimulus.byte?) texts
      (({ machine := machine, line := pending } : Session).attendAll settings
        interval stimuli) := by
  -- The flag changes with the lines, so it is generalized together with the machine.
  induction stimuli generalizing machine pending filtering texts with
  | nil =>
      rw [List.filterMap_nil, List.append_nil] at decoded ⊢
      by_cases hnil : pending = []
      · subst hnil
        obtain rfl : texts = [] := by simpa [linesOf] using decoded.symm
        exact yields_nothing h
      · rw [linesOf_of_not_mem unfinished (by simpa using hnil)] at decoded
        obtain ⟨text, rfl, htext⟩ := List.map_eq_singleton_iff.mp decoded.symm
        exact yields_of_pending h unfinished hnil htext.symm
  | cons stimulus rest ih =>
      cases stimulus with
      | tick =>
          obtain ⟨after, htick, serves⟩ :=
            h.tick settings interval pending
          simp only [attendAll, attend, htick, List.nil_append]
          exact ih pending serves unfinished decoded
      | byte value =>
          have hbytes :
              (Stimulus.byte value :: rest).filterMap Stimulus.byte? =
                value :: rest.filterMap Stimulus.byte? :=
            rfl
          rw [hbytes] at decoded ⊢
          by_cases hend : value = lineFeed
          · subst hend
            rw [linesOf_append_feed unfinished] at decoded
            obtain ⟨text, others, rfl, htext, hothers⟩ :=
              List.map_eq_cons_iff.mp decoded.symm
            apply yields_of_lineFeed h htext.symm
            intro after flag serves
            exact ih [] serves (by simp) hothers.symm
          · -- Another byte is pending, and the lines are the same.
            have hlonger :
                (value :: pending).reverse ++ rest.filterMap Stimulus.byte? =
                  pending.reverse ++ value :: rest.filterMap Stimulus.byte? := by
              rw [List.reverse_cons, List.append_assoc]
              rfl
            simp only [attendAll, attend, feed_of_ne machine hend,
              List.nil_append]
            rw [← hlonger] at decoded ⊢
            apply ih (value :: pending) h ?_ decoded
            simp [Ne.symm hend, List.mem_reverse.not.mp unfinished]

end Runs

/--
**What a session prints is told by its lines.**

Whatever the configuration and the words of the filter, and whenever ticks come: if every
line of the input is a text, the session succeeds, and what it prints is printed line by
line up to the first line that ends it.  A chat or private message is blocked exactly if
a word of the filter occurs in it and the flag of the word filter, which the earlier lines
tell, is set; a command is blocked exactly if its first word is the command word.  Between
two lines the flag so told is that of the script with id 2, which is present exactly if
some word is more than blanks.
-/
theorem verdicts_follow_words_and_toggles
    (config : Config)
    (blockWords : List String)
    (stimuli : List Stimulus)
    (texts : List String)
    (decoded :
      (linesOf (stimuli.filterMap Stimulus.byte?)).map Session.decode? =
        texts.map some) :
    let settings := Settings.ofConfig config.dispatcher
    (∃ printed,
      runAmid config blockWords stimuli = (.success, printed.flatten) ∧
        Transcribes settings blockWords true (beforeQuit texts) printed) ∧
      ∀ past rest heard,
        stimuli = past ++ rest →
        Complete (past.filterMap Stimulus.byte?) →
        (linesOf (past.filterMap Stimulus.byte?)).map Session.decode? =
          heard.map some →
        (∀ text ∈ heard, ConsoleLine.parse text ≠ .ok .quit) →
        ∃ machine,
          ((Session.start settings blockWords).attendAll settings
              config.console.timerIntervalMs past).1 =
              { machine := machine } ∧
            (machine.state.find? 2).map
                (fun script => (script.spec.name, script.enabled)) =
              if hasWord blockWords then
                some ("WordFilter", flagAfter settings true heard)
              else
                none := by
  intro settings
  let interval := config.console.timerIntervalMs
  let start := Session.start settings blockWords
  have yields :
      ∀ past heard,
        (linesOf (past.filterMap Stimulus.byte?)).map Session.decode? =
          heard.map some →
        Yields settings blockWords true (past.filterMap Stimulus.byte?) heard
          (start.attendAll settings interval past) := by
    intro past heard hheard
    exact
      yields_attendAll past [] (serves_start settings blockWords) (by simp) hheard
  constructor
  · obtain ⟨printed, more, hfinish, hprinted, htranscribes⟩ :=
      (yields stimuli texts decoded).prints
    refine ⟨printed, ?_, htranscribes⟩
    have hrun :
        runAmid config blockWords stimuli =
          (((start.attendAll settings interval stimuli).1.finish settings).1,
            (start.attendAll settings interval stimuli).2 ++
              ((start.attendAll settings interval stimuli).1.finish
                settings).2) :=
      rfl
    rw [hrun, hfinish, hprinted]
  · intro past rest heard _ complete hheard stays
    obtain ⟨machine, hmachine, serves⟩ :=
      (yields past heard hheard).serves complete stays
    refine ⟨machine, hmachine, ?_⟩
    rw [serves.filter]
    cases hwords : hasWord blockWords with
    | false =>
        rw [if_pos (filterWords_eq_nil_iff.mpr hwords)]
        rfl
    | true =>
        rw [if_neg (by simp [filterWords_eq_nil_iff, hwords])]
        rfl

/-!
An operator turns the word filter off and on again; a user may not.
-/

namespace Moderated

/-- The words of the filter. -/
def blockWords : List String :=
  [" Spam ", " "]

/-- The lines up to the one that turns the filter off. -/
def opening : List String :=
  ["chat ann buy SPAM", "cmd op 10 dispatcher Disable 002"]

/-- The lines that follow. -/
def rest : List String :=
  ["chat ann spam", "cmd ann 3 dispatcher enable 2", "pm ann bob spam",
    "cmd op 10 dispatcher ENABLE +2 please", "pm ann bob spam", "quit",
    "chat ann spam"]

/-- What comes for lines: each of them, and a tick before it. -/
def stimuliFor (texts : List String) : List Stimulus :=
  texts.flatMap fun text =>
    .tick :: (text ++ "\n").toUTF8.toList.map .byte

/-- The machine when the filter is off. -/
def after : HostMachine :=
  ((Session.start (Settings.ofConfig {}) blockWords).attendAll
    (Settings.ofConfig {}) ({} : Config).console.timerIntervalMs
    (stimuliFor opening)).1.machine

end Moderated

/--
The message is blocked, let through while the filter is off, and blocked once it is on.
-/
theorem verdicts_of_moderated_session :
    (∃ printed,
      Transcribes (Settings.ofConfig {}) Moderated.blockWords true
          (Moderated.opening ++ Moderated.rest.take 5) printed ∧
        printed.flatten =
          [.answer "block",
            .answer "[pm -> op] Script ID 2 disabled", .answer "block",
            .answer "allow",
            .answer "[pm -> ann] Permission denied. Master class required.",
            .answer "block",
            .answer "allow",
            .answer "[pm -> op] Script ID 2 enabled", .answer "block",
            .answer "block"]) ∧
      (Moderated.after.state.find? 2).map
          (fun script => (script.spec.name, script.enabled)) =
        some ("WordFilter", false) := by
  obtain ⟨⟨printed, hrun, htranscribes⟩, hstate⟩ :=
    verdicts_follow_words_and_toggles {} Moderated.blockWords
      (Moderated.stimuliFor Moderated.opening ++
        Moderated.stimuliFor Moderated.rest)
      (Moderated.opening ++ Moderated.rest) (by decide +kernel)
  constructor
  · refine ⟨printed, ?_, ?_⟩
    · have hheard :
          beforeQuit (Moderated.opening ++ Moderated.rest) =
            Moderated.opening ++ Moderated.rest.take 5 := by
        decide +kernel
      rw [hheard] at htranscribes
      exact htranscribes
    · refine (congrArg Prod.snd hrun).symm.trans ?_
      decide +kernel
  · obtain ⟨machine, hmachine, hfilter⟩ :=
      hstate (Moderated.stimuliFor Moderated.opening)
        (Moderated.stimuliFor Moderated.rest) Moderated.opening rfl
        (.inr (by decide +kernel)) (by decide +kernel) (by decide +kernel)
    have hafter : Moderated.after = machine :=
      congrArg Session.machine hmachine
    rw [hafter, hfilter]
    decide +kernel

/--
Words that follow the id do not matter: the command has four words, of which the first
three turn the filter off, so that a message is let through in which a word occurs.
-/
theorem word_after_id_is_passed_over :
    ConsoleLine.parse "cmd root 10 dispatcher disable 2 now" =
        .ok (.command "root" 10 "dispatcher disable 2 now") ∧
      (¬ ∃ subcommand digits,
        Text.words "dispatcher disable 2 now".toList =
          ["dispatcher".toList, subcommand, digits]) ∧
      Offends ["spam"] "spam" ∧
      runAmid {} ["spam"]
          (Moderated.stimuliFor
            ["cmd root 10 dispatcher disable 2 now", "chat ann spam"]) =
        (.success,
          [.answer "[pm -> root] Script ID 2 disabled", .answer "block",
            .answer "allow"]) := by
  have hwords :
      Text.words "dispatcher disable 2 now".toList =
        ["dispatcher".toList, "disable".toList, "2".toList, "now".toList] := by
    decide +kernel
  refine ⟨by decide +kernel, ?_, ?_, by decide +kernel⟩
  · rintro ⟨subcommand, digits, h⟩
    rw [hwords] at h
    exact absurd (congrArg List.length h) (by simp)
  · exact ⟨"spam", by simp, by decide +kernel, by decide +kernel⟩

end Host
end ScriptHub
