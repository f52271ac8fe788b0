import ScriptHub.Host.Arrival
import ScriptHub.Proofs.Host.Lines

/-!
# The host as a stream

Without a timer the console host is a left fold over its input: what it prints for a
part of the input that ends with a line is printed whatever comes next, and what comes
next is read from the state that the part left.  How the input is cut into pieces, and
when they arrive, makes no difference.

**Results.**
* `runTimed_of_untimed`: without a timer, only the bytes count.
* `conclude_append_feed`: a last line without an end is read like one with it.
* `host_is_a_fold_over_its_input`: a run on an input that is cut at the end of a line.
-/

namespace ScriptHub
namespace Host

section Arrivals

variable {settings : Settings} {interval : UInt64} {session : Session}

theorem attendAll_byte (bytes : List UInt8) :
    session.attendAll settings interval (bytes.map .byte) =
      session.feedAll settings bytes := by
  induction bytes generalizing session with
  | nil => rfl
  | cons byte rest ih =>
      simp only [List.map_cons, Session.attendAll, Session.attend, ih,
        Session.feedAll]

/-- Without a timer nothing comes but the bytes. -/
theorem stimuliOf_of_untimed
    (arrivals : List Arrival)
    (ticks : Nat) :
    stimuliOf 0 ticks arrivals =
      (arrivals.flatMap Arrival.bytes).map .byte := by
  induction arrivals generalizing ticks with
  | nil => rfl
  | cons arrival rest ih =>
      have hdue : ticksUntil (0 : UInt64).toNat arrival.elapsed = 0 := rfl
      rw [stimuliOf, Arrival.stimuli, ih, hdue, Nat.zero_sub, List.flatMap_cons,
        List.map_append]
      rfl

/-- Without a timer only the bytes of an input count. -/
theorem runTimed_of_untimed
    {config : Config}
    (untimed : config.console.timerIntervalMs = 0)
    (blockWords : List String)
    (arrivals : List Arrival) :
    runTimed config blockWords arrivals =
      runSession config blockWords (arrivals.flatMap Arrival.bytes) := by
  simp only [runTimed, runAmid, untimed, stimuliOf_of_untimed, attendAll_byte,
    runSession]

/-- However an input arrives, a run on it comes to the same. -/
def ComesTo
    (config : Config)
    (blockWords : List String)
    (input : List UInt8)
    (result : ExitCode × List Output) :
    Prop :=
  ∀ arrivals : List Arrival,
    arrivals.flatMap Arrival.bytes = input →
    runTimed config blockWords arrivals = result

theorem comesTo_of_untimed
    {config : Config}
    (untimed : config.console.timerIntervalMs = 0)
    (blockWords : List String)
    (input : List UInt8) :
    ComesTo config blockWords input (runSession config blockWords input) := by
  rintro arrivals rfl
  exact runTimed_of_untimed untimed blockWords arrivals

end Arrivals

section Cuts

open Session

variable {settings : Settings}

/-- What comes after a part of the input is read from the state that it left. -/
theorem conclude_append
    (session : Session)
    (front back : List UInt8) :
    session.conclude settings (front ++ back) =
      (((session.feedAll settings front).1.conclude settings back).1,
        (session.feedAll settings front).2 ++
          ((session.feedAll settings front).1.conclude settings back).2) := by
  simp only [conclude, feedAll_append, List.append_assoc]

/-- A session that has ended has nothing left to do. -/
theorem conclude_of_ended
    {session : Session}
    {code : ExitCode}
    (h : session.ended = some code)
    (bytes : List UInt8) :
    session.conclude settings bytes = (code, []) := by
  simp only [conclude, feedAll_of_ended h, finish, h, List.append_nil]

/-- A last line without an end is read like one with it. -/
theorem conclude_append_feed
    (session : Session)
    (bytes : List UInt8) :
    session.conclude settings (bytes ++ [lineFeed]) =
      session.conclude settings bytes := by
  have key :
      ∀ last : Session,
        last.conclude settings [lineFeed] = last.finish settings := by
    rintro ⟨machine, pending, ended⟩
    cases ended with
    | some code => rw [conclude_of_ended rfl]; rfl
    | none =>
        by_cases hnil : pending = []
        · subst hnil
          have hblank :
              ({ machine := machine } : Session).readBytes settings [] =
                ({ machine := machine }, []) := by
            rfl
          simp only [conclude, feedAll, feed_lineFeed, List.reverse_nil, hblank,
            List.nil_append]
        · obtain ⟨next, ended, outputs, hread⟩ :=
            exists_readBytes_eq settings machine pending.reverse
          simp only [conclude, feedAll, feed_lineFeed,
            finish_of_pending machine hnil, hread]
          cases ended <;> simp [finish]
  rw [conclude_append, key]
  rfl

/-- Lines that are texts and do not end a session leave it between two lines. -/
theorem readLines_of_sound
    (settings : Settings)
    (machine : HostMachine)
    {lines : List (List UInt8)}
    (sound :
      ∀ line ∈ lines,
        ∃ text,
          decode? line = some text ∧ ConsoleLine.parse text ≠ .ok .quit) :
    ∃ next,
      (({ machine := machine } : Session).readLines settings lines).1 =
        { machine := next } := by
  induction lines generalizing machine with
  | nil => exact ⟨machine, rfl⟩
  | cons line rest ih =>
      obtain ⟨text, htext, hquit⟩ := sound line (by simp)
      have hnext :
          ∃ next,
            (({ machine := machine } : Session).readBytes settings line).1 =
              { machine := next } := by
        simp only [readBytes, htext, readLine]
        cases hparse : ConsoleLine.parse text with
        | error reason => exact ⟨machine, rfl⟩
        | ok action =>
            cases action with
            | quit => exact absurd hparse hquit
            | empty => exact ⟨machine, rfl⟩
            | stats => exact ⟨machine, rfl⟩
            | _ => exact ⟨_, rfl⟩
      obtain ⟨next, hnext⟩ := hnext
      simp only [readLines, hnext]
      exact ih next fun other hother => sound other (by simp [hother])

/-- A first line that ends the session is all that is read. -/
theorem conclude_of_stop
    (machine : HostMachine)
    {bytes line : List UInt8}
    {rest : List (List UInt8)}
    (hlines : linesOf bytes = line :: rest)
    (code : ExitCode)
    (hstop :
      ({ machine := machine } : Session).readBytes settings line =
        (({ machine := machine } : Session).stop code, [])) :
    ({ machine := machine } : Session).conclude settings bytes = (code, []) := by
  rw [conclude_eq_readLines machine [] (by simp), List.reverse_nil,
    List.nil_append, hlines]
  have hended :
      (({ machine := machine } : Session).stop code).ended = some code := rfl
  simp only [readLines, hstop, readLines_of_ended hended, settled,
    List.append_nil, hended, Option.getD_some]

end Cuts

/--
**The console host is a left fold over its input.**

Let the timer be off, and let an input be cut at the end of a line, so that no line of
the first part ends the session.  The first part is a fold over its lines that leaves
the session between two lines; on its own it is all that is printed, and the second part
is read from the state that it left.  If the second part begins with a line that ends
the session, nothing more is printed, whatever follows.
-/
theorem host_is_a_fold_over_its_input
    (config : Config)
    (blockWords : List String)
    (untimed : config.console.timerIntervalMs = 0)
    (front back : List UInt8)
    (complete : front = [] ∨ front.getLast? = some Session.lineFeed)
    (sound :
      ∀ line ∈ linesOf front,
        ∃ text,
          Session.decode? line = some text ∧
            ConsoleLine.parse text ≠ .ok .quit) :
    let settings := Settings.ofConfig config.dispatcher
    let start := Session.start settings blockWords
    ∃ machine printed,
      start.feedAll settings front = ({ machine := machine }, printed) ∧
      start.readLines settings (linesOf front) =
        ({ machine := machine }, printed) ∧
      ComesTo config blockWords front (.success, printed) ∧
      ComesTo config blockWords (front ++ back)
        ((({ machine := machine } : Session).conclude settings back).1,
          printed ++
            (({ machine := machine } : Session).conclude settings back).2) ∧
      (∀ line rest,
        linesOf back = line :: rest →
        (∃ text,
          Session.decode? line = some text ∧
            ConsoleLine.parse text = .ok .quit) →
        ComesTo config blockWords (front ++ back) (.success, printed)) ∧
      (∀ line rest,
        linesOf back = line :: rest →
        Session.decode? line = none →
        ComesTo config blockWords (front ++ back) (.failure, printed)) ∧
      ∃ result,
        ComesTo config blockWords (front ++ back) result ∧
          ComesTo config blockWords (front ++ back ++ [Session.lineFeed])
            result := by
  intro settings start
  have hfold :
      start.feedAll settings front =
        start.readLines settings (linesOf front) := by
    apply Session.feedAll_eq_readLines _ [] (by simp)
    exact complete.imp_left fun hnil => ⟨hnil, rfl⟩
  obtain ⟨machine, printed, hread⟩ :
      ∃ machine printed,
        start.readLines settings (linesOf front) =
          ({ machine := machine }, printed) := by
    obtain ⟨machine, hmachine⟩ :=
      readLines_of_sound settings (machineWith settings blockWords) sound
    exact ⟨machine, _, Prod.ext hmachine rfl⟩
  have hfront : start.feedAll settings front = ({ machine := machine }, printed) :=
    hfold.trans hread
  have hcut :
      start.conclude settings (front ++ back) =
        ((({ machine := machine } : Session).conclude settings back).1,
          printed ++
            (({ machine := machine } : Session).conclude settings back).2) := by
    rw [conclude_append, hfront]
  have comes :
      ∀ input, ComesTo config blockWords input (start.conclude settings input) :=
    comesTo_of_untimed untimed blockWords
  refine
    ⟨machine, printed, hfront, hread, ?_, hcut ▸ comes _, ?_, ?_, _, comes _, ?_⟩
  · have halone : start.conclude settings front = (.success, printed) := by
      simp [Session.conclude, hfront, Session.finish]
    exact halone ▸ comes front
  · rintro line rest hlines ⟨text, htext, hquit⟩
    have hstop :
        ({ machine := machine } : Session).conclude settings back =
          (.success, []) := by
      apply conclude_of_stop machine hlines
      simp only [Session.readBytes, htext, Session.readLine, hquit]
      rfl
    rw [hstop, List.append_nil] at hcut
    exact hcut ▸ comes _
  · intro line rest hlines hinvalid
    have hstop :
        ({ machine := machine } : Session).conclude settings back =
          (.failure, []) := by
      apply conclude_of_stop machine hlines
      simp only [Session.readBytes, hinvalid]
    rw [hstop, List.append_nil] at hcut
    exact hcut ▸ comes _
  · rw [← conclude_append_feed]
    exact comes _

/--
A message is blocked and the session ends; what follows is not read, though it is no
text.
-/
theorem host_stops_reading_at_quit :
    ComesTo { console := ⟨0⟩ } ["spam"]
      ("chat ann spam\n".toUTF8.toList ++ ("quit\n".toUTF8.toList ++ [255, 10]))
      (.success, [.answer "block"]) := by
  let front := "chat ann spam\n".toUTF8.toList
  have hlines : linesOf front = ["chat ann spam".toUTF8.toList] := by
    decide +kernel
  have hback :
      linesOf ("quit\n".toUTF8.toList ++ [255, 10]) =
        ["quit".toUTF8.toList, [255]] := by
    decide +kernel
  obtain ⟨machine, printed, _, _, halone, _, hquit, _⟩ :=
    host_is_a_fold_over_its_input { console := ⟨0⟩ } ["spam"] rfl front
      ("quit\n".toUTF8.toList ++ [255, 10]) (.inr (by decide +kernel))
      (by
        intro line hline
        rw [hlines, List.mem_singleton] at hline
        subst hline
        exact ⟨"chat ann spam", by decide +kernel, by decide +kernel⟩)
  have hprinted : printed = [.answer "block"] := by
    have hrun :
        runTimed { console := ⟨0⟩ } ["spam"] [⟨0, front⟩] =
          (.success, [.answer "block"]) := by
      decide +kernel
    have hsame := (halone [⟨0, front⟩] (by simp)).symm.trans hrun
    exact congrArg Prod.snd hsame
  rw [← hprinted]
  exact hquit _ _ hback ⟨"quit", by decide +kernel, by decide +kernel⟩

end Host
end ScriptHub
