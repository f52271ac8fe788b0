import ScriptHub.Host.EntryPoint
import ScriptHub.Proofs.Host.Transcript
import ScriptHub.Proofs.Text.Excerpt

/-!
# What the word filter catches

A word and a message are lower-cased apart from each other, and then the word is looked
for.  A word that a message holds as it stands is found wherever its capital sigmas end
words in the message as in the word.  Elsewhere it can be missed: with a letter behind it,
a word that ends in a capital sigma has another lower-case form in the message.

**Results.**
* `chatVerdict`, `pmVerdict`: what a hub that holds the built-in scripts alone answers.
* `verdictOn_raise`: it answers by what the words of the filter are.
* `filter_catches_kept_occurrences`: which words are caught.
* `occurrence_before_letter_is_missed`: an occurrence that is not.
-/

namespace ScriptHub
namespace Host

section Hubs

/-- A hub on which built-in scripts run, with a notifier of its own. -/
def hubOf (settings : Settings) (notifier : Notifier) : Setup Builtin Unit Empty :=
  { setupOf settings with notifier := notifier }

/-- What a hub answers once nothing but the built-in scripts is registered. -/
def verdictOn
    (settings : Settings)
    (notifier : Notifier)
    (blockWords : List String)
    (code : HostCode Verdict) :
    Flow (Except String Verdict) :=
  let hub := hubOf settings notifier
  let (_, equipped) := hub.runHost room (Builtin.install id blockWords) (.fresh ())
  (hub.runHost room code equipped).1

/-- What such a hub answers to a message in the main chat. -/
def chatVerdict
    (settings : Settings)
    (notifier : Notifier)
    (blockWords : List String)
    (nick message : String) :
    Flow (Except String Verdict) :=
  verdictOn settings notifier blockWords
    (Code.ask (EntryPoint.onParsedMsgChat nick message))

/-- What such a hub answers to a private message. -/
def pmVerdict
    (settings : Settings)
    (notifier : Notifier)
    (blockWords : List String)
    (nick message otherNick : String) :
    Flow (Except String Verdict) :=
  verdictOn settings notifier blockWords
    (Code.ask (EntryPoint.onParsedMsgPm nick message otherNick))

variable (settings : Settings) (notifier : Notifier) (blockWords : List String)

/-- Registering scripts notifies nobody. -/
theorem runHost_registerAll (specs : List (Spec Builtin)) :
    (hubOf settings notifier).runHost room
        (Builtin.registerAll specs : HostCode Unit) =
      (setupOf settings).runHost room (Builtin.registerAll specs) := by
  have hsettings : (hubOf settings notifier).settings = (setupOf settings).settings :=
    rfl
  have hregister :
      ∀ spec : Spec Builtin,
        Run.answer (hubOf settings notifier)
            ((hubOf settings notifier).scripts room 0) (.register spec) =
          Run.answer (setupOf settings) ((setupOf settings).scripts room 0)
            (.register spec) := by
    intro spec
    simp only [Run.answer, Run.perform, hsettings]
  unfold Setup.runHost
  induction specs with
  | nil => simp only [Builtin.registerAll, Code.done, Code.run]
  | cons spec rest ih => simp only [Builtin.registerAll, Code.run, hregister, ih]

/-- A built-in handler decides alike, whoever is notified. -/
theorem hubOf_decides (builtin : Builtin) (event : Event) :
    (hubOf settings notifier).Decides builtin event (outcome builtin event) where
  concludes := (decides settings builtin event).concludes
  caught := (decides settings builtin event).caught

/-- An event in which a word can be found is answered by the words of the filter. -/
theorem verdictOn_raise
    {event : Event}
    {message : String}
    (hfiltered : Builtin.filteredText? event = some message) :
    ∃ verdict,
      verdictOn settings notifier blockWords (Code.ask (Call.raise event)) =
          .returned (.ok verdict) ∧
        (verdict = .block ↔ Offends blockWords message) := by
  let hub := hubOf settings notifier
  let equipped := machineWith settings blockWords
  let call : DispatchCall hub := ⟨room, 0, event, equipped⟩
  have serves := serves_start settings blockWords
  obtain ⟨logging, hlive⟩ := serves.live
  have decided : call.IsDecided outcome :=
    fun _ _ handler _ => hubOf_decides settings notifier handler event
  obtain ⟨result, hflow, htells⟩ := decided.returns serves.sound Nat.one_pos
  have hdispatch :
      Run.dispatch hub.settings (hub.scripts room 0) event equipped =
        (.returned result, call.stop) :=
    Prod.ext hflow rfl
  have hraise :
      Run.raise hub (hub.scripts room 0) event equipped =
        (.returned result.verdict, call.stop) := by
    refine Run.raise_of_dispatched ?_ hdispatch
    cases event with
    | hubCommand nick command userClass inPm trigger =>
        exact absurd hfiltered (by simp [Builtin.filteredText?])
    | _ => simp [Event.kind]
  have hequipped :
      (hub.runHost room (Builtin.install id blockWords) (.fresh ())).2 = equipped := by
    unfold equipped machineWith Builtin.install
    rw [runHost_registerAll]
  refine ⟨result.verdict, ?_, ?_⟩
  · unfold verdictOn
    simp only [hub, equipped] at hequipped hraise ⊢
    rw [hequipped]
    simp only [Setup.runHost, Code.ask, Code.done, Code.run, Run.answer,
      Run.perform, bind, Run.andThen, Run.observe, hraise]
    rfl
  · rw [htells.verdict_iff, ← Dispatcher.vetoes_iff, ← offends_iff hfiltered]
    exact (vetoes_iff hlive event).trans (by simp)

end Hubs

section Occurrences

/-- A word that a message holds with its sigmas kept offends. -/
theorem offends_of_keepsSigmas
    {blockWords : List String}
    {word message : String}
    {before after : List Char}
    (hmem : word ∈ blockWords)
    (hne : Text.trim word.toList ≠ [])
    (hmessage : message.toList = before ++ (Text.trim word.toList ++ after))
    (keeps : Text.KeepsSigmas before (Text.trim word.toList) after) :
    Offends blockWords message := by
  refine ⟨word, hmem, ?_, ?_⟩
  · rwa [Ne, Text.lower_eq_nil_iff]
  · rw [hmessage]
    exact Text.lower_isInfix keeps

/--
**What the word filter catches.**

A hub that holds the built-in scripts alone answers a message in the main chat and a
private message with one verdict.  It blocks them exactly if a word of the filter, trimmed
and lower-cased, occurs in the lower-cased message.  A word that the message holds as it
stands is among these where the capital sigmas of the word end words in the message as
they do in the word.
-/
theorem filter_catches_kept_occurrences
    (settings : Settings)
    (notifier : Notifier)
    (blockWords : List String)
    (nick message otherNick : String) :
    ∃ verdict,
      chatVerdict settings notifier blockWords nick message =
          .returned (.ok verdict) ∧
        pmVerdict settings notifier blockWords nick message otherNick =
          .returned (.ok verdict) ∧
        (verdict = .block ↔ Offends blockWords message) ∧
        ∀ word ∈ blockWords, ∀ before after,
          Text.trim word.toList ≠ [] →
          message.toList = before ++ (Text.trim word.toList ++ after) →
          Text.KeepsSigmas before (Text.trim word.toList) after →
          verdict = .block := by
  obtain ⟨verdict, hchat, hverdict⟩ :=
    verdictOn_raise settings notifier blockWords
      (show Builtin.filteredText? (.chat nick message) = some message from rfl)
  obtain ⟨twin, hpm, htwin⟩ :=
    verdictOn_raise settings notifier blockWords
      (show Builtin.filteredText? (.privateMessage nick message otherNick) =
        some message from rfl)
  obtain rfl : twin = verdict := Verdict.eq_of_block_iff (htwin.trans hverdict.symm)
  refine ⟨twin, hchat, hpm, hverdict, ?_⟩
  intro word hmem before after hne hmessage keeps
  exact hverdict.mpr (offends_of_keepsSigmas hmem hne hmessage keeps)

/-- A word that ends in a sigma is caught before a full stop, where it is a word as well. -/
theorem final_sigma_before_full_stop_is_caught :
    chatVerdict {} .accepting [" ΟΔΟΣ "] "ann" "Η ΟΔΟΣ." = .returned (.ok .block) ∧
      pmVerdict {} .accepting [" ΟΔΟΣ "] "ann" "Η ΟΔΟΣ." "bob" =
        .returned (.ok .block) := by
  obtain ⟨verdict, hchat, hpm, _, hkept⟩ :=
    filter_catches_kept_occurrences {} .accepting [" ΟΔΟΣ "] "ann" "Η ΟΔΟΣ." "bob"
  obtain rfl : verdict = .block :=
    hkept " ΟΔΟΣ " (by simp) ['Η', ' '] ['.'] (by decide +kernel) (by decide +kernel)
      (by decide +kernel)
  exact ⟨hchat, hpm⟩

/--
The message holds the word as it stands, yet it is let through: the sigma at the end of
the word is followed by a letter in the message, and its lower-case form is another one.
-/
theorem occurrence_before_letter_is_missed :
    Text.trim "ΟΔΟΣ".toList ≠ [] ∧
      Text.trim "ΟΔΟΣ".toList <:+: "ΟΔΟΣΑ".toList ∧
      chatVerdict {} .accepting ["ΟΔΟΣ"] "ann" "ΟΔΟΣΑ" = .returned (.ok .allow) ∧
      pmVerdict {} .accepting ["ΟΔΟΣ"] "ann" "ΟΔΟΣΑ" "bob" =
        .returned (.ok .allow) := by
  decide +kernel

end Occurrences

end Host
end ScriptHub
