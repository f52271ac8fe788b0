import ScriptHub.Proofs.Admin.Grammar
import ScriptHub.Proofs.Run.History

/-!
# What the administrative surface shows and changes

The surface answers a caller by a verdict and by notices.  Sending notices changes
no registration, so what the surface changes is what the command changes that it
carries out; a caller of too low a class is refused before any is.

**Results.**
* `Machine.Notifies`: which notices are sent between two machines.
* `Run.administer_of_other`, `Run.administer_of_refused`, `Run.administer_of_heard`:
  what the surface does with a text, by its first word and the class of the caller.
* `refused_caller_learns_nothing`: a caller of too low a class changes nothing and
  is told the same in every state and for every text.
-/

namespace ScriptHub

variable {P W N α β : Type}

section Notices

/-- The notice that a record says to have been sent, with its recipient. -/
def Record.notice? : Record P N → Option (String × String)
  | .notice recipient text _ => some (recipient, text)
  | _ => none

/-- The notices that were sent in a trace, in order. -/
def noticesIn (trace : List (Moment P N)) : List (String × String) :=
  (trace.filterMap fun moment => moment.record.notice?).reverse

theorem noticesIn_append (news trace : List (Moment P N)) :
    noticesIn (news ++ trace) = noticesIn trace ++ noticesIn news := by
  simp [noticesIn]

namespace Machine

/-- Which notices are sent on the way from one machine to another. -/
structure Notifies
    (a b : Machine P W N)
    (notices : List (String × String)) :
    Prop where
  trace : ∃ news, b.trace = news ++ a.trace ∧ noticesIn news = notices
  sent : b.sent = a.sent + notices.length

variable {a b c : Machine P W N} {first second : List (String × String)}

theorem Notifies.refl (m : Machine P W N) : m.Notifies m [] where
  trace := ⟨[], rfl, rfl⟩
  sent := rfl

theorem Notifies.trans
    (hab : a.Notifies b first)
    (hbc : b.Notifies c second) :
    a.Notifies c (first ++ second) := by
  obtain ⟨news, hnews, rfl⟩ := hab.trace
  obtain ⟨others, hothers, rfl⟩ := hbc.trace
  constructor
  · refine ⟨others ++ news, ?_, noticesIn_append _ _⟩
    rw [hothers, hnews, List.append_assoc]
  · rw [hbc.sent, hab.sent, List.length_append, Nat.add_assoc]

/-- A record of another sort is no notice. -/
theorem Notifies.emit
    (h : a.Notifies b first)
    {entry : Record P N}
    (hother : entry.notice? = none) :
    a.Notifies (b.emit entry) first := by
  obtain ⟨news, hnews, rfl⟩ := h.trace
  refine ⟨⟨⟨entry, b.state⟩ :: news, ?_, ?_⟩, h.sent⟩
  · rw [emit_trace, hnews]
    rfl
  · simp [noticesIn, hother]

/-- What was recorded since tells the notices. -/
theorem Notifies.noticesIn_take
    (h : a.Notifies b first) :
    noticesIn (b.trace.take (b.trace.length - a.trace.length)) = first := by
  obtain ⟨news, hnews, rfl⟩ := h.trace
  simp [hnews]

/-- A caller is told some texts, and nothing else happens. -/
structure Told
    (a b : Machine P W N)
    (nick : String)
    (texts : List String) :
    Prop where
  state : b.state = a.state
  store : b.store = a.store
  notices : a.Notifies b (texts.map fun text => (nick, text))

theorem Told.trans
    {nick : String}
    {texts others : List String}
    (hab : a.Told b nick texts)
    (hbc : b.Told c nick others) :
    a.Told c nick (texts ++ others) where
  state := hbc.state.trans hab.state
  store := hbc.store.trans hab.store
  notices := by
    rw [List.map_append]
    exact hab.notices.trans hbc.notices

theorem told_log
    (m : Machine P W N)
    (nick : String)
    (entry : LogEntry) :
    m.Told (m.emit (.log entry)) nick [] where
  state := rfl
  store := rfl
  notices := (Notifies.refl m).emit rfl

end Machine
end Notices

namespace Run

section Sending

variable (notifier : Notifier) (nick : String) (m : Machine P W N)

/-- Whether it is delivered or not, one notice is sent. -/
theorem send_tells (text : String) :
    ∃ after,
      send notifier nick text m = (.returned (), after) ∧
        m.Told after nick [text] := by
  have hnotice :
      ∀ delivered : Bool,
        m.Told
          (Machine.emit { m with sent := m.sent + 1 }
            (.notice nick text delivered))
          nick [text] := by
    intro delivered
    exact ⟨rfl, rfl, ⟨[_], rfl, rfl⟩, rfl⟩
  simp only [send, bind, andThen, machine, countNotice]
  cases notifier.deliver m.sent nick text with
  | ok _ => exact ⟨_, rfl, hnotice true⟩
  | error reason =>
      exact ⟨_, rfl, (hnotice false).trans (Machine.told_log _ nick _)⟩

theorem sendAll_tells (texts : List String) :
    ∃ after,
      sendAll notifier nick texts m = (.returned (), after) ∧
        m.Told after nick texts := by
  induction texts generalizing m with
  | nil => exact ⟨m, rfl, rfl, rfl, .refl m⟩
  | cons text rest ih =>
      obtain ⟨mid, hsend, first⟩ := send_tells notifier nick m text
      obtain ⟨after, hrest, others⟩ := ih mid
      refine ⟨after, ?_, first.trans others⟩
      simp only [sendAll, bind, andThen, hsend, hrest]

end Sending

end Run

section Commands

/-- What becomes of a dispatcher when the flag of a registration is set. -/
def Dispatcher.flagged
    (state : Dispatcher P)
    (script : ScriptId)
    (enabled : Bool) :
    Dispatcher P :=
  match state.find? script with
  | none => state
  | some registration =>
      if registration.enabled = enabled then
        state
      else
        (state.setFlag script enabled).retally
          fun tally => tally.toggled enabled

/-- What becomes of a dispatcher when a command is carried out. -/
def AdminCommand.effect
    (command : AdminCommand)
    (state : Dispatcher P) :
    Dispatcher P :=
  match command with
  | .enable script => state.flagged script true
  | .disable script => state.flagged script false
  | _ => state

@[simp] theorem AdminCommand.effect_toggle
    (script : ScriptId)
    (enabled : Bool)
    (state : Dispatcher P) :
    (toggle script enabled).effect state = state.flagged script enabled := by
  cases enabled <;> rfl

/-- A command that sets no flag changes nothing. -/
theorem AdminCommand.effect_of_not_toggle
    {command : AdminCommand}
    (hother : ∀ script enabled, command ≠ toggle script enabled)
    (state : Dispatcher P) :
    command.effect state = state := by
  cases command with
  | enable script => exact absurd rfl (hother script true)
  | disable script => exact absurd rfl (hother script false)
  | _ => rfl

namespace Run

variable (m : Machine P W N)

/-- Setting a flag returns, and sends no notice. -/
theorem setEnabled_tells
    (script : ScriptId)
    (enabled : Bool) :
    ∃ found after,
      setEnabled script enabled m = (.returned found, after) ∧
        after.state = m.state.flagged script enabled ∧
        after.store = m.store ∧
        m.Notifies after [] := by
  unfold Dispatcher.flagged
  simp only [setEnabled, bind, andThen, state]
  cases m.state.find? script with
  | none => exact ⟨false, m, rfl, rfl, rfl, .refl m⟩
  | some registration =>
      by_cases hsame : registration.enabled = enabled
      · simp only [hsame, if_true]
        exact ⟨true, m, rfl, rfl, rfl, .refl m⟩
      · simp only [hsame, if_false]
        refine ⟨true, m.toggled script enabled, rfl, rfl, rfl, ?_⟩
        exact ⟨⟨[_], rfl, rfl⟩, rfl⟩

/-- Carrying out a command returns the texts of its answer, and sends no notice. -/
theorem execute_tells
    (word trigger : String)
    (command : AdminCommand) :
    ∃ texts after,
      execute word trigger command m = (.returned texts, after) ∧
        after.state = command.effect m.state ∧
        after.store = m.store ∧
        m.Notifies after [] := by
  have htoggle :
      ∀ (script : ScriptId) (enabled : Bool),
        ∃ texts after,
          (do
            let found ← setEnabled script enabled
            pure [AdminReport.toggled script enabled found] :
            Run P W N (List String)) m = (.returned texts, after) ∧
            after.state = m.state.flagged script enabled ∧
            after.store = m.store ∧
            m.Notifies after [] := by
    intro script enabled
    obtain ⟨found, after, hset, hrest⟩ := setEnabled_tells m script enabled
    refine ⟨[AdminReport.toggled script enabled found], after, ?_, hrest⟩
    simp only [bind, andThen, hset]
    rfl
  cases command with
  | list => exact ⟨_, m, rfl, rfl, rfl, .refl m⟩
  | stats => exact ⟨_, m, rfl, rfl, rfl, .refl m⟩
  | enable script => exact htoggle script true
  | disable script => exact htoggle script false
  | help => exact ⟨_, m, rfl, rfl, rfl, .refl m⟩

end Run
end Commands

section Surface

open AdminCommand

variable (settings : Settings) (notifier : Notifier) (nick text : String)
variable (userClass : Int32) (trigger : String) (m : Machine P W N)

namespace Run

/-- A text that is meant for someone else is let through. -/
theorem administer_of_other
    (other : ¬ Addressed text settings.adminWord) :
    administer settings notifier nick text userClass trigger m =
      (.returned .allow, m) := by
  unfold administer
  rw [parse_eq_none_iff.mpr other]
  rfl

/-- An addressed text is answered, and blocked. -/
theorem administer_of_addressed
    (addressed : Addressed text settings.adminWord) :
    administer settings notifier nick text userClass trigger m =
      (do
        reply settings notifier nick userClass trigger
          (parse text settings.adminWord)
        pure .block : Run P W N Verdict) m := by
  unfold administer
  cases hparse : parse text settings.adminWord with
  | error reason => rfl
  | ok command? =>
      cases command? with
      | none => exact absurd addressed (parse_eq_none_iff.mp hparse)
      | some command => rfl

/-- A caller of too low a class is told so, whatever was said. -/
theorem administer_of_refused
    (low : userClass < settings.adminClass)
    (addressed : Addressed text settings.adminWord) :
    ∃ after,
      administer settings notifier nick text userClass trigger m =
          (.returned .block, after) ∧
        m.Told after nick [AdminReport.permissionDenied] := by
  have logged := m.told_log nick (.commandRefused nick userClass)
  obtain ⟨after, hsend, told⟩ :=
    send_tells notifier nick (m.emit (.log (.commandRefused nick userClass)))
      AdminReport.permissionDenied
  refine ⟨after, ?_, logged.trans told⟩
  rw [administer_of_addressed _ _ _ _ _ _ _ addressed]
  simp only [reply, low, if_true, bind, andThen, log, emit, hsend]
  rfl

/-- Any other caller is answered, and the command is carried out if there is one. -/
theorem administer_of_heard
    (high : ¬ userClass < settings.adminClass)
    (addressed : Addressed text settings.adminWord) :
    ∃ (texts : List String) (after : Machine P W N),
      administer settings notifier nick text userClass trigger m =
          (.returned .block, after) ∧
        m.Notifies after (texts.map fun text => (nick, text)) ∧
        after.store = m.store ∧
        after.state =
          match parse text settings.adminWord with
          | .ok (some command) => command.effect m.state
          | _ => m.state := by
  rw [administer_of_addressed _ _ _ _ _ _ _ addressed]
  simp only [reply, high, if_false, bind, andThen]
  cases hparse : parse text settings.adminWord with
  | error reason =>
      obtain ⟨after, hsend, told⟩ :=
        send_tells notifier nick m
          (AdminReport.rejection trigger settings.adminWord reason)
      refine ⟨[_], after, ?_, told.notices, told.store, told.state⟩
      simp only [hsend]
      rfl
  | ok command? =>
      cases command? with
      | none => exact absurd addressed (parse_eq_none_iff.mp hparse)
      | some command =>
          let running := m.emit (.log (.commandRunning nick command))
          have logged := m.told_log nick (.commandRunning nick command)
          obtain ⟨texts, done, hexecute, hstate, hstore, hnotices⟩ :=
            execute_tells running settings.adminWord trigger command
          obtain ⟨after, hsend, told⟩ := sendAll_tells notifier nick done texts
          refine ⟨texts, after, ?_, ?_, ?_, ?_⟩
          · show
              ((do
                let texts ← execute settings.adminWord trigger command
                sendAll notifier nick texts : Run P W N Unit) >>=
                  fun _ => (pure .block : Run P W N Verdict)) running = _
            simp only [bind, andThen, hexecute, hsend]
            rfl
          · exact (logged.notices.trans hnotices).trans told.notices
          · exact told.store.trans hstore
          · exact told.state.trans hstate

end Run
end Surface

section Refusal

open AdminCommand

/-- What a caller can observe of a run: how it ends and which notices it sends. -/
def Run.observed
    (run : Run P W N α)
    (m : Machine P W N) :
    Flow α × List (String × String) :=
  ((run m).1,
    noticesIn
      ((run m).2.trace.take ((run m).2.trace.length - m.trace.length)))

/--
**A caller of too low a class learns nothing and changes nothing.**

In every state the surface leaves the dispatcher and the store as they were.  A text
whose first word is not the command word is let through without a notice; any other
is blocked with one notice, to the caller, that permission is denied.  So in any two
states any two such texts are answered alike.
-/
theorem refused_caller_learns_nothing
    (settings : Settings)
    (notifier : Notifier)
    (nick : String)
    (userClass : Int32)
    (trigger : String)
    (low : userClass < settings.adminClass) :
    (∀ (m : Machine P W N) (text : String),
      let ending :=
        Run.administer settings notifier nick text userClass trigger m
      ending.2.state = m.state ∧
        ending.2.store = m.store ∧
        (Addressed text settings.adminWord →
          ending.1 = .returned .block ∧
            m.Notifies ending.2 [(nick, AdminReport.permissionDenied)]) ∧
        (¬ Addressed text settings.adminWord →
          ending.1 = .returned .allow ∧ m.Notifies ending.2 [])) ∧
      ∀ (m m' : Machine P W N) (text text' : String),
        Addressed text settings.adminWord →
        Addressed text' settings.adminWord →
        (Run.administer settings notifier nick text userClass
            trigger).observed m =
          (Run.administer settings notifier nick text' userClass
            trigger).observed m' := by
  have hobserved :
      ∀ (m : Machine P W N) (text : String),
        Addressed text settings.adminWord →
        (Run.administer settings notifier nick text userClass
            trigger).observed m =
          (.returned .block, [(nick, AdminReport.permissionDenied)]) := by
    intro m text addressed
    obtain ⟨after, hrun, told⟩ :=
      Run.administer_of_refused settings notifier nick text userClass trigger m
        low addressed
    unfold Run.observed
    rw [hrun]
    exact Prod.ext rfl told.notices.noticesIn_take
  constructor
  · intro m text ending
    by_cases addressed : Addressed text settings.adminWord
    · obtain ⟨after, hrun, told⟩ :=
        Run.administer_of_refused settings notifier nick text userClass trigger
          m low addressed
      have hending : ending = (.returned .block, after) := hrun
      rw [hending]
      refine ⟨told.state, told.store, ?_, ?_⟩
      · intro _
        exact ⟨rfl, told.notices⟩
      · intro other
        exact absurd addressed other
    · have hending : ending = (.returned .allow, m) :=
        Run.administer_of_other settings notifier nick text userClass trigger m
          addressed
      rw [hending]
      refine ⟨rfl, rfl, ?_, ?_⟩
      · intro other
        exact absurd other addressed
      · intro _
        exact ⟨rfl, .refl m⟩
  · intro m m' text text' addressed addressed'
    rw [hobserved m text addressed, hobserved m' text' addressed']

/--
Where a registration is live, a request to disable it is answered like nonsense
where there is none.
-/
theorem refused_alike_with_and_without_registration :
    (Run.administer {} .accepting "eve" "dispatcher disable 2" 3
        "!").observed Restless.last =
      (Run.administer {} .accepting "eve" " dispatcher frobnicate" 3
        "!").observed (Machine.fresh () : Machine Bool Unit Unit) :=
  (refused_caller_learns_nothing {} .accepting "eve" 3 "!" (by decide)).2
    Restless.last (.fresh ()) "dispatcher disable 2" " dispatcher frobnicate"
    (by decide +kernel) (by decide +kernel)

end Refusal
end ScriptHub
