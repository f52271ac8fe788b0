import ScriptHub.Proofs.Run.Retelling

/-!
# Names are labels

The name of a registration is shown and logged, and serves for nothing else.  Whatever
the registrations of a run are called instead, one by one, the run goes on the same: ids
are issued, handlers and cleanups are called, flags and counters are moved, and calls
are answered as before.  This is said for user code that does not branch on names; such
code may keep the names that it is shown, note them, log them and register under them.

**Results.**
* `names_are_labels`: a run compared with the run under other names.
* `names_are_labels_of_namesakes`: two scripts that come to share a name, and a third
  that loses its own.
-/

namespace ScriptHub

variable {P W N R : Type}

/--
**Names are labels.**

Take a host and scripts that do not branch on names, and give every registration of the
run another name, by its id and the name supplied; names may be empty or shared, and the
notices may go to another notifier.  The pieces of host code end in the same way.  The
dispatcher at the end is the same but for the names of its registrations, and so it is
at every moment of the run: the ids issued, the flags, the priorities, the hook table
and the counters agree.  The same handlers and cleanups are called with the same events
in one order.  All calls get the same answers but for the names in what `info` and `list`
show, and the same notices are sent, in one order, but for the names in the lines of a
list.  Log records differ in names alone.  Where the new names depend on the names
supplied alone, the other run is simply that of the same code with other names in it.
-/
theorem names_are_labels
    (g : Guise W N)
    (settings : Settings)
    (behaviour : Behaviour P W N)
    (heedless : behaviour.Retold g behaviour)
    (results : R → R → Prop)
    (codes : List (Code P W N R))
    (hcodes : ∀ code ∈ codes, code.Retold g results code)
    (room : Nat)
    (store : W)
    (hstore : g.store store store) :
    let run :=
      Setup.runAll ⟨settings, g.notifier, behaviour⟩ room codes (.fresh store)
    let renamed :=
      Setup.runAllRenamed ⟨settings, g.other, behaviour⟩ g.names room codes
        (.fresh store)
    RunsRetold g results run renamed ∧
      callsIn renamed.2.trace = callsIn run.2.trace ∧
      answersIn renamed.2.trace =
        (answersIn run.2.trace).map (Call.renamedAnswered g.names) ∧
      List.Forall₂
        (fun notice other =>
          notice.1 = other.1 ∧ TextsRetold g.names notice.2 other.2)
        (noticesIn run.2.trace) (noticesIn renamed.2.trace) ∧
      ∀ f : String → String,
        g.names = (fun _ => f) →
        renamed =
          (Setup.respelled ⟨settings, g.other, behaviour⟩ f).runAll room
            (codes.map (Code.respelled f)) (.fresh store) := by
  intro run renamed
  have retold : RunsRetold g results run renamed :=
    Setup.retells_runAll heedless (List.forall₂_same.mpr hcodes) room
      (Machine.retold_fresh hstore)
  have htrace := retold.machine.trace
  refine ⟨retold, htrace.calls, htrace.answers, htrace.notices, ?_⟩
  intro f hnames
  have key :=
    Setup.runAllRenamed_respelled ⟨settings, g.other, behaviour⟩ f room codes
      (.fresh store)
  rw [← hnames] at key
  exact key

/-!
Namesakes: the first script has a handler that looks up its own name, makes a
registration under a longer one, removes the second script, whose cleanup looks at the
list, and fails.  In the other run the first two scripts share a name, and every later
registration has none.
-/

namespace Namesakes

/-- What the scripts run. -/
inductive Act
  | breeding
  | listing
  deriving DecidableEq

/-- The script whose handler makes a registration. -/
def parent : Spec Act :=
  (Spec.named "parent").hook .timer .breeding

/-- The script that is removed. -/
def sibling : Spec Act :=
  ((Spec.named "sibling").hook .timer .breeding).withCleanup .listing

/-- The name that a script is shown under, made longer. -/
def longer (info? : Option ScriptInfo) : String :=
  (info?.map ScriptInfo.name).getD "nobody" ++ "'s child"

/-- What the handler and the cleanup do. -/
def behaviour : Behaviour Act Nat String where
  onEvent := fun _ _ _ =>
    .call (.info 1) fun info? =>
    .call (.register (Spec.named (longer info?))) fun child =>
    .call (.unregister 2) fun _ =>
    .write child <|
    .finish (.failed "late")
  onRemoval := fun _ _ =>
    .call .list fun infos =>
    .note (" ".intercalate (infos.map ScriptInfo.name)) <|
    .finish (.returned ())

/-- The host registers the scripts, raises an event, and asks for the list twice. -/
def host : Code Act Nat String (List ScriptInfo) :=
  .call (.register parent) fun _ =>
  .call (.register sibling) fun _ =>
  .call (.raise (.timer 0)) fun _ =>
  .call (.administer "ann" "dispatcher list" 10 "!") fun _ =>
  .ask .list

/-- The first two scripts are called twins, and the others have no name. -/
def guise : Guise Nat String where
  names := fun script _ => if script ≤ 2 then "twin" else ""
  notifier := .accepting
  other := .accepting
  store := Eq
  note := fun _ _ => True
  entry := Eq

/-- The run as the scripts name themselves. -/
def run : List (Flow (Except String (List ScriptInfo))) × Machine Act Nat String :=
  Setup.runAll ⟨{}, guise.notifier, behaviour⟩ 3 [host] (.fresh 0)

/-- The run with the scripts renamed. -/
def renamed : List (Flow (Except String (List ScriptInfo))) × Machine Act Nat String :=
  Setup.runAllRenamed ⟨{}, guise.other, behaviour⟩ guise.names 3 [host] (.fresh 0)

theorem behaviour_heedless : behaviour.Retold guise behaviour where
  onEvent := by
    intro level act event
    apply Code.Retold.call
    intro info?
    apply Code.Retold.register
    · intro script
      rfl
    · intro child
      apply Code.Retold.call
      intro removed
      apply Code.Retold.write rfl
      exact .failed "late"
  onRemoval := by
    intro level act
    apply Code.Retold.call
    intro infos
    apply Code.Retold.note trivial
    exact .returned rfl

theorem host_heedless :
    ∀ code ∈ [host],
      code.Retold guise
        (fun infos others => others = infos.map (ScriptInfo.renamed guise.names))
        code := by
  intro code hcode
  rw [List.mem_singleton] at hcode
  subst hcode
  apply Code.Retold.call
  intro _
  apply Code.Retold.call
  intro _
  apply Code.Retold.call
  intro _
  apply Code.Retold.call
  intro _
  apply Code.Retold.call
  intro infos
  exact .returned rfl

end Namesakes

/-- The child is made, the sibling removed and the failure counted under every name. -/
theorem names_are_labels_of_namesakes :
    Namesakes.run.2.state.list.map ScriptInfo.name = ["parent", "parent's child"] ∧
      Namesakes.renamed.2.state.list.map ScriptInfo.name = ["twin", ""] ∧
      Namesakes.renamed.2.store = 3 ∧
      noticesIn Namesakes.renamed.2.trace =
        [("ann", "Registered Scripts (2):"),
          ("ann", "  [on] ID=1: twin (1 hooks, priority=100)"),
          ("ann", "  [on] ID=3:  (0 hooks, priority=100)")] ∧
      callsIn Namesakes.renamed.2.trace = callsIn Namesakes.run.2.trace := by
  have key :=
    names_are_labels Namesakes.guise {} Namesakes.behaviour
      Namesakes.behaviour_heedless
      (fun infos others =>
        others = infos.map (ScriptInfo.renamed Namesakes.guise.names))
      [Namesakes.host] Namesakes.host_heedless 3 0 rfl
  refine ⟨?_, ?_, ?_, ?_, ?_⟩
  · decide +kernel
  · decide +kernel
  · decide +kernel
  · decide +kernel
  · unfold Namesakes.renamed Namesakes.run
    exact key.2.1

end ScriptHub
