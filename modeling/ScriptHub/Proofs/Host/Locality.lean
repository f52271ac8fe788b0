import ScriptHub.Proofs.Admin.HubCommand
import ScriptHub.Proofs.Run.Coherence
import ScriptHub.Proofs.Run.Inertness
import ScriptHub.Proofs.Run.Sparing

/-!
# Entry points are local

An entry point hands its arguments on in an event of its own kind.  Where the handlers
only decide, raising the event moves the counters of that kind and nothing else, and
no notice is sent, whatever the arguments say: the administrative surface is asked
about hub commands that are raised, and about nothing else.

**Results.**
* `EntryPoint.Passes`: the entry points, with the names of their arguments.
* `EntryPoint.Passes.raises`: an entry point raises the event of its arguments.
* `DispatchCall.isLocal_of_decided`: a dispatch to handlers that decide is local.
* `entry_points_are_local`: so is every entry point but that of hub commands.
-/

namespace ScriptHub

variable {P W N : Type}

section Arguments

open EntryPoint

/-- An entry point passes named arguments on to the handlers of a kind. -/
inductive EntryPoint.Passes :
    Call P → EventKind → List (String × FieldValue) → Prop
  | timer (msec : UInt64) :
      Passes (onTimer msec) .timer [("msec", .uint64 msec)]
  | chat (nick message : String) :
      Passes (onParsedMsgChat nick message) .chat
        [("nick", .text nick), ("message", .text message)]
  | privateMessage (nick message otherNick : String) :
      Passes (onParsedMsgPm nick message otherNick) .privateMessage
        [("nick", .text nick), ("message", .text message),
          ("other_nick", .text otherNick)]
  | search (nick query : String) :
      Passes (onParsedMsgSearch nick query) .search
        [("nick", .text nick), ("query", .text query)]
  | searchResult (nick result : String) :
      Passes (onParsedMsgSr nick result) .searchResult
        [("nick", .text nick), ("result", .text result)]
  | myInfo (nick : String) :
      Passes (onParsedMsgMyInfo nick) .myInfo [("nick", .text nick)]
  | validateNick (nick : String) :
      Passes (onParsedMsgValidateNick nick) .validateNick
        [("nick", .text nick)]
  | connectToMe (nick ip : String) (port : UInt16) :
      Passes (onParsedMsgConnectToMe nick ip port) .connectToMe
        [("nick", .text nick), ("ip", .text ip), ("port", .uint16 port)]
  | revConnectToMe (nick otherNick : String) :
      Passes (onParsedMsgRevConnectToMe nick otherNick) .revConnectToMe
        [("nick", .text nick), ("other_nick", .text otherNick)]
  | supports (ip message back : String) :
      Passes (onParsedMsgSupports ip message back) .supports
        [("ip", .text ip), ("message", .text message), ("back", .text back)]
  | userLogin (nick : String) :
      Passes (onUserLogin nick) .userLogin [("nick", .text nick)]
  | userLogout (nick : String) :
      Passes (onUserLogout nick) .userLogout [("nick", .text nick)]
  | userDisconnected (nick : String) :
      Passes (onUserDisconnected nick) .userDisconnected
        [("nick", .text nick)]
  | newConn (ip : String) :
      Passes (onNewConn ip) .newConn [("ip", .text ip)]
  | closeConn (ip : String) :
      Passes (onCloseConn ip) .closeConn [("ip", .text ip)]
  | hubCommand
      (nick command : String)
      (userClass : Int32)
      (inPm : Bool)
      (trigger : String) :
      Passes (onHubCommand nick command userClass inPm trigger) .hubCommand
        [("nick", .text nick), ("command", .text command),
          ("user_class", .int32 userClass), ("in_pm", .flag inPm),
          ("prefix", .text trigger)]
  | operatorCommand
      (nick command : String)
      (userClass : Int32)
      (inPm : Bool) :
      Passes (onOperatorCommand nick command userClass inPm) .operatorCommand
        [("nick", .text nick), ("command", .text command),
          ("user_class", .int32 userClass), ("in_pm", .flag inPm)]
  | operatorKicks (opNick nick reason : String) :
      Passes (onOperatorKicks opNick nick reason) .operatorKicks
        [("op_nick", .text opNick), ("nick", .text nick),
          ("reason", .text reason)]
  | operatorDrops (opNick nick reason : String) :
      Passes (onOperatorDrops opNick nick reason) .operatorDrops
        [("op_nick", .text opNick), ("nick", .text nick),
          ("reason", .text reason)]
  | validateTag (nick tag : String) :
      Passes (onValidateTag nick tag) .validateTag
        [("nick", .text nick), ("tag", .text tag)]
  | userInList (nick : String) :
      Passes (onUserInList nick) .userInList [("nick", .text nick)]
  | unknownMessage (nick message : String) :
      Passes (onUnknownMsg nick message) .unknownMessage
        [("nick", .text nick), ("message", .text message)]
  | flood (nick message : String) :
      Passes (onFlood nick message) .flood
        [("nick", .text nick), ("message", .text message)]

/-- **An entry point raises the event of its kind,** each argument in its own field. -/
theorem EntryPoint.Passes.raises
    {call : Call P}
    {kind : EventKind}
    {arguments : List (String × FieldValue)}
    (h : Passes call kind arguments) :
    ∃ event : Event,
      call = .raise event ∧ event.kind = kind ∧ event.fields = arguments := by
  cases h <;> exact ⟨_, rfl, rfl, rfl⟩

/-- Every kind has an entry point. -/
theorem EntryPoint.exists_passes (event : Event) :
    Passes (.raise event : Call P) event.kind event.fields := by
  cases event <;> constructor

end Arguments

section Silence

namespace Setup.Decides

variable {setup : Setup P W N} {handler : P} {event : Event}
variable {ending : Ending Verdict}

/-- A handler that only decides is inert. -/
theorem isInert
    (h : setup.Decides handler event ending)
    (room level : Nat) :
    (setup.scripts room level).IsInert handler event := by
  intro m
  cases room with
  | zero => rfl
  | succ room =>
      exact (Code.run_of_concludes _ (h.concludes level) m).2

/-- A handler that only decides sends no notice. -/
theorem spares
    (h : setup.Decides handler event ending)
    (room level : Nat) :
    ((setup.scripts room level).handle handler event).Spares := by
  cases room with
  | zero => exact fun m => .refl m
  | succ room => exact Code.spares_of_concludes _ (h.concludes level)

end Setup.Decides

/-- A walk along handlers that spare sends no notice. -/
theorem Run.notifies_walk
    (settings : Settings)
    {scripts : Scripts P W N}
    {event : Event}
    (chain : List (Binding P))
    (spares :
      ∀ binding ∈ chain, (scripts.handle binding.handler event).Spares)
    (m : Machine P W N) :
    m.Notifies (walk settings scripts event chain m).2 [] := by
  apply walk_relates settings scripts event fun _ a b => a.Notifies b []
  · exact .refl
  · intro _ _ a b c first second
    exact first.trans second
  · intro a entry
    exact (Machine.Notifies.refl a).emit rfl
  · intro binding hbinding _ a _ _
    exact (spares_invoke (spares binding hbinding) a).silent

end Silence

section Locality

variable {setup : Setup P W N}

/--
A dispatch follows its chain and reports what became of it, sends no notice, and moves
the counters of its kind alone: by itself, and by the failures that it reports.
-/
structure DispatchCall.IsLocal
    (call : DispatchCall setup)
    (result : DispatchResult)
    (visits : List (Visit P W N)) :
    Prop where
  follows : call.Follows result visits
  coherent : call.Coherent result visits
  silent : call.start.Notifies call.stop []
  state :
    call.stop.state =
      call.start.state.charged call.event.kind 1 result.failures.length

/-- Counting a dispatch sends no notice. -/
theorem DispatchCall.notifies_opened (call : DispatchCall setup) :
    call.start.Notifies call.opened [] := by
  have hcounted :
      call.start.Notifies (call.start.attempted call.event) [] :=
    ⟨⟨[_], rfl, rfl⟩, rfl⟩
  unfold opened
  cases call.chain with
  | nil => exact hcounted
  | cons binding rest => exact hcounted.emit rfl

/-- **A dispatch to handlers that only decide returns and is local.** -/
theorem DispatchCall.isLocal_of_decided
    {outcome : P → Event → Ending Verdict}
    (call : DispatchCall setup)
    (decided : call.IsDecided outcome)
    (sound : call.start.state.WellFormed)
    (space : 0 < call.room) :
    ∃ result visits,
      call.flow = .returned result ∧ call.IsLocal result visits := by
  have hin :
      ∀ binding ∈ call.chain,
        setup.Decides binding.handler call.event
          (outcome binding.handler call.event) :=
    fun binding hbinding => decided.of_mem_chain sound hbinding
  obtain ⟨result, returned, _⟩ := decided.returns sound space
  obtain ⟨visits, walks⟩ := call.walks sound returned
  have inert : call.IsInert := by
    intro binding hbinding _
    exact (hin binding hbinding).isInert call.room call.level
  have silent : call.opened.Notifies call.stop [] := by
    unfold stop
    rw [dispatch_eq_walk]
    apply Run.notifies_walk
    intro binding hbinding
    exact (hin binding hbinding).spares call.room call.level
  refine ⟨result, visits, returned, ?_, ?_, ?_, ?_⟩
  · exact follows_of_walks sound walks
  · exact coherent_of_walks sound walks
  · exact call.notifies_opened.trans silent
  · rw [call.stop_state_of_inert inert, call.failures_of_returned returned]

end Locality

/--
**Entry points are local.**

In every machine that a run can come to whose handlers call nothing and end as the
event alone settles, with panics caught: every entry point but that of hub commands
raises the event of its own kind with each argument in the field of its name, returns
what the dispatch of that event decides, sends no notice, and moves the counters of
that kind alone.  So does a dispatch of any event, one of a hub command included,
whatever its text and the class of its caller are.
-/
theorem entry_points_are_local
    (setup : Setup P W N)
    (outcome : P → Event → Ending Verdict)
    (room level : Nat)
    (m : Machine P W N)
    (reached : setup.Reaches m)
    (space : 0 < room)
    (decided :
      ∀ event,
        (⟨room, level, event, m⟩ : DispatchCall setup).IsDecided outcome) :
    (∀ (call : Call P) kind arguments,
      EntryPoint.Passes call kind arguments →
      kind ≠ .hubCommand →
      ∃ event result visits,
        let dispatched : DispatchCall setup := ⟨room, level, event, m⟩
        call = .raise event ∧
          event.kind = kind ∧
          event.fields = arguments ∧
          Run.perform setup (setup.scripts room level) (.raise event) m =
            (.returned result.verdict, dispatched.stop) ∧
          dispatched.IsLocal result visits) ∧
      ∀ event,
        ∃ result visits,
          let dispatched : DispatchCall setup := ⟨room, level, event, m⟩
          Run.perform setup (setup.scripts room level) (.dispatch event) m =
              (.returned result, dispatched.stop) ∧
            dispatched.IsLocal result visits := by
  have sound := reached.wellFormed
  have hdispatch :
      ∀ event,
        ∃ result visits,
          let dispatched : DispatchCall setup := ⟨room, level, event, m⟩
          Run.perform setup (setup.scripts room level) (.dispatch event) m =
              (.returned result, dispatched.stop) ∧
            dispatched.IsLocal result visits := by
    intro event
    let dispatched : DispatchCall setup := ⟨room, level, event, m⟩
    obtain ⟨result, visits, returned, isLocal⟩ :=
      dispatched.isLocal_of_decided (decided event) sound space
    exact ⟨result, visits, Prod.ext returned rfl, isLocal⟩
  refine ⟨?_, hdispatch⟩
  intro call kind arguments passes hother
  obtain ⟨event, rfl, rfl, hfields⟩ := passes.raises
  obtain ⟨result, visits, hrun, isLocal⟩ := hdispatch event
  exact ⟨event, result, visits, rfl, rfl, hfields,
    Run.raise_of_dispatched hother hrun, isLocal⟩

/--
The divided council sees a chat message, at which one script crashes, and an operator
command whose text would disable a script if it were a hub command.
-/
theorem entry_points_leave_divided_council :
    let raised (event : Event) : DispatchCall Divided.setup :=
      ⟨1, 0, event, (Divided.call Divided.forwards).start⟩
    (∃ visits,
      (raised (.chat "ann" "hello")).IsLocal
        { verdict := .block, invoked := [2, 1, 4]
          failures := [(2, .panicked "non-string panic payload")]
          blockedBy := some 4 }
        visits) ∧
      ∃ event result visits,
        EntryPoint.onOperatorCommand "op" "dispatcher disable 4" 10 false =
            (.raise event : Call (Ending Verdict)) ∧
          event.kind = .operatorCommand ∧
          (raised event).IsLocal result visits := by
  intro raised
  have hflow :
      (raised (.chat "ann" "hello")).flow =
        .returned
          { verdict := .block, invoked := [2, 1, 4]
            failures := [(2, .panicked "non-string panic payload")]
            blockedBy := some 4 } := by
    cbv
  obtain ⟨hentries, hdispatches⟩ :=
    entry_points_are_local Divided.setup (fun ending _ => ending) 1 0
      (Divided.call Divided.forwards).start
      (Divided.setup.reaches_runAll _ _ _) Nat.one_pos
      (fun _ _ _ handler _ => Divided.decides handler _)
  constructor
  · obtain ⟨result, visits, hrun, isLocal⟩ :=
      hdispatches (.chat "ann" "hello")
    have hreturned :
        (raised (.chat "ann" "hello")).flow = .returned result :=
      congrArg Prod.fst hrun
    rw [hflow] at hreturned
    obtain rfl := Flow.returned.inj hreturned
    exact ⟨visits, isLocal⟩
  · obtain ⟨event, result, visits, hcall, hkind, _, _, isLocal⟩ :=
      hentries _ _ _
        (.operatorCommand "op" "dispatcher disable 4" 10 false) (by decide)
    exact ⟨event, result, visits, hcall, hkind, isLocal⟩

end ScriptHub
