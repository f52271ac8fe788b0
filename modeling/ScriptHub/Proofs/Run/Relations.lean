import ScriptHub.Proofs.Run.Comparison

/-!
# Relations that user code obeys

A relation of an earlier and a later machine that goes on over steps is obeyed by all
user code once it is obeyed by every dispatch, whose handlers obey it: a run obeys it as
it compares with itself by where it leads.

**Results.**
* `Permits`: a relation allows the steps that are made outside of a dispatch.
* `Permits.steps`: the steps obey it.
* `Setup.obey_scripts`: all procedures obey it, however deep they are nested.
-/

namespace ScriptHub

variable {P W N R α β : Type}

/-- A run leads from every machine to one that is related to it. -/
def Run.Obeys
    (related : Machine P W N → Machine P W N → Prop)
    (run : Run P W N α) :
    Prop :=
  ∀ m, related m (run m).2

/-- Procedures obey a relation. -/
structure Scripts.Obey
    (related : Machine P W N → Machine P W N → Prop)
    (scripts : Scripts P W N) :
    Prop where
  handle : ∀ procedure event, (scripts.handle procedure event).Obeys related
  clean : ∀ procedure, (scripts.clean procedure).Obeys related

/-- A relation goes on over the steps that are made outside of a dispatch. -/
structure Permits
    (settings : Settings)
    (related : Machine P W N → Machine P W N → Prop) :
    Prop where
  refl : ∀ m, related m m
  trans : ∀ {a b c}, related a b → related b c → related a c
  register : ∀ m spec, related m (m.registered settings spec)
  remove :
    ∀ m registration,
      m.state.find? registration.id = some registration →
      related m (m.unregistered registration)
  toggle :
    ∀ m registration enabled,
      m.state.find? registration.id = some registration →
      registration.enabled ≠ enabled →
      related m (m.toggled registration.id enabled)
  record : ∀ m entry, entry.isPlain = true → related m (m.emit entry)
  report :
    ∀ m event result, related m (m.emit (.answered (.dispatch event) result))
  write : ∀ m store, related m { m with store := store }
  send : ∀ m, related m { m with sent := m.sent + 1 }

/-- The comparison of each run with itself by which a run obeys a relation. -/
def Comparison.obeying
    (related : Machine P W N → Machine P W N → Prop) :
    Comparison P W N :=
  .together (fun _ => True) (fun _ _ _ => True)
    (fun _ m ending _ => related m ending.2)

variable {related : Machine P W N → Machine P W N → Prop}

theorem Comparison.obeying_accounts_iff
    {results : α → α → Prop}
    {removals : α → Nat}
    {run other : Run P W N α} :
    (obeying related).Accounts removals results run other ↔ run.Obeys related :=
  together_accounts_iff.trans ⟨fun h m => h m trivial, fun h m _ => h m⟩

theorem Comparison.obeying_relatesScripts_iff
    {scripts others : Scripts P W N} :
    (obeying related).RelatesScripts scripts others ↔ scripts.Obey related := by
  constructor
  · intro h
    exact ⟨fun procedure event => obeying_accounts_iff.mp (h.handle procedure event),
      fun procedure => obeying_accounts_iff.mp (h.clean procedure)⟩
  · intro h
    exact ⟨fun procedure event => obeying_accounts_iff.mpr (h.handle procedure event),
      fun procedure => obeying_accounts_iff.mpr (h.clean procedure)⟩

open Comparison (obeying_accounts_iff obeying_relatesScripts_iff)

namespace Permits

variable {settings : Settings}
variable (permits : Permits settings related)
include permits

theorem lawful : (Comparison.obeying related).Lawful := by
  apply Comparison.together_lawful
  · intros
    trivial
  · intros
    trivial
  · intro α removals m value _ _
    exact permits.refl m
  · intro α β removals run _ next _ m _ first second
    show related m ((run >>= next) m).2
    rw [Run.bind_apply]
    unfold Run.andThen
    generalize run m = ending at first second
    obtain ⟨flow, after⟩ := ending
    cases flow with
    | returned value => exact permits.trans first (second value after rfl)
    | unwinding payload => exact first
    | exhausted => exact first

theorem emit
    {entry : Record P N}
    (plain : entry.isPlain = true) :
    (Run.emit entry : Run P W N Unit).Obeys related :=
  fun m => permits.record m entry plain

theorem unwind (payload : Payload) :
    (Run.unwind payload : Run P W N α).Obeys related :=
  fun m => permits.refl m

theorem observes : (Comparison.obeying related).Observes where
  observe := by
    intro α β results answers run _ next hrun hnext hexhausted m _ start
    have first : related m (run m).2 := obeying_accounts_iff.mp hrun m
    show related m (next (run m).1 (run m).2).2
    generalize run m = ending at first
    obtain ⟨flow, after⟩ := ending
    by_cases hends : flow = .exhausted
    · subst hends
      rw [hexhausted]
      exact first
    · exact permits.trans first (obeying_accounts_iff.mp (hnext flow hends) after)
  unwind payload := obeying_accounts_iff.mpr (permits.unwind payload)
  settle := by
    intro record hrecord
    apply obeying_accounts_iff.mpr
    apply permits.emit
    cases record with
    | cleanupEnded | cleanupUnwound | unwound | log => rfl
    | _ => cases hrecord

theorem interprets : (Comparison.obeying related).Interprets where
  store h := congrArg Machine.store h.1.symm
  unwind payload := obeying_accounts_iff.mpr (permits.unwind payload)
  exhaust := obeying_accounts_iff.mpr fun m => permits.refl m
  write store := obeying_accounts_iff.mpr fun m => permits.write m store
  log _ := obeying_accounts_iff.mpr (permits.emit rfl)
  note _ := obeying_accounts_iff.mpr (permits.emit rfl)

/-- The answer to a call may be recorded, unless a registration was made. -/
theorem answered
    {call : Call P}
    (hother : ∀ spec, call ≠ .register spec)
    (value : call.Answer) :
    (Run.emit (.answered call value) : Run P W N Unit).Obeys related := by
  cases call with
  | register spec => exact absurd rfl (hother spec)
  | dispatch event => exact fun m => permits.report m event value
  | _ => exact permits.emit rfl

end Permits

section UserCode

variable {setup : Setup P W N} {scripts : Scripts P W N}
variable (permits : Permits setup.settings related)
include permits

/-- The steps obey a relation that goes on over them, if the cleanups do. -/
theorem Permits.steps
    (hclean : (Comparison.obeying related).RelatesScripts scripts scripts) :
    (Comparison.obeying related).Steps setup setup scripts scripts where
  adminClass := rfl
  adminWord := rfl
  log _ := obeying_accounts_iff.mpr (permits.emit rfl)
  send := by
    rintro nick text _ rfl
    apply Comparison.together_send permits.lawful
    · exact obeying_accounts_iff.mpr fun m => permits.send m
    · exact fun _ => obeying_accounts_iff.mpr (permits.emit rfl)
    · exact fun _ => obeying_accounts_iff.mpr (permits.emit rfl)
  toggle := by
    rintro a _ registration enabled ⟨rfl, _⟩ live change
    exact permits.toggle a registration enabled live change
  remove := by
    rintro a _ registration ⟨rfl, _⟩ live
    have left :
        (Comparison.obeying related).Relates Eq
          (Run.afterRemoval setup.settings scripts registration)
          (Run.afterRemoval setup.settings scripts registration) := by
      apply permits.lawful.andThen_eq
        (permits.observes.runCleanup permits.lawful hclean setup.settings
          registration)
      intro _
      apply permits.lawful.andThen_eq (obeying_accounts_iff.mpr (permits.emit rfl))
      intro _
      exact permits.lawful.same true
    exact permits.trans (permits.remove a registration live)
      (obeying_accounts_iff.mp left _)
  sweep := permits.lawful.sweep fun h => h
  report :=
    permits.lawful.report (fun h => h) fun _ =>
      obeying_accounts_iff.mpr (permits.emit rfl)
  answer hother hperform :=
    permits.observes.answer permits.lawful
      (fun value => obeying_accounts_iff.mpr (permits.answered hother value))
      hperform

/--
**All procedures obey a relation** if every dispatch does whose procedures obey it.
-/
theorem Setup.obey_scripts
    (hdispatch :
      ∀ room level,
        (setup.scripts room level).Obey related →
        ∀ event,
          (Run.dispatch setup.settings (setup.scripts room level) event).Obeys
            related)
    (room level : Nat) :
    (setup.scripts room level).Obey related := by
  apply obeying_relatesScripts_iff.mp
  apply permits.interprets.procedures permits.lawful rfl
  intro room level hscripts call
  by_cases hregister : ∃ spec, call = .register spec
  · obtain ⟨spec, rfl⟩ := hregister
    apply obeying_accounts_iff.mpr
    intro m
    rw [Run.answer_register]
    exact permits.register m spec
  · have hobey := obeying_relatesScripts_iff.mp hscripts
    exact
      (permits.steps hscripts).answers permits.lawful
        (fun event => obeying_accounts_iff.mpr (hdispatch room level hobey event))
        fun spec hcall => hregister ⟨spec, hcall⟩

end UserCode
end ScriptHub
