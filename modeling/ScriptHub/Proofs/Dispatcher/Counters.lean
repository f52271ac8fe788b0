import ScriptHub.Proofs.Dispatcher.Evolution

/-!
# The counters of registrations

The counters are moved by one where a registration is made, removed or toggled.
As words they therefore equal what counting the live registrations would give,
however many there are.  As numbers they are equal too as long as fewer
registrations were made than a word can hold.

**Results.**
* `Counted`: the counters as words, and what keeps them right.
* `Counted.countersAgree`: the counters as numbers.
-/

namespace ScriptHub

/-- The counter of the registrations whose flag has a given value. -/
def Tally.counter
    (tally : Tally)
    (flag : Bool) :
    UInt64 :=
  if flag then tally.active else tally.disabled

namespace Tally

variable (tally : Tally) (enabled flag : Bool)

theorem counter_registered :
    (tally.registered enabled).counter flag =
      tally.counter flag + if flag = enabled then 1 else 0 := by
  cases enabled <;> cases flag <;> simp [registered, counter]

theorem counter_unregistered :
    (tally.unregistered enabled).counter flag =
      tally.counter flag - if flag = enabled then 1 else 0 := by
  cases enabled <;> cases flag <;> simp [unregistered, counter]

theorem counter_toggled :
    (tally.toggled enabled).counter flag =
      if flag = enabled then tally.counter flag + 1
      else tally.counter flag - 1 := by
  cases enabled <;> cases flag <;> simp [toggled, counter]

theorem total_registered :
    (tally.registered enabled).total = tally.total + 1 := by
  cases enabled <;> rfl

theorem total_unregistered :
    (tally.unregistered enabled).total = tally.total := by
  cases enabled <;> rfl

theorem total_toggled :
    (tally.toggled enabled).total = tally.total := by
  cases enabled <;> rfl

end Tally

namespace Dispatcher

variable {P : Type} {state : Dispatcher P}

/-- The number of live registrations whose flag has a given value. -/
def liveWith
    (state : Dispatcher P)
    (flag : Bool) :
    Nat :=
  state.live.countP fun registration => registration.enabled == flag

theorem liveWith_enrolled
    (state : Dispatcher P)
    (spec : Spec P)
    (priority : Int32)
    (flag : Bool) :
    (state.enrolled spec priority).liveWith flag =
      state.liveWith flag + if flag = spec.autoEnable then 1 else 0 := by
  show
    (state.live ++ [_]).countP _ = _
  rw [List.countP_append]
  congr 1
  by_cases h : flag = spec.autoEnable
  · simp [h]
  · simp [h, Ne.symm h]

/-- Removing a live registration takes away one with its flag. -/
theorem WellFormed.liveWith_withdrawn
    (h : state.WellFormed)
    {registration : Registration P}
    (hlive : state.find? registration.id = some registration)
    (flag : Bool) :
    (state.withdrawn registration.id).liveWith flag +
        (if flag = registration.enabled then 1 else 0) =
      state.liveWith flag := by
  have hascending := h.ascending
  have hmem := mem_live_of_find? hlive
  show
    (state.live.filter _).countP _ + _ = state.live.countP _
  generalize state.live = live at hascending hmem
  induction live with
  | nil => simp at hmem
  | cons first rest ih =>
      obtain ⟨hfirst, hrest⟩ := List.pairwise_cons.mp hascending
      rcases List.mem_cons.mp hmem with rfl | hmem
      · have hkeep :
            rest.filter (fun other => other.id != registration.id) = rest := by
          rw [List.filter_eq_self]
          intro other hother
          have hlt := hfirst other hother
          simpa using Nat.ne_of_gt hlt
        rw [List.filter_cons, if_neg (by simp), hkeep, List.countP_cons]
        by_cases hflag : flag = registration.enabled
        · simp [hflag]
        · simp [hflag, Ne.symm hflag]
      · have hne : first.id ≠ registration.id :=
          Nat.ne_of_lt (hfirst registration hmem)
        have hrec := ih hrest hmem
        rw [List.filter_cons, if_pos (by simpa using hne), List.countP_cons,
          List.countP_cons]
        omega

/-- Changing a flag moves one registration from one count to the other. -/
theorem WellFormed.liveWith_setFlag
    (h : state.WellFormed)
    {registration : Registration P}
    (hlive : state.find? registration.id = some registration)
    (enabled flag : Bool) :
    (state.setFlag registration.id enabled).liveWith flag +
        (if flag = registration.enabled then 1 else 0) =
      state.liveWith flag + (if flag = enabled then 1 else 0) := by
  let changed : Registration P := { registration with enabled := enabled }
  have hafter :
      (state.setFlag registration.id enabled).find? changed.id =
        some changed := by
    rw [find?_setFlag, hlive]
    simp [changed]
  have hbefore := h.liveWith_withdrawn hlive flag
  have hthen :=
    (h.setFlag registration.id enabled).liveWith_withdrawn hafter flag
  have hsame :
      ((state.setFlag registration.id enabled).withdrawn
          registration.id).liveWith flag =
        (state.withdrawn registration.id).liveWith flag := by
    show
      ((state.live.map _).filter _).countP _ = (state.live.filter _).countP _
    rw [List.filter_map, List.countP_map, List.countP_filter, List.countP_filter]
    apply List.countP_congr
    intro other _
    by_cases hid : other.id = registration.id <;> simp [hid]
  simp only [changed] at hthen
  omega

/-- The number of live registrations is the number of both flags together. -/
theorem liveWith_add (state : Dispatcher P) :
    state.liveWith true + state.liveWith false = state.count := by
  unfold liveWith count
  have key :=
    List.length_eq_countP_add_countP
      (fun registration : Registration P => registration.enabled == true)
      (l := state.live)
  rw [key]
  congr 1
  apply List.countP_congr
  intro registration _
  cases registration.enabled <;> simp

/--
The counters as words, in a dispatcher in which so many registrations were made.
-/
structure Counted (state : Dispatcher P) (made : Nat) : Prop where
  live :
    ∀ flag,
      state.tally.counter flag = UInt64.ofNat (state.liveWith flag)
  total : state.tally.total = UInt64.ofNat made
  nextId : state.nextId = made + 1

theorem counted_empty : (empty : Dispatcher P).Counted 0 where
  live := by
    intro flag
    cases flag <;> rfl
  total := rfl
  nextId := rfl

variable {made : Nat}

/-- Making a registration keeps the counters right. -/
theorem Counted.registered
    (h : state.Counted made)
    (spec : Spec P)
    (priority : Int32) :
    ((state.enrolled spec priority).retally fun tally =>
      tally.registered spec.autoEnable).Counted (made + 1) where
  live := by
    intro flag
    show
      (state.tally.registered spec.autoEnable).counter flag =
        UInt64.ofNat ((state.enrolled spec priority).liveWith flag)
    rw [Tally.counter_registered, liveWith_enrolled, h.live flag,
      UInt64.ofNat_add]
    by_cases hflag : flag = spec.autoEnable <;> simp [hflag]
  total := by
    show
      (state.tally.registered spec.autoEnable).total = _
    rw [Tally.total_registered, h.total, UInt64.ofNat_add]
    rfl
  nextId := by
    show
      state.nextId + 1 = _
    rw [h.nextId]

/-- Removing a live registration keeps the counters right. -/
theorem Counted.unregistered
    (h : state.Counted made)
    (hwf : state.WellFormed)
    {registration : Registration P}
    (hlive : state.find? registration.id = some registration) :
    ((state.withdrawn registration.id).retally fun tally =>
      tally.unregistered registration.enabled).Counted made where
  live := by
    intro flag
    show
      (state.tally.unregistered registration.enabled).counter flag =
        UInt64.ofNat ((state.withdrawn registration.id).liveWith flag)
    rw [Tally.counter_unregistered, h.live flag,
      ← hwf.liveWith_withdrawn hlive flag, UInt64.ofNat_add]
    by_cases hflag : flag = registration.enabled <;> simp [hflag]
  total := by
    show
      (state.tally.unregistered registration.enabled).total = _
    rw [Tally.total_unregistered, h.total]
  nextId := h.nextId

/-- Changing a flag keeps the counters right. -/
theorem Counted.toggled
    (h : state.Counted made)
    (hwf : state.WellFormed)
    {registration : Registration P}
    (hlive : state.find? registration.id = some registration)
    {enabled : Bool}
    (hchange : registration.enabled ≠ enabled) :
    ((state.setFlag registration.id enabled).retally fun tally =>
      tally.toggled enabled).Counted made where
  live := by
    intro flag
    have hmove := hwf.liveWith_setFlag hlive enabled flag
    show
      (state.tally.toggled enabled).counter flag =
        UInt64.ofNat ((state.setFlag registration.id enabled).liveWith flag)
    rw [Tally.counter_toggled, h.live flag]
    by_cases hflag : flag = enabled
    · subst hflag
      rw [if_neg hchange.symm, if_pos rfl, Nat.add_zero] at hmove
      rw [if_pos rfl, hmove, UInt64.ofNat_add]
      rfl
    · have hold : flag = registration.enabled := by
        cases flag <;> cases enabled <;> cases hr : registration.enabled <;>
          simp_all
      rw [if_pos hold, if_neg hflag] at hmove
      rw [if_neg hflag, ← Nat.add_zero (state.liveWith flag), ← hmove,
        UInt64.ofNat_add]
      simp
  total := by
    show
      (state.tally.toggled enabled).total = _
    rw [Tally.total_toggled, h.total]
  nextId := h.nextId

/-- Counting calls leaves the counters of registrations as they were. -/
theorem Counted.attempted
    (h : state.Counted made)
    (kind : EventKind) :
    (state.retally fun tally => tally.attempted kind).Counted made :=
  ⟨h.live, h.total, h.nextId⟩

theorem Counted.failed
    (h : state.Counted made)
    (kind : EventKind) :
    (state.retally fun tally => tally.failed kind).Counted made :=
  ⟨h.live, h.total, h.nextId⟩

/-- The counters as numbers. -/
structure CountersAgree (state : Dispatcher P) (made : Nat) : Prop where
  active :
    state.tally.active.toNat =
      state.live.countP fun registration => registration.enabled
  disabled :
    state.tally.disabled.toNat =
      state.live.countP fun registration => !registration.enabled
  together :
    state.tally.active.toNat + state.tally.disabled.toNat = state.count
  total : state.tally.total.toNat = made

/-- There are no more live registrations than ids were issued. -/
theorem WellFormed.count_le
    (h : state.WellFormed) :
    state.count ≤ state.nextId := by
  have hnodup : state.ids.Nodup :=
    (List.pairwise_map.mpr h.ascending).imp Nat.ne_of_lt
  have hsub : state.ids ⊆ List.range state.nextId := by
    intro script hscript
    obtain ⟨registration, hmem, rfl⟩ := List.mem_map.mp hscript
    exact List.mem_range.mpr (h.issued registration hmem)
  have key := (List.subperm_of_subset hnodup hsub).length_le
  simpa [ids, count] using key

/-- **The counters do not wrap** while registrations can be numbered. -/
theorem Counted.countersAgree
    (h : state.Counted made)
    (hwf : state.WellFormed)
    (few : made < UInt64.size - 1) :
    state.CountersAgree made := by
  have hcount := hwf.count_le
  have hadd := state.liveWith_add
  have hnext : made + 1 = state.nextId := h.nextId.symm
  have hnumber :
      ∀ flag,
        (state.tally.counter flag).toNat = state.liveWith flag := by
    intro flag
    rw [h.live flag]
    apply UInt64.toNat_ofNat_of_lt'
    show
      _ < UInt64.size
    cases flag <;> omega
  have hactive : state.tally.active.toNat = state.liveWith true :=
    hnumber true
  have hdisabled : state.tally.disabled.toNat = state.liveWith false :=
    hnumber false
  refine ⟨?_, ?_, ?_, ?_⟩
  · rw [hactive]
    apply List.countP_congr
    intro registration _
    simp
  · rw [hdisabled]
    apply List.countP_congr
    intro registration _
    simp
  · rw [hactive, hdisabled, hadd]
  · rw [h.total]
    apply UInt64.toNat_ofNat_of_lt'
    show
      _ < UInt64.size
    omega

end Dispatcher
end ScriptHub
