import ScriptHub.Dispatcher.HookTable
import Mathlib.Data.List.Sort

/-!
# Chains as stable sorts

A chain grows by one binding at a time, which bisection places, and loses the
bindings of a registration by filtering.  This module compares both operations
with sorting from scratch.  Sorting is the stable merge sort by priority.

**Results.**
* `place_sorted`: placing a binding in a sorted chain gives the chain that
  sorting would give if the binding had been listed last.
* `filter_sorted`: dropping bindings before or after sorting is the same.
* `pairwise_precedes_sorted`: where the bindings were listed in ascending order
  of ids, a sorted chain is strictly ascending in priority and id.
-/

namespace ScriptHub
namespace Binding

variable {P : Type}

/-- One binding has no greater priority than another. -/
def NoLater (a b : Binding P) : Prop :=
  a.priority ≤ b.priority

/-- One binding has a smaller priority than another. -/
def Earlier (a b : Binding P) : Prop :=
  a.priority < b.priority

/-- One binding stands before another in every chain that has both. -/
def Precedes (a b : Binding P) : Prop :=
  a.priority < b.priority ∨ a.priority = b.priority ∧ a.script < b.script

instance : DecidableRel (NoLater (P := P)) :=
  fun a b => inferInstanceAs (Decidable (a.priority ≤ b.priority))

instance : DecidableRel (Earlier (P := P)) :=
  fun a b => inferInstanceAs (Decidable (a.priority < b.priority))

theorem not_noLater_iff {a b : Binding P} :
    ¬ NoLater a b ↔ Earlier b a :=
  Int32.not_le

theorem not_earlier_iff {a b : Binding P} :
    ¬ Earlier a b ↔ NoLater b a :=
  Int32.not_lt

theorem NoLater.trans
    {a b c : Binding P}
    (hab : NoLater a b)
    (hbc : NoLater b c) :
    NoLater a c :=
  Int32.le_trans hab hbc

/-- The chain of some bindings: sorted by priority, ties as listed. -/
def sorted (listed : List (Binding P)) : List (Binding P) :=
  listed.mergeSort fun a b => decide (a.priority ≤ b.priority)

theorem decide_noLater_trans
    (a b c : Binding P)
    (hab : decide (a.priority ≤ b.priority) = true)
    (hbc : decide (b.priority ≤ c.priority) = true) :
    decide (a.priority ≤ c.priority) = true :=
  decide_eq_true
    (Int32.le_trans (of_decide_eq_true hab) (of_decide_eq_true hbc))

theorem decide_noLater_total (a b : Binding P) :
    (decide (a.priority ≤ b.priority) || decide (b.priority ≤ a.priority)) =
      true := by
  have htotal := Int32.le_total a.priority b.priority
  simpa using htotal

theorem pairwise_sorted (listed : List (Binding P)) :
    (sorted listed).Pairwise NoLater := by
  have key :=
    List.pairwise_mergeSort
      decide_noLater_trans decide_noLater_total listed
  exact key.imp of_decide_eq_true

theorem sorted_perm (listed : List (Binding P)) :
    (sorted listed).Perm listed :=
  List.mergeSort_perm listed _

theorem mem_sorted
    {listed : List (Binding P)}
    {binding : Binding P} :
    binding ∈ sorted listed ↔ binding ∈ listed :=
  (sorted_perm listed).mem_iff

/-- Sorting a list inserts its first binding into the rest, already sorted. -/
theorem sorted_cons
    (first : Binding P)
    (rest : List (Binding P)) :
    sorted (first :: rest) =
      (sorted rest).orderedInsert NoLater first := by
  obtain ⟨front, back, hall, hrest, hfront⟩ :=
    List.mergeSort_cons
      decide_noLater_trans decide_noLater_total first rest
  have hpairwise := pairwise_sorted (first :: rest)
  unfold sorted at hpairwise ⊢
  rw [hall] at hpairwise ⊢
  rw [hrest, List.orderedInsert_eq_take_drop]
  have htake : ∀ b ∈ front, decide (¬ NoLater first b) = true := by
    intro b hb
    simpa [NoLater] using hfront b hb
  have hback : ∀ b ∈ back, NoLater first b := by
    intro b hb
    have htail := (List.pairwise_append.mp hpairwise).2.1
    exact (List.pairwise_cons.mp htail).1 b hb
  rw [List.takeWhile_append_of_pos htake, List.dropWhile_append_of_pos htake]
  cases back with
  | nil => simp
  | cons b back =>
      have hb := hback b (by simp)
      simp [hb]

/--
Inserting one binding in front of its equals and another behind its equals can
be done in either order.
-/
theorem orderedInsert_comm
    (first last : Binding P)
    (chain : List (Binding P)) :
    (chain.orderedInsert NoLater first).orderedInsert Earlier last =
      (chain.orderedInsert Earlier last).orderedInsert NoLater first := by
  induction chain with
  | nil =>
      by_cases h : NoLater first last
      · simp [h, not_earlier_iff.mpr h]
      · simp [h, not_noLater_iff.mp h]
  | cons b chain ih =>
      by_cases hfirst : NoLater first b
      · by_cases hlast : Earlier last b
        · by_cases h : NoLater first last
          · simp [hfirst, hlast, h, not_earlier_iff.mpr h]
          · simp [hfirst, hlast, h, not_noLater_iff.mp h]
        · have hle : NoLater first last :=
            hfirst.trans (not_earlier_iff.mp hlast)
          simp [hfirst, hlast, not_earlier_iff.mpr hle]
      · by_cases hlast : Earlier last b
        · have hlt : ¬ NoLater first last := by
            intro hle
            exact hfirst (Int32.le_trans hle (Int32.le_of_lt hlast))
          simp [hfirst, hlast, hlt]
        · simp [hfirst, hlast, ih]

/-- A binding listed last stands behind its equals. -/
theorem sorted_append_singleton
    (listed : List (Binding P))
    (last : Binding P) :
    sorted (listed ++ [last]) =
      (sorted listed).orderedInsert Earlier last := by
  induction listed with
  | nil => simp [sorted]
  | cons first rest ih =>
      rw [List.cons_append, sorted_cons, ih, sorted_cons, orderedInsert_comm]

/-- In a sorted chain a greater priority is followed by greater ones only. -/
theorem earlier_of_mem_dropWhile
    {binding other : Binding P}
    {chain : List (Binding P)}
    (hchain : chain.Pairwise NoLater)
    (hother :
      other ∈ chain.dropWhile fun a =>
        decide (a.priority ≤ binding.priority)) :
    Earlier binding other := by
  induction chain with
  | nil => simp at hother
  | cons b chain ih =>
      obtain ⟨hb, htail⟩ := List.pairwise_cons.mp hchain
      by_cases h : b.priority ≤ binding.priority
      · simp only [List.dropWhile_cons, h, decide_true, if_true] at hother
        exact ih htail hother
      · simp only [List.dropWhile_cons, h, decide_false, Bool.false_eq_true,
          if_false] at hother
        have hlt : Earlier binding b := not_noLater_iff.mp h
        rcases List.mem_cons.mp hother with rfl | hmem
        · exact hlt
        · exact Int32.lt_of_lt_of_le hlt (hb other hmem)

/-- Bisection places a binding behind its equals, if the chain is sorted. -/
theorem place_eq_orderedInsert
    (binding : Binding P)
    {chain : List (Binding P)}
    (hchain : chain.Pairwise NoLater) :
    HookTable.place binding chain =
      chain.orderedInsert Earlier binding := by
  let p : Binding P → Bool := fun other =>
    decide (other.priority ≤ binding.priority)
  have hsplit : chain.takeWhile p ++ chain.dropWhile p = chain :=
    List.takeWhile_append_dropWhile
  have hfront : ∀ other ∈ chain.takeWhile p, p other = true := by
    intro other hother
    exact List.all_eq_true.mp List.all_takeWhile other hother
  have hback : ∀ other ∈ chain.dropWhile p, p other = false := by
    intro other hother
    exact decide_eq_false
      (not_noLater_iff.mpr (earlier_of_mem_dropWhile hchain hother))
  have hpoint :
      partitionPoint p chain = (chain.takeWhile p).length := by
    have key := partitionPoint_append hfront hback
    rwa [hsplit] at key
  have htake :
      chain.take (chain.takeWhile p).length = chain.takeWhile p := by
    have key :
        (chain.takeWhile p ++ chain.dropWhile p).take
            (chain.takeWhile p).length =
          chain.takeWhile p :=
      List.take_left
    rwa [hsplit] at key
  have hdrop :
      chain.drop (chain.takeWhile p).length = chain.dropWhile p := by
    have key :
        (chain.takeWhile p ++ chain.dropWhile p).drop
            (chain.takeWhile p).length =
          chain.dropWhile p :=
      List.drop_left
    rwa [hsplit] at key
  have hp : (fun other => decide (¬ Earlier binding other)) = p := by
    funext other
    simp [p, not_earlier_iff, NoLater]
  rw [List.orderedInsert_eq_take_drop, hp]
  show
    chain.take (partitionPoint p chain) ++
        binding :: chain.drop (partitionPoint p chain) = _
  rw [hpoint, htake, hdrop]

/-- **Placing agrees with sorting.** -/
theorem place_sorted
    (binding : Binding P)
    (listed : List (Binding P)) :
    HookTable.place binding (sorted listed) = sorted (listed ++ [binding]) := by
  rw [sorted_append_singleton]
  exact place_eq_orderedInsert binding (pairwise_sorted listed)

/-- Dropping bindings from a sorted chain commutes with inserting one. -/
theorem filter_orderedInsert
    (p : Binding P → Bool)
    (first : Binding P)
    {chain : List (Binding P)}
    (hchain : chain.Pairwise NoLater) :
    (chain.orderedInsert NoLater first).filter p =
      if p first then
        (chain.filter p).orderedInsert NoLater first
      else
        chain.filter p := by
  induction chain with
  | nil => by_cases hp : p first <;> simp [hp]
  | cons b chain ih =>
      obtain ⟨hb, htail⟩ := List.pairwise_cons.mp hchain
      by_cases h : NoLater first b
      · have hfirst : ∀ other ∈ (b :: chain).filter p, NoLater first other := by
          intro other hother
          rcases List.mem_cons.mp (List.mem_filter.mp hother).1 with rfl | hmem
          · exact h
          · exact h.trans (hb other hmem)
        rw [List.orderedInsert_cons, if_pos h, List.filter_cons]
        by_cases hp : p first
        · rw [if_pos hp, if_pos hp]
          cases hkept : (b :: chain).filter p with
          | nil => simp
          | cons c kept =>
              have hc : NoLater first c := by
                apply hfirst
                simp [hkept]
              simp [hc]
        · rw [if_neg hp, if_neg hp]
      · have ih := ih htail
        rw [List.orderedInsert_cons, if_neg h]
        by_cases hpb : p b <;> by_cases hp : p first <;>
          simp [hpb, hp, h, ih]

/-- **Dropping bindings commutes with sorting.** -/
theorem filter_sorted
    (p : Binding P → Bool)
    (listed : List (Binding P)) :
    (sorted listed).filter p = sorted (listed.filter p) := by
  induction listed with
  | nil => simp [sorted]
  | cons first rest ih =>
      rw [sorted_cons, filter_orderedInsert p first (pairwise_sorted rest), ih,
        List.filter_cons]
      by_cases hp : p first
      · rw [if_pos hp, if_pos hp, sorted_cons]
      · rw [if_neg hp, if_neg hp]

theorem Precedes.noLater
    {a b : Binding P}
    (h : Precedes a b) :
    NoLater a b := by
  rcases h with hlt | ⟨heq, _⟩
  · exact Int32.le_of_lt hlt
  · exact Int32.le_of_eq heq

/-- A smaller id settles what the priorities leave open. -/
theorem NoLater.precedes
    {a b : Binding P}
    (hle : NoLater a b)
    (hscript : a.script < b.script) :
    Precedes a b := by
  by_cases h : b.priority ≤ a.priority
  · exact Or.inr ⟨Int32.le_antisymm hle h, hscript⟩
  · exact Or.inl (not_noLater_iff.mp h)

theorem pairwise_precedes_orderedInsert
    {first : Binding P}
    {chain : List (Binding P)}
    (hchain : chain.Pairwise Precedes)
    (hfirst : ∀ b ∈ chain, first.script < b.script) :
    (chain.orderedInsert NoLater first).Pairwise Precedes := by
  induction chain with
  | nil => simp
  | cons b chain ih =>
      obtain ⟨hb, htail⟩ := List.pairwise_cons.mp hchain
      rw [List.orderedInsert_cons]
      by_cases h : NoLater first b
      · rw [if_pos h]
        apply List.Pairwise.cons _ hchain
        intro c hc
        have hle : NoLater first c := by
          rcases List.mem_cons.mp hc with rfl | hmem
          · exact h
          · exact h.trans (hb c hmem).noLater
        exact hle.precedes (hfirst c hc)
      · rw [if_neg h]
        have hrest : ∀ c ∈ chain, first.script < c.script :=
          fun c hc => hfirst c (List.mem_cons_of_mem b hc)
        apply List.Pairwise.cons _ (ih htail hrest)
        intro c hc
        rcases (List.mem_orderedInsert NoLater).mp hc with rfl | hmem
        · exact Or.inl (not_noLater_iff.mp h)
        · exact hb c hmem

/-- Bindings listed in ascending order of ids are sorted by priority and id. -/
theorem pairwise_precedes_sorted
    {listed : List (Binding P)}
    (hlisted : listed.Pairwise fun a b => a.script < b.script) :
    (sorted listed).Pairwise Precedes := by
  induction listed with
  | nil => simp [sorted]
  | cons first rest ih =>
      obtain ⟨hfirst, hrest⟩ := List.pairwise_cons.mp hlisted
      rw [sorted_cons]
      apply pairwise_precedes_orderedInsert (ih hrest)
      intro b hb
      exact hfirst b (mem_sorted.mp hb)

end Binding
end ScriptHub
