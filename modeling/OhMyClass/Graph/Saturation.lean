import Mathlib.Data.Finset.Card

/-!
# Rounds that add until nothing is left

A round adds items of a finite universe to a list.  After as many rounds as the
universe has items there is nothing left to add, and a set that is closed under
a relation holds all that is related to its items.
-/

namespace OhMyClass.Graph

universe u

variable {α : Type u} [DecidableEq α]

/-- A round that keeps what is there, adds from a universe only, and is over
when it adds nothing. -/
structure Saturating (nodes : List α) (round : List α → List α) : Prop where
  extensive : ∀ items, items ⊆ round items
  bounded : ∀ items, ∀ item ∈ round items, item ∈ items ∨ item ∈ nodes
  still : ∀ items, round items ⊆ items → round items = items

namespace Saturating

variable {nodes : List α} {round : List α → List α}

/-- The items of the universe that are still missing. -/
def missing (nodes items : List α) : Finset α :=
  nodes.toFinset.filter fun item => item ∉ items

omit [DecidableEq α] in
theorem mem_iterate_of_mem (saturating : Saturating nodes round) {items : List α} {item : α}
    (mem : item ∈ items) (rounds : Nat) : item ∈ round^[rounds] items := by
  induction rounds with
  | zero => exact mem
  | succ rounds ih =>
    rw [Function.iterate_succ_apply']
    exact saturating.extensive _ ih

theorem missing_lt (saturating : Saturating nodes round) {items : List α}
    (grows : round items ≠ items) :
    (missing nodes (round items)).card < (missing nodes items).card := by
  have added : ∃ item ∈ round items, item ∉ items := by
    by_contra none
    push Not at none
    exact grows (saturating.still items none)
  rcases added with ⟨item, isAdded, isNew⟩
  apply Finset.card_lt_card
  refine Finset.ssubset_iff_subset_ne.mpr ⟨fun other absent => ?_, fun same => ?_⟩
  · rw [missing, Finset.mem_filter] at absent ⊢
    exact ⟨absent.1, fun known => absent.2 (saturating.extensive items known)⟩
  · have inNodes : item ∈ nodes := (saturating.bounded items item isAdded).resolve_left isNew
    have wasMissing : item ∈ missing nodes items :=
      Finset.mem_filter.mpr ⟨List.mem_toFinset.mpr inNodes, isNew⟩
    rw [← same, missing, Finset.mem_filter] at wasMissing
    exact wasMissing.2 isAdded

theorem iterate_or_missing (saturating : Saturating nodes round) (items : List α) (rounds : Nat) :
    round (round^[rounds] items) = round^[rounds] items ∨
      (missing nodes (round^[rounds] items)).card + rounds ≤ nodes.length := by
  induction rounds with
  | zero =>
    right
    exact (Finset.card_filter_le _ _).trans (List.toFinset_card_le nodes)
  | succ rounds ih =>
    rw [Function.iterate_succ_apply']
    by_cases done : round (round^[rounds] items) = round^[rounds] items
    · left
      rw [done, done]
    · right
      have before := ih.resolve_left done
      have fewer := saturating.missing_lt done
      omega

theorem iterate_saturated (saturating : Saturating nodes round) (items : List α) :
    round (round^[nodes.length] items) = round^[nodes.length] items := by
  rcases saturating.iterate_or_missing items nodes.length with done | few
  · exact done
  · have none : missing nodes (round^[nodes.length] items) = ∅ :=
      Finset.card_eq_zero.mp (by omega)
    apply saturating.still
    intro item isAdded
    rcases saturating.bounded _ item isAdded with known | inNodes
    · exact known
    · by_contra absent
      have isMissing : item ∈ missing nodes (round^[nodes.length] items) :=
        Finset.mem_filter.mpr ⟨List.mem_toFinset.mpr inNodes, absent⟩
      rw [none] at isMissing
      exact absurd isMissing (Finset.notMem_empty item)

end Saturating

theorem mem_of_reflTransGen {α : Type u} {relates : α → α → Prop} (closed : α → Prop)
    (step : ∀ source target, closed source → relates source target → closed target)
    {source target : α} (path : Relation.ReflTransGen relates source target)
    (start : closed source) : closed target := by
  induction path with
  | refl => exact start
  | tail _ last ih => exact step _ _ ih last

end OhMyClass.Graph
