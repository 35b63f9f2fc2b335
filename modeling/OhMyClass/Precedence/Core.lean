import Mathlib.Order.WellFoundedSet

/-!
# Finite precedence relations

Items that require other items before them.  Where finitely many items are
required at all and none requires itself, directly or not, the requirements
are well-founded: what is outstanding always has an item that can be done
next.
-/

namespace OhMyClass.Precedence

universe u

variable {α : Type u} {requires : α → α → Prop}

/-- No item requires itself, directly or not; `requires earlier later` says
that `later` has to wait for `earlier`. -/
def Acyclic (requires : α → α → Prop) : Prop :=
  ∀ item, ¬ Relation.TransGen requires item item

theorem acyclic_of_rank (rank : α → Nat)
    (increases : ∀ earlier later, requires earlier later → rank earlier < rank later) :
    Acyclic requires := by
  have increases_trans {earlier later : α} (before : Relation.TransGen requires earlier later) :
      rank earlier < rank later := by
    induction before with
    | single before => exact increases _ _ before
    | tail _ before ih => exact ih.trans (increases _ _ before)
  intro item cycle
  exact Nat.lt_irrefl _ (increases_trans cycle)

namespace Acyclic

theorem wellFounded (acyclic : Acyclic requires) {required : Set α} (finite : required.Finite)
    (covers : ∀ earlier later, requires earlier later → earlier ∈ required) :
    WellFounded requires := by
  have : IsStrictOrder α (Relation.TransGen requires) :=
    { irrefl := acyclic, trans := fun _ _ _ => Relation.TransGen.trans }
  have onRequired : required.WellFoundedOn (Relation.TransGen requires) := finite.wellFoundedOn
  have accessible (item : α) (mem : item ∈ required) : Acc requires item := by
    apply onRequired.induction mem
    intro later _ ih
    constructor
    intro earlier before
    exact ih earlier (covers earlier later before) (.single before)
  constructor
  intro item
  constructor
  intro earlier before
  exact accessible earlier (covers earlier item before)

theorem exists_next (acyclic : Acyclic requires) {required : Set α} (finite : required.Finite)
    (covers : ∀ earlier later, requires earlier later → earlier ∈ required)
    {outstanding : Set α} (isSome : outstanding.Nonempty) :
    ∃ item ∈ outstanding, ∀ earlier, requires earlier item → earlier ∉ outstanding := by
  rcases (acyclic.wellFounded finite covers).has_min outstanding isSome with
    ⟨item, mem, isFirst⟩
  exact ⟨item, mem, fun earlier before isOutstanding => isFirst earlier isOutstanding before⟩

end Acyclic

theorem done_of_transGen {done : α → Prop}
    (downward : ∀ earlier later, requires earlier later → done later → done earlier)
    {earlier later : α} (before : Relation.TransGen requires earlier later) (isDone : done later) :
    done earlier := by
  induction before using Relation.TransGen.head_induction_on with
  | single before => exact downward _ _ before isDone
  | head before _ ih => exact downward _ _ before ih

end OhMyClass.Precedence
