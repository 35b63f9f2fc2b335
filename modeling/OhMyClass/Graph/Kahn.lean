import Mathlib.Order.WellFoundedSet
import OhMyClass.Sorting.Core

/-!
# Taking the nodes of a graph in order

A node is taken once all its predecessors are.  All nodes of a finite graph are
taken exactly where the graph has no cycle.
-/

namespace OhMyClass.Graph

open List Function Relation Sorting

universe u

variable {α : Type u} [LinearOrder α]

def Edge (edges : List (α × α)) (source target : α) : Prop :=
  (source, target) ∈ edges

instance (edges : List (α × α)) (source target : α) : Decidable (Edge edges source target) :=
  inferInstanceAs (Decidable (_ ∈ edges))

/-- No node is before itself. -/
def Acyclic (edges : List (α × α)) : Prop :=
  ∀ node, ¬ TransGen (Edge edges) node node

/-- The successors of the nodes and the numbers of their predecessors. -/
structure Degrees (α : Type u) where
  adjacency : α → List α
  indegree : α → Nat

def Degrees.empty : Degrees α where
  adjacency _ := []
  indegree _ := 0

def Degrees.add (degrees : Degrees α) (edge : α × α) : Degrees α :=
  if edge.2 ∈ degrees.adjacency edge.1 then degrees
  else
    { adjacency := Function.update degrees.adjacency edge.1
        (degrees.adjacency edge.1 ++ [edge.2])
      indegree := Function.update degrees.indegree edge.2 (degrees.indegree edge.2 + 1) }

def countEdges (edges : List (α × α)) : Degrees α :=
  edges.foldl Degrees.add Degrees.empty

/-- One predecessor of the target is taken. -/
def release (state : (α → Nat) × List α) (target : α) : (α → Nat) × List α :=
  (Function.update state.1 target (state.1 target - 1),
    if state.1 target - 1 = 0 then state.2 ++ [target] else state.2)

/-- The number of nodes taken from the queue; `none` where the fuel runs out. -/
def drain (adjacency : α → List α) : Nat → (α → Nat) × List α → Nat → Option Nat
  | _, (_, []), visited => some visited
  | 0, (_, _ :: _), _ => none
  | fuel + 1, (indegree, node :: queue), visited =>
    drain adjacency fuel ((sortBy id (adjacency node)).foldl release (indegree, queue)) (visited + 1)

def visitedCount (nodes : List α) (edges : List (α × α)) : Option Nat :=
  let degrees := countEdges edges
  drain degrees.adjacency nodes.length
    (degrees.indegree, sortBy id (nodes.filter fun node => degrees.indegree node = 0)) 0

/-! ## The counts -/

/-- The predecessors of a node among some nodes. -/
def predecessors (edges : List (α × α)) (among : Finset α) (target : α) : Finset α :=
  {source ∈ among | Edge edges source target}

omit [LinearOrder α] in
variable {edges : List (α × α)} {edge : α × α}

@[simp]
theorem edge_concat {source target : α} :
    Edge (edges ++ [edge]) source target ↔
      Edge edges source target ∨ (source = edge.1 ∧ target = edge.2) := by
  simp [Edge, Prod.ext_iff]

/-- The counts agree with the edges among some nodes. -/
structure Degrees.Counts (degrees : Degrees α) (edges : List (α × α)) (nodes : Finset α) :
    Prop where
  mem_adjacency : ∀ source target,
    target ∈ degrees.adjacency source ↔ Edge edges source target
  nodup : ∀ source, (degrees.adjacency source).Nodup
  indegree : ∀ target, degrees.indegree target = (predecessors edges nodes target).card

variable {nodes : Finset α}

theorem Degrees.Counts.add {degrees : Degrees α} (counts : degrees.Counts edges nodes)
    (source_mem : edge.1 ∈ nodes) :
    (degrees.add edge).Counts (edges ++ [edge]) nodes := by
  unfold Degrees.add
  split
  next known =>
    have same (source target : α) :
        Edge (edges ++ [edge]) source target ↔ Edge edges source target := by
      rw [edge_concat]
      constructor
      · rintro (old | ⟨rfl, rfl⟩)
        · exact old
        · exact (counts.mem_adjacency _ _).mp known
      · exact Or.inl
    exact
      { mem_adjacency := fun source target => by rw [counts.mem_adjacency, same]
        nodup := counts.nodup
        indegree := fun target => by
          rw [counts.indegree]
          simp only [predecessors, same] }
  next unknown =>
    have isNew : ¬ Edge edges edge.1 edge.2 := fun old =>
      unknown ((counts.mem_adjacency _ _).mpr old)
    constructor
    · intro source target
      by_cases isSource : source = edge.1
      · subst isSource
        simp [counts.mem_adjacency]
      · simp [counts.mem_adjacency, isSource]
    · intro source
      by_cases isSource : source = edge.1
      · subst isSource
        change (Function.update degrees.adjacency edge.1 _ edge.1).Nodup
        rw [update_self]
        exact (counts.nodup _).append (nodup_singleton _)
          (disjoint_singleton.mpr unknown)
      · simpa [update_of_ne isSource] using counts.nodup source
    · intro target
      by_cases isTarget : target = edge.2
      · subst isTarget
        have inserted : predecessors (edges ++ [edge]) nodes edge.2 =
            insert edge.1 (predecessors edges nodes edge.2) := by
          ext source
          simp only [predecessors, edge_concat, Finset.mem_filter, Finset.mem_insert, and_true]
          constructor
          · rintro ⟨mem, old | isSource⟩
            · exact .inr ⟨mem, old⟩
            · exact .inl isSource
          · rintro (rfl | ⟨mem, old⟩)
            · exact ⟨source_mem, .inr rfl⟩
            · exact ⟨mem, .inl old⟩
        have absent : edge.1 ∉ predecessors edges nodes edge.2 := fun mem =>
          isNew (Finset.mem_filter.mp mem).2
        simp only [update_self]
        rw [inserted, Finset.card_insert_of_notMem absent, counts.indegree]
      · simp only [update_of_ne isTarget, counts.indegree]
        simp only [predecessors, edge_concat, isTarget, and_false, or_false]

theorem countEdges_counts (sources : ∀ edge ∈ edges, edge.1 ∈ nodes) :
    (countEdges edges).Counts edges nodes := by
  induction edges using List.reverseRecOn with
  | nil =>
    constructor
    · intro source target
      simp [countEdges, Degrees.empty, Edge]
    · intro source
      exact nodup_nil
    · intro target
      simp [countEdges, Degrees.empty, predecessors, Edge]
  | append_singleton edges edge ih =>
    rw [countEdges, foldl_append]
    apply Degrees.Counts.add
    · exact ih fun known mem => sources known (mem_append_left _ mem)
    · exact sources edge (by simp)

/-! ## The queue -/

theorem foldl_release {targets : List α} (nodup : targets.Nodup) (indegree : α → Nat)
    (queue : List α) :
    targets.foldl release (indegree, queue) =
      (fun node => if node ∈ targets then indegree node - 1 else indegree node,
        queue ++ targets.filter fun node => indegree node - 1 = 0) := by
  induction targets generalizing indegree queue with
  | nil => simp
  | cons target targets ih =>
    obtain ⟨fresh, nodup⟩ := nodup_cons.mp nodup
    rw [List.foldl_cons, release, ih nodup, Prod.mk.injEq]
    constructor
    · funext node
      by_cases isTarget : node = target
      · subst isTarget
        simp [fresh]
      · simp [isTarget]
    · have same : (targets.filter fun node =>
          Function.update indegree target (indegree target - 1) node - 1 = 0) =
          targets.filter fun node => indegree node - 1 = 0 := by
        apply filter_congr
        intro node mem
        have distinct : node ≠ target := fun isTarget => fresh (isTarget ▸ mem)
        rw [update_of_ne distinct]
      rw [same]
      by_cases free : indegree target - 1 = 0 <;> simp [free]

/-- What holds between two nodes: the nodes that remain are counted, those
without a predecessor among them are queued, and the taken ones are closed. -/
structure Draining (edges : List (α × α)) (nodes remaining : Finset α)
    (state : (α → Nat) × List α) (visited : Nat) : Prop where
  remaining_subset : remaining ⊆ nodes
  visited_add : visited + remaining.card = nodes.card
  indegree : ∀ node, state.1 node = (predecessors edges remaining node).card
  mem_queue : ∀ node, node ∈ state.2 ↔ node ∈ remaining ∧ state.1 node = 0
  nodup : state.2.Nodup
  closed : ∀ node ∈ nodes, node ∉ remaining → ∀ source, Edge edges source node →
    source ∉ remaining
  accessible : ∀ node ∈ nodes, node ∉ remaining → Acc (Edge edges) node

section Drain

variable {edges : List (α × α)} {nodes remaining : Finset α} {indegree : α → Nat}
  {state : (α → Nat) × List α} {node : α} {queue : List α} {visited : Nat}

theorem Draining.no_predecessor (draining : Draining edges nodes remaining state visited)
    (queued : node ∈ state.2) {source : α} (edge : Edge edges source node) :
    source ∉ remaining := by
  intro mem
  have noneLeft := ((draining.mem_queue node).mp queued).2
  rw [draining.indegree, Finset.card_eq_zero] at noneLeft
  have isPredecessor : source ∈ predecessors edges remaining node :=
    Finset.mem_filter.mpr ⟨mem, edge⟩
  rw [noneLeft] at isPredecessor
  exact Finset.notMem_empty source isPredecessor

theorem predecessors_erase (target : α) :
    predecessors edges (remaining.erase node) target =
      (predecessors edges remaining target).erase node := by
  ext source
  simp [predecessors, and_assoc]

theorem Draining.take (within : ∀ edge ∈ edges, edge.1 ∈ nodes ∧ edge.2 ∈ nodes)
    {targets : List α} (targets_nodup : targets.Nodup)
    (mem_targets : ∀ target, target ∈ targets ↔ Edge edges node target)
    (draining : Draining edges nodes remaining (indegree, node :: queue) visited) :
    Draining edges nodes (remaining.erase node) (targets.foldl release (indegree, queue))
      (visited + 1) := by
  have queued : node ∈ (indegree, node :: queue).2 := mem_cons_self
  have mem : node ∈ remaining := ((draining.mem_queue node).mp queued).1
  have isFree : indegree node = 0 := ((draining.mem_queue node).mp queued).2
  have positive {target : α} (edge : Edge edges node target) : 0 < indegree target := by
    have counted : indegree target = (predecessors edges remaining target).card :=
      draining.indegree target
    rw [counted, Finset.card_pos]
    exact ⟨node, Finset.mem_filter.mpr ⟨mem, edge⟩⟩
  have target_remains {target : α} (edge : Edge edges node target) : target ∈ remaining := by
    by_contra taken
    exact draining.closed target (within _ edge).2 taken node edge mem
  have noLoop : ¬ Edge edges node node := fun edge => (positive edge).ne' isFree
  have queue_nodup := nodup_cons.mp draining.nodup
  rw [foldl_release targets_nodup]
  exact
    { remaining_subset := (Finset.erase_subset _ _).trans draining.remaining_subset
      visited_add := by
        have count := draining.visited_add
        have smaller := Finset.card_erase_add_one mem
        omega
      indegree := by
        intro target
        have counted : indegree target = (predecessors edges remaining target).card :=
          draining.indegree target
        rw [predecessors_erase]
        simp only [mem_targets]
        split
        next edge =>
          have isPredecessor : node ∈ predecessors edges remaining target :=
            Finset.mem_filter.mpr ⟨mem, edge⟩
          rw [Finset.card_erase_of_mem isPredecessor, counted]
        next noEdge =>
          have absent : node ∉ predecessors edges remaining target := fun isPredecessor =>
            noEdge (Finset.mem_filter.mp isPredecessor).2
          rw [Finset.erase_eq_of_notMem absent, counted]
      mem_queue := by
        intro target
        have old : target = node ∨ target ∈ queue ↔ target ∈ remaining ∧ indegree target = 0 := by
          simpa using draining.mem_queue target
        simp only [mem_append, mem_filter, mem_targets, decide_eq_true_eq,
          Finset.mem_erase]
        by_cases edge : Edge edges node target
        · have distinct : target ≠ node := fun same => noLoop (same ▸ edge)
          have notOld : target ∉ queue := fun inQueue =>
            (positive edge).ne' (old.mp (.inr inQueue)).2
          simp [edge, distinct, notOld, target_remains edge]
        · simp only [edge, false_and, or_false, if_false]
          constructor
          · intro inQueue
            exact ⟨⟨fun same => queue_nodup.1 (same ▸ inQueue), (old.mp (.inr inQueue)).1⟩,
              (old.mp (.inr inQueue)).2⟩
          · rintro ⟨⟨distinct, remains⟩, free⟩
            exact (old.mpr ⟨remains, free⟩).resolve_left distinct
      nodup := by
        rw [nodup_append]
        refine ⟨queue_nodup.2, targets_nodup.filter _, ?_⟩
        rintro first inQueue _ isTarget rfl
        have edge := (mem_targets first).mp (mem_filter.mp isTarget).1
        have free := ((draining.mem_queue first).mp (mem_cons_of_mem _ inQueue)).2
        exact (positive edge).ne' free
      closed := by
        intro target inNodes taken source edge remains
        by_cases isNode : target = node
        · subst isNode
          exact draining.no_predecessor queued edge (Finset.mem_of_mem_erase remains)
        · exact draining.closed target inNodes
            (fun old => taken (Finset.mem_erase.mpr ⟨isNode, old⟩)) source edge
            (Finset.mem_of_mem_erase remains)
      accessible := by
        intro target inNodes taken
        by_cases isNode : target = node
        · subst isNode
          exact ⟨_, fun source edge => draining.accessible source (within _ edge).1
            (draining.no_predecessor queued edge)⟩
        · exact draining.accessible target inNodes
            fun old => taken (Finset.mem_erase.mpr ⟨isNode, old⟩) }

omit [LinearOrder α] in
theorem not_self_of_acc {relation : α → α → Prop} {node : α} (accessible : Acc relation node) :
    ¬ relation node node := by
  induction accessible with
  | intro node _ ih => exact fun self => ih node self self

theorem Draining.remaining_eq_empty_iff
    (within : ∀ edge ∈ edges, edge.1 ∈ nodes ∧ edge.2 ∈ nodes)
    (draining : Draining edges nodes remaining (indegree, []) visited) :
    remaining = ∅ ↔ Acyclic edges := by
  constructor
  · rintro rfl node cycle
    obtain ⟨source, _, edge⟩ := TransGen.tail'_iff.mp cycle
    have accessible := draining.accessible node (within _ edge).2 (Finset.notMem_empty node)
    exact not_self_of_acc accessible.transGen cycle
  · intro acyclic
    rw [Finset.eq_empty_iff_forall_notMem]
    intro node mem
    have strict : IsStrictOrder α (TransGen (Edge edges)) :=
      { irrefl := acyclic, trans := fun _ _ _ => TransGen.trans }
    have wellFounded := (remaining.finite_toSet).wellFoundedOn (r := TransGen (Edge edges))
    apply wellFounded.induction mem
    intro node mem ih
    have notQueued : indegree node ≠ 0 := fun free =>
      not_mem_nil ((draining.mem_queue node).mpr ⟨mem, free⟩)
    have counted : indegree node = (predecessors edges remaining node).card :=
      draining.indegree node
    obtain ⟨source, isPredecessor⟩ :=
      Finset.card_pos.mp (Nat.pos_of_ne_zero (counted ▸ notQueued))
    obtain ⟨sourceRemains, edge⟩ := Finset.mem_filter.mp isPredecessor
    exact ih source sourceRemains (.single edge)

theorem drain_spec {adjacency : α → List α}
    (within : ∀ edge ∈ edges, edge.1 ∈ nodes ∧ edge.2 ∈ nodes)
    (adjacency_nodup : ∀ source, (adjacency source).Nodup)
    (mem_adjacency : ∀ source target, target ∈ adjacency source ↔ Edge edges source target)
    (fuel : Nat) (enough : remaining.card ≤ fuel)
    (draining : Draining edges nodes remaining state visited) :
    ∃ count, drain adjacency fuel state visited = some count ∧
      (count = nodes.card ↔ Acyclic edges) := by
  induction fuel generalizing remaining state visited with
  | zero =>
    obtain ⟨indegree, queue⟩ := state
    cases queue with
    | nil =>
      refine ⟨visited, by simp [drain], ?_⟩
      rw [← draining.remaining_eq_empty_iff within, ← draining.visited_add, eq_comm,
        Nat.add_eq_left, Finset.card_eq_zero]
    | cons node queue =>
      have member := ((draining.mem_queue node).mp mem_cons_self).1
      have isEmpty := Finset.card_eq_zero.mp (Nat.le_zero.mp enough)
      exact absurd (isEmpty ▸ member) (Finset.notMem_empty node)
  | succ fuel ih =>
    obtain ⟨indegree, queue⟩ := state
    cases queue with
    | nil =>
      refine ⟨visited, by simp [drain], ?_⟩
      rw [← draining.remaining_eq_empty_iff within, ← draining.visited_add, eq_comm,
        Nat.add_eq_left, Finset.card_eq_zero]
    | cons node queue =>
      have member := ((draining.mem_queue node).mp mem_cons_self).1
      have smaller := Finset.card_erase_add_one member
      have enough' : (remaining.erase node).card ≤ fuel := by omega
      apply ih enough'
      · apply draining.take within
        · exact (sortBy_perm id _).nodup_iff.mpr (adjacency_nodup node)
        · intro target
          rw [mem_sortBy, mem_adjacency]

end Drain

variable {nodes : List α} {edges : List (α × α)}

theorem draining_initial (nodup : nodes.Nodup) (sources : ∀ edge ∈ edges, edge.1 ∈ nodes) :
    Draining edges nodes.toFinset nodes.toFinset
      ((countEdges edges).indegree,
        sortBy id (nodes.filter fun node => (countEdges edges).indegree node = 0)) 0 := by
  have counts : (countEdges edges).Counts edges nodes.toFinset :=
    countEdges_counts fun edge mem => mem_toFinset.mpr (sources edge mem)
  exact
    { remaining_subset := subset_rfl
      visited_add := Nat.zero_add _
      indegree := counts.indegree
      mem_queue := fun node => by simp
      nodup := (sortBy_perm id _).nodup_iff.mpr (nodup.filter _)
      closed := fun _ mem taken => absurd mem taken
      accessible := fun _ mem taken => absurd mem taken }

theorem visitedCount_spec (nodup : nodes.Nodup)
    (within : ∀ edge ∈ edges, edge.1 ∈ nodes ∧ edge.2 ∈ nodes) :
    ∃ count, visitedCount nodes edges = some count ∧
      (count = nodes.length ↔ Acyclic edges) := by
  have sources : ∀ edge ∈ edges, edge.1 ∈ nodes := fun edge mem => (within edge mem).1
  have counts : (countEdges edges).Counts edges nodes.toFinset :=
    countEdges_counts fun edge mem => mem_toFinset.mpr (sources edge mem)
  have card : nodes.toFinset.card = nodes.length := toFinset_card_of_nodup nodup
  rw [← card]
  apply drain_spec (fun edge mem => by simpa using within edge mem) counts.nodup
    counts.mem_adjacency
  · exact card.le
  · exact draining_initial nodup sources

theorem visitedCount_eq_length_iff (nodup : nodes.Nodup)
    (within : ∀ edge ∈ edges, edge.1 ∈ nodes ∧ edge.2 ∈ nodes) :
    visitedCount nodes edges = some nodes.length ↔ Acyclic edges := by
  obtain ⟨count, counted, all⟩ := visitedCount_spec nodup within
  rw [counted, Option.some.injEq, all]

end OhMyClass.Graph
