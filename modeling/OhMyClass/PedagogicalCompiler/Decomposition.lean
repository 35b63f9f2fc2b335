import OhMyClass.PedagogicalCompiler.ObjectiveGraph

/-!
# What the objective graph holds

The builder absorbs every missing prerequisite, and leaves two decisions to the
validator: objectives with one id, and prerequisites in a cycle.
-/

namespace OhMyClass.PedagogicalCompiler

open List Keyed Sorting

variable {nodes : List String} {edges : List (String × String)}

theorem assertAcyclic_of_acyclic (nodup : nodes.Nodup)
    (within : ∀ edge ∈ edges, edge.1 ∈ nodes ∧ edge.2 ∈ nodes) (acyclic : Graph.Acyclic edges) :
    assertAcyclic nodes edges = .ok () := by
  rw [assertAcyclic, if_pos ((Graph.visitedCount_eq_length_iff nodup within).mpr acyclic)]

theorem assertAcyclic_of_cycle (nodup : nodes.Nodup)
    (within : ∀ edge ∈ edges, edge.1 ∈ nodes ∧ edge.2 ∈ nodes) (cyclic : ¬ Graph.Acyclic edges) :
    assertAcyclic nodes edges = .error "ObjectiveGraph prerequisite cycle detected" := by
  rw [assertAcyclic, if_neg (mt (Graph.visitedCount_eq_length_iff nodup within).mp cyclic)]

namespace ObjectiveGraphBase

/-- The graph has the endpoints of its edges and a claim for each objective. -/
structure Closed (base : ObjectiveGraphBase) : Prop where
  endpoints : ∀ edge ∈ base.prerequisites, edge.prerequisiteId ∈ base.objectiveIds ∧
    edge.targetObjectiveId ∈ base.objectiveIds
  claims : base.masteryClaims.map MasteryClaim.objectiveId = base.objectiveIds

variable {base : ObjectiveGraphBase}

theorem Closed.edges_within (closed : base.Closed) :
    ∀ edge ∈ base.edges, edge.1 ∈ base.objectiveIds ∧ edge.2 ∈ base.objectiveIds := by
  intro edge mem
  obtain ⟨requirement, listed, rfl⟩ := mem_map.mp mem
  exact closed.endpoints requirement listed

theorem Closed.not_dangling (closed : base.Closed) :
    ¬ ∃ edge ∈ base.prerequisites, edge.prerequisiteId ∉ base.objectiveIds ∨
      edge.targetObjectiveId ∉ base.objectiveIds := by
  rintro ⟨edge, listed, missing | missing⟩
  · exact missing (closed.endpoints edge listed).1
  · exact missing (closed.endpoints edge listed).2

theorem check_of_duplicate (duplicate : ¬ base.objectiveIds.Nodup) (graphHash expected : String) :
    base.check graphHash expected = .error "ObjectiveGraph contains duplicate objective IDs" := by
  simp only [check, if_pos duplicate]
  rfl

theorem Closed.check_eq (closed : base.Closed) (nodup : base.objectiveIds.Nodup)
    (graphHash : String) :
    base.check graphHash graphHash = assertAcyclic base.objectiveIds base.edges := by
  have unique : ¬ ¬ base.objectiveIds.Nodup := not_not.mpr nodup
  simp only [check, if_neg unique, if_neg closed.not_dangling, closed.claims, ne_eq,
    not_true_eq_false, if_false]
  cases assertAcyclic base.objectiveIds base.edges <;> rfl

end ObjectiveGraphBase

/-! ## The builder -/

section Build

variable {library : Library} {intent : TeachingIntent} {nodes : List ObjectiveNode}

/-- The text names the objective with this id: the last one with its normalised
description. -/
def Names (library : Library) (built : List ProgramObjective) (text id : String) : Prop :=
  ∃ objective, IsLast (fun objective => normalizeText library objective.description) built
      objective ∧
    normalizeText library objective.description = normalizeText library text ∧
    objective.objectiveId = id

/-- The text names no objective. -/
def NamesNone (library : Library) (built : List ProgramObjective) (text : String) : Prop :=
  ∀ objective ∈ built,
    normalizeText library objective.description ≠ normalizeText library text

variable {built : List ProgramObjective} {text : String} {id : String}

theorem idByDescription_eq_some_iff :
    idByDescription library built text = some id ↔ Names library built text id := by
  simp only [idByDescription, Option.map_eq_some_iff, List.find?_eq_some_iff_append,
    decide_eq_true_eq, Names, IsLast]
  constructor
  · rintro ⟨objective, ⟨same, later, earlier, split, others⟩, isId⟩
    refine ⟨objective, ⟨earlier.reverse, later.reverse, ?_, ?_⟩, same, isId⟩
    · have reversed := congrArg List.reverse split
      simpa using reversed
    · intro other mem
      have differs := others other (mem_reverse.mp mem)
      simpa [same] using differs
  · rintro ⟨objective, ⟨earlier, later, rfl, others⟩, same, isId⟩
    refine ⟨objective, ⟨same, later.reverse, earlier.reverse, by simp, ?_⟩, isId⟩
    intro other mem
    have differs := others other (mem_reverse.mp mem)
    simpa [same] using differs

theorem idByDescription_eq_none_iff :
    idByDescription library built text = none ↔ NamesNone library built text := by
  simp [idByDescription, NamesNone]

theorem Names.mem (names : Names library built text id) :
    id ∈ built.map ProgramObjective.objectiveId := by
  obtain ⟨objective, isLast, _, rfl⟩ := names
  exact mem_map_of_mem isLast.mem

theorem mem_edges_iff {requirement : PrerequisiteRequirement} :
    .inr requirement ∈ prerequisiteOutcomes library nodes built ↔
      ∃ node ∈ nodes, Names library built node.description requirement.targetObjectiveId ∧
        ∃ raw ∈ node.prerequisiteDescriptions,
          Names library built raw requirement.prerequisiteId ∧
          requirement.disposition = .activated ∧
          requirement.sourceNodeId = node.sourceNodeId? := by
  simp only [prerequisiteOutcomes, mem_flatMap, ← idByDescription_eq_some_iff]
  constructor
  · rintro ⟨node, mem, outcome⟩
    cases target : idByDescription library built node.description with
    | none => simp [target] at outcome
    | some targetId =>
      simp only [target, mem_map] at outcome
      obtain ⟨raw, listed, outcome⟩ := outcome
      cases named : idByDescription library built raw with
      | none => simp [prerequisiteOutcome, named] at outcome
      | some prerequisiteId =>
        simp only [prerequisiteOutcome, named, Sum.inr.injEq] at outcome
        subst outcome
        exact ⟨node, mem, target, raw, listed, named, rfl, rfl⟩
  · rintro ⟨node, mem, target, raw, listed, named, isActivated, isSource⟩
    refine ⟨node, mem, ?_⟩
    simp only [target, mem_map]
    refine ⟨raw, listed, ?_⟩
    simp only [prerequisiteOutcome, named, ← isActivated, ← isSource]

variable {message : String}

theorem mem_rejected_iff :
    .inl message ∈ prerequisiteOutcomes library nodes built ↔
      ∃ node ∈ nodes, (∃ targetId, Names library built node.description targetId) ∧
        ∃ raw ∈ node.prerequisiteDescriptions,
          NamesNone library built raw ∧ message = missingPrerequisite library raw := by
  simp only [prerequisiteOutcomes, mem_flatMap, ← idByDescription_eq_some_iff,
    ← idByDescription_eq_none_iff]
  constructor
  · rintro ⟨node, mem, outcome⟩
    cases target : idByDescription library built node.description with
    | none => simp [target] at outcome
    | some targetId =>
      simp only [target, mem_map] at outcome
      obtain ⟨raw, listed, outcome⟩ := outcome
      cases named : idByDescription library built raw with
      | some prerequisiteId => simp [prerequisiteOutcome, named] at outcome
      | none =>
        simp only [prerequisiteOutcome, named, Sum.inl.injEq] at outcome
        exact ⟨node, mem, ⟨targetId, target⟩, raw, listed, named, outcome.symm⟩
  · rintro ⟨node, mem, ⟨targetId, target⟩, raw, listed, named, rfl⟩
    refine ⟨node, mem, ?_⟩
    simp only [target, mem_map]
    exact ⟨raw, listed, by simp only [prerequisiteOutcome, named]⟩

variable (library intent nodes) in
/-- The graph holds what the intent and the nodes ask for. -/
structure ObjectiveGraphBase.Covers (base : ObjectiveGraphBase) : Prop where
  /-- One objective for each part, in their order. -/
  objectives : base.objectives = (requestedParts intent).map (programObjective library intent nodes)
  ids : base.objectiveIds = (requestedParts intent).map (objectiveId library intent nodes)
  claims : base.masteryClaims.map MasteryClaim.objectiveId = base.objectiveIds
  misconceptions : base.misconceptions.map MisconceptionTarget.objectiveId = base.objectiveIds
  transfers : base.transferTargets.map TransferTarget.objectiveId = base.objectiveIds
  edges : ∀ requirement, requirement ∈ base.prerequisites ↔
    ∃ node ∈ nodes, Names library base.objectives node.description requirement.targetObjectiveId ∧
      ∃ raw ∈ node.prerequisiteDescriptions,
        Names library base.objectives raw requirement.prerequisiteId ∧
        requirement.disposition = .activated ∧ requirement.sourceNodeId = node.sourceNodeId?
  rejected : ∀ message, message ∈ base.rejectedCandidates ↔
    ∃ node ∈ nodes, (∃ targetId, Names library base.objectives node.description targetId) ∧
      ∃ raw ∈ node.prerequisiteDescriptions,
        NamesNone library base.objectives raw ∧ message = missingPrerequisite library raw

theorem objectiveGraphBase_covers (knowledgeSnapshotVersion queryPolicyVersion : String) :
    (objectiveGraphBase library intent nodes knowledgeSnapshotVersion queryPolicyVersion).Covers
      library intent nodes where
  objectives := rfl
  ids := by simp [ObjectiveGraphBase.objectiveIds, objectiveGraphBase, objectives,
    programObjective, Function.comp_def]
  claims := by simp [ObjectiveGraphBase.objectiveIds, objectiveGraphBase, objectives,
    programObjective, masteryClaim, Function.comp_def]
  misconceptions := by simp [ObjectiveGraphBase.objectiveIds, objectiveGraphBase, objectives,
    programObjective, misconceptionTarget, Function.comp_def]
  transfers := by simp [ObjectiveGraphBase.objectiveIds, objectiveGraphBase, objectives,
    programObjective, transferTarget, Function.comp_def]
  edges requirement := by
    rw [← mem_edges_iff]
    simp [objectiveGraphBase]
  rejected message := by
    rw [← mem_rejected_iff]
    simp [objectiveGraphBase]

theorem ObjectiveGraphBase.Covers.closed {base : ObjectiveGraphBase}
    (covers : base.Covers library intent nodes) : base.Closed where
  endpoints := by
    intro edge listed
    obtain ⟨_, _, target, _, _, named, _⟩ := (covers.edges edge).mp listed
    exact ⟨named.mem, target.mem⟩
  claims := covers.claims

variable {canonicalJson : ObjectiveGraphBase → String}
  {knowledgeSnapshotVersion queryPolicyVersion : String}

theorem buildObjectiveGraph_of_check
    (raised : ∀ graphHash, (objectiveGraphBase library intent nodes knowledgeSnapshotVersion
      queryPolicyVersion).check graphHash graphHash = .error message) :
    buildObjectiveGraph library intent nodes canonicalJson knowledgeSnapshotVersion
      queryPolicyVersion = .error message := by
  simp only [buildObjectiveGraph]
  split
  next other failed =>
    rw [raised] at failed
    rw [Except.error.inj failed]
  next accepted =>
    rw [raised] at accepted
    cases accepted

theorem buildObjectiveGraph_of_checked
    (accepted : ∀ graphHash, (objectiveGraphBase library intent nodes knowledgeSnapshotVersion
      queryPolicyVersion).check graphHash graphHash = .ok ()) :
    ∃ graph, buildObjectiveGraph library intent nodes canonicalJson knowledgeSnapshotVersion
      queryPolicyVersion = .ok graph ∧
      graph.toObjectiveGraphBase = objectiveGraphBase library intent nodes
        knowledgeSnapshotVersion queryPolicyVersion := by
  simp only [buildObjectiveGraph]
  split
  next other failed =>
    rw [accepted] at failed
    cases failed
  next => exact ⟨_, rfl, rfl⟩

/-- The builder makes the whole graph, and returns it unless the validator finds
two objectives with one id or prerequisites in a cycle. -/
theorem buildObjectiveGraph_cases (library : Library) (intent : TeachingIntent)
    (nodes : List ObjectiveNode) (canonicalJson : ObjectiveGraphBase → String)
    (knowledgeSnapshotVersion queryPolicyVersion : String) :
    let base := objectiveGraphBase library intent nodes knowledgeSnapshotVersion queryPolicyVersion
    let built := buildObjectiveGraph library intent nodes canonicalJson knowledgeSnapshotVersion
      queryPolicyVersion
    base.Covers library intent nodes ∧
      ((∃ graph, built = .ok graph ∧ graph.toObjectiveGraphBase = base) ↔
        base.objectiveIds.Nodup ∧ Graph.Acyclic base.edges) ∧
      (¬ base.objectiveIds.Nodup →
        built = .error "ObjectiveGraph contains duplicate objective IDs") ∧
      (base.objectiveIds.Nodup → ¬ Graph.Acyclic base.edges →
        built = .error "ObjectiveGraph prerequisite cycle detected") := by
  intro base built
  have covers : base.Covers library intent nodes :=
    objectiveGraphBase_covers knowledgeSnapshotVersion queryPolicyVersion
  have duplicateRaises (duplicate : ¬ base.objectiveIds.Nodup) :
      built = .error "ObjectiveGraph contains duplicate objective IDs" :=
    buildObjectiveGraph_of_check fun graphHash =>
      ObjectiveGraphBase.check_of_duplicate duplicate graphHash graphHash
  have cycleRaises (nodup : base.objectiveIds.Nodup) (cyclic : ¬ Graph.Acyclic base.edges) :
      built = .error "ObjectiveGraph prerequisite cycle detected" := by
    apply buildObjectiveGraph_of_check
    intro graphHash
    rw [covers.closed.check_eq nodup]
    exact assertAcyclic_of_cycle nodup covers.closed.edges_within cyclic
  refine ⟨covers, ⟨?_, ?_⟩, duplicateRaises, cycleRaises⟩
  · rintro ⟨graph, ret, _⟩
    by_cases nodup : base.objectiveIds.Nodup
    · refine ⟨nodup, ?_⟩
      by_contra cyclic
      rw [cycleRaises nodup cyclic] at ret
      cases ret
    · rw [duplicateRaises nodup] at ret
      cases ret
  · rintro ⟨nodup, acyclic⟩
    apply buildObjectiveGraph_of_checked
    intro graphHash
    rw [covers.closed.check_eq nodup]
    exact assertAcyclic_of_acyclic nodup covers.closed.edges_within acyclic

end Build

def fractionsNode : ObjectiveNode where
  objectiveId := "node-fractions"
  description := "Compare fractions"

def fractionsIntent : TeachingIntent where
  intentId := "intent-1"
  revision := 1
  intentHash := "intent-hash"
  topic := "Fractions"
  requestedObjectives := ["Compare fractions and compare fractions."]

def addNode : ObjectiveNode where
  objectiveId := "node-add"
  description := "Add fractions"
  prerequisiteDescriptions := ["Subtract fractions"]

def subtractNode : ObjectiveNode where
  objectiveId := "node-subtract"
  description := "Subtract fractions"
  prerequisiteDescriptions := ["Add fractions"]

def sumsIntent : TeachingIntent where
  intentId := "intent-2"
  revision := 1
  intentHash := "intent-hash"
  topic := "Fractions"
  requestedObjectives := ["Add fractions", "Subtract fractions"]

/-- Two equal parts take the id of one node, and two nodes that list each other
are a cycle: the validator raises. -/
theorem objective_graphs_refused :
    buildObjectiveGraph plainLibrary fractionsIntent [fractionsNode] (fun _ => "{}")
        "graph-v1" "objective_query.v1" =
      .error "ObjectiveGraph contains duplicate objective IDs" ∧
    buildObjectiveGraph plainLibrary sumsIntent [addNode, subtractNode] (fun _ => "{}")
        "graph-v1" "objective_query.v1" =
      .error "ObjectiveGraph prerequisite cycle detected" := by
  constructor
  · apply buildObjectiveGraph_of_check
    intro graphHash
    apply ObjectiveGraphBase.check_of_duplicate
    decide +kernel
  · apply buildObjectiveGraph_of_check
    intro graphHash
    rw [(objectiveGraphBase_covers "graph-v1" "objective_query.v1").closed.check_eq
      (by decide +kernel)]
    decide +kernel

end OhMyClass.PedagogicalCompiler
