import OhMyClass.Graph.Kahn
import OhMyClass.PedagogicalCompiler.SemanticIr
import OhMyClass.Python.Text

/-!
# The objective graph

The requested objectives of an intent, part by part, with their claims and
targets; the prerequisites between them; and the validator of the whole.
-/

namespace OhMyClass.PedagogicalCompiler

open OhMyClass.Gateway (isSpace)
open Sorting

inductive AlignmentState where
  | certified
  | candidate
  | generic
  | unsupported
  deriving DecidableEq

inductive PrerequisiteDisposition where
  | assumed
  | activated
  | taught
  | assessed
  | deferred

inductive FactualRisk where
  | low
  | medium
  | high

structure KnowledgeComponentRef where
  kcId : String
  label : String
  sourceNodeId : Option String
  alignmentState : AlignmentState

structure PrerequisiteRequirement where
  prerequisiteId : String
  targetObjectiveId : String
  disposition : PrerequisiteDisposition
  sourceNodeId : Option String

structure MisconceptionTarget where
  misconceptionId : String
  objectiveId : String
  description : String
  evidenceIds : List String

structure TransferTarget where
  transferId : String
  objectiveId : String
  description : String
  contextShift : String

structure VocabularyRequirement where
  termId : String
  objectiveId : String
  canonicalTerm : String
  allowedVariants : List String

structure MasteryClaim where
  claimId : String
  objectiveId : String
  observableWork : String
  evidenceType : String
  doesNotAssertMastery : Bool := true

structure ProgramObjective where
  objectiveId : String
  description : String
  parentObjectiveId : Option String
  partIndex : {index : Nat // 1 ≤ index}
  alignmentState : AlignmentState
  standardNodeIds : List String
  knowledgeComponents : {components : List KnowledgeComponentRef // components ≠ []}
  terminologyIds : List String
  evidenceIds : List String
  factualRisk : FactualRisk

/-- An objective graph without its hash. -/
structure ObjectiveGraphBase where
  graphId : String
  intentId : String
  intentRevision : Nat
  knowledgeSnapshotVersion : String
  queryPolicyVersion : String
  objectives : List ProgramObjective
  prerequisites : List PrerequisiteRequirement
  misconceptions : List MisconceptionTarget
  transferTargets : List TransferTarget
  vocabulary : List VocabularyRequirement
  masteryClaims : List MasteryClaim
  rejectedCandidates : List String
  objectives_ne : objectives ≠ []
  masteryClaims_ne : masteryClaims ≠ []

def assertAcyclic (nodes : List String) (edges : List (String × String)) : Except String Unit :=
  if Graph.visitedCount nodes edges = some nodes.length then .ok ()
  else .error "ObjectiveGraph prerequisite cycle detected"

namespace ObjectiveGraphBase

def objectiveIds (base : ObjectiveGraphBase) : List String :=
  base.objectives.map ProgramObjective.objectiveId

/-- The prerequisites as pairs of ids. -/
def edges (base : ObjectiveGraphBase) : List (String × String) :=
  base.prerequisites.map fun edge => (edge.prerequisiteId, edge.targetObjectiveId)

/-- `_validate_graph`, with the hash the graph should have. -/
def check (base : ObjectiveGraphBase) (graphHash expected : String) : Except String Unit := do
  if ¬ base.objectiveIds.Nodup then
    throw "ObjectiveGraph contains duplicate objective IDs"
  if ∃ edge ∈ base.prerequisites, edge.prerequisiteId ∉ base.objectiveIds ∨
      edge.targetObjectiveId ∉ base.objectiveIds then
    throw "ObjectiveGraph prerequisite contains a dangling reference"
  assertAcyclic base.objectiveIds base.edges
  if (base.masteryClaims.map MasteryClaim.objectiveId).toFinset ≠ base.objectiveIds.toFinset then
    throw "every objective must have exactly one observable mastery claim"
  if graphHash ≠ expected then
    throw "ObjectiveGraph hash does not match canonical payload"

end ObjectiveGraphBase

structure TeachingIntent where
  intentId : String
  revision : Nat
  intentHash : String
  topic : String
  requestedObjectives : List String

/-- A node of the pinned graph; a text is empty and a list is `[]` where the
node lacks the key. -/
structure ObjectiveNode where
  objectiveId : String
  description : String
  reviewStatus : String := "reviewed"
  knowledgeComponentIds : List String := []
  knowledgeComponentLabels : List (String × String) := []
  sourceNodeId : String := ""
  evidenceIds : List String := []
  standardNodeIds : List String := []
  terminologyIds : List String := []
  misconception : Option String := none
  canonicalTerm : String := ""
  allowedVariants : List String := []
  prerequisiteDescriptions : List String := []

/-- `str(node.get("source_node_id") or "") or None`. -/
def ObjectiveNode.sourceNodeId? (node : ObjectiveNode) : Option String :=
  if node.sourceNodeId = "" then none else some node.sourceNodeId

def TeachingIntent.requested (intent : TeachingIntent) : List String :=
  if intent.requestedObjectives = [] then ["Explain and apply " ++ intent.topic ++ "."]
  else intent.requestedObjectives

/-! ## Atomic parts -/

/-- The pieces between the occurrences of a separator, from the left; `piece` is
what was read since the last one, backwards, and `skipped` the rest of an
occurrence. -/
def splitPieces (separator : List Char) (piece : List Char) : Nat → List Char → List (List Char)
  | _, [] => [piece.reverse]
  | skipped + 1, _ :: text => splitPieces separator piece skipped text
  | 0, c :: text =>
    if separator <+: c :: text then
      piece.reverse :: splitPieces separator [] (separator.length - 1) text
    else
      splitPieces separator (c :: piece) 0 text

/-- `" ".join(value.split())`. -/
def joinWords (value : List Char) : List Char :=
  [' '].intercalate ((value.splitOnP isSpace).filter fun word => word ≠ [])

/-- A character of `" ,;."`. -/
def isEdgeMark (c : Char) : Bool :=
  [' ', ',', ';', '.'].contains c

/-- `part.strip(" ,;.")`. -/
def stripMarks (part : List Char) : List Char :=
  (part.dropWhile isEdgeMark).rdropWhile isEdgeMark

/-- `normalized.replace(";", " and ")`. -/
def semicolonsAsAnd (normalized : List Char) : List Char :=
  normalized.flatMap fun c => if c = ';' then " and ".toList else [c]

def atomicParts (value : String) : List String :=
  let normalized := TeachingPack.strip (joinWords value.toList)
  let parts := ((splitPieces " and ".toList [] 0 (semicolonsAsAnd normalized)).map
    stripMarks).filter fun part => part ≠ []
  if parts = [] then [String.ofList normalized] else parts.map String.ofList

theorem atomicParts_ne_nil (value : String) : atomicParts value ≠ [] := by
  simp only [atomicParts]
  split
  next => exact List.cons_ne_nil _ _
  next someParts => rwa [Ne, List.map_eq_nil_iff]

structure RequestedPart where
  parentIndex : Nat
  rawObjective : String
  partIndex : {index : Nat // 1 ≤ index}
  description : String
  isOneOfSeveral : Bool

def partsOf (rawObjective : String) (parentIndex : Nat) : List RequestedPart :=
  (atomicParts rawObjective).zipIdx.map fun (description, index) =>
    { parentIndex, rawObjective, description
      partIndex := ⟨index + 1, Nat.le_add_left _ _⟩
      isOneOfSeveral := decide (1 < (atomicParts rawObjective).length) }

def requestedParts (intent : TeachingIntent) : List RequestedPart :=
  (intent.requested.zipIdx 1).flatMap fun (raw, parentIndex) => partsOf raw parentIndex

theorem requestedParts_ne_nil (intent : TeachingIntent) : requestedParts intent ≠ [] := by
  have someRequested : intent.requested ≠ [] := by
    simp only [TeachingIntent.requested]
    split
    next => exact List.cons_ne_nil _ _
    next given => exact given
  cases isCons : intent.requested with
  | nil => exact absurd isCons someRequested
  | cons raw rest =>
    simp [requestedParts, partsOf, isCons, atomicParts_ne_nil]

/-! ## Objectives -/

section Build

variable (library : Library)

def bestNode (description : String) (nodes : List ObjectiveNode) : Option ObjectiveNode :=
  (sortBy ObjectiveNode.objectiveId (nodes.filter fun node =>
    normalizeText library node.description = normalizeText library description)).head?

variable (intent : TeachingIntent) (nodes : List ObjectiveNode) (part : RequestedPart)

def matchedNode : Option ObjectiveNode :=
  bestNode library part.description nodes

/-- The id of the matched node, or one from the place of the part. -/
def objectiveId : String :=
  match matchedNode library nodes part with
  | some node => node.objectiveId
  | none => stableId library "objective"
      [intent.intentHash, toString part.parentIndex, toString part.partIndex.1, part.description]

def alignment (matched : Option ObjectiveNode) : AlignmentState :=
  if ∃ node ∈ matched, node.reviewStatus = "reviewed" then .certified else .generic

def knowledgeComponent (matched : Option ObjectiveNode) (description kcId : String) :
    KnowledgeComponentRef where
  kcId := kcId
  label := (matched.bind fun node => node.knowledgeComponentLabels.lookup kcId).getD description
  sourceNodeId := matched.bind ObjectiveNode.sourceNodeId?
  alignmentState := alignment matched

/-- The components the matched node lists, or one for the objective. -/
def knowledgeComponents (matched : Option ObjectiveNode) (objectiveId description : String) :
    {components : List KnowledgeComponentRef // components ≠ []} :=
  match matched.elim [] ObjectiveNode.knowledgeComponentIds with
  | [] => ⟨[knowledgeComponent matched description
      (stableId library "kc" [objectiveId, "atomic-scope"])], List.cons_ne_nil _ _⟩
  | kcId :: kcIds => ⟨(kcId :: kcIds).map (knowledgeComponent matched description),
      List.cons_ne_nil _ _⟩

def evidenceIds (matched : Option ObjectiveNode) : List String :=
  matched.elim [] ObjectiveNode.evidenceIds

def programObjective : ProgramObjective :=
  let matched := matchedNode library nodes part
  let id := objectiveId library intent nodes part
  { objectiveId := id
    description := part.description
    parentObjectiveId := if part.isOneOfSeveral then
        some (stableId library "objective-parent" [intent.intentHash, part.rawObjective])
      else none
    partIndex := part.partIndex
    alignmentState := alignment matched
    standardNodeIds := matched.elim [] ObjectiveNode.standardNodeIds
    knowledgeComponents := knowledgeComponents library matched id part.description
    terminologyIds := matched.elim [] ObjectiveNode.terminologyIds
    evidenceIds := evidenceIds matched
    factualRisk := if evidenceIds matched = [] ∧ alignment matched = .certified then .high
      else .medium }

def masteryClaim : MasteryClaim :=
  let id := objectiveId library intent nodes part
  { claimId := stableId library "mastery-claim" [id]
    objectiveId := id
    observableWork := "Learner produces observable work demonstrating: " ++ part.description
    evidenceType := "bounded_performance" }

def misconceptionTarget : MisconceptionTarget :=
  let matched := matchedNode library nodes part
  let id := objectiveId library intent nodes part
  { misconceptionId := stableId library "misconception" [id, "common"]
    objectiveId := id
    description := (matched.bind ObjectiveNode.misconception).getD
      ("A plausible misunderstanding of: " ++ part.description)
    evidenceIds := evidenceIds matched }

def transferTarget : TransferTarget :=
  let id := objectiveId library intent nodes part
  { transferId := stableId library "transfer" [id]
    objectiveId := id
    description := "Apply " ++ part.description ++ " in a new but structurally related context."
    contextShift := "surface features change while the governing concept remains invariant" }

def vocabularyRequirement : Option VocabularyRequirement :=
  (matchedNode library nodes part).bind fun node =>
    let id := objectiveId library intent nodes part
    if node.canonicalTerm = "" then none
    else some
      { termId := stableId library "term" [id, node.canonicalTerm]
        objectiveId := id
        canonicalTerm := node.canonicalTerm
        allowedVariants := node.allowedVariants }

def objectives : List ProgramObjective :=
  (requestedParts intent).map (programObjective library intent nodes)

/-- `id_by_description.get(normalize_text(text))`; of several objectives with one
description the last counts. -/
def idByDescription (built : List ProgramObjective) (text : String) : Option String :=
  (built.reverse.find? fun objective =>
    normalizeText library objective.description = normalizeText library text).map
    ProgramObjective.objectiveId

def missingPrerequisite (raw : String) : String :=
  "missing prerequisite node for " ++ String.ofList (Python.reprString library.printable raw)

/-- What becomes of one listed prerequisite of the target. -/
def prerequisiteOutcome (built : List ProgramObjective) (node : ObjectiveNode)
    (targetId raw : String) : String ⊕ PrerequisiteRequirement :=
  match idByDescription library built raw with
  | none => .inl (missingPrerequisite library raw)
  | some prerequisiteId => .inr
      { prerequisiteId
        targetObjectiveId := targetId
        disposition := .activated
        sourceNodeId := node.sourceNodeId? }

def prerequisiteOutcomes (built : List ProgramObjective) :
    List (String ⊕ PrerequisiteRequirement) :=
  nodes.flatMap fun node =>
    match idByDescription library built node.description with
    | none => []
    | some targetId =>
      node.prerequisiteDescriptions.map (prerequisiteOutcome library built node targetId)

def objectiveGraphBase (knowledgeSnapshotVersion queryPolicyVersion : String) :
    ObjectiveGraphBase where
  graphId := stableId library "objective-graph" [intent.intentHash, knowledgeSnapshotVersion]
  intentId := intent.intentId
  intentRevision := intent.revision
  knowledgeSnapshotVersion := knowledgeSnapshotVersion
  queryPolicyVersion := queryPolicyVersion
  objectives := objectives library intent nodes
  prerequisites := sortBy (fun edge => toLex (edge.targetObjectiveId, edge.prerequisiteId))
    ((prerequisiteOutcomes library nodes (objectives library intent nodes)).filterMap Sum.getRight?)
  misconceptions := (requestedParts intent).map (misconceptionTarget library intent nodes)
  transferTargets := (requestedParts intent).map (transferTarget library intent nodes)
  vocabulary := (requestedParts intent).filterMap (vocabularyRequirement library intent nodes)
  masteryClaims := (requestedParts intent).map (masteryClaim library intent nodes)
  rejectedCandidates := sortBy id
    ((prerequisiteOutcomes library nodes (objectives library intent nodes)).filterMap Sum.getLeft?)
  objectives_ne := by simp [objectives, requestedParts_ne_nil]
  masteryClaims_ne := by simp [requestedParts_ne_nil]

variable (canonicalJson : ObjectiveGraphBase → String)

def graphHashOf (base : ObjectiveGraphBase) : String :=
  stableHash library "objective-graph" (canonicalJson base)

/-- A graph that its validator accepts. -/
structure ObjectiveGraph extends ObjectiveGraphBase where
  graphHash : String
  checked : toObjectiveGraphBase.check graphHash
    (graphHashOf library canonicalJson toObjectiveGraphBase) = .ok ()

def buildObjectiveGraph (knowledgeSnapshotVersion queryPolicyVersion : String) :
    Except String (ObjectiveGraph library canonicalJson) :=
  let base := objectiveGraphBase library intent nodes knowledgeSnapshotVersion queryPolicyVersion
  let graphHash := graphHashOf library canonicalJson base
  match checked : base.check graphHash (graphHashOf library canonicalJson base) with
  | .error message => .error message
  | .ok () => .ok { base with graphHash, checked }

end Build

end OhMyClass.PedagogicalCompiler
