import Mathlib.Data.List.DropRight
import OhMyClass.TeachingPack.ArtifactStatus

/-!
# Names and entities of the compiler

How ids are made, and the typed entities they name.
-/

namespace OhMyClass.PedagogicalCompiler

/-!
## Stable names

The hashes and ids of the pedagogical compiler: a digest of canonical JSON, and
a digest of normalised texts joined by a bar.
-/

section

open OhMyClass.Gateway (isSpace)
open OhMyClass.TeachingPack (strip)

/-- The functions of the standard library under the stable names and the texts
of the compiler. -/
structure Library where
  casefold : Char → List Char
  /-- Whether `repr` writes a character as it is. -/
  printable : Char → Bool
  /-- The hexadecimal SHA-256 of the UTF-8 bytes of a text. -/
  sha256 : String → String

/-- A library whose digest of a text is the text. -/
def plainLibrary : Library where
  casefold c := [c.toLower]
  printable _ := true
  sha256 := id

variable (library : Library)

/-- `re.sub(r"[\s\u00a0]+", " ", value)`. -/
def collapseSpaces (inSpaces : Bool) : List Char → List Char
  | [] => []
  | c :: text =>
    if isSpace c then
      if inSpaces then collapseSpaces true text else ' ' :: collapseSpaces true text
    else
      c :: collapseSpaces false text

/-- `[.!?;,]`. -/
def isClosingMark (c : Char) : Bool :=
  ['.', '!', '?', ';', ','].contains c

def normalizeText (value : String) : String :=
  String.ofList ((collapseSpaces false ((strip value.toList).flatMap library.casefold)).rdropWhile
    isClosingMark)

/-- The first characters of a digest, after its kind. -/
def digestName (kind : String) (length : Nat) (text : String) : String :=
  kind ++ "-" ++ String.ofList ((library.sha256 text).toList.take length)

/-- `stable_hash`, of a value with this canonical JSON. -/
def stableHash (kind : String) (canonicalJson : String) : String :=
  digestName library kind 24 canonicalJson

/-- `stable_id`, of the parts as texts. -/
def stableId (kind : String) (parts : List String) : String :=
  digestName library kind 20 ("|".intercalate (parts.map (normalizeText library)))

end

/-!
## The semantic content IR

Typed entities with their evidence and authority, the edges between them, and
the validator of the whole.
-/

section

open Sorting

inductive SemanticKind where
  | conceptExplanation
  | claim
  | definition
  | termUsage
  | example
  | nonExample
  | analogy
  | misconceptionContrast
  | workedExample
  | procedureStep
  | taskModel
  | questionStem
  | answerDerivation
  | distractorRationale
  | hint
  | feedback
  | summaryUnit
  | visualSemanticSpec
  deriving DecidableEq

inductive AuthorityState where
  | verified
  | reviewRequired
  | teacherAuthored
  | unsupported
  deriving DecidableEq

inductive Audience where
  | student
  | teacher
  | shared
  deriving DecidableEq

inductive Risk where
  | low
  | medium
  | high

inductive Disposition where
  | reusable
  | singleUse
  | teacherOnly

/-- The kinds whose class fixes the audience and the reuse policy. -/
def SemanticKind.isTeacherOnly (kind : SemanticKind) : Prop :=
  kind = .answerDerivation ∨ kind = .distractorRationale
  deriving Decidable

structure SemanticEntity where
  kind : SemanticKind
  semanticId : String
  objectiveIds : List String
  kcIds : List String
  audience : Audience
  language : String
  sourceEvidenceIds : List String
  dependencyIds : List String
  authority : AuthorityState
  risk : Risk
  reusePolicy : Disposition
  artifactEligibility : List String
  text : String
  audience_teacher : kind.isTeacherOnly → audience = .teacher
  reusePolicy_teacherOnly : kind.isTeacherOnly → reusePolicy = .teacherOnly
  nonempty : objectiveIds ≠ [] ∧ kcIds ≠ [] ∧ artifactEligibility ≠ []
  text_length : 1 ≤ text.length ∧ text.length ≤ 8000

inductive SemanticRelation where
  | supports
  | derives
  | contrasts
  | answers
  | visualizes
  | summarizes

structure SemanticDependency where
  sourceSemanticId : String
  targetSemanticId : String
  relation : SemanticRelation

/-- A semantic IR without its hash. -/
structure SemanticContentBase where
  semanticIrId : String
  version : {version : Nat // 1 ≤ version}
  programId : String
  objectiveGraphId : String
  language : String
  entities : List SemanticEntity
  dependencies : List SemanticDependency

namespace SemanticContentBase

def semanticIds (base : SemanticContentBase) : List String :=
  base.entities.map SemanticEntity.semanticId

/-- `sorted(adjacency[node])`. -/
def targets (dependencies : List SemanticDependency) (node : String) : List String :=
  sortBy id ((dependencies.filter fun edge => edge.sourceSemanticId = node).map
    SemanticDependency.targetSemanticId).dedup

/-- `visit`, with the nodes on the way to this one and those that are done.
The way holds a node once, so that fuel for every node suffices. -/
def visit (dependencies : List SemanticDependency) :
    Nat → List String → List String → String → Except String (List String)
  | 0, _, _, _ => .error "Semantic Content IR dependency cycle detected"
  | fuel + 1, visiting, visited, node =>
    if node ∈ visiting then
      .error "Semantic Content IR dependency cycle detected"
    else if node ∈ visited then
      .ok visited
    else do
      let visited ← (targets dependencies node).foldlM
        (visit dependencies fuel (node :: visiting)) visited
      return node :: visited

def assertAcyclic (nodes : List String) (dependencies : List SemanticDependency) :
    Except String Unit := do
  let _ ← (sortBy id nodes).foldlM (visit dependencies (nodes.length + 1) []) []
  return ()

def checkIds (ids : List String) (dependencies : List SemanticDependency) :
    Except String Unit := do
  if ¬ ids.Nodup then
    throw "Semantic Content IR contains duplicate semantic IDs"
  if ∃ edge ∈ dependencies, edge.sourceSemanticId ∉ ids ∨ edge.targetSemanticId ∉ ids then
    throw "Semantic Content IR contains a dangling dependency"
  assertAcyclic ids dependencies

/-- A statement of fact that claims to be verified without evidence. -/
def lacksEvidence (entity : SemanticEntity) : Prop :=
  (entity.kind = .claim ∨ entity.kind = .definition) ∧ entity.authority = .verified ∧
    entity.sourceEvidenceIds = []
  deriving Decidable

def checkEntity (entity : SemanticEntity) : Except String Unit :=
  if lacksEvidence entity then
    .error ("verified truth-bearing entity " ++ entity.semanticId ++ " has no evidence")
  else if (entity.kind = .answerDerivation ∨ entity.kind = .distractorRationale) ∧
      entity.audience ≠ .teacher then
    .error "teacher-only answer semantics cannot be student audience"
  else
    .ok ()

/-- `_validate_ir`, but for the hash. -/
def check (base : SemanticContentBase) : Except String Unit := do
  checkIds base.semanticIds base.dependencies
  base.entities.forM checkEntity

end SemanticContentBase

/-- A validated semantic IR. -/
structure SemanticContentIR extends SemanticContentBase where
  semanticHash : String
  checked : toSemanticContentBase.check = .ok ()

end

end OhMyClass.PedagogicalCompiler
