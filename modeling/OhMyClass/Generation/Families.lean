import OhMyClass.Generation.Deepening

/-!
# Specialist families

The depth of each family of specialists, the declaration a specialist makes of
what it produced, and the lineage that the compiler writes.
-/

namespace OhMyClass.Generation

open OhMyClass.Contracts OhMyClass.Projection OhMyClass.Tenancy

section Equality

variable (number : FloatLiteral → Rat)

/-- The number a value counts as; booleans are integers. -/
def numberOf : Json → Option Rat
  | .bool value => some (if value then 1 else 0)
  | .int value => some value
  | .float value => some (number value)
  | _ => none

mutual

/-- `first == second`. -/
def pythonEqual : Json → Json → Bool
  | .null, .null => true
  | .str first, .str second => first = second
  | .arr first, .arr second => equalItems first second
  | .obj first, .obj second => first.length = second.length && equalMembers first second
  | first, second =>
    match numberOf number first, numberOf number second with
    | some value, some other => value = other
    | _, _ => false

def equalItems : List Json → List Json → Bool
  | [], [] => true
  | first :: firsts, second :: seconds => pythonEqual first second && equalItems firsts seconds
  | _, _ => false

def equalMembers : List (String × Json) → JsonObject → Bool
  | [], _ => true
  | member :: rest, others =>
    match others.get? member.1 with
    | some other => pythonEqual member.2 other && equalMembers rest others
    | none => false

end

end Equality

/-! ## Syntheses -/

/-- `plan.model_dump(mode="json")`. -/
def SynthesisPlan.modelDump (plan : SynthesisPlan) : Json :=
  .obj [("plan_version", .str plan.planVersion),
    ("retained_claims", .arr (plan.retainedClaims.map fun claim =>
      .obj [("claim_id", .str claim.claimId), ("text", .str claim.text),
        ("evidence_ids", texts claim.evidenceIds), ("authority", .str claim.authority),
        ("required", .bool claim.required)])),
    ("omitted_claim_ids", texts plan.omittedClaimIds),
    ("terminology_policy", texts plan.terminologyPolicy), ("audience", .str plan.audience),
    ("target_length_words", .int plan.targetLengthWords),
    ("discourse_structure", texts plan.discourseStructure), ("warnings", texts plan.warnings)]

def longDescription (claim : SynthesisClaim) (index : Nat) : String :=
  "Visual " ++ toString index ++ " represents " ++ claim.text ++ " Evidence: " ++
    ", ".intercalate claim.evidenceIds ++ ". " ++ "Meaning does not depend on color."

/-- `visual_semantics`; claims are numbered from one. -/
def visualSemantics (plan : SynthesisPlan) : List Json :=
  (plan.retainedClaims.zipIdx 1).map fun (claim, index) =>
    .obj [("visual_id", .str ("visual-" ++ toString index)), ("claim_id", .str claim.claimId),
      ("semantic_role", .str (if index > 1 then "sequence" else "anchor")),
      ("label", .str claim.text), ("alt_text", .str claim.text),
      ("long_description", .str (longDescription claim index)), ("grayscale_safe", .bool true),
      ("no_image_fallback", .str claim.text)]

/-- The first section takes the retained text of a reading passage. -/
def withRetainedText (artifact : JsonObject) (plan : SynthesisPlan) : JsonObject :=
  match sectionsOf artifact with
  | some (.obj first :: rest) =>
    let retained := " ".intercalate (plan.retainedClaims.map SynthesisClaim.text)
    artifact.set "sections" (.arr (.obj (JsonObject.set first "content" (.str retained)) :: rest))
  | _ => artifact

/-- `artifact.setdefault("accessibility", {})`, filled in if it is a dictionary. -/
def withVisualAccess (artifact : JsonObject) (plan : SynthesisPlan) : JsonObject :=
  match (artifact.get? "accessibility").getD (.obj []) with
  | .obj accessibility =>
    let numbered := plan.retainedClaims.zipIdx 1
    let claims := texts (plan.retainedClaims.map SynthesisClaim.text)
    artifact.set "accessibility" (.obj (withMembers accessibility
      [("alt_texts", claims),
        ("long_descriptions",
          texts (numbered.map fun (claim, index) => longDescription claim index)),
        ("grayscale_safe", .bool true), ("no_image_fallback", claims)]))
  | _ => artifact

section Services

variable (services : Services)

/-- A section of a roadmap with its objective and what comes before that. -/
def roadmapSection (order : List String) (part : JsonObject) (index : Nat) : JsonObject :=
  let objectiveId := services.textOr part "objective_id" ("objective-" ++ toString (index + 1))
  let prerequisites :=
    if objectiveId ∈ order then order.takeWhile fun other => other ≠ objectiveId else []
  withMembers part [("objective_id", .str objectiveId), ("prerequisite_ids", texts prerequisites)]

def hasObjective (objectiveId : String) (part : JsonObject) : Bool :=
  match part.get? "objective_id" with
  | some (.str text) => text = objectiveId
  | _ => false

/-- Add a section unless an equal one is there. -/
def addSection (reordered : List JsonObject) (part : JsonObject) : List JsonObject :=
  if reordered.any fun other => pythonEqual services.coercions.number (.obj part) (.obj other) then
    reordered
  else reordered ++ [part]

/-- `_reorder_roadmap_sections`: the last section of each objective in order,
then the others. -/
def reorderRoadmapSections (artifact : JsonObject) (order : List String) : JsonObject :=
  match sectionsOf artifact with
  | none => artifact
  | some sections =>
    let parts := sections.zipIdx.filterMap fun (part, index) =>
      match part with
      | .obj members => some (roadmapSection services order members index)
      | _ => none
    let ordered := order.filterMap fun objectiveId => parts.reverse.find? (hasObjective objectiveId)
    artifact.set "sections" (.arr ((parts.foldl (addSection services) ordered).map .obj))

def deepenSynthesis (artifact lessonPlan researchBrief : JsonObject) :
    Except RaisedValueError JsonObject := do
  let artifactType := services.textOr artifact "artifact_type" "synthesis"
  let target := if artifactType = "reading_passage" then 180 else 90
  let plan ← services.buildSynthesisPlan lessonPlan researchBrief target
  let planned := withMetadata artifact
    [("synthesis_plan", plan.modelDump),
      ("claim_evidence_map", .obj (withMembers [] (plan.retainedClaims.map fun claim =>
        (claim.claimId, texts claim.evidenceIds))))]
  if artifactType = "reading_passage" then
    return withMetadata (withRetainedText planned plan)
      [("passage_sources", texts (plan.retainedClaims.flatMap SynthesisClaim.evidenceIds))]
  else if artifactType = "roadmap" then
    let order ← services.prerequisiteOrder lessonPlan
    return reorderRoadmapSections services (withMetadata planned [("prerequisite_order", texts order)])
      order
  else if artifactType = "infographic" then
    return withVisualAccess
      (withMetadata planned [("visual_semantics", .arr (visualSemantics plan))]) plan
  else
    return planned

end Services

def deepenPresentation (artifact lessonPlan : JsonObject) (contentBrief : ContentBrief) :
    JsonObject :=
  withMetadata artifact
    [("presentation_plan", .obj
      [("objective_ids", texts ((objectiveList lessonPlan).map Objective.objectiveId)),
        ("methodology", .str contentBrief.methodology),
        ("required_moves", texts contentBrief.learningMoves),
        ("accessibility", .obj [("speaker_notes_separate", .bool true),
          ("color_not_sole_signal", .bool true), ("print_safe", .bool true)])])]

inductive SpecialistFamily where
  | lessonDesign
  | assessment
  | practice
  | synthesis
  | presentation
  deriving DecidableEq

def specialistFamilies : List (String × SpecialistFamily) :=
  [("lesson", .lessonDesign), ("quiz", .assessment), ("exit_ticket", .assessment),
    ("answer_key", .assessment), ("worksheet", .practice), ("drill", .practice),
    ("flashcard_deck", .practice), ("recap", .synthesis), ("infographic", .synthesis),
    ("roadmap", .synthesis), ("reading_passage", .synthesis), ("slide_deck", .presentation)]

def familyFor (artifactType : String) : Option SpecialistFamily :=
  specialistFamilies.lookup artifactType

/-- What the brief says about an artifact of its own. -/
def briefMembers (contentBrief : ContentBrief) (lessonPlan : JsonObject) : List (String × Json) :=
  [("content_brief_id", .str contentBrief.contentBriefId),
    ("knowledge_db_version", (contentBrief.knowledgeDbVersion.map Json.str).getD .null),
    ("objective_lineage", .arr (objectiveLineage lessonPlan contentBrief)),
    ("approved_objective_ids", texts ((objectiveList lessonPlan).map Objective.objectiveId)),
    ("source_citation_ids", texts contentBrief.sourceCitationIds),
    ("specialist_output_declaration", .obj [("methodology", .str contentBrief.methodology),
      ("objectives_covered", texts contentBrief.objectives),
      ("learning_moves_used", texts contentBrief.learningMoves)])]

section Services

variable (services : Services)

def deepenSpecialistOutput (artifact : JsonObject) (family : SpecialistFamily)
    (contentBrief : ContentBrief) (lessonPlan researchBrief : JsonObject) :
    Except GenerationError JsonObject :=
  let deepened := withMetadata artifact (briefMembers contentBrief lessonPlan)
  match family with
  | .lessonDesign => (deepenLesson services deepened lessonPlan).mapError .value
  | .assessment => deepenAssessment services deepened lessonPlan false
  | .practice => deepenAssessment services deepened lessonPlan true
  | .synthesis => (deepenSynthesis services deepened lessonPlan researchBrief).mapError .value
  | .presentation => .ok (deepenPresentation deepened lessonPlan contentBrief)

structure SpecialistOutputDeclaration where
  methodology : String
  objectivesCovered : List String
  learningMovesUsed : List String

def specialistOutputDeclaration : Codec SpecialistOutputDeclaration :=
  .model <|
    ((Fields.required "methodology" (boundedText 80)).and <|
      (listField "objectives_covered" (.text 0 none)).and <|
      listField "learning_moves_used" (.text 0 none)).imap
    (fun (methodology, objectivesCovered, learningMovesUsed) =>
      ⟨methodology, objectivesCovered, learningMovesUsed⟩)
    (fun declaration => (declaration.methodology, declaration.objectivesCovered,
      declaration.learningMovesUsed))
    (fun _ => rfl) (fun _ => rfl)

/-- What was produced outside of the brief, in the words of `violations`. -/
def violations (contentBrief : ContentBrief) (produced : SpecialistOutputDeclaration) :
    List String :=
  let outside (used approved : List String) : List String :=
    ((used.filter fun text => text ∉ approved).dedup).mergeSort fun first second => first ≤ second
  let extraObjectives := outside produced.objectivesCovered contentBrief.objectives
  let extraMoves := outside produced.learningMovesUsed contentBrief.learningMoves
  (if produced.methodology ≠ contentBrief.methodology then
    ["methodology changed from " ++
      String.ofList (Python.reprString services.printable contentBrief.methodology) ++ " to " ++
      String.ofList (Python.reprString services.printable produced.methodology)]
  else []) ++
  (if extraObjectives ≠ [] then
    ["objectives outside the approved brief: " ++ services.str (texts extraObjectives)]
  else []) ++
  if contentBrief.learningMoves ≠ [] ∧ extraMoves ≠ [] then
    ["learning moves outside the approved brief: " ++ services.str (texts extraMoves)]
  else []

def enforceContentBriefCompliance (contentBrief : ContentBrief)
    (produced : SpecialistOutputDeclaration) : Except GenerationError Unit :=
  match violations services contentBrief produced with
  | [] => .ok ()
  | first :: rest =>
    .error (.value ⟨"SpecialistComplianceError",
      contentBrief.contentBriefId ++ ": " ++ "; ".intercalate (first :: rest)⟩)

def enforceSpecialistDeclaration (artifact : JsonObject) (request : OrchestratorRequest) :
    Except GenerationError Unit :=
  match (metadataOf artifact).get? "specialist_output_declaration" with
  | some (.obj declaration) => do
    let produced ← services.validate specialistOutputDeclaration (.obj declaration)
    enforceContentBriefCompliance services request.contentBrief produced
  | _ =>
    .error (.value (valueError "specialist output omitted specialist_output_declaration"))

def compileArtifactWithContext (artifact : JsonObject) (context : CompilerContext) :
    Except GenerationError JsonObject :=
  let artifactType := services.textOr artifact "artifact_type" ""
  if artifactType = "" then
    .error (.value (valueError "artifact compiler requires artifact_type"))
  else
    let audience := if artifactType = "answer_key" then "teacher" else "student"
    let compiled := withMetadata artifact
      [("pedagogical_compiler", context.pedagogicalCompiler artifactType audience)]
    .ok (withMetadata compiled (context.lineage ++
      [("artifact_compile_hash", .str (context.compileHash compiled))]))

end Services

end OhMyClass.Generation
