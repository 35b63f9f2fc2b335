import Mathlib.Data.List.Forall2
import OhMyClass.Json.Frames
import OhMyClass.Python.Text

/-!
# Edits of a section

A teacher's edit of one section of an artifact: the section gets new content
and a history entry, and the artifact a lineage stamp.
-/

namespace OhMyClass.TeachingPack

open List OhMyClass.JsonObject OhMyClass.Python

variable (printable : Char → Bool)

/-- `str(members.get(key, default))`. -/
def textOf (members : JsonObject) (key default : String) : String :=
  str printable ((members.get? key).getD (.str default))

/-- What a gate payload says of a section edit. -/
structure SectionEdit where
  artifactId : String
  sectionId : String
  replacement : String
  rationale : String

def sectionEditOf (edit : JsonObject) : SectionEdit where
  artifactId := textOf printable edit "artifact_id" ""
  sectionId := textOf printable edit "section_id" ""
  replacement := textOf printable edit "replacement_content" ""
  rationale := textOf printable edit "rationale" ""

/-- `str(artifact.get("artifact_id", artifact.get("id", "")))`. -/
def artifactIdOf (artifact : JsonObject) : String :=
  match artifact.get? "artifact_id" with
  | some value => str printable value
  | none => textOf printable artifact "id" ""

/-- `str(section.get("section_id", section.get("id", section.get("title", ""))))`. -/
def sectionIdOf (members : JsonObject) : String :=
  match members.get? "section_id" with
  | some value => str printable value
  | none =>
    match members.get? "id" with
    | some value => str printable value
    | none => textOf printable members "title" ""

section Edit

variable (edit : SectionEdit)

def historyEntry : Json :=
  .obj [("authority", .str "teacher_edit"), ("rationale", .str edit.rationale)]

def editedSection : Json → Json
  | .obj members =>
    if sectionIdOf printable members = edit.sectionId then
      .obj ((JsonObject.set members "content" (.str edit.replacement)).set "edit_history"
        (.arr (objectsIn (JsonObject.get? members "edit_history") ++ [historyEntry edit])))
    else
      .obj members
  | section_ => section_

def contentLineage : Json :=
  .obj [("parent_artifact_id", .str edit.artifactId), ("change_authority", .str "teacher_edit"),
    ("changed_section_id", .str edit.sectionId), ("rationale", .str edit.rationale)]

def editedArtifact (artifact : JsonObject) : JsonObject :=
  if artifactIdOf printable artifact ≠ edit.artifactId then
    artifact
  else
    match artifact.get? "sections" with
    | some (.arr sections) =>
      (artifact.set "sections" (.arr (sections.map (editedSection printable edit)))).set "metadata"
        (.obj ((orEmpty (artifact.get? "metadata")).set "content_lineage" (contentLineage edit)))
    | _ => artifact

def contentUpdateEvent : Json :=
  .obj [("event_name", .str "teaching_pack.content_version.created"),
    ("payload", .obj [("artifact_id", .str edit.artifactId), ("section_id", .str edit.sectionId),
      ("authority", .str "teacher_edit"),
      ("diff", .obj [("status", .str "teacher_section_edit"),
        ("changed_path", .str (edit.artifactId ++ ".sections[" ++ edit.sectionId ++ "]")),
        ("rationale", .str edit.rationale)])])]

end Edit

def applyScopedSectionEdit (artifacts : List JsonObject) (gatePayload : JsonObject) : JsonObject :=
  match gatePayload.get? "section_edit" with
  | some (.obj members) =>
    let edit := sectionEditOf printable members
    [("artifacts", .arr ((artifacts.map (editedArtifact printable edit)).map .obj)),
      ("content_update_event", contentUpdateEvent edit)]
  | _ => [("artifacts", .arr (artifacts.map .obj))]

/-! ## Frames -/

section Frame

variable (edit : SectionEdit)

/-- A section keeps everything but its content and its history, and keeps these
too unless it has the id of the edit. -/
def SectionFrame : Json → Json → Prop
  | .obj before, .obj after =>
    if sectionIdOf printable before = edit.sectionId then
      SameExcept ["content", "edit_history"] before after ∧
        JsonObject.get? after "content" = some (.str edit.replacement)
    else
      after = before
  | before, after => after = before

/-- The lineage an artifact carries. -/
def lineageOf (artifact : JsonObject) : Option Json :=
  (orEmpty (artifact.get? "metadata")).get? "content_lineage"

/-- The sections of the artifact with the id of the edit. -/
def TargetSections (artifact : JsonObject) (sections : List Json) : Prop :=
  artifactIdOf printable artifact = edit.artifactId ∧
    artifact.get? "sections" = some (.arr sections)

/-- Some section of the artifact is replaced. -/
def IsReplaced (artifact : JsonObject) : Prop :=
  ∃ sections, TargetSections printable edit artifact sections ∧
    ∃ members, .obj members ∈ sections ∧ sectionIdOf printable members = edit.sectionId

/-- What an edit may do to the artifact it names. -/
structure TargetFrame (sections : List Json) (before after : JsonObject) : Prop where
  members : SameExcept ["sections", "metadata"] before after
  sections : ∃ edited, after.get? "sections" = some (.arr edited) ∧
    List.Forall₂ (SectionFrame printable edit) sections edited
  metadata : NestedFrame "content_lineage" (before.get? "metadata") (after.get? "metadata")
  stamped : IsReplaced printable edit before → lineageOf after = some (contentLineage edit)
  unstamped : ¬ IsReplaced printable edit before → lineageOf after = lineageOf before

/-- What an edit may do to an artifact. -/
structure ArtifactFrame (before after : JsonObject) : Prop where
  others : (∀ sections, ¬ TargetSections printable edit before sections) → after = before
  target : ∀ sections, TargetSections printable edit before sections →
    TargetFrame printable edit sections before after

/-- An edit keeps what it does not name, and tells whether it replaced anything. -/
structure TruthfulEdit (artifacts : List JsonObject) (result : JsonObject) : Prop where
  framed : ∃ edited : List JsonObject, result.get? "artifacts" = some (.arr (edited.map .obj)) ∧
    List.Forall₂ (ArtifactFrame printable edit) artifacts edited
  event : (result.get? "content_update_event").isSome = true ↔
    ∃ artifact ∈ artifacts, IsReplaced printable edit artifact

/-- The stamp does no harm to the artifact: its metadata are an object, if any,
and it has a section with the id of the edit or carries the stamp already. -/
def StampsTruly (artifact : JsonObject) : Prop :=
  IsObjectOrAbsent (artifact.get? "metadata") ∧
    (IsReplaced printable edit artifact ∨ lineageOf artifact = some (contentLineage edit))

end Frame

variable {printable} {edit : SectionEdit} {artifact : JsonObject}

theorem sectionFrame_editedSection (section_ : Json) :
    SectionFrame printable edit section_ (editedSection printable edit section_) := by
  cases section_ with
  | obj members =>
    simp only [editedSection]
    by_cases named : sectionIdOf printable members = edit.sectionId
    · simp only [SectionFrame, if_pos named]
      constructor
      · exact ((SameExcept.refl _ members).set _ mem_cons_self).set _
          (mem_cons_of_mem _ mem_cons_self)
      · rw [get?_set_of_ne _ _ (by decide), get?_set_self]
    · simp only [SectionFrame, if_neg named]
  | null | bool | int | float | str | arr => simp [editedSection, SectionFrame]

theorem editedArtifact_of_target {sections : List Json}
    (target : TargetSections printable edit artifact sections) :
    editedArtifact printable edit artifact =
      (artifact.set "sections" (.arr (sections.map (editedSection printable edit)))).set "metadata"
        (.obj ((orEmpty (artifact.get? "metadata")).set "content_lineage"
          (contentLineage edit))) := by
  unfold editedArtifact
  rw [if_neg (not_not.mpr target.1), target.2]

theorem editedArtifact_of_no_target
    (free : ∀ sections, ¬ TargetSections printable edit artifact sections) :
    editedArtifact printable edit artifact = artifact := by
  unfold editedArtifact
  split
  · rfl
  · next named =>
    split
    · next sections isList => exact absurd ⟨not_not.mp named, isList⟩ (free sections)
    · rfl

theorem lineageOf_stamped (members metadata : JsonObject) (lineage : Json) :
    lineageOf (members.set "metadata" (.obj (metadata.set "content_lineage" lineage))) =
      some lineage := by
  unfold lineageOf
  rw [get?_set_self]
  exact get?_set_self metadata "content_lineage" lineage

/-- Where the named artifact has sections, the edit does to it what it may if
and only if the stamp does no harm. -/
theorem targetFrame_editedArtifact_iff {sections : List Json}
    (target : TargetSections printable edit artifact sections) :
    TargetFrame printable edit sections artifact (editedArtifact printable edit artifact) ↔
      StampsTruly printable edit artifact := by
  rw [editedArtifact_of_target target]
  have stamp := lineageOf_stamped
    (artifact.set "sections" (.arr (sections.map (editedSection printable edit))))
    (orEmpty (artifact.get? "metadata")) (contentLineage edit)
  constructor
  · intro framed
    constructor
    · have metadata := framed.metadata
      rw [get?_set_self] at metadata
      exact nestedFrame_set_iff.mp metadata
    · by_cases replaced : IsReplaced printable edit artifact
      · exact .inl replaced
      · right
        rw [← framed.unstamped replaced, stamp]
  · rintro ⟨isObject, truly⟩
    constructor
    · exact ((SameExcept.refl _ artifact).set _ mem_cons_self).set _
        (mem_cons_of_mem _ mem_cons_self)
    · refine ⟨sections.map (editedSection printable edit), ?_, ?_⟩
      · rw [get?_set_of_ne _ _ (by decide), get?_set_self]
      · rw [forall₂_map_right_iff, forall₂_same]
        exact fun section_ _ => sectionFrame_editedSection section_
    · rw [get?_set_self]
      exact nestedFrame_set_iff.mpr isObject
    · exact fun _ => stamp
    · intro kept
      rw [stamp, truly.resolve_left kept]

theorem artifactFrame_editedArtifact_iff :
    ArtifactFrame printable edit artifact (editedArtifact printable edit artifact) ↔
      ∀ sections, TargetSections printable edit artifact sections →
        StampsTruly printable edit artifact := by
  constructor
  · intro framed sections target
    exact (targetFrame_editedArtifact_iff target).mp (framed.target sections target)
  · intro truly
    exact
      { others := editedArtifact_of_no_target
        target := fun sections target =>
          (targetFrame_editedArtifact_iff target).mpr (truly sections target) }

theorem applyScopedSectionEdit_of_edit (artifacts : List JsonObject)
    {gatePayload members : JsonObject}
    (given : gatePayload.get? "section_edit" = some (.obj members)) :
    applyScopedSectionEdit printable artifacts gatePayload =
      [("artifacts", .arr ((artifacts.map
          (editedArtifact printable (sectionEditOf printable members))).map .obj)),
        ("content_update_event", contentUpdateEvent (sectionEditOf printable members))] := by
  unfold applyScopedSectionEdit
  rw [given]

/-- An edit keeps what it does not name and reports truly exactly when some
section has its id and every artifact it stamps may carry the stamp. -/
theorem applyScopedSectionEdit_truthful_iff (printable : Char → Bool) (artifacts : List JsonObject)
    (gatePayload members : JsonObject)
    (given : gatePayload.get? "section_edit" = some (.obj members)) :
    TruthfulEdit printable (sectionEditOf printable members) artifacts
        (applyScopedSectionEdit printable artifacts gatePayload) ↔
      (∃ artifact ∈ artifacts, IsReplaced printable (sectionEditOf printable members) artifact) ∧
        ∀ artifact ∈ artifacts, ∀ sections,
          TargetSections printable (sectionEditOf printable members) artifact sections →
            StampsTruly printable (sectionEditOf printable members) artifact := by
  rw [applyScopedSectionEdit_of_edit artifacts given]
  have frames : List.Forall₂ (ArtifactFrame printable (sectionEditOf printable members)) artifacts
      (artifacts.map (editedArtifact printable (sectionEditOf printable members))) ↔
        ∀ artifact ∈ artifacts, ∀ sections,
          TargetSections printable (sectionEditOf printable members) artifact sections →
            StampsTruly printable (sectionEditOf printable members) artifact := by
    rw [forall₂_map_right_iff, forall₂_same]
    exact forall₂_congr fun artifact _ => artifactFrame_editedArtifact_iff
  rw [← frames]
  constructor
  · rintro ⟨⟨edited, isEdited, framed⟩, event⟩
    refine ⟨event.mp rfl, ?_⟩
    have sameArtifacts : (artifacts.map
        (editedArtifact printable (sectionEditOf printable members))).map Json.obj =
          edited.map Json.obj := by
      simpa [JsonObject.get?] using isEdited
    have injective : Function.Injective Json.obj := fun _ _ same => Json.obj.inj same
    rw [map_injective_iff.mpr injective sameArtifacts]
    exact framed
  · rintro ⟨replaced, framed⟩
    exact
      { framed := ⟨_, rfl, framed⟩
        event := iff_of_true rfl replaced }

def lessonEdit (sectionId : String) : JsonObject :=
  [("artifact_id", .str "lesson-1"), ("section_id", .str sectionId),
    ("replacement_content", .str "Half of eight is four."), ("rationale", .str "clearer")]

def editPayload (sectionId : String) : JsonObject :=
  [("edit_type", .str "scoped_section"), ("section_edit", .obj (lessonEdit sectionId))]

def lessonWithIntro : JsonObject :=
  [("artifact_id", .str "lesson-1"),
    ("sections", .arr [.obj [("section_id", .str "intro"), ("content", .str "Fractions")]]),
    ("metadata", .obj [])]

theorem lessonWithIntro_not_replaced :
    ¬ IsReplaced printable (sectionEditOf printable (lessonEdit "outro")) lessonWithIntro := by
  rintro ⟨sections, ⟨_, isSections⟩, members, mem, named⟩
  cases isSections
  cases mem_singleton.mp mem
  exact absurd named (by decide : ¬ ("intro" : String) = "outro")

/-- An edit is reported although no section was replaced. -/
theorem outro_reported : ¬ ∀ printable artifacts gatePayload members,
    gatePayload.get? "section_edit" = some (.obj members) →
      TruthfulEdit printable (sectionEditOf printable members) artifacts
        (applyScopedSectionEdit printable artifacts gatePayload) := by
  intro claim
  have truthful := claim (fun _ => true) [lessonWithIntro] (editPayload "outro")
    (lessonEdit "outro") rfl
  rcases truthful.event.mp rfl with ⟨artifact, mem, replaced⟩
  cases mem_singleton.mp mem
  exact lessonWithIntro_not_replaced replaced

theorem applyScopedSectionEdit_intro :
    TruthfulEdit (fun _ => true) (sectionEditOf (fun _ => true) (lessonEdit "intro"))
        [lessonWithIntro]
        (applyScopedSectionEdit (fun _ => true) [lessonWithIntro] (editPayload "intro")) ↔
      (∃ artifact ∈ [lessonWithIntro],
        IsReplaced (fun _ => true) (sectionEditOf (fun _ => true) (lessonEdit "intro")) artifact) ∧
      ∀ artifact ∈ [lessonWithIntro], ∀ sections,
        TargetSections (fun _ => true) (sectionEditOf (fun _ => true) (lessonEdit "intro")) artifact
            sections →
          StampsTruly (fun _ => true) (sectionEditOf (fun _ => true) (lessonEdit "intro")) artifact :=
  applyScopedSectionEdit_truthful_iff (fun _ => true) [lessonWithIntro] (editPayload "intro")
    (lessonEdit "intro") rfl

end OhMyClass.TeachingPack
