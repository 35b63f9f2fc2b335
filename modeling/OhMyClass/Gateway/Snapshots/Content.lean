import OhMyClass.Gateway.Basic
import OhMyClass.Json.Text
import OhMyClass.Table.Core

/-!
# Contents of snapshots

The rows of `artifact_snapshots`, and what they store and hash.
-/

namespace OhMyClass.Gateway

/-!
## Rows of `artifact_snapshots`
-/

section

/-- What happens when a stored snapshot with the same content carries other
versions. -/
inductive VersionMismatchPolicy where
  | block
  | warn
  deriving DecidableEq

structure ArtifactSnapshotCreate where
  snapshotId : String
  runId : RunId
  artifactId : String
  artifactType : String
  contentJson : JsonObject
  renderedHtml : String
  rendererVersion : String
  templateVersion : String := "unknown"
  themeVersion : String := "unknown"
  studentRenderedHtml : Option String := none
  versionMismatchPolicy : VersionMismatchPolicy := .block

/-- A row of `public.artifact_snapshots`. -/
structure ArtifactSnapshot where
  snapshotId : String
  runId : RunId
  artifactId : String
  artifactType : String
  contentHash : String
  htmlHash : String
  contentJson : Option JsonObject
  renderedHtml : String
  studentRenderedHtml : String
  rendererVersion : String
  templateVersion : String
  themeVersion : String
  standaloneValid : Bool
  approvedAt : Option DateTime
  createdAt : DateTime

/-- The primary key and the unique content hash. -/
def ArtifactSnapshot.Conflict (first second : ArtifactSnapshot) : Prop :=
  first.snapshotId = second.snapshotId ∨ first.contentHash = second.contentHash
  deriving Decidable

abbrev ArtifactSnapshots := Table ArtifactSnapshot ArtifactSnapshot.Conflict

inductive SnapshotError where
  | answerKeyLeakage (snapshotId : String) (issues : List String)
  | persistence (snapshotId : String)
  | versionMismatch (snapshotId : String)
  | baseVersionConflict (baseSnapshotId : String) (currentHeadSnapshotId : Option String)

end

/-!
## What a snapshot stores and hashes

Slide decks get their resolved display preferences written into the content,
and the content hash covers the canonical text of the content and the HTML.
-/

section

/-! ## Display preferences -/

/-- The value of a preference that has one of the allowed values, else its
default. -/
def resolvePreference (raw : JsonObject) (field : String) (allowed : Json → Bool) (default : Json) :
    Json :=
  match raw.get? field with
  | none => default
  | some value => if allowed value then value else default

/-- A strict literal of texts. -/
def isOneOfTexts (texts : List String) : Json → Bool
  | .str text => texts.contains text
  | _ => false

/-- A strict literal of integers. -/
def isOneOfInts (numbers : List Int) : Json → Bool
  | .int number => numbers.contains number
  | _ => false

/-- The dumped preferences in effect for raw, possibly partial ones. -/
def resolveSlideDeckDisplayPreferences (raw : JsonObject) : JsonObject :=
  [("surface", resolvePreference raw "surface"
      (isOneOfTexts ["presentation", "student", "teacher", "print", "review"])
      (.str "presentation")),
    ("print_layout", resolvePreference raw "print_layout" (isOneOfTexts ["paged", "continuous"])
      (.str "paged")),
    ("slides_per_page", resolvePreference raw "slides_per_page" (isOneOfInts [1, 2, 4, 6])
      (.int 1)),
    ("chrome", resolvePreference raw "chrome" (isOneOfTexts ["hidden", "minimal", "branded"])
      (.str "hidden"))]

def bakeEffectiveSlideDeckDisplayPreferences (artifactType : String) (contentJson : JsonObject) :
    JsonObject :=
  if artifactType ≠ "slide_deck" then contentJson
  else
    match contentJson.get? "metadata" with
    | some (.obj metadata) =>
      match JsonObject.get? metadata "slide_deck_data" with
      | some (.obj deck) =>
        let raw : JsonObject :=
          match JsonObject.get? deck "display_preferences" with
          | some (.obj preferences) => preferences
          | _ => []
        let updatedDeck := JsonObject.set deck "display_preferences"
          (.obj (resolveSlideDeckDisplayPreferences raw))
        let updatedMetadata := JsonObject.set metadata "slide_deck_data" (.obj updatedDeck)
        contentJson.set "metadata" (.obj updatedMetadata)
      | _ => contentJson
    | _ => contentJson

def ArtifactSnapshotCreate.storedContent (payload : ArtifactSnapshotCreate) : JsonObject :=
  bakeEffectiveSlideDeckDisplayPreferences payload.artifactType payload.contentJson

/-- The text that is hashed: canonical content, a NUL, and the HTML. -/
def hashedText (contentJson : JsonObject) (renderedHtml : String) : String :=
  String.ofList ((Json.obj contentJson).dumps ++ '\x00' :: renderedHtml.toList)

/-- The hex digest of a text is given by `sha256`. -/
def snapshotContentHash (sha256 : String → String) (contentJson : JsonObject)
    (renderedHtml : String) : String :=
  sha256 (hashedText contentJson renderedHtml)

/-- Equal up to the order of members, at every depth. -/
def SameContent (first second : JsonObject) : Prop :=
  (Json.obj first).canonical = (Json.obj second).canonical

theorem SameContent.refl (content : JsonObject) : SameContent content content :=
  rfl

theorem hashedText_eq_iff {first second : JsonObject} {firstHtml secondHtml : String} :
    hashedText first firstHtml = hashedText second secondHtml ↔
      SameContent first second ∧ firstHtml = secondHtml := by
  constructor
  · intro same
    have lists := congrArg String.toList same
    simp only [hashedText, String.toList_ofList] at lists
    obtain ⟨texts, htmls⟩ :=
      Text.split_at_first (Json.nul_not_mem_chars _) (Json.nul_not_mem_chars _) lists
    exact ⟨Json.dumps_eq_iff.mp texts, String.toList_injective htmls⟩
  · rintro ⟨sameContent, rfl⟩
    rw [hashedText, hashedText, Json.dumps_eq_iff.mpr sameContent]

end

end OhMyClass.Gateway
