import OhMyClass.Projection.Student
import OhMyClass.Raising.Core

/-!
# Payloads there and back

What the payload of a returned document consists of, and the sections it is
turned into.
-/

namespace OhMyClass.Projection

open List OhMyClass.Contracts OhMyClass.Raising

variable {coercions : Coercions} {printable : Char → Bool}

variable {α : Type}

theorem exists_left_of_forall₂ {β : Type} {relates : α → β → Prop} {items : List α}
    {results : List β} (each : List.Forall₂ relates items results) {result : β}
    (member : result ∈ results) : ∃ item ∈ items, relates item result := by
  induction each with
  | nil => cases member
  | cons first _ ih =>
    rcases mem_cons.mp member with rfl | member
    · exact ⟨_, mem_cons_self, first⟩
    · rcases ih member with ⟨item, isIn, related⟩
      exact ⟨item, mem_cons_of_mem _ isIn, related⟩

theorem forall₂_map_of_mem {β : Type} {relates : α → β → Prop} {rebuild : β → α} {results : List β}
    (each : ∀ result ∈ results, relates (rebuild result) result) :
    List.Forall₂ relates (results.map rebuild) results := by
  induction results with
  | nil => exact .nil
  | cons first rest ih =>
    rw [forall_mem_cons] at each
    exact .cons each.1 (ih each.2)

theorem validated_eq_ok {result : Except SchemaError α} {value : α} :
    validated result = .ok value ↔ result = .ok value := by
  cases result with
  | error _ => simp [validated, Except.mapError]
  | ok _ => simp [validated, Except.mapError]

theorem constructPayload_eq_ok {given payload : ArtifactPayload} :
    constructPayload given = .ok payload ↔ given = payload ∧ given.check = .ok () := by
  unfold constructPayload
  split
  · next failed => simp [failed]
  · next passes => simp [passes]

theorem filledText_eq_some {value : Option Json} {text : String} :
    filledText value = some text ↔ value = some (.str text) ∧ text ≠ "" := by
  unfold filledText
  split
  · next found =>
    split
    · next isEmpty => simp [isEmpty]
    · next filled =>
      simp only [Option.some.injEq, Json.str.injEq, iff_self_and]
      rintro rfl
      exact filled
  · next other =>
    simp only [reduceCtorEq, false_iff, not_and]
    rintro rfl
    exact absurd rfl (other text)

theorem ne_empty_of_valid {longest : Nat} {text : String} (valid : (boundedText longest).Valid text) :
    text ≠ "" := by
  rintro rfl
  exact absurd (boundedText_valid_iff.mp valid).1 (by decide)

/-! ## Questions -/

/-- What a question card was made into. -/
structure QuestionOf (card : JsonObject) (question : AssessmentQuestion) : Prop where
  valid : assessmentQuestion.Valid question
  options : ∃ options, card.get? "options" = some (.obj options) ∧
    question.options.map AssessmentOption.entityId = options.map Prod.fst

theorem map_entityId_of_questionOptions {options : JsonObject} {built : List AssessmentOption}
    (ret : questionOptions options = .ok built) :
    built.map AssessmentOption.entityId = options.map Prod.fst ∧
      ∀ option ∈ built, assessmentOption.Valid option := by
  induction options generalizing built with
  | nil =>
    cases ret
    exact ⟨rfl, forall_mem_nil _⟩
  | cons option rest ih =>
    rcases option with ⟨optionId, text⟩
    rw [questionOptions] at ret
    cases head : assessmentOption.decode (.obj [("entity_id", .str optionId), ("text", text)]) with
    | error _ =>
      rw [head] at ret
      cases ret
    | ok first =>
      cases tail : questionOptions rest with
      | error _ =>
        rw [head, tail] at ret
        cases ret
      | ok others =>
        rw [head, tail] at ret
        cases ret
        have sameId : first.entityId = optionId := by
          have read := head
          unfold assessmentOption at read
          simp [JsonObject.get?] at read
          exact read.1.1.symm
        rcases ih tail with ⟨ids, valid⟩
        refine ⟨?_, forall_mem_cons.mpr ⟨assessmentOption.valid_of_decode head, valid⟩⟩
        rw [map_cons, map_cons, sameId, ids]

variable {question : AssessmentQuestion}

theorem questionOf_of_questionFromCard {card : JsonObject}
    (ret : questionFromCard card = .ok question) : QuestionOf card question := by
  unfold questionFromCard at ret
  split at ret
  · next questionId prompt _ _ =>
    split at ret
    · next options found =>
      split at ret
      · cases built : questionOptions options with
        | error _ =>
          rw [built] at ret
          cases ret
        | ok parsed =>
          rw [built] at ret
          have decoded := validated_eq_ok.mp ret
          rcases map_entityId_of_questionOptions built with ⟨ids, valid⟩
          have encoded : (listField "options" assessmentOption).Valid parsed :=
            ⟨Nat.zero_le _, valid⟩
          have sameOptions : question.options = parsed := by
            have read := decoded
            unfold assessmentQuestion at read
            have isList : (Codec.listOf 0 assessmentOption).decode
                (.arr (parsed.map assessmentOption.encode)) = .ok question.options ↔
                parsed = question.options :=
              Codec.decode_encode_eq_ok encoded
            simp [JsonObject.get?, List.lookup_cons, listField, isList] at read
            exact read.2.2.symm
          exact ⟨assessmentQuestion.valid_of_decode decoded, options, found,
            sameOptions ▸ ids⟩
      · cases ret
    · cases ret
  · cases ret

theorem questionFromCard_of_says {card : JsonObject} (valid : assessmentQuestion.Valid question)
    (entityId : card.get? "id" = some (.str question.entityId))
    (prompt : card.get? "text" = some (.str question.prompt))
    (options : card.get? "options" = some (.obj (question.options.map fun option =>
      (option.entityId, .str option.text)))) :
    questionFromCard card = .ok question := by
  have decoded := assessmentQuestion.decode_encode valid
  rcases valid with ⟨validId, validPrompt, validOptions⟩
  have isId : filledText (card.get? "id") = some question.entityId :=
    filledText_eq_some.mpr ⟨entityId, ne_empty_of_valid validId⟩
  have isPrompt : filledText (card.get? "text") = some question.prompt :=
    filledText_eq_some.mpr ⟨prompt, ne_empty_of_valid validPrompt⟩
  have filled : ((question.options.map fun option => (option.entityId, Json.str option.text)).all
      fun option => option.1 ≠ "" && (filledText (some option.2)).isSome) = true := by
    rw [all_map, all_eq_true]
    intro option mem
    rcases validOptions.2 option mem with ⟨optionId, text⟩
    have isText : filledText (some (.str option.text)) = some option.text :=
      filledText_eq_some.mpr ⟨rfl, ne_empty_of_valid text⟩
    simp [isText, ne_empty_of_valid optionId]
  have built : questionOptions (question.options.map fun option =>
      (option.entityId, Json.str option.text)) = .ok question.options := by
    have each : ∀ option ∈ question.options, assessmentOption.Valid option := validOptions.2
    generalize question.options = parsed at each
    induction parsed with
    | nil => rfl
    | cons option rest ih =>
      rw [forall_mem_cons] at each
      have decoded : assessmentOption.decode (.obj [("entity_id", .str option.entityId),
          ("text", .str option.text)]) = .ok option :=
        assessmentOption.decode_encode each.1
      rw [map_cons, questionOptions, decoded, ih each.2]
      rfl
  unfold questionFromCard
  simp only [isId, isPrompt, options]
  rw [if_pos filled, built]
  exact validated_eq_ok.mpr decoded

theorem options_cardOfQuestion (distinct : (question.options.map AssessmentOption.entityId).Nodup) :
    dictOf (question.options.map fun option => (option.entityId, .str option.text)) =
      question.options.map fun option => (option.entityId, .str option.text) := by
  apply JsonObject.foldl_set_of_nodup
  rw [map_map]
  exact distinct

theorem questionFromCard_cardOfQuestion (valid : assessmentQuestion.Valid question)
    (distinct : (question.options.map AssessmentOption.entityId).Nodup) :
    questionFromCard (cardOfQuestion question) = .ok question :=
  questionFromCard_of_says valid rfl rfl
    (congrArg (fun members => some (Json.obj members)) (options_cardOfQuestion distinct))

theorem map_obj_of_decodeItems {items : List Json} {values : List JsonObject}
    (decoded : Codec.object.decodeItems items = .ok values) : items = values.map .obj := by
  induction items generalizing values with
  | nil =>
    cases decoded
    rfl
  | cons item rest ih =>
    rw [Codec.decodeItems] at decoded
    cases item with
    | obj members =>
      cases tail : Codec.object.decodeItems rest with
      | error _ =>
        rw [tail] at decoded
        cases decoded
      | ok others =>
        rw [tail] at decoded
        cases decoded
        rw [map_cons, ih tail]
    | null | bool _ | int _ | float _ | str _ | arr _ => cases decoded

theorem map_obj_of_listOf {fewest : Nat} {items : List Json} {values : List JsonObject}
    (decoded : (Codec.listOf fewest .object).decode (.arr items) = .ok values) :
    items = values.map .obj := by
  simp only [Codec.listOf] at decoded
  split at decoded
  · next isList =>
    split at decoded
    · cases decoded
      exact map_obj_of_decodeItems isList
    · cases decoded
  · cases decoded

variable {part : JsonObject} {index : Nat}

theorem components_of_richSection {built : RichDocumentSection}
    (ret : richSection coercions printable (part, index) = .ok built) :
    richDocumentSection.Valid built ∧
      (built.components.map Json.obj = sectionComponents part ∨
        ∃ text, built.components = [[("type", .str "paragraph"), ("text", .str text)]]) := by
  unfold richSection at ret
  cases mapped : mappableComponents index part with
  | error _ =>
    rw [mapped] at ret
    cases ret
  | ok components =>
    rw [mapped] at ret
    have decoded := validated_eq_ok.mp ret
    have isComponents : components = built.components.map .obj := by
      have read := decoded
      unfold richDocumentSection at read
      simp [JsonObject.get?, List.lookup_cons] at read
      exact map_obj_of_listOf read.2.2
    refine ⟨richDocumentSection.valid_of_decode decoded, ?_⟩
    unfold mappableComponents at mapped
    split at mapped
    · next listed =>
      cases mapped
      exact .inl (isComponents.symm.trans listed.symm)
    · split at mapped
      · next text _ =>
        cases mapped
        refine .inr ⟨text, ?_⟩
        cases isBuilt : built.components with
        | nil =>
          rw [isBuilt] at isComponents
          cases isComponents
        | cons first rest =>
          rw [isBuilt] at isComponents
          cases rest with
          | nil =>
            cases isComponents
            rfl
          | cons _ _ => cases isComponents
      · cases mapped

theorem richSection_of_says {built : RichDocumentSection} (valid : richDocumentSection.Valid built)
    (entityId : sectionId coercions printable index part = built.entityId)
    (title : sectionTitle index part = built.title)
    (components : mappableComponents index part = .ok (built.components.map .obj)) :
    richSection coercions printable (part, index) = .ok built := by
  unfold richSection
  simp only [components, entityId, title]
  exact validated_eq_ok.mpr (richDocumentSection.decode_encode valid)

theorem mappableComponents_of_listed {components : List JsonObject}
    (listed : sectionComponents part = components.map .obj) (some : components ≠ []) :
    mappableComponents index part = .ok (components.map .obj) := by
  unfold mappableComponents
  rw [listed]
  cases components with
  | nil => exact absurd rfl some
  | cons first rest => rfl

theorem richSection_sectionOf {built : RichDocumentSection}
    (valid : richDocumentSection.Valid built) (index : Nat) :
    richSection coercions printable
      (sectionOf built.entityId built.title built.components, index) = .ok built := by
  rcases valid with ⟨entityId, title, components⟩
  refine richSection_of_says ⟨entityId, title, components⟩ ?_ ?_ ?_
  · have filled : built.entityId ≠ "" := ne_empty_of_valid entityId
    have found : (sectionOf built.entityId built.title built.components).get? "id" =
        some (.str built.entityId) := rfl
    simp [sectionId, found, Python.truthy, Python.str, filled]
  · have found : filledText ((sectionOf built.entityId built.title built.components).get? "title") =
        some built.title := filledText_eq_some.mpr ⟨rfl, ne_empty_of_valid title⟩
    simp [sectionTitle, found]
  · exact mappableComponents_of_listed rfl (ne_nil_of_length_pos components.1)

end OhMyClass.Projection
