import OhMyClass.Projection.Payloads
import OhMyClass.TeachingPack.ArtifactStatus

/-!
# Answers kept apart from an assessment

The answers of the question cards of an artifact, their check against the
cards, and the answer key that is made of both.
-/

namespace OhMyClass.Assessment

open OhMyClass.Contracts OhMyClass.Projection OhMyClass.Python OhMyClass.Raising
open OhMyClass.TeachingPack (strip)

inductive AnswerSetError where
  | validation (error : SchemaError)
  | verification (message : String)
  /-- `TypeError` -/
  | type

/-- What `for section in artifact.get("sections", [])` goes through. -/
def artifactSections (artifact : JsonObject) : Except AnswerSetError (List Json) :=
  match artifact.get? "sections" with
  | none => .ok []
  | some (.arr sections) => .ok sections
  | some (.str text) => .ok (text.toList.map fun c => .str (String.singleton c))
  | some (.obj members) => .ok (members.map fun member => .str member.1)
  | some _ => .error .type

def sectionCards (sections : List Json) : List JsonObject :=
  sections.flatMap fun part =>
    match part with
    | .obj members => questionCards members
    | _ => []

/-- The question cards of an artifact in document order. -/
def artifactCards (artifact : JsonObject) : List JsonObject :=
  match artifactSections artifact with
  | .ok sections => sectionCards sections
  | .error _ => []

/-! ## `derive_answer_set` -/

/-- The id and the answer of a card that has both. -/
def usableAnswer (card : JsonObject) : Option (String × String) :=
  match filledText (card.get? "id"), filledText (card.get? "answer") with
  | some questionId, some answer => some (questionId, answer)
  | _, _ => none

/-- Whether the options of a card are an object with an answer among its keys. -/
def hasOption (card : JsonObject) (answer : String) : Bool :=
  match card.get? "options" with
  | some (.obj options) => (JsonObject.get? options answer).isSome
  | _ => false

/-- The arguments of `AnswerEntry` for a card. -/
def entryOfCard (card : JsonObject) (questionId answer : String) : AnswerEntry where
  entityId := "answer-" ++ questionId
  questionId := questionId
  correctOptionIds := if hasOption card answer then [answer] else []
  acceptedAnswers := if hasOption card answer then [] else [answer]
  rationale :=
    match card.get? "explain" with
    | some (.str text) => some text
    | _ => none

/-- The constructor of a model: its arguments, if they are valid. -/
def construct {α : Type} (codec : Codec α) (value : α) : Except AnswerSetError α :=
  (codec.decode (codec.encode value)).mapError .validation

/-- The arguments for a card that is not skipped. -/
def cardEntry (card : JsonObject) : Option AnswerEntry :=
  (usableAnswer card).map fun (questionId, answer) => entryOfCard card questionId answer

def deriveEntries (cards : List JsonObject) : Except AnswerSetError (List AnswerEntry) :=
  (cards.filterMap cardEntry).mapM (construct answerEntry)

/-- Whether the id of a card is a given text. -/
def hasId (questionId : String) (card : JsonObject) : Bool :=
  match card.get? "id" with
  | some (.str text) => text = questionId
  | _ => false

/-- The last card with an id: the one a dictionary by id holds. -/
def cardWithId (cards : List JsonObject) (questionId : String) : Option JsonObject :=
  cards.reverse.find? (hasId questionId)

/-- One round of the second loop of `verify_answer_set`. -/
def verifyEntry (cards : List JsonObject) (entry : AnswerEntry) : Except AnswerSetError Unit :=
  match cardWithId cards entry.questionId with
  | none => .error (.verification ("answer references missing question " ++ entry.questionId))
  | some question =>
    if entry.correctOptionIds ≠ [] ∧ ¬ entry.correctOptionIds.all (hasOption question) then
      .error (.verification ("answer for " ++ entry.questionId ++ " references an unknown option"))
    else if entry.acceptedAnswers ≠ [] ∧
        ¬ entry.acceptedAnswers.all fun answer => strip answer.toList ≠ [] then
      .error (.verification
        ("answer for " ++ entry.questionId ++ " contains an empty accepted response"))
    else if entry.correctOptionIds = [] ∧ entry.acceptedAnswers = [] then
      .error (.verification ("answer for " ++ entry.questionId ++ " has no verifiable response"))
    else
      .ok ()

def verifyAnswerSet (artifact : JsonObject) (answers : AnswerSet) : Except AnswerSetError Unit := do
  let answersByQuestion := answers.entries.foldl (Keyed.put AnswerEntry.questionId) []
  let sections ← artifactSections artifact
  answersByQuestion.forM (verifyEntry (sectionCards sections))

theorem generated_listed : "generated" ∈ ["generated", "teacher_edit", "ai_assisted_edit"] :=
  List.mem_cons_self

/-- The arguments of `AnswerSet`. -/
def generatedAnswers (sourceDocumentId : String) (sourceVersion : Int)
    (entries : List AnswerEntry) : AnswerSet where
  answerSetId := "answers-" ++ sourceDocumentId ++ "-v" ++ toString sourceVersion
  sourceDocumentId := sourceDocumentId
  sourceVersion := sourceVersion
  authority := ⟨"generated", generated_listed⟩
  entries := entries

def deriveAnswerSet (coercions : Coercions) (artifact : JsonObject) (sourceDocumentId : String)
    (sourceVersion : Int) : Except AnswerSetError AnswerSet := do
  let sections ← artifactSections artifact
  let entries ← deriveEntries (sectionCards sections)
  if entries = [] then
    .error (.verification "assessment contains no answer-bearing question_card components")
  else do
    let answers ← construct (answerSet coercions)
      (generatedAnswers sourceDocumentId sourceVersion entries)
    verifyAnswerSet artifact answers
    return answers

section Keys

variable (isZero : FloatLiteral → Bool) (printable : Char → Bool)

/-- `str(component.get("id"))`. -/
def cardIdText (card : JsonObject) : String :=
  str printable ((card.get? "id").getD .null)

/-- `str(question.get("text") or "")`. -/
def cardText (card : JsonObject) : String :=
  str printable (((card.get? "text").filter (truthy isZero)).getD (.str ""))

/-- The section of an answer key for an entry and its card. -/
def keySection (entry : AnswerEntry) (card : JsonObject) : Json :=
  let answer := ", ".intercalate
    (if entry.correctOptionIds ≠ [] then entry.correctOptionIds else entry.acceptedAnswers)
  .obj [("id", .str ("answer-key-" ++ entry.questionId)),
    ("title", .str ("Question " ++ entry.questionId)),
    ("summary", .str (cardText isZero printable card)),
    ("components", .arr [.obj [("type", .str "paragraph"), ("text", .str ("Answer: " ++ answer))]])]

def keySections (cards : List JsonObject) (entries : List AnswerEntry) :
    Except AnswerSetError (List Json) :=
  entries.mapM fun entry =>
    match cards.reverse.find? fun card => cardIdText printable card == entry.questionId with
    | none =>
      .error (.verification ("answer key references missing question " ++ entry.questionId))
    | some question => .ok (keySection isZero printable entry question)

/-- The answer key with given sections. -/
def keyArtifact (artifact : JsonObject) (theme language : String) (built : List Json) :
    JsonObject :=
  [("artifact_type", .str "answer_key"),
    ("title", .str ("Answer Key: " ++
      str printable ((artifact.get? "title").getD (.str "Assessment")))),
    ("theme", .str theme),
    ("sections", .arr built),
    ("metadata", .obj [("total_questions", .int built.length)]),
    ("accessibility", .obj [("language", .str language)])]

def deriveAnswerKeyArtifact (artifact : JsonObject) (answers : AnswerSet) (theme language : String) :
    Except AnswerSetError JsonObject := do
  let sections ← artifactSections artifact
  let built ← keySections isZero printable (sectionCards sections) answers.entries
  return keyArtifact printable artifact theme language built

end Keys

theorem get?_sections_keyArtifact (printable : Char → Bool) (artifact : JsonObject)
    (theme language : String) (built : List Json) :
    (keyArtifact printable artifact theme language built).get? "sections" = some (.arr built) :=
  rfl

instance : answerEntry.Faithful := by
  unfold answerEntry
  infer_instance

instance (coercions : Coercions) : (answerSet coercions).Faithful := by
  unfold answerSet
  infer_instance

variable {coercions : Coercions}

theorem construct_eq_ok {α : Type} {codec : Codec α} [codec.Faithful] {value other : α} :
    construct codec value = .ok other ↔ value = other ∧ codec.Valid value := by
  rw [construct, ← Codec.decode_encode_iff]
  cases codec.decode (codec.encode value) with
  | error _ => simp [Except.mapError]
  | ok _ => simp [Except.mapError]

theorem deriveEntries_eq_ok {cards : List JsonObject} {entries : List AnswerEntry} :
    deriveEntries cards = .ok entries ↔
      entries = cards.filterMap cardEntry ∧ ∀ entry ∈ entries, answerEntry.Valid entry := by
  rw [deriveEntries, mapM_eq_ok_iff]
  simp only [construct_eq_ok]
  generalize cards.filterMap cardEntry = wanted
  constructor
  · intro each
    have same : wanted = entries :=
      List.forall₂_eq_eq_eq ▸ each.imp fun _ _ built => built.1
    subst same
    exact ⟨rfl, fun entry mem => ((List.forall₂_same.mp each) entry mem).2⟩
  · rintro ⟨rfl, valid⟩
    exact List.forall₂_same.mpr fun entry mem => ⟨rfl, valid entry mem⟩

theorem deriveAnswerSet_eq_ok {artifact : JsonObject} {sourceDocumentId : String}
    {sourceVersion : Int} {answers : AnswerSet} :
    deriveAnswerSet coercions artifact sourceDocumentId sourceVersion = .ok answers ↔
      ∃ sections, artifactSections artifact = .ok sections ∧
        deriveEntries (sectionCards sections) = .ok answers.entries ∧ answers.entries ≠ [] ∧
          generatedAnswers sourceDocumentId sourceVersion answers.entries = answers ∧
            (answerSet coercions).Valid answers ∧ verifyAnswerSet artifact answers = .ok () := by
  simp only [deriveAnswerSet, bind_eq_ok]
  constructor
  · rintro ⟨sections, iterated, entries, derived, rest⟩
    split at rest
    next => cases rest
    next filled =>
      rcases bind_eq_ok.mp rest with ⟨built, constructed, checked⟩
      rcases construct_eq_ok.mp constructed with ⟨rfl, valid⟩
      rcases bind_eq_ok.mp checked with ⟨⟨⟩, verified, ret⟩
      cases ret
      exact ⟨sections, iterated, derived, filled, rfl, valid, verified⟩
  · rintro ⟨sections, iterated, derived, filled, same, valid, verified⟩
    refine ⟨sections, iterated, answers.entries, derived, ?_⟩
    rw [if_neg filled]
    refine bind_eq_ok.mpr ⟨answers, construct_eq_ok.mpr ⟨same, same.symm ▸ valid⟩, ?_⟩
    exact bind_eq_ok.mpr ⟨(), verified, rfl⟩

end OhMyClass.Assessment
