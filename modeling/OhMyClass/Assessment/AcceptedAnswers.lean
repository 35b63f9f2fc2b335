import OhMyClass.Assessment.AnswerSets
import OhMyClass.Projection.RoundTrip

/-!
# Answer keys that match their quiz

Where every question card has an id and an answer and no id comes twice, the
answers and the key follow the cards one by one.
-/

namespace OhMyClass.Assessment

open List OhMyClass.Contracts OhMyClass.Projection OhMyClass.Python OhMyClass.Raising

/-- The entry holds the answer of the card, as an option id where it is one. -/
def EntryMatches (card : JsonObject) (entry : AnswerEntry) : Prop :=
  ∃ questionId answer, card.get? "id" = some (.str questionId) ∧
    card.get? "answer" = some (.str answer) ∧ entry.questionId = questionId ∧
      (hasOption card answer = true →
        entry.correctOptionIds = [answer] ∧ entry.acceptedAnswers = []) ∧
      (hasOption card answer = false →
        entry.correctOptionIds = [] ∧ entry.acceptedAnswers = [answer])

/-- The section is about the card: it shows its text and its answer. -/
def SectionShows (isZero : FloatLiteral → Bool) (printable : Char → Bool) (card : JsonObject)
    (part : Json) : Prop :=
  ∃ questionId answer, card.get? "id" = some (.str questionId) ∧
    card.get? "answer" = some (.str answer) ∧
      part = .obj [("id", .str ("answer-key-" ++ questionId)),
        ("title", .str ("Question " ++ questionId)),
        ("summary", .str (cardText isZero printable card)),
        ("components", .arr [.obj [("type", .str "paragraph"), ("text", .str ("Answer: " ++ answer))]])]

/-- A card with an id and an answer. -/
def Answerable (card : JsonObject) : Prop :=
  ∃ questionId answer, usableAnswer card = some (questionId, answer)

/-- No two cards have the same id. -/
def DistinctIds (cards : List JsonObject) : Prop :=
  cards.Pairwise fun first second => first.get? "id" ≠ second.get? "id"

/-- The answers that are derived match the quiz, and there are none where a card
has no answer or an id comes twice. -/
structure MatchesQuiz (coercions : Coercions) (isZero : FloatLiteral → Bool)
    (printable : Char → Bool) (artifact : JsonObject) (sourceDocumentId : String)
    (sourceVersion : Int) : Prop where
  entries : ∀ answers,
    deriveAnswerSet coercions artifact sourceDocumentId sourceVersion = .ok answers →
      List.Forall₂ EntryMatches (artifactCards artifact) answers.entries
  verified : ∀ answers,
    deriveAnswerSet coercions artifact sourceDocumentId sourceVersion = .ok answers →
      verifyAnswerSet artifact answers = .ok ()
  sections : ∀ answers theme language,
    deriveAnswerSet coercions artifact sourceDocumentId sourceVersion = .ok answers →
      ∃ key built, deriveAnswerKeyArtifact isZero printable artifact answers theme language =
          .ok key ∧ key.get? "sections" = some (.arr built) ∧
            List.Forall₂ (SectionShows isZero printable) (artifactCards artifact) built
  rejected : ((∃ card ∈ artifactCards artifact, ¬ Answerable card) ∨
      ¬ DistinctIds (artifactCards artifact)) →
    ∀ answers, deriveAnswerSet coercions artifact sourceDocumentId sourceVersion ≠ .ok answers

/-! ## The cards of usable answers -/

theorem filledText_eq_some {value : Option Json} {text : String} :
    filledText value = some text ↔ value = some (.str text) ∧ text ≠ "" := by
  cases value with
  | none => simp [filledText]
  | some json =>
    cases json with
    | str found =>
      simp only [filledText, Option.ite_none_left_eq_some, Option.some.injEq, Json.str.injEq]
      constructor
      · rintro ⟨filled, rfl⟩
        exact ⟨rfl, filled⟩
      · rintro ⟨rfl, filled⟩
        exact ⟨filled, rfl⟩
    | _ => simp [filledText]

theorem usableAnswer_eq_some {card : JsonObject} {questionId answer : String} :
    usableAnswer card = some (questionId, answer) ↔
      (card.get? "id" = some (.str questionId) ∧ questionId ≠ "") ∧
        card.get? "answer" = some (.str answer) ∧ answer ≠ "" := by
  rw [← filledText_eq_some, ← filledText_eq_some, usableAnswer]
  cases filledText (card.get? "id") with
  | none => simp
  | some _ =>
    cases filledText (card.get? "answer") with
    | none => simp
    | some _ => simp

theorem cardEntry_matches {card : JsonObject} {entry : AnswerEntry}
    (isEntry : cardEntry card = some entry) : EntryMatches card entry := by
  rcases Option.map_eq_some_iff.mp isEntry with ⟨⟨questionId, answer⟩, usable, rfl⟩
  rcases usableAnswer_eq_some.mp usable with ⟨⟨hasId, _⟩, hasAnswer, _⟩
  refine ⟨questionId, answer, hasId, hasAnswer, rfl, fun isOption => ?_, fun notOption => ?_⟩
  · simp [entryOfCard, isOption]
  · simp [entryOfCard, notOption]

theorem forall₂_cardEntry {cards : List JsonObject}
    (answerable : ∀ card ∈ cards, Answerable card) :
    List.Forall₂ (fun card entry => cardEntry card = some entry) cards
      (cards.filterMap cardEntry) := by
  induction cards with
  | nil => exact .nil
  | cons card rest ih =>
    rcases forall_mem_cons.mp answerable with ⟨⟨questionId, answer, usable⟩, others⟩
    have isEntry : cardEntry card = some (entryOfCard card questionId answer) := by
      rw [cardEntry, usable]
      rfl
    rw [filterMap_cons_some isEntry]
    exact .cons isEntry (ih others)

theorem mapM_filterMap {ε α β γ : Type} {select : α → Option β} {build : β → Except ε γ}
    {relates : α → γ → Prop} {items : List α}
    (each : ∀ item ∈ items, ∃ selected result, select item = some selected ∧
      build selected = .ok result ∧ relates item result) :
    ∃ results, (items.filterMap select).mapM build = .ok results ∧
      List.Forall₂ relates items results := by
  induction items with
  | nil => exact ⟨[], rfl, .nil⟩
  | cons item rest ih =>
    rcases forall_mem_cons.mp each with ⟨⟨selected, result, isSelected, built, related⟩, others⟩
    rcases ih others with ⟨results, rested, all⟩
    refine ⟨result :: results, ?_, .cons related all⟩
    rw [filterMap_cons_some isSelected, mapM_cons, built, rested]
    rfl

section Lookup

variable {isZero : FloatLiteral → Bool} {printable : Char → Bool} {cards : List JsonObject}
  {card : JsonObject} {questionId answer : String}

theorem cardIdText_of_usable (usable : usableAnswer card = some (questionId, answer)) :
    cardIdText printable card = questionId := by
  rw [cardIdText, (usableAnswer_eq_some.mp usable).1.1, Option.getD_some, str]

theorem find?_cardIdText (printable : Char → Bool) (answerable : ∀ card ∈ cards, Answerable card)
    (distinct : DistinctIds cards) (mem : card ∈ cards)
    (usable : usableAnswer card = some (questionId, answer)) :
    (cards.reverse.find? fun other => cardIdText printable other == questionId) = some card := by
  cases found : cards.reverse.find? fun other => cardIdText printable other == questionId with
  | none =>
    have missed := List.find?_eq_none.mp found card (mem_reverse.mpr mem)
    rw [cardIdText_of_usable usable, beq_self_eq_true] at missed
    exact absurd rfl missed
  | some other =>
    have isCard : other ∈ cards := mem_reverse.mp (mem_of_find?_eq_some found)
    have sameText : cardIdText printable other = questionId := by
      simpa using List.find?_some found
    rcases answerable other isCard with ⟨otherId, otherAnswer, otherUsable⟩
    rw [cardIdText_of_usable otherUsable] at sameText
    have sameId : other.get? "id" = card.get? "id" := by
      rw [(usableAnswer_eq_some.mp otherUsable).1.1, (usableAnswer_eq_some.mp usable).1.1, sameText]
    have unique : Keyed.Unique (fun card : JsonObject => card.get? "id") cards := distinct
    rw [unique.eq_of_key isCard mem sameId]

theorem keySection_shows (usable : usableAnswer card = some (questionId, answer)) :
    SectionShows isZero printable card
      (keySection isZero printable (entryOfCard card questionId answer) card) := by
  rcases usableAnswer_eq_some.mp usable with ⟨⟨hasId, _⟩, hasAnswer, _⟩
  refine ⟨questionId, answer, hasId, hasAnswer, ?_⟩
  cases isOption : hasOption card answer with
  | true => simp [keySection, entryOfCard, isOption]
  | false => simp [keySection, entryOfCard, isOption]

theorem keySections_follow (answerable : ∀ card ∈ cards, Answerable card)
    (distinct : DistinctIds cards) :
    ∃ built, keySections isZero printable cards (cards.filterMap cardEntry) = .ok built ∧
      List.Forall₂ (SectionShows isZero printable) cards built := by
  refine mapM_filterMap fun card mem => ?_
  rcases answerable card mem with ⟨questionId, answer, usable⟩
  refine ⟨entryOfCard card questionId answer, keySection isZero printable _ card, ?_, ?_,
    keySection_shows usable⟩
  · rw [cardEntry, usable]
    rfl
  · have found := find?_cardIdText printable answerable distinct mem usable
    simp only [entryOfCard] at found ⊢
    rw [found]

end Lookup

section Quiz

variable {coercions : Coercions} {isZero : FloatLiteral → Bool} {printable : Char → Bool}
  {artifact : JsonObject} {sourceDocumentId : String} {sourceVersion : Int} {answers : AnswerSet}

theorem entries_of_derived
    (derived : deriveAnswerSet coercions artifact sourceDocumentId sourceVersion = .ok answers) :
    answers.entries = (artifactCards artifact).filterMap cardEntry := by
  rcases deriveAnswerSet_eq_ok.mp derived with ⟨sections, iterated, entries, _⟩
  rw [(deriveEntries_eq_ok.mp entries).1, artifactCards, iterated]

theorem verified_of_derived
    (derived : deriveAnswerSet coercions artifact sourceDocumentId sourceVersion = .ok answers) :
    verifyAnswerSet artifact answers = .ok () := by
  rcases deriveAnswerSet_eq_ok.mp derived with ⟨_, _, _, _, _, _, verified⟩
  exact verified

/-- An artifact of which answers are derived meets its answers and its key exactly
where every card has an id and an answer and the ids differ. -/
theorem matchesQuiz_iff
    (derived : deriveAnswerSet coercions artifact sourceDocumentId sourceVersion = .ok answers) :
    MatchesQuiz coercions isZero printable artifact sourceDocumentId sourceVersion ↔
      (∀ card ∈ artifactCards artifact, Answerable card) ∧ DistinctIds (artifactCards artifact) := by
  constructor
  · intro isMatch
    constructor
    · intro card mem
      by_contra unanswered
      exact isMatch.rejected (.inl ⟨card, mem, unanswered⟩) answers derived
    · by_contra repeated
      exact isMatch.rejected (.inr repeated) answers derived
  · rintro ⟨answerable, distinct⟩
    exact
      { entries := by
          intro other otherDerived
          rw [entries_of_derived otherDerived]
          exact (forall₂_cardEntry answerable).imp fun _ _ => cardEntry_matches
        verified := fun other => verified_of_derived
        sections := by
          intro other theme language otherDerived
          rcases deriveAnswerSet_eq_ok.mp otherDerived with ⟨sections, iterated, _⟩
          have cards : artifactCards artifact = sectionCards sections := by
            rw [artifactCards, iterated]
          rcases keySections_follow answerable distinct with ⟨built, keyed, shown⟩
          rw [← entries_of_derived otherDerived, cards] at keyed
          refine ⟨keyArtifact printable artifact theme language built, built, ?_,
            get?_sections_keyArtifact .., shown⟩
          exact bind_eq_ok.mpr ⟨sections, iterated, bind_eq_ok.mpr ⟨built, keyed, rfl⟩⟩
        rejected := by
          rintro (⟨card, mem, unanswered⟩ | repeated)
          · exact absurd (answerable card mem) unanswered
          · exact absurd distinct repeated }

end Quiz

def sampleCard (questionId text answer : String) : JsonObject :=
  [("type", .str "question_card"), ("id", .str questionId), ("text", .str text),
    ("options", .obj [("A", .str "four"), ("B", .str "five")]), ("answer", .str answer)]

theorem get?_id_sampleCard (questionId text answer : String) :
    (sampleCard questionId text answer).get? "id" = some (.str questionId) :=
  rfl

def sampleQuiz (cards : List JsonObject) : JsonObject :=
  [("artifact_type", .str "quiz"), ("title", .str "Sums"),
    ("sections", .arr [.obj [("id", .str "part-1"), ("components", .arr (cards.map .obj))]])]

def differentCards : List JsonObject :=
  [sampleCard "q1" "2 + 2?" "A", sampleCard "q2" "2 + 3?" "five"]

def repeatedCards : List JsonObject :=
  [sampleCard "q1" "2 + 2?" "A", sampleCard "q1" "2 + 3?" "B"]

/-- Two cards with one id have a key, in which both show the text of the second. -/
theorem repeatedCards_not_matched :
    ¬ MatchesQuiz plainCoercions (fun _ => false) (fun _ => false) (sampleQuiz repeatedCards)
      "run:quiz-1" 1 := by
  have derived : ∃ answers, deriveAnswerSet plainCoercions (sampleQuiz repeatedCards)
      "run:quiz-1" 1 = .ok answers := ⟨_, rfl⟩
  rcases derived with ⟨answers, derived⟩
  intro isMatch
  refine isMatch.rejected (.inr fun distinct => ?_) answers derived
  exact (pairwise_cons.mp distinct).1 _ mem_cons_self rfl

theorem differentCards_matched :
    MatchesQuiz plainCoercions (fun _ => false) (fun _ => false) (sampleQuiz differentCards)
      "run:quiz-1" 1 := by
  have derived : ∃ answers, deriveAnswerSet plainCoercions (sampleQuiz differentCards)
      "run:quiz-1" 1 = .ok answers := ⟨_, rfl⟩
  have cards : artifactCards (sampleQuiz differentCards) = differentCards := rfl
  rcases derived with ⟨answers, derived⟩
  refine (matchesQuiz_iff derived).mpr ?_
  rw [cards]
  constructor
  · simp only [differentCards, forall_mem_cons]
    exact ⟨⟨"q1", "A", rfl⟩, ⟨"q2", "five", rfl⟩, forall_mem_nil _⟩
  · simp [DistinctIds, differentCards, get?_id_sampleCard]

/-! ## Answers that are accepted -/

open OhMyClass.Keyed
open OhMyClass.TeachingPack (strip)

/-- The id and the explanation of a card keep the bounds of an answer entry. -/
structure EntryFits (card : JsonObject) (questionId : String) : Prop where
  questionId : questionId.length ≤ 73
  explain : ∀ text, card.get? "explain" = some (.str text) → 1 ≤ text.length ∧ text.length ≤ 2000

/-- An option id is among the options of the last card with the id; any other
answer is not blank. -/
structure AnswerHolds (cards : List JsonObject) (card : JsonObject) (questionId answer : String) :
    Prop where
  option : hasOption card answer = true → ∀ question,
    cardWithId cards questionId = some question → hasOption question answer = true
  filled : hasOption card answer = false → strip answer.toList ≠ []

def IsLastAnswer (cards : List JsonObject) (card : JsonObject) (questionId answer : String) : Prop :=
  usableAnswer card = some (questionId, answer) ∧ ∃ earlier later,
    cards = earlier ++ card :: later ∧
      ∀ other ∈ later, ∀ otherAnswer, usableAnswer other ≠ some (questionId, otherAnswer)

structure AnswersAccepted (cards : List JsonObject) (documentId : String) : Prop where
  answered : ∃ card ∈ cards, Answerable card
  fits : ∀ card ∈ cards, ∀ questionId answer,
    usableAnswer card = some (questionId, answer) → EntryFits card questionId
  holds : ∀ card questionId answer, IsLastAnswer cards card questionId answer →
    AnswerHolds cards card questionId answer
  documentId : 1 ≤ documentId.length ∧ documentId.length ≤ 69

variable {cards : List JsonObject} {card : JsonObject} {questionId answer : String}
  {entry : AnswerEntry}

theorem cardEntry_eq_some : cardEntry card = some entry ↔
    ∃ questionId answer, usableAnswer card = some (questionId, answer) ∧
      entry = entryOfCard card questionId answer := by
  rw [cardEntry, Option.map_eq_some_iff]
  constructor
  · rintro ⟨⟨questionId, answer⟩, usable, rfl⟩
    exact ⟨questionId, answer, usable, rfl⟩
  · rintro ⟨questionId, answer, usable, rfl⟩
    exact ⟨(questionId, answer), usable, rfl⟩

theorem entryOfCard_valid_iff (usable : usableAnswer card = some (questionId, answer)) :
    answerEntry.Valid (entryOfCard card questionId answer) ↔ EntryFits card questionId := by
  have entityLength : ("answer-" ++ questionId).length = 7 + questionId.length :=
    String.length_append _ _
  have filled : questionId ≠ "" := (usableAnswer_eq_some.mp usable).1.2
  have nonempty : 1 ≤ questionId.length :=
    Nat.one_le_iff_ne_zero.mpr fun isZero => filled (String.length_eq_zero_iff.mp isZero)
  constructor
  · rintro ⟨entityId, _, _, _, rationale⟩
    have bounds := (boundedText_valid_iff.mp entityId).2
    change ("answer-" ++ questionId).length ≤ 80 at bounds
    refine ⟨by omega, fun text isText => boundedText_valid_iff.mp (rationale text ?_)⟩
    simp [entryOfCard, isText]
  · rintro ⟨bounded, explained⟩
    have unbounded (texts : List String) : (Codec.listOf 0 (.text 0 none)).Valid texts :=
      ⟨Nat.zero_le _, fun _ _ => Codec.text_valid_of_unbounded⟩
    refine ⟨boundedText_valid_iff.mpr ?_, boundedText_valid_iff.mpr ?_, unbounded _, unbounded _, ?_⟩
    · change 1 ≤ ("answer-" ++ questionId).length ∧ ("answer-" ++ questionId).length ≤ 80
      omega
    · change 1 ≤ questionId.length ∧ questionId.length ≤ 80
      omega
    · intro text isText
      have explanation : card.get? "explain" = some (.str text) := by
        simp only [entryOfCard] at isText
        split at isText
        · next found =>
          cases isText
          exact found
        · cases isText
      exact boundedText_valid_iff.mpr (explained text explanation)

theorem isLast_entries :
    IsLast AnswerEntry.questionId (cards.filterMap cardEntry) entry ↔
      ∃ card questionId answer, IsLastAnswer cards card questionId answer ∧
        entry = entryOfCard card questionId answer := by
  constructor
  · rintro ⟨earlier, later, split, last⟩
    rcases filterMap_eq_append_iff.mp split with ⟨first, second, rfl, _, rest⟩
    rcases filterMap_eq_cons_iff.mp rest with ⟨skipped, card, others, rfl, _, isEntry, isLater⟩
    rcases cardEntry_eq_some.mp isEntry with ⟨questionId, answer, usable, rfl⟩
    refine ⟨card, questionId, answer, ⟨usable, first ++ skipped, others, ?_, ?_⟩, rfl⟩
    · rw [append_assoc]
    · intro other mem otherAnswer otherUsable
      have isOther : entryOfCard other questionId otherAnswer ∈ later :=
        isLater ▸ mem_filterMap.mpr
          ⟨other, mem, cardEntry_eq_some.mpr ⟨questionId, otherAnswer, otherUsable, rfl⟩⟩
      exact last _ isOther rfl
  · rintro ⟨card, questionId, answer, ⟨usable, earlier, later, rfl, last⟩, rfl⟩
    refine ⟨earlier.filterMap cardEntry, later.filterMap cardEntry, ?_, ?_⟩
    · rw [filterMap_append,
        filterMap_cons_some (cardEntry_eq_some.mpr ⟨questionId, answer, usable, rfl⟩)]
    · intro other mem same
      rcases mem_filterMap.mp mem with ⟨source, isSource, isEntry⟩
      rcases cardEntry_eq_some.mp isEntry with ⟨otherId, otherAnswer, otherUsable, rfl⟩
      subst same
      exact last source isSource otherAnswer otherUsable

theorem forM_eq_ok {ε α : Type} {items : List α} {check : α → Except ε Unit} :
    items.forM check = .ok () ↔ ∀ item ∈ items, check item = .ok () := by
  induction items with
  | nil => simp [pure, Except.pure]
  | cons item rest ih =>
    change (check item >>= fun _ => rest.forM check) = _ ↔ _
    rw [bind_eq_ok, forall_mem_cons]
    constructor
    · rintro ⟨_, checked, others⟩
      exact ⟨checked, ih.mp others⟩
    · rintro ⟨checked, others⟩
      exact ⟨(), checked, ih.mpr others⟩

theorem verifyEntry_entryOfCard (mem : card ∈ cards)
    (usable : usableAnswer card = some (questionId, answer)) :
    verifyEntry cards (entryOfCard card questionId answer) = .ok () ↔
      AnswerHolds cards card questionId answer := by
  have known : hasId questionId card = true := by
    rw [hasId, (usableAnswer_eq_some.mp usable).1.1]
    exact decide_eq_true rfl
  cases found : cardWithId cards questionId with
  | none =>
    have missed := List.find?_eq_none.mp found card (mem_reverse.mpr mem)
    exact absurd known missed
  | some question =>
    have isFound : cardWithId cards (entryOfCard card questionId answer).questionId = some question :=
      found
    unfold verifyEntry
    rw [isFound]
    cases isOption : hasOption card answer with
    | true =>
      cases holds : hasOption question answer with
      | true =>
        refine iff_of_true (by simp [entryOfCard, isOption, holds]) ⟨?_, ?_⟩
        · intro _ other isOther
          rw [found] at isOther
          cases isOther
          exact holds
        · rw [isOption]
          nofun
      | false =>
        refine iff_of_false (by simp [entryOfCard, isOption, holds]) fun accepted => ?_
        rw [accepted.option isOption question found] at holds
        cases holds
    | false =>
      by_cases blank : strip answer.toList = []
      · exact iff_of_false (by simp [entryOfCard, isOption, blank]) fun accepted =>
          accepted.filled isOption blank
      · refine iff_of_true (by simp [entryOfCard, isOption, blank]) ⟨?_, fun _ => blank⟩
        rw [isOption]
        nofun

variable {artifact : JsonObject} {sections : List Json}

theorem verifyAnswerSet_eq_ok (iterated : artifactSections artifact = .ok sections)
    {answers : AnswerSet} :
    verifyAnswerSet artifact answers = .ok () ↔
      ∀ entry, IsLast AnswerEntry.questionId answers.entries entry →
        verifyEntry (sectionCards sections) entry = .ok () := by
  unfold verifyAnswerSet
  simp only [iterated]
  change List.forM _ _ = _ ↔ _
  rw [forM_eq_ok]
  simp [mem_foldl_put]

/-! ## Derivation -/

variable {coercions : Coercions} {documentId : String}

theorem generatedAnswers_valid_iff {entries : List AnswerEntry} :
    (answerSet coercions).Valid (generatedAnswers documentId 1 entries) ↔
      (1 ≤ documentId.length ∧ documentId.length ≤ 69) ∧ entries ≠ [] ∧
        ∀ entry ∈ entries, answerEntry.Valid entry := by
  have idLength : ("answers-" ++ documentId ++ "-v" ++ toString (1 : Int)).length =
      documentId.length + 11 := by
    rw [String.length_append, String.length_append, String.length_append]
    have version : (toString (1 : Int)).length = 1 := rfl
    have before : "answers-".length = 8 := rfl
    have between : "-v".length = 2 := rfl
    omega
  constructor
  · rintro ⟨answerSetId, sourceDocumentId, _, _, some, each⟩
    have idBounds := (boundedText_valid_iff.mp answerSetId).2
    change ("answers-" ++ documentId ++ "-v" ++ toString (1 : Int)).length ≤ 80 at idBounds
    refine ⟨⟨(boundedText_valid_iff.mp sourceDocumentId).1, by omega⟩, ?_, each⟩
    exact ne_nil_of_length_pos some
  · rintro ⟨⟨nonempty, bounded⟩, some, each⟩
    refine ⟨boundedText_valid_iff.mpr ?_, boundedText_valid_iff.mpr ⟨nonempty, ?_⟩, ?_,
      trivial, length_pos_of_ne_nil some, each⟩
    · change 1 ≤ ("answers-" ++ documentId ++ "-v" ++ toString (1 : Int)).length ∧
        ("answers-" ++ documentId ++ "-v" ++ toString (1 : Int)).length ≤ 80
      omega
    · exact Nat.le_trans bounded (by decide)
    · rintro _ ⟨⟩
      exact le_rfl

theorem exists_deriveAnswerSet_iff (iterated : artifactSections artifact = .ok sections) :
    (∃ answers, deriveAnswerSet coercions artifact documentId 1 = .ok answers) ↔
      AnswersAccepted (sectionCards sections) documentId := by
  have entry_mem {card : JsonObject} {questionId answer : String}
      (mem : card ∈ sectionCards sections)
      (usable : usableAnswer card = some (questionId, answer)) :
      entryOfCard card questionId answer ∈ (sectionCards sections).filterMap cardEntry :=
    mem_filterMap.mpr ⟨card, mem, cardEntry_eq_some.mpr ⟨questionId, answer, usable, rfl⟩⟩
  constructor
  · rintro ⟨answers, derived⟩
    rcases deriveAnswerSet_eq_ok.mp derived with
      ⟨others, alsoIterated, entries, filled, same, valid, verified⟩
    rw [iterated] at alsoIterated
    cases alsoIterated
    rcases deriveEntries_eq_ok.mp entries with ⟨areEntries, each⟩
    rw [← same] at valid
    have bounds := (generatedAnswers_valid_iff.mp valid).1
    rw [verifyAnswerSet_eq_ok iterated, areEntries] at verified
    rw [areEntries] at each filled
    refine ⟨?_, ?_, ?_, bounds⟩
    · rcases exists_mem_of_ne_nil _ filled with ⟨entry, isEntry⟩
      rcases mem_filterMap.mp isEntry with ⟨card, mem, made⟩
      rcases cardEntry_eq_some.mp made with ⟨questionId, answer, usable, _⟩
      exact ⟨card, mem, questionId, answer, usable⟩
    · intro card mem questionId answer usable
      exact (entryOfCard_valid_iff usable).mp (each _ (entry_mem mem usable))
    · intro card questionId answer isLast
      rcases isLast with ⟨usable, earlier, later, split, last⟩
      have mem : card ∈ sectionCards sections := split ▸ mem_append_right _ mem_cons_self
      refine (verifyEntry_entryOfCard mem usable).mp (verified _ (isLast_entries.mpr ?_))
      exact ⟨card, questionId, answer, ⟨usable, earlier, later, split, last⟩, rfl⟩
  · rintro ⟨⟨card, mem, questionId, answer, usable⟩, fits, holds, bounds⟩
    have each : ∀ entry ∈ (sectionCards sections).filterMap cardEntry, answerEntry.Valid entry := by
      intro entry isEntry
      rcases mem_filterMap.mp isEntry with ⟨source, isSource, made⟩
      rcases cardEntry_eq_some.mp made with ⟨otherId, otherAnswer, otherUsable, rfl⟩
      exact (entryOfCard_valid_iff otherUsable).mpr (fits source isSource otherId otherAnswer otherUsable)
    have filled := ne_nil_of_mem (entry_mem mem usable)
    refine ⟨generatedAnswers documentId 1 ((sectionCards sections).filterMap cardEntry),
      deriveAnswerSet_eq_ok.mpr ⟨sections, iterated, deriveEntries_eq_ok.mpr ⟨rfl, each⟩, filled, rfl,
        generatedAnswers_valid_iff.mpr ⟨bounds, filled, each⟩, ?_⟩⟩
    rw [verifyAnswerSet_eq_ok iterated]
    intro entry isLast
    rcases isLast_entries.mp isLast with ⟨source, otherId, otherAnswer, isLastAnswer, rfl⟩
    rcases isLastAnswer with ⟨otherUsable, earlier, later, split, last⟩
    have isSource : source ∈ sectionCards sections := split ▸ mem_append_right _ mem_cons_self
    exact (verifyEntry_entryOfCard isSource otherUsable).mpr
      (holds source otherId otherAnswer ⟨otherUsable, earlier, later, split, last⟩)

end OhMyClass.Assessment
