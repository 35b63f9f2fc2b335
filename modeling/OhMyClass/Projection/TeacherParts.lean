import OhMyClass.Projection.RoundTrip

/-!
# The teacher parts of a deck

A slide has three: its notes, the answers of its interactions, and its
guidance for mixed abilities.  A student copy should lose all three, and stay a
deck.
-/

namespace OhMyClass.Projection

open OhMyClass.Contracts

def slideWithoutTeacherParts (slide : SlideDeckSlide) : SlideDeckSlide :=
  { studentSafeSlide slide with differentiationGuidance := [] }

/-- A deck without all that the contract keeps for the teacher. -/
def withoutTeacherParts (deck : SlideDeckData) : SlideDeckData :=
  { deck with slides := deck.slides.map slideWithoutTeacherParts }

/-- A valid deck that differs from another one in the teacher parts only, and
has none. -/
structure AnswerFreeCopy (coercions : Coercions) (deck safe : SlideDeckData) : Prop where
  teacherNotes : ∀ slide ∈ safe.slides, slide.teacherNotes = none
  teacherOnly : ∀ slide ∈ safe.slides, ∀ interaction ∈ slide.interactions,
    interaction.teacherOnly = none
  differentiationGuidance : ∀ slide ∈ safe.slides, slide.differentiationGuidance = []
  intact : withoutTeacherParts safe = withoutTeacherParts deck
  valid : (slideDeckData coercions).Valid safe

/-! ## Student decks -/

section

variable {deck : SlideDeckData}

theorem mem_slides_studentSafeSlideDeck {slide : SlideDeckSlide} :
    slide ∈ (studentSafeSlideDeck deck).slides ↔
      ∃ source ∈ deck.slides, studentSafeSlide source = slide :=
  List.mem_map

theorem slideWithoutTeacherParts_studentSafeSlide (slide : SlideDeckSlide) :
    slideWithoutTeacherParts (studentSafeSlide slide) = slideWithoutTeacherParts slide := by
  simp [slideWithoutTeacherParts, studentSafeSlide]

theorem withoutTeacherParts_studentSafeSlideDeck (deck : SlideDeckData) :
    withoutTeacherParts (studentSafeSlideDeck deck) = withoutTeacherParts deck := by
  have slides : ((deck.slides.map studentSafeSlide).map slideWithoutTeacherParts) =
      deck.slides.map slideWithoutTeacherParts := by
    rw [List.map_map]
    exact List.map_congr_left fun slide _ => slideWithoutTeacherParts_studentSafeSlide slide
  exact congrArg (fun slides => { deck with slides := slides }) slides

theorem teacherOnly_studentSafeSlide {slide : SlideDeckSlide} {interaction : SlideDeckInteraction}
    (mem : interaction ∈ (studentSafeSlide slide).interactions) :
    interaction.teacherOnly = none := by
  rcases List.mem_map.mp mem with ⟨source, _, rfl⟩
  rfl

end

/-- The student deck is an answer-free copy exactly where no slide has guidance
for mixed abilities and no interaction bears an answer. -/
theorem studentSafeSlideDeck_answerFree_iff {coercions : Coercions} {deck : SlideDeckData}
    (valid : (slideDeckData coercions).Valid deck) :
    AnswerFreeCopy coercions deck (studentSafeSlideDeck deck) ↔
      ∀ slide ∈ deck.slides, slide.differentiationGuidance = [] ∧
        ∀ interaction ∈ slide.interactions, interaction.answerBearing = false := by
  constructor
  · intro copy slide isSlide
    constructor
    · have isSafe : studentSafeSlide slide ∈ (studentSafeSlideDeck deck).slides :=
        mem_slides_studentSafeSlideDeck.mpr ⟨slide, isSlide, rfl⟩
      exact copy.differentiationGuidance (studentSafeSlide slide) isSafe
    · intro interaction mem
      have silent := (slideDeckData_valid_iff valid).mp copy.valid
      exact Bool.eq_false_iff.mpr fun bears => silent ⟨slide, isSlide, interaction, mem, bears⟩
  · intro free
    have silent : ¬ AnswerBearing deck := by
      rintro ⟨slide, isSlide, interaction, mem, bears⟩
      rw [(free slide isSlide).2 interaction mem] at bears
      cases bears
    exact
      { teacherNotes := by
          intro slide isSafe
          rcases mem_slides_studentSafeSlideDeck.mp isSafe with ⟨source, _, rfl⟩
          rfl
        teacherOnly := by
          intro slide isSafe interaction mem
          rcases mem_slides_studentSafeSlideDeck.mp isSafe with ⟨source, _, rfl⟩
          exact teacherOnly_studentSafeSlide mem
        differentiationGuidance := by
          intro slide isSafe
          rcases mem_slides_studentSafeSlideDeck.mp isSafe with ⟨source, isSource, rfl⟩
          exact (free source isSource).1
        intact := withoutTeacherParts_studentSafeSlideDeck deck
        valid := (slideDeckData_valid_iff valid).mpr silent }

/-- A slide that says how to help a group along. -/
def guidedSlide : SlideDeckSlide :=
  { quizSlide with
    interactions := []
    differentiationGuidance := [⟨"scaffold", "The sums come out at 4 and 5."⟩] }

def guidedDeck : SlideDeckData :=
  { quizDeck with slides := [guidedSlide] }

theorem decode_guidedDeck : (slideDeckData plainCoercions).decode
    ((slideDeckData plainCoercions).encode guidedDeck) = .ok guidedDeck := by
  rfl

theorem guidedDeck_keeps_guidance :
    ¬ ∀ deck, (slideDeckData plainCoercions).Valid deck →
      AnswerFreeCopy plainCoercions deck (studentSafeSlideDeck deck) := by
  intro claim
  have valid := (slideDeckData plainCoercions).valid_of_decode decode_guidedDeck
  have removed := (claim guidedDeck valid).differentiationGuidance _ List.mem_cons_self
  cases removed

/-- A deck without guidance and with a discussion prompt only. -/
def discussedDeck : SlideDeckData :=
  { quizDeck with slides := [{ quizSlide with
    interactions := [{ quizInteraction with answerBearing := false }] }] }

theorem decode_discussedDeck : (slideDeckData plainCoercions).decode
    ((slideDeckData plainCoercions).encode discussedDeck) = .ok discussedDeck := by
  rfl

theorem discussedDeck_answerFree :
    AnswerFreeCopy plainCoercions discussedDeck (studentSafeSlideDeck discussedDeck) :=
  (studentSafeSlideDeck_answerFree_iff
    ((slideDeckData plainCoercions).valid_of_decode decode_discussedDeck)).mpr (by decide)

end OhMyClass.Projection
