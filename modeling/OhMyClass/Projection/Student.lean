import OhMyClass.Projection.Mapper

/-!
# Student projections

What is left of decks and values without the teacher parts.
-/

namespace OhMyClass.Projection

open List

/-!
## Student values

What `_student_value` leaves: a value without forbidden keys, and a value that
had none is left alone.
-/

section

open OhMyClass.Contracts

theorem studentItems_eq_map (items : List Json) : studentItems items = items.map studentValue := by
  induction items with
  | nil => rfl
  | cons item rest ih => rw [studentItems, ih, map_cons]

theorem mem_studentMembers {members : List (String × Json)} {member : String × Json} :
    member ∈ studentMembers members ↔
      member.1 ∉ forbiddenKeys ∧ ∃ value, (member.1, value) ∈ members ∧
        studentValue value = member.2 := by
  induction members with
  | nil => simp [studentMembers]
  | cons head rest ih =>
    rcases head with ⟨key, value⟩
    rcases member with ⟨name, content⟩
    simp only [studentMembers, mem_cons, Prod.mk.injEq] at ih ⊢
    split
    · next forbidden =>
      rw [ih]
      constructor
      · rintro ⟨allowed, found, stored, same⟩
        exact ⟨allowed, found, .inr stored, same⟩
      · rintro ⟨allowed, found, ⟨rfl, rfl⟩ | stored, same⟩
        · exact absurd forbidden allowed
        · exact ⟨allowed, found, stored, same⟩
    · next allowed =>
      simp only [mem_cons, Prod.mk.injEq, ih]
      constructor
      · rintro (⟨rfl, rfl⟩ | ⟨isAllowed, found, stored, same⟩)
        · exact ⟨allowed, value, .inl ⟨rfl, rfl⟩, rfl⟩
        · exact ⟨isAllowed, found, .inr stored, same⟩
      · rintro ⟨isAllowed, found, ⟨rfl, rfl⟩ | stored, same⟩
        · exact .inl ⟨rfl, same.symm⟩
        · exact .inr ⟨isAllowed, found, stored, same⟩

/-- Members are left alone if no key is forbidden and every value is left alone. -/
theorem studentMembers_eq_self {members : List (String × Json)}
    (clean : ∀ member ∈ members, member.1 ∉ forbiddenKeys ∧ studentValue member.2 = member.2) :
    studentMembers members = members := by
  induction members with
  | nil => rfl
  | cons member rest ih =>
    rw [forall_mem_cons] at clean
    rw [studentMembers, if_neg clean.1.1, clean.1.2, ih clean.2]

mutual

theorem studentValue_idempotent : ∀ value, studentValue (studentValue value) = studentValue value
  | .arr items => congrArg Json.arr (studentItems_idempotent items)
  | .obj members => congrArg Json.obj (studentMembers_idempotent members)
  | .null | .bool _ | .int _ | .float _ | .str _ => rfl

theorem studentItems_idempotent : ∀ items,
    studentItems (studentItems items) = studentItems items
  | [] => rfl
  | item :: rest => by
    rw [studentItems, studentItems, studentValue_idempotent item, studentItems_idempotent rest]

theorem studentMembers_idempotent : ∀ members,
    studentMembers (studentMembers members) = studentMembers members
  | [] => rfl
  | member :: rest => by
    rw [studentMembers]
    split
    · exact studentMembers_idempotent rest
    · next allowed =>
      rw [studentMembers, if_neg allowed, studentValue_idempotent member.2,
        studentMembers_idempotent rest]

end

theorem forbiddenKeys_subset : ∀ key ∈ forbiddenKeys, key ∈ teacherOnlyKeys := by
  decide

mutual

theorem studentValue_of_not_teacherOnly : ∀ value, hasTeacherOnlyValue value = false →
    studentValue value = value
  | .arr items, clean => congrArg Json.arr (studentItems_of_not_teacherOnly items clean)
  | .obj members, clean => congrArg Json.obj (studentMembers_of_not_teacherOnly members clean)
  | .null, _ | .bool _, _ | .int _, _ | .float _, _ | .str _, _ => rfl

theorem studentItems_of_not_teacherOnly : ∀ items, hasTeacherOnlyItem items = false →
    studentItems items = items
  | [], _ => rfl
  | item :: rest, clean => by
    rw [hasTeacherOnlyItem, Bool.or_eq_false_iff] at clean
    rw [studentItems, studentValue_of_not_teacherOnly item clean.1,
      studentItems_of_not_teacherOnly rest clean.2]

theorem studentMembers_of_not_teacherOnly : ∀ members, hasTeacherOnlyMember members = false →
    studentMembers members = members
  | [], _ => rfl
  | member :: rest, clean => by
    rw [hasTeacherOnlyMember, Bool.or_eq_false_iff, Bool.or_eq_false_iff] at clean
    have allowed : member.1 ∉ forbiddenKeys := fun forbidden =>
      of_decide_eq_false clean.1.1 (forbiddenKeys_subset _ forbidden)
    rw [studentMembers, if_neg allowed, studentValue_of_not_teacherOnly member.2 clean.1.2,
      studentMembers_of_not_teacherOnly rest clean.2]

end

theorem hasTeacherOnlyMember_eq_false_iff {members : List (String × Json)} :
    hasTeacherOnlyMember members = false ↔
      ∀ member ∈ members, member.1 ∉ teacherOnlyKeys ∧ hasTeacherOnlyValue member.2 = false := by
  induction members with
  | nil => simp [hasTeacherOnlyMember]
  | cons member rest ih =>
    rw [hasTeacherOnlyMember, Bool.or_eq_false_iff, Bool.or_eq_false_iff, ih,
      forall_mem_cons, decide_eq_false_iff_not]

theorem hasTeacherOnlyItem_eq_false_iff {items : List Json} :
    hasTeacherOnlyItem items = false ↔ ∀ item ∈ items, hasTeacherOnlyValue item = false := by
  induction items with
  | nil => simp [hasTeacherOnlyItem]
  | cons item rest ih =>
    rw [hasTeacherOnlyItem, Bool.or_eq_false_iff, ih, forall_mem_cons]

/-! ## Distinct keys -/

theorem get?_studentMembers (members : JsonObject) {key : String} (allowed : key ∉ forbiddenKeys) :
    JsonObject.get? (studentMembers members) key = (members.get? key).map studentValue := by
  unfold JsonObject.get?
  induction members with
  | nil => rfl
  | cons member rest ih =>
    rw [studentMembers]
    split
    · next isForbidden =>
      have different : (key == member.1) = false := by
        rw [beq_eq_false_iff_ne]
        rintro rfl
        exact allowed isForbidden
      rw [lookup_cons, different]
      exact ih
    · rw [lookup_cons, lookup_cons]
      cases key == member.1 with
      | true => rfl
      | false => exact ih

theorem map_fst_studentMembers_sublist (members : List (String × Json)) :
    ((studentMembers members).map Prod.fst).Sublist (members.map Prod.fst) := by
  induction members with
  | nil => exact .slnil
  | cons member rest ih =>
    rw [studentMembers]
    split
    · exact ih.cons member.1
    · exact ih.cons_cons member.1

mutual

theorem keysDistinct_studentValue : ∀ value : Json, value.KeysDistinct →
    (studentValue value).KeysDistinct
  | .arr items, distinct => keysDistinct_studentItems items distinct
  | .obj members, distinct =>
    ⟨distinct.1.sublist (map_fst_studentMembers_sublist members),
      keysDistinct_studentMembers members distinct.2⟩
  | .null, _ | .bool _, _ | .int _, _ | .float _, _ | .str _, _ => trivial

theorem keysDistinct_studentItems : ∀ items : List Json, Json.itemsKeysDistinct items →
    Json.itemsKeysDistinct (studentItems items)
  | [], _ => trivial
  | item :: rest, distinct =>
    ⟨keysDistinct_studentValue item distinct.1, keysDistinct_studentItems rest distinct.2⟩

theorem keysDistinct_studentMembers : ∀ members : List (String × Json),
    Json.membersKeysDistinct members → Json.membersKeysDistinct (studentMembers members)
  | [], _ => trivial
  | member :: rest, distinct => by
    rw [studentMembers]
    split
    · exact keysDistinct_studentMembers rest distinct.2
    · exact ⟨keysDistinct_studentValue member.2 distinct.1,
        keysDistinct_studentMembers rest distinct.2⟩

end

end

/-!
## Student-safe slide decks

When a deck without its teacher objects passes its own validators.
-/

section

open OhMyClass.Contracts

variable {coercions : Coercions}

/-- A slide without its teacher objects. -/
def studentSafeSlide (slide : SlideDeckSlide) : SlideDeckSlide :=
  { slide with
    teacherNotes := none
    interactions := slide.interactions.map fun interaction =>
      { interaction with teacherOnly := none } }

/-- Some interaction of the deck has an answer to keep apart. -/
def AnswerBearing (deck : SlideDeckData) : Prop :=
  ∃ slide ∈ deck.slides, ∃ interaction ∈ slide.interactions, interaction.answerBearing = true
  deriving Decidable

theorem studentSafeSlideDeck_idempotent (deck : SlideDeckData) :
    studentSafeSlideDeck (studentSafeSlideDeck deck) = studentSafeSlideDeck deck := by
  simp [studentSafeSlideDeck]

/-- An interaction loses its teacher object without harm only if it bears no
answer. -/
theorem interaction_valid_iff {interaction : SlideDeckInteraction}
    (valid : (slideDeckInteraction coercions).Valid interaction) :
    (slideDeckInteraction coercions).Valid { interaction with teacherOnly := none } ↔
      interaction.answerBearing = false := by
  rcases valid with ⟨⟨interactionId, interactionType, prompt, answerBearing, options, _,
    noJsFallback, accessibilityLabel⟩, _⟩
  constructor
  · rintro ⟨_, checked⟩
    cases bears : interaction.answerBearing with
    | false => rfl
    | true => simp [SlideDeckInteraction.check, bears] at checked
  · intro silent
    refine ⟨⟨interactionId, interactionType, prompt, answerBearing, options, nofun, noJsFallback,
      accessibilityLabel⟩, ?_⟩
    simp [SlideDeckInteraction.check, silent]

theorem slide_valid_iff {slide : SlideDeckSlide} (valid : (slideDeckSlide coercions).Valid slide) :
    (slideDeckSlide coercions).Valid (studentSafeSlide slide) ↔
      ∀ interaction ∈ slide.interactions, interaction.answerBearing = false := by
  rcases valid with ⟨⟨slideId, title, layout, progression, blocks, interactions, _, role, duration,
    relatedRefs, guidance⟩, checked⟩
  constructor
  · rintro ⟨⟨_, _, _, _, _, safe, _⟩, _⟩ interaction mem
    exact (interaction_valid_iff (interactions.2 interaction mem)).mp
      (safe.2 _ (mem_map_of_mem mem))
  · intro silent
    refine ⟨⟨slideId, title, layout, progression, blocks, ⟨Nat.zero_le _, ?_⟩, nofun, role,
      duration, relatedRefs, guidance⟩, checked⟩
    intro safe isSafe
    rcases mem_map.mp isSafe with ⟨interaction, mem, rfl⟩
    exact (interaction_valid_iff (interactions.2 interaction mem)).mpr
      (silent interaction mem)

theorem check_studentSafeSlideDeck (deck : SlideDeckData) :
    (studentSafeSlideDeck deck).check = deck.check := by
  simp only [SlideDeckData.check, SlideDeckData.media, studentSafeSlideDeck, map_map,
    flatMap_map, Function.comp_def]

theorem slideDeckData_valid_iff {deck : SlideDeckData}
    (valid : (slideDeckData coercions).Valid deck) :
    (slideDeckData coercions).Valid (studentSafeSlideDeck deck) ↔ ¬ AnswerBearing deck := by
  rcases valid with ⟨⟨deckId, title, locale, theme, surfaces, sourceRefs, slides, accessibility,
    mediaPolicy, preferences, lineage⟩, checked⟩
  constructor
  · rintro ⟨⟨_, _, _, _, _, _, safe, _⟩, _⟩ ⟨slide, isSlide, interaction, mem, bears⟩
    have silent := (slide_valid_iff (slides.2 slide isSlide)).mp
      (safe.2 _ (mem_map_of_mem isSlide)) interaction mem
    exact Bool.false_ne_true (silent.symm.trans bears)
  · intro silent
    refine ⟨⟨deckId, title, locale, theme, surfaces, sourceRefs, ⟨?_, ?_⟩, accessibility,
      mediaPolicy, preferences, lineage⟩, ?_⟩
    · change 1 ≤ (deck.slides.map studentSafeSlide).length
      rw [length_map]
      exact slides.1
    · intro safe isSafe
      rcases mem_map.mp isSafe with ⟨slide, isSlide, rfl⟩
      apply (slide_valid_iff (slides.2 slide isSlide)).mpr
      intro interaction mem
      exact Bool.eq_false_iff.mpr fun bears =>
        silent ⟨slide, isSlide, interaction, mem, bears⟩
    · rw [check_studentSafeSlideDeck]
      exact checked

/-- A student deck is read back, as itself, if and only if the deck bears no
answers. -/
theorem decode_studentSafeSlideDeck {deck result : SlideDeckData}
    (valid : (slideDeckData coercions).Valid deck) :
    (slideDeckData coercions).decode ((slideDeckData coercions).encode
        (studentSafeSlideDeck deck)) = .ok result ↔
      ¬ AnswerBearing deck ∧ studentSafeSlideDeck deck = result := by
  rw [Codec.decode_encode_iff, slideDeckData_valid_iff valid, and_comm]

end

end OhMyClass.Projection
