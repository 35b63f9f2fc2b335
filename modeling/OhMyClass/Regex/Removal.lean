import OhMyClass.Regex.Core

/-!
# Deleting the matches of a pattern

The deletion on characters that carry more than themselves, the places it cuts
at, and its run as a relation: what stays of a text is interleaved with the
words that are cut out.
-/

namespace OhMyClass.Regex

variable {α : Type*}

/-- `removeFrom`, on characters that carry more. -/
def removeFromBy (char : α → Char) (pattern : Regex) : Nat → List α → List α
  | _, [] => []
  | covered + 1, _ :: text => removeFromBy char pattern covered text
  | 0, c :: text =>
    match pattern.rests ((c :: text).map char) with
    | [] => c :: removeFromBy char pattern 0 text
    | rest :: _ =>
      if rest.length ≤ text.length then
        removeFromBy char pattern (text.length - rest.length) text
      else c :: removeFromBy char pattern 0 text

def removeAllBy (char : α → Char) (pattern : Regex) (text : List α) : List α :=
  removeFromBy char pattern 0 text

/-- The places where `removeFrom` cuts: what it kept before, and what follows
the word it cuts out. -/
def cutsFrom (pattern : Regex) : List Char → Nat → List Char → List (List Char × List Char)
  | _, _, [] => []
  | kept, covered + 1, _ :: text => cutsFrom pattern kept covered text
  | kept, 0, c :: text =>
    match pattern.rests (c :: text) with
    | [] => cutsFrom pattern (kept ++ [c]) 0 text
    | rest :: _ =>
      if rest.length ≤ text.length then
        (kept, rest) :: cutsFrom pattern kept (text.length - rest.length) text
      else cutsFrom pattern (kept ++ [c]) 0 text

def cuts (pattern : Regex) (text : List Char) : List (List Char × List Char) :=
  cutsFrom pattern [] 0 text

/-- A word of the pattern begins before a place and ends after it. -/
def Joins (pattern : Regex) (before after : List Char) : Prop :=
  ∃ outer begun ended rest, before = outer ++ begun ∧ after = ended ++ rest ∧
    begun ≠ [] ∧ ended ≠ [] ∧ pattern.Matches (begun ++ ended)

theorem not_joins_nil {pattern : Regex} {after : List Char} : ¬ pattern.Joins [] after := by
  rintro ⟨outer, begun, _, _, nothing, _, begunNotNil, _⟩
  exact begunNotNil (List.append_eq_nil_iff.mp nothing.symm).2

/-- What begins with a word of one pattern and ends with a word of another. -/
def enclosed (opening closing : Regex) : Regex :=
  .seq opening (.seq (.many false fun _ => true) closing)

theorem enclosed_matches {opening closing : Regex} {read : List Char} :
    (enclosed opening closing).Matches read ↔
    ∃ begun middle ended, read = begun ++ (middle ++ ended) ∧ opening.Matches begun ∧
      closing.Matches ended := by
  constructor
  · rintro ⟨begun, _, rfl, isOpening, middle, ended, rfl, _, isClosing⟩
    exact ⟨begun, middle, ended, rfl, isOpening, isClosing⟩
  · rintro ⟨begun, middle, ended, rfl, isOpening, isClosing⟩
    exact ⟨begun, middle ++ ended, rfl, isOpening, middle, ended, rfl, fun _ _ => rfl,
      isClosing⟩

/-- The pattern's words are cut out of a text, after what is kept already, at
places that are allowed. -/
inductive Strips (char : α → Char) (pattern : Regex)
    (Allowed : List Char → List Char → Prop) : List α → List α → List α → Prop
  | done {kept : List α} : Strips char pattern Allowed kept [] []
  | keep {kept text result : List α} {c : α} :
      pattern.rests ((c :: text).map char) = [] →
      Strips char pattern Allowed (kept ++ [c]) text result →
      Strips char pattern Allowed kept (c :: text) (c :: result)
  | cut {kept removed text result : List α} :
      pattern.Matches (removed.map char) → Allowed (kept.map char) (text.map char) →
      Strips char pattern Allowed kept text result →
      Strips char pattern Allowed kept (removed ++ text) result

section

variable {char : α → Char} {pattern word : Regex} {Allowed : List Char → List Char → Prop}
  {kept text result first second : List α}

theorem map_removeFromBy (covered : Nat) :
    (removeFromBy char pattern covered text).map char =
      pattern.removeFrom covered (text.map char) := by
  induction text generalizing covered with
  | nil => cases covered <;> rfl
  | cons c text ih =>
    cases covered with
    | succ covered => exact ih covered
    | zero =>
      rw [removeFromBy, List.map_cons, removeFrom]
      cases pattern.rests (char c :: text.map char) with
      | nil => exact congrArg (List.cons (char c)) (ih 0)
      | cons rest others =>
        dsimp only
        rw [List.length_map]
        split
        · exact ih _
        · exact congrArg (List.cons (char c)) (ih 0)

theorem map_removeAllBy :
    (pattern.removeAllBy char text).map char = pattern.removeAll (text.map char) :=
  map_removeFromBy 0

theorem removeFromBy_eq_drop (covered : Nat) :
    removeFromBy char pattern covered text = removeFromBy char pattern 0 (text.drop covered) := by
  induction text generalizing covered with
  | nil => rw [List.drop_nil, removeFromBy, removeFromBy]
  | cons c text ih =>
    cases covered with
    | zero => rfl
    | succ covered => exact ih covered

theorem cutsFrom_eq_drop (kept text : List Char) (covered : Nat) :
    cutsFrom pattern kept covered text = cutsFrom pattern kept 0 (text.drop covered) := by
  induction text generalizing covered with
  | nil => rw [List.drop_nil, cutsFrom, cutsFrom]
  | cons c text ih =>
    cases covered with
    | zero => rfl
    | succ covered => exact ih covered

theorem cut_of_rests {c : α} {rest : List Char} {others : List (List Char)} (before : List Char)
    (nonempty : ¬ pattern.Matches [])
    (left : pattern.rests ((c :: text).map char) = rest :: others) :
    ∃ removed after, c :: text = removed ++ after ∧ after.length ≤ text.length ∧
      pattern.Matches (removed.map char) ∧
      removeFromBy char pattern 0 (c :: text) = removeFromBy char pattern 0 after ∧
      cutsFrom pattern before 0 ((c :: text).map char) =
        (before, after.map char) :: cutsFrom pattern before 0 (after.map char) := by
  rcases mem_rests_iff.mp (left ▸ List.mem_cons_self) with ⟨read, isRead, split⟩
  cases read with
  | nil => exact absurd isRead nonempty
  | cons d read =>
    rw [List.map_cons, List.cons_append, List.cons.injEq] at split
    have lengths : text.length = read.length + rest.length := by
      rw [← List.length_map char, split.2, List.length_append]
    have shorter : rest.length ≤ text.length := lengths ▸ Nat.le_add_left _ _
    have covered : text.length - rest.length = read.length := by
      rw [lengths, Nat.add_sub_cancel]
    have follows : (text.drop read.length).map char = rest := by
      rw [List.map_drop, split.2, List.drop_left]
    have taken : (c :: text.take read.length).map char = d :: read := by
      rw [List.map_cons, List.map_take, split.1, split.2, List.take_left]
    refine ⟨c :: text.take read.length, text.drop read.length, ?_, ?_, taken ▸ isRead, ?_, ?_⟩
    · rw [List.cons_append, List.take_append_drop]
    · rw [List.length_drop]
      exact Nat.sub_le _ _
    · rw [removeFromBy, left]
      dsimp only
      rw [if_pos shorter, removeFromBy_eq_drop, covered]
    · rw [List.map_cons] at left ⊢
      rw [cutsFrom, left]
      dsimp only
      rw [List.length_map, if_pos shorter, cutsFrom_eq_drop, covered, follows, split.2,
        List.drop_left]

theorem strips_removeFromBy (nonempty : ¬ pattern.Matches []) (kept text : List α)
    (allowed : ∀ place ∈ cutsFrom pattern (kept.map char) 0 (text.map char),
      Allowed place.1 place.2) :
    Strips char pattern Allowed kept text (removeFromBy char pattern 0 text) := by
  match text with
  | [] => exact .done
  | c :: text =>
    cases left : pattern.rests ((c :: text).map char) with
    | nil =>
      rw [removeFromBy, left]
      rw [List.map_cons] at left
      rw [List.map_cons, cutsFrom, left] at allowed
      refine .keep left (strips_removeFromBy nonempty (kept ++ [c]) text ?_)
      rw [List.map_append]
      exact allowed
    | cons rest others =>
      rcases cut_of_rests (kept.map char) nonempty left with
        ⟨removed, after, whole, shorter, isRead, stays, places⟩
      rw [places, List.forall_mem_cons] at allowed
      rw [stays, whole]
      exact .cut isRead allowed.1 (strips_removeFromBy nonempty kept after allowed.2)
termination_by text.length

theorem strips_removeAllBy (nonempty : ¬ pattern.Matches []) (text : List α)
    (allowed : ∀ place ∈ pattern.cuts (text.map char), Allowed place.1 place.2) :
    Strips char pattern Allowed [] text (pattern.removeAllBy char text) :=
  strips_removeFromBy nonempty [] text allowed

namespace Strips

theorem subset (strips : Strips char pattern Allowed kept text result) : result ⊆ text := by
  induction strips with
  | done => exact List.Subset.refl []
  | keep _ _ ih => exact List.cons_subset_cons _ ih
  | cut _ _ _ ih => exact List.subset_append_of_subset_right _ ih

theorem split (strips : Strips char pattern Allowed kept text (first ++ second)) :
    ∃ before after, text = before ++ after ∧
      Strips char pattern Allowed (kept ++ first) after second := by
  generalize whole : first ++ second = result at strips
  induction strips generalizing first with
  | done =>
    rcases List.append_eq_nil_iff.mp whole with ⟨rfl, rfl⟩
    exact ⟨[], [], rfl, .done⟩
  | @keep kept text result c apart strips ih =>
    cases first with
    | nil =>
      rw [List.nil_append] at whole
      rw [whole, List.append_nil]
      exact ⟨[], c :: text, rfl, .keep apart strips⟩
    | cons d first =>
      rw [List.cons_append, List.cons.injEq] at whole
      rcases ih whole.2 with ⟨before, after, rfl, rest⟩
      rw [List.append_assoc, ← whole.1] at rest
      exact ⟨c :: before, after, rfl, rest⟩
  | @cut kept removed text result isRead allowed strips ih =>
    rcases ih whole with ⟨before, after, rfl, rest⟩
    exact ⟨removed ++ before, after, (List.append_assoc removed before after).symm, rest⟩

section

variable (apart : ∀ before after, Allowed before after → ¬ word.Joins before after)

include apart

theorem continues (strips : Strips char pattern Allowed kept text (first ++ second))
    {outer begun : List α} (ends : kept = outer ++ begun) (ne_nil : begun ≠ [])
    (isWord : word.Matches ((begun ++ first).map char)) :
    ∃ after, text = first ++ after ∧
      Strips char pattern Allowed (kept ++ first) after second := by
  generalize whole : first ++ second = result at strips
  induction strips generalizing first begun with
  | done =>
    rcases List.append_eq_nil_iff.mp whole with ⟨rfl, rfl⟩
    exact ⟨[], rfl, .done⟩
  | @keep kept text result c missed strips ih =>
    cases first with
    | nil =>
      rw [List.nil_append] at whole
      rw [whole, List.append_nil]
      exact ⟨c :: text, rfl, .keep missed strips⟩
    | cons d first =>
      rw [List.cons_append, List.cons.injEq] at whole
      rw [whole.1, List.append_cons] at isWord
      have longer : begun ++ [c] ≠ [] :=
        List.append_ne_nil_of_right_ne_nil begun (List.cons_ne_nil c [])
      rcases ih (by rw [ends, List.append_assoc]) longer isWord whole.2 with ⟨after, rfl, rest⟩
      rw [List.append_assoc, ← whole.1] at rest
      rw [whole.1] at rest ⊢
      exact ⟨after, rfl, rest⟩
  | @cut kept removed text result isRead allowed strips ih =>
    cases first with
    | nil =>
      rw [List.nil_append] at whole
      rw [whole, List.append_nil]
      exact ⟨removed ++ text, rfl, .cut isRead allowed strips⟩
    | cons d first =>
      rcases ih ends ne_nil isWord whole with ⟨after, rfl, rest⟩
      refine absurd ⟨outer.map char, begun.map char, (d :: first).map char, after.map char, ?_,
        List.map_append, ?_, List.cons_ne_nil _ _, ?_⟩ (apart _ _ allowed)
      · rw [ends, List.map_append]
      · rwa [ne_eq, List.map_eq_nil_iff]
      · rwa [← List.map_append]

theorem stood (strips : Strips char pattern Allowed kept text (first ++ second))
    (ne_nil : first ≠ []) (isWord : word.Matches (first.map char)) :
    ∃ before after, text = before ++ (first ++ after) ∧
      pattern.rests ((first ++ after).map char) = [] ∧
      Strips char pattern Allowed (kept ++ first) after second := by
  generalize whole : first ++ second = result at strips
  induction strips with
  | done => exact absurd (List.append_eq_nil_iff.mp whole).1 ne_nil
  | @keep kept text result c missed strips _ =>
    cases first with
    | nil => exact absurd rfl ne_nil
    | cons d first =>
      rw [List.cons_append, List.cons.injEq] at whole
      rcases whole with ⟨rfl, rfl⟩
      rcases strips.continues apart rfl (List.cons_ne_nil d []) isWord with ⟨after, rfl, rest⟩
      rw [List.append_assoc] at rest
      exact ⟨[], after, rfl, missed, rest⟩
  | @cut kept removed text result isRead allowed strips ih =>
    rcases ih whole with ⟨before, after, rfl, found⟩
    exact ⟨removed ++ before, after, (List.append_assoc removed before _).symm, found⟩

end

/-- A cut that begins no later than an element and reaches into it ends no earlier
than the element does. -/
theorem ends_with_element {opening closing : Regex} {mark : Char}
    {before read rest : List α} {c : α}
    (isEnclosed : (enclosed opening closing).Matches ((before ++ c :: read).map char))
    (marked : char c = mark)
    (unmarked : ∀ begun ended, closing.Matches (begun ++ ended) → ended.head? = some mark →
      begun = [])
    (last : ∀ begun ended others, c :: read ++ rest = begun ++ (ended ++ others) →
      closing.Matches (ended.map char) → others = []) :
    rest = [] := by
  rcases enclosed_matches.mp isEnclosed with ⟨begun, middle, ended, split, _, isClosing⟩
  rw [← List.append_assoc, List.map_eq_append_iff] at split
  rcases split with ⟨outer, within, whole, _, rfl⟩
  rcases List.append_eq_append_iff.mp whole with
    ⟨others, rfl, inside⟩ | ⟨others, rfl, inside⟩
  · exact last others within rest (by rw [inside, List.append_assoc]) isClosing
  · rw [inside, List.map_append] at isClosing
    have noOthers := unmarked _ _ isClosing (by rw [List.map_cons, marked]; rfl)
    rw [noOthers] at isClosing
    exact last [] (c :: read) rest rfl isClosing

/-- What stands between the opening and the closing word is gone, if the
closing word stands nowhere before its last character.  The mark is the
character that both words begin with. -/
theorem removes_enclosed {opening closing : Regex} {mark : Char} {before element after : List α}
    {Inside : α → Prop}
    (isEnclosed : ∀ read, pattern.Matches read ↔ (enclosed opening closing).Matches read)
    (begins : ∀ read, opening.Matches read → read.head? = some mark)
    (unmarked : ∀ begun ended, closing.Matches (begun ++ ended) → ended.head? = some mark →
      begun = [])
    (strips : Strips char pattern Allowed kept (before ++ (element ++ after)) result)
    (outside : ∀ c ∈ before ++ after, ¬ Inside c)
    (opened : ∃ begun middle, element = begun ++ middle ∧ opening.Matches (begun.map char))
    (closed : ∃ ended rest, after = ended ++ rest ∧ closing.Matches (ended.map char))
    (last : ∀ begun ended rest, element = begun ++ (ended ++ rest) →
      closing.Matches (ended.map char) → rest = []) :
    ∀ c ∈ result, ¬ Inside c := by
  generalize whole : before ++ (element ++ after) = text at strips
  induction strips generalizing before with
  | done => nofun
  | @keep kept text result c missed strips ih =>
    cases before with
    | nil =>
      rcases opened with ⟨begun, middle, rfl, isOpening⟩
      rcases closed with ⟨ended, rest, rfl, isClosing⟩
      refine absurd missed (rests_ne_nil_iff.mpr ⟨_, rest.map char, (isEnclosed _).mpr
        (enclosed_matches.mpr ⟨_, middle.map char, _, rfl, isOpening, isClosing⟩), ?_⟩)
      rw [← whole]
      simp
    | cons d before =>
      rw [List.cons_append, List.cons.injEq] at whole
      rw [List.cons_append, List.forall_mem_cons] at outside
      exact List.forall_mem_cons.mpr ⟨whole.1 ▸ outside.1, ih outside.2 whole.2⟩
  | @cut kept removed text result isRead allowed strips ih =>
    rcases List.append_eq_append_iff.mp whole with ⟨within, rfl, split⟩ | ⟨later, rfl, rfl⟩
    · cases within with
      | nil =>
        have shorter : [] ++ (element ++ after) = text := split
        refine ih (fun c mem => ?_) shorter
        exact outside c (List.mem_append_right before mem)
      | cons c within =>
        -- the cut reaches into the element, so that only what follows the element is left
        have passes : ∃ passed, after = passed ++ text := by
          rcases List.append_eq_append_iff.mp split with ⟨passed, _, rfl⟩ | ⟨rest, rfl, rfl⟩
          · exact ⟨passed, rfl⟩
          · rcases opened with ⟨begun, middle, isElement, isOpening⟩
            have marked : char c = mark := by
              have head := begins _ isOpening
              cases begun with
              | nil => cases head
              | cons d begun =>
                rw [List.cons_append, List.cons_append, List.cons.injEq] at isElement
                rw [isElement.1]
                exact Option.some.inj head
            have noRest := ends_with_element ((isEnclosed _).mp isRead) marked unmarked last
            exact ⟨[], by rw [noRest]; rfl⟩
        rcases passes with ⟨passed, rfl⟩
        intro d mem
        exact outside d (List.mem_append_right before
          (List.mem_append_right passed (strips.subset mem)))
    · refine ih (fun c mem => outside c ?_) rfl
      rw [List.append_assoc]
      exact List.mem_append_right removed mem

end Strips

end

/-! ## What is left on plain characters -/

section

variable {pattern word opening closing : Regex} {text : List Char}

section

variable (nonempty : ¬ pattern.Matches [])

include nonempty

theorem strips_removeAll (text : List Char) :
    Strips id pattern (fun before after => (before, after) ∈ pattern.cuts text) [] text
      (pattern.removeAll text) := by
  have strips : Strips id pattern (fun before after => (before, after) ∈ pattern.cuts text) [] text
      (pattern.removeAllBy id text) :=
    strips_removeAllBy nonempty text (by rw [List.map_id]; exact fun _ mem => mem)
  have same : pattern.removeAllBy id text = pattern.removeAll text := by
    rw [← List.map_id (pattern.removeAllBy id text), map_removeAllBy, List.map_id]
  rwa [same] at strips

theorem search_removeAll_eq_false (ne_nil : ¬ word.Matches [])
    (apart : ∀ place ∈ pattern.cuts text, ¬ word.Joins place.1 place.2)
    (starts : ∀ read rest, word.Matches read → pattern.rests (read ++ rest) ≠ []) :
    word.search (pattern.removeAll text) = false := by
  rw [Bool.eq_false_iff]
  intro found
  rcases search_iff.mp found with ⟨before, read, after, isWord, split⟩
  have strips := strips_removeAll nonempty text
  rw [split] at strips
  rcases strips.split with ⟨_, later, _, rest⟩
  have notNil : read ≠ [] := fun isNil => ne_nil (isNil ▸ isWord)
  rcases rest.stood (fun _ _ => apart _) notNil ((List.map_id read).symm ▸ isWord) with
    ⟨_, others, _, missed, _⟩
  rw [List.map_id] at missed
  exact starts read others isWord missed

theorem exists_enclosed_of_search (opens : ¬ opening.Matches []) (closes : ¬ closing.Matches [])
    (apart : ∀ place ∈ pattern.cuts text,
      ¬ opening.Joins place.1 place.2 ∧ ¬ closing.Joins place.1 place.2)
    (found : (enclosed opening closing).search (pattern.removeAll text) = true) :
    ∃ before later, text = before ++ later ∧ pattern.rests later = [] ∧
      (enclosed opening closing).rests later ≠ [] := by
  rcases search_iff.mp found with ⟨before, _, after, isEnclosed, split⟩
  rcases enclosed_matches.mp isEnclosed with ⟨begun, middle, ended, rfl, isOpening, isClosing⟩
  have strips := strips_removeAll nonempty text
  rw [split, List.append_assoc, List.append_assoc] at strips
  rcases strips.split with ⟨outer, later, rfl, fromOpening⟩
  have begunNotNil : begun ≠ [] := fun isNil => opens (isNil ▸ isOpening)
  have endedNotNil : ended ≠ [] := fun isNil => closes (isNil ▸ isClosing)
  rcases fromOpening.stood (fun _ _ mem => (apart _ mem).1) begunNotNil
    ((List.map_id begun).symm ▸ isOpening) with ⟨cutOut, rest, rfl, missed, fromMiddle⟩
  rcases fromMiddle.split with ⟨inner, rest, rfl, fromClosing⟩
  rcases fromClosing.stood (fun _ _ mem => (apart _ mem).2) endedNotNil
    ((List.map_id ended).symm ▸ isClosing) with ⟨more, rest, rfl, _, _⟩
  rw [List.map_id] at missed
  refine ⟨outer ++ cutOut, _, (List.append_assoc _ _ _).symm, missed, ?_⟩
  rw [rests_ne_nil_iff]
  refine ⟨begun ++ ((inner ++ more) ++ ended), rest,
    enclosed_matches.mpr ⟨begun, inner ++ more, ended, rfl, isOpening, isClosing⟩, ?_⟩
  simp only [List.append_assoc]

theorem search_enclosed_removeAll_of_matches (opens : ¬ opening.Matches [])
    (closes : ¬ closing.Matches []) (apart : ∀ place ∈ pattern.cuts text,
      ¬ opening.Joins place.1 place.2 ∧ ¬ closing.Joins place.1 place.2)
    (reads : ∀ read, (enclosed opening closing).Matches read → pattern.Matches read) :
    (enclosed opening closing).search (pattern.removeAll text) = false := by
  rw [Bool.eq_false_iff]
  intro found
  rcases exists_enclosed_of_search nonempty opens closes apart found with
    ⟨_, later, _, missed, stands⟩
  rcases rests_ne_nil_iff.mp stands with ⟨read, rest, isRead, split⟩
  exact rests_ne_nil_iff.mpr ⟨read, rest, reads read isRead, split⟩ missed

theorem search_enclosed_removeAll_of_search (opens : ¬ opening.Matches [])
    (closes : ¬ closing.Matches []) (apart : ∀ place ∈ pattern.cuts text,
      ¬ opening.Joins place.1 place.2 ∧ ¬ closing.Joins place.1 place.2)
    (clean : (enclosed opening closing).search text = false) :
    (enclosed opening closing).search (pattern.removeAll text) = false := by
  rw [Bool.eq_false_iff] at clean ⊢
  intro found
  rcases exists_enclosed_of_search nonempty opens closes apart found with
    ⟨before, later, rfl, _, stands⟩
  rcases rests_ne_nil_iff.mp stands with ⟨read, rest, isRead, rfl⟩
  exact clean (search_iff.mpr ⟨before, read, rest, isRead, rfl⟩)

end

theorem search_cons {c : Char} : pattern.search (c :: text) =
    (!(pattern.rests (c :: text)).isEmpty || pattern.search text) := by
  rfl

theorem removeAll_of_not_search (clean : pattern.search text = false) :
    pattern.removeAll text = text := by
  rw [removeAll]
  induction text with
  | nil => rfl
  | cons c text ih =>
    rw [search_cons, Bool.or_eq_false_iff, Bool.not_eq_false', List.isEmpty_iff] at clean
    rw [removeFrom, clean.1]
    exact congrArg (List.cons c) (ih clean.2)

end

end OhMyClass.Regex
