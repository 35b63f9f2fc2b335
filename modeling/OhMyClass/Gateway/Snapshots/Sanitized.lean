import OhMyClass.Gateway.Snapshots.AnswerKeys
import OhMyClass.Markup.Nodes
import OhMyClass.Regex.Removal

/-!
# Removal of answer keys

What `remove_answer_keys_from_html` cuts out of a page, and when no answer key is
left in it.
-/

namespace OhMyClass.Gateway

open List Regex

/-!
## Places that the removal of answer keys cuts at

The tags and patterns that `remove_answer_keys_from_html` deletes, and that its
result passes the isolation check unless a deletion joins one of them.
-/

section

/-! ## The patterns -/

/-- `<tag[^>]*(?:data-answer-key="true"|data-teacher-only="true")[^>]*>`. -/
def openingTag (tag : String) : Regex :=
  .seq (.seq (.seq (.seq (ignoringCase ("<" ++ tag)) (.many true (· != '>')))
    (.alt (ignoringCase "data-answer-key=\"true\"") (ignoringCase "data-teacher-only=\"true\"")))
    (.many true (· != '>'))) (.one (· == '>'))

def closingTag (tag : String) : Regex := ignoringCase ("</" ++ tag ++ ">")

def answerKeyLine : Regex := .seq answerKeyPattern (.many true (· != '\n'))

variable {tag : String}

theorem markedElement_matches {read : List Char} :
    (markedElement tag).Matches read ↔
      (enclosed (openingTag tag) (closingTag tag)).Matches read := by
  rw [enclosed, openingTag, matches_seq_assoc, matches_seq_assoc,
    matches_seq_assoc, matches_seq_assoc]
  rfl

theorem search_markedElement {html : List Char} :
    (markedElement tag).search html =
      (enclosed (openingTag tag) (closingTag tag)).search html := by
  rw [Bool.eq_iff_iff, search_iff, search_iff]
  simp only [markedElement_matches]

theorem ignoringCase_matches (text : String) : (ignoringCase text).Matches text.toList := by
  rw [ignoringCase, matches_word]
  refine forall₂_same.mpr fun c _ => ?_
  rw [sameIgnoringCase, beq_self_eq_true, Bool.true_or]

theorem eq_of_sameIgnoringCase_bracket {c : Char} (same : sameIgnoringCase '<' c = true) :
    c = '<' := by
  have noVariant :
      (caseVariants.any fun variants => variants.contains '<' && variants.contains c) = false :=
    rfl
  rw [sameIgnoringCase, noVariant, Bool.or_false, beq_iff_eq] at same
  change '<' = c.toLower at same
  delta Char.toLower at same
  split at same
  · next upper =>
    -- a capital letter has no bracket as its small letter
    have low : 65 ≤ c.val.toNat := UInt32.le_iff_toNat_le.mp upper.1
    have high : c.val.toNat ≤ 90 := UInt32.le_iff_toNat_le.mp upper.2
    have moved : 60 = (c.val.toNat + 32) % 2 ^ 32 := congrArg (fun d => d.val.toNat) same
    omega
  · exact same.symm

theorem head_openingTag {read : List Char} (isRead : (openingTag tag).Matches read) :
    read.head? = some '<' := by
  rcases isRead with
    ⟨_, _, rfl, ⟨_, _, rfl, ⟨_, _, rfl, ⟨begun, _, rfl, isWord, _⟩, _⟩, _⟩, _⟩
  rw [ignoringCase, matches_word, String.toList_append] at isWord
  cases isWord with
  | cons same _ =>
    rw [eq_of_sameIgnoringCase_bracket same]
    rfl

/-- The tags whose marked elements are removed. -/
def removedTags : List String := ["section", "div"]

def markers : List String := ["data-answer-key=\"true\"", "data-teacher-only=\"true\""]

theorem bracket_begins_closingTag (removed : tag ∈ removedTags) {begun ended : List Char}
    (isRead : (closingTag tag).Matches (begun ++ ended)) (head : ended.head? = some '<') :
    begun = [] := by
  rw [closingTag, ignoringCase, matches_word] at isRead
  cases begun with
  | nil => rfl
  | cons b begun =>
    have word : ∃ others, ("</" ++ tag ++ ">").toList = '<' :: others ∧
        others.all (fun c => !sameIgnoringCase c '<') = true := by
      rcases mem_pair.mp removed with rfl | rfl
      · exact ⟨"/section>".toList, rfl, by decide⟩
      · exact ⟨"/div>".toList, rfl, by decide⟩
    rcases word with ⟨others, isWord, noBracket⟩
    rw [isWord] at isRead
    cases isRead with
    | cons _ reads =>
      have mem : '<' ∈ begun ++ ended :=
        mem_append_right begun (mem_of_mem_head? head)
      rcases Regex.Reads.exists_of_mem reads mem with ⟨c, isOther, same⟩
      have unlike := all_eq_true.mp noBracket c isOther
      rw [same] at unlike
      cases unlike

theorem not_matches_nil_markedElement : ¬ (markedElement tag).Matches [] := by
  intro isNil
  rcases enclosed_matches.mp (markedElement_matches.mp isNil) with
    ⟨begun, middle, ended, whole, isOpening, _⟩
  have noBegun := (append_eq_nil_iff.mp whole.symm).1
  rw [noBegun] at isOpening
  cases head_openingTag isOpening

theorem not_matches_nil_openingTag : ¬ (openingTag tag).Matches [] := by
  intro isNil
  cases head_openingTag isNil

theorem not_matches_nil_closingTag : ¬ (closingTag tag).Matches [] := by
  rw [closingTag, ignoringCase, String.append_assoc, String.toList_append]
  nofun

theorem not_matches_nil_answerKeyPattern : ¬ answerKeyPattern.Matches [] :=
  not_matches_nil rfl

theorem not_matches_nil_answerKeyLine : ¬ answerKeyLine.Matches [] :=
  not_matches_nil rfl

theorem openingTag_matches {before marker after : List Char}
    (noEnd : '>' ∉ before ++ (marker ++ after)) (isMarker : String.ofList marker ∈ markers) :
    (openingTag tag).Matches ('<' :: (tag.toList ++ (before ++ (marker ++ after) ++ ['>']))) := by
  have noEndBefore : ∀ c ∈ before, (c != '>') = true := fun c mem =>
    bne_iff_ne.mpr fun isEnd => noEnd (isEnd ▸ mem_append_left _ mem)
  have noEndAfter : ∀ c ∈ after, (c != '>') = true := fun c mem =>
    bne_iff_ne.mpr fun isEnd =>
      noEnd (isEnd ▸ mem_append_right _ (mem_append_right _ mem))
  have word := ignoringCase_matches ("<" ++ tag)
  have reads : (Regex.alt (ignoringCase "data-answer-key=\"true\"")
      (ignoringCase "data-teacher-only=\"true\"")).Matches marker := by
    rcases mem_pair.mp isMarker with isKey | isTeacher
    · refine Or.inl ?_
      rw [← String.toList_ofList (l := marker), isKey]
      exact ignoringCase_matches _
    · refine Or.inr ?_
      rw [← String.toList_ofList (l := marker), isTeacher]
      exact ignoringCase_matches _
  refine ⟨(((("<" ++ tag).toList ++ before) ++ marker) ++ after), ['>'], ?_,
    ⟨_, after, rfl, ⟨_, marker, rfl, ⟨_, before, rfl, word, noEndBefore⟩, reads⟩, noEndAfter⟩,
    '>', rfl, rfl⟩
  rw [String.toList_append]
  simp only [append_assoc]
  rfl

theorem not_closingTag_of_plain (removed : tag ∈ removedTags) {others begun ended rest : List Char}
    (noTag : '<' ∉ others) (split : '<' :: (tag.toList ++ others) = begun ++ (ended ++ rest)) :
    ¬ (closingTag tag).Matches ended := by
  intro isClosing
  have plain : '<' ∉ tag.toList := by
    rcases mem_pair.mp removed with rfl | rfl <;> decide
  rw [closingTag, ignoringCase, matches_word, String.append_assoc, String.toList_append]
    at isClosing
  rcases isClosing with _ | ⟨bracket, _ | ⟨slash, _⟩⟩
  rw [eq_of_sameIgnoringCase_bracket bracket] at split
  cases begun with
  | nil =>
    rcases mem_pair.mp removed with rfl | rfl
    · cases (List.cons.inj (List.cons.inj split).2).1
      exact absurd slash (by decide)
    · cases (List.cons.inj (List.cons.inj split).2).1
      exact absurd slash (by decide)
  | cons b begun =>
    have within : '<' ∈ tag.toList ++ others := by
      rw [(List.cons.inj split).2]
      exact mem_append_right begun mem_cons_self
    rcases mem_append.mp within with isName | isOther
    · exact plain isName
    · exact noTag isOther

/-! ## The isolation check -/

/-- A place where no tag of a marked element is joined. -/
def TagsApart (tag : String) (place : List Char × List Char) : Prop :=
  ¬ (openingTag tag).Joins place.1 place.2 ∧ ¬ (closingTag tag).Joins place.1 place.2

/-- No substitution of `remove_answer_keys_from_html` joins what it keeps before
a match and what follows it into a tag of a marked element, and the last one
joins no answer-key pattern. -/
structure CutsApart (html : List Char) : Prop where
  sections : ∀ place ∈ (markedElement "section").cuts html, TagsApart "section" place
  divs : ∀ place ∈ (markedElement "div").cuts ((markedElement "section").removeAll html),
    TagsApart "section" place ∧ TagsApart "div" place
  lines : ∀ place ∈ answerKeyLine.cuts (removeMarked html),
    TagsApart "section" place ∧ TagsApart "div" place
  patterns : ∀ place ∈ answerKeyLine.cuts (removeMarked html),
    ¬ answerKeyPattern.Joins place.1 place.2

section

variable {tag : String} {pattern : Regex} {html : List Char}

theorem search_removeAll_markedElement
    (apart : ∀ place ∈ (markedElement tag).cuts html, TagsApart tag place) :
    (markedElement tag).search ((markedElement tag).removeAll html) = false := by
  rw [search_markedElement]
  exact search_enclosed_removeAll_of_matches not_matches_nil_markedElement
    not_matches_nil_openingTag not_matches_nil_closingTag apart
    fun _ => markedElement_matches.mpr

theorem search_markedElement_removeAll (nonempty : ¬ pattern.Matches [])
    (apart : ∀ place ∈ pattern.cuts html, TagsApart tag place)
    (clean : (markedElement tag).search html = false) :
    (markedElement tag).search (pattern.removeAll html) = false := by
  rw [search_markedElement] at clean ⊢
  exact search_enclosed_removeAll_of_search nonempty not_matches_nil_openingTag
    not_matches_nil_closingTag apart clean

theorem removeMarked_of_clean (sections : (markedElement "section").search html = false)
    (divs : (markedElement "div").search html = false) : removeMarked html = html := by
  rw [removeMarked, removeAll_of_not_search sections, removeAll_of_not_search divs]

theorem search_answerKeyPattern_removeAll
    (apart : ∀ place ∈ answerKeyLine.cuts html, ¬ answerKeyPattern.Joins place.1 place.2) :
    answerKeyPattern.search (answerKeyLine.removeAll html) = false := by
  refine search_removeAll_eq_false not_matches_nil_answerKeyLine
    not_matches_nil_answerKeyPattern apart fun read rest isRead => ?_
  rw [rests_ne_nil_iff]
  exact ⟨read, rest,
    ⟨read, [], (append_nil read).symm, isRead, forall_mem_nil _⟩, rfl⟩

theorem validate_removeAnswerKeys {html : String} (apart : CutsApart html.toList) :
    validateAnswerKeyIsolation (removeAnswerKeysFromHtml html) = [] := by
  have sections := search_removeAll_markedElement apart.sections
  have sectionsLeft := search_markedElement_removeAll not_matches_nil_markedElement
    (fun place mem => (apart.divs place mem).1) sections
  have divsLeft := search_removeAll_markedElement
    fun place mem => (apart.divs place mem).2
  have noSections := search_markedElement_removeAll not_matches_nil_answerKeyLine
    (fun place mem => (apart.lines place mem).1) sectionsLeft
  have noDivs := search_markedElement_removeAll not_matches_nil_answerKeyLine
    (fun place mem => (apart.lines place mem).2) divsLeft
  rw [validateAnswerKeyIsolation, removeAnswerKeysFromHtml, String.toList_ofList,
    if_neg]
  change ¬ containsAnswerKeyPatterns
    (removeMarked (answerKeyLine.removeAll (removeMarked html.toList))) = true
  rw [removeMarked_of_clean noSections noDivs, containsAnswerKeyPatterns,
    search_answerKeyPattern_removeAll apart.patterns]
  nofun

end

end

/-!
## Marked elements

The elements of a well nested text that are to be removed, and when the removal
takes out everything that stands inside one.
-/

section

open Markup

/-- `remove_answer_keys_from_html`, on characters that carry more. -/
def removeAnswerKeysBy {α : Type*} (char : α → Char) (html : List α) : List α :=
  answerKeyLine.removeAllBy char
    ((markedElement "div").removeAllBy char ((markedElement "section").removeAllBy char html))

/-- The characters of a text, each with whether it stands inside an element. -/
def labelled (inside : Bool) (chars : List Char) : List (Char × Bool) :=
  chars.map fun c => (c, inside)

theorem map_fst_labelled (inside : Bool) (chars : List Char) :
    (labelled inside chars).map Prod.fst = chars := by
  rw [labelled, map_map]
  exact map_id chars

/-- A text that holds an element, each character with whether it stands between
the element's tags. -/
def labelledElement (before : List Char) (tag : Tag) (contents : List Node) (gap : Blanks)
    (after : List Char) : List (Char × Bool) :=
  labelled false (before ++ tag.startChars) ++
    (labelled true (nodesChars contents) ++ labelled false (tag.endChars gap ++ after))

/-- An element of a well nested HTML text that is to be removed. -/
structure MarkedElement (html : List Char) where
  nodes : List Node
  before : List Char
  tag : Tag
  contents : List Node
  gap : Blanks
  after : List Char
  wellNested : html = nodesChars nodes
  located : Located nodes before (.element tag contents gap) after
  name_mem : String.ofList tag.name.chars ∈ removedTags
  marked : ∃ written ∈ tag.attributes.map Attribute.written, String.ofList written ∈ markers

namespace MarkedElement

variable {html : List Char}

def tagName (element : MarkedElement html) : String := String.ofList element.tag.name.chars

/-- The text with what stands inside the element labelled. -/
def text (element : MarkedElement html) : List (Char × Bool) :=
  labelledElement element.before element.tag element.contents element.gap element.after

/-- Nothing inside the element stays. -/
def Hidden (element : MarkedElement html) : Prop :=
  ∀ c ∈ removeAnswerKeysBy Prod.fst element.text, c.2 = false

end MarkedElement

/-- What stands inside the element is gone, or it still stands between a start
tag that `markedElement` reads and an end tag, and nothing of the element
follows an earlier end tag. -/
def Stands (tag : String) (html : List (Char × Bool)) : Prop :=
  (∀ c ∈ html, c.2 = false) ∨
    ∃ before opening contents closing after,
      html = before ++ ((opening ++ contents) ++ (closing ++ after)) ∧
      (∀ c ∈ before ++ (closing ++ after), c.2 = false) ∧
      (openingTag tag).Matches (opening.map Prod.fst) ∧
      (closingTag tag).Matches (closing.map Prod.fst) ∧
      ∀ begun ended rest, opening ++ contents = begun ++ (ended ++ rest) →
        (closingTag tag).Matches (ended.map Prod.fst) → rest = []

/-- The element stands when the substitution for its tag begins. -/
def MarkedElement.StandsAtItsTurn {html : List Char} (element : MarkedElement html) : Prop :=
  if element.tagName = "section" then Stands "section" element.text
  else Stands "div" ((markedElement "section").removeAllBy Prod.fst element.text)

section

variable {pattern : Regex} {html : List (Char × Bool)}

theorem outside_removeAllBy (nonempty : ¬ pattern.Matches [])
    (outside : ∀ c ∈ html, c.2 = false) :
    ∀ c ∈ pattern.removeAllBy Prod.fst html, c.2 = false := by
  have strips : Regex.Strips Prod.fst pattern (fun _ _ => True) [] html
      (pattern.removeAllBy Prod.fst html) :=
    strips_removeAllBy nonempty html fun _ _ => trivial
  exact fun c mem => outside c (strips.subset mem)

theorem Stands.outside_removeAllBy {tag : String} (removed : tag ∈ removedTags)
    (stands : Stands tag html) :
    ∀ c ∈ (markedElement tag).removeAllBy Prod.fst html, c.2 = false := by
  rcases stands with outside |
    ⟨before, opening, contents, closing, after, rfl, outside, isOpening, isClosing, last⟩
  · exact Gateway.outside_removeAllBy not_matches_nil_markedElement outside
  · have strips : Regex.Strips Prod.fst (markedElement tag) (fun _ _ => True) []
        (before ++ ((opening ++ contents) ++ (closing ++ after)))
        ((markedElement tag).removeAllBy Prod.fst
          (before ++ ((opening ++ contents) ++ (closing ++ after)))) :=
      strips_removeAllBy not_matches_nil_markedElement _ fun _ _ => trivial
    have notInside : ∀ c ∈ before ++ (closing ++ after), ¬ c.2 = true :=
      fun c mem => Bool.eq_false_iff.mp (outside c mem)
    have hidden := strips.removes_enclosed (fun _ => markedElement_matches)
      (fun _ => head_openingTag) (fun _ _ => bracket_begins_closingTag removed) notInside
      ⟨opening, contents, rfl, isOpening⟩ ⟨closing, after, rfl, isClosing⟩ last
    exact fun c mem => Bool.eq_false_iff.mpr (hidden c mem)

end

theorem MarkedElement.hidden_of_stands {html : List Char} {element : MarkedElement html}
    (stands : element.StandsAtItsTurn) : element.Hidden := by
  rw [StandsAtItsTurn] at stands
  refine outside_removeAllBy not_matches_nil_answerKeyLine ?_
  split at stands
  · refine outside_removeAllBy not_matches_nil_markedElement ?_
    exact stands.outside_removeAllBy mem_cons_self
  · exact stands.outside_removeAllBy (mem_cons_of_mem _ mem_cons_self)

theorem MarkedElement.stands_of_plain {html : List Char} (element : MarkedElement html)
    (noEnd : '>' ∉ element.tag.attributeChars)
    (noTag : '<' ∉ element.tag.attributeChars ++ '>' :: nodesChars element.contents)
    (noGap : element.gap.chars = []) : Stands element.tagName element.text := by
  have written : element.tag.name.chars = element.tagName.toList := String.toList_ofList.symm
  refine Or.inr ⟨labelled false element.before, labelled false element.tag.startChars,
    labelled true (nodesChars element.contents), labelled false (element.tag.endChars element.gap),
    labelled false element.after, ?_, ?_, ?_, ?_, ?_⟩
  · rw [text, labelledElement]
    simp [labelled]
  · rw [labelled, labelled, labelled, ← map_append, ← map_append, forall_mem_map]
    exact fun _ _ => rfl
  · rcases element.marked with ⟨_, mem, isMarker⟩
    rcases mem_map.mp mem with ⟨attr, isAttr, rfl⟩
    rcases Tag.attributeChars_split isAttr with ⟨before, after, split⟩
    rw [map_fst_labelled, Tag.startChars, written, split]
    rw [split] at noEnd
    exact openingTag_matches noEnd isMarker
  · have isEnd : element.tag.endChars element.gap = ("</" ++ element.tagName ++ ">").toList := by
      rw [Tag.endChars, noGap, written, String.toList_append, String.toList_append]
      rfl
    rw [map_fst_labelled, isEnd]
    exact ignoringCase_matches _
  · intro begun ended rest split isClosing
    have plainSplit := congrArg (List.map Prod.fst) split
    rw [map_append, map_append, map_append, map_fst_labelled, map_fst_labelled,
      Tag.startChars, written, cons_append, append_assoc, append_assoc] at plainSplit
    exact absurd isClosing (not_closingTag_of_plain element.name_mem noTag plainSplit)

end

/-!
## Sanitized student HTML

When the HTML that `remove_answer_keys_from_html` returns passes the isolation
check and holds nothing of a marked element.
-/

section

open Markup

/-- The student's HTML passes the isolation check and holds nothing of what
stands inside a marked element. -/
def Sanitized (html : String) : Prop :=
  validateAnswerKeyIsolation (removeAnswerKeysFromHtml html) = [] ∧
    ∀ element : MarkedElement html.toList, element.Hidden

/-- A page with a marked section and a line that gives an answer. -/
def answeredPage : String := "<section data-answer-key=\"true\">4</section>Answer:4"

theorem cutsApart_answeredPage : CutsApart answeredPage.toList := by
  have sections : (markedElement "section").cuts answeredPage.toList =
      [([], "Answer:4".toList)] := rfl
  have lines : answerKeyLine.cuts (removeMarked answeredPage.toList) = [([], [])] := rfl
  -- nothing is kept before a cut
  have apart (tag : String) (after : List Char) : TagsApart tag ([], after) :=
    ⟨not_joins_nil, not_joins_nil⟩
  constructor
  · rw [sections, forall_mem_singleton]
    exact apart _ _
  · nofun
  · rw [lines, forall_mem_singleton]
    exact ⟨apart _ _, apart _ _⟩
  · rw [lines, forall_mem_singleton]
    exact not_joins_nil

theorem answeredPage_stands (element : MarkedElement answeredPage.toList) :
    element.StandsAtItsTurn := by
  have whole := element.wellNested.trans element.located.nodesChars_eq
  rw [Node.chars, Tag.startChars, Tag.endChars] at whole
  have brackets := congrArg (List.count '<') whole
  have ends := congrArg (List.count '>') whole
  have blanks := congrArg (List.countP isBlank) whole
  have counts : answeredPage.toList.count '<' = 2 ∧ answeredPage.toList.count '>' = 2 ∧
      answeredPage.toList.countP isBlank = 1 := ⟨rfl, rfl, rfl⟩
  have apart : ('/' == '<') = false ∧ ('>' == '<') = false ∧ ('/' == '>') = false ∧
      ('<' == '>') = false := ⟨rfl, rfl, rfl, rfl⟩
  simp only [counts, apart, count_append, countP_append, count_cons,
    countP_cons, count_nil, beq_self_eq_true, Bool.false_eq_true, if_true, if_false]
    at brackets ends blanks
  -- the two brackets and the blank are those of the element's own tags
  have begins : element.before = [] := by
    cases isBefore : element.before with
    | nil => rfl
    | cons c before =>
      rw [isBefore] at whole brackets
      have isBracket : c = '<' := (List.cons.inj whole).1.symm
      rw [isBracket, count_cons_self] at brackets
      omega
  have isSection : element.tagName = "section" := by
    rcases mem_pair.mp element.name_mem with isSection | isDiv
    · exact isSection
    · have written : element.tag.name.chars = "div".toList := by
        rw [← isDiv, String.toList_ofList]
      rw [begins, written] at whole
      cases (List.cons.inj (List.cons.inj whole).2).1
  have oneGap : 0 < element.tag.attributeChars.countP isBlank := by
    rcases element.marked with ⟨_, mem, _⟩
    rcases mem_map.mp mem with ⟨attr, isAttr, _⟩
    rcases exists_mem_of_ne_nil _ attr.separated with ⟨c, isGap⟩
    rw [countP_pos_iff]
    refine ⟨c, mem_append_left _ (mem_flatMap.mpr ⟨attr, isAttr, ?_⟩),
      attr.gap.blank c isGap⟩
    exact mem_append_left _ isGap
  have stands : Stands element.tagName element.text := by
    refine element.stands_of_plain (count_eq_zero.mp ?_) (count_eq_zero.mp ?_) ?_
    · omega
    · rw [count_append, count_cons]
      simp only [apart, Bool.false_eq_true, if_false]
      omega
    · rw [eq_nil_iff_forall_not_mem]
      intro c mem
      have isGap : 0 < element.gap.chars.countP isBlank :=
        countP_pos_iff.mpr ⟨c, mem, element.gap.blank c mem⟩
      omega
  rw [MarkedElement.StandsAtItsTurn, if_pos isSection]
  rwa [isSection] at stands

def noBlanks : Blanks := ⟨[], List.forall_mem_nil _⟩

def sectionName : Name := ⟨"section".toList, by decide, List.all_eq_true.mp (by decide)⟩

def keyAttribute : Attribute where
  gap := ⟨[' '], List.all_eq_true.mp (by decide)⟩
  name := ⟨"data-answer-key".toList, by decide, List.all_eq_true.mp (by decide)⟩
  value := some (noBlanks, noBlanks, .doubleQuoted "true".toList (by decide))
  separated := by decide

/-- A marked section with a section in it, and text behind that. -/
def nestedPage : String := "<section data-answer-key=\"true\"><section>4</section>5</section>"

def nestedContents : List Node :=
  [.element ⟨sectionName, [], noBlanks⟩ [.char '4' (by decide)] noBlanks, .char '5' (by decide)]

def nestedElement : MarkedElement nestedPage.toList where
  nodes := [.element ⟨sectionName, [keyAttribute], noBlanks⟩ nestedContents noBlanks]
  before := []
  tag := ⟨sectionName, [keyAttribute], noBlanks⟩
  contents := nestedContents
  gap := noBlanks
  after := []
  wellNested := rfl
  located := .here _ []
  name_mem := by decide
  marked := by decide

end

end OhMyClass.Gateway
