import OhMyClass.Exporters.GiftBlocks

/-!
# Reading GIFT exports back

An export is read back as its questions exactly if each of its items is, and
its category line has no block of its own.
-/

namespace OhMyClass.Gift

open List OhMyClass.Text

/-! ## Blocks of items -/

theorem scan_escaped {front text : Text} {start : Option Bool}
    (isFront : scanText start front = some false) (clean : Clean text) :
    scanText start (front ++ escapeGift text) = some false := by
  unfold scanText at *
  rw [scan_append, isFront]
  exact (scan_escapeGift _ _).trans clean.scan

theorem scan_digits {digits : Text} (areDigits : ∀ c ∈ digits, c.isDigit = true) :
    scanText (some false) digits = some false := by
  induction digits with
  | nil => rfl
  | cons c digits ih =>
    have visible : isBlank c = false := by
      rw [Bool.eq_false_iff]
      intro isBlank
      have none : ∀ d ∈ [' ', '\t', '\n', '\r', '\x00', '\x0b'], ¬ d.isDigit := by
        simp
      refine none c ?_ (areDigits c mem_cons_self)
      simpa [Gift.isBlank, or_assoc] using isBlank
    rw [scan_visible visible]
    exact ih fun d mem => areDigits d (mem_cons_of_mem _ mem)

theorem scan_percent (pct : Nat) :
    scanText (some true) ("  ".toList ++ (['%'] ++ Nat.toDigits 10 pct ++ ['%'])) = some false := by
  have digits := scan_digits fun c mem => isDigit_of_mem_toDigits (n := pct) mem
  unfold scanText at *
  rw [scan_append, scan_append]
  change scan _ _ (scan _ _ (some false) (Nat.toDigits 10 pct)) ['%'] = some false
  rw [digits]
  rfl

theorem Body.scan_lines {body : Body} (clean : ∀ text ∈ body.texts, Clean text) :
    ∀ line ∈ body.lines, scanText (some true) line = some false := by
  intro line mem
  cases body with
  | options offered =>
    rcases mem_map.mp mem with ⟨option, isOption, rfl⟩
    apply scan_escaped
    · cases option.1 <;> rfl
    · exact clean _ (mem_map_of_mem isOption)
  | weighted offered =>
    rcases mem_map.mp mem with ⟨option, isOption, rfl⟩
    apply scan_escaped
    · cases option.isCorrect
      · rfl
      · exact scan_percent _
    · exact clean _ (mem_map_of_mem isOption)
  | pairs matched =>
    rcases mem_map.mp mem with ⟨pair, isPair, rfl⟩
    have inTexts : ∀ text ∈ [pair.1, pair.2], Clean text := fun text inPair =>
      clean text (mem_flatMap.mpr ⟨pair, isPair, inPair⟩)
    apply scan_escaped
    · have sign : scanText (some true) "  =".toList = some false := rfl
      have left := scan_escaped sign (inTexts pair.1 (by simp))
      unfold scanText at *
      rw [scan_append, left]
      rfl
    · exact inTexts pair.2 (by simp)
  | truth value => cases mem
  | empty => cases mem

theorem scan_joinLines {lines : List Text} (someLine : lines ≠ [])
    (each : ∀ line ∈ lines, scanText (some true) line = some false) :
    scanText (some true) (joinLines lines) = some false := by
  unfold scanText joinLines at *
  induction lines with
  | nil => exact absurd rfl someLine
  | cons first others ih =>
    have isFirst := each first mem_cons_self
    cases others with
    | nil => simpa using isFirst
    | cons second others =>
      rw [intercalate_cons_cons, scan_append, scan_append, isFirst]
      exact ih (cons_ne_nil _ _) fun line mem => each line (mem_cons_of_mem _ mem)

theorem scan_inLines {lines : List Text} (someLine : lines ≠ [])
    (each : ∀ line ∈ lines, scanText (some true) line = some false) :
    scanText (some false) ('\n' :: joinLines lines ++ ['\n'] ++ ['}']) = some false := by
  have inside := scan_joinLines someLine each
  unfold scanText at *
  rw [scan_append, scan_append]
  change scan _ _ (scan _ _ (scan _ _ (some true) (joinLines lines)) ['\n']) ['}'] = some false
  rw [inside]
  rfl

theorem Body.scan_inner {body : Body} (someLine : body.SomeLine)
    (clean : ∀ text ∈ body.texts, Clean text) :
    scanText (some false) (body.inner ++ ['}']) = some false := by
  cases body with
  | options offered =>
    exact scan_inLines (map_eq_nil_iff.mp.mt someLine) (Body.scan_lines clean)
  | weighted offered =>
    exact scan_inLines (map_eq_nil_iff.mp.mt someLine) (Body.scan_lines clean)
  | pairs matched =>
    exact scan_inLines (map_eq_nil_iff.mp.mt someLine) (Body.scan_lines clean)
  | truth value => cases value <;> rfl
  | empty => rfl

/-- What stands before the body of an item. -/
def Item.front (item : Item) : Text :=
  "::".toList ++ item.name.text ++ "::[html]".toList ++ escapeGift item.stem ++ ['{']

section Blocks

variable {item : Item}

theorem Item.scan_front (clean : ∀ text ∈ item.texts, Clean text) :
    scanText (some true) item.front = some false := by
  have cleanName := clean item.name.id mem_cons_self
  have cleanStem := clean item.stem (mem_cons_of_mem _ mem_cons_self)
  have isName : scanText (some false) item.name.text = some false := by
    cases isName : item.name with
    | asIs id =>
      rw [isName] at cleanName
      exact cleanName.scan
    | escaped id =>
      rw [isName] at cleanName
      exact (scan_escapeGift _ _).trans cleanName.scan
  have isStem : scanText (some false) (escapeGift item.stem) = some false :=
    (scan_escapeGift _ _).trans cleanStem.scan
  unfold scanText Item.front at *
  rw [scan_append, scan_append, scan_append]
  change scan _ _ (scan _ _ (scan _ _ (scan _ _ (some false) item.name.text) _) _) _ = _
  rw [isName]
  change scan _ _ (scan _ _ (some false) (escapeGift item.stem)) _ = _
  rw [isStem]
  rfl

theorem Item.blocks_text (someLine : item.body.SomeLine)
    (clean : ∀ text ∈ item.texts, Clean text) :
    blocks '\n' isBlank item.text = [item.text] := by
  have cleanBody : ∀ text ∈ item.body.texts, Clean text := fun text mem =>
    clean text (mem_cons_of_mem _ (mem_cons_of_mem _ mem))
  have inner := Body.scan_inner someLine cleanBody
  have front := Item.scan_front clean
  apply blocks_of_solid
  unfold Solid Item.text
  rw [append_assoc _ item.body.inner]
  unfold scanText Item.front at *
  rw [scan_append, front, inner]

theorem Body.inner_of_noLine {body : Body} (noLine : ¬ body.SomeLine) :
    body.inner = ['\n', '\n'] := by
  cases body with
  | options offered =>
    rw [not_not.mp noLine]
    rfl
  | weighted offered =>
    rw [not_not.mp noLine]
    rfl
  | pairs matched =>
    rw [not_not.mp noLine]
    rfl
  | truth value => exact absurd trivial noLine
  | empty => exact absurd trivial noLine

theorem tokens_after {c : Char} (notSpecial : c ∉ specials) (text rest : Text) :
    ∃ read, tokens (text ++ c :: rest) = read ++ tokens rest := by
  have notBackslash : c ≠ '\\' := by
    rintro rfl
    exact notSpecial (by decide)
  have both : (∃ read, tokensFrom false (text ++ c :: rest) = read ++ tokens rest) ∧
      ∃ read, tokensFrom true (text ++ c :: rest) = read ++ tokens rest := by
    induction text with
    | nil =>
      exact ⟨⟨[⟨c, decide (c ∈ specials)⟩], tokens_cons notBackslash rest⟩,
        ⟨[.plain '\\', .plain c], tokens_backslash notSpecial rest⟩⟩
    | cons d text ih =>
      rcases ih with ⟨⟨read, isRead⟩, ⟨escaped, isEscaped⟩⟩
      constructor
      · by_cases isBackslash : d = '\\'
        · exact ⟨escaped, by simp [tokensFrom, isBackslash, isEscaped]⟩
        · refine ⟨⟨d, decide (d ∈ specials)⟩ :: read, ?_⟩
          simp [tokensFrom, isBackslash, isRead]
      · by_cases isSpecial : d ∈ specials
        · exact ⟨.plain d :: read, by simp [tokensFrom, isSpecial, isRead]⟩
        · exact ⟨.plain '\\' :: .plain d :: read, by simp [tokensFrom, isSpecial, isRead]⟩
  exact both.1

theorem Item.tokens_front (item : Item) : ∃ read, tokens item.front = read ++ [.mark '{'] := by
  rcases tokens_after (c := ']') (by decide)
    ("::".toList ++ item.name.text ++ [':', ':', '[', 'h', 't', 'm', 'l'])
    (escapeGift item.stem ++ ['{']) with ⟨read, isRead⟩
  refine ⟨read ++ literal item.stem, ?_⟩
  have isFront : item.front = "::".toList ++ item.name.text ++ [':', ':', '[', 'h', 't', 'm', 'l'] ++
      ']' :: (escapeGift item.stem ++ ['{']) := by
    unfold Item.front
    simp
  rw [isFront, isRead, tokens_escapeGift, append_assoc]
  rfl

theorem closing_of_readBlock {block : Text} {read : ReadQuestion}
    (isRead : readBlock block = some read) :
    ∃ after, .mark '}' :: after <:+ tokens block ∧ (chars after).all isBlank = true := by
  unfold readBlock at isRead
  simp only [Option.bind_eq_bind, Option.bind_eq_some_iff, Prod.exists] at isRead
  rcases isRead with ⟨name, rest, isNamed, stem, more, isStem, answers, after, isAnswers, _,
    blanks, _⟩
  refine ⟨after, ?_, ?_⟩
  rotate_left
  · by_contra visible
    rw [guard, if_neg visible] at blanks
    cases blanks
  have inMore : Token.mark '}' :: after <:+ more :=
    ⟨answers, (splitAtMark_eq_some isAnswers).symm⟩
  have inRest : more <:+ dropFormat rest :=
    ⟨stem ++ [.mark '{'], by rw [splitAtMark_eq_some isStem]; simp⟩
  have afterName : rest <:+ tokens block := by
    unfold readName at isNamed
    split at isNamed
    · rcases Option.map_eq_some_iff.mp isNamed with ⟨⟨taken, later⟩, isTaken, same⟩
      cases same
      have isSplit := (splitAtPair_eq_some_iff.mp isTaken).1
      exact List.IsSuffix.trans ⟨taken ++ [.mark ':', .mark ':'], by rw [isSplit]; simp⟩
        (drop_suffix 2 _)
    · cases isNamed
      exact suffix_refl _
  exact inMore.trans (inRest.trans ((dropFormat_suffix rest).trans afterName))

theorem Item.front_not_read (item : Item) : readBlock item.front = none := by
  rw [Option.eq_none_iff_forall_not_mem]
  intro read isRead
  rcases closing_of_readBlock isRead with ⟨after, isSuffix, blanks⟩
  rcases item.tokens_front with ⟨before, isFront⟩
  rw [isFront] at isSuffix
  rcases isSuffix with ⟨front, same⟩
  have ends := congrArg List.getLast? same
  rcases eq_nil_or_concat after with rfl | ⟨others, last, rfl⟩
  · simp at ends
  · have isLast : last = .mark '{' := by
      rw [concat_eq_append, ← cons_append, ← append_assoc, List.getLast?_concat,
        List.getLast?_concat] at ends
      exact Option.some.inj ends
    rw [isLast] at blanks
    simp [chars, isBlank] at blanks

/-- Without a line in its body an item is two blocks, and the first is not read. -/
theorem Item.unread_block (noLine : ¬ item.body.SomeLine)
    (clean : ∀ text ∈ item.texts, Clean text) :
    item.front ∈ blocks '\n' isBlank item.text := by
  have isText : item.text = item.front ++ '\n' :: '\n' :: ['}'] := by
    unfold Item.text Item.front
    rw [Body.inner_of_noLine noLine]
    simp
  rw [isText, blocks_append, blocks_of_solid (Item.scan_front clean)]
  exact mem_append_left _ (mem_singleton_self _)

end Blocks

theorem forall₂_mapM_iff {α β : Type} {f : α → Option β} {items : List α} {results : List β} :
    items.mapM f = some results ↔ List.Forall₂ (fun item result => f item = some result)
      items results := by
  induction items generalizing results with
  | nil =>
    rw [forall₂_nil_left_iff]
    exact ⟨fun same => (Option.some.inj same).symm, fun same => congrArg some same.symm⟩
  | cons item items ih =>
    rw [mapM_cons, forall₂_cons_left_iff]
    simp only [Option.bind_eq_bind, Option.bind_eq_some_iff, ih]
    constructor
    · rintro ⟨result, isResult, others, areResults, same⟩
      exact ⟨result, others, isResult, areResults, (Option.some.inj same).symm⟩
    · rintro ⟨result, others, isResult, areResults, rfl⟩
      exact ⟨result, isResult, others, areResults, rfl⟩

theorem exists_forall₂_iff {α β : Type} {relates : α → β → Prop} {items : List α} :
    (∃ results, List.Forall₂ relates items results) ↔ ∀ item ∈ items, ∃ result, relates item result := by
  induction items with
  | nil => simp
  | cons item items ih =>
    rw [forall_mem_cons, ← ih]
    constructor
    · rintro ⟨results, each⟩
      rcases forall₂_cons_left_iff.mp each with ⟨result, others, isResult, areResults, _⟩
      exact ⟨⟨result, isResult⟩, ⟨others, areResults⟩⟩
    · rintro ⟨⟨result, isResult⟩, ⟨others, areResults⟩⟩
      exact ⟨result :: others, .cons isResult areResults⟩

theorem Forall₂.exists_right {α β : Type} {relates : α → β → Prop} {items : List α}
    {results : List β} (each : List.Forall₂ relates items results) {item : α}
    (member : item ∈ items) : ∃ result ∈ results, relates item result := by
  induction each with
  | nil => cases member
  | cons isResult _ ih =>
    rcases mem_cons.mp member with rfl | member
    · exact ⟨_, mem_cons_self, isResult⟩
    · rcases ih member with ⟨result, isIn, relates⟩
      exact ⟨result, mem_cons_of_mem _ isIn, relates⟩

theorem forall₂_and_map {α β γ : Type} {relates : α → β → Prop} {reads : γ → β → Prop}
    {f : α → γ} {items : List α} {results : List β} :
    List.Forall₂ reads (items.map f) results ∧ List.Forall₂ relates items results ↔
      List.Forall₂ (fun item result => reads (f item) result ∧ relates item result)
        items results := by
  rw [forall₂_map_left_iff]
  constructor
  · rintro ⟨each, others⟩
    induction others with
    | nil => exact .nil
    | cons relates _ ih =>
      cases each with
      | cons reads each => exact .cons ⟨reads, relates⟩ (ih each)
  · intro each
    exact ⟨each.imp fun _ _ both => both.1, each.imp fun _ _ both => both.2⟩

/-! ## Exports of quizzes and practice sets -/

/-! ## Texts made of items -/

/-- Reading the text gives one question for each item, in order. -/
def ReadsBack (text : Text) (items : List Item) : Prop :=
  ∃ read, readText text = some read ∧ List.Forall₂ Item.Reads items read

structure Item.Readable (item : Item) : Prop where
  clean : ∀ text ∈ item.texts, Clean text
  name : item.name.Readable
  body : item.body.Readable

theorem Body.Readable.someLine {body : Body} (readable : body.Readable) : body.SomeLine := by
  cases body with
  | options offered => exact readable.1
  | weighted offered =>
    rcases readable with ⟨_, _, rfl, _⟩
    exact cons_ne_nil _ _
  | pairs matched => exact readable.1
  | truth value => trivial
  | empty => trivial

theorem isCategory_front_append (item : Item) (rest : Text) : isCategory (item.front ++ rest) = false := by
  have isColon : ∀ text, trim isBlank (':' :: text) = [] ∨ (trim isBlank (':' :: text)).head? = some ':' := by
    intro text
    have keeps : (':' :: text).dropWhile isBlank = ':' :: text := dropWhile_cons_of_neg (by decide)
    unfold trim
    rw [keeps]
    rcases rdropWhile_prefix isBlank (':' :: text) with ⟨cut, isCut⟩
    cases kept : (':' :: text).rdropWhile isBlank with
    | nil => exact .inl rfl
    | cons c others =>
      rw [kept] at isCut
      injection isCut with isColon
      exact .inr (by rw [isColon]; rfl)
  have isText : ∃ text, item.front ++ rest = ':' :: text := ⟨_, rfl⟩
  rcases isText with ⟨text, isText⟩
  unfold isCategory
  rw [isText]
  rcases isColon text with isNil | isHead
  · rw [isNil]
    rfl
  · cases isTrim : trim isBlank (':' :: text) with
    | nil => rfl
    | cons c others =>
      rw [isTrim] at isHead
      cases isHead
      rfl

theorem isCategory_text (item : Item) : isCategory item.text = false := by
  have isText : item.text = item.front ++ (item.body.inner ++ ['}']) := by
    unfold Item.text Item.front
    simp only [append_assoc]
  rw [isText]
  exact isCategory_front_append item _

theorem isCategory_front (item : Item) : isCategory item.front = false := by
  have whole := isCategory_front_append item []
  rwa [append_nil] at whole

section Whole

variable {text : Text} {before : List Text} {items : List Item}

theorem ReadsBack.clean (readsBack : ReadsBack text items) :
    ∀ item ∈ items, ∀ part ∈ item.texts, Clean part := by
  rcases readsBack with ⟨read, isRead, each⟩
  intro item mem
  rcases Forall₂.exists_right each mem with ⟨question, isQuestion, reads⟩
  rcases Forall₂.exists_right (forall₂_mapM_iff.mp isRead).flip isQuestion with
    ⟨block, isBlock, readsBlock⟩
  have solid := solid_of_mem_blocks (mem_of_mem_filter isBlock)
  exact Item.clean_of_reads reads (clean_of_readBlock solid readsBlock)

theorem readsBack_iff_of_blocks (isText : blocks '\n' isBlank text =
      before ++ items.flatMap fun item => blocks '\n' isBlank item.text) :
    ReadsBack text items ↔
      (∀ block ∈ before, isCategory block = true) ∧ ∀ item ∈ items, item.Readable := by
  have oneBlock (clean : ∀ item ∈ items, ∀ part ∈ item.texts, Clean part)
      (someLine : ∀ item ∈ items, item.body.SomeLine) : questionBlocks text =
        before.filter (! isCategory ·) ++ items.map Item.text := by
    have each : (items.flatMap fun item => blocks '\n' isBlank item.text) = items.map Item.text := by
      rw [map_eq_flatMap]
      apply flatMap_congr
      intro item mem
      exact Item.blocks_text (someLine item mem) (clean item mem)
    unfold questionBlocks
    rw [isText, each, filter_append, append_cancel_left_eq, filter_eq_self]
    intro block mem
    rcases mem_map.mp mem with ⟨item, _, rfl⟩
    rw [isCategory_text]
    rfl
  constructor
  · intro readsBack
    have clean := readsBack.clean
    rcases readsBack with ⟨read, isRead, each⟩
    have someLine : ∀ item ∈ items, item.body.SomeLine := by
      intro item mem
      by_contra noLine
      have isBlock : item.front ∈ questionBlocks text := by
        rw [questionBlocks, mem_filter, isText, isCategory_front]
        refine ⟨mem_append_right _ (mem_flatMap.mpr ⟨item, mem, ?_⟩), rfl⟩
        exact Item.unread_block noLine (clean item mem)
      rcases Forall₂.exists_right (forall₂_mapM_iff.mp isRead) isBlock with ⟨question, _, isRead⟩
      rw [item.front_not_read] at isRead
      cases isRead
    unfold readText at isRead
    rw [oneBlock clean someLine] at isRead
    have reads := forall₂_mapM_iff.mp isRead
    have noOther : before.filter (! isCategory ·) = [] := by
      have length := reads.length_eq
      rw [length_append, length_map, each.length_eq] at length
      exact eq_nil_of_length_eq_zero (by omega)
    rw [noOther] at reads
    constructor
    · intro block mem
      simpa using filter_eq_nil_iff.mp noOther block mem
    · intro item mem
      rcases exists_forall₂_iff.mp ⟨read, forall₂_and_map.mp ⟨reads, each⟩⟩ item mem with
        ⟨question, isRead⟩
      rcases (Item.reads_iff (someLine item mem)
        fun part isPart => (clean item mem part isPart).trimmed).mp ⟨question, isRead⟩ with
        ⟨name, body⟩
      exact ⟨clean item mem, name, body⟩
  · rintro ⟨categoryOnly, readable⟩
    have noOther : before.filter (! isCategory ·) = [] := by
      rw [filter_eq_nil_iff]
      intro block mem
      simp [categoryOnly block mem]
    have eachRead : ∀ item ∈ items, ∃ read, readBlock item.text = some read ∧ item.Reads read := by
      intro item mem
      have isReadable := readable item mem
      exact (Item.reads_iff isReadable.body.someLine
        fun part isPart => (isReadable.clean part isPart).trimmed).mpr
          ⟨isReadable.name, isReadable.body⟩
    rcases exists_forall₂_iff.mpr eachRead with ⟨read, each⟩
    have both := @forall₂_and_map _ _ _ Item.Reads (fun block read => readBlock block = some read)
      Item.text items read
    rcases both.mpr each with ⟨reads, itemReads⟩
    refine ⟨read, ?_, itemReads⟩
    unfold readText
    rw [oneBlock (fun item mem => (readable item mem).clean) (fun item mem => (readable item mem).body.someLine),
      noOther]
    exact forall₂_mapM_iff.mpr reads

end Whole

theorem blocks_nil : blocks '\n' isBlank [] = [] := rfl

theorem blocks_joinLines (line : Text) (lines : List Text) :
    blocks '\n' isBlank (joinLines (line :: [] :: lines)) =
      blocks '\n' isBlank line ++ blocks '\n' isBlank (joinLines lines) := by
  unfold joinLines
  cases lines with
  | nil =>
    rw [intercalate_cons_cons, intercalate_singleton, append_nil,
      blocks_append_newline, intercalate_nil, blocks_nil, append_nil]
  | cons next lines =>
    rw [intercalate_cons_cons, intercalate_cons_cons, nil_append,
      append_assoc, singleton_append, singleton_append, blocks_append]

theorem blocks_questionLines (texts : List (Option Text)) :
    blocks '\n' isBlank (joinLines (questionLines texts)) =
      texts.flatMap fun text => (text.map (blocks '\n' isBlank)).getD [] := by
  induction texts with
  | nil => rfl
  | cons text texts ih =>
    rw [flatMap_cons, ← ih]
    match text with
    | none => rfl
    | some [] =>
      rfl
    | some (c :: rest) =>
      change blocks '\n' isBlank (joinLines ((c :: rest) :: [] :: questionLines texts)) = _
      rw [blocks_joinLines]
      rfl

theorem writeQuestion_eq (name stem : Text) (lines : List Text) :
    writeQuestion name stem lines =
      "::".toList ++ name ++ "::[html]".toList ++ escapeGift stem ++ ['{'] ++
        ('\n' :: joinLines lines ++ ['\n']) ++ ['}'] := by
  unfold writeQuestion
  simp

def Question.items : Question → List Item
  | multipleChoiceSingle id stem options =>
    [⟨.asIs id, stem, .options (options.map MCOption.toPair)⟩]
  | multipleChoiceMultiple id stem options => [⟨.asIs id, stem, .weighted options⟩]
  | trueFalse4Item id items =>
    items.map fun item => ⟨.asIs (itemName id item.id), item.text, .truth item.isTrue⟩
  | shortAnswer id stem correctAnswer acceptableAnswers =>
    [⟨.asIs id, stem,
      .options ((correctAnswer :: acceptableAnswers.getD []).map fun answer => (true, answer))⟩]
  | cloze id passage blanks => [⟨.asIs id, passage, .options (blanks.map fun blank => (true, blank))⟩]
  | matching id instructions leftColumn rightColumn correctMatches =>
    [⟨.asIs id, instructions, .pairs (correctMatches.map fun pair =>
      (columnText leftColumn pair.left, columnText rightColumn pair.right))⟩]
  | essay id prompt => [⟨.asIs id, prompt, .empty⟩]
  | unsupported => []

def MCQuestion.item (question : MCQuestion) : Item :=
  ⟨.asIs question.id, question.prompt,
    .options (question.options.map fun option => (some option.label = question.answer, option.text))⟩

def PracticeItem.item (item : PracticeItem) : Item :=
  ⟨.escaped item.itemId, item.prompt, .options [(true, item.answer)]⟩

theorem blocks_trueFalse4 (id : Text) (items : List TFItem) :
    blocks '\n' isBlank (serializeTrueFalse4 id items) =
      (Question.trueFalse4Item id items).items.flatMap fun item =>
        blocks '\n' isBlank item.text := by
  have isItem (item : TFItem) : writeTruth (itemName id item.id) item.text item.isTrue =
      Item.text ⟨.asIs (itemName id item.id), item.text, .truth item.isTrue⟩ := by
    unfold writeTruth Item.text Body.inner
    simp [ItemName.text]
  change blocks '\n' isBlank (['\n', '\n'].intercalate (items.map fun item =>
      writeTruth (itemName id item.id) item.text item.isTrue)) =
    (items.map fun item =>
      Item.mk (.asIs (itemName id item.id)) item.text (.truth item.isTrue)).flatMap fun item =>
        blocks '\n' isBlank item.text
  induction items with
  | nil => rfl
  | cons item items ih =>
    rw [map_cons, map_cons, flatMap_cons, ← ih, ← isItem]
    cases items with
    | nil =>
      rw [map_nil, intercalate_singleton, intercalate_nil, blocks_nil,
        append_nil]
    | cons next items =>
      rw [map_cons, intercalate_cons_cons, append_assoc, cons_append,
        singleton_append, blocks_append]

theorem blocks_serializeQuestion (question : Question) :
    ((serializeQuestion question).map (blocks '\n' isBlank)).getD [] =
      question.items.flatMap fun item => blocks '\n' isBlank item.text := by
  have single {text : Text} {item : Item} (isText : text = item.text) :
      blocks '\n' isBlank text = [item].flatMap fun item => blocks '\n' isBlank item.text := by
    rw [isText, flatMap_singleton]
  cases question with
  | multipleChoiceSingle id stem options =>
    apply single
    rw [serializeMCSingle, writeQuestion_eq]
    simp only [Item.text, Body.inner, Body.lines, map_map, Function.comp_def, MCOption.toPair,
      ItemName.text]
  | multipleChoiceMultiple id stem options =>
    apply single
    rw [serializeMCMultiple, writeQuestion_eq]
    rfl
  | trueFalse4Item id items => exact blocks_trueFalse4 id items
  | shortAnswer id stem correctAnswer acceptableAnswers =>
    apply single
    rw [serializeShortAnswer, writeQuestion_eq]
    simp only [Item.text, Body.inner, Body.lines, map_map, Function.comp_def, ItemName.text]
  | cloze id passage blanks =>
    apply single
    rw [serializeCloze, writeQuestion_eq]
    simp only [Item.text, Body.inner, Body.lines, map_map, Function.comp_def, ItemName.text]
  | matching id instructions leftColumn rightColumn correctMatches =>
    apply single
    rw [serializeMatching, writeQuestion_eq]
    simp only [Item.text, Body.inner, Body.lines, map_map, Function.comp_def, ItemName.text]
  | essay id prompt =>
    apply single
    unfold serializeEssay Item.text Body.inner
    simp [ItemName.text]
  | unsupported => rfl

/-- A category line whose text has no block of its own. -/
def CategoryOnly (category : Text) : Prop :=
  ∀ block ∈ blocks '\n' isBlank (categoryLine category), isCategory block = true

theorem isCategory_categoryLine (category : Text) : isCategory (categoryLine category) = true := by
  have isLine : categoryLine category = "$CATEGORY".toList ++ [':'] ++ ' ' :: category := rfl
  have isPrefix : ∃ more, (categoryLine category).rdropWhile isBlank =
      "$CATEGORY".toList ++ [':'] ++ more := by
    rw [isLine, List.rdropWhile, reverse_append, dropWhile_append]
    split
    · refine ⟨[], ?_⟩
      rw [reverse_append, reverse_singleton, singleton_append,
        dropWhile_cons_of_neg (by decide)]
      simp
    · exact ⟨_, by rw [reverse_append, reverse_reverse]⟩
  rcases isPrefix with ⟨more, isMore⟩
  have keeps : (categoryLine category).dropWhile isBlank = categoryLine category :=
    dropWhile_cons_of_neg (by decide)
  unfold isCategory trim
  rw [keeps, isMore, isPrefixOf_iff_prefix]
  exact ⟨more, rfl⟩

theorem categoryOnly_of_line {category : Text} (oneLine : '\n' ∉ category) :
    CategoryOnly category := by
  have inLine (text : Text) (oneLine : '\n' ∉ text) :
      scanText (some false) text = some false := by
    induction text with
    | nil => rfl
    | cons c text ih =>
      rw [mem_cons, not_or] at oneLine
      have step : scanStep '\n' isBlank (some false) c = some false := by
        simp [scanStep, Ne.symm oneLine.1]
      unfold scanText at ih ⊢
      rw [scan_cons, step, ih oneLine.2]
  have solid : Solid '\n' isBlank (categoryLine category) := inLine category oneLine
  intro block mem
  rw [blocks_of_solid solid, mem_singleton] at mem
  rw [mem]
  exact isCategory_categoryLine category

theorem not_mem_underscoreSpaces (inSpaces : Bool) (title : Text) :
    '\n' ∉ underscoreSpaces inSpaces title := by
  induction title generalizing inSpaces with
  | nil => exact not_mem_nil
  | cons c title ih =>
    rw [underscoreSpaces]
    split
    · split
      · exact ih true
      · rw [mem_cons, not_or]
        exact ⟨by decide, ih true⟩
    · next notSpace =>
      rw [mem_cons, not_or]
      refine ⟨?_, ih false⟩
      rintro rfl
      exact notSpace (by decide)

/-! ## Exports read back -/

theorem giftExport_readsBack_iff (questions : List Question) (category : Option Text) :
    ReadsBack (giftExport questions category) (questions.flatMap Question.items) ↔
      (∀ name ∈ category, CategoryOnly name) ∧
        ∀ question ∈ questions, ∀ item ∈ question.items, item.Readable := by
  have isQuestions : blocks '\n' isBlank (joinLines (questionLines (questions.map serializeQuestion))) =
      (questions.flatMap Question.items).flatMap fun item => blocks '\n' isBlank item.text := by
    rw [blocks_questionLines, flatMap_map, flatMap_assoc]
    exact flatMap_congr fun question _ => blocks_serializeQuestion question
  have items : (∀ item ∈ questions.flatMap Question.items, item.Readable) ↔
      ∀ question ∈ questions, ∀ item ∈ question.items, item.Readable := by
    simp only [mem_flatMap, forall_exists_index, and_imp]
    exact ⟨fun each question mem item isItem => each item question mem isItem,
      fun each item question mem isItem => each question mem item isItem⟩
  rw [← items]
  rcases category with _ | _ | ⟨c, rest⟩
  · have whole : blocks '\n' isBlank (giftExport questions none) = [] ++ _ := isQuestions
    rw [readsBack_iff_of_blocks whole]
    exact and_congr_left' (iff_of_true (forall_mem_nil _) (by rintro _ ⟨⟩))
  · have whole : blocks '\n' isBlank (giftExport questions (some [])) = [] ++ _ := isQuestions
    rw [readsBack_iff_of_blocks whole]
    refine and_congr_left' (iff_of_true (forall_mem_nil _) ?_)
    rintro _ ⟨⟩
    exact categoryOnly_of_line not_mem_nil
  · have whole : blocks '\n' isBlank (giftExport questions (some (c :: rest))) =
        blocks '\n' isBlank (categoryLine (c :: rest)) ++
          (questions.flatMap Question.items).flatMap fun item => blocks '\n' isBlank item.text := by
      rw [← isQuestions]
      exact blocks_joinLines _ _
    rw [readsBack_iff_of_blocks whole]
    exact and_congr_left' (by simp [CategoryOnly])

theorem blocks_flatMap {β : Type} (line : β → Text) (items : List β) :
    blocks '\n' isBlank (joinLines (items.flatMap fun item => [line item, []])) =
      items.flatMap fun item => blocks '\n' isBlank (line item) := by
  induction items with
  | nil => rfl
  | cons item items ih =>
    rw [flatMap_cons, flatMap_cons, cons_append, cons_append, nil_append,
      blocks_joinLines, ih]

theorem exportQuiz_readsBack_iff (quiz : QuizData) :
    ReadsBack (exportQuiz quiz) (quiz.questions.map MCQuestion.item) ↔
      ∀ question ∈ quiz.questions, question.item.Readable := by
  have isItem (question : MCQuestion) :
      serializeQuizQuestion question = question.item.text := by
    rw [serializeQuizQuestion, writeQuestion_eq]
    simp only [Item.text, MCQuestion.item, Body.inner, Body.lines, map_map, Function.comp_def,
      ItemName.text]
  have whole : blocks '\n' isBlank (exportQuiz quiz) =
      blocks '\n' isBlank (categoryLine (underscoreSpaces false quiz.title)) ++
        (quiz.questions.map MCQuestion.item).flatMap fun item => blocks '\n' isBlank item.text := by
    unfold exportQuiz
    rw [blocks_joinLines, blocks_flatMap, flatMap_map]
    simp only [isItem]
  have categoryOnly := categoryOnly_of_line (not_mem_underscoreSpaces false quiz.title)
  rw [readsBack_iff_of_blocks whole, forall_mem_map]
  exact and_iff_right categoryOnly

theorem joinLines_three (first second third : Text) (lines : List Text) :
    joinLines (first :: second :: third :: lines) =
      joinLines ((first ++ '\n' :: (second ++ '\n' :: third)) :: lines) := by
  unfold joinLines
  cases lines with
  | nil => simp
  | cons next lines => simp [intercalate_cons_cons]

theorem practiceGift_readsBack_iff (clusterId : Text) (items : List PracticeItem) :
    ReadsBack (practiceGift clusterId items) (items.map PracticeItem.item) ↔
      CategoryOnly ("oh-my-class/".toList ++ giftEscape clusterId) ∧
        ∀ item ∈ items, item.item.Readable := by
  have isItem (item : PracticeItem) :
      ("::".toList ++ giftEscape item.itemId ++ "::[html]".toList ++ giftEscape item.prompt ++ ['{']) ++
        '\n' :: (("  =".toList ++ giftEscape item.answer) ++ '\n' :: ['}']) = item.item.text := by
    unfold Item.text PracticeItem.item Body.inner
    simp only [Body.lines, joinLines, writeSigned, ItemName.text, giftEscape_eq, map_cons,
      map_nil, intercalate_singleton, if_true]
    simp
  have isItems (items : List PracticeItem) :
      blocks '\n' isBlank (joinLines (items.flatMap fun item =>
        ["::".toList ++ giftEscape item.itemId ++ "::[html]".toList ++ giftEscape item.prompt ++ ['{'],
          "  =".toList ++ giftEscape item.answer, ['}'], []])) =
      items.flatMap fun item => blocks '\n' isBlank item.item.text := by
    induction items with
    | nil => rfl
    | cons item items ih =>
      rw [flatMap_cons, flatMap_cons, cons_append, cons_append,
        cons_append, cons_append, nil_append, joinLines_three, isItem,
        blocks_joinLines, ih]
  have whole : blocks '\n' isBlank (practiceGift clusterId items) =
      blocks '\n' isBlank (categoryLine ("oh-my-class/".toList ++ giftEscape clusterId)) ++
        (items.map PracticeItem.item).flatMap fun item => blocks '\n' isBlank item.text := by
    unfold practiceGift
    rw [blocks_joinLines, isItems, flatMap_map]
  rw [readsBack_iff_of_blocks whole, forall_mem_map]
  rfl

/-- The exports of both writers are read back exactly if the category has no
block of its own and each item has clean texts, a readable name and a readable
body. -/
theorem exports_readsBack_iff (questions : List Question) (category : Option Text)
    (quiz : QuizData) (clusterId : Text) (items : List PracticeItem) :
    (ReadsBack (giftExport questions category) (questions.flatMap Question.items) ↔
      (∀ name ∈ category, CategoryOnly name) ∧
        ∀ question ∈ questions, ∀ item ∈ question.items, item.Readable) ∧
    (ReadsBack (exportQuiz quiz) (quiz.questions.map MCQuestion.item) ↔
      ∀ question ∈ quiz.questions, question.item.Readable) ∧
    (ReadsBack (practiceGift clusterId items) (items.map PracticeItem.item) ↔
      CategoryOnly ("oh-my-class/".toList ++ giftEscape clusterId) ∧
        ∀ item ∈ items, item.item.Readable) :=
  ⟨giftExport_readsBack_iff questions category, exportQuiz_readsBack_iff quiz,
    practiceGift_readsBack_iff clusterId items⟩

/-- Which of these numbers are prime? -/
def primes : Question :=
  .multipleChoiceMultiple "mc-002".toList "Which are prime numbers?".toList
    [⟨['2'], true⟩, ⟨['4'], false⟩, ⟨['3'], true⟩, ⟨['6'], false⟩]

/-- The second correct option is read as part of the wrong one before it. -/
theorem primes_not_readBack : ¬ ReadsBack (giftExport [primes] none) primes.items := by
  intro readsBack
  have readable := ((giftExport_readsBack_iff [primes] none).mp readsBack).2 primes
    mem_cons_self _ mem_cons_self
  rcases readable.body with ⟨correct, wrong, isOffered, _, others, _⟩
  injection isOffered with _ isWrong
  have notWrong := (others ⟨['3'], true⟩ (isWrong ▸ by simp)).1
  cases notWrong

end OhMyClass.Gift
