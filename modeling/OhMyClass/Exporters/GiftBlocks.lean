import OhMyClass.Exporters.GiftBodies

/-!
# Blocks of an export

An item whose texts are trimmed is read back from its block exactly if its
name and its body are readable.
-/

namespace OhMyClass.Gift

open List

section

open OhMyClass.Text

variable {c : Char} {before : List Token}

theorem splitAtMark_append (free : ∀ token ∈ before, token ≠ .mark c) (after : List Token) :
    splitAtMark c (before ++ .mark c :: after) = some (before, after) := by
  induction before with
  | nil => simp [splitAtMark]
  | cons token before ih =>
    rw [cons_append, splitAtMark, if_neg (free token mem_cons_self),
      ih fun other mem => free other (mem_cons_of_mem _ mem)]
    rfl

variable {read after : List Token}

theorem splitAtMark_eq_some (split : splitAtMark c read = some (before, after)) :
    read = before ++ .mark c :: after := by
  induction read generalizing before with
  | nil => cases split
  | cons token read ih =>
    rw [splitAtMark] at split
    split at split
    · next isMark =>
      cases split
      rw [isMark]
      rfl
    · rcases Option.map_eq_some_iff.mp split with ⟨⟨front, back⟩, isSplit, same⟩
      cases same
      rw [ih isSplit]
      rfl

variable {text : Text}

theorem literal_ne_mark (notColon : c ≠ ':') :
    ∀ token ∈ literal text, token ≠ .mark c :=
  not_mark_of_mem_literal notColon

theorem Entry.line_ne_brace {entry : Entry} (free : ∀ token ∈ entry.read, token ≠ .mark '}') :
    ∀ token ∈ entry.line, token ≠ .mark '}' := by
  intro token member isBrace
  subst isBrace
  rw [Entry.line, mem_append, mem_cons] at member
  rcases member with member | isSign | member
  · revert member
    decide
  · injection isSign with sameChar
    rcases entry.isSign with isSign | isSign <;>
      · rw [isSign] at sameChar
        revert sameChar
        decide
  · exact free _ member rfl

theorem entryTokens_ne_brace {entries : List Entry}
    (free : ∀ entry ∈ entries, ∀ token ∈ entry.read, token ≠ .mark '}') :
    ∀ token ∈ entryTokens entries, token ≠ .mark '}' := by
  intro token member
  rcases mem_append.mp member with member | member
  · rcases mem_flatMap.mp member with ⟨entry, isEntry, inLine⟩
    exact entry.line_ne_brace (free entry isEntry) token inLine
  · rw [mem_singleton.mp member]
    simp

theorem percentTokens_ne_mark (pct : Nat) (c : Char) :
    ∀ token ∈ percentTokens pct, token ≠ .mark c := by
  intro token mem
  simp only [percentTokens, cons_append, mem_cons, mem_append, mem_map,
    not_mem_nil, or_false] at mem
  rcases mem with rfl | ⟨d, _, rfl⟩ | rfl <;> simp

theorem Body.tokens_ne_brace (body : Body) : ∀ token ∈ body.tokens, token ≠ .mark '}' := by
  cases body with
  | options offered =>
    apply entryTokens_ne_brace
    intro entry member
    rcases mem_map.mp member with ⟨option, _, rfl⟩
    exact literal_ne_mark (by decide)
  | weighted offered =>
    intro token member
    rcases mem_append.mp member with member | member
    · rcases mem_flatMap.mp member with ⟨option, _, inLine⟩
      rw [weightedTokens, mem_cons, mem_append, mem_append] at inLine
      rcases inLine with rfl | (inGap | inSign) | inText
      · simp
      · have each : ∀ token ∈ [Token.plain ' ', .plain ' '], token ≠ .mark '}' := by decide
        exact each token inGap
      · cases isCorrect : option.isCorrect with
        | true =>
          rw [isCorrect] at inSign
          exact percentTokens_ne_mark _ _ token inSign
        | false =>
          rw [isCorrect] at inSign
          rw [mem_singleton.mp inSign]
          decide
      · exact literal_ne_mark (by decide) token inText
    · rw [mem_singleton.mp member]
      simp
  | pairs matched =>
    apply entryTokens_ne_brace
    intro entry member
    rcases mem_map.mp member with ⟨pair, _, rfl⟩
    intro token inRead
    rw [pairEntry, mem_append, mem_append] at inRead
    rcases inRead with (inLeft | inArrow) | inRight
    · exact literal_ne_mark (by decide) token inLeft
    · revert token
      decide
    · exact literal_ne_mark (by decide) token inRight
  | truth value => cases value <;> decide
  | empty => decide

theorem visible_head_tokens {token : Token} (visible : ∀ c, text.head? = some c → isBlank c = false)
    (isHead : (tokens text).head? = some token) : isBlank token.char = false := by
  cases text with
  | nil => cases isHead
  | cons c text =>
    by_cases isBackslash : c = '\\'
    · subst isBackslash
      cases text with
      | nil =>
        cases isHead
        decide
      | cons d text =>
        by_cases isSpecial : d ∈ specials
        · rw [tokens_escaped isSpecial] at isHead
          cases isHead
          have each : ∀ d ∈ specials, isBlank d = false := by simp [specials, isBlank]
          exact each d isSpecial
        · rw [tokens_backslash isSpecial] at isHead
          cases isHead
          decide
    · rw [tokens_cons isBackslash] at isHead
      cases isHead
      exact visible c rfl

variable {name : ItemName}

theorem ItemName.visible_head (trimmed : Trimmed isBlank name.id) (someName : name.id ≠ [])
    (rest : Text) :
    ∀ c, (name.text ++ rest).head? = some c → isBlank c = false := by
  intro c isHead
  cases name with
  | asIs id =>
    cases id with
    | nil => exact absurd rfl someName
    | cons d id => exact trimmed.head c isHead
  | escaped id =>
    cases id with
    | nil => exact absurd rfl someName
    | cons d id =>
      rw [text, giftEscape_eq, escapeGift_cons, escapeChar] at isHead
      split at isHead
      · cases isHead
        decide
      · cases isHead
        exact trimmed.head _ rfl

theorem ItemName.begins_of_trim (trimmed : Trimmed isBlank name.id) {rest : Text}
    (taken : takeName (tokens (name.text ++ ':' :: ':' :: rest)) = some (read, after))
    (isName : trim isBlank (chars read) = name.id) : ∃ more, chars read = name.id ++ more := by
  by_cases someName : name.id = []
  · exact ⟨chars read, by rw [someName]; rfl⟩
  · cases read with
    | nil => exact ⟨[], by rw [← isName]; rfl⟩
    | cons token read =>
      have isHead : (tokens (name.text ++ ':' :: ':' :: rest)).head? = some token := by
        rw [(splitAtPair_eq_some_iff.mp taken).1]
        rfl
      have visible := visible_head_tokens (name.visible_head trimmed someName _) isHead
      have keeps : (chars (token :: read)).dropWhile isBlank = chars (token :: read) := by
        change (token.char :: chars read).dropWhile isBlank = _
        rw [dropWhile_cons_of_neg]
        · rfl
        · rw [visible]
          exact Bool.false_ne_true
      have isPrefix := rdropWhile_prefix isBlank (chars (token :: read))
      unfold trim at isName
      rw [keeps] at isName
      rw [isName] at isPrefix
      rcases isPrefix with ⟨more, same⟩
      exact ⟨more, same.symm⟩

/-! ## Items -/

section Items

variable {item : Item}

def Item.afterName (item : Item) : Text :=
  "[html]".toList ++ (escapeGift item.stem ++ '{' :: (item.body.inner ++ ['}']))

theorem Item.text_eq (item : Item) :
    item.text = ':' :: ':' :: (item.name.text ++ ':' :: ':' :: item.afterName) := by
  unfold Item.text Item.afterName
  simp

theorem Item.tokens_afterName (someLine : item.body.SomeLine) :
    dropFormat (tokens item.afterName) =
      literal item.stem ++ .mark '{' :: (item.body.tokens ++ [.mark '}']) := by
  have inside : tokens (item.body.inner ++ ['}']) = item.body.tokens ++ [.mark '}'] :=
    Body.tokens_inner someLine []
  have whole : tokens item.afterName = "[html]".toList.map Token.plain ++
      (literal item.stem ++ .mark '{' :: (item.body.tokens ++ [.mark '}'])) := by
    unfold Item.afterName
    rw [← inside]
    have format : "[html]".toList = ['[', 'h', 't', 'm', 'l', ']'] := rfl
    rw [format]
    simp only [cons_append, nil_append, map_cons, map_nil]
    rw [tokens_cons (by decide), tokens_cons (by decide), tokens_cons (by decide),
      tokens_cons (by decide), tokens_cons (by decide), tokens_cons (by decide), tokens_escapeGift]
    rfl
  rw [whole]
  rfl

theorem readName_text (item : Item) : readName (tokens item.text) =
    (takeName (tokens (item.name.text ++ ':' :: ':' :: item.afterName))).map
      fun (name, rest) => (trim isBlank (chars name), rest) := by
  rw [item.text_eq]
  rfl

theorem readBlock_text (someLine : item.body.SomeLine) (readable : item.name.Readable)
    (trimmedName : Trimmed isBlank item.name.id) (trimmedStem : Trimmed isBlank item.stem) :
    readBlock item.text = some ⟨item.name.id, item.stem, readAnswers item.body.tokens⟩ := by
  rcases ItemName.takeName_of_readable readable item.afterName with ⟨read, taken, isName⟩
  have isNamed : readName (tokens item.text) = some (item.name.id, tokens item.afterName) := by
    rw [readName_text, taken]
    simp only [Option.map_some, isName, trim_of_trimmed trimmedName]
  have free : ∀ token ∈ literal item.stem, token ≠ .mark '{' := literal_ne_mark (by decide)
  have stem := splitAtMark_append free (item.body.tokens ++ [.mark '}'])
  have body := splitAtMark_append item.body.tokens_ne_brace []
  unfold readBlock
  simp only [isNamed, Option.bind_eq_bind, Option.bind_some, Item.tokens_afterName someLine, stem,
    body, chars_literal, trim_of_trimmed trimmedStem]
  rfl

theorem readable_of_reads {read : ReadQuestion} (trimmedName : Trimmed isBlank item.name.id)
    (isRead : readBlock item.text = some read) (isName : read.name = item.name.id) :
    item.name.Readable := by
  unfold readBlock at isRead
  simp only [Option.bind_eq_bind, Option.bind_eq_some_iff, Prod.exists] at isRead
  rcases isRead with ⟨name, rest, isNamed, stem, _, _, answers, _, _, _, _, isQuestion⟩
  rw [readName_text] at isNamed
  rcases Option.map_eq_some_iff.mp isNamed with ⟨⟨taken, after⟩, isTaken, same⟩
  have isTrim : trim isBlank (chars taken) = item.name.id := by
    injection same with sameName _
    rw [sameName, ← isName]
    injection isQuestion with isQuestion
    rw [← isQuestion]
  rcases ItemName.begins_of_trim trimmedName isTaken isTrim with ⟨more, begins⟩
  exact ItemName.readable_of_takeName isTaken begins

theorem Item.reads_iff (someLine : item.body.SomeLine)
    (trimmed : ∀ text ∈ item.texts, Trimmed isBlank text) :
    (∃ read, readBlock item.text = some read ∧ item.Reads read) ↔
      item.name.Readable ∧ item.body.Readable := by
  have trimmedName := trimmed item.name.id mem_cons_self
  have trimmedStem := trimmed item.stem (mem_cons_of_mem _ mem_cons_self)
  have trimmedBody : ∀ text ∈ item.body.texts, Trimmed isBlank text := fun text mem =>
    trimmed text (mem_cons_of_mem _ (mem_cons_of_mem _ mem))
  have answers := Body.reads_iff someLine trimmedBody
  constructor
  · rintro ⟨read, isRead, reads⟩
    have readable := readable_of_reads trimmedName isRead reads.name
    rw [readBlock_text someLine readable trimmedName trimmedStem] at isRead
    cases isRead
    exact ⟨readable, answers.mp reads.answers⟩
  · rintro ⟨readable, readableBody⟩
    exact ⟨_, readBlock_text someLine readable trimmedName trimmedStem,
      rfl, rfl, answers.mpr readableBody⟩

end Items

end

/-!
## Clean texts

A reader trims what it reads and ends a question at a blank line, so that only
texts without blanks at their ends and blank lines inside are read back.
-/

section

open OhMyClass.Text

/-- A text without blanks at its ends and without blank lines inside. -/
structure Clean (text : Text) : Prop where
  trimmed : Trimmed isBlank text
  unbroken : Unbroken '\n' isBlank text

abbrev scanText (start : Option Bool) (text : Text) : Option Bool := scan '\n' isBlank start text

variable {c : Char}

theorem scan_visible (visible : isBlank c = false) (blankSoFar : Bool) (text : Text) :
    scanText (some blankSoFar) (c :: text) = scanText (some false) text := by
  have notNewline : c ≠ '\n' := by
    rintro rfl
    revert visible
    decide
  unfold scanText
  rw [scan_cons, scanStep_visible notNewline visible]

theorem visible_special (isSpecial : c ∈ specials) : isBlank c = false := by
  have each : ∀ c ∈ specials, isBlank c = false := by simp [specials, isBlank]
  exact each c isSpecial

variable {text : Text}

theorem Clean.scan (clean : Clean text) :
    scanText (some false) text = some false :=
  scan_of_trimmed clean.trimmed clean.unbroken (by decide)

theorem scan_escapeGift (start : Option Bool) (text : Text) :
    scanText start (escapeGift text) = scanText start text := by
  cases start with
  | none => simp [scanText]
  | some blankSoFar =>
    induction text generalizing blankSoFar with
    | nil => rfl
    | cons c text ih =>
      rw [escapeGift_cons, escapeChar]
      split
      · next escaped =>
        have visible : ∀ c ∈ ['\\', '~', '=', '{', '}', '#'], isBlank c = false := by
          simp [isBlank]
        rw [cons_append, scan_visible (by decide), cons_append, nil_append,
          scan_visible (visible c escaped), scan_visible (visible c escaped), ih]
      · rw [singleton_append]
        unfold scanText at ih ⊢
        rw [scan_cons, scan_cons]
        cases next : scanStep '\n' isBlank (some blankSoFar) c with
        | none => rw [scan_none, scan_none]
        | some later => exact ih later

theorem scan_tokens (start : Option Bool) (text : Text) :
    scanText start (chars (tokens text)) = scanText start text := by
  have both (text : Text) (start : Option Bool) :
      scanText start (chars (tokensFrom false text)) = scanText start text ∧
      scanText start (chars (tokensFrom true text)) = scanText start ('\\' :: text) := by
    induction text generalizing start with
    | nil => exact ⟨rfl, rfl⟩
    | cons c text ih =>
      constructor
      · by_cases isBackslash : c = '\\'
        · subst isBackslash
          exact (ih start).2
        · rw [show tokensFrom false (c :: text) = _ from tokens_cons isBackslash text]
          exact (ih _).1
      · cases start with
        | none => simp [scanText]
        | some blankSoFar =>
          rw [scan_visible (by decide)]
          by_cases isSpecial : c ∈ specials
          · rw [show tokensFrom true (c :: text) = _ from tokens_escaped isSpecial text]
            change scanText _ (c :: chars (tokens text)) = _
            rw [scan_visible (visible_special isSpecial), scan_visible (visible_special isSpecial),
              (ih _).1]
          · rw [show tokensFrom true (c :: text) = _ from tokens_backslash isSpecial text]
            exact (ih _).1
  exact (both text start).1

/-! ## What is read is clean -/

/-- No line inside of what the tokens stand for is blank. -/
def UnbrokenTokens (read : List Token) : Prop := Unbroken '\n' isBlank (chars read)

theorem UnbrokenTokens.ofPart {read part : List Token} (unbroken : UnbrokenTokens read)
    (within : part <:+: read) : UnbrokenTokens part :=
  Unbroken.ofPart unbroken (within.map _)

variable {block : Text}

theorem unbrokenTokens_of_solid (solid : Solid '\n' isBlank block) :
    UnbrokenTokens (tokens block) := by
  have unbroken := solid.unbroken
  unfold UnbrokenTokens Unbroken at *
  rw [show scan '\n' isBlank _ (chars (tokens block)) = _ from scan_tokens (some false) block]
  exact unbroken

theorem clean_trim (unbroken : Unbroken '\n' isBlank text) :
    Clean (trim isBlank text) :=
  ⟨trimmed_trim text, unbroken.ofPart (trim_isInfix text)⟩

def Answer.texts : Answer → List Text
  | choice _ text => [text]
  | pair left right => [left, right]
  | truth _ => []

theorem clean_readAnswer {someWrong : Bool} {weight : ℚ} (clean : Clean text) :
    ∀ part ∈ (readAnswer someWrong weight text).texts, Clean part := by
  unfold readAnswer
  split
  · next left right isPair =>
    have split : splitArrow text = some (left, right) := by
      cases someWrong with
      | true => cases isPair
      | false => exact isPair
    have isText := (splitAtPair_eq_some_iff.mp split).1
    have beforeArrow : left <:+: text := ⟨[], '-' :: '>' :: right, by rw [isText]; simp⟩
    have afterArrow : right <:+: text := ⟨left ++ ['-', '>'], [], by rw [isText]; simp⟩
    intro part mem
    simp only [Answer.texts, mem_cons, not_mem_nil, or_false] at mem
    rcases mem with rfl | rfl
    · exact clean_trim (clean.unbroken.ofPart beforeArrow)
    · exact clean_trim (clean.unbroken.ofPart afterArrow)
  · split
    · next given rest taken =>
      have within : rest <:+: text := by
        rcases takeWeight_suffix taken with ⟨c, isSuffix⟩
        exact ((suffix_cons c rest).trans (isSuffix.trans (tail_suffix text))).isInfix
      intro part mem
      rw [Answer.texts, mem_singleton] at mem
      rw [mem]
      exact clean_trim (clean.unbroken.ofPart within)
    · intro part mem
      rw [Answer.texts, mem_singleton] at mem
      rw [mem]
      exact clean

theorem clean_answerText {read : List Token} (unbroken : UnbrokenTokens read) :
    Clean (answerText read) :=
  clean_trim (unbroken.ofPart ( takeWhile_prefix _).isInfix)

theorem splitSigns_isInfix (read : List Token) :
    (splitSigns read).1 <+: read ∧ ∀ answer ∈ (splitSigns read).2, answer.2 <:+: read := by
  induction read with
  | nil => exact ⟨ nil_prefix, nofun⟩
  | cons token read ih =>
    rcases ih with ⟨lead, answers⟩
    simp only [splitSigns]
    by_cases isSign : token = .mark '~' ∨ token = .mark '='
    · rw [if_pos isSign]
      refine ⟨ nil_prefix, fun answer member => ?_⟩
      rcases mem_cons.mp member with rfl | member
      · exact lead.isInfix.trans (suffix_cons _ _).isInfix
      · exact (answers answer member).trans (suffix_cons _ _).isInfix
    · rw [if_neg isSign]
      exact ⟨cons_prefix_cons.mpr ⟨rfl, lead⟩,
        fun answer member => (answers answer member).trans (suffix_cons _ _).isInfix⟩

theorem clean_readAnswers {read : List Token} (unbroken : UnbrokenTokens read) :
    ∀ answer ∈ readAnswers read, ∀ part ∈ answer.texts, Clean part := by
  rcases splitSigns_isInfix read with ⟨lead, answers⟩
  have cleanLead := clean_answerText (unbroken.ofPart lead.isInfix)
  have cleanSigned (someWrong : Bool) : ∀ answer ∈ (splitSigns read).2.map fun signed =>
      readAnswer someWrong (if signed.1 = '=' then 100 else 0) (answerText signed.2),
      ∀ part ∈ answer.texts, Clean part := by
    intro answer member
    rcases mem_map.mp member with ⟨signed, isSigned, rfl⟩
    exact clean_readAnswer (clean_answerText (unbroken.ofPart (answers _ isSigned)))
  unfold readAnswers
  simp only
  split
  · exact cleanSigned _
  · split
    · intro answer member
      rw [mem_singleton.mp member]
      rintro _ ⟨⟩
    · intro answer member
      rcases mem_cons.mp member with rfl | member
      · exact clean_readAnswer cleanLead
      · exact cleanSigned _ answer member

def ReadQuestion.texts (read : ReadQuestion) : List Text :=
  read.name :: read.stem :: read.answers.flatMap Answer.texts

theorem UnbrokenTokens.readName {read rest : List Token} {name : Text}
    (unbroken : UnbrokenTokens read) (isNamed : Gift.readName read = some (name, rest)) :
    Clean name ∧ UnbrokenTokens rest := by
  unfold Gift.readName at isNamed
  split at isNamed
  · rcases Option.map_eq_some_iff.mp isNamed with ⟨⟨taken, after⟩, isTaken, same⟩
    cases same
    have isSplit := (splitAtPair_eq_some_iff.mp isTaken).1
    have dropped : read.drop 2 <:+: read := (drop_suffix 2 read).isInfix
    have isBefore : taken <:+: read := List.IsInfix.trans
      ⟨[], .mark ':' :: .mark ':' :: rest, by rw [isSplit]; simp⟩ dropped
    have isAfter : rest <:+: read := List.IsInfix.trans
      ⟨taken ++ [.mark ':', .mark ':'], [], by rw [isSplit]; simp⟩ dropped
    exact ⟨clean_trim (unbroken.ofPart isBefore), unbroken.ofPart isAfter⟩
  · cases isNamed
    exact ⟨⟨Trimmed.nil, nofun⟩, unbroken⟩

theorem dropFormat_suffix (read : List Token) : dropFormat read <:+ read := by
  unfold dropFormat
  split
  · exact drop_suffix _ _
  · exact suffix_refl _

theorem UnbrokenTokens.splitAtMark {read before after : List Token} (unbroken : UnbrokenTokens read)
    (isSplit : Gift.splitAtMark c read = some (before, after)) :
    UnbrokenTokens before ∧ UnbrokenTokens after := by
  have whole := splitAtMark_eq_some isSplit
  exact ⟨unbroken.ofPart ⟨[], .mark c :: after, by rw [whole]; rfl⟩,
    unbroken.ofPart ⟨before ++ [.mark c], [], by rw [whole]; simp⟩⟩

theorem clean_of_readBlock {read : ReadQuestion} (solid : Solid '\n' isBlank block)
    (isRead : readBlock block = some read) :
    ∀ text ∈ read.texts, Clean text := by
  unfold readBlock at isRead
  simp only [Option.bind_eq_bind, Option.bind_eq_some_iff, Prod.exists] at isRead
  rcases isRead with ⟨name, rest, isNamed, stem, more, isStem, answers, after, isAnswers, _, _,
    isQuestion⟩
  rcases (unbrokenTokens_of_solid solid).readName isNamed with ⟨cleanName, unbroken⟩
  rcases (unbroken.ofPart (dropFormat_suffix rest).isInfix).splitAtMark isStem with
    ⟨unbrokenStem, unbroken⟩
  have unbrokenAnswers := (unbroken.splitAtMark isAnswers).1
  injection isQuestion with isQuestion
  subst isQuestion
  intro text member
  rw [ReadQuestion.texts, mem_cons, mem_cons] at member
  rcases member with rfl | rfl | member
  · exact cleanName
  · exact clean_trim unbrokenStem
  · rcases mem_flatMap.mp member with ⟨answer, isAnswer, inAnswer⟩
    exact clean_readAnswers unbrokenAnswers answer isAnswer text inAnswer

variable {answers : List Answer}

theorem mem_texts_of_readsOption {offered : List (Bool × Text)}
    (each : List.Forall₂ ReadsOption offered answers) {option : Bool × Text}
    (member : option ∈ offered) : option.2 ∈ answers.flatMap Answer.texts := by
  induction each with
  | nil => cases member
  | cons reads _ ih =>
    rw [flatMap_cons, mem_append]
    rcases mem_cons.mp member with rfl | member
    · rcases reads with ⟨_, rfl, _⟩
      exact .inl (mem_singleton_self _)
    · exact .inr (ih member)

theorem Body.texts_subset {body : Body} (reads : body.Reads answers) :
    body.texts ⊆ answers.flatMap Answer.texts := by
  intro text mem
  cases body with
  | options offered =>
    rcases mem_map.mp mem with ⟨option, isOption, rfl⟩
    exact mem_texts_of_readsOption reads isOption
  | weighted offered =>
    rcases mem_map.mp mem with ⟨option, isOption, rfl⟩
    exact mem_texts_of_readsOption reads.1 (mem_map_of_mem (f := MCOption.toPair) isOption)
  | pairs matched =>
    rcases mem_flatMap.mp mem with ⟨pair, isPair, inPair⟩
    rw [reads]
    exact mem_flatMap.mpr ⟨_, mem_map_of_mem isPair, inPair⟩
  | truth value => cases mem
  | empty => cases mem

theorem Item.clean_of_reads {item : Item} {read : ReadQuestion} (reads : item.Reads read)
    (clean : ∀ text ∈ read.texts, Clean text) : ∀ text ∈ item.texts, Clean text := by
  intro text mem
  apply clean
  rw [Item.texts, mem_cons, mem_cons] at mem
  rw [ReadQuestion.texts, mem_cons, mem_cons, reads.name, reads.stem]
  exact mem.imp_right (Or.imp_right fun inBody => Body.texts_subset reads.answers inBody)

end

end OhMyClass.Gift
